import HomeSecurity.DoorMod

/-!
# What a LOCK or UNLOCK report says about the bolt

`app_command_handler` answers a LOCK with a FEEDBACK whose action is `LOCK` -
what both the hub and the web server take for success - whatever `lockDoor`
returned. `boltReport_iff` says for which positions, readings and pin results
that answer is nevertheless true.
-/

namespace HomeSecurity

open CText StepperMotor

/-- The answer says that `action` is done. -/
def Handled.Reports (r : Handled) (action : Text) : Prop :=
  r.feedback.action = action ∧ r.feedbackSends ≠ []

/-- A success report for LOCK or UNLOCK means the bolt is there. -/
structure Handled.Truthful (r : Handled) : Prop where
  lock : r.Reports "LOCK".toList → getPosition r.call.mod.position = 180
  unlock : r.Reports "UNLOCK".toList → getPosition r.call.mod.position = 0

/-- The bolt is at 180 degrees already, or the door was measured closed and no
pin write fails on the way there. -/
def Lockable (s : DoorMod) (env : Env) : Prop :=
  getPosition s.position = 180 ∨
    (avgDistanceSample env.samples ≠ -1 ∧ avgDistanceSample env.samples < doorClosedThresholdCm)
      ∧ WritesSucceed s.position 180 env.writes

/-- The bolt is at 0 degrees already, or it is known to be locked and no pin
write fails on the way back. -/
def Unlockable (s : DoorMod) (env : Env) : Prop :=
  getPosition s.position = 0 ∨
    (s.lastKnownDoor.state = .locked ∨ getPosition s.position = stepperLockedPosition)
      ∧ WritesSucceed s.position 0 env.writes

namespace DoorMod

theorem lockDoor_locked_iff (s : DoorMod) (door : Door) (env : Env) :
    getPosition (s.lockDoor door env).mod.position = 180 ↔ Lockable s env := by
  rw [lockDoor_position, Lockable]
  by_cases hpos : getPosition s.position = 180
  · have hstay : ¬(getPosition s.position ≠ 180 ∧ avgDistanceSample env.samples ≠ -1
        ∧ avgDistanceSample env.samples < doorClosedThresholdCm) := fun h => h.1 hpos
    rw [if_neg hstay]
    exact ⟨fun _ => Or.inl hpos, fun _ => hpos⟩
  · by_cases hclosed : avgDistanceSample env.samples ≠ -1
        ∧ avgDistanceSample env.samples < doorClosedThresholdCm
    · rw [if_pos ⟨hpos, hclosed⟩, rotate_locked_iff hpos]
      exact ⟨fun h => Or.inr ⟨hclosed, h⟩, fun h => (h.resolve_left hpos).2⟩
    · have hstay : ¬(getPosition s.position ≠ 180 ∧ avgDistanceSample env.samples ≠ -1
          ∧ avgDistanceSample env.samples < doorClosedThresholdCm) := fun h => hclosed h.2
      rw [if_neg hstay]
      exact ⟨fun h => absurd h hpos, fun h => absurd (h.resolve_left hpos).1 hclosed⟩

theorem unlockDoor_unlocked_iff (s : DoorMod) (door : Door) (env : Env) :
    getPosition (s.unlockDoor door env).mod.position = 0 ↔ Unlockable s env := by
  rw [unlockDoor_position, Unlockable]
  by_cases hpos : getPosition s.position = 0
  · have hstay : ¬(getPosition s.position ≠ 0 ∧ (s.lastKnownDoor.state = .locked
        ∨ getPosition s.position = stepperLockedPosition)) := fun h => h.1 hpos
    rw [if_neg hstay]
    exact ⟨fun _ => Or.inl hpos, fun _ => hpos⟩
  · by_cases hlocked : s.lastKnownDoor.state = .locked
        ∨ getPosition s.position = stepperLockedPosition
    · have hturn : getPosition s.position ≠ 0 ∧ (s.lastKnownDoor.state = .locked
          ∨ getPosition s.position = stepperLockedPosition) := ⟨hpos, hlocked⟩
      rw [if_pos hturn]
      exact (rotate_unlocked_iff hpos env.writes).trans
        ⟨fun h => Or.inr ⟨hlocked, h⟩, fun h => (h.resolve_left hpos).2⟩
    · have hstay : ¬(getPosition s.position ≠ 0 ∧ (s.lastKnownDoor.state = .locked
          ∨ getPosition s.position = stepperLockedPosition)) := fun h => hlocked h.2
      rw [if_neg hstay]
      exact ⟨fun h => absurd h hpos, fun h => absurd (h.resolve_left hpos).1 hlocked⟩

/-- A STATUS answer names a state, never an action. -/
theorem outAction_eq_iff (action : Text) (d : Door) {a : Text}
    (ha : a = "LOCK".toList ∨ a = "UNLOCK".toList) : outAction action d = a ↔ action = a := by
  unfold outAction
  split
  · rename_i hstatus
    subst hstatus
    rcases ha with rfl | rfl <;> cases d.state <;> decide
  · exact Iff.rfl

theorem reports_iff (s : DoorMod) (cmd : DoorUdp.CmdCall) (env : Env) {a : Text}
    (ha : a = "LOCK".toList ∨ a = "UNLOCK".toList) :
    (s.appCommandHandler cmd env).Reports a ↔ cmd.action = a ∧ s.udp.sockOpen = true := by
  have hsends : (s.appCommandHandler cmd env).feedbackSends ≠ [] ↔ s.udp.sockOpen = true := by
    simp only [appCommandHandler, DoorUdp.doorUdpSendFeedback, DoorUdp.sendLineNotif,
      handlerCall_sockOpen]
    cases s.udp.sockOpen <;> simp
  have haction : (s.appCommandHandler cmd env).feedback.action = a ↔ cmd.action = a :=
    outAction_eq_iff cmd.action _ ha
  rw [Handled.Reports, hsends, haction]

/-- The answer to a command is true exactly when a LOCK finds the door lockable
and an UNLOCK finds it unlockable (with the socket closed there is no answer). -/
theorem boltReport_iff (s : DoorMod) (cmd : DoorUdp.CmdCall) (env : Env) :
    (s.appCommandHandler cmd env).Truthful ↔
      (s.udp.sockOpen = true →
        (cmd.action = "LOCK".toList → Lockable s env)
          ∧ (cmd.action = "UNLOCK".toList → Unlockable s env)) := by
  have hlock : cmd.action = "LOCK".toList →
      (getPosition (s.appCommandHandler cmd env).call.mod.position = 180 ↔ Lockable s env) := by
    intro haction
    rw [appCommandHandler, handlerCall, if_pos haction]
    exact s.lockDoor_locked_iff _ env
  have hunlock : cmd.action = "UNLOCK".toList →
      (getPosition (s.appCommandHandler cmd env).call.mod.position = 0 ↔ Unlockable s env) := by
    intro haction
    have hne : cmd.action ≠ "LOCK".toList := by
      rw [haction]
      decide
    rw [appCommandHandler, handlerCall, if_neg hne, if_pos haction]
    exact s.unlockDoor_unlocked_iff _ env
  constructor
  · intro htruth hsock
    refine ⟨fun haction => ?_, fun haction => ?_⟩
    · exact (hlock haction).mp (htruth.lock ((s.reports_iff cmd env (Or.inl rfl)).mpr
        ⟨haction, hsock⟩))
    · exact (hunlock haction).mp (htruth.unlock ((s.reports_iff cmd env (Or.inr rfl)).mpr
        ⟨haction, hsock⟩))
  · intro hcond
    refine ⟨fun hrep => ?_, fun hrep => ?_⟩
    · obtain ⟨haction, hsock⟩ := (s.reports_iff cmd env (Or.inl rfl)).mp hrep
      exact (hlock haction).mpr ((hcond hsock).1 haction)
    · obtain ⟨haction, hsock⟩ := (s.reports_iff cmd env (Or.inr rfl)).mp hrep
      exact (hunlock haction).mpr ((hcond hsock).2 haction)

/-- LOCK with the door standing open at 50 cm is answered by FEEDBACK LOCK. -/
theorem boltReport_openDoor :
    ¬∀ (s : DoorMod) (cmd : DoorUdp.CmdCall) (env : Env),
      (s.appCommandHandler cmd env).Truthful := by
  intro hall
  have htruth := (hall ((initial 0).doorReportingStart "D1".toList 1000 0 0 true).1
    ⟨"D1".toList, 1, "D0".toList, "LOCK".toList⟩
    ⟨[50], 50, 50, fun _ _ => true, 7, 7⟩).lock ⟨rfl, by decide⟩
  revert htruth
  decide

end DoorMod

end HomeSecurity
