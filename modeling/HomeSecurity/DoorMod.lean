import HomeSecurity.DoorUdp
import HomeSecurity.StepperMotor

/-!
# The door module's application

`doorMod.c` and `door_udp_handler.c`: locking, unlocking and asking for the
state, the clean-up on exit, the two ways a state gets reported (after a call,
and from the heartbeat thread), and the handler that answers commands.

Everything a call reads from outside - distances, clocks, what the motor's pins
answer - is in its `Env`; everything it does outside is in its `Call`.
-/

namespace HomeSecurity

open CText StepperMotor

def doorClosedThresholdCm : Int := 10
def stepperLockedPosition : Nat := 180
def stepperUnlockedPosition : Nat := 0

/-- `DoorState_t`. -/
inductive DoorState where
  | locked
  | unlocked
  | opened
  | unknown
deriving DecidableEq

/-- `Door_t`. -/
structure Door where
  state : DoorState
  id : Int
deriving DecidableEq

/-- The `LED_enqueue_*` calls made by `doorMod.c`. -/
inductive LedRequest where
  | lockSuccess
  | lockFailure
  | unlockSuccess
  | unlockFailure
  | statusDoorError
deriving DecidableEq

structure DoorMod where
  udp : DoorUdp
  position : Fin stepsPerRev
  lastKnownDoor : Door
  lastReportTimeMs : Int

/-- What one call reads. -/
structure Env where
  /-- The `get_distance` results of `avgDistanceSample`. -/
  samples : List Int
  /-- The call's own `get_distance`. -/
  distance : Int
  /-- The `get_distance` of `report_door_state_udp`. -/
  report : Int
  writes : Nat → PinWrites
  /-- `now_ms` in `door_udp_update`. -/
  t : Int
  /-- `getTimeInMs` in `update_last_known_state`. -/
  now : Int

/-- What one call does. -/
structure Call where
  mod : DoorMod
  door : Door
  sends : List DoorSend
  leds : List LedRequest
  applied : List StepPattern

/-! ## Reporting -/

namespace DoorMod

/-- The static initial values, with the motor at `pos`. -/
def initial (pos : Fin stepsPerRev) : DoorMod := ⟨.static, pos, ⟨.unknown, 0⟩, 0⟩

/-- `door_reporting_start` with two different ports: the handler is registered
and both report modes are on. `ok` is as in `doorUdpInit2`. -/
def doorReportingStart (s : DoorMod) (moduleId : Text) (heartbeatMs t now : Int) (ok : Bool) :
    DoorMod × List DoorSend :=
  let r := s.udp.doorUdpRegisterCommandHandler.doorUdpInit2 moduleId .both heartbeatMs t ok
  ({ s with udp := r.1, lastReportTimeMs := now }, r.2)

/-- `door_reporting_stop`. -/
def doorReportingStop (s : DoorMod) : DoorMod := { s with udp := s.udp.doorUdpClose }

/-- `update_last_known_state`. -/
def updateLastKnownState (s : DoorMod) (door : Door) (now : Int) : DoorMod :=
  { s with lastKnownDoor := door, lastReportTimeMs := now }

/-- `report_door_state_udp`. -/
def reportDoorStateUdp (s : DoorMod) (door : Door) (env : Env) : DoorMod × List DoorSend :=
  if env.report = -1 then (s, [])
  else
    let d0Open := decide (env.report ≥ doorClosedThresholdCm)
    let d1Locked := decide (getPosition s.position = stepperLockedPosition)
    let r := s.udp.doorUdpUpdate env.t d0Open false false d1Locked
    ({ s with udp := r.1 }.updateLastKnownState door env.now, r.2)

/-- One iteration of `heartbeat_worker`, with the distance it reads. -/
def heartbeatWorker (s : DoorMod) (distance t : Int) : DoorMod × List DoorSend :=
  let d0Open := decide (distance ≥ doorClosedThresholdCm)
  let d1Locked := decide (getPosition s.position = stepperLockedPosition)
  let r := s.udp.doorUdpUpdate t d0Open false false d1Locked
  ({ s with udp := r.1 }, r.2)

end DoorMod

/-! ## Locking, unlocking, asking -/

/-- The average of the valid samples, -1 if there is none. -/
def avgDistanceSample (samples : List Int) : Int :=
  let valid := samples.filter (· ≠ -1)
  if valid.length = 0 then -1 else valid.sum.tdiv valid.length

namespace DoorMod

/-- The end of all three calls: report, and return the door. -/
def reported (s : DoorMod) (door : Door) (env : Env) (leds : List LedRequest)
    (applied : List StepPattern) : Call :=
  let r := s.reportDoorStateUdp door env
  ⟨r.1, door, r.2, leds, applied⟩

/-- `StepperMotor_Rotate` on the module's motor. -/
def turned (s : DoorMod) (r : Rotation) : DoorMod := { s with position := r.position }

def lockDoor (s : DoorMod) (door : Door) (env : Env) : Call :=
  let dist := avgDistanceSample env.samples
  if getPosition s.position = 180 then s.reported door env [] []
  else if dist ≥ doorClosedThresholdCm then
    s.reported { door with state := .opened } env [.lockFailure] []
  else if dist = -1 then
    s.reported { door with state := .unknown } env [.statusDoorError] []
  else if dist < doorClosedThresholdCm then
    let r := rotate s.position 180 env.writes
    if r.ok then
      (s.turned r).reported { door with state := .locked } env [.lockSuccess] r.applied
    else (s.turned r).reported door env [.lockFailure] r.applied
  else s.reported door env [.lockFailure] []

def unlockDoor (s : DoorMod) (door : Door) (env : Env) : Call :=
  if getPosition s.position = 0 then s.reported door env [] []
  else
    let lastWasLocked := s.lastKnownDoor.state = .locked
    if lastWasLocked ∨ getPosition s.position = stepperLockedPosition then
      let r := rotate s.position stepperUnlockedPosition env.writes
      if r.ok then
        (s.turned r).reported { door with state := .unlocked } env [.unlockSuccess] r.applied
      else (s.turned r).reported door env [.unlockFailure] r.applied
    else if env.distance ≥ doorClosedThresholdCm then
      s.reported { door with state := .opened } env [.unlockFailure] []
    else if ¬lastWasLocked then
      s.reported { door with state := .unlocked } env [.unlockSuccess] []
    else s.reported door env [.unlockFailure] []

def getDoorStatus (s : DoorMod) (door : Door) (env : Env) : Call :=
  if getPosition s.position = stepperLockedPosition then
    s.reported { door with state := .locked } env [] []
  else if env.distance < doorClosedThresholdCm ∧ env.distance ≠ -1 then
    s.reported { door with state := .unlocked } env [] []
  else if env.distance = -1 then s.reported door env [.statusDoorError] []
  else if env.distance ≥ doorClosedThresholdCm then
    s.reported { door with state := .opened } env [] []
  else s.reported { door with state := .unknown } env [] []

/-- `doorMod_cleanup`, with the steps its motor takes. -/
def doorModCleanup (s : DoorMod) (writes : Nat → PinWrites) : DoorMod × List StepPattern :=
  if getPosition s.position ≠ 0 then
    let r := rotate s.position 180 writes
    ((s.turned r).doorReportingStop, r.applied)
  else (s.doorReportingStop, [])

end DoorMod

/-! ## The command handler -/

def stateStr : DoorState → Text
  | .locked => "LOCKED".toList
  | .unlocked => "UNLOCKED".toList
  | .opened => "OPEN".toList
  | .unknown => "UNKNOWN".toList

/-- A handled command: what the call did, and the FEEDBACK that answers it. -/
structure Handled where
  call : Call
  feedback : DoorUdp.CmdCall
  feedbackSends : List DoorSend

namespace DoorMod

/-- The state change of `app_command_handler`, with the returned door; a
command that is none of the three changes nothing. -/
def handlerCall (s : DoorMod) (action : Text) (env : Env) : Call :=
  let d : Door := ⟨.unknown, 0⟩
  if action = "LOCK".toList then s.lockDoor d env
  else if action = "UNLOCK".toList then s.unlockDoor d env
  else if action = "STATUS".toList then s.getDoorStatus d env
  else ⟨s, d, [], [], []⟩

/-- `out_action`. -/
def outAction (action : Text) (d : Door) : Text :=
  if action = "STATUS".toList then
    (snprintf 32 ("STATUS_".toList ++ stateStr d.state)).text
  else action

/-- `app_command_handler`. -/
def appCommandHandler (s : DoorMod) (cmd : DoorUdp.CmdCall) (env : Env) : Handled :=
  let call := s.handlerCall cmd.action env
  let feedback := { cmd with action := outAction cmd.action call.door }
  { call, feedback
    feedbackSends :=
      call.mod.udp.doorUdpSendFeedback feedback.module feedback.cmdid feedback.target
        feedback.action }

/-- The FEEDBACK names the command's module, id and target. -/
theorem appCommandHandler_line (s : DoorMod) (cmd : DoorUdp.CmdCall) (env : Env) :
    ∀ send ∈ (s.appCommandHandler cmd env).feedbackSends, ∃ action,
      send.line = snprintf 256 (feedbackLine cmd.module cmd.cmdid cmd.target action) :=
  fun send hmem => ⟨_, DoorUdp.doorUdpSendFeedback_line send hmem⟩

/-! ## What the calls do to the bolt -/

@[simp] theorem reported_position (s : DoorMod) (door : Door) (env : Env)
    (leds : List LedRequest) (applied : List StepPattern) :
    (s.reported door env leds applied).mod.position = s.position := by
  unfold reported reportDoorStateUdp
  split <;> rfl

@[simp] theorem reported_applied (s : DoorMod) (door : Door) (env : Env)
    (leds : List LedRequest) (applied : List StepPattern) :
    (s.reported door env leds applied).applied = applied := rfl

/-- When `lockDoor` rotates the motor. -/
def Locks (s : DoorMod) (env : Env) : Prop :=
  getPosition s.position ≠ 180 ∧ avgDistanceSample env.samples ≠ -1
    ∧ avgDistanceSample env.samples < doorClosedThresholdCm

instance decidableLocks (s : DoorMod) (env : Env) : Decidable (s.Locks env) :=
  inferInstanceAs (Decidable (_ ∧ _))

/-- When `unlockDoor` does. -/
def Unlocks (s : DoorMod) : Prop :=
  getPosition s.position ≠ 0 ∧ (s.lastKnownDoor.state = .locked
    ∨ getPosition s.position = stepperLockedPosition)

instance decidableUnlocks (s : DoorMod) : Decidable s.Unlocks :=
  inferInstanceAs (Decidable (_ ∧ _))

/-- Only a closed door, measured so in this very call, gets its bolt moved. -/
theorem lockDoor_moves (s : DoorMod) (door : Door) (env : Env) :
    (s.lockDoor door env).mod.position
        = (if s.Locks env then (rotate s.position 180 env.writes).position else s.position)
      ∧ (s.lockDoor door env).applied
        = (if s.Locks env then (rotate s.position 180 env.writes).applied else []) := by
  unfold lockDoor
  dsimp only
  by_cases hpos : getPosition s.position = 180
  · have hcond : ¬s.Locks env := fun h => h.1 hpos
    rw [if_pos hpos, if_neg hcond, if_neg hcond]
    exact ⟨reported_position .., rfl⟩
  · rw [if_neg hpos]
    by_cases hopen : avgDistanceSample env.samples ≥ doorClosedThresholdCm
    · have hcond : ¬s.Locks env := fun h => absurd hopen (Int.not_le.mpr h.2.2)
      rw [if_pos hopen, if_neg hcond, if_neg hcond]
      exact ⟨reported_position .., rfl⟩
    · rw [if_neg hopen]
      by_cases herr : avgDistanceSample env.samples = -1
      · have hcond : ¬s.Locks env := fun h => h.2.1 herr
        rw [if_pos herr, if_neg hcond, if_neg hcond]
        exact ⟨reported_position .., rfl⟩
      · have hclosed := Int.not_le.mp hopen
        have hcond : s.Locks env := ⟨hpos, herr, hclosed⟩
        rw [if_neg herr, if_pos hclosed, if_pos hcond, if_pos hcond]
        split <;> exact ⟨reported_position .., rfl⟩

theorem lockDoor_position (s : DoorMod) (door : Door) (env : Env) :
    (s.lockDoor door env).mod.position
      = if getPosition s.position ≠ 180 ∧ avgDistanceSample env.samples ≠ -1
            ∧ avgDistanceSample env.samples < doorClosedThresholdCm then
          (rotate s.position 180 env.writes).position
        else s.position :=
  (s.lockDoor_moves door env).1

theorem unlockDoor_moves (s : DoorMod) (door : Door) (env : Env) :
    (s.unlockDoor door env).mod.position
        = (if s.Unlocks then (rotate s.position stepperUnlockedPosition env.writes).position
          else s.position)
      ∧ (s.unlockDoor door env).applied
        = (if s.Unlocks then (rotate s.position stepperUnlockedPosition env.writes).applied
          else []) := by
  unfold unlockDoor
  dsimp only
  by_cases hpos : getPosition s.position = 0
  · have hcond : ¬s.Unlocks := fun h => h.1 hpos
    rw [if_pos hpos, if_neg hcond, if_neg hcond]
    exact ⟨reported_position .., rfl⟩
  · rw [if_neg hpos]
    by_cases hlocked : s.lastKnownDoor.state = .locked
        ∨ getPosition s.position = stepperLockedPosition
    · have hcond : s.Unlocks := ⟨hpos, hlocked⟩
      rw [if_pos hlocked, if_pos hcond, if_pos hcond]
      split <;> exact ⟨reported_position .., rfl⟩
    · have hcond : ¬s.Unlocks := fun h => hlocked h.2
      rw [if_neg hlocked, if_neg hcond, if_neg hcond]
      split
      · exact ⟨reported_position .., rfl⟩
      · split <;> exact ⟨reported_position .., rfl⟩

theorem unlockDoor_position (s : DoorMod) (door : Door) (env : Env) :
    (s.unlockDoor door env).mod.position
      = if getPosition s.position ≠ 0 ∧ (s.lastKnownDoor.state = .locked
            ∨ getPosition s.position = stepperLockedPosition) then
          (rotate s.position stepperUnlockedPosition env.writes).position
        else s.position :=
  (s.unlockDoor_moves door env).1

/-! ## What the calls report

Each call, whatever it decides, ends in one report; before it only the motor
has moved. -/

section Reported

variable (s : DoorMod) (door : Door) (env : Env)

theorem lockDoor_reported : ∃ pos door' leds applied,
    s.lockDoor door env = { s with position := pos }.reported door' env leds applied := by
  unfold lockDoor
  dsimp only
  repeat' split
  all_goals exact ⟨_, _, _, _, rfl⟩

theorem unlockDoor_reported : ∃ pos door' leds applied,
    s.unlockDoor door env = { s with position := pos }.reported door' env leds applied := by
  unfold unlockDoor
  dsimp only
  repeat' split
  all_goals exact ⟨_, _, _, _, rfl⟩

theorem getDoorStatus_reported : ∃ pos door' leds applied,
    s.getDoorStatus door env = { s with position := pos }.reported door' env leds applied := by
  unfold getDoorStatus
  repeat' split
  all_goals exact ⟨_, _, _, _, rfl⟩

end Reported

theorem reported_updated (s : DoorMod) (door : Door) (env : Env) (leds : List LedRequest)
    (applied : List StepPattern) :
    s.udp.Updated ((s.reported door env leds applied).mod.udp,
      (s.reported door env leds applied).sends) := by
  unfold reported reportDoorStateUdp
  split
  · exact Or.inl rfl
  · exact Or.inr ⟨env.t, _, _, rfl⟩

theorem heartbeatWorker_updated (s : DoorMod) (distance t : Int) :
    s.udp.Updated ((s.heartbeatWorker distance t).1.udp, (s.heartbeatWorker distance t).2) :=
  Or.inr ⟨t, _, _, rfl⟩

theorem handlerCall_updated (s : DoorMod) (action : Text) (env : Env) :
    s.udp.Updated ((s.handlerCall action env).mod.udp, (s.handlerCall action env).sends) := by
  unfold handlerCall
  dsimp only
  split
  · obtain ⟨pos, door', leds, applied, heq⟩ := s.lockDoor_reported ⟨.unknown, 0⟩ env
    rw [heq]
    exact reported_updated { s with position := pos } ..
  · split
    · obtain ⟨pos, door', leds, applied, heq⟩ := s.unlockDoor_reported ⟨.unknown, 0⟩ env
      rw [heq]
      exact reported_updated { s with position := pos } ..
    · split
      · obtain ⟨pos, door', leds, applied, heq⟩ := s.getDoorStatus_reported ⟨.unknown, 0⟩ env
        rw [heq]
        exact reported_updated { s with position := pos } ..
      · exact Or.inl rfl

@[simp] theorem handlerCall_sockOpen (s : DoorMod) (action : Text) (env : Env) :
    (s.handlerCall action env).mod.udp.sockOpen = s.udp.sockOpen :=
  (s.handlerCall_updated action env).config.1

@[simp] theorem getDoorStatus_position (s : DoorMod) (door : Door) (env : Env) :
    (s.getDoorStatus door env).mod.position = s.position := by
  unfold getDoorStatus
  repeat' split
  all_goals exact reported_position ..

end DoorMod

end HomeSecurity
