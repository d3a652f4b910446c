import HomeSecurity.DoorMod
import HomeSecurity.Lts

/-!
# When the bolt is driven

Two calls rotate the motor to 180 degrees. `lockDoor` does after measuring a
closed door; `doorMod_cleanup`, whose comment says that it unlocks the door,
does without measuring anything. The motor only turns forward, so a rotation
back to 0 that starts short of 180 degrees passes them on its way.

`boltSafety_iff` names the sequences of calls in which no step towards 180
degrees is taken without a closed door measured in the same call, and every
clean-up that can leaves the bolt unlocked: once for the steps of rotations
to 180, once for all steps that bring the bolt closer to it.
-/

namespace HomeSecurity

open CText StepperMotor

namespace BoltSafety

inductive Op where
  | lockDoor (door : Door) (env : Env)
  | unlockDoor (door : Door) (env : Env)
  | getDoorStatus (door : Door) (env : Env)
  | doorModCleanup (writes : Nat → PinWrites)

def Op.after (s : DoorMod) : Op → DoorMod
  | .lockDoor door env => (s.lockDoor door env).mod
  | .unlockDoor door env => (s.unlockDoor door env).mod
  | .getDoorStatus door env => (s.getDoorStatus door env).mod
  | .doorModCleanup writes => (s.doorModCleanup writes).1

/-- A step of the motor: where the rotation it belongs to is to end, in degrees,
and where the motor stands before it, in steps. -/
structure MotorStep where
  target : Int
  pos : Nat

/-- The steps of a rotation from `pos` that applied `applied`. -/
def stepsTaken (target : Int) (pos : Fin stepsPerRev) (applied : List StepPattern) :
    List MotorStep :=
  (List.range applied.length).map fun i => ⟨target, (pos.val + i) % stepsPerRev⟩

/-- The steps a call takes; `get_door_status` never rotates the motor. -/
def Op.steps (s : DoorMod) : Op → List MotorStep
  | .lockDoor door env => stepsTaken 180 s.position (s.lockDoor door env).applied
  | .unlockDoor door env =>
      stepsTaken stepperUnlockedPosition s.position (s.unlockDoor door env).applied
  | .getDoorStatus _ _ => []
  | .doorModCleanup writes => stepsTaken 180 s.position (s.doorModCleanup writes).2

/-- The call obtains a valid averaged distance below the threshold. -/
def Op.MeasuresClosed : Op → Prop
  | .lockDoor _ env =>
      avgDistanceSample env.samples ≠ -1 ∧ avgDistanceSample env.samples < doorClosedThresholdCm
  | _ => False

/-- Every pin write that the call makes succeeds, if it is a clean-up. -/
def Op.CleansUp (s : DoorMod) : Op → Prop
  | .doorModCleanup writes => getPosition s.position ≠ 0 → WritesSucceed s.position 180 writes
  | _ => False

/-- A step of a rotation to 180 degrees. -/
def ToLocked (m : MotorStep) : Prop := m.target = 180

/-- A step of such a rotation, or any other that is taken short of 180 degrees. -/
def NearsLocked (m : MotorStep) : Prop := ToLocked m ∨ (m.pos : Int) < targetStepPosition 180

/-- What is promised of a call made in state `s`. -/
structure Kept (towards : MotorStep → Prop) (s : DoorMod) (op : Op) : Prop where
  measured : (∃ m ∈ op.steps s, towards m) → op.MeasuresClosed
  unlocked : op.CleansUp s → getPosition (op.after s).position = stepperUnlockedPosition

def step (s : DoorMod) (op : Op) : Option DoorMod := some (op.after s)

/-- A clean-up finds the bolt unlocked, or its very first step fails. -/
def CleanupHarmless (s : DoorMod) : Op → Prop
  | .doorModCleanup writes =>
      getPosition s.position = 0
        ∨ stepsNeeded s.position 180 ≠ 0 ∧ setMotorPins (writes 0) = false
  | _ => True

/-- An unlocking rotation starts at 180 degrees or past them, or its very first
step fails. -/
def UnlockHarmless (s : DoorMod) : Op → Prop
  | .unlockDoor _ env =>
      s.Unlocks → (s.position.val : Int) < targetStepPosition 180 →
        setMotorPins (env.writes 0) = false
  | _ => True

/-! ## The steps of a call -/

theorem stepsTaken_eq_nil_iff (target : Int) (pos : Fin stepsPerRev)
    (applied : List StepPattern) : stepsTaken target pos applied = [] ↔ applied = [] := by
  simp [stepsTaken]

theorem mem_stepsTaken {target : Int} {pos : Fin stepsPerRev} {applied : List StepPattern}
    {m : MotorStep} (hm : m ∈ stepsTaken target pos applied) :
    m.target = target ∧ ∃ i < applied.length, m.pos = (pos.val + i) % stepsPerRev := by
  obtain ⟨i, hi, rfl⟩ := List.mem_map.mp hm
  exact ⟨rfl, i, List.mem_range.mp hi, rfl⟩

/-- Every step of a rotation to 180 degrees counts. -/
theorem exists_toLocked_iff {towards : MotorStep → Prop} (hto : ∀ m, ToLocked m → towards m)
    (pos : Fin stepsPerRev) (applied : List StepPattern) :
    (∃ m ∈ stepsTaken 180 pos applied, towards m) ↔ applied ≠ [] := by
  rw [Ne, ← stepsTaken_eq_nil_iff 180 pos]
  constructor
  · rintro ⟨m, hm, -⟩ hnil
    rw [hnil] at hm
    cases hm
  · intro hne
    obtain ⟨m, hm⟩ := List.exists_mem_of_ne_nil _ hne
    exact ⟨m, hm, hto m (mem_stepsTaken hm).1⟩

theorem rotate_applied_eq_nil_iff (pos : Fin stepsPerRev) {targetDegrees : Int}
    (hlo : 0 ≤ targetDegrees) (hhi : targetDegrees ≤ 360) (writes : Nat → PinWrites) :
    (rotate pos targetDegrees writes).applied = [] ↔
      stepsNeeded pos targetDegrees = 0 ∨ setMotorPins (writes 0) = false := by
  have hrange : ¬(targetDegrees < 0 ∨ targetDegrees > 360) := by omega
  rw [rotate, if_neg hrange, rotateLoop_applied_eq_nil_iff]

theorem rotate_position_of_needed {pos : Fin stepsPerRev} {targetDegrees : Int}
    (hneeded : stepsNeeded pos targetDegrees = 0) (writes : Nat → PinWrites) :
    (rotate pos targetDegrees writes).position = pos := by
  rw [rotate, hneeded]
  split <;> rfl

theorem rotate_applied_length_le (pos : Fin stepsPerRev) {targetDegrees : Int}
    (hlo : 0 ≤ targetDegrees) (hhi : targetDegrees ≤ 360) (writes : Nat → PinWrites) :
    (rotate pos targetDegrees writes).applied.length ≤ stepsNeeded pos targetDegrees := by
  have hrange : ¬(targetDegrees < 0 ∨ targetDegrees > 360) := by omega
  rw [rotate, if_neg hrange]
  exact (rotateLoop_moved ..).1

/-! ## Call by call -/

variable {towards : MotorStep → Prop}

theorem kept_lockDoor (hto : ∀ m, ToLocked m → towards m) (s : DoorMod) (door : Door)
    (env : Env) : Kept towards s (.lockDoor door env) := by
  refine ⟨fun hstep => ?_, False.elim⟩
  have happlied := (exists_toLocked_iff hto _ _).mp hstep
  rw [(s.lockDoor_moves door env).2] at happlied
  split at happlied
  · rename_i hlocks
    exact hlocks.2
  · exact absurd rfl happlied

theorem kept_getDoorStatus (s : DoorMod) (door : Door) (env : Env) :
    Kept towards s (.getDoorStatus door env) :=
  ⟨fun ⟨_, hm, _⟩ => absurd hm List.not_mem_nil, False.elim⟩

/-- A clean-up measures nothing, so it may take no step; one that need not take
any, 180 degrees being where it stands, leaves the bolt locked. -/
theorem kept_cleanup_iff (hto : ∀ m, ToLocked m → towards m) (s : DoorMod)
    (writes : Nat → PinWrites) :
    Kept towards s (.doorModCleanup writes) ↔ CleanupHarmless s (.doorModCleanup writes) := by
  have hsteps : (∃ m ∈ Op.steps s (.doorModCleanup writes), towards m) ↔
      getPosition s.position ≠ 0 ∧
        ¬(stepsNeeded s.position 180 = 0 ∨ setMotorPins (writes 0) = false) := by
    rw [← rotate_applied_eq_nil_iff _ (by decide) (by decide), Op.steps,
      exists_toLocked_iff hto, DoorMod.doorModCleanup]
    split
    · rename_i hpos
      exact ⟨fun h => ⟨hpos, h⟩, fun h => h.2⟩
    · rename_i hpos
      exact ⟨fun h => absurd rfl h, fun h => absurd h.1 hpos⟩
  by_cases hpos : getPosition s.position = 0
  · have hkept : Kept towards s (.doorModCleanup writes) := by
      refine ⟨fun hstep => absurd hpos (hsteps.mp hstep).1, fun _ => ?_⟩
      rw [Op.after, DoorMod.doorModCleanup, if_neg (not_not.mpr hpos)]
      exact hpos
    exact ⟨fun _ => Or.inl hpos, fun _ => hkept⟩
  · constructor
    · intro h
      have hstay : stepsNeeded s.position 180 = 0 ∨ setMotorPins (writes 0) = false := by
        by_contra hgo
        exact h.measured (hsteps.mpr ⟨hpos, hgo⟩)
      -- with nothing to write, the bolt would stay where it is
      have hneeded : stepsNeeded s.position 180 ≠ 0 := by
        intro hzero
        have hend := h.unlocked fun _ k hk => by rw [hzero] at hk; cases hk
        rw [Op.after, DoorMod.doorModCleanup, if_pos hpos] at hend
        change getPosition (rotate s.position 180 writes).position = 0 at hend
        rw [rotate_position_of_needed hzero] at hend
        exact hpos hend
      exact Or.inr ⟨hneeded, hstay.resolve_left hneeded⟩
    · rintro (h | ⟨hneeded, hfail⟩)
      · exact absurd h hpos
      · refine ⟨fun hstep => absurd (Or.inr hfail) (hsteps.mp hstep).2, fun hsucceed => ?_⟩
        have hwrite := hsucceed hpos 0 (Nat.pos_of_ne_zero hneeded)
        rw [hfail] at hwrite
        cases hwrite

theorem kept_unlockDoor_toLocked (s : DoorMod) (door : Door) (env : Env) :
    Kept ToLocked s (.unlockDoor door env) := by
  refine ⟨fun ⟨m, hm, hto⟩ => ?_, False.elim⟩
  rw [ToLocked, (mem_stepsTaken hm).1] at hto
  exact absurd hto (by decide)

/-- A rotation back to 0 degrees stands still only where its first write fails. -/
theorem rotate_0_applied_eq_nil_iff {pos : Fin stepsPerRev} (hpos : getPosition pos ≠ 0)
    (writes : Nat → PinWrites) :
    (rotate pos 0 writes).applied = [] ↔ setMotorPins (writes 0) = false := by
  have hneeded : stepsNeeded pos 0 ≠ 0 := by
    have hlt := pos.isLt
    rw [Ne, getPosition_eq_0_iff] at hpos
    rw [stepsNeeded_0]
    unfold stepsPerRev at *
    omega
  rw [rotate_applied_eq_nil_iff pos (by decide) (by decide)]
  exact or_iff_right hneeded

/-- From 180 degrees on, a rotation back to 0 only leads away from them. -/
theorem rotate_0_past {pos : Fin stepsPerRev} (hpast : ¬(pos.val : Int) < targetStepPosition 180)
    {writes : Nat → PinWrites} {i : Nat} (hi : i < (rotate pos 0 writes).applied.length) :
    ¬(((pos.val + i) % stepsPerRev : Nat) : Int) < targetStepPosition 180 := by
  have hlen := rotate_applied_length_le pos (by decide : (0 : Int) ≤ 0) (by decide) writes
  have hlt := pos.isLt
  have hlocked : targetStepPosition 180 = 2048 := by decide
  rw [stepsNeeded_0] at hlen
  rw [hlocked] at hpast ⊢
  unfold stepsPerRev at *
  omega

/-- From short of 180 degrees an unlocking rotation starts towards them; from
there on it only leads away. -/
theorem kept_unlockDoor_iff (s : DoorMod) (door : Door) (env : Env) :
    Kept NearsLocked s (.unlockDoor door env) ↔ UnlockHarmless s (.unlockDoor door env) := by
  have hsteps : Op.steps s (.unlockDoor door env) = stepsTaken 0 s.position
      (if s.Unlocks then (rotate s.position 0 env.writes).applied else []) :=
    congrArg (stepsTaken 0 s.position) (s.unlockDoor_moves door env).2
  constructor
  · intro h hunlocks hshort
    by_contra hgo
    have hne : (rotate s.position 0 env.writes).applied ≠ [] :=
      fun hnil => hgo ((rotate_0_applied_eq_nil_iff hunlocks.1 env.writes).mp hnil)
    refine h.measured ⟨⟨0, s.position⟩, ?_, Or.inr hshort⟩
    rw [hsteps, if_pos hunlocks]
    refine List.mem_map.mpr ⟨0, List.mem_range.mpr (List.length_pos_iff.mpr hne), ?_⟩
    rw [Nat.add_zero, Nat.mod_eq_of_lt s.position.isLt]
  · intro h
    refine ⟨fun ⟨m, hm, hnear⟩ => ?_, False.elim⟩
    rw [hsteps] at hm
    obtain ⟨htarget, i, hi, hpos⟩ := mem_stepsTaken hm
    rcases hnear with hto | hshort
    · rw [ToLocked, htarget] at hto
      exact absurd hto (by decide)
    · split at hi
      · rename_i hunlocks
        rw [hpos] at hshort
        have hstart : (s.position.val : Int) < targetStepPosition 180 := by
          by_contra hpast
          exact rotate_0_past hpast hi hshort
        have hnil := (rotate_0_applied_eq_nil_iff hunlocks.1 env.writes).mpr (h hunlocks hstart)
        rw [hnil] at hi
        exact absurd hi (Nat.not_lt_zero i)
      · exact absurd hi (Nat.not_lt_zero i)

/-! ## Whole runs -/

theorem kept_toLocked_iff (s : DoorMod) (op : Op) :
    Kept ToLocked s op ↔ CleanupHarmless s op := by
  cases op with
  | lockDoor door env => exact iff_of_true (kept_lockDoor (fun _ h => h) s door env) trivial
  | unlockDoor door env => exact iff_of_true (kept_unlockDoor_toLocked s door env) trivial
  | getDoorStatus door env => exact iff_of_true (kept_getDoorStatus s door env) trivial
  | doorModCleanup writes => exact kept_cleanup_iff (fun _ h => h) s writes

theorem kept_nearsLocked_iff (s : DoorMod) (op : Op) :
    Kept NearsLocked s op ↔ CleanupHarmless s op ∧ UnlockHarmless s op := by
  cases op with
  | lockDoor door env =>
      exact iff_of_true (kept_lockDoor (fun _ => Or.inl) s door env) ⟨trivial, trivial⟩
  | unlockDoor door env =>
      exact (kept_unlockDoor_iff s door env).trans ⟨fun h => ⟨trivial, h⟩, fun h => h.2⟩
  | getDoorStatus door env =>
      exact iff_of_true (kept_getDoorStatus s door env) ⟨trivial, trivial⟩
  | doorModCleanup writes =>
      exact (kept_cleanup_iff (fun _ => Or.inl) s writes).trans
        ⟨fun h => ⟨h, trivial⟩, fun h => h.1⟩

/-- The bolt is safe along a sequence of calls exactly when every clean-up finds
it unlocked already (or cannot take its first step); with the steps of unlocking
rotations counted as well, these must in addition not start short of 180 degrees. -/
theorem boltSafety_iff (s : DoorMod) (ops : List Op) :
    (Lts.Along step (Kept ToLocked) s ops ↔ Lts.Along step CleanupHarmless s ops)
      ∧ (Lts.Along step (Kept NearsLocked) s ops ↔
        Lts.Along step (fun s op => CleanupHarmless s op ∧ UnlockHarmless s op) s ops) := by
  have hto : Kept ToLocked = CleanupHarmless :=
    funext fun s => funext fun op => propext (kept_toLocked_iff s op)
  have hnears : Kept NearsLocked = fun s op => CleanupHarmless s op ∧ UnlockHarmless s op :=
    funext fun s => funext fun op => propext (kept_nearsLocked_iff s op)
  rw [hto, hnears]
  exact ⟨Iff.rfl, Iff.rfl⟩

/-- A locking rotation that stops at its twelfth step leaves the motor at 1 degree;
the clean-up then drives the bolt on to 180 without a measurement. -/
theorem boltSafety_cleanup : ¬∀ ops : List Op,
    Lts.Along step (Kept ToLocked) (DoorMod.initial 0) ops := by
  intro hall
  have hrun := hall [.lockDoor ⟨.unknown, 0⟩ ⟨[5], 5, 5, fun k _ => k < 12, 7, 7⟩,
    .doorModCleanup fun _ _ => true]
  have hcleanup := (kept_toLocked_iff _ _).mp (hrun.2 _ rfl).1
  rcases hcleanup with hzero | ⟨-, hfail⟩
  · exact absurd hzero (by decide)
  · cases hfail

end BoltSafety

end HomeSecurity
