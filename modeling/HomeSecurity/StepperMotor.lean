import Mathlib.Algebra.Order.Ring.Int
import Mathlib.Data.Fin.Basic
import Mathlib.Tactic.Common

/-!
# The bolt's motor

`StepperMotor.c`: the tracked position in half-steps, and rotation - always
forward, one pin pattern a step, given up at the first pin write that fails.
What the pins answer is an input: `writes k` are the four results of the `k`-th
`set_motor_pins` of the call.

`rotateLoop_spec` says how far a rotation gets; from it, a rotation towards 180
or 0 degrees ends there exactly when none of its writes fails
(`rotate_locked_iff`, `rotate_unlocked_iff`).
-/

namespace HomeSecurity

namespace StepperMotor

abbrev stepsPerRev : Nat := 4096

theorem stepsPerRev_pos : 0 < stepsPerRev := by decide

-- The number of pins, and of half steps.
theorem neZeroPins : NeZero 4 := ⟨Nat.succ_ne_zero 3⟩
theorem neZeroHalfsteps : NeZero 8 := ⟨Nat.succ_ne_zero 7⟩

attribute [local instance] neZeroPins neZeroHalfsteps

/-- The levels written to IN1 .. IN4. -/
structure StepPattern where
  in1 : Bool
  in2 : Bool
  in3 : Bool
  in4 : Bool
deriving DecidableEq

def halfstepSequence : Fin 8 → StepPattern
  | 0 => ⟨true, false, false, false⟩
  | 1 => ⟨true, true, false, false⟩
  | 2 => ⟨false, true, false, false⟩
  | 3 => ⟨false, true, true, false⟩
  | 4 => ⟨false, false, true, false⟩
  | 5 => ⟨false, false, true, true⟩
  | 6 => ⟨false, false, false, true⟩
  | 7 => ⟨true, false, false, true⟩

/-- The results of the four `write_pin_value` calls of one `set_motor_pins`. -/
abbrev PinWrites := Fin 4 → Bool

def setMotorPins (w : PinWrites) : Bool := w 0 && w 1 && w 2 && w 3

structure Rotation where
  ok : Bool
  position : Fin stepsPerRev
  applied : List StepPattern

def advance (pos : Fin stepsPerRev) (j : Nat) : Fin stepsPerRev :=
  ⟨(pos.val + j) % stepsPerRev, Nat.mod_lt _ (by decide)⟩

/-- `StepperMotor_GetPosition`: whole degrees. -/
def getPosition (pos : Fin stepsPerRev) : Nat := pos.val * 360 / stepsPerRev

def targetStepPosition (targetDegrees : Int) : Int := (targetDegrees * stepsPerRev + 180) / 360

def stepsNeeded (pos : Fin stepsPerRev) (targetDegrees : Int) : Nat :=
  ((targetStepPosition targetDegrees - pos.val + stepsPerRev) % stepsPerRev).toNat

/-- The loop of `StepperMotor_Rotate` with `remaining` steps to go, at step
`k` and sequence index `seq`. -/
def rotateLoop (writes : Nat → PinWrites) :
    (remaining k : Nat) → (seq : Fin 8) → Fin stepsPerRev → Rotation
  | 0, _, _, pos => ⟨true, pos, []⟩
  | remaining + 1, k, seq, pos =>
      if setMotorPins (writes k) then
        let r := rotateLoop writes remaining (k + 1) (seq + 1) (pos + 1)
        { r with applied := halfstepSequence seq :: r.applied }
      else ⟨false, pos, []⟩

/-- `StepperMotor_Rotate`. -/
def rotate (pos : Fin stepsPerRev) (targetDegrees : Int) (writes : Nat → PinWrites) :
    Rotation :=
  if targetDegrees < 0 ∨ targetDegrees > 360 then ⟨false, pos, []⟩
  else rotateLoop writes (stepsNeeded pos targetDegrees) 0 0 pos

/-! ## How far a rotation gets -/

/-- The loop takes the `j` steps before the first one whose writes fail, or all
of them. -/
theorem rotateLoop_spec (writes : Nat → PinWrites) (n k : Nat) (seq : Fin 8)
    (pos : Fin stepsPerRev) :
    ∃ j ≤ n, ((rotateLoop writes n k seq pos).position.val = (pos.val + j) % stepsPerRev)
      ∧ ((rotateLoop writes n k seq pos).ok = true ↔ j = n)
      ∧ (∀ i < j, setMotorPins (writes (k + i)) = true)
      ∧ (j < n → setMotorPins (writes (k + j)) = false) := by
  induction n generalizing k seq pos with
  | zero =>
      refine ⟨0, Nat.le_refl 0, ?_, by simp [rotateLoop], ?_, ?_⟩
      · exact (Nat.mod_eq_of_lt pos.isLt).symm
      · exact fun i hi => absurd hi (Nat.not_lt_zero i)
      · exact fun h => absurd h (Nat.lt_irrefl 0)
  | succ n ih =>
      rw [rotateLoop]
      cases hw : setMotorPins (writes k) with
      | false =>
          refine ⟨0, Nat.zero_le _, (Nat.mod_eq_of_lt pos.isLt).symm, by simp, ?_, fun _ => hw⟩
          exact fun i hi => absurd hi (Nat.not_lt_zero i)
      | true =>
          obtain ⟨j, hj, hpos, hok, hdone, hstop⟩ := ih (k + 1) (seq + 1) (pos + 1)
          refine ⟨j + 1, Nat.succ_le_succ hj, ?_, ?_, ?_, ?_⟩
          · have hnext : (pos + 1).val = (pos.val + 1) % stepsPerRev := Fin.val_add pos 1
            rw [if_pos rfl, hpos, hnext, Nat.mod_add_mod, Nat.add_assoc, Nat.add_comm 1 j]
          · rw [if_pos rfl]
            exact hok.trans Nat.succ_inj.symm
          · intro i hi
            cases i with
            | zero => exact hw
            | succ i =>
                have := hdone i (Nat.lt_of_succ_lt_succ hi)
                rwa [Nat.add_assoc, Nat.add_comm 1 i] at this
          · intro hlt
            have := hstop (Nat.lt_of_succ_lt_succ hlt)
            rwa [Nat.add_assoc, Nat.add_comm 1 j] at this

/-- Every pattern applied is a step forward. -/
theorem rotateLoop_moved (writes : Nat → PinWrites) (n k : Nat) (seq : Fin 8)
    (pos : Fin stepsPerRev) :
    (rotateLoop writes n k seq pos).applied.length ≤ n ∧
      (rotateLoop writes n k seq pos).position.val
        = (pos.val + (rotateLoop writes n k seq pos).applied.length) % stepsPerRev := by
  induction n generalizing k seq pos with
  | zero => exact ⟨Nat.le_refl 0, (Nat.mod_eq_of_lt pos.isLt).symm⟩
  | succ n ih =>
      rw [rotateLoop]
      split
      · obtain ⟨hle, hpos⟩ := ih (k + 1) (seq + 1) (pos + 1)
        have hnext : (pos + 1).val = (pos.val + 1) % stepsPerRev := Fin.val_add pos 1
        refine ⟨Nat.succ_le_succ hle, ?_⟩
        rw [hpos, hnext, Nat.mod_add_mod, Nat.add_assoc, Nat.add_comm 1]
        rfl
      · exact ⟨Nat.zero_le _, (Nat.mod_eq_of_lt pos.isLt).symm⟩

theorem rotateLoop_applied_eq_nil_iff (writes : Nat → PinWrites) (n k : Nat) (seq : Fin 8)
    (pos : Fin stepsPerRev) :
    (rotateLoop writes n k seq pos).applied = [] ↔ n = 0 ∨ setMotorPins (writes k) = false := by
  cases n with
  | zero => simp [rotateLoop]
  | succ n =>
      rw [rotateLoop]
      cases setMotorPins (writes k) <;> simp

/-- No pin write of a rotation from `pos` to `targetDegrees` fails. -/
def WritesSucceed (pos : Fin stepsPerRev) (targetDegrees : Int) (writes : Nat → PinWrites) :
    Prop :=
  ∀ k < stepsNeeded pos targetDegrees, setMotorPins (writes k) = true

/-- A rotation to a valid target stops after `j` of its steps, all of them
exactly when no write fails. -/
theorem rotate_spec (pos : Fin stepsPerRev) (targetDegrees : Int)
    (hlo : 0 ≤ targetDegrees) (hhi : targetDegrees ≤ 360) (writes : Nat → PinWrites) :
    ∃ j ≤ stepsNeeded pos targetDegrees,
      ((rotate pos targetDegrees writes).position.val = (pos.val + j) % stepsPerRev)
      ∧ ((rotate pos targetDegrees writes).ok = true ↔ j = stepsNeeded pos targetDegrees)
      ∧ (j = stepsNeeded pos targetDegrees ↔ WritesSucceed pos targetDegrees writes) := by
  have hrange : ¬(targetDegrees < 0 ∨ targetDegrees > 360) := by omega
  obtain ⟨j, hj, hpos, hok, hdone, hstop⟩ :=
    rotateLoop_spec writes (stepsNeeded pos targetDegrees) 0 0 pos
  rw [rotate, if_neg hrange]
  refine ⟨j, hj, hpos, hok, ?_⟩
  constructor
  · intro hall k hk
    have := hdone k (by omega)
    rwa [Nat.zero_add] at this
  · intro hall
    by_contra hne
    have hlt : j < stepsNeeded pos targetDegrees := Nat.lt_of_le_of_ne hj hne
    have hfail := hstop hlt
    rw [Nat.zero_add, hall j hlt] at hfail
    cases hfail

/-! ## The two positions of the bolt -/

theorem getPosition_eq_180_iff (pos : Fin stepsPerRev) :
    getPosition pos = 180 ↔ 2048 ≤ pos.val ∧ pos.val ≤ 2059 := by
  unfold getPosition stepsPerRev
  omega

theorem getPosition_eq_0_iff (pos : Fin stepsPerRev) :
    getPosition pos = 0 ↔ pos.val ≤ 11 := by
  unfold getPosition stepsPerRev
  omega

theorem stepsNeeded_180 (pos : Fin stepsPerRev) :
    stepsNeeded pos 180 = (2048 + stepsPerRev - pos.val) % stepsPerRev := by
  have hlt := pos.isLt
  unfold stepsNeeded targetStepPosition stepsPerRev at *
  omega

theorem stepsNeeded_0 (pos : Fin stepsPerRev) :
    stepsNeeded pos 0 = (stepsPerRev - pos.val) % stepsPerRev := by
  have hlt := pos.isLt
  unfold stepsNeeded targetStepPosition stepsPerRev at *
  omega

/-- From anywhere else, a rotation to 180 degrees ends at 180 exactly when no
write fails: on the way the tracked position never reads 180. -/
theorem rotate_locked_iff {pos : Fin stepsPerRev} (hpos : getPosition pos ≠ 180)
    (writes : Nat → PinWrites) :
    getPosition (rotate pos 180 writes).position = 180 ↔ WritesSucceed pos 180 writes := by
  obtain ⟨j, hj, hend, -, hall⟩ := rotate_spec pos 180 (by decide) (by decide) writes
  rw [← hall, getPosition_eq_180_iff, hend]
  rw [Ne, getPosition_eq_180_iff] at hpos
  have hlt := pos.isLt
  rw [stepsNeeded_180] at hj ⊢
  unfold stepsPerRev at *
  omega

theorem rotate_unlocked_iff {pos : Fin stepsPerRev} (hpos : getPosition pos ≠ 0)
    (writes : Nat → PinWrites) :
    getPosition (rotate pos 0 writes).position = 0 ↔ WritesSucceed pos 0 writes := by
  obtain ⟨j, hj, hend, -, hall⟩ := rotate_spec pos 0 (by decide) (by decide) writes
  rw [← hall, getPosition_eq_0_iff, hend]
  rw [Ne, getPosition_eq_0_iff] at hpos
  have hlt := pos.isLt
  rw [stepsNeeded_0] at hj ⊢
  unfold stepsPerRev at *
  omega

end StepperMotor

end HomeSecurity
