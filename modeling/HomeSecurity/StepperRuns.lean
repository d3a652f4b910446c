import HomeSecurity.CyclicRun
import HomeSecurity.StepperMotor
import HomeSecurity.Lts

/-!
# Runs of the motor

`StepperMotor.c` over any sequence of calls. `Motor` counts in the C `int` that the
source counts in; as long as it lies in `0 .. STEPS_PER_REV - 1`, which every call
preserves, a rotation is the one of `StepperMotor.lean` (`stepperMotorRotate_eq`).
`rotate_eq` says in one equation what a rotation does: it takes the steps before
the first pin write that fails, and the patterns it applies are a walk round
`halfstep_sequence` from its start.

From its start: every call begins with the first pattern, wherever the last one
stopped. So the patterns of successive calls make up one walk exactly when each
call that takes a step begins a whole number of eight steps away from the first
(`coilPhase_iff`).
-/

namespace HomeSecurity

open CyclicRun

attribute [local instance] StepperMotor.neZeroHalfsteps

namespace StepperMotor

/-! ## What a rotation does -/

/-- How many of `n` steps from the `k`-th on succeed before one fails. -/
def stepsDone (writes : Nat → PinWrites) : (n k : Nat) → Nat
  | 0, _ => 0
  | n + 1, k => if setMotorPins (writes k) then stepsDone writes n (k + 1) + 1 else 0

theorem stepsDone_ok {writes : Nat → PinWrites} {n k i : Nat} (hi : i < stepsDone writes n k) :
    setMotorPins (writes (k + i)) = true := by
  induction n generalizing k i with
  | zero => exact absurd hi (Nat.not_lt_zero i)
  | succ n ih =>
      rw [stepsDone] at hi
      split at hi
      · rename_i hw
        cases i with
        | zero => exact hw
        | succ i =>
            have hnext := ih (k := k + 1) (i := i) (by omega)
            rwa [show k + 1 + i = k + (i + 1) by omega] at hnext
      · exact absurd hi (Nat.not_lt_zero i)

/-- A step was missed exactly where a write failed. -/
theorem stepsDone_fails {writes : Nat → PinWrites} {n k : Nat} (hlt : stepsDone writes n k < n) :
    setMotorPins (writes (k + stepsDone writes n k)) = false := by
  induction n generalizing k with
  | zero => exact absurd hlt (Nat.not_lt_zero _)
  | succ n ih =>
      rw [stepsDone] at hlt ⊢
      split at hlt
      · rename_i hw
        rw [if_pos hw]
        have hnext := ih (k := k + 1) (by omega)
        rwa [show k + 1 + stepsDone writes n (k + 1) = k + (stepsDone writes n (k + 1) + 1)
          by omega] at hnext
      · rename_i hw
        rw [if_neg hw]
        simpa using hw

/-- Where the first failing write is, there the steps end. -/
theorem stepsDone_of_first_failure {writes : Nat → PinWrites} {n k j : Nat} (hj : j < n)
    (hok : ∀ i < j, setMotorPins (writes (k + i)) = true)
    (hfail : setMotorPins (writes (k + j)) = false) : stepsDone writes n k = j := by
  rcases Nat.lt_trichotomy (stepsDone writes n k) j with hlt | heq | hgt
  · have hstop := stepsDone_fails (Nat.lt_trans hlt hj)
    rw [hok _ hlt] at hstop
    cases hstop
  · exact heq
  · rw [stepsDone_ok hgt] at hfail
    cases hfail

theorem rotateLoop_eq (writes : Nat → PinWrites) (n k : Nat) (seq : Fin 8)
    (pos : Fin stepsPerRev) :
    rotateLoop writes n k seq pos
      = ⟨decide (stepsDone writes n k = n), advance pos (stepsDone writes n k),
          (List.range (stepsDone writes n k)).map fun i =>
            halfstepSequence (seq + Fin.ofNat 8 i)⟩ := by
  have hstay : advance pos 0 = pos := Fin.ext (Nat.mod_eq_of_lt pos.isLt)
  induction n generalizing k seq pos with
  | zero =>
      rw [rotateLoop, stepsDone, hstay]
      rfl
  | succ n ih =>
      rw [rotateLoop, stepsDone]
      split
      · have hnext : advance (pos + 1) 0 = pos + 1 := Fin.ext (Nat.mod_eq_of_lt (pos + 1).isLt)
        rw [ih (k + 1) (seq + 1) (pos + 1) hnext]
        have hpos : advance (pos + 1) (stepsDone writes n (k + 1))
            = advance pos (stepsDone writes n (k + 1) + 1) := by
          refine Fin.ext ?_
          have hval : (pos + 1).val = (pos.val + 1) % stepsPerRev := Fin.val_add pos 1
          show ((pos + 1).val + _) % stepsPerRev = (pos.val + (_ + 1)) % stepsPerRev
          rw [hval, Nat.mod_add_mod, Nat.add_assoc, Nat.add_comm 1]
        have hseq : ∀ i : Nat, seq + 1 + Fin.ofNat 8 i = seq + Fin.ofNat 8 (i + 1) := by
          intro i
          refine Fin.ext ?_
          simp only [Fin.val_add, Fin.val_ofNat, Fin.val_one]
          omega
        have hfirst : seq + Fin.ofNat 8 0 = seq := Fin.add_zero seq
        rw [hpos, List.range_succ_eq_map, List.map_cons, List.map_map, hfirst]
        simp only [hseq, Nat.succ_inj]
        rfl
      · rw [hstay]
        rfl

/-- Everything about a rotation to a valid target. -/
theorem rotate_eq (pos : Fin stepsPerRev) {d : Int} (hlo : 0 ≤ d) (hhi : d ≤ 360)
    (writes : Nat → PinWrites) :
    rotate pos d writes
      = ⟨decide (stepsDone writes (stepsNeeded pos d) 0 = stepsNeeded pos d),
          advance pos (stepsDone writes (stepsNeeded pos d) 0),
          turn halfstepSequence (stepsDone writes (stepsNeeded pos d) 0)⟩ := by
  rw [rotate, if_neg (by omega), rotateLoop_eq]
  simp only [Fin.zero_add]
  rfl

end StepperMotor

/-! ## The motor in C integers -/

open StepperMotor

structure Motor where
  currentStepPosition : Int

structure MotorCall where
  ok : Bool
  motor : Motor
  applied : List StepPattern

namespace Motor

/-- The static initial value. -/
def static : Motor := ⟨0⟩

/-- `StepperMotor_Init`: the results of its four `export_pin` calls, and of its
`set_motor_pins`. -/
def stepperMotorInit (m : Motor) (exports : Fin 4 → Bool) (w : PinWrites) : MotorCall :=
  if !exports 0 || !exports 1 || !exports 2 || !exports 3 then ⟨false, m, []⟩
  else
    let m : Motor := ⟨0⟩
    if !setMotorPins w then ⟨false, m, []⟩ else ⟨true, m, []⟩

/-- The loop of `StepperMotor_Rotate`, with `remaining` steps to go. -/
def motorLoop (writes : Nat → PinWrites) :
    (remaining k : Nat) → (sequenceIndex : Fin 8) → Motor → MotorCall
  | 0, _, _, m => ⟨true, m, []⟩
  | remaining + 1, k, sequenceIndex, m =>
      if setMotorPins (writes k) then
        let m : Motor := ⟨(m.currentStepPosition + 1).tmod stepsPerRev⟩
        let r := motorLoop writes remaining (k + 1) (sequenceIndex + 1) m
        { r with applied := halfstepSequence sequenceIndex :: r.applied }
      else ⟨false, m, []⟩

/-- `StepperMotor_Rotate`, with the truncating division of C. -/
def stepperMotorRotate (m : Motor) (targetDegrees : Int) (writes : Nat → PinWrites) :
    MotorCall :=
  if targetDegrees < 0 ∨ targetDegrees > 360 then ⟨false, m, []⟩
  else
    let targetStepPosition := (targetDegrees * stepsPerRev + 180).tdiv 360
    let stepsNeeded :=
      (targetStepPosition - m.currentStepPosition + stepsPerRev).tmod stepsPerRev
    motorLoop writes stepsNeeded.toNat 0 0 m

/-- `StepperMotor_ResetPosition`. -/
def stepperMotorResetPosition (m : Motor) (w : PinWrites) : MotorCall :=
  if !setMotorPins w then ⟨false, m, []⟩ else ⟨true, ⟨0⟩, []⟩

inductive Op where
  | init (exports : Fin 4 → Bool) (w : PinWrites)
  | rotate (targetDegrees : Int) (writes : Nat → PinWrites)
  | resetPosition (w : PinWrites)

def call (m : Motor) : Op → MotorCall
  | .init exports w => m.stepperMotorInit exports w
  | .rotate targetDegrees writes => m.stepperMotorRotate targetDegrees writes
  | .resetPosition w => m.stepperMotorResetPosition w

def step (m : Motor) (op : Op) : Option Motor := some (m.call op).motor

/-! ## The position stays in range -/

/-- The motor counts `pos`. -/
def At (m : Motor) (pos : Fin stepsPerRev) : Prop := m.currentStepPosition = pos.val

theorem at_zero : At ⟨0⟩ ⟨0, stepsPerRev_pos⟩ := rfl

theorem motorLoop_eq {m : Motor} {pos : Fin stepsPerRev} (h : m.At pos)
    (writes : Nat → PinWrites) (n k : Nat) (seq : Fin 8) :
    (motorLoop writes n k seq m).ok = (rotateLoop writes n k seq pos).ok
      ∧ (motorLoop writes n k seq m).motor.At (rotateLoop writes n k seq pos).position
      ∧ (motorLoop writes n k seq m).applied = (rotateLoop writes n k seq pos).applied := by
  induction n generalizing k seq m pos with
  | zero => exact ⟨rfl, h, rfl⟩
  | succ n ih =>
      rw [motorLoop, rotateLoop]
      split
      · have hnext : At ⟨(m.currentStepPosition + 1).tmod stepsPerRev⟩ (pos + 1) := by
          have hval : (pos + 1).val = (pos.val + 1) % stepsPerRev := Fin.val_add pos 1
          show (m.currentStepPosition + 1).tmod stepsPerRev = ((pos + 1).val : Int)
          rw [At] at h
          rw [hval, h, Int.tmod_eq_emod_of_nonneg (by omega)]
          exact (Int.natCast_emod ..).symm
        obtain ⟨hok, hat, happlied⟩ := ih hnext (k + 1) (seq + 1)
        exact ⟨hok, hat, congrArg _ happlied⟩
      · exact ⟨rfl, h, rfl⟩

/-- In range the C arithmetic is the one of `rotate`. -/
theorem stepperMotorRotate_eq {m : Motor} {pos : Fin stepsPerRev} (h : m.At pos) (d : Int)
    (writes : Nat → PinWrites) :
    (m.stepperMotorRotate d writes).ok = (rotate pos d writes).ok
      ∧ (m.stepperMotorRotate d writes).motor.At (rotate pos d writes).position
      ∧ (m.stepperMotorRotate d writes).applied = (rotate pos d writes).applied := by
  unfold stepperMotorRotate rotate
  split
  · exact ⟨rfl, h, rfl⟩
  · have hlt := pos.isLt
    have hneeded : ((d * stepsPerRev + 180).tdiv 360 - m.currentStepPosition
        + stepsPerRev).tmod stepsPerRev = (stepsNeeded pos d : Int) := by
      rw [At] at h
      unfold stepsNeeded targetStepPosition stepsPerRev at *
      rw [Int.tdiv_eq_ediv_of_nonneg (by omega), Int.tmod_eq_emod_of_nonneg (by omega), h]
      omega
    simp only [hneeded, Int.toNat_natCast]
    exact motorLoop_eq h writes _ 0 0

theorem at_step {m m' : Motor} {op : Op} (h : ∃ pos, m.At pos) (hs : step m op = some m') :
    ∃ pos, m'.At pos := by
  obtain ⟨pos, hpos⟩ := h
  obtain rfl := Option.some.inj hs
  cases op with
  | init exports w =>
      simp only [call, stepperMotorInit]
      split
      · exact ⟨pos, hpos⟩
      · split <;> exact ⟨_, at_zero⟩
  | rotate d writes => exact ⟨_, (stepperMotorRotate_eq hpos d writes).2.1⟩
  | resetPosition w =>
      simp only [call, stepperMotorResetPosition]
      split
      · exact ⟨pos, hpos⟩
      · exact ⟨_, at_zero⟩

theorem at_run {is : List Op} {m : Motor} (hr : Lts.run step static is = some m) :
    ∃ pos, m.At pos :=
  Lts.inv_run_of_step (fun _ _ _ => at_step) ⟨_, at_zero⟩ hr

/-- How far a target is ahead of the position, in steps. -/
def ahead (m : Motor) (targetDegrees : Int) : Int :=
  ((targetDegrees * stepsPerRev + 180) / 360 - m.currentStepPosition) % stepsPerRev

theorem ahead_eq {m : Motor} {pos : Fin stepsPerRev} (h : m.At pos) (d : Int) :
    m.ahead d = stepsNeeded pos d := by
  have hlt := pos.isLt
  rw [At] at h
  unfold ahead stepsNeeded targetStepPosition stepsPerRev at *
  rw [h]
  omega

/-- After any calls the position is in range; a rotation takes the steps that the
target is ahead and ends there, or returns false with the position of the step
whose pin write fails; out of range nothing changes. -/
theorem stepPosition_exact {is : List Op} {m : Motor} (hr : Lts.run step static is = some m) :
    (0 ≤ m.currentStepPosition ∧ m.currentStepPosition < stepsPerRev)
      ∧ (∀ d writes, 0 ≤ d → d ≤ 360 → (m.stepperMotorRotate d writes).ok = true →
          ((m.stepperMotorRotate d writes).applied.length = m.ahead d
            ∧ (m.stepperMotorRotate d writes).motor.currentStepPosition
              = (d * stepsPerRev + 180) / 360 % stepsPerRev))
      ∧ (∀ d writes (k : Nat), 0 ≤ d → d ≤ 360 → k < m.ahead d →
          (∀ i < k, setMotorPins (writes i) = true) → setMotorPins (writes k) = false →
          ((m.stepperMotorRotate d writes).ok = false
            ∧ (m.stepperMotorRotate d writes).motor.currentStepPosition
              = (m.currentStepPosition + k) % stepsPerRev))
      ∧ (∀ d writes, d < 0 ∨ 360 < d → m.stepperMotorRotate d writes = ⟨false, m, []⟩) := by
  obtain ⟨pos, hpos⟩ := at_run hr
  have hlt := pos.isLt
  refine ⟨?_, ?_, ?_, ?_⟩
  · rw [At] at hpos
    omega
  · intro d writes hlo hhi hok
    obtain ⟨hok', hat, happlied⟩ := stepperMotorRotate_eq hpos d writes
    rw [hok', rotate_eq pos hlo hhi] at hok
    have hall := of_decide_eq_true hok
    rw [rotate_eq pos hlo hhi, hall] at hat happlied
    have hahead := ahead_eq hpos d
    refine ⟨by rw [happlied, length_turn, hahead], ?_⟩
    rw [At] at hat hpos
    rw [hat]
    show (((pos.val + stepsNeeded pos d) % stepsPerRev : Nat) : Int) = _
    unfold ahead stepsPerRev at *
    omega
  · intro d writes k hlo hhi hk hbefore hfail
    obtain ⟨hok', hat, -⟩ := stepperMotorRotate_eq hpos d writes
    rw [ahead_eq hpos] at hk
    have hdone : stepsDone writes (stepsNeeded pos d) 0 = k :=
      stepsDone_of_first_failure (by omega) (fun i hi => by rw [Nat.zero_add]; exact hbefore i hi)
        (by rw [Nat.zero_add]; exact hfail)
    rw [rotate_eq pos hlo hhi, hdone] at hok' hat
    refine ⟨hok'.trans (decide_eq_false (by omega)), ?_⟩
    rw [At] at hat hpos
    rw [hat, hpos]
    exact Int.natCast_emod ..
  · intro d writes hd
    exact if_pos (by omega)

/-- Initialised and turned by one degree. -/
def initAndTurn : List Op := [.init (fun _ => true) fun _ => true, .rotate 1 fun _ _ => true]

theorem stepPosition_exact_initAndTurn :
    ∃ m, Lts.run step static initAndTurn = some m ∧ m.currentStepPosition = 11
      ∧ (m.stepperMotorRotate 361 fun _ _ => true) = ⟨false, m, []⟩ := by
  have hr : Lts.run step static initAndTurn = some ⟨11⟩ := rfl
  exact ⟨⟨11⟩, hr, rfl, (stepPosition_exact hr).2.2.2 361 _ (Or.inr (by decide))⟩

end Motor

/-! ## The phase of the coils -/

/-- The tracked position, and all step patterns applied so far. -/
structure Coils where
  pos : Fin stepsPerRev
  trace : List StepPattern
deriving DecidableEq

/-- A call of `StepperMotor_Rotate`. -/
structure Turn where
  targetDegrees : Int
  writes : Nat → PinWrites

namespace Coils

def step (s : Coils) (t : Turn) : Option Coils :=
  let r := rotate s.pos t.targetDegrees t.writes
  some ⟨r.position, s.trace ++ r.applied⟩

/-- The patterns applied are consecutive elements of the half-step cycle. -/
def InSequence (s : Coils) : Prop := List.IsChain (Follows halfstepSequence) s.trace

/-- The call takes a step: its target is elsewhere, and its first pin writes succeed. -/
def Moves (s : Coils) (t : Turn) : Prop :=
  (0 ≤ t.targetDegrees ∧ t.targetDegrees ≤ 360) ∧ stepsNeeded s.pos t.targetDegrees ≠ 0
    ∧ setMotorPins (t.writes 0) = true

/-- A call that takes a step starts a whole number of eight steps away from `start`. -/
def InPhase (start : Fin stepsPerRev) (s : Coils) (t : Turn) : Prop :=
  s.Moves t → s.pos.val % 8 = start.val % 8

theorem halfstepSequence_injective : Function.Injective halfstepSequence := by
  unfold Function.Injective
  decide

/-- The position follows the steps, and a trace in sequence is one walk from the start
of the cycle. -/
structure Counts (start : Fin stepsPerRev) (s : Coils) : Prop where
  pos : s.pos.val % 8 = (start.val + s.trace.length) % 8
  walk : s.InSequence → s.trace = turn halfstepSequence s.trace.length

theorem counts_initial (start : Fin stepsPerRev) : Counts start ⟨start, []⟩ :=
  ⟨rfl, fun _ => rfl⟩

/-- A call applies the first patterns of the cycle, at least one if it moves. -/
theorem step_turn {s s' : Coils} {t : Turn} (hs : step s t = some s') :
    ∃ j, s'.trace = s.trace ++ turn halfstepSequence j ∧ s'.pos = advance s.pos j
      ∧ (j = 0 ↔ ¬s.Moves t) := by
  obtain rfl := Option.some.inj hs
  by_cases hd : 0 ≤ t.targetDegrees ∧ t.targetDegrees ≤ 360
  · refine ⟨stepsDone t.writes (stepsNeeded s.pos t.targetDegrees) 0, ?_, ?_, ?_⟩
    · rw [rotate_eq s.pos hd.1 hd.2]
    · rw [rotate_eq s.pos hd.1 hd.2]
    · unfold Moves
      cases hn : stepsNeeded s.pos t.targetDegrees with
      | zero => simp [stepsDone]
      | succ n => cases hw : setMotorPins (t.writes 0) <;> simp [stepsDone, hw, hd]
  · have hout : rotate s.pos t.targetDegrees t.writes = ⟨false, s.pos, []⟩ := if_pos (by omega)
    refine ⟨0, ?_, ?_, iff_of_true rfl fun h => hd h.1⟩
    · rw [hout, turn_zero]
    · rw [hout]
      exact Fin.ext (Nat.mod_eq_of_lt s.pos.isLt).symm

theorem pos_advance (pos : Fin stepsPerRev) (j : Nat) :
    (advance pos j).val % 8 = (pos.val + j) % 8 := by
  show (pos.val + j) % stepsPerRev % 8 = (pos.val + j) % 8
  unfold stepsPerRev
  omega

theorem inSequence_step {start : Fin stepsPerRev} {s s' : Coils} {t : Turn}
    (h : Counts start s) (hs : step s t = some s') :
    s'.InSequence ↔ s.InSequence ∧ s.InPhase start t := by
  obtain ⟨j, htrace, -, hj⟩ := step_turn hs
  have hpos := h.pos
  have hphase : s.InPhase start t ↔ j = 0 ∨ 8 ∣ s.trace.length := by
    unfold InPhase
    rw [← not_iff_not.mpr hj |>.trans not_not, or_iff_not_imp_left]
    exact imp_congr_right fun _ => by omega
  unfold InSequence
  rw [htrace, hphase]
  constructor
  · intro hchain
    have hseq : s.InSequence := hchain.left_of_append
    rw [h.walk hseq, isChain_turn_append_iff _ halfstepSequence_injective] at hchain
    exact ⟨hseq, hchain⟩
  · rintro ⟨hseq, hwhole⟩
    rw [h.walk hseq, isChain_turn_append_iff _ halfstepSequence_injective]
    exact hwhole

theorem counts_step {start : Fin stepsPerRev} {s s' : Coils} {t : Turn}
    (h : Counts start s) (hs : step s t = some s') : Counts start s' := by
  obtain ⟨j, htrace, hpos, hj⟩ := step_turn hs
  have hp := h.pos
  constructor
  · rw [hpos, pos_advance, htrace, List.length_append, length_turn]
    omega
  · intro hseq'
    obtain ⟨hseq, hphase⟩ := (inSequence_step h hs).mp hseq'
    rw [htrace, List.length_append, length_turn]
    by_cases hzero : j = 0
    · rw [hzero, turn_zero, List.append_nil]
      exact h.walk hseq
    · have hmoves : s.Moves t := by
        by_contra hno
        exact hzero (hj.mpr hno)
      have hdvd : 8 ∣ s.trace.length := by
        have hp' := hphase hmoves
        omega
      rw [← turn_append_turn _ hdvd, ← h.walk hseq]

/-- The patterns applied by a sequence of rotations are consecutive elements of the
half-step cycle exactly when each rotation that takes a step starts a whole number
of eight steps away from where the first one did. -/
theorem coilPhase_iff (start : Fin stepsPerRev) {is : List Turn} {s : Coils}
    (hr : Lts.run step ⟨start, []⟩ is = some s) :
    s.InSequence ↔ Lts.Along step (InPhase start) ⟨start, []⟩ is := by
  have hclean := Lts.clean_iff_along (Q := InPhase start) (fun _ _ _ => counts_step)
    (fun _ _ _ => inSequence_step) (counts_initial start) hr
  exact hclean.trans ⟨fun h => h.2, fun h => ⟨List.isChain_nil, h⟩⟩

/-- One degree, then another: the second rotation starts over after eleven steps. -/
def twoDegrees : List Turn := [⟨1, fun _ _ => true⟩, ⟨2, fun _ _ => true⟩]

theorem twoDegrees_run :
    Lts.run step ⟨⟨0, stepsPerRev_pos⟩, []⟩ twoDegrees
      = some ⟨⟨23, by decide⟩, turn halfstepSequence 11 ++ turn halfstepSequence 12⟩ := by
  decide +kernel

theorem twoDegrees_out_of_sequence :
    ¬∀ (start : Fin stepsPerRev) (is : List Turn) (s : Coils),
      Lts.run step ⟨start, []⟩ is = some s → s.InSequence := by
  intro hall
  have hchain := hall _ _ _ twoDegrees_run
  rw [InSequence, isChain_turn_append_iff _ halfstepSequence_injective] at hchain
  omega

theorem coilPhase_iff_twoDegrees :
    ¬Lts.Along step (InPhase ⟨0, stepsPerRev_pos⟩) ⟨⟨0, stepsPerRev_pos⟩, []⟩ twoDegrees := by
  rw [← coilPhase_iff _ twoDegrees_run, InSequence,
    isChain_turn_append_iff _ halfstepSequence_injective]
  omega

end Coils

end HomeSecurity
