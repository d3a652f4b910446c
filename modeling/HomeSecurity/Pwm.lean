import Mathlib.Algebra.Order.Ring.Int
import Mathlib.Logic.Function.Basic
import HomeSecurity.Lts

/-!
# The PWM files

`PWM.c`: setting an LED's frequency is four files written one after the other. The
device behind the files keeps its settings and refuses a write that would leave the
duty above the period; stdio finds out when the stream is flushed, in the `fclose`
whose result `writeToFile` does not look at.

The comment in `PWM_setFrequency` sets the duty to 0 first, so that the period can
shrink; the code only clears `enable`. `takesEffect_iff` is what that comes to: a
call that reports success takes effect exactly when the duty it finds fits the
period it sets.
-/

namespace HomeSecurity

/-- `RED_LED` and `GREEN_LED`. -/
inductive Led where
  | red
  | green
deriving DecidableEq

/-- The three paths of an `LEDt`. -/
inductive PwmFile where
  | dutyCycle
  | period
  | enable
deriving DecidableEq

/-- The settings of one PWM output, in nanoseconds. -/
structure PwmDevice where
  period : Nat
  duty : Nat
  enabled : Bool
deriving DecidableEq

namespace PwmDevice

def set (d : PwmDevice) (v : Nat) : PwmFile → PwmDevice
  | .dutyCycle => { d with duty := v }
  | .period => { d with period := v }
  | .enable => { d with enabled := v ≠ 0 }

/-- The device's side of a write; `none` is a write refused. -/
def write (d : PwmDevice) (f : PwmFile) (v : Nat) : Option PwmDevice :=
  if (d.set v f).duty > (d.set v f).period then none else some (d.set v f)

/-- The duty is never above the period. -/
def Fits (d : PwmDevice) : Prop := d.duty ≤ d.period

end PwmDevice

/-- What stdio says to one `writeToFile`: whether `fopen` opens the file, and
whether `fprintf` takes the text. -/
structure Stdio where
  opened : Bool
  printed : Bool
deriving DecidableEq

def Stdio.ok (io : Stdio) : Bool := io.opened && io.printed

/-- What calls on the files return and leave behind; `refused` says whether the
device refused a write of them. -/
structure Written where
  ok : Bool
  device : PwmDevice
  refused : Bool
deriving DecidableEq

/-- `writeToFile`: the result of the `fclose` that flushes is not looked at. -/
def writeToFile (d : PwmDevice) (f : PwmFile) (v : Nat) (io : Stdio) : Written :=
  if !io.opened then ⟨false, d, false⟩
  else if !io.printed then ⟨false, d, false⟩
  else
    match d.write f v with
    | some d' => ⟨true, d', false⟩
    | none => ⟨true, d, true⟩

def pwmSetDutyCycle (d : PwmDevice) (dutyCycle : Nat) (io : Stdio) : Written :=
  writeToFile d .dutyCycle dutyCycle io

def pwmSetPeriod (d : PwmDevice) (period : Nat) (io : Stdio) : Written :=
  writeToFile d .period period io

def pwmEnable (d : PwmDevice) (io : Stdio) : Written := writeToFile d .enable 1 io

def pwmDisable (d : PwmDevice) (io : Stdio) : Written := writeToFile d .enable 0 io

/-- `w`, after a call that refused a write or not. -/
def Written.after (w : Written) (refused : Bool) : Written :=
  { w with refused := refused || w.refused }

/-- `Hz` clipped to what is supported. -/
def clipHz (hz : Int) : Int :=
  let hz := if hz < 0 then 0 else hz
  if hz > 500 then 500 else hz

def nsec : Nat := 1000000000

/-- `period_ull`. -/
def periodFor (hz : Int) : Nat := nsec / (clipHz hz).toNat

/-- `duty_ull`. -/
def dutyFor (hz pct : Int) : Nat := periodFor hz * pct.toNat / 100

/-- A call of `PWM_setFrequency`, with what stdio says to its four writes. -/
structure FrequencyCall where
  led : Led
  hz : Int
  dutyCyclePercent : Int
  io : Fin 4 → Stdio

theorem neZeroWrites : NeZero 4 := ⟨Nat.succ_ne_zero 3⟩

attribute [local instance] neZeroWrites

/-- The four writes of `PWM_setFrequency`: disable, period, duty, enable. -/
def pwmWriteSettings (d : PwmDevice) (period duty : Nat) (io : Fin 4 → Stdio) : Written :=
  let w₀ := pwmDisable d (io 0)
  if !w₀.ok then w₀
  else
    let w₁ := (pwmSetPeriod w₀.device period (io 1)).after w₀.refused
    if !w₁.ok then w₁
    else
      let w₂ := (pwmSetDutyCycle w₁.device duty (io 2)).after w₁.refused
      if !w₂.ok then w₂
      else
        -- the result of enabling is not looked at either
        { (pwmEnable w₂.device (io 3)).after w₂.refused with ok := true }

/-- `PWM_setFrequency` on the device of its LED. -/
def pwmSetFrequency (d : PwmDevice) (c : FrequencyCall) : Written :=
  if c.dutyCyclePercent < 0 ∨ c.dutyCyclePercent > 100 then ⟨false, d, false⟩
  else if clipHz c.hz = 0 then pwmDisable d (c.io 0)
  else pwmWriteSettings d (periodFor c.hz) (dutyFor c.hz c.dutyCyclePercent) c.io

/-- The two outputs. -/
abbrev Outputs := Led → PwmDevice

namespace Outputs

def step (s : Outputs) (c : FrequencyCall) : Option Outputs :=
  some (Function.update s c.led (pwmSetFrequency (s c.led) c).device)

/-- A call that asks for a frequency in range and returns true has set period and
duty to what it asks for, and none of its writes was refused. -/
def TakesEffect (s : Outputs) (c : FrequencyCall) : Prop :=
  let r := pwmSetFrequency (s c.led) c
  1 ≤ c.hz → 0 ≤ c.dutyCyclePercent → c.dutyCyclePercent ≤ 100 → r.ok = true →
    r.device.period = nsec / (min c.hz 500).toNat
      ∧ r.device.duty = nsec / (min c.hz 500).toNat * c.dutyCyclePercent.toNat / 100
      ∧ r.refused = false

/-- The call finds a duty that fits the period it sets, if it gets as far as to
return true. -/
def DutyFits (s : Outputs) (c : FrequencyCall) : Prop :=
  1 ≤ c.hz → 0 ≤ c.dutyCyclePercent → c.dutyCyclePercent ≤ 100 →
    (c.io 0).ok = true → (c.io 1).ok = true → (c.io 2).ok = true →
    (s c.led).duty ≤ nsec / (min c.hz 500).toNat

end Outputs

/-! ## One file -/

theorem writeToFile_ok (d : PwmDevice) (f : PwmFile) (v : Nat) (io : Stdio) :
    (writeToFile d f v io).ok = io.ok := by
  unfold writeToFile Stdio.ok
  cases io.opened <;> cases io.printed <;> simp
  split <;> rfl

/-- A write that reaches the device. -/
theorem writeToFile_of_ok {io : Stdio} (hio : io.ok = true) (d : PwmDevice) (f : PwmFile)
    (v : Nat) :
    writeToFile d f v io = if (d.set v f).duty ≤ (d.set v f).period then ⟨true, d.set v f, false⟩
      else ⟨true, d, true⟩ := by
  rw [Stdio.ok, Bool.and_eq_true] at hio
  unfold writeToFile PwmDevice.write
  simp only [hio.1, hio.2, Bool.not_true, Bool.false_eq_true, if_false]
  by_cases hfits : (d.set v f).duty ≤ (d.set v f).period
  · rw [if_neg (Nat.not_lt.mpr hfits), if_pos hfits]
  · rw [if_pos (Nat.not_le.mp hfits), if_neg hfits]

/-- One that does not get past stdio. -/
theorem writeToFile_of_not_ok {io : Stdio} (hio : io.ok = false) (d : PwmDevice) (f : PwmFile)
    (v : Nat) : writeToFile d f v io = ⟨false, d, false⟩ := by
  unfold writeToFile Stdio.ok at *
  cases ho : io.opened <;> cases hp : io.printed <;> simp_all

theorem writeToFile_fits {d : PwmDevice} (h : d.Fits) (f : PwmFile) (v : Nat) (io : Stdio) :
    (writeToFile d f v io).device.Fits := by
  cases hio : io.ok with
  | true =>
      rw [writeToFile_of_ok hio]
      split
      · assumption
      · exact h
  | false =>
      rw [writeToFile_of_not_ok hio]
      exact h

theorem pwmDisable_of_ok {io : Stdio} (hio : io.ok = true) {d : PwmDevice} (h : d.Fits) :
    pwmDisable d io = ⟨true, { d with enabled := false }, false⟩ := by
  rw [pwmDisable, writeToFile_of_ok hio]
  exact if_pos h

/-! ## Four files -/

section Settings

variable {d : PwmDevice} {period duty : Nat} {io : Fin 4 → Stdio}

/-- The writes succeed as far as stdio says: the fourth one's result is not asked for. -/
theorem pwmWriteSettings_ok :
    (pwmWriteSettings d period duty io).ok = ((io 0).ok && (io 1).ok && (io 2).ok) := by
  unfold pwmWriteSettings
  simp only [Written.after, pwmDisable, pwmSetPeriod, pwmSetDutyCycle, writeToFile_ok]
  cases h₀ : (io 0).ok with
  | false => simp [writeToFile_ok, h₀]
  | true =>
      cases h₁ : (io 1).ok with
      | false => simp
      | true => cases (io 2).ok <;> simp

theorem pwmWriteSettings_fits (h : d.Fits) : (pwmWriteSettings d period duty io).device.Fits := by
  have h₀ : (pwmDisable d (io 0)).device.Fits := writeToFile_fits h ..
  have h₁ := writeToFile_fits h₀ .period period (io 1)
  have h₂ := writeToFile_fits h₁ .dutyCycle duty (io 2)
  unfold pwmWriteSettings
  simp only
  split
  · exact h₀
  · split
    · exact h₁
    · split
      · exact h₂
      · exact writeToFile_fits h₂ ..

/-- The period can be set: then all is as asked for. -/
theorem pwmWriteSettings_of_fit (h : d.Fits) (hduty : duty ≤ period) (h₀ : (io 0).ok = true)
    (h₁ : (io 1).ok = true) (h₂ : (io 2).ok = true) (hfit : d.duty ≤ period) :
    (pwmWriteSettings d period duty io).device.period = period
      ∧ (pwmWriteSettings d period duty io).device.duty = duty
      ∧ (pwmWriteSettings d period duty io).refused = false := by
  have hperiod : pwmSetPeriod { d with enabled := false } period (io 1)
      = ⟨true, ⟨period, d.duty, false⟩, false⟩ := by
    rw [pwmSetPeriod, writeToFile_of_ok h₁]
    exact if_pos hfit
  have hset : pwmSetDutyCycle ⟨period, d.duty, false⟩ duty (io 2)
      = ⟨true, ⟨period, duty, false⟩, false⟩ := by
    rw [pwmSetDutyCycle, writeToFile_of_ok h₂]
    exact if_pos hduty
  obtain ⟨on, hon⟩ : ∃ on, pwmEnable ⟨period, duty, false⟩ (io 3)
      = ⟨(io 3).ok, ⟨period, duty, on⟩, false⟩ := by
    cases hio : (io 3).ok with
    | true => exact ⟨true, (writeToFile_of_ok hio ..).trans (if_pos hduty)⟩
    | false => exact ⟨false, writeToFile_of_not_ok hio ..⟩
  unfold pwmWriteSettings
  simp [pwmDisable_of_ok h₀ h, hperiod, hset, hon, Written.after]

/-- The period cannot be set: its write is refused, and nothing says so. -/
theorem pwmWriteSettings_of_not_fit (h : d.Fits) (h₀ : (io 0).ok = true)
    (h₁ : (io 1).ok = true) (hfit : ¬d.duty ≤ period) :
    (pwmWriteSettings d period duty io).refused = true := by
  have hperiod : pwmSetPeriod { d with enabled := false } period (io 1)
      = ⟨true, { d with enabled := false }, true⟩ := by
    rw [pwmSetPeriod, writeToFile_of_ok h₁]
    exact if_neg hfit
  unfold pwmWriteSettings
  simp only [pwmDisable_of_ok h₀ h, hperiod, Written.after, Bool.not_true, Bool.false_eq_true,
    if_false]
  split <;> simp

end Settings

/-! ## A frequency in range -/

theorem clipHz_of_pos {hz : Int} (hhz : 1 ≤ hz) : clipHz hz = min hz 500 := by
  simp only [clipHz, if_neg (show ¬hz < 0 by omega)]
  split <;> omega

theorem periodFor_of_pos {hz : Int} (hhz : 1 ≤ hz) : periodFor hz = nsec / (min hz 500).toNat := by
  rw [periodFor, clipHz_of_pos hhz]

theorem dutyFor_le (hz : Int) {pct : Int} (hpct : pct ≤ 100) : dutyFor hz pct ≤ periodFor hz := by
  have hle : pct.toNat ≤ 100 := by omega
  refine Nat.div_le_of_le_mul ?_
  rw [Nat.mul_comm 100]
  exact Nat.mul_le_mul_left _ hle

theorem pwmSetFrequency_fits {d : PwmDevice} (h : d.Fits) (c : FrequencyCall) :
    (pwmSetFrequency d c).device.Fits := by
  unfold pwmSetFrequency
  split
  · exact h
  · split
    · exact writeToFile_fits h ..
    · exact pwmWriteSettings_fits h

theorem pwmSetFrequency_in_range (d : PwmDevice) {c : FrequencyCall} (hhz : 1 ≤ c.hz)
    (hlo : 0 ≤ c.dutyCyclePercent) (hhi : c.dutyCyclePercent ≤ 100) :
    pwmSetFrequency d c
      = pwmWriteSettings d (periodFor c.hz) (dutyFor c.hz c.dutyCyclePercent) c.io := by
  have hpct : ¬(c.dutyCyclePercent < 0 ∨ c.dutyCyclePercent > 100) := by omega
  have hclip : clipHz c.hz ≠ 0 := by
    rw [clipHz_of_pos hhz]
    omega
  rw [pwmSetFrequency, if_neg hpct, if_neg hclip]

namespace Outputs

theorem takesEffect_iff_dutyFits {s : Outputs} (hfits : ∀ led, (s led).Fits) (c : FrequencyCall) :
    s.TakesEffect c ↔ s.DutyFits c := by
  unfold TakesEffect DutyFits
  refine imp_congr_right fun hhz => imp_congr_right fun hlo => imp_congr_right fun hhi => ?_
  rw [pwmSetFrequency_in_range _ hhz hlo hhi, pwmWriteSettings_ok, ← periodFor_of_pos hhz,
    Bool.and_eq_true, Bool.and_eq_true, and_imp, and_imp]
  refine imp_congr_right fun h₀ => imp_congr_right fun h₁ => imp_congr_right fun h₂ => ?_
  by_cases hfit : (s c.led).duty ≤ periodFor c.hz
  · exact iff_of_true
      (pwmWriteSettings_of_fit (hfits c.led) (dutyFor_le c.hz hhi) h₀ h₁ h₂ hfit) hfit
  · refine iff_of_false (fun h => ?_) hfit
    rw [pwmWriteSettings_of_not_fit (hfits c.led) h₀ h₁ hfit] at h
    exact Bool.noConfusion h.2.2

theorem fits_step {s s' : Outputs} {c : FrequencyCall} (h : ∀ led, (s led).Fits)
    (hs : step s c = some s') : ∀ led, (s' led).Fits := by
  obtain rfl := Option.some.inj hs
  intro led
  by_cases hled : led = c.led
  · rw [hled, Function.update_self]
    exact pwmSetFrequency_fits (h c.led) c
  · rw [Function.update_of_ne hled]
    exact h led

/-- From outputs with duty 0, each call of a sequence takes effect exactly when it
finds a duty that fits the period it sets. -/
theorem takesEffect_iff {s : Outputs} (hduty : ∀ led, (s led).duty = 0) (is : List FrequencyCall) :
    Lts.Along step TakesEffect s is ↔ Lts.Along step DutyFits s is := by
  have hfits : ∀ led, (s led).Fits := by
    intro led
    rw [PwmDevice.Fits, hduty led]
    exact Nat.zero_le _
  have hstep : ∀ (s : Outputs) (c : FrequencyCall) (s' : Outputs), (∀ led, (s led).Fits) → True →
      step s c = some s' → ∀ led, (s' led).Fits := fun _ _ _ h _ hs => fits_step h hs
  exact Lts.Along.congr (P := fun _ _ => True) hstep
    (fun s c h _ => takesEffect_iff_dutyFits h c) hfits
    (Lts.along_of_forall (fun _ _ => trivial) is s)

/-! ## Two failures in a row -/

def stdioFine : Fin 4 → Stdio := fun _ => ⟨true, true⟩

def idle : Outputs := fun _ => ⟨0, 0, false⟩

/-- The red LED's part of `LED_lock_failure_sequence`, played twice. -/
def lockFailureTwice : List FrequencyCall :=
  [⟨.red, 10, 90, stdioFine⟩, ⟨.red, 2, 50, stdioFine⟩, ⟨.red, 10, 90, stdioFine⟩,
    ⟨.red, 2, 50, stdioFine⟩]

/-- The third call finds the duty of 250 ms of the second and sets a period of 100. -/
theorem lockFailureTwice_refused : ¬Lts.Along step TakesEffect idle lockFailureTwice := by
  intro h
  obtain ⟨-, h⟩ := h
  obtain ⟨-, h⟩ := h _ rfl
  obtain ⟨h, -⟩ := h _ rfl
  exact Bool.noConfusion (h (by decide) (by decide) (by decide) rfl).2.2

theorem lockFailureTwice_not_effective :
    ¬∀ (s : Outputs) (is : List FrequencyCall), (∀ led, (s led).duty = 0) →
      Lts.Along step TakesEffect s is :=
  fun hall => lockFailureTwice_refused (hall idle lockFailureTwice fun _ => rfl)

theorem takesEffect_iff_lockFailureTwice : ¬Lts.Along step DutyFits idle lockFailureTwice := by
  rw [← takesEffect_iff fun _ => rfl]
  exact lockFailureTwice_refused

end Outputs

end HomeSecurity
