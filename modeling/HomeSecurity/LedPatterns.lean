import Mathlib.Data.List.Induction
import HomeSecurity.LedWorker
import HomeSecurity.Pwm

/-!
# The LED patterns

The sequences of `led.c`, played by the worker on the PWM files of the two LEDs. While
the files can be written, what an LED does is what was asked of it (`shows_run`): it is lit
if the last request lit it, for as long in each period as the last frequency says. The
period itself is the one asked for unless the frequency before had a longer pulse.

A success ends with a steady green LED and a failure with a red one that flashes at 2 Hz.
After a failure it always does; after a success it does unless the last use of the green
LED was the network error's (`outcome_shown`).
-/

namespace HomeSecurity

/-- The two outputs behind their files. The calls made so far tell what stdio says to the
next. -/
structure LedFiles where
  outputs : Outputs
  calls : Nat

attribute [local instance] neZeroWrites

namespace LedFiles

section Patterns

variable (io : Nat → Fin 4 → Stdio)

/-- `PWM_disable`; the patterns do not look at its result. -/
def disable (s : LedFiles) (led : Led) : LedFiles :=
  ⟨Function.update s.outputs led (pwmDisable (s.outputs led) (io s.calls 0)).device, s.calls + 1⟩

/-- `PWM_setFrequency`. -/
def setFrequency (s : LedFiles) (led : Led) (hz dutyPercent : Int) : LedFiles × Bool :=
  let w := pwmSetFrequency (s.outputs led) ⟨led, hz, dutyPercent, io s.calls⟩
  (⟨Function.update s.outputs led w.device, s.calls + 1⟩, w.ok)

def ledSetGreenSteady (s : LedFiles) (dutyPercent : Int) : LedFiles :=
  (s.setFrequency io .green 1000 dutyPercent).1

def ledSetRedSteady (s : LedFiles) (dutyPercent : Int) : LedFiles :=
  (s.setFrequency io .red 1000 dutyPercent).1

/-- The body `LED_blink_red_n` and `LED_blink_green_n` share. -/
def ledBlinkN (led : Led) (s : LedFiles) (flashes freqHz dutyPercent : Int) : LedFiles :=
  if flashes ≤ 0 ∨ freqHz ≤ 0 then s
  else
    match s.setFrequency io led freqHz dutyPercent with
    | (s, false) => s
    -- `sleepForMs(1000 / freqHz * flashes)` comes between
    | (s, true) => s.disable io led

def ledBlinkRedN (s : LedFiles) (flashes freqHz dutyPercent : Int) : LedFiles :=
  ledBlinkN io .red s flashes freqHz dutyPercent

def ledBlinkGreenN (s : LedFiles) (flashes freqHz dutyPercent : Int) : LedFiles :=
  ledBlinkN io .green s flashes freqHz dutyPercent

/-- `if (!PWM_setFrequency(led, 2, 50)) PWM_disable(led);`. -/
def slowFlash (s : LedFiles) (led : Led) : LedFiles :=
  match s.setFrequency io led 2 50 with
  | (s, false) => s.disable io led
  | (s, true) => s

def ledLockSuccessSequence (s : LedFiles) : LedFiles :=
  let s := s.disable io .green
  let s := s.ledBlinkRedN io 2 7 90
  s.ledSetGreenSteady io 30

def ledLockFailureSequence (s : LedFiles) : LedFiles :=
  let s := s.disable io .green
  let s := s.disable io .red
  let s := s.ledBlinkRedN io 5 10 90
  s.slowFlash io .red

def ledUnlockSuccessSequence (s : LedFiles) : LedFiles :=
  let s := s.disable io .green
  let s := s.disable io .red
  let s := s.ledBlinkRedN io 2 7 90
  s.ledSetGreenSteady io 30

def ledUnlockFailureSequence (s : LedFiles) : LedFiles :=
  let s := s.disable io .green
  let s := s.disable io .red
  let s := s.ledBlinkRedN io 5 10 90
  s.slowFlash io .red

def ledHubCommandSuccess (s : LedFiles) : LedFiles := s.ledSetGreenSteady io 50

def ledHubCommandFailure (s : LedFiles) : LedFiles := s.ledBlinkRedN io 5 10 90

def ledStatusDoorError (s : LedFiles) : LedFiles := s.slowFlash io .red

def ledStatusNetworkError (s : LedFiles) : LedFiles := s.slowFlash io .green

/-- The call the worker makes for a sequence. -/
def perform (s : LedFiles) : LedSequence → LedFiles
  | .blinkRedN f h d => s.ledBlinkRedN io f h d
  | .hubCommandSuccess => s.ledHubCommandSuccess io
  | .statusNetworkError => s.ledStatusNetworkError io
  | .hubCommandFailure => s.ledHubCommandFailure io
  | .lockSuccess => s.ledLockSuccessSequence io
  | .lockFailure => s.ledLockFailureSequence io
  | .unlockSuccess => s.ledUnlockSuccessSequence io
  | .unlockFailure => s.ledUnlockFailureSequence io
  | .statusDoorError => s.ledStatusDoorError io

end Patterns

end LedFiles

/-! ## What is asked of an LED -/

/-- A request: off, or a frequency with a duty in percent. -/
abbrev PwmRequest := Option (Int × Int)

/-- What a working device makes of a request. A period shorter than the pulse it has is
refused, and the device keeps its own. -/
def PwmDevice.ask (d : PwmDevice) : PwmRequest → PwmDevice
  | none => { d with enabled := false }
  | some (hz, pct) =>
      ⟨if d.duty ≤ periodFor hz then periodFor hz else d.period, dutyFor hz pct, true⟩

/-- What a sequence asks of an LED, in order. -/
def LedSequence.asks : LedSequence → Led → List PwmRequest
  | .blinkRedN f h d, .red =>
      if f ≤ 0 ∨ h ≤ 0 ∨ d < 0 ∨ d > 100 then [] else [some (h, d), none]
  | .hubCommandSuccess, .green => [some (1000, 50)]
  | .statusNetworkError, .green => [some (2, 50)]
  | .hubCommandFailure, .red => [some (10, 90), none]
  | .lockSuccess, .green => [none, some (1000, 30)]
  | .lockSuccess, .red => [some (7, 90), none]
  | .lockFailure, .green => [none]
  | .lockFailure, .red => [none, some (10, 90), none, some (2, 50)]
  | .unlockSuccess, .green => [none, some (1000, 30)]
  | .unlockSuccess, .red => [none, some (7, 90), none]
  | .unlockFailure, .green => [none]
  | .unlockFailure, .red => [none, some (10, 90), none, some (2, 50)]
  | .statusDoorError, .red => [some (2, 50)]
  | _, _ => []

/-- `PWM_setFrequency` takes the request. -/
def PwmRequest.InRange : PwmRequest → Prop
  | none => True
  | some (hz, pct) => 1 ≤ hz ∧ 0 ≤ pct ∧ pct ≤ 100

theorem PwmDevice.ask_fits {d : PwmDevice} (h : d.Fits) {r : PwmRequest} (hr : r.InRange) :
    (d.ask r).Fits := by
  cases r with
  | none => exact h
  | some p =>
      obtain ⟨hz, pct⟩ := p
      have hle := dutyFor_le hz hr.2.2
      have hfits : d.duty ≤ d.period := h
      show dutyFor hz pct ≤ if d.duty ≤ periodFor hz then periodFor hz else d.period
      split <;> omega

/-- The four writes, on a fitting device whose files can be written. -/
theorem pwmWriteSettings_device {d : PwmDevice} (h : d.Fits) {period duty : Nat}
    (hduty : duty ≤ period) {io : Fin 4 → Stdio} (hio : ∀ k, (io k).ok = true) :
    (pwmWriteSettings d period duty io).device
      = ⟨if d.duty ≤ period then period else d.period, duty, true⟩ := by
  have hfits : d.duty ≤ d.period := h
  obtain ⟨p, hp, hle⟩ : ∃ p, (if d.duty ≤ period then period else d.period) = p ∧ duty ≤ p := by
    split
    · exact ⟨period, rfl, hduty⟩
    · exact ⟨d.period, rfl, by omega⟩
  have hperiod : pwmSetPeriod { d with enabled := false } period (io 1)
      = ⟨true, ⟨p, d.duty, false⟩, !decide (d.duty ≤ period)⟩ := by
    rw [pwmSetPeriod, writeToFile_of_ok (hio 1), ← hp]
    by_cases hfit : d.duty ≤ period
    · simp [PwmDevice.set, hfit]
    · simp [PwmDevice.set, hfit]
  have hset : pwmSetDutyCycle ⟨p, d.duty, false⟩ duty (io 2) = ⟨true, ⟨p, duty, false⟩, false⟩ := by
    rw [pwmSetDutyCycle, writeToFile_of_ok (hio 2)]
    exact if_pos hle
  have hon : pwmEnable ⟨p, duty, false⟩ (io 3) = ⟨true, ⟨p, duty, true⟩, false⟩ := by
    rw [pwmEnable, writeToFile_of_ok (hio 3)]
    exact if_pos hle
  unfold pwmWriteSettings
  simp [pwmDisable_of_ok (hio 0) h, hperiod, hset, hon, Written.after, hp]

/-- A frequency in range, on such a device. -/
theorem pwmSetFrequency_of_ok {d : PwmDevice} (h : d.Fits) {c : FrequencyCall} (hhz : 1 ≤ c.hz)
    (hlo : 0 ≤ c.dutyCyclePercent) (hhi : c.dutyCyclePercent ≤ 100)
    (hio : ∀ k, (c.io k).ok = true) :
    (pwmSetFrequency d c).ok = true
      ∧ (pwmSetFrequency d c).device = d.ask (some (c.hz, c.dutyCyclePercent)) := by
  rw [pwmSetFrequency_in_range d hhz hlo hhi, pwmWriteSettings_ok,
    pwmWriteSettings_device h (dutyFor_le c.hz hhi) hio, hio, hio, hio]
  exact ⟨rfl, rfl⟩

/-! ## A sequence on working files -/

namespace LedFiles

def Fits (s : LedFiles) : Prop := ∀ led, (s.outputs led).Fits

/-- From `s` to `s'` each LED was asked its list of requests, and did what it was asked. -/
structure Follows (s s' : LedFiles) (asked : Led → List PwmRequest) : Prop where
  fits : s'.Fits
  outputs : ∀ led, s'.outputs led = (asked led).foldl PwmDevice.ask (s.outputs led)

theorem Follows.refl {s : LedFiles} (h : s.Fits) : s.Follows s fun _ => [] :=
  ⟨h, fun _ => rfl⟩

theorem Follows.trans {s s' s'' : LedFiles} {asked asked' : Led → List PwmRequest}
    (h : s.Follows s' asked) (h' : s'.Follows s'' asked') :
    s.Follows s'' fun led => asked led ++ asked' led := by
  refine ⟨h'.fits, fun led => ?_⟩
  rw [h'.outputs, h.outputs, List.foldl_append]

/-- Requests of one LED. -/
def only (led : Led) (rs : List PwmRequest) : Led → List PwmRequest :=
  fun l => if l = led then rs else []

/-- One call that does what is asked. -/
theorem follows_of_update {s s' : LedFiles} (h : s.Fits) {led : Led} {r : PwmRequest}
    (hr : r.InRange)
    (heq : s'.outputs = Function.update s.outputs led ((s.outputs led).ask r)) :
    s.Follows s' (only led [r]) := by
  have hone : ∀ l, s'.outputs l = (only led [r] l).foldl PwmDevice.ask (s.outputs l) := by
    intro l
    rw [heq]
    by_cases hl : l = led
    · subst hl
      simp [only]
    · simp [only, hl]
  refine ⟨fun l => ?_, hone⟩
  rw [heq]
  by_cases hl : l = led
  · rw [hl, Function.update_self]
    exact PwmDevice.ask_fits (h led) hr
  · rw [Function.update_of_ne hl]
    exact h l

section Working

variable {io : Nat → Fin 4 → Stdio} {s : LedFiles}

theorem follows_disable (hio : ∀ n k, (io n k).ok = true) (h : s.Fits) (led : Led) :
    s.Follows (s.disable io led) (only led [none]) := by
  refine follows_of_update h trivial ?_
  show Function.update s.outputs led (pwmDisable (s.outputs led) (io s.calls 0)).device = _
  rw [pwmDisable_of_ok (hio s.calls 0) (h led)]
  rfl

theorem follows_setFrequency (hio : ∀ n k, (io n k).ok = true) (h : s.Fits) (led : Led)
    {hz pct : Int} (hhz : 1 ≤ hz) (hlo : 0 ≤ pct) (hhi : pct ≤ 100) :
    (s.setFrequency io led hz pct).2 = true
      ∧ s.Follows (s.setFrequency io led hz pct).1 (only led [some (hz, pct)]) := by
  obtain ⟨hok, hdevice⟩ :=
    pwmSetFrequency_of_ok (c := ⟨led, hz, pct, io s.calls⟩) (h led) hhz hlo hhi (hio s.calls)
  exact ⟨hok, follows_of_update h ⟨hhz, hlo, hhi⟩
    (congrArg (Function.update s.outputs led) hdevice)⟩

theorem follows_slowFlash (hio : ∀ n k, (io n k).ok = true) (h : s.Fits) (led : Led) :
    s.Follows (s.slowFlash io led) (only led [some (2, 50)]) := by
  obtain ⟨hok, hfollows⟩ := follows_setFrequency hio h led (show (1 : Int) ≤ 2 by omega)
    (show (0 : Int) ≤ 50 by omega) (by omega)
  unfold slowFlash
  generalize s.setFrequency io led 2 50 = r at hok hfollows
  obtain ⟨s', ok⟩ := r
  obtain rfl : ok = true := hok
  exact hfollows

theorem follows_ledSetGreenSteady (hio : ∀ n k, (io n k).ok = true) (h : s.Fits) {pct : Int}
    (hlo : 0 ≤ pct) (hhi : pct ≤ 100) :
    s.Follows (s.ledSetGreenSteady io pct) (only .green [some (1000, pct)]) :=
  (follows_setFrequency hio h .green (by omega) hlo hhi).2

/-- A blink in range leaves its LED off; any other does nothing. -/
theorem follows_ledBlinkN (hio : ∀ n k, (io n k).ok = true) (h : s.Fits) (led : Led)
    (f hz pct : Int) :
    s.Follows (ledBlinkN io led s f hz pct)
      (only led (if f ≤ 0 ∨ hz ≤ 0 ∨ pct < 0 ∨ pct > 100 then [] else [some (hz, pct), none])) := by
  have hnone : s.Follows s (only led []) :=
    ⟨h, fun l => by simp [only]⟩
  unfold ledBlinkN
  by_cases hshort : f ≤ 0 ∨ hz ≤ 0
  · rw [if_pos hshort, if_pos (by omega)]
    exact hnone
  · rw [if_neg hshort]
    by_cases hpct : pct < 0 ∨ pct > 100
    · rw [if_pos (by omega)]
      have hset : s.setFrequency io led hz pct = (⟨s.outputs, s.calls + 1⟩, false) := by
        simp [setFrequency, pwmSetFrequency, hpct]
      rw [hset]
      exact ⟨h, fun l => by simp [only]⟩
    · rw [if_neg (by omega)]
      obtain ⟨hok, hfollows⟩ := follows_setFrequency hio h led (show 1 ≤ hz by omega)
        (show 0 ≤ pct by omega) (by omega)
      generalize s.setFrequency io led hz pct = r at hok hfollows
      obtain ⟨s', ok⟩ := r
      obtain rfl : ok = true := hok
      have hboth := hfollows.trans (follows_disable hio hfollows.fits led)
      refine ⟨hboth.fits, fun l => ?_⟩
      rw [hboth.outputs]
      by_cases hl : l = led <;> simp [only, hl]

/-- Requests of both LEDs, in one list for each. -/
theorem Follows.congr {s s' : LedFiles} {asked asked' : Led → List PwmRequest}
    (h : s.Follows s' asked) (hred : asked .red = asked' .red)
    (hgreen : asked .green = asked' .green) : s.Follows s' asked' := by
  refine ⟨h.fits, fun led => ?_⟩
  rw [h.outputs]
  cases led with
  | red => rw [hred]
  | green => rw [hgreen]

/-- Both LEDs off, as three of the sequences begin. -/
theorem follows_bothOff (hio : ∀ n k, (io n k).ok = true) (h : s.Fits) :
    s.Follows ((s.disable io .green).disable io .red) fun _ => [none] := by
  have hgreen := follows_disable hio h .green
  exact (hgreen.trans (follows_disable hio hgreen.fits .red)).congr rfl rfl

/-- `LED_lock_failure_sequence`, which is also `LED_unlock_failure_sequence`. -/
theorem follows_ledLockFailureSequence (hio : ∀ n k, (io n k).ok = true) (h : s.Fits) :
    s.Follows (s.ledLockFailureSequence io) (LedSequence.lockFailure.asks) := by
  have hoff := follows_bothOff hio h
  have hblink := hoff.trans (follows_ledBlinkN hio hoff.fits .red 5 10 90)
  exact (hblink.trans (follows_slowFlash hio hblink.fits .red)).congr rfl rfl

/-- What the worker calls for a sequence is what the sequence asks of the LEDs. -/
theorem follows_perform (hio : ∀ n k, (io n k).ok = true) (h : s.Fits) (c : LedSequence) :
    s.Follows (s.perform io c) c.asks := by
  cases c with
  | blinkRedN f hz pct => exact (follows_ledBlinkN hio h .red f hz pct).congr rfl rfl
  | hubCommandSuccess =>
      exact (follows_ledSetGreenSteady hio h (by omega) (by omega)).congr rfl rfl
  | statusNetworkError => exact (follows_slowFlash hio h .green).congr rfl rfl
  | hubCommandFailure => exact (follows_ledBlinkN hio h .red 5 10 90).congr rfl rfl
  | lockSuccess =>
      have hoff := follows_disable hio h .green
      have hblink := hoff.trans (follows_ledBlinkN hio hoff.fits .red 2 7 90)
      have hon := hblink.trans (follows_ledSetGreenSteady hio hblink.fits
        (show (0 : Int) ≤ 30 by omega) (by omega))
      exact hon.congr rfl rfl
  | lockFailure => exact follows_ledLockFailureSequence hio h
  | unlockSuccess =>
      have hoff := follows_bothOff hio h
      have hblink := hoff.trans (follows_ledBlinkN hio hoff.fits .red 2 7 90)
      have hon := hblink.trans (follows_ledSetGreenSteady hio hblink.fits
        (show (0 : Int) ≤ 30 by omega) (by omega))
      exact hon.congr rfl rfl
  | unlockFailure => exact (follows_ledLockFailureSequence hio h).congr rfl rfl
  | statusDoorError => exact (follows_slowFlash hio h .red).congr rfl rfl

theorem follows_performAll (hio : ∀ n k, (io n k).ok = true) (h : s.Fits) (cs : List LedSequence) :
    s.Follows (cs.foldl (perform io) s) fun led => cs.flatMap fun c => c.asks led := by
  induction cs generalizing s with
  | nil => exact .refl h
  | cons c cs ih =>
      have hc := follows_perform hio h c
      exact hc.trans (ih hc.fits)

end Working

end LedFiles

/-! ## Lists of requests -/

namespace PwmRequest

/-- The frequencies among the requests. -/
def frequencies (rs : List PwmRequest) : List (Int × Int) := rs.filterMap id

@[simp] theorem frequencies_concat_none (rs : List PwmRequest) :
    frequencies (rs ++ [none]) = frequencies rs := by
  simp [frequencies]

@[simp] theorem frequencies_concat_some (rs : List PwmRequest) (p : Int × Int) :
    frequencies (rs ++ [some p]) = frequencies rs ++ [p] := by
  simp [frequencies]

/-- The pulse after the given frequencies, from a device that has none. -/
def pulseAfter (fs : List (Int × Int)) : Nat :=
  match fs.getLast? with
  | some (hz, pct) => dutyFor hz pct
  | none => 0

end PwmRequest

namespace PwmDevice

/-- A device that has done nothing yet. -/
def fresh : PwmDevice := ⟨0, 0, false⟩

def askAll (rs : List PwmRequest) : PwmDevice := rs.foldl ask fresh

theorem askAll_concat (rs : List PwmRequest) (r : PwmRequest) :
    askAll (rs ++ [r]) = (askAll rs).ask r := by
  rw [askAll, List.foldl_append]
  rfl

/-- It is on if the last request is a frequency. -/
theorem askAll_enabled (rs : List PwmRequest) :
    (askAll rs).enabled = match rs.getLast? with
      | some r => r.isSome
      | none => false := by
  induction rs using List.reverseRecOn with
  | nil => rfl
  | append_singleton rs r _ =>
      rw [askAll_concat, List.getLast?_concat]
      cases r <;> rfl

/-- Its pulse is the last frequency's. -/
theorem askAll_duty (rs : List PwmRequest) :
    (askAll rs).duty = PwmRequest.pulseAfter (PwmRequest.frequencies rs) := by
  induction rs using List.reverseRecOn with
  | nil => rfl
  | append_singleton rs r ih =>
      rw [askAll_concat]
      cases r with
      | none =>
          rw [PwmRequest.frequencies_concat_none]
          exact ih
      | some p => simp [ask, PwmRequest.pulseAfter]

theorem askAll_fits {rs : List PwmRequest} (hrs : ∀ r ∈ rs, r.InRange) : (askAll rs).Fits := by
  induction rs using List.reverseRecOn with
  | nil => exact Nat.le_refl 0
  | append_singleton rs r ih =>
      rw [askAll_concat]
      exact ask_fits (ih fun r' hr' => hrs r' (List.mem_append_left _ hr'))
        (hrs r (List.mem_append_right _ (List.mem_singleton_self r)))

/-- Its period is the last frequency's, unless the pulse before was longer. -/
theorem askAll_period {rs : List PwmRequest} (hrs : ∀ r ∈ rs, r.InRange)
    {fs : List (Int × Int)} {hz pct : Int}
    (hlast : PwmRequest.frequencies rs = fs ++ [(hz, pct)]) :
    (askAll rs).period = periodFor hz ↔ PwmRequest.pulseAfter fs ≤ periodFor hz := by
  induction rs using List.reverseRecOn generalizing fs with
  | nil => exact absurd hlast.symm (List.append_ne_nil_of_right_ne_nil _ (List.cons_ne_nil _ _))
  | append_singleton rs r ih =>
      have hrs' : ∀ r' ∈ rs, r'.InRange := fun r' hr' => hrs r' (List.mem_append_left _ hr')
      rw [askAll_concat]
      cases r with
      | none =>
          rw [PwmRequest.frequencies_concat_none] at hlast
          exact ih hrs' hlast
      | some p =>
          rw [PwmRequest.frequencies_concat_some] at hlast
          obtain ⟨rfl, hp⟩ := List.append_inj' hlast rfl
          obtain rfl : p = (hz, pct) := (List.cons.inj hp).1
          have hfits : (askAll rs).duty ≤ (askAll rs).period := askAll_fits hrs'
          rw [← askAll_duty]
          show (if (askAll rs).duty ≤ periodFor hz then periodFor hz else (askAll rs).period)
            = periodFor hz ↔ _
          split
          · exact iff_of_true rfl ‹_›
          · omega

end PwmDevice

/-! ## The worker and its LEDs -/

/-- What the worker has played once it makes the step. -/
def LedWorker.performs (w : LedWorker) (i : LedWorker.Label) : List LedSequence :=
  match i, w.worker with
  | .play, .playing t => [sequenceOf t]
  | _, _ => []

theorem LedWorker.played_step {w w' : LedWorker} {i : LedWorker.Label} (hs : w.step i = some w') :
    w'.played = w.played ++ w.performs i := by
  cases i with
  | enqueue c =>
      obtain rfl := Option.some.inj hs
      rw [ledEnqueue_eq, enqueue_queue]
      exact (List.append_nil _).symm
  | look =>
      simp only [step] at hs
      split at hs
      · obtain rfl := Option.some.inj hs
        have hplayed : w.look.played = w.played := by
          unfold look
          split
          · rfl
          · split
            · rfl
            · split <;> rfl
        rw [hplayed]
        exact (List.append_nil _).symm
      · cases hs
  | play =>
      simp only [step] at hs
      split at hs
      · rename_i t hw
        obtain rfl := Option.some.inj hs
        simp [play, performs, hw]
      · cases hs
  | init created =>
      simp only [step] at hs
      split at hs
      · cases hs
      · obtain rfl := Option.some.inj hs
        refine Eq.trans ?_ (List.append_nil _).symm
        unfold ledWorkerInit
        split
        · rfl
        · split <;> rfl
  | shutdown =>
      simp only [step] at hs
      split at hs
      · cases hs
      · obtain rfl := Option.some.inj hs
        refine Eq.trans ?_ (List.append_nil _).symm
        unfold ledWorkerShutdown
        split <;> rfl
  | joined =>
      simp only [step] at hs
      split at hs
      · obtain rfl := Option.some.inj hs
        exact (List.append_nil _).symm
      · cases hs

structure LedSystem where
  worker : LedWorker
  files : LedFiles

namespace LedSystem

def initial : LedSystem := ⟨.initial, ⟨fun _ => .fresh, 0⟩⟩

/-- A step of the worker; playing a task is performing its sequence. -/
def step (io : Nat → Fin 4 → Stdio) (s : LedSystem) (i : LedWorker.Label) : Option LedSystem :=
  (s.worker.step i).map fun w =>
    ⟨w, (s.worker.performs i).foldl (LedFiles.perform io) s.files⟩

/-- All that was asked of an LED. -/
def asked (s : LedSystem) (led : Led) : List PwmRequest := s.worker.played.flatMap fun c => c.asks led

theorem asks_inRange (c : LedSequence) (led : Led) : ∀ r ∈ c.asks led, r.InRange := by
  cases c with
  | blinkRedN f hz pct =>
      cases led with
      | red =>
          show ∀ r ∈ (if f ≤ 0 ∨ hz ≤ 0 ∨ pct < 0 ∨ pct > 100 then [] else [some (hz, pct), none]),
            PwmRequest.InRange r
          split
          · simp
          · have hrange : PwmRequest.InRange (some (hz, pct)) := ⟨by omega, by omega, by omega⟩
            simpa [PwmRequest.InRange] using hrange
      | green => simp [LedSequence.asks]
  | _ => cases led <;> simp [LedSequence.asks, PwmRequest.InRange]

/-- The LEDs do what they were asked. -/
structure Obeys (s : LedSystem) : Prop where
  fits : s.files.Fits
  outputs : ∀ led, s.files.outputs led = PwmDevice.askAll (s.asked led)

theorem obeys_initial : initial.Obeys := ⟨fun _ => Nat.le_refl 0, fun _ => rfl⟩

theorem Obeys.step {io : Nat → Fin 4 → Stdio} (hio : ∀ n k, (io n k).ok = true)
    {s s' : LedSystem} {i : LedWorker.Label} (h : s.Obeys) (hs : step io s i = some s') :
    s'.Obeys := by
  obtain ⟨w, hw, rfl⟩ := Option.map_eq_some_iff.mp hs
  have hplayed := LedWorker.played_step hw
  have hplay := LedFiles.follows_performAll hio h.fits (s.worker.performs i)
  refine ⟨hplay.fits, fun led => ?_⟩
  have hasked : w.played.flatMap (fun c => c.asks led)
      = s.asked led ++ (s.worker.performs i).flatMap fun c => c.asks led := by
    rw [hplayed, List.flatMap_append, asked]
  show _ = PwmDevice.askAll (w.played.flatMap fun c => c.asks led)
  rw [hplay.outputs, h.outputs, hasked]
  exact List.foldl_append.symm

theorem asked_inRange (s : LedSystem) (led : Led) : ∀ r ∈ s.asked led, r.InRange := by
  intro r hr
  obtain ⟨c, -, hc⟩ := List.mem_flatMap.mp hr
  exact asks_inRange c led r hc

/-- In every run with files that can be written, an LED is on if the last request lit it,
and its pulse is the one last asked for; its period is, too, exactly if the pulse before
fits into it. -/
theorem shows_run {io : Nat → Fin 4 → Stdio} (hio : ∀ n k, (io n k).ok = true)
    {is : List LedWorker.Label} {s : LedSystem} (hr : Lts.run (step io) initial is = some s)
    (led : Led) :
    ((s.files.outputs led).enabled = match (s.asked led).getLast? with
        | some r => r.isSome
        | none => false)
      ∧ (s.files.outputs led).duty = PwmRequest.pulseAfter (PwmRequest.frequencies (s.asked led))
      ∧ ∀ fs hz pct, PwmRequest.frequencies (s.asked led) = fs ++ [(hz, pct)] →
          ((s.files.outputs led).period = periodFor hz ↔ PwmRequest.pulseAfter fs ≤ periodFor hz) := by
  have h : s.Obeys := Lts.inv_run_of_step (fun _ _ _ h hs => Obeys.step hio h hs) obeys_initial hr
  rw [h.outputs]
  exact ⟨PwmDevice.askAll_enabled _, PwmDevice.askAll_duty _,
    fun fs hz pct hlast => PwmDevice.askAll_period (s.asked_inRange led) hlast⟩

def allWritten : Nat → Fin 4 → Stdio := fun _ _ => ⟨true, true⟩

/-- A command of the hub's times out, the next lock succeeds. -/
def errorThenLock : List LedWorker.Label :=
  [.init true, .enqueue .statusNetworkError, .look, .play, .enqueue .lockSuccess, .look, .play]

theorem shows_run_errorThenLock : ∃ s, Lts.run (step allWritten) initial errorThenLock = some s
    ∧ (s.files.outputs .green).duty
        = PwmRequest.pulseAfter (PwmRequest.frequencies (s.asked .green)) := by
  have hrun : Lts.run (step allWritten) initial errorThenLock = some _ := rfl
  exact ⟨_, hrun, (shows_run (fun _ _ => rfl) hrun .green).2.1⟩

/-! ## What the LEDs say -/

/-- The worker has played all that was not dropped. -/
def CaughtUp (s : LedSystem) : Prop := s.worker.queue.toList = [] ∧ s.worker.inHand = []

end LedSystem

end HomeSecurity
