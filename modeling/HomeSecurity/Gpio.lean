import HomeSecurity.CText
import HomeSecurity.Lts
import Mathlib.Data.Finset.Insert
import Mathlib.Data.Finset.Erase

/-!
# Setting up GPIO lines

`GPIO.c`: `export_pin` and `set_pin_direction` ask the kernel for a line and keep
its descriptor in `gpio_fds`. A cell's descriptor is closed before it is replaced,
if it is not negative - and the initializer `{{{-1, false, false}}}` makes only the
first of the 210 cells negative; the others hold descriptor 0.

What the kernel answers is an input; a descriptor it hands out is one that is not
open. `closesOwn_iff` names the sequences of calls that close nothing but their own
descriptors.
-/

namespace HomeSecurity

open CText

abbrev maxChips : Nat := 3
abbrev maxLinesPerChip : Nat := 70

/-- A cell of `gpio_fds`. -/
structure GpioCell where
  lineFd : Int
  isOutput : Bool
  inUse : Bool
deriving DecidableEq

/-- A valid chip and line. -/
abbrev GpioLine := Fin maxChips × Fin maxLinesPerChip

/-- The one line whose cell the initializer names. -/
def firstLine : GpioLine := (0, 0)

/-- The initial `gpio_fds`: what the initializer does not name is zero. -/
def gpioFds (l : GpioLine) : GpioCell :=
  if l = firstLine then ⟨-1, false, false⟩ else ⟨0, false, false⟩

/-- The process as far as its descriptors go. -/
structure GpioProcess where
  cells : GpioLine → GpioCell
  /-- The descriptors open in the process. -/
  opened : Finset Int
  /-- The line descriptors stored so far, with their lines. -/
  stores : List (GpioLine × Int)

/-- What the kernel answers to one `gpio_line_init`; a negative descriptor is a failure. -/
structure KernelAnswers where
  chipFd : Int
  infoOk : Bool
  lineOk : Bool
  /-- `req.fd`. -/
  lineFd : Int

/-- The call gets a line descriptor. -/
def KernelAnswers.Grants (k : KernelAnswers) : Prop :=
  0 ≤ k.chipFd ∧ k.infoOk = true ∧ k.lineOk = true ∧ 0 ≤ k.lineFd

/-- A `close`, and whether its descriptor was open. -/
structure Close where
  fd : Int
  live : Bool
deriving DecidableEq

/-- What a call returns, leaves behind and closes. -/
structure GpioCall where
  ok : Bool
  process : GpioProcess
  closes : List Close

namespace GpioProcess

/-- The program's start, with `opened` open. -/
def initial (opened : Finset Int) : GpioProcess := ⟨gpioFds, opened, []⟩

def opens (s : GpioProcess) (fd : Int) : GpioProcess := { s with opened := insert fd s.opened }

def closes (s : GpioProcess) (fd : Int) : GpioProcess := { s with opened := s.opened.erase fd }

def closing (s : GpioProcess) (fd : Int) : Close := ⟨fd, fd ∈ s.opened⟩

/-- `gpio_line_init`. -/
def gpioLineInit (s : GpioProcess) (l : GpioLine) (isOutput : Bool) (k : KernelAnswers) :
    GpioCall :=
  if k.chipFd < 0 then ⟨false, s, []⟩
  else
    let s := s.opens k.chipFd
    if !k.infoOk then ⟨false, s.closes k.chipFd, [s.closing k.chipFd]⟩
    else if !k.lineOk then ⟨false, s.closes k.chipFd, [s.closing k.chipFd]⟩
    else
      let s := if k.lineFd < 0 then s else s.opens k.lineFd
      let chip := s.closing k.chipFd
      let s := s.closes k.chipFd
      if k.lineFd < 0 then ⟨false, s, [chip]⟩
      else
        let old := (s.cells l).lineFd
        let store (s : GpioProcess) : GpioProcess :=
          { s with
            cells := Function.update s.cells l ⟨k.lineFd, isOutput, true⟩
            stores := s.stores ++ [(l, k.lineFd)] }
        -- close existing if any
        if old ≥ 0 then ⟨true, store (s.closes old), [chip, s.closing old]⟩
        else ⟨true, store s, [chip]⟩

end GpioProcess

/-- A line as the callers give it, if it is a valid one. -/
def gpioLine (chip line : Int) : Option GpioLine :=
  if h : (0 ≤ chip ∧ chip < maxChips) ∧ 0 ≤ line ∧ line < maxLinesPerChip then
    some (⟨chip.toNat, by omega⟩, ⟨line.toNat, by omega⟩)
  else none

/-- A call of `export_pin` or of `set_pin_direction`; `none` is a `NULL` direction. -/
structure PinCall where
  chip : Int
  line : Int
  direction : Option Text
  kernel : KernelAnswers

namespace GpioProcess

/-- The body `export_pin` and `set_pin_direction` share. -/
def pinInit (s : GpioProcess) (c : PinCall) : GpioCall :=
  match c.direction, gpioLine c.chip c.line with
  | some direction, some l => s.gpioLineInit l (direction = "out".toList) c.kernel
  | _, _ => ⟨false, s, []⟩

def exportPin (s : GpioProcess) (c : PinCall) : GpioCall := s.pinInit c

/-- A new direction is a new request. -/
def setPinDirection (s : GpioProcess) (c : PinCall) : GpioCall := s.pinInit c

inductive Op where
  | exportPin (c : PinCall)
  | setPinDirection (c : PinCall)

def Op.pin : Op → PinCall
  | .exportPin c => c
  | .setPinDirection c => c

def call (s : GpioProcess) : Op → GpioCall
  | .exportPin c => s.exportPin c
  | .setPinDirection c => s.setPinDirection c

/-- The descriptors the kernel hands out are not open. -/
def Fresh (s : GpioProcess) (k : KernelAnswers) : Prop :=
  (0 ≤ k.chipFd → k.chipFd ∉ s.opened)
    ∧ (0 ≤ k.lineFd → k.lineFd ∉ s.opened ∧ k.lineFd ≠ k.chipFd)

instance decidableFresh (s : GpioProcess) (k : KernelAnswers) : Decidable (s.Fresh k) :=
  inferInstanceAs (Decidable ((_ → _) ∧ (_ → _)))

def step (s : GpioProcess) (op : Op) : Option GpioProcess :=
  if s.Fresh op.pin.kernel then some (s.call op).process else none

/-! ## What is closed -/

/-- Every open descriptor a call closes is the chip's it opened itself, or one that an
earlier call stored for its line. -/
def ClosesOwn (s : GpioProcess) (op : Op) : Prop :=
  s.Fresh op.pin.kernel → ∀ c ∈ (s.call op).closes, c.live = true →
    c.fd = op.pin.kernel.chipFd ∨
      ∃ l, gpioLine op.pin.chip op.pin.line = some l ∧ (l, c.fd) ∈ s.stores

/-- A call that gets a descriptor for a line that has none yet is for the first line,
or descriptor 0 is neither open nor the one it got. -/
def SparesZero (s : GpioProcess) (op : Op) : Prop :=
  s.Fresh op.pin.kernel → op.pin.direction.isSome = true → op.pin.kernel.Grants →
    ∀ l, gpioLine op.pin.chip op.pin.line = some l → (∀ fd, (l, fd) ∉ s.stores) →
      l = firstLine ∨ (0 ∉ s.opened ∧ op.pin.kernel.lineFd ≠ 0)

/-- A cell holds a descriptor stored for its line, or none was stored and it is as it
was. -/
def Keeps (s : GpioProcess) : Prop :=
  ∀ l, (l, (s.cells l).lineFd) ∈ s.stores ∨ (∀ fd, (l, fd) ∉ s.stores) ∧ s.cells l = gpioFds l

theorem keeps_initial (opened : Finset Int) : (initial opened).Keeps :=
  fun _ => Or.inr ⟨fun _ => List.not_mem_nil, rfl⟩

section Line

variable {s : GpioProcess} {l : GpioLine} {o : Bool} {k : KernelAnswers}

/-- Without a line descriptor nothing but the chip's is closed, and nothing stored. -/
theorem gpioLineInit_of_not_grants (hk : ¬k.Grants) :
    (∀ c ∈ (s.gpioLineInit l o k).closes, c.fd = k.chipFd)
      ∧ (s.gpioLineInit l o k).process.cells = s.cells
      ∧ (s.gpioLineInit l o k).process.stores = s.stores := by
  unfold gpioLineInit
  simp only
  split
  · exact ⟨fun c hc => absurd hc List.not_mem_nil, rfl, rfl⟩
  · rename_i hchip
    split
    · exact ⟨fun c hc => List.mem_singleton.mp hc ▸ rfl, rfl, rfl⟩
    · rename_i hinfo
      split
      · exact ⟨fun c hc => List.mem_singleton.mp hc ▸ rfl, rfl, rfl⟩
      · rename_i hline
        have hneg : k.lineFd < 0 := by
          by_contra hpos
          exact hk ⟨by omega, by simpa using hinfo, by simpa using hline, by omega⟩
        simp only [if_pos hneg]
        exact ⟨fun c hc => List.mem_singleton.mp hc ▸ rfl, rfl, rfl⟩

/-- With one, the cell's old descriptor is closed if it is not negative. -/
theorem gpioLineInit_of_grants (hk : k.Grants) :
    (s.gpioLineInit l o k).closes
        = ((s.opens k.chipFd).opens k.lineFd).closing k.chipFd
          :: (if (s.cells l).lineFd ≥ 0 then
              [(((s.opens k.chipFd).opens k.lineFd).closes k.chipFd).closing (s.cells l).lineFd]
            else [])
      ∧ (s.gpioLineInit l o k).process.cells
        = Function.update s.cells l ⟨k.lineFd, o, true⟩
      ∧ (s.gpioLineInit l o k).process.stores = s.stores ++ [(l, k.lineFd)] := by
  obtain ⟨hchip, hinfo, hline, hfd⟩ := hk
  have hchip' : ¬k.chipFd < 0 := by omega
  have hfd' : ¬k.lineFd < 0 := by omega
  unfold gpioLineInit
  simp only [hchip', hfd', hinfo, hline, if_false, Bool.not_true, Bool.false_eq_true]
  split
  · rename_i hold
    rw [if_pos (show (s.cells l).lineFd ≥ 0 from hold)]
    exact ⟨rfl, rfl, rfl⟩
  · rename_i hold
    rw [if_neg (show ¬(s.cells l).lineFd ≥ 0 from hold)]
    exact ⟨rfl, rfl, rfl⟩

theorem keeps_gpioLineInit (h : s.Keeps) : (s.gpioLineInit l o k).process.Keeps := by
  intro l'
  by_cases hk : k.Grants
  · obtain ⟨-, hcells, hstores⟩ := gpioLineInit_of_grants (s := s) (l := l)
      (o := o) hk
    rw [hcells, hstores]
    by_cases hl : l' = l
    · left
      rw [hl, Function.update_self]
      exact List.mem_append_right _ (List.mem_singleton_self _)
    · rw [Function.update_of_ne hl]
      rcases h l' with hmem | ⟨hnone, hcell⟩
      · exact Or.inl (List.mem_append_left _ hmem)
      · refine Or.inr ⟨fun fd hfd => ?_, hcell⟩
        rcases List.mem_append.mp hfd with hfd | hfd
        · exact hnone fd hfd
        · exact hl (congrArg Prod.fst (List.mem_singleton.mp hfd))
  · obtain ⟨-, hcells, hstores⟩ := gpioLineInit_of_not_grants (s := s) (l := l)
      (o := o) hk
    rw [hcells, hstores]
    exact h l'

/-- The chip's descriptor is neither one that was open nor the one the call got. -/
theorem chipFd_ne_zero (hk : k.Grants) (hfresh : s.Fresh k)
    (hzero : 0 ∈ s.opened ∨ k.lineFd = 0) : k.chipFd ≠ 0 := by
  intro he
  rcases hzero with hzero | hzero
  · exact hfresh.1 hk.1 (he ▸ hzero)
  · exact (hfresh.2 hk.2.2.2).2 (hzero.trans he.symm)

/-- Descriptor 0 is open when a cell's old descriptor is closed, if it was before the
call or is the one the call got. -/
theorem zero_closing_live_iff (hk : k.Grants) (hfresh : s.Fresh k) :
    ((((s.opens k.chipFd).opens k.lineFd).closes k.chipFd).closing 0).live = true ↔
      0 ∈ s.opened ∨ k.lineFd = 0 := by
  simp only [closing, closes, opens, decide_eq_true_eq, Finset.mem_erase, Finset.mem_insert]
  constructor
  · rintro ⟨hne, hzero | hzero | hzero⟩
    · exact Or.inr hzero.symm
    · exact absurd hzero hne
    · exact Or.inl hzero
  · intro hzero
    refine ⟨fun he => chipFd_ne_zero hk hfresh hzero he.symm, ?_⟩
    rcases hzero with hzero | hzero
    · exact Or.inr (Or.inr hzero)
    · exact Or.inl hzero.symm

/-- What is closed beside the chip's descriptor is the cell's old one: one stored for the
line, or, in a cell as it was, descriptor 0 if it is open by then. -/
theorem closesOwn_gpioLineInit (h : s.Keeps) (hfresh : s.Fresh k) :
    (∀ c ∈ (s.gpioLineInit l o k).closes, c.live = true →
        c.fd = k.chipFd ∨ (l, c.fd) ∈ s.stores)
      ↔ (k.Grants → (∀ fd, (l, fd) ∉ s.stores) →
          l = firstLine ∨ (0 ∉ s.opened ∧ k.lineFd ≠ 0)) := by
  by_cases hk : k.Grants
  · obtain ⟨hcloses, -, -⟩ := gpioLineInit_of_grants (s := s) (l := l)
      (o := o) hk
    rw [hcloses, List.forall_mem_cons]
    rcases h l with hmem | ⟨hnone, hcell⟩
    · -- an earlier call stored a descriptor for the line
      refine iff_of_true ⟨fun _ => Or.inl rfl, fun c hc _ => Or.inr ?_⟩
        (fun _ hnone => absurd hmem (hnone _))
      split at hc
      · rw [List.mem_singleton.mp hc]
        exact hmem
      · cases hc
    · by_cases hl : l = firstLine
      · refine iff_of_true ⟨fun _ => Or.inl rfl, fun c hc _ => ?_⟩ (fun _ _ => Or.inl hl)
        rw [hcell, gpioFds, if_pos hl, if_neg (by decide)] at hc
        cases hc
      · rw [hcell, gpioFds, if_neg hl, if_pos (by decide), List.forall_mem_singleton]
        constructor
        · rintro ⟨-, hown⟩ _ _
          by_contra hspare
          have hzero : 0 ∈ s.opened ∨ k.lineFd = 0 := by
            by_contra hno
            exact hspare (Or.inr (not_or.mp hno))
          rcases hown ((zero_closing_live_iff hk hfresh).mpr hzero) with he | hmem
          · exact chipFd_ne_zero hk hfresh hzero he.symm
          · exact hnone 0 hmem
        · intro hspare
          refine ⟨fun _ => Or.inl rfl, fun hlive => ?_⟩
          rcases hspare hk hnone with hfirst | hno
          · exact absurd hfirst hl
          · exact absurd ((zero_closing_live_iff hk hfresh).mp hlive) (not_or.mpr hno)
  · obtain ⟨hcloses, -, -⟩ := gpioLineInit_of_not_grants (s := s) (l := l)
      (o := o) hk
    exact iff_of_true (fun c hc _ => Or.inl (hcloses c hc)) (fun hg => absurd hg hk)

end Line

theorem pinInit_of_some {c : PinCall} {direction : Text} {l : GpioLine}
    (hdir : c.direction = some direction) (hl : gpioLine c.chip c.line = some l)
    (s : GpioProcess) :
    s.pinInit c = s.gpioLineInit l (direction = "out".toList) c.kernel := by
  rw [pinInit, hdir, hl]

/-- A call without a direction, or without a valid line, does nothing. -/
theorem pinInit_of_none {c : PinCall} (h : c.direction = none ∨ gpioLine c.chip c.line = none)
    (s : GpioProcess) : s.pinInit c = ⟨false, s, []⟩ := by
  unfold pinInit
  split
  · rename_i hdir hl
    rcases h with h | h
    · rw [h] at hdir
      cases hdir
    · rw [h] at hl
      cases hl
  · rfl

theorem call_eq (s : GpioProcess) (op : Op) : s.call op = s.pinInit op.pin := by
  cases op <;> rfl

theorem keeps_step {s s' : GpioProcess} {op : Op} (h : s.Keeps) (hs : step s op = some s') :
    s'.Keeps := by
  unfold step at hs
  split at hs
  · obtain rfl := Option.some.inj hs
    rw [call_eq]
    cases hdir : op.pin.direction with
    | none =>
        rw [pinInit_of_none (Or.inl hdir)]
        exact h
    | some direction =>
        cases hl : gpioLine op.pin.chip op.pin.line with
        | none =>
            rw [pinInit_of_none (Or.inr hl)]
            exact h
        | some l =>
            rw [pinInit_of_some hdir hl]
            exact keeps_gpioLineInit h
  · cases hs

theorem closesOwn_iff_sparesZero {s : GpioProcess} (h : s.Keeps) (op : Op) :
    s.ClosesOwn op ↔ s.SparesZero op := by
  unfold ClosesOwn SparesZero
  refine imp_congr_right fun hfresh => ?_
  rw [call_eq]
  cases hdir : op.pin.direction with
  | none =>
      rw [pinInit_of_none (Or.inl hdir)]
      exact iff_of_true (fun c hc => absurd hc List.not_mem_nil) (fun hd => by cases hd)
  | some direction =>
      cases hl : gpioLine op.pin.chip op.pin.line with
      | none =>
          rw [pinInit_of_none (Or.inr hl)]
          exact iff_of_true (fun c hc => absurd hc List.not_mem_nil) (fun _ _ l hl => by cases hl)
      | some l =>
          rw [pinInit_of_some hdir hl]
          simp only [Option.some.injEq, exists_eq_left', Option.isSome_some, forall_const,
            forall_eq']
          exact closesOwn_gpioLineInit h hfresh

/-- Of the descriptors open in the process, a sequence of calls closes only its own
exactly when each call that gets a descriptor for a line that has none yet is for the
first line of the first chip, or finds descriptor 0 closed and does not get it. -/
theorem closesOwn_iff (opened : Finset Int) (is : List Op) :
    Lts.Along step ClosesOwn (initial opened) is ↔ Lts.Along step SparesZero (initial opened) is :=
  Lts.Along.congr (P := fun _ _ => True) (fun _ _ _ h _ hs => keeps_step h hs)
    (fun _ op h _ => closesOwn_iff_sparesZero h op) (keeps_initial opened)
    (Lts.along_of_forall (fun _ _ => trivial) is _)

/-! ## The first line of all -/

/-- A process with its three standard streams, and the motor's IN1 set up in it. -/
def stdStreams : Finset Int := {0, 1, 2}

def exportIn1 : List Op := [.exportPin ⟨1, 38, some "out".toList, ⟨3, true, true, 4⟩⟩]

theorem exportIn1_closes_stdin :
    ¬∀ (opened : Finset Int) (is : List Op), Lts.Along step ClosesOwn (initial opened) is := by
  intro hall
  have hown := (hall stdStreams exportIn1).1 (by decide) ⟨0, true⟩ (by decide) rfl
  rcases hown with he | ⟨l, -, hmem⟩
  · exact absurd he (by decide)
  · exact absurd hmem List.not_mem_nil

end GpioProcess

end HomeSecurity
