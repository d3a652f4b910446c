import HomeSecurity.FdTable
import HomeSecurity.Gpio
import HomeSecurity.StepperMotor

/-!
# Reading and writing pins

`write_pin_value` and `read_pin_value` go through the descriptors `gpio_fds` keeps, and
the kernel hands out the lowest descriptor that is free. The cells start with descriptor
0, and 0 is what the first set-up of a line closes; other code opens and closes
descriptors of its own in between.

`access_run` says what a pin access does after any of this: it reaches the line it
names, if that line was set up. The motor and the sensor are built on that.
-/

namespace HomeSecurity

open CText

/-- What a descriptor is open on. -/
inductive Resource where
  | chip (c : Fin maxChips)
  | line (l : GpioLine) (isOutput : Bool)
  /-- A stream, a file or a socket of other code. -/
  | other
deriving DecidableEq

/-- The process, with what its descriptors are open on. -/
structure PinProcess where
  cells : GpioLine → GpioCell
  fds : FdTable Resource

/-- What the kernel does on one `gpio_line_init`. -/
structure LineReply where
  chipOk : Bool
  infoOk : Bool
  lineOk : Bool
  /-- `req.fd` is a descriptor. -/
  fdOk : Bool

def LineReply.grants (k : LineReply) : Bool := k.chipOk && k.infoOk && k.lineOk && k.fdOk

namespace PinProcess

/-- The program's start. -/
def initial (fds : FdTable Resource) : PinProcess := ⟨gpioFds, fds⟩

/-- `gpio_line_init` for a line with a cell. -/
def gpioLineInit (s : PinProcess) (l : GpioLine) (isOutput : Bool) (k : LineReply) :
    Bool × PinProcess :=
  if !k.chipOk then (false, s)
  else
    let chipFd := s.fds.lowest
    let fds := s.fds.install (.chip l.1)
    if !k.infoOk then (false, { s with fds := fds.close chipFd })
    else if !k.lineOk then (false, { s with fds := fds.close chipFd })
    else if !k.fdOk then (false, { s with fds := fds.close chipFd })
    else
      let lineFd := fds.lowest
      let fds := (fds.install (.line l isOutput)).close chipFd
      let old := (s.cells l).lineFd
      let fds := if old ≥ 0 then fds.close old.toNat else fds
      (true, ⟨Function.update s.cells l ⟨lineFd, isOutput, true⟩, fds⟩)

/-! ## The coarser model of the same set-up -/

/-- The descriptors of a process are those that are open. -/
structure Represents (s : PinProcess) (t : GpioProcess) : Prop where
  cells : t.cells = s.cells
  opened : ∀ fd, fd ∈ t.opened ↔ s.fds.IsOpen fd

/-- The answers of a kernel that hands out lowest descriptors. -/
def answers (s : PinProcess) (l : GpioLine) (k : LineReply) : KernelAnswers where
  chipFd := if k.chipOk then s.fds.lowest else -1
  infoOk := k.infoOk
  lineOk := k.lineOk
  lineFd := if k.fdOk then (s.fds.install (.chip l.1)).lowest else -1

section Represents

variable {s : PinProcess} {t : GpioProcess} {l : GpioLine} {o : Bool} {k : LineReply}

/-- A lowest descriptor is one that is not open. -/
theorem Represents.fresh (h : s.Represents t) : t.Fresh (s.answers l k) := by
  unfold answers
  constructor
  · intro hchip
    cases hk : k.chipOk with
    | false =>
        simp only [hk, Bool.false_eq_true, if_false] at hchip
        omega
    | true =>
        rw [if_pos rfl, h.opened]
        exact s.fds.not_isOpen_lowest
  · intro hline
    cases hk : k.fdOk with
    | false =>
        simp only [hk, Bool.false_eq_true, if_false] at hline
        omega
    | true =>
        have hlt := s.fds.lowest_lt_lowest_install (.chip l.1)
        simp only [if_true]
        constructor
        · rw [h.opened]
          intro hopen
          exact (s.fds.install (.chip l.1)).not_isOpen_lowest
            ((s.fds.isOpen_install _ _).mpr (Or.inr hopen))
        · split <;> omega

theorem Represents.opens_closes {fd : Nat} (h : s.Represents t) (hfd : fd = s.fds.lowest)
    (r : Resource) :
    ({ s with fds := (s.fds.install r).close fd } : PinProcess).Represents
      ((t.opens fd).closes fd) where
  cells := h.cells
  opened i := by
    rw [FdTable.isOpen_close, FdTable.isOpen_install, ← h.opened, ← hfd]
    exact Finset.mem_erase.trans (and_congr_right fun _ => Finset.mem_insert)

/-- `gpio_line_init` here is the one of the coarser model, at what this kernel answers. -/
theorem Represents.gpioLineInit (h : s.Represents t) :
    (t.gpioLineInit l o (s.answers l k)).ok = (s.gpioLineInit l o k).1
      ∧ (s.gpioLineInit l o k).2.Represents (t.gpioLineInit l o (s.answers l k)).process := by
  unfold PinProcess.gpioLineInit GpioProcess.gpioLineInit answers
  cases hchip : k.chipOk with
  | false => exact ⟨rfl, h⟩
  | true =>
      have hchip' : ¬((s.fds.lowest : Int) < 0) := by omega
      simp only [if_true, hchip', if_false, Bool.not_true, Bool.false_eq_true]
      cases hinfo : k.infoOk with
      | false => exact ⟨rfl, h.opens_closes rfl _⟩
      | true =>
          cases hline : k.lineOk with
          | false => exact ⟨rfl, h.opens_closes rfl _⟩
          | true =>
              cases hfd : k.fdOk with
              | false => exact ⟨rfl, h.opens_closes rfl _⟩
              | true =>
                  have hfd' : ¬(((s.fds.install (.chip l.1)).lowest : Int) < 0) := by omega
                  simp only [if_true, hfd', if_false, Bool.not_true, Bool.false_eq_true]
                  have hmem : ∀ fd : Int,
                      fd ∈ (((t.opens s.fds.lowest).opens (s.fds.install (.chip l.1)).lowest).closes
                          s.fds.lowest).opened
                        ↔ (((s.fds.install (.chip l.1)).install (.line l o)).close
                            s.fds.lowest).IsOpen fd := by
                    intro fd
                    rw [FdTable.isOpen_close, FdTable.isOpen_install, FdTable.isOpen_install,
                      ← h.opened]
                    exact Finset.mem_erase.trans (and_congr_right fun _ =>
                      Finset.mem_insert.trans (or_congr_right Finset.mem_insert))
                  have hcells : (((t.opens s.fds.lowest).opens
                      (s.fds.install (.chip l.1)).lowest).closes s.fds.lowest).cells = s.cells :=
                    h.cells
                  rw [hcells]
                  split
                  · rename_i hold
                    refine ⟨rfl, congrArg (Function.update · l _) hcells, fun fd => ?_⟩
                    rw [FdTable.isOpen_close, ← hmem, Int.toNat_of_nonneg hold]
                    exact Finset.mem_erase
                  · exact ⟨rfl, rfl, hmem⟩

end Represents

/-! ## Whole runs -/

/-- The body `export_pin` and `set_pin_direction` share. -/
def pinInit (s : PinProcess) (chip line : Int) (direction : Option Text) (k : LineReply) :
    Bool × PinProcess :=
  match direction, gpioLine chip line with
  | some direction, some l => s.gpioLineInit l (direction = "out".toList) k
  | _, _ => (false, s)

def exportPin (s : PinProcess) (chip line : Int) (direction : Option Text) (k : LineReply) :
    Bool × PinProcess := s.pinInit chip line direction k

/-- A new direction is a new request. -/
def setPinDirection (s : PinProcess) (chip line : Int) (direction : Option Text) (k : LineReply) :
    Bool × PinProcess := s.pinInit chip line direction k

inductive Op where
  | exportPin (chip line : Int) (direction : Option Text) (k : LineReply)
  | setPinDirection (chip line : Int) (direction : Option Text) (k : LineReply)
  | openOther
  /-- Other code closes a descriptor it has, or had. -/
  | closeOther (fd : Nat)

def step (s : PinProcess) : Op → Option PinProcess
  | .exportPin chip line direction k => some (s.exportPin chip line direction k).2
  | .setPinDirection chip line direction k => some (s.setPinDirection chip line direction k).2
  | .openOther => some { s with fds := s.fds.install .other }
  | .closeOther fd =>
      if s.fds.refers fd = some .other ∨ s.fds.refers fd = none then
        some { s with fds := s.fds.close fd }
      else none

/-- The direction of the set-up of `l` that an operation makes, if it makes one. -/
def Op.setsUp : Op → GpioLine → Option Bool
  | .exportPin chip line direction k, l | .setPinDirection chip line direction k, l =>
      if gpioLine chip line = some l ∧ k.grants = true then
        direction.map fun d => decide (d = "out".toList)
      else none
  | .openOther, _ | .closeOther _, _ => none

/-- The set-ups of the lines, after one more operation. -/
def note (m : GpioLine → Option Bool) (i : Op) (l : GpioLine) : Option Bool := (i.setsUp l).or (m l)

/-- The last set-up of each line that succeeded: whether it was for output. -/
def setUp (is : List Op) : GpioLine → Option Bool := is.foldl note fun _ => none

/-- The cells agree with what was set up, and a line's descriptor is open on it. -/
structure Tracks (s : PinProcess) (m : GpioLine → Option Bool) : Prop where
  unused : ∀ l, m l = none → (s.cells l).inUse = false ∧ (s.cells l).lineFd ≤ 0
  used : ∀ l o, m l = some o → ∃ fd : Nat, 0 < fd ∧ s.cells l = ⟨fd, o, true⟩
    ∧ s.fds.refers fd = some (.line l o)

/-- What the program starts with is open on no line. -/
theorem tracks_initial (fds : FdTable Resource) : (initial fds).Tracks fun _ => none where
  unused l _ := by
    by_cases hl : l = firstLine
    · simp [initial, gpioFds, hl]
    · simp [initial, gpioFds, hl]
  used _ _ h := by cases h

section Tracks

variable {s : PinProcess} {m : GpioLine → Option Bool}

/-- Descriptors that are open on no line may come and go. -/
theorem Tracks.of_refers {fds : FdTable Resource} (h : s.Tracks m)
    (hfds : ∀ fd l o, s.fds.refers fd = some (.line l o) → fds.refers fd = some (.line l o)) :
    ({ s with fds := fds } : PinProcess).Tracks m where
  unused := h.unused
  used l o hl := by
    obtain ⟨fd, hpos, hcell, hrefers⟩ := h.used l o hl
    exact ⟨fd, hpos, hcell, hfds fd l o hrefers⟩

/-- A set-up that does not succeed leaves every line as it is. -/
theorem Tracks.gpioLineInit_of_not_grants {l : GpioLine} {o : Bool} {k : LineReply}
    (h : s.Tracks m) (hk : k.grants = false) : (s.gpioLineInit l o k).2.Tracks m := by
  have hclose : ({ s with fds := (s.fds.install (.chip l.1)).close s.fds.lowest } :
      PinProcess).Tracks m := by
    refine h.of_refers fun fd l' o' hl' => ?_
    rw [FdTable.refers_install_close]
    exact hl'
  unfold gpioLineInit
  cases hchip : k.chipOk with
  | false => exact h
  | true =>
      cases hinfo : k.infoOk with
      | false => exact hclose
      | true =>
          cases hline : k.lineOk with
          | false => exact hclose
          | true =>
              cases hfd : k.fdOk with
              | false => exact hclose
              | true =>
                  simp only [LineReply.grants, hchip, hinfo, hline, hfd] at hk
                  cases hk

/-- One that does leaves the other lines as they are: the cell's old descriptor is the
line's own, or 0, which is no line's. -/
theorem Tracks.gpioLineInit_of_grants {l : GpioLine} {o : Bool} {k : LineReply}
    (h : s.Tracks m) (hk : k.grants = true) :
    (s.gpioLineInit l o k).2.Tracks (Function.update m l (some o)) := by
  simp only [LineReply.grants, Bool.and_eq_true] at hk
  obtain ⟨⟨⟨hchip, hinfo⟩, hline⟩, hfd⟩ := hk
  unfold gpioLineInit
  simp only [hchip, hinfo, hline, hfd, Bool.not_true, Bool.false_eq_true, if_false]
  have hlt := s.fds.lowest_lt_lowest_install (.chip l.1)
  -- the table before the old descriptor is closed
  have hnew : (((s.fds.install (.chip l.1)).install (.line l o)).close s.fds.lowest).refers
      (s.fds.install (.chip l.1)).lowest = some (.line l o) := by
    rw [FdTable.refers_close_of_ne _ hlt.ne', FdTable.refers_install_self]
  have hkept : ∀ fd r, s.fds.refers fd = some r →
      (((s.fds.install (.chip l.1)).install (.line l o)).close s.fds.lowest).refers fd
        = some r := by
    intro fd r hr
    rw [FdTable.refers_close_of_ne _ (s.fds.ne_lowest hr)]
    exact FdTable.refers_install_of_some _ (s.fds.refers_install_of_some hr _) _
  -- what the old descriptor may be
  have hold : ∀ fd r, (r = .line l o ∧ fd = (s.fds.install (.chip l.1)).lowest ∨
      s.fds.refers fd = some r ∧ 0 < fd ∧ ∃ l' o', r = .line l' o' ∧ l' ≠ l) →
      (s.cells l).lineFd ≥ 0 → fd ≠ (s.cells l).lineFd.toNat := by
    intro fd r hr hge
    cases hm : m l with
    | none =>
        have hle := (h.unused l hm).2
        rcases hr with ⟨-, hfd⟩ | ⟨-, hpos, -⟩ <;> omega
    | some o₁ =>
        obtain ⟨fd₁, hpos₁, hcell, hrefers⟩ := h.used l o₁ hm
        rw [hcell, Int.toNat_natCast]
        rintro rfl
        rcases hr with ⟨-, hfd⟩ | ⟨hr, -, l', o', rfl, hl'⟩
        · have hinst := s.fds.refers_install_of_some hrefers (.chip l.1)
          rw [hfd, FdTable.refers_lowest] at hinst
          cases hinst
        · rw [hrefers] at hr
          cases hr
          exact hl' rfl
  constructor
  · intro l' hl'
    have hne : l' ≠ l := by
      rintro rfl
      rw [Function.update_self] at hl'
      cases hl'
    rw [Function.update_of_ne hne] at hl'
    simp only [Function.update_of_ne hne]
    exact h.unused l' hl'
  · intro l' o' hl'
    by_cases hl : l' = l
    · subst hl
      rw [Function.update_self, Option.some.injEq] at hl'
      subst hl'
      refine ⟨(s.fds.install (.chip l'.1)).lowest, by omega, Function.update_self .., ?_⟩
      dsimp only
      split
      · rename_i hge
        rw [FdTable.refers_close_of_ne _ (hold _ _ (Or.inl ⟨rfl, rfl⟩) hge)]
        exact hnew
      · exact hnew
    · rw [Function.update_of_ne hl] at hl'
      obtain ⟨fd, hpos, hcell, hrefers⟩ := h.used l' o' hl'
      refine ⟨fd, hpos, ?_, ?_⟩
      · rw [← hcell]
        exact Function.update_of_ne hl ..
      · dsimp only
        split
        · rename_i hge
          rw [FdTable.refers_close_of_ne _
            (hold _ _ (Or.inr ⟨hrefers, hpos, l', o', rfl, hl⟩) hge)]
          exact hkept _ _ hrefers
        · exact hkept _ _ hrefers

theorem Tracks.pinInit (h : s.Tracks m) (chip line : Int) (direction : Option Text)
    (k : LineReply) :
    (s.pinInit chip line direction k).2.Tracks
      (note m (.exportPin chip line direction k)) := by
  unfold PinProcess.pinInit note Op.setsUp
  cases direction with
  | none => simpa using h
  | some d =>
      cases hl : gpioLine chip line with
      | none => simpa [hl] using h
      | some l =>
          cases hk : k.grants with
          | false => simpa [hk] using h.gpioLineInit_of_not_grants hk
          | true =>
              convert h.gpioLineInit_of_grants (o := d = "out".toList) hk using 1
              funext l'
              by_cases hl' : l' = l
              · rw [hl', Function.update_self]
                simp [hl, hk]
              · rw [Function.update_of_ne hl']
                simp [hl, Ne.symm hl']

theorem Tracks.step {s' : PinProcess} {i : Op} (h : s.Tracks m) (hs : step s i = some s') :
    s'.Tracks (note m i) := by
  cases i with
  | exportPin chip line direction k =>
      obtain rfl := Option.some.inj hs
      exact h.pinInit chip line direction k
  | setPinDirection chip line direction k =>
      obtain rfl := Option.some.inj hs
      exact h.pinInit chip line direction k
  | openOther =>
      obtain rfl := Option.some.inj hs
      exact h.of_refers fun fd l o hl => s.fds.refers_install_of_some hl _
  | closeOther fd =>
      simp only [PinProcess.step] at hs
      split at hs
      · rename_i hother
        obtain rfl := Option.some.inj hs
        refine h.of_refers fun fd' l o hl => ?_
        rw [FdTable.refers_close_of_ne]
        · exact hl
        · rintro rfl
          rcases hother with hother | hother <;> rw [hl] at hother <;> cases hother
      · cases hs

theorem Tracks.run {is : List Op} {s' : PinProcess} (h : s.Tracks m)
    (hr : Lts.run PinProcess.step s is = some s') :
    s'.Tracks (is.foldl note m) := by
  induction is generalizing s m with
  | nil =>
      obtain rfl := Option.some.inj hr
      exact h
  | cons i is ih =>
      obtain ⟨s₁, hs, hr⟩ := Lts.run_cons_eq_some.mp hr
      exact ih (h.step hs) hr

end Tracks

/-! ## Pin accesses -/

/-- What the descriptor an `ioctl` is made on is open on. -/
def on (s : PinProcess) (fd : Int) : Option Resource := s.fds.refers fd.toNat

/-- What an access returns, and the `ioctl` it makes: on what, and the level it sets. -/
structure PinAccess (α β : Type) where
  result : α
  ioctl : Option (Option Resource × β)
deriving DecidableEq

/-- `write_pin_value`. -/
def writePinValue (s : PinProcess) (chip line value : Int) (ioctlOk : Bool) : PinAccess Bool Bool :=
  match gpioLine chip line with
  | none => ⟨false, none⟩
  | some l =>
      let cell := s.cells l
      if !cell.inUse || cell.lineFd < 0 || !cell.isOutput then ⟨false, none⟩
      else ⟨ioctlOk, some (s.on cell.lineFd, value ≠ 0)⟩

/-- The value of a level; a failed `ioctl` has none. -/
def pinValue : Option Bool → Int
  | none => -1
  | some level => if level then 1 else 0

/-- `read_pin_value`. -/
def readPinValue (s : PinProcess) (chip line : Int) (level : Option Bool) : PinAccess Int Unit :=
  match gpioLine chip line with
  | none => ⟨-1, none⟩
  | some l =>
      let cell := s.cells l
      if !cell.inUse then ⟨-1, none⟩
      else if cell.lineFd < 0 then ⟨-1, none⟩
      else ⟨pinValue level, some (s.on cell.lineFd, ())⟩

theorem Tracks.writePinValue {s : PinProcess} {m : GpioLine → Option Bool} (h : s.Tracks m)
    {chip line : Int} {l : GpioLine} (hl : gpioLine chip line = some l) (value : Int) (ok : Bool) :
    s.writePinValue chip line value ok =
      if m l = some true then ⟨ok, some (some (.line l true), value ≠ 0)⟩ else ⟨false, none⟩ := by
  unfold PinProcess.writePinValue
  rw [hl]
  cases hm : m l with
  | none => simp [(h.unused l hm).1]
  | some o =>
      obtain ⟨fd, hpos, hcell, hrefers⟩ := h.used l o hm
      cases o <;> simp [hcell, on, hrefers]

theorem Tracks.readPinValue {s : PinProcess} {m : GpioLine → Option Bool} (h : s.Tracks m)
    {chip line : Int} {l : GpioLine} (hl : gpioLine chip line = some l) (level : Option Bool) :
    s.readPinValue chip line level =
      match m l with
      | some o => ⟨pinValue level, some (some (.line l o), ())⟩
      | none => ⟨-1, none⟩ := by
  unfold PinProcess.readPinValue
  rw [hl]
  cases hm : m l with
  | none => simp [(h.unused l hm).1]
  | some o =>
      obtain ⟨fd, hpos, hcell, hrefers⟩ := h.used l o hm
      simp [hcell, on, hrefers]

/-- In every run, an access reaches the line it names if the last set-up of that line
that succeeded allows it, and nothing otherwise. -/
theorem access_run {fds : FdTable Resource} {is : List Op} {s : PinProcess}
    (hr : Lts.run step (initial fds) is = some s) {chip line : Int} {l : GpioLine}
    (hl : gpioLine chip line = some l) :
    (∀ value ok, s.writePinValue chip line value ok =
        if setUp is l = some true then ⟨ok, some (some (.line l true), value ≠ 0)⟩
        else ⟨false, none⟩)
      ∧ ∀ level, s.readPinValue chip line level =
        match setUp is l with
        | some o => ⟨pinValue level, some (some (.line l o), ())⟩
        | none => ⟨-1, none⟩ := by
  have htracks : s.Tracks (setUp is) := (tracks_initial fds).run hr
  exact ⟨htracks.writePinValue hl, htracks.readPinValue hl⟩

/-- IN1 set up, and a socket opened after it. -/
def exportIn1Open : List Op :=
  [.exportPin 1 38 (some "out".toList) ⟨true, true, true, true⟩, .openOther]

theorem access_run_in1 :
    ∃ s, Lts.run step (initial (.ofList [.other, .other, .other])) exportIn1Open = some s
      ∧ s.writePinValue 1 38 1 true = ⟨true, some (some (.line (1, 38) true), true)⟩ := by
  have hrun : Lts.run step (initial (.ofList [.other, .other, .other])) exportIn1Open
      = some _ := rfl
  have hline : gpioLine 1 38 = some (1, 38) := rfl
  refine ⟨_, hrun, ?_⟩
  rw [(access_run hrun hline).1, if_pos (by decide)]
  rfl

/-! ## The pins of the sensor and of the motor -/

/-- Chip and line, as the headers give them. -/
structure Pin where
  chip : Int
  line : Int

def trig : Pin := ⟨1, 33⟩
def echo : Pin := ⟨2, 8⟩
def in1 : Pin := ⟨1, 38⟩
def in2 : Pin := ⟨1, 41⟩
def in3 : Pin := ⟨2, 15⟩
def in4 : Pin := ⟨2, 17⟩

/-- A pin's set-up: its direction and what the kernel does. -/
structure PinSetUp where
  pin : Pin
  direction : Text
  reply : LineReply

def PinSetUp.op (c : PinSetUp) : Op := .exportPin c.pin.chip c.pin.line (some c.direction) c.reply

/-- Pins set up one after another, up to the first that fails. -/
def exportPins (s : PinProcess) : List PinSetUp → Bool × PinProcess
  | [] => (true, s)
  | c :: rest =>
      let r := s.exportPin c.pin.chip c.pin.line (some c.direction) c.reply
      if r.1 then r.2.exportPins rest else (false, r.2)

/-- A level for a pin, and whether its `ioctl` succeeds. -/
structure PinWrite where
  pin : Pin
  level : Bool
  ioctlOk : Bool

/-- The result of a sequence of writes, and the `ioctl`s they make. -/
structure PinWriting where
  ok : Bool
  ioctls : List (Option Resource × Bool)

/-- Pins written one after another, up to the first write that fails. -/
def writePins (s : PinProcess) : List PinWrite → PinWriting
  | [] => ⟨true, []⟩
  | c :: rest =>
      let w := s.writePinValue c.pin.chip c.pin.line c.level.toInt c.ioctlOk
      if w.result then
        let r := s.writePins rest
        ⟨r.ok, w.ioctl.toList ++ r.ioctls⟩
      else ⟨false, w.ioctl.toList⟩

attribute [local instance] StepperMotor.neZeroPins

/-- `set_motor_pins`. -/
def setMotorPins (s : PinProcess) (p : StepperMotor.StepPattern) (w : StepperMotor.PinWrites) :
    PinWriting :=
  s.writePins [⟨in1, p.in1, w 0⟩, ⟨in2, p.in2, w 1⟩, ⟨in3, p.in3, w 2⟩, ⟨in4, p.in4, w 3⟩]

/-- `zero_pattern`. -/
def zeroPattern : StepperMotor.StepPattern := ⟨false, false, false, false⟩

/-- The answers to the calls of the set-up. -/
structure SetUpReplies where
  trig : LineReply
  echo : LineReply
  trigLow : Bool
  motor : Fin 4 → LineReply
  motorLow : StepperMotor.PinWrites

def sensorPins (k : SetUpReplies) : List PinSetUp :=
  [⟨trig, "out".toList, k.trig⟩, ⟨echo, "in".toList, k.echo⟩]

def motorPins (k : SetUpReplies) : List PinSetUp :=
  [⟨in1, "out".toList, k.motor 0⟩, ⟨in2, "out".toList, k.motor 1⟩,
    ⟨in3, "out".toList, k.motor 2⟩, ⟨in4, "out".toList, k.motor 3⟩]

/-- `init_hc_sr04`. -/
def initHcSr04 (s : PinProcess) (k : SetUpReplies) : Bool × PinProcess :=
  let r := s.exportPins (sensorPins k)
  if !r.1 then (false, r.2)
  else if !(r.2.writePinValue trig.chip trig.line 0 k.trigLow).result then (false, r.2)
  else (true, r.2)

/-- `StepperMotor_Init`, but for the position it resets. -/
def stepperMotorInit (s : PinProcess) (k : SetUpReplies) : Bool × PinProcess :=
  let r := s.exportPins (motorPins k)
  if !r.1 then (false, r.2)
  else if !(r.2.setMotorPins zeroPattern k.motorLow).ok then (false, r.2)
  else (true, r.2)

/-- What `initializeDoorSystem` does not go on without. -/
def initializePins (s : PinProcess) (k : SetUpReplies) : Bool × PinProcess :=
  let r := s.initHcSr04 k
  if !r.1 then (false, r.2) else r.2.stepperMotorInit k

theorem gpioLineInit_ok (s : PinProcess) (l : GpioLine) (o : Bool) (k : LineReply) :
    (s.gpioLineInit l o k).1 = k.grants := by
  unfold gpioLineInit LineReply.grants
  cases k.chipOk <;> cases k.infoOk <;> cases k.lineOk <;> cases k.fdOk <;> rfl

/-- Pins all set up were set up by operations of a run, each of which succeeded. -/
theorem exportPins_run {cs : List PinSetUp} {s : PinProcess} (h : (s.exportPins cs).1 = true) :
    Lts.run step s (cs.map PinSetUp.op) = some (s.exportPins cs).2
      ∧ ∀ c ∈ cs, c.reply.grants = true := by
  induction cs generalizing s with
  | nil => exact ⟨rfl, fun c hc => absurd hc List.not_mem_nil⟩
  | cons c cs ih =>
      rw [exportPins] at h
      split at h
      · rename_i hok
        obtain ⟨hrun, hgrants⟩ := ih h
        rw [exportPins, if_pos hok]
        refine ⟨Lts.run_cons_eq_some.mpr ⟨_, rfl, hrun⟩, List.forall_mem_cons.mpr ⟨?_, hgrants⟩⟩
        simp only [exportPin, pinInit] at hok
        split at hok
        · rwa [gpioLineInit_ok] at hok
        · cases hok
      · cases h

/-- The operations of a set-up that succeeds. -/
def setUpOps (k : SetUpReplies) : List Op := (sensorPins k ++ motorPins k).map PinSetUp.op

theorem initHcSr04_ok_iff (s : PinProcess) (k : SetUpReplies) :
    (s.initHcSr04 k).1 = true ↔ (s.exportPins (sensorPins k)).1 = true
      ∧ ((s.exportPins (sensorPins k)).2.writePinValue trig.chip trig.line 0 k.trigLow).result
        = true := by
  simp only [initHcSr04]
  split
  · simp_all
  · split <;> simp_all

theorem initHcSr04_snd (s : PinProcess) (k : SetUpReplies) :
    (s.initHcSr04 k).2 = (s.exportPins (sensorPins k)).2 := by
  simp only [initHcSr04, apply_ite Prod.snd, ite_self]

theorem stepperMotorInit_ok_iff (s : PinProcess) (k : SetUpReplies) :
    (s.stepperMotorInit k).1 = true ↔ (s.exportPins (motorPins k)).1 = true
      ∧ ((s.exportPins (motorPins k)).2.setMotorPins zeroPattern k.motorLow).ok = true := by
  simp only [stepperMotorInit]
  split
  · simp_all
  · split <;> simp_all

theorem stepperMotorInit_snd (s : PinProcess) (k : SetUpReplies) :
    (s.stepperMotorInit k).2 = (s.exportPins (motorPins k)).2 := by
  simp only [stepperMotorInit, apply_ite Prod.snd, ite_self]

theorem initializePins_ok (s : PinProcess) (k : SetUpReplies) :
    (s.initializePins k).1 = true ↔
      (s.initHcSr04 k).1 = true ∧ ((s.initHcSr04 k).2.stepperMotorInit k).1 = true := by
  simp only [initializePins]
  split <;> simp_all

theorem initializePins_run {s : PinProcess} {k : SetUpReplies}
    (h : (s.initializePins k).1 = true) :
    Lts.run step s (setUpOps k) = some (s.initializePins k).2
      ∧ k.trig.grants = true ∧ k.echo.grants = true ∧ ∀ i, (k.motor i).grants = true := by
  obtain ⟨hsensor, hmotor⟩ := (s.initializePins_ok k).mp h
  have hsnd : (s.initializePins k).2 = ((s.initHcSr04 k).2.stepperMotorInit k).2 := by
    simp only [initializePins, hsensor, Bool.not_true, Bool.false_eq_true, if_false]
  obtain ⟨hrun, hgrants⟩ := exportPins_run ((s.initHcSr04_ok_iff k).mp hsensor).1
  obtain ⟨hrun', hgrants'⟩ := exportPins_run ((stepperMotorInit_ok_iff _ k).mp hmotor).1
  rw [← initHcSr04_snd] at hrun
  rw [← stepperMotorInit_snd, ← hsnd] at hrun'
  refine ⟨?_, ?_, ?_, ?_⟩
  · rw [setUpOps, List.map_append]
    exact Lts.run_append_eq_some.mpr ⟨_, hrun, hrun'⟩
  · exact hgrants _ (List.mem_cons_self ..)
  · exact hgrants _ (List.mem_cons_of_mem _ (List.mem_cons_self ..))
  · simpa [motorPins, Fin.forall_fin_succ] using hgrants'

/-! ## After the set-up -/

def Pin.gpio (p : Pin) : Option GpioLine := gpioLine p.chip p.line

/-- The line of a pin, for output. -/
def Pin.output (p : Pin) : Option Resource := p.gpio.map (Resource.line · true)

/-- A rotation, and the `ioctl`s it makes. -/
structure PinRotation where
  rotation : StepperMotor.Rotation
  ioctls : List (Option Resource × Bool)

theorem neZeroPositions : NeZero StepperMotor.stepsPerRev := ⟨Nat.succ_ne_zero 4095⟩
theorem neZeroChips : NeZero maxChips := ⟨Nat.succ_ne_zero 2⟩
theorem neZeroLines : NeZero maxLinesPerChip := ⟨Nat.succ_ne_zero 69⟩

attribute [local instance] StepperMotor.neZeroHalfsteps neZeroPositions neZeroChips neZeroLines

open StepperMotor (StepPattern PinWrites Rotation halfstepSequence stepsPerRev stepsNeeded)

/-- The loop of `StepperMotor_Rotate`, on the pins. -/
def rotateLoop (s : PinProcess) (writes : Nat → PinWrites) :
    (remaining k : Nat) → (seq : Fin 8) → Fin stepsPerRev → PinRotation
  | 0, _, _, pos => ⟨⟨true, pos, []⟩, []⟩
  | remaining + 1, k, seq, pos =>
      let m := s.setMotorPins (halfstepSequence seq) (writes k)
      if m.ok then
        let r := s.rotateLoop writes remaining (k + 1) (seq + 1) (pos + 1)
        ⟨{ r.rotation with applied := halfstepSequence seq :: r.rotation.applied },
          m.ioctls ++ r.ioctls⟩
      else ⟨⟨false, pos, []⟩, m.ioctls⟩

def rotate (s : PinProcess) (pos : Fin stepsPerRev) (targetDegrees : Int)
    (writes : Nat → PinWrites) : PinRotation :=
  if targetDegrees < 0 ∨ targetDegrees > 360 then ⟨⟨false, pos, []⟩, []⟩
  else s.rotateLoop writes (stepsNeeded pos targetDegrees) 0 0 pos

/-- The levels of a pattern on the motor's lines. -/
def motorLevels (p : StepPattern) : List (Option Resource × Bool) :=
  [(in1.output, p.in1), (in2.output, p.in2), (in3.output, p.in3), (in4.output, p.in4)]

/-- The pins of the door work: an access fails only if its `ioctl` does, and reaches the
line of its pin. -/
structure Ready (s : PinProcess) : Prop where
  write : ∀ p ∈ [trig, in1, in2, in3, in4], ∀ value ok,
    s.writePinValue p.chip p.line value ok = ⟨ok, some (p.output, value ≠ 0)⟩
  read : ∀ level, s.readPinValue echo.chip echo.line level
    = ⟨pinValue level, some (echo.gpio.map (Resource.line · false), ())⟩

/-- Operations that do not set a line up leave what it was set up for. -/
theorem foldl_setsUp_of_forall {l : GpioLine} {is : List Op} (h : ∀ i ∈ is, i.setsUp l = none)
    (m : GpioLine → Option Bool) :
    is.foldl note m l = m l := by
  induction is generalizing m with
  | nil => rfl
  | cons i is ih =>
      obtain ⟨hi, his⟩ := List.forall_mem_cons.mp h
      rw [List.foldl_cons, ih his, note, hi, Option.none_or]

/-- The lines of the door. -/
def doorLines : List GpioLine := [(1, 33), (2, 8), (1, 38), (1, 41), (2, 15), (2, 17)]

/-- The set-up of the sensor's pins leaves the trigger for output. -/
theorem setUp_sensorPins {k : SetUpReplies} (htrig : k.trig.grants = true)
    (hecho : k.echo.grants = true) :
    setUp ((sensorPins k).map PinSetUp.op) (1, 33) = some true := by
  have h₁ : gpioLine trig.chip trig.line = some (1, 33) := rfl
  have h₂ : gpioLine echo.chip echo.line = some (2, 8) := rfl
  simp only [setUp, sensorPins, List.map_cons, List.map_nil, List.foldl_cons, List.foldl_nil, note,
    PinSetUp.op, Op.setsUp, h₁, h₂, htrig, hecho, and_true]
  decide

/-- What the set-up leaves the lines for: all but the echo's for output. -/
theorem setUp_setUpOps {k : SetUpReplies} (htrig : k.trig.grants = true)
    (hecho : k.echo.grants = true) (hmotor : ∀ i, (k.motor i).grants = true) :
    ∀ l ∈ doorLines, setUp (setUpOps k) l = some (decide (l ≠ (2, 8))) := by
  have hline : ∀ p ∈ [(trig, ((1, 33) : GpioLine)), (echo, (2, 8)), (in1, (1, 38)),
      (in2, (1, 41)), (in3, (2, 15)), (in4, (2, 17))], gpioLine p.1.chip p.1.line = some p.2 := by
    simp only [List.forall_mem_cons]
    exact ⟨rfl, rfl, rfl, rfl, rfl, rfl, fun p hp => absurd hp List.not_mem_nil⟩
  simp only [List.forall_mem_cons] at hline
  obtain ⟨h₁, h₂, h₃, h₄, h₅, h₆, -⟩ := hline
  simp only [setUp, setUpOps, List.map_cons, List.map_nil, List.foldl_cons, List.foldl_nil, note,
    sensorPins, motorPins, List.cons_append, List.nil_append, PinSetUp.op, Op.setsUp, h₁, h₂,
    h₃, h₄, h₅, h₆, htrig, hecho, hmotor, and_true]
  decide +kernel

/-- After a set-up in which every call succeeds the pins work, in every run that leaves
their lines alone. -/
theorem ready_of_setUpOps {fds : FdTable Resource} {k : SetUpReplies}
    (htrig : k.trig.grants = true) (hecho : k.echo.grants = true)
    (hmotor : ∀ i, (k.motor i).grants = true) {is : List Op} {s₁ s : PinProcess}
    (hrun : Lts.run step (initial fds) (setUpOps k) = some s₁)
    (halone : ∀ i ∈ is, ∀ l ∈ doorLines, i.setsUp l = none)
    (hr : Lts.run step s₁ is = some s) : s.Ready := by
  have htracks : s.Tracks (is.foldl note (setUp (setUpOps k))) :=
    ((tracks_initial fds).run hrun).run hr
  have hfor : ∀ l ∈ doorLines, is.foldl note (setUp (setUpOps k)) l
      = some (decide (l ≠ (2, 8))) := by
    intro l hl
    rw [foldl_setsUp_of_forall fun i hi => halone i hi l hl]
    exact setUp_setUpOps htrig hecho hmotor l hl
  have hwrite : ∀ p : Pin, ∀ l, gpioLine p.chip p.line = some l → l ∈ doorLines → l ≠ (2, 8) →
      ∀ value ok, s.writePinValue p.chip p.line value ok = ⟨ok, some (p.output, value ≠ 0)⟩ := by
    intro p l hl hdoor hne value ok
    rw [htracks.writePinValue hl, hfor l hdoor, if_pos (congrArg some (decide_eq_true hne)),
      Pin.output, Pin.gpio, hl, Option.map_some]
  constructor
  · simp only [List.forall_mem_cons]
    refine ⟨hwrite trig (1, 33) rfl (by decide) (by decide),
      hwrite in1 (1, 38) rfl (by decide) (by decide),
      hwrite in2 (1, 41) rfl (by decide) (by decide),
      hwrite in3 (2, 15) rfl (by decide) (by decide),
      hwrite in4 (2, 17) rfl (by decide) (by decide), fun p hp => absurd hp List.not_mem_nil⟩
  · intro level
    rw [htracks.readPinValue (l := (2, 8)) rfl, hfor (2, 8) (by decide)]
    rfl

section Ready

variable {s : PinProcess}

/-- Four writes, as far as the results allow. -/
theorem Ready.setMotorPins (h : s.Ready) (p : StepPattern) (w : PinWrites) :
    (s.setMotorPins p w).ok = StepperMotor.setMotorPins w
      ∧ (s.setMotorPins p w).ioctls <+: motorLevels p
      ∧ ((s.setMotorPins p w).ok = true → (s.setMotorPins p w).ioctls = motorLevels p) := by
  have h₁ := h.write in1 (by simp)
  have h₂ := h.write in2 (by simp)
  have h₃ := h.write in3 (by simp)
  have h₄ := h.write in4 (by simp)
  have hlevel : ∀ b : Bool, decide (b.toInt ≠ 0) = b := by decide
  simp only [PinProcess.setMotorPins, writePins, h₁, h₂, h₃, h₄, hlevel, motorLevels,
    StepperMotor.setMotorPins]
  cases w 0 <;> cases w 1 <;> cases w 2 <;> cases w 3 <;> simp

/-- On pins that work a rotation is the motor's, and the levels it sets are the
patterns it applies, with the part of one more that a failing write leaves. -/
theorem Ready.rotateLoop (h : s.Ready) (writes : Nat → PinWrites) (n k : Nat) (seq : Fin 8)
    (pos : Fin stepsPerRev) :
    (s.rotateLoop writes n k seq pos).rotation = StepperMotor.rotateLoop writes n k seq pos
      ∧ ∃ rest p, rest <+: motorLevels p
        ∧ (s.rotateLoop writes n k seq pos).ioctls
          = (StepperMotor.rotateLoop writes n k seq pos).applied.flatMap motorLevels ++ rest
        ∧ ((StepperMotor.rotateLoop writes n k seq pos).ok = true → rest = []) := by
  induction n generalizing k seq pos with
  | zero => exact ⟨rfl, [], zeroPattern, List.nil_prefix, rfl, fun _ => rfl⟩
  | succ n ih =>
      obtain ⟨hok, hprefix, hall⟩ := h.setMotorPins (halfstepSequence seq) (writes k)
      rw [PinProcess.rotateLoop, StepperMotor.rotateLoop]
      dsimp only
      rw [hok]
      cases hw : StepperMotor.setMotorPins (writes k) with
      | false =>
          refine ⟨rfl, _, halfstepSequence seq, hprefix, rfl, fun h => by cases h⟩
      | true =>
          obtain ⟨hrot, rest, p, hrest, hioctls, hdone⟩ := ih (k + 1) (seq + 1) (pos + 1)
          refine ⟨?_, rest, p, hrest, ?_, hdone⟩
          · simp only [if_true, hrot]
          · simp only [if_true, hioctls, hall (hok.trans hw), List.flatMap_cons, List.append_assoc]

end Ready

/-! ## When the set-up succeeds -/

/-- Every call of the set-up succeeds. -/
structure SetUpReplies.Granted (k : SetUpReplies) : Prop where
  trig : k.trig.grants = true
  echo : k.echo.grants = true
  trigLow : k.trigLow = true
  motor : ∀ i, (k.motor i).grants = true
  motorLow : StepperMotor.setMotorPins k.motorLow = true

theorem exportPins_ok {cs : List PinSetUp} (hvalid : ∀ c ∈ cs, c.pin.gpio.isSome = true)
    (hgrants : ∀ c ∈ cs, c.reply.grants = true) (s : PinProcess) :
    (s.exportPins cs).1 = true := by
  induction cs generalizing s with
  | nil => rfl
  | cons c cs ih =>
      obtain ⟨hc, hcs⟩ := List.forall_mem_cons.mp hvalid
      obtain ⟨hg, hgs⟩ := List.forall_mem_cons.mp hgrants
      obtain ⟨l, hl⟩ := Option.isSome_iff_exists.mp hc
      have hok : (s.exportPin c.pin.chip c.pin.line (some c.direction) c.reply).1 = true := by
        simp only [exportPin, pinInit, show gpioLine c.pin.chip c.pin.line = some l from hl,
          gpioLineInit_ok, hg]
      rw [exportPins, if_pos hok]
      exact ih hcs hgs _

/-- A write succeeds only if its `ioctl` does. -/
theorem writePinValue_result {s : PinProcess} {chip line value : Int} {ok : Bool}
    (h : (s.writePinValue chip line value ok).result = true) : ok = true := by
  unfold writePinValue at h
  split at h
  · cases h
  · dsimp only at h
    split at h
    · cases h
    · exact h

theorem writePins_ok {cs : List PinWrite} {s : PinProcess} (h : (s.writePins cs).ok = true) :
    ∀ c ∈ cs, c.ioctlOk = true := by
  induction cs with
  | nil => exact fun c hc => absurd hc List.not_mem_nil
  | cons c cs ih =>
      simp only [writePins] at h
      split at h
      · rename_i hok
        exact List.forall_mem_cons.mpr ⟨writePinValue_result hok, ih h⟩
      · cases h

/-- The set-up succeeds exactly when every call of it does. -/
theorem initializePins_ok_iff (fds : FdTable Resource) (k : SetUpReplies) :
    ((initial fds).initializePins k).1 = true ↔ k.Granted := by
  constructor
  · intro h
    obtain ⟨-, htrig, hecho, hmotor⟩ := initializePins_run h
    obtain ⟨hsensor, hpins⟩ := (initializePins_ok _ k).mp h
    refine ⟨htrig, hecho, writePinValue_result ((initHcSr04_ok_iff _ k).mp hsensor).2, hmotor, ?_⟩
    have hlow := writePins_ok ((stepperMotorInit_ok_iff _ k).mp hpins).2
    simpa [StepperMotor.setMotorPins, and_assoc] using hlow
  · intro h
    have hsensorOk : ((initial fds).exportPins (sensorPins k)).1 = true := by
      refine exportPins_ok ?_ ?_ _
      · simp only [sensorPins, List.forall_mem_cons]
        exact ⟨rfl, rfl, fun c hc => absurd hc List.not_mem_nil⟩
      · simp [sensorPins, h.trig, h.echo]
    have hmotorOk : ∀ s : PinProcess, (s.exportPins (motorPins k)).1 = true := by
      refine exportPins_ok ?_ ?_
      · simp only [motorPins, List.forall_mem_cons]
        exact ⟨rfl, rfl, rfl, rfl, fun c hc => absurd hc List.not_mem_nil⟩
      · simp [motorPins, h.motor]
    obtain ⟨hrun, -⟩ := exportPins_run hsensorOk
    obtain ⟨hrun', -⟩ := exportPins_run (hmotorOk ((initial fds).exportPins (sensorPins k)).2)
    rw [initializePins_ok, initHcSr04_ok_iff, stepperMotorInit_ok_iff, initHcSr04_snd]
    refine ⟨⟨hsensorOk, ?_⟩, hmotorOk _, ?_⟩
    · have htracks : ((initial fds).exportPins (sensorPins k)).2.Tracks
          (setUp ((sensorPins k).map PinSetUp.op)) := (tracks_initial fds).run hrun
      rw [htracks.writePinValue (l := (1, 33)) rfl, if_pos (setUp_sensorPins h.trig h.echo)]
      exact h.trigLow
    · have hall : Lts.run step (initial fds) (setUpOps k)
          = some (((initial fds).exportPins (sensorPins k)).2.exportPins (motorPins k)).2 := by
        rw [setUpOps, List.map_append]
        exact Lts.run_append_eq_some.mpr ⟨_, hrun, hrun'⟩
      have hready := ready_of_setUpOps h.trig h.echo h.motor hall
        (fun i hi => absurd hi List.not_mem_nil) rfl
      rw [(hready.setMotorPins zeroPattern k.motorLow).1]
      exact h.motorLow

/-- After a set-up that succeeds, in every run that leaves the door's lines alone, its
pins work: the motor rotates as its model does, and the levels set on its four lines are
the patterns it applies. -/
theorem ready_rotate_run {fds : FdTable Resource} {k : SetUpReplies}
    (hinit : ((initial fds).initializePins k).1 = true) {is : List Op} {s : PinProcess}
    (halone : ∀ i ∈ is, ∀ l ∈ doorLines, i.setsUp l = none)
    (hr : Lts.run step ((initial fds).initializePins k).2 is = some s) :
    s.Ready ∧ ∀ pos targetDegrees writes,
      (s.rotate pos targetDegrees writes).rotation = StepperMotor.rotate pos targetDegrees writes
        ∧ ∃ rest p, rest <+: motorLevels p
          ∧ (s.rotate pos targetDegrees writes).ioctls
            = (StepperMotor.rotate pos targetDegrees writes).applied.flatMap motorLevels ++ rest
          ∧ ((StepperMotor.rotate pos targetDegrees writes).ok = true → rest = []) := by
  obtain ⟨hrun, htrig, hecho, hmotor⟩ := initializePins_run hinit
  have hready := ready_of_setUpOps htrig hecho hmotor hrun halone hr
  refine ⟨hready, fun pos targetDegrees writes => ?_⟩
  unfold rotate StepperMotor.rotate
  split
  · exact ⟨rfl, [], zeroPattern, List.nil_prefix, rfl, fun _ => rfl⟩
  · exact hready.rotateLoop writes _ 0 0 pos

/-- Every call of a set-up succeeding. -/
def allGranted : SetUpReplies where
  trig := ⟨true, true, true, true⟩
  echo := ⟨true, true, true, true⟩
  trigLow := true
  motor := fun _ => ⟨true, true, true, true⟩
  motorLow := fun _ => true

/-- Set up with the standard streams open, and rotated to 180 degrees after a socket was
opened. -/
theorem ready_rotate_run_locked :
    ∃ s, Lts.run step ((initial (.ofList [.other, .other, .other])).initializePins allGranted).2
        [.openOther] = some s
      ∧ (s.rotate 0 180 fun _ _ => true).rotation
        = StepperMotor.rotate 0 180 fun _ _ => true := by
  have hinit : ((initial (.ofList [.other, .other, .other])).initializePins allGranted).1 = true :=
    (initializePins_ok_iff _ _).mpr ⟨rfl, rfl, rfl, fun _ => rfl, rfl⟩
  have hrun : Lts.run step ((initial (.ofList [.other, .other, .other])).initializePins
      allGranted).2 [.openOther] = some _ := rfl
  refine ⟨_, hrun, ((ready_rotate_run hinit ?_ hrun).2 0 180 fun _ _ => true).1⟩
  intro i hi l _
  rw [List.mem_singleton.mp hi]
  rfl

end PinProcess

end HomeSecurity
