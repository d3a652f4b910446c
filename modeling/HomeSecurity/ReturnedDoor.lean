import HomeSecurity.BoltReport

/-!
# The state a call returns

`lockDoor`, `unlockDoor` and `get_door_status` return the caller's `Door_t`,
with a state written to it on some of their paths: finding the bolt where it
should go, giving a rotation up and failing to read the sensor leave the old
one, and a bolt that stands anywhere but at 180 degrees counts as unlocked once
the door is closed. `returnedDoor_iff` says for each call when the state it
returns is nevertheless true of the bolt.
-/

namespace HomeSecurity

open CText StepperMotor

/-- `st` says nothing false of a bolt at `pos`. -/
structure TrueOf (pos : Fin stepsPerRev) (st : DoorState) : Prop where
  locked : st = .locked ↔ getPosition pos = stepperLockedPosition
  unlocked : st = .unlocked → getPosition pos = stepperUnlockedPosition

/-- The returned state is true of the bolt as the call leaves it. -/
def Call.ReturnsTrue (c : Call) : Prop := TrueOf c.mod.position c.door.state

namespace StepperMotor

/-- In a rotation from `pos` the first write that fails is that of step `j`. -/
structure StallsAfter (pos : Fin stepsPerRev) (targetDegrees : Int) (writes : Nat → PinWrites)
    (j : Nat) : Prop where
  short : j < stepsNeeded pos targetDegrees
  done : ∀ i < j, setMotorPins (writes i) = true
  fails : setMotorPins (writes j) = false

theorem StallsAfter.unique {pos : Fin stepsPerRev} {targetDegrees : Int}
    {writes : Nat → PinWrites} {j j' : Nat} (h : StallsAfter pos targetDegrees writes j)
    (h' : StallsAfter pos targetDegrees writes j') : j = j' := by
  rcases Nat.lt_trichotomy j j' with hlt | heq | hlt
  · have hdone := h'.done j hlt
    rw [h.fails] at hdone
    cases hdone
  · exact heq
  · have hdone := h.done j' hlt
    rw [h'.fails] at hdone
    cases hdone

/-- A rotation ends with all its writes done, or where the first one failed. -/
theorem rotate_cases (pos : Fin stepsPerRev) (targetDegrees : Int) (hlo : 0 ≤ targetDegrees)
    (hhi : targetDegrees ≤ 360) (writes : Nat → PinWrites) :
    ((rotate pos targetDegrees writes).ok = true ∧ WritesSucceed pos targetDegrees writes) ∨
      ((rotate pos targetDegrees writes).ok = false ∧
        ∃ j, StallsAfter pos targetDegrees writes j
          ∧ (rotate pos targetDegrees writes).position = advance pos j) := by
  have hrange : ¬(targetDegrees < 0 ∨ targetDegrees > 360) := by omega
  obtain ⟨j, hj, hpos, hok, hdone, hstop⟩ :=
    rotateLoop_spec writes (stepsNeeded pos targetDegrees) 0 0 pos
  simp only [Nat.zero_add] at hdone hstop
  rw [rotate, if_neg hrange]
  by_cases hall : j = stepsNeeded pos targetDegrees
  · subst hall
    exact Or.inl ⟨hok.mpr rfl, hdone⟩
  · have hlt : j < stepsNeeded pos targetDegrees := Nat.lt_of_le_of_ne hj hall
    have hfalse : ¬(rotateLoop writes (stepsNeeded pos targetDegrees) 0 0 pos).ok = true :=
      fun h => hall (hok.mp h)
    exact Or.inr ⟨eq_false_of_ne_true hfalse, j, ⟨hlt, hdone, hstop hlt⟩, Fin.ext hpos⟩

theorem StallsAfter.not_writesSucceed {pos : Fin stepsPerRev} {targetDegrees : Int}
    {writes : Nat → PinWrites} {j : Nat} (h : StallsAfter pos targetDegrees writes j) :
    ¬WritesSucceed pos targetDegrees writes := by
  intro hall
  have hdone := hall j h.short
  rw [h.fails] at hdone
  cases hdone

end StepperMotor

namespace DoorMod

/-! ## When the returned state is true -/

/-- A bolt at 180 degrees is reported by the state the caller passed in, and so is
one that a failing write stopped on the way there. -/
structure LockReturnsTrue (s : DoorMod) (door : Door) (env : Env) : Prop where
  already : getPosition s.position = 180 → door.state = .locked
  stalled : s.Locks env → ∀ j, StallsAfter s.position 180 env.writes j →
    door.state ≠ .locked ∧ (door.state = .unlocked → getPosition (advance s.position j) = 0)

/-- The same for 0 degrees; a bolt elsewhere that is not known to be locked is
not moved, and taken for unlocked unless the door is open. -/
structure UnlockReturnsTrue (s : DoorMod) (door : Door) (env : Env) : Prop where
  already : getPosition s.position = 0 → door.state ≠ .locked
  stalled : s.Unlocks → ∀ j, StallsAfter s.position 0 env.writes j →
    (door.state = .locked ↔ getPosition (advance s.position j) = 180) ∧ door.state ≠ .unlocked
  assumed : getPosition s.position ≠ 0 → ¬s.Unlocks → env.distance ≥ doorClosedThresholdCm

structure StatusReturnsTrue (s : DoorMod) (door : Door) (env : Env) : Prop where
  closed : getPosition s.position ≠ 180 → env.distance < doorClosedThresholdCm →
    env.distance ≠ -1 → getPosition s.position = 0
  unread : getPosition s.position ≠ 180 → env.distance = -1 →
    door.state ≠ .locked ∧ (door.state = .unlocked → getPosition s.position = 0)

theorem returnsTrue_reported (s : DoorMod) (door : Door) (env : Env) (leds : List LedRequest)
    (applied : List StepPattern) :
    (s.reported door env leds applied).ReturnsTrue ↔ TrueOf s.position door.state := by
  rw [Call.ReturnsTrue, reported_position]
  rfl

/-- A state that names no position is true away from 180 degrees. -/
theorem trueOf_other {pos : Fin stepsPerRev} {st : DoorState} (hst : st ≠ .locked)
    (hst' : st ≠ .unlocked) (hpos : getPosition pos ≠ 180) : TrueOf pos st :=
  ⟨⟨fun h => absurd h hst, fun h => absurd h hpos⟩, fun h => absurd h hst'⟩

theorem trueOf_iff_of_ne_180 {pos : Fin stepsPerRev} {st : DoorState}
    (hpos : getPosition pos ≠ 180) :
    TrueOf pos st ↔ st ≠ .locked ∧ (st = .unlocked → getPosition pos = 0) :=
  ⟨fun h => ⟨fun hst => hpos (h.locked.mp hst), h.unlocked⟩,
    fun h => ⟨⟨fun hst => absurd hst h.1, fun h' => absurd h' hpos⟩, h.2⟩⟩

theorem trueOf_iff_of_ne_0 {pos : Fin stepsPerRev} {st : DoorState}
    (hpos : getPosition pos ≠ 0) :
    TrueOf pos st ↔ (st = .locked ↔ getPosition pos = 180) ∧ st ≠ .unlocked :=
  ⟨fun h => ⟨h.locked, fun hst => hpos (h.unlocked hst)⟩,
    fun h => ⟨h.1, fun hst => absurd hst h.2⟩⟩

theorem lockDoor_returnsTrue_iff (s : DoorMod) (door : Door) (env : Env) :
    (s.lockDoor door env).ReturnsTrue ↔ LockReturnsTrue s door env := by
  unfold lockDoor
  dsimp only
  by_cases hpos : getPosition s.position = 180
  · rw [if_pos hpos, returnsTrue_reported]
    exact ⟨fun h => ⟨fun _ => h.locked.mpr hpos, fun hlocks => absurd hpos hlocks.1⟩,
      fun h => ⟨⟨fun _ => hpos, fun _ => h.already hpos⟩,
        fun hst => absurd ((h.already hpos).symm.trans hst) (by decide)⟩⟩
  · rw [if_neg hpos]
    have hidle : ¬s.Locks env → LockReturnsTrue s door env := fun hnot =>
      ⟨fun h => absurd h hpos, fun hlocks => absurd hlocks hnot⟩
    by_cases hopen : avgDistanceSample env.samples ≥ doorClosedThresholdCm
    · rw [if_pos hopen, returnsTrue_reported]
      exact iff_of_true (trueOf_other nofun nofun hpos)
        (hidle fun h => absurd hopen (Int.not_le.mpr h.2.2))
    · rw [if_neg hopen]
      by_cases herr : avgDistanceSample env.samples = -1
      · rw [if_pos herr, returnsTrue_reported]
        exact iff_of_true (trueOf_other nofun nofun hpos) (hidle fun h => h.2.1 herr)
      · have hclosed := Int.not_le.mp hopen
        have hlocks : s.Locks env := ⟨hpos, herr, hclosed⟩
        rw [if_neg herr, if_pos hclosed]
        rcases rotate_cases s.position 180 (by decide) (by decide) env.writes with
          ⟨hok, hall⟩ | ⟨hok, j, hstall, hend⟩
        · rw [if_pos hok, returnsTrue_reported]
          have hthere := (rotate_locked_iff hpos env.writes).mpr hall
          refine iff_of_true ⟨⟨fun _ => hthere, fun _ => rfl⟩, nofun⟩ ?_
          exact ⟨fun h => absurd h hpos, fun _ j hstall => absurd hall hstall.not_writesSucceed⟩
        · rw [if_neg (by rw [hok]; decide), returnsTrue_reported]
          have hshort : getPosition (advance s.position j) ≠ 180 := by
            rw [← hend]
            exact fun h => hstall.not_writesSucceed ((rotate_locked_iff hpos env.writes).mp h)
          show TrueOf (rotate s.position 180 env.writes).position door.state ↔ _
          rw [hend, trueOf_iff_of_ne_180 hshort]
          constructor
          · intro h
            refine ⟨fun h' => absurd h' hpos, fun _ j' hstall' => ?_⟩
            rw [← hstall.unique hstall']
            exact h
          · exact fun h => h.stalled hlocks j hstall

theorem unlockDoor_returnsTrue_iff (s : DoorMod) (door : Door) (env : Env) :
    (s.unlockDoor door env).ReturnsTrue ↔ UnlockReturnsTrue s door env := by
  unfold unlockDoor
  dsimp only
  by_cases hpos : getPosition s.position = 0
  · rw [if_pos hpos, returnsTrue_reported]
    have hne : getPosition s.position ≠ 180 := by
      rw [hpos]
      decide
    rw [trueOf_iff_of_ne_180 hne]
    exact ⟨fun h => ⟨fun _ => h.1, fun h' => absurd hpos h'.1, fun h' => absurd hpos h'⟩,
      fun h => ⟨h.already hpos, fun _ => hpos⟩⟩
  · rw [if_neg hpos]
    by_cases hlocked : s.lastKnownDoor.state = .locked
        ∨ getPosition s.position = stepperLockedPosition
    · have hunlocks : s.Unlocks := ⟨hpos, hlocked⟩
      rw [if_pos hlocked]
      rcases rotate_cases s.position stepperUnlockedPosition (by decide) (by decide)
        env.writes with ⟨hok, hall⟩ | ⟨hok, j, hstall, hend⟩
      · rw [if_pos hok, returnsTrue_reported]
        have hthere : getPosition (rotate s.position 0 env.writes).position = 0 :=
          (rotate_unlocked_iff hpos env.writes).mpr hall
        have hne : getPosition (rotate s.position 0 env.writes).position ≠ 180 := by
          rw [hthere]
          decide
        refine iff_of_true ((trueOf_iff_of_ne_180 hne).mpr ⟨nofun, fun _ => hthere⟩) ?_
        exact ⟨fun h => absurd h hpos, fun _ j hstall => absurd hall hstall.not_writesSucceed,
          fun _ h => absurd hunlocks h⟩
      · rw [if_neg (by rw [hok]; decide), returnsTrue_reported]
        have hshort : getPosition (advance s.position j) ≠ 0 := by
          rw [← hend]
          exact fun h => hstall.not_writesSucceed ((rotate_unlocked_iff hpos env.writes).mp h)
        show TrueOf (rotate s.position stepperUnlockedPosition env.writes).position door.state ↔ _
        rw [hend, trueOf_iff_of_ne_0 hshort]
        constructor
        · intro h
          refine ⟨fun h' => absurd h' hpos, fun _ j' hstall' => ?_, fun _ h' => absurd hunlocks h'⟩
          rw [← hstall.unique hstall']
          exact h
        · exact fun h => h.stalled hunlocks j hstall
    · have hnot : ¬s.Unlocks := fun h => hlocked h.2
      have hne : getPosition s.position ≠ 180 := fun h => hlocked (Or.inr h)
      have hstate : ¬s.lastKnownDoor.state = .locked := fun h => hlocked (Or.inl h)
      rw [if_neg hlocked]
      by_cases hopen : env.distance ≥ doorClosedThresholdCm
      · rw [if_pos hopen, returnsTrue_reported]
        exact iff_of_true (trueOf_other nofun nofun hne)
          ⟨fun h => absurd h hpos, fun h => absurd h hnot, fun _ _ => hopen⟩
      · rw [if_neg hopen, if_pos hstate, returnsTrue_reported]
        exact iff_of_false (fun h => hpos (h.unlocked rfl)) fun h => hopen (h.assumed hpos hnot)

theorem getDoorStatus_returnsTrue_iff (s : DoorMod) (door : Door) (env : Env) :
    (s.getDoorStatus door env).ReturnsTrue ↔ StatusReturnsTrue s door env := by
  unfold getDoorStatus
  by_cases hpos : getPosition s.position = stepperLockedPosition
  · rw [if_pos hpos, returnsTrue_reported]
    exact iff_of_true ⟨⟨fun _ => hpos, fun _ => rfl⟩, nofun⟩
      ⟨fun h => absurd hpos h, fun h => absurd hpos h⟩
  · rw [if_neg hpos]
    by_cases hclosed : env.distance < doorClosedThresholdCm ∧ env.distance ≠ -1
    · rw [if_pos hclosed, returnsTrue_reported, trueOf_iff_of_ne_180 hpos]
      exact ⟨fun h => ⟨fun _ _ _ => h.2 rfl, fun _ h' => absurd h' hclosed.2⟩,
        fun h => ⟨nofun, fun _ => h.closed hpos hclosed.1 hclosed.2⟩⟩
    · rw [if_neg hclosed]
      by_cases herr : env.distance = -1
      · rw [if_pos herr, returnsTrue_reported, trueOf_iff_of_ne_180 hpos]
        exact ⟨fun h => ⟨fun _ _ h' => absurd herr h', fun _ _ => h⟩,
          fun h => h.unread hpos herr⟩
      · have hopen : env.distance ≥ doorClosedThresholdCm :=
          Int.not_lt.mp fun h => hclosed ⟨h, herr⟩
        rw [if_neg herr, if_pos hopen, returnsTrue_reported]
        exact iff_of_true (trueOf_other nofun nofun hpos)
          ⟨fun _ h => absurd hopen (Int.not_le.mpr h), fun _ h => absurd h herr⟩

/-- The state each of the three calls returns is true of the bolt exactly then. -/
theorem returnedDoor_iff (s : DoorMod) (door : Door) (env : Env) :
    ((s.lockDoor door env).ReturnsTrue ↔ LockReturnsTrue s door env)
      ∧ ((s.unlockDoor door env).ReturnsTrue ↔ UnlockReturnsTrue s door env)
      ∧ ((s.getDoorStatus door env).ReturnsTrue ↔ StatusReturnsTrue s door env) :=
  ⟨s.lockDoor_returnsTrue_iff door env, s.unlockDoor_returnsTrue_iff door env,
    s.getDoorStatus_returnsTrue_iff door env⟩

/-- Locked, then told to lock again: the second call returns what it was given. -/
theorem returnedDoor_lockTwice :
    let d : Door := ⟨.unknown, 0⟩
    let env : Env := ⟨[5], 5, 5, fun _ _ => true, 7, 7⟩
    ¬(((DoorMod.initial 0).lockDoor d env).mod.lockDoor d env).ReturnsTrue := by
  intro d env htrue
  have hlocked : getPosition ((DoorMod.initial 0).lockDoor d env).mod.position = 180 :=
    (lockDoor_locked_iff _ d env).mpr (Or.inr ⟨by decide, fun _ _ => rfl⟩)
  have hstate := ((lockDoor_returnsTrue_iff _ d env).mp htrue).already hlocked
  cases hstate

end DoorMod

end HomeSecurity
