import HomeSecurity.CSearch
import HomeSecurity.StatusReport

/-!
# Four decoders of one text

A FEEDBACK's action is read four times: by the server, which normalizes it for
`door-feedback`; by the client's handlers of `door-feedback` and of
`command-feedback`, which reads it as it is; and by `get-door-info`. Each handler
sets a field of the client's entry or leaves it (`Effects`), whatever it was, so
that they can be compared without the entry.

`decodersAgree_iff` names the texts for which the two messages come to the same in
either order, and what they make of the entry is what `get-door-info` reports. It
takes an open door with a lock, both states of the lock, a closed door without a
lock, or LOCKED without a door to make them differ.
-/

namespace HomeSecurity

open CText JsText

/-! ## What a message does to an entry -/

/-- What a message does to one field. -/
inductive Effect where
  | keep
  | set (v : Option Bool)
deriving DecidableEq

/-- What it does to both. -/
structure Effects where
  door : Effect
  lock : Effect
deriving DecidableEq

namespace Effect

def on (x : Effect) (old : Option Bool) : Option Bool :=
  match x with
  | .keep => old
  | .set v => v

/-- First `x`, then `y`. -/
def andThen (x y : Effect) : Effect :=
  match y with
  | .keep => x
  | .set v => .set v

theorem on_andThen (x y : Effect) (old : Option Bool) : (x.andThen y).on old = y.on (x.on old) := by
  cases y <;> rfl

theorem on_injective {x y : Effect} (h : ∀ old, x.on old = y.on old) : x = y := by
  cases x with
  | keep =>
      cases y with
      | keep => rfl
      | set v => cases v with
          | none => exact absurd (h (some true)) (by simp [on])
          | some b => exact absurd (h none) (by simp [on])
  | set v =>
      cases y with
      | keep => cases v with
          | none => exact absurd (h (some true)) (by simp [on])
          | some b => exact absurd (h none) (by simp [on])
      | set w => exact congrArg set (h none)

/-- A field is determined by a text that sets it. -/
theorem determined_iff (x : Effect) (b : Bool) :
    (∀ old, x.on old = some b) ↔ x = .set (some b) := by
  constructor
  · intro h
    exact on_injective (y := .set (some b)) h
  · rintro rfl old
    rfl

end Effect

namespace Effects

def on (x : Effects) (e : DoorEntry) : DoorEntry := ⟨x.door.on e.doorOpen, x.lock.on e.lockLocked⟩

def andThen (x y : Effects) : Effects := ⟨x.door.andThen y.door, x.lock.andThen y.lock⟩

theorem on_andThen (x y : Effects) (e : DoorEntry) : (x.andThen y).on e = y.on (x.on e) := by
  simp only [on, andThen, Effect.on_andThen]

theorem on_eq_on_iff (x y : Effects) : (∀ e, x.on e = y.on e) ↔ x = y := by
  constructor
  · intro h
    have hdoor : x.door = y.door :=
      Effect.on_injective fun old => congrArg DoorEntry.doorOpen (h ⟨old, none⟩)
    have hlock : x.lock = y.lock :=
      Effect.on_injective fun old => congrArg DoorEntry.lockLocked (h ⟨none, old⟩)
    obtain ⟨_, _⟩ := x
    obtain ⟨_, _⟩ := y
    simp_all
  · rintro rfl e
    rfl

end Effects

/-! ## What is to agree -/

/-- The entry of a client that gets the two messages the other way round. -/
def DoorEntry.answeredBackwards (prev : DoorEntry) (action : Text) : DoorEntry :=
  (prev.onCommandFeedback action).onDoorFeedback (formattedAction action)

/-- What a client's messages determine, as true or false whatever the entry was, is what
`get-door-info` reports; `null` is not knowing. -/
def Told (messages : DoorEntry → DoorEntry) (i : DoorInfo) : Prop :=
  (∀ b, (∀ prev, (messages prev).doorOpen = some b) → i.frontDoorOpen = b)
    ∧ ∀ b, (∀ prev, (messages prev).lockLocked = some b) → i.frontLockLocked = b

/-- The two messages of a FEEDBACK come to the same in either order, and agree with what
`get-door-info` reports. -/
def DecodersAgree (f : FeedbackMessage) : Prop :=
  (∀ prev : DoorEntry, prev.answered f.action = prev.answeredBackwards f.action)
    ∧ Told (fun prev => prev.answered f.action) (decodeDoorInfo f)
    ∧ Told (fun prev => prev.answeredBackwards f.action) (decodeDoorInfo f)

/-- The texts all decoders read alike: `STATUS_*`; and those in which an open door stands
without a lock, a lock in one state only, a closed door not without a lock, and LOCKED
not without a mention of OPEN or CLOSED. -/
def ReadAlike (action : Text) : Prop :=
  let upper := toUpperCase action
  let parts := pieces upper
  startsWith upper "STATUS_".toList = true ∨
    (("OPEN".toList ∈ parts → "LOCKED".toList ∉ parts ∧ "UNLOCKED".toList ∉ parts)
      ∧ ¬("LOCKED".toList ∈ parts ∧ "UNLOCKED".toList ∈ parts)
      ∧ ("CLOSED".toList ∈ parts → "LOCKED".toList ∈ parts ∨ "UNLOCKED".toList ∈ parts)
      ∧ ("LOCKED".toList ∈ parts →
          includes upper "OPEN".toList = true ∨ includes upper "CLOSED".toList = true))

/-- The effects of the two messages, `d` of `door-feedback` and `c` of
`command-feedback`, against two reported flags. -/
def EffectsAgree (d c : Effects) (doorOpen lockLocked : Bool) : Prop :=
  d.andThen c = c.andThen d
    ∧ ((∀ b, (d.andThen c).door = .set (some b) → doorOpen = b)
      ∧ ∀ b, (d.andThen c).lock = .set (some b) → lockLocked = b)
    ∧ ((∀ b, (c.andThen d).door = .set (some b) → doorOpen = b)
      ∧ ∀ b, (c.andThen d).lock = .set (some b) → lockLocked = b)

instance decidableEffectsAgree (d c : Effects) (doorOpen lockLocked : Bool) :
    Decidable (EffectsAgree d c doorOpen lockLocked) :=
  inferInstanceAs (Decidable (_ ∧ (_ ∧ _) ∧ (_ ∧ _)))

theorem told_iff (x : Effects) (i : DoorInfo) :
    Told x.on i ↔ (∀ b, x.door = .set (some b) → i.frontDoorOpen = b)
      ∧ ∀ b, x.lock = .set (some b) → i.frontLockLocked = b := by
  have hdoor : ∀ b, (∀ prev, (x.on prev).doorOpen = some b) ↔ x.door = .set (some b) := by
    intro b
    rw [← Effect.determined_iff]
    exact ⟨fun h old => h ⟨old, none⟩, fun h prev => h prev.doorOpen⟩
  have hlock : ∀ b, (∀ prev, (x.on prev).lockLocked = some b) ↔ x.lock = .set (some b) := by
    intro b
    rw [← Effect.determined_iff]
    exact ⟨fun h old => h ⟨none, old⟩, fun h prev => h prev.lockLocked⟩
  simp only [Told, hdoor, hlock]

/-- The decoders can be compared by what they do. -/
theorem decodersAgree_of_effects {f : FeedbackMessage} {d c : Effects}
    (hd : ∀ prev : DoorEntry, prev.onDoorFeedback (formattedAction f.action) = d.on prev)
    (hc : ∀ prev : DoorEntry, prev.onCommandFeedback f.action = c.on prev) :
    DecodersAgree f ↔
      EffectsAgree d c (decodeDoorInfo f).frontDoorOpen (decodeDoorInfo f).frontLockLocked := by
  have hforth : (fun prev : DoorEntry => prev.answered f.action) = (d.andThen c).on := by
    funext prev
    rw [DoorEntry.answered, hd, hc, Effects.on_andThen]
  have hback : (fun prev : DoorEntry => prev.answeredBackwards f.action) = (c.andThen d).on := by
    funext prev
    rw [DoorEntry.answeredBackwards, hc, hd, Effects.on_andThen]
  unfold DecodersAgree EffectsAgree
  rw [hforth, hback, told_iff, told_iff, ← Effects.on_eq_on_iff, ← hforth, ← hback]

/-! ## What each message does -/

/-- `applyStatusStateToDoor`. -/
def statusEffects (upper : Text) : Effects :=
  if upper = "LOCKED".toList then ⟨.set (some false), .set (some true)⟩
  else if upper = "UNLOCKED".toList then ⟨.set (some false), .set (some false)⟩
  else if upper = "OPEN".toList then ⟨.set (some true), .keep⟩
  else ⟨.set none, .set none⟩

def flagEffect (yes no : Bool) : Effect :=
  if yes then .set (some true) else if no then .set (some false) else .keep

/-- `applyLegacyStatusString`, by which of the four words are there. -/
def legacyEffects (isOpen isClosed isLocked isUnlocked : Bool) : Effects :=
  ⟨flagEffect isOpen isClosed, flagEffect isLocked isUnlocked⟩

theorem applyStatusStateToDoor_eq (e : DoorEntry) (st : Text) :
    e.applyStatusStateToDoor st = (statusEffects (toUpperCase st)).on e := by
  unfold DoorEntry.applyStatusStateToDoor statusEffects
  simp only
  split
  · rfl
  · split
    · rfl
    · split <;> rfl

theorem applyLegacyStatusString_eq (e : DoorEntry) {u : Text} {parts : List Text}
    (hparts : (pieces u).map toUpperCase = parts) :
    e.applyLegacyStatusString u
      = (legacyEffects (parts.contains "OPEN".toList) (parts.contains "CLOSED".toList)
          (parts.contains "LOCKED".toList) (parts.contains "UNLOCKED".toList)).on e := by
  have hflag : ∀ (yes no : Text) (old : Option Bool), DoorEntry.flagOf parts yes no old
      = (flagEffect (parts.contains yes) (parts.contains no)).on old := by
    intro yes no old
    unfold DoorEntry.flagOf flagEffect
    split
    · rfl
    · split <;> rfl
  rw [DoorEntry.applyLegacyStatusString, hparts, hflag, hflag]
  rfl

theorem includes_of_mem_pieces {s w : Text} (hw : w ∈ pieces s) : includes s w = true :=
  (includes_iff s w).mpr (infix_of_strtok hw)

theorem map_toUpperCase_pieces (action : Text) :
    (pieces (toUpperCase action)).map toUpperCase = pieces (toUpperCase action) := by
  refine (List.map_congr_left fun w hw => ?_).trans (List.map_id _)
  exact toUpperCase_of_mem fun c hc => mem_of_strtok hw hc

theorem toUpperCase_drop (action : Text) (n : Nat) :
    toUpperCase ((toUpperCase action).drop n) = (toUpperCase action).drop n :=
  toUpperCase_of_mem fun _ hc => List.mem_of_mem_drop hc

section Action

variable {action : Text}

theorem onCommandFeedback_status (h : startsWith (toUpperCase action) "STATUS_".toList = true)
    (e : DoorEntry) :
    e.onCommandFeedback action
      = (statusEffects ((toUpperCase action).drop "STATUS_".toList.length)).on e := by
  rw [DoorEntry.onCommandFeedback, if_pos h, applyStatusStateToDoor_eq, toUpperCase_drop]

theorem onCommandFeedback_legacy (h : ¬startsWith (toUpperCase action) "STATUS_".toList = true)
    (e : DoorEntry) :
    e.onCommandFeedback action
      = (legacyEffects ((pieces (toUpperCase action)).contains "OPEN".toList)
          ((pieces (toUpperCase action)).contains "CLOSED".toList)
          ((pieces (toUpperCase action)).contains "LOCKED".toList)
          ((pieces (toUpperCase action)).contains "UNLOCKED".toList)).on e := by
  rw [DoorEntry.onCommandFeedback, if_neg h]
  exact applyLegacyStatusString_eq e (map_toUpperCase_pieces action)

theorem onDoorFeedback_status (h : startsWith (toUpperCase action) "STATUS_".toList = true)
    (htrim : trim (toUpperCase action) = toUpperCase action) (e : DoorEntry) :
    e.onDoorFeedback (formattedAction action)
      = (statusEffects ((toUpperCase action).drop "STATUS_".toList.length)).on e := by
  have hformat : formattedAction action = toUpperCase action := by
    rw [formattedAction, htrim]
    exact if_pos h
  rw [hformat, DoorEntry.onDoorFeedback, toUpperCase_toUpperCase, if_pos h,
    applyStatusStateToDoor_eq, toUpperCase_drop]

/-- A `door-feedback` with a state word that the server has chosen. -/
theorem onDoorFeedback_word {st : Text} (hst : toUpperCase st = st) (e : DoorEntry) :
    e.onDoorFeedback ("STATUS_".toList ++ st) = (statusEffects st).on e := by
  have hupper : toUpperCase ("STATUS_".toList ++ st) = "STATUS_".toList ++ st := by
    rw [toUpperCase_append]
    exact congrArg ("STATUS_".toList ++ ·) hst
  have hstarts : startsWith ("STATUS_".toList ++ st) "STATUS_".toList = true :=
    List.isPrefixOf_iff_prefix.mpr (List.prefix_append ..)
  rw [DoorEntry.onDoorFeedback, hupper, if_pos hstarts, List.drop_left, applyStatusStateToDoor_eq,
    hst]

/-- The last of two words there is. -/
theorem lastOf_cases (tokens : List Text) (a b : Text) :
    (lastOf tokens a b = none ∧ a ∉ tokens ∧ b ∉ tokens)
      ∨ (lastOf tokens a b = some a ∧ a ∈ tokens) ∨ (lastOf tokens a b = some b ∧ b ∈ tokens) := by
  cases h : lastOf tokens a b with
  | none =>
      have hnil := List.getLast?_eq_none_iff.mp h
      rw [List.filter_eq_nil_iff] at hnil
      refine Or.inl ⟨rfl, fun ha => ?_, fun hb => ?_⟩
      · exact hnil a ha (by simp)
      · exact hnil b hb (by simp)
  | some x =>
      obtain ⟨hmem, hx⟩ := List.mem_filter.mp (List.mem_of_getLast? h)
      have heq : x = a ∨ x = b := by simpa using hx
      rcases heq with rfl | rfl
      · exact Or.inr (Or.inl ⟨rfl, hmem⟩)
      · exact Or.inr (Or.inr ⟨rfl, hmem⟩)

/-- The word the server chooses for a text that mentions OPEN or CLOSED. -/
def stateWord (tokens : List Text) : Text :=
  (lastOf tokens "LOCKED".toList "UNLOCKED".toList).getD
    ((lastOf tokens "OPEN".toList "CLOSED".toList).getD "UNKNOWN".toList)

theorem formattedAction_legacy (h : ¬startsWith (toUpperCase action) "STATUS_".toList = true)
    (htrim : trim (toUpperCase action) = toUpperCase action)
    (hmentions : (includes (toUpperCase action) "OPEN".toList
      || includes (toUpperCase action) "CLOSED".toList) = true) :
    formattedAction action = "STATUS_".toList ++ stateWord (pieces (toUpperCase action)) := by
  have hbare : toUpperCase action ≠ "STATUS".toList := by
    intro hu
    rw [hu] at hmentions
    revert hmentions
    decide
  simp only [formattedAction, htrim]
  rw [if_neg h, if_neg hbare, if_pos hmentions, stateWord]
  cases lastOf (pieces (toUpperCase action)) "LOCKED".toList "UNLOCKED".toList with
  | some lockState => rfl
  | none =>
      cases lastOf (pieces (toUpperCase action)) "OPEN".toList "CLOSED".toList with
      | some doorState => rfl
      | none => rfl

theorem stateWord_cases (tokens : List Text) :
    (stateWord tokens = "LOCKED".toList ∧ "LOCKED".toList ∈ tokens)
      ∨ (stateWord tokens = "UNLOCKED".toList ∧ "UNLOCKED".toList ∈ tokens)
      ∨ ("LOCKED".toList ∉ tokens ∧ "UNLOCKED".toList ∉ tokens
        ∧ ((stateWord tokens = "OPEN".toList ∧ "OPEN".toList ∈ tokens)
          ∨ (stateWord tokens = "CLOSED".toList ∧ "CLOSED".toList ∈ tokens)
          ∨ (stateWord tokens = "UNKNOWN".toList ∧ "OPEN".toList ∉ tokens
            ∧ "CLOSED".toList ∉ tokens))) := by
  unfold stateWord
  rcases lastOf_cases tokens "LOCKED".toList "UNLOCKED".toList with
    ⟨hlock, hno, hnot⟩ | ⟨hlock, hmem⟩ | ⟨hlock, hmem⟩
  · refine Or.inr (Or.inr ⟨hno, hnot, ?_⟩)
    rw [hlock, Option.getD_none]
    rcases lastOf_cases tokens "OPEN".toList "CLOSED".toList with
      ⟨hdoor, hneither⟩ | ⟨hdoor, hmem⟩ | ⟨hdoor, hmem⟩
    · rw [hdoor]
      exact Or.inr (Or.inr ⟨rfl, hneither⟩)
    · rw [hdoor]
      exact Or.inl ⟨rfl, hmem⟩
    · rw [hdoor]
      exact Or.inr (Or.inl ⟨rfl, hmem⟩)
  · rw [hlock]
    exact Or.inl ⟨rfl, hmem⟩
  · rw [hlock]
    exact Or.inr (Or.inl ⟨rfl, hmem⟩)

theorem toUpperCase_stateWord (tokens : List Text) :
    toUpperCase (stateWord tokens) = stateWord tokens := by
  rcases stateWord_cases tokens with
    ⟨h, -⟩ | ⟨h, -⟩ | ⟨-, -, ⟨h, -⟩ | ⟨h, -⟩ | ⟨h, -⟩⟩ <;>
  · rw [h]
    rfl

/-- Any other text but the bare STATUS says nothing to `door-feedback`. -/
theorem onDoorFeedback_other (h : ¬startsWith (toUpperCase action) "STATUS_".toList = true)
    (htrim : trim (toUpperCase action) = toUpperCase action)
    (hbare : toUpperCase action ≠ "STATUS".toList)
    (hmentions : ¬(includes (toUpperCase action) "OPEN".toList
      || includes (toUpperCase action) "CLOSED".toList) = true) (e : DoorEntry) :
    e.onDoorFeedback (formattedAction action) = e := by
  have hformat : formattedAction action = action := by
    simp only [formattedAction, htrim]
    rw [if_neg h, if_neg hbare, if_neg hmentions]
  rw [hformat, DoorEntry.onDoorFeedback, if_neg h]

end Action

/-! ## Agreement -/

section Agreement

variable {f : FeedbackMessage}

/-- Both messages say the same state, and `get-door-info` the two it knows. -/
theorem effectsAgree_status (st : Text) :
    EffectsAgree (statusEffects st) (statusEffects st) (st = "OPEN".toList)
      (st = "LOCKED".toList) := by
  by_cases hlocked : st = "LOCKED".toList
  · subst hlocked
    decide
  · by_cases hunlocked : st = "UNLOCKED".toList
    · subst hunlocked
      decide
    · by_cases hopen : st = "OPEN".toList
      · subst hopen
        decide
      · simp only [statusEffects, if_neg hlocked, if_neg hunlocked, if_neg hopen,
          decide_eq_false hlocked, decide_eq_false hopen]
        decide

theorem decodersAgree_status (h : startsWith (toUpperCase f.action) "STATUS_".toList = true)
    (htrim : trim (toUpperCase f.action) = toUpperCase f.action) : DecodersAgree f := by
  rw [decodersAgree_of_effects (onDoorFeedback_status h htrim) (onCommandFeedback_status h)]
  have hinfo : ((decodeDoorInfo f).frontDoorOpen, (decodeDoorInfo f).frontLockLocked)
      = (decide ((toUpperCase f.action).drop "STATUS_".toList.length = "OPEN".toList),
        decide ((toUpperCase f.action).drop "STATUS_".toList.length = "LOCKED".toList)) := by
    simp only [decodeDoorInfo]
    rw [if_pos h]
  obtain ⟨hopen, hlocked⟩ := Prod.mk.inj hinfo
  rw [hopen, hlocked]
  exact effectsAgree_status _

/-- What `get-door-info` reports of a text that is no `STATUS_*`. -/
theorem decodeDoorInfo_legacy (h : ¬startsWith (toUpperCase f.action) "STATUS_".toList = true) :
    ((decodeDoorInfo f).frontDoorOpen, (decodeDoorInfo f).frontLockLocked)
      = if includes (toUpperCase f.action) "OPEN".toList
          || includes (toUpperCase f.action) "CLOSED".toList then
        ((pieces (toUpperCase f.action)).contains "OPEN".toList
            && !(pieces (toUpperCase f.action)).contains "CLOSED".toList,
          (pieces (toUpperCase f.action)).contains "LOCKED".toList
            && !(pieces (toUpperCase f.action)).contains "UNLOCKED".toList)
      else (false, false) := by
  simp only [decodeDoorInfo]
  rw [if_neg h]

/-- With a lock: no open door, and the lock in one state. -/
theorem effectsAgree_locked : ∀ isOpen isClosed isUnlocked : Bool,
    EffectsAgree (statusEffects "LOCKED".toList) (legacyEffects isOpen isClosed true isUnlocked)
      (isOpen && !isClosed) (!isUnlocked) ↔ isOpen = false ∧ isUnlocked = false := by
  decide

theorem effectsAgree_unlocked : ∀ isOpen isClosed isLocked : Bool,
    EffectsAgree (statusEffects "UNLOCKED".toList) (legacyEffects isOpen isClosed isLocked true)
      (isOpen && !isClosed) false ↔ isOpen = false ∧ isLocked = false := by
  decide

/-- Without one: no closed door. -/
theorem effectsAgree_open : ∀ isClosed : Bool,
    EffectsAgree (statusEffects "OPEN".toList) (legacyEffects true isClosed false false)
      (!isClosed) false ↔ isClosed = false := by
  decide

theorem effectsAgree_closed : ∀ isOpen : Bool,
    ¬EffectsAgree (statusEffects "CLOSED".toList) (legacyEffects isOpen true false false)
      false false := by
  decide

/-- Nothing said to `door-feedback`: the lock is not reported. -/
theorem effectsAgree_silent : ∀ isLocked isUnlocked : Bool,
    EffectsAgree ⟨.keep, .keep⟩ (legacyEffects false false isLocked isUnlocked) false false
      ↔ isLocked = false := by
  decide

theorem decodersAgree_mention (h : ¬startsWith (toUpperCase f.action) "STATUS_".toList = true)
    (htrim : trim (toUpperCase f.action) = toUpperCase f.action)
    (hmentions : (includes (toUpperCase f.action) "OPEN".toList
      || includes (toUpperCase f.action) "CLOSED".toList) = true) :
    DecodersAgree f ↔
      ("OPEN".toList ∈ pieces (toUpperCase f.action) →
          "LOCKED".toList ∉ pieces (toUpperCase f.action)
            ∧ "UNLOCKED".toList ∉ pieces (toUpperCase f.action))
        ∧ ¬("LOCKED".toList ∈ pieces (toUpperCase f.action)
          ∧ "UNLOCKED".toList ∈ pieces (toUpperCase f.action))
        ∧ ("CLOSED".toList ∈ pieces (toUpperCase f.action) →
          "LOCKED".toList ∈ pieces (toUpperCase f.action)
            ∨ "UNLOCKED".toList ∈ pieces (toUpperCase f.action)) := by
  have hinfo := decodeDoorInfo_legacy h
  rw [if_pos hmentions] at hinfo
  obtain ⟨hopen, hlocked⟩ := Prod.mk.inj hinfo
  have hdoor : ∀ prev : DoorEntry, prev.onDoorFeedback (formattedAction f.action)
      = (statusEffects (stateWord (pieces (toUpperCase f.action)))).on prev := by
    intro prev
    rw [formattedAction_legacy h htrim hmentions, onDoorFeedback_word (toUpperCase_stateWord _)]
  rw [decodersAgree_of_effects hdoor (onCommandFeedback_legacy h), hopen, hlocked]
  generalize pieces (toUpperCase f.action) = tokens
  simp only [List.contains_eq_mem]
  rcases stateWord_cases tokens with
    ⟨hword, hmem⟩ | ⟨hword, hmem⟩ |
      ⟨hno, hnot, ⟨hword, hmem⟩ | ⟨hword, hmem⟩ | ⟨hword, hno', hnot'⟩⟩
  · rw [hword, decide_eq_true hmem, Bool.true_and, effectsAgree_locked, decide_eq_false_iff_not,
      decide_eq_false_iff_not]
    constructor
    · rintro ⟨hopen, hunlocked⟩
      exact ⟨fun ho => absurd ho hopen, fun hboth => hunlocked hboth.2, fun _ => Or.inl hmem⟩
    · rintro ⟨hopen, hboth, -⟩
      exact ⟨fun ho => (hopen ho).1 hmem, fun hu => hboth ⟨hmem, hu⟩⟩
  · rw [hword, decide_eq_true hmem, Bool.not_true, Bool.and_false, effectsAgree_unlocked,
      decide_eq_false_iff_not, decide_eq_false_iff_not]
    constructor
    · rintro ⟨hopen, hlocked⟩
      exact ⟨fun ho => absurd ho hopen, fun hboth => hlocked hboth.1, fun _ => Or.inr hmem⟩
    · rintro ⟨hopen, hboth, -⟩
      exact ⟨fun ho => (hopen ho).2 hmem, fun hl => hboth ⟨hl, hmem⟩⟩
  · rw [hword, decide_eq_true hmem, decide_eq_false hno, decide_eq_false hnot, Bool.true_and,
      Bool.false_and, effectsAgree_open, decide_eq_false_iff_not]
    constructor
    · intro hclosed
      exact ⟨fun _ => ⟨hno, hnot⟩, fun hboth => hno hboth.1, fun hc => absurd hc hclosed⟩
    · rintro ⟨-, -, hclosed⟩ hc
      exact (hclosed hc).elim hno hnot
  · rw [hword, decide_eq_true hmem, decide_eq_false hno, decide_eq_false hnot, Bool.not_true,
      Bool.and_false, Bool.false_and]
    refine iff_of_false (effectsAgree_closed _) fun hread => ?_
    exact (hread.2.2 hmem).elim hno hnot
  · rw [hword, decide_eq_false hno, decide_eq_false hnot, decide_eq_false hno',
      decide_eq_false hnot', Bool.false_and]
    refine iff_of_true (by decide) ⟨fun ho => absurd ho hno', fun hboth => hno hboth.1, ?_⟩
    exact fun hc => absurd hc hnot'

theorem decodersAgree_silent (h : ¬startsWith (toUpperCase f.action) "STATUS_".toList = true)
    (htrim : trim (toUpperCase f.action) = toUpperCase f.action)
    (hmentions : ¬(includes (toUpperCase f.action) "OPEN".toList
      || includes (toUpperCase f.action) "CLOSED".toList) = true) :
    DecodersAgree f ↔ "LOCKED".toList ∉ pieces (toUpperCase f.action) := by
  have hinfo := decodeDoorInfo_legacy h
  rw [if_neg hmentions] at hinfo
  obtain ⟨hopen, hlocked⟩ := Prod.mk.inj hinfo
  have hno : "OPEN".toList ∉ pieces (toUpperCase f.action) := fun hmem =>
    hmentions (by rw [includes_of_mem_pieces hmem, Bool.true_or])
  have hnot : "CLOSED".toList ∉ pieces (toUpperCase f.action) := fun hmem =>
    hmentions (by rw [includes_of_mem_pieces hmem, Bool.or_true])
  by_cases hbare : toUpperCase f.action = "STATUS".toList
  · have hdoor : ∀ prev : DoorEntry, prev.onDoorFeedback (formattedAction f.action)
        = (statusEffects "UNKNOWN".toList).on prev := by
      intro prev
      have hformat : formattedAction f.action = "STATUS_".toList ++ "UNKNOWN".toList := by
        simp only [formattedAction, htrim]
        rw [if_neg h, if_pos hbare]
        rfl
      rw [hformat, onDoorFeedback_word rfl]
    rw [decodersAgree_of_effects hdoor (onCommandFeedback_legacy h), hopen, hlocked, hbare]
    decide
  · have hdoor : ∀ prev : DoorEntry, prev.onDoorFeedback (formattedAction f.action)
        = (⟨.keep, .keep⟩ : Effects).on prev :=
      onDoorFeedback_other h htrim hbare hmentions
    rw [decodersAgree_of_effects hdoor (onCommandFeedback_legacy h), hopen, hlocked]
    simp only [List.contains_eq_mem]
    rw [decide_eq_false hno, decide_eq_false hnot, effectsAgree_silent, decide_eq_false_iff_not]

end Agreement

/-- The action of a FEEDBACK has nothing to trim. -/
theorem feedbackMessage_trim {msg : Text} {f : FeedbackMessage}
    (h : feedbackMessage msg = some f) :
    trim (toUpperCase f.action) = toUpperCase f.action := by
  unfold feedbackMessage at h
  split at h
  · rename_i moduleId type cmdid target action rest hwords
    split at h
    · obtain rfl := Option.some.inj h
      refine trim_toUpperCase_joinSpace fun w hw => ?_
      have hmem : w ∈ words (trim msg) := by
        rw [hwords]
        simp only [List.mem_cons] at hw ⊢
        exact Or.inr (Or.inr (Or.inr (Or.inr hw)))
      exact strtok_isWord hmem
    · cases h
  · cases h

/-- For any message, the decoders agree on its action exactly if it reads alike. -/
theorem decodersAgree_iff {msg : Text} {f : FeedbackMessage} (h : feedbackMessage msg = some f) :
    DecodersAgree f ↔ ReadAlike f.action := by
  have htrim := feedbackMessage_trim h
  unfold ReadAlike
  simp only
  by_cases hstatus : startsWith (toUpperCase f.action) "STATUS_".toList = true
  · exact iff_of_true (decodersAgree_status hstatus htrim) (Or.inl hstatus)
  · rw [or_iff_right hstatus]
    by_cases hmentions : (includes (toUpperCase f.action) "OPEN".toList
        || includes (toUpperCase f.action) "CLOSED".toList) = true
    · rw [decodersAgree_mention hstatus htrim hmentions]
      rw [Bool.or_eq_true] at hmentions
      constructor
      · rintro ⟨hopen, hlock, hclosed⟩
        exact ⟨hopen, hlock, hclosed, fun _ => hmentions⟩
      · rintro ⟨hopen, hlock, hclosed, -⟩
        exact ⟨hopen, hlock, hclosed⟩
    · rw [decodersAgree_silent hstatus htrim hmentions]
      rw [Bool.or_eq_true] at hmentions
      have hno : "OPEN".toList ∉ pieces (toUpperCase f.action) := fun hmem =>
        hmentions (Or.inl (includes_of_mem_pieces hmem))
      have hnot : "CLOSED".toList ∉ pieces (toUpperCase f.action) := fun hmem =>
        hmentions (Or.inr (includes_of_mem_pieces hmem))
      constructor
      · intro hlock
        exact ⟨fun hmem => absurd hmem hno, fun hboth => hlock hboth.1,
          fun hmem => absurd hmem hnot, fun hmem => absurd hmem hlock⟩
      · rintro ⟨-, -, -, hlast⟩ hmem
        exact hmentions (hlast hmem)

/-! ## A documented state -/

def openLockedLine : Text := "D1 FEEDBACK 5 D0 OPEN,LOCKED".toList

def openLocked : FeedbackMessage :=
  ⟨"D1".toList, some 5, "D0".toList, "OPEN,LOCKED".toList, openLockedLine⟩

theorem feedbackMessage_openLocked : feedbackMessage openLockedLine = some openLocked := by
  decide +kernel

theorem decodersAgree_iff_openLocked : DecodersAgree openLocked ↔ ReadAlike openLocked.action :=
  decodersAgree_iff feedbackMessage_openLocked

/-- `OPEN,LOCKED` is a locked, closed door first and an open one second. -/
theorem openLocked_disagree :
    ¬∀ (msg : Text) (f : FeedbackMessage), feedbackMessage msg = some f → DecodersAgree f := by
  intro hall
  have hsame := (hall openLockedLine openLocked feedbackMessage_openLocked).1 ⟨none, none⟩
  revert hsame
  decide +kernel

end HomeSecurity
