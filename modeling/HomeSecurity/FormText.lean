import HomeSecurity.CSearch

/-!
# Form text

`key=value` entries joined by `&`, as the query of a path and the body of a form
are written, and as hand-written C takes them apart: `strtok_r` at each `&`,
`strchr` at the first `=`; what has no `=` is dropped. `entries_encode` is the round trip.

A key may come twice. `first` and `last` are the two ways to answer for it, and
`first_eq_last` says when they are the same.
-/

namespace FormText

open CText

/-- A key and its value, as they come out of a form. -/
structure IsEntry (e : Text × Text) : Prop where
  key : '=' ∉ e.1 ∧ '&' ∉ e.1
  value : '&' ∉ e.2

def entryText (e : Text × Text) : Text := e.1 ++ '=' :: e.2

/-- The entries joined by `&`. -/
def encode : List (Text × Text) → Text
  | [] => []
  | [e] => entryText e
  | e :: es => entryText e ++ '&' :: encode es

def entries (s : Text) : List (Text × Text) := (strtok (· = '&') s).filterMap (strchr '=')

/-! ## The round trip -/

theorem IsEntry.isWord {e : Text × Text} (he : IsEntry e) : IsWord (· = '&') (entryText e) where
  ne_nil := List.append_ne_nil_of_right_ne_nil _ (List.cons_ne_nil _ _)
  free := by
    intro c hc
    refine decide_eq_false fun hamp => ?_
    subst hamp
    rcases List.mem_append.mp hc with hkey | hrest
    · exact he.key.2 hkey
    · rcases List.mem_cons.mp hrest with heq | hvalue
      · cases heq
      · exact he.value hvalue

theorem strchr_entryText {e : Text × Text} (he : IsEntry e) : strchr '=' (entryText e) = some e :=
  strchr_eq_some_iff.mpr ⟨rfl, he.key.1⟩

theorem entries_entryText {e : Text × Text} (he : IsEntry e) : entries (entryText e) = [e] := by
  rw [entries, strtok_self he.isWord, List.filterMap_cons_some (strchr_entryText he)]
  rfl

theorem entries_cons {e : Text × Text} (he : IsEntry e) (s : Text) :
    entries (entryText e ++ '&' :: s) = e :: entries s := by
  rw [entries, strtok_word he.isWord (by rfl), List.filterMap_cons_some (strchr_entryText he)]
  rfl

/-- What is joined is read back. -/
theorem entries_encode {es : List (Text × Text)} (hes : ∀ e ∈ es, IsEntry e) :
    entries (encode es) = es := by
  induction es with
  | nil => rfl
  | cons e es ih =>
      obtain ⟨he, hes⟩ := List.forall_mem_cons.mp hes
      cases es with
      | nil => exact entries_entryText he
      | cons e' es =>
          have hjoin : encode (e :: e' :: es) = entryText e ++ '&' :: encode (e' :: es) := rfl
          rw [hjoin, entries_cons he, ih hes]

/-! ## A key's value -/

/-- The value that `e` has for the key. -/
def valueFor (key : Text) (e : Text × Text) : Option Text := if e.1 = key then some e.2 else none

def first (key : Text) (es : List (Text × Text)) : Option Text := es.findSome? (valueFor key)

def last (key : Text) (es : List (Text × Text)) : Option Text := first key es.reverse

theorem last_append (key : Text) (es : List (Text × Text)) (e : Text × Text) :
    last key (es ++ [e]) = (valueFor key e).or (last key es) := by
  rw [last, List.reverse_append, first, List.reverse_singleton, List.singleton_append,
    List.findSome?_cons]
  cases valueFor key e <;> rfl

theorem first_eq_some_of_mem {key v : Text} {es : List (Text × Text)} (hmem : (key, v) ∈ es)
    (hsame : ∀ w, (key, w) ∈ es → w = v) : first key es = some v := by
  cases hfirst : first key es with
  | none =>
      have hnone := List.findSome?_eq_none_iff.mp hfirst _ hmem
      simp [valueFor] at hnone
  | some w =>
      obtain ⟨e, he, hval⟩ := List.exists_of_findSome?_eq_some hfirst
      obtain ⟨hkey, hw⟩ := Option.ite_none_right_eq_some.mp hval
      rw [hsame w (by rw [← hkey, ← Option.some.inj hw]; exact he)]

theorem first_eq_none {key : Text} {es : List (Text × Text)} (hnone : ∀ e ∈ es, e.1 ≠ key) :
    first key es = none :=
  List.findSome?_eq_none_iff.mpr fun e he => if_neg (hnone e he)

/-- A key that never comes with two values has one. -/
theorem first_eq_last {key : Text} {es : List (Text × Text)}
    (hsame : ∀ v w, (key, v) ∈ es → (key, w) ∈ es → v = w) : first key es = last key es := by
  by_cases hany : ∃ v, (key, v) ∈ es
  · obtain ⟨v, hv⟩ := hany
    rw [last, first_eq_some_of_mem hv fun w hw => hsame w v hw hv,
      first_eq_some_of_mem (List.mem_reverse.mpr hv) fun w hw =>
        hsame w v (List.mem_reverse.mp hw) hv]
  · have hnone : ∀ e ∈ es, e.1 ≠ key := by
      rintro ⟨k, v⟩ he rfl
      exact hany ⟨v, he⟩
    rw [last, first_eq_none hnone, first_eq_none fun e he => hnone e (List.mem_reverse.mp he)]

end FormText
