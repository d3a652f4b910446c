import Mathlib.Algebra.Order.Ring.Int
import Mathlib.Data.Fin.Tuple.Basic
import Mathlib.Data.List.Induction
import Mathlib.Data.List.Nodup
import Mathlib.Logic.Function.Basic
import Mathlib.Tactic.Common

/-!
# Slots driven by keyed events

A table of `n` slots that fills up from the front and never frees a slot. An event
that names a key updates the slot of that key, takes the first free slot for it, or
is dropped when there is none; an event that names no key goes over all slots.

Such a table is a product of independent machines, one for each of the first `n`
keys: `holds_run` says what each slot holds after any events, and `get_run` what a
lookup finds.
-/

namespace KeyedSlots

universe u v w

variable {n : Nat} {κ : Type u} {ν : Type v} {ι : Type w}

abbrev Slots (n : Nat) (κ : Type u) (ν : Type v) := Fin n → Option (κ × ν)

/-- The slots hold the first of the keys `ks`, each with its value; the keys are
different, and just they have a value. -/
structure Holds (s : Slots n κ ν) (ks : List κ) (value : κ → Option ν) : Prop where
  slot : ∀ j : Fin n, s j = ks[j.val]?.bind fun k => (value k).map (Prod.mk k)
  nodup : ks.Nodup
  started : ∀ k, (value k).isSome = true ↔ k ∈ ks

section

variable {s : Slots n κ ν} {ks : List κ} {value : κ → Option ν}

/-- The key in a slot. -/
theorem Holds.key (h : Holds s ks value) (j : Fin n) : (s j).map Prod.fst = ks[j.val]? := by
  rw [h.slot j]
  cases hk : ks[j.val]? with
  | none => rfl
  | some k =>
      obtain ⟨v, hv⟩ := Option.isSome_iff_exists.mp ((h.started k).mpr (List.mem_of_getElem? hk))
      simp [hv]

/-- A slot that is free. -/
theorem Holds.free (h : Holds s ks value) (j : Fin n) :
    (s j).isNone = decide (ks.length ≤ j.val) := by
  rw [Bool.eq_iff_iff, Option.isNone_iff_eq_none, decide_eq_true_eq, ← List.getElem?_eq_none_iff,
    ← h.key j, Option.map_eq_none_iff]

/-- The first free slot is the one behind the last key. -/
theorem Holds.free_eq_some_iff (h : Holds s ks value) {j : Fin n} :
    (Fin.find? fun i => (s i).isNone) = some j ↔ j.val = ks.length := by
  rw [Fin.find?_eq_some_iff]
  simp only [h.free, decide_eq_true_eq, decide_eq_false_iff_not]
  constructor
  · rintro ⟨hj, hfirst⟩
    by_contra hne
    exact hfirst ⟨ks.length, by omega⟩ (Fin.mk_lt_of_lt_val (by omega)) (Nat.le_refl _)
  · intro hj
    exact ⟨by omega, fun i hi => by have := Fin.lt_def.mp hi; omega⟩

theorem Holds.free_eq_none_iff (h : Holds s ks value) :
    (Fin.find? fun i => (s i).isNone) = none ↔ n ≤ ks.length := by
  rw [Fin.find?_eq_none_iff]
  simp only [h.free, decide_eq_false_iff_not]
  constructor
  · intro hall
    by_contra hlt
    exact hall ⟨ks.length, by omega⟩ (Nat.le_refl _)
  · intro hle j
    omega

/-- All values change. -/
theorem Holds.mapValues (h : Holds s ks value) (f : ν → ν) :
    Holds (fun j => (s j).map (Prod.map id f)) ks fun k => (value k).map f where
  slot j := by
    rw [h.slot j]
    cases ks[j.val]? with
    | none => rfl
    | some k => cases hv : value k <;> simp [hv]
  nodup := h.nodup
  started k := by rw [Option.isSome_map, h.started k]

/-- What a slot of another key holds, when the value of one key changes. -/
theorem Holds.slot_of_other (h : Holds s ks value) {k : κ} {value' : κ → Option ν}
    (hother : ∀ k', k' ≠ k → value' k' = value k') {j : Fin n} (hj : ks[j.val]? ≠ some k) :
    s j = ks[j.val]?.bind fun k => (value' k).map (Prod.mk k) := by
  rw [h.slot j]
  cases hk : ks[j.val]? with
  | none => rfl
  | some k' =>
      have hne : k' ≠ k := fun heq => hj (by rw [hk, heq])
      rw [Option.bind_some, Option.bind_some, hother k' hne]

end

variable [DecidableEq κ]

/-! ## Lookups and updates -/

/-- The first slot of the key. -/
def find (s : Slots n κ ν) (k : κ) : Option (Fin n) :=
  Fin.find? fun i => decide ((s i).map Prod.fst = some k)

/-- The value in it. -/
def get (s : Slots n κ ν) (k : κ) : Option ν :=
  (find s k).bind fun i => (s i).map Prod.snd

/-- Update the key's slot, or put the updated `fresh` into the first free one. -/
def upsert (s : Slots n κ ν) (k : κ) (fresh : ν) (f : ν → ν) : Slots n κ ν :=
  match find s k with
  | some i => Function.update s i ((s i).map (Prod.map id f))
  | none =>
      match Fin.find? fun i => (s i).isNone with
      | some i => Function.update s i (some (k, f fresh))
      | none => s

section

variable {s : Slots n κ ν} {k : κ} {i : Fin n} (fresh : ν) (f : ν → ν)

theorem upsert_of_find {v : ν} (hfind : find s k = some i) (hv : s i = some (k, v)) :
    upsert s k fresh f = Function.update s i (some (k, f v)) := by
  simp [upsert, hfind, hv]

theorem upsert_of_free (hfind : find s k = none) (hfree : (s i).isNone = true)
    (hfirst : ∀ j < i, (s j).isNone = false) :
    upsert s k fresh f = Function.update s i (some (k, f fresh)) := by
  have hslot : (Fin.find? fun i => (s i).isNone) = some i :=
    Fin.find?_eq_some_iff.mpr ⟨hfree, hfirst⟩
  rw [upsert, hfind]
  dsimp only
  rw [hslot]

theorem upsert_of_full (hfind : find s k = none) (hfull : ∀ j, (s j).isNone = false) :
    upsert s k fresh f = s := by
  have hslot : (Fin.find? fun i => (s i).isNone) = none :=
    Fin.find?_eq_none_iff.mpr fun j => by simp [hfull j]
  rw [upsert, hfind]
  dsimp only
  rw [hslot]

end

section

variable {s : Slots n κ ν} {ks : List κ} {value : κ → Option ν}

theorem Holds.find_eq_some_iff (h : Holds s ks value) {k : κ} {j : Fin n} :
    find s k = some j ↔ ks[j.val]? = some k := by
  rw [find, Fin.find?_eq_some_iff]
  simp only [h.key, decide_eq_true_eq, decide_eq_false_iff_not]
  refine ⟨fun hj => hj.1, fun hj => ⟨hj, fun i hi hik => ?_⟩⟩
  have hlt := (List.getElem?_eq_some_iff.mp hik).1
  exact absurd ((List.getElem?_inj hlt h.nodup).mp (hik.trans hj.symm)) (Nat.ne_of_lt hi)

theorem Holds.find_eq_none_iff (h : Holds s ks value) {k : κ} :
    find s k = none ↔ k ∉ ks.take n := by
  rw [find, Fin.find?_eq_none_iff]
  simp only [h.key, decide_eq_false_iff_not]
  constructor
  · intro hall hmem
    obtain ⟨j, hj, hk⟩ := List.mem_take_iff_getElem.mp hmem
    have hkey : ks[j]? = some k := List.getElem?_eq_some_iff.mpr ⟨by omega, hk⟩
    exact hall ⟨j, by omega⟩ hkey
  · intro hk j hj
    refine hk (List.mem_take_iff_getElem.mpr ?_)
    obtain ⟨hlt, heq⟩ := List.getElem?_eq_some_iff.mp hj
    exact ⟨j.val, by omega, heq⟩

/-- A lookup finds the value of a key that has a slot. -/
theorem Holds.get_eq (h : Holds s ks value) (k : κ) :
    get s k = if k ∈ ks.take n then value k else none := by
  rw [get]
  by_cases hk : k ∈ ks.take n
  · rw [if_pos hk]
    cases hfind : find s k with
    | none => exact absurd hk (h.find_eq_none_iff.mp hfind)
    | some j =>
        rw [Option.bind_some, h.slot j, h.find_eq_some_iff.mp hfind, Option.bind_some,
          Option.map_map]
        cases value k <;> rfl
  · rw [if_neg hk, h.find_eq_none_iff.mpr hk, Option.bind_none]

section Upsert

variable {k : κ} {fresh : ν} {f : ν → ν} {value' : κ → Option ν}
  (h : Holds s ks value) (hself : value' k = some (f ((value k).getD fresh)))
  (hother : ∀ k', k' ≠ k → value' k' = value k')

include h hself hother

/-- The key has a slot, or is one of those that did not get one. -/
theorem Holds.upsert_of_mem (hk : k ∈ ks) : Holds (upsert s k fresh f) ks value' := by
  have hslots : ∀ j, upsert s k fresh f j
      = ks[j.val]?.bind fun k => (value' k).map (Prod.mk k) := by
    intro j
    unfold upsert
    cases hfind : find s k with
    | some i =>
        have hi := h.find_eq_some_iff.mp hfind
        obtain ⟨v, hv⟩ := Option.isSome_iff_exists.mp ((h.started k).mpr hk)
        dsimp only
        by_cases hj : j = i
        · rw [hj, Function.update_self, h.slot i, hi]
          simp [hv, hself]
        · rw [Function.update_of_ne hj]
          refine h.slot_of_other hother fun hjk => hj (Fin.ext ?_)
          have hlt := (List.getElem?_eq_some_iff.mp hjk).1
          exact (List.getElem?_inj hlt h.nodup).mp (hjk.trans hi.symm)
    | none =>
        have hout := h.find_eq_none_iff.mp hfind
        have hfull : (Fin.find? fun i => (s i).isNone) = none := by
          rw [h.free_eq_none_iff]
          by_contra hlt
          exact hout (by rwa [List.take_of_length_le (by omega)])
        rw [hfull]
        refine h.slot_of_other hother fun hjk => hout ?_
        obtain ⟨hlt, heq⟩ := List.getElem?_eq_some_iff.mp hjk
        exact List.mem_take_iff_getElem.mpr ⟨j.val, by omega, heq⟩
  refine ⟨hslots, h.nodup, fun k' => ?_⟩
  by_cases hk' : k' = k
  · simp [hk', hself, hk]
  · rw [hother k' hk', h.started k']

/-- The key is new: it gets the slot behind the last key, if there is one. -/
theorem Holds.upsert_of_not_mem (hk : k ∉ ks) :
    Holds (upsert s k fresh f) (ks ++ [k]) value' := by
  have hnone : value k = none := by
    rw [← Option.not_isSome_iff_eq_none, h.started k]
    exact hk
  have hnew : ∀ j : Fin n, j.val ≠ ks.length →
      s j = (ks ++ [k])[j.val]?.bind fun k => (value' k).map (Prod.mk k) := by
    intro j hj
    have hkeys : (ks ++ [k])[j.val]? = ks[j.val]? := by
      rcases Nat.lt_or_gt_of_ne hj with hlt | hgt
      · exact List.getElem?_append_left hlt
      · rw [List.getElem?_eq_none (by simp; omega), List.getElem?_eq_none (by omega)]
    rw [hkeys]
    exact h.slot_of_other hother fun hjk => hk (List.mem_of_getElem? hjk)
  have hslots : ∀ j, upsert s k fresh f j
      = (ks ++ [k])[j.val]?.bind fun k => (value' k).map (Prod.mk k) := by
    intro j
    have hfind : find s k = none :=
      h.find_eq_none_iff.mpr fun hmem => hk (List.mem_of_mem_take hmem)
    unfold upsert
    rw [hfind]
    dsimp only
    cases hfree : Fin.find? fun i => (s i).isNone with
    | some i =>
        dsimp only
        have hi := h.free_eq_some_iff.mp hfree
        by_cases hj : j = i
        · rw [hj, hi]
          simp [hself, hnone]
        · have hne : j.val ≠ ks.length := fun heq => hj (Fin.ext (heq.trans hi.symm))
          rw [Function.update_of_ne hj]
          exact hnew j hne
    | none =>
        have hfull := h.free_eq_none_iff.mp hfree
        exact hnew j (by omega)
  refine ⟨hslots, ?_, fun k' => ?_⟩
  · rw [← List.concat_eq_append]
    exact h.nodup.concat hk
  · by_cases hk' : k' = k
    · simp [hk', hself]
    · simp [hk', hother k' hk', h.started k']

/-- An update of one key. -/
theorem Holds.upsert :
    Holds (upsert s k fresh f) (if k ∈ ks then ks else ks ++ [k]) value' := by
  split
  · rename_i hk
    exact h.upsert_of_mem hself hother hk
  · rename_i hk
    exact h.upsert_of_not_mem hself hother hk

end Upsert

end

/-! ## Runs -/

/-- What the events mean. -/
structure Machine (κ : Type u) (ν : Type v) (ι : Type w) where
  /-- The key an event names. -/
  key : ι → Option κ
  fresh : κ → ν
  /-- An event that names the key. -/
  own : κ → ι → ν → ν
  /-- An event that names none. -/
  tick : ι → ν → ν

namespace Machine

variable (M : Machine κ ν ι)

def step (s : Slots n κ ν) (i : ι) : Slots n κ ν :=
  match M.key i with
  | some k => upsert s k (M.fresh k) (M.own k i)
  | none => fun j => (s j).map (Prod.map id (M.tick i))

def run (n : Nat) (is : List ι) : Slots n κ ν := is.foldl M.step fun _ => none

/-- The keys named, in the order in which they were first named. -/
def keys (is : List ι) : List κ :=
  is.foldl (fun ks i => match M.key i with
    | some k => if k ∈ ks then ks else ks ++ [k]
    | none => ks) []

/-- The machine of one key: it starts at the first event that names the key. -/
def aloneStep (k : κ) (v : Option ν) (i : ι) : Option ν :=
  match M.key i with
  | some k' => if k' = k then some (M.own k i (v.getD (M.fresh k))) else v
  | none => v.map (M.tick i)

def alone (k : κ) (is : List ι) : Option ν := is.foldl (M.aloneStep k) none

variable {M}

theorem run_concat (is : List ι) (i : ι) : M.run n (is ++ [i]) = M.step (M.run n is) i := by
  rw [run, List.foldl_concat, run]

theorem alone_concat (k : κ) (is : List ι) (i : ι) :
    M.alone k (is ++ [i]) = M.aloneStep k (M.alone k is) i := by
  rw [alone, List.foldl_concat, alone]

/-- The table is the product of the machines of its keys. -/
theorem holds_run (is : List ι) : Holds (M.run n is) (M.keys is) fun k => M.alone k is := by
  induction is using List.reverseRecOn with
  | nil => exact ⟨fun j => rfl, List.nodup_nil, fun k => by simp [alone, keys]⟩
  | append_singleton is i ih =>
      have hkeys : M.keys (is ++ [i]) = match M.key i with
          | some k => if k ∈ M.keys is then M.keys is else M.keys is ++ [k]
          | none => M.keys is := by
        rw [keys, List.foldl_concat, keys]
      simp only [run_concat, alone_concat, step, aloneStep, hkeys]
      cases hi : M.key i with
      | none => exact ih.mapValues (M.tick i)
      | some k =>
          refine ih.upsert (by simp) fun k' hk' => ?_
          have hne : k ≠ k' := fun heq => hk' heq.symm
          simp [hne]

/-- A lookup after any events: the machine of the key, for the first `n` keys. -/
theorem get_run (is : List ι) (k : κ) :
    get (M.run n is) k = if k ∈ (M.keys is).take n then M.alone k is else none :=
  (holds_run is).get_eq k

end Machine

end KeyedSlots
