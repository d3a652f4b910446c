import Mathlib.Data.Fintype.Card
import Mathlib.Data.List.Count
import Mathlib.Data.Finset.Card

/-!
# Requests, a bounded table, answers

A server keeps the requests that still wait for an answer in a table of
finitely many slots. Requests may be dropped and slots overwritten; what must
hold is that no key is answered more often than it was requested. `Balanced` is
the invariant that carries it: the slots waiting for a key and its answers
together never outnumber its requests.
-/

namespace Ledger

variable {ι κ : Type*} [Fintype ι] [DecidableEq ι] [DecidableEq κ]

/-- How many slots wait for an answer to `k`. -/
def held (table : ι → Option κ) (k : κ) : Nat :=
  (Finset.univ.filter fun i => table i = some k).card

omit [DecidableEq ι] in
theorem held_empty (k : κ) : held (fun _ : ι => none) k = 0 := by
  simp [held]

/-- Filling a slot adds one waiting slot for the new key at most. -/
theorem held_place_le (table : ι → Option κ) (i : ι) (k k' : κ) :
    held (Function.update table i (some k)) k'
      ≤ held table k' + if k = k' then 1 else 0 := by
  have hsub : (Finset.univ.filter fun j => Function.update table i (some k) j = some k')
      ⊆ if k = k' then insert i (Finset.univ.filter fun j => table j = some k')
        else Finset.univ.filter fun j => table j = some k' := by
    intro j hj
    rw [Finset.mem_filter] at hj
    by_cases hji : j = i
    · subst hji
      rw [Function.update_self] at hj
      rw [if_pos (Option.some.inj hj.2)]
      exact Finset.mem_insert_self ..
    · rw [Function.update_of_ne hji] at hj
      have hmem : j ∈ Finset.univ.filter fun j => table j = some k' := Finset.mem_filter.mpr hj
      split
      · exact Finset.mem_insert_of_mem hmem
      · exact hmem
  have hcard := Finset.card_le_card hsub
  by_cases hk : k = k'
  · subst hk
    rw [if_pos rfl] at hcard ⊢
    exact hcard.trans (Finset.card_insert_le ..)
  · rw [if_neg hk] at hcard ⊢
    exact hcard

theorem held_clear_le (table : ι → Option κ) (i : ι) (k : κ) :
    held (Function.update table i none) k ≤ held table k := by
  refine Finset.card_le_card fun j hj => ?_
  rw [Finset.mem_filter] at hj ⊢
  by_cases hji : j = i
  · subst hji
    rw [Function.update_self] at hj
    cases hj.2
  · rwa [Function.update_of_ne hji] at hj

/-- Clearing a slot that waits for `k` leaves one fewer. -/
theorem held_clear {table : ι → Option κ} {i : ι} {k : κ} (hi : table i = some k) :
    held (Function.update table i none) k + 1 = held table k := by
  have hset : (Finset.univ.filter fun j => Function.update table i none j = some k)
      = (Finset.univ.filter fun j => table j = some k).erase i := by
    ext j
    by_cases hji : j = i
    · subst hji
      simp
    · simp [hji]
  rw [held, hset]
  exact Finset.card_erase_add_one (Finset.mem_filter.mpr ⟨Finset.mem_univ i, hi⟩)

section Balance

variable [BEq κ]

def Balanced (table : ι → Option κ) (requested answered : List κ) : Prop :=
  ∀ k, held table k + answered.count k ≤ requested.count k

namespace Balanced

variable {table : ι → Option κ} {requested answered : List κ}

omit [DecidableEq ι] in
theorem empty : Balanced (fun _ : ι => none) [] ([] : List κ) := by
  intro k
  rw [held_empty]
  exact Nat.le_refl _

omit [DecidableEq ι] in
/-- Requests that get no slot. -/
theorem request (h : Balanced table requested answered) (ks : List κ) :
    Balanced table (requested ++ ks) answered := by
  intro k
  rw [List.count_append]
  exact (h k).trans (Nat.le_add_right ..)

omit [DecidableEq ι] in
theorem count_le (h : Balanced table requested answered) (k : κ) :
    answered.count k ≤ requested.count k :=
  (Nat.le_add_left ..).trans (h k)

variable [LawfulBEq κ]

/-- A request that gets a slot, whatever the slot was waiting for. -/
theorem place (h : Balanced table requested answered) (i : ι) (k : κ) :
    Balanced (Function.update table i (some k)) (requested ++ [k]) answered := by
  intro k'
  have hheld := held_place_le table i k k'
  have hbal := h k'
  rw [List.count_append, List.count_singleton]
  by_cases hk : k = k'
  · rw [if_pos hk] at hheld
    rw [if_pos (beq_iff_eq.mpr hk)]
    omega
  · rw [if_neg hk] at hheld
    omega

theorem answer (h : Balanced table requested answered) {i : ι} {k : κ}
    (hi : table i = some k) :
    Balanced (Function.update table i none) requested (answered ++ [k]) := by
  intro k'
  have hbal := h k'
  rw [List.count_append, List.count_singleton]
  by_cases hk : k = k'
  · subst hk
    have hheld := held_clear hi
    rw [if_pos (beq_self_eq_true k)]
    omega
  · have hheld := held_clear_le table i k'
    rw [if_neg fun h => hk (beq_iff_eq.mp h)]
    omega

end Balanced

end Balance

end Ledger
