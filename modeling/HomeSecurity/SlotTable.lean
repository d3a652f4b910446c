import Mathlib.Algebra.Order.Ring.Int
import Mathlib.Tactic.Common

/-!
# A table with a replacement policy

A table of fixed size that takes a new entry into a free slot, and into the
slot of an oldest entry when no slot is free. One pass over the slots finds
both: it stops at a free slot, and remembers the least age until then.

`choose_free` and `choose_least` are the two halves of what the pass finds; the
pass may start from any slot, also one that is free and whose age says nothing.
-/

namespace SlotTable

universe u v

variable {ι : Type u} {β : Type v} (free : ι → Prop) [DecidablePred free] [LinearOrder β]
  (age : ι → β)

/-- The pass over a list of slots, with the slot found so far and its age. -/
def choose : List ι → ι → β → ι
  | [], slot, _ => slot
  | i :: is, slot, least =>
      if free i then i
      else if age i < least then choose is i (age i)
      else choose is slot least

variable {free age}

/-- Where there is a free slot, the pass ends at one. -/
theorem choose_free {is : List ι} (hfree : ∃ i ∈ is, free i) (slot : ι) (least : β) :
    free (choose free age is slot least) := by
  induction is generalizing slot least with
  | nil =>
      obtain ⟨i, hi, -⟩ := hfree
      cases hi
  | cons i is ih =>
      rw [choose]
      by_cases hi : free i
      · rw [if_pos hi]
        exact hi
      · have hrest : ∃ j ∈ is, free j := by
          obtain ⟨j, hj, hfj⟩ := hfree
          rcases List.mem_cons.mp hj with rfl | hj
          · exact absurd hfj hi
          · exact ⟨j, hj, hfj⟩
        rw [if_neg hi]
        split
        · exact ih hrest i (age i)
        · exact ih hrest slot least

/-- Where there is none, it ends at a slot with the least age. -/
theorem choose_least (age : ι → β) {is : List ι} (hlive : ∀ i ∈ is, ¬free i) {slot : ι}
    {least : β} (hslot : age slot = least) :
    age (choose free age is slot least) ≤ least
      ∧ ∀ i ∈ is, age (choose free age is slot least) ≤ age i := by
  induction is generalizing slot least with
  | nil =>
      rw [choose]
      exact ⟨le_of_eq hslot, fun i hi => absurd hi List.not_mem_nil⟩
  | cons i is ih =>
      have hrest : ∀ j ∈ is, ¬free j := fun j hj => hlive j (List.mem_cons_of_mem _ hj)
      rw [choose, if_neg (hlive i (List.mem_cons_self ..))]
      by_cases hlt : age i < least
      · rw [if_pos hlt]
        obtain ⟨hfirst, hall⟩ := ih hrest (rfl : age i = age i)
        refine ⟨le_trans hfirst (le_of_lt hlt), fun j hj => ?_⟩
        rcases List.mem_cons.mp hj with rfl | hj
        · exact hfirst
        · exact hall j hj
      · rw [if_neg hlt]
        obtain ⟨hfirst, hall⟩ := ih hrest hslot
        refine ⟨hfirst, fun j hj => ?_⟩
        rcases List.mem_cons.mp hj with rfl | hj
        · exact le_trans hfirst (le_of_not_gt hlt)
        · exact hall j hj

end SlotTable
