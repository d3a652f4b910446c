import Mathlib.Algebra.Order.Ring.Int
import Mathlib.Data.List.DropRight
import Mathlib.Tactic.Common

/-!
# A log in a ring

A ring of `n` slots that is only ever written at its head: the last `n` entries
are kept, the oldest in the slot `count` places before the head. `toList_foldl_push`
says that the kept entries are the last `n` of everything written, and
`take_eq_rtake_iff` when reading from the old end of a list gives the same as
reading from the new end.
-/

universe u

structure RingLog (n : Nat) (α : Type u) where
  slots : Fin n → α
  /-- The slot written next. -/
  head : Fin n
  count : Nat
  count_le : count ≤ n

namespace RingLog

variable {n : Nat} {α : Type u}

/-- The slot `i` places after the oldest entry. -/
def slotAt (r : RingLog n α) (i : Nat) : Fin n :=
  ⟨(r.head.val + n - r.count + i) % n, Nat.mod_lt _ r.head.pos⟩

def push (r : RingLog n α) (x : α) : RingLog n α where
  slots := Function.update r.slots r.head x
  head := ⟨(r.head.val + 1) % n, Nat.mod_lt _ r.head.pos⟩
  count := if r.count < n then r.count + 1 else r.count
  count_le := by
    have hle := r.count_le
    split <;> omega

/-- The entries, oldest first. -/
def toList (r : RingLog n α) : List α :=
  (List.range r.count).map fun i => r.slots (r.slotAt i)

@[simp] theorem length_toList (r : RingLog n α) : r.toList.length = r.count := by
  rw [toList, List.length_map, List.length_range]

/-! ## Slots -/

/-- Entries after the oldest are not at the head, and the oldest is only there
when the ring is full. -/
theorem slotAt_ne_head {r : RingLog n α} {i : Nat} (hi : i < r.count)
    (hroom : 0 < n - r.count + i) : r.slotAt i ≠ r.head := by
  intro heq
  have hval : (r.head.val + n - r.count + i) % n = r.head.val := congrArg Fin.val heq
  have hhead := r.head.isLt
  have hle := r.count_le
  by_cases hwrap : r.head.val + n - r.count + i < n
  · rw [Nat.mod_eq_of_lt hwrap] at hval
    omega
  · rw [Nat.mod_eq_sub_mod (Nat.not_lt.mp hwrap), Nat.mod_eq_of_lt (by omega)] at hval
    omega

theorem slotAt_count (r : RingLog n α) : r.slotAt r.count = r.head := by
  have hle := r.count_le
  have hsum : r.head.val + n - r.count + r.count = r.head.val + n := by omega
  apply Fin.ext
  show (r.head.val + n - r.count + r.count) % n = r.head.val
  rw [hsum, Nat.add_mod_right, Nat.mod_eq_of_lt r.head.isLt]

theorem push_slotAt_of_lt {r : RingLog n α} (hroom : r.count < n) (x : α) (i : Nat) :
    (r.push x).slotAt i = r.slotAt i := by
  apply Fin.ext
  simp only [slotAt, push, if_pos hroom]
  have hhead := r.head.isLt
  by_cases hlast : r.head.val + 1 < n
  · rw [Nat.mod_eq_of_lt hlast]
    congr 1
    omega
  · have hsum : r.head.val + n - r.count + i = n + (n - (r.count + 1) + i) := by omega
    rw [show r.head.val + 1 = n by omega, Nat.mod_self, hsum, Nat.add_mod_left, Nat.zero_add]

theorem push_slotAt_of_full {r : RingLog n α} (hfull : r.count = n) (x : α) (i : Nat) :
    (r.push x).slotAt i = r.slotAt (i + 1) := by
  apply Fin.ext
  simp only [slotAt, push, hfull, lt_irrefl, if_false, Nat.add_sub_cancel]
  have hhead := r.head.isLt
  by_cases hlast : r.head.val + 1 < n
  · rw [Nat.mod_eq_of_lt hlast]
    congr 1
    omega
  · have hsum : r.head.val + (i + 1) = n + i := by omega
    rw [show r.head.val + 1 = n by omega, Nat.mod_self, hsum, Nat.add_mod_left, Nat.zero_add]

/-! ## Writing -/

theorem toList_push_of_lt {r : RingLog n α} (hroom : r.count < n) (x : α) :
    (r.push x).toList = r.toList ++ [x] := by
  have hcount : (r.push x).count = r.count + 1 := if_pos hroom
  rw [toList, hcount, List.range_succ, List.map_append, List.map_singleton,
    push_slotAt_of_lt hroom, slotAt_count, toList]
  congr 1
  · refine List.map_congr_left fun i hi => ?_
    have hne : r.slotAt i ≠ r.head := slotAt_ne_head (List.mem_range.mp hi) (by omega)
    rw [push_slotAt_of_lt hroom]
    exact Function.update_of_ne hne ..
  · exact congrArg (fun y => [y]) (Function.update_self ..)

theorem toList_push_of_full {r : RingLog n α} (hfull : r.count = n) (x : α) :
    (r.push x).toList = r.toList.tail ++ [x] := by
  obtain ⟨k, hk⟩ : ∃ k, r.count = k + 1 := by
    have hpos := r.head.pos
    exact ⟨n - 1, by omega⟩
  have hcount : (r.push x).count = k + 1 := by
    show (if r.count < n then r.count + 1 else r.count) = k + 1
    rw [if_neg (by omega), hk]
  have htail : r.toList.tail = (List.range k).map fun i => r.slots (r.slotAt (i + 1)) := by
    rw [toList, hk, List.range_succ_eq_map, List.map_cons, List.tail_cons, List.map_map]
    rfl
  rw [toList, hcount, htail, List.range_succ, List.map_append, List.map_singleton,
    push_slotAt_of_full hfull, ← hk, slotAt_count]
  congr 1
  · refine List.map_congr_left fun i hi => ?_
    have hi' := List.mem_range.mp hi
    have hne : r.slotAt (i + 1) ≠ r.head := slotAt_ne_head (by omega) (by omega)
    rw [push_slotAt_of_full hfull]
    exact Function.update_of_ne hne ..
  · exact congrArg (fun y => [y]) (Function.update_self ..)

/-- Of the entries and the new one, the last `n` are kept. -/
theorem toList_push (r : RingLog n α) (x : α) : (r.push x).toList = (r.toList ++ [x]).rtake n := by
  have hlen : (r.toList ++ [x]).length = r.count + 1 := by simp
  have hle := r.count_le
  rw [List.rtake, hlen]
  by_cases hroom : r.count < n
  · rw [toList_push_of_lt hroom, show r.count + 1 - n = 0 by omega, List.drop_zero]
  · have hfull : r.count = n := by omega
    have hpos := r.head.pos
    rw [toList_push_of_full hfull, show r.count + 1 - n = 1 by omega,
      List.drop_append_of_le_length (by rw [length_toList]; omega), List.drop_one]

theorem rtake_append_rtake (l xs : List α) : (l.rtake n ++ xs).rtake n = (l ++ xs).rtake n := by
  simp only [List.rtake_eq_reverse_take_reverse, List.reverse_append, List.reverse_reverse,
    List.take_append, List.take_take]
  rw [Nat.min_eq_left (Nat.sub_le ..)]

/-- Of everything ever written, the last `n` entries are kept. -/
theorem toList_foldl_push (xs : List α) (r : RingLog n α) :
    (xs.foldl push r).toList = (r.toList ++ xs).rtake n := by
  induction xs generalizing r with
  | nil =>
      have hle := r.count_le
      rw [List.foldl_nil, List.append_nil, List.rtake, length_toList,
        show r.count - n = 0 by omega, List.drop_zero]
  | cons x xs ih =>
      rw [List.foldl_cons, ih, toList_push, rtake_append_rtake, List.append_assoc,
        List.singleton_append]

/-! ## Reading from either end -/

/-- The list repeats with the period `p`. -/
def Repeats (l : List α) (p : Nat) : Prop := ∀ i, i + p < l.length → l[i]? = l[i + p]?

/-- The oldest `k` entries are the newest `k` if there are no others, or if the
entries repeat with as large a period as there are others. -/
theorem take_eq_rtake_iff {l : List α} {k : Nat} :
    l.take k = l.rtake k ↔ l.length ≤ k ∨ Repeats l (l.length - k) := by
  constructor
  · intro heq
    refine Or.inr fun i hi => ?_
    have hget := congrArg (fun t => t[i]?) heq
    rw [List.rtake] at hget
    rwa [List.getElem?_take_of_lt (by omega), List.getElem?_drop, Nat.add_comm] at hget
  · rintro (hle | hrep)
    · rw [List.rtake, List.take_of_length_le hle, Nat.sub_eq_zero_of_le hle, List.drop_zero]
    · rw [List.rtake]
      refine List.ext_getElem? fun i => ?_
      rw [List.getElem?_drop, Nat.add_comm]
      by_cases hi : i + (l.length - k) < l.length
      · rw [← hrep i hi, List.getElem?_take_of_lt (by omega)]
      · rw [List.getElem?_eq_none (Nat.not_lt.mp hi), List.getElem?_eq_none]
        rw [List.length_take]
        omega

end RingLog
