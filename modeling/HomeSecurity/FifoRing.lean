import Mathlib.Algebra.Order.Ring.Int
import Mathlib.Data.Fin.Basic
import Mathlib.Logic.Relation
import Mathlib.Tactic.Common

/-!
# A queue in a ring that drops its oldest

A ring of `n` slots between two indices: written at `tail`, read at `head`, empty
when they meet. One slot stays free, so that full and empty differ; a writer that
finds the ring full moves `head` on and writes again (`put`).

`toList` is what lies between the indices. `put` and `pop?` act on it as on a list
(`toList_put`, `toList_pop?`) wherever the indices stand.

`DropQueue` is the list with its past: every element that is gone, with what
became of it. What was taken was taken in the order of coming, and once
(`ofFate_sublist`).
-/

universe u

structure FifoRing (n : Nat) (α : Type u) where
  slots : Fin n → α
  /-- Read next. -/
  head : Fin n
  /-- Written next. -/
  tail : Fin n

namespace FifoRing

variable {n : Nat} {α : Type u}

def next (i : Fin n) : Fin n := ⟨(i.val + 1) % n, Nat.mod_lt _ i.pos⟩

/-- `none` when the ring is full. -/
def push? (r : FifoRing n α) (x : α) : Option (FifoRing n α) :=
  if next r.tail = r.head then none
  else some { r with slots := Function.update r.slots r.tail x, tail := next r.tail }

/-- `none` when the ring is empty. -/
def pop? (r : FifoRing n α) : Option (α × FifoRing n α) :=
  if r.head = r.tail then none else some (r.slots r.head, { r with head := next r.head })

def dropHead (r : FifoRing n α) : FifoRing n α := { r with head := next r.head }

/-- Push; if the ring is full, drop the oldest and push again. -/
def put (r : FifoRing n α) (x : α) : FifoRing n α :=
  match r.push? x with
  | some r' => r'
  | none => (r.dropHead.push? x).getD r.dropHead

def count (r : FifoRing n α) : Nat := (r.tail.val + n - r.head.val) % n

/-- The slot `i` places after the oldest element. -/
def slotAt (r : FifoRing n α) (i : Nat) : Fin n :=
  ⟨(r.head.val + i) % n, Nat.mod_lt _ r.head.pos⟩

/-- The elements, oldest first. -/
def toList (r : FifoRing n α) : List α := (List.range r.count).map fun i => r.slots (r.slotAt i)

@[simp] theorem length_toList (r : FifoRing n α) : r.toList.length = r.count := by
  rw [toList, List.length_map, List.length_range]

/-! ## Indices -/

theorem next_val (i : Fin n) :
    (next i).val = if i.val + 1 = n then 0 else i.val + 1 := by
  have hlt := i.isLt
  unfold next
  split
  · rename_i heq
    exact (congrArg (· % n) heq).trans (Nat.mod_self n)
  · exact Nat.mod_eq_of_lt (by omega)

theorem count_eq (r : FifoRing n α) :
    r.count = if r.head.val ≤ r.tail.val then r.tail.val - r.head.val
      else r.tail.val + n - r.head.val := by
  have hh := r.head.isLt
  have ht := r.tail.isLt
  unfold count
  split
  · rw [show r.tail.val + n - r.head.val = n + (r.tail.val - r.head.val) by omega,
      Nat.add_mod_left, Nat.mod_eq_of_lt (by omega)]
  · exact Nat.mod_eq_of_lt (by omega)

theorem slotAt_val {r : FifoRing n α} {i : Nat} (hi : i ≤ n) :
    (r.slotAt i).val = if r.head.val + i < n then r.head.val + i else r.head.val + i - n := by
  have hh := r.head.isLt
  unfold slotAt
  split
  · exact Nat.mod_eq_of_lt (by omega)
  · rename_i hge
    exact (Nat.mod_eq_sub_mod (by omega)).trans (Nat.mod_eq_of_lt (by omega))

theorem count_lt (r : FifoRing n α) : r.count < n := Nat.mod_lt _ r.head.pos

@[simp] theorem slotAt_zero (r : FifoRing n α) : r.slotAt 0 = r.head :=
  Fin.ext (Nat.mod_eq_of_lt r.head.isLt)

theorem slotAt_count (r : FifoRing n α) : r.slotAt r.count = r.tail := by
  have hh := r.head.isLt
  have ht := r.tail.isLt
  refine Fin.ext ?_
  rw [slotAt_val r.count_lt.le, count_eq]
  split <;> split <;> omega

/-- The places of the elements are not the place written next. -/
theorem slotAt_ne_tail {r : FifoRing n α} {i : Nat} (hi : i < r.count) : r.slotAt i ≠ r.tail := by
  intro heq
  have hval := congrArg Fin.val heq
  have hlt := r.count_lt
  have hh := r.head.isLt
  have ht := r.tail.isLt
  rw [slotAt_val (by omega)] at hval
  rw [count_eq] at hi
  split at hval <;> split at hi <;> omega

theorem count_eq_zero_iff (r : FifoRing n α) : r.count = 0 ↔ r.head = r.tail := by
  have hh := r.head.isLt
  have ht := r.tail.isLt
  rw [count_eq, Fin.ext_iff]
  split <;> omega

/-- The ring is full when all slots but one are taken. -/
theorem next_tail_eq_head_iff (r : FifoRing n α) : next r.tail = r.head ↔ r.count + 1 = n := by
  have hh := r.head.isLt
  have ht := r.tail.isLt
  rw [count_eq, Fin.ext_iff, next_val]
  split <;> split <;> omega

/-! ## Operations on the list -/

theorem toList_eq_nil_iff (r : FifoRing n α) : r.toList = [] ↔ r.head = r.tail := by
  rw [← List.length_eq_zero_iff, length_toList, count_eq_zero_iff]

theorem toList_push? {r r' : FifoRing n α} {x : α} (h : r.push? x = some r') :
    r'.toList = r.toList ++ [x] := by
  unfold push? at h
  split at h
  · cases h
  · rename_i hroom
    obtain rfl := Option.some.inj h
    have hcount : count { r with
        slots := Function.update r.slots r.tail x, tail := next r.tail } = r.count + 1 := by
      have hh := r.head.isLt
      have ht := r.tail.isLt
      rw [Fin.ext_iff, next_val] at hroom
      rw [count_eq, count_eq]
      simp only [next_val]
      split at hroom <;> rename_i hlast <;> simp only [hlast, if_true, if_false] <;>
        split <;> split <;> omega
    rw [toList, hcount, List.range_succ, List.map_append, List.map_singleton, toList]
    congr 1
    · refine List.map_congr_left fun i hi => ?_
      exact Function.update_of_ne (slotAt_ne_tail (List.mem_range.mp hi)) ..
    · show [Function.update r.slots r.tail x (r.slotAt r.count)] = [x]
      rw [slotAt_count, Function.update_self]

theorem push?_eq_none_iff (r : FifoRing n α) (x : α) :
    r.push? x = none ↔ r.toList.length + 1 = n := by
  rw [length_toList, ← next_tail_eq_head_iff, push?]
  split <;> simp_all

/-- Moving the head on takes the oldest element off. -/
theorem toList_eq_cons_dropHead {r : FifoRing n α} (hne : r.head ≠ r.tail) :
    r.toList = r.slots r.head :: r.dropHead.toList := by
  have hvals : r.head.val ≠ r.tail.val := fun h => hne (Fin.ext h)
  have hcount : r.count = r.dropHead.count + 1 := by
    have hh := r.head.isLt
    have ht := r.tail.isLt
    rw [count_eq, count_eq]
    simp only [dropHead, next_val]
    by_cases hlast : r.head.val + 1 = n
    · simp only [hlast, if_true, Nat.zero_le]
      split <;> omega
    · simp only [hlast, if_false]
      split <;> split <;> omega
  rw [toList, hcount, List.range_succ_eq_map, List.map_cons, List.map_map, slotAt_zero, toList]
  congr 1
  refine List.map_congr_left fun i hi => ?_
  show r.slots (r.slotAt (i + 1)) = r.slots (r.dropHead.slotAt i)
  congr 1
  refine Fin.ext ?_
  show (r.head.val + (i + 1)) % n = ((r.head.val + 1) % n + i) % n
  rw [Nat.mod_add_mod, Nat.add_assoc, Nat.add_comm 1 i]

theorem toList_pop? {r r' : FifoRing n α} {x : α} (h : r.pop? = some (x, r')) :
    r.toList = x :: r'.toList := by
  unfold pop? at h
  split at h
  · cases h
  · rename_i hne
    obtain ⟨rfl, rfl⟩ := Prod.mk.inj (Option.some.inj h)
    exact toList_eq_cons_dropHead hne

theorem pop?_eq_none_iff (r : FifoRing n α) : r.pop? = none ↔ r.toList = [] := by
  rw [toList_eq_nil_iff, pop?]
  split <;> simp_all

/-- A full ring with its oldest element dropped has room. -/
theorem push?_dropHead {r : FifoRing n α} (hn : 1 < n) (x : α) (hfull : r.push? x = none) :
    ∃ r', r.dropHead.push? x = some r' := by
  rw [push?_eq_none_iff] at hfull
  have hne : r.head ≠ r.tail := by
    intro heq
    rw [(toList_eq_nil_iff r).mpr heq, List.length_nil] at hfull
    omega
  refine Option.ne_none_iff_exists'.mp fun hnone => ?_
  rw [push?_eq_none_iff] at hnone
  rw [toList_eq_cons_dropHead hne, List.length_cons] at hfull
  omega

/-- What `put` does to the list: it appends, and drops the oldest only of a full ring. -/
theorem toList_put (r : FifoRing n α) (hn : 1 < n) (x : α) :
    (r.put x).toList
      = (if r.toList.length = n - 1 then r.toList.tail else r.toList) ++ [x] := by
  unfold put
  cases hpush : r.push? x with
  | some r' =>
      have hroom : r.toList.length ≠ n - 1 := by
        intro hlen
        have hnone := (push?_eq_none_iff r x).mpr (by omega)
        rw [hpush] at hnone
        cases hnone
      rw [if_neg hroom]
      exact toList_push? hpush
  | none =>
      have hlen := (push?_eq_none_iff r x).mp hpush
      obtain ⟨r', hagain⟩ := push?_dropHead hn x hpush
      have hne : r.head ≠ r.tail := by
        intro heq
        rw [(toList_eq_nil_iff r).mpr heq, List.length_nil] at hlen
        omega
      rw [if_pos (by omega)]
      show ((r.dropHead.push? x).getD r.dropHead).toList = _
      rw [hagain, Option.getD_some, toList_push? hagain, toList_eq_cons_dropHead hne,
        List.tail_cons]

end FifoRing

/-! ## The list with its past -/

/-- What became of an element that waits no more. -/
inductive Fate where
  | taken
  | dropped
deriving DecidableEq

structure DropQueue (α : Type u) where
  /-- Those that wait no more, oldest first. -/
  gone : List (α × Fate)
  waiting : List α

namespace DropQueue

variable {α : Type u}

def empty : DropQueue α := ⟨[], []⟩

/-- Everything that ever came, oldest first. -/
def log (q : DropQueue α) : List α := q.gone.map Prod.fst ++ q.waiting

/-- The elements of one fate, in the order they came. -/
def ofFate (q : DropQueue α) (f : Fate) : List α :=
  (q.gone.filter fun e => e.2 = f).map Prod.fst

/-- The oldest of those that wait meets its fate. -/
def retire (q : DropQueue α) (f : Fate) : DropQueue α :=
  match q.waiting with
  | [] => q
  | x :: xs => ⟨q.gone ++ [(x, f)], xs⟩

/-- `x` comes; if `cap` elements wait already, the oldest is dropped. -/
def put (cap : Nat) (q : DropQueue α) (x : α) : DropQueue α :=
  let q := if q.waiting.length = cap then q.retire .dropped else q
  { q with waiting := q.waiting ++ [x] }

inductive Step (cap : Nat) : DropQueue α → DropQueue α → Prop
  | put (q : DropQueue α) (x : α) : Step cap q (q.put cap x)
  | take (q : DropQueue α) : Step cap q (q.retire .taken)

theorem retire_waiting (q : DropQueue α) (f : Fate) :
    (q.retire f).waiting = q.waiting.tail := by
  unfold retire
  split <;> simp_all

theorem retire_log (q : DropQueue α) (f : Fate) : (q.retire f).log = q.log := by
  unfold retire
  split
  · rfl
  · rename_i x xs hw
    simp [log, hw]

theorem retire_gone (q : DropQueue α) (f : Fate) : q.gone <+: (q.retire f).gone := by
  unfold retire
  split
  · exact List.prefix_rfl
  · exact List.prefix_append ..

theorem retire_of_cons {q : DropQueue α} {x : α} {xs : List α} (hw : q.waiting = x :: xs)
    (f : Fate) : q.retire f = ⟨q.gone ++ [(x, f)], xs⟩ := by
  rw [retire, hw]

/-- A fate is met by the oldest that waits. -/
theorem retire_ofFate {q : DropQueue α} {x : α} {xs : List α} (hw : q.waiting = x :: xs)
    (f g : Fate) :
    (q.retire f).ofFate g = if f = g then q.ofFate g ++ [x] else q.ofFate g := by
  rw [retire_of_cons hw, ofFate, List.filter_append, List.map_append]
  by_cases hfg : f = g
  · rw [if_pos hfg, List.filter_cons_of_pos (by simpa using hfg)]
    rfl
  · rw [if_neg hfg, List.filter_cons_of_neg (by simpa using hfg)]
    exact List.append_nil _

theorem put_waiting (cap : Nat) (q : DropQueue α) (x : α) :
    (q.put cap x).waiting
      = (if q.waiting.length = cap then q.waiting.tail else q.waiting) ++ [x] := by
  unfold put
  split
  · simp only [retire_waiting]
  · rfl

theorem put_log (cap : Nat) (q : DropQueue α) (x : α) : (q.put cap x).log = q.log ++ [x] := by
  have happend : ∀ r : DropQueue α,
      log { r with waiting := r.waiting ++ [x] } = r.log ++ [x] := by
    intro r
    simp [log]
  unfold put
  split
  · rw [happend, retire_log]
  · rw [happend]

theorem put_gone (cap : Nat) (q : DropQueue α) (x : α) : q.gone <+: (q.put cap x).gone := by
  unfold put
  split
  · exact retire_gone ..
  · exact List.prefix_rfl

/-- Who comes takes nobody. -/
theorem put_taken (cap : Nat) (q : DropQueue α) (x : α) :
    (q.put cap x).ofFate .taken = q.ofFate .taken := by
  have hdrop : (q.retire .dropped).ofFate .taken = q.ofFate .taken := by
    cases hw : q.waiting with
    | nil => rw [retire, hw]
    | cons y ys => exact retire_ofFate hw ..
  unfold put
  split
  · exact hdrop
  · rfl

/-- What became of an element is settled once. -/
theorem Step.gone_prefix {cap : Nat} {q q' : DropQueue α} (h : Step cap q q') :
    q.gone <+: q'.gone := by
  cases h with
  | put x => exact put_gone ..
  | take => exact retire_gone ..

theorem gone_prefix_of_reach {cap : Nat} {q q' : DropQueue α}
    (h : Relation.ReflTransGen (Step cap) q q') : q.gone <+: q'.gone := by
  induction h with
  | refl => exact List.prefix_rfl
  | tail _ hstep ih => exact ih.trans hstep.gone_prefix

theorem gone_length_of_waiting {q : DropQueue α} (hw : q.waiting = []) :
    q.gone.length = q.log.length := by
  simp [log, hw]

/-- Each fate is met in the order of coming, by nobody twice. -/
theorem ofFate_sublist (q : DropQueue α) (f : Fate) : (q.ofFate f).Sublist q.log :=
  ((List.filter_sublist).map _).trans (List.sublist_append_left ..)

end DropQueue
