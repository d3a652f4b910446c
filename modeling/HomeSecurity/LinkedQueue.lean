import Mathlib.Data.List.AList

/-!
# Singly linked queues

A queue of cells in a heap: a pointer to the first cell, one to the last, and in
each cell the pointer to the next. Following a pointer to no cell gives no
result, so that an operation with a result has met no dangling pointer.

`Queue.Holds` relates such a queue to the list of its cells. Every operation that
`Holds` allows succeeds and does to the list what its name says: `enqueue` appends
a cell, `dequeue` takes the first one off, `drain` frees all.
-/

namespace LinkedQueue

universe u

variable {α : Type u}

structure Cell (α : Type u) where
  val : α
  next : Option Nat

abbrev Heap (α : Type u) := AList fun _ : Nat => Cell α

structure Queue (α : Type u) where
  heap : Heap α
  head : Option Nat
  tail : Option Nat

/-- `p->next = n`. -/
def Heap.setNext (h : Heap α) (p n : Nat) : Option (Heap α) :=
  (h.lookup p).map fun c => h.insert p { c with next := some n }

namespace Queue

def empty : Queue α := ⟨∅, none, none⟩

/-- The value in the first cell. -/
def front (q : Queue α) : Option α :=
  q.head.bind fun n => (q.heap.lookup n).map Cell.val

/-- Link a new cell at the address `n` behind the last one. -/
def enqueue (q : Queue α) (n : Nat) (v : α) : Option (Queue α) :=
  let heap : Heap α := q.heap.insert n ⟨v, none⟩
  match q.tail with
  | none => some ⟨heap, some n, some n⟩
  | some t => (heap.setNext t n).map fun heap => ⟨heap, q.head, some n⟩

/-- Unlink and free the first cell; the tail goes with the last one. -/
def dequeue (q : Queue α) : Option (α × Queue α) :=
  q.head.bind fun n => (q.heap.lookup n).map fun c =>
    (c.val, ⟨q.heap.erase n, c.next, if c.next = none then none else q.tail⟩)

end Queue

/-- Free the cells from `p` on; no more than `k` of them are there. -/
def Heap.freeFrom : Nat → Heap α → Option Nat → Option (Heap α)
  | _, h, none => some h
  | 0, _, some _ => none
  | k + 1, h, some n => (h.lookup n).bind fun c => freeFrom k (h.erase n) c.next

def Queue.drain (q : Queue α) : Option (Queue α) :=
  (q.heap.freeFrom q.heap.keys.length q.head).map fun heap => ⟨heap, none, none⟩

/-! ## Chains of cells -/

/-- From `p` on, `h` links the cells with these addresses and values. -/
def Chain (h : Heap α) : Option Nat → List (Nat × α) → Prop
  | p, [] => p = none
  | p, (n, v) :: rest => p = some n ∧ ∃ next, h.lookup n = some ⟨v, next⟩ ∧ Chain h next rest

section

variable {h h' : Heap α} {p : Option Nat} {cells : List (Nat × α)}

/-- A chain is not touched by a change elsewhere in the heap. -/
theorem Chain.frame (hc : Chain h p cells)
    (heq : ∀ n ∈ cells.map Prod.fst, h'.lookup n = h.lookup n) : Chain h' p cells := by
  induction cells generalizing p with
  | nil => exact hc
  | cons c rest ih =>
      obtain ⟨hp, next, hn, hrest⟩ := hc
      refine ⟨hp, next, ?_, ih hrest fun n hmem => heq n (List.mem_cons_of_mem _ hmem)⟩
      rw [heq c.1 (List.mem_cons_self ..), hn]

/-- A new cell behind the last one. -/
theorem Chain.snoc {t n : Nat} {w v : α} (hc : Chain h p (cells ++ [(t, w)]))
    (hfresh : ∀ c ∈ cells, h'.lookup c.1 = h.lookup c.1)
    (ht : h'.lookup t = some ⟨w, some n⟩) (hn : h'.lookup n = some ⟨v, none⟩) :
    Chain h' p (cells ++ [(t, w)] ++ [(n, v)]) := by
  induction cells generalizing p with
  | nil => exact ⟨hc.1, some n, ht, rfl, none, hn, rfl⟩
  | cons c rest ih =>
      obtain ⟨hp, next, hlook, hrest⟩ := hc
      refine ⟨hp, next, ?_, ih hrest fun d hd => hfresh d (List.mem_cons_of_mem _ hd)⟩
      rw [hfresh c (List.mem_cons_self ..), hlook]

theorem Chain.lookup (hc : Chain h p cells) {c : Nat × α} (hmem : c ∈ cells) :
    ∃ next, h.lookup c.1 = some ⟨c.2, next⟩ := by
  induction cells generalizing p with
  | nil => exact absurd hmem List.not_mem_nil
  | cons d rest ih =>
      obtain ⟨-, next, hlook, hrest⟩ := hc
      rcases List.mem_cons.mp hmem with rfl | hmem
      · exact ⟨next, hlook⟩
      · exact ih hrest hmem

/-- Freeing from the first cell on frees every cell. -/
theorem Chain.freeFrom {k : Nat} (hc : Chain h p cells)
    (hkeys : h.keys.Perm (cells.map Prod.fst)) (hk : cells.length ≤ k) :
    h.freeFrom k p = some ∅ := by
  induction cells generalizing h p k with
  | nil =>
      have hnil : h.entries = [] := List.map_eq_nil_iff.mp hkeys.eq_nil
      obtain rfl : p = none := hc
      rw [Heap.freeFrom]
      exact congrArg some (AList.ext hnil)
  | cons c rest ih =>
      obtain ⟨rfl, next, hlook, hrest⟩ := hc
      obtain ⟨k, rfl⟩ : ∃ k', k = k' + 1 := ⟨k - 1, by rw [List.length_cons] at hk; omega⟩
      have hnodup : (c.1 :: rest.map Prod.fst).Nodup := hkeys.nodup_iff.mp h.keys_nodup
      have hother : ∀ n ∈ rest.map Prod.fst, (h.erase c.1).lookup n = h.lookup n := by
        intro n hn
        exact AList.lookup_erase_ne fun heq => (List.nodup_cons.mp hnodup).1 (heq ▸ hn)
      have hkeys' : (h.erase c.1).keys.Perm (rest.map Prod.fst) := by
        rw [AList.keys_erase]
        exact (hkeys.erase c.1).trans (by rw [List.map_cons, List.erase_cons_head])
      rw [Heap.freeFrom, hlook, Option.bind_some]
      exact ih (hrest.frame hother) hkeys' (Nat.le_of_succ_le_succ hk)

end

/-! ## Queues -/

/-- The queue links these cells, and nothing else is in its heap. -/
structure Queue.Holds (q : Queue α) (cells : List (Nat × α)) : Prop where
  chain : Chain q.heap q.head cells
  tail : q.tail = cells.getLast?.map Prod.fst
  keys : q.heap.keys.Perm (cells.map Prod.fst)

namespace Queue

variable {q : Queue α} {cells rest : List (Nat × α)} {n : Nat} {v : α}

theorem holds_empty : (empty : Queue α).Holds [] := ⟨rfl, rfl, .nil⟩

theorem Holds.length_keys (h : q.Holds cells) : q.heap.keys.length = cells.length := by
  rw [h.keys.length_eq, List.length_map]

theorem Holds.head_nil (h : q.Holds []) : q.head = none := h.chain

theorem Holds.head_cons (h : q.Holds ((n, v) :: rest)) : q.head = some n := h.chain.1

theorem Holds.front (h : q.Holds cells) : q.front = (cells.map Prod.snd).head? := by
  cases cells with
  | nil => rw [Queue.front, h.head_nil]; rfl
  | cons c rest =>
      obtain ⟨hhead, next, hlook, -⟩ := h.chain
      rw [Queue.front, hhead, Option.bind_some, hlook]
      rfl

/-- Every value of the list is in some cell of the heap. -/
theorem Holds.entry (h : q.Holds cells) {c : Nat × α} (hmem : c ∈ cells) :
    ∃ e ∈ q.heap.entries, e.2.val = c.2 := by
  obtain ⟨next, hlook⟩ := h.chain.lookup hmem
  exact ⟨⟨c.1, ⟨c.2, next⟩⟩, AList.mem_lookup_iff.mp hlook, rfl⟩

theorem Holds.enqueue (h : q.Holds cells) (hn : n ∉ q.heap) :
    ∃ q', q.enqueue n v = some q' ∧ q'.Holds (cells ++ [(n, v)]) := by
  have hfresh : n ∉ cells.map Prod.fst := fun hmem => hn (h.keys.mem_iff.mpr hmem)
  have hkeys : (q.heap.insert n ⟨v, none⟩).keys.Perm ((cells ++ [(n, v)]).map Prod.fst) := by
    rw [AList.keys_insert, List.erase_of_not_mem hn, List.map_append]
    exact (h.keys.cons n).trans (List.perm_append_singleton n _).symm
  rcases List.eq_nil_or_concat' cells with rfl | ⟨front, ⟨t, w⟩, rfl⟩
  · refine ⟨⟨q.heap.insert n ⟨v, none⟩, some n, some n⟩, ?_, ⟨?_, rfl, hkeys⟩⟩
    · rw [Queue.enqueue, h.tail]
      rfl
    · exact ⟨rfl, none, AList.lookup_insert _, rfl⟩
  · have htail : q.tail = some t := by
      rw [h.tail, List.getLast?_concat]
      rfl
    have hnodup := h.keys.nodup_iff.mp q.heap.keys_nodup
    rw [List.map_append, List.map_singleton] at hfresh hnodup
    have htn : t ≠ n := by
      rintro rfl
      exact hfresh (List.mem_append_right _ (List.mem_singleton_self t))
    obtain ⟨next, hlook⟩ := h.chain.lookup (List.mem_append_right _ (List.mem_singleton_self _))
    have hlook' : (q.heap.insert n ⟨v, none⟩).lookup t = some ⟨w, next⟩ :=
      (AList.lookup_insert_ne htn).trans hlook
    refine ⟨⟨(q.heap.insert n ⟨v, none⟩).insert t ⟨w, some n⟩, q.head, some n⟩, ?_, ?_, ?_, ?_⟩
    · rw [Queue.enqueue, htail]
      dsimp only
      rw [Heap.setNext, hlook']
      rfl
    · refine h.chain.snoc (fun c hc => ?_) (AList.lookup_insert _) ?_
      · have hmem := List.mem_map_of_mem (f := Prod.fst) hc
        have hct : c.1 ≠ t := fun heq => List.disjoint_of_nodup_append hnodup hmem
          (List.mem_singleton.mpr heq)
        have hcn : c.1 ≠ n := fun heq => hfresh (List.mem_append_left _ (heq ▸ hmem))
        rw [AList.lookup_insert_ne hct, AList.lookup_insert_ne hcn]
      · rw [AList.lookup_insert_ne htn.symm, AList.lookup_insert]
    · rw [List.getLast?_concat]
      rfl
    · rw [AList.keys_insert]
      refine (List.perm_cons_erase ?_).symm.trans hkeys
      exact AList.mem_keys.mp ((AList.mem_insert _).mpr
        (.inr (AList.lookup_isSome.mp (by rw [hlook]; rfl))))

theorem Holds.dequeue (h : q.Holds ((n, v) :: rest)) :
    ∃ q', q.dequeue = some (v, q') ∧ q'.Holds rest := by
  obtain ⟨hhead, next, hlook, hrest⟩ := h.chain
  have hnodup := List.nodup_cons.mp (h.keys.nodup_iff.mp q.heap.keys_nodup)
  refine ⟨⟨q.heap.erase n, next, if next = none then none else q.tail⟩, ?_, ?_, ?_, ?_⟩
  · rw [Queue.dequeue, hhead, Option.bind_some, hlook]
    rfl
  · exact hrest.frame fun a ha => AList.lookup_erase_ne fun heq => hnodup.1 (heq ▸ ha)
  · cases rest with
    | nil => exact if_pos hrest
    | cons c rest =>
        have hnext : next ≠ none := by
          rw [hrest.1]
          exact Option.some_ne_none _
        dsimp only
        rw [if_neg hnext, h.tail, List.getLast?_cons_cons]
  · rw [AList.keys_erase]
    exact (h.keys.erase n).trans (by rw [List.map_cons, List.erase_cons_head])

theorem Holds.drain (h : q.Holds cells) : q.drain = some empty := by
  have hlen : cells.length ≤ q.heap.keys.length := Nat.le_of_eq h.length_keys.symm
  rw [Queue.drain, h.chain.freeFrom h.keys hlen, Option.map_some, empty]

end Queue

end LinkedQueue
