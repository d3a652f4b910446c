import Mathlib.Algebra.Order.Ring.Int
import Mathlib.Data.Fin.Basic
import Mathlib.Data.List.Chain
import Mathlib.Tactic.Common

/-!
# Going round a cycle

A cycle of `n` values and the walks along it from its first value. `Follows` is the
relation of each value to the next one round; `isChain_turn_append_iff` says when
two walks make up one: when the first ends where the second starts over.
-/

universe u

namespace CyclicRun

variable {n : Nat} [NeZero n] {α : Type u} (seq : Fin n → α)

/-- The first `k` values round the cycle. -/
def turn (k : Nat) : List α := (List.range k).map fun i => seq (Fin.ofNat n i)

/-- `b` is next to `a` round the cycle. -/
def Follows (a b : α) : Prop := ∃ i, seq i = a ∧ seq (i + 1) = b

instance decidableFollows [DecidableEq α] (a b : α) : Decidable (Follows seq a b) :=
  inferInstanceAs (Decidable (∃ i, seq i = a ∧ seq (i + 1) = b))

@[simp] theorem turn_zero : turn seq 0 = [] := rfl

@[simp] theorem length_turn (k : Nat) : (turn seq k).length = k := by
  rw [turn, List.length_map, List.length_range]

theorem turn_succ (k : Nat) : turn seq (k + 1) = turn seq k ++ [seq (Fin.ofNat n k)] := by
  rw [turn, List.range_succ, List.map_append, List.map_singleton, turn]

theorem ofNat_succ (k : Nat) : Fin.ofNat n (k + 1) = Fin.ofNat n k + 1 := by
  refine Fin.ext ?_
  rw [Fin.val_add, Fin.val_ofNat, Fin.val_ofNat, Fin.val_one', Nat.add_mod]

theorem head?_turn {k : Nat} (hk : 0 < k) : (turn seq k).head? = some (seq 0) := by
  obtain ⟨j, rfl⟩ : ∃ j, k = j + 1 := ⟨k - 1, by omega⟩
  rw [turn, List.range_succ_eq_map]
  rfl

theorem getLast?_turn (k : Nat) :
    (turn seq (k + 1)).getLast? = some (seq (Fin.ofNat n k)) := by
  rw [turn_succ, List.getLast?_concat]

theorem isChain_turn (k : Nat) : List.IsChain (Follows seq) (turn seq k) := by
  induction k with
  | zero => exact List.isChain_nil
  | succ k ih =>
      rw [turn_succ, List.isChain_append]
      refine ⟨ih, List.isChain_singleton _, fun a ha b hb => ?_⟩
      cases k with
      | zero => cases ha
      | succ k =>
          rw [getLast?_turn] at ha
          obtain rfl := Option.mem_some.mp ha
          obtain rfl := Option.mem_some.mp hb
          exact ⟨Fin.ofNat n k, rfl, by rw [ofNat_succ]⟩

/-- From a whole number of rounds the walk goes on as from the start. -/
theorem turn_append_turn {a : Nat} (ha : n ∣ a) (b : Nat) :
    turn seq a ++ turn seq b = turn seq (a + b) := by
  rw [turn, turn, turn, List.range_add, List.map_append, List.map_map]
  congr 1
  refine List.map_congr_left fun i _ => congrArg seq (Fin.ext ?_)
  obtain ⟨m, rfl⟩ := ha
  show i % n = (n * m + i) % n
  rw [Nat.mul_add_mod]

/-- Two walks from the start make up one exactly when the second is empty or the
first is a whole number of rounds. -/
theorem isChain_turn_append_iff (hseq : Function.Injective seq) (a b : Nat) :
    List.IsChain (Follows seq) (turn seq a ++ turn seq b) ↔ b = 0 ∨ n ∣ a := by
  constructor
  · intro hchain
    rcases Nat.eq_zero_or_pos b with hb | hb
    · exact Or.inl hb
    · right
      cases a with
      | zero => exact Nat.dvd_zero n
      | succ k =>
          obtain ⟨i, hi, hnext⟩ := (List.isChain_append.mp hchain).2.2 _ (getLast?_turn seq k) _
            (head?_turn seq hb)
          obtain rfl := hseq hi
          have hzero := congrArg Fin.val (hseq hnext)
          rw [← ofNat_succ, Fin.val_ofNat, Fin.val_zero] at hzero
          exact Nat.dvd_of_mod_eq_zero hzero
  · rintro (rfl | ha)
    · rw [turn_zero, List.append_nil]
      exact isChain_turn seq a
    · rw [turn_append_turn seq ha]
      exact isChain_turn seq _

end CyclicRun
