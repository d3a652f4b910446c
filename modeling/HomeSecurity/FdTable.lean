import Mathlib.Algebra.Order.Ring.Int
import Mathlib.Order.Nat
import Mathlib.Tactic.Common

/-!
# A table of descriptors

What the open descriptors of a process refer to. A new descriptor is the lowest one
that is not open, as POSIX has it. Only finitely many are open at a time; a table
carries a bound for them.
-/

universe u

structure FdTable (ρ : Type u) where
  refers : Nat → Option ρ
  bound : Nat
  beyond : ∀ fd, bound ≤ fd → refers fd = none

namespace FdTable

variable {ρ : Type u} (t : FdTable ρ)

/-- Descriptors `0`, `1`, ... open on the given resources. -/
def ofList (rs : List ρ) : FdTable ρ :=
  ⟨fun fd => rs[fd]?, rs.length, fun _ => List.getElem?_eq_none⟩

theorem exists_free : ∃ fd, (t.refers fd).isNone = true :=
  ⟨t.bound, by rw [t.beyond _ (Nat.le_refl _), Option.isNone_none]⟩

/-- The lowest descriptor that is not open. -/
def lowest : Nat := Nat.find t.exists_free

/-- `open` and its like: the lowest descriptor is given to `r`. -/
def install (r : ρ) : FdTable ρ where
  refers fd := if fd = t.lowest then some r else t.refers fd
  bound := max t.bound (t.lowest + 1)
  beyond fd h := by
    rw [if_neg (by omega)]
    exact t.beyond fd (by omega)

def close (fd : Nat) : FdTable ρ where
  refers i := if i = fd then none else t.refers i
  bound := t.bound
  beyond i h := by
    split
    · rfl
    · exact t.beyond i h

/-- `if (fd >= 0) close(fd);`. -/
def closeInt (fd : Int) : FdTable ρ := if fd ≥ 0 then t.close fd.toNat else t

theorem closeInt_of_neg {fd : Int} (h : fd < 0) : t.closeInt fd = t := if_neg (by omega)

@[simp] theorem closeInt_natCast (n : Nat) : t.closeInt n = t.close n :=
  if_pos (Int.natCast_nonneg n)

theorem refers_lowest : t.refers t.lowest = none :=
  Option.isNone_iff_eq_none.mp (Nat.find_spec t.exists_free)

theorem ne_lowest {fd : Nat} {r : ρ} (h : t.refers fd = some r) : fd ≠ t.lowest := by
  rintro rfl
  rw [t.refers_lowest] at h
  cases h

theorem lowest_le {fd : Nat} (h : t.refers fd = none) : t.lowest ≤ fd :=
  Nat.find_min' t.exists_free (Option.isNone_iff_eq_none.mpr h)

@[simp] theorem refers_install_self (r : ρ) : (t.install r).refers t.lowest = some r := if_pos rfl

theorem refers_install_of_ne (r : ρ) {fd : Nat} (h : fd ≠ t.lowest) :
    (t.install r).refers fd = t.refers fd := if_neg h

/-- What is open stays open, on the same resource. -/
theorem refers_install_of_some {fd : Nat} {r : ρ} (h : t.refers fd = some r) (r' : ρ) :
    (t.install r').refers fd = some r := by
  rw [t.refers_install_of_ne r' (t.ne_lowest h), h]

@[simp] theorem refers_close_self (fd : Nat) : (t.close fd).refers fd = none := if_pos rfl

theorem refers_close_of_ne {i fd : Nat} (h : i ≠ fd) : (t.close fd).refers i = t.refers i :=
  if_neg h

/-- The next descriptor is a larger one. -/
theorem lowest_lt_lowest_install (r : ρ) : t.lowest < (t.install r).lowest := by
  have hfree := (t.install r).refers_lowest
  have hne : (t.install r).lowest ≠ t.lowest := by
    intro heq
    rw [heq, t.refers_install_self] at hfree
    cases hfree
  rw [t.refers_install_of_ne r hne] at hfree
  exact Nat.lt_of_le_of_ne (t.lowest_le hfree) hne.symm

/-- Opened and closed again. -/
theorem refers_install_close (r : ρ) (fd : Nat) :
    ((t.install r).close t.lowest).refers fd = t.refers fd := by
  by_cases h : fd = t.lowest
  · rw [h, refers_close_self, t.refers_lowest]
  · rw [refers_close_of_ne _ h, t.refers_install_of_ne r h]

/-- What was opened last is closed, whatever was opened and closed in between. -/
theorem refers_close_lowest {t t' : FdTable ρ} {r : ρ}
    (h : ∀ n, t'.refers n = (t.install r).refers n) (fd : Nat) :
    (t'.close t.lowest).refers fd = t.refers fd := by
  rw [← t.refers_install_close r fd]
  by_cases hfd : fd = t.lowest
  · rw [hfd, refers_close_self, refers_close_self]
  · rw [refers_close_of_ne _ hfd, refers_close_of_ne _ hfd, h]

/-! ## Descriptors as the program holds them -/

/-- A C `int` that is an open descriptor. -/
def IsOpen (fd : Int) : Prop := ∃ n : Nat, fd = n ∧ (t.refers n).isSome = true

theorem isOpen_lowest_install (r : ρ) : (t.install r).IsOpen t.lowest :=
  ⟨t.lowest, rfl, by rw [refers_install_self, Option.isSome_some]⟩

theorem not_isOpen_lowest : ¬t.IsOpen t.lowest := by
  rintro ⟨n, hn, hopen⟩
  rw [← Int.ofNat_inj.mp hn, t.refers_lowest] at hopen
  cases hopen

theorem isOpen_install (r : ρ) (fd : Int) :
    (t.install r).IsOpen fd ↔ fd = t.lowest ∨ t.IsOpen fd := by
  constructor
  · rintro ⟨n, rfl, hopen⟩
    by_cases hn : n = t.lowest
    · exact Or.inl (congrArg Nat.cast hn)
    · rw [t.refers_install_of_ne r hn] at hopen
      exact Or.inr ⟨n, rfl, hopen⟩
  · rintro (rfl | ⟨n, rfl, hopen⟩)
    · exact t.isOpen_lowest_install r
    · obtain ⟨r', hr'⟩ := Option.isSome_iff_exists.mp hopen
      exact ⟨n, rfl, by rw [t.refers_install_of_some hr' r, Option.isSome_some]⟩

theorem isOpen_close (n : Nat) (fd : Int) : (t.close n).IsOpen fd ↔ fd ≠ n ∧ t.IsOpen fd := by
  constructor
  · rintro ⟨m, rfl, hopen⟩
    by_cases hm : m = n
    · rw [hm, refers_close_self] at hopen
      cases hopen
    · rw [t.refers_close_of_ne hm] at hopen
      exact ⟨fun h => hm (Int.ofNat_inj.mp h), m, rfl, hopen⟩
  · rintro ⟨hne, m, rfl, hopen⟩
    refine ⟨m, rfl, ?_⟩
    rwa [t.refers_close_of_ne fun h => hne (congrArg Nat.cast h)]

/-! ## The holder of a resource -/

/-- `fd` is the one descriptor that refers to `r`; a negative `fd` stands for none. -/
def Holds (r : ρ) (fd : Int) : Prop := ∀ n : Nat, t.refers n = some r ↔ fd = n

variable {t}

theorem Holds.refers {r : ρ} {fd : Int} (h : t.Holds r fd) (hfd : 0 ≤ fd) :
    t.refers fd.toNat = some r :=
  (h fd.toNat).mpr (Int.toNat_of_nonneg hfd).symm

/-- Two negative values both stand for none. -/
theorem Holds.congr {t' : FdTable ρ} {r : ρ} {fd fd' : Int} (h : t.Holds r fd)
    (ht : ∀ n, t'.refers n = t.refers n) (hfd : fd' = fd ∨ fd < 0 ∧ fd' < 0) : t'.Holds r fd' := by
  intro n
  rw [ht, h n]
  omega

theorem Holds.install {r : ρ} {fd : Int} (h : t.Holds r fd) (hfd : fd < 0) :
    (t.install r).Holds r t.lowest := by
  intro n
  by_cases hn : n = t.lowest
  · subst hn
    simp
  · rw [t.refers_install_of_ne r hn, h n]
    omega

theorem Holds.close {r : ρ} {fd : Int} (h : t.Holds r fd) {n : Nat} (hn : fd = n) :
    (t.close n).Holds r (-1) := by
  intro m
  by_cases hm : m = n
  · subst hm
    simp
  · rw [t.refers_close_of_ne hm, h m]
    omega

/-! ## What a step leaves alone -/

/-- The two tables have the same descriptors for the resources that meet `P`. -/
def AgreeOn (P : ρ → Prop) (t t' : FdTable ρ) : Prop :=
  ∀ n r, P r → (t'.refers n = some r ↔ t.refers n = some r)

variable {P : ρ → Prop} {t' t'' : FdTable ρ}

theorem AgreeOn.refl (t : FdTable ρ) : AgreeOn P t t := fun _ _ _ => Iff.rfl

theorem AgreeOn.trans (h : AgreeOn P t t') (h' : AgreeOn P t' t'') : AgreeOn P t t'' :=
  fun n r hr => (h' n r hr).trans (h n r hr)

theorem AgreeOn.of_refers (h : ∀ n, t'.refers n = t.refers n) : AgreeOn P t t' :=
  fun n r _ => by rw [h n]

theorem AgreeOn.install {r : ρ} (hr : ¬P r) : AgreeOn P t (t.install r) := by
  intro n r' hr'
  by_cases hn : n = t.lowest
  · subst hn
    rw [refers_install_self, t.refers_lowest]
    exact iff_of_false (fun h => hr (Option.some.inj h ▸ hr')) nofun
  · rw [t.refers_install_of_ne r hn]

theorem AgreeOn.close {n : Nat} (hn : ∀ r, t.refers n = some r → ¬P r) :
    AgreeOn P t (t.close n) := by
  intro m r hr
  by_cases hm : m = n
  · subst hm
    rw [refers_close_self]
    exact iff_of_false nofun fun h => hn r h hr
  · rw [t.refers_close_of_ne hm]

theorem Holds.of_agree {r : ρ} {fd : Int} (h : t.Holds r fd) (ht : AgreeOn P t t') (hr : P r) :
    t'.Holds r fd := fun n => (ht n r hr).trans (h n)

/-- A holder closes what it holds. -/
theorem Holds.closeInt {r : ρ} {fd : Int} (h : t.Holds r fd) : (t.closeInt fd).Holds r (-1) := by
  by_cases hfd : fd < 0
  · rw [t.closeInt_of_neg hfd]
    exact h.congr (fun _ => rfl) (Or.inr ⟨hfd, by omega⟩)
  · obtain ⟨n, rfl⟩ := Int.eq_ofNat_of_zero_le (Int.not_lt.mp hfd)
    rw [closeInt_natCast]
    exact h.close rfl

theorem Holds.agree_closeInt {r : ρ} {fd : Int} (h : t.Holds r fd) (hr : ¬P r) :
    AgreeOn P t (t.closeInt fd) := by
  by_cases hfd : fd < 0
  · rw [t.closeInt_of_neg hfd]
    exact .refl t
  · obtain ⟨n, rfl⟩ := Int.eq_ofNat_of_zero_le (Int.not_lt.mp hfd)
    rw [closeInt_natCast]
    refine .close fun r' hr' => ?_
    rw [(h n).mpr rfl] at hr'
    exact Option.some.inj hr' ▸ hr

end FdTable
