import Mathlib.Algebra.Order.Ring.Int
import Mathlib.Data.List.Induction
import Mathlib.Logic.Function.Basic
import Mathlib.Tactic.Common

/-!
# Runs of a partial step function

A system is a step function `step : σ → ι → Option σ`: the inputs (what the
environment decides: a datagram, a clock value, which party moves) are labels,
and `none` is a step the system does not allow. Interleavings are input lists.

`Along step P s is` says that every step the run from `s` takes meets `P` in
the state before it; it is how a condition on steps and a property of steps are
stated over whole runs. `inv_run` is the invariant rule, `clean_iff_along` says which
runs keep a history free of entries, and `simulates_run` lifts a step-by-step
simulation to runs. `Happened` is what is known of the steps before a state, and
`inv_run_history` the invariant rule that may use it.
-/

namespace Lts

universe u v w x

variable {σ : Type u} {ι : Type v} (step : σ → ι → Option σ)

def run : σ → List ι → Option σ
  | s, [] => some s
  | s, i :: is => (step s i).bind fun s' => run s' is

/-- Every step of the run from `s` meets `P` in the state before it. -/
def Along (P : σ → ι → Prop) : σ → List ι → Prop
  | _, [] => True
  | s, i :: is => P s i ∧ ∀ s', step s i = some s' → Along P s' is

variable {step}

/-- A condition on steps that can be decided can be decided along a run. -/
def Along.decide (step : σ → ι → Option σ) {P : σ → ι → Prop} [∀ s i, Decidable (P s i)] :
    (s : σ) → (is : List ι) → Decidable (Along step P s is)
  | _, [] => isTrue trivial
  | s, i :: is =>
      match hs : step s i with
      | none =>
          decidable_of_iff (P s i)
            ⟨fun h => ⟨h, fun _ h' => by rw [hs] at h'; cases h'⟩, fun h => h.1⟩
      | some s' =>
          have := Along.decide step (P := P) s' is
          decidable_of_iff (P s i ∧ Along step P s' is)
            ⟨fun h => ⟨h.1, fun _ h' => by rw [hs] at h'; cases h'; exact h.2⟩,
              fun h => ⟨h.1, h.2 s' hs⟩⟩

instance (s : σ) (is : List ι) {P : σ → ι → Prop} [∀ s i, Decidable (P s i)] :
    Decidable (Along step P s is) := Along.decide step s is

@[simp] theorem run_nil (s : σ) : run step s [] = some s := rfl

theorem run_cons_eq_some {s s' : σ} {i : ι} {is : List ι} :
    run step s (i :: is) = some s' ↔
      ∃ m, step s i = some m ∧ run step m is = some s' := by
  rw [run, Option.bind_eq_some_iff]

theorem run_append_eq_some {s s' : σ} {is js : List ι} :
    run step s (is ++ js) = some s' ↔
      ∃ m, run step s is = some m ∧ run step m js = some s' := by
  induction is generalizing s with
  | nil => simp
  | cons i is ih =>
      simp only [List.cons_append, run_cons_eq_some, ih]
      constructor
      · rintro ⟨a, ha, b, hb, hr⟩
        exact ⟨b, ⟨a, ha, hb⟩, hr⟩
      · rintro ⟨b, ⟨a, ha, hb⟩, hr⟩
        exact ⟨a, ha, b, hb, hr⟩

theorem along_of_forall_mem {P : σ → ι → Prop} :
    ∀ {is : List ι}, (∀ i ∈ is, ∀ s, P s i) → ∀ s : σ, Along step P s is
  | [], _, _ => trivial
  | i :: _, h, s =>
      ⟨h i (List.mem_cons_self ..) s, fun s' _ =>
        along_of_forall_mem (fun j hj => h j (List.mem_cons_of_mem _ hj)) s'⟩

theorem along_of_forall {P : σ → ι → Prop} (h : ∀ s i, P s i) (is : List ι) (s : σ) :
    Along step P s is :=
  along_of_forall_mem (fun i _ s => h s i) s

/-- The invariant rule: what one step preserves, when it meets `P`, every run
all of whose steps meet `P` preserves. -/
theorem inv_run {Inv : σ → Prop} {P : σ → ι → Prop}
    (hstep : ∀ s i s', Inv s → P s i → step s i = some s' → Inv s') :
    ∀ {is : List ι} {s s' : σ}, Inv s → Along step P s is →
      run step s is = some s' → Inv s'
  | [], _, _, hi, _, hr => Option.some.inj hr ▸ hi
  | i :: is, s, s', hi, ha, hr => by
      obtain ⟨m, hm, hrm⟩ := run_cons_eq_some.mp hr
      exact inv_run hstep (hstep s i m hi ha.1 hm) (ha.2 m hm) hrm

/-- The invariant rule without a condition on the steps. -/
theorem inv_run_of_step {Inv : σ → Prop}
    (hstep : ∀ s i s', Inv s → step s i = some s' → Inv s')
    {is : List ι} {s s' : σ} (hi : Inv s) (hr : run step s is = some s') : Inv s' :=
  inv_run (P := fun _ _ => True) (fun s i s' h _ => hstep s i s' h) hi
    (along_of_forall (fun _ _ => trivial) is s) hr

/-- Under an invariant that steps meeting `P` preserve, what `P` implies of a
step holds along the whole run. -/
theorem Along.imp {Inv : σ → Prop} {P Q : σ → ι → Prop}
    (hstep : ∀ s i s', Inv s → P s i → step s i = some s' → Inv s')
    (hPQ : ∀ s i, Inv s → P s i → Q s i) :
    ∀ {is : List ι} {s : σ}, Inv s → Along step P s is → Along step Q s is
  | [], _, _, _ => trivial
  | i :: _, s, hi, ⟨hP, hrest⟩ =>
      ⟨hPQ s i hi hP, fun s' hs => (hrest s' hs).imp hstep hPQ (hstep s i s' hi hP hs)⟩

/-- Under such an invariant, two conditions that agree on every step agree along
the whole run. -/
theorem Along.congr {Inv : σ → Prop} {P Q R : σ → ι → Prop}
    (hstep : ∀ s i s', Inv s → P s i → step s i = some s' → Inv s')
    (hQR : ∀ s i, Inv s → P s i → (Q s i ↔ R s i)) :
    ∀ {is : List ι} {s : σ}, Inv s → Along step P s is →
      (Along step Q s is ↔ Along step R s is)
  | [], _, _, _ => Iff.rfl
  | i :: _, s, hi, ⟨hP, hrest⟩ =>
      and_congr (hQR s i hi hP) (forall_congr' fun s' => forall_congr' fun hs =>
        (hrest s' hs).congr hstep hQR (hstep s i s' hi hP hs))

/-- Where a step keeps the history clean exactly when it meets `Q`, a run ends
with a clean history exactly when all its steps meet `Q`. -/
theorem clean_iff_along {Inv Clean : σ → Prop} {Q : σ → ι → Prop}
    (hinv : ∀ s i s', Inv s → step s i = some s' → Inv s')
    (hclean : ∀ s i s', Inv s → step s i = some s' → (Clean s' ↔ Clean s ∧ Q s i))
    {is : List ι} {s s' : σ} (hi : Inv s) (hr : run step s is = some s') :
    Clean s' ↔ Clean s ∧ Along step Q s is := by
  induction is generalizing s with
  | nil =>
      obtain rfl := Option.some.inj hr
      exact ⟨fun h => ⟨h, trivial⟩, fun h => h.1⟩
  | cons i is ih =>
      obtain ⟨m, hm, hrm⟩ := run_cons_eq_some.mp hr
      have hstep := hclean s i m hi hm
      rw [ih (hinv s i m hi hm) hrm, hstep]
      constructor
      · rintro ⟨⟨hs, hQ⟩, hrest⟩
        refine ⟨hs, hQ, fun m' hm' => ?_⟩
        obtain rfl := Option.some.inj (hm.symm.trans hm')
        exact hrest
      · rintro ⟨hs, hQ, hrest⟩
        exact ⟨⟨hs, hQ⟩, hrest m hm⟩

/-- Where the steps a run takes meet `Q` exactly when their inputs meet `P`, the
run meets `Q` exactly when its inputs meet `P`. -/
theorem along_iff_forall_mem {Inv : σ → Prop} {Q : σ → ι → Prop} {P : ι → Prop}
    (hinv : ∀ s i s', Inv s → step s i = some s' → Inv s')
    (hQP : ∀ s i s', Inv s → step s i = some s' → (Q s i ↔ P i))
    {is : List ι} {s s' : σ} (hi : Inv s) (hr : run step s is = some s') :
    Along step Q s is ↔ ∀ i ∈ is, P i := by
  induction is generalizing s with
  | nil => exact ⟨fun _ _ h => absurd h List.not_mem_nil, fun _ => trivial⟩
  | cons i is ih =>
      obtain ⟨m, hm, hrm⟩ := run_cons_eq_some.mp hr
      have hrest := ih (hinv s i m hi hm) hrm
      rw [List.forall_mem_cons, ← hQP s i m hi hm, ← hrest]
      refine and_congr_right fun _ => ⟨fun h => h m hm, fun h m' hm' => ?_⟩
      obtain rfl := Option.some.inj (hm.symm.trans hm')
      exact h

/-- Forward simulation: if every concrete step is matched by abstract steps,
every concrete run is matched by an abstract run. -/
theorem simulates_run {τ : Type w} {κ : Type x} {astep : τ → κ → Option τ}
    {R : σ → τ → Prop}
    (hsim : ∀ s t i s', R s t → step s i = some s' →
      ∃ js t', run astep t js = some t' ∧ R s' t') :
    ∀ {is : List ι} {s s' : σ} {t : τ}, R s t → run step s is = some s' →
      ∃ js t', run astep t js = some t' ∧ R s' t'
  | [], _, _, t, hR, hr => ⟨[], t, rfl, Option.some.inj hr ▸ hR⟩
  | i :: is, s, s', t, hR, hr => by
      obtain ⟨m, hm, hrm⟩ := run_cons_eq_some.mp hr
      obtain ⟨js, t₁, hjs, hR₁⟩ := hsim s t i m hR hm
      obtain ⟨ks, t₂, hks, hR₂⟩ := simulates_run hsim hR₁ hrm
      exact ⟨js ++ ks, t₂, run_append_eq_some.mpr ⟨t₁, hjs, hks⟩, hR₂⟩

/-! ## What happened before -/

section History

variable (step)

/-- In the run from `s₀`, a step was taken in a state and by an input that meet `P`. -/
def Happened (s₀ : σ) (is : List ι) (P : σ → ι → Prop) : Prop :=
  ∃ pre i post m, is = pre ++ i :: post ∧ run step s₀ pre = some m ∧ P m i

variable {step} {s₀ : σ} {is : List ι} {P Q : σ → ι → Prop}

theorem Happened.append (h : Happened step s₀ is P) (js : List ι) :
    Happened step s₀ (is ++ js) P := by
  obtain ⟨pre, i, post, m, rfl, hm, hP⟩ := h
  exact ⟨pre, i, post ++ js, m, by simp, hm, hP⟩

theorem happened_last {s : σ} {i : ι} (hr : run step s₀ is = some s) (hP : P s i) :
    Happened step s₀ (is ++ [i]) P :=
  ⟨is, i, [], s, rfl, hr, hP⟩

theorem Happened.imp (h : Happened step s₀ is P) (hPQ : ∀ s i, P s i → Q s i) :
    Happened step s₀ is Q := by
  obtain ⟨pre, i, post, m, hsplit, hm, hP⟩ := h
  exact ⟨pre, i, post, m, hsplit, hm, hPQ m i hP⟩

/-- The invariant rule for an invariant that speaks of the history. -/
theorem inv_run_history {I : List ι → σ → Prop} (hinit : I [] s₀)
    (hstep : ∀ is s i s', run step s₀ is = some s → I is s → step s i = some s' →
      I (is ++ [i]) s') {s : σ} (hr : run step s₀ is = some s) : I is s := by
  induction is using List.reverseRecOn generalizing s with
  | nil =>
      obtain rfl := Option.some.inj hr
      exact hinit
  | append_singleton is i ih =>
      obtain ⟨m, hm, hlast⟩ := run_append_eq_some.mp hr
      obtain ⟨s', hs', hnil⟩ := run_cons_eq_some.mp hlast
      obtain rfl := Option.some.inj hnil
      exact hstep is m i s' hm (ih hm) hs'

end History

/-- Amortized counting: where each step either reaches `Goal` or costs no more than what
it gains and takes from the potential `μ`, a run reaches `Goal` on its way or costs no
more than it gains and the potential it starts with. -/
theorem reaches_or_cost_le {Inv Goal : σ → Prop} {μ : σ → Nat} {cost gain : ι → Nat}
    (hinv : ∀ s i s', Inv s → step s i = some s' → Inv s')
    (hstep : ∀ s i s', Inv s → step s i = some s' → Goal s' ∨ μ s' + cost i ≤ μ s + gain i)
    {is : List ι} {s s' : σ} (hi : Inv s) (hr : run step s is = some s') :
    (∃ pre post m, is = pre ++ post ∧ run step s pre = some m ∧ Goal m)
      ∨ μ s' + (is.map cost).sum ≤ μ s + (is.map gain).sum := by
  induction is generalizing s with
  | nil =>
      obtain rfl := Option.some.inj hr
      exact Or.inr (Nat.le_refl _)
  | cons i is ih =>
      obtain ⟨m, hm, hrm⟩ := run_cons_eq_some.mp hr
      rcases hstep s i m hi hm with hgoal | hpay
      · exact Or.inl ⟨[i], is, m, rfl, run_cons_eq_some.mpr ⟨m, hm, rfl⟩, hgoal⟩
      · rcases ih (hinv s i m hi hm) hrm with ⟨pre, post, g, rfl, hpre, hgoal⟩ | hrest
        · exact Or.inl ⟨i :: pre, post, g, rfl, run_cons_eq_some.mpr ⟨m, hm, hpre⟩, hgoal⟩
        · rw [List.map_cons, List.map_cons, List.sum_cons, List.sum_cons]
          exact Or.inr (by omega)

/-- Amortized counting without a goal. -/
theorem cost_le {Inv : σ → Prop} {μ : σ → Nat} {cost gain : ι → Nat}
    (hinv : ∀ s i s', Inv s → step s i = some s' → Inv s')
    (hstep : ∀ s i s', Inv s → step s i = some s' → μ s' + cost i ≤ μ s + gain i)
    {is : List ι} {s s' : σ} (hi : Inv s) (hr : run step s is = some s') :
    μ s' + (is.map cost).sum ≤ μ s + (is.map gain).sum := by
  have hpaid : (∃ pre post m, is = pre ++ post ∧ run step s pre = some m ∧ False)
      ∨ μ s' + (is.map cost).sum ≤ μ s + (is.map gain).sum :=
    reaches_or_cost_le hinv (fun s i s' hi hs => Or.inr (hstep s i s' hi hs)) hi hr
  rcases hpaid with ⟨_, _, _, _, _, hfalse⟩ | hle
  · exact hfalse.elim
  · exact hle

end Lts
