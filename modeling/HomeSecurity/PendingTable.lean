import HomeSecurity.HubEffects
import HomeSecurity.SlotTable

/-!
# What the pending table loses

The table of clients that wait for the FEEDBACK to their command has 128 slots,
and `register_client_command` always finds room: in a free slot, or in that of
the command that has waited longest. A slot that was freed keeps its time, which
the search for the oldest must not be misled by.

`pendingTable_keeps` is stated for every table that calls of the two functions
lead to, with ids other than 0 and a clock that does not run backwards.
-/

namespace HomeSecurity

open CText

namespace PendingCmds

/-- `cmdid` 0 is a free slot. -/
def Free (p : PendingCmds) (i : Fin hubMaxPendingCmds) : Prop := (p i).cmdid = 0

instance decidableFree (p : PendingCmds) : DecidablePred p.Free :=
  fun i => inferInstanceAs (Decidable ((p i).cmdid = 0))

/-- The search of `register_client_command` is that of a slot table. -/
theorem scan_eq_choose (p : PendingCmds) (is : List (Fin hubMaxPendingCmds))
    (slot : Fin hubMaxPendingCmds) (oldestMs : Int) :
    p.scan is slot oldestMs
      = SlotTable.choose p.Free (fun i => (p i).issuedMs) is slot oldestMs := by
  induction is generalizing slot oldestMs with
  | nil => rfl
  | cons i is ih =>
      rw [scan, SlotTable.choose, ih, ih]
      rfl

theorem registerSlot_free {p : PendingCmds} (hfree : ∃ i, p.Free i) : p.Free p.registerSlot := by
  obtain ⟨i, hi⟩ := hfree
  rw [registerSlot, scan_eq_choose]
  exact SlotTable.choose_free ⟨i, List.mem_finRange i, hi⟩ 0 _

theorem registerSlot_oldest {p : PendingCmds} (hlive : ∀ i, ¬p.Free i) (i : Fin hubMaxPendingCmds) :
    (p p.registerSlot).issuedMs ≤ (p i).issuedMs := by
  rw [registerSlot, scan_eq_choose]
  exact (SlotTable.choose_least (fun j => (p j).issuedMs) (fun j _ => hlive j) rfl).2 i
    (List.mem_finRange i)

end PendingCmds

/-! ## Runs of the two functions -/

/-- A call; `now` is the clock reading of `register_client_command`. -/
inductive PendingCall where
  | register (cmdid : Int) (moduleId : Text) (clientAddr : SockAddr) (now : Int)
  | getAndClear (moduleId : Text) (cmdid : Int)

/-- The hub and the last clock reading. -/
structure PendingRun where
  hub : Hub
  clock : Int

namespace PendingRun

/-- Ids are not 0, and the clock does not run backwards. -/
def step (s : PendingRun) : PendingCall → Option PendingRun
  | .register cmdid moduleId clientAddr now =>
      if cmdid ≠ 0 ∧ s.clock ≤ now then
        some ⟨s.hub.registerClientCommand cmdid moduleId clientAddr now, now⟩
      else none
  | .getAndClear moduleId cmdid =>
      if cmdid ≠ 0 then
        some ⟨((s.hub.getAndClearClientCmd moduleId cmdid).map Prod.snd).getD s.hub, s.clock⟩
      else none

/-- The slot's entry waits for its FEEDBACK. -/
def Live (s : PendingRun) (i : Fin hubMaxPendingCmds) : Prop := ¬s.hub.pendingCmds.Free i

section Steps

variable {s s' : PendingRun} {cmdid now : Int} {moduleId : Text} {clientAddr : SockAddr}

/-- A registration overwrites the slot that was searched for. -/
theorem step_register (hs : step s (.register cmdid moduleId clientAddr now) = some s') :
    s.clock ≤ now ∧ ∃ h' : Hub, s' = ⟨h', now⟩
      ∧ h'.pendingCmds = Function.update s.hub.pendingCmds s.hub.pendingCmds.registerSlot
        ⟨cmdid, clientAddr, snprintf hubModuleIdLen moduleId, now⟩ := by
  simp only [step] at hs
  split at hs
  · rename_i h
    exact ⟨h.2, _, (Option.some.inj hs).symm, rfl⟩
  · cases hs

/-- What `get_and_clear_client_cmd` leaves: a slot is as it was, or free now. -/
theorem step_getAndClear (hs : step s (.getAndClear moduleId cmdid) = some s') :
    ∃ h' : Hub, s' = ⟨h', s.clock⟩
      ∧ ∀ i, h'.pendingCmds i = s.hub.pendingCmds i ∨ h'.pendingCmds.Free i := by
  simp only [step] at hs
  split at hs
  · refine ⟨_, (Option.some.inj hs).symm, fun i => ?_⟩
    unfold Hub.getAndClearClientCmd
    cases s.hub.pendingCmds.find moduleId cmdid with
    | none => exact Or.inl rfl
    | some j =>
        by_cases hi : i = j
        · subst hi
          right
          show (Function.update s.hub.pendingCmds i _ i).cmdid = 0
          rw [Function.update_self]
        · exact Or.inl (Function.update_of_ne hi ..)
  · cases hs

/-- Nobody waits since a time that is still to come. -/
def Inv (s : PendingRun) : Prop :=
  ∀ i, s.Live i → (s.hub.pendingCmds i).issuedMs ≤ s.clock

theorem inv_init (webhookUrl : Text) (start : Int) : Inv ⟨Hub.init webhookUrl, start⟩ :=
  fun _ hi => (hi rfl).elim

theorem inv_step {call : PendingCall} (h : Inv s) (hs : step s call = some s') : Inv s' := by
  cases call with
  | register cmdid moduleId clientAddr now =>
      obtain ⟨hclock, h', rfl, hpend⟩ := step_register hs
      intro i hi
      unfold Live PendingCmds.Free at hi
      dsimp only at hi ⊢
      rw [hpend] at hi ⊢
      by_cases hslot : i = s.hub.pendingCmds.registerSlot
      · rw [hslot, Function.update_self]
      · rw [Function.update_of_ne hslot] at hi ⊢
        exact le_trans (h i hi) hclock
  | getAndClear moduleId cmdid =>
      obtain ⟨h', rfl, hslots⟩ := step_getAndClear hs
      intro i hi
      unfold Live PendingCmds.Free at hi
      dsimp only at hi ⊢
      rcases hslots i with hkept | hfree
      · rw [hkept] at hi ⊢
        exact h i hi
      · exact absurd hfree hi

end Steps

/-! ## The next registration -/

/-- After any calls, a registration goes into a free slot if there is one, and else
replaces an entry that has waited longest; nothing else changes, and nobody has been
waiting for less than the new entry. -/
theorem pendingTable_keeps {webhookUrl : Text} {start : Int} {calls : List PendingCall}
    {s s' : PendingRun} {cmdid now : Int} {moduleId : Text} {clientAddr : SockAddr}
    (hr : Lts.run step ⟨Hub.init webhookUrl, start⟩ calls = some s)
    (hs : step s (.register cmdid moduleId clientAddr now) = some s') :
    ((∃ i, ¬s.Live i) → ∃ i, ¬s.Live i
        ∧ s'.hub.pendingCmds i = ⟨cmdid, clientAddr, snprintf hubModuleIdLen moduleId, now⟩
        ∧ ∀ j, j ≠ i → s'.hub.pendingCmds j = s.hub.pendingCmds j)
      ∧ ((∀ i, s.Live i) → ∃ i,
        (∀ j, (s.hub.pendingCmds i).issuedMs ≤ (s.hub.pendingCmds j).issuedMs)
        ∧ s'.hub.pendingCmds i = ⟨cmdid, clientAddr, snprintf hubModuleIdLen moduleId, now⟩
        ∧ ∀ j, j ≠ i → s'.hub.pendingCmds j = s.hub.pendingCmds j)
      ∧ ∀ j, s'.Live j → (s'.hub.pendingCmds j).issuedMs ≤ now := by
  have hinv : Inv s :=
    Lts.inv_run_of_step (fun _ _ _ h hs => inv_step h hs) (inv_init webhookUrl start) hr
  have hyoungest : Inv s' := inv_step hinv hs
  obtain ⟨-, h', rfl, hpend⟩ := step_register hs
  have hnew : h'.pendingCmds s.hub.pendingCmds.registerSlot
      = ⟨cmdid, clientAddr, snprintf hubModuleIdLen moduleId, now⟩ := by
    rw [hpend, Function.update_self]
  have hkept : ∀ j, j ≠ s.hub.pendingCmds.registerSlot →
      h'.pendingCmds j = s.hub.pendingCmds j := by
    intro j hj
    rw [hpend, Function.update_of_ne hj]
  refine ⟨fun hfree => ⟨_, ?_, hnew, hkept⟩, fun hlive => ⟨_, ?_, hnew, hkept⟩, hyoungest⟩
  · obtain ⟨i, hi⟩ := hfree
    exact not_not_intro (PendingCmds.registerSlot_free ⟨i, not_not.mp hi⟩)
  · exact PendingCmds.registerSlot_oldest hlive

/-- One command was answered, another one is still waiting. -/
def twoCommands : List PendingCall :=
  [.register 1 "D1".toList ⟨1, 40000⟩ 5, .register 2 "D2".toList ⟨1, 40001⟩ 9,
    .getAndClear "D1".toList 1]

theorem pendingTable_keeps_third : ∃ s s',
    Lts.run step ⟨Hub.init [], 0⟩ twoCommands = some s
      ∧ step s (.register 3 "D1".toList ⟨1, 40002⟩ 9) = some s'
      ∧ ∃ i, ¬s.Live i ∧ s'.hub.pendingCmds i
          = ⟨3, ⟨1, 40002⟩, snprintf hubModuleIdLen "D1".toList, 9⟩
        ∧ ∀ j, j ≠ i → s'.hub.pendingCmds j = s.hub.pendingCmds j := by
  obtain ⟨s', hall⟩ : ∃ s', Lts.run step ⟨Hub.init [], 0⟩
      (twoCommands ++ [.register 3 "D1".toList ⟨1, 40002⟩ 9]) = some s' := ⟨_, rfl⟩
  obtain ⟨s, hr, hlast⟩ := Lts.run_append_eq_some.mp hall
  obtain ⟨s₁, hs, hend⟩ := Lts.run_cons_eq_some.mp hlast
  obtain rfl := Option.some.inj hend
  have hthird : (Lts.run step ⟨Hub.init [], 0⟩ twoCommands).map
      (fun s => (s.hub.pendingCmds 2).cmdid) = some 0 := by
    decide +kernel
  rw [hr] at hthird
  have hfree : ¬s.Live 2 := not_not_intro (Option.some.inj hthird)
  exact ⟨s, s₁, hr, hs, (pendingTable_keeps hr hs).1 ⟨2, hfree⟩⟩

end PendingRun

end HomeSecurity
