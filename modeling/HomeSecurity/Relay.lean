import HomeSecurity.HubEffects
import HomeSecurity.Ledger

/-!
# Relays and the commands they answer

Runs of the hub over any datagrams from any sources. `get_and_clear_client_cmd`
compares id and module id only: it also finds slots that were freed (their
`cmdid` is 0, their module id stays), and slots whose COMMAND named a longer
module than the 15 bytes stored. Where the FEEDBACKs that arrive can be taken for
neither, `relaySound` holds: every relay answers a COMMAND that still waited, and no
COMMAND is answered twice. It rests on what a slot in use is: the COMMAND it waits for
(`Inv.slots`).

It also returns the first slot that matches. `currentIssuer_iff` says when that
is the slot of the COMMAND in question.
-/

namespace HomeSecurity

open CText Hub

/-! ## Every relay answers a waiting COMMAND -/

namespace Relay

/-- Address, module word and id of a COMMAND or of a relay. -/
abbrev Key := SockAddr × Text × Int

/-- The hub and its history: the COMMAND each slot still waits to have
answered, all COMMANDs received and all relays sent. -/
structure State where
  hub : Hub
  waiting : Fin hubMaxPendingCmds → Option Key
  commands : List Key
  relays : List Key

def init (webhookUrl : Text) : State := ⟨.init webhookUrl, fun _ => none, [], []⟩

/-- The COMMAND a datagram is. -/
def commandOf (dg : Datagram) : List Key :=
  match dg.tokens with
  | mod :: type :: cmdidS :: _ :: _ :: _ =>
      if type = "COMMAND".toList then [(dg.src, mod, atoi cmdidS)] else []
  | _ => []

def waitingAfter (p : PendingCmds) (waiting : Fin hubMaxPendingCmds → Option Key)
    (src : SockAddr) : PendingOp → Fin hubMaxPendingCmds → Option Key
  | .keep => waiting
  | .register mod cmdid => Function.update waiting p.registerSlot (some (src, mod, cmdid))
  | .answer mod cmdid =>
      match p.find mod cmdid with
      | some i => Function.update waiting i none
      | none => waiting

def step (s : State) : Input → Option State
  | .datagram dg =>
      let r := s.hub.handleLine dg
      some {
        hub := r.1
        waiting := waitingAfter s.hub.pendingCmds s.waiting dg.src (s.hub.pendingOp dg)
        commands := s.commands ++ commandOf dg
        relays := s.relays ++ Hub.relays r.2 }
  | .check now => some { s with hub := (s.hub.checkOfflineModules now).1 }

/-- A FEEDBACK whose id reads as 0, the mark of a free slot, finds no module of its name
stored with it; and no COMMAND with its id has come for a longer module that is stored
under the same 15 bytes. -/
def ToldApart (s : State) : Input → Prop
  | .datagram dg => ∀ k ∈ lookedUp (s.hub.pendingOp dg),
      (k.2 = 0 → ∀ i, ¬s.hub.pendingCmds.Pends i k.1 0)
        ∧ ∀ k' ∈ s.commands, k'.2.2 = k.2 → (snprintf hubModuleIdLen k'.2.1).text = k.1 →
          k'.2.1 = k.1
  | .check _ => True

instance (s : State) : (i : Input) → Decidable (ToldApart s i)
  | .datagram dg => inferInstanceAs (Decidable (∀ k ∈ lookedUp (s.hub.pendingOp dg),
      (k.2 = 0 → ∀ i, ¬s.hub.pendingCmds.Pends i k.1 0)
        ∧ ∀ k' ∈ s.commands, k'.2.2 = k.2 → (snprintf hubModuleIdLen k'.2.1).text = k.1 →
          k'.2.1 = k.1))
  | .check _ => isTrue trivial

/-- Every relay of the step goes where a COMMAND with that module and id still
waits for it. -/
def RelaysPending (s : State) : Input → Prop
  | .datagram dg => ∀ k ∈ Hub.relays (s.hub.handleLine dg).2, ∃ i, s.waiting i = some k
  | .check now => Hub.relays (s.hub.checkOfflineModules now).2 = []

/-- Slot `i` waits for the COMMAND it was filled with, whose module may have been longer. -/
def Waits (s : State) (i : Fin hubMaxPendingCmds) : Prop :=
  ∃ m, s.waiting i = some ((s.hub.pendingCmds i).clientAddr, m, (s.hub.pendingCmds i).cmdid)
    ∧ (s.hub.pendingCmds i).moduleId = snprintf hubModuleIdLen m
    ∧ ((s.hub.pendingCmds i).clientAddr, m, (s.hub.pendingCmds i).cmdid) ∈ s.commands

/-- A slot in use waits, and the ledger is balanced. -/
structure Inv (s : State) : Prop where
  slots : ∀ i, (s.hub.pendingCmds i).cmdid ≠ 0 → Waits s i
  balanced : Ledger.Balanced s.waiting s.commands s.relays

theorem inv_init (webhookUrl : Text) : Inv (init webhookUrl) :=
  ⟨fun _ hne => absurd rfl hne, .empty⟩

/-- The slot that a FEEDBACK finds waits for it. -/
theorem Inv.waits {s : State} (h : Inv s) {dg : Datagram} (hok : ToldApart s (.datagram dg))
    {m : Text} {c : Int} {i : Fin hubMaxPendingCmds} (hop : s.hub.pendingOp dg = .answer m c)
    (hfind : s.hub.pendingCmds.find m c = some i) :
    s.waiting i = some ((s.hub.pendingCmds i).clientAddr, m, c) := by
  obtain ⟨hzero, hlong⟩ := hok (m, c) (lookedUp_eq_some_iff.mpr hop)
  obtain ⟨⟨hcmdid, hmodule⟩, -⟩ := PendingCmds.find_eq_some_iff.mp hfind
  have hne : (s.hub.pendingCmds i).cmdid ≠ 0 := by
    intro hfree
    have hc : c = 0 := hcmdid.symm.trans hfree
    exact hzero hc i ⟨hfree, hmodule⟩
  obtain ⟨m', hwaiting, hstored, hmem⟩ := h.slots i hne
  have hsame : m' = m := hlong _ hmem hcmdid (by rw [← hstored, hmodule])
  rw [hwaiting, hsame, hcmdid]

theorem commandOf_of_register {h : Hub} {dg : Datagram} {m : Text} {c : Int}
    (hop : h.pendingOp dg = .register m c) : commandOf dg = [(dg.src, m, c)] := by
  obtain ⟨-, cs, target, action, rest, htok, rfl⟩ := pendingOp_eq_register_iff.mp hop
  rw [commandOf, htok]
  rfl

theorem waitingAfter_register (p : PendingCmds) (waiting : Fin hubMaxPendingCmds → Option Key)
    (src : SockAddr) (m : Text) (c : Int) :
    waitingAfter p waiting src (.register m c)
      = Function.update waiting p.registerSlot (some (src, m, c)) := rfl

theorem waitingAfter_answer_none {p : PendingCmds} {m : Text} {c : Int}
    (hfind : p.find m c = none) (waiting : Fin hubMaxPendingCmds → Option Key) (src : SockAddr) :
    waitingAfter p waiting src (.answer m c) = waiting := by
  unfold waitingAfter
  dsimp only
  rw [hfind]

theorem waitingAfter_answer_some {p : PendingCmds} {m : Text} {c : Int}
    {i : Fin hubMaxPendingCmds} (hfind : p.find m c = some i)
    (waiting : Fin hubMaxPendingCmds → Option Key) (src : SockAddr) :
    waitingAfter p waiting src (.answer m c) = Function.update waiting i none := by
  unfold waitingAfter
  dsimp only
  rw [hfind]

theorem Waits.congr {s s' : State} {i : Fin hubMaxPendingCmds} (h : Waits s i)
    (hslot : s'.hub.pendingCmds i = s.hub.pendingCmds i) (hwaiting : s'.waiting i = s.waiting i)
    (hcommands : s.commands ⊆ s'.commands) : Waits s' i := by
  obtain ⟨m, hm, hstored, hmem⟩ := h
  rw [Waits, hslot, hwaiting]
  exact ⟨m, hm, hstored, hcommands hmem⟩

/-- The invariant after the pending table, the slots' COMMANDs and the history
moved by one operation. -/
theorem Inv.apply {s : State} (h : Inv s) {dg : Datagram} {op : PendingOp} {hub : Hub}
    (hpend : hub.pendingCmds = (s.hub.pendingCmds.apply dg.src dg.issued op).1)
    (hcmd : ∀ m c, op = .register m c → commandOf dg = [(dg.src, m, c)])
    (hok : ∀ m c i, op = .answer m c → s.hub.pendingCmds.find m c = some i →
      s.waiting i = some ((s.hub.pendingCmds i).clientAddr, m, c)) :
    Inv {
      hub := hub
      waiting := waitingAfter s.hub.pendingCmds s.waiting dg.src op
      commands := s.commands ++ commandOf dg
      relays := s.relays ++ (s.hub.pendingCmds.apply dg.src dg.issued op).2 } := by
  have hgrown : s.commands ⊆ s.commands ++ commandOf dg := List.subset_append_left ..
  cases op with
  | keep =>
      rw [PendingCmds.apply_keep] at hpend ⊢
      refine ⟨fun i hne => ?_, ?_⟩
      · dsimp only at hpend hne
        rw [hpend] at hne
        exact (h.slots i hne).congr (congrFun hpend i) rfl hgrown
      · rw [List.append_nil]
        exact h.balanced.request _
  | register m c =>
      rw [PendingCmds.apply_register] at hpend ⊢
      rw [waitingAfter_register, hcmd m c rfl, List.append_nil]
      refine ⟨fun i hne => ?_, h.balanced.place _ _⟩
      dsimp only at hpend hne
      by_cases hi : i = s.hub.pendingCmds.registerSlot
      · subst hi
        have hslot := congrFun hpend s.hub.pendingCmds.registerSlot
        rw [Function.update_self] at hslot
        rw [Waits, hslot]
        exact ⟨m, Function.update_self .., rfl, List.mem_append_right _ (List.mem_singleton_self _)⟩
      · have hslot := congrFun hpend i
        rw [Function.update_of_ne hi] at hslot
        rw [hslot] at hne
        exact (h.slots i hne).congr hslot (Function.update_of_ne hi ..)
          (List.subset_append_left ..)
  | answer m c =>
      cases hfind : s.hub.pendingCmds.find m c with
      | none =>
          rw [PendingCmds.apply_answer_none _ _ hfind] at hpend ⊢
          rw [waitingAfter_answer_none hfind, List.append_nil]
          refine ⟨fun i hne => ?_, h.balanced.request _⟩
          dsimp only at hpend hne
          rw [hpend] at hne
          exact (h.slots i hne).congr (congrFun hpend i) rfl hgrown
      | some j =>
          rw [PendingCmds.apply_answer_some _ _ hfind] at hpend ⊢
          rw [waitingAfter_answer_some hfind]
          refine ⟨fun i hne => ?_, (h.balanced.answer (hok m c j rfl hfind)).request _⟩
          dsimp only at hpend hne
          have hslot := congrFun hpend i
          by_cases hi : i = j
          · subst hi
            -- the slot has been freed
            rw [hslot, Function.update_self] at hne
            exact absurd rfl hne
          · rw [Function.update_of_ne hi] at hslot
            rw [hslot] at hne
            exact (h.slots i hne).congr hslot (Function.update_of_ne hi ..) hgrown

theorem inv_step (s : State) (i : Input) (s' : State) (h : Inv s) (hok : ToldApart s i)
    (hs : step s i = some s') : Inv s' := by
  cases i with
  | check now =>
      obtain rfl := Option.some.inj hs
      have hframe := (s.hub.checkOfflineModules_frame now).1.pendingCmds
      refine ⟨fun i hne => ?_, h.balanced⟩
      dsimp only at hne
      rw [hframe] at hne
      exact (h.slots i hne).congr (congrFun hframe i) rfl (List.Subset.refl _)
  | datagram dg =>
      obtain rfl := Option.some.inj hs
      rw [s.hub.handleLine_relays dg]
      exact h.apply (s.hub.handleLine_pendingCmds dg) (fun m c hop => commandOf_of_register hop)
        (fun m c i hop hfind => h.waits hok hop hfind)

theorem Inv.relaysPending {s : State} {i : Input} (h : Inv s) (hok : ToldApart s i) :
    RelaysPending s i := by
  cases i with
  | check now => exact (s.hub.checkOfflineModules_frame now).2
  | datagram dg =>
      intro k hk
      obtain ⟨hop, i, hfind, haddr⟩ := Hub.handleLine_relay hk
      refine ⟨i, ?_⟩
      rw [h.waits hok hop hfind, ← haddr]

/-- In a run where no FEEDBACK can be taken for the answer to another COMMAND, no client is
relayed an answer more often than it sent the COMMAND, and no relay is sent that nobody
waits for. -/
theorem relaySound {webhookUrl : Text} {is : List Input} {s : State}
    (hr : Lts.run step (init webhookUrl) is = some s)
    (hok : Lts.Along step ToldApart (init webhookUrl) is) :
    (∀ a m c, s.relays.count (a, m, c) ≤ s.commands.count (a, m, c))
      ∧ Lts.Along step RelaysPending (init webhookUrl) is := by
  have hinv : Inv s := Lts.inv_run inv_step (inv_init webhookUrl) hok hr
  refine ⟨fun a m c => hinv.balanced.count_le (a, m, c), ?_⟩
  exact Lts.Along.imp inv_step (fun s i h hi => h.relaysPending hi) (inv_init webhookUrl) hok

/-- A web server's COMMAND 7 for `D1`, and the door's FEEDBACKs with ids 7 and 0. -/
def lockCommand : Datagram :=
  ⟨⟨9, 50000⟩, commandLine "D1".toList 7 "D0".toList "LOCK".toList, 20, 20⟩

def lockFeedback (c : Int) : Datagram :=
  ⟨⟨1, 40000⟩, feedbackLine "D1".toList c "D0".toList "LOCK".toList, 30, 30⟩

/-- Command 7 is answered once; the second FEEDBACK finds nothing. -/
theorem relaySound_lock : ∃ s, Lts.run step (init [])
    [.datagram lockCommand, .datagram (lockFeedback 7), .datagram (lockFeedback 7)] = some s
    ∧ (∀ a m c, s.relays.count (a, m, c) ≤ s.commands.count (a, m, c))
    ∧ Lts.Along step RelaysPending (init [])
      [.datagram lockCommand, .datagram (lockFeedback 7), .datagram (lockFeedback 7)] := by
  obtain ⟨s, hs⟩ : ∃ s, Lts.run step (init [])
      [.datagram lockCommand, .datagram (lockFeedback 7), .datagram (lockFeedback 7)] = some s :=
    ⟨_, rfl⟩
  exact ⟨s, hs, relaySound hs (by decide +kernel)⟩

/-- Command 7 is answered, and so is the id 0 that its freed slot now carries. -/
theorem relaySound_freedSlot :
    ¬∀ (webhookUrl : Text) (is : List Input) (s : State),
      Lts.run step (init webhookUrl) is = some s →
      ∀ a m c, s.relays.count (a, m, c) ≤ s.commands.count (a, m, c) := by
  intro hall
  have hrun : (Lts.run step (init [])
      [.datagram lockCommand, .datagram (lockFeedback 7), .datagram (lockFeedback 0)]).map
        (fun s => (s.relays.count (⟨9, 50000⟩, "D1".toList, 0),
          s.commands.count (⟨9, 50000⟩, "D1".toList, 0))) = some (1, 0) := by
    decide +kernel
  obtain ⟨s, hs, hobs⟩ := Option.map_eq_some_iff.mp hrun
  obtain ⟨hrel, hcmd⟩ := Prod.mk.inj hobs
  have hle := hall [] _ s hs ⟨9, 50000⟩ "D1".toList 0
  rw [hrel, hcmd] at hle
  exact absurd hle (by decide)

/-! ## Who gets the answer

A COMMAND for `(m, c)` was registered in slot `k`; the slot is not written
again, and no FEEDBACK `(m, c)` is handled until the one in question. -/

/-- The step neither looks `(m, c)` up nor overwrites slot `k`. -/
def Undisturbed (k : Fin hubMaxPendingCmds) (m : Text) (c : Int) (h : Hub) : Input → Prop
  | .datagram dg =>
      h.pendingOp dg ≠ .answer m c ∧
        ∀ m' c', h.pendingOp dg = .register m' c' → h.pendingCmds.registerSlot ≠ k
  | .check _ => True

/-- Before slot `k` comes one with the same module and id, and the first such
has another address. -/
def Shadowed (p : PendingCmds) (k : Fin hubMaxPendingCmds) (m : Text) (c : Int)
    (a : SockAddr) : Prop :=
  ∃ j < k, p.FirstPends j m c ∧ (p j).clientAddr ≠ a

instance (p : PendingCmds) (k : Fin hubMaxPendingCmds) (m : Text) (c : Int) (a : SockAddr) :
    Decidable (Shadowed p k m c a) :=
  inferInstanceAs (Decidable (∃ _, _))

theorem undisturbed_slot {h h' : Hub} {k : Fin hubMaxPendingCmds} {m : Text} {c : Int}
    {i : Input} (hk : h.pendingCmds.Pends k m c) (hq : Undisturbed k m c h i)
    (hs : Hub.step h i = some h') : h'.pendingCmds k = h.pendingCmds k := by
  obtain rfl := Option.some.inj hs
  cases i with
  | check now =>
      show (h.checkOfflineModules now).1.pendingCmds k = _
      rw [(h.checkOfflineModules_frame now).1.pendingCmds]
  | datagram dg =>
      obtain ⟨hanswer, hslot⟩ := hq
      show (h.handleLine dg).1.pendingCmds k = _
      rw [h.handleLine_pendingCmds dg]
      rcases h.pendingCmds.apply_slot dg.src dg.issued (h.pendingOp dg) k with
        hsame | ⟨m', c', hop, heq, -⟩ | ⟨m', c', hop, hfind, -⟩
      · exact hsame
      · exact absurd heq.symm (hslot m' c' hop)
      · -- the slot would have to be stored under two pairs at once
        obtain ⟨hc', hm'⟩ := (PendingCmds.find_eq_some_iff.mp hfind).1
        have hc : c' = c := hc'.symm.trans hk.1
        have hm : m' = m := hm'.symm.trans hk.2
        rw [hc, hm] at hop
        exact absurd hop hanswer

theorem undisturbed_run {h h' : Hub} {k : Fin hubMaxPendingCmds} {m : Text} {c : Int}
    {is : List Input} {e : PendingClientCmd} (hc : e.cmdid = c) (hm : e.moduleId.text = m)
    (hk : h.pendingCmds k = e) (hq : Lts.Along Hub.step (Undisturbed k m c) h is)
    (hr : Lts.run Hub.step h is = some h') : h'.pendingCmds k = e := by
  have hstep : ∀ (s : Hub) (i : Input) (s' : Hub), s.pendingCmds k = e →
      Undisturbed k m c s i → Hub.step s i = some s' → s'.pendingCmds k = e := by
    intro s i s' hs hP hi
    have hpends : s.pendingCmds.Pends k m c := by
      rw [PendingCmds.Pends, hs]
      exact ⟨hc, hm⟩
    exact (undisturbed_slot hpends hP hi).trans hs
  exact Lts.inv_run hstep hk hq hr

/-- Ids of 16 bytes or more are in no slot. -/
theorem find_of_long {p : PendingCmds} {m : Text} (hm : ¬m.length < hubModuleIdLen) (c : Int) :
    p.find m c = none := by
  rw [PendingCmds.find_eq_none_iff]
  rintro j ⟨-, rfl⟩
  exact hm (p j).moduleId.fits

theorem relays_of_long {h : Hub} {fb : Datagram} {m : Text} {rest : List Text}
    (htok : fb.tokens = m :: rest) (hm : ¬m.length < hubModuleIdLen) :
    relays (h.handleLine fb).2 = [] := by
  rw [h.handleLine_relays fb]
  cases hop : h.pendingOp fb with
  | keep => rw [PendingCmds.apply_keep]
  | register m' c' => rw [PendingCmds.apply_register]
  | answer m' c' =>
      obtain ⟨args, htok'⟩ := pendingOp_answer_tokens hop
      obtain ⟨rfl, -⟩ := List.cons.inj (htok.symm.trans htok')
      rw [PendingCmds.apply_answer_none _ _ (find_of_long hm c')]

/-- A FEEDBACK is relayed to the address of the first slot that holds its
module and id. -/
theorem relays_of_pends {h : Hub} {fb : Datagram} {m : Text} {c : Int}
    {k : Fin hubMaxPendingCmds} {a : SockAddr} (hop : h.pendingOp fb = .answer m c)
    (hk : h.pendingCmds.Pends k m c) (ha : (h.pendingCmds k).clientAddr = a) :
    (a, m, c) ∈ relays (h.handleLine fb).2 ↔ ¬Shadowed h.pendingCmds k m c a := by
  rw [h.handleLine_relays fb, hop]
  cases hfind : h.pendingCmds.find m c with
  | none => exact absurd hk (PendingCmds.find_eq_none_iff.mp hfind k)
  | some j =>
      rw [PendingCmds.apply_answer_some _ _ hfind, List.mem_singleton]
      have hfirst := PendingCmds.find_eq_some_iff.mp hfind
      have hjk : j ≤ k := by
        by_contra hlt
        exact hfirst.2 k (not_le.mp hlt) hk
      constructor
      · rintro heq ⟨j', -, hfirst', hne⟩
        obtain rfl := Option.some.inj
          (hfind.symm.trans (PendingCmds.find_eq_some_iff.mpr hfirst'))
        exact hne (congrArg Prod.fst heq).symm
      · intro hshadow
        by_cases haddr : (h.pendingCmds j).clientAddr = a
        · rw [haddr]
        · rcases lt_or_eq_of_le hjk with hlt | rfl
          · exact absurd ⟨j, hlt, hfirst, haddr⟩ hshadow
          · exact absurd ha haddr

/-- The next FEEDBACK for a registered COMMAND goes back to its sender exactly
when the module id was stored whole and no earlier slot, left over from another
address, has the same module and id. -/
theorem currentIssuer_iff {h h' : Hub} {cmd fb : Datagram} {is : List Input}
    {m cs target action : Text} {c : Int} {rest : List Text}
    (hcmd : h.pendingOp cmd = .register m c)
    (hquiet : Lts.Along Hub.step (Undisturbed h.pendingCmds.registerSlot m c)
      (h.handleLine cmd).1 is)
    (hr : Lts.run Hub.step (h.handleLine cmd).1 is = some h')
    (hfb : fb.tokens = m :: "FEEDBACK".toList :: cs :: target :: action :: rest)
    (hc : atoi cs = c) :
    (cmd.src, m, c) ∈ relays (h'.handleLine fb).2 ↔
      m.length < hubModuleIdLen
        ∧ ¬Shadowed h'.pendingCmds h.pendingCmds.registerSlot m c cmd.src := by
  by_cases hm : m.length < hubModuleIdLen
  · have hslot : (h.handleLine cmd).1.pendingCmds h.pendingCmds.registerSlot
        = ⟨c, cmd.src, snprintf hubModuleIdLen m, cmd.issued⟩ := by
      rw [h.handleLine_pendingCmds cmd, hcmd, PendingCmds.apply_register]
      exact Function.update_self ..
    have hslot' := undisturbed_run rfl (snprintf_text hm) hslot hquiet hr
    -- the COMMAND left the module tracked, so the FEEDBACK gets to the table
    obtain ⟨hroom, cs', target', action', rest', htok, -⟩ := pendingOp_eq_register_iff.mp hcmd
    obtain ⟨d, ht⟩ := handleLine_tracks_of_room htok (Option.isNone_eq_false_iff.mpr hroom) hm
    obtain ⟨d', hfind⟩ := findDoor_of_tracks (tracks_run ht hr)
    have hop : h'.pendingOp fb = .answer m c :=
      pendingOp_eq_answer_iff.mpr
        ⟨by rw [findOrCreateDoor_of_find hfind]; rfl, cs, target, action, rest, hfb, hc⟩
    have hpends : h'.pendingCmds.Pends h.pendingCmds.registerSlot m c := by
      rw [PendingCmds.Pends, hslot']
      exact ⟨rfl, snprintf_text hm⟩
    rw [relays_of_pends hop hpends (by rw [hslot'])]
    exact ⟨fun hs => ⟨hm, hs⟩, fun hs => hs.2⟩
  · rw [relays_of_long hfb hm]
    exact ⟨fun hmem => absurd hmem List.not_mem_nil, fun hs => absurd hs.1 hm⟩

/-- Command 1 for `D1` of a web server on the given port. -/
def firstCommand (port : Nat) : Datagram :=
  ⟨⟨9, port⟩, commandLine "D1".toList 1 "D0".toList "LOCK".toList, 20, 20⟩

theorem currentIssuer_alone : (⟨9, 50000⟩, "D1".toList, 1)
    ∈ relays (((Hub.init []).handleLine (firstCommand 50000)).1.handleLine (lockFeedback 1)).2 := by
  have hcmd : (Hub.init []).pendingOp (firstCommand 50000) = .register "D1".toList 1 := by
    decide +kernel
  have hquiet : Lts.Along Hub.step
      (Undisturbed (Hub.init []).pendingCmds.registerSlot "D1".toList 1)
      ((Hub.init []).handleLine (firstCommand 50000)).1 [] := trivial
  have hfb : (lockFeedback 1).tokens = ["D1".toList, "FEEDBACK".toList, decimal 1, "D0".toList,
      "LOCK".toList] := by
    decide +kernel
  exact (currentIssuer_iff hcmd hquiet rfl hfb (by decide +kernel)).mpr
    ⟨by decide, by decide +kernel⟩

/-- A web server sends command 1 and restarts on another port before the answer;
its new command 1 is answered to the old port. -/
theorem currentIssuer_restarted :
    ¬∀ (webhookUrl : Text) (before is : List Input) (h h' : Hub) (cmd fb : Datagram) (m : Text)
        (c : Int), c ≠ 0 →
      Lts.run Hub.step (Hub.init webhookUrl) before = some h →
      h.pendingOp cmd = .register m c →
      Lts.Along Hub.step (Undisturbed h.pendingCmds.registerSlot m c) (h.handleLine cmd).1 is →
      Lts.Along Hub.step (fun h i => ∀ dg, i = .datagram dg → h.pendingOp dg ≠ .register m c)
        (h.handleLine cmd).1 is →
      Lts.run Hub.step (h.handleLine cmd).1 is = some h' →
      h'.pendingOp fb = .answer m c →
      (cmd.src, m, c) ∈ relays (h'.handleLine fb).2 := by
  intro hall
  have hmem := hall [] [.datagram (firstCommand 50000)] [] _ _ (firstCommand 50001)
    (lockFeedback 1) "D1".toList 1 (by decide) rfl (by decide +kernel) trivial trivial rfl
    (by decide +kernel)
  exact absurd hmem (by decide +kernel)

end Relay

end HomeSecurity
