import HomeSecurity.HubDoors
import HomeSecurity.Lts

/-!
# What one datagram does

The second half of the specification of `handle_line`, so that no invariant proof
unfolds it again:

- its outputs (`handleLine_out`);
- the pending table and the relays (`handleLine_pending`): a COMMAND overwrites
  one slot, a FEEDBACK may free one and relay to its address, everything else
  leaves the table alone and relays nothing (`PendingCmds.apply`);
- what the offline check leaves alone (`OfflineFrame`).
-/

namespace HomeSecurity

open CText

namespace Hub

/-! ## Relays -/

/-- Address, module and command id of a relay. -/
def relayed : HubOut → Option (SockAddr × Text × Int)
  | .relay a m c _ => some (a, m, c)
  | _ => none

def relays (outs : List HubOut) : List (SockAddr × Text × Int) := outs.filterMap relayed

theorem relays_triggerDiscordAlert (h : Hub) (m et door state : Text) :
    relays (h.triggerDiscordAlert m et door state) = [] := by
  unfold triggerDiscordAlert
  split <;> rfl

theorem relays_forward (h : Hub) (m line : Text) :
    relays (h.hubForwardCommandToModule m line) = [] := by
  unfold hubForwardCommandToModule
  split
  · split <;> rfl
  · rfl

/-! ## Outputs -/

theorem findOrCreateDoor_webhookUrl {h h' : Hub} {m : Text} {d : Fin hubMaxDoors}
    (hc : h.findOrCreateDoor m = some (h', d)) : h'.webhookUrl = h.webhookUrl := by
  rcases findOrCreateDoor_eq_some hc with ⟨-, rfl⟩ | ⟨-, -, rfl⟩ <;> rfl

theorem noteEndpoint_webhookUrl (h : Hub) (mod type : Text) (src : SockAddr) :
    (h.noteEndpoint mod type src).webhookUrl = h.webhookUrl := by
  unfold noteEndpoint hubUpdateEndpoint
  split
  · rfl
  · split
    · rfl
    · split <;> rfl

theorem noteLine_webhookUrl (h : Hub) (d : Fin hubMaxDoors) (mod type : Text) (dg : Datagram) :
    (h.noteLine d mod type dg).webhookUrl = h.webhookUrl := by
  unfold noteLine
  split <;> rfl

theorem triggerDiscordAlert_congr {h h' : Hub} (hurl : h'.webhookUrl = h.webhookUrl)
    (m et door state : Text) :
    h'.triggerDiscordAlert m et door state = h.triggerDiscordAlert m et door state := by
  unfold triggerDiscordAlert
  rw [hurl]

theorem eventState_isSome {what state : Text} {p q : Channel}
    (h : eventState what state p = some q) :
    what = "DOOR".toList ∨ what = "LOCK".toList := by
  unfold eventState at h
  split at h
  · exact Or.inl ‹_›
  · split at h
    · exact Or.inr ‹_›
    · cases h

/-- An EVENT that raises an alert is one about a door or a lock. -/
theorem eventStatus_alerts {e : HubDoorStatus} {which what state : Text}
    (h : (eventStatus e which what state).2 = true) :
    (which = "D0".toList ∨ which = "D1".toList) ∧
      (what = "DOOR".toList ∨ what = "LOCK".toList) := by
  unfold eventStatus at h
  split at h
  · split at h
    · exact ⟨Or.inl ‹_›, eventState_isSome ‹_›⟩
    · cases h
  · split at h
    · split at h
      · exact ⟨Or.inr ‹_›, eventState_isSome ‹_›⟩
      · cases h
    · cases h

/-- What a line with these tokens can output: an EVENT the alert about its door
or lock, a FEEDBACK the relay and the wake-up, a COMMAND its own line. -/
def LineOut (h : Hub) (mod type : Text) (args : List Text) (line : Text) (o : HubOut) : Prop :=
  (type = "EVENT".toList ∧ ∃ which what state, nextThree args = some (which, what, state) ∧
      (which = "D0".toList ∨ which = "D1".toList) ∧ (what = "DOOR".toList ∨ what = "LOCK".toList) ∧
      o ∈ h.triggerDiscordAlert mod what which state) ∨
    (type = "FEEDBACK".toList ∧ (o = .broadcast ∨ ∃ dest c msg, o = .relay dest mod c msg)) ∨
    (type = "COMMAND".toList ∧ ∃ dest, o = .forward dest line)

theorem LineOut.congr {h h' : Hub} (hurl : h'.webhookUrl = h.webhookUrl) {mod type line : Text}
    {args : List Text} {o : HubOut} (ho : LineOut h' mod type args line o) :
    LineOut h mod type args line o := by
  rcases ho with ⟨htype, which, what, state, hargs, hwhich, hwhat, ho⟩ | ho | ho
  · rw [triggerDiscordAlert_congr hurl] at ho
    exact Or.inl ⟨htype, which, what, state, hargs, hwhich, hwhat, ho⟩
  · exact Or.inr (Or.inl ho)
  · exact Or.inr (Or.inr ho)

theorem hubForwardCommandToModule_out {h : Hub} {m line : Text} {o : HubOut}
    (ho : o ∈ h.hubForwardCommandToModule m line) : ∃ dest, o = .forward dest line := by
  unfold hubForwardCommandToModule at ho
  split at ho
  · split at ho
    · exact ⟨_, List.mem_singleton.mp ho⟩
    · cases ho
  · cases ho

theorem dispatch_out {h : Hub} {d : Fin hubMaxDoors} {mod type : Text} {args : List Text}
    {dg : Datagram} {o : HubOut} (ho : o ∈ (h.dispatch d mod type args dg).2) :
    LineOut h mod type args dg.line o := by
  unfold dispatch at ho
  split at ho
  · cases ho
  · split at ho
    · rename_i htype
      refine Or.inl ⟨htype, ?_⟩
      unfold handleEvent at ho
      split at ho
      · rename_i which what state hargs
        dsimp only at ho
        split at ho
        · rename_i halert
          obtain ⟨hwhich, hwhat⟩ := eventStatus_alerts halert
          exact ⟨which, what, state, hargs, hwhich, hwhat, ho⟩
        · cases ho
      · cases ho
    · split at ho
      · rename_i htype
        refine Or.inr (Or.inl ⟨htype, ?_⟩)
        unfold handleFeedback at ho
        split at ho
        · dsimp only at ho
          split at ho
          · rcases List.mem_cons.mp ho with rfl | ho
            · exact Or.inr ⟨_, _, _, rfl⟩
            · exact Or.inl (List.mem_singleton.mp ho)
          · exact Or.inl (List.mem_singleton.mp ho)
        · cases ho
      · split at ho
        · rename_i htype
          refine Or.inr (Or.inr ⟨htype, ?_⟩)
          unfold handleCommand at ho
          split at ho
          · exact hubForwardCommandToModule_out ho
          · cases ho
        · cases ho

theorem handleLine_out {h : Hub} {dg : Datagram} {o : HubOut} (ho : o ∈ (h.handleLine dg).2) :
    ∃ mod type args, dg.tokens = mod :: type :: args ∧ LineOut h mod type args dg.line o := by
  unfold handleLine at ho
  split at ho
  · rename_i mod type args htok
    dsimp only at ho
    split at ho
    · rename_i h' d hc
      have hurl : (h'.noteLine d mod type dg).webhookUrl = h.webhookUrl := by
        rw [noteLine_webhookUrl, findOrCreateDoor_webhookUrl hc, noteEndpoint_webhookUrl]
      exact ⟨mod, type, args, htok, (dispatch_out ho).congr hurl⟩
    · cases ho
  · cases ho

theorem triggerDiscordAlert_out {h : Hub} {m et door state : Text} {o : HubOut}
    (ho : o ∈ h.triggerDiscordAlert m et door state) : ∃ msg, o = .alert msg := by
  unfold triggerDiscordAlert at ho
  split at ho
  · cases ho
  · exact ⟨_, List.mem_singleton.mp ho⟩

/-- Only a COMMAND is passed on. -/
theorem handleLine_forward {h : Hub} {dg : Datagram} {dest : SockAddr} {line : Text}
    (hmem : .forward dest line ∈ (h.handleLine dg).2) :
    ∃ mod args, dg.tokens = mod :: "COMMAND".toList :: args := by
  obtain ⟨mod, type, args, htok, hout⟩ := handleLine_out hmem
  rcases hout with ⟨-, _, _, _, -, -, -, ho⟩ | ⟨-, ho | ⟨_, _, _, ho⟩⟩ | ⟨rfl, -⟩
  · obtain ⟨msg, ho⟩ := triggerDiscordAlert_out ho
    cases ho
  · cases ho
  · cases ho
  · exact ⟨mod, args, htok⟩

/-- A relay is the line's own words, printed again. -/
theorem handleLine_relay_msg {h : Hub} {dg : Datagram} {dest : SockAddr} {m : Text} {c : Int}
    {msg : CBuf 256} (hmem : .relay dest m c msg ∈ (h.handleLine dg).2) :
    ∃ cs target action rest,
      dg.tokens = m :: "FEEDBACK".toList :: cs :: target :: action :: rest
        ∧ msg = snprintf 256 (feedbackLine m (atoi cs) target action) := by
  have hlines : ∀ (h : Hub) (d : Fin hubMaxDoors) (mod type : Text) (args : List Text),
      .relay dest m c msg ∈ (h.dispatch d mod type args dg).2 →
        m = mod ∧ type = "FEEDBACK".toList ∧ ∃ cs target action rest,
          args = cs :: target :: action :: rest
            ∧ msg = snprintf 256 (feedbackLine m (atoi cs) target action) := by
    intro h d mod type args hmem
    rcases dispatch_out hmem with ⟨-, _, _, _, -, -, -, ho⟩ | ⟨htype, -⟩ | ⟨-, _, ho⟩
    · obtain ⟨_, ho⟩ := triggerDiscordAlert_out ho
      cases ho
    · rw [dispatch, if_neg (by rw [htype]; decide), if_neg (by rw [htype]; decide), if_pos htype,
        handleFeedback] at hmem
      rcases args with _ | ⟨cs, _ | ⟨target, _ | ⟨action, rest⟩⟩⟩
      · cases hmem
      · cases hmem
      · cases hmem
      · simp only [nextThree] at hmem
        split at hmem
        · rcases List.mem_cons.mp hmem with heq | hmem
          · obtain ⟨-, rfl, rfl, rfl⟩ := HubOut.relay.inj heq
            exact ⟨rfl, htype, cs, target, action, rest, rfl, rfl⟩
          · cases List.mem_singleton.mp hmem
        · cases List.mem_singleton.mp hmem
    · cases ho
  unfold handleLine at hmem
  split at hmem
  · rename_i mod type args htok
    dsimp only at hmem
    split at hmem
    · obtain ⟨rfl, rfl, cs, target, action, rest, rfl, hmsg⟩ := hlines _ _ _ _ _ hmem
      exact ⟨cs, target, action, rest, htok, hmsg⟩
    · cases hmem
  · cases hmem

/-! ## The pending table -/

/-- What a datagram asks of the pending table. -/
inductive PendingOp where
  | keep
  | register (mod : Text) (cmdid : Int)
  | answer (mod : Text) (cmdid : Int)
deriving DecidableEq

/-- Module and id that a datagram has looked up. -/
def lookedUp : PendingOp → Option (Text × Int)
  | .answer m c => some (m, c)
  | _ => none

theorem lookedUp_eq_some_iff {op : PendingOp} {m : Text} {c : Int} :
    lookedUp op = some (m, c) ↔ op = .answer m c := by
  cases op with
  | keep => simp [lookedUp]
  | register m' c' => simp [lookedUp]
  | answer m' c' => simp [lookedUp]

/-- Only a COMMAND or FEEDBACK with all five words reaches the table. -/
def lineOp (mod type : Text) (args : List Text) : PendingOp :=
  match nextThree args with
  | some (cmdidS, _, _) =>
      if type = "FEEDBACK".toList then .answer mod (atoi cmdidS)
      else if type = "COMMAND".toList then .register mod (atoi cmdidS)
      else .keep
  | none => .keep

/-- And only if its module has an entry or gets one. -/
def pendingOp (h : Hub) (dg : Datagram) : PendingOp :=
  match dg.tokens with
  | mod :: type :: args =>
      if (h.findOrCreateDoor mod).isNone then .keep else lineOp mod type args
  | _ => .keep

end Hub

/-- The table after the operation, and the relay that answers it. -/
def PendingCmds.apply (p : PendingCmds) (src : SockAddr) (issued : Int) :
    Hub.PendingOp → PendingCmds × List (SockAddr × Text × Int)
  | .keep => (p, [])
  | .register mod cmdid =>
      (Function.update p p.registerSlot ⟨cmdid, src, snprintf hubModuleIdLen mod, issued⟩, [])
  | .answer mod cmdid =>
      match p.find mod cmdid with
      | some i =>
          (Function.update p i { p i with cmdid := 0 }, [((p i).clientAddr, mod, cmdid)])
      | none => (p, [])

section Apply

variable (p : PendingCmds) (src : SockAddr) (issued : Int) (m : Text) (c : Int)

theorem PendingCmds.apply_keep : p.apply src issued .keep = (p, []) := by
  unfold PendingCmds.apply
  rfl

theorem PendingCmds.apply_register : p.apply src issued (.register m c)
    = (Function.update p p.registerSlot ⟨c, src, snprintf hubModuleIdLen m, issued⟩, []) := by
  unfold PendingCmds.apply
  rfl

variable {p m c}

theorem PendingCmds.apply_answer_none (hfind : p.find m c = none) :
    p.apply src issued (.answer m c) = (p, []) := by
  unfold PendingCmds.apply
  dsimp only
  rw [hfind]

theorem PendingCmds.apply_answer_some {i : Fin hubMaxPendingCmds} (hfind : p.find m c = some i) :
    p.apply src issued (.answer m c)
      = (Function.update p i { p i with cmdid := 0 }, [((p i).clientAddr, m, c)]) := by
  unfold PendingCmds.apply
  dsimp only
  rw [hfind]

/-- What an operation does to one slot: nothing, overwrite it, or free it. -/
theorem PendingCmds.apply_slot (p : PendingCmds) (op : Hub.PendingOp)
    (i : Fin hubMaxPendingCmds) :
    (p.apply src issued op).1 i = p i ∨
      (∃ m c, op = .register m c ∧ i = p.registerSlot ∧
        (p.apply src issued op).1 i = ⟨c, src, snprintf hubModuleIdLen m, issued⟩) ∨
      ∃ m c, op = .answer m c ∧ p.find m c = some i ∧
        (p.apply src issued op).1 i = { p i with cmdid := 0 } := by
  cases op with
  | keep => exact Or.inl (by rw [PendingCmds.apply_keep])
  | register m c =>
      rw [PendingCmds.apply_register]
      by_cases hi : i = p.registerSlot
      · exact Or.inr (Or.inl ⟨m, c, rfl, hi, by rw [hi]; exact Function.update_self ..⟩)
      · exact Or.inl (Function.update_of_ne hi ..)
  | answer m c =>
      cases hfind : p.find m c with
      | none => exact Or.inl (by rw [PendingCmds.apply_answer_none _ _ hfind])
      | some j =>
          rw [PendingCmds.apply_answer_some _ _ hfind]
          by_cases hi : i = j
          · subst hi
            exact Or.inr (Or.inr ⟨m, c, rfl, hfind, Function.update_self ..⟩)
          · exact Or.inl (Function.update_of_ne hi ..)

end Apply

namespace Hub

theorem handleEvent_pending (h : Hub) (d : Fin hubMaxDoors) (mod : Text) (args : List Text)
    (t : Int) :
    (h.handleEvent d mod args t).1.pendingCmds = h.pendingCmds
      ∧ relays (h.handleEvent d mod args t).2 = [] := by
  unfold handleEvent
  cases nextThree args with
  | none => exact ⟨rfl, rfl⟩
  | some p =>
      dsimp only
      split
      · exact ⟨rfl, relays_triggerDiscordAlert ..⟩
      · exact ⟨rfl, rfl⟩

theorem handleFeedback_pending (h : Hub) (d : Fin hubMaxDoors) (mod : Text) {args : List Text}
    {cs target action : Text} (hargs : nextThree args = some (cs, target, action)) (t : Int)
    (src : SockAddr) (issued : Int) :
    ((h.handleFeedback d mod args t).1.pendingCmds, relays (h.handleFeedback d mod args t).2)
      = h.pendingCmds.apply src issued (.answer mod (atoi cs)) := by
  unfold handleFeedback PendingCmds.apply
  simp only [hargs, getAndClearClientCmd, addHistory_pendingCmds, modifyDoor_pendingCmds]
  cases h.pendingCmds.find mod (atoi cs) <;> rfl

/-- What a line asks of the table: nothing, or with all five words a lookup or
a registration. -/
theorem lineOp_cases (mod type : Text) (args : List Text) :
    lineOp mod type args = .keep ∨ ∃ cs target action rest,
      args = cs :: target :: action :: rest ∧
        (type = "FEEDBACK".toList ∧ lineOp mod type args = .answer mod (atoi cs) ∨
          type = "COMMAND".toList ∧ lineOp mod type args = .register mod (atoi cs)) := by
  rcases args with _ | ⟨cs, _ | ⟨target, _ | ⟨action, rest⟩⟩⟩
  · exact Or.inl rfl
  · exact Or.inl rfl
  · exact Or.inl rfl
  · by_cases hfb : type = "FEEDBACK".toList
    · exact Or.inr ⟨cs, target, action, rest, rfl, Or.inl ⟨hfb, if_pos hfb⟩⟩
    · have hop : lineOp mod type (cs :: target :: action :: rest)
          = if type = "COMMAND".toList then .register mod (atoi cs) else .keep := if_neg hfb
      by_cases hcmd : type = "COMMAND".toList
      · exact Or.inr ⟨cs, target, action, rest, rfl, Or.inr ⟨hcmd, hop.trans (if_pos hcmd)⟩⟩
      · exact Or.inl (hop.trans (if_neg hcmd))

theorem pendingOp_of_tokens {h : Hub} {dg : Datagram} {mod type : Text} {args : List Text}
    (htok : dg.tokens = mod :: type :: args) (hroom : (h.findOrCreateDoor mod).isSome = true) :
    h.pendingOp dg = lineOp mod type args := by
  rw [pendingOp, htok]
  exact if_neg (by rw [Option.isNone_eq_false_iff.mpr hroom]; decide)

/-- The same for a datagram, whose module must have an entry or get one. -/
theorem pendingOp_cases (h : Hub) (dg : Datagram) :
    h.pendingOp dg = .keep ∨ ∃ mod type cs target action rest,
      dg.tokens = mod :: type :: cs :: target :: action :: rest ∧
        (h.findOrCreateDoor mod).isSome = true ∧
        (type = "FEEDBACK".toList ∧ h.pendingOp dg = .answer mod (atoi cs) ∨
          type = "COMMAND".toList ∧ h.pendingOp dg = .register mod (atoi cs)) := by
  unfold pendingOp
  split
  · rename_i mod type args htok
    split
    · exact Or.inl rfl
    · rename_i hroom
      rw [Bool.not_eq_true, Option.isNone_eq_false_iff] at hroom
      rcases lineOp_cases mod type args with hkeep | ⟨cs, target, action, rest, rfl, hop⟩
      · exact Or.inl hkeep
      · exact Or.inr ⟨mod, type, cs, target, action, rest, htok, hroom, hop⟩
  · exact Or.inl rfl

/-- What it takes for a COMMAND to be registered. -/
theorem pendingOp_eq_register_iff {h : Hub} {dg : Datagram} {m : Text} {c : Int} :
    h.pendingOp dg = .register m c ↔
      (h.findOrCreateDoor m).isSome = true ∧ ∃ cs target action rest,
        dg.tokens = m :: "COMMAND".toList :: cs :: target :: action :: rest ∧ atoi cs = c := by
  constructor
  · intro hop
    rcases h.pendingOp_cases dg with
      hkeep | ⟨mod, type, cs, target, action, rest, htok, hroom, ⟨-, heq⟩ | ⟨rfl, heq⟩⟩
    · rw [hop] at hkeep
      cases hkeep
    · rw [hop] at heq
      cases heq
    · obtain ⟨rfl, rfl⟩ := PendingOp.register.inj (hop.symm.trans heq)
      exact ⟨hroom, cs, target, action, rest, htok, rfl⟩
  · rintro ⟨hroom, cs, target, action, rest, htok, rfl⟩
    exact (pendingOp_of_tokens htok hroom).trans rfl

/-- And for a FEEDBACK to be looked up. -/
theorem pendingOp_eq_answer_iff {h : Hub} {dg : Datagram} {m : Text} {c : Int} :
    h.pendingOp dg = .answer m c ↔
      (h.findOrCreateDoor m).isSome = true ∧ ∃ cs target action rest,
        dg.tokens = m :: "FEEDBACK".toList :: cs :: target :: action :: rest ∧ atoi cs = c := by
  constructor
  · intro hop
    rcases h.pendingOp_cases dg with
      hkeep | ⟨mod, type, cs, target, action, rest, htok, hroom, ⟨rfl, heq⟩ | ⟨-, heq⟩⟩
    · rw [hop] at hkeep
      cases hkeep
    · obtain ⟨rfl, rfl⟩ := PendingOp.answer.inj (hop.symm.trans heq)
      exact ⟨hroom, cs, target, action, rest, htok, rfl⟩
    · rw [hop] at heq
      cases heq
  · rintro ⟨hroom, cs, target, action, rest, htok, rfl⟩
    exact (pendingOp_of_tokens htok hroom).trans rfl

theorem dispatch_pending (h : Hub) (d : Fin hubMaxDoors) (mod type : Text) (args : List Text)
    (dg : Datagram) :
    ((h.dispatch d mod type args dg).1.pendingCmds, relays (h.dispatch d mod type args dg).2)
      = h.pendingCmds.apply dg.src dg.issued (lineOp mod type args) := by
  have hkeep : type ≠ "FEEDBACK".toList → type ≠ "COMMAND".toList →
      lineOp mod type args = .keep := by
    intro hfb hcmd
    rw [lineOp]
    cases nextThree args with
    | none => rfl
    | some p => exact (if_neg hfb).trans (if_neg hcmd)
  unfold dispatch
  split
  · rename_i htype
    subst htype
    rw [hkeep (by decide) (by decide)]
    rfl
  · split
    · rename_i htype
      subst htype
      obtain ⟨hp, hrel⟩ := h.handleEvent_pending d mod args dg.t
      rw [hkeep (by decide) (by decide), hp, hrel]
      rfl
    · split
      · rename_i htype
        subst htype
        cases hargs : nextThree args with
        | none =>
            simp only [handleFeedback, lineOp, hargs]
            rfl
        | some p =>
            obtain ⟨cs, target, action⟩ := p
            rw [h.handleFeedback_pending d mod hargs dg.t dg.src dg.issued, lineOp, hargs]
            rfl
      · split
        · rename_i htype
          subst htype
          unfold handleCommand
          cases hargs : nextThree args with
          | none =>
              rw [lineOp, hargs]
              rfl
          | some p =>
              obtain ⟨cs, target, action⟩ := p
              rw [lineOp, hargs]
              dsimp only
              rw [relays_forward]
              rfl
        · rename_i hfb hcmd
          rw [hkeep hfb hcmd]
          rfl

/-- The whole effect on the pending table, and the relays. -/
theorem handleLine_pending (h : Hub) (dg : Datagram) :
    ((h.handleLine dg).1.pendingCmds, relays (h.handleLine dg).2)
      = h.pendingCmds.apply dg.src dg.issued (h.pendingOp dg) := by
  rw [pendingOp]
  cases htok : dg.tokens with
  | nil =>
      simp only [handleLine, htok]
      rfl
  | cons mod rest =>
      cases rest with
      | nil =>
          simp only [handleLine, htok]
          rfl
      | cons type args =>
          have hsame := findOrCreateDoor_isNone_congr (h.noteEndpoint_doors mod type dg.src) mod
          dsimp only
          cases hc : (h.noteEndpoint mod type dg.src).findOrCreateDoor mod with
          | none =>
              rw [hc] at hsame
              simp only [handleLine, htok, hc, ← hsame, addHistory_pendingCmds,
                noteEndpoint_pendingCmds]
              rfl
          | some p =>
              obtain ⟨h', d⟩ := p
              rw [hc] at hsame
              simp only [handleLine, htok, hc, ← hsame]
              rw [dispatch_pending, noteLine_pendingCmds, findOrCreateDoor_pendingCmds hc,
                noteEndpoint_pendingCmds]
              rfl

theorem handleLine_pendingCmds (h : Hub) (dg : Datagram) :
    (h.handleLine dg).1.pendingCmds
      = (h.pendingCmds.apply dg.src dg.issued (h.pendingOp dg)).1 :=
  congrArg Prod.fst (h.handleLine_pending dg)

theorem handleLine_relays (h : Hub) (dg : Datagram) :
    relays (h.handleLine dg).2
      = (h.pendingCmds.apply dg.src dg.issued (h.pendingOp dg)).2 :=
  congrArg Prod.snd (h.handleLine_pending dg)

/-- A relay answers a FEEDBACK, and goes to the address of the slot found. -/
theorem handleLine_relay {h : Hub} {dg : Datagram} {k : SockAddr × Text × Int}
    (hk : k ∈ relays (h.handleLine dg).2) :
    h.pendingOp dg = .answer k.2.1 k.2.2 ∧
      ∃ i, h.pendingCmds.find k.2.1 k.2.2 = some i ∧ k.1 = (h.pendingCmds i).clientAddr := by
  rw [h.handleLine_relays dg] at hk
  cases hop : h.pendingOp dg with
  | keep =>
      rw [hop, PendingCmds.apply_keep] at hk
      cases hk
  | register m c =>
      rw [hop, PendingCmds.apply_register] at hk
      cases hk
  | answer m c =>
      cases hfind : h.pendingCmds.find m c with
      | none =>
          rw [hop, PendingCmds.apply_answer_none _ _ hfind] at hk
          cases hk
      | some i =>
          rw [hop, PendingCmds.apply_answer_some _ _ hfind, List.mem_singleton] at hk
          rw [hk]
          exact ⟨rfl, i, hfind, rfl⟩

/-- The module and type of a datagram that reaches the pending table. -/
theorem pendingOp_answer_tokens {h : Hub} {dg : Datagram} {m : Text} {c : Int}
    (hop : h.pendingOp dg = .answer m c) :
    ∃ args, dg.tokens = m :: "FEEDBACK".toList :: args := by
  obtain ⟨-, cs, target, action, rest, htok, -⟩ := pendingOp_eq_answer_iff.mp hop
  exact ⟨_, htok⟩

theorem pendingOp_register_tokens {h : Hub} {dg : Datagram} {m : Text} {c : Int}
    (hop : h.pendingOp dg = .register m c) :
    ∃ args, dg.tokens = m :: "COMMAND".toList :: args := by
  obtain ⟨-, cs, target, action, rest, htok, -⟩ := pendingOp_eq_register_iff.mp hop
  exact ⟨_, htok⟩

/-! ## The offline check -/

/-- `check_offline_modules` writes `offline` and `last_online_ms` only, and
raises alerts only. -/
structure OfflineFrame (h h' : Hub) : Prop where
  doors : ∀ i, ∃ off ms, h'.doors i = { h.doors i with offline := off, lastOnlineMs := ms }
  pendingCmds : h'.pendingCmds = h.pendingCmds
  endpoints : h'.endpoints = h.endpoints
  nextCmdid : h'.nextCmdid = h.nextCmdid

theorem OfflineFrame.refl (h : Hub) : OfflineFrame h h :=
  ⟨fun i => ⟨(h.doors i).offline, (h.doors i).lastOnlineMs, rfl⟩, rfl, rfl, rfl⟩

theorem OfflineFrame.trans {h₁ h₂ h₃ : Hub} (h12 : OfflineFrame h₁ h₂)
    (h23 : OfflineFrame h₂ h₃) : OfflineFrame h₁ h₃ := by
  refine ⟨fun i => ?_, h23.pendingCmds.trans h12.pendingCmds,
    h23.endpoints.trans h12.endpoints, h23.nextCmdid.trans h12.nextCmdid⟩
  obtain ⟨off, ms, h2⟩ := h12.doors i
  obtain ⟨off', ms', h3⟩ := h23.doors i
  exact ⟨off', ms', by rw [h3, h2]⟩

theorem offlineFrame_modifyDoor (h : Hub) (i : Fin hubMaxDoors) (off : Bool) (ms : Int)
    (m line : Text) (now : Int) :
    OfflineFrame h ((h.modifyDoor i fun e =>
      { e with offline := off, lastOnlineMs := ms }).addHistory m line now) := by
  refine ⟨fun j => ?_, rfl, rfl, rfl⟩
  by_cases hj : j = i
  · subst hj
    exact ⟨off, ms, by simp⟩
  · exact ⟨(h.doors j).offline, (h.doors j).lastOnlineMs, by simp [hj]⟩

theorem checkOfflineDoor_frame (now : Int) (s : Hub × List HubOut) (i : Fin hubMaxDoors)
    (hs : relays s.2 = []) :
    OfflineFrame s.1 (checkOfflineDoor now s i).1
      ∧ relays (checkOfflineDoor now s i).2 = [] := by
  obtain ⟨h, outs⟩ := s
  have halert : ∀ (h' : Hub) (m et door state : Text),
      relays (outs ++ h'.triggerDiscordAlert m et door state) = [] := by
    intro h' m et door state
    rw [relays, List.filterMap_append]
    exact List.append_eq_nil_iff.mpr ⟨hs, relays_triggerDiscordAlert ..⟩
  unfold checkOfflineDoor
  dsimp only
  split
  · exact ⟨.refl h, hs⟩
  · split
    · exact ⟨offlineFrame_modifyDoor .., halert ..⟩
    · split
      · exact ⟨offlineFrame_modifyDoor h i false (h.doors i).lastOnlineMs .., halert ..⟩
      · exact ⟨.refl h, hs⟩

theorem checkOfflineModules_frame (h : Hub) (now : Int) :
    OfflineFrame h (h.checkOfflineModules now).1
      ∧ relays (h.checkOfflineModules now).2 = [] := by
  have hfold : ∀ (is : List (Fin hubMaxDoors)) (s : Hub × List HubOut), relays s.2 = [] →
      OfflineFrame s.1 (is.foldl (checkOfflineDoor now) s).1
        ∧ relays (is.foldl (checkOfflineDoor now) s).2 = [] := by
    intro is
    induction is with
    | nil => exact fun s hs => ⟨.refl _, hs⟩
    | cons i is ih =>
        intro s hs
        obtain ⟨hstep, hrel⟩ := checkOfflineDoor_frame now s i hs
        obtain ⟨hrest, hrel'⟩ := ih _ hrel
        exact ⟨hstep.trans hrest, hrel'⟩
  exact hfold _ (h, []) rfl

theorem OfflineFrame.findDoor {h h' : Hub} (hf : OfflineFrame h h') (m : Text) :
    h'.findDoor m = h.findDoor m := by
  refine findDoor_congr (fun i => ?_) m
  obtain ⟨off, ms, heq⟩ := hf.doors i
  rw [heq]
  exact ⟨rfl, rfl⟩

/-! ## Runs of the hub -/

/-- What the receiver thread reacts to. -/
inductive Input where
  | datagram (dg : Datagram)
  | check (now : Int)

def input (h : Hub) : Input → Hub × List HubOut
  | .datagram dg => h.handleLine dg
  | .check now => h.checkOfflineModules now

def step (h : Hub) (i : Input) : Option Hub := some (h.input i).1

theorem OfflineFrame.tracks {h h' : Hub} (hf : OfflineFrame h h') {d : Fin hubMaxDoors}
    {m : Text} (ht : h.Tracks d m) : h'.Tracks d m := by
  obtain ⟨off, ms, heq⟩ := hf.doors d
  rw [Tracks, heq]
  exact ht

/-- A tracked module stays tracked, in the same entry, for the rest of the run. -/
theorem tracks_run {h h' : Hub} {is : List Input} {d : Fin hubMaxDoors} {m : Text}
    (ht : h.Tracks d m) (hr : Lts.run step h is = some h') : h'.Tracks d m := by
  have hstep : ∀ (h : Hub) (i : Input) (h' : Hub), h.Tracks d m → step h i = some h' →
      h'.Tracks d m := by
    intro h i h' ht hs
    obtain rfl := Option.some.inj hs
    cases i with
    | datagram dg => exact handleLine_tracks dg ht
    | check now => exact (checkOfflineModules_frame h now).1.tracks ht
  exact Lts.inv_run_of_step hstep ht hr

end Hub

end HomeSecurity
