import HomeSecurity.DoorMod
import HomeSecurity.DoorServer
import HomeSecurity.Endpoints
import HomeSecurity.HubReports

/-!
# A command and its answer

One command through the whole chain: the line that `sendCommand` builds, the
hub's copy of it at the module's endpoint, the call of the handler, its FEEDBACK,
the relay, and what the web server's parser makes of that. The FEEDBACK line is
one byte longer than the COMMAND line, so when that is 255 bytes long both
256-byte buffers lose the newline of the answer, and nothing else
(`commandRoundTrip`).
-/

namespace HomeSecurity

open CText JsText

/-! ## The parser of the web server -/

section Parser

variable {m target action : Text} (hm : IsGraphic m) (htarget : IsGraphic target)
  (haction : IsGraphic action)

include hm htarget haction

/-- The five words of a FEEDBACK, with or without its newline. -/
theorem feedbackMessage_numbered {c : Int} (hc : 0 ≤ c) {tail : Text}
    (htail : ∀ x ∈ tail, isSpace x = true) :
    feedbackMessage (numbered m "FEEDBACK".toList c target action ++ tail)
      = some ⟨m, some c, target, action, numbered m "FEEDBACK".toList c target action⟩ := by
  have hkw : IsGraphic "FEEDBACK".toList := .of_all (by decide) (by decide)
  have hspace : isSpace ' ' = true := by decide
  have hsplit : numbered m "FEEDBACK".toList c target action
      = m ++ ((' ' :: ("FEEDBACK".toList ++ ' ' :: (decimal c ++ ' ' :: (target ++ [' ']))))
        ++ action) := by
    simp [numbered]
  have htrim : trim (numbered m "FEEDBACK".toList c target action ++ tail)
      = numbered m "FEEDBACK".toList c target action := by
    rw [hsplit]
    exact trim_words (isWord_of_graphic hm) (isWord_of_graphic haction) htail
  have hwords : words (numbered m "FEEDBACK".toList c target action)
      = [m, "FEEDBACK".toList, decimal c, target, action] :=
    strtok_numbered hspace (isWord_of_graphic hm) (isWord_of_graphic hkw)
      (isWord_decimal (fun _ => isSpace_of_digit) (by decide) c) (isWord_of_graphic htarget)
      (isWord_of_graphic haction)
  have hjoin : joinSpace [action] = action := by
    simp [joinSpace]
  rw [feedbackMessage, htrim, hwords]
  dsimp only
  rw [if_pos rfl, parseInt_decimal hc, hjoin]

/-- What the hub relays of a FEEDBACK whose words fit its buffer. -/
theorem feedbackMessage_relay {c : Int} (hc : 0 ≤ c)
    (hfits : (numbered m "FEEDBACK".toList c target action).length ≤ 255) :
    feedbackMessage (snprintf 256 (feedbackLine m c target action)).text
      = some ⟨m, some c, target, action, numbered m "FEEDBACK".toList c target action⟩ := by
  have hclip : (snprintf 256 (feedbackLine m c target action)).text
      = numbered m "FEEDBACK".toList c target action
        ++ ['\n'].take (255 - (numbered m "FEEDBACK".toList c target action).length) := by
    show (feedbackLine m c target action).take 255 = _
    rw [feedbackLine_eq, List.take_append, List.take_of_length_le hfits]
  rw [hclip]
  refine feedbackMessage_numbered hm htarget haction hc fun x hx => ?_
  rw [List.mem_singleton.mp (List.mem_of_mem_take hx)]
  decide

end Parser

/-! ## The hub's part -/

namespace Hub

section Lines

variable {h : Hub} {dg : Datagram} {mod cs target action : Text} {rest : List Text}
  {d : Fin hubMaxDoors}

/-- A COMMAND goes to the module's endpoint as it came. -/
theorem handleLine_command_out
    (htok : dg.tokens = mod :: "COMMAND".toList :: cs :: target :: action :: rest)
    (hd : h.findDoor mod = some d) :
    (h.handleLine dg).2 = ((h.endpointAddr mod).map fun a => HubOut.forward a dg.line).toList := by
  have hnote : h.noteEndpoint mod "COMMAND".toList dg.src = h := if_pos rfl
  simp only [handleLine, htok, hnote, findOrCreateDoor_of_find hd]
  exact hubForwardCommandToModule_eq ..

/-- A FEEDBACK that finds a pending entry is relayed to its address. -/
theorem handleLine_feedback_out
    (htok : dg.tokens = mod :: "FEEDBACK".toList :: cs :: target :: action :: rest)
    (hd : h.findDoor mod = some d) {i : Fin hubMaxPendingCmds}
    (hfind : h.pendingCmds.find mod (atoi cs) = some i) :
    (h.handleLine dg).2
      = [.relay (h.pendingCmds i).clientAddr mod (atoi cs)
          (snprintf 256 (feedbackLine mod (atoi cs) target action)), .broadcast] := by
  have hd' : (h.noteEndpoint mod "FEEDBACK".toList dg.src).findDoor mod = some d := by
    rw [noteEndpoint_findDoor, hd]
  have hdispatch : ∀ h' : Hub, h'.pendingCmds = h.pendingCmds →
      (h'.dispatch d mod "FEEDBACK".toList (cs :: target :: action :: rest) dg).2
        = [.relay (h.pendingCmds i).clientAddr mod (atoi cs)
            (snprintf 256 (feedbackLine mod (atoi cs) target action)), .broadcast] := by
    intro h' hp
    rw [dispatch, if_neg (by decide), if_neg (by decide), if_pos rfl]
    simp only [handleFeedback, nextThree, getAndClearClientCmd, addHistory_pendingCmds,
      modifyDoor_pendingCmds, hp, hfind, Option.map_some]
  simp only [handleLine, htok, findOrCreateDoor_of_find hd']
  exact hdispatch _ (by simp)

end Lines

section Delivered

variable {h : Hub} {m target action : Text} {c : Int} {d : Fin hubMaxDoors} (hm : IsToken m)
  (htarget : IsToken target) (haction : IsToken action) (hlo : -(2 ^ 31) ≤ c) (hhi : c < 2 ^ 31)
  (hfits : (commandLine m c target action).length ≤ 255) (hd : h.findDoor m = some d)

include hm htarget haction hlo hhi hfits hd

/-- A COMMAND that fits, at the hub: passed on whole, and registered. -/
theorem handleLine_commandLine (src : SockAddr) (t issued : Int) :
    (h.handleLine ⟨src, commandLine m c target action, t, issued⟩).2
        = ((h.endpointAddr m).map fun a =>
            HubOut.forward a (commandLine m c target action)).toList ∧
      (h.handleLine ⟨src, commandLine m c target action, t, issued⟩).1.pendingCmds
        = Function.update h.pendingCmds h.pendingCmds.registerSlot
            ⟨c, src, snprintf hubModuleIdLen m, issued⟩ := by
  have htok : Datagram.tokens ⟨src, commandLine m c target action, t, issued⟩
      = m :: "COMMAND".toList :: decimal c :: target :: action :: [] :=
    wireTokens_commandLine hm htarget haction hfits
  have hline : Datagram.line ⟨src, commandLine m c target action, t, issued⟩
      = commandLine m c target action := cstr_commandLine hm htarget haction hfits
  have hop : h.pendingOp ⟨src, commandLine m c target action, t, issued⟩ = .register m c := by
    refine pendingOp_eq_register_iff.mpr
      ⟨?_, decimal c, target, action, [], htok, atoi_decimal hlo hhi⟩
    rw [findOrCreateDoor_of_find hd]
    rfl
  constructor
  · rw [handleLine_command_out htok hd, hline]
  · rw [handleLine_pendingCmds, hop, PendingCmds.apply_register]

/-- The FEEDBACK for it: relayed to the address of the entry found, which is freed. -/
theorem handleLine_feedbackLine {i : Fin hubMaxPendingCmds}
    (hfind : h.pendingCmds.find m c = some i) (src : SockAddr) (t issued : Int) :
    (h.handleLine ⟨src, (snprintf 256 (feedbackLine m c target action)).text, t, issued⟩).2
        = [.relay (h.pendingCmds i).clientAddr m c (snprintf 256 (feedbackLine m c target action)),
            .broadcast] ∧
      (h.handleLine ⟨src, (snprintf 256 (feedbackLine m c target action)).text, t,
          issued⟩).1.pendingCmds
        = Function.update h.pendingCmds i { h.pendingCmds i with cmdid := 0 } := by
  have htok : Datagram.tokens ⟨src, (snprintf 256 (feedbackLine m c target action)).text, t, issued⟩
      = m :: "FEEDBACK".toList :: decimal c :: target :: action :: [] := by
    rw [Datagram.tokens_eq, wireTokens_snprintf,
      (wireTokens_feedbackLine hm htarget haction hfits).2]
  have hread : atoi (decimal c) = c := atoi_decimal hlo hhi
  have hop : h.pendingOp ⟨src, (snprintf 256 (feedbackLine m c target action)).text, t, issued⟩
      = .answer m c := by
    refine pendingOp_eq_answer_iff.mpr ⟨?_, decimal c, target, action, [], htok, hread⟩
    rw [findOrCreateDoor_of_find hd]
    rfl
  constructor
  · rw [handleLine_feedback_out htok hd (by rw [hread]; exact hfind), hread]
  · rw [handleLine_pendingCmds, hop, PendingCmds.apply_answer_some _ _ hfind]

end Delivered

/-- Reports do not touch the pending table. -/
theorem pendingOp_report {h : Hub} {dg : Datagram} {mod : Text} {r : Report}
    (htok : dg.tokens = mod :: r.type :: r.args) : h.pendingOp dg = .keep := by
  rcases h.pendingOp_cases dg with
    hkeep | ⟨mod', type, cs, target, action, rest, htok', -, ⟨htype, -⟩ | ⟨htype, -⟩⟩
  · exact hkeep
  · rw [htok] at htok'
    obtain ⟨-, htype'⟩ := List.cons.inj htok'
    exact absurd ((List.cons.inj htype').1.trans htype) r.type_ne_feedback
  · rw [htok] at htok'
    obtain ⟨-, htype'⟩ := List.cons.inj htok'
    exact absurd ((List.cons.inj htype').1.trans htype) r.type_ne_command

/-- Nor do the offline checks. -/
theorem pendingCmds_run {h h' : Hub} {is : List Input}
    (hkeep : ∀ dg, .datagram dg ∈ is → ∀ k : Hub, k.pendingOp dg = .keep)
    (hr : Lts.run step h is = some h') : h'.pendingCmds = h.pendingCmds := by
  have hstep : ∀ (k : Hub) (i : Input) (k' : Hub), k.pendingCmds = h.pendingCmds →
      (∀ dg, i = .datagram dg → k.pendingOp dg = .keep) → step k i = some k' →
      k'.pendingCmds = h.pendingCmds := by
    intro k i k' hk hP hs
    obtain rfl := Option.some.inj hs
    cases i with
    | check now => exact (k.checkOfflineModules_frame now).1.pendingCmds.trans hk
    | datagram dg =>
        show (k.handleLine dg).1.pendingCmds = _
        rw [k.handleLine_pendingCmds dg, hP dg rfl, PendingCmds.apply_keep]
        exact hk
  refine Lts.inv_run hstep rfl (Lts.along_of_forall_mem (fun i hi k dg hdg => ?_) h) hr
  subst hdg
  exact hkeep dg hi k

end Hub

/-- The only entry of `(m, c)`, and the table without it. -/
theorem PendingCmds.registered {p : PendingCmds} {m : Text} {c : Int} (hc : 1 ≤ c)
    (hm : m.length < hubModuleIdLen) (hfree : ∀ i, ¬p.Pends i m c) (k : Fin hubMaxPendingCmds)
    (src : SockAddr) (issued : Int) :
    let q := Function.update p k ⟨c, src, snprintf hubModuleIdLen m, issued⟩
    PendingCmds.find q m c = some k ∧
      ∀ i, ¬PendingCmds.Pends (Function.update q k { q k with cmdid := 0 }) i m c := by
  intro q
  have hother : ∀ i, i ≠ k → q i = p i := fun i hi => Function.update_of_ne hi ..
  have hself : q k = ⟨c, src, snprintf hubModuleIdLen m, issued⟩ := Function.update_self ..
  refine ⟨PendingCmds.find_eq_some_iff.mpr ⟨?_, fun j hj hpend => ?_⟩, fun i hpend => ?_⟩
  · rw [PendingCmds.Pends, hself]
    exact ⟨rfl, snprintf_text hm⟩
  · rw [PendingCmds.Pends, hother j (ne_of_lt hj)] at hpend
    exact hfree j hpend
  · by_cases hi : i = k
    · -- the freed entry has the id 0
      rw [hi, PendingCmds.Pends, Function.update_self] at hpend
      have hzero : (0 : Int) = c := hpend.1
      omega
    · rw [PendingCmds.Pends, Function.update_of_ne hi, hother i hi] at hpend
      exact hfree i hpend

/-! ## The door's part -/

namespace DoorMod

/-- Any command but STATUS is answered in its own words. -/
theorem appCommandHandler_sends {s : DoorMod} {cmd : DoorUdp.CmdCall} {env : Env}
    (hsock : s.udp.sockOpen = true) (hstatus : cmd.action ≠ "STATUS".toList) :
    (s.appCommandHandler cmd env).feedbackSends
      = [⟨.notif, snprintf 256 (feedbackLine cmd.module cmd.cmdid cmd.target cmd.action)⟩] := by
  have haction : outAction cmd.action (s.handlerCall cmd.action env).door = cmd.action :=
    if_neg hstatus
  have hopen : (s.handlerCall cmd.action env).mod.udp.sockOpen = true := by
    rw [handlerCall_sockOpen, hsock]
  simp only [appCommandHandler, haction, DoorUdp.doorUdpSendFeedback, DoorUdp.sendLineNotif, hopen,
    if_true]

/-- What it sends before that is reports. -/
theorem appCommandHandler_reports {s : DoorMod} {cmd : DoorUdp.CmdCall} {env : Env}
    (hm : IsModuleId s.udp.moduleId.text) :
    ∀ send ∈ (s.appCommandHandler cmd env).call.sends, ∃ r : Report,
      wireTokens send.line.text = s.udp.moduleId.text :: r.type :: r.args := by
  intro send hsend
  obtain ⟨r, hline⟩ := (s.handlerCall_updated cmd.action env).lines send hsend
  exact ⟨r, by rw [hline, DoorUdp.reportBuf, wireTokens_reportBuf hm]⟩

end DoorMod

/-! ## The round trip -/

/-- The round trip of a command: from the web server to the module's handler and
back, for every hub that tracks the module, knows its endpoint and has no such
command pending. Between the COMMAND and its FEEDBACK the hub may handle what else
the handler sends, in any order and number, and check for offline modules. -/
theorem commandRoundTrip {m target action : Text} {c : Int} (hm : IsGraphic m)
    (hshort : m.length ≤ 15) (htarget : IsGraphic target) (haction : IsGraphic action)
    (hstatus : action ≠ "STATUS".toList) (hlo : 1 ≤ c) (hhi : c < 2 ^ 31)
    (hfits : (commandLine m c target action).length ≤ 255)
    {web : DoorServer} (hcount : web.cmdCounter = c) (requestor : Requestor)
    {h : Hub} {dest : SockAddr} (htracks : ∃ d, h.Tracks d m)
    (hdest : h.endpointAddr m = some dest) (hfree : ∀ i, ¬h.pendingCmds.Pends i m c)
    {door : DoorMod} (hid : door.udp.moduleId.text = m) (hsock : door.udp.sockOpen = true)
    (hhandler : door.udp.hasCmdHandler = true) (env : Env) (client : SockAddr) (t issued : Int) :
    let line := commandLine m c target action
    let sent := h.handleLine ⟨client, line, t, issued⟩
    let handled := door.appCommandHandler ⟨m, c, target, action⟩ env
    (web.sendCommand m target action requestor).2 = [.datagram line] ∧
      sent.2 = [.forward dest line] ∧
      door.udp.doorCmdThread line = (some ⟨m, c, target, action⟩, []) ∧
      ∃ feedback, handled.feedbackSends = [feedback] ∧
        ∀ is h', (∀ dg, .datagram dg ∈ is →
            ∃ send ∈ handled.call.sends, dg.bytes = send.line.text) →
          Lts.run Hub.step sent.1 is = some h' →
          ∀ src t' issued', ∃ msg raw,
            (h'.handleLine ⟨src, feedback.line.text, t', issued'⟩).2
                = [.relay client m c msg, .broadcast] ∧
              (∀ i, ¬(h'.handleLine ⟨src, feedback.line.text, t', issued'⟩).1.pendingCmds.Pends i
                m c) ∧
              feedbackMessage msg.text = some ⟨m, some c, target, action, raw⟩ := by
  intro line sent handled
  have hmod : IsModuleId m := ⟨isToken_of_graphic hm, Nat.lt_succ_of_le hshort⟩
  have ht := isToken_of_graphic htarget
  have ha := isToken_of_graphic haction
  have hlo' : -(2 ^ 31) ≤ c := by omega
  obtain ⟨d₀, hd₀⟩ := htracks
  obtain ⟨d, hd⟩ := Hub.findDoor_of_tracks hd₀
  obtain ⟨hout, hpending⟩ :=
    Hub.handleLine_commandLine hmod.toIsToken ht ha hlo' hhi hfits hd client t issued
  rw [hdest] at hout
  have hown : IsModuleId door.udp.moduleId.text := hid ▸ hmod
  have hcall : (door.udp.doorCmdThread line).1 = some ⟨m, c, target, action⟩ := by
    have hback := DoorUdp.doorCmdThread_commandLine hhandler hown.toIsToken ht ha hlo' hhi
      (by rw [hid]; exact hfits)
    rw [hid] at hback
    exact hback
  refine ⟨?_, hout, DoorUdp.doorCmdThread_of_call hcall, _,
    DoorMod.appCommandHandler_sends hsock hstatus, ?_⟩
  · simp [DoorServer.sendCommand, orElse, hm.ne_nil, htarget.ne_nil, hcount, line]
  intro is h' hdgs hr src t' issued'
  -- the entry is still there when the FEEDBACK comes
  have hkeep : ∀ dg, .datagram dg ∈ is → ∀ k : Hub, k.pendingOp dg = .keep := by
    intro dg hdg k
    obtain ⟨send, hsend, hbytes⟩ := hdgs dg hdg
    obtain ⟨r, hwords⟩ := DoorMod.appCommandHandler_reports hown send hsend
    rw [← hbytes] at hwords
    exact Hub.pendingOp_report hwords
  have hsame := (Hub.pendingCmds_run hkeep hr).trans hpending
  obtain ⟨hfind, hgone⟩ := PendingCmds.registered hlo hmod.short hfree
    h.pendingCmds.registerSlot client issued
  rw [← hsame] at hfind hgone
  have haddr : (h'.pendingCmds h.pendingCmds.registerSlot).clientAddr = client := by
    rw [hsame, Function.update_self]
  obtain ⟨d', hd'⟩ := Hub.findDoor_of_tracks (Hub.tracks_run (Hub.handleLine_tracks _ hd₀) hr)
  obtain ⟨hrelay, hfreed⟩ :=
    Hub.handleLine_feedbackLine hmod.toIsToken ht ha hlo' hhi hfits hd' hfind src t' issued'
  have hwords := (wireTokens_feedbackLine hmod.toIsToken ht ha hfits).1
  refine ⟨_, _, ?_, fun i => ?_, feedbackMessage_relay hm htarget haction (by omega) hwords⟩
  · rw [hrelay, haddr]
  · rw [hfreed]
    exact hgone i

/-- Command 1 of a web server, LOCK, for the door of a hub that has heard its HELLO. -/
theorem commandRoundTrip_lock :
    let line := commandLine "D1".toList 1 "D0".toList "LOCK".toList
    let sent := Hub.greeted.handleLine ⟨⟨9, 50000⟩, line, 20, 20⟩
    sent.2 = [.forward ⟨1, 40000⟩ line] ∧
      ∃ msg raw, (sent.1.handleLine ⟨⟨1, 40000⟩, (snprintf 256
          (feedbackLine "D1".toList 1 "D0".toList "LOCK".toList)).text, 30, 30⟩).2
          = [.relay ⟨9, 50000⟩ "D1".toList 1 msg, .broadcast] ∧
        feedbackMessage msg.text
          = some ⟨"D1".toList, some 1, "D0".toList, "LOCK".toList, raw⟩ := by
  have hdest : Hub.greeted.endpointAddr "D1".toList = some ⟨1, 40000⟩ := by decide +kernel
  have hfree : ∀ i, ¬Hub.greeted.pendingCmds.Pends i "D1".toList 1 := by decide +kernel
  have hfits : (commandLine "D1".toList 1 "D0".toList "LOCK".toList).length ≤ 255 := by decide
  have hgraph : ∀ s ∈ ["D1".toList, "D0".toList, "LOCK".toList], s ≠ [] ∧ s.all isgraph = true := by
    decide
  have hword : ∀ s ∈ ["D1".toList, "D0".toList, "LOCK".toList], IsGraphic s :=
    fun s hs => .of_all (hgraph s hs).1 (hgraph s hs).2
  have hcount : DoorServer.init.cmdCounter = 1 := rfl
  have hid : ((DoorMod.initial 0).doorReportingStart "D1".toList 1000 0 0 true).1.udp.moduleId.text
      = "D1".toList := rfl
  obtain ⟨-, hout, -, feedback, hfeedback, hrest⟩ := commandRoundTrip
    (hword "D1".toList (by simp)) (by decide) (hword "D0".toList (by simp))
    (hword "LOCK".toList (by simp)) (by decide) (by decide) (by decide) hfits hcount .client
    ⟨0, Hub.greeted_tracks⟩ hdest hfree hid rfl rfl ⟨[], 5, 5, fun _ _ => true, 10, 10⟩
    ⟨9, 50000⟩ 20 20
  rw [DoorMod.appCommandHandler_sends rfl (by decide)] at hfeedback
  obtain rfl := List.singleton_inj.mp hfeedback
  obtain ⟨msg, raw, hrelay, -, hdecoded⟩ := hrest [] _ nofun rfl ⟨1, 40000⟩ 30 30
  exact ⟨hout, msg, raw, hrelay, hdecoded⟩

end HomeSecurity
