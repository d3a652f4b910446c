import HomeSecurity.HouseServes
import HomeSecurity.RoundTrip
import HomeSecurity.StatusReport

/-!
# A command and its answer across the house

A command of a page takes two datagrams to its door, and the answer two back to the web
server, which tells the pages. Whatever happened to the house before, one that is not lost
gets there: `statusTrip` for what the pages show, `toggleTrip` for a click on a button.
-/

namespace HomeSecurity

open CText JsText StepperMotor

namespace House

attribute [local instance] neZeroDoors

variable {κ : Type} [DecidableEq κ] {cfg : HouseConfig} {k : Known} {i : Fin 3}

/-! ## The five steps of a command -/

/-- The COMMAND of a page. -/
def command (i : Fin 3) (c : Int) (action : Text) : Text :=
  commandLine (doorId i) c "D0".toList action

/-- The FEEDBACK that answers it. -/
def answer (i : Fin 3) (c : Int) (action : Text) : Text :=
  (snprintf 256 (feedbackLine (doorId i) c "D0".toList action)).text

/-- The action of the answer. -/
def answerAction (s : DoorMod) (action : Text) (env : Env) : Text :=
  DoorMod.outAction action (s.handlerCall action env).door

/-- A row after the two messages of an answer. -/
def told (r : DoorRow) (i : Fin 3) (action : Text) : DoorRow :=
  (r.hear (.doorFeedback (doorId i) (formattedAction action))).hear
    (.commandFeedback (doorId i) action)

section Steps

variable {action : Text} {c : Int}

theorem length_doorId (i : Fin 3) : (doorId i).length = 2 := by
  have hall : ∀ i, (doorId i).length = 2 := by decide
  exact hall i

theorem length_command (hlo : 1 ≤ c) (hhi : c < 2 ^ 31) (haction : action.length ≤ 31) :
    (command i c action).length ≤ 255 := by
  have hdigits : (decimal c).length ≤ 11 := length_decimal (k := 9) (by omega)
  have hD0 : "D0".toList.length = 2 := rfl
  rw [command, length_commandLine, length_doorId, hD0]
  omega

theorem length_commandWord (haction : action ∈ commandWords) : action.length ≤ 31 := by
  have hall : ∀ w ∈ commandWords, w.length ≤ 31 := by decide
  exact hall action haction

/-- The answer's word is short and printable. -/
theorem answerAction_word (s : DoorMod) (haction : action ∈ commandWords) (env : Env) :
    (answerAction s action env).length ≤ 31 ∧ IsGraphic (answerAction s action env) := by
  by_cases hstatus : action = "STATUS".toList
  · rw [answerAction, hstatus, outAction_status]
    cases (s.handlerCall "STATUS".toList env).door.state <;>
      exact ⟨by decide, .of_all (by decide) (by decide)⟩
  · rw [answerAction, DoorMod.outAction, if_neg hstatus]
    exact ⟨length_commandWord haction, isGraphic_commandWord haction⟩

/-- The server sends the COMMAND of a page. -/
theorem receive_command {s : WebSite κ} {j : κ} {rest : List SendCommand}
    (hnext : s.outbox j = ⟨doorId i, "D0".toList, action⟩ :: rest)
    (haction : action ∈ commandWords) :
    ∃ s', WebSite.step s (.receive j) = some s'
      ∧ s.datagrams (.receive j) = [command i s.server.cmdCounter action]
      ∧ s'.server.cmdCounter = s.server.cmdCounter + 1
      ∧ s'.inbox j = s.inbox j ∧ s'.outbox j = rest
      ∧ ∀ j' d, s'.settled j' d = s.settled j' d := by
  have horElse : ∀ {x : Text} (y : Text), IsGraphic x → orElse x y = x := fun y hx =>
    if_neg hx.ne_nil
  have hsend : s.server.handle (.sendCommand (doorId i) "D0".toList action)
      = some (s.server.sendCommand (doorId i) "D0".toList action .client) := by
    simp only [DoorServer.handle, horElse _ (isGraphic_doorId i), horElse _ isGraphic_D0,
      horElse _ (isGraphic_commandWord haction)]
  have hstep : WebSite.step s (.receive j)
      = some ({ s with
          owner := Function.update s.owner s.server.cmdCounter (some j)
          outbox := Function.update s.outbox j rest }.emit
        (s.server.sendCommand (doorId i) "D0".toList action .client)) := by
    simp only [WebSite.step, hnext, hsend, Option.map_some]
  refine ⟨_, hstep, ?_, rfl, List.append_nil _, Function.update_self .., ?_⟩
  · simp only [WebSite.datagrams, hnext, hsend, DoorServer.sendCommand,
      horElse _ (isGraphic_doorId i), horElse _ isGraphic_D0]
    rfl
  · intro j' d
    exact WebSite.settled_emit ..

variable {s : House κ} {src : SockAddr} {m : Nat} (env : Env) (t issued : Int)

theorem step_site_of {e : WebSiteEvent κ} {site : WebSite κ} (hmessage : ∀ msg, e ≠ .message msg)
    (hsite : WebSite.step s.site e = some site) :
    step cfg s (.site e) = some { s with
      site
      sent := s.sent ++ (s.site.datagrams e).map fun b => ⟨cfg.webAddr, .hub, b⟩ } := by
  cases e with
  | message msg => exact absurd rfl (hmessage msg)
  | _ => simp only [step, hsite, Option.map_some]

omit [DecidableEq κ] in
theorem getElem?_last {s : House κ} {sent : List Packet} {p : Packet}
    (hsent : s.sent = sent ++ [p]) : s.sent[sent.length]? = some p := by
  rw [hsent]
  exact List.getElem?_concat_length

theorem step_deliver {p : Packet} (hp : s.sent[m]? = some p) :
    step cfg s (.deliver m env t issued) = some (s.arrive cfg p env t issued) := by
  simp only [step, hp, Option.map_some]

/-- The hub has an entry and an address of door `i`. -/
structure Routes (i : Fin 3) (h : Hub) : Prop where
  tracks : (h.findDoor (doorId i)).isSome
  knows : (h.endpointAddr (doorId i)).isSome

/-- A line of the door keeps both. -/
theorem Routes.handleLine {h : Hub} (hh : Routes i h) {dg : Datagram} {type : Text}
    {args : List Text} (htok : dg.tokens = doorId i :: type :: args) :
    Routes i (h.handleLine dg).1 where
  tracks := by
    obtain ⟨d, hd⟩ := Option.isSome_iff_exists.mp hh.tracks
    have htracks := Hub.handleLine_tracks dg (Hub.findDoor_eq_some_iff.mp hd).1
    obtain ⟨d', hd'⟩ := Hub.findDoor_of_tracks htracks
    rw [hd']
    rfl
  knows := by
    rw [Hub.endpointAddr_of_table (Hub.handleLine_endpointTable htok), Hub.noteEndpoint]
    split
    · exact hh.knows
    · have hroom : ¬h.EndpointsFull (doorId i) := fun hfull => by
        have hknows := hh.knows
        rw [Hub.endpointAddr_of_full hfull] at hknows
        cases hknows
      rw [h.hubUpdateEndpoint_self dg.src (by rw [length_doorId]; decide) hroom]
      rfl

theorem wireTokens_command (hlo : 1 ≤ c) (hhi : c < 2 ^ 31) (haction : action ∈ commandWords) :
    wireTokens (command i c action)
      = [doorId i, "COMMAND".toList, decimal c, "D0".toList, action] :=
  wireTokens_commandLine (isToken_of_graphic (isGraphic_doorId i))
    (isToken_of_graphic isGraphic_D0) (isToken_of_graphic (isGraphic_commandWord haction))
    (length_command hlo hhi (length_commandWord haction))

theorem wireTokens_answer (hlo : 1 ≤ c) (hhi : c < 2 ^ 31) (hlength : action.length ≤ 31)
    (hgraph : IsGraphic action) : wireTokens (answer i c action)
      = [doorId i, "FEEDBACK".toList, decimal c, "D0".toList, action] := by
  rw [answer, wireTokens_snprintf]
  exact (wireTokens_feedbackLine (isToken_of_graphic (isGraphic_doorId i))
    (isToken_of_graphic isGraphic_D0) (isToken_of_graphic hgraph)
    (length_command hlo hhi hlength)).2

/-- The hub passes it on. -/
theorem deliver_command (hp : s.sent[m]? = some ⟨src, .hub, command i c action⟩)
    {d : Fin hubMaxDoors} (hd : s.hub.findDoor (doorId i) = some d)
    (hknows : s.hub.endpointAddr (doorId i) = some (cfg.doorAddr i))
    (hreceiver : cfg.receiver (cfg.doorAddr i) = .door i)
    (hlo : 1 ≤ c) (hhi : c < 2 ^ 31) (haction : action ∈ commandWords) :
    ∃ s', step cfg s (.deliver m env t issued) = some s'
      ∧ s'.hub = (s.hub.handleLine ⟨src, command i c action, t, issued⟩).1
      ∧ s'.doors = s.doors ∧ s'.site = s.site
      ∧ s'.sent = s.sent ++ [⟨cfg.hubAddr, .door i, command i c action⟩] := by
  obtain ⟨hout, -⟩ := Hub.handleLine_commandLine (h := s.hub)
    (isToken_of_graphic (isGraphic_doorId i)) (isToken_of_graphic isGraphic_D0)
    (isToken_of_graphic (isGraphic_commandWord haction)) (by omega) hhi
    (length_command hlo hhi (length_commandWord haction)) hd src t issued
  have hpackets : (s.hub.handleLine ⟨src, command i c action, t, issued⟩).2.filterMap
      (hubPacket cfg) = [⟨cfg.hubAddr, .door i, command i c action⟩] := by
    rw [command, hout, hknows]
    simp [hubPacket, hreceiver]
  refine ⟨_, step_deliver env t issued hp, rfl, rfl, rfl, ?_⟩
  rw [← hpackets]
  rfl

/-- The door calls its handler and answers. -/
theorem deliver_door (hp : s.sent[m]? = some ⟨src, .door i, command i c action⟩)
    (hopen : (s.doors i).udp.sockOpen = true) (hid : (s.doors i).udp.moduleId.text = doorId i)
    (hhandler : (s.doors i).udp.hasCmdHandler = true)
    (hlo : 1 ≤ c) (hhi : c < 2 ^ 31) (haction : action ∈ commandWords) :
    ∃ s', step cfg s (.deliver m env t issued) = some s'
      ∧ s'.hub = s.hub ∧ s'.site = s.site
      ∧ s'.doors = Function.update s.doors i ((s.doors i).handlerCall action env).mod
      ∧ s'.sent = s.sent ++ ((s.doors i).handlerCall action env).sends.map (doorPacket cfg i)
        ++ [⟨cfg.doorAddr i, .hub, answer i c (answerAction (s.doors i) action env)⟩] := by
  have hcall : ((s.doors i).udp.doorCmdThread (command i c action)).1
      = some ⟨doorId i, c, "D0".toList, action⟩ := by
    have hown : IsToken (s.doors i).udp.moduleId.text := by
      rw [hid]
      exact isToken_of_graphic (isGraphic_doorId i)
    have hback := DoorUdp.doorCmdThread_commandLine hhandler hown
      (isToken_of_graphic isGraphic_D0) (isToken_of_graphic (isGraphic_commandWord haction))
      (c := c) (by omega) hhi (by
        rw [hid]
        exact length_command hlo hhi (length_commandWord haction))
    rw [hid] at hback
    exact hback
  have hsends : ((s.doors i).appCommandHandler ⟨doorId i, c, "D0".toList, action⟩ env).feedbackSends
      = [⟨.notif, snprintf 256 (feedbackLine (doorId i) c "D0".toList
          (answerAction (s.doors i) action env))⟩] := by
    have hsock : ((s.doors i).handlerCall action env).mod.udp.sockOpen = true := by
      rw [DoorMod.handlerCall_sockOpen, hopen]
    simp only [DoorMod.appCommandHandler, DoorUdp.doorUdpSendFeedback, DoorUdp.sendLineNotif,
      hsock, if_true]
    rfl
  have hlisten : (s.doors i).listen (command i c action) env
      = (((s.doors i).handlerCall action env).mod,
        ((s.doors i).handlerCall action env).sends ++ [⟨.notif, snprintf 256
          (feedbackLine (doorId i) c "D0".toList (answerAction (s.doors i) action env))⟩]) := by
    rw [DoorMod.listen, DoorUdp.doorCmdThread_of_call hcall]
    dsimp only
    rw [hsends]
    rfl
  have hstep : step cfg s (.deliver m env t issued)
      = some (s.updateDoor cfg i ((s.doors i).listen (command i c action) env)) := by
    simp only [step, hp, Option.map_some, House.arrive, hopen, if_true]
  refine ⟨_, hstep, rfl, rfl, ?_, ?_⟩
  · rw [hlisten]
    rfl
  · rw [hlisten]
    simp only [House.updateDoor, List.map_append, List.map_cons, List.map_nil, List.append_assoc]
    rfl

/-- The hub relays the answer to the web server. -/
theorem deliver_answer (hp : s.sent[m]? = some ⟨src, .hub, answer i c action⟩)
    {d : Fin hubMaxDoors} (hd : s.hub.findDoor (doorId i) = some d)
    {slot : Fin hubMaxPendingCmds} (hslot : s.hub.pendingCmds.find (doorId i) c = some slot)
    (hclient : (s.hub.pendingCmds slot).clientAddr = cfg.webAddr)
    (hlo : 1 ≤ c) (hhi : c < 2 ^ 31) (hlength : action.length ≤ 31) (hgraph : IsGraphic action) :
    ∃ s', step cfg s (.deliver m env t issued) = some s'
      ∧ s'.hub = (s.hub.handleLine ⟨src, answer i c action, t, issued⟩).1
      ∧ s'.doors = s.doors ∧ s'.site = s.site
      ∧ s'.sent = s.sent ++ [⟨cfg.hubAddr, .web, answer i c action⟩] := by
  obtain ⟨hout, -⟩ := Hub.handleLine_feedbackLine (h := s.hub)
    (isToken_of_graphic (isGraphic_doorId i)) (isToken_of_graphic isGraphic_D0)
    (isToken_of_graphic hgraph) (by omega) hhi (length_command hlo hhi hlength) hd hslot
    src t issued
  have hweb : cfg.receiver cfg.webAddr = .web := if_pos rfl
  have hpackets : (s.hub.handleLine ⟨src, answer i c action, t, issued⟩).2.filterMap
      (hubPacket cfg) = [⟨cfg.hubAddr, .web, answer i c action⟩] := by
    rw [answer, hout, hclient]
    simp [hubPacket, hweb]
  refine ⟨_, step_deliver env t issued hp, rfl, rfl, rfl, ?_⟩
  rw [← hpackets]
  rfl

/-- What the web server makes of an answer. -/
theorem feedbackMessage_answer (hlo : 1 ≤ c) (hhi : c < 2 ^ 31) (hlength : action.length ≤ 31)
    (hgraph : IsGraphic action) : feedbackMessage (answer i c action)
      = some ⟨doorId i, some c, "D0".toList, action,
        numbered (doorId i) "FEEDBACK".toList c "D0".toList action⟩ := by
  have hshort : (numbered (doorId i) "FEEDBACK".toList c "D0".toList action).length ≤ 255 :=
    (wireTokens_feedbackLine (isToken_of_graphic (isGraphic_doorId i))
      (isToken_of_graphic isGraphic_D0) (isToken_of_graphic hgraph)
      (length_command hlo hhi hlength)).1
  exact feedbackMessage_relay (isGraphic_doorId i) isGraphic_D0 hgraph (by omega) hshort

/-- The web server tells every page. -/
theorem settled_answer {s : WebSite κ} (hlo : 1 ≤ c) (hhi : c < 2 ^ 31)
    (hlength : action.length ≤ 31) (hgraph : IsGraphic action) (j : κ) (d : Fin 3) :
    (s.emit (s.server.message (answer i c action))).settled j d
      = if d = i then told (s.settled j d) i action else s.settled j d := by
  have hf := feedbackMessage_answer hlo hhi hlength hgraph (i := i)
  have hdoor : ∀ d, doorOf (doorId i) = some d ↔ d = i := by
    have hall : ∀ i d, doorOf (doorId i) = some d ↔ d = i := by decide
    exact hall i
  rw [WebSite.settled_emit, WebSite.hearAll_feedback hf]
  simp only [WebSite.hearAll, List.foldl_cons, List.foldl_nil, PageMessage.module, hdoor]
  split <;> rfl

/-- What page `j` is sent of an answer; the page that asked may be sent it once more. -/
theorem filterMap_answer (server : DoorServer) (owner : Int → Option κ) (j : κ) (hlo : 1 ≤ c)
    (hhi : c < 2 ^ 31) (hlength : action.length ≤ 31) (hgraph : IsGraphic action) :
    ∃ first, (first = [] ∨ first = [.commandFeedback (doorId i) action])
      ∧ (server.message (answer i c action)).2.filterMap (·.toPage owner j)
        = first ++ [.doorFeedback (doorId i) (formattedAction action),
          .commandFeedback (doorId i) action] := by
  have hf := feedbackMessage_answer hlo hhi hlength hgraph (i := i)
  unfold DoorServer.message
  rw [hf]
  dsimp only
  split
  · rename_i q hq
    cases q.requestor with
    | client =>
        by_cases howner : owner c = some j
        · refine ⟨[.commandFeedback (doorId i) action], Or.inr rfl, ?_⟩
          simp [Requestor.feedback, ServerOut.toPage, howner]
        · refine ⟨[], Or.inl rfl, ?_⟩
          simp [Requestor.feedback, ServerOut.toPage, howner]
    | lockDoor moduleId => exact ⟨[], Or.inl rfl, rfl⟩
    | unlockDoor moduleId => exact ⟨[], Or.inl rfl, rfl⟩
    | doorInfo => exact ⟨[], Or.inl rfl, rfl⟩
  · exact ⟨[], Or.inl rfl, rfl⟩

/-- A page handles the next message. -/
theorem deliver_page {j : κ} {msg : PageMessage} {later : List PageMessage}
    (hinbox : s.site.inbox j = msg :: later) :
    ∃ s', step cfg s (.site (.deliver j)) = some s' ∧ s'.hub = s.hub ∧ s'.doors = s.doors
      ∧ s'.site.server = s.site.server ∧ s'.site.inbox j = later
      ∧ s'.site.outbox j = s.site.outbox j ++ ((s.site.pages j).hear msg).2 := by
  have hsite : WebSite.step s.site (.deliver j)
      = some ({ s.site with inbox := Function.update s.site.inbox j later }.update j
        ((s.site.pages j).hear msg)) := by
    simp only [WebSite.step, hinbox]
  refine ⟨_, step_site_of (by simp) hsite, rfl, rfl, rfl, ?_, ?_⟩
  · exact Function.update_self ..
  · exact Function.update_self ..

end Steps

/-! ## The trip -/

/-- Messages and datagrams arrive, and the doors read `env`. -/
def Carried (env : Env) : HouseEvent κ → Prop
  | .site (.receive _) => True
  | .site (.deliver _) => True
  | .deliver _ env' _ _ => env' = env
  | _ => False

omit [DecidableEq κ] in
theorem Carried.documented {env : Env} {e : HouseEvent κ} (h : Carried env e) : Documented e := by
  cases e with
  | post module target action => exact h.elim
  | _ => trivial

section Trip

variable {webhookUrl : Text} {positions : Fin 3 → Fin stepsPerRev}

/-- The states that a house gets into when only documented commands are posted. -/
def Reached (cfg : HouseConfig) (webhookUrl : Text) (positions : Fin 3 → Fin stepsPerRev)
    (s : House κ) : Prop :=
  ∃ es, (∀ e ∈ es, Documented e) ∧ Lts.run (step cfg) (init webhookUrl positions) es = some s

theorem Reached.run {s s' : House κ} (hs : Reached cfg webhookUrl positions s)
    {es : List (HouseEvent κ)} (hdoc : ∀ e ∈ es, Documented e)
    (hr : Lts.run (step cfg) s es = some s') : Reached cfg webhookUrl positions s' := by
  obtain ⟨es₀, hdoc₀, hr₀⟩ := hs
  exact ⟨es₀ ++ es, List.forall_mem_append.mpr ⟨hdoc₀, hdoc⟩,
    Lts.run_append_eq_some.mpr ⟨s, hr₀, hr⟩⟩

theorem Reached.ok {s : House κ} (hs : Reached cfg webhookUrl positions s) :
    ∃ k, Ok cfg k s := by
  obtain ⟨es, hdoc, hr⟩ := hs
  exact ⟨_, ok_run hdoc hr⟩

theorem Reached.serves {s : House κ} (hs : Reached cfg webhookUrl positions s) : Serves cfg s := by
  obtain ⟨es, hdoc, hr⟩ := hs
  exact serves_run hdoc hr

/-- From every state that a house gets into: a command of a page that is not lost is a call
of the door's handler, and the web server hears its answer. -/
theorem trip {s : House κ} (hs : Reached cfg webhookUrl positions s)
    (hreceiver : cfg.receiver (cfg.doorAddr i) = .door i) (hroutes : Routes i s.hub)
    (hopen : (s.doors i).udp.sockOpen = true) (hcount : s.site.server.cmdCounter < 2 ^ 31)
    {j : κ} {action : Text} {rest : List SendCommand}
    (hnext : s.site.outbox j = ⟨doorId i, "D0".toList, action⟩ :: rest) (env : Env)
    (t issued : Int) :
    ∃ es' s' site, Lts.run (step cfg) s es' = some s' ∧ (∀ e ∈ es', Carried env e)
      ∧ Routes i s'.hub
      ∧ s'.doors = Function.update s.doors i ((s.doors i).handlerCall action env).mod
      ∧ WebSite.step s.site (.receive j) = some site
      ∧ s'.site = site.emit (site.server.message
        (answer i s.site.server.cmdCounter (answerAction (s.doors i) action env))) := by
  obtain ⟨k, hok⟩ := hs.ok
  have hserves := hs.serves
  have hlo := hok.site.counter
  have haction : action ∈ commandWords :=
    (hok.site.outbox j _ (by rw [hnext]; exact List.mem_cons_self ..)).action
  obtain ⟨hshort, hgraph⟩ := answerAction_word (s.doors i) haction env
  obtain ⟨d, hd⟩ := Option.isSome_iff_exists.mp hroutes.tracks
  obtain ⟨a, ha⟩ := Option.isSome_iff_exists.mp hroutes.knows
  obtain rfl := hserves.hub.endpoints i a ha
  -- the web server sends it
  obtain ⟨site, hsite, hlines, -⟩ := receive_command hnext haction
  let s₁ : House κ := { s with
    site
    sent := s.sent ++ [⟨cfg.webAddr, .hub, command i s.site.server.cmdCounter action⟩] }
  have h₁ : step cfg s (.site (.receive j)) = some s₁ := by
    rw [step_site_of (e := .receive j) (by simp) hsite, hlines]
    rfl
  -- the hub passes it on, and waits under an id that is not in use
  obtain ⟨s₂, h₂, hhub₂, hdoors₂, hsite₂, hsent₂⟩ := deliver_command (s := s₁) env t issued
    List.getElem?_concat_length hd ha hreceiver hlo hcount haction
  have hroutes₂ : Routes i s₂.hub := by
    rw [hhub₂]
    exact hroutes.handleLine (wireTokens_command hlo hcount haction)
  obtain ⟨d₂, hd₂⟩ := Option.isSome_iff_exists.mp hroutes₂.tracks
  have hfree : ∀ slot, ¬s.hub.pendingCmds.Pends slot (doorId i) s.site.server.cmdCounter := by
    intro slot hpends
    exact absurd hpends.1 (Int.ne_of_lt (hserves.hub.fresh (by omega) slot))
  have hpending : s₂.hub.pendingCmds = Function.update s.hub.pendingCmds
      s.hub.pendingCmds.registerSlot ⟨s.site.server.cmdCounter, cfg.webAddr,
        snprintf hubModuleIdLen (doorId i), issued⟩ := by
    rw [hhub₂]
    exact (Hub.handleLine_commandLine (isToken_of_graphic (isGraphic_doorId i))
      (isToken_of_graphic isGraphic_D0) (isToken_of_graphic (isGraphic_commandWord haction))
      (by omega) hcount (length_command hlo hcount (length_commandWord haction)) hd _ _ _).2
  have hslot := (PendingCmds.registered hlo (by rw [length_doorId]; decide) hfree
    s.hub.pendingCmds.registerSlot cfg.webAddr issued).1
  rw [← hpending] at hslot
  -- the door calls its handler
  have hopen₂ : (s₂.doors i).udp.sockOpen = true := by
    rw [hdoors₂]
    exact hopen
  obtain ⟨s₃, h₃, hhub₃, hsite₃, hdoors₃, hsent₃⟩ := deliver_door env t issued
    (getElem?_last hsent₂) hopen₂ (by rw [hdoors₂]; exact hok.doors i hopen)
    (by rw [hdoors₂]; exact hserves.doors i hopen) hlo hcount haction
  rw [hdoors₂] at hdoors₃ hsent₃
  -- its answer goes back
  rw [← hhub₃] at hd₂ hslot
  obtain ⟨s₄, h₄, hhub₄, hdoors₄, hsite₄, hsent₄⟩ := deliver_answer env t issued
    (getElem?_last hsent₃) hd₂ hslot (by rw [hhub₃, hpending, Function.update_self]) hlo hcount
    hshort hgraph
  have h₅ : step cfg s₄ (.deliver _ env t issued) = some _ :=
    step_deliver env t issued (getElem?_last hsent₄)
  have hrun : Lts.run (step cfg) s [_, _, _, _, _] = some _ :=
    Lts.run_cons_eq_some.mpr ⟨s₁, h₁, Lts.run_cons_eq_some.mpr ⟨s₂, h₂,
      Lts.run_cons_eq_some.mpr ⟨s₃, h₃, Lts.run_cons_eq_some.mpr ⟨s₄, h₄,
        Lts.run_cons_eq_some.mpr ⟨_, h₅, Lts.run_nil _⟩⟩⟩⟩⟩
  refine ⟨_, _, site, hrun, by simp [Carried], ?_, ?_, hsite, ?_⟩
  · show Routes i s₄.hub
    rw [hhub₄, hhub₃]
    exact hroutes₂.handleLine (wireTokens_answer hlo hcount hshort hgraph)
  · show s₄.doors = _
    rw [hdoors₄, hdoors₃]
  · show s₄.site.emit (s₄.site.server.message _) = _
    have hsame : s₄.site = site := by
      rw [hsite₄, hsite₃, hsite₂]
    rw [hsame]

/-! ### STATUS -/

/-- What a STATUS answer makes of a row. -/
theorem told_status (r : DoorRow) (s : DoorMod) (env : Env) :
    told r i (answerAction s "STATUS".toList env)
      = .showing (r.entry.shows (s.getDoorStatus ⟨.unknown, 0⟩ env).door.state) := by
  have hcommand : ∀ (r : DoorRow) (action : Text), r.hear (.commandFeedback (doorId i) action)
      = .showing (r.entry.onCommandFeedback action) := fun _ _ => rfl
  have hanswered := answered_status r.entry (s.handlerCall "STATUS".toList env).door
  rw [DoorEntry.answered] at hanswered
  rw [told, hcommand, DoorRow.hear_doorFeedback_entry, answerAction, hanswered]
  rfl

/-- From every state that a house gets into, whatever was lost before: when the hub has an
entry and an address of a door that listens, and nothing of the next STATUS request for it
is lost, every page that has read all it was sent shows what the door answered. -/
theorem statusTrip {s : House κ} (hs : Reached cfg webhookUrl positions s)
    (hreceiver : cfg.receiver (cfg.doorAddr i) = .door i) (hroutes : Routes i s.hub)
    (hopen : (s.doors i).udp.sockOpen = true) (hcount : s.site.server.cmdCounter < 2 ^ 31)
    {j : κ} {rest : List SendCommand}
    (hnext : s.site.outbox j = Page.requestModuleStatus (doorId i) :: rest) (env : Env) :
    ∃ es' s', Lts.run (step cfg) s es' = some s' ∧ (∀ e ∈ es', Carried env e)
      ∧ (∀ d, (s'.doors d).position = (s.doors d).position)
      ∧ ∀ j' d, s'.site.settled j' d
        = if d = i then .showing ((s.site.settled j' d).entry.shows
            ((s.doors i).getDoorStatus ⟨.unknown, 0⟩ env).door.state)
          else s.site.settled j' d := by
  obtain ⟨k, hok⟩ := hs.ok
  obtain ⟨es', s', site, hrun, hcarried, -, hdoors, hsite, hsite'⟩ := trip hs hreceiver hroutes
    hopen hcount hnext env 0 0
  refine ⟨es', s', hrun, hcarried, fun d => ?_, fun j' d => ?_⟩
  · rw [hdoors]
    by_cases hd : d = i
    · subst hd
      rw [Function.update_self]
      exact DoorMod.getDoorStatus_position ..
    · rw [Function.update_of_ne hd]
  · have hword : "STATUS".toList ∈ commandWords := by simp [commandWords]
    obtain ⟨hshort, hgraph⟩ := answerAction_word (s.doors i) hword env
    obtain ⟨site₁, hsite₁, -, -, -, -, hsettled⟩ := receive_command hnext hword
    obtain rfl := Option.some.inj (hsite.symm.trans hsite₁)
    rw [hsite', settled_answer hok.site.counter hcount hshort hgraph, hsettled]
    split
    · exact told_status ..
    · rfl

/-- D1, with its bolt out, is known to the hub, and a page asks for the states. -/
def requested : List (HouseEvent Unit) :=
  [.door 0 (.start 1000 5 5 true), .deliver 0 (reading 5) 10 10, .site (.act () .requestAll)]

theorem statusTrip_requested : ∃ s es' s',
    Lts.run (step houseAddresses) (init [] fun _ => 2048) requested = some s
      ∧ Lts.run (step houseAddresses) s es' = some s'
      ∧ s'.site.settled () 0 = .showing ⟨some false, some true⟩ := by
  have hfacts : (Lts.run (step houseAddresses) (init [] fun _ => 2048) requested).any (fun s =>
      decide ((s.hub.findDoor (doorId 0)).isSome ∧ (s.hub.endpointAddr (doorId 0)).isSome
        ∧ (s.doors 0).udp.sockOpen ∧ s.site.server.cmdCounter = 1
        ∧ s.site.outbox () = doorIds.map Page.requestModuleStatus
        ∧ ((s.doors 0).getDoorStatus ⟨.unknown, 0⟩ (reading 5)).door.state = .locked)) = true := by
    decide +kernel
  obtain ⟨s, hr, hs⟩ := (Option.any_eq_true ..).mp hfacts
  obtain ⟨htracks, hknows, hopen, hcount, hnext, hstate⟩ := of_decide_eq_true hs
  have hdoc : ∀ e ∈ requested, Documented e := by simp [requested, Documented]
  obtain ⟨es', s', hr', -, -, hsettled⟩ := statusTrip ⟨_, hdoc, hr⟩ (by decide)
    ⟨htracks, hknows⟩ hopen (by rw [hcount]; decide) hnext (reading 5)
  refine ⟨s, es', s', hr, hr', ?_⟩
  rw [hsettled, if_pos rfl, hstate]
  rfl

/-! ### A click -/

/-- The word on the button: LOCK or UNLOCK. -/
def toggleWord (lock : Bool) : Text := if lock then "LOCK".toList else "UNLOCK".toList

/-- A page that is told of it asks for the state. -/
theorem hear_toggleWord (p : Page) (i : Fin 3) (lock : Bool) :
    (p.hear (.doorFeedback (doorId i) (formattedAction (toggleWord lock)))).2
      = [Page.requestModuleStatus (doorId i)] := by
  have hpoll : Page.startsPoll (.doorFeedback (doorId i) (formattedAction (toggleWord lock)))
      = some ⟨doorId i, lock, 0⟩ := by
    cases lock <;>
      match i with
      | 0 => rfl
      | 1 => rfl
      | 2 => rfl
  simp only [Page.hear, hpoll, Page.pollStatus]

/-- A page with no other request handles what it is sent of such an answer. -/
theorem page_asks {s : House κ} {env : Env} {j : κ} {lock : Bool}
    {first later : List PageMessage}
    (hfirst : first = [] ∨ first = [.commandFeedback (doorId i) (toggleWord lock)])
    (hinbox : s.site.inbox j
      = first ++ .doorFeedback (doorId i) (formattedAction (toggleWord lock)) :: later)
    (houtbox : s.site.outbox j = []) :
    ∃ es' s', Lts.run (step cfg) s es' = some s' ∧ (∀ e ∈ es', Carried env e)
      ∧ s'.hub = s.hub ∧ s'.doors = s.doors ∧ s'.site.server = s.site.server
      ∧ s'.site.outbox j = [Page.requestModuleStatus (doorId i)] := by
  have hasks : ∀ {s : House κ}, s.site.inbox j
      = .doorFeedback (doorId i) (formattedAction (toggleWord lock)) :: later →
      s.site.outbox j = [] →
      ∃ s', step cfg s (.site (.deliver j)) = some s' ∧ s'.hub = s.hub ∧ s'.doors = s.doors
        ∧ s'.site.server = s.site.server
        ∧ s'.site.outbox j = [Page.requestModuleStatus (doorId i)] := by
    intro s hinbox houtbox
    obtain ⟨s', hs, hhub, hdoors, hserver, -, hout⟩ := @deliver_page _ _ cfg _ _ _ _ hinbox
    rw [houtbox, hear_toggleWord] at hout
    exact ⟨s', hs, hhub, hdoors, hserver, hout⟩
  rcases hfirst with rfl | rfl
  · obtain ⟨s', hs, hrest⟩ := hasks hinbox houtbox
    exact ⟨[_], s', Lts.run_cons_eq_some.mpr ⟨s', hs, Lts.run_nil _⟩, by simp [Carried], hrest⟩
  · obtain ⟨s₁, h₁, hhub, hdoors, hserver, hinbox₁, hout₁⟩ := @deliver_page _ _ cfg _ _ _ _ hinbox
    have hquiet : ((s.site.pages j).hear (.commandFeedback (doorId i) (toggleWord lock))).2 = [] :=
      rfl
    rw [houtbox, hquiet] at hout₁
    obtain ⟨s', hs, hhub', hdoors', hserver', hout⟩ := hasks hinbox₁ hout₁
    exact ⟨[_, _], s', Lts.run_cons_eq_some.mpr ⟨s₁, h₁,
      Lts.run_cons_eq_some.mpr ⟨s', hs, Lts.run_nil _⟩⟩, by simp [Carried], hhub'.trans hhub,
      hdoors'.trans hdoors, hserver'.trans hserver, hout⟩

/-- A click asks for what the button says. -/
theorem step_click {s : House κ} {j : κ} {lock : Bool} (houtbox : s.site.outbox j = [])
    (henabled : ((s.site.pages j).rows i).disabled = false)
    (hbutton : (s.site.pages j).toggleDoor i = [⟨doorId i, "D0".toList, toggleWord lock⟩]) :
    ∃ s', step cfg s (.site (.act j (.click i))) = some s' ∧ s'.hub = s.hub ∧ s'.doors = s.doors
      ∧ s'.site.server = s.site.server ∧ s'.site.inbox j = s.site.inbox j
      ∧ s'.site.outbox j = [⟨doorId i, "D0".toList, toggleWord lock⟩] := by
  have hclick : WebSite.step s.site (.act j (.click i)) = some (s.site.update j
      (s.site.pages j, [⟨doorId i, "D0".toList, toggleWord lock⟩])) := by
    simp only [WebSite.step, Page.act, henabled, hbutton]
    rfl
  refine ⟨_, step_site_of (by simp) hclick, rfl, rfl, rfl, rfl, ?_⟩
  show Function.update s.site.outbox j (s.site.outbox j ++ _) j = _
  rw [Function.update_self, houtbox]
  rfl

/-- The trip of that word. Its page, with nothing else to read, hears of it, and asks for the
state. -/
theorem wordTrip {s : House κ} (hs : Reached cfg webhookUrl positions s)
    (hreceiver : cfg.receiver (cfg.doorAddr i) = .door i) (hroutes : Routes i s.hub)
    (hopen : (s.doors i).udp.sockOpen = true) (hcount : s.site.server.cmdCounter < 2 ^ 31)
    {j : κ} {lock : Bool} (hinbox : s.site.inbox j = [])
    (hnext : s.site.outbox j = [⟨doorId i, "D0".toList, toggleWord lock⟩]) (env : Env) :
    ∃ es' s', Lts.run (step cfg) s es' = some s' ∧ (∀ e ∈ es', Carried env e)
      ∧ Routes i s'.hub
      ∧ s'.doors i = ((s.doors i).handlerCall (toggleWord lock) env).mod
      ∧ s'.site.server.cmdCounter = s.site.server.cmdCounter + 1
      ∧ s'.site.outbox j = [Page.requestModuleStatus (doorId i)] := by
  obtain ⟨k, hok⟩ := hs.ok
  have hword : toggleWord lock ∈ commandWords := by
    cases lock <;> simp [toggleWord, commandWords]
  obtain ⟨es₁, s₁, site, hr₁, hcarried₁, hroutes₁, hdoors₁, hsite, hanswer⟩ := trip hs
    hreceiver hroutes hopen hcount hnext env 0 0
  obtain ⟨site', hsite', -, hcounter, hinbox', houtbox', -⟩ := receive_command hnext hword
  obtain rfl := Option.some.inj (hsite.symm.trans hsite')
  -- the answer is the word again
  have hecho : answerAction (s.doors i) (toggleWord lock) env = toggleWord lock := by
    cases lock <;> rfl
  obtain ⟨hshort, hgraph⟩ := answerAction_word (s.doors i) hword env
  rw [hecho] at hshort hgraph hanswer
  obtain ⟨first, hfirst, hmessages⟩ :=
    filterMap_answer site.server site.owner j hok.site.counter hcount hshort hgraph (i := i)
  have hread : s₁.site.inbox j = first
      ++ .doorFeedback (doorId i) (formattedAction (toggleWord lock))
        :: [.commandFeedback (doorId i) (toggleWord lock)] := by
    rw [hanswer]
    show site.inbox j ++ _ = _
    rw [hmessages, hinbox']
    show s.site.inbox j ++ _ = _
    rw [hinbox]
    rfl
  have hunsent : s₁.site.outbox j = [] := by
    rw [hanswer]
    exact houtbox'
  obtain ⟨es₂, s₂, hr₂, hcarried₂, hhub₂, hdoors₂, hserver₂, hasks⟩ :=
    @page_asks _ _ cfg _ _ env _ _ _ _ hfirst hread hunsent
  refine ⟨es₁ ++ es₂, s₂, Lts.run_append_eq_some.mpr ⟨s₁, hr₁, hr₂⟩,
    List.forall_mem_append.mpr ⟨hcarried₁, hcarried₂⟩, hhub₂ ▸ hroutes₁, ?_, ?_, hasks⟩
  · rw [hdoors₂, hdoors₁, Function.update_self]
  · rw [hserver₂, hanswer]
    exact (message_cmdCounter ..).trans hcounter

/-- The bolt goes where the button says, and the door is then measured closed. -/
def Toggles (s : DoorMod) (env : Env) : Bool → Prop
  | true => s.Locks env ∧ WritesSucceed s.position 180 env.writes
  | false => s.Unlocks ∧ WritesSucceed s.position 0 env.writes
      ∧ env.distance < doorClosedThresholdCm ∧ env.distance ≠ -1

/-- Where it is then, and what STATUS says. -/
theorem Toggles.position {s : DoorMod} {env : Env} {lock : Bool} (h : Toggles s env lock) :
    getPosition (s.handlerCall (toggleWord lock) env).mod.position = if lock then 180 else 0 := by
  cases lock with
  | true =>
      obtain ⟨hlocks, hwrites⟩ := h
      show getPosition (s.lockDoor ⟨.unknown, 0⟩ env).mod.position = 180
      rw [(s.lockDoor_moves _ env).1, if_pos hlocks]
      exact (rotate_locked_iff hlocks.1 env.writes).mpr hwrites
  | false =>
      obtain ⟨hunlocks, hwrites, -⟩ := h
      show getPosition (s.unlockDoor ⟨.unknown, 0⟩ env).mod.position = 0
      rw [(s.unlockDoor_moves _ env).1, if_pos hunlocks]
      exact (rotate_unlocked_iff hunlocks.1 env.writes).mpr hwrites

theorem Toggles.shows {s s' : DoorMod} {env : Env} {lock : Bool} (h : Toggles s env lock)
    (hpos : getPosition s'.position = if lock then 180 else 0) (prev : DoorEntry) :
    prev.shows (s'.getDoorStatus ⟨.unknown, 0⟩ env).door.state = ⟨some false, some lock⟩ := by
  cases lock with
  | true =>
      have hlocked : getPosition s'.position = stepperLockedPosition := hpos
      rw [DoorMod.getDoorStatus, if_pos hlocked]
      rfl
  | false =>
      have hnot : ¬getPosition s'.position = stepperLockedPosition := by
        rw [hpos]
        decide
      rw [DoorMod.getDoorStatus, if_neg hnot, if_pos h.2.2]
      rfl

/-- From every state that a house gets into, when a page has nothing left to read or to
send, a click on its button, whose command and poll are not lost, moves the bolt, and every
page that has read all it was sent shows it. -/
theorem toggleTrip {s : House κ} (hs : Reached cfg webhookUrl positions s)
    (hreceiver : cfg.receiver (cfg.doorAddr i) = .door i) (hroutes : Routes i s.hub)
    (hopen : (s.doors i).udp.sockOpen = true) (hcount : s.site.server.cmdCounter + 1 < 2 ^ 31)
    {j : κ} (hinbox : s.site.inbox j = []) (houtbox : s.site.outbox j = [])
    (henabled : ((s.site.pages j).rows i).disabled = false) {lock : Bool}
    (hbutton : (s.site.pages j).toggleDoor i = [⟨doorId i, "D0".toList, toggleWord lock⟩])
    {env : Env} (htoggles : Toggles (s.doors i) env lock) :
    ∃ es' s', Lts.run (step cfg) s (.site (.act j (.click i)) :: es') = some s'
      ∧ (∀ e ∈ es', Carried env e)
      ∧ (getPosition (s'.doors i).position = if lock then 180 else 0)
      ∧ ∀ j', s'.site.settled j' i = .showing ⟨some false, some lock⟩ := by
  -- the click
  obtain ⟨s₀, h₀, hhub₀, hdoors₀, hserver₀, hinbox₀, hnext₀⟩ :=
    @step_click _ _ cfg _ _ _ _ houtbox henabled hbutton
  have hs₀ : Reached cfg webhookUrl positions s₀ :=
    hs.run (by simp [Documented]) (Lts.run_cons_eq_some.mpr ⟨s₀, h₀, Lts.run_nil _⟩)
  -- its command, and the answer, on which the page asks for the state
  obtain ⟨es₁, s₁, hr₁, hcarried₁, hroutes₁, hdoor₁, hcounter₁, hasks⟩ :=
    wordTrip hs₀ hreceiver (hhub₀ ▸ hroutes) (by rw [hdoors₀, hopen]) (by rw [hserver₀]; omega)
      (hinbox₀.trans hinbox) hnext₀ env
  have hs₁ := hs₀.run (fun e he => (hcarried₁ e he).documented) hr₁
  rw [hdoors₀] at hdoor₁
  rw [hserver₀] at hcounter₁
  have hopen₁ : (s₁.doors i).udp.sockOpen = true := by
    rw [hdoor₁, DoorMod.handlerCall_sockOpen, hopen]
  have hpos₁ := htoggles.position
  rw [← hdoor₁] at hpos₁
  -- its request, and the answer
  rw [← hcounter₁] at hcount
  obtain ⟨k, hok₁⟩ := hs₁.ok
  obtain ⟨es₂, s₂, site₂, hr₂, hcarried₂, -, hdoors₂, hsite₂, hanswer₂⟩ := trip hs₁ hreceiver
    hroutes₁ hopen₁ hcount hasks env 0 0
  refine ⟨es₁ ++ es₂, s₂, ?_, List.forall_mem_append.mpr ⟨hcarried₁, hcarried₂⟩, ?_, ?_⟩
  · exact Lts.run_cons_eq_some.mpr ⟨s₀, h₀, Lts.run_append_eq_some.mpr ⟨s₁, hr₁, hr₂⟩⟩
  · have hposition : (s₂.doors i).position = (s₁.doors i).position := by
      rw [hdoors₂, Function.update_self]
      exact DoorMod.getDoorStatus_position ..
    rw [hposition, hpos₁]
  · intro j'
    have hstatus : "STATUS".toList ∈ commandWords := by simp [commandWords]
    obtain ⟨hshort, hgraph⟩ := answerAction_word (s₁.doors i) hstatus env
    rw [hanswer₂, settled_answer hok₁.site.counter hcount hshort hgraph, if_pos rfl, told_status,
      htoggles.shows hpos₁]

/-- D1 is known to the hub, and its bolt is not out. -/
def greeted : List (HouseEvent Unit) :=
  [.door 0 (.start 1000 5 5 true), .deliver 0 (reading 5) 10 10]

theorem toggleTrip_greeted : ∃ s es' s',
    Lts.run (step houseAddresses) (init [] fun _ => 0) greeted = some s
      ∧ Lts.run (step houseAddresses) s (.site (.act () (.click 0)) :: es') = some s'
      ∧ getPosition (s'.doors 0).position = 180
      ∧ s'.site.settled () 0 = .showing ⟨some false, some true⟩ := by
  let closed : Env := { reading 5 with samples := [5, 5, 5] }
  have hfacts : (Lts.run (step houseAddresses) (init [] fun _ => 0) greeted).any (fun s =>
      decide ((s.hub.findDoor (doorId 0)).isSome ∧ (s.hub.endpointAddr (doorId 0)).isSome
        ∧ (s.doors 0).udp.sockOpen ∧ s.site.server.cmdCounter = 1
        ∧ s.site.inbox () = [] ∧ s.site.outbox () = []
        ∧ ((s.site.pages ()).rows 0).disabled = false
        ∧ (s.site.pages ()).toggleDoor 0 = [⟨doorId 0, "D0".toList, toggleWord true⟩]
        ∧ (s.doors 0).Locks closed)) = true := by
    decide +kernel
  obtain ⟨s, hr, hs⟩ := (Option.any_eq_true ..).mp hfacts
  obtain ⟨htracks, hknows, hopen, hcount, hinbox, houtbox, henabled, hbutton, hlocks⟩ :=
    of_decide_eq_true hs
  have hdoc : ∀ e ∈ greeted, Documented e := by simp [greeted, Documented]
  have htoggles : Toggles (s.doors 0) closed true := ⟨hlocks, fun _ _ => rfl⟩
  obtain ⟨es', s', hr', -, hposition, hsettled⟩ := toggleTrip ⟨_, hdoc, hr⟩ (by decide)
    ⟨htracks, hknows⟩ hopen (by rw [hcount]; decide) hinbox houtbox henabled hbutton htoggles
  exact ⟨s, es', s', hr, hr', hposition, hsettled ()⟩

end Trip

end House

end HomeSecurity
