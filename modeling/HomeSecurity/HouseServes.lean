import HomeSecurity.HouseRuns
import HomeSecurity.Routing

/-!
# What a house is ready for

What a command needs on its way is kept by every step: the hub knows a door by no address
but its own, waits for no id that the web server has yet to give, and answers the web server;
and a door that listens has its handler.
-/

namespace HomeSecurity

open CText JsText StepperMotor

namespace House

variable {κ : Type} [DecidableEq κ] {cfg : HouseConfig} {k : Known} {n : Int} {i : Fin 3}

/-! ## What the hub keeps -/

structure HubServes (cfg : HouseConfig) (n : Int) (h : Hub) : Prop where
  endpoints : ∀ i a, h.endpointAddr (doorId i) = some a → a = cfg.doorAddr i
  clients : ∀ slot, (h.pendingCmds slot).cmdid ≠ 0 →
    (h.pendingCmds slot).clientAddr = cfg.webAddr
  fresh : n ≤ 2 ^ 31 → ∀ slot, (h.pendingCmds slot).cmdid < n

theorem HubServes.mono {h : Hub} (hh : HubServes cfg n h) {n' : Int} (hn : n ≤ n') :
    HubServes cfg n' h where
  endpoints := hh.endpoints
  clients := hh.clients
  fresh hn' slot := Int.lt_of_lt_of_le (hh.fresh (Int.le_trans hn hn') slot) hn

theorem HubServes.of_tables {h h' : Hub} (hh : HubServes cfg n h)
    (ht : h'.endpointTable = h.endpointTable) (hp : h'.pendingCmds = h.pendingCmds) :
    HubServes cfg n h' where
  endpoints i a ha := hh.endpoints i a ((Hub.endpointAddr_of_table ht _).symm.trans ha)
  clients := by
    rw [hp]
    exact hh.clients
  fresh := by
    rw [hp]
    exact hh.fresh

theorem wireTokens_commandLine_head (i : Fin 3) (c : Int) (target action : Text) :
    ∃ args, wireTokens (commandLine (doorId i) c target action)
      = doorId i :: "COMMAND".toList :: args := by
  have hhead : ∀ rest : Text,
      cstr ((doorId i ++ ' ' :: ("COMMAND".toList ++ ' ' :: rest)).take 255)
        = doorId i ++ ' ' :: ("COMMAND".toList ++ ' ' :: cstr (rest.take 244)) := by
    intro rest
    match i with
    | 0 => rfl
    | 1 => rfl
    | 2 => rfl
  refine ⟨strtok isDelim
    (cstr ((decimal c ++ ' ' :: (target ++ ' ' :: action) ++ ['\n']).take 244)), ?_⟩
  have hline : commandLine (doorId i) c target action = doorId i ++ ' ' :: ("COMMAND".toList
      ++ ' ' :: (decimal c ++ ' ' :: (target ++ ' ' :: action) ++ ['\n'])) := by
    simp [commandLine_eq, numbered]
  rw [wireTokens, hline, hhead,
    strtok_word ((isGraphic_doorId i).isWord fun _ => isDelim_of_graph) (by decide),
    strtok_word (isGraphic_command.isWord fun _ => isDelim_of_graph) (by decide)]

/-- What a datagram at the hub is: the web server's COMMAND, or a door's own line. -/
theorem Sent.at_hub {p : Packet} (h : Sent cfg k n p) (hdst : p.dst = .hub)
    {mod type : Text} {args : List Text} (htok : wireTokens p.bytes = mod :: type :: args) :
    (type = "COMMAND".toList ∧ p.src = cfg.webAddr ∧ ∀ cs target action rest,
        args = cs :: target :: action :: rest → ∃ c, 1 ≤ c ∧ c < n ∧ cs = decimal c)
      ∨ type ≠ "COMMAND".toList ∧ ∃ i, mod = doorId i ∧ p.src = cfg.doorAddr i := by
  cases h with
  | hub hne => exact absurd hdst hne
  | @web i c action _ hsrc haction _ hpos hlt hbytes =>
      obtain ⟨args', htok'⟩ := wireTokens_commandLine_head i c "D0".toList action
      have hcut := cutShort_commandLine (isGraphic_doorId i) isGraphic_D0
        (isGraphic_commandWord haction) (List.prefix_rfl (l := commandLine (doorId i) c _ action))
      rw [hbytes] at htok
      rw [htok] at htok' hcut
      obtain ⟨rfl, htype⟩ := List.cons.inj htok'
      refine Or.inl ⟨(List.cons.inj htype).1, hsrc, fun cs target action rest hargs => ?_⟩
      rw [hargs] at hcut
      obtain ⟨-, -, hcs, -⟩ := hcut.five
      exact ⟨c, hpos, hlt, hcs⟩
  | @door i _ hsrc hdoor =>
      refine Or.inr ?_
      cases hdoor with
      | report h =>
          have hcut := cutShort_reportLine h
          rw [htok] at hcut
          obtain ⟨hmod, hrest⟩ := hcut.of_cons_cons
          refine ⟨fun htype => ?_, i, hmod, hsrc⟩
          exact (Report.type_differs _).1 (htype ▸ hrest.of_cons.1)
      | feedback htarget haction hcarries h =>
          have hcut := cutShort_feedbackLine (isGraphic_doorId i) htarget haction h
          rw [htok] at hcut
          obtain ⟨hmod, hrest⟩ := hcut.of_cons_cons
          refine ⟨fun htype => ?_, i, hmod, hsrc⟩
          exact absurd (htype ▸ hrest.of_cons.1) (by decide)

/-- What `hub_update_endpoint` notes of a door. -/
theorem endpointAddr_noted {h : Hub} (hh : HubServes cfg n h) {j : Fin 3} {a : SockAddr}
    (ha : (h.hubUpdateEndpoint (doorId j) (cfg.doorAddr j)).endpointAddr (doorId i) = some a) :
    a = cfg.doorAddr i := by
  have hshort : ∀ i, (doorId i).length < hubModuleIdLen := by decide
  by_cases hi : i = j
  · subst hi
    by_cases hfull : h.EndpointsFull (doorId i)
    · rw [Hub.endpointAddr_of_full (hfull.hubUpdateEndpoint ..)] at ha
      cases ha
    · rw [h.hubUpdateEndpoint_self _ (hshort i) hfull] at ha
      exact (Option.some.inj ha).symm
  · have hne : doorId i ≠ doorId j := fun heq => hi (doorId_injective heq)
    rw [h.hubUpdateEndpoint_of_other _ hne (by rwa [Hub.storedId_of_short (hshort j)])] at ha
    exact hh.endpoints i a ha

theorem HubServes.handleLine {h : Hub} (hh : HubServes cfg n h) (hn : 1 ≤ n) {p : Packet}
    (hp : Sent cfg k n p) (hdst : p.dst = .hub) (t issued : Int) :
    HubServes cfg n (h.handleLine ⟨p.src, p.bytes, t, issued⟩).1 := by
  -- what a slot holds afterwards
  have hslot : ∀ slot,
      ((h.handleLine ⟨p.src, p.bytes, t, issued⟩).1.pendingCmds slot = h.pendingCmds slot)
      ∨ (((h.handleLine ⟨p.src, p.bytes, t, issued⟩).1.pendingCmds slot).clientAddr = cfg.webAddr
        ∧ (n ≤ 2 ^ 31 →
          ((h.handleLine ⟨p.src, p.bytes, t, issued⟩).1.pendingCmds slot).cmdid < n))
      ∨ ((h.handleLine ⟨p.src, p.bytes, t, issued⟩).1.pendingCmds slot).cmdid = 0 := by
    intro slot
    rw [h.handleLine_pendingCmds]
    rcases h.pendingCmds.apply_slot p.src issued (h.pendingOp ⟨p.src, p.bytes, t, issued⟩) slot with
      hsame | ⟨m, c, hop, -, hnew⟩ | ⟨m, c, -, -, hfreed⟩
    · exact Or.inl hsame
    · obtain ⟨-, cs, target, action, rest, htok, rfl⟩ := Hub.pendingOp_eq_register_iff.mp hop
      rcases hp.at_hub hdst htok with ⟨-, hsrc, hcs⟩ | ⟨htype, -⟩
      · obtain ⟨c, hpos, hlt, rfl⟩ := hcs cs target action rest rfl
        rw [hnew]
        refine Or.inr (Or.inl ⟨hsrc, fun hn => ?_⟩)
        have hread : atoi (decimal c) = c := atoi_decimal (by omega) (by omega)
        dsimp only
        omega
      · exact absurd rfl htype
    · rw [hfreed]
      exact Or.inr (Or.inr rfl)
  refine ⟨fun i a ha => ?_, fun slot hne => ?_, fun hlt slot => ?_⟩
  · rcases Datagram.tokens_cases ⟨p.src, p.bytes, t, issued⟩ with ⟨mod, type, args, htok⟩ | hshort
    · rw [Hub.endpointAddr_of_table (Hub.handleLine_endpointTable htok), Hub.noteEndpoint] at ha
      rcases hp.at_hub hdst htok with ⟨htype, -, -⟩ | ⟨htype, j, rfl, hsrc⟩
      · rw [if_pos htype] at ha
        exact hh.endpoints i a ha
      · rw [if_neg htype, hsrc] at ha
        exact endpointAddr_noted hh ha
    · rw [Hub.handleLine_of_short hshort] at ha
      exact hh.endpoints i a ha
  · rcases hslot slot with hsame | ⟨haddr, -⟩ | hfree
    · rw [hsame] at hne ⊢
      exact hh.clients slot hne
    · exact haddr
    · exact absurd hfree hne
  · rcases hslot slot with hsame | ⟨-, hid⟩ | hfree
    · rw [hsame]
      exact hh.fresh hlt slot
    · exact hid hlt
    · omega

/-! ## What the house keeps -/

/-- A door that can send has its handler. -/
def HasHandler (u : DoorUdp) : Prop := u.sockOpen = true → u.hasCmdHandler = true

theorem HasHandler.updated {u : DoorUdp} (hu : HasHandler u) {r : DoorUdp × List DoorSend}
    (h : u.Updated r) : HasHandler r.1 := by
  obtain ⟨hsock, -, -, hhandler⟩ := h.config
  intro hopen
  rw [hhandler]
  exact hu (hsock ▸ hopen)

theorem HasHandler.act {s : DoorMod} (hs : HasHandler s.udp) (id : Text) (c : DoorCall) :
    HasHandler (s.act id c).1.udp := by
  cases c with
  | start heartbeatMs t now ok =>
      simp only [DoorMod.act, DoorMod.doorReportingStart, DoorUdp.doorUdpInit2]
      cases ok <;> exact fun _ => rfl
  | stop => exact fun hopen => absurd hopen Bool.false_ne_true
  | heartbeat distance t => exact hs.updated (s.heartbeatWorker_updated distance t)
  | lock door env =>
      obtain ⟨pos, door', leds, applied, heq⟩ := s.lockDoor_reported door env
      simp only [DoorMod.act, heq]
      exact hs.updated (DoorMod.reported_updated { s with position := pos } door' env leds applied)
  | unlock door env =>
      obtain ⟨pos, door', leds, applied, heq⟩ := s.unlockDoor_reported door env
      simp only [DoorMod.act, heq]
      exact hs.updated (DoorMod.reported_updated { s with position := pos } door' env leds applied)
  | status door env =>
      obtain ⟨pos, door', leds, applied, heq⟩ := s.getDoorStatus_reported door env
      simp only [DoorMod.act, heq]
      exact hs.updated (DoorMod.reported_updated { s with position := pos } door' env leds applied)
  | cleanup writes =>
      intro hopen
      simp only [DoorMod.act, DoorMod.doorModCleanup] at hopen
      split at hopen <;> cases hopen

theorem HasHandler.listen {s : DoorMod} (hs : HasHandler s.udp) (bytes : Text) (env : Env) :
    HasHandler (s.listen bytes env).1.udp := by
  unfold DoorMod.listen
  split
  · exact hs.updated (s.handlerCall_updated _ env)
  · exact hs

structure Serves (cfg : HouseConfig) (s : House κ) : Prop where
  hub : HubServes cfg s.site.server.cmdCounter s.hub
  doors : ∀ i, HasHandler (s.doors i).udp

omit [DecidableEq κ] in
theorem Serves.updateDoor {s : House κ} (h : Serves cfg s) (i : Fin 3)
    {r : DoorMod × List DoorSend} (hr : HasHandler r.1.udp) : Serves cfg (s.updateDoor cfg i r) :=
  ⟨h.hub, forall_update (P := fun d : DoorMod => HasHandler d.udp) h.doors i hr⟩

theorem Serves.arrive {s : House κ} (h : Serves cfg s) (hok : Ok cfg k s) {p : Packet}
    (hp : p ∈ s.sent) (env : Env) (t issued : Int) : Serves cfg (s.arrive cfg p env t issued) := by
  unfold House.arrive
  split
  · rename_i hdst
    exact ⟨h.hub.handleLine hok.site.counter (hok.sent p hp) hdst t issued, h.doors⟩
  · rename_i i hdst
    split
    · exact h.updateDoor i ((h.doors i).listen p.bytes env)
    · exact h
  · refine ⟨?_, h.doors⟩
    show HubServes cfg (s.site.server.message p.bytes).1.cmdCounter s.hub
    rw [message_cmdCounter]
    exact h.hub
  · exact h

theorem Serves.step {s s' : House κ} {e : HouseEvent κ} (h : Serves cfg s) (hok : Ok cfg k s)
    (hs : step cfg s e = some s') : Serves cfg s' := by
  cases e with
  | site e =>
      obtain ⟨hmessage, site, hsite, rfl⟩ := step_site hs
      exact ⟨h.hub.mono (cmdCounter_le hsite), h.doors⟩
  | post module target action =>
      obtain rfl := Option.some.inj hs
      split
      · rename_i r hr
        obtain ⟨-, hhub, -⟩ := Hub.hubUdpSendCommand_eq_some hr
        refine ⟨h.hub.of_tables ?_ ?_, h.doors⟩
        · rw [hhub]
          rfl
        · rw [hhub]
      · exact h
  | transmit n ok =>
      obtain ⟨c, -, hsome⟩ := Option.bind_eq_some_iff.mp hs
      obtain ⟨r, -, rfl⟩ := Option.map_eq_some_iff.mp hsome
      exact ⟨h.hub, h.doors⟩
  | wake n timedOut =>
      obtain ⟨c, -, hsome⟩ := Option.bind_eq_some_iff.mp hs
      obtain ⟨c', -, rfl⟩ := Option.map_eq_some_iff.mp hsome
      exact ⟨h.hub, h.doors⟩
  | check now =>
      obtain rfl := Option.some.inj hs
      exact ⟨h.hub.of_tables (s.hub.checkOfflineModules_endpointTable now)
        (s.hub.checkOfflineModules_frame now).1.pendingCmds, h.doors⟩
  | door i c =>
      obtain rfl := Option.some.inj hs
      exact h.updateDoor i ((h.doors i).act (doorId i) c)
  | deliver n env t issued =>
      obtain ⟨p, hp, rfl⟩ := Option.map_eq_some_iff.mp hs
      exact h.arrive hok (List.mem_of_getElem? hp) env t issued

section Runs

variable {webhookUrl : Text} {positions : Fin 3 → Fin stepsPerRev}

theorem serves_run {es : List (HouseEvent κ)} {s : House κ} (hdoc : ∀ e ∈ es, Documented e)
    (hr : Lts.run (step cfg) (init webhookUrl positions) es = some s) : Serves cfg s := by
  have hinit : Serves cfg (init webhookUrl positions : House κ) := by
    refine ⟨⟨fun i a ha => ?_, fun slot hne => absurd rfl hne, fun _ _ => Int.one_pos⟩,
      fun _ => nofun⟩
    have hnone : (Hub.init webhookUrl).endpointAddr (doorId i) = none := by
      have hfind : (Hub.init webhookUrl).hubFindEndpoint (doorId i) = none :=
        Hub.hubFindEndpoint_eq_none_iff.mpr fun j hj => absurd hj.1 (Nat.not_lt_zero _)
      rw [Hub.endpointAddr, hfind]
      rfl
    rw [show (init webhookUrl positions : House κ).hub = .init webhookUrl from rfl, hnone] at ha
    cases ha
  refine Lts.inv_run_history (I := fun es s => (∀ e ∈ es, Documented e) → Serves cfg s) ?_ ?_ hr
    hdoc
  · exact fun _ => hinit
  intro es s e s' hr h hs hdoc
  have hbefore : ∀ e ∈ es, Documented e := fun e he => hdoc e (List.mem_append_left _ he)
  exact (h hbefore).step (ok_run hbefore hr) hs

end Runs

end House

end HomeSecurity
