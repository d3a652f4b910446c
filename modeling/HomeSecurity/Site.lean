import HomeSecurity.DoorMod
import HomeSecurity.HubCommand
import HomeSecurity.Lts

/-!
# A door, the hub and a web server

One door module, the hub with any number of `hub_udp_send_command` calls for
that module, and one web server sending COMMANDs for it, over a network that may
delay, reorder and lose datagrams, but does not duplicate them. Each step is one
party's: a call's next action, one line handled, one report.

Datagrams carry where they come from (`Origin`): a COMMAND the call or web
command it was sent for, and a FEEDBACK that of the COMMAND it answers. Nothing
in the programs reads it; it is what the history is written in.

The hub answers on sockets of its own and only to addresses it heard from, the
door's and the web server's; a datagram to any other address is lost.
-/

namespace HomeSecurity

open CText

namespace Site

inductive Origin where
  /-- The `n`-th call of `hub_udp_send_command`. -/
  | hubCall (n : Nat)
  /-- The web server's command with id `c`. -/
  | web (c : Int)
  /-- The door on its own account. -/
  | door
deriving DecidableEq

inductive Party where
  | hub
  | door
  | web
  | nobody
deriving DecidableEq

structure Packet where
  src : SockAddr
  dst : Party
  bytes : Text
  origin : Origin

/-- The module id and the addresses of a site. -/
structure Config where
  module : Text
  hubAddr : SockAddr
  doorAddr : SockAddr
  webAddr : SockAddr
  isModuleId : IsModuleId module
  distinct : webAddr ≠ doorAddr

structure State where
  hub : Hub
  calls : List SendCall
  door : DoorMod
  /-- `cmdCounter` of the web server. -/
  cmdCounter : Int
  flight : List Packet
  /-- The call of each copy of a COMMAND that went out. -/
  sent : List Nat
  /-- The handler calls at the door, in order. -/
  invoked : List (Origin × DoorUdp.CmdCall)
  /-- The addresses that FEEDBACKs were relayed to. -/
  relayed : List (SockAddr × Origin)

inductive Label where
  | web (target action : Text)
  | hubCall (target action : Text)
  | transmit (n : Nat) (ok : Bool)
  | wake (n : Nat) (timedOut : Bool)
  | heartbeat (distance t : Int)
  /-- The `k`-th datagram in flight arrives; a handler call it causes reads `env`. -/
  | deliver (k : Nat) (env : Env) (t issued : Int)
  | lose (k : Nat)
  | check (now : Int)

section Steps

variable (cfg : Config)

def Config.party (a : SockAddr) : Party :=
  if a = cfg.doorAddr then .door else if a = cfg.webAddr then .web else .nobody

/-- What the hub sends when it handles a datagram from `origin`. -/
def hubPackets (origin : Origin) : HubOut → List Packet
  | .relay dest _ _ msg => [⟨cfg.hubAddr, cfg.party dest, msg.text, origin⟩]
  | .forward dest line => [⟨cfg.hubAddr, cfg.party dest, line, origin⟩]
  | .alert _ => []
  | .broadcast => []

/-- The door sends to the hub only. -/
def doorPacket (origin : Origin) (send : DoorSend) : Packet :=
  ⟨cfg.doorAddr, .hub, send.line.text, origin⟩

/-- One turn of `door_cmd_thread`, with the registered handler. -/
def listen (door : DoorMod) (p : Packet) (env : Env) :
    DoorMod × List Packet × List (Origin × DoorUdp.CmdCall) :=
  match door.udp.doorCmdThread p.bytes with
  | (some cmd, _) =>
      let r := door.appCommandHandler cmd env
      (r.call.mod,
        r.call.sends.map (doorPacket cfg .door) ++ r.feedbackSends.map (doorPacket cfg p.origin),
        [(p.origin, cmd)])
  | (none, sends) => (door, sends.map (doorPacket cfg p.origin), [])

/-- A datagram arrives, and is no longer in flight. -/
def arrive (s : State) (p : Packet) (env : Env) (t issued : Int) : State :=
  match p.dst with
  | .hub =>
      let r := s.hub.handleLine ⟨p.src, p.bytes, t, issued⟩
      { s with
        hub := r.1
        flight := s.flight ++ r.2.flatMap (hubPackets cfg p.origin)
        relayed := s.relayed ++ (Hub.relays r.2).map fun k => (k.1, p.origin) }
  | .door =>
      let r := listen cfg s.door p env
      { s with
        door := r.1
        flight := s.flight ++ r.2.1
        invoked := s.invoked ++ r.2.2 }
  | .web => s
  | .nobody => s

def step (s : State) : Label → Option State
  | .web target action =>
      some { s with
        cmdCounter := s.cmdCounter + 1
        flight := s.flight ++ [⟨cfg.webAddr, .hub,
          commandLine cfg.module s.cmdCounter target action, .web s.cmdCounter⟩] }
  | .hubCall target action =>
      some (match s.hub.hubUdpSendCommand cfg.module target action with
        | some r => { s with hub := r.1, calls := s.calls ++ [r.2] }
        | none => s)
  | .transmit n ok =>
      s.calls[n]?.bind fun k => (k.transmit ok).map fun r =>
        { s with
          calls := s.calls.set n r.1
          flight := s.flight ++ r.2.map fun o => ⟨cfg.hubAddr, cfg.party o.1, o.2.text, .hubCall n⟩
          sent := s.sent ++ r.2.map fun _ => n }
  | .wake n timedOut =>
      s.calls[n]?.bind fun k => (k.wake (s.hub.doors k.door) timedOut).map fun k' =>
        { s with calls := s.calls.set n k' }
  | .heartbeat distance t =>
      let r := s.door.heartbeatWorker distance t
      some { s with door := r.1, flight := s.flight ++ r.2.map (doorPacket cfg .door) }
  | .deliver k env t issued =>
      s.flight[k]?.map fun p => arrive cfg { s with flight := s.flight.eraseIdx k } p env t issued
  | .lose k => some { s with flight := s.flight.eraseIdx k }
  | .check now => some { s with hub := (s.hub.checkOfflineModules now).1 }

/-- The door has just started reporting; its HELLO is on its way. -/
def init (webhookUrl : Text) (pos : Fin StepperMotor.stepsPerRev) (heartbeatMs t now : Int) :
    State :=
  let r := (DoorMod.initial pos).doorReportingStart cfg.module heartbeatMs t now true
  { hub := .init webhookUrl
    calls := []
    door := r.1
    cmdCounter := 1
    flight := r.2.map (doorPacket cfg .door)
    sent := []
    invoked := []
    relayed := [] }

end Steps

/-! ## What is in flight

The type word of a datagram tells what the hub can do with it. Only the web
server's datagrams have type COMMAND, and a FEEDBACK always answers somebody. -/

/-- The second word of a datagram. -/
def Packet.type (p : Packet) : Option Text := (wireTokens p.bytes)[1]?

inductive ToHub (cfg : Config) (p : Packet) : Prop where
  | command (c : Int) (type : p.type = some "COMMAND".toList) (src : p.src = cfg.webAddr)
      (origin : p.origin = .web c)
  | feedback (type : p.type = some "FEEDBACK".toList) (origin : p.origin ≠ .door)
  | report (r : Report) (type : p.type = some r.type)

def Packet.Ok (cfg : Config) (p : Packet) : Prop :=
  match p.dst with
  | .hub => ToHub cfg p
  | .door => p.origin ≠ .door
  | .web => True
  | .nobody => True

/-- Slots that were ever used are the web server's. -/
def Clients (cfg : Config) (p : PendingCmds) : Prop :=
  ∀ i, (p i).moduleId.text = [] ∨ (p i).clientAddr = cfg.webAddr

structure Inv (cfg : Config) (s : State) : Prop where
  packets : ∀ p ∈ s.flight, p.Ok cfg
  module : s.door.udp.moduleId.text = cfg.module
  clients : Clients cfg s.hub.pendingCmds

theorem Packet.type_eq {p : Packet} {mod type : Text} {args : List Text}
    (htok : wireTokens p.bytes = mod :: type :: args) : p.type = some type := by
  rw [Packet.type, htok]
  rfl

section Parties

variable {cfg : Config}

/-! ### The door -/

theorem ok_report {send : DoorSend} {u : DoorUdp} (hu : u.moduleId.text = cfg.module) {r : Report}
    (hline : send.line = u.reportBuf r) : (doorPacket cfg .door send).Ok cfg := by
  have htok : wireTokens send.line.text = cfg.module :: r.type :: r.args := by
    rw [hline, DoorUdp.reportBuf, hu, wireTokens_reportBuf cfg.isModuleId]
  exact ToHub.report r (Packet.type_eq htok)

theorem ok_feedback {send : DoorSend} {origin : Origin} (ho : origin ≠ .door) {c : Int}
    {target action : Text}
    (hline : send.line = snprintf 256 (feedbackLine cfg.module c target action)) :
    (doorPacket cfg origin send).Ok cfg := by
  obtain ⟨args, htok⟩ := wireTokens_feedback cfg.isModuleId c target action
  rw [← hline] at htok
  exact ToHub.feedback (Packet.type_eq htok) ho

theorem ok_updated {u : DoorUdp} {r : DoorUdp × List DoorSend} (h : u.Updated r)
    (hu : u.moduleId.text = cfg.module) : ∀ q ∈ r.2.map (doorPacket cfg .door), q.Ok cfg := by
  intro q hq
  obtain ⟨send, hsend, rfl⟩ := List.mem_map.mp hq
  obtain ⟨rep, hline⟩ := h.lines send hsend
  exact ok_report hu hline

/-- What one turn of the listener can do: its packets are fit for the hub, its
module id stays, and the handler is called for this packet or not at all. -/
theorem listen_spec {door : DoorMod} (hu : door.udp.moduleId.text = cfg.module) {p : Packet}
    (ho : p.origin ≠ .door) (env : Env) :
    (listen cfg door p env).1.udp.moduleId.text = cfg.module
      ∧ (∀ q ∈ (listen cfg door p env).2.1, q.dst = .hub ∧ q.Ok cfg)
      ∧ ((listen cfg door p env).2.2 = [] ∨ ∃ cmd, (listen cfg door p env).2.2 = [(p.origin, cmd)])
    := by
  have hsends := door.udp.doorCmdThread_sends p.bytes
  unfold listen
  split
  · rename_i cmd _ hcmd
    have hcall := door.handlerCall_updated cmd.action env
    have hmod : cmd.module = cfg.module := by
      have hsome : (door.udp.doorCmdThread p.bytes).1 = some cmd := by rw [hcmd]
      obtain ⟨-, cs, rest, -, hmodule, -⟩ := DoorUdp.doorCmdThread_eq_some_iff.mp hsome
      rw [hmodule, hu]
    refine ⟨(congrArg CBuf.text hcall.config.2.1).trans hu, fun q hq => ?_, Or.inr ⟨cmd, rfl⟩⟩
    rcases List.mem_append.mp hq with hq | hq
    · refine ⟨?_, ok_updated hcall hu q hq⟩
      obtain ⟨send, -, rfl⟩ := List.mem_map.mp hq
      rfl
    · obtain ⟨send, hsend, rfl⟩ := List.mem_map.mp hq
      obtain ⟨action, hline⟩ := door.appCommandHandler_line cmd env send hsend
      rw [hmod] at hline
      exact ⟨rfl, ok_feedback ho hline⟩
  · rename_i sends hcmd
    rw [hcmd] at hsends
    refine ⟨hu, fun q hq => ?_, Or.inl rfl⟩
    obtain ⟨send, hsend, rfl⟩ := List.mem_map.mp hq
    obtain ⟨c, target, action, hline⟩ := hsends send hsend
    rw [hu] at hline
    exact ⟨rfl, ok_feedback ho hline⟩

/-! ### The hub -/

theorem party_ne_hub (a : SockAddr) : cfg.party a ≠ .hub := by
  unfold Config.party
  split
  · nofun
  · split <;> nofun

theorem party_web : cfg.party cfg.webAddr = .web := by
  rw [Config.party, if_neg cfg.distinct, if_pos rfl]

/-- A COMMAND registered at the hub came from the web server. -/
theorem ToHub.src_of_command {p : Packet} (h : ToHub cfg p)
    (htype : p.type = some "COMMAND".toList) :
    p.src = cfg.webAddr ∧ ∃ c, p.origin = .web c := by
  cases h with
  | command c _ src origin => exact ⟨src, c, origin⟩
  | feedback type origin =>
      rw [htype] at type
      exact absurd (Option.some.inj type) (by decide)
  | report r type =>
      rw [htype] at type
      exact absurd (Option.some.inj type).symm (Report.type_ne_command r)

theorem ToHub.origin_of_feedback {p : Packet} (h : ToHub cfg p)
    (htype : p.type = some "FEEDBACK".toList) : p.origin ≠ .door := by
  cases h with
  | command c type =>
      rw [htype] at type
      exact absurd (Option.some.inj type) (by decide)
  | feedback type origin => exact origin
  | report r type =>
      rw [htype] at type
      exact absurd (Option.some.inj type).symm (Report.type_ne_feedback r)

/-- What the hub sends when it handles a datagram: COMMANDs of the web server,
passed on, and relays to the web server. -/
theorem hubPackets_spec {h : Hub} {p : Packet} (hp : ToHub cfg p)
    (hclients : Clients cfg h.pendingCmds) (t issued : Int) {q : Packet}
    (hq : q ∈ (h.handleLine ⟨p.src, p.bytes, t, issued⟩).2.flatMap (hubPackets cfg p.origin)) :
    (∃ c, q.origin = .web c ∧ q.dst ≠ .hub) ∨ q.dst = .web := by
  obtain ⟨out, hout, hmem⟩ := List.mem_flatMap.mp hq
  cases out with
  | forward dest line =>
      rw [List.mem_singleton.mp hmem]
      obtain ⟨mod, args, htok⟩ := Hub.handleLine_forward hout
      obtain ⟨-, c, hc⟩ := hp.src_of_command (Packet.type_eq htok)
      exact Or.inl ⟨c, hc, party_ne_hub dest⟩
  | relay dest mod cmdid msg =>
      rw [List.mem_singleton.mp hmem]
      have hrel : (dest, mod, cmdid) ∈ Hub.relays
          (h.handleLine ⟨p.src, p.bytes, t, issued⟩).2 :=
        List.mem_filterMap.mpr ⟨_, hout, rfl⟩
      obtain ⟨hop, i, hfind, haddr⟩ := Hub.handleLine_relay hrel
      obtain ⟨args, htok⟩ := Hub.pendingOp_answer_tokens hop
      have hne : mod ≠ [] := strtok_ne_nil (htok ▸ List.mem_cons_self ..)
      right
      rcases hclients i with hnil | hweb
      · exact absurd ((PendingCmds.find_eq_some_iff.mp hfind).1.2.symm.trans hnil) hne
      · show cfg.party dest = .web
        rw [show dest = cfg.webAddr from haddr.trans hweb, party_web]
  | alert msg => cases hmem
  | broadcast => cases hmem

theorem ok_of_ne_hub {q : Packet} (hdst : q.dst ≠ .hub) (ho : q.origin ≠ .door) : q.Ok cfg := by
  unfold Packet.Ok
  split
  · rename_i heq
    exact absurd heq hdst
  · exact ho
  · trivial
  · trivial

theorem ok_hubPackets {h : Hub} {p : Packet} (hp : ToHub cfg p)
    (hclients : Clients cfg h.pendingCmds) (t issued : Int) :
    ∀ q ∈ (h.handleLine ⟨p.src, p.bytes, t, issued⟩).2.flatMap (hubPackets cfg p.origin),
      q.Ok cfg := by
  intro q hq
  rcases hubPackets_spec hp hclients t issued hq with ⟨c, ho, hdst⟩ | hdst
  · exact ok_of_ne_hub hdst (by rw [ho]; nofun)
  · unfold Packet.Ok
    rw [hdst]
    trivial

theorem Clients.apply {p : PendingCmds} (h : Clients cfg p) {src : SockAddr} {issued : Int}
    {op : Hub.PendingOp} (hsrc : ∀ m c, op = .register m c → src = cfg.webAddr) :
    Clients cfg (p.apply src issued op).1 := by
  intro i
  rcases p.apply_slot src issued op i with hsame | ⟨m, c, hop, -, hnew⟩ | ⟨m, c, -, -, hfreed⟩
  · rw [hsame]
    exact h i
  · rw [hnew]
    exact Or.inr (hsrc m c hop)
  · rw [hfreed]
    exact h i

theorem clients_handleLine {h : Hub} {p : Packet} (hp : ToHub cfg p)
    (hclients : Clients cfg h.pendingCmds) (t issued : Int) :
    Clients cfg (h.handleLine ⟨p.src, p.bytes, t, issued⟩).1.pendingCmds := by
  rw [h.handleLine_pendingCmds]
  refine hclients.apply fun m c hop => ?_
  obtain ⟨args, htok⟩ := Hub.pendingOp_register_tokens hop
  exact (hp.src_of_command (Packet.type_eq htok)).1

/-! ### Every step -/

section Arrive

variable (s : State) (p : Packet) (env : Env) (t issued : Int)

@[simp] theorem arrive_calls : (arrive cfg s p env t issued).calls = s.calls := by
  unfold arrive
  split <;> rfl

@[simp] theorem arrive_sent : (arrive cfg s p env t issued).sent = s.sent := by
  unfold arrive
  split <;> rfl

end Arrive

theorem inv_init (webhookUrl : Text) (pos : Fin StepperMotor.stepsPerRev)
    (heartbeatMs t now : Int) : Inv cfg (init cfg webhookUrl pos heartbeatMs t now) := by
  have hmod : (snprintf 16 cfg.module).text = cfg.module := snprintf_text cfg.isModuleId.short
  refine ⟨fun q hq => ?_, hmod, fun i => Or.inl rfl⟩
  obtain ⟨send, hsend, rfl⟩ := List.mem_map.mp hq
  have hline := List.mem_singleton.mp hsend
  exact ok_report (r := .hello) hmod (by rw [hline])

/-- The arrival of a datagram. -/
theorem Inv.arrive {s : State} (h : Inv cfg s) {p : Packet} (hp : p.Ok cfg) (env : Env)
    (t issued : Int) : Inv cfg (arrive cfg s p env t issued) := by
  unfold Site.arrive
  unfold Packet.Ok at hp
  split
  · rename_i hdst
    rw [hdst] at hp
    refine ⟨fun q hq => ?_, h.module, clients_handleLine hp h.clients t issued⟩
    rcases List.mem_append.mp hq with hq | hq
    · exact h.packets q hq
    · exact ok_hubPackets hp h.clients t issued q hq
  · rename_i hdst
    rw [hdst] at hp
    obtain ⟨hmod, hsends, -⟩ := listen_spec h.module hp env
    refine ⟨fun q hq => ?_, hmod, h.clients⟩
    rcases List.mem_append.mp hq with hq | hq
    · exact h.packets q hq
    · exact (hsends q hq).2
  · exact h
  · exact h

theorem Inv.eraseIdx {s : State} (h : Inv cfg s) (k : Nat) :
    Inv cfg { s with flight := s.flight.eraseIdx k } :=
  ⟨fun p hp => h.packets p (List.mem_of_mem_eraseIdx hp), h.module, h.clients⟩

theorem inv_step (s : State) (l : Label) (s' : State) (h : Inv cfg s)
    (hs : step cfg s l = some s') : Inv cfg s' := by
  cases l with
  | web target action =>
      obtain rfl := Option.some.inj hs
      refine ⟨fun q hq => ?_, h.module, h.clients⟩
      rcases List.mem_append.mp hq with hq | hq
      · exact h.packets q hq
      · rw [List.mem_singleton.mp hq]
        obtain ⟨args, htok⟩ := wireTokens_command cfg.isModuleId s.cmdCounter target action
        exact ToHub.command s.cmdCounter (Packet.type_eq htok) rfl rfl
  | hubCall target action =>
      obtain rfl := Option.some.inj hs
      cases hc : s.hub.hubUdpSendCommand cfg.module target action with
      | none => exact h
      | some r =>
          obtain ⟨hub, k⟩ := r
          obtain ⟨-, rfl, -⟩ := Hub.hubUdpSendCommand_eq_some hc
          exact ⟨h.packets, h.module, h.clients⟩
  | transmit n ok =>
      obtain ⟨k, -, hm⟩ := Option.bind_eq_some_iff.mp hs
      obtain ⟨r, -, rfl⟩ := Option.map_eq_some_iff.mp hm
      refine ⟨fun q hq => ?_, h.module, h.clients⟩
      rcases List.mem_append.mp hq with hq | hq
      · exact h.packets q hq
      · obtain ⟨o, -, rfl⟩ := List.mem_map.mp hq
        exact ok_of_ne_hub (party_ne_hub _) nofun
  | wake n timedOut =>
      obtain ⟨k, -, hm⟩ := Option.bind_eq_some_iff.mp hs
      obtain ⟨k', -, rfl⟩ := Option.map_eq_some_iff.mp hm
      exact ⟨h.packets, h.module, h.clients⟩
  | heartbeat distance t =>
      obtain rfl := Option.some.inj hs
      have hup := s.door.heartbeatWorker_updated distance t
      refine ⟨fun q hq => ?_, (congrArg CBuf.text hup.config.2.1).trans h.module, h.clients⟩
      rcases List.mem_append.mp hq with hq | hq
      · exact h.packets q hq
      · exact ok_updated hup h.module q hq
  | deliver k env t issued =>
      obtain ⟨p, hp, rfl⟩ := Option.map_eq_some_iff.mp hs
      exact (h.eraseIdx k).arrive (h.packets p (List.mem_of_getElem? hp)) env t issued
  | lose k =>
      obtain rfl := Option.some.inj hs
      exact h.eraseIdx k
  | check now =>
      obtain rfl := Option.some.inj hs
      refine ⟨h.packets, h.module, ?_⟩
      show Clients cfg (s.hub.checkOfflineModules now).1.pendingCmds
      rw [(s.hub.checkOfflineModules_frame now).1.pendingCmds]
      exact h.clients

end Parties

/-! ## A site -/

/-- `D1` with its web server. -/
def siteD1 : Config :=
  ⟨"D1".toList, ⟨1, 12345⟩, ⟨2, 40000⟩, ⟨9, 50000⟩, isModuleId_D1, by decide⟩

/-- The door stands open at 50 cm and stays so. -/
def openDoor : Env := ⟨[50], 50, 50, fun _ _ => true, 40, 40⟩

def Label.arrives (k : Nat) : Label := .deliver k openDoor 30 30

end Site

end HomeSecurity
