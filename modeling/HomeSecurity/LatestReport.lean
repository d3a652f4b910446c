import HomeSecurity.HubReports
import HomeSecurity.Replica

/-!
# From the door's updates to the hub's table

One door module with both report modes on, its two ports at the hub, and the
hub's receive loop. Neither port loses, duplicates or reorders; which port is
drained when is up to `udp_thread`: `select` prefers the main socket, and the
socket it picks is drained before it is asked again.

The door's reports are a `Replica`: an EVENT is a delta for the door or for the
lock, a HEARTBEAT is a snapshot of both, and the hub's entry is the replica.
`Sim` is the simulation; `latestReport` is what it gives: the entry equals the
last update unless the last HEARTBEAT was handled after an EVENT that the door
had sent later (`latestReport_overtaken` is such a run).
-/

namespace HomeSecurity

open CText

/-! ## Reports as deltas and snapshots -/

def partReport : Part → Bool → Report
  | .door, isOpen => .doorEvent isOpen
  | .lock, locked => .lockEvent locked

def fullReport (v : Part → Bool) : Report := .heartbeat (v .door) (v .lock)

theorem partReport_effect (k : Part) (x : Bool) (v : Part → Bool) :
    (partReport k x).effect v = Function.update v k x := by
  cases k <;> rfl

theorem fullReport_effect (v w : Part → Bool) : (fullReport w).effect v = w := by
  funext k
  cases k <;> rfl

/-! ## The link -/

namespace Link

/-- The door, the hub, the datagrams on their way to each port with the order
they were sent in, and the socket `udp_thread` is draining. The last three
fields are history: the newest EVENT the hub handled, whether the last HEARTBEAT
it handled had been sent before one, and the last update. -/
structure State where
  door : DoorUdp
  hub : Hub
  main : List (Nat × CBuf 256)
  hb : List (Nat × CBuf 256)
  draining : Option HubPort
  sent : Nat
  newestEvent : Nat
  overtaken : Bool
  reported : Option (Bool × Bool)

inductive Label where
  | update (t : Int) (d0Open d0Locked d1Open d1Locked : Bool)
  /-- `select`; the offline check of an idle second reads `now`. -/
  | select (now : Int)
  | recv (t issued : Int)
  /-- `recvfrom` ends the draining: nothing left, an error, or an empty datagram. -/
  | stop (now : Int)
  /-- A datagram of another module. -/
  | other (dg : Datagram)

/-- The sends of one call, in order, put on their channels. -/
def enqueue (s : State) (sends : List DoorSend) : State :=
  sends.foldl (fun s send =>
    match send.port with
    | .notif => { s with sent := s.sent + 1, main := s.main ++ [(s.sent + 1, send.line)] }
    | .hb => { s with sent := s.sent + 1, hb := s.hb ++ [(s.sent + 1, send.line)] }) s

/-- The door after `door_udp_init2`, with its HELLO on the way, and the hub. -/
def init (m : Text) (period now : Int) (hub : Hub) : State :=
  let (door, hello) := DoorUdp.static.doorUdpInit2 m .both period now true
  { door, hub, main := hello.map fun send => (0, send.line), hb := [], draining := none,
    sent := 0, newestEvent := 0, overtaken := false, reported := none }

variable (m : Text) (src : SockAddr)

def step (s : State) : Label → Option State
  | .update t d0Open d0Locked d1Open d1Locked =>
      let r := s.door.doorUdpUpdate t d0Open d0Locked d1Open d1Locked
      some (enqueue { s with door := r.1, reported := some (d0Open, d1Locked) } r.2)
  | .select now =>
      match s.draining with
      | some _ => none
      | none =>
          if s.main ≠ [] then some { s with draining := some .notif }
          else if s.hb ≠ [] then some { s with draining := some .hb }
          else some { s with hub := (s.hub.checkOfflineModules now).1 }
  | .recv t issued =>
      match s.draining, s.main, s.hb with
      | some .notif, (stamp, line) :: main, _ =>
          some { s with
            hub := (s.hub.handleLine ⟨src, line.text, t, issued⟩).1
            main := main, newestEvent := max s.newestEvent stamp }
      | some .hb, _, (stamp, line) :: hb =>
          some { s with
            hub := (s.hub.handleLine ⟨src, line.text, t, issued⟩).1
            hb := hb, overtaken := decide (stamp < s.newestEvent) }
      | _, _, _ => none
  | .stop now =>
      match s.draining with
      | some _ => some { s with draining := none, hub := (s.hub.checkOfflineModules now).1 }
      | none => none
  | .other dg =>
      if ∀ mod ∈ dg.tokens.head?, mod ≠ m ∧ mod.length < hubModuleIdLen then
        some { s with hub := (s.hub.handleLine dg).1 }
      else none

/-- At least one update was made and both channels are empty. -/
def Quiet (s : State) : Prop := s.reported.isSome ∧ s.main = [] ∧ s.hb = []

/-- The hub shows the values of the last update. -/
def Agrees (s : State) : Prop :=
  (s.hub.hubUdpGetStatus m).map (fun e => (e.d0Open, e.d1Locked)) = s.reported

/-! ## The simulation -/

def deltaMsg (d : Replica.Delta Part Bool) : Nat × CBuf 256 :=
  (d.stamp, reportBuf m (partReport d.key d.value))

def snapMsg (p : Replica.Snapshot Part Bool) : Nat × CBuf 256 :=
  (p.stamp, reportBuf m (fullReport p.value))

/-- The channels carry what the replica's channels carry, behind the HELLO if
that is still on its way. -/
structure Channels (s : State) (a : Replica.State Part Bool) : Prop where
  sent : a.sent = s.sent
  main : ∃ hello, (hello = [] ∨ hello = [(0, reportBuf m .hello)])
    ∧ s.main = hello ++ a.deltas.map (deltaMsg m)
  hb : s.hb = a.snaps.map (snapMsg m)

structure Sim (d : Fin hubMaxDoors) (s : State) (a : Replica.State Part Bool) : Prop where
  sock : s.door.sockOpen = true
  moduleId : s.door.moduleId.text = m
  mode : s.door.mode = .both
  started : a.started = s.door.prevValid
  source : a.source = s.door.view
  find : s.hub.findDoor m = some d
  replica : a.replica = (s.hub.doors d).view
  channels : Channels m s a
  newest : a.newestDelta = s.newestEvent
  overtaken : a.overtaken = s.overtaken
  reported : s.reported
    = if s.door.prevValid then some (s.door.prevD0Open, s.door.prevD1Locked) else none

/-! ### Sending -/

variable {m}

theorem enqueue_append (s : State) (xs ys : List DoorSend) :
    enqueue s (xs ++ ys) = enqueue (enqueue s xs) ys := List.foldl_append

/-- Sending only fills the channels. -/
theorem enqueue_frame (s : State) (sends : List DoorSend) :
    (enqueue s sends).door = s.door ∧ (enqueue s sends).hub = s.hub
      ∧ (enqueue s sends).newestEvent = s.newestEvent
      ∧ (enqueue s sends).overtaken = s.overtaken
      ∧ (enqueue s sends).reported = s.reported := by
  induction sends generalizing s with
  | nil => exact ⟨rfl, rfl, rfl, rfl, rfl⟩
  | cons send sends ih =>
      obtain ⟨port, line⟩ := send
      cases port <;> exact ih _

/-- The channels do not depend on the other fields. -/
theorem enqueue_queues (s : State) (door : DoorUdp) (reported : Option (Bool × Bool))
    (sends : List DoorSend) :
    (enqueue { s with door, reported } sends).sent = (enqueue s sends).sent
      ∧ (enqueue { s with door, reported } sends).main = (enqueue s sends).main
      ∧ (enqueue { s with door, reported } sends).hb = (enqueue s sends).hb := by
  induction sends generalizing s with
  | nil => exact ⟨rfl, rfl, rfl⟩
  | cons send sends ih =>
      obtain ⟨port, line⟩ := send
      cases port
      · exact ih { s with sent := s.sent + 1, main := s.main ++ [(s.sent + 1, line)] }
      · exact ih { s with sent := s.sent + 1, hb := s.hb ++ [(s.sent + 1, line)] }

theorem Channels.start {s : State} {a : Replica.State Part Bool} (h : Channels m s a)
    (v : Part → Bool) :
    Channels m (enqueue s [⟨.hb, reportBuf m (fullReport v)⟩])
      { a with
        started := true, source := v, sent := a.sent + 1
        snaps := a.snaps ++ [⟨a.sent + 1, v⟩] } := by
  refine ⟨congrArg (· + 1) h.sent, h.main, ?_⟩
  simp [enqueue, h.hb, snapMsg, h.sent]

theorem Channels.writeIf {s : State} {a : Replica.State Part Bool} (h : Channels m s a)
    (c : Bool) (k : Part) (x : Bool) :
    Channels m (enqueue s (if c then [⟨.notif, reportBuf m (partReport k x)⟩] else []))
      (a.writeIf c k x) := by
  cases c with
  | false => exact h
  | true =>
      obtain ⟨hello, hhello, hmain⟩ := h.main
      refine ⟨congrArg (· + 1) h.sent, ⟨hello, hhello, ?_⟩, h.hb⟩
      simp [enqueue, hmain, Replica.State.writeIf, Replica.State.write, deltaMsg, h.sent]

theorem Channels.publishIf {s : State} {a : Replica.State Part Bool} (h : Channels m s a)
    (c : Bool) {v : Part → Bool} (hv : a.source = v) :
    Channels m (enqueue s (if c then [⟨.hb, reportBuf m (fullReport v)⟩] else []))
      (a.publishIf c) := by
  subst hv
  cases c with
  | false => exact h
  | true =>
      refine ⟨congrArg (· + 1) h.sent, h.main, ?_⟩
      simp [enqueue, h.hb, Replica.State.publishIf, Replica.State.publish, snapMsg, h.sent]

/-! ### One step -/

/-- After the door moved and its sends are on their way, what is left to check
is the source and the channels. -/
theorem Sim.send {d : Fin hubMaxDoors} {s : State} {a a' : Replica.State Part Bool}
    (h : Sim m d s a) {door : DoorUdp} {sends : List DoorSend} {d0Open d1Locked : Bool}
    (hsock : door.sockOpen = s.door.sockOpen) (hid : door.moduleId = s.door.moduleId)
    (hmode : door.mode = s.door.mode) (hvalid : door.prevValid = true)
    (hview : door.prevD0Open = d0Open ∧ door.prevD1Locked = d1Locked)
    (hstarted : a'.started = true) (hsource : a'.source = pair d0Open d1Locked)
    (hreplica : a'.replica = a.replica) (hnewest : a'.newestDelta = a.newestDelta)
    (hov : a'.overtaken = a.overtaken) (hchan : Channels m (enqueue s sends) a') :
    Sim m d (enqueue { s with door, reported := some (d0Open, d1Locked) } sends) a' := by
  obtain ⟨hdoor, hhub, hev, hovr, hrep⟩ :=
    enqueue_frame { s with door, reported := some (d0Open, d1Locked) } sends
  have hqueues : (enqueue { s with door, reported := some (d0Open, d1Locked) } sends).sent
        = (enqueue s sends).sent
      ∧ (enqueue { s with door, reported := some (d0Open, d1Locked) } sends).main
        = (enqueue s sends).main
      ∧ (enqueue { s with door, reported := some (d0Open, d1Locked) } sends).hb
        = (enqueue s sends).hb := enqueue_queues s door (some (d0Open, d1Locked)) sends
  obtain ⟨rfl, rfl⟩ := hview
  exact {
    sock := by rw [hdoor, hsock, h.sock]
    moduleId := by rw [hdoor, hid, h.moduleId]
    mode := by rw [hdoor, hmode, h.mode]
    started := by rw [hdoor, hstarted, hvalid]
    source := by rw [hdoor, hsource]; rfl
    find := by rw [hhub]; exact h.find
    replica := by rw [hhub, hreplica]; exact h.replica
    channels := ⟨by rw [hqueues.1]; exact hchan.sent, by rw [hqueues.2.1]; exact hchan.main,
      by rw [hqueues.2.2]; exact hchan.hb⟩
    newest := by rw [hev, hnewest]; exact h.newest
    overtaken := by rw [hovr, hov]; exact h.overtaken
    reported := by rw [hrep, hdoor, hvalid]; rfl }

theorem sim_update {d : Fin hubMaxDoors} {s : State} {a : Replica.State Part Bool}
    (h : Sim m d s a) (t : Int) (d0Open d0Locked d1Open d1Locked : Bool) {s' : State}
    (hs : step m src s (.update t d0Open d0Locked d1Open d1Locked) = some s') :
    ∃ ls a', Lts.run Replica.step a ls = some a' ∧ Sim m d s' a' := by
  have hbuf : ∀ r, s.door.reportBuf r = reportBuf m r := fun r => by
    rw [DoorUdp.reportBuf, h.moduleId]
  obtain ⟨hsock, hid, hmode, -⟩ :=
    s.door.doorUdpUpdate_config t d0Open d0Locked d1Open d1Locked
  obtain rfl := Option.some.inj hs
  cases hprev : s.door.prevValid with
  | false =>
      have hstarted : a.started = false := h.started.trans hprev
      have hchan := h.channels.start (pair d0Open d1Locked)
      have hupd := DoorUdp.doorUdpUpdate_first t d0Open d0Locked d1Open d1Locked h.sock hprev
      have hsends : (s.door.doorUdpUpdate t d0Open d0Locked d1Open d1Locked).2
          = [⟨.hb, reportBuf m (fullReport (pair d0Open d1Locked))⟩] := by
        rw [hupd, h.mode, hbuf]
        rfl
      refine ⟨[.start (pair d0Open d1Locked)], _, ?_, h.send hsock hid hmode (by rw [hupd])
        (by rw [hupd]; exact ⟨rfl, rfl⟩) ?_ ?_ ?_ ?_ ?_ (hsends ▸ hchan)⟩
      · rw [Lts.run_cons_eq_some]
        exact ⟨_, by rw [Replica.step, hstarted]; rfl, rfl⟩
      all_goals rfl
  | true =>
      have hstarted : a.started = true := h.started.trans hprev
      have hupd := DoorUdp.doorUdpUpdate_later t d0Open d0Locked d1Open d1Locked h.sock hprev
      -- an EVENT for each value that changed, then the heartbeat if one is due
      let a₁ := a.writeIf (d0Open != s.door.prevD0Open) .door d0Open
      let a₂ := a₁.writeIf (d1Locked != s.door.prevD1Locked) .lock d1Locked
      let a₃ := a₂.publishIf (s.door.heartbeatDue t)
      have hsource₁ : a₁.source = pair d0Open s.door.prevD1Locked := by
        rw [Replica.writeIf_source a (by rw [h.source]; rfl), h.source, DoorUdp.view,
          update_pair_door]
      have hsource₂ : a₂.source = pair d0Open d1Locked := by
        rw [Replica.writeIf_source a₁ (by rw [hsource₁]; rfl), hsource₁, update_pair_lock]
      have hsends : (s.door.doorUdpUpdate t d0Open d0Locked d1Open d1Locked).2
          = (if d0Open != s.door.prevD0Open then
              [⟨.notif, reportBuf m (partReport .door d0Open)⟩] else [])
            ++ (if d1Locked != s.door.prevD1Locked then
              [⟨.notif, reportBuf m (partReport .lock d1Locked)⟩] else [])
            ++ (if s.door.heartbeatDue t then
              [⟨.hb, reportBuf m (fullReport (pair d0Open d1Locked))⟩] else []) := by
        rw [hupd, h.mode, hbuf, hbuf, hbuf]
        rfl
      have hchan : Channels m (enqueue s
          (s.door.doorUdpUpdate t d0Open d0Locked d1Open d1Locked).2) a₃ := by
        rw [hsends, enqueue_append, enqueue_append]
        exact ((h.channels.writeIf _ .door d0Open).writeIf _ .lock d1Locked).publishIf _ hsource₂
      refine ⟨(if d0Open != s.door.prevD0Open then [.set .door d0Open] else [])
        ++ ((if d1Locked != s.door.prevD1Locked then [.set .lock d1Locked] else [])
          ++ (if s.door.heartbeatDue t then [.snapshot] else [])), a₃, ?_,
        h.send hsock hid hmode (by rw [hupd]; exact hprev) (by rw [hupd]; exact ⟨rfl, rfl⟩)
          ?_ ?_ ?_ ?_ ?_ hchan⟩
      · exact Lts.run_append_eq_some.mpr ⟨a₁, Replica.run_set_if hstarted .., by
          refine Lts.run_append_eq_some.mpr ⟨a₂, Replica.run_set_if ?_ .., ?_⟩
          · simpa [a₁] using hstarted
          · exact Replica.run_snapshot_if (by simpa [a₂, a₁] using hstarted) _⟩
      all_goals simp [a₃, a₂, a₁, hstarted, hsource₂]

/-- A line of the module arrives: the view of its entry becomes `v`. -/
theorem Sim.handled {d : Fin hubMaxDoors} {s s' : State} {a a' : Replica.State Part Bool}
    (hm : IsModuleId m) (h : Sim m d s a) (r : Report) {t issued : Int}
    (hhub : s'.hub = (s.hub.handleLine ⟨src, (reportBuf m r).text, t, issued⟩).1)
    (hdoor : s'.door = s.door) (hreported : s'.reported = s.reported)
    (hstarted : a'.started = a.started) (hsource : a'.source = a.source)
    (hreplica : a'.replica = r.effect a.replica) (hchan : Channels m s' a')
    (hnewest : a'.newestDelta = s'.newestEvent) (hov : a'.overtaken = s'.overtaken) :
    Sim m d s' a' := by
  obtain ⟨hfind, hview⟩ := Hub.handleLine_reportBuf hm h.find r src t issued
  exact {
    sock := by rw [hdoor]; exact h.sock
    moduleId := by rw [hdoor]; exact h.moduleId
    mode := by rw [hdoor]; exact h.mode
    started := by rw [hdoor, hstarted]; exact h.started
    source := by rw [hdoor, hsource]; exact h.source
    find := by rw [hhub]; exact hfind
    replica := by rw [hhub, hreplica, hview, h.replica]
    channels := hchan
    newest := hnewest
    overtaken := hov
    reported := by rw [hdoor, hreported]; exact h.reported }

theorem sim_recv_main {d : Fin hubMaxDoors} {s : State} {a : Replica.State Part Bool}
    (hm : IsModuleId m) (h : Sim m d s a) {stamp : Nat} {line : CBuf 256}
    {main : List (Nat × CBuf 256)} (hmain : s.main = (stamp, line) :: main) (t issued : Int) :
    ∃ ls a', Lts.run Replica.step a ls = some a' ∧
      Sim m d { s with
        hub := (s.hub.handleLine ⟨src, line.text, t, issued⟩).1
        main := main, newestEvent := max s.newestEvent stamp } a' := by
  obtain ⟨hello, hhello, hqueue⟩ := h.channels.main
  rw [hmain] at hqueue
  rcases hhello with rfl | rfl
  · cases hdeltas : a.deltas with
    | nil =>
        rw [hdeltas] at hqueue
        cases hqueue
    | cons e es =>
        rw [hdeltas] at hqueue
        obtain ⟨hhead, hrest⟩ := List.cons.inj hqueue
        obtain ⟨rfl, rfl⟩ := Prod.mk.inj hhead
        refine ⟨[.recvDelta], _, by simp [Lts.run, Replica.step, hdeltas]; rfl, ?_⟩
        refine h.handled src hm (partReport e.key e.value) rfl rfl rfl rfl rfl
          ?_ ?_ ?_ ?_
        · exact (partReport_effect ..).symm
        · exact ⟨h.channels.sent, ⟨[], Or.inl rfl, hrest⟩, h.channels.hb⟩
        · exact congrArg (max · e.stamp) h.newest
        · exact h.overtaken
  · obtain ⟨hhead, hrest⟩ := List.cons.inj hqueue
    obtain ⟨rfl, rfl⟩ := Prod.mk.inj hhead
    refine ⟨[], a, rfl, ?_⟩
    refine h.handled src hm .hello rfl rfl rfl rfl rfl rfl ?_ ?_ h.overtaken
    · exact ⟨h.channels.sent, ⟨[], Or.inl rfl, hrest⟩, h.channels.hb⟩
    · exact h.newest.trans (Nat.max_zero _).symm

theorem sim_recv_hb {d : Fin hubMaxDoors} {s : State} {a : Replica.State Part Bool}
    (hm : IsModuleId m) (h : Sim m d s a) {stamp : Nat} {line : CBuf 256}
    {hb : List (Nat × CBuf 256)} (hhb : s.hb = (stamp, line) :: hb) (t issued : Int) :
    ∃ ls a', Lts.run Replica.step a ls = some a' ∧
      Sim m d { s with
        hub := (s.hub.handleLine ⟨src, line.text, t, issued⟩).1
        hb := hb, overtaken := decide (stamp < s.newestEvent) } a' := by
  have hqueue := h.channels.hb
  rw [hhb] at hqueue
  cases hsnaps : a.snaps with
  | nil =>
      rw [hsnaps] at hqueue
      cases hqueue
  | cons p ps =>
      rw [hsnaps] at hqueue
      obtain ⟨hhead, hrest⟩ := List.cons.inj hqueue
      obtain ⟨rfl, rfl⟩ := Prod.mk.inj hhead
      refine ⟨[.recvSnap], _, by simp [Lts.run, Replica.step, hsnaps]; rfl, ?_⟩
      refine h.handled src hm (fullReport p.value) rfl rfl rfl rfl rfl
        (fullReport_effect ..).symm ?_ h.newest ?_
      · exact ⟨h.channels.sent, h.channels.main, hrest⟩
      · rw [h.newest]

/-- The offline check and the lines of other modules leave the entry alone. -/
theorem Sim.elsewhere {d : Fin hubMaxDoors} {s : State} {a : Replica.State Part Bool}
    (h : Sim m d s a) {hub : Hub} (draining : Option HubPort)
    (hfind : hub.findDoor m = some d) (hview : (hub.doors d).view = (s.hub.doors d).view) :
    Sim m d { s with hub, draining } a where
  sock := h.sock
  moduleId := h.moduleId
  mode := h.mode
  started := h.started
  source := h.source
  find := hfind
  replica := h.replica.trans hview.symm
  channels := ⟨h.channels.sent, h.channels.main, h.channels.hb⟩
  newest := h.newest
  overtaken := h.overtaken
  reported := h.reported

theorem Sim.offline {d : Fin hubMaxDoors} {s : State} {a : Replica.State Part Bool}
    (h : Sim m d s a) (draining : Option HubPort) (now : Int) :
    Sim m d { s with hub := (s.hub.checkOfflineModules now).1, draining } a := by
  obtain ⟨hframe, -⟩ := s.hub.checkOfflineModules_frame now
  obtain ⟨off, ms, hentry⟩ := hframe.doors d
  exact h.elsewhere draining ((hframe.findDoor m).trans h.find) (by rw [hentry]; rfl)

theorem sim_step {d : Fin hubMaxDoors} (hm : IsModuleId m) (s : State)
    (a : Replica.State Part Bool) (l : Label) (s' : State) (h : Sim m d s a)
    (hs : step m src s l = some s') :
    ∃ ls a', Lts.run Replica.step a ls = some a' ∧ Sim m d s' a' := by
  cases l with
  | update t d0Open d0Locked d1Open d1Locked => exact sim_update src h _ _ _ _ _ hs
  | select now =>
      rw [step] at hs
      split at hs
      · cases hs
      refine ⟨[], a, rfl, ?_⟩
      split at hs
      · cases hs
        exact h.elsewhere (some .notif) h.find rfl
      · split at hs
        · cases hs
          exact h.elsewhere (some .hb) h.find rfl
        · cases hs
          exact h.offline s.draining now
  | recv t issued =>
      rw [step] at hs
      split at hs
      · rename_i hmain
        cases hs
        exact sim_recv_main src hm h hmain t issued
      · rename_i hhb
        cases hs
        exact sim_recv_hb src hm h hhb t issued
      · cases hs
  | stop now =>
      rw [step] at hs
      split at hs
      · cases hs
        exact ⟨[], a, rfl, h.offline none now⟩
      · cases hs
  | other dg =>
      rw [step] at hs
      split at hs
      · rename_i hother
        cases hs
        obtain ⟨hfind, hentry⟩ :=
          Hub.handleLine_findDoor_of_other (.of_short hother) h.find
        exact ⟨[], a, rfl, h.elsewhere s.draining hfind (by rw [hentry])⟩
      · cases hs

/-! ### Whole runs -/

theorem sim_init {hub : Hub} {d : Fin hubMaxDoors} (hm : IsModuleId m)
    (hd : hub.findDoor m = some d) (period now : Int) :
    Sim m d (init m period now hub)
      (Replica.State.init (pair false false) (hub.doors d).view 0) where
  sock := rfl
  moduleId := snprintf_text hm.short
  mode := rfl
  started := rfl
  source := rfl
  find := hd
  replica := rfl
  channels := by
    refine ⟨rfl, ⟨[(0, reportBuf m .hello)], Or.inr rfl, ?_⟩, rfl⟩
    have hid : (snprintf 16 m).text = m := snprintf_text hm.short
    simp [init, DoorUdp.doorUdpInit2, DoorUdp.sendLineNotif, DoorUdp.reportBuf, hid,
      Replica.State.init]
  newest := rfl
  overtaken := rfl
  reported := rfl

/-- With both channels empty, the hub's entry shows the values of the last
update, unless the last HEARTBEAT it handled had been overtaken by an EVENT. -/
theorem latestReport (hm : IsModuleId m) {hub : Hub} {d : Fin hubMaxDoors}
    (htrack : hub.Tracks d m) {period now : Int} {ls : List Label} {s : State}
    (hr : Lts.run (step m src) (init m period now hub) ls = some s) (hq : Quiet s)
    (hov : s.overtaken = false) : Agrees m s := by
  obtain ⟨d', hd⟩ := Hub.findDoor_of_tracks htrack
  obtain ⟨js, a, hja, hsim⟩ := Lts.simulates_run (sim_step src hm) (sim_init hm hd period now) hr
  have hinv := (Replica.Inv.init _ _ _).run hja
  obtain ⟨hrep, hmain, hhb⟩ := hq
  have hvalid : s.door.prevValid = true := by
    cases hv : s.door.prevValid with
    | true => rfl
    | false =>
        rw [hsim.reported, hv] at hrep
        cases hrep
  have hdeltas : a.deltas = [] := by
    obtain ⟨hello, -, hqueue⟩ := hsim.channels.main
    rw [hmain] at hqueue
    exact List.map_eq_nil_iff.mp (List.append_eq_nil_iff.mp hqueue.symm).2
  have hsnaps : a.snaps = [] := by
    have hqueue := hsim.channels.hb
    rw [hhb] at hqueue
    exact List.map_eq_nil_iff.mp hqueue.symm
  have hsync : (s.hub.doors d').view = s.door.view := by
    rw [← hsim.replica, ← hsim.source]
    exact hinv.synced (hsim.started.trans hvalid) hdeltas hsnaps (hsim.overtaken.trans hov)
  have hopen : (s.hub.doors d').d0Open = s.door.prevD0Open := congrFun hsync .door
  have hlocked : (s.hub.doors d').d1Locked = s.door.prevD1Locked := congrFun hsync .lock
  rw [Agrees, Hub.hubUdpGetStatus_of_find hsim.find, hsim.reported, if_pos hvalid,
    Option.map_some, hopen, hlocked]

/-- What a finished run is judged by. -/
def outcome (s : State) : Option (Bool × Bool) × Bool × Bool × Bool × Option (Bool × Bool) :=
  (s.reported, s.main.isEmpty, s.hb.isEmpty, s.overtaken,
    (s.hub.hubUdpGetStatus "D1".toList).map fun e => (e.d0Open, e.d1Locked))

theorem latestReport_opened : ∃ s, Lts.run (step "D1".toList ⟨1, 40000⟩)
    (init "D1".toList 1000 0 .greeted)
    [.update 5 false false false true, .select 6, .recv 6 6, .stop 6, .select 6, .recv 7 7,
      .stop 7, .update 9 true false false true, .select 9, .recv 9 9, .stop 9] = some s
      ∧ Agrees "D1".toList s := by
  have hrun : (Lts.run (step "D1".toList ⟨1, 40000⟩) (init "D1".toList 1000 0 .greeted)
      [.update 5 false false false true, .select 6, .recv 6 6, .stop 6, .select 6, .recv 7 7,
        .stop 7, .update 9 true false false true, .select 9, .recv 9 9, .stop 9]).map outcome
      = some (some (true, true), true, true, false, some (true, true)) := by
    decide +kernel
  obtain ⟨s, hs, hobs⟩ := Option.map_eq_some_iff.mp hrun
  simp only [outcome, Prod.mk.injEq, List.isEmpty_iff] at hobs
  obtain ⟨hrep, hmain, hhb, hov, -⟩ := hobs
  exact ⟨s, hs, latestReport _ isModuleId_D1 Hub.greeted_tracks hs
    ⟨by rw [hrep]; rfl, hmain, hhb⟩ hov⟩

/-- The door closes and opens again; its EVENT is drained first, and then the
HEARTBEAT from before it makes the door closed again. -/
theorem latestReport_overtaken :
    ¬∀ (m : Text) (src : SockAddr) (hub : Hub) (d : Fin hubMaxDoors) (period now : Int)
      (ls : List Label) (s : State), IsModuleId m → hub.Tracks d m →
      Lts.run (step m src) (init m period now hub) ls = some s → Quiet s → Agrees m s := by
  intro hall
  have hrun : (Lts.run (step "D1".toList ⟨1, 40000⟩) (init "D1".toList 1000 0 .greeted)
      [.update 5 false false false true, .update 9 true false false true, .select 10,
        .recv 10 10, .recv 10 10, .stop 10, .select 11, .recv 11 11, .stop 11]).map outcome
      = some (some (true, true), true, true, true, some (false, true)) := by
    decide +kernel
  obtain ⟨s, hs, hobs⟩ := Option.map_eq_some_iff.mp hrun
  simp only [outcome, Prod.mk.injEq, List.isEmpty_iff] at hobs
  obtain ⟨hrep, hmain, hhb, -, hshow⟩ := hobs
  have hagree := hall _ _ _ 0 _ _ _ s isModuleId_D1 Hub.greeted_tracks hs
    ⟨by rw [hrep]; rfl, hmain, hhb⟩
  rw [Agrees, hshow, hrep] at hagree
  cases hagree

end Link

end HomeSecurity
