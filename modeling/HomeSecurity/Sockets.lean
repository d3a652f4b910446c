import HomeSecurity.FdTable
import HomeSecurity.Lts
import HomeSecurity.UdpThread

/-!
# Who holds the sockets

The hub's listener, the HTTP API and the door's reporting are started and stopped by
their own calls, each with its sockets and its thread, in processes that open and close
descriptors of their own in between. Any call of the kernel's may fail.

`hub_udp_init` and `http_api_start` take all they need or nothing, refuse to start twice,
and hold their descriptors alone (`listeners_run`). `door_udp_init2` does not refuse, and
`doorHolds_iff` is what follows from that: a second start loses the first one's socket for
good, and its thread.
-/

namespace HomeSecurity

/-- What a descriptor is open on. -/
inductive SocketUse where
  | hub (port : ListenSock)
  | http
  | door
  /-- A file, a connection or a socket of other code. -/
  | other (n : Nat)
deriving DecidableEq

/-- The statics of `hub_udp.c` that its start and stop write; `thread` says whether
`g_thread_id` is a thread to be joined. -/
structure HubSockets where
  sock : Int
  sock2 : Int
  thread : Bool

/-- The statics of `http_api.c`. -/
structure HttpSocket where
  sock : Int
  running : Bool
  thread : Bool

/-- The statics of `door_udp.c`, with the number of its threads that nobody joined. -/
structure DoorSocket where
  sock : Int
  cmdRunning : Bool
  threads : Nat

structure SocketProcess where
  fds : FdTable SocketUse
  hub : HubSockets
  http : HttpSocket
  door : DoorSocket

/-- How the kernel answers one `hub_udp_init`. -/
structure HubInitReplies where
  socket : Bool
  bind : Bool
  socket2 : Bool
  bind2 : Bool
  create : Bool

/-- The calls that a start makes all succeed. -/
def HubInitReplies.grants (second : Bool) (k : HubInitReplies) : Bool :=
  k.socket && k.bind && (!second || k.socket2 && k.bind2) && k.create

/-- How it answers one `http_api_start`. -/
structure HttpStartReplies where
  socket : Bool
  pton : Bool
  bind : Bool
  listen : Bool
  create : Bool

def HttpStartReplies.grants (k : HttpStartReplies) : Bool :=
  k.socket && k.pton && k.bind && k.listen && k.create

/-- How it answers one `door_udp_init2`. -/
structure DoorInitReplies where
  socket : Bool
  pton : Bool
  bind : Bool
  create : Bool

/-- `door_udp_init2` gets as far as to store its socket. -/
def DoorInitReplies.stores (onePort : Bool) (k : DoorInitReplies) : Bool :=
  k.socket && k.pton && (onePort || k.bind)

namespace SocketProcess

def initial (fds : FdTable SocketUse) : SocketProcess :=
  ⟨fds, ⟨-1, -1, false⟩, ⟨-1, false, false⟩, ⟨-1, false, 0⟩⟩

/-! ## The hub's listener -/

/-- `if (g_sock2 >= 0) close(g_sock2); if (g_sock >= 0) close(g_sock);`, and both are -1. -/
def closeHub (s : SocketProcess) : SocketProcess :=
  { s with fds := (s.fds.closeInt s.hub.sock2).closeInt s.hub.sock
           hub := { s.hub with sock := -1, sock2 := -1 } }

/-- The end of `hub_udp_init`, from `pthread_create` on. -/
def hubThreadStart (s : SocketProcess) (k : HubInitReplies) : Bool × SocketProcess :=
  if !k.create then (false, s.closeHub)
  else (true, { s with hub := { s.hub with thread := true } })

/-- The part of `hub_udp_init` for `listen_port2`. -/
def hubOpenSecond (s : SocketProcess) (k : HubInitReplies) : Bool × SocketProcess :=
  if !k.socket2 then (false, s.closeHub)
  else
    let s2 := s.fds.lowest
    let fds := s.fds.install (.hub .sock2)
    if !k.bind2 then (false, { s with fds := fds.close s2 }.closeHub)
    else hubThreadStart { s with fds := fds, hub := { s.hub with sock2 := s2 } } k

/-- `hub_udp_init`; `second` says whether `listen_port2` is not 0. -/
def hubUdpInit (s : SocketProcess) (second : Bool) (k : HubInitReplies) : Bool × SocketProcess :=
  if s.hub.sock ≥ 0 ∨ s.hub.sock2 ≥ 0 then (false, s)
  else if !k.socket then (false, s)
  else
    let s1 := s.fds.lowest
    let fds := s.fds.install (.hub .sock)
    if !k.bind then (false, { s with fds := fds.close s1 })
    else
      let s := { s with fds := fds, hub := { s.hub with sock := s1 } }
      if second then s.hubOpenSecond k else s.hubThreadStart k

/-- `hub_udp_shutdown`. -/
def hubUdpShutdown (s : SocketProcess) : SocketProcess :=
  if s.hub.sock < 0 ∧ s.hub.sock2 < 0 then s
  else { s with hub := { s.hub with thread := false } }.closeHub

/-! ## The HTTP API -/

/-- `http_api_start`; the three calls after `socket` fail alike. -/
def httpApiStart (s : SocketProcess) (k : HttpStartReplies) : Bool × SocketProcess :=
  if s.http.running then (false, s)
  else if !k.socket then (false, { s with http := { s.http with sock := -1 } })
  else
    let sock := s.fds.lowest
    let fds := s.fds.install .http
    if !(k.pton && k.bind && k.listen) then
      (false, { s with fds := fds.close sock, http := { s.http with sock := -1 } })
    else if !k.create then
      (false, { s with fds := fds.close sock, http := { s.http with sock := -1, running := false } })
    else (true, { s with fds := fds, http := ⟨sock, true, true⟩ })

/-- `http_api_stop`. -/
def httpApiStop (s : SocketProcess) : SocketProcess :=
  if !s.http.running then s
  else
    { s with fds := s.fds.closeInt s.http.sock
             http := ⟨if s.http.sock ≥ 0 then -1 else s.http.sock, false, false⟩ }

/-! ## The door's reporting -/

/-- `door_udp_init`, on one port. -/
def doorUdpInit (s : SocketProcess) (k : DoorInitReplies) : Bool × SocketProcess :=
  if !k.socket then (false, s)
  else
    let sock := s.fds.lowest
    let fds := s.fds.install .door
    if !k.pton then (false, { s with fds := fds.close sock })
    else (true, { s with fds := fds, door := { s.door with sock := sock } })

/-- `door_udp_init2`; `onePort` says whether the two ports are equal. -/
def doorUdpInit2 (s : SocketProcess) (onePort : Bool) (k : DoorInitReplies) :
    Bool × SocketProcess :=
  if onePort then s.doorUdpInit k
  else if !k.socket then (false, s)
  else
    let sock := s.fds.lowest
    let fds := s.fds.install .door
    if !k.pton then (false, { s with fds := fds.close sock })
    else if !k.bind then (false, { s with fds := fds.close sock })
    else if !k.create then
      (false, { s with fds := fds, door := { s.door with sock := sock, cmdRunning := false } })
    else (true, { s with fds := fds, door := ⟨sock, true, s.door.threads + 1⟩ })

/-- `door_udp_close`. -/
def doorUdpClose (s : SocketProcess) : SocketProcess :=
  let door :=
    if s.door.cmdRunning then { s.door with cmdRunning := false, threads := s.door.threads - 1 }
    else s.door
  { s with fds := s.fds.closeInt door.sock
           door := { door with sock := if door.sock ≥ 0 then -1 else door.sock } }

/-! ## Runs -/

inductive SocketCall where
  | hubInit (second : Bool) (k : HubInitReplies)
  | hubShutdown
  | httpStart (k : HttpStartReplies)
  | httpStop
  | doorInit (onePort : Bool) (k : DoorInitReplies)
  | doorClose
  /-- Other code opens a descriptor. -/
  | opens (n : Nat)
  /-- Other code closes one of its own. -/
  | closes (fd : Nat)

def step (s : SocketProcess) : SocketCall → Option SocketProcess
  | .hubInit second k => some (s.hubUdpInit second k).2
  | .hubShutdown => some s.hubUdpShutdown
  | .httpStart k => some (s.httpApiStart k).2
  | .httpStop => some s.httpApiStop
  | .doorInit onePort k => some (s.doorUdpInit2 onePort k).2
  | .doorClose => some s.doorUdpClose
  | .opens n => some { s with fds := s.fds.install (.other n) }
  | .closes fd =>
      match s.fds.refers fd with
      | some (.other _) => some { s with fds := s.fds.close fd }
      | _ => none

/-! ## All or nothing -/

/-- A start of the hub's listener left nothing behind. -/
structure HubNothing (s s' : SocketProcess) : Prop where
  refers : ∀ n, s'.fds.refers n = s.fds.refers n
  sock : s'.hub.sock < 0
  sock2 : s'.hub.sock2 < 0
  thread : s'.hub.thread = s.hub.thread
  http : s'.http = s.http
  door : s'.door = s.door

/-- `closeHub` closes the one socket that is open. -/
theorem closeHub_nothing {s s' : SocketProcess} (hsock : s'.hub.sock = s.fds.lowest)
    (hsock2 : s'.hub.sock2 < 0)
    (hfds : ∀ n, s'.fds.refers n = (s.fds.install (.hub .sock)).refers n)
    (hthread : s'.hub.thread = s.hub.thread) (hhttp : s'.http = s.http) (hdoor : s'.door = s.door) :
    HubNothing s s'.closeHub := by
  refine ⟨fun n => ?_, by simp [closeHub], by simp [closeHub], hthread, hhttp, hdoor⟩
  rw [closeHub, FdTable.closeInt_of_neg _ hsock2, hsock, FdTable.closeInt_natCast]
  exact FdTable.refers_close_lowest hfds n

/-- The start of a hub that holds no socket. -/
theorem hubUdpInit_cases {s : SocketProcess} (hsock : s.hub.sock < 0) (hsock2 : s.hub.sock2 < 0)
    (second : Bool) (k : HubInitReplies) :
    (k.grants second = false ∧ (s.hubUdpInit second k).1 = false
        ∧ HubNothing s (s.hubUdpInit second k).2)
      ∨ (k.grants second = true ∧ second = false ∧ s.hubUdpInit second k
          = (true, { s with
              fds := s.fds.install (.hub .sock)
              hub := ⟨s.fds.lowest, s.hub.sock2, true⟩ }))
      ∨ (k.grants second = true ∧ second = true ∧ s.hubUdpInit second k
          = (true, { s with
              fds := (s.fds.install (.hub .sock)).install (.hub .sock2)
              hub := ⟨s.fds.lowest, (s.fds.install (.hub .sock)).lowest, true⟩ })) := by
  have hfirst : ¬(s.hub.sock ≥ 0 ∨ s.hub.sock2 ≥ 0) := by omega
  unfold hubUdpInit HubInitReplies.grants
  rw [if_neg hfirst]
  cases k.socket with
  | false => exact Or.inl ⟨rfl, rfl, fun _ => rfl, hsock, hsock2, rfl, rfl, rfl⟩
  | true =>
      cases k.bind with
      | false =>
          exact Or.inl ⟨rfl, rfl, fun n => s.fds.refers_install_close _ n, hsock, hsock2, rfl, rfl,
            rfl⟩
      | true =>
          cases second with
          | false =>
              cases hcreate : k.create with
              | false =>
                  refine Or.inl ⟨rfl, ?_⟩
                  simp only [hubThreadStart, hcreate]
                  exact ⟨rfl, closeHub_nothing rfl hsock2 (fun _ => rfl) rfl rfl rfl⟩
              | true =>
                  refine Or.inr (Or.inl ⟨rfl, rfl, ?_⟩)
                  simp [hubThreadStart, hcreate]
          | true =>
              have hopen : ∀ n, (((s.fds.install (.hub .sock)).install (.hub .sock2)).close
                  (s.fds.install (.hub .sock)).lowest).refers n
                    = (s.fds.install (.hub .sock)).refers n :=
                fun n => (s.fds.install (.hub .sock)).refers_install_close _ n
              cases hsocket2 : k.socket2 with
              | false =>
                  refine Or.inl ⟨rfl, ?_⟩
                  simp only [hubOpenSecond, hsocket2]
                  exact ⟨rfl, closeHub_nothing rfl hsock2 (fun _ => rfl) rfl rfl rfl⟩
              | true =>
                  cases hbind2 : k.bind2 with
                  | false =>
                      refine Or.inl ⟨rfl, ?_⟩
                      simp only [hubOpenSecond, hsocket2, hbind2]
                      exact ⟨rfl, closeHub_nothing rfl hsock2 hopen rfl rfl rfl⟩
                  | true =>
                      cases hcreate : k.create with
                      | false =>
                          refine Or.inl ⟨rfl, ?_⟩
                          simp only [hubOpenSecond, hubThreadStart, hsocket2, hbind2, hcreate]
                          refine ⟨rfl, fun n => ?_, by simp [closeHub], by simp [closeHub], rfl,
                            rfl, rfl⟩
                          exact FdTable.refers_close_lowest hopen n
                      | true =>
                          refine Or.inr (Or.inr ⟨rfl, rfl, ?_⟩)
                          simp [hubOpenSecond, hubThreadStart, hsocket2, hbind2, hcreate]

/-! ## The hub's descriptors -/

/-- The hub holds its descriptors alone, and has a thread while it holds one. -/
structure HubHolds (s : SocketProcess) : Prop where
  sock : s.fds.Holds (.hub .sock) s.hub.sock
  sock2 : s.fds.Holds (.hub .sock2) s.hub.sock2
  both : 0 ≤ s.hub.sock2 → 0 ≤ s.hub.sock
  thread : s.hub.thread = true ↔ 0 ≤ s.hub.sock

/-- A start of the hub's listener took the first port's socket, the second port's if there is
one, and a thread. -/
structure HubStarted (second : Bool) (s : SocketProcess) : Prop extends HubHolds s where
  sock_nonneg : 0 ≤ s.hub.sock
  sock2_nonneg_iff : 0 ≤ s.hub.sock2 ↔ second = true
  has_thread : s.hub.thread = true

/-- What is not the hub's. -/
def NotHub (r : SocketUse) : Prop := ∀ port, r ≠ .hub port

theorem HubHolds.of_agree {s s' : SocketProcess} (h : s.HubHolds) (hhub : s'.hub = s.hub)
    {P : SocketUse → Prop} (hP : ∀ port, P (.hub port)) (hfds : FdTable.AgreeOn P s.fds s'.fds) :
    s'.HubHolds := by
  constructor
  · rw [hhub]; exact h.sock.of_agree hfds (hP .sock)
  · rw [hhub]; exact h.sock2.of_agree hfds (hP .sock2)
  · rw [hhub]; exact h.both
  · rw [hhub]; exact h.thread

/-- A start that leaves nothing behind. -/
theorem HubHolds.of_nothing {s s' : SocketProcess} (h : s.HubHolds) (hsock : s.hub.sock < 0)
    (hsock2 : s.hub.sock2 < 0) (hn : HubNothing s s') : s'.HubHolds where
  sock := h.sock.congr hn.refers (Or.inr ⟨hsock, hn.sock⟩)
  sock2 := h.sock2.congr hn.refers (Or.inr ⟨hsock2, hn.sock2⟩)
  both hpos := absurd hn.sock2 (by omega)
  thread := by
    have hthread := h.thread
    have hneg := hn.sock
    rw [hn.thread, hthread]
    exact iff_of_false (by omega) (by omega)

theorem HubHolds.hubUdpInit {s : SocketProcess} (h : s.HubHolds) (second : Bool)
    (k : HubInitReplies) :
    (s.hubUdpInit second k).2.HubHolds
      ∧ FdTable.AgreeOn NotHub s.fds (s.hubUdpInit second k).2.fds
      ∧ (s.hubUdpInit second k).2.http = s.http ∧ (s.hubUdpInit second k).2.door = s.door := by
  by_cases hopen : s.hub.sock ≥ 0 ∨ s.hub.sock2 ≥ 0
  · have hsame : s.hubUdpInit second k = (false, s) := if_pos hopen
    rw [hsame]
    exact ⟨h, .refl _, rfl, rfl⟩
  · have hsock : s.hub.sock < 0 := by omega
    have hsock2 : s.hub.sock2 < 0 := by omega
    have hnot : ∀ port, ¬NotHub (.hub port) := fun port hn => hn port rfl
    rcases hubUdpInit_cases hsock hsock2 second k with ⟨-, -, hn⟩ | ⟨-, -, heq⟩ | ⟨-, -, heq⟩
    · exact ⟨h.of_nothing hsock hsock2 hn, .of_refers hn.refers, hn.http, hn.door⟩
    · rw [heq]
      refine ⟨⟨h.sock.install hsock, ?_, fun hpos => absurd hpos (Int.not_le.mpr hsock2), ?_⟩,
        .install (hnot _), rfl, rfl⟩
      · exact h.sock2.of_agree (.install (P := fun r => r ≠ .hub .sock) (by simp)) (by simp)
      · exact iff_of_true rfl (Int.natCast_nonneg _)
    · rw [heq]
      refine ⟨⟨?_, ?_, fun _ => Int.natCast_nonneg _, ?_⟩,
        (FdTable.AgreeOn.install (hnot _)).trans (.install (hnot _)), rfl, rfl⟩
      · exact (h.sock.install hsock).of_agree (.install (P := fun r => r ≠ .hub .sock2) (by simp))
          (by simp)
      · exact (h.sock2.of_agree (.install (P := fun r => r ≠ .hub .sock) (by simp))
          (by simp)).install hsock2
      · exact iff_of_true rfl (Int.natCast_nonneg _)

/-- A start with nothing started: everything if the kernel grants it, or nothing. -/
theorem HubHolds.hubUdpInit_all {s : SocketProcess} (h : s.HubHolds) (hsock : s.hub.sock < 0)
    (second : Bool) (k : HubInitReplies) :
    (s.hubUdpInit second k).1 = k.grants second
      ∧ if k.grants second then HubStarted second (s.hubUdpInit second k).2
        else HubNothing s (s.hubUdpInit second k).2 := by
  have hsock2 : s.hub.sock2 < 0 := by
    have hboth := h.both
    omega
  have hholds := (h.hubUdpInit second k).1
  rcases hubUdpInit_cases hsock hsock2 second k with
    ⟨hgrants, hfailed, hn⟩ | ⟨hgrants, rfl, heq⟩ | ⟨hgrants, rfl, heq⟩
  · rw [hfailed, hgrants]
    exact ⟨rfl, hn⟩
  · rw [heq] at hholds ⊢
    rw [hgrants]
    exact ⟨rfl, hholds, Int.natCast_nonneg _,
      iff_of_false (Int.not_le.mpr hsock2) Bool.false_ne_true, rfl⟩
  · rw [heq] at hholds ⊢
    rw [hgrants]
    exact ⟨rfl, hholds, Int.natCast_nonneg _, iff_of_true (Int.natCast_nonneg _) rfl, rfl⟩

theorem HubHolds.hubUdpShutdown {s : SocketProcess} (h : s.HubHolds) :
    s.hubUdpShutdown.HubHolds
      ∧ FdTable.AgreeOn NotHub s.fds s.hubUdpShutdown.fds
      ∧ s.hubUdpShutdown.http = s.http ∧ s.hubUdpShutdown.door = s.door := by
  unfold SocketProcess.hubUdpShutdown
  split
  · exact ⟨h, .refl _, rfl, rfl⟩
  · have hfirst : (s.fds.closeInt s.hub.sock2).Holds (.hub .sock) s.hub.sock :=
      h.sock.of_agree (h.sock2.agree_closeInt (P := fun r => r = .hub .sock) (by simp)) rfl
    have hnot : ∀ port, ¬NotHub (.hub port) := fun port hn => hn port rfl
    refine ⟨⟨hfirst.closeInt, ?_, fun hpos => hpos, by simp [closeHub]⟩, ?_, rfl, rfl⟩
    · exact h.sock2.closeInt.of_agree
        (hfirst.agree_closeInt (P := fun r => r = .hub .sock2) (by simp)) rfl
    · exact (h.sock2.agree_closeInt (hnot _)).trans (hfirst.agree_closeInt (hnot _))

/-! ## The HTTP API's descriptor -/

/-- The API holds its descriptor alone, and runs while it holds one. -/
structure HttpHolds (s : SocketProcess) : Prop where
  sock : s.fds.Holds .http s.http.sock
  running : s.http.running = true ↔ 0 ≤ s.http.sock
  thread : s.http.thread = s.http.running

theorem HttpHolds.of_agree {s s' : SocketProcess} (h : s.HttpHolds) (hhttp : s'.http = s.http)
    {P : SocketUse → Prop} (hP : P .http) (hfds : FdTable.AgreeOn P s.fds s'.fds) :
    s'.HttpHolds := by
  constructor
  · rw [hhttp]; exact h.sock.of_agree hfds hP
  · rw [hhttp]; exact h.running
  · rw [hhttp]; exact h.thread

/-- A start of the API took its socket and a thread. -/
structure HttpStarted (s : SocketProcess) : Prop extends HttpHolds s where
  sock_nonneg : 0 ≤ s.http.sock
  has_thread : s.http.thread = true

/-- A start of the API left nothing behind. -/
structure HttpNothing (s s' : SocketProcess) : Prop where
  refers : ∀ n, s'.fds.refers n = s.fds.refers n
  sock : s'.http.sock < 0
  running : s'.http.running = false
  thread : s'.http.thread = s.http.thread
  hub : s'.hub = s.hub
  door : s'.door = s.door

/-- A start of the API: all it needs, or nothing. -/
theorem httpApiStart_cases {s : SocketProcess} (hrunning : s.http.running = false)
    (k : HttpStartReplies) :
    (k.grants = false ∧ (s.httpApiStart k).1 = false ∧ HttpNothing s (s.httpApiStart k).2)
      ∨ (k.grants = true ∧ s.httpApiStart k
          = (true, { s with fds := s.fds.install .http, http := ⟨s.fds.lowest, true, true⟩ })) := by
  have hclosed : ∀ n, ((s.fds.install .http).close s.fds.lowest).refers n = s.fds.refers n :=
    fun n => s.fds.refers_install_close _ n
  have hrun : ¬s.http.running = true := by simp [hrunning]
  unfold httpApiStart HttpStartReplies.grants
  rw [if_neg hrun]
  cases k.socket with
  | false => exact Or.inl ⟨rfl, rfl, fun _ => rfl, Int.negSucc_lt_zero 0, hrunning, rfl, rfl, rfl⟩
  | true =>
      cases hports : (k.pton && k.bind && k.listen) with
      | false =>
          refine Or.inl ⟨?_, rfl, hclosed, Int.negSucc_lt_zero 0, hrunning, rfl, rfl, rfl⟩
          simp [hports]
      | true =>
          cases k.create with
          | false =>
              refine Or.inl ⟨?_, rfl, hclosed, Int.negSucc_lt_zero 0, rfl, rfl, rfl, rfl⟩
              simp
          | true =>
              refine Or.inr ⟨?_, rfl⟩
              simpa using hports

theorem HttpHolds.httpApiStart {s : SocketProcess} (h : s.HttpHolds) (k : HttpStartReplies) :
    (s.httpApiStart k).2.HttpHolds
      ∧ FdTable.AgreeOn (· ≠ .http) s.fds (s.httpApiStart k).2.fds
      ∧ (s.httpApiStart k).2.hub = s.hub ∧ (s.httpApiStart k).2.door = s.door := by
  cases hrunning : s.http.running with
  | true =>
      have hsame : s.httpApiStart k = (false, s) := if_pos hrunning
      rw [hsame]
      exact ⟨h, .refl _, rfl, rfl⟩
  | false =>
      have hneg : s.http.sock < 0 := by
        have hiff := h.running
        rw [hrunning] at hiff
        simpa using hiff
      rcases httpApiStart_cases hrunning k with ⟨-, -, hn⟩ | ⟨-, heq⟩
      · refine ⟨⟨?_, ?_, ?_⟩, .of_refers hn.refers, hn.hub, hn.door⟩
        · exact h.sock.congr hn.refers (Or.inr ⟨hneg, hn.sock⟩)
        · rw [hn.running]
          exact iff_of_false Bool.false_ne_true (Int.not_le.mpr hn.sock)
        · rw [hn.thread, hn.running, h.thread, hrunning]
      · rw [heq]
        exact ⟨⟨h.sock.install hneg, iff_of_true rfl (Int.natCast_nonneg _), rfl⟩,
          .install (by simp), rfl, rfl⟩

theorem HttpHolds.httpApiStart_all {s : SocketProcess} (h : s.HttpHolds) (hsock : s.http.sock < 0)
    (k : HttpStartReplies) :
    (s.httpApiStart k).1 = k.grants
      ∧ if k.grants then HttpStarted (s.httpApiStart k).2
        else HttpNothing s (s.httpApiStart k).2 := by
  have hrunning : s.http.running = false := by
    rw [← Bool.not_eq_true, h.running]
    exact Int.not_le.mpr hsock
  have hholds := (h.httpApiStart k).1
  rcases httpApiStart_cases hrunning k with ⟨hgrants, hfailed, hn⟩ | ⟨hgrants, heq⟩
  · rw [hfailed, hgrants]
    exact ⟨rfl, hn⟩
  · rw [heq] at hholds ⊢
    rw [hgrants]
    exact ⟨rfl, hholds, Int.natCast_nonneg _, rfl⟩

theorem HttpHolds.httpApiStop {s : SocketProcess} (h : s.HttpHolds) :
    s.httpApiStop.HttpHolds ∧ FdTable.AgreeOn (· ≠ .http) s.fds s.httpApiStop.fds
      ∧ s.httpApiStop.hub = s.hub ∧ s.httpApiStop.door = s.door := by
  unfold SocketProcess.httpApiStop
  split
  · exact ⟨h, .refl _, rfl, rfl⟩
  · rename_i hrunning
    have hpos : s.http.sock ≥ 0 := h.running.mp (by simpa using hrunning)
    refine ⟨⟨?_, ?_, rfl⟩, h.sock.agree_closeInt (by simp), rfl, rfl⟩
    · simp only [if_pos hpos]
      exact h.sock.closeInt
    · simp only [if_pos hpos]
      simp

/-! ## The door's descriptor -/

/-- What the door's static says is open, is. -/
def DoorOpen (s : SocketProcess) : Prop :=
  0 ≤ s.door.sock → s.fds.refers s.door.sock.toNat = some .door

theorem DoorOpen.of_agree {s s' : SocketProcess} (h : s.DoorOpen) (hdoor : s'.door = s.door)
    {P : SocketUse → Prop} (hP : P .door) (hfds : FdTable.AgreeOn P s.fds s'.fds) :
    s'.DoorOpen := by
  intro hpos
  rw [hdoor] at hpos ⊢
  exact (hfds _ _ hP).mpr (h hpos)

theorem doorUdpInit2_cases (s : SocketProcess) (onePort : Bool) (k : DoorInitReplies) :
    (s.doorUdpInit2 onePort k).2.hub = s.hub ∧ (s.doorUdpInit2 onePort k).2.http = s.http
      ∧ ((k.stores onePort = false
            ∧ (∀ n, (s.doorUdpInit2 onePort k).2.fds.refers n = s.fds.refers n)
            ∧ (s.doorUdpInit2 onePort k).2.door = s.door)
        ∨ (k.stores onePort = true
            ∧ (s.doorUdpInit2 onePort k).2.fds = s.fds.install .door
            ∧ (s.doorUdpInit2 onePort k).2.door.sock = s.fds.lowest
            ∧ ((s.doorUdpInit2 onePort k).2.door.threads = s.door.threads
                  ∧ (s.doorUdpInit2 onePort k).2.door.cmdRunning = (onePort && s.door.cmdRunning)
                ∨ (s.doorUdpInit2 onePort k).2.door.threads = s.door.threads + 1
                  ∧ (s.doorUdpInit2 onePort k).2.door.cmdRunning = true))) := by
  have hclosed : ∀ n, ((s.fds.install .door).close s.fds.lowest).refers n = s.fds.refers n :=
    fun n => s.fds.refers_install_close _ n
  unfold doorUdpInit2 doorUdpInit DoorInitReplies.stores
  cases onePort with
  | true =>
      cases k.socket with
      | false => exact ⟨rfl, rfl, Or.inl ⟨rfl, fun _ => rfl, rfl⟩⟩
      | true =>
          cases k.pton with
          | false => exact ⟨rfl, rfl, Or.inl ⟨rfl, hclosed, rfl⟩⟩
          | true => exact ⟨rfl, rfl, Or.inr ⟨rfl, rfl, rfl, Or.inl ⟨rfl, rfl⟩⟩⟩
  | false =>
      cases k.socket with
      | false => exact ⟨rfl, rfl, Or.inl ⟨rfl, fun _ => rfl, rfl⟩⟩
      | true =>
          cases k.pton with
          | false => exact ⟨rfl, rfl, Or.inl ⟨rfl, hclosed, rfl⟩⟩
          | true =>
              cases k.bind with
              | false => exact ⟨rfl, rfl, Or.inl ⟨rfl, hclosed, rfl⟩⟩
              | true =>
                  cases k.create with
                  | false => exact ⟨rfl, rfl, Or.inr ⟨rfl, rfl, rfl, Or.inl ⟨rfl, rfl⟩⟩⟩
                  | true => exact ⟨rfl, rfl, Or.inr ⟨rfl, rfl, rfl, Or.inr ⟨rfl, rfl⟩⟩⟩

/-- The door holds its descriptor alone. -/
def DoorHolds (s : SocketProcess) : Prop := s.fds.Holds .door s.door.sock

theorem doorHolds_congr {s s' : SocketProcess} (hdoor : s'.door = s.door)
    {P : SocketUse → Prop} (hP : P .door) (hfds : FdTable.AgreeOn P s.fds s'.fds) :
    s'.DoorHolds ↔ s.DoorHolds := by
  unfold DoorHolds FdTable.Holds
  rw [hdoor]
  exact forall_congr' fun n => iff_congr (hfds n _ hP) Iff.rfl

/-- A start that stores its socket keeps the door the only holder if it held none. -/
theorem doorHolds_install {s s' : SocketProcess} (h : s.DoorOpen)
    (hfds : s'.fds = s.fds.install .door) (hsock : s'.door.sock = s.fds.lowest) :
    s'.DoorHolds ↔ s.DoorHolds ∧ s.door.sock < 0 := by
  unfold DoorHolds
  rw [hfds, hsock]
  constructor
  · intro hafter
    have hnone : ∀ n, s.fds.refers n ≠ some .door := by
      intro n hn
      have hlast := (hafter n).mp (s.fds.refers_install_of_some hn .door)
      exact s.fds.ne_lowest hn (Int.ofNat_inj.mp hlast).symm
    have hneg : s.door.sock < 0 := by
      by_contra hpos
      exact hnone _ (h (by omega))
    refine ⟨fun n => iff_of_false (hnone n) (by omega), hneg⟩
  · rintro ⟨hbefore, hneg⟩
    exact hbefore.install hneg

/-- Closing what it holds keeps it the only holder or not. -/
theorem doorHolds_closeInt {s s' : SocketProcess} (h : s.DoorOpen)
    (hfds : s'.fds = s.fds.closeInt s.door.sock)
    (hsock : s'.door.sock = if s.door.sock ≥ 0 then -1 else s.door.sock) :
    s'.DoorHolds ↔ s.DoorHolds := by
  unfold DoorHolds
  rw [hfds, hsock]
  by_cases hneg : s.door.sock < 0
  · rw [s.fds.closeInt_of_neg hneg, if_neg (by omega)]
  · rw [if_pos (by omega)]
    refine ⟨fun hafter n => ?_, fun hbefore => hbefore.closeInt⟩
    have hpos : 0 ≤ s.door.sock := Int.not_lt.mp hneg
    have hopen := h hpos
    obtain ⟨m, hm⟩ := Int.eq_ofNat_of_zero_le hpos
    rw [hm, FdTable.closeInt_natCast] at hafter
    rw [hm, Int.toNat_natCast] at hopen
    rw [hm]
    constructor
    · intro hn
      by_contra hne
      have hnm : n ≠ m := fun heq => hne (by rw [heq])
      have hkept := (hafter n).mp (by rw [s.fds.refers_close_of_ne hnm, hn])
      omega
    · intro hn
      rw [← Int.ofNat_inj.mp hn]
      exact hopen

/-- One thread while it runs, and none without a socket. -/
structure DoorTidy (s : SocketProcess) : Prop where
  threads : s.door.threads = s.door.cmdRunning.toNat
  closed : s.door.sock < 0 → s.door.cmdRunning = false

theorem DoorTidy.congr {s s' : SocketProcess} (h : s.DoorTidy) (hdoor : s'.door = s.door) :
    s'.DoorTidy := by
  constructor
  · rw [hdoor]; exact h.threads
  · rw [hdoor]; exact h.closed

/-- The condition on starts: the door's socket is stored over none. -/
def FirstStart (s : SocketProcess) : SocketCall → Prop
  | .doorInit onePort k => k.stores onePort = true → s.door.sock < 0
  | _ => True

/-- The door's part of what every run keeps. -/
structure DoorInv (s : SocketProcess) : Prop where
  opened : s.DoorOpen
  tidy : s.DoorHolds → s.DoorTidy

/-- A call that leaves the door's socket and statics alone. -/
theorem DoorInv.frame {s s' : SocketProcess} (h : s.DoorInv) (hdoor : s'.door = s.door)
    {P : SocketUse → Prop} (hP : P .door) (hfds : FdTable.AgreeOn P s.fds s'.fds) :
    s'.DoorInv ∧ (s'.DoorHolds ↔ s.DoorHolds) := by
  have hiff := doorHolds_congr hdoor hP hfds
  exact ⟨⟨h.opened.of_agree hdoor hP hfds, fun hh => (h.tidy (hiff.mp hh)).congr hdoor⟩, hiff⟩

theorem DoorInv.doorUdpInit2 {s : SocketProcess} (h : s.DoorInv) (onePort : Bool)
    (k : DoorInitReplies) :
    (s.doorUdpInit2 onePort k).2.DoorInv
      ∧ ((s.doorUdpInit2 onePort k).2.DoorHolds
          ↔ s.DoorHolds ∧ s.FirstStart (.doorInit onePort k))
      ∧ FdTable.AgreeOn (· ≠ .door) s.fds (s.doorUdpInit2 onePort k).2.fds := by
  obtain ⟨-, -, ⟨hstores, hrefers, hdoor⟩ | ⟨hstores, hfds, hsock, hstatics⟩⟩ :=
    doorUdpInit2_cases s onePort k
  · obtain ⟨hinv, hiff⟩ :=
      h.frame (P := fun _ => True) hdoor trivial (FdTable.AgreeOn.of_refers hrefers)
    refine ⟨hinv, hiff.trans (iff_self_and.mpr fun _ => ?_), .of_refers hrefers⟩
    simp [FirstStart, hstores]
  · have hiff := doorHolds_install h.opened hfds hsock
    refine ⟨⟨fun _ => ?_, fun hafter => ?_⟩, ?_, ?_⟩
    · rw [hsock, hfds, Int.toNat_natCast, FdTable.refers_install_self]
    · obtain ⟨hbefore, hneg⟩ := hiff.mp hafter
      obtain ⟨hthreads, hclosed⟩ := h.tidy hbefore
      rw [hclosed hneg] at hthreads hstatics
      refine ⟨?_, fun hneg' => absurd hneg' (by rw [hsock]; omega)⟩
      rcases hstatics with ⟨hsame, hrunning⟩ | ⟨hone, hrunning⟩
      · rw [hsame, hrunning, hthreads, Bool.and_false]
      · rw [hone, hrunning, hthreads]
        rfl
    · rw [hiff]
      simp [FirstStart, hstores]
    · rw [hfds]
      exact .install (by simp)

theorem DoorInv.doorUdpClose {s : SocketProcess} (h : s.DoorInv) :
    s.doorUdpClose.DoorInv ∧ (s.doorUdpClose.DoorHolds ↔ s.DoorHolds)
      ∧ FdTable.AgreeOn (· ≠ .door) s.fds s.doorUdpClose.fds
      ∧ s.doorUdpClose.hub = s.hub ∧ s.doorUdpClose.http = s.http := by
  obtain ⟨hfds, hsock, hstatics⟩ : s.doorUdpClose.fds = s.fds.closeInt s.door.sock
      ∧ s.doorUdpClose.door.sock = (if s.door.sock ≥ 0 then -1 else s.door.sock)
      ∧ s.doorUdpClose.door.cmdRunning = false
        ∧ s.doorUdpClose.door.threads = s.door.threads - s.door.cmdRunning.toNat := by
    unfold SocketProcess.doorUdpClose
    cases hrunning : s.door.cmdRunning with
    | false => exact ⟨rfl, rfl, hrunning, rfl⟩
    | true => exact ⟨rfl, rfl, rfl, rfl⟩
  have hiff := doorHolds_closeInt h.opened hfds hsock
  refine ⟨⟨fun hpos => ?_, fun hafter => ?_⟩, hiff, ?_, rfl, rfl⟩
  · rw [hsock] at hpos
    split at hpos
    · omega
    · contradiction
  · have htidy := h.tidy (hiff.mp hafter)
    refine ⟨?_, fun _ => hstatics.1⟩
    rw [hstatics.1, hstatics.2, htidy.threads]
    exact Nat.sub_self _
  · rw [hfds]
    by_cases hneg : s.door.sock < 0
    · rw [s.fds.closeInt_of_neg hneg]
      exact .refl _
    · have hopen := h.opened (Int.not_lt.mp hneg)
      rw [FdTable.closeInt, if_pos (Int.not_lt.mp hneg)]
      refine .close fun r hr => ?_
      rw [hopen] at hr
      simpa using (Option.some.inj hr).symm

/-! ## Every run -/

structure Held (s : SocketProcess) : Prop where
  hub : s.HubHolds
  http : s.HttpHolds
  door : s.DoorInv

/-- What the process starts with belongs to other code. -/
def Foreign (r : SocketUse) : Prop := ∃ n, r = .other n

theorem held_initial {fds : FdTable SocketUse} (hfree : ∀ n r, fds.refers n = some r → Foreign r) :
    (initial fds).Held ∧ (initial fds).DoorHolds := by
  have hnone : ∀ r, ¬Foreign r → fds.Holds r (-1) := by
    intro r hr n
    exact iff_of_false (fun hn => hr (hfree n r hn)) (by omega)
  have hdoor : (initial fds).DoorHolds := hnone _ nofun
  refine ⟨⟨⟨hnone _ nofun, hnone _ nofun, fun h => h, by simp [initial]⟩,
    ⟨hnone _ nofun, by simp [initial], rfl⟩, ⟨fun hpos => ?_, fun _ => ⟨rfl, fun _ => rfl⟩⟩⟩, hdoor⟩
  exact absurd hpos (by simp [initial])

/-- Other code leaves the three alone. -/
theorem Held.frame {s : SocketProcess} (h : s.Held) {fds : FdTable SocketUse}
    (hfds : FdTable.AgreeOn (fun r => ¬Foreign r) s.fds fds) :
    { s with fds := fds }.Held ∧ ({ s with fds := fds }.DoorHolds ↔ s.DoorHolds) := by
  have hdoor : { s with fds := fds }.door = s.door := rfl
  obtain ⟨hinv, hiff⟩ := h.door.frame hdoor nofun hfds
  exact ⟨⟨h.hub.of_agree rfl (fun _ => nofun) hfds, h.http.of_agree rfl nofun hfds, hinv⟩, hiff⟩

theorem Held.step {s s' : SocketProcess} {i : SocketCall} (h : s.Held) (hs : step s i = some s') :
    s'.Held ∧ (s'.DoorHolds ↔ s.DoorHolds ∧ s.FirstStart i) := by
  cases i with
  | hubInit second k =>
      obtain rfl := Option.some.inj hs
      obtain ⟨hhub, hfds, hhttp, hdoor⟩ := h.hub.hubUdpInit second k
      obtain ⟨hinv, hiff⟩ := h.door.frame hdoor (fun _ => nofun) hfds
      exact ⟨⟨hhub, h.http.of_agree hhttp (fun _ => nofun) hfds, hinv⟩,
        hiff.trans (and_iff_left trivial).symm⟩
  | hubShutdown =>
      obtain rfl := Option.some.inj hs
      obtain ⟨hhub, hfds, hhttp, hdoor⟩ := h.hub.hubUdpShutdown
      obtain ⟨hinv, hiff⟩ := h.door.frame hdoor (fun _ => nofun) hfds
      exact ⟨⟨hhub, h.http.of_agree hhttp (fun _ => nofun) hfds, hinv⟩,
        hiff.trans (and_iff_left trivial).symm⟩
  | httpStart k =>
      obtain rfl := Option.some.inj hs
      obtain ⟨hhttp, hfds, hhub, hdoor⟩ := h.http.httpApiStart k
      obtain ⟨hinv, hiff⟩ := h.door.frame hdoor nofun hfds
      exact ⟨⟨h.hub.of_agree hhub (fun _ => nofun) hfds, hhttp, hinv⟩,
        hiff.trans (and_iff_left trivial).symm⟩
  | httpStop =>
      obtain rfl := Option.some.inj hs
      obtain ⟨hhttp, hfds, hhub, hdoor⟩ := h.http.httpApiStop
      obtain ⟨hinv, hiff⟩ := h.door.frame hdoor nofun hfds
      exact ⟨⟨h.hub.of_agree hhub (fun _ => nofun) hfds, hhttp, hinv⟩,
        hiff.trans (and_iff_left trivial).symm⟩
  | doorInit onePort k =>
      obtain rfl := Option.some.inj hs
      obtain ⟨hinv, hiff, hfds⟩ := h.door.doorUdpInit2 onePort k
      obtain ⟨hhub, hhttp, -⟩ := doorUdpInit2_cases s onePort k
      exact ⟨⟨h.hub.of_agree hhub (fun _ => nofun) hfds, h.http.of_agree hhttp nofun hfds, hinv⟩,
        hiff⟩
  | doorClose =>
      obtain rfl := Option.some.inj hs
      obtain ⟨hinv, hiff, hfds, hhub, hhttp⟩ := h.door.doorUdpClose
      exact ⟨⟨h.hub.of_agree hhub (fun _ => nofun) hfds, h.http.of_agree hhttp nofun hfds, hinv⟩,
        hiff.trans (and_iff_left trivial).symm⟩
  | opens n =>
      obtain rfl := Option.some.inj hs
      obtain ⟨hheld, hiff⟩ := h.frame (.install (r := .other n) (fun hr => hr ⟨n, rfl⟩))
      exact ⟨hheld, hiff.trans (and_iff_left trivial).symm⟩
  | closes fd =>
      simp only [SocketProcess.step] at hs
      split at hs
      · rename_i n hfd
        obtain rfl := Option.some.inj hs
        have hown : ∀ r, s.fds.refers fd = some r → ¬¬Foreign r := by
          intro r hr hnot
          rw [hfd] at hr
          exact hnot ⟨n, (Option.some.inj hr).symm⟩
        obtain ⟨hheld, hiff⟩ := h.frame (.close hown)
        exact ⟨hheld, hiff.trans (and_iff_left trivial).symm⟩
      · cases hs

/-- In every run the hub's listener and the HTTP API hold their descriptors alone, and have
a thread exactly while they hold one. A start that finds nothing started takes its sockets
and a thread if the kernel grants it all it asks for, and nothing otherwise; one that finds
something leaves everything. -/
theorem listeners_run {fds : FdTable SocketUse}
    (hfree : ∀ n r, fds.refers n = some r → Foreign r) {is : List SocketCall} {s : SocketProcess}
    (hr : Lts.run step (initial fds) is = some s) :
    s.HubHolds ∧ s.HttpHolds
      ∧ (∀ second k, if 0 ≤ s.hub.sock then s.hubUdpInit second k = (false, s)
          else (s.hubUdpInit second k).1 = k.grants second
            ∧ if k.grants second then HubStarted second (s.hubUdpInit second k).2
              else HubNothing s (s.hubUdpInit second k).2)
      ∧ ∀ k, if 0 ≤ s.http.sock then s.httpApiStart k = (false, s)
          else (s.httpApiStart k).1 = k.grants
            ∧ if k.grants then HttpStarted (s.httpApiStart k).2
              else HttpNothing s (s.httpApiStart k).2 := by
  have h : s.Held :=
    Lts.inv_run_of_step (fun _ _ _ h hs => (Held.step h hs).1) (held_initial hfree).1 hr
  refine ⟨h.hub, h.http, fun second k => ?_, fun k => ?_⟩
  · split
    · exact if_pos (Or.inl ‹_›)
    · exact h.hub.hubUdpInit_all (Int.not_le.mp ‹_›) second k
  · split
    · exact if_pos (h.http.running.mpr ‹_›)
    · exact h.http.httpApiStart_all (Int.not_le.mp ‹_›) k

/-- The standard streams. -/
def streams : FdTable SocketUse := .ofList [.other 0, .other 1, .other 2]

theorem streams_foreign : ∀ n r, streams.refers n = some r → Foreign r := by
  intro n r hr
  have hmem := List.mem_of_getElem? hr
  simp only [List.mem_cons, List.not_mem_nil, or_false] at hmem
  rcases hmem with rfl | rfl | rfl <;> exact ⟨_, rfl⟩

/-- The hub's second port is taken, and the API starts. -/
def hubFails : List SocketCall :=
  [.hubInit true ⟨true, true, true, false, true⟩, .httpStart ⟨true, true, true, true, true⟩]

/-- The hub is then started again, with success. -/
theorem listeners_run_hubFails : ∃ s, Lts.run step (initial streams) hubFails = some s
    ∧ HttpHolds s ∧ s.http.running = true
    ∧ HubStarted true (s.hubUdpInit true ⟨true, true, true, true, true⟩).2 := by
  have hrun : Lts.run step (initial streams) hubFails = some _ := rfl
  obtain ⟨-, hhttp, hhub, -⟩ := listeners_run streams_foreign hrun
  have hstart := hhub true ⟨true, true, true, true, true⟩
  rw [if_neg (by decide)] at hstart
  exact ⟨_, hrun, hhttp, rfl, hstart.2⟩

/-- In every run the door holds its descriptor alone exactly if no start stored a socket
over another; and then it has one thread while it runs, and none without a socket. -/
theorem doorHolds_iff {fds : FdTable SocketUse}
    (hfree : ∀ n r, fds.refers n = some r → Foreign r) {is : List SocketCall} {s : SocketProcess}
    (hr : Lts.run step (initial fds) is = some s) :
    (s.DoorHolds ↔ Lts.Along step FirstStart (initial fds) is)
      ∧ (s.DoorHolds → s.DoorTidy) := by
  obtain ⟨hheld, hdoor⟩ := held_initial hfree
  have h : s.Held := Lts.inv_run_of_step (fun _ _ _ h hs => (Held.step h hs).1) hheld hr
  have hclean := Lts.clean_iff_along (fun _ _ _ h hs => (Held.step h hs).1)
    (fun _ _ _ h hs => (Held.step h hs).2) hheld hr
  exact ⟨hclean.trans (and_iff_right hdoor), h.door.tidy⟩

/-- Reporting is started twice. -/
def doorTwice : List SocketCall :=
  [.doorInit false ⟨true, true, true, true⟩, .doorInit false ⟨true, true, true, true⟩]

theorem doorHolds_iff_doorTwice : ∃ s, Lts.run step (initial streams) doorTwice = some s
    ∧ (s.DoorHolds ↔ Lts.Along step FirstStart (initial streams) doorTwice) ∧ ¬s.DoorHolds := by
  have hrun : Lts.run step (initial streams) doorTwice = some _ := rfl
  have hiff := (doorHolds_iff streams_foreign hrun).1
  refine ⟨_, hrun, hiff, fun hholds => ?_⟩
  obtain ⟨-, hrest⟩ := hiff.mp hholds
  have hneg := (hrest _ rfl).1 rfl
  exact absurd hneg (Int.not_lt.mpr (Int.natCast_nonneg _))

end SocketProcess

end HomeSecurity
