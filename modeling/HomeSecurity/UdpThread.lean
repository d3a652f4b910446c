import HomeSecurity.HubEffects

/-!
# The hub's receiver thread

`udp_thread` of `hub_udp.c`, with the receive queues of its two sockets. Datagrams
arrive at any time, `g_stopping` is set at any time, `select` and `recvfrom` fail or are
interrupted at any time, and `select` may report a socket that has nothing.

Whatever happens, the hub the thread leaves is one that a run of `Hub.step` leaves, and
each datagram that arrived was handled once, in its place, or still waits (`handled_run`).
The thread makes up for what arrives and for what disturbs it (`catchesUp_run`): only datagrams
that keep arriving at one port hold up the other port, the offline check and the stop, and
then for as long as they do (`starved_run`). Told to stop, it returns once what waits is
handled (`returns_run`).
-/

namespace HomeSecurity

open CText

/-- The sockets `g_sock` and `g_sock2`. -/
inductive ListenSock where
  | sock
  | sock2
deriving DecidableEq

/-- A datagram in a receive queue. -/
structure Arrival where
  src : SockAddr
  bytes : Text
deriving DecidableEq

/-- Where `udp_thread` is. -/
inductive ThreadPc where
  /-- `while (!g_stopping)`. -/
  | top
  | select
  /-- In the inner loop, receiving from the port. -/
  | receive (port : ListenSock)
  /-- Before `check_offline_modules()`. -/
  | check
  | returned
deriving DecidableEq

/-- A call of `handle_line` or of `check_offline_modules`, with the clock readings it
takes. -/
inductive HandledCall where
  | line (port : ListenSock) (a : Arrival) (t issued : Int)
  | check (now : Int)

/-- The call as the hub's own model has it. -/
def HandledCall.input : HandledCall → Hub.Input
  | .line _ a t issued => .datagram ⟨a.src, a.bytes, t, issued⟩
  | .check now => .check now

/-- What was received from the port. -/
def HandledCall.from? (port : ListenSock) : HandledCall → Option Arrival
  | .line p a _ _ => if p = port then some a else none
  | .check _ => none

inductive SelectResult where
  /-- `EINTR`. -/
  | interrupted
  | failed
  | timeout
  /-- The ports reported are those with a datagram. -/
  | ready (isset : ListenSock → Bool)
  /-- A port without a datagram may be among them. -/
  | spurious (isset : ListenSock → Bool)

inductive RecvResult where
  /-- `EINTR`. -/
  | interrupted
  | failed
  /-- The next datagram, or `EAGAIN`. -/
  | next

inductive ThreadEvent where
  | arrive (port : ListenSock) (a : Arrival)
  /-- `hub_udp_shutdown` sets `g_stopping`. -/
  | stop
  | loop
  | select (r : SelectResult)
  | recv (r : RecvResult) (t issued : Int)
  | check (now : Int)

namespace ThreadEvent

/-- A step the thread makes undisturbed. -/
def work : ThreadEvent → Nat
  | .loop => 1
  | .select .timeout => 1
  | .select (.ready _) => 1
  | .recv .next _ _ => 1
  | .check _ => 1
  | _ => 0

/-- The steps that an event adds to the thread's work. -/
def delay : ThreadEvent → Nat
  | .arrive _ _ => 5
  | .select .interrupted => 1
  | .select .failed => 1
  | .select (.spurious _) => 3
  | .recv .failed _ _ => 3
  | _ => 0

/-- A step of the thread, disturbed or not. -/
def own : ThreadEvent → Nat
  | .arrive _ _ => 0
  | .stop => 0
  | _ => 1

/-- The steps that an event adds to those of a thread told to stop. -/
def prolongs : ThreadEvent → Nat
  | .arrive _ _ => 1
  | .recv .interrupted _ _ => 1
  | _ => 0

/-- A datagram, or `EAGAIN`, that the thread receives. -/
def reads : ThreadEvent → Nat
  | .recv .next _ _ => 1
  | _ => 0

/-- What an event brings to the port. -/
def arrivalsAt (port : ListenSock) : ThreadEvent → List Arrival
  | .arrive p a => if p = port then [a] else []
  | _ => []

end ThreadEvent

structure UdpThread where
  pc : ThreadPc
  stopping : Bool
  /-- `g_sock2 >= 0`. -/
  second : Bool
  queue : ListenSock → List Arrival
  hub : Hub
  /-- Every datagram that reached the port, in order. -/
  arrived : ListenSock → List Arrival
  /-- Every call the thread made, in order. -/
  log : List HandledCall

namespace UdpThread

/-- As `hub_udp_init` starts it. -/
def started (webhookUrl : Text) (second : Bool) : UdpThread where
  pc := .top
  stopping := false
  second := second
  queue _ := []
  hub := Hub.init webhookUrl
  arrived _ := []
  log := []

def isOpen (s : UdpThread) : ListenSock → Bool
  | .sock => true
  | .sock2 => s.second

/-- Nothing waits on any port. -/
def Drained (s : UdpThread) : Prop := ∀ port, s.queue port = []

instance (s : UdpThread) : Decidable s.Drained :=
  decidable_of_iff (s.queue .sock = [] ∧ s.queue .sock2 = [])
    ⟨fun h port => by cases port; exacts [h.1, h.2], fun h => ⟨h .sock, h .sock2⟩⟩

/-- `select` reports every port that has a datagram, and no port that is not open. -/
def Reports (s : UdpThread) (isset : ListenSock → Bool) : Prop :=
  (s.queue .sock ≠ [] → isset .sock = true) ∧ (s.queue .sock2 ≠ [] → isset .sock2 = true) ∧
    (isset .sock2 = true → s.second = true) ∧ (isset .sock = true ∨ isset .sock2 = true)

instance (s : UdpThread) (isset : ListenSock → Bool) : Decidable (s.Reports isset) :=
  inferInstanceAs (Decidable (_ ∧ _))

/-- It reports no other port. -/
def ReportsOnly (s : UdpThread) (isset : ListenSock → Bool) : Prop :=
  (isset .sock = true → s.queue .sock ≠ []) ∧ (isset .sock2 = true → s.queue .sock2 ≠ [])

instance (s : UdpThread) (isset : ListenSock → Bool) : Decidable (s.ReportsOnly isset) :=
  inferInstanceAs (Decidable (_ ∧ _))

/-- `FD_ISSET(g_sock, &rfds)`, else `FD_ISSET(g_sock2, &rfds)`. -/
def chosen (isset : ListenSock → Bool) : ListenSock := if isset .sock then .sock else .sock2

/-- The part of the loop after `select`. -/
def selected (s : UdpThread) : SelectResult → Option UdpThread
  | .interrupted => some { s with pc := .top }
  | .failed => some { s with pc := .top }
  | .timeout => if s.Drained then some { s with pc := .check } else none
  | .ready isset =>
      if s.Reports isset ∧ s.ReportsOnly isset then some { s with pc := .receive (chosen isset) }
      else none
  | .spurious isset =>
      if s.Reports isset then some { s with pc := .receive (chosen isset) } else none

/-- `handle_line` or `check_offline_modules`. -/
def handle (s : UdpThread) (call : HandledCall) : UdpThread :=
  { s with hub := (s.hub.input call.input).1, log := s.log ++ [call] }

/-- The rest of the inner loop's body once `recvfrom` took `a` off the queue. -/
def taken (s : UdpThread) (port : ListenSock) (a : Arrival) (rest : List Arrival)
    (t issued : Int) : UdpThread :=
  let s := { s with queue := Function.update s.queue port rest }
  -- `n == 0` ends the inner loop
  if a.bytes = [] then { s with pc := .check } else s.handle (.line port a t issued)

/-- The body of the inner loop, on `port`. -/
def received (s : UdpThread) (port : ListenSock) (t issued : Int) : RecvResult → UdpThread
  | .interrupted => s
  | .failed => { s with pc := .check }
  | .next =>
      match s.queue port with
      | [] => { s with pc := .check }
      | a :: rest => s.taken port a rest t issued

def arrive (s : UdpThread) (port : ListenSock) (a : Arrival) : UdpThread :=
  { s with
    queue := Function.update s.queue port (s.queue port ++ [a])
    arrived := Function.update s.arrived port (s.arrived port ++ [a]) }

def step (s : UdpThread) : ThreadEvent → Option UdpThread
  | .arrive port a => if s.isOpen port then some (s.arrive port a) else none
  | .stop => some { s with stopping := true }
  | .loop =>
      if s.pc = .top then some { s with pc := if s.stopping then .returned else .select } else none
  | .select r => if s.pc = .select then s.selected r else none
  | .recv r t issued =>
      match s.pc with
      | .receive port => some (s.received port t issued r)
      | _ => none
  | .check now => if s.pc = .check then some { s.handle (.check now) with pc := .top } else none

/-! ## What a step does -/

/-- The port read first is one that has something. -/
theorem queue_chosen_ne_nil {s : UdpThread} {isset : ListenSock → Bool} (h : s.Reports isset)
    (honly : s.ReportsOnly isset) : s.queue (chosen isset) ≠ [] := by
  unfold chosen
  split
  · exact honly.1 ‹_›
  · rename_i hsock
    exact honly.2 (h.2.2.2.resolve_left hsock)

theorem selected_cases {s s' : UdpThread} {r : SelectResult} (hs : s.selected r = some s') :
    ((r = .interrupted ∨ r = .failed) ∧ s' = { s with pc := .top })
      ∨ (r = .timeout ∧ s.Drained ∧ s' = { s with pc := .check })
      ∨ ∃ isset, (r = .ready isset ∧ s.queue (chosen isset) ≠ [] ∨ r = .spurious isset)
          ∧ s' = { s with pc := .receive (chosen isset) } := by
  cases r with
  | interrupted => exact Or.inl ⟨Or.inl rfl, (Option.some.inj hs).symm⟩
  | failed => exact Or.inl ⟨Or.inr rfl, (Option.some.inj hs).symm⟩
  | timeout =>
      simp only [selected] at hs
      split at hs
      · exact Or.inr (Or.inl ⟨rfl, ‹_›, (Option.some.inj hs).symm⟩)
      · cases hs
  | ready isset =>
      simp only [selected] at hs
      split at hs
      · rename_i h
        exact Or.inr (Or.inr ⟨isset, Or.inl ⟨rfl, queue_chosen_ne_nil h.1 h.2⟩,
          (Option.some.inj hs).symm⟩)
      · cases hs
  | spurious isset =>
      simp only [selected] at hs
      split at hs
      · exact Or.inr (Or.inr ⟨isset, Or.inr rfl, (Option.some.inj hs).symm⟩)
      · cases hs

/-- A step takes in a datagram, takes one out of a queue and handles it unless it is
empty, makes an offline check, or does none of these. -/
theorem step_cases {s s' : UdpThread} {e : ThreadEvent} (hs : step s e = some s') :
    (∃ port a, e = .arrive port a ∧ s.isOpen port = true ∧ s' = s.arrive port a)
      ∨ (∃ port a rest t issued, s.pc = .receive port ∧ e = .recv .next t issued
          ∧ s.queue port = a :: rest
          ∧ (a.bytes = [] ∧
                s' = { s with queue := Function.update s.queue port rest, pc := .check }
              ∨ a.bytes ≠ [] ∧
                s' = { s with queue := Function.update s.queue port rest }.handle
                  (.line port a t issued)))
      ∨ (∃ now, e = .check now ∧ s.pc = .check
          ∧ s' = { s.handle (.check now) with pc := .top })
      ∨ ∃ pc stopping, (s.stopping = true → stopping = true)
          ∧ s' = { s with pc := pc, stopping := stopping } := by
  cases e with
  | arrive port a =>
      simp only [step] at hs
      split at hs
      · exact Or.inl ⟨port, a, rfl, ‹_›, (Option.some.inj hs).symm⟩
      · cases hs
  | stop => exact Or.inr (Or.inr (Or.inr ⟨s.pc, true, fun _ => rfl, (Option.some.inj hs).symm⟩))
  | loop =>
      simp only [step] at hs
      split at hs
      · exact Or.inr (Or.inr (Or.inr ⟨_, s.stopping, id, (Option.some.inj hs).symm⟩))
      · cases hs
  | select r =>
      simp only [step] at hs
      split at hs
      · rcases selected_cases hs with ⟨-, rfl⟩ | ⟨-, -, rfl⟩ | ⟨isset, -, rfl⟩
        · exact Or.inr (Or.inr (Or.inr ⟨.top, s.stopping, id, rfl⟩))
        · exact Or.inr (Or.inr (Or.inr ⟨.check, s.stopping, id, rfl⟩))
        · exact Or.inr (Or.inr (Or.inr ⟨.receive _, s.stopping, id, rfl⟩))
      · cases hs
  | recv r t issued =>
      simp only [step] at hs
      split at hs
      · rename_i port hpc
        obtain rfl := Option.some.inj hs
        cases r with
        | interrupted => exact Or.inr (Or.inr (Or.inr ⟨s.pc, s.stopping, id, rfl⟩))
        | failed => exact Or.inr (Or.inr (Or.inr ⟨.check, s.stopping, id, rfl⟩))
        | next =>
            cases hq : s.queue port with
            | nil =>
                refine Or.inr (Or.inr (Or.inr ⟨.check, s.stopping, id, ?_⟩))
                rw [received, hq]
            | cons a rest =>
                refine Or.inr (Or.inl ⟨port, a, rest, t, issued, hpc, rfl, hq, ?_⟩)
                rw [received, hq]
                by_cases hempty : a.bytes = []
                · exact Or.inl ⟨hempty, if_pos hempty⟩
                · exact Or.inr ⟨hempty, if_neg hempty⟩
      · cases hs
  | check now =>
      simp only [step] at hs
      split at hs
      · exact Or.inr (Or.inr (Or.inl ⟨now, rfl, ‹_›, (Option.some.inj hs).symm⟩))
      · cases hs

/-! ## Every datagram once, in its place -/

/-- The calls as inputs of the hub. -/
def inputs (s : UdpThread) : List Hub.Input := s.log.map HandledCall.input

/-- What was handled from the port, in order. -/
def handledFrom (s : UdpThread) (port : ListenSock) : List Arrival :=
  s.log.filterMap (HandledCall.from? port)

/-- A datagram without bytes is received and dropped. -/
def lines (as : List Arrival) : List Arrival := as.filter fun a => a.bytes ≠ []

theorem lines_append (as bs : List Arrival) : lines (as ++ bs) = lines as ++ lines bs :=
  List.filter_append ..

theorem lines_cons_of_empty {a : Arrival} (ha : a.bytes = []) (as : List Arrival) :
    lines (a :: as) = lines as := by
  simp [lines, ha]

theorem lines_cons_of_ne {a : Arrival} (ha : a.bytes ≠ []) (as : List Arrival) :
    lines (a :: as) = a :: lines as := by
  simp [lines, ha]

/-- The hub is the one its own model reaches on the calls made; on each port, what was
handled and what waits is what arrived. -/
structure Faithful (webhookUrl : Text) (s : UdpThread) : Prop where
  hub : Lts.run Hub.step (Hub.init webhookUrl) s.inputs = some s.hub
  order : ∀ port, s.handledFrom port ++ lines (s.queue port) = lines (s.arrived port)

theorem Faithful.handle_hub {webhookUrl : Text} {s : UdpThread} (h : Faithful webhookUrl s)
    (call : HandledCall) :
    Lts.run Hub.step (Hub.init webhookUrl) (s.handle call).inputs = some (s.handle call).hub := by
  have happ : (s.handle call).inputs = s.inputs ++ [call.input] := List.map_append
  rw [happ]
  exact Lts.run_append_eq_some.mpr ⟨s.hub, h.hub, rfl⟩

theorem handledFrom_handle_line (s : UdpThread) (port p : ListenSock) (a : Arrival)
    (t issued : Int) :
    (s.handle (.line port a t issued)).handledFrom p
      = s.handledFrom p ++ if port = p then [a] else [] := by
  simp only [handledFrom, handle, List.filterMap_append, List.filterMap_cons, List.filterMap_nil,
    HandledCall.from?]
  split <;> split <;> simp_all

theorem handledFrom_handle_check (s : UdpThread) (p : ListenSock) (now : Int) :
    (s.handle (.check now)).handledFrom p = s.handledFrom p := by
  simp [handledFrom, handle, HandledCall.from?]

theorem Faithful.step {webhookUrl : Text} {s s' : UdpThread} {e : ThreadEvent}
    (h : Faithful webhookUrl s) (hs : step s e = some s') : Faithful webhookUrl s' := by
  rcases step_cases hs with ⟨port, a, -, -, rfl⟩ |
    ⟨port, a, rest, t, issued, -, -, hq, ⟨hempty, rfl⟩ | ⟨hne, rfl⟩⟩ |
    ⟨now, -, -, rfl⟩ | ⟨pc, stopping, -, rfl⟩
  · refine ⟨h.hub, fun p => ?_⟩
    have horder := h.order p
    by_cases hp : p = port
    · subst hp
      simp only [arrive, Function.update_self, lines_append]
      rw [← horder, List.append_assoc]
      rfl
    · simp only [arrive, Function.update_of_ne hp]
      exact horder
  · refine ⟨h.hub, fun p => ?_⟩
    have horder := h.order p
    by_cases hp : p = port
    · subst hp
      rw [hq, lines_cons_of_empty hempty] at horder
      simp only [Function.update_self]
      exact horder
    · simp only [Function.update_of_ne hp]
      exact horder
  · refine ⟨h.handle_hub _, fun p => ?_⟩
    have horder := h.order p
    rw [handledFrom_handle_line]
    by_cases hp : p = port
    · subst hp
      rw [hq, lines_cons_of_ne hne] at horder
      simp only [handle, Function.update_self, if_true, List.append_assoc, List.singleton_append]
      exact horder
    · simp only [handle, Function.update_of_ne hp, if_neg (Ne.symm hp), List.append_nil]
      exact horder
  · refine ⟨h.handle_hub _, fun p => ?_⟩
    have hsame := handledFrom_handle_check s p now
    simp only [handledFrom] at hsame ⊢
    rw [hsame]
    exact h.order p
  · exact ⟨h.hub, h.order⟩

theorem faithful_started (webhookUrl : Text) (second : Bool) :
    Faithful webhookUrl (started webhookUrl second) :=
  ⟨rfl, fun _ => rfl⟩

/-- In every run the hub is the one its own model reaches on the calls the thread made,
and on each port the lines handled, followed by those that wait, are those that
arrived: each is handled once, none overtakes another. -/
theorem handled_run {webhookUrl : Text} {second : Bool} {es : List ThreadEvent} {s : UdpThread}
    (hr : Lts.run step (started webhookUrl second) es = some s) :
    Lts.run Hub.step (Hub.init webhookUrl) s.inputs = some s.hub
      ∧ ∀ port, s.handledFrom port ++ lines (s.queue port) = lines (s.arrived port) := by
  have h := Lts.inv_run_of_step (fun _ _ _ h hs => Faithful.step h hs)
    (faithful_started webhookUrl second) hr
  exact ⟨h.hub, h.order⟩

/-- Two modules, one on each port; the second waits while the thread is on the first. -/
def bothPorts : List ThreadEvent :=
  [.arrive .sock2 ⟨⟨2, 40000⟩, "D2 HELLO\n".toList⟩, .arrive .sock ⟨⟨1, 40000⟩, "D1 HELLO\n".toList⟩,
    .loop, .select (.ready fun _ => true), .recv .next 10 10, .recv .next 20 20, .check 30]

theorem handled_run_bothPorts : ∃ s, Lts.run step (started [] true) bothPorts = some s
    ∧ Lts.run Hub.step (Hub.init []) s.inputs = some s.hub
    ∧ ∀ port, s.handledFrom port ++ lines (s.queue port) = lines (s.arrived port) := by
  have hrun : Lts.run step (started [] true) bothPorts = some _ := rfl
  exact ⟨_, hrun, handled_run hrun⟩

/-! ## Catching up -/

/-- How many datagrams wait. -/
def waiting (s : UdpThread) : Nat := (s.queue .sock).length + (s.queue .sock2).length

theorem waiting_update (s : UdpThread) (port : ListenSock) (as : List Arrival) :
    { s with queue := Function.update s.queue port as }.waiting + (s.queue port).length
      = s.waiting + as.length := by
  cases port <;> simp [waiting] <;> omega

theorem length_le_waiting (s : UdpThread) (port : ListenSock) :
    (s.queue port).length ≤ s.waiting := by
  cases port <;> simp [waiting]

/-- All that arrived is handled, and the offline check is next. -/
def CaughtUp (s : UdpThread) : Prop := s.pc = .check ∧ s.Drained

/-- How far the thread is from having received one more datagram, or from `select` with
nothing received. -/
def rank (s : UdpThread) : Nat :=
  match s.pc with
  | .returned => 0
  | .receive port => if s.queue port = [] then 5 else 1
  | .select => 2
  | .top => 3
  | .check => 4

def potential (s : UdpThread) : Nat := 5 * s.waiting + s.rank

theorem rank_le (s : UdpThread) : s.rank ≤ 5 := by
  unfold rank
  split
  · omega
  · split <;> omega
  · omega
  · omega
  · omega

theorem potential_le (s : UdpThread) : s.potential ≤ 5 * s.waiting + 5 := by
  have hrank := s.rank_le
  unfold potential
  omega

/-- A datagram taken off pays for what the thread does with it. -/
theorem taken_potential {s : UdpThread} {port : ListenSock} {a : Arrival} {rest : List Arrival}
    (hpc : s.pc = .receive port) (hq : s.queue port = a :: rest) (t issued : Int) :
    (s.taken port a rest t issued).potential + 1 ≤ s.potential := by
  have hwait := s.waiting_update port rest
  rw [hq, List.length_cons] at hwait
  have hrank : s.rank = 1 := by simp [rank, hpc, hq]
  have hrest := rank_le (s.taken port a rest t issued)
  by_cases hempty : a.bytes = []
  · have htaken : s.taken port a rest t issued
        = { s with queue := Function.update s.queue port rest, pc := .check } := if_pos hempty
    have hcheck : (s.taken port a rest t issued).rank = 4 := by rw [htaken]; rfl
    have hw : (s.taken port a rest t issued).waiting
        = { s with queue := Function.update s.queue port rest }.waiting := by rw [htaken]; rfl
    unfold potential
    omega
  · have htaken : s.taken port a rest t issued
        = { s with queue := Function.update s.queue port rest }.handle (.line port a t issued) :=
      if_neg hempty
    have hw : (s.taken port a rest t issued).waiting
        = { s with queue := Function.update s.queue port rest }.waiting := by rw [htaken]; rfl
    unfold potential
    omega

/-- An arrival is no further away than the datagram it brings. -/
theorem arrive_potential (s : UdpThread) (port : ListenSock) (a : Arrival) :
    (s.arrive port a).potential ≤ s.potential + 5 := by
  have hwait := s.waiting_update port (s.queue port ++ [a])
  rw [List.length_append, List.length_singleton] at hwait
  have hrank : (s.arrive port a).rank ≤ s.rank := by
    unfold rank arrive
    dsimp only
    cases hpc : s.pc with
    | receive p =>
        dsimp only
        by_cases hp : p = port
        · subst hp
          simp only [Function.update_self, List.append_eq_nil_iff, List.cons_ne_self, and_false,
            if_false]
          split <;> omega
        · simp only [Function.update_of_ne hp, Nat.le_refl]
    | _ => exact Nat.le_refl _
  have hw : (s.arrive port a).waiting
      = { s with queue := Function.update s.queue port (s.queue port ++ [a]) }.waiting := rfl
  unfold potential
  omega

/-- A step catches up, or its work is paid for by the potential and by what it delays. -/
theorem step_potential {s s' : UdpThread} {e : ThreadEvent} (hs : step s e = some s') :
    s'.CaughtUp ∨ s'.potential + e.work ≤ s.potential + e.delay := by
  cases e with
  | arrive port a =>
      simp only [step] at hs
      split at hs
      · obtain rfl := Option.some.inj hs
        exact Or.inr (s.arrive_potential port a)
      · cases hs
  | stop =>
      obtain rfl := Option.some.inj hs
      exact Or.inr (Nat.le_refl _)
  | loop =>
      simp only [step] at hs
      split at hs
      · rename_i hpc
        obtain rfl := Option.some.inj hs
        refine Or.inr ?_
        have hrank : s.rank = 3 := by simp only [rank, hpc]
        simp only [potential, hrank]
        cases s.stopping <;> simp [rank, waiting, ThreadEvent.work, ThreadEvent.delay]
      · cases hs
  | select r =>
      simp only [step] at hs
      split at hs
      · rename_i hpc
        have hrank : s.rank = 2 := by simp only [rank, hpc]
        rcases selected_cases hs with ⟨rfl | rfl, rfl⟩ | ⟨-, hdrained, rfl⟩ |
          ⟨isset, ⟨rfl, hne⟩ | rfl, rfl⟩
        · exact Or.inr (by simp only [potential, hrank]; exact Nat.le_refl _)
        · exact Or.inr (by simp only [potential, hrank]; exact Nat.le_refl _)
        · exact Or.inl ⟨rfl, hdrained⟩
        · have hone : { s with pc := .receive (chosen isset) }.rank = 1 := if_neg hne
          simp only [potential, hrank, hone]
          exact Or.inr (Nat.le_refl _)
        · have hle := rank_le { s with pc := .receive (chosen isset) }
          simp only [potential, hrank]
          exact Or.inr (Nat.add_le_add_left hle _)
      · cases hs
  | recv r t issued =>
      simp only [step] at hs
      split at hs
      · rename_i port hpc
        obtain rfl := Option.some.inj hs
        cases r with
        | interrupted => exact Or.inr (Nat.le_refl _)
        | failed =>
            refine Or.inr ?_
            have hrank : 1 ≤ s.rank := by
              simp only [rank, hpc]
              split <;> omega
            have hcheck : (s.received port t issued .failed).potential = 5 * s.waiting + 4 := rfl
            simp only [potential, ThreadEvent.work, ThreadEvent.delay] at hcheck ⊢
            omega
        | next =>
            cases hq : s.queue port with
            | nil =>
                refine Or.inr ?_
                have hrank : s.rank = 5 := by simp only [rank, hpc, hq, if_true]
                have hreceived : s.received port t issued .next = { s with pc := .check } := by
                  rw [received, hq]
                rw [hreceived]
                simp only [potential, hrank, ThreadEvent.work, ThreadEvent.delay]
                exact Nat.le_refl _
            | cons a rest =>
                refine Or.inr ?_
                have hreceived : s.received port t issued .next = s.taken port a rest t issued := by
                  rw [received, hq]
                rw [hreceived]
                exact taken_potential hpc hq t issued
      · cases hs
  | check now =>
      simp only [step] at hs
      split at hs
      · rename_i hpc
        obtain rfl := Option.some.inj hs
        refine Or.inr ?_
        have hrank : s.rank = 4 := by simp only [rank, hpc]
        simp only [potential, hrank]
        exact Nat.le_refl _
      · cases hs

/-- From any state, the thread catches up or has made no more than five steps for each
datagram that waits or arrives, three for each disturbance, and five. -/
theorem catchesUp_run {es : List ThreadEvent} {s s' : UdpThread}
    (hr : Lts.run step s es = some s') :
    (∃ pre post m, es = pre ++ post ∧ Lts.run step s pre = some m ∧ m.CaughtUp)
      ∨ (es.map ThreadEvent.work).sum
          ≤ 5 * s.waiting + 5 + (es.map ThreadEvent.delay).sum := by
  have hpaid : (∃ pre post m, es = pre ++ post ∧ Lts.run step s pre = some m ∧ m.CaughtUp)
      ∨ s'.potential + (es.map ThreadEvent.work).sum
          ≤ s.potential + (es.map ThreadEvent.delay).sum :=
    Lts.reaches_or_cost_le (fun _ _ _ _ _ => trivial) (fun _ _ _ _ hs => step_potential hs)
      (trivial : True) hr
  have hle := s.potential_le
  exact hpaid.imp_right fun h => by omega

theorem catchesUp_run_bothPorts : ∃ s, Lts.run step (started [] true) bothPorts = some s
    ∧ ((∃ pre post m, bothPorts = pre ++ post ∧ Lts.run step (started [] true) pre = some m
          ∧ m.CaughtUp)
        ∨ (bothPorts.map ThreadEvent.work).sum
            ≤ 5 * (started [] true).waiting + 5 + (bothPorts.map ThreadEvent.delay).sum) := by
  have hrun : Lts.run step (started [] true) bothPorts = some _ := rfl
  exact ⟨_, hrun, catchesUp_run hrun⟩

/-! ## Returning -/

/-- The steps that are left once `g_stopping` is set and nothing more arrives. -/
def left (s : UdpThread) : Nat :=
  match s.pc with
  | .returned => 0
  | .top => 1
  | .check => 2
  | .receive port => 3 + (s.queue port).length
  | .select => 4 + s.waiting

theorem left_le (s : UdpThread) : s.left ≤ s.waiting + 4 := by
  unfold left
  split
  · omega
  · omega
  · omega
  · rename_i port _
    have hle := s.length_le_waiting port
    omega
  · omega

theorem stopping_step {s s' : UdpThread} {e : ThreadEvent} (hstop : s.stopping = true)
    (hs : step s e = some s') : s'.stopping = true := by
  rcases step_cases hs with ⟨port, a, -, -, rfl⟩ |
    ⟨port, a, rest, t, issued, -, -, -, ⟨-, rfl⟩ | ⟨-, rfl⟩⟩ | ⟨now, -, -, rfl⟩ |
    ⟨pc, stopping, hkeep, rfl⟩
  · exact hstop
  · exact hstop
  · exact hstop
  · exact hstop
  · exact hkeep hstop

/-- A datagram taken off is one step less. -/
theorem taken_left {s : UdpThread} {port : ListenSock} {a : Arrival} {rest : List Arrival}
    (hpc : s.pc = .receive port) (hq : s.queue port = a :: rest) (t issued : Int) :
    (s.taken port a rest t issued).left + 1 ≤ s.left := by
  have hleft : s.left = 4 + rest.length := by
    simp only [left, hpc, hq, List.length_cons]
    omega
  unfold taken
  dsimp only
  split
  · rw [hleft]
    simp only [left]
    omega
  · have hkept : ({ s with queue := Function.update s.queue port rest }.handle
        (.line port a t issued)).left = 3 + rest.length := by
      simp only [left, handle, hpc, Function.update_self]
    omega

theorem arrive_left (s : UdpThread) (port : ListenSock) (a : Arrival) :
    (s.arrive port a).left ≤ s.left + 1 := by
  have hwait := s.waiting_update port (s.queue port ++ [a])
  rw [List.length_append, List.length_singleton] at hwait
  have hw : (s.arrive port a).waiting
      = { s with queue := Function.update s.queue port (s.queue port ++ [a]) }.waiting := rfl
  have hpc : (s.arrive port a).pc = s.pc := rfl
  unfold left
  rw [hpc]
  cases s.pc with
  | receive p =>
      dsimp only
      by_cases hp : p = port
      · subst hp
        simp only [arrive, Function.update_self, List.length_append, List.length_singleton]
        omega
      · simp only [arrive, Function.update_of_ne hp]
        omega
  | _ => dsimp only; omega

/-- Once told to stop, each step of the thread takes it nearer to its return. -/
theorem step_left {s s' : UdpThread} {e : ThreadEvent} (hstop : s.stopping = true)
    (hs : step s e = some s') : s'.left + e.own ≤ s.left + e.prolongs := by
  cases e with
  | arrive port a =>
      simp only [step] at hs
      split at hs
      · obtain rfl := Option.some.inj hs
        exact s.arrive_left port a
      · cases hs
  | stop =>
      obtain rfl := Option.some.inj hs
      exact Nat.le_refl _
  | loop =>
      simp only [step] at hs
      split at hs
      · rename_i hpc
        obtain rfl := Option.some.inj hs
        simp [left, hpc, ThreadEvent.own]
      · cases hs
  | select r =>
      simp only [step] at hs
      split at hs
      · rename_i hpc
        have hleft : s.left = 4 + s.waiting := by simp only [left, hpc]
        rw [hleft]
        rcases selected_cases hs with ⟨-, rfl⟩ | ⟨-, -, rfl⟩ | ⟨isset, -, rfl⟩
        · simp only [left, ThreadEvent.own]
          omega
        · simp only [left, ThreadEvent.own]
          omega
        · have hle := s.length_le_waiting (chosen isset)
          simp only [left, ThreadEvent.own]
          omega
      · cases hs
  | recv r t issued =>
      simp only [step] at hs
      split at hs
      · rename_i port hpc
        obtain rfl := Option.some.inj hs
        have hleft : s.left = 3 + (s.queue port).length := by simp only [left, hpc]
        cases r with
        | interrupted => exact Nat.le_refl _
        | failed =>
            rw [hleft]
            simp only [received, left, ThreadEvent.own]
            omega
        | next =>
            cases hq : s.queue port with
            | nil =>
                rw [hleft, received, hq]
                simp only [left, ThreadEvent.own]
                omega
            | cons a rest =>
                have hreceived : s.received port t issued .next = s.taken port a rest t issued := by
                  rw [received, hq]
                rw [hreceived]
                exact taken_left hpc hq t issued
      · cases hs
  | check now =>
      simp only [step] at hs
      split at hs
      · rename_i hpc
        obtain rfl := Option.some.inj hs
        simp only [left, hpc, ThreadEvent.own]
        omega
      · cases hs

/-- Something waits only on an open port. -/
def Waits (s : UdpThread) : Prop := s.queue .sock2 ≠ [] → s.second = true

theorem Waits.step {s s' : UdpThread} {e : ThreadEvent} (h : s.Waits)
    (hs : step s e = some s') : s'.Waits := by
  rcases step_cases hs with ⟨port, a, -, hopen, rfl⟩ |
    ⟨port, a, rest, t, issued, -, -, hq, ⟨-, rfl⟩ | ⟨-, rfl⟩⟩ | ⟨now, -, -, rfl⟩ |
    ⟨pc, stopping, -, rfl⟩
  · cases port with
    | sock => exact h
    | sock2 => exact fun _ => hopen
  · cases port with
    | sock => exact h
    | sock2 => exact fun _ => h (by rw [hq]; exact List.cons_ne_nil a rest)
  · cases port with
    | sock => exact h
    | sock2 => exact fun _ => h (by rw [hq]; exact List.cons_ne_nil a rest)
  · exact h
  · exact h

/-- Unless it has returned, the thread is not stuck. -/
theorem exists_step {s : UdpThread} (hpc : s.pc ≠ .returned) (hwaits : s.Waits) :
    ∃ e, e.work = 1 ∧ (step s e).isSome = true := by
  cases h : s.pc with
  | top => exact ⟨.loop, rfl, by simp [step, h]⟩
  | select =>
      by_cases hdrained : s.Drained
      · exact ⟨.select .timeout, rfl, by simp [step, h, selected, hdrained]⟩
      · refine ⟨.select (.ready fun port => s.queue port ≠ []), rfl, ?_⟩
        have hsome : s.queue .sock ≠ [] ∨ s.queue .sock2 ≠ [] := by
          by_contra hnone
          push Not at hnone
          exact hdrained fun port => by cases port; exacts [hnone.1, hnone.2]
        have hreports : s.Reports fun port => s.queue port ≠ [] := by
          simpa [Reports] using ⟨hwaits, hsome⟩
        have honly : s.ReportsOnly fun port => s.queue port ≠ [] := by simp [ReportsOnly]
        rw [step, if_pos h, selected, if_pos ⟨hreports, honly⟩, Option.isSome_some]
  | receive port => exact ⟨.recv .next 0 0, rfl, by simp [step, h]⟩
  | check => exact ⟨.check 0, rfl, by simp [step, h]⟩
  | returned => exact absurd h hpc

/-- A thread told to stop returns: it makes at most four steps, one for each datagram that
waits or arrives and one for each interruption, and until it returns it can make one. -/
theorem returns_run {webhookUrl : Text} {second : Bool} {es fs : List ThreadEvent}
    {s s' : UdpThread} (hr : Lts.run step (started webhookUrl second) es = some s)
    (hstop : s.stopping = true) (hr' : Lts.run step s fs = some s') :
    (fs.map ThreadEvent.own).sum ≤ s.waiting + 4 + (fs.map ThreadEvent.prolongs).sum
      ∧ (s'.pc ≠ .returned → ∃ e, e.work = 1 ∧ (step s' e).isSome = true) := by
  have hpaid : s'.left + (fs.map ThreadEvent.own).sum
      ≤ s.left + (fs.map ThreadEvent.prolongs).sum :=
    Lts.cost_le (fun _ _ _ h hs => stopping_step h hs) (fun _ e _ h hs => step_left (e := e) h hs)
      hstop hr'
  have hle := s.left_le
  have hinit : (started webhookUrl second).Waits := fun h => absurd rfl h
  have hwaits : s.Waits := Lts.inv_run_of_step (fun _ _ _ h hs => Waits.step h hs) hinit hr
  have hwaits' : s'.Waits := Lts.inv_run_of_step (fun _ _ _ h hs => Waits.step h hs) hwaits hr'
  exact ⟨by omega, fun hpc => exists_step hpc hwaits'⟩

/-- `g_stopping` is set while D2's line still waits. -/
theorem returns_run_bothPorts : ∃ s s',
    Lts.run step (started [] true) (bothPorts ++ [.stop]) = some s ∧ s.stopping = true
      ∧ Lts.run step s [.loop] = some s' ∧ s'.pc = .returned
      ∧ ([ThreadEvent.loop].map ThreadEvent.own).sum
          ≤ s.waiting + 4 + ([ThreadEvent.loop].map ThreadEvent.prolongs).sum := by
  have hrun : Lts.run step (started [] true) (bothPorts ++ [.stop]) = some _ := rfl
  exact ⟨_, _, hrun, rfl, rfl, rfl, And.left (returns_run hrun rfl rfl)⟩

/-! ## What the inner loop holds up -/

/-- What happens while the thread is in the inner loop of the port: whatever arrives, a
stop, and calls of `recvfrom` that find a datagram, or are interrupted. -/
def Fed (port : ListenSock) (s : UdpThread) : ThreadEvent → Prop
  | .arrive p _ => s.isOpen p = true
  | .stop => True
  | .recv .interrupted _ _ => True
  | .recv .next _ _ => ∃ a ∈ (s.queue port).head?, a.bytes ≠ []
  | _ => False

instance (port : ListenSock) (s : UdpThread) : (e : ThreadEvent) → Decidable (Fed port s e)
  | .arrive .. => inferInstanceAs (Decidable (_ = _))
  | .stop => isTrue trivial
  | .recv .interrupted .. => isTrue trivial
  | .recv .next .. => inferInstanceAs (Decidable (∃ a ∈ (s.queue port).head?, a.bytes ≠ []))
  | .recv .failed .. => isFalse id
  | .loop => isFalse id
  | .select _ => isFalse id
  | .check _ => isFalse id

/-- The thread is still in the inner loop of the port: it has made these calls for datagrams
of this port, and what the events brought to the others waits there. -/
structure HeldAt (port : ListenSock) (s s' : UdpThread) (es : List ThreadEvent)
    (calls : List HandledCall) : Prop where
  pc : s'.pc = .receive port
  log : s'.log = s.log ++ calls
  count : calls.length = (es.map ThreadEvent.reads).sum
  only : ∀ call ∈ calls, (call.from? port).isSome = true
  order : ∀ p, calls.filterMap (HandledCall.from? p) ++ s'.queue p
    = s.queue p ++ es.flatMap (ThreadEvent.arrivalsAt p)

theorem HeldAt.append {port : ListenSock} {s m s' : UdpThread} {es fs : List ThreadEvent}
    {calls later : List HandledCall} (h : HeldAt port s m es calls)
    (h' : HeldAt port m s' fs later) : HeldAt port s s' (es ++ fs) (calls ++ later) where
  pc := h'.pc
  log := by rw [h'.log, h.log, List.append_assoc]
  count := by rw [List.length_append, List.map_append, List.sum_append, h.count, h'.count]
  only call hcall := (List.mem_append.mp hcall).elim (h.only call) (h'.only call)
  order p := by
    rw [List.filterMap_append, List.append_assoc, h'.order p, ← List.append_assoc, h.order p,
      List.append_assoc, List.flatMap_append]

/-- A step that makes no call keeps the thread where it is. -/
theorem heldAt_nil {port : ListenSock} {s s' : UdpThread} {e : ThreadEvent}
    (hpc : s'.pc = .receive port) (hlog : s'.log = s.log) (hreads : e.reads = 0)
    (horder : ∀ p, s'.queue p = s.queue p ++ e.arrivalsAt p) : HeldAt port s s' [e] [] where
  pc := hpc
  log := by rw [hlog, List.append_nil]
  count := by rw [List.map_singleton, List.sum_singleton, hreads, List.length_nil]
  only _ hcall := absurd hcall List.not_mem_nil
  order p := by rw [List.flatMap_singleton]; exact horder p

theorem fed_step {s : UdpThread} {port : ListenSock} {e : ThreadEvent}
    (hpc : s.pc = .receive port) (hfed : Fed port s e) :
    ∃ s' calls, step s e = some s' ∧ HeldAt port s s' [e] calls := by
  cases e with
  | arrive p a =>
      refine ⟨s.arrive p a, [], if_pos hfed, heldAt_nil hpc rfl rfl fun q => ?_⟩
      by_cases hq : q = p
      · subst hq
        simp [arrive, ThreadEvent.arrivalsAt]
      · simp [arrive, ThreadEvent.arrivalsAt, hq, Ne.symm hq]
  | stop =>
      exact ⟨_, [], rfl, heldAt_nil hpc rfl rfl fun _ => (List.append_nil _).symm⟩
  | recv r t issued =>
      have hstep : step s (.recv r t issued) = some (s.received port t issued r) := by
        simp only [step, hpc]
      cases r with
      | interrupted =>
          exact ⟨_, [], hstep, heldAt_nil hpc rfl rfl fun _ => (List.append_nil _).symm⟩
      | failed => exact hfed.elim
      | next =>
          obtain ⟨a, ha, hne⟩ := hfed
          obtain ⟨rest, hq⟩ := List.head?_eq_some_iff.mp ha
          have hreceived : s.received port t issued .next
              = { s with queue := Function.update s.queue port rest }.handle
                  (.line port a t issued) := by
            rw [received, hq]
            exact if_neg hne
          rw [hreceived] at hstep
          refine ⟨_, [.line port a t issued], hstep, hpc, rfl, rfl, ?_, fun p => ?_⟩
          · intro call hcall
            rw [List.mem_singleton.mp hcall, HandledCall.from?, if_pos rfl, Option.isSome_some]
          · by_cases hp : p = port
            · subst hp
              simp [handle, HandledCall.from?, ThreadEvent.arrivalsAt, hq]
            · simp [handle, HandledCall.from?, ThreadEvent.arrivalsAt, hp, Ne.symm hp]
  | loop => exact hfed.elim
  | select _ => exact hfed.elim
  | check _ => exact hfed.elim

/-- As long as `recvfrom` finds a datagram whenever the thread calls it, the thread stays
with this port, whatever arrives in between and even if it is told to stop: it handles what
came to this port, makes no offline check, and what waits on the other port waits on. -/
theorem starved_run {s : UdpThread} {port : ListenSock} (hpc : s.pc = .receive port)
    {es : List ThreadEvent} (hfed : Lts.Along step (Fed port) s es) :
    ∃ s' calls, Lts.run step s es = some s' ∧ HeldAt port s s' es calls := by
  induction es generalizing s with
  | nil =>
      exact ⟨s, [], rfl, hpc, (List.append_nil _).symm, rfl,
        fun _ hcall => absurd hcall List.not_mem_nil, fun _ => (List.append_nil _).symm⟩
  | cons e es ih =>
      obtain ⟨hnow, hrest⟩ := hfed
      obtain ⟨m, calls, hm, hheld⟩ := fed_step hpc hnow
      obtain ⟨s', later, hrun, hlater⟩ := ih hheld.pc (hrest m hm)
      exact ⟨s', calls ++ later, Lts.run_cons_eq_some.mpr ⟨m, hm, hrun⟩, hheld.append hlater⟩

/-- D1 keeps sending; D2's line and `g_stopping` come in between. -/
def steadily : List ThreadEvent :=
  [.arrive .sock ⟨⟨1, 40000⟩, "D1 HELLO\n".toList⟩, .recv .next 10 10,
    .arrive .sock2 ⟨⟨2, 40000⟩, "D2 HELLO\n".toList⟩,
    .arrive .sock ⟨⟨1, 40000⟩, "D1 HEARTBEAT D0=CLOSED,LOCKED\n".toList⟩, .stop,
    .recv .interrupted 20 20, .recv .next 20 20]

theorem starved_run_hello : ∃ s',
    Lts.run step { started [] true with pc := .receive .sock } steadily = some s'
      ∧ s'.pc = .receive .sock ∧ s'.log.length = 2 := by
  obtain ⟨s', calls, hrun, hheld⟩ :=
    starved_run (s := { started [] true with pc := .receive .sock }) rfl
      (by decide : Lts.Along step (Fed .sock) _ steadily)
  refine ⟨s', hrun, hheld.pc, ?_⟩
  rw [hheld.log]
  exact hheld.count

end UdpThread

end HomeSecurity
