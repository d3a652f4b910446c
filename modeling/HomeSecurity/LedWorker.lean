import HomeSecurity.FifoRing
import HomeSecurity.Lts

/-!
# The LED worker

`led_worker.c`: one thread that plays LED sequences, and a queue of 32 slots from
which it takes them. Any thread enqueues; the thread that owns the worker starts
it and shuts it down, one after the other. A step is what happens under the mutex
at one go, or the playing of one task, so a run is an interleaving of all threads.

`accounts_run` relates every run to a `DropQueue`: its log is what was enqueued,
what waits in it is what lies between the ring's indices, and what was taken is
what the worker has played or has in hand.
-/

namespace HomeSecurity

open Relation

inductive LedTaskType where
  | blinkRed
  | hubSuccess
  | networkError
  | hubFailure
  | lockSuccess
  | lockFailure
  | unlockSuccess
  | unlockFailure
  | doorError
deriving DecidableEq

structure LedTask where
  type : LedTaskType
  flashes : Int
  freqHz : Int
  duty : Int
deriving DecidableEq

/-- The sequences of `led.c` that can be enqueued. -/
inductive LedSequence where
  | blinkRedN (flashes freqHz dutyPercent : Int)
  | hubCommandSuccess
  | statusNetworkError
  | hubCommandFailure
  | lockSuccess
  | lockFailure
  | unlockSuccess
  | unlockFailure
  | statusDoorError
deriving DecidableEq

abbrev ledQueueSize : Nat := 32

theorem neZeroLedQueue : NeZero ledQueueSize := ⟨Nat.succ_ne_zero 31⟩

attribute [local instance] neZeroLedQueue

abbrev LedQueue := FifoRing ledQueueSize LedTask

/-- `queue_push`; `none` is -1. -/
def queuePush (q : LedQueue) (t : LedTask) : Option LedQueue := q.push? t

/-- `queue_pop`; `none` is -1. -/
def queuePop (q : LedQueue) : Option (LedTask × LedQueue) := q.pop?

/-- Where the worker thread is. -/
inductive WorkerAt where
  | absent
  /-- In the critical section at the top of the loop, or waiting in it. -/
  | looking
  | playing (t : LedTask)
  /-- Out of the loop, not joined yet. -/
  | ended
deriving DecidableEq

structure LedWorker where
  queue : LedQueue
  /-- `g_worker_running`. -/
  running : Bool
  worker : WorkerAt
  /-- The owner is in the `pthread_join` of `LED_worker_shutdown`. -/
  joining : Bool
  /-- The sequences played to their end. -/
  played : List LedSequence

namespace LedWorker

def initial : LedWorker where
  queue := ⟨fun _ => ⟨.blinkRed, 0, 0, 0⟩, 0, 0⟩
  running := false
  worker := .absent
  joining := false
  played := []

/-! ## The worker's loop -/

/-- The `switch` of `worker_fn`. -/
def sequenceOf (t : LedTask) : LedSequence :=
  match t.type with
  | .blinkRed => .blinkRedN t.flashes t.freqHz t.duty
  | .hubSuccess => .hubCommandSuccess
  | .networkError => .statusNetworkError
  | .hubFailure => .hubCommandFailure
  | .lockSuccess => .lockSuccess
  | .lockFailure => .lockFailure
  | .unlockSuccess => .unlockSuccess
  | .unlockFailure => .unlockFailure
  | .doorError => .statusDoorError

/-- The critical section of `worker_fn`: wait, leave the loop, or pop. -/
def look (s : LedWorker) : LedWorker :=
  if s.queue.head = s.queue.tail ∧ s.running then s
  else if ¬s.running ∧ s.queue.head = s.queue.tail then { s with worker := .ended }
  else
    match queuePop s.queue with
    | none => s
    | some (t, q) => { s with queue := q, worker := .playing t }

def play (s : LedWorker) (t : LedTask) : LedWorker :=
  { s with worker := .looking, played := s.played ++ [sequenceOf t] }

/-! ## Starting and stopping it -/

/-- `LED_worker_init`; `created` says whether `pthread_create` succeeds. -/
def ledWorkerInit (s : LedWorker) (created : Bool) : LedWorker × Bool :=
  if s.running then (s, true)
  else if created then ({ s with running := true, worker := .looking }, true)
  else ({ s with running := false }, false)

/-- `LED_worker_shutdown` up to its `pthread_join`. -/
def ledWorkerShutdown (s : LedWorker) : LedWorker :=
  if ¬s.running then s else { s with running := false, joining := true }

/-! ## Enqueueing -/

/-- The body all `LED_enqueue_*` share. -/
def enqueue (s : LedWorker) (t : LedTask) : LedWorker :=
  match queuePush s.queue t with
  | some q => { s with queue := q }
  | none =>
      -- queue full: the second push's result is not looked at
      let q := s.queue.dropHead
      { s with queue := (queuePush q t).getD q }

def ledEnqueueBlinkRedN (s : LedWorker) (flashes freqHz dutyPercent : Int) : LedWorker :=
  s.enqueue ⟨.blinkRed, flashes, freqHz, dutyPercent⟩

def ledEnqueueHubCommandSuccess (s : LedWorker) : LedWorker := s.enqueue ⟨.hubSuccess, 0, 0, 0⟩

def ledEnqueueStatusNetworkError (s : LedWorker) : LedWorker := s.enqueue ⟨.networkError, 0, 0, 0⟩

def ledEnqueueHubCommandFailure (s : LedWorker) : LedWorker := s.enqueue ⟨.hubFailure, 0, 0, 0⟩

def ledEnqueueLockSuccess (s : LedWorker) : LedWorker := s.enqueue ⟨.lockSuccess, 0, 0, 0⟩

def ledEnqueueLockFailure (s : LedWorker) : LedWorker := s.enqueue ⟨.lockFailure, 0, 0, 0⟩

def ledEnqueueUnlockSuccess (s : LedWorker) : LedWorker := s.enqueue ⟨.unlockSuccess, 0, 0, 0⟩

def ledEnqueueUnlockFailure (s : LedWorker) : LedWorker := s.enqueue ⟨.unlockFailure, 0, 0, 0⟩

def ledEnqueueStatusDoorError (s : LedWorker) : LedWorker := s.enqueue ⟨.doorError, 0, 0, 0⟩

/-- The `LED_enqueue_*` call that asks for a sequence. -/
def ledEnqueue (s : LedWorker) : LedSequence → LedWorker
  | .blinkRedN f h d => s.ledEnqueueBlinkRedN f h d
  | .hubCommandSuccess => s.ledEnqueueHubCommandSuccess
  | .statusNetworkError => s.ledEnqueueStatusNetworkError
  | .hubCommandFailure => s.ledEnqueueHubCommandFailure
  | .lockSuccess => s.ledEnqueueLockSuccess
  | .lockFailure => s.ledEnqueueLockFailure
  | .unlockSuccess => s.ledEnqueueUnlockSuccess
  | .unlockFailure => s.ledEnqueueUnlockFailure
  | .statusDoorError => s.ledEnqueueStatusDoorError

/-! ## Steps -/

inductive Label where
  | enqueue (c : LedSequence)
  | look
  | play
  | init (created : Bool)
  | shutdown
  /-- `pthread_join` returns, and with it `LED_worker_shutdown`. -/
  | joined
deriving DecidableEq

/-- The owner of the worker makes one call at a time. -/
def step (s : LedWorker) : Label → Option LedWorker
  | .enqueue c => some (s.ledEnqueue c)
  | .look => if s.worker = .looking then some s.look else none
  | .play =>
      match s.worker with
      | .playing t => some (s.play t)
      | _ => none
  | .init created => if s.joining then none else some (s.ledWorkerInit created).1
  | .shutdown => if s.joining then none else some s.ledWorkerShutdown
  | .joined =>
      if s.joining ∧ s.worker = .ended then some { s with joining := false, worker := .absent }
      else none

/-- What a step enqueues. -/
def Label.enqueued : Label → List LedSequence
  | .enqueue c => [c]
  | _ => []

/-- What a run enqueues, in order. -/
def enqueued (is : List Label) : List LedSequence := is.flatMap Label.enqueued

theorem enqueued_append (is js : List Label) : enqueued (is ++ js) = enqueued is ++ enqueued js :=
  List.flatMap_append

/-- The task an enqueue call stores. -/
def taskFor : LedSequence → LedTask
  | .blinkRedN f h d => ⟨.blinkRed, f, h, d⟩
  | .hubCommandSuccess => ⟨.hubSuccess, 0, 0, 0⟩
  | .statusNetworkError => ⟨.networkError, 0, 0, 0⟩
  | .hubCommandFailure => ⟨.hubFailure, 0, 0, 0⟩
  | .lockSuccess => ⟨.lockSuccess, 0, 0, 0⟩
  | .lockFailure => ⟨.lockFailure, 0, 0, 0⟩
  | .unlockSuccess => ⟨.unlockSuccess, 0, 0, 0⟩
  | .unlockFailure => ⟨.unlockFailure, 0, 0, 0⟩
  | .statusDoorError => ⟨.doorError, 0, 0, 0⟩

theorem ledEnqueue_eq (s : LedWorker) (c : LedSequence) :
    s.ledEnqueue c = s.enqueue (taskFor c) := by
  cases c <;> rfl

/-- What is played for a stored task is what was asked for. -/
theorem sequenceOf_taskFor (c : LedSequence) : sequenceOf (taskFor c) = c := by
  cases c <;> rfl

/-- The task in hand. -/
def inHand (s : LedWorker) : List LedSequence :=
  match s.worker with
  | .playing t => [sequenceOf t]
  | _ => []

/-! ## The queue is a list -/

theorem enqueue_queue (s : LedWorker) (t : LedTask) :
    s.enqueue t = { s with queue := s.queue.put t } := by
  unfold enqueue FifoRing.put queuePush
  split <;> simp_all

theorem toList_ledEnqueue (s : LedWorker) (c : LedSequence) :
    (s.ledEnqueue c).queue.toList
      = (if s.queue.toList.length = ledQueueSize - 1 then s.queue.toList.tail
          else s.queue.toList) ++ [taskFor c] := by
  rw [ledEnqueue_eq, enqueue_queue]
  exact s.queue.toList_put (by decide) (taskFor c)

/-! ## Every run keeps account -/

/-- What a run comes to: a worker exists exactly while it may run, and `q` knows
what became of every task. -/
structure Refines (s : LedWorker) (q : DropQueue LedTask) : Prop where
  absent : s.running = false → s.joining = false → s.worker = .absent
  alive : s.running = true → s.joining = false ∧ s.worker ≠ .absent ∧ s.worker ≠ .ended
  waiting : q.waiting = s.queue.toList
  taken : (q.ofFate .taken).map sequenceOf = s.played ++ s.inHand

/-- `q` goes on to `q'` while `cs` are enqueued. -/
structure Advance (cs : List LedSequence) (q q' : DropQueue LedTask) : Prop where
  reach : ReflTransGen (DropQueue.Step (ledQueueSize - 1)) q q'
  log : q'.log = q.log ++ cs.map taskFor

theorem Advance.refl (q : DropQueue LedTask) : Advance [] q q :=
  ⟨.refl, (List.append_nil _).symm⟩

theorem Advance.trans {cs ds : List LedSequence} {q q' q'' : DropQueue LedTask}
    (h : Advance cs q q') (h' : Advance ds q' q'') : Advance (cs ++ ds) q q'' :=
  ⟨h.reach.trans h'.reach, by rw [h'.log, h.log, List.map_append, List.append_assoc]⟩

theorem refines_enqueue {s : LedWorker} {q : DropQueue LedTask} (h : Refines s q)
    (c : LedSequence) :
    ∃ q', Advance [c] q q' ∧ Refines (s.ledEnqueue c) q' := by
  refine ⟨q.put (ledQueueSize - 1) (taskFor c), ⟨.single (.put ..), q.put_log ..⟩, ?_⟩
  have hframe : s.ledEnqueue c = { s with queue := s.queue.put (taskFor c) } := by
    rw [ledEnqueue_eq, enqueue_queue]
  have hlist := toList_ledEnqueue s c
  rw [hframe] at hlist ⊢
  exact {
    absent := h.absent
    alive := h.alive
    waiting := by rw [q.put_waiting, h.waiting, hlist]
    taken := by rw [q.put_taken]; exact h.taken }

/-- In the critical section the worker takes the oldest task, or leaves the
account as it is. -/
theorem refines_look {s : LedWorker} {q : DropQueue LedTask} (h : Refines s q)
    (hw : s.worker = .looking) : ∃ q', Advance [] q q' ∧ Refines s.look q' := by
  have hhand : s.inHand = [] := by rw [inHand, hw]
  unfold look
  split
  · exact ⟨q, .refl q, h⟩
  · split
    · rename_i hend
      have hrun : s.running = false := by simpa using hend.1
      refine ⟨q, .refl q, ?_, ?_, h.waiting, ?_⟩
      · intro _ hjoin
        have habs := h.absent hrun hjoin
        rw [hw] at habs
        cases habs
      · intro hr
        exact absurd hr (by simp [hrun])
      · rw [h.taken, hhand]
        rfl
    · cases hpop : queuePop s.queue with
      | none => exact ⟨q, .refl q, h⟩
      | some e =>
          obtain ⟨t, r⟩ := e
          have hcons : q.waiting = t :: r.toList := by
            rw [h.waiting]
            exact FifoRing.toList_pop? hpop
          refine ⟨q.retire .taken, ⟨.single (.take q), ?_⟩, ?_, ?_, ?_, ?_⟩
          · rw [q.retire_log, List.map_nil, List.append_nil]
          · intro hrun hjoin
            have habs := h.absent hrun hjoin
            rw [hw] at habs
            cases habs
          · intro hrun
            exact ⟨(h.alive hrun).1, by simp, by simp⟩
          · rw [q.retire_waiting, hcons, List.tail_cons]
          · rw [DropQueue.retire_ofFate hcons, if_pos rfl, List.map_append, h.taken, hhand,
              List.append_nil]
            rfl

theorem refines_step {s s' : LedWorker} {q : DropQueue LedTask} {i : Label} (h : Refines s q)
    (hs : step s i = some s') : ∃ q', Advance i.enqueued q q' ∧ Refines s' q' := by
  cases i with
  | enqueue c =>
      obtain rfl := Option.some.inj hs
      exact refines_enqueue h c
  | look =>
      simp only [step] at hs
      split at hs
      · rename_i hw
        obtain rfl := Option.some.inj hs
        exact refines_look h hw
      · cases hs
  | play =>
      simp only [step] at hs
      split at hs
      · rename_i t hw
        obtain rfl := Option.some.inj hs
        refine ⟨q, .refl q, ?_, ?_, h.waiting, ?_⟩
        · intro hrun hjoin
          have habs := h.absent hrun hjoin
          rw [hw] at habs
          cases habs
        · intro hrun
          exact ⟨(h.alive hrun).1, by simp [play], by simp [play]⟩
        · rw [h.taken, inHand, hw]
          exact (List.append_nil _).symm
      · cases hs
  | init created =>
      simp only [step] at hs
      split at hs
      · cases hs
      · rename_i hjoin
        obtain rfl := Option.some.inj hs
        refine ⟨q, .refl q, ?_⟩
        unfold ledWorkerInit
        split
        · exact h
        · rename_i hrun
          have habs := h.absent (by simpa using hrun) (by simpa using hjoin)
          have hhand : s.inHand = [] := by rw [inHand, habs]
          split
          · refine ⟨?_, ?_, h.waiting, ?_⟩
            · intro hr
              cases hr
            · intro _
              exact ⟨by simpa using hjoin, by simp, by simp⟩
            · rw [h.taken, hhand]
              rfl
          · exact ⟨fun _ _ => habs, fun hr => absurd hr Bool.false_ne_true, h.waiting, h.taken⟩
  | shutdown =>
      simp only [step] at hs
      split at hs
      · cases hs
      · obtain rfl := Option.some.inj hs
        refine ⟨q, .refl q, ?_⟩
        unfold ledWorkerShutdown
        split
        · exact h
        · refine ⟨?_, ?_, h.waiting, h.taken⟩
          · intro _ hj
            cases hj
          · intro hr
            cases hr
  | joined =>
      simp only [step] at hs
      split at hs
      · rename_i hw
        obtain rfl := Option.some.inj hs
        have hrun : s.running = false := by
          by_contra hr
          exact (h.alive (by simpa using hr)).2.2 hw.2
        refine ⟨q, .refl q, fun _ _ => rfl, ?_, h.waiting, ?_⟩
        · intro hr
          exact absurd hr (by simp [hrun])
        · rw [h.taken, inHand, hw.2]
          rfl
      · cases hs

/-- The account of a run, with what else its steps preserve. -/
theorem refines_run_with {P : LedWorker → DropQueue LedTask → Prop} {L : Label → Prop}
    (hP : ∀ {s s' : LedWorker} {q q' : DropQueue LedTask} {i : Label}, L i → Refines s q →
      P s q → step s i = some s' → Advance i.enqueued q q' → P s' q')
    {is : List Label} {s s' : LedWorker} {q : DropQueue LedTask} (hL : ∀ i ∈ is, L i)
    (h : Refines s q) (hp : P s q) (hr : Lts.run step s is = some s') :
    ∃ q', Advance (enqueued is) q q' ∧ Refines s' q' ∧ P s' q' := by
  induction is generalizing s q with
  | nil =>
      obtain rfl := Option.some.inj hr
      exact ⟨q, .refl q, h, hp⟩
  | cons i is ih =>
      obtain ⟨m, hm, hrm⟩ := Lts.run_cons_eq_some.mp hr
      obtain ⟨q₁, hq₁, h₁⟩ := refines_step h hm
      have hp₁ := hP (hL i (List.mem_cons_self ..)) h hp hm hq₁
      obtain ⟨q₂, hq₂, h₂, hp₂⟩ := ih (fun j hj => hL j (List.mem_cons_of_mem _ hj)) h₁ hp₁ hrm
      exact ⟨q₂, hq₁.trans hq₂, h₂, hp₂⟩

theorem refines_run {is : List Label} {s s' : LedWorker} {q : DropQueue LedTask}
    (h : Refines s q) (hr : Lts.run step s is = some s') :
    ∃ q', Advance (enqueued is) q q' ∧ Refines s' q' := by
  obtain ⟨q', hq, h', -⟩ := refines_run_with (P := fun _ _ => True) (L := fun _ => True)
    (fun _ _ _ _ _ => trivial) (fun _ _ => trivial) h trivial hr
  exact ⟨q', hq, h'⟩

theorem refines_initial : Refines initial .empty where
  absent := fun _ _ => rfl
  alive := fun h => absurd h Bool.false_ne_true
  waiting := rfl
  taken := rfl

/-! ## Shutting down -/

/-- A shutdown is under way, and its worker ends only when the first `n` tasks
are gone. -/
structure Stopping (n : Nat) (s : LedWorker) (q : DropQueue LedTask) : Prop where
  running : s.running = false
  joining : s.joining = true
  came : n ≤ q.log.length
  drained : s.worker = .ended → n ≤ q.gone.length

theorem Advance.gone_le {cs : List LedSequence} {q q' : DropQueue LedTask}
    (h : Advance cs q q') : q.gone.length ≤ q'.gone.length :=
  (DropQueue.gone_prefix_of_reach h.reach).length_le

theorem Advance.log_le {cs : List LedSequence} {q q' : DropQueue LedTask}
    (h : Advance cs q q') : q.log.length ≤ q'.log.length := by
  rw [h.log, List.length_append]
  exact Nat.le_add_right ..

/-- The worker leaves its loop only when nothing waits. -/
theorem look_ended {s : LedWorker} {q : DropQueue LedTask} (h : Refines s q)
    (hw : s.worker = .looking) (hend : s.look.worker = .ended) :
    q.gone.length = q.log.length := by
  refine DropQueue.gone_length_of_waiting ?_
  rw [h.waiting, FifoRing.toList_eq_nil_iff]
  unfold look at hend
  split at hend
  · rename_i hempty
    exact hempty.1
  · split at hend
    · rename_i hempty
      exact hempty.2
    · split at hend
      · rw [hw] at hend
        cases hend
      · cases hend

theorem stopping_step {n : Nat} {s s' : LedWorker} {q q' : DropQueue LedTask} {i : Label}
    (hi : i ≠ .joined) (h : Refines s q) (hst : Stopping n s q) (hs : step s i = some s')
    (hq : Advance i.enqueued q q') : Stopping n s' q' := by
  have hcame := hst.came.trans hq.log_le
  cases i with
  | enqueue c =>
      obtain rfl := Option.some.inj hs
      rw [ledEnqueue_eq, enqueue_queue]
      exact ⟨hst.running, hst.joining, hcame, fun he => (hst.drained he).trans hq.gone_le⟩
  | look =>
      simp only [step] at hs
      split at hs
      · rename_i hw
        obtain rfl := Option.some.inj hs
        have hframe : s.look.running = s.running ∧ s.look.joining = s.joining := by
          unfold look
          split
          · exact ⟨rfl, rfl⟩
          · split
            · exact ⟨rfl, rfl⟩
            · split <;> exact ⟨rfl, rfl⟩
        refine ⟨hframe.1.trans hst.running, hframe.2.trans hst.joining, hcame, fun he => ?_⟩
        have hall := look_ended h hw he
        have hgone := hq.gone_le
        have hcame' := hst.came
        omega
      · cases hs
  | play =>
      simp only [step] at hs
      split at hs
      · obtain rfl := Option.some.inj hs
        refine ⟨hst.running, hst.joining, hcame, fun he => ?_⟩
        simp [play] at he
      · cases hs
  | init created =>
      simp only [step, hst.joining, if_true] at hs
      cases hs
  | shutdown =>
      simp only [step, hst.joining, if_true] at hs
      cases hs
  | joined => exact absurd rfl hi

/-- When the `pthread_join` of a shutdown returns, all that was enqueued before
the shutdown is gone, and nothing is in hand. -/
theorem shutdown_drains {mid : List Label} {s s' : LedWorker} {q : DropQueue LedTask}
    (hmid : .joined ∉ mid) (h : Refines s q) (hrun : s.running = true)
    (hr : Lts.run step s (.shutdown :: mid ++ [.joined]) = some s') :
    ∃ q', Advance (enqueued (.shutdown :: mid ++ [.joined])) q q' ∧ Refines s' q'
      ∧ q.log.length ≤ q'.gone.length ∧ s'.inHand = [] := by
  rw [List.cons_append] at hr
  obtain ⟨s₁, hs₁, hr⟩ := Lts.run_cons_eq_some.mp hr
  obtain ⟨s₂, hr₂, hr⟩ := Lts.run_append_eq_some.mp hr
  obtain ⟨s₃, hs₃, hr⟩ := Lts.run_cons_eq_some.mp hr
  obtain rfl := Option.some.inj hr
  obtain ⟨hjoin, hworker⟩ := h.alive hrun
  obtain ⟨q₁, hq₁, h₁⟩ := refines_step h hs₁
  have hst : Stopping q.log.length s₁ q₁ := by
    simp only [step, hjoin, Bool.false_eq_true, if_false, ledWorkerShutdown, hrun,
      not_true_eq_false] at hs₁
    obtain rfl := Option.some.inj hs₁
    exact ⟨rfl, rfl, hq₁.log_le, fun he => absurd he hworker.2⟩
  obtain ⟨q₂, hq₂, h₂, hst₂⟩ := refines_run_with (P := Stopping q.log.length)
    (L := fun i => i ≠ .joined) stopping_step (fun i hi he => hmid (he ▸ hi)) h₁ hst hr₂
  obtain ⟨q₃, hq₃, h₃⟩ := refines_step h₂ hs₃
  simp only [step] at hs₃
  split at hs₃
  · rename_i hended
    obtain rfl := Option.some.inj hs₃
    refine ⟨q₃, ?_, h₃, (hst₂.drained hended.2).trans hq₃.gone_le, rfl⟩
    have hall := (hq₁.trans hq₂).trans hq₃
    simpa [enqueued, Label.enqueued] using hall
  · cases hs₃

/-- Once the flag is cleared, the worker plays what waits and ends. -/
theorem worker_ends {s : LedWorker} (hrun : s.running = false) (hw : s.worker = .looking) :
    ∃ js s', (∀ j ∈ js, j = .look ∨ j = .play) ∧ Lts.run step s js = some s'
      ∧ s'.worker = .ended ∧ s'.joining = s.joining := by
  generalize hk : s.queue.toList.length = k
  induction k generalizing s with
  | zero =>
      have hempty := (FifoRing.toList_eq_nil_iff s.queue).mp (List.length_eq_zero_iff.mp hk)
      have hlook : s.look = { s with worker := .ended } := by
        simp [look, hempty, hrun]
      refine ⟨[.look], s.look, ?_, ?_, ?_, ?_⟩
      · intro j hj
        exact Or.inl (List.mem_singleton.mp hj)
      · simp [Lts.run, step, hw]
      · rw [hlook]
      · rw [hlook]
  | succ k ih =>
      have hne : s.queue.head ≠ s.queue.tail := by
        intro heq
        rw [(FifoRing.toList_eq_nil_iff s.queue).mpr heq] at hk
        cases hk
      obtain ⟨⟨t, r⟩, hpop⟩ : ∃ e, queuePop s.queue = some e := ⟨_, if_neg hne⟩
      have hlook : s.look = { s with queue := r, worker := .playing t } := by
        simp [look, hne, hpop]
      have hlen : r.toList.length = k := by
        have hcons := FifoRing.toList_pop? hpop
        rw [hcons, List.length_cons] at hk
        omega
      obtain ⟨js, s', hjs, hr, hend, hjoin⟩ :=
        ih (s := s.look.play t) (by rw [hlook]; exact hrun) rfl (by rw [hlook]; exact hlen)
      refine ⟨.look :: .play :: js, s', ?_, ?_, hend, hjoin.trans (by rw [hlook]; rfl)⟩
      · intro j hj
        rcases List.mem_cons.mp hj with rfl | hj
        · exact Or.inl rfl
        · rcases List.mem_cons.mp hj with rfl | hj
          · exact Or.inr rfl
          · exact hjs j hj
      · refine Lts.run_cons_eq_some.mpr ⟨s.look, if_pos hw, ?_⟩
        refine Lts.run_cons_eq_some.mpr ⟨s.look.play t, ?_, hr⟩
        rw [hlook]
        rfl

/-- A shutdown needs nothing but its worker's own steps to return. -/
theorem shutdown_returns {s : LedWorker} {q : DropQueue LedTask} (h : Refines s q)
    (hrun : s.running = true) (hw : s.worker = .looking) :
    ∃ js s', (∀ j ∈ js, j = .look ∨ j = .play)
      ∧ Lts.run step s (.shutdown :: js ++ [.joined]) = some s' := by
  obtain ⟨hjoin, -⟩ := h.alive hrun
  have hshut : s.ledWorkerShutdown = { s with running := false, joining := true } := by
    simp [ledWorkerShutdown, hrun]
  obtain ⟨js, s₁, hjs, hr, hend, hjoin₁⟩ :=
    worker_ends (s := s.ledWorkerShutdown) (by rw [hshut]) (by rw [hshut]; exact hw)
  refine ⟨js, { s₁ with joining := false, worker := .absent }, hjs, ?_⟩
  refine Lts.run_cons_eq_some.mpr ⟨s.ledWorkerShutdown, by simp [step, hjoin], ?_⟩
  refine Lts.run_append_eq_some.mpr ⟨s₁, hr, ?_⟩
  rw [hshut] at hjoin₁
  exact Lts.run_cons_eq_some.mpr ⟨_, if_pos ⟨hjoin₁, hend⟩, rfl⟩

/-! ## The account of every run -/

/-- `q` accounts for the run `is`, which ends in `s`: what came is what was
enqueued, what waits is what lies between the ring's indices, what was taken is
what was played, and what is in hand. -/
structure Accounts (is : List Label) (s : LedWorker) (q : DropQueue LedTask) : Prop where
  reach : ReflTransGen (DropQueue.Step (ledQueueSize - 1)) .empty q
  log : q.log = (enqueued is).map taskFor
  waiting : q.waiting = s.queue.toList
  taken : (q.ofFate .taken).map sequenceOf = s.played ++ s.inHand

theorem accounts_of_run {is : List Label} {s : LedWorker} {q : DropQueue LedTask}
    (hq : Advance (enqueued is) .empty q) (h : Refines s q) : Accounts is s q :=
  ⟨hq.reach, hq.log, h.waiting, h.taken⟩

theorem Accounts.gone_length {is : List Label} {s : LedWorker} {q : DropQueue LedTask}
    (h : Accounts is s q) : q.gone.length + s.queue.toList.length = (enqueued is).length := by
  have hlog := congrArg List.length h.log
  rwa [DropQueue.log, List.length_append, List.length_map, List.length_map, h.waiting] at hlog

/-- What is played is what was asked for, in order and nothing twice. -/
theorem Accounts.sublist {is : List Label} {s : LedWorker} {q : DropQueue LedTask}
    (h : Accounts is s q) : (s.played ++ s.inHand).Sublist (enqueued is) := by
  have hsub := (q.ofFate_sublist .taken).map sequenceOf
  have hid : ((enqueued is).map taskFor).map sequenceOf = enqueued is := by
    rw [List.map_map]
    exact List.map_id'' sequenceOf_taskFor _
  rwa [h.taken, h.log, hid] at hsub

/-- The LED task queue is a bounded queue that drops its oldest task, whatever the
order of enqueues and pops; all tasks are played in the order of their coming, and
a shutdown returns only when those that came before it are gone. -/
theorem ledQueue_drops_oldest {is : List Label} {s : LedWorker}
    (hr : Lts.run step initial is = some s) :
    (∀ c, (s.ledEnqueue c).queue.toList
        = (if s.queue.toList.length = ledQueueSize - 1 then s.queue.toList.tail
            else s.queue.toList) ++ [taskFor c])
      ∧ (∀ t, queuePush s.queue t = none → ∃ q, queuePush s.queue.dropHead t = some q)
      ∧ (queuePop s.queue = none ↔ s.queue.toList = [])
      ∧ (∀ t q, queuePop s.queue = some (t, q) → s.queue.toList = t :: q.toList)
      ∧ ∃ q, Accounts is s q ∧ (s.played ++ s.inHand).Sublist (enqueued is)
        ∧ ∀ pre mid s₀, is = pre ++ (.shutdown :: mid ++ [.joined]) → .joined ∉ mid →
          Lts.run step initial pre = some s₀ → s₀.running = true →
          (enqueued pre).length ≤ q.gone.length ∧ s.inHand = [] := by
  refine ⟨toList_ledEnqueue s, ?_, ?_, ?_, ?_⟩
  · exact fun t hfull => FifoRing.push?_dropHead (by decide) t hfull
  · exact FifoRing.pop?_eq_none_iff s.queue
  · exact fun t q hpop => FifoRing.toList_pop? hpop
  · obtain ⟨q, hq, h⟩ := refines_run refines_initial hr
    have hacc := accounts_of_run hq h
    refine ⟨q, hacc, hacc.sublist, ?_⟩
    rintro pre mid s₀ rfl hmid hpre hrun
    obtain ⟨m, hm, hrm⟩ := Lts.run_append_eq_some.mp hr
    obtain rfl := Option.some.inj (hpre.symm.trans hm)
    obtain ⟨q₀, hq₀, h₀⟩ := refines_run refines_initial hpre
    obtain ⟨q₁, hq₁, h₁, hgone, hhand⟩ := shutdown_drains hmid h₀ hrun hrm
    refine ⟨?_, hhand⟩
    have hacc₁ := accounts_of_run (enqueued_append pre _ ▸ hq₀.trans hq₁) h₁
    have hlen := hacc.gone_length
    have hlen₁ := hacc₁.gone_length
    have hcame : q₀.log.length = (enqueued pre).length := by
      rw [(accounts_of_run hq₀ h₀).log, List.length_map]
    omega

/-- A door locked and a failed reading: both sequences are played before the
shutdown returns. -/
def lockAndFail : List Label :=
  [.init true, .enqueue .lockSuccess, .enqueue .statusDoorError, .look, .shutdown, .play, .look,
    .play, .look, .joined]

theorem ledQueue_drops_oldest_lockAndFail :
    ∃ s q, Lts.run step initial lockAndFail = some s ∧ Accounts lockAndFail s q
      ∧ (s.played ++ s.inHand).Sublist (enqueued lockAndFail) ∧ 2 ≤ q.gone.length := by
  have hr : Lts.run step initial lockAndFail = some ((Lts.run step initial lockAndFail).get rfl) :=
    (Option.some_get _).symm
  obtain ⟨-, -, -, -, q, hacc, hsub, hshut⟩ := ledQueue_drops_oldest hr
  refine ⟨_, q, hr, hacc, hsub, ?_⟩
  exact (hshut (lockAndFail.take 4) [.play, .look, .play, .look] _ rfl (by decide) rfl rfl).1

end LedWorker

end HomeSecurity
