import HomeSecurity.CText
import HomeSecurity.LinkedQueue
import HomeSecurity.Lts

/-!
# The webhook's message queue

`system_webhook.c` hands messages to a worker thread through a linked queue. A node
without text (its `strdup` failed) looks to the worker like the end of the queue,
and a send that passed its running check may link its message after the worker
is gone. `delivered` says that these two are all: in every run in which neither
touches a message, the messages linked are passed on once each, in order, before
the shutdown returns.
-/

namespace HomeSecurity

open CText LinkedQueue

namespace Webhook

/-- The worker is at the head of its loop, has a message in hand, or has left. -/
inductive Worker where
  | looking
  | holding (m : Text)
  | ended
deriving DecidableEq

/-- How far `hub_webhook_shutdown` has come: `running` is cleared, the worker is
joined, the queue is drained. -/
inductive Phase where
  | idle
  | requested
  | joined
  | returned
deriving DecidableEq

/-- The globals of `system_webhook.c` and where its threads stand. A node's text
is absent where its `strdup` failed. -/
structure State where
  webhookUrl : Option Text
  running : Bool
  queue : Queue (Option Text)
  worker : Worker
  phase : Phase
  /-- Messages of sends that are past their running check. -/
  checked : List Text
  /-- The texts linked into the queue so far. -/
  linked : List Text
  /-- The texts passed to `sendDiscordAlert` so far. -/
  sent : List Text

/-- `enqueue_msg`: `node` is the address `malloc` gives, `copied` what becomes of
the `strdup`. Both touch nothing that the other threads see. -/
def enqueueMsg (s : State) (m : Text) (node : Option Nat) (copied : Bool) : Option State :=
  match node with
  | none => some s
  | some n =>
      if n ∈ s.queue.heap then none
      else (s.queue.enqueue n (if copied then some m else none)).map fun q =>
        { s with queue := q, linked := if copied then s.linked ++ [m] else s.linked }

/-- `dequeue_msg`, when it does not wait. -/
def dequeueMsg (s : State) : Option (Option Text × State) :=
  match s.queue.head with
  | none => if s.running then none else some (none, s)
  | some _ => s.queue.dequeue.map fun (m, q) => (m, { s with queue := q })

/-- What the worker does next. -/
def work (s : State) : Option State :=
  match s.worker with
  | .looking => (dequeueMsg s).map fun
      | (none, s') => { s' with worker := .ended }
      | (some m, s') => { s' with worker := .holding m }
  | .holding m =>
      some { s with
        worker := .looking
        sent := if s.webhookUrl.isSome then s.sent ++ [m] else s.sent }
  | .ended => none

/-- What `hub_webhook_shutdown` does next. -/
def hubWebhookShutdown (s : State) : Option State :=
  match s.phase with
  | .idle => some { s with running := false, phase := .requested }
  | .requested => if s.worker = .ended then some { s with phase := .joined } else none
  | .joined => s.queue.drain.map fun q =>
      { s with queue := q, webhookUrl := none, phase := .returned }
  | .returned => none

/-- `hub_webhook_send` up to its call of `enqueue_msg`. -/
def hubWebhookSend (s : State) (m : Text) : State :=
  if s.running then { s with checked := s.checked ++ [m] } else s

inductive Label where
  | send (m : Text)
  /-- The `i`th of the sends past their check goes on. -/
  | enqueue (i : Nat) (node : Option Nat) (copied : Bool)
  | work
  | shutdown

def step (s : State) : Label → Option State
  | .send m => some (hubWebhookSend s m)
  | .enqueue i node copied => s.checked[i]?.bind fun m =>
      enqueueMsg { s with checked := s.checked.eraseIdx i } m node copied
  | .work => work s
  | .shutdown => hubWebhookShutdown s

/-- After a successful `hub_webhook_init`. -/
def start (url : Text) : State := ⟨some url, true, .empty, .looking, .idle, [], [], []⟩

/-- No message is lost, passed on twice or out of order. -/
structure Delivers (s : State) : Prop where
  order : s.sent <+: s.linked
  all : s.phase = .returned → s.sent = s.linked
  ended : s.worker = .ended → s.phase ≠ .idle
  /-- Once requested, the shutdown returns by its own steps and the worker's. -/
  returns : s.phase ≠ .idle → ∃ ls s', (∀ l ∈ ls, l = .work ∨ l = .shutdown) ∧
    Lts.run step s ls = some s' ∧ s'.phase = .returned ∧ s'.linked = s.linked ∧ s'.sent = s.linked

/-- The worker takes no node without text before shutdown was requested; no text
is linked when the worker has left, nor while such a node is in the queue. -/
def Unbroken (s : State) : Label → Prop
  | .work => s.worker = .looking → s.running = true → s.queue.front ≠ some none
  | .enqueue _ (some _) true =>
      s.worker ≠ .ended ∧ ∀ e ∈ s.queue.heap.entries, e.2.val ≠ none
  | _ => True

/-! ## The invariant -/

/-- What the worker has in hand. -/
def Worker.hand : Worker → List Text
  | .holding m => [m]
  | _ => []

/-- The texts of these cells. -/
def texts (cells : List (Nat × Option Text)) : List Text := cells.filterMap Prod.snd

@[simp] theorem texts_nil : texts [] = [] := rfl

theorem texts_snoc (cells : List (Nat × Option Text)) (n : Nat) (t : Option Text) :
    texts (cells ++ [(n, t)]) = texts cells ++ t.toList := by
  rw [texts, texts, List.filterMap_append]
  cases t <;> rfl

/-- With this queue in memory, the texts linked are those sent, that in hand and
those in the queue, and no text is behind a node without. -/
structure Balanced (s : State) (cells : List (Nat × Option Text)) : Prop where
  holds : s.queue.Holds cells
  linked : s.linked = s.sent ++ (s.worker.hand ++ texts cells)
  textless : cells.Pairwise fun a b => a.2 = none → b.2 = none
  ended : s.worker = .ended → texts cells = []

structure Inv (s : State) : Prop where
  balanced : ∃ cells, Balanced s cells
  running : s.running = true ↔ s.phase = .idle
  webhookUrl : s.worker ≠ .ended → s.webhookUrl.isSome
  ended : s.worker = .ended → s.phase ≠ .idle
  joined : s.phase = .joined ∨ s.phase = .returned → s.worker = .ended

theorem inv_start (url : Text) : Inv (start url) where
  balanced := ⟨[], Queue.holds_empty, rfl, .nil, fun _ => rfl⟩
  running := ⟨fun _ => rfl, fun _ => rfl⟩
  webhookUrl := fun _ => rfl
  ended := fun h => nomatch h
  joined := fun h => by rcases h with h | h <;> cases h

section

variable {s s' : State} {cells rest : List (Nat × Option Text)} {n : Nat} {m : Text}

/-- A step that links nothing and hands nothing over. -/
theorem Balanced.congr (h : Balanced s cells) (hq : s'.queue = s.queue)
    (hl : s'.linked = s.linked) (hs : s'.sent = s.sent) (hw : s'.worker = s.worker) :
    Balanced s' cells where
  holds := hq ▸ h.holds
  linked := by rw [hl, hs, hw, h.linked]
  textless := h.textless
  ended := hw ▸ h.ended

/-- A node without text ends the queue of texts. -/
theorem Balanced.texts_rest (h : Balanced s ((n, none) :: rest)) : texts rest = [] := by
  have hnone : ∀ c ∈ rest, c.2 = none := fun c hc => (List.pairwise_cons.mp h.textless).1 c hc rfl
  exact List.filterMap_eq_nil_iff.mpr hnone

theorem Balanced.enqueue {t : Option Text} (h : Balanced s cells)
    (hq : s'.queue.Holds (cells ++ [(n, t)])) (hl : s'.linked = s.linked ++ t.toList)
    (hs : s'.sent = s.sent) (hw : s'.worker = s.worker)
    (hok : t ≠ none → s.worker ≠ .ended ∧ ∀ c ∈ cells, c.2 ≠ none) :
    Balanced s' (cells ++ [(n, t)]) where
  holds := hq
  linked := by
    rw [hl, hs, hw, h.linked, texts_snoc]
    simp only [List.append_assoc]
  textless := by
    refine List.pairwise_append.mpr ⟨h.textless, List.pairwise_singleton _ _, ?_⟩
    intro c hc d hd hnone
    obtain rfl := List.mem_singleton.mp hd
    by_contra hsome
    exact (hok hsome).2 c hc hnone
  ended := by
    intro hended
    rw [hw] at hended
    rw [texts_snoc, h.ended hended, List.nil_append]
    cases t with
    | none => rfl
    | some m => exact absurd hended (hok (Option.some_ne_none m)).1

end

theorem Inv.not_running {s : State} (h : Inv s) (hp : s.phase ≠ .idle) : ¬s.running = true :=
  fun hr => hp (h.running.mp hr)

/-- When the worker has left, all that was linked has been sent. -/
theorem Inv.sent_of_ended {s : State} (h : Inv s) (hw : s.worker = .ended) : s.sent = s.linked := by
  obtain ⟨cells, hb⟩ := h.balanced
  rw [hb.linked, hw, hb.ended hw]
  exact (List.append_nil _).symm

theorem inv_enqueueMsg {s s' : State} {m : Text} {node : Option Nat} {copied : Bool} (h : Inv s)
    (hok : node.isSome → copied = true →
      s.worker ≠ .ended ∧ ∀ e ∈ s.queue.heap.entries, e.2.val ≠ none)
    (hs : enqueueMsg s m node copied = some s') : Inv s' := by
  cases node with
  | none =>
      obtain rfl := Option.some.inj hs
      exact h
  | some n =>
      rw [enqueueMsg] at hs
      split at hs
      · cases hs
      · rename_i hn
        obtain ⟨cells, hb⟩ := h.balanced
        obtain ⟨q, hq, hholds⟩ := hb.holds.enqueue (v := if copied then some m else none) hn
        rw [hq] at hs
        obtain rfl := Option.some.inj hs
        refine ⟨⟨_, hb.enqueue hholds ?_ rfl rfl fun hsome => ?_⟩, h.running, h.webhookUrl,
          h.ended, h.joined⟩
        · cases copied with
          | false => exact (List.append_nil _).symm
          | true => rfl
        · cases copied with
          | false => exact absurd rfl hsome
          | true =>
              obtain ⟨hworker, htexts⟩ := hok rfl rfl
              refine ⟨hworker, fun c hc hnone => ?_⟩
              obtain ⟨e, he, hval⟩ := hb.holds.entry hc
              exact htexts e he (hval.trans hnone)

/-! ## The worker -/

theorem dequeueMsg_nil {s : State} (h : s.queue.Holds []) :
    dequeueMsg s = if s.running then none else some (none, s) := by
  rw [dequeueMsg, h.head_nil]

theorem dequeueMsg_cons {s : State} {n : Nat} {t : Option Text} {rest : List (Nat × Option Text)}
    (h : s.queue.Holds ((n, t) :: rest)) :
    ∃ q, q.Holds rest ∧ dequeueMsg s = some (t, { s with queue := q }) := by
  obtain ⟨q, hq, hrest⟩ := h.dequeue
  refine ⟨q, hrest, ?_⟩
  rw [dequeueMsg, h.head_cons]
  dsimp only
  rw [hq]
  rfl

section

variable {s s' : State} {cells rest : List (Nat × Option Text)} {n : Nat} {m : Text}

/-- The worker finds the queue empty, or a node without text. -/
theorem Balanced.leave (h : Balanced s cells) (hw : s.worker = .looking)
    {q : Queue (Option Text)} (hq : q.Holds rest)
    (hcells : cells = [] ∧ rest = [] ∨ ∃ n, cells = (n, none) :: rest) :
    Balanced { s with queue := q, worker := .ended } rest := by
  have hlinked := h.linked
  rw [hw] at hlinked
  rcases hcells with ⟨rfl, rfl⟩ | ⟨n, rfl⟩
  · exact ⟨hq, hlinked, h.textless, fun _ => rfl⟩
  · exact ⟨hq, hlinked, (List.pairwise_cons.mp h.textless).2, fun _ => h.texts_rest⟩

theorem Balanced.take (h : Balanced s ((n, some m) :: rest)) (hw : s.worker = .looking)
    {q : Queue (Option Text)} (hq : q.Holds rest) :
    Balanced { s with queue := q, worker := .holding m } rest where
  holds := hq
  linked := by
    rw [h.linked, hw]
    rfl
  textless := (List.pairwise_cons.mp h.textless).2
  ended := nofun

theorem Balanced.deliver (h : Balanced s cells) (hw : s.worker = .holding m) :
    Balanced { s with worker := .looking, sent := s.sent ++ [m] } cells where
  holds := h.holds
  linked := by
    rw [h.linked, hw]
    simp only [Worker.hand, List.append_assoc, List.nil_append]
  textless := h.textless
  ended := nofun

/-- A step of the worker after which it goes on. -/
theorem Inv.goesOn (h : Inv s) (hb : Balanced s' cells) (hw : s.worker ≠ .ended)
    (hw' : s'.worker ≠ .ended) (hr : s'.running = s.running) (hp : s'.phase = s.phase)
    (hu : s'.webhookUrl = s.webhookUrl) : Inv s' where
  balanced := ⟨cells, hb⟩
  running := by rw [hr, hp, h.running]
  webhookUrl := fun _ => hu ▸ h.webhookUrl hw
  ended := fun hended => absurd hended hw'
  joined := fun hj => absurd (h.joined (hp ▸ hj)) hw

/-- Its last step, once a shutdown is requested. -/
theorem Inv.leaves (h : Inv s) (hb : Balanced s' cells) (hw' : s'.worker = .ended)
    (hr : s'.running = s.running) (hp : s'.phase = s.phase) (hrunning : ¬s.running = true) :
    Inv s' where
  balanced := ⟨cells, hb⟩
  running := by rw [hr, hp, h.running]
  webhookUrl := fun hne => absurd hw' hne
  ended := fun _ hidle => hrunning (h.running.mpr (hp ▸ hidle))
  joined := fun _ => hw'

end

theorem inv_work {s s' : State} (h : Inv s) (hok : Unbroken s .work) (hs : work s = some s') :
    Inv s' := by
  obtain ⟨cells, hb⟩ := h.balanced
  rw [work] at hs
  cases hw : s.worker with
  | ended =>
      rw [hw] at hs
      cases hs
  | holding m =>
      have hne : s.worker ≠ .ended := by
        rw [hw]
        nofun
      rw [hw] at hs
      dsimp only at hs
      rw [if_pos (h.webhookUrl hne)] at hs
      obtain rfl := Option.some.inj hs
      exact h.goesOn (hb.deliver hw) hne nofun rfl rfl rfl
  | looking =>
      have hne : s.worker ≠ .ended := by
        rw [hw]
        nofun
      rw [hw] at hs
      dsimp only at hs
      cases cells with
      | nil =>
          rw [dequeueMsg_nil hb.holds] at hs
          split at hs
          · cases hs
          · rename_i hrunning
            obtain rfl := Option.some.inj hs
            exact h.leaves (hb.leave hw hb.holds (Or.inl ⟨rfl, rfl⟩)) rfl rfl rfl hrunning
      | cons c rest =>
          obtain ⟨n, t⟩ := c
          obtain ⟨q, hrest, hq⟩ := dequeueMsg_cons hb.holds
          rw [hq] at hs
          obtain rfl := Option.some.inj hs
          cases t with
          | none =>
              have hfront : s.queue.front = some none := hb.holds.front
              have hrunning : ¬s.running = true := fun hr => hok hw hr hfront
              exact h.leaves (hb.leave hw hrest (Or.inr ⟨n, rfl⟩)) rfl rfl rfl hrunning
          | some m => exact h.goesOn (hb.take hw hrest) hne nofun rfl rfl rfl

/-! ## The shutdown -/

theorem inv_hubWebhookShutdown {s s' : State} (h : Inv s) (hs : hubWebhookShutdown s = some s') :
    Inv s' := by
  obtain ⟨cells, hb⟩ := h.balanced
  rw [hubWebhookShutdown] at hs
  cases hp : s.phase with
  | idle =>
      rw [hp] at hs
      obtain rfl := Option.some.inj hs
      have hworker : s.worker ≠ .ended := fun hended => h.ended hended hp
      exact ⟨⟨cells, hb.congr rfl rfl rfl rfl⟩, ⟨nofun, nofun⟩, h.webhookUrl,
        fun hended => absurd hended hworker, fun hp => by rcases hp with hp | hp <;> cases hp⟩
  | requested =>
      rw [hp] at hs
      dsimp only at hs
      split at hs
      · rename_i hended
        obtain rfl := Option.some.inj hs
        have hrunning := h.not_running (by rw [hp]; nofun)
        exact ⟨⟨cells, hb.congr rfl rfl rfl rfl⟩, ⟨fun hr => absurd hr hrunning, nofun⟩,
          h.webhookUrl, fun _ => nofun, fun _ => hended⟩
      · cases hs
  | joined =>
      have hended : s.worker = .ended := h.joined (.inl hp)
      have hrunning := h.not_running (by rw [hp]; nofun)
      rw [hp] at hs
      dsimp only at hs
      rw [hb.holds.drain] at hs
      obtain rfl := Option.some.inj hs
      refine ⟨⟨[], Queue.holds_empty, ?_, .nil, fun _ => rfl⟩,
        ⟨fun hr => absurd hr hrunning, nofun⟩, fun hne => absurd hended hne, fun _ => nofun,
        fun _ => hended⟩
      have hlinked := hb.linked
      rw [hb.ended hended] at hlinked
      exact hlinked
  | returned =>
      rw [hp] at hs
      cases hs

theorem inv_step (s : State) (l : Label) (s' : State) (h : Inv s) (hok : Unbroken s l)
    (hs : step s l = some s') : Inv s' := by
  cases l with
  | send m =>
      obtain rfl := Option.some.inj hs
      rw [hubWebhookSend]
      split
      · obtain ⟨cells, hb⟩ := h.balanced
        exact ⟨⟨cells, hb.congr rfl rfl rfl rfl⟩, h.running, h.webhookUrl, h.ended, h.joined⟩
      · exact h
  | enqueue i node copied =>
      obtain ⟨m, -, hm⟩ := Option.bind_eq_some_iff.mp hs
      obtain ⟨cells, hb⟩ := h.balanced
      have h' : Inv { s with checked := s.checked.eraseIdx i } :=
        ⟨⟨cells, hb.congr rfl rfl rfl rfl⟩, h.running, h.webhookUrl, h.ended, h.joined⟩
      refine inv_enqueueMsg h' (fun hnode hcopied => ?_) hm
      obtain ⟨n, rfl⟩ := Option.isSome_iff_exists.mp hnode
      subst hcopied
      exact hok
  | work => exact inv_work h hok hs
  | shutdown => exact inv_hubWebhookShutdown h hs

/-! ## The shutdown returns -/

/-- How many steps of the worker are left at most. -/
def load (s : State) : Nat :=
  2 * s.queue.heap.keys.length + match s.worker with
    | .looking => 1
    | .holding _ => 2
    | .ended => 0

theorem unbroken_work {s : State} (hr : ¬s.running = true) : Unbroken s .work :=
  fun _ hrunning => absurd hrunning hr

/-- After the request the worker never waits. -/
theorem Inv.work_next {s : State} (h : Inv s) (hp : s.phase = .requested)
    (hw : s.worker ≠ .ended) :
    ∃ s', work s = some s' ∧ s'.phase = .requested ∧ s'.linked = s.linked ∧ load s' < load s := by
  obtain ⟨cells, hb⟩ := h.balanced
  cases hworker : s.worker with
  | ended => exact absurd hworker hw
  | holding m =>
      rw [work, hworker]
      refine ⟨_, rfl, hp, rfl, ?_⟩
      rw [load, load, hworker]
      dsimp only
      omega
  | looking =>
      rw [work, hworker]
      dsimp only
      cases cells with
      | nil =>
          rw [dequeueMsg_nil hb.holds, if_neg (h.not_running (by rw [hp]; nofun))]
          refine ⟨_, rfl, hp, rfl, ?_⟩
          rw [load, load, hworker]
          dsimp only
          omega
      | cons c rest =>
          obtain ⟨n, t⟩ := c
          obtain ⟨q, hrest, hq⟩ := dequeueMsg_cons hb.holds
          have hlen : q.heap.keys.length + 1 = s.queue.heap.keys.length := by
            rw [hrest.length_keys, hb.holds.length_keys, List.length_cons]
          rw [hq]
          cases t with
          | none | some m =>
              refine ⟨_, rfl, hp, rfl, ?_⟩
              rw [load, load, hworker]
              dsimp only
              omega

/-- After the request the worker's own steps bring it to its end. -/
theorem Inv.work_ends {s : State} (h : Inv s) (hp : s.phase = .requested) :
    ∃ ls s', (∀ l ∈ ls, l = .work) ∧ Lts.run step s ls = some s' ∧ Inv s' ∧
      s'.worker = .ended ∧ s'.phase = .requested ∧ s'.linked = s.linked := by
  induction hk : load s using Nat.strong_induction_on generalizing s with
  | _ k ih =>
      by_cases hw : s.worker = .ended
      · exact ⟨[], s, fun _ hl => absurd hl List.not_mem_nil, rfl, h, hw, hp, rfl⟩
      · obtain ⟨m, hm, hphase, hlinked, hless⟩ := h.work_next hp hw
        have hinv : Inv m := inv_work h (unbroken_work (h.not_running (by rw [hp]; nofun))) hm
        obtain ⟨ls, s', hls, hr, h', hended, hp', hl'⟩ := ih (load m) (hk ▸ hless) hinv hphase rfl
        refine ⟨.work :: ls, s', ?_, Lts.run_cons_eq_some.mpr ⟨m, hm, hr⟩, h', hended, hp',
          hl'.trans hlinked⟩
        rintro l hl
        rcases List.mem_cons.mp hl with rfl | hl
        · rfl
        · exact hls l hl

/-- Once the worker has left, the shutdown goes through. -/
theorem Inv.shutdown_returns {s : State} (h : Inv s) (hw : s.worker = .ended) :
    ∃ ls s', (∀ l ∈ ls, l = .shutdown) ∧ Lts.run step s ls = some s' ∧ s'.phase = .returned ∧
      s'.linked = s.linked ∧ s'.sent = s.linked := by
  obtain ⟨cells, hb⟩ := h.balanced
  have hsent := h.sent_of_ended hw
  have hjoined : ∀ t : State, t.phase = .joined → t.queue = s.queue →
      ∃ t', step t .shutdown = some t' ∧ t'.phase = .returned ∧ t'.linked = t.linked
        ∧ t'.sent = t.sent := by
    intro t hp hq
    refine ⟨{ t with queue := .empty, webhookUrl := none, phase := .returned }, ?_, rfl, rfl, rfl⟩
    rw [step, hubWebhookShutdown, hp]
    dsimp only
    rw [hq, hb.holds.drain, Option.map_some]
  cases hp : s.phase with
  | idle => exact absurd hp (h.ended hw)
  | requested =>
      obtain ⟨t', ht, hp', hl, hs⟩ := hjoined { s with phase := .joined } rfl rfl
      refine ⟨[.shutdown, .shutdown], t', ?_, ?_, hp', hl, hs.trans hsent⟩
      · simp
      · refine Lts.run_cons_eq_some.mpr ⟨{ s with phase := .joined }, ?_,
          Lts.run_cons_eq_some.mpr ⟨t', ht, rfl⟩⟩
        rw [step, hubWebhookShutdown, hp]
        exact if_pos hw
  | joined =>
      obtain ⟨t', ht, hp', hl, hs⟩ := hjoined s hp rfl
      exact ⟨[.shutdown], t', by simp, Lts.run_cons_eq_some.mpr ⟨t', ht, rfl⟩, hp', hl,
        hs.trans hsent⟩
  | returned => exact ⟨[], s, by simp, rfl, hp, rfl, hsent⟩

theorem Inv.returns {s : State} (h : Inv s) (hp : s.phase ≠ .idle) :
    ∃ ls s', (∀ l ∈ ls, l = .work ∨ l = .shutdown) ∧ Lts.run step s ls = some s' ∧
      s'.phase = .returned ∧ s'.linked = s.linked ∧ s'.sent = s.linked := by
  by_cases hreq : s.phase = .requested
  · obtain ⟨ls, m, hls, hr, hinv, hended, -, hlinked⟩ := h.work_ends hreq
    obtain ⟨ks, s', hks, hr', hret, hl, hs⟩ := hinv.shutdown_returns hended
    refine ⟨ls ++ ks, s', fun l hl => ?_, Lts.run_append_eq_some.mpr ⟨m, hr, hr'⟩, hret,
      hl.trans hlinked, hs.trans hlinked⟩
    rcases List.mem_append.mp hl with hl | hl
    · exact .inl (hls l hl)
    · exact .inr (hks l hl)
  · have hended : s.worker = .ended := by
      refine h.joined ?_
      cases hphase : s.phase with
      | idle => exact absurd hphase hp
      | requested => exact absurd hphase hreq
      | joined => exact .inl rfl
      | returned => exact .inr rfl
    obtain ⟨ls, s', hls, hr, hret, hl, hs⟩ := h.shutdown_returns hended
    exact ⟨ls, s', fun l hl => .inr (hls l hl), hr, hret, hl, hs⟩

theorem Inv.delivers {s : State} (h : Inv s) : Delivers s where
  order := by
    obtain ⟨cells, hb⟩ := h.balanced
    exact ⟨s.worker.hand ++ texts cells, hb.linked.symm⟩
  all := fun hp => h.sent_of_ended (h.joined (.inr hp))
  ended := h.ended
  returns := h.returns

/-! ## Runs -/

/-- In every run in which no node without text cuts the queue short and no text
is linked after the worker has left, the queue delivers. -/
theorem delivered {url : Text} {ls : List Label} {s : State}
    (hr : Lts.run step (start url) ls = some s)
    (hok : Lts.Along step Unbroken (start url) ls) : Delivers s :=
  (Lts.inv_run inv_step (inv_start url) hok hr).delivers

instance decidableUnbroken (s : State) : (l : Label) → Decidable (Unbroken s l)
  | .work => inferInstanceAs (Decidable (_ → _ → _ ≠ _))
  | .enqueue _ (some _) true => inferInstanceAs (Decidable (_ ∧ _))
  | .enqueue _ (some _) false => isTrue trivial
  | .enqueue _ none _ => isTrue trivial
  | .send _ => isTrue trivial
  | .shutdown => isTrue trivial

/-- Two messages, one of them linked after the request. -/
def twoMessages : List Label :=
  [.send "opened".toList, .send "closed".toList, .enqueue 0 (some 1) true, .work, .shutdown,
    .enqueue 0 (some 2) true, .work, .work, .work, .work, .shutdown, .shutdown]

theorem delivered_twoMessages :
    ∃ s, Lts.run step (start "http://hook".toList) twoMessages = some s ∧ s.phase = .returned ∧
      s.linked = ["opened".toList, "closed".toList] ∧ Delivers s := by
  have hobs : (Lts.run step (start "http://hook".toList) twoMessages).map
      (fun s => (s.phase, s.linked)) = some (.returned, ["opened".toList, "closed".toList]) := by
    decide +kernel
  obtain ⟨s, hs, h⟩ := Option.map_eq_some_iff.mp hobs
  exact ⟨s, hs, congrArg Prod.fst h, congrArg Prod.snd h, delivered hs (by decide +kernel)⟩

/-- A send that is past its check when the shutdown begins loses its message; a
failed `strdup` ends the worker although no shutdown was requested. -/
theorem delivered_broken :
    (∃ s, Lts.run step (start "http://hook".toList) [.send "opened".toList, .shutdown, .work,
        .enqueue 0 (some 1) true, .shutdown, .shutdown] = some s ∧ ¬Delivers s) ∧
      ∃ s, Lts.run step (start "http://hook".toList) [.send "opened".toList,
        .enqueue 0 (some 1) false, .work] = some s ∧ ¬Delivers s := by
  constructor
  · have hobs : (Lts.run step (start "http://hook".toList) [.send "opened".toList, .shutdown,
        .work, .enqueue 0 (some 1) true, .shutdown, .shutdown]).map
          (fun s => (s.phase, s.linked, s.sent)) = some (.returned, ["opened".toList], []) := by
      decide +kernel
    obtain ⟨s, hs, h⟩ := Option.map_eq_some_iff.mp hobs
    obtain ⟨hphase, hlinked, hsent⟩ : s.phase = .returned ∧ s.linked = ["opened".toList]
        ∧ s.sent = [] := by simpa only [Prod.mk.injEq] using h
    refine ⟨s, hs, fun hd => ?_⟩
    have hall := hd.all hphase
    rw [hsent, hlinked] at hall
    cases hall
  · have hobs : (Lts.run step (start "http://hook".toList) [.send "opened".toList,
        .enqueue 0 (some 1) false, .work]).map (fun s => (s.worker, s.phase))
          = some (.ended, .idle) := by
      decide +kernel
    obtain ⟨s, hs, h⟩ := Option.map_eq_some_iff.mp hobs
    exact ⟨s, hs, fun hd => hd.ended (congrArg Prod.fst h) (congrArg Prod.snd h)⟩

end Webhook

end HomeSecurity
