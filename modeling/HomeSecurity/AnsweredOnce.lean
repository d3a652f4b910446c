import HomeSecurity.Correlation

/-!
# One answer to each request

`get-door-info`, `lock-door` and `unlock-door` come with a callback. The three
completions of a request - of its `send`, by a FEEDBACK, by its timer - race for
it, and a request goes through the phases of `Accounted`: `lock-door` waits for
an answer only when its datagram is out, `get-door-info` from the beginning.

`answeredOnce_iff` is the price of that: every callback is called once at most
exactly if no `send` of a `get-door-info` is reported failed after the request
has been answered. Nothing else goes wrong, in whatever order the three come.
-/

namespace HomeSecurity

open CText

/-- The replies that call the callback of a request; the others are events for
the client's socket. -/
def Reply.isCallback : Reply → Bool
  | .commandFeedback _ => false
  | .commandError .. => false
  | .moved .. => true
  | .failed _ => true
  | .info _ => true
  | .noInfo => true

/-- `send-command` has no callback. -/
def Requestor.hasCallback : Requestor → Bool
  | .client => false
  | .lockDoor _ => true
  | .unlockDoor _ => true
  | .doorInfo => true

def ServerOut.calls (c : Int) : ServerOut → Bool
  | .reply c' r => c' = c && r.isCallback
  | _ => false

/-- The completion of the `send` of `c` reports an error. -/
def ServerEvent.Fails (c : Int) (e : ServerEvent) : Prop := ∃ err, e = .sendDone c (some err)

theorem Requestor.feedback_isCallback (f : FeedbackMessage) (r : Requestor) :
    (r.feedback f).isCallback = r.hasCallback := by
  cases r <;> rfl

theorem Requestor.error_isCallback (module : Text) (cmdid : Int) (err : Text) (r : Requestor) :
    (r.error module cmdid err).isCallback = r.hasCallback := by
  cases r <;> rfl

/-! ## The server and what it has told -/

structure ServerRun where
  server : DoorServer
  told : List ServerOut

namespace ServerRun

def init : ServerRun := ⟨DoorServer.init, []⟩

def step (s : ServerRun) (e : ServerEvent) : Option ServerRun :=
  (s.server.handle e).map fun r => ⟨r.1, s.told ++ r.2⟩

/-- How often the callback of request `c` was called. -/
def answers (s : ServerRun) (c : Int) : Nat := s.told.countP (ServerOut.calls c)

/-- Every callback was called once at most, and where it was, the entry and the
timer of the request are gone. -/
def AnsweredOnce (s : ServerRun) : Prop :=
  ∀ c, s.answers c ≤ 1
    ∧ (s.answers c ≠ 0 → s.server.pending c = none ∧ s.server.timers c = none)

/-- A failed `send` of a `get-door-info` is reported before the answer. -/
def InTime (s : ServerRun) (e : ServerEvent) : Prop :=
  ∀ c err req, e = .sendDone c (some err) → s.server.sending c = some req →
    req.requestor = .doorInfo → s.server.pending c ≠ none

end ServerRun

/-! ## One request -/

/-- What there is of a request; its timer is set as long as it is waiting. -/
structure RequestView where
  sending : Option Request
  waiting : Option Request
  calls : Nat

/-- Calls of the callback when the request is answered. -/
def Request.calls (req : Request) : Nat := if req.requestor.hasCallback then 1 else 0

/-- What a step can do to request `c`. -/
inductive RequestMoves (c : Int) : ServerEvent → RequestView → RequestView → Prop
  | stays {e : ServerEvent} (v : RequestView) (he : ¬e.Fails c) : RequestMoves c e v v
  | issued {e : ServerEvent} (req : Request) (he : ¬e.Fails c) :
      RequestMoves c e ⟨none, none, 0⟩
        ⟨some req, if req.requestor = .doorInfo then some req else none, 0⟩
  | sent {v : RequestView} {req : Request} (hv : v.sending = some req) :
      RequestMoves c (.sendDone c none) v
        ⟨none, if req.requestor = .doorInfo then v.waiting else some req, v.calls⟩
  | failed {v : RequestView} {req : Request} (err : Text) (hv : v.sending = some req) :
      RequestMoves c (.sendDone c (some err)) v
        ⟨none, if req.requestor = .doorInfo then none else v.waiting, v.calls + req.calls⟩
  | answered {e : ServerEvent} {v : RequestView} {req : Request} (he : ¬e.Fails c)
      (hv : v.waiting = some req) :
      RequestMoves c e v ⟨v.sending, none, v.calls + req.calls⟩

/-- The phases of a request. -/
inductive Accounted : RequestView → Prop
  /-- Not issued yet, or over. -/
  | settled (n : Nat) : Accounted ⟨none, none, n⟩
  /-- `sendCommand`, before the completion of the `send`. -/
  | sending {req : Request} (h : req.requestor ≠ .doorInfo) : Accounted ⟨some req, none, 0⟩
  /-- `get-door-info`, before the completion of the `send`. -/
  | asking {req : Request} (h : req.requestor = .doorInfo) : Accounted ⟨some req, some req, 0⟩
  /-- The same, but answered already. -/
  | early {req : Request} (h : req.requestor = .doorInfo) (n : Nat) :
      Accounted ⟨some req, none, n + 1⟩
  | waiting (req : Request) : Accounted ⟨none, some req, 0⟩

/-- A failed `send` is not reported in the phase `early`. -/
def OnTime (c : Int) (e : ServerEvent) (v : RequestView) : Prop :=
  e.Fails c → ∀ req, v.sending = some req → req.requestor = .doorInfo → v.waiting ≠ none

section Phases

variable {c : Int} {e : ServerEvent} {v v' : RequestView}

theorem Request.calls_le_one (req : Request) : req.calls ≤ 1 := by
  unfold Request.calls
  split
  · exact Nat.le_refl 1
  · exact Nat.zero_le 1

theorem Request.calls_doorInfo {req : Request} (h : req.requestor = .doorInfo) : req.calls = 1 := by
  unfold Request.calls
  rw [h]
  rfl

theorem onTime_of_not_fails (he : ¬e.Fails c) : OnTime c e v := fun h => absurd h he

theorem Accounted.answered (h : Accounted v) (hcalls : v.calls ≠ 0) : v.waiting = none := by
  cases h with
  | settled n => rfl
  | sending h => rfl
  | asking h => exact absurd rfl hcalls
  | early h n => rfl
  | waiting req => exact absurd rfl hcalls

/-- A step leads from phase to phase, and calls a callback again exactly if a
failed `send` is reported late. -/
theorem RequestMoves.accounted (hm : RequestMoves c e v v') (h : Accounted v) :
    Accounted v' ∧ (v'.calls ≤ 1 ↔ v.calls ≤ 1 ∧ OnTime c e v) := by
  cases hm with
  | stays v he => exact ⟨h, (and_iff_left (onTime_of_not_fails he)).symm⟩
  | issued req he =>
      refine ⟨?_, (and_iff_left (onTime_of_not_fails he)).symm⟩
      by_cases hreq : req.requestor = .doorInfo
      · rw [if_pos hreq]
        exact .asking hreq
      · rw [if_neg hreq]
        exact .sending hreq
  | sent hv =>
      have he : ¬(ServerEvent.sendDone c none).Fails c := by
        rintro ⟨err, herr⟩
        cases herr
      refine ⟨?_, (and_iff_left (onTime_of_not_fails he)).symm⟩
      cases h with
      | settled n => cases hv
      | waiting req => cases hv
      | sending hreq =>
          obtain rfl := Option.some.inj hv
          rw [if_neg hreq]
          exact .waiting _
      | asking hreq =>
          obtain rfl := Option.some.inj hv
          rw [if_pos hreq]
          exact .waiting _
      | early hreq n =>
          obtain rfl := Option.some.inj hv
          rw [if_pos hreq]
          exact .settled _
  | failed err hv =>
      have he : (ServerEvent.sendDone c (some err)).Fails c := ⟨err, rfl⟩
      cases h with
      | settled n => cases hv
      | waiting req => cases hv
      | sending hreq =>
          obtain rfl := Option.some.inj hv
          rw [if_neg hreq]
          refine ⟨.settled _, iff_of_true ?_ ⟨Nat.zero_le 1, fun _ req hreq' hinfo => ?_⟩⟩
          · rw [Nat.zero_add]
            exact Request.calls_le_one _
          · obtain rfl := Option.some.inj hreq'
            exact absurd hinfo hreq
      | asking hreq =>
          obtain rfl := Option.some.inj hv
          rw [if_pos hreq]
          refine ⟨.settled _,
            iff_of_true ?_ ⟨Nat.zero_le 1, fun _ req _ _ => Option.some_ne_none _⟩⟩
          rw [Nat.zero_add]
          exact Request.calls_le_one _
      | early hreq n =>
          obtain rfl := Option.some.inj hv
          rw [if_pos hreq, Request.calls_doorInfo hreq]
          refine ⟨.settled _, iff_of_false ?_ fun hboth => hboth.2 he _ rfl hreq rfl⟩
          show ¬n + 1 + 1 ≤ 1
          omega
  | answered he hv =>
      cases h with
      | settled n => cases hv
      | sending hreq => cases hv
      | early hreq n => cases hv
      | asking hreq =>
          obtain rfl := Option.some.inj hv
          rw [Request.calls_doorInfo hreq]
          exact ⟨.early hreq 0, iff_of_true (Nat.le_refl 1)
            ⟨Nat.zero_le 1, onTime_of_not_fails he⟩⟩
      | waiting req =>
          obtain rfl := Option.some.inj hv
          refine ⟨.settled _, iff_of_true ?_ ⟨Nat.zero_le 1, onTime_of_not_fails he⟩⟩
          rw [Nat.zero_add]
          exact Request.calls_le_one _

end Phases

/-! ## One step of the server -/

namespace ServerRun

def view (s : ServerRun) (c : Int) : RequestView :=
  ⟨s.server.sending c, s.server.pending c, s.answers c⟩

structure Inv (s : ServerRun) : Prop where
  fresh : s.server.Fresh
  timers : s.server.timers = s.server.pending
  unused : ∀ c, s.server.cmdCounter ≤ c → s.view c = ⟨none, none, 0⟩
  accounted : ∀ c, Accounted (s.view c)

section Steps

variable {s s' : ServerRun} {e : ServerEvent}

theorem inv_init : Inv init :=
  ⟨DoorServer.fresh_init, rfl, fun _ _ => rfl, fun _ => .settled 0⟩

theorem answers_append (s : ServerRun) (server : DoorServer) (outs : List ServerOut) (c : Int) :
    answers ⟨server, s.told ++ outs⟩ c = s.answers c + outs.countP (ServerOut.calls c) :=
  List.countP_append

/-- What does not touch a request and calls nobody back leaves its view. -/
theorem view_of_silent {server : DoorServer} {outs : List ServerOut} {c : Int}
    (hsending : server.sending c = s.server.sending c)
    (hpending : server.pending c = s.server.pending c) (houts : ∀ o ∈ outs, o.calls c = false) :
    view ⟨server, s.told ++ outs⟩ c = s.view c := by
  have hzero : outs.countP (ServerOut.calls c) = 0 :=
    List.countP_eq_zero.mpr fun o ho => by rw [houts o ho]; exact Bool.false_ne_true
  unfold view
  rw [answers_append, hzero, hsending, hpending]
  rfl

/-- A reply, before what calls nobody back. -/
theorem countP_reply (c : Int) (r : Reply) {rest : List ServerOut}
    (hrest : ∀ o ∈ rest, o.calls c = false) :
    (.reply c r :: rest : List ServerOut).countP (ServerOut.calls c)
      = if r.isCallback then 1 else 0 := by
  have hzero : rest.countP (ServerOut.calls c) = 0 :=
    List.countP_eq_zero.mpr fun o ho => by rw [hrest o ho]; exact Bool.false_ne_true
  rw [List.countP_cons, hzero, Nat.zero_add, ServerOut.calls, decide_eq_true rfl, Bool.true_and]

/-- A request gets an id that was not used before. -/
theorem moves_issue (h : Inv s) {server : DoorServer} {req : Request} {payload : Text} {c : Int}
    (he : ¬e.Fails c)
    (hsend : server.sending
      = Function.update s.server.sending s.server.cmdCounter (some req))
    (hpend : server.pending = if req.requestor = .doorInfo then
        Function.update s.server.pending s.server.cmdCounter (some req)
      else s.server.pending) :
    RequestMoves c e (s.view c) (view ⟨server, s.told ++ [.datagram payload]⟩ c) := by
  have hcalls : answers ⟨server, s.told ++ [.datagram payload]⟩ c = s.answers c :=
    answers_append s server [.datagram payload] c
  unfold view
  rw [hcalls, hsend, hpend]
  by_cases hc : c = s.server.cmdCounter
  · obtain ⟨hsending, hwaiting, hzero⟩ := RequestView.mk.inj (h.unused c (Int.le_of_eq hc.symm))
    rw [hsending, hwaiting, hzero, hc, Function.update_self]
    have hentry : (if req.requestor = .doorInfo then
        Function.update s.server.pending s.server.cmdCounter (some req)
      else s.server.pending) s.server.cmdCounter
        = if req.requestor = .doorInfo then some req else none := by
      split
      · exact Function.update_self ..
      · rw [← hc, hwaiting]
    rw [hentry, ← hc]
    exact .issued req he
  · rw [Function.update_of_ne hc]
    have hentry : (if req.requestor = .doorInfo then
        Function.update s.server.pending s.server.cmdCounter (some req)
      else s.server.pending) c = s.server.pending c := by
      split
      · exact Function.update_of_ne hc ..
      · rfl
    rw [hentry]
    exact .stays _ he

/-- The answer to a waiting request. -/
theorem moves_answer {c c' : Int} {req : Request} {r : Reply} {rest : List ServerOut}
    (he : ¬e.Fails c) (hpend : s.server.pending c' = some req)
    (hr : r.isCallback = req.requestor.hasCallback) (hrest : ∀ o ∈ rest, o.calls c = false) :
    RequestMoves c e (s.view c)
      (view ⟨s.server.clear c', s.told ++ .reply c' r :: rest⟩ c) := by
  by_cases hc : c = c'
  · subst hc
    have hgone : (s.server.clear c).pending c = none := Function.update_self ..
    unfold view
    rw [answers_append, countP_reply c r hrest, hr, hgone]
    exact .answered he hpend
  · have hother : ∀ o ∈ (.reply c' r :: rest : List ServerOut), o.calls c = false := by
      intro o ho
      rcases List.mem_cons.mp ho with rfl | ho
      · rw [ServerOut.calls, decide_eq_false (Ne.symm hc), Bool.false_and]
      · exact hrest o ho
    have hpending : (s.server.clear c').pending c = s.server.pending c :=
      Function.update_of_ne hc ..
    rw [view_of_silent (show (s.server.clear c').sending c = s.server.sending c from rfl)
      hpending hother]
    exact .stays _ he

/-- A `send` that is done: `sendCommand` registers the request now. -/
theorem sendDone_none (s : DoorServer) (c : Int) (req : Request) :
    s.sendDone c req none = (if req.requestor = .doorInfo then
        { s with sending := Function.update s.sending c none }
      else { s with sending := Function.update s.sending c none }.register c req, []) := by
  obtain ⟨module, requestor⟩ := req
  cases requestor <;> rfl

/-- A failed `send`: `get-door-info` takes its entry back. -/
theorem sendDone_some (s : DoorServer) (c : Int) (req : Request) (err : Text) :
    s.sendDone c req (some err) = (if req.requestor = .doorInfo then
        { s with sending := Function.update s.sending c none }.clear c
      else { s with sending := Function.update s.sending c none },
      [.reply c (req.requestor.error req.module c err)]) := by
  obtain ⟨module, requestor⟩ := req
  cases requestor <;> rfl

theorem moves_sendDone_self {c : Int} {req : Request} (err : Option Text)
    (hsend : s.server.sending c = some req) :
    RequestMoves c (.sendDone c err) (s.view c)
      (view ⟨(s.server.sendDone c req err).1, s.told ++ (s.server.sendDone c req err).2⟩ c) := by
  unfold view
  rw [answers_append]
  cases err with
  | none =>
      have hview := RequestMoves.sent (c := c) (v := s.view c) hsend
      rw [sendDone_none]
      by_cases hreq : req.requestor = .doorInfo
      · simp only [if_pos hreq, Function.update_self, List.countP_nil, Nat.add_zero] at hview ⊢
        exact hview
      · simp only [if_neg hreq, DoorServer.register, Function.update_self, List.countP_nil,
          Nat.add_zero] at hview ⊢
        exact hview
  | some err =>
      have hview := RequestMoves.failed (c := c) (v := s.view c) err hsend
      have hcalls : ([.reply c (req.requestor.error req.module c err)] : List ServerOut).countP
          (ServerOut.calls c) = req.calls := by
        rw [countP_reply c _ fun _ ho => absurd ho List.not_mem_nil, Requestor.error_isCallback,
          Request.calls]
      rw [sendDone_some, hcalls]
      by_cases hreq : req.requestor = .doorInfo
      · simp only [if_pos hreq, DoorServer.clear, Function.update_self] at hview ⊢
        exact hview
      · simp only [if_neg hreq, Function.update_self] at hview ⊢
        exact hview

/-- The other requests are left alone, and none of their callbacks is called. -/
theorem sendDone_of_ne (s : DoorServer) {c c' : Int} (hne : c ≠ c') (req : Request)
    (err : Option Text) :
    (s.sendDone c' req err).1.sending c = s.sending c
      ∧ (s.sendDone c' req err).1.pending c = s.pending c
      ∧ ∀ o ∈ (s.sendDone c' req err).2, o.calls c = false := by
  have hsending : Function.update s.sending c' none c = s.sending c := Function.update_of_ne hne ..
  cases err with
  | none =>
      rw [sendDone_none]
      by_cases hreq : req.requestor = .doorInfo
      · rw [if_pos hreq]
        exact ⟨hsending, rfl, fun _ ho => absurd ho List.not_mem_nil⟩
      · rw [if_neg hreq]
        exact ⟨hsending, Function.update_of_ne hne .., fun _ ho => absurd ho List.not_mem_nil⟩
  | some err =>
      have hother : ∀ o ∈ ([.reply c' (req.requestor.error req.module c' err)] : List ServerOut),
          o.calls c = false := by
        intro o ho
        rw [List.mem_singleton.mp ho, ServerOut.calls, decide_eq_false (Ne.symm hne),
          Bool.false_and]
      rw [sendDone_some]
      by_cases hreq : req.requestor = .doorInfo
      · rw [if_pos hreq]
        exact ⟨hsending, Function.update_of_ne hne .., hother⟩
      · rw [if_neg hreq]
        exact ⟨hsending, rfl, hother⟩

theorem moves_sendDone {c c' : Int} {req : Request} (err : Option Text)
    (hsend : s.server.sending c' = some req) :
    RequestMoves c (.sendDone c' err) (s.view c)
      (view ⟨(s.server.sendDone c' req err).1, s.told ++ (s.server.sendDone c' req err).2⟩ c) := by
  by_cases hc : c = c'
  · subst hc
    exact moves_sendDone_self err hsend
  · have he : ¬(ServerEvent.sendDone c' err).Fails c := by
      rintro ⟨err', herr⟩
      exact hc (ServerEvent.sendDone.inj herr).1.symm
    obtain ⟨hsending, hpending, hother⟩ := sendDone_of_ne s.server hc req err
    rw [view_of_silent hsending hpending hother]
    exact .stays _ he

/-- What one event does to every request. -/
theorem handle_moves (h : Inv s) {server : DoorServer} {outs : List ServerOut}
    (hs : s.server.handle e = some (server, outs)) (c : Int) :
    RequestMoves c e (s.view c) (view ⟨server, s.told ++ outs⟩ c) := by
  have hother : (∀ c' err, e ≠ .sendDone c' err) → ¬e.Fails c := by
    rintro hne ⟨err, herr⟩
    exact hne c (some err) herr
  cases e with
  | sendCommand module target action =>
      cases hs
      exact moves_issue h (hother fun _ _ => ServerEvent.noConfusion) rfl rfl
  | lockDoor moduleId =>
      cases hs
      exact moves_issue h (hother fun _ _ => ServerEvent.noConfusion) rfl rfl
  | unlockDoor moduleId =>
      cases hs
      exact moves_issue h (hother fun _ _ => ServerEvent.noConfusion) rfl rfl
  | getDoorInfo moduleId =>
      cases hs
      exact moves_issue h (hother fun _ _ => ServerEvent.noConfusion) rfl rfl
  | sendDone c' err =>
      obtain ⟨req, hsend, hdone⟩ := Option.map_eq_some_iff.mp hs
      have hview := moves_sendDone (c := c) err hsend
      rw [hdone] at hview
      exact hview
  | message msg =>
      have he := hother fun _ _ => ServerEvent.noConfusion
      have hm : s.server.message msg = (server, outs) := Option.some.inj hs
      rcases s.server.message_cases msg with ⟨c', f, req, -, -, hpend, heq⟩ | ⟨hsame, hnone⟩
      · rw [heq] at hm
        cases hm
        refine moves_answer he hpend (Requestor.feedback_isCallback f _) fun o ho => ?_
        simp only [List.mem_cons, List.not_mem_nil, or_false] at ho
        rcases ho with rfl | rfl <;> rfl
      · rw [hm] at hsame hnone
        have hsilent : ∀ o ∈ outs, o.calls c = false := by
          intro o ho
          cases o with
          | reply c' r => exact absurd ho (hnone c' r)
          | _ => rfl
        dsimp only at hsame
        rw [view_of_silent (by rw [hsame]) (by rw [hsame]) hsilent]
        exact .stays _ he
  | timeout c' =>
      have he := hother fun _ _ => ServerEvent.noConfusion
      obtain ⟨req, htimer, hfired⟩ := Option.map_eq_some_iff.mp hs
      cases hfired
      rw [h.timers] at htimer
      exact moves_answer he htimer (Requestor.error_isCallback ..)
        (fun _ ho => absurd ho List.not_mem_nil)

/-- Entries and timers come and go together. -/
theorem handle_timers {s server : DoorServer} {outs : List ServerOut}
    (h : s.timers = s.pending) (hs : s.handle e = some (server, outs)) :
    server.timers = server.pending := by
  have hclear : ∀ (t : DoorServer) (c : Int), t.timers = t.pending →
      (t.clear c).timers = (t.clear c).pending := by
    intro t c ht
    simp only [DoorServer.clear, ht]
  have hregister : ∀ (t : DoorServer) (c : Int) (req : Request), t.timers = t.pending →
      (t.register c req).timers = (t.register c req).pending := by
    intro t c req ht
    simp only [DoorServer.register, ht]
  cases e with
  | sendCommand module target action =>
      cases hs
      exact h
  | lockDoor moduleId =>
      cases hs
      exact h
  | unlockDoor moduleId =>
      cases hs
      exact h
  | getDoorInfo moduleId =>
      cases hs
      exact hregister _ _ _ h
  | sendDone c err =>
      obtain ⟨req, -, hdone⟩ := Option.map_eq_some_iff.mp hs
      cases err with
      | none =>
          rw [sendDone_none] at hdone
          obtain ⟨rfl, -⟩ := Prod.mk.inj hdone
          split
          · exact h
          · exact hregister _ _ _ h
      | some err =>
          rw [sendDone_some] at hdone
          obtain ⟨rfl, -⟩ := Prod.mk.inj hdone
          split
          · exact hclear _ _ h
          · exact h
  | message msg =>
      have hm : s.message msg = (server, outs) := Option.some.inj hs
      rcases s.message_cases msg with ⟨c, f, req, -, -, -, heq⟩ | ⟨hsame, -⟩
      · rw [heq] at hm
        cases hm
        exact hclear _ _ h
      · rw [hm] at hsame
        rw [show server = s from hsame]
        exact h
  | timeout c =>
      obtain ⟨req, -, hfired⟩ := Option.map_eq_some_iff.mp hs
      cases hfired
      exact hclear _ _ h

theorem step_eq_some (hs : step s e = some s') :
    ∃ server outs, s.server.handle e = some (server, outs) ∧ s' = ⟨server, s.told ++ outs⟩ := by
  obtain ⟨⟨server, outs⟩, hh, rfl⟩ := Option.map_eq_some_iff.mp hs
  exact ⟨server, outs, hh, rfl⟩

theorem inv_step (h : Inv s) (hs : step s e = some s') : Inv s' := by
  obtain ⟨server, outs, hh, rfl⟩ := step_eq_some hs
  have hserver : DoorServer.step s.server e = some server := congrArg (Option.map Prod.fst) hh
  have hmoves := handle_moves h hh
  have hfresh := DoorServer.fresh_step h.fresh hserver
  have hcounter : s.server.cmdCounter ≤ server.cmdCounter := by
    rcases DoorServer.step_sending hserver with ⟨hcount, -⟩ | ⟨hcount, -⟩ <;> omega
  refine ⟨hfresh, handle_timers h.timers hh, fun c hc => ?_,
    fun c => ((hmoves c).accounted (h.accounted c)).1⟩
  -- an id that is still free was free before, and no request of it was there to move
  have hview := hmoves c
  rw [h.unused c (Int.le_trans hcounter hc)] at hview
  have hsend : (view ⟨server, s.told ++ outs⟩ c).sending = none := hfresh c hc
  generalize view ⟨server, s.told ++ outs⟩ c = v at hview hsend
  cases hview with
  | stays v he => rfl
  | issued req he => cases hsend
  | sent hv => cases hv
  | failed err hv => cases hv
  | answered he hv => cases hv

/-- No callback was called twice. -/
def Clean (s : ServerRun) : Prop := ∀ c, s.answers c ≤ 1

/-- One step calls a callback again exactly if it is not in time. -/
theorem clean_step (h : Inv s) (hs : step s e = some s') : Clean s' ↔ Clean s ∧ InTime s e := by
  obtain ⟨server, outs, hh, rfl⟩ := step_eq_some hs
  have hcalls : ∀ c, answers ⟨server, s.told ++ outs⟩ c ≤ 1
      ↔ s.answers c ≤ 1 ∧ OnTime c e (s.view c) :=
    fun c => ((handle_moves h hh c).accounted (h.accounted c)).2
  unfold Clean
  rw [forall_congr' hcalls, forall_and]
  refine and_congr_right fun _ => ⟨fun h c err req he hsend => ?_, fun h c he req hsend => ?_⟩
  · exact h c ⟨err, he⟩ req hsend
  · obtain ⟨err, herr⟩ := he
    exact h c err req herr hsend

/-- Where a callback was called, its entry and its timer are gone anyway. -/
theorem answeredOnce_iff_clean (h : Inv s) : AnsweredOnce s ↔ Clean s := by
  refine ⟨fun hs c => (hs c).1, fun hs c => ⟨hs c, fun hcalled => ?_⟩⟩
  have hgone : s.server.pending c = none := (h.accounted c).answered hcalled
  refine ⟨hgone, ?_⟩
  rw [h.timers]
  exact hgone

end Steps

/-! ## Whole runs -/

/-- For every order of events: each callback is called at most once and leaves no
entry or timer behind, exactly if no `send` of a `get-door-info` is reported failed
after its answer. -/
theorem answeredOnce_iff {es : List ServerEvent} {s : ServerRun}
    (hr : Lts.run step init es = some s) : AnsweredOnce s ↔ Lts.Along step InTime init es := by
  have hinv : Inv s := Lts.inv_run_of_step (fun _ _ _ h hs => inv_step h hs) inv_init hr
  have hclean : Clean s ↔ Clean init ∧ Lts.Along step InTime init es :=
    Lts.clean_iff_along (fun _ _ _ h hs => inv_step h hs) (fun _ _ _ h hs => clean_step h hs)
      inv_init hr
  rw [answeredOnce_iff_clean hinv, hclean]
  exact and_iff_right fun c => Nat.zero_le 1

/-- The name of the hub cannot be resolved, which takes longer than the timer. -/
def lateFailure : List ServerEvent :=
  [.getDoorInfo "D1".toList, .timeout 1, .sendDone 1 (some "EAI_AGAIN".toList)]

theorem answeredOnce_iff_lateFailure : ∃ s, Lts.run step init lateFailure = some s
    ∧ (AnsweredOnce s ↔ Lts.Along step InTime init lateFailure) := by
  obtain ⟨s, hs⟩ : ∃ s, Lts.run step init lateFailure = some s := ⟨_, rfl⟩
  exact ⟨s, hs, answeredOnce_iff hs⟩

/-- There the callback is called by the timer and again by the `send`. -/
theorem lateFailure_answered_twice :
    ¬∀ (es : List ServerEvent) (s : ServerRun), Lts.run step init es = some s → AnsweredOnce s := by
  intro hall
  have hrun : (Lts.run step init lateFailure).map (fun s => s.answers 1) = some 2 := by
    decide +kernel
  obtain ⟨s, hs, htwice⟩ := Option.map_eq_some_iff.mp hrun
  have honce := (hall lateFailure s hs 1).1
  omega

end ServerRun

end HomeSecurity
