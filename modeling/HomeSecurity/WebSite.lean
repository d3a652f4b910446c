import HomeSecurity.DoorServer
import HomeSecurity.WebPage

/-!
# The web server and its pages

Any number of pages on one server. What a page sends and what it is sent are queues:
pages, the server, the hub's datagrams and the timers take their turns in any order.

The page that asked gets a FEEDBACK three times, the others twice. `pagesAgree` says that
this makes no difference: pages with nothing left to read show the same.
-/

namespace HomeSecurity

open CText JsText

variable {κ : Type} [DecidableEq κ]

/-- The server, its pages, and what is on the way between them. -/
structure WebSite (κ : Type) where
  server : DoorServer
  /-- The page that `send-command` came from. -/
  owner : Int → Option κ
  pages : κ → Page
  /-- From the server. -/
  inbox : κ → List PageMessage
  /-- To the server. -/
  outbox : κ → List SendCommand

inductive WebSiteEvent (κ : Type) where
  /-- Something happens on a page. -/
  | act (j : κ) (a : PageAction)
  /-- A page handles the next message. -/
  | deliver (j : κ)
  /-- The server handles the next command of a page. -/
  | receive (j : κ)
  | sendDone (cmdid : Int) (err : Option Text)
  | message (msg : Text)
  | timeout (cmdid : Int)

/-- What the server sends page `j`. Errors only change a text of the page that nothing reads,
and the other messages are logged. -/
def ServerOut.toPage (owner : Int → Option κ) (j : κ) : ServerOut → Option PageMessage
  | .reply cmdid (.commandFeedback f) =>
      if owner cmdid = some j then some (.commandFeedback f.module f.action) else none
  | .doorFeedback module _ action => some (.doorFeedback module action)
  | .commandFeedback f => some (.commandFeedback f.module f.action)
  | .hubEvent module _ event _ => some (.hubEvent module event)
  | _ => none

namespace WebSite

/-- All pages loaded and connected, nothing asked. -/
def init : WebSite κ := ⟨.init, fun _ => none, fun _ => .loaded, fun _ => [], fun _ => []⟩

/-- What the server sends is queued for each page. -/
def emit (s : WebSite κ) (r : DoorServer × List ServerOut) : WebSite κ :=
  { s with server := r.1, inbox := fun j => s.inbox j ++ r.2.filterMap (·.toPage s.owner j) }

/-- What a page does and sends. -/
def update (s : WebSite κ) (j : κ) (r : Page × List SendCommand) : WebSite κ :=
  { s with
    pages := Function.update s.pages j r.1
    outbox := Function.update s.outbox j (s.outbox j ++ r.2) }

def step (s : WebSite κ) : WebSiteEvent κ → Option (WebSite κ)
  | .act j a => ((s.pages j).act a).map (s.update j)
  | .deliver j =>
      match s.inbox j with
      | [] => none
      | m :: rest =>
          some ({ s with inbox := Function.update s.inbox j rest }.update j ((s.pages j).hear m))
  | .receive j =>
      match s.outbox j with
      | [] => none
      | c :: rest =>
          (s.server.handle (.sendCommand c.module c.target c.action)).map fun r =>
            { s with
              owner := Function.update s.owner s.server.cmdCounter (some j)
              outbox := Function.update s.outbox j rest }.emit r
  | .sendDone cmdid err => (s.server.handle (.sendDone cmdid err)).map s.emit
  | .message msg => (s.server.handle (.message msg)).map s.emit
  | .timeout cmdid => (s.server.handle (.timeout cmdid)).map s.emit

/-! ## What pages make of the server's messages -/

/-- What a row is after a queue of messages. -/
def hearAll (i : Fin 3) (r : DoorRow) (ms : List PageMessage) : DoorRow :=
  ms.foldl (fun r m => if doorOf m.module = some i then r.hear m else r) r

/-- The row once everything sent to it is read. -/
def settled (s : WebSite κ) (j : κ) (i : Fin 3) : DoorRow :=
  hearAll i ((s.pages j).rows i) (s.inbox j)

end WebSite

/-- `command-feedback` has the same effects on every entry. -/
theorem DoorEntry.onCommandFeedback_effects (action : Text) :
    ∃ x : Effects, ∀ e : DoorEntry, e.onCommandFeedback action = x.on e := by
  by_cases h : startsWith (toUpperCase action) "STATUS_".toList = true
  · exact ⟨_, onCommandFeedback_status h⟩
  · exact ⟨_, onCommandFeedback_legacy h⟩

theorem DoorEntry.onDoorFeedback_effects (action : Text) :
    ∃ x : Effects, ∀ e : DoorEntry, e.onDoorFeedback action = x.on e := by
  by_cases h : startsWith (toUpperCase action) "STATUS_".toList = true
  · refine ⟨statusEffects (toUpperCase ((toUpperCase action).drop "STATUS_".toList.length)), ?_⟩
    intro e
    rw [DoorEntry.onDoorFeedback, if_pos h, applyStatusStateToDoor_eq]
  · refine ⟨⟨.keep, .keep⟩, fun e => ?_⟩
    rw [DoorEntry.onDoorFeedback, if_neg h]
    rfl

/-- What is said again at the end need not be said first. -/
theorem Effect.absorb (x y : Effect) (old : Option Bool) :
    x.on (y.on (x.on old)) = x.on (y.on old) := by
  cases x with
  | keep => rfl
  | set v => rfl

theorem Effects.absorb (x y : Effects) (e : DoorEntry) : x.on (y.on (x.on e)) = x.on (y.on e) := by
  simp only [Effects.on, Effect.absorb]

theorem DoorRow.hear_doorFeedback_entry (r : DoorRow) (module action : Text) :
    (r.hear (.doorFeedback module action)).entry = r.entry.onDoorFeedback action := by
  simp only [DoorRow.hear]
  split
  · rfl
  · rename_i h
    rw [DoorEntry.onDoorFeedback, if_neg h]

/-- The answer the asking page gets before the two messages for all makes no difference. -/
theorem DoorRow.hear_answer (r : DoorRow) (f : FeedbackMessage) (action : Text) :
    (((r.hear (.commandFeedback f.module f.action)).hear (.doorFeedback f.module action)).hear
        (.commandFeedback f.module f.action))
      = (r.hear (.doorFeedback f.module action)).hear (.commandFeedback f.module f.action) := by
  have hcommand : ∀ r : DoorRow, r.hear (.commandFeedback f.module f.action)
      = .showing (r.entry.onCommandFeedback f.action) := fun _ => rfl
  obtain ⟨x, hx⟩ := DoorEntry.onCommandFeedback_effects f.action
  obtain ⟨y, hy⟩ := DoorEntry.onDoorFeedback_effects action
  rw [hcommand, hcommand r, hcommand, hear_doorFeedback_entry, hear_doorFeedback_entry]
  simp only [showing, hx, hy, Effects.absorb]

namespace WebSite

variable {s s' : WebSite κ}

theorem hearAll_append (i : Fin 3) (r : DoorRow) (ms ms' : List PageMessage) :
    hearAll i r (ms ++ ms') = hearAll i (hearAll i r ms) ms' := List.foldl_append

theorem settled_emit (r : DoorServer × List ServerOut) (j : κ) (i : Fin 3) :
    (s.emit r).settled j i = hearAll i (s.settled j i) (r.2.filterMap (·.toPage s.owner j)) :=
  hearAll_append ..

/-- Errors are not told as states. -/
theorem toPage_error (owner : Int → Option κ) (j : κ) (c : Int) (q : Requestor)
    (module err : Text) :
    (ServerOut.reply c (q.error module c err)).toPage owner j = none := by
  cases q <;> rfl

theorem filterMap_sendDone (server : DoorServer) (owner : Int → Option κ) (j : κ) (c : Int)
    (req : Request) (err : Option Text) :
    (server.sendDone c req err).2.filterMap (·.toPage owner j) = [] := by
  obtain ⟨module, requestor⟩ := req
  unfold DoorServer.sendDone
  cases err with
  | none => cases requestor <;> rfl
  | some err => cases requestor <;> rfl

/-- What a FEEDBACK comes to for a page, whether it asked or not. -/
theorem hearAll_feedback {msg : Text} {f : FeedbackMessage} (hf : feedbackMessage msg = some f)
    (server : DoorServer) (owner : Int → Option κ) (j : κ) (i : Fin 3) (r : DoorRow) :
    hearAll i r ((server.message msg).2.filterMap (·.toPage owner j))
      = hearAll i r [.doorFeedback f.module (formattedAction f.action),
          .commandFeedback f.module f.action] := by
  -- what the answer adds for the page that asked
  have hanswer : ∀ (c : Int) (q : Requestor),
      hearAll i r (List.filterMap (ServerOut.toPage owner j)
        (.reply c (q.feedback f) :: [.doorFeedback f.module f.target
          (formattedAction f.action), .commandFeedback f]))
      = hearAll i r [.doorFeedback f.module (formattedAction f.action),
        .commandFeedback f.module f.action] := by
    intro c q
    cases q with
    | client =>
        by_cases howner : owner c = some j
        · simp only [Requestor.feedback, List.filterMap_cons, ServerOut.toPage, howner, if_true,
            List.filterMap_nil, hearAll, List.foldl_cons, List.foldl_nil, PageMessage.module]
          by_cases hdoor : doorOf f.module = some i
          · simp only [hdoor, if_true]
            exact r.hear_answer f _
          · simp only [hdoor, if_false]
        · simp only [Requestor.feedback, List.filterMap_cons, ServerOut.toPage, howner,
            if_false, List.filterMap_nil]
    | lockDoor moduleId => rfl
    | unlockDoor moduleId => rfl
    | doorInfo => rfl
  unfold DoorServer.message
  cases hc : f.cmdid with
  | none =>
      simp only [hf, hc]
      rfl
  | some c =>
      cases hp : server.pending c with
      | none =>
          simp only [hf, hc, hp]
          rfl
      | some q =>
          simp only [hf, hc, hp]
          exact hanswer c q.requestor

/-- A datagram tells every page the same, whoever asked. -/
theorem hearAll_message (server : DoorServer) (msg : Text) (owner : Int → Option κ) (j k : κ)
    (i : Fin 3) (r : DoorRow) :
    hearAll i r ((server.message msg).2.filterMap (·.toPage owner j))
      = hearAll i r ((server.message msg).2.filterMap (·.toPage owner k)) := by
  cases hf : feedbackMessage msg with
  | none =>
      unfold DoorServer.message
      simp only [hf, otherMessage]
      split
      · split
        · split <;> rfl
        · split
          · rfl
          · split <;> rfl
      · rfl
  | some f => rw [hearAll_feedback hf, hearAll_feedback hf]

/-- Pages with nothing left to read show the same. -/
def Agree (s : WebSite κ) : Prop := ∀ j k i, s.settled j i = s.settled k i

theorem agree_step {e : WebSiteEvent κ} (h : s.Agree) (hs : step s e = some s') : s'.Agree := by
  -- for all but a datagram, what a page will show does not change
  have hsame : (∀ j i, s'.settled j i = s.settled j i) → s'.Agree := by
    intro heq j k i
    rw [heq, heq, h]
  cases e with
  | act j a =>
      obtain ⟨r, hr, rfl⟩ := Option.map_eq_some_iff.mp hs
      refine hsame fun k i => ?_
      by_cases hk : k = j
      · simp only [settled, update, hk, Function.update_self, Page.act_rows hr]
      · simp only [settled, update, Function.update_of_ne hk]
  | deliver j =>
      simp only [step] at hs
      split at hs
      · cases hs
      · rename_i m rest hinbox
        obtain rfl := Option.some.inj hs
        refine hsame fun k i => ?_
        by_cases hk : k = j
        · simp only [settled, update, hk, Function.update_self, Page.hear_rows, hinbox, hearAll,
            List.foldl_cons]
        · simp only [settled, update, Function.update_of_ne hk]
  | receive j =>
      simp only [step] at hs
      split at hs
      · cases hs
      · obtain ⟨r, hr, rfl⟩ := Option.map_eq_some_iff.mp hs
        obtain rfl := Option.some.inj hr
        exact hsame fun k i => settled_emit ..
  | sendDone c err =>
      obtain ⟨r, hr, rfl⟩ := Option.map_eq_some_iff.mp hs
      obtain ⟨req, -, rfl⟩ := Option.map_eq_some_iff.mp hr
      refine hsame fun k i => ?_
      rw [settled_emit, filterMap_sendDone]
      rfl
  | message msg =>
      obtain rfl := Option.some.inj hs
      intro j k i
      rw [settled_emit, settled_emit, h j k i]
      exact hearAll_message ..
  | timeout c =>
      obtain ⟨r, hr, rfl⟩ := Option.map_eq_some_iff.mp hs
      obtain ⟨req, -, rfl⟩ := Option.map_eq_some_iff.mp hr
      refine hsame fun k i => ?_
      rw [settled_emit]
      simp only [DoorServer.timeout, List.filterMap_cons, toPage_error, List.filterMap_nil]
      rfl

/-- In every run, two pages that have read all they were sent show the same for each
door. -/
theorem pagesAgree {es : List (WebSiteEvent κ)} (hr : Lts.run step init es = some s) {j k : κ}
    (hj : s.inbox j = []) (hk : s.inbox k = []) : (s.pages j).rows = (s.pages k).rows := by
  have hinit : Agree (init : WebSite κ) := fun _ _ _ => rfl
  have hagree := Lts.inv_run_of_step (fun _ _ _ h hs => agree_step h hs) hinit hr j k
  funext i
  have hi := hagree i
  simp only [settled, hj, hk, hearAll, List.foldl_nil] at hi
  exact hi

/-- Two pages; one asks for the states, and both read the answer for D1. -/
def askedAndTold : List (WebSiteEvent Bool) :=
  [.act true .requestAll, .receive true, .sendDone 1 none,
    .message "D1 FEEDBACK 1 D0 STATUS_LOCKED".toList, .deliver true, .deliver true, .deliver true,
    .deliver false, .deliver false]

theorem pagesAgree_askedAndTold : ∃ s, Lts.run step init askedAndTold = some s
    ∧ (s.pages true).rows = (s.pages false).rows := by
  have hrun : Lts.run step init askedAndTold = some _ := rfl
  exact ⟨_, hrun, pagesAgree hrun rfl rfl⟩

end WebSite

end HomeSecurity
