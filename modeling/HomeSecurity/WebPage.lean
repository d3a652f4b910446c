import Mathlib.Data.List.Perm.Basic
import HomeSecurity.Decoders
import HomeSecurity.Lts

/-!
# The page

`web_control.js` and `UI.html`: a row for each of three doors, shown from the entry
that the messages of the web server keep, with a button that locks or unlocks; the
status requests that follow a LOCK or an UNLOCK.

`shows_run`: a row shows its entry from its first update on, and its button sends what it
says. `polled_run` bounds what the polling sends.
-/

namespace HomeSecurity

open CText JsText

/-! ## A row -/

/-- The entry kept for a door, and what its span and its button show. -/
structure DoorRow where
  entry : DoorEntry
  status : Text
  label : Text
  disabled : Bool
deriving DecidableEq

namespace DoorEntry

def statusText (e : DoorEntry) : Text :=
  match e.doorOpen, e.lockLocked with
  | some doorOpen, some lockLocked =>
      (if doorOpen then "open".toList else "closed".toList) ++ " / ".toList
        ++ (if lockLocked then "locked".toList else "unlocked".toList)
  | _, _ => "unknown".toList

/-- The button's label, and whether it is disabled. -/
def button (e : DoorEntry) : Text × Bool :=
  match e.doorOpen, e.lockLocked with
  | some doorOpen, some lockLocked =>
      if doorOpen then ("Cannot lock open door".toList, true)
      else if lockLocked then ("Unlock Door".toList, false)
      else ("Lock Door".toList, false)
  | _, _ => ("Loading...".toList, true)

/-- The words of an EVENT that `hub-event` looks for. -/
def eventParts (eventStr : Text) : List Text := pieces (toUpperCase eventStr)

/-- `hub-event`, and whether it found anything. -/
def onHubEvent (state : DoorEntry) (eventStr : Text) : DoorEntry × Bool :=
  let parts := eventParts eventStr
  (⟨flagOf parts "OPEN".toList "CLOSED".toList state.doorOpen,
      flagOf parts "LOCKED".toList "UNLOCKED".toList state.lockLocked⟩,
    ["OPEN".toList, "CLOSED".toList, "LOCKED".toList, "UNLOCKED".toList].any parts.contains)

end DoorEntry

namespace DoorRow

/-- The entry, and the row as `UI.html` has it. -/
def loaded : DoorRow := ⟨⟨none, none⟩, "unknown".toList, "--".toList, false⟩

/-- A row that shows its entry. -/
def showing (e : DoorEntry) : DoorRow := ⟨e, e.statusText, e.button.1, e.button.2⟩

/-- `updateUIForModule`. -/
def updateUI (r : DoorRow) : DoorRow := showing r.entry

end DoorRow

/-- What the server tells a page about a door. -/
inductive PageMessage where
  | hubEvent (module event : Text)
  | doorFeedback (module action : Text)
  | commandFeedback (module action : Text)
deriving DecidableEq

def PageMessage.module : PageMessage → Text
  | .hubEvent module _ => module
  | .doorFeedback module _ => module
  | .commandFeedback module _ => module

namespace DoorRow

/-- What a message about its door makes of a row. -/
def hear (r : DoorRow) : PageMessage → DoorRow
  | .hubEvent _ event =>
      let (entry, updated) := r.entry.onHubEvent event
      if updated then { r with entry }.updateUI else { r with entry }
  | .doorFeedback _ action =>
      if startsWith (toUpperCase action) "STATUS_".toList then
        { r with entry := r.entry.onDoorFeedback action }.updateUI
      else r
  | .commandFeedback _ action => { r with entry := r.entry.onCommandFeedback action }.updateUI

end DoorRow

/-! ## The page -/

def doorIds : List Text := ["D1".toList, "D2".toList, "D3".toList]

def doorId (i : Fin 3) : Text := doorIds.get i

/-- The door of an own key of `doorStates`. -/
def doorOf (module : Text) : Option (Fin 3) := (List.finRange 3).find? fun i => doorId i = module

/-- The keys every object inherits: `doorStates` has a value there too, but none of a door. -/
def inheritedKeys : List Text :=
  ["constructor".toList, "hasOwnProperty".toList, "isPrototypeOf".toList,
    "propertyIsEnumerable".toList, "toLocaleString".toList, "toString".toList, "valueOf".toList,
    "__proto__".toList, "__defineGetter__".toList, "__defineSetter__".toList,
    "__lookupGetter__".toList, "__lookupSetter__".toList]

/-- What `send-command` carries. -/
structure SendCommand where
  module : Text
  target : Text
  action : Text
deriving DecidableEq

/-- A `pollStatus` that waits for its timer. -/
structure StatusPoll where
  module : Text
  /-- `targetLocked`. -/
  locked : Bool
  pollCount : Nat

def maxPolls : Nat := 20

structure Page where
  rows : Fin 3 → DoorRow
  polls : List StatusPoll

/-- What happens on a page besides messages. -/
inductive PageAction where
  /-- The button of a door is clicked. -/
  | click (i : Fin 3)
  /-- The connection comes up, or 3 s have passed. -/
  | requestAll
  /-- The timer of a `pollStatus` fires. `found` is the lock state at a key that is not a
  door's. -/
  | pollTimer (k : Nat) (found : Option Bool)

namespace Page

def loaded : Page := ⟨fun _ => .loaded, []⟩

/-- `requestModuleStatus`. -/
def requestModuleStatus (module : Text) : SendCommand := ⟨module, "D0".toList, "STATUS".toList⟩

/-- `pollStatus`, up to its timer. -/
def pollStatus (p : Page) (q : StatusPoll) : Page × List SendCommand :=
  ({ p with polls := p.polls ++ [{ q with pollCount := q.pollCount + 1 }] },
    [requestModuleStatus q.module])

/-- The polling that a `door-feedback` starts. -/
def startsPoll : PageMessage → Option StatusPoll
  | .doorFeedback module action =>
      if (doorOf module).isSome || inheritedKeys.contains module then
        if toUpperCase action = "LOCK".toList then some ⟨module, true, 0⟩
        else if toUpperCase action = "UNLOCK".toList then some ⟨module, false, 0⟩
        else none
      else none
  | _ => none

/-- The handlers of the server's messages. -/
def hear (p : Page) (m : PageMessage) : Page × List SendCommand :=
  let p : Page :=
    match doorOf m.module with
    | some i => { p with rows := Function.update p.rows i ((p.rows i).hear m) }
    | none => p
  match startsPoll m with
  | some q => p.pollStatus q
  | none => (p, [])

/-- `toggleDoor`. -/
def toggleDoor (p : Page) (i : Fin 3) : List SendCommand :=
  let state := (p.rows i).entry
  if state.doorOpen = some true then []
  else [⟨doorId i, "D0".toList,
    if state.lockLocked = some true then "UNLOCK".toList else "LOCK".toList⟩]

/-- The lock state `pollStatus` compares with. -/
def lockLocked (p : Page) (module : Text) (found : Option Bool) : Option Bool :=
  match doorOf module with
  | some i => (p.rows i).entry.lockLocked
  | none => found

/-- `none` for a timer that is not set, and for a disabled button, which is not clicked. -/
def act (p : Page) : PageAction → Option (Page × List SendCommand)
  | .click i => if (p.rows i).disabled then none else some (p, p.toggleDoor i)
  | .requestAll => some (p, doorIds.map requestModuleStatus)
  | .pollTimer k found =>
      (p.polls[k]?).map fun q =>
        let p := { p with polls := p.polls.eraseIdx k }
        if p.lockLocked q.module found = some q.locked ∨ q.pollCount ≥ maxPolls then (p, [])
        else p.pollStatus q

end Page

/-- One callback of the page. -/
inductive PageInput where
  | message (m : PageMessage)
  | action (a : PageAction)

namespace Page

def handle (p : Page) : PageInput → Option (Page × List SendCommand)
  | .message m => some (p.hear m)
  | .action a => p.act a

def step (p : Page) (i : PageInput) : Option Page := (p.handle i).map Prod.fst

end Page

/-! ## What a row shows -/

namespace DoorRow

/-- A row shows its entry, or is as the page was loaded. -/
def Shows (r : DoorRow) : Prop := r = loaded ∨ r = showing r.entry

/-- An EVENT in which nothing is found leaves the entry. -/
theorem onHubEvent_of_not_updated {e : DoorEntry} {event : Text}
    (h : (e.onHubEvent event).2 = false) : (e.onHubEvent event).1 = e := by
  simp only [DoorEntry.onHubEvent, List.any_cons, List.any_nil, Bool.or_false,
    Bool.or_eq_false_iff] at h
  obtain ⟨hopen, hclosed, hlocked, hunlocked⟩ := h
  simp only [DoorEntry.onHubEvent, DoorEntry.flagOf, hopen, hclosed, hlocked, hunlocked,
    Bool.false_eq_true, if_false]

theorem Shows.hear {r : DoorRow} (h : r.Shows) (m : PageMessage) : (r.hear m).Shows := by
  cases m with
  | hubEvent module event =>
      simp only [DoorRow.hear]
      split
      · exact Or.inr rfl
      · rename_i hupdated
        rw [onHubEvent_of_not_updated (by simpa using hupdated)]
        exact h
  | doorFeedback module action =>
      simp only [DoorRow.hear]
      split
      · exact Or.inr rfl
      · exact h
  | commandFeedback module action => exact Or.inr rfl

end DoorRow

namespace Page

theorem hear_rows (p : Page) (m : PageMessage) (i : Fin 3) :
    (p.hear m).1.rows i = if doorOf m.module = some i then (p.rows i).hear m else p.rows i := by
  have hrows : (p.hear m).1.rows = match doorOf m.module with
      | some i => Function.update p.rows i ((p.rows i).hear m)
      | none => p.rows := by
    unfold hear
    cases doorOf m.module with
    | none => cases startsPoll m <;> rfl
    | some i => cases startsPoll m <;> rfl
  rw [hrows]
  cases hdoor : doorOf m.module with
  | none => rw [if_neg (by simp)]
  | some j =>
      by_cases hj : j = i
      · rw [hj, if_pos rfl]
        exact Function.update_self ..
      · rw [if_neg (by simpa using hj)]
        exact Function.update_of_ne (Ne.symm hj) ..

/-- Only messages change what a page knows and shows. -/
theorem act_rows {p : Page} {a : PageAction} {out : Page × List SendCommand}
    (h : p.act a = some out) : out.1.rows = p.rows := by
  cases a with
  | click i =>
      simp only [act] at h
      split at h
      · cases h
      · obtain rfl := Option.some.inj h
        rfl
  | requestAll =>
      obtain rfl := Option.some.inj h
      rfl
  | pollTimer k found =>
      obtain ⟨q, -, rfl⟩ := Option.map_eq_some_iff.mp h
      dsimp only
      split <;> rfl

theorem shows_step {p p' : Page} {i : PageInput} (h : ∀ d, (p.rows d).Shows)
    (hs : step p i = some p') : ∀ d, (p'.rows d).Shows := by
  obtain ⟨out, hout, rfl⟩ := Option.map_eq_some_iff.mp hs
  intro d
  cases i with
  | message m =>
      obtain rfl := Option.some.inj hout
      rw [hear_rows]
      split
      · exact (h d).hear m
      · exact h d
  | action a =>
      rw [act_rows hout]
      exact h d

/-- A row that shows its entry names in its label what its button sends. -/
theorem toggleDoor_of_shows {p : Page} {d : Fin 3} (h : (p.rows d).Shows)
    (henabled : (p.rows d).disabled = false) :
    (p.toggleDoor d = [⟨doorId d, "D0".toList, "UNLOCK".toList⟩]
        ∧ (p.rows d).label = "Unlock Door".toList ∧ (p.rows d).status = "closed / locked".toList)
      ∨ (p.toggleDoor d = [⟨doorId d, "D0".toList, "LOCK".toList⟩]
        ∧ ((p.rows d).label = "Lock Door".toList ∧ (p.rows d).status = "closed / unlocked".toList
          ∨ p.rows d = .loaded)) := by
  unfold toggleDoor
  rcases h with h | h
  · rw [h]
    exact Or.inr ⟨rfl, Or.inr rfl⟩
  · obtain ⟨e, he⟩ : ∃ e, p.rows d = .showing e := ⟨_, h⟩
    rw [he] at henabled ⊢
    match e with
    | ⟨some true, some _⟩ => cases henabled
    | ⟨some false, some true⟩ => exact Or.inl ⟨rfl, rfl, rfl⟩
    | ⟨some false, some false⟩ => exact Or.inr ⟨rfl, Or.inl ⟨rfl, rfl⟩⟩
    | ⟨none, _⟩ => cases henabled
    | ⟨some _, none⟩ => cases henabled

/-- In every run of a page, a row shows its entry from its first update on, and a click
sends the one command its label names; LOCK from a row that was never updated. -/
theorem click_run {is : List PageInput} {p : Page} (hr : Lts.run step loaded is = some p)
    (d : Fin 3) :
    (p.rows d).Shows ∧ ∀ out, p.act (.click d) = some out →
      (out.2 = [⟨doorId d, "D0".toList, "UNLOCK".toList⟩]
          ∧ (p.rows d).label = "Unlock Door".toList ∧ (p.rows d).status = "closed / locked".toList)
        ∨ (out.2 = [⟨doorId d, "D0".toList, "LOCK".toList⟩]
          ∧ ((p.rows d).label = "Lock Door".toList
              ∧ (p.rows d).status = "closed / unlocked".toList
            ∨ p.rows d = .loaded)) := by
  have hinit : ∀ d, (loaded.rows d).Shows := fun _ => Or.inl rfl
  have hshows := Lts.inv_run_of_step (fun s i s' h hs => shows_step h hs) hinit hr d
  refine ⟨hshows, fun out hout => ?_⟩
  simp only [act] at hout
  split at hout
  · cases hout
  · rename_i henabled
    obtain rfl := Option.some.inj hout
    exact toggleDoor_of_shows hshows (by simpa using henabled)

/-- A page that is told of D1 locked. -/
def toldLocked : List PageInput :=
  [.message (.commandFeedback "D1".toList "STATUS_LOCKED".toList)]

theorem click_run_locked :
    ∃ p, Lts.run step loaded toldLocked = some p ∧ (p.rows 0).Shows := by
  have hrun : Lts.run step loaded toldLocked = some _ := rfl
  exact ⟨_, hrun, (click_run hrun 0).1⟩

end Page

/-! ## Polling -/

/-- A page with what was counted: pollings started, requests they have sent, and timers
that fired. -/
structure PageRun where
  page : Page
  started : Nat
  requests : Nat
  timers : Nat

namespace PageRun

open Page

def loaded : PageRun := ⟨.loaded, 0, 0, 0⟩

/-- Pollings a callback starts. -/
def starts : PageInput → Nat
  | .message m => if (startsPoll m).isSome then 1 else 0
  | .action _ => 0

def fires : PageInput → Nat
  | .action (.pollTimer ..) => 1
  | _ => 0

/-- Requests of a polling: those of a message or a timer. -/
def polls (out : List SendCommand) : PageInput → Nat
  | .message _ => out.length
  | .action (.pollTimer ..) => out.length
  | .action _ => 0

def step (s : PageRun) (i : PageInput) : Option PageRun :=
  (s.page.handle i).map fun out =>
    ⟨out.1, s.started + starts i, s.requests + polls out.2 i, s.timers + fires i⟩

/-- What the pollings under way may still send. -/
def left (ps : List StatusPoll) : Nat := (ps.map fun q => maxPolls - q.pollCount).sum

/-- Every polling under way has sent a request, and has not sent too many; what was sent
and may still be sent, and what has fired and may still fire, was started. -/
structure Bounded (s : PageRun) : Prop where
  count : ∀ q ∈ s.page.polls, 1 ≤ q.pollCount ∧ q.pollCount ≤ maxPolls
  requests : s.requests + left s.page.polls ≤ maxPolls * s.started
  timers : s.timers + left s.page.polls + s.page.polls.length ≤ maxPolls * s.started

theorem bounded_loaded : loaded.Bounded where
  count _ hq := absurd hq List.not_mem_nil
  requests := Nat.le_refl _
  timers := Nat.le_refl _

theorem left_append (ps : List StatusPoll) (q : StatusPoll) :
    left (ps ++ [q]) = left ps + (maxPolls - q.pollCount) := by
  simp [left]

theorem left_eraseIdx {ps : List StatusPoll} {k : Nat} {q : StatusPoll} (h : ps[k]? = some q) :
    left ps = maxPolls - q.pollCount + left (ps.eraseIdx k) := by
  obtain ⟨hk, rfl⟩ := List.getElem?_eq_some_iff.mp h
  have hperm := (List.getElem_cons_eraseIdx_perm hk).map fun q => maxPolls - q.pollCount
  rw [left, ← hperm.sum_nat, List.map_cons, List.sum_cons, left]

theorem hear_polls (p : Page) (m : PageMessage) :
    (p.hear m).1.polls = p.polls ++ ((startsPoll m).map fun q => { q with pollCount := 1 }).toList
      ∧ (p.hear m).2.length = if (startsPoll m).isSome then 1 else 0 := by
  have hzero : ∀ q ∈ startsPoll m, q.pollCount = 0 := by
    intro q hq
    unfold startsPoll at hq
    split at hq
    · split at hq
      · split at hq
        · cases hq
          rfl
        · split at hq
          · cases hq
            rfl
          · cases hq
      · cases hq
    · cases hq
  unfold hear
  cases hstart : startsPoll m with
  | none => cases doorOf m.module <;> simp
  | some q => cases doorOf m.module <;> simp [pollStatus, hzero q hstart]

theorem Bounded.step {s s' : PageRun} {i : PageInput} (h : s.Bounded) (hs : step s i = some s') :
    s'.Bounded := by
  obtain ⟨out, hout, rfl⟩ := Option.map_eq_some_iff.mp hs
  have hrequests := h.requests
  have htimers := h.timers
  cases i with
  | message m =>
      obtain rfl := Option.some.inj hout
      obtain ⟨hpolls, hlength⟩ := hear_polls s.page m
      cases hstart : startsPoll m with
      | none =>
          simp only [hstart, Option.map_none, Option.toList_none, List.append_nil,
            Option.isSome_none, Bool.false_eq_true, if_false] at hpolls hlength
          constructor
          · rw [hpolls]
            exact h.count
          · simp only [hpolls, hlength, polls, starts, hstart]
            exact hrequests
          · simp only [hpolls, fires, starts, hstart]
            exact htimers
      | some q =>
          simp only [hstart, Option.map_some, Option.toList_some, Option.isSome_some,
            if_true] at hpolls hlength
          constructor
          · rw [hpolls]
            intro q' hq'
            rcases List.mem_append.mp hq' with hq' | hq'
            · exact h.count q' hq'
            · rw [List.mem_singleton.mp hq']
              exact ⟨Nat.le_refl 1, Nat.le_add_left 1 19⟩
          · simp only [hpolls, hlength, polls, starts, hstart, left_append, Option.isSome_some,
              if_true, maxPolls] at *
            omega
          · simp only [hpolls, fires, starts, hstart, left_append, Option.isSome_some,
              if_true, maxPolls, List.length_append, List.length_singleton] at *
            omega
  | action a =>
      cases a with
      | click d =>
          have hpage : out.1.polls = s.page.polls := by
            simp only [handle, act] at hout
            split at hout
            · cases hout
            · cases hout
              rfl
          exact ⟨hpage ▸ h.count, hpage ▸ hrequests, hpage ▸ htimers⟩
      | requestAll =>
          cases hout
          exact ⟨h.count, hrequests, htimers⟩
      | pollTimer k found =>
          obtain ⟨q, hq, rfl⟩ := Option.map_eq_some_iff.mp hout
          obtain ⟨hlo, hhi⟩ := h.count q (List.mem_of_getElem? hq)
          have hleft := left_eraseIdx hq
          have hlength : (s.page.polls.eraseIdx k).length + 1 = s.page.polls.length := by
            obtain ⟨hk, -⟩ := List.getElem?_eq_some_iff.mp hq
            rw [List.length_eraseIdx_of_lt hk]
            omega
          have hcount : ∀ q' ∈ s.page.polls.eraseIdx k,
              1 ≤ q'.pollCount ∧ q'.pollCount ≤ maxPolls :=
            fun q' hq' => h.count q' (List.mem_of_mem_eraseIdx hq')
          dsimp only
          split
          · constructor
            · exact hcount
            · simp only [polls, starts, List.length_nil, Nat.add_zero]
              omega
            · simp only [fires, starts, Nat.add_zero]
              omega
          · rename_i hgo
            have hlt : q.pollCount < maxPolls := Nat.lt_of_not_le fun hge => hgo (Or.inr hge)
            constructor
            · intro q' hq'
              rcases List.mem_append.mp hq' with hq' | hq'
              · exact hcount q' hq'
              · rw [List.mem_singleton.mp hq']
                exact ⟨Nat.le_add_left 1 _, hlt⟩
            · simp only [pollStatus, polls, starts, left_append, List.length_singleton,
                Nat.add_zero]
              omega
            · simp only [pollStatus, fires, starts, left_append, List.length_append,
                List.length_singleton, Nat.add_zero]
              omega

/-- In every run, the requests of the pollings, and the timers that fired and that are still
pending, are at most 20 for each LOCK or UNLOCK the page was told of: polling ends. -/
theorem polled_run {is : List PageInput} {s : PageRun} (hr : Lts.run step loaded is = some s) :
    s.requests ≤ 20 * s.started ∧ s.timers + s.page.polls.length ≤ 20 * s.started := by
  have h := Lts.inv_run_of_step (fun _ _ _ h hs => Bounded.step h hs) bounded_loaded hr
  have hrequests := h.requests
  have htimers := h.timers
  rw [maxPolls] at hrequests htimers
  exact ⟨by omega, by omega⟩

/-- A page that is told of a LOCK of D1, up to the first timer. -/
def toldLock : List PageInput :=
  [.message (.doorFeedback "D1".toList "LOCK".toList), .action (.pollTimer 0 none)]

theorem polled_run_lock : ∃ s, Lts.run step loaded toldLock = some s
    ∧ s.requests ≤ 20 * s.started ∧ s.timers + s.page.polls.length ≤ 20 * s.started := by
  have hrun : Lts.run step loaded toldLock = some _ := rfl
  exact ⟨_, hrun, polled_run hrun⟩

end PageRun

end HomeSecurity
