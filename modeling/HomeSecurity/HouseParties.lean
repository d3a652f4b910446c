import HomeSecurity.Decoders
import HomeSecurity.House

/-!
# What each party keeps

One by one: a page, the web server, the hub and a door take a line that says only what was
asked for and answered, and send no other.
-/

namespace HomeSecurity

open CText JsText StepperMotor

namespace House

variable {κ : Type} [DecidableEq κ] {cfg : HouseConfig} {k k' : Known} {i : Fin 3}

/-! ## What a page makes of an action -/

/-- What `command-feedback` does to an entry. -/
def commandEffects (action : Text) : Effects :=
  let upper := toUpperCase action
  if startsWith upper "STATUS_".toList then statusEffects (upper.drop "STATUS_".toList.length)
  else
    let parts := pieces upper
    legacyEffects (parts.contains "OPEN".toList) (parts.contains "CLOSED".toList)
      (parts.contains "LOCKED".toList) (parts.contains "UNLOCKED".toList)

/-- What `door-feedback` does. -/
def feedbackEffects (action : Text) : Effects :=
  let upper := toUpperCase action
  if startsWith upper "STATUS_".toList then statusEffects (upper.drop "STATUS_".toList.length)
  else ⟨.keep, .keep⟩

theorem onCommandFeedback_eq (e : DoorEntry) (action : Text) :
    e.onCommandFeedback action = (commandEffects action).on e := by
  unfold commandEffects
  dsimp only
  split
  · exact onCommandFeedback_status ‹_› e
  · exact onCommandFeedback_legacy ‹_› e

theorem onDoorFeedback_eq (e : DoorEntry) (action : Text) :
    e.onDoorFeedback action = (feedbackEffects action).on e := by
  unfold feedbackEffects DoorEntry.onDoorFeedback
  dsimp only
  split
  · rw [applyStatusStateToDoor_eq, toUpperCase_drop]
  · rfl

/-- What a page may make of a state, or of less than a state. -/
def effectsOf (st : DoorState) : List Effects :=
  [⟨.keep, .keep⟩, ⟨.set none, .set none⟩, statusEffects (stateStr st)]

theorem effects_command {w a : Text} (hw : w ∈ commandWords) (h : a <+: w) :
    commandEffects a ∈ effectsOf .unknown
      ∧ feedbackEffects (formattedAction a) ∈ effectsOf .unknown := by
  have hall : ∀ w ∈ commandWords, ∀ a ∈ w.inits, commandEffects a ∈ effectsOf .unknown
      ∧ feedbackEffects (formattedAction a) ∈ effectsOf .unknown := by decide +kernel
  exact hall w hw a ((List.mem_inits ..).mpr h)

theorem effects_state {st : DoorState} {a : Text} (h : a <+: stateAction st) :
    commandEffects a ∈ effectsOf st ∧ feedbackEffects (formattedAction a) ∈ effectsOf st := by
  have hall : ∀ a ∈ (stateAction st).inits, commandEffects a ∈ effectsOf st
      ∧ feedbackEffects (formattedAction a) ∈ effectsOf st := by
    cases st <;> decide +kernel
  exact hall a ((List.mem_inits ..).mpr h)

/-- Door `i` has answered a state that sets the door's flag so. -/
def Known.SaidOpen (k : Known) (i : Fin 3) (b : Bool) : Prop :=
  ∃ st, k.said i st ∧ (statusEffects (stateStr st)).door = .set (some b)

/-- The same for the lock's flag. -/
def Known.SaidLocked (k : Known) (i : Fin 3) (b : Bool) : Prop :=
  ∃ st, k.said i st ∧ (statusEffects (stateStr st)).lock = .set (some b)

/-- What is set is what door `i` has answered. -/
structure Tells (k : Known) (i : Fin 3) (x : Effects) : Prop where
  door : ∀ b, x.door = .set (some b) → k.SaidOpen i b
  lock : ∀ b, x.lock = .set (some b) → k.SaidLocked i b

/-- And what an entry shows. -/
structure EntryTold (k : Known) (i : Fin 3) (e : DoorEntry) : Prop where
  door : ∀ b, e.doorOpen = some b → k.SaidOpen i b
  lock : ∀ b, e.lockLocked = some b → k.SaidLocked i b

theorem EntryTold.mono (hle : k.Le k') {e : DoorEntry} (h : EntryTold k i e) :
    EntryTold k' i e where
  door b hb := (h.door b hb).imp fun _ hst => hst.imp_left (hle.said _ _)
  lock b hb := (h.lock b hb).imp fun _ hst => hst.imp_left (hle.said _ _)

theorem EntryTold.on {e : DoorEntry} (h : EntryTold k i e) {x : Effects} (hx : Tells k i x) :
    EntryTold k i (x.on e) := by
  have hflag : ∀ {y : Effect} {old : Option Bool} {b : Bool}, y.on old = some b →
      y = .set (some b) ∨ old = some b := by
    intro y old b hon
    cases y with
    | keep => exact Or.inr hon
    | set v => exact Or.inl (congrArg Effect.set hon)
  constructor
  · intro b hb
    rcases hflag hb with hset | hold
    · exact hx.door b hset
    · exact h.door b hold
  · intro b hb
    rcases hflag hb with hset | hold
    · exact hx.lock b hset
    · exact h.lock b hold

theorem tells_of_mem {st : DoorState} (hst : k.said i st ∨ st = .unknown) {x : Effects}
    (hx : x ∈ effectsOf st) : Tells k i x := by
  simp only [effectsOf, List.mem_cons, List.not_mem_nil, or_false] at hx
  have hnone : Tells k i ⟨.set none, .set none⟩ := ⟨nofun, nofun⟩
  rcases hx with rfl | rfl | rfl
  · exact ⟨nofun, nofun⟩
  · exact hnone
  · rcases hst with hst | rfl
    · exact ⟨fun b hb => ⟨st, hst, hb⟩, fun b hb => ⟨st, hst, hb⟩⟩
    · exact hnone

theorem Carries.tells {a : Text} (h : Carries k i a) :
    Tells k i (commandEffects a) ∧ Tells k i (feedbackEffects (formattedAction a)) := by
  cases h with
  | command hw h =>
      obtain ⟨hcommand, hfeedback⟩ := effects_command hw h
      exact ⟨tells_of_mem (Or.inr rfl) hcommand, tells_of_mem (Or.inr rfl) hfeedback⟩
  | state hst h =>
      obtain ⟨hcommand, hfeedback⟩ := effects_state h
      exact ⟨tells_of_mem (Or.inl hst) hcommand, tells_of_mem (Or.inl hst) hfeedback⟩

/-! ## The pages and their server -/

/-- A message about a door says what the door has answered. -/
def Heard (k : Known) : PageMessage → Prop
  | .hubEvent _ _ => False
  | .doorFeedback module action =>
      ∃ i a, module = doorId i ∧ Carries k i a ∧ action = formattedAction a
  | .commandFeedback module action => ∃ i, module = doorId i ∧ Carries k i action

/-- A command of a page is for a door of its list, and LOCK and UNLOCK were asked for. -/
structure AskedFor (k : Known) (c : SendCommand) : Prop where
  module : ∃ i, c.module = doorId i ∧ (c.action ≠ "STATUS".toList → k.asked i c.action)
  target : c.target = "D0".toList
  action : c.action ∈ commandWords

structure PageTold (k : Known) (p : Page) : Prop where
  rows : ∀ i, EntryTold k i (p.rows i).entry
  polls : ∀ q ∈ p.polls, ∃ i, q.module = doorId i

theorem Heard.mono (hle : k.Le k') {m : PageMessage} (h : Heard k m) : Heard k' m := by
  cases m with
  | hubEvent module event => exact h
  | doorFeedback module action =>
      obtain ⟨i, a, hm, ha, heq⟩ := h
      exact ⟨i, a, hm, ha.mono hle, heq⟩
  | commandFeedback module action =>
      obtain ⟨i, hm, ha⟩ := h
      exact ⟨i, hm, ha.mono hle⟩

theorem AskedFor.mono (hle : k.Le k') {c : SendCommand} (h : AskedFor k c) : AskedFor k' c := by
  obtain ⟨i, hi, hasked⟩ := h.module
  exact ⟨⟨i, hi, fun hne => hle.asked _ _ (hasked hne)⟩, h.target, h.action⟩

theorem PageTold.mono (hle : k.Le k') {p : Page} (h : PageTold k p) : PageTold k' p :=
  ⟨fun i => (h.rows i).mono hle, h.polls⟩

theorem doorOf_eq_some {module : Text} (h : doorOf module = some i) : module = doorId i := by
  simpa [eq_comm] using List.find?_some h

theorem Heard.entry {m : PageMessage} (h : Heard k m) (hi : doorOf m.module = some i) {r : DoorRow}
    (hr : EntryTold k i r.entry) : EntryTold k i (r.hear m).entry := by
  have hmod := doorOf_eq_some hi
  cases m with
  | hubEvent module event => exact h.elim
  | doorFeedback module action =>
      obtain ⟨j, a, hm, ha, rfl⟩ := h
      obtain rfl := doorId_injective (hm.symm.trans hmod)
      rw [DoorRow.hear_doorFeedback_entry, onDoorFeedback_eq]
      exact hr.on ha.tells.2
  | commandFeedback module action =>
      obtain ⟨j, hm, ha⟩ := h
      obtain rfl := doorId_injective (hm.symm.trans hmod)
      have hentry : (r.hear (.commandFeedback module action)).entry
          = (commandEffects action).on r.entry := onCommandFeedback_eq r.entry action
      rw [hentry]
      exact hr.on ha.tells.1

theorem askedFor_status (k : Known) (i : Fin 3) :
    AskedFor k (Page.requestModuleStatus (doorId i)) :=
  ⟨⟨i, rfl, fun hne => absurd rfl hne⟩, rfl, by simp [Page.requestModuleStatus, commandWords]⟩

/-- What a page makes of a message, and what it sends then. -/
theorem PageTold.hear {p : Page} (h : PageTold k p) {m : PageMessage} (hm : Heard k m) :
    PageTold k (p.hear m).1 ∧ ∀ c ∈ (p.hear m).2, AskedFor k c := by
  have hmodule : ∃ i, m.module = doorId i := by
    cases m with
    | hubEvent module event => exact hm.elim
    | doorFeedback module action =>
        obtain ⟨i, -, hi, -⟩ := hm
        exact ⟨i, hi⟩
    | commandFeedback module action =>
        obtain ⟨i, hi, -⟩ := hm
        exact ⟨i, hi⟩
  have hpoll : ∀ q, Page.startsPoll m = some q → q.module = m.module := by
    intro q hq
    unfold Page.startsPoll at hq
    split at hq
    · split at hq
      · split at hq
        · cases hq
          rfl
        · split at hq
          · cases hq
            rfl
          · cases hq
      · cases hq
    · cases hq
  refine ⟨⟨fun i => ?_, ?_⟩, ?_⟩
  · rw [Page.hear_rows]
    split
    · exact hm.entry ‹_› (h.rows i)
    · exact h.rows i
  · rw [(PageRun.hear_polls p m).1]
    intro q hq
    rcases List.mem_append.mp hq with hq | hq
    · exact h.polls q hq
    · obtain ⟨q', hq', rfl⟩ := List.mem_map.mp (Option.toList_map .. ▸ hq)
      obtain ⟨i, hi⟩ := hmodule
      exact ⟨i, (hpoll q' (Option.mem_toList.mp hq')).trans hi⟩
  · intro c hc
    unfold Page.hear at hc
    dsimp only at hc
    split at hc
    · rename_i q hq
      obtain ⟨i, hi⟩ := hmodule
      rw [List.mem_singleton.mp hc, hpoll q hq, hi]
      exact askedFor_status k i
    · cases hc

theorem mem_toggleDoor {p : Page} {d : Fin 3} {c : SendCommand} (hc : c ∈ p.toggleDoor d) :
    c.module = doorId d ∧ c.target = "D0".toList := by
  simp only [Page.toggleDoor] at hc
  split at hc
  · cases hc
  · rw [List.mem_singleton.mp hc]
    exact ⟨rfl, rfl⟩

/-- What a page does of itself; a click asks for what the button sends. -/
theorem PageTold.act {p : Page} (h : PageTold k p) {a : PageAction}
    {out : Page × List SendCommand} (hact : p.act a = some out)
    (hclick : ∀ i, a = .click i → ∀ c ∈ p.toggleDoor i, k.asked i c.action) :
    PageTold k out.1 ∧ ∀ c ∈ out.2, AskedFor k c := by
  have hrows : ∀ i, EntryTold k i (out.1.rows i).entry := by
    intro i
    rw [Page.act_rows hact]
    exact h.rows i
  cases a with
  | click d =>
      simp only [Page.act] at hact
      split at hact
      · cases hact
      · obtain rfl := Option.some.inj hact
        refine ⟨h, fun c hc => ?_⟩
        have hasked := hclick d rfl c hc
        simp only [Page.toggleDoor] at hc
        split at hc
        · cases hc
        · obtain rfl := List.mem_singleton.mp hc
          refine ⟨⟨d, rfl, fun _ => hasked⟩, rfl, ?_⟩
          dsimp only
          split <;> simp [commandWords]
  | requestAll =>
      obtain rfl := Option.some.inj hact
      refine ⟨h, fun c hc => ?_⟩
      obtain ⟨module, hmod, rfl⟩ := List.mem_map.mp hc
      obtain ⟨i, hi⟩ : ∃ i, module = doorId i := by
        obtain ⟨n, hn, rfl⟩ := List.mem_iff_getElem.mp hmod
        exact ⟨⟨n, hn⟩, rfl⟩
      rw [hi]
      exact askedFor_status k i
  | pollTimer n found =>
      obtain ⟨q, hq, rfl⟩ := Option.map_eq_some_iff.mp hact
      have hpolls : ∀ q' ∈ p.polls.eraseIdx n, ∃ i, q'.module = doorId i := fun q' hq' =>
        h.polls q' (List.mem_of_mem_eraseIdx hq')
      obtain ⟨i, hi⟩ := h.polls q (List.mem_of_getElem? hq)
      dsimp only at hrows ⊢
      split
      · exact ⟨⟨h.rows, hpolls⟩, fun c hc => absurd hc List.not_mem_nil⟩
      · refine ⟨⟨h.rows, fun q' hq' => ?_⟩, fun c hc => ?_⟩
        · rcases List.mem_append.mp hq' with hq' | hq'
          · exact hpolls q' hq'
          · rw [List.mem_singleton.mp hq']
            exact ⟨i, hi⟩
        · rw [List.mem_singleton.mp hc, hi]
          exact askedFor_status k i

structure SiteTold (k : Known) (s : WebSite κ) : Prop where
  counter : 1 ≤ s.server.cmdCounter
  pages : ∀ j, PageTold k (s.pages j)
  inbox : ∀ j, ∀ m ∈ s.inbox j, Heard k m
  outbox : ∀ j, ∀ c ∈ s.outbox j, AskedFor k c

omit [DecidableEq κ] in
theorem SiteTold.mono (hle : k.Le k') {s : WebSite κ} (h : SiteTold k s) : SiteTold k' s where
  counter := h.counter
  pages j := (h.pages j).mono hle
  inbox j m hm := (h.inbox j m hm).mono hle
  outbox j c hc := (h.outbox j c hc).mono hle

theorem SiteTold.emit {s : WebSite κ} (h : SiteTold k s) {r : DoorServer × List ServerOut}
    (hcount : s.server.cmdCounter ≤ r.1.cmdCounter)
    (hr : ∀ j, ∀ m ∈ r.2.filterMap (·.toPage s.owner j), Heard k m) : SiteTold k (s.emit r) where
  counter := Int.le_trans h.counter hcount
  pages := h.pages
  inbox j m hm := by
    rcases List.mem_append.mp hm with hm | hm
    · exact h.inbox j m hm
    · exact hr j m hm
  outbox := h.outbox

theorem forall_update {ι α : Type} [DecidableEq ι] {P : α → Prop} {f : ι → α}
    (hf : ∀ j, P (f j)) (j : ι) {v : α} (hv : P v) : ∀ j', P (Function.update f j v j') :=
  (Function.forall_update_iff f (p := fun _ a => P a)).mpr ⟨hv, fun j' _ => hf j'⟩

theorem SiteTold.update {s : WebSite κ} (h : SiteTold k s) (j : κ) {r : Page × List SendCommand}
    (hr : PageTold k r.1 ∧ ∀ c ∈ r.2, AskedFor k c) : SiteTold k (s.update j r) := by
  refine ⟨h.counter, forall_update h.pages j hr.1, h.inbox, ?_⟩
  refine forall_update (P := fun cs => ∀ c ∈ cs, AskedFor k c) h.outbox j fun c hc => ?_
  rcases List.mem_append.mp hc with hc | hc
  · exact h.outbox j c hc
  · exact hr.2 c hc

/-- What the server tells the pages of a line. -/
theorem heard_message {msg : Text} (hline : Line k msg) (server : DoorServer)
    (owner : Int → Option κ) (j : κ) :
    ∀ m ∈ (server.message msg).2.filterMap (·.toPage owner j), Heard k m := by
  intro m hm
  obtain ⟨o, ho, hpage⟩ := List.mem_filterMap.mp hm
  unfold DoorServer.message at ho
  cases hf : feedbackMessage msg with
  | none =>
      rw [hf] at ho
      dsimp only at ho
      rw [hline.otherMessage] at ho
      rw [List.mem_singleton.mp ho] at hpage
      cases hpage
  | some f =>
      obtain ⟨i, hi, hcarries⟩ := hline.feedbackMessage hf
      have hall : ∀ o ∈ [ServerOut.doorFeedback f.module f.target (formattedAction f.action),
          .commandFeedback f], o.toPage owner j = some m → Heard k m := by
        intro o ho hpage
        simp only [List.mem_cons, List.not_mem_nil, or_false] at ho
        rcases ho with rfl | rfl
        · obtain rfl := Option.some.inj hpage
          exact ⟨i, f.action, hi, hcarries, rfl⟩
        · obtain rfl := Option.some.inj hpage
          exact ⟨i, hi, hcarries⟩
      have hreply : ∀ c (q : Requestor),
          (ServerOut.reply c (q.feedback f)).toPage owner j = some m →
          Heard k m := by
        intro c q hpage
        cases q with
        | client =>
            simp only [Requestor.feedback, ServerOut.toPage] at hpage
            split at hpage
            · obtain rfl := Option.some.inj hpage
              exact ⟨i, hi, hcarries⟩
            · cases hpage
        | lockDoor moduleId => cases hpage
        | unlockDoor moduleId => cases hpage
        | doorInfo => cases hpage
      rw [hf] at ho
      dsimp only at ho
      split at ho
      · split at ho
        · rcases List.mem_cons.mp ho with rfl | ho
          · exact hreply _ _ hpage
          · exact hall o ho hpage
        · exact hall o ho hpage
      · exact hall o ho hpage

/-- The COMMAND that the server sends for a page. -/
theorem sent_sendCommand {c : SendCommand} (hc : AskedFor k c) {server : DoorServer}
    (hpos : 1 ≤ server.cmdCounter) {n : Int} (hlt : server.cmdCounter < n) {b : Text}
    (hb : b ∈ match server.handle (.sendCommand c.module c.target c.action) with
      | some r => r.2.filterMap ServerOut.payload
      | none => []) : Sent cfg k n ⟨cfg.webAddr, .hub, b⟩ := by
  obtain ⟨module, target, action⟩ := c
  obtain ⟨⟨i, hi, hasked⟩, htarget, haction⟩ := hc
  dsimp only at hi hasked htarget haction hb
  subst hi htarget
  have horElse : ∀ {x : Text} (y : Text), IsGraphic x → orElse x y = x := fun y hx =>
    if_neg hx.ne_nil
  simp only [DoorServer.handle, DoorServer.sendCommand, horElse _ (isGraphic_doorId i),
    horElse _ isGraphic_D0, horElse _ (isGraphic_commandWord haction)] at hb
  obtain rfl := List.mem_singleton.mp hb
  exact .web rfl rfl haction hasked hpos hlt rfl

theorem message_cmdCounter (server : DoorServer) (msg : Text) :
    (server.message msg).1.cmdCounter = server.cmdCounter := by
  unfold DoorServer.message
  split
  · dsimp only
    split
    · split <;> rfl
    · rfl
  · rfl

theorem sendDone_cmdCounter (server : DoorServer) (c : Int) (req : Request) (err : Option Text) :
    (server.sendDone c req err).1.cmdCounter = server.cmdCounter := by
  unfold DoorServer.sendDone
  dsimp only
  split <;> rfl

/-- Ids are given in order. -/
theorem cmdCounter_le {s s' : WebSite κ} {e : WebSiteEvent κ} (hs : WebSite.step s e = some s') :
    s.server.cmdCounter ≤ s'.server.cmdCounter := by
  cases e with
  | act j a =>
      obtain ⟨out, -, rfl⟩ := Option.map_eq_some_iff.mp hs
      exact Int.le_refl _
  | deliver j =>
      simp only [WebSite.step] at hs
      split at hs
      · cases hs
      · obtain rfl := Option.some.inj hs
        exact Int.le_refl _
  | receive j =>
      simp only [WebSite.step] at hs
      split at hs
      · cases hs
      · obtain ⟨r, hr, rfl⟩ := Option.map_eq_some_iff.mp hs
        obtain rfl := Option.some.inj hr
        exact Int.le_of_lt (Int.lt_add_one_of_le (Int.le_refl _))
  | sendDone c err =>
      obtain ⟨r, hr, rfl⟩ := Option.map_eq_some_iff.mp hs
      obtain ⟨req, -, rfl⟩ := Option.map_eq_some_iff.mp hr
      exact Int.le_of_eq (sendDone_cmdCounter s.server c req err).symm
  | message msg =>
      obtain rfl := Option.some.inj hs
      exact Int.le_of_eq (message_cmdCounter s.server msg).symm
  | timeout c =>
      obtain ⟨r, hr, rfl⟩ := Option.map_eq_some_iff.mp hs
      obtain ⟨req, -, rfl⟩ := Option.map_eq_some_iff.mp hr
      exact Int.le_refl _

/-- Everything on the web site but a datagram; and the datagrams it sends. -/
theorem SiteTold.step {s s' : WebSite κ} (h : SiteTold k s) {e : WebSiteEvent κ}
    (hs : WebSite.step s e = some s') (hmessage : ∀ msg, e ≠ .message msg)
    (hclick : ∀ j i, e = .act j (.click i) → ∀ c ∈ (s.pages j).toggleDoor i, k.asked i c.action) :
    SiteTold k s'
      ∧ ∀ b ∈ s.datagrams e, Sent cfg k s'.server.cmdCounter ⟨cfg.webAddr, .hub, b⟩ := by
  have hquiet : ∀ {n : Int}, ∀ b ∈ ([] : List Text), Sent cfg k n ⟨cfg.webAddr, .hub, b⟩ :=
    fun b hb => absurd hb List.not_mem_nil
  cases e with
  | act j a =>
      obtain ⟨out, hout, rfl⟩ := Option.map_eq_some_iff.mp hs
      have hpage := (h.pages j).act hout fun i hi => hclick j i (by rw [hi])
      exact ⟨h.update j hpage, hquiet⟩
  | deliver j =>
      simp only [WebSite.step] at hs
      split at hs
      · cases hs
      · rename_i m rest hinbox
        obtain rfl := Option.some.inj hs
        have hheard : ∀ m' ∈ m :: rest, Heard k m' := hinbox ▸ h.inbox j
        have hrest : SiteTold k { s with inbox := Function.update s.inbox j rest } :=
          ⟨h.counter, h.pages, forall_update (P := fun ms => ∀ m ∈ ms, Heard k m) h.inbox j
            fun m' hm' => hheard m' (List.mem_cons_of_mem _ hm'), h.outbox⟩
        have hpage := (h.pages j).hear (hheard m (List.mem_cons_self ..))
        exact ⟨hrest.update j hpage, hquiet⟩
  | receive j =>
      cases houtbox : s.outbox j with
      | nil =>
          have hnone : WebSite.step s (.receive j) = none := by simp only [WebSite.step, houtbox]
          rw [hnone] at hs
          cases hs
      | cons c rest =>
          simp only [WebSite.step, WebSite.datagrams, houtbox] at hs ⊢
          obtain ⟨r, hr, rfl⟩ := Option.map_eq_some_iff.mp hs
          obtain rfl := Option.some.inj hr
          have hasked : ∀ c' ∈ c :: rest, AskedFor k c' := houtbox ▸ h.outbox j
          have hrest : SiteTold k { s with
              owner := Function.update s.owner s.server.cmdCounter (some j)
              outbox := Function.update s.outbox j rest } :=
            ⟨h.counter, h.pages, h.inbox, forall_update (P := fun cs => ∀ c ∈ cs, AskedFor k c)
              h.outbox j fun c' hc' => hasked c' (List.mem_cons_of_mem _ hc')⟩
          have hlt : s.server.cmdCounter < s.server.cmdCounter + 1 :=
            Int.lt_add_one_of_le (Int.le_refl _)
          refine ⟨hrest.emit (Int.le_of_lt hlt) fun j' m hm => absurd hm List.not_mem_nil,
            fun b hb => ?_⟩
          exact sent_sendCommand (hasked c (List.mem_cons_self ..)) h.counter hlt hb
  | sendDone c err =>
      obtain ⟨r, hr, rfl⟩ := Option.map_eq_some_iff.mp hs
      obtain ⟨req, -, rfl⟩ := Option.map_eq_some_iff.mp hr
      have hcount := Int.le_of_eq (sendDone_cmdCounter s.server c req err).symm
      refine ⟨h.emit hcount fun j m hm => ?_, hquiet⟩
      rw [WebSite.filterMap_sendDone] at hm
      cases hm
  | message msg => exact absurd rfl (hmessage msg)
  | timeout c =>
      obtain ⟨r, hr, rfl⟩ := Option.map_eq_some_iff.mp hs
      obtain ⟨req, -, rfl⟩ := Option.map_eq_some_iff.mp hr
      refine ⟨h.emit (Int.le_refl _) fun j m hm => ?_, hquiet⟩
      simp only [DoorServer.timeout, List.filterMap_cons, WebSite.toPage_error,
        List.filterMap_nil] at hm
      cases hm

/-! ## The hub -/

theorem receiver_ne_hub (a : SockAddr) : cfg.receiver a ≠ .hub := by
  unfold HouseConfig.receiver
  split
  · nofun
  · split <;> nofun

theorem hubPacket_dst {o : HubOut} {q : Packet} (hq : hubPacket cfg o = some q) : q.dst ≠ .hub := by
  cases o with
  | relay dest m c msg =>
      obtain rfl := Option.some.inj hq
      exact receiver_ne_hub dest
  | forward dest line =>
      obtain rfl := Option.some.inj hq
      exact receiver_ne_hub dest
  | alert msg => cases hq
  | broadcast => cases hq

/-- What the hub sends when it handles a line. -/
theorem hubPacket_line {h : Hub} {dg : Datagram} (hdg : ToHub k dg.bytes) {o : HubOut}
    (ho : o ∈ (h.handleLine dg).2) {q : Packet} (hq : hubPacket cfg o = some q) :
    Line k q.bytes := by
  cases o with
  | relay dest m c msg =>
      obtain rfl := Option.some.inj hq
      obtain ⟨cs, target, action, rest, htok, rfl⟩ := Hub.handleLine_relay_msg ho
      have hline := hdg.line htok (Or.inr rfl)
      obtain ⟨i, rfl, htarget, haction, hcarries⟩ := hline.of_feedback htok
      exact .feedback htarget haction hcarries (List.take_prefix ..)
  | forward dest line =>
      obtain rfl := Option.some.inj hq
      obtain ⟨mod, type, args, htok, hout⟩ := Hub.handleLine_out ho
      rcases hout with ⟨-, _, _, _, -, -, -, ho⟩ | ⟨-, ho | ⟨_, _, _, ho⟩⟩ | ⟨htype, dest, ho⟩
      · obtain ⟨_, ho⟩ := Hub.triggerDiscordAlert_out ho
        cases ho
      · cases ho
      · cases ho
      · obtain ⟨-, rfl⟩ := HubOut.forward.inj ho
        exact (hdg.line htok (Or.inl htype)).shortened
          ((List.takeWhile_prefix _).trans (List.take_prefix ..))
  | alert msg => cases hq
  | broadcast => cases hq

/-- A call whose command is documented and was posted. -/
structure CallTold (k : Known) (c : SendCall) : Prop where
  module : IsGraphic c.moduleId
  target : IsGraphic c.target
  action : c.action ∈ commandWords
  asked : c.action ≠ "STATUS".toList → ∀ i, c.moduleId = doorId i → k.asked i c.action

theorem CallTold.continues {c c' : SendCall} (h : CallTold k c) (hc : c.Continues c') :
    CallTold k c' := by
  obtain ⟨attempt, phase, rfl⟩ := hc
  exact ⟨h.module, h.target, h.action, h.asked⟩

theorem CallTold.transmit {c c' : SendCall} (h : CallTold k c) {ok : Bool}
    {outs : List (SockAddr × CBuf 256)} (ht : c.transmit ok = some (c', outs)) :
    ∀ o ∈ outs, Line k o.2.text := by
  intro o ho
  unfold SendCall.transmit at ht
  split at ht
  · split at ht
    · obtain ⟨-, rfl⟩ := Prod.mk.inj (Option.some.inj ht)
      rw [List.mem_singleton.mp ho]
      exact .command h.module h.target h.action h.asked (List.take_prefix ..)
    · obtain ⟨-, rfl⟩ := Prod.mk.inj (Option.some.inj ht)
      cases ho
  · cases ht

/-! ## A door -/

/-- A door that can send has its own id. -/
def Named (i : Fin 3) (u : DoorUdp) : Prop := u.sockOpen = true → u.moduleId.text = doorId i

theorem Named.updated {u : DoorUdp} (hu : Named i u) {r : DoorUdp × List DoorSend}
    (h : u.Updated r) : Named i r.1 := by
  obtain ⟨hsock, hid, -, -⟩ := h.config
  intro hopen
  rw [hid]
  exact hu (hsock ▸ hopen)

theorem Named.reports {u : DoorUdp} (hu : Named i u) {r : DoorUdp × List DoorSend}
    (h : u.Updated r) : ∀ send ∈ r.2, FromDoor k i send.line.text := by
  intro send hsend
  have hopen : u.sockOpen = true := by
    by_contra hclosed
    rw [Bool.not_eq_true] at hclosed
    rcases h with rfl | ⟨t, d0Open, d1Locked, rfl⟩
    · cases hsend
    · rw [DoorUdp.doorUdpUpdate_of_closed _ _ _ _ _ hclosed] at hsend
      cases hsend
  obtain ⟨r, hline⟩ := h.lines send hsend
  refine .report (r := r) ?_
  rw [hline, DoorUdp.reportBuf, hu hopen]
  exact List.take_prefix ..

/-- What a door does of itself. -/
theorem Named.act {s : DoorMod} (hs : Named i s.udp) (c : DoorCall) :
    Named i (s.act (doorId i) c).1.udp
      ∧ ∀ send ∈ (s.act (doorId i) c).2, FromDoor k i send.line.text := by
  cases c with
  | start heartbeatMs t now ok =>
      have hshort : ∀ i, (doorId i).length < 16 := by decide
      have hid : (snprintf 16 (doorId i)).text = doorId i := snprintf_text (hshort i)
      simp only [DoorMod.act, DoorMod.doorReportingStart, DoorUdp.doorUdpInit2]
      cases ok with
      | true =>
          refine ⟨fun _ => hid, fun send hsend => .report (r := .hello) ?_⟩
          rw [List.mem_singleton.mp hsend]
          show (snprintf 256 (reportLine (snprintf 16 (doorId i)).text .hello)).text <+: _
          rw [hid]
          exact List.take_prefix ..
      | false => exact ⟨fun _ => hid, fun send hsend => absurd hsend List.not_mem_nil⟩
  | stop =>
      exact ⟨fun hopen => absurd hopen Bool.false_ne_true,
        fun send hsend => absurd hsend List.not_mem_nil⟩
  | heartbeat distance t =>
      have hupdated := s.heartbeatWorker_updated distance t
      exact ⟨hs.updated hupdated, hs.reports hupdated⟩
  | lock door env =>
      obtain ⟨pos, door', leds, applied, heq⟩ := s.lockDoor_reported door env
      simp only [DoorMod.act, heq]
      have hupdated := DoorMod.reported_updated { s with position := pos } door' env leds applied
      exact ⟨hs.updated hupdated, hs.reports hupdated⟩
  | unlock door env =>
      obtain ⟨pos, door', leds, applied, heq⟩ := s.unlockDoor_reported door env
      simp only [DoorMod.act, heq]
      have hupdated := DoorMod.reported_updated { s with position := pos } door' env leds applied
      exact ⟨hs.updated hupdated, hs.reports hupdated⟩
  | status door env =>
      obtain ⟨pos, door', leds, applied, heq⟩ := s.getDoorStatus_reported door env
      simp only [DoorMod.act, heq]
      have hupdated := DoorMod.reported_updated { s with position := pos } door' env leds applied
      exact ⟨hs.updated hupdated, hs.reports hupdated⟩
  | cleanup writes =>
      refine ⟨fun hopen => ?_, fun send hsend => absurd hsend List.not_mem_nil⟩
      simp only [DoorMod.act, DoorMod.doorModCleanup] at hopen
      split at hopen <;> cases hopen

/-- What the listener answers by itself echoes a COMMAND. -/
theorem doorCmdThread_echo {u : DoorUdp} {bytes : Text} :
    ∀ send ∈ (u.doorCmdThread bytes).2, ∃ cs target action rest,
      wireTokens bytes = u.moduleId.text :: "COMMAND".toList :: cs :: target :: action :: rest
        ∧ send.line = snprintf 256 (feedbackLine u.moduleId.text (atoi cs) target action) := by
  intro send hsend
  unfold DoorUdp.doorCmdThread at hsend
  split at hsend
  · rename_i mod type cs target action rest htok
    split at hsend
    · cases hsend
    · rename_i htype
      split at hsend
      · cases hsend
      · rename_i hmod
        obtain rfl := not_not.mp htype
        obtain rfl := not_not.mp hmod
        split at hsend
        · cases hsend
        · dsimp only [DoorUdp.sendLineNotif] at hsend
          split at hsend
          · rw [List.mem_singleton.mp hsend]
            exact ⟨cs, target, action, rest, htok, rfl⟩
          · cases hsend
  · cases hsend

theorem outAction_status (d : Door) :
    DoorMod.outAction "STATUS".toList d = stateAction d.state := by
  obtain ⟨state, id⟩ := d
  cases state <;> rfl

/-- What a door answers to a line: an echo, or for STATUS the state it is in. -/
theorem listen_fromDoor {s : DoorMod} {bytes : Text} (hid : s.udp.moduleId.text = doorId i)
    (hline : Line k bytes) (env : Env)
    (hsaid : ∀ cmd, (s.udp.doorCmdThread bytes).1 = some cmd → cmd.action = "STATUS".toList →
      k.said i (s.getDoorStatus ⟨.unknown, 0⟩ env).door.state) :
    ∀ send ∈ (s.listen bytes env).2, FromDoor k i send.line.text := by
  intro send hsend
  -- an answer in a command's own words
  have hecho : ∀ {cs target action : Text} {rest : List Text},
      wireTokens bytes = doorId i :: "COMMAND".toList :: cs :: target :: action :: rest →
      IsGraphic target ∧ IsGraphic action ∧ Carries k i action := by
    intro cs target action rest htok
    obtain ⟨htarget, w, hw, hprefix, -⟩ := hline.of_command htok
    have hmem : action ∈ strtok isDelim (cstr (bytes.take 255)) := by
      rw [← wireTokens, htok]
      simp
    have hne := strtok_ne_nil hmem
    exact ⟨htarget, isGraphic_cut (isGraphic_commandWord hw) hprefix hne, .command hw hprefix⟩
  unfold DoorMod.listen at hsend
  split at hsend
  · rename_i cmd sends hcall
    have hcmd : (s.udp.doorCmdThread bytes).1 = some cmd := by rw [hcall]
    obtain ⟨-, cs, rest, htok, hmodule, hc⟩ := DoorUdp.doorCmdThread_eq_some_iff.mp hcmd
    rcases List.mem_append.mp hsend with hsend | hsend
    · have hnamed : Named i s.udp := fun _ => hid
      exact hnamed.reports (s.handlerCall_updated cmd.action env) send hsend
    · have hsent := DoorUdp.doorUdpSendFeedback_line send hsend
      rw [hid] at htok hmodule
      obtain ⟨htarget, haction, hcarries⟩ := hecho htok
      rw [hsent]
      dsimp only [DoorMod.appCommandHandler]
      rw [hmodule]
      by_cases hstatus : cmd.action = "STATUS".toList
      · have hcall : s.handlerCall cmd.action env = s.getDoorStatus ⟨.unknown, 0⟩ env := by
          rw [hstatus]
          rfl
        rw [hcall, hstatus, outAction_status]
        refine .feedback htarget ?_ (.state (hsaid cmd hcmd hstatus) List.prefix_rfl)
          (List.take_prefix ..)
        cases (s.getDoorStatus ⟨.unknown, 0⟩ env).door.state <;>
          exact .of_all (by decide) (by decide)
      · rw [DoorMod.outAction, if_neg hstatus]
        exact .feedback htarget haction hcarries (List.take_prefix ..)
  · rename_i sends hcall
    have hmem : send ∈ (s.udp.doorCmdThread bytes).2 := by
      rw [hcall]
      exact hsend
    obtain ⟨cs, target, action, rest, htok, hsent⟩ := doorCmdThread_echo send hmem
    rw [hid] at htok hsent
    obtain ⟨htarget, haction, hcarries⟩ := hecho htok
    rw [hsent]
    exact .feedback htarget haction hcarries (List.take_prefix ..)

theorem Named.listen {s : DoorMod} (hs : Named i s.udp) (bytes : Text) (env : Env) :
    Named i (s.listen bytes env).1.udp := by
  unfold DoorMod.listen
  split
  · exact hs.updated (s.handlerCall_updated _ env)
  · exact hs

/-- The listener moves the bolt only for a LOCK or an UNLOCK. -/
theorem listen_moves {s : DoorMod} {bytes : Text} {env : Env}
    (h : (s.listen bytes env).1.position ≠ s.position) :
    ∃ cmd, (s.udp.doorCmdThread bytes).1 = some cmd
      ∧ (cmd.action = "LOCK".toList ∧ s.Locks env ∨ cmd.action = "UNLOCK".toList ∧ s.Unlocks) := by
  unfold DoorMod.listen at h
  split at h
  · rename_i cmd sends hcall
    refine ⟨cmd, by rw [hcall], ?_⟩
    dsimp only [DoorMod.appCommandHandler, DoorMod.handlerCall] at h
    split at h
    · rename_i hlock
      rw [(s.lockDoor_moves _ env).1] at h
      split at h
      · exact Or.inl ⟨hlock, ‹_›⟩
      · exact absurd rfl h
    · split at h
      · rename_i hunlock
        rw [(s.unlockDoor_moves _ env).1] at h
        split at h
        · exact Or.inr ⟨hunlock, ‹_›⟩
        · exact absurd rfl h
      · split at h
        · rw [DoorMod.getDoorStatus_position] at h
          exact absurd rfl h
        · exact absurd rfl h
  · exact absurd rfl h

end House

end HomeSecurity
