import HomeSecurity.DoorServer

/-!
# Answers and requests at the web server

The web server correlates by id alone, and registers a request when the `send`
of its datagram is reported done. `answersCorrelated` is what follows: a request
is resolved as success only by a FEEDBACK that names its id, of whatever module,
and the first such FEEDBACK between its registration and its timeout does
resolve it.
-/

namespace HomeSecurity

open CText

namespace DoorServer

/-- The message is a FEEDBACK that names the id `c`. -/
def Names (msg : Text) (c : Int) : Prop := ∃ f ∈ feedbackMessage msg, f.cmdid = some c

/-! ## Where success comes from -/

theorem message_of_pending {s : DoorServer} {msg : Text} {f : FeedbackMessage} {c : Int}
    {req : Request} (hf : feedbackMessage msg = some f) (hid : f.cmdid = some c)
    (hp : s.pending c = some req) :
    s.message msg = (s.clear c, .reply c (req.requestor.feedback f)
      :: [.doorFeedback f.module f.target (formattedAction f.action), .commandFeedback f]) := by
  unfold message
  rw [hf]
  dsimp only
  rw [hid]
  dsimp only
  rw [hp]

/-- What a message can do: resolve the pending request whose id it names, or
change nothing and answer nobody. -/
theorem message_cases (s : DoorServer) (msg : Text) :
    (∃ c f req, feedbackMessage msg = some f ∧ f.cmdid = some c ∧ s.pending c = some req
        ∧ s.message msg = (s.clear c, .reply c (req.requestor.feedback f)
          :: [.doorFeedback f.module f.target (formattedAction f.action), .commandFeedback f]))
      ∨ (s.message msg).1 = s ∧ ∀ c r, .reply c r ∉ (s.message msg).2 := by
  cases hf : feedbackMessage msg with
  | none =>
      right
      unfold message
      rw [hf]
      refine ⟨rfl, fun c r hr => ?_⟩
      dsimp only [otherMessage] at hr
      repeat' split at hr
      all_goals simp at hr
  | some f =>
      cases hid : f.cmdid with
      | none =>
          right
          unfold message
          rw [hf]
          dsimp only
          rw [hid]
          exact ⟨rfl, by simp⟩
      | some c =>
          cases hp : s.pending c with
          | none =>
              right
              unfold message
              rw [hf]
              dsimp only
              rw [hid]
              dsimp only
              rw [hp]
              exact ⟨rfl, by simp⟩
          | some req => exact Or.inl ⟨c, f, req, rfl, hid, hp, message_of_pending hf hid hp⟩

/-- A success is always the answer to a FEEDBACK that names the id of the
request it goes to. -/
theorem reply_isSuccess {s s' : DoorServer} {e : ServerEvent} {outs : List ServerOut} {c : Int}
    {r : Reply} (h : s.handle e = some (s', outs)) (hr : .reply c r ∈ outs)
    (hsuccess : r.isSuccess = true) :
    ∃ msg f req, e = .message msg ∧ feedbackMessage msg = some f ∧ f.cmdid = some c
      ∧ s.pending c = some req ∧ r = req.requestor.feedback f := by
  cases e with
  | sendCommand module target action =>
      cases h
      simp at hr
  | lockDoor moduleId =>
      cases h
      simp at hr
  | unlockDoor moduleId =>
      cases h
      simp at hr
  | getDoorInfo moduleId =>
      cases h
      simp at hr
  | sendDone cmdid err =>
      obtain ⟨req, -, hdone⟩ := Option.map_eq_some_iff.mp h
      unfold sendDone at hdone
      split at hdone
      all_goals cases hdone
      · simp only [List.mem_singleton, ServerOut.reply.injEq] at hr
        rw [hr.2, Requestor.error_isSuccess] at hsuccess
        cases hsuccess
      · simp only [List.mem_singleton, ServerOut.reply.injEq] at hr
        rw [hr.2, Requestor.error_isSuccess] at hsuccess
        cases hsuccess
      · cases hr
      · cases hr
  | message msg =>
      have hm : s.message msg = (s', outs) := Option.some.inj h
      rcases s.message_cases msg with ⟨c', f, req, hf, hid, hreq, heq⟩ | ⟨-, hnone⟩
      · rw [heq] at hm
        cases hm
        simp only [List.mem_cons, ServerOut.reply.injEq, reduceCtorEq, List.not_mem_nil, or_false]
          at hr
        obtain ⟨rfl, rfl⟩ := hr
        exact ⟨msg, f, req, rfl, hf, hid, hreq, rfl⟩
      · rw [hm] at hnone
        exact absurd hr (hnone c r)
  | timeout cmdid =>
      obtain ⟨req, -, hfired⟩ := Option.map_eq_some_iff.mp h
      cases hfired
      simp only [List.mem_singleton, ServerOut.reply.injEq] at hr
      rw [hr.2, Requestor.error_isSuccess] at hsuccess
      cases hsuccess

/-! ## A registered request -/

/-- Ids not given out yet are used nowhere. -/
def Fresh (s : DoorServer) : Prop := ∀ c, s.cmdCounter ≤ c → s.sending c = none

/-- The request was registered under `c` and has not been resolved. -/
structure Registered (c : Int) (req : Request) (s : DoorServer) : Prop where
  pending : s.pending c = some req
  timer : s.timers c = some req
  sent : s.sending c = none
  issued : c < s.cmdCounter

section Steps

variable {s s' : DoorServer} {c : Int} {req : Request}

theorem fresh_init : init.Fresh := fun _ _ => rfl

/-- What each event does to the counter and the outstanding sends. -/
theorem step_sending {e : ServerEvent} (hs : step s e = some s') :
    (s'.cmdCounter = s.cmdCounter + 1
        ∧ ∃ req, s'.sending = Function.update s.sending s.cmdCounter (some req))
      ∨ s'.cmdCounter = s.cmdCounter
        ∧ (s'.sending = s.sending ∨ ∃ c, s'.sending = Function.update s.sending c none) := by
  obtain ⟨⟨s₁, outs⟩, h, rfl⟩ := Option.map_eq_some_iff.mp hs
  cases e with
  | sendCommand module target action =>
      cases h
      exact Or.inl ⟨rfl, _, rfl⟩
  | lockDoor moduleId =>
      cases h
      exact Or.inl ⟨rfl, _, rfl⟩
  | unlockDoor moduleId =>
      cases h
      exact Or.inl ⟨rfl, _, rfl⟩
  | getDoorInfo moduleId =>
      cases h
      exact Or.inl ⟨rfl, _, rfl⟩
  | sendDone cmdid err =>
      obtain ⟨req, -, hdone⟩ := Option.map_eq_some_iff.mp h
      right
      unfold sendDone at hdone
      split at hdone
      all_goals cases hdone
      all_goals exact ⟨rfl, Or.inr ⟨cmdid, rfl⟩⟩
  | message msg =>
      have hm : s.message msg = (s₁, outs) := Option.some.inj h
      right
      rcases s.message_cases msg with ⟨c, f, req, -, -, -, heq⟩ | ⟨hsame, -⟩
      · rw [heq] at hm
        cases hm
        exact ⟨rfl, Or.inl rfl⟩
      · rw [hm] at hsame
        rw [hsame]
        exact ⟨rfl, Or.inl rfl⟩
  | timeout cmdid =>
      obtain ⟨req, -, hfired⟩ := Option.map_eq_some_iff.mp h
      cases hfired
      exact Or.inr ⟨rfl, Or.inl rfl⟩

theorem fresh_step {e : ServerEvent} (h : s.Fresh) (hs : step s e = some s') : s'.Fresh := by
  intro c hc
  rcases step_sending hs with ⟨hcount, req, hsend⟩ | ⟨hcount, hsend | ⟨c', hsend⟩⟩
  · rw [hcount] at hc
    rw [hsend, Function.update_of_ne (by omega)]
    exact h c (by omega)
  · rw [hsend]
    exact h c (hcount ▸ hc)
  · rw [hsend]
    by_cases hcc : c = c'
    · rw [hcc, Function.update_self]
    · rw [Function.update_of_ne hcc]
      exact h c (hcount ▸ hc)

/-- Clearing another id. -/
theorem Registered.clear (h : Registered c req s) {c' : Int} (hne : c ≠ c') :
    Registered c req (s.clear c') :=
  ⟨(Function.update_of_ne hne ..).trans h.pending, (Function.update_of_ne hne ..).trans h.timer,
    h.sent, h.issued⟩

theorem Registered.register (h : Registered c req s) {c' : Int} (hne : c ≠ c') (req' : Request) :
    Registered c req (s.register c' req') :=
  ⟨(Function.update_of_ne hne ..).trans h.pending, (Function.update_of_ne hne ..).trans h.timer,
    h.sent, h.issued⟩

/-- The next request gets another id. -/
theorem Registered.request (h : Registered c req s) (req' : Request) :
    Registered c req { s with
      cmdCounter := s.cmdCounter + 1
      sending := Function.update s.sending s.cmdCounter (some req') } := by
  refine ⟨h.pending, h.timer, (Function.update_of_ne ?_ ..).trans h.sent, ?_⟩
  · exact Int.ne_of_lt h.issued
  · have := h.issued
    show c < s.cmdCounter + 1
    omega

theorem Registered.sendDone (h : Registered c req s) {c' : Int} {req' : Request}
    (hsend : s.sending c' = some req') (err : Option Text) :
    Registered c req (s.sendDone c' req' err).1 := by
  have hne : c ≠ c' := by
    rintro rfl
    rw [h.sent] at hsend
    cases hsend
  have hsent : Registered c req { s with sending := Function.update s.sending c' none } :=
    ⟨h.pending, h.timer, (Function.update_of_ne hne ..).trans h.sent, h.issued⟩
  unfold DoorServer.sendDone
  split
  · exact hsent.clear hne
  · exact hsent
  · exact hsent
  · exact hsent.register hne req'

/-- Until a FEEDBACK names its id, or its timer fires, it stays registered. -/
theorem Registered.step {e : ServerEvent} (h : Registered c req s)
    (hmsg : ∀ msg, e = .message msg → ¬Names msg c) (htime : e ≠ .timeout c)
    (hs : step s e = some s') : Registered c req s' := by
  obtain ⟨⟨s₁, outs⟩, hh, rfl⟩ := Option.map_eq_some_iff.mp hs
  cases e with
  | sendCommand module target action =>
      cases hh
      exact h.request _
  | lockDoor moduleId =>
      cases hh
      exact h.request _
  | unlockDoor moduleId =>
      cases hh
      exact h.request _
  | getDoorInfo moduleId =>
      cases hh
      exact (h.request _).register (Int.ne_of_lt h.issued) _
  | sendDone cmdid err =>
      obtain ⟨req', hsend, hdone⟩ := Option.map_eq_some_iff.mp hh
      have hreg := h.sendDone hsend err
      rw [hdone] at hreg
      exact hreg
  | message msg =>
      have hm : s.message msg = (s₁, outs) := Option.some.inj hh
      rcases s.message_cases msg with ⟨c', f, req', hf, hid, -, heq⟩ | ⟨hsame, -⟩
      · rw [heq] at hm
        cases hm
        refine h.clear ?_
        rintro rfl
        exact hmsg msg rfl ⟨f, hf, hid⟩
      · rw [hm] at hsame
        rw [hsame]
        exact h
  | timeout cmdid =>
      obtain ⟨req', -, hfired⟩ := Option.map_eq_some_iff.mp hh
      cases hfired
      refine h.clear ?_
      rintro rfl
      exact htime rfl

/-- The completion callback registers a request of `sendCommand`. -/
theorem registered_sendDone (hfresh : s.Fresh) (hsend : s.sending c = some req)
    (hreq : req.requestor ≠ .doorInfo) (hs : DoorServer.step s (.sendDone c none) = some s') :
    Registered c req s' := by
  have hissued : c < s.cmdCounter := by
    by_contra hge
    rw [hfresh c (Int.not_lt.mp hge)] at hsend
    cases hsend
  obtain ⟨⟨s₁, outs⟩, hh, rfl⟩ := Option.map_eq_some_iff.mp hs
  obtain ⟨req', hsend', hdone⟩ := Option.map_eq_some_iff.mp hh
  obtain rfl := Option.some.inj (hsend.symm.trans hsend')
  unfold DoorServer.sendDone at hdone
  split at hdone
  · cases ‹none = some _›
  · cases ‹none = some _›
  · exact absurd ‹req.requestor = _› hreq
  · cases hdone
    exact ⟨Function.update_self .., Function.update_self .., Function.update_self .., hissued⟩

end Steps

theorem fresh_run {es : List ServerEvent} {s : DoorServer} (hr : Lts.run step init es = some s) :
    s.Fresh :=
  Lts.inv_run_of_step (fun _ _ _ h hs => fresh_step h hs) fresh_init hr

theorem registered_run {es : List ServerEvent} {s s' : DoorServer} {c : Int} {req : Request}
    (h : Registered c req s) (hmsg : ∀ msg, .message msg ∈ es → ¬Names msg c)
    (htime : .timeout c ∉ es) (hr : Lts.run step s es = some s') : Registered c req s' := by
  induction es generalizing s with
  | nil =>
      obtain rfl := Option.some.inj hr
      exact h
  | cons e es ih =>
      obtain ⟨s₁, hs, hrest⟩ := Lts.run_cons_eq_some.mp hr
      have hstep := h.step (fun msg he => hmsg msg (he ▸ List.mem_cons_self ..))
        (fun he => htime (he ▸ List.mem_cons_self ..)) hs
      exact ih hstep (fun msg hm => hmsg msg (List.mem_cons_of_mem _ hm))
        (fun hm => htime (List.mem_cons_of_mem _ hm)) hrest

/-! ## Correlation -/

/-- Success only comes from a FEEDBACK naming the request's id; and the first
one after the request was registered and before its timeout resolves it. -/
theorem answersCorrelated {before : List ServerEvent} {s : DoorServer}
    (hr : Lts.run step init before = some s) :
    (∀ e s' outs c r, s.handle e = some (s', outs) → .reply c r ∈ outs → r.isSuccess = true →
        ∃ msg req, e = .message msg ∧ Names msg c ∧ s.pending c = some req)
      ∧ ∀ c req after s₁ s₂ msg, s.sending c = some req → req.requestor ≠ .doorInfo →
        step s (.sendDone c none) = some s₁ → Lts.run step s₁ after = some s₂ →
        (∀ m, .message m ∈ after → ¬Names m c) → .timeout c ∉ after → Names msg c →
        ∃ s₃ outs r, s₂.handle (.message msg) = some (s₃, outs) ∧ .reply c r ∈ outs
          ∧ r.isSuccess = true ∧ s₃.pending c = none ∧ s₃.timers c = none := by
  refine ⟨fun e s' outs c r h hrep hsuccess => ?_, ?_⟩
  · obtain ⟨msg, f, req, he, hf, hid, hpend, -⟩ := reply_isSuccess h hrep hsuccess
    exact ⟨msg, req, he, ⟨f, hf, hid⟩, hpend⟩
  · rintro c req after s₁ s₂ msg hsend hreq hdone hafter hmsg htime ⟨f, hf, hid⟩
    have hreg := registered_run (registered_sendDone (fresh_run hr) hsend hreq hdone) hmsg htime
      hafter
    refine ⟨s₂.clear c, _, req.requestor.feedback f,
      congrArg some (message_of_pending hf hid hreg.pending), List.mem_cons_self ..,
      Requestor.feedback_isSuccess f _, Function.update_self .., Function.update_self ..⟩

/-- A lock request for `D1` whose datagram is out. -/
def lockRequest : List ServerEvent := [.lockDoor "D1".toList]

def lockAnswer (module : Text) : Text := feedbackLine module 1 "D0".toList "LOCK".toList

/-- Another module's FEEDBACK 7 comes in between; FEEDBACK 1 resolves request 1. -/
theorem answersCorrelated_lock : ∃ s s₁ s₂ s₃ outs r,
    Lts.run step init lockRequest = some s ∧ step s (.sendDone 1 none) = some s₁
      ∧ Lts.run step s₁ [.message (feedbackLine "D2".toList 7 "D0".toList "LOCK".toList)] = some s₂
      ∧ s₂.handle (.message (lockAnswer "D1".toList)) = some (s₃, outs)
      ∧ .reply 1 r ∈ outs ∧ r.isSuccess = true := by
  obtain ⟨s, hs⟩ : ∃ s, Lts.run step init lockRequest = some s := ⟨_, rfl⟩
  have hsend : s.sending 1 = some ⟨"D1".toList, .lockDoor "D1".toList⟩ := by
    have hrun : (Lts.run step init lockRequest).map (fun s => s.sending 1)
        = some (some ⟨"D1".toList, .lockDoor "D1".toList⟩) := by
      decide +kernel
    rw [hs] at hrun
    exact Option.some.inj hrun
  have hdone : step s (.sendDone 1 none)
      = some (s.sendDone 1 ⟨"D1".toList, .lockDoor "D1".toList⟩ none).1 := by
    unfold step handle
    dsimp only
    rw [hsend]
    rfl
  have hother : ∀ m, .message m ∈ [ServerEvent.message
      (feedbackLine "D2".toList 7 "D0".toList "LOCK".toList)] → ¬Names m 1 := by
    intro m hm
    obtain rfl := ServerEvent.message.inj (List.mem_singleton.mp hm)
    rintro ⟨f, hf, hid⟩
    have hseven : (feedbackMessage (feedbackLine "D2".toList 7 "D0".toList "LOCK".toList)).map
        FeedbackMessage.cmdid = some (some 7) := by
      decide +kernel
    rw [show feedbackMessage _ = some f from hf, Option.map_some, hid] at hseven
    cases hseven
  have hnames : Names (lockAnswer "D1".toList) 1 := by
    have hone : (feedbackMessage (lockAnswer "D1".toList)).map FeedbackMessage.cmdid
        = some (some 1) := by
      decide +kernel
    obtain ⟨f, hf, hid⟩ := Option.map_eq_some_iff.mp hone
    exact ⟨f, hf, hid⟩
  obtain ⟨s₃, outs, r, hh, hrep, hsuccess, -⟩ := (answersCorrelated hs).2 1 _ _ _ _ _ hsend nofun
    hdone rfl hother (by simp) hnames
  exact ⟨s, _, _, s₃, outs, r, hs, hdone, rfl, hh, hrep, hsuccess⟩

/-- FEEDBACK 1 of `D2` resolves request 1, which was for `D1`. -/
theorem answersCorrelated_otherModule :
    ¬∀ (es : List ServerEvent) (s : DoorServer), Lts.run step init es = some s →
      ∀ msg s' outs c r req f, s.handle (.message msg) = some (s', outs) → .reply c r ∈ outs →
        r.isSuccess = true → s.pending c = some req → feedbackMessage msg = some f →
        f.module = req.module := by
  intro hall
  have hrun : (Lts.run step init (lockRequest ++ [.sendDone 1 none])).map (fun s => s.pending 1)
      = some (some ⟨"D1".toList, .lockDoor "D1".toList⟩) := by
    decide +kernel
  obtain ⟨s, hs, hpend⟩ := Option.map_eq_some_iff.mp hrun
  have hone : (feedbackMessage (lockAnswer "D2".toList)).map (fun f => (f.cmdid, f.module))
      = some (some 1, "D2".toList) := by
    decide +kernel
  obtain ⟨f, hf, hboth⟩ := Option.map_eq_some_iff.mp hone
  obtain ⟨hid, hmod⟩ := Prod.mk.inj hboth
  have heq := hall _ s hs _ _ _ 1 _ _ f (congrArg some (message_of_pending hf hid hpend))
    (List.mem_cons_self ..) rfl hpend hf
  rw [hmod] at heq
  exact absurd heq (by decide)

end DoorServer

end HomeSecurity
