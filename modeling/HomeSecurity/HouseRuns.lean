import HomeSecurity.HouseParties

/-!
# What a page shows and what moves a bolt

In every run of the house, whatever the network does. `told_run`: what a page shows of a
door was so when that door once answered STATUS. `moved_run`: a datagram moves a bolt only
for a LOCK or an UNLOCK that was asked for. `unlockAsked_run`: a page asks for UNLOCK only
after an answer that the bolt is out.
-/

namespace HomeSecurity

open CText JsText StepperMotor

namespace House

attribute [local instance] neZeroDoors

variable {κ : Type} [DecidableEq κ] {cfg : HouseConfig} {k k' : Known} {i : Fin 3}

/-- Door `i` is about to answer STATUS, and will read `env`. -/
def answersStatus (i : Fin 3) (env : Env) (s : House κ) : HouseEvent κ → Prop
  | .deliver n env' _ _ =>
      env' = env ∧ ∃ p, s.sent[n]? = some p ∧ p.dst = .door i ∧ (s.doors i).udp.sockOpen = true
        ∧ ∃ cmd, ((s.doors i).udp.doorCmdThread p.bytes).1 = some cmd
          ∧ cmd.action = "STATUS".toList
  | _ => False

/-- Somebody is about to ask for `action` at door `i`: a click on a page, or a command
posted to the HTTP API. -/
def asks (i : Fin 3) (action : Text) (s : House κ) : HouseEvent κ → Prop
  | .site (.act j (.click d)) =>
      ⟨doorId i, "D0".toList, action⟩ ∈ (s.site.pages j).toggleDoor d
  | .post module _ action' => module = doorId i ∧ action' = action
  | _ => False

/-- What is posted is one of the three commands, in printable words. -/
def Documented : HouseEvent κ → Prop
  | .post module target action => IsGraphic module ∧ IsGraphic target ∧ action ∈ commandWords
  | _ => True

structure Ok (cfg : HouseConfig) (k : Known) (s : House κ) : Prop where
  site : SiteTold k s.site
  calls : ∀ c ∈ s.calls, CallTold k c
  doors : ∀ i, Named i (s.doors i).udp
  sent : ∀ p ∈ s.sent, Sent cfg k s.site.server.cmdCounter p

omit [DecidableEq κ] in
theorem Ok.mono (hle : k.Le k') {s : House κ} (h : Ok cfg k s) : Ok cfg k' s where
  site := h.site.mono hle
  calls c hc :=
    have hcall := h.calls c hc
    ⟨hcall.module, hcall.target, hcall.action, fun hne i hi =>
      hle.asked _ _ (hcall.asked hne i hi)⟩
  doors := h.doors
  sent p hp := (h.sent p hp).mono hle (Int.le_refl _)

omit [DecidableEq κ] in
theorem Ok.updateDoor {s : House κ} (h : Ok cfg k s) (i : Fin 3) {r : DoorMod × List DoorSend}
    (hnamed : Named i r.1.udp) (hsends : ∀ send ∈ r.2, FromDoor k i send.line.text) :
    Ok cfg k (s.updateDoor cfg i r) := by
  refine ⟨h.site, h.calls, fun j => ?_, fun p hp => ?_⟩
  · by_cases hj : j = i
    · subst hj
      simp only [House.updateDoor, Function.update_self]
      exact hnamed
    · simp only [House.updateDoor, Function.update_of_ne hj]
      exact h.doors j
  · rcases List.mem_append.mp hp with hp | hp
    · exact h.sent p hp
    · obtain ⟨send, hsend, rfl⟩ := List.mem_map.mp hp
      exact .door rfl rfl (hsends send hsend)

/-- The arrival of a datagram. -/
theorem Ok.arrive {s : House κ} (h : Ok cfg k s) {p : Packet} (hp : p ∈ s.sent) (env : Env)
    (t issued : Int)
    (hsaid : ∀ i cmd, p.dst = .door i → (s.doors i).udp.sockOpen = true →
      ((s.doors i).udp.doorCmdThread p.bytes).1 = some cmd → cmd.action = "STATUS".toList →
      k.said i ((s.doors i).getDoorStatus ⟨.unknown, 0⟩ env).door.state) :
    Ok cfg k (s.arrive cfg p env t issued) := by
  have hpacket := h.sent p hp
  unfold House.arrive
  split
  · -- at the hub
    refine ⟨h.site, h.calls, h.doors, fun q hq => ?_⟩
    rcases List.mem_append.mp hq with hq | hq
    · exact h.sent q hq
    · obtain ⟨o, ho, hq⟩ := List.mem_filterMap.mp hq
      have hheard : ToHub k (Datagram.mk p.src p.bytes t issued).bytes := hpacket.toHub
      exact .hub (hubPacket_dst hq) (hubPacket_line hheard ho hq)
  · rename_i i hdst
    split
    · rename_i hopen
      have hnamed := h.doors i
      exact h.updateDoor i (hnamed.listen p.bytes env) (listen_fromDoor (hnamed hopen)
        (hpacket.line (by rw [hdst]; nofun)) env fun cmd => hsaid i cmd hdst hopen)
    · exact h
  · rename_i hdst
    have hweb := hpacket.line (by rw [hdst]; nofun)
    have hcount := message_cmdCounter s.site.server p.bytes
    refine ⟨h.site.emit (Int.le_of_eq hcount.symm) (heard_message hweb _ _), h.calls, h.doors, ?_⟩
    exact fun q hq => (h.sent q hq).mono ⟨fun _ _ h => h, fun _ _ h => h⟩ (Int.le_of_eq hcount.symm)
  · exact h

theorem step_site {s s' : House κ} {e : WebSiteEvent κ} (hs : step cfg s (.site e) = some s') :
    (∀ msg, e ≠ .message msg) ∧ ∃ site, WebSite.step s.site e = some site
      ∧ s' = { s with
        site
        sent := s.sent ++ (s.site.datagrams e).map fun b => ⟨cfg.webAddr, .hub, b⟩ } := by
  cases e with
  | message msg => cases hs
  | _ =>
      obtain ⟨site, hsite, rfl⟩ := Option.map_eq_some_iff.mp hs
      exact ⟨nofun, site, hsite, rfl⟩

/-- One step, by which more may be known. -/
theorem Ok.step {s s' : House κ} {e : HouseEvent κ} (h : Ok cfg k s) (hle : k.Le k')
    (hs : step cfg s e = some s') (hdoc : Documented e)
    (hasks : ∀ i action, asks i action s e → k'.asked i action)
    (hanswers : ∀ i env, answersStatus i env s e →
      k'.said i ((s.doors i).getDoorStatus ⟨.unknown, 0⟩ env).door.state) : Ok cfg k' s' := by
  replace h := h.mono hle
  cases e with
  | site e =>
      obtain ⟨hmessage, site, hsite, rfl⟩ := step_site hs
      have hcount := cmdCounter_le hsite
      obtain ⟨htold, hlines⟩ := @SiteTold.step _ _ cfg _ _ _ h.site _ hsite hmessage
        fun j d hclick c hc => by
        subst hclick
        refine hasks d c.action ?_
        obtain ⟨hmodule, htarget⟩ := mem_toggleDoor hc
        show ⟨doorId d, "D0".toList, c.action⟩ ∈ (s.site.pages j).toggleDoor d
        rw [← hmodule, ← htarget]
        exact hc
      refine ⟨htold, h.calls, h.doors, fun p hp => ?_⟩
      rcases List.mem_append.mp hp with hp | hp
      · exact (h.sent p hp).mono ⟨fun _ _ h => h, fun _ _ h => h⟩ hcount
      · obtain ⟨b, hb, rfl⟩ := List.mem_map.mp hp
        exact hlines b hb
  | post module target action =>
      obtain rfl := Option.some.inj hs
      obtain ⟨hmodule, htarget, haction⟩ := hdoc
      split
      · rename_i r hr
        obtain ⟨-, -, hmod, htgt, hact, -⟩ := Hub.hubUdpSendCommand_eq_some hr
        refine ⟨h.site, fun c hc => ?_, h.doors, h.sent⟩
        rcases List.mem_append.mp hc with hc | hc
        · exact h.calls c hc
        · rw [List.mem_singleton.mp hc]
          refine ⟨hmod ▸ hmodule, htgt ▸ htarget, hact ▸ haction, fun _ i hi => ?_⟩
          rw [hact]
          exact hasks i action ⟨hmod.symm.trans hi, rfl⟩
      · exact h
  | transmit n ok =>
      obtain ⟨c, hc, hsome⟩ := Option.bind_eq_some_iff.mp hs
      obtain ⟨r, hr, rfl⟩ := Option.map_eq_some_iff.mp hsome
      have hcall := h.calls c (List.mem_of_getElem? hc)
      refine ⟨h.site, fun c' hc' => ?_, h.doors, fun p hp => ?_⟩
      · rcases List.mem_or_eq_of_mem_set hc' with hc' | rfl
        · exact h.calls c' hc'
        · exact hcall.continues (SendCall.transmit_eq_some hr).1
      · rcases List.mem_append.mp hp with hp | hp
        · exact h.sent p hp
        · obtain ⟨o, ho, rfl⟩ := List.mem_map.mp hp
          exact .hub (receiver_ne_hub o.1) (hcall.transmit hr o ho)
  | wake n timedOut =>
      obtain ⟨c, hc, hsome⟩ := Option.bind_eq_some_iff.mp hs
      obtain ⟨c', hwake, rfl⟩ := Option.map_eq_some_iff.mp hsome
      refine ⟨h.site, fun c'' hc'' => ?_, h.doors, h.sent⟩
      rcases List.mem_or_eq_of_mem_set hc'' with hc'' | rfl
      · exact h.calls c'' hc''
      · exact (h.calls c (List.mem_of_getElem? hc)).continues (SendCall.wake_eq_some hwake).1
  | check now =>
      obtain rfl := Option.some.inj hs
      exact ⟨h.site, h.calls, h.doors, h.sent⟩
  | door i c =>
      obtain rfl := Option.some.inj hs
      obtain ⟨hnamed, hsends⟩ := (h.doors i).act (k := k') c
      exact h.updateDoor i hnamed hsends
  | deliver n env t issued =>
      obtain ⟨p, hp, rfl⟩ := Option.map_eq_some_iff.mp hs
      exact h.arrive (List.mem_of_getElem? hp) env t issued fun i cmd hdst hopen hcmd hstatus =>
        hanswers i env ⟨rfl, p, hp, hdst, hopen, cmd, hcmd, hstatus⟩

section Runs

variable (cfg) (webhookUrl : Text) (positions : Fin 3 → Fin stepsPerRev)

/-- What the steps of a run let be known. -/
def known (es : List (HouseEvent κ)) : Known where
  asked i action := Lts.Happened (step cfg) (init webhookUrl positions) es (asks i action)
  said i st := Lts.Happened (step cfg) (init webhookUrl positions) es fun s e =>
    ∃ env, answersStatus i env s e ∧ ((s.doors i).getDoorStatus ⟨.unknown, 0⟩ env).door.state = st

theorem known_append (es : List (HouseEvent κ)) (e : HouseEvent κ) :
    (known cfg webhookUrl positions es).Le (known cfg webhookUrl positions (es ++ [e])) :=
  ⟨fun _ _ h => h.append [e], fun _ _ h => h.append [e]⟩

theorem ok_init : Ok cfg (known cfg webhookUrl positions ([] : List (HouseEvent κ)))
    (init webhookUrl positions : House κ) where
  site := ⟨Int.le_refl 1, fun _ => ⟨fun _ => ⟨nofun, nofun⟩, nofun⟩, nofun, nofun⟩
  calls := nofun
  doors _ := nofun
  sent := nofun

variable {cfg webhookUrl positions}

theorem ok_run {es : List (HouseEvent κ)} {s : House κ} (hdoc : ∀ e ∈ es, Documented e)
    (hr : Lts.run (step cfg) (init webhookUrl positions) es = some s) :
    Ok cfg (known cfg webhookUrl positions es) s := by
  refine Lts.inv_run_history (I := fun es s => (∀ e ∈ es, Documented e) →
    Ok cfg (known cfg webhookUrl positions es) s) ?_ ?_ hr hdoc
  · exact fun _ => ok_init cfg webhookUrl positions
  intro es s e s' hr h hs hdoc
  exact (h fun e he => hdoc e (List.mem_append_left _ he)).step
    (known_append cfg webhookUrl positions es e) hs
    (hdoc e (List.mem_append_right _ (List.mem_singleton_self e)))
    (fun i action hasks => Lts.happened_last hr hasks)
    (fun i env hanswers => Lts.happened_last hr ⟨env, hanswers, rfl⟩)

/-! ### What a page shows -/

/-- The lock's flag is the position of the bolt. -/
theorem lock_of_status {s : DoorMod} {env : Env} {b : Bool}
    (h : (statusEffects (stateStr (s.getDoorStatus ⟨.unknown, 0⟩ env).door.state)).lock
      = .set (some b)) :
    b = true ↔ getPosition s.position = stepperLockedPosition := by
  unfold DoorMod.getDoorStatus at h
  split at h
  · rename_i hpos
    cases h
    exact iff_of_true rfl hpos
  · rename_i hpos
    split at h
    · cases h
      exact iff_of_false Bool.false_ne_true hpos
    · split at h
      · cases h
      · split at h <;> cases h

/-- The door's flag is what was measured, but with the bolt out. -/
theorem door_of_status {s : DoorMod} {env : Env} {b : Bool}
    (h : (statusEffects (stateStr (s.getDoorStatus ⟨.unknown, 0⟩ env).door.state)).door
      = .set (some b)) :
    if b then getPosition s.position ≠ stepperLockedPosition
        ∧ env.distance ≥ doorClosedThresholdCm
      else getPosition s.position = stepperLockedPosition
        ∨ env.distance < doorClosedThresholdCm ∧ env.distance ≠ -1 := by
  unfold DoorMod.getDoorStatus at h
  split at h
  · rename_i hpos
    cases h
    exact Or.inl hpos
  · rename_i hpos
    split at h
    · rename_i hclosed
      cases h
      exact Or.inr hclosed
    · split at h
      · cases h
      · split at h
        · rename_i hopen
          cases h
          exact ⟨hpos, hopen⟩
        · cases h

/-- In every run in which only documented commands are posted, whatever is lost, delayed,
reordered or duplicated: what a page shows of a lock, the bolt's position was when that
door once answered STATUS; and what it shows of a door was measured then, or is "closed"
because the bolt was out. -/
theorem told_run {es : List (HouseEvent κ)} {s : House κ} (hdoc : ∀ e ∈ es, Documented e)
    (hr : Lts.run (step cfg) (init webhookUrl positions) es = some s) (j : κ) (i : Fin 3) :
    (∀ b, ((s.site.pages j).rows i).entry.lockLocked = some b →
      Lts.Happened (step cfg) (init webhookUrl positions) es fun m e =>
        ∃ env, answersStatus i env m e
          ∧ (b = true ↔ getPosition (m.doors i).position = stepperLockedPosition))
    ∧ ∀ b, ((s.site.pages j).rows i).entry.doorOpen = some b →
      Lts.Happened (step cfg) (init webhookUrl positions) es fun m e =>
        ∃ env, answersStatus i env m e
          ∧ if b then getPosition (m.doors i).position ≠ stepperLockedPosition
              ∧ env.distance ≥ doorClosedThresholdCm
            else getPosition (m.doors i).position = stepperLockedPosition
              ∨ env.distance < doorClosedThresholdCm ∧ env.distance ≠ -1 := by
  have htold := ((ok_run hdoc hr).site.pages j).rows i
  constructor
  · intro b hb
    obtain ⟨st, hsaid, hset⟩ := htold.lock b hb
    refine hsaid.imp fun m e ⟨env, hanswers, hstate⟩ => ⟨env, hanswers, ?_⟩
    subst hstate
    exact lock_of_status hset
  · intro b hb
    obtain ⟨st, hsaid, hset⟩ := htold.door b hb
    refine hsaid.imp fun m e ⟨env, hanswers, hstate⟩ => ⟨env, hanswers, ?_⟩
    subst hstate
    exact door_of_status hset

/-- D1 with its bolt out; a page asks for the states and is told. -/
def lockedShown : List (HouseEvent Unit) :=
  [.door 0 (.start 1000 5 5 true), .deliver 0 (reading 5) 10 10, .site (.act () .requestAll),
    .site (.receive ()), .site (.sendDone 1 none), .deliver 1 (reading 5) 20 20,
    .deliver 2 (reading 5) 30 30, .deliver 4 (reading 5) 40 40, .deliver 5 (reading 5) 50 50,
    .site (.deliver ()), .site (.deliver ())]

def houseAddresses : HouseConfig := ⟨⟨1, 12345⟩, ⟨2, 50000⟩, fun i => ⟨10 + i.val, 40000⟩⟩

theorem told_run_locked : Lts.Happened (step houseAddresses) (init [] fun _ => 2048) lockedShown
    fun m e => ∃ env, answersStatus 0 env m e
      ∧ (true = true ↔ getPosition (m.doors 0).position = stepperLockedPosition) := by
  have hentry : (Lts.run (step houseAddresses) (init [] fun _ => 2048) lockedShown).map
      (fun s => ((s.site.pages ()).rows 0).entry) = some ⟨some false, some true⟩ := by
    decide +kernel
  obtain ⟨s, hr, hs⟩ := Option.map_eq_some_iff.mp hentry
  have hdoc : ∀ e ∈ lockedShown, Documented e := by simp [lockedShown, Documented]
  exact (told_run hdoc hr () 0).1 true (congrArg DoorEntry.lockLocked hs)

/-! ### What moves a bolt -/

/-- LOCK and UNLOCK are not what is left of another command. -/
theorem commandWord_eq {w a : Text} (hw : w ∈ commandWords)
    (ha : a = "LOCK".toList ∨ a = "UNLOCK".toList) (h : a <+: w) : w = a := by
  have hall : ∀ w ∈ commandWords, ∀ a ∈ ["LOCK".toList, "UNLOCK".toList], a <+: w → w = a := by
    decide
  exact hall w hw a (by simpa using ha) h

/-- A datagram moves the bolt of the door whose listener takes it. -/
theorem arrive_moves {s : House κ} {p : Packet} {env : Env} {t issued : Int} {i : Fin 3}
    (hmoved : ((s.arrive cfg p env t issued).doors i).position ≠ (s.doors i).position) :
    p.dst = .door i ∧ (s.doors i).udp.sockOpen = true
      ∧ ((s.doors i).listen p.bytes env).1.position ≠ (s.doors i).position := by
  unfold House.arrive at hmoved
  split at hmoved
  · exact absurd rfl hmoved
  · rename_i d hdst
    split at hmoved
    · rename_i hopen
      by_cases hd : i = d
      · subst hd
        simp only [House.updateDoor, Function.update_self] at hmoved
        exact ⟨hdst, hopen, hmoved⟩
      · simp only [House.updateDoor, Function.update_of_ne hd] at hmoved
        exact absurd rfl hmoved
    · exact absurd rfl hmoved
  · exact absurd rfl hmoved
  · exact absurd rfl hmoved

/-- No other step than these moves a bolt. -/
theorem step_moves {s s' : House κ} {e : HouseEvent κ} (hs : step cfg s e = some s') {i : Fin 3}
    (hmoved : (s'.doors i).position ≠ (s.doors i).position) :
    (∃ c, e = .door i c) ∨ ∃ n env t issued p, e = .deliver n env t issued ∧ p ∈ s.sent
      ∧ p.dst = .door i ∧ (s.doors i).udp.sockOpen = true
      ∧ ((s.doors i).listen p.bytes env).1.position ≠ (s.doors i).position := by
  have hsame : s'.doors = s.doors → False := fun h => hmoved (by rw [h])
  cases e with
  | site e =>
      obtain ⟨-, site, -, rfl⟩ := step_site hs
      exact (hsame rfl).elim
  | post module target action =>
      obtain rfl := Option.some.inj hs
      refine (hsame ?_).elim
      split <;> rfl
  | transmit n ok =>
      obtain ⟨c, -, hsome⟩ := Option.bind_eq_some_iff.mp hs
      obtain ⟨r, -, rfl⟩ := Option.map_eq_some_iff.mp hsome
      exact (hsame rfl).elim
  | wake n timedOut =>
      obtain ⟨c, -, hsome⟩ := Option.bind_eq_some_iff.mp hs
      obtain ⟨c', -, rfl⟩ := Option.map_eq_some_iff.mp hsome
      exact (hsame rfl).elim
  | check now =>
      obtain rfl := Option.some.inj hs
      exact (hsame rfl).elim
  | door d c =>
      obtain rfl := Option.some.inj hs
      by_cases hd : i = d
      · exact Or.inl ⟨c, by rw [hd]⟩
      · simp only [House.updateDoor, Function.update_of_ne hd] at hmoved
        exact absurd rfl hmoved
  | deliver n env t issued =>
      obtain ⟨p, hp, rfl⟩ := Option.map_eq_some_iff.mp hs
      exact Or.inr ⟨n, env, t, issued, p, rfl, List.mem_of_getElem? hp, arrive_moves hmoved⟩

/-- In every such run, only the door's own console and the arrival of a datagram move a
bolt, and the datagram only for a LOCK or an UNLOCK that was asked for at this door; for a
LOCK the door is measured closed. -/
theorem moved_run {es : List (HouseEvent κ)} {s s' : House κ} (hdoc : ∀ e ∈ es, Documented e)
    (hr : Lts.run (step cfg) (init webhookUrl positions) es = some s) {e : HouseEvent κ}
    (hs : step cfg s e = some s') {i : Fin 3}
    (hmoved : (s'.doors i).position ≠ (s.doors i).position) :
    (∃ c, e = .door i c) ∨ ∃ n env t issued, e = .deliver n env t issued
      ∧ ((s.doors i).Locks env
          ∧ Lts.Happened (step cfg) (init webhookUrl positions) es (asks i "LOCK".toList)
        ∨ (s.doors i).Unlocks
          ∧ Lts.Happened (step cfg) (init webhookUrl positions) es (asks i "UNLOCK".toList)) := by
  rcases step_moves hs hmoved with hconsole | ⟨n, env, t, issued, p, rfl, hp, hdst, hopen, hmoves⟩
  · exact Or.inl hconsole
  · refine Or.inr ⟨n, env, t, issued, rfl, ?_⟩
    have hok := ok_run hdoc hr
    obtain ⟨cmd, hcmd, haction⟩ := listen_moves hmoves
    obtain ⟨-, cs, rest, htok, hmodule, -⟩ := DoorUdp.doorCmdThread_eq_some_iff.mp hcmd
    have hline := (hok.sent p hp).line (by rw [hdst]; nofun)
    rw [hok.doors i hopen] at htok
    obtain ⟨-, w, hw, hprefix, hasked⟩ := hline.of_command htok
    rcases haction with ⟨hlock, hlocks⟩ | ⟨hunlock, hunlocks⟩
    · obtain rfl := commandWord_eq hw (Or.inl hlock) hprefix
      rw [hlock] at hasked
      exact Or.inl ⟨hlocks, hasked (by decide) i rfl⟩
    · obtain rfl := commandWord_eq hw (Or.inr hunlock) hprefix
      rw [hunlock] at hasked
      exact Or.inr ⟨hunlocks, hasked (by decide) i rfl⟩

/-- D1 with its bolt out; UNLOCK is posted and sent, and is on its way. -/
def unlockPosted : List (HouseEvent Unit) :=
  [.door 0 (.start 1000 5 5 true), .deliver 0 (reading 5) 10 10,
    .post (doorId 0) "D0".toList "UNLOCK".toList, .transmit 0 true]

theorem moved_run_unlockPosted : Lts.Happened (step houseAddresses) (init [] fun _ => 2048)
    unlockPosted (asks 0 "UNLOCK".toList) := by
  have hmoved : (Lts.run (step houseAddresses) (init [] fun _ => 2048) unlockPosted).bind
      (fun s => (step houseAddresses s (.deliver 1 (reading 5) 20 20)).map fun s' =>
        (getPosition (s.doors 0).position, getPosition (s'.doors 0).position)) = some (180, 0) := by
    decide +kernel
  obtain ⟨s, hr, hstep⟩ := Option.bind_eq_some_iff.mp hmoved
  obtain ⟨s', hs, hpositions⟩ := Option.map_eq_some_iff.mp hstep
  obtain ⟨hbefore, hafter⟩ := Prod.mk.inj hpositions
  have hdoc : ∀ e ∈ unlockPosted, Documented e := by
    simp only [unlockPosted, List.forall_mem_cons, Documented]
    exact ⟨trivial, trivial, ⟨isGraphic_doorId 0, isGraphic_D0, by simp [commandWords]⟩, trivial,
      nofun⟩
  have hne : (s'.doors 0).position ≠ (s.doors 0).position := fun h => by
    rw [h, hbefore] at hafter
    exact absurd hafter (by decide)
  rcases moved_run hdoc hr hs hne with ⟨c, hc⟩ | ⟨n, env, t, issued, -, ⟨hlocks, -⟩ | ⟨-, hasked⟩⟩
  · cases hc
  · exact absurd hbefore hlocks.1
  · exact hasked

/-- A click asks for UNLOCK where the page shows the door locked. -/
theorem locked_of_asked {p : Page} {d : Fin 3}
    (h : ⟨doorId i, "D0".toList, "UNLOCK".toList⟩ ∈ p.toggleDoor d) :
    d = i ∧ (p.rows i).entry.lockLocked = some true := by
  have hd := doorId_injective (mem_toggleDoor h).1
  subst hd
  simp only [Page.toggleDoor] at h
  split at h
  · cases h
  · have haction := congrArg SendCommand.action (List.mem_singleton.mp h)
    dsimp only at haction
    split at haction
    · exact ⟨rfl, ‹_›⟩
    · exact absurd haction (by decide)

/-- In every such run, UNLOCK is asked for on a page only after that door has answered
STATUS with its bolt out. -/
theorem unlockAsked_run {es : List (HouseEvent κ)} {s : House κ} (hdoc : ∀ e ∈ es, Documented e)
    (hr : Lts.run (step cfg) (init webhookUrl positions) es = some s) {e : HouseEvent κ} {i : Fin 3}
    (hasks : asks i "UNLOCK".toList s e) :
    (∃ target, e = .post (doorId i) target "UNLOCK".toList)
      ∨ Lts.Happened (step cfg) (init webhookUrl positions) es fun m e =>
        (∃ env, answersStatus i env m e)
          ∧ getPosition (m.doors i).position = stepperLockedPosition := by
  cases e with
  | post module target action =>
      obtain ⟨rfl, rfl⟩ := hasks
      exact Or.inl ⟨target, rfl⟩
  | site e =>
      cases e with
      | act j a =>
          cases a with
          | click d =>
              obtain ⟨-, hlocked⟩ := locked_of_asked hasks
              obtain ⟨st, hsaid, hset⟩ := (((ok_run hdoc hr).site.pages j).rows i).lock true hlocked
              refine Or.inr (hsaid.imp fun m e ⟨env, hanswers, hstate⟩ => ⟨⟨env, hanswers⟩, ?_⟩)
              subst hstate
              exact (lock_of_status hset).mp rfl
          | _ => exact hasks.elim
      | _ => exact hasks.elim
  | _ => exact hasks.elim

theorem unlockAsked_run_locked : Lts.Happened (step houseAddresses) (init [] fun _ => 2048)
    lockedShown fun m e => (∃ env, answersStatus 0 env m e)
      ∧ getPosition (m.doors 0).position = stepperLockedPosition := by
  have hbutton : (Lts.run (step houseAddresses) (init [] fun _ => 2048) lockedShown).map
      (fun s => (s.site.pages ()).toggleDoor 0) = some [⟨doorId 0, "D0".toList, "UNLOCK".toList⟩] := by
    decide +kernel
  obtain ⟨s, hr, hs⟩ := Option.map_eq_some_iff.mp hbutton
  have hdoc : ∀ e ∈ lockedShown, Documented e := by simp [lockedShown, Documented]
  have hasks : asks 0 "UNLOCK".toList s (.site (.act () (.click 0))) := by
    show _ ∈ (s.site.pages ()).toggleDoor 0
    rw [hs]
    exact List.mem_singleton_self _
  rcases unlockAsked_run hdoc hr hasks with ⟨target, hpost⟩ | hlocked
  · cases hpost
  · exact hlocked

end Runs

end House

end HomeSecurity
