import HomeSecurity.Site

/-!
# Answers and their issuers

Both the hub and the web server number their commands from 1, and the pending
table is keyed by module and id alone. `answersDoNotCross` says in which runs
every answer relayed to the web server answers one of its own commands: those in
which no command of the web server still waits under the id of a hub command
when the door's answer to that is handled.
-/

namespace HomeSecurity

open CText

namespace Site

/-- Every FEEDBACK relayed to the web server answers one of its COMMANDs. -/
def NoCross (cfg : Config) (s : State) : Prop :=
  ∀ r ∈ s.relayed, r.1 = cfg.webAddr → ∃ c, r.2 = .web c

def Origin.isHubCall : Origin → Bool
  | .hubCall _ => true
  | _ => false

/-- When the door's answer to a command of the hub is handled, no slot holds
its module and id. -/
def Uncontested (s : State) : Label → Prop
  | .deliver k _ t issued =>
      ∀ p ∈ s.flight[k]?, p.dst = .hub → p.origin.isHubCall = true →
        ∀ key ∈ Hub.lookedUp (s.hub.pendingOp ⟨p.src, p.bytes, t, issued⟩),
          ∀ i, ¬s.hub.pendingCmds.Pends i key.1 key.2
  | _ => True

instance (s : State) : (l : Label) → Decidable (Uncontested s l)
  | .deliver k _ t issued => inferInstanceAs (Decidable (∀ p ∈ s.flight[k]?, p.dst = .hub →
      p.origin.isHubCall = true →
        ∀ key ∈ Hub.lookedUp (s.hub.pendingOp ⟨p.src, p.bytes, t, issued⟩),
          ∀ i, ¬s.hub.pendingCmds.Pends i key.1 key.2))
  | .web .. => isTrue trivial
  | .hubCall .. => isTrue trivial
  | .transmit .. => isTrue trivial
  | .wake .. => isTrue trivial
  | .heartbeat .. => isTrue trivial
  | .lose _ => isTrue trivial
  | .check _ => isTrue trivial

section

variable {cfg : Config}

/-- One datagram at the hub: the relays it causes are the web server's own
exactly when no slot holds what an answer to the hub looks up. -/
theorem relays_own_iff {h : Hub} {p : Packet} (hp : ToHub cfg p)
    (hclients : Clients cfg h.pendingCmds) (t issued : Int) :
    (∀ k ∈ Hub.relays (h.handleLine ⟨p.src, p.bytes, t, issued⟩).2,
        k.1 = cfg.webAddr → ∃ c, p.origin = .web c) ↔
      (p.origin.isHubCall = true →
        ∀ key ∈ Hub.lookedUp (h.pendingOp ⟨p.src, p.bytes, t, issued⟩),
          ∀ i, ¬h.pendingCmds.Pends i key.1 key.2) := by
  constructor
  · intro hown hcall key hkey i hpends
    obtain ⟨m, c⟩ := key
    have hop : h.pendingOp ⟨p.src, p.bytes, t, issued⟩ = .answer m c :=
      Hub.lookedUp_eq_some_iff.mp hkey
    cases hfind : h.pendingCmds.find m c with
    | none => exact PendingCmds.find_eq_none_iff.mp hfind i hpends
    | some j =>
        have hrel : ((h.pendingCmds j).clientAddr, m, c)
            ∈ Hub.relays (h.handleLine ⟨p.src, p.bytes, t, issued⟩).2 := by
          rw [h.handleLine_relays, hop, PendingCmds.apply_answer_some _ _ hfind]
          exact List.mem_singleton_self _
        obtain ⟨args, htok⟩ := Hub.pendingOp_answer_tokens hop
        have hne : m ≠ [] := strtok_ne_nil (htok ▸ List.mem_cons_self ..)
        rcases hclients j with hnil | hweb
        · exact hne ((PendingCmds.find_eq_some_iff.mp hfind).1.2.symm.trans hnil)
        · obtain ⟨c', hc'⟩ := hown _ hrel hweb
          rw [hc'] at hcall
          cases hcall
  · intro hfree k hk _
    obtain ⟨hop, i, hfind, -⟩ := Hub.handleLine_relay hk
    cases ho : p.origin with
    | web c => exact ⟨c, rfl⟩
    | door =>
        obtain ⟨args, htok⟩ := Hub.pendingOp_answer_tokens hop
        exact absurd ho (hp.origin_of_feedback (Packet.type_eq htok))
    | hubCall n =>
        have hpends := (PendingCmds.find_eq_some_iff.mp hfind).1
        exact absurd hpends (hfree (by rw [ho]; rfl) k.2 (Hub.lookedUp_eq_some_iff.mpr hop) i)

theorem noCross_arrive {s : State} {p : Packet} (hp : p.Ok cfg)
    (hclients : Clients cfg s.hub.pendingCmds) (env : Env) (t issued : Int) :
    NoCross cfg (arrive cfg s p env t issued) ↔
      NoCross cfg s ∧ (p.dst = .hub → p.origin.isHubCall = true →
        ∀ key ∈ Hub.lookedUp (s.hub.pendingOp ⟨p.src, p.bytes, t, issued⟩),
          ∀ i, ¬s.hub.pendingCmds.Pends i key.1 key.2) := by
  unfold arrive
  unfold Packet.Ok at hp
  split
  · rename_i hdst
    rw [hdst] at hp ⊢
    have hown := relays_own_iff hp hclients t issued
    constructor
    · intro hno
      refine ⟨fun r hr => hno r (List.mem_append_left _ hr), fun _ => hown.mp fun k hk hweb => ?_⟩
      exact hno (k.1, p.origin) (List.mem_append_right _ (List.mem_map_of_mem hk)) hweb
    · rintro ⟨hno, hfree⟩ r hr hweb
      rcases List.mem_append.mp hr with hr | hr
      · exact hno r hr hweb
      · obtain ⟨k, hk, rfl⟩ := List.mem_map.mp hr
        exact hown.mpr (hfree rfl) k hk hweb
  · rename_i hdst
    rw [hdst]
    exact ⟨fun hno => ⟨hno, nofun⟩, fun h => h.1⟩
  · rename_i hdst
    rw [hdst]
    exact ⟨fun hno => ⟨hno, nofun⟩, fun h => h.1⟩
  · rename_i hdst
    rw [hdst]
    exact ⟨fun hno => ⟨hno, nofun⟩, fun h => h.1⟩

theorem noCross_step (s : State) (l : Label) (s' : State) (h : Inv cfg s)
    (hs : step cfg s l = some s') : NoCross cfg s' ↔ NoCross cfg s ∧ Uncontested s l := by
  have hsame : s'.relayed = s.relayed → Uncontested s l →
      (NoCross cfg s' ↔ NoCross cfg s ∧ Uncontested s l) := by
    intro hrel hfree
    unfold NoCross
    rw [hrel]
    exact ⟨fun hno => ⟨hno, hfree⟩, fun hno => hno.1⟩
  cases l with
  | web target action =>
      obtain rfl := Option.some.inj hs
      exact hsame rfl trivial
  | hubCall target action =>
      obtain rfl := Option.some.inj hs
      refine hsame ?_ trivial
      cases s.hub.hubUdpSendCommand cfg.module target action <;> rfl
  | transmit n ok =>
      obtain ⟨k, -, hm⟩ := Option.bind_eq_some_iff.mp hs
      obtain ⟨r, -, rfl⟩ := Option.map_eq_some_iff.mp hm
      exact hsame rfl trivial
  | wake n timedOut =>
      obtain ⟨k, -, hm⟩ := Option.bind_eq_some_iff.mp hs
      obtain ⟨k', -, rfl⟩ := Option.map_eq_some_iff.mp hm
      exact hsame rfl trivial
  | heartbeat distance t =>
      obtain rfl := Option.some.inj hs
      exact hsame rfl trivial
  | deliver k env t issued =>
      obtain ⟨p, hp, rfl⟩ := Option.map_eq_some_iff.mp hs
      have hok := h.packets p (List.mem_of_getElem? hp)
      rw [noCross_arrive hok (h.eraseIdx k).clients env t issued]
      refine and_congr Iff.rfl ⟨fun hfree p' hp' => ?_, fun hfree => hfree p hp⟩
      obtain rfl := Option.some.inj (hp.symm.trans hp')
      exact hfree
  | lose k =>
      obtain rfl := Option.some.inj hs
      exact hsame rfl trivial
  | check now =>
      obtain rfl := Option.some.inj hs
      exact hsame rfl trivial

end

/-- The answers relayed to the web server are answers to its own COMMANDs in
exactly the runs that handle every answer to the hub uncontested. -/
theorem answersDoNotCross {cfg : Config} {webhookUrl : Text} {pos : Fin StepperMotor.stepsPerRev}
    {heartbeatMs t now : Int} {ls : List Label} {s : State}
    (hr : Lts.run (step cfg) (init cfg webhookUrl pos heartbeatMs t now) ls = some s) :
    NoCross cfg s ↔
      Lts.Along (step cfg) Uncontested (init cfg webhookUrl pos heartbeatMs t now) ls := by
  have hclean := Lts.clean_iff_along inv_step noCross_step
    (inv_init webhookUrl pos heartbeatMs t now) hr
  rw [hclean]
  exact ⟨fun h => h.2, fun h => ⟨nofun, h⟩⟩

/-- The door greets; the web server's command 1 is passed on and answered. -/
def webLock : List Label :=
  [.arrives 0, .web "D0".toList "LOCK".toList, .arrives 0, .arrives 0, .arrives 1]

theorem answersDoNotCross_webLock :
    ∃ s, Lts.run (step siteD1) (init siteD1 [] 0 1000 0 0) webLock = some s
      ∧ s.relayed.length = 1 ∧ NoCross siteD1 s := by
  obtain ⟨s, hs⟩ : ∃ s, Lts.run (step siteD1) (init siteD1 [] 0 1000 0 0) webLock = some s :=
    ⟨_, rfl⟩
  have hlen : (Lts.run (step siteD1) (init siteD1 [] 0 1000 0 0) webLock).map
      (fun s => s.relayed.length) = some 1 := by
    decide +kernel
  rw [hs] at hlen
  exact ⟨s, hs, Option.some.inj hlen, (answersDoNotCross hs).mpr (by decide +kernel)⟩

/-- The web server's command 1 is registered and lost on its way to the door;
the door's answer to the hub's command 1 is relayed in its place. -/
def lostCommand : List Label :=
  [.arrives 0, .web "D0".toList "LOCK".toList, .arrives 0, .lose 0,
    .hubCall "D0".toList "LOCK".toList, .transmit 0 true, .arrives 0, .arrives 1]

theorem answersDoNotCross_lostCommand :
    ¬∀ (cfg : Config) (webhookUrl : Text) (pos : Fin StepperMotor.stepsPerRev)
        (heartbeatMs t now : Int) (ls : List Label) (s : State),
      Lts.run (step cfg) (init cfg webhookUrl pos heartbeatMs t now) ls = some s →
      NoCross cfg s := by
  intro hall
  have hrun : (Lts.run (step siteD1) (init siteD1 [] 0 1000 0 0) lostCommand).map State.relayed
      = some [(⟨9, 50000⟩, .hubCall 0)] := by
    decide +kernel
  obtain ⟨s, hs, hrel⟩ := Option.map_eq_some_iff.mp hrun
  obtain ⟨c, hc⟩ := hall siteD1 [] 0 1000 0 0 _ s hs (⟨9, 50000⟩, .hubCall 0)
    (by rw [hrel]; exact List.mem_singleton_self _) rfl
  cases hc

end Site

end HomeSecurity
