import Mathlib.Data.List.Perm.Basic
import HomeSecurity.Site

/-!
# Retransmitted commands

The listener at the door remembers no ids: it calls the handler for every copy
of a COMMAND that arrives. `commandEffects` bounds the calls by the copies on the
wire, which are three at most; `commandEffects_undone` is a run in which the
second copy of a LOCK is handled after a newer UNLOCK.
-/

namespace HomeSecurity

open CText

namespace Site

/-- Handler calls at the door for call `n` of the hub. -/
def State.invocations (s : State) (n : Nat) : Nat := s.invoked.countP fun r => r.1 = .hubCall n

/-- On its way to the door, for call `n` of the hub. -/
def Packet.IsCopy (n : Nat) (p : Packet) : Prop := p.dst = .door ∧ p.origin = .hubCall n

instance (n : Nat) (p : Packet) : Decidable (p.IsCopy n) :=
  inferInstanceAs (Decidable (_ ∧ _))

def State.copiesInFlight (s : State) (n : Nat) : Nat := s.flight.countP fun p => p.IsCopy n

/-- A copy is handled, in flight or lost; and each call has sent what its
attempts allow. -/
structure CopyInv (cfg : Config) (s : State) : Prop extends Inv cfg s where
  handled : ∀ n, s.invocations n + s.copiesInFlight n ≤ s.sent.count n
  calls : ∀ n, match s.calls[n]? with
    | some k => k.Sent (s.sent.count n)
    | none => s.sent.count n = 0

section

variable {cfg : Config}

theorem countP_isCopy_eq_zero {ps : List Packet} {n : Nat}
    (h : ∀ p ∈ ps, ¬p.IsCopy n) : ps.countP (fun p => p.IsCopy n) = 0 :=
  List.countP_eq_zero.mpr fun p hp => by simpa using h p hp

/-- Taking the `k`-th datagram out. -/
theorem copiesInFlight_eraseIdx {s : State} {k : Nat} {p : Packet} (hp : s.flight[k]? = some p)
    (n : Nat) :
    State.copiesInFlight { s with flight := s.flight.eraseIdx k } n
      + (if p.IsCopy n then 1 else 0) = s.copiesInFlight n := by
  obtain ⟨hk, rfl⟩ := List.getElem?_eq_some_iff.mp hp
  have hperm := (List.getElem_cons_eraseIdx_perm hk).countP_eq fun p => decide (p.IsCopy n)
  rw [List.countP_cons] at hperm
  simp only [State.copiesInFlight]
  simpa using hperm

theorem copiesInFlight_lose (s : State) (k n : Nat) :
    State.copiesInFlight { s with flight := s.flight.eraseIdx k } n ≤ s.copiesInFlight n :=
  (List.eraseIdx_sublist s.flight k).countP_le

/-- An arriving datagram is spent: if it was a copy, the handler may be called
for it once; nothing the hub or the door then sends is a copy. -/
theorem handled_arrive {s : State} (h : Inv cfg s) {p : Packet} (hp : p.Ok cfg) (env : Env)
    (t issued : Int) (n : Nat) :
    (arrive cfg s p env t issued).invocations n
        + (arrive cfg s p env t issued).copiesInFlight n
      ≤ s.invocations n + s.copiesInFlight n + if p.IsCopy n then 1 else 0 := by
  unfold arrive
  unfold Packet.Ok at hp
  split
  · rename_i hdst
    rw [hdst] at hp
    have hnew : ∀ q ∈ (s.hub.handleLine ⟨p.src, p.bytes, t, issued⟩).2.flatMap
        (hubPackets cfg p.origin), ¬q.IsCopy n := by
      rintro q hq ⟨hdoor, horigin⟩
      rcases hubPackets_spec hp h.clients t issued hq with ⟨c, ho, -⟩ | hweb
      · rw [horigin] at ho
        cases ho
      · rw [hdoor] at hweb
        cases hweb
    simp only [State.invocations, State.copiesInFlight, List.countP_append,
      countP_isCopy_eq_zero hnew]
    omega
  · rename_i hdst
    rw [hdst] at hp
    obtain ⟨-, hsends, hcalls⟩ := listen_spec h.module hp env
    have hnew : ∀ q ∈ (listen cfg s.door p env).2.1, ¬q.IsCopy n := by
      rintro q hq ⟨hdoor, -⟩
      rw [(hsends q hq).1] at hdoor
      cases hdoor
    have hcount : (listen cfg s.door p env).2.2.countP (fun r => r.1 = .hubCall n)
        ≤ if p.IsCopy n then 1 else 0 := by
      rcases hcalls with hnil | ⟨cmd, hone⟩
      · rw [hnil]
        exact Nat.zero_le _
      · rw [hone, List.countP_singleton]
        by_cases horigin : p.origin = .hubCall n
        · have hcopy : p.IsCopy n := ⟨hdst, horigin⟩
          rw [if_pos hcopy]
          split <;> omega
        · rw [if_neg (by simpa using horigin)]
          exact Nat.zero_le _
    simp only [State.invocations, State.copiesInFlight, List.countP_append,
      countP_isCopy_eq_zero hnew]
    omega
  · omega
  · omega

theorem copyInv_init (webhookUrl : Text) (pos : Fin StepperMotor.stepsPerRev)
    (heartbeatMs t now : Int) : CopyInv cfg (init cfg webhookUrl pos heartbeatMs t now) := by
  refine ⟨inv_init webhookUrl pos heartbeatMs t now, fun n => ?_, fun n => rfl⟩
  have hnone : ∀ q ∈ (init cfg webhookUrl pos heartbeatMs t now).flight, ¬q.IsCopy n := by
    rintro q hq ⟨hdst, -⟩
    obtain ⟨send, -, rfl⟩ := List.mem_map.mp hq
    cases hdst
  rw [State.copiesInFlight, countP_isCopy_eq_zero hnone]
  exact Nat.le_refl _

/-- Datagrams that are no copies join the flight. -/
theorem copiesInFlight_append {s : State} {ps : List Packet} {n : Nat}
    (hps : ∀ p ∈ ps, ¬p.IsCopy n) :
    (s.flight ++ ps).countP (fun p => p.IsCopy n) = s.copiesInFlight n := by
  rw [List.countP_append, countP_isCopy_eq_zero hps, State.copiesInFlight, Nat.add_zero]

/-- The copies that call `n` has just sent. -/
theorem copiesInFlight_transmit (cfg : Config) (s : State)
    (outs : List (SockAddr × CBuf 256)) (n m : Nat) :
    (s.flight ++ outs.map fun o =>
        (⟨cfg.hubAddr, cfg.party o.1, o.2.text, .hubCall n⟩ : Packet)).countP
        (fun p => p.IsCopy m)
      ≤ s.copiesInFlight m + (outs.map fun _ => n).count m := by
  rw [List.countP_append, List.countP_map, List.count, List.countP_map, State.copiesInFlight]
  refine Nat.add_le_add_left (List.countP_mono_left fun o _ ho => ?_) _
  have hcopy := of_decide_eq_true ho
  exact beq_iff_eq.mpr (Origin.hubCall.inj hcopy.2)

/-- A new call has sent nothing yet. -/
theorem CopyInv.calls_append {s : State} (h : CopyInv cfg s) {k : SendCall}
    (hattempt : k.attempt = 0) (hphase : k.phase = .sending) (n : Nat) :
    match (s.calls ++ [k])[n]? with
    | some k => k.Sent (s.sent.count n)
    | none => s.sent.count n = 0 := by
  have hold := h.calls n
  by_cases hn : n = s.calls.length
  · subst hn
    rw [List.getElem?_eq_none (Nat.le_refl _)] at hold
    simp only [List.getElem?_concat_length]
    unfold SendCall.Sent
    rw [hphase, hattempt]
    exact ⟨Nat.le_of_eq hold, Nat.zero_le _⟩
  · have hsame : (s.calls ++ [k])[n]? = s.calls[n]? := by
      rcases Nat.lt_or_gt_of_ne hn with hlt | hgt
      · exact List.getElem?_append_left hlt
      · rw [List.getElem?_eq_none (Nat.le_of_lt hgt), List.getElem?_eq_none]
        rw [List.length_append, List.length_singleton]
        exact hgt
    simp only [hsame]
    exact hold

/-- Call `n` goes on, having sent what `sent` says; the others have sent what
they had. -/
theorem CopyInv.calls_set {s : State} (h : CopyInv cfg s) {n : Nat} {k k' : SendCall}
    (hk : s.calls[n]? = some k) {sent : List Nat}
    (hself : k.Sent (s.sent.count n) → k'.Sent (sent.count n))
    (hother : ∀ m, m ≠ n → sent.count m = s.sent.count m) (m : Nat) :
    match (s.calls.set n k')[m]? with
    | some k => k.Sent (sent.count m)
    | none => sent.count m = 0 := by
  have hold := h.calls m
  by_cases hmn : m = n
  · subst hmn
    rw [hk] at hold
    have hlt := (List.getElem?_eq_some_iff.mp hk).1
    simp only [List.getElem?_set_self hlt]
    exact hself hold
  · simp only [List.getElem?_set_ne (Ne.symm hmn), hother m hmn]
    exact hold

theorem copyInv_step (s : State) (l : Label) (s' : State) (h : CopyInv cfg s)
    (hs : step cfg s l = some s') : CopyInv cfg s' := by
  have hinv := inv_step s l s' h.toInv hs
  cases l with
  | web target action =>
      obtain rfl := Option.some.inj hs
      refine ⟨hinv, fun n => ?_, h.calls⟩
      have hnew : ∀ q ∈ [(⟨cfg.webAddr, .hub, commandLine cfg.module s.cmdCounter target action,
          .web s.cmdCounter⟩ : Packet)], ¬q.IsCopy n := by
        rintro q hq ⟨hdst, -⟩
        rw [List.mem_singleton.mp hq] at hdst
        cases hdst
      simp only [State.invocations, State.copiesInFlight, copiesInFlight_append hnew]
      exact h.handled n
  | hubCall target action =>
      obtain rfl := Option.some.inj hs
      cases hc : s.hub.hubUdpSendCommand cfg.module target action with
      | none =>
          rw [hc] at hinv
          exact ⟨hinv, h.handled, h.calls⟩
      | some r =>
          rw [hc] at hinv
          obtain ⟨hub, k⟩ := r
          refine ⟨hinv, h.handled, fun n => ?_⟩
          obtain ⟨-, -, -, -, -, -, -, hattempt, hphase⟩ := Hub.hubUdpSendCommand_eq_some hc
          exact h.calls_append hattempt hphase n
  | transmit n ok =>
      obtain ⟨k, hk, hm⟩ := Option.bind_eq_some_iff.mp hs
      obtain ⟨⟨k', outs⟩, ht, rfl⟩ := Option.map_eq_some_iff.mp hm
      refine ⟨hinv, fun m => ?_, fun m => ?_⟩
      · have hfly := copiesInFlight_transmit cfg s outs n m
        have hold := h.handled m
        simp only [State.invocations, State.copiesInFlight, List.count_append] at hold hfly ⊢
        omega
      · refine h.calls_set hk (fun hsent => ?_) (fun j hj => ?_) m
        · simp only [List.count_append, List.map_const', List.count_replicate_self]
          exact hsent.transmit ht
        · simp only [List.count_append, List.map_const', List.count_replicate, beq_iff_eq,
            if_neg (Ne.symm hj), Nat.add_zero]
  | wake n timedOut =>
      obtain ⟨k, hk, hm⟩ := Option.bind_eq_some_iff.mp hs
      obtain ⟨k', hw, rfl⟩ := Option.map_eq_some_iff.mp hm
      exact ⟨hinv, h.handled, h.calls_set hk (fun hsent => hsent.wake hw) fun _ _ => rfl⟩
  | heartbeat distance t =>
      obtain rfl := Option.some.inj hs
      refine ⟨hinv, fun n => ?_, h.calls⟩
      have hnew : ∀ q ∈ (s.door.heartbeatWorker distance t).2.map (doorPacket cfg .door),
          ¬q.IsCopy n := by
        rintro q hq ⟨hdst, -⟩
        obtain ⟨send, -, rfl⟩ := List.mem_map.mp hq
        cases hdst
      simp only [State.invocations, State.copiesInFlight, copiesInFlight_append hnew]
      exact h.handled n
  | deliver k env t issued =>
      obtain ⟨p, hp, rfl⟩ := Option.map_eq_some_iff.mp hs
      have hok := h.packets p (List.mem_of_getElem? hp)
      refine ⟨hinv, fun n => ?_, fun n => ?_⟩
      · have harrive := handled_arrive (h.toInv.eraseIdx k) hok env t issued n
        have herase := copiesInFlight_eraseIdx hp n
        have hold := h.handled n
        have hinvoked : State.invocations { s with flight := s.flight.eraseIdx k } n
            = s.invocations n := rfl
        rw [arrive_sent]
        show _ ≤ s.sent.count n
        omega
      · rw [arrive_calls, arrive_sent]
        exact h.calls n
  | lose k =>
      obtain rfl := Option.some.inj hs
      refine ⟨hinv, fun n => ?_, h.calls⟩
      exact (Nat.add_le_add_left (copiesInFlight_lose s k n) _).trans (h.handled n)
  | check now =>
      obtain rfl := Option.some.inj hs
      exact ⟨hinv, h.handled, h.calls⟩

end

/-- However datagrams are delayed or lost, the door calls its handler at most
once for each copy of a hub command, and there are three copies at most. -/
theorem commandEffects {cfg : Config} {webhookUrl : Text} {pos : Fin StepperMotor.stepsPerRev}
    {heartbeatMs t now : Int} {ls : List Label} {s : State}
    (hr : Lts.run (step cfg) (init cfg webhookUrl pos heartbeatMs t now) ls = some s) (n : Nat) :
    s.invocations n ≤ s.sent.count n ∧ s.sent.count n ≤ ackRetries + 1 := by
  have h : CopyInv cfg s :=
    Lts.inv_run_of_step copyInv_step (copyInv_init webhookUrl pos heartbeatMs t now) hr
  refine ⟨(Nat.le_add_right ..).trans (h.handled n), ?_⟩
  have hcalls := h.calls n
  split at hcalls
  · exact hcalls.le
  · rw [hcalls]
    exact Nat.zero_le _

/-- The hub locks the door and hears nothing for half a second; meanwhile the web
server unlocks it. Then the hub's second copy arrives. -/
def lockUnlockLock : List Label :=
  [.arrives 0, .hubCall "D0".toList "LOCK".toList, .transmit 0 true, .arrives 0,
    .web "D0".toList "UNLOCK".toList, .arrives 2, .arrives 2, .wake 0 true, .transmit 0 true,
    .arrives 3]

theorem commandEffects_lockUnlockLock :
    ∃ s, Lts.run (step siteD1) (init siteD1 [] 0 1000 0 0) lockUnlockLock = some s
      ∧ s.invocations 0 ≤ s.sent.count 0 ∧ s.sent.count 0 ≤ ackRetries + 1 := by
  obtain ⟨s, hs⟩ : ∃ s, Lts.run (step siteD1) (init siteD1 [] 0 1000 0 0) lockUnlockLock = some s :=
    Option.isSome_iff_exists.mp (by decide +kernel)
  exact ⟨s, hs, commandEffects hs 0⟩

/-- The handler is called for the LOCK, then for the UNLOCK, then for the LOCK again. -/
theorem commandEffects_undone :
    ¬∀ (cfg : Config) (webhookUrl : Text) (pos : Fin StepperMotor.stepsPerRev)
        (heartbeatMs t now : Int) (ls : List Label) (s : State),
      Lts.run (step cfg) (init cfg webhookUrl pos heartbeatMs t now) ls = some s →
      ∀ n, s.invocations n ≤ 1 := by
  intro hall
  have hrun : (Lts.run (step siteD1) (init siteD1 [] 0 1000 0 0) lockUnlockLock).map
      (fun s => s.invoked.map fun r => (r.1, r.2.action))
      = some [(.hubCall 0, "LOCK".toList), (.web 1, "UNLOCK".toList),
        (.hubCall 0, "LOCK".toList)] := by
    decide +kernel
  obtain ⟨s, hs, hinvoked⟩ := Option.map_eq_some_iff.mp hrun
  have htwice : s.invocations 0 = 2 := by
    have hcount : (s.invoked.map fun r => (r.1, r.2.action)).countP (fun r => r.1 = .hubCall 0)
        = 2 := by
      rw [hinvoked]
      decide
    rw [List.countP_map] at hcount
    exact hcount
  have hle := hall siteD1 [] 0 1000 0 0 _ s hs 0
  rw [htwice] at hle
  exact absurd hle (by decide)

end Site

end HomeSecurity
