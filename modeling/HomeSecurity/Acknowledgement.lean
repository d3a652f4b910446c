import HomeSecurity.HubCommand

/-!
# When a call of the hub is acknowledged

One call of `hub_udp_send_command` at a time is followed, from any state of the
hub, together with the FEEDBACKs handled since it took its id. The slot it
compares with is not cleared when a call starts, and ids are compared with `>=`:
`noFalseAck` is what a returned `true` means as long as no other FEEDBACK passes
for the answer.
-/

namespace HomeSecurity

open CText

namespace Acknowledgement

structure State where
  hub : Hub
  call : Option SendCall
  /-- The FEEDBACKs handled since the call took its id. -/
  heard : List Feedback

inductive Label where
  | input (i : Hub.Input)
  | call (moduleId target action : Text)
  /-- Another thread of the hub starts a call, which takes the next id. -/
  | otherCall (moduleId target action : Text)
  | transmit (ok : Bool)
  | wake (timedOut : Bool)

def start (h : Hub) : State := ⟨h, none, []⟩

/-- No call is running. -/
def Idle (s : State) : Prop := ∀ k ∈ s.call, k.phase = .returned true ∨ k.phase = .returned false

instance (s : State) : Decidable (Idle s) :=
  inferInstanceAs (Decidable (∀ k ∈ s.call, _))

def heardFrom (h : Hub) : Hub.Input → List Feedback
  | .datagram dg => (h.feedbackHandled dg).toList
  | .check _ => []

def step (s : State) : Label → Option State
  | .input i =>
      some { s with hub := (s.hub.input i).1, heard := s.heard ++ heardFrom s.hub i }
  | .call m target action =>
      if Idle s then
        some (match s.hub.hubUdpSendCommand m target action with
          | some r => ⟨r.1, some r.2, []⟩
          | none => { s with call := none })
      else none
  | .otherCall m target action =>
      some { s with
        hub := match s.hub.hubUdpSendCommand m target action with
          | some r => r.1
          | none => s.hub }
  | .transmit ok =>
      s.call.bind fun k => (k.transmit ok).map fun r => { s with call := some r.1 }
  | .wake timedOut =>
      s.call.bind fun k =>
        (k.wake (s.hub.doors k.door) timedOut).map fun k' => { s with call := some k' }

/-- If the call returned true, its own answer was handled after it began. -/
def NoFalseAck (s : State) : Prop :=
  ∀ k, s.call = some k → k.phase = .returned true → k.feedback ∈ s.heard

/-- The step leaves no slot that passes for an answer the call did not get: none
such is there when the call takes its id, and every FEEDBACK of the module
handled while it runs, with an id at least as large and, clipped to the slot's
31 bytes, the same target and action, is the answer itself. -/
def Unambiguous (s : State) : Label → Prop
  | .call m target action =>
      ∀ d ∈ s.hub.findDoor m, (s.hub.doors d).acknowledges s.hub.nextCmdid target action = false
  | .input (.datagram dg) =>
      ∀ k ∈ s.call, ¬Idle s → ∀ f ∈ s.hub.feedbackHandled dg, f.mod = k.moduleId →
        k.cmdid ≤ f.cmdid → f.target.take 31 = k.target → f.action.take 31 = k.action →
        f = k.feedback
  | _ => True

instance (s : State) : (l : Label) → Decidable (Unambiguous s l)
  | .call m target action => inferInstanceAs (Decidable (∀ d ∈ s.hub.findDoor m,
      (s.hub.doors d).acknowledges s.hub.nextCmdid target action = false))
  | .input (.datagram dg) => inferInstanceAs (Decidable (∀ k ∈ s.call, ¬Idle s →
      ∀ f ∈ s.hub.feedbackHandled dg, f.mod = k.moduleId → k.cmdid ≤ f.cmdid →
        f.target.take 31 = k.target → f.action.take 31 = k.action → f = k.feedback))
  | .input (.check _) => isTrue trivial
  | .otherCall .. => isTrue trivial
  | .transmit _ => isTrue trivial
  | .wake _ => isTrue trivial

/-- What holds of the call in progress: its entry is the module's, and what
would acknowledge it, or did, was heard. -/
structure CallInv (s : State) (k : SendCall) : Prop where
  tracks : s.hub.Tracks k.door k.moduleId
  slot : k.Running →
    (s.hub.doors k.door).acknowledges k.cmdid k.target k.action = true → k.feedback ∈ s.heard
  acked : k.phase = .returned true → k.feedback ∈ s.heard

def Inv (s : State) : Prop := ∀ k, s.call = some k → CallInv s k

theorem inv_start (h : Hub) : Inv (start h) := nofun

theorem not_idle {s : State} {k : SendCall} (hk : s.call = some k) (hrun : k.Running) :
    ¬Idle s := by
  intro hidle
  rcases hidle k hk with h | h
  · exact hrun true h
  · exact hrun false h

/-- A step of the call itself. -/
theorem CallInv.continues {s : State} {k k' : SendCall} (h : CallInv s k)
    (hc : k.Continues k') (hrun : k.Running)
    (hacked : k'.phase = .returned true →
      (s.hub.doors k.door).acknowledges k.cmdid k.target k.action = true) :
    CallInv { s with call := some k' } k' := by
  obtain ⟨attempt, phase, rfl⟩ := hc
  exact ⟨h.tracks, fun _ => h.slot hrun, fun hp => h.slot hrun (hacked hp)⟩

/-- A step of the hub that leaves the slot of the call's entry alone. -/
theorem CallInv.frame {s : State} {k : SendCall} (h : CallInv s k) {hub : Hub}
    {heard : List Feedback} (ht : hub.Tracks k.door k.moduleId)
    (hslot : (hub.doors k.door).lastFeedback = (s.hub.doors k.door).lastFeedback)
    (hheard : ∀ f ∈ s.heard, f ∈ heard) : CallInv ⟨hub, s.call, heard⟩ k := by
  refine ⟨ht, fun hrun hack => ?_, fun hp => hheard _ (h.acked hp)⟩
  rw [HubDoorStatus.acknowledges_congr hslot] at hack
  exact hheard _ (h.slot hrun hack)

theorem CallInv.input {s : State} {k : SendCall} (h : CallInv s k) (hk : s.call = some k)
    {i : Hub.Input} (hok : Unambiguous s (.input i)) :
    CallInv { s with hub := (s.hub.input i).1, heard := s.heard ++ heardFrom s.hub i } k := by
  have hold : ∀ f ∈ s.heard, f ∈ s.heard ++ heardFrom s.hub i :=
    fun f hf => List.mem_append_left _ hf
  cases i with
  | check now =>
      obtain ⟨hframe, -⟩ := s.hub.checkOfflineModules_frame now
      obtain ⟨off, ms, heq⟩ := hframe.doors k.door
      refine h.frame (hframe.tracks h.tracks) ?_ hold
      show ((s.hub.checkOfflineModules now).1.doors k.door).lastFeedback = _
      rw [heq]
      rfl
  | datagram dg =>
      have ht := Hub.handleLine_tracks dg h.tracks
      rcases Hub.handleLine_lastFeedback dg h.tracks with hsame | ⟨f, hf, hmod, hslot⟩
      · exact h.frame ht hsame hold
      · refine ⟨ht, fun hrun hack => ?_, fun hp => hold _ (h.acked hp)⟩
        -- the slot is this FEEDBACK, clipped
        have hstatus : ((s.hub.handleLine dg).1.doors k.door).lastFeedback
            = (feedbackStatus (s.hub.doors k.door) f.cmdid f.target f.action dg.t).lastFeedback :=
          hslot
        have hack' := hack
        rw [show (s.hub.input (.datagram dg)).1 = (s.hub.handleLine dg).1 from rfl,
          HubDoorStatus.acknowledges_congr hstatus, feedbackStatus_acknowledges_iff] at hack'
        obtain ⟨hid, htarget, haction⟩ := hack'
        have hans := hok k hk (not_idle hk hrun) f hf hmod hid htarget haction
        rw [← hans]
        refine List.mem_append_right _ ?_
        rw [heardFrom, hf]
        exact List.mem_singleton_self f

theorem inv_step (s : State) (l : Label) (s' : State) (h : Inv s) (hok : Unambiguous s l)
    (hs : step s l = some s') : Inv s' := by
  intro k' hk'
  cases l with
  | input i =>
      obtain rfl := Option.some.inj hs
      exact (h k' hk').input hk' hok
  | call m target action =>
      rw [step] at hs
      split at hs
      · obtain rfl := Option.some.inj hs
        cases hc : s.hub.hubUdpSendCommand m target action with
        | none =>
            rw [hc] at hk'
            cases hk'
        | some r =>
            obtain ⟨hub, k⟩ := r
            rw [hc] at hk'
            obtain rfl := Option.some.inj hk'
            obtain ⟨hd, rfl, rfl, rfl, rfl, hid, -, -, hphase⟩ := Hub.hubUdpSendCommand_eq_some hc
            refine ⟨(Hub.findDoor_eq_some_iff.mp hd).1, fun _ hack => ?_, fun hp => ?_⟩
            · have hnot := hok k.door hd
              rw [← hid] at hnot
              exact absurd (hack.symm.trans hnot) nofun
            · rw [hphase] at hp
              cases hp
      · cases hs
  | otherCall m target action =>
      obtain rfl := Option.some.inj hs
      have hk : CallInv s k' := h k' hk'
      cases hc : s.hub.hubUdpSendCommand m target action with
      | none => exact hk.frame hk.tracks rfl fun f hf => hf
      | some r =>
          obtain ⟨hub, k⟩ := r
          obtain ⟨-, rfl, -⟩ := Hub.hubUdpSendCommand_eq_some hc
          exact hk.frame hk.tracks rfl fun f hf => hf
  | transmit ok =>
      obtain ⟨k, hk, hm⟩ := Option.bind_eq_some_iff.mp hs
      obtain ⟨⟨k₁, outs⟩, ht, rfl⟩ := Option.map_eq_some_iff.mp hm
      obtain rfl := Option.some.inj hk'
      obtain ⟨hcont, hrun, hne⟩ := SendCall.transmit_eq_some ht
      exact (h k hk).continues hcont hrun fun hp => absurd hp hne
  | wake timedOut =>
      obtain ⟨k, hk, hm⟩ := Option.bind_eq_some_iff.mp hs
      obtain ⟨k₁, hw, rfl⟩ := Option.map_eq_some_iff.mp hm
      obtain rfl := Option.some.inj hk'
      obtain ⟨hcont, hrun, hacked⟩ := SendCall.wake_eq_some hw
      exact (h k hk).continues hcont hrun hacked

/-- As long as no other FEEDBACK passes for the answer, a call that returns true
was answered: a FEEDBACK with its module, id, target and action was handled
after it took the id. -/
theorem noFalseAck {h : Hub} {ls : List Label} {s : State}
    (hr : Lts.run step (start h) ls = some s)
    (hok : Lts.Along step Unambiguous (start h) ls) : NoFalseAck s := by
  have hinv : Inv s := Lts.inv_run inv_step (inv_start h) hok hr
  exact fun k hk hp => (hinv k hk).acked hp

/-- A FEEDBACK of `D1` as the door sends it. -/
def doorFeedback (c : Int) : Hub.Input :=
  .datagram ⟨⟨1, 40000⟩, feedbackLine "D1".toList c "D0".toList "LOCK".toList, 30, 30⟩

/-- The door greets, the hub locks it and gets the answer. -/
def answeredRun : List Label :=
  [.input (.datagram ⟨⟨1, 40000⟩, reportLine "D1".toList .hello, 10, 10⟩),
    .call "D1".toList "D0".toList "LOCK".toList, .transmit true, .wake false,
    .input (doorFeedback 1), .wake false]

theorem noFalseAck_answered :
    ∃ s, Lts.run step (start (.init [])) answeredRun = some s ∧ NoFalseAck s := by
  obtain ⟨s, hs⟩ : ∃ s, Lts.run step (start (.init [])) answeredRun = some s := ⟨_, rfl⟩
  exact ⟨s, hs, noFalseAck hs (by decide +kernel)⟩

/-- The door's last FEEDBACK answered command 100 of a web client; the hub's own
command 1 with the same words returns true at once. -/
theorem noFalseAck_staleSlot :
    ¬∀ (webhookUrl : Text) (ls : List Label) (s : State),
      Lts.run step (start (.init webhookUrl)) ls = some s → NoFalseAck s := by
  intro hall
  have hrun : (Lts.run step (start (.init []))
      [.input (doorFeedback 100), .call "D1".toList "D0".toList "LOCK".toList, .transmit true,
        .wake false]).map (fun s => (s.call.map SendCall.phase, s.heard))
      = some (some (.returned true), []) := by
    decide +kernel
  obtain ⟨s, hs, hobs⟩ := Option.map_eq_some_iff.mp hrun
  obtain ⟨hcall, hheard⟩ := Prod.mk.inj hobs
  obtain ⟨k, hk, hphase⟩ := Option.map_eq_some_iff.mp hcall
  have hmem := hall [] _ s hs k hk hphase
  rw [hheard] at hmem
  cases hmem

end Acknowledgement

end HomeSecurity
