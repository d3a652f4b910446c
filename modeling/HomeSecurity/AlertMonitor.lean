import Mathlib.Data.List.Chain
import HomeSecurity.Mirror

/-!
# When the alert monitor fires

`doorAlertThread` compares the whole text of its provider with the last one it
sent, and `door_alert_provider` puts the time of the last heartbeat into that
text. `onlyChanges` says in which runs of the hub and of the monitor the alerts
are nevertheless about changes of the door: those in which no poll finds door and
lock as last alerted but a newer heartbeat.
-/

namespace HomeSecurity

open CText

namespace AlertMonitor

/-- An alert: the status it was made from, and whether its text could be copied. -/
structure Alert where
  status : HubDoorStatus
  copied : Bool

def Alert.text (a : Alert) : Text := (alertText a.status a.status.d0Locked).text

end AlertMonitor

/-- What an alert reports of door and lock. -/
def HubDoorStatus.d0State (st : HubDoorStatus) : Bool × Bool := (st.d0Open, st.d0Locked)

namespace AlertMonitor

/-- The hub, and `doorAlertThread` between two polls. -/
structure State where
  hub : Hub
  lastMsg : Option Text
  /-- The alerts sent, the newest first. -/
  alerts : List Alert
  /-- What the last message of the provider was about. -/
  seen : Option (Bool × Bool)
  /-- For each alert what was seen before it. -/
  before : List (Option (Bool × Bool))

inductive Label where
  | input (i : Hub.Input)
  /-- The monitor polls; `provided` and `copied` say whether the provider's
  `strdup` and the monitor's succeed. -/
  | poll (provided copied : Bool)

def start (h : Hub) : State := ⟨h, none, [], none, []⟩

section

variable (m : Text)

/-- One look at the provider, before the loop of `doorAlertThread` or in it. -/
def poll (s : State) (provided copied : Bool) : State :=
  match s.hub.hubUdpGetStatus m, doorAlertProvider s.hub m with
  | some st, some msg =>
      if provided = false then s
      else if s.lastMsg = some msg.text then { s with seen := some st.d0State }
      else
        { s with
          lastMsg := if copied then some msg.text else none
          alerts := ⟨st, copied⟩ :: s.alerts
          seen := some st.d0State
          before := s.seen :: s.before }
  | _, _ => s

def step (s : State) : Label → Option State
  | .input i => some { s with hub := (s.hub.input i).1 }
  | .poll provided copied => some (poll m s provided copied)

/-- Consecutive alerts report different states, and none reports what was seen
before it. -/
structure OnlyChanges (s : State) : Prop where
  alerts : s.alerts.IsChain fun a b => a.status.d0State ≠ b.status.d0State
  polls : ∀ p ∈ s.alerts.zip s.before, p.2 ≠ some p.1.status.d0State

/-- A poll that finds door and lock as they were last alerted finds the time of
the last heartbeat as it was then, too, and the text of that alert was copied. -/
def Steady (s : State) : Label → Prop
  | .input _ => True
  | .poll provided _ => provided = true → ∀ st ∈ s.hub.hubUdpGetStatus m, ∀ a ∈ s.alerts.head?,
      a.status.d0State = st.d0State →
        a.copied = true ∧ a.status.lastHeartbeatMs = st.lastHeartbeatMs

end

instance decidableSteady (m : Text) (s : State) : (l : Label) → Decidable (Steady m s l)
  | .input _ => isTrue trivial
  | .poll provided _ => inferInstanceAs (Decidable (provided = true →
      ∀ st ∈ s.hub.hubUdpGetStatus m, ∀ a ∈ s.alerts.head?, a.status.d0State = st.d0State →
        a.copied = true ∧ a.status.lastHeartbeatMs = st.lastHeartbeatMs))

/-! ## Texts -/

/-- The text is made from the state and the time. -/
theorem alertText_congr {st st' : HubDoorStatus} (hid : st.moduleId.text = st'.moduleId.text)
    (hstate : st.d0State = st'.d0State) (hms : st.lastHeartbeatMs = st'.lastHeartbeatMs) :
    alertText st st.d0Locked = alertText st' st'.d0Locked := by
  obtain ⟨hopen, hlocked⟩ := Prod.mk.inj hstate
  rw [alertText, alertText, hid, hopen, hlocked, hms]

/-- Whatever the time, the state can be told from the text. -/
theorem d0State_of_alertText {st st' : HubDoorStatus} (hid : st.moduleId.text = st'.moduleId.text)
    (h : (alertText st st.d0Locked).text = (alertText st' st'.d0Locked).text) :
    st.d0State = st'.d0State := by
  have hshort : st'.moduleId.text.length < 16 := st'.moduleId.fits
  have hprefix : (st'.moduleId.text ++ ": D0=".toList).length + 300 ≤ 511 := by
    have hlit : ": D0=".toList.length = 5 := rfl
    rw [List.length_append, hlit]
    omega
  obtain ⟨k, hk⟩ : ∃ k, 511 = (st'.moduleId.text ++ ": D0=".toList).length + (k + 20) :=
    ⟨511 - (st'.moduleId.text ++ ": D0=".toList).length - 20, by omega⟩
  have hcut : ∀ (rest : Text),
      (snprintf 512 (st'.moduleId.text ++ ": D0=".toList ++ rest)).text
        = st'.moduleId.text ++ ": D0=".toList ++ rest.take (k + 20) := by
    intro rest
    show List.take 511 _ = _
    rw [hk, List.take_length_add_append]
  have hflags : ∀ (o l o' l' : Bool) (x y : Text),
      (openText o ++ ',' :: (lockText l ++ x)).take (k + 20)
        = (openText o' ++ ',' :: (lockText l' ++ y)).take (k + 20) → o = o' ∧ l = l' := by
    intro o l o' l' x y heq
    cases o <;> cases o' <;> cases l <;> cases l' <;>
      first | exact ⟨rfl, rfl⟩ | (simp [openText, lockText] at heq)
  have hsplit : ∀ e : HubDoorStatus, e.moduleId.text = st'.moduleId.text →
      (alertText e e.d0Locked).text = st'.moduleId.text ++ ": D0=".toList
        ++ (openText e.d0Open ++ ',' :: (lockText e.d0Locked
          ++ (" lastHB=".toList ++ decimal e.lastHeartbeatMs ++ "ms".toList))).take (k + 20) := by
    intro e he
    rw [← hcut, alertText, he]
    simp only [List.append_assoc, List.cons_append]
  rw [hsplit st hid, hsplit st' rfl] at h
  obtain ⟨hopen, hlocked⟩ := hflags _ _ _ _ _ _ (List.append_cancel_left h)
  exact Prod.ext hopen hlocked

/-! ## Runs -/

structure Inv (m : Text) (s : State) : Prop where
  last : s.lastMsg = s.alerts.head?.bind fun a => if a.copied then some a.text else none
  id : ∀ a ∈ s.alerts.head?, a.status.moduleId.text = m
  seen : s.seen = s.alerts.head?.map fun a => a.status.d0State
  clean : OnlyChanges s

theorem inv_start (m : Text) (h : Hub) : Inv m (start h) where
  last := rfl
  id := fun _ ha => absurd ha (Option.not_mem_none _)
  seen := rfl
  clean := ⟨.nil, fun _ hp => absurd hp List.not_mem_nil⟩

section

variable {m : Text} {s : State} {st : HubDoorStatus}

theorem moduleId_of_status (hst : s.hub.hubUdpGetStatus m = some st) : st.moduleId.text = m := by
  rw [Hub.hubUdpGetStatus] at hst
  obtain ⟨d, hd, rfl⟩ := Option.map_eq_some_iff.mp hst
  exact (Hub.findDoor_eq_some_iff.mp hd).1.2

/-- A text that is sent again is about the same state. -/
theorem Inv.state_of_lastMsg (h : Inv m s) (hst : s.hub.hubUdpGetStatus m = some st)
    (hlast : s.lastMsg = some (alertText st st.d0Locked).text) :
    s.alerts.head?.map (fun a => a.status.d0State) = some st.d0State := by
  rw [h.last] at hlast
  obtain ⟨a, ha, htext⟩ := Option.bind_eq_some_iff.mp hlast
  split at htext
  · have hid := (h.id a ha).trans (moduleId_of_status hst).symm
    rw [ha, Option.map_some, d0State_of_alertText hid (Option.some.inj htext)]
  · cases htext

/-- With a steady poll, another text is about another state. -/
theorem Inv.ne_of_lastMsg (h : Inv m s) {copied : Bool} (hok : Steady m s (.poll true copied))
    (hst : s.hub.hubUdpGetStatus m = some st)
    (hlast : s.lastMsg ≠ some (alertText st st.d0Locked).text) :
    ∀ a ∈ s.alerts.head?, st.d0State ≠ a.status.d0State := by
  intro a ha hsame
  obtain ⟨hcopied, hms⟩ := hok rfl st hst a ha hsame.symm
  refine hlast ?_
  have hid := (h.id a ha).trans (moduleId_of_status hst).symm
  rw [h.last, ha, Option.bind_some, if_pos hcopied, Alert.text, alertText_congr hid hsame.symm hms]

theorem Inv.alert (h : Inv m s) {copied : Bool} (hst : s.hub.hubUdpGetStatus m = some st)
    (hne : ∀ a ∈ s.alerts.head?, st.d0State ≠ a.status.d0State) :
    Inv m { s with
      lastMsg := if copied then some (alertText st st.d0Locked).text else none
      alerts := ⟨st, copied⟩ :: s.alerts
      seen := some st.d0State
      before := s.seen :: s.before } := by
  refine ⟨?_, ?_, rfl, ?_, ?_⟩
  · rw [List.head?_cons, Option.bind_some]
    rfl
  · rintro a ha
    obtain rfl := Option.some.inj ha
    exact moduleId_of_status hst
  · cases hs : s.alerts with
    | nil => exact .singleton _
    | cons a rest =>
        have hchain := h.clean.alerts
        rw [hs] at hchain
        exact List.isChain_cons_cons.mpr ⟨hne a (by rw [hs]; rfl), hchain⟩
  · intro p hp
    rw [List.zip_cons_cons] at hp
    rcases List.mem_cons.mp hp with rfl | hp
    · dsimp only
      rw [h.seen]
      intro hseen
      obtain ⟨a, ha, hstate⟩ := Option.map_eq_some_iff.mp hseen
      exact hne a ha hstate.symm
    · exact h.clean.polls p hp

end

theorem inv_step (m : Text) (s : State) (l : Label) (s' : State) (h : Inv m s)
    (hok : Steady m s l) (hs : step m s l = some s') : Inv m s' := by
  cases l with
  | input i =>
      obtain rfl := Option.some.inj hs
      exact ⟨h.last, h.id, h.seen, h.clean.alerts, h.clean.polls⟩
  | poll provided copied =>
      obtain rfl := Option.some.inj hs
      cases hst : s.hub.hubUdpGetStatus m with
      | none =>
          rw [poll, hst]
          exact h
      | some st =>
          have hprovider : doorAlertProvider s.hub m = some (alertText st st.d0Locked) := by
            rw [doorAlertProvider, hst, Option.map_some]
          rw [poll, hst, hprovider]
          dsimp only
          split
          · exact h
          · rename_i hprovided
            obtain rfl := Bool.eq_true_of_not_eq_false hprovided
            split
            · rename_i hlast
              have hseen := h.state_of_lastMsg hst hlast
              exact ⟨h.last, h.id, hseen.symm, h.clean.alerts, h.clean.polls⟩
            · rename_i hlast
              exact h.alert hst (h.ne_of_lastMsg hok hst hlast)

/-- In every run in which no poll finds a newer heartbeat with door and lock as
last alerted, the monitor alerts on changes of door or lock only. -/
theorem onlyChanges {m : Text} {h : Hub} {ls : List Label} {s : State}
    (hr : Lts.run (step m) (start h) ls = some s)
    (hok : Lts.Along (step m) (Steady m) (start h) ls) : OnlyChanges s :=
  (Lts.inv_run (inv_step m) (inv_start m h) hok hr).clean

def heartbeat (t : Int) (d0Open : Bool) : Label :=
  .input (.datagram ⟨⟨1, 40001⟩, reportLine "D1".toList (.heartbeat d0Open true), t, t⟩)

theorem onlyChanges_opened :
    ∃ s, Lts.run (step "D1".toList) (start (.init [])) [heartbeat 10 false, .poll true true,
        .poll true true, heartbeat 20 true, .poll true true] = some s
      ∧ s.alerts.length = 2 ∧ OnlyChanges s := by
  have hobs : (Lts.run (step "D1".toList) (start (.init [])) [heartbeat 10 false, .poll true true,
      .poll true true, heartbeat 20 true, .poll true true]).map (fun s => s.alerts.length)
      = some 2 := by
    decide +kernel
  obtain ⟨s, hs, hlen⟩ := Option.map_eq_some_iff.mp hobs
  exact ⟨s, hs, hlen, onlyChanges hs (by decide +kernel)⟩

/-- Two heartbeats that say the same. -/
theorem onlyChanges_heartbeat :
    ∃ s, Lts.run (step "D1".toList) (start (.init [])) [heartbeat 10 false, .poll true true,
        heartbeat 20 false, .poll true true] = some s ∧ ¬OnlyChanges s := by
  have hobs : (Lts.run (step "D1".toList) (start (.init [])) [heartbeat 10 false, .poll true true,
      heartbeat 20 false, .poll true true]).map
        (fun s => s.alerts.map fun a => a.status.d0State)
      = some [(false, true), (false, true)] := by
    decide +kernel
  obtain ⟨s, hs, hstates⟩ := Option.map_eq_some_iff.mp hobs
  refine ⟨s, hs, fun hclean => ?_⟩
  have hchain := (List.isChain_map (R := fun x y => x ≠ y) fun a : Alert => a.status.d0State).mpr
    hclean.alerts
  rw [hstates] at hchain
  exact (List.isChain_cons_cons.mp hchain).1 rfl

end AlertMonitor

end HomeSecurity
