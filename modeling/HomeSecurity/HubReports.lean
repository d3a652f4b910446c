import HomeSecurity.DoorUdp
import HomeSecurity.HubEffects

/-!
# A door's reports at the hub

What a module's HELLO, HEARTBEAT and EVENT lines make of the two values the hub
keeps for it - whether the door is open (D0) and whether the lock is locked
(D1) - and, with that, what a hub shows that receives every report in order.
-/

namespace HomeSecurity

open CText

inductive Part where
  | door
  | lock
deriving DecidableEq

def pair (isOpen locked : Bool) : Part → Bool
  | .door => isOpen
  | .lock => locked

/-- What the door last reported. -/
def DoorUdp.view (s : DoorUdp) : Part → Bool := pair s.prevD0Open s.prevD1Locked

/-- What the hub shows for a module. -/
def HubDoorStatus.view (e : HubDoorStatus) : Part → Bool := pair e.d0Open e.d1Locked

def Report.effect : Report → (Part → Bool) → Part → Bool
  | .hello, v => v
  | .heartbeat o l, _ => pair o l
  | .doorEvent o, v => Function.update v .door o
  | .lockEvent l, v => Function.update v .lock l

theorem update_pair_door (isOpen locked x : Bool) :
    Function.update (pair isOpen locked) .door x = pair x locked := by
  funext k
  cases k <;> rfl

theorem update_pair_lock (isOpen locked x : Bool) :
    Function.update (pair isOpen locked) .lock x = pair isOpen x := by
  funext k
  cases k <;> rfl

theorem lineStatus_view (e : HubDoorStatus) (m : Text) (r : Report) (dg : Datagram) :
    (lineStatus e m r.type r.args dg).view = r.effect e.view := by
  cases r with
  | hello => rfl
  | heartbeat o l => cases o <;> cases l <;> rfl
  | doorEvent o =>
      rw [Report.effect, HubDoorStatus.view, HubDoorStatus.view, update_pair_door]
      cases o <;> rfl
  | lockEvent l =>
      rw [Report.effect, HubDoorStatus.view, HubDoorStatus.view, update_pair_lock]
      cases l <;> rfl

/-- Applied in order to what was reported before, the reports of an update give
the updated values. -/
theorem reports_effect {s : DoorUdp} (hsock : s.sockOpen = true) (hmode : s.mode = .both)
    (t : Int) (d0Open d1Locked : Bool) {v : Part → Bool}
    (hv : s.prevValid = true → v = s.view) :
    (s.reports t d0Open d1Locked).foldl (fun v r => r.effect v) v = pair d0Open d1Locked := by
  rw [DoorUdp.reports, hsock, hmode]
  cases hprev : s.prevValid with
  | false => rfl
  | true =>
      obtain rfl := hv hprev
      have hdoor : (if d0Open != s.prevD0Open then [Report.doorEvent d0Open] else []).foldl
          (fun v r => r.effect v) s.view = pair d0Open s.prevD1Locked := by
        by_cases heq : d0Open = s.prevD0Open
        · rw [heq, bne_self_eq_false]
          rfl
        · rw [if_pos (bne_iff_ne.mpr heq)]
          exact update_pair_door ..
      have hlock : (if d1Locked != s.prevD1Locked then [Report.lockEvent d1Locked] else []).foldl
          (fun v r => r.effect v) (pair d0Open s.prevD1Locked) = pair d0Open d1Locked := by
        by_cases heq : d1Locked = s.prevD1Locked
        · rw [heq, bne_self_eq_false]
          rfl
        · rw [if_pos (bne_iff_ne.mpr heq)]
          exact update_pair_lock ..
      simp only [Bool.not_true, Bool.false_eq_true, if_false, DoorReportMode.both, Bool.true_and,
        List.foldl_append]
      rw [hdoor, hlock]
      cases s.heartbeatDue t <;> rfl

namespace Hub

/-- A report of a tracked module changes its entry and keeps it in its place. -/
theorem handleLine_reportBuf_status {h : Hub} {d : Fin hubMaxDoors} {m : Text}
    (hm : IsModuleId m) (hd : h.findDoor m = some d) (r : Report) (src : SockAddr)
    (t issued : Int) :
    (h.handleLine ⟨src, (reportBuf m r).text, t, issued⟩).1.findDoor m = some d
      ∧ (h.handleLine ⟨src, (reportBuf m r).text, t, issued⟩).1.doors d
        = lineStatus (h.doors d) m r.type r.args ⟨src, (reportBuf m r).text, t, issued⟩ := by
  have htok : Datagram.tokens ⟨src, (reportBuf m r).text, t, issued⟩ = m :: r.type :: r.args := by
    rw [Datagram.tokens_eq, wireTokens_reportBuf hm r]
  have hdoors := handleLine_doors_of_find htok hd
  refine ⟨(findDoor_of_update hdoors (lineStatus_key ..) m).trans hd, ?_⟩
  rw [hdoors, Function.update_self]

theorem handleLine_reportBuf {h : Hub} {d : Fin hubMaxDoors} {m : Text} (hm : IsModuleId m)
    (hd : h.findDoor m = some d) (r : Report) (src : SockAddr) (t issued : Int) :
    (h.handleLine ⟨src, (reportBuf m r).text, t, issued⟩).1.findDoor m = some d
      ∧ ((h.handleLine ⟨src, (reportBuf m r).text, t, issued⟩).1.doors d).view
        = r.effect (h.doors d).view := by
  obtain ⟨hfind, hdoor⟩ := handleLine_reportBuf_status hm hd r src t issued
  exact ⟨hfind, by rw [hdoor, lineStatus_view]⟩

/-- One datagram of a door is received, at the times `arrive` says. -/
def receive (src : SockAddr) (arrive : DoorSend → Int) (h : Hub) (send : DoorSend) : Hub :=
  (h.handleLine ⟨src, send.line.text, arrive send, arrive send⟩).1

section Receive

variable {h : Hub} {d : Fin hubMaxDoors} {m : Text}

/-- All of the reports, in order and without loss: whatever each of them does to
a reading `f` of the entry is done in that order. -/
theorem receive_reports_of {α : Type} {f : HubDoorStatus → α} {g : Report → α → α}
    (hfg : ∀ e r dg, f (lineStatus e m r.type r.args dg) = g r (f e)) (hm : IsModuleId m)
    (src : SockAddr) (arrive : DoorSend → Int) {sends : List DoorSend} {rs : List Report}
    (hsends : sends.map DoorSend.line = rs.map (reportBuf m)) (hd : h.findDoor m = some d) :
    (sends.foldl (receive src arrive) h).findDoor m = some d
      ∧ f ((sends.foldl (receive src arrive) h).doors d)
        = rs.foldl (fun v r => g r v) (f (h.doors d)) := by
  induction sends generalizing rs h with
  | nil =>
      obtain rfl := List.map_eq_nil_iff.mp hsends.symm
      exact ⟨hd, rfl⟩
  | cons send sends ih =>
      cases rs with
      | nil => cases hsends
      | cons r rs =>
          obtain ⟨hline, hrest⟩ := List.cons.inj hsends
          have hstep := handleLine_reportBuf_status hm hd r src (arrive send) (arrive send)
          rw [← hline] at hstep
          obtain ⟨hfind, hread⟩ := ih hrest hstep.1
          refine ⟨hfind, ?_⟩
          rw [List.foldl_cons, List.foldl_cons, ← hfg, ← hstep.2]
          exact hread

theorem receive_reports (hm : IsModuleId m) (src : SockAddr) (arrive : DoorSend → Int)
    {sends : List DoorSend} {rs : List Report}
    (hsends : sends.map DoorSend.line = rs.map (reportBuf m)) (hd : h.findDoor m = some d) :
    (sends.foldl (receive src arrive) h).findDoor m = some d
      ∧ ((sends.foldl (receive src arrive) h).doors d).view
        = rs.foldl (fun v r => r.effect v) (h.doors d).view :=
  receive_reports_of (fun e r dg => lineStatus_view e m r dg) hm src arrive hsends hd

end Receive

/-- A hub that has heard a HELLO of `D1`. -/
def greeted : Hub :=
  ((Hub.init []).handleLine ⟨⟨1, 40000⟩, reportLine "D1".toList .hello, 0, 0⟩).1

theorem greeted_tracks : greeted.Tracks 0 "D1".toList := by decide +kernel

end Hub

end HomeSecurity
