import HomeSecurity.History
import HomeSecurity.HubEffects

/-!
# What an offline check does

`check_offline_modules` visits the entries in order. What it does to one depends
on that entry alone (`offlineEdge`): nothing, or it flips the flag, adds one
event to the history and requests one alert. `checkOfflineModules_eq` is the
whole effect of a check: the entries become their `checked`, and the events of
`systemEvents` go to the history and to the alerts, in order.
-/

namespace HomeSecurity

open CText

/-! ## One entry -/

namespace HubDoorStatus

/-- `should_be_offline`. -/
def overdue (e : HubDoorStatus) (now : Int) : Bool :=
  decide (now - e.lastHeartbeatMs > hubOfflineTimeoutMs)

/-- The value the check gives the flag, if it changes it. -/
def offlineEdge (e : HubDoorStatus) (now : Int) : Option Bool :=
  if e.known && e.overdue now != e.offline then some (e.overdue now) else none

def setOffline (e : HubDoorStatus) (off : Bool) (now : Int) : HubDoorStatus :=
  { e with offline := off, lastOnlineMs := if off then now else e.lastOnlineMs }

/-- The entry after a check. -/
def checked (e : HubDoorStatus) (now : Int) : HubDoorStatus :=
  match e.offlineEdge now with
  | some off => e.setOffline off now
  | none => e

theorem checked_of_edge {e : HubDoorStatus} {now : Int} {off : Bool}
    (hedge : e.offlineEdge now = some off) : e.checked now = e.setOffline off now := by
  rw [checked, hedge]

theorem checked_of_none {e : HubDoorStatus} {now : Int} (hedge : e.offlineEdge now = none) :
    e.checked now = e := by
  rw [checked, hedge]

theorem offlineEdge_eq_some_iff {e : HubDoorStatus} {now : Int} {off : Bool} :
    e.offlineEdge now = some off ↔ e.known = true ∧ e.overdue now = off ∧ off ≠ e.offline := by
  unfold offlineEdge
  split
  · rename_i hcond
    rw [Bool.and_eq_true, bne_iff_ne] at hcond
    constructor
    · intro heq
      obtain rfl := Option.some.inj heq
      exact ⟨hcond.1, rfl, hcond.2⟩
    · rintro ⟨-, rfl, -⟩
      rfl
  · rename_i hcond
    rw [Bool.and_eq_true, bne_iff_ne] at hcond
    constructor
    · intro heq
      cases heq
    · rintro ⟨hknown, rfl, hne⟩
      exact absurd ⟨hknown, hne⟩ hcond

theorem checked_key (e : HubDoorStatus) (now : Int) : (e.checked now).key = e.key := by
  unfold checked
  split <;> rfl

theorem checked_lastHeartbeatMs (e : HubDoorStatus) (now : Int) :
    (e.checked now).lastHeartbeatMs = e.lastHeartbeatMs := by
  unfold checked
  split <;> rfl

/-- After a check the flag of a known entry says whether it is overdue. -/
theorem checked_offline {e : HubDoorStatus} (hknown : e.known = true) (now : Int) :
    (e.checked now).offline = e.overdue now := by
  cases hedge : e.offlineEdge now with
  | some off =>
      rw [checked_of_edge hedge]
      exact (offlineEdge_eq_some_iff.mp hedge).2.1.symm
  | none =>
      rw [checked_of_none hedge]
      by_contra hne
      have hsome := offlineEdge_eq_some_iff.mpr ⟨hknown, rfl, fun h => hne h.symm⟩
      rw [hedge] at hsome
      cases hsome

end HubDoorStatus

/-! ## One visit -/

def systemState (off : Bool) : Text := if off then "OFFLINE".toList else "ONLINE".toList

/-- The history entry of an edge: `"%s EVENT SYSTEM OFFLINE\n"` or
`"%s EVENT SYSTEM ONLINE\n"`. -/
def systemCall (m : Text) (off : Bool) (now : Int) : HistoryCall :=
  ⟨m, m ++ " EVENT SYSTEM ".toList ++ systemState off ++ ['\n'], now⟩

namespace Hub

/-- The alert request of an edge. -/
def systemAlert (h : Hub) (m : Text) (off : Bool) : List HubOut :=
  h.triggerDiscordAlert m "SYSTEM".toList "MODULE".toList (systemState off)

theorem checkOfflineDoor_of_none {h : Hub} {i : Fin hubMaxDoors} {now : Int}
    (hedge : (h.doors i).offlineEdge now = none) (outs : List HubOut) :
    checkOfflineDoor now (h, outs) i = (h, outs) := by
  unfold HubDoorStatus.offlineEdge HubDoorStatus.overdue at hedge
  unfold checkOfflineDoor
  dsimp only
  cases hknown : (h.doors i).known with
  | false => rfl
  | true =>
      rw [hknown] at hedge
      cases hover : decide (now - (h.doors i).lastHeartbeatMs > hubOfflineTimeoutMs) <;>
        cases hoff : (h.doors i).offline <;>
        simp_all

theorem checkOfflineDoor_of_edge {h : Hub} {i : Fin hubMaxDoors} {now : Int} {off : Bool}
    (hedge : (h.doors i).offlineEdge now = some off) (outs : List HubOut) :
    checkOfflineDoor now (h, outs) i
      = ((h.modifyDoor i fun e => e.checked now).addCall
          (systemCall (h.doors i).moduleId.text off now),
        outs ++ h.systemAlert (h.doors i).moduleId.text off) := by
  obtain ⟨hknown, hover, hne⟩ := HubDoorStatus.offlineEdge_eq_some_iff.mp hedge
  have hmod : (h.modifyDoor i fun e => e.checked now)
      = h.modifyDoor i fun e => e.setOffline off now := by
    rw [modifyDoor, modifyDoor, HubDoorStatus.checked_of_edge hedge]
  rw [hmod]
  unfold HubDoorStatus.overdue at hover
  unfold checkOfflineDoor
  dsimp only
  rw [hover, hknown]
  cases off with
  | true =>
      rw [Bool.eq_false_iff.mpr (Ne.symm hne)]
      simp only [systemCall, List.append_assoc]
      rfl
  | false =>
      rw [(Bool.eq_true_of_not_eq_false (Ne.symm hne) : (h.doors i).offline = true)]
      simp only [systemCall, List.append_assoc]
      rfl

/-! ## A whole check -/

/-- The edges among the entries `is`, in order. -/
def edgesOf (h : Hub) (now : Int) (is : List (Fin hubMaxDoors)) : List (Fin hubMaxDoors × Bool) :=
  is.filterMap fun i => ((h.doors i).offlineEdge now).map fun off => (i, off)

/-- The edges of a check. -/
def systemEvents (h : Hub) (now : Int) : List (Fin hubMaxDoors × Bool) :=
  h.edgesOf now (List.finRange hubMaxDoors)

/-- What the edges add to the history. -/
def systemCalls (h : Hub) (now : Int) (edges : List (Fin hubMaxDoors × Bool)) :
    List HistoryCall :=
  edges.map fun p => systemCall (h.doors p.1).moduleId.text p.2 now

/-- The alert requests for the edges. -/
def systemAlerts (h : Hub) (edges : List (Fin hubMaxDoors × Bool)) : List HubOut :=
  edges.flatMap fun p => h.systemAlert (h.doors p.1).moduleId.text p.2

def withDoors (h : Hub) (doors : Fin hubMaxDoors → HubDoorStatus) : Hub :=
  { h with doors := doors }

theorem foldl_addCall_withDoors (doors : Fin hubMaxDoors → HubDoorStatus)
    (calls : List HistoryCall) (h : Hub) :
    calls.foldl addCall (h.withDoors doors) = (calls.foldl addCall h).withDoors doors := by
  induction calls generalizing h with
  | nil => rfl
  | cons c calls ih => exact ih (h.addCall c)

/-- What a visit of an entry with an edge leaves of the others. -/
structure Visited (h h' : Hub) (i : Fin hubMaxDoors) : Prop where
  webhookUrl : h'.webhookUrl = h.webhookUrl
  moduleId : ∀ j, (h'.doors j).moduleId = (h.doors j).moduleId
  others : ∀ j, j ≠ i → h'.doors j = h.doors j

theorem visited_checked (h : Hub) (i : Fin hubMaxDoors) (now : Int) (c : HistoryCall) :
    Visited h ((h.modifyDoor i fun e => e.checked now).addCall c) i := by
  have hothers : ∀ j, j ≠ i →
      ((h.modifyDoor i fun e => e.checked now).addCall c).doors j = h.doors j :=
    fun j hj => Function.update_of_ne hj ..
  refine ⟨rfl, fun j => ?_, hothers⟩
  by_cases hj : j = i
  · subst hj
    have hself : ((h.modifyDoor j fun e => e.checked now).addCall c).doors j
        = (h.doors j).checked now := Function.update_self ..
    rw [hself]
    exact congrArg Prod.snd ((h.doors j).checked_key now)
  · rw [hothers j hj]

section Visited

variable {h h' : Hub} {i : Fin hubMaxDoors}

theorem Visited.edgesOf (hv : Visited h h' i) (now : Int) {is : List (Fin hubMaxDoors)}
    (hi : i ∉ is) : h'.edgesOf now is = h.edgesOf now is := by
  refine List.filterMap_congr fun j hj => ?_
  have hne : j ≠ i := by
    rintro rfl
    exact hi hj
  rw [hv.others j hne]

theorem Visited.systemCalls (hv : Visited h h' i) (now : Int)
    (edges : List (Fin hubMaxDoors × Bool)) :
    h'.systemCalls now edges = h.systemCalls now edges :=
  List.map_congr_left fun p _ => by rw [hv.moduleId p.1]

theorem Visited.systemAlerts (hv : Visited h h' i) (edges : List (Fin hubMaxDoors × Bool)) :
    h'.systemAlerts edges = h.systemAlerts edges := by
  unfold Hub.systemAlerts Hub.systemAlert triggerDiscordAlert
  rw [hv.webhookUrl]
  simp only [hv.moduleId]

end Visited

theorem foldl_checkOfflineDoor (now : Int) {is : List (Fin hubMaxDoors)} (hnodup : is.Nodup)
    (h : Hub) (outs : List HubOut) :
    is.foldl (checkOfflineDoor now) (h, outs)
      = (((h.systemCalls now (h.edgesOf now is)).foldl addCall h).withDoors fun j =>
            if j ∈ is then (h.doors j).checked now else h.doors j,
          outs ++ h.systemAlerts (h.edgesOf now is)) := by
  induction is generalizing h outs with
  | nil => simp [edgesOf, systemCalls, systemAlerts, withDoors]
  | cons i is ih =>
      obtain ⟨hi, hnodup⟩ := List.nodup_cons.mp hnodup
      rw [List.foldl_cons]
      cases hedge : (h.doors i).offlineEdge now with
      | none =>
          have hedges : h.edgesOf now (i :: is) = h.edgesOf now is := by
            rw [edgesOf, List.filterMap_cons, hedge]
            rfl
          rw [checkOfflineDoor_of_none hedge, ih hnodup, hedges]
          congr 2
          funext j
          by_cases hj : j = i
          · subst hj
            simp [HubDoorStatus.checked_of_none hedge]
          · simp [hj]
      | some off =>
          have hedges : h.edgesOf now (i :: is) = (i, off) :: h.edgesOf now is := by
            rw [edgesOf, List.filterMap_cons, hedge]
            rfl
          have hv := h.visited_checked i now (systemCall (h.doors i).moduleId.text off now)
          rw [checkOfflineDoor_of_edge hedge, ih hnodup, hv.edgesOf now hi, hv.systemCalls,
            hv.systemAlerts, hedges]
          have hdoors : (fun j => if j ∈ is then
                (((h.modifyDoor i fun e => e.checked now).addCall
                  (systemCall (h.doors i).moduleId.text off now)).doors j).checked now
              else ((h.modifyDoor i fun e => e.checked now).addCall
                  (systemCall (h.doors i).moduleId.text off now)).doors j)
              = fun j => if j ∈ i :: is then (h.doors j).checked now else h.doors j := by
            funext j
            by_cases hj : j = i
            · subst hj
              rw [if_neg hi, if_pos (List.mem_cons_self ..)]
              exact Function.update_self ..
            · rw [hv.others j hj]
              simp [hj]
          rw [hdoors]
          have hcalls := foldl_addCall_withDoors
            ((h.modifyDoor i fun e => e.checked now).doors) (h.systemCalls now (h.edgesOf now is))
            (h.addCall (systemCall (h.doors i).moduleId.text off now))
          refine Prod.ext ?_ (List.append_assoc ..)
          exact (congrArg (fun h' : Hub => h'.withDoors _) hcalls).trans rfl

/-- The whole effect of a check. -/
theorem checkOfflineModules_eq (h : Hub) (now : Int) :
    h.checkOfflineModules now
      = (((h.systemCalls now (h.systemEvents now)).foldl addCall h).withDoors fun i =>
            (h.doors i).checked now,
          h.systemAlerts (h.systemEvents now)) := by
  rw [checkOfflineModules, foldl_checkOfflineDoor now (List.nodup_finRange _)]
  simp [systemEvents]

/-- With a webhook configured, one alert for each edge. -/
theorem length_systemAlerts {h : Hub} (hurl : h.webhookUrl ≠ [])
    (edges : List (Fin hubMaxDoors × Bool)) : (h.systemAlerts edges).length = edges.length := by
  have hone : ∀ p : Fin hubMaxDoors × Bool,
      (h.systemAlert (h.doors p.1).moduleId.text p.2).length = 1 := by
    intro p
    rw [systemAlert, triggerDiscordAlert, if_neg hurl]
    rfl
  induction edges with
  | nil => rfl
  | cons p edges ih =>
      rw [systemAlerts, List.flatMap_cons, List.length_append, hone, List.length_cons, ← ih,
        systemAlerts, Nat.add_comm]

theorem checkOfflineModules_doors (h : Hub) (now : Int) (i : Fin hubMaxDoors) :
    (h.checkOfflineModules now).1.doors i = (h.doors i).checked now := by
  rw [checkOfflineModules_eq]
  rfl

end Hub

end HomeSecurity
