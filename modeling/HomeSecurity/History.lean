import HomeSecurity.HubTables
import HomeSecurity.RingLog

/-!
# Reading the history

`g_history` with its head and count is a `RingLog`, and `add_history` pushes
onto it (`ring_addHistory`). `hub_udp_get_history` reads it from the oldest
entry on, whatever the caller's limit is: `hubUdpGetHistory_newest_iff` says
when these are the most recent entries, which its header promises.
-/

namespace HomeSecurity

open CText

/-- The arguments of a call of `add_history`. -/
structure HistoryCall where
  moduleId : Text
  line : Text
  t : Int

/-- What `add_history` stores. -/
def HistoryCall.event (c : HistoryCall) : HubEvent :=
  ⟨c.t, snprintf hubModuleIdLen c.moduleId, snprintf hubLineLen c.line⟩

namespace Hub

def addCall (h : Hub) (c : HistoryCall) : Hub := h.addHistory c.moduleId c.line c.t

/-- `g_history`, `g_hist_head` and `g_hist_count`. -/
def ring (h : Hub) (hcount : h.histCount ≤ hubMaxHistory) : RingLog hubMaxHistory HubEvent :=
  ⟨h.history, h.histHead, h.histCount, hcount⟩

theorem addCall_histCount_le {h : Hub} (hcount : h.histCount ≤ hubMaxHistory) (c : HistoryCall) :
    (h.addCall c).histCount ≤ hubMaxHistory := by
  show (if h.histCount < hubMaxHistory then h.histCount + 1 else h.histCount) ≤ hubMaxHistory
  split <;> omega

theorem ring_addCall {h : Hub} (hcount : h.histCount ≤ hubMaxHistory) (c : HistoryCall) :
    (h.addCall c).ring (addCall_histCount_le hcount c) = (h.ring hcount).push c.event := by
  have hhead : h.histHead + 1 = ⟨(h.histHead.val + 1) % hubMaxHistory, Nat.mod_lt _ (by decide)⟩ :=
    Fin.ext (Fin.val_add ..)
  unfold ring RingLog.push
  simp only [← hhead]
  rfl

/-- After any calls the ring holds the last `HUB_MAX_HISTORY` of their events. -/
theorem ring_foldl_addCall (calls : List HistoryCall) {h : Hub}
    (hcount : h.histCount ≤ hubMaxHistory) :
    ∃ hcount' : (calls.foldl addCall h).histCount ≤ hubMaxHistory,
      (calls.foldl addCall h).ring hcount'
        = (calls.map HistoryCall.event).foldl RingLog.push (h.ring hcount) := by
  induction calls generalizing h with
  | nil => exact ⟨hcount, rfl⟩
  | cons c calls ih =>
      obtain ⟨hcount', heq⟩ := ih (addCall_histCount_le hcount c)
      refine ⟨hcount', ?_⟩
      rw [ring_addCall hcount c] at heq
      exact heq

/-- The oldest entries are returned, as many as asked for. -/
theorem hubUdpGetHistory_eq_take {h : Hub} (hcount : h.histCount ≤ hubMaxHistory)
    {maxEvents : Int} (hmax : 0 < maxEvents) :
    h.hubUdpGetHistory maxEvents = (h.ring hcount).toList.take maxEvents.toNat := by
  have hmin : (if (h.histCount : Int) < maxEvents then h.histCount else maxEvents.toNat)
      = min maxEvents.toNat h.histCount := by
    split <;> omega
  rw [hubUdpGetHistory, if_neg (by omega)]
  dsimp only
  rw [hmin, RingLog.toList, ← List.map_take, List.take_range]
  refine List.map_congr_left fun i _ => congrArg h.history (Fin.ext ?_)
  exact Nat.mod_add_mod ..

/-- What the ring holds after the calls, oldest first. -/
def kept (calls : List HistoryCall) : List HubEvent :=
  (calls.map HistoryCall.event).rtake hubMaxHistory

theorem length_kept (calls : List HistoryCall) :
    (kept calls).length = min calls.length hubMaxHistory := by
  rw [kept, List.rtake, List.length_drop, List.length_map]
  omega

theorem hubUdpGetHistory_addCalls (webhookUrl : Text) (calls : List HistoryCall)
    {maxEvents : Int} (hmax : 0 < maxEvents) :
    (calls.foldl addCall (.init webhookUrl)).hubUdpGetHistory maxEvents
      = (kept calls).take maxEvents.toNat := by
  have hinit : (Hub.init webhookUrl).histCount ≤ hubMaxHistory := Nat.zero_le _
  obtain ⟨hcount, hring⟩ := ring_foldl_addCall calls hinit
  rw [hubUdpGetHistory_eq_take hcount hmax, hring, RingLog.toList_foldl_push]
  rfl

/-- The most recent events kept are the most recent events added. -/
theorem kept_rtake {calls : List HistoryCall} {k : Nat} (hk : k ≤ hubMaxHistory) :
    (kept calls).rtake k = (calls.map HistoryCall.event).rtake k := by
  simp only [kept, List.rtake_eq_reverse_take_reverse, List.reverse_reverse, List.take_take]
  rw [Nat.min_eq_left hk]

/-- As many events as there can be are returned, and they are the most recent
ones exactly if the limit covers all that is kept, or what is kept repeats with
the length it exceeds the limit by as period. -/
theorem hubUdpGetHistory_newest_iff (webhookUrl : Text) (calls : List HistoryCall)
    {maxEvents : Int} (hmax : 0 < maxEvents) :
    ((calls.foldl addCall (.init webhookUrl)).hubUdpGetHistory maxEvents).length
        = min maxEvents.toNat (min calls.length hubMaxHistory)
      ∧ ((calls.foldl addCall (.init webhookUrl)).hubUdpGetHistory maxEvents
          = (calls.map HistoryCall.event).rtake
            (min maxEvents.toNat (min calls.length hubMaxHistory))
        ↔ min calls.length hubMaxHistory ≤ maxEvents.toNat
          ∨ RingLog.Repeats (kept calls)
            (min calls.length hubMaxHistory - maxEvents.toNat)) := by
  have hlen := length_kept calls
  rw [hubUdpGetHistory_addCalls webhookUrl calls hmax]
  constructor
  · rw [List.length_take, hlen]
  · have hnewest : (calls.map HistoryCall.event).rtake
        (min maxEvents.toNat (min calls.length hubMaxHistory))
        = (kept calls).rtake maxEvents.toNat := by
      have hskip : min calls.length hubMaxHistory
          - min maxEvents.toNat (min calls.length hubMaxHistory)
          = min calls.length hubMaxHistory - maxEvents.toNat := by
        omega
      rw [← kept_rtake (by omega), List.rtake, List.rtake, hlen, hskip]
    rw [hnewest, RingLog.take_eq_rtake_iff, hlen]

/-- Two events, and room for both. -/
def twoCalls : List HistoryCall :=
  [⟨"D1".toList, "D1 HELLO".toList, 10⟩, ⟨"D1".toList, "D1 EVENT".toList, 20⟩]

theorem hubUdpGetHistory_newest_iff_two :
    (twoCalls.foldl addCall (.init [])).hubUdpGetHistory 2
      = (twoCalls.map HistoryCall.event).rtake 2 :=
  (hubUdpGetHistory_newest_iff [] twoCalls (show (0 : Int) < 2 by decide)).2.mpr
    (Or.inl (by decide))

/-- With room for one only, the older one is returned. -/
theorem hubUdpGetHistory_oldest :
    ¬∀ (webhookUrl : Text) (calls : List HistoryCall) (maxEvents : Int), 0 < maxEvents →
      (calls.foldl addCall (.init webhookUrl)).hubUdpGetHistory maxEvents
        = (calls.map HistoryCall.event).rtake
          (min maxEvents.toNat (min calls.length hubMaxHistory)) := by
  intro hall
  have hsame := congrArg (List.map HubEvent.timestampMs) (hall [] twoCalls 1 (by decide))
  rw [hubUdpGetHistory_addCalls [] twoCalls (by decide)] at hsame
  exact absurd hsame (by decide)

end Hub

end HomeSecurity
