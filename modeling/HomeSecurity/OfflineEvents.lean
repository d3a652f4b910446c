import Mathlib.Data.List.Chain
import HomeSecurity.Lts
import HomeSecurity.OfflineCheck

/-!
# Offline events over a run

Datagrams and offline checks in any order, at any clock readings, with the edges
of all checks kept in a log. The flag of an entry is its last edge (`Inv`), so
its edges alternate; `offlineExact` adds what each step of the run does to the
flags, the history and the alerts.
-/

namespace HomeSecurity

open CText

/-! ## Alerts of a check and of a line -/

/-- What follows the bracketed id of an alert text. -/
theorem dropWhile_bracketed {m : Text} (hspace : ' ' ∉ m) (rest : Text) :
    ('[' :: (m ++ ']' :: ' ' :: rest)).dropWhile (· ≠ ' ') = ' ' :: rest := by
  have hm : ∀ c ∈ m, decide (c ≠ ' ') = true := by
    intro c hc
    rw [decide_eq_true_eq]
    rintro rfl
    exact hspace hc
  rw [List.dropWhile_cons_of_pos (by decide), List.dropWhile_append_of_pos hm]
  rfl

namespace Hub

/-- No alert about a door or a lock reads as one of an offline check. -/
theorem systemAlert_not_mem_handleLine {h : Hub} {m : Text} (hshort : m.length < 16)
    (hspace : ' ' ∉ m) (off : Bool) (dg : Datagram) :
    ∀ o ∈ h.systemAlert m off, o ∉ (h.handleLine dg).2 := by
  intro o ho hmem
  obtain ⟨mod, type, args, htok, hout⟩ := handleLine_out hmem
  obtain ⟨msg, rfl⟩ := triggerDiscordAlert_out ho
  rcases hout with
    ⟨-, which, what, state, -, hwhich, -, ho'⟩ | ⟨-, ho' | ⟨_, _, _, ho'⟩⟩ | ⟨-, _, ho'⟩
  · have hmod : ' ' ∉ mod := by
      intro hc
      have hword : IsWord isDelim mod := strtok_isWord (htok ▸ List.mem_cons_self ..)
      exact absurd (hword.free ' ' hc) (by decide)
    unfold systemAlert triggerDiscordAlert at ho
    unfold triggerDiscordAlert at ho'
    split at ho
    · cases ho
    · rename_i hurl
      rw [if_neg hurl, List.mem_singleton] at ho'
      rw [List.mem_singleton.mp ho] at ho'
      have hlen : (systemState off).length ≤ 7 := by cases off <;> decide
      have htext := snprintf_inj (by simp; omega) (HubOut.alert.inj ho').symm
      simp only [List.append_assoc, List.cons_append] at htext
      -- behind the id comes the word MODULE in one text, D0 or D1 in the other
      have hbehind := congrArg (List.dropWhile (· ≠ ' ')) htext
      have hsplit : ∀ rest : Text, "] ".toList ++ rest = ']' :: ' ' :: rest := fun _ => rfl
      rw [hsplit, hsplit, dropWhile_bracketed hmod, dropWhile_bracketed hspace] at hbehind
      rcases hwhich with rfl | rfl
      · exact absurd (List.cons.inj (List.cons.inj hbehind).2).1 (by decide)
      · exact absurd (List.cons.inj (List.cons.inj hbehind).2).1 (by decide)
  · cases ho'
  · cases ho'
  · cases ho'

end Hub

namespace OfflineEvents

structure State where
  hub : Hub
  /-- The edges of all checks so far. -/
  events : List (Fin hubMaxDoors × Bool)

def start (webhookUrl : Text) : State := ⟨.init webhookUrl, []⟩

def inputEvents (h : Hub) : Hub.Input → List (Fin hubMaxDoors × Bool)
  | .datagram _ => []
  | .check now => h.systemEvents now

def step (s : State) (i : Hub.Input) : Option State :=
  some ⟨(s.hub.input i).1, s.events ++ inputEvents s.hub i⟩

/-- The edges of entry `i`: `true` for OFFLINE, `false` for ONLINE. -/
def kindsOf (i : Fin hubMaxDoors) (events : List (Fin hubMaxDoors × Bool)) : List Bool :=
  events.filterMap fun p => if p.1 = i then some p.2 else none

theorem kindsOf_append (i : Fin hubMaxDoors) (events events' : List (Fin hubMaxDoors × Bool)) :
    kindsOf i (events ++ events') = kindsOf i events ++ kindsOf i events' :=
  List.filterMap_append ..

/-- An entry takes part in a check once, if it is visited. -/
theorem kindsOf_edgesOf (h : Hub) (now : Int) (i : Fin hubMaxDoors) {is : List (Fin hubMaxDoors)}
    (hnodup : is.Nodup) :
    kindsOf i (h.edgesOf now is)
      = if i ∈ is then ((h.doors i).offlineEdge now).toList else [] := by
  induction is with
  | nil => rfl
  | cons j is ih =>
      obtain ⟨hj, hnodup⟩ := List.nodup_cons.mp hnodup
      have hcons : h.edgesOf now (j :: is)
          = (((h.doors j).offlineEdge now).map fun off => (j, off)).toList
            ++ h.edgesOf now is := by
        rw [Hub.edgesOf, List.filterMap_cons]
        cases (h.doors j).offlineEdge now <;> rfl
      rw [hcons, kindsOf_append, ih hnodup]
      by_cases hij : i = j
      · subst hij
        rw [if_neg hj, if_pos (List.mem_cons_self ..), List.append_nil]
        cases (h.doors i).offlineEdge now <;> simp [kindsOf]
      · have hhead : kindsOf i (((h.doors j).offlineEdge now).map fun off => (j, off)).toList
            = [] := by
          cases (h.doors j).offlineEdge now <;> simp [kindsOf, Ne.symm hij]
        rw [hhead, List.nil_append]
        simp [hij]

theorem kindsOf_systemEvents (h : Hub) (now : Int) (i : Fin hubMaxDoors) :
    kindsOf i (h.systemEvents now) = ((h.doors i).offlineEdge now).toList := by
  rw [Hub.systemEvents, kindsOf_edgesOf h now i (List.nodup_finRange _),
    if_pos (List.mem_finRange i)]

/-- What holds of an entry and its edges: they alternate from ONLINE on, the
flag is the last of them, and no entry is flagged before it is known. -/
structure EntryInv (e : HubDoorStatus) (kinds : List Bool) : Prop where
  chain : List.IsChain (· ≠ ·) (false :: kinds)
  last : (false :: kinds).getLast? = some e.offline
  unknown : e.known = false → e.offline = false
  spaceFree : ' ' ∉ e.moduleId.text

def Inv (s : State) : Prop := ∀ i, EntryInv (s.hub.doors i) (kindsOf i s.events)

theorem inv_start (webhookUrl : Text) : Inv (start webhookUrl) := by
  intro i
  exact ⟨List.isChain_singleton _, rfl, fun _ => rfl, List.not_mem_nil⟩

theorem EntryInv.line {e : HubDoorStatus} {kinds : List Bool} (h : EntryInv e kinds)
    (mod type : Text) (args : List Text) (dg : Datagram) :
    EntryInv (lineStatus e mod type args dg) kinds := by
  have hoff := lineStatus_offline e mod type args dg
  have hkey := lineStatus_key e mod type args dg
  refine ⟨h.chain, by rw [hoff]; exact h.last, fun hunk => ?_, ?_⟩
  · rw [hoff]
    exact h.unknown ((congrArg Prod.fst hkey).symm.trans hunk)
  · rw [show (lineStatus e mod type args dg).moduleId = e.moduleId from congrArg Prod.snd hkey]
    exact h.spaceFree

/-- A fresh entry takes over from one that was unknown. -/
theorem EntryInv.fresh {e : HubDoorStatus} {kinds : List Bool} (h : EntryInv e kinds)
    (hunk : e.known = false) {mod : Text} (hmod : IsWord isDelim mod) :
    EntryInv (Hub.freshDoor mod) kinds := by
  refine ⟨h.chain, ?_, fun _ => rfl, fun hc => ?_⟩
  · rw [h.last, h.unknown hunk]
    rfl
  · have hspace := hmod.free ' ' (List.mem_of_mem_take hc)
    cases hspace

theorem EntryInv.check {e : HubDoorStatus} {kinds : List Bool} (h : EntryInv e kinds)
    (now : Int) : EntryInv (e.checked now) (kinds ++ (e.offlineEdge now).toList) := by
  cases hedge : e.offlineEdge now with
  | none =>
      rw [HubDoorStatus.checked_of_none hedge, Option.toList_none, List.append_nil]
      exact h
  | some off =>
      obtain ⟨hknown, -, hne⟩ := HubDoorStatus.offlineEdge_eq_some_iff.mp hedge
      rw [HubDoorStatus.checked_of_edge hedge, Option.toList_some]
      refine ⟨?_, ?_, fun hunk => ?_, h.spaceFree⟩
      · refine List.IsChain.append h.chain (List.isChain_singleton off) fun x hx y hy => ?_
        rw [h.last] at hx
        obtain rfl := Option.some.inj hx
        obtain rfl := Option.some.inj hy
        exact Ne.symm hne
      · rw [← List.cons_append]
        exact List.getLast?_concat ..
      · rw [show (e.setOffline off now).known = e.known from rfl, hknown] at hunk
        cases hunk

theorem inv_step (s : State) (i : Hub.Input) (s' : State) (h : Inv s) (hs : step s i = some s') :
    Inv s' := by
  obtain rfl := Option.some.inj hs
  intro j
  rw [kindsOf_append]
  cases i with
  | datagram dg =>
      show EntryInv ((s.hub.handleLine dg).1.doors j) (kindsOf j s.events ++ kindsOf j [])
      rw [show kindsOf j [] = [] from rfl, List.append_nil]
      rcases Hub.handleLine_door s.hub dg j with heq | ⟨mod, type, args, e, htok, hcase, heq⟩
      · rw [heq]
        exact h j
      · rw [heq]
        rcases hcase with ⟨-, rfl⟩ | ⟨-, hunk, rfl⟩
        · exact (h j).line ..
        · have hmod : IsWord isDelim mod := strtok_isWord (htok ▸ List.mem_cons_self ..)
          exact ((h j).fresh hunk hmod).line ..
  | check now =>
      show EntryInv ((s.hub.checkOfflineModules now).1.doors j) _
      rw [Hub.checkOfflineModules_doors]
      show EntryInv _ (kindsOf j s.events ++ kindsOf j (s.hub.systemEvents now))
      rw [kindsOf_systemEvents]
      exact (h j).check now

/-! ## The theorem -/

/-- What is exact about one input. A check leaves every known entry flagged
exactly if its last heartbeat is over the timeout, adds to the history one event
for each edge and nothing else, and requests one alert for each, in order, which
is sent if there is a webhook; a datagram causes no alert of this kind. -/
def Exact (s : State) : Hub.Input → Prop
  | .check now =>
      (∀ i, ((s.hub.checkOfflineModules now).1.doors i).known = true →
        (((s.hub.checkOfflineModules now).1.doors i).offline = true ↔
          now - ((s.hub.checkOfflineModules now).1.doors i).lastHeartbeatMs
            > hubOfflineTimeoutMs)) ∧
      (s.hub.checkOfflineModules now).1.withDoors s.hub.doors
        = (s.hub.systemCalls now (s.hub.systemEvents now)).foldl Hub.addCall s.hub ∧
      (s.hub.checkOfflineModules now).2 = s.hub.systemAlerts (s.hub.systemEvents now) ∧
      (s.hub.webhookUrl ≠ [] →
        (s.hub.checkOfflineModules now).2.length = (s.hub.systemEvents now).length)
  | .datagram dg =>
      ∀ i off, ∀ o ∈ s.hub.systemAlert (s.hub.doors i).moduleId.text off,
        o ∉ (s.hub.handleLine dg).2

theorem exact_of_inv (s : State) (i : Hub.Input) (h : Inv s) : Exact s i := by
  cases i with
  | datagram dg =>
      intro i off
      exact Hub.systemAlert_not_mem_handleLine (s.hub.doors i).moduleId.fits (h i).spaceFree off dg
  | check now =>
      refine ⟨fun i hknown => ?_, ?_, by rw [Hub.checkOfflineModules_eq], fun hurl => ?_⟩
      · rw [Hub.checkOfflineModules_doors] at hknown ⊢
        have hkey := (s.hub.doors i).checked_key now
        rw [show ((s.hub.doors i).checked now).known = (s.hub.doors i).known from
          congrArg Prod.fst hkey] at hknown
        rw [HubDoorStatus.checked_offline hknown, HubDoorStatus.checked_lastHeartbeatMs]
        exact decide_eq_true_iff
      · rw [Hub.checkOfflineModules_eq]
        exact (Hub.foldl_addCall_withDoors s.hub.doors _ s.hub).symm
      · rw [Hub.checkOfflineModules_eq]
        exact Hub.length_systemAlerts hurl _

/-- In every run each input is exact, and the edges of each entry alternate,
starting with OFFLINE. -/
theorem offlineExact {webhookUrl : Text} {is : List Hub.Input} {s : State}
    (hr : Lts.run step (start webhookUrl) is = some s) :
    Lts.Along step Exact (start webhookUrl) is
      ∧ ∀ i, List.IsChain (· ≠ ·) (false :: kindsOf i s.events) := by
  have hinv : Inv s := Lts.inv_run_of_step inv_step (inv_start webhookUrl) hr
  have hany : Lts.Along step (fun _ _ => True) (start webhookUrl) is :=
    Lts.along_of_forall (fun _ _ => trivial) is _
  exact ⟨hany.imp (fun s i s' h _ => inv_step s i s' h) (fun s i h _ => exact_of_inv s i h)
    (inv_start webhookUrl), fun i => (hinv i).chain⟩

/-- `D1` reports, falls silent, and comes back. -/
def silentRun : List Hub.Input :=
  [.datagram ⟨⟨1, 40000⟩, reportLine "D1".toList (.heartbeat false true), 100, 100⟩,
    .check 10200,
    .datagram ⟨⟨1, 40000⟩, reportLine "D1".toList (.heartbeat false true), 10300, 10300⟩,
    .check 10400]

theorem offlineExact_silent :
    ∃ s, Lts.run step (start []) silentRun = some s ∧ kindsOf 0 s.events = [true, false] ∧
      List.IsChain (· ≠ ·) (false :: kindsOf 0 s.events) := by
  have hrun : (Lts.run step (start []) silentRun).map (fun s => kindsOf 0 s.events)
      = some [true, false] := by
    decide +kernel
  obtain ⟨s, hs, hkinds⟩ := Option.map_eq_some_iff.mp hrun
  exact ⟨s, hs, hkinds, (offlineExact hs).2 0⟩

end OfflineEvents

end HomeSecurity
