import HomeSecurity.HubState

/-!
# The hub's tables

`find_or_create_door`, the pending-command map, the history ring and the
endpoint helpers of `hub_udp.c`, each with its specification: what a lookup
finds (`findDoor_eq_some_iff`, `PendingCmds.find_eq_some_iff`), what creating an
entry does (`findOrCreateDoor_eq_some`), and which tables each operation leaves
alone.
-/

namespace HomeSecurity

open CText

namespace Hub

/-! ## Door status -/

/-- The search loop over `g_doors` that `find_or_create_door`,
`hub_udp_get_status` and `hub_udp_send_command` share. -/
def findDoor (h : Hub) (moduleId : Text) : Option (Fin hubMaxDoors) :=
  Fin.find? fun i =>
    (h.doors i).known && strncmpEq hubModuleIdLen (h.doors i).moduleId.text moduleId

/-- `find_or_create_door`: the entry of the module, created in the first
unknown slot if there is none; `none` when the table is full. -/
def findOrCreateDoor (h : Hub) (moduleId : Text) : Option (Hub × Fin hubMaxDoors) :=
  match h.findDoor moduleId with
  | some i => some (h, i)
  | none =>
      (Fin.find? fun i => !(h.doors i).known).map fun i =>
        (h.modifyDoor i fun _ =>
          { HubDoorStatus.zeroed with
            moduleId := snprintf hubModuleIdLen moduleId, known := true }, i)

/-- `hub_udp_get_status`. -/
def hubUdpGetStatus (h : Hub) (moduleId : Text) : Option HubDoorStatus :=
  (h.findDoor moduleId).map h.doors

/-- Entry `i` is a known entry stored under the id `m`. -/
def Tracks (h : Hub) (i : Fin hubMaxDoors) (m : Text) : Prop :=
  (h.doors i).known = true ∧ (h.doors i).moduleId.text = m

instance (h : Hub) (i : Fin hubMaxDoors) (m : Text) : Decidable (h.Tracks i m) :=
  inferInstanceAs (Decidable (_ ∧ _))

/-- A module id as the 16-byte id fields keep it. -/
def storedId (m : Text) : Text := (snprintf hubModuleIdLen m).text

theorem storedId_of_short {m : Text} (hshort : m.length < hubModuleIdLen) : storedId m = m :=
  snprintf_text hshort

theorem Tracks.short {h : Hub} {i : Fin hubMaxDoors} {m : Text} (ht : h.Tracks i m) :
    m.length < hubModuleIdLen :=
  ht.2 ▸ (h.doors i).moduleId.fits

theorem Tracks.storedId_eq {h : Hub} {i : Fin hubMaxDoors} {m : Text} (ht : h.Tracks i m) :
    storedId m = m := storedId_of_short ht.short

theorem findDoor_eq_some_iff {h : Hub} {m : Text} {d : Fin hubMaxDoors} :
    h.findDoor m = some d ↔ h.Tracks d m ∧ ∀ j < d, ¬h.Tracks j m := by
  simp only [findDoor, Fin.find?_eq_some_iff, Bool.and_eq_true, CBuf.strncmpEq_iff, Tracks,
    ← Bool.not_eq_true]

theorem findDoor_eq_none_iff {h : Hub} {m : Text} :
    h.findDoor m = none ↔ ∀ j, ¬h.Tracks j m := by
  simp only [findDoor, Fin.find?_eq_none_iff, Bool.and_eq_true, CBuf.strncmpEq_iff, Tracks,
    ← Bool.not_eq_true]

theorem findDoor_of_tracks {h : Hub} {m : Text} {d : Fin hubMaxDoors} (ht : h.Tracks d m) :
    ∃ d', h.findDoor m = some d' := by
  cases hd : h.findDoor m with
  | none => exact absurd ht (findDoor_eq_none_iff.mp hd d)
  | some d' => exact ⟨d', rfl⟩

/-- A lookup depends on the `known` flags and the stored ids only. -/
theorem findDoor_congr {h h' : Hub}
    (hd : ∀ i, (h'.doors i).known = (h.doors i).known
      ∧ (h'.doors i).moduleId = (h.doors i).moduleId) (m : Text) :
    h'.findDoor m = h.findDoor m := by
  unfold findDoor
  congr 1
  funext i
  rw [(hd i).1, (hd i).2]

theorem findDoor_of_doors {h h' : Hub} (hd : h'.doors = h.doors) (m : Text) :
    h'.findDoor m = h.findDoor m :=
  findDoor_congr (fun i => by rw [hd]; exact ⟨rfl, rfl⟩) m

theorem hubUdpGetStatus_of_find {h : Hub} {m : Text} {d : Fin hubMaxDoors}
    (hd : h.findDoor m = some d) : h.hubUdpGetStatus m = some (h.doors d) := by
  rw [hubUdpGetStatus, hd, Option.map_some]

theorem findOrCreateDoor_of_find {h : Hub} {m : Text} {d : Fin hubMaxDoors}
    (hd : h.findDoor m = some d) : h.findOrCreateDoor m = some (h, d) := by
  rw [findOrCreateDoor, hd]

/-- What `find_or_create_door` can do: return the entry it finds and change
nothing, or fill a slot that was unknown. -/
theorem findOrCreateDoor_eq_some {h h' : Hub} {m : Text} {d : Fin hubMaxDoors}
    (hc : h.findOrCreateDoor m = some (h', d)) :
    (h.findDoor m = some d ∧ h' = h) ∨
      (h.findDoor m = none ∧ (h.doors d).known = false ∧
        h' = h.modifyDoor d fun _ =>
          { HubDoorStatus.zeroed with
            moduleId := snprintf hubModuleIdLen m, known := true }) := by
  unfold findOrCreateDoor at hc
  split at hc
  · rename_i i hi
    obtain ⟨rfl, rfl⟩ := Prod.mk.inj (Option.some.inj hc)
    exact Or.inl ⟨hi, rfl⟩
  · rename_i hnone
    obtain ⟨i, hi, heq⟩ := Option.map_eq_some_iff.mp hc
    obtain ⟨rfl, rfl⟩ := Prod.mk.inj heq
    exact Or.inr ⟨hnone, by simpa using (Fin.find?_eq_some_iff.mp hi).1, rfl⟩

/-- The three outcomes of `find_or_create_door`: an entry is found, the first
unknown slot is filled, or there is neither. -/
theorem findOrCreateDoor_cases (h : Hub) (m : Text) :
    (∃ d, h.findDoor m = some d ∧ h.findOrCreateDoor m = some (h, d)) ∨
      (h.findDoor m = none ∧ ∃ d, (h.doors d).known = false ∧ (∀ j < d, (h.doors j).known = true) ∧
        h.findOrCreateDoor m = some (h.modifyDoor d fun _ =>
          { HubDoorStatus.zeroed with
            moduleId := snprintf hubModuleIdLen m, known := true }, d)) ∨
      (h.findDoor m = none ∧ (∀ j, (h.doors j).known = true) ∧ h.findOrCreateDoor m = none) := by
  unfold findOrCreateDoor
  cases hfind : h.findDoor m with
  | some d => exact Or.inl ⟨d, rfl, rfl⟩
  | none =>
      cases hfree : Fin.find? fun i => !(h.doors i).known with
      | none =>
          have hall := Fin.find?_eq_none_iff.mp hfree
          exact Or.inr (Or.inr ⟨rfl, fun j => by simpa using hall j, rfl⟩)
      | some d =>
          obtain ⟨hunk, hfirst⟩ := Fin.find?_eq_some_iff.mp hfree
          exact Or.inr (Or.inl ⟨rfl, d, by simpa using hunk,
            fun j hj => by simpa using hfirst j hj, rfl⟩)

/-! ## Pending client-command map -/

end Hub

namespace PendingCmds

/-- The loop of `register_client_command`: stop at the first free slot, else
keep the first one with the smallest `issued_ms`. -/
def scan (p : PendingCmds) :
    List (Fin hubMaxPendingCmds) → Fin hubMaxPendingCmds → Int → Fin hubMaxPendingCmds
  | [], slot, _ => slot
  | i :: is, slot, oldestMs =>
      if (p i).cmdid = 0 then i
      else if (p i).issuedMs < oldestMs then scan p is i (p i).issuedMs
      else scan p is slot oldestMs

/-- The slot that `register_client_command` writes. -/
def registerSlot (p : PendingCmds) : Fin hubMaxPendingCmds :=
  scan p (List.finRange _) 0 (p 0).issuedMs

/-- The search loop of `get_and_clear_client_cmd`. -/
def find (p : PendingCmds) (moduleId : Text) (cmdid : Int) : Option (Fin hubMaxPendingCmds) :=
  Fin.find? fun i =>
    decide ((p i).cmdid = cmdid) && strncmpEq hubModuleIdLen (p i).moduleId.text moduleId

/-- Slot `i` holds the id `c` and is stored under the module id `m`. -/
def Pends (p : PendingCmds) (i : Fin hubMaxPendingCmds) (m : Text) (c : Int) : Prop :=
  (p i).cmdid = c ∧ (p i).moduleId.text = m

instance (p : PendingCmds) (i : Fin hubMaxPendingCmds) (m : Text) (c : Int) :
    Decidable (p.Pends i m c) :=
  inferInstanceAs (Decidable (_ ∧ _))

/-- Slot `i` is the first such slot. -/
def FirstPends (p : PendingCmds) (i : Fin hubMaxPendingCmds) (m : Text) (c : Int) : Prop :=
  p.Pends i m c ∧ ∀ j < i, ¬p.Pends j m c

instance (p : PendingCmds) (i : Fin hubMaxPendingCmds) (m : Text) (c : Int) :
    Decidable (p.FirstPends i m c) :=
  inferInstanceAs (Decidable (_ ∧ _))

theorem find_eq_some_iff {p : PendingCmds} {m : Text} {c : Int} {i : Fin hubMaxPendingCmds} :
    p.find m c = some i ↔ p.FirstPends i m c := by
  simp only [find, Fin.find?_eq_some_iff, Bool.and_eq_true, decide_eq_true_eq,
    CBuf.strncmpEq_iff, Pends, FirstPends, ← Bool.not_eq_true]

theorem find_eq_none_iff {p : PendingCmds} {m : Text} {c : Int} :
    p.find m c = none ↔ ∀ j, ¬p.Pends j m c := by
  simp only [find, Fin.find?_eq_none_iff, Bool.and_eq_true, decide_eq_true_eq,
    CBuf.strncmpEq_iff, Pends, ← Bool.not_eq_true]

end PendingCmds

namespace Hub

/-- `register_client_command`; `now` is its own clock reading. -/
def registerClientCommand (h : Hub) (cmdid : Int) (moduleId : Text) (clientAddr : SockAddr)
    (now : Int) : Hub :=
  h.setPending h.pendingCmds.registerSlot
    ⟨cmdid, clientAddr, snprintf hubModuleIdLen moduleId, now⟩

/-- `get_and_clear_client_cmd`: the address of the entry found, which is freed
by setting its `cmdid` to 0 - its id and address stay. -/
def getAndClearClientCmd (h : Hub) (moduleId : Text) (cmdid : Int) :
    Option (SockAddr × Hub) :=
  (h.pendingCmds.find moduleId cmdid).map fun i =>
    ((h.pendingCmds i).clientAddr, h.setPending i { h.pendingCmds i with cmdid := 0 })

/-! ## History -/

def addHistory (h : Hub) (moduleId line : Text) (t : Int) : Hub :=
  { h with
    history := Function.update h.history h.histHead
      ⟨t, snprintf hubModuleIdLen moduleId, snprintf hubLineLen line⟩
    histHead := h.histHead + 1
    histCount := if h.histCount < hubMaxHistory then h.histCount + 1 else h.histCount }

/-- `hub_udp_get_history`: what is copied to `out`. -/
def hubUdpGetHistory (h : Hub) (maxEvents : Int) : List HubEvent :=
  if maxEvents ≤ 0 then []
  else
    let count := if (h.histCount : Int) < maxEvents then h.histCount else maxEvents.toNat
    let start := (h.histHead.val + hubMaxHistory - h.histCount) % hubMaxHistory
    (List.range count).map fun i =>
      h.history ⟨(start + i) % hubMaxHistory, Nat.mod_lt _ (by decide)⟩

/-! ## Endpoints -/

/-- `hub_find_endpoint`: exact comparison with the stored id. -/
def hubFindEndpoint (h : Hub) (moduleId : Text) : Option (Fin hubMaxModules) :=
  Fin.find? fun i =>
    decide (i.val < h.numEndpoints) && decide ((h.endpoints i).moduleId.text = moduleId)

/-- `hub_update_endpoint`. -/
def hubUpdateEndpoint (h : Hub) (moduleId : Text) (src : SockAddr) : Hub :=
  match h.hubFindEndpoint moduleId with
  | some i =>
      { h with
        endpoints := Function.update h.endpoints i
          { h.endpoints i with addr := src, hasAddr := true } }
  | none =>
      if hn : h.numEndpoints < hubMaxModules then
        { h with
          endpoints := Function.update h.endpoints ⟨h.numEndpoints, hn⟩
            ⟨snprintf hubModuleIdLen moduleId, src, true⟩
          numEndpoints := h.numEndpoints + 1 }
      else h

/-- Endpoint `i` is in use and stored under the id `m`. -/
def HasEndpoint (h : Hub) (i : Fin hubMaxModules) (m : Text) : Prop :=
  i.val < h.numEndpoints ∧ (h.endpoints i).moduleId.text = m

theorem hubFindEndpoint_eq_some_iff {h : Hub} {m : Text} {i : Fin hubMaxModules} :
    h.hubFindEndpoint m = some i ↔ h.HasEndpoint i m ∧ ∀ j < i, ¬h.HasEndpoint j m := by
  simp only [hubFindEndpoint, Fin.find?_eq_some_iff, Bool.and_eq_true, decide_eq_true_eq,
    HasEndpoint, ← Bool.not_eq_true]

theorem hubFindEndpoint_eq_none_iff {h : Hub} {m : Text} :
    h.hubFindEndpoint m = none ↔ ∀ j, ¬h.HasEndpoint j m := by
  simp only [hubFindEndpoint, Fin.find?_eq_none_iff, Bool.and_eq_true, decide_eq_true_eq,
    HasEndpoint, ← Bool.not_eq_true]

/-- The address that the endpoint table has for a module. -/
def endpointAddr (h : Hub) (m : Text) : Option SockAddr :=
  (h.hubFindEndpoint m).bind fun i =>
    if (h.endpoints i).hasAddr then some (h.endpoints i).addr else none

/-- The table knows no endpoint of `m` and has no room for one. -/
def EndpointsFull (h : Hub) (m : Text) : Prop :=
  h.hubFindEndpoint m = none ∧ hubMaxModules ≤ h.numEndpoints

/-- `hub_forward_command_to_module`. -/
def hubForwardCommandToModule (h : Hub) (moduleId line : Text) : List HubOut :=
  match h.hubFindEndpoint moduleId with
  | some i => if (h.endpoints i).hasAddr then [.forward (h.endpoints i).addr line] else []
  | none => []

/-! ## Frame lemmas -/

section Frame

variable (h : Hub) (m line : Text) (t : Int) (src : SockAddr)

@[simp] theorem addHistory_doors : (h.addHistory m line t).doors = h.doors := rfl
@[simp] theorem addHistory_endpoints : (h.addHistory m line t).endpoints = h.endpoints := rfl
@[simp] theorem addHistory_pendingCmds :
    (h.addHistory m line t).pendingCmds = h.pendingCmds := rfl
@[simp] theorem addHistory_nextCmdid : (h.addHistory m line t).nextCmdid = h.nextCmdid := rfl

@[simp] theorem hubUpdateEndpoint_doors : (h.hubUpdateEndpoint m src).doors = h.doors := by
  unfold hubUpdateEndpoint
  split
  · rfl
  · split <;> rfl

@[simp] theorem hubUpdateEndpoint_pendingCmds :
    (h.hubUpdateEndpoint m src).pendingCmds = h.pendingCmds := by
  unfold hubUpdateEndpoint
  split
  · rfl
  · split <;> rfl

@[simp] theorem hubUpdateEndpoint_nextCmdid :
    (h.hubUpdateEndpoint m src).nextCmdid = h.nextCmdid := by
  unfold hubUpdateEndpoint
  split
  · rfl
  · split <;> rfl

end Frame

theorem findOrCreateDoor_pendingCmds {h h' : Hub} {m : Text} {d : Fin hubMaxDoors}
    (hc : h.findOrCreateDoor m = some (h', d)) : h'.pendingCmds = h.pendingCmds := by
  rcases findOrCreateDoor_eq_some hc with ⟨-, rfl⟩ | ⟨-, -, rfl⟩ <;> rfl

end Hub

end HomeSecurity
