import HomeSecurity.OfflineCheck

/-!
# The endpoint table

Where a client's COMMAND for a module is passed on to. `hub_update_endpoint`
changes the address of one module, unless the table is full, and everything else
`handle_line` and the offline check do leaves the table alone.
-/

namespace HomeSecurity

open CText

namespace Hub

def endpointTable (h : Hub) : (Fin hubMaxModules → HubEndpoint) × Nat :=
  (h.endpoints, h.numEndpoints)

theorem hasEndpoint_of_table {h h' : Hub} (ht : h'.endpointTable = h.endpointTable)
    (i : Fin hubMaxModules) (m : Text) : h'.HasEndpoint i m ↔ h.HasEndpoint i m := by
  have hends : h'.endpoints = h.endpoints := congrArg Prod.fst ht
  have hnum : h'.numEndpoints = h.numEndpoints := congrArg Prod.snd ht
  rw [HasEndpoint, HasEndpoint, hends, hnum]

theorem hubFindEndpoint_congr {h h' : Hub} {m : Text}
    (heq : ∀ i, h'.HasEndpoint i m ↔ h.HasEndpoint i m) :
    h'.hubFindEndpoint m = h.hubFindEndpoint m := by
  cases hfind : h.hubFindEndpoint m with
  | none =>
      rw [hubFindEndpoint_eq_none_iff] at hfind ⊢
      exact fun j hj => hfind j ((heq j).mp hj)
  | some i =>
      rw [hubFindEndpoint_eq_some_iff] at hfind ⊢
      exact ⟨(heq i).mpr hfind.1, fun j hj hej => hfind.2 j hj ((heq j).mp hej)⟩

/-- The address depends on the endpoints of the module alone. -/
theorem endpointAddr_congr {h h' : Hub} {m : Text}
    (heq : ∀ i, h'.HasEndpoint i m ↔ h.HasEndpoint i m)
    (hsame : ∀ i, h.HasEndpoint i m → h'.endpoints i = h.endpoints i) :
    h'.endpointAddr m = h.endpointAddr m := by
  rw [endpointAddr, endpointAddr, hubFindEndpoint_congr heq]
  cases hfind : h.hubFindEndpoint m with
  | none => rfl
  | some i =>
      rw [Option.bind_some, Option.bind_some, hsame i (hubFindEndpoint_eq_some_iff.mp hfind).1]

theorem endpointAddr_of_table {h h' : Hub} (ht : h'.endpointTable = h.endpointTable) (m : Text) :
    h'.endpointAddr m = h.endpointAddr m := by
  have hends : h'.endpoints = h.endpoints := congrArg Prod.fst ht
  exact endpointAddr_congr (fun i => hasEndpoint_of_table ht i m) fun i _ => by rw [hends]

theorem endpointsFull_of_table {h h' : Hub} (ht : h'.endpointTable = h.endpointTable) (m : Text) :
    h'.EndpointsFull m ↔ h.EndpointsFull m := by
  have hnum : h'.numEndpoints = h.numEndpoints := congrArg Prod.snd ht
  rw [EndpointsFull, EndpointsFull, hubFindEndpoint_congr fun i => hasEndpoint_of_table ht i m,
    hnum]

/-- A client's command goes where the table says. -/
theorem hubForwardCommandToModule_eq (h : Hub) (m line : Text) :
    h.hubForwardCommandToModule m line
      = ((h.endpointAddr m).map fun a => HubOut.forward a line).toList := by
  unfold hubForwardCommandToModule endpointAddr
  cases h.hubFindEndpoint m with
  | none => rfl
  | some i =>
      rw [Option.bind_some]
      dsimp only
      cases (h.endpoints i).hasAddr <;> rfl

/-! ## `hub_update_endpoint` -/

/-- The endpoint found is given the address, a new one is added, or the table is
full. -/
theorem hubUpdateEndpoint_cases (h : Hub) (mod : Text) (src : SockAddr) :
    (∃ i, h.hubFindEndpoint mod = some i ∧
        (h.hubUpdateEndpoint mod src).endpoints
          = Function.update h.endpoints i ⟨(h.endpoints i).moduleId, src, true⟩ ∧
        (h.hubUpdateEndpoint mod src).numEndpoints = h.numEndpoints) ∨
      (h.hubFindEndpoint mod = none ∧ ∃ i : Fin hubMaxModules, i.val = h.numEndpoints ∧
        (h.hubUpdateEndpoint mod src).endpoints
          = Function.update h.endpoints i ⟨snprintf hubModuleIdLen mod, src, true⟩ ∧
        (h.hubUpdateEndpoint mod src).numEndpoints = h.numEndpoints + 1) ∨
      (h.EndpointsFull mod ∧ (h.hubUpdateEndpoint mod src).endpointTable = h.endpointTable) := by
  unfold hubUpdateEndpoint
  cases hfind : h.hubFindEndpoint mod with
  | some i => exact Or.inl ⟨i, rfl, rfl, rfl⟩
  | none =>
      dsimp only
      split
      · rename_i hn
        exact Or.inr (Or.inl ⟨rfl, ⟨h.numEndpoints, hn⟩, rfl, rfl, rfl⟩)
      · rename_i hn
        exact Or.inr (Or.inr ⟨⟨hfind, Nat.not_lt.mp hn⟩, rfl⟩)

/-- Who has which endpoint afterwards. -/
theorem hubUpdateEndpoint_hasEndpoint (h : Hub) (mod : Text) (src : SockAddr)
    (j : Fin hubMaxModules) (m : Text) :
    (h.hubUpdateEndpoint mod src).HasEndpoint j m ↔
      h.HasEndpoint j m ∨
        (h.hubFindEndpoint mod = none ∧ j.val = h.numEndpoints ∧ m = storedId mod) := by
  rcases h.hubUpdateEndpoint_cases mod src with
    ⟨i, hfind, hends, hnum⟩ | ⟨hnone, i, hi, hends, hnum⟩ | ⟨⟨hnone, hfull⟩, heq⟩
  · have hid : ((h.hubUpdateEndpoint mod src).endpoints j).moduleId = (h.endpoints j).moduleId := by
      rw [hends]
      by_cases hj : j = i
      · rw [hj, Function.update_self]
      · rw [Function.update_of_ne hj]
    rw [HasEndpoint, hid, hnum, hfind]
    simp [HasEndpoint]
  · rw [HasEndpoint, hends, hnum]
    by_cases hj : j = i
    · rw [hj, Function.update_self, HasEndpoint, hi]
      simp [hnone, storedId, eq_comm]
    · have hne : j.val ≠ h.numEndpoints := fun heq => hj (Fin.ext (heq.trans hi.symm))
      rw [Function.update_of_ne hj, HasEndpoint]
      constructor
      · rintro ⟨hlt, hid⟩
        exact Or.inl ⟨by omega, hid⟩
      · rintro (⟨hlt, hid⟩ | ⟨-, heq, -⟩)
        · exact ⟨by omega, hid⟩
        · exact absurd heq hne
  · rw [hasEndpoint_of_table heq]
    refine ⟨Or.inl, ?_⟩
    rintro (hj | ⟨-, hj, -⟩)
    · exact hj
    · exact absurd j.isLt (by omega)

/-- Another module's address stays. -/
theorem hubUpdateEndpoint_of_other (h : Hub) {mod m : Text} (src : SockAddr) (hne : m ≠ mod)
    (hid : m ≠ storedId mod) : (h.hubUpdateEndpoint mod src).endpointAddr m = h.endpointAddr m := by
  refine endpointAddr_congr (fun j => ?_) fun j hj => ?_
  · rw [hubUpdateEndpoint_hasEndpoint]
    exact ⟨fun hj => hj.resolve_right fun hnew => hid hnew.2.2, Or.inl⟩
  · rcases h.hubUpdateEndpoint_cases mod src with
      ⟨i, hfind, hends, -⟩ | ⟨-, i, hi, hends, -⟩ | ⟨-, heq⟩
    · have hji : j ≠ i := by
        rintro rfl
        exact hne (hj.2.symm.trans (hubFindEndpoint_eq_some_iff.mp hfind).1.2)
      rw [hends, Function.update_of_ne hji]
    · have hji : j ≠ i := by
        rintro rfl
        exact absurd hj.1 (by omega)
      rw [hends, Function.update_of_ne hji]
    · exact congrFun (congrArg Prod.fst heq) j

/-- The module's own becomes the source, unless the table is full for it. -/
theorem hubUpdateEndpoint_self (h : Hub) {mod : Text} (src : SockAddr)
    (hshort : mod.length < hubModuleIdLen) (hroom : ¬h.EndpointsFull mod) :
    (h.hubUpdateEndpoint mod src).endpointAddr mod = some src := by
  rcases h.hubUpdateEndpoint_cases mod src with
    ⟨i, hfind, hends, -⟩ | ⟨hnone, i, hi, hends, -⟩ | ⟨hfull, -⟩
  · have hfind' : (h.hubUpdateEndpoint mod src).hubFindEndpoint mod = some i := by
      rw [← hfind]
      refine hubFindEndpoint_congr fun j => ?_
      rw [hubUpdateEndpoint_hasEndpoint, hfind]
      simp
    rw [endpointAddr, hfind', Option.bind_some, hends, Function.update_self]
    rfl
  · have hfind' : (h.hubUpdateEndpoint mod src).hubFindEndpoint mod = some i := by
      refine hubFindEndpoint_eq_some_iff.mpr ⟨?_, fun j hj hej => ?_⟩
      · rw [hubUpdateEndpoint_hasEndpoint]
        exact Or.inr ⟨hnone, hi, (storedId_of_short hshort).symm⟩
      · rw [hubUpdateEndpoint_hasEndpoint] at hej
        rcases hej with hej | ⟨-, hval, -⟩
        · exact hubFindEndpoint_eq_none_iff.mp hnone j hej
        · rw [Fin.lt_def, hval, hi] at hj
          exact absurd hj (Nat.lt_irrefl _)
    rw [endpointAddr, hfind', Option.bind_some, hends, Function.update_self]
    rfl
  · exact absurd hfull hroom

/-- A table that is full for a module stays so. -/
theorem EndpointsFull.hubUpdateEndpoint {h : Hub} {m : Text} (hfull : h.EndpointsFull m)
    (mod : Text) (src : SockAddr) : (h.hubUpdateEndpoint mod src).EndpointsFull m := by
  rcases h.hubUpdateEndpoint_cases mod src with
    ⟨i, hfind, -, hnum⟩ | ⟨-, i, hi, -, -⟩ | ⟨-, heq⟩
  · refine ⟨?_, by rw [hnum]; exact hfull.2⟩
    rw [← hfull.1]
    refine hubFindEndpoint_congr fun j => ?_
    rw [hubUpdateEndpoint_hasEndpoint, hfind]
    simp
  · have hlt := i.isLt
    have hge := hfull.2
    omega
  · exact (endpointsFull_of_table heq m).mpr hfull

/-! ## What leaves the table alone -/

theorem findOrCreateDoor_endpointTable {h h' : Hub} {m : Text} {d : Fin hubMaxDoors}
    (hc : h.findOrCreateDoor m = some (h', d)) : h'.endpointTable = h.endpointTable := by
  rcases findOrCreateDoor_eq_some hc with ⟨-, rfl⟩ | ⟨-, -, rfl⟩ <;> rfl

theorem noteLine_endpointTable (h : Hub) (d : Fin hubMaxDoors) (mod type : Text)
    (dg : Datagram) : (h.noteLine d mod type dg).endpointTable = h.endpointTable := by
  unfold noteLine
  split <;> rfl

theorem dispatch_endpointTable (h : Hub) (d : Fin hubMaxDoors) (mod type : Text)
    (args : List Text) (dg : Datagram) :
    (h.dispatch d mod type args dg).1.endpointTable = h.endpointTable := by
  unfold dispatch
  split
  · rfl
  · split
    · unfold handleEvent
      split <;> rfl
    · split
      · unfold handleFeedback
        split
        · dsimp only
          split
          · rename_i hclear
            obtain ⟨i, -, heq⟩ := Option.map_eq_some_iff.mp hclear
            obtain ⟨-, rfl⟩ := Prod.mk.inj heq
            rfl
          · rfl
        · rfl
      · split
        · unfold handleCommand
          split <;> rfl
        · rfl

/-- What a line does to the endpoint table. -/
theorem handleLine_endpointTable {h : Hub} {dg : Datagram} {mod type : Text} {args : List Text}
    (htok : dg.tokens = mod :: type :: args) :
    (h.handleLine dg).1.endpointTable = (h.noteEndpoint mod type dg.src).endpointTable := by
  simp only [handleLine, htok]
  split
  · rename_i h' d hc
    rw [dispatch_endpointTable, noteLine_endpointTable, findOrCreateDoor_endpointTable hc]
  · rfl

theorem foldl_addCall_endpointTable (calls : List HistoryCall) (h : Hub) :
    (calls.foldl addCall h).endpointTable = h.endpointTable := by
  induction calls generalizing h with
  | nil => rfl
  | cons c calls ih => exact ih (h.addCall c)

theorem checkOfflineModules_endpointTable (h : Hub) (now : Int) :
    (h.checkOfflineModules now).1.endpointTable = h.endpointTable := by
  rw [checkOfflineModules_eq]
  exact foldl_addCall_endpointTable _ h

end Hub

end HomeSecurity
