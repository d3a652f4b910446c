import HomeSecurity.DoorTable
import HomeSecurity.Endpoints

/-!
# One module's lines and another module's entry

A line reaches the entry found under its module's name, or fills a free slot
under the first 15 bytes of that name. For any other name the two tables answer
as before (`handleLine_of_other`), so over a run the lines of other modules can
be left out of account (`isolated`).
-/

namespace HomeSecurity

open CText

namespace Hub

theorem handleLine_endpointAddr_of_other {h : Hub} {dg : Datagram} {m : Text}
    (hother : OfOther m dg) : (h.handleLine dg).1.endpointAddr m = h.endpointAddr m := by
  rcases dg.tokens_cases with ⟨mod, type, args, htok⟩ | hshort
  · obtain ⟨hne, hid⟩ := hother mod (by rw [htok]; rfl)
    rw [endpointAddr_of_table (handleLine_endpointTable htok), noteEndpoint]
    split
    · rfl
    · exact h.hubUpdateEndpoint_of_other dg.src hne hid
  · rw [handleLine_of_short hshort]

/-- The three answers the tables give about a module, after a line of another. -/
theorem handleLine_of_other {h : Hub} {dg : Datagram} {m : Text} (hother : OfOther m dg) :
    (h.handleLine dg).1.hubUdpGetStatus m = h.hubUdpGetStatus m ∧
      (h.handleLine dg).1.findDoor m = h.findDoor m ∧
      (h.handleLine dg).1.endpointAddr m = h.endpointAddr m :=
  ⟨hubUdpGetStatus_congr (fun i => (handleLine_tracks_of_other hother i).1)
      fun i => (handleLine_tracks_of_other hother i).2,
    findDoor_of_tracks_iff fun i => (handleLine_tracks_of_other hother i).1,
    handleLine_endpointAddr_of_other hother⟩

/-- A check does to a status what it does to the entry. -/
theorem checkOfflineModules_status (h : Hub) (now : Int) (m : Text) :
    (h.checkOfflineModules now).1.hubUdpGetStatus m
      = (h.hubUdpGetStatus m).map fun e => e.checked now := by
  rw [hubUdpGetStatus, hubUdpGetStatus,
    findDoor_of_tracks_iff fun i => h.checkOfflineModules_tracks now i m, Option.map_map]
  cases h.findDoor m with
  | none => rfl
  | some d =>
      rw [Option.map_some, Option.map_some, checkOfflineModules_doors]
      rfl

def Input.isCheck : Input → Bool
  | .datagram _ => false
  | .check _ => true

/-- Leaving out the lines of other modules, the checks alone decide what becomes
of a status. -/
theorem status_of_others {m : Text} {is : List Input} {h h' k : Hub}
    (hsame : h.hubUdpGetStatus m = k.hubUdpGetStatus m) (hr : Lts.run step h is = some h')
    (hothers : ∀ dg, .datagram dg ∈ is → OfOther m dg) :
    ∃ k', Lts.run step k (is.filter Input.isCheck) = some k' ∧
      h'.hubUdpGetStatus m = k'.hubUdpGetStatus m := by
  induction is generalizing h k with
  | nil =>
      obtain rfl := Option.some.inj hr
      exact ⟨k, rfl, hsame⟩
  | cons i is ih =>
      obtain ⟨n, hn, hrn⟩ := Lts.run_cons_eq_some.mp hr
      obtain rfl := Option.some.inj hn
      have hrest : ∀ dg, .datagram dg ∈ is → OfOther m dg :=
        fun dg hmem => hothers dg (List.mem_cons_of_mem _ hmem)
      cases i with
      | datagram dg =>
          have hline := handleLine_of_other (h := h) (hothers dg (List.mem_cons_self ..))
          rw [List.filter_cons_of_neg (by simp [Input.isCheck])]
          exact ih (hline.1.trans hsame) hrn hrest
      | check now =>
          have hcheck : (h.input (.check now)).1.hubUdpGetStatus m
              = (k.input (.check now)).1.hubUdpGetStatus m := by
            show (h.checkOfflineModules now).1.hubUdpGetStatus m
              = (k.checkOfflineModules now).1.hubUdpGetStatus m
            rw [checkOfflineModules_status, checkOfflineModules_status, hsame]
          obtain ⟨k', hk', heq⟩ := ih hcheck hrn hrest
          rw [List.filter_cons_of_pos rfl]
          exact ⟨k', Lts.run_cons_eq_some.mpr ⟨_, rfl, hk'⟩, heq⟩

/-- The entry and the endpoint of a module stay in their place. -/
theorem tables_of_others {m : Text} {is : List Input} {h h' : Hub}
    (hr : Lts.run step h is = some h') (hothers : ∀ dg, .datagram dg ∈ is → OfOther m dg) :
    h'.findDoor m = h.findDoor m ∧ h'.endpointAddr m = h.endpointAddr m := by
  induction is generalizing h with
  | nil =>
      obtain rfl := Option.some.inj hr
      exact ⟨rfl, rfl⟩
  | cons i is ih =>
      obtain ⟨n, hn, hrn⟩ := Lts.run_cons_eq_some.mp hr
      obtain rfl := Option.some.inj hn
      obtain ⟨hdoor, haddr⟩ := ih hrn fun dg hmem => hothers dg (List.mem_cons_of_mem _ hmem)
      have hstep : (h.input i).1.findDoor m = h.findDoor m ∧
          (h.input i).1.endpointAddr m = h.endpointAddr m := by
        cases i with
        | datagram dg => exact (handleLine_of_other (hothers dg (List.mem_cons_self ..))).2
        | check now =>
            exact ⟨findDoor_of_tracks_iff fun j => h.checkOfflineModules_tracks now j m,
              endpointAddr_of_table (h.checkOfflineModules_endpointTable now) m⟩
      exact ⟨hdoor.trans hstep.1, haddr.trans hstep.2⟩

/-- From any state, a line of another module changes nothing that is found about
a module; and after a run in which only other modules send, its entry and its
endpoint are where they were, and its status is what the offline checks alone
make of it. -/
theorem isolated :
    (∀ (h : Hub) (dg : Datagram) (mod m : Text), dg.tokens.head? = some mod → m ≠ mod →
      m ≠ mod.take (hubModuleIdLen - 1) →
      (h.handleLine dg).1.hubUdpGetStatus m = h.hubUdpGetStatus m ∧
        (h.handleLine dg).1.endpointAddr m = h.endpointAddr m) ∧
      ∀ (h h' : Hub) (is : List Input) (m : Text), Lts.run step h is = some h' →
        (∀ dg, .datagram dg ∈ is → OfOther m dg) →
        h'.findDoor m = h.findDoor m ∧ h'.endpointAddr m = h.endpointAddr m ∧
          ∃ k, Lts.run step h (is.filter Input.isCheck) = some k ∧
            h'.hubUdpGetStatus m = k.hubUdpGetStatus m := by
  refine ⟨fun h dg mod m hhead hne hid => ?_, fun h h' is m hr hothers => ?_⟩
  · have hother : OfOther m dg := by
      intro mod' hmod'
      rw [hhead] at hmod'
      obtain rfl := Option.some.inj hmod'
      exact ⟨hne, hid⟩
    have hline := handleLine_of_other (h := h) hother
    exact ⟨hline.1, hline.2.2⟩
  · obtain ⟨hdoor, haddr⟩ := tables_of_others hr hothers
    exact ⟨hdoor, haddr, status_of_others rfl hr hothers⟩

theorem isolated_two :
    let h := ((Hub.init []).input (DoorTable.helloOf "D1".toList 10)).1
    (h.handleLine ⟨⟨1, 40000⟩, reportLine "D2".toList (.heartbeat true false), 20,
        20⟩).1.hubUdpGetStatus "D1".toList = h.hubUdpGetStatus "D1".toList ∧
      ∃ h', Lts.run step h [DoorTable.helloOf "D2".toList 20, .check 20000] = some h' ∧
        h'.findDoor "D1".toList = h.findDoor "D1".toList := by
  refine ⟨(isolated.1 _ _ "D2".toList _ rfl (by decide) (by decide)).1, ?_⟩
  obtain ⟨h', hr⟩ : ∃ h', Lts.run step ((Hub.init []).input (DoorTable.helloOf "D1".toList 10)).1
      [DoorTable.helloOf "D2".toList 20, .check 20000] = some h' := ⟨_, rfl⟩
  refine ⟨h', hr, (isolated.2 _ _ _ _ hr fun dg hmem => ?_).1⟩
  rcases List.mem_cons.mp hmem with heq | hmem
  · obtain rfl := Input.datagram.inj heq
    intro mod hmod
    obtain rfl : "D2".toList = mod := Option.some.inj hmod
    decide
  · cases List.mem_singleton.mp hmem

end Hub

end HomeSecurity
