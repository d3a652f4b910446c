import HomeSecurity.HubCommand
import HomeSecurity.Isolation

/-!
# Two ways to a module

A client's COMMAND is passed on to the address in the endpoint table, the hub's
own goes to the address in the door table. Both are set by the same datagrams,
and the tables have 16 and 8 entries: `routesAgree` says that each has the source
of the module's last report unless it was full when the module came, so that the
two agree on every module that neither has turned away.
-/

namespace HomeSecurity

open CText

namespace Hub

/-- The address that the door table has for a module. -/
def doorAddr (h : Hub) (m : Text) : Option SockAddr :=
  (h.hubUdpGetStatus m).bind HubDoorStatus.route

/-- The table has no entry of `m` and no room for one. -/
def DoorsFull (h : Hub) (m : Text) : Prop :=
  h.findDoor m = none ∧ ∀ i, (h.doors i).known = true

/-- The hub's own commands go where the door table says. -/
theorem hubUdpSendCommand_dest (h : Hub) (m target action : Text) :
    (h.hubUdpSendCommand m target action).map (fun r => r.2.dest) = h.doorAddr m := by
  unfold hubUdpSendCommand doorAddr hubUdpGetStatus
  cases h.findDoor m with
  | none => rfl
  | some d =>
      rw [Option.map_some, Option.bind_some, HubDoorStatus.route]
      dsimp only
      cases (h.doors d).hasLastAddr <;> rfl

theorem doorAddr_of_find {h : Hub} {m : Text} {d : Fin hubMaxDoors} (hd : h.findDoor m = some d) :
    h.doorAddr m = (h.doors d).route := by
  rw [doorAddr, hubUdpGetStatus_of_find hd, Option.bind_some]

theorem doorAddr_of_none {h : Hub} {m : Text} (hd : h.findDoor m = none) : h.doorAddr m = none := by
  rw [doorAddr, hubUdpGetStatus, hd, Option.map_none, Option.bind_none]

theorem endpointAddr_of_full {h : Hub} {m : Text} (hfull : h.EndpointsFull m) :
    h.endpointAddr m = none := by
  rw [endpointAddr, hfull.1, Option.bind_none]

/-- A line with a name that fits leaves another name alone. -/
theorem ofOther_of_tokens {dg : Datagram} {mod type m : Text} {args : List Text}
    (htok : dg.tokens = mod :: type :: args) (hshort : mod.length < hubModuleIdLen)
    (hne : m ≠ mod) : OfOther m dg := by
  intro mod' hmod'
  rw [htok] at hmod'
  obtain rfl : mod = mod' := Option.some.inj hmod'
  refine ⟨hne, ?_⟩
  rw [show mod.take (hubModuleIdLen - 1) = mod from storedId_of_short hshort]
  exact hne

/-- A full table stays full. -/
theorem handleLine_known {h : Hub} (dg : Datagram) {i : Fin hubMaxDoors}
    (hk : (h.doors i).known = true) : ((h.handleLine dg).1.doors i).known = true := by
  obtain ⟨m, hm⟩ := known_iff_tracks.mp hk
  exact (handleLine_tracks dg hm).1

end Hub

namespace Routing

structure State where
  hub : Hub
  /-- Where the last datagram that named the module, COMMANDs apart, came from. -/
  lastSource : Text → Option SockAddr

def start (webhookUrl : Text) : State := ⟨.init webhookUrl, fun _ => none⟩

def noteSource (lastSource : Text → Option SockAddr) : Hub.Input → Text → Option SockAddr
  | .datagram dg =>
      match dg.tokens with
      | mod :: type :: _ =>
          if type = "COMMAND".toList then lastSource
          else Function.update lastSource mod (some dg.src)
      | _ => lastSource
  | .check _ => lastSource

def step (s : State) (i : Hub.Input) : Option State :=
  some ⟨(s.hub.input i).1, noteSource s.lastSource i⟩

/-- Each table has the last source, or was full. -/
structure Inv (s : State) : Prop where
  endpoint : ∀ m, ¬s.hub.EndpointsFull m → s.hub.endpointAddr m = s.lastSource m
  door : ∀ m, ¬s.hub.DoorsFull m → s.hub.doorAddr m = s.lastSource m

theorem inv_start (webhookUrl : Text) : Inv (start webhookUrl) where
  endpoint m _ := by
    have hnone : (Hub.init webhookUrl).hubFindEndpoint m = none :=
      Hub.hubFindEndpoint_eq_none_iff.mpr fun j hj => absurd hj.1 (Nat.not_lt_zero _)
    show (Hub.init webhookUrl).endpointAddr m = none
    rw [Hub.endpointAddr, hnone, Option.bind_none]
  door m _ :=
    Hub.doorAddr_of_none (Hub.findDoor_eq_none_iff.mpr fun _ ht => nomatch ht.1)

/-- The names in a line fit the id fields. -/
def ShortName (i : Hub.Input) : Prop :=
  ∀ dg mod type args, i = .datagram dg → dg.tokens = mod :: type :: args →
    mod.length < hubModuleIdLen

section Line

variable {s : State} {dg : Datagram} {mod type : Text} {args : List Text}

theorem noteSource_of_ne (htok : dg.tokens = mod :: type :: args) {m : Text} (hne : m ≠ mod) :
    noteSource s.lastSource (.datagram dg) m = s.lastSource m := by
  rw [noteSource, htok]
  dsimp only
  split
  · rfl
  · exact Function.update_of_ne hne ..

theorem noteSource_self (htok : dg.tokens = mod :: type :: args) :
    noteSource s.lastSource (.datagram dg) mod
      = if type = "COMMAND".toList then s.lastSource mod else some dg.src := by
  rw [noteSource, htok]
  dsimp only
  split
  · rfl
  · exact Function.update_self ..

theorem Inv.endpoint_line (h : Inv s) (htok : dg.tokens = mod :: type :: args)
    (hshort : mod.length < hubModuleIdLen) (m : Text)
    (hroom : ¬(s.hub.handleLine dg).1.EndpointsFull m) :
    (s.hub.handleLine dg).1.endpointAddr m = noteSource s.lastSource (.datagram dg) m := by
  have htable := Hub.handleLine_endpointTable (h := s.hub) htok
  rw [Hub.endpointsFull_of_table htable] at hroom
  by_cases hcmd : type = "COMMAND".toList
  · have hsame : s.hub.noteEndpoint mod type dg.src = s.hub := if_pos hcmd
    rw [hsame] at hroom htable
    rw [Hub.endpointAddr_of_table htable, h.endpoint m hroom]
    by_cases hm : m = mod
    · rw [hm, noteSource_self htok, if_pos hcmd]
    · rw [noteSource_of_ne htok hm]
  · have hupd : s.hub.noteEndpoint mod type dg.src = s.hub.hubUpdateEndpoint mod dg.src :=
      if_neg hcmd
    rw [hupd] at hroom htable
    have hroom' : ¬s.hub.EndpointsFull m := fun hfull => hroom (hfull.hubUpdateEndpoint mod dg.src)
    rw [Hub.endpointAddr_of_table htable]
    by_cases hm : m = mod
    · subst hm
      rw [noteSource_self htok, if_neg hcmd, s.hub.hubUpdateEndpoint_self dg.src hshort hroom']
    · have hid : m ≠ Hub.storedId mod := by
        rw [Hub.storedId_of_short hshort]
        exact hm
      rw [noteSource_of_ne htok hm, s.hub.hubUpdateEndpoint_of_other dg.src hm hid,
        h.endpoint m hroom']

theorem Inv.door_line (h : Inv s) (htok : dg.tokens = mod :: type :: args)
    (hshort : mod.length < hubModuleIdLen) (m : Text)
    (hroom : ¬(s.hub.handleLine dg).1.DoorsFull m) :
    (s.hub.handleLine dg).1.doorAddr m = noteSource s.lastSource (.datagram dg) m := by
  by_cases hm : m = mod
  · subst hm
    rw [noteSource_self htok]
    rcases Hub.handleLine_tracks_cases htok with
      ⟨d, hfind, -, heq, htr⟩ | ⟨hnone, d, hunk, -, -, heq, htr⟩ | ⟨hnone, hfull, -, heq, htr⟩
    · have hfind' : (s.hub.handleLine dg).1.findDoor m = some d := by
        rw [Hub.findDoor_of_tracks_iff fun i => htr i m, hfind]
      have hold := h.door m fun hfull => by
        rw [hfull.1] at hfind
        cases hfind
      rw [Hub.doorAddr_of_find hfind] at hold
      rw [Hub.doorAddr_of_find hfind', heq, Function.update_self, lineStatus_route, hold]
    · have hfind' : (s.hub.handleLine dg).1.findDoor m = some d := by
        refine Hub.findDoor_eq_some_iff.mpr ⟨?_, fun j hj ht => ?_⟩
        · exact (htr d m).mpr (Or.inr ⟨rfl, (Hub.storedId_of_short hshort).symm⟩)
        · rcases (htr j m).mp ht with ht | ⟨rfl, -⟩
          · exact Hub.findDoor_eq_none_iff.mp hnone j ht
          · exact absurd hj (lt_irrefl _)
      -- it had no entry and there was room, so it had not reported
      have hold := h.door m fun hfull => by
        rw [hfull.2 d] at hunk
        cases hunk
      rw [Hub.doorAddr_of_none hnone] at hold
      rw [Hub.doorAddr_of_find hfind', heq, Function.update_self, lineStatus_route, ← hold]
      rfl
    · refine absurd ⟨?_, fun i => Hub.handleLine_known dg (hfull i)⟩ hroom
      rw [Hub.findDoor_of_tracks_iff fun i => htr i m, hnone]
  · have hline := Hub.handleLine_of_other (h := s.hub) (Hub.ofOther_of_tokens htok hshort hm)
    have hroom' : ¬s.hub.DoorsFull m := fun hfull =>
      hroom ⟨hline.2.1.trans hfull.1, fun i => Hub.handleLine_known dg (hfull.2 i)⟩
    rw [noteSource_of_ne htok hm, Hub.doorAddr, hline.1]
    exact h.door m hroom'

end Line

theorem inv_step (s : State) (i : Hub.Input) (s' : State) (h : Inv s) (hok : ShortName i)
    (hs : step s i = some s') : Inv s' := by
  obtain rfl := Option.some.inj hs
  cases i with
  | check now =>
      have htable := s.hub.checkOfflineModules_endpointTable now
      have hfind : ∀ m, (s.hub.checkOfflineModules now).1.findDoor m = s.hub.findDoor m :=
        fun m => Hub.findDoor_of_tracks_iff fun i => s.hub.checkOfflineModules_tracks now i m
      refine ⟨fun m hroom => ?_, fun m hroom => ?_⟩
      · exact (Hub.endpointAddr_of_table htable m).trans
          (h.endpoint m fun hfull => hroom ((Hub.endpointsFull_of_table htable m).mpr hfull))
      · have hroom' : ¬s.hub.DoorsFull m := fun hfull => by
          refine hroom ⟨(hfind m).trans hfull.1, fun i => ?_⟩
          obtain ⟨m', hm'⟩ := Hub.known_iff_tracks.mp (hfull.2 i)
          exact ((s.hub.checkOfflineModules_tracks now i m').mpr hm').1
        have hroute : ∀ e : HubDoorStatus, (e.checked now).route = e.route := by
          intro e
          unfold HubDoorStatus.checked
          split <;> rfl
        show (s.hub.checkOfflineModules now).1.doorAddr m = s.lastSource m
        rw [← h.door m hroom', Hub.doorAddr, Hub.doorAddr, Hub.checkOfflineModules_status]
        cases s.hub.hubUdpGetStatus m with
        | none => rfl
        | some e => exact hroute e
  | datagram dg =>
      rcases dg.tokens_cases with ⟨mod, type, args, htok⟩ | hshort
      · have hshort := hok dg mod type args rfl htok
        exact ⟨h.endpoint_line htok hshort, h.door_line htok hshort⟩
      · have hnote : noteSource s.lastSource (.datagram dg) = s.lastSource := by
          rw [noteSource]
          rcases hwords : dg.tokens with _ | ⟨mod, _ | ⟨type, args⟩⟩
          · rfl
          · rfl
          · exact absurd hwords (hshort mod type args)
        have hsame : (s.hub.input (.datagram dg)).1 = s.hub := congrArg Prod.fst
          (Hub.handleLine_of_short hshort)
        rw [hnote, hsame]
        exact h

/-- With names that fit the id fields, each table has for a module the source of
its last report, or nothing if it was full when the module came; on a module that
neither has turned away they agree. -/
theorem routesAgree {webhookUrl : Text} {is : List Hub.Input} {s : State}
    (hr : Lts.run step (start webhookUrl) is = some s) (hshort : ∀ i ∈ is, ShortName i)
    (m : Text) :
    (¬s.hub.EndpointsFull m → s.hub.endpointAddr m = s.lastSource m) ∧
      (¬s.hub.DoorsFull m → s.hub.doorAddr m = s.lastSource m) ∧
      (s.hub.EndpointsFull m → s.hub.endpointAddr m = none) ∧
      (s.hub.DoorsFull m → s.hub.doorAddr m = none) ∧
      (¬s.hub.EndpointsFull m → ¬s.hub.DoorsFull m →
        s.hub.endpointAddr m = s.hub.doorAddr m) := by
  have hinv : Inv s := Lts.inv_run (P := fun _ i => ShortName i)
    (fun s i s' h hok hs => inv_step s i s' h hok hs) (inv_start webhookUrl)
    (Lts.along_of_forall_mem (fun i hi _ => hshort i hi) _) hr
  refine ⟨hinv.endpoint m, hinv.door m, Hub.endpointAddr_of_full,
    fun hfull => Hub.doorAddr_of_none hfull.1, fun hends hdoors => ?_⟩
  rw [hinv.endpoint m hends, hinv.door m hdoors]

theorem shortName_hello {m : Text} (hm : IsModuleId m) (t : Int) :
    ShortName (DoorTable.helloOf m t) := by
  intro dg mod type args heq htok
  obtain rfl := Hub.Input.datagram.inj heq
  rw [Datagram.tokens_eq, wireTokens_reportLine hm] at htok
  obtain ⟨rfl, -⟩ := List.cons.inj htok
  exact hm.short

theorem routesAgree_hello :
    ∃ s, Lts.run step (start []) [DoorTable.helloOf "D1".toList 10] = some s ∧
      s.hub.endpointAddr "D1".toList = s.hub.doorAddr "D1".toList := by
  obtain ⟨s, hr⟩ : ∃ s, Lts.run step (start []) [DoorTable.helloOf "D1".toList 10] = some s :=
    ⟨_, rfl⟩
  have hshort : ∀ i ∈ [DoorTable.helloOf "D1".toList 10], ShortName i := by
    intro i hi
    rw [List.mem_singleton.mp hi]
    exact shortName_hello isModuleId_D1 10
  refine ⟨s, hr, (routesAgree hr hshort "D1".toList).2.2.2.2 ?_ ?_⟩
  · obtain rfl := Option.some.inj hr
    exact fun hfull => absurd hfull.2 (by decide +kernel)
  · obtain rfl := Option.some.inj hr
    exact fun hfull => absurd (hfull.2 1) (by decide +kernel)

/-- One module more than the door table has entries. -/
def nineModules : List Text :=
  ["D1".toList, "D2".toList, "D3".toList, "D4".toList, "D5".toList, "D6".toList, "D7".toList,
    "D8".toList, "D9".toList]

/-- The ninth module gets an endpoint and no entry. -/
theorem routesAgree_ninth :
    ¬∀ (webhookUrl : Text) (is : List Hub.Input) (s : State),
      Lts.run step (start webhookUrl) is = some s → (∀ i ∈ is, ShortName i) →
      ∀ m, s.hub.endpointAddr m = s.hub.doorAddr m ∧
        ∀ a, s.hub.endpointAddr m = some a → s.lastSource m = some a := by
  intro hall
  have hrun : (Lts.run step (start []) (nineModules.map fun m => DoorTable.helloOf m 10)).map
      (fun s => ((s.hub.endpointAddr "D9".toList).isSome, (s.hub.doorAddr "D9".toList).isSome))
      = some (true, false) := by
    decide +kernel
  have hids : ∀ m ∈ nineModules, isModuleId m = true := by decide
  have hshort : ∀ i ∈ nineModules.map fun m => DoorTable.helloOf m 10, ShortName i := by
    intro i hi
    obtain ⟨m, hm, rfl⟩ := List.mem_map.mp hi
    exact shortName_hello (.of_test (hids m hm)) 10
  obtain ⟨s, hs, hobs⟩ := Option.map_eq_some_iff.mp hrun
  obtain ⟨hend, hdoor⟩ := Prod.mk.inj hobs
  rw [(hall [] _ s hs hshort "D9".toList).1, hdoor] at hend
  cases hend

end Routing

end HomeSecurity
