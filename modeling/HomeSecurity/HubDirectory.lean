import HomeSecurity.Endpoints
import HomeSecurity.KeyedSlots

/-!
# The hub as a directory

As long as the names of the modules fit the id field, the door table is a product
of one machine for each module: what `hub_udp_get_status` answers about a module
depends on the module's own lines and on the offline checks since the first of them
(`hubUdpGetStatus_run`), whatever the other modules sent and in whatever order,
except for which eight modules came first. The endpoint table is the same with
sixteen modules, and no COMMAND counts (`endpointAddr_run`).
-/

namespace HomeSecurity

open CText
open KeyedSlots (Machine Slots find upsert upsert_of_find upsert_of_free upsert_of_full)

namespace Hub

/-- The module, the type and the arguments of a line. -/
def Input.words : Input → Option (Text × Text × List Text)
  | .datagram dg =>
      match dg.tokens with
      | mod :: type :: args => some (mod, type, args)
      | _ => none
  | .check _ => none

theorem Input.words_datagram {dg : Datagram} {mod type : Text} {args : List Text}
    (htok : dg.tokens = mod :: type :: args) :
    (Input.datagram dg).words = some (mod, type, args) := by
  simp [Input.words, htok]

theorem Input.words_short {dg : Datagram}
    (hshort : ∀ mod type args, dg.tokens ≠ mod :: type :: args) :
    (Input.datagram dg).words = none := by
  simp only [Input.words]

/-- The names in the inputs fit the id field. -/
def ShortNames (is : List Input) : Prop :=
  ∀ i ∈ is, ∀ w ∈ i.words, w.1.length < hubModuleIdLen

/-- A table that follows a machine step by step follows it through a run. -/
theorem slots_run {ν : Type} {n : Nat} {M : Machine Text ν Input} {slots : Hub → Slots n Text ν}
    (hinit : ∀ webhookUrl, slots (init webhookUrl) = fun _ => none)
    (hstep : ∀ (h : Hub) (i : Input), (∀ w ∈ i.words, w.1.length < hubModuleIdLen) →
      slots (h.input i).1 = M.step (slots h) i)
    {webhookUrl : Text} {is : List Input} {h : Hub} (hshort : ShortNames is)
    (hr : Lts.run step (init webhookUrl) is = some h) : slots h = M.run n is := by
  induction is using List.reverseRecOn generalizing h with
  | nil =>
      obtain rfl := Option.some.inj hr
      exact hinit webhookUrl
  | append_singleton is i ih =>
      obtain ⟨h', hr', hlast⟩ := Lts.run_append_eq_some.mp hr
      obtain rfl := Option.some.inj hlast
      have hi := hshort i (List.mem_append_right _ (List.mem_singleton_self i))
      rw [Machine.run_concat, hstep h' i hi,
        ih (fun j hj => hshort j (List.mem_append_left _ hj)) hr']

/-! ## The door table -/

/-- What a module's own lines and the checks do to its entry. -/
def statusMachine : Machine Text HubDoorStatus Input where
  key i := i.words.map Prod.fst
  fresh := freshDoor
  own m i e :=
    match i, i.words with
    | .datagram dg, some (_, type, args) => lineStatus e m type args dg
    | _, _ => e
  tick i e :=
    match i with
    | .check now => e.checked now
    | .datagram _ => e

/-- The known entries under their ids. -/
def doorSlots (h : Hub) : Slots hubMaxDoors Text HubDoorStatus := fun i =>
  if (h.doors i).known then some ((h.doors i).moduleId.text, h.doors i) else none

theorem find_doorSlots (h : Hub) (m : Text) : find h.doorSlots m = h.findDoor m := by
  rw [find, findDoor]
  congr 1
  funext i
  rw [Bool.eq_iff_iff, Bool.and_eq_true, CBuf.strncmpEq_iff, decide_eq_true_eq, doorSlots]
  cases (h.doors i).known <;> simp

theorem get_doorSlots (h : Hub) (m : Text) :
    KeyedSlots.get h.doorSlots m = h.hubUdpGetStatus m := by
  rw [KeyedSlots.get, find_doorSlots, hubUdpGetStatus]
  cases hfind : h.findDoor m with
  | none => rfl
  | some d =>
      have hknown := (findDoor_eq_some_iff.mp hfind).1.1
      simp [doorSlots, hknown]

theorem doorSlots_isNone (h : Hub) (i : Fin hubMaxDoors) :
    (h.doorSlots i).isNone = !(h.doors i).known := by
  rw [doorSlots]
  cases (h.doors i).known <;> rfl

/-- Writing a known entry writes its slot. -/
theorem doorSlots_of_update {h h' : Hub} {d : Fin hubMaxDoors} {e : HubDoorStatus}
    (heq : h'.doors = Function.update h.doors d e) (hknown : e.known = true) :
    h'.doorSlots = Function.update h.doorSlots d (some (e.moduleId.text, e)) := by
  funext i
  rw [doorSlots, heq]
  by_cases hi : i = d
  · subst hi
    simp [hknown]
  · simp [Function.update_of_ne hi, doorSlots]

/-- A line is an update of its module's slot. -/
theorem handleLine_doorSlots {h : Hub} {dg : Datagram} {mod type : Text} {args : List Text}
    (htok : dg.tokens = mod :: type :: args) (hshort : mod.length < hubModuleIdLen) :
    (h.handleLine dg).1.doorSlots
      = upsert h.doorSlots mod (freshDoor mod) fun e => lineStatus e mod type args dg := by
  have hkey := fun e => lineStatus_key e mod type args dg
  rcases handleLine_doors_cases (h := h) htok with
    ⟨d, hfind, -, heq⟩ | ⟨hnone, d, hunk, hfirst, -, heq⟩ | ⟨hnone, hfull, -, heq⟩
  · obtain ⟨hknown, hid⟩ := (findDoor_eq_some_iff.mp hfind).1
    have hslot : h.doorSlots d = some (mod, h.doors d) := by simp [doorSlots, hknown, hid]
    have hknown' : (lineStatus (h.doors d) mod type args dg).known = true :=
      (congrArg Prod.fst (hkey _)).trans hknown
    have hid' : (lineStatus (h.doors d) mod type args dg).moduleId.text = mod :=
      (congrArg (fun k => k.2.text) (hkey (h.doors d))).trans hid
    rw [doorSlots_of_update heq hknown', hid',
      upsert_of_find _ _ ((h.find_doorSlots mod).trans hfind) hslot]
  · have hknown : (lineStatus (freshDoor mod) mod type args dg).known = true :=
      congrArg Prod.fst (hkey _)
    have hid : (lineStatus (freshDoor mod) mod type args dg).moduleId.text = mod :=
      (congrArg (fun k => k.2.text) (hkey (freshDoor mod))).trans (storedId_of_short hshort)
    have hfree : (h.doorSlots d).isNone = true := by rw [doorSlots_isNone, hunk, Bool.not_false]
    have hused : ∀ j < d, (h.doorSlots j).isNone = false := fun j hj => by
      rw [doorSlots_isNone, hfirst j hj, Bool.not_true]
    rw [doorSlots_of_update heq hknown, hid,
      upsert_of_free _ _ ((h.find_doorSlots mod).trans hnone) hfree hused]
  · rw [upsert_of_full _ _ ((h.find_doorSlots mod).trans hnone)
      fun j => by simp [doorSlots_isNone, hfull j]]
    funext i
    rw [doorSlots, doorSlots, heq]

/-- One input is one step of the machines. -/
theorem input_doorSlots (h : Hub) (i : Input)
    (hshort : ∀ w ∈ i.words, w.1.length < hubModuleIdLen) :
    (h.input i).1.doorSlots = statusMachine.step h.doorSlots i := by
  cases i with
  | check now =>
      funext j
      show (h.checkOfflineModules now).1.doorSlots j = (h.doorSlots j).map _
      have hkey := (h.doors j).checked_key now
      have hknown : ((h.doors j).checked now).known = (h.doors j).known := congrArg Prod.fst hkey
      have hid : ((h.doors j).checked now).moduleId = (h.doors j).moduleId := congrArg Prod.snd hkey
      rw [doorSlots, doorSlots, checkOfflineModules_doors, hknown, hid]
      cases (h.doors j).known <;> rfl
  | datagram dg =>
      rcases dg.tokens_cases with ⟨mod, type, args, htok⟩ | htok
      · have hwords := Input.words_datagram htok
        show (h.handleLine dg).1.doorSlots = _
        rw [handleLine_doorSlots htok (hshort _ hwords)]
        simp [Machine.step, statusMachine, hwords]
      · have hwords := Input.words_short htok
        show (h.handleLine dg).1.doorSlots = _
        rw [handleLine_of_short htok]
        funext j
        simp only [Machine.step, statusMachine, hwords, Option.map_none]
        cases h.doorSlots j <;> rfl

/-- What the hub answers about a module: for the first eight modules named, what the
module's own lines and the checks since the first of them make of a fresh entry, and
nothing for any other. -/
theorem hubUdpGetStatus_run {webhookUrl : Text} {is : List Input} {h : Hub}
    (hshort : ShortNames is) (hr : Lts.run step (init webhookUrl) is = some h) (m : Text) :
    h.hubUdpGetStatus m
      = if m ∈ (statusMachine.keys is).take hubMaxDoors then statusMachine.alone m is
        else none := by
  rw [← get_doorSlots, slots_run (fun _ => rfl) input_doorSlots hshort hr, Machine.get_run]
  by_cases hm : m ∈ (statusMachine.keys is).take hubMaxDoors
  · rw [if_pos hm, if_pos hm]
  · rw [if_neg hm, if_neg hm]

/-- Two modules, and a check. -/
def twoModules : List Input :=
  [.datagram ⟨⟨1, 40000⟩, "D1 HELLO\n".toList, 10, 10⟩,
    .datagram ⟨⟨2, 40000⟩, "D2 EVENT D0 DOOR OPEN\n".toList, 20, 20⟩, .check 30,
    .datagram ⟨⟨1, 40001⟩, "D1 HELLO\n".toList, 40, 40⟩]

theorem shortNames_twoModules : ShortNames twoModules := by
  unfold ShortNames twoModules
  decide +kernel

theorem hubUdpGetStatus_run_twoModules : ∃ h, Lts.run step (init []) twoModules = some h
    ∧ h.hubUdpGetStatus "D2".toList = statusMachine.alone "D2".toList twoModules := by
  obtain ⟨h, hr⟩ : ∃ h, Lts.run step (init []) twoModules = some h := ⟨_, rfl⟩
  refine ⟨h, hr, (hubUdpGetStatus_run shortNames_twoModules hr "D2".toList).trans (if_pos ?_)⟩
  decide +kernel

/-! ## The endpoint table -/

/-- What a module's own lines do to its endpoint: the address and `has_addr`. -/
def addressMachine : Machine Text (SockAddr × Bool) Input where
  key i := i.words.bind fun w => if w.2.1 = "COMMAND".toList then none else some w.1
  fresh _ := (⟨0, 0⟩, false)
  own _ i a :=
    match i with
    | .datagram dg => (dg.src, true)
    | .check _ => a
  tick _ a := a

/-- The endpoints in use under their ids. -/
def endpointSlots (h : Hub) : Slots hubMaxModules Text (SockAddr × Bool) := fun i =>
  if i.val < h.numEndpoints then
    some ((h.endpoints i).moduleId.text, ((h.endpoints i).addr, (h.endpoints i).hasAddr))
  else none

theorem addressMachine_key {i : Input} {mod type : Text} {args : List Text}
    (hi : i.words = some (mod, type, args)) :
    addressMachine.key i = if type = "COMMAND".toList then none else some mod := by
  show (i.words.bind fun w => if w.2.1 = "COMMAND".toList then none else some w.1) = _
  rw [hi, Option.bind_some]

theorem addressMachine_key_of_none {i : Input} (hi : i.words = none) :
    addressMachine.key i = none := by
  show (i.words.bind fun w => if w.2.1 = "COMMAND".toList then none else some w.1) = _
  rw [hi, Option.bind_none]

theorem endpointSlots_of_table {h h' : Hub} (ht : h'.endpointTable = h.endpointTable) :
    h'.endpointSlots = h.endpointSlots := by
  have hends : h'.endpoints = h.endpoints := congrArg Prod.fst ht
  have hnum : h'.numEndpoints = h.numEndpoints := congrArg Prod.snd ht
  unfold endpointSlots
  rw [hends, hnum]

theorem find_endpointSlots (h : Hub) (m : Text) :
    find h.endpointSlots m = h.hubFindEndpoint m := by
  rw [find, hubFindEndpoint]
  congr 1
  funext i
  rw [Bool.eq_iff_iff, Bool.and_eq_true, decide_eq_true_eq, decide_eq_true_eq, decide_eq_true_eq,
    endpointSlots]
  split <;> simp [*]

theorem get_endpointSlots (h : Hub) (m : Text) :
    h.endpointAddr m
      = (KeyedSlots.get h.endpointSlots m).bind fun a => if a.2 then some a.1 else none := by
  rw [endpointAddr, KeyedSlots.get, find_endpointSlots]
  cases hfind : h.hubFindEndpoint m with
  | none => rfl
  | some i =>
      have hused := (hubFindEndpoint_eq_some_iff.mp hfind).1.1
      simp [endpointSlots, hused]

theorem endpointSlots_isNone (h : Hub) (i : Fin hubMaxModules) :
    (h.endpointSlots i).isNone = decide (h.numEndpoints ≤ i.val) := by
  rw [endpointSlots]
  split
  · rename_i hlt
    simp [hlt]
  · rename_i hge
    simp [Nat.not_lt.mp hge]

/-- `hub_update_endpoint` is an update of the module's slot. -/
theorem hubUpdateEndpoint_slots (h : Hub) {mod : Text} (src : SockAddr)
    (hshort : mod.length < hubModuleIdLen) :
    (h.hubUpdateEndpoint mod src).endpointSlots
      = upsert h.endpointSlots mod (⟨0, 0⟩, false) fun _ => (src, true) := by
  rcases h.hubUpdateEndpoint_cases mod src with
    ⟨i, hfind, hends, hnum⟩ | ⟨hnone, i, hi, hends, hnum⟩ | ⟨⟨hnone, hfull⟩, heq⟩
  · obtain ⟨hused, hid⟩ := (hubFindEndpoint_eq_some_iff.mp hfind).1
    have hslot : h.endpointSlots i
        = some (mod, ((h.endpoints i).addr, (h.endpoints i).hasAddr)) := by
      simp [endpointSlots, hused, hid]
    rw [upsert_of_find _ _ ((h.find_endpointSlots mod).trans hfind) hslot]
    funext j
    rw [endpointSlots, hends, hnum]
    by_cases hj : j = i
    · subst hj
      simp [hused, hid]
    · simp [Function.update_of_ne hj, endpointSlots]
  · have hfree : (h.endpointSlots i).isNone = true := by
      rw [endpointSlots_isNone, hi]
      exact decide_eq_true (Nat.le_refl _)
    have hfirst : ∀ j < i, (h.endpointSlots j).isNone = false := by
      intro j hj
      rw [endpointSlots_isNone, decide_eq_false_iff_not]
      have := Fin.lt_def.mp hj
      omega
    rw [upsert_of_free _ _ ((h.find_endpointSlots mod).trans hnone) hfree hfirst]
    funext j
    rw [endpointSlots, hends, hnum]
    by_cases hj : j = i
    · subst hj
      have hid : (snprintf hubModuleIdLen mod).text = mod := storedId_of_short hshort
      simp [hi, hid]
    · have hne : j.val ≠ h.numEndpoints := fun heq => hj (Fin.ext (heq.trans hi.symm))
      have hlt : j.val < h.numEndpoints + 1 ↔ j.val < h.numEndpoints := by omega
      simp [Function.update_of_ne hj, endpointSlots, hlt]
  · have hused : ∀ j, (h.endpointSlots j).isNone = false := by
      intro j
      rw [endpointSlots_isNone, decide_eq_false_iff_not]
      omega
    rw [upsert_of_full _ _ ((h.find_endpointSlots mod).trans hnone) hused,
      endpointSlots_of_table heq]

theorem input_endpointSlots (h : Hub) (i : Input)
    (hshort : ∀ w ∈ i.words, w.1.length < hubModuleIdLen) :
    (h.input i).1.endpointSlots = addressMachine.step h.endpointSlots i := by
  have hkeep : ∀ i, addressMachine.key i = none →
      addressMachine.step h.endpointSlots i = h.endpointSlots := by
    intro i hi
    funext j
    simp only [Machine.step, hi]
    cases h.endpointSlots j <;> rfl
  cases i with
  | check now =>
      rw [hkeep _ rfl]
      exact endpointSlots_of_table (h.checkOfflineModules_endpointTable now)
  | datagram dg =>
      rcases dg.tokens_cases with ⟨mod, type, args, htok⟩ | htok
      · have hwords := Input.words_datagram htok
        have htable := endpointSlots_of_table (handleLine_endpointTable (h := h) htok)
        show (h.handleLine dg).1.endpointSlots = _
        rw [htable, noteEndpoint]
        split
        · rename_i hcommand
          rw [hkeep _ ((addressMachine_key hwords).trans (if_pos hcommand))]
        · rename_i hother
          rw [hubUpdateEndpoint_slots h dg.src (hshort _ hwords), Machine.step,
            (addressMachine_key hwords).trans (if_neg hother)]
          rfl
      · rw [hkeep _ (addressMachine_key_of_none (Input.words_short htok))]
        show (h.handleLine dg).1.endpointSlots = _
        rw [handleLine_of_short htok]

/-- The addresses that a module's own lines came from, in order. -/
def sources (m : Text) (is : List Input) : List SockAddr :=
  is.filterMap fun i =>
    match i with
    | .datagram dg => if addressMachine.key i = some m then some dg.src else none
    | .check _ => none

theorem sources_concat (m : Text) (is : List Input) (i : Input) :
    sources m (is ++ [i]) = sources m is ++ sources m [i] :=
  List.filterMap_append ..

/-- The machine of a module keeps the last of them. -/
theorem alone_addressMachine (m : Text) (is : List Input) :
    addressMachine.alone m is = (sources m is).getLast?.map fun a => (a, true) := by
  induction is using List.reverseRecOn with
  | nil => rfl
  | append_singleton is i ih =>
      rw [Machine.alone_concat, ih, sources_concat, Machine.aloneStep]
      have hkeep : sources m [i] = [] → ((sources m is).getLast?.map fun a => (a, true))
          = (sources m is ++ sources m [i]).getLast?.map fun a => (a, true) := by
        intro hnil
        rw [hnil, List.append_nil]
      cases hkey : addressMachine.key i with
      | none =>
          have hnil : sources m [i] = [] := by
            cases i <;> simp [sources, hkey]
          rw [← hkeep hnil]
          exact congrFun Option.map_id_fun' _
      | some mod =>
          dsimp only
          split
          · rename_i hm
            cases i with
            | check now => cases hkey
            | datagram dg =>
                have hone : sources m [.datagram dg] = [dg.src] := by
                  simp [sources, hkey, hm]
                rw [hone, List.getLast?_concat]
                rfl
          · rename_i hm
            refine hkeep ?_
            cases i <;> simp [sources, hkey, hm]

/-- Where the hub forwards a module's commands: for the first sixteen modules that
sent anything but a COMMAND, to where the last such line came from. -/
theorem endpointAddr_run {webhookUrl : Text} {is : List Input} {h : Hub}
    (hshort : ShortNames is) (hr : Lts.run step (init webhookUrl) is = some h) (m : Text) :
    h.endpointAddr m
      = if m ∈ (addressMachine.keys is).take hubMaxModules then (sources m is).getLast?
        else none := by
  rw [get_endpointSlots, slots_run (fun _ => rfl) input_endpointSlots hshort hr, Machine.get_run,
    alone_addressMachine]
  by_cases hm : m ∈ (addressMachine.keys is).take hubMaxModules
  · rw [if_pos hm, if_pos hm]
    cases (sources m is).getLast? <;> rfl
  · rw [if_neg hm, if_neg hm]
    rfl

theorem endpointAddr_run_twoModules : ∃ h, Lts.run step (init []) twoModules = some h
    ∧ h.endpointAddr "D1".toList = some ⟨1, 40001⟩ := by
  obtain ⟨h, hr⟩ : ∃ h, Lts.run step (init []) twoModules = some h := ⟨_, rfl⟩
  refine ⟨h, hr, (endpointAddr_run shortNames_twoModules hr "D1".toList).trans ?_⟩
  decide +kernel

end Hub

end HomeSecurity
