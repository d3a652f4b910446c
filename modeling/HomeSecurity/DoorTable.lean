import Mathlib.Data.Fintype.Card
import HomeSecurity.OfflineCheck

/-!
# Which module has which entry

`find_or_create_door` looks a module up by its whole name but stores the first
15 bytes of it. `Stored` is when the two agree: the name fits, or nothing is
stored under its beginning. As long as it holds of every datagram, the entries
have different ids, each module keeps the entry it got, and a module is refused
only when more modules were named than there are entries (`oneEntry`).
-/

namespace HomeSecurity

open CText

namespace Hub

theorem checkOfflineModules_tracks (h : Hub) (now : Int) (i : Fin hubMaxDoors) (m : Text) :
    (h.checkOfflineModules now).1.Tracks i m ↔ h.Tracks i m :=
  tracks_congr (by rw [checkOfflineModules_doors, HubDoorStatus.checked_key]) m

/-! ## Names that are stored as they are looked up -/

/-- No two known entries have the same id. -/
def Distinct (h : Hub) : Prop := ∀ i j m, h.Tracks i m → h.Tracks j m → i = j

/-- The module's name fits the id field, or nothing is stored under its
beginning. -/
def Stored (h : Hub) (mod : Text) : Prop :=
  mod.length < hubModuleIdLen ∨ ∀ i, ¬h.Tracks i (storedId mod)

/-- Then nothing is stored under it if it is not found. -/
theorem Stored.not_tracks {h : Hub} {mod : Text} (hok : h.Stored mod)
    (hnone : h.findDoor mod = none) (i : Fin hubMaxDoors) : ¬h.Tracks i (storedId mod) := by
  rcases hok with hshort | hfree
  · rw [storedId_of_short hshort]
    exact findDoor_eq_none_iff.mp hnone i
  · exact hfree i

/-- The condition on a datagram. -/
def StoredInput (h : Hub) : Input → Prop
  | .datagram dg => ∀ mod type args, dg.tokens = mod :: type :: args → h.Stored mod
  | .check _ => True

theorem Distinct.handleLine {h : Hub} (hd : h.Distinct) {dg : Datagram}
    (hok : h.StoredInput (.datagram dg)) : (h.handleLine dg).1.Distinct := by
  rcases dg.tokens_cases with ⟨mod, type, args, htok⟩ | hshort
  · rcases handleLine_tracks_cases htok with
      ⟨-, -, -, -, heq⟩ | ⟨hnone, d, -, -, -, -, heq⟩ | ⟨-, -, -, -, heq⟩
    · intro i j m hi hj
      exact hd i j m ((heq i m).mp hi) ((heq j m).mp hj)
    · have hfree := (hok mod type args htok).not_tracks hnone
      intro i j m hi hj
      rcases (heq i m).mp hi with hi | ⟨rfl, rfl⟩
      · rcases (heq j m).mp hj with hj | ⟨rfl, rfl⟩
        · exact hd i j m hi hj
        · exact absurd hi (hfree i)
      · rcases (heq j _).mp hj with hj | ⟨rfl, -⟩
        · exact absurd hj (hfree j)
        · rfl
    · intro i j m hi hj
      exact hd i j m ((heq i m).mp hi) ((heq j m).mp hj)
  · rw [handleLine_of_short hshort]
    exact hd

theorem Distinct.checkOfflineModules {h : Hub} (hd : h.Distinct) (now : Int) :
    (h.checkOfflineModules now).1.Distinct := by
  intro i j m hi hj
  exact hd i j m ((h.checkOfflineModules_tracks now i m).mp hi)
    ((h.checkOfflineModules_tracks now j m).mp hj)

end Hub

/-! ## Runs -/

namespace DoorTable

structure State where
  hub : Hub
  /-- The module and the entry of every line so far, `none` where it got none. -/
  uses : List (Text × Option (Fin hubMaxDoors))

def start (webhookUrl : Text) : State := ⟨.init webhookUrl, []⟩

def inputUses (h : Hub) : Hub.Input → List (Text × Option (Fin hubMaxDoors))
  | .datagram dg =>
      match dg.tokens with
      | mod :: _ :: _ => [(mod, h.lineEntry dg)]
      | _ => []
  | .check _ => []

def step (s : State) (i : Hub.Input) : Option State :=
  some ⟨(s.hub.input i).1, s.uses ++ inputUses s.hub i⟩

theorem inputUses_of_tokens {h : Hub} {dg : Datagram} {mod type : Text} {args : List Text}
    (htok : dg.tokens = mod :: type :: args) :
    inputUses h (.datagram dg) = [(mod, h.lineEntry dg)] := by
  rw [inputUses, htok]

theorem inputUses_of_short {h : Hub} {dg : Datagram}
    (htok : ∀ mod type args, dg.tokens ≠ mod :: type :: args) :
    inputUses h (.datagram dg) = [] := by
  rw [inputUses]
  rcases hwords : dg.tokens with _ | ⟨mod, _ | ⟨type, args⟩⟩
  · rfl
  · rfl
  · exact absurd hwords (htok mod type args)

def StoredStep (s : State) (i : Hub.Input) : Prop := s.hub.StoredInput i

/-- Every entry was created for a module that was named, a module that got an
entry still has it, and none that was refused is stored or can be. -/
structure Inv (s : State) : Prop where
  distinct : s.hub.Distinct
  named : ∀ i m, s.hub.Tracks i m → ∃ u ∈ s.uses, Hub.storedId u.1 = m
  got : ∀ u ∈ s.uses, ∀ d, u.2 = some d → s.hub.Tracks d (Hub.storedId u.1)
  refused : ∀ u ∈ s.uses, u.2 = none →
    (∀ i, (s.hub.doors i).known = true) ∧ ∀ i, ¬s.hub.Tracks i (Hub.storedId u.1)

theorem inv_start (webhookUrl : Text) : Inv (start webhookUrl) where
  distinct := fun _ _ _ hi => nomatch hi.1
  named := fun _ _ hi => nomatch hi.1
  got := nofun
  refused := nofun

/-- A step that leaves every entry with its module keeps the invariant. -/
theorem Inv.frame {s : State} (hs : Inv s) {h : Hub}
    (heq : ∀ i m, h.Tracks i m ↔ s.hub.Tracks i m) : Inv ⟨h, s.uses⟩ where
  distinct i j m hi hj := hs.distinct i j m ((heq i m).mp hi) ((heq j m).mp hj)
  named i m hi := hs.named i m ((heq i m).mp hi)
  got u hu d hd := (heq d _).mpr (hs.got u hu d hd)
  refused u hu hnone := by
    obtain ⟨hfull, hfree⟩ := hs.refused u hu hnone
    refine ⟨fun i => ?_, fun i hi => hfree i ((heq i _).mp hi)⟩
    obtain ⟨m, hm⟩ := Hub.known_iff_tracks.mp (hfull i)
    exact ((heq i m).mpr hm).1

/-- The use of a line is recorded. -/
theorem Inv.record {s : State} (hs : Inv s) {u : Text × Option (Fin hubMaxDoors)}
    (hgot : ∀ d, u.2 = some d → s.hub.Tracks d (Hub.storedId u.1))
    (hrefused : u.2 = none →
      (∀ i, (s.hub.doors i).known = true) ∧ ∀ i, ¬s.hub.Tracks i (Hub.storedId u.1)) :
    Inv ⟨s.hub, s.uses ++ [u]⟩ where
  distinct := hs.distinct
  named i m hi := by
    obtain ⟨v, hv, heq⟩ := hs.named i m hi
    exact ⟨v, List.mem_append_left _ hv, heq⟩
  got v hv d hd := by
    rcases List.mem_append.mp hv with hv | hv
    · exact hs.got v hv d hd
    · obtain rfl := List.mem_singleton.mp hv
      exact hgot d hd
  refused v hv hnone := by
    rcases List.mem_append.mp hv with hv | hv
    · exact hs.refused v hv hnone
    · obtain rfl := List.mem_singleton.mp hv
      exact hrefused hnone

/-- A new entry, of a module that had none: nobody has been refused so far. -/
theorem Inv.create {s : State} (hs : Inv s) {h : Hub} {d : Fin hubMaxDoors} {mod : Text}
    (hdist : h.Distinct) (hunk : (s.hub.doors d).known = false)
    (heq : ∀ i m, h.Tracks i m ↔ s.hub.Tracks i m ∨ i = d ∧ m = Hub.storedId mod) :
    Inv ⟨h, s.uses ++ [(mod, some d)]⟩ where
  distinct := hdist
  named i m hi := by
    rcases (heq i m).mp hi with hi | ⟨-, rfl⟩
    · obtain ⟨v, hv, hid⟩ := hs.named i m hi
      exact ⟨v, List.mem_append_left _ hv, hid⟩
    · exact ⟨_, List.mem_append_right _ (List.mem_singleton_self _), rfl⟩
  got v hv e he := by
    rcases List.mem_append.mp hv with hv | hv
    · exact (heq e _).mpr (Or.inl (hs.got v hv e he))
    · obtain rfl := List.mem_singleton.mp hv
      obtain rfl := Option.some.inj he
      exact (heq d _).mpr (Or.inr ⟨rfl, rfl⟩)
  refused v hv hnone := by
    rcases List.mem_append.mp hv with hv | hv
    · rw [(hs.refused v hv hnone).1 d] at hunk
      cases hunk
    · obtain rfl := List.mem_singleton.mp hv
      cases hnone

theorem inv_step (s : State) (i : Hub.Input) (s' : State) (hs : Inv s) (hok : StoredStep s i)
    (hst : step s i = some s') : Inv s' := by
  obtain rfl := Option.some.inj hst
  cases i with
  | check now =>
      rw [show inputUses s.hub (.check now) = [] from rfl, List.append_nil]
      exact hs.frame (s.hub.checkOfflineModules_tracks now)
  | datagram dg =>
      rcases dg.tokens_cases with ⟨mod, type, args, htok⟩ | hshort
      · rw [inputUses_of_tokens htok]
        rcases Hub.handleLine_tracks_cases htok with
          ⟨d, hfind, hentry, -, heq⟩ | ⟨hnone, d, hunk, -, hentry, -, heq⟩ |
          ⟨hnone, hfull, hentry, -, heq⟩
        · rw [hentry]
          have ht := (Hub.findDoor_eq_some_iff.mp hfind).1
          refine (hs.frame heq).record (fun e he => ?_) nofun
          obtain rfl := Option.some.inj he
          exact (heq d _).mpr (by rw [ht.storedId_eq]; exact ht)
        · rw [hentry]
          exact hs.create (hs.distinct.handleLine hok) hunk heq
        · rw [hentry]
          have hfree := (hok mod type args htok).not_tracks hnone
          refine (hs.frame heq).record nofun fun _ => ⟨fun j => ?_, fun j hj => ?_⟩
          · obtain ⟨m, hm⟩ := Hub.known_iff_tracks.mp (hfull j)
            exact ((heq j m).mpr hm).1
          · exact hfree j ((heq j _).mp hj)
      · rw [inputUses_of_short hshort, List.append_nil]
        refine hs.frame fun j m => ?_
        show (s.hub.handleLine dg).1.Tracks j m ↔ s.hub.Tracks j m
        rw [Hub.handleLine_of_short hshort]

/-! ## Counting -/

/-- When a module is refused, the eight entries were created for eight other
modules. -/
theorem Inv.card_lt {s : State} (hs : Inv s) {u : Text × Option (Fin hubMaxDoors)}
    (hu : u ∈ s.uses) (hnone : u.2 = none) :
    hubMaxDoors < (s.uses.map Prod.fst).toFinset.card := by
  obtain ⟨hfull, hfree⟩ := hs.refused u hu hnone
  have howner : ∀ i, ∃ v ∈ s.uses, s.hub.Tracks i (Hub.storedId v.1) := by
    intro i
    obtain ⟨m, hm⟩ := Hub.known_iff_tracks.mp (hfull i)
    obtain ⟨v, hv, rfl⟩ := hs.named i m hm
    exact ⟨v, hv, hm⟩
  choose owner hmem htracks using howner
  let names : Finset Text := Finset.univ.image fun i => (owner i).1
  have hinj : Function.Injective fun i => (owner i).1 := by
    intro i j hij
    have hj := htracks j
    rw [show (owner j).1 = (owner i).1 from hij.symm] at hj
    exact hs.distinct i j _ (htracks i) hj
  have hcard : names.card = hubMaxDoors := by
    rw [Finset.card_image_of_injective _ hinj, Finset.card_univ, Fintype.card_fin]
  have hother : u.1 ∉ names := by
    intro hin
    obtain ⟨i, -, hi⟩ := Finset.mem_image.mp hin
    exact hfree i (hi ▸ htracks i)
  have hsub : insert u.1 names ⊆ (s.uses.map Prod.fst).toFinset := by
    intro m hm
    rw [List.mem_toFinset]
    rcases Finset.mem_insert.mp hm with rfl | hm
    · exact List.mem_map_of_mem hu
    · obtain ⟨i, -, rfl⟩ := Finset.mem_image.mp hm
      exact List.mem_map_of_mem (hmem i)
  have hle := Finset.card_le_card hsub
  rw [Finset.card_insert_of_notMem hother, hcard] at hle
  exact hle

/-- One entry for each module: known entries have different ids, all lines of a
module use the same entry, and none is refused before more modules were named
than there are entries. -/
structure OneEntry (s : State) : Prop where
  distinct : ∀ i j, (s.hub.doors i).known = true → (s.hub.doors j).known = true →
    (s.hub.doors i).moduleId = (s.hub.doors j).moduleId → i = j
  same : ∀ u ∈ s.uses, ∀ v ∈ s.uses, u.1 = v.1 → u.2 = v.2
  room : (s.uses.map Prod.fst).toFinset.card ≤ hubMaxDoors → ∀ u ∈ s.uses, u.2 ≠ none

theorem Inv.same {s : State} (hs : Inv s) {u v : Text × Option (Fin hubMaxDoors)}
    (hu : u ∈ s.uses) (hv : v ∈ s.uses) (huv : u.1 = v.1) : u.2 = v.2 := by
  cases hud : u.2 with
  | some d =>
      have hd := hs.got u hu d hud
      rw [huv] at hd
      cases hvd : v.2 with
      | some e => rw [hs.distinct d e _ hd (hs.got v hv e hvd)]
      | none => exact absurd hd ((hs.refused v hv hvd).2 d)
  | none =>
      cases hvd : v.2 with
      | some e =>
          have he := hs.got v hv e hvd
          rw [← huv] at he
          exact absurd he ((hs.refused u hu hud).2 e)
      | none => rfl

/-- As long as every module named fits the id field, or nothing is stored under
its beginning, each module has one entry. -/
theorem oneEntry {webhookUrl : Text} {is : List Hub.Input} {s : State}
    (hr : Lts.run step (start webhookUrl) is = some s)
    (hok : Lts.Along step StoredStep (start webhookUrl) is) : OneEntry s := by
  have hinv : Inv s := Lts.inv_run inv_step (inv_start webhookUrl) hok hr
  refine ⟨fun i j hi hj hid => ?_, fun u hu v hv huv => hinv.same hu hv huv,
    fun hcard u hu hnone => ?_⟩
  · exact hinv.distinct i j _ ⟨hi, rfl⟩ ⟨hj, congrArg CBuf.text hid.symm⟩
  · exact absurd (hinv.card_lt hu hnone) (Nat.not_lt.mpr hcard)

theorem storedStep_of_head {s : State} {dg : Datagram} {m : Text} (hm : dg.tokens.head? = some m)
    (hshort : m.length < hubModuleIdLen) : StoredStep s (.datagram dg) := by
  intro mod type args htok
  rw [htok] at hm
  obtain rfl := Option.some.inj hm
  exact Or.inl hshort

/-- A HELLO of module `m`. -/
def helloOf (m : Text) (t : Int) : Hub.Input :=
  .datagram ⟨⟨1, 40000⟩, reportLine m .hello, t, t⟩

theorem oneEntry_greetings :
    ∃ s, Lts.run step (start []) [helloOf "D1".toList 10, helloOf "D1".toList 20] = some s ∧
      OneEntry s := by
  obtain ⟨s, hs⟩ : ∃ s, Lts.run step (start [])
      [helloOf "D1".toList 10, helloOf "D1".toList 20] = some s := ⟨_, rfl⟩
  refine ⟨s, hs, oneEntry hs (Lts.along_of_forall_mem (fun i hi s => ?_) _)⟩
  have hhead : ∀ t : Int, (Datagram.tokens ⟨⟨1, 40000⟩, reportLine "D1".toList .hello, t, t⟩).head?
      = some "D1".toList := by
    intro t
    rfl
  rcases List.mem_cons.mp hi with rfl | hi
  · exact storedStep_of_head (hhead 10) (by decide)
  · obtain rfl := List.mem_singleton.mp hi
    exact storedStep_of_head (hhead 20) (by decide)

/-- A name of 16 bytes gets a second entry with the same id. -/
theorem oneEntry_longName :
    ¬∀ (webhookUrl : Text) (is : List Hub.Input) (s : State),
      Lts.run step (start webhookUrl) is = some s → OneEntry s := by
  intro hall
  have hrun : (Lts.run step (start [])
      [helloOf "GARAGE-DOOR-0001".toList 10, helloOf "GARAGE-DOOR-0001".toList 20]).map
        (fun s => ((s.hub.doors 0).known, (s.hub.doors 1).known,
          decide ((s.hub.doors 0).moduleId = (s.hub.doors 1).moduleId)))
      = some (true, true, true) := by
    decide +kernel
  obtain ⟨s, hs, hobs⟩ := Option.map_eq_some_iff.mp hrun
  simp only [Prod.mk.injEq, decide_eq_true_eq] at hobs
  have heq := (hall [] _ s hs).distinct 0 1 hobs.1 hobs.2.1 hobs.2.2
  exact absurd heq (by decide)

end DoorTable

end HomeSecurity
