import HomeSecurity.DoorTable

/-!
# How long a module was silent

A run of the hub with a clock that never goes back, and with two notes for each
module name: when it was first heard of and when its last HEARTBEAT came. An
entry that no HEARTBEAT has reached counts as last heard at 0, the origin of the
monotonic clock, so a check may call it offline at once; `noPremature_iff` says
that this is the only way a check is premature.
-/

namespace HomeSecurity

open CText

namespace PrematureOffline

structure State where
  table : DoorTable.State
  /-- The last reading of the clock. -/
  clock : Int
  firstHeard : Text → Option Int
  lastBeat : Text → Option Int

def start (webhookUrl : Text) (clock : Int) : State :=
  ⟨DoorTable.start webhookUrl, clock, fun _ => none, fun _ => none⟩

def noteFirst (firstHeard : Text → Option Int) (dg : Datagram) : Text → Option Int :=
  match dg.tokens with
  | mod :: _ :: _ => Function.update firstHeard mod (some ((firstHeard mod).getD dg.t))
  | _ => firstHeard

def noteBeat (lastBeat : Text → Option Int) (dg : Datagram) : Text → Option Int :=
  match dg.tokens with
  | mod :: type :: _ =>
      if type = "HEARTBEAT".toList then Function.update lastBeat mod (some dg.t) else lastBeat
  | _ => lastBeat

def step (s : State) : Hub.Input → Option State
  | .datagram dg =>
      if s.clock ≤ dg.t then
        (DoorTable.step s.table (.datagram dg)).map fun table =>
          ⟨table, dg.t, noteFirst s.firstHeard dg, noteBeat s.lastBeat dg⟩
      else none
  | .check now =>
      if s.clock ≤ now then
        (DoorTable.step s.table (.check now)).map fun table =>
          ⟨table, now, s.firstHeard, s.lastBeat⟩
      else none

/-- Every check: whichever module an entry it flags can stand for, more than the
timeout has passed since the hub first heard of it and since its last HEARTBEAT.
(The history event and the alert go with the flag: `checkOfflineModules_eq`.) -/
def NoPremature (s : State) : Hub.Input → Prop
  | .datagram _ => True
  | .check now =>
      ∀ i, (s.table.hub.doors i).offline = false →
        ((s.table.hub.checkOfflineModules now).1.doors i).offline = true →
        ∀ m f, s.firstHeard m = some f → s.table.hub.Tracks i (Hub.storedId m) →
          now - f > hubOfflineTimeoutMs ∧ ∀ b ∈ s.lastBeat m, now - b > hubOfflineTimeoutMs

/-- Every check: a module that is not flagged and has sent no HEARTBEAT was first
heard of more than the timeout ago, or the clock itself has not passed it. -/
def Timely (s : State) : Hub.Input → Prop
  | .datagram _ => True
  | .check now =>
      ∀ i, (s.table.hub.doors i).offline = false →
        ∀ m f, s.firstHeard m = some f → s.table.hub.Tracks i (Hub.storedId m) →
          s.lastBeat m = none →
          now ≤ hubOfflineTimeoutMs ∨ now - f > hubOfflineTimeoutMs

/-- Every line: no other module was heard of whose name begins with the same 15
bytes, and a name heard before is not longer than that. -/
def OwnName (s : State) : Hub.Input → Prop
  | .datagram dg =>
      ∀ mod type args, dg.tokens = mod :: type :: args →
        ∀ m f, s.firstHeard m = some f → Hub.storedId m = Hub.storedId mod →
          m = mod ∧ mod.length < hubModuleIdLen
  | .check _ => True

structure Inv (s : State) : Prop where
  table : DoorTable.Inv s.table
  heard : ∀ u ∈ s.table.uses, ∃ f, s.firstHeard u.1 = some f
  used : ∀ m f, s.firstHeard m = some f → f ≤ s.clock ∧ ∃ u ∈ s.table.uses, u.1 = m
  beat : ∀ m b, s.lastBeat m = some b →
    b ≤ s.clock ∧ ∃ f, s.firstHeard m = some f ∧ f ≤ b
  /-- The heartbeat time of an entry is its module's. -/
  entry : ∀ i m f, s.firstHeard m = some f → s.table.hub.Tracks i (Hub.storedId m) →
    (s.table.hub.doors i).lastHeartbeatMs = (s.lastBeat m).getD 0

theorem inv_start (webhookUrl : Text) (clock : Int) : Inv (start webhookUrl clock) where
  table := DoorTable.inv_start webhookUrl
  heard := nofun
  used := nofun
  beat := nofun
  entry := nofun

section Line

variable {s : State} {dg : Datagram} {mod type : Text} {args : List Text}

theorem noteFirst_of_tokens (htok : dg.tokens = mod :: type :: args) :
    noteFirst s.firstHeard dg
      = Function.update s.firstHeard mod (some ((s.firstHeard mod).getD dg.t)) := by
  rw [noteFirst, htok]

theorem noteBeat_of_tokens (htok : dg.tokens = mod :: type :: args) :
    noteBeat s.lastBeat dg
      = if type = "HEARTBEAT".toList then Function.update s.lastBeat mod (some dg.t)
        else s.lastBeat := by
  rw [noteBeat, htok]

/-- What is noted of another module. -/
theorem note_of_ne (htok : dg.tokens = mod :: type :: args) {m : Text} (hm : m ≠ mod) :
    noteFirst s.firstHeard dg m = s.firstHeard m ∧ noteBeat s.lastBeat dg m = s.lastBeat m := by
  rw [noteFirst_of_tokens htok, noteBeat_of_tokens htok]
  refine ⟨Function.update_of_ne hm .., ?_⟩
  split
  · exact Function.update_of_ne hm ..
  · rfl

/-- What is noted of the line's own module. -/
theorem note_self (htok : dg.tokens = mod :: type :: args) :
    noteFirst s.firstHeard dg mod = some ((s.firstHeard mod).getD dg.t) ∧
      noteBeat s.lastBeat dg mod
        = if type = "HEARTBEAT".toList then some dg.t else s.lastBeat mod := by
  rw [noteFirst_of_tokens htok, noteBeat_of_tokens htok]
  refine ⟨Function.update_self .., ?_⟩
  split
  · exact Function.update_self ..
  · rfl

/-- The heartbeat time of the entry written, if it was right for what the line
found there. -/
theorem lineStatus_noted (htok : dg.tokens = mod :: type :: args) {e : HubDoorStatus}
    (he : e.lastHeartbeatMs = (s.lastBeat mod).getD 0) :
    (lineStatus e mod type args dg).lastHeartbeatMs = (noteBeat s.lastBeat dg mod).getD 0 := by
  rw [lineStatus_lastHeartbeatMs, (note_self htok).2]
  split
  · rfl
  · exact he

/-- The name an entry goes by among those heard of is the line's own. -/
theorem OwnName.eq (hown : OwnName s (.datagram dg)) (htok : dg.tokens = mod :: type :: args)
    {m : Text} {f : Int} (hf : noteFirst s.firstHeard dg m = some f)
    (hid : Hub.storedId m = Hub.storedId mod) : m = mod := by
  by_cases hm : m = mod
  · exact hm
  · rw [(note_of_ne htok hm).1] at hf
    exact (hown mod type args htok m f hf hid).1

theorem OwnName.stored (h : Inv s) (hown : OwnName s (.datagram dg)) :
    s.table.hub.StoredInput (.datagram dg) := by
  intro mod type args htok
  by_cases hfree : ∀ i, ¬s.table.hub.Tracks i (Hub.storedId mod)
  · exact Or.inr hfree
  · obtain ⟨i, ht⟩ := not_forall_not.mp hfree
    obtain ⟨u, hu, hid⟩ := h.table.named i _ ht
    obtain ⟨f, hf⟩ := h.heard u hu
    exact Or.inl (hown mod type args htok u.1 f hf hid).2

/-- A module that has no entry, while one is free, was not heard of. -/
theorem Inv.unheard (h : Inv s) {m : Text} (hfree : ∀ i, ¬s.table.hub.Tracks i (Hub.storedId m))
    {d : Fin hubMaxDoors} (hunk : (s.table.hub.doors d).known = false) :
    s.firstHeard m = none ∧ s.lastBeat m = none := by
  have hnone : s.firstHeard m = none := by
    cases hf : s.firstHeard m with
    | none => rfl
    | some f =>
        obtain ⟨-, u, hu, rfl⟩ := h.used m f hf
        cases hud : u.2 with
        | some e => exact absurd (h.table.got u hu e hud) (hfree e)
        | none =>
            rw [(h.table.refused u hu hud).1 d] at hunk
            cases hunk
  refine ⟨hnone, ?_⟩
  cases hb : s.lastBeat m with
  | none => rfl
  | some b =>
      obtain ⟨-, f, hf, -⟩ := h.beat m b hb
      rw [hnone] at hf
      cases hf

/-- The entries after a line. -/
theorem Inv.entry_line (h : Inv s) (hown : OwnName s (.datagram dg))
    (htok : dg.tokens = mod :: type :: args) (i : Fin hubMaxDoors) (m : Text) (f : Int)
    (hf : noteFirst s.firstHeard dg m = some f)
    (ht : (s.table.hub.handleLine dg).1.Tracks i (Hub.storedId m)) :
    ((s.table.hub.handleLine dg).1.doors i).lastHeartbeatMs
      = (noteBeat s.lastBeat dg m).getD 0 := by
  -- an entry of another module is as it was
  have hother : m ≠ mod → s.table.hub.Tracks i (Hub.storedId m) →
      (s.table.hub.handleLine dg).1.doors i = s.table.hub.doors i →
      ((s.table.hub.handleLine dg).1.doors i).lastHeartbeatMs
        = (noteBeat s.lastBeat dg m).getD 0 := by
    intro hm htr hsame
    rw [(note_of_ne htok hm).1] at hf
    rw [hsame, (note_of_ne htok hm).2]
    exact h.entry i m f hf htr
  rcases Hub.handleLine_tracks_cases htok with
    ⟨d, hfind, -, heq, htr⟩ | ⟨hnone, d, hunk, -, -, heq, htr⟩ | ⟨hnone, -, -, heq, htr⟩
  · have htd := (Hub.findDoor_eq_some_iff.mp hfind).1
    have hold := (htr i _).mp ht
    by_cases hi : i = d
    · subst hi
      have hid : Hub.storedId m = Hub.storedId mod := by
        rw [htd.storedId_eq]
        exact hold.2.symm.trans htd.2
      obtain rfl := hown.eq htok hf hid
      obtain ⟨u, hu, hu'⟩ := h.table.named i m htd
      obtain ⟨g, hg⟩ := h.heard u hu
      obtain ⟨rfl, -⟩ := hown m type args htok u.1 g hg (hu'.trans htd.storedId_eq.symm)
      rw [heq, Function.update_self]
      exact lineStatus_noted htok (h.entry i _ g hg hold)
    · have hm : m ≠ mod := by
        rintro rfl
        rw [htd.storedId_eq] at hold
        exact hi (h.table.distinct i d m hold htd)
      exact hother hm hold (by rw [heq, Function.update_of_ne hi])
  · have hfree := (hown.stored h mod type args htok).not_tracks hnone
    rcases (htr i _).mp ht with hold | ⟨rfl, hid⟩
    · have hm : m ≠ mod := by
        rintro rfl
        exact hfree i hold
      have hi : i ≠ d := by
        rintro rfl
        rw [hold.1] at hunk
        cases hunk
      exact hother hm hold (by rw [heq, Function.update_of_ne hi])
    · obtain rfl := hown.eq htok hf hid
      rw [heq, Function.update_self]
      refine lineStatus_noted htok ?_
      rw [(h.unheard hfree hunk).2]
      rfl
  · have hold := (htr i _).mp ht
    have hm : m ≠ mod := by
      rintro rfl
      exact (hown.stored h m type args htok).not_tracks hnone i hold
    exact hother hm hold (by rw [heq])

/-- When a module was heard of first, after a line. -/
theorem Inv.used_line (h : Inv s) (htok : dg.tokens = mod :: type :: args)
    (hclock : s.clock ≤ dg.t) (m : Text) (f : Int) (hf : noteFirst s.firstHeard dg m = some f) :
    f ≤ dg.t ∧ ∃ u ∈ s.table.uses ++ DoorTable.inputUses s.table.hub (.datagram dg), u.1 = m := by
  by_cases hm : m = mod
  · subst hm
    rw [(note_self htok).1] at hf
    obtain rfl := Option.some.inj hf
    constructor
    · cases hg : s.firstHeard m with
      | none => exact le_refl _
      | some g => exact le_trans (h.used m g hg).1 hclock
    · refine ⟨(m, s.table.hub.lineEntry dg), List.mem_append_right _ ?_, rfl⟩
      rw [DoorTable.inputUses_of_tokens htok]
      exact List.mem_singleton_self _
  · rw [(note_of_ne htok hm).1] at hf
    obtain ⟨hle, u, hu, hum⟩ := h.used m f hf
    exact ⟨le_trans hle hclock, u, List.mem_append_left _ hu, hum⟩

/-- And when its last HEARTBEAT came. -/
theorem Inv.beat_line (h : Inv s) (htok : dg.tokens = mod :: type :: args)
    (hclock : s.clock ≤ dg.t) (m : Text) (b : Int) (hb : noteBeat s.lastBeat dg m = some b) :
    b ≤ dg.t ∧ ∃ f, noteFirst s.firstHeard dg m = some f ∧ f ≤ b := by
  by_cases hm : m = mod
  · subst hm
    have hself := note_self (s := s) htok
    rw [hself.2] at hb
    split at hb
    · obtain rfl := Option.some.inj hb
      exact ⟨le_refl _, _, hself.1, (h.used_line htok hclock m _ hself.1).1⟩
    · obtain ⟨hle, f, hf, hfb⟩ := h.beat m b hb
      refine ⟨le_trans hle hclock, f, ?_, hfb⟩
      rw [hself.1, hf]
      rfl
  · rw [(note_of_ne htok hm).2] at hb
    obtain ⟨hle, f, hf, hfb⟩ := h.beat m b hb
    refine ⟨le_trans hle hclock, f, ?_, hfb⟩
    rw [(note_of_ne htok hm).1]
    exact hf

/-- A line with its two words. -/
theorem Inv.line (h : Inv s) (hown : OwnName s (.datagram dg))
    (htok : dg.tokens = mod :: type :: args) (hclock : s.clock ≤ dg.t) :
    Inv ⟨⟨(s.table.hub.handleLine dg).1, s.table.uses ++ DoorTable.inputUses s.table.hub
      (.datagram dg)⟩, dg.t, noteFirst s.firstHeard dg, noteBeat s.lastBeat dg⟩ where
  table := DoorTable.inv_step _ _ _ h.table (hown.stored h) rfl
  heard u hu := by
    dsimp only at hu ⊢
    by_cases hm : u.1 = mod
    · rw [hm]
      exact ⟨_, (note_self htok).1⟩
    · rw [(note_of_ne htok hm).1]
      rcases List.mem_append.mp hu with hu | hu
      · exact h.heard u hu
      · rw [DoorTable.inputUses_of_tokens htok, List.mem_singleton] at hu
        exact absurd (congrArg Prod.fst hu) hm
  used := h.used_line htok hclock
  beat := h.beat_line htok hclock
  entry := h.entry_line hown htok

end Line

/-- Time passes, and nothing the invariant speaks of changes. -/
theorem Inv.frame {s : State} (h : Inv s) {hub : Hub} {clock : Int} (hclock : s.clock ≤ clock)
    (htr : ∀ i m, hub.Tracks i m ↔ s.table.hub.Tracks i m)
    (hbeat : ∀ i, (hub.doors i).lastHeartbeatMs = (s.table.hub.doors i).lastHeartbeatMs) :
    Inv ⟨⟨hub, s.table.uses⟩, clock, s.firstHeard, s.lastBeat⟩ where
  table := h.table.frame htr
  heard := h.heard
  used m f hf := ⟨le_trans (h.used m f hf).1 hclock, (h.used m f hf).2⟩
  beat m b hb := ⟨le_trans (h.beat m b hb).1 hclock, (h.beat m b hb).2⟩
  entry i m f hf ht := (hbeat i).trans (h.entry i m f hf ((htr i _).mp ht))

theorem inv_step (s : State) (i : Hub.Input) (s' : State) (h : Inv s) (hown : OwnName s i)
    (hs : step s i = some s') : Inv s' := by
  cases i with
  | check now =>
      rw [step] at hs
      split at hs
      · obtain rfl := Option.some.inj hs
        rw [show DoorTable.inputUses s.table.hub (.check now) = [] from rfl, List.append_nil]
        refine h.frame ‹_› (s.table.hub.checkOfflineModules_tracks now) fun i => ?_
        show ((s.table.hub.checkOfflineModules now).1.doors i).lastHeartbeatMs = _
        rw [Hub.checkOfflineModules_doors, HubDoorStatus.checked_lastHeartbeatMs]
      · cases hs
  | datagram dg =>
      rw [step] at hs
      split at hs
      · rename_i hclock
        obtain rfl := Option.some.inj hs
        rcases dg.tokens_cases with ⟨mod, type, args, htok⟩ | hshort
        · exact h.line hown htok hclock
        · have hnote : noteFirst s.firstHeard dg = s.firstHeard
              ∧ noteBeat s.lastBeat dg = s.lastBeat := by
            rw [noteFirst, noteBeat]
            rcases hwords : dg.tokens with _ | ⟨mod, _ | ⟨type, args⟩⟩
            · exact ⟨rfl, rfl⟩
            · exact ⟨rfl, rfl⟩
            · exact absurd hwords (hshort mod type args)
          rw [hnote.1, hnote.2, DoorTable.inputUses_of_short hshort, List.append_nil]
          have hsame : (s.table.hub.input (.datagram dg)).1 = s.table.hub :=
            congrArg Prod.fst (Hub.handleLine_of_short hshort)
          rw [hsame]
          exact h.frame hclock (fun _ _ => Iff.rfl) fun _ => rfl
      · cases hs

/-- A check is premature exactly if it is not timely. -/
theorem noPremature_iff_timely (s : State) (i : Hub.Input) (h : Inv s) :
    NoPremature s i ↔ Timely s i := by
  cases i with
  | datagram dg => exact Iff.rfl
  | check now =>
      have hdecl : ∀ i m, s.table.hub.Tracks i m → (s.table.hub.doors i).offline = false →
          (((s.table.hub.checkOfflineModules now).1.doors i).offline = true ↔
            now - (s.table.hub.doors i).lastHeartbeatMs > hubOfflineTimeoutMs) := by
        intro i m ht hoff
        rw [Hub.checkOfflineModules_doors, HubDoorStatus.checked_offline ht.1]
        exact decide_eq_true_iff
      constructor
      · intro hnot i hoff m f hf ht hbeat
        by_cases hlow : now ≤ hubOfflineTimeoutMs
        · exact Or.inl hlow
        · have hlast := h.entry i m f hf ht
          rw [hbeat, Option.getD_none] at hlast
          have hover : now - (s.table.hub.doors i).lastHeartbeatMs > hubOfflineTimeoutMs := by
            rw [hlast]
            omega
          exact Or.inr (hnot i hoff ((hdecl i _ ht hoff).mpr hover) m f hf ht).1
      · intro htimely i hoff hflag m f hf ht
        have hover := (hdecl i _ ht hoff).mp hflag
        rw [h.entry i m f hf ht] at hover
        cases hbeat : s.lastBeat m with
        | none =>
            rw [hbeat, Option.getD_none] at hover
            refine ⟨?_, nofun⟩
            rcases htimely i hoff m f hf ht hbeat with hlow | hlong
            · omega
            · exact hlong
        | some b =>
            rw [hbeat, Option.getD_some] at hover
            obtain ⟨-, f', hf', hle⟩ := h.beat m b hbeat
            obtain rfl := Option.some.inj (hf.symm.trans hf')
            refine ⟨by omega, fun b' hb' => ?_⟩
            obtain rfl := Option.some.inj hb'
            exact hover

/-- In a run in which names are not mistaken for one another, no check is
premature exactly if every check is timely. -/
theorem noPremature_iff {webhookUrl : Text} {clock : Int} {is : List Hub.Input}
    (hown : Lts.Along step OwnName (start webhookUrl clock) is) :
    Lts.Along step NoPremature (start webhookUrl clock) is ↔
      Lts.Along step Timely (start webhookUrl clock) is :=
  hown.congr inv_step (fun s i h _ => noPremature_iff_timely s i h)
    (inv_start webhookUrl clock)

theorem ownName_of_unheard {s : State} {dg : Datagram} (hs : s.firstHeard = fun _ => none) :
    OwnName s (.datagram dg) := by
  intro mod type args htok m f hf
  rw [hs] at hf
  cases hf

/-- A module whose first line is a HEARTBEAT, on a host that runs for long. -/
def heartbeatFirst : List Hub.Input :=
  [.datagram ⟨⟨1, 40000⟩, reportLine "D1".toList (.heartbeat false true), 20000, 20000⟩,
    .check 20001]

theorem noPremature_heartbeatFirst :
    Lts.Along step NoPremature (start [] 20000) heartbeatFirst := by
  have hown : Lts.Along step OwnName (start [] 20000) heartbeatFirst :=
    ⟨ownName_of_unheard rfl, fun _ _ => ⟨trivial, fun _ _ => trivial⟩⟩
  refine (noPremature_iff hown).mpr ⟨trivial, fun s hs => ⟨?_, fun _ _ => trivial⟩⟩
  intro i hoff m f hf ht hnone
  obtain rfl := Option.some.inj hs
  have htok : Datagram.tokens
      ⟨⟨1, 40000⟩, reportLine "D1".toList (.heartbeat false true), 20000, 20000⟩
      = "D1".toList :: "HEARTBEAT".toList :: (Report.heartbeat false true).args := rfl
  -- nobody else was heard of, and this module has sent its heartbeat
  by_cases hm : m = "D1".toList
  · subst hm
    have hbeat := (note_self (s := start [] 20000) htok).2
    rw [if_pos rfl] at hbeat
    exact absurd (hnone.symm.trans hbeat) nofun
  · have hfirst := (note_of_ne (s := start [] 20000) htok hm).1
    exact absurd (hf.symm.trans hfirst) nofun

/-- A module greets, and is offline one millisecond later. -/
theorem noPremature_greeting :
    ¬∀ (webhookUrl : Text) (clock : Int) (is : List Hub.Input),
      Lts.Along step NoPremature (start webhookUrl clock) is := by
  intro hall
  have hrun := (hall [] 20000 [DoorTable.helloOf "D1".toList 20000, .check 20001]).2 _ rfl
  have hflag : ((((Hub.init []).input (DoorTable.helloOf "D1".toList 20000)).1.doors 0).offline,
      (((((Hub.init []).input (DoorTable.helloOf "D1".toList 20000)).1).checkOfflineModules
        20001).1.doors 0).offline,
      decide (((Hub.init []).input (DoorTable.helloOf "D1".toList 20000)).1.Tracks 0
        (Hub.storedId "D1".toList))) = (false, true, true) := by
    decide +kernel
  simp only [Prod.mk.injEq, decide_eq_true_eq] at hflag
  have helapsed := (hrun.1 0 hflag.1 hflag.2.1 "D1".toList 20000 rfl hflag.2.2).1
  exact absurd helapsed (by decide)

end PrematureOffline

end HomeSecurity
