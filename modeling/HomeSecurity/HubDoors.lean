import HomeSecurity.HubLine

/-!
# What one datagram does to the door table

The first half of the specification of `handle_line`. At most one entry changes -
the one found for the module, or the free slot it is created in - and
`lineStatus` is what it becomes (`handleLine_doors_cases`). Who is tracked where
afterwards is in `handleLine_tracks_cases`; what is found about a module that the
line does not name stays (`handleLine_tracks_of_other`).
-/

namespace HomeSecurity

open CText

/-! ## The entry of the module -/

/-- `noteLine` on the entry. -/
def noteStatus (e : HubDoorStatus) (type : Text) (src : SockAddr) : HubDoorStatus :=
  if type = "COMMAND".toList then e else { e with lastAddr := src, hasLastAddr := true }

/-- `dispatch` on the entry. -/
def dispatchStatus (e : HubDoorStatus) (mod type : Text) (args : List Text) (t : Int) :
    HubDoorStatus :=
  if type = "HEARTBEAT".toList then
    heartbeatStatus e args (snprintf _ (mod ++ ' ' :: type)) t
  else if type = "EVENT".toList then
    match nextThree args with
    | some (which, what, state) =>
        { (eventStatus e which what state).1 with lastEventMs := t }
    | none => { e with lastEventMs := t }
  else if type = "FEEDBACK".toList then
    match nextThree args with
    | some (cmdidS, target, action) => feedbackStatus e (atoi cmdidS) target action t
    | none => e
  else if type = "COMMAND".toList then e
  else { e with lastEventMs := t }

/-- What a line with these tokens makes of the entry of its module. -/
def lineStatus (e : HubDoorStatus) (mod type : Text) (args : List Text) (dg : Datagram) :
    HubDoorStatus :=
  dispatchStatus (noteStatus e type dg.src) mod type args dg.t

/-- `known` and the stored id of an entry, which no line changes. -/
def HubDoorStatus.key (e : HubDoorStatus) : Bool × CBuf hubModuleIdLen :=
  (e.known, e.moduleId)

/-- The channels of an entry, overwritten. -/
def HubDoorStatus.setChannels (e : HubDoorStatus) (p q : Channel) : HubDoorStatus :=
  (e.setD0 p).setD1 q

theorem heartbeatToken_channels (s : HubDoorStatus × CBuf hubLineLen) (tok : Text) :
    ∃ p q, (heartbeatToken s tok).1 = s.1.setChannels p q := by
  obtain ⟨e, hbBuf⟩ := s
  unfold heartbeatToken
  dsimp only
  split
  · exact ⟨_, e.d1, rfl⟩
  · split
    · exact ⟨e.d0, _, rfl⟩
    · exact ⟨e.d0, e.d1, rfl⟩

theorem foldl_heartbeatToken_channels (args : List Text) (s : HubDoorStatus × CBuf hubLineLen) :
    ∃ p q, (args.foldl heartbeatToken s).1 = s.1.setChannels p q := by
  induction args generalizing s with
  | nil => exact ⟨s.1.d0, s.1.d1, rfl⟩
  | cons tok args ih =>
      obtain ⟨p, q, hstep⟩ := heartbeatToken_channels s tok
      obtain ⟨p', q', hrest⟩ := ih (heartbeatToken s tok)
      exact ⟨p', q', by rw [List.foldl_cons, hrest, hstep]; rfl⟩

/-- A HEARTBEAT writes the channels and its own time and line. -/
theorem heartbeatStatus_eq (e : HubDoorStatus) (args : List Text) (histLine : CBuf hubLineLen)
    (t : Int) : ∃ p q line, heartbeatStatus e args histLine t
      = { e.setChannels p q with lastHeartbeatMs := t, lastHeartbeatLine := line } := by
  obtain ⟨p, q, hfold⟩ := foldl_heartbeatToken_channels args (e, .zeroed _)
  unfold heartbeatStatus
  exact ⟨p, q, _, by rw [← hfold]⟩

theorem eventStatus_eq (e : HubDoorStatus) (which what state : Text) :
    ∃ p q, (eventStatus e which what state).1 = e.setChannels p q := by
  unfold eventStatus
  split
  · split
    · exact ⟨_, e.d1, rfl⟩
    · exact ⟨e.d0, e.d1, rfl⟩
  · split
    · split
      · exact ⟨e.d0, _, rfl⟩
      · exact ⟨e.d0, e.d1, rfl⟩
    · exact ⟨e.d0, e.d1, rfl⟩

/-- The address of an entry, once a datagram has set it. -/
def HubDoorStatus.route (e : HubDoorStatus) : Option SockAddr :=
  if e.hasLastAddr then some e.lastAddr else none

/-- What no line changes of an entry: `known`, the stored id and what the offline
check writes. -/
def HubDoorStatus.kept (e : HubDoorStatus) : (Bool × CBuf hubModuleIdLen) × Bool × Int :=
  (e.key, e.offline, e.lastOnlineMs)

theorem dispatchStatus_kept (e : HubDoorStatus) (mod type : Text) (args : List Text) (t : Int) :
    (dispatchStatus e mod type args t).kept = e.kept
      ∧ (dispatchStatus e mod type args t).route = e.route := by
  unfold dispatchStatus
  split
  · obtain ⟨p, q, line, heq⟩ := heartbeatStatus_eq e args (snprintf _ (mod ++ ' ' :: type)) t
    rw [heq]
    exact ⟨rfl, rfl⟩
  · split
    · split
      · rename_i which what state _
        obtain ⟨p, q, heq⟩ := eventStatus_eq e which what state
        rw [heq]
        exact ⟨rfl, rfl⟩
      · exact ⟨rfl, rfl⟩
    · split
      · split <;> exact ⟨rfl, rfl⟩
      · split <;> exact ⟨rfl, rfl⟩

theorem lineStatus_kept (e : HubDoorStatus) (mod type : Text) (args : List Text)
    (dg : Datagram) : (lineStatus e mod type args dg).kept = e.kept := by
  rw [lineStatus, (dispatchStatus_kept ..).1, noteStatus]
  split <;> rfl

/-- Any line but a COMMAND sets the address. -/
theorem lineStatus_route (e : HubDoorStatus) (mod type : Text) (args : List Text)
    (dg : Datagram) :
    (lineStatus e mod type args dg).route
      = if type = "COMMAND".toList then e.route else some dg.src := by
  rw [lineStatus, (dispatchStatus_kept ..).2, noteStatus]
  split <;> rfl

theorem lineStatus_key (e : HubDoorStatus) (mod type : Text) (args : List Text)
    (dg : Datagram) : (lineStatus e mod type args dg).key = e.key :=
  congrArg Prod.fst (lineStatus_kept e mod type args dg)

theorem lineStatus_offline (e : HubDoorStatus) (mod type : Text) (args : List Text)
    (dg : Datagram) : (lineStatus e mod type args dg).offline = e.offline :=
  congrArg (fun k => k.2.1) (lineStatus_kept e mod type args dg)

/-- Only a HEARTBEAT counts as one. -/
theorem lineStatus_lastHeartbeatMs (e : HubDoorStatus) (mod type : Text) (args : List Text)
    (dg : Datagram) :
    (lineStatus e mod type args dg).lastHeartbeatMs
      = if type = "HEARTBEAT".toList then dg.t else e.lastHeartbeatMs := by
  have hnote : (noteStatus e type dg.src).lastHeartbeatMs = e.lastHeartbeatMs := by
    unfold noteStatus
    split <;> rfl
  rw [lineStatus, ← hnote]
  generalize noteStatus e type dg.src = e'
  unfold dispatchStatus
  split
  · obtain ⟨p, q, line, heq⟩ := heartbeatStatus_eq e' args (snprintf _ (mod ++ ' ' :: type)) dg.t
    rw [heq]
  · split
    · split
      · rename_i which what state _
        obtain ⟨p, q, heq⟩ := eventStatus_eq e' which what state
        rw [heq]
        rfl
      · rfl
    · split
      · split <;> rfl
      · split <;> rfl

/-! ## The door table -/

namespace Hub

@[simp] theorem noteEndpoint_doors (h : Hub) (mod type : Text) (src : SockAddr) :
    (h.noteEndpoint mod type src).doors = h.doors := by
  unfold noteEndpoint
  split
  · rfl
  · exact hubUpdateEndpoint_doors ..

@[simp] theorem noteEndpoint_pendingCmds (h : Hub) (mod type : Text) (src : SockAddr) :
    (h.noteEndpoint mod type src).pendingCmds = h.pendingCmds := by
  unfold noteEndpoint
  split
  · rfl
  · exact hubUpdateEndpoint_pendingCmds ..

theorem noteEndpoint_findDoor (h : Hub) (mod type : Text) (src : SockAddr) (m : Text) :
    (h.noteEndpoint mod type src).findDoor m = h.findDoor m :=
  findDoor_of_doors (h.noteEndpoint_doors mod type src) m

theorem noteLine_doors (h : Hub) (d : Fin hubMaxDoors) (mod type : Text) (dg : Datagram) :
    (h.noteLine d mod type dg).doors
      = Function.update h.doors d (noteStatus (h.doors d) type dg.src) := by
  unfold noteLine noteStatus
  split
  · exact (Function.update_eq_self d h.doors).symm
  · rfl

@[simp] theorem noteLine_pendingCmds (h : Hub) (d : Fin hubMaxDoors) (mod type : Text)
    (dg : Datagram) : (h.noteLine d mod type dg).pendingCmds = h.pendingCmds := by
  unfold noteLine
  split <;> rfl

theorem getAndClearClientCmd_doors {h h' : Hub} {m : Text} {c : Int} {a : SockAddr}
    (hc : h.getAndClearClientCmd m c = some (a, h')) : h'.doors = h.doors := by
  obtain ⟨i, -, heq⟩ := Option.map_eq_some_iff.mp hc
  obtain ⟨-, rfl⟩ := Prod.mk.inj heq
  rfl

theorem dispatch_doors (h : Hub) (d : Fin hubMaxDoors) (mod type : Text) (args : List Text)
    (dg : Datagram) :
    (h.dispatch d mod type args dg).1.doors
      = Function.update h.doors d (dispatchStatus (h.doors d) mod type args dg.t) := by
  have hself := (Function.update_eq_self d h.doors).symm
  unfold dispatch dispatchStatus
  split
  · rfl
  · split
    · unfold handleEvent
      cases nextThree args <;> rfl
    · split
      · unfold handleFeedback
        cases nextThree args with
        | none => exact hself
        | some p =>
            dsimp only
            split
            · rename_i hclear
              exact getAndClearClientCmd_doors hclear
            · rfl
      · split
        · unfold handleCommand
          cases nextThree args <;> exact hself
        · rfl

/-- The entry a line of an untracked module starts from. -/
def freshDoor (mod : Text) : HubDoorStatus :=
  { HubDoorStatus.zeroed with moduleId := snprintf hubModuleIdLen mod, known := true }

/-- A line of a tracked module writes the entry it is found under and no other. -/
theorem handleLine_doors_of_find {h : Hub} {dg : Datagram} {mod type : Text}
    {args : List Text} {d : Fin hubMaxDoors} (htok : dg.tokens = mod :: type :: args)
    (hd : h.findDoor mod = some d) :
    (h.handleLine dg).1.doors
      = Function.update h.doors d (lineStatus (h.doors d) mod type args dg) := by
  have hd' : (h.noteEndpoint mod type dg.src).findDoor mod = some d := by
    rw [noteEndpoint_findDoor, hd]
  simp only [handleLine, htok, findOrCreateDoor_of_find hd']
  rw [dispatch_doors, noteLine_doors, noteEndpoint_doors]
  simp [lineStatus]

theorem findOrCreateDoor_isNone_iff {h : Hub} {m : Text} :
    (h.findOrCreateDoor m).isNone = true ↔
      h.findDoor m = none ∧ ∀ j, (h.doors j).known = true := by
  rcases h.findOrCreateDoor_cases m with
    ⟨d, hfind, hc⟩ | ⟨hnone, d, hunk, -, hc⟩ | ⟨hnone, hfull, hc⟩
  · simp [hc, hfind]
  · rw [hc]
    refine ⟨nofun, fun hfull => ?_⟩
    rw [hfull.2 d] at hunk
    cases hunk
  · simp [hc, hnone, hfull]

theorem findOrCreateDoor_isNone_congr {h h' : Hub} (hd : h'.doors = h.doors) (m : Text) :
    (h'.findOrCreateDoor m).isNone = (h.findOrCreateDoor m).isNone := by
  rw [Bool.eq_iff_iff, findOrCreateDoor_isNone_iff, findOrCreateDoor_isNone_iff,
    findDoor_of_doors hd, hd]

/-- The entry `handle_line` gets from `find_or_create_door`. -/
def lineEntry (h : Hub) (dg : Datagram) : Option (Fin hubMaxDoors) :=
  match dg.tokens with
  | mod :: type :: _ => ((h.noteEndpoint mod type dg.src).findOrCreateDoor mod).map Prod.snd
  | _ => none

/-- The three things a line of module `mod` can do to the door table: write the
entry found, fill the first unknown slot, or nothing because the table is full. -/
theorem handleLine_doors_cases {h : Hub} {dg : Datagram} {mod type : Text} {args : List Text}
    (htok : dg.tokens = mod :: type :: args) :
    (∃ d, h.findDoor mod = some d ∧ h.lineEntry dg = some d ∧ (h.handleLine dg).1.doors
        = Function.update h.doors d (lineStatus (h.doors d) mod type args dg)) ∨
      (h.findDoor mod = none ∧ ∃ d, (h.doors d).known = false ∧
        (∀ j < d, (h.doors j).known = true) ∧ h.lineEntry dg = some d ∧
        (h.handleLine dg).1.doors
          = Function.update h.doors d (lineStatus (freshDoor mod) mod type args dg)) ∨
      (h.findDoor mod = none ∧ (∀ j, (h.doors j).known = true) ∧ h.lineEntry dg = none ∧
        (h.handleLine dg).1.doors = h.doors) := by
  have hentry : h.lineEntry dg
      = ((h.noteEndpoint mod type dg.src).findOrCreateDoor mod).map Prod.snd := by
    rw [lineEntry, htok]
  rcases (h.noteEndpoint mod type dg.src).findOrCreateDoor_cases mod with
    ⟨d, hfind, hc⟩ | ⟨hnone, d, hunk, hfirst, hc⟩ | ⟨hnone, hfull, hc⟩
  · rw [noteEndpoint_findDoor] at hfind
    rw [hc] at hentry
    exact Or.inl ⟨d, hfind, hentry, handleLine_doors_of_find htok hfind⟩
  · rw [noteEndpoint_findDoor] at hnone
    rw [noteEndpoint_doors] at hunk hfirst
    rw [hc] at hentry
    refine Or.inr (Or.inl ⟨hnone, d, hunk, hfirst, hentry, ?_⟩)
    simp only [handleLine, htok, hc]
    rw [dispatch_doors, noteLine_doors]
    simp [lineStatus, freshDoor]
  · rw [noteEndpoint_findDoor] at hnone
    rw [noteEndpoint_doors] at hfull
    rw [hc] at hentry
    exact Or.inr (Or.inr ⟨hnone, hfull, hentry, by simp [handleLine, htok, hc]⟩)

/-- With an entry for the module, or room for one, a line writes that entry:
the one found, or a fresh one in a slot that was unknown. -/
theorem handleLine_doors_of_room {h : Hub} {dg : Datagram} {mod type : Text}
    {args : List Text} (htok : dg.tokens = mod :: type :: args)
    (hroom : (h.findOrCreateDoor mod).isNone = false) :
    ∃ d e,
      (h.findDoor mod = some d ∧ e = h.doors d ∨
        h.findDoor mod = none ∧ (h.doors d).known = false ∧ e = freshDoor mod) ∧
      (h.handleLine dg).1.doors
        = Function.update h.doors d (lineStatus e mod type args dg) := by
  rcases handleLine_doors_cases htok with
    ⟨d, hfind, -, heq⟩ | ⟨hnone, d, hunk, -, -, heq⟩ | ⟨hnone, hfull, -, -⟩
  · exact ⟨d, _, Or.inl ⟨hfind, rfl⟩, heq⟩
  · exact ⟨d, _, Or.inr ⟨hnone, hunk, rfl⟩, heq⟩
  · rw [findOrCreateDoor_isNone_iff.mpr ⟨hnone, hfull⟩] at hroom
    cases hroom

/-- A line without two words changes nothing. -/
theorem handleLine_of_short {h : Hub} {dg : Datagram}
    (htok : ∀ mod type args, dg.tokens ≠ mod :: type :: args) : h.handleLine dg = (h, []) := by
  unfold handleLine
  split
  · rename_i mod type args heq
    exact absurd heq (htok mod type args)
  · rfl

/-- The whole effect on the door table: none, or one entry becomes its
`lineStatus`. -/
theorem handleLine_doors (h : Hub) (dg : Datagram) :
    (h.handleLine dg).1.doors = h.doors ∨
      ∃ mod type args d e, dg.tokens = mod :: type :: args ∧
        (h.findDoor mod = some d ∧ e = h.doors d ∨
          h.findDoor mod = none ∧ (h.doors d).known = false ∧ e = freshDoor mod) ∧
        (h.handleLine dg).1.doors
          = Function.update h.doors d (lineStatus e mod type args dg) := by
  rcases dg.tokens_cases with ⟨mod, type, args, htok⟩ | hshort
  · rcases handleLine_doors_cases htok with
      ⟨d, hfind, -, heq⟩ | ⟨hnone, d, hunk, -, -, heq⟩ | ⟨-, -, -, heq⟩
    · exact Or.inr ⟨mod, type, args, d, _, htok, Or.inl ⟨hfind, rfl⟩, heq⟩
    · exact Or.inr ⟨mod, type, args, d, _, htok, Or.inr ⟨hnone, hunk, rfl⟩, heq⟩
    · exact Or.inl heq
  · rw [handleLine_of_short hshort]
    exact Or.inl rfl

/-- The same, seen from one entry. -/
theorem handleLine_door (h : Hub) (dg : Datagram) (i : Fin hubMaxDoors) :
    (h.handleLine dg).1.doors i = h.doors i ∨
      ∃ mod type args e, dg.tokens = mod :: type :: args ∧
        (h.findDoor mod = some i ∧ e = h.doors i ∨
          h.findDoor mod = none ∧ (h.doors i).known = false ∧ e = freshDoor mod) ∧
        (h.handleLine dg).1.doors i = lineStatus e mod type args dg := by
  rcases handleLine_doors h dg with heq | ⟨mod, type, args, d, e, htok, hcase, heq⟩
  · exact Or.inl (by rw [heq])
  · by_cases hi : i = d
    · subst hi
      exact Or.inr ⟨mod, type, args, e, htok, hcase, by rw [heq, Function.update_self]⟩
    · exact Or.inl (by rw [heq, Function.update_of_ne hi])

/-- An entry once known keeps its id, so a tracked module stays tracked. -/
theorem handleLine_tracks {h : Hub} {d : Fin hubMaxDoors} {m : Text} (dg : Datagram)
    (ht : h.Tracks d m) : (h.handleLine dg).1.Tracks d m := by
  rcases handleLine_doors h dg with heq | ⟨mod, type, args, d', e, -, hcase, heq⟩
  · rwa [Tracks, heq]
  · rw [Tracks, heq]
    by_cases hdd : d = d'
    · subst hdd
      rcases hcase with ⟨-, rfl⟩ | ⟨-, hunk, -⟩
      · have hkey := lineStatus_key (h.doors d) mod type args dg
        rw [Function.update_self, show (lineStatus (h.doors d) mod type args dg).known
          = (h.doors d).known from congrArg Prod.fst hkey,
          show (lineStatus (h.doors d) mod type args dg).moduleId
          = (h.doors d).moduleId from congrArg Prod.snd hkey]
        exact ht
      · rw [ht.1] at hunk
        cases hunk
    · rw [Function.update_of_ne hdd]
      exact ht

theorem findDoor_of_update {h h' : Hub} {d : Fin hubMaxDoors} {e : HubDoorStatus}
    (heq : h'.doors = Function.update h.doors d e) (hkey : e.key = (h.doors d).key) (m : Text) :
    h'.findDoor m = h.findDoor m := by
  refine findDoor_congr (fun i => ?_) m
  rw [heq]
  by_cases hi : i = d
  · subst hi
    rw [Function.update_self]
    exact ⟨congrArg Prod.fst hkey, congrArg Prod.snd hkey⟩
  · rw [Function.update_of_ne hi]
    exact ⟨rfl, rfl⟩

/-! ## Who is tracked where -/

theorem tracks_congr {h h' : Hub} {i : Fin hubMaxDoors}
    (hkey : (h'.doors i).key = (h.doors i).key) (m : Text) : h'.Tracks i m ↔ h.Tracks i m := by
  have hknown : (h'.doors i).known = (h.doors i).known := congrArg Prod.fst hkey
  have hid : (h'.doors i).moduleId = (h.doors i).moduleId := congrArg Prod.snd hkey
  rw [Tracks, Tracks, hknown, hid]

theorem known_iff_tracks {h : Hub} {i : Fin hubMaxDoors} :
    (h.doors i).known = true ↔ ∃ m, h.Tracks i m :=
  ⟨fun hk => ⟨_, hk, rfl⟩, fun ⟨_, ht⟩ => ht.1⟩

/-- A new entry tracks the module it was created for. -/
theorem tracks_fresh_iff {h : Hub} {i : Fin hubMaxDoors} {mod type : Text} {args : List Text}
    {dg : Datagram} (heq : h.doors i = lineStatus (freshDoor mod) mod type args dg) (m : Text) :
    h.Tracks i m ↔ m = storedId mod := by
  have hkey := lineStatus_key (freshDoor mod) mod type args dg
  rw [← heq] at hkey
  have hknown : (h.doors i).known = true := congrArg Prod.fst hkey
  have hid : (h.doors i).moduleId.text = storedId mod := congrArg (fun k => k.2.text) hkey
  rw [Tracks, hknown, hid]
  exact ⟨fun ht => ht.2.symm, fun hm => ⟨rfl, hm.symm⟩⟩

/-- What a line does to the door table, with who is tracked where. -/
theorem handleLine_tracks_cases {h : Hub} {dg : Datagram} {mod type : Text} {args : List Text}
    (htok : dg.tokens = mod :: type :: args) :
    (∃ d, h.findDoor mod = some d ∧ h.lineEntry dg = some d ∧
        (h.handleLine dg).1.doors
          = Function.update h.doors d (lineStatus (h.doors d) mod type args dg) ∧
        ∀ i m, (h.handleLine dg).1.Tracks i m ↔ h.Tracks i m) ∨
      (h.findDoor mod = none ∧ ∃ d, (h.doors d).known = false ∧
        (∀ j < d, (h.doors j).known = true) ∧ h.lineEntry dg = some d ∧
        (h.handleLine dg).1.doors
          = Function.update h.doors d (lineStatus (freshDoor mod) mod type args dg) ∧
        ∀ i m, (h.handleLine dg).1.Tracks i m ↔ h.Tracks i m ∨ i = d ∧ m = storedId mod) ∨
      (h.findDoor mod = none ∧ (∀ j, (h.doors j).known = true) ∧ h.lineEntry dg = none ∧
        (h.handleLine dg).1.doors = h.doors ∧
        ∀ i m, (h.handleLine dg).1.Tracks i m ↔ h.Tracks i m) := by
  rcases handleLine_doors_cases htok with
    ⟨d, hfind, hentry, heq⟩ | ⟨hnone, d, hunk, hfirst, hentry, heq⟩ | ⟨hnone, hfull, hentry, heq⟩
  · refine Or.inl ⟨d, hfind, hentry, heq, fun i m => tracks_congr ?_ m⟩
    rw [heq]
    by_cases hi : i = d
    · subst hi
      rw [Function.update_self, lineStatus_key]
    · rw [Function.update_of_ne hi]
  · refine Or.inr (Or.inl ⟨hnone, d, hunk, hfirst, hentry, heq, fun i m => ?_⟩)
    by_cases hi : i = d
    · subst hi
      rw [tracks_fresh_iff (by rw [heq, Function.update_self])]
      constructor
      · exact fun hm => Or.inr ⟨rfl, hm⟩
      · rintro (ht | ⟨-, hm⟩)
        · rw [ht.1] at hunk
          cases hunk
        · exact hm
    · have hsame : (h.handleLine dg).1.Tracks i m ↔ h.Tracks i m :=
        tracks_congr (by rw [heq, Function.update_of_ne hi]) m
      rw [hsame]
      exact ⟨Or.inl, fun ht => ht.resolve_right fun hid => hi hid.1⟩
  · exact Or.inr (Or.inr ⟨hnone, hfull, hentry, heq, fun i m => tracks_congr (by rw [heq]) m⟩)

/-- A line whose module has an entry, or room for one, leaves it tracked. -/
theorem handleLine_tracks_of_room {h : Hub} {dg : Datagram} {mod type : Text}
    {args : List Text} (htok : dg.tokens = mod :: type :: args)
    (hroom : (h.findOrCreateDoor mod).isNone = false) (hshort : mod.length < hubModuleIdLen) :
    ∃ d, (h.handleLine dg).1.Tracks d mod := by
  obtain ⟨d, e, hcase, heq⟩ := handleLine_doors_of_room htok hroom
  rcases hcase with ⟨hfind, -⟩ | ⟨-, -, rfl⟩
  · exact ⟨d, handleLine_tracks dg (findDoor_eq_some_iff.mp hfind).1⟩
  · refine ⟨d, (tracks_fresh_iff (by rw [heq, Function.update_self]) mod).mpr ?_⟩
    rw [storedId_of_short hshort]

/-! ## Lines of other modules -/

theorem findDoor_of_tracks_iff {h h' : Hub} {m : Text}
    (heq : ∀ i, h'.Tracks i m ↔ h.Tracks i m) : h'.findDoor m = h.findDoor m := by
  cases hfind : h.findDoor m with
  | none =>
      rw [findDoor_eq_none_iff] at hfind ⊢
      exact fun j hj => hfind j ((heq j).mp hj)
  | some d =>
      rw [findDoor_eq_some_iff] at hfind ⊢
      exact ⟨(heq d).mpr hfind.1, fun j hj ht => hfind.2 j hj ((heq j).mp ht)⟩

/-- The status depends on the entries of the module alone. -/
theorem hubUdpGetStatus_congr {h h' : Hub} {m : Text}
    (heq : ∀ i, h'.Tracks i m ↔ h.Tracks i m)
    (hsame : ∀ i, h.Tracks i m → h'.doors i = h.doors i) :
    h'.hubUdpGetStatus m = h.hubUdpGetStatus m := by
  rw [hubUdpGetStatus, hubUdpGetStatus, findDoor_of_tracks_iff heq]
  cases hfind : h.findDoor m with
  | none => rfl
  | some d => rw [Option.map_some, Option.map_some, hsame d (findDoor_eq_some_iff.mp hfind).1]

/-- A line that names another module. -/
def OfOther (m : Text) (dg : Datagram) : Prop :=
  ∀ mod ∈ dg.tokens.head?, m ≠ mod ∧ m ≠ mod.take (hubModuleIdLen - 1)

theorem handleLine_tracks_of_other {h : Hub} {dg : Datagram} {m : Text} (hother : OfOther m dg)
    (i : Fin hubMaxDoors) :
    ((h.handleLine dg).1.Tracks i m ↔ h.Tracks i m) ∧
      (h.Tracks i m → (h.handleLine dg).1.doors i = h.doors i) := by
  rcases dg.tokens_cases with ⟨mod, type, args, htok⟩ | hshort
  · obtain ⟨hne, hid⟩ := hother mod (by rw [htok]; rfl)
    rcases handleLine_tracks_cases htok with
      ⟨d, hfind, -, heq, htr⟩ | ⟨-, d, hunk, -, -, heq, htr⟩ | ⟨-, -, -, heq, htr⟩
    · refine ⟨htr i m, fun ht => ?_⟩
      have hi : i ≠ d := by
        rintro rfl
        exact hne (ht.2.symm.trans (findDoor_eq_some_iff.mp hfind).1.2)
      rw [heq, Function.update_of_ne hi]
    · refine ⟨?_, fun ht => ?_⟩
      · rw [htr]
        exact ⟨fun ht => ht.resolve_right fun hnew => hid hnew.2, Or.inl⟩
      · have hi : i ≠ d := by
          rintro rfl
          rw [ht.1] at hunk
          cases hunk
        rw [heq, Function.update_of_ne hi]
    · exact ⟨htr i m, fun _ => by rw [heq]⟩
  · rw [handleLine_of_short hshort]
    exact ⟨Iff.rfl, fun _ => rfl⟩

/-- The entry found for a module stays the one found, and as it is. -/
theorem handleLine_findDoor_of_other {h : Hub} {dg : Datagram} {m : Text}
    (hother : OfOther m dg) {d : Fin hubMaxDoors} (hd : h.findDoor m = some d) :
    (h.handleLine dg).1.findDoor m = some d ∧ (h.handleLine dg).1.doors d = h.doors d :=
  ⟨(findDoor_of_tracks_iff fun i => (handleLine_tracks_of_other hother i).1).trans hd,
    (handleLine_tracks_of_other hother d).2 (findDoor_eq_some_iff.mp hd).1⟩

/-- A name that fits the id field is stored as it is. -/
theorem OfOther.of_short {dg : Datagram} {m : Text}
    (hother : ∀ mod ∈ dg.tokens.head?, mod ≠ m ∧ mod.length < hubModuleIdLen) : OfOther m dg := by
  intro mod hmod
  obtain ⟨hne, hshort⟩ := hother mod hmod
  have hid : mod.take (hubModuleIdLen - 1) = mod := storedId_of_short hshort
  rw [hid]
  exact ⟨hne.symm, hne.symm⟩

end Hub

end HomeSecurity
