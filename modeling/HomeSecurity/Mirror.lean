import HomeSecurity.HubReports

/-!
# The two halves of an entry

An entry has an open and a locked flag for each of D0 and D1. A HEARTBEAT writes
all four from the same two values, whatever was there before
(`heartbeat_resyncs`); an EVENT writes one. `door_alert_provider` prints the lock
flag of D0, which no LOCK EVENT writes, so it is behind from such an EVENT to the
next heartbeat: `mirrored_iff` names the updates after which the halves agree.
-/

namespace HomeSecurity

open CText

/-! ## After a heartbeat -/

/-- An entry as a HEARTBEAT that arrives at `t` leaves it. -/
structure Resynced (e : HubDoorStatus) (isOpen locked : Bool) (t : Int) : Prop where
  d0 : e.d0 = (isOpen, locked)
  d1 : e.d1 = (isOpen, locked)
  lastHeartbeatMs : e.lastHeartbeatMs = t
  lastHeartbeatLine :
    e.lastHeartbeatLine.text = [' '].intercalate (Report.heartbeat isOpen locked).args

theorem lineStatus_heartbeat (e : HubDoorStatus) (m : Text) (isOpen locked : Bool)
    (dg : Datagram) :
    Resynced (lineStatus e m (Report.heartbeat isOpen locked).type
      (Report.heartbeat isOpen locked).args dg) isOpen locked dg.t := by
  cases isOpen <;> cases locked <;> exact ⟨rfl, rfl, rfl, rfl⟩

/-- `D1` reporting in both ways, before its first update. -/
def DoorUdp.reporter : DoorUdp := (DoorUdp.static.doorUdpInit2 "D1".toList .both 1000 0 true).1

namespace Hub

/-- Whatever the tables hold, a heartbeat of a module that has an entry or can
get one leaves its entry as the door is, and the entry is what is found. -/
theorem heartbeat_resyncs {s : DoorUdp} {t : Int} {d0Open d0Locked d1Open d1Locked : Bool}
    {send : DoorSend} {h : Hub} (hm : IsModuleId s.moduleId.text)
    (hroom : (∃ d, h.Tracks d s.moduleId.text) ∨ ∃ d, (h.doors d).known = false)
    (hsend : send ∈ (s.doorUdpUpdate t d0Open d0Locked d1Open d1Locked).2)
    (hport : send.port = .hb) (src : SockAddr) (arrive issued : Int) :
    let h' := (h.handleLine ⟨src, send.line.text, arrive, issued⟩).1
    ∃ d, h'.Tracks d s.moduleId.text ∧
      h'.hubUdpGetStatus s.moduleId.text = some (h'.doors d) ∧
      Resynced (h'.doors d) d0Open d1Locked arrive := by
  have hline := DoorUdp.doorUdpUpdate_heartbeat hsend hport
  have htok : Datagram.tokens ⟨src, send.line.text, arrive, issued⟩
      = s.moduleId.text :: (Report.heartbeat d0Open d1Locked).type
        :: (Report.heartbeat d0Open d1Locked).args := by
    rw [Datagram.tokens_eq, hline, DoorUdp.reportBuf, wireTokens_reportBuf hm]
  intro h'
  -- it is enough that some entry found for the module was written
  have hfound : ∀ d e, h'.findDoor s.moduleId.text = some d →
      h'.doors d = lineStatus e s.moduleId.text (Report.heartbeat d0Open d1Locked).type
        (Report.heartbeat d0Open d1Locked).args ⟨src, send.line.text, arrive, issued⟩ →
      ∃ d, h'.Tracks d s.moduleId.text ∧
        h'.hubUdpGetStatus s.moduleId.text = some (h'.doors d) ∧
        Resynced (h'.doors d) d0Open d1Locked arrive := by
    intro d e hfind hdoor
    refine ⟨d, (findDoor_eq_some_iff.mp hfind).1, hubUdpGetStatus_of_find hfind, ?_⟩
    rw [hdoor]
    exact lineStatus_heartbeat e _ d0Open d1Locked ⟨src, send.line.text, arrive, issued⟩
  rcases handleLine_tracks_cases htok with
    ⟨d, hfind, -, heq, htr⟩ | ⟨hnone, d, -, -, -, heq, htr⟩ | ⟨hnone, hfull, -, -, -⟩
  · refine hfound d (h.doors d) ?_ (by rw [heq, Function.update_self])
    rw [← hfind]
    exact findDoor_of_tracks_iff fun i => htr i _
  · refine hfound d (freshDoor s.moduleId.text) ?_ (by rw [heq, Function.update_self])
    -- nothing else was stored under the id
    have hnew := htr d s.moduleId.text
    rw [storedId_of_short hm.short] at hnew
    refine findDoor_eq_some_iff.mpr ⟨hnew.mpr (Or.inr ⟨rfl, rfl⟩), fun j hj ht => ?_⟩
    rcases (htr j _).mp ht with ht | ⟨rfl, -⟩
    · exact findDoor_eq_none_iff.mp hnone j ht
    · exact absurd hj (lt_irrefl j)
  · rcases hroom with ⟨d, ht⟩ | ⟨d, hunk⟩
    · exact absurd ht (findDoor_eq_none_iff.mp hnone d)
    · rw [hfull d] at hunk
      cases hunk

theorem heartbeat_resyncs_first :
    let h' := ((Hub.init []).handleLine
      ⟨⟨1, 40001⟩, (DoorUdp.reporter.reportBuf (.heartbeat true false)).text, 12, 12⟩).1
    ∃ d, h'.Tracks d "D1".toList ∧ h'.hubUdpGetStatus "D1".toList = some (h'.doors d) ∧
      Resynced (h'.doors d) true false 12 := by
  have hsend : (⟨.hb, DoorUdp.reporter.reportBuf (.heartbeat true false)⟩ : DoorSend)
      ∈ (DoorUdp.reporter.doorUdpUpdate 10 true false false false).2 := by
    rw [DoorUdp.doorUdpUpdate_first 10 _ _ _ _ rfl rfl]
    exact List.mem_singleton_self _
  exact heartbeat_resyncs isModuleId_D1 (Or.inr ⟨0, rfl⟩) hsend rfl ⟨1, 40001⟩ 12 12

end Hub

/-! ## The alert text -/

/-- The text for an entry, with the lock state given. -/
def alertText (st : HubDoorStatus) (locked : Bool) : CBuf 512 :=
  snprintf 512 (st.moduleId.text ++ ": D0=".toList ++ openText st.d0Open ++ ',' :: lockText locked
    ++ " lastHB=".toList ++ decimal st.lastHeartbeatMs ++ "ms".toList)

/-- `door_alert_provider`. -/
def doorAlertProvider (h : Hub) (module : Text) : Option (CBuf 512) :=
  (h.hubUdpGetStatus module).map fun st => alertText st st.d0Locked

/-! ## What reports do to the four flags -/

def HubDoorStatus.channels (e : HubDoorStatus) : Channel × Channel := (e.d0, e.d1)

def Report.onChannels : Report → Channel × Channel → Channel × Channel
  | .hello, c => c
  | .heartbeat o l, _ => ((o, l), (o, l))
  | .doorEvent o, c => ((o, c.1.2), c.2)
  | .lockEvent l, c => (c.1, (c.2.1, l))

/-- The lock state a report carries. -/
def Report.lock : Report → Option Bool
  | .heartbeat _ l => some l
  | .lockEvent l => some l
  | _ => none

theorem lineStatus_channels (e : HubDoorStatus) (m : Text) (r : Report) (dg : Datagram) :
    (lineStatus e m r.type r.args dg).channels = r.onChannels e.channels := by
  cases r with
  | hello => rfl
  | heartbeat o l =>
      obtain ⟨h0, h1, -, -⟩ := lineStatus_heartbeat e m o l dg
      exact Prod.ext h0 h1
  | doorEvent o => cases o <;> rfl
  | lockEvent l => cases l <;> rfl

/-- Only a HEARTBEAT and an EVENT write them. -/
theorem lineStatus_channels_of_ne (e : HubDoorStatus) (mod : Text) {type : Text}
    (args : List Text) (dg : Datagram) (hbeat : type ≠ "HEARTBEAT".toList)
    (hevent : type ≠ "EVENT".toList) : (lineStatus e mod type args dg).channels = e.channels := by
  have hnote : (noteStatus e type dg.src).channels = e.channels := by
    unfold noteStatus
    split <;> rfl
  rw [lineStatus, dispatchStatus, if_neg hbeat, if_neg hevent, ← hnote]
  split
  · split <;> rfl
  · split <;> rfl

/-- The reports of one update, all of them. -/
theorem reports_channels (s : DoorUdp) (t : Int) (d0Open d1Locked : Bool)
    (c : Channel × Channel) :
    (s.reports t d0Open d1Locked).foldl (fun c r => r.onChannels c) c
      = if s.beats t then ((d0Open, d1Locked), (d0Open, d1Locked))
        else ((if s.notifiesDoor d0Open then d0Open else c.1.1, c.1.2),
          (c.2.1, if s.notifiesLock d1Locked then d1Locked else c.2.2)) := by
  rw [s.reports_eq]
  cases s.beats t <;> cases s.notifiesDoor d0Open <;> cases s.notifiesLock d1Locked <;> rfl

theorem reports_lock (s : DoorUdp) (t : Int) (d0Open d1Locked : Bool) (last : Option Bool) :
    (s.reports t d0Open d1Locked).foldl (fun last r => r.lock.or last) last
      = if s.beats t || s.notifiesLock d1Locked then some d1Locked else last := by
  rw [s.reports_eq]
  cases s.beats t <;> cases s.notifiesDoor d0Open <;> cases s.notifiesLock d1Locked <;> rfl

/-! ## Runs -/

namespace Mirror

structure State where
  door : DoorUdp
  hub : Hub
  /-- The lock state in the last report that carried one. -/
  reported : Option Bool

inductive Label where
  /-- An update, all of whose datagrams the hub handles. -/
  | update (t : Int) (d0Open d0Locked d1Open d1Locked : Bool) (src : SockAddr)
      (arrive : DoorSend → Int)
  /-- Anything else that reaches the hub. -/
  | other (i : Hub.Input)

variable (m : Text)

/-- Neither a report of module `m` nor a line of a module stored under its id. -/
def bystander : Hub.Input → Bool
  | .datagram dg =>
      match dg.tokens with
      | mod :: type :: _ =>
          if mod = m then type != "HEARTBEAT".toList && type != "EVENT".toList
          else Hub.storedId mod != m
      | _ => true
  | .check _ => true

def step (s : State) : Label → Option State
  | .update t d0Open d0Locked d1Open d1Locked src arrive =>
      let r := s.door.doorUdpUpdate t d0Open d0Locked d1Open d1Locked
      some {
        door := r.1
        hub := r.2.foldl (Hub.receive src arrive) s.hub
        reported := (s.door.reports t d0Open d1Locked).foldl (fun last r => r.lock.or last)
          s.reported }
  | .other i => if bystander m i then some { s with hub := (s.hub.input i).1 } else none

/-- The flags of the two halves agree, and the alert text has the lock state that
the door last reported. -/
def Consistent (s : State) : Prop :=
  ∃ e, s.hub.hubUdpGetStatus m = some e ∧ e.d0Locked = e.d1Locked ∧ e.d1Open = e.d0Open ∧
    ∀ locked ∈ s.reported, doorAlertProvider s.hub m = some (alertText e locked)

/-- Every update leaves the halves consistent. -/
def ConsistentAfter (s : State) : Label → Prop
  | .update t d0Open d0Locked d1Open d1Locked src arrive =>
      ∀ s', step m s (.update t d0Open d0Locked d1Open d1Locked src arrive) = some s' →
        Consistent m s'
  | .other _ => True

/-- Every update sends a heartbeat, or what D1 says of the door and D0 of the lock
is what the EVENTs sent, if any, leave of the other two flags. -/
def KeepsMirror (s : State) : Label → Prop
  | .update t d0Open _ _ d1Locked _ _ =>
      s.door.beats t = true ∨
        ∃ e, s.hub.hubUdpGetStatus m = some e ∧
          e.d1Open = (if s.door.notifiesDoor d0Open then d0Open else e.d0Open) ∧
          e.d0Locked = (if s.door.notifiesLock d1Locked then d1Locked else e.d1Locked)
  | .other _ => True

structure Inv (d : Fin hubMaxDoors) (s : State) : Prop where
  moduleId : s.door.moduleId.text = m
  find : s.hub.findDoor m = some d
  reported : ∀ locked ∈ s.reported, (s.hub.doors d).d1Locked = locked

variable {m}

/-- What an update leaves at the hub, and what it has reported by then. -/
theorem Inv.update (hm : IsModuleId m) {d : Fin hubMaxDoors} {s s' : State} (h : Inv m d s)
    {t : Int} {d0Open d0Locked d1Open d1Locked : Bool} {src : SockAddr} {arrive : DoorSend → Int}
    (hs : step m s (.update t d0Open d0Locked d1Open d1Locked src arrive) = some s') :
    s'.door.moduleId = s.door.moduleId ∧ s'.hub.findDoor m = some d ∧
      (s'.hub.doors d).channels
        = (if s.door.beats t then ((d0Open, d1Locked), (d0Open, d1Locked))
          else ((if s.door.notifiesDoor d0Open then d0Open else (s.hub.doors d).d0Open,
              (s.hub.doors d).d0Locked),
            ((s.hub.doors d).d1Open,
              if s.door.notifiesLock d1Locked then d1Locked else (s.hub.doors d).d1Locked))) ∧
      s'.reported
        = if s.door.beats t || s.door.notifiesLock d1Locked then some d1Locked
          else s.reported := by
  obtain rfl := Option.some.inj hs
  have hlines := DoorUdp.doorUdpUpdate_lines_of h.moduleId t d0Open d0Locked d1Open d1Locked
  obtain ⟨hfind, hread⟩ := Hub.receive_reports_of (fun e r dg => lineStatus_channels e m r dg)
    hm src arrive hlines h.find
  refine ⟨(s.door.doorUdpUpdate_config ..).2.1, hfind, ?_, reports_lock ..⟩
  rw [hread, reports_channels]
  rfl

/-- A bystander's input leaves the entry in its place and its flags as they are. -/
theorem Inv.other {d : Fin hubMaxDoors} {s : State} (h : Inv m d s) {i : Hub.Input}
    (hi : bystander m i = true) :
    (s.hub.input i).1.findDoor m = some d ∧
      ((s.hub.input i).1.doors d).channels = (s.hub.doors d).channels := by
  cases i with
  | check now =>
      have hframe := (s.hub.checkOfflineModules_frame now).1
      obtain ⟨off, ms, hdoor⟩ := hframe.doors d
      refine ⟨(hframe.findDoor m).trans h.find, ?_⟩
      show ((s.hub.checkOfflineModules now).1.doors d).channels = _
      rw [hdoor]
      rfl
  | datagram dg =>
      show (s.hub.handleLine dg).1.findDoor m = some d ∧
        ((s.hub.handleLine dg).1.doors d).channels = _
      rw [bystander] at hi
      split at hi
      · rename_i mod type args htok
        split at hi
        · rename_i hmod
          subst hmod
          simp only [Bool.and_eq_true, bne_iff_ne] at hi
          have hdoors := Hub.handleLine_doors_of_find htok h.find
          refine ⟨(Hub.findDoor_of_update hdoors (lineStatus_key ..) mod).trans h.find, ?_⟩
          rw [hdoors, Function.update_self]
          exact lineStatus_channels_of_ne _ mod args dg hi.1 hi.2
        · rename_i hmod
          have hother : Hub.OfOther m dg := by
            intro mod' hmod'
            rw [htok] at hmod'
            obtain rfl := Option.some.inj hmod'
            exact ⟨fun heq => hmod heq.symm, fun heq => bne_iff_ne.mp hi heq.symm⟩
          obtain ⟨hfind, hentry⟩ := Hub.handleLine_findDoor_of_other hother h.find
          exact ⟨hfind, by rw [hentry]⟩
      · rename_i hshort
        rw [Hub.handleLine_of_short fun mod type args => hshort mod type args]
        exact ⟨h.find, rfl⟩

theorem inv_step (hm : IsModuleId m) {d : Fin hubMaxDoors} {s s' : State} {l : Label}
    (h : Inv m d s) (hs : step m s l = some s') : Inv m d s' := by
  cases l with
  | update t d0Open d0Locked d1Open d1Locked src arrive =>
      obtain ⟨hid, hfind, hflags, hrep⟩ := h.update hm hs
      have hlock : (s'.hub.doors d).d1Locked = _ := congrArg (fun c => c.2.2) hflags
      refine ⟨by rw [hid, h.moduleId], hfind, fun locked hlast => ?_⟩
      rw [hrep] at hlast
      rw [hlock]
      cases hbeat : s.door.beats t with
      | true => simpa [hbeat] using hlast
      | false =>
          cases hnotify : s.door.notifiesLock d1Locked with
          | true => simpa [hbeat, hnotify] using hlast
          | false =>
              simp only [hbeat, hnotify, Bool.or_self, Bool.false_eq_true, if_false] at hlast ⊢
              exact h.reported locked hlast
  | other i =>
      simp only [step, Option.ite_none_right_eq_some, Option.some.injEq] at hs
      obtain ⟨hi, rfl⟩ := hs
      obtain ⟨hfind, hflags⟩ := h.other hi
      have hlock : ((s.hub.input i).1.doors d).d1Locked = (s.hub.doors d).d1Locked :=
        congrArg (fun c => c.2.2) hflags
      exact ⟨h.moduleId, hfind, fun locked hlast => hlock.trans (h.reported locked hlast)⟩

/-- Consistent is a matter of the flags: the last reported lock state is D1's. -/
theorem Inv.consistent_iff {d : Fin hubMaxDoors} {s : State} (h : Inv m d s) :
    Consistent m s ↔
      (s.hub.doors d).d0Locked = (s.hub.doors d).d1Locked ∧
        (s.hub.doors d).d1Open = (s.hub.doors d).d0Open := by
  have hget := Hub.hubUdpGetStatus_of_find h.find
  constructor
  · rintro ⟨e, he, hlock, hopen, -⟩
    obtain rfl := Option.some.inj (hget.symm.trans he)
    exact ⟨hlock, hopen⟩
  · rintro ⟨hlock, hopen⟩
    refine ⟨_, hget, hlock, hopen, fun locked hlast => ?_⟩
    rw [doorAlertProvider, hget, Option.map_some, hlock, h.reported locked hlast]

theorem Inv.consistentAfter_iff (hm : IsModuleId m) {d : Fin hubMaxDoors} {s : State}
    (h : Inv m d s) (l : Label) : ConsistentAfter m s l ↔ KeepsMirror m s l := by
  cases l with
  | other i => exact Iff.rfl
  | update t d0Open d0Locked d1Open d1Locked src arrive =>
      obtain ⟨s', hs⟩ : ∃ s', step m s (.update t d0Open d0Locked d1Open d1Locked src arrive)
        = some s' := ⟨_, rfl⟩
      have hafter : ConsistentAfter m s (.update t d0Open d0Locked d1Open d1Locked src arrive) ↔
          Consistent m s' :=
        ⟨fun hall => hall s' hs, fun hc s'' hs'' => Option.some.inj (hs.symm.trans hs'') ▸ hc⟩
      have hget := Hub.hubUdpGetStatus_of_find h.find
      have hkeeps : KeepsMirror m s (.update t d0Open d0Locked d1Open d1Locked src arrive) ↔
          s.door.beats t = true ∨
            (s.hub.doors d).d1Open
                = (if s.door.notifiesDoor d0Open then d0Open else (s.hub.doors d).d0Open) ∧
              (s.hub.doors d).d0Locked
                = (if s.door.notifiesLock d1Locked then d1Locked
                  else (s.hub.doors d).d1Locked) := by
        simp [KeepsMirror, hget]
      have hflags := (h.update hm hs).2.2.1
      rw [hafter, (inv_step hm h hs).consistent_iff, hkeeps]
      cases hbeat : s.door.beats t with
      | true =>
          rw [hbeat, if_pos rfl] at hflags
          have h0 : (s'.hub.doors d).d0 = (d0Open, d1Locked) := congrArg Prod.fst hflags
          have h1 : (s'.hub.doors d).d1 = (d0Open, d1Locked) := congrArg Prod.snd hflags
          obtain ⟨hopen0, hlock0⟩ := Prod.mk.inj h0
          obtain ⟨hopen1, hlock1⟩ := Prod.mk.inj h1
          simp [hopen0, hlock0, hopen1, hlock1]
      | false =>
          rw [hbeat, if_neg Bool.false_ne_true] at hflags
          have h0 : (s'.hub.doors d).d0 = (_, _) := congrArg Prod.fst hflags
          have h1 : (s'.hub.doors d).d1 = (_, _) := congrArg Prod.snd hflags
          obtain ⟨hopen0, hlock0⟩ := Prod.mk.inj h0
          obtain ⟨hopen1, hlock1⟩ := Prod.mk.inj h1
          rw [hopen0, hlock0, hopen1, hlock1]
          simp [and_comm]

/-- Every update of a run leaves the halves of the module's entry consistent if
and only if every one of them sends a heartbeat or fits what the entry has. -/
theorem mirrored_iff (hm : IsModuleId m) {door : DoorUdp} {hub : Hub}
    (hid : door.moduleId.text = m) (htr : ∃ d, hub.Tracks d m) {ls : List Label} :
    Lts.Along (step m) (ConsistentAfter m) ⟨door, hub, none⟩ ls ↔
      Lts.Along (step m) (KeepsMirror m) ⟨door, hub, none⟩ ls := by
  obtain ⟨d', ht⟩ := htr
  obtain ⟨d, hfind⟩ := Hub.findDoor_of_tracks ht
  have hinv : Inv m d ⟨door, hub, none⟩ := ⟨hid, hfind, nofun⟩
  exact Lts.Along.congr (P := fun _ _ => True) (fun s l s' h _ hs => inv_step hm h hs)
    (fun s l h _ => h.consistentAfter_iff hm l) hinv (Lts.along_of_forall (fun _ _ => trivial) ls _)

/-- The first update of a door that reports in both ways. -/
theorem mirrored_iff_first :
    Lts.Along (step "D1".toList) (ConsistentAfter "D1".toList) ⟨DoorUdp.reporter, Hub.greeted, none⟩
      [.update 10 false false false true ⟨1, 40001⟩ fun _ => 10] :=
  (mirrored_iff isModuleId_D1 rfl ⟨0, Hub.greeted_tracks⟩).mpr
    ⟨Or.inl (by decide), fun _ _ => trivial⟩

/-- The door is unlocked between two heartbeats: `door_alert_provider` still says
LOCKED. -/
theorem mirrored_iff_unlocked :
    ¬∀ (m : Text) (door : DoorUdp) (hub : Hub) (ls : List Label), IsModuleId m →
      door.moduleId.text = m → (∃ d, hub.Tracks d m) →
      Lts.Along (step m) (ConsistentAfter m) ⟨door, hub, none⟩ ls := by
  intro hall
  have halong := hall "D1".toList DoorUdp.reporter Hub.greeted
    [.update 10 false false false true ⟨1, 40001⟩ fun _ => 10,
      .update 20 false false false false ⟨1, 40001⟩ fun _ => 20]
    isModuleId_D1 rfl ⟨0, Hub.greeted_tracks⟩
  have hrun : (Lts.run (step "D1".toList) ⟨DoorUdp.reporter, Hub.greeted, none⟩
      [.update 10 false false false true ⟨1, 40001⟩ fun _ => 10,
        .update 20 false false false false ⟨1, 40001⟩ fun _ => 20]).map
        (fun s => (s.hub.hubUdpGetStatus "D1".toList).map fun e => (e.d0Locked, e.d1Locked))
      = some (some (true, false)) := by
    decide +kernel
  obtain ⟨s₂, hs₂, hobs⟩ := Option.map_eq_some_iff.mp hrun
  obtain ⟨s₁, hs₁, hlast⟩ := Lts.run_cons_eq_some.mp hs₂
  obtain ⟨s, hs, hend⟩ := Lts.run_cons_eq_some.mp hlast
  obtain rfl := Option.some.inj hend
  obtain ⟨e, he, hlock, -⟩ := (halong.2 s₁ hs₁).1 s hs
  rw [he] at hobs
  obtain ⟨htrue, hfalse⟩ := Prod.mk.inj (Option.some.inj hobs)
  rw [htrue, hfalse] at hlock
  cases hlock

end Mirror

end HomeSecurity
