import Mathlib.Data.List.Basic
import HomeSecurity.DoorMod
import HomeSecurity.HubReports
import HomeSecurity.Lts

/-!
# Sensor failures and the reported door state

A distance of -1 is `get_distance`'s error value; it is also below the closed
threshold. `report_door_state_udp` drops it, `heartbeat_worker` does not. The
system here is one door module whose calls and heartbeat iterations interleave
in any order, with a hub that receives all its datagrams.

`sensorFailure_iff` names the runs in which no failed reading is ever reported
as a closed door: those where every failed heartbeat reading comes while the
last reported state is closed anyway and no heartbeat is due.
-/

namespace HomeSecurity

open CText StepperMotor

/-- The D0 state held by `door_udp_update`. -/
def DoorUdp.held (s : DoorUdp) : Option Bool := if s.prevValid then some s.prevD0Open else none

/-! ## Reports of a closed door -/

/-- EVENT D0 DOOR CLOSED, and the HEARTBEATs that carry CLOSED. -/
def closedReports : List Report := [.doorEvent false, .heartbeat false true, .heartbeat false false]

def saysClosed (m : Text) (send : DoorSend) : Bool :=
  decide (send.line ∈ closedReports.map (reportBuf m))

theorem filter_saysClosed_eq_nil_iff {m : Text} (hm : IsModuleId m) {sends : List DoorSend}
    {rs : List Report} (hsends : sends.map DoorSend.line = rs.map (reportBuf m)) :
    sends.filter (saysClosed m) = [] ↔ ∀ r ∈ rs, r ∉ closedReports := by
  have hlines : sends.filter (saysClosed m) = [] ↔
      ∀ line ∈ sends.map DoorSend.line, line ∉ closedReports.map (reportBuf m) := by
    simp only [List.filter_eq_nil_iff, List.forall_mem_map, saysClosed, decide_eq_true_eq]
  have hinj : Function.Injective (reportBuf m) := fun r r' h => (reportBuf_inj hm).mp h
  rw [hlines, hsends, List.forall_mem_map]
  simp only [List.mem_map_of_injective hinj]

/-- An update with a closed door says so, unless that is what is held already
and no heartbeat is due. -/
theorem reports_closed_iff {s : DoorUdp} (hsock : s.sockOpen = true) (hmode : s.mode = .both)
    (t : Int) (d1Locked : Bool) :
    (∀ r ∈ s.reports t false d1Locked, r ∉ closedReports) ↔
      s.held = some false ∧ s.heartbeatDue t = false := by
  rw [DoorUdp.reports, DoorUdp.held, hsock, hmode]
  cases hprev : s.prevValid with
  | false => cases d1Locked <;> simp [DoorReportMode.both, closedReports]
  | true =>
      cases s.prevD0Open <;> cases s.heartbeatDue t <;> cases d1Locked <;>
        cases s.prevD1Locked <;> simp [DoorReportMode.both, closedReports]

/-! ## The system -/

namespace Reporting

/-- The last two fields are history: the D0 value of the last valid reading
that a step reported on, and the reports of a closed door sent by steps whose
reading was -1. -/
structure State where
  mod : DoorMod
  hub : Hub
  lastValid : Option Bool
  unfounded : List DoorSend

inductive Action where
  | heartbeat (distance t : Int)
  | lock (door : Door) (env : Env)
  | unlock (door : Door) (env : Env)
  | status (door : Door) (env : Env)
  /-- The motor is somewhere else. -/
  | turn (pos : Fin stepsPerRev)

/-- An action and when the datagrams it sends arrive. -/
structure Label where
  action : Action
  arrive : DoorSend → Int

/-- What the module does, and the reading its report is based on. -/
def Action.act (mod : DoorMod) : Action → DoorMod × List DoorSend × Option Int
  | .heartbeat distance t =>
      let r := mod.heartbeatWorker distance t
      (r.1, r.2, some distance)
  | .lock door env =>
      let c := mod.lockDoor door env
      (c.mod, c.sends, some env.report)
  | .unlock door env =>
      let c := mod.unlockDoor door env
      (c.mod, c.sends, some env.report)
  | .status door env =>
      let c := mod.getDoorStatus door env
      (c.mod, c.sends, some env.report)
  | .turn pos => ({ mod with position := pos }, [], none)

def readingOpen (reading : Int) : Bool := decide (reading ≥ doorClosedThresholdCm)

variable (m : Text) (src : SockAddr)

/-- The state after the module did something on the strength of `reading`. -/
def record (s : State) (arrive : DoorSend → Int) (mod : DoorMod) (sends : List DoorSend)
    (reading : Option Int) : State where
  mod := mod
  hub := sends.foldl (Hub.receive src arrive) s.hub
  lastValid :=
    match reading with
    | some d => if d = -1 then s.lastValid else some (readingOpen d)
    | none => s.lastValid
  unfounded :=
    if reading = some (-1) then s.unfounded ++ sends.filter (saysClosed m) else s.unfounded

def step (s : State) (l : Label) : Option State :=
  let r := l.action.act s.mod
  some (record m src s l.arrive r.1 r.2.1 r.2.2)

/-- The module as `door_reporting_start` leaves it, and a hub that received its
HELLO. -/
def start (heartbeatMs t now : Int) (ok : Bool) (pos : Fin stepsPerRev)
    (arrive : DoorSend → Int) (hub : Hub) : State :=
  let r := (DoorMod.initial pos).doorReportingStart m heartbeatMs t now ok
  ⟨r.1, r.2.foldl (Hub.receive src arrive) hub, none, []⟩

/-- No failed reading was reported as a closed door, and door and hub hold what
the last valid reading gave. -/
structure Truthful (s : State) : Prop where
  founded : s.unfounded = []
  held : s.mod.udp.sockOpen = true → s.mod.udp.held = s.lastValid
  shown : s.mod.udp.sockOpen = true → ∀ o, s.lastValid = some o →
    (s.hub.hubUdpGetStatus m).map (·.d0Open) = some o

/-- A heartbeat iteration whose sensor fails repeats nothing but what is held:
closed, with no heartbeat due. -/
def Founded (s : State) (l : Label) : Prop :=
  ∀ t, l.action = .heartbeat (-1) t → s.mod.udp.sockOpen = true →
    s.mod.udp.held = some false ∧ s.mod.udp.heartbeatDue t = false

/-! ## What an action asks of the transport -/

inductive Acts (udp : DoorUdp) : Action → Option Int → DoorUdp → List DoorSend → Prop where
  | idle {pos : Fin stepsPerRev} : Acts udp (.turn pos) none udp []
  /-- A failed reading that is not reported. -/
  | skip {a : Action} (ha : ∀ t, a ≠ .heartbeat (-1) t) : Acts udp a (some (-1)) udp []
  | valid {a : Action} (ha : ∀ t, a ≠ .heartbeat (-1) t) {reading : Int}
      (hvalid : reading ≠ -1) (t : Int) (d1Locked : Bool) :
      Acts udp a (some reading)
        (udp.doorUdpUpdate t (readingOpen reading) false false d1Locked).1
        (udp.doorUdpUpdate t (readingOpen reading) false false d1Locked).2
  /-- A failed reading that is reported like any other. -/
  | failed (t : Int) (d1Locked : Bool) :
      Acts udp (.heartbeat (-1) t) (some (-1))
        (udp.doorUdpUpdate t false false false d1Locked).1
        (udp.doorUdpUpdate t false false false d1Locked).2

theorem acts_reported {a : Action} (ha : ∀ t, a ≠ .heartbeat (-1) t) (s : DoorMod)
    (door : Door) (env : Env) (leds : List LedRequest) (applied : List StepPattern) :
    Acts s.udp a (some env.report) (s.reported door env leds applied).mod.udp
      (s.reported door env leds applied).sends := by
  unfold DoorMod.reported DoorMod.reportDoorStateUdp
  split
  · rename_i hfail
    rw [hfail]
    exact .skip ha
  · rename_i hvalid
    exact .valid ha hvalid ..

theorem act_acts (mod : DoorMod) (a : Action) :
    Acts mod.udp a (a.act mod).2.2 (a.act mod).1.udp (a.act mod).2.1 := by
  cases a with
  | heartbeat distance t =>
      by_cases hd : distance = -1
      · subst hd
        exact .failed ..
      · exact .valid (fun t' heq => hd (Action.heartbeat.inj heq).1) hd ..
  | lock door env =>
      obtain ⟨pos, door', leds, applied, heq⟩ := mod.lockDoor_reported door env
      simp only [Action.act, heq]
      exact acts_reported (by rintro t ⟨⟩) { mod with position := pos } door' env leds applied
  | unlock door env =>
      obtain ⟨pos, door', leds, applied, heq⟩ := mod.unlockDoor_reported door env
      simp only [Action.act, heq]
      exact acts_reported (by rintro t ⟨⟩) { mod with position := pos } door' env leds applied
  | status door env =>
      obtain ⟨pos, door', leds, applied, heq⟩ := mod.getDoorStatus_reported door env
      simp only [Action.act, heq]
      exact acts_reported (by rintro t ⟨⟩) { mod with position := pos } door' env leds applied
  | turn pos => exact .idle

/-! ## The invariant -/

variable {m}

structure Inv (d : Fin hubMaxDoors) (s : State) : Prop where
  moduleId : s.mod.udp.moduleId.text = m
  mode : s.mod.udp.mode = .both
  find : s.hub.findDoor m = some d
  shown : s.mod.udp.prevValid = true → (s.hub.doors d).view = s.mod.udp.view
  closed : s.mod.udp.sockOpen = false → s.mod.udp.prevValid = false
  held : s.unfounded = [] → s.mod.udp.sockOpen = true → s.mod.udp.held = s.lastValid

/-- An update whose reports all arrive leaves the hub with the updated values. -/
theorem Inv.update (hm : IsModuleId m) {d : Fin hubMaxDoors} {s : State}
    (h : Inv (m := m) d s) (hsock : s.mod.udp.sockOpen = true) (arrive : DoorSend → Int)
    (t : Int) (d0Open d1Locked : Bool) :
    let r := s.mod.udp.doorUdpUpdate t d0Open false false d1Locked
    (r.2.foldl (Hub.receive src arrive) s.hub).findDoor m = some d
      ∧ ((r.2.foldl (Hub.receive src arrive) s.hub).doors d).view = r.1.view := by
  intro r
  have hlines := DoorUdp.doorUdpUpdate_lines_of h.moduleId t d0Open false false d1Locked
  obtain ⟨hfind, hview⟩ := Hub.receive_reports hm src arrive hlines h.find
  obtain ⟨-, hopen, hlocked⟩ := DoorUdp.doorUdpUpdate_prev hsock t d0Open false false d1Locked
  refine ⟨hfind, ?_⟩
  rw [hview, reports_effect hsock h.mode t d0Open d1Locked h.shown, DoorUdp.view, hopen, hlocked]

/-- What is left of the invariant after an update of either kind. -/
theorem Inv.updated (hm : IsModuleId m) {d : Fin hubMaxDoors} {s s' : State}
    (h : Inv (m := m) d s) {arrive : DoorSend → Int} {t : Int} {d0Open d1Locked : Bool}
    (hudp : s'.mod.udp = (s.mod.udp.doorUdpUpdate t d0Open false false d1Locked).1)
    (hhub : s'.hub = (s.mod.udp.doorUdpUpdate t d0Open false false d1Locked).2.foldl
      (Hub.receive src arrive) s.hub)
    (hheld : s'.unfounded = [] → s.mod.udp.sockOpen = true → some d0Open = s'.lastValid) :
    Inv (m := m) d s' := by
  cases hsock : s.mod.udp.sockOpen with
  | false =>
      rw [DoorUdp.doorUdpUpdate_of_closed t _ _ _ _ hsock] at hudp hhub
      dsimp only [List.foldl_nil] at hudp hhub
      rw [← hudp] at hsock
      exact {
        moduleId := hudp ▸ h.moduleId
        mode := hudp ▸ h.mode
        find := hhub ▸ h.find
        shown := hudp ▸ hhub ▸ h.shown
        closed := hudp ▸ h.closed
        held := fun _ hopen => by rw [hsock] at hopen; cases hopen }
  | true =>
      obtain ⟨hsame, hid, hmode, -⟩ :=
        s.mod.udp.doorUdpUpdate_config t d0Open false false d1Locked
      obtain ⟨hfind, hview⟩ := h.update src hm hsock arrive t d0Open d1Locked
      obtain ⟨hvalid, hopen, -⟩ := DoorUdp.doorUdpUpdate_prev hsock t d0Open false false d1Locked
      exact {
        moduleId := by rw [hudp, hid, h.moduleId]
        mode := by rw [hudp, hmode, h.mode]
        find := by rw [hhub]; exact hfind
        shown := fun _ => by rw [hhub, hudp]; exact hview
        closed := fun hclosed => by rw [hudp, hsame, hsock] at hclosed; cases hclosed
        held := fun hclean _ => by
          rw [hudp, DoorUdp.held, if_pos hvalid, hopen]
          exact hheld hclean hsock }

theorem saysClosed_update (hm : IsModuleId m) {d : Fin hubMaxDoors} {s : State}
    (h : Inv (m := m) d s) (t : Int) (d1Locked : Bool) :
    (s.mod.udp.doorUdpUpdate t false false false d1Locked).2.filter (saysClosed m) = [] ↔
      (s.mod.udp.sockOpen = true →
        s.mod.udp.held = some false ∧ s.mod.udp.heartbeatDue t = false) := by
  have hlines := DoorUdp.doorUdpUpdate_lines_of h.moduleId t false false false d1Locked
  rw [filter_saysClosed_eq_nil_iff hm hlines]
  cases hsock : s.mod.udp.sockOpen with
  | false =>
      rw [DoorUdp.reports, hsock]
      simp
  | true =>
      rw [reports_closed_iff hsock h.mode]
      exact ⟨fun hheld _ => hheld, fun hheld => hheld rfl⟩

theorem inv_record (hm : IsModuleId m) {d : Fin hubMaxDoors} {s : State}
    (h : Inv (m := m) d s) (arrive : DoorSend → Int) {a : Action} {mod : DoorMod}
    {sends : List DoorSend} {reading : Option Int}
    (hacts : Acts s.mod.udp a reading mod.udp sends) :
    Inv (m := m) d (record m src s arrive mod sends reading)
      ∧ ((record m src s arrive mod sends reading).unfounded = [] ↔
        s.unfounded = [] ∧ Founded s ⟨a, arrive⟩) := by
  have hsound : (∀ t, a ≠ .heartbeat (-1) t) → Founded s ⟨a, arrive⟩ :=
    fun hne t ht => absurd ht (hne t)
  generalize hudp : mod.udp = udp at hacts
  cases hacts with
  | idle =>
      refine ⟨?_, ?_⟩
      · exact ⟨hudp ▸ h.moduleId, hudp ▸ h.mode, h.find, hudp ▸ h.shown, hudp ▸ h.closed,
          hudp ▸ h.held⟩
      · exact ⟨fun hc => ⟨hc, hsound (by rintro t ⟨⟩)⟩, fun hc => hc.1⟩
  | skip hne =>
      have hlog : (record m src s arrive mod [] (some (-1))).unfounded = s.unfounded :=
        List.append_nil _
      refine ⟨?_, ?_⟩
      · exact ⟨hudp ▸ h.moduleId, hudp ▸ h.mode, h.find, hudp ▸ h.shown, hudp ▸ h.closed,
          hlog ▸ hudp ▸ h.held⟩
      · rw [hlog]
        exact ⟨fun hc => ⟨hc, hsound hne⟩, fun hc => hc.1⟩
  | @valid _ hne reading hvalid t d1Locked =>
      have hlog : (record m src s arrive mod
          (s.mod.udp.doorUdpUpdate t (readingOpen reading) false false d1Locked).2
          (some reading)).unfounded = s.unfounded :=
        if_neg fun heq => hvalid (Option.some.inj heq)
      refine ⟨h.updated src hm hudp rfl fun _ _ => (if_neg hvalid).symm, ?_⟩
      rw [hlog]
      exact ⟨fun hc => ⟨hc, hsound hne⟩, fun hc => hc.1⟩
  | failed t d1Locked =>
      have hlog : (record m src s arrive mod
          (s.mod.udp.doorUdpUpdate t false false false d1Locked).2 (some (-1))).unfounded
          = s.unfounded
            ++ (s.mod.udp.doorUdpUpdate t false false false d1Locked).2.filter (saysClosed m) :=
        rfl
      have hfounded : Founded s ⟨.heartbeat (-1) t, arrive⟩ ↔
          (s.mod.udp.sockOpen = true →
            s.mod.udp.held = some false ∧ s.mod.udp.heartbeatDue t = false) := by
        constructor
        · exact fun hf => hf t rfl
        · rintro hf t' heq
          cases heq
          exact hf
      rw [hlog, List.append_eq_nil_iff, saysClosed_update hm h, ← hfounded]
      refine ⟨h.updated src hm hudp rfl fun hc hopen => ?_, Iff.rfl⟩
      rw [hlog] at hc
      obtain ⟨hold, hnew⟩ := List.append_eq_nil_iff.mp hc
      have hheld := (saysClosed_update hm h t d1Locked).mp hnew hopen
      exact hheld.1.symm.trans (h.held hold hopen)

theorem inv_start (hm : IsModuleId m) {d : Fin hubMaxDoors} {hub : Hub}
    (hd : hub.findDoor m = some d) (heartbeatMs t now : Int) (ok : Bool)
    (pos : Fin stepsPerRev) (arrive : DoorSend → Int) :
    Inv (m := m) d (start m src heartbeatMs t now ok pos arrive hub) := by
  have hid : (snprintf 16 m).text = m := snprintf_text hm.short
  cases ok with
  | false => exact ⟨hid, rfl, hd, nofun, fun _ => rfl, fun _ => nofun⟩
  | true =>
      have hlines : ([⟨.notif, HomeSecurity.reportBuf (snprintf 16 m).text .hello⟩]
          : List DoorSend).map DoorSend.line = [Report.hello].map (reportBuf m) := by
        rw [hid]
        rfl
      have hfind := (Hub.receive_reports hm src arrive hlines hd).1
      exact ⟨hid, rfl, hfind, nofun, nofun, fun _ _ => rfl⟩

/-- A run reports no failed reading as a closed door, and leaves door and hub
with what the last valid reading gave, exactly when every heartbeat iteration
whose reading fails finds a closed door held and no heartbeat due. -/
theorem sensorFailure_iff (hm : IsModuleId m) {hub : Hub} {d : Fin hubMaxDoors}
    (htrack : hub.Tracks d m) {heartbeatMs t now : Int} {ok : Bool} {pos : Fin stepsPerRev}
    {arrive : DoorSend → Int} {ls : List Label} {s : State}
    (hr : Lts.run (step m src) (start m src heartbeatMs t now ok pos arrive hub) ls = some s) :
    Truthful m s ↔
      Lts.Along (step m src) Founded (start m src heartbeatMs t now ok pos arrive hub) ls := by
  obtain ⟨d', hd⟩ := Hub.findDoor_of_tracks htrack
  have hstep : ∀ s l s', Inv (m := m) d' s → step m src s l = some s' →
      Inv (m := m) d' s' ∧ (s'.unfounded = [] ↔ s.unfounded = [] ∧ Founded s l) := by
    intro s l s' h hs
    rw [step] at hs
    cases hs
    exact inv_record src hm h l.arrive (act_acts s.mod l.action)
  have hstart := inv_start src hm hd heartbeatMs t now ok pos arrive
  have hinv := Lts.inv_run_of_step (fun s l s' h hs => (hstep s l s' h hs).1) hstart hr
  have hclean := Lts.clean_iff_along (fun s l s' h hs => (hstep s l s' h hs).1)
    (fun s l s' h hs => (hstep s l s' h hs).2) hstart hr
  constructor
  · exact fun htruth => (hclean.mp htruth.founded).2
  · intro halong
    have hfounded : s.unfounded = [] := hclean.mpr ⟨rfl, halong⟩
    refine ⟨hfounded, hinv.held hfounded, fun hopen o ho => ?_⟩
    have hheld := hinv.held hfounded hopen
    rw [ho, DoorUdp.held] at hheld
    split at hheld
    · rename_i hvalid
      have hshow : (s.hub.doors d').d0Open = s.mod.udp.prevD0Open :=
        congrFun (hinv.shown hvalid) .door
      rw [Hub.hubUdpGetStatus_of_find hinv.find, Option.map_some, hshow]
      exact hheld
    · cases hheld

/-- What a finished run is judged by. -/
def outcome (s : State) : Nat × Option Bool × Option Bool × Option Bool :=
  (s.unfounded.length, s.mod.udp.held, s.lastValid,
    (s.hub.hubUdpGetStatus "D1".toList).map (·.d0Open))

/-- The door is closed, the sensor fails once in between heartbeats, and then
the door opens. -/
theorem sensorFailure_betweenHeartbeats : ∃ s, Lts.run (step "D1".toList ⟨1, 40000⟩)
    (start "D1".toList ⟨1, 40000⟩ 1000 0 0 true 0 (fun _ => 0) .greeted)
    [⟨.heartbeat 4 1000, fun _ => 1000⟩, ⟨.heartbeat (-1) 1900, fun _ => 1900⟩,
      ⟨.heartbeat 55 2900, fun _ => 2900⟩] = some s ∧ Truthful "D1".toList s := by
  obtain ⟨s, hs⟩ : ∃ s, Lts.run (step "D1".toList ⟨1, 40000⟩)
      (start "D1".toList ⟨1, 40000⟩ 1000 0 0 true 0 (fun _ => 0) .greeted)
      [⟨.heartbeat 4 1000, fun _ => 1000⟩, ⟨.heartbeat (-1) 1900, fun _ => 1900⟩,
        ⟨.heartbeat 55 2900, fun _ => 2900⟩] = some s := ⟨_, rfl⟩
  refine ⟨s, hs, (sensorFailure_iff _ isModuleId_D1 Hub.greeted_tracks hs).mpr ?_⟩
  refine ⟨by rintro t ⟨⟩, fun s hs => ⟨?_, fun s' _ => ⟨by rintro t ⟨⟩, fun _ _ => trivial⟩⟩⟩
  obtain rfl := Option.some.inj hs
  rintro t ⟨⟩ -
  exact ⟨rfl, rfl⟩

/-- The door stands open, the sensor fails, and the door is reported closed. -/
theorem sensorFailure_open :
    ¬∀ (m : Text) (src : SockAddr) (hub : Hub) (d : Fin hubMaxDoors)
      (heartbeatMs t now : Int) (pos : Fin stepsPerRev) (arrive : DoorSend → Int)
      (ls : List Label) (s : State), IsModuleId m → hub.Tracks d m →
      Lts.run (step m src) (start m src heartbeatMs t now true pos arrive hub) ls = some s →
      Truthful m s := by
  intro hall
  have hrun : (Lts.run (step "D1".toList ⟨1, 40000⟩)
      (start "D1".toList ⟨1, 40000⟩ 1000 0 0 true 0 (fun _ => 0) .greeted)
      [⟨.heartbeat 55 1000, fun _ => 1000⟩, ⟨.heartbeat (-1) 1900, fun _ => 1900⟩]).map outcome
      = some (1, some false, some true, some false) := by
    decide +kernel
  obtain ⟨s, hs, hobs⟩ := Option.map_eq_some_iff.mp hrun
  have htruth := hall _ _ _ 0 _ _ _ _ _ _ s isModuleId_D1 Hub.greeted_tracks hs
  have hlen : s.unfounded.length = 1 := congrArg Prod.fst hobs
  rw [htruth.founded] at hlen
  cases hlen

end Reporting

end HomeSecurity
