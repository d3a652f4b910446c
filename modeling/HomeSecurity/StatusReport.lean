import HomeSecurity.DoorMod
import HomeSecurity.DoorServer
import HomeSecurity.HubReports
import HomeSecurity.WebControl

/-!
# Two ways to ask for the state

A door's state reaches a dashboard as the answer to STATUS, one of four words,
and the hub as a heartbeat, two flags. `statusAgrees` compares them, for one
reading and one motor position: the word LOCKED stands for a closed door
whatever was measured, and the word OPEN says nothing about the lock.
-/

namespace HomeSecurity

open CText StepperMotor

/-! ## The answer to STATUS -/

/-- The entry of a web client after the two messages that a STATUS answer of the
door causes at the web server. -/
def DoorEntry.answered (prev : DoorEntry) (action : Text) : DoorEntry :=
  (prev.onDoorFeedback (formattedAction action)).onCommandFeedback action

/-- What a dashboard makes of each of the four words. -/
def DoorEntry.shows (prev : DoorEntry) : DoorState → DoorEntry
  | .locked => ⟨some false, some true⟩
  | .unlocked => ⟨some false, some false⟩
  | .opened => ⟨some true, prev.lockLocked⟩
  | .unknown => ⟨none, none⟩

theorem answered_status (prev : DoorEntry) (d : Door) :
    prev.answered (DoorMod.outAction "STATUS".toList d) = prev.shows d.state := by
  obtain ⟨state, id⟩ := d
  have haction : DoorMod.outAction "STATUS".toList ⟨state, id⟩
      = (snprintf 32 ("STATUS_".toList ++ stateStr state)).text := if_pos rfl
  rw [haction]
  cases state with
  | locked => rfl
  | unlocked => rfl
  | opened => rfl
  | unknown => rfl

/-- The state word for a valid reading. -/
theorem getDoorStatus_state (s : DoorMod) (door : Door) {env : Env} (hd : 0 ≤ env.distance) :
    (s.getDoorStatus door env).door.state
      = if getPosition s.position = stepperLockedPosition then .locked
        else if env.distance < doorClosedThresholdCm then .unlocked
        else .opened := by
  have hvalid : env.distance ≠ -1 := by omega
  unfold DoorMod.getDoorStatus
  by_cases hlocked : getPosition s.position = stepperLockedPosition
  · rw [if_pos hlocked, if_pos hlocked]
    rfl
  · rw [if_neg hlocked, if_neg hlocked]
    by_cases hclosed : env.distance < doorClosedThresholdCm
    · have hcond := And.intro hclosed hvalid
      rw [if_pos hcond, if_pos hclosed]
      rfl
    · rw [if_neg fun h => hclosed h.1, if_neg hclosed, if_neg hvalid,
        if_pos (Int.not_lt.mp hclosed)]
      rfl

theorem statusCommand_answered {s : DoorMod} {cmd : DoorUdp.CmdCall} {env : Env}
    (hcmd : cmd.action = "STATUS".toList) (hd : 0 ≤ env.distance) (prev : DoorEntry) :
    prev.answered (s.appCommandHandler cmd env).feedback.action
      = prev.shows (if getPosition s.position = stepperLockedPosition then .locked
          else if env.distance < doorClosedThresholdCm then .unlocked
          else .opened) := by
  have hcall : s.handlerCall cmd.action env = s.getDoorStatus ⟨.unknown, 0⟩ env := by
    rw [hcmd]
    rfl
  rw [← getDoorStatus_state s ⟨.unknown, 0⟩ hd, ← hcall, ← answered_status, ← hcmd]
  rfl

/-! ## The heartbeat -/

/-- A heartbeat leaves the hub with what was read and where the bolt is. -/
theorem heartbeat_received {s : DoorMod} {distance t : Int} {send : DoorSend} {h : Hub}
    {e : Fin hubMaxDoors} (hm : IsModuleId s.udp.moduleId.text)
    (hsend : send ∈ (s.heartbeatWorker distance t).2) (hport : send.port = .hb)
    (he : h.findDoor s.udp.moduleId.text = some e) (src : SockAddr) (arrive : DoorSend → Int) :
    ((Hub.receive src arrive h send).doors e).d0Open = decide (distance ≥ doorClosedThresholdCm)
      ∧ ((Hub.receive src arrive h send).doors e).d1Locked
        = decide (getPosition s.position = stepperLockedPosition) := by
  have hline := DoorUdp.doorUdpUpdate_heartbeat hsend hport
  have hview := (Hub.handleLine_reportBuf hm he (.heartbeat
    (decide (distance ≥ doorClosedThresholdCm))
    (decide (getPosition s.position = stepperLockedPosition))) src (arrive send) (arrive send)).2
  rw [← DoorUdp.reportBuf, ← hline] at hview
  exact ⟨congrFun hview .door, congrFun hview .lock⟩

/-! ## Side by side -/

/-- For a valid reading, the dashboard after a STATUS answer shows what the hub
shows after a heartbeat, except that with the bolt out it shows a closed door,
and that it keeps its old lock state for a door open with the bolt not out. -/
theorem statusAgrees {s : DoorMod} {cmd : DoorUdp.CmdCall} {env : Env} {t : Int}
    {send : DoorSend} {h : Hub} {e : Fin hubMaxDoors} (hm : IsModuleId s.udp.moduleId.text)
    (hcmd : cmd.action = "STATUS".toList) (hd : 0 ≤ env.distance)
    (hsend : send ∈ (s.heartbeatWorker env.distance t).2) (hport : send.port = .hb)
    (he : h.findDoor s.udp.moduleId.text = some e) (src : SockAddr) (arrive : DoorSend → Int)
    (prev : DoorEntry) :
    (prev.answered (s.appCommandHandler cmd env).feedback.action).doorOpen
        = (if getPosition s.position = stepperLockedPosition then some false
          else some ((Hub.receive src arrive h send).doors e).d0Open)
      ∧ (prev.answered (s.appCommandHandler cmd env).feedback.action).lockLocked
        = (if env.distance ≥ doorClosedThresholdCm ∧ getPosition s.position ≠ stepperLockedPosition
          then prev.lockLocked
          else some ((Hub.receive src arrive h send).doors e).d1Locked) := by
  obtain ⟨hopen, hlocked⟩ := heartbeat_received hm hsend hport he src arrive
  rw [statusCommand_answered hcmd hd, hopen, hlocked]
  by_cases hpos : getPosition s.position = stepperLockedPosition
  · simp [hpos, DoorEntry.shows]
  · by_cases hclosed : env.distance < doorClosedThresholdCm
    · have hnot : ¬env.distance ≥ doorClosedThresholdCm := Int.not_le.mpr hclosed
      simp [hpos, hclosed, hnot, DoorEntry.shows]
    · have hge : env.distance ≥ doorClosedThresholdCm := Int.not_lt.mp hclosed
      simp [hpos, hclosed, hge, DoorEntry.shows]

/-- `D1` with the motor at `pos`, reporting for the first time. -/
def startedDoor (pos : Fin stepsPerRev) : DoorMod :=
  ((DoorMod.initial pos).doorReportingStart "D1".toList 1000 0 0 true).1

def statusCommand : DoorUdp.CmdCall := ⟨"D1".toList, 1, "D0".toList, "STATUS".toList⟩

def reading (distance : Int) : Env := ⟨[], distance, distance, fun _ _ => true, 10, 10⟩

/-- The heartbeat of the first update. -/
def firstHeartbeat (pos : Fin stepsPerRev) (distance : Int) : DoorSend :=
  ⟨.hb, (startedDoor pos).udp.reportBuf (.heartbeat
    (decide (distance ≥ doorClosedThresholdCm))
    (decide (getPosition pos = stepperLockedPosition)))⟩

theorem firstHeartbeat_sent (pos : Fin stepsPerRev) (distance t : Int) :
    firstHeartbeat pos distance ∈ ((startedDoor pos).heartbeatWorker distance t).2 := by
  unfold DoorMod.heartbeatWorker
  dsimp only
  rw [DoorUdp.doorUdpUpdate_first t _ _ _ _ rfl rfl]
  exact List.mem_singleton_self _

theorem startedDoor_isModuleId (pos : Fin stepsPerRev) :
    IsModuleId (startedDoor pos).udp.moduleId.text := isModuleId_D1

theorem statusAgrees_unlocked :
    ((⟨none, none⟩ : DoorEntry).answered
        ((startedDoor 0).appCommandHandler statusCommand (reading 5)).feedback.action).doorOpen
        = some ((Hub.receive ⟨1, 40000⟩ (fun _ => 20) Hub.greeted
          (firstHeartbeat 0 5)).doors 0).d0Open
      ∧ ((⟨none, none⟩ : DoorEntry).answered
        ((startedDoor 0).appCommandHandler statusCommand (reading 5)).feedback.action).lockLocked
        = some ((Hub.receive ⟨1, 40000⟩ (fun _ => 20) Hub.greeted
          (firstHeartbeat 0 5)).doors 0).d1Locked := by
  have hfind : Hub.greeted.findDoor "D1".toList = some 0 := by decide +kernel
  have hcmd : statusCommand.action = "STATUS".toList := rfl
  have hd : 0 ≤ (reading 5).distance := by decide
  obtain ⟨hopen, hlocked⟩ := statusAgrees (startedDoor_isModuleId 0) hcmd hd
    (firstHeartbeat_sent 0 5 10) rfl hfind ⟨1, 40000⟩ (fun _ => 20) ⟨none, none⟩
  rw [if_neg (by decide)] at hopen hlocked
  exact ⟨hopen, hlocked⟩

/-- The bolt is out and the door measured open: closed on the dashboard, open at
the hub. -/
theorem statusAgrees_forced :
    ¬∀ (s : DoorMod) (cmd : DoorUdp.CmdCall) (env : Env) (t : Int) (send : DoorSend) (h : Hub)
        (e : Fin hubMaxDoors) (src : SockAddr) (arrive : DoorSend → Int) (prev : DoorEntry),
      IsModuleId s.udp.moduleId.text → cmd.action = "STATUS".toList → 0 ≤ env.distance →
      send ∈ (s.heartbeatWorker env.distance t).2 → send.port = .hb →
      h.findDoor s.udp.moduleId.text = some e →
      (prev.answered (s.appCommandHandler cmd env).feedback.action).doorOpen
          = some ((Hub.receive src arrive h send).doors e).d0Open
        ∧ (prev.answered (s.appCommandHandler cmd env).feedback.action).lockLocked
          = some ((Hub.receive src arrive h send).doors e).d1Locked := by
  intro hall
  have hfind : Hub.greeted.findDoor "D1".toList = some 0 := by decide +kernel
  have hsame := (hall (startedDoor 2048) statusCommand (reading 50) 10 (firstHeartbeat 2048 50)
    Hub.greeted 0 ⟨1, 40000⟩ (fun _ => 20) ⟨none, none⟩ (startedDoor_isModuleId 2048) rfl
    (by decide) (firstHeartbeat_sent 2048 50 10) rfl hfind).1
  have hopen := (heartbeat_received (startedDoor_isModuleId 2048) (firstHeartbeat_sent 2048 50 10)
    rfl hfind ⟨1, 40000⟩ fun _ => 20).1
  rw [hopen, statusCommand_answered rfl (by decide)] at hsame
  revert hsame
  decide

end HomeSecurity
