import HomeSecurity.Wire

/-!
# The door's transport

`door_udp.c`: what a door module keeps between calls, the datagrams each call
sends - on the notification port or on the heartbeat port of the hub - and
which lines the command listener passes on to the registered handler.

`doorUdpUpdate` is specified by `doorUdpUpdate_of_closed`, `_first` and
`_later`; what it leaves alone is in `doorUdpUpdate_config`.
-/

namespace HomeSecurity

open CText

/-- The two bits of `DoorReportMode`. -/
structure DoorReportMode where
  notification : Bool
  heartbeat : Bool
deriving DecidableEq

/-- `DOOR_REPORT_NOTIFICATION | DOOR_REPORT_HEARTBEAT`. -/
def DoorReportMode.both : DoorReportMode := ⟨true, true⟩

structure DoorUdp where
  /-- `g_sock >= 0`. -/
  sockOpen : Bool
  moduleId : CBuf 16
  mode : DoorReportMode
  heartbeatPeriodMs : Int
  prevValid : Bool
  prevD0Open : Bool
  prevD0Locked : Bool
  prevD1Open : Bool
  prevD1Locked : Bool
  lastHeartbeatMs : Int
  /-- `g_cmd_handler != NULL`. -/
  hasCmdHandler : Bool

/-- Which of the hub's two ports a datagram goes to. -/
inductive HubPort where
  | notif
  | hb
deriving DecidableEq

structure DoorSend where
  port : HubPort
  line : CBuf 256
deriving DecidableEq

namespace DoorUdp

/-- The static initial values. -/
def static : DoorUdp where
  sockOpen := false
  moduleId := ⟨"M?".toList, by decide⟩
  mode := ⟨true, false⟩
  heartbeatPeriodMs := 1000
  prevValid := false
  prevD0Open := false
  prevD0Locked := false
  prevD1Open := false
  prevD1Locked := false
  lastHeartbeatMs := 0
  hasCmdHandler := false

def doorUdpRegisterCommandHandler (s : DoorUdp) : DoorUdp := { s with hasCmdHandler := true }

def sendLineNotif (s : DoorUdp) (line : CBuf 256) : List DoorSend :=
  if s.sockOpen then [⟨.notif, line⟩] else []

def sendLineHb (s : DoorUdp) (line : CBuf 256) : List DoorSend :=
  if s.sockOpen then [⟨.hb, line⟩] else []

def reportBuf (s : DoorUdp) (r : Report) : CBuf 256 :=
  HomeSecurity.reportBuf s.moduleId.text r

/-- `door_udp_init2` with two different ports; `ok` says whether `socket`,
`inet_pton` and `bind` succeed. -/
def doorUdpInit2 (s : DoorUdp) (moduleId : Text) (mode : DoorReportMode)
    (heartbeatPeriodMs : Int) (now : Int) (ok : Bool) : DoorUdp × List DoorSend :=
  let s := { s with
    moduleId := snprintf 16 moduleId
    mode := mode
    heartbeatPeriodMs := if heartbeatPeriodMs > 0 then heartbeatPeriodMs else 1000
    prevValid := false
    lastHeartbeatMs := now }
  if ok then
    let s := { s with sockOpen := true }
    (s, s.sendLineNotif (s.reportBuf .hello))
  else (s, [])

/-- `door_udp_close`. -/
def doorUdpClose (s : DoorUdp) : DoorUdp := { s with sockOpen := false, prevValid := false }

/-- `door_udp_update`; `t` is its `now_ms()`. -/
def doorUdpUpdate (s : DoorUdp) (t : Int) (d0Open d0Locked d1Open d1Locked : Bool) :
    DoorUdp × List DoorSend :=
  if !s.sockOpen then (s, [])
  else
    let saved := { s with
      prevD0Open := d0Open
      prevD0Locked := d0Locked
      prevD1Open := d1Open
      prevD1Locked := d1Locked }
    if !s.prevValid then
      ({ saved with prevValid := true, lastHeartbeatMs := t },
        if s.mode.heartbeat then s.sendLineHb (s.reportBuf (.heartbeat d0Open d1Locked))
        else [])
    else
      let doorEvents :=
        if s.mode.notification && d0Open != s.prevD0Open then
          s.sendLineNotif (s.reportBuf (.doorEvent d0Open))
        else []
      let lockEvents :=
        if s.mode.notification && d1Locked != s.prevD1Locked then
          s.sendLineNotif (s.reportBuf (.lockEvent d1Locked))
        else []
      if s.mode.heartbeat && decide (t - s.lastHeartbeatMs ≥ s.heartbeatPeriodMs) then
        ({ saved with lastHeartbeatMs := t },
          doorEvents ++ lockEvents
            ++ s.sendLineHb (s.reportBuf (.heartbeat d0Open d1Locked)))
      else (saved, doorEvents ++ lockEvents)

/-- `door_udp_send_feedback`. -/
def doorUdpSendFeedback (s : DoorUdp) (module : Text) (cmdid : Int) (target action : Text) :
    List DoorSend :=
  s.sendLineNotif (snprintf 256 (feedbackLine module cmdid target action))

/-- The arguments of a call of the registered `DoorCmdHandler`. -/
structure CmdCall where
  module : Text
  cmdid : Int
  target : Text
  action : Text
deriving DecidableEq

/-- What `door_cmd_thread` does with one received datagram: call the handler,
or answer by itself when none is registered. -/
def doorCmdThread (s : DoorUdp) (bytes : Text) : Option CmdCall × List DoorSend :=
  match strtok isDelim (cstr (bytes.take 255)) with
  | mod :: type :: cmdidS :: target :: action :: _ =>
      if type ≠ "COMMAND".toList then (none, [])
      else if mod ≠ s.moduleId.text then (none, [])
      else if s.hasCmdHandler then (some ⟨mod, atoi cmdidS, target, action⟩, [])
      else
        (none, s.sendLineNotif
          (snprintf 256 (feedbackLine s.moduleId.text (atoi cmdidS) target action)))
  | _ => (none, [])

/-! ## `door_udp_update` case by case -/

/-- Whether a later update sends a heartbeat. -/
def heartbeatDue (s : DoorUdp) (t : Int) : Bool :=
  s.mode.heartbeat && decide (t - s.lastHeartbeatMs ≥ s.heartbeatPeriodMs)

section Update

variable {s : DoorUdp} (t : Int) (d0Open d0Locked d1Open d1Locked : Bool)

theorem doorUdpUpdate_of_closed (hsock : s.sockOpen = false) :
    s.doorUdpUpdate t d0Open d0Locked d1Open d1Locked = (s, []) := by
  rw [doorUdpUpdate, hsock]
  rfl

/-- The first update: it is remembered, and goes out as a heartbeat. -/
theorem doorUdpUpdate_first (hsock : s.sockOpen = true) (hprev : s.prevValid = false) :
    s.doorUdpUpdate t d0Open d0Locked d1Open d1Locked
      = ({ s with
            prevValid := true, prevD0Open := d0Open, prevD0Locked := d0Locked
            prevD1Open := d1Open, prevD1Locked := d1Locked, lastHeartbeatMs := t },
          if s.mode.heartbeat then [⟨.hb, s.reportBuf (.heartbeat d0Open d1Locked)⟩]
          else []) := by
  simp only [doorUdpUpdate, hsock, hprev, sendLineHb]
  rfl

/-- A later update: an EVENT for each of the two values that changed, and a
heartbeat when one is due. -/
theorem doorUdpUpdate_later (hsock : s.sockOpen = true) (hprev : s.prevValid = true) :
    s.doorUdpUpdate t d0Open d0Locked d1Open d1Locked
      = ({ s with
            prevD0Open := d0Open, prevD0Locked := d0Locked
            prevD1Open := d1Open, prevD1Locked := d1Locked
            lastHeartbeatMs := if s.heartbeatDue t then t else s.lastHeartbeatMs },
          (if s.mode.notification && d0Open != s.prevD0Open then
              [⟨.notif, s.reportBuf (.doorEvent d0Open)⟩] else [])
            ++ (if s.mode.notification && d1Locked != s.prevD1Locked then
              [⟨.notif, s.reportBuf (.lockEvent d1Locked)⟩] else [])
            ++ (if s.heartbeatDue t then
              [⟨.hb, s.reportBuf (.heartbeat d0Open d1Locked)⟩] else [])) := by
  cases hdue : s.heartbeatDue t with
  | false =>
      rw [heartbeatDue] at hdue
      simp [doorUdpUpdate, hsock, hprev, sendLineNotif, hdue]
  | true =>
      rw [heartbeatDue] at hdue
      simp [doorUdpUpdate, hsock, hprev, sendLineNotif, sendLineHb, hdue]

/-- What no update changes. -/
theorem doorUdpUpdate_config :
    (s.doorUdpUpdate t d0Open d0Locked d1Open d1Locked).1.sockOpen = s.sockOpen
      ∧ (s.doorUdpUpdate t d0Open d0Locked d1Open d1Locked).1.moduleId = s.moduleId
      ∧ (s.doorUdpUpdate t d0Open d0Locked d1Open d1Locked).1.mode = s.mode
      ∧ (s.doorUdpUpdate t d0Open d0Locked d1Open d1Locked).1.hasCmdHandler
          = s.hasCmdHandler := by
  cases hsock : s.sockOpen with
  | false =>
      rw [doorUdpUpdate_of_closed t _ _ _ _ hsock]
      exact ⟨hsock, rfl, rfl, rfl⟩
  | true =>
      cases hprev : s.prevValid with
      | false =>
          rw [doorUdpUpdate_first t _ _ _ _ hsock hprev]
          exact ⟨hsock, rfl, rfl, rfl⟩
      | true =>
          rw [doorUdpUpdate_later t _ _ _ _ hsock hprev]
          exact ⟨hsock, rfl, rfl, rfl⟩

end Update

/-! ## The reports of an update -/

/-- What an update reports, in sending order. -/
def reports (s : DoorUdp) (t : Int) (d0Open d1Locked : Bool) : List Report :=
  if !s.sockOpen then []
  else if !s.prevValid then
    if s.mode.heartbeat then [.heartbeat d0Open d1Locked] else []
  else
    (if s.mode.notification && d0Open != s.prevD0Open then [.doorEvent d0Open] else [])
      ++ (if s.mode.notification && d1Locked != s.prevD1Locked then [.lockEvent d1Locked] else [])
      ++ (if s.heartbeatDue t then [.heartbeat d0Open d1Locked] else [])

theorem doorUdpUpdate_lines (s : DoorUdp) (t : Int) (d0Open d0Locked d1Open d1Locked : Bool) :
    (s.doorUdpUpdate t d0Open d0Locked d1Open d1Locked).2.map DoorSend.line
      = (s.reports t d0Open d1Locked).map s.reportBuf := by
  cases hsock : s.sockOpen with
  | false =>
      rw [doorUdpUpdate_of_closed t _ _ _ _ hsock, reports, hsock]
      rfl
  | true =>
      cases hprev : s.prevValid with
      | false =>
          rw [doorUdpUpdate_first t _ _ _ _ hsock hprev, reports, hsock, hprev]
          cases s.mode.heartbeat <;> rfl
      | true =>
          rw [doorUdpUpdate_later t _ _ _ _ hsock hprev, reports, hsock, hprev]
          cases s.mode.notification && d0Open != s.prevD0Open <;>
            cases s.mode.notification && d1Locked != s.prevD1Locked <;>
            cases s.heartbeatDue t <;> rfl

theorem doorUdpUpdate_lines_of {s : DoorUdp} {m : Text} (hid : s.moduleId.text = m) (t : Int)
    (d0Open d0Locked d1Open d1Locked : Bool) :
    (s.doorUdpUpdate t d0Open d0Locked d1Open d1Locked).2.map DoorSend.line
      = (s.reports t d0Open d1Locked).map (HomeSecurity.reportBuf m) := by
  subst hid
  exact s.doorUdpUpdate_lines ..

/-- The heartbeats of an update. -/
theorem doorUdpUpdate_heartbeat {s : DoorUdp} {t : Int} {d0Open d0Locked d1Open d1Locked : Bool}
    {send : DoorSend} (hsend : send ∈ (s.doorUdpUpdate t d0Open d0Locked d1Open d1Locked).2)
    (hport : send.port = .hb) : send.line = s.reportBuf (.heartbeat d0Open d1Locked) := by
  cases hsock : s.sockOpen with
  | false =>
      rw [doorUdpUpdate_of_closed t _ _ _ _ hsock] at hsend
      cases hsend
  | true =>
      cases hprev : s.prevValid with
      | false =>
          rw [doorUdpUpdate_first t _ _ _ _ hsock hprev] at hsend
          dsimp only at hsend
          split at hsend
          · rw [List.mem_singleton.mp hsend]
          · cases hsend
      | true =>
          rw [doorUdpUpdate_later t _ _ _ _ hsock hprev] at hsend
          rcases List.mem_append.mp hsend with hsend | hsend
          · -- EVENTs go to the other port
            rcases List.mem_append.mp hsend with hsend | hsend
            · split at hsend
              · rw [List.mem_singleton.mp hsend] at hport
                cases hport
              · cases hsend
            · split at hsend
              · rw [List.mem_singleton.mp hsend] at hport
                cases hport
              · cases hsend
          · split at hsend
            · rw [List.mem_singleton.mp hsend]
            · cases hsend

/-- Whether an update sends a heartbeat. -/
def beats (s : DoorUdp) (t : Int) : Bool :=
  s.sockOpen && s.mode.heartbeat
    && (!s.prevValid || decide (t - s.lastHeartbeatMs ≥ s.heartbeatPeriodMs))

/-- Whether an update sends a DOOR EVENT. -/
def notifiesDoor (s : DoorUdp) (d0Open : Bool) : Bool :=
  s.sockOpen && s.prevValid && s.mode.notification && d0Open != s.prevD0Open

/-- Whether an update sends a LOCK EVENT. -/
def notifiesLock (s : DoorUdp) (d1Locked : Bool) : Bool :=
  s.sockOpen && s.prevValid && s.mode.notification && d1Locked != s.prevD1Locked

theorem reports_eq (s : DoorUdp) (t : Int) (d0Open d1Locked : Bool) :
    s.reports t d0Open d1Locked
      = (if s.notifiesDoor d0Open then [.doorEvent d0Open] else [])
        ++ (if s.notifiesLock d1Locked then [.lockEvent d1Locked] else [])
        ++ (if s.beats t then [.heartbeat d0Open d1Locked] else []) := by
  cases hsock : s.sockOpen with
  | false => simp [reports, notifiesDoor, notifiesLock, beats, hsock]
  | true =>
      cases hprev : s.prevValid with
      | false => simp [reports, notifiesDoor, notifiesLock, beats, hsock, hprev]
      | true => simp [reports, notifiesDoor, notifiesLock, beats, heartbeatDue, hsock, hprev]

/-- With the socket open, an update is remembered whatever it reports. -/
theorem doorUdpUpdate_prev {s : DoorUdp} (hsock : s.sockOpen = true) (t : Int)
    (d0Open d0Locked d1Open d1Locked : Bool) :
    (s.doorUdpUpdate t d0Open d0Locked d1Open d1Locked).1.prevValid = true
      ∧ (s.doorUdpUpdate t d0Open d0Locked d1Open d1Locked).1.prevD0Open = d0Open
      ∧ (s.doorUdpUpdate t d0Open d0Locked d1Open d1Locked).1.prevD1Locked = d1Locked := by
  cases hprev : s.prevValid with
  | false =>
      rw [doorUdpUpdate_first t _ _ _ _ hsock hprev]
      exact ⟨rfl, rfl, rfl⟩
  | true =>
      rw [doorUdpUpdate_later t _ _ _ _ hsock hprev]
      exact ⟨hprev, rfl, rfl⟩

/-- What calls of the application do to the transport: nothing, or one update. -/
def Updated (s : DoorUdp) (r : DoorUdp × List DoorSend) : Prop :=
  r = (s, []) ∨ ∃ t d0Open d1Locked, r = s.doorUdpUpdate t d0Open false false d1Locked

theorem Updated.config {s : DoorUdp} {r : DoorUdp × List DoorSend} (h : s.Updated r) :
    r.1.sockOpen = s.sockOpen ∧ r.1.moduleId = s.moduleId ∧ r.1.mode = s.mode
      ∧ r.1.hasCmdHandler = s.hasCmdHandler := by
  rcases h with rfl | ⟨t, d0Open, d1Locked, rfl⟩
  · exact ⟨rfl, rfl, rfl, rfl⟩
  · exact s.doorUdpUpdate_config ..

theorem Updated.lines {s : DoorUdp} {r : DoorUdp × List DoorSend} (h : s.Updated r) :
    ∀ send ∈ r.2, ∃ rep, send.line = s.reportBuf rep := by
  intro send hmem
  rcases h with rfl | ⟨t, d0Open, d1Locked, rfl⟩
  · cases hmem
  · have hline := List.mem_map_of_mem (f := DoorSend.line) hmem
    rw [doorUdpUpdate_lines] at hline
    obtain ⟨rep, -, heq⟩ := List.mem_map.mp hline
    exact ⟨rep, heq.symm⟩

/-! ## What the listener acts on -/

/-- The handler is called for exactly the COMMAND lines that name this module
and have all five words. -/
theorem doorCmdThread_eq_some_iff {s : DoorUdp} {bytes : Text} {call : CmdCall} :
    (s.doorCmdThread bytes).1 = some call ↔
      s.hasCmdHandler = true ∧ ∃ cmdidS rest,
        strtok isDelim (cstr (bytes.take 255))
          = s.moduleId.text :: "COMMAND".toList :: cmdidS :: call.target :: call.action :: rest
        ∧ call.module = s.moduleId.text ∧ call.cmdid = atoi cmdidS := by
  constructor
  · intro h
    unfold doorCmdThread at h
    split at h
    · rename_i mod type cmdidS target action rest htok
      split at h
      · cases h
      rename_i htype
      split at h
      · cases h
      rename_i hmod
      split at h
      · rename_i hhandler
        cases h
        obtain rfl := not_not.mp htype
        obtain rfl := not_not.mp hmod
        exact ⟨hhandler, cmdidS, rest, htok, rfl, rfl⟩
      · cases h
    · cases h
  · rintro ⟨hhandler, cmdidS, rest, htok, hmod, hid⟩
    obtain ⟨m, c, target, action⟩ := call
    dsimp only at htok hmod hid
    subst hmod hid
    rw [doorCmdThread, htok]
    simp [hhandler]

/-- A datagram that is a call is answered by nobody else. -/
theorem doorCmdThread_of_call {s : DoorUdp} {bytes : Text} {call : CmdCall}
    (h : (s.doorCmdThread bytes).1 = some call) : s.doorCmdThread bytes = (some call, []) := by
  obtain ⟨hhandler, cmdidS, rest, htok, hmod, hid⟩ := doorCmdThread_eq_some_iff.mp h
  obtain ⟨m, c, target, action⟩ := call
  dsimp only at htok hmod hid
  subst hmod hid
  rw [doorCmdThread, htok]
  simp [hhandler]

/-- The round trip of a command: the handler is called with what was sent. -/
theorem doorCmdThread_commandLine {s : DoorUdp} (hhandler : s.hasCmdHandler = true)
    (hm : IsToken s.moduleId.text) {target action : Text} (htarget : IsToken target)
    (haction : IsToken action) {c : Int} (hlo : -(2 ^ 31) ≤ c) (hhi : c < 2 ^ 31)
    (hfits : (commandLine s.moduleId.text c target action).length ≤ 255) :
    (s.doorCmdThread (commandLine s.moduleId.text c target action)).1
      = some ⟨s.moduleId.text, c, target, action⟩ := by
  rw [doorCmdThread_eq_some_iff]
  refine ⟨hhandler, decimal c, [], ?_, rfl, (atoi_decimal hlo hhi).symm⟩
  exact wireTokens_commandLine hm htarget haction hfits

/-- Without a handler the listener answers by itself. -/
theorem doorCmdThread_sends (s : DoorUdp) (bytes : Text) :
    ∀ send ∈ (s.doorCmdThread bytes).2, ∃ c target action,
      send.line = snprintf 256 (feedbackLine s.moduleId.text c target action) := by
  intro send hmem
  unfold doorCmdThread at hmem
  split at hmem
  · split at hmem
    · cases hmem
    · split at hmem
      · cases hmem
      · split at hmem
        · cases hmem
        · dsimp only [sendLineNotif] at hmem
          split at hmem
          · rw [List.mem_singleton.mp hmem]
            exact ⟨_, _, _, rfl⟩
          · cases hmem
  · cases hmem

/-- A FEEDBACK that is sent is sent on the notification port, clipped to its
buffer. -/
theorem doorUdpSendFeedback_line {s : DoorUdp} {module target action : Text} {c : Int} :
    ∀ send ∈ s.doorUdpSendFeedback module c target action,
      send.line = snprintf 256 (feedbackLine module c target action) := by
  intro send hmem
  unfold doorUdpSendFeedback sendLineNotif at hmem
  split at hmem
  · rw [List.mem_singleton.mp hmem]
  · cases hmem

end DoorUdp

end HomeSecurity
