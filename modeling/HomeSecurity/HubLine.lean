import HomeSecurity.HubTables
import HomeSecurity.Wire

/-!
# The hub's line handler

`parse_d_state`, `handle_line` and `check_offline_modules` of `hub_udp.c`.

`handleLine` takes what one `recvfrom` of `udp_thread` delivers: the source
address and the bytes, together with the two clock readings taken while the
datagram is handled. The line is what fits in the 255 usable bytes of the
receive buffer, up to the first NUL. The unlock/lock pairs around `sendto` are
not steps of their own: nothing the hub writes afterwards depends on what
another thread does in between.
-/

namespace HomeSecurity

open CText

structure Datagram where
  src : SockAddr
  bytes : Text
  /-- `now_ms()` at the start of `handle_line`. -/
  t : Int
  /-- `now_ms()` in `register_client_command`, if it gets that far. -/
  issued : Int

/-- The C string `handle_line` is given: `buf` after `buf[n] = '\0'`. -/
def Datagram.line (dg : Datagram) : Text := cstr (dg.bytes.take (hubLineLen - 1))

def Datagram.tokens (dg : Datagram) : List Text := strtok isDelim dg.line

theorem Datagram.tokens_eq (dg : Datagram) : dg.tokens = wireTokens dg.bytes := rfl

/-- `handle_line` returns at once for a line without two words. -/
theorem Datagram.tokens_cases (dg : Datagram) :
    (∃ mod type args, dg.tokens = mod :: type :: args) ∨
      ∀ mod type args, dg.tokens ≠ mod :: type :: args := by
  rcases hwords : dg.tokens with _ | ⟨mod, _ | ⟨type, args⟩⟩
  · exact Or.inr nofun
  · exact Or.inr nofun
  · exact Or.inl ⟨mod, type, args, rfl⟩

/-! ## Parse helpers

A channel (D0 or D1) of an entry is its pair of `open` and `locked` flags. -/

abbrev Channel := Bool × Bool

namespace HubDoorStatus

def d0 (e : HubDoorStatus) : Channel := (e.d0Open, e.d0Locked)
def d1 (e : HubDoorStatus) : Channel := (e.d1Open, e.d1Locked)
def setD0 (e : HubDoorStatus) (p : Channel) : HubDoorStatus :=
  { e with d0Open := p.1, d0Locked := p.2 }
def setD1 (e : HubDoorStatus) (p : Channel) : HubDoorStatus :=
  { e with d1Open := p.1, d1Locked := p.2 }

end HubDoorStatus

/-- `parse_d_state` on a token such as `D0=OPEN,LOCKED`. -/
def parseDState (token : Text) (p : Channel) : Channel :=
  match token.dropWhile (· ≠ '=') with
  | [] => p
  | _ :: states =>
      let (first, second) : Text × Text :=
        match states.dropWhile (· ≠ ',') with
        | _ :: afterComma => ((states.takeWhile (· ≠ ',')).take 31, afterComma.take 31)
        | [] => (states.take 31, [])
      let isOpen :=
        if first = "OPEN".toList then true
        else if first = "CLOSED".toList then false
        else p.1
      let locked :=
        if second = "LOCKED".toList then true
        else if second = "UNLOCKED".toList then false
        else p.2
      -- a single state may also be the lock state
      let locked :=
        if second = [] then
          if first = "LOCKED".toList then true
          else if first = "UNLOCKED".toList then false
          else locked
        else locked
      (isOpen, locked)

/-- The state written for an EVENT on one channel, `none` if nothing matches. -/
def eventState (what state : Text) (p : Channel) : Option Channel :=
  if what = "DOOR".toList then
    if state = "OPEN".toList then some (true, p.2)
    else if state = "CLOSED".toList then some (false, p.2)
    else none
  else if what = "LOCK".toList then
    if state = "LOCKED".toList then some (p.1, true)
    else if state = "UNLOCKED".toList then some (p.1, false)
    else none
  else none

/-- One iteration of the token loop of a HEARTBEAT. -/
def heartbeatToken (s : HubDoorStatus × CBuf hubLineLen) (tok : Text) :
    HubDoorStatus × CBuf hubLineLen :=
  let (e, hbBuf) := s
  let e :=
    if "D0=".toList.isPrefixOf tok then e.setD0 (parseDState tok e.d0)
    else if "D1=".toList.isPrefixOf tok then e.setD1 (parseDState tok e.d1)
    else e
  let hbBuf := if hbBuf.text = [] then hbBuf else snprintf _ (hbBuf.text ++ [' '])
  (e, snprintf _ (hbBuf.text ++ tok))

def heartbeatStatus (e : HubDoorStatus) (args : List Text) (histLine : CBuf hubLineLen)
    (t : Int) : HubDoorStatus :=
  let (e, hbBuf) := args.foldl heartbeatToken (e, .zeroed _)
  { e with
    lastHeartbeatMs := t
    lastHeartbeatLine := if hbBuf.text = [] then histLine else hbBuf }

/-- The entry after an EVENT, and whether it is one that raises an alert. -/
def eventStatus (e : HubDoorStatus) (which what state : Text) : HubDoorStatus × Bool :=
  if which = "D0".toList then
    match eventState what state e.d0 with
    | some p => (e.setD0 p, true)
    | none => (e, false)
  else if which = "D1".toList then
    match eventState what state e.d1 with
    | some p => (e.setD1 p, true)
    | none => (e, false)
  else (e, false)

def feedbackStatus (e : HubDoorStatus) (cmdid : Int) (target action : Text) (t : Int) :
    HubDoorStatus :=
  { e with
    lastFeedbackTarget := snprintf 32 target
    lastFeedbackAction := snprintf 32 action
    lastFeedbackMs := t
    lastFeedbackCmdid := cmdid }

/-- The next three tokens, when none of three `strtok_r` calls returns NULL. -/
def nextThree : List Text → Option (Text × Text × Text)
  | a :: b :: c :: _ => some (a, b, c)
  | _ => none

/-! ## The message types of `handle_line` -/

namespace Hub

def triggerDiscordAlert (h : Hub) (moduleId eventType door state : Text) : List HubOut :=
  if h.webhookUrl = [] then []
  else
    [.alert (snprintf 256 ('[' :: moduleId ++ "] ".toList ++ door ++ ' ' :: eventType
      ++ " is now ".toList ++ state))]

def handleHeartbeat (h : Hub) (d : Fin hubMaxDoors) (args : List Text)
    (histLine : CBuf hubLineLen) (t : Int) : Hub :=
  h.modifyDoor d fun e => heartbeatStatus e args histLine t

def handleEvent (h : Hub) (d : Fin hubMaxDoors) (mod : Text) (args : List Text) (t : Int) :
    Hub × List HubOut :=
  match nextThree args with
  | some (which, what, state) =>
      let (e, alerts) := eventStatus (h.doors d) which what state
      (h.modifyDoor d fun _ => { e with lastEventMs := t },
        if alerts then h.triggerDiscordAlert mod what which state else [])
  | none => (h.modifyDoor d fun e => { e with lastEventMs := t }, [])

def handleFeedback (h : Hub) (d : Fin hubMaxDoors) (mod : Text) (args : List Text) (t : Int) :
    Hub × List HubOut :=
  match nextThree args with
  | some (cmdidS, target, action) =>
      let cmdid := atoi cmdidS
      let h := h.modifyDoor d fun e => feedbackStatus e cmdid target action t
      let fbline := snprintf hubLineLen
        ("FEEDBACK ".toList ++ decimal cmdid ++ ' ' :: target ++ ' ' :: action)
      let h := h.addHistory mod fbline.text t
      match h.getAndClearClientCmd mod cmdid with
      | some (clientAddr, h) =>
          (h, [.relay clientAddr mod cmdid (snprintf 256 (feedbackLine mod cmdid target action)),
            .broadcast])
      | none => (h, [.broadcast])
  | none => (h, [])

def handleCommand (h : Hub) (mod : Text) (args : List Text) (dg : Datagram) :
    Hub × List HubOut :=
  match nextThree args with
  | some (cmdidS, _, _) =>
      let h := h.registerClientCommand (atoi cmdidS) mod dg.src dg.issued
      (h, h.hubForwardCommandToModule mod dg.line)
  | none => (h, [])

/-- What `handle_line` does once the entry `d` of the module is known. -/
def dispatch (h : Hub) (d : Fin hubMaxDoors) (mod type : Text) (args : List Text)
    (dg : Datagram) : Hub × List HubOut :=
  if type = "HEARTBEAT".toList then
    (h.handleHeartbeat d args (snprintf _ (mod ++ ' ' :: type)) dg.t, [])
  else if type = "EVENT".toList then h.handleEvent d mod args dg.t
  else if type = "FEEDBACK".toList then h.handleFeedback d mod args dg.t
  else if type = "COMMAND".toList then h.handleCommand mod args dg
  else (h.modifyDoor d fun e => { e with lastEventMs := dg.t }, [])

/-- Any non-COMMAND from a module updates the endpoint table. -/
def noteEndpoint (h : Hub) (mod type : Text) (src : SockAddr) : Hub :=
  if type = "COMMAND".toList then h else h.hubUpdateEndpoint mod src

/-- The entry's last address and the history line of a datagram. -/
def noteLine (h : Hub) (d : Fin hubMaxDoors) (mod type : Text) (dg : Datagram) : Hub :=
  let h :=
    if type = "COMMAND".toList then h
    else h.modifyDoor d fun e => { e with lastAddr := dg.src, hasLastAddr := true }
  let histLine := snprintf hubLineLen (mod ++ ' ' :: type)
  h.addHistory mod histLine.text dg.t

/-- `handle_line`. -/
def handleLine (h : Hub) (dg : Datagram) : Hub × List HubOut :=
  match dg.tokens with
  | mod :: type :: args =>
      let h := h.noteEndpoint mod type dg.src
      match h.findOrCreateDoor mod with
      | some (h, d) => (h.noteLine d mod type dg).dispatch d mod type args dg
      | none => (h.addHistory mod "<NO-STATE> (untracked)".toList dg.t, [])
  | _ => (h, [])

/-! ## Offline detection -/

/-- The loop body of `check_offline_modules`. -/
def checkOfflineDoor (now : Int) (s : Hub × List HubOut) (i : Fin hubMaxDoors) :
    Hub × List HubOut :=
  let (h, outs) := s
  let e := h.doors i
  let shouldBeOffline := decide (now - e.lastHeartbeatMs > hubOfflineTimeoutMs)
  if !e.known then s
  else if shouldBeOffline && !e.offline then
    let h := h.modifyDoor i fun e => { e with offline := true, lastOnlineMs := now }
    let h := h.addHistory e.moduleId.text
      (e.moduleId.text ++ " EVENT SYSTEM OFFLINE\n".toList) now
    (h, outs ++ h.triggerDiscordAlert e.moduleId.text "SYSTEM".toList "MODULE".toList
      "OFFLINE".toList)
  else if !shouldBeOffline && e.offline then
    let h := h.modifyDoor i fun e => { e with offline := false }
    let h := h.addHistory e.moduleId.text
      (e.moduleId.text ++ " EVENT SYSTEM ONLINE\n".toList) now
    (h, outs ++ h.triggerDiscordAlert e.moduleId.text "SYSTEM".toList "MODULE".toList
      "ONLINE".toList)
  else s

/-- `check_offline_modules`. -/
def checkOfflineModules (h : Hub) (now : Int) : Hub × List HubOut :=
  (List.finRange hubMaxDoors).foldl (checkOfflineDoor now) (h, [])

end Hub

end HomeSecurity
