import Mathlib.Logic.Function.Basic
import HomeSecurity.JsText
import HomeSecurity.Lts
import HomeSecurity.Wire

/-!
# The web server

`door_server.js`: requests of web clients become COMMAND datagrams with the next
id; the answer is awaited under that id in `pending`, with a five-second timer.
Every callback - a request, the completion of a `send`, a datagram, a timer - is
one event. Sends whose completion has not been reported yet are kept in
`sending`: their callback, which registers the request, still has to run.
-/

namespace HomeSecurity

open CText JsText

/-- What is told about a FEEDBACK line; `cmdid` may be NaN. -/
structure FeedbackMessage where
  module : Text
  cmdid : Option Int
  target : Text
  action : Text
  raw : Text
deriving DecidableEq

/-- What `get-door-info` calls back with. -/
structure DoorInfo where
  moduleId : Text
  target : Text
  status : Text
  frontDoorOpen : Bool
  frontLockLocked : Bool
deriving DecidableEq

/-- What a client gets for its request. -/
inductive Reply where
  /-- `emit('command-feedback', …)`. -/
  | commandFeedback (f : FeedbackMessage)
  /-- `emit('command-error', …)`. -/
  | commandError (module : Text) (cmdid : Int) (error : Text)
  /-- `callback({ success: true, … })` of `lock-door` and `unlock-door`. -/
  | moved (action moduleId : Text)
  /-- `callback({ success: false, … })`. -/
  | failed (error : Text)
  | info (i : DoorInfo)
  /-- `callback(null)`. -/
  | noInfo
deriving DecidableEq

def Reply.isSuccess : Reply → Bool
  | .commandFeedback _ => true
  | .moved .. => true
  | .info _ => true
  | _ => false

/-- The `socket` of a pending entry: the client's own, or one of the objects
that `lock-door`, `unlock-door` and `get-door-info` put in its place. -/
inductive Requestor where
  | client
  | lockDoor (moduleId : Text)
  | unlockDoor (moduleId : Text)
  | doorInfo
deriving DecidableEq

/-- What the callbacks of a request close over, besides its id. -/
structure Request where
  module : Text
  requestor : Requestor
deriving DecidableEq

structure DoorServer where
  cmdCounter : Int
  sending : Int → Option Request
  pending : Int → Option Request
  timers : Int → Option Request

inductive ServerEvent where
  | sendCommand (module target action : Text)
  | lockDoor (moduleId : Text)
  | unlockDoor (moduleId : Text)
  | getDoorInfo (moduleId : Text)
  | sendDone (cmdid : Int) (err : Option Text)
  | message (msg : Text)
  | timeout (cmdid : Int)

inductive ServerOut where
  | datagram (payload : Text)
  | reply (cmdid : Int) (r : Reply)
  /-- `io.sockets.emit('door-feedback', …)`, and so on. -/
  | doorFeedback (module target action : Text)
  | commandFeedback (f : FeedbackMessage)
  | hubEvent (module target event raw : Text)
  | hubHeartbeat (module raw : Text)
  | hubHello (module raw : Text)
  | hubRaw (raw : Text)
deriving DecidableEq

/-! ## Decoders -/

/-- The last token that is one of two words. -/
def lastOf (tokens : List Text) (a b : Text) : Option Text :=
  (tokens.filter fun tok => tok = a || tok = b).getLast?

/-- `formattedAction`: the action normalized to `STATUS_*` where it is a state. -/
def formattedAction (rawAction : Text) : Text :=
  let upper := trim (toUpperCase rawAction)
  if startsWith upper "STATUS_".toList then upper
  else if upper = "STATUS".toList then "STATUS_UNKNOWN".toList
  else if includes upper "OPEN".toList || includes upper "CLOSED".toList then
    let tokens := pieces upper
    match lastOf tokens "LOCKED".toList "UNLOCKED".toList with
    | some lockState => "STATUS_".toList ++ lockState
    | none =>
        match lastOf tokens "OPEN".toList "CLOSED".toList with
        | some doorState => "STATUS_".toList ++ doorState
        | none => "STATUS_UNKNOWN".toList
  else rawAction

/-- The decoder of `get-door-info`; `!!null` is false. -/
def decodeDoorInfo (f : FeedbackMessage) : DoorInfo :=
  let upper := toUpperCase f.action
  let flags : Bool × Bool :=
    if startsWith upper "STATUS_".toList then
      let state := upper.drop "STATUS_".toList.length
      (state = "OPEN".toList, state = "LOCKED".toList)
    else if includes upper "OPEN".toList || includes upper "CLOSED".toList then
      let parts := pieces upper
      (parts.contains "OPEN".toList && !parts.contains "CLOSED".toList,
        parts.contains "LOCKED".toList && !parts.contains "UNLOCKED".toList)
    else (false, false)
  ⟨f.module, f.target, f.action, flags.1, flags.2⟩

/-- A FEEDBACK with all its parts, of a message. -/
def feedbackMessage (msg : Text) : Option FeedbackMessage :=
  match words (trim msg) with
  | moduleId :: type :: cmdid :: target :: action :: rest =>
      if type = "FEEDBACK".toList then
        some ⟨moduleId, parseInt cmdid, target, joinSpace (action :: rest), trim msg⟩
      else none
  | _ => none

/-- What is broadcast of a message that is not such a FEEDBACK. -/
def otherMessage (msg : Text) : List ServerOut :=
  let raw := trim msg
  match words raw with
  | moduleId :: type :: args =>
      if type = "EVENT".toList then
        match args with
        | target :: event :: rest => [.hubEvent moduleId target (joinSpace (event :: rest)) raw]
        | _ => [.hubRaw raw]
      else if type = "HEARTBEAT".toList then [.hubHeartbeat moduleId raw]
      else if type = "HELLO".toList then [.hubHello moduleId raw]
      else [.hubRaw raw]
  | _ => [.hubRaw raw]

/-! ## Requests -/

namespace Requestor

/-- `p.socket.emit('command-feedback', …)`. -/
def feedback (f : FeedbackMessage) : Requestor → Reply
  | .client => .commandFeedback f
  | .lockDoor moduleId => .moved "LOCK".toList moduleId
  | .unlockDoor moduleId => .moved "UNLOCK".toList moduleId
  | .doorInfo => .info (decodeDoorInfo f)

/-- `socket.emit('command-error', …)`; for `get-door-info` it is `callback(null)`
that its own timer and completion callback call instead. -/
def error (module : Text) (cmdid : Int) (error : Text) : Requestor → Reply
  | .client => .commandError module cmdid error
  | .lockDoor _ => .failed error
  | .unlockDoor _ => .failed error
  | .doorInfo => .noInfo

theorem feedback_isSuccess (f : FeedbackMessage) (r : Requestor) :
    (r.feedback f).isSuccess = true := by
  cases r <;> rfl

theorem error_isSuccess (module : Text) (cmdid : Int) (err : Text) (r : Requestor) :
    (r.error module cmdid err).isSuccess = false := by
  cases r <;> rfl

end Requestor

/-- `if (!x) x = y`. -/
def orElse (x y : Text) : Text := if x = [] then y else x

namespace DoorServer

/-- The initial values of the module. -/
def init : DoorServer := ⟨1, fun _ => none, fun _ => none, fun _ => none⟩

/-- `sendCommand`. -/
def sendCommand (s : DoorServer) (moduleId target action : Text) (requestor : Requestor) :
    DoorServer × List ServerOut :=
  let moduleId := orElse moduleId "D1".toList
  let target := orElse target "D0".toList
  let cmdid := s.cmdCounter
  ({ s with
      cmdCounter := cmdid + 1
      sending := Function.update s.sending cmdid (some ⟨moduleId, requestor⟩) },
    [.datagram (commandLine moduleId cmdid target action)])

/-- `pending.set` and `setTimeout`. -/
def register (s : DoorServer) (cmdid : Int) (req : Request) : DoorServer :=
  { s with
    pending := Function.update s.pending cmdid (some req)
    timers := Function.update s.timers cmdid (some req) }

/-- `clearTimeout` and `pending.delete`. -/
def clear (s : DoorServer) (cmdid : Int) : DoorServer :=
  { s with
    pending := Function.update s.pending cmdid none
    timers := Function.update s.timers cmdid none }

/-- `get-door-info`: the entry is there before the datagram is sent. -/
def getDoorInfo (s : DoorServer) (moduleId : Text) : DoorServer × List ServerOut :=
  let mod := if startsWith moduleId "D".toList then moduleId else 'D' :: moduleId
  let cmdid := s.cmdCounter
  let req : Request := ⟨mod, .doorInfo⟩
  ({ s with
      cmdCounter := cmdid + 1
      sending := Function.update s.sending cmdid (some req) }.register cmdid req,
    [.datagram (commandLine mod cmdid "D0".toList "STATUS".toList)])

/-- The completion callback of a `send`. -/
def sendDone (s : DoorServer) (cmdid : Int) (req : Request) (err : Option Text) :
    DoorServer × List ServerOut :=
  let s := { s with sending := Function.update s.sending cmdid none }
  match err, req.requestor with
  | some err, .doorInfo =>
      (s.clear cmdid, [.reply cmdid (Requestor.doorInfo.error req.module cmdid err)])
  | some err, requestor => (s, [.reply cmdid (requestor.error req.module cmdid err)])
  | none, .doorInfo => (s, [])
  | none, _ => (s.register cmdid req, [])

/-- The `message` callback. -/
def message (s : DoorServer) (msg : Text) : DoorServer × List ServerOut :=
  match feedbackMessage msg with
  | some f =>
      let broadcast : List ServerOut :=
        [.doorFeedback f.module f.target (formattedAction f.action), .commandFeedback f]
      match f.cmdid with
      | some cmdid =>
          match s.pending cmdid with
          | some p => (s.clear cmdid, .reply cmdid (p.requestor.feedback f) :: broadcast)
          | none => (s, broadcast)
      | none => (s, broadcast)
  | none => (s, otherMessage msg)

/-- A timer fires. -/
def timeout (s : DoorServer) (cmdid : Int) (req : Request) : DoorServer × List ServerOut :=
  (s.clear cmdid,
    [.reply cmdid (req.requestor.error req.module cmdid "No FEEDBACK from hub".toList)])

/-- One event; `none` for a completion or a timer that is not due to happen. -/
def handle (s : DoorServer) : ServerEvent → Option (DoorServer × List ServerOut)
  | .sendCommand module target action =>
      some (s.sendCommand (orElse module "D1".toList) (orElse target "D0".toList)
        (orElse action "STATUS".toList) .client)
  | .lockDoor moduleId =>
      some (s.sendCommand moduleId "D0".toList "LOCK".toList (.lockDoor moduleId))
  | .unlockDoor moduleId =>
      some (s.sendCommand moduleId "D0".toList "UNLOCK".toList (.unlockDoor moduleId))
  | .getDoorInfo moduleId => some (s.getDoorInfo moduleId)
  | .sendDone cmdid err => (s.sending cmdid).map fun req => s.sendDone cmdid req err
  | .message msg => some (s.message msg)
  | .timeout cmdid => (s.timers cmdid).map fun req => s.timeout cmdid req

def step (s : DoorServer) (e : ServerEvent) : Option DoorServer := (s.handle e).map Prod.fst

end DoorServer

end HomeSecurity
