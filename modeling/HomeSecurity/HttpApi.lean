import Mathlib.Data.List.DropRight
import HomeSecurity.CSearch
import HomeSecurity.DoorMod
import HomeSecurity.HubCommand

/-!
# The HTTP API

`http_api.c`: what `handle_client` makes of the bytes that its one `recv`
returns. Whatever else happens while a request is served - what the sensor and
the motor do, the hub's table at each look at it, whether a command was
acknowledged - is in its `World`; what is served, and from which of the two
places a module name can mean, is in `Served`.
-/

namespace HomeSecurity

open CText

/-- The API as `http_api_start` leaves it, with `HTTP_API_TOKEN` if that is set. -/
structure HttpApi where
  token : Option Text
  /-- `g_module_id`. -/
  moduleId : CBuf 32

/-- The part of `http_api_start` that `handle_client` depends on. -/
def httpApiStart (token : Option Text) (localModuleId : Text) : HttpApi :=
  ⟨token, snprintf 32 localModuleId⟩

/-! ## Reading a request -/

namespace HttpApi

def crlf : Text := ['\r', '\n']

/-- The name of a header line up to its `:`, without the spaces before that. -/
def fieldName (name : Text) : Text := name.rdropWhile (· = ' ')

/-- The value of a header line that has the key, ignoring case. -/
def fieldValue (key line : Text) : Option Text :=
  (strchr ':' line).bind fun (name, value) =>
    if (fieldName name).length = key.length ∧ strncasecmpEq key.length name key then
      some (value.dropWhile (· = ' '))
    else none

/-- The loop of `get_header_value_from_request`; each line takes at least two
bytes, so the text's length is fuel enough. -/
def headerLoop (key : Text) : Nat → Text → Option Text
  | 0, _ => none
  | fuel + 1, p =>
      if p = [] ∨ crlf.isPrefixOf p then none
      else
        match strstr crlf p with
        | none => none
        | some (line, rest) => (fieldValue key line).or (headerLoop key fuel rest)

/-- `get_header_value_from_request`. -/
def getHeaderValueFromRequest (req key : Text) : Option Text :=
  (strstr crlf req).bind fun (_, p) => headerLoop key p.length p

/-- The value of a `key=value` token, if it has the key. -/
def tokenValue (key tok : Text) : Option Text :=
  (strchr '=' tok).bind fun (k, v) => if k = key then some v else none

/-- `get_query_value`. -/
def getQueryValue (path key : Text) : Option Text :=
  (strchr '?' path).bind fun (_, q) => (strtok (· = '&') q).findSome? (tokenValue key)

/-- `mod`, `target` and `action` of a command form. -/
structure Form where
  module : Option Text
  target : Option Text
  action : Option Text
deriving DecidableEq

/-- One token of the form: a key given twice overwrites. -/
def Form.read (f : Form) (tok : Text) : Form :=
  match strchr '=' tok with
  | some (k, v) =>
      if k = "module".toList then { f with module := some v }
      else if k = "target".toList then { f with target := some v }
      else if k = "action".toList then { f with action := some v }
      else f
  | none => f

def readForm (body : Text) : Form := (strtok (· = '&') body).foldl Form.read ⟨none, none, none⟩

/-- `sscanf(buf, "%7s %1023s", method, path)`. -/
def requestWords (text : Text) : Option (Text × Text) :=
  (scanWord 7 text).bind fun (method, rest) =>
    (scanWord 1023 rest).map fun (path, _) => (method, path)

end HttpApi

/-! ## Responses -/

structure Response where
  code : Nat
  header : CBuf 256
  body : Text
deriving DecidableEq

def statusText (code : Nat) : Text :=
  if code = 401 then "Unauthorized".toList
  else if code = 400 then "Bad Request".toList
  else if code = 404 then "Not Found".toList
  else "OK".toList

/-- `send_response_status`. -/
def sendResponseStatus (code : Nat) (body : Text) : Response where
  code := code
  header := snprintf 256 ("HTTP/1.1 ".toList ++ decimal code ++ ' ' :: statusText code
    ++ "\r\nContent-Type: application/json\r\nContent-Length: ".toList
    ++ decimal body.length ++ "\r\n\r\n".toList)
  body := body

def sendResponse (body : Text) : Response := sendResponseStatus 200 body

@[simp] theorem sendResponse_body (body : Text) : (sendResponse body).body = body := rfl

def errorJson (error : Text) : Text :=
  "\x7b\"error\":\"".toList ++ error ++ "\"\x7d".toList

def failedJson (reason : Text) : Text :=
  "\x7b\"result\":\"failed\",\"reason\":\"".toList ++ reason ++ "\"\x7d".toList

def boolJson (b : Bool) : Text := if b then "true".toList else "false".toList

/-- The body of a status that the hub has. -/
def hubStatusJson (st : HubDoorStatus) : CBuf 512 :=
  snprintf 512 ("\x7b\"module\":\"".toList ++ st.moduleId.text
    ++ "\",\"d0_open\":".toList ++ boolJson st.d0Open
    ++ ",\"d0_locked\":".toList ++ boolJson st.d0Locked
    ++ ",\"d1_open\":".toList ++ boolJson st.d1Open
    ++ ",\"d1_locked\":".toList ++ boolJson st.d1Locked
    ++ ",\"front_door_open\":".toList ++ boolJson st.d0Open
    ++ ",\"front_lock_locked\":".toList ++ boolJson st.d1Locked
    ++ ",\"lastHB\":".toList ++ decimal st.lastHeartbeatMs
    ++ ",\"lastHBLine\":\"".toList ++ st.lastHeartbeatLine.text ++ "\"\x7d".toList)

/-- The values of `DoorState_t`. -/
def DoorState.value : DoorState → Int
  | .locked => 0
  | .unlocked => 1
  | .opened => 2
  | .unknown => 3

/-- The body of the local door's status. -/
def localStatusJson (mod : Text) (state : DoorState) : CBuf 256 :=
  snprintf 256 ("\x7b\"module\":\"".toList ++ mod
    ++ "\",\"state\":".toList ++ decimal state.value
    ++ ",\"front_door_open\":".toList ++ boolJson (state = .opened)
    ++ ",\"front_lock_locked\":".toList ++ boolJson (state = .locked) ++ "\x7d".toList)

/-- The body after a command to the local door. -/
def localResultJson (state : DoorState) : CBuf 256 :=
  snprintf 256 ("\x7b\"result\":\"ok\",\"state\":".toList ++ decimal state.value ++ "\x7d".toList)

def ackJson : Text := "\x7b\"result\":\"ok\",\"ack\":true\x7d".toList

/-- The body after an acknowledged command. -/
def feedbackJson (st : HubDoorStatus) : CBuf 512 :=
  snprintf 512 ("\x7b\"result\":\"ok\",\"ack\":true,\"last_feedback_target\":\"".toList
    ++ st.lastFeedbackTarget.text ++ "\",\"last_feedback_action\":\"".toList
    ++ st.lastFeedbackAction.text ++ "\",\"last_feedback_ms\":".toList
    ++ decimal st.lastFeedbackMs ++ "\x7d".toList)

/-! ## Serving a request -/

/-- What a request asks of the hub and of the local door. -/
inductive ApiOp where
  | hubUdpGetStatus (module : Text)
  | hubUdpSendCommand (module target action : Text)
  | getDoorStatus
  | lockDoor
  | unlockDoor
deriving DecidableEq

/-- What a module name is taken for. -/
inductive Subject where
  /-- A module in the hub's table. -/
  | tracked
  /-- The door on the hub's own pins. -/
  | onPins
deriving DecidableEq

structure Served where
  ops : List ApiOp
  subject : Option Subject
  mod : DoorMod
  /-- `none` when the connection is closed without one. -/
  response : Option Response

/-- The status code of the response, if there is one. -/
def Served.code (s : Served) : Option Nat := s.response.map Response.code

/-- What a request finds around it. -/
structure World where
  mod : DoorMod
  env : Env
  /-- The hub at the request's first look at it. -/
  hub : Hub
  /-- What `hub_udp_send_command` returns. -/
  acked : Bool
  /-- The hub at the look after an acknowledged command. -/
  hubAfter : Hub

/-- The same before anything has happened. -/
def World.initial : World where
  mod := .initial ⟨0, StepperMotor.stepsPerRev_pos⟩
  env := ⟨[], 5, 5, fun _ _ => true, 7, 7⟩
  hub := .init []
  acked := false
  hubAfter := .init []

namespace HttpApi

/-- An answer with nothing done. -/
def answer (w : World) (ops : List ApiOp) (body : Text) : Served :=
  ⟨ops, none, w.mod, some (sendResponse body)⟩

/-- The status of a module: the hub's if it has one, else the local door's. -/
def serveModule (api : HttpApi) (w : World) (mod : Text) : Served :=
  match w.hub.hubUdpGetStatus mod with
  | some st =>
      ⟨[.hubUdpGetStatus mod], some .tracked, w.mod, some (sendResponse (hubStatusJson st).text)⟩
  | none =>
      if mod = api.moduleId.text then
        let c := w.mod.getDoorStatus ⟨.unknown, 0⟩ w.env
        ⟨[.hubUdpGetStatus mod, .getDoorStatus], some .onPins, c.mod,
          some (sendResponse (localStatusJson mod c.door.state).text)⟩
      else answer w [.hubUdpGetStatus mod] (errorJson "no status".toList)

/-- `GET /api/status`. -/
def serveStatus (api : HttpApi) (w : World) (path : Text) : Served :=
  match getQueryValue path "module".toList with
  | none => answer w [] (errorJson "missing module".toList)
  | some mod => serveModule api w mod

/-- A command to the local door, with what it did. -/
def performed (op : ApiOp) (c : Call) : Served :=
  ⟨[op], some .onPins, c.mod, some (sendResponse (localResultJson c.door.state).text)⟩

def performLocal (w : World) (action : Text) : Served :=
  let d : Door := ⟨.unknown, 0⟩
  if action = "LOCK".toList then performed .lockDoor (w.mod.lockDoor d w.env)
  else if action = "UNLOCK".toList then performed .unlockDoor (w.mod.unlockDoor d w.env)
  else if action = "STATUS".toList then performed .getDoorStatus (w.mod.getDoorStatus d w.env)
  else ⟨[], some .onPins, w.mod, some (sendResponse (errorJson "unknown action".toList))⟩

def forward (w : World) (mod : Text) (target : Option Text) (action : Text) : Served :=
  match w.hub.hubUdpGetStatus mod with
  | none => answer w [.hubUdpGetStatus mod] (failedJson "unknown_module".toList)
  | some st =>
      if !st.hasLastAddr then
        ⟨[.hubUdpGetStatus mod], some .tracked, w.mod,
          some (sendResponse (failedJson "no_route".toList))⟩
      else
        let ops := [.hubUdpGetStatus mod, .hubUdpSendCommand mod (target.getD []) action]
        if w.acked then
          let body :=
            match w.hubAfter.hubUdpGetStatus mod with
            | none => ackJson
            | some st => (feedbackJson st).text
          ⟨ops ++ [.hubUdpGetStatus mod], some .tracked, w.mod, some (sendResponse body)⟩
        else ⟨ops, some .tracked, w.mod, some (sendResponse (failedJson "no_ack".toList))⟩

/-- `POST /api/command`. -/
def serveCommand (api : HttpApi) (w : World) (text : Text) : Served :=
  match strstr (crlf ++ crlf) text with
  | none => answer w [] (errorJson "no body".toList)
  | some (_, body) =>
      let f := readForm body
      match f.module, f.action with
      | some mod, some action =>
          if mod = api.moduleId.text then performLocal w action
          else forward w mod f.target action
      | _, _ => answer w [] (errorJson "missing fields".toList)

/-- What `handle_client` does after its token check. -/
def dispatch (api : HttpApi) (w : World) (method path text : Text) : Served :=
  if method = "GET".toList ∧ "/api/status".toList.isPrefixOf path then serveStatus api w path
  else if method = "POST".toList ∧ path = "/api/command".toList then serveCommand api w text
  else answer w [] (errorJson "unknown endpoint".toList)

/-- The token check. -/
def allows (api : HttpApi) (text : Text) : Bool :=
  match api.token with
  | none => true
  | some expected => getHeaderValueFromRequest text "X-API-TOKEN".toList == some expected

def unauthorized (w : World) : Served :=
  ⟨[], none, w.mod, some (sendResponseStatus 401 (errorJson "unauthorized".toList))⟩

/-- The C string in `buf` after `recv` delivered `bytes`. -/
def received (bytes : Text) : Text := cstr (bytes.take 8191)

/-- `handle_client`, from what its `recv` delivers. -/
def handleClient (api : HttpApi) (w : World) (bytes : Text) : Served :=
  let text := received bytes
  match requestWords text with
  | none => ⟨[], none, w.mod, none⟩
  | some (method, path) =>
      if api.allows text then dispatch api w method path text else unauthorized w

/-- A connection on which successive `recv` calls would return these segments. -/
def handleConnection (api : HttpApi) (w : World) : List Text → Served
  | [] => ⟨[], none, w.mod, none⟩
  | segment :: _ => handleClient api w segment

/-! ## What is asked and answered -/

/-- A status is looked up, and measured if it is the local door's. -/
theorem serveModule_spec (api : HttpApi) (w : World) (mod : Text) :
    (serveModule api w mod).code = some 200
      ∧ (serveModule api w mod).subject = (if (w.hub.hubUdpGetStatus mod).isSome then some .tracked
        else if mod = api.moduleId.text then some .onPins else none)
      ∧ ∀ op ∈ (serveModule api w mod).ops, op = .hubUdpGetStatus mod ∨ op = .getDoorStatus := by
  unfold serveModule
  cases w.hub.hubUdpGetStatus mod with
  | some st => exact ⟨rfl, rfl, fun op hop => Or.inl (List.mem_singleton.mp hop)⟩
  | none =>
      dsimp only
      split
      · exact ⟨rfl, rfl, by simp⟩
      · exact ⟨rfl, rfl, fun op hop => Or.inl (List.mem_singleton.mp hop)⟩

/-- A command to the local door asks nothing of the hub. -/
theorem performLocal_spec (w : World) (action : Text) :
    (performLocal w action).code = some 200
      ∧ (performLocal w action).subject = some .onPins
      ∧ ∀ op ∈ (performLocal w action).ops,
        op = .lockDoor ∨ op = .unlockDoor ∨ op = .getDoorStatus := by
  unfold performLocal
  dsimp only
  split
  · exact ⟨rfl, rfl, fun op hop => Or.inl (List.mem_singleton.mp hop)⟩
  · split
    · exact ⟨rfl, rfl, fun op hop => Or.inr (Or.inl (List.mem_singleton.mp hop))⟩
    · split
      · exact ⟨rfl, rfl, fun op hop => Or.inr (Or.inr (List.mem_singleton.mp hop))⟩
      · exact ⟨rfl, rfl, fun op hop => absurd hop List.not_mem_nil⟩

/-- A forwarded command looks the module up, and is sent if it has an address. -/
theorem forward_spec (w : World) (mod : Text) (target : Option Text) (action : Text) :
    (forward w mod target action).code = some 200
      ∧ (forward w mod target action).subject
        = (if (w.hub.hubUdpGetStatus mod).isSome then some .tracked else none)
      ∧ (∀ op ∈ (forward w mod target action).ops, op = .hubUdpGetStatus mod
        ∨ op = .hubUdpSendCommand mod (target.getD []) action)
      ∧ (.hubUdpSendCommand mod (target.getD []) action ∈ (forward w mod target action).ops ↔
        ∃ st, w.hub.hubUdpGetStatus mod = some st ∧ st.hasLastAddr = true) := by
  unfold forward
  cases w.hub.hubUdpGetStatus mod with
  | none => exact ⟨rfl, rfl, fun op hop => Or.inl (List.mem_singleton.mp hop), by simp [answer]⟩
  | some st =>
      dsimp only
      cases hroute : st.hasLastAddr with
      | false =>
          refine ⟨rfl, rfl, fun op hop => Or.inl (List.mem_singleton.mp hop), ?_⟩
          simp [hroute]
      | true =>
          cases w.acked with
          | false => exact ⟨rfl, rfl, by simp, by simp [hroute]⟩
          | true => exact ⟨rfl, rfl, by simp, by simp [hroute]⟩

end HttpApi

end HomeSecurity
