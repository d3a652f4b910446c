import HomeSecurity.HttpApi
import HomeSecurity.HubReports

/-!
# What a request asks for

`handle_client` in two halves: what the received text asks for
(`readRequest`), which depends on nothing else, and what is done about it
(`serve`), which depends on the text no more (`handleClient_eq`).

Not everything read matters to what is done. `ApiRequest.Alike` says which
requests are told apart, and `serve_eq_iff` that these are all.
-/

namespace HomeSecurity

open CText

inductive ApiRequest where
  /-- Fewer than two words. -/
  | empty
  | refused
  | elsewhere
  | status (module : Option Text)
  | noBody
  | incomplete
  | command (module : Text) (target : Option Text) (action : Text)
deriving DecidableEq

namespace HttpApi

def readCommand (text : Text) : ApiRequest :=
  match strstr (crlf ++ crlf) text with
  | none => .noBody
  | some (_, body) =>
      let f := readForm body
      match f.module, f.action with
      | some mod, some action => .command mod f.target action
      | _, _ => .incomplete

/-- The path check of the status request. -/
def IsStatus (method path : Text) : Prop :=
  method = "GET".toList ∧ "/api/status".toList.isPrefixOf path

/-- The path check of the command request. -/
def IsCommand (method path : Text) : Prop := method = "POST".toList ∧ path = "/api/command".toList

def readRequest (api : HttpApi) (text : Text) : ApiRequest :=
  match requestWords text with
  | none => .empty
  | some (method, path) =>
      if !api.allows text then .refused
      else if method = "GET".toList ∧ "/api/status".toList.isPrefixOf path then
        .status (getQueryValue path "module".toList)
      else if method = "POST".toList ∧ path = "/api/command".toList then readCommand text
      else .elsewhere

theorem not_isStatus {method path : Text} (h : IsCommand method path) : ¬IsStatus method path := by
  intro hget
  have heq := hget.1.symm.trans h.1
  cases heq

theorem readRequest_empty {api : HttpApi} {text : Text} (hwords : requestWords text = none) :
    readRequest api text = .empty := by
  rw [readRequest, hwords]

section Words

variable {api : HttpApi} {text method path : Text}
  (hwords : requestWords text = some (method, path))
include hwords

theorem readRequest_refused (hallows : api.allows text = false) :
    readRequest api text = .refused := by
  rw [readRequest, hwords]
  dsimp only
  rw [hallows, if_pos (by rfl)]

theorem readRequest_status (hallows : api.allows text = true) (h : IsStatus method path) :
    readRequest api text = .status (getQueryValue path "module".toList) := by
  rw [readRequest, hwords]
  dsimp only
  rw [hallows, if_neg (by nofun)]
  exact if_pos h

theorem readRequest_command (hallows : api.allows text = true) (h : IsCommand method path) :
    readRequest api text = readCommand text := by
  rw [readRequest, hwords]
  dsimp only
  rw [hallows, if_neg (by nofun)]
  exact (if_neg (not_isStatus h)).trans (if_pos h)

theorem readRequest_elsewhere (hallows : api.allows text = true) (hs : ¬IsStatus method path)
    (hc : ¬IsCommand method path) : readRequest api text = .elsewhere := by
  rw [readRequest, hwords]
  dsimp only
  rw [hallows, if_neg (by nofun)]
  exact (if_neg hs).trans (if_neg hc)

end Words

def serve (api : HttpApi) (w : World) : ApiRequest → Served
  | .empty => ⟨[], none, w.mod, none⟩
  | .refused => unauthorized w
  | .elsewhere => answer w [] (errorJson "unknown endpoint".toList)
  | .status none => answer w [] (errorJson "missing module".toList)
  | .status (some mod) => serveModule api w mod
  | .noBody => answer w [] (errorJson "no body".toList)
  | .incomplete => answer w [] (errorJson "missing fields".toList)
  | .command mod target action =>
      if mod = api.moduleId.text then performLocal w action else forward w mod target action

theorem serveCommand_eq (api : HttpApi) (w : World) (text : Text) :
    serveCommand api w text = serve api w (readCommand text) := by
  rw [serveCommand, readCommand]
  cases strstr (crlf ++ crlf) text with
  | none => rfl
  | some r =>
      dsimp only
      cases (readForm r.2).module with
      | none => rfl
      | some mod => cases (readForm r.2).action <;> rfl

theorem serveStatus_eq (api : HttpApi) (w : World) (path : Text) :
    serveStatus api w path = serve api w (.status (getQueryValue path "module".toList)) := by
  rw [serveStatus]
  cases getQueryValue path "module".toList <;> rfl

/-- A request is read, then served. -/
theorem handleClient_eq (api : HttpApi) (w : World) (bytes : Text) :
    handleClient api w bytes = serve api w (readRequest api (received bytes)) := by
  rw [handleClient, readRequest]
  cases requestWords (received bytes) with
  | none => rfl
  | some r =>
      dsimp only
      cases api.allows (received bytes) with
      | false => rfl
      | true =>
          rw [if_pos rfl, if_neg (by decide), dispatch]
          split
          · exact serveStatus_eq api w r.2
          · split
            · exact serveCommand_eq api w _
            · rfl

end HttpApi

/-! ## What makes a difference -/

/-- The door operation that a command to the local door performs. -/
def localOp (action : Text) : Option ApiOp :=
  if action = "LOCK".toList then some .lockDoor
  else if action = "UNLOCK".toList then some .unlockDoor
  else if action = "STATUS".toList then some .getDoorStatus
  else none

theorem localOp_cases (action : Text) :
    localOp action = some .lockDoor ∨ localOp action = some .unlockDoor
      ∨ localOp action = some .getDoorStatus ∨ localOp action = none := by
  unfold localOp
  split
  · exact Or.inl rfl
  · split
    · exact Or.inr (Or.inl rfl)
    · split
      · exact Or.inr (Or.inr (Or.inl rfl))
      · exact Or.inr (Or.inr (Or.inr rfl))

/-- The same but for what the API has no use for: the target and all but the
operation of a command to the local door, target and action of a command to a
name that no module can have. -/
def ApiRequest.Alike (api : HttpApi) : ApiRequest → ApiRequest → Prop
  | .command mod target action, .command mod' target' action' =>
      mod = mod' ∧
        if mod = api.moduleId.text then localOp action = localOp action'
        else isModuleId mod = true → target.getD [] = target'.getD [] ∧ action = action'
  | r, r' => r = r'

inductive ApiRequest.Kind where
  | empty
  | refused
  | elsewhere
  | status
  | command
deriving DecidableEq

/-- Where `handle_client` goes with it. -/
def ApiRequest.kind : ApiRequest → Kind
  | .empty => .empty
  | .refused => .refused
  | .elsewhere => .elsewhere
  | .status _ => .status
  | .noBody | .incomplete | .command .. => .command

theorem ApiRequest.Alike.kind {api : HttpApi} {r r' : ApiRequest} (h : r.Alike api r') :
    r.kind = r'.kind := by
  unfold Alike at h
  split at h
  · rfl
  · rw [h]

namespace HttpApi

theorem readCommand_kind (text : Text) : (readCommand text).kind = .command := by
  unfold readCommand
  split
  · rfl
  · dsimp only
    split <;> rfl

section Words

variable {api : HttpApi} {text method path : Text}
  (hwords : requestWords text = some (method, path))
include hwords

theorem readRequest_kind (hallows : api.allows text = true) :
    ((readRequest api text).kind = .status ↔ IsStatus method path)
      ∧ ((readRequest api text).kind = .command ↔ IsCommand method path)
      ∧ (readRequest api text).kind ≠ .empty ∧ (readRequest api text).kind ≠ .refused := by
  by_cases hs : IsStatus method path
  · rw [readRequest_status hwords hallows hs, ApiRequest.kind]
    exact ⟨iff_of_true rfl hs, iff_of_false (by decide) fun hc => not_isStatus hc hs, by decide,
      by decide⟩
  · by_cases hc : IsCommand method path
    · rw [readRequest_command hwords hallows hc, readCommand_kind]
      exact ⟨iff_of_false (by decide) hs, iff_of_true rfl hc, by decide, by decide⟩
    · rw [readRequest_elsewhere hwords hallows hs hc]
      exact ⟨iff_of_false (by decide) hs, iff_of_false (by decide) hc, by decide, by decide⟩

theorem kind_eq_refused_iff :
    (readRequest api text).kind = .refused ↔ api.allows text = false := by
  cases hallows : api.allows text with
  | false =>
      rw [readRequest_refused hwords hallows]
      exact iff_of_true rfl rfl
  | true => exact iff_of_false (readRequest_kind hwords hallows).2.2.2 (by decide)

end Words

theorem kind_eq_empty_iff {api : HttpApi} {text : Text} :
    (readRequest api text).kind = .empty ↔ requestWords text = none := by
  cases hwords : requestWords text with
  | none =>
      rw [readRequest_empty hwords]
      exact iff_of_true rfl rfl
  | some r =>
      refine iff_of_false ?_ (Option.some_ne_none r)
      cases hallows : api.allows text with
      | false =>
          rw [readRequest_refused hwords hallows]
          decide
      | true => exact (readRequest_kind hwords hallows).2.2.1

/-- What a local command does, by the operation its action names. -/
def performOp (w : World) : Option ApiOp → Served
  | some .lockDoor => performed .lockDoor (w.mod.lockDoor ⟨.unknown, 0⟩ w.env)
  | some .unlockDoor => performed .unlockDoor (w.mod.unlockDoor ⟨.unknown, 0⟩ w.env)
  | some .getDoorStatus => performed .getDoorStatus (w.mod.getDoorStatus ⟨.unknown, 0⟩ w.env)
  | _ => ⟨[], some .onPins, w.mod, some (sendResponse (errorJson "unknown action".toList))⟩

theorem performLocal_eq (w : World) (action : Text) :
    performLocal w action = performOp w (localOp action) := by
  unfold performLocal localOp
  dsimp only
  split
  · rfl
  · split
    · rfl
    · split <;> rfl

theorem performLocal_congr {w : World} {action action' : Text}
    (h : localOp action = localOp action') : performLocal w action = performLocal w action' := by
  rw [performLocal_eq, performLocal_eq, h]

theorem forward_congr {w : World} {mod action action' : Text} {target target' : Option Text}
    (h : target.getD [] = target'.getD []) (ha : action = action') :
    forward w mod target action = forward w mod target' action' := by
  subst ha
  unfold forward
  rw [h]

/-- A name that is no module id has no entry. -/
theorem forward_of_not_moduleId {w : World} (hr : w.hub.Reachable) {mod : Text}
    (hmod : isModuleId mod = false) (target : Option Text) (action : Text) :
    forward w mod target action
      = answer w [.hubUdpGetStatus mod] (failedJson "unknown_module".toList) := by
  have hnone : w.hub.hubUdpGetStatus mod = none := by
    cases hfind : w.hub.findDoor mod with
    | none => rw [Hub.hubUdpGetStatus, hfind, Option.map_none]
    | some d =>
        have hm := hr.isModuleId (Hub.findDoor_eq_some_iff.mp hfind).1
        rw [isModuleId_iff.mpr hm] at hmod
        cases hmod
  rw [forward, hnone]

theorem serve_of_alike {api : HttpApi} {w : World} (hr : w.hub.Reachable) {r r' : ApiRequest}
    (h : r.Alike api r') : serve api w r = serve api w r' := by
  cases r with
  | command mod target action =>
      cases r' with
      | command mod' target' action' =>
          obtain ⟨rfl, hrest⟩ := h
          simp only [serve]
          split
          · rename_i hlocal
            rw [if_pos hlocal] at hrest
            exact performLocal_congr hrest
          · rename_i hlocal
            rw [if_neg hlocal] at hrest
            cases hmod : isModuleId mod with
            | true => exact forward_congr (hrest hmod).1 (hrest hmod).2
            | false => rw [forward_of_not_moduleId hr hmod, forward_of_not_moduleId hr hmod]
      | _ => cases h
  | _ =>
      cases r' with
      | command mod' target' action' => cases h
      | _ => exact congrArg (serve api w) h

end HttpApi

/-! ## Worlds -/

/-- A world that the hub can get into. -/
structure World.Possible (w : World) : Prop where
  hub : w.hub.Reachable
  hubAfter : w.hubAfter.Reachable

theorem World.possible_initial : World.initial.Possible := ⟨.init [], .init []⟩

theorem Hub.hubUdpGetStatus_init (webhookUrl mod : Text) :
    (Hub.init webhookUrl).hubUdpGetStatus mod = none := by
  have hfind : (Hub.init webhookUrl).findDoor mod = none :=
    Hub.findDoor_eq_none_iff.mpr fun _ ht => absurd ht.1 nofun
  rw [Hub.hubUdpGetStatus, hfind, Option.map_none]

/-- A hub that has just received the HELLO of `m`. -/
def greetedBy (m : Text) : Hub :=
  ((Hub.init []).input (.datagram ⟨⟨1, 40000⟩, reportLine m .hello, 10, 10⟩)).1

theorem greetedBy_route {m : Text} (hm : IsModuleId m) :
    ∃ st, (greetedBy m).hubUdpGetStatus m = some st ∧ st.hasLastAddr = true := by
  have htok : Datagram.tokens ⟨⟨1, 40000⟩, reportLine m .hello, 10, 10⟩
      = m :: "HELLO".toList :: [] := by
    rw [Datagram.tokens_eq]
    exact wireTokens_reportLine hm .hello
  have hnone : (Hub.init []).findDoor m = none :=
    Hub.findDoor_eq_none_iff.mpr fun _ ht => absurd ht.1 nofun
  rcases Hub.handleLine_tracks_cases htok with
    ⟨d, hfind, -⟩ | ⟨-, d, -, hfirst, -, heq, htr⟩ | ⟨-, hfull, -⟩
  · rw [hnone] at hfind
    cases hfind
  · have hnew := htr d m
    rw [Hub.storedId_of_short hm.short] at hnew
    have hfind : (greetedBy m).findDoor m = some d := by
      refine Hub.findDoor_eq_some_iff.mpr ⟨hnew.mpr (Or.inr ⟨rfl, rfl⟩), fun j hj _ => ?_⟩
      exact absurd (hfirst j hj) nofun
    refine ⟨_, Hub.hubUdpGetStatus_of_find hfind, ?_⟩
    have hdoor : (greetedBy m).doors d
        = lineStatus (Hub.freshDoor m) m "HELLO".toList []
            ⟨⟨1, 40000⟩, reportLine m .hello, 10, 10⟩ := by
      show ((Hub.init []).handleLine _).1.doors d = _
      rw [heq, Function.update_self]
    rw [hdoor]
    rfl
  · exact absurd (hfull 0) nofun

/-- The world in which `m` has just greeted the hub. -/
def World.greeted (m : Text) : World :=
  { World.initial with hub := greetedBy m, hubAfter := greetedBy m }

theorem World.possible_greeted (m : Text) : (World.greeted m).Possible :=
  ⟨.input _ (.init []), .input _ (.init [])⟩

end HomeSecurity
