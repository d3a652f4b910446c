import HomeSecurity.ApiRequest

/-!
# Requests in several segments

`handle_client` calls `recv` once: of a request that arrives in several segments
it reads the first. `segmentation_iff` says for which ways of cutting a request
nothing is lost by that: those whose first segment asks for the same as the
whole text, but for what the API has no use for. Requests that are not alike in
this sense are told apart by what is done or answered, in the world just after
the start or in one where a door has greeted the hub.
-/

namespace HomeSecurity

open CText

/-! ## Just after the start -/

/-- A word for each operation that a command to the local door can ask for. -/
def localWord : Option ApiOp → Text
  | some .lockDoor => "LOCK".toList
  | some .unlockDoor => "UNLOCK".toList
  | some _ => "STATUS".toList
  | none => []

/-- A command with as much of it as shows in a world without modules. -/
def ApiRequest.outline (api : HttpApi) : ApiRequest → ApiRequest
  | .command mod _ action =>
      .command mod none (if mod = api.moduleId.text then localWord (localOp action) else [])
  | r => r

namespace HttpApi

/-- The same, read off what was served. -/
def outlineOf (api : HttpApi) (s : Served) : ApiRequest :=
  match s.response with
  | none => .empty
  | some resp =>
      match s.ops with
      | [] =>
          if resp.body = errorJson "unauthorized".toList then .refused
          else if resp.body = errorJson "unknown endpoint".toList then .elsewhere
          else if resp.body = errorJson "missing module".toList then .status none
          else if resp.body = errorJson "no body".toList then .noBody
          else if resp.body = errorJson "missing fields".toList then .incomplete
          else .command api.moduleId.text none []
      | .lockDoor :: _ => .command api.moduleId.text none "LOCK".toList
      | .unlockDoor :: _ => .command api.moduleId.text none "UNLOCK".toList
      | .hubUdpGetStatus mod :: _ =>
          if resp.body = failedJson "unknown_module".toList then .command mod none []
          else .status (some mod)
      | _ => .command api.moduleId.text none "STATUS".toList

theorem outlineOf_serve (api : HttpApi) (r : ApiRequest) :
    outlineOf api (serve api .initial r) = r.outline api := by
  cases r with
  | empty => rfl
  | refused => rfl
  | elsewhere => rfl
  | noBody => rfl
  | incomplete => rfl
  | status mod =>
      cases mod with
      | none => rfl
      | some mod =>
          have hnone : World.initial.hub.hubUdpGetStatus mod = none :=
            Hub.hubUdpGetStatus_init [] mod
          rw [serve, serveModule, hnone]
          dsimp only
          split
          · rfl
          · rfl
  | command mod target action =>
      rw [serve, ApiRequest.outline]
      split
      · rename_i hlocal
        subst hlocal
        rw [performLocal_eq]
        rcases localOp_cases action with h | h | h | h <;> rw [h] <;> rfl
      · have hnone : World.initial.hub.hubUdpGetStatus mod = none := Hub.hubUdpGetStatus_init [] mod
        rw [forward, hnone]
        rfl

/-- An operation is read off its word. -/
theorem localOp_localWord (action : Text) :
    localOp (localWord (localOp action)) = localOp action := by
  rcases localOp_cases action with h | h | h | h <;> rw [h] <;> rfl

/-! ## Once a door has greeted the hub -/

theorem forward_ops_greeted {m : Text} (hm : IsModuleId m) (target : Option Text) (action : Text) :
    (forward (World.greeted m) m target action).ops
      = [.hubUdpGetStatus m, .hubUdpSendCommand m (target.getD []) action] := by
  obtain ⟨st, hst, hroute⟩ := greetedBy_route hm
  have hst' : (World.greeted m).hub.hubUdpGetStatus m = some st := hst
  rw [forward, hst']
  dsimp only
  rw [hroute]
  rfl

/-! ## Telling requests apart -/

theorem serve_eq_iff (api : HttpApi) (r r' : ApiRequest) :
    (∀ w : World, w.Possible → serve api w r = serve api w r') ↔ r.Alike api r' := by
  refine ⟨fun h => ?_, fun h w hw => serve_of_alike hw.hub h⟩
  have hline : r.outline api = r'.outline api := by
    rw [← outlineOf_serve, ← outlineOf_serve, h .initial World.possible_initial]
  cases r with
  | command mod target action =>
      cases r' with
      | command mod' target' action' =>
          obtain rfl : mod = mod' := by
            injection hline
          refine ⟨rfl, ?_⟩
          split
          · rename_i hlocal
            simp only [ApiRequest.outline, if_pos hlocal] at hline
            injection hline with _ _ hword
            rw [← localOp_localWord action, hword, localOp_localWord]
          · rename_i hlocal
            intro hm
            have hops := congrArg Served.ops (h (.greeted mod) (World.possible_greeted mod))
            simp only [serve, if_neg hlocal, forward_ops_greeted (isModuleId_iff.mp hm)] at hops
            simpa using hops
      | _ => cases hline
  | _ =>
      cases r' with
      | command mod' target' action' => cases hline
      | _ => exact hline

/-! ## Telling it from the text -/

/-- The same in the fields that matter. -/
def SameForm (api : HttpApi) (f f' : Form) : Prop :=
  match f.module, f.action, f'.module, f'.action with
  | some m, some a, some m', some a' =>
      m = m' ∧
        if m = api.moduleId.text then localOp a = localOp a'
        else isModuleId m = true → f.target.getD [] = f'.target.getD [] ∧ a = a'
  | some _, some _, _, _ => False
  | _, _, some _, some _ => False
  | _, _, _, _ => True

/-- The empty line has come in both or in neither, and what follows it is the
same in the fields that matter. -/
def SameBody (api : HttpApi) (text text' : Text) : Prop :=
  match strstr (crlf ++ crlf) text, strstr (crlf ++ crlf) text' with
  | some (_, body), some (_, body') => SameForm api (readForm body) (readForm body')
  | none, none => True
  | _, _ => False

/-- A segment and a whole request with the same path, as far as it matters, and
the same of what goes with that path. -/
structure SameTask (api : HttpApi) (seg whole method path method' path' : Text) : Prop where
  status : IsStatus method path ↔ IsStatus method' path'
  query : IsStatus method path →
    getQueryValue path "module".toList = getQueryValue path' "module".toList
  command : IsCommand method path ↔ IsCommand method' path'
  body : IsCommand method path → SameBody api seg whole

/-- The segment says all that matters of the request: both words, the token
line if one is needed and there, and the same task. -/
structure Suffices (api : HttpApi) (seg whole : Text) : Prop where
  words : requestWords seg = none ↔ requestWords whole = none
  token : ∀ r ∈ requestWords seg, api.allows seg = api.allows whole
  task : ∀ r ∈ requestWords seg, ∀ r' ∈ requestWords whole, api.allows whole = true →
    SameTask api seg whole r.1 r.2 r'.1 r'.2

theorem sameBody_iff (api : HttpApi) (seg whole : Text) :
    SameBody api seg whole ↔ (readCommand seg).Alike api (readCommand whole) := by
  unfold SameBody readCommand
  cases strstr (crlf ++ crlf) seg with
  | none =>
      cases strstr (crlf ++ crlf) whole with
      | none => exact ⟨fun _ => rfl, fun _ => trivial⟩
      | some r' =>
          dsimp only
          cases (readForm r'.2).module <;> cases (readForm r'.2).action <;> exact ⟨nofun, nofun⟩
  | some r =>
      cases strstr (crlf ++ crlf) whole with
      | none =>
          dsimp only
          cases (readForm r.2).module <;> cases (readForm r.2).action <;> exact ⟨nofun, nofun⟩
      | some r' =>
          dsimp only
          rw [SameForm]
          cases (readForm r.2).module <;> cases (readForm r.2).action <;>
            cases (readForm r'.2).module <;> cases (readForm r'.2).action <;>
            simp [ApiRequest.Alike]

theorem sameTask_iff {api : HttpApi} {seg whole : Text} {r r' : Text × Text}
    (hwords : requestWords seg = some r) (hwords' : requestWords whole = some r')
    (hallows : api.allows seg = true) (hallows' : api.allows whole = true) :
    SameTask api seg whole r.1 r.2 r'.1 r'.2
      ↔ (readRequest api seg).Alike api (readRequest api whole) := by
  obtain ⟨hstatus, hcommand, -⟩ := readRequest_kind hwords hallows
  obtain ⟨hstatus', hcommand', -⟩ := readRequest_kind hwords' hallows'
  constructor
  · intro h
    by_cases hs : IsStatus r.1 r.2
    · rw [readRequest_status hwords hallows hs,
        readRequest_status hwords' hallows' (h.status.mp hs), h.query hs]
      rfl
    · by_cases hc : IsCommand r.1 r.2
      · rw [readRequest_command hwords hallows hc,
          readRequest_command hwords' hallows' (h.command.mp hc)]
        exact (sameBody_iff api seg whole).mp (h.body hc)
      · rw [readRequest_elsewhere hwords hallows hs hc,
          readRequest_elsewhere hwords' hallows' (mt h.status.mpr hs) (mt h.command.mpr hc)]
        rfl
  · intro h
    have hs : IsStatus r.1 r.2 ↔ IsStatus r'.1 r'.2 := by rw [← hstatus, ← hstatus', h.kind]
    have hc : IsCommand r.1 r.2 ↔ IsCommand r'.1 r'.2 := by rw [← hcommand, ← hcommand', h.kind]
    refine ⟨hs, fun hstat => ?_, hc, fun hcom => ?_⟩
    · rw [readRequest_status hwords hallows hstat,
        readRequest_status hwords' hallows' (hs.mp hstat)] at h
      exact ApiRequest.status.inj h
    · rw [readRequest_command hwords hallows hcom,
        readRequest_command hwords' hallows' (hc.mp hcom)] at h
      exact (sameBody_iff api seg whole).mpr h

theorem suffices_iff (api : HttpApi) (seg whole : Text) :
    Suffices api seg whole ↔ (readRequest api seg).Alike api (readRequest api whole) := by
  constructor
  · intro h
    cases hwords : requestWords seg with
    | none =>
        rw [readRequest_empty hwords, readRequest_empty (h.words.mp hwords)]
        rfl
    | some r =>
        obtain ⟨r', hwords'⟩ : ∃ r', requestWords whole = some r' := by
          refine Option.ne_none_iff_exists'.mp fun hnone => ?_
          rw [h.words.mpr hnone] at hwords
          cases hwords
        have hsame := h.token r hwords
        cases hallows' : api.allows whole with
        | false =>
            rw [readRequest_refused hwords (hsame.trans hallows'),
              readRequest_refused hwords' hallows']
            rfl
        | true =>
            exact (sameTask_iff hwords hwords' (hsame.trans hallows') hallows').mp
              (h.task r hwords r' hwords' hallows')
  · intro h
    have hwords : requestWords seg = none ↔ requestWords whole = none := by
      rw [← @kind_eq_empty_iff api, ← @kind_eq_empty_iff api, h.kind]
    have htoken : ∀ r ∈ requestWords seg, api.allows seg = api.allows whole := by
      intro r hr
      obtain ⟨r', hr'⟩ : ∃ r', requestWords whole = some r' := by
        refine Option.ne_none_iff_exists'.mp fun hnone => ?_
        rw [hwords.mpr hnone] at hr
        cases hr
      rw [← Bool.not_inj_iff, Bool.eq_iff_iff, Bool.not_eq_true', Bool.not_eq_true',
        ← kind_eq_refused_iff hr, ← kind_eq_refused_iff hr', h.kind]
    refine ⟨hwords, htoken, fun r hr r' hr' hallows' => ?_⟩
    exact (sameTask_iff hr hr' ((htoken r hr).trans hallows') hallows').mpr h

/-! ## The first segment -/

/-- A connection is served like one on which the whole request comes at once if
and only if the first segment already says all that matters. -/
theorem segmentation_iff (api : HttpApi) (segments : List Text) :
    (∀ w : World, w.Possible →
      handleConnection api w segments = handleConnection api w [segments.flatten]) ↔
    Suffices api (received (segments.headD [])) (received segments.flatten) := by
  have hserved : ∀ w segs, handleConnection api w segs
      = serve api w (readRequest api (received (segs.headD []))) := by
    intro w segs
    cases segs with
    | nil => rfl
    | cons seg rest => exact handleClient_eq api w seg
  rw [suffices_iff, ← serve_eq_iff]
  simp only [hserved, List.headD_cons]

/-- A request with an empty line after its headers. -/
structure HttpRequest where
  method : Text
  path : Text
  headers : List (Text × Text)
  body : Text

namespace HttpRequest

def headerLine (h : Text × Text) : Text := h.1 ++ ": ".toList ++ h.2 ++ crlf

def head (r : HttpRequest) : Text :=
  r.method ++ ' ' :: r.path ++ " HTTP/1.1".toList ++ crlf ++ r.headers.flatMap headerLine ++ crlf

/-- The body is as long as `Content-Length` says, and the whole fits the buffer. -/
structure WellFormed (r : HttpRequest) : Prop where
  method : IsToken r.method
  path : IsToken r.path
  names : ∀ h ∈ r.headers, IsToken h.1 ∧ ':' ∉ h.1
  values : ∀ h ∈ r.headers, '\r' ∉ h.2 ∧ '\n' ∉ h.2
  length : ("Content-Length".toList, decimal r.body.length) ∈ r.headers
  fits : (r.head ++ r.body).length ≤ 8191

end HttpRequest

/-- The body in a segment of its own: the command is not carried out. -/
theorem segmentation_bodyApart :
    let r : HttpRequest := ⟨"POST".toList, "/api/command".toList,
      [("Content-Length".toList, "31".toList)], "module=D1&target=D0&action=LOCK".toList⟩
    let api := httpApiStart none "D1".toList
    r.WellFormed ∧ r.body ≠ []
      ∧ (handleConnection api .initial [r.head ++ r.body]).ops = [.lockDoor]
      ∧ (handleConnection api .initial [r.head, r.body]).ops = [] := by
  refine ⟨⟨.of_all (by decide) (by decide) (by decide), .of_all (by decide) (by decide) (by decide),
    ?_, ?_, ?_, ?_⟩, ?_, ?_, ?_⟩
  · simp only [List.mem_singleton]
    rintro h rfl
    exact ⟨.of_all (by decide) (by decide) (by decide), by decide⟩
  · simp only [List.mem_singleton]
    rintro h rfl
    decide
  · exact List.mem_singleton.mpr rfl
  · decide
  · nofun
  · decide +kernel
  · decide +kernel

end HttpApi

end HomeSecurity
