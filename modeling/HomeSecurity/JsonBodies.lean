import HomeSecurity.ApiRequest
import HomeSecurity.Json

/-!
# JSON built from network text

The status body of the API and the body that `sendDiscordAlert` posts are
`printf` templates: what a door sent goes between the quotes as it came.
`jsonBodies_iff` says for which texts that makes the JSON it is meant to be.
-/

namespace HomeSecurity

open CText Json

/-- The body that `sendDiscordAlert` posts. -/
def sendDiscordAlert (msg : Text) : CBuf 512 :=
  snprintf 512 ("\x7b\"content\":\"".toList ++ msg ++ "\"\x7d".toList)

/-- `alert_msg` of `trigger_discord_alert`. -/
def alertMsg (moduleId eventType door state : Text) : CBuf 256 :=
  snprintf 256 ('[' :: moduleId ++ "] ".toList ++ door ++ ' ' :: eventType
    ++ " is now ".toList ++ state)

/-! ## What they should say -/

/-- The strings and booleans of a status. -/
def hubStatusFields (st : HubDoorStatus) : List (Text × Value) :=
  [("module".toList, .str st.moduleId.text), ("d0_open".toList, .bool st.d0Open),
    ("d0_locked".toList, .bool st.d0Locked), ("d1_open".toList, .bool st.d1Open),
    ("d1_locked".toList, .bool st.d1Locked), ("front_door_open".toList, .bool st.d0Open),
    ("front_lock_locked".toList, .bool st.d1Locked),
    ("lastHBLine".toList, .str st.lastHeartbeatLine.text)]

/-- An object that has these fields. -/
def Says (body : Text) (fields : List (Text × Value)) : Prop :=
  ∃ members, parse body = some (.obj members) ∧ ∀ f ∈ fields, members.lookup f.1 = some f.2

/-! ## The status body -/

theorem reads_boolJson (b : Bool) : Reads (boolJson b) (.bool b) := by
  cases b with
  | true => exact reads_true
  | false => exact reads_false

/-- The members of the status body but for the last. -/
def hubStatusMembers (st : HubDoorStatus) : List (Text × Text) :=
  [("module".toList, quoted st.moduleId.text), ("d0_open".toList, boolJson st.d0Open),
    ("d0_locked".toList, boolJson st.d0Locked), ("d1_open".toList, boolJson st.d1Open),
    ("d1_locked".toList, boolJson st.d1Locked), ("front_door_open".toList, boolJson st.d0Open),
    ("front_lock_locked".toList, boolJson st.d1Locked),
    ("lastHB".toList, decimal st.lastHeartbeatMs)]

def hubStatusValues (st : HubDoorStatus) : List (Text × Value) :=
  [("module".toList, .str st.moduleId.text), ("d0_open".toList, .bool st.d0Open),
    ("d0_locked".toList, .bool st.d0Locked), ("d1_open".toList, .bool st.d1Open),
    ("d1_locked".toList, .bool st.d1Locked), ("front_door_open".toList, .bool st.d0Open),
    ("front_lock_locked".toList, .bool st.d1Locked),
    ("lastHB".toList, .num (decimal st.lastHeartbeatMs))]

def hubStatusObject (st : HubDoorStatus) : Text :=
  objectText (hubStatusMembers st) ("lastHBLine".toList, quoted st.lastHeartbeatLine.text)

theorem length_boolJson (b : Bool) : (boolJson b).length ≤ 5 := by
  cases b <;> decide

theorem hubStatusJson_text {st : HubDoorStatus} (hlo : -(2 ^ 63) ≤ st.lastHeartbeatMs)
    (hhi : st.lastHeartbeatMs < 2 ^ 63) : (hubStatusJson st).text = hubStatusObject st := by
  have htext : "\x7b\"module\":\"".toList ++ st.moduleId.text
      ++ "\",\"d0_open\":".toList ++ boolJson st.d0Open
      ++ ",\"d0_locked\":".toList ++ boolJson st.d0Locked
      ++ ",\"d1_open\":".toList ++ boolJson st.d1Open
      ++ ",\"d1_locked\":".toList ++ boolJson st.d1Locked
      ++ ",\"front_door_open\":".toList ++ boolJson st.d0Open
      ++ ",\"front_lock_locked\":".toList ++ boolJson st.d1Locked
      ++ ",\"lastHB\":".toList ++ decimal st.lastHeartbeatMs
      ++ ",\"lastHBLine\":\"".toList ++ st.lastHeartbeatLine.text ++ "\"\x7d".toList
      = hubStatusObject st := by
    simp only [hubStatusObject, objectText, hubStatusMembers, membersThen, List.foldr_cons,
      List.foldr_nil, memberText, quoted, List.append_assoc, List.cons_append, List.nil_append]
    rfl
  rw [hubStatusJson, htext]
  refine snprintf_text ?_
  have hfixed : "\x7b\"module\":\"".length + "\",\"d0_open\":".length
      + ",\"d0_locked\":".length + ",\"d1_open\":".length + ",\"d1_locked\":".length
      + ",\"front_door_open\":".length + ",\"front_lock_locked\":".length
      + ",\"lastHB\":".length + ",\"lastHBLine\":\"".length + "\"\x7d".length = 127 := by
    decide
  have hid : st.moduleId.text.length < 16 := st.moduleId.fits
  have hline : st.lastHeartbeatLine.text.length < 256 := st.lastHeartbeatLine.fits
  have hms := @length_decimal st.lastHeartbeatMs 18 (by omega)
  have h0 := length_boolJson st.d0Open
  have h0' := length_boolJson st.d0Locked
  have h1 := length_boolJson st.d1Open
  have h1' := length_boolJson st.d1Locked
  simp only [← htext, List.length_append, String.length_toList]
  omega

theorem isUtf8_boolJson (b : Bool) : IsUtf8 (boolJson b) := by
  cases b <;> decide

theorem isUtf8_decimal (i : Int) : IsUtf8 (decimal i) := by
  have hdigits : ∀ n, ∀ c ∈ Nat.toDigits 10 n, c.toNat < 0x80 := fun n c hc =>
    Nat.lt_of_le_of_lt (digit_bounds (isDigit_toDigits n c hc)).2 (by decide)
  refine isUtf8_of_ascii ?_
  cases i with
  | ofNat n => exact hdigits n
  | negSucc n => exact List.forall_mem_cons.mpr ⟨by decide, hdigits (n + 1)⟩

theorem isUtf8_hubStatusObject (st : HubDoorStatus) :
    IsUtf8 (hubStatusObject st)
      ↔ IsUtf8 st.moduleId.text ∧ IsUtf8 st.lastHeartbeatLine.text := by
  have hkeys : IsUtf8 "module".toList ∧ IsUtf8 "d0_open".toList ∧ IsUtf8 "d0_locked".toList
      ∧ IsUtf8 "d1_open".toList ∧ IsUtf8 "d1_locked".toList ∧ IsUtf8 "front_door_open".toList
      ∧ IsUtf8 "front_lock_locked".toList ∧ IsUtf8 "lastHB".toList
      ∧ IsUtf8 "lastHBLine".toList ∧ IsUtf8 [] := by
    decide
  simp only [hubStatusObject, objectText, hubStatusMembers, membersThen, List.foldr_cons,
    List.foldr_nil, memberText, quoted, List.append_assoc, List.cons_append, List.nil_append]
  simp (disch := decide) only [isUtf8_cons, isUtf8_append_cons, isUtf8_boolJson, isUtf8_decimal,
    hkeys, true_and, and_true]

theorem membersRead_hubStatus {st : HubDoorStatus} (hid : Plain st.moduleId.text) :
    MembersRead (hubStatusMembers st) (hubStatusValues st) := by
  refine membersRead_cons (by decide) (reads_str hid) ?_
  refine membersRead_cons (by decide) (reads_boolJson _) ?_
  refine membersRead_cons (by decide) (reads_boolJson _) ?_
  refine membersRead_cons (by decide) (reads_boolJson _) ?_
  refine membersRead_cons (by decide) (reads_boolJson _) ?_
  refine membersRead_cons (by decide) (reads_boolJson _) ?_
  refine membersRead_cons (by decide) (reads_boolJson _) ?_
  exact membersRead_cons (by decide) (reads_decimal _) .nil

/-- The status body says what it should if and only if id and heartbeat text can
stand between quotes as they are. -/
theorem says_hubStatus_iff (st : HubDoorStatus) :
    Says (hubStatusObject st) (hubStatusFields st) ↔
      Verbatim st.moduleId.text ∧ Verbatim st.lastHeartbeatLine.text := by
  constructor
  · rintro ⟨members, hparse, hfields⟩
    have hutf : IsUtf8 (hubStatusObject st) := by
      by_contra hnot
      rw [parse, if_neg hnot] at hparse
      cases hparse
    obtain ⟨hutf, hutf'⟩ := (isUtf8_hubStatusObject st).mp hutf
    have hmodule := hfields ("module".toList, .str st.moduleId.text) (by simp [hubStatusFields])
    have hid : Plain st.moduleId.text :=
      plain_of_parse .nil (by decide : Plain "module".toList) rfl hparse hmodule
    have hlast := hfields ("lastHBLine".toList, .str st.lastHeartbeatLine.text)
      (by simp [hubStatusFields])
    have hline : Plain st.lastHeartbeatLine.text :=
      plain_of_parse (membersRead_hubStatus hid) (by decide : Plain "lastHBLine".toList) rfl hparse
        hlast
    exact ⟨⟨hid, hutf⟩, ⟨hline, hutf'⟩⟩
  · rintro ⟨hid, hline⟩
    have hkey : Plain "lastHBLine".toList := by decide
    refine ⟨_, parse_objectText (membersRead_hubStatus hid.plain) hkey (reads_str hline.plain)
      ((isUtf8_hubStatusObject st).mpr ⟨hid.utf8, hline.utf8⟩), ?_⟩
    intro f hf
    simp only [hubStatusFields, List.mem_cons, List.not_mem_nil, or_false] at hf
    rcases hf with rfl | rfl | rfl | rfl | rfl | rfl | rfl | rfl <;> rfl

/-! ## The alert body -/

theorem sendDiscordAlert_text (msg : CBuf 256) :
    (sendDiscordAlert msg.text).text = objectText [] ("content".toList, quoted msg.text) := by
  have htext : "\x7b\"content\":\"".toList ++ msg.text ++ "\"\x7d".toList
      = objectText [] ("content".toList, quoted msg.text) := by
    simp only [objectText, membersThen, List.foldr_nil, memberText, quoted, List.append_assoc,
      List.cons_append, List.nil_append]
    rfl
  have hfixed : "\x7b\"content\":\"".length + "\"\x7d".length = 14 := by decide
  have hmsg := msg.fits
  rw [sendDiscordAlert, htext]
  refine snprintf_text ?_
  simp only [← htext, List.length_append, String.length_toList]
  omega

theorem says_sendDiscordAlert_iff (msg : CBuf 256) :
    Says (sendDiscordAlert msg.text).text [("content".toList, .str msg.text)]
      ↔ Verbatim msg.text := by
  have hkey : Plain "content".toList := by decide
  have hutf : IsUtf8 (objectText [] ("content".toList, quoted msg.text)) ↔ IsUtf8 msg.text := by
    have hkeys : IsUtf8 "content".toList ∧ IsUtf8 [] := by decide
    simp only [objectText, membersThen, List.foldr_nil, memberText, quoted, List.append_assoc,
      List.cons_append, List.nil_append]
    simp (disch := decide) only [isUtf8_cons, isUtf8_append_cons, hkeys, true_and, and_true]
  rw [sendDiscordAlert_text]
  constructor
  · rintro ⟨members, hparse, hfields⟩
    refine ⟨plain_of_parse .nil hkey rfl hparse (hfields _ (List.mem_singleton_self _)), ?_⟩
    by_contra hnot
    rw [parse, if_neg (mt hutf.mp hnot)] at hparse
    cases hparse
  · intro h
    refine ⟨_, parse_objectText .nil hkey (reads_str h.plain) (hutf.mpr h.utf8), fun f hf => ?_⟩
    rw [List.mem_singleton.mp hf]
    rfl

theorem triggerDiscordAlert_eq (h : Hub) (moduleId eventType door state : Text) :
    h.triggerDiscordAlert moduleId eventType door state
      = if h.webhookUrl = [] then [] else [.alert (alertMsg moduleId eventType door state)] := rfl

/-- The body of a status that the hub has, and of an alert that it raises, says
what it should if and only if what a door sent of it can stand between quotes as
it is. -/
theorem jsonBodies_iff (api : HttpApi) {w : World} {bytes m : Text}
    (hread : api.readRequest (HttpApi.received bytes) = .status (some m)) {st : HubDoorStatus}
    (hst : w.hub.hubUdpGetStatus m = some st)
    (hms : -(2 ^ 63) ≤ st.lastHeartbeatMs ∧ st.lastHeartbeatMs < 2 ^ 63)
    (h : Hub) (moduleId eventType door state : Text) :
    (∃ resp, (api.handleClient w bytes).response = some resp ∧
      (Says resp.body (hubStatusFields st) ↔
        Verbatim st.moduleId.text ∧ Verbatim st.lastHeartbeatLine.text)) ∧
    ((∀ msg, .alert msg ∈ h.triggerDiscordAlert moduleId eventType door state →
        Says (sendDiscordAlert msg.text).text [("content".toList, .str msg.text)]) ↔
      h.webhookUrl = [] ∨ Verbatim (alertMsg moduleId eventType door state).text) := by
  constructor
  · refine ⟨sendResponse (hubStatusJson st).text, ?_, ?_⟩
    · rw [HttpApi.handleClient_eq, hread, HttpApi.serve, HttpApi.serveModule, hst]
    · rw [sendResponse_body, hubStatusJson_text hms.1 hms.2]
      exact says_hubStatus_iff st
  · rw [triggerDiscordAlert_eq]
    by_cases hurl : h.webhookUrl = []
    · rw [if_pos hurl]
      exact iff_of_true (fun _ hmsg => absurd hmsg List.not_mem_nil) (Or.inl hurl)
    · rw [if_neg hurl, or_iff_right hurl, ← says_sendDiscordAlert_iff]
      refine ⟨fun hall => hall _ (List.mem_singleton_self _), fun hsays msg hmsg => ?_⟩
      obtain rfl := HubOut.alert.inj (List.mem_singleton.mp hmsg)
      exact hsays

/-- The texts and the time of a status. -/
def HubDoorStatus.texts (st : HubDoorStatus) : Text × Text × Int :=
  (st.moduleId.text, st.lastHeartbeatLine.text, st.lastHeartbeatMs)

/-- What a hub with the webhook has stored of D1's heartbeat, and the alert it raises when
D1 then reports its door open. -/
theorem jsonBodies_heartbeat :
    ∃ h st resp msg, Hub.Reachable h ∧ h.hubUdpGetStatus "D1".toList = some st
      ∧ st.lastHeartbeatLine.text = "D0=OPEN,UNLOCKED D1=CLOSED,LOCKED".toList
      ∧ ((httpApiStart none "D2".toList).handleClient { World.initial with hub := h }
        "GET /api/status?module=D1 HTTP/1.1\r\n\r\n".toList).response = some resp
      ∧ Says resp.body (hubStatusFields st)
      ∧ h.triggerDiscordAlert "D1".toList "DOOR".toList "D0".toList "OPEN".toList = [.alert msg]
      ∧ Says (sendDiscordAlert msg.text).text [("content".toList, .str msg.text)] := by
  let beat : Hub.Input :=
    .datagram ⟨⟨1, 40000⟩, "D1 HEARTBEAT D0=OPEN,UNLOCKED D1=CLOSED,LOCKED".toList, 10, 10⟩
  let h := ((Hub.init "https://hook".toList).input beat).1
  have hobs : (h.hubUdpGetStatus "D1".toList).map HubDoorStatus.texts
      = some ("D1".toList, "D0=OPEN,UNLOCKED D1=CLOSED,LOCKED".toList, 10) := by
    decide +kernel
  obtain ⟨st, hst, htexts⟩ := Option.map_eq_some_iff.mp hobs
  obtain ⟨hid, hrest⟩ := Prod.mk.inj htexts
  obtain ⟨hline, hms⟩ := Prod.mk.inj hrest
  have hread : (httpApiStart none "D2".toList).readRequest
      (HttpApi.received "GET /api/status?module=D1 HTTP/1.1\r\n\r\n".toList)
      = .status (some "D1".toList) := by
    decide +kernel
  obtain ⟨⟨resp, hresp, hsays⟩, halert⟩ :=
    jsonBodies_iff _ (w := { World.initial with hub := h }) hread hst (by rw [hms]; decide) h
      "D1".toList "DOOR".toList "D0".toList "OPEN".toList
  have hraised : h.triggerDiscordAlert "D1".toList "DOOR".toList "D0".toList "OPEN".toList
      = [.alert (alertMsg "D1".toList "DOOR".toList "D0".toList "OPEN".toList)] := rfl
  refine ⟨h, st, resp, _, .input beat (.init _), hst, hline, hresp, hsays.mpr ?_, hraised,
    halert.mpr (Or.inr ?_) _ ?_⟩
  · rw [hid, hline]
    exact ⟨⟨by decide, by decide⟩, ⟨by decide, by decide⟩⟩
  · exact ⟨by decide +kernel, by decide +kernel⟩
  · rw [hraised]
    exact List.mem_singleton_self _

/-- A quote in a heartbeat. -/
theorem jsonBodies_quote :
    ∃ h st, Hub.Reachable h ∧ h.hubUdpGetStatus "D1".toList = some st
      ∧ ¬Says (hubStatusJson st).text (hubStatusFields st) := by
  let beat : Hub.Input :=
    .datagram ⟨⟨1, 40000⟩, "D1 HEARTBEAT \",\"d0_locked\":true,\"".toList, 10, 10⟩
  have hobs : (((Hub.init []).input beat).1.hubUdpGetStatus "D1".toList).map HubDoorStatus.texts
      = some ("D1".toList, "\",\"d0_locked\":true,\"".toList, 10) := by
    decide +kernel
  obtain ⟨st, hst, htexts⟩ := Option.map_eq_some_iff.mp hobs
  obtain ⟨-, hrest⟩ := Prod.mk.inj htexts
  obtain ⟨hline, hms⟩ := Prod.mk.inj hrest
  refine ⟨_, st, .input beat (.init []), hst, fun hsays => ?_⟩
  rw [hubStatusJson_text (by rw [hms]; decide) (by rw [hms]; decide), says_hubStatus_iff, hline]
    at hsays
  exact absurd hsays.2.plain (by decide)

end HomeSecurity
