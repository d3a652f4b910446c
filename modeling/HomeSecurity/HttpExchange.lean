import HomeSecurity.FormText
import HomeSecurity.Segmentation
import HomeSecurity.TokenGate

/-!
# Requests and responses on the wire

What a client of the API writes and what the hub reads of it, and back. A request
is read as the structure it was written from (`readRequest_wire`), entry by entry
of its form (`formRoundTrip`); of a key that comes twice the query has the first
value and the form the last. Every response is a complete message
(`readResponse_wire`): its header is never cut off at the end of its buffer, and
the length it announces is that of the body.
-/

namespace HomeSecurity

open CText FormText

/-- Everything sent of a response. -/
def Response.wire (resp : Response) : Text := resp.header.text ++ resp.body

/-- Answered with 200 or 401, and a body that fits the buffers the API has. -/
def Served.Answers (s : Served) : Prop :=
  ∃ code body, s.response = some (sendResponseStatus code body) ∧ (code = 200 ∨ code = 401)
    ∧ body.length < 512

namespace HttpApi

/-! ## Entries -/

theorem tokenValue_eq (key tok : Text) :
    tokenValue key tok = (strchr '=' tok).bind (valueFor key) :=
  rfl

theorem findSome?_tokenValue (key : Text) (toks : List Text) :
    toks.findSome? (tokenValue key) = first key (toks.filterMap (strchr '=')) := by
  induction toks with
  | nil => rfl
  | cons tok toks ih =>
      rw [List.findSome?_cons, ih, tokenValue_eq]
      cases hcut : strchr '=' tok with
      | none => rw [List.filterMap_cons_none hcut, Option.bind_none]
      | some e =>
          rw [List.filterMap_cons_some hcut, Option.bind_some, first, first, List.findSome?_cons]

/-- The query's value for a key is the first. -/
theorem getQueryValue_eq (path key : Text) :
    getQueryValue path key = (strchr '?' path).bind fun q => first key (entries q.2) := by
  rw [getQueryValue]
  refine congrArg (Option.bind (strchr '?' path)) (funext fun q => ?_)
  exact findSome?_tokenValue key _

/-- The form that the entries make. -/
def Form.ofEntries (es : List (Text × Text)) : Form where
  module := last "module".toList es
  target := last "target".toList es
  action := last "action".toList es

theorem read_ofEntries {toks : List Text} {tok : Text} :
    (Form.ofEntries (toks.filterMap (strchr '='))).read tok
      = Form.ofEntries ((toks ++ [tok]).filterMap (strchr '=')) := by
  rw [List.filterMap_append, Form.read]
  cases hcut : strchr '=' tok with
  | none => rw [List.filterMap_cons_none hcut, List.filterMap_nil, List.append_nil]
  | some e =>
      rw [List.filterMap_cons_some hcut, List.filterMap_nil]
      simp only [Form.ofEntries, last_append, valueFor]
      split
      · rename_i hkey
        simp [hkey]
      · split
        · rename_i hkey
          simp [hkey]
        · split <;> simp

/-- The form's value for a key is the last. -/
theorem readForm_eq (body : Text) : readForm body = Form.ofEntries (entries body) := by
  rw [readForm, entries]
  generalize strtok (· = '&') body = toks
  induction toks using List.reverseRecOn with
  | nil => rfl
  | append_singleton toks tok ih =>
      rw [List.foldl_append, ih]
      exact read_ofEntries

/-- Query and form give back the entries they were written from: of a key the query its
first value, the form its last, and both the same where no key has two values. -/
theorem formRoundTrip {front : Text} (hfront : '?' ∉ front) {es : List (Text × Text)}
    (hes : ∀ e ∈ es, IsEntry e) :
    (∀ key, getQueryValue (front ++ '?' :: encode es) key = first key es)
      ∧ readForm (encode es) = Form.ofEntries es
      ∧ ((∀ k v w, (k, v) ∈ es → (k, w) ∈ es → v = w) →
        ∀ key, last key (entries (encode es)) = getQueryValue (front ++ '?' :: encode es) key) := by
  have hcut : strchr '?' (front ++ '?' :: encode es) = some (front, encode es) :=
    strchr_eq_some_iff.mpr ⟨rfl, hfront⟩
  have hquery : ∀ key, getQueryValue (front ++ '?' :: encode es) key = first key es := by
    intro key
    rw [getQueryValue_eq, hcut, Option.bind_some, entries_encode hes]
  refine ⟨hquery, ?_, fun hsame key => ?_⟩
  · rw [readForm_eq, entries_encode hes]
  · rw [hquery, entries_encode hes]
    exact (first_eq_last (hsame key)).symm

/-- A command with the module given twice. -/
def moduleTwice : List (Text × Text) :=
  [("module".toList, "D1".toList), ("action".toList, "LOCK".toList),
    ("module".toList, "D2".toList)]

theorem formRoundTrip_moduleTwice :
    getQueryValue ("/api/status".toList ++ '?' :: encode moduleTwice) "module".toList
        = some "D1".toList
      ∧ readForm (encode moduleTwice) = ⟨some "D2".toList, none, some "LOCK".toList⟩ := by
  have hes : ∀ e ∈ moduleTwice, IsEntry e := by
    simp only [moduleTwice, List.mem_cons, List.not_mem_nil, or_false]
    rintro e (rfl | rfl | rfl) <;> exact ⟨by decide, by decide⟩
  have hfront : '?' ∉ "/api/status".toList := by decide
  obtain ⟨hquery, hform, -⟩ := formRoundTrip hfront hes
  exact ⟨hquery _, hform⟩

/-! ## A request as it is sent -/

/-- All its bytes. -/
def HttpRequest.wire (r : HttpRequest) : Text := r.head ++ r.body

/-- Names of headers are tokens without a colon, values have no line end. -/
structure AreHeaders (hs : List (Text × Text)) : Prop where
  names : ∀ h ∈ hs, IsToken h.1 ∧ ':' ∉ h.1
  values : ∀ h ∈ hs, '\r' ∉ h.2

/-- A request that is read whole: its words fit their buffers, the whole fits the
receive buffer, and its lines are lines. -/
structure HttpRequest.Readable (r : HttpRequest) : Prop where
  method : IsWord isspace r.method ∧ r.method.length ≤ 7
  path : IsWord isspace r.path ∧ r.path.length ≤ 1023
  headers : AreHeaders r.headers
  nulFree : ∀ c ∈ r.wire, c ≠ Char.ofNat 0
  fits : r.wire.length ≤ 8191

/-- The value of the first header with the name, ignoring case and spaces in front. -/
def headerValue (hs : List (Text × Text)) (key : Text) : Option Text :=
  hs.findSome? fun h =>
    if h.1.map Char.toLower = key.map Char.toLower then some (h.2.dropWhile (· = ' ')) else none

/-- The entries of the path's query. -/
def HttpRequest.query (r : HttpRequest) : List (Text × Text) :=
  match strchr '?' r.path with
  | none => []
  | some q => entries q.2

/-- Whether the token, if one is set, is with the request. -/
def HttpRequest.Admitted (r : HttpRequest) (api : HttpApi) : Prop :=
  ∀ token ∈ api.token, headerValue r.headers tokenKey = some token

instance (r : HttpRequest) (api : HttpApi) : Decidable (r.Admitted api) :=
  inferInstanceAs (Decidable (∀ token ∈ api.token, headerValue r.headers tokenKey = some token))

def Form.asks (f : Form) : ApiRequest :=
  match f.module, f.action with
  | some mod, some action => .command mod f.target action
  | _, _ => .incomplete

/-- What the request asks for, by its parts. -/
def HttpRequest.asks (r : HttpRequest) (api : HttpApi) : ApiRequest :=
  if ¬r.Admitted api then .refused
  else if r.method = "GET".toList ∧ "/api/status".toList <+: r.path then
    .status (first "module".toList r.query)
  else if r.method = "POST".toList ∧ r.path = "/api/command".toList then
    (Form.ofEntries (entries r.body)).asks
  else .elsewhere

/-! ## Its lines -/

/-- A header without its line end. -/
def fieldLine (h : Text × Text) : Text := h.1 ++ ": ".toList ++ h.2

namespace HttpRequest

def startLine (r : HttpRequest) : Text := r.method ++ ' ' :: r.path ++ " HTTP/1.1".toList

theorem wire_eq (r : HttpRequest) :
    r.wire = r.startLine ++ crlf ++ (terminated (r.headers.map fieldLine) ++ (crlf ++ r.body)) := by
  have hlines : ∀ hs : List (Text × Text),
      hs.flatMap headerLine = terminated (hs.map fieldLine) := by
    intro hs
    rw [terminated, List.map_map]
    rfl
  rw [wire, head, hlines]
  simp only [startLine, List.append_assoc, List.cons_append]

end HttpRequest

theorem not_infix_crlf {l : Text} (h : '\r' ∉ l) : ¬crlf <:+: l :=
  fun hin => h (hin.subset (List.mem_cons_self ..))

theorem not_mem_of_isWord {delim : Char → Bool} {w : Text} (hw : IsWord delim w) {c : Char}
    (hc : delim c = true) : c ∉ w := by
  intro hmem
  rw [hw.free c hmem] at hc
  cases hc

theorem AreHeaders.nil : AreHeaders [] := ⟨nofun, nofun⟩

theorem AreHeaders.cons {name value : Text} {hs : List (Text × Text)} (hname : IsToken name)
    (hcolon : ':' ∉ name) (hvalue : '\r' ∉ value) (hhs : AreHeaders hs) :
    AreHeaders ((name, value) :: hs) :=
  ⟨List.forall_mem_cons.mpr ⟨⟨hname, hcolon⟩, hhs.names⟩,
    List.forall_mem_cons.mpr ⟨hvalue, hhs.values⟩⟩

theorem AreHeaders.lines {hs : List (Text × Text)} (hhs : AreHeaders hs) :
    ∀ l ∈ hs.map fieldLine, l ≠ [] ∧ '\r' ∉ l := by
  intro l hl
  obtain ⟨h, hh, rfl⟩ := List.mem_map.mp hl
  obtain ⟨hname, -⟩ := hhs.names h hh
  have hfree := not_mem_of_isWord hname.toIsWord (c := '\r') (by rfl)
  refine ⟨by simp [fieldLine], ?_⟩
  simp [fieldLine, hfree, hhs.values h hh]

/-- A message is taken apart into the lines it was put together from. -/
theorem head_of_headers {start : Text} (hstart : '\r' ∉ start) {hs : List (Text × Text)}
    (hhs : AreHeaders hs) (body : Text) :
    Head (start ++ crlf ++ (terminated (hs.map fieldLine) ++ (crlf ++ body))) start
      (hs.map fieldLine) (crlf ++ body) where
  eq := rfl
  first := not_infix_crlf hstart
  lines l hl := (hhs.lines l hl).imp_right not_infix_crlf
  rest := Or.inl ⟨body, rfl⟩

theorem startLine_free {r : HttpRequest} (hr : r.Readable) : '\r' ∉ r.startLine := by
  have hmethod := not_mem_of_isWord hr.method.1 (c := '\r') (by rfl)
  have hpath := not_mem_of_isWord hr.path.1 (c := '\r') (by rfl)
  simp [HttpRequest.startLine, hmethod, hpath]

/-! ## What is read of it -/

theorem fieldName_token {name : Text} (h : ' ' ∉ name) : fieldName name = name := by
  refine List.rdropWhile_eq_self_iff.mpr fun hne hlast => h ?_
  rw [← of_decide_eq_true hlast]
  exact List.getLast_mem hne

theorem fieldValue_fieldLine {h : Text × Text} (hname : IsToken h.1) (hcolon : ':' ∉ h.1)
    (key : Text) :
    fieldValue key (fieldLine h)
      = if h.1.map Char.toLower = key.map Char.toLower then some (h.2.dropWhile (· = ' '))
        else none := by
  have hcut : strchr ':' (fieldLine h) = some (h.1, ' ' :: h.2) :=
    strchr_eq_some_iff.mpr ⟨by simp [fieldLine], hcolon⟩
  have hspace := not_mem_of_isWord hname.toIsWord (c := ' ') (by rfl)
  have hcmp := @strncasecmpEq_fieldName_iff key h.1
  rw [fieldName_token hspace] at hcmp
  rw [fieldValue, hcut, Option.bind_some]
  dsimp only
  rw [fieldName_token hspace, if_congr hcmp rfl rfl]
  rfl

/-- A header is found by its name. -/
theorem getHeaderValue_headers {start : Text} (hstart : '\r' ∉ start) {hs : List (Text × Text)}
    (hhs : AreHeaders hs) (body key : Text) :
    getHeaderValueFromRequest (start ++ crlf ++ (terminated (hs.map fieldLine) ++ (crlf ++ body)))
      key = headerValue hs key := by
  rw [getHeaderValue_of_head (head_of_headers hstart hhs body), headerValue]
  have hnames := hhs.names
  clear hhs
  induction hs with
  | nil => rfl
  | cons h hs ih =>
      obtain ⟨⟨hname, hcolon⟩, hnames⟩ := List.forall_mem_cons.mp hnames
      rw [List.map_cons, List.findSome?_cons, List.findSome?_cons, ih hnames,
        fieldValue_fieldLine hname hcolon]

/-- A needle is not found where its first character is missing. -/
theorem strstr_skip {c : Char} {needle l : Text} (h : c ∉ l) (s : Text) :
    strstr (c :: needle) (l ++ s) = (strstr (c :: needle) s).map fun p => (l ++ p.1, p.2) := by
  induction l with
  | nil =>
      rw [List.nil_append]
      exact (congrFun Option.map_id _).symm
  | cons d l ih =>
      obtain ⟨hne, hfree⟩ := not_or.mp (mt List.mem_cons.mpr h)
      have hpre : (c :: needle).isPrefixOf (d :: (l ++ s)) = false := by
        simp [List.isPrefixOf, hne]
      rw [List.cons_append, strstr, hpre, if_neg Bool.false_ne_true, ih hfree, Option.map_map]
      rfl

/-- The end of a line before another is no empty line. -/
theorem strstr_lineEnd {d : Char} (hd : d ≠ '\r') (s : Text) :
    strstr (crlf ++ crlf) (crlf ++ d :: s)
      = (strstr (crlf ++ crlf) (d :: s)).map fun p => (crlf ++ p.1, p.2) := by
  have hpre : ('\r' :: '\n' :: crlf).isPrefixOf ('\r' :: '\n' :: d :: s) = false := by
    simp [List.isPrefixOf, crlf, Ne.symm hd]
  have hskip := @strstr_skip '\r' ('\n' :: crlf) ['\n'] (by decide) (d :: s)
  rw [List.singleton_append] at hskip
  change strstr ('\r' :: '\n' :: crlf) ('\r' :: '\n' :: d :: s)
    = (strstr ('\r' :: '\n' :: crlf) (d :: s)).map _
  rw [strstr, hpre, if_neg Bool.false_ne_true, hskip, Option.map_map]
  rfl

/-- The first empty line is the one that ends the headers. -/
theorem strstr_body {start : Text} {lines : List Text} (hstart : '\r' ∉ start)
    (hlines : ∀ l ∈ lines, l ≠ [] ∧ '\r' ∉ l) (body : Text) :
    ∃ front, strstr (crlf ++ crlf) (start ++ crlf ++ (terminated lines ++ (crlf ++ body)))
      = some (front, body) := by
  induction lines generalizing start with
  | nil =>
      refine ⟨start ++ [], ?_⟩
      have hhere : strstr ('\r' :: '\n' :: crlf) (crlf ++ (crlf ++ body)) = some ([], body) := rfl
      rw [List.append_assoc]
      exact (strstr_skip hstart _).trans (congrArg (Option.map _) hhere)
  | cons l lines ih =>
      obtain ⟨⟨hne, hfree⟩, hlines⟩ := List.forall_mem_cons.mp hlines
      obtain ⟨front, hfront⟩ := ih hfree hlines
      obtain ⟨d, l, rfl⟩ := List.exists_cons_of_ne_nil hne
      have hd : d ≠ '\r' := fun heq => hfree (heq ▸ List.mem_cons_self ..)
      have hend := strstr_lineEnd hd (l ++ crlf ++ (terminated lines ++ (crlf ++ body)))
      rw [← List.cons_append, ← List.cons_append, hfront] at hend
      refine ⟨start ++ (crlf ++ front), ?_⟩
      rw [terminated_cons, List.append_assoc, List.append_assoc]
      exact (strstr_skip hstart _).trans (congrArg (Option.map _) hend)

theorem scanWord_word {n : Nat} {w : Text} (hw : IsWord isspace w) (hn : w.length ≤ n) {c : Char}
    (hc : isspace c = true) (s : Text) : scanWord n (w ++ c :: s) = some (w, c :: s) := by
  have htake : (w ++ c :: s).takeWhile (fun x => !isspace x) = w := by
    rw [List.takeWhile_append_of_pos fun x hx => by rw [hw.free x hx]; rfl,
      List.takeWhile_cons_of_neg (by simp [hc]), List.append_nil]
  rw [scanWord, hw.dropWhile_append, htake, List.take_of_length_le hn]
  simp [hw.ne_nil]

theorem requestWords_wire {r : HttpRequest} (hr : r.Readable) :
    requestWords r.wire = some (r.method, r.path) := by
  obtain ⟨rest, hrest⟩ : ∃ rest, r.wire = r.method ++ ' ' :: (r.path ++ ' ' :: rest) := by
    refine ⟨"HTTP/1.1".toList ++ crlf
      ++ (terminated (r.headers.map fieldLine) ++ (crlf ++ r.body)), ?_⟩
    rw [r.wire_eq, HttpRequest.startLine]
    simp
  have hpath : scanWord 1023 (' ' :: (r.path ++ ' ' :: rest)) = some (r.path, ' ' :: rest) :=
    scanWord_word hr.path.1 hr.path.2 (by rfl) rest
  rw [requestWords, hrest, scanWord_word hr.method.1 hr.method.2 (by rfl), Option.bind_some]
  dsimp only
  rw [hpath, Option.map_some]

theorem received_wire {r : HttpRequest} (hr : r.Readable) : received r.wire = r.wire := by
  rw [received, List.take_of_length_le hr.fits, cstr_eq_self hr.nulFree]

theorem allows_wire {r : HttpRequest} (hr : r.Readable) (api : HttpApi) :
    api.allows r.wire = true ↔ r.Admitted api := by
  rw [HttpRequest.Admitted]
  cases htoken : api.token with
  | none =>
      rw [allows, htoken]
      exact iff_of_true rfl fun _ heq => absurd heq.symm (Option.some_ne_none _)
  | some token =>
      rw [allows_eq_true_iff htoken, ← getHeaderValue_eq_some_iff, r.wire_eq,
        getHeaderValue_headers (startLine_free hr) hr.headers]
      exact ⟨fun h _ heq => Option.some.inj heq ▸ h, fun h => h token rfl⟩

theorem getQueryValue_path (r : HttpRequest) (key : Text) :
    getQueryValue r.path key = first key r.query := by
  rw [getQueryValue_eq, HttpRequest.query]
  cases strchr '?' r.path <;> rfl

theorem readCommand_wire {r : HttpRequest} (hr : r.Readable) :
    readCommand r.wire = (Form.ofEntries (entries r.body)).asks := by
  obtain ⟨front, hbody⟩ := strstr_body (startLine_free hr) hr.headers.lines r.body
  rw [readCommand, r.wire_eq, hbody]
  dsimp only
  rw [readForm_eq]
  rfl

/-- What the API reads from the bytes of a request is what its parts ask for. -/
theorem readRequest_wire (api : HttpApi) {r : HttpRequest} (hr : r.Readable) :
    readRequest api (received r.wire) = r.asks api := by
  have hwords := requestWords_wire hr
  rw [received_wire hr, HttpRequest.asks]
  by_cases hadmitted : r.Admitted api
  · have hallows := (allows_wire hr api).mpr hadmitted
    rw [if_neg (not_not.mpr hadmitted)]
    by_cases hstatus : IsStatus r.method r.path
    · rw [readRequest_status hwords hallows hstatus, getQueryValue_path,
        if_pos ⟨hstatus.1, List.isPrefixOf_iff_prefix.mp hstatus.2⟩]
    · rw [if_neg fun h => hstatus ⟨h.1, List.isPrefixOf_iff_prefix.mpr h.2⟩]
      by_cases hcommand : IsCommand r.method r.path
      · rw [readRequest_command hwords hallows hcommand, readCommand_wire hr]
        exact (if_pos hcommand).symm
      · rw [readRequest_elsewhere hwords hallows hstatus hcommand]
        exact (if_neg hcommand).symm
  · have hrefused : api.allows r.wire = false :=
      eq_false_of_ne_true (mt (allows_wire hr api).mp hadmitted)
    rw [readRequest_refused hwords hrefused, if_pos hadmitted]

/-- A command with a token, as a client sends it. -/
def lockRequest : HttpRequest where
  method := "POST".toList
  path := "/api/command".toList
  headers := [("x-api-token".toList, "k".toList), ("Content-Length".toList, "31".toList)]
  body := "module=D1&target=D0&action=LOCK".toList

theorem lockRequest_readable : lockRequest.Readable where
  method := ⟨.of_all (by simp [lockRequest]) (by rfl), by simp [lockRequest]⟩
  path := ⟨.of_all (by simp [lockRequest]) (by rfl), by simp [lockRequest]⟩
  headers := .cons (by decide) (by decide) (by decide)
    (.cons (by decide) (by decide) (by decide) .nil)
  nulFree := nulFree_of_all (by rfl)
  fits := by decide

theorem readRequest_wire_lock :
    readRequest (httpApiStart (some "k".toList) "D1".toList) (received lockRequest.wire)
      = .command "D1".toList (some "D0".toList) "LOCK".toList := by
  rw [readRequest_wire _ lockRequest_readable]
  rfl

/-! ## Responses -/

/-- What a client has of a response: the code of the status line, and the body, which
must be as long as announced. -/
def readResponse (t : Text) : Option (Int × Text) :=
  match strtok isspace t with
  | _ :: code :: _ =>
      (getHeaderValueFromRequest t "Content-Length".toList).bind fun len =>
        (strstr (crlf ++ crlf) t).bind fun (_, body) =>
          if (body.length : Int) = atoi len then some (atoi code, body) else none
  | _ => none

def statusLine (code : Nat) : Text :=
  "HTTP/1.1".toList ++ ' ' :: (decimal code ++ ' ' :: statusText code)

def responseHeaders (body : Text) : List (Text × Text) :=
  [("Content-Type".toList, "application/json".toList),
    ("Content-Length".toList, decimal body.length)]

theorem length_statusText (code : Nat) : (statusText code).length ≤ 12 := by
  unfold statusText
  split
  · decide
  · split
    · decide
    · split <;> decide

theorem statusLine_eq (code : Nat) :
    "HTTP/1.1 ".toList ++ decimal code ++ ' ' :: statusText code = statusLine code := by
  have hblank : "HTTP/1.1 ".toList = "HTTP/1.1".toList ++ [' '] := by decide
  rw [hblank, List.append_assoc, List.append_assoc]
  rfl

theorem header_lines (start l key value : Text) :
    start ++ (crlf ++ (l ++ (crlf ++ key))) ++ value ++ (crlf ++ crlf)
      = start ++ crlf ++ (terminated [l, key ++ value] ++ crlf) := by
  simp [terminated]

/-- The header fits its buffer. -/
theorem header_text {code : Nat} (hcode : code < 1000) {body : Text} (hbody : body.length < 512) :
    (sendResponseStatus code body).header.text
      = statusLine code ++ crlf ++ (terminated ((responseHeaders body).map fieldLine) ++ crlf) := by
  have hmid : "\r\nContent-Type: application/json\r\nContent-Length: ".toList
      = crlf ++ (fieldLine ("Content-Type".toList, "application/json".toList)
        ++ (crlf ++ ("Content-Length".toList ++ ": ".toList))) := rfl
  have hfixed : "HTTP/1.1 ".length + "\r\nContent-Type: application/json\r\nContent-Length: ".length
      + "\r\n\r\n".length = 63 := by decide
  have hstatus := length_statusText code
  have hdigits := @length_decimal (code : Int) 2 (by omega)
  have hlen := @length_decimal (body.length : Int) 2 (by omega)
  rw [sendResponseStatus, snprintf_text]
  · rw [hmid, statusLine_eq]
    exact header_lines (statusLine code) _ _ _
  · simp only [List.length_append, List.length_cons, String.length_toList]
    omega

theorem not_mem_decimal {c : Char} (hdigit : c.isDigit = false) (hminus : c ≠ '-') (i : Int) :
    c ∉ decimal i := by
  have hword : IsWord (fun x => !x.isDigit && x != '-') (decimal i) :=
    isWord_decimal (fun x hx => by simp [hx]) (by rfl) i
  exact not_mem_of_isWord hword (by simp [hdigit, hminus])

theorem statusLine_free (code : Nat) : '\r' ∉ statusLine code := by
  have hdigits := not_mem_decimal (c := '\r') (by rfl) (by decide) code
  have hstatus : '\r' ∉ statusText code := by
    unfold statusText
    split
    · decide
    · split
      · decide
      · split <;> decide
  intro h
  rcases List.mem_append.mp h with hversion | hrest
  · exact absurd hversion (by decide)
  · rcases List.mem_append.mp (List.mem_of_ne_of_mem (by decide) hrest) with hcode | hrest
    · exact hdigits hcode
    · exact hstatus (List.mem_of_ne_of_mem (by decide) hrest)

theorem areHeaders_response (body : Text) : AreHeaders (responseHeaders body) :=
  .cons (by decide) (by decide) (by decide)
    (.cons (by decide) (by decide) (not_mem_decimal (by rfl) (by decide) body.length) .nil)

theorem headerValue_cons_self (name value : Text) (hs : List (Text × Text)) :
    headerValue ((name, value) :: hs) name = some (value.dropWhile (· = ' ')) := by
  rw [headerValue, List.findSome?_cons, if_pos rfl]

theorem headerValue_cons_of_ne {name key : Text}
    (hne : name.map Char.toLower ≠ key.map Char.toLower) (value : Text) (hs : List (Text × Text)) :
    headerValue ((name, value) :: hs) key = headerValue hs key := by
  rw [headerValue, List.findSome?_cons, if_neg hne, headerValue]

theorem headerValue_length (body : Text) :
    headerValue (responseHeaders body) "Content-Length".toList = some (decimal body.length) := by
  have hdigits : IsWord (· = ' ') (decimal body.length) :=
    isWord_decimal (fun c hc => decide_eq_false fun h => by subst h; cases hc) (by rfl) _
  have hskip := hdigits.dropWhile_append []
  rw [List.append_nil] at hskip
  have hname :
      "Content-Type".toList.map Char.toLower ≠ "Content-Length".toList.map Char.toLower := by
    decide
  calc headerValue (responseHeaders body) "Content-Length".toList
      = headerValue [("Content-Length".toList, decimal body.length)] "Content-Length".toList :=
        headerValue_cons_of_ne hname _ _
    _ = some ((decimal body.length).dropWhile (· = ' ')) := headerValue_cons_self ..
    _ = some (decimal body.length) := congrArg some hskip

theorem strtok_statusLine (code : Nat) (t : Text) :
    ∃ rest, strtok isspace (statusLine code ++ t) = "HTTP/1.1".toList :: decimal code :: rest := by
  have hversion : IsWord isspace "HTTP/1.1".toList := .of_all (by decide) (by rfl)
  have hcode : IsWord isspace (decimal code) :=
    isWord_decimal (fun _ => isspace_of_digit) (by rfl) code
  have hrest : decimal code ++ ' ' :: statusText code ++ t
      = decimal code ++ ' ' :: (statusText code ++ t) := List.append_assoc ..
  have hline : statusLine code ++ t
      = "HTTP/1.1".toList ++ ' ' :: (decimal code ++ ' ' :: statusText code ++ t) :=
    List.append_assoc ..
  rw [hline, hrest, strtok_word hversion (by rfl), strtok_word hcode (by rfl)]
  exact ⟨_, rfl⟩

/-- A message that was sent whole is read back. -/
theorem readResponse_status {code : Nat} (hcode : code < 1000) {body : Text}
    (hbody : body.length < 512) :
    readResponse (Response.wire (sendResponseStatus code body)) = some ((code : Int), body) := by
  have hwire : Response.wire (sendResponseStatus code body) = statusLine code ++ crlf
      ++ (terminated ((responseHeaders body).map fieldLine) ++ (crlf ++ body)) := by
    rw [Response.wire, header_text hcode hbody]
    simp only [List.append_assoc]
    rfl
  obtain ⟨front, hcut⟩ := strstr_body (statusLine_free code) (areHeaders_response body).lines body
  obtain ⟨rest, hwords⟩ := strtok_statusLine code
    (crlf ++ (terminated ((responseHeaders body).map fieldLine) ++ (crlf ++ body)))
  rw [← List.append_assoc, ← hwire] at hwords
  rw [readResponse, hwords]
  dsimp only
  rw [hwire, getHeaderValue_headers (statusLine_free code) (areHeaders_response body),
    headerValue_length, Option.bind_some, hcut, Option.bind_some]
  dsimp only
  rw [atoi_decimal (by omega) (by omega), if_pos rfl, atoi_decimal (by omega) (by omega)]

/-! ## Every response -/

theorem answers_of_body {s : Served} {body : Text} (h : s.response = some (sendResponse body))
    (hbody : body.length < 512) : s.Answers :=
  ⟨200, body, h, Or.inl rfl, hbody⟩

theorem serveModule_answers (api : HttpApi) (w : World) (mod : Text) :
    (serveModule api w mod).Answers := by
  unfold serveModule
  cases w.hub.hubUdpGetStatus mod with
  | some st => exact answers_of_body rfl (hubStatusJson st).fits
  | none =>
      dsimp only
      split
      · exact answers_of_body rfl (Nat.lt_trans (localStatusJson ..).fits (by decide))
      · exact answers_of_body rfl (by decide)

theorem performLocal_answers (w : World) (action : Text) : (performLocal w action).Answers := by
  have hperformed : ∀ op c, (performed op c).Answers := fun op c =>
    answers_of_body rfl (Nat.lt_trans (localResultJson _).fits (by decide))
  rw [performLocal_eq]
  rcases localOp_cases action with h | h | h | h <;> rw [h]
  · exact hperformed _ _
  · exact hperformed _ _
  · exact hperformed _ _
  · exact answers_of_body rfl (by decide)

theorem forward_answers (w : World) (mod : Text) (target : Option Text) (action : Text) :
    (forward w mod target action).Answers := by
  unfold forward
  cases w.hub.hubUdpGetStatus mod with
  | none => exact answers_of_body rfl (by decide)
  | some st =>
      dsimp only
      cases st.hasLastAddr with
      | false => exact answers_of_body rfl (by decide)
      | true =>
          cases w.acked with
          | false => exact answers_of_body rfl (by decide)
          | true =>
              cases w.hubAfter.hubUdpGetStatus mod with
              | none => exact answers_of_body rfl (by decide)
              | some st => exact answers_of_body rfl (feedbackJson st).fits

theorem serve_answers (api : HttpApi) (w : World) {r : ApiRequest} (hr : r ≠ .empty) :
    (serve api w r).Answers := by
  cases r with
  | empty => exact absurd rfl hr
  | refused => exact ⟨401, _, rfl, Or.inr rfl, by decide⟩
  | status mod =>
      cases mod with
      | none => exact answers_of_body rfl (by decide)
      | some mod => exact serveModule_answers api w mod
  | command mod target action =>
      rw [serve]
      split
      · exact performLocal_answers w action
      · exact forward_answers w mod target action
  | _ => exact answers_of_body rfl (by decide)

/-- A connection is closed without a response only if the request has fewer than two
words; every other response is a whole message, and read back as its code and body. -/
theorem readResponse_wire (api : HttpApi) (w : World) (bytes : Text) :
    ((handleClient api w bytes).response = none ↔ requestWords (received bytes) = none)
      ∧ ∀ resp ∈ (handleClient api w bytes).response,
        (resp.code = 200 ∨ resp.code = 401)
          ∧ readResponse resp.wire = some ((resp.code : Int), resp.body) := by
  rw [handleClient_eq, ← @kind_eq_empty_iff api]
  by_cases hempty : readRequest api (received bytes) = .empty
  · rw [hempty]
    exact ⟨iff_of_true rfl rfl, nofun⟩
  · obtain ⟨code, body, hresp, hcode, hbody⟩ := serve_answers api w hempty
    rw [hresp]
    refine ⟨iff_of_false nofun fun hkind => hempty ?_, fun resp hmem => ?_⟩
    · cases hread : readRequest api (received bytes) with
      | empty => rfl
      | _ =>
          rw [hread] at hkind
          cases hkind
    · obtain rfl := Option.some.inj hmem
      exact ⟨hcode, readResponse_status (by omega) hbody⟩

theorem readResponse_wire_lock :
    ∃ resp, (handleClient (httpApiStart (some "k".toList) "D1".toList) .initial
        lockRequest.wire).response = some resp
      ∧ readResponse resp.wire = some ((resp.code : Int), resp.body) := by
  obtain ⟨hnone, hsome⟩ := readResponse_wire (httpApiStart (some "k".toList) "D1".toList) .initial
    lockRequest.wire
  have hwords := requestWords_wire lockRequest_readable
  rw [received_wire lockRequest_readable, hwords] at hnone
  obtain ⟨resp, hresp⟩ := Option.ne_none_iff_exists'.mp (mt hnone.mp (Option.some_ne_none _))
  exact ⟨resp, hresp, (hsome resp hresp).2⟩

end HttpApi

end HomeSecurity
