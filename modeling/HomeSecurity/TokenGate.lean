import HomeSecurity.HttpApi

/-!
# The token gate

With `HTTP_API_TOKEN` set, `handle_client` serves nothing without the token.
`Supplies` says in terms of the request's lines what it takes for the token:
the value of the first `X-API-TOKEN` line between the request line and the
first empty line. `headerLoop_eq` follows the scanner over those lines, and
`tokenGate_iff` is the gate: exactly such requests are served, and what comes
behind the empty line plays no part.
-/

namespace HomeSecurity

open CText

namespace HttpApi

/-! ## The header lines of a request -/

def tokenKey : Text := "X-API-TOKEN".toList

/-- `line` has the key, ignoring case, and the value `v`: its name is what comes
before the first `:`, without the spaces before that, its value what comes
behind it, without the spaces in front. -/
def IsField (key line v : Text) : Prop :=
  ∃ raw value, line = raw ++ ':' :: value ∧ ':' ∉ raw
    ∧ (fieldName raw).map Char.toLower = key.map Char.toLower
    ∧ value.dropWhile (· = ' ') = v

/-- The lines, each with its CRLF. -/
def terminated (lines : List Text) : Text := (lines.map (· ++ crlf)).flatten

/-- `req` begins with `first`, a CRLF and `lines`; these are all the terminated
lines up to the first empty one, or to the end. -/
structure Head (req first : Text) (lines : List Text) (rest : Text) : Prop where
  eq : req = first ++ crlf ++ (terminated lines ++ rest)
  first : ¬crlf <:+: first
  lines : ∀ l ∈ lines, l ≠ [] ∧ ¬crlf <:+: l
  rest : crlf <+: rest ∨ ¬crlf <:+: rest

/-- The first of the request's header lines with the key has the value `v`. -/
def Supplies (req key v : Text) : Prop :=
  ∃ first before line after rest, Head req first (before ++ line :: after) rest
    ∧ (∀ l ∈ before, ∀ v', ¬IsField key l v') ∧ IsField key line v

/-! ## What the scanner finds -/

theorem strstr_crlf_eq_some_iff {s a b : Text} :
    strstr crlf s = some (a, b) ↔ s = a ++ crlf ++ b ∧ ¬crlf <:+: a := by
  rw [show a ++ crlf ++ b = a ++ '\r' :: '\n' :: b by simp [crlf]]
  exact strstr_pair_eq_some_iff (by decide)

/-- Comparing as many bytes as the trimmed name has compares the trimmed name. -/
theorem strncasecmpEq_fieldName_iff {key name : Text} :
    ((fieldName name).length = key.length ∧ strncasecmpEq key.length name key = true) ↔
      (fieldName name).map Char.toLower = key.map Char.toLower := by
  have htake : name.take (fieldName name).length = fieldName name :=
    List.prefix_iff_eq_take.mp (List.rdropWhile_prefix _ name) |>.symm
  rw [strncasecmpEq, beq_iff_eq, List.take_length]
  constructor
  · rintro ⟨hlen, hcmp⟩
    rwa [← hlen, htake] at hcmp
  · intro hmap
    have hlen : (fieldName name).length = key.length := by simpa using congrArg List.length hmap
    exact ⟨hlen, by rw [← hlen, htake, hmap]⟩

theorem fieldValue_eq_some_iff {key line v : Text} :
    fieldValue key line = some v ↔ IsField key line v := by
  rw [fieldValue, Option.bind_eq_some_iff]
  constructor
  · rintro ⟨⟨raw, value⟩, hcut, hif⟩
    obtain ⟨rfl, hfree⟩ := strchr_eq_some_iff.mp hcut
    simp only [Option.ite_none_right_eq_some, Option.some.injEq,
      strncasecmpEq_fieldName_iff] at hif
    exact ⟨raw, value, rfl, hfree, hif.1, hif.2⟩
  · rintro ⟨raw, value, rfl, hfree, hname, rfl⟩
    exact ⟨(raw, value), strchr_eq_some_iff.mpr ⟨rfl, hfree⟩,
      if_pos (strncasecmpEq_fieldName_iff.mpr hname)⟩

theorem terminated_cons (l : Text) (lines : List Text) :
    terminated (l :: lines) = l ++ crlf ++ terminated lines := rfl

/-- A line that is not empty does not look like the empty line. -/
theorem not_startsWith_crlf {l : Text} (hne : l ≠ []) (hfree : ¬crlf <:+: l) (rest : Text) :
    crlf.isPrefixOf (l ++ crlf ++ rest) = false := by
  refine eq_false_of_ne_true fun hpre => ?_
  obtain ⟨b, hb⟩ := isPrefixOf_pair_iff.mp hpre
  have hcut : strstr crlf (l ++ crlf ++ rest) = some ([], b) :=
    strstr_crlf_eq_some_iff.mpr ⟨hb, by simp [crlf]⟩
  have hline : strstr crlf (l ++ crlf ++ rest) = some (l, rest) :=
    strstr_crlf_eq_some_iff.mpr ⟨rfl, hfree⟩
  obtain ⟨rfl, -⟩ := Prod.mk.inj (Option.some.inj (hcut.symm.trans hline))
  exact hne rfl

theorem headerLoop_rest (key : Text) (fuel : Nat) {rest : Text}
    (hrest : crlf <+: rest ∨ ¬crlf <:+: rest) : headerLoop key fuel rest = none := by
  cases fuel with
  | zero => rfl
  | succ fuel =>
      rw [headerLoop]
      split
      · rfl
      · rename_i hgo
        have hfree : ¬crlf <:+: rest := by
          refine hrest.resolve_left fun hpre => hgo (Or.inr ?_)
          exact List.isPrefixOf_iff_prefix.mpr hpre
        have hnone : strstr crlf rest = none := strstr_pair_eq_none_iff.mpr hfree
        rw [hnone]

/-- The scanner takes the lines one by one and stops at what follows them. -/
theorem headerLoop_eq (key : Text) {lines : List Text} {rest : Text}
    (hlines : ∀ l ∈ lines, l ≠ [] ∧ ¬crlf <:+: l) (hrest : crlf <+: rest ∨ ¬crlf <:+: rest)
    {fuel : Nat} (hfuel : (terminated lines ++ rest).length ≤ fuel) :
    headerLoop key fuel (terminated lines ++ rest) = lines.findSome? (fieldValue key) := by
  induction lines generalizing fuel with
  | nil => exact headerLoop_rest key fuel hrest
  | cons l lines ih =>
      obtain ⟨⟨hne, hfree⟩, hlines⟩ := List.forall_mem_cons.mp hlines
      have hsplit : terminated (l :: lines) ++ rest = l ++ crlf ++ (terminated lines ++ rest) := by
        rw [terminated_cons, List.append_assoc]
      have hpos : 0 < l.length := List.length_pos_iff.mpr hne
      rw [hsplit, List.length_append, List.length_append] at hfuel
      obtain ⟨fuel, rfl⟩ : ∃ n, fuel = n + 1 := Nat.exists_eq_add_one.mpr (by omega)
      have hgo : ¬(l ++ crlf ++ (terminated lines ++ rest) = []
          ∨ crlf.isPrefixOf (l ++ crlf ++ (terminated lines ++ rest)) = true) := by
        rw [not_startsWith_crlf hne hfree]
        simp [hne]
      have hcut : strstr crlf (l ++ crlf ++ (terminated lines ++ rest))
          = some (l, terminated lines ++ rest) := strstr_crlf_eq_some_iff.mpr ⟨rfl, hfree⟩
      rw [hsplit, headerLoop, if_neg hgo, hcut, List.findSome?_cons]
      dsimp only
      rw [ih hlines (by omega)]
      cases fieldValue key l <;> rfl

theorem getHeaderValue_of_head {req first : Text} {lines : List Text} {rest : Text}
    (h : Head req first lines rest) (key : Text) :
    getHeaderValueFromRequest req key = lines.findSome? (fieldValue key) := by
  have hcut : strstr crlf req = some (first, terminated lines ++ rest) :=
    strstr_crlf_eq_some_iff.mpr ⟨h.eq, h.first⟩
  rw [getHeaderValueFromRequest, hcut]
  exact headerLoop_eq key h.lines h.rest (Nat.le_refl _)

/-- Every text is taken apart into lines and what is no line. -/
theorem exists_lines (p : Text) : ∃ lines rest, p = terminated lines ++ rest
    ∧ (∀ l ∈ lines, l ≠ [] ∧ ¬crlf <:+: l) ∧ (crlf <+: rest ∨ ¬crlf <:+: rest) := by
  induction hn : p.length using Nat.strongRecOn generalizing p with
  | _ n ih =>
      by_cases hstop : crlf <+: p ∨ ¬crlf <:+: p
      · exact ⟨[], p, rfl, nofun, hstop⟩
      · obtain ⟨hpre, hin⟩ := not_or.mp hstop
        cases hcut : strstr crlf p with
        | none => exact absurd (strstr_pair_eq_none_iff.mp hcut) hin
        | some r =>
            obtain ⟨l, b⟩ := r
            obtain ⟨hp, hfree⟩ := strstr_crlf_eq_some_iff.mp hcut
            have hne : l ≠ [] := by
              rintro rfl
              exact hpre ⟨b, hp.symm⟩
            have hshort : b.length < n := hn ▸ strstr_length (by decide) hcut
            obtain ⟨lines, rest, rfl, hlines, hrest⟩ := ih b.length hshort b rfl
            refine ⟨l :: lines, rest, ?_, List.forall_mem_cons.mpr ⟨⟨hne, hfree⟩, hlines⟩, hrest⟩
            rw [hp, terminated_cons]
            simp only [List.append_assoc]

theorem getHeaderValue_eq_some_iff {req key v : Text} :
    getHeaderValueFromRequest req key = some v ↔ Supplies req key v := by
  constructor
  · intro h
    have h' := h
    rw [getHeaderValueFromRequest, Option.bind_eq_some_iff] at h'
    obtain ⟨⟨first, p⟩, hcut, -⟩ := h'
    obtain ⟨heq, hfirst⟩ := strstr_crlf_eq_some_iff.mp hcut
    obtain ⟨lines, rest, rfl, hlines, hrest⟩ := exists_lines p
    have hhead : Head req first lines rest := ⟨heq, hfirst, hlines, hrest⟩
    rw [getHeaderValue_of_head hhead] at h
    obtain ⟨before, line, after, rfl, hv, hbefore⟩ := List.findSome?_eq_some_iff.mp h
    refine ⟨first, before, line, after, rest, hhead, fun l hl v' hfield => ?_,
      fieldValue_eq_some_iff.mp hv⟩
    have hnone := hbefore l hl
    rw [fieldValue_eq_some_iff.mpr hfield] at hnone
    cases hnone
  · rintro ⟨first, before, line, after, rest, hhead, hbefore, hfield⟩
    rw [getHeaderValue_of_head hhead]
    refine List.findSome?_eq_some_iff.mpr ⟨before, line, after, rfl,
      fieldValue_eq_some_iff.mpr hfield, fun l hl => ?_⟩
    cases hv : fieldValue key l with
    | none => rfl
    | some v' => exact absurd (fieldValue_eq_some_iff.mp hv) (hbefore l hl v')

/-- Nothing behind the empty line has a part in it. -/
theorem supplies_body_iff {first : Text} {lines : List Text} (hfirst : ¬crlf <:+: first)
    (hlines : ∀ l ∈ lines, l ≠ [] ∧ ¬crlf <:+: l) (body body' key v : Text) :
    Supplies (first ++ crlf ++ (terminated lines ++ (crlf ++ body))) key v ↔
      Supplies (first ++ crlf ++ (terminated lines ++ (crlf ++ body'))) key v := by
  have hvalue : ∀ b, getHeaderValueFromRequest
      (first ++ crlf ++ (terminated lines ++ (crlf ++ b))) key
      = lines.findSome? (fieldValue key) := fun b =>
    getHeaderValue_of_head ⟨rfl, hfirst, hlines, Or.inl ⟨b, rfl⟩⟩ key
  rw [← getHeaderValue_eq_some_iff, ← getHeaderValue_eq_some_iff, hvalue, hvalue]

/-! ## The gate -/

theorem requestWords_of_words {text w₁ w₂ : Text} {ws : List Text}
    (h : strtok isspace text = w₁ :: w₂ :: ws) :
    ∃ method path, requestWords text = some (method, path) := by
  cases hfirst : scanWord 7 text with
  | none =>
      rw [(scanWord_eq_none_iff (by decide)).mp hfirst] at h
      cases h
  | some r =>
      obtain ⟨method, rest⟩ := r
      have hrest := scanWord_rest hfirst h
      cases hsecond : scanWord 1023 rest with
      | none => exact absurd ((scanWord_eq_none_iff (by decide)).mp hsecond) hrest
      | some r' =>
          refine ⟨method, r'.1, ?_⟩
          rw [requestWords, hfirst, Option.bind_some]
          dsimp only
          rw [hsecond]
          rfl

theorem allows_eq_true_iff {api : HttpApi} {token : Text} (htoken : api.token = some token)
    (text : Text) : api.allows text = true ↔ Supplies text tokenKey token := by
  rw [allows, htoken, ← getHeaderValue_eq_some_iff]
  exact beq_iff_eq

/-- Whatever is served is answered 200. -/
theorem dispatch_code (api : HttpApi) (w : World) (method path text : Text) :
    (dispatch api w method path text).code = some 200 := by
  unfold dispatch
  split
  · unfold serveStatus
    split
    · rfl
    · exact (serveModule_spec api w _).1
  · split
    · unfold serveCommand
      split
      · rfl
      · dsimp only
        split
        · split
          · exact (performLocal_spec ..).1
          · exact (forward_spec ..).1
        · rfl
    · rfl

/-- With a token set, a request with at least two words is served exactly if its
first token line before the empty line has that value; any other is answered 401
with nothing done, and the body has no say in it. -/
theorem tokenGate_iff (api : HttpApi) (w : World) (bytes : Text) {token : Text}
    (htoken : api.token = some token)
    (hwords : ∃ w₁ w₂ ws, strtok isspace (received bytes) = w₁ :: w₂ :: ws) :
    ((∃ method path, requestWords (received bytes) = some (method, path)
        ∧ handleClient api w bytes = dispatch api w method path (received bytes)
        ∧ (handleClient api w bytes).code ≠ some 401) ↔
      Supplies (received bytes) tokenKey token)
    ∧ (¬Supplies (received bytes) tokenKey token → handleClient api w bytes = unauthorized w)
    ∧ ∀ first lines body, Head (received bytes) first lines (crlf ++ body) → ∀ body',
      (Supplies (first ++ crlf ++ (terminated lines ++ (crlf ++ body'))) tokenKey token ↔
        Supplies (received bytes) tokenKey token) := by
  obtain ⟨w₁, w₂, ws, hwords⟩ := hwords
  obtain ⟨method, path, hrequest⟩ := requestWords_of_words hwords
  have hallows := allows_eq_true_iff htoken (received bytes)
  refine ⟨⟨?_, fun hsupplies => ?_⟩, fun hnot => ?_, fun first lines body hhead body' => ?_⟩
  · rintro ⟨method', path', -, -, hcode⟩
    by_contra hnot
    refine hcode ?_
    rw [handleClient, hrequest]
    dsimp only
    rw [if_neg (mt hallows.mp hnot)]
    rfl
  · have hserved : handleClient api w bytes = dispatch api w method path (received bytes) := by
      rw [handleClient, hrequest]
      exact if_pos (hallows.mpr hsupplies)
    refine ⟨method, path, hrequest, hserved, ?_⟩
    rw [hserved, dispatch_code]
    decide
  · rw [handleClient, hrequest]
    exact if_neg (mt hallows.mp hnot)
  · rw [hhead.eq]
    exact supplies_body_iff hhead.first hhead.lines body' body _ _

/-- A token in the body only. -/
theorem tokenGate_inBody :
    let api := httpApiStart (some "k".toList) "D1".toList
    let bytes := "GET /api/status?module=D1 HTTP/1.1\r\n\r\nX-API-TOKEN: k\r\n".toList
    handleClient api .initial bytes = unauthorized .initial := by
  intro api bytes
  refine (tokenGate_iff api .initial bytes rfl ⟨_, _, _, rfl⟩).2.1 fun hsupplies => ?_
  rw [← getHeaderValue_eq_some_iff] at hsupplies
  revert hsupplies
  decide +kernel

end HttpApi

end HomeSecurity
