import HomeSecurity.CText

/-!
# The lines on the wire

The line formats the three programs exchange - each is one `snprintf` or
template string of the source - and how `strtok_r` takes them apart again.
Every format starts with the module id, so each tokenizing lemma peels that
word off and leaves the fixed rest to evaluation.
-/

namespace HomeSecurity

open CText

/-- `" \t\r\n"`, the delimiter set of every `strtok_r` in the C code. -/
def isDelim (c : Char) : Bool := c = ' ' || c = '\t' || c = '\r' || c = '\n'

/-- A C string that one `strtok_r` token can carry. -/
structure IsToken (s : Text) : Prop extends IsWord isDelim s where
  nulFree : ∀ c ∈ s, c ≠ Char.ofNat 0

theorem IsToken.of_all {s : Text} (hne : s ≠ []) (hfree : s.all (fun c => !isDelim c) = true)
    (hnul : s.all (· != Char.ofNat 0) = true) : IsToken s :=
  ⟨.of_all hne hfree, nulFree_of_all hnul⟩

instance decidableIsToken (s : Text) : Decidable (IsToken s) :=
  decidable_of_iff (s ≠ [] ∧ s.all (fun c => !isDelim c) = true ∧ s.all (· != Char.ofNat 0) = true)
    ⟨fun h => .of_all h.1 h.2.1 h.2.2, fun h => ⟨h.ne_nil,
      List.all_eq_true.mpr fun c hc => by rw [h.free c hc]; rfl,
      List.all_eq_true.mpr fun c hc => bne_iff_ne.mpr (h.nulFree c hc)⟩⟩

/-- A module id that the 16-byte id fields hold whole. -/
structure IsModuleId (m : Text) : Prop extends IsToken m where
  short : m.length < 16

/-- The same, as a test. -/
def isModuleId (m : Text) : Bool :=
  m != [] && m.all (fun c => !isDelim c) && m.all (· != Char.ofNat 0) && decide (m.length < 16)

theorem IsModuleId.of_test {m : Text} (h : isModuleId m = true) : IsModuleId m := by
  simp only [isModuleId, Bool.and_eq_true, bne_iff_ne, decide_eq_true_eq] at h
  exact ⟨.of_all h.1.1.1 h.1.1.2 h.1.2, h.2⟩

theorem isModuleId_iff {m : Text} : isModuleId m = true ↔ IsModuleId m := by
  refine ⟨.of_test, fun h => ?_⟩
  simp only [isModuleId, Bool.and_eq_true, bne_iff_ne, decide_eq_true_eq, List.all_eq_true]
  exact ⟨⟨⟨h.ne_nil, fun c hc => by simpa using h.free c hc⟩, h.nulFree⟩, h.short⟩

/-- The id of the first door of the default configuration. -/
theorem isModuleId_D1 : IsModuleId "D1".toList := .of_test (by decide)

/-! ## Formats -/

def openText (isOpen : Bool) : Text := if isOpen then "OPEN".toList else "CLOSED".toList
def lockText (locked : Bool) : Text := if locked then "LOCKED".toList else "UNLOCKED".toList

/-- The lines a door module sends on its own account. -/
inductive Report where
  | hello
  | heartbeat (d0Open d1Locked : Bool)
  | doorEvent (d0Open : Bool)
  | lockEvent (d1Locked : Bool)
deriving DecidableEq

/-- What follows the module id: `"HELLO\n"`, `"HEARTBEAT D0=%s,%s D1=%s,%s\n"`,
`"EVENT D0 DOOR %s\n"` and `"EVENT D1 LOCK %s\n"`. -/
def Report.text : Report → Text
  | .hello => "HELLO\n".toList
  | .heartbeat o l =>
      "HEARTBEAT D0=".toList ++ openText o ++ ',' :: lockText l
        ++ " D1=".toList ++ openText o ++ ',' :: lockText l ++ ['\n']
  | .doorEvent o => "EVENT D0 DOOR ".toList ++ openText o ++ ['\n']
  | .lockEvent l => "EVENT D1 LOCK ".toList ++ lockText l ++ ['\n']

def Report.type : Report → Text
  | .hello => "HELLO".toList
  | .heartbeat _ _ => "HEARTBEAT".toList
  | .doorEvent _ => "EVENT".toList
  | .lockEvent _ => "EVENT".toList

def Report.args : Report → List Text
  | .hello => []
  | .heartbeat o l =>
      ["D0=".toList ++ openText o ++ ',' :: lockText l,
       "D1=".toList ++ openText o ++ ',' :: lockText l]
  | .doorEvent o => ["D0".toList, "DOOR".toList, openText o]
  | .lockEvent l => ["D1".toList, "LOCK".toList, lockText l]

def reportLine (m : Text) (r : Report) : Text := m ++ ' ' :: r.text

/-- The `char buf[BUF_MAX]` a report is sent from. -/
def reportBuf (m : Text) (r : Report) : CBuf 256 := snprintf 256 (reportLine m r)

/-- `"%s COMMAND %d %s %s\n"`, sent by the hub and by the web server. -/
def commandLine (m : Text) (cmdid : Int) (target action : Text) : Text :=
  m ++ ' ' :: ("COMMAND".toList ++ ' ' :: (decimal cmdid ++ ' ' ::
    (target ++ ' ' :: (action ++ ['\n']))))

/-- `"%s FEEDBACK %d %s %s\n"`, sent by the door and relayed by the hub. -/
def feedbackLine (m : Text) (cmdid : Int) (target action : Text) : Text :=
  m ++ ' ' :: ("FEEDBACK".toList ++ ' ' :: (decimal cmdid ++ ' ' ::
    (target ++ ' ' :: (action ++ ['\n']))))

/-! ## Tokens -/

theorem isDelim_of_graph {c : Char} (hc : isgraph c = true) : isDelim c = false := by
  have hne : ∀ d : Char, isgraph d = false → c ≠ d := by
    rintro d hd rfl
    rw [hc] at hd
    cases hd
  simp only [isDelim, Bool.or_eq_false_iff, decide_eq_false_iff_not]
  exact ⟨⟨⟨hne _ (by decide), hne _ (by decide)⟩, hne _ (by decide)⟩, hne _ (by decide)⟩

theorem isDelim_of_digit {c : Char} (h : c.isDigit = true) : isDelim c = false :=
  isDelim_of_graph (isgraph_of_digit h)

theorem isDelim_of_not_isspace {c : Char} (h : isspace c = false) : isDelim c = false := by
  simp only [isspace, isDelim, Bool.or_eq_false_iff] at h ⊢
  exact ⟨⟨⟨h.1.1.1.1.1, h.1.1.1.1.2⟩, h.2⟩, h.1.1.1.2⟩

/-- Printable words survive `strtok_r`. -/
theorem isToken_of_graphic {s : Text} (hs : IsGraphic s) : IsToken s where
  toIsWord := hs.isWord fun _ => isDelim_of_graph
  nulFree := by
    rintro c hc rfl
    exact absurd (hs.graph _ hc) (by decide)

theorem isWord_cmdid (i : Int) : IsWord isDelim (decimal i) :=
  isWord_decimal (fun _ => isDelim_of_digit) (by decide) i

theorem decimal_nulFree (i : Int) : ∀ x ∈ decimal i, x ≠ Char.ofNat 0 := by
  have hdelim : IsWord (fun x => x = Char.ofNat 0) (decimal i) := by
    refine isWord_decimal (fun x hx => ?_) (by decide) i
    have hb := digit_bounds hx
    simp only [decide_eq_false_iff_not]
    rintro rfl
    exact absurd hb.1 (by decide)
  exact fun x hx => of_decide_eq_false (hdelim.free x hx)

theorem length_cmdid {i : Int} (hlo : -(2 ^ 31) ≤ i) (hhi : i < 2 ^ 31) :
    (decimal i).length ≤ 11 :=
  @length_decimal i 9 (by omega)

theorem Report.strtok_text (r : Report) : strtok isDelim r.text = r.type :: r.args := by
  cases r with
  | hello => decide
  | heartbeat o l => cases o <;> cases l <;> decide
  | doorEvent o => cases o <;> decide
  | lockEvent l => cases l <;> decide

theorem Report.type_ne_feedback (r : Report) : r.type ≠ "FEEDBACK".toList := by
  unfold Report.type
  split <;> decide

theorem Report.type_ne_command (r : Report) : r.type ≠ "COMMAND".toList := by
  unfold Report.type
  split <;> decide

theorem strtok_reportLine {m : Text} (hm : IsWord isDelim m) (r : Report) :
    strtok isDelim (reportLine m r) = m :: r.type :: r.args := by
  rw [reportLine, strtok_word hm (by decide), r.strtok_text]

/-- The words of a line with a command id, without the newline. -/
def numbered (m kw : Text) (c : Int) (target action : Text) : Text :=
  m ++ ' ' :: (kw ++ ' ' :: (decimal c ++ ' ' :: (target ++ ' ' :: action)))

theorem commandLine_eq (m : Text) (c : Int) (target action : Text) :
    commandLine m c target action = numbered m "COMMAND".toList c target action ++ ['\n'] := by
  simp [commandLine, numbered]

theorem length_commandLine (m : Text) (c : Int) (target action : Text) :
    (commandLine m c target action).length
      = m.length + (decimal c).length + target.length + action.length + 12 := by
  have hkw : "COMMAND".toList.length = 7 := rfl
  simp only [commandLine, List.length_append, List.length_cons, List.length_nil, hkw]
  omega

theorem feedbackLine_eq (m : Text) (c : Int) (target action : Text) :
    feedbackLine m c target action = numbered m "FEEDBACK".toList c target action ++ ['\n'] := by
  simp [feedbackLine, numbered]

/-- A line with a command id is taken apart into its five words. -/
theorem strtok_numbered {delim : Char → Bool} (hspace : delim ' ' = true)
    {m kw target action : Text} {c : Int} (hm : IsWord delim m) (hkw : IsWord delim kw)
    (hc : IsWord delim (decimal c)) (htarget : IsWord delim target)
    (haction : IsWord delim action) :
    strtok delim (numbered m kw c target action) = [m, kw, decimal c, target, action] := by
  rw [numbered, strtok_word hm hspace, strtok_word hkw hspace, strtok_word hc hspace,
    strtok_word htarget hspace, strtok_self haction]

/-! ## Lengths and NULs -/

theorem Report.length_text (r : Report) : r.text.length ≤ 50 := by
  cases r with
  | hello => decide
  | heartbeat o l => cases o <;> cases l <;> decide
  | doorEvent o => cases o <;> decide
  | lockEvent l => cases l <;> decide

theorem Report.text_nulFree (r : Report) : ∀ c ∈ r.text, c ≠ Char.ofNat 0 := by
  refine nulFree_of_all ?_
  cases r with
  | hello => decide
  | heartbeat o l => cases o <;> cases l <;> decide
  | doorEvent o => cases o <;> decide
  | lockEvent l => cases l <;> decide

theorem length_reportLine {m : Text} (hm : IsModuleId m) (r : Report) :
    (reportLine m r).length < 255 := by
  have hshort := hm.short
  have htext := r.length_text
  rw [reportLine, List.length_append, List.length_cons]
  omega

theorem reportBuf_text {m : Text} (hm : IsModuleId m) (r : Report) :
    (reportBuf m r).text = reportLine m r :=
  snprintf_text (Nat.lt_succ_of_lt (length_reportLine hm r))

theorem Report.text_injective {r r' : Report} (h : r.text = r'.text) : r = r' := by
  revert h
  cases r <;> cases r' <;> decide +revert

theorem reportBuf_inj {m : Text} (hm : IsModuleId m) {r r' : Report} :
    reportBuf m r = reportBuf m r' ↔ r = r' := by
  refine ⟨fun h => ?_, fun h => by rw [h]⟩
  have hline : reportLine m r = reportLine m r' := by
    rw [← reportBuf_text hm, ← reportBuf_text hm, h]
  exact Report.text_injective (List.cons.inj (List.append_cancel_left hline)).2

theorem reportLine_nulFree {m : Text} (hm : IsModuleId m) (r : Report) :
    ∀ c ∈ reportLine m r, c ≠ Char.ofNat 0 := by
  intro c hc
  rcases List.mem_append.mp hc with hc | hc
  · exact hm.nulFree c hc
  · rcases List.mem_cons.mp hc with rfl | hc
    · decide
    · exact r.text_nulFree c hc

/-! ## What a receiver reads -/

/-- The tokens of a received datagram: both programs read at most 255 bytes, up
to the first NUL. -/
def wireTokens (bytes : Text) : List Text := strtok isDelim (cstr (bytes.take 255))

theorem wireTokens_reportLine {m : Text} (hm : IsModuleId m) (r : Report) :
    wireTokens (reportLine m r) = m :: r.type :: r.args := by
  rw [wireTokens, List.take_of_length_le (Nat.le_of_lt (length_reportLine hm r)),
    cstr_eq_self (reportLine_nulFree hm r), strtok_reportLine hm.toIsWord]

theorem wireTokens_reportBuf {m : Text} (hm : IsModuleId m) (r : Report) :
    wireTokens (reportBuf m r).text = m :: r.type :: r.args := by
  rw [reportBuf_text hm, wireTokens_reportLine hm]

/-- The 256-byte buffers lines are sent from hold what is read. -/
theorem wireTokens_snprintf (t : Text) : wireTokens (snprintf 256 t).text = wireTokens t := by
  have htake : (snprintf 256 t).text.take 255 = t.take 255 := List.take_take ..
  rw [wireTokens, wireTokens, htake]

theorem isToken_feedback : IsToken "FEEDBACK".toList :=
  .of_all (by decide) (by decide) (by decide)

theorem isToken_command : IsToken "COMMAND".toList :=
  .of_all (by decide) (by decide) (by decide)

/-- Whatever follows, and however long it is, a line is read with its module and
its keyword whole. -/
theorem wireTokens_line {m kw : Text} (hm : IsModuleId m) (hkw : IsToken kw)
    (hlen : kw.length < 200) (rest : Text) :
    ∃ args, wireTokens (m ++ ' ' :: (kw ++ ' ' :: rest)) = m :: kw :: args := by
  have hsplit : m ++ ' ' :: (kw ++ ' ' :: rest) = (m ++ ' ' :: (kw ++ [' '])) ++ rest := by
    simp
  have hnul : ∀ x ∈ m ++ ' ' :: (kw ++ [' ']), x ≠ Char.ofNat 0 := by
    intro x hx
    simp only [List.mem_append, List.mem_cons, List.not_mem_nil, or_false] at hx
    rcases hx with hx | rfl | hx | rfl
    · exact hm.nulFree x hx
    · decide
    · exact hkw.nulFree x hx
    · decide
  have hfits : (m ++ ' ' :: (kw ++ [' '])).length ≤ 255 := by
    have hshort := hm.short
    simp only [List.length_append, List.length_cons, List.length_nil]
    omega
  rw [wireTokens, hsplit, cstr_take_append hnul hfits, List.append_assoc, List.cons_append,
    List.append_assoc, List.singleton_append, strtok_word hm.toIsWord (by decide),
    strtok_word hkw.toIsWord (by decide)]
  exact ⟨_, rfl⟩

theorem numbered_nulFree {m kw target action : Text} (hm : IsToken m) (hkw : IsToken kw)
    (htarget : IsToken target) (haction : IsToken action) (c : Int) :
    ∀ x ∈ numbered m kw c target action, x ≠ Char.ofNat 0 := by
  intro x hx
  simp only [numbered, List.mem_append, List.mem_cons] at hx
  rcases hx with hx | rfl | hx | rfl | hx | rfl | hx | rfl | hx
  · exact hm.nulFree x hx
  · decide
  · exact hkw.nulFree x hx
  · decide
  · exact decimal_nulFree c x hx
  · decide
  · exact htarget.nulFree x hx
  · decide
  · exact haction.nulFree x hx

/-- A line whose five words fit the receive buffer arrives with them, whether
its newline does or not. -/
theorem wireTokens_numbered {m kw target action : Text} (hm : IsToken m) (hkw : IsToken kw)
    (htarget : IsToken target) (haction : IsToken action) (c : Int)
    (hfits : (numbered m kw c target action).length ≤ 255) :
    wireTokens (numbered m kw c target action ++ ['\n'])
      = [m, kw, decimal c, target, action] := by
  have hnul := numbered_nulFree hm hkw htarget haction c
  have hnl : isDelim '\n' = true := by decide
  have hwords := strtok_numbered (by decide) hm.toIsWord hkw.toIsWord (isWord_cmdid c)
    htarget.toIsWord haction.toIsWord
  rw [wireTokens, cstr_take_append hnul hfits]
  cases 255 - (numbered m kw c target action).length with
  | zero => exact (congrArg _ (List.append_nil _)).trans hwords
  | succ k =>
      rw [List.take_succ_cons, List.take_nil]
      exact (strtok_append_delim hnl _).trans hwords

section CommandLine

variable {m target action : Text} (hm : IsToken m) (htarget : IsToken target)
  (haction : IsToken action) {c : Int} (hfits : (commandLine m c target action).length ≤ 255)

include hm htarget haction hfits

/-- A COMMAND that fits is read whole. -/
theorem cstr_commandLine :
    cstr ((commandLine m c target action).take 255) = commandLine m c target action := by
  rw [List.take_of_length_le hfits, commandLine_eq]
  refine cstr_eq_self fun x hx => ?_
  rcases List.mem_append.mp hx with hx | hx
  · exact numbered_nulFree hm isToken_command htarget haction c x hx
  · rw [List.mem_singleton.mp hx]
    decide

theorem wireTokens_commandLine :
    wireTokens (commandLine m c target action)
      = [m, "COMMAND".toList, decimal c, target, action] := by
  rw [commandLine_eq] at hfits ⊢
  rw [List.length_append] at hfits
  exact wireTokens_numbered hm isToken_command htarget haction c (Nat.le_of_succ_le hfits)

/-- The FEEDBACK for a COMMAND that fits has room for its words, but not always
for its newline. -/
theorem wireTokens_feedbackLine :
    (numbered m "FEEDBACK".toList c target action).length ≤ 255 ∧
      wireTokens (feedbackLine m c target action)
        = [m, "FEEDBACK".toList, decimal c, target, action] := by
  have hlen : (numbered m "FEEDBACK".toList c target action).length
      = (commandLine m c target action).length := by
    rw [commandLine_eq]
    simp [numbered]
    omega
  rw [← hlen] at hfits
  refine ⟨hfits, ?_⟩
  rw [feedbackLine_eq]
  exact wireTokens_numbered hm isToken_feedback htarget haction c hfits

end CommandLine

theorem wireTokens_feedback {m : Text} (hm : IsModuleId m) (c : Int) (target action : Text) :
    ∃ args, wireTokens (snprintf 256 (feedbackLine m c target action)).text
      = m :: "FEEDBACK".toList :: args := by
  rw [wireTokens_snprintf]
  exact wireTokens_line hm isToken_feedback (by decide) _

theorem wireTokens_command {m : Text} (hm : IsModuleId m) (c : Int) (target action : Text) :
    ∃ args, wireTokens (commandLine m c target action) = m :: "COMMAND".toList :: args :=
  wireTokens_line hm isToken_command (by decide) _

end HomeSecurity
