import HomeSecurity.CText

/-!
# Searching C text

The part of `<string.h>`, `<strings.h>` and `<stdio.h>` that hand-written
parsers of header lines and forms use: `strstr`, `%Ns` of `sscanf`,
`strncasecmp`, and the split of a `key=value` field at its first `=`.

`strstr_pair_eq_some_iff` is the specification a line scanner needs: with a
two-byte terminator such as CRLF, what comes before the first occurrence is
exactly what holds none.
-/

namespace CText

/-- `strstr`: the text before the first occurrence of `needle` and the text after
it. -/
def strstr (needle : Text) : Text → Option (Text × Text)
  | [] => if needle = [] then some ([], []) else none
  | c :: s =>
      if needle.isPrefixOf (c :: s) then some ([], (c :: s).drop needle.length)
      else (strstr needle s).map fun p => (c :: p.1, p.2)

/-- `%Ns`: a word of at most `n` bytes and what is left behind it; `none` is a
matching failure. -/
def scanWord (n : Nat) (s : Text) : Option (Text × Text) :=
  let t := s.dropWhile isspace
  let w := (t.takeWhile fun c => !isspace c).take n
  if w = [] then none else some (w, t.drop w.length)

/-- `strncasecmp(a, b, n) == 0` in the C locale. -/
def strncasecmpEq (n : Nat) (a b : Text) : Bool :=
  (a.take n).map Char.toLower == (b.take n).map Char.toLower

/-- The text before the first `sep` and the text after it, `strchr` and `memchr`. -/
def strchr (sep : Char) (s : Text) : Option (Text × Text) :=
  match s.dropWhile (· ≠ sep) with
  | [] => none
  | _ :: after => some (s.takeWhile (· ≠ sep), after)

/-! ## strstr -/

theorem strstr_length {needle : Text} (hne : needle ≠ []) {s a b : Text}
    (h : strstr needle s = some (a, b)) : b.length < s.length := by
  induction s generalizing a with
  | nil =>
      rw [strstr, if_neg hne] at h
      cases h
  | cons c s ih =>
      rw [strstr] at h
      split at h
      · obtain ⟨-, rfl⟩ := Prod.mk.inj (Option.some.inj h)
        have hpos := List.length_pos_iff.mpr hne
        rw [List.length_drop, List.length_cons]
        omega
      · obtain ⟨⟨a', b'⟩, hs, heq⟩ := Option.map_eq_some_iff.mp h
        obtain ⟨-, rfl⟩ := Prod.mk.inj heq
        exact Nat.lt_succ_of_lt (ih hs)

/-- A match cuts the text around the needle. -/
theorem strstr_append {needle s a b : Text} (h : strstr needle s = some (a, b)) :
    s = a ++ (needle ++ b) := by
  induction s generalizing a with
  | nil =>
      rw [strstr] at h
      split at h
      · rename_i hneedle
        obtain ⟨rfl, rfl⟩ := Prod.mk.inj (Option.some.inj h)
        rw [hneedle]
        rfl
      · cases h
  | cons c s ih =>
      rw [strstr] at h
      split at h
      · rename_i hpre
        obtain ⟨rest, hrest⟩ := List.isPrefixOf_iff_prefix.mp hpre
        obtain ⟨rfl, rfl⟩ := Prod.mk.inj (Option.some.inj h)
        rw [← hrest, List.drop_left, List.nil_append]
      · obtain ⟨⟨a', b'⟩, hs, heq⟩ := Option.map_eq_some_iff.mp h
        obtain ⟨rfl, rfl⟩ := Prod.mk.inj heq
        rw [ih hs]
        rfl

section Pair

variable {x y : Char}

theorem isPrefixOf_pair_iff {s : Text} :
    [x, y].isPrefixOf s = true ↔ ∃ b, s = x :: y :: b := by
  rw [List.isPrefixOf_iff_prefix]
  constructor
  · rintro ⟨b, rfl⟩
    exact ⟨b, rfl⟩
  · rintro ⟨b, rfl⟩
    exact ⟨b, rfl⟩

theorem strstr_pair_eq_some_iff (hxy : x ≠ y) {s a b : Text} :
    strstr [x, y] s = some (a, b) ↔ s = a ++ x :: y :: b ∧ ¬[x, y] <:+: a := by
  induction s generalizing a with
  | nil => simp [strstr]
  | cons c s ih =>
      rw [strstr]
      split
      · rename_i hpre
        obtain ⟨s', hs'⟩ := isPrefixOf_pair_iff.mp hpre
        obtain ⟨rfl, rfl⟩ := List.cons.inj hs'
        constructor
        · intro h
          obtain ⟨rfl, rfl⟩ := Prod.mk.inj (Option.some.inj h)
          exact ⟨rfl, by simp⟩
        · -- the occurrence in front leaves no other `a`
          rintro ⟨heq, hfree⟩
          match a, heq, hfree with
          | [], heq, _ =>
              obtain ⟨-, htail⟩ := List.cons.inj heq
              obtain ⟨-, rfl⟩ := List.cons.inj htail
              rfl
          | [d], heq, _ =>
              obtain ⟨-, htail⟩ := List.cons.inj heq
              exact absurd (List.cons.inj htail).1.symm hxy
          | d :: e :: a', heq, hfree =>
              obtain ⟨rfl, htail⟩ := List.cons.inj heq
              obtain ⟨rfl, -⟩ := List.cons.inj htail
              exact absurd ⟨[], a', rfl⟩ hfree
      · rename_i hpre
        rw [Option.map_eq_some_iff]
        constructor
        · rintro ⟨⟨a', b'⟩, hs, heq⟩
          obtain ⟨rfl, rfl⟩ := Prod.mk.inj heq
          obtain ⟨rfl, hfree⟩ := ih.mp hs
          refine ⟨rfl, fun hinfix => ?_⟩
          rcases List.infix_cons_iff.mp hinfix with hfront | hrest
          · exact hpre (List.isPrefixOf_iff_prefix.mpr (hfront.trans ⟨x :: y :: b', by simp⟩))
          · exact hfree hrest
        · rintro ⟨heq, hfree⟩
          cases a with
          | nil => exact absurd (isPrefixOf_pair_iff.mpr ⟨b, heq⟩) hpre
          | cons d a =>
              obtain ⟨rfl, rfl⟩ := List.cons.inj heq
              exact ⟨(a, b), ih.mpr ⟨rfl, fun h => hfree (List.infix_cons h)⟩, rfl⟩

theorem strstr_pair_eq_none_iff {s : Text} : strstr [x, y] s = none ↔ ¬[x, y] <:+: s := by
  induction s with
  | nil => simp [strstr]
  | cons c s ih =>
      rw [strstr]
      split
      · rename_i hpre
        obtain ⟨s', hs'⟩ := isPrefixOf_pair_iff.mp hpre
        exact ⟨nofun, fun h => absurd ⟨[], s', hs'.symm⟩ h⟩
      · rename_i hpre
        rw [Option.map_eq_none_iff, ih, List.infix_cons_iff, not_or]
        exact ⟨fun h => ⟨fun hfront => hpre (List.isPrefixOf_iff_prefix.mpr hfront), h⟩,
          fun h => h.2⟩

end Pair

/-! ## strchr -/

theorem strchr_eq_some_iff {sep : Char} {s a b : Text} :
    strchr sep s = some (a, b) ↔ s = a ++ sep :: b ∧ sep ∉ a := by
  induction s generalizing a with
  | nil => simp [strchr]
  | cons c s ih =>
      by_cases hc : c = sep
      · subst hc
        constructor
        · intro h
          have hcut : strchr c (c :: s) = some ([], s) := by simp [strchr]
          obtain ⟨rfl, rfl⟩ := Prod.mk.inj (Option.some.inj (hcut.symm.trans h))
          exact ⟨rfl, List.not_mem_nil⟩
        · rintro ⟨heq, hfree⟩
          cases a with
          | nil =>
              obtain ⟨-, rfl⟩ := List.cons.inj heq
              simp [strchr]
          | cons d a =>
              obtain ⟨rfl, -⟩ := List.cons.inj heq
              exact absurd (List.mem_cons_self ..) hfree
      · have hskip : strchr sep (c :: s) = (strchr sep s).map fun p => (c :: p.1, p.2) := by
          simp only [strchr, List.dropWhile_cons, List.takeWhile_cons, decide_not, hc,
            decide_false, Bool.not_false, if_true]
          cases s.dropWhile fun d => !decide (d = sep) <;> rfl
        rw [hskip, Option.map_eq_some_iff]
        constructor
        · rintro ⟨⟨a', b'⟩, hs, heq⟩
          obtain ⟨rfl, rfl⟩ := Prod.mk.inj heq
          obtain ⟨rfl, hfree⟩ := ih.mp hs
          refine ⟨rfl, fun hmem => ?_⟩
          rcases List.mem_cons.mp hmem with heq | hmem
          · exact hc heq.symm
          · exact hfree hmem
        · rintro ⟨heq, hfree⟩
          cases a with
          | nil => exact absurd (List.cons.inj heq).1 hc
          | cons d a =>
              obtain ⟨rfl, rfl⟩ := List.cons.inj heq
              exact ⟨(a, b), ih.mpr ⟨rfl, fun h => hfree (List.mem_cons_of_mem _ h)⟩, rfl⟩

/-! ## Words -/

theorem strtok_cons_delim {delim : Char → Bool} {c : Char} (hc : delim c = true) (s : Text) :
    strtok delim (c :: s) = strtok delim s := by
  have hsplit : (c :: s).splitOnP delim = [] :: s.splitOnP delim :=
    List.splitOnP_append_cons_of_forall_mem (fun _ h => absurd h List.not_mem_nil) c hc s
  rw [strtok, hsplit, List.filter_cons_of_neg (by simp)]
  rfl

theorem strtok_dropWhile (delim : Char → Bool) (s : Text) :
    strtok delim (s.dropWhile delim) = strtok delim s := by
  induction s with
  | nil => rfl
  | cons c s ih =>
      rw [List.dropWhile_cons]
      split
      · rename_i hc
        rw [ih, strtok_cons_delim hc]
      · rfl

/-- The first token of a text that starts with one. -/
theorem strtok_of_head {delim : Char → Bool} {c : Char} (hc : delim c = false) (s : Text) :
    strtok delim (c :: s) = (c :: s).takeWhile (fun x => !delim x)
      :: strtok delim ((c :: s).dropWhile fun x => !delim x) := by
  have hword : IsWord delim ((c :: s).takeWhile fun x => !delim x) :=
    ⟨by simp [hc],
      fun x hx => by simpa using List.mem_takeWhile_imp hx⟩
  have hsplit := List.takeWhile_append_dropWhile (p := fun x => !delim x) (l := c :: s)
  cases hrest : (c :: s).dropWhile fun x => !delim x with
  | nil =>
      rw [hrest, List.append_nil] at hsplit
      rw [hsplit] at hword ⊢
      exact strtok_self hword
  | cons d rest =>
      have hd : delim d = true := by
        have hhead := List.head_dropWhile_not (fun x => !delim x) (l := c :: s)
          (by rw [hrest]; exact List.cons_ne_nil _ _)
        simpa [hrest] using hhead
      rw [hrest] at hsplit
      rw [← hsplit, strtok_word hword hd, strtok_cons_delim hd, hsplit]

/-- A token lies in the text it was cut from. -/
theorem infix_of_strtok {delim : Char → Bool} {s w : Text} (hw : w ∈ strtok delim s) :
    w <:+: s := by
  induction hn : s.length using Nat.strong_induction_on generalizing s with
  | _ n ih =>
      cases s with
      | nil => cases hw
      | cons c s =>
          cases hc : delim c with
          | true =>
              rw [strtok_cons_delim hc] at hw
              exact (ih s.length (by rw [← hn]; exact Nat.lt_succ_self _) hw rfl).trans
                (List.suffix_cons c s).isInfix
          | false =>
              rw [strtok_of_head hc] at hw
              rcases List.mem_cons.mp hw with rfl | hw
              · exact (List.takeWhile_prefix _).isInfix
              · have hsuffix := List.dropWhile_suffix (l := c :: s) fun x => !delim x
                refine (ih _ ?_ hw rfl).trans hsuffix.isInfix
                rw [← hn, List.dropWhile_cons_of_pos (by simpa using hc)]
                exact Nat.lt_succ_of_le (List.dropWhile_suffix _).length_le
theorem strtok_eq_nil_iff {delim : Char → Bool} {s : Text} :
    strtok delim s = [] ↔ ∀ c ∈ s, delim c = true := by
  induction s with
  | nil => simp [strtok]
  | cons c s ih =>
      cases hc : delim c with
      | true => rw [strtok_cons_delim hc, ih, List.forall_mem_cons, hc]; simp
      | false => rw [strtok_of_head hc, List.forall_mem_cons, hc]; simp

/-- Without a delimiter there is one token at most. -/
theorem strtok_free {delim : Char → Bool} {s : Text} (hfree : ∀ c ∈ s, delim c = false) :
    strtok delim s = if s = [] then [] else [s] := by
  split
  · rename_i hs
    rw [hs]
    rfl
  · rename_i hs
    exact strtok_self ⟨hs, hfree⟩

/-- The last two words of a line that is cut off after `k` characters are there
if there is something in both and neither is cut. -/
theorem strtok_take_pair {delim : Char → Bool} {d e : Char} (hd : delim d = true)
    (he : delim e = true) {t a : Text} (ht : ∀ c ∈ t, delim c = false)
    (ha : ∀ c ∈ a, delim c = false) (k : Nat) :
    (∃ rest, strtok delim ((t ++ d :: (a ++ [e])).take k) = t :: a :: rest) ↔
      t ≠ [] ∧ a ≠ [] ∧ t.length + 1 + a.length ≤ k := by
  have hone : ∀ s : Text, (∀ c ∈ s, delim c = false) →
      ∀ v w rest, strtok delim s ≠ v :: w :: rest := by
    intro s hs v w rest h
    rw [strtok_free hs] at h
    split at h <;> cases h
  by_cases hk : k ≤ t.length
  · refine iff_of_false (fun ⟨rest, h⟩ => ?_) (by omega)
    rw [List.take_append_of_le_length hk] at h
    exact hone _ (fun c hc => ht c (List.mem_of_mem_take hc)) _ _ _ h
  · obtain ⟨j, rfl⟩ : ∃ j, k = t.length + (j + 1) := ⟨k - t.length - 1, by omega⟩
    have hcut : (t ++ d :: (a ++ [e])).take (t.length + (j + 1)) = t ++ d :: (a ++ [e]).take j := by
      rw [List.take_length_add_append, List.take_succ_cons]
    have hlast : strtok delim ((a ++ [e]).take j) = if a.take j = [] then [] else [a.take j] := by
      rw [← strtok_free fun c hc => ha c (List.mem_of_mem_take hc), List.take_append]
      cases j - a.length with
      | zero => rw [List.take_zero, List.append_nil]
      | succ i =>
          rw [List.take_succ_cons, List.take_nil]
          exact strtok_append_delim he _
    rw [hcut]
    by_cases hempty : t = []
    · refine iff_of_false (fun ⟨rest, h⟩ => ?_) fun h => h.1 hempty
      rw [hempty, List.nil_append, strtok_cons_delim hd, hlast] at h
      split at h
      · cases h
      · exact nomatch (List.cons.inj h).2
    · rw [strtok_word ⟨hempty, ht⟩ hd, hlast]
      constructor
      · rintro ⟨rest, h⟩
        split at h
        · cases h
        · rename_i hne
          obtain ⟨-, htail⟩ := List.cons.inj h
          obtain ⟨hall, -⟩ := List.cons.inj htail
          rw [hall] at hne
          have hlen := congrArg List.length hall
          rw [List.length_take] at hlen
          exact ⟨hempty, hne, by omega⟩
      · rintro ⟨-, hne, hlen⟩
        rw [List.take_of_length_le (by omega), if_neg hne]
        exact ⟨[], rfl⟩

/-- `%Ns` fails only where there is no word. -/
theorem scanWord_eq_none_iff {n : Nat} (hn : n ≠ 0) {s : Text} :
    scanWord n s = none ↔ strtok isspace s = [] := by
  rw [← strtok_dropWhile, scanWord]
  cases ht : s.dropWhile isspace with
  | nil => simp [strtok]
  | cons c t =>
      have hc : isspace c = false := by
        have hhead := List.head_dropWhile_not isspace (l := s)
          (by rw [ht]; exact List.cons_ne_nil _ _)
        simpa [ht] using hhead
      rw [strtok_of_head hc]
      simp [hc, hn]

/-- All that follows the longest prefix follows what is taken of it. -/
theorem mem_drop_takeWhile {q : Char → Bool} {s : Text} {x : Char} (n : Nat)
    (hx : x ∈ s.dropWhile q) : x ∈ s.drop ((s.takeWhile q).take n).length := by
  have hle : ((s.takeWhile q).take n).length ≤ (s.takeWhile q).length := List.length_take_le' ..
  have hsplit : s.drop ((s.takeWhile q).take n).length
      = (s.takeWhile q).drop ((s.takeWhile q).take n).length ++ s.dropWhile q := by
    rw [← List.drop_append_of_le_length hle, List.takeWhile_append_dropWhile]
  rw [hsplit]
  exact List.mem_append_right _ hx

/-- Behind the word that `%Ns` reads the other words are left, or what it cut off. -/
theorem scanWord_rest {n : Nat} {s w rest w₁ w₂ : Text} {ws : List Text}
    (h : scanWord n s = some (w, rest)) (hwords : strtok isspace s = w₁ :: w₂ :: ws) :
    strtok isspace rest ≠ [] := by
  rw [← strtok_dropWhile] at hwords
  simp only [scanWord, Option.ite_none_left_eq_some, Option.some.injEq, Prod.mk.injEq] at h
  obtain ⟨-, rfl, rfl⟩ := h
  cases ht : s.dropWhile isspace with
  | nil =>
      rw [ht] at hwords
      cases hwords
  | cons c t =>
      have hc : isspace c = false := by
        have hhead := List.head_dropWhile_not isspace (l := s)
          (by rw [ht]; exact List.cons_ne_nil _ _)
        simpa [ht] using hhead
      rw [ht, strtok_of_head hc] at hwords
      obtain ⟨-, htail⟩ := List.cons.inj hwords
      intro hnil
      rw [strtok_eq_nil_iff] at hnil
      have hall := strtok_eq_nil_iff.mpr fun x hx => hnil x (mem_drop_takeWhile n hx)
      rw [htail] at hall
      cases hall

/-! ## Words of a text cut short -/

/-- Words read from a line that was cut short: the last may be cut, and others missing. -/
inductive CutShort : List Text → List Text → Prop where
  | nil (words : List Text) : CutShort [] words
  | last {w w' : Text} (h : w <+: w') (words : List Text) : CutShort [w] (w' :: words)
  | cons (w : Text) {toks words : List Text} (h : CutShort toks words) :
      CutShort (w :: toks) (w :: words)

namespace CutShort

theorem trans {ws vs us : List Text} (h : CutShort ws vs) (h' : CutShort vs us) :
    CutShort ws us := by
  induction h generalizing us with
  | nil words => exact .nil us
  | last h words =>
      cases h' with
      | last h' words => exact .last (h.trans h') words
      | cons w h' => exact .last h _
  | cons w h ih =>
      cases h' with
      | last h' words =>
          cases h
          exact .last h' words
      | cons w h' => exact .cons w (ih h')

/-- A word that others follow is whole. -/
theorem of_cons_cons {a b w : Text} {toks words : List Text}
    (h : CutShort (a :: b :: toks) (w :: words)) : a = w ∧ CutShort (b :: toks) words := by
  cases h with
  | cons w h => exact ⟨rfl, h⟩

theorem of_cons {a w : Text} {toks words : List Text} (h : CutShort (a :: toks) (w :: words)) :
    a <+: w ∧ CutShort toks words := by
  cases h with
  | last h words => exact ⟨h, .nil words⟩
  | cons w h => exact ⟨List.prefix_rfl, h⟩

/-- Five words read of five. -/
theorem five {a b c d e a' b' c' d' e' : Text} {rest : List Text}
    (h : CutShort (a' :: b' :: c' :: d' :: e' :: rest) [a, b, c, d, e]) :
    a' = a ∧ b' = b ∧ c' = c ∧ d' = d ∧ e' <+: e ∧ rest = [] := by
  obtain ⟨ha, h⟩ := h.of_cons_cons
  obtain ⟨hb, h⟩ := h.of_cons_cons
  obtain ⟨hc, h⟩ := h.of_cons_cons
  obtain ⟨hd, h⟩ := h.of_cons_cons
  obtain ⟨he, h⟩ := h.of_cons
  cases h
  exact ⟨ha, hb, hc, hd, he, rfl⟩

end CutShort

/-- The words of a text that goes on. -/
theorem strtok_append_cut (delim : Char → Bool) (p rest : Text) :
    CutShort (strtok delim p) (strtok delim (p ++ rest)) := by
  induction hn : p.length using Nat.strong_induction_on generalizing p with
  | _ n ih =>
      cases p with
      | nil => exact .nil _
      | cons c p =>
          cases hc : delim c with
          | true =>
              rw [List.cons_append, strtok_cons_delim hc, strtok_cons_delim hc]
              exact ih p.length (by rw [← hn]; exact Nat.lt_succ_self _) p rfl
          | false =>
              have hhead := strtok_of_head hc p
              have hlong := strtok_of_head hc (p ++ rest)
              rw [← List.cons_append] at hlong
              by_cases hfree : ∀ x ∈ c :: p, (!delim x) = true
              · -- the word may go on
                rw [hhead, hlong, List.takeWhile_eq_self_iff.mpr hfree,
                  List.dropWhile_eq_nil_iff.mpr hfree]
                refine .last ?_ _
                rw [List.takeWhile_append_of_pos hfree]
                exact List.prefix_append ..
              · -- the word ends before the rest
                have hsome : ¬((c :: p).dropWhile fun x => !delim x) = [] :=
                  fun h => hfree (List.dropWhile_eq_nil_iff.mp h)
                have hshort : ((c :: p).takeWhile fun x => !delim x).length ≠ (c :: p).length := by
                  intro h
                  exact hfree (List.takeWhile_eq_self_iff.mp
                    ((List.takeWhile_prefix _).eq_of_length h))
                rw [hhead, hlong, List.takeWhile_append, List.dropWhile_append, if_neg hshort,
                  if_neg (by rwa [List.isEmpty_iff])]
                refine .cons _ (ih _ ?_ _ rfl)
                rw [← hn, List.dropWhile_cons_of_pos (by simpa using hc)]
                exact Nat.lt_succ_of_le (List.dropWhile_suffix _).length_le

theorem strtok_cut {delim : Char → Bool} {p s : Text} (h : p <+: s) :
    CutShort (strtok delim p) (strtok delim s) := by
  obtain ⟨rest, rfl⟩ := h
  exact strtok_append_cut delim p rest

end CText
