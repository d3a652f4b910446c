import Mathlib.Algebra.Order.Ring.Int
import Mathlib.Data.List.TakeWhile
import Mathlib.Tactic.Common

/-!
# C text

The part of `<string.h>`, `<stdio.h>` and `<stdlib.h>` that line protocols in C
are written with: bounded buffers (`snprintf`), bounded comparison
(`strncmp`), tokenizing (`strtok_r`), decimal printing (`%d`) and `atoi`.

A C string is the list of its bytes before the terminating NUL, a byte being
the character with its code. Nothing here names a protocol: the lemmas are the
ones a round-trip proof needs - what a buffer keeps (`snprintf_text`), how a
line splits when its first word is known (`strtok_word`), and that printing an
`int` and reading it back is the identity (`atoi_decimal`).
-/

namespace CText

/-- The bytes of a C string, without the terminating NUL. -/
abbrev Text := List Char

/-- What a C function sees of a byte buffer: the bytes before the first NUL. -/
def cstr (bytes : Text) : Text := bytes.takeWhile (· ≠ Char.ofNat 0)

theorem cstr_eq_self {t : Text} (h : ∀ c ∈ t, c ≠ Char.ofNat 0) : cstr t = t :=
  List.takeWhile_eq_self_iff.mpr fun c hc => by simpa using h c hc

theorem cstr_nulFree (bytes : Text) : ∀ c ∈ cstr bytes, c ≠ Char.ofNat 0 :=
  fun _ hc => by simpa using List.mem_takeWhile_imp hc

theorem nulFree_of_all {t : Text} (h : t.all (· != Char.ofNat 0) = true) :
    ∀ c ∈ t, c ≠ Char.ofNat 0 :=
  fun c hc => bne_iff_ne.mp (List.all_eq_true.mp h c hc)

theorem free_of_all {p : Char → Bool} {t : Text} (h : t.all (fun c => !p c) = true) :
    ∀ c ∈ t, p c = false :=
  fun c hc => (Bool.not_eq_true' _).mp (List.all_eq_true.mp h c hc)

/-- A prefix that fits the receive buffer and holds no NUL is read whole. -/
theorem cstr_take_append {w : Text} (hw : ∀ c ∈ w, c ≠ Char.ofNat 0) {n : Nat}
    (hn : w.length ≤ n) (rest : Text) :
    cstr ((w ++ rest).take n) = w ++ cstr (rest.take (n - w.length)) := by
  rw [List.take_append, List.take_of_length_le hn, cstr, cstr,
    List.takeWhile_append_of_pos fun c hc => by simpa using hw c hc]

/-! ## Bounded buffers -/

/-- The content of a `char [n]` that holds a terminated string. -/
structure CBuf (n : Nat) where
  text : Text
  fits : text.length < n
deriving DecidableEq

-- The sizes the sources declare their buffers with.
instance neZero16 : NeZero 16 := ⟨by decide⟩
instance neZero32 : NeZero 32 := ⟨by decide⟩
instance neZero256 : NeZero 256 := ⟨by decide⟩
instance neZero512 : NeZero 512 := ⟨by decide⟩

/-- `snprintf` into a `char [n]`: the text is clipped to `n - 1` bytes. -/
def snprintf (n : Nat) [NeZero n] (t : Text) : CBuf n :=
  ⟨t.take (n - 1), by
    have := Nat.pos_of_neZero n
    rw [List.length_take]
    omega⟩

/-- A zeroed `char [n]`. -/
def CBuf.zeroed (n : Nat) [NeZero n] : CBuf n := ⟨[], Nat.pos_of_neZero n⟩

/-- A text that fits is stored whole. -/
theorem snprintf_text {n : Nat} [NeZero n] {t : Text} (h : t.length < n) :
    (snprintf n t).text = t :=
  List.take_of_length_le (by omega)

/-- A text that fits with room to spare is what was printed. -/
theorem snprintf_inj {n : Nat} [NeZero n] {a b : Text} (hb : b.length + 1 < n)
    (h : snprintf n a = snprintf n b) : a = b := by
  have htext : a.take (n - 1) = b :=
    (congrArg CBuf.text h).trans (snprintf_text (Nat.lt_of_succ_lt hb))
  have hlen := congrArg List.length htext
  rw [List.length_take] at hlen
  rwa [List.take_of_length_le (by omega)] at htext

/-- `strncmp(a, b, n) == 0`. -/
def strncmpEq (n : Nat) (a b : Text) : Bool := a.take n == b.take n

/-- Against a string shorter than the bound, `strncmp` is equality: the
terminating NUL takes part in the comparison. -/
theorem strncmpEq_iff {n : Nat} {a b : Text} (h : a.length < n) :
    strncmpEq n a b = true ↔ a = b := by
  rw [strncmpEq, beq_iff_eq, List.take_of_length_le (Nat.le_of_lt h)]
  constructor
  · intro hab
    have hlen : b.length ≤ n := by
      have := congrArg List.length hab
      rw [List.length_take] at this
      omega
    rwa [List.take_of_length_le hlen] at hab
  · rintro rfl
    exact (List.take_of_length_le (Nat.le_of_lt h)).symm

theorem CBuf.strncmpEq_iff {n : Nat} (a : CBuf n) {b : Text} :
    strncmpEq n a.text b = true ↔ a.text = b :=
  CText.strncmpEq_iff a.fits

/-! ## Tokens -/

/-- `s` has no character of the delimiter set and at least one other. -/
structure IsWord (delim : Char → Bool) (s : Text) : Prop where
  ne_nil : s ≠ []
  free : ∀ c ∈ s, delim c = false

theorem IsWord.of_all {delim : Char → Bool} {s : Text} (hne : s ≠ [])
    (hall : s.all (fun c => !delim c) = true) : IsWord delim s :=
  ⟨hne, free_of_all hall⟩

theorem IsWord.reverse {delim : Char → Bool} {s : Text} (hs : IsWord delim s) :
    IsWord delim s.reverse :=
  ⟨fun h => hs.ne_nil (List.reverse_eq_nil_iff.mp h),
    fun c hc => hs.free c (List.mem_reverse.mp hc)⟩

/-- Nothing is skipped before a word. -/
theorem IsWord.dropWhile_append {delim : Char → Bool} {w : Text} (hw : IsWord delim w)
    (rest : Text) : (w ++ rest).dropWhile delim = w ++ rest := by
  cases w with
  | nil => exact absurd rfl hw.ne_nil
  | cons c w =>
      rw [List.cons_append, List.dropWhile_cons, hw.free c (List.mem_cons_self ..)]
      rfl

/-- `isgraph`. -/
def isgraph (c : Char) : Bool := decide (0x21 ≤ c.toNat) && decide (c.toNat ≤ 0x7E)

/-- Printable ASCII characters without the space, at least one. -/
structure IsGraphic (s : Text) : Prop where
  ne_nil : s ≠ []
  graph : ∀ c ∈ s, isgraph c = true

theorem IsGraphic.of_all {s : Text} (hne : s ≠ []) (hall : s.all isgraph = true) : IsGraphic s :=
  ⟨hne, List.all_eq_true.mp hall⟩

theorem IsGraphic.isWord {delim : Char → Bool} (hdelim : ∀ c, isgraph c = true → delim c = false)
    {s : Text} (hs : IsGraphic s) : IsWord delim s :=
  ⟨hs.ne_nil, fun c hc => hdelim c (hs.graph c hc)⟩

/-- The tokens that successive `strtok_r` calls with one delimiter set return. -/
def strtok (delim : Char → Bool) (s : Text) : List Text :=
  (s.splitOnP delim).filter (· ≠ [])

/-- The first word of a line, up to the delimiter that ends it. -/
theorem strtok_word {delim : Char → Bool} {w : Text} (hw : IsWord delim w)
    {c : Char} (hc : delim c = true) (s : Text) :
    strtok delim (w ++ c :: s) = w :: strtok delim s := by
  rw [strtok, List.splitOnP_append_cons_of_forall_mem hw.free c hc,
    List.filter_cons_of_pos (by simpa using hw.ne_nil)]
  rfl

/-- A word that ends the line. -/
theorem strtok_self {delim : Char → Bool} {w : Text} (hw : IsWord delim w) :
    strtok delim w = [w] := by
  rw [strtok, List.splitOnP_eq_singleton hw.free,
    List.filter_cons_of_pos (by simpa using hw.ne_nil)]
  rfl

/-- A delimiter at the end adds no token. -/
theorem strtok_append_delim {delim : Char → Bool} {c : Char} (hc : delim c = true) (s : Text) :
    strtok delim (s ++ [c]) = strtok delim s := by
  have hsplit : (s ++ [c]).splitOnP delim = s.splitOnP delim ++ [[]] :=
    List.splitOnP_append_cons s [] hc
  rw [strtok, hsplit, List.filter_append]
  exact List.append_nil _

theorem strtok_ne_nil {delim : Char → Bool} {s w : Text} (hw : w ∈ strtok delim s) : w ≠ [] := by
  simpa using (List.mem_filter.mp hw).2

theorem splitOnP_free {delim : Char → Bool} {s w : Text} (hw : w ∈ s.splitOnP delim) :
    ∀ c ∈ w, delim c = false := by
  induction s generalizing w with
  | nil =>
      rw [List.mem_singleton.mp hw]
      simp
  | cons x s ih =>
      rw [List.splitOnP_cons_eq_if_modifyHead] at hw
      split at hw
      · rcases List.mem_cons.mp hw with rfl | hw
        · simp
        · exact ih hw
      · rename_i hx
        cases hs : s.splitOnP delim with
        | nil => exact absurd hs (List.splitOnP_ne_nil _ _)
        | cons v vs =>
            rw [hs] at hw ih
            rcases List.mem_cons.mp hw with rfl | hw
            · intro c hc
              rcases List.mem_cons.mp hc with rfl | hc
              · simpa using hx
              · exact ih (List.mem_cons_self ..) c hc
            · exact ih (List.mem_cons_of_mem _ hw)

/-- The pieces of a text hold nothing else. -/
theorem mem_of_splitOnP {delim : Char → Bool} {s w : Text} (hw : w ∈ s.splitOnP delim) {c : Char}
    (hc : c ∈ w) : c ∈ s := by
  induction s generalizing w with
  | nil =>
      rw [List.mem_singleton.mp hw] at hc
      exact hc
  | cons x s ih =>
      rw [List.splitOnP_cons_eq_if_modifyHead] at hw
      split at hw
      · rcases List.mem_cons.mp hw with rfl | hw
        · exact absurd hc List.not_mem_nil
        · exact List.mem_cons_of_mem _ (ih hw hc)
      · cases hs : s.splitOnP delim with
        | nil => exact absurd hs (List.splitOnP_ne_nil _ _)
        | cons v vs =>
            rw [hs] at hw ih
            rcases List.mem_cons.mp hw with rfl | hw
            · rcases List.mem_cons.mp hc with rfl | hc
              · exact List.mem_cons_self ..
              · exact List.mem_cons_of_mem _ (ih (List.mem_cons_self ..) hc)
            · exact List.mem_cons_of_mem _ (ih (List.mem_cons_of_mem _ hw) hc)

theorem mem_of_strtok {delim : Char → Bool} {s w : Text} (hw : w ∈ strtok delim s) {c : Char}
    (hc : c ∈ w) : c ∈ s :=
  mem_of_splitOnP (List.mem_filter.mp hw).1 hc

/-- What `strtok_r` returns is a word. -/
theorem strtok_isWord {delim : Char → Bool} {s w : Text} (hw : w ∈ strtok delim s) :
    IsWord delim w :=
  ⟨strtok_ne_nil hw, splitOnP_free (List.mem_filter.mp hw).1⟩

/-! ## Decimal numbers -/

/-- `%d`. -/
def decimal : Int → Text
  | .ofNat n => Nat.toDigits 10 n
  | .negSucc n => '-' :: Nat.toDigits 10 (n + 1)

theorem length_decimal {i : Int} {k : Nat} (h : i.natAbs < 10 ^ (k + 1)) :
    (decimal i).length ≤ k + 2 := by
  cases i with
  | ofNat n =>
      have hdigits := (Nat.length_toDigits_le_iff (by decide) k.succ_pos).mpr h
      exact Nat.le_succ_of_le hdigits
  | negSucc n =>
      exact Nat.succ_le_succ ((Nat.length_toDigits_le_iff (by decide) k.succ_pos).mpr h)

def isspace (c : Char) : Bool :=
  c = ' ' || c = '\t' || c = '\n' || c.toNat = 11 || c.toNat = 12 || c = '\r'

/-- The optional sign of a number: whether it is negative, and the rest. -/
def splitSign : Text → Bool × Text
  | '-' :: s => (true, s)
  | '+' :: s => (false, s)
  | s => (false, s)

/-- Magnitude of the leading digits, none of them read as 0. -/
def leadingNat (s : Text) : Nat := Nat.ofDigitChars 10 (s.takeWhile Char.isDigit) 0

/-- `strtol` in base 10 with a 64-bit `long`: it saturates. -/
def strtol (s : Text) : Int :=
  let (neg, digits) := splitSign (s.dropWhile isspace)
  let v : Int := if neg then -leadingNat digits else leadingNat digits
  max (-(2 ^ 63)) (min v (2 ^ 63 - 1))

/-- `atoi`: the low 32 bits of `strtol`. -/
def atoi (s : Text) : Int := (strtol s).bmod (2 ^ 32)

theorem isDigit_toDigits (n : Nat) : ∀ c ∈ Nat.toDigits 10 n, c.isDigit = true :=
  fun _ hc => Nat.isDigit_of_mem_toDigits (by decide) (by decide) hc

theorem leadingNat_toDigits (n : Nat) : leadingNat (Nat.toDigits 10 n) = n := by
  rw [leadingNat, List.takeWhile_eq_self_iff.mpr (isDigit_toDigits n),
    Nat.ofDigitChars_ten_toDigits]

theorem digit_bounds {c : Char} (h : c.isDigit = true) : 48 ≤ c.toNat ∧ c.toNat ≤ 57 := by
  simp only [Char.isDigit, Bool.and_eq_true, decide_eq_true_eq] at h
  exact ⟨UInt32.le_iff_toNat_le.mp h.1, UInt32.le_iff_toNat_le.mp h.2⟩

theorem isgraph_of_digit {c : Char} (h : c.isDigit = true) : isgraph c = true := by
  have hb := digit_bounds h
  simp only [isgraph, Bool.and_eq_true, decide_eq_true_eq]
  omega

theorem isspace_of_digit {c : Char} (h : c.isDigit = true) : isspace c = false := by
  have hb := digit_bounds h
  have hne : ∀ d : Char, d.toNat < 48 → c ≠ d := by
    rintro d hd rfl
    omega
  simp only [isspace, Bool.or_eq_false_iff, decide_eq_false_iff_not]
  exact ⟨⟨⟨⟨⟨hne _ (by decide), hne _ (by decide)⟩, hne _ (by decide)⟩,
    by omega⟩, by omega⟩, hne _ (by decide)⟩

/-- Printed digits start with a digit, so `strtol` reads no sign off them. -/
theorem splitSign_toDigits (n : Nat) :
    splitSign (Nat.toDigits 10 n) = (false, Nat.toDigits 10 n) := by
  cases hd : Nat.toDigits 10 n with
  | nil => exact absurd hd Nat.toDigits_ne_nil
  | cons c cs =>
      have hc : c.isDigit = true := isDigit_toDigits n c (hd ▸ List.mem_cons_self ..)
      have hb := digit_bounds hc
      unfold splitSign
      split
      · rename_i h
        obtain ⟨rfl, -⟩ := List.cons.inj h
        exact absurd hb.1 (by decide)
      · rename_i h
        obtain ⟨rfl, -⟩ := List.cons.inj h
        exact absurd hb.1 (by decide)
      · rfl

theorem dropWhile_isspace_toDigits (n : Nat) :
    (Nat.toDigits 10 n).dropWhile isspace = Nat.toDigits 10 n := by
  cases hd : Nat.toDigits 10 n with
  | nil => exact absurd hd Nat.toDigits_ne_nil
  | cons c cs =>
      have hc : c.isDigit = true := isDigit_toDigits n c (hd ▸ List.mem_cons_self ..)
      rw [List.dropWhile_cons, isspace_of_digit hc]
      rfl

theorem strtol_decimal {i : Int} (hlo : -(2 ^ 63) ≤ i) (hhi : i ≤ 2 ^ 63 - 1) :
    strtol (decimal i) = i := by
  cases i with
  | ofNat n =>
      simp only [strtol, decimal, dropWhile_isspace_toDigits, splitSign_toDigits,
        leadingNat_toDigits, Bool.false_eq_true, if_false]
      rw [Int.ofNat_eq_natCast] at hlo hhi ⊢
      omega
  | negSucc n =>
      have hspace : ('-' :: Nat.toDigits 10 (n + 1)).dropWhile isspace
          = '-' :: Nat.toDigits 10 (n + 1) := rfl
      simp only [strtol, decimal, hspace, splitSign, leadingNat_toDigits, if_true]
      rw [Int.negSucc_eq] at hlo hhi ⊢
      push_cast
      omega

/-- Printing an `int` and reading it back gives the same `int`. -/
theorem atoi_decimal {i : Int} (hlo : -(2 ^ 31) ≤ i) (hhi : i < 2 ^ 31) :
    atoi (decimal i) = i := by
  rw [atoi, strtol_decimal (by omega) (by omega)]
  exact Int.bmod_eq_of_le (by omega) (by omega)

/-- An `int` as printed is a word for every delimiter set without digits and
without the minus sign. -/
theorem isWord_decimal {delim : Char → Bool} (hdig : ∀ c, c.isDigit = true → delim c = false)
    (hminus : delim '-' = false) (i : Int) : IsWord delim (decimal i) := by
  cases i with
  | ofNat n =>
      exact ⟨Nat.toDigits_ne_nil, fun c hc => hdig c (isDigit_toDigits n c hc)⟩
  | negSucc n =>
      refine ⟨List.cons_ne_nil _ _, fun c hc => ?_⟩
      rcases List.mem_cons.mp hc with rfl | hc
      · exact hminus
      · exact hdig c (isDigit_toDigits (n + 1) c hc)

end CText
