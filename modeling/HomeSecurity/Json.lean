import Mathlib.Data.List.Basic
import HomeSecurity.CText
import HomeSecurity.Lts

/-!
# JSON texts

A reader for JSON texts as they arrive: bytes, of which the strings must be
UTF-8. It is the whole grammar; a lone surrogate escape, which that allows, is
refused because it stands for no character.

What is proved about it is what a writer without an escaping step needs.
`plain_of_string`: a string literal made by putting quotes around `s` is read as
`s` only if there is nothing to escape in `s`, whatever follows the closing quote.
`value_objectText` reads an object whose members can be read.
-/

namespace Json

open CText (Text)

/-! ## UTF-8 -/

/-- What is to come of a UTF-8 sequence: nothing, that many continuation bytes,
or what may follow a lead byte that limits the next one. -/
inductive Utf8 where
  | start
  | one
  | two
  | three
  | afterE0
  | afterED
  | afterF0
  | afterF4
deriving DecidableEq

namespace Utf8

def within (lo hi : Nat) (next : Utf8) (c : Char) : Option Utf8 :=
  if lo ≤ c.toNat ∧ c.toNat ≤ hi then some next else none

def step : Utf8 → Char → Option Utf8
  | .start, c =>
      if c.toNat < 0x80 then some .start
      else if 0xC2 ≤ c.toNat ∧ c.toNat ≤ 0xDF then some .one
      else if c.toNat = 0xE0 then some .afterE0
      else if c.toNat = 0xED then some .afterED
      else if 0xE1 ≤ c.toNat ∧ c.toNat ≤ 0xEF then some .two
      else if c.toNat = 0xF0 then some .afterF0
      else if 0xF1 ≤ c.toNat ∧ c.toNat ≤ 0xF3 then some .three
      else if c.toNat = 0xF4 then some .afterF4
      else none
  | .one, c => within 0x80 0xBF .start c
  | .two, c => within 0x80 0xBF .one c
  | .three, c => within 0x80 0xBF .two c
  | .afterE0, c => within 0xA0 0xBF .one c
  | .afterED, c => within 0x80 0x9F .one c
  | .afterF0, c => within 0x90 0xBF .two c
  | .afterF4, c => within 0x80 0x8F .two c

/-- An ASCII byte stands between sequences. -/
theorem step_ascii {q q' : Utf8} {c : Char} (hc : c.toNat < 0x80) :
    q.step c = some q' ↔ q = .start ∧ q' = .start := by
  cases q with
  | start =>
      rw [step, if_pos hc]
      exact ⟨fun h => ⟨rfl, (Option.some.inj h).symm⟩, fun h => by rw [h.2]⟩
  | _ =>
      rw [step, within, if_neg (by omega)]
      exact ⟨nofun, nofun⟩

end Utf8

def IsUtf8 (s : Text) : Prop := Lts.run Utf8.step .start s = some .start

instance decidableIsUtf8 (s : Text) : Decidable (IsUtf8 s) :=
  inferInstanceAs (Decidable (_ = _))

/-- Both sides of an ASCII byte can be checked apart. -/
theorem isUtf8_append_cons {a b : Text} {c : Char} (hc : c.toNat < 0x80) :
    IsUtf8 (a ++ c :: b) ↔ IsUtf8 a ∧ IsUtf8 b := by
  unfold IsUtf8
  rw [Lts.run_append_eq_some]
  constructor
  · rintro ⟨q, ha, hcb⟩
    obtain ⟨q', hq, hb⟩ := Lts.run_cons_eq_some.mp hcb
    obtain ⟨rfl, rfl⟩ := (Utf8.step_ascii hc).mp hq
    exact ⟨ha, hb⟩
  · rintro ⟨ha, hb⟩
    exact ⟨.start, ha, Lts.run_cons_eq_some.mpr ⟨.start, (Utf8.step_ascii hc).mpr ⟨rfl, rfl⟩, hb⟩⟩

theorem isUtf8_ascii_append {a b : Text} (ha : ∀ c ∈ a, c.toNat < 0x80) :
    IsUtf8 (a ++ b) ↔ IsUtf8 b := by
  induction a with
  | nil => rfl
  | cons c a ih =>
      rw [List.forall_mem_cons] at ha
      rw [List.cons_append, ← ih ha.2]
      exact (isUtf8_append_cons (a := []) ha.1).trans ⟨fun h => h.2, fun h => ⟨rfl, h⟩⟩

theorem isUtf8_cons {b : Text} {c : Char} (hc : c.toNat < 0x80) : IsUtf8 (c :: b) ↔ IsUtf8 b :=
  isUtf8_ascii_append (a := [c]) fun _ h => List.mem_singleton.mp h ▸ hc

theorem isUtf8_of_ascii {a : Text} (ha : ∀ c ∈ a, c.toNat < 0x80) : IsUtf8 a := by
  rw [← List.append_nil a, isUtf8_ascii_append ha]
  rfl

/-! ## String literals -/

/-- What a string literal holds up to its closing quote, and the rest; `escaped`
says whether a backslash stands before it. -/
def rawLiteral (escaped : Bool) : Text → Option (Text × Text)
  | [] => none
  | c :: s =>
      if c = '\x22' ∧ escaped = false then some ([], s)
      else (rawLiteral (!escaped && c = '\\') s).map fun p => (c :: p.1, p.2)

def hexDigit (c : Char) : Option Nat :=
  if '0' ≤ c ∧ c ≤ '9' then some (c.toNat - '0'.toNat)
  else if 'a' ≤ c ∧ c ≤ 'f' then some (c.toNat - 'a'.toNat + 10)
  else if 'A' ≤ c ∧ c ≤ 'F' then some (c.toNat - 'A'.toNat + 10)
  else none

/-- Four hexadecimal digits, and the rest. -/
def hex4 : Text → Option (Nat × Text)
  | a :: b :: c :: d :: s => do
      let a ← hexDigit a
      let b ← hexDigit b
      let c ← hexDigit c
      let d ← hexDigit d
      some (((a * 16 + b) * 16 + c) * 16 + d, s)
  | _ => none

/-- The bytes of a character. -/
def utf8Bytes (n : Nat) : Text :=
  (String.utf8EncodeChar (Char.ofNat n)).map fun b => Char.ofNat b.toNat

/-- What follows `\u`. -/
def unicodeEscape (s : Text) : Option (Text × Text) :=
  (hex4 s).bind fun (n, s) =>
    if 0xD800 ≤ n ∧ n ≤ 0xDBFF then
      match s with
      | '\\' :: 'u' :: s =>
          (hex4 s).bind fun (m, s) =>
            if 0xDC00 ≤ m ∧ m ≤ 0xDFFF then
              some (utf8Bytes (0x10000 + (n - 0xD800) * 0x400 + (m - 0xDC00)), s)
            else none
      | _ => none
    else if 0xDC00 ≤ n ∧ n ≤ 0xDFFF then none
    else some (utf8Bytes n, s)

def escapes : List (Char × Char) :=
  [('\x22', '\x22'), ('\\', '\\'), ('/', '/'), ('b', '\x08'), ('f', '\x0c'), ('n', '\n'),
    ('r', '\r'), ('t', '\t')]

/-- What follows a backslash: what it stands for, and the rest. -/
def escape : Text → Option (Text × Text)
  | [] => none
  | c :: s => if c = 'u' then unicodeEscape s else (escapes.lookup c).map fun x => ([x], s)

/-- What the inside of a literal stands for; each round takes a byte at least. -/
def unescape : Nat → Text → Option Text
  | _, [] => some []
  | 0, _ :: _ => none
  | fuel + 1, c :: s =>
      if c = '\\' then (escape s).bind fun (out, s) => (unescape fuel s).map (out ++ ·)
      else if c = '\x22' ∨ c.toNat < 0x20 then none
      else (unescape fuel s).map (c :: ·)

/-- A string from behind its opening quote. -/
def string (s : Text) : Option (Text × Text) :=
  (rawLiteral false s).bind fun (raw, rest) => (unescape raw.length raw).map fun t => (t, rest)

/-- Nothing in it has to be escaped. -/
def Plain (s : Text) : Prop := ∀ c ∈ s, c ≠ '\x22' ∧ c ≠ '\\' ∧ 0x20 ≤ c.toNat

instance decidablePlain (s : Text) : Decidable (Plain s) :=
  List.decidableBAll _ s

theorem rawLiteral_append {escaped : Bool} {s raw rest : Text}
    (h : rawLiteral escaped s = some (raw, rest)) : s = raw ++ '\x22' :: rest := by
  induction s generalizing escaped raw with
  | nil => cases h
  | cons c s ih =>
      rw [rawLiteral] at h
      split at h
      · rename_i hend
        obtain ⟨rfl, rfl⟩ := Prod.mk.inj (Option.some.inj h)
        rw [hend.1]
        rfl
      · obtain ⟨⟨p, q⟩, hs, heq⟩ := Option.map_eq_some_iff.mp h
        obtain ⟨rfl, rfl⟩ := Prod.mk.inj heq
        rw [ih hs]
        rfl

theorem rawLiteral_plain {s : Text} (hs : Plain s) (rest : Text) :
    rawLiteral false (s ++ '\x22' :: rest) = some (s, rest) := by
  induction s with
  | nil => rfl
  | cons c s ih =>
      obtain ⟨hc, hs⟩ := List.forall_mem_cons.mp hs
      rw [List.cons_append, rawLiteral, if_neg fun h => hc.1 h.1, decide_eq_false hc.2.1,
        Bool.and_false, ih hs]
      rfl

theorem hexDigit_ne_quote {c : Char} {n : Nat} (h : hexDigit c = some n) : c ≠ '\x22' := by
  rintro rfl
  cases h

/-- An escape takes at least as many bytes as it stands for, not counting the
backslash, and holds no more quotes. -/
structure Shrinks (s out rest : Text) : Prop where
  length : out.length + rest.length ≤ s.length
  quotes : s.count '\x22' ≤ out.count '\x22' + rest.count '\x22'

theorem hex4_shrinks {s rest : Text} {n : Nat} (h : hex4 s = some (n, rest)) :
    s.length = 4 + rest.length ∧ s.count '\x22' = rest.count '\x22' := by
  match s, h with
  | a :: b :: c :: d :: s, h =>
      simp only [hex4, Option.bind_eq_bind, Option.bind_eq_some_iff] at h
      obtain ⟨_, ha, _, hb, _, hc, _, hd, h⟩ := h
      obtain ⟨-, rfl⟩ := Prod.mk.inj (Option.some.inj h)
      have hskip : ∀ {x : Char} {k : Nat} (t : Text), hexDigit x = some k →
          (x :: t).count '\x22' = t.count '\x22' := by
        intro x k t hx
        rw [List.count_cons_of_ne (hexDigit_ne_quote hx)]
      refine ⟨by simp; omega, ?_⟩
      rw [hskip _ ha, hskip _ hb, hskip _ hc, hskip _ hd]

theorem length_utf8Bytes (n : Nat) : (utf8Bytes n).length ≤ 4 := by
  rw [utf8Bytes, List.length_map, String.length_utf8EncodeChar]
  exact Char.utf8Size_le_four _

theorem unicodeEscape_shrinks {s out rest : Text} (h : unicodeEscape s = some (out, rest)) :
    Shrinks s out rest := by
  obtain ⟨⟨n, s'⟩, hn, h⟩ := Option.bind_eq_some_iff.mp h
  obtain ⟨hlen, hquotes⟩ := hex4_shrinks hn
  dsimp only at h
  split at h
  · split at h
    · obtain ⟨⟨m, s''⟩, hm, h⟩ := Option.bind_eq_some_iff.mp h
      obtain ⟨hlen', hquotes'⟩ := hex4_shrinks hm
      dsimp only at h
      split at h
      · obtain ⟨rfl, rfl⟩ := Prod.mk.inj (Option.some.inj h)
        have hout := length_utf8Bytes (0x10000 + (n - 0xD800) * 0x400 + (m - 0xDC00))
        refine ⟨?_, ?_⟩
        · simp only [List.length_cons] at hlen
          omega
        · rw [hquotes, List.count_cons_of_ne (by decide), List.count_cons_of_ne (by decide),
            hquotes']
          exact Nat.le_add_left ..
      · cases h
    · cases h
  · split at h
    · cases h
    · obtain ⟨rfl, rfl⟩ := Prod.mk.inj (Option.some.inj h)
      have hout := length_utf8Bytes n
      refine ⟨by omega, ?_⟩
      rw [hquotes]
      exact Nat.le_add_left ..

theorem escape_shrinks {s out rest : Text} (h : escape s = some (out, rest)) :
    Shrinks s out rest := by
  cases s with
  | nil => cases h
  | cons c s =>
      rw [escape] at h
      split at h
      · rename_i hu
        obtain ⟨hlen, hquotes⟩ := unicodeEscape_shrinks h
        refine ⟨Nat.le_succ_of_le hlen, ?_⟩
        rw [hu, List.count_cons_of_ne (by decide)]
        exact hquotes
      · obtain ⟨x, hx, heq⟩ := Option.map_eq_some_iff.mp h
        obtain ⟨rfl, rfl⟩ := Prod.mk.inj heq
        refine ⟨Nat.le_of_eq (Nat.add_comm ..), ?_⟩
        by_cases hc : c = '\x22'
        · subst hc
          obtain rfl : '\x22' = x := Option.some.inj hx
          rw [List.count_cons_self, List.count_singleton_self, Nat.add_comm]
        · rw [List.count_cons_of_ne hc]
          exact Nat.le_add_left ..

/-- The inside of a literal is at least as long as what it stands for, and longer
if anything in it is escaped; and each of its quotes stands for one. -/
theorem unescape_eq_some {fuel : Nat} {s out : Text} (h : unescape fuel s = some out) :
    out.length ≤ s.length ∧ s.count '\x22' ≤ out.count '\x22'
      ∧ (out.length = s.length → out = s ∧ Plain s) := by
  induction fuel generalizing s out with
  | zero =>
      cases s with
      | nil =>
          obtain rfl := Option.some.inj h
          exact ⟨Nat.le_refl _, Nat.le_refl _, fun _ => ⟨rfl, nofun⟩⟩
      | cons c s => cases h
  | succ fuel ih =>
      cases s with
      | nil =>
          obtain rfl := Option.some.inj h
          exact ⟨Nat.le_refl _, Nat.le_refl _, fun _ => ⟨rfl, nofun⟩⟩
      | cons c s =>
          rw [unescape] at h
          split at h
          · rename_i hc
            obtain ⟨⟨x, rest⟩, hx, h⟩ := Option.bind_eq_some_iff.mp h
            obtain ⟨out', hout, rfl⟩ := Option.map_eq_some_iff.mp h
            obtain ⟨hlen, hquotes⟩ := escape_shrinks hx
            obtain ⟨hlen', hquotes', -⟩ := ih hout
            refine ⟨?_, ?_, fun heq => ?_⟩
            · simp only [List.length_append, List.length_cons]
              omega
            · rw [hc, List.count_cons_of_ne (by decide), List.count_append]
              omega
            · simp only [List.length_append, List.length_cons] at heq
              omega
          · rename_i hb
            split at h
            · cases h
            · rename_i hplain
              obtain ⟨out', hout, rfl⟩ := Option.map_eq_some_iff.mp h
              obtain ⟨hlen, hquotes, heq⟩ := ih hout
              rw [not_or] at hplain
              refine ⟨Nat.succ_le_succ hlen, ?_, fun hsame => ?_⟩
              · rw [List.count_cons_of_ne hplain.1, List.count_cons_of_ne hplain.1]
                exact hquotes
              · obtain ⟨rfl, hs⟩ := heq (Nat.succ.inj hsame)
                exact ⟨rfl, List.forall_mem_cons.mpr ⟨⟨hplain.1, hb, Nat.not_lt.mp hplain.2⟩, hs⟩⟩

theorem unescape_plain {s : Text} (hs : Plain s) : unescape s.length s = some s := by
  induction s with
  | nil => rfl
  | cons c s ih =>
      obtain ⟨hc, hs⟩ := List.forall_mem_cons.mp hs
      rw [List.length_cons, unescape, if_neg hc.2.1, if_neg fun h => h.elim hc.1 (by omega), ih hs]
      rfl

theorem string_plain {s : Text} (hs : Plain s) (rest : Text) :
    string (s ++ '\x22' :: rest) = some (s, rest) := by
  rw [string, rawLiteral_plain hs, Option.bind_some]
  dsimp only
  rw [unescape_plain hs]
  rfl

/-- Quotes around a text make a literal for it only if there is nothing to escape. -/
theorem plain_of_string {s after rest : Text}
    (h : string (s ++ '\x22' :: after) = some (s, rest)) : Plain s := by
  obtain ⟨⟨raw, rest'⟩, hraw, hout⟩ := Option.bind_eq_some_iff.mp h
  obtain ⟨t, ht, heq⟩ := Option.map_eq_some_iff.mp hout
  obtain ⟨rfl, rfl⟩ := Prod.mk.inj heq
  obtain ⟨hlen, hquotes, hplain⟩ := unescape_eq_some ht
  have hsplit := rawLiteral_append hraw
  -- the literal does not run past the quote: that would be one too many
  have hle : raw.length ≤ t.length := by
    by_contra hlt
    have hprefix : raw = t ++ '\x22' :: after.take (raw.length - t.length - 1) := by
      have htake := congrArg (List.take raw.length) hsplit
      rw [List.take_left, List.take_append, List.take_of_length_le (by omega)] at htake
      obtain ⟨k, hk⟩ : ∃ k, raw.length - t.length = k + 1 := ⟨raw.length - t.length - 1, by omega⟩
      rw [hk, List.take_succ_cons] at htake
      rw [hk]
      exact htake.symm
    have hcount := congrArg (List.count '\x22') hprefix
    rw [List.count_append, List.count_cons_self] at hcount
    omega
  obtain ⟨rfl, hs⟩ := hplain (Nat.le_antisymm hlen hle)
  exact hs

/-! ## Numbers -/

/-- The longest run of digits, and the rest. -/
def digits (s : Text) : Text × Text := (s.takeWhile Char.isDigit, s.dropWhile Char.isDigit)

/-- A fraction, if there is one. -/
def fraction : Text → Option (Text × Text)
  | '.' :: s => if (digits s).1 = [] then none else some ('.' :: (digits s).1, (digits s).2)
  | s => some ([], s)

def exponentSign : Text → Text × Text
  | '+' :: s => (['+'], s)
  | '-' :: s => (['-'], s)
  | s => ([], s)

/-- An exponent, if there is one. -/
def exponent : Text → Option (Text × Text)
  | [] => some ([], [])
  | e :: s =>
      if e = 'e' ∨ e = 'E' then
        let (sign, s') := exponentSign s
        if (digits s').1 = [] then none else some (e :: (sign ++ (digits s').1), (digits s').2)
      else some ([], e :: s)

def unsigned (s : Text) : Option (Text × Text) :=
  let (int, s) := digits s
  if int = [] ∨ (int.head? = some '0' ∧ int.length ≠ 1) then none
  else
    (fraction s).bind fun (frac, s) =>
      (exponent s).map fun (exp, s) => (int ++ frac ++ exp, s)

/-- A number as it is written, and the rest. -/
def number : Text → Option (Text × Text)
  | '-' :: s => (unsigned s).map fun p => ('-' :: p.1, p.2)
  | s => unsigned s

/-! ## Values -/

inductive Value where
  | null
  | bool (b : Bool)
  | num (text : Text)
  | str (text : Text)
  | arr (items : List Value)
  | obj (members : List (Text × Value))

def isWs (c : Char) : Bool := c = ' ' || c = '\t' || c = '\n' || c = '\r'

def skipWs (s : Text) : Text := s.dropWhile isWs

def literal (word : Text) (v : Value) (s : Text) : Option (Value × Text) :=
  if word.isPrefixOf s then some (v, s.drop word.length) else none

mutual

/-- A value, and the rest; every level of nesting and every item takes one of
the fuel. -/
def value : Nat → Text → Option (Value × Text)
  | 0, _ => none
  | fuel + 1, s =>
      let s := skipWs s
      match s with
      | [] => none
      | c :: rest =>
          if c = '\x22' then (string rest).map fun p => (.str p.1, p.2)
          else if c = '\x7b' then
            if (skipWs rest).head? = some '\x7d' then some (.obj [], (skipWs rest).tail)
            else (members fuel rest).map fun p => (.obj p.1, p.2)
          else if c = '[' then
            if (skipWs rest).head? = some ']' then some (.arr [], (skipWs rest).tail)
            else (items fuel rest).map fun p => (.arr p.1, p.2)
          else if c = 't' then literal "true".toList (.bool true) s
          else if c = 'f' then literal "false".toList (.bool false) s
          else if c = 'n' then literal "null".toList .null s
          else (number s).map fun p => (.num p.1, p.2)

/-- The members of an object up to its closing brace. -/
def members : Nat → Text → Option (List (Text × Value) × Text)
  | 0, _ => none
  | fuel + 1, s =>
      match skipWs s with
      | '\x22' :: s =>
          (string s).bind fun (key, s) =>
            match skipWs s with
            | ':' :: s =>
                (value fuel s).bind fun (v, s) =>
                  match skipWs s with
                  | ',' :: s => (members fuel s).map fun p => ((key, v) :: p.1, p.2)
                  | '\x7d' :: s => some ([(key, v)], s)
                  | _ => none
            | _ => none
      | _ => none

/-- The items of an array up to its closing bracket. -/
def items : Nat → Text → Option (List Value × Text)
  | 0, _ => none
  | fuel + 1, s =>
      (value fuel s).bind fun (v, s) =>
        match skipWs s with
        | ',' :: s => (items fuel s).map fun p => (v :: p.1, p.2)
        | ']' :: s => some ([v], s)
        | _ => none

end

/-- A JSON text: one value, and nothing but whitespace around it. -/
def parse (s : Text) : Option Value :=
  if IsUtf8 s then
    (value (s.length + 1) s).bind fun (v, rest) => if skipWs rest = [] then some v else none
  else none

/-! ## Reading what was written -/

theorem head_toDigits {n : Nat} (hn : 0 < n) : (Nat.toDigits 10 n).head? ≠ some '0' := by
  induction n using Nat.strongRecOn with
  | ind n ih =>
      rw [Nat.toDigits_eq_if (by decide)]
      split
      · rename_i hlt
        have hdigit : ∀ k < 10, 0 < k → [Nat.digitChar k].head? ≠ some '0' := by decide
        exact hdigit n hlt hn
      · have hrest := ih (n / 10) (by omega) (by omega)
        rw [List.head?_append_of_ne_nil _ Nat.toDigits_ne_nil]
        exact hrest

/-- A decimal number ends where no digit, fraction or exponent follows. -/
theorem unsigned_toDigits (n : Nat) {c : Char} (hc : c = ',' ∨ c = '\x7d') (rest : Text) :
    unsigned (Nat.toDigits 10 n ++ c :: rest) = some (Nat.toDigits 10 n, c :: rest) := by
  have hdigits : digits (Nat.toDigits 10 n ++ c :: rest) = (Nat.toDigits 10 n, c :: rest) := by
    have hall := CText.isDigit_toDigits n
    have hstop : c.isDigit = false := by
      rcases hc with rfl | rfl <;> rfl
    rw [digits, List.takeWhile_append_of_pos hall, List.dropWhile_append_of_pos hall,
      List.takeWhile_cons, List.dropWhile_cons, hstop]
    simp
  have hlead : ¬(Nat.toDigits 10 n = [] ∨
      ((Nat.toDigits 10 n).head? = some '0' ∧ (Nat.toDigits 10 n).length ≠ 1)) := by
    rintro (h | ⟨hhead, hlen⟩)
    · exact Nat.toDigits_ne_nil h
    · cases n with
      | zero => exact hlen rfl
      | succ n => exact head_toDigits n.succ_pos hhead
  rw [unsigned, hdigits]
  dsimp only
  rw [if_neg hlead]
  rcases hc with rfl | rfl
  · show some (Nat.toDigits 10 n ++ [] ++ [], _) = _
    simp
  · show some (Nat.toDigits 10 n ++ [] ++ [], _) = _
    simp

theorem number_decimal (i : Int) {c : Char} (hc : c = ',' ∨ c = '\x7d') (rest : Text) :
    number (CText.decimal i ++ c :: rest) = some (CText.decimal i, c :: rest) := by
  cases i with
  | ofNat n =>
      have hhead : ∃ d ds, Nat.toDigits 10 n = d :: ds ∧ d ≠ '-' := by
        cases hn : Nat.toDigits 10 n with
        | nil => exact absurd hn Nat.toDigits_ne_nil
        | cons d ds =>
            refine ⟨d, ds, rfl, ?_⟩
            rintro rfl
            have hdigit := CText.isDigit_toDigits n '-' (by rw [hn]; exact List.mem_cons_self ..)
            cases hdigit
      obtain ⟨d, ds, hn, hd⟩ := hhead
      have hunsigned := unsigned_toDigits n hc rest
      rw [CText.decimal]
      rw [hn] at hunsigned ⊢
      rw [List.cons_append, number]
      · exact hunsigned
      · rintro s heq
        exact hd (List.cons.inj heq).1
  | negSucc n =>
      rw [CText.decimal, List.cons_append, number, unsigned_toDigits (n + 1) hc rest]
      rfl

def quoted (s : Text) : Text := '\x22' :: (s ++ ['\x22'])

/-- A text that is read as the value, whichever way an object goes on after it. -/
def Reads (text : Text) (v : Value) : Prop :=
  ∀ fuel c rest, c = ',' ∨ c = '\x7d' → value (fuel + 1) (text ++ c :: rest) = some (v, c :: rest)

theorem reads_str {s : Text} (hs : Plain s) : Reads (quoted s) (.str s) := by
  intro fuel c rest _
  have hstr : value (fuel + 1) ('\x22' :: (s ++ '\x22' :: c :: rest))
      = (string (s ++ '\x22' :: c :: rest)).map fun p => (.str p.1, p.2) := rfl
  rw [quoted, List.cons_append, List.append_assoc, List.singleton_append, hstr, string_plain hs]
  rfl

theorem reads_true : Reads "true".toList (.bool true) := fun _ _ _ _ => rfl

theorem reads_false : Reads "false".toList (.bool false) := fun _ _ _ _ => rfl

theorem value_number (fuel : Nat) {d : Char} (hd : d = '-' ∨ d.isDigit = true) (s : Text) :
    value (fuel + 1) (d :: s) = (number (d :: s)).map fun p => (.num p.1, p.2) := by
  have hne : ∀ x : Char, x ≠ '-' ∧ x.isDigit = false → d ≠ x := by
    rintro x ⟨hminus, hdigit⟩ rfl
    rcases hd with hd | hd
    · exact hminus hd
    · rw [hdigit] at hd
      cases hd
  have hskip : skipWs (d :: s) = d :: s := by
    rw [skipWs, List.dropWhile_cons, isWs, decide_eq_false (hne ' ' (by decide)),
      decide_eq_false (hne '\t' (by decide)), decide_eq_false (hne '\n' (by decide)),
      decide_eq_false (hne '\r' (by decide))]
    rfl
  rw [value, hskip]
  dsimp only
  rw [if_neg (hne _ (by decide)), if_neg (hne _ (by decide)), if_neg (hne _ (by decide)),
    if_neg (hne _ (by decide)), if_neg (hne _ (by decide)), if_neg (hne _ (by decide))]

theorem reads_decimal (i : Int) : Reads (CText.decimal i) (.num (CText.decimal i)) := by
  intro fuel c rest hc
  have hnumber := number_decimal i hc rest
  have hhead : ∃ d ds, CText.decimal i = d :: ds ∧ (d = '-' ∨ d.isDigit = true) := by
    cases i with
    | ofNat n =>
        rw [CText.decimal]
        cases hn : Nat.toDigits 10 n with
        | nil => exact absurd hn Nat.toDigits_ne_nil
        | cons d ds =>
            have hmem : d ∈ Nat.toDigits 10 n := hn ▸ List.mem_cons_self ..
            exact ⟨d, ds, rfl, Or.inr (CText.isDigit_toDigits n d hmem)⟩
    | negSucc n => exact ⟨'-', _, rfl, Or.inl rfl⟩
  obtain ⟨d, ds, hi, hd⟩ := hhead
  rw [hi] at hnumber ⊢
  rw [List.cons_append, value_number fuel hd, ← List.cons_append, hnumber]
  rfl

/-! ### Objects -/

def memberText (key text : Text) : Text := '\x22' :: (key ++ '\x22' :: ':' :: text)

/-- A member is read up to its value. -/
theorem members_memberText (fuel : Nat) {key : Text} (hkey : Plain key) (text rest : Text) :
    members (fuel + 1) (memberText key text ++ rest)
      = (value fuel (text ++ rest)).bind fun (v, s) =>
          match skipWs s with
          | ',' :: s => (members fuel s).map fun p => ((key, v) :: p.1, p.2)
          | '\x7d' :: s => some ([(key, v)], s)
          | _ => none := by
  have hquote : members (fuel + 1) ('\x22' :: (key ++ '\x22' :: ':' :: (text ++ rest)))
      = (string (key ++ '\x22' :: ':' :: (text ++ rest))).bind fun (key, s) =>
          match skipWs s with
          | ':' :: s =>
              (value fuel s).bind fun (v, s) =>
                match skipWs s with
                | ',' :: s => (members fuel s).map fun p => ((key, v) :: p.1, p.2)
                | '\x7d' :: s => some ([(key, v)], s)
                | _ => none
          | _ => none := rfl
  rw [memberText, List.cons_append, List.append_assoc, List.cons_append, List.cons_append, hquote,
    string_plain hkey]
  rfl

section Members

variable {key text : Text} {v : Value} (hkey : Plain key) (hv : Reads text v) (fuel : Nat)
include hkey hv

theorem members_next (rest : Text) :
    members (fuel + 2) (memberText key text ++ ',' :: rest)
      = (members (fuel + 1) rest).map fun p => ((key, v) :: p.1, p.2) := by
  rw [members_memberText _ hkey, hv fuel ',' rest (Or.inl rfl)]
  rfl

theorem members_last (rest : Text) :
    members (fuel + 2) (memberText key text ++ '\x7d' :: rest) = some ([(key, v)], rest) := by
  rw [members_memberText _ hkey, hv fuel '\x7d' rest (Or.inr rfl)]
  rfl

end Members

/-- A member whose value is a text with quotes around it is read with whatever
string literal that starts. -/
theorem members_quoted {fuel : Nat} {key : Text} (hkey : Plain key) {s rest : Text}
    {ms : List (Text × Value)} {r : Text}
    (h : members (fuel + 2) (memberText key (quoted s) ++ rest) = some (ms, r)) :
    ∃ t after more,
      string (s ++ '\x22' :: rest) = some (t, after) ∧ ms = (key, .str t) :: more := by
  have hstr : value (fuel + 1) (quoted s ++ rest)
      = (string (s ++ '\x22' :: rest)).map fun p => (.str p.1, p.2) := by
    rw [quoted, List.cons_append, List.append_assoc]
    rfl
  rw [members_memberText _ hkey, hstr] at h
  obtain ⟨⟨v, s'⟩, hv, h⟩ := Option.bind_eq_some_iff.mp h
  obtain ⟨⟨t, after⟩, ht, heq⟩ := Option.map_eq_some_iff.mp hv
  obtain ⟨rfl, rfl⟩ := Prod.mk.inj heq
  refine ⟨t, after, ms.tail, ht, ?_⟩
  dsimp only at h
  split at h
  · obtain ⟨p, -, heq⟩ := Option.map_eq_some_iff.mp h
    obtain ⟨rfl, -⟩ := Prod.mk.inj heq
    rfl
  · obtain ⟨rfl, -⟩ := Prod.mk.inj (Option.some.inj h)
    rfl
  · cases h

/-- Members one after the other, each with its comma, and what follows. -/
def membersThen (ms : List (Text × Text)) (rest : Text) : Text :=
  ms.foldr (fun m s => memberText m.1 m.2 ++ ',' :: s) rest

@[simp] theorem membersThen_cons (m : Text × Text) (ms : List (Text × Text)) (rest : Text) :
    membersThen (m :: ms) rest = memberText m.1 m.2 ++ ',' :: membersThen ms rest := rfl

def objectText (ms : List (Text × Text)) (last : Text × Text) : Text :=
  '\x7b' :: membersThen ms (memberText last.1 last.2 ++ ['\x7d'])

/-- The members of an object and what they are read as. -/
def MembersRead : List (Text × Text) → List (Text × Value) → Prop :=
  List.Forall₂ fun m v => m.1 = v.1 ∧ Plain m.1 ∧ Reads m.2 v.2

theorem membersRead_cons {key text : Text} {v : Value} {ms : List (Text × Text)}
    {vs : List (Text × Value)} (hkey : Plain key) (hv : Reads text v) (h : MembersRead ms vs) :
    MembersRead ((key, text) :: ms) ((key, v) :: vs) :=
  .cons ⟨rfl, hkey, hv⟩ h

theorem members_membersThen {ms : List (Text × Text)} {vs : List (Text × Value)}
    (h : MembersRead ms vs) (fuel : Nat) (rest : Text) :
    members (ms.length + (fuel + 1)) (membersThen ms rest)
      = (members (fuel + 1) rest).map fun p => (vs ++ p.1, p.2) := by
  induction h with
  | nil => simp [membersThen]
  | @cons m v ms vs hm _ ih =>
      obtain ⟨hkey, hplain, hreads⟩ := hm
      have hfuel : (m :: ms).length + (fuel + 1) = (ms.length + fuel) + 2 := by
        rw [List.length_cons]
        omega
      rw [membersThen_cons, hfuel, members_next hplain hreads, Nat.add_assoc, ih,
        Option.map_map, hkey]
      rfl

theorem length_membersThen (ms : List (Text × Text)) (rest : Text) :
    ms.length + rest.length ≤ (membersThen ms rest).length := by
  induction ms with
  | nil => exact Nat.le_of_eq (Nat.zero_add _)
  | cons m ms ih =>
      rw [membersThen_cons, List.length_append, List.length_cons, List.length_cons]
      omega

theorem value_membersThen (fuel : Nat) (ms : List (Text × Text)) (key text rest : Text) :
    value (fuel + 1) ('\x7b' :: membersThen ms (memberText key text ++ rest))
      = (members fuel (membersThen ms (memberText key text ++ rest))).map
          fun p => (.obj p.1, p.2) := by
  cases ms <;> rfl

/-- An object whose members can all be read. -/
theorem parse_objectText {ms : List (Text × Text)} {vs : List (Text × Value)}
    (h : MembersRead ms vs) {last : Text × Text} {v : Value} (hkey : Plain last.1)
    (hv : Reads last.2 v) (hutf : IsUtf8 (objectText ms last)) :
    parse (objectText ms last) = some (.obj (vs ++ [(last.1, v)])) := by
  have hlen := length_membersThen ms (memberText last.1 last.2 ++ ['\x7d'])
  obtain ⟨f, hf⟩ : ∃ f, (objectText ms last).length = ms.length + (f + 2) := by
    refine ⟨(objectText ms last).length - ms.length - 2, ?_⟩
    simp only [objectText, memberText, List.length_cons, List.length_append, List.length_nil]
      at hlen ⊢
    omega
  rw [parse, if_pos hutf, hf, objectText, value_membersThen, members_membersThen h (f + 1),
    members_last hkey hv]
  rfl

/-- What an object is read as that has a quoted text among its members. -/
theorem parse_quoted {ms : List (Text × Text)} {vs : List (Text × Value)} (h : MembersRead ms vs)
    {key : Text} (hkey : Plain key) {s rest : Text} {v : Value}
    (hp : parse ('\x7b' :: membersThen ms (memberText key (quoted s) ++ rest)) = some v) :
    ∃ t after more, string (s ++ '\x22' :: rest) = some (t, after)
      ∧ v = .obj (vs ++ (key, .str t) :: more) := by
  have hlen := length_membersThen ms (memberText key (quoted s) ++ rest)
  obtain ⟨f, hf⟩ : ∃ f, ('\x7b' :: membersThen ms (memberText key (quoted s) ++ rest)).length
      = ms.length + (f + 2) := by
    refine ⟨('\x7b' :: membersThen ms (memberText key (quoted s) ++ rest)).length
      - ms.length - 2, ?_⟩
    simp only [memberText, List.length_cons, List.length_append] at hlen ⊢
    omega
  rw [parse, hf, value_membersThen, members_membersThen h (f + 1)] at hp
  split at hp
  · obtain ⟨⟨v', r⟩, hv, hp⟩ := Option.bind_eq_some_iff.mp hp
    rw [Option.map_map] at hv
    obtain ⟨⟨more, r'⟩, hmore, heq⟩ := Option.map_eq_some_iff.mp hv
    obtain ⟨rfl, rfl⟩ := Prod.mk.inj heq
    obtain ⟨t, after, more', ht, rfl⟩ := members_quoted hkey hmore
    dsimp only at hp
    split at hp
    · obtain rfl := Option.some.inj hp
      exact ⟨t, after, more', ht, rfl⟩
    · cases hp
  · cases hp

/-- If the object has the text under its key, there was nothing to escape in it. -/
theorem plain_of_parse {ms : List (Text × Text)} {vs : List (Text × Value)} (h : MembersRead ms vs)
    {key : Text} (hkey : Plain key) (hnew : vs.lookup key = none) {s rest : Text}
    {members : List (Text × Value)}
    (hp : parse ('\x7b' :: membersThen ms (memberText key (quoted s) ++ rest))
      = some (.obj members))
    (hlookup : members.lookup key = some (.str s)) : Plain s := by
  obtain ⟨t, after, more, ht, heq⟩ := parse_quoted h hkey hp
  obtain rfl := Value.obj.inj heq
  rw [List.lookup_append, hnew, Option.none_or, List.lookup_cons_self] at hlookup
  obtain rfl := Value.str.inj (Option.some.inj hlookup)
  exact plain_of_string ht

/-- A text that a string literal can hold as it is. -/
structure Verbatim (s : Text) : Prop where
  plain : Plain s
  utf8 : IsUtf8 s

end Json
