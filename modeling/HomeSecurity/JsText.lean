import HomeSecurity.UpperCase
import Mathlib.Data.List.Infix

/-!
# JavaScript text

The string functions that line protocols in JavaScript are taken apart with. A
string is the list of its characters. Numbers are exact: a double holds every
integer below 2^53. The lemmas are those of a line that was printed elsewhere: what `trim`
leaves of it (`trim_words`) and the number read back (`parseInt_decimal`).
-/

namespace JsText

open CText

/-- `\s`, which is also what `trim` strips. -/
def isSpace (c : Char) : Bool :=
  (9 ≤ c.toNat && c.toNat ≤ 13) || c.toNat = 0x20 || c.toNat = 0xA0 || c.toNat = 0x1680
    || (0x2000 ≤ c.toNat && c.toNat ≤ 0x200A) || c.toNat = 0x2028 || c.toNat = 0x2029
    || c.toNat = 0x202F || c.toNat = 0x205F || c.toNat = 0x3000 || c.toNat = 0xFEFF

def trim (s : Text) : Text := ((s.dropWhile isSpace).reverse.dropWhile isSpace).reverse

/-- `split(/\s+/)` of a trimmed text; the one text for which it is not, the empty
one, has fewer than two parts either way. -/
def words (s : Text) : List Text := strtok isSpace s

/-- `split(/[,\s]+/)` without empty parts. -/
def pieces (s : Text) : List Text := strtok (fun c => c = ',' || isSpace c) s

/-- `join(' ')`. -/
def joinSpace (parts : List Text) : Text := [' '].intercalate parts

def startsWith (s pre : Text) : Bool := pre.isPrefixOf s

def includes (s part : Text) : Bool := s.tails.any fun rest => part.isPrefixOf rest

/-- `parseInt(s, 10)`; `none` is NaN. -/
def parseInt (s : Text) : Option Int :=
  let (neg, digits) := splitSign (s.dropWhile isSpace)
  if digits.takeWhile Char.isDigit = [] then none
  else some (if neg then -leadingNat digits else leadingNat digits)

/-! ## Reading what was printed -/

theorem isSpace_of_graph {c : Char} (hc : isgraph c = true) : isSpace c = false := by
  simp only [isgraph, Bool.and_eq_true, decide_eq_true_eq] at hc
  simp only [isSpace, Bool.or_eq_false_iff, Bool.and_eq_false_iff, decide_eq_false_iff_not]
  omega

theorem isSpace_of_digit {c : Char} (hc : c.isDigit = true) : isSpace c = false :=
  isSpace_of_graph (isgraph_of_digit hc)

theorem isWord_of_graphic {s : Text} (hs : IsGraphic s) : IsWord isSpace s :=
  hs.isWord fun _ => isSpace_of_graph

/-- A text that begins and ends with a word loses the white space behind it. -/
theorem trim_words {w mid w' tail : Text} (hw : IsWord isSpace w) (hw' : IsWord isSpace w')
    (htail : ∀ c ∈ tail, isSpace c = true) :
    trim (w ++ (mid ++ w') ++ tail) = w ++ (mid ++ w') := by
  have hfront : (w ++ (mid ++ w') ++ tail).dropWhile isSpace = w ++ (mid ++ w') ++ tail := by
    rw [List.append_assoc]
    exact hw.dropWhile_append _
  have hrev : (w ++ (mid ++ w') ++ tail).reverse
      = tail.reverse ++ (w'.reverse ++ (w ++ mid).reverse) := by
    simp
  rw [trim, hfront, hrev,
    List.dropWhile_append_of_pos fun c hc => htail c (List.mem_reverse.mp hc),
    hw'.reverse.dropWhile_append]
  simp

/-- Printing a natural number and reading it back. -/
theorem parseInt_decimal {i : Int} (hi : 0 ≤ i) : parseInt (decimal i) = some i := by
  obtain ⟨n, rfl⟩ := Int.eq_ofNat_of_zero_le hi
  have hdigits : IsWord isSpace (Nat.toDigits 10 n) :=
    ⟨Nat.toDigits_ne_nil, fun c hc => isSpace_of_digit (isDigit_toDigits n c hc)⟩
  have hskip := hdigits.dropWhile_append []
  rw [List.append_nil] at hskip
  have hprinted : decimal (n : Int) = Nat.toDigits 10 n := rfl
  rw [parseInt, hprinted, hskip, splitSign_toDigits]
  dsimp only
  rw [List.takeWhile_eq_self_iff.mpr (isDigit_toDigits n), if_neg Nat.toDigits_ne_nil,
    leadingNat_toDigits]
  rfl

/-! ## Parts, ends, letters -/

theorem includes_iff (s part : Text) : includes s part = true ↔ part <:+: s := by
  rw [includes, List.any_eq_true, List.infix_iff_prefix_suffix]
  refine exists_congr fun t => ?_
  rw [List.mem_tails, List.isPrefixOf_iff_prefix, and_comm]

theorem trim_eq_self {s : Text} (hhead : ∀ c ∈ s.head?, isSpace c = false)
    (hlast : ∀ c ∈ s.getLast?, isSpace c = false) : trim s = s := by
  have hself : ∀ t : Text, (∀ c ∈ t.head?, isSpace c = false) → t.dropWhile isSpace = t := by
    intro t ht
    cases t with
    | nil => rfl
    | cons c t => exact List.dropWhile_cons_of_neg (by simp [ht c rfl])
  rw [trim, hself s hhead, hself s.reverse (by rwa [List.head?_reverse]), List.reverse_reverse]

theorem specialCasing_isSpace : ∀ e ∈ specialCasing,
    isSpace (Char.ofNat e.1) = false ∧ ∀ n ∈ e.2, isSpace (Char.ofNat n) = false := by
  decide +kernel

theorem caseRanges_isSpace :
    (caseRanges.all fun r => (List.range (r.last - r.first + 1)).all fun k =>
      !isSpace (Char.ofNat (r.first + k)) && !isSpace (Char.ofNat (r.upper + k))) = true := by
  decide +kernel

/-- White space is its own upper case, and nobody else's. -/
theorem isSpace_of_mem_upper {c d : Char} (hd : d ∈ upper c) : isSpace d = isSpace c := by
  refine upper_cases (P := fun c u => ∀ d ∈ u, isSpace d = isSpace c) ?_ ?_ ?_ ?_ c d hd
  · intro c _ d hd
    obtain rfl := List.mem_singleton.mp hd
    have hnat := toNat_toUpper c
    split at hnat
    · have hgraph : ∀ d : Char, 65 ≤ d.toNat → d.toNat ≤ 122 → isSpace d = false := by
        intro d hlo hhi
        refine isSpace_of_graph ?_
        simp only [isgraph, Bool.and_eq_true, decide_eq_true_eq]
        omega
      rw [hgraph c (by omega) (by omega), hgraph c.toUpper (by omega) (by omega)]
    · rw [Char.toNat_inj.mp hnat]
  · intro e he c hc d hd
    obtain ⟨n, hn, rfl⟩ := List.mem_map.mp hd
    obtain ⟨hfrom, hto⟩ := specialCasing_isSpace e he
    rw [hto n hn, ← Char.ofNat_toNat c, hc, hfrom]
  · intro r hr c hc d hd
    obtain rfl := List.mem_singleton.mp hd
    simp only [CaseRange.covers, Bool.and_eq_true, decide_eq_true_eq] at hc
    have hrange := List.all_eq_true.mp caseRanges_isSpace r hr
    have hout := List.all_eq_true.mp hrange (c.toNat - r.first) (List.mem_range.mpr (by omega))
    simp only [Bool.and_eq_true, Bool.not_eq_true'] at hout
    obtain ⟨hfrom, hto⟩ := hout
    rw [show r.first + (c.toNat - r.first) = c.toNat by omega, Char.ofNat_toNat] at hfrom
    rw [hto, hfrom]
  · intro c _ d hd
    obtain rfl := List.mem_singleton.mp hd
    rfl

theorem joinSpace_cons_cons (a b : Text) (rest : List Text) :
    joinSpace (a :: b :: rest) = a ++ ' ' :: joinSpace (b :: rest) := by
  simp [joinSpace, List.intercalate]

theorem joinSpace_singleton (a : Text) : joinSpace [a] = a := by
  simp [joinSpace, List.intercalate]

theorem joinSpace_cons (a : Text) (rest : List Text) : ∃ t, joinSpace (a :: rest) = a ++ t := by
  cases rest with
  | nil => exact ⟨[], by rw [joinSpace_singleton, List.append_nil]⟩
  | cons b rest => exact ⟨_, joinSpace_cons_cons a b rest⟩

/-- Joined words begin and end with a word. -/
theorem joinSpace_ends {ws : List Text} (hws : ∀ w ∈ ws, IsWord isSpace w) :
    (∀ c ∈ (joinSpace ws).head?, isSpace c = false)
      ∧ ∀ c ∈ (joinSpace ws).getLast?, isSpace c = false := by
  induction ws with
  | nil => simp [joinSpace, List.intercalate]
  | cons a ws ih =>
      have ha := hws a (List.mem_cons_self ..)
      cases ws with
      | nil =>
          rw [joinSpace_singleton]
          exact ⟨fun c hc => ha.free c (List.mem_of_mem_head? hc),
            fun c hc => ha.free c (List.mem_of_getLast? hc)⟩
      | cons b rest =>
          have hrest := ih fun w hw => hws w (List.mem_cons_of_mem _ hw)
          have hne : joinSpace (b :: rest) ≠ [] := by
            obtain ⟨t, ht⟩ := joinSpace_cons b rest
            rw [ht]
            exact List.append_ne_nil_of_left_ne_nil
              (hws b (List.mem_cons_of_mem _ (List.mem_cons_self ..))).ne_nil _
          rw [joinSpace_cons_cons]
          constructor
          · intro c hc
            obtain ⟨d, t, rfl⟩ := List.exists_cons_of_ne_nil ha.ne_nil
            exact ha.free c (Option.mem_some.mp hc ▸ List.mem_cons_self ..)
          · intro c hc
            rw [List.getLast?_append_of_ne_nil _ (List.cons_ne_nil _ _),
              List.getLast?_cons_of_ne_nil hne] at hc
            exact hrest.2 c hc

theorem head?_toUpperCase {s : Text} {c : Char} (hc : c ∈ (toUpperCase s).head?) :
    ∃ d ∈ s.head?, c ∈ upper d := by
  cases s with
  | nil => cases hc
  | cons d s =>
      rw [toUpperCase, List.flatMap_cons,
        List.head?_append_of_ne_nil _ (upper_ne_nil d)] at hc
      exact ⟨d, rfl, List.mem_of_mem_head? hc⟩

theorem getLast?_toUpperCase {s : Text} {c : Char} (hc : c ∈ (toUpperCase s).getLast?) :
    ∃ d ∈ s.getLast?, c ∈ upper d := by
  rcases List.eq_nil_or_concat s with rfl | ⟨s, d, rfl⟩
  · cases hc
  · rw [toUpperCase, List.concat_eq_append, List.flatMap_append, List.flatMap_singleton,
      List.getLast?_append_of_ne_nil _ (upper_ne_nil d)] at hc
    exact ⟨d, by simp, List.mem_of_getLast? hc⟩

/-- The upper-case form of joined words has nothing to trim. -/
theorem trim_toUpperCase_joinSpace {ws : List Text} (hws : ∀ w ∈ ws, IsWord isSpace w) :
    trim (toUpperCase (joinSpace ws)) = toUpperCase (joinSpace ws) := by
  obtain ⟨hhead, hlast⟩ := joinSpace_ends hws
  refine trim_eq_self (fun c hc => ?_) (fun c hc => ?_)
  · obtain ⟨d, hd, hc⟩ := head?_toUpperCase hc
    rw [isSpace_of_mem_upper hc, hhead d hd]
  · obtain ⟨d, hd, hc⟩ := getLast?_toUpperCase hc
    rw [isSpace_of_mem_upper hc, hlast d hd]

end JsText
