import Mathlib.Tactic.FieldSimp
import OnecRuntime.Library.Decimals
import OnecRuntime.Library.Fallible

/-!
# Numbers shown by the debugger

`_number` of `table_value.py`: the number behind a presentation, in which a comma
may group digits or begin a fraction.
-/

namespace OnecRuntime.Tables

open OnecRuntime.Library

/-- An `int`, the `float` nearest to a number, or the `float` that is none. -/
inductive Number where
  | integer (value : ℤ)
  | float (value : ℚ)
  | nan
  deriving DecidableEq

inductive NumberError where
  | invalidOperation
  | overflow
  deriving DecidableEq

/-- `int(decimal) if decimal == decimal.to_integral() else float(decimal)` of a number. -/
def Number.of (value : ℚ) : Number :=
  if value.den = 1 then .integer value.num else .float value

def Number.fromDecimal : Decimal → Except NumberError Number
  | .finite negative coefficient exponent => .ok (.of (Decimal.rational negative coefficient exponent))
  | .infinite _ => .error .overflow
  | .nan signaling => if signaling then .error .invalidOperation else .ok .nan

section Reading

variable (table : DigitTable)

def readDecimal (input : List Char) : Except NumberError Number :=
  match Decimal.parse table input with
  | some decimal => Number.fromDecimal decimal
  | none => .error .invalidOperation

/-- The decimal digits of a presentation and its marks. -/
def numberCharacters (value : List Char) : List Char :=
  value.filter fun char => (table.value char).isSome || decide (char ∈ [',', '.', '-', '+'])

/-- `value.rsplit(",", 1)` of a text with a comma. -/
def rsplitComma (value : List Char) : List Char × List Char :=
  ((value.rdropWhile (· ≠ ',')).dropLast, value.rtakeWhile (· ≠ ','))

/-- The comma is a decimal point or a group separator. -/
def normalizedNumber (kept : List Char) : List Char :=
  if ',' ∈ kept ∧ '.' ∉ kept then
    let parts := rsplitComma kept
    -- only the last comma is looked at; the part before it may hold others
    if parts.2.length = 3 then parts.1 ++ parts.2 else parts.1 ++ '.' :: parts.2
  else if ',' ∈ kept then kept.filter (· ≠ ',')
  else kept

/-- `_number`. -/
def number (value exactDecimal : List Char) : Except NumberError Number :=
  if exactDecimal ≠ [] then
    readDecimal table (((exactDecimal.dropWhile table.space).rdropWhile table.space).map
      fun char => if char = ',' then '.' else char)
  else readDecimal table (normalizedNumber (numberCharacters table value))

end Reading

/-! ## Presentations -/

/-- Digits from the last one, with a mark behind each three that others follow. -/
def spread (mark : Char) : List Char → List Char
  | first :: second :: third :: fourth :: rest =>
      first :: second :: third :: mark :: spread mark (fourth :: rest)
  | short => short

/-- Digits in groups of three. -/
def grouped (mark : Char) (digits : List Char) : List Char := (spread mark digits.reverse).reverse

/-- The digits of a whole number, the most significant one first. -/
def wholeDigits (whole : ℕ) : List ℕ := if whole = 0 then [0] else (Nat.digits 10 whole).reverse

inductive GroupMark where
  | space
  | noBreakSpace
  deriving DecidableEq

def GroupMark.char : GroupMark → Char
  | .space => ' '
  | .noBreakSpace => '\u00A0'

/--
What a number is shown as: an integer with comma groups, a number with comma groups and a
fraction behind a point, and one with blank groups and a fraction behind a comma.
-/
inductive Presentation where
  | integer (value : ℤ)
  | pointed (negative : Bool) (whole : ℕ) (fraction : List (Fin 10)) (shown : fraction ≠ [])
  | spaced (mark : GroupMark) (negative : Bool) (whole : ℕ) (fraction : List (Fin 10))
      (notThree : fraction.length ≠ 3)

def fractionDigits (fraction : List (Fin 10)) : List ℕ := fraction.map Fin.val

/-- A whole number and a fraction, with a sign. -/
def signedValue (negative : Bool) (whole : ℕ) (fraction : List (Fin 10)) : ℚ :=
  let size : ℚ := whole + Decimal.ofDigits (fractionDigits fraction) / 10 ^ fraction.length
  if negative then -size else size

def shownWhole (mark : Char) (whole : ℕ) : List Char :=
  grouped mark (Decimal.digitText (wholeDigits whole))

namespace Presentation

def text : Presentation → List Char
  | integer value => Decimal.signText (value < 0) ++ shownWhole ',' value.natAbs
  | pointed negative whole fraction _ =>
      Decimal.signText negative ++ shownWhole ',' whole ++
        '.' :: Decimal.digitText (fractionDigits fraction)
  | spaced mark negative whole fraction _ =>
      Decimal.signText negative ++ shownWhole mark.char whole ++
        if fraction = [] then [] else ',' :: Decimal.digitText (fractionDigits fraction)

def value : Presentation → ℚ
  | integer value => value
  | pointed negative whole fraction _ => signedValue negative whole fraction
  | spaced _ negative whole fraction _ => signedValue negative whole fraction

end Presentation

/-! ## Groups -/

theorem spread_short (mark : Char) {digits : List Char} (short : digits.length ≤ 3) :
    spread mark digits = digits := by
  match digits with
  | [] | [_] | [_, _] | [_, _, _] => rfl
  | _ :: _ :: _ :: _ :: rest => exact absurd short (by simp)

theorem grouped_short (mark : Char) {digits : List Char} (short : digits.length ≤ 3) :
    grouped mark digits = digits := by
  rw [grouped, spread_short mark (by simpa using short), List.reverse_reverse]

/-- The last three digits are a group of their own where others stand before them. -/
theorem grouped_append (mark : Char) {front last : List Char} (others : front ≠ [])
    (three : last.length = 3) :
    grouped mark (front ++ last) = grouped mark front ++ mark :: last := by
  obtain ⟨third, second, first, rfl⟩ := List.length_eq_three.mp three
  obtain ⟨fourth, rest, same⟩ := List.exists_cons_of_ne_nil (List.reverse_ne_nil_iff.mpr others)
  simp [grouped, same, spread]

/-- Some digits and the last three behind them. -/
theorem split_last_three {digits : List Char} (long : 3 < digits.length) :
    ∃ front last, digits = front ++ last ∧ front ≠ [] ∧ last.length = 3 ∧
      front.length + 3 = digits.length := by
  refine ⟨digits.take (digits.length - 3), digits.drop (digits.length - 3),
    (List.take_append_drop _ _).symm, ?_, ?_, ?_⟩
  · rw [ne_eq, ← List.length_eq_zero_iff, List.length_take]
    omega
  · rw [List.length_drop]
    omega
  · rw [List.length_take]
    omega

/-- A filter that keeps the digits keeps the marks between them or drops them all. -/
theorem filter_grouped {kept : Char → Bool} (mark : Char) {digits : List Char}
    (keeps : ∀ char ∈ digits, kept char = true) :
    (grouped mark digits).filter kept = if kept mark then grouped mark digits else digits := by
  induction width : digits.length using Nat.strong_induction_on generalizing digits with
  | _ width ih =>
      rcases Nat.lt_or_ge 3 digits.length with long | short
      · obtain ⟨front, last, rfl, others, three, shorter⟩ := split_last_three long
        have front_kept := @ih front.length (by omega) front
          (fun char member => keeps char (List.mem_append_left _ member)) rfl
        have last_kept : last.filter kept = last :=
          List.filter_eq_self.mpr fun char member => keeps char (List.mem_append_right _ member)
        rw [grouped_append mark others three, List.filter_append, List.filter_cons, front_kept,
          last_kept]
        cases kept mark <;> rfl
      · rw [grouped_short mark short, List.filter_eq_self.mpr keeps, ite_self]

theorem mem_grouped {mark char : Char} {digits : List Char} (member : char ∈ grouped mark digits) :
    char = mark ∨ char ∈ digits := by
  have kept := @filter_grouped (fun other => decide (other = mark ∨ other ∈ digits)) mark digits
    fun other inDigits => by simpa using .inr inDigits
  rw [if_pos (by simp)] at kept
  rw [← kept] at member
  simpa using (List.mem_filter.mp member).2

/-! ## The digits of a presentation -/

theorem wholeDigits_small (whole : ℕ) : ∀ digit ∈ wholeDigits whole, digit < 10 := by
  intro digit member
  unfold wholeDigits at member
  split_ifs at member
  · rw [List.mem_singleton.mp member]
    decide
  · exact Nat.digits_lt_base (by decide) (List.mem_reverse.mp member)

theorem wholeDigits_ne_nil (whole : ℕ) : wholeDigits whole ≠ [] := by
  unfold wholeDigits
  split_ifs with zero
  · simp
  · simpa [Nat.digits_ne_nil_iff_ne_zero] using zero

theorem ofDigits_wholeDigits (whole : ℕ) : Decimal.ofDigits (wholeDigits whole) = whole := by
  unfold wholeDigits Decimal.ofDigits
  split_ifs with zero
  · simp [zero]
  · rw [List.reverse_reverse, Nat.ofDigits_digits]

theorem ofDigits_append (first second : List ℕ) :
    Decimal.ofDigits (first ++ second) =
      Decimal.ofDigits first * 10 ^ second.length + Decimal.ofDigits second := by
  unfold Decimal.ofDigits
  rw [List.reverse_append, Nat.ofDigits_append, List.length_reverse]
  ring

theorem wholeDigits_length_le {whole width : ℕ} (positive : 0 < width) :
    (wholeDigits whole).length ≤ width ↔ whole < 10 ^ width := by
  unfold wholeDigits
  split_ifs with zero
  · subst zero
    simpa using Nat.succ_le_of_lt positive
  · rw [List.length_reverse]
    exact Nat.digits_length_le_iff (by decide) whole

theorem fractionDigits_small (fraction : List (Fin 10)) :
    ∀ digit ∈ fractionDigits fraction, digit < 10 := by
  intro digit member
  obtain ⟨small, _, rfl⟩ := List.mem_map.mp member
  exact small.isLt

/-- The value that the reader makes of the digits is the value that was shown. -/
theorem rational_eq (negative : Bool) (whole : ℕ) (fraction : List (Fin 10)) :
    Decimal.rational negative (Decimal.ofDigits (wholeDigits whole ++ fractionDigits fraction))
        (-(fractionDigits fraction).length) = signedValue negative whole fraction := by
  have power : (10 : ℚ) ^ fraction.length ≠ 0 := pow_ne_zero _ (by norm_num)
  have width : (fractionDigits fraction).length = fraction.length := List.length_map _
  rw [Decimal.rational, signedValue, ofDigits_append, ofDigits_wholeDigits, width, zpow_neg,
    zpow_natCast]
  push_cast
  cases negative
  · simp only [Bool.false_eq_true, if_false]
    field_simp
  · simp only [if_true]
    field_simp

/-! ## Reading presentations -/

section Law

variable (table : DigitTable)

/-- A shown number without commas is read as it was shown. -/
theorem readDecimal_plain (negative : Bool) (whole : ℕ) (fraction : List (Fin 10))
    {point : List Char} (pointIs : point = ['.'] ∨ point = [] ∧ fraction = []) :
    readDecimal table (Decimal.signText negative ++ Decimal.digitText (wholeDigits whole) ++
        point ++ Decimal.digitText (fractionDigits fraction)) =
      .ok (.of (signedValue negative whole fraction)) := by
  have pointIs' : point = ['.'] ∨ point = [] ∧ fractionDigits fraction = [] := by
    rcases pointIs with dot | ⟨none_, rfl⟩
    · exact .inl dot
    · exact .inr ⟨none_, rfl⟩
  rw [readDecimal, Decimal.parse_plain (wholeDigits_ne_nil whole) (wholeDigits_small whole)
    (fractionDigits_small fraction) pointIs']
  exact congrArg (fun value => Except.ok (Number.of value)) (rational_eq negative whole fraction)

/-- A character of a number, as the reader keeps it. -/
def keptCharacter (char : Char) : Bool :=
  (table.value char).isSome || decide (char ∈ [',', '.', '-', '+'])

theorem keptCharacter_digits {digits : List ℕ} (small : ∀ digit ∈ digits, digit < 10) :
    ∀ char ∈ Decimal.digitText digits, keptCharacter table char = true := by
  intro char member
  obtain ⟨digit, inDigits, rfl⟩ := Decimal.mem_digitText member
  rw [keptCharacter, table.ascii digit (small digit inDigits)]
  rfl

theorem keptCharacter_blank (mark : GroupMark) : keptCharacter table mark.char = false := by
  rw [keptCharacter, table.marks _ (by cases mark <;> simp [GroupMark.char])]
  cases mark <;> decide

theorem filter_signText (negative : Bool) :
    (Decimal.signText negative).filter (keptCharacter table) = Decimal.signText negative := by
  rw [List.filter_eq_self]
  intro char member
  cases negative with
  | true =>
      obtain rfl := List.mem_singleton.mp member
      simp [keptCharacter]
  | false => cases member

theorem comma_kept : keptCharacter table ',' = true := by simp [keptCharacter]

theorem point_kept : keptCharacter table '.' = true := by simp [keptCharacter]

theorem not_mem_digitText {digits : List ℕ} (small : ∀ digit ∈ digits, digit < 10) {char : Char}
    (mark : char ∈ [' ', '\u00A0', ',', '.', '-', '+']) : char ∉ Decimal.digitText digits := by
  intro member
  obtain ⟨digit, inDigits, rfl⟩ := Decimal.mem_digitText member
  have below := small digit inDigits
  revert mark
  interval_cases digit <;> decide

theorem not_mem_signText {char : Char} (other : char ≠ '-') (negative : Bool) :
    char ∉ Decimal.signText negative := by
  cases negative with
  | true => simpa [Decimal.signText] using other
  | false => exact List.not_mem_nil

/-- The last comma of a text is the one that no other follows. -/
theorem rsplitComma_append {left right : List Char} (last : ',' ∉ right) :
    rsplitComma (left ++ ',' :: right) = (left, right) := by
  have kept : ∀ char ∈ right.reverse, decide (char ≠ ',') = true := by
    intro char member
    simp only [decide_eq_true_eq]
    rintro rfl
    exact last (List.mem_reverse.mp member)
  rw [rsplitComma, List.rdropWhile, List.rtakeWhile, List.reverse_append, List.reverse_cons,
    List.append_assoc, List.singleton_append, List.dropWhile_append_of_pos kept,
    List.takeWhile_append_of_pos kept]
  simp

/-- A presentation without a point keeps its commas apart from the last one. -/
theorem normalizedNumber_comma {left right : List Char} (noPoint : '.' ∉ left ++ right)
    (last : ',' ∉ right) :
    normalizedNumber (left ++ ',' :: right) =
      if right.length = 3 then left ++ right else left ++ '.' :: right := by
  have hasComma : ',' ∈ left ++ ',' :: right := List.mem_append_right _ List.mem_cons_self
  have hasNoPoint : '.' ∉ left ++ ',' :: right := by
    rw [List.mem_append, List.mem_cons]
    rintro (front | same | back)
    · exact noPoint (List.mem_append_left _ front)
    · revert same
      decide
    · exact noPoint (List.mem_append_right _ back)
  simp only [normalizedNumber, rsplitComma_append last]
  rw [if_pos ⟨hasComma, hasNoPoint⟩]

/-- A fraction behind a comma is read unless it has three digits. -/
theorem number_spaced (mark : GroupMark) (negative : Bool) (whole : ℕ)
    (fraction : List (Fin 10)) (notThree : fraction.length ≠ 3) :
    number table (Presentation.spaced mark negative whole fraction notThree).text [] =
      .ok (.of (signedValue negative whole fraction)) := by
  have wholeKept := keptCharacter_digits table (wholeDigits_small whole)
  have fractionKept := keptCharacter_digits table (fractionDigits_small fraction)
  have plainWhole {char : Char} := @not_mem_digitText _ (wholeDigits_small whole) char
  have plainFraction {char : Char} :=
    @not_mem_digitText _ (fractionDigits_small fraction) char
  have groups : (shownWhole mark.char whole).filter (keptCharacter table) =
      Decimal.digitText (wholeDigits whole) := by
    rw [shownWhole, filter_grouped mark.char wholeKept, keptCharacter_blank]
    rfl
  have characters : numberCharacters table
      (Presentation.spaced mark negative whole fraction notThree).text =
        Decimal.signText negative ++ Decimal.digitText (wholeDigits whole) ++
          if fraction = [] then [] else ',' :: Decimal.digitText (fractionDigits fraction) := by
    change List.filter (keptCharacter table) _ = _
    rw [Presentation.text, List.filter_append, List.filter_append, filter_signText, groups]
    split_ifs
    · rfl
    · rw [List.filter_cons, comma_kept, if_pos rfl, List.filter_eq_self.mpr fractionKept]
  rw [number, if_neg (by simp), characters]
  split_ifs with empty
  · subst empty
    have noComma : ',' ∉ Decimal.signText negative ++ Decimal.digitText (wholeDigits whole) ++ [] := by
      simp only [List.append_nil, List.mem_append, not_or]
      exact ⟨not_mem_signText (by decide) negative, plainWhole (by simp)⟩
    rw [normalizedNumber, if_neg (fun both => noComma both.1), if_neg noComma]
    have read := readDecimal_plain table negative whole [] (.inr ⟨rfl, rfl⟩)
    simpa [fractionDigits, Decimal.digitText] using read
  · have noPoint : '.' ∉ Decimal.signText negative ++ Decimal.digitText (wholeDigits whole) ++
        Decimal.digitText (fractionDigits fraction) := by
      simp only [List.mem_append, not_or]
      exact ⟨⟨not_mem_signText (by decide) negative, plainWhole (by simp)⟩,
        plainFraction (by simp)⟩
    have width : (Decimal.digitText (fractionDigits fraction)).length = fraction.length := by
      simp [Decimal.digitText, fractionDigits]
    rw [normalizedNumber_comma noPoint (plainFraction (by simp)), width, if_neg notThree]
    have read := readDecimal_plain table negative whole fraction (.inl rfl)
    simpa using read

/-- A fraction behind a point is read, however many groups stand before it. -/
theorem number_pointed (negative : Bool) (whole : ℕ) (fraction : List (Fin 10))
    (shown : fraction ≠ []) :
    number table (Presentation.pointed negative whole fraction shown).text [] =
      .ok (.of (signedValue negative whole fraction)) := by
  have wholeKept := keptCharacter_digits table (wholeDigits_small whole)
  have fractionKept := keptCharacter_digits table (fractionDigits_small fraction)
  have plainWhole {char : Char} := @not_mem_digitText _ (wholeDigits_small whole) char
  have plainFraction {char : Char} :=
    @not_mem_digitText _ (fractionDigits_small fraction) char
  have characters : numberCharacters table
      (Presentation.pointed negative whole fraction shown).text =
        Decimal.signText negative ++ shownWhole ',' whole ++
          '.' :: Decimal.digitText (fractionDigits fraction) := by
    change List.filter (keptCharacter table) _ = _
    rw [Presentation.text, List.filter_append, List.filter_append, filter_signText, shownWhole,
      filter_grouped ',' wholeKept, comma_kept, if_pos rfl, List.filter_cons, point_kept,
      if_pos rfl, List.filter_eq_self.mpr fractionKept]
  have noCommas : (Decimal.signText negative ++ shownWhole ',' whole ++
      '.' :: Decimal.digitText (fractionDigits fraction)).filter (· ≠ ',') =
        Decimal.signText negative ++ Decimal.digitText (wholeDigits whole) ++ ['.'] ++
          Decimal.digitText (fractionDigits fraction) := by
    have other {text : List Char} (plain : ',' ∉ text) : text.filter (· ≠ ',') = text := by
      rw [List.filter_eq_self]
      intro char member
      simp only [decide_eq_true_eq]
      rintro rfl
      exact plain member
    have groups := @filter_grouped (fun char => decide (char ≠ ',')) ','
      (Decimal.digitText (wholeDigits whole)) fun char member => by
        simp only [decide_eq_true_eq]
        rintro rfl
        exact plainWhole (by simp) member
    rw [List.filter_append, List.filter_append, List.filter_cons, shownWhole, groups,
      other (not_mem_signText (by decide) negative), other (plainFraction (by simp))]
    simp
  have read := readDecimal_plain table negative whole fraction (.inl rfl)
  have hasPoint : '.' ∈ Decimal.signText negative ++ shownWhole ',' whole ++
      '.' :: Decimal.digitText (fractionDigits fraction) :=
    List.mem_append_right _ List.mem_cons_self
  rw [number, if_neg (by simp), characters, normalizedNumber,
    if_neg (fun both => both.2 hasPoint), noCommas]
  split_ifs with comma
  · exact read
  · have same : (Decimal.signText negative ++ shownWhole ',' whole ++
        '.' :: Decimal.digitText (fractionDigits fraction)).filter (· ≠ ',') =
          Decimal.signText negative ++ shownWhole ',' whole ++
            '.' :: Decimal.digitText (fractionDigits fraction) := by
      rw [List.filter_eq_self]
      intro char member
      simp only [decide_eq_true_eq]
      rintro rfl
      exact comma member
    rw [← same, noCommas]
    exact read

/-- An integer is read when it has at most one comma, and refused when it has more. -/
theorem number_integer (value : ℤ) :
    number table (Presentation.integer value).text [] =
      if value.natAbs < 10 ^ 6 then .ok (.of value) else .error .invalidOperation := by
  have small := wholeDigits_small value.natAbs
  have kept := keptCharacter_digits table small
  have plain {char : Char} := @not_mem_digitText _ small char
  have characters : numberCharacters table (Presentation.integer value).text =
      Decimal.signText (value < 0) ++ shownWhole ',' value.natAbs := by
    change List.filter (keptCharacter table) _ = _
    rw [Presentation.text, List.filter_append, filter_signText, shownWhole,
      filter_grouped ',' kept, comma_kept, if_pos rfl]
  have shownValue : signedValue (value < 0) value.natAbs [] = value := by
    have size : Decimal.ofDigits (fractionDigits []) = 0 := rfl
    rw [signedValue, size]
    rcases lt_or_ge value 0 with below | above
    · simp only [below, decide_true, if_true]
      rw [← Int.cast_natCast, Int.ofNat_natAbs_of_nonpos below.le]
      simp
    · simp only [not_lt.mpr above, decide_false]
      rw [← Int.cast_natCast, Int.natAbs_of_nonneg above]
      simp
  have read := readDecimal_plain table (value < 0) value.natAbs [] (.inr ⟨rfl, rfl⟩)
  rw [shownValue] at read
  have plainText : readDecimal table
      (Decimal.signText (value < 0) ++ Decimal.digitText (wholeDigits value.natAbs)) =
        .ok (.of value) := by
    simpa [fractionDigits, Decimal.digitText] using read
  have width : (Decimal.digitText (wholeDigits value.natAbs)).length =
      (wholeDigits value.natAbs).length := List.length_map _
  have sixDigits := @wholeDigits_length_le value.natAbs 6 (by decide)
  rw [number, if_neg (by simp), characters, shownWhole]
  rcases Nat.lt_or_ge 3 (wholeDigits value.natAbs).length with long | short
  · obtain ⟨front, last, same, others, three, shorter⟩ := split_last_three (width ▸ long)
    have noPoint : '.' ∉ Decimal.signText (value < 0) ++ grouped ',' front ++ last := by
      simp only [List.mem_append, not_or]
      have absent : '.' ∉ front ++ last := same ▸ plain (by simp)
      rw [List.mem_append, not_or] at absent
      refine ⟨⟨not_mem_signText (by decide) _, fun member => ?_⟩, absent.2⟩
      rcases mem_grouped member with comma | inFront
      · revert comma
        decide
      · exact absent.1 inFront
    have lastPlain : ',' ∉ last := fun member =>
      plain (by simp) (same ▸ List.mem_append_right _ member)
    rw [same, grouped_append ',' others three, ← List.append_assoc,
      normalizedNumber_comma noPoint lastPlain, if_pos three]
    split_ifs with fits
    · -- at most six digits: one group before the last one
      have frontShort : front.length ≤ 3 := by
        have := sixDigits.mpr fits
        omega
      rw [grouped_short ',' frontShort, List.append_assoc, ← same]
      exact plainText
    · have frontLong : 3 < front.length := by
        have := mt sixDigits.mp fits
        omega
      obtain ⟨first, second, rfl, firstSome, secondThree, _⟩ := split_last_three frontLong
      rw [grouped_append ',' firstSome secondThree, readDecimal, Decimal.parse_comma]
      simp
  · have fits : value.natAbs < 10 ^ 6 := sixDigits.mp (short.trans (by decide))
    have noComma : ',' ∉ Decimal.signText (value < 0) ++
        Decimal.digitText (wholeDigits value.natAbs) := by
      simp only [List.mem_append, not_or]
      exact ⟨not_mem_signText (by decide) _, plain (by simp)⟩
    rw [grouped_short ',' (width ▸ short), normalizedNumber, if_neg (fun both => noComma both.1),
      if_neg noComma, if_pos fits]
    exact plainText

/-- A shown number is read as that number, but for the integers with two commas or more. -/
theorem number_shown (shown : Presentation) :
    number table shown.text [] = .ok (.of shown.value) ↔
      ∀ value, shown = .integer value → value.natAbs < 10 ^ 6 := by
  cases shown with
  | integer value =>
      rw [number_integer]
      constructor
      · intro read other same
        obtain rfl := Presentation.integer.inj same
        by_contra large
        rw [if_neg large] at read
        cases read
      · intro small
        rw [if_pos (small value rfl)]
        rfl
  | pointed negative whole fraction some_fraction =>
      have read := number_pointed table negative whole fraction some_fraction
      exact ⟨fun _ value same => (nomatch same), fun _ => read⟩
  | spaced mark negative whole fraction notThree =>
      have read := number_spaced table mark negative whole fraction notThree
      exact ⟨fun _ value same => (nomatch same), fun _ => read⟩

end Law

/-- The digits and blanks of plain texts. -/
def asciiDigits : DigitTable where
  value char := if '0' ≤ char ∧ char ≤ '9' then some (char.toNat - 48) else none
  space char := char = ' ' || char = '\t'
  ascii := by decide
  marks := List.forall_iff_forall_mem.1 (by decide)
  solid := by
    intro char blank
    have cases_ : char = ' ' ∨ char = '\t' := by simpa using blank
    rcases cases_ with rfl | rfl <;> decide

/-- A count of a million is refused. -/
theorem number_million : ¬ ∀ shown : Presentation,
    number asciiDigits shown.text [] = .ok (.of shown.value) := by
  intro all
  have read := all (.integer 1234567)
  rw [number_integer] at read
  cases read

end OnecRuntime.Tables
