import Mathlib.Algebra.Order.Ring.Rat
import Mathlib.Algebra.Order.Field.Basic
import Mathlib.Algebra.Field.Rat
import Mathlib.Data.List.DropRight
import Mathlib.Data.Nat.Digits.Lemmas

/-!
# Decimal numbers and their texts

The decimal numbers of a language runtime: a sign, a coefficient and a power of
ten, with the texts that its constructor reads.  The digits of the scripts and
the blanks are a table.
-/

namespace OnecRuntime.Library

/-- The digits and the blanks that a reader knows. -/
structure DigitTable where
  value : Char → Option Nat
  space : Char → Bool
  ascii : ∀ digit < 10, value (Nat.digitChar digit) = some digit
  marks : ∀ char ∈ [' ', '\u00A0', ',', '.', '-', '+'], value char = none
  solid : ∀ char, space char = true → value char = none ∧ char ∉ [',', '.', '-', '+']

inductive Decimal where
  | finite (negative : Bool) (coefficient : Nat) (exponent : Int)
  | infinite (negative : Bool)
  | nan (signaling : Bool)
  deriving DecidableEq, Repr

namespace Decimal

/-- The number of a finite decimal. -/
def rational (negative : Bool) (coefficient : Nat) (exponent : Int) : ℚ :=
  (if negative then -(coefficient : ℚ) else coefficient) * 10 ^ exponent

/-- The number that digits spell, the most significant one first. -/
def ofDigits (digits : List Nat) : Nat := Nat.ofDigits 10 digits.reverse

section Reading

variable (table : DigitTable)

/-- The digits at the head of a text, and the text behind them. -/
def takeDigits : List Char → List Nat × List Char
  | [] => ([], [])
  | char :: rest =>
      match table.value char with
      | some digit => (digit :: (takeDigits rest).1, (takeDigits rest).2)
      | none => ([], char :: rest)

def takeSign : List Char → Bool × List Char
  | [] => (false, [])
  | char :: rest =>
      if char = '-' then (true, rest)
      else if char = '+' then (false, rest)
      else (false, char :: rest)

/-- The exponent behind the digits; it takes the rest of the text. -/
def parseExponent : List Char → Option Int
  | [] => some 0
  | char :: rest =>
      if char = 'e' ∨ char = 'E' then
        let signed := takeSign rest
        let power := takeDigits table signed.2
        if power.1 = [] ∨ power.2 ≠ [] then none
        else some (if signed.1 then -(ofDigits power.1 : Int) else ofDigits power.1)
      else none

def fractionOf : List Char → List Nat × List Char
  | [] => ([], [])
  | char :: rest => if char = '.' then takeDigits table rest else ([], char :: rest)

def parseNumeric (negative : Bool) (body : List Char) : Option Decimal :=
  let whole := takeDigits table body
  let fraction := fractionOf table whole.2
  if whole.1 = [] ∧ fraction.1 = [] then none
  else
    (parseExponent table fraction.2).map fun exponent =>
      .finite negative (ofDigits (whole.1 ++ fraction.1)) (exponent - fraction.1.length)

def parseSpecial (negative : Bool) (body : List Char) : Option Decimal :=
  let name := body.map Char.toLower
  if name = "inf".toList ∨ name = "infinity".toList then some (.infinite negative)
  else if name.take 3 = "nan".toList ∧ (takeDigits table (body.drop 3)).2 = [] then
    some (.nan false)
  else if name.take 4 = "snan".toList ∧ (takeDigits table (body.drop 4)).2 = [] then
    some (.nan true)
  else none

/-- `value.strip().replace("_", "")`. -/
def trimmed (input : List Char) : List Char :=
  ((input.dropWhile table.space).rdropWhile table.space).filter (· ≠ '_')

/-- The constructor on a text; the limits on exponents are left out. -/
def parse (input : List Char) : Option Decimal :=
  let signed := takeSign (trimmed table input)
  parseNumeric table signed.1 signed.2 <|> parseSpecial table signed.1 signed.2

end Reading

/-! ## Plain texts -/

/-- The digits of a number in a text. -/
def digitText (digits : List Nat) : List Char := digits.map Nat.digitChar

def signText (negative : Bool) : List Char := if negative then ['-'] else []

section Plain

variable {table : DigitTable}

theorem takeDigits_digitText {digits : List Nat} (small : ∀ digit ∈ digits, digit < 10)
    {rest : List Char} (ended : ∀ char, rest.head? = some char → table.value char = none) :
    takeDigits table (digitText digits ++ rest) = (digits, rest) := by
  induction digits with
  | nil =>
      cases rest with
      | nil => rfl
      | cons char later =>
          change takeDigits table (char :: later) = _
          rw [takeDigits, ended char rfl]
  | cons digit more ih =>
      have read := ih fun other member => small other (List.mem_cons_of_mem _ member)
      change takeDigits table (Nat.digitChar digit :: (digitText more ++ rest)) = _
      rw [takeDigits, table.ascii digit (small digit List.mem_cons_self), read]

/-- Digits are told apart from blanks and marks by their value. -/
theorem digitChar_facts {digit : Nat} (small : digit < 10) :
    table.space (Nat.digitChar digit) = false ∧
      Nat.digitChar digit ∉ [' ', '\u00A0', ',', '.', '-', '+'] ∧ Nat.digitChar digit ≠ '_' := by
  have read := table.ascii digit small
  refine ⟨?_, ?_, ?_⟩
  · by_contra blank
    rw [(table.solid _ (by simpa using blank)).1] at read
    cases read
  · intro member
    rw [table.marks _ member] at read
    cases read
  · interval_cases digit <;> decide

variable {char : Char}

theorem mark_solid (member : char ∈ [',', '.', '-', '+']) :
    table.space char = false := by
  by_contra blank
  exact (table.solid char (by simpa using blank)).2 member

/-- A text of digits, points and signs is read as it stands. -/
theorem trimmed_eq {input : List Char}
    (plain : ∀ char ∈ input, table.space char = false ∧ char ≠ '_') :
    trimmed table input = input := by
  have front : input.dropWhile table.space = input := by
    cases input with
    | nil => rfl
    | cons char rest => rw [List.dropWhile_cons, (plain char List.mem_cons_self).1]; rfl
  have back : input.rdropWhile table.space = input := by
    rw [List.rdropWhile_eq_self_iff]
    intro some_text blank
    rw [(plain _ (List.getLast_mem some_text)).1] at blank
    cases blank
  rw [trimmed, front, back, List.filter_eq_self]
  intro char member
  simpa using (plain char member).2

theorem mem_digitText {digits : List Nat} (member : char ∈ digitText digits) :
    ∃ digit ∈ digits, Nat.digitChar digit = char :=
  List.mem_map.mp member

variable {negative : Bool}

theorem takeSign_signText {body : List Char}
    (unsigned : ∀ char, body.head? = some char → char ∉ [',', '.', '-', '+'] ∨ char = '.') :
    takeSign (signText negative ++ body) = (negative, body) := by
  cases negative with
  | true => rfl
  | false =>
      change takeSign body = _
      cases body with
      | nil => rfl
      | cons char rest =>
          have other := unsigned char rfl
          have notMinus : char ≠ '-' := by
            rintro rfl
            simp at other
          have notPlus : char ≠ '+' := by
            rintro rfl
            simp at other
          rw [takeSign, if_neg notMinus, if_neg notPlus]

/-- The text of a number with some digits and a fraction is read. -/
theorem parse_plain {whole fraction : List Nat} (someDigits : whole ≠ [])
    (wholeSmall : ∀ digit ∈ whole, digit < 10) (fractionSmall : ∀ digit ∈ fraction, digit < 10)
    {point : List Char} (pointIs : point = ['.'] ∨ point = [] ∧ fraction = []) :
    parse table (signText negative ++ digitText whole ++ point ++ digitText fraction) =
      some (.finite negative (ofDigits (whole ++ fraction)) (-fraction.length)) := by
  have plainDigits {digits : List Nat} (small : ∀ digit ∈ digits, digit < 10) :
      ∀ char ∈ digitText digits, table.space char = false ∧ char ≠ '_' := by
    intro char member
    obtain ⟨digit, inDigits, rfl⟩ := mem_digitText member
    obtain ⟨solid, _, other⟩ := @digitChar_facts table digit (small digit inDigits)
    exact ⟨solid, other⟩
  have plain : ∀ char ∈ signText negative ++ digitText whole ++ point ++ digitText fraction,
      table.space char = false ∧ char ≠ '_' := by
    intro char member
    simp only [List.mem_append] at member
    rcases member with ((sign | inWhole) | inPoint) | inFraction
    · cases negative with
      | true =>
          obtain rfl := List.mem_singleton.mp sign
          exact ⟨mark_solid (by simp), by decide⟩
      | false => cases sign
    · exact plainDigits wholeSmall char inWhole
    · rcases pointIs with rfl | ⟨rfl, _⟩
      · obtain rfl := List.mem_singleton.mp inPoint
        exact ⟨mark_solid (by simp), by decide⟩
      · cases inPoint
    · exact plainDigits fractionSmall char inFraction
  have noDigitBehind : ∀ char, (point ++ digitText fraction).head? = some char →
      table.value char = none := by
    intro char head
    rcases pointIs with rfl | ⟨rfl, rfl⟩
    · obtain rfl := Option.some.inj head
      exact table.marks _ (by simp)
    · cases head
  have wholeRead := takeDigits_digitText wholeSmall noDigitBehind
  have fractionRead : fractionOf table (point ++ digitText fraction) = (fraction, []) := by
    rcases pointIs with rfl | ⟨rfl, rfl⟩
    · have read := @takeDigits_digitText table fraction fractionSmall []
        (fun char head => by cases head)
      rw [List.append_nil] at read
      exact read
    · rfl
  have unsigned : ∀ char, (digitText whole ++ point ++ digitText fraction).head? = some char →
      char ∉ [',', '.', '-', '+'] ∨ char = '.' := by
    intro char head
    cases whole with
    | nil => exact (someDigits rfl).elim
    | cons digit more =>
        obtain rfl := Option.some.inj head
        have facts := (@digitChar_facts table digit (wholeSmall digit List.mem_cons_self)).2.1
        left
        intro member
        exact facts (by simp only [List.mem_cons] at member ⊢; tauto)
  have signed := @takeSign_signText negative _ unsigned
  simp only [List.append_assoc] at plain signed wholeRead ⊢
  rw [parse, trimmed_eq plain]
  simp only [signed, parseNumeric, wholeRead, fractionRead, someDigits, false_and, if_false,
    parseExponent, Option.map_some, zero_sub]
  rfl

/-! ## Texts with a comma -/

theorem mem_takeDigits (mark : table.value char = none) {body : List Char}
    (member : char ∈ body) : char ∈ (takeDigits table body).2 := by
  induction body with
  | nil => cases member
  | cons first rest ih =>
      rw [takeDigits]
      split
      · next digit found =>
          rcases List.mem_cons.mp member with rfl | later
          · rw [mark] at found
            cases found
          · exact ih later
      · exact member

theorem mem_dropWhile {blank : Char → Bool} (solid : blank char = false)
    {body : List Char} (member : char ∈ body) : char ∈ body.dropWhile blank := by
  induction body with
  | nil => cases member
  | cons first rest ih =>
      rw [List.dropWhile_cons]
      split
      · next isBlank =>
          rcases List.mem_cons.mp member with rfl | later
          · rw [solid] at isBlank
            cases isBlank
          · exact ih later
      · exact member

theorem mem_trimmed (solid : table.space char = false) (other : char ≠ '_')
    {input : List Char} (member : char ∈ input) : char ∈ trimmed table input := by
  have front := mem_dropWhile solid member
  have back := List.mem_reverse.mpr (mem_dropWhile solid (List.mem_reverse.mpr front))
  exact List.mem_filter.mpr ⟨back, by simpa using other⟩

theorem mem_takeSign (unsigned : char ≠ '-' ∧ char ≠ '+') {body : List Char}
    (member : char ∈ body) : char ∈ (takeSign body).2 := by
  cases body with
  | nil => cases member
  | cons first rest =>
      rw [takeSign]
      split_ifs with minus plus
      · exact (List.mem_cons.mp member).resolve_left fun same => unsigned.1 (same.trans minus)
      · exact (List.mem_cons.mp member).resolve_left fun same => unsigned.2 (same.trans plus)
      · exact member

theorem parseExponent_comma {body : List Char} (member : ',' ∈ body) :
    parseExponent table body = none := by
  cases body with
  | nil => cases member
  | cons first rest =>
      rw [parseExponent]
      split_ifs with letter
      · have inRest : ',' ∈ rest := by
          refine (List.mem_cons.mp member).resolve_left ?_
          rintro rfl
          simp at letter
        have left := mem_takeDigits (table.marks ',' (by simp))
          (mem_takeSign (by decide) inRest)
        exact if_pos (.inr (List.ne_nil_of_mem left))
      · rfl

theorem mem_fractionOf {body : List Char} (member : ',' ∈ body) :
    ',' ∈ (fractionOf table body).2 := by
  cases body with
  | nil => cases member
  | cons first rest =>
      rw [fractionOf]
      split_ifs with point
      · refine mem_takeDigits (table.marks ',' (by simp)) ?_
        refine (List.mem_cons.mp member).resolve_left ?_
        rintro rfl
        simp at point
      · exact member

theorem parseSpecial_comma {body : List Char} (member : ',' ∈ body) :
    parseSpecial table negative body = none := by
  have lowered : ',' ∈ body.map Char.toLower := List.mem_map.mpr ⟨',', member, rfl⟩
  -- the comma stands behind a name that has none
  have behind (width : Nat) (name : List Char) (plain : ',' ∉ name)
      (same : (body.map Char.toLower).take width = name) :
      (takeDigits table (body.drop width)).2 ≠ [] := by
    rcases List.mem_append.mp (List.take_append_drop width body ▸ member) with front | back
    · rw [← same, ← List.map_take] at plain
      exact (plain (List.mem_map.mpr ⟨',', front, rfl⟩)).elim
    · exact List.ne_nil_of_mem (mem_takeDigits (table.marks ',' (by simp)) back)
  unfold parseSpecial
  simp only
  rw [if_neg, if_neg, if_neg]
  · rintro ⟨same, ended⟩
    exact behind 4 _ (by decide) same ended
  · rintro ⟨same, ended⟩
    exact behind 3 _ (by decide) same ended
  · rintro (same | same) <;> rw [same] at lowered <;> revert lowered <;> decide

/-- No text with a comma is read. -/
theorem parse_comma {input : List Char} (member : ',' ∈ input) : parse table input = none := by
  have inBody := mem_takeSign (by decide)
    (@mem_trimmed table ',' (mark_solid (by simp)) (by decide) input member)
  have left := @mem_fractionOf table _ (mem_takeDigits (table.marks ',' (by simp)) inBody)
  rw [parse, parseSpecial_comma inBody, parseNumeric]
  simp only [parseExponent_comma left, Option.map_none, ite_self]
  rfl

end Plain

end Decimal

end OnecRuntime.Library
