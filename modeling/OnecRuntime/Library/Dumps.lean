import Mathlib.Data.List.TakeWhile
import Mathlib.Data.Nat.Digits.Defs
import OnecRuntime.Library.Spelling

/-!
# The texts of `json.dumps`

`json.dumps` without blanks and with characters beyond ASCII left as they are. Its text of a
value spells the value, so it is read back; it has no line breaks but those of the texts of the
value; and a numeral is the decimal one.
-/

namespace OnecRuntime.Library

/-- The letter of the short escape of a control character. -/
def shortLetter (sign : CodePoint) : Option Char :=
  if sign.val = 0x08 then some 'b'
  else if sign.val = 0x0C then some 'f'
  else if sign.val = 0x0A then some 'n'
  else if sign.val = 0x0D then some 'r'
  else if sign.val = 0x09 then some 't'
  else none

def dumpedSign (sign : CodePoint) : CodeText :=
  match shortLetter sign with
  | some letter => [point '\\', point letter]
  | none => writeSign sign

def dumpedText (content : CodeText) : CodeText := content.flatMap dumpedSign

def naturalLiteral (value : Nat) : List Char :=
  if value = 0 then ['0'] else ((Nat.digits 10 value).reverse).map Nat.digitChar

/-- `int.__repr__`. -/
def integerLiteral : Int → List Char
  | .ofNat value => naturalLiteral value
  | .negSucc value => '-' :: naturalLiteral (value + 1)

/-- The numerals of the integers; no other numbers are written. -/
def numeral : Number → List Char
  | .integer value => integerLiteral value
  | .decimal _ => []

mutual

/-- `json.dumps(value, ensure_ascii=False, separators=(",", ":"))`. -/
def dumps : Json → CodeText
  | .null => ['n', 'u', 'l', 'l'].map point
  | .boolean true => ['t', 'r', 'u', 'e'].map point
  | .boolean false => ['f', 'a', 'l', 's', 'e'].map point
  | .number value => (numeral value).map point
  | .string content => point '"' :: (dumpedText content ++ [point '"'])
  | .array items => point '[' :: (dumpedItems items ++ [point ']'])
  | .object members => point '\x7b' :: (dumpedMembers members ++ [point '\x7d'])

def dumpedItems : List Json → CodeText
  | [] => []
  | [item] => dumps item
  | item :: rest => dumps item ++ point ',' :: dumpedItems rest

def dumpedMembers : List (CodeText × Json) → CodeText
  | [] => []
  | [(name, value)] => point '"' :: (dumpedText name ++ point '"' :: point ':' :: dumps value)
  | (name, value) :: rest =>
      (point '"' :: (dumpedText name ++ point '"' :: point ':' :: dumps value)) ++
        point ',' :: dumpedMembers rest

end

/-! ## The texts spell their values -/

theorem shortLetter_escapes {sign : CodePoint} {letter : Char}
    (found : shortLetter sign = some letter) :
    ∃ char, sign = point char ∧ pointScript.escaped (point char) ∧
      shortEscape letter = some char := by
  have named : ∀ char letter, sign.val = (point char).val → char.toNat < 0x20 →
      shortEscape letter = some char → ∃ char, sign = point char ∧
        pointScript.escaped (point char) ∧ shortEscape letter = some char := by
    intro char letter same control escape
    exact ⟨char, Fin.ext same, .inr (.inr control), escape⟩
  unfold shortLetter at found
  split at found
  · next same =>
      cases found
      exact named '\x08' 'b' same (by decide) rfl
  split at found
  · next same =>
      cases found
      exact named '\x0c' 'f' same (by decide) rfl
  split at found
  · next same =>
      cases found
      exact named '\n' 'n' same (by decide) rfl
  split at found
  · next same =>
      cases found
      exact named '\r' 'r' same (by decide) rfl
  split at found
  · next same =>
      cases found
      exact named '\t' 't' same (by decide) rfl
  · cases found

theorem spelledText_dumped (content : CodeText) :
    SpelledText pointScript content (dumpedText content) := by
  induction content with
  | nil => exact .nil
  | cons sign rest hypothesis =>
      have spelled : dumpedText (sign :: rest) = dumpedSign sign ++ dumpedText rest := rfl
      rw [spelled, dumpedSign]
      split
      · next letter found =>
          obtain ⟨char, rfl, needed, escape⟩ := shortLetter_escapes found
          exact @SpelledText.short _ pointScript _ _ char letter needed escape hypothesis
      · exact spelledText_writeSign sign hypothesis

theorem spelledMember_dumped (name : CodeText) {value : Json} {content : CodeText}
    (spelled : Spelled pointScript value content) :
    SpelledMember pointScript (name, value)
      (point '"' :: (dumpedText name ++ point '"' :: point ':' :: content)) := by
  have entry := @SpelledMember.mk _ pointScript _ _ _ _ _ _ _ _ spaces_nil
    (spelledText_dumped name) spaces_nil spaces_nil spelled spaces_nil
  rwa [List.append_nil] at entry

mutual

/-- A value is spelled where its numerals are read back. -/
theorem spelled_dumps : ∀ value : Json, (∀ number ∈ value.numbers, Denotes numeral number) →
    Spelled pointScript value (dumps value)
  | .null, _ => .null
  | .boolean true, _ => .true
  | .boolean false, _ => .false
  | .number value, denoted =>
      have spelling := denoted value (List.mem_singleton_self value)
      .number spelling.1 spelling.2
  | .string content, _ => .string (spelledText_dumped content)
  | .array items, denoted => by
      by_cases none : items = []
      · rw [none]
        exact .emptyArray spaces_nil
      · exact .array (spelledItems_dumped items none denoted)
  | .object members, denoted => by
      by_cases none : members = []
      · rw [none]
        exact .emptyObject spaces_nil
      · exact .object (spelledMembers_dumped members none denoted)

theorem spelledItems_dumped : ∀ items : List Json, items ≠ [] →
    (∀ number ∈ itemNumbers items, Denotes numeral number) →
      SpelledItems pointScript items (dumpedItems items)
  | [], filled, _ => absurd rfl filled
  | item :: rest, _, denoted => by
      have first := spelled_dumps item fun number member =>
        denoted number (List.mem_append_left _ member)
      cases rest with
      | nil =>
          have single := SpelledItems.last spaces_nil first spaces_nil
          rwa [List.append_nil] at single
      | cons next later =>
          exact .more spaces_nil first spaces_nil
            (spelledItems_dumped (next :: later) (List.cons_ne_nil _ _) fun number member =>
              denoted number (List.mem_append_right _ member))

theorem spelledMembers_dumped : ∀ members : List (CodeText × Json), members ≠ [] →
    (∀ number ∈ memberNumbers members, Denotes numeral number) →
      SpelledMembers pointScript members (dumpedMembers members)
  | [], filled, _ => absurd rfl filled
  | (name, value) :: rest, _, denoted => by
      have first := spelledMember_dumped name (spelled_dumps value
        fun number member => denoted number (List.mem_append_left _ member))
      cases rest with
      | nil => exact .last first
      | cons next later =>
          exact .more first
            (spelledMembers_dumped (next :: later) (List.cons_ne_nil _ _) fun number member =>
              denoted number (List.mem_append_right _ member))

end

/-! ## Numerals -/

theorem naturalLiteral_digits (value : Nat) :
    ∃ digits : List Nat, digits ≠ [] ∧ (∀ digit ∈ digits, digit < 10) ∧
      naturalLiteral value = digits.reverse.map Nat.digitChar ∧ Nat.ofDigits 10 digits = value ∧
        (value ≠ 0 → ∀ last ∈ digits.getLast?, last ≠ 0) ∧ (value = 0 → digits = [0]) := by
  by_cases zero : value = 0
  · subst zero
    exact ⟨[0], by simp, by simp, rfl, rfl, fun positive => absurd rfl positive, fun _ => rfl⟩
  · refine ⟨Nat.digits 10 value, Nat.digits_ne_nil_iff_ne_zero.2 zero,
      fun digit member => Nat.digits_lt_base (by decide) member, if_neg zero,
      Nat.ofDigits_digits 10 value, fun _ last same => ?_, fun same => absurd same zero⟩
    have filled : Nat.digits 10 value ≠ [] := Nat.digits_ne_nil_iff_ne_zero.2 zero
    rw [List.getLast?_eq_some_getLast filled, Option.mem_some_iff] at same
    rw [← same]
    exact Nat.getLast_digit_ne_zero 10 zero

theorem digit_sign {digit : Nat} (small : digit < 10) :
    digit.digitChar.isDigit = true ∧ digit.digitChar.toNat - 48 = digit ∧
      isNumberChar digit.digitChar = true ∧ (digit.digitChar = '0' → digit = 0) ∧
        digit.digitChar ≠ '-' := by
  revert digit
  decide

theorem digitsValue_literal {digits : List Nat} (small : ∀ digit ∈ digits, digit < 10) :
    digitsValue (digits.reverse.map Nat.digitChar) = Nat.ofDigits 10 digits := by
  unfold digitsValue
  rw [List.foldl_map, List.foldl_reverse, Nat.ofDigits_eq_foldr]
  induction digits with
  | nil => rfl
  | cons digit rest hypothesis =>
      have inner := hypothesis fun other member => small other (List.mem_cons_of_mem _ member)
      have sign := (digit_sign (small digit List.mem_cons_self)).2.1
      simp only [List.foldr_cons] at inner ⊢
      rw [inner, sign]
      exact Nat.add_comm _ _

/-- The digits of a number are read as it, when they are not too many. -/
theorem parseUnsigned_literal (sign : Int) {value : Nat}
    (short : (naturalLiteral value).length ≤ maximalIntegerDigits) :
    parseUnsigned sign (naturalLiteral value) = some (.integer (sign * value)) := by
  obtain ⟨digits, filled, small, written, same, leading, zero⟩ := naturalLiteral_digits value
  have allDigits : ∀ char ∈ naturalLiteral value, char.isDigit = true := by
    intro char member
    rw [written] at member
    obtain ⟨digit, inside, rfl⟩ := List.mem_map.1 member
    exact (digit_sign (small digit (List.mem_reverse.1 inside))).1
  have taken : (naturalLiteral value).takeWhile Char.isDigit = naturalLiteral value :=
    List.takeWhile_eq_self_iff.2 allDigits
  have dropped : (naturalLiteral value).dropWhile Char.isDigit = [] := by
    rw [List.dropWhile_eq_nil_iff]
    exact allDigits
  have started : ¬(naturalLiteral value = [] ∨
      (naturalLiteral value).head? = some '0' ∧ 1 < (naturalLiteral value).length) := by
    rintro (empty | ⟨head, long⟩)
    · rw [written, List.map_eq_nil_iff, List.reverse_eq_nil_iff] at empty
      exact filled empty
    · by_cases nothing : value = 0
      · rw [written, zero nothing] at long
        exact absurd long (by decide)
      · rw [written, List.head?_map, List.head?_reverse, Option.map_eq_some_iff] at head
        obtain ⟨last, member, named⟩ := head
        have inside : last ∈ digits := List.mem_of_getLast? member
        exact leading nothing last member ((digit_sign (small last inside)).2.2.2.1 named)
  have read : digitsValue (naturalLiteral value) = value := by
    rw [written, digitsValue_literal small, same]
  unfold parseUnsigned
  rw [taken, dropped, if_neg started]
  simp only [takeFraction, takeExponent, read]
  rw [if_neg (Nat.not_lt.2 short)]

/-- A numeral with no more digits than are read back. -/
def Number.Short : Number → Prop
  | .integer value => (naturalLiteral value.natAbs).length ≤ maximalIntegerDigits
  | .decimal _ => False

instance (number : Number) : Decidable number.Short := by
  unfold Number.Short
  split <;> infer_instance

theorem denotes_numeral {number : Number} (short : number.Short) : Denotes numeral number := by
  cases number with
  | decimal _ => exact absurd short id
  | integer value =>
      have signs : ∀ natural, ∀ char ∈ naturalLiteral natural,
          isNumberChar char = true ∧ char ≠ '-' := by
        intro natural char member
        obtain ⟨digits, _, small, written, _⟩ := naturalLiteral_digits natural
        rw [written] at member
        obtain ⟨digit, inside, rfl⟩ := List.mem_map.1 member
        have facts := digit_sign (small digit (List.mem_reverse.1 inside))
        exact ⟨facts.2.2.1, facts.2.2.2.2⟩
      cases value with
      | ofNat natural =>
          refine ⟨fun char member => (signs natural char member).1, ?_⟩
          have parsed := @parseUnsigned_literal 1 natural short
          have unsigned : parseNumber (naturalLiteral natural) =
              parseUnsigned 1 (naturalLiteral natural) := by
            unfold parseNumber
            split
            · next rest same =>
                exact absurd rfl (signs natural '-' (same ▸ List.mem_cons_self)).2
            · rfl
          change parseNumber (naturalLiteral natural) = _
          rw [unsigned, parsed]
          exact congrArg (fun value => some (Number.integer value)) (one_mul _)
      | negSucc natural =>
          refine ⟨?_, ?_⟩
          · intro char member
            rcases List.mem_cons.1 member with rfl | digit
            · rfl
            · exact (signs _ char digit).1
          · have parsed := @parseUnsigned_literal (-1) (natural + 1) short
            change parseUnsigned (-1) (naturalLiteral (natural + 1)) = _
            rw [parsed]
            refine congrArg (fun value => some (Number.integer value)) ?_
            rw [neg_one_mul]
            rfl

/-! ## The signs of the texts -/

def Printable (char : Char) : Prop := 0x20 ≤ char.toNat ∧ char.toNat < 0x7F

instance (char : Char) : Decidable (Printable char) := inferInstanceAs (Decidable (_ ∧ _))

section Signs

variable {Holds : CodePoint → Prop} (printable : ∀ char, Printable char → Holds (point char))

include printable

theorem literal_holds {literal : List Char} (clear : ∀ char ∈ literal, Printable char) :
    ∀ sign ∈ literal.map point, Holds sign := by
  intro sign member
  obtain ⟨char, inside, rfl⟩ := List.mem_map.1 member
  exact printable char (clear char inside)

theorem numeral_holds (number : Number) : ∀ sign ∈ (numeral number).map point, Holds sign := by
  have digits : ∀ value, ∀ char ∈ naturalLiteral value, Printable char := by
    have clear : ∀ digit < 10, Printable digit.digitChar := by decide
    intro value char member
    obtain ⟨digits, _, small, written, _⟩ := naturalLiteral_digits value
    rw [written] at member
    obtain ⟨digit, inside, rfl⟩ := List.mem_map.1 member
    exact clear digit (small digit (List.mem_reverse.1 inside))
  refine literal_holds printable ?_
  cases number with
  | decimal _ => nofun
  | integer value =>
      cases value with
      | ofNat natural => exact digits natural
      | negSucc natural =>
          intro char member
          rcases List.mem_cons.1 member with rfl | digit
          · decide
          · exact digits _ char digit

theorem writeSign_holds {sign : CodePoint} (raw : 0x20 ≤ sign.val → Holds sign) :
    ∀ other ∈ writeSign sign, Holds other := by
  have mark : ∀ char, Printable char → Holds (point char) := printable
  unfold writeSign
  split
  · next special =>
      intro other member
      rcases List.mem_cons.1 member with rfl | member
      · exact mark '\\' (by decide)
      · obtain rfl := List.mem_singleton.1 member
        refine raw ?_
        rcases special with quote | backslash <;> omega
  · split
    · next control =>
        have letters : ∀ value < 32, Printable (hexLetter (value / 16)) ∧
            Printable (hexLetter (value % 16)) := by decide
        have pair := letters sign.val control
        refine literal_holds printable ?_
        simp only [List.forall_mem_cons, List.not_mem_nil, false_implies, implies_true, and_true]
        exact ⟨by decide, by decide, by decide, by decide, pair.1, pair.2⟩
    · next above =>
        intro other member
        obtain rfl := List.mem_singleton.1 member
        exact raw (Nat.not_lt.1 above)

theorem dumpedText_holds {content : CodeText} (raw : ∀ sign ∈ content, 0x20 ≤ sign.val → Holds sign) :
    ∀ sign ∈ dumpedText content, Holds sign := by
  have letters : ∀ sign letter, shortLetter sign = some letter → Printable letter := by
    intro sign letter found
    unfold shortLetter at found
    split_ifs at found <;> cases found <;> decide
  intro sign member
  obtain ⟨origin, inside, member⟩ := List.mem_flatMap.1 member
  unfold dumpedSign at member
  split at member
  · next letter found =>
      rcases List.mem_cons.1 member with rfl | member
      · exact printable '\\' (by decide)
      · obtain rfl := List.mem_singleton.1 member
        exact printable letter (letters origin letter found)
  · exact writeSign_holds printable (raw origin inside) sign member

mutual

/-- What holds of the printable characters of ASCII and of the signs of the texts that are no
control characters holds of the signs of the text of a value. -/
theorem dumps_holds : ∀ value : Json,
    (∀ content ∈ value.texts, ∀ sign ∈ content, 0x20 ≤ sign.val → Holds sign) →
      ∀ sign ∈ dumps value, Holds sign
  | .null, _ => literal_holds printable (List.forall_iff_forall_mem.1 (by decide))
  | .boolean true, _ => literal_holds printable (List.forall_iff_forall_mem.1 (by decide))
  | .boolean false, _ => literal_holds printable (List.forall_iff_forall_mem.1 (by decide))
  | .number value, _ => numeral_holds printable value
  | .string content, raw => by
      rw [dumps, List.forall_mem_cons, List.forall_mem_append, List.forall_mem_singleton]
      exact ⟨printable '"' (by decide),
        dumpedText_holds printable (raw content (List.mem_singleton_self content)),
        printable '"' (by decide)⟩
  | .array items, raw => by
      rw [dumps, List.forall_mem_cons, List.forall_mem_append, List.forall_mem_singleton]
      exact ⟨printable '[' (by decide), dumpedItems_holds items raw, printable ']' (by decide)⟩
  | .object members, raw => by
      rw [dumps, List.forall_mem_cons, List.forall_mem_append, List.forall_mem_singleton]
      exact ⟨printable '\x7b' (by decide), dumpedMembers_holds members raw,
        printable '\x7d' (by decide)⟩

theorem dumpedItems_holds : ∀ items : List Json,
    (∀ content ∈ itemTexts items, ∀ sign ∈ content, 0x20 ≤ sign.val → Holds sign) →
      ∀ sign ∈ dumpedItems items, Holds sign
  | [], _ => nofun
  | [item], raw => dumps_holds item fun content member => raw content (List.mem_append_left _ member)
  | item :: next :: rest, raw => by
      rw [dumpedItems, List.forall_mem_append, List.forall_mem_cons]
      · exact ⟨dumps_holds item fun content member => raw content (List.mem_append_left _ member),
          printable ',' (by decide), dumpedItems_holds (next :: rest) fun content member =>
            raw content (List.mem_append_right _ member)⟩
      · nofun

theorem dumpedMembers_holds : ∀ members : List (CodeText × Json),
    (∀ content ∈ memberTexts members, ∀ sign ∈ content, 0x20 ≤ sign.val → Holds sign) →
      ∀ sign ∈ dumpedMembers members, Holds sign
  | [], _ => nofun
  | (name, value) :: rest, raw => by
      have first : ∀ sign ∈ point '"' :: (dumpedText name ++ point '"' :: point ':' :: dumps value),
          Holds sign := by
        rw [List.forall_mem_cons, List.forall_mem_append, List.forall_mem_cons,
          List.forall_mem_cons]
        exact ⟨printable '"' (by decide), dumpedText_holds printable (raw name List.mem_cons_self),
          printable '"' (by decide), printable ':' (by decide), dumps_holds value
            fun content member => raw content (List.mem_cons_of_mem _ (List.mem_append_left _ member))⟩
      cases rest with
      | nil => exact first
      | cons next later =>
          have others := dumpedMembers_holds (next :: later) fun content member =>
            raw content (List.mem_append_right _ member)
          rw [dumpedMembers]
          · exact List.forall_mem_append.2
              ⟨first, List.forall_mem_cons.2 ⟨printable ',' (by decide), others⟩⟩
          · nofun

end

end Signs

end OnecRuntime.Library
