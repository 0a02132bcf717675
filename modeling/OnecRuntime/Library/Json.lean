import Mathlib.Data.Rat.Defs
import OnecRuntime.Library.Utf16

/-!
# JSON texts

A reader of JSON texts and the texts that a writer may emit: one RFC 8259 value in which
white space is blanks between tokens, and in which exactly the quotation marks, the
backslashes, the control characters and the two Unicode line separators are escaped. What
such a writer emits is read back.
-/

namespace OnecRuntime.Library

/-- A text as a sequence of code points, lone surrogates among them. -/
abbrev CodeText := List CodePoint

def point (char : Char) : CodePoint :=
  ⟨char.toNat, by
    have valid := char.valid
    unfold UInt32.isValidChar Nat.isValidChar at valid
    unfold Char.toNat
    omega⟩

def text (literal : String) : CodeText := literal.toList.map point

theorem text_injective {first second : String} (same : text first = text second) :
    first = second := by
  have points : Function.Injective point := by
    intro a b equal
    exact Char.ext (UInt32.toNat_inj.1 (Fin.mk.inj equal))
  exact String.toList_injective (List.map_injective_iff.2 points same)

@[simp] theorem text_inj {first second : String} : text first = text second ↔ first = second :=
  ⟨text_injective, congrArg text⟩

inductive Number where
  | integer (value : Int)
  /-- A number with a fraction or an exponent, before it is rounded to a double. -/
  | decimal (value : ℚ)
deriving DecidableEq

def Number.value : Number → ℚ
  | .integer value => value
  | .decimal value => value

inductive Json where
  | null
  | boolean (value : Bool)
  | number (value : Number)
  | string (text : CodeText)
  | array (items : List Json)
  | object (members : List (CodeText × Json))

mutual

/-- The strings and the names of a value. -/
def Json.texts : Json → List CodeText
  | .string content => [content]
  | .array items => itemTexts items
  | .object members => memberTexts members
  | _ => []

def itemTexts : List Json → List CodeText
  | [] => []
  | item :: rest => item.texts ++ itemTexts rest

def memberTexts : List (CodeText × Json) → List CodeText
  | [] => []
  | (name, value) :: rest => name :: value.texts ++ memberTexts rest

end

/-! ## Reading -/

def isBlank (char : Char) : Bool := char = ' ' || char = '\t' || char = '\n' || char = '\r'

def skipBlanks (input : List Char) : List Char := input.dropWhile isBlank

def hexDigitValue (char : Char) : Option Nat :=
  if 48 ≤ char.toNat ∧ char.toNat ≤ 57 then some (char.toNat - 48)
  else if 97 ≤ char.toNat ∧ char.toNat ≤ 102 then some (char.toNat - 87)
  else if 65 ≤ char.toNat ∧ char.toNat ≤ 70 then some (char.toNat - 55)
  else none

def hexQuad (first second third fourth : Char) : Option Nat :=
  match hexDigitValue first, hexDigitValue second, hexDigitValue third, hexDigitValue fourth with
  | some a, some b, some c, some d => some (((a * 16 + b) * 16 + c) * 16 + d)
  | _, _, _, _ => none

/-- The character of a short escape. -/
def shortEscape : Char → Option Char
  | '"' => some '"'
  | '\\' => some '\\'
  | '/' => some '/'
  | 'b' => some '\x08'
  | 'f' => some '\x0c'
  | 'n' => some '\n'
  | 'r' => some '\r'
  | 't' => some '\t'
  | _ => none

inductive Piece where
  | char (value : Char)
  | escape (value : Nat)
deriving DecidableEq

/-- The pieces of a string up to its closing quotation mark, and the input after it. -/
def scanString : List Char → Option (List Piece × List Char)
  | [] => none
  | '"' :: rest => some ([], rest)
  | '\\' :: 'u' :: a :: b :: c :: d :: rest =>
      match hexQuad a b c d, scanString rest with
      | some value, some (pieces, after) => some (.escape value :: pieces, after)
      | _, _ => none
  | '\\' :: mark :: rest =>
      match shortEscape mark, scanString rest with
      | some char, some (pieces, after) => some (.char char :: pieces, after)
      | _, _ => none
  | char :: rest =>
      if char.toNat < 0x20 ∨ char = '\\' then none
      else (scanString rest).map fun (pieces, after) => (.char char :: pieces, after)

/-- The code points of the pieces: an escaped surrogate pair is one code point. -/
def joinPieces : List Piece → CodeText
  | [] => []
  | .char char :: rest => point char :: joinPieces rest
  | .escape high :: .escape low :: rest =>
      if 0xD800 ≤ high ∧ high ≤ 0xDBFF ∧ 0xDC00 ≤ low ∧ low ≤ 0xDFFF then
        Fin.ofNat 0x110000 (0x10000 + (high - 0xD800) * 1024 + (low - 0xDC00)) :: joinPieces rest
      else Fin.ofNat 0x110000 high :: joinPieces (.escape low :: rest)
  | .escape value :: rest => Fin.ofNat 0x110000 value :: joinPieces rest

def parseString (input : List Char) : Option (CodeText × List Char) :=
  (scanString input).map fun (pieces, after) => (joinPieces pieces, after)

def isNumberChar (char : Char) : Bool :=
  char.isDigit || char = '-' || char = '+' || char = '.' || char = 'e' || char = 'E'

def digitsValue (digits : List Char) : Nat :=
  digits.foldl (fun value char => 10 * value + (char.toNat - 48)) 0

/-- The digits after a point, if there is one, and the rest. -/
def takeFraction : List Char → Option (Option (List Char) × List Char)
  | '.' :: rest =>
      if rest.takeWhile Char.isDigit = [] then none
      else some (some (rest.takeWhile Char.isDigit), rest.dropWhile Char.isDigit)
  | rest => some (none, rest)

def takeExponent : List Char → Option (Option Int)
  | [] => some none
  | mark :: rest =>
      if mark = 'e' ∨ mark = 'E' then
        match rest with
        | '-' :: digits =>
            if digits ≠ [] ∧ digits.all Char.isDigit then some (some (-(digitsValue digits : Int)))
            else none
        | '+' :: digits =>
            if digits ≠ [] ∧ digits.all Char.isDigit then some (some (digitsValue digits)) else none
        | digits =>
            if digits ≠ [] ∧ digits.all Char.isDigit then some (some (digitsValue digits)) else none
      else none

/-- The digits that an integer literal may have. -/
def maximalIntegerDigits : Nat := 4300

def parseUnsigned (sign : Int) (token : List Char) : Option Number :=
  let whole := token.takeWhile Char.isDigit
  if whole = [] ∨ whole.head? = some '0' ∧ 1 < whole.length then none
  else
    match takeFraction (token.dropWhile Char.isDigit) with
    | none => none
    | some (fraction, rest) =>
        match takeExponent rest with
        | none => none
        | some exponent =>
            match fraction, exponent with
            | none, none =>
                if maximalIntegerDigits < whole.length then none
                else some (.integer (sign * digitsValue whole))
            | _, _ =>
                let digits := fraction.getD []
                some (.decimal (sign * (digitsValue (whole ++ digits) : ℚ) *
                  10 ^ (exponent.getD 0 - digits.length)))

def parseNumber : List Char → Option Number
  | '-' :: rest => parseUnsigned (-1) rest
  | token => parseUnsigned 1 token

mutual

def parseValue : Nat → List Char → Option (Json × List Char)
  | 0, _ => none
  | _, [] => none
  | _, '"' :: rest => (parseString rest).map fun (text, after) => (.string text, after)
  | fuel + 1, '[' :: rest =>
      match skipBlanks rest with
      | ']' :: after => some (.array [], after)
      | _ => (parseItems fuel rest).map fun (items, after) => (.array items, after)
  | fuel + 1, '{' :: rest =>
      match skipBlanks rest with
      | '}' :: after => some (.object [], after)
      | _ => (parseMembers fuel rest).map fun (members, after) => (.object members, after)
  | _, 'n' :: 'u' :: 'l' :: 'l' :: rest => some (.null, rest)
  | _, 't' :: 'r' :: 'u' :: 'e' :: rest => some (.boolean true, rest)
  | _, 'f' :: 'a' :: 'l' :: 's' :: 'e' :: rest => some (.boolean false, rest)
  | _, input =>
      (parseNumber (input.takeWhile isNumberChar)).map fun value =>
        (.number value, input.dropWhile isNumberChar)

def parseItems : Nat → List Char → Option (List Json × List Char)
  | 0, _ => none
  | fuel + 1, input =>
      match parseValue fuel (skipBlanks input) with
      | none => none
      | some (item, rest) =>
          match skipBlanks rest with
          | ',' :: later => (parseItems fuel later).map fun (items, after) => (item :: items, after)
          | ']' :: after => some ([item], after)
          | _ => none

def parseMembers : Nat → List Char → Option (List (CodeText × Json) × List Char)
  | 0, _ => none
  | fuel + 1, input =>
      match skipBlanks input with
      | '"' :: named =>
          match parseString named with
          | none => none
          | some (name, rest) =>
              match skipBlanks rest with
              | ':' :: valued =>
                  match parseValue fuel (skipBlanks valued) with
                  | none => none
                  | some (value, rest) =>
                      match skipBlanks rest with
                      | ',' :: later =>
                          (parseMembers fuel later).map fun (members, after) =>
                            ((name, value) :: members, after)
                      | '}' :: after => some ([(name, value)], after)
                      | _ => none
              | _ => none
      | _ => none

end

/-- `json.loads`; the names of numbers that are not finite are refused. -/
def loads (input : List Char) : Option Json :=
  match parseValue (input.length + 1) (skipBlanks input) with
  | some (value, rest) => if skipBlanks rest = [] then some value else none
  | none => none

/-! ## What a writer emits -/

def Escaped (char : Char) : Prop :=
  char = '"' ∨ char = '\\' ∨ char.toNat < 0x20 ∨ char.toNat = 0x2028 ∨ char.toNat = 0x2029

instance (char : Char) : Decidable (Escaped char) :=
  inferInstanceAs (Decidable (_ ∨ _ ∨ _ ∨ _ ∨ _))

/-- A text between quotation marks, with exactly the escaped characters in some escape. -/
inductive WrittenText : CodeText → List Char → Prop
  | nil : WrittenText [] []
  | raw {content body char} (plain : ¬Escaped char) (rest : WrittenText content body) :
      WrittenText (point char :: content) (char :: body)
  | short {content body char mark} (escaped : Escaped char) (marked : shortEscape mark = some char)
      (rest : WrittenText content body) :
      WrittenText (point char :: content) ('\\' :: mark :: body)
  | code {content body char a b c d} (escaped : Escaped char)
      (value : hexQuad a b c d = some char.toNat) (rest : WrittenText content body) :
      WrittenText (point char :: content) ('\\' :: 'u' :: a :: b :: c :: d :: body)

/-- White space that does not break the line. -/
def Blank (input : List Char) : Prop := ∀ char ∈ input, char = ' ' ∨ char = '\t'

mutual

inductive Written : Json → List Char → Prop
  | null : Written .null ['n', 'u', 'l', 'l']
  | true : Written (.boolean true) ['t', 'r', 'u', 'e']
  | false : Written (.boolean false) ['f', 'a', 'l', 's', 'e']
  | number {literal value} (chars : ∀ char ∈ literal, isNumberChar char = true)
      (parsed : parseNumber literal = some value) : Written (.number value) literal
  | string {content body} (inner : WrittenText content body) :
      Written (.string content) ('"' :: (body ++ ['"']))
  | emptyArray {blank} (blanks : Blank blank) : Written (.array []) ('[' :: (blank ++ [']']))
  | array {items inner} (written : WrittenItems items inner) :
      Written (.array items) ('[' :: (inner ++ [']']))
  | emptyObject {blank} (blanks : Blank blank) : Written (.object []) ('{' :: (blank ++ ['}']))
  | object {members inner} (written : WrittenMembers members inner) :
      Written (.object members) ('{' :: (inner ++ ['}']))

inductive WrittenItems : List Json → List Char → Prop
  | last {item before value after} (blanksBefore : Blank before) (written : Written item value)
      (blanksAfter : Blank after) : WrittenItems [item] (before ++ (value ++ after))
  | more {item items before value after rest} (blanksBefore : Blank before)
      (written : Written item value) (blanksAfter : Blank after)
      (others : WrittenItems items rest) :
      WrittenItems (item :: items) (before ++ (value ++ (after ++ ',' :: rest)))

inductive WrittenMember : CodeText × Json → List Char → Prop
  | mk {name body value content before middle inner after} (blanksBefore : Blank before)
      (named : WrittenText name body) (blanksMiddle : Blank middle) (blanksInner : Blank inner)
      (written : Written value content) (blanksAfter : Blank after) :
      WrittenMember (name, value)
        (before ++ '"' :: (body ++ '"' :: (middle ++ ':' :: (inner ++ (content ++ after)))))

inductive WrittenMembers : List (CodeText × Json) → List Char → Prop
  | last {member content} (written : WrittenMember member content) :
      WrittenMembers [member] content
  | more {member members content rest} (written : WrittenMember member content)
      (others : WrittenMembers members rest) :
      WrittenMembers (member :: members) (content ++ ',' :: rest)

end

/-- One value with blanks around it. -/
inductive Document : Json → List Char → Prop
  | mk {value before content after} (blanksBefore : Blank before) (written : Written value content)
      (blanksAfter : Blank after) : Document value (before ++ (content ++ after))

/-! ## The signs of an escape -/

theorem hexDigitValue_range {char : Char} {value : Nat} (found : hexDigitValue char = some value) :
    48 ≤ char.toNat ∧ char.toNat ≤ 102 := by
  unfold hexDigitValue at found
  split at found
  · next range => omega
  · split at found
    · next range => omega
    · split at found
      · next range => omega
      · cases found

theorem hexQuad_range {a b c d : Char} {value : Nat} (quad : hexQuad a b c d = some value) :
    ∀ char ∈ [a, b, c, d], 48 ≤ char.toNat ∧ char.toNat ≤ 102 := by
  unfold hexQuad at quad
  split at quad
  · next first second third fourth =>
      simp only [List.forall_mem_cons, List.not_mem_nil, false_implies, implies_true, and_true]
      exact ⟨hexDigitValue_range first, hexDigitValue_range second, hexDigitValue_range third,
        hexDigitValue_range fourth⟩
  · cases quad

theorem shortEscape_range {mark char : Char} (found : shortEscape mark = some char) :
    34 ≤ mark.toNat ∧ mark.toNat ≤ 116 := by
  unfold shortEscape at found
  split at found <;> first | decide | cases found

theorem escaped_small {char : Char} (escaped : Escaped char) : char.toNat < 0xD800 := by
  rcases escaped with rfl | rfl | small | same | same
  · decide
  · decide
  · omega
  · omega
  · omega

end OnecRuntime.Library
