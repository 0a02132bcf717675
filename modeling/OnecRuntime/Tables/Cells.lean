import Mathlib.Data.Rat.Defs
import Mathlib.Algebra.Order.Ring.Rat
import OnecRuntime.Library.Base64
import OnecRuntime.Library.Dictionary
import OnecRuntime.Library.Fallible
import OnecRuntime.Library.Lines

/-!
# Cells of a value table

The values that a cell can have, with the texts that the platform gives to dates and to
unique identifiers and the readers of these texts.
-/

namespace OnecRuntime.Tables

open OnecRuntime.Library

/-! ## Dates -/

structure Moment where
  year : Nat
  month : Nat
  day : Nat
  hour : Nat
  minute : Nat
  second : Nat
deriving DecidableEq, Repr

def isLeap (year : Nat) : Bool := year % 4 = 0 && (year % 100 ≠ 0 || year % 400 = 0)

def daysInMonth (year month : Nat) : Nat :=
  if month = 2 then if isLeap year then 29 else 28
  else if month ∈ [4, 6, 9, 11] then 30
  else 31

/-- The arguments that the constructor of `datetime` takes. -/
def Moment.Valid (moment : Moment) : Prop :=
  (1 ≤ moment.year ∧ moment.year ≤ 9999) ∧ (1 ≤ moment.month ∧ moment.month ≤ 12) ∧
    (1 ≤ moment.day ∧ moment.day ≤ daysInMonth moment.year moment.month) ∧ moment.hour < 24 ∧
    moment.minute < 60 ∧ moment.second < 60

instance (moment : Moment) : Decidable moment.Valid :=
  inferInstanceAs (Decidable (_ ∧ _ ∧ _ ∧ _ ∧ _ ∧ _))

def digitPoint (digit : Nat) : CodePoint := Fin.ofNat 0x110000 (48 + digit)

def pointDigit (point : CodePoint) : Option Nat :=
  if 48 ≤ point.val ∧ point.val ≤ 57 then some (point.val - 48) else none

/-- The last digits of a number. -/
def decimalText : Nat → Nat → CodeText
  | 0, _ => []
  | width + 1, number => decimalText width (number / 10) ++ [digitPoint (number % 10)]

/-- `XMLСтрока` of a date. -/
def xmlString (moment : Moment) : CodeText :=
  decimalText 4 moment.year ++ text "-" ++ decimalText 2 moment.month ++ text "-" ++
    decimalText 2 moment.day ++ text "T" ++ decimalText 2 moment.hour ++ text ":" ++
    decimalText 2 moment.minute ++ text ":" ++ decimalText 2 moment.second

def takeDecimal : Nat → Nat → CodeText → Option (Nat × CodeText)
  | 0, value, rest => some (value, rest)
  | _ + 1, _, [] => none
  | width + 1, value, point :: rest =>
      match pointDigit point with
      | some digit => takeDecimal width (10 * value + digit) rest
      | none => none

def takeMark (mark : CodePoint) : CodeText → Option CodeText
  | point :: rest => if point = mark then some rest else none
  | [] => none

/-- `datetime.fromisoformat` on dates and on dates with a time in whole seconds; the other
forms of ISO 8601, which are never written, are left out. -/
def fromIsoFormat (input : CodeText) : Option Moment := do
  let (year, rest) ← takeDecimal 4 0 input
  let (month, rest) ← takeDecimal 2 0 (← takeMark (point '-') rest)
  let (day, rest) ← takeDecimal 2 0 (← takeMark (point '-') rest)
  match rest with
  | [] => if (⟨year, month, day, 0, 0, 0⟩ : Moment).Valid then some ⟨year, month, day, 0, 0, 0⟩ else none
  | _ :: time =>
      let (hour, rest) ← takeDecimal 2 0 time
      let (minute, rest) ← takeDecimal 2 0 (← takeMark (point ':') rest)
      let (second, rest) ← takeDecimal 2 0 (← takeMark (point ':') rest)
      if rest = [] ∧ (⟨year, month, day, hour, minute, second⟩ : Moment).Valid then
        some ⟨year, month, day, hour, minute, second⟩
      else none

theorem pointDigit_digitPoint : ∀ digit < 10, pointDigit (digitPoint digit) = some digit := by
  decide

theorem takeDecimal_decimalText (width rest : Nat) {number : Nat} (value : Nat) (later : CodeText)
    (fits : number < 10 ^ width) :
    takeDecimal (width + rest) value (decimalText width number ++ later) =
      takeDecimal rest (value * 10 ^ width + number) later := by
  induction width generalizing number rest later with
  | zero =>
      obtain rfl : number = 0 := by simpa using fits
      simp [decimalText]
  | succ width hypothesis =>
      have digit := pointDigit_digitPoint (number % 10) (Nat.mod_lt _ (by decide))
      have high : number / 10 < 10 ^ width := Nat.div_lt_of_lt_mul (by rwa [Nat.pow_succ'] at fits)
      have step := hypothesis (rest + 1) (digitPoint (number % 10) :: later) high
      have sum : 10 * (value * 10 ^ width + number / 10) + number % 10 =
          value * 10 ^ (width + 1) + number := by
        rw [Nat.pow_succ]
        have parts := Nat.div_add_mod number 10
        nlinarith
      rw [decimalText, List.append_assoc, List.singleton_append,
        show width + 1 + rest = width + (rest + 1) by omega, step]
      simp only [takeDecimal, digit, sum]

theorem takeDecimal_written {width number : Nat} (later : CodeText) (fits : number < 10 ^ width) :
    takeDecimal width 0 (decimalText width number ++ later) = some (number, later) := by
  have read := takeDecimal_decimalText width 0 0 later fits
  simpa [takeDecimal] using read

theorem takeMark_written (char : Char) (later : CodeText) :
    takeMark (point char) (point char :: later) = some later := by
  simp [takeMark]

/-- A date is read back from its text. -/
theorem fromIsoFormat_xmlString {moment : Moment} (valid : moment.Valid) :
    fromIsoFormat (xmlString moment) = some moment := by
  have bounds := valid
  obtain ⟨⟨_, year⟩, ⟨_, month⟩, ⟨_, day⟩, hour, minute, second⟩ := bounds
  have length : daysInMonth moment.year moment.month ≤ 31 := by
    unfold daysInMonth
    split
    · split <;> decide
    · split <;> decide
  have seconds := takeDecimal_written [] (show moment.second < 10 ^ 2 by omega)
  rw [List.append_nil] at seconds
  have mark : ∀ char : Char, text (String.singleton char) = [point char] := by
    intro char
    simp [text]
  have dash : text "-" = [point '-'] := mark '-'
  have colon : text ":" = [point ':'] := mark ':'
  have letter : text "T" = [point 'T'] := mark 'T'
  unfold xmlString fromIsoFormat
  simp only [dash, colon, letter, List.append_assoc, List.cons_append, List.nil_append]
  rw [takeDecimal_written _ (by omega)]
  simp only [Option.bind_eq_bind, Option.bind_some, takeMark_written]
  rw [takeDecimal_written _ (by omega)]
  simp only [Option.bind_some, takeMark_written]
  rw [takeDecimal_written _ (by omega)]
  simp only [Option.bind_some]
  rw [takeDecimal_written _ (by omega)]
  simp only [Option.bind_some, takeMark_written]
  rw [takeDecimal_written _ (by omega)]
  simp only [Option.bind_some, takeMark_written, seconds, true_and, if_pos valid]

/-! ## Unique identifiers -/

abbrev Uuid := Fin (2 ^ 128)

instance manyUuids : NeZero (2 ^ 128) := inferInstance

def bytesText (bytes : List UInt8) : CodeText := bytes.map fun byte => Fin.ofNat 0x110000 byte.toNat

/-- The bytes of a text of ASCII characters. -/
def asciiBytes : CodeText → Option (List UInt8)
  | [] => some []
  | point :: rest =>
      if point.val < 128 then (asciiBytes rest).map (UInt8.ofNat point.val :: ·) else none

def hyphened (digits : CodeText) : CodeText :=
  digits.take 8 ++ text "-" ++ (digits.drop 8).take 4 ++ text "-" ++ (digits.drop 12).take 4 ++
    text "-" ++ (digits.drop 16).take 4 ++ text "-" ++ digits.drop 20

/-- `Строка` of a unique identifier. -/
def uuidText (identifier : Uuid) : CodeText := hyphened (bytesText (formatHex 32 identifier.val))

/-- `input.replace(pattern, "")`. -/
def removeAll (pattern : CodeText) : Nat → CodeText → CodeText
  | 0, input => input
  | _, [] => []
  | fuel + 1, first :: rest =>
      if pattern ≠ [] ∧ pattern.isPrefixOf (first :: rest) then
        removeAll pattern fuel ((first :: rest).drop pattern.length)
      else first :: removeAll pattern fuel rest

def isBrace (value : CodePoint) : Bool := value = point '{' || value = point '}'

/-- `input.strip("{}")`. -/
def stripBraces (input : CodeText) : CodeText :=
  ((input.dropWhile isBrace).reverse.dropWhile isBrace).reverse

/-- `UUID(input)`; the decimal digits of other scripts that `int` takes are left out. -/
def parseUuid (input : CodeText) : Option Uuid :=
  let plain := removeAll (text "uuid:") input.length (removeAll (text "urn:") input.length input)
  let digits := (stripBraces plain).filter (· ≠ point '-')
  if digits.length = 32 then
    match asciiBytes digits with
    | some bytes =>
        match parseHex bytes with
        | some value =>
            if h : 0 ≤ value ∧ value.toNat < 2 ^ 128 then some ⟨value.toNat, h.2⟩ else none
        | none => none
    | none => none
  else none

theorem formatHex_hexDigit (minimum number : Nat) :
    ∀ byte ∈ formatHex minimum number, ∃ digit < 16, byte = hexDigit digit := by
  rw [formatHex_eq]
  intro byte member
  obtain ⟨digit, inside, rfl⟩ := List.mem_map.1 member
  refine ⟨digit, ?_, rfl⟩
  rcases List.mem_append.1 inside with zero | inside
  · rw [List.eq_of_mem_replicate zero]
    decide
  · exact Nat.digits_lt_base (by decide) (List.mem_reverse.1 inside)

/-- The code points of hexadecimal digits are none of those that the reader treats apart. -/
theorem hexDigit_point : ∀ digit < 16, (hexDigit digit).toNat < 128 ∧
    (Fin.ofNat 0x110000 (hexDigit digit).toNat : CodePoint) ≠ point 'u' ∧
    isBrace (Fin.ofNat 0x110000 (hexDigit digit).toNat) = false ∧
    (Fin.ofNat 0x110000 (hexDigit digit).toNat : CodePoint) ≠ point '-' ∧
    (Fin.ofNat 0x110000 (hexDigit digit).toNat : CodePoint) ≠ nextLine := by
  decide

theorem asciiBytes_bytesText {bytes : List UInt8} (ascii : ∀ byte ∈ bytes, byte.toNat < 128) :
    asciiBytes (bytesText bytes) = some bytes := by
  induction bytes with
  | nil => rfl
  | cons byte rest hypothesis =>
      have small := ascii byte List.mem_cons_self
      have same : (Fin.ofNat 0x110000 byte.toNat : CodePoint).val = byte.toNat :=
        Nat.mod_eq_of_lt (by omega)
      have tail := hypothesis fun other member => ascii other (List.mem_cons_of_mem _ member)
      unfold bytesText at tail ⊢
      rw [List.map_cons, asciiBytes, same, if_pos small, tail, Option.map_some, UInt8.ofNat_toNat]

theorem removeAll_absent {first : CodePoint} {pattern : CodeText} (fuel : Nat) {input : CodeText}
    (absent : first ∉ input) : removeAll (first :: pattern) fuel input = input := by
  induction fuel generalizing input with
  | zero => rfl
  | succ fuel hypothesis =>
      cases input with
      | nil => rfl
      | cons other rest =>
          have apart : first ≠ other := fun same => absent (same ▸ List.mem_cons_self)
          have tail := hypothesis fun member => absent (List.mem_cons_of_mem _ member)
          rw [removeAll, if_neg, tail]
          rintro ⟨_, start⟩
          simp [apart] at start

theorem stripBraces_absent {input : CodeText} (absent : ∀ point ∈ input, isBrace point = false) :
    stripBraces input = input := by
  have dropped : ∀ {points : CodeText}, (∀ point ∈ points, isBrace point = false) →
      points.dropWhile isBrace = points := by
    intro points plain
    cases points with
    | nil => rfl
    | cons first rest => exact List.dropWhile_cons_of_neg (by simp [plain first])
  unfold stripBraces
  rw [dropped absent, dropped fun point member => absent point (List.mem_reverse.1 member),
    List.reverse_reverse]

theorem mem_hyphened {digits : CodeText} {value : CodePoint} (member : value ∈ hyphened digits) :
    value ∈ digits ∨ value = point '-' := by
  have dash : text "-" = [point '-'] := rfl
  simp only [hyphened, dash, List.mem_append, List.mem_singleton] at member
  rcases member with (((((((inside | same) | inside) | same) | inside) | same) | inside) | same) |
    inside
  · exact .inl (List.mem_of_mem_take inside)
  · exact .inr same
  · exact .inl (List.mem_of_mem_drop (List.mem_of_mem_take inside))
  · exact .inr same
  · exact .inl (List.mem_of_mem_drop (List.mem_of_mem_take inside))
  · exact .inr same
  · exact .inl (List.mem_of_mem_drop (List.mem_of_mem_take inside))
  · exact .inr same
  · exact .inl (List.mem_of_mem_drop inside)

theorem filter_hyphened {digits : CodeText} (plain : point '-' ∉ digits) :
    (hyphened digits).filter (· ≠ point '-') = digits := by
  have kept : ∀ part : CodeText, (∀ value ∈ part, value ∈ digits) →
      part.filter (· ≠ point '-') = part := by
    intro part inside
    rw [List.filter_eq_self]
    intro value member
    have apart : value ≠ point '-' := fun same => plain (same ▸ inside value member)
    simpa using apart
  have dash : (text "-").filter (· ≠ point '-') = [] := by decide
  have parts : digits = digits.take 8 ++ ((digits.drop 8).take 4 ++ ((digits.drop 12).take 4 ++
      ((digits.drop 16).take 4 ++ digits.drop 20))) := by
    conv_lhs => rw [← List.take_append_drop 8 digits, ← List.take_append_drop 4 (digits.drop 8),
      List.drop_drop, ← List.take_append_drop 4 (digits.drop 12), List.drop_drop,
      ← List.take_append_drop 4 (digits.drop 16), List.drop_drop]
  conv_rhs => rw [parts]
  simp only [hyphened, List.filter_append, dash, List.append_assoc, List.nil_append]
  rw [kept _ fun value member => List.mem_of_mem_take member,
    kept _ fun value member => List.mem_of_mem_drop (List.mem_of_mem_take member),
    kept _ fun value member => List.mem_of_mem_drop (List.mem_of_mem_take member),
    kept _ fun value member => List.mem_of_mem_drop (List.mem_of_mem_take member),
    kept _ fun value member => List.mem_of_mem_drop member]

/-- A unique identifier is read back from its text. -/
theorem parseUuid_uuidText (identifier : Uuid) : parseUuid (uuidText identifier) = some identifier := by
  have facts := fun byte member => formatHex_hexDigit 32 identifier.val byte member
  have size : (formatHex 32 identifier.val).length = 32 :=
    formatHex_length (Nat.lt_of_lt_of_eq identifier.isLt (by norm_num))
  have digits : ∀ value ∈ bytesText (formatHex 32 identifier.val), value ≠ point 'u' ∧
      isBrace value = false ∧ value ≠ point '-' ∧ value ≠ nextLine := by
    intro value member
    obtain ⟨byte, inside, rfl⟩ := List.mem_map.1 member
    obtain ⟨digit, small, rfl⟩ := facts byte inside
    exact (hexDigit_point digit small).2
  have ascii : ∀ byte ∈ formatHex 32 identifier.val, byte.toNat < 128 := by
    intro byte inside
    obtain ⟨digit, small, rfl⟩ := facts byte inside
    exact (hexDigit_point digit small).1
  have letters : point 'u' ∉ uuidText identifier := by
    intro member
    rcases mem_hyphened member with inside | dash
    · exact (digits _ inside).1 rfl
    · exact absurd dash (by decide)
  have braces : ∀ value ∈ uuidText identifier, isBrace value = false := by
    intro value member
    rcases mem_hyphened member with inside | rfl
    · exact (digits value inside).2.1
    · decide
  have urn : text "urn:" = point 'u' :: text "rn:" := rfl
  have uuid : text "uuid:" = point 'u' :: text "uid:" := rfl
  have filtered : (uuidText identifier).filter (· ≠ point '-') =
      bytesText (formatHex 32 identifier.val) :=
    filter_hyphened fun member => (digits _ member).2.2.1 rfl
  have length : (bytesText (formatHex 32 identifier.val)).length = 32 := by
    rw [bytesText, List.length_map, size]
  unfold parseUuid
  simp only [urn, uuid, removeAll_absent _ letters, stripBraces_absent braces, filtered, length,
    if_true, asciiBytes_bytesText ascii, parseHex_formatHex (show 0 < 32 by decide),
    Int.toNat_natCast]
  rw [dif_pos ⟨Int.natCast_nonneg _, identifier.isLt⟩]

theorem nextLine_uuidText (identifier : Uuid) : nextLine ∉ uuidText identifier := by
  intro member
  rcases mem_hyphened member with inside | dash
  · obtain ⟨byte, inBytes, same⟩ := List.mem_map.1 inside
    obtain ⟨digit, small, rfl⟩ := formatHex_hexDigit 32 identifier.val byte inBytes
    exact (hexDigit_point digit small).2.2.2.2 same
  · exact absurd dash (by decide)

theorem nextLine_decimalText (width number : Nat) : nextLine ∉ decimalText width number := by
  have digits : ∀ digit < 10, nextLine ≠ digitPoint digit := by decide
  induction width generalizing number with
  | zero => simp [decimalText]
  | succ width hypothesis =>
      intro member
      rcases List.mem_append.1 member with high | low
      · exact hypothesis (number / 10) high
      · exact digits (number % 10) (Nat.mod_lt _ (by decide)) (List.mem_singleton.1 low)

theorem nextLine_xmlString (moment : Moment) : nextLine ∉ xmlString moment := by
  have marks : nextLine ∉ text "-" ∧ nextLine ∉ text "T" ∧ nextLine ∉ text ":" := by decide
  simp only [xmlString, List.mem_append, not_or]
  exact ⟨⟨⟨⟨⟨⟨⟨⟨⟨⟨nextLine_decimalText _ _, marks.1⟩, nextLine_decimalText _ _⟩, marks.1⟩,
    nextLine_decimalText _ _⟩, marks.2.1⟩, nextLine_decimalText _ _⟩, marks.2.2⟩,
    nextLine_decimalText _ _⟩, marks.2.2⟩, nextLine_decimalText _ _⟩

/-! ## Values -/

/-- The numbers of the platform have at most thirty-eight digits. -/
abbrev PlatformNumber := {number : Number // |number.value| < 10 ^ 38}

abbrev PlatformDate := {moment : Moment // moment.Valid}

inductive Value where
  | undefined
  | null
  | string (content : CodeText)
  | boolean (value : Bool)
  | number (value : PlatformNumber)
  | date (moment : PlatformDate)
  | uniqueIdentifier (identifier : Uuid)
  | enumeration (filled : Bool) (presentation : CodeText)
  | reference (filled : Bool) (presentation : CodeText) (identifier : Uuid)
  /-- A value of any other type, which may be private to a Worker. -/
  | foreign (workerPrivate : Bool)

/-- The texts that a value brings along. -/
def Value.texts : Value → List CodeText
  | .string content => [content]
  | .enumeration _ presentation => [presentation]
  | .reference _ presentation _ => [presentation]
  | _ => []

/-- The types of a column's description, by what the metadata says about them. -/
inductive DeclaredType where
  | null
  | string
  | boolean
  | number
  | date
  | uniqueIdentifier
  | enumeration
  | metadataObject
  | withoutMetadata
deriving DecidableEq, Repr

structure Column where
  name : CodeText
  types : List DeclaredType

/-- `ТаблицаЗначений`: named columns and rows with one cell for each of them. -/
structure ValueTable where
  columns : List Column
  rows : List (List Value)
  named : ∀ column ∈ columns, column.name ≠ []
  distinct : (columns.map Column.name).Nodup
  widths : ∀ row ∈ rows, row.length = columns.length

end OnecRuntime.Tables
