import Mathlib.Data.Nat.Digits.Lemmas

/-!
# Numerals in bytes

Little-endian numbers of a fixed width, and hexadecimal texts with a minimal width:
what was written is read back. The reader of hexadecimal texts also takes the other
texts that `int(text, 16)` takes: white space around the number, a sign, a base prefix
and single underscores between digits.
-/

namespace OnecRuntime.Library

/-! ## Little endian -/

def littleEndian : Nat → Nat → List UInt8
  | 0, _ => []
  | width + 1, value => UInt8.ofNat (value % 256) :: littleEndian width (value / 256)

def ofLittleEndian (bytes : List UInt8) : Nat :=
  bytes.foldr (fun byte value => byte.toNat + 256 * value) 0

@[simp] theorem littleEndian_length (width value : Nat) :
    (littleEndian width value).length = width := by
  induction width generalizing value with
  | zero => rfl
  | succ width hypothesis => simp [littleEndian, hypothesis]

theorem ofLittleEndian_littleEndian {width value : Nat} (fits : value < 256 ^ width) :
    ofLittleEndian (littleEndian width value) = value := by
  induction width generalizing value with
  | zero => simpa [littleEndian, ofLittleEndian] using (Nat.lt_one_iff.1 fits).symm
  | succ width hypothesis =>
      have rest : value / 256 < 256 ^ width :=
        Nat.div_lt_of_lt_mul (by rwa [Nat.pow_succ, Nat.mul_comm] at fits)
      have digit : (UInt8.ofNat (value % 256)).toNat = value % 256 := by
        simp [UInt8.toNat_ofNat']
      have inner := hypothesis rest
      unfold ofLittleEndian at inner
      simp only [littleEndian, ofLittleEndian, List.foldr_cons, inner, digit]
      exact Nat.mod_add_div value 256

/-! ## Hexadecimal -/

def hexDigit (digit : Nat) : UInt8 :=
  if digit < 10 then UInt8.ofNat (48 + digit) else UInt8.ofNat (87 + digit)

/-- The text of a number with at least `minimum` lower-case digits. -/
def formatHex (minimum number : Nat) : List UInt8 :=
  List.replicate (minimum - (Nat.digits 16 number).length) 48 ++
    (Nat.digits 16 number).reverse.map hexDigit

def hexValue (byte : UInt8) : Option Nat :=
  if 48 ≤ byte ∧ byte ≤ 57 then some (byte.toNat - 48)
  else if 97 ≤ byte ∧ byte ≤ 102 then some (byte.toNat - 87)
  else if 65 ≤ byte ∧ byte ≤ 70 then some (byte.toNat - 55)
  else none

def isSpaceByte (byte : UInt8) : Bool := byte ∈ [9, 10, 11, 12, 13, 32]

/-- The number and the count of the digits at the head of a text, with single underscores
between them, and the text after them. -/
def scanHex : Bool → Nat → Nat → List UInt8 → Option (Nat × Nat × List UInt8)
  | afterUnderscore, value, count, [] => if afterUnderscore then none else some (value, count, [])
  | afterUnderscore, value, count, byte :: rest =>
      if byte = 95 then
        if afterUnderscore then none else scanHex true value count rest
      else
        match hexValue byte with
        | some digit => scanHex false (16 * value + digit) (count + 1) rest
        | none => if afterUnderscore then none else some (value, count, byte :: rest)

def takeSign : List UInt8 → Bool × List UInt8
  | 43 :: rest => (false, rest)
  | 45 :: rest => (true, rest)
  | text => (false, text)

def dropBasePrefix : List UInt8 → List UInt8
  | 48 :: mark :: rest =>
      if mark = 120 ∨ mark = 88 then
        match rest with
        | 95 :: later => later
        | later => later
      else 48 :: mark :: rest
  | text => text

/-- `int(text, 16)`. -/
def parseHex (text : List UInt8) : Option Int :=
  let signed := takeSign (text.dropWhile isSpaceByte)
  let digits := dropBasePrefix signed.2
  if digits.head? = some 95 then none
  else
    match scanHex false 0 0 digits with
    | some (value, count, rest) =>
        if count = 0 ∨ rest.dropWhile isSpaceByte ≠ [] then none
        else some (if signed.1 then -(value : Int) else value)
    | none => none

theorem hexDigit_facts : ∀ digit < 16, hexValue (hexDigit digit) = some digit ∧
    hexDigit digit ≠ 95 ∧ hexDigit digit ≠ 120 ∧ hexDigit digit ≠ 88 ∧
    isSpaceByte (hexDigit digit) = false ∧ hexDigit digit ≠ 43 ∧ hexDigit digit ≠ 45 := by
  decide

theorem scanHex_digits (digits : List Nat) (small : ∀ digit ∈ digits, digit < 16)
    (value count : Nat) :
    scanHex false value count (digits.map hexDigit) =
      some (digits.foldl (fun value digit => 16 * value + digit) value, count + digits.length,
        []) := by
  induction digits generalizing value count with
  | nil => rfl
  | cons digit rest hypothesis =>
      obtain ⟨read, apart, _⟩ := hexDigit_facts digit (small digit List.mem_cons_self)
      simp only [List.map_cons, scanHex, apart, if_false, read, List.foldl_cons, List.length_cons]
      rw [hypothesis fun other member => small other (List.mem_cons_of_mem _ member)]
      simp [Nat.add_comm, Nat.add_left_comm]

/-- A text of hexadecimal digits is read as the number that they make. -/
theorem parseHex_digits (digits : List Nat) (nonempty : digits ≠ [])
    (small : ∀ digit ∈ digits, digit < 16) :
    parseHex (digits.map hexDigit) =
      some ((digits.foldl (fun value digit => 16 * value + digit) 0 : Nat) : Int) := by
  have scanned := scanHex_digits digits small 0 0
  have positive : 0 + digits.length ≠ 0 := by simpa using nonempty
  cases digits with
  | nil => exact absurd rfl nonempty
  | cons digit rest =>
      obtain ⟨_, underscore, _, _, space, plus, minus⟩ :=
        hexDigit_facts digit (small digit List.mem_cons_self)
      have unspaced : ((digit :: rest).map hexDigit).dropWhile isSpaceByte =
          (digit :: rest).map hexDigit := by simp [space]
      have unsigned : takeSign ((digit :: rest).map hexDigit) =
          (false, (digit :: rest).map hexDigit) := by
        unfold takeSign
        split <;> simp_all
      have unprefixed : dropBasePrefix ((digit :: rest).map hexDigit) =
          (digit :: rest).map hexDigit := by
        cases rest with
        | nil =>
            unfold dropBasePrefix
            split <;> simp_all
        | cons second later =>
            obtain ⟨_, _, lower, upper, _⟩ := hexDigit_facts second
              (small second (List.mem_cons_of_mem _ List.mem_cons_self))
            unfold dropBasePrefix
            split
            · next mark following same =>
                simp only [List.map_cons, List.cons.injEq] at same
                obtain ⟨zero, rfl, rfl⟩ := same
                simp [lower, upper, zero]
            · rfl
      unfold parseHex
      simp only [unspaced, unsigned, unprefixed, scanned]
      simp [underscore]

theorem foldl_hexDigits (digits : List Nat) :
    digits.reverse.foldl (fun value digit => 16 * value + digit) 0 = Nat.ofDigits 16 digits := by
  rw [List.foldl_reverse, Nat.ofDigits_eq_foldr]
  simp [Nat.add_comm]

theorem formatHex_eq (minimum number : Nat) :
    formatHex minimum number =
      (List.replicate (minimum - (Nat.digits 16 number).length) 0 ++
        (Nat.digits 16 number).reverse).map hexDigit := by
  simp [formatHex, hexDigit]

theorem formatHex_length {minimum number : Nat} (fits : number < 16 ^ minimum) :
    (formatHex minimum number).length = minimum := by
  have bound : (Nat.digits 16 number).length ≤ minimum := by
    rw [Nat.digits_length_le_iff (by decide)]
    exact fits
  simp [formatHex]
  omega

/-- A formatted number is read back. -/
theorem parseHex_formatHex {minimum : Nat} (positive : 0 < minimum) (number : Nat) :
    parseHex (formatHex minimum number) = some (number : Int) := by
  have zeros : ∀ count : Nat,
      (List.replicate count 0).foldl (fun value digit => 16 * value + digit) 0 = 0 := by
    intro count
    induction count with
    | zero => rfl
    | succ count hypothesis => simpa [List.replicate_succ] using hypothesis
  rw [formatHex_eq, parseHex_digits]
  · rw [List.foldl_append, zeros, foldl_hexDigits, Nat.ofDigits_digits]
  · intro empty
    obtain ⟨noZeros, noDigits⟩ := List.append_eq_nil_iff.1 empty
    have none : (Nat.digits 16 number).length = 0 := by simpa using noDigits
    rw [List.replicate_eq_nil_iff, none] at noZeros
    omega
  · intro digit member
    rcases List.mem_append.1 member with zero | inside
    · rw [List.eq_of_mem_replicate zero]
      decide
    · exact Nat.digits_lt_base (by decide) (List.mem_reverse.1 inside)

end OnecRuntime.Library
