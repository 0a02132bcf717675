import Mathlib.Data.List.Basic

/-!
# Base64

Three bytes are four characters of an alphabet of sixty-four, with padding at the end.
The strict decoder reads back what the encoder wrote, and the encoder writes no white
space.
-/

namespace OnecRuntime.Library

def alphabet : List Char :=
  "ABCDEFGHIJKLMNOPQRSTUVWXYZabcdefghijklmnopqrstuvwxyz0123456789+/".toList

def sextetChar (sextet : Nat) : Char := alphabet.getD sextet '='

def charSextet (char : Char) : Option Nat :=
  if char ∈ alphabet then some (alphabet.idxOf char) else none

def encodeBase64 : List UInt8 → List Char
  | [] => []
  | [first] => [sextetChar (first.toNat / 4), sextetChar (first.toNat % 4 * 16), '=', '=']
  | [first, second] =>
      [sextetChar (first.toNat / 4), sextetChar (first.toNat % 4 * 16 + second.toNat / 16),
        sextetChar (second.toNat % 16 * 4), '=']
  | first :: second :: third :: rest =>
      sextetChar (first.toNat / 4) :: sextetChar (first.toNat % 4 * 16 + second.toNat / 16) ::
        sextetChar (second.toNat % 16 * 4 + third.toNat / 64) ::
          sextetChar (third.toNat % 64) :: encodeBase64 rest

/-- `b64decode(content, validate=True)`. -/
def decodeBase64 : List Char → Option (List UInt8)
  | [] => some []
  | first :: second :: third :: fourth :: rest =>
      match charSextet first, charSextet second with
      | some a, some b =>
          if rest = [] ∧ third = '=' ∧ fourth = '=' then some [UInt8.ofNat (a * 4 + b / 16)]
          else
            match charSextet third with
            | some c =>
                if rest = [] ∧ fourth = '=' then
                  some [UInt8.ofNat (a * 4 + b / 16), UInt8.ofNat (b % 16 * 16 + c / 4)]
                else
                  match charSextet fourth, decodeBase64 rest with
                  | some d, some bytes =>
                      some (UInt8.ofNat (a * 4 + b / 16) :: UInt8.ofNat (b % 16 * 16 + c / 4) ::
                        UInt8.ofNat (c % 4 * 64 + d) :: bytes)
                  | _, _ => none
            | none => none
      | _, _ => none
  | _ => none

theorem sextet_facts : ∀ sextet < 64, charSextet (sextetChar sextet) = some sextet ∧
    sextetChar sextet ≠ '=' ∧ sextetChar sextet ∈ alphabet := by
  decide

theorem ofNat_eq_byte {value : Nat} (byte : UInt8) (same : value = byte.toNat) :
    UInt8.ofNat value = byte := by
  rw [same, UInt8.ofNat_toNat]

/-- What was encoded is decoded. -/
theorem decodeBase64_encodeBase64 (bytes : List UInt8) :
    decodeBase64 (encodeBase64 bytes) = some bytes := by
  induction bytes using encodeBase64.induct with
  | case1 => rfl
  | case2 first =>
      have bound := first.toNat_lt
      obtain ⟨high, _, _⟩ := sextet_facts (first.toNat / 4) (by omega)
      obtain ⟨low, _, _⟩ := sextet_facts (first.toNat % 4 * 16) (by omega)
      simp only [encodeBase64, decodeBase64, high, low, and_self, if_true]
      rw [ofNat_eq_byte first (by omega)]
  | case3 first second =>
      have firstBound := first.toNat_lt
      have secondBound := second.toNat_lt
      obtain ⟨high, _, _⟩ := sextet_facts (first.toNat / 4) (by omega)
      obtain ⟨middle, _, _⟩ :=
        sextet_facts (first.toNat % 4 * 16 + second.toNat / 16) (by omega)
      obtain ⟨low, unpadded, _⟩ := sextet_facts (second.toNat % 16 * 4) (by omega)
      simp only [encodeBase64, decodeBase64, high, middle, low, unpadded, and_true, and_false,
        if_false, if_true]
      rw [ofNat_eq_byte first (by omega), ofNat_eq_byte second (by omega)]
  | case4 first second third rest hypothesis =>
      have firstBound := first.toNat_lt
      have secondBound := second.toNat_lt
      have thirdBound := third.toNat_lt
      obtain ⟨a, _, _⟩ := sextet_facts (first.toNat / 4) (by omega)
      obtain ⟨b, _, _⟩ := sextet_facts (first.toNat % 4 * 16 + second.toNat / 16) (by omega)
      obtain ⟨c, thirdUnpadded, _⟩ :=
        sextet_facts (second.toNat % 16 * 4 + third.toNat / 64) (by omega)
      obtain ⟨d, fourthUnpadded, _⟩ := sextet_facts (third.toNat % 64) (by omega)
      simp only [encodeBase64, decodeBase64, a, b, c, d, thirdUnpadded, fourthUnpadded, and_false,
        if_false, hypothesis]
      rw [ofNat_eq_byte first (by omega), ofNat_eq_byte second (by omega),
        ofNat_eq_byte third (by omega)]

/-- Every character is of the alphabet, or padding. -/
theorem mem_encodeBase64 (bytes : List UInt8) :
    ∀ char ∈ encodeBase64 bytes, char ∈ alphabet ∨ char = '=' := by
  have inside : ∀ sextet, sextetChar sextet ∈ alphabet ∨ sextetChar sextet = '=' := by
    intro sextet
    rcases Nat.lt_or_ge sextet 64 with small | large
    · exact .inl (sextet_facts sextet small).2.2
    · exact .inr (by simp [sextetChar, List.getD_eq_getElem?_getD, List.getElem?_eq_none (show alphabet.length ≤ sextet from large)])
  induction bytes using encodeBase64.induct with
  | case1 => simp [encodeBase64]
  | case2 first => simp [encodeBase64, inside]
  | case3 first second => simp [encodeBase64, inside]
  | case4 first second third rest hypothesis =>
      simp only [encodeBase64, List.forall_mem_cons]
      exact ⟨inside _, inside _, inside _, inside _, hypothesis⟩

end OnecRuntime.Library
