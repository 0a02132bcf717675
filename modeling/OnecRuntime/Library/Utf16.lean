import OnecRuntime.Library.Numerals

/-!
# UTF-16, little endian

A text is a list of code points. A surrogate code point has no encoding; the encoding
of any other text is decoded as that text, whatever well-formed bytes follow it.
-/

namespace OnecRuntime.Library

abbrev CodePoint := Fin 0x110000

-- named once, so that every format finds the same instances
instance codePointNeZero : NeZero 0x110000 := ⟨by decide⟩

instance codePointLawful : LawfulBEq CodePoint := inferInstance

instance codePointsLawful : LawfulBEq (List CodePoint) := inferInstance

def isSurrogate (unit : Nat) : Prop := 0xD800 ≤ unit ∧ unit ≤ 0xDFFF

instance (unit : Nat) : Decidable (isSurrogate unit) := inferInstanceAs (Decidable (_ ∧ _))

/-- The code units of a code point. -/
def codeUnits (point : CodePoint) : Option (List Nat) :=
  if isSurrogate point.val then none
  else if point.val < 0x10000 then some [point.val]
  else some [0xD800 + (point.val - 0x10000) / 1024, 0xDC00 + (point.val - 0x10000) % 1024]

def encodeUtf16 : List CodePoint → Option (List UInt8)
  | [] => some []
  | point :: rest =>
      match codeUnits point, encodeUtf16 rest with
      | some units, some bytes => some (units.flatMap (littleEndian 2) ++ bytes)
      | _, _ => none

def bytePairs : List UInt8 → Option (List Nat)
  | [] => some []
  | [_] => none
  | first :: second :: rest => (bytePairs rest).map (ofLittleEndian [first, second] :: ·)

def decodeUnits : List Nat → Option (List CodePoint)
  | [] => some []
  | unit :: rest =>
      if isSurrogate unit then
        match rest with
        | low :: later =>
            if unit < 0xDC00 ∧ 0xDC00 ≤ low ∧ low ≤ 0xDFFF then
              (decodeUnits later).map
                (Fin.ofNat 0x110000 (0x10000 + (unit - 0xD800) * 1024 + (low - 0xDC00)) :: ·)
            else none
        | [] => none
      else (decodeUnits rest).map (Fin.ofNat 0x110000 unit :: ·)

def decodeUtf16 (bytes : List UInt8) : Option (List CodePoint) :=
  (bytePairs bytes).bind decodeUnits

theorem bytePairs_unit {unit : Nat} (fits : unit < 0x10000) (rest : List UInt8) :
    bytePairs (littleEndian 2 unit ++ rest) = (bytePairs rest).map (unit :: ·) := by
  have read : ofLittleEndian (littleEndian 2 unit) = unit :=
    ofLittleEndian_littleEndian (by norm_num; exact fits)
  have shape : littleEndian 2 unit =
      [UInt8.ofNat (unit % 256), UInt8.ofNat (unit / 256 % 256)] := rfl
  rw [shape] at read ⊢
  simp only [List.cons_append, List.nil_append, bytePairs, read]

variable {units : List Nat}

/-- The units of a code point are decoded as that code point. -/
theorem decodeUnits_codeUnits {point : CodePoint}
    (encoded : codeUnits point = some units) (rest : List Nat) :
    decodeUnits (units ++ rest) = (decodeUnits rest).map (point :: ·) := by
  have bound := point.isLt
  unfold codeUnits at encoded
  split at encoded
  · cases encoded
  · next plain =>
      split at encoded
      · cases encoded
        have same : Fin.ofNat 0x110000 point.val = point := by
          apply Fin.ext
          simp [Fin.ofNat, Nat.mod_eq_of_lt bound]
        cases rest <;> simp [decodeUnits, plain]
      · next large =>
          cases encoded
          have high : isSurrogate (0xD800 + (point.val - 0x10000) / 1024) := by
            unfold isSurrogate
            omega
          have ranges : 0xD800 + (point.val - 0x10000) / 1024 < 0xDC00 ∧
              0xDC00 ≤ 0xDC00 + (point.val - 0x10000) % 1024 ∧
              0xDC00 + (point.val - 0x10000) % 1024 ≤ 0xDFFF := by omega
          have value : 0x10000 + (0xD800 + (point.val - 0x10000) / 1024 - 0xD800) * 1024 +
              (0xDC00 + (point.val - 0x10000) % 1024 - 0xDC00) = point.val := by omega
          simp only [List.cons_append, List.nil_append, decodeUnits]
          rw [if_pos high, if_pos ranges, value]
          simp

theorem codeUnits_bound {point : CodePoint}
    (encoded : codeUnits point = some units) : ∀ unit ∈ units, unit < 0x10000 := by
  have bound := point.isLt
  unfold codeUnits at encoded
  split at encoded
  · cases encoded
  · split at encoded
    · cases encoded
      simpa
    · cases encoded
      intro unit member
      simp at member
      omega

theorem bytePairs_units (fits : ∀ unit ∈ units, unit < 0x10000)
    (rest : List UInt8) :
    bytePairs (units.flatMap (littleEndian 2) ++ rest) = (bytePairs rest).map (units ++ ·) := by
  induction units with
  | nil => simp
  | cons unit later hypothesis =>
      have inner := hypothesis fun other member => fits other (List.mem_cons_of_mem _ member)
      rw [List.flatMap_cons, List.append_assoc, bytePairs_unit (fits unit List.mem_cons_self),
        inner, Option.map_map]
      rfl

/-- An encoded text is decoded, whatever well-formed bytes follow it. -/
theorem decodeUtf16_append {text : List CodePoint} {bytes : List UInt8}
    (encoded : encodeUtf16 text = some bytes) (rest : List UInt8) :
    decodeUtf16 (bytes ++ rest) = (decodeUtf16 rest).map (text ++ ·) := by
  induction text generalizing bytes with
  | nil =>
      cases encoded
      simp
  | cons point later hypothesis =>
      simp only [encodeUtf16] at encoded
      split at encoded
      · next units laterBytes ofPoint ofLater =>
          cases encoded
          have inner := hypothesis ofLater
          unfold decodeUtf16 at inner ⊢
          rw [List.append_assoc, bytePairs_units (codeUnits_bound ofPoint)]
          cases pairs : bytePairs (laterBytes ++ rest) with
          | none =>
              rw [pairs] at inner
              simp only [Option.map_none, Option.bind_none] at inner ⊢
              cases decoded : (bytePairs rest).bind decodeUnits with
              | none => rfl
              | some value => simp [decoded] at inner
          | some followed =>
              rw [pairs] at inner
              simp only [Option.map_some, Option.bind_some] at inner ⊢
              rw [decodeUnits_codeUnits ofPoint, inner, Option.map_map]
              rfl
      · cases encoded

/-- The texts that have an encoding. -/
theorem encodeUtf16_eq_none {text : List CodePoint} :
    encodeUtf16 text = none ↔ ∃ point ∈ text, isSurrogate point.val := by
  induction text with
  | nil => simp [encodeUtf16]
  | cons point later hypothesis =>
      have units : codeUnits point = none ↔ isSurrogate point.val := by
        unfold codeUnits
        split
        · simpa
        · next plain => split <;> simp [plain]
      simp only [encodeUtf16, List.exists_mem_cons_iff, ← hypothesis, ← units]
      cases codeUnits point <;> cases encodeUtf16 later <;> simp

end OnecRuntime.Library
