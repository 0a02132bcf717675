import Mathlib.Data.List.Basic

/-!
# A cut in encoded text

The bytes of a text in UTF-8, cut after a number of them, and decoded with what cannot be decoded
left out. What comes back is the text up to the last character whose bytes are all there: the part
of a character before the cut decodes to nothing.
-/

namespace OnecRuntime.Library

/-- The bytes of a text in UTF-8. -/
def encodedText (text : List Char) : List UInt8 := text.flatMap String.utf8EncodeChar

/-- The character at the head of the bytes. -/
def headChar (bytes : List UInt8) : Option Char := bytes.toByteArray.utf8DecodeChar? 0

/-- The characters of the bytes; a byte that begins none is left out. -/
def decodedFrom : Nat → List UInt8 → List Char
  | 0, _ => []
  | _ + 1, [] => []
  | fuel + 1, byte :: rest =>
      match headChar (byte :: rest) with
      | some char => char :: decodedFrom fuel ((byte :: rest).drop char.utf8Size)
      | none => decodedFrom fuel rest

def decodedIgnoring (bytes : List UInt8) : List Char := decodedFrom bytes.length bytes

theorem headChar_encoded (char : Char) (rest : List UInt8) :
    headChar (String.utf8EncodeChar char ++ rest) = some char := by
  rw [headChar, List.toByteArray_append]
  exact ByteArray.utf8DecodeChar?_utf8EncodeChar_append

theorem headChar_append {bytes : List UInt8} {char : Char} (found : headChar bytes = some char)
    (more : List UInt8) : headChar (bytes ++ more) = some char := by
  rw [headChar, List.toByteArray_append]
  exact ByteArray.utf8DecodeChar?_append_eq_some found _

theorem headChar_size {bytes : List UInt8} {char : Char} (found : headChar bytes = some char) :
    char.utf8Size ≤ bytes.length := by
  have size := ByteArray.le_size_of_utf8DecodeChar?_eq_some found
  simpa using size

/-- Not all bytes of a character do not decode. -/
theorem headChar_part {char : Char} {part rest : List UInt8}
    (whole : part ++ rest = String.utf8EncodeChar char) (some_left : rest ≠ []) :
    headChar part = none := by
  cases found : headChar part with
  | none => rfl
  | some other =>
    have same := headChar_append found rest
    have exact_char := headChar_encoded char []
    rw [List.append_nil, ← whole, same] at exact_char
    obtain rfl := Option.some.inj exact_char
    have size := headChar_size found
    have length := congrArg List.length whole
    have positive := List.length_pos_iff.2 some_left
    rw [List.length_append, String.length_utf8EncodeChar] at length
    omega

theorem headChar_spelled {bytes : List UInt8} {char : Char} (found : headChar bytes = some char) :
    ∃ rest, bytes = String.utf8EncodeChar char ++ rest := by
  obtain ⟨left, same⟩ := ByteArray.exists_of_utf8DecodeChar?_eq_some found
  refine ⟨left.data.toList, ?_⟩
  have lists := congrArg (fun bytes : ByteArray => bytes.data.toList) same
  simpa using lists

/-- Bytes inside a character begin none. -/
theorem headChar_inside {char : Char} {front inner rest : List UInt8}
    (whole : front ++ (inner ++ rest) = String.utf8EncodeChar char) (some_front : front ≠ []) :
    headChar inner = none := by
  cases found : headChar inner with
  | none => rfl
  | some other =>
    obtain ⟨left, rfl⟩ := headChar_spelled found
    have positive := List.length_pos_iff.2 some_front
    have first_lt : 0 < (String.utf8EncodeChar other).length := by
      rw [String.length_utf8EncodeChar]
      exact other.utf8Size_pos
    have place_lt : front.length < (String.utf8EncodeChar char).length := by
      rw [← whole, List.length_append, List.length_append, List.length_append]
      omega
    have first : UInt8.IsUTF8FirstByte (String.utf8EncodeChar other)[0] :=
      UInt8.isUTF8FirstByte_getElem_utf8EncodeChar.2 rfl
    have same : (String.utf8EncodeChar char)[front.length] = (String.utf8EncodeChar other)[0] := by
      simp only [← whole]
      rw [List.getElem_append_right (Nat.le_refl _)]
      simp only [Nat.sub_self, List.append_assoc]
      exact List.getElem_append_left first_lt
    rw [← same] at first
    have zero := UInt8.isUTF8FirstByte_getElem_utf8EncodeChar.1 first
    omega

/-- What is left of a character decodes to nothing. -/
theorem decodedFrom_inside {fuel : Nat} {char : Char} {front inner rest : List UInt8}
    (whole : front ++ (inner ++ rest) = String.utf8EncodeChar char) (some_front : front ≠ []) :
    decodedFrom fuel inner = [] := by
  induction fuel generalizing front inner with
  | zero => rfl
  | succ fuel follows =>
    cases inner with
    | nil => rfl
    | cons byte inner =>
      rw [decodedFrom, headChar_inside whole some_front]
      refine @follows (front ++ [byte]) inner ?_ (by simp)
      rw [List.append_assoc]
      exact whole

theorem decodedFrom_part {fuel : Nat} {char : Char} {part rest : List UInt8}
    (whole : part ++ rest = String.utf8EncodeChar char) (some_left : rest ≠ []) :
    decodedFrom fuel part = [] := by
  cases fuel with
  | zero => rfl
  | succ fuel =>
    cases part with
    | nil => rfl
    | cons byte inner =>
      rw [decodedFrom, headChar_part whole some_left]
      exact @decodedFrom_inside fuel char [byte] inner rest whole (List.cons_ne_nil _ _)

/-- The characters whose bytes all stand before the cut are decoded, and no others. -/
theorem decodedFrom_cut {fuel limit : Nat} {text : List Char}
    (enough : ((encodedText text).take limit).length ≤ fuel) :
    ∃ whole rest, text = whole ++ rest ∧
      decodedFrom fuel ((encodedText text).take limit) = whole ∧ (encodedText whole).length ≤ limit ∧
      ∀ char ∈ rest.head?, limit < (encodedText (whole ++ [char])).length := by
  induction text generalizing fuel limit with
  | nil =>
    refine ⟨[], [], rfl, ?_, Nat.zero_le _, nofun⟩
    cases fuel <;> simp [encodedText, decodedFrom]
  | cons char text follows =>
    have bytes : encodedText (char :: text) = String.utf8EncodeChar char ++ encodedText text := rfl
    have size := String.length_utf8EncodeChar char
    have positive := char.utf8Size_pos
    rw [bytes] at enough ⊢
    by_cases inside : char.utf8Size ≤ limit
    · have cut : (String.utf8EncodeChar char ++ encodedText text).take limit =
          String.utf8EncodeChar char ++ (encodedText text).take (limit - char.utf8Size) := by
        rw [List.take_append, List.take_of_length_le (by omega), size]
      rw [cut, List.length_append, size] at enough
      obtain ⟨less, rfl⟩ : ∃ less, fuel = less + 1 := ⟨fuel - 1, by omega⟩
      obtain ⟨whole, rest, rfl, decoded, fits, next⟩ :=
        @follows less (limit - char.utf8Size) (by omega)
      refine ⟨char :: whole, rest, rfl, ?_, ?_, ?_⟩
      · rw [cut]
        cases head : String.utf8EncodeChar char with
        | nil =>
          rw [head] at size
          exact absurd size (by simp; omega)
        | cons byte others =>
          have here := headChar_encoded char ((encodedText (whole ++ rest)).take (limit - char.utf8Size))
          rw [head, List.cons_append] at here
          rw [List.cons_append, decodedFrom, here]
          dsimp only
          rw [← List.cons_append, ← head, ← size, List.drop_left, size, decoded]
      · rw [encodedText, List.flatMap_cons, List.length_append, size]
        rw [encodedText] at fits
        omega
      · intro other among
        have beyond := next other among
        rw [List.cons_append, encodedText, List.flatMap_cons, List.length_append, size]
        rw [encodedText] at beyond
        omega
    · refine ⟨[], char :: text, rfl, ?_, Nat.zero_le _, ?_⟩
      · have cut : (String.utf8EncodeChar char ++ encodedText text).take limit =
            (String.utf8EncodeChar char).take limit := List.take_append_of_le_length (by omega)
        rw [cut]
        refine decodedFrom_part (List.take_append_drop limit (String.utf8EncodeChar char)) ?_
        intro nothing
        have short := List.drop_eq_nil_iff.1 nothing
        omega
      · intro other same
        obtain rfl := Option.some.inj same
        rw [List.nil_append, encodedText, List.flatMap_singleton]
        omega

/-! ## Strict decoding -/

/-- The characters of the bytes, if all of them are in characters. -/
def decodedStrictly : Nat → List UInt8 → Option (List Char)
  | _, [] => some []
  | 0, _ :: _ => none
  | fuel + 1, byte :: rest =>
      match headChar (byte :: rest) with
      | some char =>
          (decodedStrictly fuel ((byte :: rest).drop char.utf8Size)).map (char :: ·)
      | none => none

def decodedText (bytes : List UInt8) : Option (List Char) := decodedStrictly bytes.length bytes

theorem encodedText_cons (char : Char) (text : List Char) :
    encodedText (char :: text) = String.utf8EncodeChar char ++ encodedText text := rfl

theorem encodedText_append (first second : List Char) :
    encodedText (first ++ second) = encodedText first ++ encodedText second :=
  List.flatMap_append

theorem encodedChar_cons (char : Char) :
    ∃ byte others, String.utf8EncodeChar char = byte :: others := by
  have size := String.length_utf8EncodeChar char
  have positive := char.utf8Size_pos
  cases head : String.utf8EncodeChar char with
  | nil =>
    rw [head] at size
    exact absurd size.symm (by simp; omega)
  | cons byte others => exact ⟨byte, others, rfl⟩

theorem decodedStrictly_encoded {fuel : Nat} {text : List Char}
    (enough : (encodedText text).length ≤ fuel) :
    decodedStrictly fuel (encodedText text) = some text := by
  induction text generalizing fuel with
  | nil => cases fuel <;> rfl
  | cons char text follows =>
    obtain ⟨byte, others, head⟩ := encodedChar_cons char
    have size := String.length_utf8EncodeChar char
    have positive := char.utf8Size_pos
    rw [encodedText_cons, List.length_append] at enough
    obtain ⟨less, rfl⟩ : ∃ less, fuel = less + 1 := ⟨fuel - 1, by omega⟩
    have here := headChar_encoded char (encodedText text)
    have rest : (String.utf8EncodeChar char ++ encodedText text).drop char.utf8Size =
        encodedText text := by
      rw [← size, List.drop_left]
    have later := @follows less (by omega)
    rw [encodedText_cons]
    rw [head, List.cons_append] at here rest ⊢
    rw [decodedStrictly, here]
    dsimp only
    rw [rest, later]
    rfl

theorem decodedText_encoded (text : List Char) : decodedText (encodedText text) = some text :=
  decodedStrictly_encoded (Nat.le_refl _)

theorem encodedText_of_decoded {fuel : Nat} {bytes : List UInt8} {text : List Char}
    (decoded : decodedStrictly fuel bytes = some text) : bytes = encodedText text := by
  induction fuel generalizing bytes text with
  | zero =>
    cases bytes with
    | nil =>
      cases decoded
      rfl
    | cons byte rest => cases decoded
  | succ fuel follows =>
    cases bytes with
    | nil =>
      cases decoded
      rfl
    | cons byte rest =>
      rw [decodedStrictly] at decoded
      split at decoded
      · next char found =>
        obtain ⟨later, inner, rfl⟩ := Option.map_eq_some_iff.1 decoded
        obtain ⟨left, same⟩ := headChar_spelled found
        have tail : (byte :: rest).drop char.utf8Size = left := by
          rw [same, ← String.length_utf8EncodeChar char, List.drop_left]
        rw [tail] at inner
        rw [same, encodedText_cons, follows inner]
      · cases decoded

/-- Where the bytes of a text begin with those of another, the text begins with the other. -/
theorem prefix_of_encoded {first second : List Char} {more : List UInt8}
    (same : encodedText first ++ more = encodedText second) : ∃ rest, second = first ++ rest := by
  induction first generalizing second with
  | nil => exact ⟨second, rfl⟩
  | cons char first follows =>
    cases second with
    | nil =>
      obtain ⟨byte, others, head⟩ := encodedChar_cons char
      rw [encodedText_cons, head] at same
      cases same
    | cons other second =>
      rw [encodedText_cons, encodedText_cons, List.append_assoc] at same
      have here := headChar_encoded char (encodedText first ++ more)
      rw [same, headChar_encoded] at here
      obtain rfl := Option.some.inj here
      obtain ⟨rest, rfl⟩ := follows (List.append_cancel_left same)
      exact ⟨rest, rfl⟩

theorem encodedText_injective : Function.Injective encodedText := by
  intro first second same
  have decoded := decodedText_encoded first
  rw [same, decodedText_encoded] at decoded
  exact (Option.some.inj decoded).symm

end OnecRuntime.Library
