import OnecRuntime.Correlation.Journal

/-!
# What an append leaves

An append to a journal whose last line is ended adds the entry to what is read, if it is done; and
a part of it that ends between two characters adds the entry or nothing. For both the texts of the
entry must hold none of the three line separators that the writer does not escape.
-/

namespace OnecRuntime.Correlation

open OnecRuntime.Library

/-- The next entry starts a line of its own. -/
def Fresh (file : JournalFile) : Prop :=
  contents file = [] ∨ (contents file).getLast? = some 0x0A

/-- The signs at which a line ends when it is read, and that are written as they are. -/
def separators : List CodePoint := [0x85, 0x2028, 0x2029]

def Plain (payload : Json) : Prop :=
  ∀ content ∈ payload.texts, ∀ sign ∈ content, sign ∉ separators

instance (file : JournalFile) : Decidable (Fresh file) := inferInstanceAs (Decidable (_ ∨ _))

instance (payload : Json) : Decidable (Plain payload) :=
  @List.decidableBAll _ _ (fun _ => List.decidableBAll _ _) _

/-! ## The line of an object -/

theorem unbroken_printable {char : Char} (printable : Printable char) : isLineBreak char = false := by
  unfold Printable at printable
  simp only [isLineBreak, List.mem_cons, List.not_mem_nil, or_false, decide_eq_false_iff_not]
  omega

theorem unbroken_raw {sign : CodePoint} (raw : 0x20 ≤ sign.val) (plain : sign ∉ separators) :
    isLineBreak (charOf sign) = false := by
  by_cases surrogate : isSurrogate sign.val
  · unfold charOf
    rw [if_pos surrogate]
    rfl
  · have same : (charOf sign).toNat = sign.val := congrArg Fin.val (point_charOf surrogate)
    have apart : sign.val ≠ 0x85 ∧ sign.val ≠ 0x2028 ∧ sign.val ≠ 0x2029 := by
      refine ⟨fun same => plain ?_, fun same => plain ?_, fun same => plain ?_⟩
      · exact (show sign = 0x85 from Fin.ext same) ▸ by decide
      · exact (show sign = 0x2028 from Fin.ext same) ▸ by decide
      · exact (show sign = 0x2029 from Fin.ext same) ▸ by decide
    simp only [isLineBreak, same, List.mem_cons, List.not_mem_nil, or_false,
      decide_eq_false_iff_not]
    omega

/-- The line of an object: it is read as the object, no part of it is read, and it is one line. -/
structure LineOf (members : List (CodeText × Json)) (bytes : List UInt8) (body : List Char) :
    Prop where
  bytes_eq : bytes = encodedText (body ++ ['\n'])
  whole : loads body = some (.object members)
  part : ∀ {part rest}, body = part ++ rest → rest ≠ [] → loads part = none
  unbroken : Plain (.object members) → ∀ char ∈ body, isLineBreak char = false

variable {members : List (CodeText × Json)} {bytes : List UInt8}

theorem lineOf_lineBytes
    (written : lineBytes (.object members) = some bytes) : ∃ body, LineOf members bytes body := by
  unfold lineBytes at written
  split at written
  · next encodable =>
      cases written
      obtain ⟨short, scalar⟩ := encodable
      have spelled := spelled_dumps (.object members) fun number member =>
        denotes_numeral (short number member)
      have faithful : Faithful pointScript charOf (dumps (.object members)) :=
        faithful_pointScript.2 fun sign member => scalar sign (List.mem_append_left _ member)
      refine ⟨(dumps (.object members)).map charOf, ?_, ?_, ?_, ?_⟩
      · rw [journalLine, List.map_append, List.map_singleton, charOf_point]
      · have document := SpelledDocument.mk spaces_nil spelled spaces_nil
        rw [List.nil_append, List.append_nil] at document
        exact loads_spelled reads_pointScript document faithful
      · exact loads_cut reads_pointScript spelled faithful
      · intro plain char member
        obtain ⟨sign, inside, rfl⟩ := List.mem_map.1 member
        exact @dumps_holds (fun sign => isLineBreak (charOf sign) = false)
          (fun char printable => by
            rw [charOf_point]
            exact unbroken_printable printable)
          (.object members) (fun content among sign held raw =>
            unbroken_raw raw (plain content among sign held)) sign inside
  · cases written

/-! ## The text of the file -/

theorem encodedText_feed : encodedText ['\n'] = [0x0A] := by decide

/-- A character whose last byte is a line feed is one. -/
theorem feed_of_last {char : Char}
    (last : (String.utf8EncodeChar char).getLast? = some 0x0A) : char = '\n' := by
  have size := String.length_utf8EncodeChar char
  have positive := char.utf8Size_pos
  have inside : (String.utf8EncodeChar char).length - 1 < (String.utf8EncodeChar char).length := by
    omega
  rw [List.getLast?_eq_getElem?, List.getElem?_eq_getElem inside] at last
  have first : UInt8.IsUTF8FirstByte (String.utf8EncodeChar char)[
      (String.utf8EncodeChar char).length - 1] := by
    rw [Option.some.inj last]
    decide
  have single := UInt8.isUTF8FirstByte_getElem_utf8EncodeChar.1 first
  have alone : String.utf8EncodeChar char = [0x0A] := by
    apply List.ext_getElem
    · rw [List.length_singleton]
      omega
    · intro place left right
      obtain rfl : place = 0 := by
        rw [List.length_singleton] at right
        omega
      rw [List.getElem_singleton]
      have value := Option.some.inj last
      simp only [single] at value
      exact value
  have same : encodedText [char] = encodedText ['\n'] := by
    rw [encodedText_feed, ← alone]
    exact List.flatMap_singleton ..
  exact (List.cons.inj (encodedText_injective same)).1

variable {file : JournalFile}

variable {content : List Char}

theorem ended_of_fresh (fresh : Fresh file)
    (same : contents file = encodedText content) :
    content = [] ∨ ∃ before, content = before ++ ['\n'] := by
  rcases List.eq_nil_or_concat' content with rfl | ⟨before, char, rfl⟩
  · exact .inl rfl
  · refine .inr ⟨before, ?_⟩
    have single : encodedText [char] = String.utf8EncodeChar char := List.flatMap_singleton ..
    obtain ⟨byte, others, head⟩ := encodedChar_cons char
    rw [encodedText_append, single] at same
    rcases fresh with empty | last
    · rw [empty, head] at same
      exact absurd same.symm (by simp)
    · rw [same, List.getLast?_append_of_ne_nil _ (by rw [head]; exact List.cons_ne_nil _ _)] at last
      rw [feed_of_last last]

theorem splitLines_ended
    (ended : content = [] ∨ ∃ before, content = before ++ ['\n']) (rest : List Char) :
    splitLines (content ++ rest) = splitLines content ++ splitLines rest := by
  rcases ended with rfl | ⟨before, rfl⟩
  · rfl
  · rw [List.append_assoc, List.singleton_append, splitLines_append]

variable {items : List Json}

theorem journalItems_text (read : journalItems file = some items) :
    ∃ content, contents file = encodedText content ∧ items = (splitLines content).filterMap loads := by
  obtain ⟨lines, found, rfl⟩ := Option.map_eq_some_iff.1 read
  obtain ⟨content, decoded, rfl⟩ := Option.map_eq_some_iff.1 found
  exact ⟨content, encodedText_of_decoded decoded, rfl⟩

theorem journalItems_encoded (same : contents file = encodedText content) :
    journalItems file = some ((splitLines content).filterMap loads) := by
  unfold journalItems journalLines
  rw [same, decodedText_encoded]
  rfl

theorem items_line {body : List Char}
    (line : LineOf members bytes body) (plain : Plain (.object members)) :
    (splitLines (body ++ ['\n'])).filterMap loads = [.object members] := by
  have split : splitLines (body ++ ['\n']) = [body] := by
    unfold splitLines
    rw [splitLinesFrom_line (line.unbroken plain)]
    rfl
  rw [split, List.filterMap_cons, line.whole]
  rfl

theorem items_part {body part rest : List Char}
    (line : LineOf members bytes body) (plain : Plain (.object members))
    (whole : body = part ++ rest) :
    (splitLines part).filterMap loads = [] ∨
      (splitLines part).filterMap loads = [.object members] := by
  have unbroken : ∀ char ∈ part, isLineBreak char = false := fun char member =>
    line.unbroken plain char (whole ▸ List.mem_append_left _ member)
  rw [splitLines_unbroken unbroken]
  split
  · exact .inl rfl
  · by_cases cut : rest = []
    · rw [cut, List.append_nil] at whole
      refine .inr ?_
      rw [← whole, List.filterMap_cons, line.whole]
      rfl
    · refine .inl ?_
      rw [List.filterMap_cons, line.part whole cut]
      rfl

/-! ## Appends -/

/-- An append is sound where it starts a line, its texts are plain and what is written of it ends
between two characters. -/
structure Sound (file : JournalFile) (payload : Json) (fate : Fate) : Prop where
  fresh : Fresh file
  plain : Plain payload
  between : ∀ bytes, lineBytes payload = some bytes → decodedText (fate.written bytes) ≠ none

/-- A sound append that is done is read after what was read. -/
theorem append_done {entry : Entry} {fate : Fate}
    (sound : Sound file entry.payload fate) (read : journalItems file = some items)
    (done : (append file entry fate).2 = .done) :
    journalItems (append file entry fate).1 = some (items ++ [entry.payload]) := by
  unfold append at done ⊢
  split at done
  · next bytes written =>
      obtain rfl : fate = .done := by
        cases fate with
        | done => rfl
        | raised => cases done
        | crashed => cases done
      obtain ⟨body, line⟩ := lineOf_lineBytes written
      obtain ⟨content, same, rfl⟩ := journalItems_text read
      have longer : contents (some (contents file ++ bytes)) =
          encodedText (content ++ (body ++ ['\n'])) := by
        rw [encodedText_append, ← same, ← line.bytes_eq]
        rfl
      dsimp only [Fate.written]
      rw [journalItems_encoded longer, splitLines_ended (ended_of_fresh sound.fresh same),
        List.filterMap_append, items_line line sound.plain]
      rfl
  · split at done <;> cases done

/-- A sound append is read after what was read, or nothing of it is. -/
theorem append_items {entry : Entry} {fate : Fate}
    (sound : Sound file entry.payload fate) (read : journalItems file = some items) :
    journalItems (append file entry fate).1 = some items ∨
      journalItems (append file entry fate).1 = some (items ++ [entry.payload]) := by
  unfold append
  split
  · next bytes written =>
      dsimp only
      obtain ⟨body, line⟩ := lineOf_lineBytes written
      obtain ⟨content, same, rfl⟩ := journalItems_text read
      obtain ⟨part, decoded⟩ := Option.ne_none_iff_exists'.1 (sound.between bytes written)
      have encoded := encodedText_of_decoded decoded
      have longer : contents (some (contents file ++ fate.written bytes)) =
          encodedText (content ++ part) := by
        rw [encodedText_append, ← same, ← encoded]
        rfl
      have begins : ∃ more, fate.written bytes ++ more = bytes := by
        cases fate with
        | done => exact ⟨[], List.append_nil _⟩
        | raised kept => exact ⟨bytes.drop kept, List.take_append_drop _ _⟩
        | crashed kept => exact ⟨bytes.drop kept, List.take_append_drop _ _⟩
      obtain ⟨more, begins⟩ := begins
      rw [encoded, line.bytes_eq] at begins
      obtain ⟨rest, whole⟩ := prefix_of_encoded begins
      rw [journalItems_encoded longer, splitLines_ended (ended_of_fresh sound.fresh same),
        List.filterMap_append]
      rcases List.eq_nil_or_concat' rest with rfl | ⟨before, last, rfl⟩
      · rw [List.append_nil] at whole
        rw [← whole, items_line line sound.plain]
        exact .inr rfl
      · rw [← List.append_assoc] at whole
        rcases items_part line sound.plain (List.append_inj_left' whole rfl) with nothing | all
        · rw [nothing, List.append_nil]
          exact .inl rfl
        · rw [all]
          exact .inr rfl
  · exact .inl read

end OnecRuntime.Correlation
