import OnecRuntime.Library.Json

/-!
# Spellings of a JSON value

A value is spelled in the signs of a script: blanks may stand between its tokens, and a
sign of a string that the script escapes is written in some escape. Whatever the script
leaves plain beyond what JSON requires, a spelling whose signs are characters is read back
as the value.
-/

namespace OnecRuntime.Library

/-- Signs that texts are written in: how a character is written, the code point that a sign
stands for, and the signs that a string may not hold unescaped. -/
structure Script (α : Type) where
  mark : Char → α
  value : α → CodePoint
  escaped : α → Prop

section Script

variable {α : Type} (script : Script α)

inductive SpelledText : CodeText → List α → Prop
  | nil : SpelledText [] []
  | plain {content body sign} (unescaped : ¬script.escaped sign)
      (rest : SpelledText content body) :
      SpelledText (script.value sign :: content) (sign :: body)
  | short {content body char letter} (needed : script.escaped (script.mark char))
      (short : shortEscape letter = some char) (rest : SpelledText content body) :
      SpelledText (point char :: content) (script.mark '\\' :: script.mark letter :: body)
  | code {content body char a b c d} (needed : script.escaped (script.mark char))
      (quad : hexQuad a b c d = some char.toNat) (rest : SpelledText content body) :
      SpelledText (point char :: content)
        (script.mark '\\' :: script.mark 'u' :: script.mark a :: script.mark b ::
          script.mark c :: script.mark d :: body)

def Spaces (blank : List α) : Prop :=
  ∀ sign ∈ blank, ∃ char, isBlank char = true ∧ sign = script.mark char

mutual

inductive Spelled : Json → List α → Prop
  | null : Spelled .null (['n', 'u', 'l', 'l'].map script.mark)
  | true : Spelled (.boolean true) (['t', 'r', 'u', 'e'].map script.mark)
  | false : Spelled (.boolean false) (['f', 'a', 'l', 's', 'e'].map script.mark)
  | number {literal value} (chars : ∀ char ∈ literal, isNumberChar char = true)
      (parsed : parseNumber literal = some value) :
      Spelled (.number value) (literal.map script.mark)
  | string {content body} (inner : SpelledText script content body) :
      Spelled (.string content) (script.mark '"' :: (body ++ [script.mark '"']))
  | emptyArray {blank} (spaces : Spaces script blank) :
      Spelled (.array []) (script.mark '[' :: (blank ++ [script.mark ']']))
  | array {items inner} (spelled : SpelledItems items inner) :
      Spelled (.array items) (script.mark '[' :: (inner ++ [script.mark ']']))
  | emptyObject {blank} (spaces : Spaces script blank) :
      Spelled (.object []) (script.mark '\x7b' :: (blank ++ [script.mark '\x7d']))
  | object {members inner} (spelled : SpelledMembers members inner) :
      Spelled (.object members) (script.mark '\x7b' :: (inner ++ [script.mark '\x7d']))

inductive SpelledItems : List Json → List α → Prop
  | last {item before value after} (spacesBefore : Spaces script before)
      (spelled : Spelled item value) (spacesAfter : Spaces script after) :
      SpelledItems [item] (before ++ (value ++ after))
  | more {item items before value after rest} (spacesBefore : Spaces script before)
      (spelled : Spelled item value) (spacesAfter : Spaces script after)
      (others : SpelledItems items rest) :
      SpelledItems (item :: items) (before ++ (value ++ (after ++ script.mark ',' :: rest)))

inductive SpelledMember : CodeText × Json → List α → Prop
  | mk {name body value content before middle inner after} (spacesBefore : Spaces script before)
      (named : SpelledText script name body) (spacesMiddle : Spaces script middle)
      (spacesInner : Spaces script inner) (spelled : Spelled value content)
      (spacesAfter : Spaces script after) :
      SpelledMember (name, value)
        (before ++ script.mark '"' :: (body ++ script.mark '"' ::
          (middle ++ script.mark ':' :: (inner ++ (content ++ after)))))

inductive SpelledMembers : List (CodeText × Json) → List α → Prop
  | last {member content} (spelled : SpelledMember member content) :
      SpelledMembers [member] content
  | more {member members content rest} (spelled : SpelledMember member content)
      (others : SpelledMembers members rest) :
      SpelledMembers (member :: members) (content ++ script.mark ',' :: rest)

end

/-- One value with blanks around it. -/
inductive SpelledDocument : Json → List α → Prop
  | mk {value before content after} (spacesBefore : Spaces script before)
      (spelled : Spelled script value content) (spacesAfter : Spaces script after) :
      SpelledDocument value (before ++ (content ++ after))

end Script

/-! ## A spelling is read back -/

/-- The character that a reader takes a sign for. -/
structure Reads {α : Type} (script : Script α) (read : α → Char) : Prop where
  marked : ∀ char, read (script.mark char) = char
  required : ∀ sign, read sign = '"' ∨ read sign = '\\' ∨ (read sign).toNat < 0x20 →
    script.escaped sign
  small : ∀ char, script.escaped (script.mark char) → char.toNat < 0xD800

section Reads

variable {α : Type} {script : Script α} {read : α → Char}

/-- The signs that stand for the characters they are read as. -/
def Faithful (script : Script α) (read : α → Char) (signs : List α) : Prop :=
  ∀ sign ∈ signs, point (read sign) = script.value sign

theorem Faithful.left {first second : List α} (faithful : Faithful script read (first ++ second)) :
    Faithful script read first :=
  fun sign member => faithful sign (List.mem_append_left _ member)

theorem Faithful.right {first second : List α} (faithful : Faithful script read (first ++ second)) :
    Faithful script read second :=
  fun sign member => faithful sign (List.mem_append_right _ member)

theorem Faithful.tail {sign : α} {signs : List α} (faithful : Faithful script read (sign :: signs)) :
    Faithful script read signs :=
  fun other member => faithful other (List.mem_cons_of_mem _ member)

theorem point_of_escape (char : Char) : Fin.ofNat 0x110000 char.toNat = point char :=
  Fin.ext (Nat.mod_eq_of_lt (point char).isLt)

variable {char : Char}

theorem joinPieces_escape (small : char.toNat < 0xD800) (pieces : List Piece) :
    joinPieces (.escape char.toNat :: pieces) = point char :: joinPieces pieces := by
  cases pieces with
  | nil => simp only [joinPieces, point_of_escape]
  | cons piece rest =>
      cases piece with
      | char other => simp only [joinPieces, point_of_escape]
      | escape low =>
          have single : ¬(0xD800 ≤ char.toNat ∧ char.toNat ≤ 0xDBFF ∧ 0xDC00 ≤ low ∧
              low ≤ 0xDFFF) := by omega
          rw [joinPieces, if_neg single, point_of_escape]

/-- The pieces that are scanned from a spelled text. -/
theorem scanString_spelled (reads : Reads script read) {content : CodeText} {body : List α}
    (spelled : SpelledText script content body) (faithful : Faithful script read body)
    (after : List Char) :
    ∃ pieces, scanString (body.map read ++ '"' :: after) = some (pieces, after) ∧
      joinPieces pieces = content := by
  induction spelled with
  | nil => exact ⟨[], by simp [scanString], rfl⟩
  | @plain content body sign unescaped _ hypothesis =>
      obtain ⟨pieces, scanned, joined⟩ := hypothesis faithful.tail
      have same := faithful sign List.mem_cons_self
      refine ⟨.char (read sign) :: pieces, ?_, by simp [joinPieces, joined, same]⟩
      have allowed : ¬(read sign = '"' ∨ read sign = '\\' ∨ (read sign).toNat < 0x20) :=
        fun special => unescaped (reads.required sign special)
      push Not at allowed
      obtain ⟨quote, backslash, control⟩ := allowed
      have printable : ¬((read sign).toNat < 0x20 ∨ read sign = '\\') := by
        rintro (small | same)
        · omega
        · exact backslash same
      rw [List.map_cons, List.cons_append, scanString]
      · rw [if_neg printable, scanned]
        rfl
      · exact fun same => quote same
      · exact fun _ _ _ _ _ same => absurd same backslash
      · exact fun _ _ same => absurd same backslash
  | @short content body char letter _ short _ hypothesis =>
      obtain ⟨pieces, scanned, joined⟩ := hypothesis faithful.tail.tail
      refine ⟨.char char :: pieces, ?_, by simp [joinPieces, joined]⟩
      have other : letter ≠ 'u' := by
        rintro rfl
        cases short
      rw [List.map_cons, List.map_cons, reads.marked, reads.marked, List.cons_append,
        List.cons_append, scanString]
      · rw [short, scanned]
      · exact fun _ _ _ _ _ same => absurd same other
  | @code content body char a b c d needed quad _ hypothesis =>
      obtain ⟨pieces, scanned, joined⟩ :=
        hypothesis faithful.tail.tail.tail.tail.tail.tail
      refine ⟨.escape char.toNat :: pieces, ?_, ?_⟩
      · simp only [List.map_cons, reads.marked, List.cons_append, scanString, quad, scanned]
      · rw [joinPieces_escape (reads.small char needed), joined]

theorem parseString_spelled (reads : Reads script read) {content : CodeText} {body : List α}
    (spelled : SpelledText script content body) (faithful : Faithful script read body)
    (after : List Char) :
    parseString (body.map read ++ '"' :: after) = some (content, after) := by
  obtain ⟨pieces, scanned, joined⟩ := scanString_spelled reads spelled faithful after
  unfold parseString
  rw [scanned, Option.map_some]
  simp only [joined]

theorem read_marks (reads : Reads script read) (literal : List Char) :
    (literal.map script.mark).map read = literal := by
  rw [List.map_map]
  exact (List.map_congr_left fun char _ => reads.marked char).trans (List.map_id literal)

/-! ### Blanks and the characters after a token -/

theorem blanks_read (reads : Reads script read) {blank : List α} (spaces : Spaces script blank) :
    ∀ char ∈ blank.map read, isBlank char = true := by
  intro char member
  obtain ⟨sign, inside, rfl⟩ := List.mem_map.1 member
  obtain ⟨other, blank, rfl⟩ := spaces sign inside
  rwa [reads.marked]

theorem skipBlanks_append {blank rest : List Char} (blanks : ∀ char ∈ blank, isBlank char = true) :
    skipBlanks (blank ++ rest) = skipBlanks rest := by
  unfold skipBlanks
  exact List.dropWhile_append_of_pos blanks

theorem skipBlanks_of_solid (solid : isBlank char = false) (rest : List Char) :
    skipBlanks (char :: rest) = char :: rest := by
  unfold skipBlanks
  rw [List.dropWhile_cons_of_neg (by simp [solid])]

/-- What follows a number ends it. -/
def Ends (rest : List Char) : Prop := ∀ char ∈ rest.head?, isNumberChar char = false

theorem unnumbered_of_blank (blank : isBlank char = true) :
    isNumberChar char = false := by
  simp only [isBlank, Bool.or_eq_true, decide_eq_true_eq] at blank
  rcases blank with ((rfl | rfl) | rfl) | rfl <;> rfl

theorem ends_of_blank {blank rest : List Char} (blanks : ∀ char ∈ blank, isBlank char = true)
    (ends : Ends rest) : Ends (blank ++ rest) := by
  cases blank with
  | nil => exact ends
  | cons char later =>
      intro other same
      cases same
      exact unnumbered_of_blank (blanks char List.mem_cons_self)

theorem ends_of_mark (other : isNumberChar char = false) (rest : List Char) :
    Ends (char :: rest) := by
  intro head same
  cases same
  exact other

theorem parseNumber_head {literal : List Char} {value : Number}
    (parsed : parseNumber literal = some value) : literal ≠ [] := by
  rintro rfl
  cases parsed

variable {content : List α}

/-- A spelled value starts with a character that is neither a blank nor a closing bracket. -/
theorem spelled_head (reads : Reads script read) {value : Json}
    (spelled : Spelled script value content) :
    ∃ char rest, content.map read = char :: rest ∧ isBlank char = false ∧ char ≠ ']' ∧
      char ≠ '\x7d' := by
  cases spelled with
  | @number literal _ chars parsed =>
      cases literal with
      | nil => exact absurd rfl (parseNumber_head parsed)
      | cons char rest =>
          have number := chars char List.mem_cons_self
          refine ⟨char, rest, read_marks reads _, ?_, ?_, ?_⟩
          · by_contra blank
            rw [Bool.not_eq_false] at blank
            rw [unnumbered_of_blank blank] at number
            cases number
          · rintro rfl
            revert number
            decide
          · rintro rfl
            revert number
            decide
  | _ => exact ⟨_, _, congrArg (· :: _) (reads.marked _), by decide, by decide, by decide⟩

theorem skipBlanks_spelled (reads : Reads script read) {value : Json}
    (spelled : Spelled script value content) (rest : List Char) :
    skipBlanks (content.map read ++ rest) = content.map read ++ rest := by
  obtain ⟨char, tail, same, solid, _⟩ := spelled_head reads spelled
  rw [same, List.cons_append, skipBlanks_of_solid solid]

/-- A number is read up to the character that ends it. -/
theorem parseValue_number {literal rest : List Char} {value : Number}
    (chars : ∀ char ∈ literal, isNumberChar char = true)
    (parsed : parseNumber literal = some value) (ends : Ends rest) (fuel : Nat) :
    parseValue (fuel + 1) (literal ++ rest) = some (.number value, rest) := by
  have taken : (literal ++ rest).takeWhile isNumberChar = literal := by
    rw [List.takeWhile_append_of_pos chars]
    cases rest with
    | nil => simp
    | cons char later => simp [ends char rfl]
  have dropped : (literal ++ rest).dropWhile isNumberChar = rest := by
    rw [List.dropWhile_append_of_pos chars]
    cases rest with
    | nil => simp
    | cons char later => simp [ends char rfl]
  cases literal with
  | nil => exact absurd rfl (parseNumber_head parsed)
  | cons first others =>
      have number := chars first List.mem_cons_self
      have apart : ∀ char, isNumberChar char = false → first ≠ char := by
        rintro char other rfl
        rw [other] at number
        cases number
      rw [List.cons_append] at taken dropped ⊢
      rw [parseValue, taken, dropped, parsed]
      · rfl
      all_goals
        intros
        simp_all [apart _ (show isNumberChar '"' = false from rfl),
          apart _ (show isNumberChar '[' = false from rfl),
          apart _ (show isNumberChar '\x7b' = false from rfl),
          apart _ (show isNumberChar 'n' = false from rfl),
          apart _ (show isNumberChar 't' = false from rfl),
          apart _ (show isNumberChar 'f' = false from rfl)]

theorem parseValue_array {fuel : Nat} {input later : List Char}
    (head : skipBlanks input = char :: later) (occupied : char ≠ ']') :
    parseValue (fuel + 1) ('[' :: input) =
      (parseItems fuel input).map fun (items, after) => (.array items, after) := by
  rw [parseValue]
  split
  · next after same =>
      rw [head] at same
      exact absurd (List.cons.inj same).1 occupied
  · rfl

theorem parseValue_object {fuel : Nat} {input later : List Char}
    (head : skipBlanks input = char :: later) (occupied : char ≠ '\x7d') :
    parseValue (fuel + 1) ('\x7b' :: input) =
      (parseMembers fuel input).map fun (members, after) => (.object members, after) := by
  rw [parseValue]
  split
  · next after same =>
      rw [head] at same
      exact absurd (List.cons.inj same).1 occupied
  · rfl

theorem items_head (reads : Reads script read) {items : List Json}
    (spelled : SpelledItems script items content) (rest : List Char) :
    ∃ char later, skipBlanks (content.map read ++ rest) = char :: later ∧ char ≠ ']' := by
  have head : ∀ {item : Json} {before inner after : List α}, Spaces script before →
      Spelled script item inner → ∃ char later,
        skipBlanks ((before ++ (inner ++ after)).map read ++ rest) = char :: later ∧
          char ≠ ']' := by
    intro item before inner after spaces value
    obtain ⟨char, later, same, _, occupied, _⟩ := spelled_head reads value
    rw [List.map_append, List.map_append, List.append_assoc, List.append_assoc,
      skipBlanks_append (blanks_read reads spaces), skipBlanks_spelled reads value, same]
    exact ⟨char, _, rfl, occupied⟩
  cases spelled with
  | last before value after => exact head before value
  | more before value after others => exact head before value

theorem members_head (reads : Reads script read) {members : List (CodeText × Json)}
    (spelled : SpelledMembers script members content) (rest : List Char) :
    ∃ later, skipBlanks (content.map read ++ rest) = '"' :: later := by
  have head : ∀ {member : CodeText × Json} {inner : List α}, SpelledMember script member inner →
      ∀ after, ∃ later, skipBlanks (inner.map read ++ after) = '"' :: later := by
    intro member inner entry after
    cases entry with
    | mk before named middle spaces value trailing =>
        rw [List.map_append, List.append_assoc, skipBlanks_append (blanks_read reads before),
          List.map_cons, reads.marked, List.cons_append]
        exact ⟨_, skipBlanks_of_solid (by decide) _⟩
  cases spelled with
  | last entry => exact head entry rest
  | more entry others =>
      rw [List.map_append, List.append_assoc]
      exact head entry _

/-- The reads of a member, up to the mark after it. -/
theorem member_reads (reads : Reads script read) (fuel : Nat) {member : CodeText × Json}
    (spelled : SpelledMember script member content)
    (faithful : Faithful script read content) (solid : isBlank char = false)
    (ends : isNumberChar char = false) (later : List Char)
    (values : ∀ {inner}, Spelled script member.2 inner → Faithful script read inner →
      inner.length < content.length → ∀ {rest}, Ends rest →
        parseValue fuel (inner.map read ++ rest) = some (member.2, rest)) :
    ∃ named valued spaced after, skipBlanks (content.map read ++ char :: later) = '"' :: named ∧
      parseString named = some (member.1, valued) ∧ skipBlanks valued = ':' :: spaced ∧
      parseValue fuel (skipBlanks spaced) = some (member.2, after) ∧
      skipBlanks after = char :: later := by
  cases spelled with
  | @mk _ body _ inner before middle gap trailing spacesBefore named spacesMiddle spacesGap
      spelled spacesAfter =>
      have ofName := faithful.right.tail.left
      have ofValue := faithful.right.tail.right.tail.right.tail.right.left
      have found := values spelled ofValue (by
        simp only [List.length_append, List.length_cons]
        omega) (ends_of_blank (blanks_read reads spacesAfter) (ends_of_mark ends later))
      let after := trailing.map read ++ char :: later
      let spaced := gap.map read ++ (inner.map read ++ after)
      let valued := middle.map read ++ ':' :: spaced
      refine ⟨body.map read ++ '"' :: valued, valued, spaced, after, ?_,
        parseString_spelled reads named ofName valued, ?_, ?_, ?_⟩
      · simp only [List.map_append, List.map_cons, reads.marked, List.append_assoc,
          List.cons_append, valued, spaced, after]
        rw [skipBlanks_append (blanks_read reads spacesBefore), skipBlanks_of_solid (by decide)]
      · rw [skipBlanks_append (blanks_read reads spacesMiddle), skipBlanks_of_solid (by decide)]
      · rw [skipBlanks_append (blanks_read reads spacesGap), skipBlanks_spelled reads spelled,
          found]
      · rw [skipBlanks_append (blanks_read reads spacesAfter), skipBlanks_of_solid solid]

/-- With more fuel than signs, what was spelled is read up to its end. -/
theorem parse_spelled (reads : Reads script read) (fuel : Nat) :
    (∀ {value content}, Spelled script value content → Faithful script read content →
      content.length < fuel → ∀ {rest}, Ends rest →
        parseValue fuel (content.map read ++ rest) = some (value, rest)) ∧
    (∀ {items content}, SpelledItems script items content → Faithful script read content →
      content.length + 1 < fuel →
        ∀ rest, parseItems fuel (content.map read ++ ']' :: rest) = some (items, rest)) ∧
    (∀ {members content}, SpelledMembers script members content →
      Faithful script read content → content.length + 1 < fuel →
        ∀ rest, parseMembers fuel (content.map read ++ '\x7d' :: rest) =
          some (members, rest)) := by
  induction fuel with
  | zero =>
      refine ⟨fun _ _ short => ?_, fun _ _ short => ?_, fun _ _ short => ?_⟩ <;>
        exact absurd short (Nat.not_lt_zero _)
  | succ fuel hypothesis =>
      obtain ⟨values, itemLists, memberLists⟩ := hypothesis
      refine ⟨?_, ?_, ?_⟩
      · intro value content spelled faithful short rest ends
        cases spelled with
        | null =>
            rw [read_marks reads]
            simp [parseValue]
        | true =>
            rw [read_marks reads]
            simp [parseValue]
        | false =>
            rw [read_marks reads]
            simp [parseValue]
        | @number literal value chars parsed =>
            rw [read_marks reads]
            exact parseValue_number chars parsed ends fuel
        | string inner =>
            have found := parseString_spelled reads inner faithful.tail.left rest
            simp only [List.map_cons, List.map_append, reads.marked, List.map_nil]
            simp [parseValue, found]
        | @emptyArray blank spaces =>
            have closed : skipBlanks (blank.map read ++ ']' :: rest) = ']' :: rest := by
              rw [skipBlanks_append (blanks_read reads spaces), skipBlanks_of_solid (by decide)]
            simp only [List.map_cons, List.map_append, reads.marked, List.map_nil]
            simp [parseValue, closed]
        | @array items inner entries =>
            obtain ⟨char, later, head, occupied⟩ := items_head reads entries (']' :: rest)
            have found := itemLists entries faithful.tail.left (by simpa using short) rest
            simp only [List.map_cons, List.map_append, reads.marked, List.map_nil]
            rw [List.cons_append, List.append_assoc, List.singleton_append,
              parseValue_array head occupied, found]
            rfl
        | @emptyObject blank spaces =>
            have closed : skipBlanks (blank.map read ++ '\x7d' :: rest) = '\x7d' :: rest := by
              rw [skipBlanks_append (blanks_read reads spaces), skipBlanks_of_solid (by decide)]
            simp only [List.map_cons, List.map_append, reads.marked, List.map_nil]
            simp [parseValue, closed]
        | @object members inner entries =>
            obtain ⟨later, head⟩ := members_head reads entries ('\x7d' :: rest)
            have found := memberLists entries faithful.tail.left (by simpa using short) rest
            simp only [List.map_cons, List.map_append, reads.marked, List.map_nil]
            rw [List.cons_append, List.append_assoc, List.singleton_append,
              parseValue_object head (by decide), found]
            rfl
      · intro items content spelled faithful short rest
        cases spelled with
        | @last item before inner after spacesBefore value spacesAfter =>
            have found := values value faithful.right.left (by simp at short; omega)
              (ends_of_blank (blanks_read reads spacesAfter)
                (ends_of_mark (show isNumberChar ']' = false from rfl) rest))
            simp only [List.map_append, List.append_assoc]
            rw [parseItems, skipBlanks_append (blanks_read reads spacesBefore),
              skipBlanks_spelled reads value, found]
            simp only [skipBlanks_append (blanks_read reads spacesAfter),
              skipBlanks_of_solid (show isBlank ']' = false from rfl)]
        | @more item items before inner after others spacesBefore value spacesAfter entries =>
            have found := values value faithful.right.left (by simp at short; omega)
              (ends_of_blank (blanks_read reads spacesAfter)
                (ends_of_mark (show isNumberChar ',' = false from rfl)
                  (others.map read ++ ']' :: rest)))
            have tail := itemLists entries faithful.right.right.right.tail
              (by simp at short; omega) rest
            simp only [List.map_append, List.map_cons, reads.marked, List.append_assoc,
              List.cons_append]
            rw [parseItems, skipBlanks_append (blanks_read reads spacesBefore),
              skipBlanks_spelled reads value, found]
            simp only [skipBlanks_append (blanks_read reads spacesAfter),
              skipBlanks_of_solid (show isBlank ',' = false from rfl), tail, Option.map_some]
      · intro members content spelled faithful short rest
        cases spelled with
        | last entry =>
            obtain ⟨named, valued, spaced, after, opened, name, colon, value, closed⟩ :=
              member_reads reads fuel entry faithful (show isBlank '\x7d' = false from rfl) rfl
                rest fun inner sound smaller => values inner sound (by omega)
            simp only [parseMembers, opened, name, colon, value, closed]
        | @more member members content others entry entries =>
            have tail := memberLists entries faithful.right.tail (by simp at short; omega) rest
            obtain ⟨named, valued, spaced, after, opened, name, colon, value, closed⟩ :=
              member_reads reads fuel entry faithful.left (show isBlank ',' = false from rfl) rfl
                (others.map read ++ '\x7d' :: rest)
                fun inner sound smaller => values inner sound (by simp at short; omega)
            simp only [List.map_append, List.map_cons, reads.marked, List.append_assoc,
              List.cons_append]
            simp only [parseMembers, opened, name, colon, value, closed, tail, Option.map_some]

/-- A spelling in characters is read as the value that it spells. -/
theorem loads_spelled (reads : Reads script read) {value : Json} {input : List α}
    (document : SpelledDocument script value input) (faithful : Faithful script read input) :
    loads (input.map read) = some value := by
  cases document with
  | @mk before content after spacesBefore spelled spacesAfter =>
      have fuel : content.length < ((before ++ (content ++ after)).map read).length + 1 := by
        simp only [List.length_append, List.length_map]
        omega
      have blankEnd : skipBlanks (after.map read) = [] := by
        have ended := @skipBlanks_append _ [] (blanks_read reads spacesAfter)
        rwa [List.append_nil] at ended
      have ends : Ends (after.map read) := by
        have ended := ends_of_blank (blanks_read reads spacesAfter)
          (show Ends [] by simp [Ends])
        rwa [List.append_nil] at ended
      have found := (parse_spelled reads _).1 spelled faithful.right.left fuel ends
      unfold loads
      rw [List.map_append, List.map_append] at found ⊢
      rw [skipBlanks_append (blanks_read reads spacesBefore), skipBlanks_spelled reads spelled,
        found]
      simp only [blankEnd, if_true]

end Reads

/-! ## What a writer emits is a spelling -/

/-- Characters, of which some are escaped. -/
def charScript (escaped : Char → Prop) : Script Char := ⟨fun char => char, point, escaped⟩

theorem reads_charScript {escaped : Char → Prop}
    (required : ∀ char, char = '"' ∨ char = '\\' ∨ char.toNat < 0x20 → escaped char)
    (small : ∀ char, escaped char → char.toNat < 0xD800) :
    Reads (charScript escaped) fun char => char :=
  ⟨fun _ => rfl, required, small⟩

theorem spaces_of_blank {blank : List Char} (blanks : Blank blank) :
    Spaces (charScript Escaped) blank := by
  intro char member
  refine ⟨char, ?_, rfl⟩
  rcases blanks char member with rfl | rfl <;> rfl

theorem spelledText_of_written {content : CodeText} {body : List Char}
    (written : WrittenText content body) : SpelledText (charScript Escaped) content body := by
  induction written with
  | nil => exact .nil
  | raw plain _ hypothesis => exact @SpelledText.plain _ (charScript Escaped) _ _ _ plain hypothesis
  | short escaped marked _ hypothesis =>
      exact @SpelledText.short _ (charScript Escaped) _ _ _ _ escaped marked hypothesis
  | code escaped value _ hypothesis =>
      exact @SpelledText.code _ (charScript Escaped) _ _ _ _ _ _ _ escaped value hypothesis

mutual

theorem spelled_of_written {value : Json} {content : List Char} :
    Written value content → Spelled (charScript Escaped) value content
  | .null => .null
  | .true => .true
  | .false => .false
  | .number chars parsed => by
      have spelled : Spelled (charScript Escaped) _ _ := .number chars parsed
      rwa [show (charScript Escaped).mark = id from rfl, List.map_id] at spelled
  | .string inner => .string (spelledText_of_written inner)
  | .emptyArray blanks => .emptyArray (spaces_of_blank blanks)
  | .array written => .array (spelledItems_of_written written)
  | .emptyObject blanks => .emptyObject (spaces_of_blank blanks)
  | .object written => .object (spelledMembers_of_written written)

theorem spelledItems_of_written {items : List Json} {content : List Char} :
    WrittenItems items content → SpelledItems (charScript Escaped) items content
  | .last before written after =>
      .last (spaces_of_blank before) (spelled_of_written written) (spaces_of_blank after)
  | .more before written after others =>
      .more (spaces_of_blank before) (spelled_of_written written) (spaces_of_blank after)
        (spelledItems_of_written others)

theorem spelledMember_of_written {member : CodeText × Json} {content : List Char} :
    WrittenMember member content → SpelledMember (charScript Escaped) member content
  | .mk before named middle inner written after =>
      .mk (spaces_of_blank before) (spelledText_of_written named) (spaces_of_blank middle)
        (spaces_of_blank inner) (spelled_of_written written) (spaces_of_blank after)

theorem spelledMembers_of_written {members : List (CodeText × Json)} {content : List Char} :
    WrittenMembers members content → SpelledMembers (charScript Escaped) members content
  | .last written => .last (spelledMember_of_written written)
  | .more written others =>
      .more (spelledMember_of_written written) (spelledMembers_of_written others)

end

/-- What a writer emits is read as the value that it wrote. -/
theorem loads_document {value : Json} {input : List Char} (document : Document value input) :
    loads input = some value := by
  have reads : Reads (charScript Escaped) fun char => char :=
    reads_charScript
      (fun _ special => special.imp_right fun later => later.imp_right fun control => .inl control)
      fun _ => escaped_small
  cases document with
  | mk before written after =>
      have read := loads_spelled reads
        (.mk (spaces_of_blank before) (spelled_of_written written) (spaces_of_blank after))
        fun _ _ => rfl
      rwa [List.map_id'] at read

/-! ## Spellings in code points -/

/-- Code points, of which those are escaped that JSON requires to be. -/
def pointScript : Script CodePoint :=
  ⟨point, id, fun sign => sign.val = 0x22 ∨ sign.val = 0x5C ∨ sign.val < 0x20⟩

/-- The character of a code point; a surrogate has none, and a replacement stands for it. -/
def charOf (sign : CodePoint) : Char :=
  if isSurrogate sign.val then '\uFFFD' else Char.ofNat sign.val

theorem point_scalar (char : Char) : ¬isSurrogate (point char).val := by
  have valid := char.valid
  unfold UInt32.isValidChar Nat.isValidChar at valid
  have same : (point char).val = char.val.toNat := rfl
  unfold isSurrogate
  omega

@[simp] theorem charOf_point (char : Char) : charOf (point char) = char := by
  unfold charOf
  rw [if_neg (point_scalar char)]
  exact Char.ofNat_toNat char

theorem point_charOf {sign : CodePoint} (scalar : ¬isSurrogate sign.val) :
    point (charOf sign) = sign := by
  have bound := sign.isLt
  have valid : Nat.isValidChar sign.val := by
    unfold isSurrogate at scalar
    unfold Nat.isValidChar
    omega
  unfold charOf
  rw [if_neg scalar]
  apply Fin.ext
  unfold point Char.ofNat
  rw [dif_pos valid]
  rfl

theorem reads_pointScript : Reads pointScript charOf := by
  refine ⟨charOf_point, ?_, ?_⟩
  · intro sign special
    by_cases surrogate : isSurrogate sign.val
    · unfold charOf at special
      rw [if_pos surrogate] at special
      exact absurd special (by decide)
    · have same : sign.val = (charOf sign).toNat :=
        congrArg Fin.val (point_charOf surrogate).symm
      rcases special with quote | backslash | control
      · exact .inl (by rw [same, quote]; rfl)
      · exact .inr (.inl (by rw [same, backslash]; rfl))
      · exact .inr (.inr (by rw [same]; exact control))
  · intro char escaped
    have same : (point char).val = char.toNat := rfl
    change (point char).val = 0x22 ∨ (point char).val = 0x5C ∨ (point char).val < 0x20 at escaped
    omega

theorem faithful_pointScript {signs : List CodePoint} :
    Faithful pointScript charOf signs ↔ ∀ sign ∈ signs, ¬isSurrogate sign.val := by
  constructor
  · intro faithful sign member
    have same : point (charOf sign) = sign := faithful sign member
    rw [← same]
    exact point_scalar _
  · intro scalar sign member
    exact point_charOf (scalar sign member)

section Signs

variable {Holds : CodePoint → Prop} (chars : ∀ char, Holds (point char))

include chars

theorem marks_hold (literal : List Char) : ∀ sign ∈ literal.map pointScript.mark, Holds sign := by
  intro sign member
  obtain ⟨char, _, rfl⟩ := List.mem_map.1 member
  exact chars char

theorem spaces_hold {blank : List CodePoint} (spaces : Spaces pointScript blank) :
    ∀ sign ∈ blank, Holds sign := by
  intro sign member
  obtain ⟨char, _, rfl⟩ := spaces sign member
  exact chars char

theorem spaced_hold {blank rest : List CodePoint} (spaces : Spaces pointScript blank) :
    (∀ sign ∈ blank ++ rest, Holds sign) ↔ ∀ sign ∈ rest, Holds sign := by
  rw [List.forall_mem_append]
  exact and_iff_right (spaces_hold chars spaces)

theorem bracketed_hold {first last : Char} {inner : List CodePoint} :
    (∀ sign ∈ pointScript.mark first :: (inner ++ [pointScript.mark last]), Holds sign) ↔
      ∀ sign ∈ inner, Holds sign := by
  rw [List.forall_mem_cons, List.forall_mem_append, List.forall_mem_singleton]
  exact (and_iff_right (chars first)).trans (and_iff_left (chars last))

omit chars in
theorem followed_hold {inner rest : List CodePoint} (holds : ∀ sign ∈ rest, Holds sign) :
    (∀ sign ∈ inner ++ rest, Holds sign) ↔ ∀ sign ∈ inner, Holds sign := by
  rw [List.forall_mem_append]
  exact and_iff_left holds

theorem spelledText_holds {content : CodeText} {body : List CodePoint}
    (spelled : SpelledText pointScript content body) :
    (∀ sign ∈ body, Holds sign) ↔ ∀ sign ∈ content, Holds sign := by
  have mark : ∀ char, Holds (pointScript.mark char) := chars
  induction spelled with
  | nil => exact Iff.rfl
  | @plain content body sign _ _ hypothesis =>
      rw [List.forall_mem_cons, List.forall_mem_cons]
      exact and_congr Iff.rfl hypothesis
  | short _ _ _ hypothesis =>
      simp only [List.forall_mem_cons, mark, chars, hypothesis, true_and]
  | code _ _ _ hypothesis =>
      simp only [List.forall_mem_cons, mark, chars, hypothesis, true_and]

mutual

/-- What holds of every character holds of the signs of a spelling where it holds of the
texts of the value. -/
theorem spelled_holds {value : Json} {content : List CodePoint} :
    Spelled pointScript value content →
      ((∀ sign ∈ content, Holds sign) ↔ ∀ text ∈ value.texts, ∀ sign ∈ text, Holds sign)
  | .null => iff_of_true (marks_hold chars _) (by simp [Json.texts])
  | .true => iff_of_true (marks_hold chars _) (by simp [Json.texts])
  | .false => iff_of_true (marks_hold chars _) (by simp [Json.texts])
  | .number _ _ => iff_of_true (marks_hold chars _) (by simp [Json.texts])
  | .string inner => by
      rw [bracketed_hold chars, Json.texts, List.forall_mem_singleton]
      exact spelledText_holds chars inner
  | .emptyArray spaces => by
      rw [bracketed_hold chars]
      exact iff_of_true (spaces_hold chars spaces) (by simp [Json.texts, itemTexts])
  | .array spelled => by
      rw [bracketed_hold chars]
      exact spelledItems_holds spelled
  | .emptyObject spaces => by
      rw [bracketed_hold chars]
      exact iff_of_true (spaces_hold chars spaces) (by simp [Json.texts, memberTexts])
  | .object spelled => by
      rw [bracketed_hold chars]
      exact spelledMembers_holds spelled

theorem spelledItems_holds {items : List Json} {content : List CodePoint} :
    SpelledItems pointScript items content →
      ((∀ sign ∈ content, Holds sign) ↔ ∀ text ∈ itemTexts items, ∀ sign ∈ text, Holds sign)
  | .last before spelled after => by
      rw [spaced_hold chars before, followed_hold (spaces_hold chars after), itemTexts, itemTexts,
        List.append_nil]
      exact spelled_holds spelled
  | .more before spelled after others => by
      rw [spaced_hold chars before, List.forall_mem_append, spaced_hold chars after,
        List.forall_mem_cons, itemTexts, List.forall_mem_append]
      exact and_congr (spelled_holds spelled)
        ((and_iff_right (chars ',')).trans (spelledItems_holds others))

theorem spelledMember_holds {member : CodeText × Json} {content : List CodePoint} :
    SpelledMember pointScript member content →
      ((∀ sign ∈ content, Holds sign) ↔
        ∀ text ∈ member.1 :: member.2.texts, ∀ sign ∈ text, Holds sign)
  | .mk before named middle inner spelled after => by
      rw [spaced_hold chars before, List.forall_mem_cons, List.forall_mem_append,
        List.forall_mem_cons, spaced_hold chars middle, List.forall_mem_cons,
        spaced_hold chars inner, followed_hold (spaces_hold chars after), List.forall_mem_cons]
      refine (and_iff_right (chars '"')).trans (and_congr (spelledText_holds chars named) ?_)
      exact (and_iff_right (chars '"')).trans
        ((and_iff_right (chars ':')).trans (spelled_holds spelled))

theorem spelledMembers_holds {members : List (CodeText × Json)} {content : List CodePoint} :
    SpelledMembers pointScript members content →
      ((∀ sign ∈ content, Holds sign) ↔ ∀ text ∈ memberTexts members, ∀ sign ∈ text, Holds sign)
  | .last spelled => by
      rw [memberTexts, memberTexts, List.append_nil]
      exact spelledMember_holds spelled
  | .more spelled others => by
      rw [List.forall_mem_append, List.forall_mem_cons, memberTexts, List.forall_mem_append]
      exact and_congr (spelledMember_holds spelled)
        ((and_iff_right (chars ',')).trans (spelledMembers_holds others))

end

end Signs

/-! ## A writer without blanks -/

def hexLetter (digit : Nat) : Char := Char.ofNat (if digit < 10 then 48 + digit else 87 + digit)

def writeSign (sign : CodePoint) : CodeText :=
  if sign.val = 0x22 ∨ sign.val = 0x5C then [point '\\', sign]
  else if sign.val < 0x20 then
    ['\\', 'u', '0', '0', hexLetter (sign.val / 16), hexLetter (sign.val % 16)].map point
  else [sign]

def compactText (content : CodeText) : CodeText := content.flatMap writeSign

section Compact

variable (literal : Number → List Char)

mutual

/-- The spelling of a value with these literals for its numbers. -/
def compact : Json → CodeText
  | .null => ['n', 'u', 'l', 'l'].map point
  | .boolean true => ['t', 'r', 'u', 'e'].map point
  | .boolean false => ['f', 'a', 'l', 's', 'e'].map point
  | .number value => (literal value).map point
  | .string content => point '"' :: (compactText content ++ [point '"'])
  | .array items => point '[' :: (compactItems items ++ [point ']'])
  | .object members => point '\x7b' :: (compactMembers members ++ [point '\x7d'])

def compactItems : List Json → CodeText
  | [] => []
  | item :: rest =>
      match rest with
      | [] => compact item
      | _ :: _ => compact item ++ point ',' :: compactItems rest

def compactMembers : List (CodeText × Json) → CodeText
  | [] => []
  | (name, value) :: rest =>
      match rest with
      | [] => point '"' :: (compactText name ++ point '"' :: point ':' :: compact value)
      | _ :: _ =>
          (point '"' :: (compactText name ++ point '"' :: point ':' :: compact value)) ++
            point ',' :: compactMembers rest

end

mutual

def Json.numbers : Json → List Number
  | .number value => [value]
  | .array items => itemNumbers items
  | .object members => memberNumbers members
  | _ => []

def itemNumbers : List Json → List Number
  | [] => []
  | item :: rest => item.numbers ++ itemNumbers rest

def memberNumbers : List (CodeText × Json) → List Number
  | [] => []
  | (_, value) :: rest => value.numbers ++ memberNumbers rest

end

end Compact

/-- A sign that is written in front of a spelled text. -/
theorem spelledText_writeSign (sign : CodePoint) {content body : CodeText}
    (spelled : SpelledText pointScript content body) :
    SpelledText pointScript (sign :: content) (writeSign sign ++ body) := by
  have escape : ∀ value < 32, hexQuad '0' '0' (hexLetter (value / 16)) (hexLetter (value % 16)) =
      some value := by decide
  unfold writeSign
  split
  · next mark =>
      rcases mark with quote | backslash
      · obtain rfl : sign = point '"' := Fin.ext quote
        exact @SpelledText.short _ pointScript _ _ '"' '"' (.inl rfl) rfl spelled
      · obtain rfl : sign = point '\\' := Fin.ext backslash
        exact @SpelledText.short _ pointScript _ _ '\\' '\\' (.inr (.inl rfl)) rfl spelled
  · next unmarked =>
      split
      · next control =>
          have scalar : ¬isSurrogate sign.val := by
            unfold isSurrogate
            omega
          have same := point_charOf scalar
          have value : (charOf sign).toNat = sign.val := congrArg Fin.val same
          have needed : pointScript.escaped (pointScript.mark (charOf sign)) :=
            .inr (.inr (by
              change (point (charOf sign)).val < 0x20
              rw [same]
              exact control))
          have coded := @SpelledText.code _ pointScript _ _ _ _ _ _ _ needed
            ((escape sign.val control).trans (congrArg some value.symm)) spelled
          rwa [same] at coded
      · next plain =>
          refine @SpelledText.plain _ pointScript _ _ sign ?_ spelled
          rintro (quote | backslash | control)
          · exact unmarked (.inl quote)
          · exact unmarked (.inr backslash)
          · exact plain control

theorem spelledText_compact (content : CodeText) :
    SpelledText pointScript content (compactText content) := by
  induction content with
  | nil => exact .nil
  | cons sign rest hypothesis => exact spelledText_writeSign sign hypothesis

theorem spaces_nil : Spaces pointScript [] := by
  intro sign member
  cases member

theorem spelledMember_compact (name : CodeText) {value : Json} {content : CodeText}
    (spelled : Spelled pointScript value content) :
    SpelledMember pointScript (name, value)
      (point '"' :: (compactText name ++ point '"' :: point ':' :: content)) := by
  have entry := @SpelledMember.mk _ pointScript _ _ _ _ _ _ _ _ spaces_nil
    (spelledText_compact name) spaces_nil spaces_nil spelled spaces_nil
  rwa [List.append_nil] at entry

/-- The literal is one of the number. -/
def Denotes (literal : Number → List Char) (number : Number) : Prop :=
  (∀ char ∈ literal number, isNumberChar char = true) ∧ parseNumber (literal number) = some number

section Compact

variable {literal : Number → List Char}

mutual

/-- A value has a spelling where its numbers have literals. -/
theorem spelled_compact : ∀ value : Json, (∀ number ∈ value.numbers, Denotes literal number) →
    Spelled pointScript value (compact literal value)
  | .null, _ => .null
  | .boolean true, _ => .true
  | .boolean false, _ => .false
  | .number value, denoted =>
      have spelling := denoted value (List.mem_singleton_self value)
      .number spelling.1 spelling.2
  | .string content, _ => .string (spelledText_compact content)
  | .array items, denoted => by
      by_cases none : items = []
      · rw [none]
        exact .emptyArray spaces_nil
      · exact .array (spelledItems_compact items none denoted)
  | .object members, denoted => by
      by_cases none : members = []
      · rw [none]
        exact .emptyObject spaces_nil
      · exact .object (spelledMembers_compact members none denoted)

theorem spelledItems_compact : ∀ items : List Json, items ≠ [] →
    (∀ number ∈ itemNumbers items, Denotes literal number) →
      SpelledItems pointScript items (compactItems literal items)
  | [], filled, _ => absurd rfl filled
  | item :: rest, _, denoted => by
      have first := spelled_compact item fun number member =>
        denoted number (List.mem_append_left _ member)
      cases rest with
      | nil =>
          have single := SpelledItems.last spaces_nil first spaces_nil
          rwa [List.append_nil] at single
      | cons next later =>
          exact .more spaces_nil first spaces_nil
            (spelledItems_compact (next :: later) (List.cons_ne_nil _ _) fun number member =>
              denoted number (List.mem_append_right _ member))

theorem spelledMembers_compact : ∀ members : List (CodeText × Json), members ≠ [] →
    (∀ number ∈ memberNumbers members, Denotes literal number) →
      SpelledMembers pointScript members (compactMembers literal members)
  | [], filled, _ => absurd rfl filled
  | (name, value) :: rest, _, denoted => by
      have first := spelledMember_compact name (spelled_compact value
        fun number member => denoted number (List.mem_append_left _ member))
      cases rest with
      | nil => exact .last first
      | cons next later =>
          exact .more first
            (spelledMembers_compact (next :: later) (List.cons_ne_nil _ _) fun number member =>
              denoted number (List.mem_append_right _ member))

end

theorem spelledDocument_compact {value : Json}
    (denoted : ∀ number ∈ value.numbers, Denotes literal number) :
    SpelledDocument pointScript value (compact literal value) := by
  have document := SpelledDocument.mk spaces_nil (spelled_compact value denoted) spaces_nil
  rwa [List.append_nil] at document

end Compact

end OnecRuntime.Library
