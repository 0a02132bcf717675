import Mathlib.Data.List.TakeWhile
import OnecRuntime.Library.Spelling

/-!
# Cuts of JSON texts

What a reader takes from an input it takes from every longer input, except that more signs can
follow a number. A text whose value is an object is therefore no JSON text any more when a part of
its end is cut off.
-/

namespace OnecRuntime.Library

/-! ## Strings and blanks -/

theorem scanString_extends {input after : List Char} {pieces : List Piece}
    (scanned : scanString input = some (pieces, after)) (more : List Char) :
    scanString (input ++ more) = some (pieces, after ++ more) := by
  fun_induction scanString input generalizing pieces after with
  | case1 => cases scanned
  | case2 rest =>
      cases scanned
      rfl
  | case3 a b c d rest value inner last scan found hypothesis =>
      cases scanned
      simp only [List.cons_append, scanString, found, hypothesis scan]
  | case4 => cases scanned
  | case5 mark rest other char inner last scan escape hypothesis =>
      cases scanned
      have apart : mark ≠ 'u' := by
        rintro rfl
        cases escape
      rw [List.cons_append, List.cons_append, scanString]
      · rw [escape, hypothesis scan]
      · exact fun _ _ _ _ _ same => absurd same apart
  | case6 => cases scanned
  | case7 => cases scanned
  | case8 char rest quote long short plain hypothesis =>
      obtain ⟨⟨inner, last⟩, scan, same⟩ := Option.map_eq_some_iff.1 scanned
      cases same
      have solid : char ≠ '\\' := fun same => plain (.inr same)
      rw [List.cons_append, scanString]
      · rw [if_neg plain, hypothesis scan]
        rfl
      · exact quote
      · exact fun _ _ _ _ _ same => absurd same solid
      · exact fun _ _ same => absurd same solid

theorem parseString_extends {input after : List Char} {content : CodeText}
    (read : parseString input = some (content, after)) (more : List Char) :
    parseString (input ++ more) = some (content, after ++ more) := by
  unfold parseString at read ⊢
  obtain ⟨⟨pieces, rest⟩, scanned, same⟩ := Option.map_eq_some_iff.1 read
  cases same
  rw [scanString_extends scanned more]
  rfl

theorem skipBlanks_extends {input rest : List Char} {char : Char}
    (skipped : skipBlanks input = char :: rest) (more : List Char) :
    skipBlanks (input ++ more) = char :: (rest ++ more) := by
  unfold skipBlanks at skipped ⊢
  rw [List.dropWhile_append, skipped]
  rfl

/-! ## What a reader has read -/

/-- A value at the head of an input and what follows it, by the kind of the value. -/
inductive Parsed (fuel : Nat) : List Char → Json → List Char → Prop
  | string {rest content after} (read : parseString rest = some (content, after)) :
      Parsed fuel ('"' :: rest) (.string content) after
  | emptyArray {rest after} (closed : skipBlanks rest = ']' :: after) :
      Parsed fuel ('[' :: rest) (.array []) after
  | array {rest items after} (opened : ∀ after, skipBlanks rest ≠ ']' :: after)
      (read : parseItems fuel rest = some (items, after)) :
      Parsed fuel ('[' :: rest) (.array items) after
  | emptyObject {rest after} (closed : skipBlanks rest = '\x7d' :: after) :
      Parsed fuel ('\x7b' :: rest) (.object []) after
  | object {rest members after} (read : parseMembers fuel rest = some (members, after)) :
      Parsed fuel ('\x7b' :: rest) (.object members) after
  | null {after} : Parsed fuel ('n' :: 'u' :: 'l' :: 'l' :: after) .null after
  | true {after} : Parsed fuel ('t' :: 'r' :: 'u' :: 'e' :: after) (.boolean true) after
  | false {after} : Parsed fuel ('f' :: 'a' :: 'l' :: 's' :: 'e' :: after) (.boolean false) after
  | number {input value} (read : parseNumber (input.takeWhile isNumberChar) = some value) :
      Parsed fuel input (.number value) (input.dropWhile isNumberChar)

theorem parsed_of_parseValue {fuel : Nat} {input after : List Char} {value : Json}
    (read : parseValue (fuel + 1) input = some (value, after)) : Parsed fuel input value after := by
  unfold parseValue at read
  split at read
  · cases read
  · cases read
  · next rest _ =>
      obtain ⟨⟨content, last⟩, found, same⟩ := Option.map_eq_some_iff.1 read
      cases same
      exact .string found
  · next less rest same =>
      cases same
      split at read
      · next last closed =>
          cases read
          exact .emptyArray closed
      · next other =>
          obtain ⟨⟨items, last⟩, found, same⟩ := Option.map_eq_some_iff.1 read
          cases same
          exact .array other found
  · next less rest same =>
      cases same
      split at read
      · next last closed =>
          cases read
          exact .emptyObject closed
      · obtain ⟨⟨members, last⟩, found, same⟩ := Option.map_eq_some_iff.1 read
        cases same
        exact .object found
  · cases read
    exact .null
  · cases read
    exact .true
  · cases read
    exact .false
  · obtain ⟨value, found, same⟩ := Option.map_eq_some_iff.1 read
    cases same
    exact .number found

theorem parseItems_cases {fuel : Nat} {input after : List Char} {items : List Json}
    (read : parseItems (fuel + 1) input = some (items, after)) :
    ∃ item rest, parseValue fuel (skipBlanks input) = some (item, rest) ∧
      ((∃ later others, skipBlanks rest = ',' :: later ∧
          parseItems fuel later = some (others, after) ∧ items = item :: others) ∨
        skipBlanks rest = ']' :: after ∧ items = [item]) := by
  rw [parseItems] at read
  split at read
  · cases read
  · next item rest found =>
      refine ⟨item, rest, found, ?_⟩
      split at read
      · next later comma =>
          obtain ⟨⟨others, last⟩, tail, same⟩ := Option.map_eq_some_iff.1 read
          cases same
          exact .inl ⟨later, others, comma, tail, rfl⟩
      · next last closed =>
          cases read
          exact .inr ⟨closed, rfl⟩
      · cases read

theorem parseMembers_cases {fuel : Nat} {input after : List Char} {members : List (CodeText × Json)}
    (read : parseMembers (fuel + 1) input = some (members, after)) :
    ∃ named name unvalued valued value rest, skipBlanks input = '"' :: named ∧
      parseString named = some (name, unvalued) ∧ skipBlanks unvalued = ':' :: valued ∧
      parseValue fuel (skipBlanks valued) = some (value, rest) ∧
      ((∃ later others, skipBlanks rest = ',' :: later ∧
          parseMembers fuel later = some (others, after) ∧ members = (name, value) :: others) ∨
        skipBlanks rest = '\x7d' :: after ∧ members = [(name, value)]) := by
  rw [parseMembers] at read
  split at read
  · next named quote =>
      split at read
      · cases read
      · next name unvalued string =>
          split at read
          · next valued colon =>
              split at read
              · cases read
              · next value rest found =>
                  refine ⟨named, name, unvalued, valued, value, rest, quote, string, colon, found, ?_⟩
                  split at read
                  · next later comma =>
                      obtain ⟨⟨others, last⟩, tail, same⟩ := Option.map_eq_some_iff.1 read
                      cases same
                      exact .inl ⟨later, others, comma, tail, rfl⟩
                  · next last closed =>
                      cases read
                      exact .inr ⟨closed, rfl⟩
                  · cases read
          · cases read
  · cases read

/-! ## Longer inputs -/

/-- More input does not change what is read up to a sign after it, or up to a closing bracket. -/
theorem parse_extends (fuel : Nat) :
    (∀ {input value after}, parseValue fuel input = some (value, after) →
      after ≠ [] ∨ input.head? = some '\x7b' → ∀ extra more,
        parseValue (fuel + extra) (input ++ more) = some (value, after ++ more)) ∧
    (∀ {input items after}, parseItems fuel input = some (items, after) → ∀ extra more,
      parseItems (fuel + extra) (input ++ more) = some (items, after ++ more)) ∧
    (∀ {input members after}, parseMembers fuel input = some (members, after) → ∀ extra more,
      parseMembers (fuel + extra) (input ++ more) = some (members, after ++ more)) := by
  have kept : ∀ {rest later : List Char} {char : Char}, skipBlanks rest = char :: later →
      rest ≠ [] := by
    rintro _ later char skipped rfl
    cases skipped
  induction fuel with
  | zero => exact ⟨nofun, nofun, nofun⟩
  | succ fuel hypothesis =>
      obtain ⟨values, itemLists, memberLists⟩ := hypothesis
      have head : ∀ {input rest : List Char} {value : Json},
          parseValue fuel (skipBlanks input) = some (value, rest) →
          ∃ char later, skipBlanks input = char :: later := by
        intro input rest value found
        cases skipped : skipBlanks input with
        | nil =>
            rw [skipped] at found
            cases fuel <;> cases found
        | cons char later => exact ⟨char, later, rfl⟩
      have inner : ∀ {input rest later : List Char} {value : Json} {char : Char},
          parseValue fuel (skipBlanks input) = some (value, rest) →
          skipBlanks rest = char :: later → ∀ extra more,
            parseValue (fuel + extra) (skipBlanks (input ++ more)) =
              some (value, rest ++ more) := by
        intro input rest later value char found skipped extra more
        obtain ⟨first, others, started⟩ := head found
        rw [started] at found
        rw [skipBlanks_extends started]
        exact values found (.inl (kept skipped)) extra more
      refine ⟨?_, ?_, ?_⟩
      · intro input value after read bounded extra more
        rw [Nat.add_right_comm]
        have parsed := parsed_of_parseValue read
        cases parsed with
        | string found =>
            simp only [List.cons_append, parseValue, parseString_extends found more,
              Option.map_some]
        | emptyArray closed =>
            simp only [List.cons_append, parseValue, skipBlanks_extends closed more]
        | @array rest items _ opened found =>
            have entries := itemLists found extra more
            cases fuel with
            | zero => cases found
            | succ fuel =>
                obtain ⟨item, _, first, _⟩ := parseItems_cases found
                cases skipped : skipBlanks rest with
                | nil =>
                    rw [skipped] at first
                    cases fuel <;> cases first
                | cons char later =>
                    have occupied : char ≠ ']' := by
                      rintro rfl
                      exact opened later skipped
                    rw [List.cons_append,
                      parseValue_array (skipBlanks_extends skipped more) occupied, entries]
                    rfl
        | emptyObject closed =>
            simp only [List.cons_append, parseValue, skipBlanks_extends closed more]
        | @object rest members _ found =>
            have entries := memberLists found extra more
            cases fuel with
            | zero => cases found
            | succ fuel =>
                obtain ⟨named, _, _, _, _, _, quote, _⟩ := parseMembers_cases found
                rw [List.cons_append,
                  parseValue_object (skipBlanks_extends quote more) (by decide), entries]
                rfl
        | null => simp [parseValue]
        | true => simp [parseValue]
        | false => simp [parseValue]
        | @number _ number found =>
            have nonempty : input.dropWhile isNumberChar ≠ [] := by
              rcases bounded with left | brace
              · exact left
              · intro nothing
                obtain ⟨rest, rfl⟩ := List.head?_eq_some_iff.1 brace
                cases nothing
            have ends : Ends (input.dropWhile isNumberChar ++ more) := by
              intro char first
              rw [List.head?_append_of_ne_nil _ nonempty] at first
              have stopped := List.head?_dropWhile_not isNumberChar input
              rw [Option.mem_def.1 first] at stopped
              exact stopped
            have chars : ∀ char ∈ input.takeWhile isNumberChar, isNumberChar char = true :=
              fun char member => List.mem_takeWhile_imp member
            have whole := parseValue_number chars found ends (fuel + extra)
            rwa [← List.append_assoc, List.takeWhile_append_dropWhile] at whole
      · intro input items after read extra more
        obtain ⟨item, rest, found, ⟨later, others, comma, tail, rfl⟩ | ⟨closed, rfl⟩⟩ :=
          parseItems_cases read
        · rw [Nat.add_right_comm, parseItems, inner found comma extra more]
          simp only [skipBlanks_extends comma more, itemLists tail extra more, Option.map_some]
        · rw [Nat.add_right_comm, parseItems, inner found closed extra more]
          simp only [skipBlanks_extends closed more]
      · intro input members after read extra more
        obtain ⟨named, name, unvalued, valued, value, rest, quote, string, colon, found,
          ⟨later, others, comma, tail, rfl⟩ | ⟨closed, rfl⟩⟩ := parseMembers_cases read
        · simp only [Nat.add_right_comm, parseMembers, skipBlanks_extends quote more,
            parseString_extends string more, skipBlanks_extends colon more,
            inner found comma extra more, skipBlanks_extends comma more,
            memberLists tail extra more, Option.map_some]
        · simp only [Nat.add_right_comm, parseMembers, skipBlanks_extends quote more,
            parseString_extends string more, skipBlanks_extends colon more,
            inner found closed extra more, skipBlanks_extends closed more]

/-- The spelling of an object is read by no reader before it is whole. -/
theorem loads_cut {α : Type} {script : Script α} {read : α → Char} (reads : Reads script read)
    {members : List (CodeText × Json)} {content : List α}
    (spelled : Spelled script (.object members) content) (faithful : Faithful script read content)
    {part rest : List Char} (whole : content.map read = part ++ rest) (cut : rest ≠ []) :
    loads part = none := by
  have brace : ∃ inner, content.map read = '\x7b' :: inner := by
    cases spelled <;> exact ⟨_, congrArg (· :: _) (reads.marked '\x7b')⟩
  obtain ⟨inner, opened⟩ := brace
  cases part with
  | nil => rfl
  | cons char others =>
      obtain rfl : '\x7b' = char := by
        rw [opened] at whole
        exact (List.cons.inj whole).1
      unfold loads
      rw [skipBlanks_of_solid (by decide)]
      split
      · next value after found =>
          have longer := (parse_extends _).1 found (.inr rfl) (content.length + 1) rest
          have exact := (parse_spelled reads _).1 spelled faithful (Nat.lt_of_lt_of_le
            (Nat.lt_succ_self content.length) (Nat.le_add_left _ (('\x7b' :: others).length + 1)))
            (show Ends [] from nofun)
          rw [List.append_nil, whole, longer] at exact
          have ended := (Prod.mk.inj (Option.some.inj exact)).2
          exact absurd (List.append_eq_nil_iff.1 ended).2 cut
      · rfl

end OnecRuntime.Library
