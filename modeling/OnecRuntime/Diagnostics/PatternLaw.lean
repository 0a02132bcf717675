import Mathlib.Data.List.TakeWhile
import OnecRuntime.Diagnostics.Patterns

/-!
# What the patterns take

Boundaries and categories take one line; a locator may go on over line feeds, but behind these
stands what begins neither of them. A locator begins with a brace, a category with a bracket and a
boundary with a letter.
-/

namespace OnecRuntime.Diagnostics

open OnecRuntime.Library
open OnecRuntime.Bsl (identifierStart identifierPart isSpace)
open OnecRuntime.SourceMaps (Text)

/-! ## Parts of patterns -/

theorem free_of_all {test : Char → Bool} (feed : test '\n' = false) {read : Text}
    (all : ∀ char ∈ read, test char = true) : '\n' ∉ read := by
  intro among
  exact absurd (all _ among) (by rw [feed]; exact Bool.false_ne_true)

theorem free_takeWhile {test : Char → Bool} (feed : test '\n' = false) (text : Text) :
    '\n' ∉ text.takeWhile test :=
  free_of_all feed fun _ among => List.mem_takeWhile_imp among

theorem tabs_skipped (text : Text) : text = text.takeWhile isTab ++ skipTabs text :=
  List.takeWhile_append_dropWhile.symm

/-- What an item takes has no line feed. -/
def TakesPlain (item : Text → Option (Text × Text)) : Prop :=
  ∀ text read left, item text = some (read, left) → text = read ++ left ∧ '\n' ∉ read

theorem takeIdentifier_plain : TakesPlain takeIdentifier := by
  intro text read left taken
  cases text with
  | nil => cases taken
  | cons first rest =>
    obtain ⟨starts, same⟩ := Option.ite_none_right_eq_some.1 taken
    cases same
    refine ⟨congrArg _ List.takeWhile_append_dropWhile.symm, List.not_mem_cons_of_ne_of_not_mem ?_ ?_⟩
    · rintro rfl
      exact absurd starts (by decide)
    · exact free_takeWhile (by decide) rest

theorem takeDigits_plain : TakesPlain takeDigits := by
  intro text read left taken
  obtain ⟨-, same⟩ := Option.ite_none_right_eq_some.1 taken
  cases same
  exact ⟨List.takeWhile_append_dropWhile.symm, free_takeWhile (by decide) text⟩

theorem repeated_plain {item : Text → Option (Text × Text)} (plain : TakesPlain item) (fuel : Nat)
    (text : Text) : text = (repeated item fuel text).1 ++ (repeated item fuel text).2 ∧
      '\n' ∉ (repeated item fuel text).1 := by
  induction fuel generalizing text with
  | zero => exact ⟨rfl, List.not_mem_nil⟩
  | succ fuel follows =>
    rw [repeated]
    cases taken : item text with
    | none => exact ⟨rfl, List.not_mem_nil⟩
    | some both =>
      obtain ⟨read, left⟩ := both
      obtain ⟨rfl, free⟩ := plain _ _ _ taken
      obtain ⟨same, more⟩ := follows left
      refine ⟨?_, List.not_mem_append free more⟩
      show _ = (read ++ _) ++ _
      rw [List.append_assoc, ← same]

theorem dottedName_plain : TakesPlain dottedName := by
  intro text read left taken
  unfold dottedName at taken
  split at taken
  · obtain ⟨⟨name, behind⟩, found, same⟩ := Option.bind_eq_some_iff.1 taken
    obtain ⟨rfl, free⟩ := takeIdentifier_plain _ _ _ found
    cases same
    exact ⟨rfl, List.not_mem_cons_of_ne_of_not_mem (by decide) free⟩
  · cases taken

theorem anotherName_plain : TakesPlain anotherName := by
  intro text read left taken
  have tabs := tabs_skipped text
  unfold anotherName at taken
  split at taken
  · next rest comma =>
    obtain ⟨⟨name, behind⟩, found, same⟩ := Option.bind_eq_some_iff.1 taken
    obtain ⟨named, free⟩ := takeIdentifier_plain _ _ _ found
    cases same
    rw [comma] at tabs
    refine ⟨?_, List.not_mem_append (List.not_mem_append (free_takeWhile (by decide) _) ?_) free⟩
    · rw [List.append_assoc, List.append_assoc, List.cons_append, ← named, ← tabs_skipped]
      exact tabs
    · exact List.not_mem_cons_of_ne_of_not_mem (by decide) (free_takeWhile (by decide) _)
  · cases taken

theorem takeModule_plain : TakesPlain takeModule := by
  intro text read left taken
  obtain ⟨⟨name, behind⟩, found, same⟩ := Option.bind_eq_some_iff.1 taken
  obtain ⟨rfl, free⟩ := takeIdentifier_plain _ _ _ found
  obtain ⟨split, more⟩ := repeated_plain dottedName_plain behind.length behind
  cases same
  refine ⟨?_, List.not_mem_append free more⟩
  rw [List.append_assoc, ← split]

variable {text left : Text}

theorem takeWord_plain {word : Text} (taken : takeWord word text = some left)
    (letters : ∀ letter ∈ word, ignoringCase letter '\n' = false) :
    ∃ read, text = read ++ left ∧ '\n' ∉ read ∧ List.Forall₂ (ignoringCase · ·) word read := by
  induction word generalizing text with
  | nil =>
    cases taken
    exact ⟨[], rfl, List.not_mem_nil, .nil⟩
  | cons letter word follows =>
    obtain ⟨here, there⟩ := List.forall_mem_cons.1 letters
    cases text with
    | nil => cases taken
    | cons char rest =>
      obtain ⟨same, taken⟩ := Option.ite_none_right_eq_some.1 taken
      obtain ⟨read, rfl, free, spelled⟩ := follows taken there
      refine ⟨char :: read, rfl, List.not_mem_cons_of_ne_of_not_mem ?_ free, .cons same spelled⟩
      rintro rfl
      rw [here] at same
      exact Bool.false_ne_true same

theorem breaks_feed {read : Text} (free : '\n' ∉ read) : Breaks (· = []) (read ++ ['\n']) := by
  refine breaks_append free fun before after same => ?_
  cases before with
  | nil => exact (List.cons.inj same).2.symm
  | cons char before => exact absurd (List.cons.inj same).2 (by simp)

theorem endOfLine_takes (taken : endOfLine text = some left) :
    ∃ read, text = read ++ left ∧ Breaks (· = []) read := by
  unfold endOfLine at taken
  split at taken
  · cases taken
    exact ⟨[], rfl, breaks_free List.not_mem_nil⟩
  · cases taken
    exact ⟨['\n'], rfl, breaks_feed List.not_mem_nil⟩
  · cases taken
    exact ⟨['\r', '\n'], rfl, breaks_feed (by decide : '\n' ∉ ['\r'])⟩
  · cases taken

/-! ## Boundaries and categories -/

/-- The first character of a text behind blanks and tabs. -/
def firstInk (text : Text) : Option Char := (skipTabs text).head?

theorem lowered_eq {char letter : Char} (same : lowered char = letter) :
    char = letter ∨ char.toNat + 32 = letter.toNat := by
  unfold lowered at same
  split at same
  · next upper =>
    refine .inr ?_
    have bound : char.toNat ≤ 1071 := by
      rcases upper with ⟨-, above⟩ | ⟨-, above⟩
      · exact Nat.le_trans above (by decide)
      · exact above
    have valid : (char.toNat + 32).isValidChar := .inl (by omega)
    rw [← same, Char.ofNat, dif_pos valid]
    rfl
  · exact .inl same

/-- The letters that the first one of a boundary may be. -/
def boundaryLetters : List Char := ['п', 'П', 'R', 'r']

theorem boundary_letter {letter char : Char} (first : letter = 'п' ∨ letter = 'R')
    (same : ignoringCase letter char = true) : char ∈ boundaryLetters := by
  have known (other : Char) (place : char.toNat = other.toNat) : char = other := by
    rw [← Char.ofNat_toNat char, place, Char.ofNat_toNat]
  rcases first with rfl | rfl
  · rcases of_decide_eq_true same with lower | odd
    · rcases lowered_eq lower with rfl | place
      · decide
      · obtain rfl := known 'П' (by change char.toNat + 32 = 0x43F at place; show _ = 0x41F; omega)
        decide
    · exact absurd odd (by simp [lowered])
  · rcases of_decide_eq_true same with lower | odd
    · rcases lowered_eq lower with rfl | place
      · decide
      · obtain rfl := known 'R' (by change char.toNat + 32 = 0x72 at place; show _ = 0x52; omega)
        decide
    · exact absurd odd (by simp [lowered])

/-- The words of a boundary are of one line and begin with one of its letters. -/
theorem boundary_word {behind : Text}
    (worded : (takeWord "по причине:".toList text <|> takeWord "Reason:".toList text) = some behind) :
    ∃ first read, text = first :: read ++ behind ∧ '\n' ∉ first :: read ∧
      first ∈ boundaryLetters := by
  have word (letter : Char) (word : Text) (first : letter = 'п' ∨ letter = 'R')
      (free : ∀ other ∈ letter :: word, ignoringCase other '\n' = false)
      (taken : takeWord (letter :: word) text = some behind) :
      ∃ first read, text = first :: read ++ behind ∧ '\n' ∉ first :: read ∧
        first ∈ boundaryLetters := by
    obtain ⟨read, rfl, clean, spelled⟩ := takeWord_plain taken free
    cases spelled with
    | @cons _ char _ rest same _ =>
      exact ⟨char, rest, rfl, clean, boundary_letter first same⟩
  cases russian : takeWord "по причине:".toList text with
  | some left =>
    rw [russian] at worded
    cases worded
    exact word _ _ (.inl rfl) (List.forall_iff_forall_mem.1 (by decide)) russian
  | none =>
    rw [russian] at worded
    exact word _ _ (.inr rfl) (List.forall_iff_forall_mem.1 (by decide)) worded

theorem causeBoundary_single : SingleLine causeBoundary := by
  intro text value left taken
  obtain ⟨behind, worded, taken⟩ := Option.bind_eq_some_iff.1 taken
  obtain ⟨after, ended, same⟩ := Option.bind_eq_some_iff.1 taken
  cases same
  obtain ⟨final, split, breaks⟩ := endOfLine_takes ended
  obtain ⟨first, read, inked, free, -⟩ := boundary_word worded
  refine ⟨text.takeWhile isTab ++ (first :: read ++ (behind.takeWhile isTab ++ final)), ?_, ?_, ?_⟩
  · rw [List.append_assoc, List.append_assoc, List.append_assoc, ← split, ← tabs_skipped, ← inked,
      ← tabs_skipped]
  · simp
  · exact breaks_append (free_takeWhile (by decide) _) (breaks_append free
      (breaks_append (free_takeWhile (by decide) _) breaks))

theorem causeBoundary_ink {value : Unit}
    (taken : causeBoundary text = some (value, left)) : ∃ char ∈ boundaryLetters,
      firstInk text = some char := by
  obtain ⟨behind, worded, -⟩ := Option.bind_eq_some_iff.1 taken
  obtain ⟨first, read, inked, -, letter⟩ := boundary_word worded
  refine ⟨first, letter, ?_⟩
  rw [firstInk, inked]
  rfl

theorem categoryBlock_takes {value : Text} (taken : categoryBlock text = some (value, left)) :
    ∃ read, text = text.takeWhile isTab ++ '[' :: read ++ left ∧ Breaks (· = []) ('[' :: read) := by
  have tabs := tabs_skipped text
  unfold categoryBlock at taken
  split at taken
  · next rest bracket =>
    obtain ⟨⟨name, behind⟩, found, taken⟩ := Option.bind_eq_some_iff.1 taken
    obtain ⟨named, free⟩ := takeIdentifier_plain _ _ _ found
    obtain ⟨split_names, more⟩ := repeated_plain anotherName_plain behind.length behind
    dsimp only at taken
    split at taken
    · next ends closes =>
      obtain ⟨after, ended, same⟩ := Option.bind_eq_some_iff.1 taken
      cases same
      obtain ⟨final, split_end, breaks⟩ := endOfLine_takes ended
      rw [closes] at split_names
      refine ⟨name ++ ((repeated anotherName behind.length behind).1 ++
        (']' :: (ends.takeWhile isTab ++ final))), ?_, ?_⟩
      · rw [bracket, named, split_names] at tabs
        simp only [List.append_assoc, List.cons_append] at tabs ⊢
        rw [← split_end, ← tabs_skipped]
        exact tabs
      · refine breaks_append (by decide : '\n' ∉ ['[']) (breaks_append free (breaks_append more ?_))
        exact breaks_append (by decide : '\n' ∉ [']']) (breaks_append (free_takeWhile (by decide) _) breaks)
    · cases taken
  · cases taken

theorem categoryBlock_single : SingleLine categoryBlock := by
  intro text value left taken
  obtain ⟨read, same, breaks⟩ := categoryBlock_takes taken
  refine ⟨text.takeWhile isTab ++ '[' :: read, same, by simp, ?_⟩
  exact breaks_append (free_takeWhile (by decide) _) breaks

theorem categoryBlock_ink {value : Text} (taken : categoryBlock text = some (value, left)) :
    firstInk text = some '[' := by
  unfold categoryBlock at taken
  split at taken
  · next rest bracket => rw [firstInk, bracket, List.head?_cons]
  · cases taken

theorem blockStart_eq_some {value : Unit} :
    blockStart text = some (value, left) ↔ text = '{' :: left := by
  unfold blockStart
  split
  · next rest =>
    constructor
    · intro same
      cases same
      rfl
    · intro same
      cases same
      rfl
  · next other => exact ⟨nofun, fun same => absurd same (other _)⟩

theorem blockStart_consumes : Consumes blockStart := by
  intro text value left taken
  exact ⟨['{'], blockStart_eq_some.1 taken, List.cons_ne_nil _ _⟩

/-! ## Locators -/

/-- What may stand in a locator behind a line feed and blanks. -/
def isCoordinateInk (char : Char) : Bool := isSpace char || char = ',' || char.isDigit

/-- Behind a line feed a locator goes on with its coordinates. -/
def GoesOn (after : Text) : Prop := ∃ char rest, skipTabs after = char :: rest ∧ isCoordinateInk char = true

theorem goesOn_append {after : Text} (goes : GoesOn after) (left : Text) :
    ∃ char, firstInk (after ++ left) = some char ∧ isCoordinateInk char = true := by
  obtain ⟨char, rest, inked, coordinate⟩ := goes
  refine ⟨char, ?_, coordinate⟩
  have some_ink : ¬∀ other ∈ after, isTab other = true := by
    intro all
    have nothing : skipTabs after = [] := List.dropWhile_eq_nil_iff.2 all
    rw [nothing] at inked
    cases inked
  rw [firstInk, skipTabs, List.dropWhile_append, if_neg (by rwa [List.isEmpty_iff, List.dropWhile_eq_nil_iff])]
  rw [skipTabs] at inked
  rw [inked]
  rfl

/-- Spaces in front of a coordinate or a comma. -/
theorem goesOn_spaces {spaces : Text} (all : ∀ char ∈ spaces, isSpace char = true) {char : Char}
    {rest : Text} (coordinate : char = ',' ∨ char.isDigit = true) : GoesOn (spaces ++ char :: rest) := by
  induction spaces with
  | nil =>
    have solid : isTab char = false := by
      rcases coordinate with rfl | digit
      · decide
      · refine decide_eq_false ?_
        rintro (rfl | rfl) <;> exact absurd digit (by decide)
    refine ⟨char, rest, List.dropWhile_cons_of_neg (by rw [solid]; exact Bool.false_ne_true), ?_⟩
    rcases coordinate with rfl | digit
    · decide
    · rw [isCoordinateInk, digit, Bool.or_true]
  | cons first spaces follows =>
    obtain ⟨here, there⟩ := List.forall_mem_cons.1 all
    by_cases tab : isTab first = true
    · obtain ⟨ink, left, inked, good⟩ := follows there
      exact ⟨ink, left, (List.dropWhile_cons_of_pos tab).trans inked, good⟩
    · refine ⟨first, spaces ++ char :: rest, List.dropWhile_cons_of_neg tab, ?_⟩
      rw [isCoordinateInk, here]
      rfl

theorem breaks_spaces {spaces : Text} (all : ∀ char ∈ spaces, isSpace char = true) {char : Char}
    {rest : Text} (coordinate : char = ',' ∨ char.isDigit = true)
    (breaks : Breaks GoesOn (char :: rest)) : Breaks GoesOn (spaces ++ char :: rest) := by
  induction spaces with
  | nil => exact breaks
  | cons first spaces follows =>
    obtain ⟨-, there⟩ := List.forall_mem_cons.1 all
    intro before after same
    cases before with
    | nil =>
      obtain ⟨-, rfl⟩ := List.cons.inj same
      exact goesOn_spaces there coordinate
    | cons other before => exact follows there before after (List.cons.inj same).2

theorem takeDigits_head {read : Text} (taken : takeDigits text = some (read, left)) :
    ∃ digit rest, read = digit :: rest ∧ digit.isDigit = true := by
  obtain ⟨⟨long, -⟩, same⟩ := Option.ite_none_right_eq_some.1 taken
  cases same
  cases digits : text.takeWhile Char.isDigit with
  | nil =>
    rw [digits] at long
    cases long
  | cons digit rest =>
    refine ⟨digit, rest, rfl, List.mem_takeWhile_imp (digits ▸ List.mem_cons_self)⟩

theorem closing_eq_some (taken : closing text = some left) :
    text = ')' :: '}' :: left := by
  unfold closing at taken
  split at taken
  · cases taken
    rfl
  · cases taken

/-- The spaces around the comma are all that can hold a line feed. -/
theorem withColumn_takes {column : Option Text}
    (taken : withColumn text = some (column, left)) :
    ∃ read, text = read ++ left ∧ Breaks GoesOn read := by
  obtain ⟨⟨digits, behind⟩, found, taken⟩ := Option.bind_eq_some_iff.1 taken
  obtain ⟨after, closed, same⟩ := Option.bind_eq_some_iff.1 taken
  cases same
  have ends := closing_eq_some closed
  have spaces : text = text.takeWhile isSpace ++ text.dropWhile isSpace :=
    List.takeWhile_append_dropWhile.symm
  unfold takeColumn at found
  split at found
  · next rest comma =>
    obtain ⟨digit, more, rfl, coordinate⟩ := takeDigits_head found
    obtain ⟨counted, free⟩ := takeDigits_plain _ _ _ found
    have inner : rest = rest.takeWhile isSpace ++ rest.dropWhile isSpace :=
      List.takeWhile_append_dropWhile.symm
    refine ⟨text.takeWhile isSpace ++ ',' :: (rest.takeWhile isSpace ++
      (digit :: more ++ [')', '}'])), ?_, ?_⟩
    · rw [comma, inner, counted, ends] at spaces
      simp only [List.append_assoc, List.cons_append, List.nil_append] at spaces ⊢
      exact spaces
    · refine breaks_spaces (fun _ among => List.mem_takeWhile_imp among) (.inl rfl) ?_
      refine breaks_append (by decide : '\n' ∉ [',']) ?_
      refine breaks_spaces (fun _ among => List.mem_takeWhile_imp among) (.inr coordinate) ?_
      exact breaks_free (List.not_mem_append free (by decide))
  · cases found

theorem withoutColumn_takes {column : Option Text}
    (taken : withoutColumn text = some (column, left)) :
    ∃ read, text = read ++ left ∧ Breaks GoesOn read := by
  obtain ⟨after, closed, same⟩ := Option.bind_eq_some_iff.1 taken
  cases same
  exact ⟨[')', '}'], closing_eq_some closed, breaks_free (by decide)⟩

theorem coordinates_takes {value : Text × Option Text}
    (taken : coordinates text = some (value, left)) :
    ∃ read, text = read ++ left ∧ Breaks GoesOn read := by
  unfold coordinates at taken
  split at taken
  · next rest =>
    obtain ⟨⟨line, behind⟩, found, taken⟩ := Option.bind_eq_some_iff.1 taken
    obtain ⟨⟨column, after⟩, either, same⟩ := Option.bind_eq_some_iff.1 taken
    cases same
    obtain ⟨rfl, free⟩ := takeDigits_plain _ _ _ found
    have ends : ∃ read, behind = read ++ left ∧ Breaks GoesOn read := by
      cases counted : withColumn behind with
      | some both =>
        rw [counted] at either
        cases either
        exact withColumn_takes counted
      | none =>
        rw [counted] at either
        exact withoutColumn_takes either
    obtain ⟨read, rfl, breaks⟩ := ends
    refine ⟨'(' :: (line ++ read), by simp, ?_⟩
    exact breaks_append (by decide : '\n' ∉ ['(']) (breaks_append free breaks)
  · cases taken

theorem unknownModules_free : ∀ name ∈ unknownModules, '\n' ∉ name := by decide

/-- No alternative of a locator's module takes a line feed. -/
theorem moduleAlternatives_plain {alternative : (Option Text × Option Text × Option Text) × Text}
    (among : alternative ∈ moduleAlternatives text) :
    ∃ read, text = read ++ alternative.2 ∧ '\n' ∉ read := by
  rcases List.mem_append.1 among with named | nothing
  · rcases List.mem_append.1 named with named | module_only
    · rcases List.mem_append.1 named with unknown | extended
      · obtain ⟨name, filtered, rfl⟩ := List.mem_map.1 unknown
        obtain ⟨known, spelled⟩ := List.mem_filter.1 filtered
        obtain ⟨rest, rfl⟩ := List.isPrefixOf_iff_prefix.1 spelled
        exact ⟨name, by rw [List.drop_left], unknownModules_free name known⟩
      · obtain ⟨⟨extension, path, left⟩, found, rfl⟩ := List.mem_map.1 extended
        obtain ⟨⟨name, behind⟩, first, tabbed⟩ :=
          Option.bind_eq_some_iff.1 (Option.mem_toList.1 found)
        obtain ⟨rfl, free⟩ := takeIdentifier_plain _ _ _ first
        obtain ⟨-, later⟩ := Option.ite_none_left_eq_some.1 tabbed
        obtain ⟨⟨whole, after⟩, second, same⟩ := Option.bind_eq_some_iff.1 later
        obtain ⟨split, clean⟩ := takeModule_plain _ _ _ second
        cases same
        refine ⟨extension ++ (behind.takeWhile isTab ++ path), ?_,
          List.not_mem_append free (List.not_mem_append (free_takeWhile (by decide) _) clean)⟩
        rw [List.append_assoc, List.append_assoc, ← split, ← tabs_skipped]
    · obtain ⟨⟨path, left⟩, found, rfl⟩ := List.mem_map.1 module_only
      exact ⟨path, takeModule_plain _ _ _ (Option.mem_toList.1 found)⟩
  · obtain rfl := List.mem_singleton.1 nothing
    exact ⟨[], rfl, List.not_mem_nil⟩

theorem locationPattern_brace {value : Locator}
    (taken : locationPattern text = some (value, left)) :
    ∃ read, text = '{' :: read ++ left ∧ Breaks GoesOn ('{' :: read) := by
  unfold locationPattern at taken
  split at taken
  · next rest =>
    obtain ⟨⟨⟨unknown, extension, path⟩, behind⟩, among, taken⟩ := List.exists_of_findSome?_eq_some taken
    obtain ⟨⟨⟨line, column⟩, after⟩, found, same⟩ := Option.bind_eq_some_iff.1 taken
    cases same
    obtain ⟨name, split, free⟩ := moduleAlternatives_plain among
    obtain ⟨read, ends, breaks⟩ := coordinates_takes found
    dsimp only at split ends
    refine ⟨name ++ read, by rw [split, ends, List.cons_append, List.append_assoc], ?_⟩
    exact breaks_append (by decide : '\n' ∉ ['{']) (breaks_append free breaks)
  · cases taken

theorem locationPattern_takes : TakesLines locationPattern GoesOn := by
  intro text value left taken
  obtain ⟨read, same, breaks⟩ := locationPattern_brace taken
  exact ⟨'{' :: read, same, List.cons_ne_nil _ _, breaks⟩

theorem locationPattern_ink {value : Locator}
    (taken : locationPattern text = some (value, left)) : firstInk text = some '{' := by
  obtain ⟨read, rfl, -⟩ := locationPattern_brace taken
  rfl

/-! ## Locators and lines -/

/-- A pattern of one line that begins with what can stand in no locator. -/
structure Foreign {β : Type} (pattern : Pattern β) : Prop where
  single : SingleLine pattern
  ink : ∀ text value left, pattern text = some (value, left) →
    ∃ char, firstInk text = some char ∧ char ≠ '{' ∧ isCoordinateInk char = false

theorem causeBoundary_foreign : Foreign causeBoundary where
  single := causeBoundary_single
  ink _ _ _ taken := by
    obtain ⟨char, letter, inked⟩ := causeBoundary_ink taken
    refine ⟨char, inked, ?_⟩
    have apart : ∀ other ∈ boundaryLetters, other ≠ '{' ∧ isCoordinateInk other = false :=
      List.forall_iff_forall_mem.1 (by decide)
    exact apart char letter

theorem categoryBlock_foreign : Foreign categoryBlock where
  single := categoryBlock_single
  ink _ _ _ taken := ⟨'[', categoryBlock_ink taken, by decide, by decide⟩

/-- A locator and a match of such a pattern do not overlap. -/
theorem Foreign.apart {β : Type} {pattern : Pattern β} (foreign : Foreign pattern)
    {locator : Found Locator} {found : Found β} (located : Matches locationPattern text locator)
    (found_here : Matches pattern text found) :
    found.span.stop ≤ locator.span.start ∨ locator.span.stop ≤ found.span.start := by
  obtain ⟨char, inked, other, apart⟩ := foreign.ink _ _ _ found_here.taken
  rcases Nat.lt_trichotomy found.span.start locator.span.start with before | same | behind
  · exact .inl (found_here.no_line_inside foreign.single located.lineStart before)
  · have brace := locationPattern_ink located.taken
    rw [← same, inked] at brace
    exact absurd (Option.some.inj brace) other
  · refine .inr (Nat.not_lt.1 fun inside => ?_)
    obtain ⟨after, -, goes, same⟩ :=
      located.line_inside locationPattern_takes found_here.lineStart behind inside
    obtain ⟨ink, first, coordinate⟩ := goesOn_append goes (text.drop locator.span.stop)
    rw [← same, inked, Option.some.injEq] at first
    rw [first, coordinate] at apart
    cases apart

end OnecRuntime.Diagnostics
