import OnecRuntime.Library.Json

/-!
# Lines of a text

`splitlines` breaks a text at eleven kinds of characters. Lines without any of them that
are joined by line feeds are split again; and the only one of them that a JSON writer can
leave in its text is the next line character of a string that it wrote.
-/

namespace OnecRuntime.Library

def isLineBreak (char : Char) : Bool :=
  char.toNat ∈ [0x0A, 0x0B, 0x0C, 0x0D, 0x1C, 0x1D, 0x1E, 0x85, 0x2028, 0x2029]

/-- The lines of a text after the start of a line. -/
def splitLinesFrom : List Char → List Char → List (List Char)
  | line, [] => if line = [] then [] else [line]
  | line, '\r' :: '\n' :: rest => line :: splitLinesFrom [] rest
  | line, char :: rest =>
      if isLineBreak char then line :: splitLinesFrom [] rest
      else splitLinesFrom (line ++ [char]) rest

/-- `splitlines`. -/
def splitLines (input : List Char) : List (List Char) := splitLinesFrom [] input

theorem splitLinesFrom_line {line : List Char} (unbroken : ∀ char ∈ line, isLineBreak char = false)
    (start rest : List Char) :
    splitLinesFrom start (line ++ '\n' :: rest) = (start ++ line) :: splitLinesFrom [] rest := by
  induction line generalizing start with
  | nil =>
      rw [List.nil_append, splitLinesFrom, List.append_nil]
      · rfl
      · exact fun _ same => absurd same (by decide)
  | cons char later hypothesis =>
      have solid := unbroken char List.mem_cons_self
      have tail := hypothesis (fun other member => unbroken other (List.mem_cons_of_mem _ member))
        (start ++ [char])
      rw [List.cons_append, splitLinesFrom, solid, if_neg (by decide), tail]
      · simp
      · rintro _ rfl
        cases solid

/-- Unbroken lines that are ended by line feeds are split again. -/
theorem splitLines_joined {lines : List (List Char)}
    (unbroken : ∀ line ∈ lines, ∀ char ∈ line, isLineBreak char = false) :
    splitLines (lines.flatMap (· ++ ['\n'])) = lines := by
  unfold splitLines
  induction lines with
  | nil => rfl
  | cons line rest hypothesis =>
      rw [List.flatMap_cons, List.append_assoc, List.singleton_append,
        splitLinesFrom_line (unbroken line List.mem_cons_self),
        hypothesis fun other member => unbroken other (List.mem_cons_of_mem _ member)]
      rfl

theorem splitLinesFrom_break {char : Char} {rest : List Char} (broken : isLineBreak char = true)
    (separate : char = '\r' → rest.head? ≠ some '\n') (line : List Char) :
    splitLinesFrom line (char :: rest) = line :: splitLinesFrom [] rest := by
  rw [splitLinesFrom]
  · exact if_pos broken
  · rintro later carriage rfl
    exact separate carriage rfl

/-- A text is split at a line feed in it. -/
theorem splitLinesFrom_append (start first rest : List Char) :
    splitLinesFrom start (first ++ '\n' :: rest) =
      splitLinesFrom start (first ++ ['\n']) ++ splitLinesFrom [] rest := by
  have feed : ∀ start rest, splitLinesFrom start ('\n' :: rest) =
      start :: splitLinesFrom [] rest := fun start rest =>
    splitLinesFrom_break rfl (fun same => absurd same (by decide)) start
  have ended : ∀ start, splitLinesFrom start ([] ++ '\n' :: rest) =
      splitLinesFrom start ([] ++ ['\n']) ++ splitLinesFrom [] rest := by
    intro start
    rw [List.nil_append, List.nil_append, feed, feed]
    rfl
  fun_induction splitLinesFrom start first with
  | case1 => exact ended _
  | case2 line occupied => exact ended _
  | case3 line later hypothesis =>
      simp only [List.cons_append, splitLinesFrom]
      rw [hypothesis]
  | case4 line char later separate broken hypothesis =>
      cases later with
      | nil =>
          by_cases carriage : char = '\r'
          · subst carriage
            rfl
          · rw [List.cons_append, List.cons_append,
              splitLinesFrom_break broken fun same => absurd same carriage,
              splitLinesFrom_break broken fun same => absurd same carriage, hypothesis]
            rfl
      | cons next later =>
          have apart : ∀ more, char = '\r' → (next :: later ++ more).head? ≠ some '\n' := by
            intro more carriage same
            obtain rfl := Option.some.inj same
            exact separate later carriage rfl
          rw [@List.cons_append _ char, @List.cons_append _ char,
            splitLinesFrom_break broken (apart _), splitLinesFrom_break broken (apart _), hypothesis]
          rfl
  | case5 line char later separate solid hypothesis =>
      have carriage : char ≠ '\r' := by
        rintro rfl
        exact solid rfl
      rw [List.cons_append, List.cons_append, splitLinesFrom, splitLinesFrom, if_neg solid,
        if_neg solid, hypothesis]
      all_goals exact fun _ same => absurd same carriage

theorem splitLines_append (first rest : List Char) :
    splitLines (first ++ '\n' :: rest) = splitLines (first ++ ['\n']) ++ splitLines rest :=
  splitLinesFrom_append [] first rest

/-- A text without line breaks is one line, or none. -/
theorem splitLines_unbroken {line : List Char} (unbroken : ∀ char ∈ line, isLineBreak char = false) :
    splitLines line = if line = [] then [] else [line] := by
  have taken : ∀ start, splitLinesFrom start line =
      if start ++ line = [] then [] else [start ++ line] := by
    induction line with
    | nil =>
        intro start
        rw [splitLinesFrom, List.append_nil]
    | cons char rest hypothesis =>
        intro start
        have solid := unbroken char List.mem_cons_self
        have tail := hypothesis (fun other member => unbroken other (List.mem_cons_of_mem _ member))
          (start ++ [char])
        rw [splitLinesFrom, solid, if_neg (by decide), tail, List.append_assoc]
        · rfl
        · rintro _ rfl
          cases solid
  exact taken []

/-! ## The line breaks of a JSON text -/

/-- The character that breaks a line and is not escaped. -/
def nextLine : CodePoint := 0x85

theorem unbroken_of_range {char : Char} (range : 34 ≤ char.toNat ∧ char.toNat ≤ 116) :
    isLineBreak char = false := by
  simp only [isLineBreak, List.mem_cons, List.not_mem_nil, or_false, decide_eq_false_iff_not]
  omega

theorem unbroken_blank {blank : List Char} (blanks : Blank blank) :
    ∀ char ∈ blank, isLineBreak char = false := by
  intro char member
  rcases blanks char member with rfl | rfl <;> rfl

theorem unbroken_number {char : Char} (number : isNumberChar char = true) :
    isLineBreak char = false := by
  simp only [isNumberChar, Char.isDigit, Bool.or_eq_true, Bool.and_eq_true, decide_eq_true_eq,
    UInt32.le_iff_toNat_le] at number
  rcases number with ((((digit | rfl) | rfl) | rfl) | rfl) | rfl
  · have range : 48 ≤ char.toNat ∧ char.toNat ≤ 57 := digit
    simp only [isLineBreak, List.mem_cons, List.not_mem_nil, or_false, decide_eq_false_iff_not]
    omega
  all_goals rfl

theorem writtenText_breaks {content : CodeText} {body : List Char} (written : WrittenText content body) :
    ∀ char ∈ body, isLineBreak char = true → nextLine ∈ content := by
  induction written with
  | nil => simp
  | @raw content body char plain _ hypothesis =>
      intro other member broken
      rcases List.mem_cons.1 member with rfl | later
      · unfold Escaped at plain
        have next : other.toNat = 0x85 := by
          simp only [isLineBreak, List.mem_cons, List.not_mem_nil, or_false,
            decide_eq_true_eq] at broken
          push Not at plain
          omega
        have same : point other = nextLine := Fin.ext next
        exact same ▸ List.mem_cons_self
      · exact List.mem_cons_of_mem _ (hypothesis other later broken)
  | short escaped marked _ hypothesis =>
      have range := shortEscape_range marked
      intro other member broken
      rcases List.mem_cons.1 member with rfl | member
      · cases broken
      rcases List.mem_cons.1 member with rfl | later
      · rw [unbroken_of_range range] at broken
        cases broken
      · exact List.mem_cons_of_mem _ (hypothesis other later broken)
  | @code content body char a b c d escaped value _ hypothesis =>
      have digits : ∀ char ∈ [a, b, c, d], isLineBreak char = false := fun char member =>
        unbroken_of_range (by have range := hexQuad_range value char member; omega)
      intro other member broken
      have parts : other ∈ ['\\', 'u'] ∨ other ∈ [a, b, c, d] ∨ other ∈ body := by
        simpa [or_assoc] using member
      rcases parts with mark | digit | later
      · have range : isLineBreak other = false := by
          rcases List.mem_pair.1 mark with rfl | rfl <;> rfl
        rw [range] at broken
        cases broken
      · rw [digits other digit] at broken
        cases broken
      · exact List.mem_cons_of_mem _ (hypothesis other later broken)

theorem unbroken_null : ∀ char ∈ ['n', 'u', 'l', 'l'], isLineBreak char = false := by
  simp [isLineBreak]

theorem unbroken_true : ∀ char ∈ ['t', 'r', 'u', 'e'], isLineBreak char = false := by
  simp [isLineBreak]

theorem unbroken_false : ∀ char ∈ ['f', 'a', 'l', 's', 'e'], isLineBreak char = false := by
  simp [isLineBreak]

/-- Where a written value breaks the line. -/
theorem written_breaks (size : Nat) :
    (∀ {value content}, Written value content → content.length < size →
      ∀ char ∈ content, isLineBreak char = true → ∃ text ∈ value.texts, nextLine ∈ text) ∧
    (∀ {items content}, WrittenItems items content → content.length + 1 < size →
      ∀ char ∈ content, isLineBreak char = true → ∃ text ∈ itemTexts items, nextLine ∈ text) ∧
    (∀ {members content}, WrittenMembers members content → content.length + 1 < size →
      ∀ char ∈ content, isLineBreak char = true →
        ∃ text ∈ memberTexts members, nextLine ∈ text) := by
  have solid : ∀ {chars : List Char} {char : Char}, (∀ other ∈ chars, isLineBreak other = false) →
      char ∈ chars → isLineBreak char = true → False := by
    intro chars char unbroken member broken
    rw [unbroken char member] at broken
    cases broken
  induction size with
  | zero =>
      refine ⟨fun _ short => ?_, fun _ short => ?_, fun _ short => ?_⟩ <;>
        exact absurd short (Nat.not_lt_zero _)
  | succ size hypothesis =>
      obtain ⟨values, itemLists, memberLists⟩ := hypothesis
      have ofMember : ∀ {member content}, WrittenMember member content → content.length < size + 1 →
          ∀ char ∈ content, isLineBreak char = true →
            ∃ text ∈ member.1 :: member.2.texts, nextLine ∈ text := by
        intro member content written short char inside broken
        cases written with
        | @mk name body value inner before middle gap trailing blanksBefore named blanksMiddle
            blanksGap written blanksAfter =>
            simp only [List.length_append, List.length_cons] at short
            simp only [List.mem_append, List.mem_cons] at inside
            rcases inside with blank | rfl | inName | rfl | blank | rfl | blank | inValue | blank
            · exact (solid (unbroken_blank blanksBefore) blank broken).elim
            · cases broken
            · exact ⟨name, List.mem_cons_self, writtenText_breaks named char inName broken⟩
            · cases broken
            · exact (solid (unbroken_blank blanksMiddle) blank broken).elim
            · cases broken
            · exact (solid (unbroken_blank blanksGap) blank broken).elim
            · obtain ⟨text, member, held⟩ := values written (by omega) char inValue broken
              exact ⟨text, List.mem_cons_of_mem _ member, held⟩
            · exact (solid (unbroken_blank blanksAfter) blank broken).elim
      refine ⟨?_, ?_, ?_⟩
      · intro value content written short char inside broken
        cases written with
        | null => exact (solid unbroken_null inside broken).elim
        | true => exact (solid unbroken_true inside broken).elim
        | false => exact (solid unbroken_false inside broken).elim
        | number chars parsed =>
            exact (solid (fun other member => unbroken_number (chars other member)) inside
              broken).elim
        | @string text body inner =>
            simp only [List.mem_cons, List.mem_append, List.not_mem_nil, or_false] at inside
            rcases inside with rfl | inBody | rfl
            · cases broken
            · exact ⟨text, by simp [Json.texts], writtenText_breaks inner char inBody broken⟩
            · cases broken
        | emptyArray blanks =>
            simp only [List.mem_cons, List.mem_append, List.not_mem_nil, or_false] at inside
            rcases inside with rfl | blank | rfl
            · cases broken
            · exact (solid (unbroken_blank blanks) blank broken).elim
            · cases broken
        | array entries =>
            simp only [List.length_cons, List.length_append, List.length_nil] at short
            simp only [List.mem_cons, List.mem_append, List.not_mem_nil, or_false] at inside
            rcases inside with rfl | inner | rfl
            · cases broken
            · exact itemLists entries (by omega) char inner broken
            · cases broken
        | emptyObject blanks =>
            simp only [List.mem_cons, List.mem_append, List.not_mem_nil, or_false] at inside
            rcases inside with rfl | blank | rfl
            · cases broken
            · exact (solid (unbroken_blank blanks) blank broken).elim
            · cases broken
        | object entries =>
            simp only [List.length_cons, List.length_append, List.length_nil] at short
            simp only [List.mem_cons, List.mem_append, List.not_mem_nil, or_false] at inside
            rcases inside with rfl | inner | rfl
            · cases broken
            · exact memberLists entries (by omega) char inner broken
            · cases broken
      · intro items content written short char inside broken
        cases written with
        | last blanksBefore value blanksAfter =>
            simp only [List.length_append] at short
            simp only [List.mem_append] at inside
            rcases inside with blank | inner | blank
            · exact (solid (unbroken_blank blanksBefore) blank broken).elim
            · obtain ⟨text, member, held⟩ := values value (by omega) char inner broken
              exact ⟨text, by simp [itemTexts, member], held⟩
            · exact (solid (unbroken_blank blanksAfter) blank broken).elim
        | more blanksBefore value blanksAfter entries =>
            simp only [List.length_append, List.length_cons] at short
            simp only [List.mem_append, List.mem_cons] at inside
            rcases inside with blank | inner | blank | rfl | others
            · exact (solid (unbroken_blank blanksBefore) blank broken).elim
            · obtain ⟨text, member, held⟩ := values value (by omega) char inner broken
              exact ⟨text, by simp [itemTexts, member], held⟩
            · exact (solid (unbroken_blank blanksAfter) blank broken).elim
            · cases broken
            · obtain ⟨text, member, held⟩ := itemLists entries (by omega) char others broken
              exact ⟨text, by simp [itemTexts, member], held⟩
      · intro members content written short char inside broken
        cases written with
        | @last member _ entry =>
            obtain ⟨name, value⟩ := member
            obtain ⟨text, inText, held⟩ := ofMember entry (by omega) char inside broken
            exact ⟨text, by simpa [memberTexts] using inText, held⟩
        | @more member _ _ _ entry entries =>
            obtain ⟨name, value⟩ := member
            simp only [List.length_append, List.length_cons] at short
            simp only [List.mem_append, List.mem_cons] at inside
            rcases inside with inner | rfl | others
            · obtain ⟨text, inText, held⟩ := ofMember entry (by omega) char inner broken
              refine ⟨text, ?_, held⟩
              rcases List.mem_cons.1 inText with rfl | inValue
              · simp [memberTexts]
              · simp [memberTexts, inValue]
            · cases broken
            · obtain ⟨text, member, held⟩ := memberLists entries (by omega) char others broken
              exact ⟨text, by simp [memberTexts, member], held⟩

/-- A value without the next line character is written on one line. -/
theorem document_unbroken {value : Json} {input : List Char} (document : Document value input)
    (plain : ∀ text ∈ value.texts, nextLine ∉ text) : ∀ char ∈ input, isLineBreak char = false := by
  cases document with
  | @mk before content after blanksBefore written blanksAfter =>
      intro char member
      rcases List.mem_append.1 member with blank | member
      · exact unbroken_blank blanksBefore char blank
      rcases List.mem_append.1 member with inner | blank
      · by_contra broken
        rw [Bool.not_eq_false] at broken
        obtain ⟨text, inside, held⟩ :=
          (written_breaks (content.length + 1)).1 written (Nat.lt_succ_self _) char inner broken
        exact plain text inside held
      · exact unbroken_blank blanksAfter char blank

end OnecRuntime.Library
