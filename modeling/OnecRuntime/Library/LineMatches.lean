import OnecRuntime.Library.Spans

/-!
# Matches at the starts of lines

The search for a pattern that is anchored at the start of a line: from the left, and on behind each
match. A pattern is a function that takes what it matches from the head of a text. The matches are
in order and apart, and none that could be found is missing but inside another.
-/

namespace OnecRuntime.Library

structure Found (β : Type) where
  span : Span
  value : β

/-- What a pattern finds at the head of a text, and the text that is left. -/
abbrev Pattern (β : Type) := List Char → Option (β × List Char)

variable {β γ : Type}

/-- A character stands at the start of a line if nothing or a line feed stands before it. -/
def startsLineAfter : Option Char → Bool
  | none => true
  | some char => char = '\n'

section Search

variable (pattern : Pattern β)

/-- The matches in a text that stands at the place, behind the character before it. -/
def matchesFrom : Nat → Nat → Option Char → List Char → List (Found β)
  | 0, _, _, _ => []
  | _ + 1, _, _, [] => []
  | fuel + 1, position, before, char :: rest =>
      match if startsLineAfter before then pattern (char :: rest) else none with
      | none => matchesFrom fuel (position + 1) (some char) rest
      | some (value, left) =>
          let width := (char :: rest).length - left.length
          ⟨⟨position, position + width⟩, value⟩ ::
            matchesFrom fuel (position + width) ((char :: rest).take width).getLast? left

def lineMatches (text : List Char) : List (Found β) := matchesFrom pattern text.length 0 none text

end Search

/-- The pattern takes some characters from the head of a text. -/
def Consumes (pattern : Pattern β) : Prop :=
  ∀ text value left, pattern text = some (value, left) → ∃ read, text = read ++ left ∧ read ≠ []

/-- The place is the start of a line of the text. -/
def LineStart (text : List Char) (place : Nat) : Prop :=
  place < text.length ∧ startsLineAfter (text.take place).getLast? = true

/-- The pattern matches at a line's start, and takes the text between the bounds. -/
structure Matches (pattern : Pattern β) (text : List Char) (found : Found β) : Prop where
  lineStart : LineStart text found.span.start
  nonempty : found.span.start < found.span.stop
  inside : found.span.stop ≤ text.length
  taken : pattern (text.drop found.span.start) = some (found.value, text.drop found.span.stop)

section Laws

variable {pattern : Pattern β} {text : List Char}

variable {rest : List Char}

theorem take_last_succ {place : Nat} {char : Char}
    (here : text.drop place = char :: rest) : (text.take (place + 1)).getLast? = some char := by
  have found : text[place]? = some char := by
    rw [← Nat.add_zero place, ← List.getElem?_drop, here]
    rfl
  rw [List.take_add_one, found, Option.toList_some, List.getLast?_concat]

theorem drop_succ_of_drop {place : Nat} {char : Char}
    (here : text.drop place = char :: rest) : text.drop (place + 1) = rest := by
  rw [← List.drop_drop, here]
  rfl

/-- A turn of the search that finds a match goes on behind it. -/
theorem match_bounds (consumes : Consumes pattern) {place : Nat} {char : Char} {left : List Char}
    {value : β} (here : text.drop place = char :: rest)
    (taken : pattern (char :: rest) = some (value, left)) :
    ∃ width, (char :: rest).length - left.length = width ∧ 0 < width ∧
      place + width ≤ text.length ∧ left = text.drop (place + width) ∧
      ((char :: rest).take width).getLast? = (text.take (place + width)).getLast? := by
  obtain ⟨read, same, some_read⟩ := consumes _ _ _ taken
  have length := congrArg List.length same
  rw [List.length_append] at length
  have within := congrArg List.length here
  rw [List.length_drop] at within
  have positive := List.length_pos_iff.2 some_read
  refine ⟨read.length, by omega, positive, by omega, ?_, ?_⟩
  · rw [← List.drop_drop, here, same, List.drop_left]
  · rw [same, List.take_left, List.take_add, here, same, List.take_left, List.getLast?_append]
    cases last : read.getLast? with
    | none => exact absurd (List.getLast?_eq_none_iff.1 last) some_read
    | some final => rfl

/-- Every match stands at the start of a line, behind the place where the search began. -/
theorem matchesFrom_sound (consumes : Consumes pattern) {fuel place : Nat} {found : Found β}
    (among : found ∈ matchesFrom pattern fuel place (text.take place).getLast? (text.drop place)) :
    place ≤ found.span.start ∧ Matches pattern text found := by
  induction fuel generalizing place with
  | zero => cases among
  | succ fuel follows =>
    cases here : text.drop place with
    | nil =>
      rw [here] at among
      cases among
    | cons char rest =>
      rw [here, matchesFrom] at among
      have inside : place < text.length := by
        have length := congrArg List.length here
        rw [List.length_drop, List.length_cons] at length
        omega
      cases turn : (if startsLineAfter (text.take place).getLast? then pattern (char :: rest)
        else none) with
      | none =>
        rw [turn] at among
        dsimp only at among
        rw [← take_last_succ here, ← drop_succ_of_drop here] at among
        obtain ⟨behind, holds⟩ := follows among
        exact ⟨by omega, holds⟩
      | some found_here =>
        obtain ⟨value, left⟩ := found_here
        rw [turn] at among
        obtain ⟨starts, taken⟩ := Option.ite_none_right_eq_some.1 turn
        obtain ⟨width, measured, positive, within, rfl, last⟩ := match_bounds consumes here taken
        dsimp only at among
        rw [measured] at among
        rcases List.mem_cons.1 among with rfl | among
        · refine ⟨Nat.le_refl _, ⟨inside, starts⟩, ?_, within, ?_⟩
          · show place < place + width
            omega
          · show pattern (text.drop place) = some (value, text.drop (place + width))
            rw [here, taken]
        · rw [last] at among
          obtain ⟨behind, holds⟩ := follows among
          exact ⟨by omega, holds⟩

theorem matchesFrom_ordered (consumes : Consumes pattern) {fuel place : Nat} :
    (matchesFrom pattern fuel place (text.take place).getLast? (text.drop place)).Pairwise
      fun first second => first.span.stop ≤ second.span.start := by
  induction fuel generalizing place with
  | zero => exact .nil
  | succ fuel follows =>
    cases here : text.drop place with
    | nil => exact .nil
    | cons char rest =>
      rw [matchesFrom]
      cases turn : (if startsLineAfter (text.take place).getLast? then pattern (char :: rest)
        else none) with
      | none =>
        dsimp only
        rw [← take_last_succ here, ← drop_succ_of_drop here]
        exact follows
      | some found_here =>
        obtain ⟨value, left⟩ := found_here
        obtain ⟨-, taken⟩ := Option.ite_none_right_eq_some.1 turn
        obtain ⟨width, measured, -, -, rfl, last⟩ := match_bounds consumes here taken
        dsimp only
        rw [measured, last]
        exact .cons (fun later among => (matchesFrom_sound consumes among).1) follows

/-- What could be found at the start of a line is found, or stands inside a match. -/
theorem matchesFrom_complete (consumes : Consumes pattern) {fuel place : Nat}
    (enough : text.length ≤ place + fuel) {other : Nat} (behind : place ≤ other)
    (starts : LineStart text other) (taken : (pattern (text.drop other)).isSome) :
    ∃ found ∈ matchesFrom pattern fuel place (text.take place).getLast? (text.drop place),
      found.span.start ≤ other ∧ other < found.span.stop := by
  induction fuel generalizing place with
  | zero =>
    have inside := starts.1
    omega
  | succ fuel follows =>
    cases here : text.drop place with
    | nil =>
      have inside := starts.1
      have beyond := List.drop_eq_nil_iff.1 here
      omega
    | cons char rest =>
      rw [matchesFrom]
      cases turn : (if startsLineAfter (text.take place).getLast? then pattern (char :: rest)
        else none) with
      | none =>
        dsimp only
        rw [← take_last_succ here, ← drop_succ_of_drop here]
        refine follows (by omega) (Nat.lt_of_le_of_ne behind fun same => ?_)
        subst same
        rw [if_pos starts.2, ← here] at turn
        rw [turn] at taken
        cases taken
      | some found_here =>
        obtain ⟨value, left⟩ := found_here
        obtain ⟨-, found⟩ := Option.ite_none_right_eq_some.1 turn
        obtain ⟨width, measured, positive, -, rfl, last⟩ := match_bounds consumes here found
        dsimp only
        rw [measured, last]
        by_cases inside : other < place + width
        · exact ⟨_, List.mem_cons_self, behind, inside⟩
        · obtain ⟨later, among, holds⟩ := follows (by omega) (Nat.not_lt.1 inside)
          exact ⟨later, List.mem_cons_of_mem _ among, holds⟩

theorem lineMatches_sound (consumes : Consumes pattern) {found : Found β}
    (among : found ∈ lineMatches pattern text) : Matches pattern text found :=
  (@matchesFrom_sound β pattern text consumes text.length 0 found among).2

theorem lineMatches_ordered (consumes : Consumes pattern) : (lineMatches pattern text).Pairwise
    fun first second => first.span.stop ≤ second.span.start :=
  @matchesFrom_ordered β pattern text consumes text.length 0

theorem lineMatches_complete (consumes : Consumes pattern) {place : Nat} (starts : LineStart text place)
    (taken : (pattern (text.drop place)).isSome) :
    ∃ found ∈ lineMatches pattern text, found.span.start ≤ place ∧ place < found.span.stop :=
  matchesFrom_complete consumes (by omega) (Nat.zero_le place) starts taken

end Laws

/-! ## Line feeds in what is taken -/

/-- Behind each line feed of the text stands such a rest. -/
def Breaks (follows : List Char → Prop) (read : List Char) : Prop :=
  ∀ before after, read = before ++ '\n' :: after → follows after

variable {follows : List Char → Prop}

theorem breaks_append {first second : List Char} (free : '\n' ∉ first)
    (breaks : Breaks follows second) : Breaks follows (first ++ second) := by
  intro before after same
  rcases List.append_eq_append_iff.1 same with ⟨middle, rfl, rest⟩ | ⟨middle, rfl, rest⟩
  · exact breaks _ _ rest
  · cases middle with
    | nil => exact breaks [] after rest.symm
    | cons char middle =>
      obtain ⟨rfl, -⟩ := List.cons.inj rest
      exact absurd (by simp) free

theorem breaks_free {read : List Char} (free : '\n' ∉ read) :
    Breaks follows read := by
  intro before after same
  exact absurd (by simp [same]) free

/-- The pattern takes some characters, with such a rest behind each line feed. -/
def TakesLines (pattern : Pattern β) (follows : List Char → Prop) : Prop :=
  ∀ text value left, pattern text = some (value, left) →
    ∃ read, text = read ++ left ∧ read ≠ [] ∧ Breaks follows read

theorem TakesLines.consumes {pattern : Pattern β}
    (takes : TakesLines pattern follows) : Consumes pattern := by
  intro text value left taken
  obtain ⟨read, same, some_read, -⟩ := takes text value left taken
  exact ⟨read, same, some_read⟩

section Inside

variable {pattern : Pattern β} {follows : List Char → Prop} {text : List Char} {found : Found β}

/-- A line that starts inside a match starts behind a line feed that the match has taken. -/
theorem Matches.line_inside (found_here : Matches pattern text found) (takes : TakesLines pattern follows)
    {place : Nat} (starts : LineStart text place) (behind : found.span.start < place)
    (before : place < found.span.stop) :
    ∃ after, after ≠ [] ∧ follows after ∧ text.drop place = after ++ text.drop found.span.stop := by
  obtain ⟨read, same, -, breaks⟩ := takes _ _ _ found_here.taken
  have length := congrArg List.length same
  have inside := found_here.inside
  rw [List.length_append, List.length_drop, List.length_drop] at length
  obtain ⟨inner, rfl⟩ : ∃ inner, place = found.span.start + (inner + 1) :=
    ⟨place - found.span.start - 1, by omega⟩
  have here : inner < read.length := by omega
  have last := starts.2
  rw [List.take_add, same, List.take_append_of_le_length (by omega), List.getLast?_append,
    List.take_add_one, List.getElem?_eq_getElem here, Option.toList_some, List.getLast?_concat] at last
  have feed : read[inner] = '\n' := of_decide_eq_true last
  have split : read = read.take inner ++ '\n' :: read.drop (inner + 1) := by
    rw [← feed, List.getElem_cons_drop, List.take_append_drop]
  refine ⟨read.drop (inner + 1), fun nothing => ?_, breaks _ _ split, ?_⟩
  · have short := List.drop_eq_nil_iff.1 nothing
    omega
  · rw [← List.drop_drop, same, List.drop_append_of_le_length (by omega)]

/-- The pattern takes no line feed but at its end. -/
def SingleLine (pattern : Pattern β) : Prop := TakesLines pattern (· = [])

/-- No line starts inside a match of one line. -/
theorem Matches.no_line_inside (found_here : Matches pattern text found) (single : SingleLine pattern)
    {place : Nat} (starts : LineStart text place) (behind : found.span.start < place) :
    found.span.stop ≤ place := by
  by_contra inside
  obtain ⟨after, some_text, nothing, -⟩ :=
    found_here.line_inside single starts behind (Nat.not_le.1 inside)
  exact some_text nothing

end Inside

end OnecRuntime.Library
