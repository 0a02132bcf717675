import Mathlib.Data.List.Basic

/-!
# The notebook as one text

The BSL cells of a notebook are laid out in one text for the language server, with an empty line
between two bodies. A snapshot keeps for each body where its lines stand in the cell and where
they stand in the text. Texts are sequences of UTF-16 units, in which both sides count.
-/

namespace OnecRuntime.Editor

abbrev Text := List UInt16

def lineFeed : UInt16 := 10

def carriageReturn : UInt16 := 13

/-- `split('\n')`. -/
def lines (text : Text) : List Text := text.splitOn lineFeed

inductive CellKind where
  | code
  | markup
deriving DecidableEq

structure CellInput where
  uri : String
  kind : CellKind
  languageId : String
  text : Text

structure Position where
  line : Int
  character : Int
deriving DecidableEq

structure Range where
  start : Position
  stop : Position
deriving DecidableEq

structure Body where
  uri : String
  sourceStartLine : Nat
  virtualStartLine : Nat
  lines : List Text

/-! ## The bodies of the cells -/

/-- `[\t ]`. -/
def isBlank (char : UInt16) : Bool := char == 9 || char == 32

/-- `%%bsl`. -/
def magic : Text := [37, 37, 98, 115, 108]

/-- `(?:\r?\n|$)`: the line of the cell on which the text behind it begins, and that text. -/
def headerEnd : Text → Option (Nat × Text)
  | [] => some (0, [])
  | 10 :: body => some (1, body)
  | 13 :: 10 :: body => some (1, body)
  | _ => none

/-- What stands behind `BSL_HEADER`. -/
def behindHeader (text : Text) : Option (Nat × Text) :=
  let start := text.dropWhile isBlank
  if magic.isPrefixOf start then headerEnd ((start.drop magic.length).dropWhile isBlank) else none

/-- `replace(/\r\n/g, '\n')`. -/
def unixBreaks : Text → Text
  | [] => []
  | 13 :: 10 :: rest => lineFeed :: unixBreaks rest
  | char :: rest => char :: unixBreaks rest

structure Source where
  uri : String
  sourceStartLine : Nat
  body : Text

def sourceOf (cell : CellInput) : Option Source :=
  if cell.kind = .code ∧ cell.languageId = "python" then
    (behindHeader cell.text).map fun (line, body) => ⟨cell.uri, line, unixBreaks body⟩
  else none

/-- The lines of a body. A newline after the header makes an empty body that can be edited. -/
def Source.lines (source : Source) : List Text :=
  if source.body = [] ∧ source.sourceStartLine = 0 then [] else Editor.lines source.body

/-! ## The snapshot -/

structure NotebookSnapshot where
  text : Text
  version : Nat
  bodies : List Body

def countLines (text : Text) : Nat := (lines text).length - 1

/-- The loop over the bodies, from the text that is laid out so far. -/
def layOut (text : Text) (index : Nat) : List Source → Text × List Body
  | [] => (text, [])
  | source :: rest =>
      let opened := if 0 < index then text ++ [lineFeed, lineFeed] else text
      let (whole, bodies) := layOut (opened ++ source.body) (index + 1) rest
      (whole, ⟨source.uri, source.sourceStartLine, countLines opened, source.lines⟩ :: bodies)

namespace NotebookSnapshot

def fromCells (cells : List CellInput) (version : Nat) : NotebookSnapshot :=
  let (text, bodies) := layOut [] 0 (cells.filterMap sourceOf)
  ⟨text, version, bodies⟩

end NotebookSnapshot

/-- The line counts from the first line of the body. -/
def isBodyPosition (body : Body) (line character : Int) : Bool :=
  decide (0 ≤ line) && decide (line < body.lines.length) && decide (0 ≤ character) &&
    decide (character ≤ ((body.lines.getD line.toNat []).length : Int))

def toSourcePosition (body : Body) (position : Position) : Position :=
  ⟨body.sourceStartLine + position.line - body.virtualStartLine, position.character⟩

/-- Negative, zero or positive. -/
def comparePositions (left right : Position) : Int :=
  if left.line = right.line then left.character - right.character else left.line - right.line

namespace NotebookSnapshot

def toVirtual (snapshot : NotebookSnapshot) (cellUri : String) (position : Position) :
    Option Position := do
  let body ← snapshot.bodies.find? fun candidate => candidate.uri = cellUri
  let bodyLine := position.line - body.sourceStartLine
  if isBodyPosition body bodyLine position.character then
    some ⟨body.virtualStartLine + bodyLine, position.character⟩
  else none

/-- The place of the body among the bodies, by which two of them are told apart. -/
def bodyAt (snapshot : NotebookSnapshot) (position : Position) : Option Nat :=
  snapshot.bodies.findIdx? fun body =>
    isBodyPosition body (position.line - body.virtualStartLine) position.character

def toCell (snapshot : NotebookSnapshot) (range : Range) : Option (String × Range) :=
  if 0 < comparePositions range.start range.stop then none
  else do
    let startBody ← snapshot.bodyAt range.start
    let endBody ← snapshot.bodyAt range.stop
    if startBody = endBody then
      let body ← snapshot.bodies[startBody]?
      some (body.uri, ⟨toSourcePosition body range.start, toSourcePosition body range.stop⟩)
    else none

end NotebookSnapshot

end OnecRuntime.Editor

/-!
# The lines of a cell

A cell is read as the editor shows it, line by line. Its first line tells whether it is a BSL
cell, and then the lines behind the first one are the body that the snapshot takes from it.
-/

namespace OnecRuntime.Editor

def cellLines (text : Text) : List Text := lines (unixBreaks text)

/-- `%%bsl` between blanks. -/
def MagicLine (line : Text) : Prop :=
  ∃ before behind, line = before ++ (magic ++ behind) ∧ before.all isBlank = true ∧
    behind.all isBlank = true

/-- A code cell of the kernel whose first line is the magic one. -/
def BslCell (cell : CellInput) : Prop :=
  cell.kind = .code ∧ cell.languageId = "python" ∧
    ∃ line body, cellLines cell.text = line :: body ∧ MagicLine line

/-- The position stands in a line behind the first one, or at its end. -/
structure BodyPosition (cell : CellInput) (position : Position) : Prop where
  bsl : BslCell cell
  line : 1 ≤ position.line
  character : 0 ≤ position.character
  inside : ∃ text, (cellLines cell.text)[position.line.toNat]? = some text ∧
    position.character ≤ text.length

/-! ## Line breaks -/

theorem lines_append (first second : Text) :
    lines (first ++ lineFeed :: second) = lines first ++ lines second :=
  List.splitOn_append_cons_self first second

theorem lines_ne_nil (text : Text) : lines text ≠ [] := List.splitOn_ne_nil lineFeed text

variable {text : Text}

theorem lines_of_plain (plain : lineFeed ∉ text) : lines text = [text] :=
  List.splitOn_eq_singleton plain

@[simp] theorem unixBreaks_break (text : Text) :
    unixBreaks (lineFeed :: text) = lineFeed :: unixBreaks text := by
  rw [unixBreaks]
  exact fun _ other => nomatch other

@[simp] theorem unixBreaks_crlf (text : Text) :
    unixBreaks (carriageReturn :: lineFeed :: text) = lineFeed :: unixBreaks text := by
  rw [carriageReturn, lineFeed, unixBreaks]
  rfl

theorem unixBreaks_cons {char : UInt16} (solid : char ≠ carriageReturn) (text : Text) :
    unixBreaks (char :: text) = char :: unixBreaks text := by
  rw [unixBreaks]
  exact fun _ other => absurd other solid

/-- Line breaks behind some text are made one by one. -/
theorem unixBreaks_append {first : Text} (solid : carriageReturn ∉ first) (second : Text) :
    unixBreaks (first ++ second) = first ++ unixBreaks second := by
  induction first with
  | nil => rfl
  | cons char first follows =>
    rw [List.mem_cons, not_or] at solid
    rw [List.cons_append, unixBreaks_cons (Ne.symm solid.1), follows solid.2, List.cons_append]

variable {line rest : Text}

/-- A text begins with the characters with which it begins once its line breaks are made one, if
none of them belongs to a line break. -/
theorem unixBreaks_front (plain : lineFeed ∉ line)
    (solid : carriageReturn ∉ line) (front : unixBreaks text = line ++ rest) :
    ∃ behind, text = line ++ behind ∧ unixBreaks behind = rest := by
  induction line generalizing text with
  | nil => exact ⟨text, rfl, front⟩
  | cons char line follows =>
    rw [List.mem_cons, not_or] at plain solid
    unfold unixBreaks at front
    split at front
    · cases front
    · exact absurd (List.cons.inj front).1 plain.1
    · obtain ⟨rfl, more⟩ := List.cons.inj front
      obtain ⟨behind, rfl, rest⟩ := follows plain.2 solid.2 more
      exact ⟨behind, rfl, rest⟩

/-- What begins with a line break once these are made one begins with one of the two. -/
theorem unixBreaks_opened (front : unixBreaks text = lineFeed :: rest) :
    ∃ behind, unixBreaks behind = rest ∧
      (text = lineFeed :: behind ∨ text = carriageReturn :: lineFeed :: behind) := by
  unfold unixBreaks at front
  split at front
  · cases front
  · next behind => exact ⟨behind, (List.cons.inj front).2, .inr rfl⟩
  · next char behind _ =>
    obtain ⟨rfl, more⟩ := List.cons.inj front
    exact ⟨behind, more, .inl rfl⟩

theorem unixBreaks_eq_nil (none : unixBreaks text = []) : text = [] := by
  unfold unixBreaks at none
  split at none
  · rfl
  · cases none
  · cases none

/-- The first line of a text, and what stands behind it. -/
theorem lines_cons {rest : List Text} (split : lines text = line :: rest) :
    lineFeed ∉ line ∧ (rest = [] ∧ text = line ∨
      ∃ behind, text = line ++ lineFeed :: behind ∧ lines behind = rest) := by
  induction text generalizing line rest with
  | nil =>
    cases split
    exact ⟨List.not_mem_nil, .inl ⟨rfl, rfl⟩⟩
  | cons char text follows =>
    by_cases broken : char = lineFeed
    · subst broken
      rw [show lineFeed :: text = [] ++ lineFeed :: text from rfl, lines_append] at split
      cases split
      exact ⟨List.not_mem_nil, .inr ⟨text, rfl, rfl⟩⟩
    · obtain ⟨first, others, tail⟩ := List.exists_cons_of_ne_nil (lines_ne_nil text)
      have head : lines (char :: text) = (char :: first) :: others := by
        rw [lines, List.splitOn_cons_eq_if_modifyHead, if_neg (by simpa using broken), ← lines, tail]
        rfl
      rw [head] at split
      cases split
      obtain ⟨plain, ends⟩ := follows tail
      refine ⟨?_, ?_⟩
      · rw [List.mem_cons, not_or]
        exact ⟨Ne.symm broken, plain⟩
      · rcases ends with ⟨none, rfl⟩ | ⟨behind, rfl, rest⟩
        · exact .inl ⟨none, rfl⟩
        · exact .inr ⟨behind, rfl, rest⟩

/-! ## Magic lines -/

/-- The characters of a magic line are none of a line break. -/
theorem MagicLine.solid (magical : MagicLine line) :
    lineFeed ∉ line ∧ carriageReturn ∉ line := by
  obtain ⟨before, behind, rfl, blank, blanks⟩ := magical
  have apart {char : UInt16} (strange : isBlank char = false) (other : char ∉ magic) :
      char ∉ before ++ (magic ++ behind) := by
    simp only [List.mem_append, not_or]
    refine ⟨fun inside => ?_, other, fun inside => ?_⟩
    · rw [List.all_eq_true.1 blank char inside] at strange
      cases strange
    · rw [List.all_eq_true.1 blanks char inside] at strange
      cases strange
  exact ⟨apart (by decide) (by decide), apart (by decide) (by decide)⟩

theorem dropWhile_blanks {blanks : Text} (blank : blanks.all isBlank = true)
    (stops : ∀ char ∈ rest.head?, isBlank char = false) :
    (blanks ++ rest).dropWhile isBlank = rest := by
  rw [List.dropWhile_append_of_pos (List.all_eq_true.1 blank)]
  cases rest with
  | nil => rfl
  | cons char rest => exact List.dropWhile_cons_of_neg (by simp [stops char rfl])

/-- Behind a magic line the header has come to its end. -/
theorem MagicLine.behind (magical : MagicLine line)
    (stops : ∀ char ∈ rest.head?, isBlank char = false) :
    behindHeader (line ++ rest) = headerEnd rest := by
  obtain ⟨before, behind, rfl, blank, blanks⟩ := magical
  have start : (before ++ (magic ++ behind) ++ rest).dropWhile isBlank = magic ++ (behind ++ rest) := by
    rw [List.append_assoc, List.append_assoc]
    refine dropWhile_blanks blank fun char first => ?_
    cases first
    rfl
  rw [behindHeader]
  simp only [start]
  rw [if_pos (List.isPrefixOf_iff_prefix.2 (List.prefix_append _ _)), List.drop_left,
    dropWhile_blanks blanks stops]

/-- The three ways in which a header ends. -/
theorem behindHeader_some {body : Text} {start : Nat}
    (found : behindHeader text = some (start, body)) :
    ∃ line, MagicLine line ∧ (start = 0 ∧ body = [] ∧ text = line ∨ start = 1 ∧
      (text = line ++ lineFeed :: body ∨ text = line ++ carriageReturn :: lineFeed :: body)) := by
  rw [behindHeader] at found
  simp only [Option.ite_none_right_eq_some] at found
  obtain ⟨starts, ends⟩ := found
  obtain ⟨rest, front⟩ := List.isPrefixOf_iff_prefix.1 starts
  rw [← front, List.drop_left] at ends
  have whole : text = text.takeWhile isBlank ++ (magic ++ rest.takeWhile isBlank) ++
      rest.dropWhile isBlank := by
    rw [List.append_assoc, List.append_assoc, List.takeWhile_append_dropWhile, front,
      List.takeWhile_append_dropWhile]
  refine ⟨_, ⟨text.takeWhile isBlank, rest.takeWhile isBlank, rfl, List.all_takeWhile,
    List.all_takeWhile⟩, ?_⟩
  unfold headerEnd at ends
  split at ends
  · next none =>
    cases ends
    rw [none, List.append_nil] at whole
    exact .inl ⟨rfl, rfl, whole⟩
  · next tail =>
    cases ends
    rw [tail] at whole
    exact .inr ⟨rfl, .inl whole⟩
  · next tail =>
    cases ends
    rw [tail] at whole
    exact .inr ⟨rfl, .inr whole⟩
  · cases ends

/-! ## The body of a cell -/

/-- Behind a magic line and a line break stand the lines of the text behind them. -/
theorem cellLines_behind {body : Text} (magical : MagicLine line)
    (broken : text = line ++ lineFeed :: body ∨ text = line ++ carriageReturn :: lineFeed :: body) :
    cellLines text = line :: lines (unixBreaks body) := by
  have unix : unixBreaks text = line ++ lineFeed :: unixBreaks body := by
    rcases broken with rfl | rfl
    · rw [unixBreaks_append magical.solid.2, unixBreaks_break]
    · rw [unixBreaks_append magical.solid.2, unixBreaks_crlf]
  rw [cellLines, unix, lines_append, lines_of_plain magical.solid.1]
  rfl

variable {cell : CellInput}

/-- The lines of a cell are its header and the lines of its body. -/
theorem sourceOf_lines {source : Source} (found : sourceOf cell = some source) :
    source.uri = cell.uri ∧ (source.lines ≠ [] → source.sourceStartLine = 1) ∧
      ∃ line, MagicLine line ∧ cellLines cell.text = line :: source.lines := by
  simp only [sourceOf, Option.ite_none_right_eq_some, Option.map_eq_some_iff] at found
  obtain ⟨-, ⟨start, body⟩, behind, rfl⟩ := found
  obtain ⟨line, magical, ⟨rfl, rfl, whole⟩ | ⟨rfl, broken⟩⟩ := behindHeader_some behind
  · refine ⟨rfl, fun some => absurd (if_pos ⟨rfl, rfl⟩) some, line, magical, ?_⟩
    have plain := unixBreaks_append magical.solid.2 []
    rw [List.append_nil] at plain
    rw [whole, cellLines, plain]
    exact (congrArg lines (List.append_nil line)).trans (lines_of_plain magical.solid.1)
  · refine ⟨rfl, fun _ => rfl, line, magical, ?_⟩
    rw [cellLines_behind magical broken, Source.lines, if_neg fun empty => nomatch empty.2]

theorem sourceOf_bsl {source : Source} (found : sourceOf cell = some source) :
    BslCell cell := by
  obtain ⟨-, -, line, magical, split⟩ := sourceOf_lines found
  simp only [sourceOf, Option.ite_none_right_eq_some] at found
  exact ⟨found.1.1, found.1.2, line, source.lines, split, magical⟩

/-- Every BSL cell gives a body to the snapshot. -/
theorem BslCell.source (bsl : BslCell cell) :
    ∃ source, sourceOf cell = some source := by
  obtain ⟨code, kernel, line, rest, split, magical⟩ := bsl
  have header : ∃ start body, behindHeader cell.text = some (start, body) := by
    rcases lines_cons split with ⟨plain, ⟨-, whole⟩ | ⟨behind, whole, -⟩⟩
    · obtain ⟨tail, front, none⟩ :=
        unixBreaks_front plain magical.solid.2 (whole.trans (List.append_nil line).symm)
      rw [unixBreaks_eq_nil none] at front
      exact ⟨_, _, by rw [front, magical.behind (by simp)]; rfl⟩
    · obtain ⟨tail, front, more⟩ := unixBreaks_front plain magical.solid.2 whole
      obtain ⟨body, -, rfl | rfl⟩ := unixBreaks_opened more
      · exact ⟨_, _, by rw [front, magical.behind (by simp [lineFeed, isBlank])]; rfl⟩
      · exact ⟨_, _, by rw [front, magical.behind (by simp [carriageReturn, isBlank])]; rfl⟩
  obtain ⟨start, body, found⟩ := header
  exact ⟨_, by rw [sourceOf, if_pos ⟨code, kernel⟩, found]; rfl⟩

/-- The positions of a body are those that the snapshot takes for its positions. -/
theorem bodyPosition_iff {source : Source} {position : Position}
    (found : sourceOf cell = some source) (virtual : Nat) :
    BodyPosition cell position ↔ isBodyPosition
      ⟨source.uri, source.sourceStartLine, virtual, source.lines⟩
      (position.line - source.sourceStartLine) position.character = true := by
  obtain ⟨-, starts, line, magical, split⟩ := sourceOf_lines found
  simp only [isBodyPosition, Bool.and_eq_true, decide_eq_true_eq]
  constructor
  · rintro ⟨-, behind, character, text, within, bound⟩
    obtain ⟨place, same⟩ : ∃ place, position.line.toNat = place + 1 :=
      ⟨position.line.toNat - 1, by omega⟩
    rw [split, same, List.getElem?_cons_succ] at within
    obtain ⟨inside, rfl⟩ := List.getElem?_eq_some_iff.1 within
    have start := starts (List.ne_nil_of_length_pos (Nat.zero_lt_of_lt inside))
    have index : (position.line - source.sourceStartLine).toNat = place := by omega
    rw [index, List.getD_eq_getElem?_getD, List.getElem?_eq_getElem inside]
    exact ⟨⟨⟨by omega, by omega⟩, character⟩, bound⟩
  · rintro ⟨⟨⟨behind, inside⟩, character⟩, bound⟩
    have start := starts (List.ne_nil_of_length_pos (by omega))
    obtain ⟨place, same⟩ : ∃ place : Nat, position.line = place + 1 :=
      ⟨(position.line - 1).toNat, by omega⟩
    have index : (position.line - source.sourceStartLine).toNat = place := by omega
    have within : place < source.lines.length := by omega
    rw [index, List.getD_eq_getElem?_getD, List.getElem?_eq_getElem within] at bound
    refine ⟨sourceOf_bsl found, by omega, character, _, ?_, bound⟩
    rw [split, show position.line.toNat = place + 1 by omega, List.getElem?_cons_succ,
      List.getElem?_eq_getElem within]
    rfl

end OnecRuntime.Editor
