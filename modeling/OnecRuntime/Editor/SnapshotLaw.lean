import Mathlib.Data.List.Nodup
import OnecRuntime.Editor.Cells

/-!
# Positions of the notebook and of its text

Each body stands in the text as a block of lines, and the blocks of two bodies are apart. So a
position of a body has one place in the text, and the way back leads to the body it came from.
-/

namespace OnecRuntime.Editor

/-! ## Blocks of lines -/

/-- The lines stand in the text, from the given line on. -/
def Block (text : Text) (start : Nat) (block : List Text) : Prop :=
  ∃ before behind, lines text = before ++ block ++ behind ∧ before.length = start

variable {text : Text}

theorem Block.getElem? {start : Nat} {block : List Text} (stands : Block text start block)
    {line : Nat} (inside : line < block.length) :
    (lines text)[start + line]? = block[line]? := by
  obtain ⟨before, behind, whole, rfl⟩ := stands
  rw [whole, List.append_assoc, List.getElem?_append_right (Nat.le_add_right _ _),
    Nat.add_sub_cancel_left, List.getElem?_append_left inside]

/-- The text ends in a line break, or nothing is laid out yet. -/
def Opened (text : Text) : Prop := text = [] ∨ ∃ front, text = front ++ [lineFeed]

/-- The text goes on with a line break, or nothing stands behind it. -/
def Closed (text : Text) : Prop := text = [] ∨ ∃ behind, text = lineFeed :: behind

theorem lines_nil : lines [] = [[]] := rfl

theorem countLines_opened (opened : Opened text) (body : Text) :
    ∃ before, lines (text ++ body) = before ++ lines body ∧ before.length = countLines text := by
  rcases opened with rfl | ⟨front, rfl⟩
  · exact ⟨[], rfl, rfl⟩
  · refine ⟨lines front, ?_, ?_⟩
    · rw [List.append_assoc, List.singleton_append, lines_append]
    · rw [countLines, lines_append, lines_nil, List.length_append]
      rfl

theorem lines_closed {behind : Text} (closed : Closed behind) (body : Text) :
    ∃ rest, lines (body ++ behind) = lines body ++ rest := by
  rcases closed with rfl | ⟨tail, rfl⟩
  · exact ⟨[], by rw [List.append_nil, List.append_nil]⟩
  · exact ⟨lines tail, lines_append body tail⟩

/-- A body between line breaks is a block. -/
theorem block_between {behind : Text} (opened : Opened text) (closed : Closed behind)
    (body : Text) : Block (text ++ body ++ behind) (countLines text) (lines body) := by
  obtain ⟨before, front, count⟩ := countLines_opened opened (body ++ behind)
  obtain ⟨rest, back⟩ := lines_closed closed body
  exact ⟨before, rest, by rw [List.append_assoc, front, back, List.append_assoc], count⟩

/-! ## The bodies of a snapshot -/

/-- The text of the loop: nothing stands in it before the first body. -/
def Begun (text : Text) (index : Nat) : Prop := index = 0 → text = []

/-- The text before the next body. -/
def separated (text : Text) (index : Nat) : Text :=
  if 0 < index then text ++ [lineFeed, lineFeed] else text

theorem layOut_cons (text : Text) (index : Nat) (source : Source) (rest : List Source) :
    layOut text index (source :: rest) =
      ((layOut (separated text index ++ source.body) (index + 1) rest).1,
        ⟨source.uri, source.sourceStartLine, countLines (separated text index), source.lines⟩ ::
          (layOut (separated text index ++ source.body) (index + 1) rest).2) := rfl

variable {index : Nat}

theorem separated_opened (begun : Begun text index) :
    Opened (separated text index) := by
  unfold separated
  split
  · exact .inr ⟨text ++ [lineFeed], by rw [List.append_assoc]; rfl⟩
  · next first => exact .inl (begun (Nat.eq_zero_of_not_pos first))

/-- The loop leaves the text it began with in front, and a line break behind it. -/
theorem layOut_text (text : Text) (index : Nat) (sources : List Source) (later : 0 < index) :
    ∃ behind, (layOut text index sources).1 = text ++ behind ∧ Closed behind := by
  induction sources generalizing text index with
  | nil => exact ⟨[], (List.append_nil text).symm, .inl rfl⟩
  | cons source rest follows =>
    obtain ⟨behind, whole, -⟩ := follows (separated text index ++ source.body) (index + 1)
      (Nat.succ_pos index)
    refine ⟨lineFeed :: lineFeed :: (source.body ++ behind), ?_, .inr ⟨_, rfl⟩⟩
    rw [layOut_cons, whole, separated, if_pos later, List.append_assoc, List.append_assoc]
    rfl

/-- The lines of a body are those of its text, or there are none. -/
theorem source_lines (source : Source) : source.lines = [] ∨ source.lines = lines source.body := by
  unfold Source.lines
  split
  · exact .inl rfl
  · exact .inr rfl

/-- Every body is a block of the text. -/
theorem layOut_blocks (sources : List Source)
    (begun : Begun text index) :
    ∀ body ∈ (layOut text index sources).2, body.lines = [] ∨
      Block (layOut text index sources).1 body.virtualStartLine body.lines := by
  induction sources generalizing text index with
  | nil => exact List.forall_mem_nil _
  | cons source rest follows =>
    rw [layOut_cons]
    refine List.forall_mem_cons.2 ⟨?_, follows fun first => nomatch first⟩
    rcases source_lines source with none | same
    · exact .inl none
    · obtain ⟨behind, whole, closed⟩ := layOut_text (separated text index ++ source.body)
        (index + 1) rest (Nat.succ_pos index)
      right
      rw [whole]
      dsimp only
      rw [same]
      exact block_between (separated_opened begun) closed source.body

/-- The separator and the line behind it are counted from the line behind the body. -/
theorem countLines_separated {body : Text} (begun : Begun text index) :
    countLines (separated (separated text index ++ body) (index + 1)) =
      countLines (separated text index) + (lines body).length + 1 := by
  obtain ⟨before, split, count⟩ := countLines_opened (separated_opened begun) body
  rw [separated, if_pos (Nat.succ_pos index), countLines,
    show [lineFeed, lineFeed] = lineFeed :: [lineFeed] from rfl, lines_append, split,
    List.length_append, List.length_append, count]
  rfl

/-- The body ends before the other begins, with a line between them. -/
def Body.Before (first second : Body) : Prop :=
  first.virtualStartLine + first.lines.length < second.virtualStartLine

theorem source_lines_length (source : Source) : source.lines.length ≤ (lines source.body).length := by
  rcases source_lines source with none | same
  · rw [none]
    exact Nat.zero_le _
  · exact Nat.le_of_eq (congrArg List.length same)

/-- The bodies follow one another in the text. -/
theorem layOut_ordered (sources : List Source)
    (begun : Begun text index) :
    (∀ body ∈ (layOut text index sources).2,
      countLines (separated text index) ≤ body.virtualStartLine) ∧
      (layOut text index sources).2.Pairwise Body.Before := by
  induction sources generalizing text index with
  | nil => exact ⟨List.forall_mem_nil _, .nil⟩
  | cons source rest follows =>
    obtain ⟨behind, ordered⟩ := @follows (separated text index ++ source.body) (index + 1)
      fun first => nomatch first
    rw [countLines_separated begun] at behind
    have short := source_lines_length source
    rw [layOut_cons]
    constructor
    · refine List.forall_mem_cons.2 ⟨Nat.le_refl _, fun body later => ?_⟩
      have start := behind body later
      omega
    · refine List.pairwise_cons.2 ⟨fun body later => ?_, ordered⟩
      have start := behind body later
      change countLines (separated text index) + source.lines.length < body.virtualStartLine
      omega

/-- What a body takes from its source. -/
def Body.content (body : Body) : String × Nat × List Text :=
  (body.uri, body.sourceStartLine, body.lines)

def Source.content (source : Source) : String × Nat × List Text :=
  (source.uri, source.sourceStartLine, source.lines)

theorem layOut_contents (text : Text) (index : Nat) (sources : List Source) :
    (layOut text index sources).2.map Body.content = sources.map Source.content := by
  induction sources generalizing text index with
  | nil => rfl
  | cons source rest follows => exact congrArg (source.content :: ·) (follows _ _)

/-- What the positions of a snapshot rest on. -/
structure Laid (cells : List CellInput) (snapshot : NotebookSnapshot) : Prop where
  ordered : snapshot.bodies.Pairwise Body.Before
  blocks : ∀ body ∈ snapshot.bodies, body.lines = [] ∨
    Block snapshot.text body.virtualStartLine body.lines
  distinct : (snapshot.bodies.map Body.uri).Nodup
  cell : ∀ body ∈ snapshot.bodies, ∃ cell ∈ cells, ∃ source, sourceOf cell = some source ∧
    body.content = source.content
  order : cells.Pairwise fun first second => ∀ source, sourceOf first = some source →
    ∀ next, sourceOf second = some next → ∀ body ∈ snapshot.bodies, ∀ other ∈ snapshot.bodies,
      body.uri = source.uri → other.uri = next.uri → body.Before other
  body : ∀ cell ∈ cells, ∀ source, sourceOf cell = some source → ∃ body ∈ snapshot.bodies,
    body.content = source.content

theorem uris_sublist (cells : List CellInput) :
    ((cells.filterMap sourceOf).map Source.uri).Sublist (cells.map CellInput.uri) := by
  induction cells with
  | nil => exact .slnil
  | cons cell cells follows =>
    cases found : sourceOf cell with
    | none =>
      rw [List.filterMap_cons_none found]
      exact follows.cons _
    | some source =>
      rw [List.filterMap_cons_some found, List.map_cons, List.map_cons, (sourceOf_lines found).1]
      exact follows.cons_cons _

section Layout

variable {cells : List CellInput} (distinct : (cells.map CellInput.uri).Nodup)

theorem layOut_uris (sources : List Source) :
    (layOut [] 0 sources).2.map Body.uri = sources.map Source.uri := by
  have contents := congrArg (List.map Prod.fst) (layOut_contents [] 0 sources)
  rwa [List.map_map, List.map_map] at contents

include distinct

theorem layOut_distinct : ((layOut [] 0 (cells.filterMap sourceOf)).2.map Body.uri).Nodup :=
  layOut_uris _ ▸ distinct.sublist (uris_sublist cells)

/-- The bodies stand in the order of their cells. -/
theorem layOut_order :
    cells.Pairwise fun first second => ∀ source, sourceOf first = some source →
      ∀ next, sourceOf second = some next → ∀ body ∈ (layOut [] 0 (cells.filterMap sourceOf)).2,
        ∀ other ∈ (layOut [] 0 (cells.filterMap sourceOf)).2,
          body.uri = source.uri → other.uri = next.uri → body.Before other := by
  have single := List.inj_on_of_nodup_map (layOut_distinct distinct)
  have bodies : ((layOut [] 0 (cells.filterMap sourceOf)).2.map Body.uri).Pairwise fun uri next =>
      ∀ body ∈ (layOut [] 0 (cells.filterMap sourceOf)).2,
        ∀ other ∈ (layOut [] 0 (cells.filterMap sourceOf)).2,
          body.uri = uri → other.uri = next → body.Before other := by
    refine List.pairwise_map.2 ((layOut_ordered _ fun _ => rfl).2.imp_of_mem ?_)
    intro first second here there before body inside other among same alike
    rwa [single inside here same, single among there alike]
  rw [layOut_uris] at bodies
  exact List.pairwise_filterMap.1 (List.pairwise_map.1 bodies)

theorem fromCells_laid (version : Nat) : Laid cells (.fromCells cells version) where
  ordered := (layOut_ordered _ fun _ => rfl).2
  blocks := layOut_blocks _ fun _ => rfl
  distinct := layOut_distinct distinct
  cell body inside := by
    have content := List.mem_map_of_mem (f := Body.content) inside
    rw [NotebookSnapshot.fromCells, layOut_contents] at content
    obtain ⟨source, among, same⟩ := List.mem_map.1 content
    obtain ⟨cell, member, found⟩ := List.mem_filterMap.1 among
    exact ⟨cell, member, source, found, same.symm⟩
  order := layOut_order distinct
  body cell inside source found := by
    have content := List.mem_map_of_mem (f := Source.content)
      (List.mem_filterMap.2 ⟨cell, inside, found⟩)
    rw [← layOut_contents [] 0] at content
    exact List.mem_map.1 content

end Layout

/-! ## Positions -/

/-- Of bodies with distinct names the first one of a name is the only one. -/
theorem find?_uri {bodies : List Body} (distinct : (bodies.map Body.uri).Nodup) {body : Body}
    (inside : body ∈ bodies) :
    bodies.find? (fun candidate => candidate.uri = body.uri) = some body := by
  induction bodies with
  | nil => cases inside
  | cons first rest follows =>
    rw [List.map_cons, List.nodup_cons] at distinct
    rcases List.mem_cons.1 inside with rfl | later
    · exact List.find?_cons_of_pos (by simp)
    · have other : first.uri ≠ body.uri := fun same =>
        distinct.1 (same ▸ List.mem_map_of_mem later)
      rw [List.find?_cons_of_neg (by simpa using other), follows distinct.2 later]

theorem isBodyPosition_iff {body : Body} {line character : Int} :
    isBodyPosition body line character = true ↔ 0 ≤ line ∧ line < body.lines.length ∧
      0 ≤ character ∧ character ≤ ((body.lines.getD line.toNat []).length : Int) := by
  simp [isBodyPosition, and_assoc]

/-- The body is the body of the cell. -/
structure BodyOf (cell : CellInput) (body : Body) : Prop where
  uri : body.uri = cell.uri
  positions : ∀ position, BodyPosition cell position ↔
    isBodyPosition body (position.line - body.sourceStartLine) position.character = true
  lines : ∃ header, cellLines cell.text = header :: body.lines
  start : body.lines ≠ [] → body.sourceStartLine = 1

theorem bodyOf_source {cell : CellInput} {source : Source} {body : Body}
    (found : sourceOf cell = some source) (same : body.content = source.content) :
    BodyOf cell body := by
  obtain ⟨uri, sourceStartLine, virtualStartLine, lines⟩ := body
  obtain ⟨rfl, rfl, rfl⟩ : uri = source.uri ∧ sourceStartLine = source.sourceStartLine ∧
      lines = source.lines := by simpa [Body.content, Source.content] using same
  obtain ⟨name, start, header, -, split⟩ := sourceOf_lines found
  exact ⟨name, fun position => bodyPosition_iff found virtualStartLine, ⟨header, split⟩, start⟩

/-- The position of the text for a position of the body. -/
def toVirtualPosition (body : Body) (position : Position) : Position :=
  ⟨body.virtualStartLine + (position.line - body.sourceStartLine), position.character⟩

theorem toSourcePosition_toVirtual (body : Body) (position : Position) :
    toSourcePosition body (toVirtualPosition body position) = position := by
  obtain ⟨line, character⟩ := position
  simp only [toSourcePosition, toVirtualPosition, Position.mk.injEq, and_true]
  omega

theorem toVirtual_toSource (body : Body) (position : Position) :
    toVirtualPosition body (toSourcePosition body position) = position := by
  obtain ⟨line, character⟩ := position
  simp only [toSourcePosition, toVirtualPosition, Position.mk.injEq, and_true]
  omega

theorem virtual_line (body : Body) (position : Position) :
    (toVirtualPosition body position).line - body.virtualStartLine =
      position.line - body.sourceStartLine := by
  simp only [toVirtualPosition]
  omega

theorem source_line (body : Body) (position : Position) :
    (toSourcePosition body position).line - body.sourceStartLine =
      position.line - body.virtualStartLine := by
  simp only [toSourcePosition]
  omega

theorem comparePositions_source (body : Body) (first second : Position) :
    comparePositions (toSourcePosition body first) (toSourcePosition body second) =
      comparePositions first second := by
  have lines : (toSourcePosition body first).line - (toSourcePosition body second).line =
      first.line - second.line := by
    simp only [toSourcePosition]
    omega
  by_cases same : first.line = second.line
  · rw [comparePositions, comparePositions, if_pos same, if_pos (by omega)]
    rfl
  · rw [comparePositions, comparePositions, if_neg same, if_neg (by omega), lines]

theorem comparePositions_self (position : Position) : comparePositions position position = 0 := by
  simp [comparePositions]

namespace Laid

variable {cells : List CellInput} {snapshot : NotebookSnapshot} {position : Position}
  (laid : Laid cells snapshot)

include laid

/-- A position of the text lies in at most one body. -/
theorem bodyAt_eq_some {place : Nat} : snapshot.bodyAt position = some place ↔
    ∃ body, snapshot.bodies[place]? = some body ∧
      isBodyPosition body (position.line - body.virtualStartLine) position.character = true := by
  rw [NotebookSnapshot.bodyAt, List.findIdx?_eq_some_iff_getElem]
  constructor
  · rintro ⟨inside, holds, -⟩
    exact ⟨_, List.getElem?_eq_getElem inside, holds⟩
  · rintro ⟨body, found, holds⟩
    obtain ⟨inside, rfl⟩ := List.getElem?_eq_some_iff.1 found
    refine ⟨inside, holds, fun earlier before other => ?_⟩
    have apart := List.pairwise_iff_getElem.1 laid.ordered earlier place (by omega) inside before
    have first := isBodyPosition_iff.1 other
    have second := isBodyPosition_iff.1 holds
    unfold Body.Before at apart
    omega

variable {cell : CellInput}

theorem body_of (member : cell ∈ cells) (bsl : BslCell cell) :
    ∃ body ∈ snapshot.bodies, BodyOf cell body := by
  obtain ⟨source, found⟩ := bsl.source
  obtain ⟨body, inside, same⟩ := laid.body cell member source found
  exact ⟨body, inside, bodyOf_source found same⟩

variable {body : Body}

theorem cell_of (inside : body ∈ snapshot.bodies) :
    ∃ cell ∈ cells, BodyOf cell body := by
  obtain ⟨cell, member, source, found, same⟩ := laid.cell body inside
  exact ⟨cell, member, bodyOf_source found same⟩

theorem toVirtual_of (inside : body ∈ snapshot.bodies)
    (belongs : BodyOf cell body) (stands : BodyPosition cell position) :
    snapshot.toVirtual cell.uri position = some (toVirtualPosition body position) := by
  rw [NotebookSnapshot.toVirtual, ← belongs.uri, find?_uri laid.distinct inside]
  exact if_pos ((belongs.positions position).1 stands)

variable {range : Range}

/-- A range whose ends lie in one body leads to the cell of the body. -/
theorem toCell_of (inside : body ∈ snapshot.bodies)
    (ordered : comparePositions range.start range.stop ≤ 0)
    (start : isBodyPosition body (range.start.line - body.virtualStartLine)
      range.start.character = true)
    (stop : isBodyPosition body (range.stop.line - body.virtualStartLine)
      range.stop.character = true) :
    snapshot.toCell range =
      some (body.uri, ⟨toSourcePosition body range.start, toSourcePosition body range.stop⟩) := by
  obtain ⟨place, found⟩ := List.getElem?_of_mem inside
  have first := laid.bodyAt_eq_some.2 ⟨body, found, start⟩
  have last := laid.bodyAt_eq_some.2 ⟨body, found, stop⟩
  rw [NotebookSnapshot.toCell, if_neg (by omega), first, last]
  simp [found]

/-- A range that leads to a cell has its ends in the body of the cell. -/
theorem toCell_eq_some {mapped : Range} {uri : String}
    (found : snapshot.toCell range = some (uri, mapped)) :
    comparePositions range.start range.stop ≤ 0 ∧ ∃ body ∈ snapshot.bodies, body.uri = uri ∧
      mapped = ⟨toSourcePosition body range.start, toSourcePosition body range.stop⟩ ∧
      isBodyPosition body (range.start.line - body.virtualStartLine) range.start.character = true ∧
      isBodyPosition body (range.stop.line - body.virtualStartLine) range.stop.character = true := by
  rw [NotebookSnapshot.toCell] at found
  split at found
  · cases found
  · next ordered =>
    simp only [Option.bind_eq_bind, Option.bind_eq_some_iff] at found
    obtain ⟨first, start, last, stop, joint⟩ := found
    split at joint
    · next same =>
      subst same
      obtain ⟨body, here, within⟩ := laid.bodyAt_eq_some.1 start
      obtain ⟨other, there, ends⟩ := laid.bodyAt_eq_some.1 stop
      obtain rfl : body = other := Option.some.inj (here.symm.trans there)
      simp only [here, Option.bind_some, Option.some.injEq, Prod.mk.injEq] at joint
      exact ⟨by omega, body, List.mem_of_getElem? here, joint.1, joint.2.symm, within, ends⟩
    · cases joint

/-- A line of the body is the same line in the text. -/
theorem line_of (inside : body ∈ snapshot.bodies) {place : Nat}
    (within : place < body.lines.length) :
    (lines snapshot.text)[body.virtualStartLine + place]? = body.lines[place]? := by
  rcases laid.blocks body inside with none | stands
  · rw [none] at within
    cases within
  · exact stands.getElem? within

/-- A position of a body leads to the same line of the text, and back to itself. -/
theorem there_and_back (member : cell ∈ cells)
    (stands : BodyPosition cell position) :
    ∃ virtual, snapshot.toVirtual cell.uri position = some virtual ∧ 0 ≤ virtual.line ∧
      virtual.character = position.character ∧
      (lines snapshot.text)[virtual.line.toNat]? = (cellLines cell.text)[position.line.toNat]? ∧
      snapshot.toCell ⟨virtual, virtual⟩ = some (cell.uri, ⟨position, position⟩) := by
  obtain ⟨body, inside, belongs⟩ := laid.body_of member stands.bsl
  have placed := (belongs.positions position).1 stands
  have bounds := isBodyPosition_iff.1 placed
  have start := belongs.start (List.ne_nil_of_length_pos (by omega))
  have row := virtual_line body position
  refine ⟨_, laid.toVirtual_of inside belongs stands, by omega, rfl, ?_, ?_⟩
  · obtain ⟨place, same⟩ : ∃ place : Nat, position.line = place + 1 :=
      ⟨(position.line - 1).toNat, by omega⟩
    obtain ⟨header, split⟩ := belongs.lines
    rw [split, show position.line.toNat = place + 1 by omega, List.getElem?_cons_succ,
      ← laid.line_of inside (by omega),
      show (toVirtualPosition body position).line.toNat = body.virtualStartLine + place by omega]
  · rw [laid.toCell_of inside (Int.le_of_eq (comparePositions_self _)) (row ▸ placed)
      (row ▸ placed), toSourcePosition_toVirtual, belongs.uri]

/-- What leads to a cell is a range of its body: its ends come from positions of the body, and so
does every line of it. -/
theorem within_cell {mapped : Range} {uri : String}
    (found : snapshot.toCell range = some (uri, mapped)) :
    ∃ cell ∈ cells, cell.uri = uri ∧ BodyPosition cell mapped.start ∧
      BodyPosition cell mapped.stop ∧ comparePositions mapped.start mapped.stop ≤ 0 ∧
      snapshot.toVirtual uri mapped.start = some range.start ∧
      snapshot.toVirtual uri mapped.stop = some range.stop ∧
      ∀ line, range.start.line ≤ line → line ≤ range.stop.line → ∃ position,
        BodyPosition cell position ∧ snapshot.toVirtual uri position = some ⟨line, 0⟩ := by
  obtain ⟨ordered, body, inside, rfl, rfl, start, stop⟩ := laid.toCell_eq_some found
  obtain ⟨cell, member, belongs⟩ := laid.cell_of inside
  have source {virtual : Position}
      (holds : isBodyPosition body (virtual.line - body.virtualStartLine) virtual.character = true) :
      BodyPosition cell (toSourcePosition body virtual) ∧
        snapshot.toVirtual body.uri (toSourcePosition body virtual) = some virtual := by
    have stands : BodyPosition cell (toSourcePosition body virtual) :=
      (belongs.positions _).2 (by rw [source_line]; exact holds)
    exact ⟨stands, by
      rw [belongs.uri, laid.toVirtual_of inside belongs stands, toVirtual_toSource]⟩
  refine ⟨cell, member, belongs.uri.symm, (source start).1, (source stop).1,
    (by rwa [comparePositions_source]), (source start).2, (source stop).2, fun line first last => ?_⟩
  have opened := isBodyPosition_iff.1 start
  have closed := isBodyPosition_iff.1 stop
  have middle : isBodyPosition body (line - body.virtualStartLine) 0 = true :=
    isBodyPosition_iff.2 ⟨by omega, by omega, Int.le_refl 0, Int.natCast_nonneg _⟩
  exact ⟨toSourcePosition body ⟨line, 0⟩, source middle⟩

/-- The bodies of two cells take lines of their own, in the order of the cells. -/
theorem apart : cells.Pairwise fun first second => ∀ position other virtual next,
    BodyPosition first position → BodyPosition second other →
    snapshot.toVirtual first.uri position = some virtual →
    snapshot.toVirtual second.uri other = some next → virtual.line < next.line := by
  refine laid.order.imp_of_mem ?_
  intro first second here there before position other virtual next stands lies led brought
  obtain ⟨source, found⟩ := stands.bsl.source
  obtain ⟨sourced, follows⟩ := lies.bsl.source
  obtain ⟨body, inside, same⟩ := laid.body first here source found
  obtain ⟨behind, among, alike⟩ := laid.body second there sourced follows
  have belongs := bodyOf_source found same
  have belonging := bodyOf_source follows alike
  have ends := before source found sourced follows body inside behind among
    (congrArg Prod.fst same) (congrArg Prod.fst alike)
  rw [laid.toVirtual_of inside belongs stands] at led
  rw [laid.toVirtual_of among belonging lies] at brought
  cases led
  cases brought
  have upper := isBodyPosition_iff.1 ((belongs.positions _).1 stands)
  have lower := isBodyPosition_iff.1 ((belonging.positions _).1 lies)
  unfold Body.Before at ends
  simp only [toVirtualPosition]
  omega

end Laid

end OnecRuntime.Editor
