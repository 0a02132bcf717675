import OnecRuntime.Editor.SnapshotLaw

/-!
# Completions of the language server

A completion of the server holds edits of the text. It is offered in a cell only if all of them
are edits of that cell which do not touch one another.
-/

namespace OnecRuntime.Editor

/-! ## The item of the server -/

/-- A range as it comes: a coordinate that is absent or no number is `none`. -/
structure JsonRange where
  startLine : Option Rat
  startCharacter : Option Rat
  endLine : Option Rat
  endCharacter : Option Rat

/-- `Number.isInteger(number) && number >= 0`. -/
def coordinate : Option Rat → Option Int
  | some number => if number.isInt ∧ 0 ≤ number.num then some number.num else none
  | none => none

/-- `compare` of two positions. -/
def compare (left right : Position) : Int := comparePositions left right

def validRange (range : JsonRange) : Option Range := do
  let start : Position := ⟨← coordinate range.startLine, ← coordinate range.startCharacter⟩
  let stop : Position := ⟨← coordinate range.endLine, ← coordinate range.endCharacter⟩
  if compare start stop ≤ 0 then some ⟨start, stop⟩ else none

/-- The edit of an item, with a new text that is `none` if it is no text. -/
inductive ItemEdit where
  | range (range : JsonRange) (newText : Option Text)
  | insertReplace (insert replace : JsonRange) (newText : Option Text)

structure LspCompletion where
  textEdit : Option ItemEdit
  additionalTextEdits : Option (List (JsonRange × Option Text))

/-! ## The edits of the cell -/

inductive TextEdit where
  | range (range : Range) (newText : Text)
  | insertReplace (insert replace : Range) (newText : Text)

structure Completion where
  textEdit : Option TextEdit
  additionalTextEdits : Option (List (Range × Text))

def overlaps (first second : Range) : Bool :=
  if compare first.start first.stop = 0 ∧ compare second.start second.stop = 0 then
    decide (compare first.start second.start = 0)
  else
    decide (compare first.start second.stop < 0) && decide (compare second.start first.stop < 0)

section Mapping

variable (snapshot : NotebookSnapshot) (cellUri : String) (position : Position)

def mapRange (range : JsonRange) : Option Range := do
  let valid ← validRange range
  let (uri, mapped) ← snapshot.toCell valid
  if uri = cellUri then some mapped else none

def primaryRange (range : JsonRange) : Option Range := do
  let mapped ← mapRange snapshot cellUri range
  if mapped.start.line = mapped.stop.line ∧ compare mapped.start position ≤ 0 ∧
      compare position mapped.stop ≤ 0 then some mapped
  else none

/-- The range that the editor replaces by itself. -/
def defaultPrimary : Option JsonRange → Option (Option Range)
  | none => some none
  | some range => do
      let valid ← validRange range
      let _ ← snapshot.toVirtual cellUri valid.start
      let _ ← snapshot.toVirtual cellUri valid.stop
      some (some valid)

/-- The edit of the item in the cell, and the range it takes. -/
def mapTextEdit : ItemEdit → Option (TextEdit × Range)
  | .range range newText => do
      let newText ← newText
      let primary ← primaryRange snapshot cellUri position range
      some (.range primary newText, primary)
  | .insertReplace insert replace newText => do
      let newText ← newText
      let insert ← primaryRange snapshot cellUri position insert
      let replace ← primaryRange snapshot cellUri position replace
      if compare insert.start replace.start = 0 ∧ compare insert.stop replace.stop ≤ 0 then
        some (.insertReplace insert replace newText, replace)
      else none

/-- The loop over the additional edits, from the ranges that are taken. -/
def mapAdditional (occupied : List Range) :
    List (JsonRange × Option Text) → Option (List (Range × Text))
  | [] => some []
  | (range, newText) :: rest => do
      let range ← mapRange snapshot cellUri range
      let newText ← newText
      if occupied.any (overlaps · range) then none
      else
        let later ← mapAdditional (occupied ++ [range]) rest
        some ((range, newText) :: later)

/-- The edit of an item, and the range it takes or else the one that is implied. -/
def mapPrimary (standard : Option Range) :
    Option ItemEdit → Option (Option TextEdit × Option Range)
  | none => some (none, standard)
  | some edit => (mapTextEdit snapshot cellUri position edit).map fun (edit, range) =>
      (some edit, some range)

def mapCompletion (item : LspCompletion) (defaultRange : Option JsonRange) : Option Completion := do
  let standard ← defaultPrimary snapshot cellUri defaultRange
  let (textEdit, primary) ← mapPrimary snapshot cellUri position standard item.textEdit
  let occupied := [primary.getD ⟨position, position⟩]
  let additional ← mapAdditional snapshot cellUri occupied (item.additionalTextEdits.getD [])
  some ⟨textEdit, item.additionalTextEdits.map fun _ => additional⟩

end Mapping

/-! ## What an offered completion is -/

instance : LE Position :=
  ⟨fun left right => left.line < right.line ∨
    left.line = right.line ∧ left.character ≤ right.character⟩

/-- The range lies in the body of the cell. -/
def Within (cells : List CellInput) (cellUri : String) (range : Range) : Prop :=
  ∃ cell ∈ cells, cell.uri = cellUri ∧ BodyPosition cell range.start ∧
    BodyPosition cell range.stop ∧ range.start ≤ range.stop

/-- The range lies on one line, and the cursor in it or at one of its ends. -/
def Around (position : Position) (range : Range) : Prop :=
  range.start.line = range.stop.line ∧ range.start ≤ position ∧ position ≤ range.stop

/-- One range ends before the other begins. -/
def Separate (first second : Range) : Prop :=
  first.stop ≤ second.start ∨ second.stop ≤ first.start

/-- The ranges are separate, and no two insertions at one place. -/
def Apart (first second : Range) : Prop := Separate first second ∧ first ≠ second

/-- The ranges of an edit, of which the editor takes one. -/
def TextEdit.ranges : TextEdit → List Range
  | .range replaced _ => [replaced]
  | .insertReplace insert replace _ => [insert, replace]

def TextEdit.replaced : TextEdit → Range
  | .range replaced _ => replaced
  | .insertReplace _ replace _ => replace

namespace Completion

def primaries (completion : Completion) : List Range :=
  (completion.textEdit.map TextEdit.ranges).getD []

def replaced (completion : Completion) : List Range :=
  (completion.textEdit.map TextEdit.replaced).toList

def additional (completion : Completion) : List Range :=
  (completion.additionalTextEdits.getD []).map Prod.fst

end Completion

/-- The completion edits the cell alone, around the cursor, and no part of it twice. Of an item
without an edit of its own the editor replaces the implied range. -/
structure Sound (cells : List CellInput) (cellUri : String) (position : Position) (implied : Range)
    (completion : Completion) : Prop where
  within : ∀ range ∈ completion.primaries ++ completion.additional, Within cells cellUri range
  around : ∀ range ∈ completion.primaries, Around position range
  separate : ∀ primary ∈ completion.primaries,
    (primary :: completion.additional).Pairwise Separate
  apart : (completion.replaced ++ completion.additional).Pairwise Apart
  implied : completion.textEdit = none → ∀ range ∈ completion.additional, Separate implied range

/-! ## Positions and ranges in order -/

variable {left right : Position}

theorem Position.le_iff : left ≤ right ↔ left.line < right.line ∨
    left.line = right.line ∧ left.character ≤ right.character := Iff.rfl

theorem Position.eq_iff :
    left = right ↔ left.line = right.line ∧ left.character = right.character := by
  cases left
  cases right
  exact Position.mk.injEq .. ▸ Iff.rfl

theorem compare_le_iff : compare left right ≤ 0 ↔ left ≤ right := by
  rw [compare, comparePositions, Position.le_iff]
  split <;> omega

theorem compare_eq_iff : compare left right = 0 ↔ left = right := by
  rw [compare, comparePositions, Position.eq_iff]
  split <;> omega

theorem Position.le_or_lt (left right : Position) : left ≤ right ∨ compare right left < 0 := by
  rw [compare, comparePositions, Position.le_iff]
  split <;> omega

theorem Position.le_antisymm (first : left ≤ right) (second : right ≤ left) :
    left = right := by
  rw [Position.le_iff] at first second
  rw [Position.eq_iff]
  omega

theorem Position.le_trans {first second third : Position} (before : first ≤ second) (behind : second ≤ third) :
    first ≤ third := by
  rw [Position.le_iff] at before behind ⊢
  omega

theorem Position.le_refl (position : Position) : position ≤ position := .inr ⟨rfl, Int.le_refl _⟩

theorem Position.le_total (left right : Position) : left ≤ right ∨ right ≤ left := by
  rw [Position.le_iff, Position.le_iff]
  omega

/-- Ranges that do not overlap are apart. -/
theorem apart_of_overlaps {first second : Range} (ordered : first.start ≤ first.stop)
    (other : second.start ≤ second.stop) (none : overlaps first second = false) :
    Apart first second := by
  rw [overlaps] at none
  split at none
  · next empty =>
    rw [decide_eq_false_iff_not, compare_eq_iff] at none
    rw [compare_eq_iff, compare_eq_iff] at empty
    refine ⟨?_, fun same => none (congrArg Range.start same)⟩
    rcases Position.le_total first.start second.start with before | behind
    · exact .inl (empty.1 ▸ before)
    · exact .inr (empty.2 ▸ behind)
  · next some =>
    rw [Bool.and_eq_false_iff, decide_eq_false_iff_not, decide_eq_false_iff_not] at none
    have separate : Separate first second := by
      rcases none with behind | before
      · exact .inr ((Position.le_or_lt _ _).resolve_right behind)
      · exact .inl ((Position.le_or_lt _ _).resolve_right before)
    refine ⟨separate, ?_⟩
    rintro rfl
    have empty : first.start = first.stop := Position.le_antisymm ordered (separate.elim id id)
    exact some ⟨compare_eq_iff.2 empty, compare_eq_iff.2 empty⟩

end OnecRuntime.Editor

/-!
# Offered completions

Every range of an offered completion went through `mapRange`, so it lies in the cell. The ranges
that are taken grow with each additional edit, and none of them overlaps the next one.
-/

namespace OnecRuntime.Editor

section Mapping

variable {cells : List CellInput} {snapshot : NotebookSnapshot} {cellUri : String}
  {position : Position} (laid : Laid cells snapshot)

variable {range : JsonRange}

theorem validRange_ordered {valid : Range} (found : validRange range = some valid) :
    valid.start ≤ valid.stop := by
  simp only [validRange, Option.bind_eq_bind, Option.bind_eq_some_iff] at found
  obtain ⟨startLine, -, startCharacter, -, stopLine, -, stopCharacter, -, ordered⟩ := found
  rw [Option.ite_none_right_eq_some, Option.some.injEq] at ordered
  obtain ⟨ordered, rfl⟩ := ordered
  exact compare_le_iff.1 ordered

include laid in
theorem mapRange_within {mapped : Range}
    (found : mapRange snapshot cellUri range = some mapped) : Within cells cellUri mapped := by
  simp only [mapRange, Option.bind_eq_bind, Option.bind_eq_some_iff] at found
  obtain ⟨valid, -, ⟨uri, target⟩, led, same⟩ := found
  rw [Option.ite_none_right_eq_some, Option.some.injEq] at same
  obtain ⟨rfl, rfl⟩ := same
  obtain ⟨cell, member, uri, start, stop, ordered, -⟩ := laid.within_cell led
  exact ⟨cell, member, uri, start, stop, compare_le_iff.1 ordered⟩

theorem primaryRange_some {mapped : Range}
    (found : primaryRange snapshot cellUri position range = some mapped) :
    mapRange snapshot cellUri range = some mapped ∧ Around position mapped := by
  simp only [primaryRange, Option.bind_eq_bind, Option.bind_eq_some_iff] at found
  obtain ⟨target, led, same⟩ := found
  rw [Option.ite_none_right_eq_some, Option.some.injEq] at same
  obtain ⟨⟨line, before, behind⟩, rfl⟩ := same
  exact ⟨led, line, compare_le_iff.1 before, compare_le_iff.1 behind⟩

theorem Within.ordered {range : Range} (within : Within cells cellUri range) :
    range.start ≤ range.stop := by
  obtain ⟨_, _, _, _, _, ordered⟩ := within
  exact ordered

/-- What an edit of an item gives: ranges of the cell around the cursor, of which the replaced one
holds the others. -/
structure Primary (cells : List CellInput) (cellUri : String) (position : Position)
    (edit : TextEdit) : Prop where
  within : ∀ range ∈ edit.ranges, Within cells cellUri range
  around : ∀ range ∈ edit.ranges, Around position range
  replaced : edit.replaced ∈ edit.ranges
  inside : ∀ range ∈ edit.ranges, edit.replaced.start = range.start ∧
    range.stop ≤ edit.replaced.stop

include laid in
theorem mapTextEdit_primary {item : ItemEdit} {edit : TextEdit} {replaced : Range}
    (found : mapTextEdit snapshot cellUri position item = some (edit, replaced)) :
    Primary cells cellUri position edit ∧ replaced = edit.replaced := by
  cases item with
  | range range newText =>
    simp only [mapTextEdit, Option.bind_eq_bind, Option.bind_eq_some_iff] at found
    obtain ⟨text, -, primary, led, same⟩ := found
    cases same
    obtain ⟨mapped, around⟩ := primaryRange_some led
    exact ⟨⟨List.forall_mem_singleton.2 (mapRange_within laid mapped),
      List.forall_mem_singleton.2 around, List.mem_singleton_self _,
      List.forall_mem_singleton.2 ⟨rfl, Position.le_refl _⟩⟩, rfl⟩
  | insertReplace insert replace newText =>
    simp only [mapTextEdit, Option.bind_eq_bind, Option.bind_eq_some_iff] at found
    obtain ⟨text, -, first, ledFirst, second, ledSecond, same⟩ := found
    rw [Option.ite_none_right_eq_some, Option.some.injEq] at same
    obtain ⟨⟨starts, stops⟩, same⟩ := same
    cases same
    obtain ⟨mappedFirst, aroundFirst⟩ := primaryRange_some ledFirst
    obtain ⟨mappedSecond, aroundSecond⟩ := primaryRange_some ledSecond
    constructor
    · constructor
      · exact List.forall_mem_cons.2 ⟨mapRange_within laid mappedFirst,
          List.forall_mem_singleton.2 (mapRange_within laid mappedSecond)⟩
      · exact List.forall_mem_cons.2 ⟨aroundFirst, List.forall_mem_singleton.2 aroundSecond⟩
      · exact List.mem_cons_of_mem _ (List.mem_singleton_self _)
      · exact List.forall_mem_cons.2 ⟨⟨(compare_eq_iff.1 starts).symm, compare_le_iff.1 stops⟩,
          List.forall_mem_singleton.2 ⟨rfl, Position.le_refl _⟩⟩
    · rfl

include laid in
/-- The additional edits lie in the cell, apart from what was taken before them. -/
theorem mapAdditional_apart {edits : List (JsonRange × Option Text)} {occupied : List Range}
    {mapped : List (Range × Text)} (ordered : ∀ range ∈ occupied, range.start ≤ range.stop)
    (found : mapAdditional snapshot cellUri occupied edits = some mapped) :
    (∀ range ∈ mapped.map Prod.fst, Within cells cellUri range) ∧
      (∀ taken ∈ occupied, ∀ range ∈ mapped.map Prod.fst, Apart taken range) ∧
      (mapped.map Prod.fst).Pairwise Apart := by
  induction edits generalizing occupied mapped with
  | nil =>
    cases found
    exact ⟨List.forall_mem_nil _, fun _ _ => List.forall_mem_nil _, .nil⟩
  | cons edit rest follows =>
    obtain ⟨range, newText⟩ := edit
    simp only [mapAdditional, Option.bind_eq_bind, Option.bind_eq_some_iff] at found
    obtain ⟨target, led, text, -, free⟩ := found
    split at free
    · cases free
    · next none =>
      obtain ⟨later, taken, same⟩ := Option.bind_eq_some_iff.1 free
      cases same
      have within := mapRange_within laid led
      have grown : ∀ range ∈ occupied ++ [target], range.start ≤ range.stop :=
        List.forall_mem_append.2 ⟨ordered, List.forall_mem_singleton.2 within.ordered⟩
      obtain ⟨inside, apart, pairwise⟩ := follows grown taken
      rw [List.forall_mem_append, List.forall_mem_singleton] at apart
      rw [List.map_cons]
      refine ⟨List.forall_mem_cons.2 ⟨within, inside⟩, fun range old => ?_,
        List.pairwise_cons.2 ⟨apart.2, pairwise⟩⟩
      refine List.forall_mem_cons.2 ⟨apart_of_overlaps (ordered range old) within.ordered ?_,
        apart.1 range old⟩
      by_contra past
      exact none (List.any_eq_true.2 ⟨range, old, by simpa using past⟩)

/-- What is separate from a range is separate from its front. -/
theorem Separate.front {whole front other : Range} (separate : Separate whole other)
    (start : whole.start = front.start) (stop : front.stop ≤ whole.stop) : Separate front other := by
  rcases separate with before | behind
  · exact .inl (Position.le_trans stop before)
  · exact .inr (start ▸ behind)

/-- The range that is taken before the additional edits. -/
def impliedRange (position : Position) (defaultRange : Option JsonRange) : Range :=
  (defaultRange.bind validRange).getD ⟨position, position⟩

variable (position) in
theorem defaultPrimary_some {defaultRange : Option JsonRange} {standard : Option Range}
    (found : defaultPrimary snapshot cellUri defaultRange = some standard) :
    standard.getD ⟨position, position⟩ = impliedRange position defaultRange ∧
      (impliedRange position defaultRange).start ≤ (impliedRange position defaultRange).stop := by
  cases defaultRange with
  | none =>
    cases found
    exact ⟨rfl, Position.le_refl _⟩
  | some range =>
    simp only [defaultPrimary, Option.bind_eq_bind, Option.bind_eq_some_iff] at found
    obtain ⟨valid, parsed, _, -, _, -, same⟩ := found
    cases same
    have implied : impliedRange position (some range) = valid := by
      rw [impliedRange, Option.bind_some, parsed]
      rfl
    rw [implied]
    exact ⟨rfl, validRange_ordered parsed⟩

include laid in
/-- Every completion that is offered is sound. -/
theorem mapCompletion_sound {item : LspCompletion} {defaultRange : Option JsonRange}
    {completion : Completion}
    (found : mapCompletion snapshot cellUri position item defaultRange = some completion) :
    Sound cells cellUri position (impliedRange position defaultRange) completion := by
  simp only [mapCompletion, Option.bind_eq_bind, Option.bind_eq_some_iff] at found
  obtain ⟨standard, implies, ⟨textEdit, primary⟩, edited, mapped, taken, same⟩ := found
  obtain ⟨implied, ordered⟩ := defaultPrimary_some position implies
  cases same
  have additional : Completion.additional ⟨textEdit, item.additionalTextEdits.map fun _ => mapped⟩ =
      mapped.map Prod.fst := by
    cases edits : item.additionalTextEdits with
    | none =>
      rw [edits] at taken
      cases taken
      rfl
    | some edits => rfl
  cases edit : item.textEdit with
  | none =>
    rw [edit] at edited
    cases edited
    rw [implied] at taken
    obtain ⟨within, apart, pairwise⟩ :=
      mapAdditional_apart laid (List.forall_mem_singleton.2 ordered) taken
    rw [← additional] at within apart pairwise
    exact ⟨within, List.forall_mem_nil _, List.forall_mem_nil _, pairwise,
      fun _ range inside => (apart _ (List.mem_singleton_self _) range inside).1⟩
  | some edit =>
    rw [edit, mapPrimary, Option.map_eq_some_iff] at edited
    obtain ⟨⟨mappedEdit, replaced⟩, led, same⟩ := edited
    cases same
    obtain ⟨primary, rfl⟩ := mapTextEdit_primary laid led
    have replacing := (primary.within _ primary.replaced).ordered
    obtain ⟨within, apart, pairwise⟩ :=
      mapAdditional_apart laid (List.forall_mem_singleton.2 replacing) taken
    rw [← additional] at within apart pairwise
    have free := apart _ (List.mem_singleton_self _)
    constructor
    · exact List.forall_mem_append.2 ⟨primary.within, within⟩
    · exact primary.around
    · intro range among
      obtain ⟨start, stop⟩ := primary.inside range among
      refine List.pairwise_cons.2 ⟨fun other inside => ?_, pairwise.imp And.left⟩
      exact (free other inside).1.front start stop
    · exact List.pairwise_cons.2 ⟨free, pairwise⟩
    · exact fun none => nomatch none

end Mapping

/-- Positions of the cells go to the text and come back, ranges of the text come from one body or
from none, the bodies follow one another, and an offered completion edits the cell alone. -/
theorem notebook_positions (cells : List CellInput) (distinct : (cells.map CellInput.uri).Nodup)
    (version : Nat) :
    let snapshot := NotebookSnapshot.fromCells cells version
    (∀ cell ∈ cells, ∀ position, BodyPosition cell position →
      ∃ virtual, snapshot.toVirtual cell.uri position = some virtual ∧ 0 ≤ virtual.line ∧
        virtual.character = position.character ∧
        (lines snapshot.text)[virtual.line.toNat]? = (cellLines cell.text)[position.line.toNat]? ∧
        snapshot.toCell ⟨virtual, virtual⟩ = some (cell.uri, ⟨position, position⟩)) ∧
    (∀ range uri mapped, snapshot.toCell range = some (uri, mapped) →
      ∃ cell ∈ cells, cell.uri = uri ∧ BodyPosition cell mapped.start ∧
        BodyPosition cell mapped.stop ∧ comparePositions mapped.start mapped.stop ≤ 0 ∧
        snapshot.toVirtual uri mapped.start = some range.start ∧
        snapshot.toVirtual uri mapped.stop = some range.stop ∧
        ∀ line, range.start.line ≤ line → line ≤ range.stop.line → ∃ position,
          BodyPosition cell position ∧ snapshot.toVirtual uri position = some ⟨line, 0⟩) ∧
    (cells.Pairwise fun first second => ∀ position other virtual next,
      BodyPosition first position → BodyPosition second other →
      snapshot.toVirtual first.uri position = some virtual →
      snapshot.toVirtual second.uri other = some next → virtual.line < next.line) ∧
    ∀ cellUri position item defaultRange completion,
      mapCompletion snapshot cellUri position item defaultRange = some completion →
        Sound cells cellUri position (impliedRange position defaultRange) completion := by
  have laid := fromCells_laid distinct version
  refine ⟨fun cell member position stands => laid.there_and_back member stands,
    fun range uri mapped found => laid.within_cell found, laid.apart,
    fun cellUri position item defaultRange completion found => mapCompletion_sound laid found⟩

/-- A cell with a line break of one character, and one with a line break of two. -/
def twoCells : List CellInput :=
  [⟨"cell:a", .code, "python", magic ++ [10, 65]⟩, ⟨"cell:b", .code, "python", magic ++ [13, 10, 66]⟩]

theorem twoCells_position : BodyPosition ⟨"cell:b", .code, "python", magic ++ [13, 10, 66]⟩ ⟨1, 1⟩ :=
  have found : sourceOf ⟨"cell:b", .code, "python", magic ++ [13, 10, 66]⟩ =
      some ⟨"cell:b", 1, [66]⟩ := rfl
  (bodyPosition_iff found 2).2 rfl

theorem notebook_positions_two :
    (NotebookSnapshot.fromCells twoCells 7).text = [65, 10, 10, 66] ∧
      ∃ virtual, (NotebookSnapshot.fromCells twoCells 7).toVirtual "cell:b" ⟨1, 1⟩ = some virtual ∧
        virtual.character = 1 ∧
        (NotebookSnapshot.fromCells twoCells 7).toCell ⟨virtual, virtual⟩ =
          some ("cell:b", ⟨⟨1, 1⟩, ⟨1, 1⟩⟩) := by
  obtain ⟨virtual, led, -, character, -, back⟩ := (notebook_positions twoCells (by decide) 7).1 _
    (List.mem_cons_of_mem _ List.mem_cons_self) _ twoCells_position
  exact ⟨rfl, virtual, led, character, back⟩

end OnecRuntime.Editor
