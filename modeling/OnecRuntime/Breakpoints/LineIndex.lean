import OnecRuntime.Library.Bisect
import OnecRuntime.Library.Fallible
import OnecRuntime.SourceMaps.Segments

/-!
# Line indices

`LineIndex` keeps the offsets at which the lines of a text begin.  A line is the
range up to the next start, its line feed included, so every offset lies in the
line that the bisection of the starts finds.
-/

namespace OnecRuntime.Breakpoints

open OnecRuntime.Library OnecRuntime.SourceMaps

/-- The offsets behind the line feeds of a text that begins at an offset. -/
def lineStartsFrom (offset : Nat) : Text → List Nat
  | [] => []
  | character :: rest =>
      if character = '\n' then (offset + 1) :: lineStartsFrom (offset + 1) rest
      else lineStartsFrom (offset + 1) rest

theorem lineStartsFrom_bounds {offset start : Nat} {text : Text}
    (member : start ∈ lineStartsFrom offset text) :
    offset < start ∧ start ≤ offset + text.length := by
  induction text generalizing offset with
  | nil => cases member
  | cons character rest ih =>
      rw [List.length_cons]
      rw [lineStartsFrom] at member
      split_ifs at member
      · rcases List.mem_cons.mp member with rfl | later
        · omega
        · have bounds := ih later
          omega
      · have bounds := ih member
        omega

theorem lineStartsFrom_sorted (offset : Nat) (text : Text) :
    (lineStartsFrom offset text).Pairwise (· < ·) := by
  induction text generalizing offset with
  | nil => exact List.Pairwise.nil
  | cons character rest ih =>
      rw [lineStartsFrom]
      split_ifs
      · exact List.pairwise_cons.mpr
          ⟨fun start later => (lineStartsFrom_bounds later).1, ih (offset + 1)⟩
      · exact ih (offset + 1)

/-- `_ImmutableLineIndex` checks what a `LineIndex` has by construction. -/
structure LineIndex where
  length : Nat
  lineStarts : List Nat
  first : lineStarts[0]? = some 0
  sorted : lineStarts.Pairwise (· < ·)
  bounded : ∀ start ∈ lineStarts, start ≤ length

namespace LineIndex

def ofText (text : Text) : LineIndex where
  length := text.length
  lineStarts := 0 :: lineStartsFrom 0 text
  first := rfl
  sorted := List.pairwise_cons.mpr
    ⟨fun _ later => (lineStartsFrom_bounds later).1, lineStartsFrom_sorted 0 text⟩
  bounded := by
    intro start member
    rcases List.mem_cons.mp member with rfl | later
    · exact Nat.zero_le _
    · have bounds := (lineStartsFrom_bounds later).2
      omega

/-- The line of an offset. -/
def lineOf (index : LineIndex) (offset : Nat) : Nat := bisectRight index.lineStarts offset

def offsetToLineColumn (index : LineIndex) (offset : Nat) : SourceResult (Nat × Nat) :=
  if index.length < offset then .error "offset must be within the source"
  else
    let line := index.lineOf offset
    .ok (line, offset - index.lineStarts[line - 1]?.getD 0 + 1)

/-- The end of a line: the next start, or the end of the text. -/
def lineStop (index : LineIndex) (line : Nat) : Nat := index.lineStarts[line]?.getD index.length

def lineRange (index : LineIndex) (line : Nat) : SourceResult SourceSpan :=
  match line with
  | 0 => .error "line must be within the source"
  | earlier + 1 =>
      match index.lineStarts[earlier]? with
      | none => .error "line must be within the source"
      | some start => .ok (.ofWidth start (index.lineStop (earlier + 1) - start))

variable (index : LineIndex)

theorem ascending : index.lineStarts.Pairwise (· ≤ ·) := index.sorted.imp Nat.le_of_lt

variable {offset earlier : Nat}

theorem lt_lineOf_iff {index : LineIndex} :
    earlier < index.lineOf offset ↔
      ∃ start, index.lineStarts[earlier]? = some start ∧ start ≤ offset :=
  lt_bisectRight_iff index.ascending

theorem lineOf_pos (offset : Nat) : 0 < index.lineOf offset :=
  lt_lineOf_iff.mpr ⟨0, index.first, Nat.zero_le _⟩

theorem lineOf_monotone : Monotone index.lineOf := bisectRight_monotone index.ascending

theorem start_lt_start {index : LineIndex} {later start other : Nat}
    (found : index.lineStarts[earlier]? = some start)
    (otherFound : index.lineStarts[later]? = some other) (before : earlier < later) :
    start < other := by
  obtain ⟨inside, rfl⟩ := List.getElem?_eq_some_iff.mp found
  obtain ⟨otherInside, rfl⟩ := List.getElem?_eq_some_iff.mp otherFound
  exact List.pairwise_iff_getElem.mp index.sorted earlier later inside otherInside before

/-- The start of a line lies in that line. -/
theorem lineOf_start {index : LineIndex} {start : Nat}
    (found : index.lineStarts[earlier]? = some start) : index.lineOf start = earlier + 1 := by
  refine Nat.le_antisymm ?_ (lt_lineOf_iff.mpr ⟨start, found, Nat.le_refl _⟩)
  by_contra beyond
  obtain ⟨other, otherFound, small⟩ := lt_lineOf_iff.mp (Nat.lt_of_not_le beyond)
  have ahead := start_lt_start found otherFound (Nat.lt_succ_self earlier)
  omega

theorem lineStop_bounds {index : LineIndex} {start : Nat}
    (found : index.lineStarts[earlier]? = some start) :
    start ≤ index.lineStop (earlier + 1) ∧ index.lineStop (earlier + 1) ≤ index.length := by
  unfold lineStop
  cases next : index.lineStarts[earlier + 1]? with
  | none =>
      exact ⟨index.bounded start (List.mem_of_getElem? found), Nat.le_refl _⟩
  | some other =>
      exact ⟨Nat.le_of_lt (start_lt_start found next (Nat.lt_succ_self earlier)),
        index.bounded other (List.mem_of_getElem? next)⟩

theorem lineRange_ok {index : LineIndex} {line : Nat} {span : SourceSpan} :
    index.lineRange line = .ok span ↔ 0 < line ∧
      index.lineStarts[line - 1]? = some span.start ∧ span.stop = index.lineStop line := by
  cases line with
  | zero => exact iff_of_false (fun impossible => by cases impossible) fun both => by omega
  | succ earlier =>
      rw [lineRange, Nat.add_sub_cancel]
      cases found : index.lineStarts[earlier]? with
      | none =>
          refine iff_of_false (fun impossible => by cases impossible) ?_
          rintro ⟨_, missing, _⟩
          cases missing
      | some start =>
          have bounds := lineStop_bounds found
          constructor
          · intro same
            obtain rfl := Except.ok.inj same
            refine ⟨Nat.succ_pos _, rfl, ?_⟩
            rw [SourceSpan.ofWidth_stop]
            omega
          · rintro ⟨_, starts, stops⟩
            obtain rfl := Option.some.inj starts
            refine congrArg Except.ok (SourceSpan.ext rfl ?_)
            rw [SourceSpan.ofWidth_stop]
            omega

/-- The offsets of a range of a line lie in the line. -/
theorem lineOf_inside {index : LineIndex} {line : Nat} {span : SourceSpan}
    (range : index.lineRange line = .ok span) (lower : span.start ≤ offset)
    (upper : offset < span.stop) : index.lineOf offset = line := by
  obtain ⟨positive, found, stops⟩ := lineRange_ok.mp range
  have reached : line - 1 < index.lineOf offset := lt_lineOf_iff.mpr ⟨_, found, lower⟩
  have ahead : ¬line < index.lineOf offset := by
    intro beyond
    obtain ⟨other, otherFound, small⟩ := lt_lineOf_iff.mp beyond
    rw [stops, lineStop, otherFound] at upper
    exact Nat.lt_irrefl _ (small.trans_lt upper)
  omega

/-- The range of the line of an offset holds it; behind the last character it may only touch it. -/
theorem lineRange_lineOf (inside : offset ≤ index.length) :
    ∃ span, index.lineRange (index.lineOf offset) = .ok span ∧ span.start ≤ offset ∧
      (offset < span.stop ∨ offset = index.length ∧ span.stop = index.length) := by
  have positive := index.lineOf_pos offset
  obtain ⟨start, found, lower⟩ := lt_lineOf_iff.mp (Nat.sub_lt positive Nat.one_pos)
  have bounds := lineStop_bounds found
  rw [Nat.sub_add_cancel positive] at bounds
  refine ⟨⟨start, index.lineStop (index.lineOf offset), bounds.1⟩,
    lineRange_ok.mpr ⟨positive, found, rfl⟩, lower, ?_⟩
  change offset < index.lineStop _ ∨ offset = index.length ∧ index.lineStop _ = index.length
  unfold lineStop
  cases next : index.lineStarts[index.lineOf offset]? with
  | none =>
      rcases Nat.lt_or_ge offset index.length with before | reached
      · exact .inl before
      · exact .inr ⟨Nat.le_antisymm inside reached, rfl⟩
  | some other =>
      refine .inl ?_
      by_contra reached
      exact Nat.lt_irrefl _ (lt_lineOf_iff.mpr ⟨other, next, Nat.le_of_not_lt reached⟩)

/-- The lines of a stretch of offsets are those from the first to the last. -/
theorem lineOf_between {index : LineIndex} {first last line : Nat} (ordered : first < last) :
    (∃ offset, first ≤ offset ∧ offset < last ∧ index.lineOf offset = line) ↔
      index.lineOf first ≤ line ∧ line ≤ index.lineOf (last - 1) := by
  constructor
  · rintro ⟨offset, lower, upper, rfl⟩
    exact ⟨index.lineOf_monotone lower, index.lineOf_monotone (Nat.le_pred_of_lt upper)⟩
  · rintro ⟨lower, upper⟩
    rcases Nat.eq_or_lt_of_le lower with same | later
    · exact ⟨first, Nat.le_refl _, ordered, same⟩
    · -- the line begins inside the stretch
      obtain ⟨start, found, reached⟩ := lt_lineOf_iff.mp (show line - 1 < index.lineOf (last - 1) by omega)
      have begins := lineOf_start found
      refine ⟨start, ?_, by omega, by omega⟩
      by_contra before
      have early := index.lineOf_monotone (Nat.le_of_lt (Nat.lt_of_not_le before))
      omega

theorem offsetToLineColumn_ok (inside : offset ≤ index.length) :
    ∃ column, index.offsetToLineColumn offset = .ok (index.lineOf offset, column) := by
  unfold offsetToLineColumn
  rw [if_neg (Nat.not_lt.mpr inside)]
  exact ⟨_, rfl⟩

end LineIndex

end OnecRuntime.Breakpoints
