import OnecRuntime.SourceMaps.Segments

/-!
# Offset lookup

`map_offset` drops the empty segments, bisects the starts of the others, and
reads the end of the text from the last of them.  On a source map this is the
lookup of the one segment that holds the offset.
-/

namespace OnecRuntime.SourceMaps

open OnecRuntime.Library

structure MappedOffset where
  relation : MappingRelation
  unit : Option SourceUnitRef := none
  originSpan : Option SourceSpan := none
  syntheticRegion : Option Region := none
  anchor : Option (SourceUnitRef × SourceSpan) := none
  deriving DecidableEq, Repr

/-- `_mapped_segment`: the report of one segment at an offset. -/
def mappedSegment (segment : SourceMapSegment) (offset : Nat) (eof : Bool) :
    SourceResult MappedOffset :=
  match segment.provenance with
  | .synthetic region =>
      .ok { relation := .synthetic, syntheticRegion := some region, anchor := segment.anchorUnit }
  | .derived (.unit unit) origin _ =>
      .ok { relation := .derived, unit := some unit, originSpan := some origin,
            anchor := segment.anchorUnit }
  | .exact (.unit unit) start _ =>
      let width := if eof ∨ segment.start = segment.stop then 0 else 1
      .ok { relation := .exact, unit := some unit,
            originSpan := some (.ofWidth (start + (offset - segment.start)) width),
            anchor := segment.anchorUnit }
  | _ => .error "flattened source map contains an intermediate artifact reference"

/-- An exact segment without text marks one boundary of an empty artifact. -/
def SourceMapSegment.exactBoundary (segment : SourceMapSegment) : Bool :=
  decide (segment.relation = .exact) && decide (segment.start = segment.stop)

def mapOffset (map : SourceMap) (offset : Nat) : SourceResult MappedOffset :=
  if map.generated.characterLength < offset then
    .error "offset must be within the generated source"
  else
    let positive := map.segments.filter SourceMapSegment.positive
    if offset = map.generated.characterLength then
      match positive.getLast? with
      | some segment => mappedSegment segment offset true
      | none =>
          match map.segments.filter SourceMapSegment.exactBoundary with
          | [segment] => mappedSegment segment offset true
          | _ => .error "offset has no mappable position in the generated source"
    else
      match bisectRight (positive.map SourceMapSegment.start) offset with
      | 0 => .error "offset has no generated source mapping"
      | index + 1 =>
          match positive[index]? with
          | none => .error "offset has no generated source mapping"
          | some segment =>
              if segment.stop ≤ offset then .error "offset has no generated source mapping"
              else mappedSegment segment offset false

/-- The last segment with text is the one that holds the last character. -/
theorem getLast?_positive {segments : List SourceMapSegment} {first last : Nat}
    (covering : Covering first last segments) (some_text : first < last) :
    (segments.filter SourceMapSegment.positive).getLast? = segmentAt segments (last - 1) := by
  induction segments generalizing first with
  | nil =>
      have same : first = last := covering
      omega
  | cons segment rest ih =>
      obtain ⟨start, ordered, inner⟩ := covering
      have upper := inner.le
      unfold segmentAt pieceAt
      rw [List.find?_cons, List.filter_cons]
      by_cases ends : segment.stop = last
      · have positive : segment.positive = true := by
          rw [SourceMapSegment.positive, decide_eq_true_iff]
          omega
        have nothing : rest.filter SourceMapSegment.positive = [] := by
          refine List.filter_eq_nil_iff.mpr fun other member => ?_
          have bound := inner.bounds member
          rw [SourceMapSegment.positive, decide_eq_true_iff]
          omega
        have here : Covers SourceMapSegment.start SourceMapSegment.stop (last - 1) segment
            = true := covers_iff.mpr ⟨by omega, by omega⟩
        rw [if_pos positive, nothing, here]
        rfl
      · have away : Covers SourceMapSegment.start SourceMapSegment.stop (last - 1) segment
            = false := by
          rw [← Bool.not_eq_true, covers_iff]
          omega
        have later := ih inner (by omega)
        rw [away]
        split
        · rw [List.getLast?_cons, later]
          obtain ⟨found, at_last⟩ := inner.pieceAt_isSome
            (show segment.stop ≤ last - 1 by omega) (show last - 1 < last by omega)
          change some ((segmentAt rest (last - 1)).getD segment) = segmentAt rest (last - 1)
          rw [segmentAt, at_last]
          rfl
        · exact later

namespace SourceMap

/-- Inside the text, `map_offset` reports the segment that holds the offset. -/
theorem mapOffset_inside (map : SourceMap) {offset : Nat} {segment : SourceMapSegment}
    (found : segmentAt map.segments offset = some segment) :
    mapOffset map offset = mappedSegment segment offset false := by
  have bounds := pieceAt_bounds found
  have limits := map.covering.bounds (pieceAt_mem found)
  have positive : pieceAt SourceMapSegment.start SourceMapSegment.stop
      (map.segments.filter SourceMapSegment.positive) offset = some segment :=
    (pieceAt_filter_positive map.segments offset).trans found
  obtain ⟨index, bisected, selected⟩ :=
    map.covering.filter_positive.bisectRight_starts positive
  unfold mapOffset
  rw [if_neg (by omega), if_neg (by omega)]
  change bisectRight ((map.segments.filter SourceMapSegment.positive).map
    SourceMapSegment.start) offset = index + 1 at bisected
  rw [bisected]
  change (map.segments.filter SourceMapSegment.positive)[index]? = some segment at selected
  simp only [selected]
  rw [if_neg (by omega)]

/-- At the end of a nonempty text, it reports the segment of the last character. -/
theorem mapOffset_end (map : SourceMap) (some_text : 0 < map.generated.characterLength)
    {segment : SourceMapSegment}
    (found : segmentAt map.segments (map.generated.characterLength - 1) = some segment) :
    mapOffset map map.generated.characterLength =
      mappedSegment segment map.generated.characterLength true := by
  unfold mapOffset
  rw [if_neg (Nat.lt_irrefl _), if_pos rfl]
  rw [getLast?_positive map.covering some_text, found]

/-- Over an empty text a lookup succeeds at an exact boundary only. -/
theorem mapOffset_empty (map : SourceMap) (empty : map.generated.characterLength = 0)
    {mapped : MappedOffset} (report : mapOffset map 0 = .ok mapped) :
    ∃ segment ∈ map.segments, segment.exactBoundary = true ∧
      mappedSegment segment 0 true = .ok mapped := by
  have nothing : map.segments.filter SourceMapSegment.positive = [] := by
    refine List.filter_eq_nil_iff.mpr fun segment member => ?_
    have bound := map.covering.bounds member
    rw [SourceMapSegment.positive, decide_eq_true_iff]
    omega
  unfold mapOffset at report
  rw [if_neg (by omega), nothing] at report
  dsimp only at report
  rw [if_pos empty.symm] at report
  simp only [List.getLast?_nil] at report
  split at report
  · next segment boundary =>
      have member : segment ∈ map.segments.filter SourceMapSegment.exactBoundary := by
        rw [boundary]
        exact List.mem_singleton.mpr rfl
      obtain ⟨inside, exactBoundary⟩ := List.mem_filter.mp member
      exact ⟨segment, inside, exactBoundary, report⟩
  · cases report

theorem segmentAt_isSome (map : SourceMap) {offset : Nat}
    (inside : offset < map.generated.characterLength) :
    ∃ segment, segmentAt map.segments offset = some segment :=
  map.covering.pieceAt_isSome (Nat.zero_le _) inside

end SourceMap

end OnecRuntime.SourceMaps
