import Mathlib.Data.List.TakeWhile
import OnecRuntime.Reload.Compact
import OnecRuntime.SourceMaps.Reused

/-!
# The parent projector

The projector moves its cursor forward only, past segments that stop before the
spans to come.  So it finds the segments that meet a span, and the pieces of
original text report what the parent map reports.
-/

namespace OnecRuntime.Reload

open OnecRuntime.Library OnecRuntime.SourceMaps

/-- The segments with text that meet a span. -/
def meeting (map : SourceMap) (span : SourceSpan) : List SourceMapSegment :=
  (projectorSegments map).filter (overlaps · span)

/-- The projector has passed only segments that stop at or before an offset. -/
def Passed (map : SourceMap) (cursor : Nat) (remaining : List SourceMapSegment) : Prop :=
  ∃ front, projectorSegments map = front ++ remaining ∧
    ∀ segment ∈ front, segment.stop ≤ cursor

variable {map : SourceMap} {cursor : Nat} {remaining : List SourceMapSegment} {span : SourceSpan}

theorem projectorSegments_covering (map : SourceMap) :
    Covering 0 map.generated.characterLength (projectorSegments map) :=
  map.covering.filter_positive

variable {segment : SourceMapSegment}

theorem projectorSegments_positive
    (member : segment ∈ projectorSegments map) : segment.start < segment.stop :=
  of_decide_eq_true (List.mem_filter.mp member).2

theorem overlaps_positive (wide : segment.start < segment.stop) :
    overlaps segment span = true ↔ segment.start < span.stop ∧ span.start < segment.stop := by
  rw [overlaps_iff]
  omega

theorem mem_meeting :
    segment ∈ meeting map span ↔ segment ∈ projectorSegments map ∧
      segment.start < span.stop ∧ span.start < segment.stop := by
  rw [meeting, List.mem_filter]
  constructor
  · rintro ⟨member, overlap⟩
    exact ⟨member, (overlaps_positive (projectorSegments_positive member)).mp overlap⟩
  · rintro ⟨member, apart⟩
    exact ⟨member, (overlaps_positive (projectorSegments_positive member)).mpr apart⟩

theorem meeting_ne_nil (wide : span.start < span.stop)
    (inside : span.stop ≤ map.generated.characterLength) : meeting map span ≠ [] := by
  obtain ⟨segment, found⟩ := (projectorSegments_covering map).pieceAt_isSome
    (Nat.zero_le span.start) (show span.start < _ by omega)
  have bounds := pieceAt_bounds found
  exact List.ne_nil_of_mem (mem_meeting.mpr ⟨pieceAt_mem found, by omega, bounds.2⟩)

theorem Passed.start (map : SourceMap) : Passed map 0 (projectorSegments map) :=
  ⟨[], rfl, fun _ member => absurd member List.not_mem_nil⟩

theorem Passed.mono (passed : Passed map cursor remaining) {later : Nat} (le : cursor ≤ later) :
    Passed map later remaining := by
  obtain ⟨front, whole, stops⟩ := passed
  exact ⟨front, whole, fun segment member => Nat.le_trans (stops segment member) le⟩

/-- The cursor passes the segments before a span. -/
theorem Passed.advance (passed : Passed map cursor remaining) (reached : cursor ≤ span.start) :
    Passed map span.start (remaining.dropWhile fun segment =>
      decide (segment.stop ≤ span.start)) := by
  obtain ⟨front, whole, stops⟩ := passed
  refine ⟨front ++ remaining.takeWhile fun segment => decide (segment.stop ≤ span.start), ?_, ?_⟩
  · rw [List.append_assoc, List.takeWhile_append_dropWhile, whole]
  · intro segment member
    rcases List.mem_append.mp member with inFront | taken
    · exact Nat.le_trans (stops segment inFront) reached
    · simpa using List.mem_takeWhile_imp taken

/-- From the cursor on, the projector finds the segments that meet a span. -/
theorem overlappingMonotonic_ok (passed : Passed map cursor remaining)
    (reached : cursor ≤ span.start) (wide : span.start < span.stop)
    (inside : span.stop ≤ map.generated.characterLength) :
    ∃ later, overlappingMonotonic remaining span = .ok (later, meeting map span) ∧
      Passed map span.start later := by
  have advanced := passed.advance reached
  obtain ⟨front, whole, stops⟩ := advanced
  have covering := projectorSegments_covering map
  rw [whole] at covering
  obtain ⟨middle, _, coveringLater⟩ := Tiles.append_iff.mp covering
  have positive : ∀ segment ∈ front ++ remaining.dropWhile fun segment =>
      decide (segment.stop ≤ span.start), segment.start < segment.stop := by
    intro segment member
    rw [← whole] at member
    exact projectorSegments_positive member
  have passedFront : front.filter (overlaps · span) = [] := by
    refine List.filter_eq_nil_iff.mpr fun segment member => ?_
    rw [not_overlaps_of_stop_le (positive segment (List.mem_append_left _ member))
      (stops segment member)]
    exact Bool.false_ne_true
  have met : ((remaining.dropWhile fun segment => decide (segment.stop ≤ span.start)).takeWhile
      fun segment => decide (segment.start < span.stop)).filter
        (fun segment => decide (span.start < segment.stop)) = meeting map span := by
    rw [meeting, whole, List.filter_append, passedFront, List.nil_append,
      ← filter_takeWhile_start coveringLater
        fun segment member => positive segment (List.mem_append_right _ member)]
    refine List.filter_congr fun segment member => ?_
    have before : segment.start < span.stop := by simpa using List.mem_takeWhile_imp member
    have segmentWide := positive segment
      (List.mem_append_right _ ((List.takeWhile_sublist _).mem member))
    rw [Bool.eq_iff_iff, overlaps_positive segmentWide, decide_eq_true_iff]
    exact ⟨fun after => ⟨before, after⟩, fun both => both.2⟩
  refine ⟨_, ?_, front, whole, stops⟩
  unfold overlappingMonotonic
  dsimp only
  rw [met, if_neg]
  exact fun nothing => meeting_ne_nil wide inside nothing.1

/-! ## Exact pieces -/

theorem exactPiece_generated (generatedStart : Nat) (parent : SourceMapSegment) :
    (exactPiece span generatedStart parent).generated =
      (parent.generated.intersect span).rebase span.start generatedStart := by
  unfold exactPiece projectExactPiece
  dsimp only
  split <;> rfl

theorem exactPiece_start (span : SourceSpan) (generatedStart : Nat) (parent : SourceMapSegment) :
    (exactPiece span generatedStart parent).start =
      generatedStart + (max parent.start span.start - span.start) := by
  rw [SourceMapSegment.start, exactPiece_generated]
  rfl

theorem exactPiece_stop (span : SourceSpan) (generatedStart : Nat) (parent : SourceMapSegment) :
    (exactPiece span generatedStart parent).stop =
      generatedStart + (max (max parent.start span.start) (min parent.stop span.stop) -
        span.start) := by
  rw [SourceMapSegment.stop, exactPiece_generated]
  rfl

theorem projectorExact_ok (passed : Passed map cursor remaining) (reached : cursor ≤ span.start)
    (wide : span.start < span.stop) (inside : span.stop ≤ map.generated.characterLength)
    (generatedStart : Nat) :
    ∃ later, projectorExact remaining span generatedStart =
        .ok (later, (meeting map span).map (exactPiece span generatedStart)) ∧
      Passed map span.start later := by
  obtain ⟨later, found, passedLater⟩ := overlappingMonotonic_ok passed reached wide inside
  refine ⟨later, ?_, passedLater⟩
  have some_pieces : (meeting map span).map (exactPiece span generatedStart) ≠ [] :=
    fun nothing => meeting_ne_nil wide inside (List.map_eq_nil_iff.mp nothing)
  unfold projectorExact
  rw [found]
  exact if_neg some_pieces

/-- The pieces tile the text of their span. -/
theorem exactPieces_covering (inside : span.stop ≤ map.generated.characterLength)
    (generatedStart : Nat) :
    Covering generatedStart (generatedStart + span.width)
      ((meeting map span).map (exactPiece span generatedStart)) := by
  have ordered := span.ordered
  have monotone : Monotone fun offset => generatedStart + (span.clamp offset - span.start) := by
    intro lower upper le
    have clamped := span.clamp_monotone le
    dsimp only
    omega
  have tiles : Covering _ _ ((meeting map span).map (exactPiece span generatedStart)) :=
    (projectorSegments_covering map).image monotone (overlaps · span) _
      (fun segment member overlap => by
        have wide := projectorSegments_positive member
        have met := (overlaps_positive wide).mp overlap
        rw [exactPiece_start, exactPiece_stop]
        unfold SourceSpan.clamp
        omega)
      (fun segment _ apart => by rw [clamp_of_not_overlaps apart])
  have first : generatedStart + (span.clamp 0 - span.start) = generatedStart := by
    unfold SourceSpan.clamp
    omega
  have last : generatedStart + (span.clamp map.generated.characterLength - span.start) =
      generatedStart + span.width := by
    unfold SourceSpan.clamp SourceSpan.width
    omega
  rw [first, last] at tiles
  exact tiles

theorem exactPiece_flattened {parent : SourceMapSegment} (flat : flattenedSegment parent = true)
    (generatedStart : Nat) :
    flattenedSegment (exactPiece span generatedStart parent) = true := by
  unfold flattenedSegment SourceMapSegment.originRef SourceMapSegment.anchorRef at flat ⊢
  unfold exactPiece projectExactPiece
  cases provenance : parent.provenance <;> simp_all

/-- A piece reports what its parent segment reports. -/
theorem mappedSegment_exactPiece {parent : SourceMapSegment} (some_text : span.start < span.stop)
    (met : parent.start < span.stop ∧ span.start < parent.stop)
    (wide : parent.start < parent.stop) {generatedStart offset : Nat}
    (lower : (exactPiece span generatedStart parent).start ≤ offset) (eof : Bool) :
    mappedSegment (exactPiece span generatedStart parent) offset eof =
      mappedSegment parent (span.start + (offset - generatedStart)) eof := by
  have starts := exactPiece_start span generatedStart parent
  have stops := exactPiece_stop span generatedStart parent
  have nonempty : (exactPiece span generatedStart parent).start ≠
      (exactPiece span generatedStart parent).stop := by omega
  have parentNonempty : parent.start ≠ parent.stop := Nat.ne_of_lt wide
  unfold mappedSegment
  simp only [nonempty, parentNonempty]
  rw [starts] at lower ⊢
  have moved (start : Nat) : start + ((parent.generated.intersect span).start - parent.start) +
      (offset - (generatedStart + (max parent.start span.start - span.start))) =
      start + (span.start + (offset - generatedStart) - parent.start) := by
    change start + (max parent.start span.start - parent.start) + _ = _
    omega
  unfold exactPiece projectExactPiece SourceMapSegment.anchorUnit
  cases provenance : parent.provenance with
  | synthetic region => rfl
  | derived ref origin region => cases ref with
    | unit unit => rfl
    | artifact artifact => rfl
  | exact ref start region => cases ref with
    | unit unit =>
        dsimp only
        rw [moved]
    | artifact artifact => rfl

/-! ## Line endings -/

variable {generated : SourceSpan}

variable {region : Region} {overlapping : List SourceMapSegment}

/-- The projection of a line ending does not depend on where it is put. -/
theorem endingSegment_moved
    (projected : endingSegment overlapping span generated region = .ok segment)
    (moved : SourceSpan) :
    endingSegment overlapping span moved region = .ok { segment with generated := moved } ∧
      mappedCompactSegment { segment with generated := moved } = mappedCompactSegment segment := by
  unfold endingSegment at projected ⊢
  split at projected
  · obtain rfl := Except.ok.inj projected
    exact ⟨rfl, rfl⟩
  · split at projected
    · obtain rfl := Except.ok.inj projected
      exact ⟨rfl, rfl⟩
    · cases projected

/-- A projected line ending is one report, wherever it is looked up. -/
theorem mappedSegment_ending
    (projected : endingSegment overlapping span generated region = .ok segment) (offset : Nat)
    (eof : Bool) : mappedSegment segment offset eof = .ok (mappedCompactSegment segment) := by
  unfold endingSegment at projected
  split at projected
  · obtain rfl := Except.ok.inj projected
    rfl
  · split at projected
    · obtain rfl := Except.ok.inj projected
      rfl
    · cases projected

theorem endingSegment_flattened (flat : ∀ parent ∈ overlapping, flattenedSegment parent = true)
    (projected : endingSegment overlapping span generated region = .ok segment) :
    flattenedSegment segment = true := by
  unfold endingSegment at projected
  split at projected
  · next name anchor found =>
      obtain ⟨parent, member, selected⟩ := List.exists_of_findSome?_eq_some found
      have parentFlat := flat parent member
      obtain rfl := Except.ok.inj projected
      split at selected
      · cases selected
        unfold flattenedSegment SourceMapSegment.anchorRef at parentFlat ⊢
        exact (Bool.and_eq_true _ _ ▸ parentFlat).2
      · cases selected
  · split at projected
    · obtain rfl := Except.ok.inj projected
      rfl
    · cases projected

theorem projectorDerived_ok (passed : Passed map cursor remaining)
    (reached : cursor ≤ span.start) (wide : span.start < span.stop)
    (inside : span.stop ≤ map.generated.characterLength)
    (projected : endingSegment (meeting map span) span generated region = .ok segment) :
    ∃ later, projectorDerived remaining span generated region = .ok (later, segment) ∧
      Passed map span.start later := by
  obtain ⟨later, found, passedLater⟩ := overlappingMonotonic_ok passed reached wide inside
  refine ⟨later, ?_, passedLater⟩
  unfold projectorDerived
  rw [found]
  change (endingSegment (meeting map span) span generated region >>= _) = _
  rw [projected]
  rfl

end OnecRuntime.Reload
