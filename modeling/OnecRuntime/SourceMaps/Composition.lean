import OnecRuntime.SourceMaps.Provenance

/-!
# Lookups in a composed map

At every offset the composed map reports what the parent reports at the place
the local map copied.  Only a derived place may be reported wider, because
neighbouring derived segments are joined and reported whole.
-/

namespace OnecRuntime.SourceMaps

open OnecRuntime.Library

theorem SameOrigin.trans {first second third : MappedOffset}
    (outer : SameOrigin first second) (inner : SameOrigin second third) :
    SameOrigin first third := by
  refine ⟨outer.relation.trans inner.relation, outer.unit.trans inner.unit,
    outer.region.trans inner.region, fun notDerived => ?_, fun derived => ?_⟩
  · exact (outer.exactSpan (inner.relation ▸ notDerived)).trans (inner.exactSpan notDerived)
  · obtain ⟨wide, middle, wideIs, middleIs, low, high⟩ :=
      outer.derivedSpan (inner.relation ▸ derived)
    obtain ⟨middle', narrow, middleIs', narrowIs, low', high'⟩ := inner.derivedSpan derived
    rw [middleIs] at middleIs'
    obtain rfl := Option.some.inj middleIs'
    exact ⟨wide, narrow, wideIs, narrowIs, by omega, by omega⟩

/-- The end boundary of the character before an offset, in the segment that holds it. -/
def boundaryAfter (parent : SourceMap) (offset : Nat) : SourceResult MappedOffset :=
  match segmentAt parent.segments (offset - 1) with
  | some segment => mappedSegment segment offset true
  | none => .error "offset has no generated source mapping"

/-- A synthetic report that comes from a synthetic parent segment over the origin. -/
def FromSynthetic (parent : SourceMap) (origin : SourceSpan) (mapped : MappedOffset) : Prop :=
  mapped.relation = .synthetic ∧ ∃ segment ∈ parent.segments,
    segment.positive = true ∧ overlaps segment origin = true ∧
      segment.relation = .synthetic ∧ segment.syntheticRegion = mapped.syntheticRegion

/--
How a report of the composed map comes from the local segment at the offset.
The parent is read by `look`: by `map_offset` inside the text, by the boundary
after the last character at its end.
-/
def Traces (parent : SourceMap) (look : Nat → SourceResult MappedOffset)
    (segment : SourceMapSegment) (offset : Nat) (mapped : MappedOffset) : Prop :=
  match segment.provenance with
  | .exact _ start _ =>
      ∃ narrow, look (start + (offset - segment.start)) = .ok narrow ∧ SameOrigin mapped narrow
  | .synthetic region => mapped.relation = .synthetic ∧ mapped.syntheticRegion = some region
  | .derived _ origin _ => mapped.relation = .derived ∨ FromSynthetic parent origin mapped

theorem Traces.widen {parent : SourceMap} {look : Nat → SourceResult MappedOffset}
    {segment : SourceMapSegment} {offset : Nat} {mapped narrow : MappedOffset}
    (traces : Traces parent look segment offset narrow) (same : SameOrigin mapped narrow) :
    Traces parent look segment offset mapped := by
  unfold Traces at traces ⊢
  split at traces
  · obtain ⟨report, found, origin⟩ := traces
    exact ⟨report, found, same.trans origin⟩
  · exact ⟨same.relation.trans traces.1, same.region.trans traces.2⟩
  · rcases traces with derived | ⟨synthetic, parentSegment, member, text, overlap, relation, region⟩
    · exact .inl (same.relation.trans derived)
    · exact .inr ⟨same.relation.trans synthetic, parentSegment, member, text, overlap, relation,
        region.trans same.region.symm⟩

/-- The parent as it is read inside the text, or at the end of it. -/
def parentReport (parent : SourceMap) (eof : Bool) : Nat → SourceResult MappedOffset :=
  if eof then boundaryAfter parent else mapOffset parent

theorem parentReport_at {parent : SourceMap} {place : Nat} {segment : SourceMapSegment}
    (found : segmentAt parent.segments place = some segment) (eof : Bool) :
    parentReport parent eof (place + eof.toNat) =
      mappedSegment segment (place + eof.toNat) eof := by
  cases eof with
  | false => exact parent.mapOffset_inside found
  | true =>
      unfold parentReport boundaryAfter
      rw [if_pos rfl, Bool.toNat_true, Nat.add_sub_cancel, found]

section Pieces

variable {segment : SourceMapSegment} {parent : SourceMap} {results : List SourceMapSegment}
  {offset : Nat}

/-- The result of a local segment that holds an offset reports what the segment traces to. -/
theorem SegmentComposition.traces (composition : SegmentComposition segment parent results)
    (flattened : ∀ other ∈ parent.segments, flattenedSegment other = true)
    (inside : OriginsInside parent segment)
    (lower : segment.start ≤ offset) (upper : offset < segment.stop) (eof : Bool) :
    ∃ piece ∈ results, Covers SourceMapSegment.start SourceMapSegment.stop offset piece = true ∧
      ∃ mapped, mappedSegment piece (offset + eof.toNat) eof = .ok mapped ∧
        Traces parent (parentReport parent eof) segment (offset + eof.toNat) mapped := by
  have whole : ∀ piece : SourceMapSegment, piece.generated = segment.generated →
      Covers SourceMapSegment.start SourceMapSegment.stop offset piece = true := by
    intro piece generated
    unfold SourceMapSegment.start SourceMapSegment.stop at *
    rw [covers_iff, generated]
    exact ⟨lower, upper⟩
  unfold Traces
  cases composition with
  | synthetic anchor provenance =>
      rw [provenance]
      exact ⟨_, List.mem_singleton.mpr rfl, whole _ rfl, _, rfl, rfl, rfl⟩
  | resized provenance width composed =>
      rw [provenance]
      obtain ⟨piece, rfl, generated, ⟨unit, span, region, derived⟩ |
        ⟨region, synthetic, other, member, text, overlap, relation, name⟩⟩ :=
        composeResized_ok composed
      · refine ⟨piece, List.mem_singleton.mpr rfl, whole piece generated, ?_⟩
        unfold mappedSegment
        rw [derived]
        exact ⟨_, rfl, .inl rfl⟩
      · refine ⟨piece, List.mem_singleton.mpr rfl, whole piece generated, ?_⟩
        unfold mappedSegment
        rw [synthetic]
        exact ⟨_, rfl, .inr ⟨rfl, other, member, text, overlap, relation, name⟩⟩
  | @pieces origin anchor originIs width =>
      have sameWidth : segment.stop - segment.start = origin.stop - origin.start := width
      have originInside := inside origin originIs
      have place_inside : origin.start + (offset - segment.start) <
          parent.generated.characterLength := by omega
      obtain ⟨parentSegment, found⟩ := parent.segmentAt_isSome place_inside
      obtain ⟨overlap, member, covers⟩ := composePieces_at segment anchor found
        (show origin.start ≤ _ by omega) (by omega)
      have at_offset : segment.start + (origin.start + (offset - segment.start) - origin.start) =
          offset := by omega
      rw [at_offset] at covers
      refine ⟨_, member, covers, ?_⟩
      have ready := flattened parentSegment (pieceAt_mem found)
      have bounds := pieceAt_bounds found
      cases provenance : segment.provenance with
      | synthetic region =>
          unfold SourceMapSegment.origin at originIs
          rw [provenance] at originIs
          cases originIs
      | derived ref span region =>
          obtain ⟨mapped, report, relation, name⟩ :=
            projectedPiece_derived origin provenance anchor ready (offset + eof.toNat) eof
          have spanIs : span = origin := by
            unfold SourceMapSegment.origin at originIs
            rw [provenance] at originIs
            exact Option.some.inj originIs
          refine ⟨mapped, report, ?_⟩
          cases parentRelation : parentSegment.relation with
          | exact => exact .inl (by rw [relation, parentRelation]; rfl)
          | derived => exact .inl (by rw [relation, parentRelation]; rfl)
          | synthetic =>
              have synthetic : mapped.relation = .synthetic := by
                rw [relation, parentRelation]
                rfl
              exact .inr ⟨synthetic, parentSegment, pieceAt_mem found,
                decide_eq_true (by omega), spanIs ▸ overlap, parentRelation,
                (name synthetic).symm⟩
      | exact ref start region =>
          have startIs : origin.start = start := by
            unfold SourceMapSegment.origin at originIs
            rw [provenance] at originIs
            rw [← Option.some.inj originIs]
            rfl
          obtain ⟨starts, stops⟩ := parentPiece_clamped overlap
          unfold SourceSpan.clamp at starts stops
          obtain ⟨mapped, narrow, report, parentIs, place⟩ :=
            projectedPiece_exact provenance anchor ready overlap
              (show (parentPiece parentSegment origin).start ≤
                start + (offset - segment.start) + eof.toNat by omega)
              (show eof = true ∨ _ from .inr (by omega))
          have placed : segment.start + (start + (offset - segment.start) + eof.toNat -
              origin.start) = offset + eof.toNat := by omega
          rw [placed] at report
          rw [startIs] at found
          refine ⟨mapped, report, narrow, ?_, ?_⟩
          · have moved : start + (offset + eof.toNat - segment.start) =
                start + (offset - segment.start) + eof.toNat := by omega
            rw [moved, parentReport_at found, parentIs]
          · exact (SameOrigin.refl (mappedSegment_wellFormed report)).congr_place place

end Pieces

namespace Composed

variable {localMap parent result : SourceMap} {composed : List SourceMapSegment}

theorem covering (accepted : Composed localMap parent result composed) :
    Covering 0 localMap.generated.characterLength composed :=
  composeSegments_covering accepted.composes accepted.inside localMap.covering

/-- The composed segment at an offset reports what the local segment there traces to. -/
theorem traces (accepted : Composed localMap parent result composed) {offset : Nat}
    {segment : SourceMapSegment} (found : segmentAt localMap.segments offset = some segment)
    (eof : Bool) :
    ∃ whole, segmentAt result.segments offset = some whole ∧
      ∃ mapped, mappedSegment whole (offset + eof.toNat) eof = .ok mapped ∧
        Traces parent (parentReport parent eof) segment (offset + eof.toNat) mapped := by
  have bounds := pieceAt_bounds found
  obtain ⟨results, composition, kept⟩ :=
    mem_composeSegments accepted.composes (pieceAt_mem found)
  obtain ⟨piece, member, covers, mapped, report, traced⟩ :=
    composition.traces accepted.parentFlattened (accepted.inside segment (pieceAt_mem found))
      bounds.1 bounds.2 eof
  have here := accepted.covering.pieceAt_eq (kept piece member) covers
  obtain ⟨whole, at_whole, absorbs⟩ := segmentAt_coalesced accepted.covering here
  have inner := covers_iff.mp covers
  have lookup := absorbs.sameLookup (by omega) (show piece.start ≤ offset + eof.toNat by omega) eof
  rw [report] at lookup
  generalize wide : mappedSegment whole (offset + eof.toNat) eof = answer at lookup
  cases lookup with
  | found origin anchor =>
      exact ⟨whole, accepted.segments ▸ at_whole, _, wide, traced.widen origin⟩

/-- An exact boundary of an empty composed text lies on exact parent text. -/
theorem emptyText (accepted : Composed localMap parent result composed)
    (empty : localMap.generated.characterLength = 0) {mapped : MappedOffset}
    (report : mapOffset result 0 = .ok mapped) :
    ∃ segment ∈ localMap.segments, ∃ ref start region,
      segment.provenance = .exact ref start region ∧
        ∃ parentSegment ∈ parent.segments,
          overlaps parentSegment (.ofWidth start 0) = true ∧ parentSegment.relation = .exact ∧
            ∃ narrow, mappedSegment parentSegment start true = .ok narrow ∧
              SameOrigin mapped narrow := by
  have none_joined : result.segments = composed := by
    rw [accepted.segments, coalesceSegments_of_empty (empty ▸ accepted.covering)]
  have emptyResult : result.generated.characterLength = 0 := by rw [accepted.artifact, empty]
  obtain ⟨piece, member, boundary, reported⟩ := result.mapOffset_empty emptyResult report
  rw [SourceMapSegment.exactBoundary, Bool.and_eq_true] at boundary
  have isExact : piece.relation = .exact := of_decide_eq_true boundary.1
  obtain ⟨segment, inside, results, composition, at_piece⟩ :=
    of_mem_composeSegments accepted.composes (none_joined ▸ member)
  have bounds := localMap.covering.bounds inside
  refine ⟨segment, inside, ?_⟩
  cases composition with
  | synthetic anchor provenance =>
      obtain rfl := List.mem_singleton.mp at_piece
      cases isExact
  | resized provenance width composes =>
      obtain ⟨only, rfl, generated, ⟨unit, span, region, derived⟩ | ⟨region, synthetic, _⟩⟩ :=
        composeResized_ok composes
      · obtain rfl := List.mem_singleton.mp at_piece
        unfold SourceMapSegment.relation at isExact
        rw [derived] at isExact
        cases isExact
      · obtain rfl := List.mem_singleton.mp at_piece
        unfold SourceMapSegment.relation at isExact
        rw [synthetic] at isExact
        cases isExact
  | @pieces origin anchor originIs width =>
      obtain ⟨parentSegment, parentMember, overlap, rfl⟩ := mem_composePieces.mp at_piece
      obtain ⟨localExact, parentExact⟩ :=
        composeRelation_exact ((projectParentPiece_relation ..).symm.trans isExact)
      have ready := accepted.parentFlattened parentSegment parentMember
      cases provenance : segment.provenance with
      | synthetic region =>
          unfold SourceMapSegment.origin at originIs
          rw [provenance] at originIs
          cases originIs
      | derived ref span region =>
          unfold SourceMapSegment.relation at localExact
          rw [provenance] at localExact
          cases localExact
      | exact ref start region =>
          have originAt : SourceSpan.ofWidth start 0 = origin := by
            unfold SourceMapSegment.origin at originIs
            rw [provenance] at originIs
            have none_copied : segment.generated.width = 0 := by
              change segment.stop - segment.start = 0
              omega
            rw [← Option.some.inj originIs, none_copied]
          subst originAt
          obtain ⟨starts, stops⟩ := parentPiece_clamped overlap
          unfold SourceSpan.clamp at starts
          obtain ⟨other, narrow, otherIs, parentIs, place⟩ :=
            projectedPiece_exact provenance anchor ready overlap
              (show (parentPiece parentSegment (.ofWidth start 0)).start ≤ start by
                simp only [SourceSpan.ofWidth_start, SourceSpan.ofWidth_stop] at starts
                omega)
              (show true = true ∨ _ from .inl rfl)
          have placed : segment.start + (start - (SourceSpan.ofWidth start 0).start) = 0 := by
            rw [SourceSpan.ofWidth_start]
            omega
          rw [placed, reported] at otherIs
          obtain rfl := Except.ok.inj otherIs
          exact ⟨ref, start, region, rfl, parentSegment, parentMember, overlap, parentExact, narrow,
            parentIs, (SameOrigin.refl (mappedSegment_wellFormed reported)).congr_place place⟩

end Composed

end OnecRuntime.SourceMaps
