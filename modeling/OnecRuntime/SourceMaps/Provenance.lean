import OnecRuntime.Library.Fallible
import OnecRuntime.SourceMaps.Compose

/-!
# Composition is composition of provenance

The pieces of one local segment tile its generated text, so the composed map
covers what the local map covered.  A lookup in it finds the piece that one
parent segment left, and reports what the parent reports there.
-/

namespace OnecRuntime.SourceMaps

open OnecRuntime.Library

/-! ## The pieces of one local segment -/

variable {segment : SourceMapSegment}

theorem overlaps_iff {span : SourceSpan} :
    overlaps segment span = true ↔
      (segment.start = segment.stop ∧ span.start ≤ segment.start ∧ segment.start ≤ span.stop) ∨
        (segment.start ≠ segment.stop ∧ segment.start < span.stop ∧ span.start < segment.stop) := by
  unfold overlaps
  split_ifs with empty
  · simp [empty]
  · simp [empty]

@[simp] theorem projectParentPiece_generated (localSegment parent : SourceMapSegment)
    (generated piece : SourceSpan) (anchor : UnitAnchor) :
    (projectParentPiece localSegment parent generated piece anchor).generated = generated := by
  unfold projectParentPiece
  dsimp only
  split <;> rfl

/-- The relation of a projected piece is the one the composition table gives. -/
theorem projectParentPiece_relation (localSegment parent : SourceMapSegment)
    (generated piece : SourceSpan) (anchor : UnitAnchor) :
    (projectParentPiece localSegment parent generated piece anchor).relation =
      composeRelation localSegment.relation parent.relation := by
  unfold projectParentPiece SourceMapSegment.relation
  cases localSegment.provenance <;> cases parent.provenance <;> rfl

theorem composeRelation_exact {first second : MappingRelation}
    (composed : composeRelation first second = .exact) : first = .exact ∧ second = .exact := by
  cases first <;> cases second <;> first | exact ⟨rfl, rfl⟩ | cases composed

variable {origin : SourceSpan}

theorem parentPiece_clamped {parent : SourceMapSegment}
    (overlap : overlaps parent origin = true) :
    (parentPiece parent origin).start = origin.clamp parent.start ∧
      (parentPiece parent origin).stop = origin.clamp parent.stop := by
  have ordered := parent.ordered
  have originOrdered := origin.ordered
  have starts : parent.generated.start = parent.start := rfl
  have stops : parent.generated.stop = parent.stop := rfl
  unfold parentPiece SourceSpan.clamp
  rcases overlaps_iff.mp overlap with ⟨empty, lower, upper⟩ | ⟨some_text, lower, upper⟩
  · rw [if_pos empty]
    omega
  · rw [if_neg some_text]
    simp only [SourceSpan.intersect_start, SourceSpan.intersect_stop]
    omega

theorem clamp_of_not_overlaps {parent : SourceMapSegment}
    (apart : overlaps parent origin = false) :
    origin.clamp parent.start = origin.clamp parent.stop := by
  have ordered := parent.ordered
  have originOrdered := origin.ordered
  have away : ¬ _ := fun overlap => Bool.false_ne_true (apart.symm.trans (overlaps_iff.mpr overlap))
  unfold SourceSpan.clamp
  omega

variable {parent : SourceMap} {localSegment : SourceMapSegment}

/-- The pieces of a local segment tile its generated text. -/
theorem composePieces_covering
    (anchor : UnitAnchor) (width : localSegment.generated.width = origin.width)
    (inside : origin.stop ≤ parent.generated.characterLength) :
    Covering localSegment.start localSegment.stop
      (composePieces localSegment origin parent anchor) := by
  have ordered := localSegment.ordered
  have originOrdered := origin.ordered
  have monotone : Monotone fun offset =>
      localSegment.start + (origin.clamp offset - origin.start) := by
    intro lower upper le
    have clamped := origin.clamp_monotone le
    dsimp only
    omega
  have tiles : Covering _ _ (composePieces localSegment origin parent anchor) :=
    parent.covering.image monotone (overlaps · origin) _
      (fun segment _ overlap => by
        obtain ⟨starts, stops⟩ := parentPiece_clamped overlap
        simp only [SourceMapSegment.start, SourceMapSegment.stop, projectParentPiece_generated,
          SourceSpan.rebase_start, SourceSpan.rebase_stop, starts, stops, and_self])
      (fun segment _ apart => by rw [clamp_of_not_overlaps apart])
  have first : localSegment.start + (origin.clamp 0 - origin.start) = localSegment.start := by
    unfold SourceSpan.clamp
    omega
  have last : localSegment.start +
      (origin.clamp parent.generated.characterLength - origin.start) = localSegment.stop := by
    have sameWidth : localSegment.stop - localSegment.start = origin.stop - origin.start := width
    unfold SourceSpan.clamp
    omega
  rw [first, last] at tiles
  exact tiles

/-- The piece that one parent segment leaves of a local segment. -/
def projectedPiece (localSegment parent : SourceMapSegment) (origin : SourceSpan)
    (anchor : UnitAnchor) : SourceMapSegment :=
  projectParentPiece localSegment parent
    ((parentPiece parent origin).rebase origin.start localSegment.start)
    (parentPiece parent origin) anchor

theorem mem_composePieces {piece : SourceMapSegment}
    {anchor : UnitAnchor} :
    piece ∈ composePieces localSegment origin parent anchor ↔
      ∃ segment ∈ parent.segments, overlaps segment origin = true ∧
        projectedPiece localSegment segment origin anchor = piece := by
  unfold composePieces
  simp only [List.mem_map, List.mem_filter, and_assoc]
  rfl

/-- The parent segment at an offset of the origin leaves the piece at the offset copied from it. -/
theorem composePieces_at (localSegment : SourceMapSegment)
    (anchor : UnitAnchor) {place : Nat}
    (found : segmentAt parent.segments place = some segment)
    (lower : origin.start ≤ place) (upper : place < origin.stop) :
    overlaps segment origin = true ∧
      projectedPiece localSegment segment origin anchor ∈
        composePieces localSegment origin parent anchor ∧
      Covers SourceMapSegment.start SourceMapSegment.stop
        (localSegment.start + (place - origin.start))
        (projectedPiece localSegment segment origin anchor) = true := by
  have bounds := pieceAt_bounds found
  have overlap : overlaps segment origin = true :=
    overlaps_iff.mpr (.inr ⟨by omega, by omega, by omega⟩)
  refine ⟨overlap, mem_composePieces.mpr ⟨segment, pieceAt_mem found, overlap, rfl⟩, ?_⟩
  obtain ⟨starts, stops⟩ := parentPiece_clamped overlap
  unfold SourceSpan.clamp at starts stops
  unfold projectedPiece
  simp only [covers_iff, SourceMapSegment.start, SourceMapSegment.stop,
    projectParentPiece_generated, SourceSpan.rebase_start, SourceSpan.rebase_stop]
  change segment.generated.start ≤ place ∧ place < segment.generated.stop at bounds
  have startIs : segment.start = segment.generated.start := rfl
  have stopIs : segment.stop = segment.generated.stop := rfl
  omega

/-! ## What the pieces report -/

/-- A report without its anchor. -/
def MappedOffset.place (mapped : MappedOffset) : MappedOffset :=
  { mapped with anchor := none }

theorem SameOrigin.congr_place {mapped narrow other : MappedOffset}
    (same : SameOrigin mapped narrow) (place : narrow.place = other.place) :
    SameOrigin mapped other := by
  simp only [MappedOffset.place, MappedOffset.mk.injEq, and_true] at place
  obtain ⟨relation, unit, span, region⟩ := place
  exact ⟨same.relation.trans relation, same.unit.trans unit, same.region.trans region,
    fun notDerived => (same.exactSpan (relation ▸ notDerived)).trans span,
    fun derived => span ▸ same.derivedSpan (relation ▸ derived)⟩

/-- A piece of exact local text reports the place its parent segment reports. -/
theorem projectedPiece_exact {ref : SourceRef} {start : Nat} {region : Option Region}
    (exactText : localSegment.provenance = .exact ref start region) (anchor : UnitAnchor)
    (flattened : flattenedSegment segment = true) (overlap : overlaps segment origin = true)
    {place : Nat} (lower : (parentPiece segment origin).start ≤ place) {eof : Bool}
    (some_text : eof = true ∨ (parentPiece segment origin).start < (parentPiece segment origin).stop) :
    ∃ mapped narrow,
      mappedSegment (projectedPiece localSegment segment origin anchor)
        (localSegment.start + (place - origin.start)) eof = .ok mapped ∧
      mappedSegment segment place eof = .ok narrow ∧ mapped.place = narrow.place := by
  obtain ⟨starts, stops⟩ := parentPiece_clamped overlap
  have overlapping := overlaps_iff.mp overlap
  have ordered := segment.ordered
  have originOrdered := origin.ordered
  simp only [flattenedSegment, SourceMapSegment.originRef, Bool.and_eq_true] at flattened
  unfold SourceSpan.clamp at starts stops
  unfold projectedPiece projectParentPiece mappedSegment
  rw [exactText]
  cases provenance : segment.provenance with
  | synthetic name => exact ⟨_, _, rfl, rfl, rfl⟩
  | derived ref' span region' =>
      rw [provenance] at flattened
      obtain ⟨unit, rfl⟩ := SourceRef.isUnit_iff.mp flattened.1
      exact ⟨_, _, rfl, rfl, rfl⟩
  | exact ref' start' region' =>
      rw [provenance] at flattened
      obtain ⟨unit, rfl⟩ := SourceRef.isUnit_iff.mp flattened.1
      refine ⟨_, _, rfl, rfl, ?_⟩
      have copied : start' + ((parentPiece segment origin).start - segment.start) +
          (localSegment.start + (place - origin.start) - (localSegment.start +
            ((parentPiece segment origin).start - origin.start))) =
          start' + (place - segment.start) := by
        omega
      have widths : (eof = true ∨ localSegment.start + ((parentPiece segment origin).start -
            origin.start) = localSegment.start + ((parentPiece segment origin).stop -
            origin.start)) ↔ (eof = true ∨ segment.start = segment.stop) := by
        rcases some_text with final | some_text
        · simp only [final, true_or]
        · constructor
          · rintro (final | empty)
            · exact .inl final
            · omega
          · rintro (final | empty)
            · exact .inl final
            · omega
      simp only [MappedOffset.place, SourceMapSegment.start, SourceMapSegment.stop,
        SourceSpan.rebase_start, SourceSpan.rebase_stop] at copied widths ⊢
      rw [copied]
      congr 3
      exact if_congr widths rfl rfl

/-- A piece of derived local text is derived, or synthetic as its parent segment is. -/
theorem projectedPiece_derived {span : SourceSpan}
    {ref : SourceRef} {region : Option Region} (origin : SourceSpan)
    (derivedText : localSegment.provenance = .derived ref span region) (anchor : UnitAnchor)
    (flattened : flattenedSegment segment = true) (offset : Nat) (eof : Bool) :
    ∃ mapped, mappedSegment (projectedPiece localSegment segment origin anchor) offset eof =
        .ok mapped ∧
      mapped.relation = composeRelation .derived segment.relation ∧
      (mapped.relation = .synthetic → mapped.syntheticRegion = segment.syntheticRegion) := by
  simp only [flattenedSegment, SourceMapSegment.originRef, Bool.and_eq_true] at flattened
  unfold projectedPiece projectParentPiece mappedSegment SourceMapSegment.relation
    SourceMapSegment.syntheticRegion
  rw [derivedText]
  cases provenance : segment.provenance with
  | synthetic name => exact ⟨_, rfl, rfl, fun _ => rfl⟩
  | derived ref' span region' =>
      rw [provenance] at flattened
      obtain ⟨unit, rfl⟩ := SourceRef.isUnit_iff.mp flattened.1
      exact ⟨_, rfl, rfl, fun synthetic => by cases synthetic⟩
  | exact ref' start' region' =>
      rw [provenance] at flattened
      obtain ⟨unit, rfl⟩ := SourceRef.isUnit_iff.mp flattened.1
      exact ⟨_, rfl, rfl, fun synthetic => by cases synthetic⟩

/-! ## The results of one local segment -/

/-- The one segment that replaces a resized local segment. -/
theorem composeResized_ok {anchor : UnitAnchor} {pieces : List SourceMapSegment}
    (composed : composeResized localSegment origin parent anchor = .ok pieces) :
    ∃ piece, pieces = [piece] ∧ piece.generated = localSegment.generated ∧
      ((∃ unit span region, piece.provenance = .derived (.unit unit) span region) ∨
        ∃ region, piece.provenance = .synthetic region ∧
          ∃ segment ∈ parent.segments, segment.positive = true ∧
            overlaps segment origin = true ∧ segment.relation = .synthetic ∧
              segment.syntheticRegion = some region) := by
  unfold composeResized at composed
  dsimp only at composed
  split_ifs at composed with crosses
  obtain ⟨visible, _, composed⟩ := bind_eq_ok.mp composed
  split at composed
  · next segment synthetic =>
      have found := List.mem_filter.mp (List.mem_of_find?_eq_some synthetic)
      have isSynthetic : segment.relation = .synthetic := by
        simpa using List.find?_some synthetic
      rw [Bool.and_eq_true] at found
      split at composed
      · cases composed
      · next region regionIs =>
          obtain rfl := pure_eq_ok.mp composed
          exact ⟨_, rfl, rfl, .inr ⟨region, rfl, segment, found.1, found.2.1, found.2.2,
            isSynthetic, regionIs⟩⟩
  · split at composed
    · cases composed
    · obtain rfl := pure_eq_ok.mp composed
      exact ⟨_, rfl, rfl, .inl ⟨_, _, _, rfl⟩⟩

/-- The three ways a local segment is composed. -/
inductive SegmentComposition (localSegment : SourceMapSegment) (parent : SourceMap) :
    List SourceMapSegment → Prop where
  | synthetic {region : Region} (anchor : UnitAnchor)
      (synthetic : localSegment.provenance = .synthetic region) :
      SegmentComposition localSegment parent
        [⟨localSegment.generated, .synthetic region, unitAnchor anchor⟩]
  | pieces {origin : SourceSpan} (anchor : UnitAnchor) (originIs : localSegment.origin = some origin)
      (width : localSegment.generated.width = origin.width) :
      SegmentComposition localSegment parent (composePieces localSegment origin parent anchor)
  | resized {ref : SourceRef} {origin : SourceSpan} {region : Option Region} {anchor : UnitAnchor}
      {results : List SourceMapSegment}
      (derived : localSegment.provenance = .derived ref origin region)
      (width : localSegment.generated.width ≠ origin.width)
      (composed : composeResized localSegment origin parent anchor = .ok results) :
      SegmentComposition localSegment parent results

theorem composeSegment_ok
    {results : List SourceMapSegment} (composed : composeSegment localSegment parent = .ok results) :
    SegmentComposition localSegment parent results := by
  unfold composeSegment at composed
  obtain ⟨anchor, _, composed⟩ := bind_eq_ok.mp composed
  split at composed
  · next region provenance =>
      obtain rfl := pure_eq_ok.mp composed
      exact .synthetic anchor provenance
  · next ref start region provenance =>
      dsimp only at composed
      split_ifs at composed
      obtain rfl := pure_eq_ok.mp composed
      refine .pieces anchor ?_ ?_
      · unfold SourceMapSegment.origin
        rw [provenance]
      · unfold SourceSpan.width
        simp only [SourceSpan.ofWidth_start, SourceSpan.ofWidth_stop]
        omega
  · next ref origin region provenance =>
      dsimp only at composed
      split_ifs at composed with width
      · exact .resized provenance width composed
      · obtain rfl := pure_eq_ok.mp composed
        refine .pieces anchor ?_ (by omega)
        unfold SourceMapSegment.origin
        rw [provenance]

/-- The origins of a checked local map lie in its parent. -/
def OriginsInside (parent : SourceMap) (segment : SourceMapSegment) : Prop :=
  ∀ origin, segment.origin = some origin → origin.stop ≤ parent.generated.characterLength

theorem SegmentComposition.covering
    {results : List SourceMapSegment} (composition : SegmentComposition localSegment parent results)
    (inside : OriginsInside parent localSegment) :
    Covering localSegment.start localSegment.stop results := by
  cases composition with
  | synthetic anchor provenance => exact ⟨rfl, localSegment.ordered, rfl⟩
  | pieces anchor originIs width => exact composePieces_covering anchor width (inside _ originIs)
  | resized provenance width composed =>
      obtain ⟨piece, rfl, generated, _⟩ := composeResized_ok composed
      unfold Covering SourceMapSegment.start SourceMapSegment.stop
      rw [← generated]
      exact ⟨rfl, piece.generated.ordered, rfl⟩

/-! ## The whole list -/

variable {composed : List SourceMapSegment}

theorem composeSegments_cons {rest : List SourceMapSegment}
    (composes : composeSegments parent (segment :: rest) = .ok composed) :
    ∃ results later, SegmentComposition segment parent results ∧
      composeSegments parent rest = .ok later ∧ results ++ later = composed := by
  obtain ⟨results, pieces, after⟩ := bind_eq_ok.mp composes
  obtain ⟨later, others, joined⟩ := bind_eq_ok.mp after
  exact ⟨results, later, composeSegment_ok pieces, others, pure_eq_ok.mp joined⟩

variable {segments : List SourceMapSegment}

theorem composeSegments_covering (composes : composeSegments parent segments = .ok composed)
    (inside : ∀ segment ∈ segments, OriginsInside parent segment) {first last : Nat}
    (covering : Covering first last segments) : Covering first last composed := by
  induction segments generalizing first composed with
  | nil =>
      obtain rfl := pure_eq_ok.mp composes
      exact covering
  | cons segment rest ih =>
      obtain ⟨start, ordered, inner⟩ := covering
      obtain ⟨results, later, composition, others, rfl⟩ := composeSegments_cons composes
      have here := composition.covering (inside segment List.mem_cons_self)
      rw [start] at here
      exact here.append (ih others
        (fun other member => inside other (List.mem_cons_of_mem _ member)) inner)

/-- The composed list holds the results of every local segment. -/
theorem mem_composeSegments (composes : composeSegments parent segments = .ok composed)
    (member : segment ∈ segments) :
    ∃ results, SegmentComposition segment parent results ∧ ∀ piece ∈ results, piece ∈ composed := by
  induction segments generalizing composed with
  | nil => cases member
  | cons head rest ih =>
      obtain ⟨results, later, composition, others, rfl⟩ := composeSegments_cons composes
      rcases List.mem_cons.mp member with rfl | inside
      · exact ⟨results, composition, fun piece => List.mem_append_left _⟩
      · obtain ⟨found, inner, kept⟩ := ih others inside
        exact ⟨found, inner, fun piece at_piece => List.mem_append_right _ (kept piece at_piece)⟩

/-- The composed list holds nothing else. -/
theorem of_mem_composeSegments
    (composes : composeSegments parent segments = .ok composed) {piece : SourceMapSegment}
    (member : piece ∈ composed) :
    ∃ segment ∈ segments, ∃ results, SegmentComposition segment parent results ∧
      piece ∈ results := by
  induction segments generalizing composed with
  | nil =>
      obtain rfl := pure_eq_ok.mp composes
      cases member
  | cons head rest ih =>
      obtain ⟨results, later, composition, others, rfl⟩ := composeSegments_cons composes
      rcases List.mem_append.mp member with front | back
      · exact ⟨head, List.mem_cons_self, results, composition, front⟩
      · obtain ⟨segment, inside, found⟩ := ih others back
        exact ⟨segment, List.mem_cons_of_mem _ inside, found⟩

/-! ## An accepted composition -/

theorem checkLocalSegments_ok {parent : SourceArtifactRef}
    (checked : checkLocalSegments parent segments = .ok ()) :
    ∀ segment ∈ segments, ∀ ref, segment.originRef = some ref → ref = .artifact parent := by
  induction segments with
  | nil => intro segment member; cases member
  | cons head rest ih =>
      unfold checkLocalSegments at checked
      split_ifs at checked with elsewhere origins anchors
      intro segment member ref refIs
      rcases List.mem_cons.mp member with rfl | inside
      · rw [refIs] at elsewhere origins
        cases ref with
        | unit unit => exact (origins rfl).elim
        | artifact other => simp_all [refersElsewhere]
      · exact ih checked segment inside ref refIs

theorem originRef_of_origin
    (originIs : segment.origin = some origin) : ∃ ref, segment.originRef = some ref := by
  unfold SourceMapSegment.origin at originIs
  unfold SourceMapSegment.originRef
  cases provenance : segment.provenance with
  | synthetic region => rw [provenance] at originIs; cases originIs
  | exact ref start region => exact ⟨ref, rfl⟩
  | derived ref span region => exact ⟨ref, rfl⟩

theorem originsInside_of_refs {localMap : SourceMap}
    (refs : ∀ segment ∈ localMap.segments, ∀ ref, segment.originRef = some ref →
      ref = .artifact parent.generated) :
    ∀ segment ∈ localMap.segments, OriginsInside parent segment := by
  intro segment member origin originIs
  have bounded := localMap.bounded segment member
  obtain ⟨ref, refIs⟩ := originRef_of_origin originIs
  have parentRef := refs segment member ref refIs
  unfold SourceMapSegment.inBounds at bounded
  rw [refIs, originIs, parentRef, Bool.and_eq_true] at bounded
  exact of_decide_eq_true bounded.1

/-- What `compose_source_maps` has done when it returns. -/
structure Composed (localMap parent result : SourceMap) (composed : List SourceMapSegment) :
    Prop where
  artifact : result.generated = localMap.generated
  segments : result.segments = coalesceSegments composed
  composes : composeSegments parent localMap.segments = .ok composed
  parentFlattened : ∀ segment ∈ parent.segments, flattenedSegment segment = true
  resultFlattened : ∀ segment ∈ result.segments, flattenedSegment segment = true
  inside : ∀ segment ∈ localMap.segments, OriginsInside parent segment

theorem composeSourceMaps_ok {localMap result : SourceMap}
    (accepted : composeSourceMaps localMap parent = .ok result) :
    ∃ composed, Composed localMap parent result composed := by
  simp only [composeSourceMaps, bind_eq_ok, pure_eq_ok] at accepted
  obtain ⟨_, flattened, _, checked, composed, composes, map, made, _, validated, rfl⟩ := accepted
  obtain ⟨artifact, segments⟩ := SourceMap.make_eq made
  exact ⟨composed, artifact, segments, composes, validateFlattenedMap_ok flattened,
    validateFlattenedMap_ok validated, originsInside_of_refs (checkLocalSegments_ok checked)⟩

end OnecRuntime.SourceMaps
