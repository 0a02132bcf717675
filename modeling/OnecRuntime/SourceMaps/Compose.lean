import OnecRuntime.SourceMaps.Coalesce

/-!
# Composition of source maps

A local map over a parent artifact is carried to the visible units the parent
map refers to.  A local segment of the width of its origin is cut at the parent
boundaries; one of another width needs a single parent place.
-/

namespace OnecRuntime.SourceMaps

open OnecRuntime.Library

/-- A visible place, as the anchors of flattened maps have it. -/
abbrev UnitAnchor := Option (SourceUnitRef × SourceSpan)

def unitAnchor (anchor : UnitAnchor) : Option (SourceRef × SourceSpan) :=
  anchor.map fun pair => (.unit pair.1, pair.2)

/-- `_RELATION_COMPOSITION`. -/
def composeRelation : MappingRelation → MappingRelation → MappingRelation
  | .exact, .exact => .exact
  | .exact, .derived => .derived
  | .exact, .synthetic => .synthetic
  | .derived, .exact => .derived
  | .derived, .derived => .derived
  | .derived, .synthetic => .synthetic
  | .synthetic, _ => .synthetic

def overlaps (segment : SourceMapSegment) (span : SourceSpan) : Bool :=
  if segment.start = segment.stop then
    decide (span.start ≤ segment.start) && decide (segment.start ≤ span.stop)
  else
    decide (segment.start < span.stop) && decide (span.start < segment.stop)

def projectParentPiece (localSegment parent : SourceMapSegment)
    (generated parentPiece : SourceSpan) (localAnchor : UnitAnchor) : SourceMapSegment :=
  let anchor := unitAnchor (localAnchor.or parent.anchorUnit)
  match localSegment.provenance, parent.provenance with
  | _, .synthetic region => ⟨generated, .synthetic region, parent.anchor⟩
  | .synthetic region, _ => ⟨generated, .synthetic region, parent.anchor⟩
  | .exact .., .exact ref start _ =>
      ⟨generated, .exact ref (start + (parentPiece.start - parent.start)) none, anchor⟩
  | .exact .., .derived ref origin region => ⟨generated, .derived ref origin region, anchor⟩
  | .derived _ _ region, .exact ref start _ =>
      ⟨generated, .derived ref (parentPiece.rebase parent.start start) region, anchor⟩
  | .derived _ _ region, .derived ref origin _ => ⟨generated, .derived ref origin region, anchor⟩

/-- The visible place one parent segment offers for a nonempty span. -/
def anchorCandidate (span : SourceSpan) (segment : SourceMapSegment) : UnitAnchor :=
  if ¬ overlaps segment span ∨ segment.start = segment.stop then none
  else
    match segment.provenance with
    | .exact (.unit unit) start _ =>
        some (unit, (segment.generated.intersect span).rebase segment.start start)
    | .derived (.unit unit) origin _ => some (unit, origin)
    | _ => segment.anchorUnit

/-- The hull of the candidates, when they all lie in one unit. -/
def joinCandidates : List (SourceUnitRef × SourceSpan) → UnitAnchor
  | [] => none
  | first :: rest =>
      if rest.any fun candidate => candidate.1 != first.1 then none
      else some (first.1, rest.foldl (fun span candidate => span.hull candidate.2) first.2)

def anchorForParentSpan (parent : SourceMap) (span : SourceSpan) : SourceResult UnitAnchor :=
  if span.start = span.stop then do
    let mapped ← mapOffset parent span.start
    match mapped.unit, mapped.originSpan with
    | some unit, some origin => pure (some (unit, .ofWidth origin.start 0))
    | _, _ => pure mapped.anchor
  else pure (joinCandidates (parent.segments.filterMap (anchorCandidate span)))

def composeAnchor (localSegment : SourceMapSegment) (parent : SourceMap) :
    SourceResult UnitAnchor :=
  match localSegment.anchor with
  | none => pure none
  | some (_, span) => anchorForParentSpan parent span

/-- A local segment of another width than its origin, over one parent place. -/
def composeResized (localSegment : SourceMapSegment) (origin : SourceSpan) (parent : SourceMap)
    (localAnchor : UnitAnchor) : SourceResult (List SourceMapSegment) :=
  let positiveParents := parent.segments.filter fun segment =>
    segment.positive && overlaps segment origin
  if origin.start < origin.stop ∧ positiveParents.length ≠ 1 then
    .error "unequal-width derived fragment crosses multiple parent segments"
  else do
    let place ← anchorForParentSpan parent origin
    match positiveParents.find? fun segment => decide (segment.relation = .synthetic) with
    | some segment =>
        match segment.syntheticRegion with
        | none => .error "synthetic text requires a named region"
        | some region =>
            let anchor := (segment.anchorUnit.or localAnchor).or place
            pure [⟨localSegment.generated, .synthetic region, unitAnchor anchor⟩]
    | none =>
        match place with
        | none => .error "derived fragment crosses multiple parent origins"
        | some (unit, span) =>
            let parentAnchor := match positiveParents with
              | [segment] => segment.anchorUnit
              | _ => none
            pure [⟨localSegment.generated, .derived (.unit unit) span localSegment.syntheticRegion,
              unitAnchor (localAnchor.or parentAnchor)⟩]

/-- The part of a parent segment inside the local origin. -/
def parentPiece (parent : SourceMapSegment) (origin : SourceSpan) : SourceSpan :=
  if parent.start = parent.stop then parent.generated else parent.generated.intersect origin

/-- A local segment of the width of its origin, cut at the parent boundaries. -/
def composePieces (localSegment : SourceMapSegment) (origin : SourceSpan) (parent : SourceMap)
    (localAnchor : UnitAnchor) : List SourceMapSegment :=
  (parent.segments.filter (overlaps · origin)).map fun segment =>
    let piece := parentPiece segment origin
    projectParentPiece localSegment segment (piece.rebase origin.start localSegment.start) piece
      localAnchor

def composeSegment (localSegment : SourceMapSegment) (parent : SourceMap) :
    SourceResult (List SourceMapSegment) := do
  let localAnchor ← composeAnchor localSegment parent
  match localSegment.provenance with
  | .synthetic region =>
      pure [⟨localSegment.generated, .synthetic region, unitAnchor localAnchor⟩]
  | .exact _ start _ =>
      let pieces := composePieces localSegment (.ofWidth start localSegment.generated.width) parent
        localAnchor
      if pieces = [] then .error "local segment has no parent mapping" else pure pieces
  | .derived _ origin _ =>
      if localSegment.generated.width ≠ origin.width then
        composeResized localSegment origin parent localAnchor
      else
        let pieces := composePieces localSegment origin parent localAnchor
        if pieces = [] then .error "local segment has no parent mapping" else pure pieces

def composeSegments (parent : SourceMap) :
    List SourceMapSegment → SourceResult (List SourceMapSegment)
  | [] => pure []
  | segment :: rest => do
      let pieces ← composeSegment segment parent
      let others ← composeSegments parent rest
      pure (pieces ++ others)

/-- A reference to an artifact other than the parent. -/
def refersElsewhere (parent : SourceArtifactRef) : Option SourceRef → Bool
  | some (.artifact ref) => decide (ref ≠ parent)
  | _ => false

def checkLocalSegments (parent : SourceArtifactRef) : List SourceMapSegment → SourceResult Unit
  | [] => .ok ()
  | segment :: rest =>
      if refersElsewhere parent segment.originRef ∨ refersElsewhere parent segment.anchorRef then
        .error "local map does not reference the exact parent artifact"
      else if segment.originRef.any SourceRef.isUnit then
        .error "local map origin must reference its parent artifact"
      else if segment.anchorRef.any SourceRef.isUnit then
        .error "local map anchor must reference its parent artifact"
      else
        checkLocalSegments parent rest

def composeSourceMaps (localMap parent : SourceMap) : SourceResult SourceMap := do
  validateFlattenedMap "flattened parent map" parent.segments
  checkLocalSegments parent.generated localMap.segments
  let composed ← composeSegments parent localMap.segments
  let result ← SourceMap.make localMap.generated (coalesceSegments composed)
  validateFlattenedMap "composed flattened source map" result.segments
  pure result

end OnecRuntime.SourceMaps
