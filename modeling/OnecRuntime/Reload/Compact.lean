import Mathlib.Algebra.GroupWithZero.Nat
import Mathlib.Data.List.Sort
import OnecRuntime.Library.Fallible
import OnecRuntime.Reload.LineEndings
import OnecRuntime.SourceMaps.Compose
import OnecRuntime.SourceMaps.Transform

/-!
# The compact reload map

`materialize_worker_reload_source` puts insertions into the text of a source and
normalizes the rest.  Its map keeps the inserted intervals, the checkpoints
where text was inserted, and the line endings; every other offset is recovered
by a search.  The definitions follow `bsl/worker_reload_source_map.py`.
-/

namespace OnecRuntime.Reload

open OnecRuntime.Library OnecRuntime.SourceMaps

abbrev MethodName := { name : String // name ≠ "" }

/-- Text put in at an offset; it is derived text when it has an origin, synthetic otherwise. -/
structure ReloadInsertion where
  sourceOffset : Nat
  methodName : Option MethodName
  syntheticRegion : Region
  text : Text
  origin : Option SourceSpan
  anchor : SourceSpan
  nonempty : text ≠ []
  normalized : '\r' ∉ text ∧ '\x00' ∉ text
  deriving DecidableEq

namespace ReloadInsertion

def generatedLength (insertion : ReloadInsertion) : Nat := insertion.text.length

theorem generatedLength_pos (insertion : ReloadInsertion) : 0 < insertion.generatedLength :=
  List.length_pos_iff.mpr insertion.nonempty

end ReloadInsertion

structure ReloadMapCheckpoint where
  sourceOffset : Nat
  generatedOffset : Nat
  insertedLength : Nat
  deriving DecidableEq, Repr

structure ReloadMethodBoundary where
  methodName : String
  declarationStart : Int
  bodyStart : Int
  methodEnd : Int
  deriving DecidableEq, Repr

structure ReloadMethodCheckpoint where
  methodName : String
  declarationSourceOffset : Nat
  declarationGeneratedOffset : Nat
  bodySourceOffset : Nat
  bodyGeneratedOffset : Nat
  endSourceOffset : Nat
  endGeneratedOffset : Nat
  deriving DecidableEq, Repr

/-! ## Checked input -/

/-- The insertions by offset; those at one offset keep their order. -/
def orderedInsertions (insertions : List ReloadInsertion) : List ReloadInsertion :=
  insertions.insertionSort fun first second => first.sourceOffset ≤ second.sourceOffset

def validatedReloadInsertions (text : Text) (insertions : List ReloadInsertion) :
    SourceResult (List ReloadInsertion) :=
  let ordered := orderedInsertions insertions
  if ordered.any fun item => decide (text.length < item.sourceOffset) then
    .error "Worker reload insertion is outside source"
  else if ordered.any fun item => pairEnd text item.sourceOffset then
    .error "Worker reload insertion splits a CRLF sequence"
  else if '\x00' ∈ text then
    .error "Worker source contains a NUL character"
  else .ok ordered

section Boundaries

-- `str.casefold`
variable (casefold : String → String)

/-- The order of the sort keys `(declaration_start, method_name.casefold())`. -/
def boundaryBefore (first second : ReloadMethodBoundary) : Bool :=
  decide (first.declarationStart < second.declarationStart) ||
    (decide (first.declarationStart = second.declarationStart) &&
      decide (casefold first.methodName ≤ casefold second.methodName))

def checkMethodBoundaries (sourceLength : Nat) :
    List String → Int → List ReloadMethodBoundary → SourceResult Unit
  | _, _, [] => .ok ()
  | names, previousEnd, item :: rest =>
      let normalized := casefold item.methodName
      if item.methodName = "" ∨ normalized ∈ names ∨
          ¬(0 ≤ item.declarationStart ∧ item.declarationStart ≤ item.bodyStart ∧
            item.bodyStart ≤ item.methodEnd ∧ item.methodEnd ≤ sourceLength) ∨
          item.declarationStart < previousEnd then
        .error "Worker reload method boundaries are invalid"
      else
        checkMethodBoundaries sourceLength (normalized :: names) item.methodEnd rest

def validatedMethodBoundaries (sourceLength : Nat) (boundaries : List ReloadMethodBoundary) :
    SourceResult (List ReloadMethodBoundary) := do
  let ordered := boundaries.insertionSort fun first second => boundaryBefore casefold first second
  checkMethodBoundaries casefold sourceLength [] 0 ordered
  pure ordered

end Boundaries

/-! ## The parent projector -/

/-- The segments of a projector: those of the parent map that have text. -/
def projectorSegments (map : SourceMap) : List SourceMapSegment :=
  map.segments.filter SourceMapSegment.positive

/-- `_overlapping_monotonic`: the segments from the cursor on, and those that meet the span. -/
def overlappingMonotonic (remaining : List SourceMapSegment) (span : SourceSpan) :
    SourceResult (List SourceMapSegment × List SourceMapSegment) :=
  let later := remaining.dropWhile fun segment => decide (segment.stop ≤ span.start)
  let result := (later.takeWhile fun segment => decide (segment.start < span.stop)).filter
    fun segment => decide (span.start < segment.stop)
  if result = [] ∧ span.start < span.stop then .error "source fragment has no visible mapping"
  else .ok (later, result)

def projectExactPiece (parent : SourceMapSegment) (parentPiece generated : SourceSpan) :
    SourceMapSegment :=
  match parent.provenance with
  | .synthetic region => ⟨generated, .synthetic region, parent.anchor⟩
  | .exact ref start region =>
      ⟨generated, .exact ref (start + (parentPiece.start - parent.start)) region, parent.anchor⟩
  | .derived ref origin region => ⟨generated, .derived ref origin region, parent.anchor⟩

/-- One parent segment under a span that starts at a generated offset. -/
def exactPiece (span : SourceSpan) (generatedStart : Nat) (parent : SourceMapSegment) :
    SourceMapSegment :=
  let piece := parent.generated.intersect span
  projectExactPiece parent piece (piece.rebase span.start generatedStart)

def projectorExact (remaining : List SourceMapSegment) (span : SourceSpan)
    (generatedStart : Nat) : SourceResult (List SourceMapSegment × List SourceMapSegment) := do
  let (later, overlapping) ← overlappingMonotonic remaining span
  let result := overlapping.map (exactPiece span generatedStart)
  if result = [] then throw "source fragment has no visible mapping"
  pure (later, result)

/-- The visible place one segment offers for a span. -/
def spanCandidate (span : SourceSpan) (segment : SourceMapSegment) : UnitAnchor :=
  if max segment.start span.start < min segment.stop span.stop then
    match segment.provenance with
    | .exact (.unit unit) start _ =>
        some (unit, (segment.generated.intersect span).rebase segment.start start)
    | .derived (.unit unit) origin _ => some (unit, origin)
    | _ => segment.anchorUnit
  else none

def anchorFromSegments (segments : List SourceMapSegment) (span : SourceSpan) : UnitAnchor :=
  joinCandidates (segments.filterMap (spanCandidate span))

/-- The segment a line ending projects to. -/
def endingSegment (overlapping : List SourceMapSegment) (span generated : SourceSpan)
    (region : Region) : SourceResult SourceMapSegment :=
  match overlapping.findSome? fun segment =>
      match segment.provenance with
      | .synthetic name => some (name, segment.anchor)
      | _ => none with
  | some (name, anchor) => .ok ⟨generated, .synthetic name, anchor⟩
  | none =>
      match anchorFromSegments overlapping span with
      | some (unit, origin) => .ok ⟨generated, .derived (.unit unit) origin (some region), none⟩
      | none => .error "derived source fragment crosses visible source units"

def projectorDerived (remaining : List SourceMapSegment) (span generated : SourceSpan)
    (region : Region) : SourceResult (List SourceMapSegment × SourceMapSegment) := do
  let (later, overlapping) ← overlappingMonotonic remaining span
  let segment ← endingSegment overlapping span generated region
  pure (later, segment)

/-- The place of an empty span: the segment that starts last at or before it. -/
def pointAnchor (segments : List SourceMapSegment) (offset : Nat) : UnitAnchor :=
  match segments[bisectRight (segments.map SourceMapSegment.start) offset - 1]? with
  | none => none
  | some segment =>
      match segment.provenance with
      | .synthetic _ => segment.anchorUnit
      | .exact (.unit unit) start _ => some (unit, .ofWidth (start + offset - segment.start) 0)
      | .derived (.unit unit) origin _ => some (unit, .ofWidth origin.start 0)
      | _ => none

def projectorAnchor (segments : List SourceMapSegment) (span : SourceSpan) : UnitAnchor :=
  if span.start = span.stop then pointAnchor segments span.start
  else
    let later :=
      segments.drop (bisectRight (segments.map SourceMapSegment.start) span.start - 1)
    anchorFromSegments
      ((later.takeWhile fun segment => decide (segment.start < span.stop)).filter
        fun segment => decide (span.start < segment.stop)) span

/-- The visible origin of an insertion; derived text needs one. -/
def insertionOrigin (segments : List SourceMapSegment) (insertion : ReloadInsertion) :
    SourceResult UnitAnchor :=
  match insertion.origin with
  | none => .ok none
  | some span =>
      match projectorAnchor segments span with
      | none => .error "derived insertion has no visible origin"
      | some place => .ok (some place)

/-! ## Materialization -/

/-- An inserted interval of the generated text; it is derived text when it has an origin. -/
structure CompactInsertionInterval where
  generated : SourceSpan
  sourceOffset : Nat
  methodName : Option MethodName
  syntheticRegion : Region
  origin : UnitAnchor
  anchor : UnitAnchor
  sourceOrigin : Option SourceSpan
  sourceAnchor : SourceSpan
  deriving DecidableEq

namespace CompactInsertionInterval

def start (interval : CompactInsertionInterval) : Nat := interval.generated.start

def stop (interval : CompactInsertionInterval) : Nat := interval.generated.stop

end CompactInsertionInterval

structure CompactState where
  fragments : Text
  intervals : List CompactInsertionInterval
  checkpoints : List ReloadMapCheckpoint
  generatedCursor : Nat
  sourceCursor : Nat
  deriving DecidableEq

/-- The original text up to an offset, normalized. -/
def CompactState.appendOriginal (text : Text) (stop : Nat) (state : CompactState) :
    CompactState :=
  if state.sourceCursor < stop then
    let normalized := normalizeReloadFragment (cut text state.sourceCursor stop)
    { state with
      fragments := state.fragments ++ normalized
      generatedCursor := state.generatedCursor + normalized.length }
  else state

/-- One turn of the inner loop, for an insertion at the offset of its group. -/
def compactMember (segments : List SourceMapSegment) (offset : Nat) (state : CompactState)
    (insertion : ReloadInsertion) : SourceResult CompactState := do
  let origin ← insertionOrigin segments insertion
  let interval : CompactInsertionInterval :=
    ⟨.ofWidth state.generatedCursor insertion.generatedLength, offset, insertion.methodName,
      insertion.syntheticRegion, origin, projectorAnchor segments insertion.anchor,
      insertion.origin, insertion.anchor⟩
  pure { state with
    fragments := state.fragments ++ insertion.text
    intervals := state.intervals ++ [interval]
    generatedCursor := interval.stop }

/-- One turn of the outer loop: all insertions at one offset, and their checkpoint. -/
def compactGroup (text : Text) (segments : List SourceMapSegment) (state : CompactState) :
    List ReloadInsertion → SourceResult CompactState
  | [] => pure state
  | first :: rest => do
      let offset := first.sourceOffset
      let opened := state.appendOriginal text offset
      let filled ← (first :: rest).foldlM (compactMember segments offset) opened
      let insertedLength := ((first :: rest).map ReloadInsertion.generatedLength).sum
      pure { filled with
        checkpoints :=
          filled.checkpoints ++ [⟨offset, opened.generatedCursor, insertedLength⟩]
        sourceCursor := offset }

/-- The runs of insertions at one offset. -/
def insertionGroups (ordered : List ReloadInsertion) : List (List ReloadInsertion) :=
  ordered.splitBy fun first second => decide (first.sourceOffset = second.sourceOffset)

def compactLoop (text : Text) (segments : List SourceMapSegment)
    (ordered : List ReloadInsertion) : SourceResult CompactState := do
  let state ← (insertionGroups ordered).foldlM (compactGroup text segments) ⟨[], [], [], 0, 0⟩
  pure (state.appendOriginal text text.length)

/-! ## The compact basis -/

/--
The basis of a compact map.  The starts of the intervals, the offsets of the
checkpoints, the running totals, and the line feeds of the pairs are read off
these fields, so they agree with them.
-/
structure CompactReloadBasis where
  parentArtifact : SourceArtifactRef
  parentSourceMap : SourceMap
  sourceLength : Nat
  intervals : List CompactInsertionInterval
  checkpoints : List ReloadMapCheckpoint
  lineEndings : List LineEnding
  methodCheckpoints : List ReloadMethodCheckpoint
  deriving DecidableEq

/-- The running totals of the inserted lengths. -/
def insertedAfter : Nat → List ReloadMapCheckpoint → List Nat
  | _, [] => []
  | cumulative, item :: rest =>
      (cumulative + item.insertedLength) :: insertedAfter (cumulative + item.insertedLength) rest

/-- The running total at the last checkpoint up to an offset. -/
def insertedAt (checkpoints : List ReloadMapCheckpoint) (sourceOffset : Nat) : Nat :=
  match bisectRight (checkpoints.map ReloadMapCheckpoint.sourceOffset) sourceOffset with
  | 0 => 0
  | index + 1 => (insertedAfter 0 checkpoints)[index]?.getD 0

def originalToGenerated (checkpoints : List ReloadMapCheckpoint) (lineEndings : List LineEnding)
    (sourceOffset : Nat) : Nat :=
  let removed := bisectBefore (crlfLfOffsets lineEndings) sourceOffset
  sourceOffset - removed + insertedAt checkpoints sourceOffset

def reloadMethodCheckpoints (boundaries : List ReloadMethodBoundary)
    (checkpoints : List ReloadMapCheckpoint) (lineEndings : List LineEnding) :
    List ReloadMethodCheckpoint :=
  boundaries.map fun item =>
    let generated := originalToGenerated checkpoints lineEndings
    ⟨item.methodName, item.declarationStart.toNat, generated item.declarationStart.toNat,
      item.bodyStart.toNat, generated item.bodyStart.toNat,
      item.methodEnd.toNat, generated item.methodEnd.toNat⟩

def checkLineEndings (sourceLength : Nat) : Int → List LineEnding → SourceResult Unit
  | _, [] => .ok ()
  | previousEnd, ending :: rest =>
      if (ending.width ≠ 1 ∧ ending.width ≠ 2) ∨ (ending.start : Int) ≤ previousEnd ∨
          sourceLength < ending.start + ending.width then
        .error "compact reload line endings are invalid"
      else checkLineEndings sourceLength (ending.start + ending.width - 1) rest

namespace CompactReloadBasis

def intervalStarts (basis : CompactReloadBasis) : List Nat :=
  basis.intervals.map CompactInsertionInterval.start

/-- `map_original_offset`. -/
def mapOriginalOffset (basis : CompactReloadBasis) (offset : Nat) : Nat :=
  originalToGenerated basis.checkpoints basis.lineEndings offset

/-- An interval that leaves the generated text, or whose places leave the source. -/
def intervalOutside (basis : CompactReloadBasis) (generated : SourceArtifactRef)
    (item : CompactInsertionInterval) : Bool :=
  decide (generated.characterLength < item.stop) ||
    decide (basis.sourceLength < item.sourceOffset) ||
    decide (basis.sourceLength < item.sourceAnchor.stop) ||
    item.sourceOrigin.any fun origin => decide (basis.sourceLength < origin.stop)

def checkMethodCheckpoints (casefold : String → String) (basis : CompactReloadBasis) :
    List String → List ReloadMethodCheckpoint → SourceResult Unit
  | _, [] => .ok ()
  | names, item :: rest =>
      let normalized := casefold item.methodName
      if item.methodName = "" ∨ normalized ∈ names ∨
          ¬(item.declarationSourceOffset ≤ item.bodySourceOffset ∧
            item.bodySourceOffset ≤ item.endSourceOffset ∧
            item.endSourceOffset ≤ basis.sourceLength) ∨
          item.declarationGeneratedOffset ≠
            basis.mapOriginalOffset item.declarationSourceOffset ∨
          item.bodyGeneratedOffset ≠ basis.mapOriginalOffset item.bodySourceOffset ∨
          item.endGeneratedOffset ≠ basis.mapOriginalOffset item.endSourceOffset then
        .error "compact reload method checkpoints are invalid"
      else checkMethodCheckpoints casefold basis (normalized :: names) rest

/-- `_validate_compact_basis`. -/
def validate (casefold : String → String) (basis : CompactReloadBasis)
    (generated : SourceArtifactRef) : SourceResult Unit := do
  require (basis.parentSourceMap.generated = basis.parentArtifact ∧
      basis.sourceLength = basis.parentArtifact.characterLength)
    "compact reload map basis is invalid"
  checkLineEndings basis.sourceLength (-1) basis.lineEndings
  let cumulative := (basis.checkpoints.map ReloadMapCheckpoint.insertedLength).sum
  require ((basis.sourceLength : Int) - (crlfLfOffsets basis.lineEndings).length + cumulative =
      generated.characterLength)
    "compact reload generated length is invalid"
  require (basis.intervals.any (basis.intervalOutside generated) = false)
    "compact reload interval is invalid"
  checkMethodCheckpoints casefold basis [] basis.methodCheckpoints

end CompactReloadBasis

/-! ## The map -/

def workerLineEndingRegion : Region := ⟨"worker_module_line_ending", by decide⟩

structure CompactReloadSourceMap where
  generated : SourceArtifactRef
  basis : CompactReloadBasis
  flattened : Bool
  deriving DecidableEq

def mappedCompactInterval (interval : CompactInsertionInterval) : MappedOffset :=
  match interval.origin with
  | none =>
      { relation := .synthetic, syntheticRegion := some interval.syntheticRegion,
        anchor := interval.anchor }
  | some (unit, origin) =>
      { relation := .derived, unit := some unit, originSpan := some origin,
        anchor := interval.anchor }

def mappedCompactSegment (segment : SourceMapSegment) : MappedOffset :=
  match segment.provenance with
  | .synthetic region =>
      { relation := .synthetic, syntheticRegion := some region, anchor := segment.anchorUnit }
  | _ =>
      { relation := segment.relation, unit := segment.originRef.bind SourceRef.unit?,
        originSpan := segment.origin, anchor := segment.anchorUnit }

namespace CompactReloadSourceMap

/-- `_interval_at`; the interval that ends the text also holds the end of the text. -/
def intervalAt (map : CompactReloadSourceMap) (offset : Nat) : Option CompactInsertionInterval :=
  match bisectRight map.basis.intervalStarts offset with
  | 0 => none
  | index + 1 =>
      map.basis.intervals[index]?.filter fun interval =>
        (decide (interval.start ≤ offset) && decide (offset < interval.stop)) ||
          (decide (offset = map.generated.characterLength) && decide (interval.stop = offset))

/-- `_original_offset_at_generated`; each turn of the search halves the range. -/
def originalOffsetAtGenerated (map : CompactReloadSourceMap) (generated : Nat) : Nat :=
  searchLast map.basis.mapOriginalOffset generated map.basis.sourceLength 0
    map.basis.sourceLength

def lineEndingWidth (map : CompactReloadSourceMap) (sourceOffset : Nat) : Option Nat :=
  (bisectFind LineEnding.start map.basis.lineEndings sourceOffset).map LineEnding.width

/-- The report for the line feed that replaces a line ending. -/
def mapLineEnding (map : CompactReloadSourceMap) (original width : Nat) :
    SourceResult MappedOffset := do
  let (_, projected) ← projectorDerived (projectorSegments map.basis.parentSourceMap)
    (.ofWidth original width) (.ofWidth 0 1) workerLineEndingRegion
  pure (mappedCompactSegment projected)

/-- The report for an original character: its line ending, or the parent map at an offset. -/
def mapOriginal (map : CompactReloadSourceMap) (original parentOffset : Nat) :
    SourceResult MappedOffset :=
  match map.lineEndingWidth original with
  | some width => map.mapLineEnding original width
  | none => mapOffset map.basis.parentSourceMap parentOffset

/-- `map_offset` of a flattened compact map. -/
def mapFlattenedOffset (map : CompactReloadSourceMap) (offset : Nat) :
    SourceResult MappedOffset :=
  if map.generated.characterLength < offset then
    .error "offset must be within the generated source"
  else
    match map.intervalAt offset with
    | some interval => .ok (mappedCompactInterval interval)
    | none =>
        if offset = map.generated.characterLength then
          if offset = 0 then mapOffset map.basis.parentSourceMap map.basis.sourceLength
          else
            match map.intervalAt (offset - 1) with
            | some interval => .ok (mappedCompactInterval interval)
            | none =>
                map.mapOriginal (map.originalOffsetAtGenerated (offset - 1))
                  map.basis.sourceLength
        else
          let original := map.originalOffsetAtGenerated offset
          map.mapOriginal original original

end CompactReloadSourceMap

/-- The result of a materialization. -/
structure CompactMappedWorkerSource where
  text : Text
  artifact : SourceArtifactRef
  sourceMap : CompactReloadSourceMap
  lineage : List SourceMap
  localSourceMap : CompactReloadSourceMap

/-- The characters `str.strip` removes. -/
def isSpace (character : Char) : Bool :=
  let code := character.toNat
  decide (0x09 ≤ code ∧ code ≤ 0x0d) || decide (0x1c ≤ code ∧ code ≤ 0x20) ||
    decide (0x2000 ≤ code ∧ code ≤ 0x200a) ||
    decide (code ∈ [0x85, 0xa0, 0x1680, 0x2028, 0x2029, 0x202f, 0x205f, 0x3000])

/-- The artifact of a reload text; blank text is rejected. -/
def reloadArtifact (sha256 : Text → String) (text : Text) : SourceResult SourceArtifactRef :=
  if text.all isSpace then .error "Worker source is empty"
  else
    .ok ⟨.workerModule, sha256 text, text.length, if '\n' ∈ text then "lf" else "none", {}⟩

/-- The text of a source; a deferred source has none and is rejected. -/
def reloadText (source : MappedSource) : SourceResult Text :=
  match source.text with
  | none => .error "Worker reload source must be a MappedSource"
  | some text => .ok text

def materializeWorkerReloadSource (sha256 : Text → String) (casefold : String → String)
    (source : MappedSource) (insertions : List ReloadInsertion)
    (methodBoundaries : List ReloadMethodBoundary) : SourceResult CompactMappedWorkerSource := do
  let text ← reloadText source
  let ordered ← validatedReloadInsertions text insertions
  let boundaries ← validatedMethodBoundaries casefold source.artifact.characterLength
    methodBoundaries
  let lineEndings := lineEndingIndex 0 text
  let state ← compactLoop text (projectorSegments source.sourceMap) ordered
  let artifact ← reloadArtifact sha256 state.fragments
  let basis : CompactReloadBasis :=
    ⟨source.artifact, source.sourceMap, text.length, state.intervals, state.checkpoints,
      lineEndings, reloadMethodCheckpoints boundaries state.checkpoints lineEndings⟩
  basis.validate casefold artifact
  pure ⟨state.fragments, artifact, ⟨artifact, basis, true⟩, source.lineage,
    ⟨artifact, basis, false⟩⟩

end OnecRuntime.Reload
