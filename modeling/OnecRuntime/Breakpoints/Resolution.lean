import Mathlib.Data.List.Dedup
import OnecRuntime.Breakpoints.LineIndex
import OnecRuntime.Library.Dictionary
import OnecRuntime.Reload.Section

/-!
# Breakpoint lines

`resolve_source_line` looks for the generated line of a visible source line, and
`map_generated_line` reads a generated line back.  A compact map is asked for the
spans that meet the line; any other map is scanned offset by offset.  The
definitions follow `worker_breakpoints.py`.
-/

namespace OnecRuntime.Breakpoints

open OnecRuntime.Library OnecRuntime.SourceMaps OnecRuntime.Reload

/-! ## Visible sources -/

/-- `_visible_unit_key`. -/
def visibleUnitKey (unit : SourceUnitRef) : SourceUnitKind × String × Nat :=
  (unit.kind, unit.unitId, unit.revision)

structure VisibleSourceContext where
  indices : Dictionary (SourceUnitKind × String × Nat) (String × LineIndex)

namespace VisibleSourceContext

def ofSources (sha256 : Text → String) (sources : List (SourceUnitRef × Text)) :
    VisibleSourceContext :=
  ⟨.ofItems (sources.map fun source =>
    (visibleUnitKey source.1, sha256 source.2, .ofText source.2))⟩

/-- The line index of a unit, under the hash the unit names. -/
def entry (context : VisibleSourceContext) (unit : SourceUnitRef) : Option LineIndex :=
  match context.indices.get? (visibleUnitKey unit) with
  | none => none
  | some (hash, index) => if hash = unit.sourceSha256 then some index else none

def lineColumn (context : VisibleSourceContext) (unit : SourceUnitRef) (offset : Nat) :
    Option (Nat × Nat) :=
  (context.entry unit).bind fun index => (index.offsetToLineColumn offset).toOption

def lineRange (context : VisibleSourceContext) (unit : SourceUnitRef) (line : Nat) :
    Option SourceSpan :=
  (context.entry unit).bind fun index => (index.lineRange line).toOption

end VisibleSourceContext

/-! ## Debug views -/

inductive WorkerSourceMap where
  | generic (map : SourceMap)
  | compact (map : CompactReloadSourceMap)

def WorkerSourceMap.mapOffset : WorkerSourceMap → Nat → SourceResult MappedOffset
  | .generic map => SourceMaps.mapOffset map
  | .compact map => map.mapCompactOffset

/-- The units of `compact_visible_spans`. -/
def compactVisibleUnits (map : CompactReloadSourceMap) : List SourceUnitRef :=
  (map.basis.parentSourceMap.segments.flatMap fun segment =>
      (segment.originRef.bind SourceRef.unit?).toList ++ (segment.anchorUnit.map Prod.fst).toList) ++
    map.basis.intervals.flatMap fun interval =>
      (interval.origin.map Prod.fst).toList ++ (interval.anchor.map Prod.fst).toList

def WorkerSourceMap.references : WorkerSourceMap → List SourceRef
  | .generic map => map.segments.flatMap fun segment =>
      segment.originRef.toList ++ segment.anchorRef.toList
  | .compact map => (compactVisibleUnits map).map SourceRef.unit

def collectUnits : List SourceUnitRef → List SourceRef → SourceResult (List SourceUnitRef)
  | units, [] => .ok units
  | _, .artifact _ :: _ => .error "Worker debug source map is not flattened"
  | units, .unit unit :: rest =>
      match units.find? fun known => decide (visibleUnitKey known = visibleUnitKey unit) with
      | none => collectUnits (units ++ [unit]) rest
      | some existing =>
          if existing.sourceSha256 = unit.sourceSha256 then collectUnits units rest
          else .error "Worker debug sources have conflicting source identities"

/-- `_worker_debug_source_units`. -/
def workerDebugSourceUnits (map : WorkerSourceMap) : SourceResult (List SourceUnitRef) :=
  collectUnits [] map.references

/-- A debug view; it names the units of its own map. -/
structure WorkerModuleDebugView where
  sourceUnits : List SourceUnitRef
  canonicalModule : String
  text : Text
  sourceMap : WorkerSourceMap
  visibleContext : Option VisibleSourceContext
  named : workerDebugSourceUnits sourceMap = .ok sourceUnits

namespace WorkerModuleDebugView

def generatedLineIndex (view : WorkerModuleDebugView) : LineIndex := .ofText view.text

/-- The constructor, which reads the units off the map. -/
def make (canonicalModule : String) (text : Text) (sourceMap : WorkerSourceMap)
    (visibleContext : Option VisibleSourceContext) : SourceResult WorkerModuleDebugView :=
  match named : workerDebugSourceUnits sourceMap with
  | .error problem => .error problem
  | .ok units => .ok ⟨units, canonicalModule, text, sourceMap, visibleContext, named⟩

/-- The view with another map in place of its own. -/
def replaceMap (view : WorkerModuleDebugView) (sourceMap : WorkerSourceMap) :
    SourceResult WorkerModuleDebugView :=
  make view.canonicalModule view.text sourceMap view.visibleContext

end WorkerModuleDebugView

/-! ## Generated lines -/

structure WorkerSourceLocation where
  sourceUnit : SourceUnitRef
  canonicalModule : String
  line : Nat
  deriving DecidableEq

/-- `_generated_line_offsets`; an empty line has the offset it begins at. -/
def generatedLineOffsets (view : WorkerModuleDebugView) (line : Nat) : SourceResult (List Nat) :=
  match view.generatedLineIndex.lineRange line with
  | .error _ => .error "Worker generated line is outside the artifact"
  | .ok span => .ok (List.range' span.start (if span.start = span.stop then 1 else span.width))

/-- What the offsets of a generated line have shown so far. -/
structure LineEvidence where
  exact : List (SourceUnitRef × Nat × Nat) := []
  sawSynthetic : Bool := false
  sawUnproven : Bool := false
  deriving DecidableEq

/-- One turn of the loop of `map_generated_line`. -/
def noteOffset (view : WorkerModuleDebugView) (context : VisibleSourceContext)
    (evidence : LineEvidence) (offset : Nat) : SourceResult LineEvidence :=
  match view.sourceMap.mapOffset offset with
  | .error _ => .ok evidence
  | .ok mapped =>
      match mapped.relation with
      | .exact =>
          match mapped.unit, mapped.originSpan with
          | some unit, some origin =>
              match context.lineColumn unit origin.start with
              | none => .error "Worker exact mapping provenance is unavailable"
              | some coordinates =>
                  .ok { evidence with exact := (unit, coordinates) :: evidence.exact }
          | _, _ => .error "Worker exact mapping has no source identity"
      | .synthetic => .ok { evidence with sawSynthetic := true }
      | .derived => .ok { evidence with sawUnproven := true }

/-- The location that the evidence of a generated line proves; none for synthetic text. -/
def locate (view : WorkerModuleDebugView) (evidence : LineEvidence) :
    SourceResult (Option WorkerSourceLocation) :=
  match (evidence.exact.map fun place => (place.1, place.2.1)).dedup with
  | _ :: _ :: _ => .error "Worker generated line mapping is ambiguous"
  | [(unit, line)] => .ok (some ⟨unit, view.canonicalModule, line⟩)
  | [] =>
      if evidence.sawSynthetic ∧ ¬evidence.sawUnproven then .ok none
      else .error "Worker generated line mapping is not exact"

def mapGeneratedLine (view : WorkerModuleDebugView) (line : Int) :
    SourceResult (Option WorkerSourceLocation) :=
  if line < 1 then .error "generated line must be positive"
  else
    match view.visibleContext with
    | none => .error "Worker visible source context is unavailable"
    | some context => do
        let offsets ← generatedLineOffsets view line.toNat
        let evidence ← offsets.foldlM (noteOffset view context) {}
        locate view evidence

/-! ## Source lines -/

/-- `mapped_spans_for_visible_span`: the exact offsets of one parent segment. -/
def segmentOffsets (map : CompactReloadSourceMap) (reference : SourceUnitRef)
    (requested : SourceSpan) (segment : SourceMapSegment) : SourceResult (List Nat) :=
  match segment.provenance with
  | .exact (.unit unit) origin _ =>
      if unit = reference then
        let first := max origin requested.start
        let last := min (origin + segment.generated.width) requested.stop
        (List.range' first (last - first)).mapM fun offset =>
          map.mapOriginalOffset (segment.start + offset - origin)
      else .ok []
  | _ => .ok []

/-- The test of the compact lookup: half-open ranges that share an offset. -/
def meets (visible requested : SourceSpan) : Bool :=
  decide (visible.start < requested.stop) && decide (requested.start < visible.stop)

/-- Whether a report is exact and meets the range. -/
def exactMeets (reference : SourceUnitRef) (requested : SourceSpan) (mapped : MappedOffset) :
    Bool :=
  decide (mapped.relation = .exact) && decide (mapped.unit = some reference) &&
    mapped.originSpan.any (meets · requested)

/-- The span of a generated offset whose report is exact and meets the range. -/
def exactSpan (map : CompactReloadSourceMap) (reference : SourceUnitRef) (requested : SourceSpan)
    (offset : Nat) : SourceResult (List (MappingRelation × SourceSpan)) := do
  let mapped ← map.mapCompactOffset offset
  pure (if exactMeets reference requested mapped then [(.exact, .ofWidth offset 1)] else [])

/-- The visible place of an interval in a unit: its origin, or else its anchor. -/
def intervalPlace (reference : SourceUnitRef) (interval : CompactInsertionInterval) :
    Option SourceSpan :=
  match interval.origin with
  | some (unit, span) =>
      if unit = reference then some span
      else interval.anchor.bind fun place => if place.1 = reference then some place.2 else none
  | none => interval.anchor.bind fun place => if place.1 = reference then some place.2 else none

def intervalRelation (interval : CompactInsertionInterval) : MappingRelation :=
  if interval.origin.isSome then .derived else .synthetic

/-- The intervals whose place meets the range. -/
def intervalSpans (map : CompactReloadSourceMap) (reference : SourceUnitRef)
    (requested : SourceSpan) : List (MappingRelation × SourceSpan) :=
  map.basis.intervals.filterMap fun interval =>
    if (intervalPlace reference interval).any (meets · requested) then
      some (intervalRelation interval, interval.generated)
    else none

def mappedSpansForVisibleSpan (map : CompactReloadSourceMap) (reference : SourceUnitRef)
    (requested : SourceSpan) : SourceResult (List (MappingRelation × SourceSpan)) := do
  if map.flattened = false then
    throw "visible span lookup requires a flattened reload map"
  let offsets ← map.basis.parentSourceMap.segments.mapM (segmentOffsets map reference requested)
  let ascending := offsets.flatten.dedup.insertionSort (· ≤ ·)
  let exact ← ascending.mapM (exactSpan map reference requested)
  pure (exact.flatten ++ intervalSpans map reference requested)

/-- `_overlaps`: spans that share an offset; an empty one may touch the other at its ends. -/
def overlaps (left right : SourceSpan) : Bool :=
  if left.start = left.stop then
    decide (right.start ≤ left.start) && decide (left.start ≤ right.stop)
  else if right.start = right.stop then
    decide (left.start ≤ right.start) && decide (right.start ≤ left.stop)
  else decide (left.start < right.stop) && decide (right.start < left.stop)

inductive WorkerBreakpointRejection where
  | lineOutOfRange
  | unmappedSourceLine
  | syntheticTarget
  | ambiguousLineMapping
  deriving DecidableEq, Repr

/-- A mapping has a generated line or a reason, never both. -/
inductive WorkerLineMapping where
  | mapped (generatedLine : Nat)
  | rejected (reason : WorkerBreakpointRejection)
  deriving DecidableEq, Repr

/-- The generated lines found for a source line. -/
structure FoundLines where
  exact : List Nat := []
  synthetic : List Nat := []
  deriving DecidableEq, Repr

/-- The lines of one generated span. -/
def spanLines (index : LineIndex) (span : SourceSpan) : SourceResult (List Nat) := do
  let (first, _) ← index.offsetToLineColumn span.start
  if span.start = span.stop then pure [first]
  else
    let (last, _) ← index.offsetToLineColumn (span.stop - 1)
    pure (List.range' first (last + 1 - first))

def noteSpan (index : LineIndex) (found : FoundLines) (entry : MappingRelation × SourceSpan) :
    SourceResult FoundLines := do
  let lines ← spanLines index entry.2
  match entry.1 with
  | .exact => pure { found with exact := found.exact ++ lines }
  | .synthetic => pure { found with synthetic := found.synthetic ++ lines }
  | .derived => pure found

/-- The compact branch. -/
def compactLines (view : WorkerModuleDebugView) (map : CompactReloadSourceMap)
    (unit : SourceUnitRef) (requested : SourceSpan) : SourceResult FoundLines := do
  let spans ← mappedSpansForVisibleSpan map unit requested
  spans.foldlM (noteSpan view.generatedLineIndex) {}

def placedIn (unit : SourceUnitRef) (requested : SourceSpan) (place : UnitAnchor) : Bool :=
  place.any fun found => decide (found.1 = unit) && overlaps found.2 requested

/-- The exact place of a report. -/
def exactPlace (mapped : MappedOffset) : UnitAnchor :=
  match mapped.relation, mapped.unit, mapped.originSpan with
  | .exact, some unit, some origin => some (unit, origin)
  | _, _, _ => none

/-- The anchor of a synthetic report. -/
def syntheticPlace (mapped : MappedOffset) : UnitAnchor :=
  match mapped.relation with
  | .synthetic => mapped.anchor
  | _ => none

/-- One turn of the scan; the end of the text is an offset too. -/
def scanOffset (view : WorkerModuleDebugView) (unit : SourceUnitRef) (requested : SourceSpan)
    (found : FoundLines) (offset : Nat) : SourceResult FoundLines :=
  match view.sourceMap.mapOffset offset with
  | .error _ => .ok found
  | .ok mapped => do
      let (line, _) ← view.generatedLineIndex.offsetToLineColumn offset
      if placedIn unit requested (exactPlace mapped) then
        pure { found with exact := found.exact ++ [line] }
      else if placedIn unit requested (syntheticPlace mapped) then
        pure { found with synthetic := found.synthetic ++ [line] }
      else pure found

/-- The other branch. -/
def scannedLines (view : WorkerModuleDebugView) (unit : SourceUnitRef) (requested : SourceSpan) :
    SourceResult FoundLines :=
  (List.range (view.text.length + 1)).foldlM (scanOffset view unit requested) {}

def foundLines (view : WorkerModuleDebugView) (unit : SourceUnitRef) (requested : SourceSpan) :
    SourceResult FoundLines :=
  match view.sourceMap with
  | .compact map => compactLines view map unit requested
  | .generic _ => scannedLines view unit requested

/-- The mapping that the found lines give. -/
def settleLines (view : WorkerModuleDebugView) (unit : SourceUnitRef) (line : Nat)
    (found : FoundLines) : SourceResult WorkerLineMapping :=
  match found.exact.dedup with
  | [] =>
      .ok (.rejected (if found.synthetic = [] then .unmappedSourceLine else .syntheticTarget))
  | [generated] =>
      if generated ∈ found.synthetic then .ok (.rejected .ambiguousLineMapping)
      else do
        let roundtrip ← mapGeneratedLine view generated
        if roundtrip.any fun place => decide (place.sourceUnit = unit ∧ place.line = line) then
          pure (.mapped generated)
        else pure (.rejected .ambiguousLineMapping)
  | _ => .ok (.rejected .ambiguousLineMapping)

def resolveSourceLine (view : WorkerModuleDebugView) (unit : SourceUnitRef) (line : Int) :
    SourceResult WorkerLineMapping :=
  if unit ∉ view.sourceUnits then
    .error "Worker source identity does not match the debug view"
  else if line < 1 then .ok (.rejected .lineOutOfRange)
  else
    match view.visibleContext with
    | none => .error "Worker visible source context is unavailable"
    | some context =>
        match context.lineRange unit line.toNat with
        | none => .ok (.rejected .lineOutOfRange)
        | some requested => do
            let found ← foundLines view unit requested
            settleLines view unit line.toNat found

end OnecRuntime.Breakpoints
