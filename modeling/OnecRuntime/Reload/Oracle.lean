import OnecRuntime.Reload.Compact

/-!
# The generic reload maps

The oracle scans the source text and lays out one segment for every piece of
it.  The generic form of a compact map lays out the same kinds of segments from
the intervals and line endings it kept.  Both share the layout below.
-/

namespace OnecRuntime.Reload

open OnecRuntime.Library OnecRuntime.SourceMaps

/-- Local and flattened segments up to a cursor, and the segments the projector has left. -/
structure ReloadLayout where
  localSegments : List SourceMapSegment
  flattenedSegments : List SourceMapSegment
  generatedCursor : Nat
  remaining : List SourceMapSegment
  deriving DecidableEq

def localInsertion (artifact : SourceArtifactRef) (generated : SourceSpan) (region : Region)
    (origin : Option SourceSpan) (anchor : SourceSpan) : SourceMapSegment :=
  let provenance : Provenance := match origin with
    | none => .synthetic region
    | some span => .derived (.artifact artifact) span (some region)
  ⟨generated, provenance, some (.artifact artifact, anchor)⟩

def flattenedInsertion (generated : SourceSpan) (region : Region) (origin anchor : UnitAnchor) :
    SourceMapSegment :=
  let provenance : Provenance := match origin with
    | none => .synthetic region
    | some (unit, span) => .derived (.unit unit) span (some region)
  ⟨generated, provenance, unitAnchor anchor⟩

namespace ReloadLayout

def start (map : SourceMap) : ReloadLayout := ⟨[], [], 0, projectorSegments map⟩

/-- Original text without line endings. -/
def exact (artifact : SourceArtifactRef) (span : SourceSpan) (layout : ReloadLayout) :
    SourceResult ReloadLayout := do
  let (remaining, pieces) ← projectorExact layout.remaining span layout.generatedCursor
  pure ⟨layout.localSegments ++
      [⟨.ofWidth layout.generatedCursor span.width, .exact (.artifact artifact) span.start none,
        none⟩],
    layout.flattenedSegments ++ pieces, layout.generatedCursor + span.width, remaining⟩

/-- Exact text from one offset to another, if there is any. -/
def stretch (artifact : SourceArtifactRef) (first last : Nat) (layout : ReloadLayout) :
    SourceResult ReloadLayout :=
  if first < last then layout.exact artifact (.ofWidth first (last - first)) else pure layout

/-- The line feed for one line ending. -/
def ending (artifact : SourceArtifactRef) (origin : SourceSpan) (layout : ReloadLayout) :
    SourceResult ReloadLayout := do
  let generated := SourceSpan.ofWidth layout.generatedCursor 1
  let (remaining, piece) ← projectorDerived layout.remaining origin generated
    workerLineEndingRegion
  pure ⟨layout.localSegments ++
      [⟨generated, .derived (.artifact artifact) origin (some workerLineEndingRegion), none⟩],
    layout.flattenedSegments ++ [piece], layout.generatedCursor + 1, remaining⟩

/-- Two segments for one interval of inserted text. -/
def insertion (localSegment flattenedSegment : SourceMapSegment) (layout : ReloadLayout) :
    ReloadLayout :=
  { layout with
    localSegments := layout.localSegments ++ [localSegment]
    flattenedSegments := layout.flattenedSegments ++ [flattenedSegment]
    generatedCursor := flattenedSegment.stop }

end ReloadLayout

/-! ## The oracle -/

/-- `text.find("\r", first, last)`. -/
def findCarriage (text : Text) (first last : Nat) : Option Nat :=
  ((cut text first last).findIdx? fun character => decide (character = '\r')).map (first + ·)

/-- Original text without line endings; a cut without text adds none. -/
def oracleStretch (artifact : SourceArtifactRef) (text : Text) (first last : Nat)
    (state : Text × ReloadLayout) : SourceResult (Text × ReloadLayout) := do
  let laid ← state.2.stretch artifact first last
  pure (state.1 ++ cut text first last, laid)

/-- The line feed for the line ending at a carriage return. -/
def oracleEnding (artifact : SourceArtifactRef) (carriage width : Nat)
    (state : Text × ReloadLayout) : SourceResult (Text × ReloadLayout) := do
  let laid ← state.2.ending artifact (.ofWidth carriage width)
  pure (state.1 ++ ['\n'], laid)

/-- The loop of the oracle over one piece of original text; each turn passes a character. -/
def oracleOriginal (artifact : SourceArtifactRef) (text : Text) (stop : Nat) :
    Nat → Nat → Text × ReloadLayout → SourceResult (Text × ReloadLayout)
  | 0, _, state => pure state
  | fuel + 1, cursor, state =>
      if cursor < stop then
        match findCarriage text cursor stop with
        | none => oracleStretch artifact text cursor stop state
        | some carriage => do
            let width :=
              if carriage + 1 < stop ∧ text[carriage + 1]? = some '\n' then 2 else 1
            let plain ← oracleStretch artifact text cursor carriage state
            let ended ← oracleEnding artifact carriage width plain
            oracleOriginal artifact text stop fuel (carriage + width) ended
      else pure state

/-- `append_insertion`. -/
def oracleInsertion (artifact : SourceArtifactRef) (segments : List SourceMapSegment)
    (state : Text × ReloadLayout) (item : ReloadInsertion) :
    SourceResult (Text × ReloadLayout) := do
  let (fragments, layout) := state
  let generated := SourceSpan.ofWidth layout.generatedCursor item.generatedLength
  let anchor := projectorAnchor segments item.anchor
  let origin ← insertionOrigin segments item
  pure (fragments ++ item.text,
    layout.insertion
      (localInsertion artifact generated item.syntheticRegion item.origin item.anchor)
      (flattenedInsertion generated item.syntheticRegion origin anchor))

def oracleLoop (artifact : SourceArtifactRef) (text : Text) (segments : List SourceMapSegment) :
    List ReloadInsertion → Nat → Text × ReloadLayout → SourceResult (Text × ReloadLayout)
  | [], sourceCursor, state =>
      oracleOriginal artifact text text.length (text.length - sourceCursor) sourceCursor state
  | item :: rest, sourceCursor, state => do
      let before ← oracleOriginal artifact text item.sourceOffset
        (item.sourceOffset - sourceCursor) sourceCursor state
      let after ← oracleInsertion artifact segments before item
      oracleLoop artifact text segments rest item.sourceOffset after

def materializeWorkerReloadSourceOracle (sha256 : Text → String) (objectId : Nat)
    (source : MappedSource) (insertions : List ReloadInsertion) : SourceResult MappedSource := do
  let text ← reloadText source
  let ordered ← validatedReloadInsertions text insertions
  let (fragments, layout) ← oracleLoop source.artifact text (projectorSegments source.sourceMap)
    ordered 0 ([], .start source.sourceMap)
  let artifact ← reloadArtifact sha256 fragments
  let localMap ← SourceMap.make artifact layout.localSegments
  let flattened ← SourceMap.make artifact layout.flattenedSegments
  MappedSource.make objectId (some fragments) artifact flattened (source.lineage ++ [localMap])
    (some localMap) [.place 0 fragments none none]

/-! ## The generic form of a compact map -/

/-- The turns of the generic loop over the line endings before a stop. -/
def genericEndings (artifact : SourceArtifactRef) :
    List LineEnding → Nat → ReloadLayout → SourceResult (Nat × ReloadLayout)
  | [], cursor, layout => pure (cursor, layout)
  | ending :: rest, cursor, layout => do
      let plain ← layout.stretch artifact cursor ending.start
      let laid ← plain.ending artifact (.ofWidth ending.start ending.width)
      genericEndings artifact rest (ending.start + ending.width) laid

/-- `append_original` of the generic form. -/
def genericOriginal (artifact : SourceArtifactRef) (lineEndings : List LineEnding)
    (stop cursor : Nat) (layout : ReloadLayout) : SourceResult ReloadLayout := do
  let later := lineEndings.drop (bisectBefore (lineEndings.map LineEnding.start) cursor)
  let (reached, laid) ← genericEndings artifact
    (later.takeWhile fun ending => decide (ending.start < stop)) cursor layout
  laid.stretch artifact reached stop

def genericInterval (artifact : SourceArtifactRef) (interval : CompactInsertionInterval)
    (layout : ReloadLayout) : SourceResult ReloadLayout := do
  if layout.generatedCursor ≠ interval.start then
    throw "compact reload interval ordering is invalid"
  if interval.origin.isSome ∧ interval.sourceOrigin = none then
    throw "compact reload derived interval is invalid"
  let origin := if interval.origin.isSome then interval.sourceOrigin else none
  pure (layout.insertion
    (localInsertion artifact interval.generated interval.syntheticRegion origin
      interval.sourceAnchor)
    (flattenedInsertion interval.generated interval.syntheticRegion interval.origin
      interval.anchor))

/-- The original text up to an offset, if there is any. -/
def genericUpTo (basis : CompactReloadBasis) (stop cursor : Nat) (layout : ReloadLayout) :
    SourceResult ReloadLayout :=
  if cursor < stop then
    genericOriginal basis.parentArtifact basis.lineEndings stop cursor layout
  else pure layout

def genericLoop (basis : CompactReloadBasis) :
    List CompactInsertionInterval → Nat → ReloadLayout → SourceResult ReloadLayout
  | [], sourceCursor, layout => genericUpTo basis basis.sourceLength sourceCursor layout
  | interval :: rest, sourceCursor, layout => do
      let before ← genericUpTo basis interval.sourceOffset sourceCursor layout
      let after ← genericInterval basis.parentArtifact interval before
      genericLoop basis rest interval.sourceOffset after

namespace CompactReloadSourceMap

/-- `_materialize_compact_generic`. -/
def materializeGeneric (map : CompactReloadSourceMap) : SourceResult SourceMap := do
  let layout ← genericLoop map.basis map.basis.intervals 0 (.start map.basis.parentSourceMap)
  SourceMap.make map.generated
    (if map.flattened then layout.flattenedSegments else layout.localSegments)

/-- `map_offset`; a local map has no compact lookup of its own. -/
def mapCompactOffset (map : CompactReloadSourceMap) (offset : Nat) : SourceResult MappedOffset :=
  if map.flattened then map.mapFlattenedOffset offset
  else do
    let generic ← map.materializeGeneric
    mapOffset generic offset

end CompactReloadSourceMap

end OnecRuntime.Reload
