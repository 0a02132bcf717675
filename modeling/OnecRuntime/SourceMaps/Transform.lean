import OnecRuntime.SourceMaps.Reused
import OnecRuntime.SourceMaps.Retained

/-!
# The transform builder

A builder appends text fragments and one segment for each of them, over a
parent source.  Text is given, or copied from the fragments of a retained
source.  A build composes the local map with the parent map and keeps the
fragments.  The text digest is a parameter.
-/

namespace OnecRuntime.SourceMaps

open OnecRuntime.Library

/-! ## Line endings of joined fragments -/

def lineEndingName (pairs lineFeeds carriageReturns : Nat) : String :=
  if ((if 0 < pairs then 1 else 0) + (if 0 < lineFeeds then 1 else 0) +
      (if 0 < carriageReturns then 1 else 0)) > 1 then "mixed"
  else if 0 < pairs then "crlf"
  else if 0 < lineFeeds then "lf"
  else if 0 < carriageReturns then "cr"
  else "none"

def lineEndingKind (text : Text) : String :=
  let pairs := countPairs text
  lineEndingName pairs (text.count '\n' - pairs) (text.count '\r' - pairs)

/-- The counts over a list of fragments; a pair may lie across two of them. -/
def fragmentCounts : Bool → List RetainedTextFragment → Nat × Nat × Nat
  | _, [] => (0, 0, 0)
  | previousEndedCr, fragment :: rest =>
      let summary := fragment.lineEndings
      let across := if previousEndedCr && summary.startsWithLineFeed then 1 else 0
      let ended := if fragment.text = [] then previousEndedCr else summary.endsWithCarriageReturn
      let others := fragmentCounts ended rest
      (summary.carriageReturns + others.1, summary.lineFeeds + others.2.1,
        summary.pairs + across + others.2.2)

def lineEndingKindFragments (fragments : List RetainedTextFragment) : String :=
  let counts := fragmentCounts false fragments
  lineEndingName counts.2.2 (counts.2.1 - counts.2.2) (counts.1 - counts.2.2)

/-- A pair lies across a cut behind a carriage return and before a line feed. -/
def pairAcross (endedCr startsLf : Bool) : Nat := if endedCr && startsLf then 1 else 0

theorem countPairs_cons {first : Char} {rest : Text} :
    countPairs (first :: rest) =
      countPairs rest + pairAcross (first == '\r') (rest.head? == some '\n') := by
  by_cases carriage : first = '\r'
  · subst carriage
    cases rest with
    | nil => rfl
    | cons second later =>
      by_cases feed : second = '\n'
      · subst feed
        rw [countPairs, countPairs]
        · rfl
        · exact fun _ same => absurd same (by decide)
      · rw [countPairs]
        · simp [pairAcross, feed]
        · exact fun _ _ same => absurd (List.cons.inj same).1 feed
  · rw [countPairs]
    · simp [pairAcross, carriage]
    · exact fun _ same => absurd same carriage

/-- The pairs of two texts in a row are those of each and the one across the cut. -/
theorem countPairs_append (first second : Text) : countPairs (first ++ second) =
    countPairs first + countPairs second +
      pairAcross (first.getLast? == some '\r') (second.head? == some '\n') := by
  induction first with
  | nil => simp [countPairs, pairAcross]
  | cons char rest follows =>
    rw [List.cons_append, countPairs_cons, follows, countPairs_cons]
    cases rest with
    | nil => simp [pairAcross, countPairs]
    | cons next later =>
      rw [List.cons_append, List.head?_cons, List.head?_cons, List.getLast?_cons_cons]
      omega
/-- The counts over fragments are those of the text that they keep, where a carriage return may end
the text before it. -/
theorem fragmentCounts_eq (endedCr : Bool) (fragments : List RetainedTextFragment) :
    fragmentCounts endedCr fragments =
      ((retainedText fragments).count '\r', (retainedText fragments).count '\n',
        countPairs (retainedText fragments) +
          pairAcross endedCr ((retainedText fragments).head? == some '\n')) := by
  induction fragments generalizing endedCr with
  | nil =>
    rw [fragmentCounts]
    simp [retainedText, countPairs, pairAcross]
  | cons fragment rest follows =>
    have joined : retainedText (fragment :: rest) = fragment.text ++ retainedText rest := rfl
    have across : (if endedCr && fragment.lineEndings.startsWithLineFeed then 1 else 0) =
        pairAcross endedCr (fragment.text.head? == some '\n') := rfl
    rw [fragmentCounts, joined, List.count_append, List.count_append, follows, across]
    dsimp only [RetainedTextFragment.lineEndings, lineEndingSummary]
    refine Prod.ext rfl (Prod.ext rfl ?_)
    by_cases empty : fragment.text = []
    · -- an empty fragment leaves the edge to the fragments behind it
      rw [if_pos empty, empty]
      simp [countPairs, pairAcross]
    · rw [if_neg empty, countPairs_append]
      obtain ⟨first, later, same⟩ := List.exists_cons_of_ne_nil empty
      rw [same, List.cons_append, List.head?_cons, List.head?_cons]
      dsimp only
      omega

/-- The classification over fragments is that of the text that they keep. -/
theorem lineEndingKindFragments_eq (fragments : List RetainedTextFragment) :
    lineEndingKindFragments fragments = lineEndingKind (retainedText fragments) := by
  unfold lineEndingKindFragments lineEndingKind
  rw [fragmentCounts_eq]
  rfl

/-! ## Mapped sources -/

/-- The checks of the constructor on its two maps. -/
def checkMaps (artifact : SourceArtifactRef) (sourceMap : SourceMap) (lineage : List SourceMap)
    (localSourceMap : Option SourceMap) : SourceResult Unit := do
  if sourceMap.generated ≠ artifact then
    throw "mapped source map must identify the exact artifact"
  validateFlattenedMap "flattened source map" sourceMap.segments
  match localSourceMap with
  | none => pure ()
  | some localMap =>
      if localMap.generated ≠ artifact then
        throw "local source map must identify the exact artifact"
      else if lineage.getLast? ≠ some localMap then
        throw "local source map must be the latest lineage entry"
      else pure ()

theorem checkMaps_ok {artifact : SourceArtifactRef} {sourceMap : SourceMap}
    {lineage : List SourceMap} {localSourceMap : Option SourceMap}
    (checked : checkMaps artifact sourceMap lineage localSourceMap = .ok ()) :
    sourceMap.generated = artifact ∧
      ∀ segment ∈ sourceMap.segments, flattenedSegment segment = true := by
  unfold checkMaps at checked
  split_ifs at checked with same
  · cases checked
  · obtain ⟨_, validated, _⟩ := bind_eq_ok.mp checked
    exact ⟨Decidable.not_not.mp same, validateFlattenedMap_ok validated⟩

/-- The constructor of a mapped source; a deferred source has no joined text. -/
def MappedSource.make (objectId : Nat) (text : Option Text) (artifact : SourceArtifactRef)
    (sourceMap : SourceMap) (lineage : List SourceMap) (localSourceMap : Option SourceMap)
    (fragments : List RetainedTextFragment) : SourceResult MappedSource :=
  if text.any fun joined => decide (joined.length ≠ artifact.characterLength) then
    .error "mapped source artifact hash or length does not match its text"
  else
    match checked : checkMaps artifact sourceMap lineage localSourceMap with
    | .error message => .error message
    | .ok _ =>
        if valid : validRetainedFragments artifact fragments = true then
          .ok ⟨objectId, artifact, sourceMap, lineage, localSourceMap, fragments, text,
            (checkMaps_ok checked).1, (checkMaps_ok checked).2,
            validRetainedFragments_partition valid⟩
        else .error "retained fragment authority is invalid"

/-- The constructor stores what it is given. -/
theorem MappedSource.make_ok {objectId : Nat} {text : Option Text} {artifact : SourceArtifactRef}
    {sourceMap : SourceMap} {lineage : List SourceMap} {localSourceMap : Option SourceMap}
    {fragments : List RetainedTextFragment} {source : MappedSource}
    (made : make objectId text artifact sourceMap lineage localSourceMap fragments = .ok source) :
    source.artifact = artifact ∧ source.sourceMap = sourceMap ∧ source.text = text ∧
      source.retainedFragments = fragments := by
  unfold make at made
  split at made
  · cases made
  split at made
  · cases made
  split at made
  · obtain rfl := Except.ok.inj made
    exact ⟨rfl, rfl, rfl, rfl⟩
  · cases made

def mappedVisibleSource (sha256 : Text → String) (objectId : Nat) (text : Text)
    (unit : SourceUnitRef) : SourceResult MappedSource :=
  if sha256 text ≠ unit.sourceSha256 then
    .error "visible source hash does not match its source unit"
  else do
    let artifact : SourceArtifactRef :=
      ⟨.visible, unit.sourceSha256, text.length, lineEndingKind text, {}⟩
    let sourceMap ← SourceMap.make artifact
      [⟨.ofWidth 0 text.length, .exact (.unit unit) 0 none, none⟩]
    MappedSource.make objectId (some text) artifact sourceMap [] none
      [.place 0 text none none]

/-! ## The builder -/

structure SourceTransformBuilder where
  parent : MappedSource
  normalizedParent : Bool
  parts : List RetainedTextFragment
  segments : List SourceMapSegment
  cursor : Nat

/-- Fragments of a retained source, placed one after another. -/
def relocate (source : MappedSource) (trusted : Bool) :
    Nat → Nat → List RetainedTextFragment → List RetainedTextFragment
  | _, _, [] => []
  | cursor, retainedCursor, fragment :: rest =>
      let width := fragment.text.length
      .place cursor fragment.text (some (source.objectId, .ofWidth retainedCursor width))
          (if trusted ∧ fragment.containsNul = none then some false else fragment.containsNul) ::
        relocate source trusted (cursor + width) (retainedCursor + width) rest

def requireRegion (name region : String) : SourceResult Region :=
  if nonempty : region ≠ "" then .ok ⟨region, nonempty⟩
  else .error (name ++ " must be a string and must not be empty")

namespace SourceTransformBuilder

def new (parent : MappedSource) (normalizedParent : Bool) : SourceTransformBuilder :=
  ⟨parent, normalizedParent, [], [], 0⟩

def parentRef (builder : SourceTransformBuilder) : SourceRef := .artifact builder.parent.artifact

def validateParentSpan (builder : SourceTransformBuilder) (span : SourceSpan) :
    SourceResult Unit :=
  if builder.parent.artifact.characterLength < span.stop then
    .error "fragment span must be within the parent source"
  else .ok ()

def validateAnchor (builder : SourceTransformBuilder) : Option SourceSpan → SourceResult Unit
  | none => .ok ()
  | some anchor => builder.validateParentSpan anchor

/-- `_append`. -/
def append (builder : SourceTransformBuilder) (text : Text) (provenance : Provenance)
    (anchor : Option (SourceRef × SourceSpan)) : SourceTransformBuilder :=
  { builder with
    parts := builder.parts ++
      [.place builder.cursor text none (some (localNulSummary text))]
    segments := builder.segments ++ [⟨.ofWidth builder.cursor text.length, provenance, anchor⟩]
    cursor := builder.cursor + text.length }

/-- `_append_retained`. -/
def appendRetained (builder : SourceTransformBuilder) (source : MappedSource) (span : SourceSpan)
    (provenance : Provenance) (anchor : Option (SourceRef × SourceSpan)) :
    SourceResult SourceTransformBuilder := do
  let trusted := builder.normalizedParent && decide (source.objectId = builder.parent.objectId)
  let fragments ← retainedFragmentsForSpan source span (!trusted)
  pure { builder with
    parts := builder.parts ++ relocate source trusted builder.cursor span.start fragments
    segments := builder.segments ++ [⟨.ofWidth builder.cursor span.width, provenance, anchor⟩]
    cursor := builder.cursor + (retainedText fragments).length }

def copy (builder : SourceTransformBuilder) (span : SourceSpan) :
    SourceResult SourceTransformBuilder := do
  builder.validateParentSpan span
  builder.appendRetained builder.parent span (.exact builder.parentRef span.start none) none

def exact (builder : SourceTransformBuilder) (text : Text) (span : SourceSpan) :
    SourceResult SourceTransformBuilder := do
  builder.validateParentSpan span
  if text.length ≠ span.width then throw "exact text must preserve the parent span length"
  pure (builder.append text (.exact builder.parentRef span.start none) none)

def derived (builder : SourceTransformBuilder) (text : Text) (span : SourceSpan) (region : String)
    (anchor : Option SourceSpan) : SourceResult SourceTransformBuilder := do
  let name ← requireRegion "derived region" region
  builder.validateParentSpan span
  builder.validateAnchor anchor
  pure (builder.append text (.derived builder.parentRef span (some name))
    (anchor.map fun place => (builder.parentRef, place)))

def synthetic (builder : SourceTransformBuilder) (text : Text) (anchor : SourceSpan)
    (region : String) : SourceResult SourceTransformBuilder := do
  let name ← requireRegion "synthetic region" region
  builder.validateParentSpan anchor
  pure (builder.append text (.synthetic name) (some (builder.parentRef, anchor)))

def reuseExact (builder : SourceTransformBuilder) (span : SourceSpan) :
    SourceResult SourceTransformBuilder :=
  builder.copy span

def reuseDerived (builder : SourceTransformBuilder) (text : Text) (span : SourceSpan)
    (region : String) (anchor : Option SourceSpan) : SourceResult SourceTransformBuilder :=
  builder.derived text span region anchor

def reuseSynthetic (builder : SourceTransformBuilder) (text : Text) (anchor : SourceSpan)
    (region : String) : SourceResult SourceTransformBuilder :=
  builder.synthetic text anchor region

def retainedExact (builder : SourceTransformBuilder) (source : MappedSource)
    (retainedSpan parentSpan : SourceSpan) : SourceResult SourceTransformBuilder := do
  builder.validateParentSpan parentSpan
  if retainedSpan.width ≠ parentSpan.width then
    throw "retained exact text must preserve span length"
  builder.appendRetained source retainedSpan (.exact builder.parentRef parentSpan.start none) none

def retainedDerived (builder : SourceTransformBuilder) (source : MappedSource)
    (retainedSpan span : SourceSpan) (region : String) (anchor : Option SourceSpan) :
    SourceResult SourceTransformBuilder := do
  let name ← requireRegion "derived region" region
  builder.validateParentSpan span
  builder.validateAnchor anchor
  builder.appendRetained source retainedSpan (.derived builder.parentRef span (some name))
    (anchor.map fun place => (builder.parentRef, place))

def retainedSynthetic (builder : SourceTransformBuilder) (source : MappedSource)
    (retainedSpan anchor : SourceSpan) (region : String) :
    SourceResult SourceTransformBuilder := do
  let name ← requireRegion "synthetic region" region
  builder.validateParentSpan anchor
  builder.appendRetained source retainedSpan (.synthetic name) (some (builder.parentRef, anchor))

/-! ## Builds -/

/-- The loop of `_validate_normalized_worker_policy` over the parts. -/
def checkNul : List RetainedTextFragment → SourceResult Unit
  | [] => .ok ()
  | fragment :: rest =>
      match fragment.containsNul with
      | none => .error "normalized Worker fragment authority is incomplete"
      | some true => .error "Worker source contains a NUL character"
      | some false => checkNul rest

def validateNormalizedWorkerPolicy (builder : SourceTransformBuilder) (kind : SourceArtifactKind)
    (normalized : Bool) : SourceResult Unit :=
  if !normalized then .ok ()
  else if kind ≠ .workerModule then .error "normalized Worker authority is invalid"
  else checkNul builder.parts

/-- `_artifact`, with the text the parts join to. -/
def artifact (sha256 : Text → String) (builder : SourceTransformBuilder)
    (kind : SourceArtifactKind) (identity : ArtifactIdentity) : SourceResult SourceArtifactRef :=
  if builder.segments = [] then
    .error "transform must contain at least one explicit fragment"
  else
    .ok ⟨kind, sha256 (retainedText builder.parts), builder.cursor,
      lineEndingKindFragments builder.parts, identity⟩

/-- The common end of the builds, for one way to compose and one list of fragments to keep. -/
def finish (sha256 : Text → String) (builder : SourceTransformBuilder)
    (compose : SourceMap → SourceMap → SourceResult SourceMap) (materialize : Bool)
    (keep : List RetainedTextFragment → List RetainedTextFragment) (objectId : Nat)
    (kind : SourceArtifactKind) (identity : ArtifactIdentity) : SourceResult MappedSource := do
  let artifact ← builder.artifact sha256 kind identity
  let localMap ← SourceMap.make artifact (coalesceSegments builder.segments)
  let flattened ← compose localMap builder.parent.sourceMap
  MappedSource.make objectId (if materialize then some (retainedText builder.parts) else none)
    artifact flattened (builder.parent.lineage ++ [localMap]) (some localMap) (keep builder.parts)

variable (sha256 : Text → String) (builder : SourceTransformBuilder) (objectId : Nat)
  (kind : SourceArtifactKind) (identity : ArtifactIdentity) (normalized : Bool)

def buildDeferred : SourceResult MappedSource :=
  builder.finish sha256 composeReusedSourceMaps false id objectId kind identity

def build : SourceResult MappedSource := do
  builder.validateNormalizedWorkerPolicy kind normalized
  builder.finish sha256 composeSourceMaps true id objectId kind identity

def buildReused : SourceResult MappedSource := do
  builder.validateNormalizedWorkerPolicy kind normalized
  builder.finish sha256 composeReusedSourceMaps true id objectId kind identity

/-- The fragments without the sources they were copied from. -/
def detached (fragments : List RetainedTextFragment) : List RetainedTextFragment :=
  fragments.map fun fragment => { fragment with retained := none }

def buildCanonicalReused : SourceResult MappedSource := do
  if builder.parent.text.isSome then
    throw "canonical retained build requires a deferred parent"
  builder.validateNormalizedWorkerPolicy kind normalized
  builder.finish sha256 composeReusedSourceMaps true detached objectId kind identity

end SourceTransformBuilder

/-! ## Stages -/

/-- The calls that append to a builder. -/
inductive TransformStep where
  | copy (span : SourceSpan)
  | exact (text : Text) (span : SourceSpan)
  | derived (text : Text) (span : SourceSpan) (region : String) (anchor : Option SourceSpan)
  | synthetic (text : Text) (anchor : SourceSpan) (region : String)
  | reuseExact (span : SourceSpan)
  | reuseDerived (text : Text) (span : SourceSpan) (region : String) (anchor : Option SourceSpan)
  | reuseSynthetic (text : Text) (anchor : SourceSpan) (region : String)
  | retainedExact (source : MappedSource) (retainedSpan parentSpan : SourceSpan)
  | retainedDerived (source : MappedSource) (retainedSpan span : SourceSpan) (region : String)
      (anchor : Option SourceSpan)
  | retainedSynthetic (source : MappedSource) (retainedSpan anchor : SourceSpan)
      (region : String)

def TransformStep.apply (builder : SourceTransformBuilder) :
    TransformStep → SourceResult SourceTransformBuilder
  | .copy span => builder.copy span
  | .exact text span => builder.exact text span
  | .derived text span region anchor => builder.derived text span region anchor
  | .synthetic text anchor region => builder.synthetic text anchor region
  | .reuseExact span => builder.reuseExact span
  | .reuseDerived text span region anchor => builder.reuseDerived text span region anchor
  | .reuseSynthetic text anchor region => builder.reuseSynthetic text anchor region
  | .retainedExact source retainedSpan parentSpan =>
      builder.retainedExact source retainedSpan parentSpan
  | .retainedDerived source retainedSpan span region anchor =>
      builder.retainedDerived source retainedSpan span region anchor
  | .retainedSynthetic source retainedSpan anchor region =>
      builder.retainedSynthetic source retainedSpan anchor region

/-- The calls of one stage in order; a call that raises changes no builder. -/
def runSteps (builder : SourceTransformBuilder) :
    List TransformStep → SourceResult SourceTransformBuilder
  | [] => pure builder
  | step :: rest => do
      let next ← step.apply builder
      runSteps next rest

/-- The text a call gives for exact text is the text of the parent. -/
def TransformStep.Agrees (parent : MappedSource) : TransformStep → Prop
  | .exact text span => text = span.slice parent.content
  | .retainedExact source retainedSpan parentSpan =>
      retainedSpan.slice source.content = parentSpan.slice parent.content
  | _ => True

/-- The four ways a builder is finished. -/
inductive Finishes (sha256 : Text → String) (builder : SourceTransformBuilder)
    (result : MappedSource) : Prop where
  | deferred {objectId : Nat} {kind : SourceArtifactKind} {identity : ArtifactIdentity}
      (built : builder.buildDeferred sha256 objectId kind identity = .ok result)
  | build {objectId : Nat} {kind : SourceArtifactKind} {identity : ArtifactIdentity}
      {normalized : Bool}
      (built : builder.build sha256 objectId kind identity normalized = .ok result)
  | reused {objectId : Nat} {kind : SourceArtifactKind} {identity : ArtifactIdentity}
      {normalized : Bool}
      (built : builder.buildReused sha256 objectId kind identity normalized = .ok result)
  | canonical {objectId : Nat} {kind : SourceArtifactKind} {identity : ArtifactIdentity}
      {normalized : Bool}
      (built : builder.buildCanonicalReused sha256 objectId kind identity normalized =
        .ok result)

/-- Every source that stages make of one source. -/
inductive Pipeline (sha256 : Text → String) (first : MappedSource) : MappedSource → Prop where
  | start : Pipeline sha256 first first
  | stage {parent result : MappedSource} {normalized : Bool} {steps : List TransformStep}
      {builder : SourceTransformBuilder} (before : Pipeline sha256 first parent)
      (agrees : ∀ step ∈ steps, step.Agrees parent)
      (ran : runSteps (.new parent normalized) steps = .ok builder)
      (finished : Finishes sha256 builder result) : Pipeline sha256 first result

end OnecRuntime.SourceMaps
