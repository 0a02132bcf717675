import OnecRuntime.SourceMaps.Transform

/-!
# Exact text through a pipeline of transforms

A segment is true when every character it maps exactly is the character of its
origin.  Truth is kept by coalescing, by composition, by every builder step, and
so by every sequence of stages over one visible source.
-/

namespace OnecRuntime.SourceMaps

open OnecRuntime.Library

/-- An exact segment has its origin in one source, and copies its characters. -/
def TrueSegment (text : Text) (ref : SourceRef) (source : Text) (segment : SourceMapSegment) :
    Prop :=
  ∀ named start region, segment.provenance = .exact named start region →
    named = ref ∧ ∀ offset, segment.start ≤ offset → offset < segment.stop →
      text[offset]? = source[start + (offset - segment.start)]?

/-- Every exact segment of a list is true. -/
def ExactText (text : Text) (ref : SourceRef) (source : Text)
    (segments : List SourceMapSegment) : Prop :=
  ∀ segment ∈ segments, TrueSegment text ref source segment

variable {text : Text} {ref : SourceRef} {segment : SourceMapSegment}

variable {source : Text}

theorem TrueSegment.of_relation (other : segment.relation ≠ .exact) :
    TrueSegment text ref source segment := by
  intro named start region provenance
  unfold SourceMapSegment.relation at other
  rw [provenance] at other
  exact (other rfl).elim

/-- A true exact segment spells the slice of its origin. -/
theorem ExactText.slice {named : SourceRef}
    {segments : List SourceMapSegment} (exactText : ExactText text ref source segments)
    (member : segment ∈ segments) {start : Nat}
    {region : Option Region} (provenance : segment.provenance = .exact named start region) :
    segment.generated.slice text =
      (SourceSpan.ofWidth start segment.generated.width).slice source := by
  apply List.ext_getElem?
  intro index
  have ordered := segment.generated.ordered
  have characters := (exactText segment member named start region provenance).2
    (segment.generated.start + index)
  rw [SourceSpan.getElem?_slice, SourceSpan.getElem?_slice, SourceSpan.width_ofWidth]
  by_cases inside : index < segment.generated.width
  · rw [if_pos inside, if_pos inside, SourceSpan.ofWidth_start]
    unfold SourceMapSegment.start SourceMapSegment.stop at characters
    unfold SourceSpan.width at inside
    have copied := characters (by omega) (by omega)
    rwa [Nat.add_sub_cancel_left] at copied
  · rw [if_neg inside, if_neg inside]

/-! ## Coalescing and composition -/

theorem Provenance.Extends.exact_of_whole {whole part : Provenance} {shift start : Nat}
    {region : Option Region} (extended : whole.Extends part shift)
    (wholeIs : whole = .exact ref start region) : part = .exact ref (start + shift) region := by
  subst wholeIs
  cases part with
  | exact ref' start' region' =>
      obtain ⟨rfl, rfl, rfl⟩ := extended
      rfl
  | derived => exact extended.elim
  | synthetic => exact extended.elim

/-- Joining two true segments gives a true segment. -/
theorem TrueSegment.joined
    {previous whole : SourceMapSegment} (join : joined? previous segment = some whole)
    (first : TrueSegment text ref source previous) (second : TrueSegment text ref source segment) :
    TrueSegment text ref source whole := by
  intro named start region provenance
  obtain ⟨previousText, segmentText, adjacent, starts, stops, absorbsPrevious, absorbsSegment⟩ :=
    joined?_spec join
  have previousIs := absorbsPrevious.provenance.exact_of_whole provenance
  have segmentIs := absorbsSegment.provenance.exact_of_whole provenance
  obtain ⟨refIs, firstCopied⟩ := first _ _ _ previousIs
  obtain ⟨_, secondCopied⟩ := second _ _ _ segmentIs
  refine ⟨refIs, ?_⟩
  intro offset lower upper
  rcases Nat.lt_or_ge offset previous.stop with before | after
  · rw [firstCopied offset (by omega) before]
    congr 1
    omega
  · rw [secondCopied offset (by omega) (by omega)]
    congr 1
    omega

theorem ExactText.coalesce
    {segments : List SourceMapSegment} (exactText : ExactText text ref source segments) :
    ExactText text ref source (coalesceSegments segments) :=
  coalesceSegments_forall (fun _ _ _ join first second => first.joined join second) exactText

variable {visible : Text}

/-- A piece of true local text over a true parent segment is true. -/
theorem TrueSegment.projected {parentText : Text} {parentRef : SourceRef}
    {parentSegment : SourceMapSegment} {origin : SourceSpan} {anchor : UnitAnchor}
    (originIs : segment.origin = some origin) (overlap : overlaps parentSegment origin = true)
    (width : segment.generated.width = origin.width)
    (localTrue : TrueSegment text parentRef parentText segment)
    (parentTrue : TrueSegment parentText ref visible parentSegment) :
    TrueSegment text ref visible (projectedPiece segment parentSegment origin anchor) := by
  intro named start region provenance
  have isExact : (projectedPiece segment parentSegment origin anchor).relation = .exact := by
    unfold SourceMapSegment.relation
    rw [provenance]
  obtain ⟨localExact, parentExact⟩ :=
    composeRelation_exact ((projectParentPiece_relation ..).symm.trans isExact)
  obtain ⟨localRef, localStart, localRegion, localIs⟩ :=
    SourceMapSegment.relation_eq_exact.mp localExact
  obtain ⟨parentNamed, parentStart, parentRegion, parentIs⟩ :=
    SourceMapSegment.relation_eq_exact.mp parentExact
  obtain ⟨_, copied⟩ := localTrue _ _ _ localIs
  obtain ⟨refIs, copiedParent⟩ := parentTrue _ _ _ parentIs
  have originStart : origin.start = localStart := by
    unfold SourceMapSegment.origin at originIs
    rw [localIs] at originIs
    rw [← Option.some.inj originIs]
    rfl
  obtain ⟨starts, stops⟩ := parentPiece_clamped overlap
  have ordered := (parentPiece parentSegment origin).ordered
  have originOrdered := origin.ordered
  have sameWidth : segment.stop - segment.start = origin.stop - origin.start := width
  have segmentOrdered := segment.ordered
  have overlapping := overlaps_iff.mp overlap
  unfold SourceSpan.clamp at starts stops
  unfold projectedPiece projectParentPiece at provenance ⊢
  rw [localIs, parentIs] at provenance ⊢
  simp only [Provenance.exact.injEq] at provenance
  obtain ⟨rfl, rfl, rfl⟩ := provenance
  refine ⟨refIs, ?_⟩
  intro offset lower upper
  change segment.start + ((parentPiece parentSegment origin).start - origin.start) ≤ offset at lower
  change offset < segment.start + ((parentPiece parentSegment origin).stop - origin.start) at upper
  rw [copied offset (by omega) (by omega),
    copiedParent (localStart + (offset - segment.start)) (by omega) (by omega)]
  congr 1
  change _ = parentStart + _ + (offset - (segment.start + _))
  omega

theorem ExactText.compose {parentText : Text}
    {localMap parent result : SourceMap} {composed : List SourceMapSegment}
    (accepted : Composed localMap parent result composed)
    (localText : ExactText text (.artifact parent.generated) parentText localMap.segments)
    (parentTrue : ExactText parentText ref visible parent.segments) :
    ExactText text ref visible result.segments := by
  rw [accepted.segments]
  apply ExactText.coalesce
  intro piece member
  obtain ⟨segment, inside, results, composition, at_piece⟩ :=
    of_mem_composeSegments accepted.composes member
  cases composition with
  | synthetic anchor provenance =>
      obtain rfl := List.mem_singleton.mp at_piece
      apply TrueSegment.of_relation
      intro isExact
      cases isExact
  | resized provenance width composes =>
      obtain ⟨only, rfl, generated, ⟨unit, span, region, derived⟩ | ⟨region, synthetic, _⟩⟩ :=
        composeResized_ok composes
      all_goals
        obtain rfl := List.mem_singleton.mp at_piece
        apply TrueSegment.of_relation
        unfold SourceMapSegment.relation
      · rw [derived]
        intro isExact
        cases isExact
      · rw [synthetic]
        intro isExact
        cases isExact
  | pieces anchor originIs width =>
      obtain ⟨parentSegment, parentMember, overlap, rfl⟩ := mem_composePieces.mp at_piece
      exact (localText segment inside).projected originIs overlap width
        (parentTrue parentSegment parentMember)

/-! ## The builder steps -/

/-- What the parts and the segments of a builder say of each other. -/
structure BuilderSound (builder : SourceTransformBuilder) : Prop where
  partition : Partition 0 builder.cursor builder.parts
  covering : Covering 0 builder.cursor builder.segments
  exactText : ExactText (retainedText builder.parts) builder.parentRef builder.parent.content
    builder.segments

/-- Appended text that is mapped exactly copies the characters of the parent. -/
def CopiesParent (builder : SourceTransformBuilder) (more : Text) (provenance : Provenance) :
    Prop :=
  ∀ named start region, provenance = .exact named start region →
    named = builder.parentRef ∧
      ∀ index < more.length, more[index]? = builder.parent.content[start + index]?

theorem TrueSegment.append_text (more : Text) (inside : segment.stop ≤ text.length)
    (true_segment : TrueSegment text ref source segment) :
    TrueSegment (text ++ more) ref source segment := by
  intro named start region provenance
  obtain ⟨refIs, copied⟩ := true_segment named start region provenance
  refine ⟨refIs, ?_⟩
  intro offset lower upper
  rw [List.getElem?_append_left (by omega)]
  exact copied offset lower upper

theorem BuilderSound.new (parent : MappedSource) (normalized : Bool) :
    BuilderSound (.new parent normalized) := by
  refine ⟨rfl, rfl, ?_⟩
  intro segment member
  cases member

variable {builder : SourceTransformBuilder} {provenance : Provenance}

/-- Appending fragments and their segment keeps a builder sound. -/
theorem BuilderSound.extend (sound : BuilderSound builder)
    {fragments : List RetainedTextFragment} {more : Text}
    (anchor : Option (SourceRef × SourceSpan))
    (parts : Partition builder.cursor (builder.cursor + more.length) fragments)
    (text : retainedText fragments = more) (copies : CopiesParent builder more provenance) :
    BuilderSound { builder with
      parts := builder.parts ++ fragments
      segments := builder.segments ++ [⟨.ofWidth builder.cursor more.length, provenance, anchor⟩]
      cursor := builder.cursor + more.length } := by
  have length := length_retainedText sound.partition
  have joined : retainedText (builder.parts ++ fragments) = retainedText builder.parts ++ more := by
    rw [← text]
    exact List.flatMap_append
  refine ⟨sound.partition.append parts, sound.covering.append ⟨rfl, Nat.le_add_right .., rfl⟩, ?_⟩
  intro segment member
  change TrueSegment (retainedText (builder.parts ++ fragments)) _ _ segment
  rw [joined]
  rcases List.mem_append.mp member with before | now
  · have bounds := sound.covering.bounds before
    exact (sound.exactText segment before).append_text more (by omega)
  · obtain rfl := List.mem_singleton.mp now
    intro named start region provenanceIs
    obtain ⟨refIs, copied⟩ := copies named start region provenanceIs
    refine ⟨refIs, ?_⟩
    intro offset lower upper
    change builder.cursor ≤ offset at lower
    change offset < builder.cursor + more.length at upper
    rw [List.getElem?_append_right (by omega)]
    change _ = builder.parent.content[start + (offset - builder.cursor)]?
    rw [← copied (offset - builder.cursor) (by omega)]
    congr 1
    omega

theorem BuilderSound.append (sound : BuilderSound builder)
    (anchor : Option (SourceRef × SourceSpan))
    (copies : CopiesParent builder text provenance) :
    BuilderSound (builder.append text provenance anchor) := by
  apply sound.extend anchor _ _ copies
  · exact ⟨rfl, Nat.le_add_right .., rfl⟩
  · exact List.flatMap_singleton ..

theorem relocate_partition (source : MappedSource) (trusted : Bool) (cursor retainedCursor : Nat)
    (fragments : List RetainedTextFragment) :
    Partition cursor (cursor + (retainedText fragments).length)
        (relocate source trusted cursor retainedCursor fragments) ∧
      retainedText (relocate source trusted cursor retainedCursor fragments) =
        retainedText fragments := by
  induction fragments generalizing cursor retainedCursor with
  | nil => exact ⟨rfl, rfl⟩
  | cons fragment rest ih =>
      obtain ⟨parts, text⟩ :=
        ih (cursor + fragment.text.length) (retainedCursor + fragment.text.length)
      have joined : retainedText (fragment :: rest) = fragment.text ++ retainedText rest :=
        List.flatMap_cons ..
      constructor
      · refine ⟨rfl, Nat.le_add_right .., ?_⟩
        rw [joined, List.length_append, ← Nat.add_assoc]
        exact parts
      · rw [joined, ← text]
        rfl

variable {span : SourceSpan}

theorem retainedFragmentsForSpan_slice {source : MappedSource}
    {scanLocalNul : Bool} {fragments : List RetainedTextFragment}
    (returned : retainedFragmentsForSpan source span scanLocalNul = .ok fragments) :
    span.stop ≤ source.content.length ∧ retainedText fragments = span.slice source.content := by
  rw [source.length_content]
  have inside : span.stop ≤ source.artifact.characterLength := by
    unfold retainedFragmentsForSpan at returned
    split_ifs at returned with outside
    omega
  obtain ⟨pieces, found, _, text⟩ := retainedFragmentsForSpan_ok source scanLocalNul inside
  rw [returned] at found
  obtain rfl := Except.ok.inj found
  exact ⟨inside, text⟩

variable {next : SourceTransformBuilder}

/-- Appending retained text keeps a builder sound. -/
theorem BuilderSound.appendRetained (sound : BuilderSound builder) {source : MappedSource}
    {anchor : Option (SourceRef × SourceSpan)}
    (appended : builder.appendRetained source span provenance anchor = .ok next)
    (copies : CopiesParent builder (span.slice source.content) provenance) :
    BuilderSound next ∧ next.parent = builder.parent := by
  obtain ⟨fragments, returned, built⟩ := bind_eq_ok.mp appended
  obtain rfl := pure_eq_ok.mp built
  obtain ⟨inside, text⟩ := retainedFragmentsForSpan_slice returned
  obtain ⟨parts, relocated⟩ := relocate_partition source
    (builder.normalizedParent && decide (source.objectId = builder.parent.objectId))
    builder.cursor span.start fragments
  have width : span.width = (retainedText fragments).length := by
    rw [text, SourceSpan.length_slice inside]
  refine ⟨?_, rfl⟩
  rw [width]
  exact sound.extend anchor parts relocated (text ▸ copies)

theorem copiesParent_other {more : Text}
    (other : ∀ named start region, provenance ≠ .exact named start region) :
    CopiesParent builder more provenance :=
  fun named start region provenanceIs => (other named start region provenanceIs).elim

/-- Text equal to a slice of the parent copies the parent. -/
theorem copiesParent_slice {more : Text}
    (same : more = span.slice builder.parent.content) :
    CopiesParent builder more (.exact builder.parentRef span.start none) := by
  intro named start region provenanceIs
  cases provenanceIs
  refine ⟨rfl, ?_⟩
  intro index inside
  rw [same] at inside ⊢
  rw [SourceSpan.getElem?_slice, if_pos]
  rw [SourceSpan.slice, List.length_take] at inside
  omega

theorem BuilderSound.copy (sound : BuilderSound builder)
    (copied : builder.copy span = .ok next) :
    BuilderSound next ∧ next.parent = builder.parent := by
  obtain ⟨_, _, appended⟩ := bind_eq_ok.mp copied
  exact sound.appendRetained appended (copiesParent_slice rfl)

theorem BuilderSound.derived (sound : BuilderSound builder) {region : String}
    {anchor : Option SourceSpan} (appended : builder.derived text span region anchor = .ok next) :
    BuilderSound next ∧ next.parent = builder.parent := by
  simp only [SourceTransformBuilder.derived, bind_eq_ok, pure_eq_ok] at appended
  obtain ⟨name, _, _, _, _, _, rfl⟩ := appended
  refine ⟨sound.append _ (copiesParent_other ?_), rfl⟩
  intro named start other same
  cases same

theorem BuilderSound.synthetic
    (sound : BuilderSound builder) {anchor : SourceSpan} {region : String}
    (appended : builder.synthetic text anchor region = .ok next) :
    BuilderSound next ∧ next.parent = builder.parent := by
  simp only [SourceTransformBuilder.synthetic, bind_eq_ok, pure_eq_ok] at appended
  obtain ⟨name, _, _, _, rfl⟩ := appended
  refine ⟨sound.append _ (copiesParent_other ?_), rfl⟩
  intro named start other same
  cases same

/-- A call whose exact text agrees with the parent keeps a builder sound. -/
theorem BuilderSound.step (sound : BuilderSound builder)
    {step : TransformStep} (agrees : step.Agrees builder.parent)
    (applied : step.apply builder = .ok next) :
    BuilderSound next ∧ next.parent = builder.parent := by
  cases step with
  | copy span => exact sound.copy applied
  | reuseExact span => exact sound.copy applied
  | derived text span region anchor => exact sound.derived applied
  | reuseDerived text span region anchor => exact sound.derived applied
  | synthetic text anchor region => exact sound.synthetic applied
  | reuseSynthetic text anchor region => exact sound.synthetic applied
  | exact text span =>
      obtain ⟨_, _, appended⟩ := bind_eq_ok.mp applied
      split_ifs at appended with width
      · cases appended
      · obtain rfl := pure_eq_ok.mp appended
        exact ⟨sound.append _ (copiesParent_slice agrees), rfl⟩
  | retainedExact source retainedSpan parentSpan =>
      obtain ⟨_, _, appended⟩ := bind_eq_ok.mp applied
      split_ifs at appended with width
      · cases appended
      · exact sound.appendRetained appended (copiesParent_slice agrees)
  | retainedDerived source retainedSpan span region anchor =>
      obtain ⟨name, _, applied⟩ := bind_eq_ok.mp applied
      obtain ⟨_, _, applied⟩ := bind_eq_ok.mp applied
      obtain ⟨_, _, appended⟩ := bind_eq_ok.mp applied
      apply sound.appendRetained appended (copiesParent_other _)
      intro named start other same
      cases same
  | retainedSynthetic source retainedSpan anchor region =>
      obtain ⟨name, _, applied⟩ := bind_eq_ok.mp applied
      obtain ⟨_, _, appended⟩ := bind_eq_ok.mp applied
      apply sound.appendRetained appended (copiesParent_other _)
      intro named start other same
      cases same

theorem BuilderSound.runSteps (sound : BuilderSound builder) {steps : List TransformStep}
    (agrees : ∀ step ∈ steps, step.Agrees builder.parent)
    (ran : runSteps builder steps = .ok next) :
    BuilderSound next ∧ next.parent = builder.parent := by
  induction steps generalizing builder with
  | nil =>
      obtain rfl := pure_eq_ok.mp ran
      exact ⟨sound, rfl⟩
  | cons step rest ih =>
      obtain ⟨middle, applied, after⟩ := bind_eq_ok.mp ran
      obtain ⟨middleSound, sameParent⟩ := sound.step (agrees step List.mem_cons_self) applied
      obtain ⟨nextSound, nextParent⟩ := ih middleSound
        (fun other member => sameParent ▸ agrees other (List.mem_cons_of_mem _ member)) after
      exact ⟨nextSound, nextParent.trans sameParent⟩

/-! ## Builds and pipelines -/

/-- What holds of every source a pipeline makes of one visible text. -/
structure SourceSound (unit : SourceUnitRef) (visible : Text) (source : MappedSource) : Prop where
  joined : ∀ text, source.text = some text → text = source.content
  exactText : ExactText source.content (.unit unit) visible source.sourceMap.segments

theorem retainedText_detached (fragments : List RetainedTextFragment) :
    retainedText (SourceTransformBuilder.detached fragments) = retainedText fragments :=
  List.flatMap_map ..

variable {sha256 : Text → String}

variable {unit : SourceUnitRef}

theorem BuilderSound.finish (sound : BuilderSound builder)
    (parentSound : SourceSound unit visible builder.parent) {materialize : Bool}
    {keep : List RetainedTextFragment → List RetainedTextFragment}
    (keeps : retainedText (keep builder.parts) = retainedText builder.parts) {objectId : Nat}
    {kind : SourceArtifactKind} {identity : ArtifactIdentity} {result : MappedSource}
    (finished : builder.finish sha256 composeSourceMaps materialize keep objectId kind identity =
      .ok result) : SourceSound unit visible result := by
  simp only [SourceTransformBuilder.finish, bind_eq_ok] at finished
  obtain ⟨artifact, _, localMap, localMade, flattened, composes, made⟩ := finished
  obtain ⟨_, mapIs, textIs, fragmentsIs⟩ := MappedSource.make_ok made
  obtain ⟨_, localSegments⟩ := SourceMap.make_eq localMade
  obtain ⟨composed, accepted⟩ := composeSourceMaps_ok composes
  have content : result.content = retainedText builder.parts := by
    unfold MappedSource.content
    rw [fragmentsIs, keeps]
  have localText : ExactText (retainedText builder.parts)
      (.artifact builder.parent.sourceMap.generated) builder.parent.content
      localMap.segments := by
    rw [builder.parent.mapped, localSegments]
    exact sound.exactText.coalesce
  constructor
  · intro text resultText
    rw [textIs] at resultText
    split_ifs at resultText
    rw [content, Option.some.inj resultText]
  · rw [content, mapIs]
    exact localText.compose accepted parentSound.exactText

theorem Finishes.sound {result : MappedSource} (finished : Finishes sha256 builder result)
    (sound : BuilderSound builder)
    (parentSound : SourceSound unit visible builder.parent) :
    SourceSound unit visible result := by
  have reused : composeReusedSourceMaps = composeSourceMaps :=
    funext fun localMap => funext fun parent => composeReusedSourceMaps_eq localMap parent
  cases finished with
  | deferred built =>
      unfold SourceTransformBuilder.buildDeferred at built
      rw [reused] at built
      exact sound.finish parentSound rfl built
  | build built =>
      obtain ⟨_, _, built⟩ := bind_eq_ok.mp built
      exact sound.finish parentSound rfl built
  | reused built =>
      obtain ⟨_, _, built⟩ := bind_eq_ok.mp built
      rw [reused] at built
      exact sound.finish parentSound rfl built
  | canonical built =>
      unfold SourceTransformBuilder.buildCanonicalReused at built
      split_ifs at built
      · cases built
      · obtain ⟨_, _, built⟩ := bind_eq_ok.mp built
        rw [reused] at built
        exact sound.finish parentSound (retainedText_detached _) built

theorem mappedVisibleSource_sound {objectId : Nat}
    {visible : MappedSource}
    (made : mappedVisibleSource sha256 objectId text unit = .ok visible) :
    SourceSound unit text visible := by
  unfold mappedVisibleSource at made
  split_ifs at made
  obtain ⟨sourceMap, mapMade, made⟩ := bind_eq_ok.mp made
  obtain ⟨_, mapIs, textIs, fragmentsIs⟩ := MappedSource.make_ok made
  obtain ⟨_, segmentsAre⟩ := SourceMap.make_eq mapMade
  have content : visible.content = text := by
    unfold MappedSource.content
    rw [fragmentsIs]
    exact List.flatMap_singleton ..
  constructor
  · intro joined joinedIs
    rw [textIs] at joinedIs
    rw [content, Option.some.inj joinedIs]
  · rw [mapIs, segmentsAre, content]
    intro segment member
    obtain rfl := List.mem_singleton.mp member
    intro named start region provenance
    cases provenance
    refine ⟨rfl, ?_⟩
    intro offset _ _
    change _ = text[0 + (offset - 0)]?
    rw [Nat.zero_add, Nat.sub_zero]

theorem Pipeline.sound {first final : MappedSource}
    (pipeline : Pipeline sha256 first final)
    (firstSound : SourceSound unit text first) : SourceSound unit text final := by
  induction pipeline with
  | start => exact firstSound
  | stage before agrees ran finished ih =>
      obtain ⟨sound, sameParent⟩ := (BuilderSound.new _ _).runSteps agrees ran
      exact finished.sound sound (sameParent ▸ ih)

/--
Every exact segment at the end of a pipeline spells the visible text of its
origin, and the final text is the text of its fragments, which partition it.
-/
theorem pipeline_exactText {sha256 : Text → String} {objectId : Nat} {text : Text}
    {unit : SourceUnitRef} {visible final : MappedSource}
    (made : mappedVisibleSource sha256 objectId text unit = .ok visible)
    (pipeline : Pipeline sha256 visible final) :
    (∀ segment ∈ final.sourceMap.segments, ∀ ref start region,
        segment.provenance = .exact ref start region →
          ref = .unit unit ∧ segment.generated.slice final.content =
            (SourceSpan.ofWidth start segment.generated.width).slice text) ∧
      (∀ joined, final.text = some joined → joined = retainedText final.retainedFragments) ∧
      Partition 0 final.content.length final.retainedFragments := by
  have sound := pipeline.sound (mappedVisibleSource_sound made)
  refine ⟨?_, sound.joined, ?_⟩
  · intro segment member ref start region provenance
    exact ⟨(sound.exactText segment member ref start region provenance).1,
      sound.exactText.slice member provenance⟩
  · rw [final.length_content]
    exact final.partition

/-- The digest of a cell of two characters. -/
def cellDigest : String := "fb8e20fc2e4c3f248c60c39bd652f3c1347298bb977b8b4d5903b85055620603"

/-- The cell of two characters, copied by one stage. -/
theorem pipeline_exactText_copy :
    ∃ (visible final : MappedSource) (builder : SourceTransformBuilder),
      mappedVisibleSource (fun _ => cellDigest) 0 ['a', 'b']
          ⟨.notebookCell, "cell", 1, cellDigest⟩ = .ok visible ∧
        runSteps (.new visible false) [.copy (.ofWidth 0 2)] = .ok builder ∧
        builder.build (fun _ => cellDigest) 1 .executedBsl {} false = .ok final ∧
        final.text = some ['a', 'b'] ∧
        ∀ segment ∈ final.sourceMap.segments, ∀ ref start region,
          segment.provenance = .exact ref start region →
            segment.generated.slice final.content =
              (SourceSpan.ofWidth start segment.generated.width).slice ['a', 'b'] := by
  have run : ∃ (visible final : MappedSource) (builder : SourceTransformBuilder),
      mappedVisibleSource (fun _ => cellDigest) 0 ['a', 'b']
          ⟨.notebookCell, "cell", 1, cellDigest⟩ = .ok visible ∧
        runSteps (.new visible false) [.copy (.ofWidth 0 2)] = .ok builder ∧
        builder.build (fun _ => cellDigest) 1 .executedBsl {} false = .ok final ∧
        final.text = some ['a', 'b'] := ⟨_, _, _, rfl, rfl, rfl, rfl⟩
  obtain ⟨visible, final, builder, made, ran, built, joined⟩ := run
  have agrees : ∀ step ∈ [TransformStep.copy (.ofWidth 0 2)], step.Agrees visible := by
    intro step member
    obtain rfl := List.mem_singleton.mp member
    trivial
  refine ⟨visible, final, builder, made, ran, built, joined, ?_⟩
  intro segment member ref start region provenance
  exact ((pipeline_exactText made (.stage .start agrees ran (.build built))).1
    segment member ref start region provenance).2

end OnecRuntime.SourceMaps
