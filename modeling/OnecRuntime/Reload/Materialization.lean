import OnecRuntime.Reload.Agreement

/-!
# Materialization of a visible source

A visible source has one exact segment, so every line ending has a projection.
What the materialization accepts is a placed map; the oracle and the generic
form accept it too, and their lookups are those of the compact map.
-/

namespace OnecRuntime.Reload

open OnecRuntime.Library OnecRuntime.SourceMaps

variable {text : Text} {items : List ReloadInsertion}

/-! ## Lengths -/

theorem length_insertedText {sourceCursor : Nat} (ordered : Ordered text items)
    (lower : ∀ item ∈ items, sourceCursor ≤ item.sourceOffset)
    (clean : pairEnd text sourceCursor = false) :
    kept text sourceCursor + (insertedText text sourceCursor items).length =
      kept text (lastOffset sourceCursor items) + totalLength items := by
  induction items generalizing sourceCursor with
  | nil => rfl
  | cons item rest ih =>
      have cleanItem := ordered.clean item List.mem_cons_self
      have width := kept_cut (lower item List.mem_cons_self)
        (ordered.inside item List.mem_cons_self) clean cleanItem
      have later := ih ordered.tail (List.pairwise_cons.mp ordered.sorted).1 cleanItem
      have own : item.generatedLength = item.text.length := rfl
      rw [insertedText, lastOffset, totalLength_cons, List.length_append, List.length_append]
      omega

/-- The compact text has the length the placement gives it. -/
theorem length_fragments (ordered : Ordered text items) :
    (insertedText text 0 items ++
      normalizeReloadFragment (cut text (lastOffset 0 items) text.length)).length =
        place text items text.length := by
  have length := length_insertedText ordered (fun _ _ => Nat.zero_le _) pairEnd_zero
  have final : lastOffset 0 items ≤ text.length ∧ pairEnd text (lastOffset 0 items) = false := by
    cases items with
    | nil => exact ⟨Nat.zero_le _, pairEnd_zero⟩
    | cons item rest =>
        obtain ⟨reached, member, same⟩ := lastOffset_mem 0 (List.cons_ne_nil item rest)
        rw [same]
        exact ⟨ordered.inside reached member, ordered.clean reached member⟩
  have rest := kept_cut final.1 (Nat.le_refl _) final.2 pairEnd_length
  have total := inserted_of_before ordered.inside
  rw [List.length_append]
  unfold place
  rw [total]
  change 0 + _ = _ at length
  omega

/-- Every insertion has an interval. -/
theorem placedInterval_mem (segments : List SourceMapSegment) (text : Text) (before : Nat)
    {item : ReloadInsertion} (member : item ∈ items) :
    ∃ earlier, placedInterval segments text earlier item ∈
      placedIntervals segments text before items := by
  induction items generalizing before with
  | nil => cases member
  | cons first rest ih =>
      rcases List.mem_cons.mp member with rfl | inside
      · exact ⟨before, List.mem_cons_self⟩
      · obtain ⟨earlier, found⟩ := ih (before + first.generatedLength) inside
        exact ⟨earlier, List.mem_cons_of_mem _ found⟩

/-! ## What a materialization accepts -/

theorem validate_anchored {casefold : String → String} {basis : CompactReloadBasis}
    {generated : SourceArtifactRef} (valid : basis.validate casefold generated = .ok ()) :
    basis.parentSourceMap.generated = basis.parentArtifact ∧
      basis.sourceLength = basis.parentArtifact.characterLength ∧
      ∀ interval ∈ basis.intervals, interval.sourceAnchor.stop ≤ basis.sourceLength ∧
        ∀ origin ∈ interval.sourceOrigin, origin.stop ≤ basis.sourceLength := by
  obtain ⟨_, same, valid⟩ := bind_eq_ok.mp valid
  obtain ⟨_, _, valid⟩ := bind_eq_ok.mp valid
  obtain ⟨_, _, valid⟩ := bind_eq_ok.mp valid
  obtain ⟨_, outside, _⟩ := bind_eq_ok.mp valid
  refine ⟨(require_eq_ok.mp same).1, (require_eq_ok.mp same).2, fun interval member => ?_⟩
  have inside := List.any_eq_false.mp (require_eq_ok.mp outside) interval member
  simp only [CompactReloadBasis.intervalOutside, Bool.or_eq_true, decide_eq_true_eq, not_or,
    Nat.not_lt, Option.any_eq_true, not_exists, not_and] at inside
  exact ⟨inside.1.2, fun origin given => inside.2 origin given⟩

variable {sha256 : Text → String}

/-- The artifact of a reload text has its length, which is not zero. -/
theorem reloadArtifact_ok {fragments : Text}
    {artifact : SourceArtifactRef} (made : reloadArtifact sha256 fragments = .ok artifact) :
    artifact.characterLength = fragments.length ∧ 0 < fragments.length := by
  unfold reloadArtifact at made
  split_ifs at made with blank
  · obtain rfl := Except.ok.inj made
    refine ⟨rfl, List.length_pos_iff.mpr fun empty => blank ?_⟩
    rw [empty]
    rfl
  · obtain rfl := Except.ok.inj made
    refine ⟨rfl, List.length_pos_iff.mpr fun empty => blank ?_⟩
    rw [empty]
    rfl

/-- The parts of a materialization. -/
structure Accepted (sha256 : Text → String) (source : MappedSource)
    (insertions : List ReloadInsertion) (text : Text) (items : List ReloadInsertion)
    (compact : CompactMappedWorkerSource) : Prop where
  sourceText : source.text = some text
  validated : validatedReloadInsertions text insertions = .ok items
  visible : OriginsVisible (projectorSegments source.sourceMap) items
  fragments : compact.text = insertedText text 0 items ++
    normalizeReloadFragment (cut text (lastOffset 0 items) text.length)
  artifact : reloadArtifact sha256 compact.text = .ok compact.artifact
  flattened : compact.sourceMap.flattened = true
  generated : compact.sourceMap.generated = compact.artifact
  parentArtifact : compact.sourceMap.basis.parentArtifact = source.artifact
  parentSourceMap : compact.sourceMap.basis.parentSourceMap = source.sourceMap
  sourceLength : source.artifact.characterLength = text.length
  placed : Placed text items compact.sourceMap
  anchored : ∀ item ∈ items, item.anchor.stop ≤ text.length ∧
    ∀ origin ∈ item.origin, origin.stop ≤ text.length

variable {source : MappedSource} {insertions : List ReloadInsertion}
  {compact : CompactMappedWorkerSource}

theorem materializeWorkerReloadSource_ok {casefold : String → String}
    {methodBoundaries : List ReloadMethodBoundary}
    (accepted : materializeWorkerReloadSource sha256 casefold source insertions methodBoundaries =
      .ok compact) :
    ∃ text items, Accepted sha256 source insertions text items compact := by
  obtain ⟨text, texted, accepted⟩ := bind_eq_ok.mp accepted
  obtain ⟨items, validated, accepted⟩ := bind_eq_ok.mp accepted
  obtain ⟨boundaries, _, accepted⟩ := bind_eq_ok.mp accepted
  obtain ⟨state, looped, accepted⟩ := bind_eq_ok.mp accepted
  obtain ⟨artifact, artifacted, accepted⟩ := bind_eq_ok.mp accepted
  obtain ⟨_, valid, accepted⟩ := bind_eq_ok.mp accepted
  obtain rfl := pure_eq_ok.mp accepted
  have ordered := validatedReloadInsertions_ok validated
  obtain ⟨fragments, intervals, visible, totals⟩ := compactLoop_ok ordered looped
  obtain ⟨_, sourceLength, anchored⟩ := validate_anchored valid
  have sourceText : source.text = some text := by
    unfold reloadText at texted
    split at texted
    · cases texted
    · next given => rw [given, Except.ok.inj texted]
  refine ⟨text, items, ?_⟩
  constructor
  · exact sourceText
  · exact validated
  · exact visible
  · exact fragments
  · exact artifacted
  · rfl
  · rfl
  · rfl
  · rfl
  · exact sourceLength.symm
  · constructor
    · exact ordered
    · rfl
    · rfl
    · exact fun offset => totals.originalToGenerated offset
    · exact intervals
    · change artifact.characterLength = _
      rw [(reloadArtifact_ok artifacted).1, fragments]
      exact length_fragments ordered
  · intro item member
    obtain ⟨earlier, found⟩ := placedInterval_mem (projectorSegments source.sourceMap) text 0 member
    rw [← intervals] at found
    exact anchored _ found

/-! ## Agreement -/

theorem mappedSegment_flattened {segment : SourceMapSegment}
    (flat : flattenedSegment segment = true) (offset : Nat) (eof : Bool) :
    ∃ mapped, mappedSegment segment offset eof = .ok mapped := by
  have origin := (Bool.and_eq_true_iff.mp flat).1
  unfold SourceMapSegment.originRef at origin
  unfold mappedSegment
  cases provenance : segment.provenance with
  | synthetic region => exact ⟨_, rfl⟩
  | derived ref span region => cases ref with
    | unit unit => exact ⟨_, rfl⟩
    | artifact artifact =>
        rw [provenance] at origin
        cases origin
  | exact ref start region => cases ref with
    | unit unit => exact ⟨_, rfl⟩
    | artifact artifact =>
        rw [provenance] at origin
        cases origin

/-- A lookup in a flattened map of a nonempty text returns. -/
theorem mapOffset_flattened {made : SourceMap} (some_text : 0 < made.generated.characterLength)
    (flat : ∀ segment ∈ made.segments, flattenedSegment segment = true) {offset : Nat}
    (inside : offset ≤ made.generated.characterLength) :
    ∃ mapped, mapOffset made offset = .ok mapped := by
  rcases Nat.eq_or_lt_of_le inside with rfl | before_end
  · obtain ⟨segment, found⟩ := made.segmentAt_isSome (Nat.sub_lt some_text Nat.one_pos)
    rw [made.mapOffset_end some_text found]
    exact mappedSegment_flattened (flat segment (pieceAt_mem found)) _ _
  · obtain ⟨segment, found⟩ := made.segmentAt_isSome before_end
    rw [made.mapOffset_inside found]
    exact mappedSegment_flattened (flat segment (pieceAt_mem found)) _ _

theorem validateFlattenedMap_of {name : String} {segments : List SourceMapSegment}
    (flat : ∀ segment ∈ segments, flattenedSegment segment = true) :
    validateFlattenedMap name segments = .ok () := by
  induction segments with
  | nil => rfl
  | cons head rest ih =>
      obtain ⟨origin, anchor⟩ := Bool.and_eq_true_iff.mp (flat head List.mem_cons_self)
      unfold validateFlattenedMap
      rw [if_neg (not_not.mpr origin), if_neg (not_not.mpr anchor)]
      exact ih fun segment member => flat segment (List.mem_cons_of_mem _ member)

/-- The constructor of a mapped source accepts the maps of one artifact. -/
theorem MappedSource.make_of (objectId : Nat) {text : Text} {artifact : SourceArtifactRef}
    {sourceMap localMap : SourceMap} (lineage : List SourceMap)
    (length : text.length = artifact.characterLength) (mapped : sourceMap.generated = artifact)
    (flat : ∀ segment ∈ sourceMap.segments, flattenedSegment segment = true)
    (localMapped : localMap.generated = artifact) :
    ∃ source, MappedSource.make objectId (some text) artifact sourceMap (lineage ++ [localMap])
      (some localMap) [.place 0 text none none] = .ok source := by
  have checked : checkMaps artifact sourceMap (lineage ++ [localMap]) (some localMap) = .ok () := by
    unfold checkMaps
    rw [validateFlattenedMap_of flat]
    simp [mapped, localMapped]
  have valid : validRetainedFragments artifact [.place 0 text none none] = true := by
    have ends : (0 : Nat) + text.length = artifact.characterLength := by omega
    simp [validRetainedFragments, contiguous, ends]
  unfold MappedSource.make
  rw [if_neg (by simp [length])]
  split
  · next failed =>
      rw [checked] at failed
      cases failed
  · rw [dif_pos valid]
    exact ⟨_, rfl⟩

/-- A sound layout of the whole text makes two maps, and the flattened one has the lookups of
the compact map. -/
theorem LayoutSound.maps {map : CompactReloadSourceMap} {layout : ReloadLayout}
    (sound : LayoutSound text map text.length (totalLength items) layout)
    (placed : Placed text items map) (some_text : 0 < map.generated.characterLength) :
    ∃ localMap flattened,
      SourceMap.make map.generated layout.localSegments = .ok localMap ∧
      SourceMap.make map.generated layout.flattenedSegments = .ok flattened ∧
      (∀ segment ∈ flattened.segments, flattenedSegment segment = true) ∧
      ∀ offset ≤ map.generated.characterLength, ∃ mapped,
        map.mapFlattenedOffset offset = .ok mapped ∧ mapOffset flattened offset = .ok mapped := by
  have whole : layout.generatedCursor = map.generated.characterLength := by
    rw [sound.cursor, placed.total, place, inserted_of_before placed.ordered.inside]
  obtain ⟨localMap, localMade⟩ := make_of_covering some_text (whole ▸ sound.localCovering)
    sound.localBounded
  obtain ⟨flattened, made⟩ := make_of_covering some_text (whole ▸ sound.flattenedCovering)
    fun segment member => inBounds_of_flattened (sound.visible segment member)
  obtain ⟨same, segments⟩ := SourceMap.make_eq made
  have flat : ∀ segment ∈ flattened.segments, flattenedSegment segment = true := by
    rw [segments]
    exact sound.visible
  refine ⟨localMap, flattened, localMade, made, flat, fun offset inside => ?_⟩
  have lookup := mapOffset_of_reports same some_text (segments ▸ sound.reports) inside
  rw [← same] at some_text inside
  obtain ⟨mapped, found⟩ := mapOffset_flattened some_text flat inside
  exact ⟨mapped, lookup.symm.trans found, found⟩

theorem Accepted.layable (accepted : Accepted sha256 source insertions text items compact)
    (projects : ∀ ending ∈ lineEndingIndex 0 text, ∃ segment,
      projectedEnding source.sourceMap ending = .ok segment) :
    Layable text items compact.sourceMap := by
  constructor
  · exact accepted.placed
  · rw [accepted.parentSourceMap, source.mapped, accepted.sourceLength]
  · rw [accepted.parentArtifact, accepted.sourceLength]
  · rw [accepted.parentSourceMap]
    exact source.flattened
  · rw [accepted.parentSourceMap]
    exact projects
  · exact accepted.anchored

/-- Where every line ending has a projection, the oracle and the generic form agree with an
accepted compact map. -/
theorem Accepted.agrees (accepted : Accepted sha256 source insertions text items compact)
    (projects : ∀ ending ∈ lineEndingIndex 0 text, ∃ segment,
      projectedEnding source.sourceMap ending = .ok segment) (objectId : Nat) :
    ∃ oracle generic,
      materializeWorkerReloadSourceOracle sha256 objectId source insertions = .ok oracle ∧
      compact.sourceMap.materializeGeneric = .ok generic ∧
      oracle.text = some compact.text ∧
      ∀ offset ≤ compact.text.length, ∃ mapped,
        compact.sourceMap.mapCompactOffset offset = .ok mapped ∧
          mapOffset oracle.sourceMap offset = .ok mapped ∧
          mapOffset generic offset = .ok mapped := by
  have layable := accepted.layable projects
  have visible := accepted.visible
  rw [← accepted.parentSourceMap] at visible
  obtain ⟨laid, oracleRun, oracleSound⟩ := layable.oracleLoop_ok visible
    (Position.start text items) [] (LayoutSound.start text compact.sourceMap)
  obtain ⟨generic, genericRun, genericSound⟩ := layable.genericLoop_ok visible
    (Position.start text items) (LayoutSound.start text compact.sourceMap)
  obtain ⟨length, some_text⟩ := reloadArtifact_ok accepted.artifact
  rw [← length, ← accepted.generated] at some_text
  obtain ⟨localMap, oracleMap, localMade, oracleMade, oracleFlat, oracleLookup⟩ :=
    oracleSound.maps layable.toPlaced some_text
  obtain ⟨_, genericMap, _, genericMade, _, genericLookup⟩ :=
    genericSound.maps layable.toPlaced some_text
  rw [accepted.generated] at localMade oracleMade
  obtain ⟨oracle, built⟩ := MappedSource.make_of objectId source.lineage length.symm
    (SourceMap.make_eq oracleMade).1 oracleFlat (SourceMap.make_eq localMade).1
  obtain ⟨_, oracleSourceMap, oracleText, _⟩ := MappedSource.make_ok built
  refine ⟨oracle, genericMap, ?_, ?_, oracleText, fun offset inside => ?_⟩
  · rw [accepted.parentArtifact, accepted.parentSourceMap, List.nil_append,
      ← accepted.fragments] at oracleRun
    have texted : reloadText source = .ok text := by
      unfold reloadText
      rw [accepted.sourceText]
    exact bind_eq_ok.mpr ⟨_, texted, bind_eq_ok.mpr ⟨_, accepted.validated,
      bind_eq_ok.mpr ⟨_, oracleRun, bind_eq_ok.mpr ⟨_, accepted.artifact,
        bind_eq_ok.mpr ⟨_, localMade, bind_eq_ok.mpr ⟨_, oracleMade, built⟩⟩⟩⟩⟩⟩
  · have run := genericRun
    rw [totalLength_nil, ← accepted.placed.intervals] at run
    unfold CompactReloadSourceMap.materializeGeneric
    rw [accepted.flattened]
    exact bind_eq_ok.mpr ⟨_, run, genericMade⟩
  · rw [← length, ← accepted.generated] at inside
    obtain ⟨mapped, found, oracleFound⟩ := oracleLookup offset inside
    obtain ⟨other, otherFound, genericFound⟩ := genericLookup offset inside
    have same : mapped = other := Except.ok.inj (found.symm.trans otherFound)
    refine ⟨mapped, ?_, oracleSourceMap ▸ oracleFound, same ▸ genericFound⟩
    unfold CompactReloadSourceMap.mapCompactOffset
    rw [if_pos accepted.flattened]
    exact found

/-! ## Visible sources -/

/-- The one segment of a visible source. -/
def visibleSegment (text : Text) (unit : SourceUnitRef) : SourceMapSegment :=
  ⟨.ofWidth 0 text.length, .exact (.unit unit) 0 none, none⟩

variable {unit : SourceUnitRef}

/-- The parts of a visible source. -/
theorem mappedVisibleSource_ok {objectId : Nat}
    (visible : mappedVisibleSource sha256 objectId text unit = .ok source) :
    source.text = some text ∧ source.sourceMap.segments = [visibleSegment text unit] := by
  unfold mappedVisibleSource at visible
  split_ifs at visible
  obtain ⟨sourceMap, made, built⟩ := bind_eq_ok.mp visible
  obtain ⟨_, mapped, given, _⟩ := MappedSource.make_ok built
  rw [mapped]
  exact ⟨given, (SourceMap.make_eq made).2⟩

/-- A visible source offers every span of its text as its own place. -/
theorem spanCandidate_visible {first width : Nat} (wide : 0 < width)
    (inside : first + width ≤ text.length) :
    spanCandidate (.ofWidth first width) (visibleSegment text unit) =
      some (unit, .ofWidth first width) := by
  have start : (visibleSegment text unit).start = 0 := rfl
  have stop : (visibleSegment text unit).stop = text.length := Nat.zero_add _
  have shared : max (visibleSegment text unit).start first <
      min (visibleSegment text unit).stop (first + width) := by omega
  refine (if_pos shared).trans (congrArg (fun span => some (unit, span)) ?_)
  ext
  · simp [visibleSegment, SourceMapSegment.start]
  · simp only [visibleSegment, SourceMapSegment.start, SourceSpan.rebase_stop,
      SourceSpan.intersect_stop, SourceSpan.ofWidth_start, SourceSpan.ofWidth_stop]
    omega

/-- In a visible source every line ending is projected to its own text. -/
theorem projectedEnding_visible {map : SourceMap}
    (segments : map.segments = [visibleSegment text unit]) {ending : LineEnding}
    (member : ending ∈ lineEndingIndex 0 text) :
    projectedEnding map ending = .ok ⟨.ofWidth 0 1, .derived (.unit unit)
      (.ofWidth ending.start ending.width) (some workerLineEndingRegion), none⟩ := by
  obtain ⟨positive, fits⟩ := lineEnding_fits member
  have first : (visibleSegment text unit).start = 0 := rfl
  have last : (visibleSegment text unit).stop = text.length := Nat.zero_add _
  have wide : (visibleSegment text unit).start < (visibleSegment text unit).stop := by omega
  have overlap : overlaps (visibleSegment text unit) (.ofWidth ending.start ending.width) = true := by
    refine (overlaps_positive wide).mpr ?_
    simp only [SourceSpan.ofWidth_start, SourceSpan.ofWidth_stop]
    omega
  have met : meeting map (.ofWidth ending.start ending.width) = [visibleSegment text unit] := by
    unfold meeting projectorSegments
    simp [segments, SourceMapSegment.positive, wide, overlap]
  have anchor : anchorFromSegments [visibleSegment text unit]
      (.ofWidth ending.start ending.width) = some (unit, .ofWidth ending.start ending.width) := by
    unfold anchorFromSegments
    rw [List.filterMap_cons_some (spanCandidate_visible positive fits)]
    rfl
  unfold projectedEnding endingSegment
  dsimp only
  rw [met, anchor]
  rfl

/--
What the materialization of a visible source accepts, the oracle and the generic
form accept too.  The texts are the same, and at every offset up to the end the
three maps return the same report.
-/
theorem materializeWorkerReloadSource_agrees {sha256 : Text → String}
    {casefold : String → String} {objectId oracleId : Nat} {text : Text} {unit : SourceUnitRef}
    {source : MappedSource} {insertions : List ReloadInsertion}
    {methodBoundaries : List ReloadMethodBoundary} {compact : CompactMappedWorkerSource}
    (visible : mappedVisibleSource sha256 objectId text unit = .ok source)
    (accepted : materializeWorkerReloadSource sha256 casefold source insertions methodBoundaries =
      .ok compact) :
    ∃ oracle generic,
      materializeWorkerReloadSourceOracle sha256 oracleId source insertions = .ok oracle ∧
      compact.sourceMap.materializeGeneric = .ok generic ∧
      oracle.text = some compact.text ∧
      ∀ offset ≤ compact.text.length, ∃ mapped,
        compact.sourceMap.mapCompactOffset offset = .ok mapped ∧
          mapOffset oracle.sourceMap offset = .ok mapped ∧
          mapOffset generic offset = .ok mapped := by
  obtain ⟨given, segments⟩ := mappedVisibleSource_ok visible
  obtain ⟨own, items, parts⟩ := materializeWorkerReloadSource_ok accepted
  have same : own = text := Option.some.inj (parts.sourceText.symm.trans given)
  subst same
  exact parts.agrees (fun ending member => ⟨_, projectedEnding_visible segments member⟩) oracleId

/-- The digests of a module of two lines, and of its text with a line put in. -/
def moduleDigest (text : Text) : String :=
  if text = ['a', '\r', '\n', 'b'] then
    "18745f36a05e29072709042d6062ce54f1b08ff36c27ba80c39f81fb010c8ce2"
  else "ffe4f36536d47978199f3ffe1e4a26cecc44e7147829ac9da1f1b5c79fa1d74c"

/-- A derived line before the second line of the module. -/
def moduleInsertion : ReloadInsertion where
  sourceOffset := 3
  methodName := none
  syntheticRegion := ⟨"worker_dependency_alias_declaration", by decide⟩
  text := ['X', '\n']
  origin := some (.ofWidth 0 1)
  anchor := .ofWidth 0 4
  nonempty := by decide
  normalized := by decide

/-- The module of two lines, with a line put in after its line ending. -/
theorem materializeWorkerReloadSource_agrees_module :
    ∃ source compact,
      mappedVisibleSource moduleDigest 0 ['a', '\r', '\n', 'b']
          ⟨.module, "module", 1, moduleDigest ['a', '\r', '\n', 'b']⟩ = .ok source ∧
        materializeWorkerReloadSource moduleDigest id source [moduleInsertion] [] = .ok compact ∧
        compact.text = ['a', '\n', 'X', '\n', 'b'] ∧
        ∃ oracle generic,
          materializeWorkerReloadSourceOracle moduleDigest 1 source [moduleInsertion] =
              .ok oracle ∧
            compact.sourceMap.materializeGeneric = .ok generic ∧
            ∀ offset ≤ 5, ∃ mapped, compact.sourceMap.mapCompactOffset offset = .ok mapped ∧
              mapOffset oracle.sourceMap offset = .ok mapped ∧
              mapOffset generic offset = .ok mapped := by
  have run : ∃ source compact,
      mappedVisibleSource moduleDigest 0 ['a', '\r', '\n', 'b']
          ⟨.module, "module", 1, moduleDigest ['a', '\r', '\n', 'b']⟩ = .ok source ∧
        materializeWorkerReloadSource moduleDigest id source [moduleInsertion] [] = .ok compact ∧
        compact.text = ['a', '\n', 'X', '\n', 'b'] := ⟨_, _, rfl, rfl, rfl⟩
  obtain ⟨source, compact, visible, accepted, text⟩ := run
  obtain ⟨oracle, generic, oracleMade, genericMade, _, agree⟩ :=
    materializeWorkerReloadSource_agrees visible accepted
  rw [text] at agree
  exact ⟨source, compact, visible, accepted, text, oracle, generic, oracleMade, genericMade, agree⟩

end OnecRuntime.Reload
