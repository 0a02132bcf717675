import OnecRuntime.Reload.Materialization

/-!
# Original offsets in a compact map

`map_original_offset` places an offset of the original source in the generated
text.  Over a visible source the compact map reports that place back as the
offset it came from, and inserted text holds no place of an original character.
The line feed of a pair is no character of its own: its place is the one behind
the ending, where inserted text may begin.
-/

namespace OnecRuntime.Reload

open OnecRuntime.Library OnecRuntime.SourceMaps

/-- `map_original_offset` of a compact map. -/
def CompactReloadSourceMap.mapOriginalOffset (map : CompactReloadSourceMap) (offset : Nat) :
    SourceResult Nat :=
  if map.basis.sourceLength < offset then .error "offset must be within the original source"
  else .ok (map.basis.mapOriginalOffset offset)

/-- A generated offset inside inserted text. -/
def CompactInsertionInterval.Holds (interval : CompactInsertionInterval) (offset : Nat) : Prop :=
  interval.start ≤ offset ∧ offset < interval.stop

variable {text : Text} {items : List ReloadInsertion} {map : CompactReloadSourceMap}

namespace Placed

theorem mapOriginalOffset_ok (placed : Placed text items map) {offset generated : Nat} :
    map.mapOriginalOffset offset = .ok generated ↔
      offset ≤ text.length ∧ place text items offset = generated := by
  unfold CompactReloadSourceMap.mapOriginalOffset
  rw [placed.sourceLength, placed.offsets]
  split_ifs with outside
  · exact iff_of_false (fun impossible => by cases impossible) fun both => by omega
  · constructor
    · intro same
      exact ⟨by omega, Except.ok.inj same⟩
    · intro both
      rw [both.2]

/-- Text inserted at or before an offset ends before its place. -/
theorem holds_after (placed : Placed text items map) {interval : CompactInsertionInterval}
    (member : interval ∈ map.basis.intervals) {offset : Nat}
    (holds : interval.Holds (place text items offset)) :
    offset < interval.sourceOffset ∧ interval.start = place text items offset ∧
      kept text interval.sourceOffset = kept text offset := by
  rw [placed.intervals] at member
  have bounds := placedIntervals_bounds placed.ordered.sorted member offset
  obtain ⟨lower, upper⟩ := holds
  unfold place at lower upper ⊢
  rcases Nat.lt_or_ge offset interval.sourceOffset with ahead | reached
  · have starts := bounds.2 ahead
    have moved : kept text offset ≤ kept text interval.sourceOffset :=
      kept_monotone (Nat.le_of_lt ahead)
    omega
  · have stops := bounds.1 reached
    omega

/-- Inserted text holds the place of no offset but that of a line feed right before it. -/
theorem holds_place (placed : Placed text items map) {interval : CompactInsertionInterval}
    (member : interval ∈ map.basis.intervals) {offset : Nat}
    (holds : interval.Holds (place text items offset)) :
    pairEnd text offset = true ∧ interval.sourceOffset = offset + 1 ∧
      interval.start = place text items offset := by
  obtain ⟨ahead, starts, same⟩ := placed.holds_after member holds
  have ends : pairEnd text offset = true := by
    by_contra clean
    have step := kept_succ (Bool.not_eq_true _ ▸ clean)
    have moved : kept text (offset + 1) ≤ kept text interval.sourceOffset := kept_monotone ahead
    omega
  refine ⟨ends, ?_, starts⟩
  -- one character behind the pair would be kept as well
  have after : pairEnd text (offset + 1) = false := by
    cases offset with
    | zero => simp at ends
    | succ offset =>
        apply pairEnd_of_plain
        rw [(pairEnd_succ.mp ends).2]
        decide
  rcases Nat.lt_or_ge (offset + 1) interval.sourceOffset with beyond | here
  · have step := kept_succ after
    have pair := kept_pair ends
    have moved : kept text (offset + 1 + 1) ≤ kept text interval.sourceOffset :=
      kept_monotone beyond
    omega
  · omega

end Placed

/-- A visible source reports every offset as itself. -/
theorem mapOffset_visible {unit : SourceUnitRef} {parent : SourceMap}
    (segments : parent.segments = [visibleSegment text unit]) {offset : Nat}
    (inside : offset < text.length) :
    mapOffset parent offset = .ok ⟨.exact, some unit, some (.ofWidth offset 1), none, none⟩ := by
  have start : (visibleSegment text unit).start = 0 := rfl
  have stop : (visibleSegment text unit).stop = text.length := Nat.zero_add _
  have member : visibleSegment text unit ∈ parent.segments := by
    rw [segments]
    exact List.mem_singleton.mpr rfl
  have found : segmentAt parent.segments offset = some (visibleSegment text unit) :=
    parent.covering.pieceAt_eq member (covers_iff.mpr ⟨Nat.zero_le _, by omega⟩)
  have some_text : 0 ≠ text.length := by omega
  rw [parent.mapOffset_inside found]
  simp [mappedSegment, visibleSegment, SourceMapSegment.start, SourceMapSegment.stop,
    SourceMapSegment.anchorUnit, some_text]

/-- What a compact map over a visible source says of an original offset. -/
structure OffsetLaw (text : Text) (map : CompactReloadSourceMap) : Prop where
  roundTrip : ∀ offset < text.length, pairEnd text offset = false →
    ∃ generated mapped origin, map.mapOriginalOffset offset = .ok generated ∧
      map.mapCompactOffset generated = .ok mapped ∧ mapped.originSpan = some origin ∧
      origin.start = offset
  monotone : ∀ lower upper lowerPlace upperPlace, lower ≤ upper →
    map.mapOriginalOffset lower = .ok lowerPlace →
    map.mapOriginalOffset upper = .ok upperPlace → lowerPlace ≤ upperPlace
  apart : ∀ offset generated, map.mapOriginalOffset offset = .ok generated →
    ∀ interval ∈ map.basis.intervals, interval.Holds generated →
      pairEnd text offset = true ∧ interval.sourceOffset = offset + 1 ∧
        interval.start = generated

theorem Accepted.offsetLaw {sha256 : Text → String} {source : MappedSource}
    {insertions : List ReloadInsertion} {compact : CompactMappedWorkerSource}
    {unit : SourceUnitRef} (accepted : Accepted sha256 source insertions text items compact)
    (segments : source.sourceMap.segments = [visibleSegment text unit]) :
    OffsetLaw text compact.sourceMap := by
  have layable := accepted.layable fun ending member =>
    ⟨_, projectedEnding_visible segments member⟩
  have placed := accepted.placed
  rw [← accepted.parentSourceMap] at segments
  constructor
  · intro offset inside clean
    have generated := placed.mapOriginalOffset_ok.mpr ⟨Nat.le_of_lt inside, rfl⟩
    have report : compact.sourceMap.mapCompactOffset (place text items offset) =
        compact.sourceMap.mapOriginal offset offset :=
      (if_pos accepted.flattened).trans (placed.map_place inside clean)
    by_cases carriage : text[offset]? = some '\r'
    · obtain ⟨ending, member, rfl⟩ : ∃ ending ∈ lineEndingIndex 0 text, ending.start = offset :=
        ⟨⟨offset, if text[offset + 1]? = some '\n' then 2 else 1⟩,
          mem_lineEndingIndex_zero.mpr ⟨carriage, rfl⟩, rfl⟩
      rw [placed.mapOriginal_ending member,
        layable.mapLineEnding member (projectedEnding_visible segments member)] at report
      exact ⟨_, _, _, generated, report, rfl, rfl⟩
    · rw [placed.mapOriginal_plain carriage, mapOffset_visible segments inside] at report
      exact ⟨_, _, _, generated, report, rfl, rfl⟩
  · intro lower upper lowerPlace upperPlace le lowerIs upperIs
    rw [← (placed.mapOriginalOffset_ok.mp lowerIs).2, ← (placed.mapOriginalOffset_ok.mp upperIs).2]
    exact place_monotone items le
  · intro offset generated generatedIs interval member holds
    rw [← (placed.mapOriginalOffset_ok.mp generatedIs).2] at holds ⊢
    exact placed.holds_place member holds

/--
Over a visible source the place of a character is reported as the offset it came
from, places ascend, and inserted text holds none of them.  Only the line feed of
a pair can be placed in inserted text, on the first character put in right behind
the pair.
-/
theorem mapOriginalOffset_section {sha256 : Text → String} {casefold : String → String}
    {objectId : Nat} {text : Text} {unit : SourceUnitRef} {source : MappedSource}
    {insertions : List ReloadInsertion} {methodBoundaries : List ReloadMethodBoundary}
    {compact : CompactMappedWorkerSource}
    (visible : mappedVisibleSource sha256 objectId text unit = .ok source)
    (accepted : materializeWorkerReloadSource sha256 casefold source insertions methodBoundaries =
      .ok compact) : OffsetLaw text compact.sourceMap := by
  obtain ⟨given, segments⟩ := mappedVisibleSource_ok visible
  obtain ⟨own, items, parts⟩ := materializeWorkerReloadSource_ok accepted
  have same : own = text := Option.some.inj (parts.sourceText.symm.trans given)
  subst same
  exact parts.offsetLaw segments

/-- The module of two lines, with a line put in after its line ending. -/
theorem mapOriginalOffset_section_module :
    ∃ source compact,
      mappedVisibleSource moduleDigest 0 ['a', '\r', '\n', 'b']
          ⟨.module, "module", 1, moduleDigest ['a', '\r', '\n', 'b']⟩ = .ok source ∧
        materializeWorkerReloadSource moduleDigest id source [moduleInsertion] [] = .ok compact ∧
        OffsetLaw ['a', '\r', '\n', 'b'] compact.sourceMap := by
  have run : ∃ source compact,
      mappedVisibleSource moduleDigest 0 ['a', '\r', '\n', 'b']
          ⟨.module, "module", 1, moduleDigest ['a', '\r', '\n', 'b']⟩ = .ok source ∧
        materializeWorkerReloadSource moduleDigest id source [moduleInsertion] [] = .ok compact :=
    ⟨_, _, rfl, rfl⟩
  obtain ⟨source, compact, visible, accepted⟩ := run
  exact ⟨source, compact, visible, accepted, mapOriginalOffset_section visible accepted⟩

/-- There the line feed of the pair is placed on the first inserted character. -/
theorem lineFeed_placed_in_insertion :
    ∃ source compact,
      mappedVisibleSource moduleDigest 0 ['a', '\r', '\n', 'b']
          ⟨.module, "module", 1, moduleDigest ['a', '\r', '\n', 'b']⟩ = .ok source ∧
        materializeWorkerReloadSource moduleDigest id source [moduleInsertion] [] = .ok compact ∧
        compact.sourceMap.mapOriginalOffset 2 = .ok 2 ∧
        ∃ interval ∈ compact.sourceMap.basis.intervals, interval.Holds 2 :=
  ⟨_, _, rfl, rfl, rfl, _, List.mem_cons_self, by decide, by decide⟩

end OnecRuntime.Reload
