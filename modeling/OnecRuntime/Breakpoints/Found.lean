import OnecRuntime.Breakpoints.Resolution
import OnecRuntime.Reload.Origins

/-!
# Lines found for a source line

The compact branch finds the generated lines that show a character of the source
line, and the insertions whose anchor meets it.  The scan finds more: it counts
the end of the text, what only borders the line, and synthetic text of any
source.
-/

namespace OnecRuntime.Breakpoints

open OnecRuntime.Library OnecRuntime.SourceMaps OnecRuntime.Reload

/-! ## Generated lines and a range of a unit -/

section Relations

variable (view : WorkerModuleDebugView) (unit : SourceUnitRef) (requested : SourceSpan)

/-- The report of an offset of a generated line. -/
def Reported (line offset : Nat) (mapped : MappedOffset) : Prop :=
  view.generatedLineIndex.lineOf offset = line ∧ view.sourceMap.mapOffset offset = .ok mapped

/-- The generated line has a character that comes from the range. -/
def Shows (line : Nat) : Prop :=
  ∃ offset mapped, offset < view.text.length ∧ Reported view line offset mapped ∧
    exactMeets unit requested mapped = true

/--
The end of the text lies on the generated line and comes from the range or its
edges; at an empty range, also characters that come from right beside it.
-/
def Borders (line : Nat) : Prop :=
  ∃ offset mapped, offset ≤ view.text.length ∧
    (offset = view.text.length ∨ requested.start = requested.stop) ∧
    Reported view line offset mapped ∧ placedIn unit requested (exactPlace mapped) = true

/-- The generated line has synthetic text whose anchor meets the range or touches it. -/
def Marks (line : Nat) : Prop :=
  ∃ offset mapped, offset ≤ view.text.length ∧ Reported view line offset mapped ∧
    placedIn unit requested (syntheticPlace mapped) = true

/-- The generated line has synthetic text of an insertion whose anchor meets the range. -/
def Carries (map : CompactReloadSourceMap) (line : Nat) : Prop :=
  ∃ interval ∈ map.basis.intervals, ∃ offset, interval.origin = none ∧
    (∃ span, interval.anchor = some (unit, span) ∧ meets span requested = true) ∧
    interval.Holds offset ∧ view.generatedLineIndex.lineOf offset = line

end Relations

variable {visible : SourceSpan}

theorem meets_iff {requested : SourceSpan} :
    meets visible requested = true ↔
      visible.start < requested.stop ∧ requested.start < visible.stop := by
  rw [meets, Bool.and_eq_true, decide_eq_true_iff, decide_eq_true_iff]

theorem overlaps_of_meets {requested : SourceSpan} (met : meets visible requested = true) :
    overlaps visible requested = true := by
  obtain ⟨lower, upper⟩ := meets_iff.mp met
  have ordered := visible.ordered
  have requestedOrdered := requested.ordered
  unfold overlaps
  split_ifs
  · simp only [Bool.and_eq_true, decide_eq_true_iff]
    omega
  · simp only [Bool.and_eq_true, decide_eq_true_iff]
    omega
  · simp only [Bool.and_eq_true, decide_eq_true_iff]
    omega

/-- Between spans that are not empty the two tests are one. -/
theorem overlaps_eq_meets {requested : SourceSpan} (wide : visible.start ≠ visible.stop)
    (requestedWide : requested.start ≠ requested.stop) :
    overlaps visible requested = meets visible requested := by
  rw [overlaps, if_neg wide, if_neg requestedWide, meets]

variable {mapped : MappedOffset}

theorem exactMeets_iff {unit : SourceUnitRef} {requested : SourceSpan} :
    exactMeets unit requested mapped = true ↔ mapped.relation = .exact ∧ mapped.unit = some unit ∧
      ∃ span, mapped.originSpan = some span ∧ meets span requested = true := by
  simp [exactMeets, Option.any_eq_true, and_assoc]

theorem placedIn_exact {unit : SourceUnitRef} {requested : SourceSpan} :
    placedIn unit requested (exactPlace mapped) = true ↔
      mapped.relation = .exact ∧ mapped.unit = some unit ∧
        ∃ span, mapped.originSpan = some span ∧ overlaps span requested = true := by
  obtain ⟨relation, place, span, region, anchor⟩ := mapped
  cases relation <;> cases place <;> cases span <;> simp [placedIn, exactPlace]

theorem placedIn_synthetic {unit : SourceUnitRef} {requested : SourceSpan}
    :
    placedIn unit requested (syntheticPlace mapped) = true ↔ mapped.relation = .synthetic ∧
      ∃ span, mapped.anchor = some (unit, span) ∧ overlaps span requested = true := by
  obtain ⟨relation, place, span, region, anchor⟩ := mapped
  cases relation <;> rcases anchor with _ | ⟨other, found⟩ <;> simp [placedIn, syntheticPlace]

/-! ## Accumulated lines -/

/-- A fold that adds lines for each of its elements. -/
theorem foldlM_found {α : Type} (step : FoundLines → α → SourceResult FoundLines)
    (elements : List α) {shown marked : α → Nat → Prop}
    (each : ∀ element ∈ elements, ∀ found, ∃ next, step found element = .ok next ∧
      ∀ line, (line ∈ next.exact ↔ line ∈ found.exact ∨ shown element line) ∧
        (line ∈ next.synthetic ↔ line ∈ found.synthetic ∨ marked element line))
    (found : FoundLines) :
    ∃ final, elements.foldlM step found = .ok final ∧
      ∀ line, (line ∈ final.exact ↔
          line ∈ found.exact ∨ ∃ element ∈ elements, shown element line) ∧
        (line ∈ final.synthetic ↔
          line ∈ found.synthetic ∨ ∃ element ∈ elements, marked element line) := by
  induction elements generalizing found with
  | nil => exact ⟨found, rfl, by simp⟩
  | cons element rest ih =>
      obtain ⟨next, stepped, added⟩ := each element List.mem_cons_self found
      obtain ⟨final, run, all⟩ :=
        ih (fun other member => each other (List.mem_cons_of_mem _ member)) next
      refine ⟨final, foldlM_cons_eq_ok.mpr ⟨next, stepped, run⟩, fun line => ?_⟩
      rw [(all line).1, (all line).2, (added line).1, (added line).2, List.exists_mem_cons_iff,
        List.exists_mem_cons_iff, or_assoc, or_assoc]
      exact ⟨Iff.rfl, Iff.rfl⟩

/-! ## The scan -/

theorem scanOffset_ok {view : WorkerModuleDebugView} {offset : Nat}
    (inside : offset ≤ view.text.length) (unit : SourceUnitRef) (requested : SourceSpan)
    (found : FoundLines) :
    ∃ next, scanOffset view unit requested found offset = .ok next ∧ ∀ line,
      (line ∈ next.exact ↔ line ∈ found.exact ∨ ∃ mapped, Reported view line offset mapped ∧
        placedIn unit requested (exactPlace mapped) = true) ∧
      (line ∈ next.synthetic ↔ line ∈ found.synthetic ∨ ∃ mapped,
        Reported view line offset mapped ∧
          placedIn unit requested (syntheticPlace mapped) = true) := by
  unfold scanOffset Reported
  obtain ⟨column, positioned⟩ := LineIndex.offsetToLineColumn_ok
    view.generatedLineIndex inside
  cases report : view.sourceMap.mapOffset offset with
  | error problem => exact ⟨found, rfl, by simp⟩
  | ok mapped =>
      have only : ∀ (holds : MappedOffset → Prop) (line : Nat),
          (∃ other, (view.generatedLineIndex.lineOf offset = line ∧
            (Except.ok mapped : SourceResult MappedOffset) = .ok other) ∧ holds other) ↔
            line = view.generatedLineIndex.lineOf offset ∧ holds mapped := by
        intro holds line
        constructor
        · rintro ⟨other, ⟨rfl, same⟩, held⟩
          exact ⟨rfl, Except.ok.inj same ▸ held⟩
        · rintro ⟨rfl, held⟩
          exact ⟨mapped, ⟨rfl, rfl⟩, held⟩
      simp only [only]
      rw [positioned]
      change ∃ next, (if placedIn unit requested (exactPlace mapped) = true then _ else _) =
        Except.ok next ∧ _
      by_cases exact : placedIn unit requested (exactPlace mapped) = true
      · have apart : placedIn unit requested (syntheticPlace mapped) = false := by
          rw [← Bool.not_eq_true, placedIn_synthetic, (placedIn_exact.mp exact).1]
          exact fun both => by cases both.1
        refine ⟨_, if_pos exact, fun line => ?_⟩
        simp [exact, apart]
      · rw [if_neg exact]
        by_cases synthetic : placedIn unit requested (syntheticPlace mapped) = true
        · refine ⟨_, if_pos synthetic, fun line => ?_⟩
          simp [exact, synthetic]
        · refine ⟨_, if_neg synthetic, fun line => ?_⟩
          simp [exact, synthetic]

/-- The generated line has an offset, the end of the text included, that comes from the range
or its edges. -/
def Touches (view : WorkerModuleDebugView) (unit : SourceUnitRef) (requested : SourceSpan)
    (line : Nat) : Prop :=
  ∃ offset mapped, offset ≤ view.text.length ∧ Reported view line offset mapped ∧
    placedIn unit requested (exactPlace mapped) = true

theorem scannedLines_ok (view : WorkerModuleDebugView) (unit : SourceUnitRef)
    (requested : SourceSpan) :
    ∃ found, scannedLines view unit requested = .ok found ∧ ∀ line,
      (line ∈ found.exact ↔ Touches view unit requested line) ∧
        (line ∈ found.synthetic ↔ Marks view unit requested line) := by
  obtain ⟨found, run, all⟩ := foldlM_found (scanOffset view unit requested)
    (List.range (view.text.length + 1))
    (fun offset member => scanOffset_ok (Nat.lt_succ_iff.mp (List.mem_range.mp member)) unit
      requested) {}
  refine ⟨found, run, fun line => ?_⟩
  rw [(all line).1, (all line).2]
  simp [Touches, Marks, Nat.lt_succ_iff]

/-! ## The compact branch -/

/-- A view of a laid out compact map over its own text. -/
structure CompactView (text : Text) (items : List ReloadInsertion) (map : CompactReloadSourceMap)
    (view : WorkerModuleDebugView) : Prop where
  sourceMap : view.sourceMap = .compact map
  layable : Layable text items map
  flattened : map.flattened = true
  length : map.generated.characterLength = view.text.length
  lookups : ∀ offset ≤ view.text.length, ∃ mapped, view.sourceMap.mapOffset offset = .ok mapped

variable {text : Text} {items : List ReloadInsertion} {map : CompactReloadSourceMap}
  {view : WorkerModuleDebugView} {unit : SourceUnitRef} {requested : SourceSpan}

theorem CompactView.mapOffset (compact : CompactView text items map view) (offset : Nat) :
    view.sourceMap.mapOffset offset = map.mapFlattenedOffset offset := by
  rw [compact.sourceMap]
  exact if_pos compact.flattened

/-- A place that the lookup tries for a parent segment. -/
def Tried (text : Text) (items : List ReloadInsertion) (unit : SourceUnitRef)
    (requested : SourceSpan) (segment : SourceMapSegment) (generated : Nat) : Prop :=
  ∃ first region original, segment.provenance = .exact (.unit unit) first region ∧
    segment.start ≤ original ∧ original < segment.stop ∧
    requested.start ≤ first + (original - segment.start) ∧
    first + (original - segment.start) < requested.stop ∧ place text items original = generated

theorem segmentOffsets_ok (layable : Layable text items map) (unit : SourceUnitRef)
    (requested : SourceSpan) {segment : SourceMapSegment}
    (member : segment ∈ map.basis.parentSourceMap.segments) :
    ∃ offsets, segmentOffsets map unit requested segment = .ok offsets ∧
      ∀ generated, generated ∈ offsets ↔ Tried text items unit requested segment generated := by
  have bounds := map.basis.parentSourceMap.covering.bounds member
  rw [layable.parentLength] at bounds
  have width : segment.generated.width = segment.stop - segment.start := rfl
  unfold segmentOffsets Tried
  split
  · next other first region given =>
      by_cases same : other = unit
      · subst same
        rw [if_pos rfl]
        refine ⟨_, mapM_of_ok (fun offset =>
          place text items (segment.start + offset - first)) ?_, fun generated => ?_⟩
        · intro offset inRange
          rw [List.mem_range'_1] at inRange
          exact layable.mapOriginalOffset_ok.mpr ⟨by omega, rfl⟩
        · rw [List.mem_map]
          constructor
          · rintro ⟨offset, inRange, placed⟩
            rw [List.mem_range'_1] at inRange
            exact ⟨first, region, segment.start + offset - first, given, by omega, by omega,
              by omega, by omega, placed⟩
          · rintro ⟨first', region', original, other, lower, upper, above, below, placed⟩
            obtain ⟨_, rfl, rfl⟩ := Provenance.exact.inj (given.symm.trans other)
            refine ⟨first + (original - segment.start), ?_, ?_⟩
            · rw [List.mem_range'_1]
              omega
            · rw [← placed]
              congr 1
              omega
      · rw [if_neg same]
        refine ⟨[], rfl, fun generated => iff_of_false List.not_mem_nil ?_⟩
        rintro ⟨_, _, _, found, _⟩
        have units := (Provenance.exact.inj (given.symm.trans found)).1
        exact same (SourceRef.unit.inj units)
  · next others =>
      refine ⟨[], rfl, fun generated => iff_of_false List.not_mem_nil ?_⟩
      rintro ⟨first, region, _, found, _⟩
      exact others unit first region found

/-- An exact report that meets the range stands at one of the places tried. -/
theorem CompactView.tried (compact : CompactView text items map view) {offset : Nat}
    (inside : offset < view.text.length)
    (report : map.mapFlattenedOffset offset = .ok mapped)
    (exact : exactMeets unit requested mapped = true) :
    ∃ segment ∈ map.basis.parentSourceMap.segments,
      Tried text items unit requested segment offset := by
  obtain ⟨relation, here, span, spanned, met⟩ := exactMeets_iff.mp exact
  obtain ⟨other, origin, original, segment, first, region, unitIs, spanIs, found⟩ :=
    compact.layable.exact_origin (compact.length ▸ inside) report relation
  obtain rfl := Option.some.inj (here.symm.trans unitIs)
  obtain rfl := Option.some.inj (spanned.symm.trans spanIs)
  obtain ⟨lower, upper⟩ := meets_iff.mp met
  rw [found.span, SourceSpan.ofWidth_start] at lower
  rw [found.span, SourceSpan.ofWidth_stop] at upper
  exact ⟨segment, found.member, first, region, original, found.provenance, found.lower,
    found.upper, by omega, lower, found.placed⟩

/-- What is tried lies in the text or is no exact report. -/
theorem CompactView.tried_inside (compact : CompactView text items map view)
    {segment : SourceMapSegment} (member : segment ∈ map.basis.parentSourceMap.segments)
    {generated : Nat} (tried : Tried text items unit requested segment generated) :
    ∃ mapped, map.mapFlattenedOffset generated = .ok mapped ∧
      (mapped.relation = .exact → generated < view.text.length) := by
  obtain ⟨first, region, original, _, _, upper, _, _, rfl⟩ := tried
  have bounds := map.basis.parentSourceMap.covering.bounds member
  rw [compact.layable.parentLength] at bounds
  have fits : original < text.length := by omega
  have below : place text items original ≤ view.text.length := by
    rw [← compact.length, compact.layable.total]
    exact place_monotone items fits.le
  obtain ⟨mapped, report⟩ := compact.lookups _ below
  rw [compact.mapOffset] at report
  refine ⟨mapped, report, fun exact => ?_⟩
  rcases Nat.eq_or_lt_of_le below with last | inside
  · -- only the line feed of a final pair is placed behind the text
    cases ends : pairEnd text original with
    | false =>
        have before := place_lt items ends fits
        rw [← compact.layable.total, compact.length] at before
        exact before
    | true =>
        rw [last, ← compact.length] at report
        exact absurd exact
          (compact.layable.pair_end_not_exact ends (last.trans compact.length.symm) report)
  · exact inside

theorem mem_intervalSpans {entry : MappingRelation × SourceSpan} :
    entry ∈ intervalSpans map unit requested ↔ ∃ interval ∈ map.basis.intervals,
      (intervalPlace unit interval).any (meets · requested) = true ∧
        entry = (intervalRelation interval, interval.generated) := by
  unfold intervalSpans
  rw [List.mem_filterMap]
  constructor
  · rintro ⟨interval, member, kept⟩
    split_ifs at kept with met
    exact ⟨interval, member, met, (Option.some.inj kept).symm⟩
  · rintro ⟨interval, member, met, rfl⟩
    exact ⟨interval, member, if_pos met⟩

/-- The spans of the compact lookup: exact characters, and intervals. -/
theorem CompactView.spans_ok (compact : CompactView text items map view)
    (unit : SourceUnitRef) (requested : SourceSpan) :
    ∃ spans, mappedSpansForVisibleSpan map unit requested = .ok spans ∧ ∀ entry, entry ∈ spans ↔
      (∃ offset mapped, entry = (.exact, .ofWidth offset 1) ∧ offset < view.text.length ∧
        map.mapFlattenedOffset offset = .ok mapped ∧ exactMeets unit requested mapped = true) ∨
      entry ∈ intervalSpans map unit requested := by
  obtain ⟨offsets, collected, places⟩ := mapM_flatten_ok
    (fun segment member => segmentOffsets_ok compact.layable unit requested member)
  have sorted : ∀ generated, generated ∈ offsets.flatten.dedup.insertionSort (· ≤ ·) ↔
      ∃ segment ∈ map.basis.parentSourceMap.segments,
        Tried text items unit requested segment generated := by
    intro generated
    rw [List.mem_insertionSort, List.mem_dedup, places]
  have each : ∀ offset ∈ offsets.flatten.dedup.insertionSort (· ≤ ·), ∃ result,
      exactSpan map unit requested offset = .ok result ∧ ∀ entry, entry ∈ result ↔
        ∃ mapped, entry = (.exact, .ofWidth offset 1) ∧
          map.mapFlattenedOffset offset = .ok mapped ∧ exactMeets unit requested mapped = true := by
    intro offset member
    obtain ⟨segment, inMap, tried⟩ := (sorted offset).mp member
    obtain ⟨mapped, report, _⟩ := compact.tried_inside inMap tried
    have looked : map.mapCompactOffset offset = .ok mapped :=
      (if_pos compact.flattened).trans report
    refine ⟨_, bind_eq_ok.mpr ⟨mapped, looked, rfl⟩, fun entry => ?_⟩
    rw [report]
    by_cases met : exactMeets unit requested mapped = true
    · rw [if_pos met, List.mem_singleton]
      constructor
      · exact fun same => ⟨mapped, same, rfl, met⟩
      · exact fun ⟨_, same, _⟩ => same
    · rw [if_neg met]
      refine iff_of_false List.not_mem_nil ?_
      rintro ⟨_, _, same, exact⟩
      obtain rfl := Except.ok.inj same
      exact met exact
  obtain ⟨exact, filtered, kept⟩ := mapM_flatten_ok each
  refine ⟨exact.flatten ++ intervalSpans map unit requested, ?_, fun entry => ?_⟩
  · unfold mappedSpansForVisibleSpan
    rw [if_neg (by rw [compact.flattened]; decide)]
    exact bind_eq_ok.mpr ⟨_, collected, bind_eq_ok.mpr ⟨_, filtered, rfl⟩⟩
  · rw [List.mem_append, kept]
    refine or_congr_left ⟨?_, ?_⟩
    · rintro ⟨offset, member, mapped, same, report, met⟩
      obtain ⟨segment, inMap, tried⟩ := (sorted offset).mp member
      obtain ⟨other, otherReport, inside⟩ := compact.tried_inside inMap tried
      obtain rfl := Except.ok.inj (report.symm.trans otherReport)
      exact ⟨offset, mapped, same, inside (exactMeets_iff.mp met).1, report, met⟩
    · rintro ⟨offset, mapped, same, inside, report, met⟩
      exact ⟨offset, (sorted offset).mpr (compact.tried inside report met), mapped, same, report,
        met⟩

/-- The lines of a span of text are those of its offsets. -/
theorem noteSpan_ok {index : LineIndex} {entry : MappingRelation × SourceSpan}
    (wide : entry.2.start < entry.2.stop) (inside : entry.2.stop ≤ index.length)
    (found : FoundLines) :
    ∃ next, noteSpan index found entry = .ok next ∧ ∀ line,
      (line ∈ next.exact ↔ line ∈ found.exact ∨ entry.1 = .exact ∧ ∃ offset,
        entry.2.start ≤ offset ∧ offset < entry.2.stop ∧ index.lineOf offset = line) ∧
      (line ∈ next.synthetic ↔ line ∈ found.synthetic ∨ entry.1 = .synthetic ∧ ∃ offset,
        entry.2.start ≤ offset ∧ offset < entry.2.stop ∧ index.lineOf offset = line) := by
  obtain ⟨relation, span⟩ := entry
  dsimp only at wide inside ⊢
  obtain ⟨_, first⟩ := index.offsetToLineColumn_ok
    (show span.start ≤ index.length by omega)
  obtain ⟨_, last⟩ := index.offsetToLineColumn_ok
    (show span.stop - 1 ≤ index.length by omega)
  have lines : spanLines index span = .ok (List.range' (index.lineOf span.start)
      (index.lineOf (span.stop - 1) + 1 - index.lineOf span.start)) := by
    refine bind_eq_ok.mpr ⟨_, first, ?_⟩
    dsimp only
    rw [if_neg (Nat.ne_of_lt wide)]
    exact bind_eq_ok.mpr ⟨_, last, rfl⟩
  have ascends := index.lineOf_monotone (show span.start ≤ span.stop - 1 by omega)
  have member : ∀ line, line ∈ List.range' (index.lineOf span.start)
      (index.lineOf (span.stop - 1) + 1 - index.lineOf span.start) ↔ ∃ offset,
        span.start ≤ offset ∧ offset < span.stop ∧ index.lineOf offset = line := by
    intro line
    rw [LineIndex.lineOf_between wide, List.mem_range'_1]
    omega
  unfold noteSpan
  dsimp only
  rw [lines]
  cases relation with
  | exact => exact ⟨_, rfl, fun line => by simp [member]⟩
  | derived => exact ⟨_, rfl, fun line => by simp⟩
  | synthetic => exact ⟨_, rfl, fun line => by simp [member]⟩

theorem intervalPlace_synthetic {interval : CompactInsertionInterval} :
    (intervalRelation interval = .synthetic ∧
        (intervalPlace unit interval).any (meets · requested) = true) ↔
      interval.origin = none ∧
        ∃ span, interval.anchor = some (unit, span) ∧ meets span requested = true := by
  unfold intervalRelation intervalPlace
  cases interval.origin with
  | some place => exact iff_of_false (fun both => by cases both.1) fun both => by cases both.1
  | none =>
      rcases interval.anchor with _ | ⟨other, span⟩
      · simp
      · by_cases same : other = unit <;> simp [same]

theorem CompactView.compactLines_ok (compact : CompactView text items map view)
    (unit : SourceUnitRef) (requested : SourceSpan) :
    ∃ found, compactLines view map unit requested = .ok found ∧ ∀ line,
      (line ∈ found.exact ↔ Shows view unit requested line) ∧
        (line ∈ found.synthetic ↔ Carries view unit requested map line) := by
  obtain ⟨spans, collected, entries⟩ := compact.spans_ok unit requested
  obtain ⟨found, run, all⟩ := foldlM_found (noteSpan view.generatedLineIndex)
    spans (fun entry member found => by
      refine noteSpan_ok ?_ ?_ found
      · rcases (entries entry).mp member with ⟨offset, _, rfl, _⟩ | inIntervals
        · exact Nat.lt_succ_self offset
        · obtain ⟨interval, inMap, _, rfl⟩ := mem_intervalSpans.mp inIntervals
          exact compact.layable.positive inMap
      · change entry.2.stop ≤ view.text.length
        rcases (entries entry).mp member with ⟨offset, _, rfl, inside, _⟩ | inIntervals
        · exact inside
        · obtain ⟨interval, inMap, _, rfl⟩ := mem_intervalSpans.mp inIntervals
          exact (compact.layable.stop_le inMap).trans_eq compact.length) {}
  refine ⟨found, bind_eq_ok.mpr ⟨spans, collected, run⟩, fun line => ?_⟩
  rw [(all line).1, (all line).2]
  constructor
  · refine (or_iff_right List.not_mem_nil).trans ⟨?_, ?_⟩
    · rintro ⟨entry, member, relation, offset, lower, upper, here⟩
      rcases (entries entry).mp member with
        ⟨original, mapped, rfl, inside, report, met⟩ | inIntervals
      · have same : offset = original := by
          rw [SourceSpan.ofWidth_start] at lower
          rw [SourceSpan.ofWidth_stop] at upper
          omega
        subst same
        exact ⟨offset, mapped, inside, ⟨here, (compact.mapOffset offset).trans report⟩, met⟩
      · obtain ⟨interval, _, _, rfl⟩ := mem_intervalSpans.mp inIntervals
        unfold intervalRelation at relation
        split_ifs at relation
    · rintro ⟨offset, mapped, inside, ⟨here, report⟩, met⟩
      rw [compact.mapOffset] at report
      exact ⟨_, (entries _).mpr (.inl ⟨offset, mapped, rfl, inside, report, met⟩), rfl, offset,
        Nat.le_refl _, Nat.lt_succ_self _, here⟩
  · refine (or_iff_right List.not_mem_nil).trans ⟨?_, ?_⟩
    · rintro ⟨entry, member, relation, offset, lower, upper, here⟩
      rcases (entries entry).mp member with ⟨_, _, rfl, _⟩ | inIntervals
      · cases relation
      · obtain ⟨interval, inMap, met, rfl⟩ := mem_intervalSpans.mp inIntervals
        obtain ⟨origin, anchor⟩ := intervalPlace_synthetic.mp ⟨relation, met⟩
        exact ⟨interval, inMap, offset, origin, anchor, ⟨lower, upper⟩, here⟩
    · rintro ⟨interval, inMap, offset, origin, anchor, ⟨lower, upper⟩, here⟩
      obtain ⟨relation, met⟩ := intervalPlace_synthetic.mpr ⟨origin, anchor⟩
      exact ⟨_, (entries _).mpr (.inr (mem_intervalSpans.mpr ⟨interval, inMap, met, rfl⟩)),
        relation, offset, lower, upper, here⟩

/-! ## What the scan adds -/

theorem CompactView.touches_iff (compact : CompactView text items map view) {line : Nat} :
    Touches view unit requested line ↔
      Shows view unit requested line ∨ Borders view unit requested line := by
  constructor
  · rintro ⟨offset, mapped, inside, reported, touched⟩
    by_cases edge : offset = view.text.length ∨ requested.start = requested.stop
    · exact .inr ⟨offset, mapped, inside, edge, reported, touched⟩
    · have before : offset < view.text.length := by omega
      obtain ⟨relation, here, span, spanned, overlapped⟩ := placedIn_exact.mp touched
      have report := (compact.mapOffset offset).symm.trans reported.2
      obtain ⟨_, origin, _, _, _, _, _, originIs, found⟩ :=
        compact.layable.exact_origin (compact.length ▸ before) report relation
      obtain rfl := Option.some.inj (spanned.symm.trans originIs)
      have wide : span.start ≠ span.stop := by
        rw [found.span]
        exact Nat.ne_of_lt (Nat.lt_succ_self _)
      rw [overlaps_eq_meets wide fun same => edge (.inr same)] at overlapped
      exact .inl ⟨offset, mapped, before, reported,
        exactMeets_iff.mpr ⟨relation, here, span, spanned, overlapped⟩⟩
  · rintro (⟨offset, mapped, inside, reported, met⟩ | ⟨offset, mapped, inside, _, reported, placed⟩)
    · obtain ⟨relation, here, span, spanned, meeting⟩ := exactMeets_iff.mp met
      exact ⟨offset, mapped, inside.le, reported,
        placedIn_exact.mpr ⟨relation, here, span, spanned, overlaps_of_meets meeting⟩⟩
    · exact ⟨offset, mapped, inside, reported, placed⟩

theorem CompactView.marks_of_carries (compact : CompactView text items map view) {line : Nat}
    (carries : Carries view unit requested map line) : Marks view unit requested line := by
  obtain ⟨interval, member, offset, origin, ⟨span, anchor, met⟩, ⟨lower, upper⟩, here⟩ := carries
  have report := compact.layable.map_interval member lower (.inl upper)
  have bounded := compact.layable.stop_le member
  rw [compact.length] at bounded
  refine ⟨offset, _, by omega, ⟨here, (compact.mapOffset offset).trans report⟩,
    placedIn_synthetic.mpr ?_⟩
  unfold mappedCompactInterval
  rw [origin]
  exact ⟨rfl, span, anchor, overlaps_of_meets met⟩

end OnecRuntime.Breakpoints
