import OnecRuntime.Reload.Evaluation
import OnecRuntime.Reload.Oracle
import OnecRuntime.Reload.Projector

/-!
# Laying out a placed map

The oracle and the generic form lay out exact text, line endings, and inserted
intervals one after another.  Each step appends segments whose lookups are those
of the compact map, so a whole layout agrees with it.
-/

namespace OnecRuntime.Reload

open OnecRuntime.Library OnecRuntime.SourceMaps

/-- The segment a line ending of the parent projects to, put at the front. -/
def projectedEnding (parent : SourceMap) (ending : LineEnding) : SourceResult SourceMapSegment :=
  let span := SourceSpan.ofWidth ending.start ending.width
  endingSegment (meeting parent span) span (.ofWidth 0 1) workerLineEndingRegion

/-- A placed map over a flattened parent map on which every line ending has a projection. -/
structure Layable (text : Text) (items : List ReloadInsertion) (map : CompactReloadSourceMap) :
    Prop extends Placed text items map where
  parentLength : map.basis.parentSourceMap.generated.characterLength = text.length
  artifactLength : map.basis.parentArtifact.characterLength = text.length
  flat : ∀ segment ∈ map.basis.parentSourceMap.segments, flattenedSegment segment = true
  projects : ∀ ending ∈ lineEndingIndex 0 text, ∃ segment,
    projectedEnding map.basis.parentSourceMap ending = .ok segment
  anchored : ∀ item ∈ items, item.anchor.stop ≤ text.length ∧
    ∀ origin ∈ item.origin, origin.stop ≤ text.length

/-- A segment reports what the compact map reports, also at the end of the text. -/
structure Reports (map : CompactReloadSourceMap) (segment : SourceMapSegment) : Prop where
  inside : ∀ offset, segment.start ≤ offset → offset < segment.stop →
    mappedSegment segment offset false = map.mapFlattenedOffset offset
  last : segment.start < segment.stop → segment.stop = map.generated.characterLength →
    mappedSegment segment segment.stop true = map.mapFlattenedOffset segment.stop

/-- A layout of the text before an offset, with a length of insertions so far. -/
structure LayoutSound (text : Text) (map : CompactReloadSourceMap) (sourceCursor before : Nat)
    (layout : ReloadLayout) : Prop where
  cursor : layout.generatedCursor = kept text sourceCursor + before
  localCovering : Covering 0 layout.generatedCursor layout.localSegments
  flattenedCovering : Covering 0 layout.generatedCursor layout.flattenedSegments
  localBounded : ∀ segment ∈ layout.localSegments, segment.inBounds = true
  visible : ∀ segment ∈ layout.flattenedSegments, flattenedSegment segment = true
  reports : ∀ segment ∈ layout.flattenedSegments, Reports map segment
  passed : Passed map.basis.parentSourceMap sourceCursor layout.remaining

theorem LayoutSound.start (text : Text) (map : CompactReloadSourceMap) :
    LayoutSound text map 0 0 (.start map.basis.parentSourceMap) := by
  constructor
  · rfl
  · rfl
  · rfl
  · intro segment member
    cases member
  · intro segment member
    cases member
  · intro segment member
    cases member
  · exact Passed.start _

variable {text : Text} {items : List ReloadInsertion} {map : CompactReloadSourceMap}
  {sourceCursor before : Nat} {layout : ReloadLayout}

/-- Appending a sound tiling of the text up to the next cursor. -/
theorem LayoutSound.append (sound : LayoutSound text map sourceCursor before layout)
    {later laterBefore : Nat} {localSegment : SourceMapSegment}
    {pieces remaining : List SourceMapSegment} {generatedCursor : Nat}
    (cursor : generatedCursor = kept text later + laterBefore)
    (localStart : localSegment.start = layout.generatedCursor)
    (localStop : localSegment.stop = generatedCursor)
    (localBounded : localSegment.inBounds = true)
    (covering : Covering layout.generatedCursor generatedCursor pieces)
    (visible : ∀ segment ∈ pieces, flattenedSegment segment = true)
    (reports : ∀ segment ∈ pieces, Reports map segment)
    (passed : Passed map.basis.parentSourceMap later remaining) :
    LayoutSound text map later laterBefore
      ⟨layout.localSegments ++ [localSegment], layout.flattenedSegments ++ pieces,
        generatedCursor, remaining⟩ := by
  have ordered := localSegment.ordered
  constructor
  · exact cursor
  · exact sound.localCovering.append ⟨localStart, by omega, localStop⟩
  · exact sound.flattenedCovering.append covering
  · intro segment member
    rcases List.mem_append.mp member with earlier | added
    · exact sound.localBounded segment earlier
    · rw [List.mem_singleton.mp added]
      exact localBounded
  · intro segment member
    rcases List.mem_append.mp member with earlier | added
    · exact sound.visible segment earlier
    · exact visible segment added
  · intro segment member
    rcases List.mem_append.mp member with earlier | added
    · exact sound.reports segment earlier
    · exact reports segment added
  · exact passed

/-! ## Original text -/

/-- Offsets of a stretch without line endings are placed one after another. -/
theorem place_stretch {first offset : Nat} (lower : first ≤ offset)
    (clean : pairEnd text first = false)
    (plain : ∀ other, first ≤ other → other < offset → text[other]? ≠ some '\r')
    (still : inserted items offset = before) :
    pairEnd text offset = false ∧
      place text items offset = kept text first + before + (offset - first) := by
  have cleanHere : ∀ other, first ≤ other → other ≤ offset → pairEnd text other = false := by
    intro other above below
    rcases Nat.eq_or_lt_of_le above with rfl | beyond
    · exact clean
    · obtain ⟨previous, rfl⟩ := Nat.exists_eq_succ_of_ne_zero (show other ≠ 0 by omega)
      exact pairEnd_of_plain (plain previous (by omega) (by omega))
  have moved : kept text (first + (offset - first)) = kept text first + (offset - first) :=
    kept_add fun other above below => cleanHere other above (by omega)
  have same : first + (offset - first) = offset := by omega
  rw [same] at moved
  refine ⟨cleanHere offset lower (Nat.le_refl _), ?_⟩
  unfold place
  omega

/-- A piece of exact text reports the parent map. -/
theorem Layable.reports_exact (layable : Layable text items map) {stop : Nat}
    (lower : sourceCursor < stop) (inside : stop ≤ text.length)
    (clean : pairEnd text sourceCursor = false)
    (plain : ∀ offset, sourceCursor ≤ offset → offset < stop → text[offset]? ≠ some '\r')
    (still : ∀ offset, sourceCursor ≤ offset → offset < stop → inserted items offset = before)
    {parent : SourceMapSegment}
    (member : parent ∈ meeting map.basis.parentSourceMap
      (.ofWidth sourceCursor (stop - sourceCursor))) :
    Reports map (exactPiece (.ofWidth sourceCursor (stop - sourceCursor))
      (kept text sourceCursor + before) parent) := by
  have width : sourceCursor + (stop - sourceCursor) = stop := by omega
  obtain ⟨parentIn, met⟩ := mem_meeting.mp member
  have wide := projectorSegments_positive parentIn
  have some_text : (SourceSpan.ofWidth sourceCursor (stop - sourceCursor)).start <
      (SourceSpan.ofWidth sourceCursor (stop - sourceCursor)).stop := by
    simp only [SourceSpan.ofWidth_start, SourceSpan.ofWidth_stop]
    omega
  have starts := exactPiece_start (.ofWidth sourceCursor (stop - sourceCursor))
    (kept text sourceCursor + before) parent
  have stops := exactPiece_stop (.ofWidth sourceCursor (stop - sourceCursor))
    (kept text sourceCursor + before) parent
  have meets := met
  simp only [SourceSpan.ofWidth_start, SourceSpan.ofWidth_stop, width] at starts stops met
  -- the original of an offset of the piece, and its place
  have original : ∀ offset, (exactPiece (.ofWidth sourceCursor (stop - sourceCursor))
        (kept text sourceCursor + before) parent).start ≤ offset →
      offset < (exactPiece (.ofWidth sourceCursor (stop - sourceCursor))
        (kept text sourceCursor + before) parent).stop →
      ∃ source, sourceCursor ≤ source ∧ source < stop ∧ parent.start ≤ source ∧
        source < parent.stop ∧ source = sourceCursor + (offset - (kept text sourceCursor + before)) ∧
        pairEnd text source = false ∧ place text items source = offset := by
    intro offset above below
    have lowerSource : sourceCursor ≤ sourceCursor + (offset - (kept text sourceCursor + before)) := by
      omega
    have upperSource : sourceCursor + (offset - (kept text sourceCursor + before)) < stop := by
      omega
    obtain ⟨cleanHere, placed⟩ := place_stretch lowerSource clean
      (fun other first last => plain other first (by omega)) (still _ lowerSource upperSource)
    exact ⟨_, lowerSource, upperSource, by omega, by omega, rfl, cleanHere, by omega⟩
  have found : ∀ source, parent.start ≤ source → source < parent.stop →
      segmentAt map.basis.parentSourceMap.segments source = some parent := by
    intro source above below
    exact map.basis.parentSourceMap.covering.pieceAt_eq (List.mem_filter.mp parentIn).1
      (covers_iff.mpr ⟨above, below⟩)
  constructor
  · intro offset above below
    obtain ⟨source, first, last, parentFirst, parentLast, same, cleanHere, placed⟩ :=
      original offset above below
    have evaluated := layable.map_place (show source < text.length by omega) cleanHere
    rw [layable.mapOriginal_plain (plain source first last), placed] at evaluated
    rw [evaluated, mappedSegment_exactPiece some_text meets wide above]
    rw [map.basis.parentSourceMap.mapOffset_inside (found source parentFirst parentLast), same]
    rfl
  · intro nonempty ends
    obtain ⟨source, first, last, parentFirst, parentLast, same, cleanHere, placed⟩ :=
      original (map.generated.characterLength - 1) (by omega) (by omega)
    have atEnd : source + 1 = text.length := by
      rcases Nat.eq_or_lt_of_le (show source + 1 ≤ text.length by omega) with same | before_end
      · exact same
      · have next : place text items source < place text items (source + 1) :=
          place_lt items cleanHere (Nat.lt_succ_self source)
        have beyond : place text items (source + 1) < place text items text.length :=
          place_lt items (pairEnd_of_plain (plain source first last)) before_end
        have total := layable.total
        omega
    have evaluated := layable.map_end (show source < text.length by omega) cleanHere (by omega)
    have parentLength := layable.parentLength
    have parentEnd := map.basis.parentSourceMap.mapOffset_end (by omega)
      (found (map.basis.parentSourceMap.generated.characterLength - 1) (by omega) (by omega))
    rw [parentLength] at parentEnd
    rw [layable.mapOriginal_plain (plain source first last)] at evaluated
    rw [ends, evaluated, mappedSegment_exactPiece some_text meets wide (by omega)]
    have moved : (SourceSpan.ofWidth sourceCursor (stop - sourceCursor)).start +
        (map.generated.characterLength - (kept text sourceCursor + before)) = text.length := by
      rw [SourceSpan.ofWidth_start]
      omega
    rw [moved]
    exact parentEnd.symm

theorem Layable.exact (layable : Layable text items map)
    (sound : LayoutSound text map sourceCursor before layout) {stop : Nat}
    (lower : sourceCursor < stop) (inside : stop ≤ text.length)
    (clean : pairEnd text sourceCursor = false)
    (plain : ∀ offset, sourceCursor ≤ offset → offset < stop → text[offset]? ≠ some '\r')
    (still : ∀ offset, sourceCursor ≤ offset → offset < stop → inserted items offset = before) :
    ∃ next, layout.exact map.basis.parentArtifact (.ofWidth sourceCursor (stop - sourceCursor)) =
        .ok next ∧ LayoutSound text map stop before next := by
  have width : sourceCursor + (stop - sourceCursor) = stop := by omega
  have insideParent : (SourceSpan.ofWidth sourceCursor (stop - sourceCursor)).stop ≤
      map.basis.parentSourceMap.generated.characterLength := by
    rw [layable.parentLength, SourceSpan.ofWidth_stop, width]
    exact inside
  obtain ⟨remaining, found, passed⟩ := projectorExact_ok sound.passed (Nat.le_refl sourceCursor)
    (show sourceCursor < sourceCursor + (stop - sourceCursor) by omega) insideParent
    layout.generatedCursor
  have moved : kept text (sourceCursor + (stop - sourceCursor)) =
      kept text sourceCursor + (stop - sourceCursor) :=
    kept_add fun offset above below => (place_stretch above clean
      (fun other first last => plain other first (by omega)) (still offset above (by omega))).1
  have pieces := exactPieces_covering insideParent layout.generatedCursor
  rw [SourceSpan.width_ofWidth] at pieces
  refine ⟨⟨layout.localSegments ++ [⟨.ofWidth layout.generatedCursor (stop - sourceCursor),
      .exact (.artifact map.basis.parentArtifact) sourceCursor none, none⟩], _,
      layout.generatedCursor + (stop - sourceCursor), remaining⟩, ?_,
    sound.append ?_ rfl rfl ?_ pieces ?_ ?_ (passed.mono (Nat.le_of_lt lower))⟩
  · unfold ReloadLayout.exact
    rw [found, SourceSpan.width_ofWidth]
    rfl
  · have cursor := sound.cursor
    rw [width] at moved
    omega
  · have bound : sourceCursor + (SourceSpan.ofWidth layout.generatedCursor
        (stop - sourceCursor)).width ≤ map.basis.parentArtifact.characterLength := by
      rw [layable.artifactLength, SourceSpan.width_ofWidth, width]
      exact inside
    exact (Bool.and_true _).trans (decide_eq_true bound)
  · intro segment member
    obtain ⟨parent, parentIn, rfl⟩ := List.mem_map.mp member
    have parentMember := (mem_meeting.mp parentIn).1
    exact exactPiece_flattened (layable.flat parent (List.mem_filter.mp parentMember).1) _
  · intro segment member
    obtain ⟨parent, parentIn, rfl⟩ := List.mem_map.mp member
    rw [sound.cursor]
    exact layable.reports_exact lower inside clean plain still parentIn

theorem Layable.stretch (layable : Layable text items map)
    (sound : LayoutSound text map sourceCursor before layout) {stop : Nat}
    (lower : sourceCursor ≤ stop) (inside : stop ≤ text.length)
    (clean : pairEnd text sourceCursor = false)
    (plain : ∀ offset, sourceCursor ≤ offset → offset < stop → text[offset]? ≠ some '\r')
    (still : ∀ offset, sourceCursor ≤ offset → offset < stop → inserted items offset = before) :
    ∃ next, layout.stretch map.basis.parentArtifact sourceCursor stop = .ok next ∧
      LayoutSound text map stop before next := by
  unfold ReloadLayout.stretch
  by_cases some_text : sourceCursor < stop
  · rw [if_pos some_text]
    exact layable.exact sound some_text inside clean plain still
  · have same : sourceCursor = stop := by omega
    subst same
    rw [if_neg some_text]
    exact ⟨layout, rfl, sound⟩

/-! ## Line endings -/

theorem lineEnding_fits {ending : LineEnding} (member : ending ∈ lineEndingIndex 0 text) :
    0 < ending.width ∧ ending.start + ending.width ≤ text.length := by
  obtain ⟨here, width⟩ := mem_lineEndingIndex_zero.mp member
  have inside := (List.getElem?_eq_some_iff.mp here).1
  rw [width]
  split_ifs with feed
  · have feedInside := (List.getElem?_eq_some_iff.mp feed).1
    omega
  · omega

/-- A line ending reports its projection. -/
theorem Layable.mapLineEnding (layable : Layable text items map) {ending : LineEnding}
    (member : ending ∈ lineEndingIndex 0 text) {segment : SourceMapSegment}
    (projected : projectedEnding map.basis.parentSourceMap ending = .ok segment) :
    map.mapLineEnding ending.start ending.width = .ok (mappedCompactSegment segment) := by
  obtain ⟨positive, fits⟩ := lineEnding_fits member
  obtain ⟨remaining, found, _⟩ := projectorDerived_ok (Passed.start map.basis.parentSourceMap)
    (Nat.zero_le ending.start) (show ending.start < ending.start + ending.width by omega)
    (by rw [layable.parentLength]; exact fits) projected
  unfold CompactReloadSourceMap.mapLineEnding
  rw [found]
  rfl

theorem Layable.ending (layable : Layable text items map) {ending : LineEnding}
    (member : ending ∈ lineEndingIndex 0 text)
    (sound : LayoutSound text map ending.start before layout)
    (clean : pairEnd text ending.start = false)
    (still : inserted items ending.start = before) :
    ∃ next, layout.ending map.basis.parentArtifact (.ofWidth ending.start ending.width) =
        .ok next ∧ LayoutSound text map (ending.start + ending.width) before next := by
  obtain ⟨positive, fits⟩ := lineEnding_fits member
  obtain ⟨front, projected⟩ := layable.projects ending member
  have reported := layable.mapLineEnding member projected
  obtain ⟨moved, same⟩ := endingSegment_moved projected (.ofWidth layout.generatedCursor 1)
  obtain ⟨remaining, found, passed⟩ := projectorDerived_ok sound.passed
    (Nat.le_refl ending.start) (show ending.start < ending.start + ending.width by omega)
    (by rw [layable.parentLength]; exact fits) moved
  have inside : ending.start < text.length := by omega
  have placed : place text items ending.start = layout.generatedCursor := by
    rw [sound.cursor, place, still]
  have evaluated := layable.map_place inside clean
  rw [layable.mapOriginal_ending member, placed, reported] at evaluated
  refine ⟨⟨layout.localSegments ++ [⟨.ofWidth layout.generatedCursor 1,
      .derived (.artifact map.basis.parentArtifact) (.ofWidth ending.start ending.width)
        (some workerLineEndingRegion), none⟩],
      layout.flattenedSegments ++ [{ front with generated := .ofWidth layout.generatedCursor 1 }],
      layout.generatedCursor + 1, remaining⟩, ?_,
    sound.append ?_ rfl rfl ?_ ?_ ?_ ?_ (passed.mono (Nat.le_add_right _ _))⟩
  · unfold ReloadLayout.ending
    dsimp only
    rw [found]
    rfl
  · rw [(kept_ending member clean).1, sound.cursor]
    omega
  · have bound : ending.start + ending.width ≤ map.basis.parentArtifact.characterLength := by
      rw [layable.artifactLength]
      exact fits
    exact (Bool.and_true _).trans (decide_eq_true bound)
  · exact ⟨rfl, Nat.le_succ _, rfl⟩
  · intro segment one
    obtain rfl := List.mem_singleton.mp one
    refine endingSegment_flattened (fun parent met => layable.flat parent ?_) moved
    exact (List.mem_filter.mp (mem_meeting.mp met).1).1
  · intro segment one
    obtain rfl := List.mem_singleton.mp one
    constructor
    · intro offset above below
      have here : offset = layout.generatedCursor :=
        Nat.le_antisymm (Nat.lt_succ_iff.mp below) above
      rw [mappedSegment_ending moved, same, here, evaluated]
    · intro _ ends
      have last : map.generated.characterLength = place text items ending.start + 1 := by
        rw [placed]
        exact ends.symm
      have atEnd := layable.map_end inside clean last
      rw [layable.mapOriginal_ending member, reported] at atEnd
      rw [mappedSegment_ending moved, same, ends, atEnd]

/-! ## Insertions -/

theorem localInsertion_inBounds {artifact : SourceArtifactRef} {origin : Option SourceSpan}
    {anchor : SourceSpan} (anchorInside : anchor.stop ≤ artifact.characterLength)
    (originInside : ∀ span ∈ origin, span.stop ≤ artifact.characterLength)
    (generated : SourceSpan) (region : Region) :
    (localInsertion artifact generated region origin anchor).inBounds = true := by
  have anchorBound := decide_eq_true anchorInside
  cases origin with
  | none => exact (Bool.true_and _).trans anchorBound
  | some span => exact Bool.and_eq_true_iff.mpr ⟨decide_eq_true (originInside span rfl), anchorBound⟩

theorem flattenedInsertion_flattened (generated : SourceSpan) (region : Region)
    (origin anchor : UnitAnchor) :
    flattenedSegment (flattenedInsertion generated region origin anchor) = true := by
  cases origin <;> cases anchor <;> rfl

/-- The flattened segment of an insertion is one report, that of its interval. -/
theorem mappedSegment_flattenedInsertion (interval : CompactInsertionInterval)
    (generated : SourceSpan) (offset : Nat) (eof : Bool) :
    mappedSegment (flattenedInsertion generated interval.syntheticRegion interval.origin
      interval.anchor) offset eof = .ok (mappedCompactInterval interval) := by
  unfold flattenedInsertion mappedCompactInterval mappedSegment SourceMapSegment.anchorUnit
  cases interval.origin <;> cases interval.anchor <;> rfl

theorem Layable.insertion (layable : Layable text items map) {item : ReloadInsertion}
    (member : item ∈ items)
    (found : placedInterval (projectorSegments map.basis.parentSourceMap) text before item ∈
      map.basis.intervals)
    (sound : LayoutSound text map item.sourceOffset before layout) :
    LayoutSound text map item.sourceOffset (before + item.generatedLength)
      (layout.insertion
        (localInsertion map.basis.parentArtifact
          (.ofWidth layout.generatedCursor item.generatedLength) item.syntheticRegion item.origin
          item.anchor)
        (flattenedInsertion (.ofWidth layout.generatedCursor item.generatedLength)
          item.syntheticRegion
          (item.origin.bind (projectorAnchor (projectorSegments map.basis.parentSourceMap)))
          (projectorAnchor (projectorSegments map.basis.parentSourceMap) item.anchor))) := by
  have cursor := sound.cursor
  obtain ⟨anchorInside, originInside⟩ := layable.anchored item member
  have starts : (placedInterval (projectorSegments map.basis.parentSourceMap) text before
      item).start = layout.generatedCursor := cursor.symm
  have stops : (placedInterval (projectorSegments map.basis.parentSourceMap) text before
      item).stop = layout.generatedCursor + item.generatedLength := by
    rw [cursor]
    rfl
  have positive := item.generatedLength_pos
  have reported := mappedSegment_flattenedInsertion
    (placedInterval (projectorSegments map.basis.parentSourceMap) text before item)
    (.ofWidth layout.generatedCursor item.generatedLength)
  rw [← layable.artifactLength] at anchorInside originInside
  refine sound.append ?_ rfl rfl (localInsertion_inBounds anchorInside originInside _ _)
    ⟨rfl, Nat.le_add_right _ _, rfl⟩ ?_ ?_ sound.passed
  · change layout.generatedCursor + item.generatedLength = _
    omega
  · intro segment one
    obtain rfl := List.mem_singleton.mp one
    exact flattenedInsertion_flattened _ _ _ _
  · intro segment one
    obtain rfl := List.mem_singleton.mp one
    constructor
    · intro offset above below
      change layout.generatedCursor ≤ offset at above
      change offset < layout.generatedCursor + item.generatedLength at below
      exact (reported offset false).trans
        (layable.map_interval found (by omega) (.inl (by omega))).symm
    · intro _ ends
      change layout.generatedCursor + item.generatedLength = _ at ends
      refine (reported _ true).trans (layable.map_interval found ?_ (.inr ⟨ends, ?_⟩)).symm
      · omega
      · exact stops

end OnecRuntime.Reload
