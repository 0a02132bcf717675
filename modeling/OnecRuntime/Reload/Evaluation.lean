import OnecRuntime.Reload.Placement

/-!
# Evaluation of a compact map

On a placed map the search finds the original of every character that is not
inserted, and the intervals hold exactly the inserted text.  So `map_offset` is
known at each of the three kinds of generated characters, and at the end.
-/

namespace OnecRuntime.Reload

open OnecRuntime.Library OnecRuntime.SourceMaps

/-- A compact map over a text with ordered insertions, as the materialization builds it. -/
structure Placed (text : Text) (items : List ReloadInsertion) (map : CompactReloadSourceMap) :
    Prop where
  ordered : Ordered text items
  sourceLength : map.basis.sourceLength = text.length
  lineEndings : map.basis.lineEndings = lineEndingIndex 0 text
  offsets : ∀ offset, map.basis.mapOriginalOffset offset = place text items offset
  intervals : map.basis.intervals =
    placedIntervals (projectorSegments map.basis.parentSourceMap) text 0 items
  total : map.generated.characterLength = place text items text.length

variable {text : Text} {items : List ReloadInsertion} {map : CompactReloadSourceMap}

namespace Placed

/-! ## Intervals -/

variable {interval : CompactInsertionInterval}

theorem positive (placed : Placed text items map)
    (member : interval ∈ map.basis.intervals) : interval.start < interval.stop := by
  rw [placed.intervals] at member
  exact placedIntervals_positive member

/-- No interval reaches past the end of the text. -/
theorem stop_le (placed : Placed text items map)
    (member : interval ∈ map.basis.intervals) : interval.stop ≤ map.generated.characterLength := by
  rw [placed.intervals] at member
  obtain ⟨item, found, same, _⟩ := mem_placedIntervals member
  have bound := (placedIntervals_bounds placed.ordered.sorted member text.length).1
    (same.trans_le (placed.ordered.inside item found))
  rw [placed.total, place]
  omega

theorem spread (placed : Placed text items map) :
    map.basis.intervals.Pairwise fun first second => first.stop ≤ second.start := by
  rw [placed.intervals]
  exact placedIntervals_spread placed.ordered.sorted

theorem starts_sorted (placed : Placed text items map) :
    map.basis.intervalStarts.Pairwise (· < ·) := by
  refine List.pairwise_map.mpr (placed.spread.imp_of_mem fun {first second} firstIn _ apart => ?_)
  have wide := placed.positive firstIn
  omega

/-- Two intervals that share an offset are one. -/
theorem interval_unique (placed : Placed text items map)
    {first second : CompactInsertionInterval} (firstIn : first ∈ map.basis.intervals)
    (secondIn : second ∈ map.basis.intervals) (below : second.start < first.stop)
    (above : first.start < second.stop) : first = second := by
  rcases List.mem_iff_getElem.mp firstIn with ⟨index, inside, rfl⟩
  rcases List.mem_iff_getElem.mp secondIn with ⟨other, otherInside, rfl⟩
  have apart := List.pairwise_iff_getElem.mp placed.spread
  rcases Nat.lt_trichotomy index other with before | same | after
  · have gap := apart index other inside otherInside before
    omega
  · subst same
    rfl
  · have gap := apart other index otherInside inside after
    omega

variable {offset : Nat}

/-- The interval lookup finds the interval that holds the offset. -/
theorem intervalAt_some (placed : Placed text items map)
    (member : interval ∈ map.basis.intervals) (lower : interval.start ≤ offset)
    (upper : offset < interval.stop ∨
      (offset = map.generated.characterLength ∧ interval.stop = offset)) :
    map.intervalAt offset = some interval := by
  have greatest : ∀ other ∈ map.basis.intervals, other.start ≤ offset →
      other.start ≤ interval.start := by
    intro other found reached
    have wide := placed.positive found
    have bounded := placed.stop_le found
    rcases Nat.le_total other.start interval.start with le | ge
    · exact le
    · have same := placed.interval_unique member found (by omega) (by omega)
      rw [same]
  obtain ⟨index, bisected, selected⟩ :=
    bisectRight_greatest placed.starts_sorted member lower greatest
  unfold CompactReloadSourceMap.intervalAt
  change bisectRight map.basis.intervalStarts offset = index + 1 at bisected
  rw [bisected]
  dsimp only
  rw [selected, Option.filter_some, if_pos]
  rcases upper with inside | ⟨atEnd, stops⟩
  · simp [lower, inside]
  · simp [atEnd.symm, stops]

/-- An interval it finds holds the offset, or ends the text there. -/
theorem of_intervalAt (found : map.intervalAt offset = some interval) :
    interval ∈ map.basis.intervals ∧
      ((interval.start ≤ offset ∧ offset < interval.stop) ∨
        (offset = map.generated.characterLength ∧ interval.stop = offset)) := by
  unfold CompactReloadSourceMap.intervalAt at found
  split at found
  · cases found
  · obtain ⟨selected, holds⟩ := Option.filter_eq_some_iff.mp found
    refine ⟨List.mem_of_getElem? selected, ?_⟩
    simpa using holds

/-- Where an original character is placed, no interval is. -/
theorem intervalAt_place (placed : Placed text items map)
    (inside : offset < text.length) (clean : pairEnd text offset = false) :
    map.intervalAt (place text items offset) = none := by
  refine Option.eq_none_iff_forall_ne_some.mpr fun interval found => ?_
  obtain ⟨member, holds⟩ := of_intervalAt found
  have before_end : place text items offset < map.generated.characterLength := by
    rw [placed.total]
    exact place_lt items clean inside
  rw [placed.intervals] at member
  have bounds := placedIntervals_bounds placed.ordered.sorted member offset
  unfold place at holds before_end
  rcases Nat.lt_or_ge offset interval.sourceOffset with ahead | reached
  · have starts := bounds.2 ahead
    have step := kept_succ clean
    have moved : kept text (offset + 1) ≤ kept text interval.sourceOffset := kept_monotone ahead
    omega
  · have stops := bounds.1 reached
    omega

/-! ## The search -/

theorem original_place (placed : Placed text items map)
    (inside : offset < text.length) (clean : pairEnd text offset = false) :
    map.originalOffsetAtGenerated (place text items offset) = offset := by
  have same : map.basis.mapOriginalOffset = place text items := funext placed.offsets
  unfold CompactReloadSourceMap.originalOffsetAtGenerated
  rw [same, placed.sourceLength]
  exact searchLast_eq (fun _ _ le _ => place_monotone items le) (Nat.le_of_lt inside)
    fun _ later _ => place_lt items clean later

theorem lineEndingWidth_ending (placed : Placed text items map) {ending : LineEnding}
    (member : ending ∈ lineEndingIndex 0 text) :
    map.lineEndingWidth ending.start = some ending.width := by
  have found : bisectFind LineEnding.start (lineEndingIndex 0 text) ending.start = some ending :=
    (bisectFind_eq_some (lineEndingIndex_sorted 0)).mpr ⟨member, rfl⟩
  unfold CompactReloadSourceMap.lineEndingWidth
  rw [placed.lineEndings, found]
  rfl

theorem mapOriginal_ending (placed : Placed text items map) {ending : LineEnding}
    (member : ending ∈ lineEndingIndex 0 text) (parentOffset : Nat) :
    map.mapOriginal ending.start parentOffset =
      map.mapLineEnding ending.start ending.width := by
  unfold CompactReloadSourceMap.mapOriginal
  rw [placed.lineEndingWidth_ending member]

theorem lineEndingWidth_plain (placed : Placed text items map)
    (plain : text[offset]? ≠ some '\r') : map.lineEndingWidth offset = none := by
  unfold CompactReloadSourceMap.lineEndingWidth
  rw [placed.lineEndings, Option.map_eq_none_iff]
  refine Option.eq_none_iff_forall_ne_some.mpr fun ending found => plain ?_
  obtain ⟨member, rfl⟩ := (bisectFind_eq_some (lineEndingIndex_sorted 0)).mp found
  exact (mem_lineEndingIndex_zero.mp member).1

theorem mapOriginal_plain (placed : Placed text items map)
    (plain : text[offset]? ≠ some '\r') (parentOffset : Nat) :
    map.mapOriginal offset parentOffset =
      mapOffset map.basis.parentSourceMap parentOffset := by
  unfold CompactReloadSourceMap.mapOriginal
  rw [placed.lineEndingWidth_plain plain]

/-! ## Lookups -/

/-- Inserted text reports its interval. -/
theorem map_interval (placed : Placed text items map)
    (member : interval ∈ map.basis.intervals) (lower : interval.start ≤ offset)
    (upper : offset < interval.stop ∨
      (offset = map.generated.characterLength ∧ interval.stop = offset)) :
    map.mapFlattenedOffset offset = .ok (mappedCompactInterval interval) := by
  have found := placed.intervalAt_some member lower upper
  have bounded := placed.stop_le member
  unfold CompactReloadSourceMap.mapFlattenedOffset
  dsimp only
  rw [if_neg (by omega), found]

theorem place_inside (placed : Placed text items map)
    (inside : offset < text.length) (clean : pairEnd text offset = false) :
    place text items offset < map.generated.characterLength := by
  rw [placed.total]
  exact place_lt items clean inside

/-- An original character reports the parent map, or its line ending. -/
theorem map_place (placed : Placed text items map) (inside : offset < text.length)
    (clean : pairEnd text offset = false) :
    map.mapFlattenedOffset (place text items offset) =
      map.mapOriginal offset offset := by
  have before_end := placed.place_inside inside clean
  unfold CompactReloadSourceMap.mapFlattenedOffset
  dsimp only
  rw [if_neg (by omega), placed.intervalAt_place inside clean]
  dsimp only
  rw [if_neg (by omega), placed.original_place inside clean]

/-- After a last original character, the end of the text reports its line ending, or the
end of the parent map. -/
theorem map_end (placed : Placed text items map) (inside : offset < text.length)
    (clean : pairEnd text offset = false)
    (last : map.generated.characterLength = place text items offset + 1) :
    map.mapFlattenedOffset map.generated.characterLength =
      map.mapOriginal offset text.length := by
  have here := placed.intervalAt_place inside clean
  have nothing : map.intervalAt map.generated.characterLength = none := by
    refine Option.eq_none_iff_forall_ne_some.mpr fun interval found => ?_
    obtain ⟨member, holds⟩ := of_intervalAt found
    have bounded := placed.stop_le member
    have wide := placed.positive member
    have covered := placed.intervalAt_some member (show interval.start ≤ place text items offset by
      omega) (.inl (by omega))
    rw [here] at covered
    cases covered
  have previous : map.generated.characterLength - 1 = place text items offset := by omega
  unfold CompactReloadSourceMap.mapFlattenedOffset
  dsimp only
  rw [if_neg (Nat.lt_irrefl _), nothing]
  dsimp only
  rw [if_pos rfl, if_neg (by omega), previous, here]
  dsimp only
  rw [placed.original_place inside clean, placed.sourceLength]

end Placed

end OnecRuntime.Reload
