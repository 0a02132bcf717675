import OnecRuntime.Diagnostics.Structure

/-!
# The structure covers the text

Every place of a bounded diagnostic belongs to a boundary, a summary, a frame, a category or an
opaque span, and what belongs to which cause is what the places say. The message has this structure
whenever it can be encoded.
-/

namespace OnecRuntime.Diagnostics

open OnecRuntime.Library
open OnecRuntime.Bsl (isSpace)
open OnecRuntime.SourceMaps (Text)

/-- The accepted locators whose coordinates are within their limits. -/
def candidatesOf (accepted : List AcceptedPlatformLocation) : List AcceptedPlatformLocation :=
  accepted.filter fun item => traceLocationIsBounded item.location

/-- A span stands apart from every accepted locator. -/
def Clear (accepted : List AcceptedPlatformLocation) (span : Span) : Prop :=
  ∀ item ∈ accepted, span.Apart item.span

/-- The structure of a text with the given accepted locators, where the blocks are what stands
between the boundaries. -/
structure Covers (text : Text) (accepted : List AcceptedPlatformLocation) (blocks : List Span)
    (parsed : DiagnosticStructure) : Prop where
  partition : Tiles Span.start Span.stop 0 text.length (Span.inTurn blocks (boundaries text))
  causes_blocks : parsed.causes.map (·.blockSpan) = blocks.take platformCauseLimit
  cause_ordinals : parsed.causes.map (·.ordinal) = List.range parsed.causes.length
  frames_located : parsed.frames.map (fun frame => (frame.location, frame.blockSpan.start)) =
    ((candidatesOf accepted).take platformFrameLimit).map fun item => (item.location, item.span.start)
  frame_ordinals : parsed.frames.map (·.ordinal) = List.range parsed.frames.length
  frames_inside : ∀ frame ∈ parsed.frames,
    frame.blockSpan.start < frame.blockSpan.stop ∧ frame.blockSpan.stop ≤ text.length
  frames_ordered : Span.Ordered (parsed.frames.map (·.blockSpan))
  frames_owned : ∀ frame ∈ parsed.frames, ∀ ordinal, frame.causeOrdinal = some ordinal →
    ∃ cause ∈ parsed.causes, cause.ordinal = ordinal ∧ frame.blockSpan.Within cause.blockSpan
  frames_cut_off : ∀ frame ∈ parsed.frames, frame.causeOrdinal = none →
    ∃ block ∈ blocks.drop platformCauseLimit, frame.blockSpan.Within block
  cause_frames : ∀ cause ∈ parsed.causes, cause.frameOrdinals =
    (parsed.frames.filter fun frame => frame.causeOrdinal = some cause.ordinal).map (·.ordinal)
  summaries : ∀ cause ∈ parsed.causes, cause.summarySpan.start ≤ cause.summarySpan.stop ∧
    cause.summarySpan.Within cause.blockSpan ∧ Clear accepted cause.summarySpan
  details : ∀ frame ∈ parsed.frames, ∀ span ∈ frame.detailSpan, span.start < span.stop ∧
    span.Within frame.blockSpan ∧ Clear accepted span
  categories : ∀ cause ∈ parsed.causes, ∀ category ∈ cause.category,
    category.span.start < category.span.stop ∧ category.span.Within cause.blockSpan ∧
      Clear accepted category.span
  opaque_ordered : Span.Ordered parsed.opaqueSpans
  opaque_inside : ∀ span ∈ parsed.opaqueSpans, span.start < span.stop ∧ span.stop ≤ text.length
  opaque_rest : ∀ place < text.length, (∃ span ∈ parsed.opaqueSpans, span.Holds place) ↔
    ¬∃ span ∈ consumedSpans (lineMatches causeBoundary text) parsed.causes parsed.frames,
      span.Holds place
  frames_truncated : parsed.framesTruncated = true ↔
    platformFrameLimit < (candidatesOf accepted).length
  causes_truncated : parsed.causesTruncated = true ↔ platformCauseLimit < blocks.length

/-! ## Trimmed spans -/

section Trimmed

variable {text : Text} {start stop : Nat}

theorem trimDiagnosticSpan_bounds (forward : start ≤ stop) (inside : stop ≤ text.length) :
    (trimDiagnosticSpan text start stop).start ≤ (trimDiagnosticSpan text start stop).stop ∧
      (trimDiagnosticSpan text start stop).Within ⟨start, stop⟩ := by
  have leading := (List.takeWhile_sublist (l := (text.take stop).drop start) isSpace).length_le
  have trailing := (List.takeWhile_sublist (l := (((text.take stop).drop start).drop
    (((text.take stop).drop start).takeWhile isSpace).length).reverse) isSpace).length_le
  rw [List.length_reverse, List.length_drop, List.length_drop, List.length_take] at trailing
  rw [List.length_drop, List.length_take] at leading
  unfold trimDiagnosticSpan Span.Within
  dsimp only
  omega

theorem frameDetailSpan_bounds {locatorEnd blockEnd : Nat} (forward : locatorEnd ≤ blockEnd)
    (inside : blockEnd ≤ text.length) {span : Span}
    (made : frameDetailSpan text locatorEnd blockEnd = some span) :
    span.start < span.stop ∧ span.Within ⟨locatorEnd, blockEnd⟩ := by
  obtain ⟨some_place, same⟩ := Option.ite_none_left_eq_some.1 made
  obtain rfl := Option.some.inj same
  by_cases colon : locatorEnd < blockEnd ∧ text[locatorEnd]? = some ':'
  · rw [if_pos colon] at some_place ⊢
    obtain ⟨trimmed, within⟩ := trimDiagnosticSpan_bounds (Nat.succ_le_of_lt colon.1) inside
    exact ⟨Nat.lt_of_le_of_ne trimmed some_place, Nat.le_trans (Nat.le_succ _) within.1, within.2⟩
  · rw [if_neg colon] at some_place ⊢
    obtain ⟨trimmed, within⟩ := trimDiagnosticSpan_bounds forward inside
    exact ⟨Nat.lt_of_le_of_ne trimmed some_place, within⟩

end Trimmed

/-! ## Frames -/

section Frames

variable {casefold : Text → Text} {text : Text}

def blocksOf (text : Text) : List Span := causeBlocksOf text (lineMatches causeBoundary text)

/-- Where the frame of an accepted locator stands: in the locator's block, up to the next start. -/
structure Placed (text : Text) (item : AcceptedPlatformLocation) (index stop : Nat) (block : Span) :
    Prop where
  block_at : (blocksOf text)[index]? = some block
  starts_in : block.start ≤ item.span.start ∧ item.span.start < block.stop
  locator_in : item.span.stop ≤ stop
  block_in : stop ≤ block.stop
  before_next : ∀ place ∈ blockStartsOf text, item.span.start < place → stop ≤ place
  frame : ∀ ordinal, frameOf text (blocksOf text) (blockStartsOf text) ordinal item =
    ⟨ordinal, (some index).filter (· < ((blocksOf text).take platformCauseLimit).length), item.location,
      ⟨item.span.start, stop⟩, frameDetailSpan text item.span.stop stop⟩

theorem accepted_placed {item : AcceptedPlatformLocation}
    (among : item ∈ acceptedPlatformLocations casefold text) :
    ∃ index stop block, Placed text item index stop block := by
  obtain ⟨some_block, member, holds⟩ := accepted_in_block among
  have found : ((blocksOf text).findIdx? (holdsStart · item.span.start)).isSome := by
    rw [List.findIdx?_isSome, List.any_eq_true]
    exact ⟨some_block, member, holds⟩
  obtain ⟨index, at_index⟩ := Option.isSome_iff_exists.1 found
  obtain ⟨short, holds_here, -⟩ := List.findIdx?_eq_some_iff_getElem.1 at_index
  have block_at := List.getElem?_eq_getElem short
  obtain ⟨block, same⟩ : ∃ block, (blocksOf text)[index] = block := ⟨_, rfl⟩
  rw [same] at block_at holds_here
  have in_block : block.start ≤ item.span.start ∧ item.span.start < block.stop :=
    of_decide_eq_true holds_here
  have block_member : block ∈ blocksOf text := List.mem_of_getElem? block_at
  have some_place := (accepted_nonempty among).1
  have whole : item.span.stop ≤ block.stop := by
    rcases accepted_block among block_member with before | within | behind
    · omega
    · exact within.2
    · omega
  have frame (ordinal : Nat) : frameOf text (blocksOf text) (blockStartsOf text) ordinal item =
      ⟨ordinal, (some index).filter (· < ((blocksOf text).take platformCauseLimit).length),
        item.location, ⟨item.span.start, min (((blockStartsOf text).find?
          (item.span.start < ·)).getD block.stop) block.stop⟩,
        frameDetailSpan text item.span.stop (min (((blockStartsOf text).find?
          (item.span.start < ·)).getD block.stop) block.stop)⟩ := by
    unfold frameOf
    rw [at_index]
    simp only [Option.bind_some, block_at, Option.map_some, Option.getD_some]
  cases next : (blockStartsOf text).find? (item.span.start < ·) with
  | none =>
    rw [next, Option.getD_none, Nat.min_self] at frame
    refine ⟨index, block.stop, block, block_at, in_block, whole, Nat.le_refl _, ?_, frame⟩
    intro place starts behind
    have never := List.find?_eq_none.1 next place starts
    exact absurd (decide_eq_true behind) never
  | some start =>
    rw [next, Option.getD_some] at frame
    have behind : item.span.start < start := by simpa using List.find?_some next
    have start_member := List.mem_of_find?_eq_some next
    refine ⟨index, min start block.stop, block, block_at, in_block,
      Nat.le_min.2 ⟨accepted_start_apart among start_member behind, whole⟩, Nat.min_le_right _ _, ?_,
      frame⟩
    intro place starts after
    exact Nat.le_trans (Nat.min_le_left _ _) (find_start (blockStarts_sorted text) next place starts after)

def framesOf (text : Text) (accepted : List AcceptedPlatformLocation) : List ParsedDiagnosticFrame :=
  ((candidatesOf accepted).take platformFrameLimit).mapIdx (frameOf text (blocksOf text) (blockStartsOf text))

theorem retained_sublist (accepted : List AcceptedPlatformLocation) :
    ((candidatesOf accepted).take platformFrameLimit).Sublist accepted :=
  (List.take_sublist _ _).trans List.filter_sublist

/-- Each frame is that of an accepted locator. -/
theorem mem_framesOf {frame : ParsedDiagnosticFrame}
    (member : frame ∈ framesOf text (acceptedPlatformLocations casefold text)) :
    ∃ item ∈ acceptedPlatformLocations casefold text, ∃ index stop block ordinal,
      Placed text item index stop block ∧ frame =
        ⟨ordinal, (some index).filter (· < ((blocksOf text).take platformCauseLimit).length),
          item.location, ⟨item.span.start, stop⟩, frameDetailSpan text item.span.stop stop⟩ := by
  obtain ⟨ordinal, short, rfl⟩ := List.mem_mapIdx.1 member
  have among := (retained_sublist _).subset (List.getElem_mem short)
  obtain ⟨index, stop, block, placed⟩ := accepted_placed among
  exact ⟨_, among, index, stop, block, ordinal, placed, placed.frame ordinal⟩

theorem framesOf_located (accepted : List AcceptedPlatformLocation) :
    (framesOf text accepted).map (fun frame => (frame.location, frame.blockSpan.start)) =
      ((candidatesOf accepted).take platformFrameLimit).map
        fun item => (item.location, item.span.start) := by
  refine List.ext_getElem (by simp [framesOf]) fun place first second => ?_
  simp [framesOf, frameOf]

theorem framesOf_ordinals (accepted : List AcceptedPlatformLocation) :
    (framesOf text accepted).map (·.ordinal) = List.range (framesOf text accepted).length := by
  refine List.ext_getElem (by simp) fun place first second => ?_
  simp [framesOf, frameOf]

/-- A frame ends before the next locator. -/
theorem framesOf_ordered : Span.Ordered
    ((framesOf text (acceptedPlatformLocations casefold text)).map (·.blockSpan)) := by
  refine List.pairwise_map.2 (List.pairwise_iff_getElem.2 fun first second first_lt second_lt less => ?_)
  have ordered := (@accepted_ordered casefold text).sublist (retained_sublist _)
  unfold framesOf at first_lt second_lt
  rw [List.length_mapIdx] at first_lt second_lt
  simp only [framesOf, List.getElem_mapIdx]
  have apart := List.pairwise_iff_getElem.1 ordered first second first_lt second_lt less
  have first_member := (retained_sublist _).subset (List.getElem_mem first_lt)
  have second_member := (retained_sublist _).subset (List.getElem_mem second_lt)
  obtain ⟨index, stop, block, placed⟩ := accepted_placed first_member
  have some_place := (accepted_nonempty first_member).1
  rw [placed.frame]
  exact placed.before_next _ (accepted_starts second_member) (Nat.lt_of_lt_of_le some_place apart)

end Frames

/-! ## Causes -/

section Causes

variable {casefold : Text → Text} {text : Text}

theorem foldl_min_le (places : List Nat) (first : Nat) : places.foldl min first ≤ first := by
  induction places generalizing first with
  | nil => exact Nat.le_refl _
  | cons place rest follows => exact Nat.le_trans (follows _) (Nat.min_le_left _ _)

theorem le_foldl_min {places : List Nat} {first bound : Nat} (start : bound ≤ first)
    (above : ∀ place ∈ places, bound ≤ place) : bound ≤ places.foldl min first := by
  induction places generalizing first with
  | nil => exact start
  | cons place rest follows =>
    obtain ⟨here, there⟩ := List.forall_mem_cons.1 above
    exact follows (Nat.le_min.2 ⟨start, here⟩) there

variable {block : Span}

/-- The start of the first locator in a block, or else the end of the block. -/
theorem first_locator {accepted : List AcceptedPlatformLocation}
    (ordered : accepted.Pairwise fun first second => first.span.stop ≤ second.span.start)
    (forward : ∀ item ∈ accepted, item.span.start ≤ item.span.stop) (goes : block.start ≤ block.stop) :
    let first := ((accepted.find? fun item => holdsStart block item.span.start).map
      (·.span.start)).getD block.stop
    block.start ≤ first ∧ first ≤ block.stop ∧
      ∀ item ∈ accepted, block.start ≤ item.span.start → first ≤ item.span.start ∨
        block.stop ≤ item.span.start := by
  cases found : accepted.find? fun item => holdsStart block item.span.start with
  | none =>
    refine ⟨goes, Nat.le_refl _, fun item among low => .inr (Nat.not_lt.1 fun high => ?_)⟩
    exact absurd (decide_eq_true ⟨low, high⟩) (List.find?_eq_none.1 found item among)
  | some first =>
    obtain ⟨holds, before, rest, rfl, none_before⟩ := List.find?_eq_some_iff_append.1 found
    obtain ⟨low, high⟩ : block.start ≤ first.span.start ∧ first.span.start < block.stop :=
      of_decide_eq_true holds
    refine ⟨low, Nat.le_of_lt high, fun item among item_low => ?_⟩
    rcases List.mem_append.1 among with early | late
    · refine .inr (Nat.not_lt.1 fun item_high => ?_)
      have never := none_before item early
      rw [holdsStart, decide_eq_true ⟨item_low, item_high⟩] at never
      exact absurd never (by decide)
    · rcases List.mem_cons.1 late with rfl | later
      · exact .inl (Nat.le_refl _)
      · have behind := (List.pairwise_cons.1 (List.pairwise_append.1 ordered).2.1).1 item later
        have same := forward first (by simp)
        exact .inl (Nat.le_trans same behind)

/-- The summary ends before the first locator and the first category of its block. -/
theorem summary_bounds (member : block ∈ blocksOf text)
    (frames : List ParsedDiagnosticFrame) (ordinal : Nat) :
    let cause := causeOf text (acceptedPlatformLocations casefold text) (lineMatches categoryBlock text)
      frames ordinal block
    cause.summarySpan.start ≤ cause.summarySpan.stop ∧ cause.summarySpan.Within block ∧
      Clear (acceptedPlatformLocations casefold text) cause.summarySpan := by
  obtain ⟨begins, ends, goes, inside⟩ := mem_causeBlocks member
  obtain ⟨low, high, least⟩ := first_locator (@accepted_ordered casefold text)
    (fun item among => Nat.le_of_lt (accepted_nonempty among).1) goes
  have above : ∀ place ∈ ((lineMatches categoryBlock text).filter
      fun found => holdsStart block found.span.start).map (·.span.start), block.start ≤ place := by
    intro place among
    obtain ⟨found, filtered, rfl⟩ := List.mem_map.1 among
    exact (of_decide_eq_true (List.mem_filter.1 filtered).2 : _ ∧ _).1
  have from_start := le_foldl_min low above
  have to_first := foldl_min_le (((lineMatches categoryBlock text).filter
    fun found => holdsStart block found.span.start).map (·.span.start))
    (((acceptedPlatformLocations casefold text).find?
      fun item => holdsStart block item.span.start).map (·.span.start) |>.getD block.stop)
  obtain ⟨trimmed, within⟩ := trimDiagnosticSpan_bounds from_start
    (Nat.le_trans to_first (Nat.le_trans high inside))
  refine ⟨trimmed, ⟨within.1, Nat.le_trans within.2 (Nat.le_trans to_first high)⟩, ?_⟩
  intro item among
  rcases accepted_block among member with before | inner | behind
  · exact .inr (Nat.le_trans before within.1)
  · rcases least item among inner.1 with later | beyond
    · exact .inl (Nat.le_trans within.2 (Nat.le_trans to_first later))
    · exact .inl (Nat.le_trans within.2 (Nat.le_trans to_first (Nat.le_trans high beyond)))
  · exact .inl (Nat.le_trans within.2 (Nat.le_trans to_first (Nat.le_trans high behind)))

/-- A category that a cause names stands in the cause's block. -/
theorem category_bounds (member : block ∈ blocksOf text)
    {category : DiagnosticCategoryBlock}
    (named : categoryOf ((lineMatches categoryBlock text).filter
      fun found => holdsStart block found.span.start) = some category) :
    category.span.start < category.span.stop ∧ category.span.Within block ∧
      Clear (acceptedPlatformLocations casefold text) category.span := by
  obtain ⟨begins, ends, goes, inside⟩ := mem_causeBlocks member
  unfold categoryOf at named
  split at named
  · next found only =>
    obtain ⟨-, same⟩ := Option.ite_none_right_eq_some.1 named
    obtain rfl := Option.some.inj same
    have filtered : found ∈ (lineMatches categoryBlock text).filter
        fun found => holdsStart block found.span.start := only ▸ List.mem_singleton_self _
    obtain ⟨among, holds⟩ := List.mem_filter.1 filtered
    obtain ⟨low, high⟩ : block.start ≤ found.span.start ∧ found.span.start < block.stop :=
      of_decide_eq_true holds
    have found_here := lineMatches_sound categoryBlock_single.consumes among
    refine ⟨found_here.nonempty, ⟨low, ?_⟩, fun item accepted =>
      accepted_apart categoryBlock_foreign accepted among⟩
    rcases ends with whole | ⟨span, boundary, same⟩
    · exact whole ▸ found_here.inside
    · obtain ⟨marker, marked, rfl⟩ := List.mem_map.1 boundary
      have marker_here := lineMatches_sound causeBoundary_single.consumes marked
      rw [← same]
      exact found_here.no_line_inside categoryBlock_single marker_here.lineStart (same ▸ high)
  · cases named

end Causes

/-! ## The structure -/

section Whole

variable {casefold : Text → Text} {text : Text}

def causesOf (text : Text) (accepted : List AcceptedPlatformLocation) : List ParsedDiagnosticCause :=
  ((blocksOf text).take platformCauseLimit).mapIdx
    (causeOf text accepted (lineMatches categoryBlock text) (framesOf text accepted))

theorem parseDiagnosticStructure_eq (text : Text) (accepted : List AcceptedPlatformLocation) :
    parseDiagnosticStructure text accepted =
      ⟨causesOf text accepted, framesOf text accepted, complementSpans text.length
          (consumedSpans (lineMatches causeBoundary text) (causesOf text accepted)
            (framesOf text accepted)),
        platformFrameLimit < (candidatesOf accepted).length,
        platformCauseLimit < (blocksOf text).length⟩ := rfl

theorem mem_causesOf {accepted : List AcceptedPlatformLocation} {cause : ParsedDiagnosticCause} :
    cause ∈ causesOf text accepted ↔ ∃ ordinal block,
      ((blocksOf text).take platformCauseLimit)[ordinal]? = some block ∧ cause =
        causeOf text accepted (lineMatches categoryBlock text) (framesOf text accepted) ordinal block := by
  unfold causesOf
  rw [List.mem_mapIdx]
  constructor
  · rintro ⟨ordinal, short, rfl⟩
    exact ⟨ordinal, _, List.getElem?_eq_getElem short, rfl⟩
  · rintro ⟨ordinal, block, found, rfl⟩
    obtain ⟨short, same⟩ := List.getElem?_eq_some_iff.1 found
    exact ⟨ordinal, short, by rw [same]⟩

theorem block_of_take {ordinal : Nat} {block : Span}
    (found : ((blocksOf text).take platformCauseLimit)[ordinal]? = some block) :
    block ∈ blocksOf text := List.mem_of_mem_take (List.mem_of_getElem? found)

theorem causesOf_blocks (accepted : List AcceptedPlatformLocation) :
    (causesOf text accepted).map (·.blockSpan) = (blocksOf text).take platformCauseLimit := by
  refine List.ext_getElem (by simp [causesOf]) fun place first second => ?_
  simp [causesOf, causeOf]

theorem causesOf_ordinals (accepted : List AcceptedPlatformLocation) :
    (causesOf text accepted).map (·.ordinal) = List.range (causesOf text accepted).length := by
  refine List.ext_getElem (by simp) fun place first second => ?_
  simp [causesOf, causeOf]

/-- What is consumed goes forward inside the text. -/
theorem consumed_inside : Span.Inside text.length (consumedSpans (lineMatches causeBoundary text)
    (causesOf text (acceptedPlatformLocations casefold text))
    (framesOf text (acceptedPlatformLocations casefold text))) := by
  intro span among
  rcases List.mem_append.1 among with others | category
  · rcases List.mem_append.1 others with others | framed
    · rcases List.mem_append.1 others with boundary | summary
      · obtain ⟨-, some_place, inside⟩ := (separates_boundaries text).2.2 span boundary
        exact ⟨Nat.le_of_lt some_place, inside⟩
      · obtain ⟨cause, member, rfl⟩ := List.mem_map.1 summary
        obtain ⟨ordinal, block, found, rfl⟩ := mem_causesOf.1 member
        obtain ⟨forward, within, -⟩ := summary_bounds (block_of_take found) _ ordinal
        exact ⟨forward, Nat.le_trans within.2 (mem_causeBlocks (block_of_take found)).2.2.2⟩
    · obtain ⟨frame, member, rfl⟩ := List.mem_map.1 framed
      obtain ⟨item, item_member, index, stop, block, ordinal, placed, rfl⟩ := mem_framesOf member
      have some_place := (accepted_nonempty item_member).1
      have inside := (mem_causeBlocks (List.mem_of_getElem? placed.block_at)).2.2.2
      exact ⟨Nat.le_trans (Nat.le_of_lt some_place) placed.locator_in, Nat.le_trans placed.block_in inside⟩
  · obtain ⟨cause, member, named⟩ := List.mem_filterMap.1 category
    obtain ⟨ordinal, block, found, rfl⟩ := mem_causesOf.1 member
    obtain ⟨named_block, categorised, rfl⟩ := Option.map_eq_some_iff.1 named
    obtain ⟨some_place, within, -⟩ :=
      @category_bounds casefold text block (block_of_take found) named_block categorised
    exact ⟨Nat.le_of_lt some_place,
      Nat.le_trans within.2 (mem_causeBlocks (block_of_take found)).2.2.2⟩

theorem structure_covers (casefold : Text → Text) (text : Text) :
    Covers text (acceptedPlatformLocations casefold text) (blocksOf text)
      (parseDiagnosticStructure text (acceptedPlatformLocations casefold text)) := by
  rw [parseDiagnosticStructure_eq]
  constructor
  case partition => exact causeBlocks_tile text
  case causes_blocks => exact causesOf_blocks _
  case cause_ordinals => exact causesOf_ordinals _
  case frames_located => exact framesOf_located _
  case frame_ordinals => exact framesOf_ordinals _
  case frames_ordered => exact framesOf_ordered
  case opaque_ordered => exact Span.freeOf_ordered consumed_inside
  case opaque_inside => exact Span.freeOf_bounds consumed_inside
  case opaque_rest =>
    intro place inside
    rw [complementSpans, Span.freeOf_holds consumed_inside]
    exact ⟨And.right, fun free => ⟨inside, free⟩⟩
  case frames_truncated => exact decide_eq_true_iff
  case causes_truncated => exact decide_eq_true_iff
  case frames_inside =>
    intro frame member
    obtain ⟨item, item_member, index, stop, block, ordinal, placed, rfl⟩ := mem_framesOf member
    have inside := (mem_causeBlocks (List.mem_of_getElem? placed.block_at)).2.2.2
    exact ⟨Nat.lt_of_lt_of_le (accepted_nonempty item_member).1 placed.locator_in,
      Nat.le_trans placed.block_in inside⟩
  case frames_owned =>
    intro frame member ordinal owned
    obtain ⟨item, item_member, index, stop, block, place, placed, rfl⟩ := mem_framesOf member
    dsimp only at owned
    obtain ⟨same, short⟩ := Option.filter_eq_some_iff.1 owned
    obtain rfl := Option.some.inj same
    have retained : ((blocksOf text).take platformCauseLimit)[index]? = some block := by
      rw [List.length_take, decide_eq_true_iff] at short
      rw [List.getElem?_take_of_lt (by omega), placed.block_at]
    exact ⟨_, mem_causesOf.2 ⟨index, block, retained, rfl⟩, rfl, placed.starts_in.1, placed.block_in⟩
  case frames_cut_off =>
    intro frame member cut
    obtain ⟨item, item_member, index, stop, block, place, placed, rfl⟩ := mem_framesOf member
    dsimp only at cut
    have long := Option.filter_eq_none_iff.1 cut index rfl
    have short := (List.getElem?_eq_some_iff.1 placed.block_at).1
    rw [List.length_take, decide_eq_true_iff] at long
    refine ⟨block, List.mem_of_getElem? (i := index - platformCauseLimit) ?_, placed.starts_in.1,
      placed.block_in⟩
    rw [List.getElem?_drop, ← placed.block_at]
    congr 1
    omega
  case cause_frames =>
    intro cause member
    obtain ⟨ordinal, block, found, rfl⟩ := mem_causesOf.1 member
    rfl
  case summaries =>
    intro cause member
    obtain ⟨ordinal, block, found, rfl⟩ := mem_causesOf.1 member
    exact summary_bounds (block_of_take found) _ ordinal
  case details =>
    intro frame member span detailed
    obtain ⟨item, item_member, index, stop, block, place, placed, rfl⟩ := mem_framesOf member
    have inside := (mem_causeBlocks (List.mem_of_getElem? placed.block_at)).2.2.2
    obtain ⟨some_place, within⟩ :=
      frameDetailSpan_bounds placed.locator_in (Nat.le_trans placed.block_in inside) detailed
    have start := (accepted_nonempty item_member).1
    refine ⟨some_place, ⟨Nat.le_trans (Nat.le_of_lt start) within.1, within.2⟩, ?_⟩
    intro other among
    rcases Nat.lt_or_ge item.span.start other.span.start with behind | before
    · exact .inl (Nat.le_trans within.2 (placed.before_next _ (accepted_starts among) behind))
    · refine .inr (Nat.le_trans ?_ within.1)
      rcases accepted_total among item_member with earlier | later | rfl
      · exact Nat.le_trans earlier (Nat.le_of_lt start)
      · exact absurd (Nat.le_trans later before) (Nat.not_le.2 start)
      · exact Nat.le_refl _
  case categories =>
    intro cause member category categorised
    obtain ⟨ordinal, block, found, rfl⟩ := mem_causesOf.1 member
    exact category_bounds (block_of_take found) categorised

end Whole

end OnecRuntime.Diagnostics

/-!
# Which messages are parsed

A message is parsed, and its structure covers the bounded text, exactly when it can be encoded: a
surrogate without its partner raises before anything is bounded.
-/

namespace OnecRuntime.Diagnostics

open OnecRuntime.Library
open OnecRuntime.SourceMaps (Text)

/-- The structure is over the longest part of the message, from its head, that is within the limit. -/
structure CoversMessage (casefold : Text → Text) (message : CodeText) (parsed : ParsedPlatformDiagnostic) :
    Prop where
  bounded : ∃ rest, message = parsed.platformDiagnostic.map point ++ rest ∧
    (encodedText parsed.platformDiagnostic).length ≤ platformDiagnosticLimitBytes ∧
    (parsed.platformDiagnosticTruncated = true ↔ rest ≠ []) ∧
    ∀ sign ∈ rest.head?, platformDiagnosticLimitBytes <
      (encodedText (parsed.platformDiagnostic ++ [charOf sign])).length
  covers : ∃ blocks, Covers parsed.platformDiagnostic
    (acceptedPlatformLocations casefold parsed.platformDiagnostic) blocks parsed.parsed

variable {message : CodeText}

theorem encodeUtf8_eq_some {encoded : List UInt8} :
    encodeUtf8 message = some encoded ↔
      (∀ sign ∈ message, ¬isSurrogate sign.val) ∧ encodedText (message.map charOf) = encoded := by
  rw [encodeUtf8, Option.ite_none_left_eq_some, Option.some.injEq, Bool.not_eq_true, List.any_eq_false]
  simp only [decide_eq_true_iff]

theorem point_map_charOf (scalar : ∀ sign ∈ message, ¬isSurrogate sign.val) :
    (message.map charOf).map point = message := by
  rw [List.map_map]
  refine (List.map_congr_left fun sign among => ?_).trans (List.map_id message)
  exact point_charOf (scalar sign among)

/-- The bounded text is cut between two characters. -/
theorem boundPlatformDiagnostic_cut (scalar : ∀ sign ∈ message, ¬isSurrogate sign.val) :
    let bound := boundPlatformDiagnostic message (encodedText (message.map charOf))
    ∃ rest, message = bound.1.map point ++ rest ∧
      (encodedText bound.1).length ≤ platformDiagnosticLimitBytes ∧ (bound.2 = true ↔ rest ≠ []) ∧
      ∀ sign ∈ rest.head?, platformDiagnosticLimitBytes <
        (encodedText (bound.1 ++ [charOf sign])).length := by
  by_cases short : (encodedText (message.map charOf)).length ≤ platformDiagnosticLimitBytes
  · rw [boundPlatformDiagnostic, if_pos short]
    refine ⟨[], ?_, short, ⟨nofun, fun none => absurd rfl none⟩, nofun⟩
    rw [List.append_nil, point_map_charOf scalar]
  · rw [boundPlatformDiagnostic, if_neg short]
    obtain ⟨whole, rest, split, decoded, fits, next⟩ :=
      @decodedFrom_cut _ platformDiagnosticLimitBytes (message.map charOf) (Nat.le_refl _)
    dsimp only
    rw [decodedIgnoring, decoded]
    have same : message = whole.map point ++ rest.map point := by
      rw [← List.map_append, ← split, point_map_charOf scalar]
    have some_rest : rest ≠ [] := by
      rintro rfl
      rw [List.append_nil] at split
      rw [split] at short
      exact short fits
    refine ⟨rest.map point, same, fits, ⟨fun _ => ?_, fun _ => rfl⟩, ?_⟩
    · rwa [Ne, List.map_eq_nil_iff]
    · intro sign among
      rw [List.head?_map] at among
      obtain ⟨char, first, rfl⟩ := Option.map_eq_some_iff.1 among
      rw [charOf_point]
      exact next char first

/-- Whatever the bounded text is, its structure covers it. -/
theorem parseBounded_covers (casefold : Text → Text) {bound : Text × Bool}
    (digest : String) (cut : ∃ rest, message = bound.1.map point ++ rest ∧
      (encodedText bound.1).length ≤ platformDiagnosticLimitBytes ∧ (bound.2 = true ↔ rest ≠ []) ∧
      ∀ sign ∈ rest.head?, platformDiagnosticLimitBytes <
        (encodedText (bound.1 ++ [charOf sign])).length) :
    CoversMessage casefold message (parseBounded casefold bound.1 bound.2 digest) :=
  ⟨cut, _, structure_covers casefold bound.1⟩

section Parse

variable {casefold : Text → Text} {sha256 : List UInt8 → String} {message : CodeText}

theorem parsePlatformDiagnostic_encoded {encoded : List UInt8} (found : encodeUtf8 message = some encoded) :
    parsePlatformDiagnostic casefold sha256 message =
      .ok (parseBounded casefold (boundPlatformDiagnostic message encoded).1
        (boundPlatformDiagnostic message encoded).2 (sha256 encoded)) := by
  rw [parsePlatformDiagnostic, found]

theorem parsePlatformDiagnostic_refused (found : encodeUtf8 message = none) :
    parsePlatformDiagnostic casefold sha256 message = .error .unicodeEncodeError := by
  rw [parsePlatformDiagnostic, found]

end Parse

/-- A message is parsed, and covered, exactly if no code point of it is a surrogate. -/
theorem message_parsed_iff (casefold : Text → Text) (sha256 : List UInt8 → String)
    (message : CodeText) :
    (∃ parsed, parsePlatformDiagnostic casefold sha256 message = .ok parsed ∧
        CoversMessage casefold message parsed) ↔ ∀ sign ∈ message, ¬isSurrogate sign.val := by
  constructor
  · rintro ⟨parsed, done, -⟩
    cases found : encodeUtf8 message with
    | none =>
      rw [parsePlatformDiagnostic_refused found] at done
      cases done
    | some encoded => exact (encodeUtf8_eq_some.1 found).1
  · intro scalar
    have found := encodeUtf8_eq_some.2 ⟨scalar, rfl⟩
    exact ⟨_, parsePlatformDiagnostic_encoded found,
      parseBounded_covers casefold _ (boundPlatformDiagnostic_cut scalar)⟩

/-- The first half of a pair without the second. -/
def loneSurrogate : CodeText := [0xD800]

theorem loneSurrogate_raises : ¬∃ parsed,
    parsePlatformDiagnostic (fun name => name) (fun _ => "") loneSurrogate = .ok parsed ∧
      CoversMessage (fun name => name) loneSurrogate parsed := by
  rintro ⟨parsed, done, -⟩
  have refused : encodeUtf8 loneSurrogate = none := if_pos (by decide)
  rw [parsePlatformDiagnostic_refused refused] at done
  cases done

end OnecRuntime.Diagnostics
