import OnecRuntime.Reload.Layout

/-!
# The compact map agrees with the generic maps

Over a placed map the loops of the oracle and of the generic form run through,
and what they lay out is sound at every step.  So both maps are built, and their
lookups are those of the compact map at every offset.
-/

namespace OnecRuntime.Reload

open OnecRuntime.Library OnecRuntime.SourceMaps

variable {text : Text} {items : List ReloadInsertion} {map : CompactReloadSourceMap}
  {sourceCursor before : Nat} {layout : ReloadLayout}

/-! ## The oracle over original text -/

variable {first last : Nat}

variable {offset : Nat}

theorem getElem?_cut (lower : first ≤ offset) (upper : offset < last) :
    (cut text first last)[offset - first]? = text[offset]? := by
  have same : first + (offset - first) = offset := by omega
  rw [cut, List.getElem?_take, List.getElem?_drop, if_pos (by omega), same]

/-- A search without a result passed no carriage return. -/
theorem findCarriage_none (found : findCarriage text first last = none) :
    ∀ offset, first ≤ offset → offset < last → text[offset]? ≠ some '\r' := by
  intro offset lower upper carriage
  rw [← getElem?_cut lower upper] at carriage
  have nowhere := List.findIdx?_eq_none_iff.mp (Option.map_eq_none_iff.mp found) '\r'
    (List.mem_of_getElem? carriage)
  simp at nowhere

/-- A result is the first carriage return. -/
theorem findCarriage_some {carriage : Nat}
    (found : findCarriage text first last = some carriage) :
    first ≤ carriage ∧ carriage < last ∧ text[carriage]? = some '\r' ∧
      ∀ offset, first ≤ offset → offset < carriage → text[offset]? ≠ some '\r' := by
  obtain ⟨index, indexed, rfl⟩ := Option.map_eq_some_iff.mp found
  obtain ⟨bound, here, earlier⟩ := List.findIdx?_eq_some_iff_getElem.mp indexed
  have short : index < last - first := by
    have width := bound
    rw [cut, List.length_take] at width
    omega
  have same : first + index - first = index := by omega
  refine ⟨Nat.le_add_right _ _, by omega, ?_, ?_⟩
  · have inner : first + index < last := by omega
    rw [← getElem?_cut (Nat.le_add_right first index) inner, same,
      List.getElem?_eq_getElem bound, of_decide_eq_true here]
  · intro offset lower upper carriage
    rw [← getElem?_cut lower (show offset < last by omega)] at carriage
    obtain ⟨_, value⟩ := List.getElem?_eq_some_iff.mp carriage
    exact earlier (offset - first) (by omega) (decide_eq_true value)

variable {stop : Nat}

/-- The ending at a carriage return is the one the oracle cuts off. -/
theorem oracle_width {carriage : Nat} (here : text[carriage]? = some '\r')
    (whole : pairEnd text stop = false) (before_stop : carriage < stop) :
    (⟨carriage, if carriage + 1 < stop ∧ text[carriage + 1]? = some '\n' then 2 else 1⟩ :
      LineEnding) ∈ lineEndingIndex 0 text := by
  refine mem_lineEndingIndex_zero.mpr ⟨here, ?_⟩
  by_cases feed : text[carriage + 1]? = some '\n'
  · have inner : carriage + 1 < stop := by
      rcases Nat.eq_or_lt_of_le (show carriage + 1 ≤ stop from before_stop) with same | less
      · rw [← same, pairEnd_succ.mpr ⟨here, feed⟩] at whole
        cases whole
      · exact less
    rw [if_pos feed, if_pos ⟨inner, feed⟩]
  · rw [if_neg feed, if_neg fun both => feed both.2]

theorem cut_stretch (lower : first ≤ last) (upper : last ≤ stop)
    (plain : ∀ offset, first ≤ offset → offset < last → text[offset]? ≠ some '\r') :
    normalizeReloadFragment (cut text first stop) =
      cut text first last ++ normalizeReloadFragment (cut text last stop) := by
  rw [cut_append lower upper]
  refine normalizeReloadFragment_append (fun character member same => ?_) _
  obtain ⟨offset, above, below, here⟩ := mem_cut member
  rw [same] at here
  exact plain offset above below here

/-- The oracle lays out a piece of original text, and appends its normal form. -/
theorem Layable.oracleOriginal_ok (layable : Layable text items map) {fuel : Nat}
    {fragments : Text} (enough : stop - sourceCursor ≤ fuel) (lower : sourceCursor ≤ stop)
    (inside : stop ≤ text.length) (clean : pairEnd text sourceCursor = false)
    (whole : pairEnd text stop = false)
    (still : ∀ offset, sourceCursor ≤ offset → offset < stop → inserted items offset = before)
    (sound : LayoutSound text map sourceCursor before layout) :
    ∃ next, oracleOriginal map.basis.parentArtifact text stop fuel sourceCursor
        (fragments, layout) =
        .ok (fragments ++ normalizeReloadFragment (cut text sourceCursor stop), next) ∧
      LayoutSound text map stop before next := by
  induction fuel generalizing sourceCursor layout fragments with
  | zero =>
      have same : sourceCursor = stop := by omega
      subst same
      refine ⟨layout, ?_, sound⟩
      rw [cut_self, normalizeReloadFragment_nil, List.append_nil]
      rfl
  | succ fuel ih =>
      unfold oracleOriginal
      by_cases ahead : sourceCursor < stop
      · rw [if_pos ahead]
        cases found : findCarriage text sourceCursor stop with
        | none =>
            have plain := findCarriage_none found
            obtain ⟨next, laid, soundNext⟩ := layable.stretch sound lower inside clean plain still
            refine ⟨next, bind_eq_ok.mpr ⟨next, laid, ?_⟩, soundNext⟩
            rw [cut_stretch lower (Nat.le_refl stop) plain, cut_self, normalizeReloadFragment_nil,
              List.append_nil]
            rfl
        | some carriage =>
            obtain ⟨reached, before_stop, here, plain⟩ := findCarriage_some found
            have stillHere := still carriage reached before_stop
            have cleanHere := (place_stretch reached clean plain stillHere).1
            have member := oracle_width here whole before_stop
            obtain ⟨front, laidFront, soundFront⟩ := layable.stretch sound reached (by omega) clean
              plain fun offset above below => still offset above (by omega)
            obtain ⟨ended, laidEnded, soundEnded⟩ :=
              layable.ending member soundFront cleanHere stillHere
            obtain ⟨split, fits⟩ := normalizeReloadFragment_ending member rfl before_stop whole
            have cleanAfter := (kept_ending member cleanHere).2
            obtain ⟨positive, _⟩ := lineEnding_fits member
            dsimp only at laidEnded soundEnded fits cleanAfter positive split
            obtain ⟨next, run, soundNext⟩ := ih (by omega) fits cleanAfter
              (fun offset above below => still offset (by omega) below) soundEnded
            refine ⟨next, bind_eq_ok.mpr ⟨_, bind_eq_ok.mpr ⟨_, laidFront, rfl⟩,
              bind_eq_ok.mpr ⟨_, bind_eq_ok.mpr ⟨_, laidEnded, rfl⟩, ?_⟩⟩, soundNext⟩
            rw [run, cut_stretch reached (Nat.le_of_lt before_stop) plain, split,
              List.append_assoc, List.append_assoc]
            rfl
      · have same : sourceCursor = stop := by omega
        subst same
        rw [if_neg ahead]
        refine ⟨layout, ?_, sound⟩
        rw [cut_self, normalizeReloadFragment_nil, List.append_nil]
        rfl

/-! ## The loop of the oracle -/

variable {done : List ReloadInsertion}

variable {todo : List ReloadInsertion}

/-- Between two insertions the inserted length is that of the first of them. -/
theorem inserted_between (passed : ∀ item ∈ done, item.sourceOffset ≤ first)
    (ahead : ∀ item ∈ todo, last ≤ item.sourceOffset) (lower : first ≤ offset)
    (upper : offset < last) : inserted (done ++ todo) offset = totalLength done := by
  rw [inserted_append, inserted_of_before fun item member => (passed item member).trans lower,
    inserted_of_after fun item member => Nat.lt_of_lt_of_le upper (ahead item member),
    Nat.add_zero]

/-- The insertions laid out so far, and those to come. -/
structure Position (text : Text) (items : List ReloadInsertion) (sourceCursor : Nat)
    (done todo : List ReloadInsertion) : Prop where
  split : items = done ++ todo
  passed : ∀ item ∈ done, item.sourceOffset ≤ sourceCursor
  ahead : ∀ item ∈ todo, sourceCursor ≤ item.sourceOffset
  inside : sourceCursor ≤ text.length
  clean : pairEnd text sourceCursor = false

theorem Position.start (text : Text) (items : List ReloadInsertion) :
    Position text items 0 [] items := by
  constructor
  · rfl
  · intro item member
    cases member
  · exact fun item _ => Nat.zero_le _
  · exact Nat.zero_le _
  · exact pairEnd_zero

variable {item : ReloadInsertion}

variable {rest : List ReloadInsertion}

/-- The offsets of the insertions to come ascend from the first of them. -/
theorem Position.next_ahead
    (ordered : Ordered text items) (position : Position text items sourceCursor done (item :: rest)) :
    ∀ other ∈ item :: rest, item.sourceOffset ≤ other.sourceOffset := by
  have sorted := ordered.sorted
  rw [position.split] at sorted
  have tail := (List.pairwise_append.mp sorted).2.1
  intro other member
  rcases List.mem_cons.mp member with rfl | later
  · exact Nat.le_refl _
  · exact (List.pairwise_cons.mp tail).1 other later

theorem Position.next
    (ordered : Ordered text items) (position : Position text items sourceCursor done (item :: rest)) :
    Position text items item.sourceOffset (done ++ [item]) rest := by
  have inItems : item ∈ items := by
    rw [position.split]
    exact List.mem_append_right _ List.mem_cons_self
  constructor
  · rw [position.split, List.append_assoc]
    rfl
  · intro other member
    rcases List.mem_append.mp member with earlier | here
    · exact (position.passed other earlier).trans (position.ahead item List.mem_cons_self)
    · rw [List.mem_singleton.mp here]
  · exact fun other member =>
      position.next_ahead ordered other (List.mem_cons_of_mem _ member)
  · exact ordered.inside item inItems
  · exact ordered.clean item inItems

theorem Layable.placed_mem (layable : Layable text items map)
    (position : Position text items sourceCursor done (item :: rest)) :
    placedInterval (projectorSegments map.basis.parentSourceMap) text (totalLength done) item ∈
      map.basis.intervals := by
  rw [layable.intervals, position.split, placedIntervals_append, Nat.zero_add]
  exact List.mem_append_right _ List.mem_cons_self

theorem Layable.oracleLoop_ok (layable : Layable text items map)
    (visible : OriginsVisible (projectorSegments map.basis.parentSourceMap) items)
    (position : Position text items sourceCursor done todo)
    (fragments : Text) (sound : LayoutSound text map sourceCursor (totalLength done) layout) :
    ∃ next, oracleLoop map.basis.parentArtifact text
        (projectorSegments map.basis.parentSourceMap) todo sourceCursor (fragments, layout) =
        .ok (fragments ++ insertedText text sourceCursor todo ++
          normalizeReloadFragment (cut text (lastOffset sourceCursor todo) text.length), next) ∧
      LayoutSound text map text.length (totalLength items) next := by
  induction todo generalizing sourceCursor done layout fragments with
  | nil =>
      have whole : items = done := position.split.trans (List.append_nil done)
      obtain ⟨next, run, soundNext⟩ := layable.oracleOriginal_ok (Nat.le_refl _) position.inside
        (Nat.le_refl _) position.clean pairEnd_length
        (fun offset lower _ => by
          rw [whole, inserted_of_before fun item member =>
            (position.passed item member).trans lower])
        sound
      refine ⟨next, ?_, whole ▸ soundNext⟩
      rw [insertedText, List.append_nil, lastOffset]
      exact run
  | cons item rest ih =>
      have inItems : item ∈ items := by
        rw [position.split]
        exact List.mem_append_right _ List.mem_cons_self
      obtain ⟨plain, run, soundPlain⟩ := layable.oracleOriginal_ok (Nat.le_refl _)
        (position.ahead item List.mem_cons_self) (layable.ordered.inside item inItems)
        position.clean (layable.ordered.clean item inItems)
        (fun offset lower upper => by
          rw [position.split]
          exact inserted_between position.passed (position.next_ahead layable.ordered) lower upper)
        sound
      have soundItem := layable.insertion inItems (layable.placed_mem position) soundPlain
      have advanced := position.next layable.ordered
      rw [← totalLength_snoc] at soundItem
      obtain ⟨next, later, soundNext⟩ := ih advanced _ soundItem
      have put : oracleInsertion map.basis.parentArtifact
          (projectorSegments map.basis.parentSourceMap)
          (fragments ++ normalizeReloadFragment (cut text sourceCursor item.sourceOffset), plain)
          item = .ok _ :=
        bind_eq_ok.mpr ⟨_, visible item inItems, rfl⟩
      refine ⟨next, bind_eq_ok.mpr ⟨_, run, bind_eq_ok.mpr ⟨_, put, later.trans ?_⟩⟩, soundNext⟩
      rw [insertedText, lastOffset]
      simp only [List.append_assoc]

/-! ## The generic form -/

/-- After an ending the next one starts behind it. -/
theorem lineEnding_next {ending other : LineEnding} (member : ending ∈ lineEndingIndex 0 text)
    (otherIn : other ∈ lineEndingIndex 0 text) (later : ending.start < other.start) :
    ending.start + ending.width ≤ other.start := by
  have width := (mem_lineEndingIndex_zero.mp member).2
  have carriage := (mem_lineEndingIndex_zero.mp otherIn).1
  rw [width]
  split_ifs with feed
  · rcases Nat.eq_or_lt_of_le (show ending.start + 1 ≤ other.start from later) with same | beyond
    · rw [← same, feed] at carriage
      cases carriage
    · exact beyond
  · exact later

/-- The endings between two offsets, in order. -/
structure EndingsBetween (text : Text) (first last : Nat) (endings : List LineEnding) : Prop where
  sorted : (endings.map LineEnding.start).Pairwise (· < ·)
  complete : ∀ ending, ending ∈ endings ↔
    ending ∈ lineEndingIndex 0 text ∧ first ≤ ending.start ∧ ending.start < last

/-- A carriage return between the offsets is the start of one of the endings. -/
theorem EndingsBetween.carriage {endings : List LineEnding}
    (between : EndingsBetween text first last endings) (lower : first ≤ offset)
    (upper : offset < last) (here : text[offset]? = some '\r') :
    ∃ ending ∈ endings, ending.start = offset :=
  ⟨⟨offset, if text[offset + 1]? = some '\n' then 2 else 1⟩,
    (between.complete _).mpr ⟨mem_lineEndingIndex_zero.mpr ⟨here, rfl⟩, lower, upper⟩, rfl⟩

theorem EndingsBetween.tail {ending : LineEnding} {rest : List LineEnding}
    (between : EndingsBetween text first last (ending :: rest)) :
    EndingsBetween text (ending.start + ending.width) last rest := by
  obtain ⟨sorted, complete⟩ := between
  rw [List.map_cons, List.pairwise_cons] at sorted
  obtain ⟨member, lower, upper⟩ := (complete ending).mp List.mem_cons_self
  have wide := (lineEnding_fits member).1
  refine ⟨sorted.2, fun other => ⟨fun inside => ?_, fun ⟨inIndex, behind, below⟩ => ?_⟩⟩
  · obtain ⟨inIndex, _, below⟩ := (complete other).mp (List.mem_cons_of_mem _ inside)
    exact ⟨inIndex, lineEnding_next member inIndex (sorted.1 _ (List.mem_map_of_mem inside)), below⟩
  · rcases List.mem_cons.mp ((complete other).mpr ⟨inIndex, by omega, below⟩) with rfl | inside
    · omega
    · exact inside

theorem Layable.genericEndings_ok (layable : Layable text items map)
    {endings : List LineEnding} (between : EndingsBetween text sourceCursor stop endings)
    (lower : sourceCursor ≤ stop) (inside : stop ≤ text.length)
    (clean : pairEnd text sourceCursor = false) (whole : pairEnd text stop = false)
    (still : ∀ offset, sourceCursor ≤ offset → offset < stop → inserted items offset = before)
    (sound : LayoutSound text map sourceCursor before layout) :
    ∃ reached next, genericEndings map.basis.parentArtifact endings sourceCursor layout =
        .ok (reached, next) ∧ LayoutSound text map reached before next ∧
      sourceCursor ≤ reached ∧ reached ≤ stop ∧ pairEnd text reached = false ∧
      ∀ offset, reached ≤ offset → offset < stop → text[offset]? ≠ some '\r' := by
  induction endings generalizing sourceCursor layout with
  | nil =>
      refine ⟨sourceCursor, layout, rfl, sound, Nat.le_refl _, lower, clean, ?_⟩
      intro offset above below carriage
      obtain ⟨ending, impossible, _⟩ := between.carriage above below carriage
      cases impossible
  | cons ending rest ih =>
      obtain ⟨member, reached, before_stop⟩ := (between.complete ending).mp List.mem_cons_self
      have sorted := between.sorted
      rw [List.map_cons, List.pairwise_cons] at sorted
      have plain : ∀ offset, sourceCursor ≤ offset → offset < ending.start →
          text[offset]? ≠ some '\r' := by
        intro offset above below carriage
        obtain ⟨other, inside, rfl⟩ := between.carriage above (by omega) carriage
        rcases List.mem_cons.mp inside with rfl | later
        · omega
        · have beyond := sorted.1 _ (List.mem_map_of_mem later)
          omega
      have stillHere := still ending.start reached before_stop
      have cleanHere := (place_stretch reached clean plain stillHere).1
      obtain ⟨front, laidFront, soundFront⟩ := layable.stretch sound reached (by omega) clean plain
        fun offset above below => still offset above (by omega)
      obtain ⟨ended, laidEnded, soundEnded⟩ :=
        layable.ending member soundFront cleanHere stillHere
      have fits := (normalizeReloadFragment_ending member rfl before_stop whole).2
      obtain ⟨final, next, run, soundNext, above, rest⟩ := ih between.tail fits
        (kept_ending member cleanHere).2
        (fun offset lower upper => still offset (by omega) upper) soundEnded
      exact ⟨final, next, bind_eq_ok.mpr ⟨_, laidFront, bind_eq_ok.mpr ⟨_, laidEnded, run⟩⟩,
        soundNext, by omega, rest⟩

/-- The endings the generic loop meets are those between the two offsets. -/
theorem endingsBetween_bisected (first last : Nat) :
    EndingsBetween text first last
      (((lineEndingIndex 0 text).drop (bisectBefore ((lineEndingIndex 0 text).map
        LineEnding.start) first)).takeWhile fun ending => decide (ending.start < last)) := by
  have sorted : ((lineEndingIndex 0 text).map LineEnding.start).Pairwise (· < ·) :=
    lineEndingIndex_sorted 0
  rw [drop_bisectBefore (sorted.imp Nat.le_of_lt)]
  have filtered : (((lineEndingIndex 0 text).filter fun ending =>
      decide (first ≤ ending.start)).map LineEnding.start).Pairwise (· < ·) :=
    sorted.sublist (List.filter_sublist.map _)
  refine ⟨filtered.sublist ((List.takeWhile_sublist _).map _), fun ending => ?_⟩
  rw [mem_takeWhile_sorted LineEnding.start filtered, List.mem_filter, decide_eq_true_iff,
    and_assoc]

theorem Layable.genericUpTo_ok (layable : Layable text items map)
    (lower : sourceCursor ≤ stop) (inside : stop ≤ text.length)
    (clean : pairEnd text sourceCursor = false) (whole : pairEnd text stop = false)
    (still : ∀ offset, sourceCursor ≤ offset → offset < stop → inserted items offset = before)
    (sound : LayoutSound text map sourceCursor before layout) :
    ∃ next, genericUpTo map.basis stop sourceCursor layout = .ok next ∧
      LayoutSound text map stop before next := by
  unfold genericUpTo genericOriginal
  by_cases ahead : sourceCursor < stop
  · obtain ⟨reached, ended, run, soundEnded, above, below, cleanReached, plain⟩ :=
      layable.genericEndings_ok (endingsBetween_bisected sourceCursor stop) lower inside clean
        whole still sound
    obtain ⟨next, laid, soundNext⟩ := layable.stretch soundEnded below inside cleanReached plain
      fun offset first last => still offset (by omega) last
    rw [if_pos ahead, layable.lineEndings]
    exact ⟨next, bind_eq_ok.mpr ⟨_, run, laid⟩, soundNext⟩
  · have same : sourceCursor = stop := by omega
    subst same
    rw [if_neg ahead]
    exact ⟨layout, rfl, sound⟩

variable {segments : List SourceMapSegment}

/-- A derived insertion has a visible origin, and no other one has. -/
theorem visible_isSome
    (visible : insertionOrigin segments item =
      .ok (item.origin.bind (projectorAnchor segments))) :
    (if (item.origin.bind (projectorAnchor segments)).isSome then item.origin else none) =
      item.origin := by
  unfold insertionOrigin at visible
  cases given : item.origin with
  | none => rfl
  | some span =>
      rw [given] at visible
      cases found : projectorAnchor segments span with
      | none =>
          simp only [found] at visible
          cases visible
      | some place => simp [found]

theorem genericInterval_ok
    (visible : insertionOrigin segments item =
      .ok (item.origin.bind (projectorAnchor segments)))
    (cursor : layout.generatedCursor = kept text item.sourceOffset + before)
    (artifact : SourceArtifactRef) :
    genericInterval artifact (placedInterval segments text before item) layout =
      .ok (layout.insertion
        (localInsertion artifact (.ofWidth layout.generatedCursor item.generatedLength)
          item.syntheticRegion item.origin item.anchor)
        (flattenedInsertion (.ofWidth layout.generatedCursor item.generatedLength)
          item.syntheticRegion (item.origin.bind (projectorAnchor segments))
          (projectorAnchor segments item.anchor))) := by
  have origin := visible_isSome visible
  have derived : ¬((item.origin.bind (projectorAnchor segments)).isSome = true ∧
      item.origin = none) := by
    rintro ⟨some_place, none_left⟩
    rw [none_left] at some_place
    cases some_place
  unfold genericInterval placedInterval CompactInsertionInterval.start
  simp only [SourceSpan.ofWidth_start, ← cursor, ne_eq, not_true_eq_false, if_false, if_neg derived,
    origin]
  rfl

theorem Layable.genericLoop_ok (layable : Layable text items map)
    (visible : OriginsVisible (projectorSegments map.basis.parentSourceMap) items)
    (position : Position text items sourceCursor done todo)
    (sound : LayoutSound text map sourceCursor (totalLength done) layout) :
    ∃ next, genericLoop map.basis
        (placedIntervals (projectorSegments map.basis.parentSourceMap) text (totalLength done)
          todo) sourceCursor layout = .ok next ∧
      LayoutSound text map text.length (totalLength items) next := by
  induction todo generalizing sourceCursor done layout with
  | nil =>
      have whole : items = done := position.split.trans (List.append_nil done)
      obtain ⟨next, run, soundNext⟩ := layable.genericUpTo_ok position.inside (Nat.le_refl _)
        position.clean pairEnd_length
        (fun offset lower _ => by
          rw [whole, inserted_of_before fun item member =>
            (position.passed item member).trans lower])
        sound
      rw [placedIntervals, genericLoop, layable.sourceLength]
      exact ⟨next, run, whole ▸ soundNext⟩
  | cons item rest ih =>
      have inItems : item ∈ items := by
        rw [position.split]
        exact List.mem_append_right _ List.mem_cons_self
      obtain ⟨plain, run, soundPlain⟩ := layable.genericUpTo_ok
        (position.ahead item List.mem_cons_self) (layable.ordered.inside item inItems)
        position.clean (layable.ordered.clean item inItems)
        (fun offset lower upper => by
          rw [position.split]
          exact inserted_between position.passed (position.next_ahead layable.ordered) lower upper)
        sound
      have soundItem := layable.insertion inItems (layable.placed_mem position) soundPlain
      have put := genericInterval_ok (visible item inItems) soundPlain.cursor
        map.basis.parentArtifact
      rw [← totalLength_snoc] at soundItem
      obtain ⟨next, later, soundNext⟩ := ih (position.next layable.ordered) soundItem
      rw [totalLength_snoc] at later
      exact ⟨next, bind_eq_ok.mpr ⟨_, run, bind_eq_ok.mpr ⟨_, put, later⟩⟩, soundNext⟩

/-! ## Maps of sound layouts -/

theorem inBounds_of_flattened {segment : SourceMapSegment}
    (flat : flattenedSegment segment = true) : segment.inBounds = true := by
  have unbounded : ∀ (ref : Option SourceRef) (span : Option SourceSpan),
      ref.all SourceRef.isUnit = true → SourceMapSegment.referenceInBounds ref span = true := by
    intro ref span unit
    rcases ref with _ | ⟨_ | _⟩
    · cases span <;> rfl
    · cases span <;> rfl
    · cases unit
  unfold flattenedSegment at flat
  obtain ⟨origin, anchor⟩ := Bool.and_eq_true_iff.mp flat
  exact Bool.and_eq_true_iff.mpr ⟨unbounded _ _ origin, unbounded _ _ anchor⟩

theorem checkSegments_of_covering {length cursor final : Nat} {previousStart : Int}
    (covering : Covering cursor final segments)
    (inside : final ≤ length) (previous : previousStart ≤ cursor)
    (bounded : ∀ segment ∈ segments, segment.inBounds = true) :
    checkSegments length cursor previousStart segments = .ok final := by
  induction segments generalizing cursor previousStart with
  | nil => exact congrArg Except.ok covering
  | cons segment rest ih =>
      obtain ⟨start, ordered, inner⟩ := covering
      have upper := inner.le
      have same : max cursor segment.stop = segment.stop := Nat.max_eq_right ordered
      obtain ⟨origin, anchor⟩ := Bool.and_eq_true_iff.mp (bounded segment List.mem_cons_self)
      have later := ih inner (show (segment.start : Int) ≤ segment.stop by omega)
        fun other member => bounded other (List.mem_cons_of_mem _ member)
      unfold checkSegments
      rw [if_neg (by omega), if_neg (by omega), if_neg (by omega), if_neg (not_not.mpr origin),
        if_neg (not_not.mpr anchor), same]
      exact later

/-- The constructor accepts a covering of the whole text. -/
theorem make_of_covering {generated : SourceArtifactRef}
    (some_text : 0 < generated.characterLength)
    (covering : Covering 0 generated.characterLength segments)
    (bounded : ∀ segment ∈ segments, segment.inBounds = true) :
    ∃ made, SourceMap.make generated segments = .ok made := by
  have checked := checkSegments_of_covering covering (Nat.le_refl _)
    (show (-1 : Int) ≤ (0 : Nat) by decide) bounded
  have nonempty : segments ≠ [] := by
    intro empty
    rw [empty] at covering
    have zero : 0 = generated.characterLength := covering
    omega
  unfold SourceMap.make
  rw [dif_neg nonempty]
  split
  · next failed =>
      rw [checked] at failed
      cases failed
  · next cursor passed =>
      rw [checked] at passed
      obtain rfl := Except.ok.inj passed
      rw [dif_pos rfl]
      exact ⟨_, rfl⟩

/-- A map whose segments report what the compact map reports has its lookups. -/
theorem mapOffset_of_reports {made : SourceMap} (same : made.generated = map.generated)
    (some_text : 0 < map.generated.characterLength)
    (reports : ∀ segment ∈ made.segments, Reports map segment)
    (inside : offset ≤ map.generated.characterLength) :
    mapOffset made offset = map.mapFlattenedOffset offset := by
  rcases Nat.eq_or_lt_of_le inside with atEnd | before_end
  · obtain ⟨segment, found⟩ := made.segmentAt_isSome
      (show made.generated.characterLength - 1 < made.generated.characterLength by
        rw [same]
        omega)
    have bounds := pieceAt_bounds found
    have limits := made.covering.bounds (pieceAt_mem found)
    have report := (reports segment (pieceAt_mem found)).last (by omega) (by rw [← same]; omega)
    have stops : segment.stop = offset := by
      rw [same] at bounds limits
      omega
    have lookup := made.mapOffset_end (by rw [same]; exact some_text) found
    rw [same, ← atEnd] at lookup
    rw [lookup, ← stops]
    exact report
  · obtain ⟨segment, found⟩ := made.segmentAt_isSome
      (show offset < made.generated.characterLength by
        rw [same]
        exact before_end)
    have bounds := pieceAt_bounds found
    rw [made.mapOffset_inside found]
    exact (reports segment (pieceAt_mem found)).inside offset bounds.1 bounds.2

end OnecRuntime.Reload
