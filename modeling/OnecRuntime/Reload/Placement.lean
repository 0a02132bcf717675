import Mathlib.Data.List.SplitBy
import OnecRuntime.Reload.Compact

/-!
# Placement of insertions

An original character is placed at its normalized offset plus the length of the
text inserted up to it.  The compact loop computes the inserted text, the
intervals, and checkpoints whose totals are these lengths.
-/

namespace OnecRuntime.Reload

open OnecRuntime.Library OnecRuntime.SourceMaps

/-- The length of the text inserted at or before an offset. -/
def inserted (items : List ReloadInsertion) (offset : Nat) : Nat :=
  ((items.filter fun item => decide (item.sourceOffset ≤ offset)).map
    ReloadInsertion.generatedLength).sum

def totalLength (items : List ReloadInsertion) : Nat :=
  (items.map ReloadInsertion.generatedLength).sum

/-- The generated offset of an original one. -/
def place (text : Text) (items : List ReloadInsertion) (offset : Nat) : Nat :=
  kept text offset + inserted items offset

/-- The interval of an insertion, after a length of text inserted before it. -/
def placedInterval (segments : List SourceMapSegment) (text : Text) (before : Nat)
    (item : ReloadInsertion) : CompactInsertionInterval :=
  ⟨.ofWidth (kept text item.sourceOffset + before) item.generatedLength, item.sourceOffset,
    item.methodName, item.syntheticRegion, item.origin.bind (projectorAnchor segments),
    projectorAnchor segments item.anchor, item.origin, item.anchor⟩

def placedIntervals (segments : List SourceMapSegment) (text : Text) :
    Nat → List ReloadInsertion → List CompactInsertionInterval
  | _, [] => []
  | before, item :: rest =>
      placedInterval segments text before item ::
        placedIntervals segments text (before + item.generatedLength) rest

/-- The text that insertions and the original text between them add, from an offset on. -/
def insertedText (text : Text) : Nat → List ReloadInsertion → Text
  | _, [] => []
  | sourceCursor, item :: rest =>
      normalizeReloadFragment (cut text sourceCursor item.sourceOffset) ++ item.text ++
        insertedText text item.sourceOffset rest

def lastOffset : Nat → List ReloadInsertion → Nat
  | sourceCursor, [] => sourceCursor
  | _, item :: rest => lastOffset item.sourceOffset rest

/-- Insertions in order of their offsets, inside a text, none of them in a pair. -/
structure Ordered (text : Text) (items : List ReloadInsertion) : Prop where
  sorted : items.Pairwise fun first second => first.sourceOffset ≤ second.sourceOffset
  inside : ∀ item ∈ items, item.sourceOffset ≤ text.length
  clean : ∀ item ∈ items, pairEnd text item.sourceOffset = false

variable {text : Text} {segments : List SourceMapSegment}

theorem Ordered.tail {item : ReloadInsertion} {rest : List ReloadInsertion}
    (ordered : Ordered text (item :: rest)) : Ordered text rest :=
  ⟨(List.pairwise_cons.mp ordered.sorted).2,
    fun other member => ordered.inside other (List.mem_cons_of_mem _ member),
    fun other member => ordered.clean other (List.mem_cons_of_mem _ member)⟩

theorem validatedReloadInsertions_ok {insertions ordered : List ReloadInsertion}
    (validated : validatedReloadInsertions text insertions = .ok ordered) :
    Ordered text ordered := by
  unfold validatedReloadInsertions at validated
  dsimp only at validated
  split_ifs at validated with outside splits nul
  obtain rfl := Except.ok.inj validated
  have sorted := List.pairwise_insertionSort
    (fun first second : ReloadInsertion => first.sourceOffset ≤ second.sourceOffset) insertions
  constructor
  · exact sorted
  · intro item member
    refine Nat.le_of_not_lt fun beyond => outside ?_
    exact List.any_eq_true.mpr ⟨item, member, decide_eq_true beyond⟩
  · intro item member
    rw [← Bool.not_eq_true]
    exact fun ends => splits (List.any_eq_true.mpr ⟨item, member, ends⟩)

/-! ## Inserted lengths -/

@[simp] theorem totalLength_nil : totalLength [] = 0 := rfl

theorem totalLength_cons (item : ReloadInsertion) (rest : List ReloadInsertion) :
    totalLength (item :: rest) = item.generatedLength + totalLength rest := by
  rw [totalLength, List.map_cons, List.sum_cons, totalLength]

theorem totalLength_append (first second : List ReloadInsertion) :
    totalLength (first ++ second) = totalLength first + totalLength second := by
  rw [totalLength, List.map_append, List.sum_append, totalLength, totalLength]

theorem totalLength_snoc (items : List ReloadInsertion) (item : ReloadInsertion) :
    totalLength (items ++ [item]) = totalLength items + item.generatedLength := by
  rw [totalLength_append, totalLength_cons, totalLength_nil, Nat.add_zero]

@[simp] theorem inserted_nil (offset : Nat) : inserted [] offset = 0 := rfl

theorem inserted_cons (item : ReloadInsertion) (rest : List ReloadInsertion) (offset : Nat) :
    inserted (item :: rest) offset =
      (if item.sourceOffset ≤ offset then item.generatedLength else 0) + inserted rest offset := by
  unfold inserted
  rw [List.filter_cons]
  by_cases before : item.sourceOffset ≤ offset
  · rw [if_pos (decide_eq_true before), if_pos before, List.map_cons, List.sum_cons]
  · rw [if_neg (by simpa using before), if_neg before, Nat.zero_add]

theorem inserted_append (first second : List ReloadInsertion) (offset : Nat) :
    inserted (first ++ second) offset = inserted first offset + inserted second offset := by
  unfold inserted
  rw [List.filter_append, List.map_append, List.sum_append]

variable {items : List ReloadInsertion} {offset : Nat}

theorem inserted_of_before (before : ∀ item ∈ items, item.sourceOffset ≤ offset) :
    inserted items offset = totalLength items := by
  unfold inserted totalLength
  rw [List.filter_eq_self.mpr fun item member => decide_eq_true (before item member)]

theorem inserted_of_after
    (after : ∀ item ∈ items, offset < item.sourceOffset) : inserted items offset = 0 := by
  unfold inserted
  rw [List.filter_eq_nil_iff.mpr fun item member => by
    have later := after item member
    rw [decide_eq_true_iff]
    omega]
  rfl

theorem inserted_monotone (items : List ReloadInsertion) {lower upper : Nat}
    (le : lower ≤ upper) : inserted items lower ≤ inserted items upper := by
  induction items with
  | nil => exact Nat.le_refl _
  | cons item rest ih =>
      rw [inserted_cons, inserted_cons]
      split_ifs
      · omega
      · omega
      · omega
      · omega

theorem place_monotone (items : List ReloadInsertion) {lower upper : Nat} (le : lower ≤ upper) :
    place text items lower ≤ place text items upper :=
  Nat.add_le_add (kept_monotone le) (inserted_monotone items le)

/-- The offset after a clean one is placed further on. -/
theorem place_lt (items : List ReloadInsertion) {other : Nat}
    (clean : pairEnd text offset = false) (later : offset < other) :
    place text items offset < place text items other := by
  have step := kept_succ clean
  have kept_le : kept text (offset + 1) ≤ kept text other := kept_monotone later
  have inserted_le := inserted_monotone items (Nat.le_of_lt later)
  unfold place
  omega

/-! ## Intervals -/

theorem placedIntervals_append (before : Nat) (first second : List ReloadInsertion) :
    placedIntervals segments text before (first ++ second) =
      placedIntervals segments text before first ++
        placedIntervals segments text (before + totalLength first) second := by
  induction first generalizing before with
  | nil => rfl
  | cons item rest ih =>
      rw [List.cons_append, placedIntervals, placedIntervals, ih, List.cons_append,
        totalLength_cons, Nat.add_assoc]

variable {before : Nat} {interval : CompactInsertionInterval}

theorem mem_placedIntervals (member : interval ∈ placedIntervals segments text before items) :
    ∃ item ∈ items, interval.sourceOffset = item.sourceOffset ∧
      interval.stop = interval.start + item.generatedLength := by
  induction items generalizing before with
  | nil => cases member
  | cons item rest ih =>
      rcases List.mem_cons.mp member with rfl | inside
      · exact ⟨item, List.mem_cons_self, rfl, rfl⟩
      · obtain ⟨other, found, same⟩ := ih inside
        exact ⟨other, List.mem_cons_of_mem _ found, same⟩

theorem placedIntervals_positive (member : interval ∈ placedIntervals segments text before items) :
    interval.start < interval.stop := by
  obtain ⟨item, _, _, width⟩ := mem_placedIntervals member
  have positive := item.generatedLength_pos
  omega

/-- An interval ends before every later character, and starts after every earlier one. -/
theorem placedIntervals_bounds
    (sorted : items.Pairwise fun first second => first.sourceOffset ≤ second.sourceOffset)
    (member : interval ∈ placedIntervals segments text before items) (offset : Nat) :
    (interval.sourceOffset ≤ offset →
        interval.stop ≤ kept text offset + before + inserted items offset) ∧
      (offset < interval.sourceOffset →
        kept text interval.sourceOffset + before + inserted items offset ≤ interval.start) := by
  induction items generalizing before with
  | nil => cases member
  | cons item rest ih =>
      obtain ⟨lower, sortedRest⟩ := List.pairwise_cons.mp sorted
      rw [inserted_cons]
      rcases List.mem_cons.mp member with rfl | inside
      · constructor
        · intro reached
          have moved : kept text item.sourceOffset ≤ kept text offset := kept_monotone reached
          have width : (placedInterval segments text before item).stop =
              kept text item.sourceOffset + before + item.generatedLength := rfl
          rw [if_pos (show item.sourceOffset ≤ offset from reached), width]
          omega
        · intro ahead
          have nothing : inserted rest offset = 0 :=
            inserted_of_after fun other found => Nat.lt_of_lt_of_le ahead (lower other found)
          have head : (placedInterval segments text before item).sourceOffset =
              item.sourceOffset := rfl
          rw [if_neg (by omega), nothing]
          exact Nat.le_refl _
      · obtain ⟨other, found, same, _⟩ := mem_placedIntervals inside
        have after := lower other found
        have later := ih sortedRest inside
        constructor
        · intro reached
          have bound := later.1 reached
          rw [if_pos (by omega)]
          omega
        · intro ahead
          have bound := later.2 ahead
          split_ifs
          · omega
          · omega

theorem placedIntervals_start (member : interval ∈ placedIntervals segments text before items) :
    kept text interval.sourceOffset + before ≤ interval.start := by
  induction items generalizing before with
  | nil => cases member
  | cons item rest ih =>
      rcases List.mem_cons.mp member with rfl | inside
      · exact Nat.le_refl _
      · have later := ih inside
        omega

/-- Every interval ends before the next one starts. -/
theorem placedIntervals_spread
    (sorted : items.Pairwise fun first second => first.sourceOffset ≤ second.sourceOffset) :
    (placedIntervals segments text before items).Pairwise fun first second =>
      first.stop ≤ second.start := by
  induction items generalizing before with
  | nil => exact List.Pairwise.nil
  | cons item rest ih =>
      obtain ⟨lower, sortedRest⟩ := List.pairwise_cons.mp sorted
      rw [placedIntervals, List.pairwise_cons]
      refine ⟨fun interval member => ?_, ih sortedRest⟩
      obtain ⟨other, found, same, _⟩ := mem_placedIntervals member
      have starts := placedIntervals_start member
      have moved : kept text item.sourceOffset ≤ kept text interval.sourceOffset := by
        rw [same]
        exact kept_monotone (lower other found)
      change kept text item.sourceOffset + before + item.generatedLength ≤ interval.start
      omega

/-! ## The compact loop -/

theorem insertedText_append (sourceCursor : Nat) (first second : List ReloadInsertion) :
    insertedText text sourceCursor (first ++ second) =
      insertedText text sourceCursor first ++
        insertedText text (lastOffset sourceCursor first) second := by
  induction first generalizing sourceCursor with
  | nil => rfl
  | cons item rest ih =>
      rw [List.cons_append, insertedText, insertedText, ih, lastOffset, List.append_assoc _ _
        (insertedText text _ second)]

theorem lastOffset_append (sourceCursor : Nat) (first second : List ReloadInsertion) :
    lastOffset sourceCursor (first ++ second) = lastOffset (lastOffset sourceCursor first) second := by
  induction first generalizing sourceCursor with
  | nil => rfl
  | cons item rest ih => exact ih item.sourceOffset

/-- Insertions at the cursor add their own text only. -/
theorem insertedText_at (here : ∀ item ∈ items, item.sourceOffset = offset) :
    insertedText text offset items = items.flatMap ReloadInsertion.text := by
  induction items with
  | nil => rfl
  | cons item rest ih =>
      rw [insertedText, here item List.mem_cons_self, cut_self, normalizeReloadFragment_nil,
        List.nil_append, ih fun other member => here other (List.mem_cons_of_mem _ member),
        List.flatMap_cons]

theorem lastOffset_at
    (here : ∀ item ∈ items, item.sourceOffset = offset) : lastOffset offset items = offset := by
  induction items with
  | nil => rfl
  | cons item rest ih =>
      rw [lastOffset, here item List.mem_cons_self]
      exact ih fun other member => here other (List.mem_cons_of_mem _ member)

/-- The insertions have a visible origin wherever they are derived. -/
def OriginsVisible (segments : List SourceMapSegment) (items : List ReloadInsertion) : Prop :=
  ∀ item ∈ items,
    insertionOrigin segments item = .ok (item.origin.bind (projectorAnchor segments))

theorem insertionOrigin_ok {item : ReloadInsertion} {origin : UnitAnchor}
    (found : insertionOrigin segments item = .ok origin) :
    origin = item.origin.bind (projectorAnchor segments) := by
  unfold insertionOrigin at found
  split at found
  · next none_left =>
      rw [none_left]
      exact (Except.ok.inj found).symm
  · next span given =>
      rw [given]
      split at found
      · cases found
      · next place anchored => exact (Except.ok.inj found).symm.trans anchored.symm

/-- The checkpoints total the inserted lengths at every offset. -/
structure Totals (items : List ReloadInsertion) (checkpoints : List ReloadMapCheckpoint) :
    Prop where
  total : ∀ offset,
    ((checkpoints.filter fun item => decide (item.sourceOffset ≤ offset)).map
      ReloadMapCheckpoint.insertedLength).sum = inserted items offset
  offsets : ∀ checkpoint ∈ checkpoints,
    ∃ item ∈ items, checkpoint.sourceOffset = item.sourceOffset
  sorted : checkpoints.Pairwise fun first second => first.sourceOffset ≤ second.sourceOffset

theorem Totals.append {first second : List ReloadInsertion}
    {before after : List ReloadMapCheckpoint} (left : Totals first before)
    (right : Totals second after)
    (sorted : (first ++ second).Pairwise fun one other => one.sourceOffset ≤ other.sourceOffset) :
    Totals (first ++ second) (before ++ after) := by
  constructor
  · intro offset
    rw [List.filter_append, List.map_append, List.sum_append, left.total, right.total,
      inserted_append]
  · intro checkpoint member
    rcases List.mem_append.mp member with inside | inside
    · obtain ⟨item, found, same⟩ := left.offsets checkpoint inside
      exact ⟨item, List.mem_append_left _ found, same⟩
    · obtain ⟨item, found, same⟩ := right.offsets checkpoint inside
      exact ⟨item, List.mem_append_right _ found, same⟩
  · refine List.pairwise_append.mpr ⟨left.sorted, right.sorted, fun one oneIn other otherIn => ?_⟩
    obtain ⟨item, found, same⟩ := left.offsets one oneIn
    obtain ⟨later, laterFound, laterSame⟩ := right.offsets other otherIn
    rw [same, laterSame]
    exact (List.pairwise_append.mp sorted).2.2 item found later laterFound

/-- What the loop adds to a state for a list of insertions. -/
structure CompactProgress (segments : List SourceMapSegment) (text : Text) (before : Nat)
    (state : CompactState) (items : List ReloadInsertion) (next : CompactState) : Prop where
  fragments : next.fragments = state.fragments ++ insertedText text state.sourceCursor items
  intervals :
    next.intervals = state.intervals ++ placedIntervals segments text before items
  generated : next.generatedCursor = kept text next.sourceCursor + (before + totalLength items)
  source : next.sourceCursor = lastOffset state.sourceCursor items
  visible : OriginsVisible segments items
  checkpoints : ∃ added, next.checkpoints = state.checkpoints ++ added ∧ Totals items added

variable {state : CompactState}

variable {next : CompactState}

theorem CompactProgress.trans {middle : CompactState}
    {first second : List ReloadInsertion}
    (left : CompactProgress segments text before state first middle)
    (right : CompactProgress segments text (before + totalLength first) middle second next)
    (sorted : (first ++ second).Pairwise fun one other => one.sourceOffset ≤ other.sourceOffset) :
    CompactProgress segments text before state (first ++ second) next := by
  constructor
  · rw [right.fragments, left.fragments, left.source, insertedText_append, List.append_assoc]
  · rw [right.intervals, left.intervals, placedIntervals_append, List.append_assoc]
  · rw [right.generated, totalLength_append, Nat.add_assoc before]
  · rw [right.source, left.source, lastOffset_append]
  · intro item member
    rcases List.mem_append.mp member with inside | inside
    · exact left.visible item inside
    · exact right.visible item inside
  · obtain ⟨early, earlySame, earlyTotals⟩ := left.checkpoints
    obtain ⟨late, lateSame, lateTotals⟩ := right.checkpoints
    refine ⟨early ++ late, ?_, earlyTotals.append lateTotals sorted⟩
    rw [lateSame, earlySame, List.append_assoc]

theorem compactMembers_ok (here : ∀ item ∈ items, item.sourceOffset = offset)
    (cursor : state.generatedCursor = kept text offset + before)
    (ran : items.foldlM (compactMember segments offset) state = .ok next) :
    next = { state with
        fragments := state.fragments ++ items.flatMap ReloadInsertion.text
        intervals := state.intervals ++ placedIntervals segments text before items
        generatedCursor := state.generatedCursor + totalLength items } ∧
      OriginsVisible segments items := by
  induction items generalizing state before with
  | nil =>
      obtain rfl := pure_eq_ok.mp ran
      constructor
      · simp [placedIntervals]
      · intro item member
        cases member
  | cons item rest ih =>
      rw [List.foldlM_cons] at ran
      obtain ⟨middle, member, later⟩ := bind_eq_ok.mp ran
      obtain ⟨origin, found, stepped⟩ := bind_eq_ok.mp member
      obtain rfl := pure_eq_ok.mp stepped
      have atOffset := here item List.mem_cons_self
      have same := insertionOrigin_ok found
      have moved : state.generatedCursor + item.generatedLength =
          kept text offset + (before + item.generatedLength) := by omega
      obtain ⟨final, visible⟩ := ih (fun other inside => here other (List.mem_cons_of_mem _ inside))
        moved later
      constructor
      · rw [final, placedIntervals, placedInterval, List.flatMap_cons, totalLength_cons,
          atOffset, ← same, ← cursor, ← List.append_assoc, List.append_assoc state.intervals,
          ← Nat.add_assoc]
        rfl
      · intro other inside
        rcases List.mem_cons.mp inside with rfl | inside
        · rw [found, same]
        · exact visible other inside

theorem totals_group {first : ReloadInsertion} {rest : List ReloadInsertion}
    (here : ∀ item ∈ first :: rest, item.sourceOffset = first.sourceOffset) (generated : Nat) :
    Totals (first :: rest)
      [⟨first.sourceOffset, generated, totalLength (first :: rest)⟩] := by
  constructor
  · intro offset
    by_cases reached : first.sourceOffset ≤ offset
    · rw [inserted_of_before fun item member => (here item member).trans_le reached]
      simp [reached]
    · rw [inserted_of_after fun item member => by rw [here item member]; omega]
      simp [reached]
  · intro checkpoint member
    obtain rfl := List.mem_singleton.mp member
    exact ⟨first, List.mem_cons_self, rfl⟩
  · exact List.pairwise_singleton _ _

/-- One turn of the outer loop. -/
theorem compactGroup_ok {group : List ReloadInsertion} (some_items : group ≠ [])
    (here : ∀ item ∈ group, ∀ other ∈ group, item.sourceOffset = other.sourceOffset)
    (ordered : Ordered text group)
    (lower : ∀ item ∈ group, state.sourceCursor ≤ item.sourceOffset)
    (clean : pairEnd text state.sourceCursor = false)
    (cursor : state.generatedCursor = kept text state.sourceCursor + before)
    (ran : compactGroup text segments state group = .ok next) :
    CompactProgress segments text before state group next := by
  cases group with
  | nil => exact (some_items rfl).elim
  | cons first rest =>
      have atFirst : ∀ item ∈ first :: rest, item.sourceOffset = first.sourceOffset :=
        fun item member => here item member first List.mem_cons_self
      obtain ⟨filled, members, stepped⟩ := bind_eq_ok.mp ran
      obtain rfl := pure_eq_ok.mp stepped
      have firstLower := lower first List.mem_cons_self
      have opened : state.appendOriginal text first.sourceOffset = { state with
          fragments := state.fragments ++
            normalizeReloadFragment (cut text state.sourceCursor first.sourceOffset)
          generatedCursor := kept text first.sourceOffset + before } := by
        have width := kept_cut firstLower (ordered.inside first List.mem_cons_self) clean
          (ordered.clean first List.mem_cons_self)
        unfold CompactState.appendOriginal
        split_ifs with moves
        · have moved : state.generatedCursor +
              (normalizeReloadFragment
                (cut text state.sourceCursor first.sourceOffset)).length =
              kept text first.sourceOffset + before := by omega
          rw [← moved]
        · have same : state.sourceCursor = first.sourceOffset := by omega
          rw [← same, cut_self, normalizeReloadFragment_nil, List.append_nil, ← cursor]
      rw [opened] at members
      obtain ⟨final, visible⟩ := compactMembers_ok atFirst rfl members
      subst final
      constructor
      · change _ = state.fragments ++ (normalizeReloadFragment _ ++ first.text ++ _)
        rw [insertedText_at fun item member => atFirst item (List.mem_cons_of_mem _ member),
          List.flatMap_cons]
        simp only [List.append_assoc]
      · rfl
      · exact Nat.add_assoc _ _ _
      · exact (lastOffset_at fun item member =>
          atFirst item (List.mem_cons_of_mem _ member)).symm
      · exact visible
      · exact ⟨_, rfl, totals_group atFirst _⟩

theorem lastOffset_mem (sourceCursor : Nat)
    (some_items : items ≠ []) :
    ∃ item ∈ items, lastOffset sourceCursor items = item.sourceOffset := by
  induction items generalizing sourceCursor with
  | nil => exact (some_items rfl).elim
  | cons item rest ih =>
      rw [lastOffset]
      cases rest with
      | nil => exact ⟨item, List.mem_cons_self, rfl⟩
      | cons next tail =>
          obtain ⟨other, member, same⟩ := ih item.sourceOffset (List.cons_ne_nil _ _)
          exact ⟨other, List.mem_cons_of_mem _ member, same⟩

theorem compactGroups_ok {groups : List (List ReloadInsertion)}
    (some_items : ∀ group ∈ groups, group ≠ [])
    (here : ∀ group ∈ groups, ∀ item ∈ group, ∀ other ∈ group,
      item.sourceOffset = other.sourceOffset)
    (ordered : Ordered text groups.flatten)
    (lower : ∀ item ∈ groups.flatten, state.sourceCursor ≤ item.sourceOffset)
    (clean : pairEnd text state.sourceCursor = false)
    (cursor : state.generatedCursor = kept text state.sourceCursor + before)
    (ran : groups.foldlM (compactGroup text segments) state = .ok next) :
    CompactProgress segments text before state groups.flatten next := by
  induction groups generalizing state before with
  | nil =>
      obtain rfl := pure_eq_ok.mp ran
      constructor
      · exact (List.append_nil _).symm
      · exact (List.append_nil _).symm
      · exact cursor
      · rfl
      · intro item member
        cases member
      · refine ⟨[], (List.append_nil _).symm, fun offset => rfl, ?_, List.Pairwise.nil⟩
        intro checkpoint member
        cases member
  | cons group rest ih =>
      rw [List.foldlM_cons] at ran
      obtain ⟨middle, first, later⟩ := bind_eq_ok.mp ran
      rw [List.flatten_cons] at ordered lower ⊢
      have group_items := some_items group List.mem_cons_self
      obtain ⟨sortedFirst, sortedRest, across⟩ := List.pairwise_append.mp ordered.sorted
      have orderedFirst : Ordered text group :=
        ⟨sortedFirst, fun item member => ordered.inside item (List.mem_append_left _ member),
          fun item member => ordered.clean item (List.mem_append_left _ member)⟩
      have orderedRest : Ordered text rest.flatten :=
        ⟨sortedRest, fun item member => ordered.inside item (List.mem_append_right _ member),
          fun item member => ordered.clean item (List.mem_append_right _ member)⟩
      have progress := compactGroup_ok group_items (here group List.mem_cons_self) orderedFirst
        (fun item member => lower item (List.mem_append_left _ member)) clean cursor first
      obtain ⟨reached, member, at_last⟩ := lastOffset_mem state.sourceCursor group_items
      have moved : middle.sourceCursor = reached.sourceOffset := progress.source.trans at_last
      refine progress.trans (ih (fun other inside => some_items other (List.mem_cons_of_mem _ inside))
        (fun other inside => here other (List.mem_cons_of_mem _ inside)) orderedRest ?_ ?_
        progress.generated later) ordered.sorted
      · intro item inside
        rw [moved]
        exact across reached member item inside
      · rw [moved]
        exact orderedFirst.clean reached member

/-- The insertions of one group are at one offset. -/
theorem insertionGroups_same {group : List ReloadInsertion}
    (member : group ∈ insertionGroups items) :
    ∀ item ∈ group, ∀ other ∈ group, item.sourceOffset = other.sourceOffset := by
  have chain := List.isChain_of_mem_splitBy member
  let same : ReloadInsertion → ReloadInsertion → Prop :=
    fun first second => first.sourceOffset = second.sourceOffset
  have equal : group.IsChain same := chain.imp fun _ _ decided => of_decide_eq_true decided
  have : IsTrans ReloadInsertion same := ⟨fun _ _ _ => Eq.trans⟩
  have pairs : group.Pairwise same := List.isChain_iff_pairwise.mp equal
  have flipped : group.Pairwise (flip same) := pairs.imp fun together => Eq.symm together
  have all : ∀ ⦃item⦄, item ∈ group → ∀ ⦃other⦄, other ∈ group → same item other :=
    pairs.forall_of_forall_of_flip (fun _ _ => rfl) flipped
  exact fun item itemIn other otherIn => all itemIn otherIn

theorem flatten_insertionGroups (items : List ReloadInsertion) :
    (insertionGroups items).flatten = items :=
  List.flatten_splitBy _ _

/-! ## Offsets from checkpoints -/

variable {checkpoints : List ReloadMapCheckpoint}

theorem insertedAfter_getElem? (cumulative : Nat)
    {index : Nat} (inside : index < checkpoints.length) :
    (insertedAfter cumulative checkpoints)[index]? =
      some (cumulative +
        ((checkpoints.take (index + 1)).map ReloadMapCheckpoint.insertedLength).sum) := by
  induction checkpoints generalizing cumulative index with
  | nil => cases inside
  | cons first rest ih =>
      rw [insertedAfter]
      cases index with
      | zero => simp
      | succ index =>
          rw [List.getElem?_cons_succ, ih _ (Nat.lt_of_succ_lt_succ inside), List.take_succ_cons,
            List.map_cons, List.sum_cons, Nat.add_assoc]

theorem Totals.insertedAt (totals : Totals items checkpoints) (offset : Nat) :
    insertedAt checkpoints offset = inserted items offset := by
  have sorted : (checkpoints.map ReloadMapCheckpoint.sourceOffset).Pairwise (· ≤ ·) :=
    List.pairwise_map.mpr totals.sorted
  rw [← totals.total offset, ← take_bisectRight sorted offset, Reload.insertedAt]
  split
  · next zero =>
      rw [zero]
      rfl
  · next index bisected =>
      obtain ⟨element, selected, _⟩ := bisectRight_get bisected
      have inside : index < checkpoints.length := by
        have bound := (List.getElem?_eq_some_iff.mp selected).1
        rwa [List.length_map] at bound
      rw [insertedAfter_getElem? 0 inside, bisected, Nat.zero_add]
      rfl

theorem Totals.originalToGenerated (totals : Totals items checkpoints) (offset : Nat) :
    originalToGenerated checkpoints (lineEndingIndex 0 text) offset = place text items offset := by
  have removed : kept text offset +
      bisectBefore (crlfLfOffsets (lineEndingIndex 0 text)) offset = offset :=
    bisectBefore_crlf offset
  rw [Reload.originalToGenerated, place, totals.insertedAt]
  omega

/-- What the compact loop returns. -/
theorem compactLoop_ok (ordered : Ordered text items)
    (ran : compactLoop text segments items = .ok state) :
    state.fragments = insertedText text 0 items ++
        normalizeReloadFragment (cut text (lastOffset 0 items) text.length) ∧
      state.intervals = placedIntervals segments text 0 items ∧
      OriginsVisible segments items ∧ Totals items state.checkpoints := by
  obtain ⟨reached, groups, finished⟩ := bind_eq_ok.mp ran
  have flat := flatten_insertionGroups items
  have progress : CompactProgress segments text 0 ⟨[], [], [], 0, 0⟩
      (insertionGroups items).flatten reached :=
    compactGroups_ok (fun group member => List.ne_nil_of_mem_splitBy member)
      (fun group member => insertionGroups_same member) (flat.symm ▸ ordered)
      (fun _ _ => Nat.zero_le _) pairEnd_zero rfl groups
  rw [flat] at progress
  obtain ⟨added, same, totals⟩ := progress.checkpoints
  obtain rfl := pure_eq_ok.mp finished
  have source : reached.sourceCursor = lastOffset 0 items := progress.source
  unfold CompactState.appendOriginal
  split_ifs with moves
  · refine ⟨?_, progress.intervals, progress.visible, ?_⟩
    · change reached.fragments ++ _ = _
      rw [progress.fragments, source]
      rfl
    · change Totals items reached.checkpoints
      rw [same]
      exact totals
  · refine ⟨?_, progress.intervals, progress.visible, ?_⟩
    · have empty : cut text (lastOffset 0 items) text.length = [] := by
        rw [cut, List.drop_of_length_le (by omega), List.take_nil]
      rw [progress.fragments, empty, normalizeReloadFragment_nil, List.append_nil]
      rfl
    · rw [same]
      exact totals

end OnecRuntime.Reload
