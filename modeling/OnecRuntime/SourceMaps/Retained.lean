import OnecRuntime.SourceMaps.Segments

/-!
# Retained text

A transformed source keeps its text in fragments, so that later transforms can
copy from it without joining the text.  A request for a span bisects the
fragment starts, slices the fragments it meets, and fails unless they reach the
end of the span.
-/

namespace OnecRuntime.SourceMaps

open OnecRuntime.Library

/-- The number of carriage returns that a line feed follows. -/
def countPairs : Text → Nat
  | '\r' :: '\n' :: rest => countPairs rest + 1
  | _ :: rest => countPairs rest
  | [] => 0

structure LineEndings where
  carriageReturns : Nat
  lineFeeds : Nat
  pairs : Nat
  startsWithLineFeed : Bool
  endsWithCarriageReturn : Bool
  deriving DecidableEq, Repr

def lineEndingSummary (text : Text) : LineEndings where
  carriageReturns := text.count '\r'
  lineFeeds := text.count '\n'
  pairs := countPairs text
  startsWithLineFeed := text.head? == some '\n'
  endsWithCarriageReturn := text.getLast? == some '\r'

def localNulSummary (text : Text) : Bool := text.contains '\x00'

/--
A piece of retained text.  A fragment copied from another source names that
source and the span it was copied from.
-/
structure RetainedTextFragment where
  generated : SourceSpan
  text : Text
  retained : Option (Nat × SourceSpan) := none
  containsNul : Option Bool := none
  sized : text.length = generated.width

namespace RetainedTextFragment

def start (fragment : RetainedTextFragment) : Nat := fragment.generated.start

def stop (fragment : RetainedTextFragment) : Nat := fragment.generated.stop

/-- The summary the constructor computes, which slicing and copying keep true. -/
def lineEndings (fragment : RetainedTextFragment) : LineEndings := lineEndingSummary fragment.text

/-- A fragment at a place, as wide as its text. -/
def place (cursor : Nat) (text : Text) (retained : Option (Nat × SourceSpan))
    (containsNul : Option Bool) : RetainedTextFragment where
  generated := .ofWidth cursor text.length
  text := text
  retained := retained
  containsNul := containsNul
  sized := by
    unfold SourceSpan.width
    simp

@[simp] theorem place_start {cursor : Nat} {text : Text} {retained : Option (Nat × SourceSpan)}
    {containsNul : Option Bool} : (place cursor text retained containsNul).start = cursor := rfl

@[simp] theorem place_stop {cursor : Nat} {text : Text} {retained : Option (Nat × SourceSpan)}
    {containsNul : Option Bool} :
    (place cursor text retained containsNul).stop = cursor + text.length := rfl

end RetainedTextFragment

/-- The text that a list of fragments keeps. -/
def retainedText (fragments : List RetainedTextFragment) : Text :=
  fragments.flatMap RetainedTextFragment.text

/-- The fragments partition a text of the given length. -/
abbrev Partition (first last : Nat) (fragments : List RetainedTextFragment) : Prop :=
  Tiles RetainedTextFragment.start RetainedTextFragment.stop first last fragments

theorem length_retainedText {fragments : List RetainedTextFragment} {first last : Nat}
    (parts : Partition first last fragments) :
    (retainedText fragments).length = last - first := by
  induction fragments generalizing first with
  | nil =>
      have same : first = last := parts
      rw [same, Nat.sub_self]
      rfl
  | cons fragment rest ih =>
      obtain ⟨start, ordered, inner⟩ := parts
      have sized := fragment.sized
      have upper := inner.le
      unfold SourceSpan.width at sized
      change fragment.text.length = fragment.stop - fragment.start at sized
      unfold retainedText
      rw [List.flatMap_cons, List.length_append, sized]
      change _ + (retainedText rest).length = _
      rw [ih inner]
      omega

/-- The adjacency check over neighbouring fragments. -/
def contiguous : List RetainedTextFragment → Bool
  | fragment :: next :: rest => decide (fragment.stop = next.start) && contiguous (next :: rest)
  | _ => true

/-- `_validate_retained_fragments`, without the proof of authority. -/
def validRetainedFragments (artifact : SourceArtifactRef)
    (fragments : List RetainedTextFragment) : Bool :=
  match fragments.head?, fragments.getLast? with
  | some first, some last =>
      decide (first.start = 0) && decide (last.stop = artifact.characterLength) &&
        contiguous fragments
  | _, _ => false

theorem partition_of_contiguous {fragment last : RetainedTextFragment}
    {rest : List RetainedTextFragment} (adjacent : contiguous (fragment :: rest) = true)
    (final : (fragment :: rest).getLast? = some last) :
    Partition fragment.start last.stop (fragment :: rest) := by
  induction rest generalizing fragment with
  | nil =>
      obtain rfl := Option.some.inj final
      exact ⟨rfl, fragment.generated.ordered, rfl⟩
  | cons next rest ih =>
      unfold contiguous at adjacent
      rw [Bool.and_eq_true, decide_eq_true_iff] at adjacent
      have final' : (next :: rest).getLast? = some last := by
        rw [List.getLast?_cons_cons] at final
        exact final
      refine ⟨rfl, fragment.generated.ordered, ?_⟩
      rw [adjacent.1]
      exact ih adjacent.2 final'

theorem validRetainedFragments_partition {artifact : SourceArtifactRef}
    {fragments : List RetainedTextFragment}
    (valid : validRetainedFragments artifact fragments = true) :
    Partition 0 artifact.characterLength fragments := by
  unfold validRetainedFragments at valid
  split at valid
  · next first last firstIs lastIs =>
      simp only [Bool.and_eq_true, decide_eq_true_iff] at valid
      cases fragments with
      | nil => cases firstIs
      | cons fragment rest =>
          obtain rfl := Option.some.inj firstIs
          rw [← valid.1.1, ← valid.1.2]
          exact partition_of_contiguous valid.2 lastIs
  · cases valid

/--
A mapped source, or a deferred one, which has no joined text.  What the
constructors check is carried by the fields; the keyed proofs of the source
only keep other code from building values these fields exclude.
-/
structure MappedSource where
  objectId : Nat
  artifact : SourceArtifactRef
  sourceMap : SourceMap
  lineage : List SourceMap
  localSourceMap : Option SourceMap
  retainedFragments : List RetainedTextFragment
  text : Option Text
  mapped : sourceMap.generated = artifact
  flattened : ∀ segment ∈ sourceMap.segments, flattenedSegment segment = true
  partition : Partition 0 artifact.characterLength retainedFragments

namespace MappedSource

def retainedStarts (source : MappedSource) : List Nat :=
  source.retainedFragments.map RetainedTextFragment.start

/-- The text the fragments of a source keep. -/
def content (source : MappedSource) : Text := retainedText source.retainedFragments

theorem length_content (source : MappedSource) :
    source.content.length = source.artifact.characterLength :=
  length_retainedText source.partition

end MappedSource

/-! ## The fragments of a span -/

/-- The part of one fragment between two offsets of its source. -/
def retainedPiece (source : MappedSource) (scanLocalNul : Bool) (cursor start stop : Nat)
    (fragment : RetainedTextFragment) : RetainedTextFragment :=
  let localStart := start - fragment.start
  let localStop := stop - fragment.start
  let retained := match fragment.retained with
    | none => some (source.objectId, .ofWidth start (stop - start))
    | some (origin, span) =>
        some (origin, .ofWidth (span.start + localStart) (localStop - localStart))
  if localStart = 0 ∧ localStop = fragment.text.length then
    .place cursor fragment.text retained fragment.containsNul
  else
    let text := (fragment.text.drop localStart).take (localStop - localStart)
    .place cursor text retained
      (if scanLocalNul then some (localNulSummary text) else fragment.containsNul)

/-- The loop over the fragments from the bisected one on; it returns the final cursor. -/
def collectRetained (source : MappedSource) (span : SourceSpan) (scanLocalNul : Bool) :
    Nat → List RetainedTextFragment → List RetainedTextFragment × Nat
  | cursor, [] => ([], cursor)
  | cursor, fragment :: rest =>
      if span.stop ≤ fragment.start then ([], cursor)
      else
        let start := max fragment.start span.start
        let stop := min fragment.stop span.stop
        if stop ≤ start then collectRetained source span scanLocalNul cursor rest
        else
          let piece := retainedPiece source scanLocalNul cursor start stop fragment
          let others := collectRetained source span scanLocalNul (cursor + piece.text.length) rest
          (piece :: others.1, others.2)

def retainedFragmentsForSpan (source : MappedSource) (span : SourceSpan) (scanLocalNul : Bool) :
    SourceResult (List RetainedTextFragment) :=
  if source.artifact.characterLength < span.stop then
    .error "retained fragment span must be within the source"
  else
    let index := bisectRight source.retainedStarts span.start - 1
    let collected := collectRetained source span scanLocalNul span.start
      (source.retainedFragments.drop index)
    if collected.2 ≠ span.stop then
      .error "retained fragments do not cover the requested span"
    else .ok collected.1

/-! ## What a request returns -/

theorem retainedPiece_start (source : MappedSource) (scanLocalNul : Bool)
    (cursor start stop : Nat) (fragment : RetainedTextFragment) :
    (retainedPiece source scanLocalNul cursor start stop fragment).start = cursor := by
  unfold retainedPiece
  dsimp only
  split_ifs <;> rfl

theorem retainedPiece_text (source : MappedSource) (scanLocalNul : Bool)
    (cursor start stop : Nat) (fragment : RetainedTextFragment) :
    (retainedPiece source scanLocalNul cursor start stop fragment).text =
      (fragment.text.drop (start - fragment.start)).take
        (stop - fragment.start - (start - fragment.start)) := by
  unfold retainedPiece
  dsimp only
  by_cases whole : start - fragment.start = 0 ∧ stop - fragment.start = fragment.text.length
  · rw [if_pos whole, whole.1, whole.2, Nat.sub_zero, List.drop_zero, List.take_length]
    rfl
  · rw [if_neg whole]
    rfl

/-- A cut of two joined texts is the cut of the first and the rest of it in the second. -/
theorem cut_append (first second : Text) (start width : Nat) :
    ((first ++ second).drop start).take width =
      (first.drop start).take width ++
        (second.drop (start - first.length)).take (width - (first.length - start)) := by
  rw [List.drop_append, List.take_append, List.length_drop]

section Collect

variable (source : MappedSource) (span : SourceSpan) (scanLocalNul : Bool)

/-- The loop turns consecutive fragments into a partition of the part of the span they hold. -/
theorem collectRetained_spec {fragments : List RetainedTextFragment} {first last : Nat}
    (parts : Partition first last fragments) :
    ∃ pieces, collectRetained source span scanLocalNul (span.clamp first) fragments =
        (pieces, span.clamp last) ∧
      Partition (span.clamp first) (span.clamp last) pieces ∧
      retainedText pieces = ((retainedText fragments).drop (span.clamp first - first)).take
        (span.clamp last - span.clamp first) := by
  have spanOrdered := span.ordered
  induction fragments generalizing first with
  | nil =>
      have same : first = last := parts
      subst same
      refine ⟨[], rfl, rfl, ?_⟩
      rw [Nat.sub_self, List.take_zero]
      rfl
  | cons fragment rest ih =>
      obtain ⟨start, ordered, inner⟩ := parts
      have upper := inner.le
      have sized := fragment.sized
      change fragment.text.length = fragment.stop - fragment.start at sized
      obtain ⟨others, collected, partition, text⟩ := ih inner
      have joined : retainedText (fragment :: rest) = fragment.text ++ retainedText rest :=
        List.flatMap_cons ..
      have cut := cut_append fragment.text (retainedText rest) (span.clamp first - first)
        (span.clamp last - span.clamp first)
      rw [sized] at cut
      unfold collectRetained
      dsimp only
      rw [joined, cut]
      by_cases beyond : span.stop ≤ fragment.start
      · rw [if_pos beyond]
        have stays : span.clamp first = span.clamp last := by
          unfold SourceSpan.clamp
          omega
        refine ⟨[], by rw [stays], stays, ?_⟩
        rw [stays, Nat.sub_self, Nat.zero_sub, List.take_zero, List.take_zero]
        rfl
      · rw [if_neg beyond]
        by_cases apart : min fragment.stop span.stop ≤ max fragment.start span.start
        · have skipped : span.clamp fragment.stop = span.clamp first := by
            unfold SourceSpan.clamp
            omega
          rw [if_pos apart]
          refine ⟨others, by rw [← skipped, collected], by rw [← skipped]; exact partition, ?_⟩
          rw [text, skipped]
          have passed : fragment.stop ≤ span.clamp first ∨ span.clamp last = span.clamp first := by
            unfold SourceSpan.clamp
            omega
          rcases passed with passed | empty
          · rw [List.drop_eq_nil_of_le (by omega : fragment.text.length ≤ _), List.take_nil,
              List.nil_append]
            have offset : span.clamp first - first - (fragment.stop - fragment.start) =
                span.clamp first - fragment.stop := by omega
            have width : span.clamp last - span.clamp first -
                (fragment.stop - fragment.start - (span.clamp first - first)) =
                span.clamp last - span.clamp first := by omega
            rw [offset, width]
          · simp only [empty, Nat.sub_self, Nat.zero_sub, List.take_zero, List.append_nil]
        · rw [if_neg apart]
          have begins : max fragment.start span.start = span.clamp first := by
            unfold SourceSpan.clamp
            omega
          have ends : min fragment.stop span.stop = span.clamp fragment.stop := by
            unfold SourceSpan.clamp
            omega
          rw [begins, ends]
          have pieceStart := retainedPiece_start source scanLocalNul (span.clamp first)
            (span.clamp first) (span.clamp fragment.stop) fragment
          have pieceText := retainedPiece_text source scanLocalNul (span.clamp first)
            (span.clamp first) (span.clamp fragment.stop) fragment
          generalize retainedPiece source scanLocalNul (span.clamp first) (span.clamp first)
            (span.clamp fragment.stop) fragment = piece at pieceStart pieceText ⊢
          have pieceSized := piece.sized
          have pieceOrdered : piece.start ≤ piece.stop := piece.generated.ordered
          change piece.text.length = piece.stop - piece.start at pieceSized
          have inside : first ≤ span.clamp first ∧ span.clamp first < span.clamp fragment.stop ∧
              span.clamp fragment.stop ≤ fragment.stop ∧ span.clamp fragment.stop ≤ span.clamp last ∧
              (span.clamp fragment.stop = fragment.stop ∨
                span.clamp last = span.clamp fragment.stop) := by
            unfold SourceSpan.clamp
            omega
          have pieceWidth : piece.text.length = span.clamp fragment.stop - span.clamp first := by
            rw [pieceText, List.length_take, List.length_drop]
            omega
          have next : span.clamp first + piece.text.length = span.clamp fragment.stop := by omega
          have pieceStop : piece.stop = span.clamp fragment.stop := by omega
          refine ⟨piece :: others, ?_, ⟨pieceStart, by omega, pieceStop ▸ partition⟩, ?_⟩
          · rw [next, collected]
          · have split : retainedText (piece :: others) = piece.text ++ retainedText others :=
              List.flatMap_cons ..
            have width : span.clamp fragment.stop - fragment.start -
                (span.clamp first - fragment.start) =
                span.clamp fragment.stop - span.clamp first := by omega
            rw [split, text, pieceText, width, start]
            rcases inside.2.2.2.2 with whole | final
            · have offset : span.clamp first - first - (fragment.stop - first) =
                  fragment.stop - fragment.stop := by omega
              have rest_width : span.clamp last - span.clamp first -
                  (fragment.stop - first - (span.clamp first - first)) =
                  span.clamp last - fragment.stop := by omega
              have to_end : ∀ width, fragment.stop - span.clamp first ≤ width →
                  (fragment.text.drop (span.clamp first - first)).take width =
                    fragment.text.drop (span.clamp first - first) := by
                intro width enough
                apply List.take_of_length_le
                rw [List.length_drop]
                omega
              rw [whole, offset, rest_width, to_end _ (by omega), to_end _ (by omega)]
            · have none_left : span.clamp fragment.stop - span.clamp first -
                  (fragment.stop - first - (span.clamp first - first)) = 0 := by omega
              rw [final, none_left, Nat.sub_self, List.take_zero, List.take_zero]

end Collect

/-- A request inside the source returns a partition of the span, with the text of the span. -/
theorem retainedFragmentsForSpan_ok (source : MappedSource) {span : SourceSpan}
    (scanLocalNul : Bool) (inside : span.stop ≤ source.artifact.characterLength) :
    ∃ pieces, retainedFragmentsForSpan source span scanLocalNul = .ok pieces ∧
      Partition span.start span.stop pieces ∧
      retainedText pieces = span.slice source.content := by
  have spanOrdered := span.ordered
  have parts := source.partition
  rw [← List.take_append_drop (bisectRight source.retainedStarts span.start - 1)
    source.retainedFragments] at parts
  obtain ⟨middle, before, after⟩ := Tiles.append_iff.mp parts
  have skipped : middle ≤ span.start := by
    cases bisected : bisectRight source.retainedStarts span.start with
    | zero =>
        rw [bisected] at before
        have same : 0 = middle := before
        omega
    | succ index =>
        obtain ⟨start, startIs, le⟩ := bisectRight_get bisected
        rw [MappedSource.retainedStarts, List.getElem?_map] at startIs
        obtain ⟨fragment, selected, rfl⟩ := Option.map_eq_some_iff.mp startIs
        rw [bisected, Nat.add_sub_cancel, List.drop_eq_getElem?_toList_append, selected] at after
        have here : fragment.start = middle := after.1
        omega
  obtain ⟨pieces, collected, partition, text⟩ :=
    collectRetained_spec source span scanLocalNul after
  have first : span.clamp middle = span.start := by
    unfold SourceSpan.clamp
    omega
  have last : span.clamp source.artifact.characterLength = span.stop := by
    unfold SourceSpan.clamp
    omega
  rw [first, last] at collected partition text
  refine ⟨pieces, ?_, partition, ?_⟩
  · unfold retainedFragmentsForSpan
    rw [if_neg (by omega)]
    dsimp only
    rw [collected, if_neg (by simp)]
  · have length := length_retainedText before
    have whole : source.content = retainedText (source.retainedFragments.take
        (bisectRight source.retainedStarts span.start - 1)) ++
        retainedText (source.retainedFragments.drop
          (bisectRight source.retainedStarts span.start - 1)) := by
      unfold retainedText MappedSource.content
      rw [← List.flatMap_append, List.take_append_drop]
      rfl
    have passed : (retainedText (source.retainedFragments.take
        (bisectRight source.retainedStarts span.start - 1))).drop span.start = [] :=
      List.drop_eq_nil_of_le (by omega)
    rw [text, whole, SourceSpan.slice, SourceSpan.width, List.drop_append, length, passed,
      List.nil_append, Nat.sub_zero]

end OnecRuntime.SourceMaps
