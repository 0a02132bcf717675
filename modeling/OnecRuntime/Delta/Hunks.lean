import OnecRuntime.Library.Hunks
import OnecRuntime.Library.Json
import OnecRuntime.SourceMaps.Segments

/-!
# The one hunk between two module texts

The alignment of `bsl/module_delta.py`: a prefix scan, a suffix scan over what
the prefix left, and the refusal of an insertion or a deletion that repeated
characters could place elsewhere.
-/

namespace OnecRuntime.Delta

open OnecRuntime.Library OnecRuntime.SourceMaps

theorem hunk_leading_le_old (old new : CodeText) :
    (hunk old new).leading ≤ old.length - (hunk old new).trailing := by
  have fits := (hunk_fits old new).1
  omega

theorem hunk_leading_le_new (old new : CodeText) :
    (hunk old new).leading ≤ new.length - (hunk old new).trailing := by
  have fits := (hunk_fits old new).2
  omega

/-- The changed part of a text between the scans. -/
def changed (text : CodeText) (start stop : Nat) : CodeText :=
  (text.drop start).take (stop - start)

/-- The changed text continues its left or its right neighbour in the old text. -/
def slides (changed old : CodeText) (start stop : Nat) : Bool :=
  (0 < start && changed.getLast? = old[start - 1]?) ||
    (stop < old.length && changed.head? = old[stop]?)

/-- `_single_unambiguous_hunk`. -/
def singleUnambiguousHunk (old new : CodeText) : Option (SourceSpan × SourceSpan) :=
  if old = new then none
  else
    let leading := (hunk old new).leading
    let oldEnd := old.length - (hunk old new).trailing
    let newEnd := new.length - (hunk old new).trailing
    let oldChanged := changed old leading oldEnd
    let newChanged := changed new leading newEnd
    let spans :=
      (⟨leading, oldEnd, hunk_leading_le_old old new⟩,
        ⟨leading, newEnd, hunk_leading_le_new old new⟩)
    if oldChanged = [] ∧ newChanged ≠ [] then
      if slides newChanged old leading leading then none else some spans
    else if oldChanged ≠ [] ∧ newChanged = [] then
      if slides oldChanged old leading oldEnd then none else some spans
    else some spans

/-- Only an insertion separates the old text from the new one. -/
def PureInsertion (old new : CodeText) : Prop :=
  old ≠ new ∧ ∃ offset, InsertsAt old new offset

/-- Only a deletion separates the old text from the new one. -/
def PureDeletion (old new : CodeText) : Prop :=
  old ≠ new ∧ ∃ offset, InsertsAt new old offset

/-- What the returned spans say about the two texts. -/
structure ExactHunk (old new : CodeText) (oldSpan newSpan : SourceSpan) : Prop where
  starts : oldSpan.start = newSpan.start
  oldInside : oldSpan.stop ≤ old.length
  newInside : newSpan.stop ≤ new.length
  replaces : old.take oldSpan.start ++ (new.drop newSpan.start).take newSpan.width ++
    old.drop oldSpan.stop = new
  minimal : ∀ before oldMiddle newMiddle after,
    old = before ++ oldMiddle ++ after → new = before ++ newMiddle ++ after →
      oldSpan.width ≤ oldMiddle.length ∧ newSpan.width ≤ newMiddle.length

section Spans

variable (old new : CodeText)

/-- The spans on both sides of the scans. -/
def scannedSpans : SourceSpan × SourceSpan :=
  (⟨(hunk old new).leading, old.length - (hunk old new).trailing, hunk_leading_le_old old new⟩,
    ⟨(hunk old new).leading, new.length - (hunk old new).trailing, hunk_leading_le_new old new⟩)

theorem scannedSpans_replaces :
    old.take (hunk old new).leading ++
        (new.drop (hunk old new).leading).take
          (new.length - (hunk old new).trailing - (hunk old new).leading) ++
      old.drop (old.length - (hunk old new).trailing) = new := by
  have fits := (hunk_fits old new).2
  have head := (hunk_leading old new).2.2
  have tail := congrArg List.reverse (hunk_trailing old new).2.2
  rw [List.take_reverse, List.take_reverse, List.reverse_reverse, List.reverse_reverse] at tail
  have join : new.length - (hunk old new).trailing = (hunk old new).leading +
      (new.length - (hunk old new).trailing - (hunk old new).leading) := by omega
  calc
    _ = new.take (hunk old new).leading ++
          (new.drop (hunk old new).leading).take
            (new.length - (hunk old new).trailing - (hunk old new).leading) ++
        new.drop (new.length - (hunk old new).trailing) := by rw [head, tail]
    _ = new := by
        conv_lhs => rw [List.append_assoc]; arg 2; arg 2; rw [join]
        rw [← List.drop_drop, List.take_append_drop, List.take_append_drop]

theorem scannedSpans_exact :
    ExactHunk old new (scannedSpans old new).1 (scannedSpans old new).2 := by
  constructor
  · rfl
  · exact Nat.sub_le _ _
  · exact Nat.sub_le _ _
  · exact scannedSpans_replaces old new
  · intro before oldMiddle newMiddle after olds news
    have begins : AgreeAt before.length old new :=
      agreeAt_append (olds.trans (List.append_assoc ..)) (news.trans (List.append_assoc ..))
    have ends : AgreeAt after.reverse.length old.reverse new.reverse :=
      agreeAt_append ((congrArg List.reverse olds).trans List.reverse_append)
        ((congrArg List.reverse news).trans List.reverse_append)
    have oldLength := congrArg List.length olds
    have newLength := congrArg List.length news
    simp only [List.length_append] at oldLength newLength
    rw [List.length_reverse] at ends
    have covered := hunk_covers begins ends (by omega) (by omega)
    simp only [scannedSpans, SourceSpan.width]
    omega

variable {text : CodeText}

theorem changed_eq_nil {start stop : Nat} (inside : stop ≤ text.length) :
    changed text start stop = [] ↔ stop ≤ start := by
  rw [← List.length_eq_zero_iff, changed, List.length_take, List.length_drop]
  omega

theorem changed_head {start stop : Nat} (nonempty : start < stop) :
    (changed text start stop).head? = text[start]? := by
  rw [changed, List.head?_take, if_neg (by omega), List.head?_drop]

theorem changed_last {start stop : Nat} (nonempty : start < stop)
    (inside : stop ≤ text.length) : (changed text start stop).getLast? = text[stop - 1]? := by
  rw [changed, List.getLast?_eq_getElem?, List.length_take, List.length_drop, List.getElem?_take,
    if_pos (by omega), List.getElem?_drop]
  exact congrArg (text[·]?) (by omega)

/-- For an insertion only the left neighbour can repeat. -/
theorem slides_inserted
    (longer : (hunk old new).leading < new.length - (hunk old new).trailing) :
    slides (changed new (hunk old new).leading (new.length - (hunk old new).trailing)) old
        (hunk old new).leading (hunk old new).leading = true ↔
      0 < (hunk old new).leading ∧
        new[new.length - (hunk old new).trailing - 1]? = old[(hunk old new).leading - 1]? := by
  rw [slides, changed_last longer (Nat.sub_le _ _), changed_head longer]
  simp only [Bool.or_eq_true, Bool.and_eq_true, decide_eq_true_eq]
  constructor
  · rintro (left | ⟨inside, right⟩)
    · exact left
    · exact absurd right.symm (hunk_leading_differs inside)
  · exact Or.inl

/-- For a deletion the neighbours are read in the old text, which agrees there with the new one. -/
theorem slides_deleted
    (covered : (hunk old new).leading + (hunk old new).trailing = new.length)
    (longer : (hunk old new).leading < old.length - (hunk old new).trailing) :
    slides (changed old (hunk old new).leading (old.length - (hunk old new).trailing)) old
        (hunk old new).leading (old.length - (hunk old new).trailing) = true ↔
      0 < (hunk old new).leading ∧
        old[old.length - (hunk old new).trailing - 1]? = new[(hunk old new).leading - 1]? := by
  have fits := (hunk_fits old new).1
  rw [slides, changed_last longer (Nat.sub_le _ _), changed_head longer]
  simp only [Bool.or_eq_true, Bool.and_eq_true, decide_eq_true_eq]
  constructor
  · rintro (⟨positive, left⟩ | ⟨inside, right⟩)
    · refine ⟨positive, left.trans ?_⟩
      exact (hunk_leading old new).get? (Nat.sub_lt positive Nat.zero_lt_one)
    · have behind := @hunk_trailing_get? _ _ old new 0 (by omega)
      rw [Nat.add_zero, Nat.add_zero, ← right,
        show new.length - (hunk old new).trailing = (hunk old new).leading by omega] at behind
      exact absurd behind (hunk_leading_differs (by omega))
  · rintro ⟨positive, left⟩
    refine Or.inl ⟨positive, left.trans ?_⟩
    exact ((hunk_leading old new).get? (Nat.sub_lt positive Nat.zero_lt_one)).symm

/-- The result by the two lengths left between the scans. -/
theorem singleUnambiguousHunk_eq (different : old ≠ new) :
    singleUnambiguousHunk old new =
      if (hunk old new).leading + (hunk old new).trailing = old.length then
        if slides (changed new (hunk old new).leading (new.length - (hunk old new).trailing)) old
            (hunk old new).leading (hunk old new).leading then none
        else some (scannedSpans old new)
      else if (hunk old new).leading + (hunk old new).trailing = new.length then
        if slides (changed old (hunk old new).leading (old.length - (hunk old new).trailing)) old
            (hunk old new).leading (old.length - (hunk old new).trailing) then none
        else some (scannedSpans old new)
      else some (scannedSpans old new) := by
  have fitsOld := (hunk_fits old new).1
  have fitsNew := (hunk_fits old new).2
  have oldEmpty := @changed_eq_nil old (hunk old new).leading _
    (Nat.sub_le old.length (hunk old new).trailing)
  have newEmpty := @changed_eq_nil new (hunk old new).leading _
    (Nat.sub_le new.length (hunk old new).trailing)
  have notBoth : ¬ ((hunk old new).leading + (hunk old new).trailing = old.length ∧
      (hunk old new).leading + (hunk old new).trailing = new.length) := by
    rintro ⟨oldCovered, newCovered⟩
    have replaced := scannedSpans_replaces old new
    have kept := scannedSpans_replaces old old
    apply different
    have oldJoin : old.length - (hunk old new).trailing = (hunk old new).leading := by omega
    have newJoin : new.length - (hunk old new).trailing - (hunk old new).leading = 0 := by omega
    rw [oldJoin, newJoin, List.take_zero, List.append_nil, List.take_append_drop] at replaced
    exact replaced
  simp only [singleUnambiguousHunk, if_neg different, ne_eq, oldEmpty, newEmpty]
  by_cases oldCovered : (hunk old new).leading + (hunk old new).trailing = old.length
  · have newRest : ¬ (hunk old new).leading + (hunk old new).trailing = new.length :=
      fun newCovered => notBoth ⟨oldCovered, newCovered⟩
    rw [if_pos ⟨by omega, by omega⟩, if_pos oldCovered]
    rfl
  · rw [if_neg (by omega), if_neg oldCovered]
    by_cases newCovered : (hunk old new).leading + (hunk old new).trailing = new.length
    · rw [if_pos ⟨by omega, by omega⟩, if_pos newCovered]
      rfl
    · rw [if_neg (by omega), if_neg newCovered]
      rfl

/-- Whatever is returned is the pair of scanned spans. -/
theorem scanned_of_some {spans : SourceSpan × SourceSpan}
    (found : singleUnambiguousHunk old new = some spans) : spans = scannedSpans old new := by
  by_cases same : old = new
  · rw [singleUnambiguousHunk, if_pos same] at found
    cases found
  · rw [singleUnambiguousHunk_eq old new same] at found
    split_ifs at found <;> exact (Option.some.inj found).symm

theorem insertion_isSome_iff (insertion : PureInsertion old new) :
    (singleUnambiguousHunk old new).isSome ↔ ∃! offset, InsertsAt old new offset := by
  obtain ⟨different, offset, inserts⟩ := insertion
  have covered := inserts.hunk_covers_short
  have shorter := inserts.length_lt different
  have longer : (hunk old new).leading < new.length - (hunk old new).trailing := by omega
  rw [existsUnique_insertsAt_iff covered, ← slides_inserted old new longer,
    singleUnambiguousHunk_eq old new different, if_pos covered]
  split_ifs with slid
  · simp [slid]
  · simp [slid]

theorem deletion_isSome_iff (deletion : PureDeletion old new) :
    (singleUnambiguousHunk old new).isSome ↔ ∃! offset, InsertsAt new old offset := by
  obtain ⟨different, offset, inserts⟩ := deletion
  have covered := inserts.hunk_covers_short
  have shorter := inserts.length_lt (Ne.symm different)
  have unique := existsUnique_insertsAt_iff covered
  rw [hunk_comm] at covered unique
  have longer : (hunk old new).leading < old.length - (hunk old new).trailing := by omega
  rw [unique, ← slides_deleted old new covered longer,
    singleUnambiguousHunk_eq old new different, if_neg (by omega), if_pos covered]
  split_ifs with slid
  · simp [slid]
  · simp [slid]

/-- A replacement has one alignment only, so nothing is refused. -/
theorem replacement_isSome (different : old ≠ new) (notInserted : ¬ PureInsertion old new)
    (notDeleted : ¬ PureDeletion old new) : (singleUnambiguousHunk old new).isSome := by
  rw [singleUnambiguousHunk_eq old new different]
  have oldLeft : (hunk old new).leading + (hunk old new).trailing ≠ old.length := by
    intro covered
    exact notInserted ⟨different, _, insertsAt_leading covered⟩
  have newLeft : (hunk old new).leading + (hunk old new).trailing ≠ new.length := by
    rw [hunk_comm]
    intro covered
    exact notDeleted ⟨different, _, insertsAt_leading covered⟩
  rw [if_neg oldLeft, if_neg newLeft]
  rfl

end Spans

/-- What the alignment of two texts promises. -/
structure HunkLaw (old new : CodeText) : Prop where
  equal : old = new → singleUnambiguousHunk old new = none
  exact : ∀ oldSpan newSpan, singleUnambiguousHunk old new = some (oldSpan, newSpan) →
    ExactHunk old new oldSpan newSpan
  insertion : PureInsertion old new →
    ((singleUnambiguousHunk old new).isSome ↔ ∃! offset, InsertsAt old new offset)
  deletion : PureDeletion old new →
    ((singleUnambiguousHunk old new).isSome ↔ ∃! offset, InsertsAt new old offset)
  replacement : old ≠ new → ¬ PureInsertion old new → ¬ PureDeletion old new →
    (singleUnambiguousHunk old new).isSome

/-- Every hunk returned is exact, and none is returned only for equal texts and ambiguous edits. -/
theorem hunk_law (old new : CodeText) : HunkLaw old new := by
  constructor
  · intro same
    exact if_pos same
  · intro oldSpan newSpan found
    have scanned := scanned_of_some old new found
    have exact := scannedSpans_exact old new
    rwa [← scanned] at exact
  · exact insertion_isSome_iff old new
  · exact deletion_isSome_iff old new
  · exact replacement_isSome old new

/-- One more `a` among others can stand anywhere, and one more `b` after them cannot. -/
example : singleUnambiguousHunk (text "aa") (text "aaa") = none ∧
    (singleUnambiguousHunk (text "aa") (text "aab")).isSome := by
  decide

end OnecRuntime.Delta
