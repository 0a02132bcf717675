import Mathlib.Data.List.Basic
import Mathlib.Data.List.TakeDrop
import Mathlib.Data.List.Infix

/-!
# The differing middle of two lists

Two lists share some leading and some trailing elements; what is left between
them is the hunk an edit replaced.  The offsets at which one list arises from
the other by an insertion are an interval that ends at the number of shared
leading elements, so one comparison decides whether there is another one.
-/

namespace OnecRuntime.Library

variable {α : Type*} [DecidableEq α]

/-- The number of leading elements two lists share, up to a limit. -/
def agreeing : Nat → List α → List α → Nat
  | limit + 1, first :: firsts, second :: seconds =>
      if first = second then agreeing limit firsts seconds + 1 else 0
  | _, _, _ => 0

/-- The lists share this many leading elements. -/
def AgreeAt (length : Nat) (first second : List α) : Prop :=
  length ≤ first.length ∧ length ≤ second.length ∧ first.take length = second.take length

omit [DecidableEq α] in
theorem AgreeAt.zero (first second : List α) : AgreeAt 0 first second :=
  ⟨Nat.zero_le _, Nat.zero_le _, rfl⟩

variable {length : Nat} {first second : List α}

omit [DecidableEq α] in
theorem AgreeAt.comm (agree : AgreeAt length first second) :
    AgreeAt length second first :=
  ⟨agree.2.1, agree.1, agree.2.2.symm⟩

omit [DecidableEq α] in
theorem AgreeAt.shorter {shorter : Nat}
    (agree : AgreeAt length first second) (le : shorter ≤ length) :
    AgreeAt shorter first second := by
  refine ⟨le.trans agree.1, le.trans agree.2.1, ?_⟩
  have cut := congrArg (List.take shorter) agree.2.2
  rwa [List.take_take, List.take_take, Nat.min_eq_left le] at cut

omit [DecidableEq α] in
theorem agreeAt_succ_cons {first second : α} {firsts seconds : List α} :
    AgreeAt (length + 1) (first :: firsts) (second :: seconds) ↔
      first = second ∧ AgreeAt length firsts seconds := by
  simp only [AgreeAt, List.length_cons, List.take_succ_cons, List.cons.injEq,
    Nat.add_le_add_iff_right]
  tauto

omit [DecidableEq α] in
/-- One more shared element: the elements there are the same. -/
theorem agreeAt_succ :
    AgreeAt (length + 1) first second ↔
      AgreeAt length first second ∧ length < first.length ∧ first[length]? = second[length]? := by
  induction first generalizing second length with
  | nil => simp [AgreeAt]
  | cons head firsts ih =>
      cases second with
      | nil =>
          constructor
          · rintro ⟨_, short, _⟩
            exact absurd short (Nat.not_succ_le_zero _)
          · rintro ⟨_, inside, same⟩
            have found : (head :: firsts)[length]? = none := same
            exact absurd inside (Nat.not_lt.mpr (List.getElem?_eq_none_iff.mp found))
      | cons other seconds =>
          rw [agreeAt_succ_cons]
          cases length with
          | zero => simp [AgreeAt]
          | succ length =>
              rw [agreeAt_succ_cons, ih]
              simp only [List.length_cons, Nat.add_lt_add_iff_right, List.getElem?_cons_succ]
              tauto

omit [DecidableEq α] in
theorem AgreeAt.get? {index : Nat}
    (agree : AgreeAt length first second) (inside : index < length) :
    first[index]? = second[index]? :=
  (agreeAt_succ.mp (agree.shorter inside)).2.2

/-- The count is the largest number within the limit at which the lists agree. -/
theorem le_agreeing_iff {limit : Nat} :
    length ≤ agreeing limit first second ↔ length ≤ limit ∧ AgreeAt length first second := by
  induction limit generalizing first second length with
  | zero =>
      rw [agreeing]
      · constructor
        · intro le
          obtain rfl := Nat.le_zero.mp le
          exact ⟨le, AgreeAt.zero _ _⟩
        · exact And.left
      · simp
  | succ limit ih =>
      cases length with
      | zero => simp [AgreeAt.zero]
      | succ length =>
          cases first with
          | nil => simp [agreeing, AgreeAt]
          | cons head firsts =>
              cases second with
              | nil => simp [agreeing, AgreeAt]
              | cons other seconds =>
                  rw [agreeing, agreeAt_succ_cons]
                  by_cases same : head = other
                  · rw [if_pos same, Nat.add_le_add_iff_right, ih, Nat.add_le_add_iff_right]
                    tauto
                  · rw [if_neg same]
                    constructor
                    · intro le
                      exact absurd le (Nat.not_succ_le_zero _)
                    · rintro ⟨_, equal, _⟩
                      exact absurd equal same

theorem agreeing_agrees (limit : Nat) (first second : List α) :
    AgreeAt (agreeing limit first second) first second :=
  (le_agreeing_iff.mp le_rfl).2

theorem agreeing_le_limit (limit : Nat) (first second : List α) :
    agreeing limit first second ≤ limit :=
  (le_agreeing_iff.mp le_rfl).1

/-- Counting does not depend on which list comes first. -/
theorem agreeing_comm (limit : Nat) (first second : List α) :
    agreeing limit first second = agreeing limit second first := by
  apply Nat.le_antisymm
  · exact le_agreeing_iff.mpr ⟨agreeing_le_limit .., (agreeing_agrees ..).comm⟩
  · exact le_agreeing_iff.mpr ⟨agreeing_le_limit .., (agreeing_agrees ..).comm⟩

/-- What is left between the shared leading and the shared trailing elements. -/
structure Hunk where
  leading : Nat
  trailing : Nat

/-- The shared leading elements first, then the trailing ones among the rest. -/
def hunk (old new : List α) : Hunk :=
  let leading := agreeing (min old.length new.length) old new
  { leading := leading
    trailing := agreeing (min (old.length - leading) (new.length - leading))
      old.reverse new.reverse }

theorem hunk_comm (old new : List α) : hunk old new = hunk new old := by
  simp only [hunk, agreeing_comm _ new old, agreeing_comm _ new.reverse old.reverse,
    Nat.min_comm new.length, Nat.min_comm (new.length - _)]

theorem hunk_leading (old new : List α) : AgreeAt (hunk old new).leading old new :=
  agreeing_agrees ..

theorem hunk_trailing (old new : List α) :
    AgreeAt (hunk old new).trailing old.reverse new.reverse :=
  agreeing_agrees ..

theorem hunk_fits (old new : List α) :
    (hunk old new).leading + (hunk old new).trailing ≤ old.length ∧
      (hunk old new).leading + (hunk old new).trailing ≤ new.length := by
  have leading := hunk_leading old new
  have trailing : (hunk old new).trailing ≤
      min (old.length - (hunk old new).leading) (new.length - (hunk old new).leading) :=
    agreeing_le_limit ..
  have first := leading.1
  have second := leading.2.1
  omega

variable {old new : List α}

/-- No shared beginning is longer than the one found. -/
theorem le_hunk_leading :
    length ≤ (hunk old new).leading ↔ AgreeAt length old new := by
  refine le_agreeing_iff.trans ⟨And.right, fun agree => ⟨?_, agree⟩⟩
  exact Nat.le_min.mpr ⟨agree.1, agree.2.1⟩

theorem le_hunk_trailing :
    length ≤ (hunk old new).trailing ↔
      (hunk old new).leading + length ≤ old.length ∧
        (hunk old new).leading + length ≤ new.length ∧
        AgreeAt length old.reverse new.reverse := by
  have first := (hunk_leading old new).1
  have second := (hunk_leading old new).2.1
  refine le_agreeing_iff.trans ?_
  change _ ≤ min (old.length - (hunk old new).leading) (new.length - (hunk old new).leading) ∧ _ ↔ _
  constructor
  · rintro ⟨within, agree⟩
    exact ⟨by omega, by omega, agree⟩
  · rintro ⟨withinOld, withinNew, agree⟩
    exact ⟨by omega, agree⟩

/-- No shared beginning and end together cover more than the ones found. -/
theorem hunk_covers {leading trailing : Nat}
    (begins : AgreeAt leading old new) (ends : AgreeAt trailing old.reverse new.reverse)
    (fitsOld : leading + trailing ≤ old.length) (fitsNew : leading + trailing ≤ new.length) :
    leading + trailing ≤ (hunk old new).leading + (hunk old new).trailing := by
  have longer : leading ≤ (hunk old new).leading := le_hunk_leading.mpr begins
  have first := (hunk_leading old new).1
  have second := (hunk_leading old new).2.1
  -- the found end is this one, unless the found beginning leaves less room for it
  by_cases room : (hunk old new).leading + trailing ≤ min old.length new.length
  · have found : trailing ≤ (hunk old new).trailing :=
      le_hunk_trailing.mpr ⟨by omega, by omega, ends⟩
    omega
  · have cut : min (old.length - (hunk old new).leading) (new.length - (hunk old new).leading) ≤
        (hunk old new).trailing :=
      le_hunk_trailing.mpr ⟨by omega, by omega, ends.shorter (by omega)⟩
    omega

omit [DecidableEq α] in
theorem agreeAt_append {begin firstRest secondRest : List α}
    (firsts : first = begin ++ firstRest) (seconds : second = begin ++ secondRest) :
    AgreeAt begin.length first second := by
  subst firsts seconds
  refine ⟨by simp, by simp, by simp⟩

/-- Inserting something at the offset turns the short list into the long one. -/
def InsertsAt (short long : List α) (offset : Nat) : Prop :=
  offset ≤ short.length ∧
    ∃ inserted, long = short.take offset ++ inserted ++ short.drop offset

variable {short long : List α} {offset : Nat}

omit [DecidableEq α] in
/-- An insertion fits where the lists agree on both sides of the offset. -/
theorem insertsAt_iff (le : offset ≤ short.length) :
    InsertsAt short long offset ↔
      short.length ≤ long.length ∧ AgreeAt offset short long ∧
        AgreeAt (short.length - offset) short.reverse long.reverse := by
  constructor
  · rintro ⟨_, inserted, rfl⟩
    refine ⟨?_, ?_, ?_⟩
    · simp only [List.length_append, List.length_take, List.length_drop]
      omega
    · have shared := agreeAt_append (List.take_append_drop offset short).symm
        (List.append_assoc (short.take offset) inserted (short.drop offset))
      rwa [List.length_take, Nat.min_eq_left le] at shared
    · have reversed : short.reverse = (short.drop offset).reverse ++ (short.take offset).reverse := by
        rw [← List.reverse_append, List.take_append_drop]
      have shared := agreeAt_append reversed
        (@List.reverse_append _ (short.take offset ++ inserted) (short.drop offset))
      rwa [List.length_reverse, List.length_drop] at shared
  · rintro ⟨shorter, begins, ends⟩
    refine ⟨le, (long.drop offset).take (long.length - short.length), ?_⟩
    have tail : short.drop offset = long.drop (long.length - (short.length - offset)) := by
      have reversed := congrArg List.reverse ends.2.2
      rw [List.take_reverse, List.take_reverse, List.reverse_reverse, List.reverse_reverse] at reversed
      rwa [Nat.sub_sub_self le] at reversed
    have middle : long.length - (short.length - offset) = offset + (long.length - short.length) := by
      omega
    rw [begins.2.2, tail, middle, ← List.drop_drop, List.append_assoc, List.take_append_drop,
      List.take_append_drop]

omit [DecidableEq α] in
theorem InsertsAt.length_lt (inserts : InsertsAt short long offset) (different : short ≠ long) :
    short.length < long.length := by
  obtain ⟨_, inserted, rfl⟩ := inserts
  cases inserted with
  | nil =>
      rw [List.append_nil, List.take_append_drop] at different
      exact absurd rfl different
  | cons element rest =>
      simp only [List.length_append, List.length_take, List.length_drop, List.length_cons]
      omega

/-- An insertion leaves nothing of the short list outside the shared parts. -/
theorem InsertsAt.hunk_covers_short (inserts : InsertsAt short long offset) :
    (hunk short long).leading + (hunk short long).trailing = short.length := by
  obtain ⟨shorter, begins, ends⟩ := (insertsAt_iff inserts.1).mp inserts
  have covered := hunk_covers begins ends (by have := inserts.1; omega)
    (by have := inserts.1; omega)
  have fits := (hunk_fits short long).1
  have le := inserts.1
  omega

theorem insertsAt_leading
    (covered : (hunk short long).leading + (hunk short long).trailing = short.length) :
    InsertsAt short long (hunk short long).leading := by
  have fits := (hunk_fits short long).2
  refine (insertsAt_iff (by omega)).mpr ⟨by omega, hunk_leading short long, ?_⟩
  have trailing := hunk_trailing short long
  rwa [show (hunk short long).trailing = short.length - (hunk short long).leading by omega]
    at trailing

/-- Another offset exists exactly when the inserted part ends with the element before it. -/
theorem existsUnique_insertsAt_iff
    (covered : (hunk short long).leading + (hunk short long).trailing = short.length) :
    (∃! offset, InsertsAt short long offset) ↔
      ¬ (0 < (hunk short long).leading ∧
        long[long.length - (hunk short long).trailing - 1]? =
          short[(hunk short long).leading - 1]?) := by
  have fits := (hunk_fits short long).2
  have best := insertsAt_leading covered
  constructor
  · rintro ⟨only, _, unique⟩ ⟨positive, same⟩
    -- the insertion moves one element to the left
    have longer : AgreeAt ((hunk short long).trailing + 1) short.reverse long.reverse := by
      refine agreeAt_succ.mpr ⟨hunk_trailing short long, ?_, ?_⟩
      · rw [List.length_reverse]
        omega
      · rw [List.getElem?_reverse (by omega), List.getElem?_reverse (by omega)]
        rw [show short.length - 1 - (hunk short long).trailing =
          (hunk short long).leading - 1 by omega,
          show long.length - 1 - (hunk short long).trailing =
            long.length - (hunk short long).trailing - 1 by omega]
        exact same.symm
    have moved : InsertsAt short long ((hunk short long).leading - 1) := by
      refine (insertsAt_iff (by omega)).mpr
        ⟨by omega, (hunk_leading short long).shorter (Nat.sub_le _ _), ?_⟩
      rwa [show short.length - ((hunk short long).leading - 1) =
        (hunk short long).trailing + 1 by omega]
    have equal := (unique _ moved).trans (unique _ best).symm
    omega
  · intro apart
    refine ⟨(hunk short long).leading, best, ?_⟩
    intro offset inserts
    obtain ⟨_, begins, ends⟩ := (insertsAt_iff inserts.1).mp inserts
    have le : offset ≤ (hunk short long).leading := le_hunk_leading.mpr begins
    by_contra different
    apply apart
    have longer : AgreeAt ((hunk short long).trailing + 1) short.reverse long.reverse :=
      ends.shorter (by omega)
    have same := (agreeAt_succ.mp longer).2.2
    rw [List.getElem?_reverse (by omega), List.getElem?_reverse (by omega)] at same
    refine ⟨by omega, ?_⟩
    rw [show long.length - (hunk short long).trailing - 1 =
      long.length - 1 - (hunk short long).trailing by omega, ← same]
    exact congrArg (short[·]?) (by omega)

/-- Behind the shared beginning the lists differ. -/
theorem hunk_leading_differs (inside : (hunk old new).leading < old.length) :
    old[(hunk old new).leading]? ≠ new[(hunk old new).leading]? := by
  intro same
  have longer : AgreeAt ((hunk old new).leading + 1) old new :=
    agreeAt_succ.mpr ⟨hunk_leading old new, inside, same⟩
  exact absurd (le_hunk_leading.mpr longer) (Nat.not_succ_le_self _)

/-- Shared trailing elements, counted from the front. -/
theorem hunk_trailing_get? {index : Nat}
    (inside : index < (hunk old new).trailing) :
    old[old.length - (hunk old new).trailing + index]? =
      new[new.length - (hunk old new).trailing + index]? := by
  have fitsOld := (hunk_fits old new).1
  have fitsNew := (hunk_fits old new).2
  have before : (hunk old new).trailing - 1 - index < (hunk old new).trailing := by omega
  have same := (hunk_trailing old new).get? before
  rw [List.getElem?_reverse (by omega), List.getElem?_reverse (by omega)] at same
  rw [show old.length - (hunk old new).trailing + index =
      old.length - 1 - ((hunk old new).trailing - 1 - index) by omega, same]
  exact congrArg (new[·]?) (by omega)

end OnecRuntime.Library
