import Mathlib.Data.List.Sort
import Mathlib.Data.Prod.Lex
import Mathlib.Data.String.Basic

/-!
# Sorting by a key

A stable sort by a key in a linear order.  On elements with different keys the
sorted list depends only on which elements there are, and a list is sorted when
sorting it changes nothing.
-/

namespace OnecRuntime.Library

variable {α κ : Type*} [LinearOrder κ]

/-- `sorted(items, key=key)`. -/
def sortedBy (key : α → κ) (items : List α) : List α :=
  items.insertionSort fun first second => key first ≤ key second

theorem sortedBy_perm (key : α → κ) (items : List α) : (sortedBy key items).Perm items :=
  List.perm_insertionSort _ _

variable {key : α → κ} {items : List α}

@[simp] theorem mem_sortedBy {item : α} :
    item ∈ sortedBy key items ↔ item ∈ items :=
  (sortedBy_perm key items).mem_iff

theorem sortedBy_pairwise (key : α → κ) (items : List α) :
    (sortedBy key items).Pairwise fun first second => key first ≤ key second := by
  have total : Std.Total fun first second : α => key first ≤ key second :=
    ⟨fun first second => le_total (key first) (key second)⟩
  have trans : IsTrans α fun first second => key first ≤ key second :=
    ⟨fun _ _ _ lower upper => le_trans lower upper⟩
  exact List.pairwise_insertionSort _ _

/-- Elements with different keys are sorted in one way. -/
theorem sortedBy_eq_of_perm {first second : List α} (same : first.Perm second)
    (apart : ∀ one ∈ first, ∀ other ∈ first, key one = key other → one = other) :
    sortedBy key first = sortedBy key second := by
  refine @List.Perm.eq_of_pairwise _ (fun one other => key one ≤ key other) _ _ ?_ ?_ ?_ ?_
  · intro one other oneIn otherIn lower upper
    have here := mem_sortedBy.mp oneIn
    have there := same.mem_iff.mpr (mem_sortedBy.mp otherIn)
    exact apart one here other there (le_antisymm lower upper)
  · exact sortedBy_pairwise key first
  · exact sortedBy_pairwise key second
  · exact (sortedBy_perm key first).trans (same.trans (sortedBy_perm key second).symm)

/-- An element no larger than the others is inserted at the front. -/
theorem orderedInsert_front {item : α}
    (least : ∀ other ∈ items, key item ≤ key other) :
    items.orderedInsert (fun first second => key first ≤ key second) item = item :: items := by
  cases items with
  | nil => rfl
  | cons other rest => exact List.orderedInsert_cons_of_le _ _ (least other List.mem_cons_self)

theorem filter_orderedInsert (kept : α → Bool) (item : α)
    (ordered : items.Pairwise fun first second => key first ≤ key second) :
    (items.orderedInsert (fun first second => key first ≤ key second) item).filter kept =
      if kept item then
        (items.filter kept).orderedInsert (fun first second => key first ≤ key second) item
      else items.filter kept := by
  induction items with
  | nil => cases isKept : kept item <;> simp [isKept]
  | cons other rest ih =>
      obtain ⟨least, restOrdered⟩ := List.pairwise_cons.mp ordered
      by_cases before : key item ≤ key other
      · rw [List.orderedInsert_cons, if_pos before, List.filter_cons]
        split
        · rw [orderedInsert_front]
          intro later member
          rcases List.mem_cons.mp (List.mem_of_mem_filter member) with rfl | inRest
          · exact before
          · exact before.trans (least later inRest)
        · rfl
      · rw [List.orderedInsert_cons, if_neg before, List.filter_cons, List.filter_cons,
          ih restOrdered]
        cases kept item <;> cases kept other <;> simp [List.orderedInsert_cons, before]

/-- Sorting and then keeping some elements is keeping them and then sorting. -/
theorem filter_sortedBy (key : α → κ) (kept : α → Bool) (items : List α) :
    (sortedBy key items).filter kept = sortedBy key (items.filter kept) := by
  induction items with
  | nil => rfl
  | cons item rest ih =>
      calc (sortedBy key (item :: rest)).filter kept
          = if kept item then
              ((sortedBy key rest).filter kept).orderedInsert
                (fun first second => key first ≤ key second) item
            else (sortedBy key rest).filter kept :=
            filter_orderedInsert kept item (sortedBy_pairwise key rest)
        _ = sortedBy key ((item :: rest).filter kept) := by
            rw [ih, List.filter_cons]
            cases kept item <;> rfl

end OnecRuntime.Library
