import OnecRuntime.Library.Dictionary

/-!
# Holders and what they hold

A dictionary that gives holders lists of items. What a holder holds is looked up, replaced, given
up, and taken away from all holders at once, and an item that is given out only when no other
holder has it is never held by two.
-/

namespace OnecRuntime.Library

abbrev Holdings (κ ι : Type) := Dictionary κ (List ι)

namespace Holdings

variable {κ ι : Type} [DecidableEq κ] {holdings : Holdings κ ι} {holder other : κ}
  {items removed : List ι} {item : ι}

def held (holdings : Holdings κ ι) (holder : κ) : List ι := (holdings.get? holder).getD []

theorem mem_held : item ∈ held holdings holder ↔
    ∃ items, (holder, items) ∈ holdings.entries ∧ item ∈ items := by
  constructor
  · intro inside
    cases found : holdings.get? holder with
    | none =>
      rw [held, found] at inside
      cases inside
    | some items =>
      rw [held, found] at inside
      exact ⟨items, Dictionary.get?_eq_some.1 found, inside⟩
  · rintro ⟨items, entry, inside⟩
    rw [held, Dictionary.get?_eq_some.2 entry]
    exact inside

@[simp] theorem held_set_same (holdings : Holdings κ ι) (holder : κ) (items : List ι) :
    held (holdings.set holder items) holder = items := by
  rw [held, Dictionary.get?_set_same]
  rfl

theorem held_set_other (holdings : Holdings κ ι) (items : List ι) (apart : other ≠ holder) :
    held (holdings.set holder items) other = held holdings other := by
  rw [held, held, Dictionary.get?_set_other holdings items apart]

@[simp] theorem held_erase_same (holdings : Holdings κ ι) (holder : κ) :
    held (holdings.erase holder) holder = [] := by
  rw [held, Dictionary.erase, Dictionary.get?_eraseAll_removed _ (List.mem_singleton_self _)]
  rfl

theorem held_erase_other (holdings : Holdings κ ι) (apart : other ≠ holder) :
    held (holdings.erase holder) other = held holdings other := by
  rw [held, held, Dictionary.erase,
    Dictionary.get?_eraseAll_kept _ (mt List.mem_singleton.1 apart)]

/-! ## Items that are taken away -/

section Discard

variable [DecidableEq ι]

/-- The items are taken away from every holder. -/
def discard (removed : List ι) (holdings : Holdings κ ι) : Holdings κ ι :=
  holdings.mapEntries fun _ items => items.filter (· ∉ removed)

theorem held_discard (removed : List ι) (holdings : Holdings κ ι) (holder : κ) :
    held (discard removed holdings) holder = (held holdings holder).filter (· ∉ removed) := by
  rw [held, held, discard, Dictionary.get?_mapEntries]
  cases holdings.get? holder with
  | none => rfl
  | some items => rfl

theorem mem_held_discard : item ∈ held (discard removed holdings) holder ↔
    item ∉ removed ∧ item ∈ held holdings holder := by
  rw [held_discard, List.mem_filter, decide_eq_true_eq, and_comm]

/-- Some other holder has the item. -/
def heldElsewhere (holdings : Holdings κ ι) (holder : κ) (item : ι) : Bool :=
  holdings.entries.any fun entry => decide (entry.1 ≠ holder) && decide (item ∈ entry.2)

theorem heldElsewhere_iff : heldElsewhere holdings holder item = true ↔
    ∃ other, other ≠ holder ∧ item ∈ held holdings other := by
  simp only [heldElsewhere, List.any_eq_true, Bool.and_eq_true, decide_eq_true_eq, mem_held]
  constructor
  · rintro ⟨⟨other, items⟩, entry, apart, inside⟩
    exact ⟨other, apart, items, entry, inside⟩
  · rintro ⟨other, apart, items, entry, inside⟩
    exact ⟨(other, items), entry, apart, inside⟩

end Discard

/-! ## Items of one holder -/

def Exclusive (holdings : Holdings κ ι) : Prop :=
  ∀ item holder other, item ∈ held holdings holder → item ∈ held holdings other → holder = other

theorem exclusive_empty : Exclusive (Dictionary.empty : Holdings κ ι) := by
  intro item holder other inside
  cases inside

/-- One holder is given items that nobody else has. -/
theorem Exclusive.replaced {later : Holdings κ ι} (exclusive : Exclusive holdings)
    (same : ∀ other, other ≠ holder → held later other = held holdings other)
    (free : ∀ item ∈ held later holder, ∀ other, other ≠ holder → item ∉ held holdings other) :
    Exclusive later := by
  intro item first second left right
  by_cases one : first = holder
  · by_cases two : second = holder
    · rw [one, two]
    · subst one
      rw [same second two] at right
      exact absurd right (free item left second two)
  · rw [same first one] at left
    by_cases two : second = holder
    · subst two
      exact absurd left (free item right first one)
    · rw [same second two] at right
      exact exclusive item first second left right

end Holdings

end OnecRuntime.Library
