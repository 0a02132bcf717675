import Mathlib.Data.List.Basic
import Mathlib.Data.List.Sort
import Mathlib.Tactic.SplitIfs

/-!
# Bisection

On a sorted list the right insertion point is the number of leading elements
that do not exceed the key, which is what `bisect_right` returns.  The second
part is the search for the last index whose value does not exceed a bound.
-/

namespace OnecRuntime.Library

def bisectRight (keys : List Nat) (key : Nat) : Nat :=
  (keys.takeWhile (· ≤ key)).length

/-- `bisect_right` at the predecessor of a key, which is negative for the key zero. -/
def bisectBefore (keys : List Nat) (key : Nat) : Nat :=
  if key = 0 then 0 else bisectRight keys (key - 1)

theorem bisectRight_nil (key : Nat) : bisectRight [] key = 0 := rfl

theorem bisectRight_cons (first : Nat) (rest : List Nat) (key : Nat) :
    bisectRight (first :: rest) key = if first ≤ key then bisectRight rest key + 1 else 0 := by
  unfold bisectRight
  rw [List.takeWhile_cons]
  by_cases le : first ≤ key
  · simp [le]
  · simp [le]

variable {keys : List Nat} {key : Nat}

/-- The element before the insertion point does not exceed the key. -/
theorem bisectRight_get {index : Nat}
    (bisected : bisectRight keys key = index + 1) :
    ∃ element, keys[index]? = some element ∧ element ≤ key := by
  induction keys generalizing index with
  | nil => cases bisected
  | cons first rest ih =>
      rw [bisectRight_cons] at bisected
      split_ifs at bisected with le
      cases index with
      | zero => exact ⟨first, rfl, le⟩
      | succ index => exact ih (Nat.succ.inj bisected)

/-- Over sorted keys the bisected index is past exactly the keys up to the given one. -/
theorem lt_bisectRight_iff (sorted : keys.Pairwise (· ≤ ·)) {index : Nat} :
    index < bisectRight keys key ↔ ∃ element, keys[index]? = some element ∧ element ≤ key := by
  induction keys generalizing index with
  | nil => simp [bisectRight_nil]
  | cons first rest ih =>
      obtain ⟨below, inner⟩ := List.pairwise_cons.mp sorted
      rw [bisectRight_cons]
      by_cases le : first ≤ key
      · rw [if_pos le]
        cases index with
        | zero => simpa using le
        | succ index =>
            rw [List.getElem?_cons_succ, Nat.succ_lt_succ_iff]
            exact ih inner
      · rw [if_neg le]
        refine iff_of_false (Nat.not_lt_zero _) ?_
        rintro ⟨element, found, small⟩
        cases index with
        | zero =>
            obtain rfl := Option.some.inj found
            exact le small
        | succ index =>
            have bound := below element (List.mem_of_getElem? found)
            omega

theorem bisectRight_monotone (sorted : keys.Pairwise (· ≤ ·)) :
    Monotone (bisectRight keys) := by
  intro lower upper le
  by_contra shrinks
  obtain ⟨element, found, small⟩ := (lt_bisectRight_iff sorted).mp (Nat.lt_of_not_le shrinks)
  exact Nat.lt_irrefl _ ((lt_bisectRight_iff sorted).mpr ⟨element, found, small.trans le⟩)

theorem bisectRight_eq_zero (above : ∀ other ∈ keys, key < other) :
    bisectRight keys key = 0 := by
  cases keys with
  | nil => rfl
  | cons first rest =>
      have beyond := above first List.mem_cons_self
      rw [bisectRight_cons, if_neg (by omega)]

variable {α : Type}

variable {elements : List α} {value : α → Nat}

/-- On a sorted list the elements before the insertion point are those up to the key. -/
theorem take_bisectRight (sorted : (elements.map value).Pairwise (· ≤ ·)) (key : Nat) :
    elements.take (bisectRight (elements.map value) key) =
      elements.filter fun element => decide (value element ≤ key) := by
  induction elements with
  | nil => rfl
  | cons first rest ih =>
      rw [List.map_cons, List.pairwise_cons] at sorted
      rw [List.map_cons, bisectRight_cons, List.filter_cons]
      by_cases le : value first ≤ key
      · rw [if_pos le, if_pos (decide_eq_true le), List.take_succ_cons, ih sorted.2]
      · rw [if_neg le, if_neg (by simpa using le), List.take_zero]
        symm
        refine List.filter_eq_nil_iff.mpr fun other member => ?_
        have beyond := sorted.1 (value other) (List.mem_map_of_mem member)
        rw [decide_eq_true_iff]
        omega

theorem drop_bisectBefore (sorted : (elements.map value).Pairwise (· ≤ ·)) (key : Nat) :
    elements.drop (bisectBefore (elements.map value) key) =
      elements.filter fun element => decide (key ≤ value element) := by
  unfold bisectBefore
  by_cases zero : key = 0
  · rw [if_pos zero, List.drop_zero]
    symm
    refine List.filter_eq_self.mpr fun element _ => decide_eq_true ?_
    omega
  rw [if_neg zero]
  induction elements with
  | nil => rfl
  | cons first rest ih =>
      rw [List.map_cons, List.pairwise_cons] at sorted
      rw [List.map_cons, bisectRight_cons, List.filter_cons]
      by_cases le : value first ≤ key - 1
      · rw [if_pos le, if_neg (by rw [decide_eq_true_iff]; omega), List.drop_succ_cons, ih sorted.2]
      · rw [if_neg le, if_pos (by rw [decide_eq_true_iff]; omega), List.drop_zero]
        congr 1
        symm
        refine List.filter_eq_self.mpr fun other member => decide_eq_true ?_
        have beyond := sorted.1 (value other) (List.mem_map_of_mem member)
        omega

variable {element : α}

/-- On a sorted list a prefix below a bound holds all elements below it. -/
theorem mem_takeWhile_sorted (value : α → Nat)
    (sorted : (elements.map value).Pairwise (· < ·)) {bound : Nat} :
    element ∈ elements.takeWhile (fun other => decide (value other < bound)) ↔
      element ∈ elements ∧ value element < bound := by
  induction elements with
  | nil => simp
  | cons first rest ih =>
      rw [List.map_cons, List.pairwise_cons] at sorted
      rw [List.takeWhile_cons]
      by_cases below : value first < bound
      · rw [if_pos (decide_eq_true below), List.mem_cons, List.mem_cons, ih sorted.2]
        constructor
        · rintro (rfl | ⟨inside, less⟩)
          · exact ⟨.inl rfl, below⟩
          · exact ⟨.inr inside, less⟩
        · rintro ⟨rfl | inside, less⟩
          · exact .inl rfl
          · exact .inr ⟨inside, less⟩
      · rw [if_neg (by simpa using below)]
        constructor
        · intro impossible
          cases impossible
        · rintro ⟨member, less⟩
          rcases List.mem_cons.mp member with rfl | inside
          · exact absurd less below
          · have beyond := sorted.1 (value element) (List.mem_map_of_mem inside)
            omega

/-- On a sorted list the elements before the insertion point are counted. -/
theorem bisectBefore_eq_countP (sorted : keys.Pairwise (· ≤ ·)) (key : Nat) :
    bisectBefore keys key = keys.countP fun other => decide (other < key) := by
  unfold bisectBefore
  by_cases zero : key = 0
  · rw [if_pos zero]
    symm
    refine List.countP_eq_zero.mpr fun other _ => ?_
    rw [decide_eq_true_iff]
    omega
  rw [if_neg zero]
  induction keys with
  | nil => rfl
  | cons first rest ih =>
      rw [List.pairwise_cons] at sorted
      rw [bisectRight_cons, List.countP_cons]
      by_cases le : first ≤ key - 1
      · rw [if_pos le, if_pos (by rw [decide_eq_true_iff]; omega), ih sorted.2]
      · have nothing : rest.countP (fun other => decide (other < key)) = 0 := by
          refine List.countP_eq_zero.mpr fun other member => ?_
          have beyond := sorted.1 other member
          rw [decide_eq_true_iff]
          omega
        rw [if_neg le, if_neg (by rw [decide_eq_true_iff]; omega), nothing]

theorem countP_lt_succ (keys : List Nat) (key : Nat) :
    (keys.countP fun other => decide (other < key + 1)) =
      (keys.countP fun other => decide (other < key)) + keys.count key := by
  induction keys with
  | nil => rfl
  | cons first rest ih =>
      rw [List.countP_cons, List.countP_cons, List.count_cons, ih]
      simp only [decide_eq_true_eq, beq_iff_eq]
      split_ifs <;> omega

/-- The entry a bisection of strictly sorted keys stops at, if it has the key. -/
def bisectFind {α : Type} (value : α → Nat) (elements : List α) (key : Nat) : Option α :=
  match bisectRight (elements.map value) key with
  | 0 => none
  | index + 1 => elements[index]?.filter fun element => decide (value element = key)

theorem bisectFind_eq_some (sorted : (elements.map value).Pairwise (· < ·)) :
    bisectFind value elements key = some element ↔ element ∈ elements ∧ value element = key := by
  unfold bisectFind
  constructor
  · intro found
    split at found
    · cases found
    · obtain ⟨selected, same⟩ := Option.filter_eq_some_iff.mp found
      exact ⟨List.mem_of_getElem? selected, of_decide_eq_true same⟩
  · rintro ⟨member, rfl⟩
    induction elements with
    | nil => cases member
    | cons first rest ih =>
        rw [List.map_cons, List.pairwise_cons] at sorted
        rw [List.map_cons, bisectRight_cons]
        rcases List.mem_cons.mp member with rfl | inside
        · have none_left : bisectRight (rest.map value) (value element) = 0 :=
            bisectRight_eq_zero sorted.1
          rw [if_pos (Nat.le_refl _), none_left]
          simp
        · have beyond := sorted.1 (value element) (List.mem_map_of_mem inside)
          have later := ih sorted.2 inside
          rw [if_pos (by omega)]
          cases bisected : bisectRight (rest.map value) (value element) with
          | zero =>
              rw [bisected] at later
              cases later
          | succ index =>
              rw [bisected] at later
              exact later

/-- The element at the insertion point's left is the greatest that does not exceed the key. -/
theorem bisectRight_greatest (sorted : (elements.map value).Pairwise (· < ·))
    (member : element ∈ elements) (below : value element ≤ key)
    (greatest : ∀ other ∈ elements, value other ≤ key → value other ≤ value element) :
    ∃ index, bisectRight (elements.map value) key = index + 1 ∧
      elements[index]? = some element := by
  induction elements with
  | nil => cases member
  | cons first rest ih =>
      rw [List.map_cons, List.pairwise_cons] at sorted
      rw [List.map_cons, bisectRight_cons]
      rcases List.mem_cons.mp member with rfl | inside
      · have none_left : bisectRight (rest.map value) key = 0 := by
          refine bisectRight_eq_zero fun other found => ?_
          obtain ⟨later, laterMember, rfl⟩ := List.mem_map.mp found
          have above := sorted.1 (value later) found
          have bounded := greatest later (List.mem_cons_of_mem _ laterMember)
          omega
        rw [if_pos below, none_left]
        exact ⟨0, rfl, rfl⟩
      · have above := sorted.1 (value element) (List.mem_map_of_mem inside)
        obtain ⟨index, counted, selected⟩ := ih sorted.2 inside
          fun other found => greatest other (List.mem_cons_of_mem _ found)
        rw [if_pos (by omega), counted]
        exact ⟨index + 1, rfl, selected⟩

/-! ## Searching a monotone function -/

/-- The last index whose value does not exceed the target, between two bounds. -/
def searchLast (value : Nat → Nat) (target : Nat) : Nat → Nat → Nat → Nat
  | 0, low, _ => low
  | fuel + 1, low, high =>
      if low < high then
        let middle := (low + high + 1) / 2
        if value middle ≤ target then searchLast value target fuel middle high
        else searchLast value target fuel low (middle - 1)
      else low

/-- With a step for every index in between, the search ends at the last such index. -/
theorem searchLast_spec {value : Nat → Nat} {target fuel low high last : Nat}
    (monotone : ∀ lower upper, lower ≤ upper → upper ≤ last → value lower ≤ value upper)
    (enough : high - low ≤ fuel) (ordered : low ≤ high) (bounded : high ≤ last)
    (below : value low ≤ target)
    (above : ∀ index, high < index → index ≤ last → target < value index) :
    let found := searchLast value target fuel low high
    found ≤ last ∧ value found ≤ target ∧
      ∀ index, found < index → index ≤ last → target < value index := by
  induction fuel generalizing low high with
  | zero =>
      have same : low = high := by omega
      subst same
      exact ⟨bounded, below, above⟩
  | succ fuel ih =>
      unfold searchLast
      by_cases wider : low < high
      · rw [if_pos wider]
        dsimp only
        by_cases fits : value ((low + high + 1) / 2) ≤ target
        · rw [if_pos fits]
          exact ih (by omega) (by omega) bounded fits above
        · rw [if_neg fits]
          refine ih (by omega) (by omega) (by omega) below fun index beyond inside => ?_
          have le := monotone ((low + high + 1) / 2) index (by omega) inside
          omega
      · have same : low = high := by omega
        subst same
        rw [if_neg wider]
        exact ⟨bounded, below, above⟩

/-- The search finds an index whose value is the target and whose successors exceed it. -/
theorem searchLast_eq {value : Nat → Nat} {index last : Nat}
    (monotone : ∀ lower upper, lower ≤ upper → upper ≤ last → value lower ≤ value upper)
    (inside : index ≤ last) (last_one : ∀ other, index < other → other ≤ last →
      value index < value other) :
    searchLast value (value index) last 0 last = index := by
  obtain ⟨bounded, below, above⟩ := searchLast_spec monotone (Nat.le_of_eq (Nat.sub_zero last))
    (Nat.zero_le last) (Nat.le_refl last) (monotone 0 index (Nat.zero_le _) inside)
    fun other beyond within => absurd within (by omega)
  rcases Nat.lt_trichotomy index (searchLast value (value index) last 0 last) with less | same | more
  · have impossible := last_one _ less bounded
    exact absurd below (by omega)
  · exact same.symm
  · exact absurd (above index more inside) (Nat.lt_irrefl _)

end OnecRuntime.Library
