import OnecRuntime.Library.Sorting
import OnecRuntime.Library.Tiling

/-!
# What spans leave free

Half-open spans of a text. Sorted and merged they hold the same places, and the gaps between them
hold the others, in order.
-/

namespace OnecRuntime.Library

structure Span where
  start : Nat
  stop : Nat
  deriving DecidableEq, Repr

namespace Span

def Holds (span : Span) (place : Nat) : Prop := span.start ≤ place ∧ place < span.stop

def Within (inner outer : Span) : Prop := outer.start ≤ inner.start ∧ inner.stop ≤ outer.stop

/-- One of the two stops before the other starts. -/
def Apart (first second : Span) : Prop := first.stop ≤ second.start ∨ second.stop ≤ first.start

/-- The spans follow each other. -/
def Ordered (spans : List Span) : Prop :=
  spans.Pairwise fun first second => first.stop ≤ second.start

/-! ## Merging -/

/-- Spans that touch or overlap joined, from the span that is open. -/
def mergedFrom : Span → List Span → List Span
  | current, [] => [current]
  | current, span :: rest =>
      if span.start ≤ current.stop then mergedFrom ⟨current.start, max current.stop span.stop⟩ rest
      else current :: mergedFrom span rest

def merged : List Span → List Span
  | [] => []
  | span :: rest => mergedFrom span rest

variable {current : Span}

theorem mergedFrom_holds {spans : List Span}
    (sorted : (current :: spans).Pairwise fun first second => first.start ≤ second.start)
    (place : Nat) : (∃ span ∈ mergedFrom current spans, span.Holds place) ↔
      ∃ span ∈ current :: spans, span.Holds place := by
  induction spans generalizing current with
  | nil => exact Iff.rfl
  | cons span rest follows =>
    obtain ⟨first, others⟩ := List.pairwise_cons.1 sorted
    obtain ⟨second, rest_sorted⟩ := List.pairwise_cons.1 others
    have behind := first span List.mem_cons_self
    rw [mergedFrom]
    by_cases touches : span.start ≤ current.stop
    · rw [if_pos touches, follows (List.pairwise_cons.2 ⟨?_, rest_sorted⟩)]
      · have joined : (⟨current.start, max current.stop span.stop⟩ : Span).Holds place ↔
            current.Holds place ∨ span.Holds place := by
          unfold Holds
          dsimp only
          omega
        simp only [List.exists_mem_cons_iff, joined, or_assoc]
      · exact fun other among => first other (List.mem_cons_of_mem _ among)
    · rw [if_neg touches]
      simp only [List.exists_mem_cons_iff] at follows ⊢
      rw [follows others]

theorem mergedFrom_sorted {spans : List Span}
    (sorted : (current :: spans).Pairwise fun first second => first.start ≤ second.start) :
    (mergedFrom current spans).Pairwise (fun first second => first.start ≤ second.start) ∧
      ∀ span ∈ mergedFrom current spans, current.start ≤ span.start := by
  induction spans generalizing current with
  | nil => exact ⟨List.pairwise_singleton _ _, fun span among => (List.mem_singleton.1 among) ▸ Nat.le_refl _⟩
  | cons span rest follows =>
    obtain ⟨first, others⟩ := List.pairwise_cons.1 sorted
    obtain ⟨second, rest_sorted⟩ := List.pairwise_cons.1 others
    have behind := first span List.mem_cons_self
    rw [mergedFrom]
    by_cases touches : span.start ≤ current.stop
    · rw [if_pos touches]
      exact follows (List.pairwise_cons.2
        ⟨fun other among => first other (List.mem_cons_of_mem _ among), rest_sorted⟩)
    · rw [if_neg touches]
      obtain ⟨ordered, bound⟩ := follows others
      refine ⟨List.pairwise_cons.2 ⟨fun other among => Nat.le_trans behind (bound other among), ordered⟩,
        List.forall_mem_cons.2 ⟨Nat.le_refl _, fun other among => Nat.le_trans behind (bound other among)⟩⟩

theorem mergedFrom_inside {spans : List Span} {last : Nat}
    (inside : ∀ span ∈ current :: spans, span.stop ≤ last) :
    ∀ span ∈ mergedFrom current spans, span.stop ≤ last := by
  induction spans generalizing current with
  | nil => exact inside
  | cons span rest follows =>
    obtain ⟨here, others⟩ := List.forall_mem_cons.1 inside
    obtain ⟨next, rest_inside⟩ := List.forall_mem_cons.1 others
    rw [mergedFrom]
    by_cases touches : span.start ≤ current.stop
    · rw [if_pos touches]
      exact follows (List.forall_mem_cons.2 ⟨Nat.max_le.2 ⟨here, next⟩, rest_inside⟩)
    · rw [if_neg touches]
      exact List.forall_mem_cons.2 ⟨here, follows others⟩

/-! ## Gaps -/

/-- What the spans leave free from the cursor up to the last place. -/
def gapsFrom (last : Nat) : Nat → List Span → List Span
  | cursor, [] => if cursor < last then [⟨cursor, last⟩] else []
  | cursor, span :: rest =>
      (if cursor < span.start then [⟨cursor, span.start⟩] else []) ++
        gapsFrom last (max cursor span.stop) rest

/-- A gap in front of a span, if there is one. -/
theorem mem_gap {cursor stop : Nat} {gap : Span} :
    gap ∈ (if cursor < stop then [(⟨cursor, stop⟩ : Span)] else []) ↔
      cursor < stop ∧ gap = ⟨cursor, stop⟩ := by
  by_cases free : cursor < stop
  · rw [if_pos free, List.mem_singleton]
    exact ⟨fun same => ⟨free, same⟩, And.right⟩
  · rw [if_neg free]
    exact ⟨fun among => absurd among List.not_mem_nil, fun found => absurd found.1 free⟩

section Gaps

variable {last : Nat}

variable {cursor : Nat}

theorem gapsFrom_bounds {spans : List Span} (inside : ∀ span ∈ spans, span.start ≤ last) :
    ∀ gap ∈ gapsFrom last cursor spans, cursor ≤ gap.start ∧ gap.start < gap.stop ∧ gap.stop ≤ last := by
  induction spans generalizing cursor with
  | nil =>
    intro gap among
    obtain ⟨free, rfl⟩ := mem_gap.1 among
    exact ⟨Nat.le_refl _, free, Nat.le_refl _⟩
  | cons span rest follows =>
    obtain ⟨here, there⟩ := List.forall_mem_cons.1 inside
    intro gap among
    rcases List.mem_append.1 among with first | later
    · obtain ⟨free, rfl⟩ := mem_gap.1 first
      exact ⟨Nat.le_refl _, free, here⟩
    · obtain ⟨behind, some_place, within⟩ := follows there gap later
      exact ⟨by omega, some_place, within⟩

theorem gapsFrom_ordered {spans : List Span} (inside : ∀ span ∈ spans, span.Within ⟨0, last⟩)
    (forward : ∀ span ∈ spans, span.start ≤ span.stop) : Ordered (gapsFrom last cursor spans) := by
  induction spans generalizing cursor with
  | nil =>
    rw [gapsFrom]
    by_cases free : cursor < last
    · rw [if_pos free]
      exact List.pairwise_singleton _ _
    · rw [if_neg free]
      exact .nil
  | cons span rest follows =>
    obtain ⟨here, there⟩ := List.forall_mem_cons.1 inside
    obtain ⟨goes, others⟩ := List.forall_mem_cons.1 forward
    refine List.pairwise_append.2 ⟨?_, follows there others, ?_⟩
    · by_cases free : cursor < span.start
      · rw [if_pos free]
        exact List.pairwise_singleton _ _
      · rw [if_neg free]
        exact .nil
    · intro gap first other later
      obtain ⟨-, rfl⟩ := mem_gap.1 first
      have starts : ∀ span ∈ rest, span.start ≤ last :=
        fun span among => Nat.le_trans (others span among) (there span among).2
      have behind := (gapsFrom_bounds starts other later).1
      exact Nat.le_trans goes (Nat.le_trans (Nat.le_max_right _ _) behind)

/-- A place is in a gap if no span holds it. -/
theorem gapsFrom_holds {spans : List Span}
    (sorted : spans.Pairwise fun first second => first.start ≤ second.start)
    (inside : ∀ span ∈ spans, span.start ≤ last) (place : Nat) :
    (∃ gap ∈ gapsFrom last cursor spans, gap.Holds place) ↔
      cursor ≤ place ∧ place < last ∧ ¬∃ span ∈ spans, span.Holds place := by
  induction spans generalizing cursor with
  | nil =>
    simp only [gapsFrom, mem_gap, List.not_mem_nil, false_and, exists_false, not_false_eq_true, and_true]
    constructor
    · rintro ⟨gap, ⟨-, rfl⟩, holds⟩
      exact holds
    · rintro ⟨behind, before⟩
      exact ⟨_, ⟨by omega, rfl⟩, behind, before⟩
  | cons span rest follows =>
    obtain ⟨first, rest_sorted⟩ := List.pairwise_cons.1 sorted
    obtain ⟨here, there⟩ := List.forall_mem_cons.1 inside
    have later := @follows (max cursor span.stop) rest_sorted there
    constructor
    · rintro ⟨gap, among, holds⟩
      rcases List.mem_append.1 among with before | behind
      · obtain ⟨-, rfl⟩ := mem_gap.1 before
        obtain ⟨low, high⟩ := holds
        dsimp only at low high
        refine ⟨low, by omega, ?_⟩
        rintro ⟨other, member, held, -⟩
        rcases List.mem_cons.1 member with rfl | member
        · omega
        · have := first other member
          omega
      · obtain ⟨low, high, free⟩ := later.1 ⟨gap, behind, holds⟩
        refine ⟨by omega, high, ?_⟩
        rintro ⟨other, member, held⟩
        rcases List.mem_cons.1 member with rfl | member
        · have := held.2
          omega
        · exact free ⟨other, member, held⟩
    · rintro ⟨low, high, free⟩
      by_cases before : place < span.start
      · exact ⟨⟨cursor, span.start⟩, List.mem_append_left _ (mem_gap.2 ⟨by omega, rfl⟩), low, before⟩
      · have beyond : span.stop ≤ place := by
          by_contra inner
          exact free ⟨span, List.mem_cons_self, by omega, by omega⟩
        obtain ⟨gap, among, holds⟩ := later.2 ⟨by omega, high, fun found => by
          obtain ⟨other, member, held⟩ := found
          exact free ⟨other, List.mem_cons_of_mem _ member, held⟩⟩
        exact ⟨gap, List.mem_append_right _ among, holds⟩

end Gaps

/-! ## The complement -/

def position (span : Span) : Nat ×ₗ Nat := toLex (span.start, span.stop)

/-- The spans in order and joined, empty ones left out. -/
def joined (spans : List Span) : List Span :=
  merged ((sortedBy position spans).filter fun span => span.start ≠ span.stop)

def freeOf (last : Nat) (spans : List Span) : List Span := gapsFrom last 0 (joined spans)

theorem sorted_starts (spans : List Span) :
    ((sortedBy position spans).filter fun span => span.start ≠ span.stop).Pairwise
      fun first second => first.start ≤ second.start := by
  refine ((sortedBy_pairwise position spans).imp fun {first second} le => ?_).filter _
  rcases Prod.Lex.le_iff.1 le with less | ⟨same, -⟩
  · exact Nat.le_of_lt less
  · exact Nat.le_of_eq same

theorem joined_holds (spans : List Span) (place : Nat) :
    (∃ span ∈ joined spans, span.Holds place) ↔ ∃ span ∈ spans, span.Holds place := by
  have kept : (∃ span ∈ (sortedBy position spans).filter fun span => span.start ≠ span.stop,
      span.Holds place) ↔ ∃ span ∈ spans, span.Holds place := by
    constructor
    · rintro ⟨span, among, holds⟩
      exact ⟨span, mem_sortedBy.1 (List.mem_filter.1 among).1, holds⟩
    · rintro ⟨span, among, holds⟩
      have some_place : span.start ≠ span.stop := Nat.ne_of_lt (Nat.lt_of_le_of_lt holds.1 holds.2)
      exact ⟨span, List.mem_filter.2 ⟨mem_sortedBy.2 among, decide_eq_true some_place⟩, holds⟩
  rw [← kept]
  unfold joined
  have sorted := sorted_starts spans
  cases listed : (sortedBy position spans).filter fun span => span.start ≠ span.stop with
  | nil => exact Iff.rfl
  | cons first rest => exact mergedFrom_holds (listed ▸ sorted) place

theorem joined_sorted (spans : List Span) :
    (joined spans).Pairwise fun first second => first.start ≤ second.start := by
  unfold joined
  have sorted := sorted_starts spans
  cases listed : (sortedBy position spans).filter fun span => span.start ≠ span.stop with
  | nil => exact .nil
  | cons first rest => exact (mergedFrom_sorted (listed ▸ sorted)).1

theorem mergedFrom_forward {spans : List Span}
    (forward : ∀ span ∈ current :: spans, span.start ≤ span.stop) :
    ∀ span ∈ mergedFrom current spans, span.start ≤ span.stop := by
  induction spans generalizing current with
  | nil => exact forward
  | cons span rest follows =>
    obtain ⟨here, others⟩ := List.forall_mem_cons.1 forward
    obtain ⟨-, rest_forward⟩ := List.forall_mem_cons.1 others
    rw [mergedFrom]
    by_cases touches : span.start ≤ current.stop
    · rw [if_pos touches]
      exact follows (List.forall_mem_cons.2 ⟨Nat.le_trans here (Nat.le_max_left _ _), rest_forward⟩)
    · rw [if_neg touches]
      exact List.forall_mem_cons.2 ⟨here, follows others⟩

/-- The spans go forward inside the text. -/
def Inside (last : Nat) (spans : List Span) : Prop :=
  ∀ span ∈ spans, span.start ≤ span.stop ∧ span.stop ≤ last

theorem Inside.joined {last : Nat} {spans : List Span} (inside : Inside last spans) :
    Inside last (joined spans) := by
  have kept : ∀ span ∈ (sortedBy position spans).filter fun span => span.start ≠ span.stop,
      span.start ≤ span.stop ∧ span.stop ≤ last :=
    fun span among => inside span (mem_sortedBy.1 (List.mem_filter.1 among).1)
  unfold Span.joined
  cases listed : (sortedBy position spans).filter fun span => span.start ≠ span.stop with
  | nil => exact List.forall_mem_nil _
  | cons first rest =>
    rw [listed] at kept
    exact fun span among => ⟨mergedFrom_forward (fun other member => (kept other member).1) span among,
      mergedFrom_inside (fun other member => (kept other member).2) span among⟩

variable {last : Nat} {spans : List Span}

theorem freeOf_ordered (inside : Inside last spans) : Ordered (freeOf last spans) :=
  gapsFrom_ordered (fun span among => ⟨Nat.zero_le _, (inside.joined span among).2⟩)
    fun span among => (inside.joined span among).1

theorem freeOf_bounds (inside : Inside last spans) :
    ∀ gap ∈ freeOf last spans, gap.start < gap.stop ∧ gap.stop ≤ last := by
  intro gap among
  exact (gapsFrom_bounds (fun span member =>
    Nat.le_trans (inside.joined span member).1 (inside.joined span member).2) gap among).2

/-- The free spans hold the places that none of the spans holds. -/
theorem freeOf_holds (inside : Inside last spans) (place : Nat) :
    (∃ gap ∈ freeOf last spans, gap.Holds place) ↔
      place < last ∧ ¬∃ span ∈ spans, span.Holds place := by
  rw [freeOf, gapsFrom_holds (joined_sorted spans) (fun span member =>
    Nat.le_trans (inside.joined span member).1 (inside.joined span member).2), joined_holds]
  exact ⟨And.right, fun found => ⟨Nat.zero_le _, found⟩⟩

/-! ## Between spans -/

/-- What stands between two places, cut by the spans. -/
def between : Nat → List Span → Nat → List Span
  | first, [], last => [⟨first, last⟩]
  | first, span :: rest, last => ⟨first, span.start⟩ :: between span.stop rest last

/-- Blocks and the spans between them in turn. -/
def inTurn : List Span → List Span → List Span
  | [], spans => spans
  | block :: blocks, [] => block :: blocks
  | block :: blocks, span :: spans => block :: span :: inTurn blocks spans

theorem zipWith_between (first last : Nat) (spans : List Span) :
    List.zipWith Span.mk (first :: spans.map Span.stop) (spans.map Span.start ++ [last]) =
      between first spans last := by
  induction spans generalizing first with
  | nil => rfl
  | cons span rest follows => exact congrArg _ (follows span.stop)

section Between

variable {first last : Nat} {spans : List Span}

/-- The spans follow each other between the two places. -/
def Separates (first last : Nat) (spans : List Span) : Prop :=
  first ≤ last ∧ Ordered spans ∧
    ∀ span ∈ spans, first ≤ span.start ∧ span.start < span.stop ∧ span.stop ≤ last

theorem Separates.tail {span : Span} {rest : List Span} (separates : Separates first last (span :: rest)) :
    Separates span.stop last rest := by
  obtain ⟨-, ordered, bounds⟩ := separates
  obtain ⟨before, rest_ordered⟩ := List.pairwise_cons.1 ordered
  obtain ⟨here, there⟩ := List.forall_mem_cons.1 bounds
  exact ⟨here.2.2, rest_ordered, fun other among => ⟨before other among, (there other among).2⟩⟩

theorem between_tiles (separates : Separates first last spans) :
    Tiles Span.start Span.stop first last (inTurn (between first spans last) spans) := by
  induction spans generalizing first with
  | nil => exact ⟨rfl, separates.1, rfl⟩
  | cons span rest follows =>
    obtain ⟨low, some_place, -⟩ := (List.forall_mem_cons.1 separates.2.2).1
    exact ⟨rfl, low, rfl, Nat.le_of_lt some_place, follows separates.tail⟩

/-- A block begins where a span stops, and stops where a span begins. -/
theorem mem_between {block : Span} (separates : Separates first last spans)
    (among : block ∈ between first spans last) :
    (block.start = first ∨ ∃ span ∈ spans, span.stop = block.start) ∧
      (block.stop = last ∨ ∃ span ∈ spans, span.start = block.stop) ∧
      first ≤ block.start ∧ block.start ≤ block.stop ∧ block.stop ≤ last := by
  induction spans generalizing first with
  | nil =>
    obtain rfl := List.mem_singleton.1 among
    exact ⟨.inl rfl, .inl rfl, Nat.le_refl _, separates.1, Nat.le_refl _⟩
  | cons span rest follows =>
    obtain ⟨low, some_place, high⟩ := (List.forall_mem_cons.1 separates.2.2).1
    rcases List.mem_cons.1 among with rfl | later
    · exact ⟨.inl rfl, .inr ⟨span, List.mem_cons_self, rfl⟩, Nat.le_refl _, low,
        Nat.le_trans (Nat.le_of_lt some_place) high⟩
    · obtain ⟨begins, ends, behind, forward, within⟩ := follows separates.tail later
      refine ⟨.inr ?_, ends.imp_right ?_, by omega, forward, within⟩
      · rcases begins with same | ⟨other, member, same⟩
        · exact ⟨span, List.mem_cons_self, same.symm⟩
        · exact ⟨other, List.mem_cons_of_mem _ member, same⟩
      · rintro ⟨other, member, same⟩
        exact ⟨other, List.mem_cons_of_mem _ member, same⟩

/-- A place that no span holds stands in a block. -/
theorem exists_between {place : Nat} (low : first ≤ place) (high : place < last)
    (free : ∀ span ∈ spans, ¬span.Holds place) :
    ∃ block ∈ between first spans last, block.Holds place := by
  induction spans generalizing first with
  | nil => exact ⟨_, List.mem_singleton_self _, low, high⟩
  | cons span rest follows =>
    obtain ⟨here, there⟩ := List.forall_mem_cons.1 free
    by_cases before : place < span.start
    · exact ⟨_, List.mem_cons_self, low, before⟩
    · have beyond : span.stop ≤ place := by
        by_contra inner
        exact here ⟨by omega, by omega⟩
      obtain ⟨block, among, holds⟩ := follows beyond there
      exact ⟨block, List.mem_cons_of_mem _ among, holds⟩

end Between

end Span

end OnecRuntime.Library
