import OnecRuntime.Library.Fallible
import Mathlib.Algebra.Order.BigOperators.Group.List
import Mathlib.Algebra.Order.Ring.Nat

/-!
# Loops over a stack

A loop takes an item from a stack, handles it and pushes further items.  Where
the pushed items weigh less than the item they come from, the loop ends, and it
is a fold over the items in the order in which it reaches them.
-/

namespace OnecRuntime.Library

section Worklist

variable {τ σ ε : Type}

/-- The items a loop takes, in order. -/
def visits (next : τ → List τ) : Nat → List τ → List τ
  | 0, _ => []
  | _ + 1, [] => []
  | fuel + 1, item :: rest => item :: visits next fuel (next item ++ rest)

/-- `while stack`: take an item, handle it, push what the handler gives. -/
def drain (handle : τ → σ → Except ε (σ × List τ)) : Nat → List τ → σ → Except ε σ
  | _, [], state => .ok state
  | 0, _ :: _, state => .ok state
  | fuel + 1, item :: rest, state => do
      let (after, pushed) ← handle item state
      drain handle fuel (pushed ++ rest) after

def load (weight : τ → Nat) (stack : List τ) : Nat := (stack.map weight).sum

/-- What an item pushes weighs less than the item. -/
def Descends (next : τ → List τ) (weight : τ → Nat) : Prop :=
  ∀ item, load weight (next item) < weight item

/-- The items a loop with enough fuel takes. -/
def reached (next : τ → List τ) (weight : τ → Nat) (stack : List τ) : List τ :=
  visits next (load weight stack) stack

variable {next : τ → List τ} {weight : τ → Nat}

theorem load_append (first second : List τ) :
    load weight (first ++ second) = load weight first + load weight second := by
  rw [load, List.map_append, List.sum_append, load, load]

theorem load_cons (item : τ) (rest : List τ) :
    load weight (item :: rest) = weight item + load weight rest := by
  rw [load, List.map_cons, List.sum_cons, load]

theorem Descends.load_lt (descends : Descends next weight) (item : τ) (rest : List τ) :
    load weight (next item ++ rest) < load weight (item :: rest) := by
  have lighter := descends item
  rw [load_append, load_cons]
  omega

theorem weight_le_load {item : τ} {stack : List τ} (member : item ∈ stack) :
    weight item ≤ load weight stack :=
  List.single_le_sum (fun _ _ => Nat.zero_le _) _ (List.mem_map_of_mem member)

/-- Properties of what an item pushes carry over to the item. -/
theorem Descends.induction (descends : Descends next weight) {property : τ → Prop}
    (step : ∀ item, (∀ pushed ∈ next item, property pushed) → property item) (item : τ) :
    property item := by
  induction bound : weight item using Nat.strong_induction_on generalizing item with
  | _ bound ih =>
      subst bound
      refine step item fun pushed member => ih _ ?_ pushed rfl
      exact (weight_le_load member).trans_lt (descends item)

/-! ## The items that are reached -/

/-- More fuel than the stack weighs takes no more items. -/
theorem visits_enough (descends : Descends next weight) {fuel : Nat} {stack : List τ}
    (enough : load weight stack ≤ fuel) : visits next fuel stack = reached next weight stack := by
  induction fuel using Nat.strong_induction_on generalizing stack with
  | _ fuel ih =>
      rw [reached]
      cases stack with
      | nil =>
          cases fuel <;> rfl
      | cons item rest =>
          have lighter := descends.load_lt item rest
          obtain ⟨smaller, rfl⟩ : ∃ smaller, fuel = smaller + 1 := ⟨fuel - 1, by omega⟩
          obtain ⟨exact_, same⟩ : ∃ exact_, load weight (item :: rest) = exact_ + 1 :=
            ⟨load weight (item :: rest) - 1, by omega⟩
          rw [same, visits, visits, ih smaller (by omega) (by omega)]
          rcases Nat.lt_or_ge exact_ smaller with less | notLess
          · rw [ih exact_ (by omega) (by omega)]
          · obtain rfl : exact_ = smaller := by omega
            rw [ih exact_ (by omega) (by omega)]

@[simp] theorem reached_nil : reached next weight [] = [] := rfl

theorem reached_cons_stack (descends : Descends next weight) (item : τ) (rest : List τ) :
    reached next weight (item :: rest) = item :: reached next weight (next item ++ rest) := by
  have lighter := descends.load_lt item rest
  obtain ⟨fuel, same⟩ : ∃ fuel, load weight (item :: rest) = fuel + 1 :=
    ⟨load weight (item :: rest) - 1, by omega⟩
  rw [reached, same, visits, visits_enough descends (by omega)]

/-- The items of two stacks are reached one stack after the other. -/
theorem reached_append (descends : Descends next weight) (first second : List τ) :
    reached next weight (first ++ second) =
      reached next weight first ++ reached next weight second := by
  induction bound : load weight first using Nat.strong_induction_on generalizing first with
  | _ bound ih =>
      subst bound
      cases first with
      | nil => rfl
      | cons item rest =>
          rw [List.cons_append, reached_cons_stack descends, reached_cons_stack descends,
            ← List.append_assoc, ih _ (descends.load_lt item rest) _ rfl, List.cons_append]

theorem reached_cons (descends : Descends next weight) (item : τ) (rest : List τ) :
    reached next weight (item :: rest) =
      item :: (reached next weight (next item) ++ reached next weight rest) := by
  rw [reached_cons_stack descends, reached_append descends]

theorem reached_eq_flatMap (descends : Descends next weight) (stack : List τ) :
    reached next weight stack = stack.flatMap fun item => reached next weight [item] := by
  induction stack with
  | nil => rfl
  | cons item rest ih =>
      rw [← List.singleton_append, reached_append descends, ih]
      rfl

theorem mem_reached (descends : Descends next weight) {item : τ} {stack : List τ} :
    item ∈ reached next weight stack ↔
      ∃ start ∈ stack, item = start ∨ item ∈ reached next weight (next start) := by
  rw [reached_eq_flatMap descends, List.mem_flatMap]
  simp only [reached_cons descends, reached_nil, List.append_nil, List.mem_cons]

/-- What is reached from a reached item is reached. -/
theorem reached_trans (descends : Descends next weight) {item middle : τ} {stack : List τ}
    (upTo : middle ∈ reached next weight stack) (from_ : item ∈ reached next weight (next middle)) :
    item ∈ reached next weight stack := by
  induction bound : load weight stack using Nat.strong_induction_on generalizing stack with
  | _ bound ih =>
      subst bound
      obtain ⟨start, member, same | later⟩ := (mem_reached descends).mp upTo
      · subst same
        exact (mem_reached descends).mpr ⟨_, member, .inr from_⟩
      · refine (mem_reached descends).mpr ⟨start, member, .inr (ih _ ?_ later rfl)⟩
        exact (descends start).trans_le (weight_le_load member)

/-- What a loop finds among the items it reaches, where one item has it or passes it on. -/
theorem exists_reached (descends : Descends next weight) {good own mentions : τ → Prop}
    (closed : ∀ item, good item → ∀ pushed ∈ next item, good pushed)
    (step : ∀ item, good item → (mentions item ↔ own item ∨ ∃ pushed ∈ next item, mentions pushed))
    {stack : List τ} (goods : ∀ item ∈ stack, good item) :
    (∃ item ∈ reached next weight stack, own item) ↔ ∃ item ∈ stack, mentions item := by
  have single : ∀ item, good item →
      ((∃ other ∈ reached next weight [item], own other) ↔ mentions item) := by
    intro item
    induction item using descends.induction with
    | step item ih =>
        intro isGood
        rw [step item isGood, reached_cons descends, reached_nil, List.append_nil,
          List.exists_mem_cons_iff, reached_eq_flatMap descends]
        refine or_congr_right ?_
        simp only [List.mem_flatMap]
        constructor
        · rintro ⟨other, ⟨pushed, isPushed, member⟩, isOwn⟩
          exact ⟨pushed, isPushed, (ih pushed isPushed (closed item isGood pushed isPushed)).mp
            ⟨other, member, isOwn⟩⟩
        · rintro ⟨pushed, isPushed, mentioned⟩
          obtain ⟨other, member, isOwn⟩ :=
            (ih pushed isPushed (closed item isGood pushed isPushed)).mpr mentioned
          exact ⟨other, ⟨pushed, isPushed, member⟩, isOwn⟩
  rw [reached_eq_flatMap descends]
  simp only [List.mem_flatMap]
  constructor
  · rintro ⟨other, ⟨item, inStack, member⟩, isOwn⟩
    exact ⟨item, inStack, (single item (goods item inStack)).mp ⟨other, member, isOwn⟩⟩
  · rintro ⟨item, inStack, mentioned⟩
    obtain ⟨other, member, isOwn⟩ := (single item (goods item inStack)).mpr mentioned
    exact ⟨other, ⟨item, inStack, member⟩, isOwn⟩

/-! ## The loop as a fold -/

/-- A loop that pushes by a rule, on items that the rule keeps, is a fold over the items it
reaches. -/
theorem drain_eq_foldlM (descends : Descends next weight) {good : τ → Prop}
    {handle : τ → σ → Except ε (σ × List τ)}
    (closed : ∀ item, good item → ∀ pushed ∈ next item, good pushed)
    (pushes : ∀ item, good item → ∀ state after pushed,
      handle item state = .ok (after, pushed) → pushed = next item)
    {fuel : Nat} {stack : List τ} (goods : ∀ item ∈ stack, good item)
    (enough : load weight stack ≤ fuel) (state : σ) :
    drain handle fuel stack state =
      (reached next weight stack).foldlM (fun state item => Prod.fst <$> handle item state)
        state := by
  induction fuel using Nat.strong_induction_on generalizing stack state with
  | _ fuel ih =>
      cases stack with
      | nil => cases fuel <;> rfl
      | cons item rest =>
          have lighter := descends.load_lt item rest
          obtain ⟨smaller, rfl⟩ : ∃ smaller, fuel = smaller + 1 := ⟨fuel - 1, by omega⟩
          have isGood := goods item List.mem_cons_self
          rw [reached_cons_stack descends, List.foldlM_cons, drain]
          cases handled : handle item state with
          | error problem => rfl
          | ok result =>
              obtain ⟨after, pushed⟩ := result
              obtain rfl := pushes item isGood state after pushed handled
              refine ih smaller (by omega) ?_ (by omega) after
              intro other member
              rcases List.mem_append.mp member with isPushed | inRest
              · exact closed item isGood other isPushed
              · exact goods other (List.mem_cons_of_mem _ inRest)

theorem good_of_reached (descends : Descends next weight) {good : τ → Prop}
    (closed : ∀ item, good item → ∀ pushed ∈ next item, good pushed) {stack : List τ}
    (goods : ∀ item ∈ stack, good item) {item : τ} (member : item ∈ reached next weight stack) :
    good item := by
  by_contra notGood
  have step : ∀ item, good item →
      (¬ good item ↔ ¬ good item ∨ ∃ pushed ∈ next item, ¬ good pushed) := by
    intro item isGood
    refine ⟨fun isBad => absurd isGood isBad, ?_⟩
    rintro (isBad | ⟨pushed, isPushed, isBad⟩)
    · exact isBad
    · exact absurd (closed item isGood pushed isPushed) isBad
  obtain ⟨start, inStack, isBad⟩ :=
    (exists_reached descends closed step goods).mp ⟨item, member, notGood⟩
  exact isBad (goods start inStack)

/-- A fold whose steps return or raise whatever came before. -/
theorem foldlM_returns {step : σ → τ → Except ε σ} {next : σ → τ → σ} {raises : τ → Prop}
    {items : List τ} (state : σ)
    (returns : ∀ item ∈ items, ¬ raises item → ∀ state, step state item = .ok (next state item))
    (fails : ∀ item ∈ items, raises item →
      ∃ problem, ∀ state, step state item = .error problem) :
    (∀ item ∈ items, ¬ raises item) ∧ items.foldlM step state = .ok (items.foldl next state) ∨
      ∃ item ∈ items, raises item ∧ ∃ problem, (∀ state, step state item = .error problem) ∧
        items.foldlM step state = .error problem := by
  induction items generalizing state with
  | nil => exact .inl ⟨fun _ impossible => (nomatch impossible), rfl⟩
  | cons item rest ih =>
      rw [List.foldlM_cons]
      by_cases isRaised : raises item
      · obtain ⟨problem, raised⟩ := fails item List.mem_cons_self isRaised
        refine .inr ⟨item, List.mem_cons_self, isRaised, problem, raised, ?_⟩
        rw [raised state]
        rfl
      · rw [returns item List.mem_cons_self isRaised state, ok_bind]
        rcases ih (next state item)
          (fun other member => returns other (List.mem_cons_of_mem _ member))
          (fun other member => fails other (List.mem_cons_of_mem _ member)) with
          ⟨none_, folded⟩ | ⟨other, member, raised, found⟩
        · exact .inl ⟨List.forall_mem_cons.mpr ⟨isRaised, none_⟩, folded⟩
        · exact .inr ⟨other, List.mem_cons_of_mem _ member, raised, found⟩

/-- What holds after a fold held before it or was made so by an item. -/
theorem foldl_holds {step : σ → τ → σ} {holds : σ → Prop} {own : τ → Prop} {items : List τ}
    {state : σ} (turn : ∀ item ∈ items, ∀ state, holds (step state item) ↔ holds state ∨ own item) :
    holds (items.foldl step state) ↔ holds state ∨ ∃ item ∈ items, own item := by
  induction items generalizing state with
  | nil => simp
  | cons item rest ih =>
      rw [List.foldl_cons, ih fun other member => turn other (List.mem_cons_of_mem _ member),
        turn item List.mem_cons_self, List.exists_mem_cons_iff, or_assoc]

end Worklist

end OnecRuntime.Library
