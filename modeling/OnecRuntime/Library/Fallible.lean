import Mathlib.Data.List.Forall2

/-!
# Fallible computations

A sequence of checked steps returns a value exactly when every step does.
-/

namespace OnecRuntime.Library

variable {ε α β : Type}

variable {first : Except ε α} {next : α → Except ε β}

/-- A bind returns when its first part does and the rest returns on that value. -/
theorem bind_eq_ok {result : β} :
    (first >>= next) = .ok result ↔ ∃ value, first = .ok value ∧ next value = .ok result := by
  cases first with
  | error problem =>
      constructor
      · intro impossible
        cases impossible
      · rintro ⟨value, impossible, _⟩
        cases impossible
  | ok value =>
      constructor
      · intro returned
        exact ⟨value, rfl, returned⟩
      · rintro ⟨_, same, returned⟩
        cases same
        exact returned

variable {problem : ε}

/-- A bind raises where one of its parts does. -/
theorem bind_eq_error (raised : (first >>= next) = .error problem) :
    first = .error problem ∨ ∃ value, first = .ok value ∧ next value = .error problem := by
  cases first with
  | error other => exact .inl (by cases raised; rfl)
  | ok value => exact .inr ⟨value, rfl, raised⟩

variable {value : α}

@[simp] theorem ok_bind (value : α) (next : α → Except ε β) :
    ((Except.ok value : Except ε α) >>= next) = next value := rfl

theorem pure_eq_ok {result : α} :
    (pure value : Except ε α) = .ok result ↔ value = result :=
  ⟨Except.ok.inj, congrArg _⟩

theorem mapError_eq_ok {ε' : Type} {change : ε → ε'} {result : Except ε α} :
    result.mapError change = .ok value ↔ result = .ok value := by
  cases result with
  | error problem =>
      constructor
      · intro impossible
        cases impossible
      · intro impossible
        cases impossible
  | ok other =>
      constructor
      · intro same
        exact congrArg Except.ok (Except.ok.inj same)
      · intro same
        exact congrArg Except.ok (Except.ok.inj same)

/-- A check that raises a problem unless a condition holds. -/
def require (condition : Prop) [Decidable condition] (problem : ε) : Except ε Unit :=
  if condition then .ok () else .error problem

variable {condition : Prop}

theorem require_eq_ok [Decidable condition] {result : Unit} :
    require condition problem = .ok result ↔ condition := by
  unfold require
  by_cases holds : condition
  · rw [if_pos holds]
    exact ⟨fun _ => holds, fun _ => rfl⟩
  · rw [if_neg holds]
    constructor
    · intro impossible
      cases impossible
    · exact fun held => absurd held holds

theorem require_of_holds [Decidable condition]
    (holds : condition) : require condition problem = .ok () := if_pos holds

theorem require_of_fails [Decidable condition]
    (fails : ¬condition) : require condition problem = .error problem := if_neg fails

theorem require_eq_error [Decidable condition] {other : ε}
    (raised : require condition problem = .error other) : other = problem := by
  unfold require at raised
  split at raised
  · cases raised
  · cases raised
    rfl

/-! ## One step for each element -/

variable {items : List α}

theorem mapM_same {first second : α → Except ε β}
    (same : ∀ item ∈ items, first item = second item) : items.mapM first = items.mapM second := by
  induction items with
  | nil => rfl
  | cons item rest hypothesis =>
      rw [List.mapM_cons, List.mapM_cons, same item List.mem_cons_self,
        hypothesis fun other member => same other (List.mem_cons_of_mem _ member)]

variable {step : α → Except ε β}

variable {results : List β}

theorem mapM_cons_eq_ok {item : α} {rest : List α} :
    (item :: rest).mapM step = .ok results ↔
      ∃ result others, step item = .ok result ∧ rest.mapM step = .ok others ∧
        results = result :: others := by
  rw [List.mapM_cons, bind_eq_ok]
  constructor
  · rintro ⟨result, stepped, returned⟩
    obtain ⟨others, later, same⟩ := bind_eq_ok.mp returned
    exact ⟨result, others, stepped, later, (pure_eq_ok.mp same).symm⟩
  · rintro ⟨result, others, stepped, later, rfl⟩
    exact ⟨result, stepped, bind_eq_ok.mpr ⟨others, later, rfl⟩⟩

/-- The results stand for the elements one by one. -/
theorem mapM_eq_ok :
    items.mapM step = .ok results ↔
      List.Forall₂ (fun item result => step item = .ok result) items results := by
  induction items generalizing results with
  | nil =>
      rw [List.forall₂_nil_left_iff]
      exact pure_eq_ok.trans eq_comm
  | cons item rest hypothesis =>
      rw [mapM_cons_eq_ok, List.forall₂_cons_left_iff]
      constructor
      · rintro ⟨result, others, stepped, later, same⟩
        exact ⟨result, others, stepped, hypothesis.mp later, same⟩
      · rintro ⟨result, others, stepped, later, same⟩
        exact ⟨result, others, stepped, hypothesis.mpr later, same⟩

/-- Other orders of the elements return other orders of the results. -/
theorem mapM_perm {others : List α} (same : items.Perm others)
    (returned : items.mapM step = .ok results) :
    ∃ moved, others.mapM step = .ok moved ∧ results.Perm moved := by
  induction same generalizing results with
  | nil => exact ⟨results, returned, .refl _⟩
  | cons item _ hypothesis =>
      obtain ⟨result, rest, stepped, later, rfl⟩ := mapM_cons_eq_ok.mp returned
      obtain ⟨moved, again, perm⟩ := hypothesis later
      exact ⟨_, mapM_cons_eq_ok.mpr ⟨result, moved, stepped, again, rfl⟩, perm.cons _⟩
  | swap first second tail =>
      obtain ⟨one, rest, stepped, later, rfl⟩ := mapM_cons_eq_ok.mp returned
      obtain ⟨two, others, steppedToo, last, rfl⟩ := mapM_cons_eq_ok.mp later
      exact ⟨_, mapM_cons_eq_ok.mpr ⟨two, _, steppedToo,
        mapM_cons_eq_ok.mpr ⟨one, others, stepped, last, rfl⟩, rfl⟩, .swap ..⟩
  | trans _ _ first second =>
      obtain ⟨middle, again, perm⟩ := first returned
      obtain ⟨moved, reached, further⟩ := second again
      exact ⟨moved, reached, perm.trans further⟩

/-- Where a partial function is defined on every element, its results stand for them. -/
theorem filterMap_forall₂ {find : α → Option β}
    (found : ∀ item ∈ items, ∃ result, find item = some result) :
    List.Forall₂ (fun item result => find item = some result) items (items.filterMap find) := by
  induction items with
  | nil => exact .nil
  | cons item rest hypothesis =>
      obtain ⟨result, same⟩ := found item List.mem_cons_self
      rw [List.filterMap_cons_some same]
      exact .cons same (hypothesis fun other member => found other (List.mem_cons_of_mem _ member))

/-- Where every step returns, all of them do. -/
theorem mapM_of_ok (result : α → β)
    (each : ∀ item ∈ items, step item = .ok (result item)) :
    items.mapM step = .ok (items.map result) :=
  mapM_eq_ok.mpr (List.forall₂_map_right_iff.mpr (List.forall₂_same.mpr each))

/-- Steps that return lists return together what each of them returns. -/
theorem mapM_flatten_ok {step : α → Except ε (List β)} {belongs : α → β → Prop}
    (each : ∀ item ∈ items, ∃ result, step item = .ok result ∧
      ∀ value, value ∈ result ↔ belongs item value) :
    ∃ results, items.mapM step = .ok results ∧
      ∀ value, value ∈ results.flatten ↔ ∃ item ∈ items, belongs item value := by
  induction items with
  | nil => exact ⟨[], rfl, by simp⟩
  | cons item rest hypothesis =>
      obtain ⟨result, stepped, here⟩ := each item List.mem_cons_self
      obtain ⟨others, later, there⟩ :=
        hypothesis fun other member => each other (List.mem_cons_of_mem _ member)
      refine ⟨result :: others, mapM_cons_eq_ok.mpr ⟨result, others, stepped, later, rfl⟩, ?_⟩
      intro value
      rw [List.flatten_cons, List.mem_append, here, there, List.exists_mem_cons_iff]

/-- A fold depends on its step at the elements only. -/
theorem foldlM_same {step other : β → α → Except ε β}
    (same : ∀ item ∈ items, ∀ state, step state item = other state item) (state : β) :
    items.foldlM step state = items.foldlM other state := by
  induction items generalizing state with
  | nil => rfl
  | cons item rest hypothesis =>
      rw [List.foldlM_cons, List.foldlM_cons, same item List.mem_cons_self]
      exact congrArg _ (funext fun next =>
        hypothesis (fun later member => same later (List.mem_cons_of_mem _ member)) next)

theorem foldlM_cons_eq_ok {step : β → α → Except ε β} {item : α} {rest : List α}
    {state final : β} :
    (item :: rest).foldlM step state = .ok final ↔
      ∃ next, step state item = .ok next ∧ rest.foldlM step next = .ok final := by
  rw [List.foldlM_cons, bind_eq_ok]

variable {holds : β → Prop}

/-- A fold keeps what each of its steps keeps. -/
theorem foldlM_keeps {step : β → α → Except ε β}
    (keeps : ∀ item ∈ items, ∀ before after, holds before → step before item = .ok after →
      holds after)
    {first last : β} (start : holds first) (folded : items.foldlM step first = .ok last) :
    holds last := by
  induction items generalizing first with
  | nil =>
      obtain rfl := pure_eq_ok.mp folded
      exact start
  | cons item rest hypothesis =>
      obtain ⟨middle, stepped, after⟩ := foldlM_cons_eq_ok.mp folded
      exact hypothesis (fun other member => keeps other (List.mem_cons_of_mem _ member))
        (keeps item List.mem_cons_self first middle start stepped) after

/-- What every step keeps, and the step at one of the elements brings about, holds in the end. -/
theorem foldlM_brings {step : β → α → Except ε β} (holds : β → Prop)
    (keeps : ∀ item ∈ items, ∀ before after, holds before → step before item = .ok after →
      holds after)
    {chosen : α} (member : chosen ∈ items)
    (brings : ∀ before after, step before chosen = .ok after → holds after) {first last : β}
    (folded : items.foldlM step first = .ok last) : holds last := by
  induction items generalizing first with
  | nil => cases member
  | cons item rest hypothesis =>
      obtain ⟨middle, stepped, after⟩ := foldlM_cons_eq_ok.mp folded
      have later : ∀ other ∈ rest, ∀ before after, holds before →
          step before other = .ok after → holds after :=
        fun other inRest => keeps other (List.mem_cons_of_mem _ inRest)
      rcases List.mem_cons.mp member with rfl | inRest
      · exact foldlM_keeps later (brings first middle stepped) after
      · exact hypothesis later inRest after

/-- An error of a fold is an error of one of its steps. -/
theorem foldlM_eq_error {step : β → α → Except ε β} {state : β}
    (raised : items.foldlM step state = .error problem) :
    ∃ item ∈ items, ∃ state, step state item = .error problem := by
  induction items generalizing state with
  | nil => cases raised
  | cons item rest hypothesis =>
      rw [List.foldlM_cons] at raised
      rcases bind_eq_error raised with here | ⟨next, _, later⟩
      · exact ⟨item, List.mem_cons_self, state, here⟩
      · obtain ⟨other, member, found⟩ := hypothesis later
        exact ⟨other, List.mem_cons_of_mem _ member, found⟩

/-! ## What a computation yields -/

end OnecRuntime.Library
