import OnecRuntime.Contexts.Registry

/-!
# What expiry changes

Most calls look for ended leases first, some of them several times. Together they remove bindings
whose lease had ended at a reading of the clock within the call, and change nothing else.
-/

namespace OnecRuntime.Contexts

open OnecRuntime.Library

variable {Time Config : Type}

namespace Registry

theorem eraseAll_nil (bindings : Dictionary String (Binding Time Config)) :
    bindings.eraseAll [] = bindings :=
  Dictionary.eq_of_entries (List.filter_eq_self.2 fun _ _ => rfl)

theorem eraseAll_eraseAll (bindings : Dictionary String (Binding Time Config))
    (first second : List String) :
    (bindings.eraseAll first).eraseAll second = bindings.eraseAll (first ++ second) := by
  refine Dictionary.eq_of_entries ((List.filter_filter ..).trans (List.filter_congr fun entry _ => ?_))
  simp [Bool.and_comm]

theorem discard_nil (connections : Holdings (String × String) String) :
    Holdings.discard [] connections = connections := by
  refine Dictionary.eq_of_entries ((List.map_congr_left fun entry _ => ?_).trans (List.map_id _))
  exact Prod.ext rfl (List.filter_eq_self.2 fun _ _ => rfl)

theorem discard_discard (connections : Holdings (String × String) String)
    (first second : List String) :
    Holdings.discard second (Holdings.discard first connections) =
      Holdings.discard (first ++ second) connections := by
  refine Dictionary.eq_of_entries ((List.map_map ..).trans (List.map_congr_left fun entry _ => ?_))
  refine Prod.ext rfl ((List.filter_filter ..).trans (List.filter_congr fun binding _ => ?_))
  simp [Bool.and_comm]

theorem without_nil (registry : Registry Time Config) : registry.without [] = registry := by
  rw [without, eraseAll_nil, discard_nil, List.append_nil]
  rfl

theorem without_without (registry : Registry Time Config) (first second : List String) :
    (registry.without first).without second = registry.without (first ++ second) := by
  simp only [without, eraseAll_eraseAll, discard_discard, List.append_assoc, List.length_append,
    Nat.add_assoc]

theorem without_get? {registry : Registry Time Config} {gone : List String} {binding : String}
    {current : Binding Time Config} :
    (registry.without gone).bindings.get? binding = some current ↔
      binding ∉ gone ∧ registry.bindings.get? binding = some current := by
  rw [Dictionary.get?_eq_some, Dictionary.get?_eq_some]
  exact Dictionary.mem_eraseAll

theorem mem_without_selected {registry : Registry Time Config} {gone : List String}
    {owner connection binding : String} :
    binding ∈ (registry.without gone).selected owner connection ↔
      binding ∉ gone ∧ binding ∈ registry.selected owner connection :=
  Holdings.mem_held_discard

end Registry

section Leases

variable [LinearOrder Time] {settings : Settings Time Config}
  {registry later last : Registry Time Config} {binding owner : String}
  {current : Binding Time Config}

/-- The lease of a binding ended at a reading of the clock between two states. -/
def Ended (settings : Settings Time Config) (registry later : Registry Time Config)
    (current : Binding Time Config) : Prop :=
  ∃ tick, registry.ticks ≤ tick ∧ tick < later.ticks ∧ current.deadline ≤ settings.clock tick

theorem Ended.mono {first : Registry Time Config} (ended : Ended settings registry later current)
    (before : first.ticks ≤ registry.ticks) (behind : later.ticks ≤ last.ticks) :
    Ended settings first last current := by
  obtain ⟨tick, lower, upper, past⟩ := ended
  exact ⟨tick, before.trans lower, upper.trans_le behind, past⟩

/-- The second state is the first one without some bindings whose lease has ended. -/
structure Expires (settings : Settings Time Config) (registry later : Registry Time Config) :
    Prop where
  ticks : registry.ticks ≤ later.ticks
  removed : ∃ gone, later = { registry.without gone with ticks := later.ticks } ∧
    ∀ binding ∈ gone, ∃ current, registry.bindings.get? binding = some current ∧
      Ended settings registry later current

namespace Expires

theorem refl (registry : Registry Time Config) : Expires settings registry registry :=
  ⟨le_rfl, [], by rw [Registry.without_nil], List.forall_mem_nil _⟩

theorem trans (first : Expires settings registry later) (second : Expires settings later last) :
    Expires settings registry last := by
  obtain ⟨before, gone, made, ended⟩ := first
  obtain ⟨behind, lost, left, past⟩ := second
  refine ⟨before.trans behind, gone ++ lost, ?_, fun binding among => ?_⟩
  · rw [← Registry.without_without, left]
    have same : later.without lost =
        { (registry.without gone).without lost with ticks := later.ticks } := by
      rw [made]
      rfl
    rw [same]
  · rcases List.mem_append.1 among with old | new
    · obtain ⟨current, stored, past⟩ := ended binding old
      exact ⟨current, stored, past.mono le_rfl behind⟩
    · obtain ⟨current, stored, past⟩ := past binding new
      rw [made] at stored
      exact ⟨current, (Registry.without_get?.1 stored).2, past.mono before le_rfl⟩

/-- A reading of the clock alone. -/
theorem of_ticks {ticks : Nat} (before : registry.ticks ≤ ticks) :
    Expires settings registry { registry with ticks := ticks } :=
  ⟨before, [], by rw [Registry.without_nil], List.forall_mem_nil _⟩

variable (expires : Expires settings registry later)

include expires

/-- What is left was there before. -/
theorem stored (left : later.bindings.get? binding = some current) :
    registry.bindings.get? binding = some current := by
  obtain ⟨_, gone, made, _⟩ := expires
  rw [made] at left
  exact (Registry.without_get?.1 left).2

/-- What was there is left, or its lease has ended. -/
theorem left_or_ended (stored : registry.bindings.get? binding = some current) :
    later.bindings.get? binding = some current ∨
      later.bindings.get? binding = none ∧ Ended settings registry later current := by
  obtain ⟨_, gone, made, ended⟩ := expires
  by_cases lost : binding ∈ gone
  · obtain ⟨other, held, past⟩ := ended binding lost
    obtain rfl : current = other := Option.some.inj (stored.symm.trans held)
    refine .inr ⟨?_, past⟩
    rw [made]
    exact Dictionary.get?_eraseAll_removed _ lost
  · left
    rw [made]
    exact Registry.without_get?.2 ⟨lost, stored⟩

theorem selected (connection : String) (inside : binding ∈ later.selected owner connection) :
    binding ∈ registry.selected owner connection := by
  obtain ⟨_, gone, made, _⟩ := expires
  rw [made] at inside
  exact (Registry.mem_without_selected.1 inside).2

end Expires

/-! ## The calls that look for ended leases -/

theorem mem_expired : binding ∈ expired settings registry ↔
    ∃ place current, registry.bindings.entries[place]? = some (binding, current) ∧
      current.deadline ≤ settings.clock (registry.ticks + place) := by
  rw [expired, List.mem_filterMap]
  constructor
  · rintro ⟨⟨⟨key, current⟩, tick⟩, entry, past⟩
    rw [Option.ite_none_right_eq_some, Option.some.injEq] at past
    obtain ⟨past, rfl⟩ := past
    rw [List.mem_zipIdx_iff_le_and_getElem?_sub] at entry
    exact ⟨tick - registry.ticks, current, entry.2, by rwa [Nat.add_sub_cancel' entry.1]⟩
  · rintro ⟨place, current, entry, past⟩
    refine ⟨((binding, current), registry.ticks + place), ?_, if_pos past⟩
    rw [List.mem_zipIdx_iff_le_and_getElem?_sub, Nat.add_sub_cancel_left]
    exact ⟨Nat.le_add_right _ _, entry⟩

theorem expires_pruned (settings : Settings Time Config) (registry : Registry Time Config) :
    Expires settings registry (pruned settings registry) := by
  refine ⟨Nat.le_add_right _ _, expired settings registry, rfl, fun binding among => ?_⟩
  obtain ⟨place, current, entry, past⟩ := mem_expired.1 among
  refine ⟨current, Dictionary.get?_eq_some.2 (List.mem_of_getElem? entry),
    registry.ticks + place, Nat.le_add_right _ _, ?_, past⟩
  exact Nat.add_lt_add_left (List.getElem?_eq_some_iff.1 entry).1 _

/-- What a look for ended leases leaves had not ended when it began. -/
theorem pruned_live (monotone : Monotone settings.clock)
    (left : (pruned settings registry).bindings.get? binding = some current) :
    settings.clock registry.ticks < current.deadline := by
  obtain ⟨kept, stored⟩ := Registry.without_get?.1 left
  obtain ⟨place, entry⟩ := List.getElem?_of_mem (Dictionary.get?_eq_some.1 stored)
  by_contra past
  refine kept (mem_expired.2 ⟨place, current, entry, ?_⟩)
  exact (le_of_not_gt past).trans (monotone (Nat.le_add_right _ _))

/-- `_owned` looks for ended leases, and gives a binding of the owner that is left. -/
theorem owned_cases {outcome : Except Failure (Binding Time Config)}
    (called : owned settings binding owner registry = (outcome, later)) :
    later = pruned settings registry ∧
      ∀ current, outcome = .ok current →
        later.bindings.get? binding = some current ∧ current.owner = owner := by
  unfold owned at called
  rw [Action.bind_ok (rfl : prune settings registry = _), Action.get_bind] at called
  cases found : (pruned settings registry).bindings.get? binding with
  | none =>
    rw [found] at called
    cases called
    exact ⟨rfl, fun _ same => nomatch same⟩
  | some current =>
    rw [found] at called
    dsimp only at called
    by_cases mine : current.owner = owner
    · rw [if_pos mine] at called
      cases called
      refine ⟨rfl, fun other same => ?_⟩
      cases same
      exact ⟨found, mine⟩
    · rw [if_neg mine] at called
      cases called
      exact ⟨rfl, fun _ same => nomatch same⟩

end Leases

end OnecRuntime.Contexts
