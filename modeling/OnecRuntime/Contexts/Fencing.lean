import OnecRuntime.Contexts.RegistryLaw

/-!
# Calls on a reached state

Each call is of one of the kinds, so the laws of the kinds hold of all of them. A run issues every
identity once, as the registry does with its random ones.
-/

namespace OnecRuntime.Contexts

open OnecRuntime.Library

variable {Time Config : Type} [LinearOrder Time] {settings : Settings Time Config}
  {registry later : Registry Time Config} {request : Request Config}

/-! ## The kind of each call -/

/-- The call looks for ended leases and raises or does nothing more, or it moves. -/
def Kind (settings : Settings Time Config) (request : Request Config) {α : Type}
    (registry : Registry Time Config) (outcome : Except Failure α) (later : Registry Time Config) :
    Prop :=
  Expires settings registry later ∨
    (∃ answer, outcome = .ok answer) ∧ Moved settings request registry later

variable {outcome : Except Failure Value}

theorem giving_kind {α : Type} {call : Call Time Config α} {value : α → Value}
    (kind : ∀ result, call registry = (result, later) → Kind settings request registry result later)
    (done : giving call value registry = (outcome, later)) :
    Kind settings request registry outcome later := by
  rcases giving_cases done with ⟨result, called, rfl⟩ | ⟨problem, raised, rfl⟩
  · exact (kind _ called).imp_right fun moved => ⟨⟨_, rfl⟩, moved.2⟩
  · rcases kind _ raised with expires | ⟨⟨_, same⟩, -⟩
    · exact .inl expires
    · cases same

variable {binding : String}

variable {owner : String}

/-- A call that looks up a binding of an owner to read something. -/
theorem owned_kind {α : Type}
    {next : Binding Time Config → Call Time Config α} {outcome : Except Failure α}
    (reads : ∀ current state, (next current state).2 = state)
    (done : (owned settings binding owner >>= next) registry = (outcome, later)) :
    Expires settings registry later := by
  rcases owned_bind done with ⟨current, -, -, ended⟩ | ⟨rfl, -⟩
  · have same : (outcome, later).2 = pruned settings registry :=
      ended ▸ reads current (pruned settings registry)
    rw [show later = pruned settings registry from same]
    exact expires_pruned _ _
  · exact expires_pruned _ _

omit [LinearOrder Time] in
theorem detach_reselected (owner connection : String) :
    Reselected owner connection [] registry ((detach connection owner registry).2 : Registry Time Config) where
  bindings := ⟨_, List.Subset.refl _, rfl⟩
  ticks := releasing_ticks _ _
  held := Holdings.held_erase_same _ _
  others holder apart :=
    (Holdings.held_erase_other _ apart).trans (by rw [releasing_connections])
  admissible := ⟨List.forall_mem_nil _, List.forall_mem_nil _, List.forall_mem_nil _⟩

/-! ## What a call shows -/

/-- A binding that is shown belongs to the owner, and its lease had not ended. -/
def Showable (settings : Settings Time Config) (registry : Registry Time Config) (owner : String)
    (binding : String) : Prop :=
  ∃ current, registry.bindings.get? binding = some current ∧ current.owner = owner ∧
    settings.clock registry.ticks < current.deadline

/-- What a look for ended leases leaves to an owner can be shown. -/
theorem showable_pruned (monotone : Monotone settings.clock)
    {current : Binding Time Config}
    (found : (pruned settings registry).bindings.get? binding = some current)
    (mine : current.owner = owner) : Showable settings registry owner binding :=
  ⟨current, (expires_pruned settings registry).stored found, mine, pruned_live monotone found⟩

theorem showable_entries (monotone : Monotone settings.clock)
    {entry : String × Binding Time Config}
    (listed : entry ∈ entriesOf owner (pruned settings registry)) :
    Showable settings registry owner entry.1 := by
  obtain ⟨stored, mine⟩ := List.mem_filter.1 listed
  exact showable_pruned monotone (Dictionary.get?_eq_some.2 stored) (of_decide_eq_true mine)

variable [DecidableEq Config]

theorem perform_kind (monotone : Monotone settings.clock) (sound : Sound registry)
    (done : perform settings request registry = (outcome, later)) :
    Kind settings request registry outcome later := by
  have pruning := expires_pruned settings registry
  cases request with
  | bind owner notebookPath kernelId documentUri binding =>
    refine giving_kind (fun result called => ?_) done
    rcases bind_cases called with expires | ⟨rfl, middle, next, expires, rfl, -, -, -, plain⟩
    · exact .inl expires
    · exact .inr ⟨⟨_, rfl⟩, .bound (List.mem_singleton_self _) expires plain⟩
  | attach connection owner binding =>
    refine giving_kind (fun result called => ?_) done
    unfold attach at called
    rw [Action.get_bind] at called
    rcases select_cases called with expires | ⟨answer, middle, incoming, expires, admissible, rfl⟩
    · exact .inl expires
    · exact .inr ⟨answer, .reselected (.inl ⟨binding, rfl⟩) expires (reselected_chosen admissible)⟩
  | select connection owner bindings =>
    refine giving_kind (fun result called => ?_) done
    rcases select_cases called with expires | ⟨answer, middle, incoming, expires, admissible, rfl⟩
    · exact .inl expires
    · exact .inr ⟨answer, .reselected (.inr (.inl ⟨bindings, rfl⟩)) expires (reselected_chosen admissible)⟩
  | detach connection owner =>
    refine giving_kind (fun result called => ?_) done
    cases called
    exact .inr ⟨⟨(), rfl⟩, .reselected (.inr (.inr rfl)) (.refl registry) (detach_reselected owner connection)⟩
  | acceptConfig binding incarnation config client probe =>
    refine giving_kind (fun result called => ?_) done
    have asked : (Request.acceptConfig binding incarnation config client probe).owner? = none := rfl
    obtain ⟨answer, step⟩ := acceptConfig_step monotone sound.plain asked called
    exact .inr ⟨answer, .changed step⟩
  | degrade binding reason client =>
    refine giving_kind (fun result called => ?_) done
    obtain ⟨answer, step⟩ := degrade_step monotone sound.plain called
    exact .inr ⟨answer, .changed (step.mono fun _ _ _ degrades => degrades.change rfl)⟩
  | invalidateKernel kernelId =>
    refine giving_kind (fun result called => ?_) done
    unfold invalidateKernel at called
    rw [Action.get_bind] at called
    obtain ⟨answer, step⟩ := invalidateAll_step monotone sound.plain called
    exact .inr ⟨answer, .changed (step.mono fun _ _ _ degrades => degrades.change rfl)⟩
  | acknowledge connection owner statuses =>
    refine giving_kind (fun result called => ?_) done
    rcases acknowledge_cases monotone called with ⟨expires, -⟩ |
      ⟨rfl, items, middle, rfl, expires, current, rfl⟩
    · exact .inl expires
    · refine .inr ⟨⟨true, rfl⟩, .changed ?_⟩
      refine (expires.step.trans (step_analysing settings middle items)
        fun _ _ _ same => by rw [same]).implies ?_
      rintro changed before after held ⟨_, rfl, rfl | ⟨item, among, rfl, rfl⟩⟩
      · exact .same
      · obtain ⟨inside, other, same, -, epoch, live⟩ := current item among
        obtain rfl : _ = other := Option.some.inj (held.symm.trans same)
        exact .acknowledged rfl (List.mem_map_of_mem among) rfl inside epoch live
  | renew binding owner =>
    refine giving_kind (fun result called => ?_) done
    rcases renew_step monotone called with expires | ⟨answer, step⟩
    · exact .inl expires
    · exact .inr ⟨answer, .changed step⟩
  | unbind binding owner =>
    refine giving_kind (fun result called => ?_) done
    rcases unbind_cases called with expires | ⟨answer, rfl, current, held, mine⟩
    · exact .inl expires
    · exact .inr ⟨answer, .unbound rfl pruning held mine⟩
  | prune =>
    refine giving_kind (fun result called => ?_) done
    cases called
    exact .inl pruning
  | close =>
    refine giving_kind (fun result called => ?_) done
    cases called
    exact .inr ⟨⟨(), rfl⟩, .closed rfl rfl rfl⟩
  | selectable connection owner binding =>
    exact giving_kind (fun result called => .inl (owned_kind (fun _ _ => rfl) called)) done
  | status binding owner =>
    exact giving_kind (fun result called => .inl (owned_kind (fun _ _ => rfl) called)) done
  | association binding owner =>
    exact giving_kind (fun result called => .inl (owned_kind (fun _ _ => rfl) called)) done
  | context binding owner =>
    exact giving_kind (fun result called => .inl (owned_kind (fun _ _ => rfl) called)) done
  | contexts owner =>
    refine giving_kind (fun result called => ?_) done
    cases called
    exact .inl pruning
  | associations owner =>
    refine giving_kind (fun result called => ?_) done
    cases called
    exact .inl pruning
  | connectionContexts connection owner =>
    refine giving_kind (fun result called => ?_) done
    cases called
    exact .inl pruning

theorem perform_shown (monotone : Monotone settings.clock) {value : Value}
    (done : perform settings request registry = (.ok value, later))
    (shown : binding ∈ value.shown) :
    ∃ owner, request.owner? = some owner ∧ Showable settings registry owner binding := by
  cases request with
  | status asked owner =>
    rcases giving_cases done with ⟨result, called, same⟩ | ⟨problem, -, same⟩
    · cases same
      rcases owned_bind called with ⟨current, found, mine, -⟩ | ⟨-, problem, same⟩
      · rw [List.mem_singleton.1 shown]
        exact ⟨owner, rfl, showable_pruned monotone found mine⟩
      · cases same
    · cases same
  | association asked owner =>
    rcases giving_cases done with ⟨result, called, same⟩ | ⟨problem, -, same⟩
    · cases same
      rcases owned_bind called with ⟨current, found, mine, ended⟩ | ⟨-, problem, same⟩
      · cases ended
        rw [List.mem_singleton.1 shown]
        exact ⟨owner, rfl, showable_pruned monotone found mine⟩
      · cases same
    · cases same
  | context asked owner =>
    rcases giving_cases done with ⟨result, called, same⟩ | ⟨problem, -, same⟩
    · cases same
      rcases owned_bind called with ⟨current, found, mine, ended⟩ | ⟨-, problem, same⟩
      · cases ended
        rw [List.mem_singleton.1 shown]
        exact ⟨owner, rfl, showable_pruned monotone found mine⟩
      · cases same
    · cases same
  | contexts owner =>
    rcases giving_cases done with ⟨result, called, same⟩ | ⟨problem, -, same⟩
    · cases same
      cases called
      obtain ⟨shape, among, rfl⟩ := List.mem_map.1 shown
      obtain ⟨entry, listed, rfl⟩ := List.mem_map.1 among
      exact ⟨owner, rfl, showable_entries monotone listed⟩
    · cases same
  | associations owner =>
    rcases giving_cases done with ⟨result, called, same⟩ | ⟨problem, -, same⟩
    · cases same
      cases called
      obtain ⟨shape, among, rfl⟩ := List.mem_map.1 shown
      obtain ⟨entry, listed, rfl⟩ := List.mem_map.1 among
      exact ⟨owner, rfl, showable_entries monotone listed⟩
    · cases same
  | connectionContexts connection owner =>
    rcases giving_cases done with ⟨result, called, same⟩ | ⟨problem, -, same⟩
    · cases same
      cases called
      obtain ⟨shape, among, rfl⟩ := List.mem_map.1 shown
      obtain ⟨chosen, -, listed⟩ := List.mem_filterMap.1 among
      split at listed
      · next current found =>
        rw [Option.ite_none_right_eq_some, Option.some.injEq] at listed
        obtain ⟨mine, rfl⟩ := listed
        exact ⟨owner, rfl, showable_pruned monotone found mine⟩
      · cases listed
    · cases same
  | _ =>
    rcases giving_cases done with ⟨result, -, same⟩ | ⟨problem, -, same⟩
    · cases same
      cases shown
    · cases same

/-! ## Runs -/

/-- The states that calls reach, and the identities that were issued. -/
inductive Reached (settings : Settings Time Config) : List String → Registry Time Config → Prop
  | start : Reached settings [] .fresh
  | call {issued : List String} {registry later : Registry Time Config} {request : Request Config}
      {outcome : Except Failure Value} (before : Reached settings issued registry)
      (fresh : ∀ binding ∈ request.issues, binding ∉ issued)
      (done : perform settings request registry = (outcome, later)) :
      Reached settings (request.issues ++ issued) later

omit [LinearOrder Time] [DecidableEq Config] in
theorem sound_fresh : Sound (.fresh : Registry Time Config) where
  selected inside := nomatch inside
  exclusive := Holdings.exclusive_empty
  documents inside := nomatch inside
  plain _ _ held := nomatch held

section

variable {before after : Binding Time Config}

omit [DecidableEq Config] in
/-- A call takes up no binding but the one it issues. -/
theorem Kind.stored {α : Type} {outcome : Except Failure α}
    (kind : Kind settings request registry outcome later)
    (left : later.bindings.get? binding = some after) :
    binding ∈ request.issues ∨ ∃ before, registry.bindings.get? binding = some before := by
  rcases kind with expires | ⟨-, moved⟩
  · exact .inr ⟨after, expires.stored left⟩
  cases moved with
  | changed step =>
    obtain ⟨before, held, -⟩ := step.stored left
    exact .inr ⟨before, held⟩
  | bound asked expires plain =>
    rcases Dictionary.get?_set_eq_some.1 left with ⟨rfl, -⟩ | ⟨-, held⟩
    · exact .inl asked
    · exact .inr ⟨after, expires.stored held⟩
  | unbound asked expires _ _ =>
    exact .inr ⟨after, expires.stored (Registry.without_get?.1 left).2⟩
  | reselected asked expires reselected =>
    obtain ⟨dropped, -, step⟩ := reselected.released settings
    obtain ⟨before, held, -⟩ := step.stored left
    exact .inr ⟨before, expires.stored held⟩
  | closed asked bindings connections =>
    rw [bindings] at left
    cases left

omit [DecidableEq Config] in
/-- A binding that is gone had come to the end of its lease, or was given up, or all were. -/
theorem Kind.removed {α : Type} {outcome : Except Failure α}
    (kind : Kind settings request registry outcome later)
    (held : registry.bindings.get? binding = some before)
    (gone : later.bindings.get? binding = none) :
    Ended settings registry later before ∨ request = .unbind binding before.owner ∨
      request = .close := by
  rcases kind with expires | ⟨-, moved⟩
  · rcases expires.left_or_ended held with left | ⟨-, ended⟩
    · exact nomatch gone.symm.trans left
    · exact .inl ended
  · exact moved.removed held gone

omit [DecidableEq Config] in
/-- A binding that stays has changed in one of the six ways. -/
theorem Kind.changes {α : Type} {outcome : Except Failure α}
    (kind : Kind settings request registry outcome later)
    (fresh : ∀ binding ∈ request.issues, registry.bindings.get? binding = none)
    (held : registry.bindings.get? binding = some before)
    (left : later.bindings.get? binding = some after) :
    Change settings request registry binding before after := by
  rcases kind with expires | ⟨-, moved⟩
  · obtain rfl := Option.some.inj (held.symm.trans (expires.stored left))
    exact .same
  · exact moved.changes held fresh left

theorem reached_sound (monotone : Monotone settings.clock) {issued : List String}
    (reached : Reached settings issued registry) :
    Sound registry ∧ ∀ binding current, registry.bindings.get? binding = some current →
      binding ∈ issued := by
  induction reached with
  | start => exact ⟨sound_fresh, fun _ _ held => nomatch held⟩
  | @call issued registry later request outcome before fresh done follows =>
    obtain ⟨sound, known⟩ := follows
    have kind := perform_kind monotone sound done
    have new : ∀ binding ∈ request.issues, registry.bindings.get? binding = none := by
      intro binding asked
      cases held : registry.bindings.get? binding with
      | none => rfl
      | some current => exact absurd (known binding current held) (fresh binding asked)
    constructor
    · rcases kind with expires | ⟨-, moved⟩
      · exact sound.expires expires
      · exact moved.sound sound new
    · intro binding current left
      rcases kind.stored left with asked | ⟨former, held⟩
      · exact List.mem_append_left _ asked
      · exact List.mem_append_right _ (known binding former held)

/-! ## What a call does on a reached state -/

/-- What the epoch of a binding fences: its configuration, root and incarnation, and the reason of
its mode. -/
def Binding.project (current : Binding Time Config) :
    Option Config × Option String × Option String × Option String :=
  (current.config, current.sourceRoot, current.incarnation, current.status.reason)

def Binding.analysis (current : Binding Time Config) : String × Option String :=
  (current.status.analysisState, current.status.analysisReason)

omit [DecidableEq Config] in
/-- The epoch grows exactly with a change of what it fences. -/
theorem Change.epoch (change : Change settings request registry binding before after) :
    before.status.epoch ≤ after.status.epoch ∧
      (before.status.epoch < after.status.epoch ↔ before.project ≠ after.project) := by
  have kept (same : after.status.epoch = before.status.epoch)
      (project : after.project = before.project) : before.status.epoch ≤ after.status.epoch ∧
      (before.status.epoch < after.status.epoch ↔ before.project ≠ after.project) := by
    rw [same, project]
    exact ⟨le_rfl, fun less => absurd less (lt_irrefl _), fun differs => absurd rfl differs⟩
  have grown (next : after.status.epoch = before.status.epoch + 1)
      (differs : before.project ≠ after.project) : before.status.epoch ≤ after.status.epoch ∧
      (before.status.epoch < after.status.epoch ↔ before.project ≠ after.project) :=
    ⟨by omega, fun _ => differs, fun _ => by omega⟩
  cases change with
  | degraded asked differs live =>
    refine grown rfl fun same => ?_
    simp only [Binding.project, Binding.degraded, ContextStatus.ofMode, Prod.mk.injEq] at same
    exact differs.elim (fun some => some same.1) fun other => other same.2.2.2
  | configured asked differs live =>
    refine grown rfl fun same => ?_
    simp only [Binding.project, Binding.configured, Prod.mk.injEq] at same
    exact differs.elim (fun other => other same.1) fun other => other same.2.2.1
  | _ => exact kept rfl rfl

/-- What a call may do, with its outcome and the state it leaves. -/
structure Fenced (settings : Settings Time Config) (request : Request Config)
    (registry : Registry Time Config) (outcome : Except Failure Value)
    (later : Registry Time Config) : Prop where
  /-- A call that raises has only removed bindings whose lease had ended. -/
  raised : ∀ problem, outcome = .error problem → Expires settings registry later
  epoch : ∀ binding before after, registry.bindings.get? binding = some before →
    later.bindings.get? binding = some after → before.status.epoch ≤ after.status.epoch ∧
      (before.status.epoch < after.status.epoch ↔ before.project ≠ after.project)
  /-- An analysis comes from an acknowledgement by the selecting connection about the epoch. -/
  analysis : ∀ binding before after, registry.bindings.get? binding = some before →
    later.bindings.get? binding = some after → after.analysis = before.analysis ∨
      after.analysis = ("unknown", none) ∨ ∃ connection owner statuses item,
        request = .acknowledge connection owner (some statuses) ∧ some item ∈ statuses ∧
        item.binding = binding ∧ binding ∈ registry.selected owner connection ∧
        item.epoch = before.status.epoch ∧ after.analysis = (item.state, item.reason)
  /-- A batch is taken as a whole or not at all. -/
  batch : ∀ connection owner statuses, request = .acknowledge connection owner statuses →
    Expires settings registry later ∧ outcome ≠ .ok (.flag true) ∨
      outcome = .ok (.flag true) ∧ ∃ items : List Acknowledged, statuses = some (items.map some) ∧
        (∀ item ∈ items, Current settings registry owner connection item) ∧
        ∀ item ∈ items, ∀ after, later.bindings.get? item.binding = some after →
          ∃ other ∈ items, other.binding = item.binding ∧ after.analysis = (other.state, other.reason)
  /-- A call of an owner leaves the bindings of the others, those apart whose lease has ended. -/
  foreign : ∀ owner, request.owner? = some owner → ∀ binding before,
    registry.bindings.get? binding = some before → before.owner ≠ owner →
      later.bindings.get? binding = some before ∨
        later.bindings.get? binding = none ∧ Ended settings registry later before
  /-- A binding whose lease had ended is removed or left, or gives up its selection. -/
  leases : ∀ binding before, registry.bindings.get? binding = some before →
    before.deadline ≤ settings.clock registry.ticks → later.bindings.get? binding = none ∨
      later.bindings.get? binding = some before ∨
        later.bindings.get? binding = some before.released ∧
          ∃ owner connection, request.Reselects owner connection ∧
            binding ∈ registry.selected owner connection
  /-- What is shown to an owner are live bindings of that owner. -/
  shown : ∀ value, outcome = .ok value → ∀ binding ∈ value.shown, ∃ owner,
    request.owner? = some owner ∧ Showable settings registry owner binding

omit [DecidableEq Config] in
theorem Change.analysed (change : Change settings request registry binding before after) :
    after.analysis = before.analysis ∨ after.analysis = ("unknown", none) ∨
      ∃ connection owner statuses item, request = .acknowledge connection owner (some statuses) ∧
        some item ∈ statuses ∧ item.binding = binding ∧
        binding ∈ registry.selected owner connection ∧
        item.epoch = before.status.epoch ∧ after.analysis = (item.state, item.reason) := by
  cases change with
  | same => exact .inl rfl
  | renewed asked mine live => exact .inl rfl
  | released asked inside => exact .inr (.inl rfl)
  | degraded asked differs live => exact .inr (.inl rfl)
  | configured asked differs live => exact .inr (.inl rfl)
  | acknowledged asked among named inside epoch live =>
    exact .inr (.inr ⟨_, _, _, _, asked, among, named, inside, epoch, rfl⟩)

omit [DecidableEq Config] in
/-- A call of an owner changes no binding of another one. -/
theorem Change.foreign {owner : String}
    (change : Change settings request registry binding before after) (sound : Sound registry)
    (held : registry.bindings.get? binding = some before) (asker : request.owner? = some owner)
    (apart : before.owner ≠ owner) : after = before := by
  have selects {connection : String} (inside : binding ∈ registry.selected owner connection) :
      after = before := by
    obtain ⟨current, stored, mine⟩ := sound.selected inside
    obtain rfl := Option.some.inj (held.symm.trans stored)
    exact absurd mine apart
  cases change with
  | same => rfl
  | released asked inside =>
    obtain rfl := Option.some.inj (asked.owner.symm.trans asker)
    exact selects inside
  | renewed asked mine live =>
    subst asked
    exact absurd (mine.trans (Option.some.inj asker)) apart
  | acknowledged asked among named inside epoch live =>
    subst asked
    obtain rfl := Option.some.inj asker
    exact selects inside
  | degraded asked differs live => exact nomatch asked.symm.trans asker
  | configured asked differs live => exact nomatch asked.symm.trans asker

omit [DecidableEq Config] in
/-- A binding whose lease had ended changes only with the selection it is in. -/
theorem Change.ended (change : Change settings request registry binding before after)
    (ended : before.deadline ≤ settings.clock registry.ticks) :
    after = before ∨ after = before.released ∧ ∃ owner connection,
      request.Reselects owner connection ∧ binding ∈ registry.selected owner connection := by
  cases change with
  | same => exact .inl rfl
  | released asked inside => exact .inr ⟨rfl, _, _, asked, inside⟩
  | renewed asked mine live => exact absurd live ended.not_gt
  | acknowledged asked among named inside epoch live => exact absurd live ended.not_gt
  | degraded asked differs live => exact absurd live ended.not_gt
  | configured asked differs live => exact absurd live ended.not_gt

end

/-- A batch is taken as a whole, or nothing of it. -/
theorem acknowledge_batch (monotone : Monotone settings.clock) {connection : String}
    {statuses : Option (List (Option Acknowledged))}
    (done : perform settings (.acknowledge connection owner statuses) registry = (outcome, later)) :
    Expires settings registry later ∧ outcome ≠ .ok (.flag true) ∨
      outcome = .ok (.flag true) ∧ ∃ items : List Acknowledged, statuses = some (items.map some) ∧
        (∀ item ∈ items, Current settings registry owner connection item) ∧
        ∀ item ∈ items, ∀ after, later.bindings.get? item.binding = some after →
          ∃ other ∈ items, other.binding = item.binding ∧
            after.analysis = (other.state, other.reason) := by
  rcases giving_cases done with ⟨result, called, rfl⟩ | ⟨problem, raised, rfl⟩
  · rcases acknowledge_cases monotone called with ⟨expires, differs⟩ |
      ⟨same, items, middle, shape, expires, current, rfl⟩
    · refine .inl ⟨expires, fun same => differs ?_⟩
      cases same
      rfl
    · cases same
      refine .inr ⟨rfl, items, shape, current, fun item among after left => ?_⟩
      obtain ⟨other, inside, named, state, reason⟩ := analysed_of_item settings among left
      exact ⟨other, inside, named, Prod.ext state reason⟩
  · rcases acknowledge_cases monotone raised with ⟨expires, differs⟩ | ⟨same, -⟩
    · exact .inl ⟨expires, fun same => nomatch same⟩
    · cases same

theorem fenced (monotone : Monotone settings.clock) {issued : List String}
    (reached : Reached settings issued registry)
    (fresh : ∀ binding ∈ request.issues, binding ∉ issued)
    (done : perform settings request registry = (outcome, later)) :
    Fenced settings request registry outcome later := by
  obtain ⟨sound, known⟩ := reached_sound monotone reached
  have new : ∀ binding ∈ request.issues, registry.bindings.get? binding = none := by
    intro binding asked
    cases held : registry.bindings.get? binding with
    | none => rfl
    | some current => exact absurd (known binding current held) (fresh binding asked)
  have kind := perform_kind monotone sound done
  constructor
  · rintro problem rfl
    rcases kind with expires | ⟨⟨answer, same⟩, -⟩
    · exact expires
    · cases same
  · intro binding before after held left
    exact (kind.changes new held left).epoch
  · intro binding before after held left
    exact (kind.changes new held left).analysed
  · rintro connection owner statuses rfl
    exact acknowledge_batch monotone done
  · intro owner asker binding before held apart
    cases left : later.bindings.get? binding with
    | some after =>
      exact .inl (congrArg some ((kind.changes new held left).foreign sound held asker apart))
    | none =>
      rcases kind.removed held left with ended | rfl | rfl
      · exact .inr ⟨rfl, ended⟩
      · exact absurd (Option.some.inj asker) apart
      · cases asker
  · intro binding before held ended
    cases left : later.bindings.get? binding with
    | none => exact .inl rfl
    | some after =>
      rcases (kind.changes new held left).ended ended with rfl | ⟨rfl, asked⟩
      · exact .inr (.inl rfl)
      · exact .inr (.inr ⟨rfl, asked⟩)
  · rintro value rfl binding shown
    exact perform_shown monotone done shown

theorem Reached.after {issued : List String} (request : Request Config)
    (before : Reached settings issued registry)
    (fresh : ∀ binding ∈ request.issues, binding ∉ issued) :
    Reached settings (request.issues ++ issued) (perform settings request registry).2 :=
  .call before fresh rfl

end OnecRuntime.Contexts
