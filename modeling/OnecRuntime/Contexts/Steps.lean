import OnecRuntime.Contexts.Expiry

/-!
# Steps of the registry

A step removes bindings whose lease has ended, takes no binding up, and gives no selection away;
what it does to the bindings that stay is a relation of its own. Steps follow one another as these
relations do.
-/

namespace OnecRuntime.Contexts

open OnecRuntime.Library

variable {Time Config : Type} [LinearOrder Time] {settings : Settings Time Config}
  {registry later last : Registry Time Config}

/-- What a step does to a binding that stays. -/
abbrev Effect (Time Config : Type) := String → Binding Time Config → Binding Time Config → Prop

structure Step (settings : Settings Time Config) (effect : Effect Time Config)
    (registry later : Registry Time Config) : Prop where
  ticks : registry.ticks ≤ later.ticks
  stored : ∀ {binding after}, later.bindings.get? binding = some after →
    ∃ before, registry.bindings.get? binding = some before ∧ effect binding before after
  ended : ∀ {binding before}, registry.bindings.get? binding = some before →
    later.bindings.get? binding = none → Ended settings registry later before
  selected : ∀ {owner connection binding}, binding ∈ later.selected owner connection →
    binding ∈ registry.selected owner connection
  kept : ∀ {owner connection binding}, binding ∈ later.selected owner connection →
    later.bindings.get? binding = none → registry.bindings.get? binding = none

namespace Step

variable {effect other : Effect Time Config}

/-- An effect on the bindings that are there is another one. -/
theorem implies (step : Step settings effect registry later)
    (implied : ∀ binding before after, registry.bindings.get? binding = some before →
      effect binding before after → other binding before after) :
    Step settings other registry later where
  ticks := step.ticks
  stored left := by
    obtain ⟨before, held, change⟩ := step.stored left
    exact ⟨before, held, implied _ _ _ held change⟩
  ended := step.ended
  selected := step.selected
  kept := step.kept

theorem mono (step : Step settings effect registry later)
    (implied : ∀ binding before after, effect binding before after → other binding before after) :
    Step settings other registry later :=
  step.implies fun binding before after _ => implied binding before after

/-- A step that leaves the deadlines, and one behind it. -/
theorem trans (first : Step settings effect registry later) (second : Step settings other later last)
    (deadline : ∀ binding before after, effect binding before after →
      after.deadline = before.deadline) :
    Step settings (fun binding before after =>
      ∃ middle, effect binding before middle ∧ other binding middle after) registry last where
  ticks := first.ticks.trans second.ticks
  stored left := by
    obtain ⟨middle, between, change⟩ := second.stored left
    obtain ⟨before, held, earlier⟩ := first.stored between
    exact ⟨before, held, middle, earlier, change⟩
  ended {binding before} held gone := by
    cases between : later.bindings.get? binding with
    | none => exact (first.ended held between).mono le_rfl second.ticks
    | some middle =>
      obtain ⟨earlier, same, change⟩ := first.stored between
      obtain rfl : before = earlier := Option.some.inj (held.symm.trans same)
      obtain ⟨tick, lower, upper, past⟩ := second.ended between gone
      exact ⟨tick, first.ticks.trans lower, upper, by rwa [deadline _ _ _ change] at past⟩
  selected inside := first.selected (second.selected inside)
  kept inside gone := first.kept (second.selected inside) (second.kept inside gone)

end Step

theorem Expires.step (expires : Expires settings registry later) :
    Step settings (fun _ before after => after = before) registry later where
  ticks := expires.ticks
  stored left := ⟨_, expires.stored left, rfl⟩
  ended held gone := by
    rcases expires.left_or_ended held with left | ⟨-, past⟩
    · exact nomatch gone.symm.trans left
    · exact past
  selected inside := expires.selected _ inside
  kept {owner connection binding} inside gone := by
    obtain ⟨_, lost, made, _⟩ := expires
    rw [made] at inside gone
    cases held : registry.bindings.get? binding with
    | none => rfl
    | some current =>
      have left := Registry.without_get?.2 ⟨(Registry.mem_without_selected.1 inside).1, held⟩
      exact nomatch gone.symm.trans left

/-- The object of one binding is replaced. -/
theorem step_set {binding : String} {current next : Binding Time Config}
    (held : registry.bindings.get? binding = some current)
    (bindings : later.bindings = registry.bindings.set binding next)
    (connections : later.connections = registry.connections) (ticks : later.ticks = registry.ticks) :
    Step settings (fun changed before after => after = before ∨
      changed = binding ∧ before = current ∧ after = next) registry later where
  ticks := ticks.ge
  stored {changed after} left := by
    rw [bindings, Dictionary.get?_set_eq_some] at left
    rcases left with ⟨rfl, rfl⟩ | ⟨apart, left⟩
    · exact ⟨current, held, .inr ⟨rfl, rfl, rfl⟩⟩
    · exact ⟨after, left, .inl rfl⟩
  ended {changed before} stored gone := by
    rw [bindings] at gone
    by_cases same : changed = binding
    · subst same
      rw [Dictionary.get?_set_same] at gone
      cases gone
    · rw [Dictionary.get?_set_other _ _ same] at gone
      exact nomatch gone.symm.trans stored
  selected inside := by
    rwa [Registry.selected, connections] at inside
  kept {owner connection changed} inside gone := by
    rw [bindings] at gone
    by_cases same : changed = binding
    · subst same
      rw [Dictionary.get?_set_same] at gone
      cases gone
    · rwa [Dictionary.get?_set_other _ _ same] at gone

omit [LinearOrder Time] in
theorem Registry.update_stored {binding : String} {current : Binding Time Config}
    (held : registry.bindings.get? binding = some current)
    (change : Binding Time Config → Binding Time Config) :
    registry.update binding change = registry.set binding (change current) := by
  rw [Registry.update, held]

theorem step_update (settings : Settings Time Config) (registry : Registry Time Config)
    (binding : String) (change : Binding Time Config → Binding Time Config) :
    Step settings (fun changed before after => after = before ∨
      changed = binding ∧ after = change before) registry (registry.update binding change) := by
  unfold Registry.update
  split
  · next current held =>
    have replaced : Step settings _ registry (registry.set binding (change current)) :=
      step_set held rfl rfl rfl
    refine replaced.mono fun changed before after effect => ?_
    rcases effect with same | ⟨one, old, new⟩
    · exact .inl same
    · exact .inr ⟨one, by rw [new, old]⟩
  · exact (Expires.refl registry).step.mono fun _ _ _ same => .inl same

/-- A change that is made for some items, each of them to one binding. -/
theorem step_updates {α : Type} (settings : Settings Time Config) (registry : Registry Time Config)
    (target : α → String) (change : α → Binding Time Config → Binding Time Config)
    (again : ∀ first second current, change second (change first current) = change second current)
    (deadline : ∀ item current, (change item current).deadline = current.deadline)
    (items : List α) :
    Step settings (fun changed before after => after = before ∨
        ∃ item ∈ items, target item = changed ∧ after = change item before) registry
      (items.foldl (fun registry item => registry.update (target item) (change item)) registry) := by
  induction items generalizing registry with
  | nil => exact (Expires.refl registry).step.mono fun _ _ _ same => .inl same
  | cons item items follows =>
    refine ((step_update settings registry (target item) (change item)).trans (follows _)
      ?_).mono ?_
    · rintro binding before after (rfl | ⟨-, rfl⟩)
      · rfl
      · exact deadline item before
    · rintro binding before after ⟨middle, rfl | ⟨one, rfl⟩, rfl | ⟨next, among, two, rfl⟩⟩
      · exact .inl rfl
      · exact .inr ⟨next, List.mem_cons_of_mem _ among, two, rfl⟩
      · exact .inr ⟨item, List.mem_cons_self, one.symm, rfl⟩
      · exact .inr ⟨next, List.mem_cons_of_mem _ among, two, again item next before⟩

end OnecRuntime.Contexts

/-!
# Calls of the registry

Every call is a request with its data, and its effect on the bindings that stay is one of six,
each with what had to hold for it. The calls are gone through once, and what a run keeps follows
from the effects.
-/

namespace OnecRuntime.Contexts

open OnecRuntime.Library

inductive Request (Config : Type) where
  | bind (owner notebookPath : String) (kernelId : Option String) (documentUri binding : String)
  | attach (connection owner binding : String)
  | select (connection owner : String) (bindings : List String)
  | detach (connection owner : String)
  | acceptConfig (binding : String) (incarnation : Option String) (config : Option Config)
      (client : Option Client) (probe : Probe)
  | degrade (binding reason : String) (client : Option Client)
  | invalidateKernel (kernelId : Option String)
  | acknowledge (connection owner : String) (statuses : Option (List (Option Acknowledged)))
  | renew (binding owner : String)
  | unbind (binding owner : String)
  | prune
  | close
  | selectable (connection owner binding : String)
  | status (binding owner : String)
  | association (binding owner : String)
  | context (binding owner : String)
  | contexts (owner : String)
  | associations (owner : String)
  | connectionContexts (connection owner : String)

inductive Value where
  | done
  | flag (answer : Bool)
  | count (number : Nat)
  | bound (binding : String)
  | status (binding : String) (status : ContextStatus)
  | associations (associations : List Association)
  | contexts (contexts : List Context)

/-- The bindings of which a value tells something. -/
def Value.shown : Value → List String
  | .status binding _ => [binding]
  | .associations found => found.map Association.bindingId
  | .contexts found => found.map Context.bindingId
  | _ => []

namespace Request

variable {Config : Type}

/-- The owner in whose name a call is made. -/
def owner? : Request Config → Option String
  | .bind owner _ _ _ _ | .attach _ owner _ | .select _ owner _ | .detach _ owner
  | .acknowledge _ owner _ | .renew _ owner | .unbind _ owner | .selectable _ owner _
  | .status _ owner | .association _ owner | .context _ owner | .contexts owner
  | .associations owner | .connectionContexts _ owner => some owner
  | .acceptConfig .. | .degrade .. | .invalidateKernel _ | .prune | .close => none

/-- The identities that a call brings into use. -/
def issues : Request Config → List String
  | .bind _ _ _ _ binding => [binding]
  | _ => []

/-- The call gives a connection a new selection. -/
def Reselects (request : Request Config) (owner connection : String) : Prop :=
  (∃ binding, request = .attach connection owner binding) ∨
    (∃ bindings, request = .select connection owner bindings) ∨ request = .detach connection owner

theorem Reselects.owner {request : Request Config} {owner connection : String}
    (asked : request.Reselects owner connection) : request.owner? = some owner := by
  rcases asked with ⟨_, rfl⟩ | ⟨_, rfl⟩ | rfl <;> rfl

end Request

section Perform

variable {Time Config : Type}

/-- The call, with its result as a value. -/
def giving {α : Type} (call : Call Time Config α) (value : α → Value) : Call Time Config Value := do
  let result ← call
  pure (value result)

theorem giving_cases {α : Type} {call : Call Time Config α} {value : α → Value}
    {outcome : Except Failure Value}
    {registry later : Registry Time Config} (done : giving call value registry = (outcome, later)) :
    (∃ result, call registry = (.ok result, later) ∧ outcome = .ok (value result)) ∨
      ∃ problem, call registry = (.error problem, later) ∧ outcome = .error problem := by
  rcases Action.bind_cases done with ⟨result, middle, called, ended⟩ | raised
  · cases ended
    exact .inl ⟨result, called, rfl⟩
  · exact .inr raised

variable [LinearOrder Time] [DecidableEq Config] (settings : Settings Time Config)

def perform : Request Config → Call Time Config Value
  | .bind owner notebookPath kernelId documentUri binding =>
      giving (bind settings owner notebookPath kernelId documentUri binding) .bound
  | .attach connection owner binding => giving (attach settings connection owner binding) fun _ => .done
  | .select connection owner bindings => giving (select settings connection owner bindings) fun _ => .done
  | .detach connection owner => giving (detach connection owner) fun _ => .done
  | .acceptConfig binding incarnation config client probe =>
      giving (acceptConfig settings binding incarnation config client probe) .flag
  | .degrade binding reason client => giving (degrade settings binding reason client) .flag
  | .invalidateKernel kernelId => giving (invalidateKernel settings kernelId) fun _ => .done
  | .acknowledge connection owner statuses =>
      giving (acknowledge settings connection owner statuses) .flag
  | .renew binding owner => giving (renew settings binding owner) fun _ => .done
  | .unbind binding owner => giving (unbind settings binding owner) fun _ => .done
  | .prune => giving (prune settings) .count
  | .close => giving close fun _ => .done
  | .selectable connection owner binding => giving (selectable settings connection owner binding) .flag
  | .status binding owner => giving (status settings binding owner) (.status binding)
  | .association binding owner => giving (association settings binding owner) fun found =>
      .associations [found]
  | .context binding owner => giving (context settings binding owner) fun found => .contexts [found]
  | .contexts owner => giving (contexts settings owner) .contexts
  | .associations owner => giving (associations settings owner) .associations
  | .connectionContexts connection owner =>
      giving (connectionContexts settings connection owner) .contexts

end Perform

/-! ## Effects -/

/-- Without a configuration there is nothing that came with one. -/
def Binding.Plain {Time Config : Type} (current : Binding Time Config) : Prop :=
  current.config = none → current.sourceRoot = none ∧ current.incarnation = none ∧
    current.status.mode = .virtualOnly ∧ current.status.installationId = none

section Effects

variable {Time Config : Type} [LinearOrder Time] {settings : Settings Time Config}

/-- What a call does to a binding that stays. -/
inductive Change (settings : Settings Time Config) (request : Request Config)
    (registry : Registry Time Config) (binding : String) (before : Binding Time Config) :
    Binding Time Config → Prop
  | same : Change settings request registry binding before before
  | released {owner connection : String} (asked : request.Reselects owner connection)
      (inside : binding ∈ registry.selected owner connection) :
      Change settings request registry binding before before.released
  | renewed {owner : String} {deadline : Time} (asked : request = .renew binding owner)
      (mine : before.owner = owner) (live : settings.clock registry.ticks < before.deadline) :
      Change settings request registry binding before (before.renewed deadline)
  | acknowledged {owner connection : String} {statuses : List (Option Acknowledged)}
      {item : Acknowledged} (asked : request = .acknowledge connection owner (some statuses))
      (among : some item ∈ statuses) (named : item.binding = binding)
      (inside : binding ∈ registry.selected owner connection)
      (epoch : item.epoch = before.status.epoch)
      (live : settings.clock registry.ticks < before.deadline) :
      Change settings request registry binding before (before.analysed item)
  | degraded {reason : String} (asked : request.owner? = none)
      (differs : before.config ≠ none ∨ before.status.reason ≠ some reason)
      (live : settings.clock registry.ticks < before.deadline) :
      Change settings request registry binding before (before.degraded reason)
  | configured {config : Config} {installationId : String} {root reason incarnation : Option String}
      (asked : request.owner? = none)
      (differs : before.config ≠ some config ∨ before.incarnation ≠ incarnation)
      (live : settings.clock registry.ticks < before.deadline) :
      Change settings request registry binding before
        (before.configured config installationId root reason incarnation)

end Effects

end OnecRuntime.Contexts
