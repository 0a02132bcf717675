import OnecRuntime.Contexts.Steps

/-!
# What each call does

A call that raises has only looked for ended leases. One that does not has changed bindings in one
of the six ways, or has taken one up or removed one.
-/

namespace OnecRuntime.Contexts

open OnecRuntime.Library

variable {Time Config : Type} [LinearOrder Time]
  {settings : Settings Time Config} {registry later : Registry Time Config}
  {binding owner connection : String}

/-- `_owned` in a sequence: it raises, or a binding of the owner goes on. -/
theorem owned_bind {α : Type} {next : Binding Time Config → Call Time Config α}
    {outcome : Except Failure α}
    (done : (owned settings binding owner >>= next) registry = (outcome, later)) :
    (∃ current, (pruned settings registry).bindings.get? binding = some current ∧
      current.owner = owner ∧ next current (pruned settings registry) = (outcome, later)) ∨
      later = pruned settings registry ∧ ∃ problem, outcome = .error problem := by
  rcases Action.bind_cases done with ⟨current, middle, called, ended⟩ | ⟨problem, raised, same⟩
  · obtain ⟨rfl, found⟩ := owned_cases called
    obtain ⟨held, mine⟩ := found current rfl
    exact .inl ⟨current, held, mine, ended⟩
  · exact .inr ⟨(owned_cases raised).1, problem, same⟩

/-! ## The project of a binding -/

/-- The bindings of a state without a configuration are plain. -/
def AllPlain (registry : Registry Time Config) : Prop :=
  ∀ binding current, registry.bindings.get? binding = some current → current.Plain

theorem AllPlain.expires (plain : AllPlain registry) (expires : Expires settings registry later) :
    AllPlain later := fun binding current left => plain binding current (expires.stored left)

/-- What a degradation does to a binding that stays. -/
def Degrades (settings : Settings Time Config) (registry : Registry Time Config) (reason : String) :
    Effect Time Config := fun _ before after =>
  after = before ∨ after = before.degraded reason ∧
    (before.config ≠ none ∨ before.status.reason ≠ some reason) ∧
    settings.clock registry.ticks < before.deadline

variable {reason : String} {before after : Binding Time Config}

theorem Degrades.change {request : Request Config}
    (degrades : Degrades settings registry reason binding before after)
    (asked : request.owner? = none) : Change settings request registry binding before after := by
  rcases degrades with rfl | ⟨rfl, differs, live⟩
  · exact .same
  · exact .degraded asked differs live

/-- The object of a binding is replaced behind a look for ended leases. -/
theorem step_replaced {middle : Registry Time Config} {current next : Binding Time Config}
    (expires : Expires settings registry middle)
    (held : middle.bindings.get? binding = some current) :
    Step settings (fun changed before after => after = before ∨
      changed = binding ∧ before = current ∧ after = next) registry (middle.set binding next) := by
  have replaced : Step settings _ middle (middle.set binding next) := step_set held rfl rfl rfl
  refine (expires.step.trans replaced fun _ _ _ same => by rw [same]).mono ?_
  rintro changed before after ⟨middle, rfl, effect⟩
  exact effect

/-- The revision is no part of a step. -/
theorem Step.revised {effect : Effect Time Config} (step : Step settings effect registry later) :
    Step settings effect registry later.revised :=
  ⟨step.ticks, step.stored, step.ended, step.selected, step.kept⟩

theorem degrade_step (monotone : Monotone settings.clock) (plain : AllPlain registry)
    {client : Option Client} {outcome : Except Failure Bool}
    (done : degrade settings binding reason client registry = (outcome, later)) :
    (∃ answer, outcome = .ok answer) ∧ Step settings (Degrades settings registry reason) registry later := by
  have expires := expires_pruned settings registry
  have unchanged : Step settings (Degrades settings registry reason) registry
      (pruned settings registry) := expires.step.mono fun _ _ _ same => .inl same
  unfold degrade at done
  rw [Action.bind_ok (rfl : prune settings registry = _), Action.get_bind] at done
  cases found : (pruned settings registry).bindings.get? binding with
  | none =>
    rw [found] at done
    cases done
    exact ⟨⟨false, rfl⟩, unchanged⟩
  | some current =>
    rw [found] at done
    dsimp only at done
    split at done
    · cases done
      exact ⟨⟨false, rfl⟩, unchanged⟩
    · split at done
      · cases done
        exact ⟨⟨false, rfl⟩, unchanged⟩
      · next guarded =>
        cases done
        refine ⟨⟨true, rfl⟩, (step_replaced expires found).revised.mono ?_⟩
        rintro changed before after (rfl | ⟨rfl, rfl, rfl⟩)
        · exact .inl rfl
        · refine .inr ⟨rfl, ?_, pruned_live monotone found⟩
          by_contra idle
          push Not at idle
          obtain ⟨root, -, mode, installation⟩ := plain _ _ (expires.stored found) idle.1
          exact guarded ⟨idle.1, root, mode, idle.2, installation⟩

theorem Degrades.plain (step : Step settings (Degrades settings registry reason) registry later)
    (plain : AllPlain registry) : AllPlain later := by
  intro binding after left
  obtain ⟨before, stored, rfl | ⟨rfl, -⟩⟩ := step.stored left
  · exact plain binding _ stored
  · exact fun _ => ⟨rfl, rfl, rfl, rfl⟩

/-- A degradation behind some other readings of the clock. -/
theorem Degrades.earlier {first : Registry Time Config}
    (monotone : Monotone settings.clock)
    (ticks : first.ticks ≤ registry.ticks)
    (degrades : Degrades settings registry reason binding before after) :
    Degrades settings first reason binding before after := by
  rcases degrades with same | ⟨same, differs, live⟩
  · exact .inl same
  · exact .inr ⟨same, differs, (monotone ticks).trans_lt live⟩

/-- Two degradations for one reason are one. -/
theorem Degrades.twice {middle : Binding Time Config}
    (first : Degrades settings registry reason binding before middle)
    (second : Degrades settings registry reason binding middle after) :
    Degrades settings registry reason binding before after := by
  rcases first with rfl | ⟨rfl, differs, live⟩
  · exact second
  · rcases second with rfl | ⟨-, again | again, -⟩
    · exact .inr ⟨rfl, differs, live⟩
    · exact absurd rfl again
    · exact absurd rfl again

theorem Degrades.deadline (degrades : Degrades settings registry reason binding before after) :
    after.deadline = before.deadline := by
  rcases degrades with rfl | ⟨rfl, -⟩ <;> rfl

/-- The clients are closed, and nothing else changes. -/
theorem step_closing (closing : List String) :
    Step settings (fun _ before after => after = before) registry
      { registry with closing := closing } where
  ticks := le_rfl
  stored left := ⟨_, left, rfl⟩
  ended held gone := nomatch gone.symm.trans held
  selected inside := inside
  kept _ gone := gone

variable {outcome : Except Failure Unit}

theorem invalidateAll_step (monotone : Monotone settings.clock) {kernelId : Option String}
    {entries : List (String × Binding Time Config)}
    (plain : AllPlain registry)
    (done : invalidateAll settings kernelId entries registry = (outcome, later)) :
    (∃ answer, outcome = .ok answer) ∧
      Step settings (Degrades settings registry "kernel-incarnation-changed") registry later := by
  induction entries generalizing registry with
  | nil =>
    cases done
    exact ⟨⟨(), rfl⟩, (Expires.refl _).step.mono fun _ _ _ same => .inl same⟩
  | cons entry rest follows =>
    obtain ⟨binding, current⟩ := entry
    unfold invalidateAll at done
    dsimp only at done
    by_cases named : current.kernelId = kernelId
    · rw [if_pos named, Action.modify_bind] at done
      have closed : Step settings _ registry
          { registry with closing := registry.closing ++ [binding] } := step_closing _
      have still : AllPlain { registry with closing := registry.closing ++ [binding] } := plain
      rcases Action.bind_cases done with ⟨answer, middle, called, ended⟩ | ⟨problem, raised, -⟩
      · have first := (degrade_step monotone still called).2
        obtain ⟨answered, second⟩ := follows (Degrades.plain first still) ended
        refine ⟨answered, (closed.trans (first.trans second fun _ _ _ => Degrades.deadline)
          fun _ _ _ same => by rw [same]).mono ?_⟩
        rintro changed before after ⟨_, rfl, between, earlier, late⟩
        exact earlier.twice (late.earlier monotone first.ticks)
      · obtain ⟨⟨answer, same⟩, -⟩ := degrade_step monotone still raised
        cases same
    · rw [if_neg named] at done
      exact follows plain done

section Accepting

variable [DecidableEq Config]

theorem acceptConfig_step (monotone : Monotone settings.clock) (plain : AllPlain registry)
    {incarnation : Option String} {config : Option Config} {client : Option Client} {probe : Probe}
    {outcome : Except Failure Bool} {request : Request Config} (asked : request.owner? = none)
    (done : acceptConfig settings binding incarnation config client probe registry =
      (outcome, later)) :
    (∃ answer, outcome = .ok answer) ∧ Step settings (Change settings request registry) registry later := by
  have expires := expires_pruned settings registry
  have unchanged : Step settings (Change settings request registry) registry
      (pruned settings registry) := expires.step.mono fun _ _ _ same => same ▸ .same
  unfold acceptConfig at done
  rw [Action.bind_ok (rfl : prune settings registry = _), Action.get_bind] at done
  cases found : (pruned settings registry).bindings.get? binding with
  | none =>
    rw [found] at done
    cases done
    exact ⟨⟨false, rfl⟩, unchanged⟩
  | some current =>
    rw [found] at done
    rcases client with _ | client
    · cases done
      exact ⟨⟨false, rfl⟩, unchanged⟩
    rcases config with _ | config
    · cases done
      exact ⟨⟨false, rfl⟩, unchanged⟩
    dsimp only at done
    split at done
    · cases done
      exact ⟨⟨false, rfl⟩, unchanged⟩
    split at done
    · cases done
      exact ⟨⟨false, rfl⟩, unchanged⟩
    next differs =>
    split at done
    · rcases Action.bind_cases done with ⟨answer, middle, called, ended⟩ | ⟨problem, raised, -⟩
      · cases ended
        have degrades := (degrade_step monotone (plain.expires expires) called).2
        refine ⟨⟨false, rfl⟩, (expires.step.trans degrades fun _ _ _ same => by rw [same]).mono ?_⟩
        rintro changed before after ⟨_, rfl, effect⟩
        exact (effect.earlier monotone expires.ticks).change asked
      · obtain ⟨⟨answer, same⟩, -⟩ := degrade_step monotone (plain.expires expires) raised
        cases same
    · cases done
      refine ⟨⟨true, rfl⟩, (step_replaced expires found).revised.mono ?_⟩
      rintro changed before after (rfl | ⟨rfl, rfl, rfl⟩)
      · exact .same
      · exact .configured asked (not_and_or.1 differs) (pruned_live monotone found)

end Accepting

/-! ## Leases -/

theorem renew_step (monotone : Monotone settings.clock)
    (done : renew settings binding owner registry = (outcome, later)) :
    Expires settings registry later ∨ (∃ answer, outcome = .ok answer) ∧
      Step settings (Change settings (.renew binding owner : Request Config) registry) registry later := by
  have read : Expires settings registry { registry with ticks := registry.ticks + 1 } :=
    .of_ticks (Nat.le_succ _)
  unfold renew at done
  rw [Action.bind_ok (rfl : now settings registry = _)] at done
  rcases owned_bind done with ⟨current, found, mine, ended⟩ | ⟨rfl, -⟩
  · cases ended
    have expires := read.trans (expires_pruned settings { registry with ticks := registry.ticks + 1 })
    refine .inr ⟨⟨(), rfl⟩, ?_⟩
    show Step settings _ registry (Registry.update binding _ (pruned settings _))
    rw [Registry.update_stored found]
    refine (step_replaced expires found).mono ?_
    rintro changed before after (rfl | ⟨rfl, rfl, rfl⟩)
    · exact .same
    · exact .renewed rfl mine ((monotone read.ticks).trans_lt (pruned_live monotone found))
  · exact .inl (read.trans (expires_pruned _ _))

/-- A binding that is given up by its owner, and nothing else. -/
theorem unbind_cases (done : unbind settings binding owner registry = (outcome, later)) :
    Expires settings registry later ∨ (∃ answer, outcome = .ok answer) ∧
      later = (pruned settings registry).without [binding] ∧
      ∃ current, (pruned settings registry).bindings.get? binding = some current ∧
        current.owner = owner := by
  rcases owned_bind done with ⟨current, found, mine, ended⟩ | ⟨rfl, -⟩
  · cases ended
    exact .inr ⟨⟨(), rfl⟩, rfl, current, found, mine⟩
  · exact .inl (expires_pruned _ _)

/-- A binding that is taken up, behind a look for ended leases and a reading of the clock. -/
theorem bind_cases {notebookPath documentUri : String} {kernelId : Option String}
    {outcome : Except Failure String}
    (done : bind settings owner notebookPath kernelId documentUri binding registry =
      (outcome, later)) :
    Expires settings registry later ∨ outcome = .ok binding ∧
      ∃ middle next, Expires settings registry middle ∧ later = (middle.set binding next).revised ∧
        next.owner = owner ∧ next.documentUri = documentUri ∧ next.config = none ∧ next.Plain := by
  unfold bind at done
  split at done
  · cases done
    exact .inl (.refl _)
  · rw [Action.bind_ok (rfl : prune settings registry = _), Action.get_bind] at done
    have expires := expires_pruned settings registry
    split at done
    · cases done
      exact .inl expires
    · rw [Action.bind_ok (rfl : now settings (pruned settings registry) = _), Action.modify_bind] at done
      cases done
      exact .inr ⟨rfl, _, _, expires.trans (.of_ticks (Nat.le_succ _)), rfl, rfl, rfl, rfl,
        fun _ => ⟨rfl, rfl, rfl, rfl⟩⟩

end OnecRuntime.Contexts
