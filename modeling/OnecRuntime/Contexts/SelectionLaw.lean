import Mathlib.Data.List.Dedup
import OnecRuntime.Contexts.CallLaw

/-!
# Selections and acknowledgements

A selection is taken when every binding of it is stored, belongs to the owner and is selected by no
other connection. An acknowledgement is taken when every item of the batch is about a selected
binding and its current epoch.
-/

namespace OnecRuntime.Contexts

open OnecRuntime.Library

variable {Time Config : Type} [LinearOrder Time] {settings : Settings Time Config}
  {registry later : Registry Time Config} {owner connection : String}

/-! ## Selections -/

/-- The binding belongs to the owner, and no other connection has it. -/
def Free (registry : Registry Time Config) (owner connection binding : String) : Prop :=
  ∀ current, registry.bindings.get? binding = some current → current.owner = owner ∧
    ∀ holder, holder ≠ (owner, connection) → binding ∉ Holdings.held registry.connections holder

theorem Free.expires {binding : String} (free : Free registry owner connection binding)
    (expires : Expires settings registry later) : Free later owner connection binding := by
  intro current left
  obtain ⟨mine, alone⟩ := free current (expires.stored left)
  exact ⟨mine, fun holder apart inside => alone holder apart (expires.selected holder.2 inside)⟩

theorem admitAll_cases {bindings : List String} {outcome : Except Failure Unit}
    (done : admitAll settings connection owner bindings registry = (outcome, later)) :
    Expires settings registry later ∧
      ((∃ problem, outcome = .error problem) ∨
        ∀ binding ∈ bindings, Free later owner connection binding) := by
  induction bindings generalizing registry with
  | nil =>
    cases done
    exact ⟨.refl _, .inr (List.forall_mem_nil _)⟩
  | cons binding rest follows =>
    unfold admitAll at done
    have expires := expires_pruned settings registry
    rcases Action.bind_cases done with ⟨answer, middle, called, ended⟩ | ⟨problem, raised, same⟩
    · rcases owned_bind called with ⟨current, found, mine, answered⟩ | ⟨-, problem, same⟩
      · rw [Action.get_bind] at answered
        cases answered
        cases elsewhere : Holdings.heldElsewhere (pruned settings registry).connections
          (owner, connection) binding with
        | true =>
          rw [elsewhere] at ended
          cases ended
          exact ⟨expires, .inl ⟨_, rfl⟩⟩
        | false =>
          rw [elsewhere] at ended
          obtain ⟨more, outcomes⟩ := follows ended
          refine ⟨expires.trans more, outcomes.imp_right fun free => ?_⟩
          refine List.forall_mem_cons.2 ⟨Free.expires ?_ more, free⟩
          intro other left
          obtain rfl := Option.some.inj (found.symm.trans left)
          refine ⟨mine, fun holder apart inside => ?_⟩
          rw [Holdings.heldElsewhere_iff.2 ⟨holder, apart, inside⟩] at elsewhere
          cases elsewhere
      · cases same
    · rcases owned_bind raised with ⟨current, found, mine, answered⟩ | ⟨rfl, -⟩
      · cases answered
      · exact ⟨expires, .inl ⟨problem, same⟩⟩

/-- What a new selection rests on: its bindings are stored and free, and their documents differ. -/
structure Admissible (registry : Registry Time Config) (owner connection : String)
    (incoming : List String) : Prop where
  stored : ∀ binding ∈ incoming, ∃ current, registry.bindings.get? binding = some current
  free : ∀ binding ∈ incoming, Free registry owner connection binding
  documents : ∀ first ∈ incoming, ∀ second ∈ incoming,
    (registry.bindings.get? first).map Binding.documentUri =
      (registry.bindings.get? second).map Binding.documentUri → first = second

theorem select_cases {bindings : List String} {outcome : Except Failure Unit}
    (done : select settings connection owner bindings registry = (outcome, later)) :
    Expires settings registry later ∨ (∃ answer, outcome = .ok answer) ∧
      ∃ middle incoming, Expires settings registry middle ∧
        Admissible middle owner connection incoming ∧
        later = chosen owner connection incoming middle := by
  unfold select at done
  rcases Action.bind_cases done with ⟨answer, middle, called, ended⟩ | ⟨problem, raised, -⟩
  · obtain ⟨expires, ⟨_, same⟩ | free⟩ := admitAll_cases called
    · cases same
    rw [Action.get_bind] at ended
    split at ended
    · cases ended
      exact .inl expires
    next stored =>
    split at ended
    · cases ended
      exact .inl expires
    next several =>
    split at ended
    · cases ended
      exact .inl expires
    · cases ended
      refine .inr ⟨⟨(), rfl⟩, middle, _, expires, ⟨fun binding inside => ?_, free, ?_⟩, rfl⟩
      · by_contra missing
        push Not at missing
        refine stored (List.mem_map.2 ⟨binding, inside, ?_⟩)
        rw [Option.eq_none_iff_forall_ne_some.2 missing]
        rfl
      · have distinct : (bindings.dedup.map fun binding =>
            (middle.bindings.get? binding).map Binding.documentUri).Nodup := by
          have whole := (List.dedup_sublist _).eq_of_length
            ((not_not.1 several).trans (List.length_map _).symm)
          exact whole ▸ List.nodup_dedup _
        exact fun first one second two same => List.inj_on_of_nodup_map distinct one two same
  · exact .inl (admitAll_cases raised).1

/-- What giving up some bindings does to the bindings that stay. -/
theorem step_releasing (registry : Registry Time Config) (dropped : List String) :
    Step settings (fun changed before after => after = before ∨
      changed ∈ dropped ∧ after = before.released) registry (releasing dropped registry) := by
  refine (step_updates settings registry id (fun _ => Binding.released) (fun _ _ _ => rfl)
    (fun _ _ => rfl) dropped).mono ?_
  rintro changed before after (rfl | ⟨binding, among, rfl, rfl⟩)
  · exact .inl rfl
  · exact .inr ⟨among, rfl⟩

omit [LinearOrder Time] in
theorem update_connections (binding : String) (change : Binding Time Config → Binding Time Config)
    (registry : Registry Time Config) :
    (registry.update binding change).connections = registry.connections := by
  unfold Registry.update
  split <;> rfl

omit [LinearOrder Time] in
theorem releasing_connections (dropped : List String) (registry : Registry Time Config) :
    (releasing dropped registry).connections = registry.connections := by
  unfold releasing
  induction dropped generalizing registry with
  | nil => rfl
  | cons binding rest follows =>
    rw [List.foldl_cons, follows, update_connections]

/-! ## Acknowledgements -/

/-- An item is about a selected binding of the owner that is live, and about its epoch. -/
def Current (settings : Settings Time Config) (registry : Registry Time Config)
    (owner connection : String) (item : Acknowledged) : Prop :=
  item.binding ∈ registry.selected owner connection ∧
    ∃ before, registry.bindings.get? item.binding = some before ∧ before.owner = owner ∧
      item.epoch = before.status.epoch ∧ settings.clock registry.ticks < before.deadline

theorem Current.earlier (monotone : Monotone settings.clock) {item : Acknowledged}
    (current : Current settings later owner connection item)
    (expires : Expires settings registry later) :
    Current settings registry owner connection item := by
  obtain ⟨inside, before, held, mine, epoch, live⟩ := current
  exact ⟨expires.selected connection inside, before, expires.stored held, mine, epoch,
    (monotone expires.ticks).trans_lt live⟩

theorem examine_cases (monotone : Monotone settings.clock)
    {statuses : List (Option Acknowledged)} {outcome : Except Failure (Option (List Acknowledged))}
    (done : examine settings connection owner statuses registry = (outcome, later)) :
    Expires settings registry later ∧ ∀ admitted, outcome = .ok (some admitted) →
      statuses = admitted.map some ∧
        ∀ item ∈ admitted, Current settings registry owner connection item := by
  induction statuses generalizing registry outcome with
  | nil =>
    cases done
    refine ⟨.refl _, fun admitted same => ?_⟩
    cases same
    exact ⟨rfl, List.forall_mem_nil _⟩
  | cons status rest follows =>
    rcases status with _ | item
    · cases done
      exact ⟨.refl _, fun admitted same => nomatch same⟩
    unfold examine at done
    rw [Action.get_bind] at done
    split at done
    · cases done
      exact ⟨.refl _, fun admitted same => nomatch same⟩
    next selected =>
    rw [not_or, not_not] at selected
    have expires := expires_pruned settings registry
    rcases owned_bind done with ⟨current, found, mine, ended⟩ | ⟨rfl, problem, rfl⟩
    · split at ended
      · cases ended
        exact ⟨expires, fun admitted same => nomatch same⟩
      next fresh =>
      rw [not_or, not_not] at fresh
      rcases Action.bind_cases ended with ⟨more, middle, called, last⟩ | ⟨problem, raised, same⟩
      · cases last
        obtain ⟨further, items⟩ := follows called
        refine ⟨expires.trans further, fun admitted same => ?_⟩
        obtain ⟨behind, rfl, rfl⟩ := Option.map_eq_some_iff.1 (Except.ok.inj same)
        obtain ⟨shape, all⟩ := items behind rfl
        refine ⟨by rw [shape, List.map_cons], List.forall_mem_cons.2 ⟨⟨selected.1, current,
          expires.stored found, mine, fresh.1, pruned_live monotone found⟩, fun other among => ?_⟩⟩
        exact (all other among).earlier monotone expires
      · exact ⟨expires.trans (follows raised).1, fun admitted other => by rw [same] at other; cases other⟩
    · exact ⟨expires, fun admitted same => nomatch same⟩

variable (settings) in
/-- The binding keeps what the last item about it says. -/
theorem step_analysing (registry : Registry Time Config) (items : List Acknowledged) :
    Step settings (fun changed before after => after = before ∨
        ∃ item ∈ items, item.binding = changed ∧ after = before.analysed item) registry
      (items.foldl (fun registry item => registry.update item.binding (Binding.analysed item))
        registry) :=
  step_updates settings registry Acknowledged.binding Binding.analysed (fun _ _ _ => rfl)
    (fun _ _ => rfl) items

omit [LinearOrder Time] in
theorem get?_update_same (binding : String) (change : Binding Time Config → Binding Time Config)
    (registry : Registry Time Config) :
    (registry.update binding change).bindings.get? binding =
      (registry.bindings.get? binding).map change := by
  cases held : registry.bindings.get? binding with
  | none =>
    rw [Registry.update, held]
    exact held
  | some current =>
    rw [Registry.update_stored held]
    exact Dictionary.get?_set_same _ _ _

variable (settings) in
include settings in
/-- A binding of the batch that stays has been analysed by the batch. -/
theorem analysed_of_item {items : List Acknowledged} {item : Acknowledged} (among : item ∈ items)
    {after : Binding Time Config}
    (left : (items.foldl (fun registry item => registry.update item.binding (Binding.analysed item))
      registry).bindings.get? item.binding = some after) :
    ∃ other ∈ items, other.binding = item.binding ∧
      after.status.analysisState = other.state ∧ after.status.analysisReason = other.reason := by
  induction items generalizing registry with
  | nil => cases among
  | cons first rest follows =>
    rcases List.mem_cons.1 among with rfl | later
    · obtain ⟨before, held, rfl | ⟨other, inside, named, rfl⟩⟩ :=
        (step_analysing settings (registry.update item.binding (Binding.analysed item)) rest).stored left
      · rw [get?_update_same, Option.map_eq_some_iff] at held
        obtain ⟨earlier, -, rfl⟩ := held
        exact ⟨item, List.mem_cons_self, rfl, rfl, rfl⟩
      · exact ⟨other, List.mem_cons_of_mem _ inside, named, rfl, rfl⟩
    · obtain ⟨other, inside, analysed⟩ := follows later left
      exact ⟨other, List.mem_cons_of_mem _ inside, analysed⟩

theorem acknowledge_cases (monotone : Monotone settings.clock)
    {statuses : Option (List (Option Acknowledged))} {outcome : Except Failure Bool}
    (done : acknowledge settings connection owner statuses registry = (outcome, later)) :
    Expires settings registry later ∧ outcome ≠ .ok true ∨
      outcome = .ok true ∧ ∃ (items : List Acknowledged) (middle : Registry Time Config),
        statuses = some (items.map some) ∧
        Expires settings registry middle ∧
        (∀ item ∈ items, Current settings registry owner connection item) ∧
        later = items.foldl (fun registry item =>
          registry.update item.binding (Binding.analysed item)) middle := by
  unfold acknowledge at done
  rcases statuses with _ | statuses
  · cases done
    exact .inl ⟨.refl _, fun same => nomatch same⟩
  dsimp only at done
  split at done
  · cases done
    exact .inl ⟨.refl _, fun same => nomatch same⟩
  rcases Action.bind_cases done with ⟨admitted, middle, called, ended⟩ | ⟨problem, raised, rfl⟩
  · obtain ⟨expires, items⟩ := examine_cases monotone called
    rcases admitted with _ | admitted
    · cases ended
      exact .inl ⟨expires, fun same => nomatch same⟩
    · cases ended
      obtain ⟨shape, all⟩ := items admitted rfl
      exact .inr ⟨rfl, admitted, middle, congrArg some shape, expires, all, rfl⟩
  · exact .inl ⟨(examine_cases monotone raised).1, fun same => nomatch same⟩

end OnecRuntime.Contexts
