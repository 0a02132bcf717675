import OnecRuntime.Contexts.SelectionLaw

/-!
# Exclusive and fenced bindings

In every state that a run of calls reaches, a binding is selected by one connection of its owner at
most. What a call did follows from the effects of its kind: what it did to epochs, to analyses, to
bindings of other owners and to those whose lease had ended.
-/

namespace OnecRuntime.Contexts

open OnecRuntime.Library

variable {Time Config : Type} [LinearOrder Time] {settings : Settings Time Config}
  {registry middle later : Registry Time Config} {request : Request Config}

/-! ## States -/

/-- What every reached state keeps. -/
structure Sound (registry : Registry Time Config) : Prop where
  selected : ∀ {owner connection binding}, binding ∈ registry.selected owner connection →
    ∃ current, registry.bindings.get? binding = some current ∧ current.owner = owner
  exclusive : Holdings.Exclusive registry.connections
  documents : ∀ {owner connection first second one two},
    first ∈ registry.selected owner connection → second ∈ registry.selected owner connection →
    registry.bindings.get? first = some one → registry.bindings.get? second = some two →
    one.documentUri = two.documentUri → first = second
  plain : AllPlain registry

/-- The effect leaves the owner and the document, and a plain binding plain. -/
def Respects (effect : Effect Time Config) : Prop :=
  ∀ binding before after, effect binding before after → after.owner = before.owner ∧
    after.documentUri = before.documentUri ∧ (before.Plain → after.Plain)

theorem Sound.step {effect : Effect Time Config} (sound : Sound registry)
    (step : Step settings effect registry later) (respects : Respects effect) : Sound later where
  selected {owner connection binding} inside := by
    obtain ⟨before, held, mine⟩ := sound.selected (step.selected inside)
    cases left : later.bindings.get? binding with
    | none => exact nomatch (step.kept inside left).symm.trans held
    | some after =>
      obtain ⟨other, same, change⟩ := step.stored left
      obtain rfl : before = other := Option.some.inj (held.symm.trans same)
      exact ⟨after, rfl, (respects _ _ _ change).1.trans mine⟩
  exclusive item holder other one two :=
    sound.exclusive item holder other (step.selected one) (step.selected two)
  documents {owner connection first second before after} one two left right same := by
    obtain ⟨former, held, change⟩ := step.stored left
    obtain ⟨latter, stored, other⟩ := step.stored right
    refine sound.documents (step.selected one) (step.selected two) held stored ?_
    rw [← (respects _ _ _ change).2.1, ← (respects _ _ _ other).2.1, same]
  plain binding after left := by
    obtain ⟨before, held, change⟩ := step.stored left
    exact (respects _ _ _ change).2.2 (sound.plain binding before held)

omit [LinearOrder Time] in
theorem respects_same : Respects (fun _ before after => after = before : Effect Time Config) := by
  rintro binding before after rfl
  exact ⟨rfl, rfl, id⟩

theorem Sound.expires (sound : Sound registry) (expires : Expires settings registry later) :
    Sound later := sound.step expires.step respects_same

theorem respects_change : Respects (Change settings request registry) := by
  intro binding before after change
  cases change with
  | degraded => exact ⟨rfl, rfl, fun _ _ => ⟨rfl, rfl, rfl, rfl⟩⟩
  | configured => exact ⟨rfl, rfl, fun _ none => nomatch none⟩
  | _ => exact ⟨rfl, rfl, id⟩

omit [LinearOrder Time] in
theorem respects_released (dropped : List String) :
    Respects (fun changed before after => after = before ∨
      changed ∈ dropped ∧ after = before.released : Effect Time Config) := by
  rintro binding before after (rfl | ⟨-, rfl⟩)
  · exact ⟨rfl, rfl, id⟩
  · exact ⟨rfl, rfl, id⟩

/-! ## Kinds of calls -/

/-- A connection gets a selection instead of the one it had, of which some bindings forget their
analysis. -/
structure Reselected (owner connection : String) (incoming : List String)
    (middle later : Registry Time Config) : Prop where
  bindings : ∃ dropped ⊆ middle.selected owner connection,
    later.bindings = (releasing dropped middle).bindings
  ticks : later.ticks = middle.ticks
  held : Holdings.held later.connections (owner, connection) = incoming
  others : ∀ holder, holder ≠ (owner, connection) →
    Holdings.held later.connections holder = Holdings.held middle.connections holder
  admissible : Admissible middle owner connection incoming

/-- What a call that does not raise does beyond a look for ended leases. -/
inductive Moved (settings : Settings Time Config) (request : Request Config)
    (registry : Registry Time Config) : Registry Time Config → Prop
  | changed {later : Registry Time Config}
      (step : Step settings (Change settings request registry) registry later) :
      Moved settings request registry later
  | bound {middle : Registry Time Config} {binding : String} {next : Binding Time Config}
      (asked : binding ∈ request.issues) (expires : Expires settings registry middle)
      (plain : next.Plain) : Moved settings request registry (middle.set binding next).revised
  | unbound {middle : Registry Time Config} {binding owner : String} {current : Binding Time Config}
      (asked : request = .unbind binding owner) (expires : Expires settings registry middle)
      (held : middle.bindings.get? binding = some current) (mine : current.owner = owner) :
      Moved settings request registry (middle.without [binding])
  | reselected {middle later : Registry Time Config} {owner connection : String}
      {incoming : List String} (asked : request.Reselects owner connection)
      (expires : Expires settings registry middle)
      (reselected : Reselected owner connection incoming middle later) :
      Moved settings request registry later
  | closed {later : Registry Time Config} (asked : request = .close)
      (bindings : later.bindings = Dictionary.empty)
      (connections : later.connections = Dictionary.empty) : Moved settings request registry later

omit [LinearOrder Time] in
theorem releasing_ticks (dropped : List String) (registry : Registry Time Config) :
    (releasing dropped registry).ticks = registry.ticks := by
  unfold releasing
  induction dropped generalizing registry with
  | nil => rfl
  | cons binding rest follows =>
    rw [List.foldl_cons, follows, Registry.update]
    split <;> rfl

omit [LinearOrder Time] in
theorem reselected_chosen {owner connection : String} {incoming : List String}
    (admissible : Admissible middle owner connection incoming) :
    Reselected owner connection incoming middle (chosen owner connection incoming middle) where
  bindings := ⟨_, List.filter_sublist.subset, rfl⟩
  ticks := releasing_ticks _ _
  held := Holdings.held_set_same _ _ _
  others holder apart :=
    (Holdings.held_set_other _ _ apart).trans (by rw [releasing_connections])
  admissible := admissible

/-- Nothing is removed without a reading of the clock. -/
theorem Step.stays {effect : Effect Time Config} {binding : String} {before : Binding Time Config}
    (step : Step settings effect registry later) (ticks : later.ticks = registry.ticks)
    (held : registry.bindings.get? binding = some before) :
    ∃ after, later.bindings.get? binding = some after ∧ effect binding before after := by
  cases left : later.bindings.get? binding with
  | none =>
    obtain ⟨tick, lower, upper, -⟩ := step.ended held left
    omega
  | some after =>
    obtain ⟨other, same, change⟩ := step.stored left
    obtain rfl : before = other := Option.some.inj (held.symm.trans same)
    exact ⟨after, rfl, change⟩

namespace Reselected

variable {owner connection : String} {incoming : List String}
  (reselected : Reselected owner connection incoming middle later)

include reselected

variable (settings) in
/-- What the new selection does to the bindings. -/
theorem released : ∃ dropped ⊆ middle.selected owner connection,
    Step settings (fun changed before after => after = before ∨
      changed ∈ dropped ∧ after = before.released) middle
      { later with connections := middle.connections } := by
  obtain ⟨dropped, among, bindings⟩ := reselected.bindings
  have step : Step settings _ middle _ := step_releasing middle dropped
  have connections := releasing_connections dropped middle
  refine ⟨dropped, among, reselected.ticks.ge, ?_, ?_, id, ?_⟩
  · intro binding after left
    rw [bindings] at left
    exact step.stored left
  · intro binding before held gone
    rw [bindings] at gone
    obtain ⟨after, left, -⟩ := step.stays (releasing_ticks dropped middle) held
    exact nomatch gone.symm.trans left
  · intro owner connection binding inside gone
    rw [bindings] at gone
    exact step.kept (by rwa [Registry.selected, connections]) gone

variable (settings) in
include settings in
theorem sound (before : Sound middle) : Sound later := by
  obtain ⟨dropped, -, step⟩ := reselected.released settings
  have respects : Respects (_ : Effect Time Config) := respects_released dropped
  have cleared := before.step step respects
  have stays {binding : String} {current : Binding Time Config}
      (held : middle.bindings.get? binding = some current) :
      ∃ after, later.bindings.get? binding = some after ∧ after.owner = current.owner := by
    obtain ⟨after, left, change⟩ := step.stays reselected.ticks held
    exact ⟨after, left, (respects _ _ _ change).1⟩
  have document {binding : String} {after : Binding Time Config}
      (left : later.bindings.get? binding = some after) :
      (middle.bindings.get? binding).map Binding.documentUri = some after.documentUri := by
    obtain ⟨current, held, change⟩ := step.stored left
    rw [held, (respects _ _ _ change).2.1]
    rfl
  constructor
  · intro asker asking binding inside
    by_cases same : (asker, asking) = (owner, connection)
    · cases same
      have among : binding ∈ incoming := reselected.held ▸ inside
      obtain ⟨current, held⟩ := reselected.admissible.stored binding among
      obtain ⟨after, left, mine⟩ := stays held
      exact ⟨after, left, mine.trans (reselected.admissible.free binding among current held).1⟩
    · rw [Registry.selected, reselected.others _ same] at inside
      exact cleared.selected inside
  · refine Holdings.Exclusive.replaced before.exclusive reselected.others ?_
    intro binding among other apart
    rw [reselected.held] at among
    obtain ⟨current, held⟩ := reselected.admissible.stored binding among
    exact (reselected.admissible.free binding among current held).2 other apart
  · intro asker asking first second earlier latter one two left right same
    by_cases mine : (asker, asking) = (owner, connection)
    · cases mine
      refine reselected.admissible.documents first (reselected.held ▸ one) second
        (reselected.held ▸ two) ?_
      rw [document left, document right, same]
    · rw [Registry.selected, reselected.others _ mine] at one two
      exact cleared.documents one two left right same
  · exact cleared.plain

end Reselected

theorem Moved.sound (moved : Moved settings request registry later) (before : Sound registry)
    (fresh : ∀ binding ∈ request.issues, registry.bindings.get? binding = none) : Sound later := by
  cases moved with
  | changed step => exact before.step step respects_change
  | @bound middle binding next asked expires plain =>
    have sound := before.expires expires
    have new : middle.bindings.get? binding = none := by
      cases held : middle.bindings.get? binding with
      | none => rfl
      | some current => exact nomatch (fresh binding asked).symm.trans (expires.stored held)
    have apart {owner connection other : String} (inside : other ∈ middle.selected owner connection) :
        other ≠ binding := by
      rintro rfl
      obtain ⟨current, held, -⟩ := sound.selected inside
      exact nomatch new.symm.trans held
    have others {other : String} (differs : other ≠ binding) :
        (middle.set binding next).revised.bindings.get? other = middle.bindings.get? other :=
      Dictionary.get?_set_other _ _ differs
    refine ⟨fun inside => ?_, sound.exclusive, fun one two left right same => ?_, ?_⟩
    · rw [others (apart inside)]
      exact sound.selected inside
    · rw [others (apart one)] at left
      rw [others (apart two)] at right
      exact sound.documents one two left right same
    · intro other after left
      rcases Dictionary.get?_set_eq_some.1 left with ⟨-, rfl⟩ | ⟨-, held⟩
      · exact plain
      · exact sound.plain other after held
  | unbound asked expires held mine =>
    have sound := before.expires expires
    refine ⟨fun inside => ?_, fun item holder other one two => sound.exclusive item holder other
      (Holdings.mem_held_discard.1 one).2 (Holdings.mem_held_discard.1 two).2, fun one two left right same => ?_, ?_⟩
    · obtain ⟨apart, had⟩ := Registry.mem_without_selected.1 inside
      obtain ⟨current, stored, owned⟩ := sound.selected had
      exact ⟨current, Registry.without_get?.2 ⟨apart, stored⟩, owned⟩
    · exact sound.documents (Registry.mem_without_selected.1 one).2
        (Registry.mem_without_selected.1 two).2 (Registry.without_get?.1 left).2
        (Registry.without_get?.1 right).2 same
    · intro other after left
      exact sound.plain other after (Registry.without_get?.1 left).2
  | reselected asked expires reselected => exact reselected.sound settings (before.expires expires)
  | closed asked bindings connections =>
    have nothing {owner connection binding : String} : binding ∉ later.selected owner connection := by
      intro inside
      rw [Registry.selected, connections] at inside
      cases inside
    refine ⟨fun inside => absurd inside nothing, ?_, fun one => absurd one nothing, ?_⟩
    · rw [connections]
      exact Holdings.exclusive_empty
    · intro binding current held
      rw [bindings] at held
      cases held

section Moves

variable {binding : String} {before after : Binding Time Config}
  (moved : Moved settings request registry later)
  (held : registry.bindings.get? binding = some before)

include moved held

/-- A binding that stays has changed in one of the six ways. -/
theorem Moved.changes (fresh : ∀ binding ∈ request.issues, registry.bindings.get? binding = none)
    (left : later.bindings.get? binding = some after) :
    Change settings request registry binding before after := by
  have unchanged {middle : Registry Time Config} (expires : Expires settings registry middle)
      (stayed : middle.bindings.get? binding = some after) :
      Change settings request registry binding before after := by
    obtain rfl : before = after := Option.some.inj (held.symm.trans (expires.stored stayed))
    exact .same
  cases moved with
  | changed step =>
    obtain ⟨other, same, change⟩ := step.stored left
    obtain rfl : before = other := Option.some.inj (held.symm.trans same)
    exact change
  | bound asked expires plain =>
    rcases Dictionary.get?_set_eq_some.1 left with ⟨rfl, -⟩ | ⟨-, stayed⟩
    · exact nomatch (fresh binding asked).symm.trans held
    · exact unchanged expires stayed
  | unbound asked expires _ _ => exact unchanged expires (Registry.without_get?.1 left).2
  | reselected asked expires reselected =>
    obtain ⟨dropped, among, step⟩ := reselected.released settings
    obtain ⟨other, stayed, change⟩ := step.stored left
    obtain rfl : before = other := Option.some.inj (held.symm.trans (expires.stored stayed))
    rcases change with rfl | ⟨inside, rfl⟩
    · exact .same
    · exact .released asked (expires.selected _ (among inside))
  | closed asked bindings connections =>
    rw [bindings] at left
    cases left

/-- A binding that is gone had come to the end of its lease, or was given up, or all were. -/
theorem Moved.removed (gone : later.bindings.get? binding = none) :
    Ended settings registry later before ∨ request = .unbind binding before.owner ∨
      request = .close := by
  have ended {middle : Registry Time Config} (expires : Expires settings registry middle)
      (ticks : middle.ticks ≤ later.ticks) (lost : middle.bindings.get? binding = none) :
      Ended settings registry later before := by
    rcases expires.left_or_ended held with stayed | ⟨-, past⟩
    · exact nomatch lost.symm.trans stayed
    · exact past.mono le_rfl ticks
  cases moved with
  | changed step => exact .inl (step.ended held gone)
  | @bound middle bound next asked expires plain =>
    refine .inl (ended expires le_rfl ?_)
    by_cases same : binding = bound
    · subst same
      rw [Registry.revised, Registry.set, Dictionary.get?_set_same] at gone
      cases gone
    · exact (Dictionary.get?_set_other _ _ same).symm.trans gone
  | @unbound middle given owner current asked expires stored mine =>
    by_cases same : binding = given
    · subst same
      obtain rfl : before = current := Option.some.inj (held.symm.trans (expires.stored stored))
      exact .inr (.inl (mine ▸ asked))
    · refine .inl (ended expires le_rfl ?_)
      rwa [Registry.without, Dictionary.get?_eraseAll_kept _ (by simpa using same)] at gone
  | @reselected middle later owner connection incoming asked expires reselected =>
    refine .inl (ended expires reselected.ticks.ge ?_)
    cases stayed : middle.bindings.get? binding with
    | none => rfl
    | some current =>
      obtain ⟨dropped, -, step⟩ := reselected.released settings
      obtain ⟨after, left, -⟩ := step.stays reselected.ticks stayed
      exact nomatch gone.symm.trans left
  | closed asked => exact .inr (.inr asked)

end Moves

end OnecRuntime.Contexts
