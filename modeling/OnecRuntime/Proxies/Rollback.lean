import OnecRuntime.Proxies.Shadow

/-!
# Undoing a publication

Every call keeps the relation to the registry without the publication as long as it does
not disturb the publication, and after a rollback both give the same answers about
every other proxy.
-/

namespace OnecRuntime.Proxies

open OnecRuntime.Library

variable {carriers : Carriers} {drawn : Nat} {registry plain next nextPlain : ProxyRegistry carriers}
  {aliased : List ProxyId} {checkpoint : CapturePublicationCheckpoint carriers}

/-! ## Aliases -/

/-- An alias may have been made under the drawn identifier. -/
def Grown (drawn : Nat) (before after : ProxyRegistry carriers) : Prop :=
  after = before ∨ ∃ record, before.records.get? record.descriptor.proxyId = some record ∧
    after = before.aliased drawn record

namespace Grown

theorem same (grown : Grown drawn registry next) : next.bindings = registry.bindings ∧
    next.bindingVersions = registry.bindingVersions ∧
    next.activeCapturePublication = registry.activeCapturePublication := by
  rcases grown with rfl | ⟨record, _, rfl⟩ <;> exact ⟨rfl, rfl, rfl⟩

theorem other (grown : Grown drawn registry next) {proxyId : ProxyId} (apart : proxyId ≠ drawn) :
    next.records.get? proxyId = registry.records.get? proxyId := by
  rcases grown with rfl | ⟨record, _, rfl⟩
  · rfl
  · exact Dictionary.get?_set_other _ _ apart

theorem drawn_alias (grown : Grown drawn registry next)
    (fresh : registry.records.get? drawn = none) {record : ProxyRecord carriers}
    (found : next.records.get? drawn = some record) : record.exactAnchorId ≠ none := by
  rcases grown with rfl | ⟨original, _, rfl⟩
  · rw [fresh] at found
    cases found
  · rw [← Option.some.inj ((Dictionary.get?_set_same _ _ _).symm.trans found)]
    exact Option.some_ne_none _

theorem known (grown : Grown drawn registry next) {proxyId : ProxyId}
    (stored : proxyId ∈ registry.records.keys) : proxyId ∈ next.records.keys := by
  rcases grown with rfl | ⟨record, _, rfl⟩
  · exact stored
  · exact Dictionary.mem_keys_set.2 (.inr stored)

/-- The anchor of a new alias is stored. -/
theorem drawn_anchor (grown : Grown drawn registry next)
    (fresh : registry.records.get? drawn = none) {record : ProxyRecord carriers}
    (found : next.records.get? drawn = some record) {anchorId : ProxyId}
    (anchored : record.exactAnchorId = some anchorId) : anchorId ∈ next.records.keys := by
  refine grown.known ?_
  rcases grown with rfl | ⟨original, stored, rfl⟩
  · rw [fresh] at found
    cases found
  · have is := Option.some.inj ((Dictionary.get?_set_same _ _ _).symm.trans found)
    subst is
    cases anchored
    exact Dictionary.mem_keys.2 ⟨original, stored⟩

theorem keys (grown : Grown drawn registry next) (fresh : registry.records.get? drawn = none)
    (kept test : ProxyId → Bool) (dropped : kept drawn = false)
    (agree : ∀ proxyId, proxyId ≠ drawn → kept proxyId = test proxyId) :
    next.records.keys.filter kept = registry.records.keys.filter test := by
  have absent := Dictionary.get?_eq_none.1 fresh
  have old : registry.records.keys.filter kept = registry.records.keys.filter test := by
    refine List.filter_congr fun proxyId member => agree proxyId ?_
    rintro rfl
    exact absent member
  rcases grown with rfl | ⟨record, _, rfl⟩
  · exact old
  · refine (congrArg (List.filter kept) (Dictionary.keys_set_absent _ absent)).trans ?_
    rw [List.filter_append, old, List.filter_cons_of_neg (by rw [dropped]; exact Bool.false_ne_true)]
    exact List.append_nil _

end Grown

theorem snapshotExact_grown (consistent : Consistent drawn registry) (proxyId : ProxyId) :
    Grown drawn registry (registry.snapshotExact proxyId drawn).2 := by
  rcases snapshotExact_cases consistent proxyId drawn with is | ⟨record, _, _, found, _, _, _, is⟩
  · exact .inl is
  · exact .inr ⟨record, found, is⟩

/-- An alias of an alias is the alias itself. -/
theorem snapshotExact_alias (consistent : Consistent drawn registry) {proxyId : ProxyId}
    (exact : ∀ {record}, registry.records.get? proxyId = some record →
      record.exactAnchorId ≠ none) :
    (registry.snapshotExact proxyId drawn).2 = registry := by
  rcases snapshotExact_cases consistent proxyId drawn with
    is | ⟨current, resolved, latest, found, plain, live, bound, is⟩
  · exact is
  · cases known : registry.records.get? proxyId with
    | none =>
        rw [resolve_unknown known] at resolved
        cases resolved
    | some record =>
        rcases consistent.resolve_cases known with ⟨failure, fails, _⟩ | ⟨answer, answers, _, which⟩
        · rw [resolved] at fails
          cases fails
        · rw [resolved] at answers
          cases which with
          | snapshot anchored bound foundAnchor anchorLive same =>
              have inexact : answer.consistency = .latest := by
                rw [← Except.ok.inj answers]
                exact latest
              rw [same, (consistent.exact known anchored).1] at inexact
              cases inexact
          | binding registered => exact absurd registered (exact known)
          | latest registered => exact absurd registered (exact known)

/-- Where two registries resolve a proxy alike, they make the same alias or none. -/
theorem snapshotExact_alike (consistent : Consistent drawn registry) {proxyId : ProxyId}
    (same : plain.resolve proxyId = registry.resolve proxyId)
    (records : ∀ {record}, registry.resolve proxyId = .ok record.descriptor →
      registry.records.get? record.descriptor.proxyId = some record →
      record.exactAnchorId = none →
      plain.records.get? record.descriptor.proxyId = some record) :
    (registry.snapshotExact proxyId drawn).2 = registry ∧
        (plain.snapshotExact proxyId drawn).2 = plain ∨
      ∃ record, registry.resolve proxyId = .ok record.descriptor ∧
        registry.records.get? record.descriptor.proxyId = some record ∧
        record.exactAnchorId = none ∧
        (registry.snapshotExact proxyId drawn).2 = registry.aliased drawn record ∧
        (plain.snapshotExact proxyId drawn).2 = plain.aliased drawn record := by
  unfold ProxyRegistry.snapshotExact
  rw [same]
  cases resolved : registry.resolve proxyId with
  | error failure => exact .inl ⟨rfl, rfl⟩
  | ok answer =>
      simp only
      by_cases exact : answer.consistency = .exact
      · left
        constructor
        · split
          · rfl
          · rw [if_pos exact]
        · split
          · rfl
          · rw [if_pos exact]
      · obtain ⟨record, found, rfl, registered, _⟩ := consistent.answer_registered resolved exact
        have foundPlain := records resolved found registered
        unfold ProxyRegistry.currentRecord
        rw [found, foundPlain]
        simp only
        rw [if_neg exact, if_neg exact]
        exact .inr ⟨record, rfl, found, registered, rfl, rfl⟩

namespace Shadows

variable {proxyId : ProxyId} {record : ProxyRecord carriers}

/-- Aliases of touched names are set apart. -/
theorem aliasOwn (shadows : Shadows drawn registry plain aliased checkpoint)
    (consistent : Consistent drawn registry) (consistentPlain : Consistent drawn plain)
    (grown : Grown drawn registry next) (grownPlain : Grown drawn plain nextPlain) :
    Shadows (drawn + 1) next nextPlain (aliased ++ [drawn]) checkpoint := by
  obtain ⟨bindings, versions, active⟩ := grown.same
  obtain ⟨bindingsPlain, versionsPlain, _⟩ := grownPlain.same
  refine ⟨active.trans shadows.active, ?_, ?_, ?_, ?_, ?_, ?_, ?_, shadows.sameKeys, ?_, ?_, ?_, ?_⟩
  · rw [bindings]
    exact shadows.bindingsHeld
  · rw [versions]
    exact shadows.versionsHeld
  · rw [bindings, bindingsPlain]
    exact shadows.bindings
  · rw [versions, versionsPlain]
    exact shadows.versions
  · rw [grown.keys consistent.fresh _
        (fun proxyId => decide (proxyId ∉ checkpoint.createdProxyIds ++ aliased)) (by simp) ?_,
      grownPlain.keys consistentPlain.fresh _ (fun proxyId => decide (proxyId ∉ aliased))
        (by simp) ?_]
    · exact shadows.keys
    · intro proxyId apart
      simp [apart]
    · intro proxyId apart
      simp [apart]
  · intro proxyId foreign original
    have parts := not_or.1 (mt List.mem_append.2 original)
    have apart : proxyId ≠ drawn := fun is => parts.2 (List.mem_singleton.2 is)
    rw [grown.other apart, grownPlain.other apart]
    exact shadows.records foreign parts.1
  · intro proxyId created
    have apart := shadows.apart (List.mem_append_left _ created)
    rw [grownPlain.other apart]
    exact ⟨(shadows.absent created).1, Nat.lt_succ_of_lt (shadows.absent created).2⟩
  · intro proxyId record created found
    rw [grown.other (shadows.apart (List.mem_append_left _ created))] at found
    rw [bindings]
    exact shadows.createdTouched created found
  · intro key before touched
    rw [bindings]
    exact shadows.touchedBound touched
  · intro proxyId member
    rcases List.mem_append.1 member with earlier | now
    · have apart := shadows.apart (List.mem_append_right _ earlier)
      obtain ⟨early, inRegistry, inPlain, anchored⟩ := shadows.aliases earlier
      rw [grown.other apart, grownPlain.other apart]
      exact ⟨Nat.lt_succ_of_lt early, inRegistry, inPlain,
        fun found at_ => grown.known (anchored found at_)⟩
    · rw [List.mem_singleton.1 now]
      exact ⟨Nat.lt_succ_self _, grown.drawn_alias consistent.fresh,
        grownPlain.drawn_alias consistentPlain.fresh,
        fun found at_ => grown.drawn_anchor consistent.fresh found at_⟩
  · intro proxyId record anchorId found anchored created
    by_cases apart : proxyId = drawn
    · exact List.mem_append_right _ (List.mem_singleton.2 apart)
    · rw [grown.other apart] at found
      exact List.mem_append_left _ (shadows.anchors found anchored created)

/-- An alias of another name is the same with and without the publication. -/
theorem aliasBoth (shadows : Shadows drawn registry plain aliased checkpoint)
    (consistent : Consistent drawn registry) (consistentPlain : Consistent drawn plain)
    (foreign : record.descriptor.proxyId ∉ checkpoint.createdProxyIds) :
    Shadows (drawn + 1) (registry.aliased drawn record) (plain.aliased drawn record) aliased
      checkpoint := by
  refine ⟨shadows.active, shadows.bindingsHeld, shadows.versionsHeld, shadows.bindings,
    shadows.versions, shadows.keys_set consistent consistentPlain _ _, ?_, ?_, shadows.sameKeys, ?_,
    shadows.touchedBound, ?_, ?_⟩
  · intro proxyId outside original
    by_cases is : proxyId = drawn
    · subst is
      exact (Dictionary.get?_set_same _ _ _).trans (Dictionary.get?_set_same _ _ _).symm
    · exact (Dictionary.get?_set_other _ _ is).trans
        ((shadows.records outside original).trans (Dictionary.get?_set_other _ _ is).symm)
  · intro proxyId created
    have apart := shadows.apart (List.mem_append_left _ created)
    exact ⟨(Dictionary.get?_set_other _ _ apart).trans (shadows.absent created).1,
      Nat.lt_succ_of_lt (shadows.absent created).2⟩
  · intro proxyId record created found
    have apart := shadows.apart (List.mem_append_left _ created)
    exact shadows.createdTouched created ((Dictionary.get?_set_other _ _ apart).symm.trans found)
  · intro proxyId member
    have apart := shadows.apart (List.mem_append_right _ member)
    obtain ⟨early, inRegistry, inPlain, anchored⟩ := shadows.aliases member
    exact ⟨Nat.lt_succ_of_lt early,
      fun found => inRegistry ((Dictionary.get?_set_other _ _ apart).symm.trans found),
      fun found => inPlain ((Dictionary.get?_set_other _ _ apart).symm.trans found),
      fun found at_ => Dictionary.mem_keys_set.2
        (.inr (anchored ((Dictionary.get?_set_other _ _ apart).symm.trans found) at_))⟩
  · intro proxyId other anchorId found anchored created
    rcases Dictionary.get?_set_eq_some.1 found with ⟨_, rfl⟩ | ⟨_, was⟩
    · cases anchored
      exact absurd created foreign
    · exact shadows.anchors was anchored created

end Shadows

end OnecRuntime.Proxies

/-!
# Calls beside a publication

A call beside an undisturbed publication does the same with and without it, and so a
rollback leaves the answers about every other proxy as if the publication had never been
started.
-/

namespace OnecRuntime.Proxies

open OnecRuntime.Library

variable {carriers : Carriers} {drawn : Nat} {registry plain : ProxyRegistry carriers}
  {aliased : List ProxyId} {checkpoint : CapturePublicationCheckpoint carriers}

/-! ## Batches -/

/-- The registry with all entries of a batch. -/
def ProxyRegistry.withEach (registry : ProxyRegistry carriers) : ProxyId →
    List (ContextEntry carriers) → ProxyRegistry carriers
  | _, [] => registry
  | proxyId, entry :: rest => (registry.with proxyId (.context entry)).withEach (proxyId + 1) rest

variable {entries : List (ContextEntry carriers)}

theorem registerEach_accepted (accepted : ∀ entry ∈ entries, (Registration.context entry).Accepted)
    (registry : ProxyRegistry carriers) (proxyId : ProxyId) :
    ∃ descriptors, registry.registerEach proxyId entries =
      (.ok descriptors, registry.withEach proxyId entries) := by
  induction entries generalizing registry proxyId with
  | nil => exact ⟨[], rfl⟩
  | cons entry rest hypothesis =>
      unfold ProxyRegistry.registerEach ProxyRegistry.withEach
      rw [register_accepted (accepted entry List.mem_cons_self)]
      obtain ⟨descriptors, is⟩ := hypothesis
        (fun other member => accepted other (List.mem_cons_of_mem _ member))
        (registry.with proxyId (.context entry)) (proxyId + 1)
      simp only
      rw [is]
      exact ⟨_, rfl⟩

theorem registerEach_refused (refused : ¬∀ entry ∈ entries, (Registration.context entry).Accepted)
    (registry : ProxyRegistry carriers) (proxyId : ProxyId) :
    ∃ failure left, registry.registerEach proxyId entries = (.error failure, left) := by
  induction entries generalizing registry proxyId with
  | nil => exact absurd (fun _ impossible => by cases impossible) refused
  | cons entry rest hypothesis =>
      unfold ProxyRegistry.registerEach
      by_cases accepted : (Registration.context entry).Accepted
      · rw [register_accepted accepted]
        obtain ⟨failure, left, is⟩ := hypothesis (fun others => refused fun other member => by
          rcases List.mem_cons.1 member with rfl | later
          · exact accepted
          · exact others other later) (registry.with proxyId (.context entry)) (proxyId + 1)
        simp only
        rw [is]
        exact ⟨_, _, rfl⟩
      · obtain ⟨failure, is⟩ := register_refused accepted registry proxyId
        rw [is]
        exact ⟨_, _, rfl⟩

/-- A batch stores all its entries or leaves the registry as it was. -/
theorem batch_cases (consistent : Consistent drawn registry)
    (entries : List (ContextEntry carriers)) :
    ((∀ entry ∈ entries, (Registration.context entry).Accepted) ∧
        (registry.registerContextBatch drawn entries).2 = registry.withEach drawn entries) ∨
      (¬∀ entry ∈ entries, (Registration.context entry).Accepted) ∧
        (registry.registerContextBatch drawn entries).2 = registry := by
  by_cases accepted : ∀ entry ∈ entries, (Registration.context entry).Accepted
  · refine .inl ⟨accepted, ?_⟩
    obtain ⟨descriptors, is⟩ := registerEach_accepted accepted registry drawn
    unfold ProxyRegistry.registerContextBatch
    rw [is]
  · refine .inr ⟨accepted, ?_⟩
    obtain ⟨failure, left, is⟩ := registerEach_refused accepted registry drawn
    refine @batch_failed _ _ _ consistent entries failure ?_
    unfold ProxyRegistry.registerContextBatch
    rw [is]

/-- A name has a binding that was drawn from a certain number on. -/
def BoundFrom (least : ProxyId) (registry : ProxyRegistry carriers) (key : BindingKey) : Prop :=
  ∃ bound, least ≤ bound ∧ registry.bindings.get? key = some bound

variable {proxyId : ProxyId}

variable {key : BindingKey}

theorem BoundFrom.with {least : ProxyId} (reaches : least ≤ proxyId)
    {registration : Registration carriers}
    (bound : registration.key = key ∨ BoundFrom least registry key) :
    BoundFrom least (registry.with proxyId registration) key := by
  by_cases same : key = registration.key
  · subst same
    exact ⟨proxyId, reaches, Dictionary.get?_set_same _ _ _⟩
  · obtain ⟨held, from_, found⟩ := bound.resolve_left (Ne.symm same)
    exact ⟨held, from_, (Dictionary.get?_set_other _ _ same).trans found⟩

/-- The names of a batch get bindings that are drawn for it. -/
theorem withEach_bound {registry : ProxyRegistry carriers}
    {least : ProxyId} (reaches : least ≤ proxyId)
    (bound : (∃ entry ∈ entries, (Registration.context entry).key = key) ∨
      BoundFrom least registry key) :
    BoundFrom least (registry.withEach proxyId entries) key := by
  induction entries generalizing registry proxyId with
  | nil =>
      rcases bound with ⟨entry, impossible, _⟩ | earlier
      · cases impossible
      · exact earlier
  | cons entry rest hypothesis =>
      refine hypothesis (Nat.le_succ_of_le reaches) ?_
      rcases bound with ⟨other, member, named⟩ | earlier
      · rcases List.mem_cons.1 member with rfl | later
        · exact .inr (BoundFrom.with reaches (.inl named))
        · exact .inl ⟨other, later, named⟩
      · exact .inr (BoundFrom.with reaches (.inr earlier))

/-- A binding that was drawn later differs from the one before. -/
theorem BoundFrom.differs {next : ProxyRegistry carriers}
    (bound : BoundFrom drawn next key) (consistent : Consistent drawn registry) :
    next.bindings.get? key ≠ registry.bindings.get? key := by
  obtain ⟨held, from_, found⟩ := bound
  rw [found]
  intro same
  obtain ⟨record, known, _⟩ := consistent.registered same.symm
  exact absurd (consistent.old known) (Nat.not_lt.2 from_)

/-- A batch under other names is stored with and without the publication. -/
theorem Shadows.batch (shadows : Shadows drawn registry plain aliased checkpoint)
    (consistent : Consistent drawn registry) (consistentPlain : Consistent drawn plain)
    (untouched : ∀ entry ∈ entries,
      (Registration.context entry).key ∉ checkpoint.bindingsBefore.keys) :
    Shadows (drawn + entries.length) (registry.withEach drawn entries)
      (plain.withEach drawn entries) aliased checkpoint := by
  induction entries generalizing drawn registry plain with
  | nil => exact shadows
  | cons entry rest hypothesis =>
      have first := shadows.store consistent consistentPlain (untouched entry List.mem_cons_self)
      have whole := hypothesis first (consistent.with _) (consistentPlain.with _)
        fun other member => untouched other (List.mem_cons_of_mem _ member)
      rw [List.length_cons, Nat.add_comm rest.length 1, ← Nat.add_assoc]
      exact whole

/-! ## Releases -/

/-- A release reaches the proxy itself or the binding of its name. -/
theorem releaseTarget_cases {record : ProxyRecord carriers}
    (known : registry.records.get? proxyId = some record)
    {descriptor : ProxyDescriptor carriers}
    (target : registry.releaseTarget proxyId = .ok (descriptor, true)) :
    descriptor = record.descriptor ∨ record.exactAnchorId = none ∧ ∃ currentId current,
      registry.bindings.get? record.descriptor.key = some currentId ∧
      registry.records.get? currentId = some current ∧ descriptor = current.descriptor := by
  unfold ProxyRegistry.releaseTarget ProxyRegistry.record at target
  rw [known] at target
  simp only [ok_bind] at target
  split at target
  · cases target
  · obtain ⟨_, _, target⟩ := bind_eq_ok.1 target
    obtain ⟨currentId, bound, target⟩ := bind_eq_ok.1 target
    have bound : registry.bindings.get? record.descriptor.key = some currentId := by
      unfold ProxyRegistry.currentId at bound
      split at bound
      · next found =>
          cases bound
          exact found
      · cases bound
    split at target
    · obtain ⟨_, _, target⟩ := bind_eq_ok.1 target
      cases target
      exact .inl rfl
    · next anchored =>
        split at target
        · cases target
          exact .inl rfl
        · obtain ⟨_, _, target⟩ := bind_eq_ok.1 target
          obtain ⟨current, found, target⟩ := bind_eq_ok.1 target
          obtain ⟨_, _, target⟩ := bind_eq_ok.1 target
          have found : registry.records.get? currentId = some current := by
            unfold ProxyRegistry.currentRecord at found
            split at found
            · next is =>
                cases found
                exact is
            · cases found
          obtain ⟨rfl, _⟩ := Prod.mk.inj (pure_eq_ok.1 target)
          exact .inr ⟨anchored, currentId, current, bound, found, rfl⟩

theorem releaseTarget_unknown (unknown : registry.records.get? proxyId = none) :
    registry.releaseTarget proxyId = .error .unknownProxy := by
  unfold ProxyRegistry.releaseTarget ProxyRegistry.record
  rw [unknown]
  rfl

/-- A release of a proxy that reaches only some proxies changes only those. -/
theorem releaseResolved_within {ids : List ProxyId}
    (within : ∀ {descriptor}, registry.releaseTarget proxyId = .ok (descriptor, true) →
      descriptor.proxyId ∈ ids) :
    ∃ change, Reflags change registry (registry.releaseResolved proxyId).2 ∧
      ∀ other record, other ∉ ids → change other record = record := by
  rcases releaseResolved_reflags registry proxyId with is | ⟨descriptor, target, is⟩
  · rw [is]
    exact ⟨_, Reflags.refl registry, fun _ _ _ => rfl⟩
  · rw [is]
    refine ⟨_, release_reflags registry descriptor.proxyId, fun other record outside => ?_⟩
    refine if_neg ?_
    rintro rfl
    exact outside (within target)

theorem Shadows.releaseResolved (shadows : Shadows drawn registry plain aliased checkpoint)
    (consistent : Consistent drawn registry) (consistentPlain : Consistent drawn plain)
    (direct : proxyId ∉ checkpoint.createdProxyIds ++ aliased →
      ∀ {record}, registry.records.get? proxyId = some record →
      ∀ currentId ∈ checkpoint.createdProxyIds,
        registry.bindings.get? record.descriptor.key ≠ some currentId) :
    Shadows drawn (registry.releaseResolved proxyId).2 (plain.releaseResolved proxyId).2 aliased
      checkpoint := by
  by_cases ours : proxyId ∈ checkpoint.createdProxyIds ++ aliased
  · -- a release of a proxy of the publication stays among these
    obtain ⟨change, effect, keeps⟩ := @releaseResolved_within _ registry proxyId
      (checkpoint.createdProxyIds ++ aliased) (by
        intro descriptor target
        cases known : registry.records.get? proxyId with
        | none =>
            rw [releaseTarget_unknown known] at target
            cases target
        | some record =>
            rcases releaseTarget_cases known target with
              rfl | ⟨registered, currentId, current, bound, found, rfl⟩
            · rw [consistent.own known]
              exact ours
            · have created : proxyId ∈ checkpoint.createdProxyIds :=
                (List.mem_append.1 ours).resolve_right
                  fun made => (shadows.aliases made).2.1 known registered
              obtain ⟨_, _, boundId, member, is⟩ := shadows.createdTouched created known
              rw [bound] at is
              cases is
              rw [consistent.own found]
              exact List.mem_append_left _ member)
    obtain ⟨changePlain, effectPlain, keepsPlain⟩ := @releaseResolved_within _ plain proxyId
      (checkpoint.createdProxyIds ++ aliased) (by
        intro descriptor target
        cases known : plain.records.get? proxyId with
        | none =>
            rw [releaseTarget_unknown known] at target
            cases target
        | some record =>
            rcases List.mem_append.1 ours with created | made
            · rw [(shadows.absent created).1] at known
              cases known
            · rcases releaseTarget_cases known target with rfl | ⟨registered, _⟩
              · rw [consistentPlain.own known]
                exact ours
              · exact absurd registered ((shadows.aliases made).2.2.1 known))
    refine shadows.reflags effect effectPlain fun foreign original _ => ?_
    have outside : ¬(_ ∈ checkpoint.createdProxyIds ++ aliased) :=
      fun member => (List.mem_append.1 member).elim foreign original
    rw [keeps _ _ outside, keepsPlain _ _ outside]
  · have foreign : proxyId ∉ checkpoint.createdProxyIds :=
      fun member => ours (List.mem_append_left _ member)
    have original : proxyId ∉ aliased := fun member => ours (List.mem_append_right _ member)
    have same : plain.releaseTarget proxyId = registry.releaseTarget proxyId := by
      cases known : registry.records.get? proxyId with
      | none =>
          rw [releaseTarget_unknown known,
            releaseTarget_unknown ((shadows.records foreign original).trans known)]
      | some record =>
          exact (shadows.agrees consistent consistentPlain known foreign original
            (direct ours known)).releaseTarget
    unfold ProxyRegistry.releaseResolved
    rw [same]
    split
    · exact shadows
    · exact shadows
    · next descriptor target =>
        exact shadows.reflags (release_reflags registry _) (release_reflags plain _)
          fun _ _ _ => rfl

end OnecRuntime.Proxies
