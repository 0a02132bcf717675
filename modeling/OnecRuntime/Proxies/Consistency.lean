import OnecRuntime.Proxies.Runs

/-!
# Consistent registries

Every record has a binding of its name, every binding is the newest registration of its
name, and an alias describes its anchor. Registrations, aliases and changes of the flags
keep this; only a rollback needs more.
-/

namespace OnecRuntime.Proxies

open OnecRuntime.Library

variable {carriers : Carriers}

/-- The same proxy, whatever its flags and its handle. -/
def ProxyRecord.Same (first second : ProxyRecord carriers) : Prop :=
  second.descriptor = first.descriptor ∧ second.exactAnchorId = first.exactAnchorId

structure Consistent (drawn : Nat) (registry : ProxyRegistry carriers) : Prop where
  old : ∀ {proxyId record}, registry.records.get? proxyId = some record → proxyId < drawn
  own : ∀ {proxyId record}, registry.records.get? proxyId = some record →
    record.descriptor.proxyId = proxyId
  bound : ∀ {proxyId record}, registry.records.get? proxyId = some record →
    ∃ currentId, registry.bindings.get? record.descriptor.key = some currentId
  registered : ∀ {key currentId}, registry.bindings.get? key = some currentId →
    ∃ record, registry.records.get? currentId = some record ∧ record.exactAnchorId = none ∧
      record.descriptor.key = key ∧
      registry.bindingVersions.get? key = some record.descriptor.version
  versioned : ∀ {proxyId record}, registry.records.get? proxyId = some record →
    record.exactAnchorId = none →
    ∃ version, registry.bindingVersions.get? record.descriptor.key = some version ∧
      record.descriptor.version ≤ version
  distinct : ∀ {first second firstRecord secondRecord},
    registry.records.get? first = some firstRecord →
    registry.records.get? second = some secondRecord →
    firstRecord.exactAnchorId = none → secondRecord.exactAnchorId = none →
    firstRecord.descriptor.key = secondRecord.descriptor.key →
    firstRecord.descriptor.version = secondRecord.descriptor.version → first = second
  exact : ∀ {proxyId record anchorId}, registry.records.get? proxyId = some record →
    record.exactAnchorId = some anchorId →
    record.descriptor.consistency = .exact ∧ anchorId < drawn ∧
    ∀ {anchor}, registry.records.get? anchorId = some anchor →
      anchor.exactAnchorId = none ∧ anchor.descriptor.consistency = .latest ∧
      record.descriptor = { anchor.descriptor with proxyId := proxyId, consistency := .exact }

namespace Consistent

variable {drawn : Nat} {registry next : ProxyRegistry carriers}

theorem new (drawn : Nat) : Consistent drawn (ProxyRegistry.new : ProxyRegistry carriers) := by
  refine ⟨?_, ?_, ?_, ?_, ?_, ?_, ?_⟩
  · intro _ _ impossible
    cases impossible
  · intro _ _ impossible
    cases impossible
  · intro _ _ impossible
    cases impossible
  · intro _ _ impossible
    cases impossible
  · intro _ _ impossible
    cases impossible
  · intro _ _ _ _ impossible
    cases impossible
  · intro _ _ _ impossible
    cases impossible

theorem later (consistent : Consistent drawn registry) {more : Nat} (reaches : drawn ≤ more) :
    Consistent more registry :=
  ⟨fun found => Nat.lt_of_lt_of_le (consistent.old found) reaches, consistent.own,
    consistent.bound, consistent.registered, consistent.versioned, consistent.distinct,
    fun found anchored => ⟨(consistent.exact found anchored).1,
      Nat.lt_of_lt_of_le (consistent.exact found anchored).2.1 reaches,
      (consistent.exact found anchored).2.2⟩⟩

/-- A drawn identifier is new. -/
theorem fresh (consistent : Consistent drawn registry) : registry.records.get? drawn = none := by
  cases found : registry.records.get? drawn with
  | none => rfl
  | some record => exact absurd (consistent.old found) (Nat.lt_irrefl _)

/-- Only flags and handles change. -/
theorem reflagged (consistent : Consistent drawn registry)
    (records : ∀ proxyId, (next.records.get? proxyId).isSome =
      (registry.records.get? proxyId).isSome)
    (same : ∀ {proxyId before after}, registry.records.get? proxyId = some before →
      next.records.get? proxyId = some after → before.Same after)
    (bindings : next.bindings = registry.bindings)
    (versions : next.bindingVersions = registry.bindingVersions) : Consistent drawn next := by
  have backward : ∀ {proxyId after}, next.records.get? proxyId = some after →
      ∃ before, registry.records.get? proxyId = some before ∧ before.Same after := by
    intro proxyId after found
    have known : (registry.records.get? proxyId).isSome = true := by
      rw [← records, found]
      rfl
    obtain ⟨before, was⟩ := Option.isSome_iff_exists.1 known
    exact ⟨before, was, same was found⟩
  have forward : ∀ {proxyId before}, registry.records.get? proxyId = some before →
      ∃ after, next.records.get? proxyId = some after ∧ before.Same after := by
    intro proxyId before was
    have known : (next.records.get? proxyId).isSome = true := by
      rw [records, was]
      rfl
    obtain ⟨after, found⟩ := Option.isSome_iff_exists.1 known
    exact ⟨after, found, same was found⟩
  refine ⟨?_, ?_, ?_, ?_, ?_, ?_, ?_⟩
  · intro proxyId record found
    obtain ⟨before, was, _⟩ := backward found
    exact consistent.old was
  · intro proxyId record found
    obtain ⟨before, was, descriptor, _⟩ := backward found
    rw [descriptor]
    exact consistent.own was
  · intro proxyId record found
    obtain ⟨before, was, descriptor, _⟩ := backward found
    rw [bindings, descriptor]
    exact consistent.bound was
  · intro key currentId bound
    rw [bindings] at bound
    obtain ⟨before, was, anchored, keyed, version⟩ := consistent.registered bound
    obtain ⟨after, found, descriptor, anchor⟩ := forward was
    rw [versions]
    exact ⟨after, found, anchor.trans anchored, by rw [descriptor, keyed], by rw [descriptor, version]⟩
  · intro proxyId record found anchored
    obtain ⟨before, was, descriptor, anchor⟩ := backward found
    rw [versions, descriptor]
    exact consistent.versioned was (anchor ▸ anchored)
  · intro first second firstRecord secondRecord one two anchored anchoredToo key version
    obtain ⟨firstBefore, firstWas, descriptor, anchor⟩ := backward one
    obtain ⟨secondBefore, secondWas, descriptorToo, anchorToo⟩ := backward two
    rw [descriptor, descriptorToo] at key version
    exact consistent.distinct firstWas secondWas (anchor ▸ anchored) (anchorToo ▸ anchoredToo) key
      version
  · intro proxyId record anchorId found anchored
    obtain ⟨before, was, descriptor, anchor⟩ := backward found
    obtain ⟨exact, drawnBefore, describes⟩ := consistent.exact was (anchor ▸ anchored)
    refine ⟨by rw [descriptor]; exact exact, drawnBefore, ?_⟩
    intro anchorRecord anchorFound
    obtain ⟨anchorBefore, anchorWas, anchorDescriptor, anchorAnchor⟩ := backward anchorFound
    obtain ⟨plain, latest, described⟩ := describes anchorWas
    rw [descriptor, anchorDescriptor]
    exact ⟨anchorAnchor.trans plain, latest, described⟩

/-! ## Registrations -/

/-- A new registration with the next version of its name. -/
theorem store (consistent : Consistent drawn registry) {descriptor : ProxyDescriptor carriers}
    (resolverHandle : Option carriers.Handle) (own : descriptor.proxyId = drawn)
    (version : descriptor.version = registry.nextVersion descriptor.key) :
    Consistent (drawn + 1) (registry.store descriptor resolverHandle) := by
  have stored : ∀ {proxyId record},
      (registry.store descriptor resolverHandle).records.get? proxyId = some record →
      proxyId = drawn ∧ record = .registered descriptor resolverHandle ∨
        proxyId ≠ drawn ∧ registry.records.get? proxyId = some record := by
    intro proxyId record found
    have := Dictionary.get?_set_eq_some.1 found
    rwa [own] at this
  have newest : ∀ {proxyId record}, registry.records.get? proxyId = some record →
      record.exactAnchorId = none → record.descriptor.key = descriptor.key →
      record.descriptor.version < descriptor.version := by
    intro proxyId record was anchored key
    obtain ⟨last, held, most⟩ := consistent.versioned was anchored
    rw [version]
    unfold ProxyRegistry.nextVersion
    rw [← key, held]
    exact Nat.lt_succ_of_le most
  refine ⟨?_, ?_, ?_, ?_, ?_, ?_, ?_⟩
  · intro proxyId record found
    rcases stored found with ⟨rfl, _⟩ | ⟨_, was⟩
    · exact Nat.lt_succ_self _
    · exact Nat.lt_succ_of_lt (consistent.old was)
  · intro proxyId record found
    rcases stored found with ⟨rfl, rfl⟩ | ⟨_, was⟩
    · exact own
    · exact consistent.own was
  · intro proxyId record found
    by_cases key : record.descriptor.key = descriptor.key
    · exact ⟨_, by
        rw [key]
        exact Dictionary.get?_set_same _ _ _⟩
    · rcases stored found with ⟨_, rfl⟩ | ⟨_, was⟩
      · exact absurd rfl key
      · obtain ⟨currentId, bound⟩ := consistent.bound was
        exact ⟨currentId, (Dictionary.get?_set_other _ _ key).trans bound⟩
  · intro key currentId bound
    rcases Dictionary.get?_set_eq_some.1 bound with ⟨rfl, rfl⟩ | ⟨other, was⟩
    · exact ⟨_, Dictionary.get?_set_same _ _ _, rfl, rfl, Dictionary.get?_set_same _ _ _⟩
    · obtain ⟨record, found, anchored, keyed, held⟩ := consistent.registered was
      have apart : currentId ≠ descriptor.proxyId := by
        rw [own]
        exact Nat.ne_of_lt (consistent.old found)
      exact ⟨record, (Dictionary.get?_set_other _ _ apart).trans found, anchored, keyed,
        (Dictionary.get?_set_other _ _ other).trans held⟩
  · intro proxyId record found anchored
    by_cases key : record.descriptor.key = descriptor.key
    · refine ⟨descriptor.version, by
        rw [key]
        exact Dictionary.get?_set_same _ _ _, ?_⟩
      rcases stored found with ⟨_, rfl⟩ | ⟨_, was⟩
      · exact Nat.le_refl _
      · exact Nat.le_of_lt (newest was anchored key)
    · rcases stored found with ⟨_, rfl⟩ | ⟨_, was⟩
      · exact absurd rfl key
      · obtain ⟨last, held, most⟩ := consistent.versioned was anchored
        exact ⟨last, (Dictionary.get?_set_other _ _ key).trans held, most⟩
  · intro first second firstRecord secondRecord one two anchored anchoredToo key same
    rcases stored one with ⟨rfl, rfl⟩ | ⟨_, was⟩ <;>
      rcases stored two with ⟨is, rfl⟩ | ⟨_, wasToo⟩
    · exact is.symm
    · exact absurd same (Nat.ne_of_gt (newest wasToo anchoredToo key.symm))
    · exact absurd same (Nat.ne_of_lt (newest was anchored key))
    · exact consistent.distinct was wasToo anchored anchoredToo key same
  · intro proxyId record anchorId found anchored
    rcases stored found with ⟨_, rfl⟩ | ⟨_, was⟩
    · cases anchored
    · obtain ⟨exact, before, describes⟩ := consistent.exact was anchored
      refine ⟨exact, Nat.lt_succ_of_lt before, fun anchorFound => ?_⟩
      rcases stored anchorFound with ⟨is, _⟩ | ⟨_, anchorWas⟩
      · exact absurd is (Nat.ne_of_lt before)
      · exact describes anchorWas

/-- The active publication is no part of what is consistent. -/
theorem of_same (consistent : Consistent drawn registry) (records : next.records = registry.records)
    (bindings : next.bindings = registry.bindings)
    (versions : next.bindingVersions = registry.bindingVersions) : Consistent drawn next := by
  refine consistent.reflagged (fun proxyId => by rw [records]) ?_ bindings versions
  intro proxyId before after was found
  rw [records, was] at found
  cases found
  exact ⟨rfl, rfl⟩

end Consistent

end OnecRuntime.Proxies

/-!
# Resolution

What `resolve` answers for a known proxy of a consistent registry: an expected failure,
or the proxy itself, or the live binding of its name under the same fence. Two registries
that agree on what a resolution reads give the same answer.
-/

namespace OnecRuntime.Proxies

open OnecRuntime.Library

variable {carriers : Carriers} {drawn : Nat} {registry other : ProxyRegistry carriers}

def ProxyRecord.Live (record : ProxyRecord carriers) : Prop :=
  record.stale = false ∧ record.released = false

/-- What an answer is. -/
inductive Resolution (registry : ProxyRegistry carriers) (proxyId : ProxyId)
    (record : ProxyRecord carriers) (answer : ProxyDescriptor carriers) : Prop
  | snapshot {anchorId : ProxyId} {anchor : ProxyRecord carriers}
      (anchored : record.exactAnchorId = some anchorId)
      (bound : registry.bindings.get? record.descriptor.key = some anchorId)
      (found : registry.records.get? anchorId = some anchor) (live : anchor.Live)
      (same : answer = record.descriptor)
  | binding (plain : record.exactAnchorId = none)
      (bound : registry.bindings.get? record.descriptor.key = some proxyId)
      (same : answer = record.descriptor)
  | latest {currentId : ProxyId} {current : ProxyRecord carriers}
      (plain : record.exactAnchorId = none)
      (latest : record.descriptor.consistency ≠ .exact)
      (bound : registry.bindings.get? record.descriptor.key = some currentId)
      (found : registry.records.get? currentId = some current) (live : current.Live)
      (fence : current.descriptor.fence = record.descriptor.fence)
      (same : answer = current.descriptor)

theorem anchorHolds_iff {anchorId currentId : ProxyId} {descriptor : ProxyDescriptor carriers} :
    registry.anchorHolds anchorId currentId descriptor = true ↔
      currentId = anchorId ∧ ∃ anchor, registry.records.get? anchorId = some anchor ∧
        anchor.Live ∧ anchor.descriptor.fence = descriptor.fence := by
  unfold ProxyRegistry.anchorHolds ProxyRecord.Live
  cases registry.records.get? anchorId with
  | none => simp
  | some anchor => simp [and_assoc]

/-- A known proxy fails as expected, or the answer is live. -/
theorem Consistent.resolve_cases (consistent : Consistent drawn registry) {proxyId : ProxyId}
    {record : ProxyRecord carriers} (known : registry.records.get? proxyId = some record) :
    (∃ failure, registry.resolve proxyId = .error failure ∧ failure.Expected) ∨
      ∃ answer, registry.resolve proxyId = .ok answer ∧ record.Live ∧
        Resolution registry proxyId record answer := by
  obtain ⟨currentId, bound⟩ := consistent.bound known
  obtain ⟨current, found, _⟩ := consistent.registered bound
  have recorded : registry.record proxyId = .ok record := by
    unfold ProxyRegistry.record
    rw [known]
  have currently : registry.currentId record.descriptor = .ok currentId := by
    unfold ProxyRegistry.currentId
    rw [bound]
  have currentRecorded : registry.currentRecord currentId = .ok current := by
    unfold ProxyRegistry.currentRecord
    rw [found]
  unfold ProxyRegistry.resolve
  rw [recorded, ok_bind]
  by_cases released : record.released = false
  · rw [require_of_holds released, ok_bind]
    by_cases stale : record.stale = false
    · rw [require_of_holds stale, ok_bind, currently, ok_bind]
      cases anchored : record.exactAnchorId with
      | some anchorId =>
          simp only
          by_cases holds : registry.anchorHolds anchorId currentId record.descriptor = true
          · obtain ⟨rfl, anchor, anchorFound, live, _⟩ := anchorHolds_iff.1 holds
            rw [require_of_holds holds]
            exact .inr ⟨_, rfl, ⟨stale, released⟩, .snapshot anchored bound anchorFound live rfl⟩
          · rw [require_of_fails holds]
            exact .inl ⟨_, rfl, trivial⟩
      | none =>
          simp only
          by_cases same : currentId = proxyId
          · rw [if_pos same]
            subst same
            exact .inr ⟨_, rfl, ⟨stale, released⟩, .binding anchored bound rfl⟩
          · rw [if_neg same]
            by_cases latest : record.descriptor.consistency ≠ .exact
            · rw [require_of_holds latest, ok_bind, currentRecorded, ok_bind]
              by_cases crosses : current.stale = false ∧ current.released = false ∧
                  current.descriptor.fence = record.descriptor.fence
              · rw [require_of_holds crosses]
                exact .inr ⟨_, rfl, ⟨stale, released⟩,
                  .latest anchored latest bound found ⟨crosses.1, crosses.2.1⟩ crosses.2.2 rfl⟩
              · rw [require_of_fails crosses]
                exact .inl ⟨_, rfl, trivial⟩
            · rw [require_of_fails latest]
              exact .inl ⟨_, rfl, trivial⟩
    · rw [require_of_fails stale]
      exact .inl ⟨_, rfl, trivial⟩
  · rw [require_of_fails released]
    exact .inl ⟨_, rfl, trivial⟩

theorem resolve_unknown {proxyId : ProxyId} (unknown : registry.records.get? proxyId = none) :
    registry.resolve proxyId = .error .unknownProxy := by
  unfold ProxyRegistry.resolve ProxyRegistry.record
  rw [unknown]
  rfl

/-- Two registries agree on what the resolution of a proxy reads. -/
structure AgreesOn (registry other : ProxyRegistry carriers) (proxyId : ProxyId)
    (record : ProxyRecord carriers) : Prop where
  known : registry.records.get? proxyId = some record
  knownToo : other.records.get? proxyId = some record
  bindings : other.bindings.get? record.descriptor.key =
    registry.bindings.get? record.descriptor.key
  current : ∀ {currentId}, registry.bindings.get? record.descriptor.key = some currentId →
    other.records.get? currentId = registry.records.get? currentId
  anchor : ∀ {anchorId}, record.exactAnchorId = some anchorId →
    other.records.get? anchorId = registry.records.get? anchorId

section

variable {proxyId : ProxyId} {record : ProxyRecord carriers}

theorem AgreesOn.resolve (agrees : AgreesOn registry other proxyId record) :
    other.resolve proxyId = registry.resolve proxyId := by
  unfold ProxyRegistry.resolve ProxyRegistry.record ProxyRegistry.currentId
  rw [agrees.known, agrees.knownToo]
  simp only [ok_bind]
  rw [agrees.bindings]
  cases bound : registry.bindings.get? record.descriptor.key with
  | none => rfl
  | some currentId =>
      have current := agrees.current bound
      simp only [ok_bind]
      cases anchored : record.exactAnchorId with
      | some anchorId =>
          have same : other.anchorHolds anchorId currentId record.descriptor =
              registry.anchorHolds anchorId currentId record.descriptor := by
            unfold ProxyRegistry.anchorHolds
            rw [agrees.anchor anchored]
          simp only [same]
      | none =>
          simp only [ProxyRegistry.currentRecord]
          rw [current]

theorem AgreesOn.releaseTarget (agrees : AgreesOn registry other proxyId record) :
    other.releaseTarget proxyId = registry.releaseTarget proxyId := by
  unfold ProxyRegistry.releaseTarget ProxyRegistry.record ProxyRegistry.currentId
  rw [agrees.known, agrees.knownToo]
  simp only [ok_bind]
  rw [agrees.bindings]
  cases bound : registry.bindings.get? record.descriptor.key with
  | none => rfl
  | some currentId =>
      have current := agrees.current bound
      simp only [ok_bind]
      cases anchored : record.exactAnchorId with
      | some anchorId =>
          have same : other.anchorLive anchorId currentId =
              registry.anchorLive anchorId currentId := by
            unfold ProxyRegistry.anchorLive
            rw [agrees.anchor anchored]
          simp only [same]
      | none =>
          simp only [ProxyRegistry.currentRecord]
          rw [current]

end

end OnecRuntime.Proxies
