import OnecRuntime.Registry.Preservation

/-!
# Releases

Releasing a handle or a pin takes one reference from one record, and the counts
follow it; an active record that loses its retention keeps its reference. A
committed plan is the plan that a preview makes at that moment, so a commit is a
direct release or raises.
-/

namespace OnecRuntime.Registry

open OnecRuntime.Library

variable {naming : Naming} {V : Type}

namespace WorkerUniverseRegistry

variable {registry next released : WorkerUniverseRegistry naming V}

variable {record : GenerationRecord naming V}

variable {handle : WorkerGenerationHandle}

theorem recordOf_stored (found : registry.recordOf handle = .ok record) :
    registry.generations.get? handle.generation = some record ∧ record.handle = handle := by
  unfold recordOf at found
  split at found
  · next stored =>
      split at found
      · next same =>
          cases found
          exact ⟨stored, same.1⟩
      · cases found
  · cases found

theorem requireGeneration_stored (found : registry.requireGeneration handle = .ok record) :
    registry.generations.get? handle.generation = some record ∧ record.handle = handle := by
  obtain ⟨_, _, found⟩ := bind_eq_ok.1 found
  exact recordOf_stored found

theorem requireLease_stored {pin : OperationGenerationPin naming} {lease : OperationLease naming}
    (found : registry.requireLease pin = .ok lease) :
    registry.leases.get? pin.leaseId = some lease ∧ lease.pin = pin := by
  unfold requireLease at found
  split at found
  · next stored =>
      split at found
      · next same =>
          cases found
          exact ⟨stored, same⟩
      · cases found
  · cases found

/-- One record lost one reference and the counts with it; the leases lost the pin. -/
structure Dropped (registry released : WorkerUniverseRegistry naming V) (refcounts : Refcounts)
    (generation : Nat) (record updated : GenerationRecord naming V) : Prop where
  stored : registry.generations.get? generation = some record
  frame : released = { registry with
    generations := registry.generations.set generation updated
    leases := released.leases }
  active : updated.active = record.active
  handle : updated.handle = record.handle
  counts : ∀ name, countOf refcounts name + record.references name =
    countOf registry.registrationRefcounts name + updated.references name
  keys : ∀ name, name ∈ refcounts.keys ↔ 0 < registry.demand name
  pins : ∀ other, released.leasesOn other +
      (if other = generation then record.operationPins else 0) =
    registry.leasesOn other + (if other = generation then updated.operationPins else 0)
  leased : ∀ leaseId lease, released.leases.get? leaseId = some lease →
    registry.leases.get? leaseId = some lease

def dropRetention (record : GenerationRecord naming V) : GenerationRecord naming V :=
  { record with explicitlyRetained := false }

def dropPin (record : GenerationRecord naming V) : GenerationRecord naming V :=
  { record with operationPins := record.operationPins - 1 }

theorem references_dropRetention (retained : record.explicitlyRetained = true) (name : String) :
    (dropRetention record).references name +
        (if name ∈ record.manifest.registrationNames then (if record.active then 0 else 1) else 0) =
      record.references name := by
  unfold GenerationRecord.references dropRetention
  rw [retained]
  cases record.active with
  | true => split <;> simp
  | false =>
      split
      · simp
        omega
      · rfl

theorem references_dropPin (pinned : 0 < record.operationPins)
    (name : String) :
    (dropPin record).references name +
        (if name ∈ record.manifest.registrationNames then 1 else 0) = record.references name := by
  unfold GenerationRecord.references dropPin
  split
  · simp only
    omega
  · rfl

variable {refcounts : Refcounts}

/-- A count lowered by one for each registration of a record. -/
theorem lowered_counts (exact : Exact registry) {generation : Nat}
    {updated : GenerationRecord naming V}
    (stored : registry.generations.get? generation = some record)
    (lowered : adjustManifestRegistrations registry.registrationRefcounts record.manifest (-1) =
      .ok refcounts)
    (references : ∀ name, updated.references name +
      (if name ∈ record.manifest.registrationNames then 1 else 0) = record.references name)
    (name : String) :
    countOf refcounts name + record.references name =
        countOf registry.registrationRefcounts name + updated.references name ∧
      (name ∈ refcounts.keys ↔ 0 < registry.demand name) := by
  obtain ⟨count, keys⟩ := adjustManifestRegistrations_spec lowered name
  have moved := references name
  constructor
  · by_cases member : name ∈ record.manifest.registrationNames
    · rw [if_pos member] at count moved
      omega
    · rw [if_neg member] at count moved
      omega
  · rw [keys, exact.counted.stored]
    exact or_iff_right_of_imp fun member => exact.name_stored stored member

theorem dropped_retention (exact : Exact registry)
    (dropped : registry.dropReference (.generation handle) = .ok (record, refcounts))
    (removed : registry.releaseRecord (.generation handle) = .ok released) :
    Dropped registry released refcounts handle.generation record (dropRetention record) := by
  obtain ⟨found, known, dropped⟩ := bind_eq_ok.1 dropped
  obtain ⟨_, retained, dropped⟩ := bind_eq_ok.1 dropped
  obtain ⟨_, lowered, dropped⟩ := bind_eq_ok.1 dropped
  cases dropped
  obtain ⟨again, same, removed⟩ := bind_eq_ok.1 removed
  rw [known] at same
  cases same
  cases removed
  have references := references_dropRetention (require_eq_ok.1 retained)
  obtain ⟨stored, _⟩ := requireGeneration_stored known
  have moved : ∀ name, countOf refcounts name + record.references name =
        countOf registry.registrationRefcounts name + (dropRetention record).references name ∧
      (name ∈ refcounts.keys ↔ 0 < registry.demand name) := by
    intro name
    unfold dropHandleReference at lowered
    split at lowered
    · next active =>
        cases lowered
        have kept := references name
        rw [active] at kept
        refine ⟨?_, exact.counted.stored name⟩
        simp only [if_true, ite_self] at kept
        omega
    · next inactive =>
        refine lowered_counts exact stored lowered (fun other => ?_) name
        have kept := references other
        rw [if_neg inactive] at kept
        exact kept
  exact ⟨stored, rfl, rfl, rfl, fun name => (moved name).1, fun name => (moved name).2,
    fun _ => rfl, fun _ _ => id⟩

theorem dropped_pin (exact : Exact registry) {pin : OperationGenerationPin naming}
    (dropped : registry.dropReference (.pin pin) = .ok (record, refcounts))
    (removed : registry.releaseRecord (.pin pin) = .ok released) :
    Dropped registry released refcounts pin.handle.generation record (dropPin record) := by
  obtain ⟨lease, leased, dropped⟩ := bind_eq_ok.1 dropped
  obtain ⟨_, _, dropped⟩ := bind_eq_ok.1 dropped
  obtain ⟨_, known, dropped⟩ := bind_eq_ok.1 dropped
  obtain ⟨_, positive, dropped⟩ := bind_eq_ok.1 dropped
  obtain ⟨_, lowered, dropped⟩ := bind_eq_ok.1 dropped
  cases dropped
  obtain ⟨_, _, removed⟩ := bind_eq_ok.1 removed
  obtain ⟨again, same, removed⟩ := bind_eq_ok.1 removed
  rw [known] at same
  cases same
  cases removed
  have references := references_dropPin (require_eq_ok.1 positive)
  obtain ⟨stored, _⟩ := requireGeneration_stored known
  obtain ⟨held, owner⟩ := requireLease_stored leased
  have moved := lowered_counts exact stored lowered references
  refine ⟨stored, rfl, rfl, rfl, fun name => (moved name).1, fun name => (moved name).2,
    fun other => ?_, fun leaseId other kept => ?_⟩
  · have erased := Dictionary.total_erase_stored (fun lease : OperationLease naming =>
      if lease.pin.handle.generation = other then 1 else 0) held
    have enough := require_eq_ok.1 positive
    rw [owner] at erased
    unfold leasesOn
    simp only [dropPin]
    by_cases same : other = pin.handle.generation
    · subst same
      rw [if_pos rfl] at erased
      simp only [if_true]
      omega
    · rw [if_neg fun equal => same equal.symm] at erased
      simp only [if_neg same]
      omega
  · by_cases same : leaseId = pin.leaseId
    · subst same
      have gone : (registry.leases.erase pin.leaseId).get? pin.leaseId = none :=
        Dictionary.get?_eraseAll_removed _ (List.mem_singleton_self _)
      rw [gone] at kept
      cases kept
    · have stays : (registry.leases.erase pin.leaseId).get? leaseId =
          registry.leases.get? leaseId :=
        Dictionary.get?_eraseAll_kept _ fun member => same (List.mem_singleton.1 member)
      rw [← stays]
      exact kept

variable {release : Release naming}

theorem dropped_of_release (exact : Exact registry)
    (dropped : registry.dropReference release = .ok (record, refcounts))
    (removed : registry.releaseRecord release = .ok released) :
    ∃ generation updated, Dropped registry released refcounts generation record updated := by
  cases release with
  | generation handle => exact ⟨_, _, dropped_retention exact dropped removed⟩
  | pin pin => exact ⟨_, _, dropped_pin exact dropped removed⟩

namespace Dropped

variable {refcounts : Refcounts} {generation : Nat} {record updated : GenerationRecord naming V}

theorem generations (dropped : Dropped registry released refcounts generation record updated) :
    released.generations = registry.generations.set generation updated := by
  rw [dropped.frame]

theorem get? (dropped : Dropped registry released refcounts generation record updated)
    {other : Nat} {found : GenerationRecord naming V}
    (kept : released.generations.get? other = some found) :
    other = generation ∧ found = updated ∨
      other ≠ generation ∧ registry.generations.get? other = some found := by
  rw [dropped.generations] at kept
  by_cases same : other = generation
  · subst same
    rw [Dictionary.get?_set_same] at kept
    exact .inl ⟨rfl, (Option.some.inj kept).symm⟩
  · rw [Dictionary.get?_set_other _ _ same] at kept
    exact .inr ⟨same, kept⟩

theorem mem_keys (dropped : Dropped registry released refcounts generation record updated)
    {other : Nat} : other ∈ released.generations.keys ↔ other ∈ registry.generations.keys := by
  rw [dropped.generations, Dictionary.mem_keys_set]
  apply or_iff_right_of_imp
  rintro rfl
  exact Dictionary.mem_keys.2 ⟨record, dropped.stored⟩

theorem activeGeneration
    (dropped : Dropped registry released refcounts generation record updated) :
    released.activeGeneration = registry.activeGeneration := by
  rw [dropped.frame]

theorem referenced (dropped : Dropped registry released refcounts generation record updated)
    (exact : Exact registry) : Referenced released := by
  constructor
  · intro other found kept
    rw [dropped.activeGeneration]
    rcases dropped.get? kept with ⟨rfl, rfl⟩ | ⟨_, was⟩
    · rw [dropped.active]
      exact exact.active other record dropped.stored
    · exact exact.active other found was
  · intro other chosen
    rw [dropped.activeGeneration] at chosen
    exact dropped.mem_keys.2 (exact.activeStored other chosen)
  · intro other found kept
    rcases dropped.get? kept with ⟨rfl, rfl⟩ | ⟨_, was⟩
    · rw [dropped.handle]
      exact exact.handles other record dropped.stored
    · exact exact.handles other found was
  · intro other found kept
    have moved := dropped.pins other
    rcases dropped.get? kept with ⟨rfl, rfl⟩ | ⟨apart, was⟩
    · have before := exact.pins other record dropped.stored
      simp only [if_true] at moved
      omega
    · rw [if_neg apart, if_neg apart] at moved
      rw [exact.pins other found was]
      exact moved.symm
  · intro leaseId lease kept
    obtain ⟨named, old, was, owner⟩ := exact.leased leaseId lease (dropped.leased leaseId lease kept)
    refine ⟨named, ?_⟩
    rw [dropped.generations]
    by_cases same : lease.pin.handle.generation = generation
    · rw [same] at was ⊢
      rw [dropped.stored] at was
      cases was
      exact ⟨updated, Dictionary.get?_set_same _ _ _, dropped.handle.trans owner⟩
    · exact ⟨old, (Dictionary.get?_set_other _ _ same).trans was, owner⟩
  · intro other member
    rw [dropped.frame]
    exact exact.numbered other (dropped.mem_keys.1 member)
  · intro candidate isPending
    rw [dropped.mem_keys]
    rw [dropped.frame] at isPending ⊢
    exact exact.pendingNew candidate isPending
  · rw [dropped.frame]
    exact exact.holds

theorem countOf_eq (dropped : Dropped registry released refcounts generation record updated)
    (exact : Exact registry) (name : String) : countOf refcounts name = released.demand name := by
  have moved := demandIn_set updated dropped.stored name
  have counted := dropped.counts name
  have count := exact.counted.counts name
  unfold demand at count ⊢
  rw [dropped.generations]
  omega

end Dropped

/-! ## Plans -/

variable {plan : WorkerLifecycleReleasePlan naming V}

/-- What a returned preview says: it is the plan of a removal in the present registry. -/
theorem previewRelease_cases {fence : Nat × Nat}
    (returned : registry.previewRelease fence release = .ok plan) :
    ∃ record refcounts removal,
      registry.requireAvailable "preview release" = .ok () ∧
      registry.requireCurrentFence fence = .ok () ∧
      registry.dropReference release = .ok (record, refcounts) ∧
      removal = removeZeroRegistrationRefcounts naming refcounts registry.registrationArtifacts
        registry.quarantineHolds ∧
      plan.owner = registry.releaseOwner ∧
      plan.expectedFence = (registry.runtimeGeneration, registry.contextGeneration) ∧
      plan.release = release ∧ plan.releasedNames = removal.released ∧
      plan.nextRegistrationRefcounts = sortedItems naming removal.refcounts.entries ∧
      plan.nextRegistrationArtifacts = sortedItems naming removal.artifacts.entries := by
  obtain ⟨_, available, returned⟩ := bind_eq_ok.1 returned
  obtain ⟨_, current, returned⟩ := bind_eq_ok.1 returned
  obtain ⟨⟨record, refcounts⟩, dropped, returned⟩ := bind_eq_ok.1 returned
  cases returned
  exact ⟨record, refcounts, _, available, current, dropped, rfl, rfl, rfl, rfl, rfl, rfl, rfl⟩

/-- A preview does not depend on the fence reading that admitted it. -/
theorem previewRelease_same {first second : Nat × Nat}
    (returned : registry.previewRelease first release = .ok plan)
    (current : registry.requireCurrentFence second = .ok ()) :
    registry.previewRelease second release = .ok plan := by
  obtain ⟨_, available, returned⟩ := bind_eq_ok.1 returned
  obtain ⟨_, _, returned⟩ := bind_eq_ok.1 returned
  unfold previewRelease
  rw [available, current]
  exact returned

variable [DecidableEq V]

/-- What a returned commit did: the plan is the present one, and the registry is the one with
its record released and its counts installed. -/
structure Commitment (registry next : WorkerUniverseRegistry naming V)
    (previewFence : Nat × Nat) (plan : WorkerLifecycleReleasePlan naming V)
    (released : WorkerUniverseRegistry naming V) : Prop where
  available : registry.requireAvailable "commit release" = .ok ()
  previewed : ∃ current, registry.previewRelease previewFence plan.release = .ok current ∧
    planIsCurrent plan current
  removed : registry.releaseRecord plan.release = .ok released
  committed : next = { released with
    registrationRefcounts := .ofItems plan.nextRegistrationRefcounts
    registrationArtifacts := .ofItems plan.nextRegistrationArtifacts
    }.collectUnretainedGenerations

theorem commitReleaseAttempt_cases {fence previewFence : Nat × Nat}
    {names : List String}
    (returned : registry.commitReleaseAttempt fence previewFence plan = .ok (next, names)) :
    registry.requireCurrentFence fence = .ok () ∧ names = plan.releasedNames ∧
      ∃ released, Commitment registry next previewFence plan released := by
  obtain ⟨_, available, returned⟩ := bind_eq_ok.1 returned
  obtain ⟨_, fenced, returned⟩ := bind_eq_ok.1 returned
  obtain ⟨_, _, returned⟩ := bind_eq_ok.1 returned
  obtain ⟨current, previewed, returned⟩ := bind_eq_ok.1 returned
  obtain ⟨_, same, returned⟩ := bind_eq_ok.1 returned
  obtain ⟨released, removed, returned⟩ := bind_eq_ok.1 returned
  cases returned
  exact ⟨fenced, rfl, released, available, ⟨current, previewed, require_eq_ok.1 same⟩, removed, rfl⟩

theorem Commitment.exact {previewFence : Nat × Nat}
    (commitment : Commitment registry next previewFence plan released) (exact : Exact registry) :
    Exact next ∧ Released registry.demand next.demand plan.releasedNames := by
  obtain ⟨current, previewed, views, names, refcountItems, artifactItems⟩ := commitment.previewed
  obtain ⟨record, refcounts, removal, _, _, dropped, removed, _, _, _, reported, nextRefcounts,
    nextArtifacts⟩ := previewRelease_cases previewed
  obtain ⟨generation, updated, lost⟩ := dropped_of_release exact dropped commitment.removed
  rw [exact.holds_empty (unbroken_of_available commitment.available)] at removed
  have same : ∀ name, name ∈ registry.registrationArtifacts.keys ↔ name ∈ refcounts.keys := by
    intro name
    rw [lost.keys, exact.counted.owned]
  have counted := (removal_counted naming (lost.countOf_eq exact) same).ofSortedItems naming
  have after : next.demand = released.demand := by
    rw [commitment.committed]
    exact funext demand_collected
  rw [← removed, ← nextRefcounts, ← nextArtifacts, refcountItems, artifactItems] at counted
  constructor
  · rw [commitment.committed]
    exact ((lost.referenced exact).withCounts _ _).exact_collected counted
  · rw [after, ← names, reported, removed]
    apply removal_released naming _ (lost.countOf_eq exact)
    exact fun name member _ => (lost.keys name).1 member

theorem commitRelease_exact (exact : Exact registry) (fence previewFence : Nat × Nat)
    (plan : WorkerLifecycleReleasePlan naming V) :
    Exact (registry.commitRelease fence previewFence plan).registry := by
  apply Outcome.ofAttempt_registry exact
  intro next names returned
  obtain ⟨_, _, released, commitment⟩ := commitReleaseAttempt_cases returned
  exact (commitment.exact exact).1

theorem directRelease_exact (exact : Exact registry) (planFence fence previewFence : Nat × Nat)
    (release : Release naming) :
    Exact (registry.directRelease planFence fence previewFence release).registry := by
  unfold directRelease
  split
  · exact exact
  · exact commitRelease_exact exact fence previewFence _

/-- Committing a plan raises and changes nothing, or it is the direct release of the plan's
capability in the present registry. -/
theorem commitRelease_direct (fence previewFence : Nat × Nat)
    (plan : WorkerLifecycleReleasePlan naming V) :
    ((∃ problem, (registry.commitRelease fence previewFence plan).result = .error problem) ∧
        (registry.commitRelease fence previewFence plan).registry = registry) ∨
      registry.commitRelease fence previewFence plan =
        registry.directRelease fence fence previewFence plan.release := by
  unfold commitRelease directRelease
  cases returned : registry.commitReleaseAttempt fence previewFence plan with
  | error problem => exact .inl ⟨⟨problem, rfl⟩, rfl⟩
  | ok outcome =>
      obtain ⟨next, names⟩ := outcome
      right
      obtain ⟨fenced, reported, released, commitment⟩ := commitReleaseAttempt_cases returned
      obtain ⟨current, previewed, views, released_names, refcountItems, artifactItems⟩ :=
        commitment.previewed
      obtain ⟨_, _, _, _, _, _, _, owner, expected, release, _⟩ := previewRelease_cases previewed
      have again : registry.commitReleaseAttempt fence previewFence current = .ok (next, names) := by
        refine bind_eq_ok.2 ⟨(), commitment.available, bind_eq_ok.2 ⟨(), fenced,
          bind_eq_ok.2 ⟨(), require_eq_ok.2 ⟨owner, expected⟩, bind_eq_ok.2 ⟨current, ?_,
          bind_eq_ok.2 ⟨(), require_eq_ok.2 ⟨rfl, rfl, rfl, rfl⟩,
          bind_eq_ok.2 ⟨released, ?_, pure_eq_ok.2 ?_⟩⟩⟩⟩⟩⟩
        · rw [release]
          exact previewed
        · rw [release]
          exact commitment.removed
        · rw [commitment.committed, reported, refcountItems, artifactItems, released_names]
      rw [previewRelease_same previewed fenced]
      simp only [commitRelease, again]

end WorkerUniverseRegistry

end OnecRuntime.Registry
