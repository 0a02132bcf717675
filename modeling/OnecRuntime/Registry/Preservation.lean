import OnecRuntime.Registry.Invariant

/-!
# Every call keeps the registry exact

A call that only moves the pending candidate leaves the references alone. The
other calls move one reference each: a promotion drops the old active generation
and adds the candidate, a pin adds one, a release removes one.
-/

namespace OnecRuntime.Registry

open OnecRuntime.Library

variable {naming : Naming} {V : Type}

/-- What holds of a registry and of every registry an attempt returns holds afterwards. -/
theorem Outcome.ofAttempt_registry {α : Type} {property : WorkerUniverseRegistry naming V → Prop}
    {registry : WorkerUniverseRegistry naming V}
    {attempt : Except Problem (WorkerUniverseRegistry naming V × α)} (before : property registry)
    (after : ∀ next value, attempt = .ok (next, value) → property next) :
    property (Outcome.ofAttempt registry attempt).registry := by
  cases attempt with
  | error problem => exact before
  | ok returned =>
      obtain ⟨next, value⟩ := returned
      exact after next value rfl

namespace WorkerUniverseRegistry

variable {registry next : WorkerUniverseRegistry naming V}

/-- The references of a registry do not depend on its pending candidate or state. -/
theorem Exact.frame (exact : Exact registry) (generations : next.generations = registry.generations)
    (active : next.activeGeneration = registry.activeGeneration)
    (leases : next.leases = registry.leases)
    (refcounts : next.registrationRefcounts = registry.registrationRefcounts)
    (artifacts : next.registrationArtifacts = registry.registrationArtifacts)
    (later : registry.nextGeneration ≤ next.nextGeneration)
    (pendingNew : ∀ candidate, next.pending = some candidate →
      candidate.handle.generation ∉ registry.generations.keys ∧
        candidate.handle.generation < next.nextGeneration)
    (holds : next.quarantineHolds ≠ [] → next.state = .broken) : Exact next := by
  have demands : next.demand = registry.demand := by
    unfold demand
    rw [generations]
  constructor
  · constructor
    · rw [generations, active]
      exact exact.active
    · rw [generations, active]
      exact exact.activeStored
    · rw [generations]
      exact exact.handles
    · unfold leasesOn
      rw [generations, leases]
      exact exact.pins
    · rw [generations, leases]
      exact exact.leased
    · rw [generations]
      exact fun generation member => Nat.lt_of_lt_of_le (exact.numbered generation member) later
    · rw [generations]
      exact pendingNew
    · exact holds
  · rw [demands, refcounts, artifacts]
    exact exact.counted
  · rw [generations]
    exact exact.live

theorem prepare_exact (exact : Exact registry) (fence : Nat × Nat) (preparation : Preparation) :
    Exact (registry.prepare fence preparation).registry := by
  apply Outcome.ofAttempt_registry exact
  intro next value returned
  unfold prepareAttempt at returned
  obtain ⟨_, available, returned⟩ := bind_eq_ok.1 returned
  obtain ⟨_, _, returned⟩ := bind_eq_ok.1 returned
  obtain ⟨_, _, returned⟩ := bind_eq_ok.1 returned
  obtain ⟨⟨ordered, manifest⟩, _, returned⟩ := bind_eq_ok.1 returned
  obtain ⟨_, _, returned⟩ := bind_eq_ok.1 returned
  obtain ⟨_, _, returned⟩ := bind_eq_ok.1 returned
  obtain ⟨_, _, returned⟩ := bind_eq_ok.1 returned
  cases returned
  have unbroken := (require_eq_ok.1 available).1
  refine exact.frame rfl rfl rfl rfl rfl (Nat.le_succ _) ?_ ?_
  · rintro candidate ⟨⟩
    exact ⟨fun member => absurd (exact.numbered _ member) (Nat.lt_irrefl _), Nat.lt_succ_self _⟩
  · intro held
    exact absurd (exact.holds held) unbroken

theorem setBroken_exact (exact : Exact registry) (holds : List String) :
    Exact { registry with quarantineHolds := holds, pending := none, state := .broken } :=
  exact.frame rfl rfl rfl rfl rfl (Nat.le_refl _) (fun _ impossible => nomatch impossible)
    fun _ => rfl

theorem forgetPending_exact (exact : Exact registry)
    (candidate : WorkerUniverseCandidate naming) (unbroken : registry.state ≠ .broken) :
    Exact (registry.forgetPending candidate) :=
  exact.frame rfl rfl rfl rfl rfl (Nat.le_refl _) (fun _ impossible => nomatch impossible)
    fun held => absurd (exact.holds held) unbroken

theorem unbroken_of_available {operation : String}
    (available : registry.requireAvailable operation = .ok ()) : registry.state ≠ .broken :=
  (require_eq_ok.1 available).1

theorem discard_exact (exact : Exact registry) (fence : Nat × Nat)
    (candidate : WorkerUniverseCandidate naming) :
    Exact (registry.discard fence candidate).registry := by
  unfold discard
  cases admitted : registry.requireDiscardable candidate with
  | error problem => exact exact
  | ok value =>
      obtain ⟨_, available, _⟩ := bind_eq_ok.1 admitted
      cases registry.requireCurrentFence fence with
      | error problem => exact setBroken_exact exact _
      | ok current => exact forgetPending_exact exact candidate (unbroken_of_available available)

theorem discardExactPending_exact (exact : Exact registry)
    (candidate : WorkerUniverseCandidate naming) :
    Exact (registry.discardExactPendingWithoutFence candidate).registry := by
  apply Outcome.ofAttempt_registry exact
  intro next value returned
  obtain ⟨_, available, returned⟩ := bind_eq_ok.1 returned
  obtain ⟨_, _, returned⟩ := bind_eq_ok.1 returned
  obtain ⟨_, _, returned⟩ := bind_eq_ok.1 returned
  cases returned
  exact forgetPending_exact exact candidate (unbroken_of_available available)

theorem bindCandidateDebugView_exact (exact : Exact registry) (fence : Nat × Nat)
    (candidate : WorkerUniverseCandidate naming)
    (debugView : WorkerGenerationDebugView naming V) :
    Exact (registry.bindCandidateDebugView fence candidate debugView).registry := by
  apply Outcome.ofAttempt_registry exact
  intro next value returned
  obtain ⟨_, _, returned⟩ := bind_eq_ok.1 returned
  obtain ⟨_, _, returned⟩ := bind_eq_ok.1 returned
  cases returned
  exact exact.frame rfl rfl rfl rfl rfl (Nat.le_refl _) exact.pendingNew exact.holds

/-! ## Promotion -/

variable {generation : Nat} {update : GenerationRecord naming V → GenerationRecord naming V}

theorem get?_updateActive
    :
    (registry.updateActive update).get? generation =
      if registry.activeGeneration = some generation then
        (registry.generations.get? generation).map update
      else registry.generations.get? generation := by
  unfold updateActive
  cases isActive : registry.activeGeneration with
  | none => simp
  | some active =>
      cases stored : registry.generations.get? active with
      | none =>
          by_cases same : active = generation
          · subst same
            simp [stored]
          · simp [stored, same]
      | some record =>
          by_cases same : active = generation
          · subst same
            simp [stored]
          · have apart : generation ≠ active := fun equal => same equal.symm
            simp [stored, same, Dictionary.get?_set_other _ _ apart]

theorem mem_keys_updateActive
    :
    generation ∈ (registry.updateActive update).keys ↔
      generation ∈ registry.generations.keys := by
  rw [Dictionary.mem_keys, Dictionary.mem_keys, get?_updateActive]
  split
  · cases registry.generations.get? generation <;> simp
  · rfl

variable {record : GenerationRecord naming V}

theorem demandIn_updateActive (isActive : registry.activeGeneration = some generation)
    (stored : registry.generations.get? generation = some record) (name : String) :
    demandIn (registry.updateActive update) name + record.references name =
      registry.demand name + (update record).references name := by
  unfold updateActive
  rw [isActive]
  simp only [stored]
  exact demandIn_set _ stored name

theorem activeRecord_eq_some :
    registry.activeRecord = some record ↔ ∃ generation,
      registry.activeGeneration = some generation ∧
        registry.generations.get? generation = some record :=
  Option.bind_eq_some_iff

theorem references_deactivated (record : GenerationRecord naming V) (name : String) :
    ({ record with active := false } : GenerationRecord naming V).references name =
      if name ∈ record.manifest.registrationNames then
        (if record.explicitlyRetained then 1 else 0) + record.operationPins
      else 0 := by
  simp [GenerationRecord.references]

/-- The counts without the active reference are the demand of the deactivated records. -/
theorem dropActiveReference_spec (exact : Exact registry) {dropped : Refcounts}
    (returned : registry.dropActiveReference = .ok dropped) (name : String) :
    countOf dropped name = demandIn registry.deactivate name ∧
      (name ∈ dropped.keys ↔ 0 < registry.demand name) := by
  unfold dropActiveReference at returned
  cases current : registry.activeRecord with
  | none =>
      rw [current] at returned
      cases returned
      have untouched : registry.deactivate = registry.generations := by
        unfold deactivate updateActive
        cases isActive : registry.activeGeneration with
        | none => rfl
        | some generation =>
            have missing : registry.generations.get? generation = none := by
              unfold activeRecord at current
              rw [isActive] at current
              exact current
            simp only [missing]
      rw [untouched]
      exact ⟨exact.counted.counts name, exact.counted.stored name⟩
  | some record =>
      obtain ⟨generation, isActive, stored⟩ := activeRecord_eq_some.1 current
      have marked := (exact.active generation record stored).2 isActive
      have moved : demandIn registry.deactivate name + record.references name =
          registry.demand name +
            ({ record with active := false } : GenerationRecord naming V).references name :=
        demandIn_updateActive isActive stored name
      have held : record.references name =
          if name ∈ record.manifest.registrationNames then 1 + record.operationPins else 0 := by
        simp [GenerationRecord.references, marked]
      have count := exact.counted.counts name
      rw [current] at returned
      rw [references_deactivated, held] at moved
      simp only at returned
      by_cases retained : record.explicitlyRetained = true
      · rw [if_pos retained] at returned moved
        cases returned
        exact ⟨by omega, exact.counted.stored name⟩
      · rw [if_neg retained] at returned moved
        obtain ⟨adjusted, keys⟩ := adjustManifestRegistrations_spec returned name
        refine ⟨?_, ?_⟩
        · by_cases member : name ∈ record.manifest.registrationNames
          · rw [if_pos member] at adjusted moved
            rw [if_pos member] at moved
            omega
          · rw [if_neg member] at adjusted moved
            rw [if_neg member] at moved
            omega
        · rw [keys, exact.counted.stored]
          exact or_iff_right_of_imp fun member => exact.name_stored stored member

/-- The demand for a name before and after a call that reports names as released. -/
structure Released (before after : String → Nat) (names : List String) : Prop where
  distinct : names.Nodup
  held : ∀ name ∈ names, 0 < before name
  gone : ∀ name ∈ names, after name = 0

theorem removal_released (naming : Naming) {before after : String → Nat} {refcounts : Refcounts}
    (artifacts : Artifacts) (counts : ∀ name, countOf refcounts name = after name)
    (held : ∀ name ∈ refcounts.keys, after name = 0 → 0 < before name) :
    Released before after
      (removeZeroRegistrationRefcounts naming refcounts artifacts []).released := by
  have zero : ∀ name ∈ (removeZeroRegistrationRefcounts naming refcounts artifacts []).released,
      name ∈ refcounts.keys ∧ after name = 0 := by
    intro name member
    have stored := (mem_released naming artifacts).1 member
    refine ⟨Dictionary.mem_keys.2 ⟨0, stored⟩, ?_⟩
    rw [← counts, countOf, stored]
    rfl
  constructor
  · exact released_nodup naming artifacts []
  · exact fun name member => held name (zero name member).1 (zero name member).2
  · exact fun name member => (zero name member).2

theorem leasesOn_of_not_mem (referenced : Referenced registry)
    (absent : generation ∉ registry.generations.keys) : registry.leasesOn generation = 0 := by
  unfold leasesOn Dictionary.total
  apply List.sum_eq_zero
  intro weight member
  obtain ⟨⟨leaseId, lease⟩, inside, rfl⟩ := List.mem_map.1 member
  obtain ⟨_, record, stored, _⟩ := referenced.leased leaseId lease (Dictionary.get?_eq_some.2 inside)
  apply if_neg
  rintro rfl
  exact absent (Dictionary.mem_keys.2 ⟨record, stored⟩)

/-- A record other than the active one is the same after the active one is deactivated, and
the active one differs in its flag only. -/
theorem get?_deactivate (referenced : Referenced registry)
    (stored : registry.deactivate.get? generation = some record) :
    record.active = false ∧ ∃ old, registry.generations.get? generation = some old ∧
      record = { old with active := false } := by
  unfold deactivate at stored
  rw [get?_updateActive] at stored
  split at stored
  · obtain ⟨old, found, rfl⟩ := Option.map_eq_some_iff.1 stored
    exact ⟨rfl, old, found, rfl⟩
  · next other =>
      have inactive : record.active = false := by
        have marked := referenced.active generation record stored
        simpa [other] using marked
      refine ⟨inactive, record, stored, ?_⟩
      cases record
      simp_all

theorem get?_deactivate_of_stored {old : GenerationRecord naming V}
    (stored : registry.generations.get? generation = some old) :
    ∃ record, registry.deactivate.get? generation = some record ∧ record.handle = old.handle := by
  unfold deactivate
  rw [get?_updateActive, stored]
  split
  · exact ⟨_, rfl, rfl⟩
  · exact ⟨old, rfl, rfl⟩

section Confirm

variable {candidate : WorkerUniverseCandidate naming} (receipt : WorkerPromotionReceipt)
  (activation : SealedWorkerActivation naming V) (removal : Removal)

/-- The registry just before the dead records are collected. -/
def promotedRecords (registry : WorkerUniverseRegistry naming V)
    (candidate : WorkerUniverseCandidate naming) (receipt : WorkerPromotionReceipt)
    (activation : SealedWorkerActivation naming V) (removal : Removal) :
    WorkerUniverseRegistry naming V :=
  { registry with
    generations := registry.deactivate.set candidate.handle.generation
      (confirmedRecord candidate receipt activation)
    activeGeneration := some candidate.handle.generation
    registrationRefcounts := removal.refcounts
    registrationArtifacts := removal.artifacts
    sealedActivations := registry.sealedActivations.erase candidate.handle.generation
    pending := none
    state := .ready }

theorem promoted_referenced (exact : Exact registry) (unbroken : registry.state ≠ .broken)
    (isPending : registry.pending = some candidate) :
    Referenced (registry.promotedRecords candidate receipt activation removal) := by
  obtain ⟨absent, bound⟩ := exact.pendingNew candidate isPending
  have cases : ∀ generation record,
      (registry.promotedRecords candidate receipt activation removal).generations.get? generation =
        some record →
      generation = candidate.handle.generation ∧
          record = confirmedRecord candidate receipt activation ∨
        generation ≠ candidate.handle.generation ∧ record.active = false ∧
          ∃ old, registry.generations.get? generation = some old ∧
            record = { old with active := false } := by
    intro generation record stored
    by_cases same : generation = candidate.handle.generation
    · subst same
      refine .inl ⟨rfl, ?_⟩
      rw [promotedRecords, Dictionary.get?_set_same] at stored
      exact (Option.some.inj stored).symm
    · rw [promotedRecords, Dictionary.get?_set_other _ _ same] at stored
      exact .inr ⟨same, get?_deactivate exact.toReferenced stored⟩
  constructor
  · intro generation record stored
    rcases cases generation record stored with ⟨rfl, rfl⟩ | ⟨other, inactive, _⟩
    · exact ⟨fun _ => rfl, fun _ => rfl⟩
    · rw [inactive]
      constructor
      · intro impossible
        cases impossible
      · exact fun same => absurd (Option.some.inj same).symm other
  · rintro generation ⟨⟩
    exact Dictionary.mem_keys_set.2 (.inl rfl)
  · intro generation record stored
    rcases cases generation record stored with ⟨rfl, rfl⟩ | ⟨_, _, old, found, rfl⟩
    · rfl
    · exact exact.handles generation old found
  · intro generation record stored
    rcases cases generation record stored with ⟨rfl, rfl⟩ | ⟨_, _, old, found, rfl⟩
    · exact (leasesOn_of_not_mem exact.toReferenced absent).symm
    · exact exact.pins generation old found
  · intro leaseId lease stored
    obtain ⟨named, old, found, same⟩ := exact.leased leaseId lease stored
    obtain ⟨record, kept, unchanged⟩ := get?_deactivate_of_stored found
    have other : lease.pin.handle.generation ≠ candidate.handle.generation := by
      intro equal
      exact absent (equal ▸ Dictionary.mem_keys.2 ⟨old, found⟩)
    refine ⟨named, record, ?_, unchanged.trans same⟩
    rw [promotedRecords, Dictionary.get?_set_other _ _ other]
    exact kept
  · intro generation member
    rcases Dictionary.mem_keys_set.1 member with rfl | inside
    · exact bound
    · exact exact.numbered generation (mem_keys_updateActive.1 inside)
  · intro _ impossible
    cases impossible
  · exact fun held => absurd (exact.holds held) unbroken

variable {receipt activation removal}

theorem references_confirmed (name : String) :
    (confirmedRecord candidate receipt activation).references name =
      if name ∈ candidate.manifest.registrationNames then 1 else 0 := by
  simp [GenerationRecord.references, confirmedRecord]

theorem released_of_create {handle : WorkerGenerationHandle} {released : List String}
    {confirmation : WorkerGenerationConfirmation}
    (created : WorkerGenerationConfirmation.create naming handle released = .ok confirmation) :
    confirmation.releasedRegistrations = released := by
  unfold WorkerGenerationConfirmation.create at created
  split at created
  · cases created
    rfl
  · cases created

/-- What a promotion did: the receipt was the expected one, the reference of the old active
generation was dropped and one for each registration of the candidate was added. -/
structure Promotion (registry next : WorkerUniverseRegistry naming V) (fence : Nat × Nat)
    (candidate : WorkerUniverseCandidate naming) (receipt : WorkerPromotionReceipt)
    (dropped refcounts : Refcounts) (activation : SealedWorkerActivation naming V)
    (removal : Removal) : Prop where
  available : registry.requireAvailable "confirm" = .ok ()
  current : registry.requireCurrentFence fence = .ok ()
  admitted : registry.requirePending candidate = .ok ()
  expected : registry.receiptMatches candidate receipt
  gave : registry.dropActiveReference = .ok dropped
  took : adjustManifestRegistrations dropped candidate.manifest 1 = .ok refcounts
  removed : removal = removeZeroRegistrationRefcounts naming refcounts
    (claimRegistrations registry.registrationArtifacts candidate.manifest)
    registry.quarantineHolds
  promoted : next = (registry.promotedRecords candidate receipt activation
    removal).collectUnretainedGenerations

theorem confirmAttempt_cases {fence : Nat × Nat} {confirmation : WorkerGenerationConfirmation}
    (returned : registry.confirmAttempt fence candidate receipt = .ok (next, confirmation)) :
    ∃ dropped refcounts activation removal,
      Promotion registry next fence candidate receipt dropped refcounts activation removal ∧
        confirmation.releasedRegistrations = removal.released := by
  obtain ⟨_, available, returned⟩ := bind_eq_ok.1 returned
  obtain ⟨_, current, returned⟩ := bind_eq_ok.1 returned
  obtain ⟨_, admitted, returned⟩ := bind_eq_ok.1 returned
  obtain ⟨_, expected, returned⟩ := bind_eq_ok.1 returned
  obtain ⟨dropped, gave, returned⟩ := bind_eq_ok.1 returned
  obtain ⟨refcounts, took, returned⟩ := bind_eq_ok.1 returned
  obtain ⟨_, _, returned⟩ := bind_eq_ok.1 returned
  obtain ⟨_, created, returned⟩ := bind_eq_ok.1 returned
  obtain ⟨activation, _, returned⟩ := bind_eq_ok.1 returned
  cases returned
  exact ⟨dropped, refcounts, activation, _,
    ⟨available, current, admitted, require_eq_ok.1 expected, gave, took, rfl, rfl⟩,
    released_of_create created⟩

section Counts

variable {fence : Nat × Nat} {dropped refcounts : Refcounts}

theorem Promotion.unbroken (promotion : Promotion registry next fence candidate receipt dropped
    refcounts activation removal) : registry.state ≠ .broken :=
  unbroken_of_available promotion.available

theorem Promotion.isPending (promotion : Promotion registry next fence candidate receipt dropped
    refcounts activation removal) : registry.pending = some candidate :=
  (require_eq_ok.1 promotion.admitted).2.1

theorem Promotion.keys (promotion : Promotion registry next fence candidate receipt dropped
    refcounts activation removal) (exact : Exact registry) (name : String) :
    name ∈ refcounts.keys ↔
      name ∈ candidate.manifest.registrationNames ∨ 0 < registry.demand name := by
  rw [(adjustManifestRegistrations_spec promotion.took name).2,
    (dropActiveReference_spec exact promotion.gave name).2]

theorem Promotion.counts (promotion : Promotion registry next fence candidate receipt dropped
    refcounts activation removal) (exact : Exact registry) (name : String) :
    countOf refcounts name =
      (registry.promotedRecords candidate receipt activation removal).demand name := by
  have absent := (exact.pendingNew candidate promotion.isPending).1
  have fresh : registry.deactivate.get? candidate.handle.generation = none :=
    Dictionary.get?_eq_none.2 fun member => absent (mem_keys_updateActive.1 member)
  have lowered := (dropActiveReference_spec exact promotion.gave name).1
  have raised := (adjustManifestRegistrations_spec promotion.took name).1
  have added := demandIn_set_absent (confirmedRecord candidate receipt activation) fresh name
  rw [references_confirmed, ← lowered] at added
  have total : (registry.promotedRecords candidate receipt activation removal).demand name =
      countOf dropped name + if name ∈ candidate.manifest.registrationNames then 1 else 0 := added
  rw [total]
  by_cases member : name ∈ candidate.manifest.registrationNames
  · rw [if_pos member] at raised ⊢
    omega
  · rw [if_neg member] at raised ⊢
    omega

theorem Promotion.exact (promotion : Promotion registry next fence candidate receipt dropped
    refcounts activation removal) (exact : Exact registry) :
    Exact next ∧ Released registry.demand next.demand removal.released := by
  have referenced := promoted_referenced receipt activation removal exact promotion.unbroken
    promotion.isPending
  have removed := promotion.removed
  rw [exact.holds_empty promotion.unbroken] at removed
  have owned : ∀ name, name ∈ (claimRegistrations registry.registrationArtifacts
      candidate.manifest).keys ↔ name ∈ refcounts.keys := by
    intro name
    rw [mem_keys_claimRegistrations, promotion.keys exact, exact.counted.owned]
  have counted := removal_counted naming (promotion.counts exact) owned
  rw [← removed] at counted
  rw [promotion.promoted]
  refine ⟨referenced.exact_collected counted, ?_⟩
  have after : (registry.promotedRecords candidate receipt activation
      removal).collectUnretainedGenerations.demand =
        (registry.promotedRecords candidate receipt activation removal).demand :=
    funext demand_collected
  rw [after, removed]
  apply removal_released naming _ (promotion.counts exact)
  intro name member zero
  rcases (promotion.keys exact name).1 member with inside | demanded
  · have raised := (adjustManifestRegistrations_spec promotion.took name).1
    rw [if_pos inside, promotion.counts exact name] at raised
    omega
  · exact demanded

end Counts

end Confirm

theorem confirm_exact (exact : Exact registry) (fence : Nat × Nat)
    (candidate : WorkerUniverseCandidate naming) (receipt : WorkerPromotionReceipt) :
    Exact (registry.confirm fence candidate receipt).registry := by
  apply Outcome.ofAttempt_registry exact
  intro next confirmation returned
  obtain ⟨_, _, _, _, promotion, _⟩ := confirmAttempt_cases returned
  exact (promotion.exact exact).1

/-! ## Pins -/

theorem newLeaseId_fresh {leases : Dictionary String (OperationLease naming)}
    {draws : List String} {leaseId : String} (drawn : newLeaseId leases draws = .ok leaseId) :
    leases.get? leaseId = none := by
  induction draws with
  | nil => cases drawn
  | cons first later hypothesis =>
      unfold newLeaseId at drawn
      split at drawn
      · exact hypothesis drawn
      · next absent =>
          cases drawn
          exact Dictionary.get?_eq_none.2 absent

theorem pin_of_create {identity : Nat} {handle : WorkerGenerationHandle}
    {manifest : WorkerUniverseManifest naming} {rootKey leaseId : String}
    {pin : OperationGenerationPin naming}
    (created : OperationGenerationPin.create identity handle manifest rootKey leaseId = .ok pin) :
    pin.handle = handle ∧ pin.leaseId = leaseId := by
  unfold OperationGenerationPin.create at created
  split at created
  · cases created
    exact ⟨rfl, rfl⟩
  · cases created

def addPin (record : GenerationRecord naming V) : GenerationRecord naming V :=
  { record with operationPins := record.operationPins + 1 }

theorem references_addPin (record : GenerationRecord naming V) (name : String) :
    (addPin record).references name =
      record.references name + if name ∈ record.manifest.registrationNames then 1 else 0 := by
  unfold GenerationRecord.references addPin
  split
  · exact (Nat.add_assoc _ _ _).symm
  · rfl

section Pin

variable {generation : Nat} {record : GenerationRecord naming V} {refcounts : Refcounts}
  {leaseId : String} {pin : OperationGenerationPin naming}

def pinned (registry : WorkerUniverseRegistry naming V) (refcounts : Refcounts)
    (leaseId : String) (pin : OperationGenerationPin naming) : WorkerUniverseRegistry naming V :=
  { registry with
    generations := registry.updateActive addPin
    registrationRefcounts := refcounts
    leases := registry.leases.set leaseId ⟨pin, false⟩ }

theorem leasesOn_pinned (fresh : registry.leases.get? leaseId = none) (other : Nat) :
    (registry.pinned refcounts leaseId pin).leasesOn other =
      registry.leasesOn other + if pin.handle.generation = other then 1 else 0 :=
  Dictionary.total_set_absent _ _ fresh

theorem pinned_referenced (exact : Exact registry)
    (isActive : registry.activeGeneration = some generation)
    (stored : registry.generations.get? generation = some record)
    (fresh : registry.leases.get? leaseId = none) (same : pin.handle = record.handle)
    (named : pin.leaseId = leaseId) : Referenced (registry.pinned refcounts leaseId pin) := by
  have numbered : pin.handle.generation = generation := by
    rw [same]
    exact exact.handles generation record stored
  have cases : ∀ other found,
      (registry.pinned refcounts leaseId pin).generations.get? other = some found →
      ∃ old, registry.generations.get? other = some old ∧
        found = if generation = other then addPin old else old := by
    intro other found kept
    have looked : (registry.updateActive addPin).get? other = some found := kept
    rw [get?_updateActive, isActive] at looked
    by_cases equal : generation = other
    · subst equal
      rw [if_pos rfl] at looked
      obtain ⟨old, was, rfl⟩ := Option.map_eq_some_iff.1 looked
      exact ⟨old, was, (if_pos rfl).symm⟩
    · rw [if_neg fun wrong => equal (Option.some.inj wrong)] at looked
      exact ⟨found, looked, (if_neg equal).symm⟩
  have stays : ∀ other old, registry.generations.get? other = some old →
      ∃ found, (registry.pinned refcounts leaseId pin).generations.get? other = some found ∧
        found.handle = old.handle := by
    intro other old was
    have looked : (registry.pinned refcounts leaseId pin).generations.get? other =
        if registry.activeGeneration = some other then some (addPin old) else some old := by
      rw [pinned, get?_updateActive, was]
      rfl
    rw [looked]
    split
    · exact ⟨_, rfl, rfl⟩
    · exact ⟨_, rfl, rfl⟩
  constructor
  · intro other found kept
    obtain ⟨old, was, rfl⟩ := cases other found kept
    have marked := exact.active other old was
    split
    · exact marked
    · exact marked
  · exact fun other chosen => mem_keys_updateActive.2 (exact.activeStored other chosen)
  · intro other found kept
    obtain ⟨old, was, rfl⟩ := cases other found kept
    have handled := exact.handles other old was
    split
    · exact handled
    · exact handled
  · intro other found kept
    obtain ⟨old, was, rfl⟩ := cases other found kept
    rw [leasesOn_pinned fresh, numbered, ← exact.pins other old was]
    split
    · rfl
    · rfl
  · intro otherId lease leased
    by_cases equal : otherId = leaseId
    · subst equal
      rw [pinned, Dictionary.get?_set_same] at leased
      cases leased
      obtain ⟨found, kept, unchanged⟩ := stays generation record stored
      refine ⟨named, found, ?_, unchanged.trans same.symm⟩
      rw [numbered]
      exact kept
    · rw [pinned, Dictionary.get?_set_other _ _ equal] at leased
      obtain ⟨known, old, was, owner⟩ := exact.leased otherId lease leased
      obtain ⟨found, kept, unchanged⟩ := stays _ old was
      exact ⟨known, found, kept, unchanged.trans owner⟩
  · exact fun other member => exact.numbered other (mem_keys_updateActive.1 member)
  · intro candidate isPending
    obtain ⟨absent, bound⟩ := exact.pendingNew candidate isPending
    exact ⟨fun member => absent (mem_keys_updateActive.1 member), bound⟩
  · exact exact.holds

theorem pinned_exact (exact : Exact registry)
    (isActive : registry.activeGeneration = some generation)
    (stored : registry.generations.get? generation = some record)
    (fresh : registry.leases.get? leaseId = none) (same : pin.handle = record.handle)
    (named : pin.leaseId = leaseId)
    (took : adjustManifestRegistrations registry.registrationRefcounts record.manifest 1 =
      .ok refcounts) : Exact (registry.pinned refcounts leaseId pin) := by
  have demands : ∀ name, (registry.pinned refcounts leaseId pin).demand name =
      registry.demand name + if name ∈ record.manifest.registrationNames then 1 else 0 := by
    intro name
    have moved : (registry.pinned refcounts leaseId pin).demand name + record.references name =
        registry.demand name + (addPin record).references name :=
      demandIn_updateActive isActive stored name
    rw [references_addPin] at moved
    omega
  have positive : ∀ name, 0 < (registry.pinned refcounts leaseId pin).demand name ↔
      0 < registry.demand name := by
    intro name
    rw [demands]
    by_cases member : name ∈ record.manifest.registrationNames
    · have demanded := exact.name_stored stored member
      omega
    · rw [if_neg member]
      rfl
  refine ⟨pinned_referenced exact isActive stored fresh same named, ⟨?_, ?_, ?_⟩, ?_⟩
  · intro name
    have raised := (adjustManifestRegistrations_spec took name).1
    have count := exact.counted.counts name
    rw [demands]
    show countOf refcounts name = _
    by_cases member : name ∈ record.manifest.registrationNames
    · rw [if_pos member] at raised ⊢
      omega
    · rw [if_neg member] at raised ⊢
      omega
  · intro name
    rw [positive]
    refine (adjustManifestRegistrations_spec took name).2.trans ?_
    rw [exact.counted.stored]
    exact or_iff_right_of_imp fun member => exact.name_stored stored member
  · intro name
    rw [positive]
    exact exact.counted.owned name
  · intro other found kept
    have looked : (registry.updateActive addPin).get? other = some found := kept
    rw [get?_updateActive] at looked
    split at looked
    · obtain ⟨old, _, rfl⟩ := Option.map_eq_some_iff.1 looked
      simp [GenerationRecord.isLive, addPin]
    · exact exact.live other found looked

end Pin

theorem pinActive_exact (exact : Exact registry) (fence : Nat × Nat) (identity : Nat)
    (draws : List String) : Exact (registry.pinActive fence identity draws).registry := by
  apply Outcome.ofAttempt_registry exact
  intro next pin returned
  obtain ⟨_, _, returned⟩ := bind_eq_ok.1 returned
  obtain ⟨_, _, returned⟩ := bind_eq_ok.1 returned
  obtain ⟨record, found, returned⟩ := bind_eq_ok.1 returned
  obtain ⟨leaseId, drawn, returned⟩ := bind_eq_ok.1 returned
  obtain ⟨_, created, returned⟩ := bind_eq_ok.1 returned
  obtain ⟨refcounts, took, returned⟩ := bind_eq_ok.1 returned
  cases returned
  have current : registry.activeRecord = some record := by
    unfold requireActiveRecord at found
    split at found
    · next held =>
        cases found
        exact held
    · cases found
  obtain ⟨generation, isActive, stored⟩ := activeRecord_eq_some.1 current
  obtain ⟨same, named⟩ := pin_of_create created
  exact pinned_exact exact isActive stored (newLeaseId_fresh drawn) same named took

end WorkerUniverseRegistry

end OnecRuntime.Registry
