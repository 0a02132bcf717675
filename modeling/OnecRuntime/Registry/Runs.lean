import OnecRuntime.Registry.Releases

/-!
# Runs of the registry

Every call keeps the registry exact, so every run from the initial registry
does. A call reports a name as released only while the name is held and leaves it
unheld, hence between two reports of one name some call acquires it again.
-/

namespace OnecRuntime.Registry

open OnecRuntime.Library

variable {naming : Naming} {V : Type}

namespace WorkerUniverseRegistry

variable {registry next : WorkerUniverseRegistry naming V}

theorem initial_exact (owner runtimeGeneration contextGeneration : Nat) :
    Exact (initial owner runtimeGeneration contextGeneration :
      WorkerUniverseRegistry naming V) := by
  refine ⟨⟨?_, ?_, ?_, ?_, ?_, ?_, ?_, ?_⟩, ⟨?_, ?_, ?_⟩, ?_⟩
  all_goals simp [initial, Dictionary.get?, Dictionary.empty, Dictionary.keys, countOf, demand,
    demandIn, Dictionary.total]

theorem closed_exact (registry : WorkerUniverseRegistry naming V) : Exact registry.closed := by
  refine ⟨⟨?_, ?_, ?_, ?_, ?_, ?_, ?_, ?_⟩, ⟨?_, ?_, ?_⟩, ?_⟩
  all_goals simp [closed, Dictionary.get?, Dictionary.empty, Dictionary.keys, countOf, demand,
    demandIn, Dictionary.total]

theorem quarantinePending_broken (registry : WorkerUniverseRegistry naming V) :
    ∃ holds, registry.quarantinePending.setBroken =
      { registry with quarantineHolds := holds, pending := none, state := .broken } := by
  unfold quarantinePending
  split
  · exact ⟨_, rfl⟩
  · exact ⟨_, rfl⟩

/-- Marking a lease changes no count of leases. -/
theorem markLease_exact (exact : Exact registry) {leaseId : String}
    {lease : OperationLease naming} (stored : registry.leases.get? leaseId = some lease) :
    Exact { registry with
      leases := registry.leases.set leaseId { lease with outcomeUnknown := true } } := by
  have unchanged : ∀ generation, ({ registry with
      leases := registry.leases.set leaseId { lease with outcomeUnknown := true } } :
        WorkerUniverseRegistry naming V).leasesOn generation = registry.leasesOn generation := by
    intro generation
    have moved := Dictionary.total_set_stored (fun lease : OperationLease naming =>
      if lease.pin.handle.generation = generation then 1 else 0)
      { lease with outcomeUnknown := true } stored
    exact Nat.add_right_cancel moved
  refine ⟨⟨exact.active, exact.activeStored, exact.handles, ?_, ?_, exact.numbered,
    exact.pendingNew, exact.holds⟩, exact.counted, exact.live⟩
  · intro generation record kept
    rw [unchanged]
    exact exact.pins generation record kept
  · intro otherId other kept
    by_cases same : otherId = leaseId
    · subst same
      rw [Dictionary.get?_set_same] at kept
      cases kept
      exact exact.leased otherId lease stored
    · rw [Dictionary.get?_set_other _ _ same] at kept
      exact exact.leased otherId other kept

theorem retainOutcomeUnknown_exact (exact : Exact registry) (fence : Nat × Nat)
    (pin : OperationGenerationPin naming) :
    Exact (registry.retainOutcomeUnknown fence pin).registry := by
  unfold retainOutcomeUnknown
  split
  · exact exact
  · exact exact
  · next lease _ found =>
      have marked := markLease_exact exact (requireLease_stored found).1
      obtain ⟨holds, broken⟩ := quarantinePending_broken { registry with
        leases := registry.leases.set pin.leaseId { lease with outcomeUnknown := true } }
      simp only [broken]
      exact setBroken_exact marked holds

theorem markBroken_exact (exact : Exact registry)
    (candidate : Option (WorkerUniverseCandidate naming)) :
    Exact (registry.markBroken candidate).registry := by
  apply Outcome.ofAttempt_registry exact
  intro next value returned
  obtain ⟨_, _, returned⟩ := bind_eq_ok.1 returned
  cases candidate with
  | none =>
      cases returned
      obtain ⟨holds, broken⟩ := quarantinePending_broken registry
      rw [broken]
      exact setBroken_exact exact holds
  | some named =>
      obtain ⟨_, _, returned⟩ := bind_eq_ok.1 returned
      cases returned
      exact setBroken_exact exact _

variable [DecidableEq V]

/-- One step of a run keeps the registry exact. -/
theorem step_exact (exact : Exact registry) (call : Call naming V) :
    Exact (registry.step call).1 := by
  cases call with
  | prepare fence preparation => exact prepare_exact exact fence preparation
  | discard fence candidate => exact discard_exact exact fence candidate
  | discardExactPendingWithoutFence candidate => exact discardExactPending_exact exact candidate
  | bindCandidateDebugView fence candidate debugView =>
      exact bindCandidateDebugView_exact exact fence candidate debugView
  | confirm fence candidate receipt => exact confirm_exact exact fence candidate receipt
  | pinActive fence identity draws => exact pinActive_exact exact fence identity draws
  | release planFence fence previewFence release =>
      exact directRelease_exact exact planFence fence previewFence release
  | commitRelease fence previewFence plan => exact commitRelease_exact exact fence previewFence plan
  | retainOutcomeUnknown fence pin => exact retainOutcomeUnknown_exact exact fence pin
  | markBroken candidate => exact markBroken_exact exact candidate
  | teardown => exact closed_exact registry.quarantinePending

theorem run_exact (exact : Exact registry) (calls : List (Call naming V)) :
    Exact (registry.run calls) := by
  induction calls generalizing registry with
  | nil => exact exact
  | cons call later hypothesis => exact hypothesis (step_exact exact call)

/-! ## Released names -/

omit [DecidableEq V] in
theorem registrationRefcount_eq_zero {name : String} :
    registry.registrationRefcount name = 0 ↔
      countOf registry.registrationRefcounts name = 0 ∧ name ∉ registry.quarantineHolds := by
  unfold registrationRefcount
  split
  · next held => simp [held]
  · next free => simp [free]

omit [DecidableEq V] in
/-- A call that released names by demand leaves them unheld. -/
theorem released_refcounts (exact : Exact registry) (after : Exact next)
    (unbroken : registry.state ≠ .broken)
    (holds : next.quarantineHolds = registry.quarantineHolds) {names : List String}
    (released : Released registry.demand next.demand names) :
    Released registry.registrationRefcount next.registrationRefcount names := by
  refine ⟨released.distinct, fun name member => ?_, fun name member => ?_⟩
  · have held := released.held name member
    rw [← exact.counted.counts] at held
    exact Nat.lt_of_lt_of_le held (Nat.le_add_right _ _)
  · rw [registrationRefcount_eq_zero, after.counted.counts, holds,
      exact.holds_empty unbroken]
    exact ⟨released.gone name member, List.not_mem_nil⟩

omit [DecidableEq V] in
theorem registrations_released
    (positive : ∀ name ∈ registry.registrationRefcounts.keys,
      0 < countOf registry.registrationRefcounts name) :
    Released registry.registrationRefcount registry.closed.registrationRefcount
      registry.registrations := by
  unfold registrations sortedByCasefold
  refine ⟨?_, fun name member => ?_, fun name _ => ?_⟩
  · rw [(List.perm_insertionSort _ _).nodup_iff]
    exact List.nodup_dedup _
  · rw [List.mem_insertionSort, List.mem_dedup, List.mem_append] at member
    rcases member with stored | held
    · exact Nat.lt_of_lt_of_le (positive name stored) (Nat.le_add_right _ _)
    · rw [registrationRefcount, if_pos held]
      exact Nat.succ_pos _
  · exact registrationRefcount_eq_zero.2 ⟨rfl, List.not_mem_nil⟩

omit [DecidableEq V] in
theorem released_nil (before after : String → Nat) : Released before after [] :=
  ⟨List.nodup_nil, fun _ member => (nomatch member), fun _ member => (nomatch member)⟩

omit [DecidableEq V] in
theorem ofAttempt_released {α : Type} {names : α → List String} {before : String → Nat}
    {attempt : Except Problem (WorkerUniverseRegistry naming V × α)}
    (after : ∀ next value, attempt = .ok (next, value) →
      Released before next.registrationRefcount (names value)) :
    Released before (Outcome.ofAttempt registry attempt).registry.registrationRefcount
      (reportedBy names (Outcome.ofAttempt registry attempt)) := by
  cases attempt with
  | error problem => exact released_nil _ _
  | ok returned => exact after returned.1 returned.2 rfl

omit [DecidableEq V] in
theorem confirm_released (exact : Exact registry) (fence : Nat × Nat)
    (candidate : WorkerUniverseCandidate naming) (receipt : WorkerPromotionReceipt) :
    Released registry.registrationRefcount
      (registry.confirm fence candidate receipt).registry.registrationRefcount
      (reportedBy WorkerGenerationConfirmation.releasedRegistrations
        (registry.confirm fence candidate receipt)) := by
  apply ofAttempt_released
  intro next confirmation returned
  obtain ⟨_, _, _, _, promotion, reported⟩ := confirmAttempt_cases returned
  obtain ⟨after, released⟩ := promotion.exact exact
  rw [reported]
  refine released_refcounts exact after promotion.unbroken ?_ released
  rw [promotion.promoted]
  rfl

theorem commitRelease_released (exact : Exact registry) (fence previewFence : Nat × Nat)
    (plan : WorkerLifecycleReleasePlan naming V) :
    Released registry.registrationRefcount
      (registry.commitRelease fence previewFence plan).registry.registrationRefcount
      (reportedBy id (registry.commitRelease fence previewFence plan)) := by
  apply ofAttempt_released
  intro next names returned
  obtain ⟨_, reported, released, commitment⟩ := commitReleaseAttempt_cases returned
  obtain ⟨after, gone⟩ := commitment.exact exact
  rw [reported]
  refine released_refcounts exact after (unbroken_of_available commitment.available) ?_ gone
  obtain ⟨_, previewed, _⟩ := commitment.previewed
  obtain ⟨_, _, _, _, _, dropped, _⟩ := previewRelease_cases previewed
  obtain ⟨_, _, lost⟩ := dropped_of_release exact dropped commitment.removed
  rw [commitment.committed, lost.frame]
  rfl

theorem directRelease_released (exact : Exact registry) (planFence fence previewFence : Nat × Nat)
    (release : Release naming) :
    Released registry.registrationRefcount
      (registry.directRelease planFence fence previewFence release).registry.registrationRefcount
      (reportedBy id (registry.directRelease planFence fence previewFence release)) := by
  unfold directRelease
  split
  · exact released_nil _ _
  · exact commitRelease_released exact fence previewFence _

omit [DecidableEq V] in
theorem quarantinePending_refcounts (registry : WorkerUniverseRegistry naming V) :
    registry.quarantinePending.registrationRefcounts = registry.registrationRefcounts := by
  unfold quarantinePending
  split
  · rfl
  · rfl

omit [DecidableEq V] in
theorem teardown_released (exact : Exact registry) :
    Released registry.quarantinePending.registrationRefcount
      registry.teardown.registry.registrationRefcount (reportedBy id registry.teardown) := by
  apply registrations_released
  intro name stored
  rw [quarantinePending_refcounts] at stored ⊢
  rw [exact.counted.counts]
  exact (exact.counted.stored name).1 stored

/-- The registry with the holds that a call takes before it releases anything. -/
def holding (registry : WorkerUniverseRegistry naming V) :
    Call naming V → WorkerUniverseRegistry naming V
  | .teardown => registry.quarantinePending
  | _ => registry

/-- Whatever a call reports was held, is held no longer, and is reported once. -/
theorem step_released (exact : Exact registry) (call : Call naming V) :
    Released (registry.holding call).registrationRefcount
      (registry.step call).1.registrationRefcount (registry.step call).2 := by
  cases call with
  | confirm fence candidate receipt => exact confirm_released exact fence candidate receipt
  | release planFence fence previewFence release =>
      exact directRelease_released exact planFence fence previewFence release
  | commitRelease fence previewFence plan =>
      exact commitRelease_released exact fence previewFence plan
  | teardown => exact teardown_released exact
  | prepare | discard | discardExactPendingWithoutFence | bindCandidateDebugView | pinActive
  | retainOutcomeUnknown | markBroken => exact released_nil _ _

/-- A call acquires a name that was not held when it takes a reference to it. -/
def acquires (registry : WorkerUniverseRegistry naming V) (call : Call naming V)
    (name : String) : Prop :=
  registry.registrationRefcount name = 0 ∧
    (0 < (registry.holding call).registrationRefcount name ∨
      0 < (registry.step call).1.registrationRefcount name)

/-- A name that is not held is reported only after some call acquired it. -/
theorem reported_acquired (exact : Exact registry) {name : String}
    (unheld : registry.registrationRefcount name = 0) (between : List (Call naming V))
    (last : Call naming V) (reported : name ∈ ((registry.run between).step last).2) :
    ∃ middle call later, between ++ [last] = middle ++ call :: later ∧
      (registry.run middle).acquires call name := by
  induction between generalizing registry with
  | nil =>
      have held := (step_released exact last).held name reported
      exact ⟨[], last, [], rfl, unheld, .inl held⟩
  | cons call rest hypothesis =>
      by_cases after : (registry.step call).1.registrationRefcount name = 0
      · obtain ⟨middle, taking, later, split, acquired⟩ :=
          hypothesis (step_exact exact call) after reported
        refine ⟨call :: middle, taking, later, ?_, acquired⟩
        rw [List.cons_append, List.cons_append, split]
      · exact ⟨[], call, rest ++ [last], rfl, unheld, .inr (Nat.pos_of_ne_zero after)⟩

/-! ## The registry law -/

omit [DecidableEq V] in
/-- Stored counts are the demand, and the names without an entry are those with count zero. -/
def RefcountsExact (registry : WorkerUniverseRegistry naming V) : Prop :=
  ∀ name, countOf registry.registrationRefcounts name = registry.demand name ∧
    (countOf registry.registrationRefcounts name = 0 ↔
      name ∉ registry.registrationRefcounts.keys ∧ name ∉ registry.registrationArtifacts.keys)

omit [DecidableEq V] in
/-- A generation has a record exactly while it is active, explicitly retained or leased. -/
def RecordsHeld (registry : WorkerUniverseRegistry naming V) : Prop :=
  ∀ generation, (∃ record, registry.generations.get? generation = some record) ↔
    registry.activeGeneration = some generation ∨
      (∃ record, registry.generations.get? generation = some record ∧
        record.explicitlyRetained = true) ∨
      ∃ leaseId lease, registry.leases.get? leaseId = some lease ∧
        lease.pin.handle.generation = generation

omit [DecidableEq V] in
/-- The pins of a record are its leases, and every lease is on a record under its own id. -/
def PinsLeased (registry : WorkerUniverseRegistry naming V) : Prop :=
  (∀ generation record, registry.generations.get? generation = some record →
    record.operationPins = registry.leasesOn generation) ∧
  ∀ leaseId lease, registry.leases.get? leaseId = some lease → lease.pin.leaseId = leaseId ∧
    ∃ record, registry.generations.get? lease.pin.handle.generation = some record ∧
      record.handle = lease.pin.handle

/-- What a call reports as released is distinct and named by no record it leaves. -/
def ReportsGone (registry : WorkerUniverseRegistry naming V) (call : Call naming V) : Prop :=
  (registry.step call).2.Nodup ∧
    ∀ name ∈ (registry.step call).2, ∀ generation record,
      (registry.step call).1.generations.get? generation = some record →
        name ∉ record.manifest.registrationNames

/-- A commit raises and changes nothing, or is the direct release in this registry. -/
def CommitsDirectly (registry : WorkerUniverseRegistry naming V) : Prop :=
  ∀ fence previewFence plan,
    ((∃ problem, (registry.commitRelease fence previewFence plan).result = .error problem) ∧
        (registry.commitRelease fence previewFence plan).registry = registry) ∨
      registry.commitRelease fence previewFence plan =
        registry.directRelease fence fence previewFence plan.release

omit [DecidableEq V] in
theorem Exact.refcountsExact (exact : Exact registry) : registry.RefcountsExact := by
  intro name
  have counts := exact.counted.counts name
  refine ⟨counts, ?_⟩
  rw [exact.counted.stored, exact.counted.owned, counts]
  omega

omit [DecidableEq V] in
theorem Exact.recordsHeld (exact : Exact registry) : registry.RecordsHeld := by
  intro generation
  constructor
  · rintro ⟨record, stored⟩
    have live := exact.live generation record stored
    unfold GenerationRecord.isLive at live
    rcases Bool.or_eq_true_iff.1 live with held | pinned
    · rcases Bool.or_eq_true_iff.1 held with active | retained
      · exact .inl ((exact.active generation record stored).1 active)
      · exact .inr (.inl ⟨record, stored, retained⟩)
    · have positive := of_decide_eq_true pinned
      rw [exact.pins generation record stored] at positive
      obtain ⟨leaseId, lease, leased, counted⟩ := Dictionary.exists_of_total_pos positive
      refine .inr (.inr ⟨leaseId, lease, leased, ?_⟩)
      by_contra other
      rw [if_neg other] at counted
      exact absurd counted (Nat.lt_irrefl 0)
  · rintro (active | ⟨record, stored, _⟩ | ⟨leaseId, lease, leased, rfl⟩)
    · exact Dictionary.mem_keys.1 (exact.activeStored generation active)
    · exact ⟨record, stored⟩
    · obtain ⟨_, record, stored, _⟩ := exact.leased leaseId lease leased
      exact ⟨record, stored⟩

theorem Exact.reportsGone (exact : Exact registry) (call : Call naming V) :
    registry.ReportsGone call := by
  have released := step_released exact call
  refine ⟨released.distinct, fun name member generation record stored named => ?_⟩
  have gone := (registrationRefcount_eq_zero.1 (released.gone name member)).1
  have after := step_exact exact call
  rw [after.counted.counts] at gone
  exact absurd (after.name_stored stored named) (by omega)

/-- What holds of a registry after any run: the stored refcounts are the references of the live
records, a generation has a record exactly while it is held, the pins are the leases, any next
call reports only names that no surviving record has, a plan commits as a direct release or not
at all, and between two reports of a name some call acquires it. -/
structure Law (registry : WorkerUniverseRegistry naming V) : Prop where
  refcounts : registry.RefcountsExact
  records : registry.RecordsHeld
  active : ∀ generation record, registry.generations.get? generation = some record →
    (record.active = true ↔ registry.activeGeneration = some generation)
  pins : registry.PinsLeased
  reports : ∀ call, registry.ReportsGone call
  commits : registry.CommitsDirectly
  reportsOnce : ∀ first between second name, name ∈ (registry.step first).2 →
    name ∈ ((registry.run (first :: between)).step second).2 →
    ∃ middle call later, between ++ [second] = middle ++ call :: later ∧
      (registry.run (first :: middle)).acquires call name

theorem run_law (owner runtimeGeneration contextGeneration : Nat)
    (calls : List (Call naming V)) :
    Law ((initial owner runtimeGeneration contextGeneration).run calls) := by
  have exact := run_exact (initial_exact owner runtimeGeneration contextGeneration) calls
  constructor
  · exact exact.refcountsExact
  · exact exact.recordsHeld
  · exact exact.active
  · exact ⟨exact.pins, exact.leased⟩
  · exact exact.reportsGone
  · exact fun _ _ _ => commitRelease_direct _ _ _
  · intro first between second name reported again
    have unheld := (step_released exact first).gone name reported
    exact reported_acquired (step_exact exact first) unheld between second again

end WorkerUniverseRegistry

end OnecRuntime.Registry
