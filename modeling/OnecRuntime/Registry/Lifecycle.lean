import OnecRuntime.Registry.State

/-!
# Promotion, pins and releases

The calls that move references: `confirm` makes a candidate the active generation,
`pinActive` leases it to an operation, and a release is previewed as a plan and
then committed if the plan still describes the registry. A run is a list of
calls; each call leaves a registry and reports the registrations it released.
-/

namespace OnecRuntime.Registry

open OnecRuntime.Library

variable {naming : Naming} {V : Type}

namespace WorkerUniverseRegistry

def receiptMatches (registry : WorkerUniverseRegistry naming V)
    (candidate : WorkerUniverseCandidate naming) (receipt : WorkerPromotionReceipt) : Prop :=
  receipt.acknowledged = true ∧
    receipt.generation = candidate.handle.generation ∧
    receipt.manifestSha256 = candidate.manifest.sha256 ∧
    receipt.rootKey = generationRootKey candidate.handle.generation ∧
    receipt.previousRootKey = (registry.activeRecord.map GenerationRecord.rootKey).getD ""

instance (registry : WorkerUniverseRegistry naming V)
    (candidate : WorkerUniverseCandidate naming) (receipt : WorkerPromotionReceipt) :
    Decidable (registry.receiptMatches candidate receipt) :=
  inferInstanceAs (Decidable (_ ∧ _ ∧ _ ∧ _ ∧ _))

/-- The active generation gives its reference back unless it is also retained. -/
def dropActiveReference (registry : WorkerUniverseRegistry naming V) : Except Problem Refcounts :=
  match registry.activeRecord with
  | none => .ok registry.registrationRefcounts
  | some record =>
      if record.explicitlyRetained then .ok registry.registrationRefcounts
      else adjustManifestRegistrations registry.registrationRefcounts record.manifest (-1)

/-- The generations after a change of the active record in place. -/
def updateActive (registry : WorkerUniverseRegistry naming V)
    (update : GenerationRecord naming V → GenerationRecord naming V) :
    Dictionary Nat (GenerationRecord naming V) :=
  match registry.activeGeneration with
  | none => registry.generations
  | some generation =>
      match registry.generations.get? generation with
      | none => registry.generations
      | some record => registry.generations.set generation (update record)

/-- `old_record.active = False`. -/
def deactivate (registry : WorkerUniverseRegistry naming V) :
    Dictionary Nat (GenerationRecord naming V) :=
  registry.updateActive fun record => { record with active := false }

def confirmedRecord (candidate : WorkerUniverseCandidate naming)
    (receipt : WorkerPromotionReceipt) (activation : SealedWorkerActivation naming V) :
    GenerationRecord naming V where
  handle := candidate.handle
  manifest := candidate.manifest
  rootKey := receipt.rootKey
  active := true
  explicitlyRetained := true
  debugView := activation.debugView
  operationPins := 0

/-- The registry in which the candidate is the active generation. -/
def promoted (registry : WorkerUniverseRegistry naming V)
    (candidate : WorkerUniverseCandidate naming) (record : GenerationRecord naming V)
    (removal : Removal) : WorkerUniverseRegistry naming V :=
  { registry with
    generations := registry.deactivate.set candidate.handle.generation record
    activeGeneration := some candidate.handle.generation
    registrationRefcounts := removal.refcounts
    registrationArtifacts := removal.artifacts
    sealedActivations := registry.sealedActivations.erase candidate.handle.generation
    pending := none
    state := .ready }.collectUnretainedGenerations

def activationOf (registry : WorkerUniverseRegistry naming V) (generation : Nat) :
    Except Problem (SealedWorkerActivation naming V) :=
  match registry.sealedActivations.get? generation with
  | some activation => .ok activation
  | none => .error (.keyError generation)

def confirmAttempt (registry : WorkerUniverseRegistry naming V) (fence : Nat × Nat)
    (candidate : WorkerUniverseCandidate naming) (receipt : WorkerPromotionReceipt) :
    Except Problem (WorkerUniverseRegistry naming V × WorkerGenerationConfirmation) := do
  registry.requireAvailable "confirm"
  registry.requireCurrentFence fence
  registry.requirePending candidate
  require (registry.receiptMatches candidate receipt)
    (.protocolError "Worker promotion receipt is stale or unacknowledged")
  let dropped ← registry.dropActiveReference
  let refcounts ← adjustManifestRegistrations dropped candidate.manifest 1
  requireRegistrationOwnership candidate.manifest registry.registrationArtifacts
  let removal := removeZeroRegistrationRefcounts naming refcounts
    (claimRegistrations registry.registrationArtifacts candidate.manifest)
    registry.quarantineHolds
  let confirmation ←
    WorkerGenerationConfirmation.create naming candidate.handle removal.released
  let activation ← registry.activationOf candidate.handle.generation
  pure (registry.promoted candidate (confirmedRecord candidate receipt activation) removal,
    confirmation)

def confirm (registry : WorkerUniverseRegistry naming V) (fence : Nat × Nat)
    (candidate : WorkerUniverseCandidate naming) (receipt : WorkerPromotionReceipt) :
    Outcome naming V WorkerGenerationConfirmation :=
  .ofAttempt registry (registry.confirmAttempt fence candidate receipt)

def requireActiveRecord (registry : WorkerUniverseRegistry naming V) :
    Except Problem (GenerationRecord naming V) :=
  match registry.activeRecord with
  | some record => .ok record
  | none => .error (.protocolError "Worker universe has no active generation")

def pinActiveAttempt (registry : WorkerUniverseRegistry naming V) (fence : Nat × Nat)
    (identity : Nat) (draws : List String) :
    Except Problem (WorkerUniverseRegistry naming V × OperationGenerationPin naming) := do
  registry.requireAvailable "pin"
  registry.requireCurrentFence fence
  let record ← registry.requireActiveRecord
  let leaseId ← newLeaseId registry.leases draws
  let pin ← OperationGenerationPin.create identity record.handle record.manifest record.rootKey
    leaseId
  let refcounts ← adjustManifestRegistrations registry.registrationRefcounts record.manifest 1
  pure ({ registry with
    generations := registry.updateActive fun record =>
      { record with operationPins := record.operationPins + 1 }
    registrationRefcounts := refcounts
    leases := registry.leases.set leaseId ⟨pin, false⟩ }, pin)

def pinActive (registry : WorkerUniverseRegistry naming V) (fence : Nat × Nat)
    (identity : Nat) (draws : List String) : Outcome naming V (OperationGenerationPin naming) :=
  .ofAttempt registry (registry.pinActiveAttempt fence identity draws)

/-! ## Releases -/

def requireHandle (registry : WorkerUniverseRegistry naming V)
    (handle : WorkerGenerationHandle) : Except Problem Unit :=
  require
    (handle.runtimeGeneration = registry.runtimeGeneration ∧
      handle.contextGeneration = registry.contextGeneration ∧
      registry.handles.get? handle.generation = some handle)
    (.protocolError "Worker generation handle is stale or forged")

def recordOf (registry : WorkerUniverseRegistry naming V) (handle : WorkerGenerationHandle) :
    Except Problem (GenerationRecord naming V) :=
  match registry.generations.get? handle.generation with
  | some record =>
      if record.handle = handle ∧ handle.manifestSha256 = record.manifest.sha256 then .ok record
      else .error (.protocolError "Worker generation handle is stale or released")
  | none => .error (.protocolError "Worker generation handle is stale or released")

def requireGeneration (registry : WorkerUniverseRegistry naming V)
    (handle : WorkerGenerationHandle) : Except Problem (GenerationRecord naming V) := do
  registry.requireHandle handle
  registry.recordOf handle

def requireLease (registry : WorkerUniverseRegistry naming V)
    (pin : OperationGenerationPin naming) : Except Problem (OperationLease naming) :=
  match registry.leases.get? pin.leaseId with
  | some lease =>
      if lease.pin = pin then .ok lease
      else .error (.protocolError "Worker generation pin is stale or forged")
  | none => .error (.protocolError "Worker generation pin is stale or forged")

/-- An active generation keeps its reference when its handle is released. -/
def dropHandleReference (registry : WorkerUniverseRegistry naming V)
    (record : GenerationRecord naming V) : Except Problem Refcounts :=
  if record.active then .ok registry.registrationRefcounts
  else adjustManifestRegistrations registry.registrationRefcounts record.manifest (-1)

/-- The record a release concerns and the refcounts without the released reference. -/
def dropReference (registry : WorkerUniverseRegistry naming V) :
    Release naming → Except Problem (GenerationRecord naming V × Refcounts)
  | .generation handle => do
      let record ← registry.requireGeneration handle
      require (record.explicitlyRetained = true)
        (.protocolError "Worker generation handle is stale or released")
      let refcounts ← registry.dropHandleReference record
      pure (record, refcounts)
  | .pin pin => do
      let lease ← registry.requireLease pin
      require (lease.outcomeUnknown = false)
        (.protocolError "Outcome-unknown Worker pin is retained until teardown")
      let record ← registry.requireGeneration pin.handle
      require (0 < record.operationPins)
        (.protocolError "Worker generation pin refcount is invalid")
      let refcounts ←
        adjustManifestRegistrations registry.registrationRefcounts record.manifest (-1)
      pure (record, refcounts)

/-- The debug views of the records that stay live once the released record lost its
reference. -/
def remainingViews (registry : WorkerUniverseRegistry naming V) (released : Nat)
    (release : Release naming) : List (WorkerGenerationDebugView naming V) :=
  (sortedByGeneration registry.generations).filterMap fun (generation, record) =>
    if (if generation = released then record.afterRelease release else record).isLive then
      record.debugView
    else none

def previewRelease (registry : WorkerUniverseRegistry naming V) (fence : Nat × Nat)
    (release : Release naming) : Except Problem (WorkerLifecycleReleasePlan naming V) := do
  registry.requireAvailable "preview release"
  registry.requireCurrentFence fence
  let (record, refcounts) ← registry.dropReference release
  let removal := removeZeroRegistrationRefcounts naming refcounts registry.registrationArtifacts
    registry.quarantineHolds
  pure ⟨registry.releaseOwner, (registry.runtimeGeneration, registry.contextGeneration), release,
    registry.remainingViews record.handle.generation release, removal.released,
    sortedItems naming removal.refcounts.entries, sortedItems naming removal.artifacts.entries⟩

def releaseRecord (registry : WorkerUniverseRegistry naming V) :
    Release naming → Except Problem (WorkerUniverseRegistry naming V)
  | .generation handle => do
      let record ← registry.requireGeneration handle
      pure { registry with
        generations := registry.generations.set handle.generation
          { record with explicitlyRetained := false } }
  | .pin pin => do
      let _ ← registry.requireLease pin
      let record ← registry.requireGeneration pin.handle
      pure { registry with
        leases := registry.leases.erase pin.leaseId
        generations := registry.generations.set pin.handle.generation
          { record with operationPins := record.operationPins - 1 } }

def planIsCurrent [DecidableEq V] (plan current : WorkerLifecycleReleasePlan naming V) : Prop :=
  current.remainingViews = plan.remainingViews ∧
    current.releasedNames = plan.releasedNames ∧
    current.nextRegistrationRefcounts = plan.nextRegistrationRefcounts ∧
    current.nextRegistrationArtifacts = plan.nextRegistrationArtifacts

instance [DecidableEq V] (plan current : WorkerLifecycleReleasePlan naming V) :
    Decidable (planIsCurrent plan current) :=
  inferInstanceAs (Decidable (_ ∧ _ ∧ _ ∧ _))

section Commit

variable [DecidableEq V]

/-- The fence is read once here and once by the preview made inside. -/
def commitReleaseAttempt (registry : WorkerUniverseRegistry naming V)
    (fence previewFence : Nat × Nat) (plan : WorkerLifecycleReleasePlan naming V) :
    Except Problem (WorkerUniverseRegistry naming V × List String) := do
  registry.requireAvailable "commit release"
  registry.requireCurrentFence fence
  require
    (plan.owner = registry.releaseOwner ∧
      plan.expectedFence = (registry.runtimeGeneration, registry.contextGeneration))
    (.protocolError "Worker lifecycle release plan is stale")
  let current ← registry.previewRelease previewFence plan.release
  require (planIsCurrent plan current) (.protocolError "Worker lifecycle release plan is stale")
  let released ← registry.releaseRecord plan.release
  pure ({ released with
    registrationRefcounts := .ofItems plan.nextRegistrationRefcounts
    registrationArtifacts := .ofItems plan.nextRegistrationArtifacts
    }.collectUnretainedGenerations, plan.releasedNames)

def commitRelease (registry : WorkerUniverseRegistry naming V) (fence previewFence : Nat × Nat)
    (plan : WorkerLifecycleReleasePlan naming V) : Outcome naming V (List String) :=
  .ofAttempt registry (registry.commitReleaseAttempt fence previewFence plan)

/-- `release_generation` and `release_pin`: a preview committed at once. -/
def directRelease (registry : WorkerUniverseRegistry naming V)
    (planFence fence previewFence : Nat × Nat) (release : Release naming) :
    Outcome naming V (List String) :=
  match registry.previewRelease planFence release with
  | .error problem => ⟨registry, .error problem⟩
  | .ok plan => registry.commitRelease fence previewFence plan

end Commit

/-! ## Failure and teardown -/

/-- Once the lease is marked, the registry is broken also when the fence is stale. -/
def retainOutcomeUnknown (registry : WorkerUniverseRegistry naming V) (fence : Nat × Nat)
    (pin : OperationGenerationPin naming) : Outcome naming V Unit :=
  match registry.requireAvailable "retain outcome-unknown pin", registry.requireLease pin with
  | .error problem, _ => ⟨registry, .error problem⟩
  | .ok (), .error problem => ⟨registry, .error problem⟩
  | .ok (), .ok lease =>
      ⟨{ registry with
          leases := registry.leases.set pin.leaseId { lease with outcomeUnknown := true }
          }.quarantinePending.setBroken,
        registry.requireCurrentFence fence⟩

def markBrokenAttempt (registry : WorkerUniverseRegistry naming V)
    (candidate : Option (WorkerUniverseCandidate naming)) :
    Except Problem (WorkerUniverseRegistry naming V × Unit) := do
  registry.requireAvailable "mark broken"
  match candidate with
  | some named =>
      registry.requirePending named
      pure ((registry.quarantineCandidate named).setBroken, ())
  | none => pure (registry.quarantinePending.setBroken, ())

def markBroken (registry : WorkerUniverseRegistry naming V)
    (candidate : Option (WorkerUniverseCandidate naming)) : Outcome naming V Unit :=
  .ofAttempt registry (registry.markBrokenAttempt candidate)

/-- The public refcount: the stored count and one for a quarantine hold. -/
def registrationRefcount (registry : WorkerUniverseRegistry naming V) (name : String) : Nat :=
  countOf registry.registrationRefcounts name +
    (if name ∈ registry.quarantineHolds then 1 else 0)

def registrations (registry : WorkerUniverseRegistry naming V) : List String :=
  sortedByCasefold naming (registry.registrationRefcounts.keys ++ registry.quarantineHolds).dedup

def closed (registry : WorkerUniverseRegistry naming V) : WorkerUniverseRegistry naming V :=
  { registry with
    pending := none
    activeGeneration := none
    sealedActivations := .empty
    handles := .empty
    generations := .empty
    leases := .empty
    registrationRefcounts := .empty
    registrationArtifacts := .empty
    quarantineHolds := []
    state := .closed }

def teardown (registry : WorkerUniverseRegistry naming V) : Outcome naming V (List String) :=
  ⟨registry.quarantinePending.closed, .ok registry.quarantinePending.registrations⟩

end WorkerUniverseRegistry

/-! ## Runs -/

inductive Call (naming : Naming) (V : Type) where
  | prepare (fence : Nat × Nat) (preparation : WorkerUniverseRegistry.Preparation)
  | discard (fence : Nat × Nat) (candidate : WorkerUniverseCandidate naming)
  | discardExactPendingWithoutFence (candidate : WorkerUniverseCandidate naming)
  | bindCandidateDebugView (fence : Nat × Nat) (candidate : WorkerUniverseCandidate naming)
      (debugView : WorkerGenerationDebugView naming V)
  | confirm (fence : Nat × Nat) (candidate : WorkerUniverseCandidate naming)
      (receipt : WorkerPromotionReceipt)
  | pinActive (fence : Nat × Nat) (identity : Nat) (draws : List String)
  | release (planFence fence previewFence : Nat × Nat) (release : Release naming)
  | commitRelease (fence previewFence : Nat × Nat) (plan : WorkerLifecycleReleasePlan naming V)
  | retainOutcomeUnknown (fence : Nat × Nat) (pin : OperationGenerationPin naming)
  | markBroken (candidate : Option (WorkerUniverseCandidate naming))
  | teardown

/-- The names a call reports as released; a call that raises reports none. -/
def reportedBy {α : Type} (names : α → List String) (outcome : Outcome naming V α) :
    List String :=
  match outcome.result with
  | .ok value => names value
  | .error _ => []

namespace WorkerUniverseRegistry

variable [DecidableEq V]

/-- The registry after a call and the registrations that the call reports as released. -/
def step (registry : WorkerUniverseRegistry naming V) :
    Call naming V → WorkerUniverseRegistry naming V × List String
  | .prepare fence preparation => ((registry.prepare fence preparation).registry, [])
  | .discard fence candidate => ((registry.discard fence candidate).registry, [])
  | .discardExactPendingWithoutFence candidate =>
      ((registry.discardExactPendingWithoutFence candidate).registry, [])
  | .bindCandidateDebugView fence candidate debugView =>
      ((registry.bindCandidateDebugView fence candidate debugView).registry, [])
  | .confirm fence candidate receipt =>
      ((registry.confirm fence candidate receipt).registry,
        reportedBy WorkerGenerationConfirmation.releasedRegistrations
          (registry.confirm fence candidate receipt))
  | .pinActive fence identity draws => ((registry.pinActive fence identity draws).registry, [])
  | .release planFence fence previewFence release =>
      ((registry.directRelease planFence fence previewFence release).registry,
        reportedBy id (registry.directRelease planFence fence previewFence release))
  | .commitRelease fence previewFence plan =>
      ((registry.commitRelease fence previewFence plan).registry,
        reportedBy id (registry.commitRelease fence previewFence plan))
  | .retainOutcomeUnknown fence pin => ((registry.retainOutcomeUnknown fence pin).registry, [])
  | .markBroken candidate => ((registry.markBroken candidate).registry, [])
  | .teardown => (registry.teardown.registry, reportedBy id registry.teardown)

def run (registry : WorkerUniverseRegistry naming V) (calls : List (Call naming V)) :
    WorkerUniverseRegistry naming V :=
  calls.foldl (fun current call => (current.step call).1) registry

end WorkerUniverseRegistry

end OnecRuntime.Registry
