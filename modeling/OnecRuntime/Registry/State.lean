import Mathlib.Data.List.Dedup
import OnecRuntime.Registry.Manifest

/-!
# The Worker universe registry

The host registry of Worker generations as a state and one function per method.
A method that checks before it changes anything is a checked computation of the
next registry; `discard` and `retainOutcomeUnknown` may change the registry and
still raise, so their outcomes carry both. Objects compared by identity carry an
`identity` chosen by the caller's allocator. Every fence check gets the pair of
generations that the two fence sources return to it.
-/

namespace OnecRuntime.Registry

open OnecRuntime.Library

inductive WorkerUniverseState where
  | empty
  | ready
  | preparing
  | broken
  | closed
deriving DecidableEq, Repr

def WorkerUniverseState.value : WorkerUniverseState → String
  | .empty => "empty"
  | .ready => "ready"
  | .preparing => "preparing"
  | .broken => "broken"
  | .closed => "closed"

structure WorkerGenerationHandle where
  identity : Nat
  runtimeGeneration : Nat
  contextGeneration : Nat
  generation : Nat
  manifestSha256 : String
deriving DecidableEq, Repr

structure WorkerPromotionReceipt where
  generation : Nat
  manifestSha256 : String
  rootKey : String
  previousRootKey : String
  acknowledged : Bool
deriving DecidableEq, Repr

variable (naming : Naming) (V : Type)

structure WorkerUniverseCandidate where
  identity : Nat
  handle : WorkerGenerationHandle
  manifest : WorkerUniverseManifest naming
  artifacts : List WorkerModuleArtifact
  newArtifacts : List WorkerModuleArtifact
  previous : Option WorkerGenerationHandle
deriving DecidableEq

/-- A debug view; its module views are values of any type that can be compared. -/
structure WorkerGenerationDebugView where
  handle : WorkerGenerationHandle
  manifest : WorkerUniverseManifest naming
  modules : V
deriving DecidableEq

structure OperationGenerationPin where
  identity : Nat
  handle : WorkerGenerationHandle
  manifest : WorkerUniverseManifest naming
  rootKey : String
  leaseId : String
deriving DecidableEq

structure WorkerGenerationConfirmation where
  handle : WorkerGenerationHandle
  releasedRegistrations : List String
deriving DecidableEq, Repr

structure SealedWorkerActivation where
  candidate : WorkerUniverseCandidate naming
  debugView : Option (WorkerGenerationDebugView naming V)

structure GenerationRecord where
  handle : WorkerGenerationHandle
  manifest : WorkerUniverseManifest naming
  rootKey : String
  active : Bool
  explicitlyRetained : Bool
  debugView : Option (WorkerGenerationDebugView naming V)
  operationPins : Nat

structure OperationLease where
  pin : OperationGenerationPin naming
  outcomeUnknown : Bool

inductive Release where
  | generation (handle : WorkerGenerationHandle)
  | pin (pin : OperationGenerationPin naming)
deriving DecidableEq

structure WorkerLifecycleReleasePlan where
  owner : Nat
  expectedFence : Nat × Nat
  release : Release naming
  remainingViews : List (WorkerGenerationDebugView naming V)
  releasedNames : List String
  nextRegistrationRefcounts : List (String × Nat)
  nextRegistrationArtifacts : List (String × String × String)

structure WorkerUniverseRegistry where
  runtimeGeneration : Nat
  contextGeneration : Nat
  state : WorkerUniverseState
  nextGeneration : Nat
  pending : Option (WorkerUniverseCandidate naming)
  sealedActivations : Dictionary Nat (SealedWorkerActivation naming V)
  activeGeneration : Option Nat
  handles : Dictionary Nat WorkerGenerationHandle
  generations : Dictionary Nat (GenerationRecord naming V)
  leases : Dictionary String (OperationLease naming)
  registrationRefcounts : Refcounts
  registrationArtifacts : Artifacts
  quarantineHolds : List String
  releaseOwner : Nat

/-- The registry a call leaves and what it returns or raises. -/
structure Outcome (α : Type) where
  registry : WorkerUniverseRegistry naming V
  result : Except Problem α

variable {naming : Naming} {V : Type}

/-- A call whose checks all come before its first change. -/
def Outcome.ofAttempt {α : Type} (registry : WorkerUniverseRegistry naming V) :
    Except Problem (WorkerUniverseRegistry naming V × α) → Outcome naming V α
  | .ok (next, value) => ⟨next, .ok value⟩
  | .error problem => ⟨registry, .error problem⟩

def generationRootKey (generation : Nat) : String := "generation-" ++ toString generation

/-- `sorted(d.items())` of a dictionary keyed by generation. -/
def sortedByGeneration {ν : Type} (dictionary : Dictionary Nat ν) : List (Nat × ν) :=
  dictionary.entries.insertionSort (fun first second => first.1 ≤ second.1)

/-- `token_urlsafe` is drawn until the value is not a stored lease id. -/
def newLeaseId (leases : Dictionary String (OperationLease naming)) :
    List String → Except Problem String
  | [] => .error (.valueError "no lease id was drawn")
  | drawn :: later => if drawn ∈ leases.keys then newLeaseId leases later else .ok drawn

def OperationGenerationPin.create (identity : Nat) (handle : WorkerGenerationHandle)
    (manifest : WorkerUniverseManifest naming) (rootKey leaseId : String) :
    Except Problem (OperationGenerationPin naming) :=
  if handle.generation = manifest.generation ∧ handle.manifestSha256 = manifest.sha256 ∧
      32 ≤ leaseId.length then
    .ok ⟨identity, handle, manifest, rootKey, leaseId⟩
  else .error (.valueError "worker operation generation pin is invalid")

def WorkerGenerationConfirmation.create (naming : Naming) (handle : WorkerGenerationHandle)
    (released : List String) : Except Problem WorkerGenerationConfirmation :=
  if (released.map naming.casefold).Nodup then .ok ⟨handle, released⟩
  else .error (.valueError "worker generation confirmation is invalid")

namespace GenerationRecord

/-- A record is kept while it is active, explicitly retained or pinned. -/
def isLive (record : GenerationRecord naming V) : Bool :=
  record.active || record.explicitlyRetained || decide (0 < record.operationPins)

/-- `_record_live_after_release` of a record other than the released one is its liveness. -/
def afterRelease (record : GenerationRecord naming V) :
    Release naming → GenerationRecord naming V
  | .generation _ => { record with explicitlyRetained := false }
  | .pin _ => { record with operationPins := record.operationPins - 1 }

end GenerationRecord

namespace WorkerUniverseRegistry

/-- The registry its constructor builds from the generations it first reads. -/
def initial (owner runtimeGeneration contextGeneration : Nat) :
    WorkerUniverseRegistry naming V where
  runtimeGeneration := runtimeGeneration
  contextGeneration := contextGeneration
  state := .empty
  nextGeneration := 1
  pending := none
  sealedActivations := .empty
  activeGeneration := none
  handles := .empty
  generations := .empty
  leases := .empty
  registrationRefcounts := .empty
  registrationArtifacts := .empty
  quarantineHolds := []
  releaseOwner := owner

def requireAvailable (registry : WorkerUniverseRegistry naming V) (operation : String) :
    Except Problem Unit :=
  require (registry.state ≠ .broken ∧ registry.state ≠ .closed)
    (.protocolError ("Worker universe " ++ operation ++ " is unavailable in " ++
      registry.state.value ++ " state"))

def requireCurrentFence (registry : WorkerUniverseRegistry naming V) (fence : Nat × Nat) :
    Except Problem Unit :=
  require (fence = (registry.runtimeGeneration, registry.contextGeneration))
    (.protocolError "Worker universe runtime/context fence is stale")

def requirePending (registry : WorkerUniverseRegistry naming V)
    (candidate : WorkerUniverseCandidate naming) : Except Problem Unit :=
  require
    (registry.state = .preparing ∧ registry.pending = some candidate ∧
      registry.handles.get? candidate.handle.generation = some candidate.handle)
    (.protocolError "Worker universe candidate is stale or forged")

def activeRecord (registry : WorkerUniverseRegistry naming V) :
    Option (GenerationRecord naming V) :=
  registry.activeGeneration.bind registry.generations.get?

def quarantineCandidate (registry : WorkerUniverseRegistry naming V)
    (candidate : WorkerUniverseCandidate naming) : WorkerUniverseRegistry naming V :=
  { registry with
    quarantineHolds := candidate.newArtifacts.foldl
      (fun holds artifact =>
        holds.insert (registrationName naming artifact.logicalName artifact.artifactSha256))
      registry.quarantineHolds }

def quarantinePending (registry : WorkerUniverseRegistry naming V) :
    WorkerUniverseRegistry naming V :=
  match registry.pending with
  | some candidate => registry.quarantineCandidate candidate
  | none => registry

def setBroken (registry : WorkerUniverseRegistry naming V) : WorkerUniverseRegistry naming V :=
  { registry with pending := none, state := .broken }

def deadGenerations (registry : WorkerUniverseRegistry naming V) : List Nat :=
  (registry.generations.entries.filter (fun entry => !entry.2.isLive)).map Prod.fst

def collectUnretainedGenerations (registry : WorkerUniverseRegistry naming V) :
    WorkerUniverseRegistry naming V :=
  { registry with
    generations := registry.generations.eraseAll registry.deadGenerations
    handles := registry.handles.eraseAll registry.deadGenerations }

/-- What `prepare` is given besides the registry: the identities of the objects it
allocates and the verdicts on the data that this model leaves out. -/
structure Preparation where
  artifacts : List WorkerModuleArtifact
  handleIdentity : Nat
  candidateIdentity : Nat
  admission : Admission

def prepareAttempt (registry : WorkerUniverseRegistry naming V) (fence : Nat × Nat)
    (preparation : Preparation) :
    Except Problem (WorkerUniverseRegistry naming V × WorkerUniverseCandidate naming) := do
  registry.requireAvailable "prepare"
  require (registry.state ≠ .preparing)
    (.protocolError "Worker universe already has a pending candidate")
  registry.requireCurrentFence fence
  let generation := registry.nextGeneration
  let (ordered, manifest) ←
    buildWorkerManifest naming generation preparation.artifacts preparation.admission
  preparation.admission.exportCatalog
  requireRegistrationOwnership manifest registry.registrationArtifacts
  let handle : WorkerGenerationHandle :=
    ⟨preparation.handleIdentity, registry.runtimeGeneration, registry.contextGeneration,
      generation, manifest.sha256⟩
  let newArtifacts := ordered.filter fun artifact =>
    decide (registrationName naming artifact.logicalName artifact.artifactSha256 ∉
      registry.registrationRefcounts.keys)
  let candidate : WorkerUniverseCandidate naming :=
    ⟨preparation.candidateIdentity, handle, manifest, ordered, newArtifacts,
      registry.activeRecord.map GenerationRecord.handle⟩
  preparation.admission.activation
  pure ({ registry with
    nextGeneration := generation + 1
    handles := registry.handles.set generation handle
    pending := some candidate
    sealedActivations := registry.sealedActivations.set generation ⟨candidate, none⟩
    state := .preparing }, candidate)

def prepare (registry : WorkerUniverseRegistry naming V) (fence : Nat × Nat)
    (preparation : Preparation) : Outcome naming V (WorkerUniverseCandidate naming) :=
  .ofAttempt registry (registry.prepareAttempt fence preparation)

/-- The pending candidate is forgotten and the previous state restored. -/
def forgetPending (registry : WorkerUniverseRegistry naming V)
    (candidate : WorkerUniverseCandidate naming) : WorkerUniverseRegistry naming V :=
  { registry with
    handles := registry.handles.erase candidate.handle.generation
    sealedActivations := registry.sealedActivations.erase candidate.handle.generation
    pending := none
    state := if registry.activeGeneration.isSome then .ready else .empty }

def requireDiscardable (registry : WorkerUniverseRegistry naming V)
    (candidate : WorkerUniverseCandidate naming) : Except Problem Unit := do
  registry.requireAvailable "discard"
  registry.requirePending candidate

/-- A stale fence quarantines the candidate and breaks the registry before it raises. -/
def discard (registry : WorkerUniverseRegistry naming V) (fence : Nat × Nat)
    (candidate : WorkerUniverseCandidate naming) : Outcome naming V Unit :=
  match registry.requireDiscardable candidate with
  | .error problem => ⟨registry, .error problem⟩
  | .ok () =>
      match registry.requireCurrentFence fence with
      | .error problem => ⟨(registry.quarantineCandidate candidate).setBroken, .error problem⟩
      | .ok () => ⟨registry.forgetPending candidate, .ok ()⟩

def requireActivation (registry : WorkerUniverseRegistry naming V)
    (candidate : WorkerUniverseCandidate naming) (problem : Problem) :
    Except Problem (SealedWorkerActivation naming V) :=
  match registry.sealedActivations.get? candidate.handle.generation with
  | some activation => if activation.candidate = candidate then .ok activation else .error problem
  | none => .error problem

def discardExactPendingAttempt (registry : WorkerUniverseRegistry naming V)
    (candidate : WorkerUniverseCandidate naming) :
    Except Problem (WorkerUniverseRegistry naming V × Unit) := do
  registry.requireAvailable "internal candidate cleanup"
  registry.requirePending candidate
  let _ ← registry.requireActivation candidate
    (.protocolError "Worker internal candidate cleanup is uncertain")
  pure (registry.forgetPending candidate, ())

def discardExactPendingWithoutFence (registry : WorkerUniverseRegistry naming V)
    (candidate : WorkerUniverseCandidate naming) : Outcome naming V Unit :=
  .ofAttempt registry (registry.discardExactPendingAttempt candidate)

def requireSealedActivation (registry : WorkerUniverseRegistry naming V) (fence : Nat × Nat)
    (candidate : WorkerUniverseCandidate naming) :
    Except Problem (SealedWorkerActivation naming V) := do
  registry.requireAvailable "sealed activation"
  registry.requireCurrentFence fence
  registry.requirePending candidate
  registry.requireActivation candidate
    (.protocolError "Worker sealed activation is stale or forged")

def bindCandidateDebugViewAttempt (registry : WorkerUniverseRegistry naming V)
    (fence : Nat × Nat) (candidate : WorkerUniverseCandidate naming)
    (debugView : WorkerGenerationDebugView naming V) :
    Except Problem (WorkerUniverseRegistry naming V × Unit) := do
  let activation ← registry.requireSealedActivation fence candidate
  require
    (debugView.handle = candidate.handle ∧ debugView.manifest = candidate.manifest ∧
      activation.debugView.isNone)
    (.protocolError "Worker candidate debug view is invalid")
  pure ({ registry with
    sealedActivations := registry.sealedActivations.set candidate.handle.generation
      ⟨activation.candidate, some debugView⟩ }, ())

def bindCandidateDebugView (registry : WorkerUniverseRegistry naming V) (fence : Nat × Nat)
    (candidate : WorkerUniverseCandidate naming)
    (debugView : WorkerGenerationDebugView naming V) : Outcome naming V Unit :=
  .ofAttempt registry (registry.bindCandidateDebugViewAttempt fence candidate debugView)

end WorkerUniverseRegistry

end OnecRuntime.Registry
