import OnecRuntime.Library.Transitions
import OnecRuntime.Proxies.Registry

/-!
# Runs of a registry

The calls on one registry in any order. Beside the registry a world keeps what the
claims about undoing compare it with: the registry of the same calls without the active
publication, and what the invalidations since each snapshot have expired.
-/

namespace OnecRuntime.Proxies

open OnecRuntime.Library

inductive Call (carriers : Carriers) where
  | registerContext (entry : ContextEntry carriers)
  | registerPython (arguments : ProxyArguments carriers) (pythonGeneration : Int)
  | registerFrame (entry : ContextEntry carriers) (captureFence : carriers.CaptureFence)
      (publication : Option Nat)
  | registerContextBatch (entries : List (ContextEntry carriers))
  | snapshotExact (proxyId : ProxyId)
  | release (proxyId : ProxyId)
  | releaseResolved (proxyId : ProxyId)
  | invalidateRuntimeGeneration (runtimeId : CodeText) (generation : Int)
  | invalidatePythonGeneration (generation : Int)
  | invalidateCaptureFence (captureFence : carriers.CaptureFence)
  | beginCapturePublication (captureFence : carriers.CaptureFence)
  | commitCapturePublication (token : Nat)
  | rollbackCapturePublication (token : Nat)
  | captureStateSnapshot (captureFence : carriers.CaptureFence)
  /-- The snapshot is one that an earlier call gave. -/
  | restoreCaptureState (index : Nat)

variable {carriers : Carriers}

/-- A snapshot, and what an invalidation of its fence has expired since. -/
structure Snapshot (carriers : Carriers) where
  captureFence : carriers.CaptureFence
  saved : Dictionary ProxyId (ProxyRecord carriers)
  expired : List ProxyId

structure World (carriers : Carriers) where
  registry : ProxyRegistry carriers
  /-- How many identifiers and checkpoints were drawn. -/
  drawn : Nat
  snapshots : List (Snapshot carriers)
  /-- The registry of the same calls without the active publication. -/
  plain : ProxyRegistry carriers
  /-- Another call went through a name of the publication. -/
  disturbed : Bool
  /-- The aliases that were made of touched names during the publication. -/
  aliased : List ProxyId
  /-- The records of a runtime or Python generation that was invalidated. -/
  doomed : List ProxyId

namespace Call

/-- A call of the publication itself. -/
def publishes : Call carriers → Bool
  | .registerFrame _ _ publication => publication.isSome
  | .beginCapturePublication _ | .commitCapturePublication _
  | .rollbackCapturePublication _ => true
  | _ => false

/-- The identifiers that a call draws at most. -/
def draws : Call carriers → Nat
  | .registerContextBatch entries => entries.length
  | _ => 1

end Call

/-- What a call leaves of a registry; `saved` is the snapshot that it restores. -/
def ProxyRegistry.perform (registry : ProxyRegistry carriers) (drawn : Nat)
    (saved : Dictionary ProxyId (ProxyRecord carriers)) : Call carriers → ProxyRegistry carriers
  | .registerContext entry => (registry.register drawn none (.context entry)).2
  | .registerPython arguments pythonGeneration =>
      (registry.register drawn none (.python arguments pythonGeneration)).2
  | .registerFrame entry captureFence publication =>
      (registry.register drawn publication (.frame entry captureFence)).2
  | .registerContextBatch entries => (registry.registerContextBatch drawn entries).2
  | .snapshotExact proxyId => (registry.snapshotExact proxyId drawn).2
  | .release proxyId => (registry.release proxyId).2
  | .releaseResolved proxyId => (registry.releaseResolved proxyId).2
  | .invalidateRuntimeGeneration runtimeId generation =>
      (registry.invalidateRuntimeGeneration runtimeId generation).2
  | .invalidatePythonGeneration generation => (registry.invalidatePythonGeneration generation).2
  | .invalidateCaptureFence captureFence => (registry.invalidateCaptureFence captureFence).2
  | .beginCapturePublication captureFence =>
      (registry.beginCapturePublication drawn captureFence).2
  | .commitCapturePublication token => (registry.commitCapturePublication token).2
  | .rollbackCapturePublication token => (registry.rollbackCapturePublication token).2
  | .captureStateSnapshot _ => registry
  | .restoreCaptureState _ => registry.restoreCaptureState saved

namespace World

variable (world : World carriers)

/-- The snapshot that a call restores. -/
def saved : Call carriers → Dictionary ProxyId (ProxyRecord carriers)
  | .restoreCaptureState index => (world.snapshots[index]?).elim .empty (·.saved)
  | _ => .empty

def next (call : Call carriers) : ProxyRegistry carriers :=
  world.registry.perform world.drawn (world.saved call) call

/-- The names that the active publication has touched. -/
def touchedKeys : List BindingKey :=
  world.registry.activeCapturePublication.elim [] (·.bindingsBefore.keys)

def createdIds : List ProxyId :=
  world.registry.activeCapturePublication.elim [] (·.createdProxyIds)

/-- The records that a snapshot shares with the registry without the publication. -/
def plainSaved (call : Call carriers) : Dictionary ProxyId (ProxyRecord carriers) :=
  (world.saved call).filterEntries fun proxyId _ => decide (proxyId ∈ world.plain.records.keys)

def nextPlain : Call carriers → ProxyRegistry carriers
  | .beginCapturePublication _ =>
      if world.registry.activeCapturePublication.isNone then world.registry else world.plain
  | call =>
      if call.publishes then world.plain
      else world.plain.perform world.drawn (world.plainSaved call) call

/-- Another call registers a name that the publication has touched. -/
def overtakes (call : Call carriers) : Bool :=
  !call.publishes && world.touchedKeys.any fun key =>
    decide ((world.next call).bindings.get? key ≠ world.registry.bindings.get? key)

/-- A release through another proxy of a name whose binding is of the publication. -/
def redirects : Call carriers → Bool
  | .releaseResolved proxyId =>
      decide (proxyId ∉ world.createdIds ++ world.aliased) &&
        (world.registry.records.get? proxyId).any fun record =>
          (world.registry.bindings.get? record.descriptor.key).any
            fun currentId => decide (currentId ∈ world.createdIds)
  | _ => false

def nextDisturbed (call : Call carriers) : Bool :=
  match call with
  | .beginCapturePublication _ =>
      world.registry.activeCapturePublication.isSome && world.disturbed
  | call => world.disturbed || world.overtakes call || world.redirects call

def nextAliased : Call carriers → List ProxyId
  | .beginCapturePublication _ =>
      if world.registry.activeCapturePublication.isNone then [] else world.aliased
  | .snapshotExact proxyId =>
      if (world.registry.records.get? proxyId).any
          fun record => decide (record.descriptor.key ∈ world.touchedKeys) then
        world.aliased ++ [world.drawn]
      else world.aliased
  | _ => world.aliased

/-- The records that match, stale or not. -/
def hitIds (hit : ProxyRecord carriers → Bool) : List ProxyId :=
  (world.registry.records.filterEntries fun _ record => hit record).keys

def nextDoomed : Call carriers → List ProxyId
  | .invalidateRuntimeGeneration runtimeId generation =>
      match world.registry.invalidateRuntimeGeneration runtimeId generation with
      | (.ok _, _) => world.doomed ++ world.hitIds (ProxyRegistry.ofRuntime runtimeId generation)
      | (.error _, _) => world.doomed
  | .invalidatePythonGeneration generation =>
      match world.registry.invalidatePythonGeneration generation with
      | (.ok _, _) => world.doomed ++ world.hitIds (ProxyRegistry.ofPython generation)
      | (.error _, _) => world.doomed
  | _ => world.doomed

/-- The records that an invalidation of a fence expires. -/
def expiredIds (captureFence : carriers.CaptureFence) : List ProxyId :=
  world.hitIds fun record => ProxyRegistry.ofCapture captureFence record && !record.stale

def nextSnapshots : Call carriers → List (Snapshot carriers)
  | .captureStateSnapshot captureFence => world.snapshots ++
      [⟨captureFence, world.registry.captureStateSnapshot captureFence, []⟩]
  | .invalidateCaptureFence captureFence => world.snapshots.map fun snapshot =>
      if snapshot.captureFence = captureFence then
        { snapshot with expired := snapshot.expired ++ world.expiredIds captureFence }
      else snapshot
  | .restoreCaptureState index =>
      match world.snapshots[index]? with
      | none => world.snapshots
      | some restored => world.snapshots.map fun snapshot =>
          { snapshot with
            expired := snapshot.expired.filter fun proxyId => decide (proxyId ∉ restored.expired) }
  | _ => world.snapshots

def perform (call : Call carriers) : World carriers :=
  ⟨world.next call, world.drawn + call.draws, world.nextSnapshots call, world.nextPlain call,
    world.nextDisturbed call, world.nextAliased call, world.nextDoomed call⟩

/-- A registry before any call. -/
def opened (carriers : Carriers) : World carriers :=
  ⟨.new, 0, [], .new, false, [], []⟩

end World

def Step (world : World carriers) (call : Call carriers) (next : World carriers)
    (emitted : List Unit) : Prop :=
  next = world.perform call ∧ emitted = []

/-- A publication that is rolled back is undisturbed, and no alias was made of its first
registration of a name. -/
def Undisturbed (world : World carriers) (token : Nat) : Prop :=
  ∀ {checkpoint}, world.registry.requireCapturePublication token = .ok checkpoint →
    world.disturbed = false ∧ ∀ {aliasId record anchorId},
      world.registry.records.get? aliasId = some record → record.exactAnchorId = some anchorId →
      anchorId ∈ checkpoint.createdProxyIds →
      checkpoint.bindingsBefore.get? record.descriptor.key ≠ some none

/-- What happened since a snapshot is what an invalidation of its fence did. -/
structure Fits (world : World carriers) (snapshot : Snapshot carriers) : Prop where
  /-- No record of the snapshot was rolled back. -/
  known : ∀ {proxyId}, proxyId ∈ snapshot.saved.keys → proxyId ∈ world.registry.records.keys
  /-- No live record of the snapshot has lost its generation. -/
  undoomed : ∀ {proxyId saved}, snapshot.saved.get? proxyId = some saved → saved.stale = false →
    proxyId ∉ world.doomed
  /-- What was expired is a live record of the snapshot. -/
  covered : ∀ {proxyId}, proxyId ∈ snapshot.expired → proxyId ∈ world.registry.records.keys →
    ∃ saved, snapshot.saved.get? proxyId = some saved ∧ saved.stale = false
  /-- No stale record of the snapshot was revived. -/
  unrevived : ∀ {proxyId saved current}, snapshot.saved.get? proxyId = some saved →
    saved.stale = true → world.registry.records.get? proxyId = some current →
    current.stale = true

/-- Publications are rolled back undisturbed, and fitting snapshots are restored. -/
def Undoes (world : World carriers) : Call carriers → Prop
  | .rollbackCapturePublication token => Undisturbed world token
  | .restoreCaptureState index =>
      ∀ {snapshot}, world.snapshots[index]? = some snapshot → Fits world snapshot
  | _ => True

end OnecRuntime.Proxies
