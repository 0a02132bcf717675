import Mathlib.Data.List.Sort
import OnecRuntime.Library.Journal
import OnecRuntime.Proxies.Descriptors

/-!
# The proxy registry

The records, the current binding of each name and its last version, and the calls that
change them. A capture publication keeps a journal of the names that it touches; a batch
copies the bindings; an invalidation is undone from a snapshot of records.
-/

namespace OnecRuntime.Proxies

open OnecRuntime.Library

variable {carriers : Carriers}

/-- A checkpoint object, with a number for its identity. -/
structure CapturePublicationCheckpoint (carriers : Carriers) where
  token : Nat
  fence : carriers.CaptureFence
  createdProxyIds : List ProxyId
  bindingsBefore : Dictionary BindingKey (Option ProxyId)
  bindingVersionsBefore : Dictionary BindingKey (Option Nat)

structure ProxyRegistry (carriers : Carriers) where
  records : Dictionary ProxyId (ProxyRecord carriers)
  bindings : Dictionary BindingKey ProxyId
  bindingVersions : Dictionary BindingKey Nat
  activeCapturePublication : Option (CapturePublicationCheckpoint carriers)

namespace ProxyRegistry

/-- `ProxyRegistry()`. -/
def new : ProxyRegistry carriers := ⟨.empty, .empty, .empty, none⟩

variable (registry : ProxyRegistry carriers)

/-- `_record`. -/
def record (proxyId : ProxyId) : Except ProxyFailure (ProxyRecord carriers) :=
  match registry.records.get? proxyId with
  | some record => .ok record
  | none => .error .unknownProxy

/-! ## Registrations -/

/-- `_require_capture_publication`: a checkpoint is closed when it is no longer active. -/
def requireCapturePublication (token : Nat) :
    Except ProxyFailure (CapturePublicationCheckpoint carriers) :=
  match registry.activeCapturePublication with
  | some checkpoint =>
      if checkpoint.token = token then .ok checkpoint else .error .invalidCheckpoint
  | none => .error .invalidCheckpoint

/-- The publication remembers the name before its first touch. -/
def touch (checkpoint : CapturePublicationCheckpoint carriers) (key : BindingKey) :
    ProxyRegistry carriers :=
  { registry with activeCapturePublication := some { checkpoint with
      bindingsBefore := checkpoint.bindingsBefore.touched registry.bindings key
      bindingVersionsBefore :=
        checkpoint.bindingVersionsBefore.touched registry.bindingVersions key } }

def journaled (registration : Registration carriers) :
    Option Nat → Except ProxyFailure (ProxyRegistry carriers)
  | none => .ok registry
  | some token => do
      let checkpoint ← registry.requireCapturePublication token
      require (registration.lifetime = .frame ∧
        registration.fence.captureFence = some checkpoint.fence) .unmatchedFence
      pure (registry.touch checkpoint registration.key)

/-- The next version of a name. -/
def nextVersion (key : BindingKey) : Nat := (registry.bindingVersions.get? key).getD 0 + 1

/-- A registration becomes the binding of its name. -/
def store (descriptor : ProxyDescriptor carriers) (resolverHandle : Option carriers.Handle) :
    ProxyRegistry carriers :=
  { registry with
    records := registry.records.set descriptor.proxyId (.registered descriptor resolverHandle)
    bindings := registry.bindings.set descriptor.key descriptor.proxyId
    bindingVersions := registry.bindingVersions.set descriptor.key descriptor.version }

/-- `capture_publication.created_proxy_ids.append`. -/
def created (proxyId : ProxyId) : Option Nat → ProxyRegistry carriers
  | none => registry
  | some _ => { registry with
      activeCapturePublication := registry.activeCapturePublication.map fun checkpoint =>
        { checkpoint with createdProxyIds := checkpoint.createdProxyIds ++ [proxyId] } }

/-- `_register`, after the fence was built. -/
def register (proxyId : ProxyId) (publication : Option Nat) (registration : Registration carriers) :
    Except ProxyFailure (ProxyDescriptor carriers) × ProxyRegistry carriers :=
  match registration.fence.validate with
  | .error failure => (.error failure, registry)
  | .ok () =>
      match registry.journaled registration publication with
      | .error failure => (.error failure, registry)
      | .ok journaled =>
          let descriptor :=
            registration.descriptor proxyId (journaled.nextVersion registration.key)
          match descriptor.validate with
          | .error failure => (.error failure, journaled)
          | .ok () => (.ok descriptor,
              (journaled.store descriptor registration.arguments.resolverHandle).created proxyId
                publication)

/-- The entries of a batch, until one raises. -/
def registerEach (registry : ProxyRegistry carriers) : ProxyId → List (ContextEntry carriers) →
    Except ProxyFailure (List (ProxyDescriptor carriers)) × ProxyRegistry carriers
  | _, [] => (.ok [], registry)
  | proxyId, entry :: rest =>
      match registry.register proxyId none (.context entry) with
      | (.error failure, left) => (.error failure, left)
      | (.ok descriptor, left) =>
          match left.registerEach (proxyId + 1) rest with
          | (.error failure, last) => (.error failure, last)
          | (.ok descriptors, last) => (.ok (descriptor :: descriptors), last)

def registerContextBatch (proxyId : ProxyId) (entries : List (ContextEntry carriers)) :
    Except ProxyFailure (List (ProxyDescriptor carriers)) × ProxyRegistry carriers :=
  match registry.registerEach proxyId entries with
  | (.ok descriptors, left) => (.ok descriptors, left)
  | (.error failure, left) => (.error failure, { left with
      bindings := registry.bindings
      bindingVersions := registry.bindingVersions
      records := left.records.eraseAll
        (left.records.keys.filter fun proxyId => decide (proxyId ∉ registry.records.keys)) })

/-! ## Lookups -/

/-- What the proxies of a name lead to: the record of the binding. -/
def currentRecord (currentId : ProxyId) : Except ProxyFailure (ProxyRecord carriers) :=
  match registry.records.get? currentId with
  | some record => .ok record
  | none => .error .keyError

def currentId (descriptor : ProxyDescriptor carriers) : Except ProxyFailure ProxyId :=
  match registry.bindings.get? descriptor.key with
  | some proxyId => .ok proxyId
  | none => .error .keyError

/-- The anchor of an exact alias is the binding and live, whatever its fence. -/
def anchorLive (anchorId currentId : ProxyId) : Bool :=
  match registry.records.get? anchorId with
  | some anchor => decide (currentId = anchorId) && !anchor.stale && !anchor.released
  | none => false

/-- Its fence is that of the alias as well. -/
def anchorHolds (anchorId currentId : ProxyId) (descriptor : ProxyDescriptor carriers) : Bool :=
  match registry.records.get? anchorId with
  | some anchor => decide (currentId = anchorId) && !anchor.stale && !anchor.released &&
      decide (anchor.descriptor.fence = descriptor.fence)
  | none => false

def resolve (proxyId : ProxyId) : Except ProxyFailure (ProxyDescriptor carriers) := do
  let record ← registry.record proxyId
  require (record.released = false) .releasedProxy
  require (record.stale = false) .staleGeneration
  let currentId ← registry.currentId record.descriptor
  match record.exactAnchorId with
  | some anchorId => do
      require (registry.anchorHolds anchorId currentId record.descriptor = true) .superseded
      pure record.descriptor
  | none =>
      if currentId = proxyId then pure record.descriptor
      else do
        require (record.descriptor.consistency ≠ .exact) .superseded
        let current ← registry.currentRecord currentId
        require (current.stale = false ∧ current.released = false ∧
          current.descriptor.fence = record.descriptor.fence) .crossesFence
        pure current.descriptor

/-- The record of an exact alias. -/
def exactAlias (descriptor : ProxyDescriptor carriers) (aliasId : ProxyId)
    (resolverHandle : Option carriers.Handle) : ProxyRecord carriers :=
  ⟨{ descriptor with proxyId := aliasId, consistency := .exact }, resolverHandle,
    some descriptor.proxyId, false, false⟩

def snapshotExact (proxyId aliasId : ProxyId) :
    Except ProxyFailure (ProxyDescriptor carriers) × ProxyRegistry carriers :=
  match registry.resolve proxyId with
  | .error failure => (.error failure, registry)
  | .ok descriptor =>
      match registry.currentRecord descriptor.proxyId with
      | .error failure => (.error failure, registry)
      | .ok record =>
          if descriptor.consistency = .exact then (.ok descriptor, registry)
          else
            let exact := exactAlias descriptor aliasId record.resolverHandle
            (.ok exact.descriptor,
              { registry with records := registry.records.set aliasId exact })

/-- The descriptor of a binding that `current` lists. -/
def listed (realm : Option ProxyRealm) (binding : BindingKey × ProxyId) :
    Except ProxyFailure (Option (ProxyDescriptor carriers)) := do
  let record ← registry.currentRecord binding.2
  pure (if realm.all (· = binding.1.1) = true ∧ record.stale = false ∧ record.released = false then
    some record.descriptor else none)

def current (realm : Option ProxyRealm) : Except ProxyFailure (List (ProxyDescriptor carriers)) := do
  let shown ← registry.bindings.entries.mapM (registry.listed realm)
  pure (shown.reduceOption.insertionSort fun first second =>
    carriers.casefold first.qualifiedName ≤ carriers.casefold second.qualifiedName)

/-- The realm of a qualified name. -/
def realmOf (carriers : Carriers) (qualifiedName : CodeText) : Except ProxyFailure ProxyRealm :=
  let start := carriers.casefold (qualifiedName.takeWhile fun item => decide (item ≠ point '.'))
  if start = text "bsl" then .ok .onec
  else if start = text "python" then .ok .python
  else .error .unprefixedName

def resolveName (qualifiedName : CodeText) : Except ProxyFailure (ProxyDescriptor carriers) := do
  requireText qualifiedName "qualified_name" maxQualifiedName
  let realm ← realmOf carriers qualifiedName
  match registry.bindings.get? (bindingKey carriers realm qualifiedName) with
  | some proxyId => registry.resolve proxyId
  | none => .error .unknownBinding

/-- The registrations of a name that are retained, aliases apart. -/
def registrations (key : BindingKey) : List (ProxyDescriptor carriers) :=
  (registry.records.entries.filter fun entry =>
    decide (entry.2.descriptor.key = key) && entry.2.exactAnchorId.isNone).map (·.2.descriptor)

def history (qualifiedName : CodeText) : Except ProxyFailure (List (ProxyDescriptor carriers)) := do
  requireText qualifiedName "qualified_name" maxQualifiedName
  let realm ← realmOf carriers qualifiedName
  let result := (registry.registrations (bindingKey carriers realm qualifiedName)).insertionSort
    fun first second => first.version ≤ second.version
  require (result ≠ []) .unknownBinding
  pure result

/-! ## Releases -/

def release (proxyId : ProxyId) : Except ProxyFailure Bool × ProxyRegistry carriers :=
  match registry.record proxyId with
  | .error failure => (.error failure, registry)
  | .ok record =>
      if record.released then (.ok false, registry)
      else (.ok true, { registry with
        records := registry.records.set proxyId
          { record with released := true, resolverHandle := none } })

/-- `release_target`: the descriptor to release, and whether it should be. -/
def releaseTarget (proxyId : ProxyId) : Except ProxyFailure (ProxyDescriptor carriers × Bool) := do
  let record ← registry.record proxyId
  if record.released then pure (record.descriptor, false)
  else do
    require (record.stale = false) .staleGeneration
    let currentId ← registry.currentId record.descriptor
    match record.exactAnchorId with
    | some anchorId => do
        require (registry.anchorLive anchorId currentId = true) .superseded
        pure (record.descriptor, true)
    | none =>
        if currentId = proxyId then pure (record.descriptor, true)
        else do
          require (record.descriptor.consistency ≠ .exact) .superseded
          let current ← registry.currentRecord currentId
          require (current.stale = false ∧ current.descriptor.fence = record.descriptor.fence)
            .crossesFence
          pure (current.descriptor, !current.released)

def releaseResolved (proxyId : ProxyId) : Except ProxyFailure Bool × ProxyRegistry carriers :=
  match registry.releaseTarget proxyId with
  | .error failure => (.error failure, registry)
  | .ok (_, false) => (.ok false, registry)
  | .ok (descriptor, true) => registry.release descriptor.proxyId

/-! ## Invalidations -/

/-- The records that an invalidation matches. -/
def matched (hit : ProxyRecord carriers → Bool) : Nat :=
  (registry.records.entries.filter fun entry => hit entry.2 && !entry.2.stale).length

def expired (hit : ProxyRecord carriers → Bool) (record : ProxyRecord carriers) :
    ProxyRecord carriers :=
  if hit record = true ∧ record.stale = false then
    { record with stale := true, resolverHandle := none }
  else record

def invalidate (hit : ProxyRecord carriers → Bool) : ProxyRegistry carriers :=
  { registry with records := registry.records.mapEntries fun _ record => expired hit record }

def ofRuntime (runtimeId : CodeText) (generation : Int) (record : ProxyRecord carriers) : Bool :=
  decide (record.descriptor.realm = .onec ∧ record.descriptor.fence.runtimeId = some runtimeId ∧
    record.descriptor.fence.runtimeGeneration = some generation)

def ofPython (generation : Int) (record : ProxyRecord carriers) : Bool :=
  decide (record.descriptor.realm = .python ∧
    record.descriptor.fence.pythonGeneration = some generation)

def ofCapture (captureFence : carriers.CaptureFence) (record : ProxyRecord carriers) : Bool :=
  decide (record.descriptor.lifetime = .frame ∧
    record.descriptor.fence.captureFence = some captureFence)

def invalidateRuntimeGeneration (runtimeId : CodeText) (generation : Int) :
    Except ProxyFailure Nat × ProxyRegistry carriers :=
  match (do
    requireText runtimeId "runtime_id" 256
    requirePositiveInt generation "generation" : Except ProxyFailure Unit) with
  | .error failure => (.error failure, registry)
  | .ok () => (.ok (registry.matched (ofRuntime runtimeId generation)),
      registry.invalidate (ofRuntime runtimeId generation))

def invalidatePythonGeneration (generation : Int) :
    Except ProxyFailure Nat × ProxyRegistry carriers :=
  match requirePositiveInt generation "generation" with
  | .error failure => (.error failure, registry)
  | .ok () => (.ok (registry.matched (ofPython generation)),
      registry.invalidate (ofPython generation))

def invalidateCaptureFence (captureFence : carriers.CaptureFence) :
    Nat × ProxyRegistry carriers :=
  (registry.matched (ofCapture captureFence), registry.invalidate (ofCapture captureFence))

/-! ## Capture publications -/

def beginCapturePublication (token : Nat) (captureFence : carriers.CaptureFence) :
    Except ProxyFailure Unit × ProxyRegistry carriers :=
  match registry.activeCapturePublication with
  | some _ => (.error .publicationActive, registry)
  | none => (.ok (), { registry with
      activeCapturePublication := some ⟨token, captureFence, [], .empty, .empty⟩ })

def commitCapturePublication (token : Nat) : Except ProxyFailure Unit × ProxyRegistry carriers :=
  match registry.requireCapturePublication token with
  | .error failure => (.error failure, registry)
  | .ok _ => (.ok (), { registry with activeCapturePublication := none })

/-- The registry without the records and the bindings of a publication. -/
def rewound (checkpoint : CapturePublicationCheckpoint carriers) : ProxyRegistry carriers :=
  ⟨registry.records.eraseAll checkpoint.createdProxyIds,
    checkpoint.bindingsBefore.undo registry.bindings,
    checkpoint.bindingVersionsBefore.undo registry.bindingVersions, none⟩

def rollbackCapturePublication (token : Nat) : Except ProxyFailure Unit × ProxyRegistry carriers :=
  match registry.requireCapturePublication token with
  | .error failure => (.error failure, registry)
  | .ok checkpoint => (.ok (), registry.rewound checkpoint)

/-! ## Capture snapshots -/

def captureStateSnapshot (captureFence : carriers.CaptureFence) :
    Dictionary ProxyId (ProxyRecord carriers) :=
  registry.records.filterEntries fun _ record => ofCapture captureFence record

/-- A record after a snapshot of it was restored. -/
def restored (saved current : ProxyRecord carriers) : ProxyRecord carriers :=
  { current with
    stale := saved.stale
    resolverHandle := if current.released then current.resolverHandle else saved.resolverHandle }

def restoreRecord (records : Dictionary ProxyId (ProxyRecord carriers))
    (entry : ProxyId × ProxyRecord carriers) : Dictionary ProxyId (ProxyRecord carriers) :=
  match records.get? entry.1 with
  | none => records.set entry.1 entry.2
  | some current => records.set entry.1 (restored entry.2 current)

def restoreCaptureState (snapshot : Dictionary ProxyId (ProxyRecord carriers)) :
    ProxyRegistry carriers :=
  { registry with records := snapshot.entries.foldl restoreRecord registry.records }

end ProxyRegistry

end OnecRuntime.Proxies
