import OnecRuntime.Library.Actions
import OnecRuntime.Library.Holdings

/-!
# Bindings of notebooks to kernels

The registry of the notebook server: a binding belongs to an owner and is held until its lease
ends, connections select bindings of their owner, and what the client of a binding tells about the
project of its kernel is fenced by the epoch of the binding. The clock is read again and again
within one call; `ticks` counts its readings.
-/

namespace OnecRuntime.Contexts

open OnecRuntime.Library

inductive Mode where
  | virtualOnly
  | project
deriving DecidableEq

structure ContextStatus where
  epoch : Nat
  mode : Mode
  reason : Option String
  analysisState : String
  analysisReason : Option String
  installationId : Option String

/-- `ContextStatus(binding, epoch, mode, reason, installation_id=...)`. -/
def ContextStatus.ofMode (epoch : Nat) (mode : Mode) (reason : Option String)
    (installationId : Option String) : ContextStatus :=
  ⟨epoch, mode, reason, "unknown", none, installationId⟩

def ContextStatus.analysed (status : ContextStatus) (state : String) (reason : Option String) :
    ContextStatus :=
  { status with analysisState := state, analysisReason := reason }

variable {Time Config : Type}

/-- A binding, whose client is known by the identity of the binding. -/
structure Binding (Time Config : Type) where
  owner : String
  notebookPath : String
  kernelId : Option String
  documentUri : String
  status : ContextStatus
  deadline : Time
  config : Option Config
  sourceRoot : Option String
  incarnation : Option String

/-- A client as the registry finds it. -/
structure Client where
  identity : String
  closed : Bool
  incarnation : Option String
  installationId : Option String

/-- `closing` lists the clients that the registry closed. -/
structure Registry (Time Config : Type) where
  bindings : Dictionary String (Binding Time Config)
  connections : Holdings (String × String) String
  revision : Nat
  closing : List String
  ticks : Nat

inductive Failure where
  | invalidAssociation
  | bindingLimit
  | missing
  | unavailable
  | alreadySelected
  | documentAmbiguous

/-- What the registry is set up with: the readings of its clock, the end of a lease that begins at
a time, its limit, the check of a request and the installation of a configuration. -/
structure Settings (Time Config : Type) where
  clock : Nat → Time
  leaseFrom : Time → Time
  maxBindings : Nat
  accepts : String → Option String → String → Bool
  installationId : Config → String

abbrev Call (Time Config α : Type) := Action (Registry Time Config) Failure α

namespace Registry

def fresh : Registry Time Config := ⟨Dictionary.empty, Dictionary.empty, 0, [], 0⟩

/-- `_remove` of some bindings, one after another. -/
def without (gone : List String) (registry : Registry Time Config) : Registry Time Config :=
  { registry with
    bindings := registry.bindings.eraseAll gone
    connections := Holdings.discard gone registry.connections
    revision := registry.revision + gone.length
    closing := registry.closing ++ gone }

def set (binding : String) (current : Binding Time Config) (registry : Registry Time Config) :
    Registry Time Config :=
  { registry with bindings := registry.bindings.set binding current }

/-- A change of the object under a key, which changes nothing that is there if the object is
there no more. -/
def update (binding : String) (change : Binding Time Config → Binding Time Config)
    (registry : Registry Time Config) : Registry Time Config :=
  match registry.bindings.get? binding with
  | some current => registry.set binding (change current)
  | none => registry

def revised (registry : Registry Time Config) : Registry Time Config :=
  { registry with revision := registry.revision + 1 }

def selected (registry : Registry Time Config) (owner connection : String) : List String :=
  Holdings.held registry.connections (owner, connection)

end Registry

namespace Binding

def withStatus (current : Binding Time Config) (status : ContextStatus) : Binding Time Config :=
  { current with status := status }

/-- `analysis_state='unknown', analysis_reason=None`. -/
def released (current : Binding Time Config) : Binding Time Config :=
  current.withStatus (current.status.analysed "unknown" none)

def renewed (deadline : Time) (current : Binding Time Config) : Binding Time Config :=
  { current with deadline := deadline }

def degraded (reason : String) (current : Binding Time Config) : Binding Time Config :=
  { current with
    config := none
    sourceRoot := none
    incarnation := none
    status := .ofMode (current.status.epoch + 1) .virtualOnly (some reason) none }

def configured (config : Config) (installationId : String) (root reason incarnation : Option String)
    (current : Binding Time Config) : Binding Time Config :=
  { current with
    config := some config
    sourceRoot := root
    incarnation := incarnation
    status := .ofMode (current.status.epoch + 1)
      (if root.isSome then .project else .virtualOnly) reason (some installationId) }

end Binding

section Calls

variable [LinearOrder Time] [DecidableEq Config] (settings : Settings Time Config)

/-! ## Leases -/

/-- The bindings whose lease has ended, each by a reading of the clock of its own. -/
def expired (registry : Registry Time Config) : List String :=
  (registry.bindings.entries.zipIdx registry.ticks).filterMap fun (entry, tick) =>
    if entry.2.deadline ≤ settings.clock tick then some entry.1 else none

def pruned (registry : Registry Time Config) : Registry Time Config :=
  { registry.without (expired settings registry) with
    ticks := registry.ticks + registry.bindings.entries.length }

def prune : Call Time Config Nat := fun registry =>
  (.ok (expired settings registry).length, pruned settings registry)

/-- A reading of the clock. -/
def now : Call Time Config Time := fun registry =>
  (.ok (settings.clock registry.ticks), { registry with ticks := registry.ticks + 1 })

/-- `_owned`. -/
def owned (binding owner : String) : Call Time Config (Binding Time Config) := do
  let _ ← prune settings
  match (← Action.get).bindings.get? binding with
  | none => Action.raise .missing
  | some current => if current.owner = owner then pure current else Action.raise .unavailable

def bind (owner notebookPath : String) (kernelId : Option String) (documentUri : String)
    (binding : String) : Call Time Config String := do
  if settings.accepts notebookPath kernelId documentUri = false then
    Action.raise .invalidAssociation
  else
    let _ ← prune settings
    if settings.maxBindings ≤ (← Action.get).bindings.entries.length then
      Action.raise .bindingLimit
    else
      let time ← now settings
      Action.modify fun registry => (registry.set binding
        ⟨owner, notebookPath, kernelId, documentUri,
          .ofMode 1 .virtualOnly (some "runtime-unavailable") none,
          settings.leaseFrom time, none, none, none⟩).revised
      pure binding

/-- The deadline is computed before the binding is looked up. -/
def renew (binding owner : String) : Call Time Config Unit := do
  let time ← now settings
  let _ ← owned settings binding owner
  Action.modify (·.update binding (Binding.renewed (settings.leaseFrom time)))

def unbind (binding owner : String) : Call Time Config Unit := do
  let _ ← owned settings binding owner
  Action.modify (·.without [binding])

/-! ## The project of a binding -/

def degrade (binding reason : String) (client : Option Client) : Call Time Config Bool := do
  let _ ← prune settings
  match (← Action.get).bindings.get? binding with
  | none => pure false
  | some current =>
      if client.map Client.identity ≠ some binding then pure false
      else if current.config = none ∧ current.sourceRoot = none ∧
          current.status.mode = .virtualOnly ∧ current.status.reason = some reason ∧
          current.status.installationId = none then pure false
      else
        Action.modify fun registry => (registry.set binding (current.degraded reason)).revised
        pure true

/-- What comes from outside of the registry: whether the configuration can be encoded within the
limits, and the root and the reason of `normalize_source_root`. -/
structure Probe where
  encodes : Bool
  root : Option String
  reason : Option String

/-- A configuration is `none` if what is given is no `ProjectConfig`. -/
def acceptConfig (binding : String) (incarnation : Option String) (config : Option Config)
    (client : Option Client) (probe : Probe) : Call Time Config Bool := do
  let _ ← prune settings
  match (← Action.get).bindings.get? binding, client, config with
  | some current, some client, some config =>
      if client.identity ≠ binding ∨ client.closed = true ∨ incarnation ≠ client.incarnation ∨
          some (settings.installationId config) ≠ client.installationId then pure false
      else if current.config = some config ∧ current.incarnation = incarnation then pure false
      else if probe.encodes = false then
        let _ ← degrade settings binding "project-config-invalid-or-limited" (some client)
        pure false
      else
        Action.modify fun registry => (registry.set binding
          (current.configured config (settings.installationId config) probe.root probe.reason
            incarnation)).revised
        pure true
  | _, _, _ => pure false

/-- The bindings that the loop of `invalidate_kernel` has still to look at. -/
def invalidateAll (kernelId : Option String) :
    List (String × Binding Time Config) → Call Time Config Unit
  | [] => pure ()
  | (binding, current) :: rest => do
      if current.kernelId = kernelId then
        Action.modify fun registry => { registry with closing := registry.closing ++ [binding] }
        let _ ← degrade settings binding "kernel-incarnation-changed"
          (some ⟨binding, true, none, none⟩)
      invalidateAll kernelId rest

def invalidateKernel (kernelId : Option String) : Call Time Config Unit := do
  invalidateAll settings kernelId (← Action.get).bindings.entries

/-! ## Selections -/

def selectable (connection owner binding : String) : Call Time Config Bool := do
  let _ ← owned settings binding owner
  let registry ← Action.get
  pure (!Holdings.heldElsewhere registry.connections (owner, connection) binding)

/-- Every binding of a selection is admitted by itself. -/
def admitAll (connection owner : String) : List String → Call Time Config Unit
  | [] => pure ()
  | binding :: rest => do
      if ← selectable settings connection owner binding then admitAll connection owner rest
      else Action.raise .alreadySelected

/-- Some bindings forget their analysis. -/
def releasing (dropped : List String) (registry : Registry Time Config) : Registry Time Config :=
  dropped.foldl (fun registry binding => registry.update binding Binding.released) registry

/-- A connection takes a selection, and the bindings that it gives up forget their analysis. -/
def chosen (owner connection : String) (incoming : List String) (registry : Registry Time Config) :
    Registry Time Config :=
  let dropped := (registry.selected owner connection).filter (· ∉ incoming)
  let cleared := releasing dropped registry
  { cleared with connections := cleared.connections.set (owner, connection) incoming }.revised

/-- The bindings are a set, and come in any order. -/
def select (connection owner : String) (bindings : List String) : Call Time Config Unit := do
  let incoming := bindings.dedup
  admitAll settings connection owner incoming
  let registry ← Action.get
  let uris := incoming.map fun binding =>
    (registry.bindings.get? binding).map Binding.documentUri
  if none ∈ uris then Action.raise .missing
  else if uris.dedup.length ≠ incoming.length then Action.raise .documentAmbiguous
  else if registry.selected owner connection ⊆ incoming ∧
      incoming ⊆ registry.selected owner connection then pure ()
  else Action.modify (chosen owner connection incoming)

def attach (connection owner binding : String) : Call Time Config Unit := do
  let registry ← Action.get
  select settings connection owner (registry.selected owner connection ++ [binding])

def detach (connection owner : String) : Call Time Config Unit :=
  Action.modify fun registry =>
    let cleared := releasing (registry.selected owner connection) registry
    { cleared with connections := cleared.connections.erase (owner, connection) }.revised

/-! ## Analysis -/

structure Acknowledged where
  binding : String
  epoch : Int
  state : String
  reason : Option String

def analysisStates : List String := ["unknown", "indexing", "updating", "ready", "unavailable"]

def analysisReasons : List String :=
  ["child-synchronization-failed", "child-capacity-unavailable", "workspace-unsafe",
    "workspace-safety-limit", "workspace-unavailable", "child-unavailable", "control-unavailable",
    "workspace-replaced", "workspace-recovered", "workspace-layout-changed",
    "workspace-unlocated-change", "workspace-event-limit", "workspace-stopped",
    "workspace-notification-unavailable", "index-convergence-unconfirmed"]

def Acknowledged.known (item : Acknowledged) : Prop :=
  item.state ∈ analysisStates ∧ ∀ reason ∈ item.reason, reason ∈ analysisReasons

instance (item : Acknowledged) : Decidable item.known := by
  unfold Acknowledged.known
  infer_instance

/-- The loop over a batch, in which an item is `none` if it is not of the expected form. It ends
with the items to set, or with nothing as soon as one of them is refused. -/
def examine (connection owner : String) :
    List (Option Acknowledged) → Call Time Config (Option (List Acknowledged))
  | [] => pure (some [])
  | none :: _ => pure none
  | some item :: rest => do
      let registry ← Action.get
      if item.binding ∉ registry.selected owner connection ∨
          registry.bindings.get? item.binding = none then pure none
      else
        let current ← owned settings item.binding owner
        if item.epoch ≠ current.status.epoch ∨ ¬item.known then pure none
        else
          let later ← examine connection owner rest
          pure (later.map (item :: ·))

def Binding.analysed (item : Acknowledged) (current : Binding Time Config) : Binding Time Config :=
  current.withStatus (current.status.analysed item.state item.reason)

/-- A batch is `none` if it is no list. -/
def acknowledge (connection owner : String) (statuses : Option (List (Option Acknowledged))) :
    Call Time Config Bool := do
  match statuses with
  | none => pure false
  | some statuses =>
      if settings.maxBindings < statuses.length then pure false
      else
        match ← examine settings connection owner statuses with
        | none => pure false
        | some admitted =>
            Action.modify fun registry => admitted.foldl
              (fun registry item => registry.update item.binding (Binding.analysed item)) registry
            pure true

/-! ## Reading and closing -/

structure Context where
  bindingId : String
  epoch : Nat
  kernelId : Option String
  kernelIncarnation : Option String
  installationId : Option String
  sourceRoot : Option String
  documentUri : String

/-- `_context`. -/
def contextOf (binding : String) (current : Binding Time Config) : Context :=
  ⟨binding, current.status.epoch, current.kernelId, current.incarnation,
    current.status.installationId, current.sourceRoot, current.documentUri⟩

structure Association where
  bindingId : String
  documentUri : String
  notebookPath : String
  kernelId : Option String

def associationOf (binding : String) (current : Binding Time Config) : Association :=
  ⟨binding, current.documentUri, current.notebookPath, current.kernelId⟩

def status (binding owner : String) : Call Time Config ContextStatus := do
  let current ← owned settings binding owner
  pure current.status

def association (binding owner : String) : Call Time Config Association := do
  let current ← owned settings binding owner
  pure (associationOf binding current)

def context (binding owner : String) : Call Time Config Context := do
  let current ← owned settings binding owner
  pure (contextOf binding current)

def entriesOf (owner : String) (registry : Registry Time Config) :
    List (String × Binding Time Config) :=
  registry.bindings.entries.filter fun entry => entry.2.owner = owner

def contexts (owner : String) : Call Time Config (List Context) := do
  let _ ← prune settings
  pure ((entriesOf owner (← Action.get)).map fun entry => contextOf entry.1 entry.2)

def associations (owner : String) : Call Time Config (List Association) := do
  let _ ← prune settings
  pure ((entriesOf owner (← Action.get)).map fun entry => associationOf entry.1 entry.2)

def connectionContexts (connection owner : String) : Call Time Config (List Context) := do
  let _ ← prune settings
  let registry ← Action.get
  pure (((registry.selected owner connection).mergeSort fun first second => first ≤ second).filterMap
    fun binding => match registry.bindings.get? binding with
      | some current => if current.owner = owner then some (contextOf binding current) else none
      | none => none)

def close : Call Time Config Unit := Action.modify fun registry =>
  { bindings := Dictionary.empty
    connections := Dictionary.empty
    revision := registry.revision + 1
    closing := registry.closing ++ registry.bindings.keys
    ticks := registry.ticks }

end Calls

end OnecRuntime.Contexts
