import OnecRuntime.Library.Dictionary
import OnecRuntime.Library.Fallible
import OnecRuntime.Library.Json

/-!
# Operation records

The durable records of the agent operations. Every change of an operation is
appended to the journal before it is made, and an append may raise. A critical
section therefore leaves a registry both when it returns and when it raises.
Operation identifiers are random and never repeat; here they are numbers.
-/

namespace OnecRuntime.Operations

open OnecRuntime.Library

inductive AgentOperationState where
  | queued
  | running
  | completed
  | captured
  | failed
  | unknown
deriving DecidableEq, Repr

/-- `_is_terminal`. -/
def AgentOperationState.terminal : AgentOperationState → Bool
  | .queued | .running => false
  | .completed | .captured | .failed | .unknown => true

inductive AgentOperationKind where
  | runtimeEnsure
  | codeRun
  | codeRunInline
  | pythonRun
  | captureRunUntil
  | captureHypothesis
  | captureContinue
deriving DecidableEq, Repr

/-- The public contracts that a record carries without looking into them. -/
structure Contracts where
  Plan : Type
  Facts : Type
  Provenance : Type
  Reference : Type
  Diagnostic : Type
  emptyFacts : Facts
  visibleSourceSha256 : Provenance → CodeText
  /-- The hash-only anchor of a private diagnostic record. -/
  reference : Diagnostic → Reference
  /-- `replace(view_facts, failure=failure)` with the public view of a diagnostic. -/
  withFailure : Facts → Diagnostic → Option CodeText → CodeText → Facts
  factsEq : DecidableEq Facts
  provenanceEq : DecidableEq Provenance
  referenceEq : DecidableEq Reference

instance (contracts : Contracts) : DecidableEq contracts.Facts := contracts.factsEq

instance (contracts : Contracts) : DecidableEq contracts.Provenance := contracts.provenanceEq

instance (contracts : Contracts) : DecidableEq contracts.Reference := contracts.referenceEq

structure Command (contracts : Contracts) where
  operationKind : AgentOperationKind
  runtimeId : CodeText
  runtimeGeneration : Option Nat
  codeId : Option CodeText
  revision : Option Nat
  sourceSha256 : Option CodeText
  inputsSha256 : CodeText
  requestId : Option CodeText
  observationPlan : Option contracts.Plan
  startupProfile : Option CodeText
  startupMode : Option CodeText

structure IdempotencyKey where
  operationKind : AgentOperationKind
  runtimeId : CodeText
  runtimeGeneration : Option Nat
  codeId : Option CodeText
  revision : Option Nat
  sourceSha256 : Option CodeText
  inputsSha256 : CodeText
  requestId : Option CodeText
deriving DecidableEq

def Command.idempotencyKey {contracts : Contracts} (command : Command contracts) :
    IdempotencyKey :=
  ⟨command.operationKind, command.runtimeId, command.runtimeGeneration, command.codeId,
    command.revision, command.sourceSha256, command.inputsSha256, command.requestId⟩

structure Operation (contracts : Contracts) where
  command : Command contracts
  state : AgentOperationState
  messages : List (Nat × CodeText)
  resultPresent : Bool
  lastEventCursor : Nat
  viewFacts : contracts.Facts
  executionProvenance : Option contracts.Provenance
  privateDiagnosticRef : Option contracts.Reference

/-- `_Operation(operation_id, command, AgentOperationState.QUEUED)`. -/
def Operation.queued {contracts : Contracts} (command : Command contracts) : Operation contracts :=
  ⟨command, .queued, [], false, 0, contracts.emptyFacts, none, none⟩

/-- What an event says, apart from its cursor and its operation. -/
inductive Body (contracts : Contracts) where
  | submitted (command : Command contracts)
  | started
  | message (content : CodeText)
  | viewFacts (facts : contracts.Facts)
  | executionProvenance (provenance : contracts.Provenance)
  | privateDiagnosticRef (reference : contracts.Reference)
  /-- A terminal state, whether a result is present, and the reason if one is given. -/
  | settled (state : AgentOperationState) (resultPresent : Bool) (reason : Option String)

structure Event (contracts : Contracts) where
  cursor : Nat
  operationId : Nat
  body : Body contracts

structure OperationRegistry (contracts : Contracts) where
  operations : Dictionary Nat (Operation contracts)
  nextCursor : Nat
  /-- The events that were flushed to the journal, in order. -/
  journal : List (Event contracts)

/-- What becomes of an append to the journal. -/
inductive Append where
  | flushed
  /-- The append raised; the line may have reached the file. -/
  | raised (written : Bool)
deriving DecidableEq, Repr

/-- A critical section returns a registry or raises and leaves one. -/
abbrev Section (contracts : Contracts) :=
  Except (OperationRegistry contracts) (OperationRegistry contracts)

/-- The registry that a section leaves, whether or not it raised. -/
def Section.left {contracts : Contracts} : Section contracts → OperationRegistry contracts
  | .ok registry => registry
  | .error registry => registry

namespace OperationRegistry

variable {contracts : Contracts}

/-- A change of one operation that is stored. -/
def update (registry : OperationRegistry contracts) (operationId : Nat)
    (change : Operation contracts → Operation contracts) : OperationRegistry contracts :=
  match registry.operations.get? operationId with
  | some operation =>
      { registry with operations := registry.operations.set operationId (change operation) }
  | none => registry

def journaled (registry : OperationRegistry contracts) (event : Event contracts) :
    OperationRegistry contracts :=
  { registry with journal := registry.journal ++ [event] }

/-- The change of the operation that its event records. -/
def advance (cursor : Nat) (body : Body contracts) (operation : Operation contracts) :
    Operation contracts :=
  match body with
  | .message content =>
      { operation with
        lastEventCursor := cursor, messages := operation.messages ++ [(cursor, content)] }
  | _ => { operation with lastEventCursor := cursor }

/-- `_record_locked`. -/
def recordLocked (registry : OperationRegistry contracts) (operationId : Nat)
    (body : Body contracts) (append : Append) : Section contracts :=
  let event : Event contracts := ⟨registry.nextCursor, operationId, body⟩
  match append with
  | .flushed =>
      .ok ({ registry.journaled event with nextCursor := registry.nextCursor + 1 }.update
        operationId (advance registry.nextCursor body))
  | .raised written => .error (if written then registry.journaled event else registry)

/-- `state.value if state is not AgentOperationState.RUNNING else "started"`. -/
def transitionBody (state : AgentOperationState) (resultPresent : Bool)
    (reason : Option String) : Body contracts :=
  if state = .running then .started else .settled state resultPresent reason

/-- `_transition_locked`. -/
def transitionLocked (registry : OperationRegistry contracts) (operationId : Nat)
    (state : AgentOperationState) (resultPresent : Bool) (reason : Option String)
    (append : Append) : Section contracts := do
  if state = .queued then .error registry
  else
    let recorded ← registry.recordLocked operationId
      (transitionBody state resultPresent reason) append
    .ok (recorded.update operationId fun operation =>
      { operation with state, resultPresent })

/-- `set_view_facts`. -/
def setViewFacts (registry : OperationRegistry contracts) (operationId : Nat)
    (facts : contracts.Facts) (append : Append) : Section contracts :=
  match registry.operations.get? operationId with
  | none => .error registry
  | some _ => do
      let recorded ← registry.recordLocked operationId (.viewFacts facts) append
      .ok (recorded.update operationId fun operation => { operation with viewFacts := facts })

/-- `set_execution_provenance`. -/
def setExecutionProvenance (registry : OperationRegistry contracts) (operationId : Nat)
    (provenance : contracts.Provenance) (append : Append) : Section contracts :=
  match registry.operations.get? operationId with
  | none => .error registry
  | some operation =>
      if operation.command.sourceSha256.any
          (fun source => contracts.visibleSourceSha256 provenance ≠ source) then
        .error registry
      else match operation.executionProvenance with
        | some current => if current = provenance then .ok registry else .error registry
        | none =>
            if operation.state ≠ .running then .error registry
            else do
              let recorded ← registry.recordLocked operationId
                (.executionProvenance provenance) append
              .ok (recorded.update operationId fun operation =>
                { operation with executionProvenance := some provenance })

/-- The part of `record_diagnostic` that concerns an operation: the private record is
stored in a file of its own, which may refuse it. -/
def recordDiagnostic (registry : OperationRegistry contracts) (operationId : Nat)
    (diagnostic : contracts.Diagnostic) (stored : Bool) (append : Append) : Section contracts :=
  match registry.operations.get? operationId with
  | none => .error registry
  | some operation =>
      if operation.state ≠ .running ∨ stored = false then .error registry
      else match operation.privateDiagnosticRef with
        | some current =>
            if current = contracts.reference diagnostic then .ok registry else .error registry
        | none => do
            let recorded ← registry.recordLocked operationId
              (.privateDiagnosticRef (contracts.reference diagnostic)) append
            .ok (recorded.update operationId fun operation =>
              { operation with
                privateDiagnosticRef := some (contracts.reference diagnostic) })

/-- `abandon_unknown_startup`. -/
def abandonUnknownStartup (registry : OperationRegistry contracts) (operationId : Nat)
    (append : Append) : Section contracts :=
  match registry.operations.get? operationId with
  | none => .error registry
  | some operation =>
      if operation.command.operationKind ≠ .runtimeEnsure ∨ operation.state ≠ .unknown then
        .error registry
      else registry.transitionLocked operationId .failed false
        (some "explicit_restart_abandoned_unknown_startup") append

/-- The loop of `mark_generation_aborted` over the operations of a generation. -/
def abortEach (registry : OperationRegistry contracts) (runtimeId : CodeText) (generation : Nat) :
    List Nat → List Append → Section contracts
  | [], _ => .ok registry
  | operationId :: rest, appends =>
      match registry.operations.get? operationId with
      | none => registry.abortEach runtimeId generation rest appends
      | some operation =>
          if operation.command.runtimeId = runtimeId ∧
              operation.command.runtimeGeneration = some generation ∧
              operation.state.terminal = false then do
            let changed ← registry.transitionLocked operationId .unknown false
              (some "generation_aborted") (appends.headD .flushed)
            changed.abortEach runtimeId generation rest appends.tail
          else registry.abortEach runtimeId generation rest appends

/-- `mark_generation_aborted`. -/
def markGenerationAborted (registry : OperationRegistry contracts) (runtimeId : CodeText)
    (generation : Nat) (appends : List Append) : Section contracts :=
  if runtimeId = [] ∨ generation = 0 then .error registry
  else registry.abortEach runtimeId generation registry.operations.keys appends

end OperationRegistry

end OnecRuntime.Operations
