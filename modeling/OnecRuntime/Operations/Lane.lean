import OnecRuntime.Operations.Records
import OnecRuntime.Library.Transitions

/-!
# The execution lane

Each accepted submission hands one task to an executor. A task waits for the
lane, journals its start, calls the backend, leaves the lane and then journals
what came of the call. Every critical section is one action here, so that an
abort or another submission can come between any two of them. An injected
executor may have several workers and may refuse a task, even after it queued it.
-/

namespace OnecRuntime.Operations

open OnecRuntime.Library

variable {contracts : Contracts}

/-- What a backend returns; the diagnostic is the sanitized one. -/
structure BackendExecution (contracts : Contracts) where
  terminalState : AgentOperationState
  messages : List CodeText
  resultPresent : Bool
  failureStage : Option CodeText
  diagnostic : Option contracts.Diagnostic
  stateChanged : CodeText
  settles : terminalState.terminal = true

/-- The outcome that stands for a callback that raised. -/
def BackendExecution.raised (contracts : Contracts) : BackendExecution contracts :=
  ⟨.failed, [], false, none, none, [], rfl⟩

/-- What `executor.submit` does. -/
inductive Dispatch where
  | accepted
  | refused (enqueued : Bool)
deriving DecidableEq, Repr

structure Submission (contracts : Contracts) where
  /-- The normalized command, unless its normalization raises. -/
  command : Option (Command contracts)
  submitted : Append
  dispatch : Dispatch
  /-- The append of the failure after the executor refused. -/
  failed : Append

structure Submitted (contracts : Contracts) where
  registry : OperationRegistry contracts
  enqueued : Bool
  /-- The operation whose descriptor is returned, unless the call raises. -/
  answer : Option Nat

/-- The appends of the last section of a lane task. -/
structure Settlement where
  facts : Append
  messages : List Append
  state : Append
deriving DecidableEq, Repr

namespace OperationRegistry

/-- The operation that an identical submission is answered with. -/
def unfinished (registry : OperationRegistry contracts) (key : IdempotencyKey) : Option Nat :=
  (registry.operations.entries.find? fun entry =>
    entry.2.command.idempotencyKey = key ∧ entry.2.state.terminal = false).map Prod.fst

/-- `self._operations[operation.operation_id] = operation`. -/
def insert (registry : OperationRegistry contracts) (fresh : Nat) (command : Command contracts) :
    OperationRegistry contracts :=
  { registry with operations := registry.operations.set fresh (.queued command) }

/-- `submit` of a command without an unfinished operation. The record is inserted before
it is journaled. -/
def submitNew (registry : OperationRegistry contracts) (fresh : Nat)
    (command : Command contracts) (submission : Submission contracts) : Submitted contracts :=
  match (registry.insert fresh command).recordLocked fresh (.submitted command)
      submission.submitted with
  | .error left => ⟨left, false, none⟩
  | .ok recorded =>
      match submission.dispatch with
      | .accepted => ⟨recorded, true, some fresh⟩
      | .refused enqueued =>
          match recorded.transitionLocked fresh .failed false none submission.failed with
          | .ok failed => ⟨failed, enqueued, some fresh⟩
          | .error left => ⟨left, enqueued, none⟩

/-- `submit`. -/
def submit (registry : OperationRegistry contracts) (fresh : Nat)
    (submission : Submission contracts) : Submitted contracts :=
  match submission.command with
  | none => ⟨registry, false, none⟩
  | some command =>
      match registry.unfinished command.idempotencyKey with
      | some found => ⟨registry, false, some found⟩
      | none => registry.submitNew fresh command submission

/-- The view facts that a diagnostic adds, journaled if they differ. -/
def publishFacts (registry : OperationRegistry contracts) (operationId : Nat)
    (operation : Operation contracts) (outcome : BackendExecution contracts) (append : Append) :
    Section contracts :=
  match outcome.diagnostic with
  | none => .ok registry
  | some diagnostic =>
      let facts := contracts.withFailure operation.viewFacts diagnostic outcome.failureStage
        outcome.stateChanged
      if facts = operation.viewFacts then .ok registry
      else do
        let recorded ← registry.recordLocked operationId (.viewFacts facts) append
        .ok (recorded.update operationId fun operation => { operation with viewFacts := facts })

def publishMessages (registry : OperationRegistry contracts) (operationId : Nat) :
    List CodeText → List Append → Section contracts
  | [], _ => .ok registry
  | content :: rest, appends => do
      let recorded ← registry.recordLocked operationId (.message content)
        (appends.headD .flushed)
      recorded.publishMessages operationId rest appends.tail

/-- The last section of `_run`. -/
def settle (registry : OperationRegistry contracts) (operationId : Nat)
    (outcome : BackendExecution contracts) (settlement : Settlement) : Section contracts :=
  match registry.operations.get? operationId with
  | none => .ok registry
  | some operation =>
      if operation.state.terminal = true then .ok registry
      else do
        let informed ← registry.publishFacts operationId operation outcome settlement.facts
        let published ← informed.publishMessages operationId outcome.messages settlement.messages
        published.transitionLocked operationId outcome.terminalState outcome.resultPresent none
          settlement.state

end OperationRegistry

/-- Where a lane task stands. -/
inductive Phase (contracts : Contracts) where
  /-- Handed to the executor. -/
  | pending
  /-- Holds the lane; the start is journaled. -/
  | admitted
  /-- The callback runs. -/
  | executing
  /-- The lane is released. -/
  | returned (outcome : BackendExecution contracts)
  /-- The private diagnostic was offered. -/
  | recorded (outcome : BackendExecution contracts)
  /-- The task returned or raised. -/
  | ended

structure Service (contracts : Contracts) where
  registry : OperationRegistry contracts
  nextId : Nat
  lane : Option Nat
  tasks : Dictionary Nat (Phase contracts)
  executor : Bool
  waiters : List (Nat × CodeText)
  stoppedWaiters : List (Nat × CodeText)

inductive Action (contracts : Contracts) where
  | submit (submission : Submission contracts)
  /-- A task takes the lane. -/
  | enterLane (operationId : Nat) (append : Append)
  | call (operationId : Nat)
  /-- The callback returns an outcome or raises. -/
  | answer (operationId : Nat) (outcome : Option (BackendExecution contracts))
  | offerDiagnostic (operationId : Nat) (stored : Bool) (append : Append)
  | settle (operationId : Nat) (settlement : Settlement)
  | markGenerationAborted (runtimeId : CodeText) (generation : Nat) (appends : List Append)
  | abandonUnknownStartup (operationId : Nat) (append : Append)
  | setViewFacts (operationId : Nat) (facts : contracts.Facts) (append : Append)
  | setExecutionProvenance (operationId : Nat) (provenance : contracts.Provenance)
      (append : Append)
  | recordDiagnostic (operationId : Nat) (diagnostic : contracts.Diagnostic) (stored : Bool)
      (append : Append)
  | shutdown
  | wait (operationId : Nat) (waiterId : CodeText)
  | stopWaiting (operationId : Nat) (waiterId : CodeText)
  /-- A wait returns, in time or not. -/
  | leave (operationId : Nat) (waiterId : CodeText)

inductive Signal where
  | called (operationId : Nat)
  | abandoned (operationId : Nat)
deriving DecidableEq, Repr

namespace Service

def withRegistry (service : Service contracts) (registry : OperationRegistry contracts) :
    Service contracts :=
  { service with registry }

def withPhase (service : Service contracts) (operationId : Nat) (phase : Phase contracts) :
    Service contracts :=
  { service with tasks := service.tasks.set operationId phase }

/-- The first section of `_run`, under the lane. -/
def enterLane (service : Service contracts) (operationId : Nat) (append : Append) :
    Service contracts :=
  match service.registry.operations.get? operationId with
  | none => service.withPhase operationId .ended
  | some operation =>
      if operation.state ≠ .queued then service.withPhase operationId .ended
      else
        match service.registry.transitionLocked operationId .running false none append with
        | .error left => (service.withRegistry left).withPhase operationId .ended
        | .ok started =>
            { (service.withRegistry started).withPhase operationId .admitted with
              lane := some operationId }

/-- `record_diagnostic` on the lane thread, whose errors are swallowed. -/
def offerDiagnostic (service : Service contracts) (operationId : Nat)
    (outcome : BackendExecution contracts) (stored : Bool) (append : Append) :
    Service contracts :=
  match outcome.diagnostic with
  | none => service.withPhase operationId (.recorded outcome)
  | some diagnostic =>
      (service.withRegistry
        (service.registry.recordDiagnostic operationId diagnostic stored append).left).withPhase
          operationId (.recorded outcome)

/-- What a submission leaves: a new identifier is drawn for every call. -/
def submit (service : Service contracts) (submission : Submission contracts) :
    Service contracts :=
  let submitted := service.registry.submit service.nextId submission
  { service with
    registry := submitted.registry
    nextId := service.nextId + 1
    executor := service.executor || submitted.enqueued
    tasks := if submitted.enqueued then service.tasks.set service.nextId .pending
      else service.tasks }

/-- The state and the signals after an action that can be taken. -/
def perform (service : Service contracts) : Action contracts →
    Option (Service contracts × List Signal)
  | .submit submission => some (service.submit submission, [])
  | .enterLane operationId append =>
      match service.tasks.get? operationId, service.lane with
      | some .pending, none => some (service.enterLane operationId append, [])
      | _, _ => none
  | .call operationId =>
      match service.tasks.get? operationId with
      | some .admitted => some (service.withPhase operationId .executing, [.called operationId])
      | _ => none
  | .answer operationId outcome =>
      match service.tasks.get? operationId with
      | some .executing =>
          some ({ service.withPhase operationId
            (.returned (outcome.getD (.raised contracts))) with lane := none }, [])
      | _ => none
  | .offerDiagnostic operationId stored append =>
      match service.tasks.get? operationId with
      | some (.returned outcome) =>
          some (service.offerDiagnostic operationId outcome stored append, [])
      | _ => none
  | .settle operationId settlement =>
      match service.tasks.get? operationId with
      | some (.recorded outcome) =>
          some ((service.withRegistry
            (service.registry.settle operationId outcome settlement).left).withPhase
              operationId .ended, [])
      | _ => none
  | .markGenerationAborted runtimeId generation appends =>
      some (service.withRegistry
        (service.registry.markGenerationAborted runtimeId generation appends).left, [])
  | .abandonUnknownStartup operationId append =>
      match service.registry.abandonUnknownStartup operationId append with
      | .ok changed => some (service.withRegistry changed, [.abandoned operationId])
      | .error left => some (service.withRegistry left, [])
  | .setViewFacts operationId facts append =>
      some (service.withRegistry
        (service.registry.setViewFacts operationId facts append).left, [])
  | .setExecutionProvenance operationId provenance append =>
      some (service.withRegistry
        (service.registry.setExecutionProvenance operationId provenance append).left, [])
  | .recordDiagnostic operationId diagnostic stored append =>
      some (service.withRegistry
        (service.registry.recordDiagnostic operationId diagnostic stored append).left, [])
  | .shutdown => some ({ service with executor := false }, [])
  | .wait operationId waiterId =>
      if operationId ∈ service.registry.operations.keys then
        some ({ service with
          waiters := (operationId, waiterId) :: service.waiters
          stoppedWaiters := service.stoppedWaiters.filter (· ≠ (operationId, waiterId)) }, [])
      else some (service, [])
  | .stopWaiting operationId waiterId =>
      if (operationId, waiterId) ∈ service.waiters then
        some ({ service with
          stoppedWaiters := (operationId, waiterId) :: service.stoppedWaiters }, [])
      else some (service, [])
  | .leave operationId waiterId =>
      some ({ service with
        waiters := service.waiters.filter (· ≠ (operationId, waiterId))
        stoppedWaiters := service.stoppedWaiters.filter (· ≠ (operationId, waiterId)) }, [])

def Step (service : Service contracts) (action : Action contracts) (next : Service contracts)
    (signals : List Signal) : Prop :=
  service.perform action = some (next, signals)

end Service

end OnecRuntime.Operations
