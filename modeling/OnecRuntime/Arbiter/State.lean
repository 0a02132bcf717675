import Mathlib.Logic.Function.Basic
import Mathlib.Tactic.Common

/-!
# Tickets of the arbiter

A ticket is one admitted plan with everything the arbiter knows about its remote
capabilities. Tickets, plans and results are compared by identity in the source; here
each is known by a number. What a plan, a session or a finalizer does is not part of
the state: it arrives with the steps that they take.
-/

namespace OnecRuntime.Arbiter

abbrev TicketId := Nat
abbrev Plan := Nat
abbrev Value := Nat
abbrev Uuid := Nat

structure TargetId where
  id : Uuid
  infobaseAlias : String
  seanceId : Option Uuid
  seanceNo : Option Int
  infobaseInstanceId : Option Uuid
  configVersion : String
  deriving DecidableEq

structure DebugTarget where
  targetId : TargetId
  targetType : String
  deriving DecidableEq

/-- A pending evaluation is the object that the session made, not an equal one. -/
structure PendingEvaluation where
  identity : Nat
  targetId : TargetId
  resultId : Uuid
  deriving DecidableEq

structure StopEvent where
  identity : Nat
  targetId : TargetId
  deriving DecidableEq

structure RouteToken where
  incarnation : String
  epoch : Int
  revision : Int
  contextId : String
  deriving DecidableEq

/-! ## Evidence of a termination -/

structure BoundServerTargetAbsence where
  boundClient : TargetId
  expectedTarget : TargetId
  deriving DecidableEq

inductive TerminationEvidence where
  | file (expectedTarget : TargetId) (pid : Int)
  | server (expectedTarget : TargetId) (absence : BoundServerTargetAbsence)
  deriving DecidableEq

def TerminationEvidence.expectedTarget : TerminationEvidence → TargetId
  | .file expectedTarget _ => expectedTarget
  | .server expectedTarget _ => expectedTarget

/-- `FileTargetProcessLease`; the PID of its process is read anew where it matters. -/
structure FileTargetProcessLease where
  expectedTarget : TargetId
  pid : Int
  deriving DecidableEq

/-- What an arbiter is built over and never changes. -/
structure Setup where
  fileTargetLease : Option FileTargetProcessLease
  casefold : String → String

/-- What a section reads outside the arbiter: `session.target` and `lease.process.pid`. -/
structure Sight where
  target : Option DebugTarget
  pid : Int
  deriving DecidableEq

inductive Backend where
  | server
  | file
  deriving DecidableEq

structure TeardownAttempt where
  backend : Backend
  ticket : TicketId
  expectedTarget : TargetId
  requestTermination : Bool
  deriving DecidableEq

/-! ## Failures -/

inductive Failure where
  | cancelledBeforeEffect
  | staleRoute (text : String)
  | stopPendingTeardown (text : String)
  | outcomeUnknown (text : String)
  | arbiterBusy (text : String)
  | runtimeError (text : String)
  | typeError (text : String)
  | valueError (text : String)
  | timeoutError (text : String)
  | targetTerminated (evidence : TerminationEvidence)
  /-- Whatever else a plan, a session or a finalizer raised. -/
  | raised (exception : Nat)
  deriving DecidableEq

/-- `isinstance(error, OutcomeUnknown)`; `StopPendingTeardown` is a subclass. -/
def Failure.outcomeIsUnknown : Failure → Bool
  | .stopPendingTeardown _ => true
  | .outcomeUnknown _ => true
  | _ => false

/-! ## Tickets -/

inductive Phase where
  | queued
  | running
  | unknown
  | reconciling
  | settled
  deriving DecidableEq

/-- The phases of a ticket that holds the slot. -/
def Phase.owning : Phase → Bool
  | .running => true
  | .unknown => true
  | .reconciling => true
  | _ => false

structure ExecutionTicket where
  route : RouteToken
  plan : Plan
  /-- `_finalizer is not None` -/
  finalizer : Bool
  finalizerStarted : Bool
  phase : Phase
  ready : Bool
  pending : Option PendingEvaluation
  pendingStop : Option StopEvent
  entered : Bool
  everEntered : Bool
  stopRequested : Bool
  stopBlockedAfterEffect : Bool
  serverTerminationAttempted : Bool
  fileTerminationAttempted : Bool
  stopTeardown : Option TeardownAttempt
  stopTarget : Option TargetId
  effectTarget : Option TargetId
  value : Option Value
  error : Option Failure
  postSettlementCleanupPlan : Option Plan
  postSettlementCleanup : Option TicketId
  postSettlementParent : Option TicketId
  deriving DecidableEq

namespace ExecutionTicket

/-- `ExecutionTicket(owner, route, plan, finalizer)` -/
def new (route : RouteToken) (plan : Plan) (finalizer : Bool) : ExecutionTicket where
  route := route
  plan := plan
  finalizer := finalizer
  finalizerStarted := false
  phase := .queued
  ready := false
  pending := none
  pendingStop := none
  entered := false
  everEntered := false
  stopRequested := false
  stopBlockedAfterEffect := false
  serverTerminationAttempted := false
  fileTerminationAttempted := false
  stopTeardown := none
  stopTarget := none
  effectTarget := none
  value := none
  error := none
  postSettlementCleanupPlan := none
  postSettlementCleanup := none
  postSettlementParent := none

/-- A dependent cleanup: it follows a settled parent. -/
def dependent (ticket : ExecutionTicket) : Bool := ticket.postSettlementParent.isSome

/-- What the assertion of `_settle` refuses. -/
def owesCapability (ticket : ExecutionTicket) : Bool :=
  ticket.pending.isSome || ticket.pendingStop.isSome || ticket.stopTarget.isSome || ticket.entered

/-- What a conclusion and `_require_idle` look at: the owed capabilities but the pending stop. -/
def outstanding (ticket : ExecutionTicket) : Bool :=
  ticket.pending.isSome || ticket.stopTarget.isSome || ticket.entered

/-- The target that the ticket addressed last. -/
def addressed (ticket : ExecutionTicket) : Option TargetId :=
  match ticket.pending with
  | some pending => some pending.targetId
  | none => ticket.stopTarget.orElse fun _ => ticket.effectTarget

/-- `_settle`: the result is stored first, and the phase stays where the assertion fails. -/
def settle (ticket : ExecutionTicket) (value : Option Value) (error : Option Failure) :
    ExecutionTicket :=
  { ticket with
    value := value
    error := error
    phase := if ticket.owesCapability then ticket.phase else .settled }

/-- `retire_terminated_target` drops every capability. -/
def dropCapabilities (ticket : ExecutionTicket) : ExecutionTicket :=
  { ticket with
    pending := none
    pendingStop := none
    stopTarget := none
    entered := false }

/-- Settled by a cancellation, never run. -/
def cancelled (ticket : ExecutionTicket) : Prop :=
  ticket.phase = .settled ∧ ticket.value = none ∧ ticket.error = some .cancelledBeforeEffect

theorem settle_phase {ticket : ExecutionTicket} (owes : ticket.owesCapability = false)
    (value : Option Value) (error : Option Failure) :
    (ticket.settle value error).phase = .settled := by
  simp [settle, owes]

end ExecutionTicket

end OnecRuntime.Arbiter

/-!
# The arbiter between two sections of its mailbox

Every section under the mailbox is one step. What a thread remembers from one section
to the next is kept with the arbiter: where the worker stands in `_run`, with the port
operations that its plan has open, and what a `close()` in the mailbox waits for.
-/

namespace OnecRuntime.Arbiter

/-- An operation of the session port between its call and its return, with its locals. -/
inductive Call where
  | setBreakpoints
  | localVariables
  | heartbeat
  | modify (previouslyEntered callback : Bool)
  | continue (target : TargetId) (callback : Bool)
  | waitForAnyStop (expected : TargetId)
  | start
  | waitEvaluationEvent (pending : PendingEvaluation)
  | continueEvaluation (pending : PendingEvaluation) (stop : StopEvent)
  /-- The caller's `on_transport_dispatch` runs inside `modify` or `continue_`. -/
  | dispatching (previouslyEntered clearsStop : Bool)
  deriving DecidableEq

/-- What `plan(port)` returns. -/
inductive Outcome where
  | settlement (value : Value) (nextRoute : Option RouteToken)
  | readyForPolicy (rawOutcome : Value) (nextRoute : Option RouteToken)
  /-- `none` where the error is no exception. -/
  | confirmedFailure (error : Option Failure)
  | other
  deriving DecidableEq

/-- How the `try` of `_run` ends. -/
inductive Conclusion where
  | settlement (value : Value) (nextRoute : Option RouteToken)
  | confirmedFailure (error : Failure)
  | raised (error : Failure)
  deriving DecidableEq

inductive Worker where
  | waiting
  | planning (ticket : TicketId) (reconciling : Bool) (calls : List Call)
  | finalizing (ticket : TicketId) (reconciling : Bool) (nextRoute : Option RouteToken)
      (calls : List Call)
  | concluding (ticket : TicketId) (reconciling : Bool) (conclusion : Conclusion)
  | tearing (attempt : TeardownAttempt)
  | exited
  /-- An assertion or an unexpected refusal ended the thread. -/
  | crashed
  deriving DecidableEq

/-- The ticket whose plan the worker runs. -/
def Worker.holder : Worker → Option TicketId
  | .planning ticket _ _ => some ticket
  | .finalizing ticket _ _ _ => some ticket
  | .concluding ticket _ _ => some ticket
  | _ => none

/-- The live port: its ticket and the operations that are open, the innermost first. -/
def Worker.port : Worker → Option (TicketId × List Call)
  | .planning ticket _ calls => some (ticket, calls)
  | .finalizing ticket _ _ calls => some (ticket, calls)
  | _ => none

def Worker.withCalls (calls : List Call) : Worker → Worker
  | .planning ticket reconciling _ => .planning ticket reconciling calls
  | .finalizing ticket reconciling nextRoute _ => .finalizing ticket reconciling nextRoute calls
  | worker => worker

def Worker.dead : Worker → Bool
  | .exited => true
  | .crashed => true
  | _ => false

/-- The two waits of `close()`, with the cleanup that each is about. -/
inductive Closer where
  | awaitingCleanup (active : TicketId)
  | awaitingStart (cleanup : TicketId)
  deriving DecidableEq

def Closer.ticket : Closer → TicketId
  | .awaitingCleanup active => active
  | .awaitingStart cleanup => cleanup

structure RdbgArbiter where
  route : RouteToken
  tickets : TicketId → ExecutionTicket
  /-- The tickets made so far are the numbers below. -/
  admitted : Nat
  queue : List TicketId
  active : Option TicketId
  idleHeartbeat : Option TicketId
  reconciliation : Option Plan
  serverTeardown : Option TeardownAttempt
  fileTeardown : Option TeardownAttempt
  cleanupDebt : Option TicketId
  targetTermination : Option TerminationEvidence
  closed : Bool
  worker : Worker
  /-- The `close()` that has set `_closing`: it is set exactly while one waits in the mailbox. -/
  closer : Option Closer
  /-- The calls of `close()` that have left the mailbox and join the worker. -/
  joiners : Nat

namespace RdbgArbiter

def initial (route : RouteToken) : RdbgArbiter where
  route := route
  tickets := fun _ => .new route 0 false
  admitted := 0
  queue := []
  active := none
  idleHeartbeat := none
  reconciliation := none
  serverTeardown := none
  fileTeardown := none
  cleanupDebt := none
  targetTermination := none
  closed := false
  worker := .waiting
  closer := none
  joiners := 0

/-- `_closing` -/
def closing (arbiter : RdbgArbiter) : Bool := arbiter.closer.isSome

variable (arbiter : RdbgArbiter)

def update (id : TicketId) (change : ExecutionTicket → ExecutionTicket) : RdbgArbiter :=
  { arbiter with tickets := Function.update arbiter.tickets id (change (arbiter.tickets id)) }

/-- A new ticket, not queued yet; its number is the count of those before it. -/
def create (ticket : ExecutionTicket) : RdbgArbiter :=
  { arbiter with
    tickets := Function.update arbiter.tickets arbiter.admitted ticket
    admitted := arbiter.admitted + 1 }

/-- `_settle` -/
def settle (id : TicketId) (value : Option Value) (error : Option Failure) : RdbgArbiter :=
  arbiter.update id fun ticket => ticket.settle value error

/-- The tickets are settled as cancelled, in order. -/
def cancelAll (arbiter : RdbgArbiter) : List TicketId → RdbgArbiter
  | [] => arbiter
  | id :: rest => cancelAll (arbiter.settle id none (some .cancelledBeforeEffect)) rest

/-- `while self._queue: self._settle(self._queue.popleft(), error=CancelledBeforeEffect())` -/
def drain : RdbgArbiter :=
  { arbiter.cancelAll arbiter.queue with queue := [] }

/-- A queued ticket is removed and settled as cancelled. -/
def cancel (id : TicketId) : RdbgArbiter :=
  { arbiter with queue := arbiter.queue.erase id }.settle id none (some .cancelledBeforeEffect)

end RdbgArbiter

/-! ## Answers and signals -/

inductive StopRequestOutcome where
  | cancelledBeforeEffect
  | requested
  | alreadySettled
  deriving DecidableEq

/-- What a call of the arbiter returns or raises. -/
inductive Reply where
  | done
  | ticket (id : TicketId)
  | noTicket
  | cancelled (was : Bool)
  | stop (outcome : StopRequestOutcome)
  | attempt (attempt : TeardownAttempt)
  | raised (error : Failure)
  deriving DecidableEq

inductive Signal where
  /-- A plan is called for the first time. -/
  | started (ticket : TicketId)
  /-- A popped ticket is refused for its route. -/
  | stale (ticket : TicketId)
  /-- The plan of a reconciliation is called. -/
  | reentered (ticket : TicketId)
  /-- The session enters its transport through the port of the ticket. -/
  | entered (ticket : TicketId)
  | finalizerCalled (ticket : TicketId)
  /-- The termination command goes out. -/
  | terminationIssued (ticket : TicketId) (backend : Backend)
  | replied (ticket : Option TicketId) (reply : Reply)
  | closeRaised (error : Failure)
  | closeReturned
  deriving DecidableEq

end OnecRuntime.Arbiter
