import OnecRuntime.Arbiter.Mailbox

/-!
# The session port

Plans, finalizers and the callbacks that they pass reach the session through the port
only. An operation is open from its call to its answer; meanwhile the session may enter
its transport, any number of times, and the caller's own callback may run inside. No
other thread reads the capabilities of a running ticket, so sections of one operation
that follow each other directly are taken together.
-/

namespace OnecRuntime.Arbiter

/-- The operation that is called, with the arguments that the port looks at. -/
inductive Request where
  | setBreakpoints
  | localVariables
  | heartbeat
  | modify (callback : Bool)
  | continue (callback : Bool)
  | waitForAnyStop
  | start
  | waitEvaluationEvent (pending : PendingEvaluation)
  | continueEvaluation (pending : PendingEvaluation) (stop : StopEvent)

/-- What the session returns or raises, as far as the port tells the cases apart. -/
inductive Answer where
  | done
  | stop (stop : StopEvent)
  | pending (pending : PendingEvaluation)
  | result (resultId : Uuid)
  | localVariablesResultTimeout
  | stopWaitIntervalElapsed
  | evaluationDispatchUnknown (pending : PendingEvaluation)
  /-- `type(error) is CommandTimeout` -/
  | commandTimeout
  | raised
  deriving DecidableEq

namespace ExecutionTicket

variable (ticket : ExecutionTicket)

/-- The check with which an operation begins; `none` where it raises. -/
def opens (target : Option DebugTarget) : Request → Option Call
  | .setBreakpoints => if ticket.outstanding then none else some .setBreakpoints
  | .localVariables => if ticket.outstanding then none else some .localVariables
  | .heartbeat => if ticket.outstanding then none else some .heartbeat
  | .modify callback =>
      if ticket.outstanding then none else some (.modify ticket.everEntered callback)
  | .continue callback =>
      if ticket.outstanding then none
      else target.map fun selected => .continue selected.targetId callback
  | .waitForAnyStop => ticket.stopTarget.map .waitForAnyStop
  | .start => if ticket.outstanding then none else some .start
  | .waitEvaluationEvent pending =>
      if ticket.pending = some pending then some (.waitEvaluationEvent pending) else none
  | .continueEvaluation pending stop =>
      if ticket.pending = some pending ∧ ticket.pendingStop = some stop then
        some (.continueEvaluation pending stop)
      else none

/-- `_transport_entered` where no Stop is requested. -/
def enterTransport (target : Option DebugTarget) : ExecutionTicket :=
  { ticket with
    entered := true
    everEntered := true
    effectTarget := (target.map (·.targetId)).orElse fun _ => ticket.effectTarget }

/-- `_transport_entered` where Stop is requested: it raises. -/
def refuseTransport : ExecutionTicket :=
  if ticket.everEntered then { ticket with stopBlockedAfterEffect := true } else ticket

/-- `_stop_checkpoint` -/
def stopCheckpoint : ExecutionTicket :=
  if ticket.stopRequested then { ticket with stopBlockedAfterEffect := true } else ticket

def leaveTransport : ExecutionTicket := { ticket with entered := false }

/-- The caller's bookkeeping rejected the command before it went out. -/
def rollBack (previouslyEntered clearsStop : Bool) : ExecutionTicket :=
  { ticket with
    stopTarget := if clearsStop then none else ticket.stopTarget
    entered := false
    everEntered := previouslyEntered }

/-- What the end of an operation leaves in the ticket. -/
def finish : Call → Answer → ExecutionTicket
  | .setBreakpoints, .done => ticket.leaveTransport
  | .heartbeat, .done => ticket.leaveTransport
  | .modify .., .done => ticket.leaveTransport
  | .continue .., .done => ticket.leaveTransport
  | .localVariables, .done => ticket.leaveTransport
  | .localVariables, .localVariablesResultTimeout =>
      if ticket.stopRequested then ticket else ticket.leaveTransport
  | .waitForAnyStop expected, .stop stop =>
      if stop.targetId = expected then { ticket with stopTarget := none, entered := false }
      else ticket
  | .waitForAnyStop _, .stopWaitIntervalElapsed => ticket.stopCheckpoint
  | .start, .pending pending => { ticket with pending := some pending }
  | .start, .evaluationDispatchUnknown pending => { ticket with pending := some pending }
  | .waitEvaluationEvent pending, .result resultId =>
      if resultId = pending.resultId then
        { ticket with pending := none, pendingStop := none, entered := false }
      else ticket
  | .waitEvaluationEvent pending, .stop stop =>
      if stop.targetId = pending.targetId then { ticket with pendingStop := some stop } else ticket
  | .waitEvaluationEvent _, .commandTimeout => ticket.stopCheckpoint
  | .continueEvaluation .., .done => { ticket with pendingStop := none, entered := false }
  -- Every other answer is an exception, which changes nothing here.
  | _, _ => ticket

end ExecutionTicket

inductive PortAction where
  | call (request : Request)
  /-- The session calls `on_transport_dispatch`. -/
  | enter
  | callbackReturned
  | callbackRaised
  | answered (answer : Answer)
  | handoffRoute (nextRoute : RouteToken)
  | registerPostSettlementCleanup (plan : Plan)

/-- The plan, the finalizer or a callback of theirs runs, not the session. -/
def planRuns : List Call → Bool
  | [] => true
  | .dispatching .. :: _ => true
  | _ => false

namespace RdbgArbiter

variable (sight : Sight) (arbiter : RdbgArbiter)

def withCalls (calls : List Call) : RdbgArbiter :=
  { arbiter with worker := arbiter.worker.withCalls calls }

/-- What the operation does once its transport is entered. -/
def entering (id : TicketId) (calls : List Call) : Call → RdbgArbiter × List Signal
  | .modify previouslyEntered callback =>
      let entered := arbiter.update id (·.enterTransport sight.target)
      (if callback then entered.withCalls (.dispatching previouslyEntered false :: calls)
        else entered, [.entered id])
  | .continue target callback =>
      let previouslyEntered := (arbiter.tickets id).everEntered
      let entered := arbiter.update id fun ticket =>
        { ticket.enterTransport sight.target with stopTarget := some target }
      (if callback then entered.withCalls (.dispatching previouslyEntered true :: calls)
        else entered, [.entered id])
  | _ => (arbiter.update id (·.enterTransport sight.target), [.entered id])

/-- `handoff_route`; a refused handoff changes nothing. -/
def handoffRoute (id : TicketId) (nextRoute : RouteToken) : RdbgArbiter :=
  if arbiter.active = some id ∧ (arbiter.tickets id).phase = .running ∧
      nextRoute.incarnation = arbiter.route.incarnation ∧
      arbiter.route.epoch < nextRoute.epoch then
    { arbiter with route := nextRoute }
  else arbiter

/-- `register_post_settlement_cleanup`; a refused registration changes nothing. -/
def registerPostSettlementCleanup (id : TicketId) (plan : Plan) : RdbgArbiter :=
  if arbiter.active = some id ∧ (arbiter.tickets id).phase = .running ∧
      (arbiter.tickets id).postSettlementCleanupPlan = none then
    arbiter.update id fun ticket => { ticket with postSettlementCleanupPlan := some plan }
  else arbiter

/-- One step through the live port of ticket `id`, whose open operations are `calls`. -/
def port (id : TicketId) (calls : List Call) :
    PortAction → Option (RdbgArbiter × List Signal)
  | .call request =>
      if planRuns calls then
        match (arbiter.tickets id).opens sight.target request with
        | some call => some (arbiter.withCalls (call :: calls), [])
        | none => some (arbiter, [])
      else none
  | .enter =>
      match calls with
      | [] => none
      | .dispatching .. :: _ => none
      | call :: _ =>
          if (arbiter.tickets id).stopRequested then
            some (arbiter.update id (·.refuseTransport), [])
          else some (arbiter.entering sight id calls call)
  | .callbackReturned =>
      match calls with
      | .dispatching .. :: outer => some (arbiter.withCalls outer, [])
      | _ => none
  | .callbackRaised =>
      match calls with
      | .dispatching previouslyEntered clearsStop :: outer =>
          some ((arbiter.update id (·.rollBack previouslyEntered clearsStop)).withCalls outer, [])
      | _ => none
  | .answered answer =>
      match calls with
      | [] => none
      | .dispatching .. :: _ => none
      | call :: outer =>
          some ((arbiter.update id (·.finish call answer)).withCalls outer, [])
  | .handoffRoute nextRoute =>
      if planRuns calls then some (arbiter.handoffRoute id nextRoute, []) else none
  | .registerPostSettlementCleanup plan =>
      if planRuns calls then some (arbiter.registerPostSettlementCleanup id plan, []) else none

end RdbgArbiter

end OnecRuntime.Arbiter

/-!
# The worker loop

`_run` alternates a section that takes the next thing to do with plans and finalizers
that run outside the mailbox, and ends each with a concluding section.
-/

namespace OnecRuntime.Arbiter

namespace RdbgArbiter

variable (setup : Setup) (sight : Sight) (arbiter : RdbgArbiter)

/-! ## Taking -/

/-- The head of the queue may start: it is dispatched, and a debt admits only its cleanup. -/
def headReady : Bool :=
  match arbiter.queue with
  | [] => false
  | id :: _ =>
      (arbiter.tickets id).ready &&
        (arbiter.cleanupDebt.isNone ||
          (arbiter.tickets id).postSettlementParent = arbiter.cleanupDebt)

/-- The condition on which `_run` waits. -/
def wakes : Bool :=
  arbiter.closed || arbiter.serverTeardown.isSome || arbiter.fileTeardown.isSome ||
    arbiter.reconciliation.isSome || (arbiter.active.isNone && arbiter.headReady)

/-- The command goes out unless it went before or the process of the lease changed. -/
def issues (attempt : TeardownAttempt) : Bool :=
  attempt.requestTermination &&
    match attempt.backend with
    | .server => true
    | .file => setup.fileTargetLease.all fun lease => lease.pid = sight.pid

def tear (attempt : TeardownAttempt) : RdbgArbiter × List Signal :=
  ({ arbiter with worker := .tearing attempt },
    if issues setup sight attempt then [.terminationIssued attempt.ticket attempt.backend] else [])

/-- The head of the queue is popped; it starts unless its route is stale. -/
def pop (id : TicketId) (rest : List TicketId) : RdbgArbiter × List Signal :=
  let popped := { arbiter with queue := rest }
  if (arbiter.tickets id).route ≠ arbiter.route then
    (popped.settle id none (some (.staleRoute "")), [.stale id])
  else
    ({ popped.update id fun ticket => { ticket with phase := .running } with
      active := some id
      worker := .planning id false [] }, [.started id])

def reenter : RdbgArbiter × List Signal :=
  match arbiter.active with
  | none => ({ arbiter with worker := .crashed }, [])
  | some id =>
      ({ arbiter.update id fun ticket => { ticket with phase := .running } with
        reconciliation := none
        worker := .planning id true [] }, [.reentered id])

def take : Option (RdbgArbiter × List Signal) :=
  if arbiter.worker ≠ .waiting || !arbiter.wakes then none
  else if arbiter.closed then some ({ arbiter with worker := .exited }, [])
  else
    match arbiter.serverTeardown, arbiter.fileTeardown with
    | some attempt, _ => some (arbiter.tear setup sight attempt)
    | none, some attempt => some (arbiter.tear setup sight attempt)
    | none, none =>
        if arbiter.reconciliation.isSome then some arbiter.reenter
        else
          match arbiter.queue with
          | [] => none
          | id :: rest => some (arbiter.pop id rest)

/-! ## Outcomes -/

/-- The kind of outcome that a ticket may return. -/
def checkKind (ticket : ExecutionTicket) : Outcome → Except Failure Unit
  | .confirmedFailure none => .error (.typeError "Confirmed failure requires an exception")
  | .confirmedFailure (some _) =>
      if ticket.finalizerStarted then
        .error (.outcomeUnknown
          "Policy finalizer already started; its effects cannot be replaced")
      else .ok ()
  | .settlement .. =>
      if !ticket.finalizer then .ok ()
      else if ticket.finalizerStarted then
        .error (.outcomeUnknown
          "Policy finalizer already started; its effects cannot be repeated")
      else .error (.outcomeUnknown
        "Policy ticket requires a confirmed raw outcome after cleanup")
  | .readyForPolicy .. =>
      if !ticket.finalizer then
        .error (.typeError "Raw plan must return a confirmed Settlement")
      else if ticket.finalizerStarted then
        .error (.outcomeUnknown
          "Policy finalizer already started; its effects cannot be repeated")
      else .ok ()
  | .other =>
      if !ticket.finalizer then
        .error (.typeError "Raw plan must return a confirmed Settlement")
      else if ticket.finalizerStarted then
        .error (.outcomeUnknown
          "Policy finalizer already started; its effects cannot be repeated")
      else .error (.outcomeUnknown
        "Policy ticket requires a confirmed raw outcome after cleanup")

/-- The next route keeps the incarnation and is newer. -/
def advances (current next : RouteToken) : Bool :=
  next.incarnation = current.incarnation &&
    (current.epoch < next.epoch ||
      (next.epoch = current.epoch && next.contextId = current.contextId &&
        current.revision < next.revision))

def Outcome.nextRoute : Outcome → Option RouteToken
  | .settlement _ nextRoute => nextRoute
  | .readyForPolicy _ nextRoute => nextRoute
  | _ => none

/-- Everything that is checked between the return of a plan and its finalizer. -/
def checkOutcome (route : RouteToken) (ticket : ExecutionTicket) (reconciling : Bool)
    (outcome : Outcome) : Except Failure Unit := do
  checkKind ticket outcome
  if ticket.stopBlockedAfterEffect && !reconciling then
    throw (.stopPendingTeardown "A stopped plan cannot settle after blocking remote work")
  if ticket.outstanding then
    throw (.outcomeUnknown "Settlement cannot discard an unretired capability")
  match Outcome.nextRoute outcome with
  | none => pure ()
  | some next =>
      if !advances route next then
        throw (.staleRoute "Settlement cannot reverse or repeat the current route")

/-- The plan returned; the finalizer is called, or the worker goes on to its conclusion. -/
def planReturned (id : TicketId) (reconciling : Bool) (outcome : Outcome) :
    RdbgArbiter × List Signal :=
  match checkOutcome arbiter.route (arbiter.tickets id) reconciling outcome with
  | .error failure =>
      ({ arbiter with worker := .concluding id reconciling (.raised failure) }, [])
  | .ok () =>
      match outcome with
      | .readyForPolicy _ nextRoute =>
          ({ arbiter.update id fun ticket => { ticket with finalizerStarted := true } with
            worker := .finalizing id reconciling nextRoute [] }, [.finalizerCalled id])
      | .settlement value nextRoute =>
          ({ arbiter with
            worker := .concluding id reconciling (.settlement value nextRoute) }, [])
      | .confirmedFailure (some error) =>
          ({ arbiter with worker := .concluding id reconciling (.confirmedFailure error) }, [])
      -- Refused by the check above.
      | _ => (arbiter, [])

/-! ## Conclusions -/

/-- The slot is given up. -/
def release : RdbgArbiter := { arbiter with active := none, worker := .waiting }

/-- A cleanup that the plan registered is queued. -/
def queueRegistered (id : TicketId) : Option Plan → RdbgArbiter
  | some plan => arbiter.queueCleanup id plan
  | none => arbiter

/-- The `except` branch: the outcome is unknown, or nothing is outstanding and it settles. -/
def concludeRaised (id : TicketId) (reconciling : Bool) (error : Failure) : RdbgArbiter :=
  let ticket := arbiter.tickets id
  if reconciling || ticket.outstanding || ticket.finalizerStarted || error.outcomeIsUnknown then
    let retained := arbiter.update id fun ticket =>
      { ticket with
        phase := .unknown
        error := some error }
    { retained.scheduleAutoStop setup sight id with worker := .waiting }
  else
    let queued := arbiter.queueRegistered id ticket.postSettlementCleanupPlan
    let settled := queued.settle id none (some error)
    if ticket.owesCapability then { settled with worker := .crashed }
    else
      { settled.release with
        cleanupDebt :=
          match ticket.postSettlementParent with
          | some parent => some parent
          | none => arbiter.cleanupDebt }

/-- The `else` branch. -/
def concludeReturned (id : TicketId) (nextRoute : Option RouteToken) (value : Option Value)
    (error : Option Failure) : RdbgArbiter :=
  let ticket := arbiter.tickets id
  let routed := { arbiter with route := nextRoute.getD arbiter.route }
  let settled := routed.settle id value error
  if ticket.owesCapability then { settled with worker := .crashed }
  else
    let queued := settled.queueRegistered id ticket.postSettlementCleanupPlan
    { queued.release with
      cleanupDebt :=
        if ticket.postSettlementParent = arbiter.cleanupDebt then none else arbiter.cleanupDebt }

def conclude (id : TicketId) (reconciling : Bool) : Conclusion → RdbgArbiter
  | .raised error => arbiter.concludeRaised setup sight id reconciling error
  | .confirmedFailure error => arbiter.concludeReturned id none none (some error)
  | .settlement value nextRoute => arbiter.concludeReturned id nextRoute (some value) none

/-! ## Teardown attempts -/

/-- What the attempt brings back from outside: an absence or an exit, or nothing. -/
inductive Proof where
  | unproven
  | absent (absence : BoundServerTargetAbsence)
  | exited (pid : Int)
  deriving DecidableEq

/-- `terminate_server_target` and `terminate_file_target`, once the command went out. -/
def terminate (attempt : TeardownAttempt) : Proof → Option TerminationEvidence
  | .unproven => none
  | .absent absence =>
      if attempt.backend = .server ∧ absenceMatches setup attempt.expectedTarget absence then
        some (.server attempt.expectedTarget absence)
      else none
  | .exited pid =>
      if attempt.backend = .file then some (.file attempt.expectedTarget pid) else none

def freeSlot : Backend → RdbgArbiter
  | .server => { arbiter with serverTeardown := none }
  | .file => { arbiter with fileTeardown := none }

/-- The closing section of `_run_server_teardown` and of `_run_file_teardown`. -/
def tornDown (attempt : TeardownAttempt) (evidence : Option TerminationEvidence) : RdbgArbiter :=
  let freed := { arbiter.freeSlot attempt.backend with worker := .waiting }
  match evidence with
  | none => freed
  | some evidence =>
      match freed.checkTermination setup sight attempt.ticket freed.route evidence with
      | .ok () => freed.retire attempt.ticket evidence
      -- A mismatch is reported as unknown; `ArbiterBusy` is not caught.
      | .error (.valueError _) => freed
      | .error _ => { freed with worker := .crashed }

end RdbgArbiter

end OnecRuntime.Arbiter
