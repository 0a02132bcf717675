import OnecRuntime.Arbiter.State

/-!
# Client calls

Each call is one section under the mailbox and gives back the arbiter with its answer.
-/

namespace OnecRuntime.Arbiter

/-- How `receipt.adopt(ticket)` goes, when there is a receipt. -/
inductive Adoption where
  | adopted
  | raised (exception : Nat)

/-- What `_check_ticket` raises for a ticket of another arbiter. -/
def foreignTicket : Failure := .valueError "Ticket belongs to a different arbiter"

namespace RdbgArbiter

variable (setup : Setup) (sight : Sight) (arbiter : RdbgArbiter)

/-- `self._active is not None and self._active._stop_requested` -/
def stopFenced : Bool :=
  match arbiter.active with
  | some id => (arbiter.tickets id).stopRequested
  | none => false

def submit (route : RouteToken) (plan : Plan) (finalizer : Bool) (adoption : Adoption) :
    RdbgArbiter × Reply :=
  if arbiter.closed || arbiter.closing then
    (arbiter, .raised (.runtimeError "Arbiter is closed"))
  else if arbiter.stopFenced then
    (arbiter, .raised (.arbiterBusy "Stop is requested for the active operation"))
  else if route ≠ arbiter.route then (arbiter, .raised (.staleRoute ""))
  else
    let id := arbiter.admitted
    let admitted := arbiter.create (.new route plan finalizer)
    match adoption with
    | .adopted => ({ admitted with queue := admitted.queue ++ [id] }, .ticket id)
    -- The ticket is taken from the queue again before the mailbox is released.
    | .raised exception =>
        (admitted.settle id none (some .cancelledBeforeEffect), .raised (.raised exception))

/-- The plan of a keepalive, `lambda port: Settlement(port.heartbeat())`. -/
def heartbeatPlan : Plan := 0

def tryHeartbeat : RdbgArbiter × Reply :=
  if arbiter.closed || arbiter.closing || arbiter.active.isSome || !arbiter.queue.isEmpty ||
      arbiter.reconciliation.isSome || arbiter.serverTeardown.isSome then
    (arbiter, .noTicket)
  else
    let id := arbiter.admitted
    let admitted := arbiter.create
      { ExecutionTicket.new arbiter.route heartbeatPlan false with ready := true }
    ({ admitted with idleHeartbeat := some id, queue := admitted.queue ++ [id] }, .ticket id)

def dispatch (id : TicketId) : RdbgArbiter × Reply :=
  if (arbiter.tickets id).phase ≠ .queued then
    (arbiter, .raised (.runtimeError "Ticket is no longer queued"))
  else (arbiter.update id fun ticket => { ticket with ready := true }, .done)

/-- `ExecutionTicket.cancel_queued` -/
def cancelQueued (id : TicketId) : RdbgArbiter × Reply :=
  if (arbiter.tickets id).phase ≠ .queued then (arbiter, .cancelled false)
  else (arbiter.cancel id, .cancelled true)

/-- The new cleanup goes before everything that already waits. -/
def queueCleanup (parent : TicketId) (plan : Plan) : RdbgArbiter :=
  let id := arbiter.admitted
  let admitted := arbiter.create
    { ExecutionTicket.new arbiter.route plan false with
      ready := true
      postSettlementParent := some parent }
  { admitted.update parent fun ticket => { ticket with postSettlementCleanup := some id } with
    queue := id :: admitted.queue }

def retryPostSettlementCleanup (id : TicketId) : RdbgArbiter × Reply :=
  let ticket := arbiter.tickets id
  let refused := Reply.raised (.arbiterBusy "Cleanup is not a confirmed retryable failure")
  match ticket.postSettlementCleanupPlan, ticket.postSettlementCleanup with
  | some plan, some previous =>
      if (arbiter.tickets previous).phase ≠ .settled || (arbiter.tickets previous).error.isNone ||
          arbiter.cleanupDebt ≠ some id then (arbiter, refused)
      else if arbiter.closed || arbiter.active.isSome then
        (arbiter, .raised (.arbiterBusy "Cleanup retry requires an idle arbiter"))
      else (arbiter.queueCleanup id plan, .ticket arbiter.admitted)
  | _, _ => (arbiter, refused)

/-! ## Teardown -/

/-- `_exact_server_stop_target_locked` -/
def exactServerStopTarget (id : TicketId) : Option TargetId :=
  match (arbiter.tickets id).addressed, sight.target with
  | some expected, some selected =>
      if expected.seanceId.isNone || selected.targetId ≠ expected ||
          selected.targetType ≠ "Server" then none
      else some expected
  | _, _ => none

/-- `_exact_file_stop_target_locked` -/
def exactFileStopTarget (id : TicketId) (lease : FileTargetProcessLease) : Bool :=
  (arbiter.tickets id).addressed = some lease.expectedTarget &&
    match sight.target with
    | some selected =>
        selected.targetId = lease.expectedTarget && selected.targetType = "ServerEmulation" &&
          sight.pid = lease.pid
    | none => false

/-- The attempt is remembered in the slot of its backend and in the ticket. -/
def schedule (attempt : TeardownAttempt) : RdbgArbiter :=
  match attempt.backend with
  | .server =>
      { arbiter.update attempt.ticket fun ticket =>
          { ticket with serverTerminationAttempted := true, stopTeardown := some attempt } with
        serverTeardown := some attempt }
  | .file =>
      { arbiter.update attempt.ticket fun ticket =>
          { ticket with fileTerminationAttempted := true, stopTeardown := some attempt } with
        fileTeardown := some attempt }

def serverAttempt (id : TicketId) (expected : TargetId) : TeardownAttempt where
  backend := .server
  ticket := id
  expectedTarget := expected
  requestTermination := !(arbiter.tickets id).serverTerminationAttempted

def fileAttempt (id : TicketId) (lease : FileTargetProcessLease) : TeardownAttempt where
  backend := .file
  ticket := id
  expectedTarget := lease.expectedTarget
  requestTermination := !(arbiter.tickets id).fileTerminationAttempted

/-- The guard that `_schedule_auto_server_stop_locked` and its sibling share. -/
def teardownDue (id : TicketId) : Bool :=
  (arbiter.tickets id).stopRequested && (arbiter.tickets id).phase = .unknown &&
    arbiter.active = some id && arbiter.reconciliation.isNone && arbiter.serverTeardown.isNone &&
    arbiter.fileTeardown.isNone

def scheduleAutoServerStop (id : TicketId) : RdbgArbiter :=
  if arbiter.teardownDue id then
    match arbiter.exactServerStopTarget sight id with
    | some expected => arbiter.schedule (arbiter.serverAttempt id expected)
    | none => arbiter
  else arbiter

def scheduleAutoFileStop (id : TicketId) : RdbgArbiter :=
  match setup.fileTargetLease with
  | some lease =>
      if arbiter.teardownDue id && arbiter.exactFileStopTarget sight id lease then
        arbiter.schedule (arbiter.fileAttempt id lease)
      else arbiter
  | none => arbiter

def scheduleAutoStop (id : TicketId) : RdbgArbiter :=
  (arbiter.scheduleAutoServerStop sight id).scheduleAutoFileStop setup sight id

def requestStop (id : TicketId) : RdbgArbiter × Reply :=
  match (arbiter.tickets id).phase with
  | .settled => (arbiter, .stop .alreadySettled)
  | .queued => (arbiter.cancel id, .stop .cancelledBeforeEffect)
  | _ =>
      if arbiter.active ≠ some id then
        (arbiter, .raised (.arbiterBusy "Stop requires the active operation"))
      else if (arbiter.tickets id).stopRequested then
        (arbiter.scheduleAutoStop setup sight id, .stop .requested)
      else
        let stopped := arbiter.update id fun ticket => { ticket with stopRequested := true }
        (stopped.drain.scheduleAutoStop setup sight id, .stop .requested)

/-- The owner whose outcome is unknown and about whom nothing is scheduled. -/
def unknownOwner (id : TicketId) : Bool :=
  arbiter.active = some id && (arbiter.tickets id).phase = .unknown &&
    arbiter.reconciliation.isNone && arbiter.serverTeardown.isNone && arbiter.fileTeardown.isNone

def reconcile (id : TicketId) (plan : Plan) : RdbgArbiter × Reply :=
  if !arbiter.unknownOwner id then
    (arbiter, .raised (.arbiterBusy "Reconciliation requires the unknown owner"))
  else
    ({ arbiter.update id fun ticket => { ticket with phase := .reconciling } with
      reconciliation := some plan }, .done)

/-- Unlike its sibling it does not look at `_file_teardown`. -/
def teardownFencedServerTarget (id : TicketId) (route : RouteToken) (graceValid : Bool) :
    RdbgArbiter × Reply :=
  if !graceValid then
    (arbiter, .raised (.valueError "grace_s must be finite and non-negative"))
  else if arbiter.admitted ≤ id then (arbiter, .raised foreignTicket)
  else if route ≠ arbiter.route then
    (arbiter, .raised (.staleRoute "Server teardown belongs to another route"))
  else if arbiter.active ≠ some id || (arbiter.tickets id).phase ≠ .unknown ||
      !(arbiter.tickets id).stopRequested || arbiter.reconciliation.isSome ||
      arbiter.serverTeardown.isSome then
    (arbiter, .raised (.arbiterBusy "Server teardown requires the fenced unknown owner"))
  else
    match arbiter.exactServerStopTarget sight id with
    | none =>
        (arbiter,
          .raised (.valueError "Server teardown requires the exact selected server target"))
    | some expected =>
        let attempt := arbiter.serverAttempt id expected
        (arbiter.schedule attempt, .attempt attempt)

def teardownFencedFileTarget (id : TicketId) (route : RouteToken) (graceValid : Bool) :
    RdbgArbiter × Reply :=
  if !graceValid then
    (arbiter, .raised (.valueError "grace_s must be finite and non-negative"))
  else if arbiter.admitted ≤ id then (arbiter, .raised foreignTicket)
  else if route ≠ arbiter.route then
    (arbiter, .raised (.staleRoute "File teardown belongs to another route"))
  else if !arbiter.unknownOwner id || !(arbiter.tickets id).stopRequested then
    (arbiter, .raised (.arbiterBusy "File teardown requires the fenced unknown owner"))
  else
    let refused :=
      Reply.raised (.valueError "File teardown requires the exact selected file target")
    match setup.fileTargetLease with
    | none => (arbiter, refused)
    | some lease =>
        if !arbiter.exactFileStopTarget sight id lease then (arbiter, refused)
        else
          let attempt := arbiter.fileAttempt id lease
          (arbiter.schedule attempt, .attempt attempt)

/-- The absence that both `terminate_server_target` and `retire_terminated_target` accept. -/
def absenceMatches (expected : TargetId) (absence : BoundServerTargetAbsence) : Bool :=
  absence.expectedTarget = expected &&
    setup.casefold absence.boundClient.infobaseAlias = setup.casefold expected.infobaseAlias &&
    absence.boundClient.seanceId = expected.seanceId &&
    (absence.boundClient.infobaseInstanceId.isNone || expected.infobaseInstanceId.isNone ||
      absence.boundClient.infobaseInstanceId = expected.infobaseInstanceId)

/-- The checks of `retire_terminated_target`, in order. -/
def checkTermination (id : TicketId) (route : RouteToken) (evidence : TerminationEvidence) :
    Except Failure Unit :=
  if !arbiter.unknownOwner id then
    .error (.arbiterBusy "Target retirement requires the unknown owner")
  else if route ≠ arbiter.route then
    .error (.staleRoute "Termination evidence belongs to another route")
  else if (arbiter.tickets id).addressed ≠ some evidence.expectedTarget then
    .error (.valueError "Termination evidence belongs to another target")
  else
    match evidence with
    | .server expected absence =>
        if setup.fileTargetLease.isSome ||
            arbiter.exactServerStopTarget sight id ≠ some expected then
          .error (.valueError ("Server termination proof requires the current bound server " ++
            "backend and exact selected target"))
        else if !absenceMatches setup expected absence then
          .error (.valueError "server absence evidence belongs to another target")
        else .ok ()
    | .file _ pid =>
        let refused := Failure.valueError
          "File termination proof requires the exact selected file process lease"
        match setup.fileTargetLease with
        | none => .error refused
        | some lease =>
            if !arbiter.exactFileStopTarget sight id lease || pid ≠ lease.pid then .error refused
            else .ok ()

/-- What `retire_terminated_target` does once its checks passed. -/
def retire (id : TicketId) (evidence : TerminationEvidence) : RdbgArbiter :=
  let emptied := { arbiter with targetTermination := some evidence, closed := true }.drain
  { (emptied.update id .dropCapabilities).settle id none (some (.targetTerminated evidence)) with
    active := none }

def retireTerminatedTarget (id : TicketId) (route : RouteToken) (evidence : TerminationEvidence) :
    RdbgArbiter × Reply :=
  match arbiter.checkTermination setup sight id route evidence with
  | .error failure => (arbiter, .raised failure)
  | .ok () => (arbiter.retire id evidence, .done)

end RdbgArbiter

end OnecRuntime.Arbiter
