import OnecRuntime.Arbiter.Port
import OnecRuntime.Library.Transitions

/-!
# Closing

`close()` takes the mailbox, and takes it again each time its wait is over. Every pass
either raises, waits, or sets `_closed` and leaves to join the worker.
-/

namespace OnecRuntime.Arbiter

namespace RdbgArbiter

variable (arbiter : RdbgArbiter)

/-- `_closing` is cleared and the worker is joined. -/
def leaveMailbox : RdbgArbiter :=
  { arbiter with
    closer := none
    joiners := arbiter.joiners + 1 }

def closeRaises (text : String) : RdbgArbiter × List Signal :=
  ({ arbiter with closer := none }, [.closeRaised (.arbiterBusy text)])

/-- The user tickets ahead of the first dependent cleanup are cancelled. -/
def cancelUserHeads : RdbgArbiter :=
  let heads := arbiter.queue.takeWhile fun id => !(arbiter.tickets id).dependent
  { arbiter.cancelAll heads with
    queue := arbiter.queue.dropWhile fun id => !(arbiter.tickets id).dependent }

/-- The body of the loop, from the mailbox to the next wait or to the end of the call. -/
def closePass : RdbgArbiter × List Signal :=
  if arbiter.closed then (arbiter.leaveMailbox, [])
  else
    match arbiter.active with
    | some id =>
        if !(arbiter.tickets id).dependent then
          arbiter.closeRaises "Reconcile or confirm target teardown before closing"
        else if (arbiter.tickets id).phase = .unknown then
          arbiter.closeRaises "Dependent cleanup outcome unknown"
        else ({ arbiter with closer := some (.awaitingCleanup id) }, [])
    | none =>
        if arbiter.cleanupDebt.isSome then
          arbiter.closeRaises "Confirmed cleanup debt requires retry"
        else
          match arbiter.cancelUserHeads.queue with
          | cleanup :: _ =>
              ({ arbiter.cancelUserHeads with closer := some (.awaitingStart cleanup) }, [])
          | [] => ({ arbiter with closed := true }.drain.leaveMailbox, [])

/-- What `close()` waits for has come. -/
def closeDue : Bool :=
  match arbiter.closer with
  | none => false
  | some (.awaitingCleanup id) =>
      arbiter.active ≠ some id || (arbiter.tickets id).phase = .unknown
  | some (.awaitingStart cleanup) => arbiter.active.isSome || arbiter.queue.head? ≠ some cleanup

/-- The call, by the worker itself or by any other thread. -/
def close (byWorker : Bool) : RdbgArbiter × List Signal :=
  if arbiter.closing || byWorker then
    (arbiter, [.replied none (.raised (.arbiterBusy "Arbiter close is already in progress"))])
  else arbiter.closePass

/-- The wait is over and the mailbox is taken again. -/
def closeWakes : Option (RdbgArbiter × List Signal) :=
  if arbiter.closeDue then some arbiter.closePass else none

/-- The worker has ended and `close()` returns. -/
def closeReturns : Option (RdbgArbiter × List Signal) :=
  if arbiter.joiners = 0 || !arbiter.worker.dead then none
  else some ({ arbiter with joiners := arbiter.joiners - 1 }, [.closeReturned])

/-- The timeout of `close()` is over while the worker lives. -/
def closeTimesOut : Option (RdbgArbiter × List Signal) :=
  if arbiter.joiners = 0 || arbiter.worker.dead then none
  else
    some ({ arbiter with joiners := arbiter.joiners - 1 },
      [.closeRaised (.timeoutError "Arbiter worker did not exit")])

end RdbgArbiter

end OnecRuntime.Arbiter

/-!
# Steps of the arbiter

Any thread may take the mailbox next. A step is one section with everything that plans,
sessions, finalizers and the outside contribute to it.
-/

namespace OnecRuntime.Arbiter

open OnecRuntime.Library

inductive Action where
  | submit (route : RouteToken) (plan : Plan) (finalizer : Bool) (adoption : Adoption)
  | tryHeartbeat
  | dispatch (ticket : TicketId)
  | cancelQueued (ticket : TicketId)
  | retryPostSettlementCleanup (ticket : TicketId)
  | requestStop (ticket : TicketId)
  | reconcile (ticket : TicketId) (plan : Plan)
  | teardownFencedServerTarget (ticket : TicketId) (route : RouteToken) (graceValid : Bool)
  | teardownFencedFileTarget (ticket : TicketId) (route : RouteToken) (graceValid : Bool)
  | retireTerminatedTarget (ticket : TicketId) (route : RouteToken)
      (evidence : TerminationEvidence)
  | close (byWorker : Bool)
  | closeWakes
  | closeReturns
  | closeTimesOut
  | take
  | port (action : PortAction)
  | planReturned (outcome : Outcome)
  | planRaised (error : Failure)
  | finalizerReturned (value : Value)
  | finalizerRaised (error : Failure)
  | conclude
  | tornDown (proof : RdbgArbiter.Proof)

namespace RdbgArbiter

/-- A client call, which its caller sees answered. -/
def answered (ticket : Option TicketId) (result : RdbgArbiter × Reply) :
    Option (RdbgArbiter × List Signal) :=
  some (result.1, [.replied ticket result.2])

/-- A call that begins with `_check_ticket`. -/
def answeredFor (arbiter : RdbgArbiter) (id : TicketId) (result : RdbgArbiter × Reply) :
    Option (RdbgArbiter × List Signal) :=
  answered (some id) (if id < arbiter.admitted then result else (arbiter, .raised foreignTicket))

/-- What a thread does in the mailbox, or outside it on the worker; `none` where it cannot. -/
def step (setup : Setup) (sight : Sight) (arbiter : RdbgArbiter) :
    Action → Option (RdbgArbiter × List Signal)
  | .submit route plan finalizer adoption =>
      answered none (arbiter.submit route plan finalizer adoption)
  | .tryHeartbeat => answered none arbiter.tryHeartbeat
  | .dispatch id => arbiter.answeredFor id (arbiter.dispatch id)
  -- A method of the ticket itself, so of one of this arbiter.
  | .cancelQueued id =>
      if id < arbiter.admitted then answered (some id) (arbiter.cancelQueued id) else none
  | .retryPostSettlementCleanup id =>
      arbiter.answeredFor id (arbiter.retryPostSettlementCleanup id)
  | .requestStop id => arbiter.answeredFor id (arbiter.requestStop setup sight id)
  | .reconcile id plan => arbiter.answeredFor id (arbiter.reconcile id plan)
  | .teardownFencedServerTarget id route graceValid =>
      answered (some id) (arbiter.teardownFencedServerTarget sight id route graceValid)
  | .teardownFencedFileTarget id route graceValid =>
      answered (some id) (arbiter.teardownFencedFileTarget setup sight id route graceValid)
  | .retireTerminatedTarget id route evidence =>
      arbiter.answeredFor id (arbiter.retireTerminatedTarget setup sight id route evidence)
  | .close byWorker => some (arbiter.close byWorker)
  | .closeWakes => arbiter.closeWakes
  | .closeReturns => arbiter.closeReturns
  | .closeTimesOut => arbiter.closeTimesOut
  | .take => arbiter.take setup sight
  | .port action =>
      match arbiter.worker.port with
      | some (id, calls) => arbiter.port sight id calls action
      | none => none
  | .planReturned outcome =>
      match arbiter.worker with
      | .planning id reconciling [] => some (arbiter.planReturned id reconciling outcome)
      | _ => none
  | .planRaised error =>
      match arbiter.worker with
      | .planning id reconciling [] =>
          some ({ arbiter with worker := .concluding id reconciling (.raised error) }, [])
      | _ => none
  | .finalizerReturned value =>
      match arbiter.worker with
      | .finalizing id reconciling nextRoute [] =>
          some ({ arbiter with
            worker := .concluding id reconciling (.settlement value nextRoute) }, [])
      | _ => none
  | .finalizerRaised error =>
      match arbiter.worker with
      | .finalizing id reconciling _ [] =>
          some ({ arbiter with worker := .concluding id reconciling (.raised error) }, [])
      | _ => none
  | .conclude =>
      match arbiter.worker with
      | .concluding id reconciling conclusion =>
          some (arbiter.conclude setup sight id reconciling conclusion, [])
      | _ => none
  | .tornDown proof =>
      match arbiter.worker with
      | .tearing attempt =>
          some (arbiter.tornDown setup sight attempt (terminate setup attempt proof), [])
      | _ => none

/-- A step with what its section saw outside. -/
def Stepped (setup : Setup) (arbiter : RdbgArbiter) (taken : Action × Sight) (next : RdbgArbiter)
    (emitted : List Signal) : Prop :=
  arbiter.step setup taken.2 taken.1 = some (next, emitted)

end RdbgArbiter

end OnecRuntime.Arbiter
