import OnecRuntime.Library.Sorting
import OnecRuntime.Library.Transitions
import OnecRuntime.Materialization.Executor

/-!
# The tickets of one stop

Transfers, retries of a rejected deletion and a resume are tickets of the arbiter, whose worker
runs one of them at a time, one instruction a step.  Callers submit under the lock of the
controller.  A resume looks at the cleanup debts first and reserves the stop in the evaluation
ledger afterwards; the worker takes no lock of the controller and may run in between.
-/

namespace OnecRuntime.Materialization

open OnecRuntime.Library

inductive Work where
  | transfer (plan : Plan)
  | retry (key : Text)
  | resume
deriving DecidableEq, Repr

/-- A ticket; its number stands for the receipt of its ledger record too. -/
structure Ticket where
  number : Nat
  work : Work
deriving DecidableEq, Repr

namespace Work

def script (scope : Scope) : Work → Transfer Conclusion
  | transfer plan => materializationPlan scope plan
  | retry key => retryConfirmedCleanup scope key
  | resume => resumption

/-- The temporary key that the work is about. -/
def key : Work → Option Text
  | transfer plan => some plan.privateKey
  | retry key => some key
  | resume => none

end Work

/-! ## The end of a plan -/

/-- The question retires the record of the ticket. -/
def Question.reports : Question → Bool
  | .fail _ | .complete => true
  | _ => false

/-- Whether the ticket holds an unretired capability after a step on the session. -/
def leaves : (question : Question) → Answer question → Option Bool
  | .shieldWorkspace, .done | .restoreWorkspace, .done | .resume, .done => some false
  | .shieldWorkspace, .raised _ retained | .restoreWorkspace, .raised _ retained
  | .resume, .raised _ retained => some retained
  | .evaluate _, .returned _ => some false
  | .evaluate _, .suspended => some true
  | .evaluate _, .raised _ retained => some retained
  | _, _ => none

def retained (log : Log) : Bool :=
  (log.findSome? fun exchange => leaves exchange.question exchange.answer).getD false

def finalizerStarted (log : Log) : Bool := log.any fun exchange => exchange.question = .complete

/-- The ticket settles; otherwise the arbiter keeps it with its outcome unknown. -/
def settles (log : Log) : Except Problem Conclusion → Bool
  | .ok _ => !retained log
  | .error problem => !(retained log || finalizerStarted log || problem.outcomeUnknown)

inductive Worker where
  | idle
  | running (ticket : Ticket) (script : Program Keys Answer (Except Problem Conclusion)) (log : Log)
  | stuck (ticket : Ticket) (log : Log)

/-- The ticket of the worker with what its plan asked and was answered. -/
def Worker.held : Worker → Option (Ticket × Log)
  | idle => none
  | running ticket _ log | stuck ticket log => some (ticket, log)

structure Stop where
  scope : Scope
  keys : Keys
  /-- `_active_id` and `_resuming` of the evaluation ledger. -/
  active : Option Nat
  resuming : Bool
  queue : List Ticket
  worker : Worker
  admitted : Nat
  /-- `_resume_ticket` of the controller. -/
  resumeTicket : Option Nat
  /-- A resume found no debt and holds the lock of the controller. -/
  checked : Bool
  closed : Bool

inductive Event where
  | admitted (ticket : Ticket)
  | refused (message : String)
  | settled (ticket : Ticket) (result : Except Problem Conclusion)
  | cancelled (ticket : Ticket)
  | kept (ticket : Ticket)

namespace Stop

/-- A stop right after its setup. -/
def opened (scope : Scope) : Stop :=
  ⟨scope, .empty, none, false, [], .idle, 0, none, false, false⟩

/-- `temporary_cleanup_debts`. -/
def debts (stop : Stop) : List (Text × CleanupState) :=
  (sortedBy Prod.fst stop.keys.entries).filter fun entry => entry.2 ≠ .live

def unsettled (stop : Stop) (number : Nat) : Bool :=
  stop.queue.any (fun ticket => ticket.number = number) ||
    stop.worker.held.any fun held => held.1.number = number

/-- `_resume_in_flight`. -/
def resumeInFlight (stop : Stop) : Bool := stop.resumeTicket.any stop.unsettled

def refuse (stop : Stop) (message : String) : Stop × List Event := (stop, [.refused message])

/-- The arbiter takes a ticket into its queue. -/
def enqueue (stop : Stop) (work : Work) : Stop × List Event :=
  ({ stop with queue := stop.queue ++ [⟨stop.admitted, work⟩], admitted := stop.admitted + 1 },
    [.admitted ⟨stop.admitted, work⟩])

/-- `submit_capture_materialization`; an arbiter that refuses the ticket discards the record that
was begun for it. -/
def submitCaptureMaterialization (stop : Stop) (plan : Plan) (refusal : Option String) :
    Stop × List Event :=
  if stop.resumeInFlight then stop.refuse "CAPTURE resume has already been admitted"
  else if stop.scope.contextReady = false then stop.refuse "No ready CAPTURE stop is available"
  else if stop.active ≠ none then stop.refuse "CAPTURE evaluation is already active"
  else
    match refusal with
    | some message => stop.refuse message
    | none => { stop with active := some stop.admitted }.enqueue (.transfer plan)

def submitCaptureCleanupRetry (stop : Stop) (key : Text) (refusal : Option String) :
    Stop × List Event :=
  if stop.resumeInFlight then stop.refuse "CAPTURE resume has already been admitted"
  else if stop.scope.contextReady = false then stop.refuse "No ready CAPTURE stop is available"
  else if (key, .confirmedFailure) ∉ stop.debts then
    stop.refuse "No confirmed CAPTURE cleanup failure can be retried"
  else
    match refusal with
    | some message => stop.refuse message
    | none => stop.enqueue (.retry key)

/-- `submit_resume` up to its look at the debts. -/
def checkResume (stop : Stop) : Stop × List Event :=
  if stop.resumeInFlight then stop.refuse "CAPTURE resume has already been admitted"
  else if stop.scope.contextReady = false then
    stop.refuse "No ready CAPTURE stop can be resumed"
  else if stop.debts ≠ [] then
    stop.refuse "CAPTURE temporary cleanup debt requires repair"
  else ({ stop with checked := true }, [])

/-- `submit_resume` from `mark_resuming` on.  A refusal is one of the checks of the roots and the
successor points, or the arbiter's, after which the reservation is discarded. -/
def reserveResume (stop : Stop) (refusal : Option String) : Stop × List Event :=
  let stop := { stop with checked := false }
  if stop.active ≠ none then stop.refuse "CAPTURE evaluation prevents resume"
  else
    match refusal with
    | some message => stop.refuse message
    | none =>
        { stop with resuming := true, resumeTicket := some stop.admitted }.enqueue .resume

/-- The evaluation ledger retires a record. -/
def retire (stop : Stop) (receipt : Nat) : Except String Stop :=
  if stop.active = some receipt then .ok { stop with active := none }
  else .error "CAPTURE evaluation receipt is not active"

def ledger (stop : Stop) (receipt : Nat) : Except String Unit × Stop :=
  match stop.retire receipt with
  | .ok next => (.ok (), next)
  | .error message => (.error message, stop)

/-- An answer, which the ledger gives for its records and the environment for the rest. -/
def reply (stop : Stop) (receipt : Nat) (answers : (question : Question) → Answer question) :
    (question : Question) → Answer question × Stop
  | .fail _ | .complete => stop.ledger receipt
  | question => (answers question, stop)

/-- One instruction of the plan that the worker runs. -/
def work (stop : Stop) (answers : (question : Question) → Answer question) :
    Option (Stop × List Event) :=
  match stop.worker with
  | .running ticket (.finish result) log =>
      if settles log result then
        some ({ stop with
          worker := .idle
          closed := stop.closed || (ticket.work = .resume && result matches .ok _) },
          [.settled ticket result])
      else some ({ stop with worker := .stuck ticket log }, [.kept ticket])
  | .running ticket (.look next) log =>
      some ({ stop with worker := .running ticket (next stop.keys) log }, [])
  | .running ticket (.update change next) log =>
      some ({ stop with keys := change stop.keys, worker := .running ticket next log }, [])
  | .running ticket (.ask question next) log =>
      let (answer, replied) := stop.reply ticket.number answers question
      some ({ replied with worker := .running ticket (next answer) (⟨question, answer⟩ :: log) },
        [])
  | _ => none

def take (stop : Stop) : Option (Stop × List Event) :=
  match stop.worker, stop.queue with
  | .idle, ticket :: rest =>
      some ({ stop with
        queue := rest, worker := .running ticket (ticket.work.script stop.scope).run [] }, [])
  | _, _ => none

/-- `cancel_queued`, or a stop request for a queued ticket. -/
def cancel (stop : Stop) (ticket : Ticket) : Option (Stop × List Event) :=
  if ticket ∈ stop.queue then
    some ({ stop with queue := stop.queue.filter (· ≠ ticket) }, [.cancelled ticket])
  else none

/-- `_observe_capture_ticket` retires the record of a settled ticket that nobody retired. -/
def observe (stop : Stop) (receipt : Nat) : Option (Stop × List Event) :=
  if receipt < stop.admitted ∧ stop.unsettled receipt = false then
    match stop.retire receipt with
    | .ok next => some (next, [])
    | .error _ => some (stop, [])
  else none

inductive Action where
  | submitCaptureMaterialization (plan : Plan) (refusal : Option String)
  | submitCaptureCleanupRetry (key : Text) (refusal : Option String)
  | checkResume
  | reserveResume (refusal : Option String)
  | take
  | work (answers : (question : Question) → Answer question)
  | cancel (ticket : Ticket)
  | observe (receipt : Nat)

/-- Callers submit one after another, under the lock; nothing happens at a closed stop. -/
def step (stop : Stop) (action : Action) : Option (Stop × List Event) :=
  if stop.closed then none
  else
    match action with
    | .submitCaptureMaterialization plan refusal =>
        if stop.checked then none else some (stop.submitCaptureMaterialization plan refusal)
    | .submitCaptureCleanupRetry key refusal =>
        if stop.checked then none else some (stop.submitCaptureCleanupRetry key refusal)
    | .checkResume => if stop.checked then none else some stop.checkResume
    | .reserveResume refusal => if stop.checked then some (stop.reserveResume refusal) else none
    | .take => stop.take
    | .work answers => stop.work answers
    | .cancel ticket => stop.cancel ticket
    | .observe receipt => stop.observe receipt

/-- The worker is about to retire the record of its ticket. -/
def publishes (stop : Stop) : Bool :=
  match stop.worker with
  | .running _ (.ask question _) _ => question.reports
  | _ => false

/-- No record is retired over a debt while a resume stands between its look at the debts and its
reservation. -/
def quiet (stop : Stop) : Action → Bool
  | .work _ => !(stop.checked && stop.publishes) || stop.debts.isEmpty
  | _ => true

def Stepped (stop : Stop) (action : Action) (next : Stop) (emitted : List Event) : Prop :=
  stop.step action = some (next, emitted)

end Stop

end OnecRuntime.Materialization
