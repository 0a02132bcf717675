import OnecRuntime.Library.Dictionary
import OnecRuntime.Library.Fallible
import OnecRuntime.Library.Utf16
import OnecRuntime.Main.Executor

/-!
# Publication records

What the settlement of a route reads: the operation of a MAIN command and the scope
of a CAPTURE stop, both of which change between two calls, the prepared payload of a
cell, and the record that is kept until the terminal reply. Objects that the source
compares by identity carry a number.
-/

namespace OnecRuntime.Settlement

open OnecRuntime.Library
open OnecRuntime.Main

/-- The values that a reply carries without looking into them. -/
structure Contents where
  Value : Type
  Scalar : Type
  Diagnostic : Type
  Source : Type
  Visible : Type
  Pins : Type
  Location : Type
  Target : Type
  /-- `evaluation_to_python`: the decoded value, where `None` is one. -/
  evaluationToPython : Scalar → Except Unit (Option Value)
  /-- `normalize_platform_diagnostic_trace`; nothing when it raises. -/
  normalize : CodeText → Option Source → Option Visible → Pins → Option Diagnostic
  casefold : CodeText → CodeText

structure CaptureCorrelationTicket where
  ticketId : CodeText
  expectedOperationId : Nat
  expectedStopSequence : Nat
deriving DecidableEq

structure StopEvent (contents : Contents) where
  ref : Nat
  location : contents.Location

structure MainRemoteCompletion (contents : Contents) where
  result : Option contents.Value
  error : CodeText
  messages : List CodeText

abbrev RouteMainOperation (contents : Contents) :=
  MainOperation contents.Target (StopEvent contents) (MainRemoteCompletion contents)

inductive CaptureFrameIdentity where
  | unverified
  | confirmed
  | released
  | lost
deriving DecidableEq, Repr

inductive CaptureContextState where
  | opening
  | ready
  | setupFailed
  | closing
  | closed
deriving DecidableEq, Repr

structure CaptureStopIdentity (contents : Contents) where
  mainCommandId : Nat
  location : contents.Location
  localStopSequence : Nat

structure CaptureScope (contents : Contents) where
  identity : CaptureStopIdentity contents
  stop : StopEvent contents
  contextState : CaptureContextState
  frameIdentity : CaptureFrameIdentity
  observedMainCommandId : Option Nat

structure RoutePreparedStatement (contents : Contents) where
  messageCollectorKey : CodeText
  mappedSource : contents.Source
  /-- `lowering.context_names`, unless it is no tuple of texts. -/
  contextNames : Option (List CodeText)
  persistentWriteRoots : List CodeText

structure MainPreparedPayload (contents : Contents) where
  ref : Nat
  commonVisible : contents.Visible
  statement : Option (RoutePreparedStatement contents)
  /-- The visible source of the Worker method set, when the cell has one. -/
  workerIntent : Option contents.Visible
  deferredStatement : Option (RoutePreparedStatement contents)

structure CapturePreparedPayload (contents : Contents) extends MainPreparedPayload contents where
  dirtyRoots : List CodeText

namespace MainPreparedPayload

variable {contents : Contents}

/-- `_statement`. -/
def anyStatement (payload : MainPreparedPayload contents) :
    Option (RoutePreparedStatement contents) :=
  payload.statement <|> payload.deferredStatement

/-- `_visible`. -/
def visible (payload : MainPreparedPayload contents) : contents.Visible :=
  payload.workerIntent.getD payload.commonVisible

end MainPreparedPayload

structure MainPublicationRecord (contents : Contents) where
  operation : Nat
  priorCaptureSequence : Int
  executedSource : Option contents.Source
  visibleSourceContext : Option contents.Visible
  changedRoots : List CodeText
  captureTicket : Option CaptureCorrelationTicket
  messageCollectorKey : CodeText

structure CapturePublicationRecord (contents : Contents) where
  scope : Nat
  executedSource : Option contents.Source
  visibleSourceContext : Option contents.Visible
  changedRoots : List CodeText
  captureDirtyRoots : List CodeText

inductive MainYieldKind where
  | capture
  | completed
  | debugStop
deriving DecidableEq, Repr

structure MainYield (contents : Contents) where
  kind : MainYieldKind
  operation : Nat
  scope : Option Nat
  completion : Option (MainRemoteCompletion contents)
  stop : Option (StopEvent contents)
  pins : contents.Pins

structure MainConfirmedDecodeFailure (contents : Contents) where
  operation : Nat
  remoteError : CodeText
  messages : List CodeText
  pins : contents.Pins

structure EvaluationResult (contents : Contents) where
  errorOccurred : Bool
  errorText : CodeText
  value : contents.Scalar

structure CaptureRemoteOutcome (contents : Contents) where
  /-- The evaluation, unless it is no `EvaluationResult`. -/
  evaluation : Option (EvaluationResult contents)
  messages : List CodeText
  pins : contents.Pins

inductive OperationState where
  | idle
  | mainPending
  | captured
  | captureSetupFailed
  | evaluatingCapture
  | debugStopped
  | flushing
  | partialWritebackFailure
  | breakpointRestoreFailure
  | resuming
  | recovering
  | lost
  | completed
  | failed
deriving DecidableEq, Repr

structure WorkerPublished (contents : Contents) where
  handle : Option contents.Value
  /-- Nothing when the identifier is no integer. -/
  operationId : Option Int
  /-- Nothing when the state is no `OperationState`. -/
  state : Option OperationState

/-- What a settle call is given: the code checks its type. -/
inductive Outcome (contents : Contents) where
  | mainYield (value : MainYield contents)
  | mainDecodeFailure (value : MainConfirmedDecodeFailure contents)
  | captureRemote (value : CaptureRemoteOutcome contents)
  | workerPublished (value : WorkerPublished contents)
  | other

inductive RuntimeReplyKind where
  | sourceFailed
  | runtimeUnavailable
  | mainCompleted
  | captured
  | captureCell
  | debugStopped
  | workerLoaded
deriving DecidableEq, Repr

structure RuntimeReply (contents : Contents) where
  kind : RuntimeReplyKind
  operationId : Int
  state : OperationState
  result : Option contents.Value := none
  error : String := ""
  succeeded : Bool := true
  location : Option contents.Location := none
  stopSequence : Option Nat := none
  messages : List CodeText := []
  changedRoots : List CodeText := []
  captureTicket : Option CodeText := none
  observedCommandId : Option Nat := none
  captureDirtyRoots : List CodeText := []
  diagnostic : Option contents.Diagnostic := none

inductive Failure where
  | mainNeedsStatement
  | negativePriorSequence
  | messageKeyChanged
  | namesInvalid
  | mainAlreadyRecorded
  | noMatchingRecord
  | noPublishedStop
  | ticketIdInvalid
  | ticketOfAnotherCommand
  | ticketNotNextStop
  | captureNeedsStatement
  | baseNamespaceInvalid
  | captureOfAnotherScope
  | captureAlreadyRecorded
  | mainOutcomeRequired
  | mainYieldUnmatched
  | anotherPublicationRecord
  | commandNotConfirmed
  | completionNotConfirmed
  | captureNotConfirmed
  | stopPredatesAdmission
  | userStopNotConfirmed
  | notNextMainStop
  | captureOutcomeRequired
  | captureUnmatched
  | confirmedStopRequired
  | evaluationInvalid
  | workerPublishedRequired
  | workerEvidenceInvalid
  | catalogInvalid
  /-- An exception of a collaborator. -/
  | collaborator
deriving DecidableEq, Repr

def Failure.message : Failure → String
  | .mainNeedsStatement => "A MAIN command requires a prepared statement"
  | .negativePriorSequence => "Prior CAPTURE sequence must be non-negative"
  | .messageKeyChanged => "MAIN message key changed before publication"
  | .namesInvalid => "Prepared namespace names are invalid"
  | .mainAlreadyRecorded => "MAIN command already has a publication record"
  | .noMatchingRecord => "MAIN operation has no matching publication record"
  | .noPublishedStop => "MAIN operation has no published CAPTURE stop"
  | .ticketIdInvalid => "CAPTURE ticket ID is invalid"
  | .ticketOfAnotherCommand => "CAPTURE ticket names another MAIN command"
  | .ticketNotNextStop => "CAPTURE ticket must name the next CAPTURE stop"
  | .captureNeedsStatement => "A CAPTURE eval requires a prepared statement"
  | .baseNamespaceInvalid => "CAPTURE base namespace is invalid"
  | .captureOfAnotherScope => "CAPTURE payload belongs to another scope"
  | .captureAlreadyRecorded => "CAPTURE cell already has a publication record"
  | .mainOutcomeRequired => "MAIN settlement requires a confirmed MAIN outcome"
  | .mainYieldUnmatched => "MAIN yield has no matching publication record"
  | .anotherPublicationRecord => "MAIN yield belongs to another publication record"
  | .commandNotConfirmed => "MAIN command completion is not confirmed"
  | .completionNotConfirmed => "MAIN completion is not confirmed"
  | .captureNotConfirmed => "MAIN CAPTURE stop is not confirmed"
  | .stopPredatesAdmission => "CAPTURE stop predates MAIN admission"
  | .userStopNotConfirmed => "MAIN user breakpoint is not confirmed"
  | .notNextMainStop => "CAPTURE stop is not the next MAIN stop"
  | .captureOutcomeRequired => "CAPTURE settlement requires CaptureRemoteOutcome"
  | .captureUnmatched => "CAPTURE cell has no matching publication record"
  | .confirmedStopRequired => "CAPTURE publication requires the confirmed stop"
  | .evaluationInvalid => "CAPTURE evaluation result is invalid"
  | .workerPublishedRequired => "Worker-only settlement requires WorkerPublished"
  | .workerEvidenceInvalid => "Worker publication evidence is invalid"
  | .catalogInvalid => "namespace catalog must be an immutable tuple of names"
  | .collaborator => ""

end OnecRuntime.Settlement

/-!
# Reply policies

One confirmed outcome is mapped to one reply. The policies read the operation and the
scope as they are at the call and change nothing.
-/

namespace OnecRuntime.Settlement

open OnecRuntime.Library
open OnecRuntime.Main

variable {contents : Contents}

def bslFailure : String := "BSL execution failed"

def captureDecodeFailure : String := "CAPTURE result decode failed"

def mainDecodeFailure : String := "MAIN completion decode failed"

/-- `_execution_diagnostic`. -/
def executionDiagnostic (error : CodeText) (source : Option contents.Source)
    (visible : Option contents.Visible) (pins : contents.Pins) : Option contents.Diagnostic :=
  if error = [] then none else contents.normalize error source visible pins

namespace CaptureScope

/-- `READY` and `CONFIRMED`. -/
def Ready (scope : CaptureScope contents) : Prop :=
  scope.contextState = .ready ∧ scope.frameIdentity = .confirmed

instance readyDecidable (scope : CaptureScope contents) : Decidable scope.Ready :=
  inferInstanceAs (Decidable (_ ∧ _))

end CaptureScope

namespace MainReplyPolicy

/-- The ticket identifier, when the ticket names this stop of this command. -/
def ticketId (ticket : Option CaptureCorrelationTicket) (commandId stopSequence : Nat) :
    Option CodeText :=
  match ticket with
  | none => none
  | some ticket =>
      if ticket.expectedOperationId = commandId ∧ ticket.expectedStopSequence = stopSequence then
        some ticket.ticketId
      else none

def decodeFailureReply (outcome : MainConfirmedDecodeFailure contents)
    (record : MainPublicationRecord contents) (commandId : Nat) : RuntimeReply contents :=
  { kind := .mainCompleted
    operationId := commandId
    state := .failed
    error := if outcome.remoteError = [] then mainDecodeFailure else bslFailure
    succeeded := false
    messages := outcome.messages
    changedRoots := record.changedRoots
    diagnostic := executionDiagnostic outcome.remoteError record.executedSource
      record.visibleSourceContext outcome.pins }

def completedReply (completion : MainRemoteCompletion contents) (pins : contents.Pins)
    (record : MainPublicationRecord contents) (commandId : Nat) : RuntimeReply contents :=
  { kind := .mainCompleted
    operationId := commandId
    state := if completion.error = [] then .completed else .failed
    result := completion.result
    error := if completion.error = [] then "" else bslFailure
    succeeded := decide (completion.error = [])
    messages := completion.messages
    changedRoots := record.changedRoots
    diagnostic := executionDiagnostic completion.error record.executedSource
      record.visibleSourceContext pins }

def capturedReply (scope : CaptureScope contents) (record : MainPublicationRecord contents)
    (commandId stopSequence : Nat) : RuntimeReply contents :=
  { kind := .captured
    operationId := commandId
    state := .captured
    location := some scope.identity.location
    stopSequence := some stopSequence
    captureTicket := ticketId record.captureTicket commandId stopSequence
    observedCommandId := scope.observedMainCommandId
    changedRoots := record.changedRoots }

def debugStoppedReply (stop : StopEvent contents) (record : MainPublicationRecord contents)
    (commandId : Nat) : RuntimeReply contents :=
  { kind := .debugStopped
    operationId := commandId
    state := .debugStopped
    location := some stop.location
    changedRoots := record.changedRoots }

variable (operations : Nat → RouteMainOperation contents) (scopes : Nat → CaptureScope contents)

def publishCompleted (outcome : MainYield contents) (record : MainPublicationRecord contents)
    (operation : RouteMainOperation contents) : Except Failure (RuntimeReply contents) :=
  match outcome.completion with
  | none => .error .completionNotConfirmed
  | some completion =>
      if operation.phase = .completed then
        .ok (completedReply completion outcome.pins record operation.commandId)
      else .error .completionNotConfirmed

def publishCapture (outcome : MainYield contents) (record : MainPublicationRecord contents)
    (operation : RouteMainOperation contents) : Except Failure (RuntimeReply contents) :=
  match outcome.scope with
  | none => .error .captureNotConfirmed
  | some scopeRef => do
      let scope := scopes scopeRef
      require (operation.phase = .suspendedCapture ∧
        scope.identity.mainCommandId = operation.commandId ∧
        scope.observedMainCommandId = some operation.commandId ∧ scope.Ready) .captureNotConfirmed
      let stopSequence := (scope.identity.localStopSequence : Int) - record.priorCaptureSequence
      require (0 < stopSequence) .stopPredatesAdmission
      pure (capturedReply scope record operation.commandId stopSequence.toNat)

def publishDebugStop (outcome : MainYield contents) (record : MainPublicationRecord contents)
    (operation : RouteMainOperation contents) : Except Failure (RuntimeReply contents) :=
  match outcome.stop with
  | none => .error .userStopNotConfirmed
  | some stop =>
      if operation.phase = .suspendedUser ∧
          operation.pendingStop.map StopEvent.ref = some stop.ref then
        .ok (debugStoppedReply stop record operation.commandId)
      else .error .userStopNotConfirmed

/-- `publish` of a yield. -/
def publishYield (outcome : MainYield contents) (record : MainPublicationRecord contents) :
    Except Failure (RuntimeReply contents) :=
  if outcome.operation = record.operation then
    match outcome.kind with
    | .completed => publishCompleted outcome record (operations record.operation)
    | .capture => publishCapture scopes outcome record (operations record.operation)
    | .debugStop => publishDebugStop outcome record (operations record.operation)
  else .error .anotherPublicationRecord

/-- `publish` of a confirmed decode failure. -/
def publishDecodeFailure (outcome : MainConfirmedDecodeFailure contents)
    (record : MainPublicationRecord contents) : Except Failure (RuntimeReply contents) := do
  require (outcome.operation = record.operation) .anotherPublicationRecord
  require ((operations record.operation).phase = .completed) .commandNotConfirmed
  pure (decodeFailureReply outcome record (operations record.operation).commandId)

end MainReplyPolicy

namespace CaptureReplyPolicy

/-- The value and the error of an evaluation. -/
def valueOrError (result : EvaluationResult contents) : Option contents.Value × String :=
  if result.errorOccurred then (none, bslFailure)
  else
    match contents.evaluationToPython result.value with
    | .ok value => (value, "")
    | .error () => (none, captureDecodeFailure)

def cellReply (outcome : CaptureRemoteOutcome contents) (result : EvaluationResult contents)
    (record : CapturePublicationRecord contents) (commandId : Nat) : RuntimeReply contents :=
  { kind := .captureCell
    operationId := commandId
    state := .captured
    result := (valueOrError result).1
    error := (valueOrError result).2
    succeeded := decide ((valueOrError result).2 = "")
    messages := outcome.messages
    changedRoots := record.changedRoots
    captureDirtyRoots := record.captureDirtyRoots
    diagnostic :=
      if result.errorOccurred then
        executionDiagnostic result.errorText record.executedSource record.visibleSourceContext
          outcome.pins
      else none }

/-- `publish`. -/
def publish (scopes : Nat → CaptureScope contents) (outcome : CaptureRemoteOutcome contents)
    (record : CapturePublicationRecord contents) : Except Failure (RuntimeReply contents) := do
  let scope := scopes record.scope
  require scope.Ready .confirmedStopRequired
  match outcome.evaluation with
  | none => .error .evaluationInvalid
  | some result => pure (cellReply outcome result record scope.identity.mainCommandId)

end CaptureReplyPolicy

end OnecRuntime.Settlement
