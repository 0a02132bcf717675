import OnecRuntime.Correlation.Journal

/-!
# The capture service

The service keeps the last capture generation and the known requests, and beside them the capture
that is paused. `run_until` records an intent, arms it, records the arming, and runs MAIN up to a
stop, which it publishes as a fence with the generation of the intent. What the runtime backend
replies, the identifiers that are drawn and what becomes of each append are inputs of a call. A call
leaves the file, the service and the events that a run is judged by.
-/

namespace OnecRuntime.Correlation

open OnecRuntime.Library

inductive AgentOperationState where
  | completed
  | captured
  | failed
  | unknown
deriving DecidableEq

structure BackendExecution where
  terminalState : AgentOperationState
  messages : List CodeText
  resultPresent : Bool
  runtimeState : CodeText

/-- `BackendExecution(state, (), False, runtime_state)`. -/
def BackendExecution.bare (state : AgentOperationState) (runtimeState : String) :
    BackendExecution :=
  ⟨state, [], false, text runtimeState⟩

structure CaptureStop where
  stopSequence : Int
  location : ResolvedCapturePoint
  controllerOperationId : Int
  ticketId : Option CodeText
  observedCommandId : Option Int

/-- The evidence of a continuation as the controller reports it, before it is validated. -/
structure ReportedEvidence where
  rootStatuses : List (CodeText × CodeText)
  continueState : CodeText

/-- `partial_results`: the empty tuple by default, a mapping, or something else. -/
inductive PartialResults where
  | nothing
  | mapping (items : List (CodeText × CodeText))
  | malformed

structure CaptureRunOutcome where
  execution : BackendExecution
  stop : Option CaptureStop
  partialResults : PartialResults
  continuation : Option ReportedEvidence
  userMainDispatched : Option Bool

structure CaptureView where
  fence : CaptureFence
  location : ResolvedCapturePoint
  dirtyRoots : List CodeText

inductive RecoveryAction where
  | workspaceStatus
  | operationWait (operationId : CodeText)
  | runtimeClose
  | runtimeRestart

/-- `_capture_operation_recovery`. -/
def captureOperationRecovery (operationId : CodeText) (includeWorkspaceStatus includeRestart : Bool) :
    List RecoveryAction :=
  (if includeWorkspaceStatus then [.workspaceStatus] else []) ++
    [.operationWait operationId, .runtimeClose] ++
    if includeRestart then [.runtimeRestart] else []

structure Failure where
  stage : String
  partialResults : List (CodeText × CodeText)
  continueState : Option CodeText

def Failure.at (stage : String) : Failure := ⟨stage, [], none⟩

structure CaptureRunResult where
  execution : BackendExecution
  capture : Option CaptureView
  failure : Option Failure
  recovery : List RecoveryAction
  quarantineRuntime : Bool
  userMainDispatched : Option Bool

/-- `CaptureRunResult(execution, failure=failure, recovery=recovery)`. -/
def CaptureRunResult.of (execution : BackendExecution) (failure : Option Failure)
    (recovery : List RecoveryAction) : CaptureRunResult :=
  ⟨execution, none, failure, recovery, false, some false⟩

inductive CaptureError where
  | differentInputs
  | pointsNotReturned
  | duplicateNames
  | staleFence
  | viewUnavailable
  | tooManyRoots
  | emptyOperationId
  | invalidAttempt
  | nextPointsNotReturned
  | sourceChanged
  | invalidFence
  | journal
  | backend
deriving DecidableEq

/-- The texts of the errors of the service; those of the file and of the backend are their own. -/
def CaptureError.message : CaptureError → Option String
  | .differentInputs => some "capture request_id names different inputs"
  | .pointsNotReturned => some "capture resolution must return each requested named point"
  | .duplicateNames => some "capture resolution returned duplicate names"
  | .staleFence => some "capture fence is stale"
  | .viewUnavailable => some "capture view is unavailable"
  | .tooManyRoots => some "capture continuation dirty_roots exceeds 100"
  | .emptyOperationId => some "continuation operation_id must be non-empty"
  | .nextPointsNotReturned => some "continuation resolution must return each requested named point"
  | .sourceChanged => some "continuation capture source changed before transport"
  | .invalidAttempt | .invalidFence | .journal | .backend => none

/-- What the texts of the service are compared by. -/
structure TextFunctions where
  casefold : CodeText → CodeText
  isIdentifier : CodeText → Bool

/-! ## The service -/

structure CaptureService where
  generation : Int
  requests : Requests
  activeFence : Option CaptureFence
  activeCapture : Option CaptureView

/-- The constructor; it raises where the file cannot be read. -/
def CaptureService.new (file : JournalFile) : Option CaptureService :=
  match loadGeneration file, loadRequests file with
  | some generation, some requests => some ⟨generation, requests, none, none⟩
  | _, _ => none

/-- `request_operation`. -/
def CaptureService.requestOperation (service : CaptureService) (requestId fingerprint : CodeText) :
    Except CaptureError (Option CodeText) :=
  match service.requests.get? requestId with
  | none => .ok none
  | some (known, operationId) =>
      if known ≠ fingerprint then .error .differentInputs else .ok (some operationId)

def CaptureService.recorded (service : CaptureService)
    (requestId fingerprint operationId : CodeText) : CaptureService :=
  { service with requests := service.requests.set requestId (fingerprint, operationId) }

/-- `activate_capture_view`, as far as the capture that is paused goes. -/
def CaptureService.activateCaptureView (service : CaptureService) (capture : CaptureView) :
    CaptureService :=
  { service with activeFence := some capture.fence, activeCapture := some capture }

/-- `invalidate_capture`. -/
def CaptureService.invalidateCapture (service : CaptureService) : CaptureService :=
  { service with activeFence := none, activeCapture := none }

/-- `_restore_continuation_snapshot`. -/
def CaptureService.restored (service saved : CaptureService) : CaptureService :=
  { service with activeFence := saved.activeFence, activeCapture := saved.activeCapture }

/-! ## Calls -/

/-- An append with the file before it, or an intent that is handed to the runtime with the file at
that time. -/
inductive Event where
  | appended (file : JournalFile) (entry : Entry) (fate : Fate)
  | armed (file : JournalFile) (intent : CaptureIntent)

structure Session where
  file : JournalFile
  service : CaptureService
  events : List Event

/-- How a call ends. -/
inductive Outcome (α : Type) where
  | returned (value : α)
  | raised (error : CaptureError)
  | crashed

namespace Session

variable (session : Session)

/-- `_append`. -/
def append (entry : Entry) (fate : Fate) : Session × Ending :=
  ({ session with
      file := (Correlation.append session.file entry fate).1
      events := session.events ++ [.appended session.file entry fate] },
    (Correlation.append session.file entry fate).2)

/-- The runtime is called with an intent. -/
def arm (intent : CaptureIntent) : Session :=
  { session with events := session.events ++ [.armed session.file intent] }

def withService (change : CaptureService → CaptureService) : Session :=
  { session with service := change session.service }

/-- `record_request`. -/
def recordRequest (requestId fingerprint operationId : CodeText) (fate : Fate) :
    Session × Outcome Unit :=
  match session.service.requestOperation requestId fingerprint with
  | .error problem => (session, .raised problem)
  | .ok (some _) => (session, .returned ())
  | .ok none =>
      match session.append (.request requestId fingerprint operationId) fate with
      | (next, .done) =>
          (next.withService (·.recorded requestId fingerprint operationId), .returned ())
      | (next, .raised) => (next, .raised .journal)
      | (next, .crashed) => (next, .crashed)

end Session

/-! ## Running up to a capture -/

structure RunRequest where
  operationId : CodeText
  sourceRevision : Int
  sourceSha256 : CodeText
  /-- The names of the requested points. -/
  points : List CodeText

/-- The replies of the backend to `run_until`; `none` where it raises. -/
structure RunReplies where
  resolved : Option (List ResolvedCapturePoint)
  captureIntentId : CodeText
  intentFate : Fate
  arming : Option CaptureArming
  armingFate : Fate
  outcome : Option CaptureRunOutcome
  /-- `disarm_capture` returns. -/
  disarmed : Bool

/-- The resolution returns each requested point. -/
def Returned (resolved : List ResolvedCapturePoint) (requested : List CodeText) : Prop :=
  resolved.length = requested.length ∧ (∀ point ∈ resolved, point.name ∈ requested) ∧
    ∀ name ∈ requested, name ∈ resolved.map (·.name)

instance (resolved : List ResolvedCapturePoint) (requested : List CodeText) :
    Decidable (Returned resolved requested) := inferInstanceAs (Decidable (_ ∧ _ ∧ _))

/-- `_failed_arm_cleanup`. -/
def failedArmCleanup (disarmed : Bool) (intent : CaptureIntent) (runtimeState : String) :
    CaptureRunResult :=
  if disarmed then .of (.bare .failed runtimeState) (some (.at "capture_arming")) []
  else
    .of (.bare .unknown "capture_arm_cleanup_unknown") (some (.at "capture_arming"))
      (captureOperationRecovery intent.operationId false false)

/-- `_no_stop`. -/
def noStop (disarmed : Bool) (intent : CaptureIntent) (outcome : CaptureRunOutcome) :
    CaptureRunResult :=
  if outcome.execution.terminalState = .captured then
    .of (.bare .unknown "capture_correlation_unknown") (some (.at "capture_correlation"))
      (captureOperationRecovery intent.operationId false false)
  else if outcome.userMainDispatched = none then
    .of outcome.execution (some (.at "capture_pending")) [.workspaceStatus]
  else if ¬disarmed then
    if outcome.execution.runtimeState = text "debug_stopped" then
      .of outcome.execution (some (.at "unexpected_breakpoint"))
        (captureOperationRecovery intent.operationId false false)
    else
      .of (.bare .unknown "capture_disarm_unknown") (some (.at "capture_disarm"))
        (captureOperationRecovery intent.operationId false false)
  else if outcome.execution.runtimeState = text "debug_stopped" then
    .of outcome.execution (some (.at "unexpected_breakpoint"))
      (captureOperationRecovery intent.operationId true false)
  else if outcome.execution.terminalState = .unknown then
    .of outcome.execution (some (.at "capture_transport"))
      (captureOperationRecovery intent.operationId false false)
  else .of outcome.execution none []

def isOpaqueSign (sign : CodePoint) : Bool :=
  (48 ≤ sign.val && sign.val ≤ 57) || (65 ≤ sign.val && sign.val ≤ 90) ||
    (97 ≤ sign.val && sign.val ≤ 122) || sign.val = 45 || sign.val = 95

/-- `_opaque_id` accepts. -/
def isOpaqueId (value : CodeText) : Bool :=
  value ≠ [] && value.length ≤ 128 && value.all isOpaqueSign

/-- `_sha256` accepts. -/
def isSha256 (value : CodeText) : Bool :=
  value.length = 64 && value.all fun sign =>
    (48 ≤ sign.val && sign.val ≤ 57) || (97 ≤ sign.val && sign.val ≤ 102)

/-- `CaptureFence.__post_init__` accepts. -/
def CaptureFence.isValid (fence : CaptureFence) : Bool :=
  isOpaqueId fence.captureIntentId && isOpaqueId fence.operationId && 0 < fence.sourceRevision &&
    isSha256 fence.sourceSha256 && 0 < fence.captureGeneration && 0 < fence.stopSequence

/-- `_location_identity`. -/
def locationIdentity (point : ResolvedCapturePoint) :
    CodeText × CodeText × CodeText × Int × Int × Int × CodeText :=
  (point.project, point.moduleName, point.procedure, point.line, point.executableLine,
    point.sourceRevision, point.sourceSha256)

/-- The stop is the one that was armed. -/
def Correlates (intent : CaptureIntent) (arming : CaptureArming) (outcome : CaptureRunOutcome)
    (stop : CaptureStop) : Prop :=
  outcome.execution.terminalState = .captured ∧
    stop.controllerOperationId = arming.expectedControllerOperationId ∧
    stop.observedCommandId = some arming.expectedControllerOperationId ∧
    stop.ticketId = some arming.ticketId ∧ stop.stopSequence = arming.expectedStopSequence ∧
    stop.location ∈ intent.points ∧
    locationIdentity stop.location ∈ intent.points.map locationIdentity

instance (intent : CaptureIntent) (arming : CaptureArming) (outcome : CaptureRunOutcome)
    (stop : CaptureStop) : Decidable (Correlates intent arming outcome stop) :=
  inferInstanceAs (Decidable (_ ∧ _ ∧ _ ∧ _ ∧ _ ∧ _ ∧ _))

def fenceOf (intent : CaptureIntent) (stop : CaptureStop) : CaptureFence :=
  ⟨intent.captureIntentId, intent.operationId, stop.location.sourceRevision,
    stop.location.sourceSha256, intent.captureGeneration, stop.stopSequence⟩

/-- `_correlate`. The generation is advanced before the fence is built. -/
def Session.correlate (session : Session) (intent : CaptureIntent) (arming : CaptureArming)
    (outcome : CaptureRunOutcome) (stop : CaptureStop) : Session × Outcome CaptureRunResult :=
  if Correlates intent arming outcome stop then
    let next := session.withService ({ · with generation := intent.captureGeneration })
    if (fenceOf intent stop).isValid then
      (next, .returned
        ⟨outcome.execution, some ⟨fenceOf intent stop, stop.location, []⟩, none, [], false,
          some false⟩)
    else (next, .raised .invalidFence)
  else
    (session, .returned (.of (.bare .unknown "capture_correlation_unknown")
      (some (.at "capture_correlation"))
      (captureOperationRecovery intent.operationId false false)))

/-- `run_until` accepts what `arm_capture` returned. -/
def CaptureArming.isValid (arming : CaptureArming) : Bool :=
  arming.ticketId ≠ [] && 0 < arming.expectedControllerOperationId &&
    0 < arming.expectedStopSequence

namespace Session

variable (functions : TextFunctions) (session : Session)

/-- What a run that raised is taken for. -/
def lostOutcome : CaptureRunOutcome :=
  ⟨.bare .unknown "capture_transport", none, .nothing, none, some false⟩

/-- `replace(result, user_main_dispatched=…)`. -/
def dispatched (outcome : CaptureRunOutcome) (result : CaptureRunResult) : CaptureRunResult :=
  { result with
    userMainDispatched := if outcome.stop.isSome then some true else outcome.userMainDispatched }

/-- `run_until` after the arming is recorded. -/
def runArmed (intent : CaptureIntent) (arming : CaptureArming) (replies : RunReplies) :
    Session × Outcome CaptureRunResult :=
  let outcome := replies.outcome.getD lostOutcome
  match outcome.stop with
  | none => (session, .returned (dispatched outcome (noStop replies.disarmed intent outcome)))
  | some stop =>
      match session.correlate intent arming outcome stop with
      | (next, .returned result) => (next, .returned (dispatched outcome result))
      | ended => ended

/-- `run_until` after the intent is recorded. -/
def runIntent (intent : CaptureIntent) (replies : RunReplies) : Session × Outcome CaptureRunResult :=
  match replies.arming with
  | none =>
      (session.arm intent,
        .returned (failedArmCleanup replies.disarmed intent "capture_arm_failed"))
  | some arming =>
      if arming.isValid then
        match (session.arm intent).append (.arming intent arming) replies.armingFate with
        | (next, .done) => next.runArmed intent arming replies
        | (next, .raised) =>
            (next, .returned (failedArmCleanup replies.disarmed intent "capture_journal_failed"))
        | (next, .crashed) => (next, .crashed)
      else
        (session.arm intent,
          .returned (failedArmCleanup replies.disarmed intent "capture_arm_unknown"))

/-- `run_until`. -/
def runUntil (request : RunRequest) (replies : RunReplies) : Session × Outcome CaptureRunResult :=
  match replies.resolved with
  | none => (session, .raised .backend)
  | some resolved =>
      if ¬Returned resolved request.points then (session, .raised .pointsNotReturned)
      else if ¬(resolved.map fun point => functions.casefold point.name).Nodup then
        (session, .raised .duplicateNames)
      else
        let intent : CaptureIntent :=
          ⟨replies.captureIntentId, request.operationId, request.sourceRevision,
            request.sourceSha256, session.service.generation + 1, resolved⟩
        match session.append (.intent intent) replies.intentFate with
        | (next, .done) => next.runIntent intent replies
        | (next, .raised) => (next, .raised .journal)
        | (next, .crashed) => (next, .crashed)

end Session

end OnecRuntime.Correlation
