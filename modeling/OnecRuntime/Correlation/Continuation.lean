import OnecRuntime.Correlation.Service

/-!
# Continuing a capture

`continue_capture` records the intent of the next stop, prepares it, records its arming and the
planned continuation, revokes the paused capture, and sends Continue. What the controller reports is
believed only as far as its evidence is complete; otherwise the runtime is quarantined.
-/

namespace OnecRuntime.Correlation

open OnecRuntime.Library

structure CaptureContinuationAttempt where
  attemptId : CodeText
  captureGeneration : Int
  requestOperationId : CodeText
  dirtyRoots : List CodeText

section Validity

variable (functions : TextFunctions)

def isRoot (root : CodeText) : Bool := functions.isIdentifier root && root.length ≤ 256

/-- `CaptureContinuationAttempt.__post_init__` accepts. -/
def CaptureContinuationAttempt.isValid (attempt : CaptureContinuationAttempt) : Bool :=
  attempt.attemptId ≠ [] && attempt.attemptId.length ≤ 256 && 0 < attempt.captureGeneration &&
    attempt.requestOperationId ≠ [] && attempt.requestOperationId.length ≤ 256 &&
    attempt.dirtyRoots.length ≤ 100 && attempt.dirtyRoots.all (isRoot functions) &&
    decide (attempt.dirtyRoots.map functions.casefold).Nodup

def allowedStatuses : List CodeText :=
  ["unattempted", "failed", "sent", "succeeded", "outcome_unknown"].map text

def continueStates : List CodeText :=
  ["unattempted", "planned", "sent", "acknowledged", "outcome_unknown"].map text

/-- `CaptureContinuationEvidence.__post_init__` accepts. -/
def ReportedEvidence.isValid (evidence : ReportedEvidence) : Bool :=
  evidence.rootStatuses.length ≤ 100 &&
    evidence.rootStatuses.all (fun item => isRoot functions item.1 && item.2 ∈ allowedStatuses) &&
    decide (evidence.rootStatuses.map fun item => functions.casefold item.1).Nodup &&
    evidence.continueState ∈ continueStates

/-- The roots that are named, in their order, are those that were staged. -/
def namesRoots (items : List (CodeText × CodeText)) (dirtyRoots : List CodeText) : Bool :=
  items.map (fun item => functions.casefold item.1) = dirtyRoots.map functions.casefold

/-- `continuation_evidence`. -/
def provenState (outcome : CaptureRunOutcome) (dirtyRoots : List CodeText) : Option CodeText :=
  match outcome.continuation with
  | some evidence =>
      if evidence.isValid functions && namesRoots functions evidence.rootStatuses dirtyRoots then
        some evidence.continueState
      else none
  | none => none

/-- `coarse_evidence_valid`. -/
def coarseEvidenceValid (outcome : CaptureRunOutcome) (dirtyRoots : List CodeText) : Bool :=
  match outcome.partialResults with
  | .nothing => true
  | .mapping items =>
      items.length ≤ 100 &&
        items.all (fun item => isRoot functions item.1 && item.2 ∈ allowedStatuses) &&
        namesRoots functions items dirtyRoots
  | .malformed => false

/-- `reported_statuses`. -/
def reportedStatuses (outcome : CaptureRunOutcome) (dirtyRoots : List CodeText) :
    Dictionary CodeText CodeText :=
  let coarse :=
    match outcome.partialResults with
    | .mapping items => if coarseEvidenceValid functions outcome dirtyRoots then items else []
    | _ => []
  let exact :=
    match outcome.continuation with
    | some evidence => evidence.rootStatuses.filter fun item => item.2 ∈ allowedStatuses
    | none => []
  .ofItems ((coarse ++ exact).map fun item => (functions.casefold item.1, item.2))

/-- `exact_statuses`. -/
def exactStatuses (outcome : CaptureRunOutcome) (dirtyRoots : List CodeText) (complete : Bool) :
    List (CodeText × CodeText) :=
  dirtyRoots.map fun root =>
    (root, ((reportedStatuses functions outcome dirtyRoots).get? (functions.casefold root)).getD
      (text (if complete then "unavailable" else "outcome_unknown")))

end Validity

/-- `_quarantined_continuation_result`. -/
def quarantinedResult (operationId : CodeText) (statuses : List (CodeText × CodeText))
    (continueState : CodeText) (runtimeState : CodeText) : CaptureRunResult :=
  ⟨⟨.unknown, [], false, runtimeState⟩, none,
    some ⟨"capture_transport", statuses, some continueState⟩,
    captureOperationRecovery operationId true true, true, some false⟩

/-- The result where nothing has been attempted. -/
def unattemptedResult (operationId : CodeText) (dirtyRoots : List CodeText) (runtimeState : String) :
    CaptureRunResult :=
  quarantinedResult operationId (dirtyRoots.map fun root => (root, text "unattempted"))
    (text "unattempted") (text runtimeState)

/-- `_no_stop_without_disarm`. -/
def noStopWithoutDisarm (operationId : CodeText) (dirtyRoots : List CodeText)
    (outcome : CaptureRunOutcome) : CaptureRunResult :=
  let failure (stage : String) : Failure :=
    ⟨stage, dirtyRoots.map fun root => (root, text "unknown"), none⟩
  match outcome.execution.terminalState with
  | .unknown =>
      .of outcome.execution (some (failure "capture_transport"))
        (captureOperationRecovery operationId false false)
  | .captured =>
      .of (.bare .unknown "capture_correlation_unknown") (some (failure "capture_correlation"))
        (captureOperationRecovery operationId false false)
  | _ => .of outcome.execution none []

/-- What `prepare_capture_successor` does. -/
inductive Preparation where
  | admitted (arming : Option CaptureArming)
  /-- `CaptureSuccessorPreparationError`. -/
  | refused (uncertain : Bool)
  | raised

/-- The replies of the backend to `continue_capture`. -/
structure ContinueReplies where
  attemptId : CodeText
  resolved : Option (List ResolvedCapturePoint)
  captureIntentId : CodeText
  intentFate : Fate
  preparation : Preparation
  /-- The registry and the backend take the paused capture back. -/
  rolledBack : Bool
  armingFate : Fate
  plannedFate : Fate
  outcome : Option CaptureRunOutcome
  unknownFate : Fate
  disarmed : Bool
  committed : Bool

namespace Session

variable (session : Session)

/-- `admission.quarantine()`, or the same for a continuation that was not admitted. -/
def quarantined (result : CaptureRunResult) : Session × Outcome CaptureRunResult :=
  (session.withService (·.invalidateCapture), .returned result)

/-- `admission.rollback()` to the service before the continuation, with the result if it raises. -/
def rolledBack (saved : CaptureService) (replies : ContinueReplies)
    (restored failed : CaptureRunResult) : Session × Outcome CaptureRunResult :=
  if replies.rolledBack then (session.withService (·.restored saved), .returned restored)
  else session.quarantined failed

/-- `continue_capture` accepts what was prepared. -/
def preparedIsValid (fence : CaptureFence) (intent : Option CaptureIntent)
    (arming : Option CaptureArming) : Bool :=
  match intent, arming with
  | none, arming => arming.isNone
  | some _, none => false
  | some _, some arming =>
      arming.ticketId ≠ [] && 0 < arming.expectedControllerOperationId &&
        fence.stopSequence < arming.expectedStopSequence

/-- The end of `continue_capture` for a continuation that was acknowledged. -/
def concluded (operationId : CodeText) (statuses : List (CodeText × CodeText))
    (continueState : CodeText) (replies : ContinueReplies) :
    Session × Outcome CaptureRunResult → Session × Outcome CaptureRunResult
  | (session, .returned result) =>
      if result.execution.terminalState = .unknown then
        let stage := (result.failure.map (·.stage)).getD "capture_transport"
        let ended := quarantinedResult operationId statuses continueState
          result.execution.runtimeState
        session.quarantined
          { ended with failure := ended.failure.map ({ · with stage := stage }) }
      else if replies.committed then (session, .returned result)
      else (session, .raised .backend)
  | ended => ended

/-- `continue_capture` after Continue has been acknowledged. -/
def acknowledged (operationId : CodeText) (dirtyRoots : List CodeText)
    (next : Option (CaptureIntent × CaptureArming)) (outcome : CaptureRunOutcome)
    (statuses : List (CodeText × CodeText)) (continueState : CodeText)
    (replies : ContinueReplies) : Session × Outcome CaptureRunResult :=
  concluded operationId statuses continueState replies <|
    match next, outcome.stop with
    | none, _ => (session, .returned (noStopWithoutDisarm operationId dirtyRoots outcome))
    | some (intent, _), none => (session, .returned (noStop replies.disarmed intent outcome))
    | some (intent, arming), some stop => session.correlate intent arming outcome stop

section Continuation

variable (functions : TextFunctions)

/-- A write-back of the roots has failed. -/
def partialWriteback (saved : CaptureService) (operationId : CodeText)
    (outcome : CaptureRunOutcome) (statuses : List (CodeText × CodeText)) (continueState : CodeText)
    (replies : ContinueReplies) : Session × Outcome CaptureRunResult :=
  let touched := statuses.any fun item =>
    item.2 ∈ [text "sent", text "succeeded", text "outcome_unknown"]
  if continueState = text "unattempted" ∧ ¬touched then
    session.rolledBack saved replies
      (.of outcome.execution (some ⟨"capture_writeback", statuses, some continueState⟩) [])
      (quarantinedResult operationId statuses continueState (text "capture_restore_unknown"))
  else
    session.quarantined
      (quarantinedResult operationId statuses
        (if continueState ∈ [text "acknowledged", text "unattempted"] then continueState
          else text "outcome_unknown")
        (text "capture_writeback_unknown"))

/-- `continue_capture` after the backend has replied to Continue. -/
def replied (saved : CaptureService) (operationId : CodeText) (dirtyRoots : List CodeText)
    (next : Option (CaptureIntent × CaptureArming)) (outcome : CaptureRunOutcome)
    (replies : ContinueReplies) : Session × Outcome CaptureRunResult :=
  match provenState functions outcome dirtyRoots, coarseEvidenceValid functions outcome dirtyRoots with
  | some continueState, true =>
      let statuses := exactStatuses functions outcome dirtyRoots true
      if outcome.execution.runtimeState = text "partial_writeback_failure" then
        session.partialWriteback saved operationId outcome statuses continueState replies
      else if continueState ≠ text "acknowledged" then
        session.quarantined
          (quarantinedResult operationId statuses
            (if continueState = text "unattempted" then continueState else text "outcome_unknown")
            outcome.execution.runtimeState)
      else if outcome.execution.terminalState = .unknown then
        session.quarantined
          (quarantinedResult operationId statuses continueState outcome.execution.runtimeState)
      else
        session.acknowledged operationId dirtyRoots next outcome statuses continueState replies
  | _, _ =>
      session.quarantined
        (quarantinedResult operationId (exactStatuses functions outcome dirtyRoots false)
          (text "outcome_unknown") outcome.execution.runtimeState)

/-- `continue_capture` once the planned continuation is recorded. -/
def sent (saved : CaptureService) (fence : CaptureFence) (operationId : CodeText)
    (dirtyRoots : List CodeText) (next : Option (CaptureIntent × CaptureArming))
    (replies : ContinueReplies) : Session × Outcome CaptureRunResult :=
  let revoked := session.withService (·.invalidateCapture)
  match replies.outcome with
  | some outcome => revoked.replied functions saved operationId dirtyRoots next outcome replies
  | none =>
      match revoked.append (.continuation fence dirtyRoots .unknown) replies.unknownFate with
      | (ended, .crashed) => (ended, .crashed)
      | (ended, _) =>
          ended.quarantined
            (quarantinedResult operationId (dirtyRoots.map fun root => (root, text "outcome_unknown"))
              (text "outcome_unknown") (text "capture_transport"))

/-- The planned continuation is recorded. -/
def plan (saved : CaptureService) (fence : CaptureFence) (operationId : CodeText)
    (dirtyRoots : List CodeText) (next : Option (CaptureIntent × CaptureArming))
    (replies : ContinueReplies) : Session × Outcome CaptureRunResult :=
  match session.append (.continuation fence dirtyRoots .planned) replies.plannedFate with
  | (ended, .done) => ended.sent functions saved fence operationId dirtyRoots next replies
  | (ended, .raised) =>
      ended.quarantined (unattemptedResult operationId dirtyRoots "capture_journal_unknown")
  | (ended, .crashed) => (ended, .crashed)

/-- `continue_capture` after the next stop is prepared. -/
def admitted (saved : CaptureService) (fence : CaptureFence) (operationId : CodeText)
    (dirtyRoots : List CodeText) (intent : Option CaptureIntent) (arming : Option CaptureArming)
    (replies : ContinueReplies) : Session × Outcome CaptureRunResult :=
  if ¬preparedIsValid fence intent arming then
    session.rolledBack saved replies
      (.of (.bare .failed "capture_arm_failed") (some (.at "capture_arming")) [])
      (unattemptedResult operationId dirtyRoots "capture_arm_restore_unknown")
  else
    match intent, arming with
    | some intent, some arming =>
        match session.append (.arming intent arming) replies.armingFate with
        | (next, .done) =>
            next.plan functions saved fence operationId dirtyRoots (some (intent, arming)) replies
        | (next, .raised) =>
            next.quarantined (unattemptedResult operationId dirtyRoots "capture_journal_unknown")
        | (next, .crashed) => (next, .crashed)
    | _, _ => session.plan functions saved fence operationId dirtyRoots none replies

/-- `continue_capture` once the intent, if there is one, is recorded. -/
def prepared (saved : CaptureService) (fence : CaptureFence) (operationId : CodeText)
    (dirtyRoots : List CodeText) (intent : Option CaptureIntent) (replies : ContinueReplies) :
    Session × Outcome CaptureRunResult :=
  let called := intent.elim session session.arm
  match replies.preparation with
  | .admitted arming =>
      called.admitted functions saved fence operationId dirtyRoots intent arming replies
  | .refused false =>
      (called, .returned
        (.of (.bare .failed "capture_arm_failed") (some (.at "capture_arming")) []))
  | _ => called.quarantined (unattemptedResult operationId dirtyRoots "capture_arm_unknown")

/-- The intent of the next stop is recorded. -/
def planned (saved : CaptureService) (fence : CaptureFence) (operationId : CodeText)
    (dirtyRoots : List CodeText) (intent : CaptureIntent) (replies : ContinueReplies) :
    Session × Outcome CaptureRunResult :=
  match session.append (.intent intent) replies.intentFate with
  | (next, .done) =>
      next.prepared functions saved fence operationId dirtyRoots (some intent) replies
  | (next, .raised) =>
      next.quarantined (unattemptedResult operationId dirtyRoots "capture_arm_unknown")
  | (next, .crashed) => (next, .crashed)

/-- `continue_capture`; the next points are given by their names. -/
def continueCapture (fence : CaptureFence) (operationId : CodeText) (nextPoints : List CodeText)
    (replies : ContinueReplies) : Session × Outcome CaptureRunResult :=
  let service := session.service
  match service.activeCapture with
  | none =>
      (session, .raised (if service.activeFence = some fence then .viewUnavailable else .staleFence))
  | some current =>
      let attempt : CaptureContinuationAttempt :=
        ⟨replies.attemptId, fence.captureGeneration, operationId, current.dirtyRoots⟩
      if service.activeFence ≠ some fence then (session, .raised .staleFence)
      else if 100 < current.dirtyRoots.length then (session, .raised .tooManyRoots)
      else if operationId = [] then (session, .raised .emptyOperationId)
      else if ¬attempt.isValid functions then (session, .raised .invalidAttempt)
      else if nextPoints = [] then
        session.prepared functions service fence operationId current.dirtyRoots none replies
      else
        match replies.resolved with
        | none => (session, .raised .backend)
        | some resolved =>
            if ¬Returned resolved nextPoints then (session, .raised .nextPointsNotReturned)
            else if ∃ point ∈ resolved, point.sourceRevision ≠ fence.sourceRevision ∨
                point.sourceSha256 ≠ fence.sourceSha256 then
              (session, .raised .sourceChanged)
            else
              session.planned functions service fence operationId current.dirtyRoots
                ⟨replies.captureIntentId, operationId, fence.sourceRevision, fence.sourceSha256,
                  max service.generation fence.captureGeneration + 1, resolved⟩ replies

end Continuation

end Session

end OnecRuntime.Correlation
