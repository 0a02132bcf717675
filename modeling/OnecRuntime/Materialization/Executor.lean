import OnecRuntime.Bsl.Words
import OnecRuntime.Library.Dictionary
import OnecRuntime.Library.Programs

/-!
# The transfer of a captured value

A transfer creates a temporary key in the stopped frame, reads what the key holds and deletes it;
a retry deletes a key whose deletion was rejected.  Both run on the worker of the arbiter and ask
it for remote steps, the policy of the value for its checks and the evaluation ledger for the end
of the record.  The keys of the scope are written by them only.
-/

namespace OnecRuntime.Materialization

open OnecRuntime.Library OnecRuntime.Bsl

abbrev Text := List Char

inductive CleanupState where
  | live
  | confirmedFailure
  | unknown
deriving DecidableEq, Repr

/-- `_temporary_keys` of the scope. -/
abbrev Keys := Dictionary Text CleanupState

/-- What the scope of a stop keeps while the stop lasts. -/
structure Scope where
  contextReady : Bool
  frameConfirmed : Bool
  kernelStackLevel : Option Int
deriving DecidableEq, Repr

structure Plan where
  instruction : Text
  privateKey : Text
  cleanupInstruction : Text
  maxTextSize : Int
deriving DecidableEq, Repr

abbrev Payload := List UInt8

/-- What foreign code raised: an `OutcomeUnknown`, another `Exception` or neither. -/
inductive Raised where
  | outcomeUnknown
  | exception
  | baseException
deriving DecidableEq, Repr

inductive Problem where
  | runtime (message : String)
  | protocol (message : String)
  | value (message : String)
  | key (message : String)
  | valueCheck (message : String)
  | foreign (raised : Raised)
  | suspended
  | repairRequired (stage : String)
  | cleanupSuspended (key : Text)
  | cleanupOutcomeUnknown (key : Text)
  | confirmedCleanupFailure (key : Text)
deriving DecidableEq, Repr

/-- The exception is an `OutcomeUnknown`. -/
def Problem.outcomeUnknown : Problem → Bool
  | foreign raised => raised = .outcomeUnknown
  | repairRequired _ | cleanupOutcomeUnknown _ => true
  | _ => false

/-! ## What is asked -/

inductive Purpose where
  | create
  | read
  | delete
deriving DecidableEq, Repr

structure Evaluation where
  purpose : Purpose
  key : Text
  expression : Text
  stackLevel : Option Int
  maxTextSize : Int
deriving DecidableEq, Repr

inductive Question where
  | prepare
  | shieldWorkspace
  | restoreWorkspace
  | evaluate (evaluation : Evaluation)
  | admitMetadata
  | evaluationToPython
  | decode
  | fail (error : String)
  | complete
  | resume
deriving DecidableEq, Repr

/-- The end of a step on the session; a raised one may leave the ticket an unretired
capability. -/
inductive WorkspaceAnswer where
  | done
  | raised (error : Raised) (retained : Bool)
deriving DecidableEq, Repr

inductive EvaluationAnswer where
  | returned (errorOccurred : Bool)
  | suspended
  | raised (error : Raised) (retained : Bool)
deriving DecidableEq, Repr

/-- The policy returns a text or bytes, something else, or raises. -/
abbrev Answer : Question → Type
  | .prepare => Except Raised Unit
  | .shieldWorkspace => WorkspaceAnswer
  | .restoreWorkspace => WorkspaceAnswer
  | .evaluate _ => EvaluationAnswer
  | .admitMetadata => Except Raised Unit
  | .evaluationToPython => Except Raised (Option Text)
  | .decode => Except Raised (Option Payload)
  | .fail _ => Except String Unit
  | .complete => Except String Unit
  | .resume => WorkspaceAnswer

abbrev Transfer := Fallible Keys Answer Problem

abbrev Log := List (Exchange Answer)

/-! ## The keys of the scope -/

/-- `track_temporary_key`. -/
def trackTemporaryKey (key : Text) : Transfer Unit := do
  let keys ← Fallible.get
  if key = [] then throw (.value "temporary key must be non-empty text")
  else if keys.get? key ≠ none then throw (.value "temporary key is already tracked")
  else Fallible.modify (·.set key .live)

/-- `note_temporary_cleanup_failure` and `note_temporary_cleanup_unknown`. -/
def noteTemporaryCleanup (state : CleanupState) (key : Text) : Transfer Unit := do
  let keys ← Fallible.get
  if keys.get? key = none then throw (.key "temporary key is not tracked")
  else Fallible.modify (·.set key state)

def noteTemporaryCleanupFailure : Text → Transfer Unit :=
  noteTemporaryCleanup .confirmedFailure

def noteTemporaryCleanupUnknown : Text → Transfer Unit := noteTemporaryCleanup .unknown

def confirmTemporaryCleanup (key : Text) : Transfer Unit := do
  let keys ← Fallible.get
  if keys.get? key = none then throw (.key (String.ofList key))
  else Fallible.modify (·.erase key)

/-! ## Checks -/

def isLowerHex (char : Char) : Bool :=
  decide ('0' ≤ char ∧ char ≤ '9') || decide ('a' ≤ char ∧ char ≤ 'f')

def privateKeyMarks : List Text :=
  ["__onec_compact_table_".toList, "__onec_value_".toList, "__onec_projection_".toList,
    "__onec_materialization_".toList]

/-- `_PRIVATE_KEY.fullmatch`. -/
def isPrivateKey (key : Text) : Bool :=
  privateKeyMarks.any fun mark =>
    mark.isPrefixOf key && (key.drop mark.length).length == 32 &&
      (key.drop mark.length).all isLowerHex

def Scope.ready (scope : Scope) : Bool :=
  scope.contextReady && scope.frameConfirmed && scope.kernelStackLevel.isSome

/-- `_validate`. -/
def validate (scope : Scope) (plan : Plan) : Transfer Unit :=
  if scope.ready = false then throw (.runtime "CAPTURE scope is not ready for materialization")
  else if isPrivateKey plan.privateKey = false ∨ plan.instruction = [] ∨
      plan.cleanupInstruction = [] ∨ plan.maxTextSize ≤ 0 then
    throw (.protocol "CAPTURE transfer plan is invalid")
  else pure ()

/-! ## Remote steps -/

def settingResult (instruction : Text) : Text :=
  buildLiveCurrentCaptureCall (instruction ++ "\nРезультатИнструкции = Результат;".toList)

def creation (scope : Scope) (plan : Plan) : Evaluation :=
  ⟨.create, plan.privateKey, settingResult plan.instruction, scope.kernelStackLevel,
    plan.maxTextSize⟩

def reading (scope : Scope) (plan : Plan) : Evaluation :=
  ⟨.read, plan.privateKey,
    "RuntimeKernelServer.ЗабратьКомпактнуюМатериализациюИзКонтекста(e1cRuntimeКонтекст, ".toList ++
      bslStringLiteral plan.privateKey ++ [')'],
    scope.kernelStackLevel, plan.maxTextSize⟩

def deletion (scope : Scope) (plan : Plan) : Evaluation :=
  ⟨.delete, plan.privateKey, settingResult plan.cleanupInstruction, scope.kernelStackLevel,
    plan.maxTextSize⟩

def retriedDeletion (scope : Scope) (key : Text) : Evaluation :=
  ⟨.delete, key,
    settingResult ("e1cRuntimeКонтекст.Удалить(".toList ++ bslStringLiteral key ++
      ");\nРезультат = Истина;".toList),
    scope.kernelStackLevel, 2048⟩

/-- A session call that is no deletion raised; anything but an unknown outcome needs a repair. -/
def unresolved (stage : String) (raised : Raised) : Problem :=
  if raised = .outcomeUnknown then .foreign raised else .repairRequired stage

/-! ## The transfer -/

/-- `on_confirmed_failure`: the ledger retires the record before the ticket settles. -/
def publishFailure (error : String) : Transfer Unit := do
  match (← Fallible.request (.fail error) : Except String Unit) with
  | .ok () => pure ()
  | .error message => throw (.protocol message)

/-- The payload that the policy accepts, or the problem that is kept until the key is deleted. -/
def decoded (plan : Plan) : Transfer (Except Problem Payload) := do
  match (← Fallible.request .evaluationToPython : Except Raised (Option Text)) with
  | .error raised => pure (.error (.foreign raised))
  | .ok none => pure (.error (.valueCheck "CAPTURE materialization payload is invalid"))
  | .ok (some content) =>
      if plan.maxTextSize < content.length then
        pure (.error (.valueCheck "CAPTURE materialization payload is invalid"))
      else
        match (← Fallible.request .decode : Except Raised (Option Payload)) with
        | .error raised => pure (.error (.foreign raised))
        | .ok none => pure (.error (.valueCheck "CAPTURE materialization payload is invalid"))
        | .ok (some payload) => pure (.ok payload)

def received (scope : Scope) (plan : Plan) (errorOccurred : Bool) :
    Transfer (Except Problem Payload) :=
  if errorOccurred then pure (.error (.valueCheck "CAPTURE value admission failed"))
  else do
    match (← Fallible.request .admitMetadata : Except Raised Unit) with
    | .error raised => pure (.error (.foreign raised))
    | .ok () =>
        match (← Fallible.request (.evaluate (reading scope plan)) : EvaluationAnswer) with
        | .suspended => throw .suspended
        | .raised raised _ => throw (unresolved "payload_read" raised)
        | .returned true =>
            pure (.error (.valueCheck "CAPTURE materialization payload is unavailable"))
        | .returned false => decoded plan

/-- The deletion of the key, behind everything that the policy decided. -/
def removed (scope : Scope) (plan : Plan) (policy : Except Problem Payload) :
    Transfer Payload := do
  match (← Fallible.request (.evaluate (deletion scope plan)) : EvaluationAnswer) with
  | .suspended => do
      noteTemporaryCleanupUnknown plan.privateKey
      throw (.cleanupSuspended plan.privateKey)
  | .raised _ _ => do
      noteTemporaryCleanupUnknown plan.privateKey
      throw (.cleanupOutcomeUnknown plan.privateKey)
  | .returned true => do
      noteTemporaryCleanupFailure plan.privateKey
      publishFailure "CAPTURE materialization failed"
      throw (.confirmedCleanupFailure plan.privateKey)
  | .returned false => do
      confirmTemporaryCleanup plan.privateKey
      match policy with
      | .error problem => do
          publishFailure "CAPTURE materialization failed"
          throw problem
      | .ok payload => pure payload

/-- The creating evaluation and what follows it. -/
def created (scope : Scope) (plan : Plan) : Transfer Payload := do
  match (← Fallible.request (.evaluate (creation scope plan)) : EvaluationAnswer) with
  | .suspended => throw .suspended
  | .raised raised _ => throw (unresolved "workspace_restore" raised)
  | .returned errorOccurred =>
      match (← Fallible.request .restoreWorkspace : WorkspaceAnswer) with
      | .raised _ _ => throw (.repairRequired "workspace_restore")
      | .done => do
          let policy ← received scope plan errorOccurred
          removed scope plan policy

def execute (scope : Scope) (plan : Plan) : Transfer Payload := do
  validate scope plan
  trackTemporaryKey plan.privateKey
  match (← Fallible.request .shieldWorkspace : WorkspaceAnswer) with
  -- Workspace installation cannot create the transfer key.
  | .raised raised _ => do
      confirmTemporaryCleanup plan.privateKey
      throw (.foreign raised)
  | .done => created scope plan

/-! ## The plans of the data plane -/

/-- What a plan hands to the arbiter. -/
inductive Conclusion where
  | confirmedFailure (problem : Problem)
  | payload (bytes : Payload)
  | nothing
deriving DecidableEq, Repr

/-- `materialization_plan` with the finalizer of the ticket, which completes the record.  A
selected table is prepared first; the plan that results is the one of the request. -/
def materializationPlan (scope : Scope) (plan : Plan) : Transfer Conclusion := do
  match (← Fallible.request .prepare : Except Raised Unit) with
  | .error .baseException => throw (.foreign .baseException)
  | .error raised => do
      publishFailure "CAPTURE materialization preparation failed"
      pure (.confirmedFailure (.foreign raised))
  | .ok () => do
      let bytes ← execute scope plan
      match (← Fallible.request .complete : Except String Unit) with
      | .error message => throw (.protocol message)
      | .ok () => pure (.payload bytes)

/-- `retry_confirmed_cleanup`. -/
def retryConfirmedCleanup (scope : Scope) (key : Text) : Transfer Conclusion := do
  let keys ← Fallible.get
  if scope.ready = false ∨ isPrivateKey key = false ∨ keys.get? key ≠ some .confirmedFailure then
    throw (.protocol "No confirmed CAPTURE cleanup failure can be retried")
  else
    match (← Fallible.request .shieldWorkspace : WorkspaceAnswer) with
    | .raised _ _ => throw (.repairRequired "workspace_restore")
    | .done =>
        match (← Fallible.request (.evaluate (retriedDeletion scope key)) : EvaluationAnswer) with
        | .suspended => do
            noteTemporaryCleanupUnknown key
            throw .suspended
        | .raised raised _ => do
            noteTemporaryCleanupUnknown key
            throw (if raised = .outcomeUnknown then .foreign raised
              else .cleanupOutcomeUnknown key)
        | .returned errorOccurred => do
            if errorOccurred then pure () else confirmTemporaryCleanup key
            match (← Fallible.request .restoreWorkspace : WorkspaceAnswer) with
            | .raised _ _ => throw (.repairRequired "workspace_restore")
            | .done =>
                if errorOccurred then throw (.confirmedCleanupFailure key) else pure .nothing

/-- A resume up to the end of the scope; it leaves the temporary keys alone. -/
def resumption : Transfer Conclusion := do
  match (← Fallible.request .resume : WorkspaceAnswer) with
  | .raised raised _ => throw (.foreign raised)
  | .done => pure .nothing

end OnecRuntime.Materialization
