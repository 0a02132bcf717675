import OnecRuntime.Library.Fallible
import OnecRuntime.Library.Json

/-!
# The MAIN operation

The lifetime of one MAIN command. Every method either changes the operation or
raises and leaves it, except that a stop of another target marks it unknown first.
-/

namespace OnecRuntime.Main

open OnecRuntime.Library

inductive MainPhase where
  | admitted
  | running
  | suspendedCapture
  | suspendedUser
  | completed
  | unknown
  | lost
  | failedBeforeDispatch
deriving DecidableEq, Repr

structure MainOperation (Target Stop Completion : Type) where
  commandId : Nat
  target : Option Target
  messageCollectorKey : CodeText
  phase : MainPhase
  commandDispatchAttempted : Bool
  pendingStop : Option Stop
  completion : Option Completion

inductive MainFailure where
  | alreadyTerminal
  | invalidStopPhase
  | anotherTarget
  | alreadyPublished
  | alreadyAttempted
deriving DecidableEq, Repr

def MainFailure.message : MainFailure → String
  | .alreadyTerminal => "MAIN operation is already terminal"
  | .invalidStopPhase => "Invalid MAIN stop phase"
  | .anotherTarget => "MAIN stop belongs to another target"
  | .alreadyPublished => "MAIN completion is already published"
  | .alreadyAttempted => "MAIN dispatch has already been attempted"

def MainPhase.terminal : MainPhase → Bool
  | .completed | .lost | .failedBeforeDispatch => true
  | .admitted | .running | .suspendedCapture | .suspendedUser | .unknown => false

namespace MainOperation

variable {Target Stop Completion : Type}

/-- `MainOperation(command_id, target)`. -/
def new (commandId : Nat) (target : Option Target) (messageCollectorKey : CodeText) :
    MainOperation Target Stop Completion :=
  ⟨commandId, target, messageCollectorKey, .admitted, false, none, none⟩

def terminal (operation : MainOperation Target Stop Completion) : Bool := operation.phase.terminal

def requireLive (operation : MainOperation Target Stop Completion) : Except MainFailure Unit :=
  require (operation.terminal = false) .alreadyTerminal

def commandWriteRequested (operation : MainOperation Target Stop Completion) :
    Except MainFailure (MainOperation Target Stop Completion) := do
  operation.requireLive
  pure { operation with phase := .unknown }

def commandWriteAcknowledged (operation : MainOperation Target Stop Completion) :
    Except MainFailure (MainOperation Target Stop Completion) := do
  operation.requireLive
  if operation.commandDispatchAttempted then pure operation
  else pure { operation with phase := .admitted }

def continueRequested (operation : MainOperation Target Stop Completion) :
    Except MainFailure (MainOperation Target Stop Completion) := do
  operation.requireLive
  pure { operation with commandDispatchAttempted := true, phase := .unknown, pendingStop := none }

def continueAcknowledged (operation : MainOperation Target Stop Completion) :
    Except MainFailure (MainOperation Target Stop Completion) := do
  operation.requireLive
  pure { operation with phase := .running, pendingStop := none }

/-- The phases that `stopped` accepts. -/
def IsStopPhase (phase : MainPhase) : Prop :=
  phase = .suspendedCapture ∨ phase = .suspendedUser ∨ phase = .unknown

instance isStopPhaseDecidable (phase : MainPhase) : Decidable (IsStopPhase phase) :=
  inferInstanceAs (Decidable (_ ∨ _ ∨ _))

/-- `stopped`: the operation afterwards, and whether the call raised. -/
def stopped [DecidableEq Target] (operation : MainOperation Target Stop Completion) (stop : Stop)
    (stopTarget : Target) (phase : MainPhase) :
    MainOperation Target Stop Completion × Option MainFailure :=
  if operation.terminal then (operation, some .alreadyTerminal)
  else if ¬IsStopPhase phase then (operation, some .invalidStopPhase)
  else if operation.target.any (· ≠ stopTarget) then
    ({ operation with phase := .unknown }, some .anotherTarget)
  else ({ operation with target := some stopTarget, pendingStop := some stop, phase }, none)

def complete (operation : MainOperation Target Stop Completion) (completion : Completion) :
    Except MainFailure (MainOperation Target Stop Completion) := do
  if operation.phase = .completed then
    require (operation.completion.isNone = true) .alreadyPublished
  else operation.requireLive
  pure { operation with completion := some completion, pendingStop := none, phase := .completed }

def remoteCompleted (operation : MainOperation Target Stop Completion) :
    Except MainFailure (MainOperation Target Stop Completion) := do
  operation.requireLive
  pure { operation with pendingStop := none, phase := .completed }

def failBeforeDispatch (operation : MainOperation Target Stop Completion) :
    Except MainFailure (MainOperation Target Stop Completion) := do
  require (operation.phase = .admitted) .alreadyAttempted
  pure { operation with phase := .failedBeforeDispatch }

def markUnknown (operation : MainOperation Target Stop Completion) :
    Except MainFailure (MainOperation Target Stop Completion) := do
  operation.requireLive
  pure { operation with phase := .unknown }

def markLost (operation : MainOperation Target Stop Completion) :
    Except MainFailure (MainOperation Target Stop Completion) := do
  operation.requireLive
  pure { operation with pendingStop := none, phase := .lost }

end MainOperation

end OnecRuntime.Main

/-!
# The command loop of the server

The loop `Запустить` and its frame. The debugger holds the loop at its service line or
at a stop inside an instruction; a Continue releases it, and it runs on its own until
the next stop. The loop compares the two command identifiers, executes the current
instruction when the first is greater, and copies the first to the second after that.
An instruction that collects messages seals them under its key when it ends.
-/

namespace OnecRuntime.Main

open OnecRuntime.Library

structure Instruction where
  source : CodeText
  /-- The key of the collector around the instruction, when it intercepts messages. -/
  collector : Option CodeText
deriving DecidableEq

/-- The frame variables, in their order in the loop. -/
structure Frame (Value : Type) where
  currentInstruction : Instruction
  commandId : Nat
  completedCommand : Nat
  result : Option Value
  error : CodeText

inductive Position where
  /-- Stopped at the service line. -/
  | service
  /-- Released from the service line. -/
  | released
  /-- Inside an instruction. -/
  | executing (instruction : Instruction)
  /-- Stopped inside an instruction. -/
  | suspended (instruction : Instruction)
  /-- The target has exited. -/
  | gone
deriving DecidableEq

/-- How an instruction ended: the value and the error it left, and the messages it collected. -/
structure Execution (Value : Type) where
  result : Option Value
  error : CodeText
  messages : List CodeText

structure Server (Value : Type) where
  frame : Frame Value
  position : Position
  /-- The sealed messages of a collector, with its key. -/
  sealedMessages : Option (CodeText × List CodeText)

namespace Server

variable {Value : Type}

/-- `Если ИдентификаторКоманды > ЗавершеннаяКоманда`: the loop passes its service line. -/
def proceed (server : Server Value) : Server Value :=
  if server.frame.completedCommand < server.frame.commandId then
    { server with
      frame := { server.frame with result := none, error := [] }
      position := .executing server.frame.currentInstruction }
  else { server with position := .service }

/-- The messages that an ended instruction leaves. -/
def sealing (instruction : Instruction) (messages : List CodeText)
    (before : Option (CodeText × List CodeText)) : Option (CodeText × List CodeText) :=
  match instruction.collector with
  | some key => some (key, messages)
  | none => before

/-- The instruction ends, and the loop comes back to its service line. -/
def finish (server : Server Value) (instruction : Instruction) (execution : Execution Value) :
    Server Value :=
  { frame :=
      { server.frame with
        result := execution.result
        error := execution.error
        completedCommand := server.frame.commandId }
    position := .service
    sealedMessages := sealing instruction execution.messages server.sealedMessages }

/-- `ЗабратьСообщенияЯчейкиИзКонтекста`: the messages under a key, which it removes. -/
def takeMessages (server : Server Value) (key : CodeText) : List CodeText × Server Value :=
  match server.sealedMessages with
  | none => ([], server)
  | some (resultKey, messages) =>
      if resultKey = key then (messages, { server with sealedMessages := none }) else ([], server)

/-- What a Continue that takes effect does. -/
def release (server : Server Value) : Server Value :=
  match server.position with
  | .service => { server with position := .released }
  | .suspended instruction => { server with position := .executing instruction }
  | _ => server

def writeInstruction (server : Server Value) (instruction : Instruction) : Server Value :=
  { server with frame := { server.frame with currentInstruction := instruction } }

def writeCommandId (server : Server Value) (commandId : Nat) : Server Value :=
  { server with frame := { server.frame with commandId } }

end Server

end OnecRuntime.Main

/-!
# Dispatch and completion of a MAIN command

The executor writes the two command fields and continues the target; the completion
reader compares the completed command and reads the rest of the frame. Every remote
request can raise before it is sent, after it took effect, or without effect, and an
answered request can report an error. An exception carries what was done until then.
-/

namespace OnecRuntime.Main

open OnecRuntime.Library

variable {Target Stop Value Decoded : Type}

/-- What `read_main_completion` returns. -/
structure Completion (Decoded : Type) where
  result : Decoded
  error : CodeText
  messages : List CodeText

abbrev CommandOperation (Target Stop Decoded : Type) :=
  MainOperation Target Stop (Completion Decoded)

structure Progress (Target Stop Value Decoded : Type) where
  operation : CommandOperation Target Stop Decoded
  server : Server Value

inductive Raised where
  | exception
  | outcomeUnknown
deriving DecidableEq, Repr

/-- A call leaves its progress both when it returns and when it raises. -/
abbrev Attempt (Target Stop Value Decoded α : Type) :=
  Except (Raised × Progress Target Stop Value Decoded) α

/-! ## Dispatch -/

/-- What becomes of a local callback. -/
inductive Callback where
  | returned
  | raised (kind : Raised)
deriving DecidableEq, Repr

/-- What becomes of a `modify` request. -/
inductive Write where
  | refused
  /-- The request was sent and the call raised. -/
  | lost (effect : Bool)
  /-- The result reports an error. -/
  | rejected (effect : Bool)
  | written
deriving DecidableEq, Repr

/-- What becomes of a `continue_` request. -/
inductive Release where
  | refused
  | lost (effect : Bool)
  | acknowledged
deriving DecidableEq, Repr

structure DispatchFaults where
  installWorkspace : Callback
  beforeCommandWrite : Callback
  instruction : Write
  commandId : Write
  beforeContinue : Callback
  continue_ : Release

def callBack (progress : Progress Target Stop Value Decoded) :
    Callback → Attempt Target Stop Value Decoded (Progress Target Stop Value Decoded)
  | .returned => .ok progress
  | .raised kind => .error (kind, progress)

/-- An operation method as a transport callback or after a request. -/
def moveOperation (progress : Progress Target Stop Value Decoded)
    (moved : Except MainFailure (CommandOperation Target Stop Decoded)) :
    Attempt Target Stop Value Decoded (Progress Target Stop Value Decoded) :=
  match moved with
  | .ok operation => .ok { progress with operation }
  | .error _ => .error (.exception, progress)

/-- What an assignment with or without effect leaves. -/
def Server.affected (server : Server Value) (effect : Bool) (assigned : Server Value) :
    Server Value :=
  if effect then assigned else server

/-- `modify`, `command_write_acknowledged` and `_checked_modify`. -/
def modify (progress : Progress Target Stop Value Decoded)
    (assign : Server Value → Server Value) (write : Write) :
    Attempt Target Stop Value Decoded (Progress Target Stop Value Decoded) :=
  match write with
  | .refused => .error (.exception, progress)
  | .lost effect => do
      let sent ← moveOperation progress progress.operation.commandWriteRequested
      .error (.outcomeUnknown,
        { sent with server := sent.server.affected effect (assign sent.server) })
  | .rejected effect => do
      let sent ← moveOperation progress progress.operation.commandWriteRequested
      let answered ← moveOperation
        { sent with server := sent.server.affected effect (assign sent.server) }
        sent.operation.commandWriteAcknowledged
      .error (.exception, answered)
  | .written => do
      let sent ← moveOperation progress progress.operation.commandWriteRequested
      moveOperation { sent with server := assign sent.server }
        sent.operation.commandWriteAcknowledged

/-- `continue_command`. -/
def continueCommand (progress : Progress Target Stop Value Decoded) (release : Release) :
    Attempt Target Stop Value Decoded (Progress Target Stop Value Decoded) :=
  if progress.operation.terminal then .error (.exception, progress)
  else
    match release with
    | .refused => .error (.exception, progress)
    | .lost effect => do
        let sent ← moveOperation progress progress.operation.continueRequested
        .error (.outcomeUnknown,
          { sent with server := sent.server.affected effect sent.server.release })
    | .acknowledged => do
        let sent ← moveOperation progress progress.operation.continueRequested
        moveOperation { sent with server := sent.server.release }
          sent.operation.continueAcknowledged

/-- `dispatch`, until it waits for the next stop. -/
def dispatch (progress : Progress Target Stop Value Decoded) (instruction : Instruction)
    (faults : DispatchFaults) :
    Attempt Target Stop Value Decoded (Progress Target Stop Value Decoded) := do
  let installed ← callBack progress faults.installWorkspace
  let ready ← callBack installed faults.beforeCommandWrite
  let named ← modify ready (·.writeInstruction instruction) faults.instruction
  let numbered ← modify named (·.writeCommandId progress.operation.commandId) faults.commandId
  let admitted ← callBack numbered faults.beforeContinue
  continueCommand admitted faults.continue_

/-! ## Completion -/

/-- What becomes of the evaluation of a frame variable. -/
inductive Evaluation where
  | answered
  /-- The result reports an error. -/
  | erroneous
  /-- The result is no scalar that can be decoded. -/
  | undecodable
  | raised
deriving DecidableEq, Repr

/-- What becomes of the request that takes the messages. -/
inductive Taking where
  | answered
  | erroneous (effect : Bool)
  | raised (effect : Bool)
  /-- The answer is no JSON array of texts. -/
  | malformed
deriving DecidableEq, Repr

structure CompletionFaults where
  completedCommand : Evaluation
  result : Evaluation
  error : Evaluation
  onErrorDecoded : Callback
  messages : Taking

inductive ReadFailure where
  | transport
  | bslExecution
  | mismatch
  | alreadyTerminal
  | scalarDecode
  | messagePayload
  | callback
deriving DecidableEq, Repr

/-- An exception of the reader carries the operation and the server that it leaves. -/
abbrev Reading (Target Stop Value Decoded α : Type) :=
  Except (ReadFailure × Progress Target Stop Value Decoded) α

/-- `_read`: the request was answered. -/
def readVariable (progress : Progress Target Stop Value Decoded) (evaluation : Evaluation) :
    Reading Target Stop Value Decoded Unit :=
  require (evaluation ≠ .raised) (.transport, progress)

/-- `_require_success`. -/
def requireSuccess (progress : Progress Target Stop Value Decoded) (evaluation : Evaluation) :
    Reading Target Stop Value Decoded Unit :=
  require (evaluation ≠ .erroneous) (.bslExecution, progress)

/-- `_decode_scalar`, apart from the value. -/
def requireScalar (progress : Progress Target Stop Value Decoded) (evaluation : Evaluation) :
    Reading Target Stop Value Decoded Unit :=
  require (evaluation ≠ .undecodable) (.scalarDecode, progress)

def collectMessages (progress : Progress Target Stop Value Decoded) (key : CodeText)
    (taking : Taking) :
    Reading Target Stop Value Decoded (List CodeText × Progress Target Stop Value Decoded) :=
  if key = [] then .ok ([], progress)
  else
    match taking with
    | .answered =>
        .ok ((progress.server.takeMessages key).1,
          { progress with server := (progress.server.takeMessages key).2 })
    | .erroneous effect =>
        .error (.bslExecution, { progress with
          server := progress.server.affected effect (progress.server.takeMessages key).2 })
    | .raised effect =>
        .error (.transport, { progress with
          server := progress.server.affected effect (progress.server.takeMessages key).2 })
    | .malformed =>
        .error (.messagePayload,
          { progress with server := (progress.server.takeMessages key).2 })

/-- The values and the messages, after the identifier matched and closed the operation. -/
def readValues (decode : Option Value → Except Unit Decoded)
    (progress : Progress Target Stop Value Decoded) (key : CodeText) (faults : CompletionFaults) :
    Reading Target Stop Value Decoded
      (Completion Decoded × Progress Target Stop Value Decoded) := do
  readVariable progress faults.result
  readVariable progress faults.error
  requireSuccess progress faults.result
  requireSuccess progress faults.error
  requireScalar progress faults.error
  require (faults.onErrorDecoded = .returned) (.callback, progress)
  requireScalar progress faults.result
  match decode progress.server.frame.result with
  | .error () => .error (.scalarDecode, progress)
  | .ok result => do
      let (messages, collected) ← collectMessages progress key faults.messages
      pure (⟨result, progress.server.frame.error, messages⟩, collected)

/-- `read_main_completion` up to the matching identifier, which closes the operation. -/
def matchCompletion (progress : Progress Target Stop Value Decoded) (faults : CompletionFaults) :
    Reading Target Stop Value Decoded (Progress Target Stop Value Decoded) := do
  readVariable progress faults.completedCommand
  requireSuccess progress faults.completedCommand
  requireScalar progress faults.completedCommand
  require (progress.server.frame.completedCommand = progress.operation.commandId)
    (.mismatch, progress)
  match progress.operation.remoteCompleted with
  | .ok operation => .ok { progress with operation }
  | .error _ => .error (.alreadyTerminal, progress)

end OnecRuntime.Main
