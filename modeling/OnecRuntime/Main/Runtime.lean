import OnecRuntime.Library.Transitions
import OnecRuntime.Main.Executor

/-!
# Runs of MAIN commands

The controller admits a command when no other one is active and the target is there.
Between its calls the server runs on its own. A signal says what became known of a
command: that it was dispatched or failed before that, that its instruction was
executed and ended, that its operation was closed, and what the reader returned.
-/

namespace OnecRuntime.Main

open OnecRuntime.Library

variable {Target Stop Value Decoded : Type}

/-- A command: an instruction that collects messages seals them under the key of the command. -/
structure Command where
  instruction : Instruction
  messageCollectorKey : CodeText
  sealsOwn : ∀ key, instruction.collector = some key → key = messageCollectorKey ∧ key ≠ []

structure Runtime (Target Stop Value Decoded : Type) where
  server : Server Value
  /-- `main_operation`, with its command. -/
  current : Option (Command × CommandOperation Target Stop Decoded)
  commandSequence : Nat
  /-- `_confirmed_target_termination`. -/
  terminated : Bool

inductive Action (Target Stop Value : Type) where
  | dispatch (commandId : Nat) (command : Command) (faults : DispatchFaults)
  /-- The released loop passes its service line. -/
  | proceed
  | stopInside
  | finish (execution : Execution Value)
  /-- A stop inside the instruction is observed and classified. -/
  | observeStop (stop : Stop) (target : Target) (phase : MainPhase)
  | resume (release : Release)
  | readCompletion (faults : CompletionFaults)
  | exitTarget

inductive Signal (Value Decoded : Type) where
  | dispatched (commandId : Nat) (command : Command)
  | failedBeforeDispatch (commandId : Nat)
  /-- The instruction and the identifier that the frame held. -/
  | executed (instruction : Instruction) (commandId : Nat)
  | finished (commandId : Nat) (execution : Execution Value)
  /-- The operation was closed when the frame held this completed command. -/
  | closed (commandId completedCommand : Nat)
  | returned (commandId : Nat) (completion : Completion Decoded)

def Signal.commandId : Signal Value Decoded → Nat
  | .dispatched commandId _ | .failedBeforeDispatch commandId | .executed _ commandId
  | .finished commandId _ | .closed commandId _ | .returned commandId _ => commandId

/-- An instruction without a collector leaves no messages. -/
def Execution.collectedBy (execution : Execution Value) (instruction : Instruction) :
    Execution Value :=
  if instruction.collector = none then { execution with messages := [] } else execution

namespace Runtime

abbrev Emission (Target Stop Value Decoded : Type) :=
  Option (Runtime Target Stop Value Decoded × List (Signal Value Decoded))

variable (runtime : Runtime Target Stop Value Decoded)

/-- What the controller does with a dispatch: an operation that is still admitted after an
exception fails before its dispatch. -/
def afterDispatch (commandId : Nat) (command : Command)
    (attempt : Attempt Target Stop Value Decoded (Progress Target Stop Value Decoded)) :
    Runtime Target Stop Value Decoded × List (Signal Value Decoded) :=
  match attempt with
  | .ok progress =>
      (⟨progress.server, some (command, progress.operation), commandId, runtime.terminated⟩,
        [.dispatched commandId command])
  | .error (.outcomeUnknown, progress) =>
      (⟨progress.server, some (command, progress.operation), commandId, runtime.terminated⟩,
        [.dispatched commandId command])
  | .error (.exception, progress) =>
      match progress.operation.failBeforeDispatch with
      | .ok failed =>
          (⟨progress.server, some (command, failed), commandId, runtime.terminated⟩,
            [.dispatched commandId command, .failedBeforeDispatch commandId])
      | .error _ =>
          (⟨progress.server, some (command, progress.operation), commandId, runtime.terminated⟩,
            [.dispatched commandId command])

/-- No operation is active: `A MAIN command is still active`. -/
def idle : Bool :=
  match runtime.current with
  | none => true
  | some (_, operation) => operation.terminal

def dispatch (commandId : Nat) (command : Command) (faults : DispatchFaults) :
    Emission Target Stop Value Decoded :=
  if runtime.terminated = false ∧ runtime.idle = true then
    some (runtime.afterDispatch commandId command
      (Main.dispatch
        ⟨MainOperation.new commandId none command.messageCollectorKey, runtime.server⟩
        command.instruction faults))
  else none

def proceed : Emission Target Stop Value Decoded :=
  if runtime.server.position = .released then
    some ({ runtime with server := runtime.server.proceed },
      if runtime.server.frame.completedCommand < runtime.server.frame.commandId then
        [.executed runtime.server.frame.currentInstruction runtime.server.frame.commandId]
      else [])
  else none

def stopInside : Emission Target Stop Value Decoded :=
  match runtime.server.position with
  | .executing instruction =>
      some ({ runtime with
        server := { runtime.server with position := .suspended instruction } }, [])
  | _ => none

def finish (execution : Execution Value) : Emission Target Stop Value Decoded :=
  match runtime.server.position with
  | .executing instruction =>
      some ({ runtime with
          server := runtime.server.finish instruction (execution.collectedBy instruction) },
        [.finished runtime.server.frame.commandId (execution.collectedBy instruction)])
  | _ => none

def observeStop [DecidableEq Target] (stop : Stop) (target : Target) (phase : MainPhase) :
    Emission Target Stop Value Decoded :=
  match runtime.server.position, runtime.current with
  | .suspended _, some (command, operation) =>
      some ({ runtime with current := some (command, (operation.stopped stop target phase).1) }, [])
  | _, _ => none

/-- A resume of a user or CAPTURE stop. -/
def resume (release : Release) : Emission Target Stop Value Decoded :=
  match runtime.current with
  | none => none
  | some (command, operation) =>
      if operation.phase = .suspendedCapture ∨ operation.phase = .suspendedUser then
        match continueCommand ⟨operation, runtime.server⟩ release with
        | .ok progress | .error (_, progress) =>
            some ({ runtime with
              server := progress.server
              current := some (command, progress.operation) }, [])
      else none

/-- The end of a completion: the operation takes the completion that was read. -/
def completed (command : Command) (progress : Progress Target Stop Value Decoded)
    (completion : Completion Decoded) :
    Runtime Target Stop Value Decoded × List (Signal Value Decoded) :=
  match progress.operation.complete completion with
  | .ok operation =>
      ({ runtime with server := progress.server, current := some (command, operation) },
        [.returned operation.commandId completion])
  | .error _ =>
      ({ runtime with server := progress.server, current := some (command, progress.operation) }, [])

def readCompletion (decode : Option Value → Except Unit Decoded) (faults : CompletionFaults) :
    Emission Target Stop Value Decoded :=
  match runtime.server.position, runtime.current with
  | .service, some (command, operation) =>
      match matchCompletion ⟨operation, runtime.server⟩ faults with
      | .error _ => some (runtime, [])
      | .ok progress =>
          let closed : Signal Value Decoded :=
            .closed operation.commandId runtime.server.frame.completedCommand
          match readValues decode progress operation.messageCollectorKey faults with
          | .error (_, left) =>
              some ({ runtime with
                server := left.server
                current := some (command, left.operation) }, [closed])
          | .ok (completion, left) =>
              let (next, emitted) := runtime.completed command left completion
              some (next, closed :: emitted)
  | _, _ => none

/-- The target is confirmed absent. -/
def exitTarget : Runtime Target Stop Value Decoded :=
  { runtime with
    server := { runtime.server with position := .gone }
    current := runtime.current.map fun (command, operation) =>
      match operation.markLost with
      | .ok lost => (command, lost)
      | .error _ => (command, operation)
    terminated := true }

def perform [DecidableEq Target] (decode : Option Value → Except Unit Decoded) :
    Action Target Stop Value → Emission Target Stop Value Decoded
  | .dispatch commandId command faults => runtime.dispatch commandId command faults
  | .proceed => runtime.proceed
  | .stopInside => runtime.stopInside
  | .finish execution => runtime.finish execution
  | .observeStop stop target phase => runtime.observeStop stop target phase
  | .resume release => runtime.resume release
  | .readCompletion faults => runtime.readCompletion decode faults
  | .exitTarget => some (runtime.exitTarget, [])

end Runtime

def Step [DecidableEq Target] (decode : Option Value → Except Unit Decoded)
    (runtime : Runtime Target Stop Value Decoded) (action : Action Target Stop Value)
    (next : Runtime Target Stop Value Decoded) (emitted : List (Signal Value Decoded)) : Prop :=
  runtime.perform decode action = some (next, emitted)

/-- The identifiers of the commands grow. -/
def Increasing (runtime : Runtime Target Stop Value Decoded) :
    Action Target Stop Value → Prop
  | .dispatch commandId _ _ => runtime.commandSequence < commandId
  | _ => True

/-- A command that collects no messages finds none under its key. -/
def Unmistaken (runtime : Runtime Target Stop Value Decoded) :
    Action Target Stop Value → Prop
  | .dispatch _ command _ => command.instruction.collector = none →
      command.messageCollectorKey = [] ∨ ∀ key messages,
        runtime.server.sealedMessages = some (key, messages) → key ≠ command.messageCollectorKey
  | _ => True

end OnecRuntime.Main
