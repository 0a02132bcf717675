import OnecRuntime.Main.Law

/-!
# The law of a run

The facts of a run under increasing identifiers. One command can leave messages behind
under the key that all commands share, so the law needs that a command which collects
none finds none.
-/

namespace OnecRuntime.Main

open OnecRuntime.Library

variable {Target Stop Value Decoded : Type} {decode : Option Value → Except Unit Decoded}
  {signals : List (Signal Value Decoded)} {runtime : Runtime Target Stop Value Decoded}

/-- Commands are executed once, and a completion is that of its own execution. -/
structure MainLaw (decode : Option Value → Except Unit Decoded)
    (signals : List (Signal Value Decoded)) (runtime : Runtime Target Stop Value Decoded) :
    Prop where
  executedOnce : ∀ commandId, (signals.filter (Signal.executes commandId)).length ≤ 1
  /-- Both command fields are those of one dispatched command. -/
  executedOwn : ∀ {instruction commandId}, .executed instruction commandId ∈ signals →
    ∃ command, .dispatched commandId command ∈ signals ∧ command.instruction = instruction
  dispatchedOnce : ∀ {commandId first second}, .dispatched commandId first ∈ signals →
    .dispatched commandId second ∈ signals → first = second
  failedNever : ∀ {commandId}, .failedBeforeDispatch commandId ∈ signals → Never signals commandId
  finishedOnce : ∀ {commandId first second}, .finished commandId first ∈ signals →
    .finished commandId second ∈ signals → first = second
  finishedExecuted : ∀ {commandId execution}, .finished commandId execution ∈ signals →
    ∃ instruction, .executed instruction commandId ∈ signals
  completed : ∀ {command operation}, runtime.current = some (command, operation) →
    operation.phase = .completed → .closed operation.commandId operation.commandId ∈ signals
  closedOwn : ∀ {commandId completedCommand}, .closed commandId completedCommand ∈ signals →
    completedCommand = commandId ∧ ∃ execution, .finished commandId execution ∈ signals
  returnedOwn : ∀ {commandId completion}, .returned commandId completion ∈ signals →
    ∃ execution, .finished commandId execution ∈ signals ∧
      decode execution.result = .ok completion.result ∧
      completion.error = execution.error ∧ completion.messages = execution.messages
  returnedOnce : ∀ commandId, (signals.filter (Signal.returns commandId)).length ≤ 1

/-- A runtime before any command. -/
def opened (instruction : Instruction) : Runtime Target Stop Value Decoded :=
  ⟨⟨⟨instruction, 0, 0, none, []⟩, .service, none⟩, none, 0, false⟩

theorem opened_orderly (instruction : Instruction) :
    Orderly decode []
      (opened instruction : Runtime Target Stop Value Decoded) := by
  refine ⟨⟨?_, ?_, fun _ => Nat.zero_le _, ?_, ?_, ?_, ?_, ?_, fun _ => Nat.zero_le _⟩, ?_,
    Nat.le_refl 0, fun _ => .inl rfl, ?_, ?_⟩
  · intro _ _ _ member
    cases member
  · intro _ _ member
    cases member
  · intro _ member
    cases member
  · intro _ _ _ member
    cases member
  · intro _ _ member
    cases member
  · intro _ _ member
    cases member
  · intro _ _ member
    cases member
  · intro _ member
    cases member
  · intro impossible
    cases impossible
  · intro _ _ impossible
    cases impossible

theorem perform_orderly [DecidableEq Target] (orderly : Orderly decode signals runtime)
    {action : Action Target Stop Value} {next : Runtime Target Stop Value Decoded}
    {emitted : List (Signal Value Decoded)} (increasing : Increasing runtime action)
    (unmistaken : Unmistaken runtime action)
    (performed : runtime.perform decode action = some (next, emitted)) :
    Orderly decode (signals ++ emitted) next := by
  cases action with
  | dispatch commandId command faults =>
      exact dispatch_orderly orderly increasing unmistaken performed
  | proceed => exact proceed_orderly orderly performed
  | stopInside => exact stopInside_orderly orderly performed
  | finish execution => exact finish_orderly orderly performed
  | observeStop stop target phase => exact observeStop_orderly orderly performed
  | resume release => exact resume_orderly orderly performed
  | readCompletion faults => exact readCompletion_orderly orderly performed
  | exitTarget =>
      cases performed
      exact exitTarget_orderly orderly

theorem Orderly.law (orderly : Orderly decode signals runtime) :
    MainLaw decode signals runtime :=
  ⟨orderly.history.executedOnce, orderly.history.executedOwn, orderly.history.dispatchedOnce,
    orderly.history.failedNever, orderly.history.finishedOnce, orderly.history.finishedExecuted,
    fun current => (orderly.status current).2.closed, orderly.history.closedOwn,
    orderly.history.returnedOwn, orderly.history.returnedOnce⟩

/-- In every run of increasing commands where none that collects no messages finds some under
its key, each is executed once and its completion is its own. -/
theorem main_law [DecidableEq Target] {instruction : Instruction}
    (run : Run (Step decode) (fun runtime action => Increasing runtime action ∧
      Unmistaken runtime action) (opened instruction) signals runtime) :
    MainLaw decode signals runtime := by
  refine Orderly.law ?_
  induction run with
  | start => exact opened_orderly instruction
  | further before taken allowed hypothesis =>
      exact perform_orderly hypothesis allowed.1 allowed.2 taken

/-! ## Runs of two commands -/

/-- A result that was left is decoded. -/
def decodeUnit (result : Option Unit) : Except Unit Unit := result.elim (.error ()) .ok

def sharedKey : CodeText := text "__onec_cell_messages"

theorem sharedKey_ne_nil : sharedKey ≠ [] := by decide

/-- A command that shows a message. -/
def showingCommand : Command :=
  ⟨⟨text "Message", some sharedKey⟩, sharedKey,
    fun _ same => ⟨(Option.some.inj same).symm, Option.some.inj same ▸ sharedKey_ne_nil⟩⟩

/-- A command under the same key that shows none. -/
def silentCommand : Command := ⟨⟨text "Value", none⟩, sharedKey, fun _ same => by cases same⟩

def answeredDispatch : DispatchFaults :=
  ⟨.returned, .returned, .written, .written, .returned, .acknowledged⟩

def answeredRead : CompletionFaults := ⟨.answered, .answered, .answered, .returned, .answered⟩

def shown : Execution Unit := ⟨some (), [], [text "Hello"]⟩

def silent : Execution Unit := ⟨some (), [], []⟩

def hello : Completion Unit := ⟨(), [], [text "Hello"]⟩

def firstRuntime : Runtime Unit Unit Unit Unit := opened ⟨[], none⟩

def failedSignals : List (Signal Unit Unit) :=
  [.dispatched 1 silentCommand, .failedBeforeDispatch 1, .dispatched 2 showingCommand,
    .executed showingCommand.instruction 2, .finished 2 shown, .closed 2 2, .returned 2 hello]

/-- A first command whose identifier is not written fails before its dispatch; the second is
executed, and its message is returned once. -/
theorem failed_then_returned_law :
    ∃ runtime, Run (Step decodeUnit) (fun runtime action => Increasing runtime action ∧
        Unmistaken runtime action) firstRuntime failedSignals runtime ∧
      MainLaw decodeUnit failedSignals runtime := by
  have run : Run (Step decodeUnit) (fun runtime action => Increasing runtime action ∧
    Unmistaken runtime action) firstRuntime _ _ := .start
  have run := run.further (show Step decodeUnit _ (.dispatch 1 silentCommand
    { answeredDispatch with commandId := .refused }) _ _ from rfl)
    ⟨Nat.one_pos, fun _ => .inr (fun _ _ impossible => by cases impossible)⟩
  have run := run.further (show Step decodeUnit _ (.dispatch 2 showingCommand answeredDispatch) _ _
    from rfl) ⟨Nat.lt_succ_self 1, fun silent => by cases silent⟩
  have run := run.further (show Step decodeUnit _ .proceed _ _ from rfl) ⟨trivial, trivial⟩
  have run := run.further (show Step decodeUnit _ (.finish shown) _ _ from rfl) ⟨trivial, trivial⟩
  have run := run.further (show Step decodeUnit _ (.readCompletion answeredRead) _ _ from rfl)
    ⟨trivial, trivial⟩
  have run : Run _ _ firstRuntime failedSignals _ := run
  exact ⟨_, run, main_law run⟩

def leftSignals : List (Signal Unit Unit) :=
  [.dispatched 1 showingCommand, .executed showingCommand.instruction 1, .finished 1 shown,
    .closed 1 1, .dispatched 2 silentCommand, .executed silentCommand.instruction 2,
    .finished 2 silent, .closed 2 2, .returned 2 hello]

/-- A command whose result cannot be decoded leaves its message, which the next command under
the same key returns as its own. -/
theorem left_message_breaks_law :
    ∃ runtime, Run (Step decodeUnit) Increasing firstRuntime leftSignals runtime ∧
      ¬MainLaw decodeUnit leftSignals runtime := by
  have run : Run (Step decodeUnit) Increasing firstRuntime _ _ := .start
  have run := run.further (show Step decodeUnit _ (.dispatch 1 showingCommand answeredDispatch) _ _
    from rfl) Nat.one_pos
  have run := run.further (show Step decodeUnit _ .proceed _ _ from rfl) trivial
  have run := run.further (show Step decodeUnit _ (.finish shown) _ _ from rfl) trivial
  have run := run.further (show Step decodeUnit _
    (.readCompletion { answeredRead with result := .undecodable }) _ _ from rfl) trivial
  have run := run.further (show Step decodeUnit _ (.dispatch 2 silentCommand answeredDispatch) _ _
    from rfl) (Nat.lt_succ_self 1)
  have run := run.further (show Step decodeUnit _ .proceed _ _ from rfl) trivial
  have run := run.further (show Step decodeUnit _ (.finish silent) _ _ from rfl) trivial
  have run := run.further (show Step decodeUnit _ (.readCompletion answeredRead) _ _ from rfl)
    trivial
  have run : Run _ _ firstRuntime leftSignals _ := run
  refine ⟨_, run, fun law => ?_⟩
  have returned : .returned 2 hello ∈ leftSignals := by simp [leftSignals]
  have ended : .finished 2 silent ∈ leftSignals := by simp [leftSignals]
  obtain ⟨execution, own, _, _, messages⟩ := law.returnedOwn returned
  rw [law.finishedOnce own ended] at messages
  cases messages

end OnecRuntime.Main
