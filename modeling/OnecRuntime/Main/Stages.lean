import OnecRuntime.Main.Effects

/-!
# Stages of a command

Where the active command is, as the signals and the frame say together: not executed
yet, released, running, ended, or gone with its target. Every action keeps a stage or
moves to the next one.
-/

namespace OnecRuntime.Main

open OnecRuntime.Library

variable {Target Stop Value Decoded : Type}

def Signal.executes (commandId : Nat) : Signal Value Decoded → Bool
  | .executed _ other => other = commandId
  | _ => false

def Signal.returns (commandId : Nat) : Signal Value Decoded → Bool
  | .returned other _ => other = commandId
  | _ => false

/-- No instruction was executed for a command. -/
def Never (signals : List (Signal Value Decoded)) (commandId : Nat) : Prop :=
  ∀ instruction, .executed instruction commandId ∉ signals

/-- A command that collects no messages finds none under its key. -/
def Clean (server : Server Value) (command : Command) : Prop :=
  command.instruction.collector = none → command.messageCollectorKey = [] ∨ ∀ key messages,
    server.sealedMessages = some (key, messages) → key ≠ command.messageCollectorKey

/-- The messages that a reader gets under a key. -/
def Server.Gives (server : Server Value) (key : CodeText) (messages : List CodeText) : Prop :=
  key = [] ∧ messages = [] ∨ key ≠ [] ∧ messages = (server.takeMessages key).1

inductive Stage (signals : List (Signal Value Decoded)) (server : Server Value)
    (command : Command) (operation : CommandOperation Target Stop Decoded) : Prop
  | waiting (position : server.position = .service) (never : Never signals operation.commandId)
      (behind : server.frame.completedCommand < operation.commandId)
      (clean : Clean server command)
  | released (position : server.position = .released)
      (never : Never signals operation.commandId)
      (behind : server.frame.completedCommand < operation.commandId)
      (numbered : server.frame.commandId = operation.commandId)
      (named : server.frame.currentInstruction = command.instruction)
      (live : operation.terminal = false) (clean : Clean server command)
  | running (position : server.position = .executing command.instruction ∨
        server.position = .suspended command.instruction)
      (executed : .executed command.instruction operation.commandId ∈ signals)
      (unfinished : ∀ execution, .finished operation.commandId execution ∉ signals)
      (behind : server.frame.completedCommand < operation.commandId)
      (numbered : server.frame.commandId = operation.commandId)
      (live : operation.terminal = false) (clean : Clean server command)
  | finished {execution : Execution Value} (position : server.position = .service)
      (ended : .finished operation.commandId execution ∈ signals)
      (same : server.frame.completedCommand = operation.commandId)
      (result : server.frame.result = execution.result)
      (error : server.frame.error = execution.error)
      (unread : operation.phase ≠ .completed → ∀ messages,
        server.Gives command.messageCollectorKey messages → messages = execution.messages)
  | exited (position : server.position = .gone) (terminal : operation.terminal = true)

/-- What the signals and the frame say of the active command. -/
structure Status (signals : List (Signal Value Decoded)) (server : Server Value)
    (command : Command) (operation : CommandOperation Target Stop Decoded) : Prop where
  key : operation.messageCollectorKey = command.messageCollectorKey
  dispatched : .dispatched operation.commandId command ∈ signals
  stage : Stage signals server command operation
  failed : .failedBeforeDispatch operation.commandId ∈ signals →
    operation.phase = .failedBeforeDispatch
  closed : operation.phase = .completed →
    .closed operation.commandId operation.commandId ∈ signals
  returned : ∀ completion, .returned operation.commandId completion ∈ signals →
    operation.phase = .completed
  suspended : operation.phase = .suspendedCapture ∨ operation.phase = .suspendedUser →
    ∃ instruction, server.position = .suspended instruction

/-- What the signals alone say. -/
structure History (decode : Option Value → Except Unit Decoded)
    (signals : List (Signal Value Decoded)) : Prop where
  dispatchedOnce : ∀ {commandId first second}, .dispatched commandId first ∈ signals →
    .dispatched commandId second ∈ signals → first = second
  executedOwn : ∀ {instruction commandId}, .executed instruction commandId ∈ signals →
    ∃ command, .dispatched commandId command ∈ signals ∧ command.instruction = instruction
  executedOnce : ∀ commandId, (signals.filter (Signal.executes commandId)).length ≤ 1
  failedNever : ∀ {commandId}, .failedBeforeDispatch commandId ∈ signals → Never signals commandId
  finishedOnce : ∀ {commandId first second}, .finished commandId first ∈ signals →
    .finished commandId second ∈ signals → first = second
  finishedExecuted : ∀ {commandId execution}, .finished commandId execution ∈ signals →
    ∃ instruction, .executed instruction commandId ∈ signals
  closedOwn : ∀ {commandId completedCommand}, .closed commandId completedCommand ∈ signals →
    completedCommand = commandId ∧ ∃ execution, .finished commandId execution ∈ signals
  returnedOwn : ∀ {commandId completion}, .returned commandId completion ∈ signals →
    ∃ execution, .finished commandId execution ∈ signals ∧
      decode execution.result = .ok completion.result ∧
      completion.error = execution.error ∧ completion.messages = execution.messages
  returnedOnce : ∀ commandId, (signals.filter (Signal.returns commandId)).length ≤ 1

/-- What every run keeps. -/
structure Orderly (decode : Option Value → Except Unit Decoded)
    (signals : List (Signal Value Decoded)) (runtime : Runtime Target Stop Value Decoded) :
    Prop where
  history : History decode signals
  bounded : ∀ signal ∈ signals, signal.commandId ≤ runtime.commandSequence
  completed : runtime.server.frame.completedCommand ≤ runtime.commandSequence
  free : runtime.current = none →
    runtime.server.position = .service ∨ runtime.server.position = .gone
  gone : runtime.server.position = .gone → runtime.terminated = true
  status : ∀ {command operation}, runtime.current = some (command, operation) →
    operation.commandId = runtime.commandSequence ∧
      Status signals runtime.server command operation

/-! ## Signals appended -/

variable {signals : List (Signal Value Decoded)} {decode : Option Value → Except Unit Decoded}

variable {signal : Signal Value Decoded}

theorem filter_append_single {test : Signal Value Decoded → Bool}
    (earlier : ∀ other ∈ signals, test other = false) :
    ((signals ++ [signal]).filter test).length ≤ 1 := by
  have none : signals.filter test = [] :=
    List.filter_eq_nil_iff.2 fun other member => Bool.eq_false_iff.1 (earlier other member)
  rw [List.filter_append, none, List.nil_append]
  exact List.length_filter_le _ _

theorem filter_append_other {test : Signal Value Decoded → Bool}
    (other : test signal = false) :
    (signals ++ [signal]).filter test = signals.filter test := by
  rw [List.filter_append, List.filter_cons_of_neg (Bool.eq_false_iff.1 other)]
  exact List.append_nil _

theorem executes_never {commandId : Nat} (never : Never signals commandId) :
    ∀ other ∈ signals, other.executes commandId = false := by
  intro other member
  cases other with
  | executed instruction executedId =>
      refine decide_eq_false fun same => never instruction ?_
      rw [← same]
      exact member
  | dispatched other command => rfl
  | failedBeforeDispatch other => rfl
  | finished other execution => rfl
  | closed other completed => rfl
  | returned other completion => rfl

theorem returns_never {commandId : Nat}
    (never : ∀ completion, .returned commandId completion ∉ signals) :
    ∀ other ∈ signals, other.returns commandId = false := by
  intro other member
  cases other with
  | returned returnedId completion =>
      refine decide_eq_false fun same => never completion ?_
      rw [← same]
      exact member
  | dispatched other command => rfl
  | failedBeforeDispatch other => rfl
  | finished other execution => rfl
  | closed other completed => rfl
  | executed instruction other => rfl

theorem mem_append_single {other : Signal Value Decoded} :
    other ∈ signals ++ [signal] ↔ other ∈ signals ∨ other = signal := by
  rw [List.mem_append, List.mem_singleton]

/-- The parts of the history that hold of more signals: every fact about a command points to
earlier signals. -/
theorem History.append (history : History decode signals)
    (dispatched : ∀ commandId command, signal = .dispatched commandId command →
      ∀ other, .dispatched commandId other ∉ signals)
    (executed : ∀ instruction commandId, signal = .executed instruction commandId →
      Never signals commandId ∧ .failedBeforeDispatch commandId ∉ signals ∧
        ∃ command, .dispatched commandId command ∈ signals ∧ command.instruction = instruction)
    (failed : ∀ commandId, signal = .failedBeforeDispatch commandId → Never signals commandId)
    (finished : ∀ commandId execution, signal = .finished commandId execution →
      (∀ other, .finished commandId other ∉ signals) ∧
        ∃ instruction, .executed instruction commandId ∈ signals)
    (closed : ∀ commandId completedCommand, signal = .closed commandId completedCommand →
      completedCommand = commandId ∧ ∃ execution, .finished commandId execution ∈ signals)
    (returned : ∀ commandId completion, signal = .returned commandId completion →
      (∀ other, .returned commandId other ∉ signals) ∧
        ∃ execution, .finished commandId execution ∈ signals ∧
          decode execution.result = .ok completion.result ∧
          completion.error = execution.error ∧ completion.messages = execution.messages) :
    History decode (signals ++ [signal]) := by
  have earlier : ∀ {other : Signal Value Decoded}, other ∈ signals → other ∈ signals ++ [signal] :=
    fun member => List.mem_append_left _ member
  refine ⟨?_, ?_, ?_, ?_, ?_, ?_, ?_, ?_, ?_⟩
  · intro commandId first second left right
    rcases mem_append_single.1 left with left | is <;>
      rcases mem_append_single.1 right with right | same
    · exact history.dispatchedOnce left right
    · exact absurd left (dispatched _ _ same.symm _)
    · exact absurd right (dispatched _ _ is.symm _)
    · cases is.trans same.symm
      rfl
  · intro instruction commandId member
    rcases mem_append_single.1 member with before | is
    · obtain ⟨command, given, own⟩ := history.executedOwn before
      exact ⟨command, earlier given, own⟩
    · obtain ⟨_, _, command, given, own⟩ := executed _ _ is.symm
      exact ⟨command, earlier given, own⟩
  · intro commandId
    cases which : signal.executes commandId with
    | false =>
        rw [filter_append_other which]
        exact history.executedOnce commandId
    | true =>
        refine filter_append_single (executes_never ?_)
        cases signal with
        | executed instruction executedId =>
            rw [← of_decide_eq_true which]
            exact (executed _ _ rfl).1
        | dispatched other command => cases which
        | failedBeforeDispatch other => cases which
        | finished other execution => cases which
        | closed other completed => cases which
        | returned other completion => cases which
  · intro commandId member instruction held
    rcases mem_append_single.1 member with before | is <;>
      rcases mem_append_single.1 held with was | same
    · exact history.failedNever before instruction was
    · exact (executed _ _ same.symm).2.1 before
    · exact failed _ is.symm instruction was
    · cases is.trans same.symm
  · intro commandId first second left right
    rcases mem_append_single.1 left with left | is <;>
      rcases mem_append_single.1 right with right | same
    · exact history.finishedOnce left right
    · exact absurd left ((finished _ _ same.symm).1 _)
    · exact absurd right ((finished _ _ is.symm).1 _)
    · cases is.trans same.symm
      rfl
  · intro commandId execution member
    rcases mem_append_single.1 member with before | is
    · obtain ⟨instruction, executed⟩ := history.finishedExecuted before
      exact ⟨instruction, earlier executed⟩
    · obtain ⟨_, instruction, executed⟩ := finished _ _ is.symm
      exact ⟨instruction, earlier executed⟩
  · intro commandId completedCommand member
    rcases mem_append_single.1 member with before | is
    · obtain ⟨same, execution, ended⟩ := history.closedOwn before
      exact ⟨same, execution, earlier ended⟩
    · obtain ⟨same, execution, ended⟩ := closed _ _ is.symm
      exact ⟨same, execution, earlier ended⟩
  · intro commandId completion member
    rcases mem_append_single.1 member with before | is
    · obtain ⟨execution, ended, own⟩ := history.returnedOwn before
      exact ⟨execution, earlier ended, own⟩
    · obtain ⟨_, execution, ended, own⟩ := returned _ _ is.symm
      exact ⟨execution, earlier ended, own⟩
  · intro commandId
    cases which : signal.returns commandId with
    | false =>
        rw [filter_append_other which]
        exact history.returnedOnce commandId
    | true =>
        refine filter_append_single (returns_never ?_)
        cases signal with
        | returned returnedId completion =>
            rw [← of_decide_eq_true which]
            exact (returned _ _ rfl).1
        | dispatched other command => cases which
        | failedBeforeDispatch other => cases which
        | finished other execution => cases which
        | closed other completed => cases which
        | executed instruction other => cases which

/-! ## Stages kept -/

variable {server next : Server Value} {command : Command}
  {operation moved : CommandOperation Target Stop Decoded}

theorem Clean.of_same (clean : Clean server command)
    (same : next.sealedMessages = server.sealedMessages) : Clean next command := by
  unfold Clean
  rw [same]
  exact clean

/-- An instruction that ends leaves its messages under the key of its command. -/
theorem finish_gives (clean : Clean server command) (execution : Execution Value)
    {messages : List CodeText}
    (gives : (server.finish command.instruction
      (execution.collectedBy command.instruction)).Gives command.messageCollectorKey messages) :
    messages = (execution.collectedBy command.instruction).messages := by
  unfold Server.Gives Server.takeMessages Server.finish Server.sealing at gives
  cases collects : command.instruction.collector with
  | some key =>
      obtain ⟨same, nonempty⟩ := command.sealsOwn key collects
      subst same
      simp only [collects] at gives
      rcases gives with ⟨empty, _⟩ | ⟨_, is⟩
      · exact absurd empty nonempty
      · rw [is]
        simp
  | none =>
      have silent : (execution.collectedBy command.instruction).messages = [] := by
        unfold Execution.collectedBy
        rw [if_pos collects]
      rw [silent]
      simp only [collects] at gives
      rcases gives with ⟨_, is⟩ | ⟨keyed, is⟩
      · exact is
      · rcases clean collects with empty | other
        · exact absurd empty keyed
        · rw [is]
          cases held : server.sealedMessages with
          | none => rfl
          | some sealed =>
              obtain ⟨key, messages⟩ := sealed
              simp only
              rw [if_neg (other key messages held)]

end OnecRuntime.Main
