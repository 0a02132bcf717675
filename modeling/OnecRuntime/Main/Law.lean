import OnecRuntime.Main.Stages

/-!
# Commands are executed once

What every action keeps, and the law of a run: an instruction is executed at most once
and under its own fields, a command that failed before its dispatch is never executed,
and a completion belongs to its execution. Messages that an earlier command left under
the same key are read as those of a command that collects none.
-/

namespace OnecRuntime.Main

open OnecRuntime.Library

variable {Target Stop Value Decoded : Type} {decode : Option Value → Except Unit Decoded}
  {signals : List (Signal Value Decoded)} {runtime : Runtime Target Stop Value Decoded}

/-! ## Dispatch -/

variable {server : Server Value} {commandId : Nat}

/-- A new command after the signals of its dispatch. -/
theorem status_of_new {command : Command}
    {operation : CommandOperation Target Stop Decoded}
    {later : List (Signal Value Decoded)}
    (fresh : ∀ signal ∈ signals, signal.commandId < commandId)
    (number : operation.commandId = commandId)
    (key : operation.messageCollectorKey = command.messageCollectorKey)
    (phase : operation.phase = .admitted ∨ operation.phase = .unknown ∨
      operation.phase = .running ∨ operation.phase = .failedBeforeDispatch)
    (extra : ∀ signal ∈ later, signal = .failedBeforeDispatch commandId ∧
      operation.phase = .failedBeforeDispatch)
    (stage : Never (signals ++ .dispatched commandId command :: later) commandId →
      Stage (signals ++ .dispatched commandId command :: later) server command operation) :
    Status (signals ++ .dispatched commandId command :: later) server command operation := by
  subst number
  have known : ∀ {signal : Signal Value Decoded},
      signal ∈ signals ++ .dispatched operation.commandId command :: later →
      signal.commandId = operation.commandId →
      signal = .dispatched operation.commandId command ∨ signal ∈ later := by
    intro signal member same
    rcases List.mem_append.1 member with earlier | now
    · exact absurd same (Nat.ne_of_lt (fresh signal earlier))
    · rcases List.mem_cons.1 now with is | rest
      · exact .inl is
      · exact .inr rest
  have never : Never (signals ++ .dispatched operation.commandId command :: later)
      operation.commandId := by
    intro instruction member
    rcases known member rfl with impossible | rest
    · cases impossible
    · cases (extra _ rest).1
  refine ⟨key, List.mem_append_right _ List.mem_cons_self, stage never, ?_, ?_, ?_, ?_⟩
  · intro member
    rcases known member rfl with impossible | rest
    · cases impossible
    · exact (extra _ rest).2
  · intro completed
    rcases phase with is | is | is | is <;> rw [is] at completed <;> cases completed
  · intro completion member
    rcases known member rfl with impossible | rest
    · cases impossible
    · cases (extra _ rest).1
  · rintro (capture | user)
    · rcases phase with is | is | is | is <;> rw [is] at capture <;> cases capture
    · rcases phase with is | is | is | is <;> rw [is] at user <;> cases user

theorem history_dispatched {command : Command}
    (history : History decode signals)
    (fresh : ∀ signal ∈ signals, signal.commandId < commandId) :
    History decode (signals ++ [.dispatched commandId command]) := by
  refine history.append ?_ nofun nofun nofun nofun nofun
  rintro _ _ ⟨⟩ other member
  exact Nat.lt_irrefl _ (fresh _ member)

theorem history_failed {command : Command}
    (history : History decode signals)
    (fresh : ∀ signal ∈ signals, signal.commandId < commandId) :
    History decode (signals ++ [.dispatched commandId command, .failedBeforeDispatch commandId]) := by
  have dispatched := @history_dispatched _ _ decode _ commandId command history fresh
  have both := @History.append _ _ _ _ (.failedBeforeDispatch commandId) dispatched nofun nofun ?_
    nofun nofun nofun
  · rwa [List.append_assoc] at both
  · rintro _ ⟨⟩ instruction member
    rcases mem_append_single.1 member with earlier | is
    · exact Nat.lt_irrefl _ (fresh _ earlier)
    · cases is

/-- An idle runtime is stopped at its service line, unless its target is gone. -/
theorem Orderly.idle (orderly : Orderly decode signals runtime) (idle : runtime.idle = true)
    (there : runtime.terminated = false) : runtime.server.position = .service := by
  have present : runtime.server.position ≠ .gone := by
    intro gone
    rw [orderly.gone gone] at there
    cases there
  unfold Runtime.idle at idle
  cases current : runtime.current with
  | none => exact (orderly.free current).resolve_right present
  | some pair =>
      obtain ⟨command, operation⟩ := pair
      rw [current] at idle
      have terminal : operation.terminal = true := idle
      cases (orderly.status current).2.stage with
      | waiting position never behind clean => exact position
      | released position never behind numbered named live clean =>
          rw [terminal] at live
          cases live
      | running position executed unfinished behind numbered live clean =>
          rw [terminal] at live
          cases live
      | finished position ended same result error unread => exact position
      | exited position terminal => exact absurd position present

/-- The runtime with a new command. -/
theorem orderly_of_new (orderly : Orderly decode signals runtime)
    {command : Command} (later : runtime.commandSequence < commandId)
    {operation : CommandOperation Target Stop Decoded} {extra : List (Signal Value Decoded)}
    (number : operation.commandId = commandId)
    (key : operation.messageCollectorKey = command.messageCollectorKey)
    (phase : operation.phase = .admitted ∨ operation.phase = .unknown ∨
      operation.phase = .running ∨ operation.phase = .failedBeforeDispatch)
    (failed : extra = [] ∨
      extra = [.failedBeforeDispatch commandId] ∧ operation.phase = .failedBeforeDispatch)
    (completed : server.frame.completedCommand = runtime.server.frame.completedCommand)
    (there : server.position ≠ .gone)
    (stage : ∀ all : List (Signal Value Decoded), Never all commandId →
      Stage all server command operation) :
    Orderly decode (signals ++ .dispatched commandId command :: extra)
      ⟨server, some (command, operation), commandId, runtime.terminated⟩ := by
  have fresh : ∀ signal ∈ signals, signal.commandId < commandId :=
    fun signal member => Nat.lt_of_le_of_lt (orderly.bounded signal member) later
  have single : ∀ signal ∈ extra, signal = .failedBeforeDispatch commandId ∧
      operation.phase = .failedBeforeDispatch := by
    intro signal member
    rcases failed with rfl | ⟨rfl, is⟩
    · cases member
    · exact ⟨List.mem_singleton.1 member, is⟩
  refine ⟨?_, ?_, ?_, nofun, fun gone => absurd gone there, ?_⟩
  · rcases failed with rfl | ⟨rfl, _⟩
    · exact history_dispatched orderly.history fresh
    · exact history_failed orderly.history fresh
  · intro signal member
    rcases List.mem_append.1 member with earlier | now
    · exact Nat.le_of_lt (fresh signal earlier)
    · rcases List.mem_cons.1 now with rfl | rest
      · exact Nat.le_refl _
      · rw [(single signal rest).1]
        exact Nat.le_refl _
  · change server.frame.completedCommand ≤ commandId
    rw [completed]
    exact Nat.le_of_lt (Nat.lt_of_le_of_lt orderly.completed later)
  · rintro _ _ ⟨⟩
    exact ⟨number, status_of_new fresh number key phase single (stage _)⟩

theorem afterDispatch_orderly (orderly : Orderly decode signals runtime)
    {command : Command} (later : runtime.commandSequence < commandId)
    (clean : Clean runtime.server command) (service : runtime.server.position = .service)
    {attempt : Attempt Target Stop Value Decoded (Progress Target Stop Value Decoded)}
    (effect : Dispatched
      ⟨MainOperation.new commandId none command.messageCollectorKey, runtime.server⟩
      command.instruction attempt) :
    Orderly decode (signals ++ (runtime.afterDispatch commandId command attempt).2)
      (runtime.afterDispatch commandId command attempt).1 := by
  have behind : runtime.server.frame.completedCommand < commandId :=
    Nat.lt_of_le_of_lt orderly.completed later
  have released : (Sent runtime.server command.instruction commandId).position = .released := by
    unfold Sent Server.release Server.writeCommandId Server.writeInstruction
    rw [service]
  have frame : (Sent runtime.server command.instruction commandId).frame =
      { runtime.server.frame with currentInstruction := command.instruction, commandId } := by
    unfold Sent Server.release Server.writeCommandId Server.writeInstruction
    rw [service]
  have messages : (Sent runtime.server command.instruction commandId).sealedMessages =
      runtime.server.sealedMessages := by
    unfold Sent Server.release Server.writeCommandId Server.writeInstruction
    rw [service]
  have completed : (Sent runtime.server command.instruction commandId).frame.completedCommand =
      runtime.server.frame.completedCommand := by
    rw [frame]
  have there : (Sent runtime.server command.instruction commandId).position ≠ .gone := by
    rw [released]
    exact nofun
  have sent : ∀ (all : List (Signal Value Decoded))
      (operation : CommandOperation Target Stop Decoded), operation.commandId = commandId →
      operation.terminal = false → Never all commandId →
      Stage all (Sent runtime.server command.instruction commandId) command operation := by
    intro all operation number live never
    refine .released released (by rw [number]; exact never) ?_ ?_ ?_ live (clean.of_same messages)
    · rw [frame, number]
      exact behind
    · rw [frame, number]
    · rw [frame]
  cases effect with
  | @held kind after phase attempted server operation live =>
      have there : after.server.position ≠ .gone := by
        rw [server.position, service]
        exact nofun
      have waits : ∀ (all : List (Signal Value Decoded))
          (settled : CommandOperation Target Stop Decoded), settled.commandId = commandId →
          Never all commandId → Stage all after.server command settled := by
        intro all settled number never
        refine .waiting (server.position.trans service) (by rw [number]; exact never) ?_
          (clean.of_same server.sealedMessages)
        rw [server.completedCommand, number]
        exact behind
      have number : after.operation.commandId = commandId := by
        rw [operation]
        rfl
      have key : after.operation.messageCollectorKey = command.messageCollectorKey := by
        rw [operation]
        rfl
      have phased : after.operation.phase = phase := by rw [operation]
      have plain : Orderly decode (signals ++ [.dispatched commandId command])
          ⟨after.server, some (command, after.operation), commandId, runtime.terminated⟩ := by
        refine orderly_of_new orderly later number key ?_ (.inl rfl) server.completedCommand there
          fun all never => waits all _ number never
        rw [phased]
        exact live.imp_right .inl
      unfold Runtime.afterDispatch
      cases kind with
      | outcomeUnknown => exact plain
      | exception =>
          cases failing : after.operation.failBeforeDispatch with
          | error problem =>
              simp only [failing]
              exact plain
          | ok failed =>
              simp only [failing]
              obtain ⟨_, _, fails⟩ := bind_eq_ok.1 failing
              have is := pure_eq_ok.1 fails
              subst is
              exact orderly_of_new orderly later number key (.inr (.inr (.inr rfl)))
                (.inr ⟨rfl, rfl⟩) server.completedCommand there
                fun all never => waits all _ number never
  | @lost kind after server operation =>
      have server : after.server = Sent runtime.server command.instruction commandId := server
      have number : after.operation.commandId = commandId := by
        rw [operation]
        rfl
      have unadmitted : after.operation.failBeforeDispatch = .error .alreadyAttempted := by
        rw [operation]
        rfl
      have plain : Orderly decode (signals ++ [.dispatched commandId command])
          ⟨after.server, some (command, after.operation), commandId, runtime.terminated⟩ := by
        rw [server]
        refine orderly_of_new orderly later number (by rw [operation]; rfl)
          (.inr (.inl (by rw [operation]))) (.inl rfl) completed there
          fun all never => sent all _ number (by rw [operation]; rfl) never
      unfold Runtime.afterDispatch
      cases kind with
      | outcomeUnknown => exact plain
      | exception =>
          simp only [unadmitted]
          exact plain
  | @acknowledged after server operation =>
      have server : after.server = Sent runtime.server command.instruction commandId := server
      have number : after.operation.commandId = commandId := by
        rw [operation]
        rfl
      unfold Runtime.afterDispatch
      simp only
      rw [server]
      exact orderly_of_new orderly later number (by rw [operation]; rfl)
        (.inr (.inr (.inl (by rw [operation])))) (.inl rfl) completed there
        fun all never => sent all _ number (by rw [operation]; rfl) never

variable {next : Runtime Target Stop Value Decoded}

theorem dispatch_orderly (orderly : Orderly decode signals runtime)
    {command : Command} {faults : DispatchFaults} (later : runtime.commandSequence < commandId)
    (clean : Clean runtime.server command)
    {emitted : List (Signal Value Decoded)}
    (dispatched : runtime.dispatch commandId command faults = some (next, emitted)) :
    Orderly decode (signals ++ emitted) next := by
  unfold Runtime.dispatch at dispatched
  split at dispatched
  · next admitted =>
      have whole := afterDispatch_orderly orderly later clean
        (orderly.idle admitted.2 admitted.1)
        (dispatch_cases ⟨rfl, rfl, rfl⟩ command.instruction faults)
      rw [Option.some.inj dispatched] at whole
      exact whole
  · cases dispatched

/-! ## The loop -/

/-- The command whose instruction is running or about to run. -/
theorem Orderly.active (orderly : Orderly decode signals runtime)
    (away : runtime.server.position ≠ .service) (there : runtime.server.position ≠ .gone) :
    ∃ command operation, runtime.current = some (command, operation) ∧
      operation.commandId = runtime.commandSequence ∧
      Status signals runtime.server command operation := by
  cases current : runtime.current with
  | none => exact absurd (orderly.free current) (not_or.2 ⟨away, there⟩)
  | some pair =>
      obtain ⟨number, status⟩ := orderly.status current
      exact ⟨pair.1, pair.2, rfl, number, status⟩

/-- A status after signals that say nothing of the phase of the operation. -/
theorem Status.moved {next : Server Value} {command : Command}
    {operation after : CommandOperation Target Stop Decoded}
    {emitted : List (Signal Value Decoded)}
    (status : Status signals server command operation)
    (number : after.commandId = operation.commandId)
    (key : after.messageCollectorKey = operation.messageCollectorKey)
    (stage : Stage (signals ++ emitted) next command after)
    (failed : ∀ commandId, .failedBeforeDispatch commandId ∉ emitted)
    (returned : ∀ commandId completion, .returned commandId completion ∉ emitted)
    (terminal : operation.phase = .failedBeforeDispatch ∨ operation.phase = .completed →
      after.phase = operation.phase)
    (closed : after.phase = .completed → operation.phase = .completed)
    (suspended : after.phase = .suspendedCapture ∨ after.phase = .suspendedUser →
      ∃ instruction, next.position = .suspended instruction) :
    Status (signals ++ emitted) next command after := by
  refine ⟨key.trans status.key, ?_, stage, ?_, ?_, ?_, suspended⟩
  · rw [number]
    exact List.mem_append_left _ status.dispatched
  · intro member
    rw [number] at member
    have was := status.failed ((List.mem_append.1 member).resolve_right (failed _))
    rw [terminal (.inl was)]
    exact was
  · intro completed
    rw [number]
    exact List.mem_append_left _ (status.closed (closed completed))
  · intro completion member
    rw [number] at member
    have was := status.returned completion
      ((List.mem_append.1 member).resolve_right (returned _ _))
    rw [terminal (.inr was)]
    exact was

theorem proceed_orderly (orderly : Orderly decode signals runtime)
    {emitted : List (Signal Value Decoded)}
    (proceeded : runtime.proceed = some (next, emitted)) :
    Orderly decode (signals ++ emitted) next := by
  unfold Runtime.proceed at proceeded
  split at proceeded
  · next position =>
      obtain ⟨command, operation, current, number, status⟩ := orderly.active
        (by rw [position]; exact nofun) (by rw [position]; exact nofun)
      cases status.stage with
      | waiting elsewhere never behind clean =>
          rw [position] at elsewhere
          cases elsewhere
      | running elsewhere executed unfinished behind numbered live clean =>
          rw [position] at elsewhere
          rcases elsewhere with impossible | impossible <;> cases impossible
      | finished elsewhere ended same result error unread =>
          rw [position] at elsewhere
          cases elsewhere
      | exited elsewhere terminal =>
          rw [position] at elsewhere
          cases elsewhere
      | released elsewhere never behind numbered named live clean =>
          have passes : runtime.server.frame.completedCommand < runtime.server.frame.commandId := by
            rw [numbered]
            exact behind
          have server : runtime.server.proceed =
              { runtime.server with
                frame := { runtime.server.frame with result := none, error := [] }
                position := .executing command.instruction } := by
            unfold Server.proceed
            rw [if_pos passes, named]
          rw [if_pos passes, named, numbered, server] at proceeded
          cases proceeded
          have unended : ∀ execution, .finished operation.commandId execution ∉ signals := by
            intro execution ended
            obtain ⟨instruction, executed⟩ := orderly.history.finishedExecuted ended
            exact never instruction executed
          have unfailed : .failedBeforeDispatch operation.commandId ∉ signals := by
            intro failed
            unfold MainOperation.terminal at live
            rw [status.failed failed] at live
            cases live
          have executed : (.executed command.instruction operation.commandId :
              Signal Value Decoded) ∈
              signals ++ [.executed command.instruction operation.commandId] :=
            List.mem_append_right _ List.mem_cons_self
          refine ⟨?_, ?_, orderly.completed, fun none => ?_, nofun, ?_⟩
          · refine orderly.history.append nofun ?_ nofun nofun nofun nofun
            rintro _ _ ⟨⟩
            exact ⟨never, unfailed, command, status.dispatched, rfl⟩
          · intro signal member
            rcases mem_append_single.1 member with earlier | rfl
            · exact orderly.bounded signal earlier
            · exact Nat.le_of_eq number
          · rw [current] at none
            cases none
          · intro other same is
            rw [current] at is
            cases is
            refine ⟨number, status.moved rfl rfl ?_ (by simp) (by simp) (fun _ => rfl) id ?_⟩
            · refine .running (.inl rfl) executed ?_ behind numbered live clean
              intro execution ended
              rcases mem_append_single.1 ended with earlier | impossible
              · exact unended execution earlier
              · cases impossible
            · intro suspends
              obtain ⟨instruction, impossible⟩ := status.suspended suspends
              rw [position] at impossible
              cases impossible
  · cases proceeded

theorem stopInside_orderly (orderly : Orderly decode signals runtime)
    {emitted : List (Signal Value Decoded)}
    (stopped : runtime.stopInside = some (next, emitted)) :
    Orderly decode (signals ++ emitted) next := by
  unfold Runtime.stopInside at stopped
  split at stopped
  · next instruction position =>
      obtain ⟨command, operation, current, number, status⟩ := orderly.active
        (by rw [position]; exact nofun) (by rw [position]; exact nofun)
      cases stopped
      rw [List.append_nil]
      refine ⟨orderly.history, orderly.bounded, orderly.completed, fun none => ?_, nofun, ?_⟩
      · rw [current] at none
        cases none
      · intro other same is
        rw [current] at is
        cases is
        have moved := @Status.moved _ _ _ _ signals runtime.server
          { runtime.server with position := .suspended instruction } command operation operation []
          status rfl rfl ?_ (by simp) (by simp) (fun _ => rfl) id fun _ => ⟨instruction, rfl⟩
        · rw [List.append_nil] at moved
          exact ⟨number, moved⟩
        · rw [List.append_nil]
          cases status.stage with
          | running elsewhere executed unfinished behind numbered live clean =>
              rw [position] at elsewhere
              rcases elsewhere with same | impossible
              · cases same
                exact .running (.inr rfl) executed unfinished behind numbered live clean
              · cases impossible
          | waiting elsewhere never behind clean =>
              rw [position] at elsewhere
              cases elsewhere
          | released elsewhere never behind numbered named live clean =>
              rw [position] at elsewhere
              cases elsewhere
          | finished elsewhere ended same result error unread =>
              rw [position] at elsewhere
              cases elsewhere
          | exited elsewhere terminal =>
              rw [position] at elsewhere
              cases elsewhere
  · cases stopped

theorem finish_orderly (orderly : Orderly decode signals runtime) {execution : Execution Value}
    {emitted : List (Signal Value Decoded)}
    (finished : runtime.finish execution = some (next, emitted)) :
    Orderly decode (signals ++ emitted) next := by
  unfold Runtime.finish at finished
  split at finished
  · next instruction position =>
      obtain ⟨command, operation, current, number, status⟩ := orderly.active
        (by rw [position]; exact nofun) (by rw [position]; exact nofun)
      cases status.stage with
      | running elsewhere executed unfinished behind numbered live clean =>
          have same : instruction = command.instruction := by
            rw [position] at elsewhere
            rcases elsewhere with is | impossible
            · cases is
              rfl
            · cases impossible
          subst same
          rw [numbered] at finished
          cases finished
          refine ⟨?_, ?_, ?_, fun none => ?_, nofun, ?_⟩
          · refine orderly.history.append nofun nofun nofun ?_ nofun nofun
            rintro _ _ ⟨⟩
            exact ⟨unfinished, _, executed⟩
          · intro signal member
            rcases mem_append_single.1 member with earlier | rfl
            · exact orderly.bounded signal earlier
            · exact Nat.le_of_eq number
          · change runtime.server.frame.commandId ≤ runtime.commandSequence
            rw [numbered]
            exact Nat.le_of_eq number
          · rw [current] at none
            cases none
          · intro other same is
            rw [current] at is
            cases is
            refine ⟨number, status.moved rfl rfl ?_ (by simp) (by simp) (fun _ => rfl) id ?_⟩
            · exact .finished rfl (List.mem_append_right _ List.mem_cons_self) numbered rfl rfl
                fun _ messages gives => finish_gives clean execution gives
            · intro suspends
              obtain ⟨instruction, impossible⟩ := status.suspended suspends
              rw [position] at impossible
              cases impossible
      | waiting elsewhere never behind clean =>
          rw [position] at elsewhere
          cases elsewhere
      | released elsewhere never behind numbered named live clean =>
          rw [position] at elsewhere
          cases elsewhere
      | finished elsewhere ended same result error unread =>
          rw [position] at elsewhere
          cases elsewhere
      | exited elsewhere terminal =>
          rw [position] at elsewhere
          cases elsewhere
  · cases finished

/-! ## Stops and resumes -/

/-- What a call that emits nothing and keeps the running instruction leaves. -/
theorem orderly_of_running (orderly : Orderly decode signals runtime) {command : Command}
    {operation after : CommandOperation Target Stop Decoded}
    (current : runtime.current = some (command, operation))
    (number : after.commandId = operation.commandId)
    (key : after.messageCollectorKey = operation.messageCollectorKey)
    (live : operation.terminal = false) (alive : after.terminal = false)
    (frame : server.frame = runtime.server.frame)
    (messages : server.sealedMessages = runtime.server.sealedMessages)
    (stage : Stage signals runtime.server command operation)
    (position : ∃ instruction, runtime.server.position = .suspended instruction ∧
      (server.position = .executing instruction ∨ server.position = .suspended instruction))
    (suspended : after.phase = .suspendedCapture ∨ after.phase = .suspendedUser →
      ∃ instruction, server.position = .suspended instruction) :
    Orderly decode (signals ++ [])
      { runtime with server, current := some (command, after) } := by
  obtain ⟨instruction, was, is⟩ := position
  obtain ⟨numbered, status⟩ := orderly.status current
  have unfinished : ∀ {phase : MainPhase}, phase.terminal = true → operation.phase ≠ phase := by
    rintro phase terminal rfl
    unfold MainOperation.terminal at live
    rw [terminal] at live
    cases live
  have open_ : ∀ {phase : MainPhase}, phase.terminal = true → after.phase ≠ phase := by
    rintro phase terminal rfl
    unfold MainOperation.terminal at alive
    rw [terminal] at alive
    cases alive
  refine ⟨?_, ?_, ?_, nofun, ?_, ?_⟩
  · rw [List.append_nil]
    exact orderly.history
  · rw [List.append_nil]
    exact orderly.bounded
  · change server.frame.completedCommand ≤ runtime.commandSequence
    rw [frame]
    exact orderly.completed
  · intro gone
    change server.position = _ at gone
    rw [gone] at is
    rcases is with impossible | impossible <;> cases impossible
  · rintro _ _ ⟨⟩
    refine ⟨number.trans numbered, status.moved number key ?_ (by simp) (by simp) ?_ ?_ suspended⟩
    · rw [List.append_nil]
      cases stage with
      | running elsewhere executed unended behind own _ clean =>
          rw [was] at elsewhere
          have same : instruction = command.instruction := by
            rcases elsewhere with impossible | same
            · cases impossible
            · cases same
              rfl
          subst same
          refine .running is (by rw [number]; exact executed) (by rw [number]; exact unended) ?_ ?_
            alive (clean.of_same messages)
          · rw [frame, number]
            exact behind
          · rw [frame, number]
            exact own
      | waiting elsewhere never behind clean =>
          rw [was] at elsewhere
          cases elsewhere
      | released elsewhere never behind numbered named live clean =>
          rw [was] at elsewhere
          cases elsewhere
      | finished elsewhere ended same result error unread =>
          rw [was] at elsewhere
          cases elsewhere
      | exited elsewhere terminal =>
          rw [was] at elsewhere
          cases elsewhere
    · rintro (failed | completed)
      · exact absurd failed (unfinished rfl)
      · exact absurd completed (unfinished rfl)
    · intro completed
      exact absurd completed (open_ rfl)

/-- The running instruction belongs to a live operation. -/
theorem Status.live {command : Command}
    {operation : CommandOperation Target Stop Decoded} {instruction : Instruction}
    (status : Status signals server command operation)
    (position : server.position = .suspended instruction) : operation.terminal = false := by
  cases status.stage with
  | running elsewhere executed unfinished behind numbered live clean => exact live
  | released elsewhere never behind numbered named live clean => exact live
  | waiting elsewhere never behind clean =>
      rw [position] at elsewhere
      cases elsewhere
  | finished elsewhere ended same result error unread =>
      rw [position] at elsewhere
      cases elsewhere
  | exited elsewhere terminal =>
      rw [position] at elsewhere
      cases elsewhere

theorem observeStop_orderly [DecidableEq Target] (orderly : Orderly decode signals runtime)
    {stop : Stop} {target : Target} {phase : MainPhase}
    {emitted : List (Signal Value Decoded)}
    (observed : runtime.observeStop stop target phase = some (next, emitted)) :
    Orderly decode (signals ++ emitted) next := by
  unfold Runtime.observeStop at observed
  split at observed
  · next instruction command operation position current =>
      obtain ⟨_, status⟩ := orderly.status current
      have live := status.live position
      cases observed
      have kept : (operation.stopped stop target phase).1.commandId = operation.commandId ∧
          (operation.stopped stop target phase).1.messageCollectorKey =
            operation.messageCollectorKey ∧
          (operation.stopped stop target phase).1.terminal = false := by
        unfold MainOperation.stopped
        rw [if_neg (Bool.eq_false_iff.1 live)]
        split
        · exact ⟨rfl, rfl, live⟩
        · next accepted =>
            split
            · exact ⟨rfl, rfl, rfl⟩
            · refine ⟨rfl, rfl, ?_⟩
              rcases not_not.1 accepted with rfl | rfl | rfl <;> rfl
      exact orderly_of_running orderly current kept.1 kept.2.1 live kept.2.2 rfl rfl status.stage
        ⟨instruction, position, .inr position⟩ fun _ => ⟨instruction, position⟩
  · cases observed

theorem resume_orderly (orderly : Orderly decode signals runtime) {release : Release}
    {emitted : List (Signal Value Decoded)}
    (resumed : runtime.resume release = some (next, emitted)) :
    Orderly decode (signals ++ emitted) next := by
  unfold Runtime.resume at resumed
  split at resumed
  · cases resumed
  · next command operation current =>
      split at resumed
      · next suspends =>
          obtain ⟨_, status⟩ := orderly.status current
          obtain ⟨instruction, position⟩ := status.suspended suspends
          have live := status.live position
          have released : runtime.server.release =
              { runtime.server with position := .executing instruction } := by
            unfold Server.release
            rw [position]
          rcases @continueCommand_cases _ _ _ _ ⟨operation, runtime.server⟩ live release with
            ⟨kind, is⟩ | ⟨kind, server, which, is⟩ | is
          · rw [is] at resumed
            cases resumed
            exact orderly_of_running orderly current rfl rfl live live rfl rfl status.stage
              ⟨instruction, position, .inr position⟩ fun _ => ⟨instruction, position⟩
          · rw [is] at resumed
            cases resumed
            rcases which with rfl | rfl
            · exact orderly_of_running orderly current rfl rfl live rfl rfl rfl status.stage
                ⟨instruction, position, .inr position⟩ nofun
            · exact orderly_of_running orderly current rfl rfl live rfl
                (by rw [released]) (by rw [released]) status.stage
                ⟨instruction, position, .inl (by rw [released])⟩ nofun
          · rw [is] at resumed
            cases resumed
            exact orderly_of_running orderly current rfl rfl live rfl
              (by rw [released]) (by rw [released]) status.stage
              ⟨instruction, position, .inl (by rw [released])⟩ nofun
      · cases resumed

/-! ## Completion -/

/-- A matching identifier at the service line is that of an ended execution. -/
theorem Status.ended {command : Command}
    {operation : CommandOperation Target Stop Decoded}
    (status : Status signals server command operation) (position : server.position = .service)
    (same : server.frame.completedCommand = operation.commandId) :
    ∃ execution, .finished operation.commandId execution ∈ signals ∧
      server.frame.result = execution.result ∧ server.frame.error = execution.error ∧
      (operation.phase ≠ .completed → ∀ messages,
        server.Gives command.messageCollectorKey messages → messages = execution.messages) := by
  cases status.stage with
  | waiting elsewhere never behind clean => exact absurd same (Nat.ne_of_lt behind)
  | released elsewhere never behind numbered named live clean =>
      rw [position] at elsewhere
      cases elsewhere
  | running elsewhere executed unfinished behind numbered live clean =>
      rw [position] at elsewhere
      rcases elsewhere with impossible | impossible <;> cases impossible
  | finished elsewhere ended same result error unread => exact ⟨_, ended, result, error, unread⟩
  | exited elsewhere terminal =>
      rw [position] at elsewhere
      cases elsewhere

/-- The runtime after a completion was read from an operation that it closed. -/
theorem orderly_of_closed (orderly : Orderly decode signals runtime) {command : Command}
    {operation after : CommandOperation Target Stop Decoded}
    {returned : List (Signal Value Decoded)}
    (current : runtime.current = some (command, operation))
    (position : runtime.server.position = .service)
    (same : runtime.server.frame.completedCommand = operation.commandId)
    (live : operation.terminal = false) (number : after.commandId = operation.commandId)
    (key : after.messageCollectorKey = operation.messageCollectorKey)
    (closed : after.phase = .completed)
    (frame : server.frame = runtime.server.frame)
    (stays : server.position = runtime.server.position)
    (history : History decode
      ((signals ++ [.closed operation.commandId runtime.server.frame.completedCommand]) ++ returned))
    (own : ∀ signal ∈ returned, ∃ completion, signal = .returned operation.commandId completion) :
    Orderly decode
      (signals ++ .closed operation.commandId runtime.server.frame.completedCommand :: returned)
      { runtime with server, current := some (command, after) } := by
  obtain ⟨numbered, status⟩ := orderly.status current
  obtain ⟨execution, ended, result, error, _⟩ := status.ended position same
  have earlier : ∀ {signal : Signal Value Decoded}, signal ∈ signals → signal ∈ signals ++
      .closed operation.commandId runtime.server.frame.completedCommand :: returned :=
    fun member => List.mem_append_left _ member
  refine ⟨?_, ?_, ?_, nofun, ?_, ?_⟩
  · rw [List.append_assoc] at history
    exact history
  · intro signal member
    rcases List.mem_append.1 member with before | now
    · exact orderly.bounded signal before
    · rcases List.mem_cons.1 now with rfl | rest
      · exact Nat.le_of_eq numbered
      · obtain ⟨completion, rfl⟩ := own signal rest
        exact Nat.le_of_eq numbered
  · change server.frame.completedCommand ≤ runtime.commandSequence
    rw [frame]
    exact orderly.completed
  · intro gone
    change server.position = _ at gone
    rw [stays, position] at gone
    cases gone
  · rintro _ _ ⟨⟩
    refine ⟨number.trans numbered, key.trans status.key, ?_, ?_, ?_, fun _ => ?_, fun _ _ => closed,
      ?_⟩
    · rw [number]
      exact earlier status.dispatched
    · refine .finished (stays.trans position) (by rw [number]; exact earlier ended) ?_ ?_ ?_
        fun open_ => absurd closed open_
      · rw [frame, number]
        exact same
      · rw [frame]
        exact result
      · rw [frame]
        exact error
    · intro member
      rw [number] at member
      rcases List.mem_append.1 member with before | now
      · unfold MainOperation.terminal at live
        rw [status.failed before] at live
        cases live
      · rcases List.mem_cons.1 now with impossible | rest
        · cases impossible
        · obtain ⟨completion, impossible⟩ := own _ rest
          cases impossible
    · rw [number]
      refine List.mem_append_right _ ?_
      rw [same]
      exact List.mem_cons_self
    · rw [closed]
      rintro (impossible | impossible) <;> cases impossible

theorem readCompletion_orderly (orderly : Orderly decode signals runtime)
    {faults : CompletionFaults}
    {emitted : List (Signal Value Decoded)}
    (read : runtime.readCompletion decode faults = some (next, emitted)) :
    Orderly decode (signals ++ emitted) next := by
  unfold Runtime.readCompletion at read
  split at read
  · next command operation position current =>
      split at read
      · cases read
        rw [List.append_nil]
        exact orderly
      · next closed matched =>
          obtain ⟨numbered, status⟩ := orderly.status current
          obtain ⟨same, live, is⟩ := matchCompletion_ok matched
          obtain ⟨execution, ended, result, error, unread⟩ := status.ended position same
          have closing : History decode (signals ++
              [.closed operation.commandId runtime.server.frame.completedCommand]) := by
            refine orderly.history.append nofun nofun nofun nofun ?_ nofun
            rintro _ _ ⟨⟩
            exact ⟨same, execution, ended⟩
          have uncompleted : operation.phase ≠ .completed := by
            intro completed
            unfold MainOperation.terminal at live
            rw [completed] at live
            cases live
          subst is
          simp only at read
          split at read
          · next left raised =>
              cases read
              have taken := readValues_error raised
              refine orderly_of_closed orderly current position same live ?_ ?_ ?_ taken.frame
                taken.position (by rw [List.append_nil]; exact closing) (by simp)
              · rw [taken.operation]
              · rw [taken.operation]
              · rw [taken.operation]
          · next completion left reads =>
              obtain ⟨taken, decoded, failed, gives⟩ := readValues_ok reads
              have messages : completion.messages = execution.messages :=
                unread uncompleted _ (status.key ▸ gives)
              have returning : History decode ((signals ++
                  [.closed operation.commandId runtime.server.frame.completedCommand]) ++
                  [.returned operation.commandId completion]) := by
                refine closing.append nofun nofun nofun nofun nofun ?_
                rintro _ _ ⟨⟩
                refine ⟨fun other member => ?_, execution, List.mem_append_left _ ended, ?_,
                  failed.trans error, messages⟩
                · rcases mem_append_single.1 member with earlier | impossible
                  · exact uncompleted (status.returned other earlier)
                  · cases impossible
                · rw [← result]
                  exact decoded
              unfold Runtime.completed at read
              split at read
              · next complete completes =>
                  have whole : complete = { left.operation with
                      completion := some completion, pendingStop := none, phase := .completed } := by
                    unfold MainOperation.complete at completes
                    simp only at completes
                    split at completes <;>
                      obtain ⟨_, _, taken⟩ := bind_eq_ok.1 completes <;>
                      exact (pure_eq_ok.1 taken).symm
                  have numbers : complete.commandId = operation.commandId := by
                    rw [whole, taken.operation]
                  rw [numbers] at read
                  cases read
                  refine orderly_of_closed orderly current position same live numbers ?_ ?_
                    taken.frame taken.position returning (by simp)
                  · rw [whole, taken.operation]
                  · rw [whole]
              · cases read
                refine orderly_of_closed orderly current position same live ?_ ?_ ?_ taken.frame
                  taken.position (by rw [List.append_nil]; exact closing) (by simp)
                · rw [taken.operation]
                · rw [taken.operation]
                · rw [taken.operation]
  · cases read

theorem exitTarget_orderly (orderly : Orderly decode signals runtime) :
    Orderly decode (signals ++ []) runtime.exitTarget := by
  refine ⟨?_, ?_, orderly.completed, fun _ => .inr rfl, fun _ => rfl, ?_⟩
  · rw [List.append_nil]
    exact orderly.history
  · rw [List.append_nil]
    exact orderly.bounded
  · intro command after is
    unfold Runtime.exitTarget at is
    cases current : runtime.current with
    | none =>
        rw [current] at is
        cases is
    | some pair =>
        obtain ⟨own, operation⟩ := pair
        obtain ⟨number, status⟩ := orderly.status current
        rw [current] at is
        simp only [Option.map_some, Option.some.injEq] at is
        unfold MainOperation.markLost MainOperation.requireLive require at is
        by_cases live : operation.terminal = false
        · rw [if_pos live] at is
          cases is
          refine ⟨number, status.moved rfl rfl (.exited rfl rfl) (by simp) (by simp) ?_ nofun nofun⟩
          rintro (failed | completed)
          · unfold MainOperation.terminal at live
            rw [failed] at live
            cases live
          · unfold MainOperation.terminal at live
            rw [completed] at live
            cases live
        · have terminal : operation.terminal = true := Bool.eq_true_of_not_eq_false live
          rw [if_neg live] at is
          cases is
          refine ⟨number, status.moved rfl rfl (.exited rfl terminal) (by simp) (by simp)
            (fun _ => rfl) id ?_⟩
          intro suspends
          unfold MainOperation.terminal at terminal
          rcases suspends with is | is <;> rw [is] at terminal <;> cases terminal

end OnecRuntime.Main
