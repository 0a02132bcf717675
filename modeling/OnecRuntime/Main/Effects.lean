import OnecRuntime.Main.Runtime

/-!
# Effects of the calls

What a dispatch, a Continue and a completion read leave. A dispatch that does not release
the loop leaves it at its service line, with each command field either old or new; one
that releases it has written both.
-/

namespace OnecRuntime.Main

open OnecRuntime.Library

variable {Target Stop Value Decoded : Type}

/-! ## Dispatch -/

/-- The command fields may be written, and the rest of the server is as it was. -/
structure Held (before after : Server Value) (instruction : Instruction) (commandId : Nat) :
    Prop where
  position : after.position = before.position
  sealedMessages : after.sealedMessages = before.sealedMessages
  completedCommand : after.frame.completedCommand = before.frame.completedCommand
  commandId : after.frame.commandId = before.frame.commandId ∨ after.frame.commandId = commandId

/-- Both command fields are written and the loop is released. -/
def Sent (before : Server Value) (instruction : Instruction) (commandId : Nat) : Server Value :=
  ((before.writeInstruction instruction).writeCommandId commandId).release

/-- What a dispatch leaves: the loop held and an exception, or the loop released. -/
inductive Dispatched (before : Progress Target Stop Value Decoded) (instruction : Instruction) :
    Attempt Target Stop Value Decoded (Progress Target Stop Value Decoded) → Prop
  | held {kind : Raised} {after : Progress Target Stop Value Decoded} {phase : MainPhase}
      {attempted : Bool}
      (server : Held before.server after.server instruction before.operation.commandId)
      (operation : after.operation =
        { before.operation with phase, commandDispatchAttempted := attempted, pendingStop := none })
      (live : phase = .admitted ∨ phase = .unknown) :
      Dispatched before instruction (.error (kind, after))
  | lost {kind : Raised} {after : Progress Target Stop Value Decoded}
      (server : after.server = Sent before.server instruction before.operation.commandId)
      (operation : after.operation =
        { before.operation with
          phase := .unknown, commandDispatchAttempted := true, pendingStop := none }) :
      Dispatched before instruction (.error (kind, after))
  | acknowledged {after : Progress Target Stop Value Decoded}
      (server : after.server = Sent before.server instruction before.operation.commandId)
      (operation : after.operation =
        { before.operation with
          phase := .running, commandDispatchAttempted := true, pendingStop := none }) :
      Dispatched before instruction (.ok after)

theorem callBack_cases (progress : Progress Target Stop Value Decoded) (callback : Callback) :
    (∃ kind, callBack progress callback = .error (kind, progress)) ∨
      callBack progress callback = .ok progress := by
  cases callback with
  | returned => exact .inr rfl
  | raised kind => exact .inl ⟨kind, rfl⟩

/-- A new operation, before any request of its dispatch. -/
structure Admitted (operation : CommandOperation Target Stop Decoded) : Prop where
  phase : operation.phase = .admitted
  unattempted : operation.commandDispatchAttempted = false
  unstopped : operation.pendingStop = none

theorem Admitted.requested {operation : CommandOperation Target Stop Decoded}
    (admitted : Admitted operation) :
    operation.commandWriteRequested = .ok { operation with phase := .unknown } := by
  unfold MainOperation.commandWriteRequested MainOperation.requireLive MainOperation.terminal
  rw [admitted.phase]
  rfl

theorem Admitted.acknowledged {operation : CommandOperation Target Stop Decoded}
    (admitted : Admitted operation) :
    MainOperation.commandWriteAcknowledged { operation with phase := .unknown } =
      .ok operation := by
  unfold MainOperation.commandWriteAcknowledged MainOperation.requireLive MainOperation.terminal
  obtain ⟨phase, unattempted, _⟩ := admitted
  cases operation
  subst phase unattempted
  rfl

variable {progress : Progress Target Stop Value Decoded}

/-- A write raises with or without effect, or it is done. -/
theorem modify_cases (admitted : Admitted progress.operation) (assign : Server Value → Server Value)
    (write : Write) :
    (∃ kind server phase, modify progress assign write =
        .error (kind, ⟨{ progress.operation with phase }, server⟩) ∧
      (server = progress.server ∨ server = assign progress.server) ∧
      (phase = .admitted ∨ phase = .unknown)) ∨
    modify progress assign write = .ok ⟨progress.operation, assign progress.server⟩ := by
  have affected : ∀ effect, progress.server.affected effect (assign progress.server) =
      progress.server ∨ progress.server.affected effect (assign progress.server) =
        assign progress.server :=
    fun effect => (Bool.eq_false_or_eq_true effect).elim
      (fun done => .inr (if_pos done)) fun kept => .inl (if_neg (Bool.eq_false_iff.1 kept))
  have same : { progress.operation with phase := .admitted } = progress.operation := by
    rw [← admitted.phase]
  unfold modify moveOperation
  rw [admitted.requested]
  cases write with
  | refused =>
      refine .inl ⟨.exception, progress.server, .admitted, ?_, .inl rfl, .inl rfl⟩
      rw [same]
  | lost effect => exact .inl ⟨_, _, .unknown, rfl, affected effect, .inr rfl⟩
  | rejected effect =>
      simp only [ok_bind, admitted.acknowledged]
      refine .inl ⟨.exception, _, .admitted, ?_, affected effect, .inl rfl⟩
      rw [same]
  | written =>
      simp only [ok_bind, admitted.acknowledged]
      exact .inr trivial

/-- A Continue is not sent, or it is sent without effect, or it releases the loop. -/
theorem continueCommand_cases (live : progress.operation.terminal = false) (release : Release) :
    (∃ kind, continueCommand progress release = .error (kind, progress)) ∨
    (∃ kind server, (server = progress.server ∨ server = progress.server.release) ∧
      continueCommand progress release = .error (kind,
        ⟨{ progress.operation with
            phase := .unknown, commandDispatchAttempted := true, pendingStop := none },
          server⟩)) ∨
    continueCommand progress release = .ok
      ⟨{ progress.operation with
          phase := .running, commandDispatchAttempted := true, pendingStop := none },
        progress.server.release⟩ := by
  have requested : progress.operation.continueRequested = .ok
      { progress.operation with
        phase := .unknown, commandDispatchAttempted := true, pendingStop := none } := by
    unfold MainOperation.continueRequested MainOperation.requireLive
    rw [live]
    rfl
  unfold continueCommand moveOperation
  rw [if_neg (Bool.eq_false_iff.1 live), requested]
  cases release with
  | refused => exact .inl ⟨_, rfl⟩
  | lost effect =>
      refine .inr (.inl ⟨_, _, ?_, rfl⟩)
      cases effect
      · exact .inl rfl
      · exact .inr rfl
  | acknowledged => exact .inr (.inr rfl)

theorem dispatch_cases (admitted : Admitted progress.operation) (instruction : Instruction)
    (faults : DispatchFaults) :
    Dispatched progress instruction (dispatch progress instruction faults) := by
  have same : progress.operation = { progress.operation with
      phase := .admitted, commandDispatchAttempted := false, pendingStop := none } := by
    rw [← admitted.phase, ← admitted.unattempted, ← admitted.unstopped]
  have kept : ∀ server : Server Value,
      Held progress.server server instruction progress.operation.commandId →
      ∀ kind : Raised, Dispatched progress instruction
        (.error (kind, { progress with server })) :=
    fun _ held _ => .held held same (.inl rfl)
  have untouched : Held progress.server progress.server instruction
      progress.operation.commandId := ⟨rfl, rfl, rfl, .inl rfl⟩
  have named : Held progress.server (progress.server.writeInstruction instruction) instruction
      progress.operation.commandId := ⟨rfl, rfl, rfl, .inl rfl⟩
  have numbered : Held progress.server
      ((progress.server.writeInstruction instruction).writeCommandId
        progress.operation.commandId) instruction progress.operation.commandId :=
    ⟨rfl, rfl, rfl, .inr rfl⟩
  have held : ∀ (server : Server Value) (phase : MainPhase) (kind : Raised),
      Held progress.server server instruction progress.operation.commandId →
      phase = .admitted ∨ phase = .unknown →
      Dispatched progress instruction (.error (kind, ⟨{ progress.operation with phase }, server⟩)) := by
    intro server phase kind kept live
    refine @Dispatched.held _ _ _ _ _ _ kind _ phase false kept ?_ live
    rw [← admitted.unattempted, ← admitted.unstopped]
  unfold dispatch
  rcases callBack_cases progress faults.installWorkspace with ⟨kind, is⟩ | is
  · rw [is]
    exact kept _ untouched kind
  rw [is, ok_bind]
  rcases callBack_cases progress faults.beforeCommandWrite with ⟨kind, is⟩ | is
  · rw [is]
    exact kept _ untouched kind
  rw [is, ok_bind]
  rcases modify_cases admitted (·.writeInstruction instruction) faults.instruction with
    ⟨kind, server, phase, is, written, live⟩ | is
  · rw [is]
    rcases written with rfl | rfl
    · exact held _ phase kind untouched live
    · exact held _ phase kind named live
  rw [is, ok_bind]
  rcases @modify_cases _ _ _ _ ⟨progress.operation, progress.server.writeInstruction instruction⟩
      admitted (·.writeCommandId progress.operation.commandId) faults.commandId with
    ⟨kind, server, phase, is, written, live⟩ | is
  · rw [is]
    rcases written with rfl | rfl
    · exact held _ phase kind named live
    · exact held _ phase kind numbered live
  rw [is, ok_bind]
  simp only
  rcases callBack_cases (⟨progress.operation, (progress.server.writeInstruction
      instruction).writeCommandId progress.operation.commandId⟩ :
      Progress Target Stop Value Decoded) faults.beforeContinue with ⟨kind, is⟩ | is
  · rw [is]
    exact kept _ numbered kind
  rw [is, ok_bind]
  have live : progress.operation.terminal = false := by
    unfold MainOperation.terminal
    rw [admitted.phase]
    rfl
  rcases @continueCommand_cases _ _ _ _ ⟨progress.operation, (progress.server.writeInstruction
      instruction).writeCommandId progress.operation.commandId⟩ live faults.continue_ with
    ⟨kind, is⟩ | ⟨kind, server, released, is⟩ | is
  · rw [is]
    exact kept _ numbered kind
  · rw [is]
    rcases released with rfl | rfl
    · exact .held numbered rfl (.inr rfl)
    · exact .lost rfl rfl
  · rw [is]
    exact .acknowledged rfl rfl

/-! ## Completion -/

/-- Only the sealed messages may be taken. -/
structure Taken (before after : Progress Target Stop Value Decoded) : Prop where
  operation : after.operation = before.operation
  frame : after.server.frame = before.server.frame
  position : after.server.position = before.server.position

theorem takeMessages_taken (progress : Progress Target Stop Value Decoded) (key : CodeText) :
    Taken progress { progress with server := (progress.server.takeMessages key).2 } := by
  unfold Server.takeMessages
  split
  · exact ⟨rfl, rfl, rfl⟩
  · split
    · exact ⟨rfl, rfl, rfl⟩
    · exact ⟨rfl, rfl, rfl⟩

theorem affected_taken (progress : Progress Target Stop Value Decoded) (key : CodeText)
    (effect : Bool) :
    Taken progress { progress with
      server := progress.server.affected effect (progress.server.takeMessages key).2 } := by
  cases effect with
  | false => exact ⟨rfl, rfl, rfl⟩
  | true => exact takeMessages_taken progress key

variable {faults : CompletionFaults}

/-- A matching identifier closes a live operation and leaves the server. -/
theorem matchCompletion_ok {closed : Progress Target Stop Value Decoded}
    (matched : matchCompletion progress faults = .ok closed) :
    progress.server.frame.completedCommand = progress.operation.commandId ∧
      progress.operation.terminal = false ∧
      closed = ⟨{ progress.operation with pendingStop := none, phase := .completed },
        progress.server⟩ := by
  obtain ⟨_, _, matched⟩ := bind_eq_ok.1 matched
  obtain ⟨_, _, matched⟩ := bind_eq_ok.1 matched
  obtain ⟨_, _, matched⟩ := bind_eq_ok.1 matched
  obtain ⟨_, same, matched⟩ := bind_eq_ok.1 matched
  refine ⟨require_eq_ok.1 same, ?_⟩
  split at matched
  · next operation completes =>
      cases matched
      obtain ⟨_, live, completes⟩ := bind_eq_ok.1 completes
      exact ⟨require_eq_ok.1 live, by rw [← pure_eq_ok.1 completes]⟩
  · cases matched

variable {left : Progress Target Stop Value Decoded}

variable {key : CodeText}

theorem collectMessages_ok {taking : Taking} {messages : List CodeText}
    (collected : collectMessages progress key taking = .ok (messages, left)) :
    Taken progress left ∧
      (key = [] ∧ messages = [] ∨ key ≠ [] ∧ messages = (progress.server.takeMessages key).1) := by
  unfold collectMessages at collected
  split at collected
  · next none =>
      cases collected
      exact ⟨⟨rfl, rfl, rfl⟩, .inl ⟨none, rfl⟩⟩
  · next some =>
      split at collected
      · cases collected
        exact ⟨takeMessages_taken progress key, .inr ⟨some, rfl⟩⟩
      · cases collected
      · cases collected
      · cases collected

theorem collectMessages_error {taking : Taking} {failure : ReadFailure}
    (raised : collectMessages progress key taking = .error (failure, left)) :
    Taken progress left := by
  unfold collectMessages at raised
  split at raised
  · cases raised
  · split at raised
    · cases raised
    · cases raised
      exact affected_taken progress key _
    · cases raised
      exact affected_taken progress key _
    · cases raised
      exact takeMessages_taken progress key

/-- The values of the frame and the messages under the key. -/
theorem readValues_ok {decode : Option Value → Except Unit Decoded}
    {completion : Completion Decoded}
    (read : readValues decode progress key faults = .ok (completion, left)) :
    Taken progress left ∧ decode progress.server.frame.result = .ok completion.result ∧
      completion.error = progress.server.frame.error ∧
      (key = [] ∧ completion.messages = [] ∨
        key ≠ [] ∧ completion.messages = (progress.server.takeMessages key).1) := by
  obtain ⟨_, _, read⟩ := bind_eq_ok.1 read
  obtain ⟨_, _, read⟩ := bind_eq_ok.1 read
  obtain ⟨_, _, read⟩ := bind_eq_ok.1 read
  obtain ⟨_, _, read⟩ := bind_eq_ok.1 read
  obtain ⟨_, _, read⟩ := bind_eq_ok.1 read
  obtain ⟨_, _, read⟩ := bind_eq_ok.1 read
  obtain ⟨_, _, read⟩ := bind_eq_ok.1 read
  split at read
  · cases read
  · next result decoded =>
      obtain ⟨⟨messages, collected⟩, taken, read⟩ := bind_eq_ok.1 read
      cases pure_eq_ok.1 read
      obtain ⟨kept, which⟩ := collectMessages_ok taken
      exact ⟨kept, decoded, rfl, which⟩

theorem readValues_error {decode : Option Value → Except Unit Decoded}
    {failure : ReadFailure}
    (raised : readValues decode progress key faults = .error (failure, left)) :
    Taken progress left := by
  have same : ∀ {condition : Prop} [Decidable condition] {kind : ReadFailure},
      require condition (kind, progress) = .error (failure, left) → Taken progress left := by
    intro condition _ kind problem
    cases require_eq_error problem
    exact ⟨rfl, rfl, rfl⟩
  rcases bind_eq_error raised with first | ⟨_, _, raised⟩
  · exact same first
  rcases bind_eq_error raised with first | ⟨_, _, raised⟩
  · exact same first
  rcases bind_eq_error raised with first | ⟨_, _, raised⟩
  · exact same first
  rcases bind_eq_error raised with first | ⟨_, _, raised⟩
  · exact same first
  rcases bind_eq_error raised with first | ⟨_, _, raised⟩
  · exact same first
  rcases bind_eq_error raised with first | ⟨_, _, raised⟩
  · exact same first
  rcases bind_eq_error raised with first | ⟨_, _, raised⟩
  · exact same first
  split at raised
  · cases raised
    exact ⟨rfl, rfl, rfl⟩
  · rcases bind_eq_error raised with first | ⟨_, _, impossible⟩
    · exact collectMessages_error first
    · cases impossible

end OnecRuntime.Main
