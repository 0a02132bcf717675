import OnecRuntime.Operations.Lane

/-!
# What the sections change

A section is described by the journal that it extends and by the command and the
state of every operation. Events other than transitions leave all of them; an
abort and the settlement of a task turn unfinished operations into terminal ones.
-/

namespace OnecRuntime.Operations

open OnecRuntime.Library

variable {contracts : Contracts}

namespace OperationRegistry

variable {registry : OperationRegistry contracts}

/-- The command and the state of an operation. -/
def status (registry : OperationRegistry contracts) (operationId : Nat) :
    Option (Command contracts × AgentOperationState) :=
  (registry.operations.get? operationId).map fun operation => (operation.command, operation.state)

/-- The state is set; an absent operation stays absent. -/
def moved (state : AgentOperationState) (status : Option (Command contracts × AgentOperationState)) :
    Option (Command contracts × AgentOperationState) :=
  status.map fun entry => (entry.1, state)

theorem status_update (change : Operation contracts → Operation contracts)
    (operationId other : Nat) :
    (registry.update operationId change).status other =
      if other = operationId then
        (registry.operations.get? operationId).map fun operation =>
          ((change operation).command, (change operation).state)
      else registry.status other := by
  unfold update status
  by_cases same : other = operationId
  · subst same
    cases found : registry.operations.get? other with
    | none => simp [found]
    | some operation => simp
  · cases found : registry.operations.get? operationId with
    | none => simp [same]
    | some operation => simp [same, Dictionary.get?_set_other _ _ same]

/-- A change that keeps command and state keeps every status. -/
theorem status_update_kept {change : Operation contracts → Operation contracts}
    (kept : ∀ operation, (change operation).command = operation.command ∧
      (change operation).state = operation.state) (operationId : Nat) :
    (registry.update operationId change).status = registry.status := by
  funext other
  rw [status_update]
  split
  · next same =>
      rw [same, status]
      simp only [kept]
  · rfl

theorem journal_update (change : Operation contracts → Operation contracts) (operationId : Nat) :
    (registry.update operationId change).journal = registry.journal := by
  unfold update
  split <;> rfl

theorem advance_kept (cursor : Nat) (body : Body contracts) (operation : Operation contracts) :
    (advance cursor body operation).command = operation.command ∧
      (advance cursor body operation).state = operation.state := by
  cases body <;> exact ⟨rfl, rfl⟩

/-- Every status is kept and the journal is extended. -/
structure Keeps (before after : OperationRegistry contracts) : Prop where
  journal : before.journal <+: after.journal
  status : after.status = before.status

/-- Unfinished operations may have become terminal. -/
structure Finishes (before after : OperationRegistry contracts) : Prop where
  journal : before.journal <+: after.journal
  status : ∀ operationId, after.status operationId = before.status operationId ∨
    ∃ command old new, before.status operationId = some (command, old) ∧ old.terminal = false ∧
      after.status operationId = some (command, new) ∧ new.terminal = true

theorem Keeps.refl (registry : OperationRegistry contracts) : Keeps registry registry :=
  ⟨List.prefix_rfl, rfl⟩

theorem Keeps.trans {first second third : OperationRegistry contracts}
    (left : Keeps first second) (right : Keeps second third) : Keeps first third :=
  ⟨left.journal.trans right.journal, right.status.trans left.status⟩

theorem Keeps.finishes {before after : OperationRegistry contracts} (kept : Keeps before after) :
    Finishes before after :=
  ⟨kept.journal, fun operationId => .inl (congrFun kept.status operationId)⟩

theorem Finishes.trans {first second third : OperationRegistry contracts}
    (left : Finishes first second) (right : Finishes second third) : Finishes first third := by
  refine ⟨left.journal.trans right.journal, fun operationId => ?_⟩
  rcases left.status operationId with same | ⟨command, old, new, was, unfinished, is, terminal⟩
  · rw [← same]
    exact right.status operationId
  · rcases right.status operationId with same | ⟨_, again, _, other, unfinishedAgain, _⟩
    · exact .inr ⟨command, old, new, was, unfinished, same.trans is, terminal⟩
    · rw [is] at other
      cases other
      rw [terminal] at unfinishedAgain
      cases unfinishedAgain

/-! ## Events -/

variable {operationId : Nat} {body : Body contracts}

theorem recordLocked_keeps {append : Append} :
    Keeps registry (Section.left (registry.recordLocked operationId body append)) := by
  unfold recordLocked
  cases append with
  | flushed =>
      refine ⟨?_, ?_⟩
      · rw [Section.left, journal_update]
        exact List.prefix_append _ _
      · exact status_update_kept (advance_kept _ _) operationId
  | raised written =>
      cases written with
      | true => exact ⟨List.prefix_append _ _, rfl⟩
      | false => exact Keeps.refl registry

theorem recordLocked_journal {append : Append}
    {recorded : OperationRegistry contracts}
    (done : registry.recordLocked operationId body append = .ok recorded) :
    ⟨registry.nextCursor, operationId, body⟩ ∈ recorded.journal := by
  unfold recordLocked at done
  cases append with
  | raised written => cases done
  | flushed =>
      cases done
      rw [journal_update]
      exact List.mem_append_right _ List.mem_cons_self

/-- An event and a change that keeps command and state. -/
theorem recorded_keeps {append : Append}
    {change : Operation contracts → Operation contracts}
    (kept : ∀ operation, (change operation).command = operation.command ∧
      (change operation).state = operation.state) :
    Keeps registry (Section.left (do
      let recorded ← registry.recordLocked operationId body append
      .ok (recorded.update operationId change))) := by
  have event := @recordLocked_keeps _ registry operationId body append
  cases ran : registry.recordLocked operationId body append with
  | error left =>
      rw [ran] at event
      exact event
  | ok recorded =>
      rw [ran] at event
      refine event.trans ⟨?_, status_update_kept kept operationId⟩
      simp only [ok_bind, Section.left, journal_update, List.prefix_rfl]

theorem setViewFacts_keeps (operationId : Nat) (facts : contracts.Facts) (append : Append) :
    Keeps registry (registry.setViewFacts operationId facts append).left := by
  unfold setViewFacts
  split
  · exact Keeps.refl registry
  · exact recorded_keeps fun _ => ⟨rfl, rfl⟩

theorem setExecutionProvenance_keeps (operationId : Nat) (provenance : contracts.Provenance)
    (append : Append) :
    Keeps registry (registry.setExecutionProvenance operationId provenance append).left := by
  unfold setExecutionProvenance
  split
  · exact Keeps.refl registry
  · split
    · exact Keeps.refl registry
    · split
      · split <;> exact Keeps.refl registry
      · split
        · exact Keeps.refl registry
        · exact recorded_keeps fun _ => ⟨rfl, rfl⟩

theorem recordDiagnostic_keeps (operationId : Nat) (diagnostic : contracts.Diagnostic)
    (stored : Bool) (append : Append) :
    Keeps registry (registry.recordDiagnostic operationId diagnostic stored append).left := by
  unfold recordDiagnostic
  split
  · exact Keeps.refl registry
  · split
    · exact Keeps.refl registry
    · split
      · split <;> exact Keeps.refl registry
      · exact recorded_keeps fun _ => ⟨rfl, rfl⟩

theorem publishFacts_keeps (operationId : Nat) (operation : Operation contracts)
    (outcome : BackendExecution contracts) (append : Append) :
    Keeps registry (registry.publishFacts operationId operation outcome append).left := by
  unfold publishFacts
  split
  · exact Keeps.refl registry
  · simp only
    split
    · exact Keeps.refl registry
    · exact recorded_keeps fun _ => ⟨rfl, rfl⟩

theorem publishMessages_keeps (operationId : Nat) (messages : List CodeText)
    (appends : List Append) :
    Keeps registry (registry.publishMessages operationId messages appends).left := by
  induction messages generalizing registry appends with
  | nil => exact Keeps.refl registry
  | cons content rest hypothesis =>
      have event := @recordLocked_keeps _ registry operationId (.message content)
        (appends.headD .flushed)
      unfold publishMessages
      cases ran : registry.recordLocked operationId (.message content)
          (appends.headD .flushed) with
      | error left =>
          rw [ran] at event
          exact event
      | ok recorded =>
          rw [ran] at event
          exact event.trans (hypothesis appends.tail)

/-! ## Transitions -/

variable {state : AgentOperationState}

theorem transitionLocked_raised {resultPresent : Bool} {reason : Option String} {append : Append}
    {left : OperationRegistry contracts}
    (raised : registry.transitionLocked operationId state resultPresent reason append =
      .error left) : Keeps registry left := by
  unfold transitionLocked at raised
  split at raised
  · cases raised
    exact Keeps.refl registry
  · have event := @recordLocked_keeps _ registry operationId
      (transitionBody state resultPresent reason) append
    cases ran : registry.recordLocked operationId
        (transitionBody state resultPresent reason) append with
    | error other =>
        rw [ran] at event raised
        cases raised
        exact event
    | ok recorded =>
        rw [ran] at raised
        cases raised

theorem transitionLocked_done {resultPresent : Bool} {reason : Option String} {append : Append}
    {changed : OperationRegistry contracts}
    (done : registry.transitionLocked operationId state resultPresent reason append =
      .ok changed) :
    registry.journal <+: changed.journal ∧
      ⟨registry.nextCursor, operationId, transitionBody state resultPresent reason⟩ ∈
        changed.journal ∧
      ∀ other, changed.status other =
        if other = operationId then moved state (registry.status operationId)
        else registry.status other := by
  unfold transitionLocked at done
  split at done
  · cases done
  · have event := @recordLocked_keeps _ registry operationId
      (transitionBody state resultPresent reason) append
    cases ran : registry.recordLocked operationId
        (transitionBody state resultPresent reason) append with
    | error left =>
        rw [ran] at done
        cases done
    | ok recorded =>
        have inside := recordLocked_journal ran
        rw [ran] at event done
        cases done
        refine ⟨?_, ?_, fun other => ?_⟩
        · rw [journal_update]
          exact event.journal
        · rw [journal_update]
          exact inside
        · have same : recorded.status = registry.status := event.status
          rw [status_update, same]
          split
          · rw [← same, status, moved, Option.map_map]
            rfl
          · rfl

/-- A transition of an unfinished operation to a terminal state. -/
theorem transitionLocked_finishes
    {resultPresent : Bool} {reason : Option String} {append : Append} {command : Command contracts}
    {old : AgentOperationState} (was : registry.status operationId = some (command, old))
    (unfinished : old.terminal = false) (terminal : state.terminal = true) :
    Finishes registry
      (registry.transitionLocked operationId state resultPresent reason append).left := by
  cases ran : registry.transitionLocked operationId state resultPresent reason append with
  | error left => exact (transitionLocked_raised ran).finishes
  | ok changed =>
      obtain ⟨journal, _, status⟩ := transitionLocked_done ran
      refine ⟨journal, fun other => ?_⟩
      rw [Section.left, status]
      split
      · next same =>
          rw [same, was]
          exact .inr ⟨command, old, state, rfl, unfinished, rfl, terminal⟩
      · exact .inl rfl

theorem status_of_get? {operation : Operation contracts}
    (found : registry.operations.get? operationId = some operation) :
    registry.status operationId = some (operation.command, operation.state) := by
  rw [status, found]
  rfl

theorem abortEach_finishes (runtimeId : CodeText) (generation : Nat) (operationIds : List Nat)
    (appends : List Append) :
    Finishes registry (registry.abortEach runtimeId generation operationIds appends).left := by
  induction operationIds generalizing registry appends with
  | nil => exact (Keeps.refl registry).finishes
  | cons operationId rest hypothesis =>
      unfold abortEach
      cases found : registry.operations.get? operationId with
      | none => exact hypothesis appends
      | some operation =>
          simp only
          split
          · next aborted =>
              have first := @transitionLocked_finishes _ registry operationId .unknown false
                (some "generation_aborted") (appends.headD .flushed) _ _ (status_of_get? found)
                aborted.2.2 rfl
              cases ran : registry.transitionLocked operationId .unknown false
                  (some "generation_aborted") (appends.headD .flushed) with
              | error left =>
                  rw [ran] at first
                  exact first
              | ok changed =>
                  rw [ran] at first
                  exact first.trans (hypothesis appends.tail)
          · exact hypothesis appends

theorem markGenerationAborted_finishes (runtimeId : CodeText) (generation : Nat)
    (appends : List Append) :
    Finishes registry (registry.markGenerationAborted runtimeId generation appends).left := by
  unfold markGenerationAborted
  split
  · exact (Keeps.refl registry).finishes
  · exact abortEach_finishes runtimeId generation _ appends

/-- The abandonment of a startup changes one operation from unknown to failed. -/
theorem abandonUnknownStartup_done {append : Append}
    {changed : OperationRegistry contracts}
    (done : registry.abandonUnknownStartup operationId append = .ok changed) :
    registry.journal <+: changed.journal ∧
      ∃ command, command.operationKind = .runtimeEnsure ∧
        registry.status operationId = some (command, .unknown) ∧
        ∀ other, changed.status other =
          if other = operationId then some (command, .failed) else registry.status other := by
  unfold abandonUnknownStartup at done
  cases found : registry.operations.get? operationId with
  | none =>
      rw [found] at done
      cases done
  | some operation =>
      rw [found] at done
      simp only at done
      split at done
      · cases done
      · next allowed =>
          push Not at allowed
          obtain ⟨journal, _, status⟩ := transitionLocked_done done
          have was := status_of_get? found
          rw [allowed.2] at was
          refine ⟨journal, _, allowed.1, was, fun other => ?_⟩
          rw [status, was]
          rfl

theorem abandonUnknownStartup_raised {append : Append}
    {left : OperationRegistry contracts}
    (raised : registry.abandonUnknownStartup operationId append = .error left) :
    Keeps registry left := by
  unfold abandonUnknownStartup at raised
  cases found : registry.operations.get? operationId with
  | none =>
      rw [found] at raised
      cases raised
      exact Keeps.refl registry
  | some operation =>
      rw [found] at raised
      simp only at raised
      split at raised
      · cases raised
        exact Keeps.refl registry
      · exact transitionLocked_raised raised

/-- The settlement of a task. -/
theorem settle_finishes (operationId : Nat) (outcome : BackendExecution contracts)
    (settlement : Settlement) :
    Finishes registry (registry.settle operationId outcome settlement).left := by
  unfold settle
  cases found : registry.operations.get? operationId with
  | none => exact (Keeps.refl registry).finishes
  | some operation =>
      simp only
      split
      · exact (Keeps.refl registry).finishes
      · next unfinished =>
          have facts := @publishFacts_keeps _ registry operationId operation outcome
            settlement.facts
          cases informing : registry.publishFacts operationId operation outcome
              settlement.facts with
          | error left =>
              rw [informing] at facts
              exact facts.finishes
          | ok informed =>
              rw [informing] at facts
              have messages := @publishMessages_keeps _ informed operationId outcome.messages
                settlement.messages
              simp only [ok_bind]
              cases publishing : informed.publishMessages operationId outcome.messages
                  settlement.messages with
              | error left =>
                  rw [publishing] at messages
                  exact (facts.trans messages).finishes
              | ok published =>
                  rw [publishing] at messages
                  have kept := facts.trans messages
                  have was := status_of_get? found
                  rw [← congrFun kept.status operationId] at was
                  exact kept.finishes.trans (transitionLocked_finishes was (by
                    simpa using unfinished) outcome.settles)

end OperationRegistry

end OnecRuntime.Operations
