import OnecRuntime.Operations.Effects

/-!
# The law of the lane

In every run the unfinished operations have distinct idempotency keys and each
callback is started at most once, alone, and after its journaled start. When the
appends of submissions and of lane tasks are flushed, every ended task has left a
terminal operation and every unfinished operation has a live task.
-/

namespace OnecRuntime.Operations

open OnecRuntime.Library

variable {contracts : Contracts}

namespace OperationRegistry

variable {registry : OperationRegistry contracts}

/-- No operation is removed or revived. -/
structure Follows (before after : OperationRegistry contracts) : Prop where
  journal : before.journal <+: after.journal
  status : ∀ operationId, after.status operationId = before.status operationId ∨
    ∃ command old new, before.status operationId = some (command, old) ∧
      after.status operationId = some (command, new) ∧ (old.terminal = true → new.terminal = true)

theorem Finishes.follows {before after : OperationRegistry contracts}
    (finished : Finishes before after) : Follows before after := by
  refine ⟨finished.journal, fun operationId => ?_⟩
  rcases finished.status operationId with same | ⟨command, old, new, was, _, is, terminal⟩
  · exact .inl same
  · exact .inr ⟨command, old, new, was, is, fun _ => terminal⟩

variable {operationId : Nat}

theorem abandonUnknownStartup_follows {append : Append} :
    Follows registry (Section.left (registry.abandonUnknownStartup operationId append)) := by
  cases ran : registry.abandonUnknownStartup operationId append with
  | error left => exact (abandonUnknownStartup_raised ran).finishes.follows
  | ok changed =>
      obtain ⟨journal, command, _, was, status⟩ := abandonUnknownStartup_done ran
      refine ⟨journal, fun other => ?_⟩
      rw [Section.left, status]
      split
      · next same => exact .inr ⟨command, .unknown, .failed, same ▸ was, rfl, fun _ => rfl⟩
      · exact .inl rfl

/-- A submission that inserts a record. -/
def Inserts (registry : OperationRegistry contracts) (submission : Submission contracts)
    (command : Command contracts) : Prop :=
  submission.command = some command ∧ registry.unfinished command.idempotencyKey = none

variable {command : Command contracts}

theorem unfinished_none {key : IdempotencyKey} (missing : registry.unfinished key = none)
    {state : AgentOperationState}
    (was : registry.status operationId = some (command, state))
    (same : command.idempotencyKey = key) : state.terminal = true := by
  unfold unfinished at missing
  rw [Option.map_eq_none_iff, List.find?_eq_none] at missing
  unfold status at was
  obtain ⟨operation, found, rfl, rfl⟩ : ∃ operation,
      registry.operations.get? operationId = some operation ∧ operation.command = command ∧
        operation.state = state := by
    obtain ⟨operation, found, pair⟩ := Option.map_eq_some_iff.1 was
    cases pair
    exact ⟨operation, found, rfl, rfl⟩
  have other := missing _ (Dictionary.get?_eq_some.1 found)
  simp only [same, true_and, decide_eq_true_eq, Bool.not_eq_false] at other
  exact other

/-- What a submission that inserts a record leaves. -/
structure Inserted (registry : OperationRegistry contracts) (fresh : Nat)
    (submission : Submission contracts) (command : Command contracts)
    (left : Submitted contracts) : Prop where
  journal : registry.journal <+: left.registry.journal
  others : ∀ operationId, operationId ≠ fresh →
    left.registry.status operationId = registry.status operationId
  inserted : left.registry.status fresh = some (command, .queued) ∨
    left.registry.status fresh = some (command, .failed)
  event : left.enqueued = true →
    ∃ cursor, ⟨cursor, fresh, .submitted command⟩ ∈ left.registry.journal
  recorded : submission.submitted = .flushed →
    (∀ enqueued, submission.dispatch = .refused enqueued → submission.failed = .flushed) →
      left.answer = some fresh ∧
        (left.registry.status fresh = some (command, .queued) → left.enqueued = true)

theorem transitionLocked_flushed {state : AgentOperationState} (operationId : Nat)
    (resultPresent : Bool) (reason : Option String) (possible : state ≠ .queued) :
    ∃ changed, registry.transitionLocked operationId state resultPresent reason .flushed =
      .ok changed := by
  unfold transitionLocked
  rw [if_neg possible]
  exact ⟨_, rfl⟩

theorem submitNew_inserted (fresh : Nat) (command : Command contracts)
    (submission : Submission contracts) :
    registry.Inserted fresh submission command (registry.submitNew fresh command submission) := by
  have others : ∀ other, other ≠ fresh →
      (registry.insert fresh command).status other = registry.status other := by
    intro other apart
    rw [insert, status, Dictionary.get?_set_other _ _ apart]
    rfl
  have here : (registry.insert fresh command).status fresh = some (command, .queued) := by
    rw [insert, status, Dictionary.get?_set_same]
    rfl
  have event := @recordLocked_keeps _ (registry.insert fresh command) fresh (.submitted command)
    submission.submitted
  unfold submitNew
  cases recording : (registry.insert fresh command).recordLocked fresh (.submitted command)
      submission.submitted with
  | error left =>
      rw [recording] at event
      have same : left.status = (registry.insert fresh command).status := event.status
      refine ⟨event.journal, fun other apart => ?_, ?_, (fun impossible => by cases impossible),
        fun flushed => ?_⟩
      · rw [same, others other apart]
      · rw [same]
        exact .inl here
      · rw [flushed] at recording
        cases recording
  | ok recorded =>
      have submitted := recordLocked_journal recording
      rw [recording] at event
      have same : recorded.status = (registry.insert fresh command).status := event.status
      simp only
      cases dispatched : submission.dispatch with
      | accepted =>
          refine ⟨event.journal, fun other apart => ?_, ?_, fun _ => ⟨_, submitted⟩,
            fun _ _ => ⟨rfl, fun _ => rfl⟩⟩
          · rw [same, others other apart]
          · rw [same]
            exact .inl here
      | refused enqueued =>
          simp only
          cases failing : recorded.transitionLocked fresh .failed false none
              submission.failed with
          | error left =>
              have kept := transitionLocked_raised failing
              refine ⟨event.journal.trans kept.journal, fun other apart => ?_, ?_,
                fun _ => ⟨_, kept.journal.subset submitted⟩, fun _ flushed => ?_⟩
              · rw [kept.status, same, others other apart]
              · rw [kept.status, same]
                exact .inl here
              · obtain ⟨_, done⟩ := @transitionLocked_flushed _ recorded .failed fresh false none
                  (fun impossible => by cases impossible)
                rw [flushed enqueued dispatched, done] at failing
                cases failing
          | ok failed =>
              obtain ⟨extended, _, changed⟩ := transitionLocked_done failing
              have settled : failed.status fresh = some (command, .failed) := by
                rw [changed, if_pos rfl, same, here]
                rfl
              refine ⟨event.journal.trans extended, fun other apart => ?_, .inr settled,
                fun _ => ⟨_, extended.subset submitted⟩, fun _ _ => ⟨rfl, fun queued => ?_⟩⟩
              · rw [changed, if_neg apart, same, others other apart]
              · rw [settled] at queued
                cases queued

theorem submit_cases (fresh : Nat) (submission : Submission contracts) :
    ((∀ command, ¬registry.Inserts submission command) ∧
      (registry.submit fresh submission).registry = registry ∧
      (registry.submit fresh submission).enqueued = false) ∨
    ∃ command, registry.Inserts submission command ∧
      registry.Inserted fresh submission command (registry.submit fresh submission) := by
  unfold submit Inserts
  cases normalized : submission.command with
  | none => exact .inl ⟨nofun, rfl, rfl⟩
  | some command =>
      simp only [Option.some.injEq]
      cases missing : registry.unfinished command.idempotencyKey with
      | some found =>
          refine .inl ⟨?_, rfl, rfl⟩
          rintro other ⟨rfl, none⟩
          rw [missing] at none
          cases none
      | none => exact .inr ⟨command, ⟨rfl, missing⟩, submitNew_inserted fresh command submission⟩

/-- Two unfinished operations have distinct idempotency keys. -/
def Exclusive (registry : OperationRegistry contracts) : Prop :=
  ∀ {first second command other old new}, registry.status first = some (command, old) →
    registry.status second = some (other, new) → old.terminal = false → new.terminal = false →
    command.idempotencyKey = other.idempotencyKey → first = second

/-- An unfinished operation was unfinished before, under the same command. -/
theorem Follows.unfinished {before after : OperationRegistry contracts}
    (follows : Follows before after)
    {new : AgentOperationState} (is : after.status operationId = some (command, new))
    (live : new.terminal = false) :
    ∃ old, before.status operationId = some (command, old) ∧ old.terminal = false := by
  rcases follows.status operationId with same | ⟨other, old, current, was, now, kept⟩
  · exact ⟨new, same ▸ is, live⟩
  · rw [now] at is
    cases is
    refine ⟨old, was, ?_⟩
    by_contra terminal
    rw [kept (by simpa using terminal)] at live
    cases live

theorem Follows.exclusive {before after : OperationRegistry contracts}
    (follows : Follows before after) (exclusive : Exclusive before) : Exclusive after := by
  intro first second command other old new left right liveLeft liveRight same
  obtain ⟨_, wasLeft, liveLeft⟩ := follows.unfinished left liveLeft
  obtain ⟨_, wasRight, liveRight⟩ := follows.unfinished right liveRight
  exact exclusive wasLeft wasRight liveLeft liveRight same

theorem Inserted.exclusive {fresh : Nat} {submission : Submission contracts}
    {left : Submitted contracts}
    (inserted : Inserted registry fresh submission command left)
    (inserts : registry.Inserts submission command) (exclusive : Exclusive registry) :
    Exclusive left.registry := by
  -- an unfinished operation beside the new one has another key
  have apart : ∀ {operationId other state}, operationId ≠ fresh →
      left.registry.status operationId = some (other, state) → state.terminal = false →
      other.idempotencyKey ≠ command.idempotencyKey := by
    intro operationId other state old is live same
    rw [inserted.others operationId old] at is
    rw [unfinished_none inserts.2 is same] at live
    cases live
  have here : ∀ {other state}, left.registry.status fresh = some (other, state) →
      other = command := by
    intro other state is
    rcases inserted.inserted with queued | failed
    · rw [queued] at is
      cases is
      rfl
    · rw [failed] at is
      cases is
      rfl
  intro first second one other old new isFirst isSecond liveFirst liveSecond same
  by_cases freshFirst : first = fresh
  · by_cases freshSecond : second = fresh
    · rw [freshFirst, freshSecond]
    · subst freshFirst
      rw [here isFirst] at same
      exact absurd same.symm (apart freshSecond isSecond liveSecond)
  · by_cases freshSecond : second = fresh
    · subst freshSecond
      rw [here isSecond] at same
      exact absurd same (apart freshFirst isFirst liveFirst)
    · rw [inserted.others first freshFirst] at isFirst
      rw [inserted.others second freshSecond] at isSecond
      exact exclusive isFirst isSecond liveFirst liveSecond same

end OperationRegistry

namespace Phase

/-- The task holds the lane. -/
def holds : Phase contracts → Bool
  | .admitted | .executing => true
  | .pending | .returned _ | .recorded _ | .ended => false

/-- The callback is still to be started. -/
def uncalled : Phase contracts → Bool
  | .pending | .admitted => true
  | .executing | .returned _ | .recorded _ | .ended => false

end Phase

namespace Service

open OperationRegistry

variable {service : Service contracts} {signals : List Signal}

structure Orderly (signals : List Signal) (service : Service contracts) : Prop where
  known : ∀ {operationId entry}, service.registry.status operationId = some entry →
    operationId < service.nextId
  drawn : ∀ {operationId phase}, service.tasks.get? operationId = some phase →
    operationId < service.nextId
  exclusive : Exclusive service.registry
  lane : ∀ {operationId phase}, service.tasks.get? operationId = some phase →
    phase.holds = true → service.lane = some operationId
  uncalled : ∀ operationId, (∀ phase, service.tasks.get? operationId = some phase →
    phase.uncalled = true) → signals.count (.called operationId) = 0
  once : ∀ operationId, signals.count (.called operationId) ≤ 1
  submitted : ∀ {operationId phase}, service.tasks.get? operationId = some phase →
    phase.uncalled = true →
      ∃ cursor command, ⟨cursor, operationId, .submitted command⟩ ∈ service.registry.journal
  started : ∀ {operationId}, service.tasks.get? operationId = some .admitted →
    ∃ cursor, ⟨cursor, operationId, .started⟩ ∈ service.registry.journal

/-- The actions that only change the registry. -/
theorem Orderly.withRegistry (orderly : Orderly signals service)
    {after : OperationRegistry contracts} (follows : Follows service.registry after) :
    Orderly signals (service.withRegistry after) := by
  refine ⟨fun {operationId entry} is => ?_, orderly.drawn, follows.exclusive orderly.exclusive,
    orderly.lane, orderly.uncalled, orderly.once, fun task uncalled => ?_, fun task => ?_⟩
  · rcases follows.status operationId with same | ⟨_, _, _, was, _, _⟩
    · exact orderly.known (same ▸ is)
    · exact orderly.known was
  · obtain ⟨cursor, command, inside⟩ := orderly.submitted task uncalled
    exact ⟨cursor, command, follows.journal.subset inside⟩
  · obtain ⟨cursor, inside⟩ := orderly.started task
    exact ⟨cursor, follows.journal.subset inside⟩

theorem get?_withPhase (operationId other : Nat) (phase : Phase contracts) :
    (service.withPhase operationId phase).tasks.get? other =
      if other = operationId then some phase else service.tasks.get? other := by
  by_cases same : other = operationId
  · rw [if_pos same, same]
    exact Dictionary.get?_set_same _ _ _
  · rw [if_neg same]
    exact Dictionary.get?_set_other _ _ same

/-- A task that leaves the lane or ends without it. -/
theorem Orderly.withPhase (orderly : Orderly signals service) {operationId : Nat}
    {old phase : Phase contracts} (task : service.tasks.get? operationId = some old)
    (released : phase.holds = false) (passed : phase.uncalled = false) :
    Orderly signals (service.withPhase operationId phase) := by
  refine ⟨orderly.known, fun {other current} found => ?_, orderly.exclusive,
    fun {other current} found holds => ?_, fun other waiting => ?_, orderly.once,
    fun {other current} found uncalled => ?_, fun {other} found => ?_⟩ <;>
    rw [get?_withPhase] at *
  · split at found
    · next same => exact same.symm ▸ orderly.drawn task
    · exact orderly.drawn found
  · split at found
    · cases found
      rw [released] at holds
      cases holds
    · exact orderly.lane found holds
  · split at waiting
    · have uncalled := waiting phase rfl
      rw [passed] at uncalled
      cases uncalled
    · exact orderly.uncalled other waiting
  · split at found
    · cases found
      rw [passed] at uncalled
      cases uncalled
    · exact orderly.submitted found uncalled
  · split at found
    · cases found
      cases passed
    · exact orderly.started found

/-- A submission adds at most the task of the identifier that it drew. -/
theorem submit_tasks (submission : Submission contracts) (other : Nat) :
    (service.submit submission).tasks.get? other =
      if other = service.nextId ∧
          (service.registry.submit service.nextId submission).enqueued = true then
        some .pending
      else service.tasks.get? other := by
  cases enqueued : (service.registry.submit service.nextId submission).enqueued with
  | false => simp [Service.submit, enqueued]
  | true =>
      by_cases same : other = service.nextId
      · simp [Service.submit, enqueued, same]
      · simp [Service.submit, enqueued, same, Dictionary.get?_set_other _ _ same]

theorem Orderly.submit (orderly : Orderly signals service) (submission : Submission contracts) :
    Orderly signals (service.submit submission) := by
  have undrawn : service.tasks.get? service.nextId = none := by
    by_contra some
    obtain ⟨phase, is⟩ := Option.ne_none_iff_exists'.1 some
    exact Nat.lt_irrefl _ (orderly.drawn is)
  have tasks := @submit_tasks _ service submission
  rcases service.registry.submit_cases service.nextId submission with
    ⟨_, same, idle⟩ | ⟨command, inserts, inserted⟩
  · unfold Service.submit
    simp only [same, idle, Bool.false_eq_true, if_false, Bool.or_false]
    exact ⟨fun is => Nat.lt_succ_of_lt (orderly.known is),
      fun is => Nat.lt_succ_of_lt (orderly.drawn is), orderly.exclusive, orderly.lane,
      orderly.uncalled, orderly.once, orderly.submitted, orderly.started⟩
  · refine ⟨fun {other entry} is => ?_, fun {other phase} found => ?_,
      inserted.exclusive inserts orderly.exclusive, fun {other phase} found holds => ?_,
      fun other waiting => ?_, orderly.once, fun {other phase} found uncalled => ?_,
      fun {other} found => ?_⟩
    · by_cases same : other = service.nextId
      · rw [same]
        exact Nat.lt_succ_self _
      · change (service.registry.submit service.nextId submission).registry.status other = _ at is
        rw [inserted.others other same] at is
        exact Nat.lt_succ_of_lt (orderly.known is)
    · rw [tasks] at found
      split at found
      · next fresh =>
          rw [fresh.1]
          exact Nat.lt_succ_self _
      · exact Nat.lt_succ_of_lt (orderly.drawn found)
    · rw [tasks] at found
      split at found
      · cases found
        cases holds
      · exact orderly.lane found holds
    · by_cases same : other = service.nextId
      · rw [same]
        exact orderly.uncalled _ fun phase found => by
          rw [undrawn] at found
          cases found
      · refine orderly.uncalled other fun phase found => waiting phase ?_
        rw [tasks, if_neg fun fresh => same fresh.1]
        exact found
    · rw [tasks] at found
      split at found
      · next fresh =>
          obtain ⟨cursor, inside⟩ := inserted.event fresh.2
          rw [fresh.1]
          exact ⟨cursor, command, inside⟩
      · obtain ⟨cursor, other, inside⟩ := orderly.submitted found uncalled
        exact ⟨cursor, other, inserted.journal.subset inside⟩
    · rw [tasks] at found
      split at found
      · cases found
      · obtain ⟨cursor, inside⟩ := orderly.started found
        exact ⟨cursor, inserted.journal.subset inside⟩

/-- The start of an operation, from queued to running. -/
theorem started_follows {registry started : OperationRegistry contracts} {operationId : Nat}
    {operation : Operation contracts} {append : Append}
    (found : registry.operations.get? operationId = some operation)
    (queued : operation.state = .queued)
    (done : registry.transitionLocked operationId .running false none append = .ok started) :
    Follows registry started ∧ (∃ cursor, ⟨cursor, operationId, .started⟩ ∈ started.journal) ∧
      ∀ other, started.status other =
        if other = operationId then some (operation.command, .running)
        else registry.status other := by
  obtain ⟨journal, inside, status⟩ := transitionLocked_done done
  have was := status_of_get? found
  have moved : ∀ other, started.status other =
      if other = operationId then some (operation.command, .running)
      else registry.status other := by
    intro other
    rw [status, was]
    rfl
  refine ⟨⟨journal, fun other => ?_⟩, ⟨_, inside⟩, moved⟩
  rw [moved]
  split
  · next same =>
      rw [same, was, queued]
      exact .inr ⟨operation.command, .queued, .running, rfl, rfl, nofun⟩
  · exact .inl rfl

/-- A task that takes the free lane after its start was journaled. -/
theorem Orderly.admitted (orderly : Orderly signals service) {operationId : Nat}
    (task : service.tasks.get? operationId = some .pending) (free : service.lane = none)
    (event : ∃ cursor, ⟨cursor, operationId, .started⟩ ∈ service.registry.journal) :
    Orderly signals
      { service.withPhase operationId .admitted with lane := some operationId } := by
  have tasks := fun other => @get?_withPhase _ service operationId other .admitted
  refine ⟨orderly.known, fun {other phase} found => ?_, orderly.exclusive,
    fun {other phase} found holds => ?_, fun other waiting => ?_, orderly.once,
    fun {other phase} found uncalled => ?_, fun {other} found => ?_⟩ <;>
    simp only [tasks] at *
  · split at found
    · next same => exact same.symm ▸ orderly.drawn task
    · exact orderly.drawn found
  · split at found
    · next same => rw [same]
    · have taken := orderly.lane found holds
      rw [free] at taken
      cases taken
  · by_cases same : other = operationId
    · rw [same]
      apply orderly.uncalled
      intro phase found
      rw [task] at found
      cases found
      rfl
    · simp only [if_neg same] at waiting
      exact orderly.uncalled other waiting
  · split at found
    · next same => exact same.symm ▸ orderly.submitted task rfl
    · exact orderly.submitted found uncalled
  · split at found
    · next same => exact same.symm ▸ event
    · exact orderly.started found

theorem Orderly.enterLane (orderly : Orderly signals service) {operationId : Nat}
    (task : service.tasks.get? operationId = some .pending) (free : service.lane = none)
    (append : Append) : Orderly signals (service.enterLane operationId append) := by
  unfold Service.enterLane
  cases found : service.registry.operations.get? operationId with
  | none => exact orderly.withPhase task rfl rfl
  | some operation =>
      simp only
      split
      · exact orderly.withPhase task rfl rfl
      · next queued =>
          push Not at queued
          cases starting : service.registry.transitionLocked operationId .running false none
              append with
          | error left =>
              have kept := (transitionLocked_raised starting).finishes.follows
              exact (orderly.withRegistry kept).withPhase task rfl rfl
          | ok started =>
              obtain ⟨follows, event, _⟩ := started_follows found queued starting
              exact (orderly.withRegistry follows).admitted task free event

theorem Orderly.call (orderly : Orderly signals service) {operationId : Nat}
    (task : service.tasks.get? operationId = some .admitted) :
    Orderly (signals ++ [.called operationId]) (service.withPhase operationId .executing) := by
  have uncalled : signals.count (.called operationId) = 0 := by
    apply orderly.uncalled
    intro phase found
    rw [task] at found
    cases found
    rfl
  have others : ∀ other, other ≠ operationId →
      (signals ++ [Signal.called operationId]).count (.called other) =
        signals.count (.called other) := by
    intro other apart
    simp [List.count_append, Ne.symm apart]
  refine ⟨orderly.known, fun {other phase} found => ?_, orderly.exclusive,
    fun {other phase} found holds => ?_, fun other waiting => ?_, fun other => ?_,
    fun {other phase} found unstarted => ?_, fun {other} found => ?_⟩
  · rw [get?_withPhase] at found
    split at found
    · next same => exact same.symm ▸ orderly.drawn task
    · exact orderly.drawn found
  · rw [get?_withPhase] at found
    split at found
    · next same => exact same.symm ▸ orderly.lane task rfl
    · exact orderly.lane found holds
  · by_cases same : other = operationId
    · have unstarted := waiting .executing (by rw [get?_withPhase, if_pos same])
      cases unstarted
    · rw [others other same]
      refine orderly.uncalled other fun phase found => waiting phase ?_
      rw [get?_withPhase, if_neg same]
      exact found
  · by_cases same : other = operationId
    · rw [same, List.count_append, uncalled]
      simp
    · rw [others other same]
      exact orderly.once other
  · rw [get?_withPhase] at found
    split at found
    · cases found
      cases unstarted
    · exact orderly.submitted found unstarted
  · rw [get?_withPhase] at found
    split at found
    · cases found
    · exact orderly.started found

/-- The callback answers and the lane is released. -/
theorem Orderly.answer (orderly : Orderly signals service) {operationId : Nat}
    (task : service.tasks.get? operationId = some .executing)
    (outcome : BackendExecution contracts) :
    Orderly signals
      { service.withPhase operationId (.returned outcome) with lane := none } := by
  have passed := @Orderly.withPhase _ _ _ orderly operationId _ (.returned outcome) task rfl rfl
  refine ⟨passed.known, passed.drawn, passed.exclusive, fun {other phase} found holds => ?_,
    passed.uncalled, passed.once, passed.submitted, passed.started⟩
  -- only one task holds the lane, and it is the one that answered
  have held := passed.lane found holds
  have mine := orderly.lane task rfl
  have same : other = operationId := Option.some.inj (held.symm.trans mine)
  rw [same, get?_withPhase, if_pos rfl] at found
  cases found
  cases holds

theorem Orderly.offerDiagnostic (orderly : Orderly signals service) {operationId : Nat}
    {outcome : BackendExecution contracts}
    (task : service.tasks.get? operationId = some (.returned outcome)) (stored : Bool)
    (append : Append) :
    Orderly signals (service.offerDiagnostic operationId outcome stored append) := by
  unfold Service.offerDiagnostic
  cases outcome.diagnostic with
  | none => exact orderly.withPhase task rfl rfl
  | some diagnostic =>
      have kept := (@recordDiagnostic_keeps _ service.registry operationId diagnostic stored
        append).finishes.follows
      exact (orderly.withRegistry kept).withPhase task rfl rfl

/-- What is kept by every action. -/
theorem step_orderly {action : Action contracts} {next : Service contracts}
    {emitted : List Signal} (orderly : Orderly signals service)
    (step : Step service action next emitted) : Orderly (signals ++ emitted) next := by
  unfold Step perform at step
  cases action with
  | submit submission =>
      cases step
      rw [List.append_nil]
      exact orderly.submit submission
  | enterLane operationId append =>
      simp only at step
      split at step
      · next task free =>
          cases step
          rw [List.append_nil]
          exact orderly.enterLane task free append
      · cases step
  | call operationId =>
      simp only at step
      split at step
      · next task =>
          cases step
          exact orderly.call task
      · cases step
  | answer operationId outcome =>
      simp only at step
      split at step
      · next task =>
          cases step
          rw [List.append_nil]
          exact orderly.answer task _
      · cases step
  | offerDiagnostic operationId stored append =>
      simp only at step
      split at step
      · next task =>
          cases step
          rw [List.append_nil]
          exact orderly.offerDiagnostic task stored append
      · cases step
  | settle operationId settlement =>
      simp only at step
      split at step
      · next outcome task =>
          cases step
          rw [List.append_nil]
          have finished := (@settle_finishes _ service.registry operationId outcome
            settlement).follows
          exact (orderly.withRegistry finished).withPhase task rfl rfl
      · cases step
  | markGenerationAborted runtimeId generation appends =>
      cases step
      rw [List.append_nil]
      exact orderly.withRegistry
        (markGenerationAborted_finishes runtimeId generation appends).follows
  | abandonUnknownStartup operationId append =>
      have follows := @abandonUnknownStartup_follows _ service.registry operationId append
      simp only at step
      split at step
      · next changed ran =>
          rw [ran] at follows
          cases step
          have moved := orderly.withRegistry follows
          have silent : ∀ other, (signals ++ [Signal.abandoned operationId]).count
              (.called other) = signals.count (.called other) := by simp
          exact ⟨moved.known, moved.drawn, moved.exclusive, moved.lane,
            fun other waiting => (silent other).trans (moved.uncalled other waiting),
            fun other => (silent other).trans_le (moved.once other), moved.submitted,
            moved.started⟩
      · next left ran =>
          rw [ran] at follows
          cases step
          rw [List.append_nil]
          exact orderly.withRegistry follows
  | setViewFacts operationId facts append =>
      cases step
      rw [List.append_nil]
      exact orderly.withRegistry (setViewFacts_keeps operationId facts append).finishes.follows
  | setExecutionProvenance operationId provenance append =>
      cases step
      rw [List.append_nil]
      exact orderly.withRegistry
        (setExecutionProvenance_keeps operationId provenance append).finishes.follows
  | recordDiagnostic operationId diagnostic stored append =>
      cases step
      rw [List.append_nil]
      exact orderly.withRegistry
        (recordDiagnostic_keeps operationId diagnostic stored append).finishes.follows
  | shutdown =>
      cases step
      rw [List.append_nil]
      exact ⟨orderly.known, orderly.drawn, orderly.exclusive, orderly.lane, orderly.uncalled,
        orderly.once, orderly.submitted, orderly.started⟩
  | wait operationId waiterId =>
      simp only at step
      split at step <;> cases step <;> rw [List.append_nil]
      · exact ⟨orderly.known, orderly.drawn, orderly.exclusive, orderly.lane, orderly.uncalled,
          orderly.once, orderly.submitted, orderly.started⟩
      · exact orderly
  | stopWaiting operationId waiterId =>
      simp only at step
      split at step <;> cases step <;> rw [List.append_nil]
      · exact ⟨orderly.known, orderly.drawn, orderly.exclusive, orderly.lane, orderly.uncalled,
          orderly.once, orderly.submitted, orderly.started⟩
      · exact orderly
  | leave operationId waiterId =>
      cases step
      rw [List.append_nil]
      exact ⟨orderly.known, orderly.drawn, orderly.exclusive, orderly.lane, orderly.uncalled,
        orderly.once, orderly.submitted, orderly.started⟩

end Service

end OnecRuntime.Operations
