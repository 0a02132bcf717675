import OnecRuntime.Operations.LaneLaw

/-!
# Every operation settles

A journal append that raises can leave an unfinished operation without a task. In
the runs whose submissions and lane tasks are flushed this does not happen: a task
that ended has left a terminal operation, and an identical submission is answered
with an operation that still has a live task.
-/

namespace OnecRuntime.Operations

open OnecRuntime.Library

variable {contracts : Contracts}

namespace OperationRegistry

variable {registry : OperationRegistry contracts}

/-- Every changed operation is terminal. -/
def Calms (before after : OperationRegistry contracts) : Prop :=
  ∀ operationId, after.status operationId = before.status operationId ∨
    ∃ command old new, before.status operationId = some (command, old) ∧
      after.status operationId = some (command, new) ∧ new.terminal = true

theorem Finishes.calms {before after : OperationRegistry contracts}
    (finished : Finishes before after) : Calms before after := by
  intro operationId
  rcases finished.status operationId with same | ⟨command, old, new, was, _, is, terminal⟩
  · exact .inl same
  · exact .inr ⟨command, old, new, was, is, terminal⟩

def Settlement.Flushed (settlement : Settlement) : Prop :=
  settlement.facts = .flushed ∧ (∀ append ∈ settlement.messages, append = .flushed) ∧
    settlement.state = .flushed

end OperationRegistry

def Phase.live : Phase contracts → Bool
  | .ended => false
  | .pending | .admitted | .executing | .returned _ | .recorded _ => true

namespace Service

open OperationRegistry

variable {service : Service contracts} {signals : List Signal}

structure Serving (service : Service contracts) : Prop where
  ended : ∀ {operationId}, service.tasks.get? operationId = some .ended →
    ∃ command state, service.registry.status operationId = some (command, state) ∧
      state.terminal = true
  present : ∀ {operationId phase}, service.tasks.get? operationId = some phase →
    ∃ command state, service.registry.status operationId = some (command, state)
  served : ∀ {operationId command state},
    service.registry.status operationId = some (command, state) → state.terminal = false →
      ∃ phase, service.tasks.get? operationId = some phase ∧ phase.live = true
  waiting : ∀ {operationId command state}, service.tasks.get? operationId = some .pending →
    service.registry.status operationId = some (command, state) → state ≠ .running

theorem Serving.withRegistry (serving : Serving service)
    {after : OperationRegistry contracts} (calms : Calms service.registry after) :
    Serving (service.withRegistry after) := by
  refine ⟨fun {operationId} task => ?_, fun {operationId phase} task => ?_,
    fun {operationId command state} is live => ?_,
    fun {operationId command state} task is running => ?_⟩
  · rcases calms operationId with same | ⟨command, _, new, _, is, terminal⟩
    · obtain ⟨command, state, was, terminal⟩ := serving.ended task
      exact ⟨command, state, same.trans was, terminal⟩
    · exact ⟨command, new, is, terminal⟩
  · rcases calms operationId with same | ⟨command, _, new, _, is, _⟩
    · obtain ⟨command, state, was⟩ := serving.present task
      exact ⟨command, state, same.trans was⟩
    · exact ⟨command, new, is⟩
  · rcases calms operationId with same | ⟨_, _, _, _, now, terminal⟩
    · exact serving.served (same ▸ is) live
    · change after.status operationId = _ at is
      rw [now] at is
      cases is
      rw [terminal] at live
      cases live
  · rcases calms operationId with same | ⟨_, _, _, _, now, terminal⟩
    · exact serving.waiting task (same ▸ is) running
    · change after.status operationId = _ at is
      rw [now] at is
      cases is
      rw [running] at terminal
      cases terminal

/-- A task moves on; it ends only when its operation is terminal. -/
theorem Serving.withPhase (serving : Serving service) {operationId : Nat}
    {old phase : Phase contracts} (task : service.tasks.get? operationId = some old)
    (unfinished : phase.live = false → ∃ command state,
      service.registry.status operationId = some (command, state) ∧ state.terminal = true)
    (moved : phase ≠ .pending) : Serving (service.withPhase operationId phase) := by
  refine ⟨fun {other} found => ?_, fun {other current} found => ?_,
    fun {other command state} is live => ?_, fun {other command state} found is => ?_⟩
  · rw [get?_withPhase] at found
    split at found
    · next same =>
        cases found
        exact same.symm ▸ unfinished rfl
    · exact serving.ended found
  · rw [get?_withPhase] at found
    split at found
    · next same => exact same.symm ▸ serving.present task
    · exact serving.present found
  · rw [get?_withPhase]
    split
    · next same =>
        refine ⟨phase, rfl, ?_⟩
        by_contra dead
        obtain ⟨_, _, was, terminal⟩ := unfinished (by simpa using dead)
        change service.registry.status other = _ at is
        rw [same, was] at is
        cases is
        rw [terminal] at live
        cases live
    · exact serving.served is live
  · rw [get?_withPhase] at found
    split at found
    · cases found
      exact absurd rfl moved
    · exact serving.waiting found is

/-- The appends that a submission or a lane task reaches are flushed. -/
def Recorded (service : Service contracts) : Action contracts → Prop
  | .submit submission => (∃ command, service.registry.Inserts submission command) →
      submission.submitted = .flushed ∧
        ∀ enqueued, submission.dispatch = .refused enqueued → submission.failed = .flushed
  | .enterLane operationId append =>
      (∃ command, service.registry.status operationId = some (command, .queued)) →
        append = .flushed
  | .settle operationId settlement =>
      (∃ command state, service.registry.status operationId = some (command, state) ∧
        state.terminal = false) → Settlement.Flushed settlement
  | _ => True

theorem Serving.submit (serving : Serving service) (orderly : Orderly signals service)
    {submission : Submission contracts} (recorded : Recorded service (.submit submission)) :
    Serving (service.submit submission) := by
  rcases service.registry.submit_cases service.nextId submission with
    ⟨_, same, idle⟩ | ⟨command, inserts, inserted⟩
  · unfold Service.submit
    simp only [same, idle, Bool.false_eq_true, if_false, Bool.or_false]
    exact ⟨serving.ended, serving.present, serving.served, serving.waiting⟩
  · obtain ⟨submitted, failed⟩ := recorded ⟨command, inserts⟩
    obtain ⟨_, enqueued⟩ := inserted.recorded submitted failed
    have tasks := @submit_tasks _ service submission
    have others : ∀ other, other ≠ service.nextId →
        (service.submit submission).registry.status other = service.registry.status other :=
      inserted.others
    have here : (service.submit submission).registry.status service.nextId =
        some (command, .queued) ∨
        (service.submit submission).registry.status service.nextId = some (command, .failed) :=
      inserted.inserted
    have drawn : ∀ {other phase}, service.tasks.get? other = some phase →
        other ≠ service.nextId := fun found => Nat.ne_of_lt (orderly.drawn found)
    refine ⟨fun {other} found => ?_, fun {other phase} found => ?_,
      fun {other one state} is live => ?_, fun {other one state} found is => ?_⟩
    · rw [tasks] at found
      split at found
      · cases found
      · rw [others other (drawn found)]
        exact serving.ended found
    · rw [tasks] at found
      split at found
      · next fresh =>
          rw [fresh.1]
          rcases here with queued | failed
          · exact ⟨command, .queued, queued⟩
          · exact ⟨command, .failed, failed⟩
      · rw [others other (drawn found)]
        exact serving.present found
    · rw [tasks]
      by_cases same : other = service.nextId
      · subst same
        rcases here with queued | failed
        · rw [if_pos ⟨rfl, enqueued queued⟩]
          exact ⟨.pending, rfl, rfl⟩
        · rw [failed] at is
          cases is
          cases live
      · rw [if_neg fun fresh => same fresh.1]
        rw [others other same] at is
        exact serving.served is live
    · rw [tasks] at found
      split at found
      · next fresh =>
          rw [fresh.1] at is
          rcases here with queued | failed
          · rw [queued] at is
            cases is
            exact (fun impossible => by cases impossible)
          · rw [failed] at is
            cases is
            exact (fun impossible => by cases impossible)
      · rw [others other (drawn found)] at is
        exact serving.waiting found is

theorem Serving.enterLane (serving : Serving service) {operationId : Nat} {append : Append}
    (recorded : Recorded service (.enterLane operationId append))
    (task : service.tasks.get? operationId = some .pending) :
    Serving (service.enterLane operationId append) := by
  obtain ⟨command, state, was⟩ := serving.present task
  unfold Service.enterLane
  cases found : service.registry.operations.get? operationId with
  | none =>
      rw [status, found] at was
      cases was
  | some operation =>
      have is := status_of_get? found
      simp only
      split
      · next other =>
          refine serving.withPhase task (fun _ => ⟨_, _, is, ?_⟩) (fun impossible => by cases impossible)
          -- neither queued nor running
          have idle := serving.waiting task is
          cases reached : operation.state with
          | queued => exact absurd reached other
          | running => exact absurd reached idle
          | completed => rfl
          | captured => rfl
          | failed => rfl
          | unknown => rfl
      · next queued =>
          push Not at queued
          rw [recorded ⟨operation.command, queued ▸ is⟩]
          obtain ⟨started, starting⟩ := @transitionLocked_flushed _ service.registry .running
            operationId false none (fun impossible => by cases impossible)
          obtain ⟨_, _, moved⟩ := started_follows found queued starting
          simp only [starting]
          have tasks := fun other => @get?_withPhase _ service operationId other .admitted
          refine ⟨fun {other} task => ?_, fun {other phase} task => ?_,
            fun {other one state} is live => ?_, fun {other one state} task is => ?_⟩
          · change (service.withPhase operationId .admitted).tasks.get? other = _ at task
            rw [tasks] at task
            split at task
            · cases task
            · next apart =>
                obtain ⟨command, state, was, terminal⟩ := serving.ended task
                exact ⟨command, state, by rw [← was]; exact (moved other).trans (if_neg apart),
                  terminal⟩
          · change ∃ command state, started.status other = some (command, state)
            rw [moved]
            split
            · exact ⟨_, _, rfl⟩
            · next apart =>
                change (service.withPhase operationId .admitted).tasks.get? other = _ at task
                rw [tasks, if_neg apart] at task
                exact serving.present task
          · change ∃ phase, (service.withPhase operationId .admitted).tasks.get? other = _ ∧ _
            rw [tasks]
            split
            · exact ⟨.admitted, rfl, rfl⟩
            · next apart =>
                change started.status other = _ at is
                rw [moved, if_neg apart] at is
                exact serving.served is live
          · change (service.withPhase operationId .admitted).tasks.get? other = _ at task
            change started.status other = _ at is
            rw [tasks] at task
            rw [moved] at is
            split at task
            · cases task
            · next apart =>
                rw [if_neg apart] at is
                exact serving.waiting task is

/-- A terminal operation stays as it is, unless it is a startup that is abandoned. -/
def Stable (before after : OperationRegistry contracts) (signals : List Signal) : Prop :=
  ∀ {operationId command state}, before.status operationId = some (command, state) →
    state.terminal = true → after.status operationId = some (command, state) ∨
      state = .unknown ∧ command.operationKind = .runtimeEnsure ∧
        after.status operationId = some (command, .failed) ∧ .abandoned operationId ∈ signals

theorem stable_of_finishes {before after : OperationRegistry contracts}
    (finished : Finishes before after) (signals : List Signal) : Stable before after signals := by
  intro operationId command state was terminal
  rcases finished.status operationId with same | ⟨_, _, _, unfinished, live, _⟩
  · exact .inl (same.trans was)
  · rw [was] at unfinished
    cases unfinished
    rw [terminal] at live
    cases live

theorem Stable.trans {first second third : OperationRegistry contracts}
    {earlier later : List Signal} (left : Stable first second earlier)
    (right : Stable second third later) : Stable first third (earlier ++ later) := by
  intro operationId command state was terminal
  rcases left was terminal with same | ⟨unknown, startup, failed, abandoned⟩
  · rcases right same terminal with same | ⟨unknown, startup, failed, abandoned⟩
    · exact .inl same
    · exact .inr ⟨unknown, startup, failed, List.mem_append_right _ abandoned⟩
  · rcases right failed rfl with same | ⟨wrong, _⟩
    · exact .inr ⟨unknown, startup, same, List.mem_append_left _ abandoned⟩
    · cases wrong

theorem stable_of_same {before after : OperationRegistry contracts}
    (same : after.status = before.status) (signals : List Signal) :
    Stable before after signals := fun was _ => .inl ((congrFun same _).trans was)

theorem enterLane_stable (operationId : Nat) (append : Append) :
    Stable service.registry (service.enterLane operationId append).registry [] := by
  unfold Service.enterLane
  cases found : service.registry.operations.get? operationId with
  | none => exact stable_of_same rfl _
  | some operation =>
      simp only
      split
      · exact stable_of_same rfl _
      · next queued =>
          push Not at queued
          cases starting : service.registry.transitionLocked operationId .running false none
              append with
          | error left => exact stable_of_finishes (transitionLocked_raised starting).finishes _
          | ok started =>
              obtain ⟨_, _, moved⟩ := started_follows found queued starting
              intro other command state was terminal
              refine .inl ((moved other).trans ?_)
              split
              · next same =>
                  rw [same, status_of_get? found] at was
                  cases was
                  rw [queued] at terminal
                  cases terminal
              · exact was

theorem step_stable {action : Action contracts} {next : Service contracts}
    {emitted : List Signal} (orderly : Orderly signals service)
    (step : Step service action next emitted) :
    Stable service.registry next.registry emitted := by
  unfold Step perform at step
  cases action with
  | submit submission =>
      cases step
      intro operationId command state was terminal
      rcases service.registry.submit_cases service.nextId submission with
        ⟨_, same, _⟩ | ⟨_, _, inserted⟩
      · exact .inl ((congrArg (fun registry => OperationRegistry.status registry operationId)
          same).trans was)
      · exact .inl ((inserted.others operationId (Nat.ne_of_lt (orderly.known was))).trans was)
  | enterLane operationId append =>
      simp only at step
      split at step
      · cases step
        exact enterLane_stable operationId append
      · cases step
  | call operationId =>
      simp only at step
      split at step <;> cases step
      exact stable_of_same rfl _
  | answer operationId outcome =>
      simp only at step
      split at step <;> cases step
      exact stable_of_same rfl _
  | offerDiagnostic operationId stored append =>
      simp only at step
      split at step
      · next outcome task =>
          cases step
          unfold Service.offerDiagnostic
          cases outcome.diagnostic with
          | none => exact stable_of_same rfl _
          | some diagnostic =>
              exact stable_of_finishes
                (recordDiagnostic_keeps operationId diagnostic stored append).finishes _
      · cases step
  | settle operationId settlement =>
      simp only at step
      split at step
      · next outcome task =>
          cases step
          exact stable_of_finishes (settle_finishes operationId outcome settlement) _
      · cases step
  | markGenerationAborted runtimeId generation appends =>
      cases step
      exact stable_of_finishes (markGenerationAborted_finishes runtimeId generation appends) _
  | abandonUnknownStartup operationId append =>
      simp only at step
      split at step
      · next changed ran =>
          cases step
          obtain ⟨_, startup, kind, unknown, status⟩ := abandonUnknownStartup_done ran
          intro other command state was terminal
          by_cases same : other = operationId
          · subst same
            rw [unknown] at was
            cases was
            exact .inr ⟨rfl, kind, (status other).trans (if_pos rfl), List.mem_singleton_self _⟩
          · exact .inl (((status other).trans (if_neg same)).trans was)
      · next left ran =>
          cases step
          exact stable_of_finishes (abandonUnknownStartup_raised ran).finishes _
  | setViewFacts operationId facts append =>
      cases step
      exact stable_of_finishes (setViewFacts_keeps operationId facts append).finishes _
  | setExecutionProvenance operationId provenance append =>
      cases step
      exact stable_of_finishes
        (setExecutionProvenance_keeps operationId provenance append).finishes _
  | recordDiagnostic operationId diagnostic stored append =>
      cases step
      exact stable_of_finishes
        (recordDiagnostic_keeps operationId diagnostic stored append).finishes _
  | shutdown =>
      cases step
      exact stable_of_same rfl _
  | wait operationId waiterId =>
      simp only at step
      split at step <;> cases step <;> exact stable_of_same rfl _
  | stopWaiting operationId waiterId =>
      simp only at step
      split at step <;> cases step <;> exact stable_of_same rfl _
  | leave operationId waiterId =>
      cases step
      exact stable_of_same rfl _

end Service

end OnecRuntime.Operations
