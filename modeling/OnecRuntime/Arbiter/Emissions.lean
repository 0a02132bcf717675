import OnecRuntime.Arbiter.Soundness

/-!
# Who pops the queue, and when the arbiter is closed

Only the worker pops the queue, while it waits with a free slot. The arbiter is closed
by a `close()` that left its loop or by a confirmed termination, and for good.
-/

namespace OnecRuntime.Arbiter

/-- The ticket that the worker popped. -/
def Signal.popped : Signal → Option TicketId
  | .started ticket => some ticket
  | .stale ticket => some ticket
  | _ => none

/-- Neither a pop nor the return of a `close()`. -/
def Signal.quiet : Signal → Bool
  | .started _ => false
  | .stale _ => false
  | .closeReturned => false
  | _ => true

def Quiet (emitted : List Signal) : Prop := ∀ signal ∈ emitted, signal.quiet = true

theorem Quiet.nil : Quiet [] := fun _ member => nomatch member

theorem Quiet.single {signal : Signal} (quiet : signal.quiet = true) : Quiet [signal] := by
  intro other member
  rw [List.mem_singleton.1 member]
  exact quiet

theorem Quiet.popped {emitted : List Signal} (quiet : Quiet emitted) {signal : Signal}
    (member : signal ∈ emitted) : signal.popped = none := by
  have silent := quiet signal member
  cases signal with
  | started ticket => cases silent
  | stale ticket => cases silent
  | _ => rfl

namespace RdbgArbiter

variable {setup : Setup} {sight : Sight} {arbiter next : RdbgArbiter} {emitted : List Signal}
  {id : TicketId}

variable {calls : List Call}

theorem entering_quiet {call : Call}
    (entered : arbiter.entering sight id calls call = (next, emitted)) : Quiet emitted := by
  unfold entering at entered
  split at entered <;> cases entered <;> exact .single rfl

theorem port_quiet {action : PortAction}
    (taken : arbiter.port sight id calls action = some (next, emitted)) : Quiet emitted := by
  cases action with
  | enter =>
      simp only [port] at taken
      split at taken
      · cases taken
      · cases taken
      · split at taken
        · cases taken
          exact .nil
        · exact entering_quiet (Option.some.inj taken)
  | call request =>
      simp only [port] at taken
      split at taken
      · split at taken <;> cases taken <;> exact .nil
      · cases taken
  | callbackReturned =>
      simp only [port] at taken
      split at taken <;> cases taken
      exact .nil
  | callbackRaised =>
      simp only [port] at taken
      split at taken <;> cases taken
      exact .nil
  | answered answer =>
      simp only [port] at taken
      split at taken <;> cases taken
      exact .nil
  | handoffRoute nextRoute =>
      simp only [port] at taken
      split at taken <;> cases taken
      exact .nil
  | registerPostSettlementCleanup plan =>
      simp only [port] at taken
      split at taken <;> cases taken
      exact .nil

theorem planReturned_quiet {reconciling : Bool} {outcome : Outcome}
    (returned : arbiter.planReturned id reconciling outcome = (next, emitted)) :
    Quiet emitted := by
  unfold planReturned at returned
  split at returned
  · cases returned
    exact .nil
  · split at returned <;> cases returned
    · exact .single rfl
    · exact .nil
    · exact .nil
    · exact .nil

theorem closePass_quiet (passed : arbiter.closePass = (next, emitted)) : Quiet emitted := by
  unfold closePass at passed
  split at passed
  · cases passed
    exact .nil
  · split at passed
    · split at passed
      · cases passed
        exact .single rfl
      · split at passed
        · cases passed
          exact .single rfl
        · cases passed
          exact .nil
    · split at passed
      · cases passed
        exact .single rfl
      · split at passed <;> cases passed <;> exact .nil

theorem answered_quiet {ticket : Option TicketId} {result : RdbgArbiter × Reply}
    (taken : answered ticket result = some (next, emitted)) : Quiet emitted := by
  cases taken
  exact .single rfl

/-- The taking section pops nothing, or the head of the queue into a free slot. -/
theorem take_popped (taken : arbiter.take setup sight = some (next, emitted)) :
    Quiet emitted ∨ ∃ id, (emitted = [.started id] ∨ emitted = [.stale id]) ∧
      arbiter.queue = id :: next.queue ∧ arbiter.active = none ∧ arbiter.headReady = true := by
  unfold take at taken
  split at taken
  · cases taken
  · next ready =>
      simp only [Bool.or_eq_true, decide_eq_true_eq, not_or, not_not, Bool.not_eq_true',
        Bool.not_eq_false] at ready
      obtain ⟨_, awake⟩ := ready
      split at taken
      · cases taken
        exact .inl .nil
      · next opened =>
          simp only [Bool.not_eq_true] at opened
          have torn : ∀ attempt, Quiet (arbiter.tear setup sight attempt).2 := by
            intro attempt
            unfold tear
            dsimp only
            split
            · exact .single rfl
            · exact .nil
          split at taken
          · cases taken
            exact .inl (torn _)
          · cases taken
            exact .inl (torn _)
          · next server file =>
              split at taken
              · refine .inl ?_
                have reentered := Option.some.inj taken
                unfold reenter at reentered
                split at reentered <;> cases reentered
                · exact .nil
                · exact .single rfl
              · next unscheduled =>
                  simp only [Option.not_isSome_iff_eq_none] at unscheduled
                  simp only [wakes, opened, server, file, unscheduled, Bool.false_or,
                    Option.isSome_none, Bool.and_eq_true, Option.isNone_iff_eq_none] at awake
                  split at taken
                  · cases taken
                  · next id rest heads =>
                      refine .inr ⟨id, ?_⟩
                      unfold pop at taken
                      dsimp only at taken
                      split at taken <;> cases taken
                      · exact ⟨.inr rfl, heads, awake⟩
                      · exact ⟨.inl rfl, heads, awake⟩

/-- Where each signal that is not quiet comes from. -/
inductive Origin (arbiter next : RdbgArbiter) (emitted : List Signal) (action : Action) : Prop where
  | quiet (quiet : Quiet emitted)
  | popped {id : TicketId} (taken : action = .take)
      (signalled : emitted = [.started id] ∨ emitted = [.stale id])
      (heads : arbiter.queue = id :: next.queue) (free : arbiter.active = none)
      (ready : arbiter.headReady = true)
  | returned (signalled : emitted = [.closeReturned]) (joins : arbiter.joiners ≠ 0)

/-- Only the worker's taking section pops the queue. -/
theorem step_origin {action : Action}
    (taken : arbiter.step setup sight action = some (next, emitted)) :
    Origin arbiter next emitted action := by
  cases action with
  | take =>
      rcases take_popped taken with quiet | ⟨id, signalled, heads, free, ready⟩
      · exact .quiet quiet
      · exact .popped rfl signalled heads free ready
  | closeReturns =>
      simp only [step, closeReturns] at taken
      split at taken
      · cases taken
      · next joining =>
          cases taken
          refine .returned rfl ?_
          intro none
          simp [none] at joining
  | cancelQueued id =>
      refine .quiet ?_
      simp only [step] at taken
      split at taken
      · exact answered_quiet taken
      · cases taken
  | close byWorker =>
      refine .quiet ?_
      simp only [step, close, Option.some.injEq] at taken
      split at taken
      · cases taken
        exact .single rfl
      · exact closePass_quiet taken
  | closeWakes =>
      refine .quiet ?_
      simp only [step, closeWakes] at taken
      split at taken
      · exact closePass_quiet (Option.some.inj taken)
      · cases taken
  | closeTimesOut =>
      refine .quiet ?_
      simp only [step, closeTimesOut] at taken
      split at taken <;> cases taken
      exact .single rfl
  | port action =>
      refine .quiet ?_
      simp only [step] at taken
      split at taken
      · exact port_quiet taken
      · cases taken
  | planReturned outcome =>
      refine .quiet ?_
      simp only [step] at taken
      split at taken
      · exact planReturned_quiet (Option.some.inj taken)
      · cases taken
  | planRaised error =>
      refine .quiet ?_
      simp only [step] at taken
      split at taken <;> cases taken
      exact .nil
  | finalizerReturned value =>
      refine .quiet ?_
      simp only [step] at taken
      split at taken <;> cases taken
      exact .nil
  | finalizerRaised error =>
      refine .quiet ?_
      simp only [step] at taken
      split at taken <;> cases taken
      exact .nil
  | conclude =>
      refine .quiet ?_
      simp only [step] at taken
      split at taken <;> cases taken
      exact .nil
  | tornDown proof =>
      refine .quiet ?_
      simp only [step] at taken
      split at taken <;> cases taken
      exact .nil
  | _ => exact .quiet (answered_quiet taken)

/-! ## The closed arbiter -/

/-- The outcome of an action that confirms a termination, judged before it is taken. -/
def confirms (setup : Setup) (sight : Sight) (arbiter : RdbgArbiter) : Action → Bool
  | .retireTerminatedTarget id route evidence =>
      match arbiter.checkTermination setup sight id route evidence with
      | .ok _ => id < arbiter.admitted
      | .error _ => false
  | .tornDown proof =>
      match arbiter.worker with
      | .tearing attempt =>
          let freed := { arbiter.freeSlot attempt.backend with worker := .waiting }
          match terminate setup attempt proof with
          | some evidence =>
              match freed.checkTermination setup sight attempt.ticket freed.route evidence with
              | .ok _ => true
              | .error _ => false
          | none => false
      | _ => false
  | _ => false

/-- How a step can change `_closed`, the debt and the joining calls. -/
inductive Closure (arbiter next : RdbgArbiter) (confirmed : Bool) : Prop where
  | kept (closed : next.closed = arbiter.closed) (debt : next.cleanupDebt = arbiter.cleanupDebt)
      (joiners : next.joiners ≤ arbiter.joiners)
  /-- A conclusion may enter or clear the debt. -/
  | concluded (held : arbiter.active ≠ none) (closed : next.closed = arbiter.closed)
      (joiners : next.joiners = arbiter.joiners)
  | left (closed : next.closed = true) (debt : next.cleanupDebt = arbiter.cleanupDebt)
      (settled : arbiter.closed = true ∨ arbiter.cleanupDebt = none)
  | retired (confirmation : confirmed = true) (closed : next.closed = true)
      (debt : next.cleanupDebt = arbiter.cleanupDebt) (joiners : next.joiners = arbiter.joiners)

theorem alike_closure (alike : Alike arbiter next) (confirmed : Bool) :
    Closure arbiter next confirmed := by
  obtain ⟨_, _, _, rfl, _⟩ := alike
  exact .kept rfl rfl (Nat.le_refl _)

theorem answeredFor_closure {result : RdbgArbiter × Reply}
    (made : Closure arbiter result.1 false)
    (taken : arbiter.answeredFor id result = some (next, emitted)) :
    Closure arbiter next false := by
  unfold answeredFor answered at taken
  cases taken
  split
  · exact made
  · exact .kept rfl rfl (Nat.le_refl _)

theorem retry_closure (arbiter : RdbgArbiter) (id : TicketId) :
    Closure arbiter (arbiter.retryPostSettlementCleanup id).1 false := by
  unfold retryPostSettlementCleanup
  dsimp only
  split
  · split
    · exact .kept rfl rfl (Nat.le_refl _)
    · split <;> exact .kept rfl rfl (Nat.le_refl _)
  · exact .kept rfl rfl (Nat.le_refl _)

theorem drain_joiners (arbiter : RdbgArbiter) : arbiter.drain.joiners = arbiter.joiners :=
  cancelAll_joiners _ _

theorem requestStop_closure (arbiter : RdbgArbiter) (id : TicketId) :
    Closure arbiter (arbiter.requestStop setup sight id).1 false := by
  unfold requestStop
  split
  · exact .kept rfl rfl (Nat.le_refl _)
  · exact .kept rfl rfl (Nat.le_refl _)
  · split
    · exact .kept rfl rfl (Nat.le_refl _)
    · split
      · exact alike_closure (scheduleAutoStop_alike setup sight arbiter id) _
      · obtain ⟨_, _, _, same, _⟩ := scheduleAutoStop_alike setup sight
          (arbiter.update id fun ticket => { ticket with stopRequested := true }).drain id
        dsimp only
        rw [same]
        exact .kept (by simp [drain, update]) (by simp [drain, update])
          (Nat.le_of_eq (drain_joiners _))

theorem teardownFencedServerTarget_closure (arbiter : RdbgArbiter) (id : TicketId)
    (route : RouteToken) (graceValid : Bool) :
    Closure arbiter (arbiter.teardownFencedServerTarget sight id route graceValid).1 false := by
  unfold teardownFencedServerTarget
  dsimp only
  repeat' split
  all_goals dsimp only
  all_goals exact .kept rfl rfl (Nat.le_refl _)

theorem teardownFencedFileTarget_closure (arbiter : RdbgArbiter) (id : TicketId)
    (route : RouteToken) (graceValid : Bool) :
    Closure arbiter (arbiter.teardownFencedFileTarget setup sight id route graceValid).1
      false := by
  unfold teardownFencedFileTarget
  dsimp only
  repeat' split
  all_goals dsimp only
  all_goals exact .kept rfl rfl (Nat.le_refl _)

theorem retire_fields (arbiter : RdbgArbiter) (id : TicketId) (evidence : TerminationEvidence) :
    (arbiter.retire id evidence).closed = true ∧
      (arbiter.retire id evidence).cleanupDebt = arbiter.cleanupDebt ∧
      (arbiter.retire id evidence).joiners = arbiter.joiners := by
  refine ⟨?_, ?_, ?_⟩
  · simp [retire, drain, settle, update]
  · simp [retire, drain, settle, update]
  · exact drain_joiners _

theorem port_closure (live : arbiter.worker.port = some (id, calls))
    {action : PortAction} (taken : arbiter.port sight id calls action = some (next, emitted)) :
    Closure arbiter next false := by
  obtain ⟨_, _, _, rfl, _⟩ := port_ported live taken
  exact .kept rfl rfl (Nat.le_refl _)

theorem take_closure (taken : arbiter.take setup sight = some (next, emitted)) :
    Closure arbiter next false := by
  unfold take at taken
  split at taken
  · cases taken
  · split at taken
    · cases taken
      exact .kept rfl rfl (Nat.le_refl _)
    · split at taken
      · cases taken
        exact .kept rfl rfl (Nat.le_refl _)
      · cases taken
        exact .kept rfl rfl (Nat.le_refl _)
      · split at taken
        · have reentered := Option.some.inj taken
          unfold reenter at reentered
          split at reentered <;> cases reentered <;> exact .kept rfl rfl (Nat.le_refl _)
        · split at taken
          · cases taken
          · have popped := Option.some.inj taken
            unfold pop at popped
            dsimp only at popped
            split at popped <;> cases popped <;> exact .kept rfl rfl (Nat.le_refl _)

theorem planReturned_closure {reconciling : Bool} {outcome : Outcome}
    (returned : arbiter.planReturned id reconciling outcome = (next, emitted)) :
    Closure arbiter next false := by
  unfold planReturned at returned
  split at returned
  · cases returned
    exact .kept rfl rfl (Nat.le_refl _)
  · split at returned <;> cases returned <;> exact .kept rfl rfl (Nat.le_refl _)

theorem queueRegistered_fields (arbiter : RdbgArbiter) (id : TicketId) (plan : Option Plan) :
    (arbiter.queueRegistered id plan).closed = arbiter.closed ∧
      (arbiter.queueRegistered id plan).joiners = arbiter.joiners := by
  cases plan <;> exact ⟨rfl, rfl⟩

theorem conclude_closure (held : arbiter.active ≠ none) (id : TicketId) (reconciling : Bool)
    (conclusion : Conclusion) :
    Closure arbiter (arbiter.conclude setup sight id reconciling conclusion) false := by
  have returned : ∀ nextRoute value error,
      Closure arbiter (arbiter.concludeReturned id nextRoute value error) false := by
    intro nextRoute value error
    unfold concludeReturned
    dsimp only
    split
    · exact .kept rfl rfl (Nat.le_refl _)
    · exact .concluded held (queueRegistered_fields _ _ _).1 (queueRegistered_fields _ _ _).2
  cases conclusion with
  | confirmedFailure error => exact returned _ _ _
  | settlement value nextRoute => exact returned _ _ _
  | raised error =>
      unfold conclude concludeRaised
      dsimp only
      split
      · rw [scheduleAutoStop_worker]
        obtain ⟨_, _, _, same, _⟩ := scheduleAutoStop_alike setup sight
          { arbiter.update id fun ticket =>
            { ticket with
              phase := .unknown
              error := some error } with worker := .waiting } id
        rw [same]
        exact .kept rfl rfl (Nat.le_refl _)
      · split <;>
        exact .concluded held (queueRegistered_fields _ _ _).1 (queueRegistered_fields _ _ _).2

theorem tornDown_closure {attempt : TeardownAttempt} {proof : Proof}
    (tears : arbiter.worker = .tearing attempt) :
    Closure arbiter (arbiter.tornDown setup sight attempt (terminate setup attempt proof))
      (arbiter.confirms setup sight (.tornDown proof)) := by
  have freed : ∀ worker confirmed,
      Closure arbiter { arbiter.freeSlot attempt.backend with worker := worker } confirmed := by
    intro worker confirmed
    cases attempt.backend <;> exact .kept rfl rfl (Nat.le_refl _)
  unfold tornDown confirms
  rw [tears]
  dsimp only
  cases terminate setup attempt proof with
  | none => exact freed _ _
  | some evidence =>
      dsimp only
      split
      · next passed =>
          rw [passed]
          obtain ⟨closed, debt, joiners⟩ := retire_fields
            { arbiter.freeSlot attempt.backend with worker := .waiting } attempt.ticket evidence
          refine .retired rfl closed (debt.trans ?_) (joiners.trans ?_)
          · cases attempt.backend <;> rfl
          · cases attempt.backend <;> rfl
      · exact freed _ _
      · exact freed _ _

theorem closePass_closure (passed : arbiter.closePass = (next, emitted)) :
    Closure arbiter next false := by
  unfold closePass at passed
  split at passed
  · next shut =>
      cases passed
      exact .left shut rfl (.inl shut)
  · split at passed
    · split at passed
      · cases passed
        exact .kept rfl rfl (Nat.le_refl _)
      · split at passed <;> cases passed <;> exact .kept rfl rfl (Nat.le_refl _)
    · split at passed
      · cases passed
        exact .kept rfl rfl (Nat.le_refl _)
      · next unowed =>
          simp only [Option.not_isSome_iff_eq_none] at unowed
          split at passed
          · cases passed
            exact .kept (cancelAll_closed _ _) (cancelAll_cleanupDebt _ _)
              (Nat.le_of_eq (cancelAll_joiners _ _))
          · cases passed
            exact .left (cancelAll_closed _ _) (cancelAll_cleanupDebt _ _) (.inr unowed)

/-- What one step does to the closed state. -/
theorem step_closure (sound : Sound arbiter) {action : Action}
    (taken : arbiter.step setup sight action = some (next, emitted)) :
    Closure arbiter next (arbiter.confirms setup sight action) := by
  cases action with
  | submit route plan finalizer adoption =>
      cases taken
      unfold submit
      split
      · exact .kept rfl rfl (Nat.le_refl _)
      · split
        · exact .kept rfl rfl (Nat.le_refl _)
        · split
          · exact .kept rfl rfl (Nat.le_refl _)
          · cases adoption <;> exact .kept rfl rfl (Nat.le_refl _)
  | tryHeartbeat =>
      cases taken
      unfold tryHeartbeat
      split <;> exact .kept rfl rfl (Nat.le_refl _)
  | dispatch id =>
      refine answeredFor_closure ?_ taken
      unfold dispatch
      split <;> exact .kept rfl rfl (Nat.le_refl _)
  | cancelQueued id =>
      simp only [step] at taken
      split at taken
      · cases taken
        unfold cancelQueued
        split <;> exact .kept rfl rfl (Nat.le_refl _)
      · cases taken
  | retryPostSettlementCleanup id => exact answeredFor_closure (retry_closure _ _) taken
  | requestStop id => exact answeredFor_closure (requestStop_closure _ _) taken
  | reconcile id plan =>
      refine answeredFor_closure ?_ taken
      unfold reconcile
      split <;> exact .kept rfl rfl (Nat.le_refl _)
  | teardownFencedServerTarget id route graceValid =>
      cases taken
      exact teardownFencedServerTarget_closure _ _ _ _
  | teardownFencedFileTarget id route graceValid =>
      cases taken
      exact teardownFencedFileTarget_closure _ _ _ _
  | retireTerminatedTarget id route evidence =>
      simp only [step, answeredFor, answered, Option.some.injEq, Prod.mk.injEq] at taken
      obtain ⟨rfl, -⟩ := taken
      unfold confirms
      split
      · next bound =>
          unfold retireTerminatedTarget
          split
          · exact .kept rfl rfl (Nat.le_refl _)
          · next passed =>
              obtain ⟨closed, debt, joiners⟩ := retire_fields arbiter id evidence
              exact .retired (by simp [passed, bound]) closed debt joiners
      · exact .kept rfl rfl (Nat.le_refl _)
  | close byWorker =>
      simp only [step, close, Option.some.injEq] at taken
      split at taken
      · cases taken
        exact .kept rfl rfl (Nat.le_refl _)
      · exact closePass_closure taken
  | closeWakes =>
      simp only [step, closeWakes] at taken
      split at taken
      · exact closePass_closure (Option.some.inj taken)
      · cases taken
  | closeReturns =>
      simp only [step, closeReturns] at taken
      split at taken <;> cases taken
      exact .kept rfl rfl (Nat.sub_le _ _)
  | closeTimesOut =>
      simp only [step, closeTimesOut] at taken
      split at taken <;> cases taken
      exact .kept rfl rfl (Nat.sub_le _ _)
  | take => exact take_closure taken
  | port action =>
      simp only [step] at taken
      split at taken
      · next live => exact port_closure live taken
      · cases taken
  | planReturned outcome =>
      simp only [step] at taken
      split at taken
      · exact planReturned_closure (Option.some.inj taken)
      · cases taken
  | planRaised error =>
      simp only [step] at taken
      split at taken <;> cases taken
      exact .kept rfl rfl (Nat.le_refl _)
  | finalizerReturned value =>
      simp only [step] at taken
      split at taken <;> cases taken
      exact .kept rfl rfl (Nat.le_refl _)
  | finalizerRaised error =>
      simp only [step] at taken
      split at taken <;> cases taken
      exact .kept rfl rfl (Nat.le_refl _)
  | conclude =>
      simp only [step] at taken
      split at taken
      · next id reconciling conclusion concluding =>
          cases taken
          have held := (sound.staffed.holder (show arbiter.worker.holder = some id by
            rw [concluding]
            rfl)).1
          refine conclude_closure ?_ id reconciling conclusion
          rw [held]
          exact Option.some_ne_none id
      · cases taken
  | tornDown proof =>
      simp only [step] at taken
      split at taken
      · next tears =>
          cases taken
          exact tornDown_closure tears
      · cases taken

end RdbgArbiter

end OnecRuntime.Arbiter
