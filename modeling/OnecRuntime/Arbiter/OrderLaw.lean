import OnecRuntime.Arbiter.CloseLaw

/-!
# Tickets are served in order

The tickets that were popped, followed by those that wait, form one line. No ticket is twice in
it, and the user tickets stand in it in the order of their admission, whatever is cancelled,
closed or torn down in between.
-/

namespace OnecRuntime.Arbiter

open OnecRuntime.Library

namespace RdbgArbiter

variable {setup : Setup} {sight : Sight} {arbiter next : RdbgArbiter} {emitted signals : List Signal}
  {id : TicketId} {action : Action}

/-! ## The queue under a step -/

/-- The queue loses tickets, or the new ticket waits at its end, or a new cleanup at its front. -/
inductive Queues (arbiter next : RdbgArbiter) : Prop where
  | fewer (less : next.queue.Sublist arbiter.queue)
  | appended (longer : next.queue = arbiter.queue ++ [arbiter.admitted])
      (grown : arbiter.admitted < next.admitted)
  | prepended (longer : next.queue = arbiter.admitted :: arbiter.queue)
      (grown : arbiter.admitted < next.admitted)
      (dependent : (next.tickets arbiter.admitted).dependent = true)

theorem Queues.same (same : next.queue = arbiter.queue) : Queues arbiter next :=
  .fewer (by rw [same])

theorem Queues.empty (empty : next.queue = []) : Queues arbiter next :=
  .fewer (by rw [empty]; exact List.nil_sublist _)

theorem Queues.alike (alike : Alike arbiter next) : Queues arbiter next := by
  obtain ⟨_, _, _, rfl, _⟩ := alike
  exact .same rfl

theorem queueCleanup_queues (parent : TicketId) (plan : Plan) :
    Queues arbiter (arbiter.queueCleanup parent plan) := by
  refine .prepended rfl (Nat.lt_succ_self _) ?_
  by_cases own : arbiter.admitted = parent <;>
    simp [queueCleanup, update, create, ExecutionTicket.dependent, own]

theorem requestStop_queues (id : TicketId) :
    Queues arbiter (arbiter.requestStop setup sight id).1 := by
  unfold requestStop
  split
  · exact .same rfl
  · exact .fewer List.erase_sublist
  · split_ifs
    · exact .same rfl
    · exact .alike (scheduleAutoStop_alike ..)
    · obtain ⟨_, _, _, same, _⟩ := scheduleAutoStop_alike setup sight
        (arbiter.update id fun ticket => { ticket with stopRequested := true }).drain id
      dsimp only
      rw [same]
      exact .empty rfl

theorem closePass_queues (passed : arbiter.closePass = (next, emitted)) : Queues arbiter next := by
  unfold closePass at passed
  split at passed
  · cases passed
    exact .same rfl
  · split at passed
    · split at passed
      · cases passed
        exact .same rfl
      · split at passed <;> cases passed <;> exact .same rfl
    · split at passed
      · cases passed
        exact .same rfl
      · split at passed
        · cases passed
          exact .fewer (List.dropWhile_sublist _)
        · cases passed
          exact .empty rfl

theorem checked_queues {result : RdbgArbiter × Reply} (queues : Queues arbiter result.1)
    (taken : arbiter.answeredFor id result = some (next, emitted)) : Queues arbiter next := by
  cases taken
  split
  · exact queues
  · exact .same rfl

theorem take_queues (taken : arbiter.take setup sight = some (next, emitted)) :
    Queues arbiter next := by
  unfold take at taken
  split at taken
  · cases taken
  · split at taken
    · cases taken
      exact .same rfl
    · split at taken
      · cases taken
        exact .same rfl
      · cases taken
        exact .same rfl
      · split at taken
        · have reentered := Option.some.inj taken
          unfold reenter at reentered
          split at reentered <;> cases reentered <;> exact .same rfl
        · split at taken
          · cases taken
          · next heads =>
              have popped := Option.some.inj taken
              unfold pop at popped
              dsimp only at popped
              split at popped <;> cases popped <;>
                exact .fewer (by rw [heads]; exact List.sublist_cons_self _ _)

/-- Only the queue, the counter and the parents count. -/
theorem Queues.of_same {base middle : RdbgArbiter} (queues : Queues base middle)
    (before : arbiter.queue = base.queue ∧ arbiter.admitted = base.admitted)
    (after : next.queue = middle.queue ∧ next.admitted = middle.admitted)
    (parents : ∀ id, (next.tickets id).dependent = (middle.tickets id).dependent) :
    Queues arbiter next := by
  cases queues with
  | fewer less => exact .fewer (by rwa [before.1, after.1])
  | appended longer grown =>
      exact .appended (by rw [before.1, before.2, after.1, longer]) (by rwa [before.2, after.2])
  | prepended longer grown dependent =>
      refine .prepended (by rw [before.1, before.2, after.1, longer]) (by rwa [before.2, after.2]) ?_
      rw [before.2, parents, dependent]

theorem queueRegistered_queues (arbiter : RdbgArbiter) (parent : TicketId) (plan : Option Plan) :
    Queues arbiter (arbiter.queueRegistered parent plan) := by
  cases plan with
  | none => exact .same rfl
  | some plan => exact queueCleanup_queues parent plan

theorem settle_dependent (value : Option Value) (error : Option Failure) (other : TicketId) :
    ((arbiter.settle id value error).tickets other).dependent =
      (arbiter.tickets other).dependent := by
  by_cases same : other = id <;>
    simp [settle, update, ExecutionTicket.settle, ExecutionTicket.dependent, same]

theorem conclude_queues (reconciling : Bool) (conclusion : Conclusion) :
    Queues arbiter (arbiter.conclude setup sight id reconciling conclusion) := by
  have returned (nextRoute : Option RouteToken) (value : Option Value) (error : Option Failure) :
      Queues arbiter (arbiter.concludeReturned id nextRoute value error) := by
    unfold concludeReturned
    dsimp only
    split
    · exact .same rfl
    · exact (queueRegistered_queues ({ arbiter with
        route := nextRoute.getD arbiter.route }.settle id value error) id _).of_same ⟨rfl, rfl⟩
          ⟨rfl, rfl⟩ fun _ => rfl
  cases conclusion with
  | confirmedFailure error => exact returned _ _ _
  | settlement value nextRoute => exact returned _ _ _
  | raised error =>
      unfold conclude concludeRaised
      dsimp only
      split
      · obtain ⟨_, _, _, same, _⟩ := scheduleAutoStop_alike setup sight
          (arbiter.update id fun ticket =>
            { ticket with
              phase := .unknown
              error := some error }) id
        rw [same]
        exact .same rfl
      · split <;> exact (queueRegistered_queues arbiter id _).of_same ⟨rfl, rfl⟩ ⟨rfl, rfl⟩
          (settle_dependent _ _)

theorem step_queues (taken : arbiter.step setup sight action = some (next, emitted)) :
    Queues arbiter next := by
  cases action with
  | submit route plan finalizer adoption =>
      cases taken
      unfold submit
      split_ifs
      iterate 3 exact .same rfl
      cases adoption with
      | adopted => exact .appended rfl (Nat.lt_succ_self _)
      | raised exception => exact .same rfl
  | tryHeartbeat =>
      cases taken
      unfold tryHeartbeat
      split_ifs
      · exact .same rfl
      · exact .appended rfl (Nat.lt_succ_self _)
  | dispatch id =>
      refine checked_queues ?_ taken
      unfold dispatch
      split_ifs <;> exact .same rfl
  | cancelQueued id =>
      simp only [step] at taken
      split at taken
      · cases taken
        unfold cancelQueued
        split_ifs
        · exact .same rfl
        · exact .fewer List.erase_sublist
      · cases taken
  | retryPostSettlementCleanup id =>
      refine checked_queues ?_ taken
      unfold retryPostSettlementCleanup
      dsimp only
      split
      · split_ifs
        · exact .same rfl
        · exact .same rfl
        · exact queueCleanup_queues _ _
      · exact .same rfl
  | requestStop id => exact checked_queues (requestStop_queues id) taken
  | reconcile id plan =>
      refine checked_queues ?_ taken
      unfold reconcile
      split_ifs <;> exact .same rfl
  | teardownFencedServerTarget id route graceValid =>
      cases taken
      unfold teardownFencedServerTarget
      dsimp only
      repeat' split
      all_goals exact .same rfl
  | teardownFencedFileTarget id route graceValid =>
      cases taken
      unfold teardownFencedFileTarget
      dsimp only
      repeat' split
      all_goals exact .same rfl
  | retireTerminatedTarget id route evidence =>
      refine checked_queues ?_ taken
      unfold retireTerminatedTarget
      split
      · exact .same rfl
      · exact .empty rfl
  | close byWorker =>
      simp only [step, close, Option.some.injEq] at taken
      split at taken
      · cases taken
        exact .same rfl
      · exact closePass_queues taken
  | closeWakes =>
      simp only [step, closeWakes] at taken
      split at taken
      · exact closePass_queues (Option.some.inj taken)
      · cases taken
  | take => exact take_queues taken
  | port action =>
      simp only [step] at taken
      split at taken
      · next live =>
          obtain ⟨_, _, _, rfl, _⟩ := port_ported live taken
          exact .same rfl
      · cases taken
  | conclude =>
      simp only [step] at taken
      split at taken <;> cases taken
      exact conclude_queues _ _
  | tornDown proof =>
      simp only [step] at taken
      split at taken
      · next attempt _ =>
          cases taken
          have freed (worker : Worker) :
              Queues arbiter { arbiter.freeSlot attempt.backend with worker := worker } := by
            cases attempt.backend <;> exact .same rfl
          unfold tornDown
          cases terminate setup attempt proof with
          | none => exact freed _
          | some evidence =>
              dsimp only
              split
              · exact .empty rfl
              · exact freed _
              · exact freed _
      · cases taken
  | planReturned outcome =>
      simp only [step] at taken
      split at taken
      · have returned := Option.some.inj taken
        unfold planReturned at returned
        split at returned
        · cases returned
          exact .same rfl
        · split at returned <;> cases returned <;> exact .same rfl
      · cases taken
  | closeReturns | closeTimesOut | planRaised error | finalizerReturned value
  | finalizerRaised error =>
      simp only [step, closeReturns, closeTimesOut] at taken
      split at taken <;> cases taken
      exact .same rfl

/-! ## The line -/

/-- The tickets that were popped and, behind them, those that wait. -/
def line (signals : List Signal) (arbiter : RdbgArbiter) : List TicketId :=
  signals.filterMap Signal.popped ++ arbiter.queue

def user (arbiter : RdbgArbiter) (id : TicketId) : Bool := !(arbiter.tickets id).dependent

structure Lined (signals : List Signal) (arbiter : RdbgArbiter) : Prop where
  sound : Sound arbiter
  bound : ∀ id ∈ arbiter.line signals, id < arbiter.admitted
  nodup : (arbiter.line signals).Nodup
  sorted : ((arbiter.line signals).filter arbiter.user).Pairwise (· < ·)

theorem filter_user (effect : Effect arbiter next emitted) {ids : List TicketId}
    (bound : ∀ id ∈ ids, id < arbiter.admitted) : ids.filter next.user = ids.filter arbiter.user :=
  List.filter_congr fun id member => by rw [user, user, effect.dependent (bound id member)]

theorem Lined.fewer (lined : Lined signals arbiter) (sound : Sound next)
    (effect : Effect arbiter next emitted)
    (less : (next.line (signals ++ emitted)).Sublist (arbiter.line signals)) :
    Lined (signals ++ emitted) next := by
  have bound id (member : id ∈ next.line (signals ++ emitted)) := lined.bound id (less.subset member)
  refine ⟨sound, fun id member => Nat.lt_of_lt_of_le (bound id member) effect.grown,
    lined.nodup.sublist less, ?_⟩
  rw [filter_user effect bound]
  exact lined.sorted.sublist (less.filter _)

theorem Lined.unpopped (lined : Lined signals arbiter) (sound : Sound next)
    (effect : Effect arbiter next emitted) (queues : Queues arbiter next)
    (quiet : emitted.filterMap Signal.popped = []) : Lined (signals ++ emitted) next := by
  have line_eq : next.line (signals ++ emitted) = signals.filterMap Signal.popped ++ next.queue := by
    rw [line, List.filterMap_append, quiet, List.append_nil]
  have unused : arbiter.admitted ∉ arbiter.line signals := fun member =>
    absurd (lined.bound _ member) (Nat.lt_irrefl _)
  cases queues with
  | fewer less =>
      refine lined.fewer sound effect ?_
      rw [line_eq]
      exact less.append_left _
  | appended longer grown =>
      have line_next : next.line (signals ++ emitted) =
          arbiter.line signals ++ [arbiter.admitted] := by
        rw [line_eq, longer, line, List.append_assoc]
      refine ⟨sound, ?_, ?_, ?_⟩ <;> rw [line_next]
      · intro id member
        rcases List.mem_append.1 member with earlier | now
        · exact Nat.lt_trans (lined.bound id earlier) grown
        · rwa [List.mem_singleton.1 now]
      · exact lined.nodup.append (List.nodup_singleton _) (List.disjoint_singleton.2 unused)
      · rw [List.filter_append, filter_user effect lined.bound]
        refine List.pairwise_append.2 ⟨lined.sorted,
          (List.pairwise_singleton _ _).sublist List.filter_sublist, fun first before last added => ?_⟩
        rw [List.mem_singleton.1 (List.mem_filter.1 added).1]
        exact lined.bound first (List.mem_filter.1 before).1
  | prepended longer grown dependent =>
      rw [longer] at line_eq
      refine ⟨sound, ?_, ?_, ?_⟩ <;> rw [line_eq]
      · intro id member
        rcases List.mem_cons.1 (List.perm_middle.mem_iff.1 member) with rfl | earlier
        · exact grown
        · exact Nat.lt_trans (lined.bound id earlier) grown
      · exact List.perm_middle.nodup_iff.2 (List.nodup_cons.2 ⟨unused, lined.nodup⟩)
      · have same := filter_user effect lined.bound
        rw [line] at same
        rw [List.filter_append, List.filter_cons_of_neg (by simp [user, dependent]),
          ← List.filter_append, same]
        exact lined.sorted

theorem step_lined (lined : Lined signals arbiter)
    (taken : arbiter.step setup sight action = some (next, emitted)) :
    Lined (signals ++ emitted) next := by
  obtain ⟨sound, effect⟩ := step_sound lined.sound taken
  have unpopped := lined.unpopped sound effect (step_queues taken)
  cases step_origin taken with
  | quiet quiet =>
      exact unpopped (List.filterMap_eq_nil_iff.2 fun signal member => quiet.popped member)
  | returned signalled _ =>
      rw [signalled] at unpopped ⊢
      exact unpopped rfl
  | @popped id _ signalled heads _ _ =>
      have pops : emitted.filterMap Signal.popped = [id] := by
        rcases signalled with rfl | rfl <;> rfl
      refine lined.fewer sound effect ?_
      rw [line, line, List.filterMap_append, pops, heads, List.append_assoc]
      exact List.Sublist.refl _

/-- What holds in every run of the tickets so far and of their results from then on. -/
structure OrderLaw (setup : Setup) (signals : List Signal) (last : RdbgArbiter) : Prop where
  /-- No ticket is popped twice, and none that was popped waits again. -/
  once : (last.line signals).Nodup
  /-- User tickets are popped as they were admitted, before those that wait. -/
  ordered : ((last.line signals).filter last.user).Pairwise (· < ·)
  /-- The others are settled. -/
  placed : Placed last.tickets last.admitted last.queue last.active
  final : ∀ {later : List Signal} {final : RdbgArbiter},
    Run (Stepped setup) (fun _ _ => True) last later final → ∀ id < last.admitted,
      (last.tickets id).phase = .settled → (final.tickets id).standing = (last.tickets id).standing

theorem run_settled {later : List Signal} {final : RdbgArbiter} (sound : Sound arbiter)
    (run : Run (Stepped setup) (fun _ _ => True) arbiter later final) (bound : id < arbiter.admitted)
    (settled : (arbiter.tickets id).phase = .settled) :
    (final.tickets id).standing = (arbiter.tickets id).standing := by
  have kept : Sound final ∧ id < final.admitted ∧
      (final.tickets id).standing = (arbiter.tickets id).standing := by
    apply run.keeps ⟨sound, bound, rfl⟩
    rintro _ _ _ _ ⟨sound, bound, standing⟩ - taken
    obtain ⟨after, effect⟩ := step_sound sound taken
    exact ⟨after, Nat.lt_of_lt_of_le bound effect.grown, (settled_stands sound (effect.fate id bound)
      ((congrArg Standing.phase standing).trans settled)).trans standing⟩
  exact kept.2.2

/-- In every run, whatever is cancelled, closed, torn down or raised in it. -/
theorem order_law {route : RouteToken} {last : RdbgArbiter}
    (run : Run (Stepped setup) (fun _ _ => True) (initial route) signals last) :
    OrderLaw setup signals last := by
  have initially : Lined [] (initial route) := ⟨initial_sound route, nofun, List.nodup_nil, .nil⟩
  have lined := run.keeps_trace initially fun lined _ taken => step_lined lined taken
  exact ⟨lined.nodup, lined.sorted, lined.sound.kept,
    fun rest id bound settled => run_settled lined.sound rest bound settled⟩

theorem loaded_order_law : loaded.queue = [1, 2] ∧ ∃ signals, OrderLaw noLease signals loaded := by
  obtain ⟨signals, run⟩ := loaded_run
  exact ⟨rfl, signals, order_law (run.weaken fun _ _ _ => trivial)⟩

end RdbgArbiter

end OnecRuntime.Arbiter
