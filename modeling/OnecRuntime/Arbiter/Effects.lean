import OnecRuntime.Arbiter.Fates

/-!
# Effects of the sections

One lemma for each section: the edges that the tickets go and the placement that is left.
-/

namespace OnecRuntime.Arbiter

namespace RdbgArbiter

variable {setup : Setup} {sight : Sight} {arbiter next : RdbgArbiter} {emitted : List Signal}
  {id : TicketId}

/-- `Placed` of an arbiter. -/
def Kept (arbiter : RdbgArbiter) : Prop :=
  Placed arbiter.tickets arbiter.admitted arbiter.queue arbiter.active

theorem kept_effect (kept : Kept arbiter) (emitted : List Signal) :
    Effect arbiter arbiter emitted :=
  ⟨kept, Nat.le_refl _, fun _ _ => .kept rfl⟩

theorem alike_effect (kept : Kept arbiter) (alike : Alike arbiter next)
    (emitted : List Signal) : Effect arbiter next emitted := by
  refine ⟨alike.placed kept, ?_, fun id _ => .kept (alike.standing id)⟩
  obtain ⟨_, _, _, rfl, _⟩ := alike
  exact Nat.le_refl _

/-- A change of one ticket is an effect when that ticket goes an edge. -/
theorem update_effect {ticket : ExecutionTicket}
    (changed : next.tickets = Function.update arbiter.tickets id ticket)
    (placed : Kept next) (grown : arbiter.admitted ≤ next.admitted)
    (edge : Fate arbiter next emitted id) : Effect arbiter next emitted := by
  refine ⟨placed, grown, fun other _ => ?_⟩
  by_cases same : other = id
  · subst same
    exact edge
  · refine .kept ?_
    rw [changed, Function.update_of_ne same]

/-- A new ticket is no edge of an older one. -/
theorem create_effect {ticket : ExecutionTicket}
    (changed : next.tickets = Function.update arbiter.tickets arbiter.admitted ticket)
    (placed : Kept next) (grown : arbiter.admitted ≤ next.admitted) (emitted : List Signal) :
    Effect arbiter next emitted := by
  refine ⟨placed, grown, fun id bound => .kept ?_⟩
  rw [changed, Function.update_of_ne (Nat.ne_of_lt bound)]

/-! ## Client calls -/

theorem append_fresh {tickets : TicketId → ExecutionTicket} {admitted : Nat}
    {queue : List TicketId} {active : Option TicketId}
    (placed : Placed tickets admitted queue active) :
    (queue ++ [admitted]).Nodup := by
  rw [← List.concat_eq_append, List.nodup_concat]
  exact ⟨placed.fresh, placed.nodup⟩

theorem submit_effect (kept : Kept arbiter) (route : RouteToken) (plan : Plan) (finalizer : Bool)
    (adoption : Adoption) :
    Effect arbiter (arbiter.submit route plan finalizer adoption).1 emitted := by
  unfold submit
  split
  · exact kept_effect kept _
  · split
    · exact kept_effect kept _
    · split
      · exact kept_effect kept _
      · cases adoption with
        | adopted =>
            refine create_effect rfl ?_ (Nat.le_succ _) _
            refine kept.enqueue rfl rfl (fun id => ?_) (append_fresh kept)
            show id ∈ arbiter.queue ++ [arbiter.admitted] ↔ _
            simp [or_comm]
        | raised exception =>
            have changed : ((arbiter.create (.new route plan finalizer)).settle arbiter.admitted
                none (some .cancelledBeforeEffect)).tickets =
              Function.update arbiter.tickets arbiter.admitted
                ((ExecutionTicket.new route plan finalizer).settle none
                  (some .cancelledBeforeEffect)) := by
              simp [create]
            refine create_effect changed ?_ (Nat.le_succ _) _
            show Placed _ (arbiter.admitted + 1) arbiter.queue arbiter.active
            rw [changed]
            exact kept.refuse rfl

theorem tryHeartbeat_effect (kept : Kept arbiter) :
    Effect arbiter arbiter.tryHeartbeat.1 emitted := by
  unfold tryHeartbeat
  split
  · exact kept_effect kept _
  · refine create_effect rfl ?_ (Nat.le_succ _) _
    refine kept.enqueue rfl rfl (fun id => ?_) (append_fresh kept)
    show id ∈ arbiter.queue ++ [arbiter.admitted] ↔ _
    simp [or_comm]

theorem dispatch_effect (kept : Kept arbiter) (id : TicketId) :
    Effect arbiter (arbiter.dispatch id).1 emitted := by
  unfold dispatch
  split
  · exact kept_effect kept _
  · exact alike_effect kept (update_alike arbiter id (fun ticket => { ticket with ready := true })
      rfl rfl) _

/-- A queued ticket is cancelled. -/
theorem cancel_effect (kept : Kept arbiter) (bound : id < arbiter.admitted)
    (waits : (arbiter.tickets id).phase = .queued) :
    Effect arbiter (arbiter.cancel id) emitted := by
  have member : id ∈ arbiter.queue := (kept.queued id).2 ⟨bound, waits⟩
  have owes := kept.clean id bound waits
  refine update_effect rfl ?_ (Nat.le_refl _) (.cancelled member ?_)
  · exact kept.leave member (ExecutionTicket.settle_phase owes _ _)
  · show ExecutionTicket.standing (Function.update arbiter.tickets id _ id) = _
    rw [Function.update_self]
    exact settle_standing owes _ _

theorem cancelQueued_effect (kept : Kept arbiter) (bound : id < arbiter.admitted) :
    Effect arbiter (arbiter.cancelQueued id).1 emitted := by
  unfold cancelQueued
  split
  · exact kept_effect kept _
  · next waits => exact cancel_effect kept bound (not_not.1 waits)

theorem queueCleanup_placed {slot : Option TicketId} {parent : TicketId} (plan : Plan)
    (placed : Placed arbiter.tickets arbiter.admitted arbiter.queue slot) :
    Placed (arbiter.queueCleanup parent plan).tickets (arbiter.admitted + 1)
      (arbiter.admitted :: arbiter.queue) slot := by
  have created : Placed (Function.update arbiter.tickets arbiter.admitted
      { ExecutionTicket.new arbiter.route plan false with
        ready := true
        postSettlementParent := some parent }) (arbiter.admitted + 1)
      (arbiter.admitted :: arbiter.queue) slot :=
    placed.enqueue rfl rfl (fun id => List.mem_cons)
      (List.nodup_cons.2 ⟨placed.fresh, placed.nodup⟩)
  exact created.restate (standing_update rfl rfl)

/-- The tickets before the new cleanup stand as they did. -/
theorem queueCleanup_standing {parent : TicketId} (plan : Plan) (bound : id < arbiter.admitted) :
    ((arbiter.queueCleanup parent plan).tickets id).standing = (arbiter.tickets id).standing ∧
      ((arbiter.queueCleanup parent plan).tickets id).owesCapability =
        (arbiter.tickets id).owesCapability := by
  have older := Nat.ne_of_lt bound
  simp only [queueCleanup, update, create]
  by_cases same : id = parent
  · subst same
    rw [Function.update_self, Function.update_of_ne older]
    exact ⟨rfl, rfl⟩
  · rw [Function.update_of_ne same, Function.update_of_ne older]
    exact ⟨rfl, rfl⟩

theorem queueCleanup_effect (kept : Kept arbiter) (parent : TicketId) (plan : Plan) :
    Effect arbiter (arbiter.queueCleanup parent plan) emitted :=
  ⟨queueCleanup_placed plan kept, Nat.le_succ _,
    fun _ bound => .kept (queueCleanup_standing plan bound).1⟩

theorem retry_effect (kept : Kept arbiter) (id : TicketId) :
    Effect arbiter (arbiter.retryPostSettlementCleanup id).1 emitted := by
  unfold retryPostSettlementCleanup
  dsimp only
  split
  · split
    · exact kept_effect kept _
    · split
      · exact kept_effect kept _
      · exact queueCleanup_effect kept id _
  · exact kept_effect kept _

/-- Queued tickets are cancelled, and nothing else happens to any ticket. -/
structure Clears (arbiter next : RdbgArbiter) : Prop where
  placed : Kept next
  grown : arbiter.admitted ≤ next.admitted
  edge : ∀ id, (id ∈ arbiter.queue ∧ (next.tickets id).standing = ⟨.settled, none,
      some .cancelledBeforeEffect, (arbiter.tickets id).postSettlementParent⟩) ∨
    (next.tickets id).standing = (arbiter.tickets id).standing

namespace Clears

variable {middle : RdbgArbiter}

theorem effect (clears : Clears arbiter next) (emitted : List Signal) :
    Effect arbiter next emitted := by
  refine ⟨clears.placed, clears.grown, fun id _ => ?_⟩
  rcases clears.edge id with ⟨member, settled⟩ | same
  · exact .cancelled member settled
  · exact .kept same

theorem after (alike : Alike arbiter middle) (clears : Clears middle next) :
    Clears arbiter next := by
  have standing := alike.standing
  obtain ⟨_, _, _, rfl, _⟩ := alike
  refine ⟨clears.placed, clears.grown, fun id => ?_⟩
  rcases clears.edge id with ⟨member, settled⟩ | same
  · refine .inl ⟨member, settled.trans ?_⟩
    exact congrArg (Standing.mk _ _ _) (congrArg Standing.parent (standing id))
  · exact .inr (same.trans (standing id))

theorem before (clears : Clears arbiter middle) (alike : Alike middle next) :
    Clears arbiter next := by
  have standing := alike.standing
  have placed := alike.placed clears.placed
  obtain ⟨_, _, _, rfl, _⟩ := alike
  refine ⟨placed, clears.grown, fun id => ?_⟩
  rcases clears.edge id with ⟨member, settled⟩ | same
  · exact .inl ⟨member, (standing id).trans settled⟩
  · exact .inr ((standing id).trans same)

end Clears

/-- The first tickets of the queue are cancelled. -/
theorem cancelAll_clears {ids rest : List TicketId} (kept : Kept arbiter)
    (split : arbiter.queue = ids ++ rest) :
    Clears arbiter { arbiter.cancelAll ids with queue := rest } := by
  have fields := cancelAll_eq arbiter ids
  have nodup := kept.nodup
  have placed := kept
  unfold Kept at placed
  rw [split] at nodup placed
  refine ⟨?_, ?_, fun id => ?_⟩
  · have after := cancelAll_placed placed
    unfold Kept
    rw [fields]
    exact after
  · refine Nat.le_of_eq ?_
    rw [fields]
  · have within : ids ⊆ arbiter.queue := by
      rw [split]
      exact List.subset_append_left _ _
    rcases cancelAll_standing (List.nodup_append.1 nodup).1 kept within id with
      ⟨member, settled⟩ | ⟨_, same⟩
    · exact .inl ⟨within member, settled⟩
    · exact .inr (congrArg ExecutionTicket.standing same)

theorem drain_clears (kept : Kept arbiter) : Clears arbiter arbiter.drain :=
  cancelAll_clears kept (List.append_nil _).symm

theorem requestStop_effect (kept : Kept arbiter) (bound : id < arbiter.admitted) :
    Effect arbiter (arbiter.requestStop setup sight id).1 emitted := by
  unfold requestStop
  split
  · exact kept_effect kept _
  · next waits => exact cancel_effect kept bound waits
  · split
    · exact kept_effect kept _
    · split
      · exact alike_effect kept (scheduleAutoStop_alike setup sight arbiter id) _
      · have marked := update_alike arbiter id
          (fun ticket => { ticket with stopRequested := true }) rfl rfl
        exact (((drain_clears (marked.placed kept)).before
          (scheduleAutoStop_alike setup sight _ id)).after marked).effect _

theorem unknownOwner_iff : arbiter.unknownOwner id = true ↔
    arbiter.active = some id ∧ (arbiter.tickets id).phase = .unknown ∧
      arbiter.reconciliation = none ∧ arbiter.serverTeardown = none ∧
      arbiter.fileTeardown = none := by
  simp [unknownOwner, and_assoc]

theorem reconcile_effect (kept : Kept arbiter) (id : TicketId) (plan : Plan) :
    Effect arbiter (arbiter.reconcile id plan).1 emitted := by
  unfold reconcile
  split
  · exact kept_effect kept _
  · next owner =>
      simp only [Bool.not_eq_true', Bool.not_eq_false] at owner
      have held := (unknownOwner_iff.1 owner).1
      refine update_effect rfl ?_ (Nat.le_refl _) (.scheduled owner ?_)
      · unfold Kept at kept ⊢
        show Placed _ _ _ arbiter.active
        rw [held] at kept ⊢
        exact kept.move rfl
      · show ExecutionTicket.standing (Function.update arbiter.tickets id _ id) = _
        rw [Function.update_self]
        rfl

theorem teardownFencedServerTarget_effect (kept : Kept arbiter) (id : TicketId)
    (route : RouteToken) (graceValid : Bool) :
    Effect arbiter (arbiter.teardownFencedServerTarget sight id route graceValid).1 emitted := by
  unfold teardownFencedServerTarget
  dsimp only
  repeat' split
  all_goals dsimp only
  all_goals first
    | exact kept_effect kept _
    | exact alike_effect kept (schedule_alike _ _) _

theorem teardownFencedFileTarget_effect (kept : Kept arbiter) (id : TicketId)
    (route : RouteToken) (graceValid : Bool) :
    Effect arbiter (arbiter.teardownFencedFileTarget setup sight id route graceValid).1
      emitted := by
  unfold teardownFencedFileTarget
  dsimp only
  repeat' split
  all_goals dsimp only
  all_goals first
    | exact kept_effect kept _
    | exact alike_effect kept (schedule_alike _ _) _

theorem checkTermination_owner {route : RouteToken} {evidence : TerminationEvidence}
    (passed : arbiter.checkTermination setup sight id route evidence = .ok ()) :
    arbiter.unknownOwner id = true := by
  unfold checkTermination at passed
  split at passed
  · cases passed
  · next owner => simpa using owner

/-- The arbiter with an empty queue, in which the terminated ticket is settled. -/
def emptied (arbiter : RdbgArbiter) (evidence : TerminationEvidence) : RdbgArbiter :=
  { arbiter with
    targetTermination := some evidence
    closed := true }.drain

theorem retire_tickets (arbiter : RdbgArbiter) (id : TicketId) (evidence : TerminationEvidence) :
    (arbiter.retire id evidence).tickets = Function.update (arbiter.emptied evidence).tickets id
      (((arbiter.emptied evidence).tickets id).dropCapabilities.settle none
        (some (.targetTerminated evidence))) := by
  show Function.update (Function.update (arbiter.emptied evidence).tickets id _) id _ = _
  rw [Function.update_idem]
  exact congrArg _ (congrArg (fun ticket => ExecutionTicket.settle ticket none _)
    (Function.update_self _ _ _))

theorem emptied_clears (kept : Kept arbiter) (evidence : TerminationEvidence) :
    Clears arbiter (arbiter.emptied evidence) := by
  have clears : Clears { arbiter with
      targetTermination := some evidence
      closed := true } (arbiter.emptied evidence) := drain_clears kept
  exact ⟨clears.placed, clears.grown, clears.edge⟩

theorem emptied_active (arbiter : RdbgArbiter) (evidence : TerminationEvidence) :
    (arbiter.emptied evidence).active = arbiter.active := by
  unfold emptied drain
  rw [cancelAll_eq]

/-- The queue is cancelled, the owner is settled as terminated, the rest stands. -/
theorem retire_edge (kept : Kept arbiter) (id : TicketId) (evidence : TerminationEvidence)
    (other : TicketId) :
    (other = id ∧ ((arbiter.retire id evidence).tickets other).standing =
      ⟨.settled, none, some (.targetTerminated evidence),
        (arbiter.tickets other).postSettlementParent⟩) ∨
    (other ∈ arbiter.queue ∧ ((arbiter.retire id evidence).tickets other).standing =
      ⟨.settled, none, some .cancelledBeforeEffect,
        (arbiter.tickets other).postSettlementParent⟩) ∨
    ((arbiter.retire id evidence).tickets other).standing = (arbiter.tickets other).standing := by
  have clears := emptied_clears kept evidence
  rw [retire_tickets]
  by_cases same : other = id
  · subst same
    have parent : ((arbiter.emptied evidence).tickets other).postSettlementParent =
        (arbiter.tickets other).postSettlementParent := by
      rcases clears.edge other with ⟨_, settled⟩ | same
      · exact congrArg Standing.parent settled
      · exact congrArg Standing.parent same
    refine .inl ⟨rfl, ?_⟩
    rw [Function.update_self, ← parent]
    rfl
  · rw [Function.update_of_ne same]
    exact .inr (clears.edge other)

theorem retire_placed (kept : Kept arbiter) (held : arbiter.active = some id)
    (evidence : TerminationEvidence) : Kept (arbiter.retire id evidence) := by
  have placed := (emptied_clears kept evidence).placed
  unfold Kept at placed ⊢
  rw [emptied_active, held] at placed
  rw [retire_tickets]
  exact placed.finish rfl

theorem retire_grown (arbiter : RdbgArbiter) (id : TicketId) (evidence : TerminationEvidence) :
    (arbiter.retire id evidence).admitted = arbiter.admitted :=
  cancelAll_admitted _ _

/-- The retirement may follow a change that the tickets do not see. -/
theorem retire_effect {base : RdbgArbiter} (kept : Kept base)
    (tickets : base.tickets = arbiter.tickets) (queue : base.queue = arbiter.queue)
    (active : base.active = arbiter.active) (admitted : base.admitted = arbiter.admitted)
    (held : arbiter.active = some id) (unknown : (arbiter.tickets id).phase = .unknown)
    (evidence : TerminationEvidence) : Effect arbiter (base.retire id evidence) emitted := by
  refine ⟨retire_placed kept (active.trans held) evidence, ?_, fun other _ => ?_⟩
  · refine Nat.le_of_eq ?_
    rw [retire_grown, admitted]
  · have edge := retire_edge kept id evidence other
    rw [tickets, queue] at edge
    rcases edge with ⟨rfl, settled⟩ | ⟨member, settled⟩ | same
    · exact .terminated held unknown settled
    · exact .cancelled member settled
    · exact .kept same

theorem retireTerminatedTarget_effect (kept : Kept arbiter) (id : TicketId) (route : RouteToken)
    (evidence : TerminationEvidence) :
    Effect arbiter (arbiter.retireTerminatedTarget setup sight id route evidence).1 emitted := by
  unfold retireTerminatedTarget
  split
  · exact kept_effect kept _
  · next passed =>
      obtain ⟨held, unknown, _⟩ := unknownOwner_iff.1 (checkTermination_owner passed)
      exact retire_effect kept rfl rfl rfl rfl held unknown evidence

/-! ## The port -/

/-- A step through the port relabels its ticket, and may change the route and what is open. -/
def Ported (arbiter : RdbgArbiter) (id : TicketId) (next : RdbgArbiter) : Prop :=
  ∃ ticket route calls,
    next = { arbiter with
      tickets := Function.update arbiter.tickets id ticket
      route := route
      worker := arbiter.worker.withCalls calls } ∧
    ticket.standing = (arbiter.tickets id).standing

variable {calls : List Call}

theorem withCalls_self {worker : Worker}
    (live : worker.port = some (id, calls)) : worker.withCalls calls = worker := by
  cases worker with
  | planning ticket reconciling open_ =>
      cases live
      rfl
  | finalizing ticket reconciling nextRoute open_ =>
      cases live
      rfl
  | _ => rfl

theorem finish_standing (ticket : ExecutionTicket) (call : Call) (answer : Answer) :
    (ticket.finish call answer).standing = ticket.standing := by
  unfold ExecutionTicket.finish
  split
  case h_6 => split <;> rfl
  case h_7 => split <;> rfl
  case h_8 =>
    unfold ExecutionTicket.stopCheckpoint
    split <;> rfl
  case h_11 => split <;> rfl
  case h_12 => split <;> rfl
  case h_13 =>
    unfold ExecutionTicket.stopCheckpoint
    split <;> rfl
  all_goals rfl

theorem refuseTransport_standing (ticket : ExecutionTicket) :
    ticket.refuseTransport.standing = ticket.standing := by
  unfold ExecutionTicket.refuseTransport
  split <;> rfl

theorem ported_refl (live : arbiter.worker.port = some (id, calls)) :
    Ported arbiter id arbiter := by
  refine ⟨arbiter.tickets id, arbiter.route, calls, ?_, rfl⟩
  rw [Function.update_eq_self, withCalls_self live]

theorem ported_calls (arbiter : RdbgArbiter) (id : TicketId) (calls : List Call) :
    Ported arbiter id (arbiter.withCalls calls) := by
  refine ⟨arbiter.tickets id, arbiter.route, calls, ?_, rfl⟩
  rw [Function.update_eq_self]
  rfl

theorem ported_update (live : arbiter.worker.port = some (id, calls))
    (change : ExecutionTicket → ExecutionTicket)
    (same : (change (arbiter.tickets id)).standing = (arbiter.tickets id).standing) :
    Ported arbiter id (arbiter.update id change) := by
  refine ⟨change (arbiter.tickets id), arbiter.route, calls, ?_, same⟩
  rw [withCalls_self live]
  rfl

theorem entering_ported (live : arbiter.worker.port = some (id, calls))
    {call : Call} (entered : arbiter.entering sight id calls call = (next, emitted)) :
    Ported arbiter id next := by
  unfold entering at entered
  dsimp only at entered
  split at entered
  · cases entered
    split
    · exact ⟨_, _, _, rfl, rfl⟩
    · refine ported_update live _ ?_
      rfl
  · cases entered
    split
    · exact ⟨_, _, _, rfl, rfl⟩
    · refine ported_update live _ ?_
      rfl
  · cases entered
    refine ported_update live _ ?_
    rfl

theorem port_ported (live : arbiter.worker.port = some (id, calls))
    {action : PortAction} (taken : arbiter.port sight id calls action = some (next, emitted)) :
    Ported arbiter id next := by
  cases action with
  | call request =>
      simp only [port] at taken
      split at taken
      · split at taken
        · cases taken
          exact ported_calls _ _ _
        · cases taken
          exact ported_refl live
      · cases taken
  | enter =>
      simp only [port] at taken
      split at taken
      · cases taken
      · cases taken
      · split at taken
        · cases taken
          exact ported_update live _ (refuseTransport_standing _)
        · exact entering_ported live (Option.some.inj taken)
  | callbackReturned =>
      simp only [port] at taken
      split at taken
      · cases taken
        exact ported_calls _ _ _
      · cases taken
  | callbackRaised =>
      simp only [port] at taken
      split at taken
      · cases taken
        exact ⟨_, _, _, rfl, rfl⟩
      · cases taken
  | answered answer =>
      simp only [port] at taken
      split at taken
      · cases taken
      · cases taken
      · cases taken
        exact ⟨_, _, _, rfl, finish_standing _ _ _⟩
  | handoffRoute nextRoute =>
      simp only [port] at taken
      split at taken
      · cases taken
        unfold handoffRoute
        split
        · refine ⟨arbiter.tickets id, nextRoute, calls, ?_, rfl⟩
          rw [Function.update_eq_self, withCalls_self live]
        · exact ported_refl live
      · cases taken
  | registerPostSettlementCleanup plan =>
      simp only [port] at taken
      split at taken
      · cases taken
        unfold registerPostSettlementCleanup
        split
        · refine ported_update live _ ?_
          rfl
        · exact ported_refl live
      · cases taken

/-- The port of the ticket in the slot changes no standing. -/
theorem ported_effect (kept : Kept arbiter) (held : arbiter.active = some id)
    (ported : Ported arbiter id next) : Effect arbiter next emitted := by
  obtain ⟨ticket, route, calls, rfl, same⟩ := ported
  have standing : ∀ other, (Function.update arbiter.tickets id ticket other).standing =
      (arbiter.tickets other).standing := by
    intro other
    by_cases equal : other = id
    · subst equal
      rw [Function.update_self, same]
    · rw [Function.update_of_ne equal]
  refine ⟨?_, Nat.le_refl _, fun other _ => .kept (standing other)⟩
  refine kept.relabel (fun other => congrArg Standing.phase (standing other)) ?_
  intro other waits clean
  have distinct : other ≠ id := by
    rintro rfl
    have owning := ((kept.active other).1 held).2
    rw [queued_not_owning waits] at owning
    cases owning
  show (Function.update arbiter.tickets id ticket other).owesCapability = false
  rw [Function.update_of_ne distinct]
  exact clean

end RdbgArbiter

end OnecRuntime.Arbiter
