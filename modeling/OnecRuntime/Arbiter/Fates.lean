import OnecRuntime.Arbiter.Ownership

/-!
# What a step does to a ticket

A ticket that exists keeps its result, or goes one edge further on its way from the
queue through the slot to its settlement. Every section is described by these edges and
by the placement that it leaves.
-/

namespace OnecRuntime.Arbiter

/-- What of a ticket its settlement and its parentage are made of. -/
structure Standing where
  phase : Phase
  value : Option Value
  error : Option Failure
  parent : Option TicketId

def ExecutionTicket.standing (ticket : ExecutionTicket) : Standing where
  phase := ticket.phase
  value := ticket.value
  error := ticket.error
  parent := ticket.postSettlementParent

/-- The edges of one ticket in one step. -/
inductive Fate (arbiter next : RdbgArbiter) (emitted : List Signal) (id : TicketId) : Prop where
  | kept (same : (next.tickets id).standing = (arbiter.tickets id).standing)
  | cancelled (waited : id ∈ arbiter.queue)
      (settled : (next.tickets id).standing =
        ⟨.settled, none, some .cancelledBeforeEffect, (arbiter.tickets id).postSettlementParent⟩)
  | stale (popped : arbiter.queue = id :: next.queue) (ready : arbiter.headReady = true)
      (free : arbiter.active = none) (opened : arbiter.closed = false)
      (signalled : emitted = [.stale id])
      (settled : (next.tickets id).standing =
        ⟨.settled, none, some (.staleRoute ""), (arbiter.tickets id).postSettlementParent⟩)
  | started (popped : arbiter.queue = id :: next.queue) (ready : arbiter.headReady = true)
      (free : arbiter.active = none) (opened : arbiter.closed = false)
      (signalled : emitted = [.started id])
      (running : (next.tickets id).standing =
        { (arbiter.tickets id).standing with phase := .running })
  | retained {reconciling : Bool} {error : Failure}
      (concluding : arbiter.worker = .concluding id reconciling (.raised error))
      (unknown : (next.tickets id).standing =
        { (arbiter.tickets id).standing with
          phase := .unknown
          error := some error })
  | concluded {reconciling : Bool} {conclusion : Conclusion}
      (concluding : arbiter.worker = .concluding id reconciling conclusion)
      (settled : (next.tickets id).phase = .settled)
      (parent : (next.tickets id).postSettlementParent =
        (arbiter.tickets id).postSettlementParent)
  /-- The assertion of `_settle` failed. -/
  | crashed {reconciling : Bool} {conclusion : Conclusion}
      (concluding : arbiter.worker = .concluding id reconciling conclusion)
      (owed : (arbiter.tickets id).owesCapability = true) (ended : next.worker = .crashed)
      (phase : (next.tickets id).phase = (arbiter.tickets id).phase)
      (parent : (next.tickets id).postSettlementParent =
        (arbiter.tickets id).postSettlementParent)
  | scheduled (owner : arbiter.unknownOwner id = true)
      (reconciling : (next.tickets id).standing =
        { (arbiter.tickets id).standing with phase := .reconciling })
  | reentered (held : arbiter.active = some id) (due : arbiter.reconciliation.isSome = true)
      (signalled : emitted = [.reentered id])
      (running : (next.tickets id).standing =
        { (arbiter.tickets id).standing with phase := .running })
  | terminated {evidence : TerminationEvidence} (held : arbiter.active = some id)
      (unknown : (arbiter.tickets id).phase = .unknown)
      (settled : (next.tickets id).standing =
        ⟨.settled, none, some (.targetTerminated evidence),
          (arbiter.tickets id).postSettlementParent⟩)

/-- What a step leaves: the placement, and the edge that each older ticket went. -/
structure Effect (arbiter next : RdbgArbiter) (emitted : List Signal) : Prop where
  placed : Placed next.tickets next.admitted next.queue next.active
  grown : arbiter.admitted ≤ next.admitted
  fate : ∀ id < arbiter.admitted, Fate arbiter next emitted id

namespace Fate

variable {arbiter next : RdbgArbiter} {emitted : List Signal} {id : TicketId}

/-- A parent is a parent for good. -/
theorem parent (fate : Fate arbiter next emitted id) :
    (next.tickets id).postSettlementParent = (arbiter.tickets id).postSettlementParent := by
  cases fate with
  | kept same => exact congrArg Standing.parent same
  | cancelled _ settled => exact congrArg Standing.parent settled
  | stale _ _ _ _ _ settled => exact congrArg Standing.parent settled
  | started _ _ _ _ _ running => exact congrArg Standing.parent running
  | retained _ unknown => exact congrArg Standing.parent unknown
  | concluded _ _ parent => exact parent
  | crashed _ _ _ _ parent => exact parent
  | scheduled _ reconciling => exact congrArg Standing.parent reconciling
  | reentered _ _ _ running => exact congrArg Standing.parent running
  | terminated _ _ settled => exact congrArg Standing.parent settled

end Fate

theorem Effect.dependent {arbiter next : RdbgArbiter} {emitted : List Signal} {id : TicketId}
    (effect : Effect arbiter next emitted) (bound : id < arbiter.admitted) :
    (next.tickets id).dependent = (arbiter.tickets id).dependent :=
  congrArg Option.isSome (effect.fate id bound).parent

/-! ## Changes that no edge is about -/

theorem Placed.restate {tickets changed : TicketId → ExecutionTicket} {admitted : Nat}
    {queue : List TicketId} {active : Option TicketId}
    (placed : Placed tickets admitted queue active)
    (same : ∀ id, (changed id).standing = (tickets id).standing ∧
      (changed id).owesCapability = (tickets id).owesCapability) :
    Placed changed admitted queue active :=
  placed.relabel (fun id => congrArg Standing.phase (same id).1)
    (fun id _ clean => (same id).2.trans clean)

/-- The arbiter but for the tickets and the teardown slots; the tickets stand as before. -/
def Alike (arbiter next : RdbgArbiter) : Prop :=
  ∃ tickets serverTeardown fileTeardown,
    next = { arbiter with
      tickets := tickets
      serverTeardown := serverTeardown
      fileTeardown := fileTeardown } ∧
    ∀ id, (tickets id).standing = (arbiter.tickets id).standing ∧
      (tickets id).owesCapability = (arbiter.tickets id).owesCapability

namespace Alike

variable {arbiter middle next : RdbgArbiter}

theorem refl (arbiter : RdbgArbiter) : Alike arbiter arbiter :=
  ⟨_, _, _, rfl, fun _ => ⟨rfl, rfl⟩⟩

theorem trans (first : Alike arbiter middle) (second : Alike middle next) :
    Alike arbiter next := by
  obtain ⟨_, _, _, rfl, before⟩ := first
  obtain ⟨_, _, _, rfl, after⟩ := second
  exact ⟨_, _, _, rfl, fun id =>
    ⟨(after id).1.trans (before id).1, (after id).2.trans (before id).2⟩⟩

theorem standing (alike : Alike arbiter next) (id : TicketId) :
    (next.tickets id).standing = (arbiter.tickets id).standing := by
  obtain ⟨_, _, _, rfl, same⟩ := alike
  exact (same id).1

theorem placed (alike : Alike arbiter next)
    (placed : Placed arbiter.tickets arbiter.admitted arbiter.queue arbiter.active) :
    Placed next.tickets next.admitted next.queue next.active := by
  obtain ⟨_, _, _, rfl, same⟩ := alike
  exact placed.restate same

end Alike

theorem standing_update {tickets : TicketId → ExecutionTicket} {id : TicketId}
    {ticket : ExecutionTicket} (same : ticket.standing = (tickets id).standing)
    (owes : ticket.owesCapability = (tickets id).owesCapability) (other : TicketId) :
    (Function.update tickets id ticket other).standing = (tickets other).standing ∧
      (Function.update tickets id ticket other).owesCapability =
        (tickets other).owesCapability := by
  by_cases equal : other = id
  · subst equal
    rw [Function.update_self]
    exact ⟨same, owes⟩
  · rw [Function.update_of_ne equal]
    exact ⟨rfl, rfl⟩

namespace RdbgArbiter

variable {arbiter : RdbgArbiter}

theorem update_alike (arbiter : RdbgArbiter) (id : TicketId)
    (change : ExecutionTicket → ExecutionTicket)
    (same : (change (arbiter.tickets id)).standing = (arbiter.tickets id).standing)
    (owes : (change (arbiter.tickets id)).owesCapability =
      (arbiter.tickets id).owesCapability) :
    Alike arbiter (arbiter.update id change) :=
  ⟨_, _, _, rfl, standing_update same owes⟩

theorem schedule_alike (arbiter : RdbgArbiter) (attempt : TeardownAttempt) :
    Alike arbiter (arbiter.schedule attempt) := by
  unfold schedule
  split
  · exact ⟨_, _, _, rfl, standing_update rfl rfl⟩
  · exact ⟨_, _, _, rfl, standing_update rfl rfl⟩

theorem scheduleAutoServerStop_alike (sight : Sight) (arbiter : RdbgArbiter) (id : TicketId) :
    Alike arbiter (arbiter.scheduleAutoServerStop sight id) := by
  unfold scheduleAutoServerStop
  split
  · split
    · exact schedule_alike _ _
    · exact .refl _
  · exact .refl _

theorem scheduleAutoFileStop_alike (setup : Setup) (sight : Sight) (arbiter : RdbgArbiter)
    (id : TicketId) : Alike arbiter (arbiter.scheduleAutoFileStop setup sight id) := by
  unfold scheduleAutoFileStop
  split
  · split
    · exact schedule_alike _ _
    · exact .refl _
  · exact .refl _

theorem scheduleAutoStop_alike (setup : Setup) (sight : Sight) (arbiter : RdbgArbiter)
    (id : TicketId) : Alike arbiter (arbiter.scheduleAutoStop setup sight id) :=
  (scheduleAutoServerStop_alike sight arbiter id).trans
    (scheduleAutoFileStop_alike setup sight _ id)

/-! ## Cancelling -/

theorem settle_standing {ticket : ExecutionTicket} (owes : ticket.owesCapability = false)
    (value : Option Value) (error : Option Failure) :
    (ticket.settle value error).standing = ⟨.settled, value, error, ticket.postSettlementParent⟩ := by
  simp [ExecutionTicket.settle, ExecutionTicket.standing, owes]

/-- Of a list of queued tickets each is cancelled, and nothing happens to the others. -/
theorem cancelAll_standing {ids : List TicketId} (nodup : ids.Nodup)
    (placed : Placed arbiter.tickets arbiter.admitted arbiter.queue arbiter.active)
    (within : ids ⊆ arbiter.queue) (id : TicketId) :
    (id ∈ ids ∧ ((arbiter.cancelAll ids).tickets id).standing =
      ⟨.settled, none, some .cancelledBeforeEffect, (arbiter.tickets id).postSettlementParent⟩) ∨
    (id ∉ ids ∧ (arbiter.cancelAll ids).tickets id = arbiter.tickets id) := by
  rw [cancelAll_tickets arbiter nodup]
  by_cases member : id ∈ ids
  · obtain ⟨bound, waits⟩ := (placed.queued id).1 (within member)
    rw [if_pos member]
    exact .inl ⟨member, settle_standing (placed.clean id bound waits) _ _⟩
  · rw [if_neg member]
    exact .inr ⟨member, rfl⟩

end RdbgArbiter

end OnecRuntime.Arbiter
