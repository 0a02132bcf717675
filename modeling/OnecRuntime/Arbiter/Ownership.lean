import Mathlib.Data.List.Nodup
import OnecRuntime.Arbiter.Steps

/-!
# Tickets are queued, active or settled

The invariant of the tickets, the queue and the slot, and what each change of them that
the arbiter makes does to it.
-/

namespace OnecRuntime.Arbiter

variable {tickets : TicketId → ExecutionTicket} {admitted : Nat} {queue : List TicketId}
  {active : Option TicketId} {id : TicketId}

/-- The queue holds the queued tickets, the slot the one that is neither queued nor settled. -/
structure Placed (tickets : TicketId → ExecutionTicket) (admitted : Nat) (queue : List TicketId)
    (active : Option TicketId) : Prop where
  queued : ∀ id, id ∈ queue ↔ id < admitted ∧ (tickets id).phase = .queued
  nodup : queue.Nodup
  active : ∀ id, active = some id ↔ id < admitted ∧ (tickets id).phase.owning = true
  /-- A ticket that waits has not reached its session. -/
  clean : ∀ id, id < admitted → (tickets id).phase = .queued →
    (tickets id).owesCapability = false

theorem queued_not_owning {ticket : ExecutionTicket} (queued : ticket.phase = .queued) :
    ticket.phase.owning = false := by
  rw [queued]
  rfl

namespace Placed

theorem active_not_queued (placed : Placed tickets admitted queue active)
    (held : active = some id) : id ∉ queue := by
  intro member
  have owning := ((placed.active id).1 held).2
  rw [((placed.queued id).1 member).2] at owning
  cases owning

/-- Changes that leave the phases where they are. -/
theorem relabel (placed : Placed tickets admitted queue active)
    {changed : TicketId → ExecutionTicket}
    (phases : ∀ id, (changed id).phase = (tickets id).phase)
    (clean : ∀ id, (tickets id).phase = .queued → (tickets id).owesCapability = false →
      (changed id).owesCapability = false) :
    Placed changed admitted queue active where
  queued id := by rw [phases, placed.queued]
  nodup := placed.nodup
  active id := by rw [phases, placed.active]
  clean id bound waits := by
    rw [phases] at waits
    exact clean id waits (placed.clean id bound waits)

variable {ticket : ExecutionTicket}

/-- One ticket changes, and with it its place in the queue and in the slot. -/
theorem assign (placed : Placed tickets admitted queue active)
    {bound : Nat} {places : List TicketId} {slot : Option TicketId}
    (counted : id < bound) (bounds : ∀ other, other ≠ id → (other < bound ↔ other < admitted))
    (members : ∀ other, other ≠ id → (other ∈ places ↔ other ∈ queue)) (nodup : places.Nodup)
    (slots : ∀ other, other ≠ id → (slot = some other ↔ active = some other))
    (member : id ∈ places ↔ ticket.phase = .queued)
    (held : slot = some id ↔ ticket.phase.owning = true)
    (clean : ticket.phase = .queued → ticket.owesCapability = false) :
    Placed (Function.update tickets id ticket) bound places slot where
  queued other := by
    by_cases same : other = id
    · subst same
      rw [Function.update_self, member]
      exact ⟨fun waits => ⟨counted, waits⟩, fun placed => placed.2⟩
    · rw [Function.update_of_ne same, members other same, bounds other same, placed.queued]
  nodup := nodup
  active other := by
    by_cases same : other = id
    · subst same
      rw [Function.update_self, held]
      exact ⟨fun owning => ⟨counted, owning⟩, fun placed => placed.2⟩
    · rw [Function.update_of_ne same, slots other same, bounds other same, placed.active]
  clean other below waits := by
    by_cases same : other = id
    · subst same
      rw [Function.update_self] at waits ⊢
      exact clean waits
    · rw [Function.update_of_ne same] at waits ⊢
      exact placed.clean other ((bounds other same).1 below) waits

theorem below_succ {other bound : Nat} (distinct : other ≠ bound) :
    other < bound + 1 ↔ other < bound := by
  omega

/-- The phase of a ticket changes to another one in which it holds the slot. -/
theorem move (placed : Placed tickets admitted queue (some id))
    (owning : ticket.phase.owning = true) :
    Placed (Function.update tickets id ticket) admitted queue (some id) := by
  have busy : ticket.phase ≠ .queued := fun waits => by
    rw [queued_not_owning waits] at owning
    cases owning
  exact placed.assign ((placed.active id).1 rfl).1 (fun _ _ => Iff.rfl) (fun _ _ => Iff.rfl)
    placed.nodup (fun _ _ => Iff.rfl) (iff_of_false (placed.active_not_queued rfl) busy)
    (iff_of_true rfl owning) (fun waits => absurd waits busy)

theorem fresh (placed : Placed tickets admitted queue active) : admitted ∉ queue := by
  intro member
  exact absurd ((placed.queued admitted).1 member).1 (Nat.lt_irrefl _)

theorem fresh_slot (placed : Placed tickets admitted queue active) : active ≠ some admitted := by
  intro held
  exact absurd ((placed.active admitted).1 held).1 (Nat.lt_irrefl _)

/-- The next ticket is admitted somewhere in the queue. -/
theorem enqueue (placed : Placed tickets admitted queue active)
    (waits : ticket.phase = .queued) (clean : ticket.owesCapability = false)
    {longer : List TicketId} (members : ∀ id, id ∈ longer ↔ id = admitted ∨ id ∈ queue)
    (nodup : longer.Nodup) :
    Placed (Function.update tickets admitted ticket) (admitted + 1) longer active := by
  refine placed.assign (Nat.lt_succ_self _) (fun other distinct => below_succ distinct) ?_ nodup
    (fun _ _ => Iff.rfl) ?_ ?_ fun _ => clean
  · intro other distinct
    simp [members, distinct]
  · exact iff_of_true ((members _).2 (.inl rfl)) waits
  · rw [queued_not_owning waits]
    exact iff_of_false placed.fresh_slot Bool.false_ne_true

/-- The next ticket is admitted and settled at once. -/
theorem refuse (placed : Placed tickets admitted queue active)
    (settled : ticket.phase = .settled) :
    Placed (Function.update tickets admitted ticket) (admitted + 1) queue active := by
  refine placed.assign (Nat.lt_succ_self _) (fun other distinct => below_succ distinct)
    (fun _ _ => Iff.rfl) placed.nodup (fun _ _ => Iff.rfl) ?_ ?_ ?_
  · simp [placed.fresh, settled]
  · simp [placed.fresh_slot, settled, Phase.owning]
  · simp [settled]

/-- A ticket leaves the queue for good. -/
theorem leave (placed : Placed tickets admitted queue active) (member : id ∈ queue)
    (settled : ticket.phase = .settled) :
    Placed (Function.update tickets id ticket) admitted (queue.erase id) active := by
  refine placed.assign ((placed.queued id).1 member).1 (fun _ _ => Iff.rfl) ?_
    (placed.nodup.erase id) (fun _ _ => Iff.rfl) ?_ ?_ ?_
  · intro other distinct
    simp [placed.nodup.mem_erase_iff, distinct]
  · simp [placed.nodup.mem_erase_iff, settled]
  · simp only [settled, Phase.owning, Bool.false_eq_true, iff_false]
    exact fun held => placed.active_not_queued held member
  · simp [settled]

/-- The head of the queue takes the free slot. -/
theorem start (placed : Placed tickets admitted (id :: queue) none)
    (owning : ticket.phase.owning = true) :
    Placed (Function.update tickets id ticket) admitted queue (some id) := by
  have unique := List.nodup_cons.1 placed.nodup
  have busy : ticket.phase ≠ .queued := fun waits => by
    rw [queued_not_owning waits] at owning
    cases owning
  refine placed.assign ((placed.queued id).1 List.mem_cons_self).1 (fun _ _ => Iff.rfl) ?_ unique.2
    ?_ (iff_of_false unique.1 busy) (iff_of_true rfl owning) (fun waits => absurd waits busy)
  · intro other distinct
    simp [distinct]
  · intro other distinct
    simp [Ne.symm distinct]

/-- The ticket in the slot settles and the slot is free. -/
theorem finish (placed : Placed tickets admitted queue (some id))
    (settled : ticket.phase = .settled) :
    Placed (Function.update tickets id ticket) admitted queue none := by
  refine placed.assign ((placed.active id).1 rfl).1 (fun _ _ => Iff.rfl) (fun _ _ => Iff.rfl)
    placed.nodup ?_ ?_ ?_ ?_
  · intro other distinct
    simp [Ne.symm distinct]
  · simp [placed.active_not_queued rfl, settled]
  · simp [settled, Phase.owning]
  · simp [settled]

end Placed

/-! ## Cancelling -/

namespace RdbgArbiter

variable {arbiter : RdbgArbiter}

@[simp] theorem update_tickets (arbiter : RdbgArbiter) (id : TicketId)
    (change : ExecutionTicket → ExecutionTicket) :
    (arbiter.update id change).tickets =
      Function.update arbiter.tickets id (change (arbiter.tickets id)) := rfl

@[simp] theorem settle_tickets (arbiter : RdbgArbiter) (id : TicketId) (value : Option Value)
    (error : Option Failure) :
    (arbiter.settle id value error).tickets =
      Function.update arbiter.tickets id ((arbiter.tickets id).settle value error) := rfl

theorem cancelAll_eq (arbiter : RdbgArbiter) (ids : List TicketId) :
    arbiter.cancelAll ids = { arbiter with tickets := (arbiter.cancelAll ids).tickets } := by
  induction ids generalizing arbiter with
  | nil => rfl
  | cons id rest hypothesis =>
      rw [cancelAll, hypothesis]
      rfl

@[simp] theorem cancelAll_route (arbiter : RdbgArbiter) (ids : List TicketId) :
    (arbiter.cancelAll ids).route = arbiter.route := by
  rw [cancelAll_eq]

@[simp] theorem cancelAll_admitted (arbiter : RdbgArbiter) (ids : List TicketId) :
    (arbiter.cancelAll ids).admitted = arbiter.admitted := by
  rw [cancelAll_eq]

@[simp] theorem cancelAll_active (arbiter : RdbgArbiter) (ids : List TicketId) :
    (arbiter.cancelAll ids).active = arbiter.active := by
  rw [cancelAll_eq]

@[simp] theorem cancelAll_reconciliation (arbiter : RdbgArbiter) (ids : List TicketId) :
    (arbiter.cancelAll ids).reconciliation = arbiter.reconciliation := by
  rw [cancelAll_eq]

@[simp] theorem cancelAll_serverTeardown (arbiter : RdbgArbiter) (ids : List TicketId) :
    (arbiter.cancelAll ids).serverTeardown = arbiter.serverTeardown := by
  rw [cancelAll_eq]

@[simp] theorem cancelAll_fileTeardown (arbiter : RdbgArbiter) (ids : List TicketId) :
    (arbiter.cancelAll ids).fileTeardown = arbiter.fileTeardown := by
  rw [cancelAll_eq]

@[simp] theorem cancelAll_cleanupDebt (arbiter : RdbgArbiter) (ids : List TicketId) :
    (arbiter.cancelAll ids).cleanupDebt = arbiter.cleanupDebt := by
  rw [cancelAll_eq]

@[simp] theorem cancelAll_closed (arbiter : RdbgArbiter) (ids : List TicketId) :
    (arbiter.cancelAll ids).closed = arbiter.closed := by
  rw [cancelAll_eq]

@[simp] theorem cancelAll_worker (arbiter : RdbgArbiter) (ids : List TicketId) :
    (arbiter.cancelAll ids).worker = arbiter.worker := by
  rw [cancelAll_eq]

@[simp] theorem cancelAll_joiners (arbiter : RdbgArbiter) (ids : List TicketId) :
    (arbiter.cancelAll ids).joiners = arbiter.joiners := by
  rw [cancelAll_eq]

@[simp] theorem cancelAll_closer (arbiter : RdbgArbiter) (ids : List TicketId) :
    (arbiter.cancelAll ids).closer = arbiter.closer := by
  rw [cancelAll_eq]

/-- The listed tickets are settled, the others kept. -/
theorem cancelAll_tickets (arbiter : RdbgArbiter) {ids : List TicketId} (nodup : ids.Nodup)
    (id : TicketId) :
    (arbiter.cancelAll ids).tickets id =
      if id ∈ ids then (arbiter.tickets id).settle none (some .cancelledBeforeEffect)
      else arbiter.tickets id := by
  induction ids generalizing arbiter with
  | nil => rfl
  | cons first rest hypothesis =>
      have unique := List.nodup_cons.1 nodup
      rw [cancelAll, hypothesis _ unique.2]
      by_cases same : id = first
      · subst same
        simp [unique.1, settle]
      · simp [same, settle]

theorem cancelAll_placed {ids rest : List TicketId}
    (placed : Placed arbiter.tickets arbiter.admitted (ids ++ rest) arbiter.active) :
    Placed (arbiter.cancelAll ids).tickets arbiter.admitted rest arbiter.active := by
  induction ids generalizing arbiter with
  | nil => exact placed
  | cons id ids hypothesis =>
      have member : id ∈ id :: ids ++ rest := List.mem_cons_self
      obtain ⟨bound, waits⟩ := (placed.queued id).1 member
      have left := placed.leave member (ExecutionTicket.settle_phase
        (placed.clean id bound waits) none (some .cancelledBeforeEffect))
      rw [List.cons_append, List.erase_cons_head] at left
      exact @hypothesis (arbiter.settle id none (some .cancelledBeforeEffect)) left

end RdbgArbiter

end OnecRuntime.Arbiter
