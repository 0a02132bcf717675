import OnecRuntime.Arbiter.Emissions

/-!
# Closing admits no user work

While a `close()` waits, the worker can start only the cleanup that it waits for. What it
waits for may come before the `close()` itself has the mailbox again: a worker that is
faster then pops the next user ticket, for nothing in `_run` looks at `_closing`.
-/

namespace OnecRuntime.Arbiter

open OnecRuntime.Library

namespace RdbgArbiter

variable {setup : Setup} {sight : Sight} {arbiter next : RdbgArbiter} {emitted : List Signal}
  {id : TicketId}

/-- The worker would pop a user ticket. -/
def popsUser (arbiter : RdbgArbiter) : Bool :=
  arbiter.active.isNone && arbiter.headReady &&
    match arbiter.queue with
    | [] => false
    | id :: _ => !(arbiter.tickets id).dependent

/-- The worker does not overtake a `close()` whose wait is over, where a user ticket is next;
no termination is confirmed while a cleanup is owed. -/
def Orderly (setup : Setup) (arbiter : RdbgArbiter) (taken : Action × Sight) : Prop :=
  (taken.1 = .take → arbiter.closeDue = true → arbiter.popsUser = false) ∧
    (arbiter.confirms setup taken.2 taken.1 = true → arbiter.cleanupDebt = none)

/-- A call of `close()` has neither returned nor raised. -/
def Closes (setup : Setup) (arbiter : RdbgArbiter) (taken : Action × Sight) : Prop :=
  Orderly setup arbiter taken ∧ (arbiter.closing = true ∨ arbiter.closed = true)

/-- What every orderly run keeps. -/
structure Settles (arbiter : RdbgArbiter) : Prop where
  sound : Sound arbiter
  paid : arbiter.closed = true → arbiter.cleanupDebt = none
  joined : arbiter.joiners ≠ 0 → arbiter.closed = true

theorem initial_settles (route : RouteToken) : Settles (initial route) where
  sound := initial_sound route
  paid := by rintro ⟨⟩
  joined := by
    intro joining
    exact absurd rfl joining

variable {action : Action}

theorem step_settles (settles : Settles arbiter)
    (orderly : Orderly setup arbiter (action, sight))
    (taken : arbiter.step setup sight action = some (next, emitted)) : Settles next := by
  refine ⟨(step_sound settles.sound taken).1, ?_, ?_⟩
  · intro shut
    cases step_closure settles.sound taken with
    | kept closed debt _ =>
        rw [debt]
        exact settles.paid (closed.symm.trans shut)
    | concluded held closed _ =>
        have free := (settles.sound.staffed.closed (closed.symm.trans shut)).1
        exact absurd free held
    | left _ debt settled =>
        rw [debt]
        rcases settled with closed | unowed
        · exact settles.paid closed
        · exact unowed
    | retired confirmation _ debt _ =>
        rw [debt]
        exact orderly.2 confirmation
  · intro joining
    cases step_closure settles.sound taken with
    | kept closed _ joiners =>
        rw [closed]
        refine settles.joined fun none => ?_
        rw [none] at joiners
        exact joining (Nat.le_zero.1 joiners)
    | concluded _ closed joiners =>
        rw [closed]
        exact settles.joined (joiners ▸ joining)
    | left closed _ _ => exact closed
    | retired _ closed _ _ => exact closed

/-- Closed is closed. -/
theorem step_stays_closed (sound : Sound arbiter)
    (taken : arbiter.step setup sight action = some (next, emitted))
    (shut : arbiter.closed = true) : next.closed = true := by
  cases step_closure sound taken with
  | kept closed _ _ => exact closed.trans shut
  | concluded _ closed _ => exact closed.trans shut
  | left closed _ _ => exact closed
  | retired _ closed _ _ => exact closed

/-- What is popped during `close()` is a dependent cleanup. -/
theorem popped_dependent (settles : Settles arbiter)
    (closes : Closes setup arbiter (action, sight))
    (taken : arbiter.step setup sight action = some (next, emitted))
    {signal : Signal} (member : signal ∈ emitted) (popped : signal.popped = some id) :
    (arbiter.tickets id).dependent = true := by
  cases step_origin taken with
  | quiet quiet =>
    rw [quiet.popped member] at popped
    cases popped
  | returned signalled _ =>
    rw [signalled] at member
    rw [List.mem_singleton.1 member] at popped
    cases popped
  | @popped head first signals heads free ready =>
    subst first
    have same : head = id := by
      rcases signals with rfl | rfl
      · rw [List.mem_singleton.1 member] at popped
        exact Option.some.inj popped
      · rw [List.mem_singleton.1 member] at popped
        exact Option.some.inj popped
    subst same
    cases due : arbiter.closeDue with
    | true =>
        have refused := closes.1.1 rfl due
        simpa [popsUser, free, ready, heads] using refused
    | false =>
        rcases closes.2 with closing | shut
        · obtain ⟨closer, waits⟩ := Option.isSome_iff_exists.1 closing
          -- The wait is not over: the cleanup is still active, or still at the head.
          cases closer with
          | awaitingCleanup active => simp [closeDue, waits, free] at due
          | awaitingStart cleanup =>
              have first : head = cleanup := by
                simpa [closeDue, waits, free, heads] using due
              rw [first]
              exact (settles.sound.staffed.closer waits).2
        · rw [(settles.sound.staffed.closed shut).2] at heads
          cases heads

/-! ## Tickets that leave the queue -/

/-- The result of a settled ticket never changes again. -/
theorem settled_stands (sound : Sound arbiter) (fate : Fate arbiter next emitted id)
    (settled : (arbiter.tickets id).phase = .settled) :
    (next.tickets id).standing = (arbiter.tickets id).standing := by
  have unqueued : id ∉ arbiter.queue := by
    intro member
    rw [((sound.kept.queued id).1 member).2] at settled
    cases settled
  have inactive : arbiter.active ≠ some id := by
    intro held
    have owning := ((sound.kept.active id).1 held).2
    rw [settled] at owning
    cases owning
  have unheld : ∀ {reconciling conclusion},
      arbiter.worker ≠ .concluding id reconciling conclusion := by
    intro reconciling conclusion concluding
    exact inactive (sound.staffed.holder (show arbiter.worker.holder = some id by
      rw [concluding]
      rfl)).1
  cases fate with
  | kept same => exact same
  | cancelled waited _ => exact absurd waited unqueued
  | stale popped _ _ _ _ _ =>
      rw [popped] at unqueued
      exact absurd List.mem_cons_self unqueued
  | started popped _ _ _ _ _ =>
      rw [popped] at unqueued
      exact absurd List.mem_cons_self unqueued
  | retained concluding _ => exact absurd concluding unheld
  | concluded concluding _ _ => exact absurd concluding unheld
  | crashed concluding _ _ _ _ => exact absurd concluding unheld
  | scheduled owner _ => exact absurd (unknownOwner_iff.1 owner).1 inactive
  | reentered held _ _ _ => exact absurd held inactive
  | terminated held _ _ => exact absurd held inactive

theorem cancelled_iff {ticket : ExecutionTicket} : ticket.cancelled ↔ ∃ parent,
    ticket.standing = ⟨.settled, none, some .cancelledBeforeEffect, parent⟩ := by
  constructor
  · rintro ⟨phase, value, error⟩
    refine ⟨ticket.postSettlementParent, ?_⟩
    rw [ExecutionTicket.standing, phase, value, error]
  · rintro ⟨parent, standing⟩
    exact ⟨congrArg Standing.phase standing, congrArg Standing.value standing,
      congrArg Standing.error standing⟩

theorem cancelled_stands (sound : Sound arbiter) (fate : Fate arbiter next emitted id)
    (cancelled : (arbiter.tickets id).cancelled) : (next.tickets id).cancelled := by
  obtain ⟨parent, standing⟩ := cancelled_iff.1 cancelled
  exact cancelled_iff.2 ⟨parent, (settled_stands sound fate cancelled.1).trans standing⟩

/-- A queued ticket that the worker does not pop stays, or is cancelled. -/
theorem queued_stays (sound : Sound arbiter) (effect : Effect arbiter next emitted)
    (member : id ∈ arbiter.queue)
    (unpopped : ∀ signal ∈ emitted, signal.popped ≠ some id) :
    id ∈ next.queue ∨ (next.tickets id).cancelled := by
  obtain ⟨bound, waits⟩ := (sound.kept.queued id).1 member
  have unheld : ∀ {reconciling conclusion},
      arbiter.worker ≠ .concluding id reconciling conclusion := by
    intro reconciling conclusion concluding
    have held := (sound.staffed.holder (show arbiter.worker.holder = some id by
      rw [concluding]
      rfl)).1
    exact sound.kept.active_not_queued held member
  cases effect.fate id bound with
  | kept same =>
      have phase : (next.tickets id).phase = .queued := (congrArg Standing.phase same).trans waits
      exact .inl ((effect.placed.queued id).2 ⟨Nat.lt_of_lt_of_le bound effect.grown, phase⟩)
  | cancelled _ settled => exact .inr (cancelled_iff.2 ⟨_, settled⟩)
  | stale _ _ _ _ signalled _ =>
      rw [signalled] at unpopped
      exact absurd rfl (unpopped _ (List.mem_singleton.2 rfl))
  | started _ _ _ _ signalled _ =>
      rw [signalled] at unpopped
      exact absurd rfl (unpopped _ (List.mem_singleton.2 rfl))
  | retained concluding _ => exact absurd concluding unheld
  | concluded concluding _ _ => exact absurd concluding unheld
  | crashed concluding _ _ _ _ => exact absurd concluding unheld
  | scheduled owner _ =>
      exact absurd member (sound.kept.active_not_queued (unknownOwner_iff.1 owner).1)
  | reentered held _ _ _ => exact absurd member (sound.kept.active_not_queued held)
  | terminated held _ _ => exact absurd member (sound.kept.active_not_queued held)

/-! ## From the call to its end -/

/-- A user ticket that waited when `close()` was called still waits or is cancelled. -/
def Unserved (arbiter : RdbgArbiter) (id : TicketId) : Prop :=
  (arbiter.tickets id).dependent = false ∧
    (id ∈ arbiter.queue ∨ id < arbiter.admitted ∧ (arbiter.tickets id).cancelled)

/-- What holds between the call of `close()` and its end, with the signals since then. -/
structure Barred (waited : List TicketId) (signals : List Signal) (arbiter : RdbgArbiter) :
    Prop where
  settles : Settles arbiter
  started : ∀ id, .started id ∈ signals →
    id < arbiter.admitted ∧ (arbiter.tickets id).dependent = true
  unserved : ∀ id ∈ waited, Unserved arbiter id
  returned : .closeReturned ∈ signals → arbiter.closed = true

theorem step_unserved (sound : Sound arbiter) (effect : Effect arbiter next emitted)
    (unpopped : ∀ signal ∈ emitted, ∀ id, signal.popped = some id →
      (arbiter.tickets id).dependent = true) (unserved : Unserved arbiter id) :
    Unserved next id := by
  obtain ⟨user, waits | ⟨bound, cancelled⟩⟩ := unserved
  · have bound := ((sound.kept.queued id).1 waits).1
    refine ⟨(effect.dependent bound).trans user, ?_⟩
    rcases queued_stays sound effect waits (fun signal member popped => by
        rw [unpopped signal member id popped] at user
        cases user) with stays | cancelled
    · exact .inl stays
    · exact .inr ⟨Nat.lt_of_lt_of_le bound effect.grown, cancelled⟩
  · exact ⟨(effect.dependent bound).trans user, .inr ⟨Nat.lt_of_lt_of_le bound effect.grown,
      cancelled_stands sound (effect.fate id bound) cancelled⟩⟩

theorem returns_closed (settles : Settles arbiter)
    (taken : arbiter.step setup sight action = some (next, emitted))
    (member : .closeReturned ∈ emitted) : arbiter.closed = true := by
  cases step_origin taken with
  | quiet quiet => exact absurd (quiet _ member) Bool.false_ne_true
  | popped _ signalled _ _ _ =>
      rcases signalled with rfl | rfl
      · cases List.mem_singleton.1 member
      · cases List.mem_singleton.1 member
  | returned _ joins => exact settles.joined joins

theorem step_barred {waited : List TicketId} {signals : List Signal}
    (barred : Barred waited signals arbiter)
    (closes : Closes setup arbiter (action, sight))
    (taken : arbiter.step setup sight action = some (next, emitted)) :
    Barred waited (signals ++ emitted) next := by
  obtain ⟨_, effect⟩ := step_sound barred.settles.sound taken
  refine ⟨step_settles barred.settles closes.1 taken, ?_, ?_, ?_⟩
  · intro id member
    rcases List.mem_append.1 member with earlier | now
    · obtain ⟨bound, dependent⟩ := barred.started id earlier
      exact ⟨Nat.lt_of_lt_of_le bound effect.grown, (effect.dependent bound).trans dependent⟩
    · have dependent := popped_dependent barred.settles closes taken now rfl
      have bound : id < arbiter.admitted := by
        cases step_origin taken with
        | quiet quiet => exact absurd (quiet _ now) Bool.false_ne_true
        | returned signalled _ =>
            rw [signalled] at now
            cases List.mem_singleton.1 now
        | @popped head _ signals heads _ _ =>
            have same : id = head := by
              rcases signals with rfl | rfl
              · cases List.mem_singleton.1 now
                rfl
              · cases List.mem_singleton.1 now
            subst same
            refine ((barred.settles.sound.kept.queued id).1 ?_).1
            rw [heads]
            exact List.mem_cons_self
      exact ⟨Nat.lt_of_lt_of_le bound effect.grown, (effect.dependent bound).trans dependent⟩
  · intro id waited
    exact step_unserved barred.settles.sound effect
      (fun signal member other popped => popped_dependent barred.settles closes taken member popped)
      (barred.unserved id waited)
  · intro member
    rcases List.mem_append.1 member with earlier | now
    · exact step_stays_closed barred.settles.sound taken (barred.returned earlier)
    · exact step_stays_closed barred.settles.sound taken (returns_closed barred.settles taken now)

/-- What a `close()` called in `before` promises of its signals and of the state it led to. -/
structure CloseLaw (before : RdbgArbiter) (signals : List Signal) (last : RdbgArbiter) : Prop where
  /-- Only dependent cleanup starts. -/
  admits : ∀ id, .started id ∈ signals → (last.tickets id).dependent = true
  /-- A waiting user ticket leaves the queue by cancellation only. -/
  cancels : ∀ id ∈ before.queue, (before.tickets id).dependent = false →
    id ∈ last.queue ∨ (last.tickets id).cancelled
  returns : .closeReturned ∈ signals → last.active = none ∧ last.cleanupDebt = none ∧
    last.queue = [] ∧ (∀ id < last.admitted, (last.tickets id).phase = .settled) ∧
    ∀ id ∈ before.queue, (before.tickets id).dependent = false → (last.tickets id).cancelled

theorem closed_settled (sound : Sound arbiter) (shut : arbiter.closed = true)
    (bound : id < arbiter.admitted) : (arbiter.tickets id).phase = .settled := by
  obtain ⟨free, empty⟩ := sound.staffed.closed shut
  have unqueued := (sound.kept.queued id).not.1 (by rw [empty]; exact List.not_mem_nil)
  have unowned := (sound.kept.active id).not.1 (by simp [free])
  have waits : (arbiter.tickets id).phase ≠ .queued := fun phase => unqueued ⟨bound, phase⟩
  have owns : (arbiter.tickets id).phase.owning ≠ true := fun phase => unowned ⟨bound, phase⟩
  cases phase : (arbiter.tickets id).phase with
  | settled => rfl
  | queued => exact absurd phase waits
  | running =>
      rw [phase] at owns
      exact absurd rfl owns
  | unknown =>
      rw [phase] at owns
      exact absurd rfl owns
  | reconciling =>
      rw [phase] at owns
      exact absurd rfl owns

/-- The user tickets of the queue. -/
def userQueue (arbiter : RdbgArbiter) : List TicketId :=
  arbiter.queue.filter fun id => !(arbiter.tickets id).dependent

theorem mem_userQueue (member : id ∈ arbiter.queue)
    (user : (arbiter.tickets id).dependent = false) : id ∈ arbiter.userQueue :=
  List.mem_filter.2 ⟨member, by rw [user]; rfl⟩

theorem Barred.law {before : RdbgArbiter} {signals : List Signal}
    (barred : Barred before.userQueue signals arbiter) : CloseLaw before signals arbiter where
  admits id member := (barred.started id member).2
  cancels id member user := by
    rcases (barred.unserved id (mem_userQueue member user)).2 with waits | ⟨_, cancelled⟩
    · exact .inl waits
    · exact .inr cancelled
  returns := by
    intro ends
    have sound := barred.settles.sound
    have shut := barred.returned ends
    obtain ⟨free, empty⟩ := sound.staffed.closed shut
    refine ⟨free, barred.settles.paid shut, empty, fun id bound => closed_settled sound shut bound,
      fun id member user => ?_⟩
    rcases (barred.unserved id (mem_userQueue member user)).2 with waits | ⟨_, cancelled⟩
    · rw [empty] at waits
      cases waits
    · exact cancelled

/-- The call itself cancels user tickets or leaves them where they wait. -/
theorem close_barred (settles : Settles arbiter) {byWorker : Bool}
    (calls : Stepped setup arbiter (.close byWorker, sight) next emitted) :
    Barred arbiter.userQueue [] next := by
  have orderly : Orderly setup arbiter (.close byWorker, sight) := by
    refine ⟨?_, ?_⟩
    · rintro ⟨⟩
    · rintro ⟨⟩
  obtain ⟨_, effect⟩ := step_sound settles.sound calls
  refine ⟨step_settles settles orderly calls, ?_, ?_, ?_⟩
  · intro id member
    cases member
  · intro id waits
    obtain ⟨member, user⟩ := List.mem_filter.1 waits
    refine step_unserved settles.sound effect ?_ ⟨by simpa using user, .inl member⟩
    intro signal emits other popped
    cases step_origin calls with
    | quiet quiet =>
        rw [quiet.popped emits] at popped
        cases popped
    | popped taken _ _ _ _ => cases taken
    | returned signalled _ =>
        rw [signalled] at emits
        rw [List.mem_singleton.1 emits] at popped
        cases popped
  · intro ends
    cases ends

/-- In every orderly run, from a call of `close()` until that call has returned or raised. -/
theorem close_law {route : RouteToken} {before after last : RdbgArbiter}
    {events called later : List Signal} {byWorker : Bool}
    (run : Run (Stepped setup) (Orderly setup) (initial route) events before)
    (calls : Stepped setup before (.close byWorker, sight) after called)
    (rest : Run (Stepped setup) (Closes setup) after later last) :
    CloseLaw before later last := by
  have settles : Settles before := run.keeps (initial_settles route)
    fun settles orderly taken => step_settles settles orderly taken
  have barred : Barred before.userQueue later last :=
    rest.keeps_trace (close_barred settles calls)
      fun barred closes taken => step_barred barred closes taken
  exact barred.law

/-! ## Two runs -/

def noLease : Setup := ⟨none, fun name => name⟩

def unseen : Sight := ⟨none, 0⟩

def firstRoute : RouteToken := ⟨"runtime", 1, 0, "context"⟩

/-- The arbiter after some actions that nothing outside contributes to. -/
def following (arbiter : RdbgArbiter) (actions : List Action) : RdbgArbiter :=
  actions.foldl (fun arbiter action =>
    ((arbiter.step noLease unseen action).map Prod.fst).getD arbiter) arbiter

/-- A settled ticket left a cleanup, and a user ticket is dispatched behind it. -/
def loaded : RdbgArbiter :=
  (initial firstRoute).following [.submit firstRoute 1 false .adopted, .dispatch 0, .take,
    .port (.registerPostSettlementCleanup 2), .planReturned (.settlement 3 none), .conclude,
    .submit firstRoute 4 false .adopted, .dispatch 2]

theorem orderly_undue (undue : arbiter.closeDue = false)
    (unconfirmed : arbiter.confirms noLease unseen action = false) :
    Orderly noLease arbiter (action, unseen) := by
  refine ⟨fun _ due => ?_, fun confirmed => ?_⟩
  · rw [undue] at due
    cases due
  · rw [show arbiter.confirms noLease unseen action = false from unconfirmed] at confirmed
    cases confirmed

theorem loaded_run : ∃ events,
    Run (Stepped noLease) (Orderly noLease) (initial firstRoute) events loaded := by
  have run : Run (Stepped noLease) (Orderly noLease) (initial firstRoute) _ _ := .start
  have run := run.further (show Stepped noLease _
    (.submit firstRoute 1 false .adopted, unseen) _ _ from rfl) (orderly_undue rfl rfl)
  have run := run.further (show Stepped noLease _ (.dispatch 0, unseen) _ _ from rfl)
    (orderly_undue rfl rfl)
  have run := run.further (show Stepped noLease _ (.take, unseen) _ _ from rfl)
    (orderly_undue rfl rfl)
  have run := run.further (show Stepped noLease _
    (.port (.registerPostSettlementCleanup 2), unseen) _ _ from rfl) (orderly_undue rfl rfl)
  have run := run.further (show Stepped noLease _
    (.planReturned (.settlement 3 none), unseen) _ _ from rfl) (orderly_undue rfl rfl)
  have run := run.further (show Stepped noLease _ (.conclude, unseen) _ _ from rfl)
    (orderly_undue rfl rfl)
  have run := run.further (show Stepped noLease _
    (.submit firstRoute 4 false .adopted, unseen) _ _ from rfl) (orderly_undue rfl rfl)
  have run := run.further (show Stepped noLease _ (.dispatch 2, unseen) _ _ from rfl)
    (orderly_undue rfl rfl)
  exact ⟨_, run⟩

theorem loaded_user : 2 ∈ loaded.queue ∧ (loaded.tickets 2).dependent = false := by
  decide

/-- The `close()` that is not overtaken cancels the user ticket and returns. -/
theorem cleaned_close_law : ∃ last later, .closeReturned ∈ later ∧ CloseLaw loaded later last ∧
    (last.tickets 2).cancelled := by
  obtain ⟨events, run⟩ := loaded_run
  have calls : Stepped noLease loaded (.close false, unseen) _ _ := rfl
  have rest : Run (Stepped noLease) (Closes noLease) (loaded.following [.close false]) _ _ := .start
  have rest := rest.further (show Stepped noLease _ (.take, unseen) _ _ from rfl)
    ⟨orderly_undue rfl rfl, .inl rfl⟩
  have rest := rest.further (show Stepped noLease _ (.closeWakes, unseen) _ _ from rfl)
    ⟨⟨nofun, nofun⟩, .inl rfl⟩
  have rest := rest.further (show Stepped noLease _
    (.planReturned (.settlement 5 none), unseen) _ _ from rfl) ⟨orderly_undue rfl rfl, .inl rfl⟩
  have rest := rest.further (show Stepped noLease _ (.conclude, unseen) _ _ from rfl)
    ⟨orderly_undue rfl rfl, .inl rfl⟩
  have rest := rest.further (show Stepped noLease _ (.closeWakes, unseen) _ _ from rfl)
    ⟨⟨nofun, nofun⟩, .inl rfl⟩
  have rest := rest.further (show Stepped noLease _ (.take, unseen) _ _ from rfl)
    ⟨orderly_undue rfl rfl, .inr rfl⟩
  have rest := rest.further (show Stepped noLease _ (.closeReturns, unseen) _ _ from rfl)
    ⟨orderly_undue rfl rfl, .inr rfl⟩
  have law := close_law run calls rest
  have returned := law.returns (by simp)
  exact ⟨_, _, by simp, law, returned.2.2.2.2 2 loaded_user.1 loaded_user.2⟩

/-- Some run up to `before` and on through a `close()` does not keep the promise. -/
def Broken (before : RdbgArbiter) : Prop :=
  ∃ events after called later last,
    Run (Stepped noLease) (fun _ _ => True) (initial firstRoute) events before ∧
      Stepped noLease before (.close false, unseen) after called ∧
      Run (Stepped noLease) (fun arbiter _ => arbiter.closing = true ∨ arbiter.closed = true)
        after later last ∧
      ¬CloseLaw before later last

def serverTarget : TargetId := ⟨1, "base", some 1, none, none, ""⟩

def seen : Sight := ⟨some ⟨serverTarget, "Server"⟩, 0⟩

def absence : TerminationEvidence := .server serverTarget ⟨serverTarget, serverTarget⟩

/-- A cleanup failed, and the target of its retry is confirmed terminated. -/
def owing : RdbgArbiter :=
  ([(.submit firstRoute 1 false .adopted), .dispatch 0, .take,
    .port (.registerPostSettlementCleanup 2), .planReturned (.settlement 3 none), .conclude,
    .take, .planRaised (.raised 4), .conclude, .retryPostSettlementCleanup 0, .take,
    .port (.call .start), .port .enter, .port (.answered (.pending ⟨5, serverTarget, 6⟩)),
    .planRaised (.raised 7), .conclude,
    .retireTerminatedTarget 2 firstRoute absence] : List Action).foldl (fun arbiter action =>
      ((arbiter.step noLease seen action).map Prod.fst).getD arbiter) (initial firstRoute)

theorem owing_run : ∃ events,
    Run (Stepped noLease) (fun _ _ => True) (initial firstRoute) events owing := by
  have run : Run (Stepped noLease) (fun _ _ => True) (initial firstRoute) _ _ := .start
  have run := run.further (show Stepped noLease _
    (.submit firstRoute 1 false .adopted, seen) _ _ from rfl) trivial
  have run := run.further (show Stepped noLease _ (.dispatch 0, seen) _ _ from rfl) trivial
  have run := run.further (show Stepped noLease _ (.take, seen) _ _ from rfl) trivial
  have run := run.further (show Stepped noLease _
    (.port (.registerPostSettlementCleanup 2), seen) _ _ from rfl) trivial
  have run := run.further (show Stepped noLease _
    (.planReturned (.settlement 3 none), seen) _ _ from rfl) trivial
  have run := run.further (show Stepped noLease _ (.conclude, seen) _ _ from rfl) trivial
  have run := run.further (show Stepped noLease _ (.take, seen) _ _ from rfl) trivial
  have run := run.further (show Stepped noLease _ (.planRaised (.raised 4), seen) _ _ from rfl)
    trivial
  have run := run.further (show Stepped noLease _ (.conclude, seen) _ _ from rfl) trivial
  have run := run.further (show Stepped noLease _ (.retryPostSettlementCleanup 0, seen) _ _ from rfl)
    trivial
  have run := run.further (show Stepped noLease _ (.take, seen) _ _ from rfl) trivial
  have run := run.further (show Stepped noLease _ (.port (.call .start), seen) _ _ from rfl) trivial
  have run := run.further (show Stepped noLease _ (.port .enter, seen) _ _ from rfl) trivial
  have run := run.further (show Stepped noLease _
    (.port (.answered (.pending ⟨5, serverTarget, 6⟩)), seen) _ _ from rfl) trivial
  have run := run.further (show Stepped noLease _ (.planRaised (.raised 7), seen) _ _ from rfl)
    trivial
  have run := run.further (show Stepped noLease _ (.conclude, seen) _ _ from rfl) trivial
  have run := run.further (show Stepped noLease _
    (.retireTerminatedTarget 2 firstRoute absence, seen) _ _ from rfl) trivial
  exact ⟨_, run⟩

/-- A worker that overtakes `close()` starts the user ticket; a termination leaves the debt. -/
theorem overtaken_close_breaks_law : Broken loaded ∧ Broken owing := by
  constructor
  · obtain ⟨events, run⟩ := loaded_run
    have rest : Run (Stepped noLease) (fun arbiter _ => arbiter.closing = true ∨
      arbiter.closed = true) (loaded.following [.close false]) _ _ := .start
    have rest := rest.further (show Stepped noLease _ (.take, unseen) _ _ from rfl) (.inl rfl)
    have rest := rest.further (show Stepped noLease _ (.closeWakes, unseen) _ _ from rfl) (.inl rfl)
    have rest := rest.further (show Stepped noLease _
      (.planReturned (.settlement 5 none), unseen) _ _ from rfl) (.inl rfl)
    have rest := rest.further (show Stepped noLease _ (.conclude, unseen) _ _ from rfl) (.inl rfl)
    have rest := rest.further (show Stepped noLease _ (.take, unseen) _ _ from rfl) (.inl rfl)
    refine ⟨events, _, _, _, _, run.weaken fun _ _ _ => trivial, rfl, rest, fun law => ?_⟩
    have started := law.admits 2 (by decide)
    cases started
  · obtain ⟨events, run⟩ := owing_run
    have rest : Run (Stepped noLease) (fun arbiter _ => arbiter.closing = true ∨
      arbiter.closed = true) (owing.following [.close false]) _ _ := .start
    have rest := rest.further (show Stepped noLease _ (.take, unseen) _ _ from rfl) (.inr rfl)
    have rest := rest.further (show Stepped noLease _ (.closeReturns, unseen) _ _ from rfl)
      (.inr rfl)
    refine ⟨events, _, _, _, _, run, rfl, rest, fun law => ?_⟩
    have paid := (law.returns (by decide)).2.1
    cases paid

end RdbgArbiter

end OnecRuntime.Arbiter
