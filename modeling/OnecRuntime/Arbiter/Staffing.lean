import OnecRuntime.Arbiter.Effects

/-!
# The slot and those who act for it

The second half of the invariant ties the phase of the active ticket to the thread or
the schedule that acts for it, and says what a closed and a closing arbiter look like.
-/

namespace OnecRuntime.Arbiter

namespace RdbgArbiter

variable {setup : Setup} {sight : Sight} {arbiter next : RdbgArbiter} {emitted : List Signal}
  {id : TicketId}

/-- The slot of the backend. -/
def teardown (arbiter : RdbgArbiter) : Backend → Option TeardownAttempt
  | .server => arbiter.serverTeardown
  | .file => arbiter.fileTeardown

structure Staffed (arbiter : RdbgArbiter) : Prop where
  holder : ∀ {id}, arbiter.worker.holder = some id →
    arbiter.active = some id ∧ (arbiter.tickets id).phase = .running
  running : ∀ {id}, arbiter.active = some id → (arbiter.tickets id).phase = .running →
    arbiter.worker.holder = some id ∨ arbiter.worker = .crashed
  reconciling : ∀ {plan}, arbiter.reconciliation = some plan →
    ∃ id, arbiter.active = some id ∧ (arbiter.tickets id).phase = .reconciling
  scheduled : ∀ {id}, arbiter.active = some id → (arbiter.tickets id).phase = .reconciling →
    ∃ plan, arbiter.reconciliation = some plan
  torn : ∀ {backend attempt}, arbiter.teardown backend = some attempt →
    attempt.backend = backend ∧ arbiter.active = some attempt.ticket ∧
      (arbiter.tickets attempt.ticket).phase = .unknown
  tearing : ∀ {attempt}, arbiter.worker = .tearing attempt →
    arbiter.teardown attempt.backend = some attempt
  closed : arbiter.closed = true → arbiter.active = none ∧ arbiter.queue = []
  closer : ∀ {closer}, arbiter.closer = some closer → closer.ticket < arbiter.admitted ∧
    (arbiter.tickets closer.ticket).dependent = true

/-- The whole invariant. -/
structure Sound (arbiter : RdbgArbiter) : Prop where
  kept : Kept arbiter
  staffed : Staffed arbiter

theorem initial_sound (route : RouteToken) : Sound (initial route) where
  kept := by
    refine ⟨fun id => ?_, List.nodup_nil, fun id => ?_, fun id bound => ?_⟩
    · simp [initial]
    · simp [initial]
    · cases bound
  staffed := by
    refine ⟨?_, ?_, ?_, ?_, ?_, ?_, ?_, ?_⟩
    · rintro id ⟨⟩
    · rintro id ⟨⟩
    · rintro plan ⟨⟩
    · rintro id ⟨⟩
    · rintro backend attempt slot
      cases backend <;> cases slot
    · rintro attempt ⟨⟩
    · rintro ⟨⟩
    · rintro closer ⟨⟩

/-- A `close()` waits for a dependent cleanup. -/
def Awaits (arbiter : RdbgArbiter) : Prop :=
  ∀ closer, arbiter.closer = some closer → closer.ticket < arbiter.admitted ∧
    (arbiter.tickets closer.ticket).dependent = true

/-- No thread runs a plan or tears a target down. -/
def Worker.rests : Worker → Bool
  | .waiting => true
  | .exited => true
  | .crashed => true
  | _ => false

theorem Worker.rests_unheld {worker : Worker} (rests : Worker.rests worker = true) :
    worker.holder = none ∧ ∀ attempt, worker ≠ .tearing attempt := by
  cases worker with
  | waiting => exact ⟨rfl, fun _ => Worker.noConfusion⟩
  | exited => exact ⟨rfl, fun _ => Worker.noConfusion⟩
  | crashed => exact ⟨rfl, fun _ => Worker.noConfusion⟩
  | planning ticket reconciling calls => cases rests
  | finalizing ticket reconciling nextRoute calls => cases rests
  | concluding ticket reconciling conclusion => cases rests
  | tearing attempt => cases rests

/-- The slot is free. -/
theorem Staffed.free (free : arbiter.active = none) (rests : Worker.rests arbiter.worker = true)
    (unscheduled : arbiter.reconciliation = none)
    (slots : ∀ backend, arbiter.teardown backend = none)
    (empty : arbiter.closed = true → arbiter.queue = []) (awaits : Awaits arbiter) :
    Staffed arbiter := by
  obtain ⟨unheld, calm⟩ := Worker.rests_unheld rests
  refine ⟨?_, ?_, ?_, ?_, ?_, ?_, fun shut => ⟨free, empty shut⟩, fun waits => awaits _ waits⟩
  · intro id holds
    rw [unheld] at holds
    cases holds
  · intro id held
    rw [free] at held
    cases held
  · intro plan due
    rw [unscheduled] at due
    cases due
  · intro id held
    rw [free] at held
    cases held
  · intro backend attempt slot
    rw [slots] at slot
    cases slot
  · intro attempt tears
    exact absurd tears (calm attempt)

/-- The worker runs the plan of the active ticket, or died of its settlement. -/
theorem Staffed.works (held : arbiter.active = some id)
    (running : (arbiter.tickets id).phase = .running)
    (worker : arbiter.worker.holder = some id ∨ arbiter.worker = .crashed)
    (unscheduled : arbiter.reconciliation = none)
    (slots : ∀ backend, arbiter.teardown backend = none) (opened : arbiter.closed = false)
    (awaits : Awaits arbiter) : Staffed arbiter := by
  refine ⟨?_, ?_, ?_, ?_, ?_, ?_, ?_, fun waits => awaits _ waits⟩
  · intro other holds
    rcases worker with mine | crashed
    · rw [mine] at holds
      cases holds
      exact ⟨held, running⟩
    · rw [crashed] at holds
      cases holds
  · intro other active _
    rw [held] at active
    cases active
    exact worker
  · intro plan due
    rw [unscheduled] at due
    cases due
  · intro other active phase
    rw [held] at active
    cases active
    rw [running] at phase
    cases phase
  · intro backend attempt slot
    rw [slots] at slot
    cases slot
  · intro attempt tears
    rcases worker with mine | crashed
    · rw [tears] at mine
      cases mine
    · rw [crashed] at tears
      cases tears
  · intro shut
    rw [opened] at shut
    cases shut

/-- The outcome of the active ticket is unknown. -/
theorem Staffed.retains (held : arbiter.active = some id)
    (unknown : (arbiter.tickets id).phase = .unknown) (unheld : arbiter.worker.holder = none)
    (unscheduled : arbiter.reconciliation = none)
    (slots : ∀ backend attempt, arbiter.teardown backend = some attempt →
      attempt.backend = backend ∧ attempt.ticket = id)
    (tearing : ∀ attempt, arbiter.worker = .tearing attempt →
      arbiter.teardown attempt.backend = some attempt)
    (opened : arbiter.closed = false) (awaits : Awaits arbiter) : Staffed arbiter := by
  refine ⟨?_, ?_, ?_, ?_, ?_, fun tears => tearing _ tears, ?_, fun waits => awaits _ waits⟩
  · intro other holds
    rw [unheld] at holds
    cases holds
  · intro other active running
    rw [held] at active
    cases active
    rw [unknown] at running
    cases running
  · intro plan due
    rw [unscheduled] at due
    cases due
  · intro other active phase
    rw [held] at active
    cases active
    rw [unknown] at phase
    cases phase
  · intro backend attempt slot
    obtain ⟨which, mine⟩ := slots backend attempt slot
    rw [mine]
    exact ⟨which, held, unknown⟩
  · intro shut
    rw [opened] at shut
    cases shut

/-- A reconciliation of the active ticket is scheduled. -/
theorem Staffed.reconciles (held : arbiter.active = some id)
    (phase : (arbiter.tickets id).phase = .reconciling)
    (rests : Worker.rests arbiter.worker = true) {plan : Plan}
    (due : arbiter.reconciliation = some plan)
    (slots : ∀ backend, arbiter.teardown backend = none) (opened : arbiter.closed = false)
    (awaits : Awaits arbiter) : Staffed arbiter := by
  obtain ⟨unheld, calm⟩ := Worker.rests_unheld rests
  refine ⟨?_, ?_, fun _ => ⟨id, held, phase⟩, fun _ _ => ⟨plan, due⟩, ?_, ?_, ?_,
    fun waits => awaits _ waits⟩
  · intro other holds
    rw [unheld] at holds
    cases holds
  · intro other active running
    rw [held] at active
    cases active
    rw [phase] at running
    cases running
  · intro backend attempt slot
    rw [slots] at slot
    cases slot
  · intro attempt tears
    exact absurd tears (calm attempt)
  · intro shut
    rw [opened] at shut
    cases shut

/-- Nothing about the slot changes, and the tickets that matter stand as before. -/
structure Frames (arbiter next : RdbgArbiter) : Prop where
  active : next.active = arbiter.active
  worker : next.worker = arbiter.worker
  reconciliation : next.reconciliation = arbiter.reconciliation
  teardown : next.teardown = arbiter.teardown
  closer : next.closer = arbiter.closer
  closed : next.closed = arbiter.closed
  emptied : arbiter.closed = true → arbiter.queue = [] → next.queue = []
  phase : ∀ {id}, arbiter.active = some id →
    (next.tickets id).phase = (arbiter.tickets id).phase

theorem Frames.staffed (frames : Frames arbiter next) (effect : Effect arbiter next emitted)
    (staffed : Staffed arbiter) : Staffed next where
  holder := by
    intro id holds
    rw [frames.worker] at holds
    obtain ⟨held, running⟩ := staffed.holder holds
    exact ⟨frames.active.trans held, (frames.phase held).trans running⟩
  running := by
    intro id held running
    rw [frames.active] at held
    rw [frames.phase held] at running
    rw [frames.worker]
    exact staffed.running held running
  reconciling := by
    intro plan due
    rw [frames.reconciliation] at due
    obtain ⟨id, held, phase⟩ := staffed.reconciling due
    exact ⟨id, frames.active.trans held, (frames.phase held).trans phase⟩
  scheduled := by
    intro id held phase
    rw [frames.active] at held
    rw [frames.phase held] at phase
    rw [frames.reconciliation]
    exact staffed.scheduled held phase
  torn := by
    intro backend attempt slot
    rw [frames.teardown] at slot
    obtain ⟨which, held, unknown⟩ := staffed.torn slot
    exact ⟨which, frames.active.trans held, (frames.phase held).trans unknown⟩
  tearing := by
    intro attempt tears
    rw [frames.worker] at tears
    rw [frames.teardown]
    exact staffed.tearing tears
  closed := by
    intro shut
    rw [frames.closed] at shut
    obtain ⟨free, empty⟩ := staffed.closed shut
    exact ⟨frames.active.trans free, frames.emptied shut empty⟩
  closer := by
    intro closer waits
    rw [frames.closer] at waits
    obtain ⟨bound, dependent⟩ := staffed.closer waits
    exact ⟨Nat.lt_of_lt_of_le bound effect.grown, (effect.dependent bound).trans dependent⟩

theorem Frames.refl (arbiter : RdbgArbiter) : Frames arbiter arbiter :=
  ⟨rfl, rfl, rfl, rfl, rfl, rfl, fun _ empty => empty, fun _ => rfl⟩

/-- Cancelling queued tickets does not touch the slot. -/
theorem Clears.phase (clears : Clears arbiter next) (kept : Kept arbiter)
    (held : arbiter.active = some id) :
    (next.tickets id).phase = (arbiter.tickets id).phase := by
  rcases clears.edge id with ⟨member, _⟩ | same
  · exact absurd member (kept.active_not_queued held)
  · exact congrArg Standing.phase same

/-! ## Client calls -/

theorem submit_frames (sound : Sound arbiter) (route : RouteToken) (plan : Plan)
    (finalizer : Bool) (adoption : Adoption) :
    Frames arbiter (arbiter.submit route plan finalizer adoption).1 := by
  have older : ∀ {id}, arbiter.active = some id → id ≠ arbiter.admitted := fun held =>
    Nat.ne_of_lt ((sound.kept.active _).1 held).1
  unfold submit
  split
  · exact .refl _
  · next shut =>
      have opened : arbiter.closed ≠ true := by
        intro closed
        simp [closed] at shut
      split
      · exact .refl _
      · split
        · exact .refl _
        · cases adoption with
          | adopted =>
              refine ⟨rfl, rfl, rfl, rfl, rfl, rfl, fun closed => absurd closed opened, ?_⟩
              intro id held
              exact congrArg ExecutionTicket.phase (Function.update_of_ne (older held) _ _)
          | raised exception =>
              refine ⟨rfl, rfl, rfl, rfl, rfl, rfl, fun _ empty => empty, ?_⟩
              intro id held
              refine congrArg ExecutionTicket.phase ?_
              exact (Function.update_of_ne (older held) _ _).trans
                (Function.update_of_ne (older held) _ _)

theorem tryHeartbeat_frames (sound : Sound arbiter) : Frames arbiter arbiter.tryHeartbeat.1 := by
  unfold tryHeartbeat
  split
  · exact .refl _
  · next idle =>
      have opened : arbiter.closed ≠ true := by
        intro closed
        simp [closed] at idle
      refine ⟨rfl, rfl, rfl, rfl, rfl, rfl, fun closed => absurd closed opened, ?_⟩
      intro id held
      refine congrArg ExecutionTicket.phase (Function.update_of_ne ?_ _ _)
      exact Nat.ne_of_lt ((sound.kept.active _).1 held).1

theorem dispatch_frames (arbiter : RdbgArbiter) (id : TicketId) :
    Frames arbiter (arbiter.dispatch id).1 := by
  unfold dispatch
  split
  · exact .refl _
  · refine ⟨rfl, rfl, rfl, rfl, rfl, rfl, fun _ empty => empty, ?_⟩
    intro other _
    exact congrArg Standing.phase ((update_alike arbiter id
      (fun ticket => { ticket with ready := true }) rfl rfl).standing other)

theorem cancel_frames (sound : Sound arbiter) (bound : id < arbiter.admitted)
    (waits : (arbiter.tickets id).phase = .queued) : Frames arbiter (arbiter.cancel id) := by
  refine ⟨rfl, rfl, rfl, rfl, rfl, rfl, ?_, ?_⟩
  · intro _ empty
    show arbiter.queue.erase id = []
    rw [empty]
    rfl
  · intro other held
    have distinct : other ≠ id := by
      rintro rfl
      exact sound.kept.active_not_queued held ((sound.kept.queued other).2 ⟨bound, waits⟩)
    exact congrArg ExecutionTicket.phase (Function.update_of_ne distinct _ _)

theorem cancelQueued_frames (sound : Sound arbiter) (bound : id < arbiter.admitted) :
    Frames arbiter (arbiter.cancelQueued id).1 := by
  unfold cancelQueued
  split
  · exact .refl _
  · next waits => exact cancel_frames sound bound (not_not.1 waits)

theorem retry_frames (sound : Sound arbiter) (id : TicketId) :
    Frames arbiter (arbiter.retryPostSettlementCleanup id).1 := by
  unfold retryPostSettlementCleanup
  dsimp only
  split
  · split
    · exact .refl _
    · split
      · exact .refl _
      · next idle =>
          have opened : arbiter.closed ≠ true := by
            intro closed
            simp [closed] at idle
          refine ⟨rfl, rfl, rfl, rfl, rfl, rfl, fun closed => absurd closed opened, ?_⟩
          intro other held
          exact congrArg Standing.phase
            (queueCleanup_standing _ ((sound.kept.active _).1 held).1).1
  · exact .refl _

theorem Frames.trans {middle : RdbgArbiter} (first : Frames arbiter middle)
    (second : Frames middle next) : Frames arbiter next where
  active := second.active.trans first.active
  worker := second.worker.trans first.worker
  reconciliation := second.reconciliation.trans first.reconciliation
  teardown := second.teardown.trans first.teardown
  closer := second.closer.trans first.closer
  closed := second.closed.trans first.closed
  emptied closed empty := second.emptied (first.closed.trans closed) (first.emptied closed empty)
  phase held := (second.phase (first.active.trans held)).trans (first.phase held)

/-- Tickets that are cancelled with a change of the queue only. -/
theorem cancelAll_frames {ids rest : List TicketId} (kept : Kept arbiter)
    (split : arbiter.queue = ids ++ rest) :
    Frames arbiter { arbiter.cancelAll ids with queue := rest } := by
  have clears := cancelAll_clears kept split
  have emptied : arbiter.queue = [] → rest = [] := by
    intro empty
    rw [empty] at split
    exact (List.append_eq_nil_iff.1 split.symm).2
  rw [cancelAll_eq] at clears ⊢
  exact ⟨rfl, rfl, rfl, rfl, rfl, rfl, fun _ => emptied, fun held => clears.phase kept held⟩

theorem drain_frames (kept : Kept arbiter) : Frames arbiter arbiter.drain :=
  cancelAll_frames kept (List.append_nil _).symm

/-- An attempt is scheduled in a free slot for the active ticket, whose outcome is unknown. -/
theorem schedule_staffed (staffed : Staffed arbiter) {attempt : TeardownAttempt}
    (held : arbiter.active = some attempt.ticket)
    (unknown : (arbiter.tickets attempt.ticket).phase = .unknown)
    (free : arbiter.teardown attempt.backend = none) : Staffed (arbiter.schedule attempt) := by
  have standing := (schedule_alike arbiter attempt).standing
  have slot : ∀ backend, (arbiter.schedule attempt).teardown backend =
      if backend = attempt.backend then some attempt else arbiter.teardown backend := by
    intro backend
    unfold schedule
    cases which : attempt.backend with
    | server => cases backend <;> rfl
    | file => cases backend <;> rfl
  obtain ⟨tickets, server, file, same, _⟩ := schedule_alike arbiter attempt
  have phase : ∀ id, ((arbiter.schedule attempt).tickets id).phase = (arbiter.tickets id).phase :=
    fun id => congrArg Standing.phase (standing id)
  have dependent : ∀ id, ((arbiter.schedule attempt).tickets id).dependent =
      (arbiter.tickets id).dependent := fun id => congrArg Option.isSome
    (congrArg Standing.parent (standing id))
  have active : (arbiter.schedule attempt).active = arbiter.active := by rw [same]
  have worker : (arbiter.schedule attempt).worker = arbiter.worker := by rw [same]
  have reconciliation : (arbiter.schedule attempt).reconciliation = arbiter.reconciliation := by
    rw [same]
  refine ⟨?_, ?_, ?_, ?_, ?_, ?_, ?_, ?_⟩
  · intro id holds
    rw [worker] at holds
    rw [active, phase]
    exact staffed.holder holds
  · intro id
    rw [active, phase, worker]
    exact staffed.running
  · intro plan
    rw [reconciliation, active]
    simp only [phase]
    exact staffed.reconciling
  · intro id
    rw [active, phase, reconciliation]
    exact staffed.scheduled
  · intro backend other taken
    rw [slot] at taken
    rw [active, phase]
    split at taken
    · next which =>
        cases taken
        exact ⟨which.symm, held, unknown⟩
    · exact staffed.torn taken
  · intro other tears
    rw [worker] at tears
    have taken := staffed.tearing tears
    rw [slot, if_neg]
    · exact taken
    · intro which
      rw [which, free] at taken
      cases taken
  · rw [same]
    exact staffed.closed
  · intro closer
    rw [same]
    intro waits
    have known := staffed.closer waits
    rw [← dependent, same] at known
    exact known

theorem teardownDue_iff : arbiter.teardownDue id = true ↔
    (arbiter.tickets id).stopRequested = true ∧ (arbiter.tickets id).phase = .unknown ∧
      arbiter.active = some id ∧ arbiter.reconciliation = none ∧
      arbiter.serverTeardown = none ∧ arbiter.fileTeardown = none := by
  simp [teardownDue, and_assoc]

theorem scheduleAutoStop_staffed (staffed : Staffed arbiter) (id : TicketId) :
    Staffed (arbiter.scheduleAutoStop setup sight id) := by
  have server : Staffed (arbiter.scheduleAutoServerStop sight id) := by
    unfold scheduleAutoServerStop
    split
    · next due =>
        obtain ⟨_, unknown, held, _, free, _⟩ := teardownDue_iff.1 due
        split
        · exact schedule_staffed staffed held unknown free
        · exact staffed
    · exact staffed
  unfold scheduleAutoStop scheduleAutoFileStop
  split
  · split
    · next due =>
        simp only [Bool.and_eq_true] at due
        obtain ⟨_, unknown, held, _, _, free⟩ := teardownDue_iff.1 due.1
        exact schedule_staffed server held unknown free
    · exact server
  · exact server

theorem requestStop_staffed (sound : Sound arbiter) (bound : id < arbiter.admitted) :
    Staffed (arbiter.requestStop setup sight id).1 := by
  unfold requestStop
  split
  · exact sound.staffed
  · next waits =>
      have effect : Effect arbiter (arbiter.cancel id) [] := cancel_effect sound.kept bound waits
      exact (cancel_frames sound bound waits).staffed effect sound.staffed
  · split
    · exact sound.staffed
    · split
      · exact scheduleAutoStop_staffed sound.staffed id
      · have marked := update_alike arbiter id
          (fun ticket => { ticket with stopRequested := true }) rfl rfl
        have kept := marked.placed sound.kept
        have labelled : Frames arbiter
            (arbiter.update id fun ticket => { ticket with stopRequested := true }) :=
          ⟨rfl, rfl, rfl, rfl, rfl, rfl, fun _ empty => empty,
            fun _ => congrArg Standing.phase (marked.standing _)⟩
        have frames := labelled.trans (drain_frames kept)
        have effect : Effect arbiter
            (arbiter.update id fun ticket => { ticket with stopRequested := true }).drain [] :=
          ((drain_clears kept).after marked).effect []
        exact scheduleAutoStop_staffed (frames.staffed effect sound.staffed) id

end RdbgArbiter

end OnecRuntime.Arbiter
