import OnecRuntime.Arbiter.Staffing

/-!
# Every step keeps the invariant

The calls and the worker's sections, one after the other, and the step that they make up.
-/

namespace OnecRuntime.Arbiter

namespace RdbgArbiter

variable {setup : Setup} {sight : Sight} {arbiter next : RdbgArbiter} {emitted : List Signal}
  {id : TicketId}

/-! ## Calls about the active ticket -/

/-- No thread works for a ticket whose phase is not running. -/
theorem Staffed.unheld (staffed : Staffed arbiter) (held : arbiter.active = some id)
    (phase : (arbiter.tickets id).phase ≠ .running) : arbiter.worker.holder = none := by
  cases holds : arbiter.worker.holder with
  | none => rfl
  | some other =>
      obtain ⟨active, running⟩ := staffed.holder holds
      rw [held] at active
      cases active
      exact absurd running phase

theorem Staffed.opened (staffed : Staffed arbiter) (held : arbiter.active = some id) :
    arbiter.closed = false := by
  cases shut : arbiter.closed with
  | false => rfl
  | true =>
      rw [(staffed.closed shut).1] at held
      cases held

/-- Where a ticket works, nothing is scheduled. -/
theorem Staffed.unscheduled (staffed : Staffed arbiter) (held : arbiter.active = some id)
    (phase : (arbiter.tickets id).phase ≠ .reconciling) : arbiter.reconciliation = none := by
  cases due : arbiter.reconciliation with
  | none => rfl
  | some plan =>
      obtain ⟨other, active, reconciling⟩ := staffed.reconciling due
      rw [held] at active
      cases active
      exact absurd reconciling phase

theorem Staffed.untorn (staffed : Staffed arbiter) (held : arbiter.active = some id)
    (phase : (arbiter.tickets id).phase ≠ .unknown) (backend : Backend) :
    arbiter.teardown backend = none := by
  cases slot : arbiter.teardown backend with
  | none => rfl
  | some attempt =>
      obtain ⟨_, active, unknown⟩ := staffed.torn slot
      rw [held] at active
      cases active
      exact absurd unknown phase

/-- With both slots empty and no plan running the worker rests. -/
theorem Staffed.rests (staffed : Staffed arbiter) (unheld : arbiter.worker.holder = none)
    (slots : ∀ backend, arbiter.teardown backend = none) :
    Worker.rests arbiter.worker = true := by
  cases worker : arbiter.worker with
  | waiting => rfl
  | exited => rfl
  | crashed => rfl
  | planning ticket reconciling calls =>
      rw [worker] at unheld
      cases unheld
  | finalizing ticket reconciling nextRoute calls =>
      rw [worker] at unheld
      cases unheld
  | concluding ticket reconciling conclusion =>
      rw [worker] at unheld
      cases unheld
  | tearing attempt =>
      have slot := staffed.tearing worker
      rw [slots] at slot
      cases slot

/-- Nobody acts for a free slot. -/
theorem Staffed.vacant (staffed : Staffed arbiter) (free : arbiter.active = none) :
    arbiter.reconciliation = none ∧ (∀ backend, arbiter.teardown backend = none) ∧
      Worker.rests arbiter.worker = true := by
  have unheld : arbiter.worker.holder = none := by
    cases holds : arbiter.worker.holder with
    | none => rfl
    | some id =>
        have held := (staffed.holder holds).1
        rw [free] at held
        cases held
  have unscheduled : arbiter.reconciliation = none := by
    cases due : arbiter.reconciliation with
    | none => rfl
    | some plan =>
        obtain ⟨id, held, _⟩ := staffed.reconciling due
        rw [free] at held
        cases held
  have slots : ∀ backend, arbiter.teardown backend = none := by
    intro backend
    cases slot : arbiter.teardown backend with
    | none => rfl
    | some attempt =>
        obtain ⟨_, held, _⟩ := staffed.torn slot
        rw [free] at held
        cases held
  exact ⟨unscheduled, slots, staffed.rests unheld slots⟩

theorem Staffed.awaits (staffed : Staffed arbiter) (effect : Effect arbiter next emitted)
    (same : next.closer = arbiter.closer) : Awaits next := by
  intro closer waits
  rw [same] at waits
  obtain ⟨bound, dependent⟩ := staffed.closer waits
  exact ⟨Nat.lt_of_lt_of_le bound effect.grown, (effect.dependent bound).trans dependent⟩

theorem unknownOwner_slots (owner : arbiter.unknownOwner id = true) (backend : Backend) :
    arbiter.teardown backend = none := by
  obtain ⟨_, _, _, server, file⟩ := unknownOwner_iff.1 owner
  cases backend with
  | server => exact server
  | file => exact file

theorem reconcile_staffed (sound : Sound arbiter) (id : TicketId) (plan : Plan) :
    Staffed (arbiter.reconcile id plan).1 := by
  have effect : Effect arbiter (arbiter.reconcile id plan).1 [] :=
    reconcile_effect sound.kept id plan
  unfold reconcile at effect ⊢
  split
  · exact sound.staffed
  · next owner =>
      rw [if_neg owner] at effect
      simp only [Bool.not_eq_true', Bool.not_eq_false] at owner
      obtain ⟨held, unknown, _⟩ := unknownOwner_iff.1 owner
      have idle : (arbiter.tickets id).phase ≠ .running := by
        rw [unknown]
        exact Phase.noConfusion
      have slots := unknownOwner_slots owner
      have rests := sound.staffed.rests (sound.staffed.unheld held idle) slots
      have phase : (Function.update arbiter.tickets id
          { arbiter.tickets id with phase := .reconciling } id).phase = .reconciling := by
        rw [Function.update_self]
      exact Staffed.reconciles held phase rests rfl slots (sound.staffed.opened held)
        (sound.staffed.awaits effect rfl)

theorem teardownFencedServerTarget_staffed (sound : Sound arbiter) (id : TicketId)
    (route : RouteToken) (graceValid : Bool) :
    Staffed (arbiter.teardownFencedServerTarget sight id route graceValid).1 := by
  unfold teardownFencedServerTarget
  dsimp only
  split
  · exact sound.staffed
  · split
    · exact sound.staffed
    · split
      · exact sound.staffed
      · split
        · exact sound.staffed
        · next owner =>
            simp only [Bool.or_eq_true, not_or, decide_eq_true_eq, not_not] at owner
            obtain ⟨⟨⟨⟨held, unknown⟩, _⟩, _⟩, free⟩ := owner
            split
            · exact sound.staffed
            · next expected _ =>
                have empty : arbiter.serverTeardown = none := by simpa using free
                exact schedule_staffed sound.staffed
                  (show arbiter.active = some (arbiter.serverAttempt id expected).ticket from held)
                  unknown empty

theorem teardownFencedFileTarget_staffed (sound : Sound arbiter) (id : TicketId)
    (route : RouteToken) (graceValid : Bool) :
    Staffed (arbiter.teardownFencedFileTarget setup sight id route graceValid).1 := by
  unfold teardownFencedFileTarget
  dsimp only
  split
  · exact sound.staffed
  · split
    · exact sound.staffed
    · split
      · exact sound.staffed
      · split
        · exact sound.staffed
        · next owner =>
            simp only [Bool.or_eq_true, not_or, Bool.not_eq_true', Bool.not_eq_false] at owner
            obtain ⟨held, unknown, _⟩ := unknownOwner_iff.1 owner.1
            split
            · exact sound.staffed
            · split
              · exact sound.staffed
              · next lease _ _ =>
                  have empty := unknownOwner_slots owner.1 .file
                  exact schedule_staffed sound.staffed
                    (show arbiter.active = some (arbiter.fileAttempt id lease).ticket from held)
                    unknown empty

theorem retire_staffed (sound : Sound arbiter) (owner : arbiter.unknownOwner id = true)
    (evidence : TerminationEvidence) : Staffed (arbiter.retire id evidence) := by
  obtain ⟨held, unknown, unscheduled, _⟩ := unknownOwner_iff.1 owner
  have effect : Effect arbiter (arbiter.retire id evidence) [] :=
    retire_effect sound.kept rfl rfl rfl rfl held unknown evidence
  have idle : (arbiter.tickets id).phase ≠ .running := by
    rw [unknown]
    exact Phase.noConfusion
  have slots := unknownOwner_slots owner
  have rests := sound.staffed.rests (sound.staffed.unheld held idle) slots
  have worker : (arbiter.retire id evidence).worker = arbiter.worker := by
    simp [retire, drain, settle, update]
  have reconciliation : (arbiter.retire id evidence).reconciliation = none := by
    simp [retire, drain, settle, update, unscheduled]
  have teardown : ∀ backend, (arbiter.retire id evidence).teardown backend = none := by
    intro backend
    rw [← slots backend]
    cases backend with
    | server => simp [teardown, retire, drain, settle, update]
    | file => simp [teardown, retire, drain, settle, update]
  have closer : (arbiter.retire id evidence).closer = arbiter.closer := by
    simp [retire, drain, settle, update]
  rw [← worker] at rests
  exact Staffed.free rfl rests reconciliation teardown (fun _ => rfl)
    (sound.staffed.awaits effect closer)

theorem retireTerminatedTarget_staffed (sound : Sound arbiter) (id : TicketId)
    (route : RouteToken) (evidence : TerminationEvidence) :
    Staffed (arbiter.retireTerminatedTarget setup sight id route evidence).1 := by
  unfold retireTerminatedTarget
  split
  · exact sound.staffed
  · next passed => exact retire_staffed sound (checkTermination_owner passed) evidence


/-! ## The worker -/

/-- What a thread works for, in the slot. -/
theorem Sound.working (sound : Sound arbiter) (holds : arbiter.worker.holder = some id) :
    arbiter.active = some id ∧ (arbiter.tickets id).phase = .running ∧
      arbiter.reconciliation = none ∧ (∀ backend, arbiter.teardown backend = none) ∧
      arbiter.closed = false := by
  obtain ⟨held, running⟩ := sound.staffed.holder holds
  refine ⟨held, running, sound.staffed.unscheduled held ?_, sound.staffed.untorn held ?_,
    sound.staffed.opened held⟩
  · rw [running]
    exact Phase.noConfusion
  · rw [running]
    exact Phase.noConfusion

/-- The worker goes on with its ticket, whose standing stays. -/
theorem works_on (sound : Sound arbiter) (holds : arbiter.worker.holder = some id)
    (effect : Effect arbiter next emitted) (active : next.active = arbiter.active)
    (phase : (next.tickets id).phase = (arbiter.tickets id).phase)
    (worker : next.worker.holder = some id ∨ next.worker = .crashed)
    (reconciliation : next.reconciliation = arbiter.reconciliation)
    (teardown : next.teardown = arbiter.teardown) (closed : next.closed = arbiter.closed)
    (closer : next.closer = arbiter.closer) : Sound next := by
  obtain ⟨held, running, unscheduled, slots, opened⟩ := sound.working holds
  refine ⟨effect.placed, Staffed.works (active.trans held) (phase.trans running) worker
    (reconciliation.trans unscheduled) ?_ (closed.trans opened)
    (sound.staffed.awaits effect closer)⟩
  rw [teardown]
  exact slots

theorem withCalls_holder (worker : Worker) (calls : List Call) :
    (worker.withCalls calls).holder = worker.holder := by
  cases worker <;> rfl

variable {worker : Worker}

theorem port_holder {calls : List Call} (live : worker.port = some (id, calls)) :
    worker.holder = some id := by
  cases worker with
  | planning ticket reconciling open_ =>
      cases live
      rfl
  | finalizing ticket reconciling nextRoute open_ =>
      cases live
      rfl
  | waiting => cases live
  | concluding ticket reconciling conclusion => cases live
  | tearing attempt => cases live
  | exited => cases live
  | crashed => cases live

theorem port_sound (sound : Sound arbiter) {calls : List Call}
    (live : arbiter.worker.port = some (id, calls)) {action : PortAction}
    (taken : arbiter.port sight id calls action = some (next, emitted)) :
    Sound next ∧ Effect arbiter next emitted := by
  have holds := port_holder live
  obtain ⟨held, _⟩ := sound.working holds
  have ported := port_ported live taken
  have effect : Effect arbiter next emitted := ported_effect sound.kept held ported
  refine ⟨?_, effect⟩
  obtain ⟨ticket, route, calls', rfl, same⟩ := ported
  refine works_on sound holds effect rfl ?_ (.inl ?_) rfl rfl rfl rfl
  · show (Function.update arbiter.tickets id ticket id).phase = _
    rw [Function.update_self]
    exact congrArg Standing.phase same
  · exact (withCalls_holder _ _).trans holds

/-- The worker goes on to what comes after the plan or the finalizer. -/
theorem worker_sound (sound : Sound arbiter) (holds : arbiter.worker.holder = some id)
    (goes : worker.holder = some id) (emitted : List Signal) :
    Sound { arbiter with worker := worker } ∧
      Effect arbiter { arbiter with worker := worker } emitted := by
  have effect : Effect arbiter { arbiter with worker := worker } emitted :=
    ⟨sound.kept, Nat.le_refl _, fun _ _ => .kept rfl⟩
  exact ⟨works_on sound holds effect rfl rfl (.inl goes) rfl rfl rfl rfl, effect⟩

variable {reconciling : Bool}

theorem planReturned_sound (sound : Sound arbiter) (holds : arbiter.worker.holder = some id)
    {outcome : Outcome}
    (returned : arbiter.planReturned id reconciling outcome = (next, emitted)) :
    Sound next ∧ Effect arbiter next emitted := by
  unfold planReturned at returned
  split at returned
  · cases returned
    exact worker_sound sound holds rfl _
  · split at returned
    · next rawOutcome nextRoute _ =>
        cases returned
        have alike := update_alike arbiter id
          (fun ticket => { ticket with finalizerStarted := true }) rfl rfl
        have effect : Effect arbiter { arbiter.update id fun ticket =>
            { ticket with finalizerStarted := true } with
            worker := .finalizing id reconciling nextRoute [] } [.finalizerCalled id] :=
          ⟨alike.placed sound.kept, Nat.le_refl _, fun other _ => .kept (alike.standing other)⟩
        exact ⟨works_on sound holds effect rfl (congrArg Standing.phase (alike.standing id))
          (.inl rfl) rfl rfl rfl rfl, effect⟩
    · cases returned
      exact worker_sound sound holds rfl _
    · cases returned
      exact worker_sound sound holds rfl _
    · cases returned
      exact ⟨sound, kept_effect sound.kept _⟩

/-- The head of the queue is popped. -/
theorem pop_sound (sound : Sound arbiter) (resting : Worker.rests arbiter.worker = true)
    (opened : arbiter.closed = false) (free : arbiter.active = none)
    (slots : ∀ backend, arbiter.teardown backend = none)
    (unscheduled : arbiter.reconciliation = none) (ready : arbiter.headReady = true)
    {rest : List TicketId} (heads : arbiter.queue = id :: rest)
    (popped : arbiter.pop id rest = (next, emitted)) :
    Sound next ∧ Effect arbiter next emitted := by
  have member : id ∈ arbiter.queue := by
    rw [heads]
    exact List.mem_cons_self
  obtain ⟨bound, waits⟩ := (sound.kept.queued id).1 member
  have clean := sound.kept.clean id bound waits
  unfold pop at popped
  dsimp only at popped
  split at popped
  · cases popped
    have settled : ((arbiter.tickets id).settle none (some (.staleRoute ""))).standing =
        ⟨.settled, none, some (.staleRoute ""), (arbiter.tickets id).postSettlementParent⟩ :=
      settle_standing clean _ _
    have effect : Effect arbiter ({ arbiter with queue := rest }.settle id none
        (some (.staleRoute ""))) [.stale id] := by
      refine update_effect rfl ?_ (Nat.le_refl _) (.stale heads ready free opened rfl ?_)
      · have left := sound.kept.leave member (congrArg Standing.phase settled)
        rw [heads, List.erase_cons_head] at left
        exact left
      · show ExecutionTicket.standing (Function.update arbiter.tickets id _ id) = _
        rw [Function.update_self]
        exact settled
    refine ⟨⟨effect.placed, Staffed.free free resting unscheduled slots ?_
      (sound.staffed.awaits effect rfl)⟩, effect⟩
    intro shut
    rw [show arbiter.closed = true from shut] at opened
    cases opened
  · cases popped
    have effect : Effect arbiter { { arbiter with queue := rest }.update id fun ticket =>
        { ticket with phase := .running } with
        active := some id
        worker := .planning id false [] } [.started id] := by
      refine update_effect rfl ?_ (Nat.le_refl _) (.started heads ready free opened rfl ?_)
      · have kept := sound.kept
        unfold Kept at kept ⊢
        rw [heads, free] at kept
        exact kept.start rfl
      · show ExecutionTicket.standing (Function.update arbiter.tickets id _ id) = _
        rw [Function.update_self]
        rfl
    have running : (Function.update arbiter.tickets id
        { arbiter.tickets id with phase := .running } id).phase = .running := by
      rw [Function.update_self]
    exact ⟨⟨effect.placed, Staffed.works rfl running (.inl rfl) unscheduled slots opened
      (sound.staffed.awaits effect rfl)⟩, effect⟩

theorem reenter_sound (sound : Sound arbiter)
    (slots : ∀ backend, arbiter.teardown backend = none) {plan : Plan}
    (due : arbiter.reconciliation = some plan) (reentered : arbiter.reenter = (next, emitted)) :
    Sound next ∧ Effect arbiter next emitted := by
  obtain ⟨id, held, phase⟩ := sound.staffed.reconciling due
  unfold reenter at reentered
  rw [held] at reentered
  cases reentered
  have running : (Function.update arbiter.tickets id
      { arbiter.tickets id with phase := .running } id).phase = .running := by
    rw [Function.update_self]
  have effect : Effect arbiter { arbiter.update id fun ticket =>
      { ticket with phase := .running } with
      reconciliation := none
      worker := .planning id true [] } [.reentered id] := by
    refine update_effect rfl ?_ (Nat.le_refl _) (.reentered held ?_ rfl ?_)
    · have kept := sound.kept
      unfold Kept at kept ⊢
      show Placed _ _ _ arbiter.active
      rw [held] at kept ⊢
      exact kept.move rfl
    · rw [due]
      rfl
    · show ExecutionTicket.standing (Function.update arbiter.tickets id _ id) = _
      rw [Function.update_self]
      rfl
  exact ⟨⟨effect.placed, Staffed.works held running (.inl rfl) rfl slots
    (sound.staffed.opened held) (sound.staffed.awaits effect rfl)⟩, effect⟩

variable {attempt : TeardownAttempt}

/-- A scheduled attempt is taken up. -/
theorem tear_sound (sound : Sound arbiter) (backend : Backend) (due : arbiter.teardown backend = some attempt)
    (taken : arbiter.tear setup sight attempt = (next, emitted)) :
    Sound next ∧ Effect arbiter next emitted := by
  cases taken
  obtain ⟨which, held, unknown⟩ := sound.staffed.torn due
  have idle : (arbiter.tickets attempt.ticket).phase ≠ .reconciling := by
    rw [unknown]
    exact Phase.noConfusion
  have effect : Effect arbiter { arbiter with worker := .tearing attempt }
      (if issues setup sight attempt then [.terminationIssued attempt.ticket attempt.backend]
        else []) := ⟨sound.kept, Nat.le_refl _, fun _ _ => .kept rfl⟩
  refine ⟨⟨sound.kept, Staffed.retains held unknown rfl (sound.staffed.unscheduled held idle) ?_ ?_
    (sound.staffed.opened held) (sound.staffed.awaits effect rfl)⟩, effect⟩
  · intro other scheduled slot
    obtain ⟨matches_, active, _⟩ := sound.staffed.torn slot
    rw [held] at active
    exact ⟨matches_, (Option.some.inj active).symm⟩
  · intro other tears
    cases tears
    rw [which]
    exact due

theorem exits_sound (sound : Sound arbiter) (shut : arbiter.closed = true) :
    Sound { arbiter with worker := .exited } ∧
      Effect arbiter { arbiter with worker := .exited } [] := by
  obtain ⟨free, empty⟩ := sound.staffed.closed shut
  obtain ⟨unscheduled, slots, _⟩ := sound.staffed.vacant free
  have effect : Effect arbiter { arbiter with worker := .exited } [] :=
    ⟨sound.kept, Nat.le_refl _, fun _ _ => .kept rfl⟩
  exact ⟨⟨sound.kept, Staffed.free free rfl unscheduled slots (fun _ => empty)
    (sound.staffed.awaits effect rfl)⟩, effect⟩

theorem take_sound (sound : Sound arbiter)
    (taken : arbiter.take setup sight = some (next, emitted)) :
    Sound next ∧ Effect arbiter next emitted := by
  unfold take at taken
  split at taken
  · cases taken
  · next ready =>
      simp only [Bool.or_eq_true, decide_eq_true_eq, not_or, not_not, Bool.not_eq_true',
        Bool.not_eq_false] at ready
      obtain ⟨waiting, awake⟩ := ready
      have resting : Worker.rests arbiter.worker = true := by
        rw [waiting]
        rfl
      split at taken
      · next shut =>
          cases taken
          exact exits_sound sound shut
      · next opened =>
          simp only [Bool.not_eq_true] at opened
          split at taken
          · next _ due => exact tear_sound sound .server due (Option.some.inj taken)
          · next _ due => exact tear_sound sound .file due (Option.some.inj taken)
          · next server file =>
              have slots : ∀ backend, arbiter.teardown backend = none := by
                intro backend
                cases backend with
                | server => exact server
                | file => exact file
              split at taken
              · next due =>
                  obtain ⟨plan, due⟩ := Option.isSome_iff_exists.1 due
                  exact reenter_sound sound slots due (Option.some.inj taken)
              · next unscheduled =>
                  simp only [Option.not_isSome_iff_eq_none] at unscheduled
                  simp only [wakes, opened, server, file, unscheduled, Bool.false_or,
                    Option.isSome_none, Bool.and_eq_true, Option.isNone_iff_eq_none] at awake
                  split at taken
                  · cases taken
                  · next heads =>
                      exact pop_sound sound resting opened awake.1 slots unscheduled awake.2 heads
                        (Option.some.inj taken)

/-! ## Conclusions -/

theorem schedule_worker (arbiter : RdbgArbiter) (worker : Worker) (attempt : TeardownAttempt) :
    { arbiter.schedule attempt with worker := worker } =
      { arbiter with worker := worker }.schedule attempt := by
  unfold schedule
  split <;> rfl

theorem scheduleAutoServerStop_worker (arbiter : RdbgArbiter) (worker : Worker) (id : TicketId) :
    { arbiter.scheduleAutoServerStop sight id with worker := worker } =
      { arbiter with worker := worker }.scheduleAutoServerStop sight id := by
  have due : { arbiter with worker := worker }.teardownDue id = arbiter.teardownDue id := rfl
  have target : exactServerStopTarget sight { arbiter with worker := worker } id =
    arbiter.exactServerStopTarget sight id := rfl
  unfold scheduleAutoServerStop
  rw [due, target]
  cases arbiter.teardownDue id with
  | false => rfl
  | true =>
      cases arbiter.exactServerStopTarget sight id with
      | none => rfl
      | some expected => exact schedule_worker arbiter worker (arbiter.serverAttempt id expected)

theorem scheduleAutoFileStop_worker (arbiter : RdbgArbiter) (worker : Worker) (id : TicketId) :
    { arbiter.scheduleAutoFileStop setup sight id with worker := worker } =
      { arbiter with worker := worker }.scheduleAutoFileStop setup sight id := by
  unfold scheduleAutoFileStop
  cases setup.fileTargetLease with
  | none => rfl
  | some lease =>
      have due : ({ arbiter with worker := worker }.teardownDue id &&
          exactFileStopTarget sight { arbiter with worker := worker } id lease) =
        (arbiter.teardownDue id && arbiter.exactFileStopTarget sight id lease) := rfl
      dsimp only
      rw [due]
      cases arbiter.teardownDue id && arbiter.exactFileStopTarget sight id lease with
      | false => rfl
      | true => exact schedule_worker arbiter worker (arbiter.fileAttempt id lease)

/-- The automatic Stop does not look at the worker. -/
theorem scheduleAutoStop_worker (arbiter : RdbgArbiter) (worker : Worker) (id : TicketId) :
    { arbiter.scheduleAutoStop setup sight id with worker := worker } =
      { arbiter with worker := worker }.scheduleAutoStop setup sight id := by
  unfold scheduleAutoStop
  rw [scheduleAutoFileStop_worker, scheduleAutoServerStop_worker]

/-- The plan raised and its outcome is unknown. -/
theorem retain_sound (sound : Sound arbiter) {error : Failure}
    (concluding : arbiter.worker = .concluding id reconciling (.raised error)) :
    Sound { (arbiter.update id fun ticket =>
        { ticket with
          phase := .unknown
          error := some error }).scheduleAutoStop setup sight id with worker := .waiting } ∧
      Effect arbiter { (arbiter.update id fun ticket =>
        { ticket with
          phase := .unknown
          error := some error }).scheduleAutoStop setup sight id with worker := .waiting }
        emitted := by
  have holds : arbiter.worker.holder = some id := by
    rw [concluding]
    rfl
  obtain ⟨held, running, unscheduled, slots, opened⟩ := sound.working holds
  rw [scheduleAutoStop_worker]
  have unknown : (Function.update arbiter.tickets id
      { arbiter.tickets id with
        phase := .unknown
        error := some error } id).standing =
      { (arbiter.tickets id).standing with
        phase := .unknown
        error := some error } := by
    rw [Function.update_self]
    rfl
  have alike := scheduleAutoStop_alike setup sight { arbiter.update id fun ticket =>
    { ticket with
      phase := .unknown
      error := some error } with worker := .waiting } id
  have effect : Effect arbiter { arbiter.update id fun ticket =>
      { ticket with
        phase := .unknown
        error := some error } with worker := .waiting } [] := by
    refine update_effect rfl ?_ (Nat.le_refl _) (.retained concluding unknown)
    have kept := sound.kept
    unfold Kept at kept ⊢
    show Placed _ _ _ arbiter.active
    rw [held] at kept ⊢
    exact kept.move rfl
  have staffed : Staffed { arbiter.update id fun ticket =>
      { ticket with
        phase := .unknown
        error := some error } with worker := .waiting } := by
    refine Staffed.retains held (congrArg Standing.phase unknown) rfl unscheduled ?_ ?_ opened
      (sound.staffed.awaits effect rfl)
    · intro backend attempt slot
      have empty := slots backend
      rw [show arbiter.teardown backend = some attempt from slot] at empty
      cases empty
    · intro attempt tears
      cases tears
  have standing := alike.standing
  have placed := alike.placed effect.placed
  refine ⟨⟨placed, scheduleAutoStop_staffed staffed id⟩, ⟨placed, ?_, ?_⟩⟩
  · obtain ⟨_, _, _, same, _⟩ := alike
    rw [same]
    exact Nat.le_refl _
  · intro other _
    by_cases same : other = id
    · subst same
      exact .retained concluding ((standing other).trans unknown)
    · refine .kept ((standing other).trans ?_)
      exact congrArg ExecutionTicket.standing (Function.update_of_ne same _ _)

/-- A registered cleanup is queued; the tickets before it stand as they did. -/
theorem registered_queued (base : RdbgArbiter) (id : TicketId) (registered : Option Plan)
    {slot : Option TicketId} (placed : Placed base.tickets base.admitted base.queue slot) :
    ∃ tickets admitted queue,
      base.queueRegistered id registered = { base with
          tickets := tickets
          admitted := admitted
          queue := queue } ∧
      Placed tickets admitted queue slot ∧ base.admitted ≤ admitted ∧
      ∀ other < base.admitted, (tickets other).standing = (base.tickets other).standing ∧
        (tickets other).owesCapability = (base.tickets other).owesCapability := by
  cases registered with
  | none => exact ⟨_, _, _, rfl, placed, Nat.le_refl _, fun _ _ => ⟨rfl, rfl⟩⟩
  | some plan =>
      exact ⟨_, _, _, rfl, queueCleanup_placed plan placed, Nat.le_succ _,
        fun _ bound => queueCleanup_standing plan bound⟩

variable {conclusion : Conclusion}

/-- The ticket settles and gives its slot up. -/
theorem finish_sound (sound : Sound arbiter)
    (concluding : arbiter.worker = .concluding id reconciling conclusion)
    (placed : Kept next) (grown : arbiter.admitted ≤ next.admitted)
    (older : ∀ other < arbiter.admitted, other ≠ id →
      (next.tickets other).standing = (arbiter.tickets other).standing)
    (settled : (next.tickets id).phase = .settled)
    (parent : (next.tickets id).postSettlementParent = (arbiter.tickets id).postSettlementParent)
    (free : next.active = none) (worker : next.worker = .waiting)
    (reconciliation : next.reconciliation = arbiter.reconciliation)
    (teardown : next.teardown = arbiter.teardown) (closed : next.closed = arbiter.closed)
    (closer : next.closer = arbiter.closer) : Sound next ∧ Effect arbiter next emitted := by
  have holds : arbiter.worker.holder = some id := by
    rw [concluding]
    rfl
  obtain ⟨_, _, unscheduled, slots, opened⟩ := sound.working holds
  have effect : Effect arbiter next emitted := by
    refine ⟨placed, grown, fun other bound => ?_⟩
    by_cases same : other = id
    · subst same
      exact .concluded concluding settled parent
    · exact .kept (older other bound same)
  have rests : Worker.rests next.worker = true := by
    rw [worker]
    rfl
  refine ⟨⟨placed, Staffed.free free rests (reconciliation.trans unscheduled) ?_ ?_
    (sound.staffed.awaits effect closer)⟩, effect⟩
  · rw [teardown]
    exact slots
  · intro shut
    rw [closed, opened] at shut
    cases shut

/-- The assertion of `_settle` ends the thread. -/
theorem crash_sound (sound : Sound arbiter)
    (concluding : arbiter.worker = .concluding id reconciling conclusion)
    (owed : (arbiter.tickets id).owesCapability = true)
    (placed : Kept next) (grown : arbiter.admitted ≤ next.admitted)
    (older : ∀ other < arbiter.admitted, other ≠ id →
      (next.tickets other).standing = (arbiter.tickets other).standing)
    (phase : (next.tickets id).phase = (arbiter.tickets id).phase)
    (parent : (next.tickets id).postSettlementParent = (arbiter.tickets id).postSettlementParent)
    (active : next.active = arbiter.active) (worker : next.worker = .crashed)
    (reconciliation : next.reconciliation = arbiter.reconciliation)
    (teardown : next.teardown = arbiter.teardown) (closed : next.closed = arbiter.closed)
    (closer : next.closer = arbiter.closer) : Sound next ∧ Effect arbiter next emitted := by
  have holds : arbiter.worker.holder = some id := by
    rw [concluding]
    rfl
  have effect : Effect arbiter next emitted := by
    refine ⟨placed, grown, fun other bound => ?_⟩
    by_cases same : other = id
    · subst same
      exact .crashed concluding owed worker phase parent
    · exact .kept (older other bound same)
  exact ⟨works_on sound holds effect active phase (.inr worker) reconciliation teardown closed
    closer, effect⟩

theorem settle_owed {ticket : ExecutionTicket} (owed : ticket.owesCapability = true)
    (value : Option Value) (error : Option Failure) :
    (ticket.settle value error).phase = ticket.phase := by
  simp [ExecutionTicket.settle, owed]

theorem concludeReturned_sound (sound : Sound arbiter)
    (concluding : arbiter.worker = .concluding id reconciling conclusion)
    (nextRoute : Option RouteToken) (value : Option Value) (error : Option Failure) :
    Sound (arbiter.concludeReturned id nextRoute value error) ∧
      Effect arbiter (arbiter.concludeReturned id nextRoute value error) emitted := by
  have holds : arbiter.worker.holder = some id := by
    rw [concluding]
    rfl
  obtain ⟨held, running, _⟩ := sound.working holds
  have kept := sound.kept
  unfold Kept at kept
  rw [held] at kept
  have bound := ((kept.active id).1 rfl).1
  have other_kept : ∀ other, other ≠ id → ((Function.update arbiter.tickets id
      ((arbiter.tickets id).settle value error) other).standing =
        (arbiter.tickets other).standing) := by
    intro other distinct
    rw [Function.update_of_ne distinct]
  unfold concludeReturned
  dsimp only
  split
  · next owed =>
      have phase : (Function.update arbiter.tickets id
          ((arbiter.tickets id).settle value error) id).phase = (arbiter.tickets id).phase := by
        rw [Function.update_self]
        exact settle_owed owed _ _
      have parent : (Function.update arbiter.tickets id
          ((arbiter.tickets id).settle value error) id).postSettlementParent =
            (arbiter.tickets id).postSettlementParent := by
        rw [Function.update_self]
        rfl
      refine crash_sound sound concluding owed ?_ (Nat.le_refl _)
        (fun other _ distinct => other_kept other distinct) phase parent rfl rfl rfl rfl rfl rfl
      have owning : ((arbiter.tickets id).settle value error).phase.owning = true := by
        rw [settle_owed owed, running]
        rfl
      have moved := kept.move owning
      rw [← held] at moved
      exact moved
  · next clean =>
      simp only [Bool.not_eq_true] at clean
      have settled := ExecutionTicket.settle_phase clean value error
      have free : Placed (Function.update arbiter.tickets id
          ((arbiter.tickets id).settle value error)) arbiter.admitted arbiter.queue none :=
        kept.finish settled
      obtain ⟨tickets, admitted, queue, same, placed, grown, older⟩ :=
        registered_queued ({ arbiter with route := nextRoute.getD arbiter.route }.settle id value
          error) id (arbiter.tickets id).postSettlementCleanupPlan free
      rw [same]
      have mine : (tickets id).standing = ((arbiter.tickets id).settle value error).standing := by
        rw [(older id bound).1, settle_tickets, Function.update_self]
      exact finish_sound sound concluding placed grown
        (fun other below distinct => (older other below).1.trans (other_kept other distinct))
        ((congrArg Standing.phase mine).trans settled) (congrArg Standing.parent mine)
        rfl rfl rfl rfl rfl rfl

theorem concludeRaised_sound (sound : Sound arbiter) {error : Failure}
    (concluding : arbiter.worker = .concluding id reconciling (.raised error)) :
    Sound (arbiter.concludeRaised setup sight id reconciling error) ∧
      Effect arbiter (arbiter.concludeRaised setup sight id reconciling error) emitted := by
  have holds : arbiter.worker.holder = some id := by
    rw [concluding]
    rfl
  obtain ⟨held, running, _⟩ := sound.working holds
  have kept := sound.kept
  unfold Kept at kept
  rw [held] at kept
  have bound := ((kept.active id).1 rfl).1
  obtain ⟨tickets, admitted, queue, same, placed, grown, older⟩ :=
    registered_queued arbiter id (arbiter.tickets id).postSettlementCleanupPlan kept
  obtain ⟨mine, owes⟩ := older id bound
  have other_kept : ∀ other < arbiter.admitted, other ≠ id → ((Function.update tickets id
      ((tickets id).settle none (some error)) other).standing =
        (arbiter.tickets other).standing) := by
    intro other below distinct
    rw [Function.update_of_ne distinct]
    exact (older other below).1
  have parent : (Function.update tickets id
      ((tickets id).settle none (some error)) id).postSettlementParent =
        (arbiter.tickets id).postSettlementParent := by
    rw [Function.update_self]
    exact congrArg Standing.parent mine
  unfold concludeRaised
  dsimp only
  split
  · exact retain_sound sound concluding
  · rw [same]
    split
    · next owed =>
        rw [← owes] at owed
        have phase : (Function.update tickets id
            ((tickets id).settle none (some error)) id).phase = (arbiter.tickets id).phase := by
          rw [Function.update_self, settle_owed owed]
          exact congrArg Standing.phase mine
        refine crash_sound sound concluding (owes ▸ owed) ?_ grown other_kept phase parent
          rfl rfl rfl rfl rfl rfl
        have owning : ((tickets id).settle none (some error)).phase.owning = true := by
          rw [settle_owed owed, show (tickets id).phase = _ from congrArg Standing.phase mine]
          show (arbiter.tickets id).phase.owning = true
          rw [running]
          rfl
        have moved := placed.move owning
        rw [← held] at moved
        exact moved
    · next clean =>
        simp only [Bool.not_eq_true] at clean
        rw [← owes] at clean
        have settled := ExecutionTicket.settle_phase clean none (some error)
        have phase : (Function.update tickets id
            ((tickets id).settle none (some error)) id).phase = .settled := by
          rw [Function.update_self]
          exact settled
        exact finish_sound sound concluding (placed.finish settled) grown other_kept phase parent
          rfl rfl rfl rfl rfl rfl

theorem conclude_sound (sound : Sound arbiter)
    (concluding : arbiter.worker = .concluding id reconciling conclusion) :
    Sound (arbiter.conclude setup sight id reconciling conclusion) ∧
      Effect arbiter (arbiter.conclude setup sight id reconciling conclusion) emitted := by
  cases conclusion with
  | raised error => exact concludeRaised_sound sound concluding
  | confirmedFailure error => exact concludeReturned_sound sound concluding _ _ _
  | settlement value nextRoute => exact concludeReturned_sound sound concluding _ _ _

/-! ## Teardown -/

/-- The slot of a finished attempt is free, and the worker goes on or dies. -/
theorem freed_sound (sound : Sound arbiter)
    (tears : arbiter.worker = .tearing attempt)
    (rests : Worker.rests worker = true) :
    Sound { arbiter.freeSlot attempt.backend with worker := worker } ∧
      Effect arbiter { arbiter.freeSlot attempt.backend with worker := worker } emitted := by
  obtain ⟨_, held, unknown⟩ := sound.staffed.torn (sound.staffed.tearing tears)
  have idle : (arbiter.tickets attempt.ticket).phase ≠ .reconciling := by
    rw [unknown]
    exact Phase.noConfusion
  have unscheduled := sound.staffed.unscheduled held idle
  have opened := sound.staffed.opened held
  obtain ⟨unheld, calm⟩ := Worker.rests_unheld rests
  have known : ∀ backend other, arbiter.teardown backend = some other →
      other.backend = backend ∧ other.ticket = attempt.ticket := by
    intro backend other slot
    obtain ⟨which, active, _⟩ := sound.staffed.torn slot
    rw [held] at active
    exact ⟨which, (Option.some.inj active).symm⟩
  cases attempt.backend with
  | server =>
      have effect : Effect arbiter { arbiter.freeSlot .server with worker := worker } emitted :=
        ⟨sound.kept, Nat.le_refl _, fun _ _ => .kept rfl⟩
      refine ⟨⟨sound.kept, Staffed.retains held unknown unheld unscheduled ?_
        (fun other working => absurd working (calm other)) opened
        (sound.staffed.awaits effect rfl)⟩, effect⟩
      intro backend other slot
      cases backend with
      | server => cases slot
      | file => exact known .file other slot
  | file =>
      have effect : Effect arbiter { arbiter.freeSlot .file with worker := worker } emitted :=
        ⟨sound.kept, Nat.le_refl _, fun _ _ => .kept rfl⟩
      refine ⟨⟨sound.kept, Staffed.retains held unknown unheld unscheduled ?_
        (fun other working => absurd working (calm other)) opened
        (sound.staffed.awaits effect rfl)⟩, effect⟩
      intro backend other slot
      cases backend with
      | server => exact known .server other slot
      | file => cases slot

theorem freeSlot_tickets (arbiter : RdbgArbiter) (backend : Backend) :
    (arbiter.freeSlot backend).tickets = arbiter.tickets := by
  cases backend <;> rfl

theorem freeSlot_queue (arbiter : RdbgArbiter) (backend : Backend) :
    (arbiter.freeSlot backend).queue = arbiter.queue := by
  cases backend <;> rfl

theorem freeSlot_active (arbiter : RdbgArbiter) (backend : Backend) :
    (arbiter.freeSlot backend).active = arbiter.active := by
  cases backend <;> rfl

theorem freeSlot_admitted (arbiter : RdbgArbiter) (backend : Backend) :
    (arbiter.freeSlot backend).admitted = arbiter.admitted := by
  cases backend <;> rfl

theorem tornDown_sound (sound : Sound arbiter)
    (tears : arbiter.worker = .tearing attempt) (evidence : Option TerminationEvidence) :
    Sound (arbiter.tornDown setup sight attempt evidence) ∧
      Effect arbiter (arbiter.tornDown setup sight attempt evidence) emitted := by
  obtain ⟨freed, _⟩ : Sound { arbiter.freeSlot attempt.backend with worker := .waiting } ∧
      Effect arbiter { arbiter.freeSlot attempt.backend with worker := .waiting } [] :=
    freed_sound sound tears rfl
  unfold tornDown
  dsimp only
  split
  · exact freed_sound sound tears rfl
  · next evidence =>
      split
      · next passed =>
          have owner := checkTermination_owner passed
          obtain ⟨_, held, unknown⟩ := sound.staffed.torn (sound.staffed.tearing tears)
          have effect : Effect arbiter (RdbgArbiter.retire { arbiter.freeSlot attempt.backend with
              worker := .waiting } attempt.ticket evidence) emitted :=
            retire_effect freed.kept (freeSlot_tickets _ _) (freeSlot_queue _ _)
              (freeSlot_active _ _) (freeSlot_admitted _ _) held unknown evidence
          exact ⟨⟨effect.placed, retire_staffed freed owner evidence⟩, effect⟩
      · exact freed_sound sound tears rfl
      · exact freed_sound sound tears rfl

/-! ## Closing -/

theorem closer_sound (sound : Sound arbiter) (closer : Option Closer) (joiners : Nat)
    (awaits : ∀ waiting, closer = some waiting → waiting.ticket < arbiter.admitted ∧
      (arbiter.tickets waiting.ticket).dependent = true) :
    Sound { arbiter with
      closer := closer
      joiners := joiners } :=
  ⟨sound.kept, { sound.staffed with closer := fun waits => awaits _ waits }⟩

theorem cancelUserHeads_split (arbiter : RdbgArbiter) :
    arbiter.queue = arbiter.queue.takeWhile (fun id => !(arbiter.tickets id).dependent) ++
      arbiter.queue.dropWhile fun id => !(arbiter.tickets id).dependent :=
  List.takeWhile_append_dropWhile.symm

theorem cancelUserHeads_clears (kept : Kept arbiter) : Clears arbiter arbiter.cancelUserHeads :=
  cancelAll_clears kept (cancelUserHeads_split arbiter)

theorem cancelUserHeads_sound (sound : Sound arbiter) : Sound arbiter.cancelUserHeads := by
  have effect := (cancelUserHeads_clears sound.kept).effect []
  exact ⟨effect.placed,
    (cancelAll_frames sound.kept (cancelUserHeads_split arbiter)).staffed effect sound.staffed⟩

/-- The ticket that is left at the head is a dependent cleanup. -/
theorem cancelUserHeads_head (sound : Sound arbiter) {cleanup : TicketId} {rest : List TicketId}
    (heads : arbiter.cancelUserHeads.queue = cleanup :: rest) :
    cleanup < arbiter.cancelUserHeads.admitted ∧
      (arbiter.cancelUserHeads.tickets cleanup).dependent = true := by
  have after := cancelUserHeads_sound sound
  have member : cleanup ∈ arbiter.cancelUserHeads.queue := by
    rw [heads]
    exact List.mem_cons_self
  have bound := ((after.kept.queued cleanup).1 member).1
  refine ⟨bound, ?_⟩
  have older : cleanup < arbiter.admitted := by
    rw [show arbiter.cancelUserHeads.admitted = arbiter.admitted from cancelAll_admitted _ _]
      at bound
    exact bound
  rw [((cancelUserHeads_clears sound.kept).effect []).dependent older]
  have dropped := List.head?_dropWhile_not (fun id => !(arbiter.tickets id).dependent) arbiter.queue
  rw [show arbiter.queue.dropWhile _ = _ from heads] at dropped
  simpa using dropped

/-- Nothing dependent is left: the rest of the queue is cancelled and `close()` leaves. -/
theorem shut_sound (sound : Sound arbiter) (free : arbiter.active = none) :
    Sound { arbiter with closed := true }.drain.leaveMailbox ∧
      Effect arbiter { arbiter with closed := true }.drain.leaveMailbox emitted := by
  have clears : Clears { arbiter with closed := true } { arbiter with closed := true }.drain :=
    drain_clears sound.kept
  have cleared : Clears arbiter { arbiter with closed := true }.drain.leaveMailbox :=
    ⟨clears.placed, clears.grown, clears.edge⟩
  obtain ⟨unscheduled, slots, rests⟩ := sound.staffed.vacant free
  refine ⟨⟨cleared.placed, Staffed.free ?_ ?_ ?_ ?_ (fun _ => rfl)
    (fun _ waits => nomatch waits)⟩, cleared.effect _⟩
  · simpa [leaveMailbox, drain] using free
  · simpa [leaveMailbox, drain] using rests
  · simpa [leaveMailbox, drain] using unscheduled
  · intro backend
    rw [← slots backend]
    cases backend with
    | server => simp [teardown, leaveMailbox, drain]
    | file => simp [teardown, leaveMailbox, drain]

theorem closePass_sound (sound : Sound arbiter) (passed : arbiter.closePass = (next, emitted)) :
    Sound next ∧ Effect arbiter next emitted := by
  unfold closePass at passed
  split at passed
  · cases passed
    exact ⟨closer_sound sound none _ (fun _ waits => nomatch waits),
      sound.kept, Nat.le_refl _, fun _ _ => .kept rfl⟩
  · split at passed
    · next id held =>
        have kept : ∀ emitted closer, Effect arbiter { arbiter with closer := closer } emitted :=
          fun _ _ => ⟨sound.kept, Nat.le_refl _, fun _ _ => .kept rfl⟩
        split at passed
        · cases passed
          exact ⟨closer_sound sound none _ (fun _ waits => nomatch waits), kept _ _⟩
        · next dependent =>
            split at passed
            · cases passed
              exact ⟨closer_sound sound none _ (fun _ waits => nomatch waits), kept _ _⟩
            · cases passed
              refine ⟨closer_sound sound _ arbiter.joiners ?_, kept _ _⟩
              rintro _ ⟨⟩
              exact ⟨((sound.kept.active id).1 held).1, by
                simpa [Closer.ticket] using dependent⟩
    · next free =>
        split at passed
        · cases passed
          exact ⟨closer_sound sound none _ (fun _ waits => nomatch waits),
            sound.kept, Nat.le_refl _, fun _ _ => .kept rfl⟩
        · split at passed
          · next cleanup rest heads =>
              cases passed
              have clears := cancelUserHeads_clears sound.kept
              have cleared : Clears arbiter { arbiter.cancelUserHeads with
                  closer := some (.awaitingStart cleanup) } :=
                ⟨clears.placed, clears.grown, clears.edge⟩
              refine ⟨closer_sound (cancelUserHeads_sound sound) _ _ ?_, cleared.effect _⟩
              rintro _ ⟨⟩
              exact cancelUserHeads_head sound heads
          · cases passed
            exact shut_sound sound free

/-! ## The step -/

theorem staffed_sound (effect : Effect arbiter next emitted) (staffed : Staffed next) :
    Sound next ∧ Effect arbiter next emitted :=
  ⟨⟨effect.placed, staffed⟩, effect⟩

/-- A call that leaves the slot alone. -/
theorem framed_sound (sound : Sound arbiter) (frames : Frames arbiter next)
    (effect : Effect arbiter next emitted) : Sound next ∧ Effect arbiter next emitted :=
  staffed_sound effect (frames.staffed effect sound.staffed)

theorem answeredFor_sound (sound : Sound arbiter) {result : RdbgArbiter × Reply}
    (made : ∀ emitted, id < arbiter.admitted → Sound result.1 ∧ Effect arbiter result.1 emitted)
    (taken : arbiter.answeredFor id result = some (next, emitted)) :
    Sound next ∧ Effect arbiter next emitted := by
  unfold answeredFor answered at taken
  cases taken
  split
  · next bound => exact made _ bound
  · exact ⟨sound, kept_effect sound.kept _⟩

/-- Every section keeps the invariant, and every ticket goes an edge. -/
theorem step_sound (sound : Sound arbiter) {action : Action}
    (taken : arbiter.step setup sight action = some (next, emitted)) :
    Sound next ∧ Effect arbiter next emitted := by
  cases action with
  | submit route plan finalizer adoption =>
      cases taken
      exact framed_sound sound (submit_frames sound _ _ _ _) (submit_effect sound.kept _ _ _ _)
  | tryHeartbeat =>
      cases taken
      exact framed_sound sound (tryHeartbeat_frames sound) (tryHeartbeat_effect sound.kept)
  | dispatch id =>
      exact answeredFor_sound sound
        (fun _ _ => framed_sound sound (dispatch_frames _ _) (dispatch_effect sound.kept _)) taken
  | cancelQueued id =>
      simp only [step] at taken
      split at taken
      · next bound =>
          cases taken
          exact framed_sound sound (cancelQueued_frames sound bound)
            (cancelQueued_effect sound.kept bound)
      · cases taken
  | retryPostSettlementCleanup id =>
      exact answeredFor_sound sound
        (fun _ _ => framed_sound sound (retry_frames sound _) (retry_effect sound.kept _)) taken
  | requestStop id =>
      exact answeredFor_sound sound (fun _ bound => staffed_sound
        (requestStop_effect sound.kept bound) (requestStop_staffed sound bound)) taken
  | reconcile id plan =>
      exact answeredFor_sound sound (fun _ _ => staffed_sound
        (reconcile_effect sound.kept id plan) (reconcile_staffed sound id plan)) taken
  | teardownFencedServerTarget id route graceValid =>
      cases taken
      exact staffed_sound (teardownFencedServerTarget_effect sound.kept id route graceValid)
        (teardownFencedServerTarget_staffed sound id route graceValid)
  | teardownFencedFileTarget id route graceValid =>
      cases taken
      exact staffed_sound (teardownFencedFileTarget_effect sound.kept id route graceValid)
        (teardownFencedFileTarget_staffed sound id route graceValid)
  | retireTerminatedTarget id route evidence =>
      exact answeredFor_sound sound (fun _ _ => staffed_sound
        (retireTerminatedTarget_effect sound.kept id route evidence)
        (retireTerminatedTarget_staffed sound id route evidence)) taken
  | close byWorker =>
      simp only [step, close, Option.some.injEq] at taken
      split at taken
      · cases taken
        exact ⟨sound, kept_effect sound.kept _⟩
      · exact closePass_sound sound taken
  | closeWakes =>
      simp only [step, closeWakes] at taken
      split at taken
      · exact closePass_sound sound (Option.some.inj taken)
      · cases taken
  | closeReturns =>
      simp only [step, closeReturns] at taken
      split at taken
      · cases taken
      · cases taken
        exact ⟨closer_sound sound _ _ (fun _ waits => sound.staffed.closer waits),
          sound.kept, Nat.le_refl _, fun _ _ => .kept rfl⟩
  | closeTimesOut =>
      simp only [step, closeTimesOut] at taken
      split at taken
      · cases taken
      · cases taken
        exact ⟨closer_sound sound _ _ (fun _ waits => sound.staffed.closer waits),
          sound.kept, Nat.le_refl _, fun _ _ => .kept rfl⟩
  | take => exact take_sound sound taken
  | port action =>
      simp only [step] at taken
      split at taken
      · next live => exact port_sound sound live taken
      · cases taken
  | planReturned outcome =>
      simp only [step] at taken
      split at taken
      · next working =>
          refine planReturned_sound sound ?_ (Option.some.inj taken)
          rw [working]
          rfl
      · cases taken
  | planRaised error =>
      simp only [step] at taken
      split at taken
      · next working =>
          cases taken
          refine worker_sound sound ?_ rfl _
          rw [working]
          rfl
      · cases taken
  | finalizerReturned value =>
      simp only [step] at taken
      split at taken
      · next working =>
          cases taken
          refine worker_sound sound ?_ rfl _
          rw [working]
          rfl
      · cases taken
  | finalizerRaised error =>
      simp only [step] at taken
      split at taken
      · next working =>
          cases taken
          refine worker_sound sound ?_ rfl _
          rw [working]
          rfl
      · cases taken
  | conclude =>
      simp only [step] at taken
      split at taken
      · next concluding =>
          cases taken
          exact conclude_sound sound concluding
      · cases taken
  | tornDown proof =>
      simp only [step] at taken
      split at taken
      · next tears =>
          cases taken
          exact tornDown_sound sound tears _
      · cases taken

end RdbgArbiter

end OnecRuntime.Arbiter
