import OnecRuntime.Materialization.Debts

/-!
# No key is forgotten

In every run a key leaves the scope after its confirmed deletion or before its creation, a
transfer settles without an open key, and a deletion without an outcome holds its ticket and the
worker.  A resume is never admitted over a debt, provided that no transfer reports a rejected
deletion while the resume stands between its look at the debts and its reservation.
-/

namespace OnecRuntime.Materialization

open OnecRuntime.Library

namespace Stop

structure Sound (stop : Stop) : Prop where
  keys : KeysSound stop.keys stop.worker
  tickets : TicketsSound stop

section Runs

variable {permitted : Stop → Action → Prop} {scope : Scope} {events : List Event}
  {stop next : Stop} {action : Action} {emitted : List Event}

theorem Move.sound (move : Move stop action next emitted) (sound : Sound stop) : Sound next :=
  ⟨move.keysSound sound.keys, move.ticketsSound sound.tickets⟩

theorem sound_of_run (run : Run Stepped permitted (opened scope) events stop) : Sound stop :=
  run.keeps ⟨.opened, .opened scope⟩ fun sound _ stepped => (move_of_stepped stepped).2.sound sound

theorem mem_debts {key : Text} {state : CleanupState} :
    (key, state) ∈ stop.debts ↔ stop.keys.get? key = some state ∧ state ≠ .live := by
  unfold debts
  rw [List.mem_filter, mem_sortedBy, Dictionary.get?_eq_some, decide_eq_true_iff]

theorem debts_eq_nil : stop.debts = [] ↔
    ∀ key state, stop.keys.get? key = some state → state = .live := by
  rw [List.eq_nil_iff_forall_not_mem]
  constructor
  · intro free key state found
    by_contra other
    exact free (key, state) (mem_debts.2 ⟨found, other⟩)
  · rintro free ⟨key, state⟩ member
    obtain ⟨found, other⟩ := mem_debts.1 member
    exact other (free key state found)

/-! ## Leaving keys and settled tickets -/

/-- A key leaves after its confirmed deletion or, in a transfer, before its creation is asked
for. -/
theorem Move.leaves (move : Move stop action next emitted) (sound : Sound stop) {key : Text}
    (tracked : stop.keys.get? key ≠ none) (gone : next.keys.get? key = none) :
    ∃ ticket log, stop.worker.held = some (ticket, log) ∧ ticket.work.key = some key ∧
      (deleted key log ∨ (∃ plan, ticket.work = .transfer plan) ∧ creationAsked log = false) := by
  cases move with
  | @changed _ ticket log change later changes =>
      have safe := sound.keys.safe changes
      obtain ⟨allowed, _⟩ := safe
      generalize change stop.keys = after at allowed gone
      have kept {other : Text} {state : CleanupState}
          (absent : (stop.keys.set other state).get? key = none) : False := by
        by_cases same : key = other
        · rw [same, Dictionary.get?_set_same] at absent
          cases absent
        · rw [Dictionary.get?_set_other _ _ same] at absent
          exact tracked absent
      have own {other : Text} (absent : (stop.keys.erase other).get? key = none) :
          key = other := by
        by_contra apart
        refine tracked ?_
        rw [← absent]
        exact (Dictionary.get?_eraseAll_kept _ fun member => apart (List.mem_singleton.1 member)).symm
      have holds : stop.worker.held = some (ticket, log) := by
        rw [changes]
        rfl
      cases allowed with
      | tracked => exact (kept gone).elim
      | rejected => exact (kept gone).elim
      | doubtful => exact (kept gone).elim
      | untracked transfer uncreated =>
          refine ⟨ticket, log, holds, ?_, .inr ⟨⟨_, transfer⟩, uncreated⟩⟩
          rw [transfer, own gone]
          rfl
      | deleted mine confirmed =>
          rw [← own gone] at mine confirmed
          exact ⟨ticket, log, holds, mine, .inl confirmed⟩
  | _ => exact absurd gone tracked

variable {ticket : Ticket}

/-- A transfer settles with its key gone or rejected. -/
theorem Move.settles (move : Move stop action next emitted) (sound : Sound stop)
    {result : Except Problem Conclusion} {plan : Plan}
    (settled : .settled ticket result ∈ emitted) (transfer : ticket.work = .transfer plan) :
    next.keys.get? plan.privateKey = none ∨
      (plan.privateKey, .confirmedFailure) ∈ next.debts := by
  cases move with
  | settled ends settles =>
      cases List.mem_singleton.1 settled
      have safe : Ends ticket.work _ stop.keys result := sound.keys.safe ends
      have own : ticket.work.key = some plan.privateKey := by
        rw [transfer]
        rfl
      exact (safe.settled settles _ own).imp id fun rejected => mem_debts.2 ⟨rejected, nofun⟩
  | refused | transferred | retried | released | reserved | kept | cancelled =>
      cases List.mem_singleton.1 settled
  | _ => cases settled

/-! ## Deletions without an outcome -/

theorem Move.holds (move : Move stop action next emitted) (sound : Sound stop)
    {log : Log} (held : stop.worker.held = some (ticket, log))
    (doubtful : undecided log) : next.worker.held = some (ticket, log) := by
  cases move with
  | taken idle first =>
      rw [idle] at held
      cases held
  | settled ends settles =>
      have safe : Ends _ _ stop.keys _ := sound.keys.safe ends
      rw [ends] at held
      cases held
      rw [(safe.kept doubtful).1] at settles
      cases settles
  | kept ends unsettled =>
      rw [ends] at held
      exact held
  | looked looks =>
      rw [looks] at held
      exact held
  | changed changes =>
      rw [changes] at held
      exact held
  | asked answer asks retired =>
      have safe := sound.keys.safe asks
      rw [asks] at held
      cases held
      rw [safe.1.1] at doubtful
      cases doubtful
  | _ => exact held

/-- Behind a deletion without an outcome nothing is asked and the ticket is never settled. -/
theorem holds_forever {later : Stop} {further : List Event}
    (run : Run Stepped permitted stop further later) (sound : Sound stop)
    {log : Log} (held : stop.worker.held = some (ticket, log)) (doubtful : undecided log) :
    later.worker.held = some (ticket, log) := by
  have both : Sound later ∧ later.worker.held = some (ticket, log) := by
    induction run with
    | start => exact ⟨sound, held⟩
    | further before stepped allowed hypothesis =>
        have move := (move_of_stepped stepped).2
        exact ⟨move.sound hypothesis.1, move.holds hypothesis.1 hypothesis.2 doubtful⟩
  exact both.2

end Runs

/-! ## A resume and the debts -/

/-- The worker runs a transfer that asked for the creation of its key and has not reported; the
debts are its own. -/
def Unreported (stop : Stop) : Prop :=
  ∃ ticket log plan, stop.worker.held = some (ticket, log) ∧ ticket.work = .transfer plan ∧
    reported log = false ∧ creationAsked log ∧
    ∀ key state, (key, state) ∈ stop.debts → key = plan.privateKey

/-- What a resume that found no debt may rely on, and one that is in flight. -/
structure Guarded (stop : Stop) : Prop where
  window : stop.checked → stop.debts = [] ∨ Unreported stop
  flight : stop.resumeInFlight → (∀ key, stop.keys.get? key = none) ∧
    (∀ {ticket log plan}, stop.worker.held = some (ticket, log) → ticket.work = .transfer plan →
      reported log) ∧
    ∀ ticket ∈ stop.queue, ∀ plan, ticket.work ≠ .transfer plan

section Guard

variable {stop next : Stop} {action : Action} {emitted : List Event}

/-- Only a reservation puts a resume in flight. -/
theorem unsettled_of_move (move : Move stop action next emitted) {number : Nat}
    (old : number < stop.admitted) (unsettled : next.unsettled number) :
    stop.unsettled number := by
  have appended {work : Work} {worker : Worker} (same : worker = stop.worker)
      (either : ((stop.queue ++ [(⟨stop.admitted, work⟩ : Ticket)]).any (fun ticket => ticket.number = number) ||
        worker.held.any fun held => held.1.number = number) = true) :
      stop.unsettled number := by
    rw [List.any_append, List.any_cons, List.any_nil, Bool.or_false,
      decide_eq_false (Nat.ne_of_lt old).symm, Bool.or_false, same] at either
    exact either
  cases move with
  | transferred | retried | reserved => exact appended rfl unsettled
  | taken idle first =>
      unfold Stop.unsettled at unsettled ⊢
      rw [first, List.any_cons]
      obtain waits | runs := Bool.or_eq_true_iff.1 unsettled
      · rw [waits, Bool.or_true]
        rfl
      · have head : decide (_ = number) = true := runs
        rw [head]
        rfl
  | settled ends settled =>
      unfold Stop.unsettled at unsettled ⊢
      rw [Bool.or_eq_true_iff] at unsettled ⊢
      exact unsettled.imp id nofun
  | kept ends | looked ends | changed ends =>
      unfold Stop.unsettled at unsettled ⊢
      rw [ends]
      exact unsettled
  | asked answer ends retired =>
      unfold Stop.unsettled at unsettled ⊢
      rw [ends]
      exact unsettled
  | cancelled =>
      unfold Stop.unsettled at unsettled ⊢
      rw [Bool.or_eq_true_iff] at unsettled ⊢
      obtain waits | runs := unsettled
      · obtain ⟨ticket, member, same⟩ := List.any_eq_true.1 waits
        exact .inl (List.any_eq_true.2 ⟨ticket, List.mem_of_mem_filter member, same⟩)
      · exact .inr runs
  | _ => exact unsettled

variable {log : Log} {ticket : Ticket}

/-- A change where there was no debt leaves none, or it is one of a transfer that asked for the
creation of its key and has not reported. -/
theorem debts_of_change {after : Keys}
    (change : Change ticket.work log stop.keys after)
    (sound : KeysSound stop.keys stop.worker)
    (holds : stop.worker.held = some (ticket, log)) (free : stop.debts = []) :
    (∀ key state, after.get? key = some state → state = .live) ∨
      ∃ plan, ticket.work = .transfer plan ∧ reported log = false ∧ creationAsked log := by
  have live := debts_eq_nil.1 free
  cases change with
  | tracked transfer absent silent uncreated =>
      refine .inl fun key state found => ?_
      obtain ⟨_, rfl⟩ | ⟨_, before⟩ := Dictionary.get?_set_eq_some.1 found
      · rfl
      · exact live key state before
  | untracked transfer uncreated =>
      exact .inl fun key state found =>
        live key state (Dictionary.get?_erase_eq_some.1 found).2
  | deleted own confirmed =>
      exact .inl fun key state found =>
        live key state (Dictionary.get?_erase_eq_some.1 found).2
  | rejected transfer tracked silent decided sent => exact .inr ⟨_, transfer, silent, sent⟩
  | @doubtful key own tracked undecided silent sent =>
      obtain ⟨state, found⟩ := Option.ne_none_iff_exists'.1 tracked
      obtain rfl := live key state found
      obtain ⟨holder, before, held, _, alive, _⟩ := sound.owned found nofun
      rw [holds] at held
      cases held
      obtain ⟨⟨plan, transfer⟩, _⟩ := alive rfl
      exact .inr ⟨plan, transfer, silent, sent plan transfer⟩

theorem Guarded.window_changed {change : Keys → Keys}
    {later : Program Keys Answer (Except Problem Conclusion)}
    (changes : stop.worker = .running ticket (.update change later) log) (sound : Sound stop)
    (window : stop.debts = [] ∨ Unreported stop) :
    { stop with keys := change stop.keys, worker := .running ticket later log }.debts = [] ∨
      Unreported { stop with keys := change stop.keys, worker := .running ticket later log } := by
  have allowed : Change ticket.work log stop.keys (change stop.keys) :=
    (sound.keys.safe changes).1
  have holds : stop.worker.held = some (ticket, log) := by
    rw [changes]
    rfl
  obtain ⟨key, own, frame⟩ := allowed.frame
  have unreported {plan : Plan} (transfer : ticket.work = .transfer plan)
      (silent : reported log = false) (sent : creationAsked log)
      (debts : ∀ key state, (key, state) ∈ stop.debts → key = plan.privateKey) :
      Unreported { stop with keys := change stop.keys, worker := .running ticket later log } := by
    refine ⟨ticket, log, plan, rfl, transfer, silent, sent, fun other state member => ?_⟩
    by_cases same : other = key
    · rw [transfer] at own
      rw [same]
      exact (Option.some.inj own).symm
    · obtain ⟨found, open'⟩ := mem_debts.1 member
      exact debts other state (mem_debts.2 ⟨(frame other same).symm.trans found, open'⟩)
  obtain free | ⟨holder, before, plan, held, transfer, silent, sent, debts⟩ := window
  · obtain live | ⟨plan, transfer, silent, sent⟩ := debts_of_change allowed sound.keys holds free
    · exact .inl (debts_eq_nil.2 live)
    · refine .inr (unreported transfer silent sent fun other state member => ?_)
      rw [free] at member
      cases member
  · rw [holds] at held
    cases held
    exact .inr (unreported transfer silent sent debts)

/-- The worker keeps its ticket and what its log shows, and the keys stay. -/
theorem Unreported.keeps (unreported : Unreported stop) (same : next.keys = stop.keys)
    (held : ∀ {ticket log}, stop.worker.held = some (ticket, log) → ∃ later,
      next.worker.held = some (ticket, later) ∧ (reported log = false → reported later = false) ∧
        (creationAsked log → creationAsked later)) : Unreported next := by
  obtain ⟨ticket, log, plan, holds, transfer, silent, sent, debts⟩ := unreported
  obtain ⟨later, holdsLater, quiet, asked⟩ := held holds
  refine ⟨ticket, later, plan, holdsLater, transfer, quiet silent, asked sent, ?_⟩
  intro key state member
  obtain ⟨found, open'⟩ := mem_debts.1 member
  rw [same] at found
  exact debts key state (mem_debts.2 ⟨found, open'⟩)

/-- The debts of a transfer that has not reported are not left behind by its end. -/
theorem free_of_settled {result : Except Problem Conclusion}
    (ends : stop.worker = .running ticket (.finish result) log) (settled : settles log result)
    (sound : Sound stop) (unreported : Unreported stop) : stop.debts = [] := by
  obtain ⟨holder, before, plan, held, transfer, silent, sent, debts⟩ := unreported
  have safe : Ends ticket.work log stop.keys result := sound.keys.safe ends
  rw [ends] at held
  cases held
  have own : ticket.work.key = some plan.privateKey := by
    rw [transfer]
    rfl
  rw [List.eq_nil_iff_forall_not_mem]
  rintro ⟨key, state⟩ member
  obtain rfl := debts key state member
  obtain ⟨found, open'⟩ := mem_debts.1 member
  obtain gone | rejected := safe.settled settled _ own
  · rw [found] at gone
    cases gone
  · have published := safe.published settled plan transfer rejected sent
    rw [silent] at published
    cases published

theorem window_of_move (move : Move stop action next emitted) (sound : Sound stop)
    (quiet : stop.quiet action) (guarded : Guarded stop) (checked : next.checked) :
    next.debts = [] ∨ Unreported next := by
  have stays {ticket : Ticket} {log later : Log} {worker : Worker}
      (holds : stop.worker.held = some (ticket, log))
      (held : worker.held = some (ticket, later))
      (silent : reported log = false → reported later = false)
      (asked : creationAsked log → creationAsked later) :
      ∀ {other before}, stop.worker.held = some (other, before) → ∃ later,
        worker.held = some (other, later) ∧ (reported before = false → reported later = false) ∧
          (creationAsked before → creationAsked later) := by
    intro other before same
    rw [holds] at same
    cases same
    exact ⟨later, held, silent, asked⟩
  cases move with
  | refused => exact guarded.window checked
  | transferred unchecked | retried unchecked =>
      rw [unchecked] at checked
      cases checked
  | checked landed free => exact .inl free
  | released => cases checked
  | reserved => cases checked
  | taken idle first =>
      refine .inl ?_
      obtain free | ⟨ticket, log, plan, held, _⟩ := guarded.window checked
      · exact free
      · rw [idle] at held
        cases held
  | settled ends settled =>
      refine .inl ?_
      obtain free | unreported := guarded.window checked
      · exact free
      · have free := free_of_settled ends settled sound unreported
        exact free
  | kept ends | looked ends =>
      refine (guarded.window checked).imp id fun unreported => unreported.keeps rfl ?_
      exact stays (by rw [ends]; rfl) rfl id id
  | changed changes => exact Guarded.window_changed changes sound (guarded.window checked)
  | @asked _ ticket log question active later answer asks retired =>
      obtain free | unreported := guarded.window checked
      · exact .inl free
      · cases reports : question.reports with
        | true =>
            refine .inl ?_
            have publishing : stop.publishes = true := by
              unfold publishes
              rw [asks]
              exact reports
            unfold Stop.quiet at quiet
            rw [show stop.checked = true from checked, publishing] at quiet
            exact List.isEmpty_iff.1 quiet
        | false =>
            refine .inr (unreported.keeps rfl (stays (by rw [asks]; rfl) rfl ?_ ?_))
            · intro silent
              unfold reported
              rw [List.any_cons, reports]
              exact silent
            · intro sent
              unfold creationAsked
              rw [List.any_cons, Bool.or_eq_true_iff]
              exact .inr sent
  | cancelled => exact (guarded.window checked).imp id fun unreported =>
      unreported.keeps rfl fun held => ⟨_, held, id, id⟩
  | observed => exact (guarded.window checked).imp id fun unreported =>
      unreported.keeps rfl fun held => ⟨_, held, id, id⟩

/-- A move other than a reservation puts no resume in flight. -/
theorem inFlight_of_move (move : Move stop action next emitted) (sound : TicketsSound stop)
    (same : next.resumeTicket = stop.resumeTicket) (flies : next.resumeInFlight) :
    stop.resumeInFlight = true := by
  unfold resumeInFlight at flies ⊢
  rw [same] at flies
  cases resumed : stop.resumeTicket with
  | none =>
      rw [resumed] at flies
      cases flies
  | some number =>
      rw [resumed] at flies
      exact unsettled_of_move move (sound.resumed number resumed) flies

/-- A resume is reserved over no key at all. -/
theorem free_of_inactive (sound : Sound stop) (inactive : stop.active = none)
    (window : stop.debts = [] ∨ Unreported stop) :
    (∀ key, stop.keys.get? key = none) ∧
      (∀ {ticket log plan}, stop.worker.held = some (ticket, log) →
        ticket.work = .transfer plan → reported log) ∧
      ∀ ticket ∈ stop.queue, ∀ plan, ticket.work ≠ .transfer plan := by
  have reports {ticket : Ticket} {log : Log} {plan : Plan}
      (held : stop.worker.held = some (ticket, log)) (transfer : ticket.work = .transfer plan) :
      reported log = true := by
    by_contra silent
    have active := sound.tickets.recorded held transfer (eq_false_of_ne_true silent)
    rw [inactive] at active
    cases active
  refine ⟨fun key => ?_, reports, fun ticket member plan transfer => ?_⟩
  · obtain free | ⟨ticket, log, plan, held, transfer, silent, _⟩ := window
    · cases found : stop.keys.get? key with
      | none => rfl
      | some state =>
          obtain rfl := debts_eq_nil.1 free key state found
          obtain ⟨ticket, log, held, _, alive, _⟩ := sound.keys.owned found nofun
          obtain ⟨⟨plan, transfer⟩, silent⟩ := alive rfl
          rw [reports held transfer] at silent
          cases silent
    · rw [reports held transfer] at silent
      cases silent
  · have active := sound.tickets.waiting ticket member plan transfer
    rw [inactive] at active
    cases active

/-- A plan that may track nothing leaves the scope without keys. -/
theorem free_of_change {work : Work} {keys after : Keys}
    (change : Change work log keys after) (free : ∀ key, keys.get? key = none)
    (reports : ∀ plan, work = .transfer plan → reported log) (key : Text) :
    after.get? key = none := by
  have erased (other : Text) : (keys.erase other).get? key = none := by
    cases found : (keys.erase other).get? key with
    | none => rfl
    | some state => exact absurd (Dictionary.get?_erase_eq_some.1 found).2 (by rw [free]; nofun)
  cases change with
  | tracked transfer absent silent uncreated =>
      rw [reports _ transfer] at silent
      cases silent
  | untracked => exact erased _
  | deleted => exact erased _
  | rejected transfer tracked => exact absurd (free _) tracked
  | doubtful own tracked => exact absurd (free _) tracked

theorem Move.guarded (move : Move stop action next emitted) (sound : Sound stop)
    (quiet : stop.quiet action) (guarded : Guarded stop) : Guarded next := by
  refine ⟨window_of_move move sound quiet guarded, fun flies => ?_⟩
  have flew := fun same => inFlight_of_move move sound.tickets same flies
  have before := fun same => guarded.flight (flew same)
  cases move with
  | refused | checked | released => exact before rfl
  | transferred unchecked landed | retried unchecked landed =>
      rw [flew rfl] at landed
      cases landed
  | reserved found inactive =>
      obtain ⟨free, reports, plain⟩ := free_of_inactive sound inactive (guarded.window found)
      refine ⟨free, reports, fun ticket member plan transfer => ?_⟩
      obtain before | last := List.mem_append.1 member
      · exact plain ticket before plan transfer
      · cases List.mem_singleton.1 last
        cases transfer
  | taken idle first =>
      obtain ⟨free, reports, plain⟩ := before rfl
      rw [first] at plain
      refine ⟨free, fun held transfer => ?_, fun ticket member =>
        plain ticket (List.mem_cons_of_mem _ member)⟩
      cases held
      exact absurd transfer (plain _ List.mem_cons_self _)
  | settled ends settled =>
      obtain ⟨free, reports, plain⟩ := before rfl
      exact ⟨free, nofun, plain⟩
  | kept ends | looked ends =>
      obtain ⟨free, reports, plain⟩ := before rfl
      refine ⟨free, fun held transfer => ?_, plain⟩
      cases held
      exact reports (by rw [ends]; rfl) transfer
  | changed changes =>
      obtain ⟨free, reports, plain⟩ := before rfl
      have reported {plan : Plan} := @reports _ _ plan (congrArg Worker.held changes)
      refine ⟨free_of_change (sound.keys.safe changes).1 free fun plan => reported, ?_, plain⟩
      intro ticket log plan held transfer
      cases held
      exact reported transfer
  | asked answer asks retired =>
      obtain ⟨free, reports, plain⟩ := before rfl
      refine ⟨free, fun held transfer => ?_, plain⟩
      cases held
      unfold reported
      rw [List.any_cons, Bool.or_eq_true_iff]
      exact .inr (reports (congrArg Worker.held asks) transfer)
  | cancelled =>
      obtain ⟨free, reports, plain⟩ := before rfl
      exact ⟨free, reports, fun ticket member => plain ticket (List.mem_of_mem_filter member)⟩
  | observed gone retired => exact before rfl

end Guard

/-- No record is retired over a debt within a submission of a resume. -/
def Quiet (stop : Stop) (action : Action) : Prop := stop.quiet action

theorem guarded_of_run {scope : Scope} {events : List Event} {stop : Stop}
    (run : Run Stepped Quiet (opened scope) events stop) : Guarded stop := by
  induction run with
  | start => exact ⟨nofun, nofun⟩
  | further before stepped allowed hypothesis =>
      exact (move_of_stepped stepped).2.guarded (sound_of_run before) allowed hypothesis

/-! ## Every run -/

/-- A refused submission of a resume says so and changes nothing. -/
theorem checkResume_refused {stop : Stop} (owes : stop.debts ≠ []) :
    ∃ message, stop.checkResume = (stop, [.refused message]) := by
  unfold checkResume
  split
  · exact ⟨_, rfl⟩
  · split
    · exact ⟨_, rfl⟩
    · exact ⟨_, rfl⟩

theorem Move.admits {stop next : Stop} {action : Action} {emitted : List Event}
    (move : Move stop action next emitted) (sound : Sound stop) (guarded : Guarded stop)
    {ticket : Ticket} (admitted : .admitted ticket ∈ emitted) (resume : ticket.work = .resume) :
    stop.debts = [] := by
  cases move with
  | reserved found inactive =>
      refine debts_eq_nil.2 fun key state held => ?_
      rw [(free_of_inactive sound inactive (guarded.window found)).1 key] at held
      cases held
  | transferred | retried =>
      cases List.mem_singleton.1 admitted
      cases resume
  | refused | released | settled | kept | cancelled => cases List.mem_singleton.1 admitted
  | _ => cases admitted

/-- In every run in which no transfer reports its rejected deletion between a resume's look at the
debts and its reservation: a key leaves after its confirmed deletion or before its creation was
asked for; a transfer settles with its key gone or rejected; behind a deletion without an outcome
nothing more is asked and the ticket stays, with an unknown key once the plan has ended, and every
unknown key has such a ticket; a resume is refused where there is a debt, and one that is admitted
or in flight meets none. -/
theorem temporary_keys_remembered {scope : Scope} {events : List Event} {stop : Stop}
    (run : Run Stepped Quiet (opened scope) events stop) :
    (∀ {action : Action} {next : Stop} {emitted : List Event}, Stepped stop action next emitted →
      (∀ key, stop.keys.get? key ≠ none → next.keys.get? key = none →
        ∃ ticket log, stop.worker.held = some (ticket, log) ∧ ticket.work.key = some key ∧
          (deleted key log ∨
            (∃ plan, ticket.work = .transfer plan) ∧ creationAsked log = false)) ∧
      (∀ ticket result plan, .settled ticket result ∈ emitted → ticket.work = .transfer plan →
        next.keys.get? plan.privateKey = none ∨
          (plan.privateKey, .confirmedFailure) ∈ next.debts) ∧
      ∀ ticket, .admitted ticket ∈ emitted → ticket.work = .resume → stop.debts = []) ∧
    (∀ ticket log, stop.worker.held = some (ticket, log) → undecided log →
      ∀ {further : List Event} {later : Stop},
        Run Stepped (fun _ _ => True) stop further later →
          later.worker.held = some (ticket, log)) ∧
    (∀ ticket log key, stop.worker = .stuck ticket log → undecided log →
      ticket.work.key = some key → (key, .unknown) ∈ stop.debts) ∧
    (∀ key, (key, .unknown) ∈ stop.debts → ∃ ticket log,
      stop.worker.held = some (ticket, log) ∧ ticket.work.key = some key ∧ undecided log) ∧
    (stop.debts ≠ [] → ∃ message, stop.checkResume = (stop, [.refused message])) ∧
    (stop.resumeInFlight → stop.debts = []) := by
  have sound := sound_of_run run
  have guarded := guarded_of_run run
  refine ⟨fun stepped => ?_, ?_, ?_, ?_, checkResume_refused, fun flies => ?_⟩
  · have move := (move_of_stepped stepped).2
    exact ⟨fun key tracked gone => move.leaves sound tracked gone,
      fun ticket result plan settled transfer => move.settles sound settled transfer,
      fun ticket admitted resume => move.admits sound guarded admitted resume⟩
  · intro ticket log held doubtful further later rest
    exact holds_forever rest sound held doubtful
  · intro ticket log key stuck doubtful own
    exact mem_debts.2 ⟨sound.keys.doubtful stuck doubtful key own, nofun⟩
  · intro key debt
    obtain ⟨found, open'⟩ := mem_debts.1 debt
    obtain ⟨ticket, log, held, own, _, unknown⟩ := sound.keys.owned found nofun
    exact ⟨ticket, log, held, own, unknown rfl⟩
  · refine debts_eq_nil.2 fun key state found => ?_
    rw [(guarded.flight flies).1 key] at found
    cases found

/-! ## A debt between the look and the reservation -/

def readyScope : Scope := ⟨true, true, some 0⟩

def valuePlan : Plan :=
  ⟨"Результат = 1;".toList, "__onec_value_".toList ++ List.replicate 32 '0',
    "Результат = 2;".toList, 2048⟩

/-- Every evaluation returns with an error. -/
def rejecting : (question : Question) → Answer question
  | .prepare | .admitMetadata | .fail _ | .complete => .ok ()
  | .shieldWorkspace | .restoreWorkspace | .resume => .done
  | .evaluate _ => .returned true
  | .evaluationToPython | .decode => .ok none

/-- A transfer up to the answer to its deletion. -/
def upToDeletion : List Action :=
  [.submitCaptureMaterialization valuePlan none, .take] ++ List.replicate 7 (.work rejecting)

/-- The witness of the law: the deletion was rejected and noted, and the resume is refused. -/
theorem temporary_keys_remembered_rejected :
    ∃ events stop, Run Stepped Quiet (opened readyScope) events stop ∧
      stop.debts = [(valuePlan.privateKey, .confirmedFailure)] ∧
      ∃ message, stop.checkResume = (stop, [.refused message]) := by
  have ran : ((taken step quiet (opened readyScope)
      (upToDeletion ++ List.replicate 2 (.work rejecting))).map fun result => result.1.debts) =
      some [(valuePlan.privateKey, .confirmedFailure)] := by decide +kernel
  obtain ⟨⟨stop, events⟩, result, debts⟩ := Option.map_eq_some_iff.1 ran
  have run : Run Stepped Quiet (opened readyScope) events stop := run_of_taken result
  have owes : stop.debts ≠ [] := by
    rw [show stop.debts = _ from debts]
    exact List.cons_ne_nil _ _
  exact ⟨events, stop, run, debts,
    (temporary_keys_remembered run).2.2.2.2.1 owes⟩

/-- A resume looks at the debts before the rejection of the deletion is noted and reserves the
stop after it was reported; it is in flight with the key still there. -/
theorem resumed_over_debt :
    ∃ events stop, Run Stepped (fun _ _ => True) (opened readyScope) events stop ∧
      stop.resumeInFlight ∧ stop.debts = [(valuePlan.privateKey, .confirmedFailure)] := by
  have ran : ((taken step (fun _ _ => true) (opened readyScope)
      (upToDeletion ++ .checkResume :: List.replicate 3 (.work rejecting) ++
        [.reserveResume none])).map fun result => (result.1.resumeInFlight, result.1.debts)) =
      some (true, [(valuePlan.privateKey, .confirmedFailure)]) := by decide +kernel
  obtain ⟨⟨stop, events⟩, result, same⟩ := Option.map_eq_some_iff.1 ran
  obtain ⟨flies, debts⟩ := Prod.mk.inj same
  exact ⟨events, stop, (run_of_taken result).weaken fun _ _ _ => trivial, flies, debts⟩

end Stop

end OnecRuntime.Materialization
