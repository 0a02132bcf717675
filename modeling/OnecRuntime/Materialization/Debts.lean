import OnecRuntime.Materialization.KeyLaw

/-!
# Keys over a run

Every key that is not a rejected one belongs to the ticket of the worker, whose record is active
while the key is live or the transfer has not reported.
-/

namespace OnecRuntime.Materialization

open OnecRuntime.Library

namespace Stop

/-! ## Moves -/

/-- Everything that a step can do. -/
inductive Move (stop : Stop) : Action → Stop → List Event → Prop
  | refused {action : Action} {message : String} : Move stop action stop [.refused message]
  | transferred {plan : Plan} {refusal : Option String} (unchecked : stop.checked = false)
      (landed : stop.resumeInFlight = false) (inactive : stop.active = none) :
      Move stop (.submitCaptureMaterialization plan refusal)
        { stop with
          active := some stop.admitted
          queue := stop.queue ++ [⟨stop.admitted, .transfer plan⟩]
          admitted := stop.admitted + 1 }
        [.admitted ⟨stop.admitted, .transfer plan⟩]
  | retried {key : Text} {refusal : Option String} (unchecked : stop.checked = false)
      (landed : stop.resumeInFlight = false) (rejected : (key, .confirmedFailure) ∈ stop.debts) :
      Move stop (.submitCaptureCleanupRetry key refusal)
        { stop with
          queue := stop.queue ++ [⟨stop.admitted, .retry key⟩], admitted := stop.admitted + 1 }
        [.admitted ⟨stop.admitted, .retry key⟩]
  | checked (landed : stop.resumeInFlight = false) (free : stop.debts = []) :
      Move stop .checkResume { stop with checked := true } []
  | released {refusal : Option String} {message : String} :
      Move stop (.reserveResume refusal) { stop with checked := false } [.refused message]
  | reserved {refusal : Option String} (found : stop.checked) (inactive : stop.active = none) :
      Move stop (.reserveResume refusal)
        { stop with
          checked := false, resuming := true, resumeTicket := some stop.admitted
          queue := stop.queue ++ [⟨stop.admitted, .resume⟩], admitted := stop.admitted + 1 }
        [.admitted ⟨stop.admitted, .resume⟩]
  | taken {ticket : Ticket} {rest : List Ticket} (idle : stop.worker = .idle)
      (first : stop.queue = ticket :: rest) :
      Move stop .take
        { stop with
          queue := rest, worker := .running ticket (ticket.work.script stop.scope).run [] } []
  | settled {answers : (question : Question) → Answer question} {ticket : Ticket}
      {result : Except Problem Conclusion} {log : Log} {closed : Bool}
      (ends : stop.worker = .running ticket (.finish result) log) (settled : settles log result) :
      Move stop (.work answers) { stop with worker := .idle, closed := closed }
        [.settled ticket result]
  | kept {answers : (question : Question) → Answer question} {ticket : Ticket}
      {result : Except Problem Conclusion} {log : Log}
      (ends : stop.worker = .running ticket (.finish result) log)
      (unsettled : settles log result = false) :
      Move stop (.work answers) { stop with worker := .stuck ticket log } [.kept ticket]
  | looked {answers : (question : Question) → Answer question} {ticket : Ticket} {log : Log}
      {later : Keys → Program Keys Answer (Except Problem Conclusion)}
      (looks : stop.worker = .running ticket (.look later) log) :
      Move stop (.work answers) { stop with worker := .running ticket (later stop.keys) log } []
  | changed {answers : (question : Question) → Answer question} {ticket : Ticket} {log : Log}
      {change : Keys → Keys} {later : Program Keys Answer (Except Problem Conclusion)}
      (changes : stop.worker = .running ticket (.update change later) log) :
      Move stop (.work answers)
        { stop with keys := change stop.keys, worker := .running ticket later log } []
  | asked {answers : (question : Question) → Answer question} {ticket : Ticket} {log : Log}
      {question : Question} {active : Option Nat}
      {later : Answer question → Program Keys Answer (Except Problem Conclusion)}
      (answer : Answer question) (asks : stop.worker = .running ticket (.ask question later) log)
      (retired : active = stop.active ∨
        question.reports ∧ stop.active = some ticket.number ∧ active = none) :
      Move stop (.work answers)
        { stop with
          active := active
          worker := .running ticket (later answer) (⟨question, answer⟩ :: log) } []
  | cancelled {ticket : Ticket} :
      Move stop (.cancel ticket) { stop with queue := stop.queue.filter (· ≠ ticket) }
        [.cancelled ticket]
  | observed {receipt : Nat} {active : Option Nat} (gone : stop.unsettled receipt = false)
      (retired : active = stop.active ∨ stop.active = some receipt ∧ active = none) :
      Move stop (.observe receipt) { stop with active := active } []

variable {stop next : Stop} {emitted : List Event}

variable {refusal : Option String}

theorem move_of_submitted {plan : Plan}
    (unchecked : stop.checked = false)
    (submitted : stop.submitCaptureMaterialization plan refusal = (next, emitted)) :
    Move stop (.submitCaptureMaterialization plan refusal) next emitted := by
  unfold submitCaptureMaterialization at submitted
  split at submitted
  · cases submitted
    exact .refused
  · rename_i landed
    split at submitted
    · cases submitted
      exact .refused
    · split at submitted
      · cases submitted
        exact .refused
      · rename_i inactive
        cases refusal with
        | some message =>
            cases submitted
            exact .refused
        | none =>
            cases submitted
            exact .transferred unchecked (eq_false_of_ne_true landed) (not_not.1 inactive)

theorem move_of_retried {key : Text}
    (unchecked : stop.checked = false)
    (submitted : stop.submitCaptureCleanupRetry key refusal = (next, emitted)) :
    Move stop (.submitCaptureCleanupRetry key refusal) next emitted := by
  unfold submitCaptureCleanupRetry at submitted
  split at submitted
  · cases submitted
    exact .refused
  · rename_i landed
    split at submitted
    · cases submitted
      exact .refused
    · split at submitted
      · cases submitted
        exact .refused
      · rename_i rejected
        cases refusal with
        | some message =>
            cases submitted
            exact .refused
        | none =>
            cases submitted
            exact .retried unchecked (eq_false_of_ne_true landed) (not_not.1 rejected)

theorem move_of_checked
    (submitted : stop.checkResume = (next, emitted)) : Move stop .checkResume next emitted := by
  unfold checkResume at submitted
  split at submitted
  · cases submitted
    exact .refused
  · rename_i landed
    split at submitted
    · cases submitted
      exact .refused
    · split at submitted
      · cases submitted
        exact .refused
      · rename_i free
        cases submitted
        exact .checked (eq_false_of_ne_true landed) (not_not.1 free)

theorem move_of_reserved
    (found : stop.checked) (submitted : stop.reserveResume refusal = (next, emitted)) :
    Move stop (.reserveResume refusal) next emitted := by
  unfold reserveResume at submitted
  dsimp only at submitted
  split at submitted
  · cases submitted
    exact .released
  · rename_i inactive
    cases refusal with
    | some message =>
        cases submitted
        exact .released
    | none =>
        cases submitted
        exact .reserved found (not_not.1 inactive)

theorem ledger_active (stop : Stop) (receipt : Nat) :
    ∃ active, (stop.ledger receipt).2 = { stop with active := active } ∧
      (active = stop.active ∨ stop.active = some receipt ∧ active = none) := by
  unfold ledger retire
  by_cases own : stop.active = some receipt
  · rw [if_pos own]
    exact ⟨none, rfl, .inr ⟨own, rfl⟩⟩
  · rw [if_neg own]
    exact ⟨stop.active, rfl, .inl rfl⟩

theorem reply_active (stop : Stop) (receipt : Nat)
    (answers : (question : Question) → Answer question) (question : Question) :
    ∃ active, (stop.reply receipt answers question).2 = { stop with active := active } ∧
      (active = stop.active ∨
        question.reports ∧ stop.active = some receipt ∧ active = none) := by
  obtain ⟨active, same, retired⟩ := stop.ledger_active receipt
  cases question with
  | fail error => exact ⟨active, same, retired.imp id fun retired => ⟨rfl, retired⟩⟩
  | complete => exact ⟨active, same, retired.imp id fun retired => ⟨rfl, retired⟩⟩
  | _ => exact ⟨stop.active, rfl, .inl rfl⟩

theorem move_of_worked {answers : (question : Question) → Answer question}
    (worked : stop.work answers = some (next, emitted)) :
    Move stop (.work answers) next emitted := by
  unfold work at worked
  split at worked
  · rename_i ticket result log ends
    split at worked
    · rename_i settled
      cases worked
      exact .settled ends settled
    · rename_i unsettled
      cases worked
      exact .kept ends (eq_false_of_ne_true unsettled)
  · rename_i ticket later log looks
    cases worked
    exact .looked looks
  · rename_i ticket change later log changes
    cases worked
    exact .changed changes
  · rename_i ticket question later log asks
    obtain ⟨active, replied, retired⟩ := stop.reply_active ticket.number answers question
    dsimp only at worked
    rw [replied] at worked
    cases worked
    exact .asked _ asks retired
  · cases worked

variable {action : Action}

theorem move_of_stepped (stepped : Stepped stop action next emitted) :
    stop.closed = false ∧ Move stop action next emitted := by
  unfold Stepped step at stepped
  split at stepped
  · cases stepped
  rename_i opened
  refine ⟨eq_false_of_ne_true opened, ?_⟩
  cases action with
  | submitCaptureMaterialization plan refusal =>
      dsimp only at stepped
      split at stepped
      · cases stepped
      · rename_i unchecked
        exact move_of_submitted (eq_false_of_ne_true unchecked) (Option.some.inj stepped)
  | submitCaptureCleanupRetry key refusal =>
      dsimp only at stepped
      split at stepped
      · cases stepped
      · rename_i unchecked
        exact move_of_retried (eq_false_of_ne_true unchecked) (Option.some.inj stepped)
  | checkResume =>
      dsimp only at stepped
      split at stepped
      · cases stepped
      · exact move_of_checked (Option.some.inj stepped)
  | reserveResume refusal =>
      dsimp only at stepped
      split at stepped
      · rename_i found
        exact move_of_reserved found (Option.some.inj stepped)
      · cases stepped
  | take =>
      dsimp only at stepped
      unfold take at stepped
      split at stepped
      · rename_i ticket rest idle first
        cases stepped
        exact .taken idle first
      · cases stepped
  | work answers => exact move_of_worked stepped
  | cancel ticket =>
      dsimp only at stepped
      unfold cancel at stepped
      split at stepped
      · cases stepped
        exact .cancelled
      · cases stepped
  | observe receipt =>
      dsimp only at stepped
      unfold observe retire at stepped
      split at stepped
      · rename_i seen
        split at stepped
        · rename_i retired
          split at retired
          · rename_i active
            cases retired
            cases stepped
            exact .observed seen.2 (.inr ⟨active, rfl⟩)
          · cases retired
        · cases stepped
          exact .observed seen.2 (.inl rfl)
      · cases stepped

/-! ## The keys and the worker -/

/-- The plan of the worker is safe, and every key that is not a rejected one is its own. -/
structure KeysSound (keys : Keys) (worker : Worker) : Prop where
  safe : ∀ {ticket script log}, worker = .running ticket script log →
    Safe ticket.work script log keys
  owned : ∀ {key state}, keys.get? key = some state → state ≠ .confirmedFailure →
    ∃ ticket log, worker.held = some (ticket, log) ∧ ticket.work.key = some key ∧
      (state = .live → (∃ plan, ticket.work = .transfer plan) ∧ reported log = false) ∧
      (state = .unknown → undecided log)
  doubtful : ∀ {ticket log}, worker = .stuck ticket log → undecided log →
    ∀ key, ticket.work.key = some key → keys.get? key = some .unknown

namespace KeysSound

variable {keys : Keys} {worker : Worker} {ticket : Ticket} {log : Log}

theorem opened : KeysSound .empty .idle := ⟨nofun, nofun, nofun⟩

theorem rejected (sound : KeysSound keys .idle) (key : Text) :
    keys.get? key = none ∨ keys.get? key = some .confirmedFailure := by
  cases found : keys.get? key with
  | none => exact .inl rfl
  | some state =>
      by_cases rejected : state = .confirmedFailure
      · rw [rejected]
        exact .inr rfl
      · obtain ⟨ticket, log, held, _⟩ := sound.owned found rejected
        cases held

theorem taken (sound : KeysSound keys .idle) (scope : Scope) (ticket : Ticket) :
    KeysSound keys (.running ticket (ticket.work.script scope).run []) := by
  refine ⟨?_, ?_, nofun⟩
  · intro other script log same
    cases same
    exact safe_script scope ticket.work fun key _ => sound.rejected key
  · intro key state found live
    obtain ⟨ticket, log, held, _⟩ := sound.owned found live
    cases held

theorem looked {later : Keys → Program Keys Answer (Except Problem Conclusion)}
    (sound : KeysSound keys (.running ticket (.look later) log)) :
    KeysSound keys (.running ticket (later keys) log) := by
  have safe := sound.safe rfl
  refine ⟨?_, sound.owned, nofun⟩
  intro other script log same
  cases same
  exact safe

theorem changed {change : Keys → Keys} {later : Program Keys Answer (Except Problem Conclusion)}
    (sound : KeysSound keys (.running ticket (.update change later) log)) :
    KeysSound (change keys) (.running ticket later log) := by
  obtain ⟨allowed, safe⟩ := sound.safe rfl
  refine ⟨?_, ?_, nofun⟩
  · intro other script log same
    cases same
    exact safe
  · intro key state found live
    generalize after : change keys = next at allowed found
    cases allowed with
    | tracked transfer absent silent uncreated =>
        obtain ⟨rfl, rfl⟩ | ⟨apart, before⟩ := Dictionary.get?_set_eq_some.1 found
        · refine ⟨ticket, log, rfl, ?_, fun _ => ⟨⟨_, transfer⟩, silent⟩, nofun⟩
          rw [transfer]
          rfl
        · exact sound.owned before live
    | untracked transfer uncreated =>
        exact sound.owned (Dictionary.get?_erase_eq_some.1 found).2 live
    | deleted own confirmed =>
        exact sound.owned (Dictionary.get?_erase_eq_some.1 found).2 live
    | rejected transfer tracked silent decided sent =>
        obtain ⟨rfl, rfl⟩ | ⟨apart, before⟩ := Dictionary.get?_set_eq_some.1 found
        · exact absurd rfl live
        · exact sound.owned before live
    | doubtful own tracked undecided silent sent =>
        obtain ⟨rfl, rfl⟩ | ⟨apart, before⟩ := Dictionary.get?_set_eq_some.1 found
        · exact ⟨ticket, log, rfl, own, nofun, fun _ => undecided⟩
        · exact sound.owned before live

theorem asked {question : Question}
    {later : Answer question → Program Keys Answer (Except Problem Conclusion)}
    (sound : KeysSound keys (.running ticket (.ask question later) log))
    (answer : Answer question) :
    KeysSound keys (.running ticket (later answer) (⟨question, answer⟩ :: log)) := by
  obtain ⟨⟨decided, quiet⟩, safe⟩ := sound.safe rfl
  refine ⟨?_, ?_, nofun⟩
  · intro other script log same
    cases same
    exact safe answer
  · intro key state found live
    obtain ⟨holder, before, held, own, alive, unknown⟩ := sound.owned found live
    cases held
    refine ⟨ticket, _, rfl, own, fun same => ?_, fun same => ?_⟩
    · obtain ⟨transfer, silent⟩ := alive same
      refine ⟨transfer, ?_⟩
      unfold reported
      rw [List.any_cons, Bool.or_eq_false_iff]
      refine ⟨eq_false_of_ne_true fun reports => ?_, silent⟩
      rw [same] at found
      exact quiet reports key own found
    · have doubt := unknown same
      rw [decided] at doubt
      cases doubt

theorem settled {result : Except Problem Conclusion}
    (sound : KeysSound keys (.running ticket (.finish result) log))
    (settled : settles log result) : KeysSound keys .idle := by
  refine ⟨nofun, ?_, nofun⟩
  intro key state found live
  obtain ⟨holder, before, held, own, _⟩ := sound.owned found live
  cases held
  have ends : Ends ticket.work log keys result := sound.safe rfl
  obtain gone | rejected := ends.settled settled key own
  · rw [found] at gone
    cases gone
  · rw [found] at rejected
    cases rejected
    exact absurd rfl live

theorem kept {result : Except Problem Conclusion}
    (sound : KeysSound keys (.running ticket (.finish result) log)) :
    KeysSound keys (.stuck ticket log) := by
  refine ⟨nofun, sound.owned, ?_⟩
  intro other before same undecided
  cases same
  have ends : Ends ticket.work log keys result := sound.safe rfl
  exact (ends.kept undecided).2

end KeysSound

theorem Move.keysSound
    (move : Move stop action next emitted) (sound : KeysSound stop.keys stop.worker) :
    KeysSound next.keys next.worker := by
  cases move with
  | refused | transferred | retried | checked | released | reserved | cancelled | observed =>
      exact sound
  | taken idle first =>
      rw [idle] at sound
      exact sound.taken _ _
  | settled ends settled =>
      rw [ends] at sound
      exact sound.settled settled
  | kept ends unsettled =>
      rw [ends] at sound
      exact sound.kept
  | looked looks =>
      rw [looks] at sound
      exact sound.looked
  | changed changes =>
      rw [changes] at sound
      exact sound.changed
  | asked answer asks retired =>
      rw [asks] at sound
      exact sound.asked answer

/-! ## The tickets and their records -/

/-- Numbers are used once; the record of a transfer is active until it is retired. -/
structure TicketsSound (stop : Stop) : Prop where
  queued : ∀ ticket ∈ stop.queue, ticket.number < stop.admitted
  apart : (stop.queue.map Ticket.number).Nodup
  held : ∀ {ticket log}, stop.worker.held = some (ticket, log) →
    ticket.number < stop.admitted ∧ ∀ waiting ∈ stop.queue, waiting.number ≠ ticket.number
  waiting : ∀ ticket ∈ stop.queue, ∀ plan, ticket.work = .transfer plan →
    stop.active = some ticket.number
  recorded : ∀ {ticket log plan}, stop.worker.held = some (ticket, log) →
    ticket.work = .transfer plan → reported log = false → stop.active = some ticket.number
  resumed : ∀ number, stop.resumeTicket = some number → number < stop.admitted

namespace TicketsSound

variable {stop : Stop}

theorem opened (scope : Scope) : TicketsSound (opened scope) :=
  ⟨nofun, List.nodup_nil, nofun, nofun, nofun, nofun⟩

/-- A new ticket, for a transfer where no record was active. -/
theorem enqueued (sound : TicketsSound stop) (work : Work) {active resumeTicket : Option Nat}
    {checked resuming : Bool}
    (begun : active = stop.active ∧ (∀ plan, work ≠ .transfer plan) ∨
      stop.active = none ∧ active = some stop.admitted)
    (resumed : ∀ number, resumeTicket = some number → number < stop.admitted + 1) :
    TicketsSound { stop with
      active, resumeTicket, checked, resuming
      queue := stop.queue ++ [⟨stop.admitted, work⟩], admitted := stop.admitted + 1 } where
  queued ticket member := by
    obtain before | last := List.mem_append.1 member
    · exact Nat.lt_succ_of_lt (sound.queued ticket before)
    · cases List.mem_singleton.1 last
      exact Nat.lt_succ_self _
  apart := by
    rw [List.map_append, List.map_singleton]
    refine List.nodup_append.2 ⟨sound.apart, List.nodup_singleton _, ?_⟩
    intro number member other last same
    obtain ⟨ticket, before, rfl⟩ := List.mem_map.1 member
    cases List.mem_singleton.1 last
    exact Nat.ne_of_lt (sound.queued ticket before) same
  held {ticket log} holds := by
    obtain ⟨old, free⟩ := sound.held holds
    refine ⟨Nat.lt_succ_of_lt old, fun other member => ?_⟩
    obtain before | last := List.mem_append.1 member
    · exact free other before
    · cases List.mem_singleton.1 last
      exact (Nat.ne_of_lt old).symm
  waiting ticket member plan transfer := by
    obtain ⟨same, plain⟩ | ⟨inactive, begun⟩ := begun
    · obtain before | last := List.mem_append.1 member
      · exact same.trans (sound.waiting ticket before plan transfer)
      · cases List.mem_singleton.1 last
        exact absurd transfer (plain plan)
    · obtain before | last := List.mem_append.1 member
      · rw [sound.waiting ticket before plan transfer] at inactive
        cases inactive
      · cases List.mem_singleton.1 last
        exact begun
  recorded {ticket log plan} holds transfer silent := by
    obtain ⟨same, _⟩ | ⟨inactive, _⟩ := begun
    · exact same.trans (sound.recorded holds transfer silent)
    · rw [sound.recorded holds transfer silent] at inactive
      cases inactive
  resumed := resumed

theorem old_resumed (sound : TicketsSound stop) (number : Nat)
    (same : stop.resumeTicket = some number) : number < stop.admitted + 1 :=
  Nat.lt_succ_of_lt (sound.resumed number same)

end TicketsSound

theorem unsettled_of_waiting {ticket : Ticket} (member : ticket ∈ stop.queue) :
    stop.unsettled ticket.number = true := by
  unfold unsettled
  rw [Bool.or_eq_true_iff, List.any_eq_true]
  exact .inl ⟨ticket, member, decide_eq_true rfl⟩

theorem unsettled_of_held {ticket : Ticket} {log : Log}
    (holds : stop.worker.held = some (ticket, log)) : stop.unsettled ticket.number = true := by
  unfold unsettled
  rw [holds, Bool.or_eq_true_iff]
  exact .inr (decide_eq_true rfl)

theorem Move.ticketsSound
    (move : Move stop action next emitted) (sound : TicketsSound stop) : TicketsSound next := by
  cases move with
  | refused => exact sound
  | checked | released => exact ⟨sound.1, sound.2, sound.3, sound.4, sound.5, sound.6⟩
  | transferred unchecked landed inactive =>
      exact sound.enqueued _ (.inr ⟨inactive, rfl⟩) sound.old_resumed
  | retried unchecked landed rejected =>
      exact sound.enqueued _ (.inl ⟨rfl, nofun⟩) sound.old_resumed
  | reserved found inactive =>
      refine sound.enqueued _ (.inl ⟨rfl, nofun⟩) fun number same => ?_
      cases same
      exact Nat.lt_succ_self _
  | @taken ticket rest idle first =>
      have apart := sound.apart
      rw [first, List.map_cons, List.nodup_cons] at apart
      have member : ticket ∈ stop.queue := by
        rw [first]
        exact List.mem_cons_self
      have later {other : Ticket} (inRest : other ∈ rest) : other ∈ stop.queue := by
        rw [first]
        exact List.mem_cons_of_mem _ inRest
      refine ⟨fun other inRest => sound.queued other (later inRest), apart.2, ?_,
        fun other inRest => sound.waiting other (later inRest), ?_, sound.resumed⟩
      · intro other log holds
        cases holds
        refine ⟨sound.queued ticket member, fun waiting inRest same => apart.1 ?_⟩
        rw [← same]
        exact List.mem_map_of_mem inRest
      · intro other log plan holds transfer silent
        cases holds
        exact sound.waiting ticket member plan transfer
  | settled ends settled =>
      exact ⟨sound.queued, sound.apart, nofun, sound.waiting, nofun, sound.resumed⟩
  | kept ends unsettled =>
      have held := @sound.held
      have recorded := @sound.recorded
      rw [ends] at held recorded
      exact ⟨sound.queued, sound.apart, held, sound.waiting, recorded, sound.resumed⟩
  | looked looks =>
      have held := @sound.held
      have recorded := @sound.recorded
      rw [looks] at held recorded
      exact ⟨sound.queued, sound.apart, held, sound.waiting, recorded, sound.resumed⟩
  | changed changes =>
      have held := @sound.held
      have recorded := @sound.recorded
      rw [changes] at held recorded
      exact ⟨sound.queued, sound.apart, held, sound.waiting, recorded, sound.resumed⟩
  | @asked _ ticket log question active later answer asks retired =>
      have holds : stop.worker.held = some (ticket, log) := by
        rw [asks]
        rfl
      obtain ⟨old, free⟩ := sound.held holds
      refine ⟨sound.queued, sound.apart, ?_, ?_, ?_, sound.resumed⟩
      · intro other before held
        cases held
        exact ⟨old, free⟩
      · intro other member plan transfer
        have begun := sound.waiting other member plan transfer
        obtain same | ⟨_, own, _⟩ := retired
        · exact same.trans begun
        · exact absurd (Option.some.inj (begun.symm.trans own)) (free other member)
      · intro other before plan held transfer silent
        cases held
        unfold reported at silent
        rw [List.any_cons, Bool.or_eq_false_iff] at silent
        obtain same | ⟨reports, _⟩ := retired
        · exact same.trans (sound.recorded holds transfer silent.2)
        · exact absurd reports (ne_true_of_eq_false silent.1)
  | cancelled =>
      have before {other : Ticket} {ticket : Ticket}
          (member : other ∈ stop.queue.filter (· ≠ ticket)) : other ∈ stop.queue :=
        List.mem_of_mem_filter member
      refine ⟨fun other member => sound.queued other (before member),
        sound.apart.sublist (List.filter_sublist.map _), ?_,
        fun other member => sound.waiting other (before member), sound.recorded, sound.resumed⟩
      intro ticket log holds
      obtain ⟨old, free⟩ := sound.held holds
      exact ⟨old, fun other member => free other (before member)⟩
  | @observed receipt active gone retired =>
      -- The record that is retired belongs to no ticket that still waits or runs.
      have kept {number : Nat} (unsettled : stop.unsettled number = true)
          (begun : stop.active = some number) : active = some number := by
        obtain same | ⟨own, _⟩ := retired
        · exact same.trans begun
        · cases Option.some.inj (begun.symm.trans own)
          rw [gone] at unsettled
          cases unsettled
      refine ⟨sound.queued, sound.apart, sound.held, ?_, ?_, sound.resumed⟩
      · intro ticket member plan transfer
        exact kept (unsettled_of_waiting member) (sound.waiting ticket member plan transfer)
      · intro ticket log plan holds transfer silent
        exact kept (unsettled_of_held holds) (sound.recorded holds transfer silent)

end Stop

end OnecRuntime.Materialization
