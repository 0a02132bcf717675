import OnecRuntime.Settlement.Waiting

/-!
# Stops and tickets

The stops of a command are numbered from one, each the successor of the last one that
its registration published, and a ticket is reported at the stop that it names.
-/

namespace OnecRuntime.Settlement

open OnecRuntime.Library
open OnecRuntime.Main

variable {contents : Contents}

/-- What a reply says of a stop: nothing, or the successor of the last stop of a registration. -/
def Numbers (world : World contents) (operation : Nat) (reply : RuntimeReply contents) : Prop :=
  reply.stopSequence = none ∧ reply.captureTicket = none ∨
    ∃ registration, world.service.main.get? (world.commandId operation) = some registration ∧
      registration.record.operation = operation ∧
      reply.stopSequence = some (registration.lastPublishedStopSequence + 1) ∧
      reply.captureTicket = MainReplyPolicy.ticketId registration.record.captureTicket
        (world.commandId operation) (registration.lastPublishedStopSequence + 1)

variable {world : World contents} {operation : Nat}

theorem settled_replied {settled : Settled contents}
    {reply : RuntimeReply contents}
    (effect : MainEffect world.service world.objects operation settled)
    (replied : settled.answer = .replied reply) : Numbers world operation reply := by
  cases effect with
  | raised failure => cases replied
  | userStop kind unnumbered unticketed =>
      cases replied
      exact .inl ⟨unnumbered, unticketed⟩
  | captured found owned kind numbered ticketed =>
      cases replied
      exact .inr ⟨_, found, owned, numbered, ticketed⟩
  | terminal found owned kind named unnumbered unticketed finished =>
      rcases finished.main with ⟨_, answered⟩ | ⟨_, answered⟩
      · rw [answered] at replied
        cases replied
      · rw [answered] at replied
        cases replied
        exact .inl ⟨unnumbered, unticketed⟩

variable {action : Action contents}

theorem perform_replied {reply : RuntimeReply contents} {names : List CodeText}
    (replied : (world.perform action).2 = .settledMain operation (.replied reply) names) :
    Numbers world operation reply := by
  cases action with
  | registerMain registered payload prior ticket =>
      change (world.registerMain registered payload prior ticket).2 = _ at replied
      unfold World.registerMain at replied
      split at replied <;> cases replied
  | rebindNextCaptureTicket rebound ticket =>
      change (world.accepted _ _).2 = _ at replied
      unfold World.accepted at replied
      split at replied <;> cases replied
  | registerCapture scope payload base =>
      change (world.accepted _ _).2 = _ at replied
      unfold World.accepted at replied
      split at replied <;> cases replied
  | settleMain fault outcome payload =>
      change (world.settleMain fault outcome payload).2 = _ at replied
      rcases world.settleMain_cases fault outcome payload with
        ⟨settledFor, settled, _, effect, same⟩ | ⟨answer, same⟩
      · rw [same] at replied
        injection replied with named answered _
        subst named
        exact settled_replied effect answered
      · rw [same] at replied
        cases replied
  | settleCapture fault outcome payload =>
      change (world.settleCapture fault outcome payload).2 = _ at replied
      rcases world.settleCapture_cases fault outcome payload with ⟨_, _, _, same⟩ | ⟨_, same⟩
      · rw [same] at replied
        cases replied
      · rw [same] at replied
        cases replied
  | discardMain discarded => cases replied
  | discardCapture payload => cases replied
  | operationMoved moved phase pendingStop => cases replied
  | scopeMoved scope contextState frameIdentity observed => cases replied

theorem stopOf_eq_some {signal : Signal contents} {sequence : Nat}
    (published : signal.stopOf operation = some sequence) :
    ∃ reply names, signal = .settledMain operation (.replied reply) names ∧
      reply.stopSequence = some sequence := by
  unfold Signal.stopOf at published
  split at published
  · next settled reply names =>
      split at published
      · next same =>
          subst same
          exact ⟨reply, names, rfl, published⟩
      · cases published
  · cases published

/-- A published stop is the successor of the last one. -/
theorem perform_stop {sequence : Nat}
    (published : (world.perform action).2.stopOf operation = some sequence) :
    ∃ registration, world.service.main.get? (world.commandId operation) = some registration ∧
      registration.record.operation = operation ∧
      sequence = registration.lastPublishedStopSequence + 1 := by
  obtain ⟨reply, names, is, numbered⟩ := stopOf_eq_some published
  rcases perform_replied is with ⟨unnumbered, _⟩ | ⟨registration, found, owned, sequenced, _⟩
  · rw [unnumbered] at numbered
    cases numbered
  · rw [sequenced] at numbered
    exact ⟨registration, found, owned, (Option.some.inj numbered).symm⟩

theorem stopsOf_append (operation : Nat) (signals : List (Signal contents))
    (signal : Signal contents) :
    stopsOf operation (signals ++ [signal]) =
      stopsOf operation signals ++ (signal.stopOf operation).toList := by
  unfold stopsOf
  rw [List.filterMap_append]
  cases published : signal.stopOf operation with
  | none => simp [published]
  | some sequence => simp [published]

theorem perform_admitted (world : World contents) (action : Action contents) (operation : Nat) :
    operation ∈ (world.perform action).1.admitted ↔ operation ∈ world.admitted ∨
      ∃ ticket, (world.perform action).2 = .registeredMain operation ticket := by
  have accepts : ∀ {attempt : Except Failure (RouteSettlementService contents)}
      {signal : Signal contents}, (∀ ticket, signal ≠ .registeredMain operation ticket) →
      (operation ∈ (world.accepted attempt signal).1.admitted ↔ operation ∈ world.admitted ∨
        ∃ ticket, (world.accepted attempt signal).2 = .registeredMain operation ticket) := by
    intro attempt signal other
    unfold World.accepted
    split
    · exact ⟨.inl, fun either => either.elim id fun ⟨ticket, is⟩ => absurd is (other ticket)⟩
    · simp
  cases action with
  | registerMain registered payload prior ticket =>
      change operation ∈ (world.registerMain registered payload prior ticket).1.admitted ↔ _ ∨
        ∃ given, (world.registerMain registered payload prior ticket).2 = _
      unfold World.registerMain
      split
      · simp [eq_comm, or_comm]
      · simp
  | rebindNextCaptureTicket rebound ticket => exact accepts nofun
  | registerCapture scope payload base => exact accepts nofun
  | settleMain fault outcome payload =>
      change operation ∈ world.admitted ↔ _ ∨ ∃ ticket,
        (world.settleMain fault outcome payload).2 = _
      rcases world.settleMain_cases fault outcome payload with ⟨_, _, _, _, is⟩ | ⟨_, is⟩
      · rw [is]
        simp
      · rw [is]
        simp
  | settleCapture fault outcome payload =>
      change operation ∈ world.admitted ↔ _ ∨ ∃ ticket,
        (world.settleCapture fault outcome payload).2 = _
      rcases world.settleCapture_cases fault outcome payload with ⟨_, _, _, is⟩ | ⟨_, is⟩
      · rw [is]
        simp
      · rw [is]
        simp
  | discardMain discarded => simp [World.perform]
  | discardCapture payload => simp [World.perform]
  | operationMoved moved phase pendingStop => simp [World.perform]
  | scopeMoved scope contextState frameIdentity observed => simp [World.perform]

/-! ## Registrations in order -/

/-- What every run keeps about the registrations and about the stops of the commands. -/
structure Numbered (signals : List (Signal contents)) (world : World contents) : Prop where
  keyed : Keyed world
  admitted : ∀ {key registration}, world.service.main.get? key = some registration →
    registration.record.operation ∈ world.admitted
  valid : ∀ {key registration}, world.service.main.get? key = some registration →
    ∀ name ∈ registration.namespaceNames, name ≠ []
  unheard : ∀ operation, operation ∉ world.admitted → stopsOf operation signals = []
  numbered : ∀ {key registration}, world.service.main.get? key = some registration →
    stopsOf registration.record.operation signals =
      List.range' 1 registration.lastPublishedStopSequence
  stops : ∀ operation, ∃ count, stopsOf operation signals = List.range' 1 count
  given : ∀ {key registration ticket}, world.service.main.get? key = some registration →
    registration.record.captureTicket = some ticket →
    ∃ signal ∈ signals, signal.Gives registration.record.operation ticket

/-- A registration that was there before the step has the names that it had. -/
theorem RegistrationOrigin.before {signal : Signal contents} {key : Nat}
    {registration : MainRegistration contents}
    (origin : RegistrationOrigin world signal key registration) :
    (∃ before, world.service.main.get? key = some before ∧
      before.record.operation = registration.record.operation ∧
      before.namespaceNames = registration.namespaceNames) ∨
    signal = .registeredMain registration.record.operation registration.record.captureTicket ∧
      world.commandId registration.record.operation = key ∧
      ∀ name ∈ registration.namespaceNames, name ≠ [] := by
  cases origin with
  | kept found quiet => exact .inl ⟨registration, found, rfl, rfl⟩
  | fresh signalled own unpublished valid => exact .inr ⟨signalled, own, valid⟩
  | rebound found signalled changed => exact .inl ⟨_, found, by rw [changed]; rfl, by rw [changed]; rfl⟩
  | advanced found signalled numbered changed =>
      exact .inl ⟨_, found, by rw [changed]; rfl, by rw [changed]; rfl⟩

theorem registered_fresh
    {ticket : Option CaptureCorrelationTicket} (once : RegistersOnce world action)
    (signalled : (world.perform action).2 = .registeredMain operation ticket) :
    operation ∉ world.admitted := by
  cases action with
  | registerMain registered payload prior given =>
      change (world.registerMain registered payload prior given).2 = _ at signalled
      unfold World.registerMain at signalled
      split at signalled
      · cases signalled
        exact once
      · cases signalled
  | rebindNextCaptureTicket rebound given =>
      change (world.accepted _ _).2 = _ at signalled
      unfold World.accepted at signalled
      split at signalled <;> cases signalled
  | registerCapture scope payload base =>
      change (world.accepted _ _).2 = _ at signalled
      unfold World.accepted at signalled
      split at signalled <;> cases signalled
  | settleMain fault outcome payload =>
      change (world.settleMain fault outcome payload).2 = _ at signalled
      rcases world.settleMain_cases fault outcome payload with ⟨_, _, _, _, is⟩ | ⟨_, is⟩
      · rw [is] at signalled
        cases signalled
      · rw [is] at signalled
        cases signalled
  | settleCapture fault outcome payload =>
      change (world.settleCapture fault outcome payload).2 = _ at signalled
      rcases world.settleCapture_cases fault outcome payload with ⟨_, _, _, is⟩ | ⟨_, is⟩
      · rw [is] at signalled
        cases signalled
      · rw [is] at signalled
        cases signalled
  | discardMain discarded => cases signalled
  | discardCapture payload => cases signalled
  | operationMoved moved phase pendingStop => cases signalled
  | scopeMoved scope contextState frameIdentity observed => cases signalled

theorem perform_numbered {signals : List (Signal contents)}
    (numbered : Numbered signals world)
    (once : RegistersOnce world action) :
    Numbered (signals ++ [(world.perform action).2]) (world.perform action).1 := by
  have origin := @perform_origin _ world numbered.keyed action
  refine ⟨?_, ?_, ?_, ?_, ?_, ?_, ?_⟩
  · intro key registration found
    rw [perform_commandId]
    rcases (origin found).before with ⟨before, was, same, _⟩ | ⟨_, own, _⟩
    · rw [← same]
      exact numbered.keyed was
    · exact own
  · intro key registration found
    rw [perform_admitted]
    rcases (origin found).before with ⟨before, was, same, _⟩ | ⟨signalled, _, _⟩
    · rw [← same]
      exact .inl (numbered.admitted was)
    · exact .inr ⟨_, signalled⟩
  · intro key registration found
    rcases (origin found).before with ⟨before, was, _, same⟩ | ⟨_, _, valid⟩
    · rw [← same]
      exact numbered.valid was
    · exact valid
  · intro operation absent
    rw [perform_admitted, not_or] at absent
    rw [stopsOf_append, numbered.unheard operation absent.1]
    cases published : (world.perform action).2.stopOf operation with
    | none => rfl
    | some sequence =>
        obtain ⟨registration, found, owned, _⟩ := perform_stop published
        exact absurd (owned ▸ numbered.admitted found) absent.1
  · intro key registration found
    rw [stopsOf_append]
    cases origin found with
    | kept was quiet =>
        rw [numbered.numbered was, quiet]
        exact List.append_nil _
    | fresh signalled own unpublished valid =>
        rw [numbered.unheard _ (registered_fresh once signalled), signalled, unpublished]
        rfl
    | @rebound before ticket was signalled changed =>
        rw [signalled, changed]
        change stopsOf before.record.operation signals ++ [] = _
        rw [List.append_nil]
        exact numbered.numbered was
    | @advanced before reply stop names was signalled sequenced changed =>
        have published : (world.perform action).2.stopOf before.record.operation =
            some (before.lastPublishedStopSequence + 1) := by
          rw [signalled, ← sequenced]
          exact if_pos rfl
        rw [changed]
        change stopsOf before.record.operation signals ++
            ((world.perform action).2.stopOf before.record.operation).toList =
          List.range' 1 (before.lastPublishedStopSequence + 1)
        rw [numbered.numbered was, published, List.range'_concat, Nat.one_mul, Nat.add_comm 1]
        rfl
  · intro operation
    rw [stopsOf_append]
    cases published : (world.perform action).2.stopOf operation with
    | none =>
        obtain ⟨count, is⟩ := numbered.stops operation
        exact ⟨count, by rw [is]; exact List.append_nil _⟩
    | some sequence =>
        obtain ⟨registration, found, owned, rfl⟩ := perform_stop published
        refine ⟨registration.lastPublishedStopSequence + 1, ?_⟩
        rw [← owned, numbered.numbered found, List.range'_concat, Nat.one_mul, Nat.add_comm 1]
        rfl
  · intro key registration ticket found held
    have earlier : ∀ {before : MainRegistration contents},
        world.service.main.get? key = some before →
        before.record.captureTicket = some ticket →
        before.record.operation = registration.record.operation →
        ∃ signal ∈ signals ++ [(world.perform action).2],
          signal.Gives registration.record.operation ticket := by
      intro before was carried same
      obtain ⟨signal, member, gives⟩ := numbered.given was carried
      exact ⟨signal, List.mem_append_left _ member, same ▸ gives⟩
    have now : (world.perform action).2.Gives registration.record.operation ticket →
        ∃ signal ∈ signals ++ [(world.perform action).2],
          signal.Gives registration.record.operation ticket :=
      fun gives => ⟨_, List.mem_append_right _ List.mem_cons_self, gives⟩
    cases origin found with
    | kept was quiet => exact earlier was held rfl
    | fresh signalled own unpublished valid =>
        rw [held] at signalled
        exact now (.inl signalled)
    | rebound was signalled changed =>
        subst changed
        cases held
        exact now (.inr signalled)
    | advanced was signalled sequenced changed =>
        subst changed
        exact earlier was held rfl

end OnecRuntime.Settlement
