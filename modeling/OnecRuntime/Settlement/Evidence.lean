import OnecRuntime.Settlement.Calls

/-!
# Registrations and names along a step

Where a registration of the next state comes from, and what a step adds to the
namespace. The registration of a command is found under its own number, so a step for
one command leaves the registrations of the others.
-/

namespace OnecRuntime.Settlement

open OnecRuntime.Library
open OnecRuntime.Main

variable {contents : Contents}

abbrev World.commandId (world : World contents) (operation : Nat) : Nat :=
  (world.objects.operations operation).commandId

/-- Every registration stands under the number of its command. -/
def Keyed (world : World contents) : Prop :=
  ∀ {key registration}, world.service.main.get? key = some registration →
    world.commandId registration.record.operation = key

def Signal.stopOf (operation : Nat) : Signal contents → Option Nat
  | .settledMain settled (.replied reply) _ =>
      if settled = operation then reply.stopSequence else none
  | _ => none

/-- The stop numbers that were published for an operation. -/
def stopsOf (operation : Nat) (signals : List (Signal contents)) : List Nat :=
  signals.filterMap (Signal.stopOf operation)

def Signal.enters (operation : Nat) : Signal contents → Bool
  | .settledMain settled _ names => settled = operation && !names.isEmpty
  | _ => false

/-- A ticket was given to an operation. -/
def Signal.Gives (operation : Nat) (ticket : CaptureCorrelationTicket)
    (signal : Signal contents) : Prop :=
  signal = .registeredMain operation (some ticket) ∨ signal = .rebound operation ticket

/-- Where a registration of the next state comes from. -/
inductive RegistrationOrigin (world : World contents) (signal : Signal contents) (key : Nat)
    (registration : MainRegistration contents) : Prop
  | kept (found : world.service.main.get? key = some registration)
      (quiet : signal.stopOf registration.record.operation = none)
  | fresh (signalled : signal = .registeredMain registration.record.operation
        registration.record.captureTicket)
      (own : world.commandId registration.record.operation = key)
      (unpublished : registration.lastPublishedStopSequence = 0)
      (valid : ∀ name ∈ registration.namespaceNames, name ≠ [])
  | rebound {before : MainRegistration contents} {ticket : CaptureCorrelationTicket}
      (found : world.service.main.get? key = some before)
      (signalled : signal = .rebound before.record.operation ticket)
      (changed : registration = before.rebound ticket)
  | advanced {before : MainRegistration contents} {reply : RuntimeReply contents}
      {stop : Option (StopEvent contents)} {names : List CodeText}
      (found : world.service.main.get? key = some before)
      (signalled : signal = .settledMain before.record.operation (.replied reply) names)
      (numbered : reply.stopSequence = some (before.lastPublishedStopSequence + 1))
      (changed : registration = before.advanced stop)

/-- What a step adds to the namespace. -/
inductive NamesEffect (world next : World contents) (signal : Signal contents) : Prop
  | unchanged (same : next.service.namespaceOwner.names = world.service.namespaceOwner.names)
      (quiet : ∀ operation answer names, signal = .settledMain operation answer names → names = [])
      (quietCells : ∀ payload answer names,
        signal = .settledCapture payload answer names → names = [])
  | main {operation : Nat} {registration : MainRegistration contents}
      {reply : RuntimeReply contents} {answer : Answer contents}
      (signalled : signal = .settledMain operation answer (entered world.service next.service))
      (answered : answer = .replied reply ∨ answer = .interrupted reply)
      (found : world.service.main.get? (world.commandId operation) = some registration)
      (owned : registration.record.operation = operation)
      (terminal : reply.kind = .mainCompleted)
      (named : reply.operationId = world.commandId operation)
      (successful : reply.succeeded = true)
      (merged : next.service.namespaceOwner.names = mergeNames contents.casefold
        world.service.namespaceOwner.names registration.namespaceNames)
  | capture {payload : Nat} {registration : CaptureRegistration contents}
      {reply : RuntimeReply contents} {answer : Answer contents}
      (signalled : signal = .settledCapture payload answer (entered world.service next.service))
      (answered : answer = .replied reply ∨ answer = .interrupted reply)
      (found : world.service.capture.get? payload = some registration)
      (terminal : reply.kind = .captureCell)
      (named : reply.operationId =
        (world.objects.scopes registration.record.scope).identity.mainCommandId)
      (successful : reply.succeeded = true)
      (merged : next.service.namespaceOwner.names = mergeNames contents.casefold
        world.service.namespaceOwner.names registration.namespaceNames)

theorem entered_same {before after : RouteSettlementService contents}
    (same : after.namespaceOwner.names = before.namespaceOwner.names) :
    entered before after = [] := by
  unfold entered
  rw [same]
  exact List.filter_eq_nil_iff.2 fun name member => by simpa using member

variable {settled : Settled contents} {names : List CodeText}
  {service : RouteSettlementService contents} {reply : RuntimeReply contents}

/-- A terminal settlement leaves the namespace or publishes a success in it. -/
theorem Finished.owner {remove : RouteSettlementService contents → RouteSettlementService contents}
    (finished : Finished service reply names remove settled)
    (keeps : ∀ service, (remove service).namespaceOwner = service.namespaceOwner) :
    settled.service.namespaceOwner.names = service.namespaceOwner.names ∨
      reply.succeeded = true ∧
        (settled.answer = .replied reply ∨ settled.answer = .interrupted reply) ∧
        settled.service.namespaceOwner.names =
          mergeNames contents.casefold service.namespaceOwner.names names := by
  cases finished with
  | failed unsuccessful =>
      rw [keeps]
      exact .inl rfl
  | blocked successful => exact .inl rfl
  | merged successful published =>
      exact .inr ⟨successful, .inr rfl, (publishAdditions_ok published).2⟩
  | completed successful published =>
      rw [keeps]
      exact .inr ⟨successful, .inl rfl, (publishAdditions_ok published).2⟩

/-- A terminal settlement leaves the registrations or removes its own. -/
theorem Finished.main {commandId : Nat}
    (finished : Finished service reply names (RouteSettlementService.removeMain commandId) settled) :
    settled.service.main = service.main ∧ settled.answer = .interrupted reply ∨
      settled.service.main = service.main.erase commandId ∧ settled.answer = .replied reply := by
  cases finished with
  | failed unsuccessful => exact .inr ⟨rfl, rfl⟩
  | blocked successful => exact .inl ⟨rfl, rfl⟩
  | merged successful published => exact .inl ⟨rfl, rfl⟩
  | completed successful published => exact .inr ⟨rfl, rfl⟩

theorem Finished.capture {payload : Nat}
    (finished : Finished service reply names (RouteSettlementService.removeCapture payload)
      settled) :
    settled.service.capture = service.capture ∧ settled.answer = .interrupted reply ∨
      settled.service.capture = service.capture.erase payload ∧
        settled.answer = .replied reply := by
  cases finished with
  | failed unsuccessful => exact .inr ⟨rfl, rfl⟩
  | blocked successful => exact .inl ⟨rfl, rfl⟩
  | merged successful published => exact .inl ⟨rfl, rfl⟩
  | completed successful published => exact .inr ⟨rfl, rfl⟩

/-- The cells stay when a MAIN command is settled, and the commands when a cell is. -/
theorem Finished.others {remove : RouteSettlementService contents → RouteSettlementService contents}
    (finished : Finished service reply names remove settled) :
    ((∀ service, (remove service).capture = service.capture) →
        settled.service.capture = service.capture) ∧
      ((∀ service, (remove service).main = service.main) →
        settled.service.main = service.main) := by
  cases finished with
  | failed unsuccessful => exact ⟨fun keeps => keeps _, fun keeps => keeps _⟩
  | blocked successful => exact ⟨fun _ => rfl, fun _ => rfl⟩
  | merged successful published => exact ⟨fun _ => rfl, fun _ => rfl⟩
  | completed successful published => exact ⟨fun keeps => keeps _, fun keeps => keeps _⟩

namespace RouteSettlementService

variable {service next : RouteSettlementService contents} {objects : Objects contents}

theorem preparedNames_valid {statement : RoutePreparedStatement contents} {names : List CodeText}
    (prepared : preparedNames statement = .ok names) : ∀ name ∈ names, name ≠ [] := by
  unfold preparedNames at prepared
  split at prepared
  · cases prepared
  · split at prepared
    · next valid =>
        cases prepared
        exact valid
    · cases prepared

variable {operation : Nat}

theorem registerMain_ok {payload : MainPreparedPayload contents}
    {priorCaptureSequence : Int} {captureTicket : Option CaptureCorrelationTicket}
    (registered : service.registerMain objects operation payload priorCaptureSequence
      captureTicket = .ok next) :
    ∃ registration, registration.record.operation = operation ∧
      registration.record.captureTicket = captureTicket ∧
      registration.lastPublishedStopSequence = 0 ∧
      (∀ name ∈ registration.namespaceNames, name ≠ []) ∧
      (objects.operations operation).commandId ∉ service.main.keys ∧
      next = { service with
        main := service.main.set (objects.operations operation).commandId registration } := by
  unfold registerMain at registered
  split at registered
  · cases registered
  · obtain ⟨_, _, registered⟩ := bind_eq_ok.1 registered
    obtain ⟨_, _, registered⟩ := bind_eq_ok.1 registered
    obtain ⟨names, prepared, registered⟩ := bind_eq_ok.1 registered
    obtain ⟨_, absent, registered⟩ := bind_eq_ok.1 registered
    exact ⟨_, rfl, rfl, rfl, preparedNames_valid prepared, require_eq_ok.1 absent,
      (pure_eq_ok.1 registered).symm⟩

theorem publishedCaptureSuccessor_ok {registration : MainRegistration contents}
    {sequence : Nat}
    (found : service.publishedCaptureSuccessor objects operation = .ok (registration, sequence)) :
    service.main.get? (objects.operations operation).commandId = some registration ∧
      registration.record.operation = operation := by
  unfold publishedCaptureSuccessor at found
  split at found
  · cases found
  · next stored is =>
      obtain ⟨_, owned, found⟩ := bind_eq_ok.1 found
      obtain ⟨_, _, found⟩ := bind_eq_ok.1 found
      have same := congrArg Prod.fst (pure_eq_ok.1 found)
      simp only at same
      subst same
      exact ⟨is, require_eq_ok.1 owned⟩

theorem rebindNextCaptureTicket_ok {ticket : CaptureCorrelationTicket}
    (bound : service.rebindNextCaptureTicket objects operation ticket = .ok next) :
    ∃ registration,
      service.main.get? (objects.operations operation).commandId = some registration ∧
      registration.record.operation = operation ∧
      next = { service with
        main := service.main.set (objects.operations operation).commandId
          (registration.rebound ticket) } := by
  obtain ⟨⟨registration, sequence⟩, successor, bound⟩ := bind_eq_ok.1 bound
  obtain ⟨_, _, bound⟩ := bind_eq_ok.1 bound
  obtain ⟨_, _, bound⟩ := bind_eq_ok.1 bound
  obtain ⟨_, _, bound⟩ := bind_eq_ok.1 bound
  obtain ⟨found, owned⟩ := publishedCaptureSuccessor_ok successor
  exact ⟨registration, found, owned, (pure_eq_ok.1 bound).symm⟩

theorem registerCapture_ok {scope : Nat} {payload : CapturePreparedPayload contents}
    {base : List CodeText} (registered : service.registerCapture scope payload base = .ok next) :
    ∃ registration, (∀ name ∈ registration.namespaceNames, name ≠ []) ∧
      next = { service with capture := service.capture.set payload.ref registration } := by
  unfold registerCapture at registered
  split at registered
  · cases registered
  · obtain ⟨_, _, registered⟩ := bind_eq_ok.1 registered
    obtain ⟨names, prepared, registered⟩ := bind_eq_ok.1 registered
    split at registered
    · split at registered <;> cases registered
    · exact ⟨_, fun name member => preparedNames_valid prepared name (List.mem_filter.1 member).1,
        (pure_eq_ok.1 registered).symm⟩

end RouteSettlementService

/-! ## Along a step -/

theorem accepted_commandId (world : World contents)
    (attempt : Except Failure (RouteSettlementService contents)) (signal : Signal contents)
    (operation : Nat) :
    (world.accepted attempt signal).1.commandId operation = world.commandId operation := by
  unfold World.accepted
  split <;> rfl

/-- An operation keeps its command. -/
theorem perform_commandId (world : World contents) (action : Action contents) :
    (world.perform action).1.commandId = world.commandId := by
  funext operation
  cases action with
  | registerMain registered payload prior ticket =>
      change (world.registerMain registered payload prior ticket).1.commandId operation = _
      unfold World.registerMain
      split <;> rfl
  | rebindNextCaptureTicket rebound ticket => exact accepted_commandId world _ _ operation
  | registerCapture scope payload base => exact accepted_commandId world _ _ operation
  | settleMain fault outcome payload => rfl
  | settleCapture fault outcome payload => rfl
  | discardMain discarded => rfl
  | discardCapture payload => rfl
  | operationMoved moved phase pendingStop =>
      change ((world.moveOperation moved phase pendingStop).operations operation).commandId = _
      unfold World.moveOperation
      simp only
      split <;> rfl
  | scopeMoved scope contextState frameIdentity observed => rfl

theorem discardMain_cases (world : World contents) (operation : Nat) :
    world.service.discardMain world.objects operation = world.service ∧
        (∀ registration, world.service.main.get? (world.commandId operation) = some registration →
          registration.record.operation ≠ operation) ∨
      ∃ registration, world.service.main.get? (world.commandId operation) = some registration ∧
        registration.record.operation = operation ∧
        world.service.discardMain world.objects operation =
          { world.service with main := world.service.main.erase (world.commandId operation) } := by
  unfold RouteSettlementService.discardMain
  split
  · next missing =>
      refine .inl ⟨rfl, fun registration found => ?_⟩
      rw [missing] at found
      cases found
  · next registration found =>
      split
      · next owned => exact .inr ⟨registration, found, owned, rfl⟩
      · next foreign =>
          refine .inl ⟨rfl, fun other is => ?_⟩
          rw [found] at is
          cases is
          exact foreign

variable {operation : Nat}

theorem stopOf_settled {answer : Answer contents}
    (unnumbered : ∀ reply, answer = .replied reply → reply.stopSequence = none) (other : Nat) :
    (Signal.settledMain operation answer names).stopOf other = none := by
  cases answer with
  | replied reply =>
      unfold Signal.stopOf
      simp only
      split
      · exact unnumbered reply rfl
      · rfl
  | raised failure => rfl
  | interrupted reply => rfl

theorem stopOf_other {other : Nat} (apart : other ≠ operation)
    (answer : Answer contents) (names : List CodeText) :
    (Signal.settledMain operation answer names).stopOf other = none := by
  cases answer with
  | replied reply => exact if_neg apart.symm
  | raised failure => rfl
  | interrupted reply => rfl

variable {world : World contents}

theorem settled_origin (keyed : Keyed world)
    (effect : MainEffect world.service world.objects operation settled) (names : List CodeText)
    {key : Nat} {registration : MainRegistration contents}
    (found : settled.service.main.get? key = some registration) :
    RegistrationOrigin world (.settledMain operation settled.answer names) key registration := by
  cases effect with
  | raised failure => exact .kept found rfl
  | userStop kind unnumbered unticketed =>
      exact .kept found (stopOf_settled (fun reply is => by cases is; exact unnumbered) _)
  | captured before owned kind numbered ticketed =>
      subst owned
      rcases Dictionary.get?_set_eq_some.1 found with ⟨rfl, changed⟩ | ⟨apart, kept⟩
      · exact .advanced before rfl numbered changed
      · refine .kept kept (stopOf_other (fun same => apart ?_) _ _)
        rw [← keyed kept, same]
  | terminal before owned kind named unnumbered unticketed finished =>
      rcases finished.main with ⟨same, answered⟩ | ⟨erased, answered⟩
      · rw [same] at found
        rw [answered]
        exact .kept found rfl
      · rw [erased] at found
        rw [answered]
        exact .kept (Dictionary.get?_erase_eq_some.1 found).2
          (stopOf_settled (fun reply is => by cases is; exact unnumbered) _)

/-- Where the registrations after a call come from. -/
theorem perform_origin (keyed : Keyed world) (action : Action contents)
    {key : Nat} {registration : MainRegistration contents}
    (found : (world.perform action).1.service.main.get? key = some registration) :
    RegistrationOrigin world (world.perform action).2 key registration := by
  cases action with
  | registerMain operation payload prior ticket =>
      change (world.registerMain operation payload prior ticket).1.service.main.get? key = _ at found
      change RegistrationOrigin world (world.registerMain operation payload prior ticket).2 key _
      unfold World.registerMain at found ⊢
      split at found
      · next service registered =>
          obtain ⟨fresh, owned, ticketed, unpublished, valid, _, rfl⟩ :=
            RouteSettlementService.registerMain_ok registered
          simp only
          rcases Dictionary.get?_set_eq_some.1 found with ⟨rfl, rfl⟩ | ⟨_, kept⟩
          · subst owned
            exact .fresh (by rw [ticketed]) rfl unpublished valid
          · exact .kept kept rfl
      · next failure refused =>
          simp only
          exact .kept found rfl
  | rebindNextCaptureTicket operation ticket =>
      change (world.accepted _ _).1.service.main.get? key = _ at found
      change RegistrationOrigin world (world.accepted _ _).2 key _
      unfold World.accepted at found ⊢
      split at found
      · next service bound =>
          obtain ⟨before, was, owned, rfl⟩ :=
            RouteSettlementService.rebindNextCaptureTicket_ok bound
          simp only
          rcases Dictionary.get?_set_eq_some.1 found with ⟨rfl, rfl⟩ | ⟨_, kept⟩
          · subst owned
            exact .rebound was rfl rfl
          · exact .kept kept rfl
      · next failure refused =>
          simp only
          exact .kept found rfl
  | registerCapture scope payload base =>
      change (world.accepted _ _).1.service.main.get? key = _ at found
      change RegistrationOrigin world (world.accepted _ _).2 key _
      unfold World.accepted at found ⊢
      split at found
      · next service registered =>
          obtain ⟨fresh, _, rfl⟩ := RouteSettlementService.registerCapture_ok registered
          simp only
          exact .kept found rfl
      · next failure refused =>
          simp only
          exact .kept found rfl
  | settleMain fault outcome payload =>
      change (world.settleMain fault outcome payload).1.service.main.get? key = _ at found
      change RegistrationOrigin world (world.settleMain fault outcome payload).2 key registration
      rcases world.settleMain_cases fault outcome payload with
        ⟨operation, settled, _, effect, is⟩ | ⟨answer, is⟩
      · rw [is] at found ⊢
        exact settled_origin keyed effect _ found
      · rw [is] at found ⊢
        exact .kept found rfl
  | settleCapture fault outcome payload =>
      change (world.settleCapture fault outcome payload).1.service.main.get? key = _ at found
      change RegistrationOrigin world (world.settleCapture fault outcome payload).2 key registration
      rcases world.settleCapture_cases fault outcome payload with
        ⟨settled, _, effect, is⟩ | ⟨answer, is⟩
      · rw [is] at found ⊢
        have same : settled.service.main = world.service.main := by
          cases effect with
          | raised failure => rfl
          | terminal before kind named finished => exact finished.others.2 fun _ => rfl
        simp only [same] at found
        exact .kept found rfl
      · rw [is] at found ⊢
        exact .kept found rfl
  | discardMain operation =>
      change (world.service.discardMain world.objects operation).main.get? key = _ at found
      rcases discardMain_cases world operation with ⟨same, _⟩ | ⟨_, _, _, same⟩
      · rw [same] at found
        exact .kept found rfl
      · rw [same] at found
        exact .kept (Dictionary.get?_erase_eq_some.1 found).2 rfl
  | discardCapture payload => exact .kept found rfl
  | operationMoved operation phase pendingStop => exact .kept found rfl
  | scopeMoved scope contextState frameIdentity observed => exact .kept found rfl

def Signal.Settles : Signal contents → Prop
  | .settledMain .. | .settledCapture .. => True
  | _ => False

theorem NamesEffect.calm {next : World contents} {signal : Signal contents}
    (same : next.service.namespaceOwner.names = world.service.namespaceOwner.names)
    (calm : ¬signal.Settles) : NamesEffect world next signal := by
  refine .unchanged same ?_ ?_
  · rintro operation answer names rfl
    exact absurd trivial calm
  · rintro payload answer names rfl
    exact absurd trivial calm

theorem accepted_names (world : World contents)
    {attempt : Except Failure (RouteSettlementService contents)} {signal : Signal contents}
    (same : ∀ service, attempt = .ok service →
      service.namespaceOwner.names = world.service.namespaceOwner.names)
    (calm : ¬signal.Settles) :
    NamesEffect world (world.accepted attempt signal).1 (world.accepted attempt signal).2 := by
  cases attempt with
  | ok service => exact .calm (same service rfl) calm
  | error failure => exact .calm rfl id

theorem registerMain_names (world : World contents) (operation : Nat)
    (payload : MainPreparedPayload contents) (prior : Int)
    (ticket : Option CaptureCorrelationTicket) :
    NamesEffect world (world.registerMain operation payload prior ticket).1
      (world.registerMain operation payload prior ticket).2 := by
  unfold World.registerMain
  split
  · next service registered =>
      obtain ⟨fresh, _, _, _, _, _, rfl⟩ := RouteSettlementService.registerMain_ok registered
      exact .calm rfl id
  · exact .calm rfl id

theorem settled_names (effect : MainEffect world.service world.objects operation settled) :
    NamesEffect world { world with service := settled.service }
      (.settledMain operation settled.answer (entered world.service settled.service)) := by
  have quiet : settled.service.namespaceOwner.names = world.service.namespaceOwner.names →
      NamesEffect world { world with service := settled.service }
        (.settledMain operation settled.answer (entered world.service settled.service)) := by
    intro same
    refine .unchanged same ?_ ?_
    · intro _ _ names is
      cases is
      exact entered_same same
    · intro _ _ _ is
      cases is
  cases effect with
  | raised failure => exact quiet rfl
  | userStop kind unnumbered unticketed => exact quiet rfl
  | captured before owned kind numbered ticketed => exact quiet rfl
  | terminal before owned kind named unnumbered unticketed finished =>
      rcases finished.owner (fun _ => rfl) with same | ⟨successful, answered, merged⟩
      · exact quiet same
      · exact .main rfl answered before owned kind named successful merged

theorem settledCell_names {payload : Nat}
    (effect : CaptureEffect world.service world.objects payload settled) :
    NamesEffect world { world with service := settled.service }
      (.settledCapture payload settled.answer (entered world.service settled.service)) := by
  have quiet : settled.service.namespaceOwner.names = world.service.namespaceOwner.names →
      NamesEffect world { world with service := settled.service }
        (.settledCapture payload settled.answer (entered world.service settled.service)) := by
    intro same
    refine .unchanged same ?_ ?_
    · intro _ _ _ is
      cases is
    · intro _ _ names is
      cases is
      exact entered_same same
  cases effect with
  | raised failure => exact quiet rfl
  | terminal before kind named finished =>
      rcases finished.owner (fun _ => rfl) with same | ⟨successful, answered, merged⟩
      · exact quiet same
      · exact .capture rfl answered before kind named successful merged

/-- What a call adds to the namespace. -/
theorem perform_names (world : World contents) (action : Action contents) :
    NamesEffect world (world.perform action).1 (world.perform action).2 := by
  cases action with
  | registerMain operation payload prior ticket =>
      exact registerMain_names world operation payload prior ticket
  | rebindNextCaptureTicket operation ticket =>
      refine accepted_names world (fun service bound => ?_) id
      obtain ⟨_, _, _, rfl⟩ := RouteSettlementService.rebindNextCaptureTicket_ok bound
      rfl
  | registerCapture scope payload base =>
      refine accepted_names world (fun service registered => ?_) id
      obtain ⟨_, _, rfl⟩ := RouteSettlementService.registerCapture_ok registered
      rfl
  | settleMain fault outcome payload =>
      change NamesEffect world (world.settleMain fault outcome payload).1
        (world.settleMain fault outcome payload).2
      rcases world.settleMain_cases fault outcome payload with
        ⟨operation, settled, _, effect, is⟩ | ⟨answer, is⟩
      · rw [is]
        exact settled_names effect
      · rw [is]
        exact .calm rfl id
  | settleCapture fault outcome payload =>
      change NamesEffect world (world.settleCapture fault outcome payload).1
        (world.settleCapture fault outcome payload).2
      rcases world.settleCapture_cases fault outcome payload with
        ⟨settled, _, effect, is⟩ | ⟨answer, is⟩
      · rw [is]
        exact settledCell_names effect
      · rw [is]
        exact .calm rfl id
  | discardMain operation =>
      refine .calm ?_ id
      change (world.service.discardMain world.objects operation).namespaceOwner.names = _
      rcases discardMain_cases world operation with ⟨same, _⟩ | ⟨_, _, _, same⟩
      · rw [same]
      · rw [same]
  | discardCapture payload => exact .calm rfl id
  | operationMoved operation phase pendingStop => exact .calm rfl id
  | scopeMoved scope contextState frameIdentity observed => exact .calm rfl id

end OnecRuntime.Settlement
