import OnecRuntime.Library.Transitions
import OnecRuntime.Settlement.Service

/-!
# Calls of the settlement service

A call of the service, or a change of an operation or of a scope between two calls,
with what it answered. An operation keeps its command for life. The effect of a
settle call is one of a few: its spec lemma says which, and what its reply carries.
-/

namespace OnecRuntime.Settlement

open OnecRuntime.Library
open OnecRuntime.Main

variable {contents : Contents}

/-! ## Merged names -/

variable {casefold : CodeText → CodeText}

theorem setDefault_keys (merged : Dictionary CodeText CodeText) (name key : CodeText) :
    key ∈ (setDefault casefold merged name).keys ↔ key ∈ merged.keys ∨ key = casefold name := by
  unfold setDefault
  split
  · next stored =>
      constructor
      · exact .inl
      · rintro (held | rfl)
        · exact held
        · exact stored
  · rw [Dictionary.mem_keys_set]
    exact or_comm

theorem folded_keys (names : List CodeText) (merged : Dictionary CodeText CodeText)
    (key : CodeText) :
    key ∈ (names.foldl (setDefault casefold) merged).keys ↔
      key ∈ merged.keys ∨ key ∈ names.map casefold := by
  induction names generalizing merged with
  | nil => simp
  | cons name rest hypothesis =>
      rw [List.foldl_cons, hypothesis, setDefault_keys, List.map_cons, List.mem_cons, or_assoc]

/-- Every entry of a merged catalog was there or is a new name under its folded spelling. -/
theorem folded_entries (names : List CodeText) (merged : Dictionary CodeText CodeText)
    {entry : CodeText × CodeText}
    (member : entry ∈ (names.foldl (setDefault casefold) merged).entries) :
    entry ∈ merged.entries ∨
      entry.2 ∈ names ∧ entry.1 = casefold entry.2 ∧ entry.1 ∉ merged.keys := by
  induction names generalizing merged with
  | nil => exact .inl member
  | cons name rest hypothesis =>
      rcases hypothesis _ member with held | ⟨new, folded, absent⟩
      · unfold setDefault at held
        split at held
        · exact .inl held
        · next fresh =>
            rcases Dictionary.mem_set.1 held with rfl | ⟨_, was⟩
            · exact .inr ⟨List.mem_cons_self, rfl, fresh⟩
            · exact .inl was
      · refine .inr ⟨List.mem_cons_of_mem _ new, folded, fun was => absent ?_⟩
        exact (setDefault_keys merged name entry.1).2 (.inl was)

theorem mem_mergeNames {first second : List CodeText} {name : CodeText}
    (member : name ∈ mergeNames casefold first second) :
    name ∈ first ∨ name ∈ second ∧ casefold name ∉ first.map casefold := by
  obtain ⟨entry, held, rfl⟩ := List.mem_map.1 member
  rw [List.foldl_append] at held
  rcases folded_entries second _ held with was | ⟨new, folded, absent⟩
  · rcases folded_entries first _ was with impossible | ⟨named, _⟩
    · cases impossible
    · exact .inl named
  · refine .inr ⟨new, fun known => absent ?_⟩
    rw [folded]
    exact (folded_keys first _ _).2 (.inr known)

/-- Every name is in the merged catalog under some spelling. -/
theorem mergeNames_covers {first second : List CodeText} {name : CodeText}
    (named : name ∈ first ∨ name ∈ second) :
    casefold name ∈ (mergeNames casefold first second).map casefold := by
  have key : casefold name ∈ ((first ++ second).foldl (setDefault casefold) .empty).keys :=
    (folded_keys _ _ _).2 (.inr (List.mem_map_of_mem (List.mem_append.2 named)))
  obtain ⟨value, found⟩ := Dictionary.mem_keys.1 key
  have entry := Dictionary.get?_eq_some.1 found
  rcases folded_entries _ _ entry with impossible | ⟨_, folded, _⟩
  · cases impossible
  · have same : casefold name = casefold value := folded
    rw [same]
    exact List.mem_map_of_mem (List.mem_map_of_mem entry)

/-- The names are valid, and the owner afterwards has the merged catalog. -/
theorem publishAdditions_ok {owner next : RuntimeNamespaceOwner} {names : List CodeText}
    (published : owner.publishAdditions casefold names = .ok next) :
    (∀ name ∈ names, name ≠ []) ∧
      (next.names = mergeNames casefold owner.names names) := by
  obtain ⟨_, valid, rest⟩ := bind_eq_ok.1 published
  refine ⟨require_eq_ok.1 valid, ?_⟩
  simp only at rest
  split at rest
  · next same =>
      rw [← pure_eq_ok.1 rest]
      exact same.symm
  · rw [← pure_eq_ok.1 rest]

/-- Valid names are always published. -/
theorem publishAdditions_valid (owner : RuntimeNamespaceOwner) {names : List CodeText}
    (valid : ∀ name ∈ names, name ≠ []) :
    ∃ next, owner.publishAdditions casefold names = .ok next := by
  unfold RuntimeNamespaceOwner.publishAdditions require
  rw [if_pos valid, ok_bind]
  simp only
  split
  · exact ⟨_, rfl⟩
  · exact ⟨_, rfl⟩

/-! ## The calls -/

structure World (contents : Contents) where
  service : RouteSettlementService contents
  objects : Objects contents
  /-- The operations that were registered so far. -/
  admitted : List Nat

inductive Action (contents : Contents) where
  | registerMain (operation : Nat) (payload : MainPreparedPayload contents)
      (priorCaptureSequence : Int) (captureTicket : Option CaptureCorrelationTicket)
  | rebindNextCaptureTicket (operation : Nat) (ticket : CaptureCorrelationTicket)
  | registerCapture (scope : Nat) (payload : CapturePreparedPayload contents)
      (baseNamespaceNames : List CodeText)
  | settleMain (fault : Fault) (outcome : Outcome contents) (payload : MainPreparedPayload contents)
  | settleCapture (fault : Fault) (outcome : Outcome contents)
      (payload : CapturePreparedPayload contents)
  | discardMain (operation : Nat)
  | discardCapture (payload : Nat)
  /-- The controller moves an operation. -/
  | operationMoved (operation : Nat) (phase : MainPhase) (pendingStop : Option (StopEvent contents))
  /-- The controller moves a scope. -/
  | scopeMoved (scope : Nat) (contextState : CaptureContextState)
      (frameIdentity : CaptureFrameIdentity) (observedMainCommandId : Option Nat)

inductive Signal (contents : Contents) where
  | registeredMain (operation : Nat) (captureTicket : Option CaptureCorrelationTicket)
  | rebound (operation : Nat) (ticket : CaptureCorrelationTicket)
  | registeredCapture (payload : Nat)
  /-- A settle call for an operation, with the names that entered the namespace. -/
  | settledMain (operation : Nat) (answer : Answer contents) (entered : List CodeText)
  | settledCapture (payload : Nat) (answer : Answer contents) (entered : List CodeText)
  /-- A settle call of a Worker cell or of another outcome. -/
  | settledOther (answer : Answer contents)
  | discardedMain (operation : Nat)
  | discardedCapture (payload : Nat)
  | refused (failure : Failure)
  | moved

/-- The operation that a confirmed MAIN outcome names. -/
def Outcome.operation? : Outcome contents → Option Nat
  | .mainYield value => some value.operation
  | .mainDecodeFailure value => some value.operation
  | _ => none

/-- The names that a call added. -/
def entered (before after : RouteSettlementService contents) : List CodeText :=
  after.namespaceOwner.names.filter (· ∉ before.namespaceOwner.names)

namespace World

variable (world : World contents)

/-- A registration or a rebinding: its service, or the exception. -/
def accepted (attempt : Except Failure (RouteSettlementService contents))
    (signal : Signal contents) : World contents × Signal contents :=
  match attempt with
  | .ok service => ({ world with service }, signal)
  | .error failure => (world, .refused failure)

def registerMain (operation : Nat) (payload : MainPreparedPayload contents)
    (priorCaptureSequence : Int) (captureTicket : Option CaptureCorrelationTicket) :
    World contents × Signal contents :=
  match world.service.registerMain world.objects operation payload priorCaptureSequence
      captureTicket with
  | .ok service =>
      ({ world with service, admitted := operation :: world.admitted },
        .registeredMain operation captureTicket)
  | .error failure => (world, .refused failure)

def settleMain (fault : Fault) (outcome : Outcome contents)
    (payload : MainPreparedPayload contents) : World contents × Signal contents :=
  let settled := world.service.settleMain world.objects fault outcome payload
  ({ world with service := settled.service },
    match payload.anyStatement, outcome.operation? with
    | some _, some operation =>
        .settledMain operation settled.answer (entered world.service settled.service)
    | _, _ => .settledOther settled.answer)

def settleCapture (fault : Fault) (outcome : Outcome contents)
    (payload : CapturePreparedPayload contents) : World contents × Signal contents :=
  let settled := world.service.settleCapture world.objects fault outcome payload
  ({ world with service := settled.service },
    match payload.anyStatement, outcome with
    | some _, .captureRemote _ =>
        .settledCapture payload.ref settled.answer (entered world.service settled.service)
    | _, _ => .settledOther settled.answer)

def moveOperation (operation : Nat) (phase : MainPhase)
    (pendingStop : Option (StopEvent contents)) : Objects contents :=
  { world.objects with
    operations := fun ref =>
      if ref = operation then { world.objects.operations ref with phase, pendingStop }
      else world.objects.operations ref }

def moveScope (scope : Nat) (contextState : CaptureContextState)
    (frameIdentity : CaptureFrameIdentity) (observedMainCommandId : Option Nat) :
    Objects contents :=
  { world.objects with
    scopes := fun ref =>
      if ref = scope then
        { world.objects.scopes ref with contextState, frameIdentity, observedMainCommandId }
      else world.objects.scopes ref }

def perform : Action contents → World contents × Signal contents
  | .registerMain operation payload priorCaptureSequence captureTicket =>
      world.registerMain operation payload priorCaptureSequence captureTicket
  | .rebindNextCaptureTicket operation ticket =>
      world.accepted (world.service.rebindNextCaptureTicket world.objects operation ticket)
        (.rebound operation ticket)
  | .registerCapture scope payload baseNamespaceNames =>
      world.accepted (world.service.registerCapture scope payload baseNamespaceNames)
        (.registeredCapture payload.ref)
  | .settleMain fault outcome payload => world.settleMain fault outcome payload
  | .settleCapture fault outcome payload => world.settleCapture fault outcome payload
  | .discardMain operation =>
      ({ world with service := world.service.discardMain world.objects operation },
        .discardedMain operation)
  | .discardCapture payload =>
      ({ world with service := world.service.discardCapture payload }, .discardedCapture payload)
  | .operationMoved operation phase pendingStop =>
      ({ world with objects := world.moveOperation operation phase pendingStop }, .moved)
  | .scopeMoved scope contextState frameIdentity observedMainCommandId =>
      ({ world with
        objects := world.moveScope scope contextState frameIdentity observedMainCommandId }, .moved)

end World

def Step (world : World contents) (action : Action contents) (next : World contents)
    (emitted : List (Signal contents)) : Prop :=
  next = (world.perform action).1 ∧ emitted = [(world.perform action).2]

/-- A MAIN operation is registered once: each command has an operation of its own. -/
def RegistersOnce (world : World contents) : Action contents → Prop
  | .registerMain operation _ _ _ => operation ∉ world.admitted
  | _ => True

/-! ## Effects -/

/-- What the end of a terminal settlement leaves. -/
inductive Finished (service : RouteSettlementService contents) (reply : RuntimeReply contents)
    (names : List CodeText)
    (remove : RouteSettlementService contents → RouteSettlementService contents) :
    Settled contents → Prop
  | failed (unsuccessful : reply.succeeded = false) :
      Finished service reply names remove ⟨remove service, .replied reply⟩
  | blocked (successful : reply.succeeded = true) :
      Finished service reply names remove ⟨service, .interrupted reply⟩
  | merged {owner : RuntimeNamespaceOwner} (successful : reply.succeeded = true)
      (published : service.namespaceOwner.publishAdditions contents.casefold names = .ok owner) :
      Finished service reply names remove
        ⟨{ service with namespaceOwner := owner }, .interrupted reply⟩
  | completed {owner : RuntimeNamespaceOwner} (successful : reply.succeeded = true)
      (published : service.namespaceOwner.publishAdditions contents.casefold names = .ok owner) :
      Finished service reply names remove
        ⟨remove { service with namespaceOwner := owner }, .replied reply⟩

/-- What a settle call for an operation leaves, with the registration that it found. -/
inductive MainEffect (service : RouteSettlementService contents) (objects : Objects contents)
    (operation : Nat) : Settled contents → Prop
  | raised (failure : Failure) : MainEffect service objects operation ⟨service, .raised failure⟩
  | userStop {reply : RuntimeReply contents} (kind : reply.kind = .debugStopped)
      (unnumbered : reply.stopSequence = none) (unticketed : reply.captureTicket = none) :
      MainEffect service objects operation ⟨service, .replied reply⟩
  | captured {registration : MainRegistration contents} {reply : RuntimeReply contents}
      {stop : Option (StopEvent contents)}
      (found : service.main.get? (objects.operations operation).commandId = some registration)
      (owned : registration.record.operation = operation) (kind : reply.kind = .captured)
      (numbered : reply.stopSequence = some (registration.lastPublishedStopSequence + 1))
      (ticketed : reply.captureTicket = MainReplyPolicy.ticketId registration.record.captureTicket
        (objects.operations operation).commandId (registration.lastPublishedStopSequence + 1)) :
      MainEffect service objects operation
        ⟨{ service with
          main := service.main.set (objects.operations operation).commandId
            (registration.advanced stop) }, .replied reply⟩
  | terminal {registration : MainRegistration contents} {reply : RuntimeReply contents}
      {settled : Settled contents}
      (found : service.main.get? (objects.operations operation).commandId = some registration)
      (owned : registration.record.operation = operation) (kind : reply.kind = .mainCompleted)
      (named : reply.operationId = (objects.operations operation).commandId)
      (unnumbered : reply.stopSequence = none) (unticketed : reply.captureTicket = none)
      (finished : Finished service reply registration.namespaceNames
        (RouteSettlementService.removeMain (objects.operations operation).commandId) settled) :
      MainEffect service objects operation settled

/-- What a settle call for a cell leaves, with the registration that it found. -/
inductive CaptureEffect (service : RouteSettlementService contents) (objects : Objects contents)
    (payload : Nat) : Settled contents → Prop
  | raised (failure : Failure) : CaptureEffect service objects payload ⟨service, .raised failure⟩
  | terminal {registration : CaptureRegistration contents} {reply : RuntimeReply contents}
      {settled : Settled contents}
      (found : service.capture.get? payload = some registration)
      (kind : reply.kind = .captureCell)
      (named : reply.operationId =
        (objects.scopes registration.record.scope).identity.mainCommandId)
      (finished : Finished service reply registration.namespaceNames
        (RouteSettlementService.removeCapture payload) settled) :
      CaptureEffect service objects payload settled

namespace MainReplyPolicy

variable {operations : Nat → RouteMainOperation contents} {scopes : Nat → CaptureScope contents}

variable {record : MainPublicationRecord contents} {reply : RuntimeReply contents}
  {outcome : MainYield contents}

variable {operation : RouteMainOperation contents}

theorem publishCompleted_ok (published : publishCompleted outcome record operation = .ok reply) :
    ∃ completion, reply = completedReply completion outcome.pins record operation.commandId := by
  unfold publishCompleted at published
  split at published
  · cases published
  · next completion _ =>
      split at published
      · exact ⟨completion, (Except.ok.inj published).symm⟩
      · cases published

theorem publishCapture_ok (published : publishCapture scopes outcome record operation = .ok reply) :
    ∃ scope stopSequence, reply = capturedReply scope record operation.commandId stopSequence := by
  unfold publishCapture at published
  split at published
  · cases published
  · obtain ⟨_, _, published⟩ := bind_eq_ok.1 published
    obtain ⟨_, _, published⟩ := bind_eq_ok.1 published
    exact ⟨_, _, (pure_eq_ok.1 published).symm⟩

theorem publishDebugStop_ok (published : publishDebugStop outcome record operation = .ok reply) :
    ∃ stop, reply = debugStoppedReply stop record operation.commandId := by
  unfold publishDebugStop at published
  split at published
  · cases published
  · next stop _ =>
      split at published
      · exact ⟨stop, (Except.ok.inj published).symm⟩
      · cases published

/-- A published yield belongs to the operation of its record. -/
theorem publishYield_ok (published : publishYield operations scopes outcome record = .ok reply) :
    record.operation = outcome.operation ∧
      match outcome.kind with
      | .completed => ∃ completion, reply = completedReply completion outcome.pins record
          (operations outcome.operation).commandId
      | .capture => ∃ scope stopSequence, reply = capturedReply scope record
          (operations outcome.operation).commandId stopSequence
      | .debugStop => ∃ stop, reply = debugStoppedReply stop record
          (operations outcome.operation).commandId := by
  unfold publishYield at published
  split at published
  · next owned =>
      rw [← owned] at published
      refine ⟨owned.symm, ?_⟩
      cases kind : outcome.kind with
      | completed =>
          rw [kind] at published
          exact publishCompleted_ok published
      | capture =>
          rw [kind] at published
          exact publishCapture_ok published
      | debugStop =>
          rw [kind] at published
          exact publishDebugStop_ok published
  · cases published

theorem publishDecodeFailure_ok {outcome : MainConfirmedDecodeFailure contents}
    (published : publishDecodeFailure operations outcome record = .ok reply) :
    record.operation = outcome.operation ∧
      reply = decodeFailureReply outcome record (operations outcome.operation).commandId := by
  obtain ⟨_, owned, published⟩ := bind_eq_ok.1 published
  obtain ⟨_, _, published⟩ := bind_eq_ok.1 published
  have owned := require_eq_ok.1 owned
  rw [← pure_eq_ok.1 published, owned]
  exact ⟨rfl, rfl⟩

end MainReplyPolicy

theorem CaptureReplyPolicy.publish_ok {scopes : Nat → CaptureScope contents}
    {outcome : CaptureRemoteOutcome contents} {record : CapturePublicationRecord contents}
    {reply : RuntimeReply contents} (published : publish scopes outcome record = .ok reply) :
    ∃ result, reply = cellReply outcome result record
      (scopes record.scope).identity.mainCommandId := by
  obtain ⟨_, _, published⟩ := bind_eq_ok.1 published
  split at published
  · cases published
  · next result _ => exact ⟨result, (pure_eq_ok.1 published).symm⟩

namespace RouteSettlementService

variable {service : RouteSettlementService contents} {objects : Objects contents}

theorem finish_cases (service : RouteSettlementService contents) (fault : Fault)
    (reply : RuntimeReply contents) (names : List CodeText)
    (remove : RouteSettlementService contents → RouteSettlementService contents) :
    Finished service reply names remove (service.finish fault reply names remove) := by
  unfold finish
  by_cases successful : reply.succeeded = true
  · rw [if_pos successful]
    split
    · exact .blocked successful
    · split
      · exact .blocked successful
      · next owner published =>
          split
          · exact .merged successful published
          · exact .completed successful published
  · rw [if_neg successful]
    exact .failed (Bool.eq_false_iff.2 successful)

theorem matchingMain_ok {commandId : Nat} {payload : MainPreparedPayload contents}
    {registration : MainRegistration contents}
    (found : service.matchingMain commandId payload = .ok registration) :
    service.main.get? commandId = some registration := by
  unfold matchingMain at found
  split at found
  · cases found
  · next stored is =>
      split at found
      · cases found
        exact is
      · cases found

theorem matchingCapture_ok {payload : CapturePreparedPayload contents}
    {registration : CaptureRegistration contents}
    (found : service.matchingCapture payload = .ok registration) :
    service.capture.get? payload.ref = some registration := by
  unfold matchingCapture at found
  split at found
  · cases found
  · next stored is =>
      split at found
      · cases found
        exact is
      · cases found

theorem presented_ok {fault : Fault} {reply : Except Failure (RuntimeReply contents)}
    {given : RuntimeReply contents} (built : presented fault reply = .ok given) :
    reply = .ok given := by
  unfold presented at built
  split at built
  · cases built
  · split at built
    · cases built
    · exact congrArg Except.ok (Except.ok.inj built)

theorem settleYield_effect (fault : Fault) (outcome : MainYield contents)
    (payload : MainPreparedPayload contents) :
    MainEffect service objects outcome.operation
      (service.settleYield objects fault outcome payload) := by
  unfold settleYield
  simp only
  split
  · next failure _ => exact .raised failure
  · next registration matched =>
      split
      · next failure _ => exact .raised failure
      · next reply built =>
          have found := matchingMain_ok matched
          obtain ⟨owned, form⟩ := MainReplyPolicy.publishYield_ok (presented_ok built)
          split
          · next kind =>
              rw [kind] at form
              obtain ⟨scope, stopSequence, rfl⟩ := form
              unfold advance
              split
              · next next_ =>
                  have same := Option.some.inj next_
                  subst same
                  exact .captured found owned rfl rfl rfl
              · exact .raised _
          · next kind =>
              rw [kind] at form
              obtain ⟨completion, rfl⟩ := form
              exact .terminal found owned rfl rfl rfl rfl (finish_cases _ _ _ _ _)
          · next kind =>
              rw [kind] at form
              obtain ⟨stop, rfl⟩ := form
              exact .userStop rfl rfl rfl

theorem settleDecodeFailure_effect (fault : Fault)
    (outcome : MainConfirmedDecodeFailure contents) (payload : MainPreparedPayload contents) :
    MainEffect service objects outcome.operation
      (service.settleDecodeFailure objects fault outcome payload) := by
  unfold settleDecodeFailure
  simp only
  split
  · next failure _ => exact .raised failure
  · next registration matched =>
      split
      · next failure _ => exact .raised failure
      · next reply built =>
          obtain ⟨owned, rfl⟩ := MainReplyPolicy.publishDecodeFailure_ok (presented_ok built)
          exact .terminal (matchingMain_ok matched) owned rfl rfl rfl rfl (finish_cases _ _ _ _ _)

theorem settleRemote_effect (fault : Fault) (outcome : CaptureRemoteOutcome contents)
    (payload : CapturePreparedPayload contents) :
    CaptureEffect service objects payload.ref
      (service.settleRemote objects fault outcome payload) := by
  unfold settleRemote
  split
  · next failure _ => exact .raised failure
  · next registration matched =>
      split
      · next failure _ => exact .raised failure
      · next reply built =>
          obtain ⟨result, rfl⟩ := CaptureReplyPolicy.publish_ok (presented_ok built)
          exact .terminal (matchingCapture_ok matched) rfl rfl (finish_cases _ _ _ _ _)

/-- A settle call that names no operation changes nothing. -/
theorem settleWorker_service (outcome : Outcome contents) (hasIntent : Bool) :
    (service.settleWorker outcome hasIntent).service = service := by
  unfold settleWorker
  split <;> rfl

end RouteSettlementService

/-- A settle call for an operation has one of its effects; another one changes nothing. -/
theorem World.settleMain_cases (world : World contents) (fault : Fault)
    (outcome : Outcome contents) (payload : MainPreparedPayload contents) :
    (∃ operation settled, settled = world.service.settleMain world.objects fault outcome payload ∧
      MainEffect world.service world.objects operation settled ∧
      world.settleMain fault outcome payload =
        ({ world with service := settled.service },
          .settledMain operation settled.answer (entered world.service settled.service))) ∨
      ∃ answer, world.settleMain fault outcome payload = (world, .settledOther answer) := by
  unfold World.settleMain RouteSettlementService.settleMain
  cases payload.anyStatement with
  | none =>
      refine .inr ⟨(world.service.settleWorker outcome payload.workerIntent.isSome).answer, ?_⟩
      simp only [RouteSettlementService.settleWorker_service]
  | some statement =>
      cases outcome with
      | mainYield value =>
          exact .inl ⟨_, _, rfl, RouteSettlementService.settleYield_effect fault value payload, rfl⟩
      | mainDecodeFailure value =>
          exact .inl
            ⟨_, _, rfl, RouteSettlementService.settleDecodeFailure_effect fault value payload, rfl⟩
      | captureRemote value => exact .inr ⟨_, rfl⟩
      | workerPublished value => exact .inr ⟨_, rfl⟩
      | other => exact .inr ⟨_, rfl⟩

theorem World.settleCapture_cases (world : World contents) (fault : Fault)
    (outcome : Outcome contents) (payload : CapturePreparedPayload contents) :
    (∃ settled, settled = world.service.settleCapture world.objects fault outcome payload ∧
      CaptureEffect world.service world.objects payload.ref settled ∧
      world.settleCapture fault outcome payload =
        ({ world with service := settled.service },
          .settledCapture payload.ref settled.answer (entered world.service settled.service))) ∨
      ∃ answer, world.settleCapture fault outcome payload = (world, .settledOther answer) := by
  unfold World.settleCapture RouteSettlementService.settleCapture
  cases payload.anyStatement with
  | none =>
      refine .inr ⟨(world.service.settleWorker outcome payload.workerIntent.isSome).answer, ?_⟩
      simp only [RouteSettlementService.settleWorker_service]
  | some statement =>
      cases outcome with
      | captureRemote value =>
          exact .inl ⟨_, rfl, RouteSettlementService.settleRemote_effect fault value payload, rfl⟩
      | mainYield value => exact .inr ⟨_, rfl⟩
      | mainDecodeFailure value => exact .inr ⟨_, rfl⟩
      | workerPublished value => exact .inr ⟨_, rfl⟩
      | other => exact .inr ⟨_, rfl⟩

end OnecRuntime.Settlement
