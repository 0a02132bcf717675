import OnecRuntime.Settlement.Evidence

/-!
# Repeated calls

A settle call that raised leaves its registration, and its reply is built from that
registration, the operation and the scope alone: the call can be repeated.
-/

namespace OnecRuntime.Settlement

open OnecRuntime.Library
open OnecRuntime.Main

variable {contents : Contents}

/-- What the reply for a MAIN outcome is built from. -/
structure MainEvidence (contents : Contents) where
  operation : RouteMainOperation contents
  registration : Option (MainRegistration contents)
  scope : Option (CaptureScope contents)

def World.evidence (world : World contents) (operation : Nat) (scope : Option Nat) :
    MainEvidence contents :=
  ⟨world.objects.operations operation, world.service.main.get? (world.commandId operation),
    scope.map world.objects.scopes⟩

def Outcome.scope? : Outcome contents → Option Nat
  | .mainYield value => value.scope
  | _ => none

/-- The evidence of a MAIN outcome is the same in two states. -/
def SameEvidence (outcome : Outcome contents) (first second : World contents) : Prop :=
  ∀ operation, outcome.operation? = some operation →
    first.evidence operation outcome.scope? = second.evidence operation outcome.scope?

/-- Whether an answer is a reply. -/
def Answer.Replies : Answer contents → Prop
  | .replied _ => True
  | .raised _ | .interrupted _ => False

theorem publishAdditions_owner {casefold : CodeText → CodeText} (first second : RuntimeNamespaceOwner)
    {names : List CodeText} {problem : Failure}
    (raised : first.publishAdditions casefold names = .error problem) :
    ∃ other, second.publishAdditions casefold names = .error other := by
  cases published : second.publishAdditions casefold names with
  | error other => exact ⟨other, rfl⟩
  | ok next =>
      obtain ⟨owner, is⟩ := publishAdditions_valid first (publishAdditions_ok published).1
      rw [is] at raised
      cases raised

theorem publishYield_same {first second : Objects contents} {outcome : MainYield contents}
    {record : MainPublicationRecord contents}
    (operations : first.operations outcome.operation = second.operations outcome.operation)
    (scopes : outcome.scope.map first.scopes = outcome.scope.map second.scopes) :
    MainReplyPolicy.publishYield first.operations first.scopes outcome record =
      MainReplyPolicy.publishYield second.operations second.scopes outcome record := by
  unfold MainReplyPolicy.publishYield
  split
  · next owned =>
      rw [← owned, operations]
      split
      · rfl
      · unfold MainReplyPolicy.publishCapture
        cases carried : outcome.scope with
        | none => rfl
        | some scope =>
            rw [carried] at scopes
            have same : first.scopes scope = second.scopes scope := Option.some.inj scopes
            simp only [same]
      · rfl
  · rfl

namespace RouteSettlementService

variable {service : RouteSettlementService contents} {objects : Objects contents}

/-- The answer of the end of a terminal settlement does not depend on the registrations. -/
theorem finish_answer (first second : RouteSettlementService contents) (fault : Fault)
    (reply : RuntimeReply contents) (names : List CodeText)
    (removeFirst removeSecond : RouteSettlementService contents → RouteSettlementService contents) :
    (first.finish fault reply names removeFirst).answer =
      (second.finish fault reply names removeSecond).answer := by
  unfold finish
  split
  · split
    · rfl
    · cases left : first.namespaceOwner.publishAdditions contents.casefold names with
      | error problem =>
          obtain ⟨other, right⟩ := publishAdditions_owner _ second.namespaceOwner left
          rw [right]
      | ok owner =>
          obtain ⟨next, right⟩ :=
            publishAdditions_valid second.namespaceOwner (publishAdditions_ok left).1
          rw [right]
          simp only
          split <;> rfl
  · rfl

theorem advance_answer (first second : RouteSettlementService contents) (commandId other : Nat)
    (registration : MainRegistration contents) (reply : RuntimeReply contents)
    (firstStop secondStop : Option (StopEvent contents)) :
    (first.advance commandId registration reply firstStop).answer =
      (second.advance other registration reply secondStop).answer := by
  unfold advance
  split <;> rfl

variable {first second : RouteSettlementService contents}

theorem matchingMain_same {commandId : Nat}
    (payload : MainPreparedPayload contents)
    (same : first.main.get? commandId = second.main.get? commandId) :
    first.matchingMain commandId payload = second.matchingMain commandId payload := by
  unfold matchingMain
  rw [same]

variable {given : RuntimeReply contents}

theorem interrupted_reply {reply : RuntimeReply contents} {names : List CodeText}
    {remove : RouteSettlementService contents → RouteSettlementService contents}
    {settled : Settled contents} (finished : Finished service reply names remove settled)
    (interrupted : settled.answer = .interrupted given) :
    given = reply ∧ reply.succeeded = true := by
  cases finished with
  | failed unsuccessful => cases interrupted
  | blocked successful =>
      cases interrupted
      exact ⟨rfl, successful⟩
  | merged successful published =>
      cases interrupted
      exact ⟨rfl, successful⟩
  | completed successful published => cases interrupted

variable {fault : Fault}

/-- An interrupted terminal settlement gives its reply when nothing raises. -/
theorem finish_rebuilt {reply : RuntimeReply contents}
    {names : List CodeText}
    {remove : RouteSettlementService contents → RouteSettlementService contents}
    (valid : ∀ name ∈ names, name ≠ [])
    (interrupted : (service.finish fault reply names remove).answer = .interrupted given) :
    (service.finish .none reply names remove).answer = .replied given := by
  obtain ⟨rfl, successful⟩ := interrupted_reply (finish_cases service fault reply names remove)
    interrupted
  obtain ⟨owner, published⟩ := publishAdditions_valid service.namespaceOwner valid
  unfold finish
  rw [if_pos successful, published]
  rfl

theorem presented_none {reply : Except Failure (RuntimeReply contents)}
    (built : presented fault reply = .ok given) :
    presented .none reply = .ok given := by
  rw [presented_ok built]
  rfl

variable {payload : MainPreparedPayload contents}

variable {others : Objects contents}

theorem settleYield_same {objects : Objects contents} {outcome : MainYield contents}
    (operations : objects.operations outcome.operation = others.operations outcome.operation)
    (scopes : outcome.scope.map objects.scopes = outcome.scope.map others.scopes)
    (registrations : first.main.get? (objects.operations outcome.operation).commandId =
      second.main.get? (objects.operations outcome.operation).commandId) :
    (first.settleYield objects fault outcome payload).answer =
      (second.settleYield others fault outcome payload).answer := by
  unfold settleYield
  rw [← operations]
  simp only
  rw [matchingMain_same payload registrations]
  cases second.matchingMain (objects.operations outcome.operation).commandId payload with
  | error failure => rfl
  | ok registration =>
      simp only
      rw [publishYield_same operations scopes]
      cases presented fault (MainReplyPolicy.publishYield others.operations others.scopes outcome
          registration.record) with
      | error failure => rfl
      | ok reply =>
          simp only
          cases outcome.kind with
          | capture => exact advance_answer _ _ _ _ _ _ _ _
          | completed => exact finish_answer _ _ _ _ _ _ _
          | debugStop => rfl

theorem settleYield_rebuilt {outcome : MainYield contents}
    (valid : ∀ {key registration}, service.main.get? key = some registration →
      ∀ name ∈ registration.namespaceNames, name ≠ [])
    (interrupted : (service.settleYield objects fault outcome payload).answer =
      .interrupted given) :
    (service.settleYield objects .none outcome payload).answer = .replied given := by
  unfold settleYield at interrupted ⊢
  simp only at interrupted ⊢
  cases matched : service.matchingMain (objects.operations outcome.operation).commandId payload with
  | error failure =>
      rw [matched] at interrupted
      cases interrupted
  | ok registration =>
      rw [matched] at interrupted
      simp only at interrupted ⊢
      cases built : presented fault (MainReplyPolicy.publishYield objects.operations objects.scopes
          outcome registration.record) with
      | error failure =>
          rw [built] at interrupted
          cases interrupted
      | ok reply =>
          rw [built] at interrupted
          rw [presented_none built]
          simp only at interrupted ⊢
          cases kind : outcome.kind with
          | capture =>
              rw [kind] at interrupted
              simp only at interrupted
              unfold advance at interrupted
              split at interrupted <;> cases interrupted
          | completed =>
              rw [kind] at interrupted
              exact finish_rebuilt (valid (matchingMain_ok matched)) interrupted
          | debugStop =>
              rw [kind] at interrupted
              cases interrupted

theorem settleDecodeFailure_same {objects : Objects contents}
    {outcome : MainConfirmedDecodeFailure contents}
    (operations : objects.operations outcome.operation = others.operations outcome.operation)
    (registrations : first.main.get? (objects.operations outcome.operation).commandId =
      second.main.get? (objects.operations outcome.operation).commandId) :
    (first.settleDecodeFailure objects fault outcome payload).answer =
      (second.settleDecodeFailure others fault outcome payload).answer := by
  unfold settleDecodeFailure
  rw [← operations]
  simp only
  rw [matchingMain_same payload registrations]
  cases second.matchingMain (objects.operations outcome.operation).commandId payload with
  | error failure => rfl
  | ok registration =>
      have same : MainReplyPolicy.publishDecodeFailure objects.operations outcome
            registration.record =
          MainReplyPolicy.publishDecodeFailure others.operations outcome registration.record := by
        unfold MainReplyPolicy.publishDecodeFailure require
        split
        · next owned => rw [← owned, operations]
        · rfl
      simp only
      rw [same]
      cases presented fault (MainReplyPolicy.publishDecodeFailure others.operations outcome
          registration.record) with
      | error failure => rfl
      | ok reply => exact finish_answer _ _ _ _ _ _ _

theorem settleDecodeFailure_rebuilt {outcome : MainConfirmedDecodeFailure contents}
    (valid : ∀ {key registration}, service.main.get? key = some registration →
      ∀ name ∈ registration.namespaceNames, name ≠ [])
    (interrupted : (service.settleDecodeFailure objects fault outcome payload).answer =
      .interrupted given) :
    (service.settleDecodeFailure objects .none outcome payload).answer = .replied given := by
  unfold settleDecodeFailure at interrupted ⊢
  simp only at interrupted ⊢
  cases matched : service.matchingMain (objects.operations outcome.operation).commandId payload with
  | error failure =>
      rw [matched] at interrupted
      cases interrupted
  | ok registration =>
      rw [matched] at interrupted
      simp only at interrupted ⊢
      cases built : presented fault (MainReplyPolicy.publishDecodeFailure objects.operations outcome
          registration.record) with
      | error failure =>
          rw [built] at interrupted
          cases interrupted
      | ok reply =>
          rw [built] at interrupted
          rw [presented_none built]
          exact finish_rebuilt (valid (matchingMain_ok matched)) interrupted

theorem matchingCapture_same (payload : CapturePreparedPayload contents)
    (same : first.capture.get? payload.ref = second.capture.get? payload.ref) :
    first.matchingCapture payload = second.matchingCapture payload := by
  unfold matchingCapture
  rw [same]

theorem settleRemote_same {objects : Objects contents} {outcome : CaptureRemoteOutcome contents}
    {payload : CapturePreparedPayload contents}
    (registrations : first.capture.get? payload.ref = second.capture.get? payload.ref)
    (scopes : ∀ registration, first.capture.get? payload.ref = some registration →
      objects.scopes registration.record.scope = others.scopes registration.record.scope) :
    (first.settleRemote objects fault outcome payload).answer =
      (second.settleRemote others fault outcome payload).answer := by
  unfold settleRemote
  rw [← matchingCapture_same payload registrations]
  cases matched : first.matchingCapture payload with
  | error failure => rfl
  | ok registration =>
      have same : CaptureReplyPolicy.publish objects.scopes outcome registration.record =
          CaptureReplyPolicy.publish others.scopes outcome registration.record := by
        unfold CaptureReplyPolicy.publish
        rw [scopes registration (matchingCapture_ok matched)]
      simp only
      rw [same]
      cases presented fault (CaptureReplyPolicy.publish others.scopes outcome
          registration.record) with
      | error failure => rfl
      | ok reply => exact finish_answer _ _ _ _ _ _ _

theorem settleRemote_rebuilt {outcome : CaptureRemoteOutcome contents}
    {payload : CapturePreparedPayload contents}
    (valid : ∀ {key registration}, service.capture.get? key = some registration →
      ∀ name ∈ registration.namespaceNames, name ≠ [])
    (interrupted : (service.settleRemote objects fault outcome payload).answer =
      .interrupted given) :
    (service.settleRemote objects .none outcome payload).answer = .replied given := by
  unfold settleRemote at interrupted ⊢
  cases matched : service.matchingCapture payload with
  | error failure =>
      rw [matched] at interrupted
      cases interrupted
  | ok registration =>
      rw [matched] at interrupted
      simp only at interrupted ⊢
      cases built : presented fault (CaptureReplyPolicy.publish objects.scopes outcome
          registration.record) with
      | error failure =>
          rw [built] at interrupted
          cases interrupted
      | ok reply =>
          rw [built] at interrupted
          rw [presented_none built]
          exact finish_rebuilt (valid (matchingCapture_ok matched)) interrupted

end RouteSettlementService

namespace World

def mainAnswer (world : World contents) (fault : Fault) (outcome : Outcome contents)
    (payload : MainPreparedPayload contents) : Answer contents :=
  (world.service.settleMain world.objects fault outcome payload).answer

def captureAnswer (world : World contents) (fault : Fault) (outcome : Outcome contents)
    (payload : CapturePreparedPayload contents) : Answer contents :=
  (world.service.settleCapture world.objects fault outcome payload).answer

end World

variable {outcome : Outcome contents}

/-- The same evidence gives the same answer. -/
theorem mainAnswer_same {first second : World contents}
    (same : SameEvidence outcome first second) (fault : Fault)
    (payload : MainPreparedPayload contents) :
    first.mainAnswer fault outcome payload = second.mainAnswer fault outcome payload := by
  unfold World.mainAnswer RouteSettlementService.settleMain
  cases payload.anyStatement with
  | none =>
      unfold RouteSettlementService.settleWorker
      simp only
      split <;> rfl
  | some statement =>
      cases outcome with
      | mainYield value =>
          have evidence := same value.operation rfl
          have operations := congrArg MainEvidence.operation evidence
          have registrations := congrArg MainEvidence.registration evidence
          change first.objects.operations value.operation =
            second.objects.operations value.operation at operations
          change first.service.main.get? (first.commandId value.operation) =
            second.service.main.get? (second.commandId value.operation) at registrations
          unfold World.commandId at registrations
          rw [← operations] at registrations
          exact RouteSettlementService.settleYield_same operations
            (congrArg MainEvidence.scope evidence) registrations
      | mainDecodeFailure value =>
          have evidence := same value.operation rfl
          have operations := congrArg MainEvidence.operation evidence
          have registrations := congrArg MainEvidence.registration evidence
          change first.objects.operations value.operation =
            second.objects.operations value.operation at operations
          change first.service.main.get? (first.commandId value.operation) =
            second.service.main.get? (second.commandId value.operation) at registrations
          unfold World.commandId at registrations
          rw [← operations] at registrations
          exact RouteSettlementService.settleDecodeFailure_same operations registrations
      | captureRemote value => rfl
      | workerPublished value => rfl
      | other => rfl

/-- The registration of a cell and its scope are the same in two states. -/
def SameCell (payload : Nat) (first second : World contents) : Prop :=
  first.service.capture.get? payload = second.service.capture.get? payload ∧
    ∀ registration, first.service.capture.get? payload = some registration →
      first.objects.scopes registration.record.scope =
        second.objects.scopes registration.record.scope

variable {payload : CapturePreparedPayload contents}

theorem captureAnswer_same {first second : World contents}
    (same : SameCell payload.ref first second)
    (fault : Fault) :
    first.captureAnswer fault outcome payload = second.captureAnswer fault outcome payload := by
  unfold World.captureAnswer RouteSettlementService.settleCapture
  cases payload.anyStatement with
  | none =>
      unfold RouteSettlementService.settleWorker
      simp only
      split <;> rfl
  | some statement =>
      cases outcome with
      | captureRemote value => exact RouteSettlementService.settleRemote_same same.1 same.2
      | mainYield value => rfl
      | mainDecodeFailure value => rfl
      | workerPublished value => rfl
      | other => rfl

variable {world : World contents} {fault : Fault}

/-- An interrupted call gives its reply when nothing raises. -/
theorem mainAnswer_rebuilt {payload : MainPreparedPayload contents} {reply : RuntimeReply contents}
    (valid : ∀ {key registration}, world.service.main.get? key = some registration →
      ∀ name ∈ registration.namespaceNames, name ≠ [])
    (interrupted : world.mainAnswer fault outcome payload = .interrupted reply) :
    world.mainAnswer .none outcome payload = .replied reply := by
  unfold World.mainAnswer RouteSettlementService.settleMain at interrupted ⊢
  cases stated : payload.anyStatement with
  | none =>
      rw [stated] at interrupted
      simp only at interrupted
      unfold RouteSettlementService.settleWorker at interrupted
      split at interrupted <;> cases interrupted
  | some statement =>
      rw [stated] at interrupted
      cases outcome with
      | mainYield value => exact RouteSettlementService.settleYield_rebuilt valid interrupted
      | mainDecodeFailure value =>
          exact RouteSettlementService.settleDecodeFailure_rebuilt valid interrupted
      | captureRemote value => cases interrupted
      | workerPublished value => cases interrupted
      | other => cases interrupted

theorem captureAnswer_rebuilt {reply : RuntimeReply contents}
    (valid : ∀ {key registration}, world.service.capture.get? key = some registration →
      ∀ name ∈ registration.namespaceNames, name ≠ [])
    (interrupted : world.captureAnswer fault outcome payload = .interrupted reply) :
    world.captureAnswer .none outcome payload = .replied reply := by
  unfold World.captureAnswer RouteSettlementService.settleCapture at interrupted ⊢
  cases stated : payload.anyStatement with
  | none =>
      rw [stated] at interrupted
      simp only at interrupted
      unfold RouteSettlementService.settleWorker at interrupted
      split at interrupted <;> cases interrupted
  | some statement =>
      rw [stated] at interrupted
      cases outcome with
      | captureRemote value => exact RouteSettlementService.settleRemote_rebuilt valid interrupted
      | mainYield value => cases interrupted
      | mainDecodeFailure value => cases interrupted
      | workerPublished value => cases interrupted
      | other => cases interrupted

/-- A settle call without a reply leaves the registrations. -/
theorem mainAnswer_kept {payload : MainPreparedPayload contents}
    (silent : ¬(world.mainAnswer fault outcome payload).Replies) :
    (world.settleMain fault outcome payload).1.service.main = world.service.main ∧
      (world.settleMain fault outcome payload).1.service.capture = world.service.capture := by
  rcases world.settleMain_cases fault outcome payload with
    ⟨operation, settled, settles, effect, is⟩ | ⟨answer, is⟩
  · unfold World.mainAnswer at silent
    rw [← settles] at silent
    rw [is]
    cases effect with
    | raised failure => exact ⟨rfl, rfl⟩
    | userStop kind unnumbered unticketed => exact absurd trivial silent
    | captured found owned kind numbered ticketed => exact absurd trivial silent
    | terminal found owned kind named unnumbered unticketed finished =>
        rcases finished.main with ⟨same, answered⟩ | ⟨_, answered⟩
        · exact ⟨same, finished.others.1 fun _ => rfl⟩
        · rw [answered] at silent
          exact absurd trivial silent
  · rw [is]
    exact ⟨rfl, rfl⟩

theorem captureAnswer_kept (silent : ¬(world.captureAnswer fault outcome payload).Replies) :
    (world.settleCapture fault outcome payload).1.service.main = world.service.main ∧
      (world.settleCapture fault outcome payload).1.service.capture = world.service.capture := by
  rcases world.settleCapture_cases fault outcome payload with
    ⟨settled, settles, effect, is⟩ | ⟨answer, is⟩
  · unfold World.captureAnswer at silent
    rw [← settles] at silent
    rw [is]
    cases effect with
    | raised failure => exact ⟨rfl, rfl⟩
    | terminal found kind named finished =>
        rcases finished.capture with ⟨same, answered⟩ | ⟨_, answered⟩
        · exact ⟨finished.others.2 fun _ => rfl, same⟩
        · rw [answered] at silent
          exact absurd trivial silent
  · rw [is]
    exact ⟨rfl, rfl⟩

end OnecRuntime.Settlement
