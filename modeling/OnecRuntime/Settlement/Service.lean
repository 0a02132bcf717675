import OnecRuntime.Settlement.Records

/-!
# The settlement service

The registrations of the MAIN commands and of the CAPTURE cells, the namespace owner,
and the calls. The arbiter settles one ticket at a time, so a call is not interleaved
with another one about its command. A call that raises returns no registrations: they
stay as they were. Only a settle call publishes names, and it removes its registration
after that.
-/

namespace OnecRuntime.Settlement

open OnecRuntime.Library
open OnecRuntime.Main

variable {contents : Contents}

/-! ## The namespace owner -/

structure RuntimeNamespaceOwner where
  names : List CodeText
  namespaceRevision : Nat

/-- `merged.setdefault(name.casefold(), name)`. -/
def setDefault (casefold : CodeText → CodeText) (merged : Dictionary CodeText CodeText)
    (name : CodeText) : Dictionary CodeText CodeText :=
  if casefold name ∈ merged.keys then merged else merged.set (casefold name) name

/-- `_merge_names`. -/
def mergeNames (casefold : CodeText → CodeText) (first second : List CodeText) : List CodeText :=
  ((first ++ second).foldl (setDefault casefold) .empty).entries.map Prod.snd

def RuntimeNamespaceOwner.publishAdditions (casefold : CodeText → CodeText)
    (owner : RuntimeNamespaceOwner) (names : List CodeText) :
    Except Failure RuntimeNamespaceOwner := do
  require (∀ name ∈ names, name ≠ []) .catalogInvalid
  let merged := mergeNames casefold owner.names names
  if merged = owner.names then pure owner
  else pure ⟨merged, owner.namespaceRevision + 1⟩

/-! ## Registrations -/

structure MainRegistration (contents : Contents) where
  payload : MainPreparedPayload contents
  record : MainPublicationRecord contents
  namespaceNames : List CodeText
  lastPublishedStopSequence : Nat
  publishedStop : Option (StopEvent contents)

def MainRegistration.rebound (registration : MainRegistration contents)
    (ticket : CaptureCorrelationTicket) : MainRegistration contents :=
  { registration with record := { registration.record with captureTicket := some ticket } }

def MainRegistration.advanced (registration : MainRegistration contents)
    (stop : Option (StopEvent contents)) : MainRegistration contents :=
  { registration with
    lastPublishedStopSequence := registration.lastPublishedStopSequence + 1
    publishedStop := stop }

structure CaptureRegistration (contents : Contents) where
  payload : CapturePreparedPayload contents
  record : CapturePublicationRecord contents
  namespaceNames : List CodeText

/-- The operation of a MAIN command by its number and the scope of a stop by its number, as
they are at a call. -/
structure Objects (contents : Contents) where
  operations : Nat → RouteMainOperation contents
  scopes : Nat → CaptureScope contents

structure RouteSettlementService (contents : Contents) where
  main : Dictionary Nat (MainRegistration contents)
  capture : Dictionary Nat (CaptureRegistration contents)
  namespaceOwner : RuntimeNamespaceOwner

/-- `_names`. -/
def preparedNames (statement : RoutePreparedStatement contents) :
    Except Failure (List CodeText) :=
  match statement.contextNames with
  | none => .error .namesInvalid
  | some names => if ∀ name ∈ names, name ≠ [] then .ok names else .error .namesInvalid

namespace RouteSettlementService

variable (service : RouteSettlementService contents) (objects : Objects contents)

def mainRecord (operation : Nat) (statement : RoutePreparedStatement contents)
    (payload : MainPreparedPayload contents) (priorCaptureSequence : Int)
    (captureTicket : Option CaptureCorrelationTicket) : MainPublicationRecord contents :=
  ⟨operation, priorCaptureSequence, some statement.mappedSource, some payload.visible,
    statement.persistentWriteRoots, captureTicket, statement.messageCollectorKey⟩

def registerMain (operation : Nat) (payload : MainPreparedPayload contents)
    (priorCaptureSequence : Int) (captureTicket : Option CaptureCorrelationTicket) :
    Except Failure (RouteSettlementService contents) :=
  match payload.anyStatement with
  | none => .error .mainNeedsStatement
  | some statement => do
      require (0 ≤ priorCaptureSequence) .negativePriorSequence
      require ((objects.operations operation).messageCollectorKey = statement.messageCollectorKey)
        .messageKeyChanged
      let names ← preparedNames statement
      require ((objects.operations operation).commandId ∉ service.main.keys) .mainAlreadyRecorded
      pure { service with
        main := service.main.set (objects.operations operation).commandId
          ⟨payload, mainRecord operation statement payload priorCaptureSequence captureTicket,
            names, 0, none⟩ }

/-- `_published_capture_successor`. -/
def publishedCaptureSuccessor (operation : Nat) :
    Except Failure (MainRegistration contents × Nat) :=
  match service.main.get? (objects.operations operation).commandId with
  | none => .error .noMatchingRecord
  | some registration => do
      require (registration.record.operation = operation) .noMatchingRecord
      require ((objects.operations operation).phase = .suspendedCapture ∧
        0 < registration.lastPublishedStopSequence ∧
        (objects.operations operation).pendingStop.map StopEvent.ref =
          registration.publishedStop.map StopEvent.ref) .noPublishedStop
      pure (registration, registration.lastPublishedStopSequence + 1)

def rebindNextCaptureTicket (operation : Nat) (ticket : CaptureCorrelationTicket) :
    Except Failure (RouteSettlementService contents) := do
  let (registration, nextSequence) ← service.publishedCaptureSuccessor objects operation
  require (0 < ticket.ticketId.length ∧ ticket.ticketId.length ≤ 256 ∧
    ticket.ticketId.all (fun character => 32 ≤ character.val) = true) .ticketIdInvalid
  require (ticket.expectedOperationId = (objects.operations operation).commandId)
    .ticketOfAnotherCommand
  require (ticket.expectedStopSequence = nextSequence) .ticketNotNextStop
  pure { service with
    main := service.main.set (objects.operations operation).commandId
      (registration.rebound ticket) }

/-- The names of a cell that its base namespace lacks. -/
def newNames (casefold : CodeText → CodeText) (base names : List CodeText) : List CodeText :=
  names.filter fun name => casefold name ∉ base.map casefold

def captureRecord (scope : Nat) (statement : RoutePreparedStatement contents)
    (payload : CapturePreparedPayload contents) : CapturePublicationRecord contents :=
  ⟨scope, some statement.mappedSource, some payload.visible, statement.persistentWriteRoots,
    payload.dirtyRoots⟩

def registerCapture (scope : Nat) (payload : CapturePreparedPayload contents)
    (baseNamespaceNames : List CodeText) : Except Failure (RouteSettlementService contents) :=
  match payload.anyStatement with
  | none => .error .captureNeedsStatement
  | some statement => do
      require (∀ name ∈ baseNamespaceNames, name ≠ []) .baseNamespaceInvalid
      let names ← preparedNames statement
      match service.capture.get? payload.ref with
      | some prior =>
          if prior.record.scope ≠ scope then .error .captureOfAnotherScope
          else .error .captureAlreadyRecorded
      | none =>
          pure { service with
            capture := service.capture.set payload.ref
              ⟨payload, captureRecord scope statement payload,
                newNames contents.casefold baseNamespaceNames names⟩ }

def discardMain (operation : Nat) : RouteSettlementService contents :=
  match service.main.get? (objects.operations operation).commandId with
  | none => service
  | some registration =>
      if registration.record.operation = operation then
        { service with main := service.main.erase (objects.operations operation).commandId }
      else service

def discardCapture (payload : Nat) : RouteSettlementService contents :=
  { service with capture := service.capture.erase payload }

end RouteSettlementService

/-! ## Settle calls -/

/-- Where a collaborator of a settle call raises. -/
inductive Fault where
  | none
  /-- While the reply is built. -/
  | presenting
  | beforeMerge
  | afterMerge
deriving DecidableEq, Repr

/-- What a settle call gives: a reply, an exception, or an exception after its reply was built. -/
inductive Answer (contents : Contents) where
  | replied (reply : RuntimeReply contents)
  | raised (failure : Failure)
  | interrupted (reply : RuntimeReply contents)

structure Settled (contents : Contents) where
  service : RouteSettlementService contents
  answer : Answer contents

namespace RouteSettlementService

variable (service : RouteSettlementService contents) (objects : Objects contents)

/-- `_worker_only_reply`. -/
def workerOnlyReply (outcome : Outcome contents) (hasIntent : Bool) :
    Except Failure (RuntimeReply contents) :=
  match outcome with
  | .workerPublished published =>
      if hasIntent then
        match published.handle, published.operationId, published.state with
        | some handle, some operationId, some state =>
            if operationId < 0 then .error .workerEvidenceInvalid
            else .ok
              { kind := .workerLoaded
                operationId
                state
                result := some handle }
        | _, _, _ => .error .workerEvidenceInvalid
      else .error .workerPublishedRequired
  | _ => .error .workerPublishedRequired

def settleWorker (outcome : Outcome contents) (hasIntent : Bool) : Settled contents :=
  match workerOnlyReply outcome hasIntent with
  | .ok reply => ⟨service, .replied reply⟩
  | .error failure => ⟨service, .raised failure⟩

/-- The reply of a policy, unless a collaborator raises. -/
def presented (fault : Fault) (reply : Except Failure (RuntimeReply contents)) :
    Except Failure (RuntimeReply contents) :=
  match reply with
  | .error failure => .error failure
  | .ok reply => if fault = .presenting then .error .collaborator else .ok reply

/-- The end of a terminal settlement: a success publishes the names, then the registration
is removed. -/
def finish (fault : Fault) (reply : RuntimeReply contents) (names : List CodeText)
    (remove : RouteSettlementService contents → RouteSettlementService contents) :
    Settled contents :=
  if reply.succeeded then
    if fault = .beforeMerge then ⟨service, .interrupted reply⟩
    else
      match service.namespaceOwner.publishAdditions contents.casefold names with
      | .error _ => ⟨service, .interrupted reply⟩
      | .ok owner =>
          if fault = .afterMerge then ⟨{ service with namespaceOwner := owner }, .interrupted reply⟩
          else ⟨remove { service with namespaceOwner := owner }, .replied reply⟩
  else ⟨remove service, .replied reply⟩

def removeMain (commandId : Nat) (service : RouteSettlementService contents) :
    RouteSettlementService contents :=
  { service with main := service.main.erase commandId }

def removeCapture (payload : Nat) (service : RouteSettlementService contents) :
    RouteSettlementService contents :=
  { service with capture := service.capture.erase payload }

/-- The registration of a settle call: `MAIN yield has no matching publication record`. -/
def matchingMain (commandId : Nat) (payload : MainPreparedPayload contents) :
    Except Failure (MainRegistration contents) :=
  match service.main.get? commandId with
  | none => .error .mainYieldUnmatched
  | some registration =>
      if registration.payload.ref = payload.ref then .ok registration
      else .error .mainYieldUnmatched

/-- The stop of the scope that a yield carries. -/
def yieldedStop (outcome : MainYield contents) : Option (StopEvent contents) :=
  outcome.scope.map fun scope => (objects.scopes scope).stop

/-- A CAPTURE stop advances its registration when it is the next one. -/
def advance (commandId : Nat) (registration : MainRegistration contents)
    (reply : RuntimeReply contents) (stop : Option (StopEvent contents)) : Settled contents :=
  if reply.stopSequence = some (registration.lastPublishedStopSequence + 1) then
    ⟨{ service with main := service.main.set commandId (registration.advanced stop) },
      .replied reply⟩
  else ⟨service, .raised .notNextMainStop⟩

def settleYield (fault : Fault) (outcome : MainYield contents)
    (payload : MainPreparedPayload contents) : Settled contents :=
  let commandId := (objects.operations outcome.operation).commandId
  match service.matchingMain commandId payload with
  | .error failure => ⟨service, .raised failure⟩
  | .ok registration =>
      match presented fault
          (MainReplyPolicy.publishYield objects.operations objects.scopes outcome
            registration.record) with
      | .error failure => ⟨service, .raised failure⟩
      | .ok reply =>
          match outcome.kind with
          | .capture =>
              service.advance commandId registration reply (yieldedStop objects outcome)
          | .completed =>
              service.finish fault reply registration.namespaceNames (removeMain commandId)
          | .debugStop => ⟨service, .replied reply⟩

def settleDecodeFailure (fault : Fault) (outcome : MainConfirmedDecodeFailure contents)
    (payload : MainPreparedPayload contents) : Settled contents :=
  let commandId := (objects.operations outcome.operation).commandId
  match service.matchingMain commandId payload with
  | .error failure => ⟨service, .raised failure⟩
  | .ok registration =>
      match presented fault
          (MainReplyPolicy.publishDecodeFailure objects.operations outcome
            registration.record) with
      | .error failure => ⟨service, .raised failure⟩
      | .ok reply => service.finish fault reply registration.namespaceNames (removeMain commandId)

def settleMain (fault : Fault) (outcome : Outcome contents)
    (payload : MainPreparedPayload contents) : Settled contents :=
  match payload.anyStatement with
  | none => service.settleWorker outcome payload.workerIntent.isSome
  | some _ =>
      match outcome with
      | .mainYield value => service.settleYield objects fault value payload
      | .mainDecodeFailure value => service.settleDecodeFailure objects fault value payload
      | _ => ⟨service, .raised .mainOutcomeRequired⟩

/-- The registration of a settle call: `CAPTURE cell has no matching publication record`. -/
def matchingCapture (payload : CapturePreparedPayload contents) :
    Except Failure (CaptureRegistration contents) :=
  match service.capture.get? payload.ref with
  | none => .error .captureUnmatched
  | some registration =>
      if registration.payload.ref = payload.ref then .ok registration
      else .error .captureUnmatched

def settleRemote (fault : Fault) (outcome : CaptureRemoteOutcome contents)
    (payload : CapturePreparedPayload contents) : Settled contents :=
  match service.matchingCapture payload with
  | .error failure => ⟨service, .raised failure⟩
  | .ok registration =>
      match presented fault
          (CaptureReplyPolicy.publish objects.scopes outcome registration.record) with
      | .error failure => ⟨service, .raised failure⟩
      | .ok reply =>
          service.finish fault reply registration.namespaceNames (removeCapture payload.ref)

def settleCapture (fault : Fault) (outcome : Outcome contents)
    (payload : CapturePreparedPayload contents) : Settled contents :=
  match payload.anyStatement with
  | none => service.settleWorker outcome payload.workerIntent.isSome
  | some _ =>
      match outcome with
      | .captureRemote value => service.settleRemote objects fault value payload
      | _ => ⟨service, .raised .captureOutcomeRequired⟩

end RouteSettlementService

end OnecRuntime.Settlement
