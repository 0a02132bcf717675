import Mathlib.Data.Nat.Digits.Lemmas
import OnecRuntime.Publication.Target

/-!
# The server registry

The target-side registry as a state, with one function for each section that the
source runs under its lock. An operation is a sequence of sections with the
executor between the claim and the completion of its mutation, and other
operations may run between any two sections. Payload checks and diagnostics are
given to a section as verdicts; fence readings as in the host registry.
-/

namespace OnecRuntime.Publication

open OnecRuntime.Library OnecRuntime.Registry

/-- What the executor returns: a receipt object, a text or something else. -/
inductive Reply where
  | prepared (receipt : WorkerPreparedRootReceipt)
  | promotion (transactionId : TransactionId) (generationCreateWireProbeMs : Nat)
      (receipt : WorkerPromotionReceipt)
  | text (value : Text)
  | other
deriving DecidableEq, Repr

def splitFields : Text → List Text
  | [] => [[]]
  | '|' :: rest => [] :: splitFields rest
  | character :: rest =>
      match splitFields rest with
      | [] => [[character]]
      | field :: fields => (character :: field) :: fields

/-- A canonical decimal: `0` or digits without a leading zero. -/
def parseDecimal (field : Text) : Option Nat :=
  if field = ['0'] then some 0
  else if field ≠ [] ∧ field.head? ≠ some '0' ∧ field.all (·.isDigit) then
    some (field.foldl (fun value digit => 10 * value + (digit.toNat - '0'.toNat)) 0)
  else none

def parseTransactionId (field : Text) : Option TransactionId :=
  if unbarred : '|' ∉ field then some ⟨field, unbarred⟩ else none

def unwireRootKey (field : Text) : String := if field = ['-'] then "" else String.ofList field

def preparedRootOfFields (identity : Nat) : List Text → Option WorkerPreparedRootReceipt
  | [kind, transactionId, generation, manifest, root, previous, probe] =>
      if kind = preparedRootReceiptPrefix ∧ transactionId ≠ [] ∧ manifest ≠ [] ∧ root ≠ [] ∧
          previous ≠ [] then do
        let generation ← parseDecimal generation
        let probe ← parseDecimal probe
        let transaction ← parseTransactionId transactionId
        pure ⟨identity, transaction, generation, String.ofList manifest, String.ofList root,
          unwireRootKey previous, probe⟩
      else none
  | _ => none

/-- `_worker_prepared_root_receipt`; a parsed text makes a new receipt object. -/
def workerPreparedRootReceipt (identity : Nat) : Reply → Option WorkerPreparedRootReceipt
  | .prepared receipt => some receipt
  | .text value => preparedRootOfFields identity (splitFields value)
  | _ => none

/-- A parsed promotion: its transaction, its wire probe time and the receipt for the host. -/
abbrev Promotion := TransactionId × Nat × WorkerPromotionReceipt

def promotionOfFields : List Text → Option Promotion
  | [kind, transactionId, generation, manifest, root, previous, acknowledged, probe, swap] =>
      if kind = rootSwapReceiptPrefix ∧ transactionId ≠ [] ∧ manifest ≠ [] ∧ root ≠ [] ∧
          previous ≠ [] ∧ acknowledged = ['1'] then do
        let generation ← parseDecimal generation
        let probe ← parseDecimal probe
        let _ ← parseDecimal swap
        let transaction ← parseTransactionId transactionId
        pure (transaction, probe,
          ⟨generation, String.ofList manifest, String.ofList root, unwireRootKey previous, true⟩)
      else none
  | _ => none

def workerPromotionReceipt : Reply → Option Promotion
  | .promotion transactionId probe receipt => some (transactionId, probe, receipt)
  | .text value => promotionOfFields (splitFields value)
  | _ => none

def workerRootDiscardReceipt (reply : Reply) (prepared : WorkerPreparedRootReceipt) : Bool :=
  reply = .text (Target.discardReceipt prepared)

variable (naming : Naming) (V : Type)

/-- What a mutation was reserved for. -/
inductive Purpose where
  | stageBatch (candidate : WorkerUniverseCandidate naming)
  | prepareRoot (candidate : WorkerUniverseCandidate naming) (transactionId : TransactionId)
      (previousRootKey : String)
  | swapRoot (candidate : WorkerUniverseCandidate naming) (prepared : WorkerPreparedRootReceipt)
  | discardRoot (candidate : WorkerUniverseCandidate naming) (prepared : WorkerPreparedRootReceipt)

/-- The one outstanding mutation, whether its execution was claimed, and what the executor
returned or raised once it has run. -/
structure Mutation where
  token : Nat
  purpose : Purpose naming
  claimed : Bool
  result : Option (Except Text Reply)

structure ServerWorkerUniverseRegistry where
  host : WorkerUniverseRegistry naming V
  broken : Bool
  preparedRoots : Dictionary TransactionId (WorkerUniverseCandidate naming × WorkerPreparedRootReceipt)
  mutation : Option (Mutation naming)
  nextToken : Nat

variable {naming V}

def Purpose.candidate : Purpose naming → WorkerUniverseCandidate naming
  | .stageBatch candidate => candidate
  | .prepareRoot candidate _ _ => candidate
  | .swapRoot candidate _ => candidate
  | .discardRoot candidate _ => candidate

def promotionUnknown (candidate : WorkerUniverseCandidate naming) : Failure :=
  .promotionUnknown candidate.handle.generation candidate.manifest.sha256

/-- A check of the host, its problem raised as it is. -/
def hostCheck {α : Type} (checked : Except Problem α) : Except Failure α :=
  checked.mapError .problem

namespace ServerWorkerUniverseRegistry

abbrev Server (naming : Naming) (V : Type) := ServerWorkerUniverseRegistry naming V

/-- The server that a section leaves and what the section returns or raises. -/
abbrev Section (naming : Naming) (V α : Type) := Server naming V × Except Failure α

def initial (owner runtimeGeneration contextGeneration : Nat) : Server naming V :=
  ⟨.initial owner runtimeGeneration contextGeneration, false, .empty, none, 0⟩

def breakPending (server : Server naming V) (candidate : WorkerUniverseCandidate naming) :
    Server naming V :=
  let marked := server.host.markBroken (some candidate)
  match marked.result with
  | .ok () => { server with broken := true, host := marked.registry }
  | .error _ =>
      if server.host.state = .broken then { server with broken := true }
      else { server with broken := true, host := (server.host.markBroken none).registry }

/-- The registry is broken and the promotion outcome is reported as unknown. -/
def abandon {α : Type} (server : Server naming V) (candidate : WorkerUniverseCandidate naming) :
    Section naming V α :=
  (server.breakPending candidate, .error (promotionUnknown candidate))

def abortPreSwap {α : Type} (server : Server naming V) (fence : Nat × Nat)
    (candidate : WorkerUniverseCandidate naming) (failure : Failure) : Section naming V α :=
  let discarded := server.host.discard fence candidate
  match discarded.result with
  | .ok () => ({ server with host := discarded.registry }, .error failure)
  | .error _ => abandon { server with host := discarded.registry } candidate

def available (server : Server naming V) : Prop :=
  server.broken = false ∧ server.host.state ≠ .broken ∧ server.host.state ≠ .closed

instance (server : Server naming V) : Decidable server.available :=
  inferInstanceAs (Decidable (_ ∧ _ ∧ _))

def mutationUnavailable : Failure :=
  .problem (.protocolError "Worker target mutation is unavailable")

def reserveMutation (server : Server naming V) (purpose : Purpose naming) :
    Section naming V Unit :=
  if server.available ∧ server.mutation.isNone then
    ({ server with
        mutation := some ⟨server.nextToken, purpose, false, none⟩
        nextToken := server.nextToken + 1 }, .ok ())
  else (server, .error mutationUnavailable)

def targetBroken : Failure := .problem (.protocolError "Worker target registry is broken")

def sealedActivation (server : Server naming V) (fence : Nat × Nat)
    (candidate : WorkerUniverseCandidate naming) :
    Except Failure (SealedWorkerActivation naming V) := do
  require (server.broken = false) targetBroken
  hostCheck (server.host.requireSealedActivation fence candidate)

/-! ## The sections of an operation -/

/-- Undoing an internally prepared candidate before the target was accessed. -/
def discardExact {α : Type} (server : Server naming V)
    (candidate : WorkerUniverseCandidate naming) (failure : Failure) : Section naming V α :=
  let discarded := server.host.discardExactPendingWithoutFence candidate
  match discarded.result with
  | .ok () => ({ server with host := discarded.registry }, .error failure)
  | .error _ => server.abandon candidate

/-- The first section of `prepare`: the host prepares a candidate and its batches are built. -/
def beginPrepare (server : Server naming V) (fence sealFence : Nat × Nat)
    (preparation : WorkerUniverseRegistry.Preparation) (batches : Except Failure Unit) :
    Section naming V (WorkerUniverseCandidate naming) :=
  if server.broken then (server, .error targetBroken)
  else if server.mutation.isSome then (server, .error mutationUnavailable)
  else
    let prepared := server.host.prepare fence preparation
    match prepared.result with
    | .error problem => (server, .error (.problem problem))
    | .ok candidate =>
        let staged : Server naming V := { server with host := prepared.registry }
        match (do let _ ← staged.sealedActivation sealFence candidate; batches) with
        | .ok () => (staged, .ok candidate)
        | .error failure => staged.discardExact candidate failure

/-- A stage batch: its instruction is built and its mutation reserved. -/
def reserveStageBatch (server : Server naming V) (fence : Nat × Nat)
    (candidate : WorkerUniverseCandidate naming) (instruction : Except Failure Unit) :
    Section naming V Unit :=
  match instruction with
  | .error failure => server.abortPreSwap fence candidate failure
  | .ok () => server.reserveMutation (.stageBatch candidate)

/-- The debug view of a staged candidate is built and bound. -/
def bindDebugView (server : Server naming V) (fence discardFence : Nat × Nat)
    (candidate : WorkerUniverseCandidate naming)
    (view : Except Failure (Option (WorkerGenerationDebugView naming V))) :
    Section naming V Unit :=
  match view with
  | .error failure => server.abortPreSwap discardFence candidate failure
  | .ok none => (server, .ok ())
  | .ok (some debugView) =>
      let bound := server.host.bindCandidateDebugView fence candidate debugView
      match bound.result with
      | .ok () => ({ server with host := bound.registry }, .ok ())
      | .error problem => server.abortPreSwap discardFence candidate (.problem problem)

def transactionUsed : Failure :=
  .problem (.protocolError "Worker root transaction was already used")

/-- The first section of `prepare_root`. -/
def beginPrepareRoot (server : Server naming V) (fence discardFence : Nat × Nat)
    (candidate : WorkerUniverseCandidate naming) (transactionId : TransactionId)
    (batches : Except Failure Unit) : Section naming V Unit :=
  if server.broken then (server, .error targetBroken)
  else if transactionId ∈ server.preparedRoots.keys then (server, .error transactionUsed)
  else
    match server.sealedActivation fence candidate with
    | .error failure => (server, .error failure)
    | .ok _ =>
        match batches with
        | .ok () => (server, .ok ())
        | .error failure => server.abortPreSwap discardFence candidate failure

/-- `active_root_key or ""`. -/
def activeRootKey (server : Server naming V) (fence : Nat × Nat) : Except Failure String := do
  require (server.host.state ≠ .broken) (.problem
    (.protocolError "Worker universe active generation is unavailable in broken state"))
  require (server.host.state = .closed ∨
      fence = (server.host.runtimeGeneration, server.host.contextGeneration))
    (.problem (.protocolError "Worker universe runtime/context fence is stale"))
  pure ((server.host.activeRecord.map GenerationRecord.rootKey).getD "")

def prepareRootPurpose (server : Server naming V) (fence activeFence : Nat × Nat)
    (candidate : WorkerUniverseCandidate naming) (transactionId : TransactionId) :
    Except Failure (Purpose naming) := do
  require (transactionId ∉ server.preparedRoots.keys) transactionUsed
  let _ ← server.sealedActivation fence candidate
  let previousRootKey ← server.activeRootKey activeFence
  pure (.prepareRoot candidate transactionId previousRootKey)

def reservePurpose (server : Server naming V) (purpose : Except Failure (Purpose naming)) :
    Section naming V Unit :=
  match purpose with
  | .error failure => (server, .error failure)
  | .ok purpose => server.reserveMutation purpose

def reservePrepareRoot (server : Server naming V) (fence activeFence : Nat × Nat)
    (candidate : WorkerUniverseCandidate naming) (transactionId : TransactionId) :
    Section naming V Unit :=
  server.reservePurpose (server.prepareRootPurpose fence activeFence candidate transactionId)

def staleRoot : Failure :=
  .problem (.protocolError "Worker prepared root is stale or forged")

/-- `_prepared_entry`: the entry is checked, not whether its candidate is still pending. -/
def preparedEntry (server : Server naming V) (prepared : WorkerPreparedRootReceipt) :
    Except Failure (WorkerUniverseCandidate naming) := do
  require (server.broken = false) targetBroken
  match server.preparedRoots.get? prepared.transactionId with
  | some (candidate, receipt) => if receipt = prepared then .ok candidate else .error staleRoot
  | none => .error staleRoot

def reserveSwapRoot (server : Server naming V) (prepared : WorkerPreparedRootReceipt) :
    Section naming V Unit :=
  server.reservePurpose
    ((server.preparedEntry prepared).map fun candidate => .swapRoot candidate prepared)

def reserveDiscardRoot (server : Server naming V) (prepared : WorkerPreparedRootReceipt) :
    Section naming V Unit :=
  server.reservePurpose
    ((server.preparedEntry prepared).map fun candidate => .discardRoot candidate prepared)

/-- The first section of `execute_mutation` on the outstanding mutation. -/
def claimMutation (server : Server naming V) (mutation : Mutation naming) :
    Section naming V Unit :=
  if ¬server.available then (server, .error mutationUnavailable)
  else if mutation.claimed then
    (server, .error (.problem
      (.protocolError "Worker mutation execution was already claimed")))
  else ({ server with mutation := some { mutation with claimed := true } }, .ok ())

/-! ## Completion -/

/-- What `parse_worker_stage_batch_outcome` and the recording of its entries make of a reply.
A known failure comes with the verdict on building its diagnostic error. -/
inductive StageOutcome where
  | rejected
  | succeeded
  | knownPreSwap (error : Except Failure Failure)
  | unknown
deriving DecidableEq, Repr

/-- What a completion is given besides the executor's result. -/
structure CompletionInput where
  stageOutcome : StageOutcome
  diagnosticsFence : Nat × Nat
  hostFence : Nat × Nat
  receiptIdentity : Nat
  recording : Except Failure Unit

/-- `_stage_failure_error`: the candidate's diagnostics are read first. -/
def stageFailureError (server : Server naming V) (fence : Nat × Nat)
    (candidate : WorkerUniverseCandidate naming) (error : Except Failure Failure) :
    Except Failure Failure := do
  let _ ← hostCheck (server.host.requireSealedActivation fence candidate)
  error

def completeStage (server : Server naming V) (candidate : WorkerUniverseCandidate naming)
    (input : CompletionInput) : Except Text Reply → Section naming V Unit
  | .error _ => server.abandon candidate
  | .ok _ =>
      match input.stageOutcome with
      | .rejected => server.abandon candidate
      | .succeeded => (server, .ok ())
      | .unknown => server.abandon candidate
      | .knownPreSwap error =>
          match server.stageFailureError input.diagnosticsFence candidate error with
          | .error failure => (server, .error failure)
          | .ok failure => server.abortPreSwap input.hostFence candidate failure

/-- The abort of a root preparation. -/
def abortPrepareRoot (server : Server naming V) (candidate : WorkerUniverseCandidate naming)
    (input : CompletionInput) (message : Text) : Section naming V Unit :=
  match workerPromotionFailurePhase message with
  | .error failure => (server, .error failure)
  | .ok none => server.abandon candidate
  | .ok (some _) =>
      match input.recording with
      | .error failure => (server, .error failure)
      | .ok () => server.abortPreSwap input.hostFence candidate (.executor message)

/-- The receipt that confirms a root preparation. -/
def acceptedPreparation (candidate : WorkerUniverseCandidate naming)
    (transactionId : TransactionId) (previousRootKey : String) (identity : Nat) (reply : Reply) :
    Option WorkerPreparedRootReceipt :=
  (workerPreparedRootReceipt identity reply).filter fun receipt =>
    receipt.transactionId = transactionId ∧ receipt.generation = candidate.handle.generation ∧
      receipt.manifestSha256 = candidate.manifest.sha256 ∧
      receipt.candidateRootKey = generationRootKey candidate.handle.generation ∧
      receipt.previousRootKey = previousRootKey

def completePrepareRoot (server : Server naming V) (candidate : WorkerUniverseCandidate naming)
    (transactionId : TransactionId) (previousRootKey : String) (input : CompletionInput) :
    Except Text Reply → Section naming V Unit
  | .error message => server.abortPrepareRoot candidate input message
  | .ok reply =>
      match acceptedPreparation candidate transactionId previousRootKey input.receiptIdentity
          reply with
      | none => server.abandon candidate
      | some receipt =>
          ({ server with
              preparedRoots := server.preparedRoots.set transactionId (candidate, receipt) },
            .ok ())

def acceptedPromotion (prepared : WorkerPreparedRootReceipt) (reply : Reply) :
    Option WorkerPromotionReceipt :=
  ((workerPromotionReceipt reply).filter fun promotion =>
    promotion.1 = prepared.transactionId ∧ promotion.2.1 = prepared.generationCreateWireProbeMs ∧
      promotion.2.2.generation = prepared.generation ∧
      promotion.2.2.manifestSha256 = prepared.manifestSha256 ∧
      promotion.2.2.rootKey = prepared.candidateRootKey ∧
      promotion.2.2.previousRootKey = prepared.previousRootKey).map (·.2.2)

def abortSwapRoot (server : Server naming V) (candidate : WorkerUniverseCandidate naming)
    (message : Text) : Section naming V Unit :=
  match workerRootSwapFailurePhase message with
  | .error failure => (server, .error failure)
  | .ok none => server.abandon candidate
  | .ok (some _) => (server, .error (.executor message))

def completeSwapRoot (server : Server naming V) (candidate : WorkerUniverseCandidate naming)
    (prepared : WorkerPreparedRootReceipt) (input : CompletionInput) :
    Except Text Reply → Section naming V Unit
  | .error message => server.abortSwapRoot candidate message
  | .ok reply =>
      match acceptedPromotion prepared reply with
      | none => server.abandon candidate
      | some receipt =>
          let confirmed := server.host.confirm input.hostFence candidate receipt
          match confirmed.result with
          | .error _ => server.abandon candidate
          | .ok _ =>
              ({ server with
                  host := confirmed.registry
                  preparedRoots := server.preparedRoots.erase prepared.transactionId }, .ok ())

def completeDiscardRoot (server : Server naming V) (candidate : WorkerUniverseCandidate naming)
    (prepared : WorkerPreparedRootReceipt) (input : CompletionInput) :
    Except Text Reply → Section naming V Unit
  | .error _ => server.abandon candidate
  | .ok reply =>
      if workerRootDiscardReceipt reply prepared then
        let discarded := server.host.discard input.hostFence candidate
        match discarded.result with
        | .error _ => abandon { server with host := discarded.registry } candidate
        | .ok () =>
            ({ server with
                host := discarded.registry
                preparedRoots := server.preparedRoots.erase prepared.transactionId }, .ok ())
      else server.abandon candidate

/-- `commit_mutation` or `abort_mutation` with the executor's result: the mutation is taken and
one of its two callbacks runs. -/
def completeMutation (server : Server naming V) (purpose : Purpose naming)
    (input : CompletionInput) (result : Except Text Reply) : Section naming V Unit :=
  let taken : Server naming V := { server with mutation := none }
  match purpose with
  | .stageBatch candidate => taken.completeStage candidate input result
  | .prepareRoot candidate transactionId previousRootKey =>
      taken.completePrepareRoot candidate transactionId previousRootKey input result
  | .swapRoot candidate prepared => taken.completeSwapRoot candidate prepared input result
  | .discardRoot candidate prepared => taken.completeDiscardRoot candidate prepared input result

/-! ## Other calls -/

def quarantineRoot (server : Server naming V) (prepared : WorkerPreparedRootReceipt) :
    Section naming V Unit :=
  if server.broken then (server, .ok ())
  else
    match server.preparedEntry prepared with
    | .error failure => (server, .error failure)
    | .ok candidate => (server.breakPending candidate, .ok ())

variable [DecidableEq V]

/-- `release`, `release_pin` and the direct commit of a release. -/
def release (server : Server naming V) (planFence fence previewFence : Nat × Nat)
    (release : Release naming) : Section naming V (List String) :=
  if server.broken then (server, .error targetBroken)
  else
    let released := server.host.directRelease planFence fence previewFence release
    ({ server with host := released.registry }, hostCheck released.result)

end ServerWorkerUniverseRegistry

end OnecRuntime.Publication

/-!
# Receipts

A field without a bar is read back whole, and a decimal is read back as the number
it was written from, so a swap receipt is accepted only for its own generation.
-/

namespace OnecRuntime.Publication

open OnecRuntime.Library OnecRuntime.Registry

theorem splitFields_append {field : Text} (unbarred : '|' ∉ field) (rest : Text) :
    splitFields (field ++ '|' :: rest) = field :: splitFields rest := by
  induction field with
  | nil => rfl
  | cons character later hypothesis =>
      have apart : character ≠ '|' := fun same => unbarred (same ▸ List.mem_cons_self)
      have inner := hypothesis fun member => unbarred (List.mem_cons_of_mem _ member)
      rw [List.cons_append, splitFields, inner]
      exact fun same => apart same

theorem digitChar_value {digit : Nat} (small : digit < 10) :
    digit.digitChar.toNat - '0'.toNat = digit := by
  revert digit
  decide

theorem foldl_digits (digits : List Nat) (small : ∀ digit ∈ digits, digit < 10) :
    ((digits.reverse).map Nat.digitChar).foldl
        (fun value digit => 10 * value + (digit.toNat - '0'.toNat)) 0 = Nat.ofDigits 10 digits := by
  rw [List.foldl_map, List.foldl_reverse, Nat.ofDigits_eq_foldr]
  induction digits with
  | nil => rfl
  | cons digit rest hypothesis =>
      have inner := hypothesis fun other member => small other (List.mem_cons_of_mem _ member)
      simp only [List.foldr_cons, digitChar_value (small digit List.mem_cons_self)] at inner ⊢
      rw [inner]
      exact Nat.add_comm _ _

/-- A decimal is read back as the number it was written from. -/
theorem parseDecimal_decimal {number parsed : Nat}
    (read : parseDecimal (decimal number) = some parsed) : parsed = number := by
  unfold decimal at read
  split at read
  · next zero =>
      cases read
      exact zero.symm
  · next nonzero =>
      have small : ∀ digit ∈ Nat.digits 10 number, digit < 10 :=
        fun digit member => Nat.digits_lt_base (by decide) member
      unfold parseDecimal at read
      split at read
      · next single =>
          cases read
          have folded := foldl_digits (Nat.digits 10 number) small
          rw [single, Nat.ofDigits_digits] at folded
          exact folded
      · split at read
        · cases read
          rw [foldl_digits _ small, Nat.ofDigits_digits]
        · cases read

theorem decimal_unbarred (number : Nat) : '|' ∉ decimal number := by
  unfold decimal
  split
  · decide
  · intro member
    obtain ⟨digit, inside, same⟩ := List.mem_map.1 member
    have small : digit < 10 := Nat.digits_lt_base (by decide) (List.mem_reverse.1 inside)
    have apart : ∀ digit < 10, digit.digitChar ≠ '|' := by decide
    exact apart digit small same

theorem splitFields_swapReceipt (prepared : WorkerPreparedRootReceipt) (prepareMs swapMs : Nat) :
    ∃ fields, splitFields (Target.swapReceipt prepared prepareMs swapMs) =
      rootSwapReceiptPrefix :: prepared.transactionId.text :: decimal prepared.generation ::
        fields := by
  have unbarred : '|' ∉ rootSwapReceiptPrefix := by decide
  simp only [Target.swapReceipt, joinFields, splitFields_append unbarred,
    splitFields_append prepared.transactionId.unbarred, splitFields_append (decimal_unbarred _)]
  exact ⟨_, rfl⟩

theorem promotionOfFields_generation {kind transactionId generation : Text} {fields : List Text}
    {promotion : Promotion}
    (read : promotionOfFields (kind :: transactionId :: generation :: fields) = some promotion) :
    parseDecimal generation = some promotion.2.2.generation := by
  unfold promotionOfFields at read
  split at read
  · next shape =>
      simp only [List.cons.injEq] at shape
      obtain ⟨rfl, rfl, rfl, _⟩ := shape
      split at read
      · obtain ⟨number, parsed, read⟩ := Option.bind_eq_some_iff.1 read
        obtain ⟨_, _, read⟩ := Option.bind_eq_some_iff.1 read
        obtain ⟨_, _, read⟩ := Option.bind_eq_some_iff.1 read
        obtain ⟨_, _, read⟩ := Option.bind_eq_some_iff.1 read
        cases read
        exact parsed
      · cases read
  · cases read

/-- A swap receipt is read as a promotion of its own generation. -/
theorem promotion_generation {prepared : WorkerPreparedRootReceipt} {prepareMs swapMs : Nat}
    {promotion : Promotion}
    (read : workerPromotionReceipt (.text (Target.swapReceipt prepared prepareMs swapMs)) =
      some promotion) : promotion.2.2.generation = prepared.generation := by
  obtain ⟨fields, split⟩ := splitFields_swapReceipt prepared prepareMs swapMs
  have parsed : promotionOfFields
      (splitFields (Target.swapReceipt prepared prepareMs swapMs)) = some promotion := read
  rw [split] at parsed
  exact parseDecimal_decimal (promotionOfFields_generation parsed)

end OnecRuntime.Publication
