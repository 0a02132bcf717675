import Mathlib.Data.Nat.Digits.Defs
import OnecRuntime.Registry.Lifecycle

/-!
# Failure texts

A failed root instruction names its stage in the text of the error: the phase is
what follows the stage marker on the first line. A text that ends right after the
marker has no first line, and reading one raises an index error.
-/

namespace OnecRuntime.Publication

open OnecRuntime.Library OnecRuntime.Registry

abbrev Text := List Char

/-- The part of a text after the first occurrence of a marker. -/
def afterFirst (marker : Text) : Text → Option Text
  | [] => if marker = [] then some [] else none
  | character :: rest =>
      if marker.isPrefixOf (character :: rest) then
        some ((character :: rest).drop marker.length)
      else afterFirst marker rest

/-- The line boundaries of `str.splitlines`. -/
def isLineBoundary (character : Char) : Bool :=
  character.toNat ∈ [10, 11, 12, 13, 28, 29, 30, 133, 8232, 8233]

/-- The characters that `str.strip` removes. -/
def isSpace (character : Char) : Bool :=
  character.toNat ∈ [9, 10, 11, 12, 13, 28, 29, 30, 31, 32, 133, 160, 5760, 8192, 8193, 8194,
    8195, 8196, 8197, 8198, 8199, 8200, 8201, 8202, 8232, 8233, 8239, 8287, 12288]

def strip (text : Text) : Text :=
  ((text.dropWhile isSpace).reverse.dropWhile isSpace).reverse

/-- What a call of the server registry raises. -/
inductive Failure where
  | problem (problem : Problem)
  | promotionUnknown (generation : Nat) (manifestSha256 : String)
  | executor (message : Text)
  | indexError
deriving DecidableEq, Repr

/-- `text.splitlines()[0]`. -/
def firstLine : Text → Except Failure Text
  | [] => .error .indexError
  | character :: rest =>
      .ok ((character :: rest).takeWhile fun character => !isLineBoundary character)

def failurePhase (marker : Text) (phases : List Text) (message : Text) :
    Except Failure (Option Text) :=
  match afterFirst marker message with
  | none => .ok none
  | some following => do
      let line ← firstLine following
      pure (if strip line ∈ phases then some (strip line) else none)

def preparedStageMarker : Text := "onec-worker-root-prepare-stage=".toList

def swapStageMarker : Text := "onec-worker-root-swap-stage=".toList

def workerPromotionFailurePhase (message : Text) : Except Failure (Option Text) :=
  failurePhase preparedStageMarker ["create".toList, "wire".toList, "probe".toList] message

def workerRootSwapFailurePhase (message : Text) : Except Failure (Option Text) :=
  failurePhase swapStageMarker ["guard".toList] message

end OnecRuntime.Publication

/-!
# The target context

The generated root instructions read and write a few families of context keys:
the active generation, the prepared roots and the stored outcomes of swaps and
discards. An instruction checks its guard before it changes anything and stores
its receipt under its outcome key, so executing it again returns the receipt.
-/

namespace OnecRuntime.Publication

open OnecRuntime.Library OnecRuntime.Registry

/-- The canonical text of a transaction UUID. -/
structure TransactionId where
  text : Text
  unbarred : '|' ∉ text
deriving DecidableEq, Repr

/-- A `WorkerPreparedRootReceipt` object; it is compared by identity. -/
structure WorkerPreparedRootReceipt where
  identity : Nat
  transactionId : TransactionId
  generation : Nat
  manifestSha256 : String
  candidateRootKey : String
  previousRootKey : String
  generationCreateWireProbeMs : Nat
deriving DecidableEq, Repr

/-- A prepared root as the target stores it; `rootKey` is the key of the sealed root itself. -/
structure PreparedRoot where
  transactionId : TransactionId
  generation : Nat
  manifestSha256 : String
  candidateRootKey : String
  previousRootKey : String
  rootKey : String
  prepareMs : Nat
deriving DecidableEq, Repr

structure Target where
  active : Option String
  prepared : Dictionary TransactionId PreparedRoot
  swapOutcomes : Dictionary TransactionId Text
  discardOutcomes : Dictionary TransactionId Text

def Target.empty : Target := ⟨none, .empty, .empty, .empty⟩

/-- The fields of a receipt, joined by bars. -/
def joinFields : List Text → Text
  | [] => []
  | [field] => field
  | field :: rest => field ++ '|' :: joinFields rest

def decimal (number : Nat) : Text :=
  if number = 0 then ['0'] else ((Nat.digits 10 number).reverse).map Nat.digitChar

def wireRootKey (rootKey : String) : Text := if rootKey = "" then ['-'] else rootKey.toList

def preparedRootReceiptPrefix : Text := "onec-worker-prepared-root-receipt-v1".toList

def rootSwapReceiptPrefix : Text := "onec-worker-root-swap-receipt-v1".toList

def rootDiscardReceiptPrefix : Text := "onec-worker-root-discard-receipt-v1".toList

namespace Target

/-- The instruction of `prepare_worker_root_instruction` once its objects were created. -/
def prepareRoot (target : Target) (transactionId : TransactionId) (generation : Nat)
    (manifestSha256 previousRootKey : String) (prepareMs : Nat) : Target × Text :=
  let rootKey := generationRootKey generation
  ({ target with
      prepared := target.prepared.set transactionId
        ⟨transactionId, generation, manifestSha256, rootKey, previousRootKey, rootKey,
          prepareMs⟩ },
    joinFields [preparedRootReceiptPrefix, transactionId.text, decimal generation,
      manifestSha256.toList, rootKey.toList, wireRootKey previousRootKey, decimal prepareMs])

def swapReceipt (prepared : WorkerPreparedRootReceipt) (prepareMs swapMs : Nat) : Text :=
  joinFields [rootSwapReceiptPrefix, prepared.transactionId.text, decimal prepared.generation,
    prepared.manifestSha256.toList, prepared.candidateRootKey.toList,
    wireRootKey prepared.previousRootKey, ['1'], decimal prepareMs, decimal swapMs]

def discardReceipt (prepared : WorkerPreparedRootReceipt) : Text :=
  joinFields [rootDiscardReceiptPrefix, prepared.transactionId.text,
    decimal prepared.generation, prepared.manifestSha256.toList, prepared.candidateRootKey.toList]

def identifies (stored : PreparedRoot) (prepared : WorkerPreparedRootReceipt) : Prop :=
  stored.transactionId = prepared.transactionId ∧ stored.generation = prepared.generation ∧
    stored.manifestSha256 = prepared.manifestSha256 ∧
    stored.candidateRootKey = prepared.candidateRootKey ∧
    stored.previousRootKey = prepared.previousRootKey

instance (stored : PreparedRoot) (prepared : WorkerPreparedRootReceipt) :
    Decidable (identifies stored prepared) :=
  inferInstanceAs (Decidable (_ ∧ _ ∧ _ ∧ _ ∧ _))

/-- The active root is the one the prepared root was made to replace. -/
def previousMatches (target : Target) (prepared : WorkerPreparedRootReceipt) : Prop :=
  target.active = if prepared.previousRootKey = "" then none else some prepared.previousRootKey

instance (target : Target) (prepared : WorkerPreparedRootReceipt) :
    Decidable (target.previousMatches prepared) :=
  inferInstanceAs (Decidable (_ = _))

def publish (target : Target) (stored : PreparedRoot) (prepared : WorkerPreparedRootReceipt)
    (swapMs : Nat) : Target × Text :=
  ({ target with
      active := some stored.rootKey
      prepared := target.prepared.erase prepared.transactionId
      swapOutcomes := target.swapOutcomes.set prepared.transactionId
        (swapReceipt prepared stored.prepareMs swapMs) },
    swapReceipt prepared stored.prepareMs swapMs)

/-- `swap_worker_root_instruction`: the text is the error that its guard raises. -/
def swapRoot (target : Target) (prepared : WorkerPreparedRootReceipt) (swapMs : Nat) :
    Except String (Target × Text) :=
  match target.swapOutcomes.get? prepared.transactionId with
  | some receipt => .ok (target, receipt)
  | none =>
      match target.prepared.get? prepared.transactionId with
      | none => .error "prepared root is unavailable"
      | some stored =>
          if identifies stored prepared then
            if target.previousMatches prepared then .ok (target.publish stored prepared swapMs)
            else if prepared.previousRootKey = "" then .error "unexpected previous root"
            else .error "previous root identity mismatch"
          else .error "prepared root identity mismatch"

def forgetPrepared (target : Target) (prepared : WorkerPreparedRootReceipt) : Target × Text :=
  ({ target with
      prepared := target.prepared.erase prepared.transactionId
      discardOutcomes :=
        target.discardOutcomes.set prepared.transactionId (discardReceipt prepared) },
    discardReceipt prepared)

/-- `discard_worker_root_instruction`. -/
def discardRoot (target : Target) (prepared : WorkerPreparedRootReceipt) :
    Except String (Target × Text) :=
  match target.discardOutcomes.get? prepared.transactionId with
  | some receipt => .ok (target, receipt)
  | none =>
      match target.prepared.get? prepared.transactionId with
      | none => .error "prepared root is unavailable"
      | some stored =>
          if stored.transactionId = prepared.transactionId ∧
              stored.generation = prepared.generation ∧
              stored.manifestSha256 = prepared.manifestSha256 then
            .ok (target.forgetPrepared prepared)
          else .error "prepared root identity mismatch"

/-! ## Executing an instruction again -/

variable {prepared : WorkerPreparedRootReceipt}

variable {target : Target} {receipt : Text}

theorem swapRoot_outcome {after : Target}
    {swapMs : Nat}
    (swapped : target.swapRoot prepared swapMs = .ok (after, receipt)) :
    after.swapOutcomes.get? prepared.transactionId = some receipt := by
  unfold swapRoot at swapped
  split at swapped
  · next stored =>
      cases swapped
      exact stored
  · split at swapped
    · cases swapped
    · split at swapped
      · split at swapped
        · cases swapped
          exact Dictionary.get?_set_same _ _ _
        · split at swapped <;> cases swapped
      · cases swapped

/-- While its outcome is stored, a swap returns it and changes nothing. -/
theorem swapRoot_again
    (stored : target.swapOutcomes.get? prepared.transactionId = some receipt) (swapMs : Nat) :
    target.swapRoot prepared swapMs = .ok (target, receipt) := by
  unfold swapRoot
  rw [stored]

theorem discardRoot_outcome {after : Target}
    (discarded : target.discardRoot prepared = .ok (after, receipt)) :
    after.discardOutcomes.get? prepared.transactionId = some receipt := by
  unfold discardRoot at discarded
  split at discarded
  · next stored =>
      cases discarded
      exact stored
  · split at discarded
    · cases discarded
    · split at discarded
      · cases discarded
        exact Dictionary.get?_set_same _ _ _
      · cases discarded

theorem discardRoot_again
    (stored : target.discardOutcomes.get? prepared.transactionId = some receipt) :
    target.discardRoot prepared = .ok (target, receipt) := by
  unfold discardRoot
  rw [stored]

end Target

end OnecRuntime.Publication
