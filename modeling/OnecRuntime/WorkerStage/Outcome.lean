import OnecRuntime.WorkerStage.Batches

/-!
# The outcome of a staging

The text that a staging instruction returns is parsed against the batch that it was
generated for: every field of the document has to be the one of this batch, the connected
rows are those of its first entries, and a failure is the one of the next.
-/

namespace OnecRuntime.WorkerStage

open OnecRuntime.Library OnecRuntime.Tables

inductive Refusal where
  | valueError (message : String)
  | protocolError (message : String)
  /-- A status that cannot be looked up in a set. -/
  | typeError
deriving DecidableEq, Repr

def invalidOutcome : Refusal := .protocolError "Worker stage outcome is invalid"

abbrev Parsed := Except Refusal

def given {α : Type} : Option α → Parsed α
  | some value => .ok value
  | none => .error invalidOutcome

structure WorkerStageRegistrationReceipt where
  registrationName : String
  artifactSha256 : String
  tempStorageUrl : CodeText
  valid : asciiRegistrationName registrationName = true ∧ isSha256 artifactSha256 = true ∧
    qualifiedTempStorageUrl tempStorageUrl = true
deriving DecidableEq

def expectedOutcome (phase : Phase) : FailureOutcome :=
  if phase = .decode ∨ phase = .upload then .knownPreSwap else .registrationOutcomeUnknown

/-- What a failure promises. -/
structure FailureValid (phase : Phase) (outcome : FailureOutcome) (diagnostic : CodeText)
    (orphanUrl : Option CodeText) : Prop where
  bounded : diagnostic.length ≤ maxWorkerStageDiagnosticCodepoints
  qualified : ∀ url ∈ orphanUrl, qualifiedTempStorageUrl url = true
  expected : outcome = expectedOutcome phase
  addressed : phase = .connect ∨ phase = .registrationResult → orphanUrl ≠ none

instance (phase : Phase) (outcome : FailureOutcome) (diagnostic : CodeText)
    (orphanUrl : Option CodeText) : Decidable (FailureValid phase outcome diagnostic orphanUrl) :=
  decidable_of_iff
    (diagnostic.length ≤ maxWorkerStageDiagnosticCodepoints ∧
      (∀ url ∈ orphanUrl, qualifiedTempStorageUrl url = true) ∧
      outcome = expectedOutcome phase ∧
      (phase = .connect ∨ phase = .registrationResult → orphanUrl ≠ none))
    ⟨fun ⟨bounded, qualified, expected, addressed⟩ => ⟨bounded, qualified, expected, addressed⟩,
      fun valid => ⟨valid.bounded, valid.qualified, valid.expected, valid.addressed⟩⟩

structure WorkerStageFailure where
  itemIndex : Nat
  phase : Phase
  outcome : FailureOutcome
  diagnostic : CodeText
  orphanUrl : Option CodeText
  valid : FailureValid phase outcome diagnostic orphanUrl
deriving DecidableEq

inductive Status where
  | succeeded
  | failed
deriving DecidableEq, Repr

structure WorkerStageBatchOutcome where
  transactionId : Uuid
  batchIndex : Nat
  batchCount : Nat
  batchDigest : String
  status : Status
  connected : List WorkerStageRegistrationReceipt
  failure : Option WorkerStageFailure
  correlated : batchIndex < batchCount
  digest : isSha256 batchDigest = true
  bounded : connected.length ≤ maxWorkerStageBatchSize
  settled : status = .succeeded ↔ failure = none
deriving DecidableEq

/-! ## Reading the document -/

/-- The bytes of a code point in UTF-8. -/
def utf8Size (sign : CodePoint) : Nat :=
  if sign.val < 0x80 then 1 else if sign.val < 0x800 then 2 else if sign.val < 0x10000 then 3 else 4

/-- The length of `payload.encode("utf-8")`; a lone surrogate has no encoding. -/
def encodedLength (payload : CodeText) : Option Nat :=
  if ∃ sign ∈ payload, isSurrogate sign.val then none else some (payload.map utf8Size).sum

mutual

/-- No object of the value names a member twice. -/
def uniqueObjects : Json → Bool
  | .array items => uniqueItems items
  | .object members => decide (members.map Prod.fst).Nodup && uniqueMembers members
  | _ => true

def uniqueItems : List Json → Bool
  | [] => true
  | item :: rest => uniqueObjects item && uniqueItems rest

def uniqueMembers : List (CodeText × Json) → Bool
  | [] => true
  | (_, value) :: rest => uniqueObjects value && uniqueMembers rest

end

/-- `json.loads` with `_unique_object`; the error of an integer with too many digits, which
is not caught, counts as an invalid document. -/
def loadsUnique (payload : CodeText) : Option Json :=
  match loads (payload.map charOf) with
  | some value => if uniqueObjects value then some value else none
  | none => none

abbrev Members := List (CodeText × Json)

/-- `_exact_keys`. -/
def exactKeys (value : Json) (expected : List String) : Parsed Members :=
  match value with
  | .object members =>
      if members.map Prod.fst ⊆ expected.map text ∧
          expected.map text ⊆ members.map Prod.fst then .ok members
      else .error invalidOutcome
  | _ => .error invalidOutcome

def field (members : Members) (name : String) : Json := (members.lookup (text name)).getD .null

def isText (value : Json) (expected : CodeText) : Bool :=
  match value with
  | .string content => decide (content = expected)
  | _ => false

def isInteger (value : Json) (expected : Nat) : Bool :=
  match value with
  | .number (.integer number) => decide (number = expected)
  | _ => false

def isFalse : Json → Bool
  | .boolean false => true
  | _ => false

def hashable : Json → Bool
  | .array _ => false
  | .object _ => false
  | _ => true

/-- The type of the URL is checked with the receipt. -/
def receiptOf (entry : WorkerStageEntry) (url : Json) :
    Option WorkerStageRegistrationReceipt :=
  match url with
  | .string content =>
      if qualified : qualifiedTempStorageUrl content = true then
        some ⟨entry.registrationName, entry.artifactSha256, content,
          entry.valid.2.2.1, entry.valid.2.1, qualified⟩
      else none
  | _ => none

/-- The connected rows, each read against the entry at its place. -/
def parseConnected : List WorkerStageEntry → List Json → Parsed (List WorkerStageRegistrationReceipt)
  | _, [] => .ok []
  | [], _ :: _ => .error invalidOutcome
  | entry :: entries, raw :: rows => do
      let row ← exactKeys raw ["registration_name", "artifact_sha256", "temp_storage_url"]
      require (isText (field row "registration_name") (text entry.registrationName) = true ∧
        isText (field row "artifact_sha256") (text entry.artifactSha256) = true) invalidOutcome
      let receipt ← given (receiptOf entry (field row "temp_storage_url"))
      let rest ← parseConnected entries rows
      return receipt :: rest

def phaseOf (value : Json) : Option Phase :=
  [Phase.decode, .upload, .connect, .registrationResult].find? fun phase =>
    isText value (text phase.name)

def outcomeOf (value : Json) : Option FailureOutcome :=
  [FailureOutcome.knownPreSwap, .registrationOutcomeUnknown].find? fun outcome =>
    isText value (text outcome.name)

/-- The orphan URL of a failure: `Ложь` stands for none. -/
def orphanOf : Json → Option (Option CodeText)
  | .boolean false => some none
  | .null => some none
  | .string content => some (some content)
  | _ => none

def diagnosticOf : Json → Option CodeText
  | .string content => some content
  | _ => none

/-- `WorkerStageFailure(...)` of the fields of a failure. -/
def failureOf (index : Nat) (members : Members) : Option WorkerStageFailure :=
  match phaseOf (field members "phase"), outcomeOf (field members "outcome"),
      diagnosticOf (field members "diagnostic"), orphanOf (field members "orphan_url") with
  | some phase, some outcome, some diagnostic, some orphanUrl =>
      if valid : FailureValid phase outcome diagnostic orphanUrl then
        some ⟨index, phase, outcome, diagnostic, orphanUrl, valid⟩
      else none
  | _, _, _, _ => none

def documentKeys : List String :=
  ["schema", "schema_version", "transaction_id", "batch_index", "batch_count", "batch_digest",
    "status", "connected", "failure"]

def failureKeys : List String := ["item_index", "phase", "outcome", "diagnostic", "orphan_url"]

/-- What the fields of a document have to be for a batch, up to its status. -/
def coordinatesMatch (members : Members) (batch : WorkerStageBatch) (batchCount : Nat)
    (transactionId : Uuid) (digest : String) : Prop :=
  isText (field members "schema") (text workerStageSchema) = true ∧
    isInteger (field members "schema_version") workerStageSchemaVersion = true ∧
    isText (field members "transaction_id") (uuidText transactionId) = true ∧
    isInteger (field members "batch_index") batch.batchIndex = true ∧
    isInteger (field members "batch_count") batchCount = true ∧
    isText (field members "batch_digest") (text digest) = true

instance (members : Members) (batch : WorkerStageBatch) (batchCount : Nat) (transactionId : Uuid)
    (digest : String) :
    Decidable (coordinatesMatch members batch batchCount transactionId digest) :=
  inferInstanceAs (Decidable (_ ∧ _ ∧ _ ∧ _ ∧ _ ∧ _))

def rowsOf : Json → Option (List Json)
  | .array rows => some rows
  | _ => none

/-- The status and the failure of a document whose connected rows were read. -/
def parseFailure (members : Members) (batch : WorkerStageBatch) (connected : Nat) :
    Parsed (Option WorkerStageFailure) :=
  if isText (field members "status") (text "succeeded") then do
    require (isFalse (field members "failure") = true ∧ connected = batch.entries.length)
      invalidOutcome
    return none
  else do
    let raw ← exactKeys (field members "failure") failureKeys
    require (isInteger (field raw "item_index") connected = true ∧
      connected < batch.entries.length) invalidOutcome
    let failure ← given (failureOf connected raw)
    return some failure

/-- `parse_worker_stage_batch_outcome`. -/
def parseWorkerStageBatchOutcome (sha256 : Sha256) (payload : CodeText) (batch : WorkerStageBatch)
    (batchCount : Nat) (transactionId : Uuid) : Parsed WorkerStageBatchOutcome :=
  if correlated : batchCountIsValid batch batchCount then do
    let encoded ← given (encodedLength payload)
    require (encoded ≤ maxWorkerStageOutcomeBytes) invalidOutcome
    let document ← given (loadsUnique payload)
    let members ← exactKeys document documentKeys
    let digest := workerStageBatchDigest sha256 batch batchCount
    require (coordinatesMatch members batch batchCount transactionId digest) invalidOutcome
    require (hashable (field members "status") = true) .typeError
    require (isText (field members "status") (text "succeeded") = true ∨
      isText (field members "status") (text "failed") = true) invalidOutcome
    let rows ← given (rowsOf (field members "connected"))
    let connected ← parseConnected batch.entries rows
    require (connected.map (·.tempStorageUrl)).Nodup invalidOutcome
    let failure ← parseFailure members batch connected.length
    if bounded : connected.length ≤ maxWorkerStageBatchSize then
      return {
        transactionId
        batchIndex := batch.batchIndex
        batchCount
        batchDigest := digest
        status := if failure = none then .succeeded else .failed
        connected
        failure
        correlated := correlated.2
        digest := sha256.hexadecimal _
        bounded
        settled := by split <;> simp_all }
    else .error (.valueError "worker stage batch outcome is invalid")
  else .error (.valueError "worker stage batch coordinates are invalid")

end OnecRuntime.WorkerStage
