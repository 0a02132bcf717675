import OnecRuntime.WorkerStage.Document

/-!
# A staging outcome arrives

What a staging instruction returns is accepted where its texts have no lone surrogate, the
addresses of the connected items are distinct and the document fits the byte bound, and
then it says what the platform did: the items connected before the first failure, and of
the failing one whether it was handed to be connected and the address it left. Whatever is
accepted is of this batch.
-/

namespace OnecRuntime.WorkerStage

open OnecRuntime.Library OnecRuntime.Tables

/-! ## What is accepted -/

/-- What an accepted payload holds. -/
structure Accepted (sha256 : Sha256) (payload : CodeText) (batch : WorkerStageBatch)
    (batchCount : Nat) (transactionId : Uuid) (outcome : WorkerStageBatchOutcome)
    (document : Json) (members : Members) (rows : List Json) : Prop where
  paired : Paired payload
  small : (payload.map utf8Size).sum ≤ maxWorkerStageOutcomeBytes
  loaded : loadsUnique payload = some document
  keyed : exactKeys document documentKeys = .ok members
  coordinates : coordinatesMatch members batch batchCount transactionId
    (workerStageBatchDigest sha256 batch batchCount)
  listed : rowsOf (field members "connected") = some rows
  connected : parseConnected batch.entries rows = .ok outcome.connected
  distinct : (outcome.connected.map (·.tempStorageUrl)).Nodup
  failure : parseFailure members batch outcome.connected.length = .ok outcome.failure
  transaction : outcome.transactionId = transactionId
  index : outcome.batchIndex = batch.batchIndex
  count : outcome.batchCount = batchCount
  digest : outcome.batchDigest = workerStageBatchDigest sha256 batch batchCount

theorem given_eq_ok {α : Type} {value : Option α} {result : α} :
    given value = .ok result ↔ value = some result := by
  cases value with
  | none =>
      constructor
      · intro impossible
        cases impossible
      · intro impossible
        cases impossible
  | some other =>
      constructor
      · intro same
        cases same
        rfl
      · intro same
        cases same
        rfl

variable {payload : CodeText}

theorem encodedLength_eq_some {size : Nat} :
    encodedLength payload = some size ↔ Paired payload ∧ (payload.map utf8Size).sum = size := by
  unfold encodedLength
  by_cases lone : ∃ sign ∈ payload, isSurrogate sign.val
  · obtain ⟨sign, member, surrogate⟩ := lone
    rw [if_pos ⟨sign, member, surrogate⟩]
    constructor
    · intro impossible
      cases impossible
    · rintro ⟨paired, _⟩
      exact absurd surrogate (paired sign member)
  · have paired : Paired payload := fun sign member surrogate => lone ⟨sign, member, surrogate⟩
    rw [if_neg lone, Option.some.injEq]
    exact ⟨fun same => ⟨paired, same⟩, fun both => both.2⟩

variable {batch : WorkerStageBatch} {batchCount : Nat} {transactionId : Uuid}
  {outcome : WorkerStageBatchOutcome}

variable {sha256 : Sha256}

theorem parse_eq_ok
    (parsed : parseWorkerStageBatchOutcome sha256 payload batch batchCount transactionId =
      .ok outcome) :
    ∃ document members rows,
      Accepted sha256 payload batch batchCount transactionId outcome document members rows := by
  unfold parseWorkerStageBatchOutcome at parsed
  split at parsed
  · obtain ⟨encoded, found, parsed⟩ := bind_eq_ok.1 parsed
    obtain ⟨_, small, parsed⟩ := bind_eq_ok.1 parsed
    obtain ⟨document, loaded, parsed⟩ := bind_eq_ok.1 parsed
    obtain ⟨members, keyed, parsed⟩ := bind_eq_ok.1 parsed
    obtain ⟨_, coordinates, parsed⟩ := bind_eq_ok.1 parsed
    obtain ⟨_, _, parsed⟩ := bind_eq_ok.1 parsed
    obtain ⟨_, _, parsed⟩ := bind_eq_ok.1 parsed
    obtain ⟨rows, listed, parsed⟩ := bind_eq_ok.1 parsed
    obtain ⟨connected, receipts, parsed⟩ := bind_eq_ok.1 parsed
    obtain ⟨_, distinct, parsed⟩ := bind_eq_ok.1 parsed
    obtain ⟨failure, settled, parsed⟩ := bind_eq_ok.1 parsed
    split at parsed
    · cases parsed
      obtain ⟨paired, rfl⟩ := encodedLength_eq_some.1 (given_eq_ok.1 found)
      exact ⟨document, members, rows, paired, require_eq_ok.1 small, given_eq_ok.1 loaded, keyed,
        require_eq_ok.1 coordinates, given_eq_ok.1 listed, receipts, require_eq_ok.1 distinct,
        settled, rfl, rfl, rfl, rfl⟩
    · cases parsed
  · cases parsed

variable {members : Members}

theorem isText_field {name : String} {content : CodeText}
    (same : isText (field members name) content = true) :
    members.lookup (text name) = some (.string content) := by
  unfold field at same
  cases found : members.lookup (text name) with
  | none =>
      rw [found] at same
      cases same
  | some value =>
      rw [found] at same
      cases value with
      | string other =>
          have equal : other = content := of_decide_eq_true same
          rw [equal]
      | _ => cases same

theorem isInteger_field {name : String} {number : Nat}
    (same : isInteger (field members name) number = true) :
    members.lookup (text name) = some (integer number) := by
  unfold field at same
  cases found : members.lookup (text name) with
  | none =>
      rw [found] at same
      cases same
  | some value =>
      rw [found] at same
      cases value with
      | number other =>
          cases other with
          | integer read =>
              have equal : read = number := of_decide_eq_true same
              rw [equal]
              rfl
          | decimal read => cases same
      | _ => cases same

theorem exactKeys_eq_ok {value : Json} {expected : List String}
    (keyed : exactKeys value expected = .ok members) : value = .object members := by
  unfold exactKeys at keyed
  split at keyed
  · split at keyed
    · cases keyed
      rfl
    · cases keyed
  · cases keyed

/-- A row of the document names the entry. -/
def Names (row : Json) (entry : WorkerStageEntry) : Prop :=
  ∃ members, row = .object members ∧
    members.lookup (text "registration_name") = some (literal entry.registrationName) ∧
    members.lookup (text "artifact_sha256") = some (literal entry.artifactSha256)

theorem receiptOf_names {entry : WorkerStageEntry} {url : Json}
    {receipt : WorkerStageRegistrationReceipt} (read : receiptOf entry url = some receipt) :
    receipt.registrationName = entry.registrationName ∧
      receipt.artifactSha256 = entry.artifactSha256 := by
  unfold receiptOf at read
  split at read
  · split at read
    · cases read
      exact ⟨rfl, rfl⟩
    · cases read
  · cases read

/-- Connected rows are read against the first entries. -/
theorem parseConnected_names {entries : List WorkerStageEntry} {rows : List Json}
    {receipts : List WorkerStageRegistrationReceipt}
    (parsed : parseConnected entries rows = .ok receipts) :
    ∃ first, first <+: entries ∧ List.Forall₂ Names rows first ∧
      List.Forall₂ (fun entry receipt => receipt.registrationName = entry.registrationName ∧
        receipt.artifactSha256 = entry.artifactSha256) first receipts := by
  induction rows generalizing entries receipts with
  | nil =>
      have none : parseConnected entries [] = .ok [] := by cases entries <;> rfl
      rw [none] at parsed
      cases parsed
      exact ⟨[], List.nil_prefix, .nil, .nil⟩
  | cons raw rows hypothesis =>
      cases entries with
      | nil => cases parsed
      | cons entry entries =>
          rw [parseConnected] at parsed
          obtain ⟨row, keyed, parsed⟩ := bind_eq_ok.1 parsed
          obtain ⟨_, named, parsed⟩ := bind_eq_ok.1 parsed
          obtain ⟨receipt, read, parsed⟩ := bind_eq_ok.1 parsed
          obtain ⟨rest, later, parsed⟩ := bind_eq_ok.1 parsed
          cases parsed
          obtain ⟨first, start, names, receipts⟩ := hypothesis later
          obtain ⟨name, digest⟩ := require_eq_ok.1 named
          exact ⟨entry :: first, List.cons_prefix_cons.2 ⟨rfl, start⟩,
            .cons ⟨row, exactKeys_eq_ok keyed, isText_field name, isText_field digest⟩ names,
            .cons (receiptOf_names (given_eq_ok.1 read)) receipts⟩

/-- The payload and the outcome are of this batch. -/
structure Correlated (sha256 : Sha256) (payload : CodeText) (batch : WorkerStageBatch)
    (batchCount : Nat) (transactionId : Uuid) (outcome : WorkerStageBatchOutcome) : Prop where
  transaction : outcome.transactionId = transactionId
  index : outcome.batchIndex = batch.batchIndex
  count : outcome.batchCount = batchCount
  digest : outcome.batchDigest = workerStageBatchDigest sha256 batch batchCount
  document : ∃ members rows, loads (payload.map charOf) = some (.object members) ∧
    members.lookup (text "schema") = some (literal workerStageSchema) ∧
    members.lookup (text "schema_version") = some (integer workerStageSchemaVersion) ∧
    members.lookup (text "transaction_id") = some (.string (uuidText transactionId)) ∧
    members.lookup (text "batch_index") = some (integer batch.batchIndex) ∧
    members.lookup (text "batch_count") = some (integer batchCount) ∧
    members.lookup (text "batch_digest") =
      some (literal (workerStageBatchDigest sha256 batch batchCount)) ∧
    members.lookup (text "connected") = some (.array rows) ∧
    ∃ first, first <+: batch.entries ∧ List.Forall₂ Names rows first ∧
      List.Forall₂ (fun entry receipt => receipt.registrationName = entry.registrationName ∧
        receipt.artifactSha256 = entry.artifactSha256) first outcome.connected
  distinct : (outcome.connected.map (·.tempStorageUrl)).Nodup
  succeeded : outcome.status = .succeeded →
    outcome.failure = none ∧ outcome.connected.length = batch.entries.length
  failed : outcome.status = .failed → ∃ failure, outcome.failure = some failure ∧
    failure.itemIndex = outcome.connected.length ∧ failure.itemIndex < batch.entries.length

theorem parseFailure_eq_ok {connected : Nat}
    {failure : Option WorkerStageFailure}
    (parsed : parseFailure members batch connected = .ok failure) :
    (failure = none ∧ connected = batch.entries.length) ∨
      ∃ told, failure = some told ∧ told.itemIndex = connected ∧
        connected < batch.entries.length := by
  unfold parseFailure at parsed
  split at parsed
  · obtain ⟨_, whole, parsed⟩ := bind_eq_ok.1 parsed
    cases parsed
    exact .inl ⟨rfl, (require_eq_ok.1 whole).2⟩
  · obtain ⟨raw, _, parsed⟩ := bind_eq_ok.1 parsed
    obtain ⟨_, placed, parsed⟩ := bind_eq_ok.1 parsed
    obtain ⟨told, read, parsed⟩ := bind_eq_ok.1 parsed
    cases parsed
    refine .inr ⟨told, rfl, ?_, (require_eq_ok.1 placed).2⟩
    have found := given_eq_ok.1 read
    unfold failureOf at found
    split at found
    · split at found
      · cases found
        rfl
      · cases found
    · cases found

theorem rowsOf_field {name : String} {rows : List Json}
    (listed : rowsOf (field members name) = some rows) :
    members.lookup (text name) = some (.array rows) := by
  unfold field at listed
  cases found : members.lookup (text name) with
  | none =>
      rw [found] at listed
      cases listed
  | some value =>
      rw [found] at listed
      cases value with
      | array items =>
          cases listed
          rfl
      | _ => cases listed

theorem loadsUnique_eq_some {document : Json}
    (loaded : loadsUnique payload = some document) : loads (payload.map charOf) = some document := by
  unfold loadsUnique at loaded
  split at loaded
  · next value found =>
      split at loaded
      · cases loaded
        exact found
      · cases loaded
  · cases loaded

/-- Whatever is accepted is of the batch that it is parsed for. -/
theorem accepted_correlated
    (parsed : parseWorkerStageBatchOutcome sha256 payload batch batchCount transactionId =
      .ok outcome) :
    Correlated sha256 payload batch batchCount transactionId outcome := by
  obtain ⟨document, members, rows, accepted⟩ := parse_eq_ok parsed
  obtain ⟨schema, version, transaction, index, count, digest⟩ := accepted.coordinates
  have object := exactKeys_eq_ok accepted.keyed
  have told := parseFailure_eq_ok accepted.failure
  constructor
  · exact accepted.transaction
  · exact accepted.index
  · exact accepted.count
  · exact accepted.digest
  · exact ⟨members, rows, object ▸ loadsUnique_eq_some accepted.loaded, isText_field schema,
      isInteger_field version, isText_field transaction, isInteger_field index,
      isInteger_field count, isText_field digest, rowsOf_field accepted.listed,
      parseConnected_names accepted.connected⟩
  · exact accepted.distinct
  · intro succeeded
    have none := outcome.settled.1 succeeded
    rcases told with whole | ⟨failure, some, _⟩
    · exact whole
    · rw [none] at some
      cases some
  · intro failed
    rcases told with ⟨none, _⟩ | ⟨failure, some, place, inside⟩
    · have succeeded := outcome.settled.2 none
      rw [succeeded] at failed
      cases failed
    · exact ⟨failure, some, place, place ▸ inside⟩

/-! ## The law -/

/-- Receipts of the connected items and the failure of the next one say what was done. -/
theorem describes_of_receipts {items : List Item}
    (connected : outcome.connected = receiptsOf items)
    (failure : outcome.failure = (failingItem items).map fun item =>
      failureFor (connectedItems items).length item.2) : Describes items outcome := by
  constructor
  · rw [connected]
    refine (receiptsOf_forall₂ items).imp fun item receipt same => ?_
    unfold receiptFor at same
    obtain ⟨url, found, rfl⟩ := Option.map_eq_some_iff.1 same
    exact ⟨rfl, rfl, by rw [found]; rfl⟩
  · rw [outcome.settled, failure, Option.map_eq_none_iff, failingItem_none]
  · intro told member
    rw [failure] at member
    obtain ⟨item, failing, rfl⟩ := Option.mem_map.1 member
    refine ⟨item, ?_, failingItem_fails failing, ?_, itemFailure_known _ _, rfl, rfl⟩
    · exact (failingItem_place items).trans failing
    · rw [connected, receiptsOf_length]
      rfl

variable {runs : Nat → ItemRun}

theorem payload_paired (returned : Returns sha256 batch batchCount transactionId runs payload) :
    Paired payload ↔ ∀ content ∈ sentTexts (itemsOf batch runs), Paired content := by
  rw [paired_of_document returned, stagingDocument_paired, stageItems_initial, sentTexts_paired]

theorem status_known (members : Members) (failure : Option StagingFailure)
    (status : field members "status" = literal (statusName failure)) :
    hashable (field members "status") = true ∧
      (isText (field members "status") (text "succeeded") = true ∨
        isText (field members "status") (text "failed") = true) := by
  rw [status]
  cases failure with
  | none => exact ⟨rfl, .inl (isText_literal _)⟩
  | some told => exact ⟨rfl, .inr (isText_literal _)⟩

theorem receiptsOf_bounded (batch : WorkerStageBatch) (runs : Nat → ItemRun) :
    (receiptsOf (itemsOf batch runs)).length ≤ maxWorkerStageBatchSize := by
  have within : (connectedItems (itemsOf batch runs)).length ≤ (itemsOf batch runs).length :=
    (List.takeWhile_prefix connects).length_le
  rw [itemsOf_length] at within
  rw [receiptsOf_length]
  exact Nat.le_trans within batch.bounded

theorem batchIndex_lt (valid : batchCountIsValid batch batchCount) : batch.batchIndex < batchCount := valid.2

theorem batchDigest_hexadecimal (sha256 : Sha256) (batch : WorkerStageBatch) (batchCount : Nat) :
    isSha256 (workerStageBatchDigest sha256 batch batchCount) = true := sha256.hexadecimal _

/-- The outcome that says what was done with the items of a batch. -/
def outcomeFor (sha256 : Sha256) (batch : WorkerStageBatch) (batchCount : Nat)
    (transactionId : Uuid) (runs : Nat → ItemRun) (valid : batchCountIsValid batch batchCount) :
    WorkerStageBatchOutcome :=
  let failure := (failingItem (itemsOf batch runs)).map fun item =>
    failureFor (connectedItems (itemsOf batch runs)).length item.2
  { transactionId
    batchIndex := batch.batchIndex
    batchCount
    batchDigest := workerStageBatchDigest sha256 batch batchCount
    status := if failure = none then .succeeded else .failed
    connected := receiptsOf (itemsOf batch runs)
    failure
    correlated := batchIndex_lt valid
    digest := batchDigest_hexadecimal sha256 batch batchCount
    bounded := receiptsOf_bounded batch runs
    settled := by split <;> simp_all }

/-- A transmissible document is accepted as what was done. -/
theorem parse_transmissible (valid : batchCountIsValid batch batchCount)
    (returned : Returns sha256 batch batchCount transactionId runs payload)
    (transmissible : Transmissible (itemsOf batch runs) payload) :
    ∃ outcome, parseWorkerStageBatchOutcome sha256 payload batch batchCount transactionId =
      .ok outcome ∧ Describes (itemsOf batch runs) outcome := by
  have paired := (payload_paired returned).2 transmissible.paired
  have encoded := encodedLength_eq_some.2 ⟨paired, rfl⟩
  have loaded := loadsUnique_spelled returned paired uniqueObjects_document
  have rows := parseConnected_document (itemsOf batch runs)
  rw [itemsOf_entries] at rows
  have listed : rowsOf (field (documentMembers batch batchCount transactionId
      (workerStageBatchDigest sha256 batch batchCount)
      (stageItems 0 (itemsOf batch runs) initialStaging)) "connected") =
        some (((connectedItems (itemsOf batch runs)).filterMap connectionOf).map
          Connection.json) := by
    rw [stageItems_initial]
    rfl
  have distinct : ((receiptsOf (itemsOf batch runs)).map (·.tempStorageUrl)).Nodup := by
    rw [receiptsOf_urls]
    exact transmissible.distinct
  have bounded := receiptsOf_bounded batch runs
  obtain ⟨status, known⟩ := status_known (documentMembers batch batchCount transactionId
    (workerStageBatchDigest sha256 batch batchCount)
    (stageItems 0 (itemsOf batch runs) initialStaging)) _ rfl
  refine ⟨outcomeFor sha256 batch batchCount transactionId runs valid, ?_,
    describes_of_receipts rfl rfl⟩
  unfold parseWorkerStageBatchOutcome
  rw [dif_pos valid, given_eq_ok.2 encoded, ok_bind, require_of_holds transmissible.small, ok_bind,
    given_eq_ok.2 loaded, ok_bind, stagingDocument, exactKeys_of_names rfl, ok_bind]
  dsimp only
  rw [require_of_holds coordinatesMatch_document, ok_bind, require_of_holds status, ok_bind,
    require_of_holds known, ok_bind, given_eq_ok.2 listed, ok_bind, rows, ok_bind,
    require_of_holds distinct, ok_bind, parseFailure_document, ok_bind, dif_pos bounded]
  rfl

/-- An accepted document was transmissible. -/
theorem transmissible_of_parsed
    (returned : Returns sha256 batch batchCount transactionId runs payload)
    (parsed : parseWorkerStageBatchOutcome sha256 payload batch batchCount transactionId =
      .ok outcome) : Transmissible (itemsOf batch runs) payload := by
  obtain ⟨document, members, rows, accepted⟩ := parse_eq_ok parsed
  have loaded := loadsUnique_spelled returned accepted.paired uniqueObjects_document
  rw [accepted.loaded] at loaded
  cases loaded
  have keyed := accepted.keyed
  rw [stagingDocument, exactKeys_of_names rfl] at keyed
  cases keyed
  have listed := accepted.listed
  rw [stageItems_initial] at listed
  cases listed
  have connected := parseConnected_document (itemsOf batch runs)
  rw [itemsOf_entries, accepted.connected] at connected
  have receipts : outcome.connected = receiptsOf (itemsOf batch runs) := Except.ok.inj connected
  constructor
  · exact (payload_paired returned).1 accepted.paired
  · rw [← receiptsOf_urls, ← receipts]
    exact accepted.distinct
  · exact accepted.small

/-- The document of a staging is accepted and says what was done where it is transmissible;
and a payload is only accepted for the batch that it is of. -/
theorem staging_outcome_law (sha256 : Sha256) (batch : WorkerStageBatch) (batchCount : Nat)
    (transactionId : Uuid) (valid : batchCountIsValid batch batchCount) :
    (∀ runs payload, Returns sha256 batch batchCount transactionId runs payload →
      ((∃ outcome, parseWorkerStageBatchOutcome sha256 payload batch batchCount transactionId =
          .ok outcome ∧ Describes (itemsOf batch runs) outcome) ↔
        Transmissible (itemsOf batch runs) payload)) ∧
      ∀ payload outcome,
        parseWorkerStageBatchOutcome sha256 payload batch batchCount transactionId =
            .ok outcome →
          Correlated sha256 payload batch batchCount transactionId outcome := by
  refine ⟨fun runs payload returned => ⟨?_, ?_⟩, fun payload outcome => accepted_correlated⟩
  · rintro ⟨outcome, parsed, _⟩
    exact transmissible_of_parsed returned parsed
  · exact parse_transmissible valid returned

/-! ## Runs of one entry -/

def workerEntry : WorkerStageEntry where
  logicalName := "Модуль"
  artifactSha256 := "4bf5122f344554c53bde2ebb8cd2b7e3d1600ad631c385a5d7cce23c7785459a"
  registrationName := "Worker_1"
  artifactBytes := [1]
  valid := by decide

def workerBatch : WorkerStageBatch where
  batchIndex := 0
  entries := [workerEntry]
  filled := List.cons_ne_nil _ _
  bounded := by decide
  distinct := List.nodup_singleton _

/-- The digest of the identity of the batch. -/
def workerDigest : Sha256 where
  hexdigest := fun _ => "8a4c1dbcb17f97249977b0f788f3b2fd6a1482bb7948a9ffdd8a97ae531166ff"
  hexadecimal := fun _ => by decide

def workerUrl : TempStorageUrl :=
  ⟨text "e1cib/tempstorage/5f0d?seanceId=1", by decide⟩

def connectedRuns (_ : Nat) : ItemRun := ⟨.ok (), .ok workerUrl, .ok (text "Worker_1")⟩

def decimalLiteral (number : Library.Number) : List Char :=
  if number = .integer 0 then ['0'] else if number = .integer 1 then ['1'] else ['2']

def workerPayload (runs : Nat → ItemRun) : CodeText :=
  compact decimalLiteral
    (stagingDocument workerBatch 1 0 (workerStageBatchDigest workerDigest workerBatch 1)
      (stageItems 0 (itemsOf workerBatch runs) initialStaging))

/-- A connected Worker is reported as connected. -/
theorem connected_worker_reported :
    ∃ outcome, parseWorkerStageBatchOutcome workerDigest (workerPayload connectedRuns) workerBatch
      1 0 = .ok outcome ∧ Describes (itemsOf workerBatch connectedRuns) outcome := by
  have valid : batchCountIsValid workerBatch 1 := by decide
  have returned : Returns workerDigest workerBatch 1 0 connectedRuns (workerPayload connectedRuns) :=
    spelledDocument_compact (by
      show ∀ number ∈ [Library.Number.integer 2, .integer 0, .integer 1], Denotes decimalLiteral number
      simp only [Denotes, ← List.all_eq_true]
      decide)
  refine (((staging_outcome_law workerDigest workerBatch 1 0 valid).1 _ _ returned).2 ⟨?_, ?_, ?_⟩)
  · intro content member
    obtain rfl : content = workerUrl.val := List.mem_singleton.1 member
    exact text_paired _
  · exact List.nodup_singleton _
  · decide +kernel

/-- An error text whose unit 4096 is the first half of a surrogate pair. -/
def cutError : Units := List.replicate 4095 0x61 ++ [0xD83D, 0xDE00]

def undecodedRuns (_ : Nat) : ItemRun := ⟨.error cutError, .error [], .error []⟩

theorem cutError_unpaired : ¬Paired (unitsText (cutError.take 4096)) := by
  intro paired
  have member : (0xD83D : CodePoint) ∈ unitsText (cutError.take 4096) := by decide +kernel
  exact paired _ member (by decide)

/-- What the instruction returns for that error is refused. -/
theorem cut_error_refused :
    Returns workerDigest workerBatch 1 0 undecodedRuns (workerPayload undecodedRuns) ∧
      ∀ outcome, parseWorkerStageBatchOutcome workerDigest (workerPayload undecodedRuns)
        workerBatch 1 0 ≠ .ok outcome := by
  have returned : Returns workerDigest workerBatch 1 0 undecodedRuns (workerPayload undecodedRuns) :=
    spelledDocument_compact (by
      show ∀ number ∈ [Library.Number.integer 2, .integer 0, .integer 1, .integer 0],
        Denotes decimalLiteral number
      simp only [Denotes, ← List.all_eq_true]
      decide)
  refine ⟨returned, fun outcome parsed => ?_⟩
  have transmissible := transmissible_of_parsed returned parsed
  exact cutError_unpaired (transmissible.paired _ List.mem_cons_self)

end OnecRuntime.WorkerStage
