import OnecRuntime.WorkerStage.Staged

/-!
# The document of a staging is read

The document that the instruction writes has the keys, the coordinates and the rows that
the parser looks for, and its failure is one that a failure may be.
-/

namespace OnecRuntime.WorkerStage

open OnecRuntime.Library OnecRuntime.Tables

/-! ## The document is read -/

theorem exactKeys_of_names {members : Members} {expected : List String}
    (names : members.map Prod.fst = expected.map text) :
    exactKeys (.object members) expected = .ok members := by
  refine if_pos ?_
  rw [names]
  exact ⟨List.Subset.refl _, List.Subset.refl _⟩

theorem uniqueObjects_connection (connection : Connection) :
    uniqueObjects connection.json = true := by
  have names : (connection.members.map Prod.fst).Nodup := by
    show (["registration_name", "artifact_sha256", "temp_storage_url"].map text).Nodup
    decide
  rw [Connection.json, uniqueObjects, decide_eq_true names]
  rfl

theorem uniqueItems_connections (connected : List Connection) :
    uniqueItems (connected.map Connection.json) = true := by
  induction connected with
  | nil => rfl
  | cons connection rest hypothesis =>
      rw [List.map_cons, uniqueItems, uniqueObjects_connection, hypothesis]
      rfl

theorem uniqueObjects_orphan (orphan : Option TempStorageUrl) :
    uniqueObjects (orphanJson orphan) = true := by
  cases orphan <;> rfl

theorem uniqueObjects_failure (failure : Option StagingFailure) :
    uniqueObjects (failureJson failure) = true := by
  cases failure with
  | none => rfl
  | some told =>
      have names : (told.members.map Prod.fst).Nodup := by
        show (failureKeys.map text).Nodup
        decide
      rw [failureJson, StagingFailure.json, uniqueObjects, decide_eq_true names]
      simp [StagingFailure.members, uniqueMembers, literal, integer, uniqueObjects,
        uniqueObjects_orphan]

variable {batch : WorkerStageBatch} {batchCount : Nat} {transactionId : Uuid} {digest : String}

theorem uniqueObjects_document {staging : Staging} :
    uniqueObjects (stagingDocument batch batchCount transactionId digest staging) = true := by
  have names : ((documentMembers batch batchCount transactionId digest staging).map
      Prod.fst).Nodup := by
    show (documentKeys.map text).Nodup
    decide
  rw [stagingDocument, uniqueObjects, decide_eq_true names]
  simp [documentMembers, uniqueMembers, literal, integer, uniqueObjects, uniqueItems_connections,
    uniqueObjects_failure]

theorem coordinatesMatch_document {staging : Staging} :
    coordinatesMatch (documentMembers batch batchCount transactionId digest staging) batch
      batchCount transactionId digest := by
  have same : ∀ content : CodeText, isText (.string content) content = true := fun content =>
    decide_eq_true rfl
  have equal : ∀ number : Nat, isInteger (integer number) number = true := fun number =>
    decide_eq_true rfl
  exact ⟨same _, equal _, same _, equal _, equal _, same _⟩

/-- A payload without lone surrogates is read as the document that it spells. -/
theorem loadsUnique_spelled {value : Json} {payload : CodeText}
    (document : SpelledDocument pointScript value payload) (paired : Paired payload)
    (unique : uniqueObjects value = true) : loadsUnique payload = some value := by
  have read := loads_spelled reads_pointScript document (faithful_pointScript.2 paired)
  unfold loadsUnique
  rw [read]
  exact if_pos unique

/-- A payload has a lone surrogate where a text of its document does. -/
theorem paired_of_document {value : Json} {payload : CodeText}
    (document : SpelledDocument pointScript value payload) :
    Paired payload ↔ ∀ content ∈ value.texts, Paired content := by
  cases document with
  | mk before spelled after =>
      unfold Paired
      rw [spaced_hold point_scalar before,
        followed_hold (spaces_hold point_scalar after), spelled_holds point_scalar spelled]

/-! ## The connected rows and the failure -/

def receiptFor (item : Item) : Option WorkerStageRegistrationReceipt :=
  item.2.url.map fun url =>
    ⟨item.1.registrationName, item.1.artifactSha256, url.val, item.1.valid.2.2.1,
      item.1.valid.2.1, url.property⟩

def receiptsOf (items : List Item) : List WorkerStageRegistrationReceipt :=
  (connectedItems items).filterMap receiptFor

theorem isText_literal (value : String) : isText (literal value) (text value) = true :=
  decide_eq_true rfl

/-- The rows of the document are read as the receipts of the connected items. -/
theorem parseConnected_document (items : List Item) :
    parseConnected (items.map Prod.fst)
        (((connectedItems items).filterMap connectionOf).map Connection.json) =
      .ok (receiptsOf items) := by
  induction items with
  | nil => rfl
  | cons item rest hypothesis =>
      unfold receiptsOf connectedItems at hypothesis ⊢
      cases connecting : connects item with
      | false =>
          rw [List.takeWhile_cons_of_neg (by simp [connecting])]
          rfl
      | true =>
          obtain ⟨url, found⟩ := connects_url connecting
          have connection : connectionOf item =
              some ⟨item.1.registrationName, item.1.artifactSha256, url⟩ := by
            rw [connectionOf, found]
            rfl
          have receipt : receiptFor item = some ⟨item.1.registrationName, item.1.artifactSha256,
              url.val, item.1.valid.2.2.1, item.1.valid.2.1, url.property⟩ := by
            rw [receiptFor, found]
            rfl
          have read : receiptOf item.1 (.string url.val) = receiptFor item := by
            rw [receipt]
            exact dif_pos url.property
          rw [List.takeWhile_cons_of_pos connecting, List.filterMap_cons_some connection,
            List.filterMap_cons_some receipt, List.map_cons, List.map_cons, parseConnected,
            Connection.json, exactKeys_of_names rfl, ok_bind,
            require_of_holds ⟨isText_literal _, isText_literal _⟩, ok_bind]
          change (given (receiptOf item.1 (.string url.val)) >>= _) = _
          rw [read, receipt]
          change (parseConnected _ _ >>= _) = _
          rw [hypothesis]
          rfl

theorem phaseOf_literal (phase : Phase) : phaseOf (literal phase.name) = some phase := by
  cases phase <;> decide

theorem outcomeOf_literal (outcome : FailureOutcome) :
    outcomeOf (literal outcome.name) = some outcome := by
  cases outcome <;> decide

theorem orphanOf_orphanJson (orphan : Option TempStorageUrl) :
    orphanOf (orphanJson orphan) = some (orphan.map Subtype.val) := by
  cases orphan <;> rfl

def failureFor (index : Nat) (run : ItemRun) : WorkerStageFailure :=
  ⟨index, (itemFailure index run).phase, (itemFailure index run).outcome, run.diagnostic,
    run.url.map Subtype.val, itemFailure_valid index run⟩

theorem failureOf_document (index : Nat) (run : ItemRun) :
    failureOf index (itemFailure index run).members = some (failureFor index run) := by
  have phase : field (itemFailure index run).members "phase" =
      literal (itemFailure index run).phase.name := rfl
  have outcome : field (itemFailure index run).members "outcome" =
      literal (itemFailure index run).outcome.name := rfl
  have diagnostic : field (itemFailure index run).members "diagnostic" =
      .string (itemFailure index run).diagnostic := rfl
  have orphan : field (itemFailure index run).members "orphan_url" =
      orphanJson (itemFailure index run).orphanUrl := rfl
  unfold failureOf
  rw [phase, outcome, diagnostic, orphan, phaseOf_literal, outcomeOf_literal, orphanOf_orphanJson,
    itemFailure_diagnostic, itemFailure_orphanUrl]
  exact dif_pos (itemFailure_valid index run)

theorem receiptsOf_forall₂ (items : List Item) :
    List.Forall₂ (fun item receipt => receiptFor item = some receipt) (connectedItems items)
      (receiptsOf items) := by
  refine filterMap_forall₂ fun item member => ?_
  obtain ⟨url, found⟩ := connects_url (connectedItems_connect item member)
  exact ⟨_, congrArg (Option.map _) found⟩

theorem receiptsOf_length (items : List Item) :
    (receiptsOf items).length = (connectedItems items).length :=
  (receiptsOf_forall₂ items).length_eq.symm

theorem receiptsOf_urls (items : List Item) :
    (receiptsOf items).map (·.tempStorageUrl) = connectedUrls items := by
  unfold receiptsOf connectedUrls
  rw [List.map_filterMap]
  refine List.filterMap_congr fun item _ => ?_
  unfold receiptFor
  rw [Option.map_map]
  rfl

theorem itemsOf_entries (batch : WorkerStageBatch) (runs : Nat → ItemRun) :
    (itemsOf batch runs).map Prod.fst = batch.entries := by
  unfold itemsOf
  rw [List.map_map]
  exact List.zipIdx_map_fst 0 batch.entries

theorem itemsOf_length (batch : WorkerStageBatch) (runs : Nat → ItemRun) :
    (itemsOf batch runs).length = batch.entries.length := by
  rw [← itemsOf_entries batch runs, List.length_map]

/-- The status and the failure of the document are read as what happened. -/
theorem parseFailure_document {runs : Nat → ItemRun} :
    parseFailure
        (documentMembers batch batchCount transactionId digest
          (stageItems 0 (itemsOf batch runs) initialStaging))
        batch (receiptsOf (itemsOf batch runs)).length =
      .ok ((failingItem (itemsOf batch runs)).map fun item =>
        failureFor (connectedItems (itemsOf batch runs)).length item.2) := by
  have place := failingItem_place (itemsOf batch runs)
  have whole := @connectedItems_length (itemsOf batch runs)
  have sized := itemsOf_length batch runs
  have counted := receiptsOf_length (itemsOf batch runs)
  rw [stageItems_initial]
  cases failing : failingItem (itemsOf batch runs) with
  | none =>
      have all := whole.1 failing
      refine (if_pos (isText_literal "succeeded")).trans ?_
      rw [require_of_holds ⟨rfl, by omega⟩]
      rfl
  | some item =>
      have short : (connectedItems (itemsOf batch runs)).length < (itemsOf batch runs).length := by
        rw [failing] at place
        exact (List.getElem?_eq_some_iff.1 place).1
      have unsuccessful : ¬isText (literal "failed") (text "succeeded") = true := by decide
      refine (if_neg unsuccessful).trans ?_
      change (exactKeys (.object (itemFailure (connectedItems (itemsOf batch runs)).length
        item.2).members) failureKeys >>= _) = _
      rw [exactKeys_of_names rfl, ok_bind, require_of_holds, ok_bind, counted, failureOf_document]
      · rfl
      · refine ⟨?_, by omega⟩
        rw [counted]
        exact decide_eq_true (congrArg Int.ofNat (itemFailure_itemIndex _ _))

end OnecRuntime.WorkerStage
