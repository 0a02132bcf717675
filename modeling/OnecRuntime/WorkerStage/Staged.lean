import Mathlib.Data.List.TakeWhile
import OnecRuntime.WorkerStage.Outcome

/-!
# What a staging does

The instruction connects the items before the first that fails, and of that one it keeps
the phase, the error text and the address. The document that it writes has a lone surrogate
where an error text or an address has one.
-/

namespace OnecRuntime.WorkerStage

open OnecRuntime.Library OnecRuntime.Tables

/-! ## What the platform did -/

abbrev Item := WorkerStageEntry × ItemRun

/-- The address that was created for an item; an item with one is handed to `Подключить`. -/
def ItemRun.url (run : ItemRun) : Option TempStorageUrl :=
  match run.decode, run.upload with
  | .ok (), .ok url => some url
  | _, _ => none

/-- The item is connected under its registration name. -/
def connects (item : Item) : Bool :=
  match item.2.url, item.2.connect with
  | some _, .ok name => decide (name = text item.1.registrationName)
  | _, _ => false

/-- What is told of the failure of an item. -/
def ItemRun.diagnostic (run : ItemRun) : CodeText :=
  match run.decode, run.upload, run.connect with
  | .error error, _, _ => unitsText (error.take maxWorkerStageDiagnosticCodepoints)
  | .ok (), .error error, _ => unitsText (error.take maxWorkerStageDiagnosticCodepoints)
  | .ok (), .ok _, .error error => unitsText (error.take maxWorkerStageDiagnosticCodepoints)
  | .ok (), .ok _, .ok _ => text "registration identity mismatch"

def connectedItems (items : List Item) : List Item := items.takeWhile connects

def failingItem (items : List Item) : Option Item := (items.dropWhile connects).head?

def connectedUrls (items : List Item) : List CodeText :=
  (connectedItems items).filterMap fun item => item.2.url.map Subtype.val

/-- The outcome says what was done with the items. -/
structure Describes (items : List Item) (outcome : WorkerStageBatchOutcome) : Prop where
  connected : List.Forall₂
    (fun item receipt => receipt.registrationName = item.1.registrationName ∧
      receipt.artifactSha256 = item.1.artifactSha256 ∧
      item.2.url.map Subtype.val = some receipt.tempStorageUrl)
    (connectedItems items) outcome.connected
  succeeded : outcome.status = .succeeded ↔ ∀ item ∈ items, connects item = true
  failed : ∀ failure ∈ outcome.failure, ∃ item, items[failure.itemIndex]? = some item ∧
    connects item = false ∧ failure.itemIndex = outcome.connected.length ∧
    (failure.outcome = .knownPreSwap ↔ item.2.url = none) ∧
    failure.orphanUrl = item.2.url.map Subtype.val ∧
    failure.diagnostic = item.2.diagnostic

/-- What the document says in texts of the platform. -/
def sentTexts (items : List Item) : List CodeText :=
  connectedUrls items ++
    match failingItem items with
    | none => []
    | some item => item.2.diagnostic :: (item.2.url.map Subtype.val).toList

/-- No surrogate of the text stands alone. -/
def Paired (content : CodeText) : Prop := ∀ sign ∈ content, ¬isSurrogate sign.val

/-- What the parser takes: no text with a lone surrogate, no address twice and no document
beyond the byte bound. -/
structure Transmissible (items : List Item) (payload : CodeText) : Prop where
  paired : ∀ content ∈ sentTexts items, Paired content
  distinct : (connectedUrls items).Nodup
  small : (payload.map utf8Size).sum ≤ maxWorkerStageOutcomeBytes

/-! ## The instruction -/

def itemFailure (index : Nat) (run : ItemRun) : StagingFailure :=
  match run.decode, run.upload, run.connect with
  | .error error, _, _ => raisedFailure index .decode none error
  | .ok (), .error error, _ => raisedFailure index .upload none error
  | .ok (), .ok url, .error error => raisedFailure index .connect (some url) error
  | .ok (), .ok url, .ok _ => mismatchFailure index url

def connectionOf (item : Item) : Option Connection :=
  item.2.url.map fun url => ⟨item.1.registrationName, item.1.artifactSha256, url⟩

variable {index : Nat} {item : Item}

theorem stageItem_connects {connected : List Connection}
    (connecting : connects item = true) :
    stageItem index item.1 item.2 ⟨connected, none⟩ =
      ⟨connected ++ (connectionOf item).toList, none⟩ := by
  obtain ⟨entry, ⟨decode, upload, connect⟩⟩ := item
  cases decode with
  | error error => cases connecting
  | ok value =>
      cases upload with
      | error error => cases connecting
      | ok url =>
          cases connect with
          | error error => cases connecting
          | ok name =>
              have same : name = text entry.registrationName := of_decide_eq_true connecting
              exact if_neg (not_not_intro same)

theorem stageItem_fails {connected : List Connection}
    (failing : connects item = false) :
    stageItem index item.1 item.2 ⟨connected, none⟩ =
      ⟨connected, some (itemFailure index item.2)⟩ := by
  obtain ⟨entry, ⟨decode, upload, connect⟩⟩ := item
  cases decode with
  | error error => rfl
  | ok value =>
      cases upload with
      | error error => rfl
      | ok url =>
          cases connect with
          | error error => rfl
          | ok name =>
              have other : name ≠ text entry.registrationName := of_decide_eq_false failing
              exact if_pos other

theorem stageItems_failed {items : List Item} {connected : List Connection}
    {failure : StagingFailure} :
    stageItems index items ⟨connected, some failure⟩ = ⟨connected, some failure⟩ := by
  induction items generalizing index with
  | nil => rfl
  | cons item rest hypothesis => exact hypothesis

/-- The instruction connects the items before the first that fails. -/
theorem stageItems_eq {items : List Item} {connected : List Connection} :
    stageItems index items ⟨connected, none⟩ =
      ⟨connected ++ (connectedItems items).filterMap connectionOf,
        (failingItem items).map fun item =>
          itemFailure (index + (connectedItems items).length) item.2⟩ := by
  induction items generalizing index connected with
  | nil => simp [stageItems, connectedItems, failingItem]
  | cons item rest hypothesis =>
      unfold connectedItems failingItem at hypothesis ⊢
      cases connecting : connects item with
      | true =>
          have joined : (connectionOf item).toList ++
              (rest.takeWhile connects).filterMap connectionOf =
                (item :: rest.takeWhile connects).filterMap connectionOf := by
            cases found : connectionOf item <;> simp [found]
          rw [List.takeWhile_cons_of_pos connecting, List.dropWhile_cons_of_pos connecting,
            stageItems, stageItem_connects connecting, hypothesis, List.append_assoc, joined,
            List.length_cons, Nat.add_assoc, Nat.add_comm 1]
      | false =>
          rw [List.takeWhile_cons_of_neg (by simp [connecting]),
            List.dropWhile_cons_of_neg (by simp [connecting]), stageItems,
            stageItem_fails connecting, stageItems_failed]
          simp

theorem stageItems_initial (items : List Item) :
    stageItems 0 items initialStaging =
      ⟨(connectedItems items).filterMap connectionOf,
        (failingItem items).map fun item => itemFailure (connectedItems items).length item.2⟩ := by
  have staged := @stageItems_eq 0 items []
  rwa [List.nil_append, Nat.zero_add] at staged

theorem connects_url (connecting : connects item = true) :
    ∃ url, item.2.url = some url := by
  unfold connects at connecting
  split at connecting
  · next url _ found _ => exact ⟨url, found⟩
  · cases connecting

theorem connectedItems_connect {items : List Item} :
    ∀ item ∈ connectedItems items, connects item = true :=
  fun _ member => List.mem_takeWhile_imp member

theorem failingItem_fails {items : List Item} (failing : failingItem items = some item) :
    connects item = false := by
  have head := List.head?_dropWhile_not connects items
  unfold failingItem at failing
  rw [failing] at head
  simpa using head

theorem failingItem_place (items : List Item) :
    items[(connectedItems items).length]? = failingItem items := by
  unfold failingItem connectedItems
  conv_lhs => rw [← @List.takeWhile_append_dropWhile _ connects items]
  rw [List.getElem?_append_right (by simp), List.head?_eq_getElem?]
  congr 1
  simp

theorem failingItem_none {items : List Item} :
    failingItem items = none ↔ ∀ item ∈ items, connects item = true := by
  unfold failingItem
  rw [List.head?_eq_none_iff, List.dropWhile_eq_nil_iff]

theorem connectedItems_length {items : List Item} :
    failingItem items = none ↔ (connectedItems items).length = items.length := by
  rw [← failingItem_place, List.getElem?_eq_none_iff]
  have within : (connectedItems items).length ≤ items.length := by
    unfold connectedItems
    exact (List.takeWhile_prefix connects).length_le
  omega

/-! ## The texts of the document -/

theorem unitsText_length (units : Units) : (unitsText units).length ≤ units.length := by
  have joined : ∀ pieces : List Piece, (joinPieces pieces).length ≤ pieces.length := by
    intro pieces
    induction pieces using joinPieces.induct with
    | case1 => exact Nat.le_refl _
    | case2 char rest hypothesis =>
        rw [joinPieces, List.length_cons, List.length_cons]
        omega
    | case3 high low rest pair hypothesis =>
        rw [joinPieces, if_pos pair]
        simp only [List.length_cons]
        omega
    | case4 high low rest single hypothesis =>
        rw [joinPieces, if_neg single]
        simp only [List.length_cons] at hypothesis ⊢
        omega
    | case5 value rest other hypothesis =>
        rw [joinPieces]
        · simp only [List.length_cons]
          omega
        · exact other
  have bounded := joined (units.map fun unit => .escape unit.val)
  rwa [List.length_map] at bounded

theorem diagnostic_length (run : ItemRun) :
    run.diagnostic.length ≤ maxWorkerStageDiagnosticCodepoints := by
  have cut : ∀ error : Units, (unitsText (error.take maxWorkerStageDiagnosticCodepoints)).length ≤
      maxWorkerStageDiagnosticCodepoints := fun error =>
    Nat.le_trans (unitsText_length _) (List.length_take_le _ _)
  unfold ItemRun.diagnostic
  split
  · exact cut _
  · exact cut _
  · exact cut _
  · decide

/-- A text that the instruction names in its source has no surrogate. -/
theorem text_paired (value : String) : Paired (text value) := by
  intro sign member
  obtain ⟨char, _, rfl⟩ := List.mem_map.1 member
  exact point_scalar char

theorem uuidText_paired (identifier : Uuid) : Paired (uuidText identifier) := by
  have digits : ∀ digit < 16,
      ¬isSurrogate (Fin.ofNat 0x110000 (hexDigit digit).toNat : CodePoint).val := by
    decide
  intro sign member
  rcases mem_hyphened member with inside | rfl
  · obtain ⟨byte, inBytes, rfl⟩ := List.mem_map.1 inside
    obtain ⟨digit, small, rfl⟩ := formatHex_hexDigit 32 identifier.val byte inBytes
    exact digits digit small
  · decide

theorem itemTexts_paired {connected : List Connection} :
    (∀ content ∈ itemTexts (connected.map Connection.json), Paired content) ↔
      ∀ connection ∈ connected, Paired connection.tempStorageUrl.val := by
  induction connected with
  | nil => simp [itemTexts]
  | cons connection rest hypothesis =>
      rw [List.map_cons, itemTexts, List.forall_mem_append, hypothesis, List.forall_mem_cons]
      refine and_congr ?_ Iff.rfl
      simp [Connection.json, Connection.members, literal, Json.texts, memberTexts, text_paired]

theorem failureTexts_paired {failure : Option StagingFailure} :
    (∀ content ∈ (failureJson failure).texts, Paired content) ↔
      ∀ told ∈ failure, Paired told.diagnostic ∧ ∀ url ∈ told.orphanUrl, Paired url.val := by
  cases failure with
  | none => simp [failureJson, Json.texts]
  | some told =>
      cases orphan : told.orphanUrl with
      | none =>
          simp [failureJson, StagingFailure.json, StagingFailure.members, orphan, orphanJson, literal,
            integer, Json.texts, memberTexts, text_paired]
      | some url =>
          simp [-Subtype.forall, failureJson, StagingFailure.json, StagingFailure.members, orphan,
            orphanJson, literal, integer, Json.texts, memberTexts, text_paired]

theorem stagingDocument_paired {batch : WorkerStageBatch} {batchCount : Nat} {transactionId : Uuid}
    {digest : String} {staging : Staging} :
    (∀ content ∈ (stagingDocument batch batchCount transactionId digest staging).texts,
        Paired content) ↔
      (∀ connection ∈ staging.connected, Paired connection.tempStorageUrl.val) ∧
        ∀ told ∈ staging.failure,
          Paired told.diagnostic ∧ ∀ url ∈ told.orphanUrl, Paired url.val := by
  rw [← itemTexts_paired, ← failureTexts_paired]
  simp only [stagingDocument, documentMembers, Json.texts, memberTexts, literal, integer, List.forall_mem_cons,
    List.forall_mem_append, List.not_mem_nil, false_implies, implies_true, text_paired,
    uuidText_paired, true_and, and_true, List.append_nil]

/-! ## The failure of an item -/

@[simp] theorem itemFailure_itemIndex (index : Nat) (run : ItemRun) :
    (itemFailure index run).itemIndex = index := by
  unfold itemFailure
  split <;> rfl

@[simp] theorem itemFailure_orphanUrl (index : Nat) (run : ItemRun) :
    (itemFailure index run).orphanUrl = run.url := by
  unfold itemFailure ItemRun.url
  rcases run with ⟨decode | decode, upload | upload, connect | connect⟩ <;> rfl

@[simp] theorem itemFailure_diagnostic (index : Nat) (run : ItemRun) :
    (itemFailure index run).diagnostic = run.diagnostic := by
  unfold itemFailure ItemRun.diagnostic
  rcases run with ⟨decode | decode, upload | upload, connect | connect⟩ <;> rfl

theorem itemFailure_outcome (index : Nat) (run : ItemRun) :
    (itemFailure index run).outcome = expectedOutcome (itemFailure index run).phase := by
  unfold itemFailure
  split <;> rfl

/-- The failure is known to be before the swap where no address was handed on. -/
theorem itemFailure_known (index : Nat) (run : ItemRun) :
    (itemFailure index run).outcome = .knownPreSwap ↔ run.url = none := by
  unfold itemFailure ItemRun.url
  rcases run with ⟨decode | decode, upload | upload, connect | connect⟩ <;>
    simp [raisedFailure, mismatchFailure]

theorem itemFailure_addressed (index : Nat) (run : ItemRun) :
    (itemFailure index run).phase = .connect ∨ (itemFailure index run).phase = .registrationResult →
      run.url ≠ none := by
  unfold itemFailure ItemRun.url
  rcases run with ⟨decode | decode, upload | upload, connect | connect⟩ <;>
    simp [raisedFailure, mismatchFailure]

theorem itemFailure_valid (index : Nat) (run : ItemRun) :
    FailureValid (itemFailure index run).phase (itemFailure index run).outcome run.diagnostic
      (run.url.map Subtype.val) := by
  refine ⟨diagnostic_length run, ?_, itemFailure_outcome index run, ?_⟩
  · intro url member
    obtain ⟨address, _, rfl⟩ := Option.mem_map.1 member
    exact address.property
  · intro late
    have addressed := itemFailure_addressed index run late
    simpa using addressed

theorem sentTexts_paired {items : List Item} :
    (∀ content ∈ sentTexts items, Paired content) ↔
      (∀ connection ∈ (connectedItems items).filterMap connectionOf,
          Paired connection.tempStorageUrl.val) ∧
        ∀ told ∈ (failingItem items).map fun item => itemFailure index item.2,
          Paired told.diagnostic ∧ ∀ url ∈ told.orphanUrl, Paired url.val := by
  unfold sentTexts
  rw [List.forall_mem_append]
  refine and_congr ?_ ?_
  · simp only [connectedUrls, List.mem_filterMap, connectionOf, Option.map_eq_some_iff,
      forall_exists_index, and_imp]
    constructor
    · rintro paired connection item member url found rfl
      exact paired _ item member url found rfl
    · rintro paired content item member url found rfl
      exact paired _ item member url found rfl
  · cases failingItem items with
    | none => simp
    | some item => cases address : item.2.url <;> simp [-Subtype.forall, address]

end OnecRuntime.WorkerStage
