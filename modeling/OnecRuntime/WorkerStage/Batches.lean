import OnecRuntime.Library.Fallible
import OnecRuntime.Library.Spelling
import OnecRuntime.Tables.Cells

/-!
# Batches of Workers to stage

A batch holds at most ten entries under distinct registration names. What is staged is put
into the temporary storage of a session, and only an address there that names one session
is taken for one.
-/

namespace OnecRuntime.WorkerStage

open OnecRuntime.Library OnecRuntime.Tables

def maxWorkerStageBatchSize : Nat := 10

def maxWorkerStageOutcomeBytes : Nat := 128 * 1024

def maxWorkerStageUrlCodepoints : Nat := 4096

def maxWorkerStageDiagnosticCodepoints : Nat := 4096

def workerStageSchema : String := "onec-worker-stage-batch-receipt"

def workerStageSchemaVersion : Nat := 2

def latinLetter (char : Char) : Bool :=
  decide ('A' ≤ char ∧ char ≤ 'Z') || decide ('a' ≤ char ∧ char ≤ 'z')

def isIdentifierStart (char : Char) : Bool :=
  latinLetter char || decide (char = '_') ||
    decide (0x400 ≤ char.toNat ∧ char.toNat ≤ 0x4FF)

def isIdentifierPart (char : Char) : Bool := isIdentifierStart char || char.isDigit

/-- `_safe_identifier`. -/
def safeIdentifier (value : String) : Bool :=
  match value.toList with
  | [] => false
  | first :: rest => isIdentifierStart first && rest.all isIdentifierPart

/-- `_ascii_registration_name`. -/
def asciiRegistrationName (value : String) : Bool :=
  match value.toList with
  | [] => false
  | first :: rest =>
      (latinLetter first || decide (first = '_')) &&
        rest.all fun char => latinLetter char || decide (char = '_') || char.isDigit

/-- `_sha256`. -/
def isSha256 (value : String) : Bool :=
  decide (value.toList.length = 64) &&
    value.toList.all fun char => char.isDigit || decide ('a' ≤ char ∧ char ≤ 'f')

/-! ## Addresses of the temporary storage -/

/-- The text before the first mark and, if there is one, the text behind it. -/
def partition (mark : CodePoint) (value : CodeText) : CodeText × Option CodeText :=
  (value.takeWhile (· ≠ mark),
    if mark ∈ value then some (value.dropWhile (· ≠ mark)).tail else none)

structure SplitUrl where
  scheme : CodeText
  netloc : CodeText
  path : CodeText
  query : CodeText
  fragment : CodeText
deriving DecidableEq, Repr

def isSchemeSign (sign : CodePoint) : Bool :=
  latinLetter (charOf sign) || (charOf sign).isDigit || (text "+-.").contains sign

/-- The scheme of an address and what follows it. -/
def takeScheme (url : CodeText) : CodeText × CodeText :=
  match partition (point ':') url with
  | (first :: letters, some rest) =>
      if latinLetter (charOf first) ∧ (first :: letters).all isSchemeSign then
        (first :: letters, rest)
      else ([], url)
  | _ => ([], url)

def isNetlocEnd (sign : CodePoint) : Bool := (text "/?#").contains sign

/-- The network location of an address and what follows it. -/
def takeNetloc (url : CodeText) : CodeText × CodeText :=
  if (text "//").isPrefixOf url then
    ((url.drop 2).takeWhile fun sign => !isNetlocEnd sign,
      (url.drop 2).dropWhile fun sign => !isNetlocEnd sign)
  else ([], url)

/-- `urlsplit` of a text without control characters. A network location that it refuses is
refused by its caller as any other is. -/
def urlsplit (value : CodeText) : SplitUrl :=
  let (scheme, afterScheme) := takeScheme (value.dropWhile (· = point ' '))
  let (netloc, afterNetloc) := takeNetloc afterScheme
  let (beforeFragment, fragment) := partition (point '#') afterNetloc
  let (path, query) := partition (point '?') beforeFragment
  ⟨scheme, netloc, path, query.getD [], fragment.getD []⟩

/-- `unquote` as far as names in ASCII tell: bytes beyond it are replaced one by one. -/
def unquote : CodeText → CodeText
  | sign :: first :: second :: rest =>
      match hexDigitValue (charOf first), hexDigitValue (charOf second) with
      | some high, some low =>
          if sign = point '%' then
            (if high < 8 then Fin.ofNat 0x110000 (high * 16 + low) else point '\uFFFD') ::
              unquote rest
          else sign :: unquote (first :: second :: rest)
      | _, _ => sign :: unquote (first :: second :: rest)
  | signs => signs

def unquotePlus (value : CodeText) : CodeText :=
  unquote (value.map fun sign => if sign = point '+' then point ' ' else sign)

/-- `parse_qsl` with blank values kept, where every field has to be a pair. -/
def parseQsl (query : CodeText) : Option (List (CodeText × CodeText)) :=
  if query = [] then some []
  else
    (query.splitOn (point '&')).mapM fun field =>
      match partition (point '=') field with
      | (_, none) => none
      | (name, some value) => some (unquotePlus name, unquotePlus value)

def tempStorageRoot : CodeText := text "e1cib/tempstorage/"

/-- `_temp_storage_session_id`. -/
def tempStorageSessionId (value : CodeText) : Option CodeText :=
  if value = [] ∨ maxWorkerStageUrlCodepoints < value.length ∨
      value.any fun sign => decide (sign.val < 32) || decide (sign.val = 127) then none
  else
    let split := urlsplit value
    if split.scheme ≠ [] ∨ split.netloc ≠ [] ∨ split.fragment ≠ [] ∨
        ¬tempStorageRoot.isPrefixOf split.path ∨ split.path = tempStorageRoot then none
    else
      match parseQsl split.query with
      | none => none
      | some query =>
          match (query.filter fun field => field.1 = text "seanceId").map Prod.snd with
          | [session] => if session = [] then none else some session
          | _ => none

/-- `_qualified_temp_storage_url`. -/
def qualifiedTempStorageUrl (value : CodeText) : Bool := (tempStorageSessionId value).isSome

/-! ## Entries and batches -/

structure WorkerStageEntry where
  logicalName : String
  artifactSha256 : String
  registrationName : String
  artifactBytes : List UInt8
  valid : safeIdentifier logicalName = true ∧ isSha256 artifactSha256 = true ∧
    asciiRegistrationName registrationName = true ∧ artifactBytes ≠ []

/-- `str.casefold` of a name in ASCII. -/
def casefold (name : String) : List Char := name.toList.map Char.toLower

structure WorkerStageBatch where
  batchIndex : Nat
  entries : List WorkerStageEntry
  filled : entries ≠ []
  bounded : entries.length ≤ maxWorkerStageBatchSize
  distinct : (entries.map fun entry => casefold entry.registrationName).Nodup

/-- `_batch_count_is_valid`. -/
def batchCountIsValid (batch : WorkerStageBatch) (batchCount : Nat) : Prop :=
  0 < batchCount ∧ batch.batchIndex < batchCount

instance (batch : WorkerStageBatch) (batchCount : Nat) :
    Decidable (batchCountIsValid batch batchCount) :=
  inferInstanceAs (Decidable (_ ∧ _))

/-- SHA-256 of a text in UTF-8, in hexadecimal digits. -/
structure Sha256 where
  hexdigest : String → String
  hexadecimal : ∀ payload, isSha256 (hexdigest payload) = true

def quoted (value : String) : String := "\"" ++ value ++ "\""

/-- The identity of an entry as `json.dumps` writes it; no name holds a sign to escape. -/
def entryIdentity (entry : WorkerStageEntry) : String :=
  "\x7b\"artifact_sha256\":" ++ quoted entry.artifactSha256 ++
    ",\"logical_name\":" ++ quoted entry.logicalName ++
    ",\"registration_name\":" ++ quoted entry.registrationName ++ "\x7d"

def batchIdentity (batch : WorkerStageBatch) (batchCount : Nat) : String :=
  "\x7b\"batch_count\":" ++ toString batchCount ++
    ",\"batch_index\":" ++ toString batch.batchIndex ++
    ",\"entries\":[" ++ ",".intercalate (batch.entries.map entryIdentity) ++ "]\x7d"

/-- `worker_stage_batch_digest`. -/
def workerStageBatchDigest (sha256 : Sha256) (batch : WorkerStageBatch) (batchCount : Nat) :
    String :=
  sha256.hexdigest (batchIdentity batch batchCount)

end OnecRuntime.WorkerStage

/-!
# The staging instruction

The generated instruction decodes, uploads and connects the entries of a batch one after
another up to the first that fails, and writes what it did as one JSON document. What the
platform answers is given item by item.
-/

namespace OnecRuntime.WorkerStage

open OnecRuntime.Library OnecRuntime.Tables

inductive Phase where
  | decode
  | upload
  | connect
  | registrationResult
deriving DecidableEq, Repr

def Phase.name : Phase → String
  | .decode => "decode"
  | .upload => "upload"
  | .connect => "connect"
  | .registrationResult => "registration-result"

inductive FailureOutcome where
  | knownPreSwap
  | registrationOutcomeUnknown
deriving DecidableEq, Repr

def FailureOutcome.name : FailureOutcome → String
  | .knownPreSwap => "known_pre_swap"
  | .registrationOutcomeUnknown => "registration_outcome_unknown"

/-- The UTF-16 units of a text of the platform; surrogates need not be paired. -/
abbrev Units := List (Fin 0x10000)

/-- The code points of a text of the platform: a pair of surrogates is one code point. -/
def unitsText (units : Units) : CodeText := joinPieces (units.map fun unit => .escape unit.val)

/-- An address in the temporary storage of a session. -/
abbrev TempStorageUrl := {url : CodeText // qualifiedTempStorageUrl url = true}

/-- What the platform answers for an item, or the text of the error that it raises. -/
structure ItemRun where
  /-- `Base64Значение`. -/
  decode : Except Units Unit
  /-- `Строка(ПоместитьВоВременноеХранилище(...))`. -/
  upload : Except Units TempStorageUrl
  /-- The name that `ВнешниеОбработки.Подключить` returns. -/
  connect : Except Units CodeText

/-- `ПодключениеWorker`. -/
structure Connection where
  registrationName : String
  artifactSha256 : String
  tempStorageUrl : TempStorageUrl

/-- `ОтказWorker`; without an address, `Ложь` stands for it. -/
structure StagingFailure where
  itemIndex : Nat
  phase : Phase
  outcome : FailureOutcome
  diagnostic : CodeText
  orphanUrl : Option TempStorageUrl

/-- `ПодключенныеWorker` and `ОтказWorker`. -/
structure Staging where
  connected : List Connection
  failure : Option StagingFailure

/-- The handler of an item: the phase that was reached, the address that it holds and the
first 4096 units of the description of the error. -/
def raisedFailure (index : Nat) (phase : Phase) (url : Option TempStorageUrl) (error : Units) :
    StagingFailure where
  itemIndex := index
  phase := phase
  outcome :=
    if phase = .decode ∨ phase = .upload then .knownPreSwap else .registrationOutcomeUnknown
  diagnostic := unitsText (error.take maxWorkerStageDiagnosticCodepoints)
  orphanUrl := url

def mismatchFailure (index : Nat) (url : TempStorageUrl) : StagingFailure where
  itemIndex := index
  phase := .registrationResult
  outcome := .registrationOutcomeUnknown
  diagnostic := text "registration identity mismatch"
  orphanUrl := some url

/-- The statements for one item. -/
def stageItem (index : Nat) (entry : WorkerStageEntry) (run : ItemRun) (staging : Staging) :
    Staging :=
  match staging.failure with
  | some _ => staging
  | none =>
      match run.decode with
      | .error error => { staging with failure := some (raisedFailure index .decode none error) }
      | .ok () =>
          match run.upload with
          | .error error =>
              { staging with failure := some (raisedFailure index .upload none error) }
          | .ok url =>
              match run.connect with
              | .error error =>
                  { staging with failure := some (raisedFailure index .connect (some url) error) }
              | .ok name =>
                  if name ≠ text entry.registrationName then
                    { staging with failure := some (mismatchFailure index url) }
                  else
                    { staging with
                      connected := staging.connected ++
                        [⟨entry.registrationName, entry.artifactSha256, url⟩] }

/-- The items of the instruction from an index on. -/
def stageItems : Nat → List (WorkerStageEntry × ItemRun) → Staging → Staging
  | _, [], staging => staging
  | index, (entry, run) :: rest, staging =>
      stageItems (index + 1) rest (stageItem index entry run staging)

def initialStaging : Staging := ⟨[], none⟩

/-- The entries of a batch, each with what the platform answers for it. -/
def itemsOf (batch : WorkerStageBatch) (runs : Nat → ItemRun) :
    List (WorkerStageEntry × ItemRun) :=
  batch.entries.zipIdx.map fun entry => (entry.1, runs entry.2)

/-! ## The document -/

def integer (value : Nat) : Json := .number (.integer value)

def literal (value : String) : Json := .string (text value)

def Connection.members (connection : Connection) : List (CodeText × Json) :=
  [(text "registration_name", literal connection.registrationName),
    (text "artifact_sha256", literal connection.artifactSha256),
    (text "temp_storage_url", .string connection.tempStorageUrl.val)]

def Connection.json (connection : Connection) : Json := .object connection.members

def orphanJson : Option TempStorageUrl → Json
  | none => .boolean false
  | some url => .string url.val

def StagingFailure.members (failure : StagingFailure) : List (CodeText × Json) :=
  [(text "item_index", integer failure.itemIndex), (text "phase", literal failure.phase.name),
    (text "outcome", literal failure.outcome.name), (text "diagnostic", .string failure.diagnostic),
    (text "orphan_url", orphanJson failure.orphanUrl)]

def StagingFailure.json (failure : StagingFailure) : Json := .object failure.members

def failureJson : Option StagingFailure → Json
  | none => .boolean false
  | some failure => failure.json

def statusName : Option StagingFailure → String
  | none => "succeeded"
  | some _ => "failed"

/-- `ДокументWorker`. -/
def documentMembers (batch : WorkerStageBatch) (batchCount : Nat) (transactionId : Uuid)
    (digest : String) (staging : Staging) : List (CodeText × Json) :=
  [(text "schema", literal workerStageSchema),
    (text "schema_version", integer workerStageSchemaVersion),
    (text "transaction_id", .string (uuidText transactionId)),
    (text "batch_index", integer batch.batchIndex), (text "batch_count", integer batchCount),
    (text "batch_digest", literal digest), (text "status", literal (statusName staging.failure)),
    (text "connected", .array (staging.connected.map Connection.json)),
    (text "failure", failureJson staging.failure)]

def stagingDocument (batch : WorkerStageBatch) (batchCount : Nat) (transactionId : Uuid)
    (digest : String) (staging : Staging) : Json :=
  .object (documentMembers batch batchCount transactionId digest staging)

/-- `stage_worker_batch_instruction`: the text that the instruction returns is some spelling
of its document by the writer of the platform, without escapes that JSON does not require. -/
def Returns (sha256 : Sha256) (batch : WorkerStageBatch) (batchCount : Nat) (transactionId : Uuid)
    (runs : Nat → ItemRun) (payload : CodeText) : Prop :=
  SpelledDocument pointScript
    (stagingDocument batch batchCount transactionId
      (workerStageBatchDigest sha256 batch batchCount)
      (stageItems 0 (itemsOf batch runs) initialStaging))
    payload

end OnecRuntime.WorkerStage
