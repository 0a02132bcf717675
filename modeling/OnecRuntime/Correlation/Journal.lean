import OnecRuntime.Library.Dictionary
import OnecRuntime.Library.Dumps
import OnecRuntime.Library.JsonCuts
import OnecRuntime.Library.Lines
import OnecRuntime.Library.Utf8Cut

/-!
# The journal of the capture service

Requests, intents, armings and continuations are appended to one file, each as the text of a JSON
object and a line feed, in UTF-8. A service that is constructed reads the whole file, splits it into
lines, and takes the objects that its lines hold. An append can end with a part of its bytes: the
process crashes, or the write raises.
-/

namespace OnecRuntime.Correlation

open OnecRuntime.Library

/-! ## What is recorded -/

structure ResolvedCapturePoint where
  name : CodeText
  project : CodeText
  moduleName : CodeText
  procedure : CodeText
  line : Int
  sourceRevision : Int
  sourceSha256 : CodeText
  executableLine : Int
  excerpt : CodeText
deriving DecidableEq

structure CaptureIntent where
  captureIntentId : CodeText
  operationId : CodeText
  sourceRevision : Int
  sourceSha256 : CodeText
  captureGeneration : Int
  points : List ResolvedCapturePoint
deriving DecidableEq

/-- What the runtime returns when an intent is armed. -/
structure CaptureArming where
  ticketId : CodeText
  expectedControllerOperationId : Int
  expectedStopSequence : Int
deriving DecidableEq

structure CaptureFence where
  captureIntentId : CodeText
  operationId : CodeText
  sourceRevision : Int
  sourceSha256 : CodeText
  captureGeneration : Int
  stopSequence : Int
deriving DecidableEq

/-- The statuses of a continuation that are recorded. -/
inductive ContinuationStatus where
  | planned
  | sent
  | acknowledged
  | unknown
deriving DecidableEq

def ContinuationStatus.text : ContinuationStatus → CodeText
  | .planned => Library.text "planned"
  | .sent => Library.text "sent"
  | .acknowledged => Library.text "acknowledged"
  | .unknown => Library.text "unknown"

inductive Entry where
  | request (requestId fingerprint operationId : CodeText)
  | intent (intent : CaptureIntent)
  | arming (intent : CaptureIntent) (arming : CaptureArming)
  | continuation (fence : CaptureFence) (dirtyRoots : List CodeText) (status : ContinuationStatus)
deriving DecidableEq

def number (value : Int) : Json := .number (.integer value)

def pointMembers (point : ResolvedCapturePoint) : List (CodeText × Json) :=
  [(text "name", .string point.name), (text "project", .string point.project),
    (text "module", .string point.moduleName), (text "procedure", .string point.procedure),
    (text "line", number point.line), (text "executable_line", number point.executableLine),
    (text "source_revision", number point.sourceRevision),
    (text "source_sha256", .string point.sourceSha256)]

/-- The members of the object that an entry is recorded as. -/
def Entry.members : Entry → List (CodeText × Json)
  | .request requestId fingerprint operationId =>
      [(text "request_id", .string requestId), (text "fingerprint", .string fingerprint),
        (text "operation_id", .string operationId)]
  | .intent planned =>
      [(text "capture_intent_id", .string planned.captureIntentId),
        (text "operation_id", .string planned.operationId),
        (text "source_revision", number planned.sourceRevision),
        (text "source_sha256", .string planned.sourceSha256),
        (text "capture_generation", number planned.captureGeneration),
        (text "points", .array (planned.points.map fun point => .object (pointMembers point)))]
  | .arming planned armed =>
      [(text "capture_intent_id", .string planned.captureIntentId),
        (text "runtime_ticket", .string armed.ticketId),
        (text "expected_controller_operation_id", number armed.expectedControllerOperationId),
        (text "expected_stop_sequence", number armed.expectedStopSequence),
        (text "source_revision", number planned.sourceRevision),
        (text "source_sha256", .string planned.sourceSha256),
        (text "capture_generation", number planned.captureGeneration)]
  | .continuation fence dirtyRoots status =>
      [(text "continuation", .string status.text),
        (text "capture_intent_id", .string fence.captureIntentId),
        (text "capture_generation", number fence.captureGeneration),
        (text "operation_id", .string fence.operationId),
        (text "dirty_roots", .array (dirtyRoots.map .string))]

def Entry.payload (entry : Entry) : Json := .object entry.members

/-! ## Appending -/

/-- The file of the journal; there is none before the first append. -/
abbrev JournalFile := Option (List UInt8)

def contents (file : JournalFile) : List UInt8 := file.getD []

/-- What becomes of an append: all of it is done, or only a part is when the write raises or the
process ends. -/
inductive Fate where
  | done
  | raised (kept : Nat)
  | crashed (kept : Nat)
deriving DecidableEq

inductive Ending where
  | done
  | raised
  | crashed
deriving DecidableEq

def Fate.ending : Fate → Ending
  | .done => .done
  | .raised _ => .raised
  | .crashed _ => .crashed

def Fate.written (fate : Fate) (bytes : List UInt8) : List UInt8 :=
  match fate with
  | .done => bytes
  | .raised kept => bytes.take kept
  | .crashed kept => bytes.take kept

def journalLine (payload : Json) : CodeText := dumps payload ++ [point '\n']

/-- An integer of too many digits has no text, and a lone surrogate no bytes. -/
def Encodable (payload : Json) : Prop :=
  (∀ number ∈ payload.numbers, number.Short) ∧
    ∀ sign ∈ journalLine payload, ¬isSurrogate sign.val

instance (payload : Json) : Decidable (Encodable payload) :=
  @instDecidableAnd _ _ _ (List.decidableBAll _ _)

def lineBytes (payload : Json) : Option (List UInt8) :=
  if Encodable payload then some (encodedText ((journalLine payload).map charOf)) else none

/-- `_append`. Where the text cannot be encoded the file is opened and nothing is written. -/
def append (file : JournalFile) (entry : Entry) (fate : Fate) : JournalFile × Ending :=
  match lineBytes entry.payload with
  | some bytes => (some (contents file ++ fate.written bytes), fate.ending)
  | none => (some (contents file), if fate.ending = .crashed then .crashed else .raised)

/-! ## Reading -/

/-- The lines of the file; they are undefined where its bytes are no text. -/
def journalLines (file : JournalFile) : Option (List (List Char)) :=
  (decodedText (contents file)).map splitLines

/-- The values of the lines; a line that is no JSON text is passed over. -/
def journalItems (file : JournalFile) : Option (List Json) :=
  (journalLines file).map fun lines => lines.filterMap loads

/-- `item.get(name)`; of members with one name the last counts. -/
def Json.get? : Json → String → Option Json
  | .object members, name => members.reverse.lookup (text name)
  | _, _ => none

def laterGeneration (generation : Int) (item : Json) : Int :=
  match Json.get? item "capture_generation" with
  | some (.number (.integer value)) => if generation < value then value else generation
  | _ => generation

/-- `_load_generation`. -/
def loadGeneration (file : JournalFile) : Option Int :=
  (journalItems file).map fun items => items.foldl laterGeneration 0

abbrev Requests := Dictionary CodeText (CodeText × CodeText)

def withRequest (requests : Requests) (item : Json) : Requests :=
  match Json.get? item "request_id", Json.get? item "fingerprint",
      Json.get? item "operation_id" with
  | some (.string requestId), some (.string fingerprint), some (.string operationId) =>
      if requestId ≠ [] ∧ fingerprint ≠ [] ∧ operationId ≠ [] then
        requests.set requestId (fingerprint, operationId)
      else requests
  | _, _, _ => requests

/-- `_load_requests`. -/
def loadRequests (file : JournalFile) : Option Requests :=
  (journalItems file).map fun items => items.foldl withRequest .empty

/-- An entry can be read back from the journal. -/
def Readable (file : JournalFile) (entry : Entry) : Prop :=
  ∃ items, journalItems file = some items ∧ entry.payload ∈ items

end OnecRuntime.Correlation
