import OnecRuntime.Library.Base64
import OnecRuntime.Library.Programs
import OnecRuntime.Library.Utf8Units

/-!
# Reading a table in parts

The materializer starts a transfer at its backend, reads the manifest and the parts, compares
them with the manifest and decodes the payload.  Whatever happens, it closes the token that it
was given; a failure of that cleanup carries the first error along.
-/

namespace OnecRuntime.Transfer

open OnecRuntime.Library

structure TableTransferManifest where
  token : String
  runtimeGeneration : Int
  contextGeneration : Int
  byteCount : Int
  schemaByteCount : Int
  chunkCount : Int
  payloadSha256 : String
  schemaSha256 : String
deriving DecidableEq, Repr

structure TableTransferChunk where
  sequence : Int
  contentBase64 : List Char
deriving DecidableEq, Repr

/-- What leaves the materializer: its own `TableMaterializationError`, an error of the backend or
a `TableCleanupError`. -/
inductive Failure (ε : Type) where
  | message (text : String)
  | raised (error : ε)
  | cleanup (primary : Option (Failure ε)) (error : ε)

/-- A call of the backend. -/
inductive Call where
  | start (handle : String) (chunkSize : Int)
  | manifest (token : String)
  | chunk (token : String) (sequence : Int)
  | close (token : String)
deriving DecidableEq, Repr

abbrev Returned (ε : Type) : Call → Type
  | .start _ _ => Except ε String
  | .manifest _ => Except ε TableTransferManifest
  | .chunk _ _ => Except ε TableTransferChunk
  | .close _ => Except ε Unit

/-- The code of the materializer runs against a backend that may answer anything. -/
abbrev Reading (ε : Type) := Fallible Unit (Returned ε) (Failure ε)

structure TableMaterializer where
  runtimeGeneration : Int
  contextGeneration : Int
  chunkSize : Int
  generations : 0 < runtimeGeneration ∧ 0 < contextGeneration
  positive : 0 < chunkSize

/-- A hash function of the payload, in hexadecimal text. -/
structure Digest where
  sha256 : List UInt8 → String

/-- `[0-9a-f]{64}`, in full. -/
def isSha256 (value : String) : Bool :=
  value.toList.length == 64 &&
    value.toList.all fun char => decide ('0' ≤ char ∧ char ≤ '9') || decide ('a' ≤ char ∧ char ≤ 'f')

section Code

variable {ε Frame : Type}

def refuse {ρ : Type} (text : String) : Reading ε ρ := throw (.message text)

/-- `_validate_manifest`. -/
def validateManifest (materializer : TableMaterializer) (token : String)
    (manifest : TableTransferManifest) : Reading ε Unit :=
  if manifest.token ≠ token then refuse "table manifest token mismatch"
  else if manifest.runtimeGeneration ≠ materializer.runtimeGeneration then
    refuse "table manifest runtime generation mismatch"
  else if manifest.contextGeneration ≠ materializer.contextGeneration then
    refuse "table manifest context generation mismatch"
  else if manifest.byteCount ≤ 0 then refuse "table manifest byte count is invalid"
  else if manifest.chunkCount ≤ 0 then refuse "table manifest chunk count is invalid"
  else if isSha256 manifest.payloadSha256 = false then
    refuse "table manifest payload SHA-256 is invalid"
  else if isSha256 manifest.schemaSha256 = false then
    refuse "table manifest schema SHA-256 is invalid"
  else pure ()

/-- The parts from a sequence number on. -/
def readParts (token : String) : Nat → Int → Reading ε (List (List UInt8))
  | 0, _ => pure []
  | count + 1, sequence => do
      match (← Fallible.request (.chunk token sequence) : Except ε TableTransferChunk) with
      | .error error => throw (.raised error)
      | .ok chunk =>
          if chunk.sequence ≠ sequence then
            refuse ("table chunk sequence mismatch: expected " ++ toString sequence ++ ", got " ++
              toString chunk.sequence)
          else
            match decodeBase64 chunk.contentBase64 with
            | none => refuse ("table chunk " ++ toString sequence ++ " is not valid Base64")
            | some content => do
                let rest ← readParts token count (sequence + 1)
                pure (content :: rest)

/-- `delimiter.startswith((b"\n", b"\r\n"))`. -/
def startsLine : List UInt8 → Bool
  | 0x0A :: _ => true
  | 0x0D :: 0x0A :: _ => true
  | _ => false

/-- The checks of the joined payload, and its decoding. -/
def checkPayload (digest : Digest) (decode : List UInt8 → Except (Failure ε) Frame)
    (manifest : TableTransferManifest) (payload : List UInt8) : Reading ε Frame :=
  if (payload.length : Int) ≠ manifest.byteCount then
    refuse "table payload byte count does not match manifest"
  else if digest.sha256 payload ≠ manifest.payloadSha256 then
    refuse "table payload SHA-256 does not match manifest"
  else if manifest.schemaByteCount ≤ 0 ∨ (payload.length : Int) ≤ manifest.schemaByteCount then
    refuse "table manifest schema byte count is invalid"
  else if startsLine (payload.drop manifest.schemaByteCount.toNat) = false then
    refuse "table schema record is not followed by a JSONL delimiter"
  else if digest.sha256 (payload.take manifest.schemaByteCount.toNat) ≠ manifest.schemaSha256 then
    refuse ("table schema SHA-256 does not match manifest: expected=" ++ manifest.schemaSha256 ++
      ", observed=" ++ digest.sha256 (payload.take manifest.schemaByteCount.toNat))
  else
    match decode payload with
    | .ok frame => pure frame
    | .error problem => throw problem

/-- What happens between the start and the close. -/
def transferred (digest : Digest) (decode : List UInt8 → Except (Failure ε) Frame)
    (materializer : TableMaterializer) (token : String) : Reading ε Frame :=
  if token = "" then refuse "table transfer token is empty"
  else do
    match (← Fallible.request (.manifest token) : Except ε TableTransferManifest) with
    | .error error => throw (.raised error)
    | .ok manifest => do
        validateManifest materializer token manifest
        let parts ← readParts token manifest.chunkCount.toNat 0
        checkPayload digest decode manifest parts.flatten

/-- The first error. -/
def primary : Except (Failure ε) Frame → Option (Failure ε)
  | .ok _ => none
  | .error problem => some problem

/-- `TableMaterializer.to_df`; `decode_table_payload` with the policy is given. -/
def toDf (digest : Digest) (decode : List UInt8 → Except (Failure ε) Frame)
    (materializer : TableMaterializer) (handle : String) : Reading ε Frame :=
  if handle = "" then refuse "table handle must not be empty"
  else do
    match (← Fallible.request (.start handle materializer.chunkSize) : Except ε String) with
    | .error error => throw (.raised error)
    | .ok token => do
        let outcome ← Fallible.attempt (transferred digest decode materializer token)
        match (← Fallible.request (.close token) : Except ε Unit) with
        | .error error => throw (.cleanup (primary outcome) error)
        | .ok () =>
            match outcome with
            | .ok frame => pure frame
            | .error problem => throw problem

end Code

end OnecRuntime.Transfer

/-!
# Writing a table in parts

The server joins the schema record and the row records to one text, encodes it, and cuts the text
into parts by a number of UTF-16 code units that is a quarter of the part size.
-/

namespace OnecRuntime.Transfer

open OnecRuntime.Library

/-- What the platform does.  A half of a surrogate pair on its own has no encoding in UTF-8; the
encoders in use write a question mark for it, the replacement character or the three bytes of a
basic code point. -/
structure Platform where
  unpaired : UInt16 → List UInt8
  width : Nat
  uniform : ∀ unit, (unpaired unit).length = width
  odd : width = 1 ∨ width = 3
  base64 : List UInt8 → List Char
  plain : ∀ bytes, (base64 bytes).filter (fun char => char ≠ '\r' && char ≠ '\n') =
    encodeBase64 bytes
  digest : Digest
  hexadecimal : ∀ bytes, isSha256 (digest.sha256 bytes) = true

structure SerializedTable where
  parts : List (List Char)
  size : Nat
  schemaSize : Nat
  count : Nat
  dataHash : String
  schemaHash : String
deriving DecidableEq, Repr

def lineFeed : UInt16 := 10

/-- The schema record and the rows, a line feed behind each. -/
def tableText (schema : List UInt16) (rows : List (List UInt16)) : List UInt16 :=
  schema ++ lineFeed :: rows.flatMap (· ++ [lineFeed])

/-- `Макс(1, Цел(РазмерЧасти / 4))`. -/
def unitsOfPart (partSize : Int) : Nat := max 1 (partSize.toNat / 4)

/-- `Base64БезРазрывов`. -/
def base64WithoutBreaks (platform : Platform) (bytes : List UInt8) : List Char :=
  (platform.base64 bytes).filter fun char => char ≠ '\r' && char ≠ '\n'

/-- `СериализоватьТаблицу`, from the records of the table on. -/
def serializeTable (platform : Platform) (schema : List UInt16) (rows : List (List UInt16))
    (partSize : Int) : Except String SerializedTable :=
  if partSize ≤ 0 then .error "Размер части должен быть положительным"
  else
    let text := tableText schema rows
    let parts := (cut (unitsOfPart partSize) text.length text).map fun part =>
      base64WithoutBreaks platform (utf8Units platform.unpaired part)
    .ok {
      parts
      size := (utf8Units platform.unpaired text).length
      schemaSize := (utf8Units platform.unpaired schema).length
      count := parts.length
      dataHash := platform.digest.sha256 (utf8Units platform.unpaired text)
      schemaHash := platform.digest.sha256 (utf8Units platform.unpaired schema) }

/-- `ПолучитьЧасть`. -/
def getPart (parts : List (List Char)) (number : Int) : Except String (List Char) :=
  if number < 0 then .error "Номер части вне диапазона"
  else
    match parts[number.toNat]? with
    | none => .error "Номер части вне диапазона"
    | some part => .ok part

/-- A backend whose transfer stands for a serialized table. -/
def served (materializer : TableMaterializer) (token : String) (table : SerializedTable) :
    (call : Call) → Returned String call
  | .start _ _ => .ok token
  | .manifest _ => .ok {
      token
      runtimeGeneration := materializer.runtimeGeneration
      contextGeneration := materializer.contextGeneration
      byteCount := table.size
      schemaByteCount := table.schemaSize
      chunkCount := table.count
      payloadSha256 := table.dataHash
      schemaSha256 := table.schemaHash }
  | .chunk _ sequence => (getPart table.parts sequence).map fun part => ⟨sequence, part⟩
  | .close _ => .ok ()

section Facts

variable {platform : Platform}

theorem base64WithoutBreaks_eq (bytes : List UInt8) :
    base64WithoutBreaks platform bytes = encodeBase64 bytes :=
  platform.plain bytes

theorem unitsOfPart_pos (partSize : Int) : 0 < unitsOfPart partSize := Nat.le_max_left 1 _

theorem narrow (platform : Platform) (unit : UInt16) : (platform.unpaired unit).length ≤ 3 := by
  rw [platform.uniform]
  obtain one | three := platform.odd
  · omega
  · omega

theorem utf8Unit_pos (platform : Platform) (unit : UInt16) :
    0 < (utf8Unit platform.unpaired unit).length := by
  unfold utf8Unit
  split
  · rw [platform.uniform]
    obtain one | three := platform.odd
    · omega
    · omega
  · unfold utf8Basic
    split
    · exact Nat.succ_pos _
    · split
      · exact Nat.succ_pos _
      · exact Nat.succ_pos _

theorem utf8Units_pos (platform : Platform) {text : List UInt16} (inside : text ≠ []) :
    0 < (utf8Units platform.unpaired text).length := by
  induction text using utf8Units.induct with
  | case1 high low rest pair ih =>
      rw [utf8Units_pair _ pair, List.length_append]
      exact Nat.add_pos_left (Nat.succ_pos _) _
  | case2 high low rest apart ih =>
      have alone : splitsPair [high] (low :: rest) = false := eq_false_of_ne_true apart
      rw [utf8Units_single _ alone, List.length_append]
      exact Nat.add_pos_left (utf8Unit_pos platform high) _
  | case3 unit => exact utf8Unit_pos platform unit
  | case4 => exact absurd rfl inside

/-- Nothing in front of a line feed and nothing behind one is changed by it. -/
theorem utf8Units_lineFeed (schema rest : List UInt16) :
    utf8Units platform.unpaired (schema ++ lineFeed :: rest) =
      utf8Units platform.unpaired schema ++ 0x0A :: utf8Units platform.unpaired rest := by
  have before : splitsPair schema (lineFeed :: rest) = false := Bool.and_false _
  have after : splitsPair [lineFeed] rest = false := Bool.false_and _
  rw [utf8Units_append _ _ before, utf8Units_single _ after]
  rfl

end Facts

end OnecRuntime.Transfer
