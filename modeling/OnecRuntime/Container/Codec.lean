import Mathlib.Data.List.Sort
import OnecRuntime.Library.Dictionary
import OnecRuntime.Library.Fallible
import OnecRuntime.Library.Utf16

/-!
# The EPF container

A container is a header, a table of contents and two documents for each entry: its
attributes, which end with the name, and its payload. The space of the table is
reserved before the entries are written and filled once their offsets are known.
-/

namespace OnecRuntime.Container

open OnecRuntime.Library

abbrev Bytes := List UInt8

abbrev Name := List CodePoint

inductive Failure where
  | epfContainerError (message : String)
  | structError
  | unicodeEncodeError
  | assertionError (message : String)
deriving DecidableEq, Repr

def endMarker : Nat := 0x7FFFFFFF

def defaultBlockSize : Nat := 0x200

def blockHeaderSize : Nat := 31

/-- The size of the container header. -/
def indexOffset : Nat := 16

/-- The size of an index entry. -/
def indexEntrySize : Nat := 12

/-- The size of the file attributes before the name. -/
def fileAttributesSize : Nat := 20

def zeros (count : Nat) : Bytes := List.replicate count 0

/-! ## Writing -/

/-- The `i` field of a packed structure, for the non-negative values that are packed here. -/
def packInt (value : Nat) : Except Failure Bytes := do
  require (value ≤ endMarker) .structError
  pure (littleEndian 4 value)

def packHeader (count : Nat) : Except Failure Bytes := do
  let packed ← packInt count
  pure (littleEndian 4 endMarker ++ littleEndian 4 defaultBlockSize ++ packed ++ littleEndian 4 0)

def packIndexEntry (entry : Nat × Nat) : Except Failure Bytes := do
  let attributeOffset ← packInt entry.1
  let dataOffset ← packInt entry.2
  pure (attributeOffset ++ dataOffset ++ littleEndian 4 endMarker)

/-- The stream after some bytes were written at a position inside it. -/
def writeAt (stream : Bytes) (position : Nat) (data : Bytes) : Bytes :=
  stream.take position ++ data ++ stream.drop (position + data.length)

def blockHeader (documentSize currentBlockSize : Nat) : Bytes :=
  [13, 10] ++ formatHex 8 documentSize ++ [32] ++ formatHex 8 currentBlockSize ++ [32] ++
    formatHex 8 endMarker ++ [32, 13, 10]

/-- `_write_document`: the stream and the offset of the document, at the end by default. -/
def writeDocument (stream data : Bytes) (minimumBlockSize : Nat) (offset : Option Nat) :
    Except Failure (Bytes × Nat) := do
  let position := offset.getD stream.length
  let currentBlockSize := max minimumBlockSize data.length
  require (currentBlockSize ≤ endMarker) (.epfContainerError "Container document is too large")
  let header := blockHeader data.length currentBlockSize
  require (header.length = blockHeaderSize) (.assertionError "Unexpected 1C block header size")
  pure (writeAt stream position (header ++ data ++ zeros (currentBlockSize - data.length)),
    position)

def encodedName (name : Name) : Except Failure Bytes :=
  match encodeUtf16 name with
  | some bytes => .ok bytes
  | none => .error .unicodeEncodeError

def entryAttributes (name : Name) : Except Failure Bytes := do
  require (name ≠ [] ∧ (0 : CodePoint) ∉ name)
    (.epfContainerError "Container entry name is invalid")
  let encoded ← encodedName name
  pure (zeros fileAttributesSize ++ encoded ++ zeros 4)

/-- The entries are written one after the other; the table has their offsets. -/
def writeEntries : Bytes → List (Name × Bytes) → Except Failure (Bytes × List (Nat × Nat))
  | stream, [] => .ok (stream, [])
  | stream, (name, payload) :: rest => do
      let attributes ← entryAttributes name
      let (named, attributeOffset) ← writeDocument stream attributes 0 none
      let (written, dataOffset) ← writeDocument named payload defaultBlockSize none
      let (final, table) ← writeEntries written rest
      pure (final, (attributeOffset, dataOffset) :: table)

def packIndex : List (Nat × Nat) → Except Failure Bytes
  | [] => .ok []
  | entry :: rest => do
      let packed ← packIndexEntry entry
      let later ← packIndex rest
      pure (packed ++ later)

/-- The order of `(name, payload)` tuples. -/
def itemLe (first second : Name × Bytes) : Prop :=
  first.1 < second.1 ∨ first.1 = second.1 ∧ ¬second.2 < first.2

instance : DecidableRel itemLe := fun first second =>
  inferInstanceAs (Decidable (first.1 < second.1 ∨ first.1 = second.1 ∧ ¬second.2 < first.2))

/-- `sorted(entries.items())`. -/
def sortedEntries (entries : Dictionary Name Bytes) : List (Name × Bytes) :=
  entries.entries.insertionSort itemLe

def buildContainer (entries : Dictionary Name Bytes) : Except Failure Bytes := do
  let ordered := sortedEntries entries
  require (ordered ≠ []) (.epfContainerError "Container must contain at least one entry")
  require (ordered.map Prod.fst).Nodup
    (.epfContainerError "Container entry names must be unique")
  let header ← packHeader ordered.length
  let (stream, table) ←
    writeEntries (header ++ zeros (blockHeaderSize + defaultBlockSize)) ordered
  let toc ← packIndex table
  let (final, _) ← writeDocument stream toc defaultBlockSize (some indexOffset)
  pure final

/-! ## Reading -/

/-- The signed 32-bit number at a position. -/
def intAt (bytes : Bytes) (position : Nat) : Int :=
  let value := ofLittleEndian ((bytes.drop position).take 4)
  if value < 2 ^ 31 then value else (value : Int) - 2 ^ 32

/-- `payload[start:stop]`, where a negative stop counts from the end. -/
def slice (payload : Bytes) (start : Nat) (stop : Int) : Bytes :=
  (payload.take (if stop < 0 then stop + payload.length else stop).toNat).drop start

def headerShape (header : Bytes) : Prop :=
  header.take 2 = [13, 10] ∧ (header.drop 10).take 1 = [32] ∧ (header.drop 19).take 1 = [32] ∧
    (header.drop 28).take 1 = [32] ∧ header.drop 29 = [13, 10]

instance (header : Bytes) : Decidable (headerShape header) :=
  inferInstanceAs (Decidable (_ ∧ _ ∧ _ ∧ _ ∧ _))

/-- The document size, the block size and the next offset of a block header. -/
def headerSizes (header : Bytes) : Except Failure (Int × Int × Int) :=
  match parseHex ((header.drop 2).take 8), parseHex ((header.drop 11).take 8),
      parseHex ((header.drop 20).take 8) with
  | some documentSize, some currentBlockSize, some nextOffset =>
      .ok (documentSize, currentBlockSize, nextOffset)
  | _, _, _ => .error (.epfContainerError "Container document size is invalid")

def readDocument (payload : Bytes) (offset : Int) : Except Failure Bytes := do
  require (¬(offset < indexOffset ∨ payload.length < offset + blockHeaderSize))
    (.epfContainerError "Container document offset is outside the file")
  let header := (payload.drop offset.toNat).take blockHeaderSize
  require (headerShape header) (.epfContainerError "Container document header is invalid")
  let (documentSize, currentBlockSize, nextOffset) ← headerSizes header
  require (¬(currentBlockSize < documentSize ∨ nextOffset ≠ endMarker))
    (.epfContainerError "Chained container documents are unsupported")
  let start := offset.toNat + blockHeaderSize
  require (start + currentBlockSize ≤ payload.length)
    (.epfContainerError "Container document is truncated")
  pure (slice payload start (start + documentSize))

/-- `decode("utf-16-le").split("\x00", 1)[0]`. -/
def decodedName (attributes : Bytes) : Except Failure Name :=
  match decodeUtf16 (attributes.drop fileAttributesSize) with
  | some decoded => .ok (decoded.takeWhile (· ≠ 0))
  | none => .error (.epfContainerError "Container entry name is invalid")

def readEntries (payload toc : Bytes) :
    Nat → Nat → Dictionary Name Bytes → Except Failure (Dictionary Name Bytes)
  | 0, _, result => .ok result
  | remaining + 1, position, result => do
      require (intAt toc (position + 8) = endMarker)
        (.epfContainerError "Container table marker is invalid")
      let attributes ← readDocument payload (intAt toc position)
      require (fileAttributesSize + 4 ≤ attributes.length)
        (.epfContainerError "Container entry attributes are truncated")
      let name ← decodedName attributes
      require (name ≠ [] ∧ name ∉ result.keys)
        (.epfContainerError "Container entry name is empty or duplicated")
      let document ← readDocument payload (intAt toc (position + 4))
      readEntries payload toc remaining (position + indexEntrySize) (result.set name document)

def readContainer (payload : Bytes) : Except Failure (Dictionary Name Bytes) := do
  require (indexOffset + blockHeaderSize ≤ payload.length)
    (.epfContainerError "Container is truncated")
  let count := intAt payload 8
  require (intAt payload 0 = endMarker ∧ intAt payload 4 = defaultBlockSize ∧ 0 < count ∧
      intAt payload 12 = 0)
    (.epfContainerError "Container header is unsupported")
  let toc ← readDocument payload indexOffset
  require (toc ≠ [] ∧ toc.length % indexEntrySize = 0)
    (.epfContainerError "Container table of contents is invalid")
  let tocCount := toc.length / indexEntrySize
  require ((tocCount : Int) = count ∨ (tocCount : Int) = count + 1)
    (.epfContainerError "Container entry count does not match its bounded TOC")
  readEntries payload toc tocCount 0 .empty

end OnecRuntime.Container

/-!
# Documents

A written document is its block header, its data and the padding of its block. Read at
its offset it gives the data back, whatever stands before and after it; and whatever a
reader returns is a part of the payload.
-/

namespace OnecRuntime.Container

open OnecRuntime.Library

/-- The bytes of a document with a minimal block size. -/
def documentBytes (data : Bytes) (minimumBlockSize : Nat) : Bytes :=
  blockHeader data.length (max minimumBlockSize data.length) ++ data ++
    zeros (max minimumBlockSize data.length - data.length)

@[simp] theorem zeros_length (count : Nat) : (zeros count).length = count := by simp [zeros]

theorem formatHex_eight {number : Nat} (fits : number ≤ endMarker) :
    (formatHex 8 number).length = 8 :=
  formatHex_length (Nat.lt_of_le_of_lt fits (by decide))

theorem blockHeader_length {documentSize currentBlockSize : Nat}
    (document : documentSize ≤ endMarker) (block : currentBlockSize ≤ endMarker) :
    (blockHeader documentSize currentBlockSize).length = blockHeaderSize := by
  simp [blockHeader, blockHeaderSize, formatHex_eight document, formatHex_eight block,
    formatHex_eight (Nat.le_refl endMarker)]

theorem documentBytes_length {data : Bytes} {minimumBlockSize : Nat}
    (fits : max minimumBlockSize data.length ≤ endMarker) :
    (documentBytes data minimumBlockSize).length =
      blockHeaderSize + max minimumBlockSize data.length := by
  have document := Nat.le_trans (Nat.le_max_right minimumBlockSize data.length) fits
  unfold documentBytes
  rw [List.length_append, List.length_append, blockHeader_length document fits, zeros_length]
  omega

/-- What a written document does to the stream. -/
theorem writeDocument_eq_ok {stream data final : Bytes} {minimumBlockSize position : Nat}
    {offset : Option Nat} :
    writeDocument stream data minimumBlockSize offset = .ok (final, position) ↔
      max minimumBlockSize data.length ≤ endMarker ∧ position = offset.getD stream.length ∧
        final = writeAt stream position (documentBytes data minimumBlockSize) := by
  constructor
  · intro written
    obtain ⟨_, fits, written⟩ := bind_eq_ok.1 written
    obtain ⟨_, _, written⟩ := bind_eq_ok.1 written
    cases written
    exact ⟨require_eq_ok.1 fits, rfl, rfl⟩
  · rintro ⟨fits, rfl, rfl⟩
    have document := Nat.le_trans (Nat.le_max_right minimumBlockSize data.length) fits
    exact bind_eq_ok.2 ⟨(), require_eq_ok.2 fits, bind_eq_ok.2
      ⟨(), require_eq_ok.2 (blockHeader_length document fits), rfl⟩⟩

theorem writeAt_end (stream data : Bytes) : writeAt stream stream.length data = stream ++ data := by
  simp [writeAt]

/-- A document written at the end of the stream. -/
theorem writeDocument_end {stream data final : Bytes} {minimumBlockSize position : Nat} :
    writeDocument stream data minimumBlockSize none = .ok (final, position) ↔
      max minimumBlockSize data.length ≤ endMarker ∧ position = stream.length ∧
        final = stream ++ documentBytes data minimumBlockSize := by
  rw [writeDocument_eq_ok]
  constructor
  · rintro ⟨fits, rfl, rfl⟩
    exact ⟨fits, rfl, writeAt_end _ _⟩
  · rintro ⟨fits, rfl, rfl⟩
    exact ⟨fits, rfl, (writeAt_end _ _).symm⟩

/-! ## Reading a document back -/

/-- The fields of a header whose three numbers have eight digits each. -/
theorem header_fields {first second third : Bytes} (firstEight : first.length = 8)
    (secondEight : second.length = 8) (thirdEight : third.length = 8) :
    headerShape ([13, 10] ++ first ++ [32] ++ second ++ [32] ++ third ++ [32, 13, 10]) ∧
      (([13, 10] ++ first ++ [32] ++ second ++ [32] ++ third ++ [32, 13, 10]).drop 2).take 8 =
        first ∧
      (([13, 10] ++ first ++ [32] ++ second ++ [32] ++ third ++ [32, 13, 10]).drop 11).take 8 =
        second ∧
      (([13, 10] ++ first ++ [32] ++ second ++ [32] ++ third ++ [32, 13, 10]).drop 20).take 8 =
        third := by
  simp (disch := omega) [headerShape, List.drop_append, List.take_append, firstEight, secondEight,
    thirdEight, List.drop_of_length_le]

theorem blockHeader_shape {documentSize currentBlockSize : Nat}
    (document : documentSize ≤ endMarker) (block : currentBlockSize ≤ endMarker) :
    headerShape (blockHeader documentSize currentBlockSize) ∧
      headerSizes (blockHeader documentSize currentBlockSize) =
        .ok ((documentSize : Int), (currentBlockSize : Int), (endMarker : Int)) := by
  obtain ⟨shape, size, current, next⟩ := header_fields (formatHex_eight document)
    (formatHex_eight block) (formatHex_eight (Nat.le_refl endMarker))
  refine ⟨shape, ?_⟩
  unfold headerSizes blockHeader
  rw [size, current, next, parseHex_formatHex (by decide), parseHex_formatHex (by decide),
    parseHex_formatHex (by decide)]

/-- A slice with a non-negative stop. -/
theorem slice_nat (payload : Bytes) (start size : Nat) :
    slice payload start ((start : Int) + (size : Int)) = (payload.drop start).take size := by
  unfold slice
  have stop : ¬((start : Int) + (size : Int) < 0) := by omega
  have total : ((start : Int) + (size : Int)).toNat = start + size := by omega
  rw [if_neg stop, total, List.drop_take, Nat.add_sub_cancel_left]

/-- A document that stands in a payload is read back at its offset. -/
theorem readDocument_written {before data after : Bytes} {minimumBlockSize : Nat}
    (fits : max minimumBlockSize data.length ≤ endMarker) (inside : indexOffset ≤ before.length) :
    readDocument (before ++ documentBytes data minimumBlockSize ++ after) before.length =
      .ok data := by
  have document := Nat.le_trans (Nat.le_max_right minimumBlockSize data.length) fits
  have size := documentBytes_length fits
  have header := blockHeader_length document fits
  obtain ⟨shape, sizes⟩ := blockHeader_shape document fits
  have taken : ((before ++ documentBytes data minimumBlockSize ++ after).drop
      (before.length : Int).toNat).take blockHeaderSize =
        blockHeader data.length (max minimumBlockSize data.length) := by
    rw [Int.toNat_natCast, List.append_assoc, List.drop_left, documentBytes, List.append_assoc,
      List.append_assoc, ← header, List.take_left]
  refine bind_eq_ok.2 ⟨(), require_eq_ok.2 ?_, bind_eq_ok.2 ⟨(), require_eq_ok.2 ?_,
    bind_eq_ok.2 ⟨((data.length : Int), ((max minimumBlockSize data.length : Nat) : Int),
      (endMarker : Int)), ?_, bind_eq_ok.2 ⟨(), require_eq_ok.2 ?_, bind_eq_ok.2
      ⟨(), require_eq_ok.2 ?_, pure_eq_ok.2 ?_⟩⟩⟩⟩⟩
  · simp only [List.length_append, size]
    omega
  · rw [taken]
    exact shape
  · rw [taken]
    exact sizes
  · simp only [not_or, not_lt, not_not]
    exact ⟨Int.ofNat_le.2 (Nat.le_max_right _ _), trivial⟩
  · simp only [List.length_append, size, Int.toNat_natCast]
    omega
  · rw [Int.toNat_natCast, slice_nat, List.append_assoc, documentBytes,
      ← header, ← List.drop_drop, List.drop_left, List.append_assoc, List.append_assoc,
      List.drop_left, List.take_left]

/-! ## Nothing outside the payload -/

/-- A document is a part of a payload. -/
def Inside (payload document : Bytes) : Prop :=
  ∃ start, indexOffset + blockHeaderSize ≤ start ∧ start + document.length ≤ payload.length ∧
    document = (payload.drop start).take document.length

theorem slice_inside {payload : Bytes} {start : Nat} (low : indexOffset + blockHeaderSize ≤ start)
    (high : start ≤ payload.length) (stop : Int) : Inside payload (slice payload start stop) := by
  refine ⟨start, low, ?_, ?_⟩
  · unfold slice
    simp only [List.length_drop, List.length_take]
    omega
  · unfold slice
    rw [List.drop_take, List.length_take, List.length_drop]
    rcases Nat.le_total ((if stop < 0 then stop + payload.length else stop).toNat - start)
      (payload.length - start) with small | large
    · rw [Nat.min_eq_left small]
    · rw [Nat.min_eq_right large, List.take_of_length_le, List.take_of_length_le] <;>
        simp only [List.length_drop] <;> omega

theorem readDocument_inside {payload document : Bytes} {offset : Int}
    (read : readDocument payload offset = .ok document) : Inside payload document := by
  obtain ⟨_, bounds, read⟩ := bind_eq_ok.1 read
  obtain ⟨_, _, read⟩ := bind_eq_ok.1 read
  obtain ⟨_, _, read⟩ := bind_eq_ok.1 read
  obtain ⟨_, _, read⟩ := bind_eq_ok.1 read
  obtain ⟨_, _, read⟩ := bind_eq_ok.1 read
  cases read
  have bounds := require_eq_ok.1 bounds
  simp only [not_or, not_lt] at bounds
  apply slice_inside <;> omega

end OnecRuntime.Container
