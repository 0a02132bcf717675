import OnecRuntime.Tables.Cells

/-!
# The compact table reader

The transferred Base64 is decoded into lines, the first line is the schema and each other
line is a row. The schema and the reference policy are checked against each other before
a row is read, and every cell is checked against the kind of its column.
-/

namespace OnecRuntime.Tables

open OnecRuntime.Library

inductive ReferenceMode where
  | presentation
  | uuid
  | both
deriving DecidableEq, Repr

/-- The messages of `TableMaterializationError`, with what they are about. -/
inductive TableMaterializationError where
  | message (content : String)
  | named (content : String) (name : CodeText)
  | numbered (before : String) (number : Nat) (after : String)
  | invalidCell (kind : CodeText) (row : Nat) (column : CodeText)
  | invalidReference (mode : ReferenceMode) (row : Nat) (column : CodeText)
deriving DecidableEq, Repr

abbrev Decoding := Except TableMaterializationError

def ReferenceMode.value : ReferenceMode → String
  | .presentation => "presentation"
  | .uuid => "uuid"
  | .both => "both"

/-- `ReferenceMode(value)`. -/
def referenceMode (value : CodeText) : Option ReferenceMode :=
  if value = text "presentation" then some .presentation
  else if value = text "uuid" then some .uuid
  else if value = text "both" then some .both
  else none

structure ReferencePolicy where
  refs : CodeText
  refColumns : Dictionary CodeText CodeText
  uuidSuffix : CodeText

structure CompactTableSchema where
  version : Int
  columns : List CodeText
  kinds : List CodeText
  referenceModes : Dictionary CodeText ReferenceMode

def schemaKeys : List CodeText :=
  [text "version", text "columns", text "kinds", text "reference_modes"]

def scalarKinds : List CodeText :=
  [text "string", text "nullable_string", text "boolean", text "integer", text "number",
    text "datetime", text "uuid"]

/-! ## Lines -/

def isAsciiWhitespace (char : Char) : Bool :=
  char ∈ [' ', '\t', '\r', '\n', '\x0c', '\x0b']

/-- `payload.decode("utf-8-sig")`. -/
def decodeUtf8Sig (payload : List UInt8) : Option (List Char) :=
  (ByteArray.mk payload.toArray).utf8Decode?.map fun chars =>
    match chars.toList with
    | '\uFEFF' :: rest => rest
    | content => content

instance charsLawful : LawfulBEq (List Char) := inferInstance

/-- `_read_lines`. -/
def readLines (payload : List UInt8) : Decoding (List (List Char)) := do
  require (payload ≠ []) (.message "compact table payload is empty")
  match decodeUtf8Sig payload with
  | none => .error (.message "compact table payload is not valid UTF-8")
  | some content => do
      let lines := splitLines content
      require (lines ≠ []) (.message "compact table payload is empty")
      require ([] ∉ lines) (.message "compact table payload contains an empty line")
      pure lines

/-- `_load_json`. -/
def loadJson (line : List Char) (lineNumber : Nat) : Decoding Json :=
  match loads line with
  | some value => .ok value
  | none => .error (.numbered "compact table line " lineNumber " is not valid JSON")

/-! ## Schema -/

/-- The strings of a list that holds nothing else. -/
def strings : List Json → Option (List CodeText)
  | [] => some []
  | .string content :: rest => (strings rest).map (content :: ·)
  | _ :: _ => none

def stringList : Option Json → Option (List CodeText)
  | some (.array items) => strings items
  | _ => none

def readReferenceModes (columns kinds : List CodeText) :
    List (CodeText × Json) → Dictionary CodeText ReferenceMode →
      Decoding (Dictionary CodeText ReferenceMode)
  | [], modes => .ok modes
  | (name, .string rawMode) :: rest, modes => do
      require (name ∈ columns) (.message "compact table schema reference column is invalid")
      match referenceMode rawMode with
      | none =>
          .error (.named "compact table schema reference mode is invalid for column " name)
      | some mode => do
          require (kinds[columns.idxOf name]? = some (text mode.value))
            (.named "compact table schema reference kind is invalid for column " name)
          readReferenceModes columns kinds rest (modes.set name mode)
  | _ :: _, _ => .error (.message "compact table schema reference column is invalid")

/-- Every column without a mode has a scalar kind. -/
def checkScalarKinds (modes : Dictionary CodeText ReferenceMode) :
    List (CodeText × CodeText) → Decoding Unit
  | [] => .ok ()
  | (name, kind) :: rest => do
      require (name ∈ modes.keys ∨ kind ∈ scalarKinds ∧
          kind ∉ [text ReferenceMode.presentation.value, text ReferenceMode.both.value])
        (.named "compact table schema reference mode is missing for column " name)
      checkScalarKinds modes rest

/-- `_read_schema`. -/
def readSchema : Json → Decoding CompactTableSchema
  | .object members => do
      let fields := Dictionary.ofItems members
      require ((∀ key ∈ fields.keys, key ∈ schemaKeys) ∧ ∀ key ∈ schemaKeys, key ∈ fields.keys)
        (.message "compact table schema fields are invalid")
      match fields.get? (text "version") with
      | some (.number (.integer 1)) => do
          match stringList (fields.get? (text "columns")) with
          | none => .error (.message "compact table schema columns are invalid")
          | some columns => do
              require (columns ≠ [] ∧ [] ∉ columns)
                (.message "compact table schema columns are invalid")
              require columns.Nodup (.message "compact table schema has a duplicate column")
              match stringList (fields.get? (text "kinds")) with
              | none => .error (.message "compact table schema kinds are invalid")
              | some kinds => do
                  require (kinds.length = columns.length)
                    (.message "compact table schema kinds are invalid")
                  match fields.get? (text "reference_modes") with
                  | some (.object rawModes) => do
                      let modes ← readReferenceModes columns kinds
                        (Dictionary.ofItems rawModes).entries .empty
                      checkScalarKinds modes (columns.zip kinds)
                      pure ⟨1, columns, kinds, modes⟩
                  | _ => .error (.message "compact table schema reference modes are invalid")
      | _ => .error (.message "compact table schema version is unsupported")
  | _ => .error (.message "compact table schema fields are invalid")

/-! ## Policy -/

/-- `ReferenceMode(overrides.get(name, default))`. -/
def requestedOr (policy : ReferencePolicy) (default : ReferenceMode) (name : CodeText) :
    Option ReferenceMode :=
  match policy.refColumns.get? name with
  | some mode => referenceMode mode
  | none => some default

def bindModes (columns : List CodeText) (policy : ReferencePolicy) (default : ReferenceMode) :
    List (CodeText × ReferenceMode) → Dictionary CodeText ReferenceMode →
      Decoding (Dictionary CodeText ReferenceMode)
  | [], effective => .ok effective
  | (name, encoded) :: rest, effective => do
      match requestedOr policy default name with
      | none => .error (.named "unknown reference mode for column " name)
      | some requested => do
          require (requested = encoded) (.named "reference mode mismatch for column " name)
          require (¬(requested = .both ∧ name ++ policy.uuidSuffix ∈ columns))
            (.named "generated UUID column collision: " (name ++ policy.uuidSuffix))
          bindModes columns policy default rest (effective.set name requested)

/-- `_bind_policy`. -/
def bindPolicy (schema : CompactTableSchema) (policy : ReferencePolicy) :
    Decoding (Dictionary CodeText ReferenceMode) := do
  require (policy.uuidSuffix ≠ []) (.message "UUID suffix must not be empty")
  match referenceMode policy.refs with
  | none => .error (.message "unknown reference mode")
  | some default => do
      require (∀ name ∈ policy.refColumns.keys, name ∈ schema.referenceModes.keys)
        (.message "unknown reference column: ")
      bindModes schema.columns policy default schema.referenceModes.entries .empty

/-! ## Cells -/

inductive Decoded where
  | string (content : CodeText)
  | boolean (value : Bool)
  | integer (value : Int)
  /-- The number before it is rounded to a double. -/
  | number (value : ℚ)
  | datetime (moment : Moment)
  | uuid (identifier : Uuid)
  | pair (presentation : CodeText) (identifier : Uuid)
deriving DecidableEq

/-- Whether a number is rounded to a finite double. -/
def isFinite (value : ℚ) : Prop := |value| < 2 ^ 1024 - 2 ^ 970

instance (value : ℚ) : Decidable (isFinite value) :=
  inferInstanceAs (Decidable (_ < _))

/-- A converted value, or the error of the cell. -/
def converted {α : Type} (invalid : TableMaterializationError) (wrap : α → Decoded) :
    Option α → Decoding (Option Decoded)
  | some value => .ok (some (wrap value))
  | none => .error invalid

/-- `_decode_scalar`. -/
def decodeScalar (kind : CodeText) (rowNumber : Nat) (column : CodeText) :
    Json → Decoding (Option Decoded)
  | .null => .ok none
  | value =>
      let invalid := .invalidCell kind rowNumber column
      if kind = text "string" ∨ kind = text "nullable_string" then
        match value with
        | .string content => .ok (some (.string content))
        | _ => .error invalid
      else if kind = text "boolean" then
        match value with
        | .boolean value => .ok (some (.boolean value))
        | _ => .error invalid
      else if kind = text "integer" then
        match value with
        | .number (.integer value) =>
            if -2 ^ 63 ≤ value ∧ value < 2 ^ 63 then .ok (some (.integer value)) else .error invalid
        | _ => .error invalid
      else if kind = text "number" then
        match value with
        | .number value =>
            if isFinite value.value then .ok (some (.number value.value)) else .error invalid
        | _ => .error invalid
      else if kind = text "datetime" then
        match value with
        | .string content => converted invalid .datetime (fromIsoFormat content)
        | _ => .error invalid
      else if kind = text "uuid" then
        match value with
        | .string content => converted invalid .uuid (parseUuid content)
        | _ => .error invalid
      else .error invalid

/-- `_decode_reference`. -/
def decodeReference (mode : ReferenceMode) (rowNumber : Nat) (column : CodeText) :
    Json → Decoding (Option Decoded)
  | .null => .ok none
  | value =>
      let invalid := .invalidReference mode rowNumber column
      match mode with
      | .presentation =>
          match value with
          | .string content => .ok (some (.string content))
          | _ => .error invalid
      | .uuid =>
          match value with
          | .string content => converted invalid .uuid (parseUuid content)
          | _ => .error invalid
      | .both =>
          match value with
          | .array [.string presentation, .string identifier] =>
              converted invalid (.pair presentation) (parseUuid identifier)
          | _ => .error invalid

/-- A column as the rows are read: its name, its kind and its mode. -/
structure ReadColumn where
  name : CodeText
  kind : CodeText
  mode : Option ReferenceMode

def decodeCell (column : ReadColumn) (rowNumber : Nat) (value : Json) :
    Decoding (Option Decoded) :=
  match column.mode with
  | none => decodeScalar column.kind rowNumber column.name value
  | some mode => decodeReference mode rowNumber column.name value

def decodeCells (rowNumber : Nat) : List ReadColumn → List Json → Decoding (List (Option Decoded))
  | column :: columns, value :: values => do
      let decoded ← decodeCell column rowNumber value
      let others ← decodeCells rowNumber columns values
      pure (decoded :: others)
  | _, _ => .ok []

/-- The rows of the lines after the schema. -/
def decodeRows (columns : List ReadColumn) :
    Nat → List (List Char) → Decoding (List (List (Option Decoded)))
  | _, [] => .ok []
  | rowNumber, line :: rest => do
      let rawRow ← loadJson line (rowNumber + 1)
      match rawRow with
      | .array values => do
          require (values.length = columns.length)
            (.numbered "compact table row width mismatch at row " rowNumber "")
          let decoded ← decodeCells rowNumber columns values
          let others ← decodeRows columns (rowNumber + 1) rest
          pure (decoded :: others)
      | _ => .error (.numbered "compact table row " rowNumber " is invalid")

/-! ## Frame -/

/-- `pd.Series`: its type and its values, missing ones among them. -/
structure Series where
  dtype : String
  values : List (Option Decoded)
deriving DecidableEq

structure Frame where
  series : Dictionary CodeText Series
  compactTableSchema : CompactTableSchema
  referenceModes : Dictionary CodeText ReferenceMode

def presentationOf : Option Decoded → Option Decoded
  | some (.pair presentation _) => some (.string presentation)
  | value => value

def identifierOf : Option Decoded → Option Decoded
  | some (.pair _ identifier) => some (.uuid identifier)
  | value => value

/-- The digits of a date and a time as one number. -/
def Moment.stamp (moment : Moment) : Nat :=
  ((((moment.year * 100 + moment.month) * 100 + moment.day) * 100 + moment.hour) * 100 +
    moment.minute) * 100 + moment.second

/-- Whether a date is in the range of nanoseconds since 1970 in 64 bits. -/
def inNanoseconds : Option Decoded → Bool
  | some (.datetime moment) => 16770921001244 ≤ moment.stamp && moment.stamp ≤ 22620411234716
  | _ => true

/-- `_scalar_series`. -/
def scalarDtype (kind : CodeText) (values : List (Option Decoded)) : String :=
  if kind = text "string" ∨ kind = text "nullable_string" then "string"
  else if kind = text "boolean" then "boolean"
  else if kind = text "integer" then "Int64"
  else if kind = text "number" then "Float64"
  else if kind = text "datetime" then
    if values.all inNanoseconds then "datetime64[ns]" else "datetime64[us]"
  else "object"

/-- The series of a column with the values of its cells. -/
def columnSeries (uuidSuffix : CodeText) (column : ReadColumn) (values : List (Option Decoded)) :
    List (CodeText × Series) :=
  match column.mode with
  | some .both =>
      [(column.name, ⟨"string", values.map presentationOf⟩),
        (column.name ++ uuidSuffix, ⟨"object", values.map identifierOf⟩)]
  | some .presentation => [(column.name, ⟨"string", values⟩)]
  | some .uuid => [(column.name, ⟨"object", values⟩)]
  | none => [(column.name, ⟨scalarDtype column.kind values, values⟩)]

/-- The values of a column, row by row. -/
def columnValues (rows : List (List (Option Decoded))) (ordinal : Nat) : List (Option Decoded) :=
  rows.map fun row => (row[ordinal]?).getD none

def frameSeries (uuidSuffix : CodeText) (rows : List (List (Option Decoded))) :
    Nat → List ReadColumn → List (CodeText × Series)
  | _, [] => []
  | ordinal, column :: rest =>
      columnSeries uuidSuffix column (columnValues rows ordinal) ++
        frameSeries uuidSuffix rows (ordinal + 1) rest

def readColumns (schema : CompactTableSchema) : List ReadColumn :=
  (schema.columns.zip schema.kinds).map fun (name, kind) =>
    ⟨name, kind, schema.referenceModes.get? name⟩

/-- `decode_compact_table_payload`. -/
def decodeCompactTablePayload (payload : List UInt8) (policy : ReferencePolicy) : Decoding Frame := do
  let lines ← readLines payload
  match lines with
  | [] => .error (.message "compact table payload is empty")
  | first :: rest => do
      let schemaValue ← loadJson first 1
      let schema ← readSchema schemaValue
      let effectiveModes ← bindPolicy schema policy
      let rows ← decodeRows (readColumns schema) 1 rest
      pure ⟨.ofItems (frameSeries policy.uuidSuffix rows 0 (readColumns schema)), schema,
        effectiveModes⟩

/-- `decode_compact_table_base64`. -/
def decodeCompactTableBase64 (content : List Char) (policy : ReferencePolicy) : Decoding Frame :=
  match decodeBase64 (content.filter fun char => !isAsciiWhitespace char) with
  | some payload => decodeCompactTablePayload payload policy
  | none => .error (.message "compact table content is not valid Base64")

end OnecRuntime.Tables
