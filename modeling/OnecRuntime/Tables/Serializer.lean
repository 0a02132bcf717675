import OnecRuntime.Tables.Cells

/-!
# The compact table writer

The server module of the extension: the kind of each column is what its types declare or
what its first cells are, the schema and the rows are written one to a line, and the lines
are transferred as Base64. A private value of a Worker denies the access to the table.
-/

namespace OnecRuntime.Tables

open OnecRuntime.Library

inductive RaisedException where
  | message (content : String)
  | column (content : String) (name : CodeText)
deriving DecidableEq, Repr

abbrev Server := Except RaisedException

/-- What the platform is asked for: the JSON writer emits one document for a value, if
anything, and its Base64 may be broken into lines. -/
structure Platform where
  writeJson : Json → Option (List Char)
  document : ∀ {value input}, writeJson value = some input → Document value input
  base64String : List UInt8 → List Char
  unbroken : ∀ bytes,
    (base64String bytes).filter (fun char => char ≠ '\r' ∧ char ≠ '\n') = encodeBase64 bytes

structure ColumnKind where
  kind : String
  reference : Bool
deriving DecidableEq, Repr

/-- The kind of one declared type. -/
def declaredTypeKind : DeclaredType → Option ColumnKind
  | .null => none
  | .string => some ⟨"nullable_string", false⟩
  | .boolean => some ⟨"boolean", false⟩
  | .number => some ⟨"number", false⟩
  | .date => some ⟨"datetime", false⟩
  | .uniqueIdentifier => some ⟨"uuid", false⟩
  | .enumeration => some ⟨"nullable_string", false⟩
  | .metadataObject => some ⟨"reference", true⟩
  | .withoutMetadata => none

/-- `ОпределитьОбъявленныйКомпактныйВид` after some of the types. -/
def declaredCompactKind : List DeclaredType → Option ColumnKind → ColumnKind
  | [], found => found.getD ⟨"", false⟩
  | type :: rest, found =>
      if type = .null then declaredCompactKind rest found
      else
        match declaredTypeKind type with
        | none => ⟨"", false⟩
        | some current =>
            if found = none ∨ found = some current then declaredCompactKind rest (some current)
            else ⟨"", false⟩

/-- `СовместимыКомпактныеВиды`. -/
def compatibleCompactKinds (declared observed : String) : Bool :=
  declared = observed || (declared = "nullable_string" && observed = "string")

/-- `ЭтоПриватноеЗначениеWorker`. -/
def isWorkerPrivate : Value → Bool
  | .foreign workerPrivate => workerPrivate
  | _ => false

/-- `КомпактныйВидЗначения`. -/
def compactKindOfValue : Value → Server String
  | .undefined => .ok ""
  | .null => .ok ""
  | .reference .. => .ok "reference"
  | .string _ => .ok "string"
  | .boolean _ => .ok "boolean"
  | .number _ => .ok "number"
  | .date _ => .ok "datetime"
  | .uniqueIdentifier _ => .ok "uuid"
  | .enumeration .. => .ok "nullable_string"
  | .foreign _ => .error (.message "Неподдерживаемый тип компактной таблицы: ")

def incompatibleType (name : CodeText) : RaisedException :=
  .column "Несовместимый тип значения компактной колонки: " name

/-- The kind of a column after some of its cells; none when the access is denied. -/
def observeCells (name : CodeText) : List Value → ColumnKind → Server (Option ColumnKind)
  | [], found => .ok (some found)
  | value :: rest, found =>
      if isWorkerPrivate value then .ok none
      else do
        let observed ← compactKindOfValue value
        if found.kind = "" ∧ observed ≠ "" then
          observeCells name rest ⟨observed, observed = "reference"⟩
        else if found.kind ≠ "" ∧ observed ≠ "" ∧ ¬compatibleCompactKinds found.kind observed then
          .error (incompatibleType name)
        else observeCells name rest found

def cell (index : Nat) (row : List Value) : Value := row.getD index .undefined

/-- `ОпределитьКомпактнуюСхемуКолонок`, from some column on. -/
def detectColumnKinds (page : List (List Value)) :
    Nat → List Column → Server (Option (List ColumnKind))
  | _, [] => .ok (some [])
  | index, column :: rest => do
      let found ← observeCells column.name (page.map (cell index))
        (declaredCompactKind column.types none)
      match found with
      | none => pure none
      | some found =>
          let others ← detectColumnKinds page (index + 1) rest
          match others with
          | none => pure none
          | some others =>
              pure (some (⟨if found.kind = "" then "string" else found.kind, found.reference⟩ ::
                others))

/-- `ПроверитьРежимСсылок`. -/
def checkReferenceMode (mode : String) : Server Unit :=
  require (mode = "presentation" ∨ mode = "uuid" ∨ mode = "both") (.message "Неизвестный режим ссылок")

/-- The kinds of the schema, with the modes of the reference columns in their place, and
these modes. -/
def bindReferenceModes (mode : String) (overrides : Dictionary CodeText String) :
    List (Column × ColumnKind) → Server (List String × List (CodeText × String))
  | [] => .ok ([], [])
  | (column, found) :: rest =>
      if found.reference then do
        let selected := (overrides.get? column.name).getD mode
        checkReferenceMode selected
        let (kinds, modes) ← bindReferenceModes mode overrides rest
        pure (selected :: kinds, (column.name, selected) :: modes)
      else do
        require (overrides.get? column.name = none)
          (.column "Режим ссылки задан для обычной колонки " column.name)
        let (kinds, modes) ← bindReferenceModes mode overrides rest
        pure ((if found.kind = "" then "string" else found.kind) :: kinds, modes)

/-- What `ЗаписатьJSON` takes without a conversion. -/
def jsonValue : Value → Server Json
  | .undefined => .ok .null
  | .null => .ok .null
  | .string content => .ok (.string content)
  | .boolean value => .ok (.boolean value)
  | .number value => .ok (.number value.val)
  | _ => .error (.message "ЗаписатьJSON")

/-- `КомпактноеЗначение`; the conversions of other values are left out, since a row with a
value of another kind is refused before. -/
def compactValue (kind : String) (reference : Bool) : Value → Server Json
  | .undefined => .ok .null
  | .null => .ok .null
  | value =>
      if reference then
        match value with
        | .reference false _ _ => .ok .null
        | .reference true presentation identifier =>
            if kind = "presentation" then .ok (.string presentation)
            else if kind = "uuid" then .ok (.string (uuidText identifier))
            else if kind = "both" then
              .ok (.array [.string presentation, .string (uuidText identifier)])
            else jsonValue value
        | _ => .error (.message "УникальныйИдентификатор")
      else if kind = "nullable_string" then
        match value with
        | .string content => .ok (.string content)
        | .enumeration filled presentation => .ok (.string (if filled then presentation else []))
        | _ => .error (.message "Строка")
      else if kind = "datetime" then
        match value with
        | .date moment => .ok (.string (xmlString moment.val))
        | _ => .error (.message "XMLСтрока")
      else if kind = "uuid" then
        match value with
        | .uniqueIdentifier identifier => .ok (.string (uuidText identifier))
        | _ => .error (.message "Строка")
      else jsonValue value

/-- A column as the rows are written: its name, what was found and the kind of the schema. -/
structure WrittenColumn where
  name : CodeText
  found : ColumnKind
  kind : String

/-- The cells of a row; none when the access is denied. -/
def serializeRow : List WrittenColumn → List Value → Server (Option (List Json))
  | column :: columns, value :: cells =>
      if isWorkerPrivate value then .ok none
      else do
        let observed ← compactKindOfValue value
        require (¬(observed ≠ "" ∧ ¬compatibleCompactKinds column.found.kind observed))
          (incompatibleType column.name)
        let item ← compactValue column.kind column.found.reference value
        let items ← serializeRow columns cells
        pure (items.map (item :: ·))
  | _, _ => .ok (some [])

def utf8Bytes (input : List Char) : List UInt8 := (String.ofList input).toUTF8.data.toList

def lineSize (line : List Char) : Nat := (utf8Bytes (line ++ ['\n'])).length

variable (platform : Platform)

/-- `ВJSON`. -/
def toJson (value : Json) : Server (List Char) :=
  match platform.writeJson value with
  | some line => .ok line
  | none => .error (.message "ЗаписатьJSON")

/-- The lines of the rows after some rows of some size. -/
def serializeRows (columns : List WrittenColumn) (maximumRows maximumBytes : Int) :
    Nat → Nat → List (List Value) → Server (Option (List (List Char)))
  | _, _, [] => .ok (some [])
  | count, size, row :: rest => do
      require (¬(0 < maximumRows ∧ maximumRows ≤ count))
        (.message "Превышен лимит строк компактной таблицы")
      let items ← serializeRow columns row
      match items with
      | none => pure none
      | some items =>
          let line ← toJson platform (.array items)
          require (¬(0 < maximumBytes ∧ maximumBytes < size + lineSize line))
            (.message "Превышен лимит байтов компактной таблицы")
          let lines ← serializeRows columns maximumRows maximumBytes (count + 1)
            (size + lineSize line) rest
          pure (lines.map (line :: ·))

structure Payload where
  base64 : List Char
  size : Nat

/-- `Base64БезРазрывов`. -/
def unbrokenBase64 (bytes : List UInt8) : List Char :=
  (platform.base64String bytes).filter (fun char => char ≠ '\r' ∧ char ≠ '\n')

/-- `ЗавершитьКомпактнуюМатериализацию`. -/
def finishMaterialization (lines : List (List Char)) : Payload :=
  let content := lines.flatMap (· ++ ['\n'])
  ⟨unbrokenBase64 platform (utf8Bytes content), (utf8Bytes content).length⟩

def schemaJson (columns : List Column) (kinds : List String) (modes : List (CodeText × String)) : Json :=
  .object [
    (text "version", .number (.integer 1)),
    (text "columns", .array (columns.map fun column => .string column.name)),
    (text "kinds", .array (kinds.map fun kind => .string (text kind))),
    (text "reference_modes", .object (modes.map fun (name, mode) => (name, .string (text mode))))]

def writtenColumns (columns : List Column) (found : List ColumnKind) (kinds : List String) :
    List WrittenColumn :=
  (columns.zip (found.zip kinds)).map fun (column, found, kind) => ⟨column.name, found, kind⟩

/-- The rows that are looked at for the kinds of the columns. -/
def pageSize (maximumRows : Int) : Nat := if maximumRows ≤ 0 then 1 else maximumRows.toNat

/-- `СериализоватьКомпактнуюТаблицу` of a value table; none when the access is denied. -/
def serializeCompactTable (table : ValueTable) (mode : String) (overrides : Dictionary CodeText String)
    (maximumRows maximumBytes : Int) : Server (Option Payload) := do
  require (¬(maximumRows < 0 ∨ maximumBytes < 0))
    (.message "Лимиты компактной таблицы не могут быть отрицательными")
  checkReferenceMode mode
  let page := table.rows.take (pageSize maximumRows)
  let detected ← detectColumnKinds page 0 table.columns
  match detected with
  | none => pure none
  | some found => do
      let (kinds, modes) ← bindReferenceModes mode overrides (table.columns.zip found)
      let schema ← toJson platform (schemaJson table.columns kinds modes)
      require (¬(0 < maximumBytes ∧ maximumBytes < lineSize schema))
        (.message "Превышен лимит байтов компактной таблицы")
      let rows ← serializeRows platform (writtenColumns table.columns found kinds) maximumRows
        maximumBytes 0 (lineSize schema) table.rows
      pure (rows.map fun rows => finishMaterialization platform (schema :: rows))

end OnecRuntime.Tables

/-!
# A writer without white space

A writer of JSON texts that keeps what the platform promises: it writes texts without
control characters and the version of the schema, on one line and without blanks.
-/

namespace OnecRuntime.Tables

open OnecRuntime.Library

/-- The character of a code point that is none of a surrogate pair. -/
def pointChar (value : CodePoint) : Option Char :=
  if value.val < 0xD800 ∨ 0xDFFF < value.val then some (Char.ofNat value.val) else none

def writeText : CodeText → Option (List Char)
  | [] => some []
  | value :: rest =>
      match pointChar value, writeText rest with
      | some char, some body =>
          if char = '"' ∨ char = '\\' then some ('\\' :: char :: body)
          else if Escaped char then none
          else some (char :: body)
      | _, _ => none

mutual

def writeValue : Nat → Json → Option (List Char)
  | 0, _ => none
  | _, .null => some ['n', 'u', 'l', 'l']
  | _, .boolean true => some ['t', 'r', 'u', 'e']
  | _, .boolean false => some ['f', 'a', 'l', 's', 'e']
  | _, .number value => if value = .integer 1 then some ['1'] else none
  | _, .string content => (writeText content).map fun body => '"' :: (body ++ ['"'])
  | _, .array [] => some ['[', ']']
  | fuel + 1, .array items => (writeItems fuel items).map fun inner => '[' :: (inner ++ [']'])
  | _, .object [] => some ['{', '}']
  | fuel + 1, .object members =>
      (writeMembers fuel members).map fun inner => '{' :: (inner ++ ['}'])

def writeItems : Nat → List Json → Option (List Char)
  | 0, _ => none
  | _, [] => none
  | fuel + 1, item :: rest =>
      match writeValue fuel item with
      | some value =>
          if rest = [] then some value
          else (writeItems fuel rest).map fun others => value ++ ',' :: others
      | none => none

def writeMembers : Nat → List (CodeText × Json) → Option (List Char)
  | 0, _ => none
  | _, [] => none
  | fuel + 1, (name, value) :: rest =>
      match writeText name, writeValue fuel value with
      | some body, some content =>
          if rest = [] then some ('"' :: (body ++ '"' :: ':' :: content))
          else
            (writeMembers fuel rest).map fun others =>
              ('"' :: (body ++ '"' :: ':' :: content)) ++ ',' :: others
      | _, _ => none

end

theorem point_pointChar {value : CodePoint} {char : Char} (found : pointChar value = some char) :
    point char = value := by
  unfold pointChar at found
  split at found
  · next valid =>
      cases found
      have bound := value.isLt
      apply Fin.ext
      have scalar : value.val.isValidChar := by
        unfold Nat.isValidChar
        omega
      change (Char.ofNat value.val).toNat = value.val
      rw [Char.ofNat, dif_pos scalar]
      rfl
  · cases found

theorem writeText_written {content : CodeText} {body : List Char}
    (written : writeText content = some body) : WrittenText content body := by
  induction content generalizing body with
  | nil =>
      cases written
      exact .nil
  | cons value rest hypothesis =>
      simp only [writeText] at written
      split at written
      · next char later found tail =>
          rw [← point_pointChar found]
          split at written
          · next mark =>
              cases written
              rcases mark with rfl | rfl
              · exact .short (by decide) rfl (hypothesis tail)
              · exact .short (by decide) rfl (hypothesis tail)
          · split at written
            · cases written
            · next plain =>
                cases written
                exact .raw plain (hypothesis tail)
      · cases written

theorem blank_nil : Blank [] := by simp [Blank]

theorem writeValue_written (fuel : Nat) :
    (∀ {value content}, writeValue fuel value = some content → Written value content) ∧
    (∀ {items content}, writeItems fuel items = some content → WrittenItems items content) ∧
    (∀ {members content}, writeMembers fuel members = some content →
      WrittenMembers members content) := by
  induction fuel with
  | zero =>
      refine ⟨fun written => ?_, fun written => ?_, fun written => ?_⟩
      · simp [writeValue] at written
      · simp [writeItems] at written
      · simp [writeMembers] at written
  | succ fuel hypothesis =>
      obtain ⟨values, itemLists, memberLists⟩ := hypothesis
      refine ⟨?_, ?_, ?_⟩
      · intro value content written
        cases value with
        | null =>
            simp only [writeValue, Option.some.injEq] at written
            exact written ▸ .null
        | boolean value =>
            cases value with
            | true =>
                simp only [writeValue, Option.some.injEq] at written
                exact written ▸ .true
            | false =>
                simp only [writeValue, Option.some.injEq] at written
                exact written ▸ .false
        | number value =>
            simp only [writeValue] at written
            split at written
            · next one =>
                subst one
                cases written
                exact .number (List.all_eq_true.1 rfl) (by decide)
            · cases written
        | string text =>
            simp only [writeValue, Option.map_eq_some_iff] at written
            obtain ⟨body, inner, rfl⟩ := written
            exact .string (writeText_written inner)
        | array items =>
            cases items with
            | nil =>
                simp only [writeValue, Option.some.injEq] at written
                exact written ▸ .emptyArray blank_nil
            | cons item rest =>
                simp only [writeValue, Option.map_eq_some_iff] at written
                obtain ⟨inner, entries, rfl⟩ := written
                exact .array (itemLists entries)
        | object members =>
            cases members with
            | nil =>
                simp only [writeValue, Option.some.injEq] at written
                exact written ▸ .emptyObject blank_nil
            | cons member rest =>
                simp only [writeValue, Option.map_eq_some_iff] at written
                obtain ⟨inner, entries, rfl⟩ := written
                exact .object (memberLists entries)
      · intro items content written
        cases items with
        | nil => simp [writeItems] at written
        | cons item rest =>
            simp only [writeItems] at written
            split at written
            · next value found =>
                split at written
                · next last =>
                    subst last
                    cases written
                    have single := WrittenItems.last blank_nil (values found) blank_nil
                    rwa [List.nil_append, List.append_nil] at single
                · obtain ⟨others, tail, rfl⟩ := Option.map_eq_some_iff.1 written
                  exact .more blank_nil (values found) blank_nil (itemLists tail)
            · cases written
      · intro members content written
        cases members with
        | nil => simp [writeMembers] at written
        | cons member rest =>
            obtain ⟨name, value⟩ := member
            simp only [writeMembers] at written
            split at written
            · next body inner named found =>
                have entry := WrittenMember.mk blank_nil (writeText_written named) blank_nil
                  blank_nil (values found) blank_nil
                simp only [List.nil_append, List.append_nil] at entry
                split at written
                · next last =>
                    subst last
                    cases written
                    exact .last entry
                · obtain ⟨others, tail, rfl⟩ := Option.map_eq_some_iff.1 written
                  exact .more entry (memberLists tail)
            · cases written

/-- The characters of Base64 stand on one line. -/
theorem encodeBase64_oneLine (bytes : List UInt8) :
    (encodeBase64 bytes).filter (fun char => char ≠ '\r' ∧ char ≠ '\n') = encodeBase64 bytes := by
  have solid : ∀ char ∈ alphabet, char ≠ '\r' ∧ char ≠ '\n' := fun char member => by
    simpa using List.all_eq_true.1
      (show alphabet.all (fun char => char ≠ '\r' ∧ char ≠ '\n') = true from rfl) char member
  rw [List.filter_eq_self]
  intro char member
  rcases mem_encodeBase64 bytes char member with inside | rfl
  · simpa using solid char inside
  · decide

/-- The platform with this writer and with Base64 on one line. -/
def compactPlatform : Platform where
  writeJson := writeValue 100
  document := fun written => by
    have content := Document.mk blank_nil ((writeValue_written 100).1 written) blank_nil
    rwa [List.nil_append, List.append_nil] at content
  base64String := encodeBase64
  unbroken := encodeBase64_oneLine

end OnecRuntime.Tables
