import OnecRuntime.Library.Spelling
import OnecRuntime.Tables.Decoder
import OnecRuntime.Tables.Serializer

/-!
# Rows of a compact table

The kind of a column is one that the reader knows, and a cell that the writer accepts for
that kind is read as what it was: a string, a number, a date, an identifier, a reference
in the mode of its column, or nothing.
-/

namespace OnecRuntime.Tables

open OnecRuntime.Library

/-! ## Kinds of columns -/

def plainKinds : List String :=
  ["string", "nullable_string", "boolean", "number", "datetime", "uuid"]

/-- A kind that is settled: of references, or of the values of one type. -/
def Settled (found : ColumnKind) : Prop :=
  found.reference = true ∧ found.kind = "reference" ∨
    found.reference = false ∧ found.kind ∈ plainKinds

instance (found : ColumnKind) : Decidable (Settled found) :=
  inferInstanceAs (Decidable (_ ∨ _))

/-- A kind that is settled or still open. -/
def Open (found : ColumnKind) : Prop := found = ⟨"", false⟩ ∨ Settled found

theorem declaredTypeKind_settled {type : DeclaredType} {found : ColumnKind}
    (declared : declaredTypeKind type = some found) : Settled found := by
  cases type <;> cases declared <;> decide

theorem declaredCompactKind_open (types : List DeclaredType) (found : Option ColumnKind)
    (settled : ∀ kind ∈ found, Settled kind) : Open (declaredCompactKind types found) := by
  induction types generalizing found with
  | nil =>
      cases found with
      | none => exact .inl rfl
      | some kind => exact .inr (settled kind rfl)
  | cons type rest hypothesis =>
      unfold declaredCompactKind
      split
      · exact hypothesis found settled
      · split
        · exact .inl rfl
        · next current declared =>
            split
            · apply hypothesis
              rintro kind ⟨⟩
              exact declaredTypeKind_settled declared
            · exact .inl rfl

variable {value : Value}

theorem compactKindOfValue_kind {kind : String}
    (observed : compactKindOfValue value = .ok kind) :
    kind = "" ∨ Settled ⟨kind, kind = "reference"⟩ := by
  cases value <;> cases observed <;> decide

theorem observeCells_open {name : CodeText} {values : List Value} {before after : ColumnKind}
    (opened : Open before) (observed : observeCells name values before = .ok (some after)) :
    Open after := by
  induction values generalizing before with
  | nil =>
      cases observed
      exact opened
  | cons value rest hypothesis =>
      unfold observeCells at observed
      split at observed
      · cases observed
      obtain ⟨kind, found, observed⟩ := bind_eq_ok.1 observed
      split at observed
      · next fresh =>
          rcases compactKindOfValue_kind found with rfl | settled
          · exact absurd rfl fresh.2
          · exact hypothesis (.inr settled) observed
      · split at observed
        · cases observed
        · exact hypothesis opened observed

theorem detectColumnKinds_settled {page : List (List Value)} {index : Nat} {columns : List Column}
    {found : List ColumnKind}
    (detected : detectColumnKinds page index columns = .ok (some found)) :
    found.length = columns.length ∧ ∀ kind ∈ found, Settled kind := by
  induction columns generalizing index found with
  | nil =>
      cases detected
      exact ⟨rfl, by simp⟩
  | cons column rest hypothesis =>
      obtain ⟨first, observed, detected⟩ := bind_eq_ok.1 detected
      cases first with
      | none => cases detected
      | some first =>
          obtain ⟨others, later, detected⟩ := bind_eq_ok.1 detected
          cases others with
          | none => cases detected
          | some others =>
              cases detected
              obtain ⟨length, settled⟩ := hypothesis later
              have opened := observeCells_open
                (declaredCompactKind_open column.types none (by simp)) observed
              refine ⟨by simp [length], ?_⟩
              rintro kind (_ | ⟨_, member⟩)
              · rcases opened with rfl | ⟨reference, same⟩ | ⟨plain, member⟩
                · decide
                · rw [same]
                  exact .inl ⟨reference, rfl⟩
                · have named : first.kind ≠ "" := by
                    intro empty
                    rw [empty] at member
                    revert member
                    decide
                  rw [if_neg named]
                  exact .inr ⟨plain, member⟩
              · exact settled kind member

/-! ## Cells -/

/-- What a cell of a plain column is transferred as. -/
def plainCell : Value → Option Decoded
  | .string content => some (.string content)
  | .boolean value => some (.boolean value)
  | .number value => some (.number value.val.value)
  | .date moment => some (.datetime moment.val)
  | .uniqueIdentifier identifier => some (.uuid identifier)
  | .enumeration filled presentation => some (.string (if filled then presentation else []))
  | _ => none

/-- What a cell of a reference column is transferred as; an empty reference is missing. -/
def referenceCell (mode : ReferenceMode) : Value → Option Decoded
  | .reference true presentation identifier =>
      match mode with
      | .presentation => some (.string presentation)
      | .uuid => some (.uuid identifier)
      | .both => some (.pair presentation identifier)
  | _ => none

/-- What a cell is transferred as in a column with or without a mode. -/
def transferredCell : Option ReferenceMode → Value → Option Decoded
  | none => plainCell
  | some mode => referenceCell mode

theorem isFinite_of_platform (value : PlatformNumber) : isFinite value.val.value := by
  have double : ∀ exponent : Nat, (2 : ℚ) ^ exponent + 2 ^ exponent = 2 ^ (exponent + 1) := by
    intro exponent
    ring
  have bound : (10 : ℚ) ^ 38 < 2 ^ 127 := by norm_num
  have raised : (2 : ℚ) ^ 127 ≤ 2 ^ 970 := pow_le_pow_right₀ (by norm_num) (by decide)
  have room : (2 : ℚ) ^ (970 + 1) ≤ 2 ^ 1024 := pow_le_pow_right₀ (by norm_num) (by decide)
  have half : (2 : ℚ) ^ 970 ≤ 2 ^ 1024 - 2 ^ 970 := by
    rw [← double 970] at room
    exact le_sub_iff_add_le.2 room
  exact lt_of_lt_of_le (lt_trans value.property bound) (le_trans raised half)

/-- A cell that is accepted for a kind is read back. -/
theorem decodeScalar_compactValue {kind observed : String} (plain : kind ∈ plainKinds)
    {item : Json} (rowNumber : Nat) (column : CodeText)
    (found : compactKindOfValue value = .ok observed)
    (accepted : ¬(observed ≠ "" ∧ ¬compatibleCompactKinds kind observed))
    (written : compactValue kind false value = .ok item) :
    decodeScalar (text kind) rowNumber column item = .ok (plainCell value) := by
  have same : ∀ other : String, compatibleCompactKinds kind other = true →
      kind = other ∨ kind = "nullable_string" ∧ other = "string" := by
    intro other compatible
    simpa [compatibleCompactKinds] using compatible
  cases value with
  | undefined =>
      cases written
      rfl
  | null =>
      cases written
      rfl
  | foreign workerPrivate => cases found
  | string content =>
      cases found
      rcases same "string" (by simpa using accepted) with rfl | ⟨rfl, _⟩
      · obtain rfl : Json.string content = item := by simpa [compactValue, jsonValue] using written
        simp [decodeScalar, plainCell]
      · obtain rfl : Json.string content = item := by simpa [compactValue] using written
        simp [decodeScalar, plainCell]
  | boolean value =>
      cases found
      rcases same "boolean" (by simpa using accepted) with rfl | ⟨_, impossible⟩
      · obtain rfl : Json.boolean value = item := by simpa [compactValue, jsonValue] using written
        simp [decodeScalar, plainCell]
      · exact absurd impossible (by decide)
  | number value =>
      cases found
      rcases same "number" (by simpa using accepted) with rfl | ⟨_, impossible⟩
      · obtain rfl : Json.number value.val = item := by
          simpa [compactValue, jsonValue] using written
        simp [decodeScalar, plainCell, isFinite_of_platform value]
      · exact absurd impossible (by decide)
  | date moment =>
      cases found
      rcases same "datetime" (by simpa using accepted) with rfl | ⟨_, impossible⟩
      · obtain rfl : Json.string (xmlString moment.val) = item := by
          simpa [compactValue] using written
        simp [decodeScalar, plainCell, fromIsoFormat_xmlString moment.property, converted]
      · exact absurd impossible (by decide)
  | uniqueIdentifier identifier =>
      cases found
      rcases same "uuid" (by simpa using accepted) with rfl | ⟨_, impossible⟩
      · obtain rfl : Json.string (uuidText identifier) = item := by
          simpa [compactValue] using written
        simp [decodeScalar, plainCell, parseUuid_uuidText, converted]
      · exact absurd impossible (by decide)
  | enumeration filled presentation =>
      cases found
      rcases same "nullable_string" (by simpa using accepted) with rfl | ⟨_, impossible⟩
      · obtain rfl : Json.string (if filled then presentation else []) = item := by
          simpa [compactValue] using written
        simp [decodeScalar, plainCell]
      · exact absurd impossible (by decide)
  | reference filled presentation identifier =>
      cases found
      rcases same "reference" (by simpa using accepted) with rfl | ⟨_, impossible⟩
      · exact absurd plain (by decide)
      · exact absurd impossible (by decide)

/-- A cell of a reference column is read back in the mode of the column. -/
theorem decodeReference_compactValue {mode : ReferenceMode} {item : Json}
    (rowNumber : Nat) (column : CodeText) (written : compactValue mode.value true value = .ok item) :
    decodeReference mode rowNumber column item = .ok (referenceCell mode value) := by
  cases value with
  | undefined =>
      cases written
      rfl
  | null =>
      cases written
      rfl
  | reference filled presentation identifier =>
      cases filled with
      | false =>
          cases written
          rfl
      | true =>
          cases mode <;> simp [compactValue, ReferenceMode.value] at written <;> subst written <;>
            simp [decodeReference, referenceCell, parseUuid_uuidText, converted]
  | _ => cases written

/-! ## Rows -/

/-- A column of the writer and the same column of the reader. -/
inductive SameColumn : WrittenColumn → ReadColumn → Prop
  | reference {name kind mode} (selected : kind = ReferenceMode.value mode) :
      SameColumn ⟨name, ⟨"reference", true⟩, kind⟩ ⟨name, text kind, some mode⟩
  | plain {name kind} (known : kind ∈ plainKinds) :
      SameColumn ⟨name, ⟨kind, false⟩, kind⟩ ⟨name, text kind, none⟩

/-- What a row is transferred as. -/
def transferredRow (columns : List ReadColumn) (row : List Value) : List (Option Decoded) :=
  List.zipWith (fun column value => transferredCell column.mode value) columns row

variable {columns : List WrittenColumn}

theorem decodeCells_serializeRow {reads : List ReadColumn}
    (same : List.Forall₂ SameColumn columns reads) {row : List Value} {items : List Json}
    (width : row.length = columns.length)
    (serialized : serializeRow columns row = .ok (some items)) (rowNumber : Nat) :
    items.length = reads.length ∧
      decodeCells rowNumber reads items = .ok (transferredRow reads row) := by
  induction same generalizing row items with
  | nil =>
      cases row with
      | nil =>
          cases serialized
          exact ⟨rfl, rfl⟩
      | cons value rest => cases width
  | @cons column read columns reads here _ hypothesis =>
      cases row with
      | nil => cases width
      | cons value rest =>
          unfold serializeRow at serialized
          split at serialized
          · cases serialized
          obtain ⟨observed, found, serialized⟩ := bind_eq_ok.1 serialized
          obtain ⟨_, accepted, serialized⟩ := bind_eq_ok.1 serialized
          obtain ⟨item, written, serialized⟩ := bind_eq_ok.1 serialized
          obtain ⟨others, later, serialized⟩ := bind_eq_ok.1 serialized
          cases others with
          | none => cases serialized
          | some others =>
              cases serialized
              obtain ⟨length, decoded⟩ := hypothesis (by simpa using width) later
              have accepted := require_eq_ok.1 accepted
              have cell : decodeCell read rowNumber item =
                  .ok (transferredCell read.mode value) := by
                cases here with
                | reference selected =>
                    subst selected
                    exact decodeReference_compactValue rowNumber _ written
                | plain known => exact decodeScalar_compactValue known rowNumber _ found accepted written
              refine ⟨by simp [length], ?_⟩
              exact bind_eq_ok.2 ⟨_, cell, bind_eq_ok.2 ⟨_, decoded, rfl⟩⟩

/-- A row and the line that it is written on. -/
def RowLine (platform : Platform) (columns : List WrittenColumn) (row : List Value)
    (line : List Char) : Prop :=
  ∃ items, serializeRow columns row = .ok (some items) ∧
    platform.writeJson (.array items) = some line

variable {platform : Platform}

theorem toJson_eq_ok {value : Json} {line : List Char} :
    toJson platform value = .ok line ↔ platform.writeJson value = some line := by
  unfold toJson
  cases platform.writeJson value with
  | none => exact ⟨fun impossible => (nomatch impossible), fun impossible => (nomatch impossible)⟩
  | some written => exact ⟨fun same => congrArg _ (Except.ok.inj same), fun same =>
      congrArg _ (Option.some.inj same)⟩

theorem serializeRows_lines
    {maximumRows maximumBytes : Int} {count size : Nat} {rows : List (List Value)}
    {lines : List (List Char)}
    (serialized : serializeRows platform columns maximumRows maximumBytes count size rows =
      .ok (some lines)) :
    List.Forall₂ (RowLine platform columns) rows lines := by
  induction rows generalizing count size lines with
  | nil =>
      cases serialized
      exact .nil
  | cons row rest hypothesis =>
      obtain ⟨_, _, serialized⟩ := bind_eq_ok.1 serialized
      obtain ⟨items, found, serialized⟩ := bind_eq_ok.1 serialized
      cases items with
      | none => cases serialized
      | some items =>
          obtain ⟨line, written, serialized⟩ := bind_eq_ok.1 serialized
          obtain ⟨_, _, serialized⟩ := bind_eq_ok.1 serialized
          obtain ⟨others, later, serialized⟩ := bind_eq_ok.1 serialized
          cases others with
          | none => cases serialized
          | some others =>
              cases serialized
              exact .cons ⟨items, found, toJson_eq_ok.1 written⟩ (hypothesis later)

/-- The rows that were written are read. -/
theorem decodeRows_lines {reads : List ReadColumn} (same : List.Forall₂ SameColumn columns reads)
    {rows : List (List Value)} {lines : List (List Char)}
    (written : List.Forall₂ (RowLine platform columns) rows lines)
    (widths : ∀ row ∈ rows, row.length = columns.length) (rowNumber : Nat) :
    decodeRows reads rowNumber lines = .ok (rows.map (transferredRow reads)) := by
  induction written generalizing rowNumber with
  | nil => rfl
  | @cons row line rows lines here _ hypothesis =>
      obtain ⟨items, serialized, emitted⟩ := here
      obtain ⟨width, decoded⟩ :=
        decodeCells_serializeRow same (widths row List.mem_cons_self) serialized rowNumber
      have loaded : loadJson line (rowNumber + 1) = .ok (.array items) := by
        unfold loadJson
        rw [loads_document (platform.document emitted)]
      have others := hypothesis (fun other member => widths other (List.mem_cons_of_mem _ member))
        (rowNumber + 1)
      exact bind_eq_ok.2 ⟨_, loaded, bind_eq_ok.2 ⟨(), require_eq_ok.2 width,
        bind_eq_ok.2 ⟨_, decoded, bind_eq_ok.2 ⟨_, others, rfl⟩⟩⟩⟩

end OnecRuntime.Tables
