import OnecRuntime.Tables.Serializer
import OnecRuntime.Tables.Schema

/-!
# A compact table arrives

A value table that the server writes is read back by the runtime with the same policy: the
columns in their order and, row by row, the same cells. It takes at least one column, and
no text of the table may hold the next line character, which the reader breaks lines at
and the writer does not escape.
-/

namespace OnecRuntime.Tables

open OnecRuntime.Library

variable {policy : ReferencePolicy} {mode : String} {overrides : Dictionary CodeText String}

/-! ## Content -/

/-- What a column with these cells is transferred as. -/
def columnContent (policy : ReferencePolicy) (column : Column × ColumnKind) (values : List Value) :
    List (CodeText × List (Option Decoded)) :=
  match columnMode policy column with
  | none => [(column.1.name, values.map plainCell)]
  | some .presentation => [(column.1.name, values.map (referenceCell .presentation))]
  | some .uuid => [(column.1.name, values.map (referenceCell .uuid))]
  | some .both =>
      [(column.1.name, values.map (referenceCell .presentation)),
        (column.1.name ++ policy.uuidSuffix, values.map (referenceCell .uuid))]

/-- What the columns from some position on are transferred as. -/
def tableContent (policy : ReferencePolicy) (rows : List (List Value)) :
    Nat → TypedColumns → List (CodeText × List (Option Decoded))
  | _, [] => []
  | index, column :: rest =>
      columnContent policy column (rows.map (cell index)) ++ tableContent policy rows (index + 1) rest

def content (series : CodeText × Series) : CodeText × List (Option Decoded) := (series.1, series.2.values)

theorem presentationOf_referenceCell (value : Value) :
    presentationOf (referenceCell .both value) = referenceCell .presentation value := by
  cases value with
  | reference filled => cases filled <;> rfl
  | _ => rfl

theorem identifierOf_referenceCell (value : Value) :
    identifierOf (referenceCell .both value) = referenceCell .uuid value := by
  cases value with
  | reference filled => cases filled <;> rfl
  | _ => rfl

/-- The series of a column hold what its cells are transferred as. -/
theorem columnSeries_content (column : Column × ColumnKind) (values : List Value) :
    (columnSeries policy.uuidSuffix
      ⟨column.1.name, text (schemaKind policy column), columnMode policy column⟩
      (values.map (transferredCell (columnMode policy column)))).map content =
        columnContent policy column values := by
  unfold columnSeries columnContent
  cases columnMode policy column with
  | none => rfl
  | some mode =>
      cases mode with
      | presentation => rfl
      | uuid => rfl
      | both =>
          simp [content, transferredCell, Function.comp_def, presentationOf_referenceCell,
            identifierOf_referenceCell]

theorem columnValues_transferred {columns : List ReadColumn} {rows : List (List Value)}
    (widths : ∀ row ∈ rows, row.length = columns.length) {ordinal : Nat} {column : ReadColumn}
    (here : columns[ordinal]? = some column) :
    columnValues (rows.map (transferredRow columns)) ordinal =
      (rows.map (cell ordinal)).map (transferredCell column.mode) := by
  unfold columnValues
  rw [List.map_map, List.map_map]
  apply List.map_congr_left
  intro row member
  have bound : ordinal < row.length := by
    rw [widths row member]
    exact (List.getElem?_eq_some_iff.1 here).1
  simp [transferredRow, List.getElem?_zipWith, here, cell, List.getElem?_eq_getElem bound]

variable {columns : TypedColumns}

theorem frameSeries_content {rows : List (List Value)}
    (widths : ∀ row ∈ rows, row.length = columns.length) (before after : TypedColumns)
    (parts : columns = before ++ after) :
    (frameSeries policy.uuidSuffix (rows.map (transferredRow (tableColumns policy columns)))
      before.length (tableColumns policy after)).map content =
        tableContent policy rows before.length after := by
  induction after generalizing before with
  | nil => rfl
  | cons column rest hypothesis =>
      have here : (tableColumns policy columns)[before.length]? =
          some ⟨column.1.name, text (schemaKind policy column), columnMode policy column⟩ := by
        rw [parts, tableColumns, List.map_append, List.getElem?_append_right (by simp)]
        simp
      have values := @columnValues_transferred _ rows
        (by simpa [tableColumns] using widths) _ _ here
      have tail := hypothesis (before ++ [column]) (by simp [parts])
      rw [List.length_append, List.length_singleton] at tail
      unfold tableColumns at tail values ⊢
      rw [List.map_cons, frameSeries, values, List.map_append, tail, tableContent,
        columnSeries_content]

theorem tableContent_names (rows : List (List Value)) (index : Nat) (columns : TypedColumns) :
    (tableContent policy rows index columns).map Prod.fst =
      columns.flatMap fun column => (columnContent policy column []).map Prod.fst := by
  induction columns generalizing index with
  | nil => rfl
  | cons column rest hypothesis =>
      have names : ∀ values, (columnContent policy column values).map Prod.fst =
          (columnContent policy column []).map Prod.fst := by
        intro values
        unfold columnContent
        cases columnMode policy column with
        | none => rfl
        | some mode => cases mode <;> rfl
      rw [tableContent, List.map_append, hypothesis, names, List.flatMap_cons]

/-- The name of a series is a column's name, or a column's name with the suffix. -/
theorem mem_contentNames {column : Column × ColumnKind} {name : CodeText}
    (member : name ∈ (columnContent policy column []).map Prod.fst) :
    name = column.1.name ∨
      columnMode policy column = some .both ∧ name = column.1.name ++ policy.uuidSuffix := by
  unfold columnContent at member
  cases asked : columnMode policy column with
  | none => simpa [asked] using member
  | some mode => cases mode <;> simpa [asked] using member

theorem tableContent_distinct
    (matching : Matching policy mode overrides columns) (distinct : (columnNames columns).Nodup)
    (rows : List (List Value)) :
    ((tableContent policy rows 0 columns).map Prod.fst).Nodup := by
  rw [tableContent_names, List.nodup_flatMap]
  constructor
  · intro column member
    unfold columnContent
    cases columnMode policy column with
    | none => simp
    | some mode => cases mode <;> simp [matching.suffixed]
  · have pairwise : columns.Pairwise fun first second => first.1.name ≠ second.1.name := by
      simpa [columnNames, List.Nodup, List.pairwise_map] using distinct
    refine pairwise.imp_of_mem ?_
    intro first second firstMember secondMember apart name inFirst inSecond
    have taken : ∀ {column : Column × ColumnKind}, column ∈ columns →
        column.1.name ∈ columnNames columns := fun member => List.mem_map.2 ⟨_, member, rfl⟩
    rcases mem_contentNames inFirst with rfl | ⟨bothFirst, rfl⟩
    · rcases mem_contentNames inSecond with same | ⟨bothSecond, same⟩
      · exact apart same
      · exact matching.fresh second secondMember bothSecond (same ▸ taken firstMember)
    · rcases mem_contentNames inSecond with same | ⟨_, same⟩
      · exact matching.fresh first firstMember bothFirst (same ▸ taken secondMember)
      · exact apart (List.append_cancel_right same)

/-! ## Lines -/

theorem decodeUtf8Sig_utf8Bytes {first : Char} (unmarked : first ≠ '\uFEFF') (rest : List Char) :
    decodeUtf8Sig (utf8Bytes (first :: rest)) = some (first :: rest) := by
  have bytes : ByteArray.mk (utf8Bytes (first :: rest)).toArray = (first :: rest).utf8Encode := by
    unfold utf8Bytes
    rw [Array.toArray_toList]
    rfl
  unfold decodeUtf8Sig
  rw [bytes, List.utf8Decode?_utf8Encode, Option.map_some]
  simp only
  split
  · next same => exact absurd (List.cons.inj same).1 unmarked
  · rfl

theorem decodeUtf8Sig_nil : decodeUtf8Sig [] = some [] := by
  have decoded : (ByteArray.mk #[]).utf8Decode? = some #[] := ByteArray.utf8Decode?_empty
  simp [decodeUtf8Sig, decoded]

/-- The Base64 of a payload is decoded as its bytes. -/
theorem decodeBase64_payload (platform : Platform) (bytes : List UInt8) :
    decodeBase64 ((unbrokenBase64 platform bytes).filter fun char => !isAsciiWhitespace char) =
      some bytes := by
  have solid : ∀ char ∈ alphabet, isAsciiWhitespace char = false := fun char member => by
    simpa using List.all_eq_true.1
      (show alphabet.all (fun char => !isAsciiWhitespace char) = true from rfl) char member
  have kept : (encodeBase64 bytes).filter (fun char => !isAsciiWhitespace char) =
      encodeBase64 bytes := by
    rw [List.filter_eq_self]
    intro char member
    rcases mem_encodeBase64 bytes char member with inside | rfl
    · simp [solid char inside]
    · rfl
  unfold unbrokenBase64
  rw [platform.unbroken, kept, decodeBase64_encodeBase64]

theorem document_nonempty {value : Json} {input : List Char} (document : Document value input) :
    input ≠ [] := by
  rintro rfl
  have read := loads_document document
  simp [loads, skipBlanks, parseValue] at read

/-- An object is written after blanks. -/
theorem object_head {members : List (CodeText × Json)} {input : List Char}
    (document : Document (.object members) input) :
    ∃ first rest, input = first :: rest ∧ first ≠ '\uFEFF' := by
  cases document with
  | @mk before content after blanks written _ =>
      cases before with
      | cons first rest =>
          refine ⟨first, _, rfl, ?_⟩
          rcases blanks first List.mem_cons_self with rfl | rfl <;> decide
      | nil => cases written <;> exact ⟨'{', _, rfl, by decide⟩

/-- The lines of a text that starts with no mark are read. -/
theorem readLines_content {first : Char} {rest : List Char} (unmarked : first ≠ '\uFEFF')
    (some : splitLines (first :: rest) ≠ []) (filled : [] ∉ splitLines (first :: rest)) :
    readLines (utf8Bytes (first :: rest)) = .ok (splitLines (first :: rest)) := by
  have decoded := decodeUtf8Sig_utf8Bytes unmarked rest
  have nonempty : utf8Bytes (first :: rest) ≠ [] := by
    intro empty
    rw [empty, decodeUtf8Sig_nil] at decoded
    cases decoded
  unfold readLines
  simp only [require, nonempty, ne_eq, not_false_eq_true, if_true, ok_bind, decoded, some, filled]
  rfl

/-- The lines of a payload are read. -/
theorem readLines_payload {first : List Char} {rest : List (List Char)}
    (start : ∃ char later, first = char :: later ∧ char ≠ '\uFEFF')
    (occupied : ∀ line ∈ first :: rest, line ≠ [])
    (unbroken : ∀ line ∈ first :: rest, ∀ char ∈ line, isLineBreak char = false) :
    readLines (utf8Bytes ((first :: rest).flatMap (· ++ ['\n']))) = .ok (first :: rest) := by
  obtain ⟨char, later, same, unmarked⟩ := start
  have shape : (first :: rest).flatMap (· ++ ['\n']) =
      char :: (later ++ '\n' :: rest.flatMap (· ++ ['\n'])) := by
    rw [List.flatMap_cons, same]
    simp
  have split := splitLines_joined unbroken
  rw [shape] at split ⊢
  have filled : [] ∉ first :: rest := fun member => occupied _ member rfl
  rw [readLines_content unmarked (by simp [split]) (by rwa [split]), split]

/-! ## Texts without the next line character -/

/-- No text of the table holds the next line character. -/
def ValueTable.Unbroken (table : ValueTable) : Prop :=
  (∀ column ∈ table.columns, nextLine ∉ column.name) ∧
    ∀ row ∈ table.rows, ∀ value ∈ row, ∀ text ∈ value.texts, nextLine ∉ text

theorem jsonValue_texts {value : Value} {item : Json} (written : jsonValue value = .ok item) :
    ∀ text ∈ item.texts, text ∈ value.texts := by
  cases value <;> cases written <;> simp [Json.texts, Value.texts]

/-- The texts of a written cell are those of the value, or made by the platform. -/
theorem compactValue_texts {kind : String} {reference : Bool} {value : Value} {item : Json}
    (written : compactValue kind reference value = .ok item)
    (plain : ∀ text ∈ value.texts, nextLine ∉ text) : ∀ text ∈ item.texts, nextLine ∉ text := by
  have same : jsonValue value = .ok item → ∀ text ∈ item.texts, nextLine ∉ text :=
    fun kept text member => plain text (jsonValue_texts kept text member)
  cases value with
  | undefined =>
      cases written
      simp [Json.texts]
  | null =>
      cases written
      simp [Json.texts]
  | reference filled presentation identifier =>
      have presented : nextLine ∉ presentation := plain presentation (by simp [Value.texts])
      have identified := nextLine_uuidText identifier
      simp only [compactValue] at written
      split at written
      · cases filled with
        | false =>
            cases written
            simp [Json.texts]
        | true =>
            simp only at written
            split at written
            · cases written
              simpa [Json.texts] using presented
            · split at written
              · cases written
                simpa [Json.texts] using identified
              · split at written
                · cases written
                  simpa [Json.texts, itemTexts] using And.intro presented identified
                · exact same written
      · split at written
        · cases written
        · split at written
          · cases written
          · split at written
            · cases written
            · exact same written
  | _ =>
      simp only [compactValue] at written
      split at written
      · cases written
      · split at written
        · first
          | cases written
            done
          | cases written
            simp_all [Json.texts, Value.texts]
        · split at written
          · first
            | cases written
              done
            | cases written
              simpa [Json.texts] using nextLine_xmlString _
          · split at written
            · first
              | cases written
                done
              | cases written
                simpa [Json.texts] using nextLine_uuidText _
            · exact same written

theorem serializeRow_texts {columns : List WrittenColumn} {row : List Value} {items : List Json}
    (serialized : serializeRow columns row = .ok (some items))
    (plain : ∀ value ∈ row, ∀ text ∈ value.texts, nextLine ∉ text) :
    ∀ text ∈ itemTexts items, nextLine ∉ text := by
  induction columns generalizing row items with
  | nil =>
      cases serialized
      simp [itemTexts]
  | cons column rest hypothesis =>
      cases row with
      | nil =>
          cases serialized
          simp [itemTexts]
      | cons value later =>
          unfold serializeRow at serialized
          split at serialized
          · cases serialized
          obtain ⟨_, _, serialized⟩ := bind_eq_ok.1 serialized
          obtain ⟨_, _, serialized⟩ := bind_eq_ok.1 serialized
          obtain ⟨item, written, serialized⟩ := bind_eq_ok.1 serialized
          obtain ⟨others, tail, serialized⟩ := bind_eq_ok.1 serialized
          cases others with
          | none => cases serialized
          | some others =>
              cases serialized
              have first := compactValue_texts written (plain value List.mem_cons_self)
              have remaining := hypothesis tail
                fun other member => plain other (List.mem_cons_of_mem _ member)
              intro text member
              rcases List.mem_append.1 member with inside | inside
              · exact first text inside
              · exact remaining text inside

theorem nextLine_mode (mode : ReferenceMode) : nextLine ∉ text mode.value := by
  cases mode <;> decide

/-- The kinds of a schema are texts on one line. -/
theorem nextLine_schemaKind {column : Column × ColumnKind} (settled : Settled column.2) :
    nextLine ∉ text (schemaKind policy column) := by
  have known : ∀ kind ∈ "reference" :: plainKinds, nextLine ∉ text kind := by decide
  unfold schemaKind
  cases columnMode policy column with
  | some mode => exact nextLine_mode mode
  | none =>
      rcases settled with ⟨_, same⟩ | ⟨_, plain⟩
      · exact known _ (by simp [same])
      · exact known _ (List.mem_cons_of_mem _ plain)

theorem mem_itemTexts_strings {names : List CodeText} {text : CodeText}
    (member : text ∈ itemTexts (names.map Json.string)) : text ∈ names := by
  induction names with
  | nil => cases member
  | cons name rest hypothesis =>
      rcases List.mem_append.1 member with here | later
      · exact List.mem_cons.2 (.inl (List.mem_singleton.1 here))
      · exact List.mem_cons_of_mem _ (hypothesis later)

theorem mem_memberTexts_strings {entries : List (CodeText × CodeText)} {text : CodeText}
    (member : text ∈ memberTexts (entries.map fun entry => (entry.1, Json.string entry.2))) :
    ∃ entry ∈ entries, text = entry.1 ∨ text = entry.2 := by
  induction entries with
  | nil => cases member
  | cons entry rest hypothesis =>
      simp only [List.map_cons, memberTexts, Json.texts, List.cons_append, List.nil_append,
        List.mem_cons] at member
      rcases member with here | here | later
      · exact ⟨entry, List.mem_cons_self, .inl here⟩
      · exact ⟨entry, List.mem_cons_self, .inr here⟩
      · obtain ⟨other, inside, same⟩ := hypothesis later
        exact ⟨other, List.mem_cons_of_mem _ inside, same⟩

/-- The schema of unbroken names is written on one line. -/
theorem schemaJson_texts (settled : ∀ column ∈ columns, Settled column.2)
    (plain : ∀ column ∈ columns, nextLine ∉ column.1.name) :
    ∀ text ∈ (schemaJson (columns.map Prod.fst) (columns.map (schemaKind policy))
      ((encodedModes policy columns).map fun entry => (entry.1, entry.2.value))).texts,
      nextLine ∉ text := by
  intro content member
  have fixed : ∀ name ∈ ["version", "columns", "kinds", "reference_modes"],
      nextLine ∉ text name := by decide
  have names : (columns.map Prod.fst).map (fun column => Json.string column.name) =
      (columnNames columns).map Json.string := by simp [columnNames, Function.comp_def]
  have kinds : (columns.map (schemaKind policy)).map (fun kind => Json.string (text kind)) =
      (columns.map fun column => text (schemaKind policy column)).map Json.string := by
    simp [Function.comp_def]
  have modes : ((encodedModes policy columns).map fun entry => (entry.1, entry.2.value)).map
      (fun entry => (entry.1, Json.string (text entry.2))) =
        ((encodedModes policy columns).map fun entry => (entry.1, text entry.2.value)).map
          fun entry => (entry.1, Json.string entry.2) := by simp [Function.comp_def]
  unfold schemaJson at member
  rw [names, kinds, modes] at member
  simp only [Json.texts, memberTexts, List.cons_append, List.nil_append, List.append_nil,
    List.mem_cons, List.mem_append] at member
  rcases member with rfl | rfl | inNames | rfl | inKinds | rfl | inModes
  · exact fixed _ (by simp)
  · exact fixed _ (by simp)
  · obtain ⟨column, inside, rfl⟩ := List.mem_map.1 (mem_itemTexts_strings inNames)
    exact plain column inside
  · exact fixed _ (by simp)
  · obtain ⟨column, inside, rfl⟩ := List.mem_map.1 (mem_itemTexts_strings inKinds)
    exact nextLine_schemaKind (settled column inside)
  · exact fixed _ (by simp)
  · obtain ⟨entry, inside, same⟩ := mem_memberTexts_strings inModes
    obtain ⟨⟨name, mode⟩, encoded, rfl⟩ := List.mem_map.1 inside
    obtain ⟨column, inColumns, _, rfl⟩ := mem_encodedModes.1 encoded
    rcases same with rfl | rfl
    · exact plain column inColumns
    · exact nextLine_mode mode

/-! ## The table arrives -/

/-- The columns of a table with the kinds that the writer finds for them. -/
def typedColumns (table : ValueTable) (maximumRows : Int) : TypedColumns :=
  match detectColumnKinds (table.rows.take (pageSize maximumRows)) 0 table.columns with
  | .ok (some found) => table.columns.zip found
  | _ => []

/-- The columns as the rows are written. -/
def typedWrittenColumns (policy : ReferencePolicy) (columns : TypedColumns) : List WrittenColumn :=
  columns.map fun column => ⟨column.1.name, column.2, schemaKind policy column⟩

/-- What stands in the lines of a table. -/
structure WrittenTable (platform : Platform) (policy : ReferencePolicy)
    (overrides : Dictionary CodeText String) (table : ValueTable) (columns : TypedColumns)
    (schema : List Char) (lines : List (List Char)) : Prop where
  columnsOf : columns.map Prod.fst = table.columns
  settled : ∀ column ∈ columns, Settled column.2
  bound : ∀ column ∈ columns, if column.2.reference then (columnMode policy column).isSome
    else overrides.get? column.1.name = none
  schemaLine : Document (schemaJson (columns.map Prod.fst) (columns.map (schemaKind policy))
    ((encodedModes policy columns).map fun entry => (entry.1, entry.2.value))) schema
  rowLines : List.Forall₂ (RowLine platform (typedWrittenColumns policy columns)) table.rows lines

theorem writtenColumns_zip {columns : List Column} {found : List ColumnKind}
    (size : found.length = columns.length) (kindOf : Column × ColumnKind → String) :
    writtenColumns columns found ((columns.zip found).map kindOf) =
      (columns.zip found).map fun column => ⟨column.1.name, column.2, kindOf column⟩ := by
  unfold writtenColumns
  induction columns generalizing found with
  | nil => rfl
  | cons column rest hypothesis =>
      cases found with
      | nil => cases size
      | cons kind others => simp [hypothesis (by simpa using size)]

variable {platform : Platform} {table : ValueTable}

/-- The writer returns the lines of the table. -/
theorem serializeCompactTable_lines {maximumRows maximumBytes : Int} {payload : Payload}
    (serialized : serializeCompactTable platform table mode overrides maximumRows maximumBytes =
      .ok (some payload))
    (matching : Matching policy mode overrides (typedColumns table maximumRows)) :
    checkReferenceMode mode = .ok () ∧ ∃ schema lines,
      WrittenTable platform policy overrides table (typedColumns table maximumRows) schema lines ∧
        payload = finishMaterialization platform (schema :: lines) := by
  obtain ⟨_, _, serialized⟩ := bind_eq_ok.1 serialized
  obtain ⟨_, checked, serialized⟩ := bind_eq_ok.1 serialized
  obtain ⟨found, detected, serialized⟩ := bind_eq_ok.1 serialized
  cases found with
  | none => cases serialized
  | some found =>
      obtain ⟨⟨kinds, modes⟩, bound, serialized⟩ := bind_eq_ok.1 serialized
      obtain ⟨schema, schemaWritten, serialized⟩ := bind_eq_ok.1 serialized
      obtain ⟨_, _, serialized⟩ := bind_eq_ok.1 serialized
      obtain ⟨lines, rowsWritten, serialized⟩ := bind_eq_ok.1 serialized
      cases lines with
      | none => cases serialized
      | some lines =>
          cases serialized
          obtain ⟨size, allSettled⟩ := detectColumnKinds_settled detected
          have typed : typedColumns table maximumRows = table.columns.zip found := by
            unfold typedColumns
            rw [detected]
          have columnsOf : (table.columns.zip found).map Prod.fst = table.columns :=
            List.map_fst_zip (Nat.le_of_eq size.symm)
          have settled : ∀ column ∈ table.columns.zip found, Settled column.2 :=
            fun column member => allSettled _ (List.of_mem_zip member).2
          obtain ⟨rfl, rfl, modesBound⟩ :=
            bindReferenceModes_spec matching.refs matching.overridden settled bound
          rw [writtenColumns_zip size] at rowsWritten
          have schemaLine := platform.document (toJson_eq_ok.1 schemaWritten)
          refine ⟨checked, schema, lines, ?_, rfl⟩
          rw [typed]
          refine ⟨columnsOf, settled, modesBound, ?_, serializeRows_lines rowsWritten⟩
          rwa [columnsOf]

theorem row_of_line {columns : List WrittenColumn} {rows : List (List Value)}
    {lines : List (List Char)} (written : List.Forall₂ (RowLine platform columns) rows lines)
    {line : List Char} (member : line ∈ lines) : ∃ row ∈ rows, RowLine platform columns row line := by
  induction written with
  | nil => cases member
  | cons here _ hypothesis =>
      rcases List.mem_cons.1 member with rfl | later
      · exact ⟨_, List.mem_cons_self, here⟩
      · obtain ⟨row, inside, found⟩ := hypothesis later
        exact ⟨row, List.mem_cons_of_mem _ inside, found⟩

/-- The lines of an unbroken table are lines of the text. -/
theorem WrittenTable.unbroken {schema : List Char} {lines : List (List Char)}
    (written : WrittenTable platform policy overrides table columns schema lines)
    (unbroken : table.Unbroken) :
    ∀ line ∈ schema :: lines, line ≠ [] ∧ ∀ char ∈ line, isLineBreak char = false := by
  have columnsPlain : ∀ column ∈ columns, nextLine ∉ column.1.name := by
    intro column member
    apply unbroken.1
    rw [← written.columnsOf]
    exact List.mem_map.2 ⟨column, member, rfl⟩
  intro line member
  rcases List.mem_cons.1 member with rfl | member
  · exact ⟨document_nonempty written.schemaLine, document_unbroken written.schemaLine
      (schemaJson_texts written.settled columnsPlain)⟩
  · obtain ⟨row, inRows, items, serialized, emitted⟩ := row_of_line written.rowLines member
    have document := platform.document emitted
    exact ⟨document_nonempty document, document_unbroken document
      (serializeRow_texts serialized (unbroken.2 row inRows))⟩

/-- A written table is read with the policy that goes with it: the columns in their order, and
in every row the cells that were there. -/
theorem compact_table_arrives (platform : Platform) (table : ValueTable) {policy : ReferencePolicy}
    {mode : String} {overrides : Dictionary CodeText String} {maximumRows maximumBytes : Int}
    {payload : Payload}
    (serialized : serializeCompactTable platform table mode overrides maximumRows maximumBytes =
      .ok (some payload))
    (occupied : table.columns ≠ []) (unbroken : table.Unbroken)
    (matching : Matching policy mode overrides (typedColumns table maximumRows)) :
    ∃ frame, decodeCompactTableBase64 payload.base64 policy = .ok frame ∧
      frame.series.entries.map content =
        tableContent policy table.rows 0 (typedColumns table maximumRows) := by
  obtain ⟨checked, schema, lines, written, rfl⟩ := serializeCompactTable_lines serialized matching
  generalize typedColumns table maximumRows = columns at *
  have names : columnNames columns = table.columns.map Column.name := by
    rw [← written.columnsOf, List.map_map]
    rfl
  have distinct : (columnNames columns).Nodup := names ▸ table.distinct
  have named : [] ∉ columnNames columns := by
    rw [names]
    intro member
    obtain ⟨column, inside, empty⟩ := List.mem_map.1 member
    exact table.named column inside empty
  have nonempty : columns ≠ [] := by
    rintro rfl
    exact occupied (written.columnsOf.symm.trans rfl)
  have asked : ∀ column ∈ columns, column.2.reference = true →
      (columnMode policy column).isSome := by
    intro column member reference
    have here := written.bound column member
    rwa [if_pos reference] at here
  have count : columns.length = table.columns.length := by
    rw [← written.columnsOf, List.length_map]
  have widths : ∀ row ∈ table.rows, row.length = columns.length := by
    rw [count]
    exact table.widths
  have lineFacts := written.unbroken unbroken
  have read := readLines_payload (object_head written.schemaLine)
    (fun line member => (lineFacts line member).1) (fun line member => (lineFacts line member).2)
  have schemaLoaded : loadJson schema 1 = .ok (schemaJson (columns.map Prod.fst)
      (columns.map (schemaKind policy))
      ((encodedModes policy columns).map fun entry => (entry.1, entry.2.value))) := by
    unfold loadJson
    rw [loads_document written.schemaLine]
  have schemaRead := readSchema_schemaJson nonempty named distinct written.settled asked
  obtain ⟨effective, accepted⟩ := bindPolicy_matching matching checked distinct written.bound
  have rows : decodeRows (readColumns (tableSchema policy columns)) 1 lines =
      .ok (table.rows.map (transferredRow (tableColumns policy columns))) := by
    rw [readColumns_tableSchema distinct]
    exact decodeRows_lines (sameColumns written.settled asked) written.rowLines
      (by simpa [typedWrittenColumns] using widths) 1
  have series : (frameSeries policy.uuidSuffix
      (table.rows.map (transferredRow (tableColumns policy columns))) 0
      (tableColumns policy columns)).map content = tableContent policy table.rows 0 columns :=
    frameSeries_content widths [] columns rfl
  have seriesDistinct : ((frameSeries policy.uuidSuffix
      (table.rows.map (transferredRow (tableColumns policy columns))) 0
      (tableColumns policy columns)).map Prod.fst).Nodup := by
    have contents := tableContent_distinct matching distinct table.rows
    rw [← series, List.map_map] at contents
    exact contents
  refine ⟨⟨.ofItems (frameSeries policy.uuidSuffix
    (table.rows.map (transferredRow (tableColumns policy columns))) 0
    (tableColumns policy columns)), tableSchema policy columns, effective⟩, ?_, ?_⟩
  · unfold decodeCompactTableBase64 finishMaterialization
    rw [decodeBase64_payload]
    refine bind_eq_ok.2 ⟨_, read, bind_eq_ok.2 ⟨_, schemaLoaded, bind_eq_ok.2 ⟨_, schemaRead,
      bind_eq_ok.2 ⟨_, accepted, bind_eq_ok.2 ⟨_, rows, ?_⟩⟩⟩⟩⟩
    rw [readColumns_tableSchema distinct]
    rfl
  · rw [Dictionary.ofItems_entries seriesDistinct, series]

/-- A column of texts and a column of references, with cells that are missing. -/
def arrivingTable : ValueTable where
  columns := [⟨text "Имя", [.string]⟩, ⟨text "Ссылка", [.metadataObject]⟩]
  rows := [[.string (text "да"), .reference true (text "п") 7],
    [.undefined, .reference false [] 0]]
  named := by simp [text]
  distinct := by simp
  widths := by simp

def bothPolicy : ReferencePolicy := ⟨text "both", .empty, text "__uuid"⟩

theorem arriving_table_arrives :
    ∃ payload frame, serializeCompactTable compactPlatform arrivingTable "both" .empty 0 0 =
        .ok (some payload) ∧
      decodeCompactTableBase64 payload.base64 bothPolicy = .ok frame ∧
      frame.series.entries.map content = [
        (text "Имя", [some (.string (text "да")), none]),
        (text "Ссылка", [some (.string (text "п")), none]),
        (text "Ссылка__uuid", [some (.uuid 7), none])] := by
  have serialized : serializeCompactTable compactPlatform arrivingTable "both" .empty 0 0 =
      .ok (some _) := rfl
  have typed : typedColumns arrivingTable 0 = [(⟨text "Имя", [.string]⟩, ⟨"nullable_string", false⟩),
      (⟨text "Ссылка", [.metadataObject]⟩, ⟨"reference", true⟩)] := rfl
  have unbroken : arrivingTable.Unbroken := by
    constructor
    · simp only [arrivingTable, List.forall_mem_cons]
      decide
    · simp only [arrivingTable, List.forall_mem_cons, Value.texts]
      decide
  obtain ⟨frame, decoded, same⟩ := @compact_table_arrives compactPlatform arrivingTable bothPolicy
    "both" .empty 0 0 _ serialized (by simp [arrivingTable]) unbroken (by
      rw [typed]
      exact ⟨rfl, fun _ => rfl, by simp [bothPolicy, Dictionary.keys, Dictionary.empty],
        by simp [bothPolicy, text], by decide⟩)
  exact ⟨_, frame, serialized, decoded, same.trans (by rw [typed]; rfl)⟩

/-! ## Tables that are lost -/

/-- The reader refuses a table without columns. -/
theorem columnless_refused {maximumRows maximumBytes : Int}
    {payload : Payload}
    (serialized : serializeCompactTable platform table mode overrides maximumRows maximumBytes =
      .ok (some payload))
    (matching : Matching policy mode overrides (typedColumns table maximumRows))
    (columnless : table.columns = []) (frame : Frame) :
    decodeCompactTableBase64 payload.base64 policy ≠ .ok frame := by
  intro decoded
  obtain ⟨_, schema, lines, written, rfl⟩ := serializeCompactTable_lines serialized matching
  have unbroken : table.Unbroken := by
    refine ⟨by simp [columnless], fun row member value inside => ?_⟩
    have width := table.widths row member
    rw [columnless, List.length_nil, List.length_eq_zero_iff] at width
    subst width
    cases inside
  have lineFacts := written.unbroken unbroken
  have read := readLines_payload (object_head written.schemaLine)
    (fun line member => (lineFacts line member).1) (fun line member => (lineFacts line member).2)
  have untyped : typedColumns table maximumRows = [] := by
    have columnsOf := written.columnsOf
    rwa [columnless, List.map_eq_nil_iff] at columnsOf
  unfold decodeCompactTableBase64 finishMaterialization at decoded
  rw [decodeBase64_payload] at decoded
  obtain ⟨found, readFound, decoded⟩ := bind_eq_ok.1 decoded
  rw [read] at readFound
  cases readFound
  obtain ⟨value, loaded, decoded⟩ := bind_eq_ok.1 decoded
  obtain ⟨schemaRead, refused, _⟩ := bind_eq_ok.1 decoded
  unfold loadJson at loaded
  rw [loads_document written.schemaLine, untyped] at loaded
  cases loaded
  obtain ⟨keys, version, names, _, _⟩ := schemaFields (.number (.integer 1)) (.array [])
    (.array []) (.object [])
  obtain ⟨_, _, refused⟩ := bind_eq_ok.1 refused
  simp only [List.map_nil, encodedModes, List.filterMap_nil, version, names, stringList, strings] at refused
  obtain ⟨_, occupied, _⟩ := bind_eq_ok.1 refused
  exact (require_eq_ok.1 occupied).1 rfl

/-- A table without columns. -/
def columnlessTable : ValueTable where
  columns := []
  rows := []
  named := by simp
  distinct := by simp
  widths := by simp

/-- A table of one text with the next line character. -/
def brokenTable : ValueTable where
  columns := [⟨text "A", [.string]⟩]
  rows := [[.string [97, nextLine, 98]]]
  named := by simp [text]
  distinct := by simp
  widths := by simp

def plainPolicy : ReferencePolicy := ⟨text "presentation", .empty, text "__uuid"⟩

/-- A table that is written but not read with the policy that goes with it. -/
def Lost (table : ValueTable) (mode : String) (policy : ReferencePolicy) : Prop :=
  Matching policy mode .empty (typedColumns table 0) ∧
    ∃ payload, serializeCompactTable compactPlatform table mode .empty 0 0 = .ok (some payload) ∧
      ∀ frame, decodeCompactTableBase64 payload.base64 policy ≠ .ok frame

theorem columnless_lost : Lost columnlessTable "presentation" plainPolicy := by
  have matching : Matching plainPolicy "presentation" .empty (typedColumns columnlessTable 0) :=
    ⟨rfl, fun _ => rfl, by simp [plainPolicy, Dictionary.keys, Dictionary.empty],
      by simp [plainPolicy, text], by decide⟩
  obtain ⟨payload, serialized⟩ : ∃ payload, serializeCompactTable compactPlatform columnlessTable
      "presentation" .empty 0 0 = .ok (some payload) := ⟨_, rfl⟩
  exact ⟨matching, payload, serialized, columnless_refused serialized matching rfl⟩

theorem broken_lost : Lost brokenTable "presentation" plainPolicy := by
  have matching : Matching plainPolicy "presentation" .empty (typedColumns brokenTable 0) :=
    ⟨rfl, fun _ => rfl, by simp [plainPolicy, Dictionary.keys, Dictionary.empty],
      by simp [plainPolicy, text], by decide⟩
  obtain ⟨payload, serialized⟩ : ∃ payload, serializeCompactTable compactPlatform brokenTable
      "presentation" .empty 0 0 = .ok (some payload) := ⟨_, rfl⟩
  refine ⟨matching, payload, serialized, fun frame decoded => ?_⟩
  obtain ⟨_, schema, lines, written, rfl⟩ := serializeCompactTable_lines serialized matching
  have schemaUnbroken := document_unbroken written.schemaLine
    (schemaJson_texts written.settled (by decide))
  obtain ⟨first, later, rfl, unmarked⟩ := object_head written.schemaLine
  -- the only row is written on one line, with the character in it
  obtain ⟨line, others, ⟨items, row, emitted⟩, none, rfl⟩ :=
    List.forall₂_cons_left_iff.1 written.rowLines
  cases none
  cases row
  obtain rfl : ['[', '"', 'a', '\x85', 'b', '"', ']'] = line := Option.some.inj emitted
  have split : splitLines ((first :: later) ++ '\n' ::
      (['[', '"', 'a', '\x85', 'b', '"', ']'] ++ ['\n'])) =
        [first :: later, ['[', '"', 'a'], ['b', '"', ']']] := by
    unfold splitLines
    rw [splitLinesFrom_line schemaUnbroken]
    rfl
  have read := @readLines_content _ (later ++ '\n' ::
    (['[', '"', 'a', '\x85', 'b', '"', ']'] ++ ['\n'])) unmarked (by
      rw [← List.cons_append, split]
      simp) (by
      rw [← List.cons_append, split]
      simp)
  rw [← List.cons_append, split] at read
  unfold decodeCompactTableBase64 finishMaterialization at decoded
  rw [decodeBase64_payload] at decoded
  obtain ⟨found, readFound, decoded⟩ := bind_eq_ok.1 decoded
  have joined : [first :: later, ['[', '"', 'a', '\x85', 'b', '"', ']']].flatMap (· ++ ['\n']) =
      first :: (later ++ '\n' :: (['[', '"', 'a', '\x85', 'b', '"', ']'] ++ ['\n'])) := by simp
  rw [joined] at readFound
  cases read.symm.trans readFound
  obtain ⟨_, _, decoded⟩ := bind_eq_ok.1 decoded
  obtain ⟨_, _, decoded⟩ := bind_eq_ok.1 decoded
  obtain ⟨_, _, decoded⟩ := bind_eq_ok.1 decoded
  obtain ⟨_, rows, _⟩ := bind_eq_ok.1 decoded
  obtain ⟨_, loaded, _⟩ := bind_eq_ok.1 rows
  exact absurd loaded (by simp [loadJson, show loads ['[', '"', 'a'] = none from rfl])

theorem compact_tables_lost : Lost columnlessTable "presentation" plainPolicy ∧
    Lost brokenTable "presentation" plainPolicy :=
  ⟨columnless_lost, broken_lost⟩

end OnecRuntime.Tables
