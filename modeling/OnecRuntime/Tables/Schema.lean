import OnecRuntime.Tables.Rows

/-!
# The schema of a compact table

The schema line that the writer emits is read as the names of the columns, their kinds and
the modes of the reference columns, and a policy that asks for these modes is accepted.
-/

namespace OnecRuntime.Tables

open OnecRuntime.Library

/-- The columns of a table with the kinds that were found for them. -/
abbrev TypedColumns := List (Column × ColumnKind)

/-- The mode that a policy asks for. -/
def requestedMode (policy : ReferencePolicy) (name : CodeText) : Option ReferenceMode :=
  referenceMode ((policy.refColumns.get? name).getD policy.refs)

def columnMode (policy : ReferencePolicy) (column : Column × ColumnKind) : Option ReferenceMode :=
  if column.2.reference then requestedMode policy column.1.name else none

def schemaKind (policy : ReferencePolicy) (column : Column × ColumnKind) : String :=
  ((columnMode policy column).map ReferenceMode.value).getD column.2.kind

def columnNames (columns : TypedColumns) : List CodeText := columns.map fun column => column.1.name

def encodedModes (policy : ReferencePolicy) (columns : TypedColumns) : List (CodeText × ReferenceMode) :=
  columns.filterMap fun column => (columnMode policy column).map (column.1.name, ·)

/-- The policy that goes with a written table: it asks for the modes that the writer was given,
it names columns of the table only, and its suffix gives no identifier column a taken name. -/
structure Matching (policy : ReferencePolicy) (mode : String) (overrides : Dictionary CodeText String)
    (columns : TypedColumns) : Prop where
  refs : policy.refs = text mode
  overridden : ∀ name, policy.refColumns.get? name = (overrides.get? name).map text
  known : ∀ name ∈ policy.refColumns.keys, name ∈ columnNames columns
  suffixed : policy.uuidSuffix ≠ []
  fresh : ∀ column ∈ columns, columnMode policy column = some .both →
    column.1.name ++ policy.uuidSuffix ∉ columnNames columns

variable {policy : ReferencePolicy} {mode : String} {overrides : Dictionary CodeText String}

theorem referenceMode_value (mode : ReferenceMode) : referenceMode (text mode.value) = some mode := by
  cases mode <;> simp [referenceMode, ReferenceMode.value]

theorem referenceMode_checked {mode : String} (checked : checkReferenceMode mode = .ok ()) :
    ∃ selected, referenceMode (text mode) = some selected ∧ mode = selected.value := by
  rcases require_eq_ok.1 checked with rfl | rfl | rfl
  · exact ⟨.presentation, referenceMode_value .presentation, rfl⟩
  · exact ⟨.uuid, referenceMode_value .uuid, rfl⟩
  · exact ⟨.both, referenceMode_value .both, rfl⟩

variable {columns : TypedColumns}

/-- What the writer bound: the kinds of the schema and the modes of its reference columns. -/
theorem bindReferenceModes_spec {kinds : List String}
    {modes : List (CodeText × String)} (refs : policy.refs = text mode)
    (overridden : ∀ name, policy.refColumns.get? name = (overrides.get? name).map text)
    (settled : ∀ column ∈ columns, Settled column.2)
    (bound : bindReferenceModes mode overrides columns = .ok (kinds, modes)) :
    kinds = columns.map (schemaKind policy) ∧
      modes = (encodedModes policy columns).map (fun entry => (entry.1, entry.2.value)) ∧
      ∀ column ∈ columns, if column.2.reference then (columnMode policy column).isSome
        else overrides.get? column.1.name = none := by
  induction columns generalizing kinds modes with
  | nil =>
      cases bound
      exact ⟨rfl, rfl, by simp⟩
  | cons pair rest hypothesis =>
      obtain ⟨column, found⟩ := pair
      have tail := fun (kinds : List String) (modes : List (CodeText × String)) => @hypothesis
        kinds modes fun other member => settled other (List.mem_cons_of_mem _ member)
      have here := settled _ List.mem_cons_self
      unfold bindReferenceModes at bound
      split at bound
      · next reference =>
          obtain ⟨_, checked, bound⟩ := bind_eq_ok.1 bound
          obtain ⟨⟨otherKinds, otherModes⟩, later, bound⟩ := bind_eq_ok.1 bound
          cases bound
          obtain ⟨rfl, rfl, others⟩ := tail _ _ later
          obtain ⟨selected, requested, same⟩ := referenceMode_checked checked
          have asked : columnMode policy (column, found) = some selected := by
            unfold columnMode requestedMode
            rw [if_pos reference, overridden, refs]
            cases stored : overrides.get? column.name with
            | none => simpa [stored] using requested
            | some override => simpa [stored] using requested
          refine ⟨?_, ?_, ?_⟩
          · simp [schemaKind, asked, same]
          · simp [encodedModes, asked, same]
          · simp only [List.forall_mem_cons]
            exact ⟨by simp [reference, asked], others⟩
      · next plain =>
          obtain ⟨_, ordinary, bound⟩ := bind_eq_ok.1 bound
          obtain ⟨⟨otherKinds, otherModes⟩, later, bound⟩ := bind_eq_ok.1 bound
          cases bound
          obtain ⟨rfl, rfl, others⟩ := tail _ _ later
          have none : columnMode policy (column, found) = none := if_neg plain
          have named : found.kind ≠ "" := by
            rintro empty
            rcases here with ⟨reference, _⟩ | ⟨_, member⟩
            · exact plain reference
            · rw [empty] at member
              revert member
              decide
          refine ⟨?_, ?_, ?_⟩
          · simp [schemaKind, none, named]
          · simp [encodedModes, none]
          · simp only [List.forall_mem_cons]
            exact ⟨by simpa [plain] using require_eq_ok.1 ordinary, others⟩

/-! ## Reading the schema -/

theorem encodedModes_names (columns : TypedColumns) :
    ((encodedModes policy columns).map Prod.fst).Sublist (columnNames columns) := by
  induction columns with
  | nil => exact .slnil
  | cons column rest hypothesis =>
      unfold encodedModes columnNames at *
      cases asked : columnMode policy column with
      | none => simpa [asked] using hypothesis.cons column.1.name
      | some mode => simpa [asked] using hypothesis

theorem mem_encodedModes {name : CodeText} {mode : ReferenceMode} :
    (name, mode) ∈ encodedModes policy columns ↔
      ∃ column ∈ columns, columnMode policy column = some mode ∧ column.1.name = name := by
  simp only [encodedModes, List.mem_filterMap, Option.map_eq_some_iff, Prod.mk.injEq]
  constructor
  · rintro ⟨column, member, _, asked, rfl, rfl⟩
    exact ⟨column, member, asked, rfl⟩
  · rintro ⟨column, member, asked, rfl⟩
    exact ⟨column, member, mode, asked, rfl, rfl⟩

/-- A column is found by its name. -/
theorem map_at_name {β : Type} (distinct : (columnNames columns).Nodup)
    (f : Column × ColumnKind → β) {column : Column × ColumnKind} (member : column ∈ columns) :
    (columns.map f)[(columnNames columns).idxOf column.1.name]? = some (f column) := by
  induction columns with
  | nil => cases member
  | cons first rest hypothesis =>
      unfold columnNames at *
      rw [List.map_cons, List.nodup_cons] at distinct
      rcases List.mem_cons.1 member with rfl | later
      · simp
      · have apart : first.1.name ≠ column.1.name := fun same =>
          distinct.1 (List.mem_map.2 ⟨column, later, same.symm⟩)
        rw [List.map_cons, List.map_cons, List.idxOf_cons_ne _ apart, List.getElem?_cons_succ]
        exact hypothesis distinct.2 later

theorem strings_map {α : Type} (items : List α) (f : α → CodeText) :
    strings (items.map fun item => .string (f item)) = some (items.map f) := by
  induction items with
  | nil => rfl
  | cons item rest hypothesis => simp [strings, hypothesis]

/-- The modes of the schema line are stored one after the other. -/
theorem readReferenceModes_encoded {columns kinds : List CodeText}
    {entries : List (CodeText × ReferenceMode)} {modes : Dictionary CodeText ReferenceMode}
    (known : ∀ entry ∈ entries, entry.1 ∈ columns ∧
      kinds[columns.idxOf entry.1]? = some (text entry.2.value)) :
    readReferenceModes columns kinds
        (entries.map fun entry => (entry.1, Json.string (text entry.2.value))) modes =
      .ok (entries.foldl (fun built entry => built.set entry.1 entry.2) modes) := by
  induction entries generalizing modes with
  | nil => rfl
  | cons entry rest hypothesis =>
      obtain ⟨named, kind⟩ := known entry List.mem_cons_self
      have tail := @hypothesis (modes.set entry.1 entry.2)
        fun other member => known other (List.mem_cons_of_mem _ member)
      simp only [List.map_cons, readReferenceModes, require, named, if_true, ok_bind,
        referenceMode_value, kind, tail, List.foldl_cons]

theorem checkScalarKinds_eq_ok {modes : Dictionary CodeText ReferenceMode}
    {entries : List (CodeText × CodeText)} (known : ∀ entry ∈ entries, entry.1 ∈ modes.keys ∨
      entry.2 ∈ scalarKinds ∧
        entry.2 ∉ [text ReferenceMode.presentation.value, text ReferenceMode.both.value]) :
    checkScalarKinds modes entries = .ok () := by
  induction entries with
  | nil => rfl
  | cons entry rest hypothesis =>
      have tail := hypothesis fun other member => known other (List.mem_cons_of_mem _ member)
      exact bind_eq_ok.2 ⟨(), require_eq_ok.2 (known entry List.mem_cons_self), tail⟩

theorem plainKinds_scalar : ∀ kind ∈ plainKinds, text kind ∈ scalarKinds ∧
    text kind ∉ [text ReferenceMode.presentation.value, text ReferenceMode.both.value] := by
  simp [plainKinds, scalarKinds, ReferenceMode.value]

/-- The schema that is read from the line of a table. -/
def tableSchema (policy : ReferencePolicy) (columns : TypedColumns) : CompactTableSchema where
  version := 1
  columns := columnNames columns
  kinds := columns.map fun column => text (schemaKind policy column)
  referenceModes := .ofItems (encodedModes policy columns)

/-- The fields of the schema line. -/
theorem schemaFields (version columns kinds modes : Json) :
    let fields := Dictionary.ofItems [(text "version", version), (text "columns", columns),
      (text "kinds", kinds), (text "reference_modes", modes)]
    fields.keys = schemaKeys ∧ fields.get? (text "version") = some version ∧
      fields.get? (text "columns") = some columns ∧ fields.get? (text "kinds") = some kinds ∧
      fields.get? (text "reference_modes") = some modes := by
  intro fields
  have entries : fields.entries = [(text "version", version), (text "columns", columns),
      (text "kinds", kinds), (text "reference_modes", modes)] :=
    Dictionary.ofItems_entries (by simp)
  have found : ∀ {name : CodeText} {value : Json}, (name, value) ∈ fields.entries →
      fields.get? name = some value := fun member => Dictionary.get?_eq_some.2 member
  rw [Dictionary.keys]
  refine ⟨by simp [entries, schemaKeys], found ?_, found ?_, found ?_, found ?_⟩ <;>
    simp [entries]

theorem readSchema_of_fields {members : List (CodeText × Json)} {columns kinds : List CodeText}
    {rawModes : List (CodeText × Json)} {modes : Dictionary CodeText ReferenceMode}
    (keys : (Dictionary.ofItems members).keys = schemaKeys)
    (version : (Dictionary.ofItems members).get? (text "version") = some (.number (.integer 1)))
    (names : stringList ((Dictionary.ofItems members).get? (text "columns")) = some columns)
    (occupied : columns ≠ []) (named : [] ∉ columns) (distinct : columns.Nodup)
    (kindList : stringList ((Dictionary.ofItems members).get? (text "kinds")) = some kinds)
    (sizes : kinds.length = columns.length)
    (references : (Dictionary.ofItems members).get? (text "reference_modes") =
      some (.object rawModes))
    (read : readReferenceModes columns kinds (Dictionary.ofItems rawModes).entries .empty =
      .ok modes)
    (scalars : checkScalarKinds modes (columns.zip kinds) = .ok ()) :
    readSchema (.object members) = .ok ⟨1, columns, kinds, modes⟩ := by
  unfold readSchema
  simp only [require, keys, version, names, kindList, references, occupied, named, distinct, sizes,
    read, scalars, ok_bind, if_true, ne_eq, not_false_eq_true, and_self]
  rfl

theorem readSchema_schemaJson (nonempty : columns ≠ [])
    (named : [] ∉ columnNames columns) (distinct : (columnNames columns).Nodup)
    (settled : ∀ column ∈ columns, Settled column.2)
    (asked : ∀ column ∈ columns, column.2.reference = true → (columnMode policy column).isSome) :
    readSchema (schemaJson (columns.map Prod.fst) (columns.map (schemaKind policy))
        ((encodedModes policy columns).map fun entry => (entry.1, entry.2.value))) =
      .ok (tableSchema policy columns) := by
  have modeNames : ((encodedModes policy columns).map Prod.fst).Nodup :=
    distinct.sublist (encodedModes_names columns)
  have rawModes : (Dictionary.ofItems ((encodedModes policy columns).map fun entry =>
      (entry.1, Json.string (text entry.2.value)))).entries =
        (encodedModes policy columns).map fun entry => (entry.1, Json.string (text entry.2.value)) :=
    Dictionary.ofItems_entries (by simpa [Function.comp_def] using modeNames)
  have modes := @readReferenceModes_encoded (columnNames columns)
    (columns.map fun column => text (schemaKind policy column))
    (encodedModes policy columns) .empty (by
      rintro ⟨name, mode⟩ member
      obtain ⟨column, inside, requested, rfl⟩ := mem_encodedModes.1 member
      refine ⟨List.mem_map.2 ⟨column, inside, rfl⟩, ?_⟩
      rw [map_at_name distinct _ inside]
      simp [schemaKind, requested])
  have scalars : checkScalarKinds (Dictionary.ofItems (encodedModes policy columns))
      ((columnNames columns).zip (columns.map fun column => text (schemaKind policy column))) =
        .ok () := by
    apply checkScalarKinds_eq_ok
    rw [columnNames, List.zip_map']
    intro entry member
    obtain ⟨column, inside, rfl⟩ := List.mem_map.1 member
    cases requested : columnMode policy column with
    | some mode =>
        left
        rw [Dictionary.keys, Dictionary.ofItems_entries modeNames]
        exact List.mem_map.2 ⟨(column.1.name, mode),
          mem_encodedModes.2 ⟨column, inside, requested, rfl⟩, rfl⟩
    | none =>
        right
        rcases settled column inside with ⟨reference, _⟩ | ⟨_, plain⟩
        · have some := asked column inside reference
          rw [requested] at some
          cases some
        · simpa [schemaKind, requested] using plainKinds_scalar _ plain
  obtain ⟨keys, version, names, kinds, references⟩ := schemaFields (.number (.integer 1))
    (.array ((columns.map Prod.fst).map fun column => .string column.name))
    (.array ((columns.map (schemaKind policy)).map fun kind => .string (text kind)))
    (.object (((encodedModes policy columns).map fun entry => (entry.1, entry.2.value)).map
      fun entry => (entry.1, .string (text entry.2))))
  refine readSchema_of_fields keys version ?_ ?_ named distinct ?_ ?_ references ?_ scalars
  · rw [names, stringList, strings_map, List.map_map]
    rfl
  · simpa [columnNames] using nonempty
  · rw [kinds, stringList, strings_map, List.map_map]
    rfl
  · simp [columnNames]
  · rw [List.map_map]
    exact (congrArg (readReferenceModes _ _ · _) rawModes).trans modes

/-! ## Binding the policy -/

theorem bindModes_encoded {names : List CodeText} {default : ReferenceMode}
    (refs : referenceMode policy.refs = some default) {entries : List (CodeText × ReferenceMode)}
    {effective : Dictionary CodeText ReferenceMode}
    (asked : ∀ entry ∈ entries, requestedMode policy entry.1 = some entry.2)
    (fresh : ∀ entry ∈ entries, entry.2 = .both → entry.1 ++ policy.uuidSuffix ∉ names) :
    ∃ bound, bindModes names policy default entries effective = .ok bound := by
  induction entries generalizing effective with
  | nil => exact ⟨effective, rfl⟩
  | cons entry rest hypothesis =>
      obtain ⟨name, encoded⟩ := entry
      obtain ⟨bound, tail⟩ := @hypothesis (effective.set name encoded)
        (fun other member => asked other (List.mem_cons_of_mem _ member))
        (fun other member => fresh other (List.mem_cons_of_mem _ member))
      have here := asked _ List.mem_cons_self
      have requested : requestedOr policy default name = some encoded := by
        unfold requestedMode at here
        unfold requestedOr
        cases stored : policy.refColumns.get? name with
        | none =>
            simp only [stored, Option.getD_none] at here
            exact refs.symm.trans here
        | some mode => simpa [stored] using here
      have clear : ¬(encoded = .both ∧ name ++ policy.uuidSuffix ∈ names) := by
        rintro ⟨both, taken⟩
        exact fresh _ List.mem_cons_self both taken
      refine ⟨bound, ?_⟩
      unfold bindModes
      simp only [requested, require, if_true, clear, not_false_eq_true, ok_bind]
      exact tail

/-- A matching policy is accepted for the schema of its table. -/
theorem bindPolicy_matching
    (matching : Matching policy mode overrides columns) (checked : checkReferenceMode mode = .ok ())
    (distinct : (columnNames columns).Nodup)
    (bound : ∀ column ∈ columns, if column.2.reference then (columnMode policy column).isSome
      else overrides.get? column.1.name = none) :
    ∃ effective, bindPolicy (tableSchema policy columns) policy = .ok effective := by
  obtain ⟨default, selected, _⟩ := referenceMode_checked checked
  rw [← matching.refs] at selected
  have modeNames : ((encodedModes policy columns).map Prod.fst).Nodup :=
    distinct.sublist (encodedModes_names columns)
  have entries : (tableSchema policy columns).referenceModes.entries = encodedModes policy columns :=
    Dictionary.ofItems_entries modeNames
  have known : ∀ name ∈ policy.refColumns.keys, name ∈
      (tableSchema policy columns).referenceModes.keys := by
    intro name member
    obtain ⟨column, inside, rfl⟩ := List.mem_map.1 (matching.known name member)
    obtain ⟨stored, value⟩ := Dictionary.mem_keys.1 member
    rw [matching.overridden] at value
    have bound := bound column inside
    split at bound
    · obtain ⟨mode, asked⟩ := Option.isSome_iff_exists.1 bound
      rw [Dictionary.keys, entries]
      exact List.mem_map.2 ⟨(column.1.name, mode), mem_encodedModes.2 ⟨column, inside, asked, rfl⟩,
        rfl⟩
    · rw [bound] at value
      cases value
  obtain ⟨effective, accepted⟩ := @bindModes_encoded policy (columnNames columns) default
    selected (encodedModes policy columns) .empty
    (by
      rintro ⟨name, mode⟩ member
      obtain ⟨column, inside, asked, rfl⟩ := mem_encodedModes.1 member
      unfold columnMode at asked
      split at asked
      · exact asked
      · cases asked)
    (by
      rintro ⟨name, mode⟩ member rfl
      obtain ⟨column, inside, asked, rfl⟩ := mem_encodedModes.1 member
      exact matching.fresh column inside asked)
  refine ⟨effective, ?_⟩
  unfold bindPolicy
  simp only [require, ne_eq, matching.suffixed, not_false_eq_true, if_true, selected, ok_bind,
    entries]
  rw [if_pos known]
  exact accepted

/-- The columns as the rows are read. -/
def tableColumns (policy : ReferencePolicy) (columns : TypedColumns) : List ReadColumn :=
  columns.map fun column =>
    ⟨column.1.name, text (schemaKind policy column), columnMode policy column⟩

theorem readColumns_tableSchema (distinct : (columnNames columns).Nodup) :
    readColumns (tableSchema policy columns) = tableColumns policy columns := by
  have modeNames : ((encodedModes policy columns).map Prod.fst).Nodup :=
    distinct.sublist (encodedModes_names columns)
  have stored : ∀ column ∈ columns,
      (Dictionary.ofItems (encodedModes policy columns)).get? column.1.name =
        columnMode policy column := by
    intro column member
    have entries := Dictionary.ofItems_entries modeNames
    cases asked : columnMode policy column with
    | some mode =>
        rw [Dictionary.get?_eq_some, entries]
        exact mem_encodedModes.2 ⟨column, member, asked, rfl⟩
    | none =>
        rw [Dictionary.get?_eq_none, Dictionary.keys, entries]
        intro present
        obtain ⟨⟨_, mode⟩, inside, same⟩ := List.mem_map.1 present
        obtain ⟨other, otherMember, requested, named⟩ := mem_encodedModes.1 inside
        have equal : other = column := List.inj_on_of_nodup_map distinct otherMember member
          (named.trans same)
        rw [equal, asked] at requested
        cases requested
  unfold readColumns tableColumns tableSchema columnNames
  simp only [List.zip_map', List.map_map]
  exact List.map_congr_left fun column member => by
    simp only [Function.comp_apply, stored column member]

/-- The columns of the writer and of the reader agree. -/
theorem sameColumns (settled : ∀ column ∈ columns, Settled column.2)
    (asked : ∀ column ∈ columns, column.2.reference = true → (columnMode policy column).isSome) :
    List.Forall₂ SameColumn
      (columns.map fun column => ⟨column.1.name, column.2, schemaKind policy column⟩)
      (tableColumns policy columns) := by
  unfold tableColumns
  rw [List.forall₂_map_left_iff, List.forall₂_map_right_iff, List.forall₂_same]
  rintro ⟨column, kind, reference⟩ member
  rcases settled _ member with ⟨isReference, named⟩ | ⟨isPlain, plain⟩
  · obtain ⟨mode, requested⟩ := Option.isSome_iff_exists.1 (asked _ member isReference)
    cases isReference
    cases named
    simp only [schemaKind, requested, Option.map_some, Option.getD_some]
    exact .reference rfl
  · cases isPlain
    have none : columnMode policy (column, ⟨kind, false⟩) = none := rfl
    simp only [schemaKind, none, Option.map_none, Option.getD_none]
    exact .plain plain

end OnecRuntime.Tables
