import OnecRuntime.Container.Codec

/-!
# What is written

The bytes of a container as a function of its entries: the header, the table of contents
in its place and the documents, the first at the end of the space reserved for the table.
The entries that can be written are those whose names have an encoding and whose sizes
and offsets fit the fields of the format.
-/

namespace OnecRuntime.Container

open OnecRuntime.Library

def attributeBytes (name : Name) : Bytes :=
  zeros fileAttributesSize ++ (encodeUtf16 name).getD [] ++ zeros 4

def entryBytes (entry : Name × Bytes) : Bytes :=
  documentBytes (attributeBytes entry.1) 0 ++ documentBytes entry.2 defaultBlockSize

/-- The offsets of the documents of entries that start at some offset. -/
def offsets : Nat → List (Name × Bytes) → List (Nat × Nat)
  | _, [] => []
  | offset, entry :: rest =>
      (offset, offset + (documentBytes (attributeBytes entry.1) 0).length) ::
        offsets (offset + (entryBytes entry).length) rest

def indexEntryBytes (place : Nat × Nat) : Bytes :=
  littleEndian 4 place.1 ++ littleEndian 4 place.2 ++ littleEndian 4 endMarker

def headerBytes (count : Nat) : Bytes :=
  littleEndian 4 endMarker ++ littleEndian 4 defaultBlockSize ++ littleEndian 4 count ++
    littleEndian 4 0

/-- The offset of the first document after the space of the table. -/
def firstOffset : Nat := indexOffset + blockHeaderSize + defaultBlockSize

def NameAllowed (name : Name) : Prop :=
  name ≠ [] ∧ (0 : CodePoint) ∉ name ∧ ∀ point ∈ name, ¬isSurrogate point.val

def EntryAllowed (entry : Name × Bytes) : Prop :=
  NameAllowed entry.1 ∧ (attributeBytes entry.1).length ≤ endMarker ∧
    max defaultBlockSize entry.2.length ≤ endMarker

def PlaceAllowed (place : Nat × Nat) : Prop := place.1 ≤ endMarker ∧ place.2 ≤ endMarker

/-- The entries that fit the format. -/
def Writable (entries : Dictionary Name Bytes) : Prop :=
  entries.entries ≠ [] ∧ (∀ entry ∈ entries.entries, EntryAllowed entry) ∧
    ∀ place ∈ offsets firstOffset (sortedEntries entries), PlaceAllowed place

-- The members of the name are tested, not all code points.
instance (name : Name) : Decidable (NameAllowed name) :=
  @instDecidableAnd _ _ inferInstance
    (@instDecidableAnd _ _ inferInstance (List.decidableBAll _ name))

instance (entry : Name × Bytes) : Decidable (EntryAllowed entry) :=
  inferInstanceAs (Decidable (_ ∧ _ ∧ _))

instance (place : Nat × Nat) : Decidable (PlaceAllowed place) :=
  inferInstanceAs (Decidable (_ ∧ _))

instance (entries : Dictionary Name Bytes) : Decidable (Writable entries) :=
  inferInstanceAs (Decidable (_ ∧ _ ∧ _))

/-! ## Lengths -/

@[simp] theorem indexEntryBytes_length (place : Nat × Nat) :
    (indexEntryBytes place).length = indexEntrySize := by
  simp [indexEntryBytes, indexEntrySize]

@[simp] theorem headerBytes_length (count : Nat) : (headerBytes count).length = indexOffset := by
  simp [headerBytes, indexOffset]

@[simp] theorem offsets_length (offset : Nat) (entries : List (Name × Bytes)) :
    (offsets offset entries).length = entries.length := by
  induction entries generalizing offset with
  | nil => rfl
  | cons entry rest hypothesis => simp [offsets, hypothesis]

theorem index_length (table : List (Nat × Nat)) :
    (table.flatMap indexEntryBytes).length = indexEntrySize * table.length := by
  induction table with
  | nil => rfl
  | cons place rest hypothesis =>
      simp only [List.flatMap_cons, List.length_append, indexEntryBytes_length, hypothesis,
        List.length_cons, Nat.mul_succ]
      omega

/-- Offsets that fit the format leave room for the table. -/
theorem offsets_bound {offset : Nat} {entries : List (Name × Bytes)}
    (allowed : ∀ entry ∈ entries, EntryAllowed entry)
    (fit : ∀ place ∈ offsets offset entries, PlaceAllowed place) (nonempty : entries ≠ []) :
    offset + indexEntrySize * entries.length ≤ endMarker + indexEntrySize := by
  induction entries generalizing offset with
  | nil => exact absurd rfl nonempty
  | cons entry rest hypothesis =>
      have first := (fit _ List.mem_cons_self).1
      cases rest with
      | nil =>
          simp only [List.length_singleton]
          omega
      | cons second later =>
          have tail := hypothesis (fun other member => allowed other (List.mem_cons_of_mem _ member))
            (fun place member => fit place (List.mem_cons_of_mem _ member)) (by simp)
          have entryAllowed := allowed entry List.mem_cons_self
          have size : indexEntrySize ≤ (entryBytes entry).length := by
            unfold entryBytes
            rw [List.length_append, documentBytes_length entryAllowed.2.2]
            unfold indexEntrySize blockHeaderSize
            omega
          simp only [List.length_cons, Nat.mul_succ] at tail ⊢
          omega

/-! ## The writer -/

theorem packInt_eq_ok {value : Nat} {packed : Bytes} :
    packInt value = .ok packed ↔ value ≤ endMarker ∧ packed = littleEndian 4 value := by
  constructor
  · intro done
    obtain ⟨_, fits, done⟩ := bind_eq_ok.1 done
    cases done
    exact ⟨require_eq_ok.1 fits, rfl⟩
  · rintro ⟨fits, rfl⟩
    exact bind_eq_ok.2 ⟨(), require_eq_ok.2 fits, rfl⟩

theorem packHeader_eq_ok {count : Nat} {packed : Bytes} :
    packHeader count = .ok packed ↔ count ≤ endMarker ∧ packed = headerBytes count := by
  constructor
  · intro done
    obtain ⟨_, field, done⟩ := bind_eq_ok.1 done
    obtain ⟨fits, rfl⟩ := packInt_eq_ok.1 field
    cases done
    exact ⟨fits, rfl⟩
  · rintro ⟨fits, rfl⟩
    exact bind_eq_ok.2 ⟨_, packInt_eq_ok.2 ⟨fits, rfl⟩, rfl⟩

theorem packIndexEntry_eq_ok {place : Nat × Nat} {packed : Bytes} :
    packIndexEntry place = .ok packed ↔ PlaceAllowed place ∧ packed = indexEntryBytes place := by
  constructor
  · intro done
    obtain ⟨_, first, done⟩ := bind_eq_ok.1 done
    obtain ⟨attributeFits, rfl⟩ := packInt_eq_ok.1 first
    obtain ⟨_, second, done⟩ := bind_eq_ok.1 done
    obtain ⟨dataFits, rfl⟩ := packInt_eq_ok.1 second
    cases done
    exact ⟨⟨attributeFits, dataFits⟩, rfl⟩
  · rintro ⟨⟨attributeFits, dataFits⟩, rfl⟩
    exact bind_eq_ok.2 ⟨_, packInt_eq_ok.2 ⟨attributeFits, rfl⟩,
      bind_eq_ok.2 ⟨_, packInt_eq_ok.2 ⟨dataFits, rfl⟩, rfl⟩⟩

theorem packIndex_eq_ok {table : List (Nat × Nat)} {packed : Bytes} :
    packIndex table = .ok packed ↔
      (∀ place ∈ table, PlaceAllowed place) ∧ packed = table.flatMap indexEntryBytes := by
  induction table generalizing packed with
  | nil => simp [packIndex, eq_comm]
  | cons place rest hypothesis =>
      simp only [List.forall_mem_cons, List.flatMap_cons]
      constructor
      · intro done
        obtain ⟨_, first, done⟩ := bind_eq_ok.1 done
        obtain ⟨placeFits, rfl⟩ := packIndexEntry_eq_ok.1 first
        obtain ⟨_, later, done⟩ := bind_eq_ok.1 done
        obtain ⟨restFits, rfl⟩ := hypothesis.1 later
        cases done
        exact ⟨⟨placeFits, restFits⟩, rfl⟩
      · rintro ⟨⟨placeFits, restFits⟩, rfl⟩
        exact bind_eq_ok.2 ⟨_, packIndexEntry_eq_ok.2 ⟨placeFits, rfl⟩,
          bind_eq_ok.2 ⟨_, hypothesis.2 ⟨restFits, rfl⟩, rfl⟩⟩

theorem entryAttributes_eq_ok {name : Name} {attributes : Bytes} :
    entryAttributes name = .ok attributes ↔
      NameAllowed name ∧ attributes = attributeBytes name := by
  have encodable : (∀ point ∈ name, ¬isSurrogate point.val) ↔ encodeUtf16 name ≠ none := by
    rw [Ne, encodeUtf16_eq_none]
    push Not
    rfl
  unfold NameAllowed attributeBytes
  rw [encodable]
  constructor
  · intro done
    obtain ⟨_, plain, done⟩ := bind_eq_ok.1 done
    obtain ⟨_, encoded, done⟩ := bind_eq_ok.1 done
    cases done
    obtain ⟨nonempty, unterminated⟩ := require_eq_ok.1 plain
    unfold encodedName at encoded
    split at encoded
    · next found =>
        cases encoded
        exact ⟨⟨nonempty, unterminated, by simp [found]⟩, by simp [found]⟩
    · cases encoded
  · rintro ⟨⟨nonempty, unterminated, found⟩, rfl⟩
    obtain ⟨encoded, found⟩ := Option.ne_none_iff_exists'.1 found
    refine bind_eq_ok.2 ⟨(), require_eq_ok.2 ⟨nonempty, unterminated⟩,
      bind_eq_ok.2 ⟨encoded, ?_, ?_⟩⟩
    · simp only [encodedName, found]
    · simp only [found, Option.getD_some]
      rfl

theorem writeEntries_eq_ok {stream final : Bytes} {ordered : List (Name × Bytes)}
    {table : List (Nat × Nat)} :
    writeEntries stream ordered = .ok (final, table) ↔
      (∀ entry ∈ ordered, EntryAllowed entry) ∧ final = stream ++ ordered.flatMap entryBytes ∧
        table = offsets stream.length ordered := by
  induction ordered generalizing stream final table with
  | nil => simp [writeEntries, offsets, eq_comm]
  | cons entry rest hypothesis =>
      obtain ⟨name, payload⟩ := entry
      simp only [List.forall_mem_cons, List.flatMap_cons]
      have streams : stream ++ documentBytes (attributeBytes name) 0 ++
          documentBytes payload defaultBlockSize = stream ++ entryBytes (name, payload) := by
        simp [entryBytes]
      constructor
      · intro done
        obtain ⟨_, attributes, done⟩ := bind_eq_ok.1 done
        obtain ⟨nameAllowed, rfl⟩ := entryAttributes_eq_ok.1 attributes
        obtain ⟨⟨_, _⟩, named, done⟩ := bind_eq_ok.1 done
        obtain ⟨attributesFit, rfl, rfl⟩ := writeDocument_end.1 named
        obtain ⟨⟨_, _⟩, written, done⟩ := bind_eq_ok.1 done
        obtain ⟨dataFits, rfl, rfl⟩ := writeDocument_end.1 written
        obtain ⟨⟨_, _⟩, later, done⟩ := bind_eq_ok.1 done
        cases done
        rw [streams] at later
        obtain ⟨restAllowed, rfl, rfl⟩ := hypothesis.1 later
        refine ⟨⟨⟨nameAllowed, by simpa using attributesFit, dataFits⟩, restAllowed⟩,
          List.append_assoc _ _ _, ?_⟩
        simp only [offsets, List.length_append]
      · rintro ⟨⟨⟨nameAllowed, attributesFit, dataFits⟩, restAllowed⟩, rfl, rfl⟩
        have later := hypothesis.2 ⟨restAllowed, rfl,
          rfl (a := offsets (stream ++ entryBytes (name, payload)).length rest)⟩
        rw [← streams] at later
        refine bind_eq_ok.2 ⟨_, entryAttributes_eq_ok.2 ⟨nameAllowed, rfl⟩, bind_eq_ok.2
          ⟨(_, _), writeDocument_end.2 ⟨by simpa using attributesFit, rfl, rfl⟩, bind_eq_ok.2
            ⟨(_, _), writeDocument_end.2 ⟨dataFits, rfl, rfl⟩, bind_eq_ok.2
              ⟨(_, _), later, ?_⟩⟩⟩⟩
        rw [streams, List.append_assoc]
        simp only [offsets, List.length_append]
        rfl

end OnecRuntime.Container
