import OnecRuntime.Container.Layout

/-!
# Writing and reading a container

A container with at most forty-two entries is read back as it was written. With one
entry more the table is larger than the space reserved for it: it is written over the
head of the first document, and the reader refuses what the writer returned.
-/

namespace OnecRuntime.Container

open OnecRuntime.Library

/-! ## What the builder returns -/

/-- The bytes of the reserved space and of the documents. -/
def unindexed (ordered : List (Name × Bytes)) : Bytes :=
  headerBytes ordered.length ++ zeros (blockHeaderSize + defaultBlockSize) ++
    ordered.flatMap entryBytes

def tableBytes (ordered : List (Name × Bytes)) : Bytes :=
  (offsets firstOffset ordered).flatMap indexEntryBytes

theorem tableBytes_length (ordered : List (Name × Bytes)) :
    (tableBytes ordered).length = indexEntrySize * ordered.length := by
  rw [tableBytes, index_length, offsets_length]

theorem sortedEntries_perm (entries : Dictionary Name Bytes) :
    (sortedEntries entries).Perm entries.entries :=
  List.perm_insertionSort _ _

theorem sortedEntries_length (entries : Dictionary Name Bytes) :
    (sortedEntries entries).length = entries.entries.length :=
  (sortedEntries_perm entries).length_eq

theorem sortedEntries_nodup (entries : Dictionary Name Bytes) :
    ((sortedEntries entries).map Prod.fst).Nodup :=
  ((sortedEntries_perm entries).map Prod.fst).nodup_iff.2 entries.distinct

theorem reserved_length (count : Nat) :
    (headerBytes count ++ zeros (blockHeaderSize + defaultBlockSize)).length = firstOffset := by
  simp [firstOffset, Nat.add_assoc]

variable {entries : Dictionary Name Bytes}

/-- The table of entries that can be written is no larger than a document may be. -/
theorem table_fits (writable : Writable entries) :
    max defaultBlockSize (tableBytes (sortedEntries entries)).length ≤ endMarker := by
  obtain ⟨nonempty, allowed, fit⟩ := writable
  have same := sortedEntries_perm entries
  have bound := offsets_bound (fun entry member => allowed entry (same.mem_iff.1 member)) fit
    (fun none => nonempty (by rwa [none, List.nil_perm] at same))
  rw [tableBytes_length]
  unfold firstOffset indexOffset blockHeaderSize defaultBlockSize indexEntrySize endMarker at *
  omega

variable {payload : Bytes}

theorem buildContainer_eq_ok :
    buildContainer entries = .ok payload ↔
      Writable entries ∧ payload = writeAt (unindexed (sortedEntries entries)) indexOffset
        (documentBytes (tableBytes (sortedEntries entries)) defaultBlockSize) := by
  have members : ∀ entry, entry ∈ sortedEntries entries ↔ entry ∈ entries.entries :=
    fun _ => (sortedEntries_perm entries).mem_iff
  have empty : sortedEntries entries = [] ↔ entries.entries = [] := by
    rw [← List.length_eq_zero_iff, sortedEntries_length, List.length_eq_zero_iff]
  constructor
  · intro done
    obtain ⟨_, nonempty, done⟩ := bind_eq_ok.1 done
    obtain ⟨_, _, done⟩ := bind_eq_ok.1 done
    obtain ⟨_, header, done⟩ := bind_eq_ok.1 done
    obtain ⟨_, rfl⟩ := packHeader_eq_ok.1 header
    obtain ⟨⟨_, _⟩, written, done⟩ := bind_eq_ok.1 done
    obtain ⟨allowed, rfl, rfl⟩ := writeEntries_eq_ok.1 written
    obtain ⟨_, packed, done⟩ := bind_eq_ok.1 done
    obtain ⟨fit, rfl⟩ := packIndex_eq_ok.1 packed
    obtain ⟨⟨_, _⟩, document, done⟩ := bind_eq_ok.1 done
    obtain ⟨_, rfl, rfl⟩ := writeDocument_eq_ok.1 document
    cases done
    rw [reserved_length] at fit ⊢
    refine ⟨⟨fun none => require_eq_ok.1 nonempty (empty.2 none), ?_, fit⟩, rfl⟩
    exact fun entry member => allowed entry ((members entry).2 member)
  · rintro ⟨writable, rfl⟩
    have tableFits := table_fits writable
    obtain ⟨nonempty, allowed, fit⟩ := writable
    have nonempty : sortedEntries entries ≠ [] := fun none => nonempty (empty.1 none)
    have allowed : ∀ entry ∈ sortedEntries entries, EntryAllowed entry :=
      fun entry member => allowed entry ((members entry).1 member)
    have countFits : (sortedEntries entries).length ≤ endMarker := by
      rw [tableBytes_length] at tableFits
      unfold indexEntrySize at tableFits
      omega
    refine bind_eq_ok.2 ⟨(), require_eq_ok.2 nonempty, bind_eq_ok.2
      ⟨(), require_eq_ok.2 (sortedEntries_nodup entries), bind_eq_ok.2
        ⟨_, packHeader_eq_ok.2 ⟨countFits, rfl⟩, bind_eq_ok.2
          ⟨(_, _), writeEntries_eq_ok.2 ⟨allowed, rfl, rfl⟩, ?_⟩⟩⟩⟩
    rw [reserved_length]
    exact bind_eq_ok.2 ⟨_, packIndex_eq_ok.2 ⟨fit, rfl⟩, bind_eq_ok.2
      ⟨(_, _), writeDocument_eq_ok.2 ⟨tableFits, rfl, rfl⟩, rfl⟩⟩

/-- What the table is written over: the reserved space, and what follows it when the table
is larger. -/
theorem buildContainer_shape (built : buildContainer entries = .ok payload) :
    payload = headerBytes entries.entries.length ++
      documentBytes (tableBytes (sortedEntries entries)) defaultBlockSize ++
        ((zeros (blockHeaderSize + defaultBlockSize) ++
          (sortedEntries entries).flatMap entryBytes).drop
            (documentBytes (tableBytes (sortedEntries entries)) defaultBlockSize).length) := by
  obtain ⟨_, rfl⟩ := buildContainer_eq_ok.1 built
  unfold writeAt unindexed
  rw [sortedEntries_length, ← headerBytes_length entries.entries.length, ← List.drop_drop,
    List.append_assoc (headerBytes _), List.take_left, List.drop_left]

/-! ## Reading the header and the table -/

theorem intAt_littleEndian {value : Nat} (fits : value ≤ endMarker) (before after : Bytes) :
    intAt (before ++ littleEndian 4 value ++ after) before.length = value := by
  have small : value < 2 ^ 31 := Nat.lt_of_le_of_lt fits (by decide)
  have field : ((before ++ littleEndian 4 value ++ after).drop before.length).take 4 =
      littleEndian 4 value := by
    rw [List.append_assoc, List.drop_left]
    exact List.take_left' (littleEndian_length 4 value)
  unfold intAt
  rw [field, ofLittleEndian_littleEndian (Nat.lt_trans small (by decide)), if_pos small]

/-- The three numbers of an index entry. -/
theorem intAt_indexEntry {place : Nat × Nat} (allowed : PlaceAllowed place)
    (before after : Bytes) :
    intAt (before ++ indexEntryBytes place ++ after) before.length = place.1 ∧
      intAt (before ++ indexEntryBytes place ++ after) (before.length + 4) = place.2 ∧
      intAt (before ++ indexEntryBytes place ++ after) (before.length + 8) = endMarker := by
  have first := intAt_littleEndian allowed.1 before
    (littleEndian 4 place.2 ++ littleEndian 4 endMarker ++ after)
  have second := intAt_littleEndian allowed.2 (before ++ littleEndian 4 place.1)
    (littleEndian 4 endMarker ++ after)
  have third := intAt_littleEndian (Nat.le_refl endMarker)
    (before ++ littleEndian 4 place.1 ++ littleEndian 4 place.2) after
  simp only [List.length_append, littleEndian_length, Nat.add_assoc] at second third
  unfold indexEntryBytes
  simp only [List.append_assoc] at first second third ⊢
  exact ⟨first, second, third⟩

theorem intAt_header {count : Nat} (fits : count ≤ endMarker) (after : Bytes) :
    intAt (headerBytes count ++ after) 0 = endMarker ∧
      intAt (headerBytes count ++ after) 4 = defaultBlockSize ∧
      intAt (headerBytes count ++ after) 8 = count ∧ intAt (headerBytes count ++ after) 12 = 0 := by
  have marker := intAt_littleEndian (Nat.le_refl endMarker) []
    (littleEndian 4 defaultBlockSize ++ littleEndian 4 count ++ littleEndian 4 0 ++ after)
  have block := intAt_littleEndian (show defaultBlockSize ≤ endMarker by decide)
    (littleEndian 4 endMarker) (littleEndian 4 count ++ littleEndian 4 0 ++ after)
  have number := intAt_littleEndian fits (littleEndian 4 endMarker ++
    littleEndian 4 defaultBlockSize) (littleEndian 4 0 ++ after)
  have zero := intAt_littleEndian (Nat.zero_le endMarker) (littleEndian 4 endMarker ++
    littleEndian 4 defaultBlockSize ++ littleEndian 4 count) after
  simp only [List.length_nil, List.length_append, littleEndian_length, List.nil_append,
    List.append_assoc, Nat.reduceAdd] at marker block number zero
  unfold headerBytes
  simp only [List.append_assoc]
  exact ⟨marker, block, number, zero⟩

/-- A payload that starts with a header and a table of contents is read by its entries. -/
theorem readContainer_framed {table : List (Nat × Nat)} (nonempty : table ≠ [])
    (fits : max defaultBlockSize (table.flatMap indexEntryBytes).length ≤ endMarker)
    (after : Bytes) :
    readContainer (headerBytes table.length ++
        documentBytes (table.flatMap indexEntryBytes) defaultBlockSize ++ after) =
      readEntries (headerBytes table.length ++
        documentBytes (table.flatMap indexEntryBytes) defaultBlockSize ++ after)
        (table.flatMap indexEntryBytes) table.length 0 .empty := by
  have size := index_length table
  have positive : 0 < table.length := List.length_pos_iff.2 nonempty
  have count : table.length ≤ endMarker := by
    unfold indexEntrySize at size
    omega
  have toc := @readDocument_written (headerBytes table.length) (table.flatMap indexEntryBytes) after
    defaultBlockSize fits (by simp)
  have divided : (table.flatMap indexEntryBytes).length / indexEntrySize = table.length := by
    rw [size, Nat.mul_div_cancel_left _ (by decide)]
  have long : indexOffset + blockHeaderSize ≤ (headerBytes table.length ++
      documentBytes (table.flatMap indexEntryBytes) defaultBlockSize ++ after).length := by
    simp only [List.length_append, headerBytes_length, documentBytes_length fits]
    omega
  obtain ⟨marker, block, number, zero⟩ := intAt_header count
    (documentBytes (table.flatMap indexEntryBytes) defaultBlockSize ++ after)
  rw [← List.append_assoc] at marker block number zero
  rw [headerBytes_length] at toc
  have filled : table.flatMap indexEntryBytes ≠ [] := by
    rw [← List.length_pos_iff, size]
    unfold indexEntrySize
    omega
  have whole : (table.flatMap indexEntryBytes).length % indexEntrySize = 0 := by
    rw [size, Nat.mul_mod_right]
  unfold readContainer
  simp only [require, long, marker, block, number, zero, toc, divided, filled, whole, ne_eq,
    not_false_eq_true, and_self, true_or, if_true, Int.natCast_pos.2 positive, ok_bind]

/-! ## Reading the entries -/

/-- Both documents of an entry are read at their offsets. -/
def Placed (payload : Bytes) (place : Nat × Nat) (entry : Name × Bytes) : Prop :=
  PlaceAllowed place ∧ NameAllowed entry.1 ∧
    readDocument payload place.1 = .ok (attributeBytes entry.1) ∧
    readDocument payload place.2 = .ok entry.2

theorem placed_of_written {before : Bytes} {ordered : List (Name × Bytes)}
    (written : payload = before ++ ordered.flatMap entryBytes) (inside : indexOffset ≤ before.length)
    (allowed : ∀ entry ∈ ordered, EntryAllowed entry)
    (fit : ∀ place ∈ offsets before.length ordered, PlaceAllowed place) :
    List.Forall₂ (Placed payload) (offsets before.length ordered) ordered := by
  induction ordered generalizing before with
  | nil => exact .nil
  | cons entry rest hypothesis =>
      obtain ⟨nameAllowed, attributesFit, dataFits⟩ := allowed entry List.mem_cons_self
      refine .cons ⟨fit _ List.mem_cons_self, nameAllowed, ?_, ?_⟩ ?_
      · have read := @readDocument_written before (attributeBytes entry.1)
          (documentBytes entry.2 defaultBlockSize ++ rest.flatMap entryBytes) 0
          (by simpa using attributesFit) inside
        rw [written, List.flatMap_cons]
        simpa [entryBytes] using read
      · have read := @readDocument_written (before ++ documentBytes (attributeBytes entry.1) 0) entry.2
          (rest.flatMap entryBytes) defaultBlockSize dataFits (Nat.le_trans inside (by simp))
        rw [written, List.flatMap_cons]
        simpa [entryBytes] using read
      · have tail := @hypothesis (before ++ entryBytes entry)
          (by rw [written, List.flatMap_cons, List.append_assoc])
          (Nat.le_trans inside (by simp))
          (fun other member => allowed other (List.mem_cons_of_mem _ member))
          (fun place member => fit place (List.mem_cons_of_mem _
            (by rwa [List.length_append] at member)))
        rwa [List.length_append] at tail

theorem decodedName_attributes {name : Name} (allowed : NameAllowed name) :
    decodedName (attributeBytes name) = .ok name := by
  obtain ⟨_, unterminated, plain⟩ := allowed
  cases encoded : encodeUtf16 name with
  | none =>
      obtain ⟨point, member, surrogate⟩ := encodeUtf16_eq_none.1 encoded
      exact absurd surrogate (plain point member)
  | some bytes =>
      have tail : (attributeBytes name).drop fileAttributesSize = bytes ++ zeros 4 := by
        rw [attributeBytes, encoded, List.append_assoc]
        exact List.drop_left' (zeros_length _)
      have stopped : (name ++ [0, 0]).takeWhile (· ≠ (0 : CodePoint)) = name := by
        rw [List.takeWhile_append_of_pos]
        · simp
        · intro point member
          simpa using fun same : point = 0 => unterminated (same ▸ member)
      unfold decodedName
      rw [tail, decodeUtf16_append encoded, show decodeUtf16 (zeros 4) = some [0, 0] from rfl]
      simp only [Option.map_some, stopped]

theorem attributeBytes_long (name : Name) :
    fileAttributesSize + 4 ≤ (attributeBytes name).length := by
  simp only [attributeBytes, List.length_append, zeros_length]
  omega

/-- The entries of a table are read into a dictionary one after the other. -/
theorem readEntries_placed {table : List (Nat × Nat)}
    {ordered : List (Name × Bytes)} (placed : List.Forall₂ (Placed payload) table ordered)
    (before : Bytes) {result : Dictionary Name Bytes}
    (distinct : (result.keys ++ ordered.map Prod.fst).Nodup) :
    readEntries payload (before ++ table.flatMap indexEntryBytes) table.length before.length
        result =
      .ok (ordered.foldl (fun built entry => built.set entry.1 entry.2) result) := by
  induction placed generalizing before result with
  | nil => rfl
  | @cons place entry table ordered here _ hypothesis =>
      obtain ⟨placeAllowed, nameAllowed, attributes, document⟩ := here
      obtain ⟨first, second, marker⟩ := intAt_indexEntry placeAllowed before
        (table.flatMap indexEntryBytes)
      have fresh : entry.1 ∉ result.keys := fun stored =>
        (List.nodup_append.1 distinct).2.2 _ stored _ (by simp) rfl
      have inner := @hypothesis (before ++ indexEntryBytes place)
        (result.set entry.1 entry.2) (by
          rw [Dictionary.keys, Dictionary.entries_set_absent entry.2 fresh]
          simpa [Dictionary.keys] using distinct)
      rw [List.append_assoc] at first second marker inner
      rw [List.length_append, indexEntryBytes_length] at inner
      simp only [List.flatMap_cons, List.length_cons, readEntries, require, first, second, marker,
        attributes, document, attributeBytes_long, decodedName_attributes nameAllowed, fresh,
        nameAllowed.1, if_true, ok_bind, ne_eq, not_false_eq_true, and_self, List.foldl_cons]
      exact inner

/-! ## The round trip -/

/-- What is built for a mapping, if anything, is read back as that mapping. -/
def RoundTrips (entries : Dictionary Name Bytes) : Prop :=
  ∀ payload, buildContainer entries = .ok payload →
    ∃ result, readContainer payload = .ok result ∧
      ∀ name, result.get? name = entries.get? name

/-- The entries whose table fits the space reserved for it. -/
def reservedEntries : Nat := defaultBlockSize / indexEntrySize

theorem roundTrips_of_few (few : entries.entries.length ≤ reservedEntries) : RoundTrips entries := by
  intro payload built
  obtain ⟨writable, _⟩ := buildContainer_eq_ok.1 built
  have tableFits := table_fits writable
  obtain ⟨nonempty, allowed, fit⟩ := writable
  have count := sortedEntries_length entries
  have tableSize := tableBytes_length (sortedEntries entries)
  have small : (tableBytes (sortedEntries entries)).length ≤ defaultBlockSize := by
    rw [tableSize, count]
    exact Nat.le_trans (Nat.mul_le_mul_left _ few) (by decide)
  have size := documentBytes_length tableFits
  rw [Nat.max_eq_left small] at size
  have shape := buildContainer_shape built
  rw [size, List.drop_left' (zeros_length _)] at shape
  have start : (headerBytes entries.entries.length ++
      documentBytes (tableBytes (sortedEntries entries)) defaultBlockSize).length =
        firstOffset := by
    rw [List.length_append, headerBytes_length, size]
    rfl
  have placed := placed_of_written shape (by rw [start]; decide)
    (fun entry member => allowed entry ((sortedEntries_perm entries).mem_iff.1 member))
    (by rwa [start])
  rw [start] at placed
  have number : (offsets firstOffset (sortedEntries entries)).length = entries.entries.length := by
    rw [offsets_length, count]
  have framed := @readContainer_framed (offsets firstOffset (sortedEntries entries))
    (by rwa [← List.length_pos_iff, number, List.length_pos_iff]) tableFits
    ((sortedEntries entries).flatMap entryBytes)
  rw [number] at framed
  have read := @readEntries_placed _ _ _ placed [] .empty
    (by simpa [Dictionary.keys, Dictionary.empty] using sortedEntries_nodup entries)
  rw [number] at read
  refine ⟨Dictionary.ofItems (sortedEntries entries), ?_,
    Dictionary.get?_ofItems_of_perm (sortedEntries_perm entries)⟩
  rw [shape] at read ⊢
  exact framed.trans read

/-- The bytes of a large table where the header of the first document stood. -/
theorem overwritten_header {table : List (Nat × Nat)} (many : reservedEntries < table.length)
    (fits : (table.flatMap indexEntryBytes).length ≤ endMarker) (count : Nat) (after : Bytes) :
    ((headerBytes count ++ documentBytes (table.flatMap indexEntryBytes) defaultBlockSize ++
      after).drop firstOffset).take 2 = [255, 255] := by
  have size := index_length table
  obtain ⟨place, later, tail⟩ : ∃ place later, table.drop reservedEntries = place :: later := by
    cases rest : table.drop reservedEntries with
    | nil =>
        rw [List.drop_eq_nil_iff] at rest
        omega
    | cons place later => exact ⟨place, later, rfl⟩
  have parts : table.flatMap indexEntryBytes =
      (table.take reservedEntries).flatMap indexEntryBytes ++ littleEndian 4 place.1 ++
        littleEndian 4 place.2 ++ (littleEndian 4 endMarker ++
          later.flatMap indexEntryBytes) := by
    conv_lhs => rw [← List.take_append_drop reservedEntries table, tail]
    simp [indexEntryBytes]
  have block : max defaultBlockSize (table.flatMap indexEntryBytes).length =
      (table.flatMap indexEntryBytes).length := by
    apply Nat.max_eq_right
    rw [size]
    unfold reservedEntries defaultBlockSize indexEntrySize at *
    omega
  have before : (headerBytes count ++ (blockHeader (table.flatMap indexEntryBytes).length
      (table.flatMap indexEntryBytes).length ++
        ((table.take reservedEntries).flatMap indexEntryBytes ++ littleEndian 4 place.1 ++
          littleEndian 4 place.2))).length = firstOffset := by
    rw [List.length_append, List.length_append, headerBytes_length, blockHeader_length fits fits,
      List.length_append, List.length_append, index_length, List.length_take,
      Nat.min_eq_left (Nat.le_of_lt many), littleEndian_length, littleEndian_length]
    decide
  have written : headerBytes count ++ documentBytes (table.flatMap indexEntryBytes)
      defaultBlockSize ++ after =
        headerBytes count ++ (blockHeader (table.flatMap indexEntryBytes).length
          (table.flatMap indexEntryBytes).length ++
            ((table.take reservedEntries).flatMap indexEntryBytes ++ littleEndian 4 place.1 ++
              littleEndian 4 place.2)) ++
          (littleEndian 4 endMarker ++ later.flatMap indexEntryBytes ++ after) := by
    unfold documentBytes
    rw [block, Nat.sub_self]
    nth_rewrite 3 [parts]
    simp [zeros]
  rw [written, List.drop_left' before]
  rfl

theorem readDocument_header {document : Bytes} {offset : Int}
    (read : readDocument payload offset = .ok document) :
    ((payload.drop offset.toNat).take 2) = [13, 10] := by
  obtain ⟨_, _, read⟩ := bind_eq_ok.1 read
  obtain ⟨_, shape, _⟩ := bind_eq_ok.1 read
  have first := (require_eq_ok.1 shape).1
  rwa [List.take_take] at first

theorem readEntries_first {toc : Bytes} {remaining position : Nat}
    {before after : Dictionary Name Bytes}
    (read : readEntries payload toc (remaining + 1) position before = .ok after) :
    ∃ attributes, readDocument payload (intAt toc position) = .ok attributes := by
  obtain ⟨_, _, read⟩ := bind_eq_ok.1 read
  obtain ⟨attributes, found, _⟩ := bind_eq_ok.1 read
  exact ⟨attributes, found⟩

/-- With more entries the first document has lost its header. -/
theorem readContainer_overwritten (many : reservedEntries < entries.entries.length)
    (built : buildContainer entries = .ok payload) (result : Dictionary Name Bytes) :
    readContainer payload ≠ .ok result := by
  intro returned
  obtain ⟨writable, _⟩ := buildContainer_eq_ok.1 built
  have tableFits := table_fits writable
  have shape := buildContainer_shape built
  have count : (offsets firstOffset (sortedEntries entries)).length = entries.entries.length := by
    rw [offsets_length, sortedEntries_length]
  have nonempty : offsets firstOffset (sortedEntries entries) ≠ [] := by
    rw [← List.length_pos_iff, count]
    omega
  unfold tableBytes at tableFits shape
  rw [← count] at many shape
  have lost := overwritten_header many (Nat.le_trans (Nat.le_max_right _ _) tableFits)
    (offsets firstOffset (sortedEntries entries)).length
    ((zeros (blockHeaderSize + defaultBlockSize) ++ (sortedEntries entries).flatMap
      entryBytes).drop (documentBytes ((offsets firstOffset (sortedEntries entries)).flatMap
        indexEntryBytes) defaultBlockSize).length)
  rw [← shape] at lost
  have framed := readContainer_framed nonempty tableFits
    ((zeros (blockHeaderSize + defaultBlockSize) ++ (sortedEntries entries).flatMap
      entryBytes).drop (documentBytes ((offsets firstOffset (sortedEntries entries)).flatMap
        indexEntryBytes) defaultBlockSize).length)
  rw [← shape, returned] at framed
  obtain ⟨⟨_, allowed, fit⟩, _⟩ := buildContainer_eq_ok.1 built
  cases ordered : sortedEntries entries with
  | nil =>
      rw [ordered] at nonempty
      exact nonempty rfl
  | cons entry rest =>
      rw [ordered] at framed fit
      obtain ⟨first, _⟩ := intAt_indexEntry (fit _ List.mem_cons_self) []
        ((offsets (firstOffset + (entryBytes entry).length) rest).flatMap indexEntryBytes)
      rw [offsets, List.length_cons] at framed
      obtain ⟨attributes, read⟩ := readEntries_first framed.symm
      rw [List.length_nil, List.nil_append] at first
      rw [List.flatMap_cons, first] at read
      have header := readDocument_header read
      rw [Int.toNat_natCast, lost] at header
      exact absurd header (by decide)

/-! ## Nothing outside the payload -/

theorem readEntries_inside {toc : Bytes} {remaining position : Nat}
    {before after : Dictionary Name Bytes}
    (read : readEntries payload toc remaining position before = .ok after)
    (inside : ∀ name document, before.get? name = some document → Inside payload document) :
    ∀ name document, after.get? name = some document → Inside payload document := by
  induction remaining generalizing position before with
  | zero =>
      cases read
      exact inside
  | succ remaining hypothesis =>
      obtain ⟨_, _, read⟩ := bind_eq_ok.1 read
      obtain ⟨attributes, _, read⟩ := bind_eq_ok.1 read
      obtain ⟨_, _, read⟩ := bind_eq_ok.1 read
      obtain ⟨name, _, read⟩ := bind_eq_ok.1 read
      obtain ⟨_, _, read⟩ := bind_eq_ok.1 read
      obtain ⟨document, found, read⟩ := bind_eq_ok.1 read
      apply hypothesis read
      intro other held stored
      by_cases same : other = name
      · subst same
        rw [Dictionary.get?_set_same] at stored
        cases stored
        exact readDocument_inside found
      · rw [Dictionary.get?_set_other _ _ same] at stored
        exact inside other held stored

theorem readContainer_inside {result : Dictionary Name Bytes}
    (read : readContainer payload = .ok result) :
    ∀ name document, result.get? name = some document → Inside payload document := by
  obtain ⟨_, _, read⟩ := bind_eq_ok.1 read
  obtain ⟨_, _, read⟩ := bind_eq_ok.1 read
  obtain ⟨_, _, read⟩ := bind_eq_ok.1 read
  obtain ⟨_, _, read⟩ := bind_eq_ok.1 read
  obtain ⟨_, _, read⟩ := bind_eq_ok.1 read
  exact readEntries_inside read (fun name document stored => nomatch stored)

/-- A mapping survives the container when the table fits the reserved space, or when nothing
is built for it; and nothing outside the payload is ever read. -/
theorem container_law (entries : Dictionary Name Bytes) :
    (RoundTrips entries ↔ entries.entries.length ≤ reservedEntries ∨ ¬Writable entries) ∧
    ∀ payload result, readContainer payload = .ok result →
      ∀ name document, result.get? name = some document → Inside payload document := by
  refine ⟨⟨fun survives => ?_, ?_⟩, fun _ _ => readContainer_inside⟩
  · by_contra failing
    push Not at failing
    obtain ⟨many, writable⟩ := failing
    obtain ⟨result, read, _⟩ := survives _ (buildContainer_eq_ok.2 ⟨writable, rfl⟩)
    exact readContainer_overwritten many (buildContainer_eq_ok.2 ⟨writable, rfl⟩) result read
  · rintro (few | unwritable)
    · exact roundTrips_of_few few
    · exact fun _ built => absurd (buildContainer_eq_ok.1 built).1 unwritable

/-! ## A mapping that is lost -/

/-- The bytes that an entry takes. -/
def entrySize (entry : Name × Bytes) : Nat :=
  2 * blockHeaderSize + (attributeBytes entry.1).length + max defaultBlockSize entry.2.length

theorem entryBytes_length {entry : Name × Bytes} (allowed : EntryAllowed entry) :
    (entryBytes entry).length = entrySize entry := by
  have attributes : max 0 (attributeBytes entry.1).length ≤ endMarker := by simpa using allowed.2.1
  rw [entryBytes, List.length_append, documentBytes_length attributes,
    documentBytes_length allowed.2.2, Nat.zero_max]
  unfold entrySize
  omega

theorem offsets_le {offset : Nat} {entries : List (Name × Bytes)}
    (allowed : ∀ entry ∈ entries, EntryAllowed entry) :
    ∀ place ∈ offsets offset entries, place.1 ≤ offset + (entries.map entrySize).sum ∧
      place.2 ≤ offset + (entries.map entrySize).sum := by
  induction entries generalizing offset with
  | nil => simp [offsets]
  | cons entry rest hypothesis =>
      have here := entryBytes_length (allowed entry List.mem_cons_self)
      have whole : (documentBytes (attributeBytes entry.1) 0).length ≤ (entryBytes entry).length := by
        simp [entryBytes]
      have tail := @hypothesis (offset + (entryBytes entry).length)
        fun other member => allowed other (List.mem_cons_of_mem _ member)
      simp only [offsets, List.forall_mem_cons, List.map_cons, List.sum_cons]
      refine ⟨⟨by omega, by omega⟩, fun place member => ?_⟩
      have bounds := tail place member
      omega

/-- Entries whose sizes sum up to what an offset can be are writable. -/
theorem writable_of_small (nonempty : entries.entries ≠ [])
    (allowed : ∀ entry ∈ entries.entries, EntryAllowed entry)
    (small : firstOffset + (entries.entries.map entrySize).sum ≤ endMarker) : Writable entries := by
  have reordered := sortedEntries_perm entries
  have total := (reordered.map entrySize).sum_eq
  refine ⟨nonempty, allowed, fun place member => ?_⟩
  have bounds := offsets_le (fun entry inside => allowed entry (reordered.mem_iff.1 inside))
    place member
  rw [total] at bounds
  exact ⟨Nat.le_trans bounds.1 small, Nat.le_trans bounds.2 small⟩

/-- Forty-three empty documents with names of one character. -/
def tooMany : Dictionary Name Bytes where
  entries := (List.range 43).map fun number => ([Fin.ofNat 0x110000 (65 + number)], [])
  distinct := by decide +kernel

theorem too_many_entries_lost : ¬RoundTrips tooMany := by
  intro survives
  have writable : Writable tooMany :=
    writable_of_small (by decide +kernel) (by decide +kernel) (by decide +kernel)
  have many : reservedEntries < tooMany.entries.length := by decide +kernel
  obtain ⟨result, read, _⟩ := survives _ (buildContainer_eq_ok.2 ⟨writable, rfl⟩)
  exact readContainer_overwritten many (buildContainer_eq_ok.2 ⟨writable, rfl⟩) result read

end OnecRuntime.Container
