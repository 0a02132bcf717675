import OnecRuntime.Transfer.Materializer

/-!
# Parts and payload

Every token that a backend hands out is closed once, and the first error leaves the materializer.
The parts of a table join to its payload exactly where no part ends inside a surrogate pair.
-/

namespace OnecRuntime.Transfer

open OnecRuntime.Library

/-! ## Closing -/

section Closing

variable {ε Frame : Type} {digest : Digest} {decode : List UInt8 → Except (Failure ε) Frame}
  {materializer : TableMaterializer} {token handle : String}
  {serve : List (Exchange (Returned ε)) → (call : Call) → Returned ε call}
  {log : List (Exchange (Returned ε))}

/-- The tokens that were closed, the last one first. -/
def closes (log : List (Exchange (Returned ε))) : List String :=
  log.filterMap fun exchange =>
    match exchange.question with
    | .close token => some token
    | _ => none

/-- Nothing is closed. -/
def keepsOpen (ε : Type) : Rules Unit (Returned ε) where
  asks _ _ call := ∀ token, call ≠ .close token
  changes _ _ _ := False

def Open {ρ : Type} (program : Reading ε ρ) : Prop :=
  ∀ log, closes log = [] → Fallible.Safe (keepsOpen ε) (fun log _ _ => closes log = [])
    (fun log _ _ => closes log = []) program log ()

theorem open_refuse {ρ : Type} (text : String) : Open (refuse text : Reading ε ρ) :=
  fun _ closed => closed

theorem open_request {ρ : Type} {call : Call} {next : Returned ε call → Reading ε ρ}
    (other : ∀ token, call ≠ .close token) (rest : ∀ answer, Open (next answer)) :
    Open (Fallible.request call >>= next) := by
  intro log closed
  rw [Fallible.safe_bind, Fallible.safe_request]
  refine ⟨other, fun answer => rest answer _ ?_⟩
  unfold closes
  cases call with
  | close token => exact absurd rfl (other token)
  | _ => exact closed

theorem open_bind {ρ τ : Type} {program : Reading ε ρ} {next : ρ → Reading ε τ}
    (first : Open program) (rest : ∀ value, Open (next value)) : Open (program >>= next) := by
  intro log closed
  rw [Fallible.safe_bind]
  exact (first log closed).weaken fun kept => rest _ _ kept

theorem open_validateManifest (manifest : TableTransferManifest) :
    Open (validateManifest materializer token manifest : Reading ε Unit) := by
  unfold validateManifest
  repeat' split
  all_goals exact fun _ closed => closed

theorem open_readParts (count : Nat) (sequence : Int) :
    Open (readParts token count sequence : Reading ε _) := by
  induction count generalizing sequence with
  | zero => exact fun _ closed => closed
  | succ count ih =>
      refine open_request nofun fun answer => ?_
      cases answer with
      | error error => exact fun _ closed => closed
      | ok chunk =>
          dsimp only
          split
          · exact open_refuse _
          · split
            · exact open_refuse _
            · exact open_bind (ih _) fun rest => fun _ closed => closed

theorem open_checkPayload (manifest : TableTransferManifest) (payload : List UInt8) :
    Open (checkPayload digest decode manifest payload) := by
  unfold checkPayload
  repeat' split
  all_goals exact fun _ closed => closed

theorem open_transferred : Open (transferred digest decode materializer token) := by
  unfold transferred
  split
  · exact open_refuse _
  · refine open_request nofun fun answer => ?_
    cases answer with
    | error error => exact fun _ closed => closed
    | ok manifest =>
        exact open_bind (open_validateManifest manifest) fun _ =>
          open_bind (open_readParts _ _) fun parts => open_checkPayload _ _

/-- The materializer asks for the transfer, does its work and closes the token. -/
theorem toDf_answered (named : handle ≠ "") :
    (toDf digest decode materializer handle).run.answered serve [] () =
      match serve [] (.start handle materializer.chunkSize) with
      | .error error =>
          (.error (.raised error), [⟨.start handle materializer.chunkSize, .error error⟩], ())
      | .ok token =>
          let ended := (transferred digest decode materializer token).run.answered serve
            [⟨.start handle materializer.chunkSize, .ok token⟩] ()
          match serve ended.2.1 (.close token) with
          | .error error => (.error (.cleanup (primary ended.1) error),
              ⟨.close token, .error error⟩ :: ended.2.1, ())
          | .ok () => (ended.1, ⟨.close token, .ok ()⟩ :: ended.2.1, ()) := by
  unfold toDf
  rw [if_neg named, Fallible.answered_bind, Fallible.answered_request]
  generalize serve [] (.start handle materializer.chunkSize) = started
  cases started with
  | error error => rfl
  | ok token =>
      dsimp only
      rw [Fallible.answered_bind, Fallible.answered_attempt]
      generalize (transferred digest decode materializer token).run.answered serve
        [⟨.start handle materializer.chunkSize, .ok token⟩] () = ended
      obtain ⟨outcome, log, state⟩ := ended
      dsimp only
      rw [Fallible.answered_bind, Fallible.answered_request]
      generalize serve log (.close token) = closed
      cases closed with
      | error error => rfl
      | ok done =>
          cases outcome with
          | ok frame => rfl
          | error problem => rfl

/-- A backend that raises at the start closes nothing; the token of any other start is closed
once, and the first error behind the start leaves the materializer, on its own or with the error
of the close. -/
def ClosesOnce (digest : Digest) (decode : List UInt8 → Except (Failure ε) Frame)
    (materializer : TableMaterializer) (handle : String)
    (serve : List (Exchange (Returned ε)) → (call : Call) → Returned ε call) : Prop :=
  let ended := (toDf digest decode materializer handle).run.answered serve [] ()
  match serve [] (.start handle materializer.chunkSize) with
  | .error error => ended.1 = .error (.raised error) ∧ closes ended.2.1 = []
  | .ok token => closes ended.2.1 = [token] ∧
      ∀ problem, ((transferred digest decode materializer token).run.answered serve
          [⟨.start handle materializer.chunkSize, .ok token⟩] ()).1 = .error problem →
        ended.1 = .error problem ∨ ∃ error, ended.1 = .error (.cleanup (some problem) error)

theorem closesOnce (named : handle ≠ "") : ClosesOnce digest decode materializer handle serve := by
  unfold ClosesOnce
  rw [toDf_answered named]
  generalize serve [] (.start handle materializer.chunkSize) = started
  cases started with
  | error error => exact ⟨rfl, rfl⟩
  | ok token =>
      dsimp only
      have kept : closes ((transferred digest decode materializer token).run.answered serve
          [⟨.start handle materializer.chunkSize, .ok token⟩] ()).2.1 = [] := by
        have safe := @open_transferred ε Frame digest decode materializer token
          [⟨.start handle materializer.chunkSize, .ok token⟩] rfl
        have kept := Program.Safe.answered safe serve
        generalize (transferred digest decode materializer token).run.answered serve
          [⟨.start handle materializer.chunkSize, .ok token⟩] () = ended at kept ⊢
        obtain ⟨outcome, log, state⟩ := ended
        cases outcome with
        | ok frame => exact kept
        | error problem => exact kept
      generalize (transferred digest decode materializer token).run.answered serve
        [⟨.start handle materializer.chunkSize, .ok token⟩] () = ended at kept
      obtain ⟨outcome, log, state⟩ := ended
      dsimp only at kept ⊢
      generalize serve log (.close token) = closed
      cases closed with
      | error error =>
          refine ⟨congrArg (token :: ·) kept, fun problem raised => .inr ⟨error, ?_⟩⟩
          rw [raised]
          rfl
      | ok done => exact ⟨congrArg (token :: ·) kept, fun problem raised => .inl raised⟩

end Closing

/-! ## The payload of a serialized table -/

section Payload

variable {Frame : Type} {platform : Platform} {materializer : TableMaterializer}
  {token handle : String} {schema : List UInt16} {rows : List (List UInt16)}

/-- The parts of a text, encoded. -/
def contents (platform : Platform) (partSize : Int) (text : List UInt16) : List (List UInt8) :=
  (cut (unitsOfPart partSize) text.length text).map (utf8Units platform.unpaired)

/-- The table that is serialized for the materializer. -/
def tableOf (platform : Platform) (materializer : TableMaterializer) (schema : List UInt16)
    (rows : List (List UInt16)) : SerializedTable :=
  let text := tableText schema rows
  { parts := (contents platform materializer.chunkSize text).map encodeBase64
    size := (utf8Units platform.unpaired text).length
    schemaSize := (utf8Units platform.unpaired schema).length
    count := (contents platform materializer.chunkSize text).length
    dataHash := platform.digest.sha256 (utf8Units platform.unpaired text)
    schemaHash := platform.digest.sha256 (utf8Units platform.unpaired schema) }

theorem serializeTable_eq :
    serializeTable platform schema rows materializer.chunkSize =
      .ok (tableOf platform materializer schema rows) := by
  unfold serializeTable tableOf contents
  rw [if_neg (Int.not_le.2 materializer.positive)]
  simp only [base64WithoutBreaks_eq, List.map_map, List.length_map]
  rfl

variable {ε : Type}

/-- The parts are read one after another. -/
theorem readParts_answered {serve : List (Exchange (Returned ε)) → (call : Call) → Returned ε call}
    {parts : List (List UInt8)} {sequence : Int}
    (serves : ∀ log (number : Nat) content, parts[number]? = some content →
      serve log (.chunk token (sequence + number)) =
        .ok ⟨sequence + number, encodeBase64 content⟩)
    (log : List (Exchange (Returned ε))) :
    ∃ later, (readParts token parts.length sequence).run.answered serve log () =
      (.ok parts, later, ()) := by
  induction parts generalizing sequence log with
  | nil => exact ⟨log, rfl⟩
  | cons first rest ih =>
      have given := serves log 0 first rfl
      rw [Int.natCast_zero, Int.add_zero] at given
      rw [List.length_cons]
      unfold readParts
      rw [Fallible.answered_bind, Fallible.answered_request, given]
      dsimp only
      rw [if_neg (not_not.2 rfl), decodeBase64_encodeBase64]
      dsimp only
      obtain ⟨later, answered⟩ := @ih (sequence + 1) (fun log number content found => by
        have next := serves log (number + 1) content found
        rwa [Int.natCast_add, Int.natCast_one, Int.add_comm (number : Int) 1,
          ← Int.add_assoc] at next) (⟨.chunk token sequence, .ok ⟨sequence, encodeBase64 first⟩⟩ :: log)
      rw [Fallible.answered_bind, answered]
      exact ⟨later, rfl⟩

/-- What the backend tells about the table. -/
def manifestOf (platform : Platform) (materializer : TableMaterializer) (token : String)
    (schema : List UInt16) (rows : List (List UInt16)) : TableTransferManifest where
  token := token
  runtimeGeneration := materializer.runtimeGeneration
  contextGeneration := materializer.contextGeneration
  byteCount := (tableOf platform materializer schema rows).size
  schemaByteCount := (tableOf platform materializer schema rows).schemaSize
  chunkCount := (tableOf platform materializer schema rows).count
  payloadSha256 := (tableOf platform materializer schema rows).dataHash
  schemaSha256 := (tableOf platform materializer schema rows).schemaHash

theorem tableText_ne_nil : tableText schema rows ≠ [] := by
  unfold tableText
  exact List.append_ne_nil_of_right_ne_nil _ (List.cons_ne_nil _ _)

variable {text : List UInt16}

theorem contents_ne_nil (partSize : Int) (inside : text ≠ []) :
    contents platform partSize text ≠ [] := by
  obtain ⟨first, rest, rfl⟩ := List.exists_cons_of_ne_nil inside
  exact List.cons_ne_nil _ _

variable {manifest : TableTransferManifest}

theorem validateManifest_ok (own : manifest.token = token)
    (runtime : manifest.runtimeGeneration = materializer.runtimeGeneration)
    (context : manifest.contextGeneration = materializer.contextGeneration)
    (bytes : 0 < manifest.byteCount) (chunks : 0 < manifest.chunkCount)
    (payload : isSha256 manifest.payloadSha256) (record : isSha256 manifest.schemaSha256) :
    validateManifest materializer token manifest = (pure () : Reading ε Unit) := by
  unfold validateManifest
  rw [if_neg (not_not.2 own), if_neg (not_not.2 runtime), if_neg (not_not.2 context),
    if_neg (Int.not_le.2 bytes), if_neg (Int.not_le.2 chunks),
    if_neg (ne_false_of_eq_true payload), if_neg (ne_false_of_eq_true record)]

/-- The transfer of a served table comes down to the checks of its joined parts. -/
theorem transferred_served (decode : List UInt8 → Except (Failure String) Frame)
    (named : token ≠ "") (log : List (Exchange (Returned String))) :
    ∃ later, (transferred platform.digest decode materializer token).run.answered
        (fun _ => served materializer token (tableOf platform materializer schema rows)) log () =
      (checkPayload platform.digest decode (manifestOf platform materializer token schema rows)
        (contents platform materializer.chunkSize (tableText schema rows)).flatten).run.answered
          (fun _ => served materializer token (tableOf platform materializer schema rows)) later
          () := by
  have valid : validateManifest materializer token
      (manifestOf platform materializer token schema rows) = (pure () : Reading String Unit) :=
    validateManifest_ok rfl rfl rfl
      (Int.natCast_pos.2 (utf8Units_pos platform tableText_ne_nil))
      (Int.natCast_pos.2 (List.length_pos_iff.2 (contents_ne_nil _ tableText_ne_nil)))
      (platform.hexadecimal _) (platform.hexadecimal _)
  have told : served materializer token (tableOf platform materializer schema rows)
      (.manifest token) = .ok (manifestOf platform materializer token schema rows) := rfl
  have serves (number : Nat) (content : List UInt8)
      (found : (contents platform materializer.chunkSize (tableText schema rows))[number]? =
        some content) :
      served materializer token (tableOf platform materializer schema rows)
        (.chunk token (0 + number)) = .ok ⟨0 + number, encodeBase64 content⟩ := by
    have part : (tableOf platform materializer schema rows).parts[number]? =
        some (encodeBase64 content) := by
      unfold tableOf
      rw [List.getElem?_map, found]
      rfl
    have given : getPart (tableOf platform materializer schema rows).parts number =
        .ok (encodeBase64 content) := by
      unfold getPart
      rw [if_neg (Int.not_lt.2 (Int.natCast_nonneg number)), Int.toNat_natCast, part]
    rw [Int.zero_add]
    exact congrArg (Except.map fun part => (⟨number, part⟩ : TableTransferChunk)) given
  unfold transferred
  rw [if_neg named, Fallible.answered_bind, Fallible.answered_request, told]
  dsimp only
  rw [Fallible.answered_bind, valid]
  obtain ⟨later, answered⟩ := @readParts_answered token String
    (fun _ => served materializer token (tableOf platform materializer schema rows))
    (contents platform materializer.chunkSize (tableText schema rows)) 0
    (fun _ => serves)
    (⟨.manifest token, .ok (manifestOf platform materializer token schema rows)⟩ :: log)
  refine ⟨later, ?_⟩
  change ((readParts token _ 0 >>= fun parts => checkPayload platform.digest decode
    (manifestOf platform materializer token schema rows) parts.flatten) :
      Reading String Frame).run.answered _ _ () = _
  rw [Fallible.answered_bind, show ((manifestOf platform materializer token schema
    rows).chunkCount.toNat) = (contents platform materializer.chunkSize
      (tableText schema rows)).length from rfl, answered]

/-- A payload of another length is refused. -/
theorem checkPayload_length {digest : Digest}
    {decode : List UInt8 → Except (Failure ε) Frame}
    {payload : List UInt8} (other : (payload.length : Int) ≠ manifest.byteCount) :
    checkPayload digest decode manifest payload =
      refuse "table payload byte count does not match manifest" := by
  unfold checkPayload
  rw [if_pos other]

theorem checkPayload_ok {digest : Digest}
    {decode : List UInt8 → Except (Failure ε) Frame}
    {payload : List UInt8} (size : (payload.length : Int) = manifest.byteCount)
    (hash : digest.sha256 payload = manifest.payloadSha256)
    (inside : 0 < manifest.schemaByteCount ∧ manifest.schemaByteCount < payload.length)
    (line : startsLine (payload.drop manifest.schemaByteCount.toNat))
    (record : digest.sha256 (payload.take manifest.schemaByteCount.toNat) =
      manifest.schemaSha256) :
    (checkPayload digest decode manifest payload).run = .finish (decode payload) := by
  have bounds : ¬(manifest.schemaByteCount ≤ 0 ∨
      (payload.length : Int) ≤ manifest.schemaByteCount) := by omega
  unfold checkPayload
  rw [if_neg (not_not.2 size), if_neg (not_not.2 hash), if_neg bounds,
    if_neg (ne_false_of_eq_true line), if_neg (not_not.2 record)]
  cases decode payload with
  | ok frame => rfl
  | error problem => rfl

/-- The payload of the table passes. -/
theorem checkPayload_whole (decode : List UInt8 → Except (Failure String) Frame)
    (recorded : schema ≠ []) :
    (checkPayload platform.digest decode (manifestOf platform materializer token schema rows)
      (utf8Units platform.unpaired (tableText schema rows))).run =
        .finish (decode (utf8Units platform.unpaired (tableText schema rows))) := by
  have split : utf8Units platform.unpaired (tableText schema rows) =
      utf8Units platform.unpaired schema ++
        0x0A :: utf8Units platform.unpaired (rows.flatMap (· ++ [lineFeed])) :=
    utf8Units_lineFeed _ _
  have positive := utf8Units_pos platform recorded
  have longer : (utf8Units platform.unpaired schema).length <
      (utf8Units platform.unpaired (tableText schema rows)).length := by
    rw [split, List.length_append, List.length_cons]
    omega
  refine checkPayload_ok rfl rfl ⟨Int.natCast_pos.2 positive, Int.ofNat_lt.2 longer⟩ ?_ ?_
  · change startsLine (List.drop (utf8Units platform.unpaired schema).length _) = true
    rw [split, List.drop_left]
    rfl
  · change platform.digest.sha256 (List.take (utf8Units platform.unpaired schema).length _) = _
    rw [split, List.take_left]
    rfl

/-! ## When the payload arrives -/

/-- The parts keep to the part size and are counted, and whatever the payload is decoded to is
what the materializer returns. -/
def Reassembled (platform : Platform) (materializer : TableMaterializer) (token handle : String)
    (schema : List UInt16) (rows : List (List UInt16)) : Prop :=
  ∃ table, serializeTable platform schema rows materializer.chunkSize = .ok table ∧
    (∀ part ∈ table.parts, ∃ bytes, decodeBase64 part = some bytes ∧
      (bytes.length : Int) ≤ materializer.chunkSize) ∧
    table.count = table.parts.length ∧
    ∀ (Frame : Type) (decode : List UInt8 → Except (Failure String) Frame),
      ((toDf platform.digest decode materializer handle).run.answered
        (fun _ => served materializer token table) [] ()).1 =
          decode (utf8Units platform.unpaired (tableText schema rows))

/-- Every code unit on its own keeps to the part size, and no part ends inside a surrogate
pair. -/
def Divisible (platform : Platform) (partSize : Int) (text : List UInt16) : Prop :=
  (∀ unit ∈ text, ((utf8Unit platform.unpaired unit).length : Int) ≤ partSize) ∧
    ¬CutsPair (unitsOfPart partSize) text

theorem contents_flatten_length {partSize : Int} :
    (contents platform partSize text).flatten.length = (utf8Units platform.unpaired text).length ↔
      ¬CutsPair (unitsOfPart partSize) text := by
  unfold contents
  rw [← List.flatMap_def]
  exact cut_length_eq_iff _ platform.uniform platform.odd (unitsOfPart_pos _) (Nat.le_refl _)

theorem cut_one {α : Type} {fuel : Nat} {text : List α} (enough : text.length ≤ fuel) :
    cut 1 fuel text = text.map fun item => [item] := by
  induction fuel generalizing text with
  | zero =>
      rw [List.length_eq_zero_iff.1 (Nat.le_zero.1 enough)]
      rfl
  | succ fuel ih =>
      cases text with
      | nil => rfl
      | cons first rest =>
          rw [cut_cons (List.cons_ne_nil _ _), List.drop_one, List.tail_cons,
            ih (Nat.le_of_succ_le_succ enough)]
          rfl

/-- The parts keep to the part size where the single units do. -/
theorem contents_bounded {partSize : Int} (positive : 0 < partSize) :
    (∀ bytes ∈ contents platform partSize text, (bytes.length : Int) ≤ partSize) ↔
      ∀ unit ∈ text, ((utf8Unit platform.unpaired unit).length : Int) ≤ partSize := by
  by_cases large : 3 ≤ partSize
  · refine iff_of_true (fun bytes member => ?_) fun unit _ => ?_
    · obtain ⟨part, cutOff, rfl⟩ := List.mem_map.1 member
      have short := length_of_mem_cut cutOff
      have few := utf8Units_length_le platform.unpaired (narrow platform) part
      have units : 3 * unitsOfPart partSize ≤ partSize := by
        unfold unitsOfPart
        omega
      omega
    · have few := utf8Unit_length_le platform.unpaired (narrow platform) unit
      omega
  · have single : unitsOfPart partSize = 1 := by
      unfold unitsOfPart
      omega
    unfold contents
    rw [single, cut_one (Nat.le_refl _), List.map_map, List.forall_mem_map]
    rfl

theorem toDf_served (decode : List UInt8 → Except (Failure String) Frame) (named : handle ≠ "")
    (given : token ≠ "") :
    ∃ later, ((toDf platform.digest decode materializer handle).run.answered
        (fun _ => served materializer token (tableOf platform materializer schema rows)) [] ()).1 =
      ((checkPayload platform.digest decode (manifestOf platform materializer token schema rows)
        (contents platform materializer.chunkSize (tableText schema rows)).flatten).run.answered
          (fun _ => served materializer token (tableOf platform materializer schema rows)) later
          ()).1 := by
  obtain ⟨later, same⟩ := @transferred_served Frame platform materializer token schema rows decode
    given [⟨.start handle materializer.chunkSize, .ok token⟩]
  refine ⟨later, ?_⟩
  rw [toDf_answered named, ← same]
  rfl

theorem reassembled_iff (recorded : schema ≠ []) (named : handle ≠ "") (given : token ≠ "") :
    Reassembled platform materializer token handle schema rows ↔
      Divisible platform materializer.chunkSize (tableText schema rows) := by
  unfold Reassembled Divisible
  rw [← contents_bounded materializer.positive, ← contents_flatten_length, serializeTable_eq]
  constructor
  · rintro ⟨table, same, bounded, counted, arrives⟩
    cases same
    refine ⟨fun bytes member => ?_, ?_⟩
    · obtain ⟨decoded, read, fits⟩ := bounded _ (List.mem_map_of_mem member)
      rw [decodeBase64_encodeBase64] at read
      cases read
      exact fits
    · by_contra other
      -- A decoder that accepts everything would see the payload.
      obtain ⟨later, same⟩ := @toDf_served Unit platform materializer token handle schema rows
        (fun _ => .ok ()) named given
      rw [arrives Unit fun _ => .ok (), checkPayload_length (fun same => other (Int.ofNat.inj same))]
        at same
      cases same
  · rintro ⟨bounded, whole⟩
    refine ⟨_, rfl, fun part member => ?_, (List.length_map _).symm, fun Frame decode => ?_⟩
    · obtain ⟨bytes, inside, rfl⟩ := List.mem_map.1 member
      exact ⟨bytes, decodeBase64_encodeBase64 bytes, bounded bytes inside⟩
    · obtain ⟨later, same⟩ := @toDf_served Frame platform materializer token handle schema rows
        decode named given
      have joined : (contents platform materializer.chunkSize (tableText schema rows)).flatten =
          utf8Units platform.unpaired (tableText schema rows) := by
        have cutless := contents_flatten_length.1 whole
        unfold contents
        rw [← List.flatMap_def]
        exact cut_joined _ (unitsOfPart_pos _) (Nat.le_refl _) cutless
      rw [same, joined, checkPayload_whole decode recorded]
      rfl

/-- The payload of a table arrives exactly where its text is divisible, and every token that any
backend hands out is closed once, with the first error kept. -/
theorem table_transfer (recorded : schema ≠ []) (named : handle ≠ "") (given : token ≠ "") :
    (Reassembled platform materializer token handle schema rows ↔
      Divisible platform materializer.chunkSize (tableText schema rows)) ∧
    ∀ (ε Frame : Type) (digest : Digest) (decode : List UInt8 → Except (Failure ε) Frame)
      (serve : List (Exchange (Returned ε)) → (call : Call) → Returned ε call),
      ClosesOnce digest decode materializer handle serve :=
  ⟨reassembled_iff recorded named given, fun _ _ _ _ _ => closesOnce named⟩

end Payload

/-! ## A table without columns -/

/-- `{}` in UTF-16, for the schema record. -/
def emptyObject : List UInt16 := [0x7B, 0x7D]

/-- A platform that writes the replacement character, with the hashes of the empty table. -/
def replacingPlatform : Platform where
  unpaired _ := [0xEF, 0xBF, 0xBD]
  width := 3
  uniform _ := rfl
  odd := .inr rfl
  base64 := encodeBase64
  plain bytes := by
    refine List.filter_eq_self.2 fun char member => ?_
    have printed : ∀ char ∈ alphabet, (decide (char ≠ '\r') && decide (char ≠ '\n')) = true :=
      List.forall_iff_forall_mem.1 (by decide)
    obtain inside | rfl := mem_encodeBase64 bytes char member
    · exact printed char inside
    · rfl
  digest := ⟨fun bytes =>
    if bytes = [0x7B, 0x7D, 0x0A] then
      "ca3d163bab055381827226140568f3bef7eaac187cebd76878e0b63e9e442356"
    else "44136fa355b3678a1146ad16f7e8649e94fb4fc21fe77e8310c060f61caaff8a"⟩
  hexadecimal bytes := by
    dsimp only
    split
    · decide +kernel
    · decide +kernel

def smallParts : TableMaterializer := ⟨1, 1, 16, by decide, by decide⟩

theorem table_transfer_empty :
    Reassembled replacingPlatform smallParts "token" "handle" emptyObject [] := by
  have recorded : emptyObject ≠ [] := List.cons_ne_nil _ _
  refine (table_transfer recorded (by decide) (by decide)).1.2 ⟨?_, ?_⟩
  · exact List.forall_iff_forall_mem.1 (by decide +kernel)
  · rintro ⟨count, splits⟩
    have behind : (tableText emptyObject [])[(count + 1) * 4]? = none :=
      List.getElem?_eq_none (by change 3 ≤ _; omega)
    unfold splitsAt at splits
    rw [show unitsOfPart smallParts.chunkSize = 4 from rfl, behind, Option.any_none,
      Bool.and_false] at splits
    cases splits

/-- A row begins with the two halves of a pair, which the fourth code unit and the fifth are. -/
theorem pair_cut :
    ¬Reassembled replacingPlatform smallParts "token" "handle" emptyObject [[0xD83D, 0xDE00]] := by
  intro arrives
  have recorded : emptyObject ≠ [] := List.cons_ne_nil _ _
  exact ((reassembled_iff recorded (by decide) (by decide)).1 arrives).2 ⟨0, by decide⟩

end OnecRuntime.Transfer
