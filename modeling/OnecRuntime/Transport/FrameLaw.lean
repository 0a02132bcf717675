import OnecRuntime.Transport.BoundedInput

/-!
# What the input filter forwards

A stream is read as a whole, one frame after another. The filter forwards of every cut of the
stream into chunks what this reading forwards, and so its output depends on the stream alone.
-/

namespace OnecRuntime.Transport

open OnecRuntime.Library

/-! ## Headers and frames -/

/-- The line is the name, spaces, the digits of the length, and spaces. -/
def Line (line : List Char) (length : Nat) : Prop :=
  ∃ name before digits behind, line = name ++ before ++ digits ++ behind ∧
    name.map Char.toLower = lengthName ∧ before.all isSpace = true ∧ behind.all isSpace = true ∧
    digits ≠ [] ∧ digits.all Char.isDigit = true ∧ digitsValue digits = length

/-- The header declares one length, and that is within the size limit. -/
def Declares (header : Bytes) (length : Nat) : Prop :=
  ∃ line, (splitLines (asciiText header)).filter namesLength = [line] ∧ Line line length ∧
    0 < length ∧ length ≤ maxMessageBytes

/-- A complete header stands in front of the bytes, and ends at the place. -/
def Headed (bytes : Bytes) (place : Nat) : Prop :=
  delimiterAt bytes = some place ∧ place + 4 ≤ maxHeaderBytes

def Frame (bytes : Bytes) : Prop :=
  ∃ place length, Headed bytes place ∧ Declares (bytes.take place) length ∧
    bytes.length = place + 4 + length

/-- A complete and valid header whose body has not come to its end. -/
def Opened (bytes : Bytes) : Prop :=
  ∃ place length, Headed bytes place ∧ Declares (bytes.take place) length ∧
    bytes.length < place + 4 + length

/-- A header that may still become valid. -/
def Unfinished (bytes : Bytes) : Prop :=
  delimiterAt bytes = none ∧ bytes.length < maxHeaderBytes

/-- The next header is too long, or it does not declare one length within the limit. -/
def Broken (bytes : Bytes) : Prop :=
  maxHeaderBytes ≤ bytes.length ∧ (∀ place, ¬Headed bytes place) ∨
    ∃ place, Headed bytes place ∧ ∀ length, ¬Declares (bytes.take place) length

theorem takeWhile_append_all {test : Char → Bool} {first : List Char} (second : List Char)
    (holds : first.all test = true) (stops : ∀ char ∈ second.head?, test char = false) :
    (first ++ second).takeWhile test = first ∧ (first ++ second).dropWhile test = second := by
  have inside := List.all_eq_true.1 holds
  have outside : second.takeWhile test = [] ∧ second.dropWhile test = second := by
    cases second with
    | nil => exact ⟨rfl, rfl⟩
    | cons char rest =>
      have other := stops char rfl
      exact ⟨List.takeWhile_cons_of_neg (by simp [other]),
        List.dropWhile_cons_of_neg (by simp [other])⟩
  constructor
  · rw [List.takeWhile_append_of_pos inside, outside.1, List.append_nil]
  · rw [List.dropWhile_append_of_pos inside, outside.2]

theorem isSpace_digit {char : Char} (digit : char.isDigit = true) : isSpace char = false := by
  have range : 48 ≤ char.toNat ∧ char.toNat ≤ 57 := Char.isDigit_iff_toNat.1 digit
  have far {other : Char} (small : other.toNat < 48) : char ≠ other := by
    rintro rfl
    omega
  simp only [isSpace, Bool.or_eq_false_iff, decide_eq_false_iff_not]
  exact ⟨⟨⟨⟨⟨far (by decide), far (by decide)⟩, far (by decide)⟩, far (by decide)⟩, by omega⟩,
    by omega⟩

theorem isDigit_space {char : Char} (space : isSpace char = true) : char.isDigit = false := by
  by_contra digit
  rw [isSpace_digit (Bool.of_not_eq_false digit)] at space
  exact nomatch space

/-- Of a line that begins with the name, `declaredLength` reads the length it declares. -/
theorem declaredLength_eq_some {line : List Char} {length : Nat} (named : namesLength line = true) :
    declaredLength line = some length ↔ Line line length := by
  constructor
  · intro declared
    dsimp only [declaredLength] at declared
    split at declared
    · next shape =>
      refine ⟨line.take lengthName.length, (line.drop lengthName.length).takeWhile isSpace, _, _, ?_,
        ?_, List.all_takeWhile, shape.2, shape.1, List.all_takeWhile, Option.some.inj declared⟩
      · rw [List.append_assoc, List.append_assoc, List.takeWhile_append_dropWhile,
          List.takeWhile_append_dropWhile, List.take_append_drop]
      · have starts := List.prefix_iff_eq_take.1 (List.isPrefixOf_iff_prefix.1 named)
        rw [List.map_take, ← starts]
    · cases declared
  · rintro ⟨name, before, digits, behind, rfl, same, blank, blanks, present, numeral, rfl⟩
    have long : name.length = lengthName.length := by rw [← same, List.length_map]
    have value := takeWhile_append_all (digits ++ behind) blank fun char first => by
      obtain ⟨digit, rest, rfl⟩ := List.exists_cons_of_ne_nil present
      rw [List.cons_append, List.head?_cons, Option.mem_some_iff] at first
      exact isSpace_digit (List.all_eq_true.1 numeral _ (by simp [first]))
    have number := takeWhile_append_all behind numeral fun char first =>
      isDigit_space (List.all_eq_true.1 blanks _ (List.mem_of_mem_head? first))
    dsimp only [declaredLength]
    rw [List.append_assoc, List.append_assoc, List.drop_left' long, value.2, number.1, number.2,
      if_pos ⟨present, blanks⟩]

theorem contentLength_eq_ok {header : Bytes} {length : Nat} :
    contentLength header = .ok length ↔ Declares header length := by
  rw [contentLength, Declares]
  split
  · next line only =>
    have named : namesLength line = true :=
      (List.mem_filter.1 (only ▸ List.mem_singleton_self line)).2
    simp only [only, List.cons.injEq, and_true, exists_eq_left', ← declaredLength_eq_some named]
    split
    · next found declared =>
      split
      · next bounded =>
        constructor
        · rintro ⟨⟩
          exact ⟨declared, bounded⟩
        · rintro ⟨same, -⟩
          rw [declared] at same
          cases same
          rfl
      · next loose =>
        refine ⟨(nomatch ·), fun ⟨same, bounded⟩ => absurd ?_ loose⟩
        rw [declared] at same
        cases same
        exact bounded
    · next undeclared =>
      refine ⟨(nomatch ·), fun ⟨same, _⟩ => ?_⟩
      rw [undeclared] at same
      cases same
  · next several =>
    refine ⟨(nomatch ·), ?_⟩
    rintro ⟨line, only, -⟩
    exact absurd only (several line)

/-! ## A stream as a whole -/

/-- What is forwarded, and the failure that ends the stream. -/
abbrev Forwarded := Bytes × Option Failure

def behind (bytes : Bytes) (later : Forwarded) : Forwarded := (bytes ++ later.1, later.2)

@[simp] theorem behind_nil (later : Forwarded) : behind [] later = later := rfl

theorem behind_append (first second : Bytes) (later : Forwarded) :
    behind (first ++ second) later = behind first (behind second later) := by
  rw [behind, List.append_assoc]
  rfl

/-- The stream read frame by frame, each frame at once. -/
def reading (stream : Bytes) : Forwarded :=
  match _headed : delimiterAt (stream.take maxHeaderBytes) with
  | none => ([], if stream.length < maxHeaderBytes then none else some .headerLimit)
  | some place =>
      match contentLength (stream.take place) with
      | .error failure => ([], some failure)
      | .ok length =>
          behind (stream.take (place + 4 + length)) (reading (stream.drop (place + 4 + length)))
termination_by stream.length
decreasing_by
  have within := place_within _headed
  rw [List.length_take] at within
  rw [List.length_drop]
  omega

section Reading

variable {stream : Bytes} {place length : Nat} {failure : Failure}

theorem reading_none (headless : delimiterAt (stream.take maxHeaderBytes) = none) :
    reading stream = ([], if stream.length < maxHeaderBytes then none else some .headerLimit) := by
  rw [reading]
  split
  · rfl
  · next place headed =>
    rw [headless] at headed
    cases headed

theorem reading_some (headed : delimiterAt (stream.take maxHeaderBytes) = some place) :
    reading stream =
      match contentLength (stream.take place) with
      | .error failure => ([], some failure)
      | .ok length =>
          behind (stream.take (place + 4 + length)) (reading (stream.drop (place + 4 + length))) := by
  rw [reading]
  split
  · next headless =>
    rw [headless] at headed
    cases headed
  · next other found =>
    rw [headed] at found
    cases found
    rfl

theorem reading_error (headed : delimiterAt (stream.take maxHeaderBytes) = some place)
    (invalid : contentLength (stream.take place) = .error failure) :
    reading stream = ([], some failure) := by
  rw [reading_some headed, invalid]

theorem reading_ok (headed : delimiterAt (stream.take maxHeaderBytes) = some place)
    (valid : contentLength (stream.take place) = .ok length) :
    reading stream =
      behind (stream.take (place + 4 + length)) (reading (stream.drop (place + 4 + length))) := by
  rw [reading_some headed, valid]

@[simp] theorem reading_nil : reading [] = ([], none) := reading_none rfl

theorem headed_iff : delimiterAt (stream.take maxHeaderBytes) = some place ↔ Headed stream place := by
  constructor
  · intro found
    have within := place_within found
    have whole := delimiterAt_append found (stream.drop maxHeaderBytes)
    rw [List.take_append_drop] at whole
    rw [List.length_take] at within
    exact ⟨whole, by omega⟩
  · rintro ⟨found, bounded⟩
    have inside := delimiterAt_append (delimiterAt_header found)
      ((stream.take maxHeaderBytes).drop (place + 4))
    have narrowed : (stream.take maxHeaderBytes).take (place + 4) = stream.take (place + 4) := by
      rw [List.take_take, Nat.min_eq_left bounded]
    rwa [← narrowed, List.take_append_drop] at inside

end Reading

namespace BoundedInput

/-- What the filter forwards of the rest of a stream. -/
def expects (input : BoundedInput) (stream : Bytes) : Forwarded :=
  if 0 < input.remaining then
    behind (stream.take input.remaining) (reading (stream.drop input.remaining))
  else reading (input.header ++ stream)

theorem expects_nil (input : BoundedInput) : input.expects [] = ([], none) := by
  rw [expects]
  split
  · simp [behind]
  · rw [List.append_nil, reading_none (delimiterAt_take input.unfinished _), if_pos input.short]

theorem expects_body {input : BoundedInput} (bare : input.header = []) (stream : Bytes) :
    input.expects stream =
      behind (stream.take input.remaining) (reading (stream.drop input.remaining)) := by
  rw [expects]
  split
  · rfl
  · next ended =>
    rw [bare, Nat.eq_zero_of_not_pos ended]
    rfl

/-- What the filter forwards once a turn is made and the rest of the stream is still to come. -/
def Turn.forwards (later : Bytes) : Turn → Forwarded
  | .failed failure => ([], some failure)
  | .forwarded bytes next rest => behind bytes (next.expects (rest ++ later))

theorem window_eq {first : Bytes} (short : first.length < maxHeaderBytes) (chunk : Bytes) :
    first ++ chunk.take (maxHeaderBytes - first.length) = (first ++ chunk).take maxHeaderBytes := by
  rw [List.take_append, List.take_of_length_le short.le]

/-- One turn forwards what it has to of the stream. -/
theorem expects_turn (input : BoundedInput) (chunk later : Bytes) :
    input.expects (chunk ++ later) = (input.turn chunk).forwards later := by
  have window := window_eq input.short chunk
  unfold turn
  split
  · next waiting =>
    have bare := input.apart waiting
    rw [Turn.forwards, expects_body bare, expects_body (by exact bare)]
    dsimp only
    rcases Nat.le_total chunk.length input.remaining with part | whole
    · rw [List.drop_eq_nil_of_le part, List.nil_append, List.take_append, List.drop_append,
        List.drop_eq_nil_of_le part, behind_append]
      rfl
    · rw [Nat.sub_eq_zero_of_le whole, List.take_append_of_le_length whole,
        List.drop_append_of_le_length whole]
      rfl
  · next ended =>
    rw [expects, if_neg ended, ← List.append_assoc]
    dsimp only
    split
    · next headless =>
      rw [window] at headless
      split
      · next short =>
        rw [window, List.length_take] at short
        have all : chunk.length ≤ maxHeaderBytes - input.header.length := by
          rw [List.length_append] at short
          omega
        rw [Turn.forwards, behind_nil, List.drop_eq_nil_of_le all, expects, if_neg (Nat.lt_irrefl 0)]
        dsimp only
        rw [List.take_of_length_le all, List.nil_append]
      · next long =>
        rw [window, List.length_take] at long
        have full : maxHeaderBytes ≤ (input.header ++ chunk).length := by omega
        rw [reading_none (by rwa [List.take_append_of_le_length full]), if_neg]
        · rfl
        · rw [List.length_append]
          omega
    · next place found =>
      rw [window] at found
      have whole : delimiterAt ((input.header ++ chunk ++ later).take maxHeaderBytes) = some place :=
        headed_iff.2 ⟨delimiterAt_append (headed_iff.1 found).1 later, (headed_iff.1 found).2⟩
      have within := place_within found
      rw [List.length_take] at within
      have start {count : Nat} (front : count ≤ place + 4) :
          (input.header ++ chunk.take (maxHeaderBytes - input.header.length)).take count =
            (input.header ++ chunk ++ later).take count := by
        rw [window, List.take_take, Nat.min_eq_left (by omega),
          List.take_append_of_le_length (show count ≤ (input.header ++ chunk).length by omega)]
      rw [start (Nat.le_add_right place 4)]
      split
      · next failure invalid => exact reading_error whole invalid
      · next length valid =>
        have rest : chunk.drop (place + 4 - input.header.length) ++ later =
            (input.header ++ chunk ++ later).drop (place + 4) := by
          have behind := place_behind input.unfinished (headed_iff.1 found).1
          rw [List.drop_append_of_le_length (show place + 4 ≤ (input.header ++ chunk).length by omega),
            List.drop_append, List.drop_eq_nil_of_le behind.le, List.nil_append]
        rw [reading_ok whole valid, Turn.forwards, expects_body rfl, rest, start le_rfl,
          ← behind_append, List.drop_drop, List.take_add]

theorem transform_nil (input : BoundedInput) : input.transform [] = ([], .ok input) := by
  rw [transform, dif_pos rfl]

theorem transform_failed {input : BoundedInput} {chunk : Bytes} {failure : Failure}
    (more : chunk ≠ []) (turned : input.turn chunk = .failed failure) :
    input.transform chunk = ([], .error failure) := by
  rw [transform, dif_neg more]
  split
  · next other again =>
    rw [turned] at again
    cases again
    rfl
  · next again =>
    rw [turned] at again
    cases again

theorem transform_forwarded {input next : BoundedInput} {chunk bytes rest : Bytes}
    (more : chunk ≠ []) (turned : input.turn chunk = .forwarded bytes next rest) :
    input.transform chunk = (bytes ++ (next.transform rest).1, (next.transform rest).2) := by
  rw [transform, dif_neg more]
  split
  · next again =>
    rw [turned] at again
    cases again
  · next again =>
    rw [turned] at again
    cases again
    rfl

/-- A chunk forwards what it has to of the stream, and leaves the rest to the filter behind it. -/
theorem expects_transform (input : BoundedInput) (chunk later : Bytes) :
    input.expects (chunk ++ later) =
      match input.transform chunk with
      | (bytes, .error failure) => (bytes, some failure)
      | (bytes, .ok next) => behind bytes (next.expects later) := by
  induction input, chunk using transform.induct with
  | case1 input =>
    rw [transform_nil, List.nil_append]
    rfl
  | case2 input chunk more failure turned =>
    rw [expects_turn, turned, transform_failed more turned, Turn.forwards]
  | case3 input chunk more bytes next rest turned _ _ _ follows =>
    rw [expects_turn, turned, transform_forwarded more turned, Turn.forwards, follows]
    rcases next.transform rest with ⟨later, failure | last⟩
    · rfl
    · exact (behind_append _ _ _).symm

/-- The filter forwards of every cut of a stream what it has to of the stream. -/
theorem run_eq_expects (input : BoundedInput) (chunks : List Bytes) :
    input.run chunks = input.expects chunks.flatten := by
  induction chunks generalizing input with
  | nil => exact (expects_nil input).symm
  | cons chunk chunks follows =>
    rw [List.flatten_cons, expects_transform, run]
    rcases input.transform chunk with ⟨bytes, failure | next⟩
    · rfl
    · exact congrArg (behind bytes) (follows next)

/-- What is forwarded depends on the stream alone. -/
theorem run_fresh (chunks : List Bytes) : fresh.run chunks = reading chunks.flatten :=
  run_eq_expects fresh chunks

end BoundedInput

/-! ## The frames of a stream -/

section Frames

variable {bytes front : Bytes} {place length : Nat}

theorem declares_unique {header : Bytes} {length other : Nat} (first : Declares header length)
    (second : Declares header other) : length = other :=
  Except.ok.inj ((contentLength_eq_ok.2 first).symm.trans (contentLength_eq_ok.2 second))

/-- The header of a frame in front of some bytes is their header. -/
theorem frame_header (starts : front <+: bytes) (frame : Frame front) :
    ∃ place length, Headed bytes place ∧ Declares (bytes.take place) length ∧
      place + 4 + length ≤ bytes.length := by
  obtain ⟨rest, rfl⟩ := starts
  obtain ⟨place, length, ⟨found, bounded⟩, declared, whole⟩ := frame
  refine ⟨place, length, ⟨delimiterAt_append found rest, bounded⟩, ?_, ?_⟩
  · rwa [List.take_append_of_le_length (by omega)]
  · rw [List.length_append]
    omega

/-- No frame stands in front of bytes whose first frame is not complete. -/
theorem no_frame (state : Opened bytes ∨ Unfinished bytes ∨ Broken bytes) (starts : front <+: bytes) :
    ¬Frame front := by
  intro frame
  obtain ⟨place, length, headed, declared, whole⟩ := frame_header starts frame
  rcases state with ⟨other, larger, found, declares, short⟩ | ⟨headless, -⟩ |
    ⟨-, headless⟩ | ⟨other, found, invalid⟩
  · obtain rfl : place = other := Option.some.inj (headed.1.symm.trans found.1)
    obtain rfl := declares_unique declared declares
    omega
  · exact nomatch headless.symm.trans headed.1
  · exact headless place headed
  · obtain rfl : place = other := Option.some.inj (headed.1.symm.trans found.1)
    exact invalid length declared

/-- A stream is its complete frames and what has come of the next one, of which only a complete
and valid header and the body behind it are forwarded. -/
theorem reading_frames (stream : Bytes) :
    ∃ (frames : List Bytes) (rest : Bytes), stream = frames.flatten ++ rest ∧ (∀ frame ∈ frames, Frame frame) ∧
      (Opened rest ∧ reading stream = (stream, none) ∨
        Unfinished rest ∧ reading stream = (frames.flatten, none) ∨
        Broken rest ∧ ∃ failure, reading stream = (frames.flatten, some failure)) := by
  induction stream using reading.induct with
  | case1 stream headless =>
    refine ⟨[], stream, rfl, List.forall_mem_nil _, .inr ?_⟩
    rw [reading_none headless]
    by_cases short : stream.length < maxHeaderBytes
    · rw [List.take_of_length_le short.le] at headless
      exact .inl ⟨⟨headless, short⟩, by rw [if_pos short]; rfl⟩
    · refine .inr ⟨.inl ⟨Nat.le_of_not_lt short, fun place headed => ?_⟩, _, by rw [if_neg short]; rfl⟩
      exact nomatch headless.symm.trans (headed_iff.2 headed)
  | case2 stream place headed failure invalid =>
    refine ⟨[], stream, rfl, List.forall_mem_nil _, .inr (.inr ⟨.inr ⟨place, headed_iff.1 headed,
      fun length declared => ?_⟩, failure, reading_error headed invalid⟩)⟩
    exact nomatch invalid.symm.trans (contentLength_eq_ok.2 declared)
  | case3 stream place headed length valid follows =>
    have found := headed_iff.1 headed
    have declared := contentLength_eq_ok.1 valid
    rw [reading_ok headed valid]
    by_cases short : stream.length < place + 4 + length
    · refine ⟨[], stream, rfl, List.forall_mem_nil _, .inl ⟨⟨place, length, found, declared,
        short⟩, ?_⟩⟩
      rw [List.take_of_length_le short.le, List.drop_eq_nil_of_le short.le, reading_nil, behind,
        List.append_nil]
    · obtain ⟨frames, rest, whole, complete, ends⟩ := follows
      have long := Nat.le_of_not_lt short
      have frame : Frame (stream.take (place + 4 + length)) := by
        refine ⟨place, length, ⟨?_, found.2⟩, ?_, List.length_take_of_le long⟩
        · rw [List.take_add]
          exact delimiterAt_append (delimiterAt_header found.1) _
        · rwa [List.take_take, Nat.min_eq_left (by omega)]
      refine ⟨stream.take (place + 4 + length) :: frames, rest, ?_, ?_, ?_⟩
      · rw [List.flatten_cons, List.append_assoc, ← whole, List.take_append_drop]
      · exact List.forall_mem_cons.2 ⟨frame, complete⟩
      · rcases ends with ⟨opened, all⟩ | ⟨unfinished, only⟩ | ⟨broken, failure, only⟩
        · exact .inl ⟨opened, by rw [all, behind, List.take_append_drop]⟩
        · exact .inr (.inl ⟨unfinished, by rw [only]; rfl⟩)
        · exact .inr (.inr ⟨broken, failure, by rw [only]; rfl⟩)

end Frames

/-- Every cut of a stream forwards the same bytes and fails at the same frame. These are the
complete frames in front of the stream, as many as there are, and what has come of a frame whose
header is complete and valid. It fails when the header of the next frame breaks the rules. -/
theorem filter_frames (chunks : List Bytes) :
    (∀ others : List Bytes, others.flatten = chunks.flatten →
      BoundedInput.fresh.run others = BoundedInput.fresh.run chunks) ∧
    ∃ (frames : List Bytes) (rest : Bytes), chunks.flatten = frames.flatten ++ rest ∧ (∀ frame ∈ frames, Frame frame) ∧
      (∀ front, front <+: rest → ¬Frame front) ∧
      (Opened rest ∧ BoundedInput.fresh.run chunks = (chunks.flatten, none) ∨
        Unfinished rest ∧ BoundedInput.fresh.run chunks = (frames.flatten, none) ∨
        Broken rest ∧ ∃ failure, BoundedInput.fresh.run chunks = (frames.flatten, some failure)) := by
  constructor
  · intro others same
    rw [BoundedInput.run_fresh, BoundedInput.run_fresh, same]
  · obtain ⟨frames, rest, whole, complete, ends⟩ := reading_frames chunks.flatten
    rw [← BoundedInput.run_fresh] at ends
    refine ⟨frames, rest, whole, complete, fun front starts => no_frame ?_ starts, ends⟩
    rcases ends with opened | unfinished | broken
    · exact .inl opened.1
    · exact .inr (.inl unfinished.1)
    · exact .inr (.inr broken.1)

/-- `Content-Length: 2` and one byte of the body. -/
def halfFrame : Bytes :=
  [67, 111, 110, 116, 101, 110, 116, 45, 76, 101, 110, 103, 116, 104, 58, 32, 50, 13, 10, 13, 10, 97]

theorem halfFrame_opened : Opened halfFrame :=
  ⟨17, 2, ⟨rfl, by decide⟩, contentLength_eq_ok.1 rfl, by decide⟩

/-- A part of a body is forwarded as it comes, and so what is forwarded need not be a sequence of
complete frames. -/
theorem half_frame_forwarded :
    ¬∃ frames : List Bytes, (∀ frame ∈ frames, Frame frame) ∧
      (BoundedInput.fresh.run [halfFrame]).1 = frames.flatten := by
  have forwarded : BoundedInput.fresh.run [halfFrame] = (halfFrame, none) := by
    have headed : delimiterAt (halfFrame.take maxHeaderBytes) = some 17 := rfl
    have valid : contentLength (halfFrame.take 17) = .ok 2 := rfl
    have whole : halfFrame.drop (17 + 4 + 2) = [] := rfl
    rw [BoundedInput.run_fresh, List.flatten_singleton, reading_ok headed valid, whole, reading_nil]
    rfl
  rintro ⟨frames, complete, whole⟩
  rw [forwarded] at whole
  cases frames with
  | nil => cases whole
  | cons frame frames =>
    refine no_frame (.inl halfFrame_opened) ?_ (complete frame List.mem_cons_self)
    exact ⟨frames.flatten, whole.symm⟩

end OnecRuntime.Transport
