import Mathlib.Data.List.Basic
import OnecRuntime.Library.Json

/-!
# The end of a header

The first place of the empty line in a sequence of bytes. What stands behind the place does not
move it, and bytes that hold no empty line hold none in front of any of their positions.
-/

namespace OnecRuntime.Transport

abbrev Bytes := List UInt8

/-- `\r\n\r\n`. -/
def delimiter : Bytes := [13, 10, 13, 10]

/-- `indexOf` of the delimiter. -/
def delimiterAt : Bytes → Option Nat
  | [] => none
  | byte :: rest =>
      if delimiter.isPrefixOf (byte :: rest) then some 0 else (delimiterAt rest).map (· + 1)

@[simp] theorem delimiterAt_nil : delimiterAt [] = none := rfl

theorem delimiter_ne_nil : delimiter ≠ [] := by decide

theorem delimiterAt_eq_none {bytes : Bytes} :
    delimiterAt bytes = none ↔ ∀ place, ¬delimiter <+: bytes.drop place := by
  induction bytes with
  | nil => simp [delimiter_ne_nil]
  | cons byte rest follows =>
    rw [delimiterAt, ← Nat.and_forall_add_one]
    by_cases here : delimiter <+: byte :: rest
    · simp [here]
    · simp [here, follows]

theorem delimiterAt_eq_some {bytes : Bytes} {place : Nat} :
    delimiterAt bytes = some place ↔
      delimiter <+: bytes.drop place ∧ ∀ earlier < place, ¬delimiter <+: bytes.drop earlier := by
  induction bytes generalizing place with
  | nil => simp [delimiter_ne_nil]
  | cons byte rest follows =>
    rw [delimiterAt]
    by_cases here : delimiter <+: byte :: rest
    · rw [if_pos (List.isPrefixOf_iff_prefix.2 here), Option.some_inj]
      constructor
      · rintro rfl
        exact ⟨here, fun earlier before => nomatch before⟩
      · rintro ⟨-, first⟩
        by_contra later
        exact first 0 (Nat.pos_of_ne_zero (Ne.symm later)) here
    · rw [if_neg (mt List.isPrefixOf_iff_prefix.1 here), Option.map_eq_some_iff]
      constructor
      · rintro ⟨behind, found, rfl⟩
        obtain ⟨starts, first⟩ := follows.1 found
        refine ⟨starts, fun earlier before => ?_⟩
        cases earlier with
        | zero => exact here
        | succ earlier => exact first earlier (Nat.lt_of_succ_lt_succ before)
      · rintro ⟨starts, first⟩
        cases place with
        | zero => exact absurd starts here
        | succ place =>
          exact ⟨place, follows.2 ⟨starts, fun earlier before =>
            first (earlier + 1) (Nat.succ_lt_succ before)⟩, rfl⟩

section Places

variable {first second bytes : Bytes} {place : Nat}

theorem place_within (found : delimiterAt bytes = some place) : place + 4 ≤ bytes.length := by
  have long := (delimiterAt_eq_some.1 found).1.length_le
  rw [List.length_drop] at long
  simp only [delimiter, List.length_cons, List.length_nil] at long
  omega

/-- A prefix that lies in front of some bytes lies in what stands before them, if that is long
enough. -/
theorem prefix_in_front (long : 4 ≤ first.length) (starts : delimiter <+: first ++ second) :
    delimiter <+: first :=
  List.prefix_of_prefix_length_le starts (List.prefix_append first second) long

/-- Bytes behind a place do not move it. -/
theorem delimiterAt_append (found : delimiterAt first = some place) (second : Bytes) :
    delimiterAt (first ++ second) = some place := by
  have within := place_within found
  obtain ⟨starts, none⟩ := delimiterAt_eq_some.1 found
  refine delimiterAt_eq_some.2 ⟨?_, fun earlier before early => none earlier before ?_⟩
  · rw [List.drop_append_of_le_length (by omega)]
    exact starts.trans (List.prefix_append _ _)
  · rw [List.drop_append_of_le_length (by omega)] at early
    exact prefix_in_front (by rw [List.length_drop]; omega) early

/-- Bytes without a place have none in front of any of their positions. -/
theorem delimiterAt_take (none : delimiterAt bytes = none) (count : Nat) :
    delimiterAt (bytes.take count) = Option.none := by
  refine delimiterAt_eq_none.2 fun place starts => delimiterAt_eq_none.1 none place ?_
  rw [List.drop_take] at starts
  exact starts.trans (List.take_prefix _ _)

/-- The bytes up to the end of the delimiter have it at the same place. -/
theorem delimiterAt_header (found : delimiterAt bytes = some place) :
    delimiterAt (bytes.take (place + 4)) = some place := by
  obtain ⟨starts, none⟩ := delimiterAt_eq_some.1 found
  refine delimiterAt_eq_some.2 ⟨?_, fun earlier before early => none earlier before ?_⟩
  · rw [List.drop_take, Nat.add_sub_cancel_left]
    exact List.prefix_take_iff.2 ⟨starts, by simp [delimiter]⟩
  · rw [List.drop_take] at early
    exact early.trans (List.take_prefix _ _)

/-- A place that bytes in front do not have lies behind them. -/
theorem place_behind (none : delimiterAt first = none)
    (found : delimiterAt (first ++ second) = some place) : first.length < place + 4 := by
  by_contra inside
  obtain ⟨starts, _⟩ := delimiterAt_eq_some.1 found
  rw [List.drop_append_of_le_length (by omega)] at starts
  exact delimiterAt_eq_none.1 none place
    (prefix_in_front (by rw [List.length_drop]; omega) starts)

end Places

end OnecRuntime.Transport

/-!
# The input filter of the language server

The bytes of the server as the filter reads them, one chunk after another, without its clocks
and its rates: the header that is being read, or the bytes of a body that are still to come, and
what each chunk forwards.
-/

namespace OnecRuntime.Transport

open OnecRuntime.Library

def maxHeaderBytes : Nat := 8 * 1024

def maxMessageBytes : Nat := 8 * 1024 * 1024

theorem maxHeaderBytes_pos : 0 < maxHeaderBytes := by decide

/-! ## The header -/

/-- `toString('ascii')`, which leaves out the high bit of a byte. -/
def asciiText (bytes : Bytes) : List Char := bytes.map fun byte => Char.ofNat (byte.toNat % 128)

/-- `split('\r\n')`. -/
def splitLines : List Char → List (List Char)
  | [] => [[]]
  | '\r' :: '\n' :: rest => [] :: splitLines rest
  | char :: rest =>
      match splitLines rest with
      | [] => [[char]]
      | line :: lines => (char :: line) :: lines

def lengthName : List Char := "content-length:".toList

/-- `/^content-length:/i`. -/
def namesLength (line : List Char) : Bool := lengthName.isPrefixOf (line.map Char.toLower)

/-- `\s` on ASCII characters. -/
def isSpace (char : Char) : Bool :=
  char = ' ' || char = '\t' || char = '\n' || char = '\r' || char.toNat = 11 || char.toNat = 12

/-- The number of a line that names a length, `/^content-length:\s*[0-9]+\s*$/i`. -/
def declaredLength (line : List Char) : Option Nat :=
  let value := (line.drop lengthName.length).dropWhile isSpace
  let digits := value.takeWhile Char.isDigit
  if digits ≠ [] ∧ (value.dropWhile Char.isDigit).all isSpace = true then some (digitsValue digits)
  else none

inductive Failure where
  | headerLimit
  | invalidHeader
  | messageSize
deriving DecidableEq

/-- The length that a header declares, without its last empty line. -/
def contentLength (header : Bytes) : Except Failure Nat :=
  match (splitLines (asciiText header)).filter namesLength with
  | [line] =>
      match declaredLength line with
      | some length =>
          if 0 < length ∧ length ≤ maxMessageBytes then .ok length else .error .messageSize
      | none => .error .invalidHeader
  | _ => .error .invalidHeader

/-! ## The filter -/

/-- The filter between two chunks: `header` is the part of a header that came so far. -/
structure BoundedInput where
  header : Bytes
  remaining : Nat
  short : header.length < maxHeaderBytes
  unfinished : delimiterAt header = none
  apart : 0 < remaining → header = []

namespace BoundedInput

def fresh : BoundedInput := ⟨[], 0, maxHeaderBytes_pos, rfl, fun _ => rfl⟩

/-- What a turn of the loop does: it fails, or it forwards some bytes and leaves the rest of the
chunk. -/
inductive Turn where
  | failed (failure : Failure)
  | forwarded (bytes : Bytes) (next : BoundedInput) (rest : Bytes)

/-- One turn of the loop over a chunk. -/
def turn (input : BoundedInput) (chunk : Bytes) : Turn :=
  if 0 < input.remaining then
    .forwarded (chunk.take input.remaining)
      ⟨input.header, input.remaining - chunk.length, input.short, input.unfinished,
        fun more => input.apart (by omega)⟩
      (chunk.drop input.remaining)
  else
    let joined := input.header ++ chunk.take (maxHeaderBytes - input.header.length)
    match found : delimiterAt joined with
    | none =>
        if short : joined.length < maxHeaderBytes then
          .forwarded [] ⟨joined, 0, short, found, fun none => nomatch none⟩
            (chunk.drop (maxHeaderBytes - input.header.length))
        else .failed .headerLimit
    | some boundary =>
        match contentLength (joined.take boundary) with
        | .error failure => .failed failure
        | .ok length =>
            .forwarded (joined.take (boundary + 4)) ⟨[], length, maxHeaderBytes_pos, rfl, fun _ => rfl⟩
              (chunk.drop (boundary + 4 - input.header.length))

/-- A turn leaves less of a chunk. -/
theorem turn_shorter {input next : BoundedInput} {chunk bytes rest : Bytes} (more : chunk ≠ [])
    (turned : input.turn chunk = .forwarded bytes next rest) : rest.length < chunk.length := by
  have positive := List.length_pos_of_ne_nil more
  unfold turn at turned
  split at turned
  · next waiting =>
    cases turned
    rw [List.length_drop]
    omega
  · dsimp only at turned
    split at turned
    · split at turned
      · cases turned
        have window := input.short
        rw [List.length_drop]
        omega
      · cases turned
    · next boundary found =>
      split at turned
      · cases turned
      · cases turned
        have behind := place_behind input.unfinished found
        rw [List.length_drop]
        omega

/-- `_transform`: what a chunk forwards, and the filter it leaves. -/
def transform (input : BoundedInput) (chunk : Bytes) : Bytes × Except Failure BoundedInput :=
  if _empty : chunk = [] then ([], .ok input)
  else
    match _turned : input.turn chunk with
    | .failed failure => ([], .error failure)
    | .forwarded bytes next rest =>
        let (later, result) := next.transform rest
        (bytes ++ later, result)
termination_by chunk.length
decreasing_by exact turn_shorter _empty _turned

/-- The chunks of a stream, of which those behind a failure are not read. -/
def run (input : BoundedInput) : List Bytes → Bytes × Option Failure
  | [] => ([], none)
  | chunk :: chunks =>
      match input.transform chunk with
      | (bytes, .error failure) => (bytes, some failure)
      | (bytes, .ok next) =>
          let (later, failure) := next.run chunks
          (bytes ++ later, failure)

end BoundedInput

end OnecRuntime.Transport
