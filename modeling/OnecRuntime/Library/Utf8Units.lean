import Mathlib.Algebra.BigOperators.Group.List.Basic
import Mathlib.Algebra.Order.Group.Nat

/-!
# Encoding a text of code units in parts

A text of UTF-16 code units is encoded in UTF-8.  A surrogate pair is one code point; a surrogate
without its partner is encoded as the platform has it.  Parts of a text that are encoded one by
one join to the encoding of the text unless a pair was cut.
-/

namespace OnecRuntime.Library

def isHighUnit (unit : UInt16) : Bool := 0xD800 ≤ unit.toNat && unit.toNat < 0xDC00

def isLowUnit (unit : UInt16) : Bool := 0xDC00 ≤ unit.toNat && unit.toNat < 0xE000

/-- The code point of a surrogate pair. -/
def pairPoint (high low : UInt16) : Nat :=
  0x10000 + (high.toNat - 0xD800) * 0x400 + (low.toNat - 0xDC00)

/-- The UTF-8 bytes of a code point below the supplementary planes. -/
def utf8Basic (point : Nat) : List UInt8 :=
  if point < 0x80 then [UInt8.ofNat point]
  else if point < 0x800 then
    [UInt8.ofNat (0xC0 + point / 0x40), UInt8.ofNat (0x80 + point % 0x40)]
  else
    [UInt8.ofNat (0xE0 + point / 0x1000), UInt8.ofNat (0x80 + point / 0x40 % 0x40),
      UInt8.ofNat (0x80 + point % 0x40)]

def utf8Supplementary (point : Nat) : List UInt8 :=
  [UInt8.ofNat (0xF0 + point / 0x40000), UInt8.ofNat (0x80 + point / 0x1000 % 0x40),
    UInt8.ofNat (0x80 + point / 0x40 % 0x40), UInt8.ofNat (0x80 + point % 0x40)]

section Encoding

variable (unpaired : UInt16 → List UInt8)

/-- A unit on its own. -/
def utf8Unit (unit : UInt16) : List UInt8 :=
  if isHighUnit unit || isLowUnit unit then unpaired unit else utf8Basic unit.toNat

def utf8Units : List UInt16 → List UInt8
  | high :: low :: rest =>
      if isHighUnit high && isLowUnit low then
        utf8Supplementary (pairPoint high low) ++ utf8Units rest
      else utf8Unit unpaired high ++ utf8Units (low :: rest)
  | [unit] => utf8Unit unpaired unit
  | [] => []

/-- The text before a place ends on the first half of a pair that the text behind it completes. -/
def splitsPair (before after : List UInt16) : Bool :=
  before.getLast?.any isHighUnit && after.head?.any isLowUnit

theorem low_not_high {unit : UInt16} (low : isLowUnit unit) : isHighUnit unit = false := by
  unfold isLowUnit at low
  unfold isHighUnit
  rw [Bool.and_eq_true, decide_eq_true_iff] at low
  rw [Bool.and_eq_false_iff]
  exact .inr (decide_eq_false (Nat.not_lt.2 low.1))

theorem utf8Units_single {unit : UInt16} {text : List UInt16}
    (alone : splitsPair [unit] text = false) :
    utf8Units unpaired (unit :: text) = utf8Unit unpaired unit ++ utf8Units unpaired text := by
  cases text with
  | nil =>
      unfold utf8Units
      rw [List.append_nil]
  | cons next rest =>
      have apart : (isHighUnit unit && isLowUnit next) = false := alone
      rw [utf8Units, apart]
      rfl

theorem utf8Units_pair {high low : UInt16} {rest : List UInt16}
    (pair : isHighUnit high && isLowUnit low) :
    utf8Units unpaired (high :: low :: rest) =
      utf8Supplementary (pairPoint high low) ++ utf8Units unpaired rest := by
  rw [utf8Units, if_pos pair]

variable {after : List UInt16}

theorem splitsPair_cons {unit : UInt16} {before : List UInt16} (inside : before ≠ []) :
    splitsPair (unit :: before) after = splitsPair before after := by
  obtain ⟨next, rest, rfl⟩ := List.exists_cons_of_ne_nil inside
  rfl

/-- A pair at the front does not end where the text is split. -/
theorem splitsPair_pair {high low : UInt16} {rest : List UInt16} (second : isLowUnit low) :
    splitsPair (high :: low :: rest) after = splitsPair rest after := by
  cases rest with
  | nil =>
      unfold splitsPair
      change (isHighUnit low && _) = (false && _)
      rw [low_not_high second]
  | cons next rest => rfl

/-- Two texts that are joined where no pair is cut are encoded one after the other. -/
theorem utf8Units_append (before : List UInt16)
    (whole : splitsPair before after = false) :
    utf8Units unpaired (before ++ after) =
      utf8Units unpaired before ++ utf8Units unpaired after := by
  induction before using utf8Units.induct with
  | case1 high low rest pair ih =>
      have second := (Bool.and_eq_true_iff.1 pair).2
      rw [splitsPair_pair second] at whole
      rw [List.cons_append, List.cons_append, utf8Units_pair _ pair, utf8Units_pair _ pair,
        ih whole, List.append_assoc]
  | case2 high low rest single ih =>
      have apart : splitsPair [high] (low :: rest) = false := eq_false_of_ne_true single
      rw [splitsPair_cons (List.cons_ne_nil _ _)] at whole
      have joined : splitsPair [high] ((low :: rest) ++ after) = false := apart
      rw [List.cons_append, utf8Units_single _ joined, utf8Units_single _ apart, ih whole,
        List.append_assoc]
  | case3 unit => exact utf8Units_single _ whole
  | case4 => rfl

/-- Where a pair is cut, its four bytes become those of the two halves. -/
theorem utf8Units_split {width : Nat} (uniform : ∀ unit, (unpaired unit).length = width)
    (before : List UInt16) (split : splitsPair before after) :
    (utf8Units unpaired (before ++ after)).length + 2 * width =
      (utf8Units unpaired before).length + (utf8Units unpaired after).length + 4 := by
  induction before using utf8Units.induct with
  | case1 high low rest pair ih =>
      have second := (Bool.and_eq_true_iff.1 pair).2
      rw [splitsPair_pair second] at split
      have later := ih split
      rw [List.cons_append, List.cons_append, utf8Units_pair _ pair, utf8Units_pair _ pair,
        List.length_append, List.length_append]
      omega
  | case2 high low rest single ih =>
      have apart : splitsPair [high] (low :: rest) = false := eq_false_of_ne_true single
      rw [splitsPair_cons (List.cons_ne_nil _ _)] at split
      have later := ih split
      have joined : splitsPair [high] ((low :: rest) ++ after) = false := apart
      rw [List.cons_append, utf8Units_single _ joined, utf8Units_single _ apart,
        List.length_append, List.length_append]
      omega
  | case3 unit =>
      cases after with
      | nil =>
          unfold splitsPair at split
          rw [Bool.and_eq_true_iff] at split
          cases split.2
      | cons low rest =>
          have pair : (isHighUnit unit && isLowUnit low) = true := split
          obtain ⟨high, second⟩ := Bool.and_eq_true_iff.1 pair
          have alone : splitsPair [low] rest = false := by
            cases rest with
            | nil => exact Bool.and_false _
            | cons next rest =>
                change (isHighUnit low && _) = false
                rw [low_not_high second, Bool.false_and]
          have first : utf8Units unpaired [unit] = unpaired unit := by
            unfold utf8Units utf8Unit
            rw [high]
            rfl
          have last : utf8Unit unpaired low = unpaired low := by
            unfold utf8Unit
            rw [second, Bool.or_true]
            rfl
          rw [List.singleton_append, utf8Units_pair _ pair, utf8Units_single _ alone, first, last,
            List.length_append, List.length_append, uniform, uniform]
          change 4 + _ + _ = _
          omega
  | case4 => cases split

theorem utf8Unit_length_le (narrow : ∀ unit, (unpaired unit).length ≤ 3) (unit : UInt16) :
    (utf8Unit unpaired unit).length ≤ 3 := by
  unfold utf8Unit
  split
  · exact narrow unit
  · unfold utf8Basic
    split
    · exact Nat.le_add_left 1 2
    · split
      · exact Nat.le_add_left 2 1
      · exact Nat.le_refl 3

/-- The bytes of a text are at most three times its units. -/
theorem utf8Units_length_le (narrow : ∀ unit, (unpaired unit).length ≤ 3) (text : List UInt16) :
    (utf8Units unpaired text).length ≤ 3 * text.length := by
  have single := utf8Unit_length_le unpaired narrow
  induction text using utf8Units.induct with
  | case1 high low rest pair ih =>
      rw [utf8Units_pair _ pair, List.length_append, List.length_cons, List.length_cons]
      change 4 + _ ≤ _
      omega
  | case2 high low rest apart ih =>
      have alone : splitsPair [high] (low :: rest) = false := eq_false_of_ne_true apart
      have bound := single high
      rw [utf8Units_single _ alone, List.length_append, List.length_cons]
      omega
  | case3 unit => exact single unit
  | case4 => exact Nat.zero_le _

end Encoding

/-! ## Cutting a text -/

/-- The parts of a given size from the start of a text, the last one shorter; the fuel is the
length of the text at least. -/
def cut {α : Type*} (size : Nat) : Nat → List α → List (List α)
  | 0, _ => []
  | _ + 1, [] => []
  | fuel + 1, text => text.take size :: cut size fuel (text.drop size)

variable {size : Nat}

theorem cut_cons {α : Type*} {fuel : Nat} {text : List α} (inside : text ≠ []) :
    cut size (fuel + 1) text = text.take size :: cut size fuel (text.drop size) := by
  obtain ⟨first, rest, rfl⟩ := List.exists_cons_of_ne_nil inside
  rfl

theorem length_of_mem_cut {α : Type*} {fuel : Nat} {text part : List α}
    (member : part ∈ cut size fuel text) : part.length ≤ size := by
  induction fuel generalizing text with
  | zero => cases member
  | succ fuel ih =>
      cases text with
      | nil => cases member
      | cons first rest =>
          obtain rfl | later := List.mem_cons.1 member
          · exact List.length_take_le _ _
          · exact ih later

/-- A pair of the text lies across a position. -/
def splitsAt (text : List UInt16) (position : Nat) : Bool :=
  0 < position && text[position - 1]?.any isHighUnit && text[position]?.any isLowUnit

/-- Some boundary between parts of the size lies inside a pair. -/
def CutsPair (size : Nat) (text : List UInt16) : Prop :=
  ∃ count, splitsAt text ((count + 1) * size)

theorem splitsPair_take (positive : 0 < size) (text : List UInt16) :
    splitsPair (text.take size) (text.drop size) = splitsAt text size := by
  unfold splitsPair splitsAt
  rw [List.getLast?_take, if_neg (Nat.ne_of_gt positive), List.head?_drop,
    decide_eq_true positive, Bool.true_and]
  cases after : text[size]? with
  | none => rw [Option.any_none, Bool.and_false, Bool.and_false]
  | some unit =>
      have inside : size - 1 < text.length := by
        have bound := (List.getElem?_eq_some_iff.1 after).1
        omega
      rw [List.getElem?_eq_getElem inside]
      rfl

theorem splitsAt_drop {text : List UInt16} {position : Nat} (positive : 0 < position) :
    splitsAt (text.drop size) position = splitsAt text (position + size) := by
  unfold splitsAt
  rw [List.getElem?_drop, List.getElem?_drop, decide_eq_true positive,
    decide_eq_true (Nat.add_pos_left positive size), Nat.add_comm size position,
    show size + (position - 1) = position + size - 1 by omega]

theorem cutsPair_drop (positive : 0 < size) {text : List UInt16}
    (cuts : CutsPair size (text.drop size)) : CutsPair size text := by
  obtain ⟨count, splits⟩ := cuts
  rw [splitsAt_drop (Nat.mul_pos (Nat.succ_pos _) positive), ← Nat.succ_mul] at splits
  exact ⟨count + 1, splits⟩

section Cutting

variable (unpaired : UInt16 → List UInt8)

variable {text : List UInt16}

/-- Parts that cut no pair join to the encoding of the text. -/
theorem cut_joined {size : Nat} (positive : 0 < size) {fuel : Nat}
    (enough : text.length ≤ fuel) (whole : ¬CutsPair size text) :
    (cut size fuel text).flatMap (utf8Units unpaired) = utf8Units unpaired text := by
  induction fuel generalizing text with
  | zero =>
      rw [List.length_eq_zero_iff.1 (Nat.le_zero.1 enough)]
      rfl
  | succ fuel ih =>
      by_cases empty : text = []
      · rw [empty]
        rfl
      · have first : splitsPair (text.take size) (text.drop size) = false := by
          rw [splitsPair_take positive]
          refine eq_false_of_ne_true fun splits => whole ⟨0, ?_⟩
          rwa [Nat.zero_add, Nat.one_mul]
        have shorter : (text.drop size).length ≤ fuel := by
          rw [List.length_drop]
          omega
        rw [cut_cons empty, List.flatMap_cons,
          ih shorter fun cuts => whole (cutsPair_drop positive cuts),
          ← utf8Units_append _ _ first, List.take_append_drop]

/-- The bytes of the joined parts are more than those of the text for every cut pair, or fewer. -/
theorem cut_length {width size : Nat} (uniform : ∀ unit, (unpaired unit).length = width)
    (positive : 0 < size) {fuel : Nat} (enough : text.length ≤ fuel) :
    ∃ count, (CutsPair size text → 0 < count) ∧
      (utf8Units unpaired text).length + 2 * width * count =
        ((cut size fuel text).flatMap (utf8Units unpaired)).length + 4 * count := by
  induction fuel generalizing text with
  | zero =>
      rw [List.length_eq_zero_iff.1 (Nat.le_zero.1 enough)]
      refine ⟨0, fun cuts => ?_, rfl⟩
      obtain ⟨count, splits⟩ := cuts
      unfold splitsAt at splits
      rw [List.getElem?_nil, Option.any_none, Bool.and_false] at splits
      cases splits
  | succ fuel ih =>
      by_cases empty : text = []
      · rw [empty]
        refine ⟨0, fun cuts => ?_, rfl⟩
        obtain ⟨count, splits⟩ := cuts
        unfold splitsAt at splits
        rw [List.getElem?_nil, Option.any_none, Bool.and_false] at splits
        cases splits
      · have shorter : (text.drop size).length ≤ fuel := by
          rw [List.length_drop]
          omega
        obtain ⟨count, cuts, length⟩ := ih shorter
        have joined := List.take_append_drop size text
        rw [cut_cons empty, List.flatMap_cons, List.length_append]
        cases splits : splitsPair (text.take size) (text.drop size) with
        | true =>
            have first := utf8Units_split unpaired uniform _ splits
            rw [joined] at first
            refine ⟨count + 1, fun _ => Nat.succ_pos _, ?_⟩
            rw [Nat.mul_add, Nat.mul_add]
            omega
        | false =>
            have first := congrArg List.length (utf8Units_append unpaired _ splits)
            rw [joined, List.length_append] at first
            refine ⟨count, fun cut => cuts ?_, ?_⟩
            · obtain ⟨place, inside⟩ := cut
              cases place with
              | zero =>
                  rw [Nat.zero_add, Nat.one_mul, ← splitsPair_take positive, splits] at inside
                  cases inside
              | succ place =>
                  refine ⟨place, ?_⟩
                  rw [splitsAt_drop (Nat.mul_pos (Nat.succ_pos _) positive), ← Nat.succ_mul]
                  exact inside
            · omega

/-- The joined parts have the length of the encoded text exactly where no pair is cut, provided
that a half of a pair has one byte or three. -/
theorem cut_length_eq_iff {width size : Nat} (uniform : ∀ unit, (unpaired unit).length = width)
    (odd : width = 1 ∨ width = 3) (positive : 0 < size) {fuel : Nat}
    (enough : text.length ≤ fuel) :
    ((cut size fuel text).flatMap (utf8Units unpaired)).length =
      (utf8Units unpaired text).length ↔ ¬CutsPair size text := by
  constructor
  · intro same cuts
    obtain ⟨count, counted, length⟩ := cut_length unpaired uniform positive enough
    have some := counted cuts
    rw [same] at length
    obtain rfl | rfl := odd
    · omega
    · omega
  · intro whole
    rw [cut_joined unpaired positive enough whole]

end Cutting

end OnecRuntime.Library
