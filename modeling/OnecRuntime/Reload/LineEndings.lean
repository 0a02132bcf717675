import OnecRuntime.Library.Bisect
import OnecRuntime.SourceMaps.Segments

/-!
# Line endings of a reload source

Reload text has its line endings normalized to line feeds.  A carriage return is
an ending of its own, or the first half of a pair.  The offset of a character in
the normalized text is its offset less the number of pairs that ended before it.
-/

namespace OnecRuntime.Reload

open OnecRuntime.Library OnecRuntime.SourceMaps

/-- `text.replace("\r\n", "\n")`. -/
def replacePairs : Text → Text
  | '\r' :: '\n' :: rest => '\n' :: replacePairs rest
  | first :: rest => first :: replacePairs rest
  | [] => []

def normalizeReloadFragment (text : Text) : Text :=
  (replacePairs text).map fun character => if character = '\r' then '\n' else character

/-- The characters from one offset up to another. -/
def cut (text : Text) (first last : Nat) : Text := (text.drop first).take (last - first)

structure LineEnding where
  start : Nat
  width : Nat
  deriving DecidableEq, Repr

/-- `_line_ending_index`, from a position on; the line feed of a pair starts no ending. -/
def lineEndingIndex : Nat → Text → List LineEnding
  | _, [] => []
  | position, character :: rest =>
      if character = '\r' then
        ⟨position, if rest.head? = some '\n' then 2 else 1⟩ :: lineEndingIndex (position + 1) rest
      else lineEndingIndex (position + 1) rest

/-- The line feed of a pair stands at the offset. -/
def pairEnd (text : Text) (offset : Nat) : Bool :=
  decide (0 < offset ∧ text[offset - 1]? = some '\r' ∧ text[offset]? = some '\n')

/-- The length of the normalized text before an offset. -/
def kept (text : Text) : Nat → Nat
  | 0 => 0
  | offset + 1 => kept text offset + if pairEnd text offset then 0 else 1

/-! ## Pairs and normalized lengths -/

variable {text : Text}

@[simp] theorem pairEnd_zero : pairEnd text 0 = false := by
  simp [pairEnd]

theorem pairEnd_length : pairEnd text text.length = false := by
  simp [pairEnd]

variable {offset : Nat}

theorem pairEnd_succ :
    pairEnd text (offset + 1) = true ↔
      text[offset]? = some '\r' ∧ text[offset + 1]? = some '\n' := by
  simp [pairEnd]

theorem pairEnd_of_plain (plain : text[offset]? ≠ some '\r') :
    pairEnd text (offset + 1) = false := by
  rw [← Bool.not_eq_true, pairEnd_succ]
  exact fun both => plain both.1

theorem kept_succ (clean : pairEnd text offset = false) :
    kept text (offset + 1) = kept text offset + 1 := by
  rw [kept, clean, if_neg Bool.false_ne_true]

theorem kept_pair (ends : pairEnd text offset = true) :
    kept text (offset + 1) = kept text offset := by
  rw [kept, ends, if_pos rfl, Nat.add_zero]

theorem kept_monotone {lower upper : Nat} (le : lower ≤ upper) :
    kept text lower ≤ kept text upper := by
  induction upper with
  | zero =>
      obtain rfl := Nat.le_zero.mp le
      exact Nat.le_refl _
  | succ upper ih =>
      rcases Nat.lt_or_ge upper lower with above | below
      · have same : lower = upper + 1 := by omega
        rw [same]
      · exact Nat.le_trans (ih below) (Nat.le_add_right _ _)

variable {first : Nat}

/-- Without a pair end in between, offsets move by the same distance. -/
theorem kept_add {count : Nat}
    (clean : ∀ offset, first ≤ offset → offset < first + count → pairEnd text offset = false) :
    kept text (first + count) = kept text first + count := by
  induction count with
  | zero => rfl
  | succ count ih =>
      have step := kept_succ (clean (first + count) (by omega) (by omega))
      rw [← Nat.add_assoc, step, ih fun offset lower upper => clean offset lower (by omega)]
      rfl

/-! ## The index -/

variable {ending : LineEnding}

theorem mem_lineEndingIndex {position : Nat} :
    ending ∈ lineEndingIndex position text ↔
      ∃ index, ending.start = position + index ∧ text[index]? = some '\r' ∧
        ending.width = if text[index + 1]? = some '\n' then 2 else 1 := by
  induction text generalizing position with
  | nil => simp [lineEndingIndex]
  | cons character rest ih =>
      have later : (∃ index, ending.start = position + index ∧
            (character :: rest)[index]? = some '\r' ∧
            ending.width = if (character :: rest)[index + 1]? = some '\n' then 2 else 1) ↔
          (ending.start = position ∧ character = '\r' ∧
              ending.width = if rest.head? = some '\n' then 2 else 1) ∨
            ∃ index, ending.start = position + 1 + index ∧ rest[index]? = some '\r' ∧
              ending.width = if rest[index + 1]? = some '\n' then 2 else 1 := by
        constructor
        · rintro ⟨index, start, carriage, width⟩
          cases index with
          | zero =>
              simp only [List.getElem?_cons_zero, Option.some.injEq, List.getElem?_cons_succ]
                at carriage width
              exact .inl ⟨start, carriage, by rw [width, List.head?_eq_getElem?]⟩
          | succ index => exact .inr ⟨index, by omega, carriage, width⟩
        · rintro (⟨start, carriage, width⟩ | ⟨index, start, carriage, width⟩)
          · refine ⟨0, start, congrArg some carriage, ?_⟩
            rw [width, List.head?_eq_getElem?]
            rfl
          · exact ⟨index + 1, by omega, carriage, width⟩
      rw [later, lineEndingIndex]
      by_cases carriage : character = '\r'
      · rw [if_pos carriage, List.mem_cons, ih]
        constructor
        · rintro (rfl | found)
          · exact .inl ⟨rfl, carriage, rfl⟩
          · exact .inr found
        · rintro (⟨start, _, width⟩ | found)
          · obtain ⟨_, _⟩ := ending
            cases start
            cases width
            exact .inl rfl
          · exact .inr found
      · rw [if_neg carriage, ih]
        constructor
        · exact .inr
        · rintro (⟨_, impossible, _⟩ | found)
          · exact (carriage impossible).elim
          · exact found

theorem lineEndingIndex_sorted (position : Nat) :
    ((lineEndingIndex position text).map LineEnding.start).Pairwise (· < ·) := by
  induction text generalizing position with
  | nil => exact List.Pairwise.nil
  | cons character rest ih =>
      rw [lineEndingIndex]
      by_cases carriage : character = '\r'
      · rw [if_pos carriage, List.map_cons, List.pairwise_cons]
        refine ⟨?_, ih (position + 1)⟩
        intro start member
        obtain ⟨ending, inside, rfl⟩ := List.mem_map.mp member
        obtain ⟨index, startIs, _⟩ := mem_lineEndingIndex.mp inside
        change position < ending.start
        omega
      · rw [if_neg carriage]
        exact ih (position + 1)

/-- The endings of a whole text are its carriage returns. -/
theorem mem_lineEndingIndex_zero :
    ending ∈ lineEndingIndex 0 text ↔
      text[ending.start]? = some '\r' ∧
        ending.width = if text[ending.start + 1]? = some '\n' then 2 else 1 := by
  rw [mem_lineEndingIndex]
  constructor
  · rintro ⟨index, start, carriage, width⟩
    rw [Nat.zero_add] at start
    rw [start]
    exact ⟨carriage, width⟩
  · rintro ⟨carriage, width⟩
    exact ⟨ending.start, (Nat.zero_add _).symm, carriage, width⟩

/-- The offsets of the line feeds that end a pair. -/
def crlfLfOffsets (endings : List LineEnding) : List Nat :=
  (endings.filter fun ending => decide (ending.width = 2)).map fun ending => ending.start + 1

theorem mem_crlfLfOffsets :
    offset ∈ crlfLfOffsets (lineEndingIndex 0 text) ↔ pairEnd text offset = true := by
  unfold crlfLfOffsets
  simp only [List.mem_map, List.mem_filter, decide_eq_true_eq, mem_lineEndingIndex_zero]
  constructor
  · rintro ⟨ending, ⟨⟨carriage, width⟩, wide⟩, rfl⟩
    rw [pairEnd_succ]
    refine ⟨carriage, ?_⟩
    by_contra apart
    rw [if_neg apart] at width
    omega
  · intro ends
    cases offset with
    | zero => simp at ends
    | succ offset =>
        obtain ⟨carriage, feed⟩ := pairEnd_succ.mp ends
        exact ⟨⟨offset, 2⟩, ⟨⟨carriage, by rw [if_pos feed]⟩, rfl⟩, rfl⟩

theorem crlfLfOffsets_sorted : (crlfLfOffsets (lineEndingIndex 0 text)).Pairwise (· < ·) := by
  have sorted := (lineEndingIndex_sorted 0 : ((lineEndingIndex 0 text).map LineEnding.start).Pairwise (· < ·))
  unfold crlfLfOffsets
  rw [List.pairwise_map] at sorted ⊢
  exact (sorted.filter _).imp fun lt => Nat.succ_lt_succ lt

/-- What `bisect_right` counts before an offset are the pairs that ended there. -/
theorem bisectBefore_crlf (offset : Nat) :
    kept text offset + bisectBefore (crlfLfOffsets (lineEndingIndex 0 text)) offset = offset := by
  have sorted := (crlfLfOffsets_sorted : (crlfLfOffsets (lineEndingIndex 0 text)).Pairwise (· < ·))
  rw [bisectBefore_eq_countP (sorted.imp Nat.le_of_lt)]
  induction offset with
  | zero => simp [kept]
  | succ offset ih =>
      rw [countP_lt_succ, kept]
      cases ends : pairEnd text offset with
      | true =>
          have once : (crlfLfOffsets (lineEndingIndex 0 text)).count offset = 1 :=
            List.count_eq_one_of_mem (sorted.imp Nat.ne_of_lt) (mem_crlfLfOffsets.mpr ends)
          rw [once, if_pos rfl]
          omega
      | false =>
          have never : (crlfLfOffsets (lineEndingIndex 0 text)).count offset = 0 := by
            refine List.count_eq_zero.mpr fun member => ?_
            rw [mem_crlfLfOffsets.mp member] at ends
            cases ends
          rw [never, if_neg Bool.false_ne_true]
          omega

/-! ## Cuts and their normal form -/

variable {last : Nat}

@[simp] theorem cut_self (offset : Nat) : cut text offset offset = [] := by
  simp [cut]

theorem cut_append {middle : Nat} (lower : first ≤ middle) (upper : middle ≤ last) :
    cut text first last = cut text first middle ++ cut text middle last := by
  have width : last - first = (middle - first) + (last - middle) := by omega
  have moved : text.drop middle = (text.drop first).drop (middle - first) := by
    rw [List.drop_drop]
    congr 1
    omega
  rw [cut, cut, cut, width, List.take_add, moved]

variable {character : Char}

theorem cut_cons (lower : first < last)
    (here : text[first]? = some character) :
    cut text first last = character :: cut text (first + 1) last := by
  obtain ⟨inside, value⟩ := List.getElem?_eq_some_iff.mp here
  have width : last - first = (last - (first + 1)) + 1 := by omega
  rw [cut, cut, width, List.drop_eq_getElem_cons inside, List.take_succ_cons, value]

theorem head?_cut (lower : first < last) :
    (cut text first last).head? = text[first]? := by
  rw [cut, List.head?_take, if_neg (by omega), List.head?_drop]

theorem mem_cut (member : character ∈ cut text first last) :
    ∃ offset, first ≤ offset ∧ offset < last ∧ text[offset]? = some character := by
  obtain ⟨index, here⟩ := List.mem_iff_getElem?.mp member
  rw [cut, List.getElem?_take, List.getElem?_drop] at here
  split_ifs at here with inside
  exact ⟨first + index, by omega, by omega, here⟩

@[simp] theorem normalizeReloadFragment_nil : normalizeReloadFragment [] = [] := rfl

theorem normalizeReloadFragment_plain (plain : character ≠ '\r')
    (rest : Text) :
    normalizeReloadFragment (character :: rest) = character :: normalizeReloadFragment rest := by
  unfold normalizeReloadFragment
  rw [replacePairs, List.map_cons, if_neg plain]
  · intro _ impossible
    exact (plain impossible).elim

theorem normalizeReloadFragment_pair (rest : Text) :
    normalizeReloadFragment ('\r' :: '\n' :: rest) = '\n' :: normalizeReloadFragment rest := rfl

theorem normalizeReloadFragment_single {rest : Text} (single : rest.head? ≠ some '\n') :
    normalizeReloadFragment ('\r' :: rest) = '\n' :: normalizeReloadFragment rest := by
  unfold normalizeReloadFragment
  rw [replacePairs]
  · rfl
  · intro tail _ impossible
    rw [impossible] at single
    exact single rfl

/-- Text without carriage returns is kept. -/
theorem normalizeReloadFragment_append {front : Text} (plain : ∀ c ∈ front, c ≠ '\r')
    (rest : Text) :
    normalizeReloadFragment (front ++ rest) = front ++ normalizeReloadFragment rest := by
  induction front with
  | nil => rfl
  | cons first front ih =>
      rw [List.cons_append, normalizeReloadFragment_plain (plain first List.mem_cons_self),
        ih fun other member => plain other (List.mem_cons_of_mem _ member), List.cons_append]

/-- An ending at the front of a cut becomes a line feed, unless the cut splits a pair. -/
theorem normalizeReloadFragment_ending {carriage : Nat}
    (member : ending ∈ lineEndingIndex 0 text) (start : ending.start = carriage)
    (lower : carriage < last) (whole : pairEnd text last = false) :
    normalizeReloadFragment (cut text carriage last) =
        '\n' :: normalizeReloadFragment (cut text (carriage + ending.width) last) ∧
      carriage + ending.width ≤ last := by
  obtain ⟨here, width⟩ := mem_lineEndingIndex_zero.mp member
  rw [start] at here width
  rw [cut_cons lower here, width]
  by_cases feed : text[carriage + 1]? = some '\n'
  · have inside : carriage + 1 < last := by
      rcases Nat.lt_or_ge (carriage + 1) last with inside | outside
      · exact inside
      · have same : last = carriage + 1 := by omega
        rw [same, pairEnd_succ.mpr ⟨here, feed⟩] at whole
        cases whole
    rw [if_pos feed, cut_cons inside feed, normalizeReloadFragment_pair]
    exact ⟨rfl, by omega⟩
  · rw [if_neg feed, normalizeReloadFragment_single]
    · exact ⟨rfl, by omega⟩
    · rcases Nat.lt_or_ge (carriage + 1) last with inside | outside
      · rwa [head?_cut inside]
      · have same : last = carriage + 1 := by omega
        rw [same, cut_self]
        intro impossible
        cases impossible

/-- An ending leaves one character, and the text after it is at no pair end. -/
theorem kept_ending (member : ending ∈ lineEndingIndex 0 text)
    (clean : pairEnd text ending.start = false) :
    kept text (ending.start + ending.width) = kept text ending.start + 1 ∧
      pairEnd text (ending.start + ending.width) = false := by
  obtain ⟨here, width⟩ := mem_lineEndingIndex_zero.mp member
  have first := kept_succ clean
  rw [width]
  by_cases feed : text[ending.start + 1]? = some '\n'
  · have second := kept_pair (pairEnd_succ.mpr ⟨here, feed⟩)
    have after : pairEnd text (ending.start + 1 + 1) = false := by
      apply pairEnd_of_plain
      rw [feed]
      decide
    rw [if_pos feed]
    exact ⟨second.trans first, after⟩
  · have after : pairEnd text (ending.start + 1) = false := by
      rw [← Bool.not_eq_true, pairEnd_succ]
      exact fun both => feed both.2
    rw [if_neg feed]
    exact ⟨first, after⟩

/-- The normal form of a cut between clean offsets has the length of the text it keeps. -/
theorem kept_cut (lower : first ≤ last) (inside : last ≤ text.length)
    (clean : pairEnd text first = false) (whole : pairEnd text last = false) :
    kept text first + (normalizeReloadFragment (cut text first last)).length =
      kept text last := by
  induction distance : last - first using Nat.strongRecOn generalizing first with
  | ind distance ih =>
      rcases Nat.eq_or_lt_of_le lower with rfl | before
      · rw [cut_self]
        rfl
      have here : text[first]? = some text[first] := List.getElem?_eq_getElem (by omega)
      by_cases carriage : text[first] = '\r'
      · rw [carriage] at here
        obtain ⟨ending, member, start⟩ : ∃ ending ∈ lineEndingIndex 0 text,
            ending.start = first :=
          ⟨⟨first, if text[first + 1]? = some '\n' then 2 else 1⟩,
            mem_lineEndingIndex_zero.mpr ⟨here, rfl⟩, rfl⟩
        obtain ⟨split, fits⟩ := normalizeReloadFragment_ending member start before whole
        subst start
        obtain ⟨one, after⟩ := kept_ending member clean
        have wide : 0 < ending.width := by
          rw [(mem_lineEndingIndex_zero.mp member).2]
          split_ifs <;> decide
        have later := ih (last - (ending.start + ending.width)) (by omega) fits after rfl
        rw [split, List.length_cons]
        omega
      · have plain : text[first]? ≠ some '\r' := by
          rw [here]
          exact fun same => carriage (Option.some.inj same)
        have step := kept_succ clean
        have later := ih (last - (first + 1)) (by omega) (show first + 1 ≤ last from before)
          (pairEnd_of_plain plain) rfl
        rw [cut_cons before here, normalizeReloadFragment_plain carriage, List.length_cons]
        omega

end OnecRuntime.Reload
