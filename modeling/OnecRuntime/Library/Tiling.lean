import OnecRuntime.Library.Bisect

/-!
# Tilings of an interval by consecutive pieces

A list of pieces tiles a half-open interval when every piece starts where its
predecessor stopped.  Pieces may be empty.  The bounds of a piece are read by
two functions, so one development serves segments, fragments, and plain spans.
-/

namespace OnecRuntime.Library

section Tiles

variable {α β : Type} (lo hi : α → Nat)

/-- The pieces cover the interval from the first bound to the second, in order. -/
def Tiles : Nat → Nat → List α → Prop
  | first, last, [] => first = last
  | first, last, piece :: rest =>
      lo piece = first ∧ first ≤ hi piece ∧ Tiles (hi piece) last rest

/-- The half-open membership test of one piece. -/
def Covers (offset : Nat) (piece : α) : Bool :=
  decide (lo piece ≤ offset) && decide (offset < hi piece)

/-- The first piece that holds an offset. -/
def pieceAt (pieces : List α) (offset : Nat) : Option α :=
  pieces.find? (Covers lo hi offset)

variable {lo hi}

variable {piece : α} {offset : Nat}

theorem covers_iff :
    Covers lo hi offset piece = true ↔ lo piece ≤ offset ∧ offset < hi piece := by
  simp [Covers]

variable {first last : Nat}

@[simp] theorem tiles_nil :
    Tiles lo hi first last ([] : List α) ↔ first = last := Iff.rfl

@[simp] theorem tiles_cons {rest : List α} :
    Tiles lo hi first last (piece :: rest) ↔
      lo piece = first ∧ first ≤ hi piece ∧ Tiles lo hi (hi piece) last rest := Iff.rfl

namespace Tiles

variable {first last : Nat} {pieces : List α}

theorem le (tiles : Tiles lo hi first last pieces) : first ≤ last := by
  induction pieces generalizing first with
  | nil => exact Nat.le_of_eq tiles
  | cons piece rest ih => exact Nat.le_trans tiles.2.1 (ih tiles.2.2)

/-- Tilings of adjacent intervals join, and every split of the list is one. -/
theorem append_iff {left right : List α} :
    Tiles lo hi first last (left ++ right) ↔
      ∃ middle, Tiles lo hi first middle left ∧ Tiles lo hi middle last right := by
  induction left generalizing first with
  | nil => simp
  | cons piece rest ih =>
      simp only [List.cons_append, tiles_cons, ih]
      constructor
      · rintro ⟨start, ordered, middle, inner, outer⟩
        exact ⟨middle, ⟨start, ordered, inner⟩, outer⟩
      · rintro ⟨middle, ⟨start, ordered, inner⟩, outer⟩
        exact ⟨start, ordered, middle, inner, outer⟩

theorem append {left right : List α} {middle : Nat}
    (before : Tiles lo hi first middle left) (after : Tiles lo hi middle last right) :
    Tiles lo hi first last (left ++ right) :=
  append_iff.mpr ⟨middle, before, after⟩

variable {piece : α}

/-- No piece leaves the tiled interval. -/
theorem bounds (tiles : Tiles lo hi first last pieces) (member : piece ∈ pieces) :
    first ≤ lo piece ∧ lo piece ≤ hi piece ∧ hi piece ≤ last := by
  induction pieces generalizing first with
  | nil => cases member
  | cons head rest ih =>
      obtain ⟨start, ordered, inner⟩ := tiles
      rcases List.mem_cons.mp member with rfl | inside
      · have upper := inner.le
        omega
      · have bound := ih inner inside
        omega

variable {offset : Nat}

/-- The head of a tiling is the only piece that can hold an offset before its end. -/
theorem not_covers_of_lt (tiles : Tiles lo hi first last pieces) (before : offset < first)
    (member : piece ∈ pieces) : Covers lo hi offset piece = false := by
  have bound := tiles.bounds member
  rw [← Bool.not_eq_true, covers_iff]
  omega

/-- An offset inside the interval lies in exactly one piece, an offset outside in none. -/
theorem countP_covers (tiles : Tiles lo hi first last pieces) (offset : Nat) :
    pieces.countP (Covers lo hi offset) =
      if first ≤ offset ∧ offset < last then 1 else 0 := by
  induction pieces generalizing first with
  | nil =>
      simp only [tiles_nil] at tiles
      rw [if_neg (by omega)]
      rfl
  | cons piece rest ih =>
      obtain ⟨start, ordered, inner⟩ := tiles
      have upper := inner.le
      rw [List.countP_cons, ih inner]
      by_cases here : Covers lo hi offset piece = true
      · have bounds := covers_iff.mp here
        rw [if_pos here, if_neg (by omega), if_pos (by omega)]
      · have outside : ¬(lo piece ≤ offset ∧ offset < hi piece) :=
          fun bound => here (covers_iff.mpr bound)
        rw [if_neg here]
        by_cases later : hi piece ≤ offset ∧ offset < last
        · rw [if_pos later, if_pos (by omega)]
        · rw [if_neg later, if_neg (by omega)]

theorem pieceAt_isSome
    (tiles : Tiles lo hi first last pieces) (lower : first ≤ offset) (upper : offset < last) :
    ∃ piece, pieceAt lo hi pieces offset = some piece := by
  have counted := tiles.countP_covers offset
  rw [if_pos ⟨lower, upper⟩] at counted
  have positive : 0 < pieces.countP (Covers lo hi offset) := by omega
  obtain ⟨piece, member, covers⟩ := List.countP_pos_iff.mp positive
  exact Option.isSome_iff_exists.mp (List.find?_isSome.mpr ⟨piece, member, covers⟩)

/-- In a tiling the piece that holds an offset is the one the lookup returns. -/
theorem pieceAt_eq (tiles : Tiles lo hi first last pieces) (member : piece ∈ pieces)
    (covers : Covers lo hi offset piece = true) :
    pieceAt lo hi pieces offset = some piece := by
  induction pieces generalizing first with
  | nil => cases member
  | cons head rest ih =>
      obtain ⟨start, ordered, inner⟩ := tiles
      unfold pieceAt
      rw [List.find?_cons]
      cases here : Covers lo hi offset head with
      | true =>
          rcases List.mem_cons.mp member with rfl | inside
          · rfl
          · have below := inner.not_covers_of_lt (covers_iff.mp here).2 inside
            rw [below] at covers
            cases covers
      | false =>
          rcases List.mem_cons.mp member with rfl | inside
          · rw [here] at covers
            cases covers
          · exact ih inner inside

end Tiles

variable {pieces : List α}

/-- Dropping empty pieces leaves the interval tiled. -/
theorem Tiles.filter_positive (tiles : Tiles lo hi first last pieces) :
    Tiles lo hi first last (pieces.filter fun piece => decide (lo piece < hi piece)) := by
  induction pieces generalizing first with
  | nil => exact tiles
  | cons piece rest ih =>
      obtain ⟨start, ordered, inner⟩ := tiles
      rw [List.filter_cons]
      by_cases positive : lo piece < hi piece
      · rw [if_pos (by simpa using positive)]
        exact ⟨start, ordered, ih inner⟩
      · rw [if_neg (by simpa using positive)]
        have same : hi piece = first := by omega
        exact same ▸ ih inner

/-- A monotone move of the bounds keeps a tiling, also when the pieces it empties are left out. -/
theorem Tiles.image {lo' hi' : β → Nat} {move : Nat → Nat} (monotone : Monotone move)
    (keep : α → Bool) (build : α → β)
    (tiles : Tiles lo hi first last pieces)
    (kept : ∀ piece ∈ pieces, keep piece = true →
      lo' (build piece) = move (lo piece) ∧ hi' (build piece) = move (hi piece))
    (dropped : ∀ piece ∈ pieces, keep piece = false → move (lo piece) = move (hi piece)) :
    Tiles lo' hi' (move first) (move last) ((pieces.filter keep).map build) := by
  induction pieces generalizing first with
  | nil => exact congrArg move tiles
  | cons piece rest ih =>
      obtain ⟨start, ordered, inner⟩ := tiles
      have later := ih inner (fun other member => kept other (List.mem_cons_of_mem _ member))
        (fun other member => dropped other (List.mem_cons_of_mem _ member))
      rw [List.filter_cons]
      cases choice : keep piece with
      | true =>
          obtain ⟨lower, upper⟩ := kept piece (List.mem_cons_self ..) choice
          rw [if_pos rfl, List.map_cons]
          refine ⟨by rw [lower, start], ?_, by rw [upper]; exact later⟩
          rw [upper]
          exact monotone ordered
      | false =>
          have same := dropped piece (List.mem_cons_self ..) choice
          rw [if_neg Bool.false_ne_true, ← start, same]
          exact later

theorem pieceAt_filter_positive (pieces : List α) (offset : Nat) :
    pieceAt lo hi (pieces.filter fun piece => decide (lo piece < hi piece)) offset =
      pieceAt lo hi pieces offset := by
  unfold pieceAt
  rw [List.find?_filter]
  congr 1
  funext piece
  rw [Bool.eq_iff_iff, decide_eq_true_iff, covers_iff, decide_eq_true_iff]
  omega

theorem pieceAt_mem (found : pieceAt lo hi pieces offset = some piece) : piece ∈ pieces :=
  List.mem_of_find?_eq_some found

theorem pieceAt_bounds (found : pieceAt lo hi pieces offset = some piece) :
    lo piece ≤ offset ∧ offset < hi piece :=
  covers_iff.mp (List.find?_some found)

end Tiles

/-- Bisecting the starts of a tiling finds the piece that holds the offset, also
when empty pieces share its start. -/
theorem Tiles.bisectRight_starts {α : Type} {lo hi : α → Nat} {pieces : List α}
    {first last offset : Nat} (tiles : Tiles lo hi first last pieces)
    {piece : α} (found : pieceAt lo hi pieces offset = some piece) :
    ∃ index, bisectRight (pieces.map lo) offset = index + 1 ∧ pieces[index]? = some piece := by
  induction pieces generalizing first with
  | nil => cases found
  | cons head rest ih =>
      have bounds := pieceAt_bounds found
      have lower := (tiles.bounds (pieceAt_mem found)).1
      obtain ⟨start, ordered, inner⟩ := tiles
      rw [List.map_cons, bisectRight_cons, if_pos (by omega)]
      unfold pieceAt at found
      rw [List.find?_cons] at found
      cases here : Covers lo hi offset head with
      | true =>
          rw [here] at found
          obtain rfl := Option.some.inj found
          refine ⟨0, ?_, rfl⟩
          cases rest with
          | nil => rfl
          | cons next tail =>
              rw [List.map_cons, bisectRight_cons, if_neg (by have := inner.1; omega)]
      | false =>
          rw [here] at found
          obtain ⟨index, counted, selected⟩ := ih inner found
          exact ⟨index + 1, by rw [counted], selected⟩

end OnecRuntime.Library
