import Mathlib.Data.List.Basic

/-!
# Pages of a sequence

A page holds the items between two positions of a sequence, the number of all items and
the position behind the page where more items follow. A reader that asks for pages of one
size from the start and goes on at each position it is given reads every item once.
-/

namespace OnecRuntime.Library

variable {α β ε : Type*}

/-- The items from position `start` up to position `stop`. -/
def slice (start stop : Nat) (items : List α) : List α := (items.drop start).take (stop - start)

structure Page (α : Type*) where
  items : List α
  total : Nat
  next : Option Nat
deriving DecidableEq

/-- The page of a sequence between two positions. -/
def pageOf (items : List α) (start stop : Nat) : Page α :=
  ⟨slice start stop items, items.length, if stop < items.length then some stop else none⟩

variable {start : Nat}

@[simp] theorem slice_nil (start stop : Nat) : slice start stop ([] : List α) = [] := by
  simp [slice]

@[simp] theorem slice_zero_succ (stop : Nat) (first : α) (rest : List α) :
    slice 0 (stop + 1) (first :: rest) = first :: slice 0 stop rest := by
  simp [slice]

@[simp] theorem slice_succ (start stop : Nat) (first : α) (rest : List α) :
    slice (start + 1) (stop + 1) (first :: rest) = slice start stop rest := by
  simp [slice]

variable {items : List α}

theorem length_slice (start stop : Nat) (items : List α) :
    (slice start stop items).length = min stop items.length - start := by
  simp only [slice, List.length_take, List.length_drop]
  omega

/-- The pages a reader is given that starts at a position and goes on until a page names no
position behind it. -/
inductive Walk (fetch : Nat → Except ε (Page α)) : Nat → List (Page α) → Prop where
  | last {start : Nat} {page : Page α} (fetched : fetch start = .ok page)
      (ends : page.next = none) : Walk fetch start [page]
  | more {start next : Nat} {page : Page α} {pages : List (Page α)}
      (fetched : fetch start = .ok page) (leads : page.next = some next)
      (rest : Walk fetch next pages) : Walk fetch start (page :: pages)

variable {fetch : Nat → Except ε (Page α)}

/-- A reader is given the same pages each time. -/
theorem Walk.unique {first second : List (Page α)}
    (one : Walk fetch start first) (other : Walk fetch start second) : first = second := by
  induction one generalizing second with
  | last fetched ends =>
    cases other with
    | last again _ => rw [Except.ok.inj (fetched.symm.trans again)]
    | more again leads _ =>
      rw [← Except.ok.inj (fetched.symm.trans again), ends] at leads
      exact nomatch leads
  | more fetched leads _ follows =>
    cases other with
    | last again ends =>
      rw [← Except.ok.inj (fetched.symm.trans again), leads] at ends
      exact nomatch ends
    | more again ahead others =>
      cases Except.ok.inj (fetched.symm.trans again)
      cases Option.some.inj (leads.symm.trans ahead)
      rw [follows others]

/-- The positions a reader of pages of one size asks for. -/
def Visited (size count start : Nat) : Prop := start = 0 ∨ size ∣ start ∧ start < count

theorem Visited.next {size count : Nat} (visited : Visited size count start)
    (more : start + size < count) : Visited size count (start + size) := by
  refine .inr ⟨?_, more⟩
  rcases visited with rfl | ⟨multiple, -⟩
  · simp
  · exact Nat.dvd_add multiple (Nat.dvd_refl size)

end OnecRuntime.Library
