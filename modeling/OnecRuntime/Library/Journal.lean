import OnecRuntime.Library.Dictionary

/-!
# Undo journals

A journal of a dictionary remembers, for each key that was touched, what the dictionary
held before the first touch, a missing key among it. Undoing puts every touched key
back: what was assigned under touched keys is gone, and an assignment under another key
commutes with undoing.
-/

namespace OnecRuntime.Library

namespace Dictionary

variable {κ ν : Type} [DecidableEq κ]

/-! ## Putting back -/

/-- What a key held before is put back, or the key is removed. -/
def putBack (dictionary : Dictionary κ ν) (key : κ) : Option ν → Dictionary κ ν
  | none => dictionary.erase key
  | some value => dictionary.set key value

theorem get?_putBack_same (dictionary : Dictionary κ ν) (key : κ) (before : Option ν) :
    (dictionary.putBack key before).get? key = before := by
  cases before with
  | none => exact get?_eraseAll_removed dictionary List.mem_cons_self
  | some value => exact get?_set_same dictionary key value

variable {key other : κ}

theorem get?_putBack_other (dictionary : Dictionary κ ν) (before : Option ν)
    (apart : other ≠ key) : (dictionary.putBack key before).get? other = dictionary.get? other := by
  cases before with
  | none =>
      exact get?_eraseAll_kept dictionary fun member => apart (List.mem_singleton.1 member)
  | some value => exact get?_set_other dictionary value apart

/-- A value is put back where a key is stored. -/
theorem keys_putBack {dictionary : Dictionary κ ν} {before : Option ν}
    (stored : before ≠ none → key ∈ dictionary.keys) :
    (dictionary.putBack key before).keys =
      dictionary.keys.filter fun other => !(decide (other = key) && before.isNone) := by
  cases before with
  | none =>
      refine (keys_eraseAll dictionary [key]).trans (List.filter_congr fun other _ => ?_)
      simp
  | some value =>
      refine (keys_set_stored value (stored nofun)).trans ?_
      symm
      rw [List.filter_eq_self]
      intro other _
      simp

/-! ## Journals -/

/-- The first touch of a key remembers what the dictionary holds. -/
def touched (journal : Dictionary κ (Option ν)) (dictionary : Dictionary κ ν) (key : κ) :
    Dictionary κ (Option ν) :=
  if key ∈ journal.keys then journal else journal.set key (dictionary.get? key)

/-- Every touched key is put back, in the order of the first touches. -/
def undo (journal : Dictionary κ (Option ν)) (dictionary : Dictionary κ ν) : Dictionary κ ν :=
  journal.entries.foldl (fun left entry => left.putBack entry.1 entry.2) dictionary

/-- Keys that were stored at their first touch are stored still. -/
def Holds (journal : Dictionary κ (Option ν)) (dictionary : Dictionary κ ν) : Prop :=
  ∀ {key value}, journal.get? key = some (some value) → key ∈ dictionary.keys

variable {journal : Dictionary κ (Option ν)} {dictionary : Dictionary κ ν}

theorem get?_foldl_putBack {entries : List (κ × Option ν)}
    (distinct : (entries.map Prod.fst).Nodup) (dictionary : Dictionary κ ν) (key : κ) :
    (entries.foldl (fun left entry => left.putBack entry.1 entry.2) dictionary).get? key =
      (entries.lookup key).getD (dictionary.get? key) := by
  induction entries generalizing dictionary with
  | nil => rfl
  | cons entry rest hypothesis =>
      obtain ⟨touched, before⟩ := entry
      obtain ⟨absent, apart⟩ := List.nodup_cons.1 distinct
      rw [List.foldl_cons, hypothesis apart]
      by_cases same : key = touched
      · subst same
        rw [lookup_of_absent absent, List.lookup_cons_self]
        exact get?_putBack_same dictionary key before
      · have other : (key == touched) = false := beq_eq_false_iff_ne.2 same
        rw [List.lookup_cons, other, get?_putBack_other dictionary before same]

/-- A touched key is as it was before its first touch, and every other key is as it is. -/
theorem get?_undo (journal : Dictionary κ (Option ν)) (dictionary : Dictionary κ ν) (key : κ) :
    (journal.undo dictionary).get? key = (journal.get? key).getD (dictionary.get? key) :=
  get?_foldl_putBack journal.distinct dictionary key

theorem keys_foldl_putBack {entries : List (κ × Option ν)}
    (distinct : (entries.map Prod.fst).Nodup) {dictionary : Dictionary κ ν}
    (stored : ∀ entry ∈ entries, entry.2 ≠ none → entry.1 ∈ dictionary.keys) :
    (entries.foldl (fun left entry => left.putBack entry.1 entry.2) dictionary).keys =
      dictionary.keys.filter fun key => !(entries.lookup key).any Option.isNone := by
  induction entries generalizing dictionary with
  | nil =>
      symm
      rw [List.foldl_nil, List.filter_eq_self]
      intro key _
      rfl
  | cons entry rest hypothesis =>
      obtain ⟨touched, before⟩ := entry
      obtain ⟨absent, apart⟩ := List.nodup_cons.1 distinct
      have first := keys_putBack (stored (touched, before) List.mem_cons_self)
      have later : ∀ other ∈ rest, other.2 ≠ none →
          other.1 ∈ (dictionary.putBack touched before).keys := by
        intro other member held
        rw [first, List.mem_filter]
        refine ⟨stored other (List.mem_cons_of_mem _ member) held, ?_⟩
        have differs : other.1 ≠ touched := by
          rintro same
          exact absent (List.mem_map.2 ⟨other, member, same⟩)
        simp [differs]
      rw [List.foldl_cons, hypothesis apart later, first, List.filter_filter]
      refine List.filter_congr fun key _ => ?_
      by_cases same : key = touched
      · subst same
        rw [lookup_of_absent absent, List.lookup_cons_self]
        simp
      · have other : (key == touched) = false := beq_eq_false_iff_ne.2 same
        rw [List.lookup_cons, other]
        simp [same]

/-- The keys that were missing at their first touch are removed. -/
theorem keys_undo (holds : journal.Holds dictionary) :
    (journal.undo dictionary).keys =
      dictionary.keys.filter fun key => !(journal.get? key).any Option.isNone := by
  refine keys_foldl_putBack journal.distinct ?_
  intro entry member present
  obtain ⟨key, before⟩ := entry
  cases before with
  | none => exact absurd rfl present
  | some value => exact holds (get?_eq_some.2 member)

/-- What is assigned under a touched key is undone. -/
theorem undo_set_touched (holds : journal.Holds dictionary) (value : ν)
    (touched : key ∈ journal.keys) :
    journal.undo (dictionary.set key value) = journal.undo dictionary := by
  have kept : journal.Holds (dictionary.set key value) :=
    fun before => mem_keys_set.2 (.inr (holds before))
  obtain ⟨before, was⟩ := mem_keys.1 touched
  refine eq_of_keys_of_get? ?_ fun other => ?_
  · rw [keys_undo holds, keys_undo kept]
    by_cases stored : key ∈ dictionary.keys
    · rw [keys_set_stored value stored]
    · have missing : before = none := by
        cases before with
        | none => rfl
        | some held => exact absurd (holds was) stored
      subst missing
      rw [keys_set_absent value stored, List.filter_append, List.filter_cons_of_neg, List.filter_nil,
        List.append_nil]
      simp [was]
  · rw [get?_undo, get?_undo]
    by_cases same : other = key
    · subst same
      rw [was]
      rfl
    · rw [get?_set_other dictionary value same]

/-- An assignment under another key commutes with undoing. -/
theorem undo_set_untouched (holds : journal.Holds dictionary) (value : ν)
    (untouched : key ∉ journal.keys) :
    journal.undo (dictionary.set key value) = (journal.undo dictionary).set key value := by
  have kept : journal.Holds (dictionary.set key value) :=
    fun before => mem_keys_set.2 (.inr (holds before))
  have free := get?_eq_none.2 untouched
  have passes : [key].filter (fun other => !(journal.get? other).any Option.isNone) = [key] := by
    simp [free]
  refine eq_of_keys_of_get? ?_ fun other => ?_
  · rw [keys_undo kept]
    by_cases stored : key ∈ dictionary.keys
    · have left : key ∈ (journal.undo dictionary).keys := by
        rw [keys_undo holds]
        exact List.mem_filter.2 ⟨stored, by simp [free]⟩
      rw [keys_set_stored value stored, keys_set_stored value left, keys_undo holds]
    · have left : key ∉ (journal.undo dictionary).keys := by
        rw [keys_undo holds]
        exact fun member => stored (List.mem_filter.1 member).1
      rw [keys_set_absent value stored, keys_set_absent value left, keys_undo holds,
        List.filter_append, passes]
  · rw [get?_undo]
    by_cases same : other = key
    · subst same
      rw [free, get?_set_same, get?_set_same]
      rfl
    · rw [get?_set_other dictionary value same, get?_set_other _ value same, get?_undo]

theorem mem_keys_touched :
    other ∈ (journal.touched dictionary key).keys ↔ other = key ∨ other ∈ journal.keys := by
  unfold touched
  split
  · next stored =>
      constructor
      · exact .inr
      · rintro (rfl | member)
        · exact stored
        · exact member
  · exact mem_keys_set

theorem get?_touched_other (apart : other ≠ key) :
    (journal.touched dictionary key).get? other = journal.get? other := by
  unfold touched
  split
  · rfl
  · exact get?_set_other journal _ apart

theorem get?_touched_same (first : key ∉ journal.keys) :
    (journal.touched dictionary key).get? key = some (dictionary.get? key) := by
  unfold touched
  rw [if_neg first]
  exact get?_set_same journal key _

theorem Holds.touch (holds : journal.Holds dictionary) (key : κ) :
    (journal.touched dictionary key).Holds dictionary := by
  intro other value before
  by_cases same : other = key
  · subst same
    by_cases earlier : other ∈ journal.keys
    · unfold touched at before
      rw [if_pos earlier] at before
      exact holds before
    · rw [get?_touched_same earlier] at before
      exact mem_keys.2 ⟨value, Option.some.inj before⟩
  · rw [get?_touched_other same] at before
    exact holds before

theorem Holds.set (holds : journal.Holds dictionary) (key : κ) (value : ν) :
    journal.Holds (dictionary.set key value) :=
  fun before => mem_keys_set.2 (.inr (holds before))

/-- A touch alone changes nothing that undoing leaves. -/
theorem undo_touched (holds : journal.Holds dictionary) (key : κ) :
    (journal.touched dictionary key).undo dictionary = journal.undo dictionary := by
  by_cases earlier : key ∈ journal.keys
  · unfold touched
    rw [if_pos earlier]
  · refine eq_of_keys_of_get? ?_ fun other => ?_
    · rw [keys_undo holds, keys_undo (holds.touch key)]
      refine List.filter_congr fun other stored => ?_
      by_cases same : other = key
      · subst same
        obtain ⟨value, held⟩ := mem_keys.1 stored
        rw [get?_touched_same earlier, get?_eq_none.2 earlier, held]
        simp
      · rw [get?_touched_other same]
    · rw [get?_undo, get?_undo]
      by_cases same : other = key
      · subst same
        rw [get?_touched_same earlier, get?_eq_none.2 earlier]
        rfl
      · rw [get?_touched_other same]

end Dictionary

end OnecRuntime.Library
