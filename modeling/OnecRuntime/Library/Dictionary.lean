import Mathlib.Algebra.Order.BigOperators.Group.List
import Mathlib.Algebra.Order.Ring.Nat
import Mathlib.Algebra.GroupWithZero.Nat
import Mathlib.Data.List.Nodup

/-!
# Insertion-ordered dictionaries

A dictionary is a list of entries with distinct keys: an assignment to a stored
key keeps its place and an assignment to a new key appends. Every operation is
described by the entries it leaves, and sums over the values follow a single
assignment by a conservation equation that needs no subtraction.
-/

namespace OnecRuntime.Library

structure Dictionary (κ ν : Type) where
  entries : List (κ × ν)
  distinct : (entries.map Prod.fst).Nodup
deriving Repr

namespace Dictionary

variable {κ ν : Type} [DecidableEq κ]

def empty : Dictionary κ ν := ⟨[], List.nodup_nil⟩

def keys (dictionary : Dictionary κ ν) : List κ := dictionary.entries.map Prod.fst

def get? (dictionary : Dictionary κ ν) (key : κ) : Option ν :=
  dictionary.entries.lookup key

def assign (key : κ) (value : ν) (entry : κ × ν) : κ × ν :=
  if entry.1 = key then (key, value) else entry

variable {key : κ} {entries : List (κ × ν)}

omit [DecidableEq κ] in
theorem eq_of_mem (distinct : (entries.map Prod.fst).Nodup)
    {first second : ν} (left : (key, first) ∈ entries)
    (right : (key, second) ∈ entries) : first = second := by
  have same := List.inj_on_of_nodup_map distinct left right rfl
  exact congrArg Prod.snd same

theorem assign_key (key : κ) (value : ν) (entry : κ × ν) :
    (assign key value entry).1 = entry.1 := by
  unfold assign
  split
  · next same => exact same.symm
  · rfl

theorem map_assign_keys (key : κ) (value : ν) (entries : List (κ × ν)) :
    (entries.map (assign key value)).map Prod.fst = entries.map Prod.fst := by
  rw [List.map_map]
  exact List.map_congr_left fun entry _ => assign_key key value entry

def set (dictionary : Dictionary κ ν) (key : κ) (value : ν) : Dictionary κ ν :=
  if stored : key ∈ dictionary.keys then
    ⟨dictionary.entries.map (assign key value), by
      rw [map_assign_keys]
      exact dictionary.distinct⟩
  else
    ⟨dictionary.entries ++ [(key, value)], by
      rw [List.map_append]
      exact List.Nodup.append dictionary.distinct (List.nodup_singleton key)
        (List.disjoint_singleton.2 stored)⟩

/-- The entries left after the given keys are deleted. -/
def eraseAll (dictionary : Dictionary κ ν) (removed : List κ) : Dictionary κ ν :=
  ⟨dictionary.entries.filter (fun entry => decide (entry.1 ∉ removed)),
    dictionary.distinct.sublist (List.filter_sublist.map Prod.fst)⟩

def erase (dictionary : Dictionary κ ν) (key : κ) : Dictionary κ ν :=
  dictionary.eraseAll [key]

/-- The dictionary that a list of items builds, later items overwriting earlier ones. -/
def ofItems (items : List (κ × ν)) : Dictionary κ ν :=
  items.foldl (fun built item => built.set item.1 item.2) empty

variable {dictionary : Dictionary κ ν} {value : ν}

theorem get?_eq_some :
    dictionary.get? key = some value ↔ (key, value) ∈ dictionary.entries := by
  obtain ⟨entries, distinct⟩ := dictionary
  unfold get?
  induction entries with
  | nil => simp
  | cons entry rest hypothesis =>
      obtain ⟨stored, held⟩ := entry
      have apart := List.nodup_cons.1 distinct
      by_cases same : key = stored
      · subst same
        have absent : (key, value) ∉ rest := fun member =>
          apart.1 (List.mem_map.2 ⟨(key, value), member, rfl⟩)
        simp [absent, eq_comm]
      · have other : (key == stored) = false := by simpa using same
        simp only [List.lookup_cons, other, List.mem_cons, Prod.mk.injEq, same, false_and,
          false_or]
        exact hypothesis apart.2

theorem get?_eq_none :
    dictionary.get? key = none ↔ key ∉ dictionary.keys := by
  constructor
  · intro missing member
    obtain ⟨⟨stored, value⟩, entry, rfl⟩ := List.mem_map.1 member
    rw [get?_eq_some.2 entry] at missing
    cases missing
  · intro absent
    cases found : dictionary.get? key with
    | none => rfl
    | some value =>
        exact absurd (List.mem_map.2 ⟨(key, value), get?_eq_some.1 found, rfl⟩) absent

theorem mem_keys :
    key ∈ dictionary.keys ↔ ∃ value, dictionary.get? key = some value := by
  rw [← not_iff_not, ← get?_eq_none, Option.eq_none_iff_forall_ne_some]
  push Not
  rfl

variable {first second : Dictionary κ ν}

theorem ext_get? (same : ∀ value, (key, value) ∈ first.entries ↔ (key, value) ∈ second.entries) :
    first.get? key = second.get? key :=
  Option.ext fun value => by
    rw [get?_eq_some, get?_eq_some]
    exact same value

variable {entry : κ × ν}

theorem mem_set :
    entry ∈ (dictionary.set key value).entries ↔
      entry = (key, value) ∨ entry.1 ≠ key ∧ entry ∈ dictionary.entries := by
  unfold set
  split
  · next stored =>
      obtain ⟨⟨_, held⟩, member, rfl⟩ := List.mem_map.1 stored
      constructor
      · intro image
        obtain ⟨before, was, rfl⟩ := List.mem_map.1 image
        unfold assign
        split
        · exact .inl rfl
        · next other => exact .inr ⟨other, was⟩
      · rintro (rfl | ⟨other, was⟩)
        · exact List.mem_map.2 ⟨_, member, if_pos rfl⟩
        · exact List.mem_map.2 ⟨_, was, if_neg other⟩
  · next stored =>
      have apart : entry ∈ dictionary.entries → entry.1 ≠ key := by
        rintro member rfl
        exact stored (List.mem_map.2 ⟨entry, member, rfl⟩)
      simp only [List.mem_append, List.mem_singleton]
      constructor
      · rintro (member | rfl)
        · exact .inr ⟨apart member, member⟩
        · exact .inl rfl
      · rintro (rfl | ⟨_, member⟩)
        · exact .inr rfl
        · exact .inl member

variable {other : κ}

@[simp] theorem get?_set_same (dictionary : Dictionary κ ν) (key : κ) (value : ν) :
    (dictionary.set key value).get? key = some value :=
  get?_eq_some.2 (mem_set.2 (.inl rfl))

theorem get?_set_other (dictionary : Dictionary κ ν) {key other : κ} (value : ν)
    (apart : other ≠ key) : (dictionary.set key value).get? other = dictionary.get? other := by
  apply ext_get?
  intro held
  rw [mem_set]
  constructor
  · rintro (same | ⟨_, member⟩)
    · exact absurd (congrArg Prod.fst same) apart
    · exact member
  · exact fun member => .inr ⟨apart, member⟩

variable {removed : List κ}

theorem mem_eraseAll :
    entry ∈ (dictionary.eraseAll removed).entries ↔
      entry.1 ∉ removed ∧ entry ∈ dictionary.entries := by
  simp [eraseAll, and_comm]

theorem get?_eraseAll_removed (dictionary : Dictionary κ ν)
    (member : key ∈ removed) : (dictionary.eraseAll removed).get? key = none := by
  cases found : (dictionary.eraseAll removed).get? key with
  | none => rfl
  | some value => exact absurd member (mem_eraseAll.1 (get?_eq_some.1 found)).1

theorem get?_eraseAll_kept (dictionary : Dictionary κ ν)
    (absent : key ∉ removed) : (dictionary.eraseAll removed).get? key = dictionary.get? key := by
  apply ext_get?
  intro value
  rw [mem_eraseAll]
  exact ⟨And.right, fun member => ⟨absent, member⟩⟩

/-- What an assignment leaves under a key. -/
theorem get?_set_eq_some {held : ν} :
    (dictionary.set key value).get? other = some held ↔
      other = key ∧ held = value ∨ other ≠ key ∧ dictionary.get? other = some held := by
  rw [get?_eq_some, get?_eq_some, mem_set, Prod.mk.injEq]

/-- What a deletion leaves under a key. -/
theorem get?_erase_eq_some {held : ν} :
    (dictionary.erase key).get? other = some held ↔
      other ≠ key ∧ dictionary.get? other = some held := by
  unfold erase
  rw [get?_eq_some, get?_eq_some, mem_eraseAll, List.mem_singleton]

theorem mem_keys_eraseAll :
    key ∈ (dictionary.eraseAll removed).keys ↔ key ∉ removed ∧ key ∈ dictionary.keys := by
  rw [mem_keys, mem_keys]
  by_cases member : key ∈ removed
  · simp [get?_eraseAll_removed dictionary member, member]
  · simp [get?_eraseAll_kept dictionary member, member]

theorem mem_keys_set :
    other ∈ (dictionary.set key value).keys ↔ other = key ∨ other ∈ dictionary.keys := by
  rw [mem_keys, mem_keys]
  by_cases same : other = key
  · subst same
    simp
  · rw [get?_set_other dictionary value same]
    simp [same]

theorem entries_set_absent (value : ν)
    (absent : key ∉ dictionary.keys) :
    (dictionary.set key value).entries = dictionary.entries ++ [(key, value)] := by
  unfold set
  rw [dif_neg absent]

variable {items : List (κ × ν)}

theorem foldl_set_entries (distinct : ((dictionary.entries ++ items).map Prod.fst).Nodup) :
    (items.foldl (fun built item => built.set item.1 item.2) dictionary).entries =
      dictionary.entries ++ items := by
  induction items generalizing dictionary with
  | nil => simp
  | cons item rest hypothesis =>
      have absent : item.1 ∉ dictionary.keys := by
        intro member
        rw [List.map_append] at distinct
        exact (List.nodup_append.1 distinct).2.2 item.1 member item.1 (by simp) rfl
      have appended : (dictionary.set item.1 item.2).entries = dictionary.entries ++ [item] :=
        entries_set_absent item.2 absent
      rw [List.foldl_cons, hypothesis (by rw [appended]; simpa using distinct), appended,
        List.append_assoc]
      rfl

theorem ofItems_entries (distinct : (items.map Prod.fst).Nodup) :
    (ofItems items).entries = items :=
  foldl_set_entries (by simpa [empty] using distinct)

/-- Rebuilding a dictionary from its items in another order keeps every lookup. -/
theorem get?_ofItems_of_perm (reordered : items.Perm dictionary.entries) (key : κ) :
    (ofItems items).get? key = dictionary.get? key := by
  have distinct : (items.map Prod.fst).Nodup :=
    (reordered.map Prod.fst).nodup_iff.2 dictionary.distinct
  apply ext_get?
  intro value
  rw [ofItems_entries distinct]
  exact reordered.mem_iff

/-! ## Keys in order -/

theorem lookup_of_absent (absent : key ∉ entries.map Prod.fst) : entries.lookup key = none := by
  rw [List.lookup_eq_none_iff]
  intro other member
  rw [bne_iff_ne]
  rintro rfl
  exact absent (List.mem_map.2 ⟨other, member, rfl⟩)

omit [DecidableEq κ] in
theorem eq_of_entries (same : first.entries = second.entries) :
    first = second := by
  cases first
  cases second
  cases same
  rfl

/-- A dictionary is its keys in order with what is stored under each. -/
theorem eq_of_keys_of_get? (keys : first.keys = second.keys)
    (same : ∀ key, first.get? key = second.get? key) : first = second := by
  have entries : ∀ dictionary : Dictionary κ ν, dictionary.entries =
      dictionary.keys.filterMap fun key => (dictionary.get? key).map fun value => (key, value) := by
    intro dictionary
    have found : ∀ entry ∈ dictionary.entries,
        (dictionary.get? entry.1).map (fun value => (entry.1, value)) = some entry := by
      intro entry member
      rw [get?_eq_some.2 member]
      rfl
    unfold Dictionary.keys
    rw [List.filterMap_map]
    conv_lhs => rw [← List.filterMap_some (l := dictionary.entries)]
    exact List.filterMap_congr fun entry member => (found entry member).symm
  have equal : first.entries = second.entries := by
    rw [entries first, entries second, keys]
    simp only [same]
  exact eq_of_entries equal

theorem keys_set_stored (value : ν)
    (stored : key ∈ dictionary.keys) : (dictionary.set key value).keys = dictionary.keys := by
  unfold set
  rw [dif_pos stored]
  exact map_assign_keys key value dictionary.entries

theorem keys_set_absent (value : ν)
    (absent : key ∉ dictionary.keys) :
    (dictionary.set key value).keys = dictionary.keys ++ [key] := by
  unfold keys
  rw [entries_set_absent value absent, List.map_append]
  rfl

theorem keys_eraseAll (dictionary : Dictionary κ ν) (removed : List κ) :
    (dictionary.eraseAll removed).keys =
      dictionary.keys.filter fun key => decide (key ∉ removed) := by
  unfold keys eraseAll
  rw [List.filter_map]
  rfl

/-- The entries that are kept, in their order. -/
def filterEntries (kept : κ → ν → Bool) (dictionary : Dictionary κ ν) : Dictionary κ ν :=
  ⟨dictionary.entries.filter fun entry => kept entry.1 entry.2,
    dictionary.distinct.sublist (List.filter_sublist.map Prod.fst)⟩

theorem get?_filterEntries_eq_some {kept : κ → ν → Bool} :
    (dictionary.filterEntries kept).get? key = some value ↔
      dictionary.get? key = some value ∧ kept key value = true := by
  rw [get?_eq_some, get?_eq_some]
  exact List.mem_filter

/-- Every stored value is replaced, with its key in place. -/
def mapEntries (replace : κ → ν → ν) (dictionary : Dictionary κ ν) : Dictionary κ ν :=
  ⟨dictionary.entries.map fun entry => (entry.1, replace entry.1 entry.2), by
    rw [List.map_map]
    exact dictionary.distinct⟩

omit [DecidableEq κ] in
@[simp] theorem keys_mapEntries (replace : κ → ν → ν) (dictionary : Dictionary κ ν) :
    (dictionary.mapEntries replace).keys = dictionary.keys := by
  unfold keys mapEntries
  rw [List.map_map]
  rfl

theorem lookup_map_snd (replace : κ → ν → ν) (entries : List (κ × ν)) (key : κ) :
    (entries.map fun entry => (entry.1, replace entry.1 entry.2)).lookup key =
      (entries.lookup key).map (replace key) := by
  induction entries with
  | nil => rfl
  | cons entry rest hypothesis =>
      obtain ⟨stored, value⟩ := entry
      by_cases same : key = stored
      · subst same
        rw [List.map_cons, List.lookup_cons_self, List.lookup_cons_self]
        rfl
      · have other : (key == stored) = false := beq_eq_false_iff_ne.2 same
        rw [List.map_cons, List.lookup_cons, List.lookup_cons, other]
        exact hypothesis

theorem get?_mapEntries (replace : κ → ν → ν) (dictionary : Dictionary κ ν) (key : κ) :
    (dictionary.mapEntries replace).get? key = (dictionary.get? key).map (replace key) :=
  lookup_map_snd replace dictionary.entries key

/-! ## Values of another type -/

section MapValues

variable {μ : Type}

/-- What a dictionary holds comes from the items it is built of. -/
theorem mem_of_mem_ofItems {items : List (κ × ν)} {entry : κ × ν}
    (held : entry ∈ (ofItems items).entries) : entry ∈ items := by
  have built : ∀ dictionary : Dictionary κ ν,
      entry ∈ (items.foldl (fun built item => built.set item.1 item.2) dictionary).entries →
        entry ∈ dictionary.entries ∨ entry ∈ items := by
    clear held
    induction items with
    | nil => exact fun _ => .inl
    | cons item rest hypothesis =>
        intro dictionary member
        rcases hypothesis _ member with earlier | later
        · rcases mem_set.1 earlier with rfl | ⟨-, before⟩
          · exact .inr List.mem_cons_self
          · exact .inl before
        · exact .inr (List.mem_cons_of_mem _ later)
  rcases built empty held with nothing | member
  · cases nothing
  · exact member

end MapValues

/-! ## Sums over the values -/

def total (weight : ν → Nat) (dictionary : Dictionary κ ν) : Nat :=
  (dictionary.entries.map (fun entry => weight entry.2)).sum

theorem exists_of_total_pos {weight : ν → Nat}
    (positive : 0 < dictionary.total weight) :
    ∃ key value, dictionary.get? key = some value ∧ 0 < weight value := by
  by_contra missing
  push Not at missing
  have zero : dictionary.total weight = 0 := by
    apply List.sum_eq_zero
    intro number member
    obtain ⟨⟨key, value⟩, inside, rfl⟩ := List.mem_map.1 member
    exact Nat.le_zero.1 (missing key value (get?_eq_some.2 inside))
  omega

omit [DecidableEq κ] in
theorem weight_le_total (weight : ν → Nat)
    (member : entry ∈ dictionary.entries) : weight entry.2 ≤ dictionary.total weight :=
  List.single_le_sum (fun _ _ => Nat.zero_le _) _
    (List.mem_map.2 ⟨entry, member, rfl⟩)

theorem assign_of_ne (value : ν) (apart : entry.1 ≠ key) :
    assign key value entry = entry :=
  if_neg apart

variable {old : ν}

theorem sum_map_assign (weight : ν → Nat)
    (distinct : (entries.map Prod.fst).Nodup) (value : ν)
    (member : (key, old) ∈ entries) :
    ((entries.map (assign key value)).map (fun entry => weight entry.2)).sum + weight old =
      (entries.map (fun entry => weight entry.2)).sum + weight value := by
  induction entries with
  | nil => cases member
  | cons entry rest hypothesis =>
      have apart := List.nodup_cons.1 distinct
      rcases List.mem_cons.1 member with rfl | later
      · have untouched : rest.map (assign key value) = rest := by
          conv_rhs => rw [← List.map_id rest]
          apply List.map_congr_left
          intro entry inside
          apply assign_of_ne
          rintro rfl
          exact apart.1 (List.mem_map.2 ⟨entry, inside, rfl⟩)
        have head : assign key value (key, old) = (key, value) := if_pos rfl
        simp only [List.map_cons, List.sum_cons, untouched, head]
        omega
      · have other : entry.1 ≠ key := by
          rintro rfl
          exact apart.1 (List.mem_map.2 ⟨_, later, rfl⟩)
        have rest_sum := hypothesis apart.2 later
        simp only [List.map_cons, List.sum_cons, assign_of_ne value other]
        omega

/-- Overwriting one value moves the sum by the difference of the two weights. -/
theorem total_set_stored (weight : ν → Nat)
    (value : ν) (stored : dictionary.get? key = some old) :
    (dictionary.set key value).total weight + weight old =
      dictionary.total weight + weight value := by
  have member : key ∈ dictionary.keys := mem_keys.2 ⟨old, stored⟩
  unfold total set
  rw [dif_pos member]
  exact sum_map_assign weight dictionary.distinct value (get?_eq_some.1 stored)

theorem total_set_absent (weight : ν → Nat) (value : ν)
    (absent : dictionary.get? key = none) :
    (dictionary.set key value).total weight = dictionary.total weight + weight value := by
  unfold total set
  rw [dif_neg (get?_eq_none.1 absent)]
  simp

omit [DecidableEq κ] in
theorem sum_filter_of_zero (weight : ν → Nat) {kept : κ × ν → Bool}
    (zero : ∀ entry ∈ entries, kept entry = false → weight entry.2 = 0) :
    ((entries.filter kept).map (fun entry => weight entry.2)).sum =
      (entries.map (fun entry => weight entry.2)).sum := by
  induction entries with
  | nil => rfl
  | cons entry rest hypothesis =>
      have tail := hypothesis fun later member => zero later (List.mem_cons_of_mem _ member)
      cases held : kept entry with
      | true => simp [held, tail]
      | false => simp [held, tail, zero entry List.mem_cons_self held]

/-- Deleting entries of weight zero keeps the sum. -/
theorem total_eraseAll_of_zero (weight : ν → Nat)
    (zero : ∀ entry ∈ dictionary.entries, entry.1 ∈ removed → weight entry.2 = 0) :
    (dictionary.eraseAll removed).total weight = dictionary.total weight := by
  apply sum_filter_of_zero
  intro entry member dropped
  exact zero entry member (by simpa using dropped)

theorem sum_filter_erase (weight : ν → Nat)
    (distinct : (entries.map Prod.fst).Nodup) (member : (key, old) ∈ entries) :
    ((entries.filter (fun entry => decide (entry.1 ∉ [key]))).map
        (fun entry => weight entry.2)).sum + weight old =
      (entries.map (fun entry => weight entry.2)).sum := by
  induction entries with
  | nil => cases member
  | cons entry rest hypothesis =>
      have apart := List.nodup_cons.1 distinct
      rcases List.mem_cons.1 member with rfl | later
      · have untouched : rest.filter (fun entry => decide (entry.1 ∉ [key])) = rest := by
          apply List.filter_eq_self.2
          intro entry inside
          have other : entry.1 ≠ key := fun same =>
            apart.1 (List.mem_map.2 ⟨entry, inside, same⟩)
          simpa using other
        have dropped : decide ((key, old).1 ∉ [key]) = false := by simp
        simp only [List.filter_cons, dropped, untouched, List.map_cons, List.sum_cons]
        exact Nat.add_comm _ _
      · have other : entry.1 ≠ key := by
          rintro rfl
          exact apart.1 (List.mem_map.2 ⟨_, later, rfl⟩)
        have rest_sum := hypothesis apart.2 later
        have kept : decide (entry.1 ∉ [key]) = true := by simpa using other
        simp only [List.filter_cons, kept, if_true, List.map_cons, List.sum_cons]
        omega

/-- Deleting one entry takes its weight off the sum. -/
theorem total_erase_stored (weight : ν → Nat)
    (stored : dictionary.get? key = some old) :
    (dictionary.erase key).total weight + weight old = dictionary.total weight :=
  sum_filter_erase weight dictionary.distinct (get?_eq_some.1 stored)

end Dictionary

end OnecRuntime.Library
