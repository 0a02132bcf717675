import OnecRuntime.Dependencies.Resolver

/-!
# What the resolution of one scope reports

Which names of a scope are implicit, forbidden or dependencies, for any catalog
and any names that were frozen before.
-/

namespace OnecRuntime.Dependencies

open OnecRuntime.Library
open OnecRuntime.Bsl (workerPlatformGlobals)
open OnecRuntime.SourceMaps (Text SourceSpan)

variable {casefold : Text → Text}

/-! ## The loop over the names -/

/-- What a loop collects, where each item adds at most its own name. -/
theorem mem_foldl_adds {σ ι α : Type} {step : σ → ι → σ} {out : σ → List α} {name : ι → α}
    {adds : ι → Prop} [DecidablePred adds]
    (turn : ∀ state item, out (step state item) =
      if adds item then name item :: out state else out state)
    {items : List ι} {state : σ} {found : α} :
    found ∈ out (items.foldl step state) ↔
      found ∈ out state ∨ ∃ item ∈ items, adds item ∧ name item = found := by
  induction items generalizing state with
  | nil => simp
  | cons item rest ih =>
      rw [List.foldl_cons, ih, turn]
      by_cases added : adds item
      · simp only [added, if_true, List.mem_cons, exists_eq_or_imp, true_and]
        tauto
      · simp only [added, if_false, List.mem_cons, exists_eq_or_imp, false_and, false_or]

section Fates

variable (casefold) (shadowed : List Text)
  (catalogNames : Dictionary Text CommonModuleDescriptor)

def BecomesImplicit (item : BareName) : Prop :=
  item.normalizedName casefold ∉ shadowed ∧ item.kinds.writes = true ∧
    catalogNames.get? (item.normalizedName casefold) = none

def IsForbidden (item : BareName) : Prop :=
  item.normalizedName casefold ∉ shadowed ∧ item.kinds.writes = true ∧
    (catalogNames.get? (item.normalizedName casefold)).isSome = true

def IsDependency (item : BareName) : Prop :=
  item.normalizedName casefold ∉ shadowed ∧ item.kinds = .read ∧
    (catalogNames.get? (item.normalizedName casefold)).isSome = true

instance : DecidablePred (BecomesImplicit casefold shadowed catalogNames) := fun _ =>
  inferInstanceAs (Decidable (_ ∧ _ ∧ _))

instance : DecidablePred (IsForbidden casefold shadowed catalogNames) := fun _ =>
  inferInstanceAs (Decidable (_ ∧ _ ∧ _))

instance : DecidablePred (IsDependency casefold shadowed catalogNames) := fun _ =>
  inferInstanceAs (Decidable (_ ∧ _ ∧ _))

variable {casefold} {shadowed} {catalogNames}

/-- One turn adds the name to the set that its fate says. -/
theorem add_spec (sets : NameSets) (item : BareName) :
    (sets.add casefold shadowed catalogNames item).implicit =
        (if BecomesImplicit casefold shadowed catalogNames item
          then item.normalizedName casefold :: sets.implicit else sets.implicit) ∧
      (sets.add casefold shadowed catalogNames item).forbidden =
        (if IsForbidden casefold shadowed catalogNames item
          then item.normalizedName casefold :: sets.forbidden else sets.forbidden) ∧
      (sets.add casefold shadowed catalogNames item).dependencies =
        (if IsDependency casefold shadowed catalogNames item
          then item.normalizedName casefold :: sets.dependencies else sets.dependencies) := by
  obtain ⟨name, kinds⟩ := item
  unfold BecomesImplicit IsForbidden IsDependency NameSets.add
  by_cases hidden : BareName.normalizedName casefold ⟨name, kinds⟩ ∈ shadowed
  · simp [hidden]
  · obtain found | ⟨descriptor, found⟩ := Option.eq_none_or_eq_some
      (catalogNames.get? (BareName.normalizedName casefold ⟨name, kinds⟩))
    · cases kinds <;> simp [hidden, found, BareNameKind.writes, BareNameKind.reads]
    · cases kinds <;> simp [hidden, found, BareNameKind.writes, BareNameKind.reads]

end Fates

/-! ## Canonical names in catalog order -/

theorem mem_entries_foldl_set {κ ν : Type} [DecidableEq κ] {items : List (κ × ν)}
    {dictionary : Dictionary κ ν} {entry : κ × ν}
    (member : entry ∈ (items.foldl (fun built item => built.set item.1 item.2) dictionary).entries) :
    entry ∈ dictionary.entries ∨ entry ∈ items := by
  induction items generalizing dictionary with
  | nil => exact .inl member
  | cons item rest ih =>
      rcases ih member with before | later
      · rcases Dictionary.mem_set.mp before with same | ⟨_, kept⟩
        · exact .inr (same ▸ List.mem_cons_self)
        · exact .inl kept
      · exact .inr (List.mem_cons_of_mem _ later)

variable {catalog : CommonModuleCatalogSnapshot}

/-- A module stands in the catalog under its own casefolded name. -/
theorem catalogByName_key {entry : Text × CommonModuleDescriptor}
    (member : entry ∈ (catalogByName casefold catalog).entries) :
    casefold entry.2.canonicalName = entry.1 := by
  rcases mem_entries_foldl_set member with impossible | inItems
  · cases impossible
  · obtain ⟨descriptor, _, rfl⟩ := List.mem_map.mp inItems
    rfl

/-- The part of some reported names that a predicate on casefolded names selects. -/
theorem filter_inCatalogOrder (selected : Text → Bool)
    (names : List Text) :
    (inCatalogOrder (catalogByName casefold catalog) names).filter
        (fun name => selected (casefold name)) =
      inCatalogOrder (catalogByName casefold catalog) (names.filter selected) := by
  unfold inCatalogOrder
  rw [List.filter_map, List.filter_filter]
  congr 1
  apply List.filter_congr
  intro entry member
  have key := catalogByName_key member
  simp [key, Bool.and_comm]

theorem inCatalogOrder_congr {catalogNames : Dictionary Text CommonModuleDescriptor}
    {first second : List Text} (same : ∀ name, name ∈ first ↔ name ∈ second) :
    inCatalogOrder catalogNames first = inCatalogOrder catalogNames second := by
  unfold inCatalogOrder
  congr 1
  exact List.filter_congr fun entry _ => by simp [same]

theorem mem_map_inCatalogOrder {names : List Text}
    {name : Text} :
    name ∈ (inCatalogOrder (catalogByName casefold catalog) names).map casefold ↔
      name ∈ names ∧ ((catalogByName casefold catalog).get? name).isSome = true := by
  unfold inCatalogOrder
  rw [List.map_map]
  constructor
  · intro member
    obtain ⟨entry, kept, rfl⟩ := List.mem_map.mp member
    obtain ⟨inEntries, inNames⟩ := List.mem_filter.mp kept
    have key : (casefold ∘ fun entry : Text × CommonModuleDescriptor => entry.2.canonicalName)
        entry = entry.1 := catalogByName_key inEntries
    rw [key]
    refine ⟨of_decide_eq_true inNames, ?_⟩
    rw [Dictionary.get?_eq_some.mpr inEntries]
    rfl
  · rintro ⟨inNames, stored⟩
    obtain ⟨descriptor, found⟩ := Option.isSome_iff_exists.mp stored
    have inEntries := Dictionary.get?_eq_some.mp found
    exact List.mem_map.mpr ⟨(name, descriptor),
      List.mem_filter.mpr ⟨inEntries, decide_eq_true inNames⟩, catalogByName_key inEntries⟩

/-! ## One scope -/

section Scope

variable {bareNames : List BareName} {hardLocals frozen internalMethods : List Text}
  {catalog : CommonModuleCatalogSnapshot}

/-- What hides a name from the catalog. -/
def shadows (hardLocals frozen internalMethods : List Text) : List Text :=
  hardLocals ++ frozen ++ internalMethods ++ workerPlatformGlobals

/-- Some use of the scope writes the name. -/
def Writes (casefold : Text → Text) (bareNames : List BareName) (name : Text) : Prop :=
  ∃ item ∈ bareNames, item.normalizedName casefold = name ∧ item.kinds.writes = true

instance (name : Text) : Decidable (Writes casefold bareNames name) :=
  inferInstanceAs (Decidable (∃ item ∈ bareNames, _ ∧ _))

/-- The scope reads the name and never writes it. -/
def OnlyReads (casefold : Text → Text) (bareNames : List BareName) (name : Text) : Prop :=
  ∃ item ∈ bareNames, item.normalizedName casefold = name ∧ item.kinds = .read

variable {name : Text}

theorem mem_implicitLocals :
    name ∈ (resolveNames casefold bareNames hardLocals frozen internalMethods
        (catalogByName casefold catalog)).implicitLocals ↔
      name ∈ frozen ∨ name ∉ shadows hardLocals frozen internalMethods ∧
        Writes casefold bareNames name ∧ (catalogByName casefold catalog).get? name = none := by
  simp only [resolveNames, mem_sortedNames]
  rw [mem_foldl_adds fun sets item => (add_spec sets item).1]
  refine or_congr_right ⟨?_, ?_⟩
  · rintro ⟨item, member, ⟨notHidden, writes, absent⟩, rfl⟩
    exact ⟨notHidden, ⟨item, member, rfl, writes⟩, absent⟩
  · rintro ⟨notHidden, ⟨item, member, rfl, writes⟩, absent⟩
    exact ⟨item, member, ⟨notHidden, writes, absent⟩, rfl⟩

theorem mem_forbiddenWrites :
    name ∈ (resolveNames casefold bareNames hardLocals frozen internalMethods
        (catalogByName casefold catalog)).forbiddenWrites.map casefold ↔
      name ∉ shadows hardLocals frozen internalMethods ∧ Writes casefold bareNames name ∧
        ((catalogByName casefold catalog).get? name).isSome = true := by
  simp only [resolveNames]
  rw [mem_map_inCatalogOrder, mem_foldl_adds fun sets item => (add_spec sets item).2.1]
  constructor
  · rintro ⟨impossible | ⟨item, member, ⟨notHidden, writes, stored⟩, rfl⟩, _⟩
    · cases impossible
    · exact ⟨notHidden, ⟨item, member, rfl, writes⟩, stored⟩
  · rintro ⟨notHidden, ⟨item, member, rfl, writes⟩, stored⟩
    exact ⟨.inr ⟨item, member, ⟨notHidden, writes, stored⟩, rfl⟩, stored⟩

/-- The names that the loop collects as dependencies. -/
def dependencyNames (casefold : Text → Text) (bareNames : List BareName) (shadowed : List Text)
    (frozen : List Text) (catalogNames : Dictionary Text CommonModuleDescriptor) : List Text :=
  (bareNames.foldl (NameSets.add casefold shadowed catalogNames) ⟨frozen, [], []⟩).dependencies

theorem mem_dependencyNames {shadowed : List Text}
    {catalogNames : Dictionary Text CommonModuleDescriptor} :
    name ∈ dependencyNames casefold bareNames shadowed frozen catalogNames ↔
      name ∉ shadowed ∧ OnlyReads casefold bareNames name ∧
        (catalogNames.get? name).isSome = true := by
  unfold dependencyNames
  rw [mem_foldl_adds fun sets item => (add_spec sets item).2.2]
  constructor
  · rintro (impossible | ⟨item, member, ⟨notHidden, reads, stored⟩, rfl⟩)
    · cases impossible
    · exact ⟨notHidden, ⟨item, member, rfl, reads⟩, stored⟩
  · rintro ⟨notHidden, ⟨item, member, rfl, reads⟩, stored⟩
    exact .inr ⟨item, member, ⟨notHidden, reads, stored⟩, rfl⟩

theorem resolveNames_dependencies :
    (resolveNames casefold bareNames hardLocals frozen internalMethods
        (catalogByName casefold catalog)).dependencies =
      inCatalogOrder (catalogByName casefold catalog)
        (dependencyNames casefold bareNames (shadows hardLocals frozen internalMethods) frozen
          (catalogByName casefold catalog)) := rfl

theorem mem_dependencies :
    name ∈ (resolveNames casefold bareNames hardLocals frozen internalMethods
        (catalogByName casefold catalog)).dependencies.map casefold ↔
      name ∉ shadows hardLocals frozen internalMethods ∧ OnlyReads casefold bareNames name ∧
        ((catalogByName casefold catalog).get? name).isSome = true := by
  rw [resolveNames_dependencies, mem_map_inCatalogOrder, mem_dependencyNames]
  tauto

/-- A frozen name is implicit and is not reported. -/
theorem frozen_kept (isFrozen : name ∈ frozen) :
    let resolved := resolveNames casefold bareNames hardLocals frozen internalMethods
      (catalogByName casefold catalog)
    name ∈ resolved.implicitLocals ∧ name ∉ resolved.dependencies.map casefold ∧
      name ∉ resolved.forbiddenWrites.map casefold := by
  have hidden : name ∈ shadows hardLocals frozen internalMethods := by
    simp only [shadows, List.mem_append]
    tauto
  refine ⟨mem_implicitLocals.mpr (.inl isFrozen), ?_, ?_⟩
  · exact fun reported => (mem_dependencies.mp reported).1 hidden
  · exact fun reported => (mem_forbiddenWrites.mp reported).1 hidden

/-- An implicit name is not reported. -/
theorem implicit_unreported :
    let resolved := resolveNames casefold bareNames hardLocals frozen internalMethods
      (catalogByName casefold catalog)
    name ∈ resolved.implicitLocals → name ∉ resolved.dependencies.map casefold ∧
      name ∉ resolved.forbiddenWrites.map casefold := by
  intro resolved implicit
  rcases mem_implicitLocals.mp implicit with isFrozen | ⟨_, _, absent⟩
  · exact (frozen_kept isFrozen).2
  · constructor
    · intro reported
      have stored := (mem_dependencies.mp reported).2.2
      rw [absent] at stored
      cases stored
    · intro reported
      have stored := (mem_forbiddenWrites.mp reported).2.2
      rw [absent] at stored
      cases stored

end Scope

end OnecRuntime.Dependencies
