import OnecRuntime.Universe.Manifest

/-!
# What a built manifest says

The artifacts are ordered by keys that differ when the build succeeds, so the
order they came in is forgotten.  Each dependency binding is wired once, to the
module of the generation that bears its name, or to the original one.
-/

namespace OnecRuntime.Universe

open OnecRuntime.Library
open OnecRuntime.Registry (Problem admissionProblem)

variable {naming : Naming} {σ : Type}

/-! ## Wiring -/

theorem forall₂_of_mem_left {α β : Type} {related : α → β → Prop} {items : List α}
    {results : List β} (each : List.Forall₂ related items results) {item : α}
    (member : item ∈ items) : ∃ result ∈ results, related item result := by
  induction each with
  | nil => cases member
  | cons here _ hypothesis =>
      rcases List.mem_cons.mp member with rfl | inside
      · exact ⟨_, List.mem_cons_self, here⟩
      · obtain ⟨result, found, holds⟩ := hypothesis inside
        exact ⟨result, List.mem_cons_of_mem _ found, holds⟩

theorem forall₂_of_mem_right {α β : Type} {related : α → β → Prop} {items : List α}
    {results : List β} (each : List.Forall₂ related items results) {result : β}
    (member : result ∈ results) : ∃ item ∈ items, related item result :=
  forall₂_of_mem_left each.flip member

/-- The target that one dependency binding is wired to. -/
structure Wires (artifacts : List (WorkerModuleArtifact naming))
    (artifact : WorkerModuleArtifact naming) (binding : ModuleDependencyBinding)
    (target : DependencyTarget naming) : Prop where
  sourceModule : target.sourceModule = artifact.logicalName
  exportVariable : target.exportVariable = binding.exportVariable
  overloaded : target.targetKind = .overloaded ↔ ∃ other ∈ artifacts,
    naming.casefold other.logicalName = naming.casefold binding.targetModule
  spelled : ∀ other ∈ artifacts,
    naming.casefold other.logicalName = naming.casefold binding.targetModule →
      target.targetModule = other.logicalName
  kept : target.targetKind = .original → target.targetModule = binding.targetModule

theorem DependencyTarget.create_eq_ok {sourceModule exportVariable targetModule : String}
    {targetKind : TargetKind} {target : DependencyTarget naming}
    (created : DependencyTarget.create sourceModule exportVariable targetKind targetModule =
      .ok target) :
    target.sourceModule = sourceModule ∧ target.exportVariable = exportVariable ∧
      target.targetKind = targetKind ∧ target.targetModule = targetModule := by
  unfold DependencyTarget.create at created
  split_ifs at created
  obtain rfl := Except.ok.inj created
  exact ⟨rfl, rfl, rfl, rfl⟩

/-- The names of the artifacts of one generation differ. -/
def Named (artifacts : List (WorkerModuleArtifact naming)) : Prop :=
  (artifacts.map fun item => naming.casefold item.logicalName).Nodup

variable {artifacts : List (WorkerModuleArtifact naming)}

theorem Named.unique (named : Named artifacts)
    {first second : WorkerModuleArtifact naming} (firstIn : first ∈ artifacts)
    (secondIn : second ∈ artifacts)
    (same : naming.casefold first.logicalName = naming.casefold second.logicalName) :
    first = second :=
  List.inj_on_of_nodup_map named firstIn secondIn same

variable {ordered : List (WorkerModuleArtifact naming)} {artifact : WorkerModuleArtifact naming}

theorem dependencyTarget_wires (named : Named ordered)
    {binding : ModuleDependencyBinding} {target : DependencyTarget naming}
    (resolved : dependencyTarget ordered artifact binding = .ok target) :
    Wires ordered artifact binding target := by
  unfold dependencyTarget artifactByName at resolved
  split at resolved
  · next absent =>
      have apart : ∀ other ∈ ordered,
          naming.casefold other.logicalName ≠ naming.casefold binding.targetModule := by
        intro other member same
        exact List.find?_eq_none.mp absent other member (decide_eq_true same)
      obtain ⟨sourceModule, exportVariable, kind, name⟩ := DependencyTarget.create_eq_ok resolved
      constructor
      · exact sourceModule
      · exact exportVariable
      · rw [kind]
        exact iff_of_false (fun impossible => by cases impossible)
          fun ⟨other, member, same⟩ => apart other member same
      · intro other member same
        exact absurd same (apart other member)
      · intro _
        exact name
  · next found selected =>
      have member := List.mem_of_find?_eq_some selected
      have same : naming.casefold found.logicalName = naming.casefold binding.targetModule := by
        simpa using List.find?_some selected
      obtain ⟨sourceModule, exportVariable, kind, name⟩ := DependencyTarget.create_eq_ok resolved
      constructor
      · exact sourceModule
      · exact exportVariable
      · rw [kind]
        exact iff_of_true rfl ⟨found, member, same⟩
      · intro other otherIn otherSame
        rw [named.unique otherIn member (otherSame.trans same.symm)]
        exact name
      · intro original
        rw [kind] at original
        cases original

/-- The key of a wired binding. -/
def pairKey (pair : WorkerModuleArtifact naming × ModuleDependencyBinding) : String × String :=
  bindingKey naming pair.1.logicalName pair.2.exportVariable

theorem wireBindings_ok {seen : List (String × String)}
    {pairs : List (WorkerModuleArtifact naming × ModuleDependencyBinding)}
    {targets : List (DependencyTarget naming)}
    (wired : wireBindings ordered seen pairs = .ok targets) :
    List.Forall₂ (fun pair target => dependencyTarget ordered pair.1 pair.2 = .ok target)
        pairs targets ∧
      (pairs.map pairKey).Nodup ∧ ∀ pair ∈ pairs, pairKey pair ∉ seen := by
  induction pairs generalizing seen targets with
  | nil =>
      obtain rfl := pure_eq_ok.mp wired
      exact ⟨.nil, List.nodup_nil, fun _ impossible => by cases impossible⟩
  | cons pair rest hypothesis =>
      obtain ⟨_, checked, wired⟩ := bind_eq_ok.mp wired
      obtain ⟨target, resolved, wired⟩ := bind_eq_ok.mp wired
      obtain ⟨others, later, returned⟩ := bind_eq_ok.mp wired
      obtain rfl := pure_eq_ok.mp returned
      have fresh : pairKey pair ∉ seen := require_eq_ok.mp checked
      obtain ⟨resolvedAll, distinct, apart⟩ := hypothesis later
      refine ⟨.cons resolved resolvedAll, ?_, ?_⟩
      · rw [List.map_cons, List.nodup_cons]
        refine ⟨fun member => ?_, distinct⟩
        obtain ⟨other, otherIn, same⟩ := List.mem_map.mp member
        apply apart other otherIn
        rw [same]
        exact List.mem_cons_self
      · intro other member
        rcases List.mem_cons.mp member with rfl | inside
        · exact fresh
        · exact fun stored => apart other inside (List.mem_cons_of_mem _ stored)

theorem mem_dependencyBindings {binding : ModuleDependencyBinding} :
    (artifact, binding) ∈ dependencyBindings artifacts ↔
      artifact ∈ artifacts ∧ binding ∈ artifact.dependencyBindings := by
  unfold dependencyBindings
  rw [List.mem_flatMap]
  constructor
  · rintro ⟨other, member, inside⟩
    obtain ⟨found, foundIn, same⟩ := List.mem_map.mp inside
    cases same
    exact ⟨member, foundIn⟩
  · rintro ⟨member, inside⟩
    exact ⟨artifact, member, List.mem_map.mpr ⟨binding, inside, rfl⟩⟩

/-! ## Order -/

variable {admission : WorkerModuleArtifact naming → Option σ}

theorem validatedWorkerModuleArtifact_ok {view : ValidatedWorkerModuleArtifact naming σ}
    (validated : validatedWorkerModuleArtifact admission artifact = .ok view) :
    view.descriptor = artifact := by
  unfold validatedWorkerModuleArtifact at validated
  split at validated
  · cases validated
  · split_ifs at validated
    obtain rfl := Except.ok.inj validated
    rfl

variable {views : List (ValidatedWorkerModuleArtifact naming σ)}

theorem descriptors_of_views
    (validated : artifacts.mapM (validatedWorkerModuleArtifact admission) = .ok views) :
    views.map ValidatedWorkerModuleArtifact.descriptor = artifacts := by
  have each := mapM_eq_ok.mp validated
  clear validated
  induction each with
  | nil => rfl
  | cons here _ hypothesis =>
      rw [List.map_cons, hypothesis, validatedWorkerModuleArtifact_ok here]

variable {generation : Nat}

theorem orderedManifest_named {manifest : WorkerUniverseManifest naming}
    (built : orderedManifest generation ordered = .ok manifest) : Named ordered := by
  unfold orderedManifest at built
  obtain ⟨_, checked, _⟩ := bind_eq_ok.mp built
  have distinct := require_eq_ok.mp checked
  exact distinct

theorem WorkerUniverseManifest.create_eq_ok
    {modules : List (ManifestModule naming)} {wiring : List (DependencyTarget naming)}
    {exports : List (WorkerExport naming)} {sha256 : String}
    {manifest : WorkerUniverseManifest naming} :
    WorkerUniverseManifest.create generation modules wiring exports sha256 = .ok manifest ↔
      manifest.generation = generation ∧ manifest.modules = modules ∧ manifest.wiring = wiring ∧
        manifest.exports = exports ∧ manifest.sha256 = sha256 := by
  unfold WorkerUniverseManifest.create
  constructor
  · intro created
    split_ifs at created
    obtain rfl := Except.ok.inj created
    exact ⟨rfl, rfl, rfl, rfl, rfl⟩
  · rintro ⟨rfl, rfl, rfl, rfl, rfl⟩
    rw [dif_pos manifest.valid]

/-- The parts of a successful build. -/
structure Built (admission : WorkerModuleArtifact naming → Option σ) (generation : Nat)
    (artifacts : List (WorkerModuleArtifact naming)) (built : BuiltManifest naming σ)
    (views : List (ValidatedWorkerModuleArtifact naming σ)) : Prop where
  nonempty : artifacts ≠ []
  validated : artifacts.mapM (validatedWorkerModuleArtifact admission) = .ok views
  ordered : built.1 = sortedBy (fun view => artifactSortKey naming view.descriptor) views
  manifest : orderedManifest generation (built.1.map ValidatedWorkerModuleArtifact.descriptor) =
    .ok built.2

variable {built : BuiltManifest naming σ}

theorem buildWorkerManifest_eq_ok :
    buildWorkerManifest admission generation artifacts = .ok built ↔
      ∃ views, Built admission generation artifacts built views := by
  unfold buildWorkerManifest
  rw [bind_eq_ok]
  constructor
  · rintro ⟨_, nonempty, returned⟩
    obtain ⟨views, validated, returned⟩ := bind_eq_ok.mp (mapError_eq_ok.mp returned)
    obtain ⟨manifest, made, returned⟩ := bind_eq_ok.mp returned
    obtain rfl := pure_eq_ok.mp returned
    exact ⟨views, require_eq_ok.mp nonempty, validated, rfl, made⟩
  · rintro ⟨views, parts⟩
    refine ⟨(), require_of_holds parts.nonempty, mapError_eq_ok.mpr ?_⟩
    have manifest := parts.manifest
    rw [parts.ordered] at manifest
    refine bind_eq_ok.mpr ⟨views, parts.validated, bind_eq_ok.mpr ⟨built.2, manifest, ?_⟩⟩
    rw [← parts.ordered]
    rfl

namespace Built

variable {admission : WorkerModuleArtifact naming → Option σ} {generation : Nat}
  {artifacts : List (WorkerModuleArtifact naming)} {built : BuiltManifest naming σ}
  {views : List (ValidatedWorkerModuleArtifact naming σ)}

theorem descriptors (parts : Built admission generation artifacts built views) :
    (built.1.map ValidatedWorkerModuleArtifact.descriptor).Perm artifacts := by
  rw [parts.ordered, ← descriptors_of_views parts.validated]
  exact (sortedBy_perm _ views).map _

theorem named (parts : Built admission generation artifacts built views) : Named artifacts :=
  (parts.descriptors.map _).nodup_iff.mp (orderedManifest_named parts.manifest)

/-- Another order of the artifacts builds the same. -/
theorem permuted (parts : Built admission generation artifacts built views)
    {others : List (WorkerModuleArtifact naming)} (same : artifacts.Perm others) :
    buildWorkerManifest admission generation others = .ok built := by
  obtain ⟨moved, validated, perm⟩ := mapM_perm same parts.validated
  have distinct := parts.named
  have ordered : sortedBy (fun view => artifactSortKey naming view.descriptor) views =
      sortedBy (fun view => artifactSortKey naming view.descriptor) moved := by
    apply sortedBy_eq_of_perm perm
    intro one oneIn other otherIn key
    have folded : naming.casefold one.descriptor.logicalName =
        naming.casefold other.descriptor.logicalName :=
      congrArg (fun pair => (ofLex pair).1) key
    have viewsNamed : (views.map fun view =>
        naming.casefold view.descriptor.logicalName).Nodup := by
      unfold Named at distinct
      rw [← descriptors_of_views parts.validated, List.map_map] at distinct
      exact distinct
    exact List.inj_on_of_nodup_map viewsNamed oneIn otherIn folded
  refine buildWorkerManifest_eq_ok.mpr ⟨moved, ?_, validated, ?_, parts.manifest⟩
  · intro empty
    rw [empty] at same
    exact parts.nonempty same.eq_nil
  · rw [parts.ordered, ordered]

/-- The targets that the bindings are wired to, before they are ordered. -/
theorem targets (parts : Built admission generation artifacts built views) :
    ∃ targets, built.2.wiring.Perm targets ∧
      List.Forall₂ (fun pair target => Wires artifacts pair.1 pair.2 target)
        (dependencyBindings (built.1.map ValidatedWorkerModuleArtifact.descriptor)) targets := by
  have same := parts.descriptors
  have named := orderedManifest_named parts.manifest
  have manifest := parts.manifest
  unfold orderedManifest at manifest
  obtain ⟨_, _, manifest⟩ := bind_eq_ok.mp manifest
  obtain ⟨modules, _, manifest⟩ := bind_eq_ok.mp manifest
  obtain ⟨wiring, wired, manifest⟩ := bind_eq_ok.mp manifest
  obtain ⟨_, _, manifest⟩ := bind_eq_ok.mp manifest
  refine ⟨wiring, ?_, (wireBindings_ok wired).1.imp ?_⟩
  · rw [(WorkerUniverseManifest.create_eq_ok.mp manifest).2.2.1]
    exact sortedBy_perm _ wiring
  · intro pair target resolved
    have wires := dependencyTarget_wires named resolved
    constructor
    · exact wires.sourceModule
    · exact wires.exportVariable
    · rw [wires.overloaded]
      exact exists_congr fun other => and_congr_left' same.mem_iff
    · intro other member
      exact wires.spelled other (same.mem_iff.mpr member)
    · exact wires.kept

/-- Two wired bindings never share their key. -/
theorem keys_nodup (built : BuiltManifest naming σ) : (built.2.wiring.map fun target =>
    bindingKey naming target.sourceModule target.exportVariable).Nodup :=
  built.2.valid.bindingsDistinct

end Built

/-- What a build returns for its artifacts. -/
structure ManifestOf (artifacts : List (WorkerModuleArtifact naming))
    (built : BuiltManifest naming σ) : Prop where
  views : (built.1.map ValidatedWorkerModuleArtifact.descriptor).Perm artifacts
  /-- Every binding is wired, to the target its name asks for, and once. -/
  wired : ∀ artifact ∈ artifacts, ∀ binding ∈ artifact.dependencyBindings,
    ∃ target, Wires artifacts artifact binding target ∧ built.2.wiring.countP (fun other =>
      decide (bindingKey naming other.sourceModule other.exportVariable =
        bindingKey naming artifact.logicalName binding.exportVariable)) = 1 ∧
      target ∈ built.2.wiring
  onlyBindings : ∀ target ∈ built.2.wiring, ∃ artifact ∈ artifacts,
    ∃ binding ∈ artifact.dependencyBindings, Wires artifacts artifact binding target
  counted : built.2.wiring.length = (dependencyBindings artifacts).length
  /-- The constructor accepts what it is given back. -/
  accepted : WorkerUniverseManifest.create built.2.generation built.2.modules built.2.wiring
    built.2.exports built.2.sha256 = .ok built.2

theorem Built.manifestOf
    (parts : Built admission generation artifacts built views) : ManifestOf artifacts built := by
  have same := parts.descriptors
  have bindings : (dependencyBindings
      (built.1.map ValidatedWorkerModuleArtifact.descriptor)).Perm (dependencyBindings artifacts) :=
    same.flatMap_right _
  obtain ⟨targets, perm, each⟩ := parts.targets
  constructor
  · exact same
  · intro artifact member binding inside
    have pairIn := bindings.mem_iff.mpr (mem_dependencyBindings.mpr ⟨member, inside⟩)
    obtain ⟨target, targetIn, wires⟩ := forall₂_of_mem_left each pairIn
    have wired := perm.mem_iff.mpr targetIn
    refine ⟨target, wires, ?_, wired⟩
    have once := List.count_eq_one_of_mem (Built.keys_nodup built)
      (List.mem_map.mpr ⟨target, wired, rfl⟩)
    rw [List.count_eq_countP, List.countP_map] at once
    rw [← once]
    congr 1
    funext other
    rw [Bool.eq_iff_iff, decide_eq_true_iff]
    simp [wires.sourceModule, wires.exportVariable]
  · intro target wired
    obtain ⟨pair, pairIn, wires⟩ := forall₂_of_mem_right each (perm.mem_iff.mp wired)
    obtain ⟨member, inside⟩ := mem_dependencyBindings.mp (bindings.mem_iff.mp pairIn)
    exact ⟨pair.1, member, pair.2, inside, wires⟩
  · rw [perm.length_eq, ← each.length_eq, bindings.length_eq]
  · exact WorkerUniverseManifest.create_eq_ok.mpr ⟨rfl, rfl, rfl, rfl, rfl⟩

/-- The build does not see the order of its artifacts, and what it returns is their manifest. -/
structure BuildLaw (admission : WorkerModuleArtifact naming → Option σ) (generation : Nat)
    (artifacts : List (WorkerModuleArtifact naming)) : Prop where
  permuted : ∀ others, artifacts.Perm others →
    (∃ built, buildWorkerManifest admission generation artifacts = .ok built ∧
        buildWorkerManifest admission generation others = .ok built) ∨
      (∃ problem other, buildWorkerManifest admission generation artifacts = .error problem ∧
        buildWorkerManifest admission generation others = .error other)
  manifest : ∀ built, buildWorkerManifest admission generation artifacts = .ok built →
    ManifestOf artifacts built

theorem build_law (admission : WorkerModuleArtifact naming → Option σ) (generation : Nat)
    (artifacts : List (WorkerModuleArtifact naming)) : BuildLaw admission generation artifacts := by
  constructor
  · intro others same
    cases here : buildWorkerManifest admission generation artifacts with
    | ok built =>
        obtain ⟨views, parts⟩ := buildWorkerManifest_eq_ok.mp here
        exact .inl ⟨built, rfl, parts.permuted same⟩
    | error problem =>
        cases there : buildWorkerManifest admission generation others with
        | error other => exact .inr ⟨problem, other, rfl, rfl⟩
        | ok built =>
            obtain ⟨views, parts⟩ := buildWorkerManifest_eq_ok.mp there
            rw [parts.permuted same.symm] at here
            cases here
  · intro built returned
    obtain ⟨views, parts⟩ := buildWorkerManifest_eq_ok.mp returned
    exact parts.manifestOf

end OnecRuntime.Universe
