import Mathlib.Data.List.Sort
import OnecRuntime.Library.Dictionary
import OnecRuntime.Library.Fallible

/-!
# Worker manifests and registration refcounts

A manifest names the registrations of one Worker generation. Adjusting the
refcounts by a manifest moves the count of each of its registrations by one and
leaves every other count alone; the zero counts are then removed together with
their artifact identities.
-/

namespace OnecRuntime.Registry

open OnecRuntime.Library

inductive Problem where
  | protocolError (message : String)
  | valueError (message : String)
  | keyError (generation : Nat)
deriving DecidableEq, Repr

/-- The string functions that registration identities are computed with. -/
structure Naming where
  casefold : String → String
  sha256 : String → String

def firstCharacters (count : Nat) (text : String) : String :=
  String.ofList (text.toList.take count)

def registrationName (naming : Naming) (logicalName artifactSha256 : String) : String :=
  "OnecRuntime_" ++ firstCharacters 8 (naming.sha256 (naming.casefold logicalName)) ++ "_" ++
    firstCharacters 16 artifactSha256

structure WorkerModuleArtifact where
  logicalName : String
  revision : Nat
  artifactSha256 : String
deriving DecidableEq, Repr

structure ManifestModule where
  logicalName : String
  revision : Nat
  artifactSha256 : String
  registrationName : String
deriving DecidableEq, Repr

/-- Lexicographic order of the sort keys `(casefolded name, sha256, revision)`. -/
def sortKeyLe (naming : Naming) (first second : WorkerModuleArtifact) : Prop :=
  naming.casefold first.logicalName < naming.casefold second.logicalName ∨
    naming.casefold first.logicalName = naming.casefold second.logicalName ∧
      (first.artifactSha256 < second.artifactSha256 ∨
        first.artifactSha256 = second.artifactSha256 ∧ first.revision ≤ second.revision)

instance (naming : Naming) : DecidableRel (sortKeyLe naming) := fun first second =>
  inferInstanceAs (Decidable
    (naming.casefold first.logicalName < naming.casefold second.logicalName ∨ _))

/-- `sorted(names, key=str.casefold)`. -/
def sortedByCasefold (naming : Naming) (names : List String) : List String :=
  names.insertionSort (fun first second => naming.casefold first ≤ naming.casefold second)

def sortedItems {ν : Type} (naming : Naming) (items : List (String × ν)) : List (String × ν) :=
  items.insertionSort
    (fun first second => naming.casefold first.1 ≤ naming.casefold second.1)

/-- The modules of one generation; no two registrations differ by case only. -/
structure WorkerUniverseManifest (naming : Naming) where
  generation : Nat
  modules : List ManifestModule
  sha256 : String
  generation_pos : 0 < generation
  modules_ne : modules ≠ []
  modules_distinct : (modules.map (fun item => naming.casefold item.logicalName)).Nodup
  registrations_distinct : (modules.map (fun item => naming.casefold item.registrationName)).Nodup
deriving DecidableEq

variable {naming : Naming}

namespace WorkerUniverseManifest

def registrationNames (manifest : WorkerUniverseManifest naming) : List String :=
  manifest.modules.map ManifestModule.registrationName

theorem registrationNames_nodup (manifest : WorkerUniverseManifest naming) :
    manifest.registrationNames.Nodup := by
  apply List.Nodup.of_map naming.casefold
  have distinct := manifest.registrations_distinct
  unfold registrationNames
  rw [List.map_map]
  exact distinct

/-- The checks of the manifest constructor on its modules. -/
def create (naming : Naming) (generation : Nat) (modules : List ManifestModule)
    (sha256 : String) : Except Problem (WorkerUniverseManifest naming) :=
  if valid : 0 < generation ∧ modules ≠ [] ∧
      (modules.map (fun item => naming.casefold item.logicalName)).Nodup ∧
      (modules.map (fun item => naming.casefold item.registrationName)).Nodup then
    .ok ⟨generation, modules, sha256, valid.1, valid.2.1, valid.2.2.1, valid.2.2.2⟩
  else .error (.valueError "worker universe manifest is invalid")

end WorkerUniverseManifest

/-- Verdicts of the checks that `prepare` makes on data this model leaves out: the artifacts'
payloads, the wiring and exports with the manifest digest, the export catalog and the seal. -/
structure Admission where
  artifacts : Except Problem Unit
  manifestSha256 : Except Problem String
  exportCatalog : Except Problem Unit
  activation : Except Problem Unit

/-- An error that is not a protocol error is reported as a failed admission. -/
def admissionProblem : Problem → Problem
  | .protocolError message => .protocolError message
  | _ => .protocolError "Worker universe manifest admission is invalid"

def manifestModule (naming : Naming) (artifact : WorkerModuleArtifact) : ManifestModule where
  logicalName := artifact.logicalName
  revision := artifact.revision
  artifactSha256 := artifact.artifactSha256
  registrationName := registrationName naming artifact.logicalName artifact.artifactSha256

def admitWorkerManifest (naming : Naming) (generation : Nat)
    (artifacts : List WorkerModuleArtifact) (admission : Admission) :
    Except Problem (List WorkerModuleArtifact × WorkerUniverseManifest naming) := do
  admission.artifacts
  let ordered := artifacts.insertionSort (sortKeyLe naming)
  require (ordered.map (fun item => naming.casefold item.logicalName)).Nodup
    (.protocolError "Worker universe has duplicate logical modules")
  let digest ← admission.manifestSha256
  let manifest ← WorkerUniverseManifest.create naming generation
    (ordered.map (manifestModule naming)) digest
  pure (ordered, manifest)

def buildWorkerManifest (naming : Naming) (generation : Nat)
    (artifacts : List WorkerModuleArtifact) (admission : Admission) :
    Except Problem (List WorkerModuleArtifact × WorkerUniverseManifest naming) := do
  require (artifacts ≠ []) (.protocolError "Worker universe requires a nonempty artifact tuple")
  (admitWorkerManifest naming generation artifacts admission).mapError admissionProblem

/-! ## Refcounts -/

abbrev Refcounts := Dictionary String Nat

/-- The casefolded module name and artifact digest that own a registration. -/
abbrev Artifacts := Dictionary String (String × String)

def countOf (refcounts : Refcounts) (name : String) : Nat := (refcounts.get? name).getD 0

def adjustRegistrations (delta : Int) : Refcounts → List String → Except Problem Refcounts
  | refcounts, [] => .ok refcounts
  | refcounts, name :: rest => do
      let updated : Int := countOf refcounts name + delta
      require (0 ≤ updated)
        (.protocolError "Worker registration refcount would become negative")
      adjustRegistrations delta (refcounts.set name updated.toNat) rest

def adjustManifestRegistrations (refcounts : Refcounts)
    (manifest : WorkerUniverseManifest naming) (delta : Int) : Except Problem Refcounts :=
  adjustRegistrations delta refcounts manifest.registrationNames

structure Removal where
  released : List String
  refcounts : Refcounts
  artifacts : Artifacts

def removeZeroRegistrationRefcounts (naming : Naming) (refcounts : Refcounts)
    (artifacts : Artifacts) (quarantineHolds : List String) : Removal :=
  let released := sortedByCasefold naming
    ((refcounts.entries.filter
      (fun entry => decide (entry.2 = 0 ∧ entry.1 ∉ quarantineHolds))).map Prod.fst)
  ⟨released, refcounts.eraseAll released, artifacts.eraseAll released⟩

/-- The identity that a manifest module claims for its registration. -/
def registrationOwner (naming : Naming) (item : ManifestModule) : String × String :=
  (naming.casefold item.logicalName, item.artifactSha256)

def requireRegistrationOwnership (manifest : WorkerUniverseManifest naming)
    (artifacts : Artifacts) : Except Problem Unit :=
  require
    (∀ item ∈ manifest.modules, ∀ owner ∈ artifacts.get? item.registrationName,
      owner = registrationOwner naming item)
    (.protocolError "Worker registration identity collision")

def claimRegistrations (artifacts : Artifacts) (manifest : WorkerUniverseManifest naming) :
    Artifacts :=
  manifest.modules.foldl
    (fun claimed item => claimed.set item.registrationName (registrationOwner naming item))
    artifacts

/-! ## What the refcount operations do -/

theorem countOf_set (refcounts : Refcounts) (name other : String) (count : Nat) :
    countOf (refcounts.set name count) other =
      if other = name then count else countOf refcounts other := by
  unfold countOf
  by_cases same : other = name
  · subst same
    simp
  · rw [Dictionary.get?_set_other refcounts count same, if_neg same]

theorem adjustRegistrations_spec {delta : Int} {refcounts adjusted : Refcounts}
    {names : List String} (distinct : names.Nodup)
    (returned : adjustRegistrations delta refcounts names = .ok adjusted) (name : String) :
    (countOf adjusted name : Int) = countOf refcounts name + (if name ∈ names then delta else 0) ∧
      (name ∈ adjusted.keys ↔ name ∈ names ∨ name ∈ refcounts.keys) := by
  induction names generalizing refcounts with
  | nil =>
      cases returned
      simp
  | cons head rest hypothesis =>
      obtain ⟨_, nonnegative, returned⟩ := bind_eq_ok.1 returned
      have enough := require_eq_ok.1 nonnegative
      have apart := List.nodup_cons.1 distinct
      obtain ⟨count, stored⟩ := hypothesis apart.2 returned
      rw [countOf_set] at count
      rw [Dictionary.mem_keys_set] at stored
      constructor
      · rw [count]
        by_cases same : name = head
        · subst same
          simp only [if_pos, apart.1, if_false, List.mem_cons, true_or]
          omega
        · simp [same]
      · rw [stored, List.mem_cons]
        tauto

theorem adjustManifestRegistrations_spec {delta : Int} {refcounts adjusted : Refcounts}
    {manifest : WorkerUniverseManifest naming}
    (returned : adjustManifestRegistrations refcounts manifest delta = .ok adjusted)
    (name : String) :
    (countOf adjusted name : Int) =
        countOf refcounts name + (if name ∈ manifest.registrationNames then delta else 0) ∧
      (name ∈ adjusted.keys ↔ name ∈ manifest.registrationNames ∨ name ∈ refcounts.keys) :=
  adjustRegistrations_spec manifest.registrationNames_nodup returned name

theorem mem_keys_claimRegistrations (artifacts : Artifacts)
    (manifest : WorkerUniverseManifest naming) (name : String) :
    name ∈ (claimRegistrations artifacts manifest).keys ↔
      name ∈ manifest.registrationNames ∨ name ∈ artifacts.keys := by
  unfold claimRegistrations WorkerUniverseManifest.registrationNames
  induction manifest.modules generalizing artifacts with
  | nil => simp
  | cons item rest hypothesis =>
      rw [List.foldl_cons, hypothesis, Dictionary.mem_keys_set, List.map_cons, List.mem_cons]
      tauto

section Removal

variable (naming) {refcounts : Refcounts} (artifacts : Artifacts) {name : String}

/-- Without quarantine holds, the released names are the stored names with count zero. -/
theorem mem_released :
    name ∈ (removeZeroRegistrationRefcounts naming refcounts artifacts []).released ↔
      refcounts.get? name = some 0 := by
  unfold removeZeroRegistrationRefcounts sortedByCasefold
  rw [List.mem_insertionSort, Dictionary.get?_eq_some]
  constructor
  · intro member
    obtain ⟨⟨_, count⟩, stored, rfl⟩ := List.mem_map.1 member
    obtain ⟨stored, zero⟩ := List.mem_filter.1 stored
    obtain ⟨rfl, _⟩ := of_decide_eq_true zero
    exact stored
  · intro stored
    exact List.mem_map.2 ⟨(name, 0), List.mem_filter.2 ⟨stored, by simp⟩, rfl⟩

theorem released_nodup (holds : List String) :
    (removeZeroRegistrationRefcounts naming refcounts artifacts holds).released.Nodup := by
  unfold removeZeroRegistrationRefcounts sortedByCasefold
  rw [(List.perm_insertionSort _ _).nodup_iff]
  exact refcounts.distinct.sublist (List.filter_sublist.map Prod.fst)

theorem countOf_removed :
    countOf (removeZeroRegistrationRefcounts naming refcounts artifacts []).refcounts name =
      countOf refcounts name := by
  have released : name ∈ (removeZeroRegistrationRefcounts naming refcounts artifacts
      []).released ↔ refcounts.get? name = some 0 := mem_released naming artifacts
  unfold countOf
  by_cases zero : refcounts.get? name = some 0
  · have dropped : (removeZeroRegistrationRefcounts naming refcounts artifacts
        []).refcounts.get? name = none :=
      Dictionary.get?_eraseAll_removed refcounts (released.2 zero)
    rw [dropped, zero]
    rfl
  · have kept : (removeZeroRegistrationRefcounts naming refcounts artifacts
        []).refcounts.get? name = refcounts.get? name :=
      Dictionary.get?_eraseAll_kept refcounts (mt released.1 zero)
    rw [kept]

/-- A name keeps its entry exactly when its count is positive. -/
theorem mem_keys_removed :
    name ∈ (removeZeroRegistrationRefcounts naming refcounts artifacts []).refcounts.keys ↔
      0 < countOf refcounts name := by
  have kept : name ∈ (removeZeroRegistrationRefcounts naming refcounts artifacts []).refcounts.keys
      ↔ refcounts.get? name ≠ some 0 ∧ name ∈ refcounts.keys :=
    Dictionary.mem_keys_eraseAll.trans
      (and_congr (not_congr (mem_released naming artifacts)) Iff.rfl)
  rw [kept, Dictionary.mem_keys, countOf]
  cases refcounts.get? name with
  | none => simp
  | some count => simp [Nat.pos_iff_ne_zero]

theorem mem_keys_removed_artifacts (same : name ∈ artifacts.keys ↔ name ∈ refcounts.keys) :
    name ∈ (removeZeroRegistrationRefcounts naming refcounts artifacts []).artifacts.keys ↔
      0 < countOf refcounts name := by
  have kept : name ∈ (removeZeroRegistrationRefcounts naming refcounts artifacts []).artifacts.keys
      ↔ name ∈ (removeZeroRegistrationRefcounts naming refcounts artifacts []).refcounts.keys :=
    Dictionary.mem_keys_eraseAll.trans
      ((and_congr Iff.rfl same).trans Dictionary.mem_keys_eraseAll.symm)
  exact kept.trans (mem_keys_removed naming artifacts)

end Removal

end OnecRuntime.Registry
