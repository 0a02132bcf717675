import OnecRuntime.Bsl.PlatformGlobals
import OnecRuntime.Library.Dictionary
import OnecRuntime.Library.Fallible
import OnecRuntime.Library.Sorting
import Mathlib.Data.List.Dedup
import Mathlib.Data.List.Lex

/-!
# Worker dependencies of a module

`bsl/worker_dependency_resolver.py`: the names that the methods of a module use
are resolved against a catalog of common modules.  A name that is written and
that no catalog has when it is resolved becomes an implicit local, and the next
resolution keeps it.  Case folding is a parameter.
-/

namespace OnecRuntime.Dependencies

open OnecRuntime.Library
open OnecRuntime.Bsl (workerPlatformGlobals)
open OnecRuntime.SourceMaps (Text SourceSpan)

/-- `BareNameKind`, of which a name has one or both. -/
inductive BareNameKind where
  | read
  | bareWrite
  | both
  deriving DecidableEq

namespace BareNameKind

def reads : BareNameKind → Bool
  | bareWrite => false
  | _ => true

def writes : BareNameKind → Bool
  | read => false
  | _ => true

end BareNameKind

structure BareName where
  name : Text
  kinds : BareNameKind
  deriving DecidableEq

/-- `tuple(sorted(set(names)))`. -/
def sortedNames (names : List Text) : List Text := sortedBy id names.dedup

@[simp] theorem mem_sortedNames {names : List Text} {name : Text} :
    name ∈ sortedNames names ↔ name ∈ names := by
  rw [sortedNames, mem_sortedBy, List.mem_dedup]

section Models

variable (casefold : Text → Text)

def BareName.normalizedName (item : BareName) : Text := casefold item.name

structure ParsedMethodModel where
  name : Text
  exported : Bool
  declarationSpan : SourceSpan
  aliasDeclarationOffset : Nat
  aliasInitializerOffset : Nat
  declaredNames : List Text
  bareNames : List BareName
  distinct : (bareNames.map (BareName.normalizedName casefold)).Nodup

def ParsedMethodModel.normalizedName (method : ParsedMethodModel casefold) : Text :=
  casefold method.name

structure ParsedModuleModel where
  sourceSha256 : String
  moduleVariables : List Text
  moduleBareNames : List BareName
  methods : List (ParsedMethodModel casefold)
  parserIdentity : String × String
  distinct : (moduleBareNames.map (BareName.normalizedName casefold)).Nodup

end Models

inductive CommonModuleScope where
  | server
  | clientServer
  deriving DecidableEq

structure CommonModuleDescriptor where
  canonicalName : Text
  scope : CommonModuleScope
  deriving DecidableEq

structure CommonModuleCatalogSnapshot where
  profile : String
  preprocessorProfile : String
  revision : Nat
  modules : List CommonModuleDescriptor
  sha256 : String

structure CatalogIdentity where
  profile : String
  preprocessorProfile : String
  revision : Nat
  sha256 : String
  deriving DecidableEq

def CommonModuleCatalogSnapshot.identity (catalog : CommonModuleCatalogSnapshot) :
    CatalogIdentity :=
  ⟨catalog.profile, catalog.preprocessorProfile, catalog.revision, catalog.sha256⟩

section Plans

variable (casefold : Text → Text)

structure ResolvedMethodPlan where
  source : ParsedMethodModel casefold
  localNames : List Text
  implicitLocalNames : List Text
  dependencies : List Text
  forbiddenGlobalWrites : List Text

structure ResolvedModulePlan where
  source : ParsedModuleModel casefold
  catalogGeneration : Nat
  catalogIdentity : CatalogIdentity
  implicitLocalNames : List Text
  forbiddenGlobalWrites : List Text
  methods : List (ResolvedMethodPlan casefold)
  dependencies : List Text

end Plans

structure ResolvedNames where
  implicitLocals : List Text
  forbiddenWrites : List Text
  dependencies : List Text

inductive ResolutionError where
  | value (message : String)
  | admission (message code : String) (span : SourceSpan)
  deriving DecidableEq

variable {casefold : Text → Text}

/-! ## Names of one scope -/

/-- The sets that the loop over the names fills. -/
structure NameSets where
  implicit : List Text
  forbidden : List Text
  dependencies : List Text

/-- One turn of the loop of `_resolve_names`. -/
def NameSets.add (casefold : Text → Text) (shadowed : List Text)
    (catalogByName : Dictionary Text CommonModuleDescriptor) (sets : NameSets)
    (item : BareName) : NameSets :=
  let normalized := item.normalizedName casefold
  if normalized ∈ shadowed then sets
  else
    let descriptor := catalogByName.get? normalized
    if item.kinds.writes then
      match descriptor with
      | none => { sets with implicit := normalized :: sets.implicit }
      | some _ => { sets with forbidden := normalized :: sets.forbidden }
    else if item.kinds.reads ∧ descriptor.isSome then
      { sets with dependencies := normalized :: sets.dependencies }
    else sets

/-- The canonical names of some modules, in catalog order. -/
def inCatalogOrder (catalogByName : Dictionary Text CommonModuleDescriptor)
    (names : List Text) : List Text :=
  (catalogByName.entries.filter fun entry => decide (entry.1 ∈ names)).map fun entry =>
    entry.2.canonicalName

/-- `_resolve_names`. -/
def resolveNames (casefold : Text → Text) (bareNames : List BareName)
    (hardLocals frozenImplicit internalMethods : List Text)
    (catalogByName : Dictionary Text CommonModuleDescriptor) : ResolvedNames :=
  let shadowed := hardLocals ++ frozenImplicit ++ internalMethods ++ workerPlatformGlobals
  let sets := bareNames.foldl (NameSets.add casefold shadowed catalogByName)
    ⟨frozenImplicit, [], []⟩
  ⟨sortedNames sets.implicit, inCatalogOrder catalogByName sets.forbidden,
    inCatalogOrder catalogByName sets.dependencies⟩

/-! ## A module -/

def catalogByName (casefold : Text → Text) (catalog : CommonModuleCatalogSnapshot) :
    Dictionary Text CommonModuleDescriptor :=
  .ofItems (catalog.modules.map fun descriptor => (casefold descriptor.canonicalName, descriptor))

/-- The checks of a previous plan. -/
def checkPrevious (model : ParsedModuleModel casefold) (catalog : CommonModuleCatalogSnapshot)
    (previous : ResolvedModulePlan casefold) : Except ResolutionError Unit := do
  require (previous.source.sourceSha256 = model.sourceSha256 ∧
      previous.source.parserIdentity = model.parserIdentity)
    (.value "previous plan must describe the same source version")
  require (previous.catalogIdentity.profile = catalog.profile ∧
      previous.catalogIdentity.preprocessorProfile = catalog.preprocessorProfile)
    (.value "catalog profile identity cannot change")
  require (previous.catalogGeneration ≤ catalog.revision)
    (.value "catalog generation cannot move backwards")
  require (¬ (previous.catalogGeneration = catalog.revision ∧
      previous.catalogIdentity ≠ catalog.identity))
    (.value "catalog identity changed within one generation")

/-- The names of the methods, which must be distinct. -/
def checkMethodNames : List Text → List (ParsedMethodModel casefold) →
    Except ResolutionError (List Text)
  | names, [] => .ok names
  | names, method :: rest =>
      if method.normalizedName casefold ∈ names then
        .error (.admission "worker module contains an ambiguous method declaration"
          "ambiguous_module_dependency" method.declarationSpan)
      else checkMethodNames (method.normalizedName casefold :: names) rest

/-- What a previous plan has frozen for the module. -/
def previousImplicit : Option (ResolvedModulePlan casefold) → List Text
  | none => []
  | some previous => previous.implicitLocalNames

/-- What a previous plan has frozen for a method; the last plan under its name counts. -/
def priorImplicit (previous : Option (ResolvedModulePlan casefold))
    (method : ParsedMethodModel casefold) : List Text :=
  match previous with
  | none => []
  | some previous =>
      match previous.methods.reverse.find? fun plan =>
        plan.source.normalizedName casefold = method.normalizedName casefold with
      | none => []
      | some prior => prior.implicitLocalNames

/-- The names that hide modules from a method. -/
def hardLocals (model : ParsedModuleModel casefold) (moduleImplicit : List Text)
    (method : ParsedMethodModel casefold) : List Text :=
  model.moduleVariables ++ moduleImplicit ++ method.declaredNames

def resolveMethod (model : ParsedModuleModel casefold)
    (catalogNames : Dictionary Text CommonModuleDescriptor) (internalMethods : List Text)
    (moduleImplicit : List Text) (previous : Option (ResolvedModulePlan casefold))
    (method : ParsedMethodModel casefold) : ResolvedMethodPlan casefold :=
  let resolved := resolveNames casefold method.bareNames (hardLocals model moduleImplicit method)
    (priorImplicit previous method) internalMethods catalogNames
  { source := method
    localNames := sortedNames (hardLocals model moduleImplicit method ++ resolved.implicitLocals)
    implicitLocalNames := resolved.implicitLocals
    dependencies := resolved.dependencies
    forbiddenGlobalWrites := resolved.forbiddenWrites }

def resolveWorkerDependencies (model : ParsedModuleModel casefold)
    (catalog : CommonModuleCatalogSnapshot) (previous : Option (ResolvedModulePlan casefold)) :
    Except ResolutionError (ResolvedModulePlan casefold) := do
  match previous with
  | none => pure ()
  | some plan => checkPrevious model catalog plan
  let internalMethods ← checkMethodNames [] model.methods
  let catalogNames := catalogByName casefold catalog
  let moduleNames := resolveNames casefold model.moduleBareNames model.moduleVariables
    (previousImplicit previous) internalMethods catalogNames
  require (moduleNames.dependencies = [])
    (.admission "common module dependency is unsupported in module scope"
      "module_scope_dependency" ⟨0, 0, Nat.le_refl 0⟩)
  let methods := model.methods.map
    (resolveMethod model catalogNames internalMethods moduleNames.implicitLocals previous)
  let allDependencies := methods.flatMap fun plan => plan.dependencies.map casefold
  pure
    { source := model
      catalogGeneration := catalog.revision
      catalogIdentity := catalog.identity
      implicitLocalNames := moduleNames.implicitLocals
      forbiddenGlobalWrites := moduleNames.forbiddenWrites
      methods := methods
      dependencies := inCatalogOrder catalogNames allDependencies }

/-- Catalogs resolved in turn, each with the plan that was resolved last. -/
def resolveInTurn (model : ParsedModuleModel casefold) :
    Option (ResolvedModulePlan casefold) → List CommonModuleCatalogSnapshot →
      List (Except ResolutionError (ResolvedModulePlan casefold))
  | _, [] => []
  | previous, catalog :: rest =>
      match resolveWorkerDependencies model catalog previous with
      | .ok plan => .ok plan :: resolveInTurn model (some plan) rest
      | .error problem => .error problem :: resolveInTurn model previous rest

end OnecRuntime.Dependencies
