import OnecRuntime.Dependencies.Names

/-!
# Resolving a module again

A chain of catalogs is resolved one after another, each with the plan before it.
Names that became implicit locals are frozen from then on, and a name that is
never written is resolved as if there had been no plan before.
-/

namespace OnecRuntime.Dependencies

open OnecRuntime.Library
open OnecRuntime.Bsl (workerPlatformGlobals)
open OnecRuntime.SourceMaps (Text SourceSpan)

variable {casefold : Text → Text}

/-! ## What a resolution returns -/

section Spec

variable (model : ParsedModuleModel casefold) (catalog : CommonModuleCatalogSnapshot)
  (internalMethods : List Text) (previous : Option (ResolvedModulePlan casefold))

def moduleNames : ResolvedNames :=
  resolveNames casefold model.moduleBareNames model.moduleVariables (previousImplicit previous)
    internalMethods (catalogByName casefold catalog)

def methodPlans : List (ResolvedMethodPlan casefold) :=
  model.methods.map (resolveMethod model (catalogByName casefold catalog) internalMethods
    (moduleNames model catalog internalMethods previous).implicitLocals previous)

def planOf : ResolvedModulePlan casefold where
  source := model
  catalogGeneration := catalog.revision
  catalogIdentity := catalog.identity
  implicitLocalNames := (moduleNames model catalog internalMethods previous).implicitLocals
  forbiddenGlobalWrites := (moduleNames model catalog internalMethods previous).forbiddenWrites
  methods := methodPlans model catalog internalMethods previous
  dependencies := inCatalogOrder (catalogByName casefold catalog)
    ((methodPlans model catalog internalMethods previous).flatMap fun plan =>
      plan.dependencies.map casefold)

def moduleScopeDependency : ResolutionError :=
  .admission "common module dependency is unsupported in module scope" "module_scope_dependency"
    ⟨0, 0, SourceMaps.zero_le_zero⟩

/-- A resolution is its checks and then the plan that the names give. -/
theorem resolve_eq :
    resolveWorkerDependencies model catalog previous = (do
      match previous with
      | none => pure ()
      | some plan => checkPrevious model catalog plan
      let internalMethods ← checkMethodNames [] model.methods
      require ((moduleNames model catalog internalMethods previous).dependencies = [])
        moduleScopeDependency
      pure (planOf model catalog internalMethods previous)) := rfl

end Spec

section Inversion

variable {model : ParsedModuleModel casefold} {catalog : CommonModuleCatalogSnapshot}
  {internalMethods : List Text} {previous : Option (ResolvedModulePlan casefold)}
  {plan : ResolvedModulePlan casefold}

theorem resolve_ok (resolved : resolveWorkerDependencies model catalog previous = .ok plan) :
    ∃ internalMethods, checkMethodNames [] model.methods = .ok internalMethods ∧
      plan = planOf model catalog internalMethods previous := by
  rw [resolve_eq] at resolved
  cases previous with
  | none =>
      obtain ⟨names, checked, resolved⟩ := bind_eq_ok.mp resolved
      obtain ⟨_, _, made⟩ := bind_eq_ok.mp resolved
      exact ⟨names, checked, (pure_eq_ok.mp made).symm⟩
  | some before =>
      obtain ⟨_, _, resolved⟩ := bind_eq_ok.mp resolved
      obtain ⟨names, checked, resolved⟩ := bind_eq_ok.mp resolved
      obtain ⟨_, _, made⟩ := bind_eq_ok.mp resolved
      exact ⟨names, checked, (pure_eq_ok.mp made).symm⟩

variable {methods : List (ParsedMethodModel casefold)} {names : List Text}

theorem checkMethodNames_ok {all : List Text}
    (checked : checkMethodNames names methods = .ok all) :
    (methods.map (ParsedMethodModel.normalizedName casefold)).Nodup ∧
      ∀ name ∈ names, name ∉ methods.map (ParsedMethodModel.normalizedName casefold) := by
  induction methods generalizing names with
  | nil => exact ⟨List.nodup_nil, fun _ _ => List.not_mem_nil⟩
  | cons method rest ih =>
      rw [checkMethodNames] at checked
      split_ifs at checked with twice
      obtain ⟨distinct, fresh⟩ := ih checked
      refine ⟨List.nodup_cons.mpr ⟨fresh _ List.mem_cons_self, distinct⟩, ?_⟩
      intro name member
      rw [List.map_cons, List.mem_cons, not_or]
      refine ⟨?_, fresh name (List.mem_cons_of_mem _ member)⟩
      rintro rfl
      exact twice member

/-- The names that are checked are those of the methods. -/
theorem mem_checkMethodNames {all : List Text}
    (checked : checkMethodNames names methods = .ok all) {name : Text} :
    name ∈ all ↔ name ∈ names ∨
      name ∈ methods.map (ParsedMethodModel.normalizedName casefold) := by
  induction methods generalizing names with
  | nil =>
      obtain rfl := Except.ok.inj checked
      simp
  | cons method rest ih =>
      rw [checkMethodNames] at checked
      split_ifs at checked
      rw [ih checked, List.mem_cons, List.map_cons, List.mem_cons]
      tauto

/-- Methods of different names pass the check. -/
theorem checkMethodNames_passes
    (distinct : (methods.map (ParsedMethodModel.normalizedName casefold)).Nodup)
    (fresh : ∀ method ∈ methods, method.normalizedName casefold ∉ names) :
    ∃ all, checkMethodNames names methods = .ok all := by
  induction methods generalizing names with
  | nil => exact ⟨names, rfl⟩
  | cons method rest ih =>
      obtain ⟨apart, restDistinct⟩ := List.nodup_cons.mp distinct
      rw [checkMethodNames, if_neg (fresh method List.mem_cons_self)]
      refine ih restDistinct fun other member => ?_
      rw [List.mem_cons, not_or]
      refine ⟨?_, fresh other (List.mem_cons_of_mem _ member)⟩
      intro same
      exact apart (same ▸ List.mem_map_of_mem member)

end Inversion

/-! ## Plans of one model -/

/-- The implicit names of a scope are names it writes, and they are not reported there. -/
structure ScopeSound (casefold : Text → Text) (bareNames : List BareName)
    (implicit dependencies forbidden : List Text) : Prop where
  written : ∀ name ∈ implicit, Writes casefold bareNames name
  unreported : ∀ name ∈ implicit,
    name ∉ dependencies.map casefold ∧ name ∉ forbidden.map casefold

structure PlanOfModel (model : ParsedModuleModel casefold) (plan : ResolvedModulePlan casefold) :
    Prop where
  source : plan.source = model
  distinct : (model.methods.map (ParsedMethodModel.normalizedName casefold)).Nodup
  module : ScopeSound casefold model.moduleBareNames plan.implicitLocalNames plan.dependencies
    plan.forbiddenGlobalWrites
  sources : plan.methods.map ResolvedMethodPlan.source = model.methods
  methods : ∀ method ∈ plan.methods, ScopeSound casefold method.source.bareNames
    method.implicitLocalNames method.dependencies method.forbiddenGlobalWrites

/-- A scope keeps its implicit names, and none of them is reported later. -/
structure ScopeKeeps (casefold : Text → Text)
    (early implicit dependencies forbidden : List Text) : Prop where
  kept : ∀ name ∈ early, name ∈ implicit
  unreported : ∀ name ∈ early, name ∉ dependencies.map casefold ∧ name ∉ forbidden.map casefold

structure PlanKeeps (early late : ResolvedModulePlan casefold) : Prop where
  module : ScopeKeeps casefold early.implicitLocalNames late.implicitLocalNames late.dependencies
    late.forbiddenGlobalWrites
  methods : List.Forall₂ (fun before after => before.source = after.source ∧
    ScopeKeeps casefold before.implicitLocalNames after.implicitLocalNames after.dependencies
      after.forbiddenGlobalWrites) early.methods late.methods

section Steps

variable {model : ParsedModuleModel casefold} {catalog : CommonModuleCatalogSnapshot}
  {internalMethods : List Text} {previous : Option (ResolvedModulePlan casefold)}
  {plan : ResolvedModulePlan casefold}

/-- A plan of the model freezes the implicit names of each of its methods. -/
theorem PlanOfModel.priorImplicit (sound : PlanOfModel model plan)
    {method : ResolvedMethodPlan casefold} (member : method ∈ plan.methods) :
    priorImplicit (some plan) method.source = method.implicitLocalNames := by
  have distinct : (plan.methods.map fun method =>
      method.source.normalizedName casefold).Nodup := by
    have names := sound.distinct
    rw [← sound.sources, List.map_map] at names
    exact names
  have found : plan.methods.reverse.find? (fun other =>
      other.source.normalizedName casefold = method.source.normalizedName casefold) =
        some method := by
    cases search : plan.methods.reverse.find? (fun other =>
        other.source.normalizedName casefold = method.source.normalizedName casefold) with
    | none =>
        have absent := List.find?_eq_none.mp search method (List.mem_reverse.mpr member)
        simp at absent
    | some other =>
        have same := List.find?_some search
        have inPlan := List.mem_reverse.mp (List.mem_of_find?_eq_some search)
        exact congrArg some
          (List.inj_on_of_nodup_map distinct inPlan member (of_decide_eq_true same))
  simp only [Dependencies.priorImplicit, found]

/-- What was frozen for a method was written by it. -/
theorem priorImplicit_written (before : ∀ plan, previous = some plan → PlanOfModel model plan)
    {method : ParsedMethodModel casefold} (member : method ∈ model.methods) {name : Text}
    (isFrozen : name ∈ priorImplicit previous method) :
    Writes casefold method.bareNames name := by
  cases previous with
  | none => cases isFrozen
  | some plan =>
      have sound := before plan rfl
      rw [← sound.sources] at member
      obtain ⟨methodPlan, inPlan, rfl⟩ := List.mem_map.mp member
      rw [sound.priorImplicit inPlan] at isFrozen
      exact (sound.methods methodPlan inPlan).written name isFrozen

theorem previousImplicit_written (before : ∀ plan, previous = some plan → PlanOfModel model plan)
    {name : Text} (isFrozen : name ∈ previousImplicit previous) :
    Writes casefold model.moduleBareNames name := by
  cases previous with
  | none => cases isFrozen
  | some plan => exact (before plan rfl).module.written name isFrozen

theorem methodPlans_sources :
    (methodPlans model catalog internalMethods previous).map ResolvedMethodPlan.source =
      model.methods := by
  rw [methodPlans, List.map_map]
  exact List.map_id _

/-- An implicit name of the module is no dependency of any method. -/
theorem module_implicit_unreported {name : Text}
    (implicit : name ∈ (moduleNames model catalog internalMethods previous).implicitLocals) :
    name ∉ (planOf model catalog internalMethods previous).dependencies.map casefold := by
  intro reported
  obtain ⟨inAny, _⟩ := mem_map_inCatalogOrder.mp reported
  obtain ⟨methodPlan, inPlans, inMethod⟩ := List.mem_flatMap.mp inAny
  obtain ⟨method, _, rfl⟩ := List.mem_map.mp inPlans
  refine (mem_dependencies.mp inMethod).1 ?_
  simp only [shadows, hardLocals, List.mem_append]
  tauto

/-- A resolution over plans of the model gives a plan of the model. -/
theorem planOf_sound (before : ∀ plan, previous = some plan → PlanOfModel model plan)
    (checked : checkMethodNames [] model.methods = .ok internalMethods) :
    PlanOfModel model (planOf model catalog internalMethods previous) where
  source := rfl
  distinct := (checkMethodNames_ok checked).1
  sources := methodPlans_sources
  module := by
    constructor
    · intro name implicit
      rcases mem_implicitLocals.mp implicit with isFrozen | ⟨_, writes, _⟩
      · exact previousImplicit_written before isFrozen
      · exact writes
    · intro name implicit
      exact ⟨module_implicit_unreported implicit, (implicit_unreported implicit).2⟩
  methods := by
    intro methodPlan inPlans
    obtain ⟨method, member, rfl⟩ := List.mem_map.mp inPlans
    constructor
    · intro name implicit
      rcases mem_implicitLocals.mp implicit with isFrozen | ⟨_, writes, _⟩
      · exact priorImplicit_written before member isFrozen
      · exact writes
    · intro name implicit
      exact implicit_unreported implicit

/-- A resolution keeps what the plan before it has made implicit. -/
theorem planOf_keeps {early : ResolvedModulePlan casefold} (sound : PlanOfModel model early) :
    PlanKeeps early (planOf model catalog internalMethods (some early)) where
  module := by
    constructor
    · exact fun name implicit => mem_implicitLocals.mpr (.inl implicit)
    · intro name implicit
      have kept : name ∈ (moduleNames model catalog internalMethods (some early)).implicitLocals :=
        mem_implicitLocals.mpr (.inl implicit)
      exact ⟨module_implicit_unreported kept, (implicit_unreported kept).2⟩
  methods := by
    change List.Forall₂ _ early.methods (methodPlans model catalog internalMethods (some early))
    rw [methodPlans, ← sound.sources, List.map_map, List.forall₂_map_right_iff,
      List.forall₂_same]
    intro method member
    have prior := sound.priorImplicit member
    refine ⟨rfl, ?_, ?_⟩
    · exact fun name implicit => mem_implicitLocals.mpr (.inl (prior ▸ implicit))
    · exact fun name implicit => (frozen_kept (prior ▸ implicit)).2

end Steps

theorem forall₂_trans {α β γ : Type} {first : α → β → Prop} {second : β → γ → Prop}
    {both : α → γ → Prop} (compose : ∀ a b c, first a b → second b c → both a c) {as : List α}
    {bs : List β} {cs : List γ} (left : List.Forall₂ first as bs)
    (right : List.Forall₂ second bs cs) : List.Forall₂ both as cs := by
  induction left generalizing cs with
  | nil =>
      cases right
      exact .nil
  | cons head _ ih =>
      cases right with
      | cons nextHead rest => exact .cons (compose _ _ _ head nextHead) (ih rest)

/-- What a later plan keeps is kept from an earlier one on. -/
theorem PlanKeeps.trans {early middle late : ResolvedModulePlan casefold}
    (first : PlanKeeps early middle) (second : PlanKeeps middle late) : PlanKeeps early late where
  module :=
    ⟨fun name implicit => second.module.kept name (first.module.kept name implicit),
      fun name implicit => second.module.unreported name (first.module.kept name implicit)⟩
  methods := by
    refine forall₂_trans ?_ first.methods second.methods
    rintro before between after ⟨sameSource, keeps⟩ ⟨sameNext, keepsNext⟩
    exact ⟨sameSource.trans sameNext,
      fun name implicit => keepsNext.kept name (keeps.kept name implicit),
      fun name implicit => keepsNext.unreported name (keeps.kept name implicit)⟩

/-- A plan keeps its own implicit names. -/
theorem PlanOfModel.keeps_self {model : ParsedModuleModel casefold}
    {plan : ResolvedModulePlan casefold} (sound : PlanOfModel model plan) : PlanKeeps plan plan where
  module := ⟨fun _ implicit => implicit, sound.module.unreported⟩
  methods := List.forall₂_same.mpr fun method member =>
    ⟨rfl, fun _ implicit => implicit, (sound.methods method member).unreported⟩

/-! ## Names that are never written -/

section Unwritten

variable (model : ParsedModuleModel casefold)

/-- Neither the module scope nor the method writes the name. -/
def UnwrittenIn (method : ParsedMethodModel casefold) (name : Text) : Prop :=
  ¬ Writes casefold model.moduleBareNames name ∧ ¬ Writes casefold method.bareNames name

/-- The module and none of its methods writes the name. -/
def Unwritten (name : Text) : Prop :=
  ¬ Writes casefold model.moduleBareNames name ∧
    ∀ method ∈ model.methods, ¬ Writes casefold method.bareNames name

instance (method : ParsedMethodModel casefold) : DecidablePred (UnwrittenIn model method) :=
  fun _ => inferInstanceAs (Decidable (_ ∧ _))

instance : DecidablePred (Unwritten model) := fun _ => inferInstanceAs (Decidable (_ ∧ _))

/-- Two plans of one method say the same of the names that a predicate selects. -/
structure MethodAgrees (selected : Text → Bool) (one other : ResolvedMethodPlan casefold) :
    Prop where
  source : one.source = other.source
  localNames : one.localNames.filter selected = other.localNames.filter selected
  implicit : one.implicitLocalNames.filter selected = other.implicitLocalNames.filter selected
  dependencies : one.dependencies.filter (fun name => selected (casefold name)) =
    other.dependencies.filter fun name => selected (casefold name)
  forbidden : one.forbiddenGlobalWrites.filter (fun name => selected (casefold name)) =
    other.forbiddenGlobalWrites.filter fun name => selected (casefold name)

/-- Two plans of the model say the same of every name that is never written. -/
structure PlanAgrees (one other : ResolvedModulePlan casefold) : Prop where
  generation : one.catalogGeneration = other.catalogGeneration
  identity : one.catalogIdentity = other.catalogIdentity
  implicit : one.implicitLocalNames.filter (fun name => Unwritten model name) =
    other.implicitLocalNames.filter fun name => Unwritten model name
  forbidden : one.forbiddenGlobalWrites.filter (fun name => Unwritten model (casefold name)) =
    other.forbiddenGlobalWrites.filter fun name => Unwritten model (casefold name)
  dependencies : one.dependencies.filter (fun name => Unwritten model (casefold name)) =
    other.dependencies.filter fun name => Unwritten model (casefold name)
  methods : List.Forall₂ (fun first second =>
    MethodAgrees (fun name => UnwrittenIn model first.source name) first second)
      one.methods other.methods

end Unwritten

/-- A name of a scope is read only, or it is written. -/
theorem OnlyReads.not_writes {bareNames : List BareName}
    (distinct : (bareNames.map (BareName.normalizedName casefold)).Nodup) {name : Text}
    (reads : OnlyReads casefold bareNames name) : ¬ Writes casefold bareNames name := by
  rintro ⟨writer, writerIn, writerName, writes⟩
  obtain ⟨reader, readerIn, readerName, isRead⟩ := reads
  have same := List.inj_on_of_nodup_map distinct writerIn readerIn
    (writerName.trans readerName.symm)
  rw [same, isRead] at writes
  cases writes

/-- A name that is not frozen is hidden with and without the frozen names. -/
theorem mem_shadows_frozen {hardLocals frozen internalMethods : List Text} {name : Text}
    (notFrozen : name ∉ frozen) :
    name ∈ shadows hardLocals frozen internalMethods ↔
      name ∈ shadows hardLocals [] internalMethods := by
  simp only [shadows, List.mem_append, notFrozen, List.not_mem_nil, or_false]

section Fresh

variable {model : ParsedModuleModel casefold} {catalog : CommonModuleCatalogSnapshot}
  {internalMethods : List Text} {previous : Option (ResolvedModulePlan casefold)}

theorem no_plan_before (plan : ResolvedModulePlan casefold) (isBefore : none = some plan) :
    PlanOfModel model plan := by
  cases isBefore

/-- The dependencies of the module scope are the same with and without a plan before. -/
theorem moduleNames_dependencies
    (before : ∀ plan, previous = some plan → PlanOfModel model plan) :
    (moduleNames model catalog internalMethods previous).dependencies =
      (moduleNames model catalog internalMethods none).dependencies := by
  unfold moduleNames
  rw [resolveNames_dependencies, resolveNames_dependencies]
  apply inCatalogOrder_congr
  intro name
  rw [mem_dependencyNames, mem_dependencyNames]
  refine and_congr_left ?_
  rintro ⟨reads, _⟩
  have notFrozen : name ∉ previousImplicit previous := fun isFrozen =>
    reads.not_writes model.distinct (previousImplicit_written before isFrozen)
  exact not_congr (mem_shadows_frozen notFrozen)

variable {selected : Text → Bool}

theorem filter_unwritten_implicit {bareNames : List BareName} {names : List Text}
    (written : ∀ name ∈ names, Writes casefold bareNames name)
    (unwritten : ∀ name, selected name = true → ¬ Writes casefold bareNames name) :
    names.filter selected = [] := by
  rw [List.filter_eq_nil_iff]
  intro name member isSelected
  exact unwritten name isSelected (written name member)

theorem filter_unwritten_forbidden {bareNames : List BareName}
    {hardLocals frozen : List Text}
    (unwritten : ∀ name, selected name = true → ¬ Writes casefold bareNames name) :
    ((resolveNames casefold bareNames hardLocals frozen internalMethods
      (catalogByName casefold catalog)).forbiddenWrites.filter fun name =>
        selected (casefold name)) = [] := by
  rw [List.filter_eq_nil_iff]
  intro name member isSelected
  have reported := List.mem_map_of_mem (f := casefold) member
  exact unwritten _ isSelected (mem_forbiddenWrites.mp reported).2.1

/-- Sorted names are known by which of the selected names they hold. -/
theorem filter_sortedNames_congr {first second : List Text}
    (same : ∀ name, selected name = true → (name ∈ first ↔ name ∈ second)) :
    (sortedNames first).filter selected = (sortedNames second).filter selected := by
  unfold sortedNames
  rw [filter_sortedBy, filter_sortedBy]
  apply sortedBy_eq_of_perm
  · rw [List.perm_ext_iff_of_nodup (first.nodup_dedup.filter _) (second.nodup_dedup.filter _)]
    intro name
    simp only [List.mem_filter, List.mem_dedup]
    exact and_congr_left (same name)
  · exact fun _ _ _ _ sameKey => sameKey

section Method

variable {method : ParsedMethodModel casefold}

theorem module_implicit_written
    (before : ∀ plan, previous = some plan → PlanOfModel model plan) {name : Text}
    (implicit : name ∈ (moduleNames model catalog internalMethods previous).implicitLocals) :
    Writes casefold model.moduleBareNames name := by
  rcases mem_implicitLocals.mp implicit with isFrozen | ⟨_, writes, _⟩
  · exact previousImplicit_written before isFrozen
  · exact writes

theorem method_implicit_written
    (before : ∀ plan, previous = some plan → PlanOfModel model plan)
    (member : method ∈ model.methods) {moduleImplicit : List Text} {name : Text}
    (implicit : name ∈ (resolveMethod model (catalogByName casefold catalog) internalMethods
      moduleImplicit previous method).implicitLocalNames) :
    Writes casefold method.bareNames name := by
  rcases mem_implicitLocals.mp implicit with isFrozen | ⟨_, writes, _⟩
  · exact priorImplicit_written before member isFrozen
  · exact writes

/-- A name that is not written is hard-local whatever became implicit. -/
theorem mem_hardLocals_unwritten
    (before : ∀ plan, previous = some plan → PlanOfModel model plan) {name : Text}
    (unwritten : ¬ Writes casefold model.moduleBareNames name) :
    name ∈ hardLocals model (moduleNames model catalog internalMethods previous).implicitLocals
        method ↔ name ∈ model.moduleVariables ++ method.declaredNames := by
  have notImplicit : name ∉ (moduleNames model catalog internalMethods previous).implicitLocals :=
    fun implicit => unwritten (module_implicit_written before implicit)
  simp only [hardLocals, List.mem_append, notImplicit, or_false]

end Method

/-- A method's plan says the same of unwritten names with and without a plan before. -/
theorem resolveMethod_agrees
    (before : ∀ plan, previous = some plan → PlanOfModel model plan)
    {method : ParsedMethodModel casefold} (member : method ∈ model.methods) :
    MethodAgrees (fun name => UnwrittenIn model method name)
      (resolveMethod model (catalogByName casefold catalog) internalMethods
        (moduleNames model catalog internalMethods previous).implicitLocals previous method)
      (resolveMethod model (catalogByName casefold catalog) internalMethods
        (moduleNames model catalog internalMethods none).implicitLocals none method) where
  source := rfl
  implicit := by
    have unwritten : ∀ name, decide (UnwrittenIn model method name) = true →
        ¬ Writes casefold method.bareNames name := fun name selected =>
      (of_decide_eq_true selected).2
    rw [filter_unwritten_implicit (fun _ => method_implicit_written before member) unwritten,
      filter_unwritten_implicit
        (fun _ => method_implicit_written no_plan_before member)
        unwritten]
  forbidden := by
    have unwritten : ∀ name, decide (UnwrittenIn model method name) = true →
        ¬ Writes casefold method.bareNames name := fun name selected =>
      (of_decide_eq_true selected).2
    exact (filter_unwritten_forbidden unwritten).trans (filter_unwritten_forbidden unwritten).symm
  localNames := by
    apply filter_sortedNames_congr
    intro name selected
    obtain ⟨inModule, inMethod⟩ := of_decide_eq_true selected
    rw [List.mem_append, List.mem_append, mem_hardLocals_unwritten before inModule,
      mem_hardLocals_unwritten no_plan_before inModule]
    refine or_congr_right ⟨fun implicit => ?_, fun implicit => ?_⟩
    · exact absurd (method_implicit_written before member implicit) inMethod
    · exact absurd (method_implicit_written no_plan_before member
        implicit) inMethod
  dependencies := by
    change List.filter _ (resolveNames ..).dependencies =
      List.filter _ (resolveNames ..).dependencies
    rw [resolveNames_dependencies, resolveNames_dependencies, filter_inCatalogOrder
      (fun name => UnwrittenIn model method name), filter_inCatalogOrder
      (fun name => UnwrittenIn model method name)]
    apply inCatalogOrder_congr
    intro name
    rw [List.mem_filter, List.mem_filter, mem_dependencyNames, mem_dependencyNames]
    refine and_congr_left fun selected => and_congr_left fun _ => not_congr ?_
    obtain ⟨inModule, inMethod⟩ := of_decide_eq_true selected
    have notFrozen : name ∉ priorImplicit previous method := fun isFrozen =>
      inMethod (priorImplicit_written before member isFrozen)
    rw [mem_shadows_frozen notFrozen]
    change name ∈ shadows _ [] _ ↔ name ∈ shadows _ [] _
    simp only [shadows, List.mem_append (s := _ ++ _), List.mem_append (s := hardLocals ..)]
    rw [mem_hardLocals_unwritten before inModule,
      mem_hardLocals_unwritten no_plan_before inModule]

theorem MethodAgrees.symm {one other : ResolvedMethodPlan casefold}
    (agrees : MethodAgrees selected one other) : MethodAgrees selected other one :=
  ⟨agrees.source.symm, agrees.localNames.symm, agrees.implicit.symm, agrees.dependencies.symm,
    agrees.forbidden.symm⟩

theorem MethodAgrees.mem_dependencies
    {one other : ResolvedMethodPlan casefold} (agrees : MethodAgrees selected one other)
    {name : Text} (isSelected : selected name = true)
    (member : name ∈ one.dependencies.map casefold) : name ∈ other.dependencies.map casefold := by
  obtain ⟨canonical, inOne, rfl⟩ := List.mem_map.mp member
  have kept : canonical ∈ one.dependencies.filter fun name => selected (casefold name) :=
    List.mem_filter.mpr ⟨inOne, isSelected⟩
  rw [agrees.dependencies] at kept
  exact List.mem_map_of_mem (List.mem_of_mem_filter kept)

/-- A plan says the same of unwritten names with and without a plan before. -/
theorem planOf_agrees (before : ∀ plan, previous = some plan → PlanOfModel model plan) :
    PlanAgrees model (planOf model catalog internalMethods previous)
      (planOf model catalog internalMethods none) where
  generation := rfl
  identity := rfl
  implicit := by
    have unwritten : ∀ name, decide (Unwritten model name) = true →
        ¬ Writes casefold model.moduleBareNames name := fun name selected =>
      (of_decide_eq_true selected).1
    refine (filter_unwritten_implicit (fun _ => module_implicit_written before)
      unwritten).trans (filter_unwritten_implicit (fun _ =>
        module_implicit_written no_plan_before) unwritten).symm
  forbidden := by
    have unwritten : ∀ name, decide (Unwritten model name) = true →
        ¬ Writes casefold model.moduleBareNames name := fun name selected =>
      (of_decide_eq_true selected).1
    exact (filter_unwritten_forbidden unwritten).trans (filter_unwritten_forbidden unwritten).symm
  methods := by
    change List.Forall₂ _ (methodPlans ..) (methodPlans ..)
    unfold methodPlans
    rw [List.forall₂_map_left_iff, List.forall₂_map_right_iff, List.forall₂_same]
    exact fun method member => resolveMethod_agrees before member
  dependencies := by
    change List.filter _ (inCatalogOrder ..) = List.filter _ (inCatalogOrder ..)
    rw [filter_inCatalogOrder (fun name => Unwritten model name),
      filter_inCatalogOrder (fun name => Unwritten model name)]
    apply inCatalogOrder_congr
    intro name
    rw [List.mem_filter, List.mem_filter]
    refine and_congr_left fun selected => ?_
    obtain ⟨inModule, inMethods⟩ := of_decide_eq_true selected
    unfold methodPlans
    rw [List.flatMap_map, List.flatMap_map, List.mem_flatMap, List.mem_flatMap]
    refine exists_congr fun method => and_congr_right fun member => ?_
    have agrees := @resolveMethod_agrees _ _ catalog internalMethods _ before _ member
    have isSelected : decide (UnwrittenIn model method name) = true :=
      decide_eq_true ⟨inModule, inMethods method member⟩
    exact ⟨agrees.mem_dependencies isSelected, agrees.symm.mem_dependencies isSelected⟩

end Fresh

/-! ## Catalogs in turn -/

section Turns

variable (model : ParsedModuleModel casefold)

/-- Two resolutions fail alike, or give plans that say the same of unwritten names. -/
inductive ResultAgrees : Except ResolutionError (ResolvedModulePlan casefold) →
    Except ResolutionError (ResolvedModulePlan casefold) → Prop where
  | failed (problem : ResolutionError) : ResultAgrees (.error problem) (.error problem)
  | planned {one other : ResolvedModulePlan casefold} :
      PlanAgrees model one other → ResultAgrees (.ok one) (.ok other)

/-- A plan of the model for a catalog of the same profile and an older revision. -/
structure Precedes (plan : ResolvedModulePlan casefold) (catalog : CommonModuleCatalogSnapshot) :
    Prop where
  profile : plan.catalogIdentity.profile = catalog.profile
  preprocessorProfile : plan.catalogIdentity.preprocessorProfile = catalog.preprocessorProfile
  older : plan.catalogGeneration < catalog.revision

variable {model} {catalog : CommonModuleCatalogSnapshot}
  {previous : Option (ResolvedModulePlan casefold)}

theorem checkPrevious_passes {plan : ResolvedModulePlan casefold} (sound : PlanOfModel model plan)
    (precedes : Precedes plan catalog) : checkPrevious model catalog plan = .ok () := by
  have otherIdentity : ¬ (plan.catalogGeneration = catalog.revision ∧
      plan.catalogIdentity ≠ catalog.identity) := fun same => precedes.older.ne same.1
  unfold checkPrevious
  rw [sound.source, require_of_holds ⟨rfl, rfl⟩,
    require_of_holds ⟨precedes.profile, precedes.preprocessorProfile⟩,
    require_of_holds precedes.older.le, require_of_holds otherIdentity]
  rfl

/-- One resolution agrees with the one that has no plan before. -/
theorem resolve_agrees (before : ∀ plan, previous = some plan → PlanOfModel model plan)
    (precedes : ∀ plan, previous = some plan → Precedes plan catalog) :
    ResultAgrees model (resolveWorkerDependencies model catalog previous)
      (resolveWorkerDependencies model catalog none) := by
  have checks : resolveWorkerDependencies model catalog previous =
      checkMethodNames [] model.methods >>= fun internalMethods =>
        require ((moduleNames model catalog internalMethods previous).dependencies = [])
          moduleScopeDependency >>= fun _ =>
            pure (planOf model catalog internalMethods previous) := by
    cases previous with
    | none => rfl
    | some plan =>
        rw [resolve_eq]
        simp only [checkPrevious_passes (before plan rfl) (precedes plan rfl)]
        rfl
  have fresh : resolveWorkerDependencies model catalog none =
      checkMethodNames [] model.methods >>= fun internalMethods =>
        require ((moduleNames model catalog internalMethods none).dependencies = [])
          moduleScopeDependency >>= fun _ =>
            pure (planOf model catalog internalMethods none) := rfl
  rw [checks, fresh]
  cases checkMethodNames [] model.methods with
  | error problem => exact .failed problem
  | ok internalMethods =>
      rw [ok_bind, ok_bind, moduleNames_dependencies before]
      by_cases empty : (moduleNames model catalog internalMethods none).dependencies = []
      · rw [require_of_holds empty]
        exact .planned (planOf_agrees before)
      · rw [require_of_fails empty]
        exact .failed moduleScopeDependency

/-- What became implicit before stays so in the plans that are resolved, in their order. -/
theorem resolveInTurn_keeps (before : ∀ plan, previous = some plan → PlanOfModel model plan)
    (catalogs : List CommonModuleCatalogSnapshot) :
    (∀ early, previous = some early → ∀ late, .ok late ∈ resolveInTurn model previous catalogs →
        PlanKeeps early late) ∧
      (resolveInTurn model previous catalogs).Pairwise (fun first second =>
        ∀ early late, first = .ok early → second = .ok late → PlanKeeps early late) ∧
      ∀ plan, .ok plan ∈ resolveInTurn model previous catalogs → PlanKeeps plan plan := by
  induction catalogs generalizing previous with
  | nil =>
      refine ⟨?_, .nil, ?_⟩
      · intro early isBefore late impossible
        cases impossible
      · intro plan impossible
        cases impossible
  | cons catalog rest ih =>
      rw [resolveInTurn]
      cases resolved : resolveWorkerDependencies model catalog previous with
      | error problem =>
          obtain ⟨fromBefore, inOrder, themselves⟩ := ih before
          refine ⟨?_, List.pairwise_cons.mpr ⟨?_, inOrder⟩, ?_⟩
          · rintro early isBefore late (_ | ⟨_, later⟩)
            exact fromBefore early isBefore late later
          · rintro _ _ early _ impossible
            cases impossible
          · rintro plan (_ | ⟨_, later⟩)
            exact themselves plan later
      | ok plan =>
          obtain ⟨internalMethods, checked, rfl⟩ := resolve_ok resolved
          have sound := @planOf_sound _ _ catalog _ _ before checked
          obtain ⟨fromPlan, inOrder, themselves⟩ :=
            ih fun other isPlan => Option.some.inj isPlan ▸ sound
          have kept : ∀ early, previous = some early →
              PlanKeeps early (planOf model catalog internalMethods previous) := by
            rintro early rfl
            exact planOf_keeps (before early rfl)
          refine ⟨?_, List.pairwise_cons.mpr ⟨?_, inOrder⟩, ?_⟩
          · rintro early isBefore late (_ | ⟨_, later⟩)
            · exact kept early isBefore
            · exact (kept early isBefore).trans (fromPlan _ rfl late later)
          · rintro result member early late isFirst rfl
            cases isFirst
            exact fromPlan _ rfl late member
          · rintro other (_ | ⟨_, later⟩)
            · exact sound.keeps_self
            · exact themselves other later

/-- A later catalog of the same profile. -/
structure CatalogFollows (early late : CommonModuleCatalogSnapshot) : Prop where
  profile : early.profile = late.profile
  preprocessorProfile : early.preprocessorProfile = late.preprocessorProfile
  newer : early.revision < late.revision

/-- Catalogs of one profile in turn are resolved as if each were the first one. -/
theorem resolveInTurn_agrees (before : ∀ plan, previous = some plan → PlanOfModel model plan)
    {catalogs : List CommonModuleCatalogSnapshot}
    (precedes : ∀ plan, previous = some plan → ∀ catalog ∈ catalogs, Precedes plan catalog)
    (inTurn : catalogs.Pairwise CatalogFollows) :
    List.Forall₂ (fun catalog result =>
        ResultAgrees model result (resolveWorkerDependencies model catalog none))
      catalogs (resolveInTurn model previous catalogs) := by
  induction catalogs generalizing previous with
  | nil => exact .nil
  | cons catalog rest ih =>
      obtain ⟨follows, restInTurn⟩ := List.pairwise_cons.mp inTurn
      have agrees := resolve_agrees before fun plan isBefore =>
        precedes plan isBefore catalog List.mem_cons_self
      rw [resolveInTurn]
      cases resolved : resolveWorkerDependencies model catalog previous with
      | error problem =>
          rw [resolved] at agrees
          exact .cons agrees (ih before (fun plan isBefore later member =>
            precedes plan isBefore later (List.mem_cons_of_mem _ member)) restInTurn)
      | ok plan =>
          rw [resolved] at agrees
          refine .cons agrees (ih ?_ ?_ restInTurn)
          · intro other isPlan
            cases isPlan
            obtain ⟨internalMethods, checked, rfl⟩ := resolve_ok resolved
            exact planOf_sound before checked
          · intro other isPlan later member
            cases isPlan
            obtain ⟨internalMethods, _, rfl⟩ := resolve_ok resolved
            have next := follows later member
            exact ⟨next.profile, next.preprocessorProfile, next.newer⟩

end Turns

/-- An implicit local is never taken away, and unwritten names are resolved afresh. -/
theorem implicit_locals_stable (model : ParsedModuleModel casefold)
    (catalogs : List CommonModuleCatalogSnapshot) (inTurn : catalogs.Pairwise CatalogFollows) :
    (resolveInTurn model none catalogs).Pairwise (fun first second =>
        ∀ early late, first = .ok early → second = .ok late → PlanKeeps early late) ∧
      (∀ plan, .ok plan ∈ resolveInTurn model none catalogs → PlanKeeps plan plan) ∧
      List.Forall₂ (fun catalog result =>
          ResultAgrees model result (resolveWorkerDependencies model catalog none))
        catalogs (resolveInTurn model none catalogs) := by
  obtain ⟨_, inOrder, themselves⟩ := resolveInTurn_keeps no_plan_before catalogs
  exact ⟨inOrder, themselves, resolveInTurn_agrees no_plan_before
    (fun _ isBefore => nomatch isBefore) inTurn⟩

/-- A method that writes a name which the second of two catalogs adds as a module. -/
def writingModel : ParsedModuleModel id where
  sourceSha256 := ""
  moduleVariables := []
  moduleBareNames := []
  methods := [{
    name := "run".toList
    exported := true
    declarationSpan := ⟨0, 0, SourceMaps.zero_le_zero⟩
    aliasDeclarationOffset := 0
    aliasInitializerOffset := 0
    declaredNames := []
    bareNames := [⟨"total".toList, .bareWrite⟩]
    distinct := List.nodup_singleton _ }]
  parserIdentity := ("", "")
  distinct := List.nodup_nil

def emptyCatalog : CommonModuleCatalogSnapshot := ⟨"server", "server", 1, [], "a"⟩

def grownCatalog : CommonModuleCatalogSnapshot :=
  ⟨"server", "server", 2, [⟨"total".toList, .server⟩], "b"⟩

theorem implicit_locals_stable_grown :
    [emptyCatalog, grownCatalog].Pairwise CatalogFollows ∧
      ∃ early late, resolveInTurn writingModel none [emptyCatalog, grownCatalog] =
        [.ok early, .ok late] ∧ PlanKeeps early late ∧
          early.methods.map ResolvedMethodPlan.implicitLocalNames = [["total".toList]] := by
  have inTurn : [emptyCatalog, grownCatalog].Pairwise CatalogFollows := by
    refine List.pairwise_cons.mpr ⟨?_, List.pairwise_singleton _ _⟩
    rintro catalog member
    obtain rfl := List.mem_singleton.mp member
    exact ⟨rfl, rfl, by decide⟩
  obtain ⟨keeps, _⟩ := implicit_locals_stable writingModel _ inTurn
  refine ⟨inTurn, _, _, rfl, ?_, by decide⟩
  exact (List.pairwise_cons.mp keeps).1 _ (List.mem_singleton.mpr rfl) _ _ rfl rfl

end OnecRuntime.Dependencies
