import OnecRuntime.Dependencies.Stability
import OnecRuntime.Projection.Walk

/-!
# Dependencies of a syntax tree

The facts of a scope are exactly the names that occur in it, and a method depends
on exactly the catalog modules that it reads, does not write, and that nothing
hides.
-/

namespace OnecRuntime.Projection

open OnecRuntime.Library
open OnecRuntime.Bsl (Node Field NodeClass Token workerPlatformGlobals)
open OnecRuntime.Dependencies
open OnecRuntime.SourceMaps (Text SourceSpan)

variable {casefold : Text → Text}

/-! ## The facts of a scope -/

section Facts

variable {roots : List Node}

/-- Some use of the scope reads the name. -/
def ReadsBare (casefold : Text → Text) (bareNames : List BareName) (name : Text) : Prop :=
  ∃ item ∈ bareNames, item.normalizedName casefold = name ∧ item.kinds.reads = true

/-- The facts are the names that occur in the trees, with the ways in which they occur. -/
structure ExactFacts (roots : List Node) (facts : ScopeFacts casefold) : Prop where
  names : ∀ name, name ∈ facts.bareNames.map (BareName.normalizedName casefold) ↔
    Somewhere roots (IsChainOf casefold name)
  written : ∀ name, Dependencies.Writes casefold facts.bareNames name ↔
    WritesName casefold name roots
  read : ∀ name, ReadsBare casefold facts.bareNames name ↔ ReadsName casefold name roots
  declared : ∀ name, name ∈ facts.declaredNames ↔ DeclaresName casefold name roots

/-- A name of the facts has the flags of its entry. -/
theorem facts_flag (state : WalkState casefold) (flag : BareNameKind → Bool) (name : Text) :
    (∃ item ∈ state.facts.bareNames, item.normalizedName casefold = name ∧
        flag item.kinds = true) ↔
      ∃ fact, state.names.get? name = some fact ∧ flag fact.kinds = true := by
  constructor
  · rintro ⟨item, member, rfl, flagged⟩
    obtain ⟨⟨key, fact⟩, inNames, rfl⟩ := List.mem_map.mp member
    have found := WalkState.mem_orderedNames.mp inNames
    refine ⟨fact, ?_, flagged⟩
    rw [BareName.normalizedName, bareNameOf, state.spelled _ _ found]
    exact found
  · rintro ⟨fact, found, flagged⟩
    have inNames : (name, fact) ∈ state.orderedNames := WalkState.mem_orderedNames.mpr found
    exact ⟨_, List.mem_map_of_mem inNames, state.spelled _ _ found, flagged⟩

/-- A node of a tree is its root or stands among the children of another one. -/
theorem preorder_parent {root node : Node} (member : node ∈ root.preorder) :
    node = root ∨ ∃ parent ∈ root.preorder, node ∈ parent.children := by
  induction root using Node.children_descend.induction with
  | step root ih =>
      rcases Node.mem_preorder.mp member with same | ⟨child, isChild, below⟩
      · exact .inl same
      · rcases ih child isChild below with rfl | ⟨parent, inChild, isPart⟩
        · exact .inr ⟨root, root.self_mem_preorder, isChild⟩
        · exact .inr ⟨parent, Node.preorder_trans (Node.child_mem_preorder isChild) inChild, isPart⟩

/-- Every chain is read, or it is what a statement assigns. -/
theorem chain_read_or_written (grammar : ∀ root ∈ roots, OfGrammar root) {name : Text} :
    Somewhere roots (IsChainOf casefold name) ↔
      ReadsName casefold name roots ∨ WritesName casefold name roots := by
  constructor
  · rintro ⟨root, inRoots, chain, member, isChain⟩
    rcases preorder_parent member with rfl | ⟨parent, inRoot, isPart⟩
    · exact .inl (.inl ⟨chain, inRoots, isChain⟩)
    · by_cases assigns : isAssignment parent
      · obtain ⟨target, found, _, _, children⟩ := statement_fields
          ((grammar root inRoots).below inRoot) (isAssignment_kind assigns)
        rw [children] at isPart
        rcases List.mem_cons.mp isPart with rfl | inValue
        · exact .inr ⟨root, inRoots, parent, inRoot, assigns, chain, found, isChain.2⟩
        · refine .inl (.inr ⟨root, inRoots, parent, inRoot, chain, ?_, isChain⟩)
          rw [otherParts, if_pos assigns]
          exact inValue
      · refine .inl (.inr ⟨root, inRoots, parent, inRoot, chain, ?_, isChain⟩)
        rw [otherParts, if_neg assigns]
        exact isPart
  · rintro ((⟨root, inRoots, isChain⟩ | ⟨root, inRoots, parent, inRoot, chain, isPart, isChain⟩) |
      ⟨root, inRoots, statement, inRoot, assigns, target, found, isName⟩)
    · exact ⟨root, inRoots, root, root.self_mem_preorder, isChain⟩
    · refine ⟨root, inRoots, chain, Node.preorder_trans inRoot (Node.child_mem_preorder ?_),
        isChain⟩
      unfold otherParts at isPart
      split_ifs at isPart
      · exact Node.mem_children isPart
      · exact isPart
    · obtain ⟨other, same, isChain, _⟩ := statement_fields
        ((grammar root inRoots).below inRoot) (isAssignment_kind assigns)
      obtain rfl := Option.some.inj (found.symm.trans same)
      exact ⟨root, inRoots, target, Node.preorder_trans inRoot
        (Node.child_mem_preorder (node?_child found)), isChain, isName⟩

/-- Without a bare chain the facts of a scope are exact. -/
theorem collect_exact (grammar : ∀ root ∈ roots, OfGrammar root)
    (clean : ¬ Somewhere roots IsBare) :
    ∃ facts, collectScopeFacts casefold roots = .ok facts ∧ ExactFacts roots facts := by
  rcases @collect_cases casefold roots grammar with ⟨_, collected⟩ | ⟨node, member, bare, _⟩
  · have written : ∀ name, Dependencies.Writes casefold (walked casefold roots).facts.bareNames
        name ↔ WritesName casefold name roots := fun name =>
      (facts_flag _ BareNameKind.writes name).trans (walked_writes grammar clean)
    have read : ∀ name, ReadsBare casefold (walked casefold roots).facts.bareNames
        name ↔ ReadsName casefold name roots := fun name =>
      (facts_flag _ BareNameKind.reads name).trans (walked_reads grammar clean)
    refine ⟨_, collected, ?_, written, read, ?_⟩
    · intro name
      rw [chain_read_or_written grammar, ← written, ← read]
      constructor
      · intro member
        obtain ⟨item, inNames, rfl⟩ := List.mem_map.mp member
        cases kinds : item.kinds with
        | read => exact .inl ⟨item, inNames, rfl, by rw [kinds]; rfl⟩
        | bareWrite | both => exact .inr ⟨item, inNames, rfl, by rw [kinds]; rfl⟩
      · rintro (⟨item, inNames, rfl, _⟩ | ⟨item, inNames, rfl, _⟩)
        · exact List.mem_map_of_mem inNames
        · exact List.mem_map_of_mem inNames
    · intro name
      exact mem_sortedNames.trans (walked_declares grammar clean)
  · exact absurd ((bare_reached grammar).mp ⟨node, member, bare⟩) clean

/-- With a bare chain the facts are refused. -/
theorem collect_refused (grammar : ∀ root ∈ roots, OfGrammar root)
    (bare : Somewhere roots IsBare) :
    ∃ statement target, (∃ root ∈ roots, statement ∈ root.preorder) ∧ IsBare statement ∧
      statement.node? 0 = some target ∧
        collectScopeFacts casefold roots = .error (bareChainError target) := by
  rcases @collect_cases casefold roots grammar with
    ⟨noBare, _⟩ | ⟨node, member, isBare, target, found, refused⟩
  · obtain ⟨node, member, isBare⟩ := (bare_reached grammar).mpr bare
    exact absurd isBare (noBare node member)
  · refine ⟨node, target, ?_, isBare, found, refused⟩
    refine @good_of_reached _ _ _ parts_descend
      (fun node => ∃ root ∈ roots, node ∈ root.preorder) ?_ _ ?_ _ member
    · rintro middle ⟨root, inRoots, inRoot⟩ part isPart
      exact ⟨root, inRoots, Node.preorder_trans inRoot (parts_mem isPart)⟩
    · exact fun root inRoots => ⟨root, inRoots, root.self_mem_preorder⟩

end Facts

/-! ## The model of a module -/

section Module

variable {sourceSha256 : String} {parserIdentity : String × String} {tokens : List Token}
  {root : Node} {model : ParsedModuleModel casefold}

/-- A method of the model carries the facts of its declaration. -/
structure MethodOf (method : Node) (parsed : ParsedMethodModel casefold) (declaration : Node) :
    Prop where
  declares : method.node? 2 = some declaration
  named : parsed.name = nameAt declaration 0
  written : ∀ name, Dependencies.Writes casefold parsed.bareNames name ↔
    WritesName casefold name [declaration]
  read : ∀ name, ReadsBare casefold parsed.bareNames name ↔ ReadsName casefold name [declaration]
  declared : ∀ name, name ∈ parsed.declaredNames ↔ DeclaresName casefold name [declaration]

theorem facts_exact {roots : List Node} {facts : ScopeFacts casefold}
    (grammar : ∀ root ∈ roots, OfGrammar root)
    (collected : collectScopeFacts casefold roots = .ok facts) : ExactFacts roots facts := by
  have clean : ¬ Somewhere roots IsBare := by
    intro bare
    obtain ⟨_, _, _, _, _, refused⟩ := @collect_refused casefold roots grammar bare
    rw [collected] at refused
    cases refused
  obtain ⟨others, again, exact_⟩ := @collect_exact casefold roots grammar clean
  obtain rfl := Except.ok.inj (collected.symm.trans again)
  exact exact_

theorem methodParts_ok {method declaration body : Node}
    (parts : methodParts method = .ok (declaration, body)) :
    method.node? 2 = some declaration := by
  unfold methodParts at parts
  cases found : method.node? 2 with
  | none =>
      rw [found] at parts
      cases parts
  | some other =>
      rw [found] at parts
      obtain ⟨_, _, parts⟩ := bind_eq_ok.mp parts
      cases held : other.node? 3 with
      | none =>
          rw [held] at parts
          cases parts
      | some inside =>
          rw [held] at parts
          obtain ⟨_, _, same⟩ := bind_eq_ok.mp parts
          exact congrArg some (Prod.mk.inj (pure_eq_ok.mp same)).1

theorem projectMethod_exact {method : Node} {parsed : ParsedMethodModel casefold}
    (grammar : OfGrammar method) (projected : projectMethod casefold tokens method = .ok parsed) :
    ∃ declaration, MethodOf method parsed declaration := by
  obtain ⟨⟨declaration, body⟩, isParts, projected⟩ := bind_eq_ok.mp projected
  obtain ⟨scope, collected, projected⟩ := bind_eq_ok.mp projected
  obtain ⟨_, _, projected⟩ := bind_eq_ok.mp projected
  obtain ⟨_, _, projected⟩ := bind_eq_ok.mp projected
  obtain ⟨_, _, projected⟩ := bind_eq_ok.mp projected
  obtain rfl := pure_eq_ok.mp projected
  have found := methodParts_ok isParts
  have scopeGrammar : ∀ root ∈ [declaration], OfGrammar root := by
    intro root member
    obtain rfl := List.mem_singleton.mp member
    exact grammar.child (node?_child found)
  have exact_ := facts_exact scopeGrammar collected
  exact ⟨declaration, found, rfl, exact_.written, exact_.read, exact_.declared⟩

theorem linkedItems_below {carrier : NodeClass} {fuel : Nat} {node : Node} :
    ∀ item ∈ linkedItems carrier fuel node, item ∈ node.preorder := by
  induction fuel generalizing node with
  | zero =>
      intro item member
      cases member
  | succ fuel ih =>
      intro item member
      rw [linkedItems] at member
      split_ifs at member
      · rcases List.mem_append.mp member with isItem | inRest
        · exact Node.child_mem_preorder (node?_child (Option.mem_toList.mp isItem))
        · cases found : node.node? 1 with
          | none =>
              rw [found] at inRest
              cases inRest
          | some rest =>
              rw [found] at inRest
              exact Node.preorder_trans (Node.child_mem_preorder (node?_child found))
                (ih item inRest)
      · obtain rfl := List.mem_singleton.mp member
        exact item.self_mem_preorder

theorem moduleItems_grammar (grammar : OfGrammar root) :
    ∀ item ∈ moduleItems root, OfGrammar item := by
  intro item member
  unfold moduleItems at member
  cases found : root.node? 1 with
  | none =>
      rw [found] at member
      cases member
  | some elements =>
      rw [found] at member
      exact (grammar.child (node?_child found)).below (linkedItems_below item member)

/-- The model of a module carries the facts of its body and of its methods. -/
structure ModelOf (root : Node) (model : ParsedModuleModel casefold) : Prop where
  methods : List.Forall₂ (fun method parsed => ∃ declaration, MethodOf method parsed declaration)
    (methodNodes root) model.methods
  written : ∀ name, Dependencies.Writes casefold model.moduleBareNames name ↔
    WritesName casefold name (moduleRoots root)
  read : ∀ name, ReadsBare casefold model.moduleBareNames name ↔
    ReadsName casefold name (moduleRoots root)
  hidden : ∀ name, name ∈ model.moduleVariables ↔
    name ∈ declaredVariables casefold root ∨ DeclaresName casefold name (moduleRoots root)

theorem projectFullAstModule_exact (grammar : OfGrammar root)
    (projected : projectFullAstModule casefold sourceSha256 parserIdentity tokens root =
      .ok model) : ModelOf root model := by
  obtain ⟨_, _, projected⟩ := bind_eq_ok.mp projected
  obtain ⟨scope, collected, projected⟩ := bind_eq_ok.mp projected
  obtain ⟨methods, parsed, projected⟩ := bind_eq_ok.mp projected
  obtain rfl := pure_eq_ok.mp projected
  have items := moduleItems_grammar grammar
  have exact_ : ExactFacts (moduleRoots root) scope := facts_exact
    (fun item member => items item (List.mem_of_mem_filter member)) collected
  refine ⟨?_, exact_.written, exact_.read, ?_⟩
  · have methodItems : ∀ method ∈ methodNodes root, OfGrammar method :=
      fun method member => items method (List.mem_of_mem_filter member)
    exact ((List.forall₂_and_left _ _).mpr ⟨methodItems, mapM_eq_ok.mp parsed⟩).imp
      fun method result found => projectMethod_exact found.1 found.2
  · intro name
    rw [mem_sortedNames, List.mem_append, exact_.declared]

end Module

/-! ## The dependencies of a method -/

section Dependency

variable (casefold) in
def InCatalog (catalog : CommonModuleCatalogSnapshot) (name : Text) : Prop :=
  ∃ descriptor ∈ catalog.modules, casefold descriptor.canonicalName = name

variable {catalog : CommonModuleCatalogSnapshot} {name : Text}

theorem catalogByName_isSome :
    ((catalogByName casefold catalog).get? name).isSome = true ↔
      InCatalog casefold catalog name := by
  have turn : ∀ item ∈ catalog.modules.map fun descriptor =>
      (casefold descriptor.canonicalName, descriptor),
      ∀ dictionary : Dictionary Text CommonModuleDescriptor,
        ((dictionary.set item.1 item.2).get? name).isSome = true ↔
          (dictionary.get? name).isSome = true ∨ item.1 = name := by
    intro item _ dictionary
    by_cases same : item.1 = name
    · subst same
      simp
    · rw [Dictionary.get?_set_other _ _ fun other => same other.symm]
      simp [same]
  have folded := @foldl_holds (Text × CommonModuleDescriptor)
    (Dictionary Text CommonModuleDescriptor)
    (fun dictionary item => dictionary.set item.1 item.2)
    (fun dictionary => (dictionary.get? name).isSome = true) _ _ .empty turn
  refine folded.trans ?_
  unfold InCatalog
  simp [Dictionary.empty, Dictionary.get?]

/-- A scope reads a name only, where it reads it and does not write it. -/
theorem onlyReads_iff {bareNames : List BareName}
    (distinct : (bareNames.map (BareName.normalizedName casefold)).Nodup) :
    OnlyReads casefold bareNames name ↔
      ReadsBare casefold bareNames name ∧ ¬ Dependencies.Writes casefold bareNames name := by
  constructor
  · intro reads
    refine ⟨?_, reads.not_writes distinct⟩
    obtain ⟨item, member, same, kinds⟩ := reads
    exact ⟨item, member, same, by rw [kinds]; rfl⟩
  · rintro ⟨⟨item, member, same, _⟩, notWritten⟩
    refine ⟨item, member, same, ?_⟩
    cases kinds : item.kinds with
    | read => rfl
    | bareWrite | both =>
        exact absurd ⟨item, member, same, by rw [kinds]; rfl⟩ notWritten

theorem exists_forall₂ {α β : Type} {relation : α → β → Prop} {first : α → Prop} {second : β → Prop}
    {as : List α} {bs : List β} (related : List.Forall₂ relation as bs)
    (same : ∀ a b, relation a b → (first a ↔ second b)) :
    (∃ a ∈ as, first a) ↔ ∃ b ∈ bs, second b := by
  induction related with
  | nil => simp
  | cons head _ ih => rw [List.exists_mem_cons_iff, List.exists_mem_cons_iff, same _ _ head, ih]

/-- The name of a method of the module. -/
def IsMethodName (casefold : Text → Text) (root : Node) (name : Text) : Prop :=
  ∃ method ∈ methodNodes root,
    ∃ declaration, method.node? 2 = some declaration ∧ casefold (nameAt declaration 0) = name

instance (root : Node) (name : Text) : Decidable (IsMethodName casefold root name) :=
  inferInstanceAs (Decidable (∃ _ ∈ _, _))

/-- Nothing hides a module of the catalog from a method. -/
structure Visible (root declaration : Node) (plan : ResolvedModulePlan casefold)
    (methodPlan : ResolvedMethodPlan casefold) (name : Text) : Prop where
  undeclared : ¬ DeclaresName casefold name [declaration]
  noVariable : name ∉ declaredVariables casefold root
  noModuleLocal : ¬ DeclaresName casefold name (moduleRoots root)
  noModuleImplicit : name ∉ plan.implicitLocalNames
  noMethodImplicit : name ∉ methodPlan.implicitLocalNames
  noMethod : ¬ IsMethodName casefold root name
  noPlatformGlobal : name ∉ workerPlatformGlobals

variable {root : Node} {model : ParsedModuleModel casefold}
  {previous : Option (ResolvedModulePlan casefold)} {plan : ResolvedModulePlan casefold}

theorem mem_methodNames (of : ModelOf root model) :
    name ∈ model.methods.map (ParsedMethodModel.normalizedName casefold) ↔
      IsMethodName casefold root name := by
  rw [List.mem_map]
  refine (exists_forall₂ of.methods ?_).symm
  rintro method parsed ⟨declaration, isMethod⟩
  unfold ParsedMethodModel.normalizedName
  rw [isMethod.declares, isMethod.named]
  simp

/-- A method depends on the catalog modules that it reads, does not write and that are visible. -/
theorem depends_iff (of : ModelOf root model) {internalMethods : List Text}
    (checked : checkMethodNames [] model.methods = .ok internalMethods)
    {method declaration : Node} {parsed : ParsedMethodModel casefold}
    (isMethod : MethodOf method parsed declaration) :
    let plan := planOf model catalog internalMethods previous
    let methodPlan := resolveMethod model (catalogByName casefold catalog) internalMethods
      plan.implicitLocalNames previous parsed
    name ∈ methodPlan.dependencies.map casefold ↔
      InCatalog casefold catalog name ∧ ReadsName casefold name [declaration] ∧
        ¬ WritesName casefold name [declaration] ∧
          Visible root declaration plan methodPlan name := by
  intro plan methodPlan
  have internal : name ∈ internalMethods ↔ IsMethodName casefold root name := by
    rw [mem_checkMethodNames checked, ← mem_methodNames of]
    simp
  have frozen : InCatalog casefold catalog name →
      (name ∈ methodPlan.implicitLocalNames ↔ name ∈ priorImplicit previous parsed) := by
    intro stored
    refine mem_implicitLocals.trans (or_iff_left ?_)
    rintro ⟨_, _, absent⟩
    rw [← catalogByName_isSome, absent] at stored
    cases stored
  have hides : InCatalog casefold catalog name →
      (name ∉ shadows (hardLocals model plan.implicitLocalNames parsed)
          (priorImplicit previous parsed) internalMethods ↔
        Visible root declaration plan methodPlan name) := by
    intro stored
    simp only [shadows, hardLocals, List.mem_append, not_or, of.hidden, isMethod.declared,
      internal, ← frozen stored]
    constructor
    · rintro ⟨⟨⟨⟨⟨⟨noVariable, noLocal⟩, noImplicit⟩, undeclared⟩, noPrior⟩, noMethod⟩, noGlobal⟩
      exact ⟨undeclared, noVariable, noLocal, noImplicit, noPrior, noMethod, noGlobal⟩
    · intro visible
      exact ⟨⟨⟨⟨⟨⟨visible.noVariable, visible.noModuleLocal⟩, visible.noModuleImplicit⟩,
        visible.undeclared⟩, visible.noMethodImplicit⟩, visible.noMethod⟩,
        visible.noPlatformGlobal⟩
  refine mem_dependencies.trans ?_
  rw [catalogByName_isSome, onlyReads_iff parsed.distinct, isMethod.read, isMethod.written]
  constructor
  · rintro ⟨notHidden, ⟨reads, notWritten⟩, stored⟩
    exact ⟨stored, reads, notWritten, (hides stored).mp notHidden⟩
  · rintro ⟨stored, reads, notWritten, visible⟩
    exact ⟨(hides stored).mpr visible, ⟨reads, notWritten⟩, stored⟩

/-- The methods of a resolved module depend on exactly those modules. -/
theorem methods_depend (of : ModelOf root model)
    (resolved : resolveWorkerDependencies model catalog previous = .ok plan) :
    List.Forall₂ (fun method methodPlan => ∃ declaration,
        method.node? 2 = some declaration ∧ ∀ name,
          (name ∈ methodPlan.dependencies.map casefold ↔
            InCatalog casefold catalog name ∧ ReadsName casefold name [declaration] ∧
              ¬ WritesName casefold name [declaration] ∧
                Visible root declaration plan methodPlan name))
      (methodNodes root) plan.methods := by
  obtain ⟨internalMethods, checked, rfl⟩ := resolve_ok resolved
  change List.Forall₂ _ _ (methodPlans model catalog internalMethods previous)
  unfold methodPlans
  rw [List.forall₂_map_right_iff]
  refine of.methods.imp ?_
  rintro method parsed ⟨declaration, isMethod⟩
  exact ⟨declaration, isMethod.declares, fun _ => depends_iff of checked isMethod⟩

/-- Without a plan before, a resolution is refused where two methods share a name or where the
body of the module depends on a module of the catalog. -/
theorem resolve_fresh_iff (of : ModelOf root model) :
    (∃ plan, resolveWorkerDependencies model catalog none = .ok plan) ↔
      (model.methods.map (ParsedMethodModel.normalizedName casefold)).Nodup ∧
        ∀ name, InCatalog casefold catalog name → ReadsName casefold name (moduleRoots root) →
          WritesName casefold name (moduleRoots root) ∨
            name ∈ declaredVariables casefold root ∨
              DeclaresName casefold name (moduleRoots root) ∨
                IsMethodName casefold root name ∨ name ∈ workerPlatformGlobals := by
  have reports : ∀ internalMethods, checkMethodNames [] model.methods = .ok internalMethods →
      ((moduleNames model catalog internalMethods none).dependencies = [] ↔
        ∀ name, InCatalog casefold catalog name → ReadsName casefold name (moduleRoots root) →
          WritesName casefold name (moduleRoots root) ∨
            name ∈ declaredVariables casefold root ∨
              DeclaresName casefold name (moduleRoots root) ∨
                IsMethodName casefold root name ∨ name ∈ workerPlatformGlobals) := by
    intro internalMethods checked
    rw [← List.map_eq_nil_iff (f := casefold), List.eq_nil_iff_forall_not_mem]
    refine forall_congr' fun name => ?_
    have internal : name ∈ internalMethods ↔ IsMethodName casefold root name := by
      rw [mem_checkMethodNames checked, ← mem_methodNames of]
      simp
    unfold moduleNames previousImplicit
    rw [mem_dependencies, onlyReads_iff model.distinct, of.read, of.written, catalogByName_isSome]
    simp only [shadows, List.mem_append, of.hidden, internal, List.not_mem_nil]
    tauto
  constructor
  · rintro ⟨plan, resolved⟩
    rw [resolve_eq] at resolved
    obtain ⟨internalMethods, checked, resolved⟩ := bind_eq_ok.mp resolved
    obtain ⟨_, empty, _⟩ := bind_eq_ok.mp resolved
    exact ⟨(checkMethodNames_ok checked).1, (reports _ checked).mp (require_eq_ok.mp empty)⟩
  · rintro ⟨distinct, unreported⟩
    obtain ⟨internalMethods, checked⟩ :=
      checkMethodNames_passes distinct fun _ _ => List.not_mem_nil
    refine ⟨planOf model catalog internalMethods none, ?_⟩
    rw [resolve_eq]
    refine bind_eq_ok.mpr ⟨internalMethods, checked, bind_eq_ok.mpr ⟨(), ?_, rfl⟩⟩
    exact require_eq_ok.mpr ((reports _ checked).mpr unreported)

end Dependency

/-! ## Exact resolution -/

/-- On trees of the grammar the facts of a scope are exact unless a statement is a bare chain,
and the methods of a resolved module depend on the modules that they read, do not write, and
that nothing hides. -/
theorem dependency_resolution_exact (casefold : Text → Text) :
    (∀ roots : List Node, (∀ root ∈ roots, OfGrammar root) →
      (¬ Somewhere roots IsBare → ∃ facts,
        collectScopeFacts casefold roots = .ok facts ∧ ExactFacts roots facts) ∧
      (Somewhere roots IsBare → ∃ statement target,
        (∃ root ∈ roots, statement ∈ root.preorder) ∧ IsBare statement ∧
          statement.node? 0 = some target ∧
            collectScopeFacts casefold roots = .error (bareChainError target))) ∧
    (∀ (sourceSha256 : String) (parserIdentity : String × String) (tokens : List Token)
        (root : Node) (model : ParsedModuleModel casefold), OfGrammar root →
        projectFullAstModule casefold sourceSha256 parserIdentity tokens root = .ok model →
      ∀ catalog : CommonModuleCatalogSnapshot,
        (∀ previous plan, resolveWorkerDependencies model catalog previous = .ok plan →
          List.Forall₂ (fun method methodPlan => ∃ declaration,
              method.node? 2 = some declaration ∧ ∀ name,
                (name ∈ methodPlan.dependencies.map casefold ↔
                  InCatalog casefold catalog name ∧ ReadsName casefold name [declaration] ∧
                    ¬ WritesName casefold name [declaration] ∧
                      Visible root declaration plan methodPlan name))
            (methodNodes root) plan.methods) ∧
        ((∃ plan, resolveWorkerDependencies model catalog none = .ok plan) ↔
          (model.methods.map (ParsedMethodModel.normalizedName casefold)).Nodup ∧
            ∀ name, InCatalog casefold catalog name → ReadsName casefold name (moduleRoots root) →
              WritesName casefold name (moduleRoots root) ∨
                name ∈ declaredVariables casefold root ∨
                  DeclaresName casefold name (moduleRoots root) ∨
                    IsMethodName casefold root name ∨ name ∈ workerPlatformGlobals)) := by
  constructor
  · intro roots grammar
    exact ⟨collect_exact grammar, collect_refused grammar⟩
  · intro sourceSha256 parserIdentity tokens root model grammar projected catalog
    have of := projectFullAstModule_exact grammar projected
    exact ⟨fun previous plan resolved => methods_depend of resolved, resolve_fresh_iff of⟩

/-! ## A module that is written and read -/

def blank : SourceSpan := ⟨0, 0, SourceMaps.zero_le_zero⟩

/-- An expression that is one primary. -/
def plainExpression (primary : Node) : Node :=
  let unary := Node.mk .unaryExpression blank [.names [], .one primary]
  let multiplicative := Node.mk .multiplicativeExpression blank [.one unary, .names [], .many []]
  let additive := Node.mk .additiveExpression blank [.one multiplicative, .names [], .many []]
  let comparison := Node.mk .comparisonExpression blank [.one additive, .names [], .many []]
  let conjunction := Node.mk .andExpression blank [.one comparison, .many []]
  Node.mk .orExpression blank [.one conjunction, .many []]

/-- `total = 1; total.count()` in a procedure. -/
def writingProcedure : Node :=
  let assignment := Node.mk .simpleStatement blank
    [.one (.mk .accessChain blank [.name "total".toList, .absent, .many []]),
      .one (plainExpression (.mk .constantLiteral blank [.name "1".toList]))]
  let call := Node.mk .simpleStatement blank
    [.one (.mk .accessChain blank [.name "total".toList, .absent, .many
      [.mk .memberAccess blank
        [.name "count".toList, .one (.mk .callArguments blank [.absent])]]]), .absent]
  let body := Node.mk .codeBlock blank
    [.one assignment, .one (.mk .codeBlock blank [.one call, .absent])]
  .mk .procedureDeclaration blank
    [.name "run".toList, .absent, .absent, .one (.mk .methodBody blank [.many [], .one body])]

def writingModule : Node :=
  .mk .module blank [.many [], .one (.mk .moduleElements blank
    [.one (.mk .method blank [.many [], .absent, .one writingProcedure]), .absent])]

/-- `total` as a statement. -/
def bareStatement : Node :=
  .mk .simpleStatement blank
    [.one (.mk .accessChain blank [.name "total".toList, .absent, .many []]), .absent]

/-- A module of the catalog that a method reads, and that nothing hides, is no dependency where
the method also writes its name; a statement that is a bare chain has no facts. -/
theorem written_module_not_listed :
    (OfGrammar bareStatement ∧
      ∃ problem, collectScopeFacts id [bareStatement] = .error problem) ∧
    ∃ model plan methodPlan, OfGrammar writingModule ∧
      projectFullAstModule id "" ("", "") [] writingModule = .ok model ∧
      resolveWorkerDependencies model grownCatalog none = .ok plan ∧
      plan.methods = [methodPlan] ∧ InCatalog id grownCatalog "total".toList ∧
      ReadsName id "total".toList [writingProcedure] ∧
      Visible writingModule writingProcedure plan methodPlan "total".toList ∧
      "total".toList ∉ methodPlan.dependencies.map id := by
  refine ⟨⟨by decide +kernel, _, rfl⟩, _, _, _, by decide +kernel, rfl, rfl, rfl,
    ⟨_, List.mem_singleton_self _, rfl⟩, by decide +kernel, ?_, by decide +kernel⟩
  exact ⟨by decide +kernel, by decide +kernel, by decide +kernel, by decide +kernel,
    by decide +kernel, by decide +kernel, by decide +kernel⟩

theorem dependency_resolution_exact_writing :
    (∃ facts, collectScopeFacts id [writingProcedure] = .ok facts ∧
      ExactFacts [writingProcedure] facts) ∧
    ∃ model, projectFullAstModule id "" ("", "") [] writingModule = .ok model ∧
      ∃ plan, resolveWorkerDependencies model grownCatalog none = .ok plan ∧
        ∃ methodPlan, plan.methods = [methodPlan] ∧
          ("total".toList ∈ methodPlan.dependencies.map id ↔
            InCatalog id grownCatalog "total".toList ∧
              ReadsName id "total".toList [writingProcedure] ∧
                ¬ WritesName id "total".toList [writingProcedure] ∧
                  Visible writingModule writingProcedure plan methodPlan "total".toList) := by
  have grammar : ∀ root ∈ [writingProcedure], OfGrammar root := by decide +kernel
  have clean : ¬ Somewhere [writingProcedure] IsBare := by decide +kernel
  obtain ⟨scopes, modules⟩ := dependency_resolution_exact id
  refine ⟨(scopes _ grammar).1 clean, _, rfl, _, rfl, _, rfl, ?_⟩
  obtain ⟨depends, _⟩ := modules "" ("", "") [] writingModule _ (by decide +kernel) rfl grownCatalog
  obtain _ | ⟨⟨declaration, declares, depends⟩, _⟩ := depends none _ rfl
  obtain rfl := Option.some.inj (declares.symm.trans (rfl : _ = some writingProcedure))
  exact depends _

end OnecRuntime.Projection
