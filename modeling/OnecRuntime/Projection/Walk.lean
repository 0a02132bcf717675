import OnecRuntime.Projection.Coverage

/-!
# The facts that the loop collects

On trees of the grammar the loop ends, and it records every declared, written and
read name and no other, unless some statement is a bare access chain.
-/

namespace OnecRuntime.Projection

open OnecRuntime.Library
open OnecRuntime.Bsl (Node Field NodeClass)
open OnecRuntime.Dependencies (BareName BareNameKind mem_sortedNames)
open OnecRuntime.SourceMaps (Text)

/-! ## What the loop pushes, as a rule -/

open Classical in
/-- The parts that the loop pushes for a node of the grammar. -/
noncomputable def parts (node : Node) : List Node :=
  if OfGrammar node then
    match pushed node with
    | .ok nodes => nodes
    | .error _ => []
  else []

theorem parts_of_pushed {node : Node} {nodes : List Node} (grammar : OfGrammar node)
    (isPushed : pushed node = .ok nodes) : parts node = nodes := by
  unfold parts
  rw [if_pos grammar, isPushed]

theorem bare_pushed {node : Node} (grammar : OfGrammar node) (bare : IsBare node) :
    ∃ target, node.node? 0 = some target ∧ pushed node = .error (.bslParseError
      s!"bare access-chain statement is forbidden at {target.start}" target.span
      "bare_access_chain_statement") := by
  obtain ⟨isStatement, noValue, target, found, uncalled⟩ := bare
  obtain ⟨other, same, isChain, _, _⟩ := statement_fields grammar isStatement
  obtain rfl := Option.some.inj (found.symm.trans same)
  have unused : ¬ ((node.node? 1).isSome ∨ hasCall target) := by
    rw [Option.isNone_iff_eq_none.mp noValue, uncalled]
    simp
  refine ⟨target, found, ?_⟩
  unfold pushed statementTarget
  rw [isStatement, found]
  dsimp only
  rw [require_of_holds isChain, require_of_fails unused]
  rfl

section Rule

variable {node : Node}

/-- What a node pushes lies in the node and weighs less. -/
theorem pushed_within {nodes : List Node} (grammar : OfGrammar node)
    (isPushed : pushed node = .ok nodes) :
    (∀ part ∈ nodes, part ∈ node.preorder) ∧ load Node.size nodes < node.size := by
  have below : ∀ other ∈ node.children, other ∈ node.preorder := fun _ => Node.child_mem_preorder
  by_cases isStatement : node.kind = .simpleStatement
  · by_cases bare : IsBare node
    · obtain ⟨_, _, raised⟩ := bare_pushed grammar bare
      rw [isPushed] at raised
      cases raised
    · obtain ⟨target, parts, found, same, covers⟩ := pushed_statement grammar isStatement bare
      obtain rfl := Except.ok.inj (isPushed.symm.trans same)
      obtain ⟨other, again, _, _, children⟩ := statement_fields grammar isStatement
      obtain rfl := Option.some.inj (found.symm.trans again)
      have weight := Node.size_eq node
      have targetWeight := Node.size_eq target
      rw [children, load_cons] at weight
      have valueBelow : ∀ value ∈ node.nodesAt 1, value ∈ node.preorder := fun value member =>
        below value (Node.mem_children member)
      by_cases assigns : isAssignment node
      · rw [if_pos assigns] at covers
        have lighter := covers.lighter
        refine ⟨fun part member => ?_, by omega⟩
        obtain ⟨value, inValue, inside⟩ := covers.within part member
        exact Node.preorder_trans (valueBelow value inValue) inside
      · rw [if_neg assigns] at covers
        have lighter := covers.lighter
        rw [load_append] at lighter
        refine ⟨fun part member => ?_, by omega⟩
        obtain ⟨whole, inWhole, inside⟩ := covers.within part member
        rcases List.mem_append.mp inWhole with inTarget | inValue
        · exact Node.preorder_trans (Node.preorder_trans (below target (node?_child found))
            (Node.child_mem_preorder inTarget)) inside
        · exact Node.preorder_trans (valueBelow whole inValue) inside
  · obtain ⟨parts, same, covers⟩ := pushed_covers grammar isStatement
    obtain rfl := Except.ok.inj (isPushed.symm.trans same)
    have lighter := covers.lighter
    have weight := Node.size_eq node
    refine ⟨fun part member => ?_, by omega⟩
    obtain ⟨child, isChild, inside⟩ := covers.within part member
    exact Node.preorder_trans (below child isChild) inside

theorem parts_descend : Descends parts Node.size := by
  intro node
  have positive := Node.size_eq node
  unfold parts
  split_ifs with grammar
  · cases isPushed : pushed node with
    | ok nodes => exact (pushed_within grammar isPushed).2
    | error problem =>
        change load Node.size [] < _
        simp only [load, List.map_nil, List.sum_nil]
        omega
  · simp only [load, List.map_nil, List.sum_nil]
    omega

theorem parts_mem {part : Node} (member : part ∈ parts node) : part ∈ node.preorder := by
  unfold parts at member
  split_ifs at member with grammar
  · cases isPushed : pushed node with
    | ok nodes =>
        rw [isPushed] at member
        exact (pushed_within grammar isPushed).1 part member
    | error problem =>
        rw [isPushed] at member
        cases member
  · cases member

theorem parts_grammar (node : Node) (grammar : OfGrammar node) :
    ∀ part ∈ parts node, OfGrammar part :=
  fun _ member => grammar.below (parts_mem member)

/-! ## Properties that pass up -/

/-- What a turn of the loop finds at a node: at a statement also what its target has. -/
def OwnAt (own : Node → Prop) (node : Node) : Prop :=
  own node ∨ node.kind = .simpleStatement ∧ isAssignment node = false ∧
    ∃ target, node.node? 0 = some target ∧ own target

/-- What the loop pushes decides a property as the parts of the node do. -/
theorem PassesUp.walked {occurs own : Node → Prop} (passes : PassesUp occurs own)
    (grammar : OfGrammar node) (notBare : ¬ IsBare node) :
    occurs node ↔ OwnAt own node ∨ ∃ part ∈ parts node, occurs part := by
  unfold OwnAt
  by_cases isStatement : node.kind = .simpleStatement
  · obtain ⟨target, nodes, found, isPushed, covers⟩ :=
      pushed_statement grammar isStatement notBare
    obtain ⟨other, same, isChain, targetGrammar, children⟩ := statement_fields grammar isStatement
    obtain rfl := Option.some.inj (found.symm.trans same)
    rw [parts_of_pushed grammar isPushed, covers.decides passes, passes.step node grammar]
    unfold otherParts
    by_cases assigns : isAssignment node
    · simp [assigns]
    · have targetStep := passes.step target targetGrammar
      rw [otherParts_of_kind (by rw [isChain]; decide)] at targetStep
      simp only [assigns, children, isStatement, found, Option.some.injEq, exists_eq_left',
        true_and]
      simp only [Bool.false_eq_true, if_false, List.exists_mem_cons_iff, List.mem_append,
        or_and_right, exists_or, targetStep, or_assoc]
  · obtain ⟨nodes, isPushed, covers⟩ := pushed_covers grammar isStatement
    rw [parts_of_pushed grammar isPushed, covers.decides passes, passes.step node grammar,
      otherParts_of_kind isStatement]
    simp [isStatement]

variable {property : Node → Prop}

/-- Below the name that a statement assigns there is nothing. -/
theorem inTree_assigned {target : Node}
    (found : node.node? 0 = some target) (grammar : OfGrammar target)
    (isChain : target.kind = .accessChain) (assigns : isAssignment node = true) :
    InTree property target ↔ property target := by
  rw [inTree_iff, assigned_children found grammar isChain assigns]
  simp

/-- A property that no chain and no glue has passes up from where it holds. -/
theorem PassesUp.inTree (glue : ∀ node, node.kind ∈ glueClasses → ¬ property node)
    (chains : ∀ node : Node, node.kind = .accessChain → ¬ property node) :
    PassesUp (InTree property) property where
  glue := glue
  step := by
    intro node grammar
    unfold otherParts
    by_cases assigns : isAssignment node
    · obtain ⟨target, found, isChain, targetGrammar, children⟩ :=
        statement_fields grammar (isAssignment_kind assigns)
      rw [inTree_iff, if_pos assigns, children, List.exists_mem_cons_iff,
        inTree_assigned found targetGrammar isChain assigns, or_iff_right (chains target isChain)]
    · rw [inTree_iff, if_neg assigns]

/-- A property that no chain has is found where it holds. -/
theorem ownAt_iff (grammar : OfGrammar node)
    (chains : ∀ node : Node, node.kind = .accessChain → ¬ property node) :
    OwnAt property node ↔ property node := by
  refine or_iff_left ?_
  rintro ⟨isStatement, _, target, found, holds⟩
  obtain ⟨other, same, isChain, _⟩ := statement_fields grammar isStatement
  obtain rfl := Option.some.inj (found.symm.trans same)
  exact chains target isChain holds

/-- A chain of the name stands in the tree where it is not assigned. -/
def ReadIn (casefold : Text → Text) (name : Text) (node : Node) : Prop :=
  IsChainOf casefold name node ∨
    InTree (fun parent => ∃ part ∈ otherParts parent, IsChainOf casefold name part) node

theorem PassesUp.reads (casefold : Text → Text) (name : Text) :
    PassesUp (ReadIn casefold name) (IsChainOf casefold name) where
  glue := by
    intro node isGlue isChain
    rw [isChain.1] at isGlue
    revert isGlue
    decide
  step := by
    intro node grammar
    unfold ReadIn
    refine or_congr_right ?_
    simp only [and_or_left, exists_or]
    rw [inTree_iff]
    refine or_congr_right ?_
    unfold otherParts
    by_cases assigns : isAssignment node
    · obtain ⟨target, found, isChain, targetGrammar, children⟩ :=
        statement_fields grammar (isAssignment_kind assigns)
      have noParts : otherParts target = [] := by
        rw [otherParts_of_kind (by rw [isChain]; decide)]
        exact assigned_children found targetGrammar isChain assigns
      rw [if_pos assigns, children, List.exists_mem_cons_iff,
        inTree_assigned found targetGrammar isChain assigns, or_iff_right]
      change ¬ ∃ part ∈ otherParts target, _
      simp [noParts]
    · rw [if_neg assigns]

end Rule

/-! ## What the loop records -/

section Record

variable {casefold : Text → Text} {name : Text} {state : WalkState casefold}

def WalkState.Writes (state : WalkState casefold) (name : Text) : Prop :=
  ∃ fact, state.names.get? name = some fact ∧ fact.kinds.writes = true

def WalkState.Reads (state : WalkState casefold) (name : Text) : Prop :=
  ∃ fact, state.names.get? name = some fact ∧ fact.kinds.reads = true

theorem joined_writes (kinds other : BareNameKind) :
    (joined kinds other).writes = true ↔ kinds.writes = true ∨ other.writes = true := by
  cases kinds <;> cases other <;> decide

theorem joined_reads (kinds other : BareNameKind) :
    (joined kinds other).reads = true ↔ kinds.reads = true ∨ other.reads = true := by
  cases kinds <;> cases other <;> decide

/-- The flags of a name after one more use. -/
theorem NameFact.used_kinds (fact : Option NameFact) (target : Node) (sequence : Nat)
    (kind : BareNameKind) :
    (NameFact.used fact target sequence kind).kinds =
      match fact with
      | none => kind
      | some known => joined known.kinds kind := by
  cases fact with
  | none => rfl
  | some known =>
      unfold used
      dsimp only
      split
      · rfl
      · rfl

/-- A use adds its flag to its name, for a flag that joins. -/
theorem use_flag {flag : BareNameKind → Bool} (target : Node) (kind : BareNameKind)
    (joins : ∀ kinds other, flag (joined kinds other) = true ↔
      flag kinds = true ∨ flag other = true) :
    (∃ fact, (state.use target kind).names.get? name = some fact ∧ flag fact.kinds = true) ↔
      (∃ fact, state.names.get? name = some fact ∧ flag fact.kinds = true) ∨
        casefold (nameAt target 0) = name ∧ flag kind = true := by
  by_cases same : casefold (nameAt target 0) = name
  · subst same
    have stored : (state.use target kind).names.get? (casefold (nameAt target 0)) =
        some (.used (state.names.get? (casefold (nameAt target 0))) target state.sequence kind) :=
      Dictionary.get?_set_same ..
    rw [stored]
    simp only [Option.some.injEq, exists_eq_left', NameFact.used_kinds, true_and]
    cases state.names.get? (casefold (nameAt target 0)) with
    | none => simp
    | some known => simp [joins]
  · have kept : (state.use target kind).names.get? name = state.names.get? name :=
      Dictionary.get?_set_other _ _ fun other => same other.symm
    rw [kept]
    simp [same]

theorem writes_use (target : Node) (kind : BareNameKind) :
    (state.use target kind).Writes name ↔
      state.Writes name ∨ casefold (nameAt target 0) = name ∧ kind.writes = true :=
  use_flag target kind joined_writes

theorem reads_use (target : Node) (kind : BareNameKind) :
    (state.use target kind).Reads name ↔
      state.Reads name ∨ casefold (nameAt target 0) = name ∧ kind.reads = true :=
  use_flag target kind joined_reads

variable {node : Node}

theorem record_statement {target : Node} (isStatement : node.kind = .simpleStatement)
    (found : node.node? 0 = some target) (grammar : OfGrammar target)
    (isChain : target.kind = .accessChain) :
    record node state = state.use target (if isAssignment node then .bareWrite else .read) := by
  unfold record
  rw [isStatement, found]
  dsimp only
  rw [directWrite_eq isStatement found grammar isChain]

theorem record_chain (isChain : node.kind = .accessChain) :
    record node state = state.use node .read := by
  unfold record
  rw [isChain]

/-- Nodes that are no statement and no chain leave the names as they are. -/
theorem record_names (noStatement : node.kind ≠ .simpleStatement)
    (noChain : node.kind ≠ .accessChain) : (record node state).names = state.names := by
  unfold record
  split
  case h_1 isKind => exact absurd isKind noStatement
  case h_2 isKind => exact absurd isKind noChain
  case h_3 | h_4 | h_5 | h_6 | h_7 => rfl

theorem record_writes (grammar : OfGrammar node) :
    (record node state).Writes name ↔ state.Writes name ∨ Assigns casefold name node := by
  by_cases isStatement : node.kind = .simpleStatement
  · obtain ⟨target, found, isChain, targetGrammar, _⟩ := statement_fields grammar isStatement
    rw [record_statement isStatement found targetGrammar isChain, writes_use]
    unfold Assigns
    simp only [found, Option.some.injEq, exists_eq_left']
    by_cases assigns : isAssignment node
    · simp [assigns, BareNameKind.writes]
    · simp [assigns, BareNameKind.writes]
  · have notAssigned : ¬ Assigns casefold name node := fun assigns =>
      isStatement (isAssignment_kind assigns.1)
    rw [or_iff_left notAssigned]
    by_cases isChain : node.kind = .accessChain
    · rw [record_chain isChain, writes_use]
      simp [BareNameKind.writes]
    · unfold WalkState.Writes
      rw [record_names isStatement isChain]

theorem record_reads (grammar : OfGrammar node) :
    (record node state).Reads name ↔
      state.Reads name ∨ OwnAt (IsChainOf casefold name) node := by
  unfold OwnAt IsChainOf
  by_cases isStatement : node.kind = .simpleStatement
  · obtain ⟨target, found, isChain, targetGrammar, _⟩ := statement_fields grammar isStatement
    rw [record_statement isStatement found targetGrammar isChain, reads_use]
    by_cases assigns : isAssignment node
    · simp [assigns, BareNameKind.reads, isStatement]
    · simp [assigns, BareNameKind.reads, isStatement, found, isChain]
  · by_cases isChain : node.kind = .accessChain
    · rw [record_chain isChain, reads_use]
      simp [BareNameKind.reads, isChain]
    · unfold WalkState.Reads
      rw [record_names isStatement isChain]
      simp [isStatement, isChain]

theorem record_declares :
    name ∈ (record node state).declaredNames ↔
      name ∈ state.declaredNames ∨ Declares casefold name node := by
  unfold record Declares
  split
  case h_1 isKind =>
    rw [isKind]
    split
    · simp
    · simp [WalkState.use]
  case h_2 isKind =>
    rw [isKind]
    simp [WalkState.use]
  case h_3 isKind | h_5 isKind | h_6 isKind =>
    rw [isKind]
    simp [WalkState.declare, or_comm, eq_comm]
  case h_4 isKind =>
    rw [isKind]
    simp [WalkState.declare, or_comm]
  case h_7 =>
    split
    case h_1 isKind | h_2 isKind | h_3 isKind | h_4 isKind => contradiction
    case h_5 => simp

end Record

/-! ## The whole loop -/

section Collect

variable {casefold : Text → Text} {roots : List Node}

/-- The state after the nodes that the loop reaches. -/
noncomputable def walked (casefold : Text → Text) (roots : List Node) : WalkState casefold :=
  (reached parts Node.size roots).foldl (fun state node => record node state)
    (WalkState.initial casefold)

theorem grammar_of_reached (grammar : ∀ root ∈ roots, OfGrammar root) {node : Node}
    (member : node ∈ reached parts Node.size roots) : OfGrammar node :=
  good_of_reached parts_descend parts_grammar grammar member

theorem bare_glue (node : Node) (isGlue : node.kind ∈ glueClasses) : ¬ IsBare node := by
  intro bare
  rw [bare.1] at isGlue
  revert isGlue
  decide

theorem bare_chain (node : Node) (isChain : node.kind = .accessChain) : ¬ IsBare node := by
  intro bare
  rw [bare.1] at isChain
  cases isChain

theorem bare_reached (grammar : ∀ root ∈ roots, OfGrammar root) :
    (∃ node ∈ reached parts Node.size roots, IsBare node) ↔ Somewhere roots IsBare := by
  refine exists_reached parts_descend parts_grammar ?_ grammar
  intro node nodeGrammar
  by_cases bare : IsBare node
  · exact ⟨fun _ => .inl bare, fun _ => inTree_iff.mpr (.inl bare)⟩
  · have walked := (PassesUp.inTree bare_glue bare_chain).walked nodeGrammar bare
    exact walked.trans (or_congr_left (ownAt_iff nodeGrammar bare_chain))

theorem pushed_ok {node : Node} (grammar : OfGrammar node) (notBare : ¬ IsBare node) :
    ∃ nodes, pushed node = .ok nodes := by
  by_cases isStatement : node.kind = .simpleStatement
  · obtain ⟨_, nodes, _, isPushed, _⟩ := pushed_statement grammar isStatement notBare
    exact ⟨nodes, isPushed⟩
  · obtain ⟨nodes, isPushed, _⟩ := pushed_covers grammar isStatement
    exact ⟨nodes, isPushed⟩

def bareChainError (target : Node) : ProjectionError :=
  .bslParseError s!"bare access-chain statement is forbidden at {target.start}" target.span
    "bare_access_chain_statement"

/-- The loop collects the facts of all nodes, or stops at a bare chain. -/
theorem collect_cases (grammar : ∀ root ∈ roots, OfGrammar root) :
    (∀ node ∈ reached parts Node.size roots, ¬ IsBare node) ∧
        collectScopeFacts casefold roots = .ok (walked casefold roots).facts ∨
      ∃ node ∈ reached parts Node.size roots, IsBare node ∧ ∃ target,
        node.node? 0 = some target ∧
          collectScopeFacts casefold roots = .error (bareChainError target) := by
  have pushes : ∀ node, OfGrammar node → ∀ (state after : WalkState casefold) nodes,
      visit node state = .ok (after, nodes) → nodes = parts node := by
    intro node nodeGrammar state after nodes visited
    obtain ⟨others, isPushed, same⟩ := bind_eq_ok.mp visited
    obtain ⟨_, rfl⟩ := Prod.mk.inj (pure_eq_ok.mp same)
    exact (parts_of_pushed nodeGrammar isPushed).symm
  have returns : ∀ node ∈ reached parts Node.size roots, ¬ IsBare node →
      ∀ state : WalkState casefold, Prod.fst <$> visit node state = .ok (record node state) := by
    intro node member notBare state
    obtain ⟨nodes, isPushed⟩ := pushed_ok (grammar_of_reached grammar member) notBare
    unfold visit
    rw [isPushed]
    rfl
  have stops : ∀ node ∈ reached parts Node.size roots, IsBare node →
      ∃ target, node.node? 0 = some target ∧ ∀ state : WalkState casefold,
        Prod.fst <$> visit node state = .error (bareChainError target) := by
    intro node member bare
    obtain ⟨target, found, isPushed⟩ := bare_pushed (grammar_of_reached grammar member) bare
    refine ⟨target, found, fun state => ?_⟩
    unfold visit
    rw [isPushed]
    rfl
  unfold collectScopeFacts
  rw [drain_eq_foldlM parts_descend parts_grammar pushes grammar (Nat.le_refl _)]
  rcases foldlM_returns (WalkState.initial casefold) returns (fun node member bare =>
    (stops node member bare).elim fun target raised => ⟨_, raised.2⟩) with
    ⟨noBare, folded⟩ | ⟨node, member, bare, problem, raised, folded⟩
  · exact .inl ⟨noBare, by rw [folded]; rfl⟩
  · obtain ⟨target, found, stopped⟩ := stops node member bare
    have same := (raised (WalkState.initial casefold)).symm.trans (stopped _)
    obtain rfl := Except.error.inj same
    exact .inr ⟨node, member, bare, target, found, by rw [folded]; rfl⟩

/-! ## The names of the facts -/

theorem noBare_of_tree {node : Node} (clean : ¬ InTree IsBare node) : ¬ IsBare node :=
  fun bare => clean (inTree_iff.mpr (.inl bare))

/-- What the loop finds at the nodes it reaches, where no statement is bare. -/
theorem reached_finds {occurs own : Node → Prop} (passes : PassesUp occurs own)
    (grammar : ∀ root ∈ roots, OfGrammar root) (clean : ¬ Somewhere roots IsBare) :
    (∃ node ∈ reached parts Node.size roots, OwnAt own node) ↔ ∃ root ∈ roots, occurs root := by
  refine @exists_reached _ _ _ parts_descend
    (fun node => OfGrammar node ∧ ¬ InTree IsBare node) _ _ ?_ ?_ _ ?_
  · rintro node ⟨nodeGrammar, nodeClean⟩ part member
    refine ⟨parts_grammar node nodeGrammar part member, ?_⟩
    rintro ⟨other, inPart, bare⟩
    exact nodeClean ⟨other, Node.preorder_trans (parts_mem member) inPart, bare⟩
  · rintro node ⟨nodeGrammar, nodeClean⟩
    exact passes.walked nodeGrammar (noBare_of_tree nodeClean)
  · intro root inRoots
    exact ⟨grammar root inRoots, fun bare => clean ⟨root, inRoots, bare⟩⟩

/-- The loop finds a property of no chain and no glue everywhere in the trees. -/
theorem reached_plain {property : Node → Prop}
    (glue : ∀ node, node.kind ∈ glueClasses → ¬ property node)
    (chains : ∀ node : Node, node.kind = .accessChain → ¬ property node)
    (grammar : ∀ root ∈ roots, OfGrammar root) (clean : ¬ Somewhere roots IsBare) :
    (∃ node ∈ reached parts Node.size roots, property node) ↔ Somewhere roots property := by
  refine Iff.trans ?_ (reached_finds (.inTree glue chains) grammar clean)
  refine exists_congr fun node => and_congr_right fun member => ?_
  exact (ownAt_iff (grammar_of_reached grammar member) chains).symm

section Names

variable {name : Text}

theorem walked_writes (grammar : ∀ root ∈ roots, OfGrammar root)
    (clean : ¬ Somewhere roots IsBare) :
    (walked casefold roots).Writes name ↔ WritesName casefold name roots := by
  have turn : ∀ node ∈ reached parts Node.size roots, ∀ state : WalkState casefold,
      (record node state).Writes name ↔ state.Writes name ∨ Assigns casefold name node :=
    fun node member state => record_writes (grammar_of_reached grammar member)
  have none_ : ¬ (WalkState.initial casefold).Writes name := by
    rintro ⟨fact, impossible, _⟩
    cases impossible
  refine (@foldl_holds _ _ _ (fun state : WalkState casefold => state.Writes name)
    _ _ _ turn).trans ?_
  rw [or_iff_right none_]
  refine reached_plain ?_ ?_ grammar clean
  · intro node isGlue assigns
    rw [isAssignment_kind assigns.1] at isGlue
    revert isGlue
    decide
  · intro node isChain assigns
    rw [isAssignment_kind assigns.1] at isChain
    cases isChain

theorem walked_reads (grammar : ∀ root ∈ roots, OfGrammar root)
    (clean : ¬ Somewhere roots IsBare) :
    (walked casefold roots).Reads name ↔ ReadsName casefold name roots := by
  have turn : ∀ node ∈ reached parts Node.size roots, ∀ state : WalkState casefold,
      (record node state).Reads name ↔
        state.Reads name ∨ OwnAt (IsChainOf casefold name) node :=
    fun node member state => record_reads (grammar_of_reached grammar member)
  have none_ : ¬ (WalkState.initial casefold).Reads name := by
    rintro ⟨fact, impossible, _⟩
    cases impossible
  refine (@foldl_holds _ _ _ (fun state : WalkState casefold => state.Reads name)
    _ _ _ turn).trans ?_
  rw [or_iff_right none_, reached_finds (.reads casefold name) grammar clean]
  unfold ReadIn ReadsName Somewhere InTree
  simp only [and_or_left, exists_or]

theorem walked_declares (grammar : ∀ root ∈ roots, OfGrammar root)
    (clean : ¬ Somewhere roots IsBare) :
    name ∈ (walked casefold roots).declaredNames ↔ DeclaresName casefold name roots := by
  have turn : ∀ node ∈ reached parts Node.size roots, ∀ state : WalkState casefold,
      name ∈ (record node state).declaredNames ↔
        name ∈ state.declaredNames ∨ Declares casefold name node :=
    fun node member state => record_declares
  have none_ : name ∉ (WalkState.initial casefold).declaredNames := List.not_mem_nil
  refine (@foldl_holds _ _ _ (fun state : WalkState casefold => name ∈ state.declaredNames)
    _ _ _ turn).trans ?_
  rw [or_iff_right none_]
  refine reached_plain ?_ ?_ grammar clean
  · intro node isGlue declares
    unfold Declares at declares
    simp only [glueClasses, List.mem_cons, List.not_mem_nil, or_false] at isGlue
    rcases isGlue with isKind | isKind | isKind | isKind | isKind <;>
      simp only [isKind] at declares
  · intro node isChain declares
    unfold Declares at declares
    simp only [isChain] at declares

end Names

end Collect

end OnecRuntime.Projection
