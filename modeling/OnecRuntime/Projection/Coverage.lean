import OnecRuntime.Projection.Occurrences

/-!
# What the loop reaches

For a property that passes from the parts of a node to the node, the parts that
the loop pushes decide it as the fields of the node do.  No part of a tree of the
grammar is left out.
-/

namespace OnecRuntime.Projection

open OnecRuntime.Library
open OnecRuntime.Bsl (Node Field NodeClass)
open OnecRuntime.SourceMaps (Text)

/-- The classes that the loop takes apart without a turn of their own. -/
def glueClasses : List NodeClass :=
  [.memberAccess, .indexAccess, .codeBlock, .moduleElements, .label]

/-- A property of trees that holds at a node of its own or in one of its other parts. -/
structure PassesUp (occurs own : Node → Prop) : Prop where
  step : ∀ node, OfGrammar node →
    (occurs node ↔ own node ∨ ∃ part ∈ otherParts node, occurs part)
  glue : ∀ node, node.kind ∈ glueClasses → ¬ own node

section Parts

variable {occurs own : Node → Prop} {node : Node}

theorem isAssignment_kind (assigns : isAssignment node = true) : node.kind = .simpleStatement := by
  unfold isAssignment at assigns
  exact of_decide_eq_true (Bool.and_eq_true_iff.mp assigns).1

theorem otherParts_of_kind (other : node.kind ≠ .simpleStatement) :
    otherParts node = node.children := by
  unfold otherParts
  rw [if_neg fun assigns => other (isAssignment_kind assigns)]

/-- At a node that is no statement and has no name of its own, the children decide. -/
theorem PassesUp.glued (passes : PassesUp occurs own) (grammar : OfGrammar node)
    (isGlue : node.kind ∈ glueClasses) :
    occurs node ↔ ∃ child ∈ node.children, occurs child := by
  have noStatement : node.kind ≠ .simpleStatement := by
    intro isStatement
    rw [isStatement] at isGlue
    revert isGlue
    decide
  rw [passes.step node grammar, otherParts_of_kind noStatement, or_iff_right]
  exact passes.glue node isGlue

variable {shape : FieldShape}

theorem fields_one (grammar : OfGrammar node)
    (shapes : fieldShapes node.kind = [shape]) :
    ∃ first, node.fields = [first] ∧ shape.Fits first := by
  have fits := grammar.shaped.fields
  rw [shapes] at fits
  generalize node.fields = fields at fits
  obtain _ | ⟨fitsFirst, _ | _⟩ := fits
  exact ⟨_, rfl, fitsFirst⟩

variable {other : FieldShape}

theorem fields_two (grammar : OfGrammar node)
    (shapes : fieldShapes node.kind = [shape, other]) :
    ∃ first second, node.fields = [first, second] ∧ shape.Fits first ∧ other.Fits second := by
  have fits := grammar.shaped.fields
  rw [shapes] at fits
  generalize node.fields = fields at fits
  obtain _ | ⟨fitsFirst, _ | ⟨fitsSecond, _ | _⟩⟩ := fits
  exact ⟨_, _, rfl, fitsFirst, fitsSecond⟩

theorem fields_three {last : FieldShape} (grammar : OfGrammar node)
    (shapes : fieldShapes node.kind = [shape, other, last]) :
    ∃ first second third, node.fields = [first, second, third] ∧ shape.Fits first ∧
      other.Fits second ∧ last.Fits third := by
  have fits := grammar.shaped.fields
  rw [shapes] at fits
  generalize node.fields = fields at fits
  obtain _ | ⟨fitsFirst, _ | ⟨fitsSecond, _ | ⟨fitsThird, _ | _⟩⟩⟩ := fits
  exact ⟨_, _, _, rfl, fitsFirst, fitsSecond, fitsThird⟩

theorem fields_four {next last : FieldShape} (grammar : OfGrammar node)
    (shapes : fieldShapes node.kind = [shape, other, next, last]) :
    ∃ first second third fourth, node.fields = [first, second, third, fourth] ∧
      shape.Fits first ∧ other.Fits second ∧ next.Fits third ∧ last.Fits fourth := by
  have fits := grammar.shaped.fields
  rw [shapes] at fits
  generalize node.fields = fields at fits
  obtain _ | ⟨fitsFirst, _ | ⟨fitsSecond, _ | ⟨fitsThird, _ | ⟨fitsFourth, _ | _⟩⟩⟩⟩ := fits
  exact ⟨_, _, _, _, rfl, fitsFirst, fitsSecond, fitsThird, fitsFourth⟩

/-! ## Accesses behind a chain -/

/-- The children of an access behind a chain are the parts that the loop takes from it. -/
theorem markerParts_children {marker : Node} {unsupported : String} (grammar : OfGrammar marker)
    (isMarker : marker.kind = .memberAccess ∨ marker.kind = .indexAccess) :
    markerParts unsupported marker = .ok marker.children := by
  unfold markerParts
  rcases isMarker with isMember | isIndex
  · obtain ⟨first, second, fields, plain, one⟩ :=
      @fields_two marker .plain .one grammar (by rw [isMember]; rfl)
    have held : marker.node? 1 = second.node? := node?_eq (by rw [fields]; rfl)
    have noNodes : first.nodes = [] := plain
    rw [isMember, children_eq_two fields, noNodes, List.nil_append, nodes_of_one one, ← held]
  · obtain ⟨index, found⟩ := Option.isSome_iff_exists.mp (grammar.shaped.indexed isIndex)
    obtain ⟨first, fields, one⟩ := @fields_one marker .one grammar (by rw [isIndex]; rfl)
    have held : marker.node? 0 = first.node? := node?_eq (by rw [fields]; rfl)
    rw [isIndex, children_eq_one fields, nodes_of_one one, ← held, found]
    rfl

theorem mapM_markerParts {markers : List Node} {unsupported : String}
    (grammar : ∀ marker ∈ markers, OfGrammar marker)
    (areMarkers : ∀ marker ∈ markers,
      marker.kind = .memberAccess ∨ marker.kind = .indexAccess) :
    markers.mapM (markerParts unsupported) = .ok (markers.map Node.children) := by
  refine mapM_eq_ok.mpr ?_
  rw [List.forall₂_map_right_iff, List.forall₂_same]
  exact fun marker member => markerParts_children (grammar marker member) (areMarkers marker member)

end Parts

/-! ## Parts that stand for nodes -/

/-- The parts lie in the nodes, weigh no more, and decide what passes up to them. -/
structure Covers (parts whole : List Node) : Prop where
  within : ∀ part ∈ parts, ∃ node ∈ whole, part ∈ node.preorder
  lighter : load Node.size parts ≤ load Node.size whole
  decides : ∀ {occurs own : Node → Prop}, PassesUp occurs own →
    ((∃ part ∈ parts, occurs part) ↔ ∃ node ∈ whole, occurs node)

namespace Covers

theorem refl (nodes : List Node) : Covers nodes nodes :=
  ⟨fun node member => ⟨node, member, node.self_mem_preorder⟩, Nat.le_refl _, fun _ => Iff.rfl⟩

theorem append {parts whole others rest : List Node} (first : Covers parts whole)
    (second : Covers others rest) : Covers (parts ++ others) (whole ++ rest) where
  within := by
    intro part member
    rcases List.mem_append.mp member with inFirst | inSecond
    · obtain ⟨node, inWhole, below⟩ := first.within part inFirst
      exact ⟨node, List.mem_append_left _ inWhole, below⟩
    · obtain ⟨node, inRest, below⟩ := second.within part inSecond
      exact ⟨node, List.mem_append_right _ inRest, below⟩
  lighter := by
    rw [load_append, load_append]
    exact Nat.add_le_add first.lighter second.lighter
  decides := by
    intro occurs own passes
    simp only [List.mem_append, or_and_right, exists_or]
    exact or_congr (first.decides passes) (second.decides passes)

/-- A node without a name of its own is covered by its children. -/
theorem glued {node : Node} (grammar : OfGrammar node) (isGlue : node.kind ∈ glueClasses) :
    Covers node.children [node] where
  within := by
    intro part isChild
    exact ⟨node, List.mem_singleton_self _, Node.child_mem_preorder isChild⟩
  lighter := by
    have descends := Node.children_descend node
    rw [load_cons]
    omega
  decides := by
    intro occurs own passes
    rw [← passes.glued grammar isGlue]
    simp

theorem trans {parts middle whole : List Node} (first : Covers parts middle)
    (second : Covers middle whole) : Covers parts whole where
  within := by
    intro part member
    obtain ⟨between, inMiddle, below⟩ := first.within part member
    obtain ⟨node, inWhole, above⟩ := second.within between inMiddle
    exact ⟨node, inWhole, Node.preorder_trans above below⟩
  lighter := first.lighter.trans second.lighter
  decides := fun passes => (first.decides passes).trans (second.decides passes)

/-- The children of accesses cover the accesses. -/
theorem markers {markers : List Node} (grammar : ∀ marker ∈ markers, OfGrammar marker)
    (areMarkers : ∀ marker ∈ markers,
      marker.kind = .memberAccess ∨ marker.kind = .indexAccess) :
    Covers (markers.map Node.children).flatten markers := by
  induction markers with
  | nil => exact refl []
  | cons marker rest ih =>
      have isGlue : marker.kind ∈ glueClasses := by
        rcases areMarkers marker List.mem_cons_self with isMember | isIndex
        · rw [isMember]
          decide
        · rw [isIndex]
          decide
      have first := glued (grammar marker List.mem_cons_self) isGlue
      exact first.append (ih (fun other member => grammar other (List.mem_cons_of_mem _ member))
        fun other member => areMarkers other (List.mem_cons_of_mem _ member))

end Covers

section Nodes

variable {node : Node}

variable {field : Field}

theorem OfGrammar.childrenOf (grammar : OfGrammar node)
    (member : field ∈ node.fields) : ∀ part ∈ field.nodes, OfGrammar part :=
  fun _ inField => grammar.child (List.mem_flatMap.mpr ⟨field, member, inField⟩)

/-- What the loop takes from a chain covers what stands in it. -/
theorem targetParts_covers (grammar : OfGrammar node) (isChain : node.kind = .accessChain) :
    ∃ parts, targetParts node = .ok parts ∧ Covers parts node.children := by
  obtain ⟨first, second, third, fields, plain, one, nodes, rfl, areMarkers⟩ :=
    @fields_three node .plain .one .markers grammar (by rw [isChain]; rfl)
  have grammars : ∀ marker ∈ nodes, OfGrammar marker :=
    @OfGrammar.childrenOf node (.many nodes) grammar (by rw [fields]; simp)
  have noNodes : first.nodes = [] := plain
  have held : node.node? 1 = second.node? := node?_eq (by rw [fields]; rfl)
  have behind : node.nodesAt 2 = (Field.many nodes).nodes := nodesAt_eq (by rw [fields]; rfl)
  refine ⟨(node.node? 1).toList ++ (nodes.map Node.children).flatten, ?_, ?_⟩
  · unfold targetParts
    rw [behind]
    simp only [Field.nodes, mapM_markerParts grammars areMarkers]
    rfl
  · rw [children_eq_three fields, noNodes, List.nil_append, nodes_of_one one, ← held]
    exact (Covers.refl _).append (.markers grammars areMarkers)

theorem node?_child {place : Nat} {child : Node} (found : node.node? place = some child) :
    child ∈ node.children :=
  Node.mem_children (Node.node?_mem found)

theorem size_lt_of_child {child : Node} (member : child ∈ node.children) :
    child.size < node.size :=
  (weight_le_load member).trans_lt (Node.children_descend node)

variable {carrier : NodeClass}

/-- The items of a linked list cover its head, where those of its rest cover the rest. -/
theorem linkedItems_step (shapes : fieldShapes carrier = [.one, .one])
    {fuel : Nat} (grammar : OfGrammar node) (isCarrier : node.kind = carrier)
    (restCovers : ∀ rest, rest ∈ node.children → Covers (linkedItems carrier fuel rest) [rest]) :
    Covers (linkedItems carrier (fuel + 1) node) node.children := by
  obtain ⟨first, second, fields, one, other⟩ :=
    @fields_two node .one .one grammar (by rw [isCarrier, shapes])
  have item : node.node? 0 = first.node? := node?_eq (by rw [fields]; rfl)
  have next : node.node? 1 = second.node? := node?_eq (by rw [fields]; rfl)
  rw [linkedItems, if_pos isCarrier, children_eq_two fields, nodes_of_one one,
    nodes_of_one other, ← item, ← next]
  refine (Covers.refl _).append ?_
  cases found : node.node? 1 with
  | none => exact .refl []
  | some rest => exact restCovers rest (node?_child found)

/-- The items of a linked list cover the list. -/
theorem linkedItems_covers (isGlue : carrier ∈ glueClasses)
    (shapes : fieldShapes carrier = [.one, .one]) {fuel : Nat} (enough : node.size ≤ fuel)
    (grammar : OfGrammar node) : Covers (linkedItems carrier fuel node) [node] := by
  induction fuel generalizing node with
  | zero =>
      rw [Node.size_eq] at enough
      omega
  | succ fuel ih =>
      by_cases isCarrier : node.kind = carrier
      · refine (linkedItems_step shapes grammar isCarrier ?_).trans
          (.glued grammar (isCarrier ▸ isGlue))
        intro rest isChild
        have smaller := size_lt_of_child isChild
        exact ih (by omega) (grammar.child isChild)
      · rw [linkedItems, if_neg isCarrier]
        exact .refl [node]

theorem linkedItems_covers_children (isGlue : carrier ∈ glueClasses)
    (shapes : fieldShapes carrier = [.one, .one]) (grammar : OfGrammar node)
    (isCarrier : node.kind = carrier) :
    Covers (linkedItems carrier node.size node) node.children := by
  obtain ⟨fuel, same⟩ : ∃ fuel, node.size = fuel + 1 := ⟨node.size - 1, by
    rw [Node.size_eq]
    omega⟩
  rw [same]
  refine linkedItems_step shapes grammar isCarrier fun rest isChild => ?_
  have smaller := size_lt_of_child isChild
  exact linkedItems_covers isGlue shapes (by omega) (grammar.child isChild)

/-- A field holds what the schema and the grammar say; an ignored field may hold a label. -/
def EdgeFits (edge : EdgeKind) (field : Field) : Prop :=
  (FieldShape.ofEdge edge).Fits field ∨ edge = .ignored ∧ FieldShape.label.Fits field

theorem label_covers (fits : FieldShape.label.Fits field)
    (grammar : ∀ part ∈ field.nodes, OfGrammar part) : Covers [] field.nodes := by
  obtain ⟨label, rfl, isLabel⟩ := fits
  have labelGrammar := grammar label (List.mem_singleton_self _)
  obtain ⟨first, fields, plain⟩ := @fields_one label .plain labelGrammar (by rw [isLabel]; rfl)
  have noNodes : first.nodes = [] := plain
  have covers := Covers.glued labelGrammar (by rw [isLabel]; decide)
  rw [children_eq_one fields, noNodes] at covers
  exact covers

/-- What the loop takes from one field covers what the field holds. -/
theorem edgeParts_covers {edge : EdgeKind} (fits : EdgeFits edge field)
    (grammar : ∀ part ∈ field.nodes, OfGrammar part) :
    ∃ parts, edgeParts (edge, field) = .ok parts ∧ Covers parts field.nodes := by
  rcases fits with fits | ⟨rfl, fits⟩
  · cases edge with
    | one => exact ⟨_, rfl, .refl _⟩
    | many => exact ⟨_, rfl, .refl _⟩
    | postfixed =>
        obtain ⟨nodes, rfl, areMarkers⟩ := fits
        refine ⟨(nodes.map Node.children).flatten, ?_, .markers grammar areMarkers⟩
        unfold edgeParts
        have grammars : ∀ marker ∈ nodes, OfGrammar marker := grammar
        simp only [Field.nodes, mapM_markerParts grammars areMarkers]
        rfl
    | ignored | hot | carrier =>
        have noNodes : field.nodes = [] := fits
        exact ⟨[], rfl, noNodes ▸ .refl []⟩
  · exact ⟨[], rfl, label_covers fits grammar⟩

theorem edges_cover {edges : List EdgeKind} {fields : List Field}
    (fits : List.Forall₂ EdgeFits edges fields)
    (grammar : ∀ field ∈ fields, ∀ part ∈ field.nodes, OfGrammar part) :
    ∃ parts, (edges.zip fields).mapM edgeParts = .ok parts ∧
      Covers parts.flatten (fields.flatMap Field.nodes) := by
  induction fits with
  | nil => exact ⟨[], rfl, .refl []⟩
  | cons fitsFirst _ ih =>
      obtain ⟨first, taken, covers⟩ := edgeParts_covers fitsFirst
        (grammar _ List.mem_cons_self)
      obtain ⟨others, later, coversRest⟩ := ih fun field member =>
        grammar field (List.mem_cons_of_mem _ member)
      exact ⟨first :: others, mapM_cons_eq_ok.mpr ⟨first, others, taken, later, rfl⟩,
        covers.append coversRest⟩

/-- A class whose fields the schema alone describes. -/
def IsGeneric (kind : NodeClass) : Prop :=
  fieldShapes kind = (nodeFieldSchema kind).map FieldShape.ofEdge ∨ kind = .labeledStatement

theorem generic_fits (grammar : OfGrammar node) (generic : IsGeneric node.kind) :
    List.Forall₂ EdgeFits (nodeFieldSchema node.kind) node.fields := by
  rcases generic with same | isLabeled
  · have fits := grammar.shaped.fields
    rw [same, List.forall₂_map_left_iff] at fits
    exact fits.imp fun _ _ fit => .inl fit
  · obtain ⟨first, second, fields, label, one⟩ :=
      @fields_two node .label .one grammar (by rw [isLabeled]; rfl)
    rw [isLabeled, fields]
    exact .cons (.inr ⟨rfl, label⟩) (.cons (.inl one) .nil)

/-! ## What the loop pushes -/

/-- At every node but a statement the loop takes what covers the fields of the node. -/
theorem pushed_covers (grammar : OfGrammar node) (other : node.kind ≠ .simpleStatement) :
    ∃ parts, pushed node = .ok parts ∧ Covers parts node.children := by
  unfold pushed
  split
  case h_1 isKind | h_2 isKind =>
    obtain ⟨first, second, fields, one, many⟩ :=
      @fields_two node .one .many grammar (by rw [isKind]; rfl)
    have held : node.nodesAt 0 = first.nodes := nodesAt_eq (by rw [fields]; rfl)
    have rest : node.nodesAt 1 = second.nodes := nodesAt_eq (by rw [fields]; rfl)
    exact ⟨_, rfl, by rw [held, rest, children_eq_two fields]; exact .refl _⟩
  case h_3 isKind | h_4 isKind | h_5 isKind =>
    obtain ⟨first, second, third, fields, one, plain, many⟩ :=
      @fields_three node .one .plain .many grammar (by rw [isKind]; rfl)
    have noNodes : second.nodes = [] := plain
    have held : node.nodesAt 0 = first.nodes := nodesAt_eq (by rw [fields]; rfl)
    have rest : node.nodesAt 2 = third.nodes := nodesAt_eq (by rw [fields]; rfl)
    refine ⟨_, rfl, ?_⟩
    rw [held, rest, children_eq_three fields, noNodes, List.append_nil]
    exact .refl _
  case h_6 isKind =>
    obtain ⟨first, second, fields, plain, one⟩ :=
      @fields_two node .plain .one grammar (by rw [isKind]; rfl)
    have noNodes : first.nodes = [] := plain
    have held : node.nodesAt 1 = second.nodes := nodesAt_eq (by rw [fields]; rfl)
    exact ⟨_, rfl, by rw [held, children_eq_two fields, noNodes]; exact .refl _⟩
  case h_7 isKind => exact absurd isKind other
  case h_8 isKind => exact targetParts_covers grammar isKind
  case h_9 isKind =>
    obtain ⟨first, second, third, fourth, fields, many, plain, named, one⟩ :=
      @fields_four node .many .plain .plain .one grammar (by rw [isKind]; rfl)
    have noNodes : second.nodes = [] := plain
    have noName : third.nodes = [] := named
    have held : node.nodesAt 0 = first.nodes := nodesAt_eq (by rw [fields]; rfl)
    have rest : node.nodesAt 3 = fourth.nodes := nodesAt_eq (by rw [fields]; rfl)
    refine ⟨_, rfl, ?_⟩
    rw [held, rest, children_eq_four fields, noNodes, noName, List.append_nil, List.append_nil]
    exact .refl _
  case h_10 isKind =>
    obtain ⟨first, fields, plain⟩ := @fields_one node .plain grammar (by rw [isKind]; rfl)
    have noNodes : first.nodes = [] := plain
    exact ⟨_, rfl, by rw [children_eq_one fields, noNodes]; exact .refl _⟩
  case h_11 isKind =>
    obtain ⟨first, second, third, fields, plain, one, last⟩ :=
      @fields_three node .plain .one .one grammar (by rw [isKind]; rfl)
    have noNodes : first.nodes = [] := plain
    have held : node.nodesAt 1 = second.nodes := nodesAt_eq (by rw [fields]; rfl)
    have rest : node.nodesAt 2 = third.nodes := nodesAt_eq (by rw [fields]; rfl)
    exact ⟨_, rfl, by rw [held, rest, children_eq_three fields, noNodes]; exact .refl _⟩
  case h_12 isKind =>
    obtain ⟨first, second, third, fourth, fields, plain, one, next, last⟩ :=
      @fields_four node .plain .one .one .one grammar (by rw [isKind]; rfl)
    have noNodes : first.nodes = [] := plain
    have held : node.nodesAt 1 = second.nodes := nodesAt_eq (by rw [fields]; rfl)
    have rest : node.nodesAt 2 = third.nodes := nodesAt_eq (by rw [fields]; rfl)
    have body : node.nodesAt 3 = fourth.nodes := nodesAt_eq (by rw [fields]; rfl)
    exact ⟨_, rfl, by rw [held, rest, body, children_eq_four fields, noNodes]; exact .refl _⟩
  case h_13 isKind =>
    exact ⟨_, rfl, linkedItems_covers_children (by decide) rfl grammar isKind⟩
  case h_14 isKind =>
    exact ⟨_, rfl, linkedItems_covers_children (by decide) rfl grammar isKind⟩
  case h_15 =>
    have generic : IsGeneric node.kind := by
      unfold IsGeneric
      cases isKind : node.kind <;> first | exact .inl rfl | exact .inr rfl | contradiction
    obtain ⟨parts, taken, covers⟩ := edges_cover (generic_fits grammar generic)
      fun field member => grammar.childrenOf member
    exact ⟨parts.flatten, by rw [taken]; rfl, covers⟩

/-- A statement of the grammar has a chain as its target and a value or none. -/
theorem statement_fields (grammar : OfGrammar node) (isStatement : node.kind = .simpleStatement) :
    ∃ target, node.node? 0 = some target ∧ target.kind = .accessChain ∧ OfGrammar target ∧
      node.children = target :: node.nodesAt 1 := by
  obtain ⟨target, found, isChain⟩ := grammar.shaped.target isStatement
  obtain ⟨first, second, fields, one, value⟩ :=
    @fields_two node .one .one grammar (by rw [isStatement]; rfl)
  have held : node.node? 0 = first.node? := node?_eq (by rw [fields]; rfl)
  have rest : node.nodesAt 1 = second.nodes := nodesAt_eq (by rw [fields]; rfl)
  refine ⟨target, found, isChain, grammar.child (node?_child found), ?_⟩
  rw [children_eq_two fields, nodes_of_one one, ← held, found, rest]
  rfl

variable {target : Node}

theorem isAssignment_eq (isStatement : node.kind = .simpleStatement)
    (found : node.node? 0 = some target) :
    isAssignment node =
      ((node.node? 1).isSome && (target.node? 1).isNone && (target.nodesAt 2).isEmpty) := by
  unfold isAssignment
  rw [isStatement, found]
  rfl

theorem directWrite_eq (isStatement : node.kind = .simpleStatement)
    (found : node.node? 0 = some target) (grammar : OfGrammar target)
    (isChain : target.kind = .accessChain) : directWrite node target = isAssignment node := by
  obtain ⟨text, named, notEmpty⟩ := grammar.shaped.named isChain
  rw [isAssignment_eq isStatement found]
  unfold directWrite
  rw [named]
  simp [notEmpty]

/-- The name that a statement assigns has no parts. -/
theorem assigned_children (found : node.node? 0 = some target)
    (grammar : OfGrammar target) (isChain : target.kind = .accessChain)
    (assigns : isAssignment node = true) : target.children = [] := by
  rw [isAssignment_eq (isAssignment_kind assigns) found] at assigns
  simp only [Bool.and_eq_true, Option.isNone_iff_eq_none, List.isEmpty_iff] at assigns
  obtain ⟨⟨_, uncalled⟩, alone⟩ := assigns
  obtain ⟨first, second, third, fields, plain, one, _⟩ :=
    @fields_three target .plain .one .markers grammar (by rw [isChain]; rfl)
  have noNodes : first.nodes = [] := plain
  have held : target.node? 1 = second.node? := node?_eq (by rw [fields]; rfl)
  have rest : target.nodesAt 2 = third.nodes := nodesAt_eq (by rw [fields]; rfl)
  rw [children_eq_three fields, noNodes, nodes_of_one one, ← held, uncalled, ← rest, alone]
  rfl

theorem statementTarget_eq (found : node.node? 0 = some target)
    (isChain : target.kind = .accessChain) (isStatement : node.kind = .simpleStatement)
    (notBare : ¬ IsBare node) : statementTarget node = .ok target := by
  have used : (node.node? 1).isSome ∨ hasCall target := by
    by_contra unused
    rw [not_or, Bool.not_eq_true, Bool.not_eq_true] at unused
    refine notBare ⟨isStatement, ?_, target, found, unused.2⟩
    rw [Option.isNone_iff_eq_none]
    exact Option.isSome_eq_false_iff.mp unused.1 |> Option.isNone_iff_eq_none.mp
  unfold statementTarget
  rw [found]
  dsimp only
  rw [require_of_holds isChain, require_of_holds used]
  rfl

/-- At a statement the loop takes the value, and the parts of what it does not assign. -/
theorem pushed_statement (grammar : OfGrammar node) (isStatement : node.kind = .simpleStatement)
    (notBare : ¬ IsBare node) :
    ∃ target parts, node.node? 0 = some target ∧ pushed node = .ok parts ∧
      Covers parts
        (if isAssignment node then node.nodesAt 1 else target.children ++ node.nodesAt 1) := by
  obtain ⟨target, found, isChain, targetGrammar, _⟩ := statement_fields grammar isStatement
  have isTarget := statementTarget_eq found isChain isStatement notBare
  have direct := directWrite_eq isStatement found targetGrammar isChain
  obtain ⟨parts, taken, covers⟩ := targetParts_covers targetGrammar isChain
  unfold pushed
  rw [isStatement]
  simp only [isTarget, ok_bind, direct, taken]
  by_cases assigns : isAssignment node
  · simp only [assigns, if_true]
    exact ⟨target, _, found, rfl, .refl _⟩
  · simp only [assigns]
    exact ⟨target, _, found, rfl, covers.append (.refl _)⟩

end Nodes

end OnecRuntime.Projection
