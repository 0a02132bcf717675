import OnecRuntime.Projection.ScopeFacts

/-!
# Where names occur in a syntax tree

The trees of the grammar, and for each of them where a name is declared, written
or read.  A name is written where a statement assigns it without a call or a
part behind it; every other access chain reads the name of its root.
-/

namespace OnecRuntime.Projection

open OnecRuntime.Library
open OnecRuntime.Bsl (Node Field NodeClass)
open OnecRuntime.SourceMaps (Text)

/-! ## Trees of the grammar -/

inductive FieldShape where
  | plain
  | label
  | one
  | many
  | markers
  deriving DecidableEq

namespace FieldShape

def ofEdge : EdgeKind → FieldShape
  | .one => one
  | .many => many
  | .postfixed => markers
  | _ => plain

def Fits : FieldShape → Field → Prop
  | plain, field => field.nodes = []
  | label, field => ∃ node, field = .one node ∧ node.kind = .label
  | one, field => field = .absent ∨ ∃ node, field = .one node
  | many, field => ∃ nodes, field = .many nodes
  | markers, field => ∃ nodes, field = .many nodes ∧
      ∀ marker ∈ nodes, marker.kind = .memberAccess ∨ marker.kind = .indexAccess

end FieldShape

open FieldShape in
/-- What the grammar puts in the fields of a node. -/
def fieldShapes : NodeClass → List FieldShape
  | .orExpression => [one, many]
  | .andExpression => [one, many]
  | .comparisonExpression => [one, plain, many]
  | .additiveExpression => [one, plain, many]
  | .multiplicativeExpression => [one, plain, many]
  | .unaryExpression => [plain, one]
  | .simpleStatement => [one, one]
  | .accessChain => [plain, one, markers]
  | .parameter => [many, plain, plain, one]
  | .localVariableDeclaration => [plain]
  | .forEachStatement => [plain, one, one]
  | .forRangeStatement => [plain, one, one, one]
  | .codeBlock => [one, one]
  | .moduleElements => [one, one]
  | .labeledStatement => [label, one]
  | kind => (nodeFieldSchema kind).map ofEdge

instance decidableFound {α : Type} (found : Option α) (property : α → Prop)
    [DecidablePred property] : Decidable (∃ value, found = some value ∧ property value) :=
  match found with
  | none => isFalse fun ⟨_, impossible, _⟩ => nomatch impossible
  | some value => decidable_of_iff (property value)
      ⟨fun holds => ⟨value, rfl, holds⟩, fun ⟨_, same, holds⟩ => Option.some.inj same ▸ holds⟩

def fits : FieldShape → Field → Bool
  | .plain, field => field.nodes.isEmpty
  | .label, .one node => decide (node.kind = .label)
  | .one, .absent => true
  | .one, .one _ => true
  | .many, .many _ => true
  | .markers, .many nodes => decide
      (∀ marker ∈ nodes, marker.kind = .memberAccess ∨ marker.kind = .indexAccess)
  | _, _ => false

theorem fits_iff {shape : FieldShape} {field : Field} :
    fits shape field = true ↔ shape.Fits field := by
  cases shape with
  | plain =>
      unfold fits FieldShape.Fits
      exact List.isEmpty_iff
  | label | one | many | markers => cases field <;> simp [fits, FieldShape.Fits]

instance (shape : FieldShape) (field : Field) : Decidable (shape.Fits field) :=
  decidable_of_iff (fits shape field = true) fits_iff

structure Shaped (node : Node) : Prop where
  fields : List.Forall₂ FieldShape.Fits (fieldShapes node.kind) node.fields
  target : node.kind = .simpleStatement →
    ∃ target, node.node? 0 = some target ∧ target.kind = .accessChain
  named : node.kind = .accessChain → ∃ text, node.name? 0 = some text ∧ text ≠ []
  indexed : node.kind = .indexAccess → (node.node? 0).isSome

instance (node : Node) : Decidable (Shaped node) :=
  decidable_of_iff
    (List.Forall₂ FieldShape.Fits (fieldShapes node.kind) node.fields ∧
      (node.kind = .simpleStatement →
        ∃ target, node.node? 0 = some target ∧ target.kind = .accessChain) ∧
      (node.kind = .accessChain → ∃ text, node.name? 0 = some text ∧ text ≠ []) ∧
      (node.kind = .indexAccess → (node.node? 0).isSome))
    ⟨fun ⟨fields, target, named, indexed⟩ => ⟨fields, target, named, indexed⟩,
      fun shaped => ⟨shaped.fields, shaped.target, shaped.named, shaped.indexed⟩⟩

/-- Every node of the tree is shaped as in the grammar. -/
def OfGrammar (node : Node) : Prop := ∀ other ∈ node.preorder, Shaped other

instance (node : Node) : Decidable (OfGrammar node) :=
  inferInstanceAs (Decidable (∀ _ ∈ _, _))

variable {node : Node}

theorem OfGrammar.shaped (grammar : OfGrammar node) : Shaped node :=
  grammar node node.self_mem_preorder

theorem OfGrammar.below {other : Node} (grammar : OfGrammar node)
    (member : other ∈ node.preorder) : OfGrammar other :=
  fun lower inOther => grammar lower (Node.preorder_trans member inOther)

theorem OfGrammar.child {child : Node} (grammar : OfGrammar node)
    (member : child ∈ node.children) : OfGrammar child :=
  grammar.below (Node.child_mem_preorder member)

/-! ## Occurrences -/

section Occurrences

variable (casefold : Text → Text) (name : Text)

/-- The statement assigns a name without a call or a part behind it. -/
def isAssignment (statement : Node) : Bool :=
  decide (statement.kind = .simpleStatement) &&
    match statement.node? 0 with
    | none => false
    | some target =>
        (statement.node? 1).isSome && (target.node? 1).isNone && (target.nodesAt 2).isEmpty

/-- The parts of a node without the name that it assigns. -/
def otherParts (node : Node) : List Node :=
  if isAssignment node then node.nodesAt 1 else node.children

/-- An access chain of the name. -/
def IsChainOf (node : Node) : Prop :=
  node.kind = .accessChain ∧ casefold (nameAt node 0) = name

def Assigns (node : Node) : Prop :=
  isAssignment node = true ∧
    ∃ target, node.node? 0 = some target ∧ casefold (nameAt target 0) = name

def Declares (node : Node) : Prop :=
  match node.kind with
  | .parameter => casefold (nameAt node 2) = name
  | .localVariableDeclaration => ∃ declared ∈ namesAt node 0, casefold declared = name
  | .forEachStatement => casefold (nameAt node 0) = name
  | .forRangeStatement => casefold (nameAt node 0) = name
  | _ => False

/-- A statement that is an access chain without an assignment or a call. -/
def IsBare (node : Node) : Prop :=
  node.kind = .simpleStatement ∧ (node.node? 1).isNone ∧
    ∃ target, node.node? 0 = some target ∧ hasCall target = false

variable (roots : List Node)

/-- Some node of the trees has the property. -/
def Somewhere (property : Node → Prop) : Prop :=
  ∃ root ∈ roots, ∃ node ∈ root.preorder, property node

def WritesName : Prop := Somewhere roots (Assigns casefold name)

def DeclaresName : Prop := Somewhere roots (Declares casefold name)

/-- An access chain of the name stands where no statement assigns it. -/
def ReadsName : Prop :=
  (∃ root ∈ roots, IsChainOf casefold name root) ∨
    Somewhere roots fun parent => ∃ part ∈ otherParts parent, IsChainOf casefold name part

section Decidable

variable (roots : List Node)

instance : DecidablePred (IsChainOf casefold name) := fun _ => inferInstanceAs (Decidable (_ ∧ _))

instance : DecidablePred (Assigns casefold name) := fun _ => inferInstanceAs (Decidable (_ ∧ _))

instance : DecidablePred (Declares casefold name) := by
  intro node
  unfold Declares
  split <;> infer_instance

instance : DecidablePred IsBare := fun _ => inferInstanceAs (Decidable (_ ∧ _ ∧ _))

instance (property : Node → Prop) [DecidablePred property] : Decidable (Somewhere roots property) :=
  inferInstanceAs (Decidable (∃ _ ∈ _, _))

instance : Decidable (WritesName casefold name roots) :=
  inferInstanceAs (Decidable (Somewhere _ _))

instance : Decidable (DeclaresName casefold name roots) :=
  inferInstanceAs (Decidable (Somewhere _ _))

instance : Decidable (ReadsName casefold name roots) := inferInstanceAs (Decidable (_ ∨ Somewhere _ _))

end Decidable

end Occurrences

/-! ## Occurrences below one node -/

def InTree (property : Node → Prop) (node : Node) : Prop :=
  ∃ other ∈ node.preorder, property other

theorem inTree_iff {property : Node → Prop} :
    InTree property node ↔ property node ∨ ∃ child ∈ node.children, InTree property child := by
  unfold InTree
  simp only [@Node.mem_preorder node]
  constructor
  · rintro ⟨other, rfl | ⟨child, isChild, member⟩, holds⟩
    · exact .inl holds
    · exact .inr ⟨child, isChild, other, member, holds⟩
  · rintro (holds | ⟨child, isChild, other, member, holds⟩)
    · exact ⟨node, .inl rfl, holds⟩
    · exact ⟨other, .inr ⟨child, isChild, member⟩, holds⟩

/-! ## The fields of shaped nodes -/

section Fields

variable {node : Node}

variable {first : Field}

theorem children_eq_one (fields : node.fields = [first]) :
    node.children = first.nodes := by
  simp [Node.children, fields]

variable {second : Field}

theorem children_eq_two (fields : node.fields = [first, second]) :
    node.children = first.nodes ++ second.nodes := by
  simp [Node.children, fields]

theorem children_eq_three {third : Field}
    (fields : node.fields = [first, second, third]) :
    node.children = first.nodes ++ second.nodes ++ third.nodes := by
  simp [Node.children, fields]

theorem children_eq_four {third fourth : Field}
    (fields : node.fields = [first, second, third, fourth]) :
    node.children = first.nodes ++ second.nodes ++ third.nodes ++ fourth.nodes := by
  simp [Node.children, fields]

variable {field : Field}

theorem nodesAt_eq {place : Nat} (found : node.fields[place]? = some field) :
    node.nodesAt place = field.nodes := by
  unfold Node.nodesAt Node.field
  rw [List.getD_eq_getElem?_getD, found]
  rfl

theorem node?_eq {place : Nat} (found : node.fields[place]? = some field) :
    node.node? place = field.node? := by
  unfold Node.node? Node.field
  rw [List.getD_eq_getElem?_getD, found]
  rfl

theorem nodes_of_one (fits : FieldShape.one.Fits field) :
    field.nodes = field.node?.toList := by
  rcases fits with rfl | ⟨_, rfl⟩
  · rfl
  · rfl

end Fields

end OnecRuntime.Projection
