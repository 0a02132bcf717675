import OnecRuntime.Library.Worklist
import OnecRuntime.SourceMaps.Segments

/-!
# Syntax trees of the language

The nodes that the generated parser makes, as the passes over them see them: a
class, the fields of the class in order, and a span.  A field holds nothing,
names, a node or a tuple of nodes.
-/

namespace OnecRuntime.Bsl

open OnecRuntime.Library
open OnecRuntime.SourceMaps (Text SourceSpan)

/-- The classes of the generated parser. -/
inductive NodeClass where
  | module
  | moduleElements
  | notebookCell
  | moduleVariableDeclaration
  | moduleVariable
  | method
  | procedureDeclaration
  | functionDeclaration
  | methodBody
  | localVariableDeclaration
  | parameterList
  | parameter
  | signedConstant
  | decoration
  | annotationParameters
  | namedAnnotationParameter
  | positionalAnnotationParameter
  | codeBlock
  | labeledStatement
  | label
  | continueStatement
  | breakStatement
  | gotoStatement
  | ifStatement
  | elseIfClause
  | elseClause
  | whileStatement
  | forEachStatement
  | forRangeStatement
  | tryStatement
  | returnStatement
  | raiseStatement
  | raiseCallParameters
  | continuedExpression
  | postfixedPrimary
  | expressionTail
  | executeStatement
  | addHandlerStatement
  | removeHandlerStatement
  | awaitStatement
  | simpleStatement
  | orExpression
  | andExpression
  | comparisonExpression
  | additiveExpression
  | multiplicativeExpression
  | unaryExpression
  | parenthesizedExpression
  | accessChain
  | memberAccess
  | indexAccess
  | callArguments
  | argumentList
  | omittedArgument
  | newExpression
  | ternaryExpression
  | constantLiteral
  | regionDirective
  | endRegionDirective
  | preprocessorIfDirective
  | preprocessorElseIfDirective
  | preprocessorElseDirective
  | preprocessorEndIfDirective
  | useDirective
  | nativeDirective
  | stackDirective
  | usedLibrary
  | preprocessorOr
  | preprocessorAnd
  | preprocessorNot
  | preprocessorIdentifier
  deriving DecidableEq

mutual

inductive Node where
  | mk (kind : NodeClass) (span : SourceSpan) (fields : List Field)

/-- What a field of a node holds: nothing, names, a node or a tuple of nodes. -/
inductive Field where
  | absent
  | name (text : Text)
  | names (texts : List Text)
  | one (node : Node)
  | many (nodes : List Node)

end

namespace Field

def nodes : Field → List Node
  | one node => [node]
  | many nodes => nodes
  | _ => []

/-- The node of a field that holds one. -/
def node? : Field → Option Node
  | one node => some node
  | _ => none

def name? : Field → Option Text
  | name text => some text
  | _ => none

end Field

namespace Node

def kind : Node → NodeClass
  | mk kind _ _ => kind

def span : Node → SourceSpan
  | mk _ span _ => span

def fields : Node → List Field
  | mk _ _ fields => fields

abbrev start (node : Node) : Nat := node.span.start

abbrev stop (node : Node) : Nat := node.span.stop

/-- The field at a place in the order of the class. -/
def field (node : Node) (place : Nat) : Field := node.fields.getD place .absent

def node? (node : Node) (place : Nat) : Option Node := (node.field place).node?

def nodesAt (node : Node) (place : Nat) : List Node := (node.field place).nodes

def name? (node : Node) (place : Nat) : Option Text := (node.field place).name?

/-- The nodes of all fields. -/
def children (node : Node) : List Node := node.fields.flatMap Field.nodes

end Node

mutual

def Node.size : Node → Nat
  | .mk _ _ fields => 1 + fieldsSize fields

def Field.size : Field → Nat
  | .one node => node.size
  | .many nodes => nodesSize nodes
  | .absent => 0
  | .name _ => 0
  | .names _ => 0

def fieldsSize : List Field → Nat
  | [] => 0
  | field :: rest => field.size + fieldsSize rest

def nodesSize : List Node → Nat
  | [] => 0
  | node :: rest => node.size + nodesSize rest

end

namespace Node

theorem nodesSize_eq_load (nodes : List Node) : nodesSize nodes = load size nodes := by
  induction nodes with
  | nil => rfl
  | cons node rest ih => rw [nodesSize, load_cons, ih]

theorem fieldSize_eq_load (field : Field) : field.size = load size field.nodes := by
  cases field with
  | one node => rw [Field.size, Field.nodes, load_cons]; rfl
  | many nodes => rw [Field.size, nodesSize_eq_load, Field.nodes]
  | absent => rw [Field.size]; rfl
  | name _ => rw [Field.size]; rfl
  | names _ => rw [Field.size]; rfl

theorem fieldsSize_eq_load (fields : List Field) :
    fieldsSize fields = load size (fields.flatMap Field.nodes) := by
  induction fields with
  | nil => rfl
  | cons field rest ih =>
      rw [fieldsSize, List.flatMap_cons, load_append, fieldSize_eq_load, ih]

theorem size_eq (node : Node) : node.size = 1 + load size node.children := by
  cases node with
  | mk kind span fields => rw [size, fieldsSize_eq_load, children, Node.fields]

theorem children_descend : Descends children size := by
  intro node
  rw [size_eq]
  omega

theorem nodesAt_sublist (node : Node) (place : Nat) :
    (node.nodesAt place).Sublist node.children := by
  unfold nodesAt field children
  rw [List.getD_eq_getElem?_getD]
  cases found : node.fields[place]? with
  | none => exact List.nil_sublist _
  | some field =>
      obtain ⟨inside, rfl⟩ := List.getElem?_eq_some_iff.mp found
      rw [List.flatMap]
      exact List.sublist_flatten_of_mem
        (List.mem_map_of_mem (List.getElem_mem inside))

variable {node child : Node}

theorem mem_children {place : Nat} (member : child ∈ node.nodesAt place) :
    child ∈ node.children :=
  (node.nodesAt_sublist place).mem member

theorem node?_mem {place : Nat} (found : node.node? place = some child) :
    child ∈ node.nodesAt place := by
  unfold node? at found
  unfold nodesAt
  cases held : node.field place with
  | one other =>
      rw [held] at found
      obtain rfl := Option.some.inj found
      exact List.mem_singleton_self _
  | absent | name _ | names _ | many _ =>
      rw [held] at found
      cases found

/-- The nodes of a tree, each before its children. -/
def preorder (node : Node) : List Node := reached children size [node]

theorem preorder_eq (node : Node) : node.preorder = node :: reached children size node.children := by
  rw [preorder, reached_cons children_descend, reached_nil, List.append_nil]

theorem self_mem_preorder (node : Node) : node ∈ node.preorder := by
  rw [preorder_eq]
  exact List.mem_cons_self

theorem mem_preorder {other : Node} :
    other ∈ node.preorder ↔ other = node ∨ ∃ child ∈ node.children, other ∈ child.preorder := by
  rw [preorder_eq, List.mem_cons, reached_eq_flatMap children_descend, List.mem_flatMap]
  rfl

theorem child_mem_preorder (member : child ∈ node.children) :
    child ∈ node.preorder :=
  mem_preorder.mpr (.inr ⟨child, member, child.self_mem_preorder⟩)

theorem preorder_trans {middle other : Node} (upTo : middle ∈ node.preorder)
    (below : other ∈ middle.preorder) : other ∈ node.preorder := by
  rw [preorder_eq] at below
  rcases List.mem_cons.mp below with rfl | under
  · exact upTo
  · exact reached_trans children_descend upTo under

end Node

end OnecRuntime.Bsl
