import OnecRuntime.Bsl.Lexer
import OnecRuntime.Bsl.Syntax
import OnecRuntime.Dependencies.Resolver
import OnecRuntime.Library.Bisect

/-!
# Scope facts of a syntax tree

`bsl/full_ast_worker_projection.py`: a loop over a stack of nodes collects the
names that a scope declares, and the names of its access chains with the way
they are used.  From these facts a module is projected to the model that the
dependency resolver reads.
-/

namespace OnecRuntime.Projection

open OnecRuntime.Library
open OnecRuntime.Bsl (Node Field NodeClass Token TokenType)
open OnecRuntime.Dependencies (BareName BareNameKind ParsedMethodModel ParsedModuleModel
  sortedNames)
open OnecRuntime.SourceMaps (Text SourceSpan)

inductive EdgeKind where
  | ignored
  | one
  | many
  | postfixed
  | hot
  | carrier
  deriving DecidableEq

open EdgeKind in
/-- `_NODE_FIELD_SCHEMA`, without the span that ends every entry. -/
def nodeFieldSchema : NodeClass → List EdgeKind
  | .module => [many, one]
  | .moduleElements => [carrier, carrier]
  | .notebookCell => [one]
  | .moduleVariableDeclaration => [many]
  | .moduleVariable => [ignored, ignored]
  | .method => [many, ignored, one]
  | .procedureDeclaration => [ignored, one, ignored, one]
  | .functionDeclaration => [ignored, one, ignored, one]
  | .methodBody => [many, one]
  | .localVariableDeclaration => [hot]
  | .parameterList => [many]
  | .parameter => [hot, ignored, hot, hot]
  | .signedConstant => [ignored, ignored]
  | .decoration => [ignored, one]
  | .annotationParameters => [many]
  | .namedAnnotationParameter => [ignored, one]
  | .positionalAnnotationParameter => [one]
  | .codeBlock => [carrier, carrier]
  | .labeledStatement => [ignored, one]
  | .label => [ignored]
  | .continueStatement => []
  | .breakStatement => []
  | .gotoStatement => [ignored]
  | .ifStatement => [one, one, many, one]
  | .elseIfClause => [one, one]
  | .elseClause => [one]
  | .whileStatement => [one, one]
  | .forEachStatement => [hot, hot, hot]
  | .forRangeStatement => [hot, hot, hot, hot]
  | .tryStatement => [one, one]
  | .returnStatement => [one]
  | .raiseStatement => [one]
  | .raiseCallParameters => [one, postfixed, one]
  | .continuedExpression => [ignored, one, one]
  | .postfixedPrimary => [one, postfixed]
  | .expressionTail => [ignored, many, ignored, many, ignored, many, many, many]
  | .executeStatement => [one]
  | .addHandlerStatement => [one, one]
  | .removeHandlerStatement => [one, one]
  | .awaitStatement => [one]
  | .simpleStatement => [hot, hot]
  | .orExpression => [hot, hot]
  | .andExpression => [hot, hot]
  | .comparisonExpression => [hot, ignored, hot]
  | .additiveExpression => [hot, ignored, hot]
  | .multiplicativeExpression => [hot, ignored, hot]
  | .unaryExpression => [ignored, hot]
  | .parenthesizedExpression => [one, postfixed]
  | .accessChain => [hot, hot, hot]
  | .memberAccess => [ignored, one]
  | .indexAccess => [one]
  | .callArguments => [one]
  | .argumentList => [many]
  | .omittedArgument => []
  | .newExpression => [ignored, one]
  | .ternaryExpression => [one, one, one]
  | .constantLiteral => [ignored]
  | .regionDirective => [ignored]
  | .endRegionDirective => []
  | .preprocessorIfDirective => [one]
  | .preprocessorElseIfDirective => [one]
  | .preprocessorElseDirective => []
  | .preprocessorEndIfDirective => []
  | .useDirective => [one]
  | .nativeDirective => []
  | .stackDirective => []
  | .usedLibrary => [ignored]
  | .preprocessorOr => [one, many]
  | .preprocessorAnd => [one, many]
  | .preprocessorNot => [one]
  | .preprocessorIdentifier => [ignored]

inductive ProjectionError where
  | typeError (message : String)
  | valueError (message : String)
  | bslParseError (message : String) (span : SourceSpan) (code : String)
  deriving DecidableEq

/-- `str` of a field that holds a name. -/
def nameAt (node : Node) (place : Nat) : Text := (node.name? place).getD "None".toList

def namesAt (node : Node) (place : Nat) : List Text :=
  match node.field place with
  | .names texts => texts
  | _ => []

/-! ## What a node pushes on the stack -/

/-- The parts of a member or index access behind a chain. -/
def markerParts (unsupported : String) (marker : Node) : Except ProjectionError (List Node) :=
  match marker.kind with
  | .memberAccess => .ok (marker.node? 1).toList
  | .indexAccess =>
      match marker.node? 0 with
      | some index => .ok [index]
      | none => .error (.typeError "unclassified generated AST node: NoneType")
  | _ => .error (.typeError unsupported)

/-- The arguments of a chain and the parts of what is behind it. -/
def targetParts (target : Node) : Except ProjectionError (List Node) := do
  let behind ← (target.nodesAt 2).mapM
    (markerParts "generated AccessChain has an unsupported postfix")
  pure ((target.node? 1).toList ++ behind.flatten)

def hasCall (target : Node) : Bool :=
  (target.node? 1).isSome || (target.nodesAt 2).any fun marker =>
    decide (marker.kind = .memberAccess) && (marker.node? 1).isSome

/-- The statement assigns its target, which is a name without a call or a part behind it. -/
def directWrite (statement target : Node) : Bool :=
  (statement.node? 1).isSome && (target.name? 0).any (· ≠ []) && (target.node? 1).isNone &&
    (target.nodesAt 2).isEmpty

/-- The target of a statement, which must be assigned or called. -/
def statementTarget (statement : Node) : Except ProjectionError Node :=
  match statement.node? 0 with
  | none => .error (.typeError "generated SimpleStatement has an unsupported target")
  | some target => do
      require (target.kind = .accessChain)
        (.typeError "generated SimpleStatement has an unsupported target")
      require ((statement.node? 1).isSome ∨ hasCall target)
        (.bslParseError s!"bare access-chain statement is forbidden at {target.start}" target.span
          "bare_access_chain_statement")
      pure target

/-- The items of a linked list of blocks or module elements. -/
def linkedItems (carrier : NodeClass) : Nat → Node → List Node
  | 0, _ => []
  | fuel + 1, current =>
      if current.kind = carrier then
        (current.node? 0).toList ++
          match current.node? 1 with
          | none => []
          | some rest => linkedItems carrier fuel rest
      else [current]

def edgeParts : EdgeKind × Field → Except ProjectionError (List Node)
  | (.one, field) => .ok field.nodes
  | (.many, field) => .ok field.nodes
  | (.postfixed, field) => do
      let behind ← field.nodes.mapM
        (markerParts "generated expression has an unsupported postfix")
      pure behind.flatten
  | _ => .ok []

/-- What the loop pushes for a node, in the order in which it is taken from the stack. -/
def pushed (node : Node) : Except ProjectionError (List Node) :=
  match node.kind with
  | .orExpression => .ok (node.nodesAt 0 ++ node.nodesAt 1)
  | .andExpression => .ok (node.nodesAt 0 ++ node.nodesAt 1)
  | .comparisonExpression => .ok (node.nodesAt 0 ++ node.nodesAt 2)
  | .additiveExpression => .ok (node.nodesAt 0 ++ node.nodesAt 2)
  | .multiplicativeExpression => .ok (node.nodesAt 0 ++ node.nodesAt 2)
  | .unaryExpression => .ok (node.nodesAt 1)
  | .simpleStatement => do
      let target ← statementTarget node
      if directWrite node target then pure (node.nodesAt 1)
      else do
        let parts ← targetParts target
        pure (parts ++ node.nodesAt 1)
  | .accessChain => targetParts node
  | .parameter => .ok (node.nodesAt 0 ++ node.nodesAt 3)
  | .localVariableDeclaration => .ok []
  | .forEachStatement => .ok (node.nodesAt 1 ++ node.nodesAt 2)
  | .forRangeStatement => .ok (node.nodesAt 1 ++ node.nodesAt 2 ++ node.nodesAt 3)
  | .codeBlock => .ok (linkedItems .codeBlock node.size node)
  | .moduleElements => .ok (linkedItems .moduleElements node.size node)
  | kind => do
      let parts ← ((nodeFieldSchema kind).zip node.fields).mapM edgeParts
      pure parts.flatten

/-! ## What the loop records -/

/-- The flags of a name with one more use. -/
def joined (kinds other : BareNameKind) : BareNameKind := if kinds = other then kinds else .both

/-- What is known of one name: where it stands first, how it is spelled there, and its uses. -/
structure NameFact where
  start : Nat
  sequence : Nat
  spelling : Text
  kinds : BareNameKind

/-- The sets of the loop; a name stands under its casefolded spelling. -/
structure WalkState (casefold : Text → Text) where
  declaredNames : List Text
  names : Dictionary Text NameFact
  sequence : Nat
  spelled : ∀ name fact, names.get? name = some fact → casefold fact.spelling = name

variable (casefold : Text → Text)

def WalkState.initial : WalkState casefold where
  declaredNames := []
  names := .empty
  sequence := 0
  spelled := fun _ _ found => nomatch found

variable {casefold}

/-- The fact of a name after one more use of it. -/
def NameFact.used (fact : Option NameFact) (target : Node) (sequence : Nat)
    (kind : BareNameKind) : NameFact :=
  match fact with
  | none => ⟨target.start, sequence, nameAt target 0, kind⟩
  | some fact =>
      if target.start < fact.start ∨ target.start = fact.start ∧ sequence < fact.sequence then
        ⟨target.start, sequence, nameAt target 0, joined fact.kinds kind⟩
      else { fact with kinds := joined fact.kinds kind }

theorem NameFact.used_spelling {fact : Option NameFact} {target : Node} {sequence : Nat}
    {kind : BareNameKind}
    (spelled : ∀ known, fact = some known →
      casefold known.spelling = casefold (nameAt target 0)) :
    casefold (used fact target sequence kind).spelling = casefold (nameAt target 0) := by
  cases fact with
  | none => rfl
  | some known =>
      unfold used
      dsimp only
      split
      · rfl
      · exact spelled known rfl

def WalkState.use (state : WalkState casefold) (target : Node) (kind : BareNameKind) :
    WalkState casefold where
  declaredNames := state.declaredNames
  names := state.names.set (casefold (nameAt target 0))
    (.used (state.names.get? (casefold (nameAt target 0))) target state.sequence kind)
  sequence := state.sequence + 1
  spelled := by
    intro name fact found
    rcases Dictionary.get?_set_eq_some.mp found with ⟨rfl, rfl⟩ | ⟨_, before⟩
    · exact NameFact.used_spelling fun known held => state.spelled _ known held
    · exact state.spelled name fact before

def WalkState.declare (state : WalkState casefold) (names : List Text) : WalkState casefold :=
  { state with declaredNames := names.map casefold ++ state.declaredNames }

def record (node : Node) (state : WalkState casefold) : WalkState casefold :=
  match node.kind with
  | .simpleStatement =>
      match node.node? 0 with
      | none => state
      | some target => state.use target (if directWrite node target then .bareWrite else .read)
  | .accessChain => state.use node .read
  | .parameter => state.declare [nameAt node 2]
  | .localVariableDeclaration => state.declare (namesAt node 0)
  | .forEachStatement => state.declare [nameAt node 0]
  | .forRangeStatement => state.declare [nameAt node 0]
  | _ => state

/-- One turn of the loop. -/
def visit (node : Node) (state : WalkState casefold) :
    Except ProjectionError (WalkState casefold × List Node) := do
  let parts ← pushed node
  pure (record node state, parts)

/-! ## The facts of a scope -/

structure ScopeFacts (casefold : Text → Text) where
  declaredNames : List Text
  bareNames : List BareName
  distinct : (bareNames.map (BareName.normalizedName casefold)).Nodup

/-- The names in the order in which they stand first. -/
def WalkState.orderedNames (state : WalkState casefold) : List (Text × NameFact) :=
  sortedBy (fun entry => toLex (entry.2.start, entry.2.sequence)) state.names.entries

theorem WalkState.mem_orderedNames {state : WalkState casefold} {entry : Text × NameFact} :
    entry ∈ state.orderedNames ↔ state.names.get? entry.1 = some entry.2 := by
  rw [orderedNames, mem_sortedBy, Dictionary.get?_eq_some]

def bareNameOf (entry : Text × NameFact) : BareName := ⟨entry.2.spelling, entry.2.kinds⟩

theorem WalkState.normalized_orderedNames (state : WalkState casefold) :
    (state.orderedNames.map bareNameOf).map (BareName.normalizedName casefold) =
      state.orderedNames.map Prod.fst := by
  rw [List.map_map]
  apply List.map_congr_left
  intro entry member
  exact state.spelled _ _ (mem_orderedNames.mp member)

def WalkState.facts (state : WalkState casefold) : ScopeFacts casefold where
  declaredNames := sortedNames state.declaredNames
  bareNames := state.orderedNames.map bareNameOf
  distinct := by
    rw [state.normalized_orderedNames]
    exact ((sortedBy_perm _ _).map Prod.fst).nodup_iff.mpr state.names.distinct

variable (casefold)

/-- `_collect_scope_facts`. -/
def collectScopeFacts (roots : List Node) : Except ProjectionError (ScopeFacts casefold) := do
  let state ← drain visit (load Node.size roots) roots (WalkState.initial casefold)
  pure state.facts

/-! ## A module -/

/-- Where the initializers of a method may stand: behind its local declarations. -/
def initializerOffset (body : Node) (tokens : List Token) : Except ProjectionError Nat :=
  match (body.nodesAt 0).getLast? with
  | none => .ok body.start
  | some declaration =>
      match tokens[bisectBefore (tokens.map Token.start) declaration.stop]? with
      | some ⟨.operator [';'], _, _, stop⟩ => .ok stop
      | _ => .error (.bslParseError
          s!"local declaration terminator is missing at {declaration.stop}"
          ⟨declaration.stop, declaration.stop, Nat.le_refl _⟩ "projection_invariant")

/-- The declaration of a method, with its body. -/
def methodParts (method : Node) : Except ProjectionError (Node × Node) :=
  match method.node? 2 with
  | none => .error (.typeError "generated Method has an unsupported declaration")
  | some declaration => do
      require (declaration.kind = .procedureDeclaration ∨ declaration.kind = .functionDeclaration)
        (.typeError "generated Method has an unsupported declaration")
      match declaration.node? 3 with
      | none => .error (.typeError "generated method declaration has an unsupported body")
      | some body => do
          require (body.kind = .methodBody)
            (.typeError "generated method declaration has an unsupported body")
          pure (declaration, body)

/-- `_project_method`. -/
def projectMethod (tokens : List Token) (method : Node) :
    Except ProjectionError (ParsedMethodModel casefold) := do
  let (declaration, body) ← methodParts method
  let scope ← collectScopeFacts casefold [declaration]
  let initializer ← initializerOffset body tokens
  require (nameAt declaration 0 ≠ []) (.valueError "name must be a non-empty string")
  require (body.start ≤ initializer) (.valueError "initializer cannot precede declarations")
  pure
    { name := nameAt declaration 0
      exported := (declaration.name? 2).isSome
      declarationSpan := method.span
      aliasDeclarationOffset := body.start
      aliasInitializerOffset := initializer
      declaredNames := scope.declaredNames
      bareNames := scope.bareNames
      distinct := scope.distinct }

/-- The items of a module: its methods and the statements of its body. -/
def moduleItems (root : Node) : List Node :=
  match root.node? 1 with
  | none => []
  | some elements => linkedItems .moduleElements elements.size elements

def methodNodes (root : Node) : List Node :=
  (moduleItems root).filter fun item => decide (item.kind = .method)

def moduleRoots (root : Node) : List Node :=
  (moduleItems root).filter fun item => decide (item.kind ≠ .method)

/-- The variables that a module declares. -/
def declaredVariables (root : Node) : List Text :=
  (root.nodesAt 0).flatMap fun declaration =>
    (declaration.nodesAt 0).map fun declared => casefold (nameAt declared 0)

/-- `project_full_ast_module`, without the syntax index. -/
def projectFullAstModule (sourceSha256 : String) (parserIdentity : String × String)
    (tokens : List Token) (root : Node) : Except ProjectionError (ParsedModuleModel casefold) := do
  require (root.kind = .module) (.typeError "root must be a generated Module")
  let moduleScope ← collectScopeFacts casefold (moduleRoots root)
  let methods ← (methodNodes root).mapM (projectMethod casefold tokens)
  pure
    { sourceSha256 := sourceSha256
      moduleVariables := sortedNames (declaredVariables casefold root ++ moduleScope.declaredNames)
      moduleBareNames := moduleScope.bareNames
      methods := methods
      parserIdentity := parserIdentity
      distinct := moduleScope.distinct }

end OnecRuntime.Projection
