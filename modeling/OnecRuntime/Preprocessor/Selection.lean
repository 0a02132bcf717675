import OnecRuntime.Bsl.Lexer

/-!
# Conditions of preprocessor directives

`_ExpressionParser` of `bsl/worker_preprocessor.py`: a recursive descent over the tokens of a
condition, which is evaluated while it is read. A symbol tells whether the code runs on the server.
-/

namespace OnecRuntime.Preprocessor

open OnecRuntime.Library
open OnecRuntime.Bsl
open OnecRuntime.SourceMaps (Text SourceSpan)

structure WorkerPreprocessorError where
  message : String
  span : SourceSpan
  code : String

/-- `_error`. -/
def errorAt (token : Token) (message code : String) : WorkerPreprocessorError :=
  ⟨s!"{message} at {token.start}", .ofWidth token.start (token.stop - token.start), code⟩

/-- `_TRUE_SYMBOLS`. -/
def trueSymbols : List String := ["сервер", "server"]

/-- `_FALSE_SYMBOLS`. -/
def falseSymbols : List String :=
  ["клиент", "client", "вебклиент", "webclient", "тонкийклиент", "thinclient",
    "толстыйклиентобычноеприложение", "thickclientordinaryapplication",
    "толстыйклиентуправляемоеприложение", "thickclientmanagedapplication", "внешнеесоединение",
    "externalconnection", "мобильныйклиент", "mobileclient", "мобильныйавтономныйсервер",
    "mobilestandaloneserver", "мобильноеприложениеклиент", "mobileapplicationclient",
    "мобильноеприложениесервер", "mobileapplicationserver", "сервермобильногоприложения",
    "mobileapplicationserver"]

def word (canonical : String) : TokenType := .keyword canonical

def sign (char : Char) : TokenType := .operator [char]

/-- What a name in a condition stands for, if it is a known symbol. -/
def symbolValue (functions : TextFunctions) (token : Token) : Option Bool :=
  let normalized := String.ofList (functions.casefold token.text)
  if normalized ∈ trueSymbols then some true
  else if normalized ∈ falseSymbols then some false
  else none

/-- A failure with the tokens that are left, or an unknown symbol. -/
inductive ExpressionFailure where
  | fails (message : String) (left : List Token)
  | unknownSymbol (token : Token)

abbrev ExpressionParser := List Token → Except ExpressionFailure (Bool × List Token)

/-- `_accept`. -/
def accept (type : TokenType) : List Token → Option (List Token)
  | [] => none
  | token :: rest => if token.type = type then some rest else none

/-- The loop of `_parse_or` and `_parse_and`, with a turn for each token at most. -/
def chainFrom (joint : TokenType) (combine : Bool → Bool → Bool) (operand : ExpressionParser) :
    Nat → Bool → ExpressionParser
  | 0, value, tokens => .ok (value, tokens)
  | fuel + 1, value, tokens =>
      match accept joint tokens with
      | none => .ok (value, tokens)
      | some rest => do
          let (next, left) ← operand rest
          chainFrom joint combine operand fuel (combine value next) left

def parseChain (joint : TokenType) (combine : Bool → Bool → Bool) (operand : ExpressionParser) :
    ExpressionParser := fun tokens => do
  let (value, left) ← operand tokens
  chainFrom joint combine operand left.length value left

def parseAnd (unary : ExpressionParser) : ExpressionParser := parseChain (word "И") and unary

def parseOr (unary : ExpressionParser) : ExpressionParser :=
  parseChain (word "ИЛИ") or (parseAnd unary)

section Parsing

variable (functions : TextFunctions)

def parseSymbol : ExpressionParser
  | [] => .error (.fails "expected a preprocessor symbol" [])
  | token :: rest =>
      if token.type ≠ .identifier then .error (.fails "expected a preprocessor symbol" (token :: rest))
      else
        match symbolValue functions token with
        | some value => .ok (value, rest)
        | none => .error (.unknownSymbol token)

/-- `_parse_unary`, to a depth. -/
def parseUnary : Nat → ExpressionParser
  | 0, tokens => .error (.fails "expected a preprocessor symbol" tokens)
  | depth + 1, tokens =>
      match accept (word "НЕ") tokens with
      | some rest => do
          let (value, left) ← parseUnary depth rest
          pure (!value, left)
      | none =>
          match accept (sign '(') tokens with
          | some rest => do
              let (value, left) ← parseOr (parseUnary depth) rest
              match accept (sign ')') left with
              | some behind => pure (value, behind)
              | none => .error (.fails "missing closing parenthesis" left)
          | none => parseSymbol functions tokens

/-- A failure tells the token at which it happened, or the last one. -/
def expressionError (tokens : List Token) : ExpressionFailure → WorkerPreprocessorError
  | .fails message left =>
      match tokens[min (tokens.length - left.length) (tokens.length - 1)]? with
      | some token => errorAt token message "invalid_expression"
      | none => ⟨message, .ofWidth 0 0, "invalid_expression"⟩
  | .unknownSymbol token =>
      ⟨s!"Unknown server preprocessor symbol {functions.represent token.text} at {token.start}",
        .ofWidth token.start (token.stop - token.start), "unknown_symbol"⟩

/-- `parse`. -/
def parseTokens (tokens : List Token) : Except ExpressionFailure Bool := do
  if tokens = [] then .error (.fails "empty preprocessor expression" tokens)
  else
    let (value, left) ← parseOr (parseUnary functions tokens.length) tokens
    if left = [] then pure value
    else .error (.fails "unexpected token in preprocessor expression" left)

def parseExpression (tokens : List Token) : Except WorkerPreprocessorError Bool :=
  (parseTokens functions tokens).mapError (expressionError functions tokens)

end Parsing

/-! ## The grammar of conditions -/

/-- Operands with a joint between them, of which the earlier ones bind first. -/
inductive Chain (joint : TokenType) (combine : Bool → Bool → Bool)
    (operand : List Token → Bool → Prop) : List Token → Bool → Prop
  | single {tokens : List Token} {value : Bool} (only : operand tokens value) :
      Chain joint combine operand tokens value
  | more {tokens others : List Token} {token : Token} {value next : Bool}
      (before : Chain joint combine operand tokens value) (joined : token.type = joint)
      (behind : operand others next) :
      Chain joint combine operand (tokens ++ token :: others) (combine value next)

/-- The tokens spell a symbol, a negation or a condition in parentheses, of the value. -/
inductive Unary (functions : TextFunctions) : List Token → Bool → Prop
  | symbol {token : Token} {value : Bool} (named : token.type = .identifier)
      (known : symbolValue functions token = some value) : Unary functions [token] value
  | negation {token : Token} {tokens : List Token} {value : Bool} (negates : token.type = word "НЕ")
      (rest : Unary functions tokens value) : Unary functions (token :: tokens) (!value)
  | parenthesised {opens closes : Token} {tokens : List Token} {value : Bool}
      (opening : opens.type = sign '(') (closing : closes.type = sign ')')
      (inner : Chain (word "ИЛИ") or (Chain (word "И") and (Unary functions)) tokens value) :
      Unary functions (opens :: tokens ++ [closes]) value

/-- The tokens spell a condition of the value: `НЕ` before `И` before `ИЛИ`. -/
def Condition (functions : TextFunctions) : List Token → Bool → Prop :=
  Chain (word "ИЛИ") or (Chain (word "И") and (Unary functions))

end OnecRuntime.Preprocessor

/-!
# Server-effective tokens

`select_server_effective_tokens` of `bsl/worker_preprocessor.py`: one loop over the tokens of a
source. A token `#` begins a directive, which ends with the line; conditionals are kept on a stack
of frames, and the tokens of an active branch are selected.
-/

namespace OnecRuntime.Preprocessor

open OnecRuntime.Bsl
open OnecRuntime.SourceMaps (Text SourceSpan)

/-- `_ConditionalFrame`. -/
structure ConditionalFrame where
  opening : Token
  parentActive : Bool
  anyTaken : Bool
  currentActive : Bool
  elseSeen : Bool

/-- The loop's variables, the innermost frame first. -/
structure State where
  selected : List Token
  stack : List ConditionalFrame
  active : Bool

def State.start : State := ⟨[], [], true⟩

/-! ## The extent of a directive -/

/-- `_directive_end`. -/
def directiveEnd (source : Text) (token : Token) : Nat :=
  match (source.drop token.stop).findIdx? (· = '\n') with
  | none => source.length
  | some newline => token.stop + newline + 1

/-- `rfind` plus one: the place behind the last such character. -/
def behindLast (char : Char) (text : Text) : Nat :=
  text.length - (text.reverse.takeWhile (· ≠ char)).length

/-- Nothing but blanks stands before the token in its line. -/
def startsLine (source : Text) (token : Token) : Bool :=
  let before := source.take token.start
  (before.drop (max (behindLast '\n' before) (behindLast '\r' before))).all isSpace

/-! ## Directives -/

/-- `_SERVICE_DIRECTIVES`. -/
def serviceDirectives : List TokenType :=
  [word "ОБЛАСТЬ", word "КОНЕЦОБЛАСТИ", word "ИСПОЛЬЗОВАТЬ", word "NATIVE", word "STACK"]

/-- What `_validate_service_directive` accepts behind the name of the directive. -/
def serviceValid (kind : TokenType) : List Token → Bool
  | [] => kind = word "КОНЕЦОБЛАСТИ" ∨ kind = word "NATIVE" ∨ kind = word "STACK"
  | [name] =>
      kind = word "ОБЛАСТЬ" ∧ name.type = .identifier ∨
        kind = word "ИСПОЛЬЗОВАТЬ" ∧ (name.type = .identifier ∨ name.type = .string)
  | _ => false

/-- `directive[2:-1]`, if `ТОГДА` ends the directive behind it. -/
def conditionTokens (operands : List Token) : Option (List Token) :=
  if 2 ≤ operands.length ∧ operands.getLast?.map Token.type = some (word "ТОГДА") then
    some operands.dropLast
  else none

section Turns

variable (functions : TextFunctions)

def conditionOf (sharp : Token) (operands : List Token) (invalid : String) :
    Except WorkerPreprocessorError Bool :=
  match conditionTokens operands with
  | none => .error (errorAt sharp invalid "invalid_directive")
  | some tokens => parseExpression functions tokens

def openIf (state : State) (sharp : Token) (operands : List Token) :
    Except WorkerPreprocessorError State := do
  let condition ← conditionOf functions sharp operands "invalid #If directive"
  let active := state.active && condition
  pure ⟨state.selected, ⟨sharp, state.active, condition, active, false⟩ :: state.stack, active⟩

def elseIf (state : State) (sharp : Token) (operands : List Token) :
    Except WorkerPreprocessorError State :=
  match state.stack with
  | [] => .error (errorAt sharp "#ElsIf without #If" "unexpected_directive")
  | frame :: rest =>
      if frame.elseSeen then .error (errorAt sharp "#ElsIf after #Else" "unexpected_directive")
      else do
        let condition ← conditionOf functions sharp operands "invalid #ElsIf directive"
        let active := frame.parentActive && !frame.anyTaken && condition
        pure ⟨state.selected, { frame with
          currentActive := active, anyTaken := frame.anyTaken || condition } :: rest, active⟩

def otherwise (state : State) (sharp : Token) (operands : List Token) :
    Except WorkerPreprocessorError State :=
  match state.stack with
  | [] => .error (errorAt sharp "#Else without #If" "unexpected_directive")
  | frame :: rest =>
      if frame.elseSeen ∨ operands ≠ [] then
        .error (errorAt sharp "invalid or repeated #Else" "unexpected_directive")
      else
        let active := frame.parentActive && !frame.anyTaken
        pure ⟨state.selected, { frame with
          elseSeen := true, currentActive := active, anyTaken := true } :: rest, active⟩

def endIf (state : State) (sharp : Token) (operands : List Token) :
    Except WorkerPreprocessorError State :=
  match state.stack with
  | [] => .error (errorAt sharp "#EndIf without #If" "unexpected_directive")
  | frame :: rest =>
      if operands ≠ [] then .error (errorAt sharp "invalid #EndIf directive" "invalid_directive")
      else pure ⟨state.selected, rest, frame.parentActive⟩

/-- A directive, whose tokens stand behind `#`. -/
def directive (state : State) (sharp : Token) : List Token → Except WorkerPreprocessorError State
  | [] => .error (errorAt sharp "empty preprocessor directive" "invalid_directive")
  | kind :: operands =>
      if kind.type ∈ serviceDirectives then
        if serviceValid kind.type operands then pure state
        else .error (errorAt (operands.getLast?.getD kind)
          s!"invalid #{String.ofList kind.text} directive" "invalid_directive")
      else if kind.type = word "ЕСЛИ" then openIf functions state sharp operands
      else if kind.type = word "ИНАЧЕЕСЛИ" then elseIf functions state sharp operands
      else if kind.type = word "ИНАЧЕ" then otherwise state sharp operands
      else if kind.type = word "КОНЕЦЕСЛИ" then endIf state sharp operands
      else .error (errorAt kind "unsupported preprocessor directive" "invalid_directive")

/-- The loop, with a turn for each token at most. -/
def selectFrom (source : Text) : Nat → State → List Token → Except WorkerPreprocessorError State
  | 0, state, _ => .ok state
  | _ + 1, state, [] => .ok state
  | fuel + 1, state, token :: rest =>
      if token.type ≠ sign '#' then
        selectFrom source fuel
          { state with selected := if state.active then state.selected ++ [token] else state.selected }
          rest
      else if startsLine source token = false then
        .error (errorAt token "preprocessor directive must start its line" "invalid_directive")
      else do
        let inside := fun other : Token => decide (other.start < directiveEnd source token)
        let later ← directive functions state token (rest.takeWhile inside)
        selectFrom source fuel later (rest.dropWhile inside)

def selectServerEffectiveTokens (source : Text) (tokens : List Token) :
    Except WorkerPreprocessorError (List Token) := do
  let state ← selectFrom functions source tokens.length .start tokens
  match state.stack with
  | [] => pure state.selected
  | frame :: _ => .error (errorAt frame.opening "unterminated #If directive" "unbalanced_directive")

end Turns

end OnecRuntime.Preprocessor
