import OnecRuntime.Breakpoints.LineIndex
import OnecRuntime.Diagnostics.Structure
import OnecRuntime.Library.Lines

/-!
# The resolver of capture points

`capture_source.py`: a request names a line or a fragment of a method of a common module, or only a
fragment that is looked for in all common modules. Methods are found by the shapes of lines. The
exported tree is given by what reading a module of it yields.
-/

namespace OnecRuntime.Capture

open OnecRuntime.Library
open OnecRuntime.Bsl (isSpace TextFunctions)
open OnecRuntime.SourceMaps (Text)
open OnecRuntime.Diagnostics (lowered strip)

/-- The text functions of the language runtime that the resolver uses. -/
structure SourceFunctions extends TextFunctions where
  /-- `\w`. -/
  wordCharacter : Char → Bool
  /-- `str.isidentifier`. -/
  isIdentifier : Text → Bool

inductive Refusal where
  | value (message : String)
  | protocol (message : String)
  deriving DecidableEq

def maxSourceExcerpt : Nat := 4096

variable (functions : SourceFunctions)

/-! ## Names -/

def identifier (value : Text) : Bool :=
  value ≠ [] ∧ value.length ≤ 256 ∧ functions.isIdentifier value = true

def qualifiedIdentifier (value : Text) : Bool :=
  value.length ≤ 512 ∧ ((value.splitOn '.').all (identifier functions)) = true

/-! ## Requests -/

/-- `CapturePointRequest`, with what `__post_init__` checks. -/
structure CapturePointRequest where
  name : Text
  project : Text
  module : Text
  procedure : Text
  line : Option Nat
  sourceFragment : Option Text
  named : identifier functions name = true
  located : ¬(project = [] ∧ module = [] ∧ procedure = [] ∧ line = none) →
    identifier functions project = true ∧ qualifiedIdentifier functions module = true ∧
      identifier functions procedure = true ∧ ∃ number, line = some number ∧ 0 < number
  bounded : ∀ fragment, sourceFragment = some fragment →
    strip fragment ≠ [] ∧ fragment.length ≤ maxSourceExcerpt
  pointed : project = [] ∧ module = [] ∧ procedure = [] ∧ line = none → sourceFragment ≠ none

structure ModuleSource where
  name : Text
  objectId : Nat
  digest : Text
  text : Text
  deriving DecidableEq

structure ResolvedCapturePoint where
  name : Text
  project : Text
  module : Text
  procedure : Text
  line : Nat
  sourceRevision : Nat
  sourceSha256 : Text
  executableLine : Nat
  excerpt : Text
  deriving DecidableEq

structure ModuleLocation where
  moduleType : String
  objectId : Nat
  line : Nat
  extensionName : Text
  deriving DecidableEq

structure CaptureBinding where
  point : ResolvedCapturePoint
  location : ModuleLocation
  deriving DecidableEq

/-! ## Methods by the shapes of lines -/

/-- The kinds of `_DECLARATION`. -/
inductive Kind where
  | procedure
  | function
  deriving DecidableEq, Repr

/-- `re.IGNORECASE` of a letter of the two words. -/
def sameLetter (letter char : Char) : Bool :=
  lowered char = letter ∨ (letter, char) ∈ [('о', 'ᲂ'), ('д', 'ᲁ')]

def takeWord : List Char → Text → Option Text
  | [], text => some text
  | _ :: _, [] => none
  | letter :: word, char :: rest => if sameLetter letter char then takeWord word rest else none

/-- The first group of `_DECLARATION`. -/
def takeKind (text : Text) : Option (Kind × Text) :=
  match takeWord "процедура".toList text with
  | some rest => some (.procedure, rest)
  | none => (takeWord "функция".toList text).map fun rest => (.function, rest)

/-- `[\w\u0400-\u04ff]`. -/
def nameCharacter (char : Char) : Bool :=
  functions.wordCharacter char || decide (0x0400 ≤ char.toNat ∧ char.toNat ≤ 0x04FF)

/-- `_DECLARATION.match`: the kind and the name. -/
def declaration (line : Text) : Option (Kind × Text) := do
  let (kind, rest) ← takeKind (line.dropWhile isSpace)
  if (rest.takeWhile isSpace).isEmpty then none
  else
    let behind := rest.dropWhile isSpace
    let name := behind.takeWhile (nameCharacter functions)
    let after := behind.dropWhile (nameCharacter functions)
    if name = [] then none
    else if (after.dropWhile isSpace).head? = some '(' then some (kind, name)
    else none

def terminator : Kind → Text
  | .procedure => "конецпроцедуры".toList
  | .function => "конецфункции".toList

structure Region where
  name : Text
  first : Nat
  last : Nat
  deriving DecidableEq, Repr

/-- A method that has no end yet: its name, its first line and its terminator. -/
structure Active where
  name : Text
  first : Nat
  terminator : Text

/-- The loop of `_procedure_regions` from a line with its number on. -/
def regionsFrom : Nat → Option Active → List Text → Except Refusal (List Region)
  | _, none, [] => .ok []
  | _, some _, [] => .error (.protocol "common-module procedure has no terminator")
  | number, active, line :: rest =>
      match declaration functions line, active with
      | some _, some _ => .error (.protocol "nested common-module procedure declaration")
      | some (kind, name), none => regionsFrom (number + 1) (some ⟨name, number, terminator kind⟩) rest
      | none, none => regionsFrom (number + 1) none rest
      | none, some method =>
          if functions.casefold (strip line) = method.terminator then do
            let later ← regionsFrom (number + 1) none rest
            pure (⟨method.name, method.first, number⟩ :: later)
          else regionsFrom (number + 1) (some method) rest

def procedureRegions (text : Text) : Except Refusal (List Region) :=
  regionsFrom functions 1 none (splitLines text)

/-! ## Lines -/

/-- The lines of a range that hold a fragment, from a line with its number on. -/
def fragmentLinesFrom (fragment : Text) (first last : Nat) : Nat → List Text → List Nat
  | _, [] => []
  | number, line :: rest =>
      if first ≤ number ∧ number ≤ last ∧ strip fragment <:+: line then
        number :: fragmentLinesFrom fragment first last (number + 1) rest
      else fragmentLinesFrom fragment first last (number + 1) rest

def fragmentLines (text fragment : Text) (first last : Nat) : List Nat :=
  fragmentLinesFrom fragment first last 1 (splitLines text)

/-- `text.splitlines()[line - 1].strip()`. -/
def excerpt (text : Text) (line : Nat) : Text := strip ((splitLines text)[line - 1]?.getD [])

def commented (line : Text) : Bool := "//".toList.isPrefixOf line

/-! ## Resolution -/

/-- What the resolver reads of an exported tree: the entries of `CommonModules` with whether each is
a directory, and the text of a module with its identity by the last part of its name. -/
structure ExportedTree where
  commonModules : Option (List (Text × Bool))
  read : Text → Except Refusal (Nat × Text × Text)

/-- `CommonModuleCaptureResolver`, whose project `__init__` has checked. -/
structure Resolver where
  project : Text
  extensionName : Text
  tree : ExportedTree

namespace Resolver

variable {functions}
variable (resolver : Resolver)

def loadModule (functions : SourceFunctions) (name : Text) : Except Refusal ModuleSource :=
  if qualifiedIdentifier functions name = false then
    .error (.value "module must be an identifier without expressions")
  else do
    let (objectId, digest, text) ← resolver.tree.read ((name.splitOn '.').getLast?.getD [])
    pure ⟨name, objectId, digest, text⟩

/-- The line of a region that a request names, if the request has no fragment, or else the only one
with the fragment. -/
def chosenLine (text : Text) (request : CapturePointRequest functions) (region : Region) :
    Except Refusal Nat :=
  match request.sourceFragment with
  | some fragment =>
      match fragmentLines text fragment region.first region.last with
      | [line] => .ok line
      | _ => .error (.value "capture source fragment must occur exactly one time")
  | none => .ok (request.line.getD 0)

/-- The regions of the method that a request names. -/
def matching (request : CapturePointRequest functions) (regions : List Region) : List Region :=
  regions.filter fun region => functions.casefold region.name = functions.casefold request.procedure

def resolveInModule (source : ModuleSource) (request : CapturePointRequest functions) :
    Except Refusal (Nat × Text) := do
  let regions ← procedureRegions functions source.text
  match matching request regions with
  | [region] =>
      let line ← chosenLine source.text request region
      require (region.first ≤ line ∧ line ≤ region.last)
        (.value "capture point line is outside the named procedure")
      require (excerpt source.text line ≠ [] ∧ commented (excerpt source.text line) = false)
        (.value "capture point line is not executable source")
      pure (line, request.procedure)
  | _ => .error (.value "capture point procedure was not found exactly once")

/-- The matches of a fragment in the methods of one module. -/
def moduleMatches (functions : SourceFunctions) (fragment : Text) (source : ModuleSource) :
    Except Refusal (List (ModuleSource × Nat × Text)) := do
  let regions ← procedureRegions functions source.text
  pure (regions.flatMap fun region =>
    (fragmentLines source.text fragment region.first region.last).map
      fun line => (source, line, region.name))

/-- The loop of `_resolve_fragment_globally` over the entries of `CommonModules`. -/
def matchesIn (functions : SourceFunctions) (fragment : Text) :
    List (Text × Bool) → Except Refusal (List (ModuleSource × Nat × Text))
  | [] => .ok []
  | (_, false) :: rest => matchesIn functions fragment rest
  | (name, true) :: rest =>
      match resolver.loadModule functions name with
      | .error (.protocol _) => matchesIn functions fragment rest
      | .error refusal => .error refusal
      | .ok source => do
          let found ← moduleMatches functions fragment source
          let later ← matchesIn functions fragment rest
          pure (found ++ later)

def resolveFragmentGlobally (request : CapturePointRequest functions) :
    Except Refusal (ModuleSource × Nat × Text) :=
  match resolver.tree.commonModules with
  | none => .error (.protocol "common-module source root is missing")
  | some entries => do
      let found ← resolver.matchesIn functions (request.sourceFragment.getD []) entries
      match found with
      | [only] => pure only
      | _ => .error (.value "capture source fragment must occur exactly one time")

/-- The checks of `ResolvedCapturePoint` that the resolver has not made itself. -/
def resolvedPoint (request : CapturePointRequest functions) (source : ModuleSource) (line : Nat)
    (procedure : Text) : Except Refusal ResolvedCapturePoint := do
  require (identifier functions resolver.project = true) (.value "project must be a bounded identifier")
  require (identifier functions procedure = true) (.value "procedure must be a bounded identifier")
  require (0 < line) (.value "line must be positive")
  require (excerpt source.text line ≠ [] ∧ (excerpt source.text line).length ≤ maxSourceExcerpt)
    (.value "excerpt must be a bounded non-empty string")
  pure ⟨request.name, resolver.project, source.name, procedure, line, 1, source.digest, line,
    excerpt source.text line⟩

/-- The branches of `resolve`. -/
def requestedPlace (request : CapturePointRequest functions) :
    Except Refusal (ModuleSource × Nat × Text) :=
  if request.module ≠ [] then do
    let source ← resolver.loadModule functions request.module
    let (line, procedure) ← resolveInModule source request
    pure (source, line, procedure)
  else resolver.resolveFragmentGlobally request

/-- The turn of `resolve` for one request. -/
def resolvePoint (request : CapturePointRequest functions) : Except Refusal CaptureBinding := do
  require (request.project = [] ∨
      functions.casefold request.project = functions.casefold resolver.project)
    (.value "capture point project does not match resolver project")
  let (source, line, procedure) ← resolver.requestedPlace request
  let point ← resolver.resolvedPoint request source line procedure
  pure ⟨point, ⟨if resolver.extensionName ≠ [] then "ExtensionModule" else "ConfigModule",
    source.objectId, line, resolver.extensionName⟩⟩

def resolve : List (CapturePointRequest functions) → Except Refusal (List CaptureBinding)
  | [] => .ok []
  | request :: rest => do
      let binding ← resolver.resolvePoint request
      let later ← resolve rest
      pure (binding :: later)

end Resolver

end OnecRuntime.Capture

/-!
# The line that a request means

The debugger counts lines at line feeds, and a method reaches from its declaring keyword to the
keyword that ends it. Its body is what stands between the header and that keyword. A request means
a line of the body of one method, and a fragment means it only if no other line of the searched
methods holds the fragment.
-/

namespace OnecRuntime.Capture

open OnecRuntime.Breakpoints (LineIndex)
open OnecRuntime.Bsl (Token TokenType tokenize)
open OnecRuntime.SourceMaps (Text)
open OnecRuntime.Diagnostics (strip)

/-! ## Lines of the debugger -/

/-- A line of the debugger with its line feed. -/
def physicalLine (text : Text) (line : Nat) : Option Text :=
  match (LineIndex.ofText text).lineRange line with
  | .ok span => some ((text.drop span.start).take (span.stop - span.start))
  | .error _ => none

def Holds (source : ModuleSource) (fragment : Text) (line : Nat) : Prop :=
  ∃ content, physicalLine source.text line = some content ∧ strip fragment <:+: content

/-- A line is executable source if it is neither blank nor a comment. -/
def Executable (source : ModuleSource) (line : Nat) : Prop :=
  ∃ content, physicalLine source.text line = some content ∧ strip content ≠ [] ∧
    commented (strip content) = false

/-! ## Methods of the language -/

structure Method where
  name : Text
  first : Nat
  last : Nat
  /-- The lines of the first and of the last token of the body. -/
  body : Option (Nat × Nat)
  deriving DecidableEq

namespace Method

def Covers (method : Method) (line : Nat) : Prop := method.first ≤ line ∧ line ≤ method.last

def Within (method : Method) (line : Nat) : Prop :=
  method.Covers line ∧ ∃ first last, method.body = some (first, last) ∧ first ≤ line ∧ line ≤ last

end Method

/-- The keyword that ends what a keyword declares. -/
def endingOf : TokenType → Option TokenType
  | .keyword canonical =>
      if canonical = "ПРОЦЕДУРА" then some (.keyword "КОНЕЦПРОЦЕДУРЫ")
      else if canonical = "ФУНКЦИЯ" then some (.keyword "КОНЕЦФУНКЦИИ")
      else none
  | _ => none

/-- The tokens behind the parameters of a method and its export keyword. -/
def behindHeader (tokens : List Token) : List Token :=
  let behind := (tokens.dropWhile (·.type ≠ .operator [')'])).drop 1
  if (behind.head?.map Token.type) = some (.keyword "ЭКСПОРТ") then behind.drop 1 else behind

/-- The lines of the tokens of a body. -/
def bodyLines (lineOf : Nat → Nat) (tokens : List Token) : Option (Nat × Nat) := do
  let first ← tokens.head?
  let last ← tokens.getLast?
  some (lineOf first.start, lineOf (last.stop - 1))

/-- The method that a token and the tokens behind it begin with. -/
def methodAt (lineOf : Nat → Nat) (token : Token) (rest : List Token) : Option Method := do
  let ending ← endingOf token.type
  let name ← rest.head?
  if name.type ≠ .identifier then none
  else
    let inner := behindHeader (rest.drop 1)
    let body := inner.takeWhile (·.type ≠ ending)
    let stop ← (inner.drop body.length).head?
    some ⟨name.text, lineOf token.start, lineOf stop.start, bodyLines lineOf body⟩

def methodsFrom (lineOf : Nat → Nat) : List Token → List Method
  | [] => []
  | token :: rest =>
      match methodAt lineOf token rest with
      | some method => method :: methodsFrom lineOf rest
      | none => methodsFrom lineOf rest

variable {functions : SourceFunctions}

section Named

variable (functions)

/-- The methods of a text, which are none if it is no text of the language. -/
def methods (text : Text) : List Method :=
  match tokenize functions.toTextFunctions text with
  | .ok tokens => methodsFrom (LineIndex.ofText text).lineOf tokens
  | .error _ => []

def methodsNamed (text name : Text) : List Method :=
  (methods functions text).filter fun method =>
    functions.casefold method.name = functions.casefold name

end Named

/-! ## What a request means -/

/-- A line of a module in a procedure. -/
structure Place where
  source : ModuleSource
  line : Nat
  procedure : Text
  deriving DecidableEq

section Requests

variable (resolver : Resolver) (request : CapturePointRequest functions)

def SameProject : Prop :=
  request.project = [] ∨ functions.casefold request.project = functions.casefold resolver.project

instance : Decidable (SameProject resolver request) := by unfold SameProject; infer_instance

/-- The methods among which a request looks for its line: the one that it names, or those of all
common modules. -/
inductive Searched : ModuleSource → Method → Prop where
  | named {source : ModuleSource} {method : Method} (module : request.module ≠ [])
      (loaded : resolver.loadModule functions request.module = .ok source)
      (single : methodsNamed functions source.text request.procedure = [method]) :
      Searched source method
  | anywhere {source : ModuleSource} {method : Method} {entries : List (Text × Bool)} {name : Text}
      (anonymous : request.module = []) (listed : resolver.tree.commonModules = some entries)
      (member : (name, true) ∈ entries) (loaded : resolver.loadModule functions name = .ok source)
      (among : method ∈ methods functions source.text) : Searched source method

/-- The line holds the fragment of the request and no other line of the searched methods does, or
it is the requested line. -/
def Asked (source : ModuleSource) (line : Nat) : Prop :=
  match request.sourceFragment with
  | some fragment => Holds source fragment line ∧ ∀ other method number,
      Searched resolver request other method → method.Covers number → Holds other fragment number →
        other = source ∧ number = line
  | none => request.line = some line

/-- The line lies in the body of the single method of that name, which the request searches. -/
def Inside (place : Place) : Prop :=
  ∃ method, Searched resolver request place.source method ∧
    methodsNamed functions place.source.text place.procedure = [method] ∧ method.Within place.line

structure Meant (place : Place) : Prop where
  project : SameProject resolver request
  inside : Inside resolver request place
  asked : Asked resolver request place.source place.line
  executable : Executable place.source place.line

end Requests

end OnecRuntime.Capture
