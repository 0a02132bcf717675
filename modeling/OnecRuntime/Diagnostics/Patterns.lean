import OnecRuntime.Bsl.Lexer
import OnecRuntime.Library.LineMatches

/-!
# Patterns of platform diagnostics

The regular expressions of `bsl/diagnostics.py` as functions that take a match from the head of a
text. What is repeated is taken as often as it can be: behind each repetition stands something that
it does not take.
-/

namespace OnecRuntime.Diagnostics

open OnecRuntime.Library
open OnecRuntime.Bsl (identifierStart identifierPart isSpace)
open OnecRuntime.SourceMaps (Text)

instance lawfulPair : LawfulBEq (Char × Char) := inferInstance

/-! ## Parts of patterns -/

/-- `[ \t]`. -/
def isTab (char : Char) : Bool := char = ' ' ∨ char = '\t'

/-- `[ \t]*`. -/
def skipTabs (text : Text) : Text := text.dropWhile isTab

/-- `(?:\r?\n|\Z)`. -/
def endOfLine : Text → Option Text
  | [] => some []
  | '\n' :: rest => some rest
  | '\r' :: '\n' :: rest => some rest
  | _ => none

/-- The lower case of a letter of the patterns. -/
def lowered (char : Char) : Char :=
  if 'A' ≤ char ∧ char ≤ 'Z' ∨ 'А' ≤ char ∧ char ≤ 'Я' then Char.ofNat (char.toNat + 32) else char

/-- `re.IGNORECASE` of one letter. -/
def ignoringCase (letter char : Char) : Bool :=
  lowered char = lowered letter ∨
    (lowered letter, char) ∈ [('о', 'ᲂ'), ('s', 'ſ'), ('i', 'ı'), ('i', 'İ')]

def takeWord : List Char → Text → Option Text
  | [], text => some text
  | _ :: _, [] => none
  | letter :: word, char :: rest => if ignoringCase letter char then takeWord word rest else none

/-- `_MODULE_IDENTIFIER`. -/
def takeIdentifier : Text → Option (Text × Text)
  | [] => none
  | first :: rest =>
      if identifierStart first then
        some (first :: rest.takeWhile identifierPart, rest.dropWhile identifierPart)
      else none

/-- `[0-9]{1,10}` where no digit follows. -/
def takeDigits (text : Text) : Option (Text × Text) :=
  let digits := text.takeWhile Char.isDigit
  if 1 ≤ digits.length ∧ digits.length ≤ 10 then some (digits, text.dropWhile Char.isDigit) else none

/-- An item as often as it can be taken, which is not more often than there are characters. -/
def repeated (item : Text → Option (Text × Text)) : Nat → Text → Text × Text
  | 0, text => ([], text)
  | fuel + 1, text =>
      match item text with
      | none => ([], text)
      | some (read, left) =>
          let (more, rest) := repeated item fuel left
          (read ++ more, rest)

/-! ## Boundaries and categories -/

/-- `_CAUSE_BOUNDARY_RE`. -/
def causeBoundary : Pattern Unit := fun text => do
  let inked := skipTabs text
  let behind ← takeWord "по причине:".toList inked <|> takeWord "Reason:".toList inked
  let left ← endOfLine (skipTabs behind)
  some ((), left)

/-- `[ \t]*,[ \t]*` and another name. -/
def anotherName (text : Text) : Option (Text × Text) :=
  match skipTabs text with
  | ',' :: rest => do
      let (name, left) ← takeIdentifier (skipTabs rest)
      some (text.takeWhile isTab ++ ',' :: rest.takeWhile isTab ++ name, left)
  | _ => none

/-- `_CATEGORY_BLOCK_RE` with its group `names`. -/
def categoryBlock : Pattern Text := fun text =>
  match skipTabs text with
  | '[' :: rest => do
      let (name, behind) ← takeIdentifier rest
      let (more, after) := repeated anotherName behind.length behind
      match after with
      | ']' :: ends => do
          let left ← endOfLine (skipTabs ends)
          some (name ++ more, left)
      | _ => none
  | _ => none

/-- `_DIAGNOSTIC_BLOCK_START_RE`. -/
def blockStart : Pattern Unit := fun text =>
  match text with
  | '{' :: rest => some ((), rest)
  | _ => none

/-! ## Locators -/

/-- The alternatives of `_UNKNOWN_MODULE_PATTERN`. -/
def unknownModules : List Text :=
  ["<Неизвестный модуль>".toList, "Неизвестный модуль".toList, "<Unknown module>".toList,
    "Unknown module".toList]

/-- The groups of `_LOCATION_RE`. -/
structure Locator where
  unknown : Option Text
  extension : Option Text
  module : Option Text
  line : Text
  column : Option Text
  deriving DecidableEq

def dottedName (text : Text) : Option (Text × Text) :=
  match text with
  | '.' :: rest => do
      let (name, left) ← takeIdentifier rest
      some ('.' :: name, left)
  | _ => none

def takeModule (text : Text) : Option (Text × Text) := do
  let (name, behind) ← takeIdentifier text
  let (more, left) := repeated dottedName behind.length behind
  some (name ++ more, left)

def extensionModule (text : Text) : Option (Text × Text × Text) := do
  let (extension, behind) ← takeIdentifier text
  if (behind.takeWhile isTab).isEmpty then none
  else do
    let (module, left) ← takeModule (skipTabs behind)
    some (extension, module, left)

/-- The alternatives of a locator's module in their order, with the text that each leaves. -/
def moduleAlternatives (text : Text) : List ((Option Text × Option Text × Option Text) × Text) :=
  (unknownModules.filter (·.isPrefixOf text)).map
      (fun name => ((some name, none, none), text.drop name.length)) ++
    (extensionModule text).toList.map
      (fun (extension, module, left) => ((none, some extension, some module), left)) ++
    (takeModule text).toList.map (fun (module, left) => ((none, none, some module), left)) ++
    [((none, none, none), text)]

/-- `\)\}`. -/
def closing : Text → Option Text
  | ')' :: '}' :: rest => some rest
  | _ => none

/-- `\s*,\s*` and the column. -/
def takeColumn (text : Text) : Option (Text × Text) :=
  match text.dropWhile isSpace with
  | ',' :: rest => takeDigits (rest.dropWhile isSpace)
  | _ => none

def withColumn (text : Text) : Option (Option Text × Text) := do
  let (column, behind) ← takeColumn text
  let left ← closing behind
  some (some column, left)

def withoutColumn (text : Text) : Option (Option Text × Text) := do
  let left ← closing text
  some (none, left)

def coordinates (text : Text) : Option ((Text × Option Text) × Text) :=
  match text with
  | '(' :: rest => do
      let (line, behind) ← takeDigits rest
      let (column, left) ← withColumn behind <|> withoutColumn behind
      some ((line, column), left)
  | _ => none

/-- `_LOCATION_RE`. -/
def locationPattern : Pattern Locator := fun text =>
  match text with
  | '{' :: rest => (moduleAlternatives rest).findSome? fun ((unknown, extension, module), behind) => do
      let ((line, column), left) ← coordinates behind
      some (⟨unknown, extension, module, line, column⟩, left)
  | _ => none

end OnecRuntime.Diagnostics
