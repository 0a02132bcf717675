import Mathlib.Data.List.Nodup
import OnecRuntime.Bsl.Words
import OnecRuntime.Library.Fallible
import OnecRuntime.Library.Json
import OnecRuntime.Library.Pages

/-!
# Requests of the value inspection

Where a stopped frame is read: a root, a path of names and indexes under it, the view of the
value there and the page of the view. The builder admits the requests that the public
descriptors can make, before any source is written.
-/

namespace OnecRuntime.Inspection

open OnecRuntime.Library OnecRuntime.Bsl

inductive ValueRootKind where
  | context
  | frame
deriving DecidableEq

inductive ValuePathSegmentKind where
  | variableName
  | field
  | index
  | column
  | row
deriving DecidableEq

def ValuePathSegmentKind.value : ValuePathSegmentKind → String
  | .variableName => "variable"
  | .field => "field"
  | .index => "index"
  | .column => "column"
  | .row => "row"

/-- The kinds of segments that hold a name. -/
def ValuePathSegmentKind.named : ValuePathSegmentKind → Bool
  | .variableName | .field | .column => true
  | .index | .row => false

inductive ValueViewKind where
  | variableNames
  | structureFields
  | arrayItems
  | tableColumns
  | tableRows
  | rowFields
deriving DecidableEq

def ValueViewKind.value : ValueViewKind → String
  | .variableNames => "variables"
  | .structureFields => "structure_fields"
  | .arrayItems => "array_items"
  | .tableColumns => "table_columns"
  | .tableRows => "table_rows"
  | .rowFields => "row_fields"

/-- `_NAMED_VIEWS`. -/
def ValueViewKind.named : ValueViewKind → Bool
  | .variableNames | .structureFields | .tableColumns | .rowFields => true
  | .arrayItems | .tableRows => false

inductive VariableRole where
  | allVariables
  | parameters
  | locals
deriving DecidableEq

def VariableRole.value : VariableRole → String
  | .allVariables => "variables"
  | .parameters => "parameters"
  | .locals => "locals"

/-- A name or an index, `str | int`. -/
inductive Key where
  | name (value : String)
  | index (value : Nat)
deriving DecidableEq

def maxNameChars : Nat := 256

/-- `_identifier`. -/
def identifier (value : String) : Bool := decide (value.length ≤ maxNameChars) && bslIdentifier value

/-- The check that a path segment makes of its key. -/
def segmentKey (kind : ValuePathSegmentKind) : Key → Bool
  | .name value => kind.named && identifier value
  | .index _ => !kind.named

structure SafePathSegment where
  kind : ValuePathSegmentKind
  key : Key
  checked : segmentKey kind key = true

structure SafeValuePath where
  root : ValueRootKind
  segments : List SafePathSegment
  bounded : segments.length ≤ 64

structure ValueInspectionRequest where
  path : SafeValuePath
  view : ValueViewKind
  start : Nat
  stop : Nat
  role : VariableRole
  parameterNames : List String
  exact : Option Key

section Validation

variable (casefold : String → String)

end Validation

end OnecRuntime.Inspection

/-!
# The inspection helper

The functions of the extension's helper that choose the names of a page of a value and write
the page's document. `lower` is `НРег`: the platform keeps the keys of a structure and the
columns of a table apart by it. A value is what its container shows: its keys, its length or
its columns, and what the helper says of each child.
-/

namespace OnecRuntime.Inspection

open OnecRuntime.Library

/-- Names that differ also after lower-casing. -/
structure DistinctNames (lower : String → String) where
  names : List String
  distinct : (names.map lower).Nodup

inductive Container (lower : String → String) where
  | structured (keys : DistinctNames lower)
  | array (count : Nat)
  | valueTable (columns : DistinctNames lower) (count : Nat)
  | tableRow (columns : DistinctNames lower)
  | scalar

section Helper

variable {lower : String → String}

/-- `ПроверитьКоличествоИнспекции`. -/
def checkCount (count : Int) : Except String Unit :=
  require (0 ≤ count ∧ count ≤ 10000000) "Слишком много элементов проекции значений"

/-- `НайтиИмяСтруктурыИнспекции`, `НайтиИмяКолонкиСтрокиИнспекции`. -/
def findName (lower : String → String) (names : List String) : Key → Option String
  | .name wanted => names.find? fun name => lower name = lower wanted
  | .index _ => none

/-- `ЭтоПараметрИнспекции`. -/
def isParameter (lower : String → String) (parameters : List String) (name : String) : Bool :=
  parameters.any fun parameter => lower name = lower parameter

/-- `ОтфильтроватьТочныеИменаИнспекции`. -/
def exactName (lower : String → String) : Key → Key → Bool
  | .name wanted, .name name => lower name = lower wanted
  | .index wanted, .index index => index = wanted
  | _, _ => false

end Helper

end OnecRuntime.Inspection
