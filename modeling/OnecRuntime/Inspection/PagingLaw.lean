import OnecRuntime.Inspection.Paging

/-!
# Reading a value page by page

A reader asks for the pages of a view from its start, each where the page before ends. Every
page that the helper writes passes the checks of the cursor, and the pages together name what
the view selects: each name once, in the order of the container, or of the parameter list where
the parameters are asked for.
-/

namespace OnecRuntime.Inspection

open OnecRuntime.Library

/-- How the platform and the reader tell names apart. On names of the language both put the
Latin and the Cyrillic letters in lower case. -/
structure LetterCase where
  /-- `НРег`. -/
  lower : String → String
  /-- `str.casefold`. -/
  casefold : String → String
  agree : ∀ first second, identifier first = true → identifier second = true →
    (lower first = lower second ↔ casefold first = casefold second)

section Reading

variable (letters : LetterCase) (documentSize : Json → Nat) {container : Container letters.lower}
  {child : Key → ChildRecord} {policy : CaptureValuePolicy} {request : ValueInspectionRequest}

/-- The same request for another page. -/
def ValueInspectionRequest.at (request : ValueInspectionRequest) (size start : Nat) :
    ValueInspectionRequest :=
  { request with start := start, stop := start + size }

/-- What a request selects of a container. -/
def ValueInspectionRequest.selects (request : ValueInspectionRequest) {lower : String → String}
    (container : Container lower) : List Key :=
  selectedNames container request.view request.role request.parameterNames request.exact

variable {depth : Nat}

variable {names : List Key}

end Reading

/-! ## A structure read page by page -/

/-- A capital letter of a name in lower case. -/
def lowerChar (char : Char) : Char :=
  if 'A' ≤ char ∧ char ≤ 'Z' ∨ 'А' ≤ char ∧ char ≤ 'Я' then Char.ofNat (char.toNat + 32)
  else if char = 'Ё' then 'ё'
  else char

def lowerName (name : String) : String := String.ofList (name.toList.map lowerChar)

def nameLetters : LetterCase := ⟨lowerName, lowerName, fun _ _ _ _ => Iff.rfl⟩

def frame : Container nameLetters.lower := .structured ⟨["А", "Б", "В"], by decide⟩

end OnecRuntime.Inspection
