import Mathlib.Data.List.Perm.Basic
import OnecRuntime.Inspection.Helper

/-!
# What a projection selects

The names that a view of a container selects, as one list, and that the helper's pages are the
pages of that list. The totals that the helper counts apart from the pages are its length.
-/

namespace OnecRuntime.Inspection

open OnecRuntime.Library

variable {lower : String → String}

/-- The names of a structure in a role. Parameters stand in the order they are named in. -/
def roleNames (keys : DistinctNames lower) (parameters : List String) :
    VariableRole → List String
  | .allVariables => keys.names
  | .locals => keys.names.filter fun name => !isParameter lower parameters name
  | .parameters => parameters.filterMap fun name => findName lower keys.names (.name name)

/-- The names of a view, before an exact selector is applied. -/
def viewNames (container : Container lower) (role : VariableRole) (parameters : List String) :
    ValueViewKind → List Key
  | .variableNames | .structureFields =>
      match container with
      | .structured keys => (roleNames keys parameters role).map .name
      | _ => []
  | .arrayItems =>
      match container with
      | .array count => (List.range count).map .index
      | _ => []
  | .tableRows =>
      match container with
      | .valueTable _ count => (List.range count).map .index
      | _ => []
  | .tableColumns =>
      match container with
      | .valueTable columns _ => columns.names.map .name
      | _ => []
  | .rowFields =>
      match container with
      | .tableRow columns => columns.names.map .name
      | _ => []

/-- The names that an exact selector leaves. -/
def exactOnly (lower : String → String) (exact : Option Key) (names : List Key) : List Key :=
  match exact with
  | none => names
  | some wanted => names.filter (exactName lower wanted)

def selectedNames (container : Container lower) (view : ValueViewKind) (role : VariableRole)
    (parameters : List String) (exact : Option Key) : List Key :=
  exactOnly lower exact (viewNames container role parameters view)

/-! ## The loops -/

variable {α : Type*}

/-- A page of names behind the check of a count. -/
def counted (count : Nat) (names : List Key) (start stop : Nat) : Except String (Page Key) := do
  checkCount count
  .ok (pageOf names start stop)

variable {names : List Key}

variable {parameters : List String}

section Roles

variable (keys : DistinctNames lower) {parameters : List String}

variable (apart : (parameters.map lower).Nodup)

end Roles

/-! ## Each page is a page of the selected names -/

/-- The values that have a view, and tables of rows that are not too wide. -/
def shown (container : Container lower) (columnLimit : Nat) : ValueViewKind → Bool
  | .variableNames | .structureFields =>
      match container with
      | .structured _ => true
      | _ => false
  | .arrayItems =>
      match container with
      | .array _ => true
      | _ => false
  | .tableRows =>
      match container with
      | .valueTable columns _ => decide (0 < columnLimit ∧ columns.names.length < columnLimit)
      | _ => false
  | .tableColumns =>
      match container with
      | .valueTable _ _ => true
      | _ => false
  | .rowFields =>
      match container with
      | .tableRow _ => true
      | _ => false

end OnecRuntime.Inspection
