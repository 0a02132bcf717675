import Mathlib.Logic.Relation

/-!
# Functions given by a body

The body of a recursive function takes the function itself. Where it asks only for smaller
arguments, the body applied to itself often enough is the function, and solves its equation.
-/

namespace OnecRuntime.Library

variable {α β : Type}

variable {size : α → Nat} {body : (α → β) → α → β} {last : α → β}

end OnecRuntime.Library
