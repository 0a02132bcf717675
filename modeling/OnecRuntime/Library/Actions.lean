import Mathlib.Logic.Basic

/-!
# Actions that may raise

An action on a state gives a result or raises, and leaves a state either way: what it did before
it raised stays done. A sequence ends in
its first action that raises.
-/

namespace OnecRuntime.Library

def Action (σ ε α : Type) : Type := σ → Except ε α × σ

namespace Action

variable {σ ε α β : Type}

instance : Monad (Action σ ε) where
  pure value := fun state => (.ok value, state)
  bind action next := fun state =>
    match action state with
    | (.ok value, later) => next value later
    | (.error problem, later) => (.error problem, later)

def get : Action σ ε σ := fun state => (.ok state, state)

def modify (change : σ → σ) : Action σ ε Unit := fun state => (.ok (), change state)

def raise (problem : ε) : Action σ ε α := fun state => (.error problem, state)

variable {action : Action σ ε α} {next : α → Action σ ε β}

theorem bind_ok {state later : σ} {value : α}
    (done : action state = (.ok value, later)) : (action >>= next) state = next value later := by
  show (match action state with
    | (.ok value, later) => next value later
    | (.error problem, later) => (.error problem, later)) = _
  rw [done]

theorem bind_error {state later : σ} {problem : ε}
    (raised : action state = (.error problem, later)) :
    (action >>= next) state = (.error problem, later) := by
  show (match action state with
    | (.ok value, later) => next value later
    | (.error problem, later) => (.error problem, later)) = _
  rw [raised]

@[simp] theorem get_bind (next : σ → Action σ ε β) (state : σ) :
    ((get : Action σ ε σ) >>= next) state = next state state := rfl

@[simp] theorem modify_bind (change : σ → σ) (next : Unit → Action σ ε β) (state : σ) :
    ((modify change : Action σ ε Unit) >>= next) state = next () (change state) := rfl

/-- A sequence raises in its first action, or its second action ends it. -/
theorem bind_cases {state last : σ}
    {outcome : Except ε β} (done : (action >>= next) state = (outcome, last)) :
    (∃ value later, action state = (.ok value, later) ∧ next value later = (outcome, last)) ∨
      ∃ problem, action state = (.error problem, last) ∧ outcome = .error problem := by
  rcases taken : action state with ⟨problem | value, later⟩
  · rw [bind_error taken] at done
    cases done
    exact .inr ⟨problem, rfl, rfl⟩
  · rw [bind_ok taken] at done
    exact .inl ⟨value, later, rfl, done⟩

end Action

end OnecRuntime.Library
