/-!
# Guarded runs

A step relation takes a state by an action to a next state and emits events. A run
is a sequence of steps, each permitted where it is taken, with the events that
they emitted in order. What holds at first and is kept by every permitted step
holds after every run.
-/

namespace OnecRuntime.Library

variable {σ α ε : Type}

inductive Run (step : σ → α → σ → List ε → Prop) (permitted : σ → α → Prop) (first : σ) :
    List ε → σ → Prop
  | start : Run step permitted first [] first
  | further {events emitted : List ε} {state next : σ} {action : α}
      (before : Run step permitted first events state)
      (taken : step state action next emitted) (allowed : permitted state action) :
      Run step permitted first (events ++ emitted) next

namespace Run

variable {step : σ → α → σ → List ε → Prop} {permitted : σ → α → Prop} {first last : σ}
  {events : List ε}

/-- An invariant of the states and of the events emitted so far. -/
theorem keeps_trace {invariant : List ε → σ → Prop} (run : Run step permitted first events last)
    (initially : invariant [] first)
    (kept : ∀ {events emitted state next action}, invariant events state →
      permitted state action → step state action next emitted →
      invariant (events ++ emitted) next) :
    invariant events last := by
  induction run with
  | start => exact initially
  | further before taken allowed hypothesis => exact kept hypothesis allowed taken

theorem keeps {invariant : σ → Prop} (run : Run step permitted first events last)
    (initially : invariant first)
    (kept : ∀ {emitted state next action}, invariant state → permitted state action →
      step state action next emitted → invariant next) :
    invariant last := by
  induction run with
  | start => exact initially
  | further before taken allowed hypothesis => exact kept hypothesis allowed taken

/-- A run under a condition is a run under every weaker one. -/
theorem weaken {weaker : σ → α → Prop} (run : Run step permitted first events last)
    (implied : ∀ state action, permitted state action → weaker state action) :
    Run step weaker first events last := by
  induction run with
  | start => exact .start
  | further before taken allowed hypothesis => exact .further hypothesis taken (implied _ _ allowed)

theorem append {middle : σ} {later : List ε} (run : Run step permitted first events middle)
    (rest : Run step permitted middle later last) :
    Run step permitted first (events ++ later) last := by
  induction rest with
  | start =>
      rw [List.append_nil]
      exact run
  | further before taken allowed hypothesis =>
      rw [← List.append_assoc]
      exact .further hypothesis taken allowed

end Run

/-- The run of given actions under a condition, where every one of them can be taken. -/
def taken (step : σ → α → Option (σ × List ε)) (permitted : σ → α → Bool) :
    σ → List α → Option (σ × List ε)
  | state, [] => some (state, [])
  | state, action :: rest =>
      if permitted state action then
        (step state action).bind fun (next, emitted) =>
          (taken step permitted next rest).map fun (last, events) => (last, emitted ++ events)
      else none

theorem run_of_taken {step : σ → α → Option (σ × List ε)} {permitted : σ → α → Bool}
    {first last : σ} {actions : List α} {events : List ε}
    (result : taken step permitted first actions = some (last, events)) :
    Run (fun state action next emitted => step state action = some (next, emitted))
      (fun state action => permitted state action) first events last := by
  induction actions generalizing first events with
  | nil =>
      cases result
      exact .start
  | cons action rest hypothesis =>
      unfold taken at result
      split at result
      · rename_i allowed
        obtain ⟨⟨next, emitted⟩, stepped, rest⟩ := Option.bind_eq_some_iff.1 result
        obtain ⟨⟨final, later⟩, ran, same⟩ := Option.map_eq_some_iff.1 rest
        cases same
        have one : Run (fun state action next emitted => step state action = some (next, emitted))
            (fun state action => permitted state action) first ([] ++ emitted) next :=
          .further .start stepped allowed
        rw [List.nil_append] at one
        exact one.append (hypothesis ran)
      · cases result

end OnecRuntime.Library
