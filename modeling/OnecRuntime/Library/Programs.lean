import Mathlib.Tactic.TypeStar

/-!
# Programs that ask

A program reads and changes a state of its own and asks its environment, whose
answers are not known beforehand.  A program is safe when every change it makes,
every question it asks and every end it reaches keeps given rules, which may
speak of what was asked and answered so far.
-/

namespace OnecRuntime.Library

variable {σ Q : Type} {Answer : Q → Type} {ρ τ ε : Type}

inductive Program (σ : Type) {Q : Type} (Answer : Q → Type) (ρ : Type) where
  | finish (result : ρ)
  | look (next : σ → Program σ Answer ρ)
  | update (change : σ → σ) (next : Program σ Answer ρ)
  | ask (question : Q) (next : Answer question → Program σ Answer ρ)

/-- A question with its answer. -/
structure Exchange {Q : Type} (Answer : Q → Type) where
  question : Q
  answer : Answer question

/-- What a program may ask and how it may change its state, after what was exchanged, the last
exchange first. -/
structure Rules (σ : Type) {Q : Type} (Answer : Q → Type) where
  asks : List (Exchange Answer) → σ → Q → Prop
  changes : List (Exchange Answer) → σ → σ → Prop

namespace Program

def bind (program : Program σ Answer ρ) (next : ρ → Program σ Answer τ) : Program σ Answer τ :=
  match program with
  | finish result => next result
  | look seen => look fun state => (seen state).bind next
  | update change rest => update change (rest.bind next)
  | ask question answered => ask question fun answer => (answered answer).bind next

instance : Monad (Program σ Answer) where
  pure := finish
  bind := bind

/-- The state of the program. -/
def get : Program σ Answer σ := look finish

def modify (change : σ → σ) : Program σ Answer Unit := update change (finish ())

def request (question : Q) : Program σ Answer (Answer question) := ask question finish

/-- Every change, question and end of the program keeps the rules, whatever the answers. -/
def Safe (rules : Rules σ Answer) (ends : List (Exchange Answer) → σ → ρ → Prop) :
    Program σ Answer ρ → List (Exchange Answer) → σ → Prop
  | finish result, log, state => ends log state result
  | look next, log, state => Safe rules ends (next state) log state
  | update change next, log, state =>
      rules.changes log state (change state) ∧ Safe rules ends next log (change state)
  | ask question next, log, state =>
      rules.asks log state question ∧
        ∀ answer, Safe rules ends (next answer) (⟨question, answer⟩ :: log) state

/-- The end of the program where every question gets the answer that is served for it, which may
depend on everything exchanged before: the result, what was exchanged and the state. -/
def answered (serve : List (Exchange Answer) → (question : Q) → Answer question) :
    Program σ Answer ρ → List (Exchange Answer) → σ → ρ × List (Exchange Answer) × σ
  | finish result, log, state => (result, log, state)
  | look next, log, state => answered serve (next state) log state
  | update change next, log, state => answered serve next log (change state)
  | ask question next, log, state =>
      answered serve (next (serve log question)) (⟨question, serve log question⟩ :: log) state

section Rules

variable {rules : Rules σ Answer} {ends : List (Exchange Answer) → σ → ρ → Prop}
  {log : List (Exchange Answer)} {state : σ}

variable {program : Program σ Answer ρ}

/-- A sequence is safe where its first part is safe and ends so that the rest is safe. -/
theorem safe_bind {ends : List (Exchange Answer) → σ → τ → Prop}
    {next : ρ → Program σ Answer τ} :
    (program >>= next).Safe rules ends log state ↔
      program.Safe rules (fun log state result => (next result).Safe rules ends log state) log
        state := by
  change (program.bind next).Safe rules ends log state ↔ _
  induction program generalizing log state with
  | finish result => rfl
  | look seen ih => exact ih state
  | update change rest ih => exact and_congr_right fun _ => ih
  | ask question answered ih => exact and_congr_right fun _ => forall_congr' fun answer => ih answer

theorem answered_bind (serve : List (Exchange Answer) → (question : Q) → Answer question)
    {next : ρ → Program σ Answer τ} :
    (program >>= next).answered serve log state =
      let (result, later, after) := program.answered serve log state
      (next result).answered serve later after := by
  change (program.bind next).answered serve log state = _
  induction program generalizing log state with
  | finish result => rfl
  | look seen ih => exact ih state
  | update change rest ih => exact ih
  | ask question given ih => exact ih _

/-- A safe program ends safely, whatever is served. -/
theorem Safe.answered (safe : program.Safe rules ends log state)
    (serve : List (Exchange Answer) → (question : Q) → Answer question) :
    ends (program.answered serve log state).2.1 (program.answered serve log state).2.2
      (program.answered serve log state).1 := by
  induction program generalizing log state with
  | finish result => exact safe
  | look next ih => exact ih state safe
  | update change next ih => exact ih safe.2
  | ask question next ih => exact ih _ (safe.2 _)

/-- A safe program is safe for every weaker end. -/
theorem Safe.weaken {ends weaker : List (Exchange Answer) → σ → ρ → Prop}
    (safe : program.Safe rules ends log state)
    (implied : ∀ {log state result}, ends log state result → weaker log state result) :
    program.Safe rules weaker log state := by
  induction program generalizing log state with
  | finish result => exact implied safe
  | look next ih => exact ih state safe
  | update change next ih => exact ⟨safe.1, ih safe.2⟩
  | ask question next ih => exact ⟨safe.1, fun answer => ih answer (safe.2 answer)⟩

end Rules

end Program

/-! ## Programs that raise -/

/-- A program that returns a value or raises a problem. -/
abbrev Fallible (σ : Type) {Q : Type} (Answer : Q → Type) (ε ρ : Type) :=
  ExceptT ε (Program σ Answer) ρ

namespace Fallible

def get : Fallible σ Answer ε σ := ExceptT.lift Program.get

def modify (change : σ → σ) : Fallible σ Answer ε Unit := ExceptT.lift (Program.modify change)

def request (question : Q) : Fallible σ Answer ε (Answer question) :=
  ExceptT.lift (Program.request question)

/-- The result of a program or the problem that it raised. -/
def attempt (program : Fallible σ Answer ε ρ) : Fallible σ Answer ε (Except ε ρ) :=
  ExceptT.lift program.run

/-- The program is safe, where it returns and where it raises. -/
def Safe (rules : Rules σ Answer) (returns : List (Exchange Answer) → σ → ρ → Prop)
    (raises : List (Exchange Answer) → σ → ε → Prop) (program : Fallible σ Answer ε ρ)
    (log : List (Exchange Answer)) (state : σ) : Prop :=
  Program.Safe rules (fun log state result =>
    match result with
    | .ok value => returns log state value
    | .error problem => raises log state problem) program.run log state

section Rules

variable {rules : Rules σ Answer} {raises : List (Exchange Answer) → σ → ε → Prop}
  {log : List (Exchange Answer)} {state : σ}

theorem safe_throw {returns : List (Exchange Answer) → σ → ρ → Prop} {problem : ε} :
    Safe rules returns raises (throw problem) log state ↔ raises log state problem :=
  Iff.rfl

variable {program : Fallible σ Answer ε ρ}

theorem safe_bind {returns : List (Exchange Answer) → σ → τ → Prop}
    {next : ρ → Fallible σ Answer ε τ} :
    Safe rules returns raises (program >>= next) log state ↔
      Safe rules (fun log state value => Safe rules returns raises (next value) log state) raises
        program log state := by
  unfold Safe
  refine Program.safe_bind.trans ?_
  refine Iff.of_eq (congrArg (fun ends => Program.Safe rules ends program.run log state) ?_)
  funext log state result
  cases result with
  | ok value => rfl
  | error problem => rfl

theorem safe_get {returns : List (Exchange Answer) → σ → σ → Prop} :
    Safe rules returns raises get log state ↔ returns log state state :=
  Iff.rfl

theorem safe_modify {returns : List (Exchange Answer) → σ → Unit → Prop} {change : σ → σ} :
    Safe rules returns raises (modify change) log state ↔
      rules.changes log state (change state) ∧ returns log (change state) () :=
  Iff.rfl

theorem safe_request {question : Q} {returns : List (Exchange Answer) → σ → Answer question → Prop} :
    Safe rules returns raises (request question) log state ↔
      rules.asks log state question ∧
        ∀ answer, returns (⟨question, answer⟩ :: log) state answer :=
  Iff.rfl

/-- What follows a raised problem is left out. -/
theorem answered_bind (serve : List (Exchange Answer) → (question : Q) → Answer question)
    {next : ρ → Fallible σ Answer ε τ} :
    (program >>= next).run.answered serve log state =
      match program.run.answered serve log state with
      | (.ok value, later, after) => (next value).run.answered serve later after
      | (.error problem, later, after) => (.error problem, later, after) := by
  refine (Program.answered_bind serve).trans ?_
  unfold ExceptT.run
  obtain ⟨result, later, after⟩ := Program.answered serve program log state
  cases result with
  | ok value => rfl
  | error problem => rfl

theorem answered_request (serve : List (Exchange Answer) → (question : Q) → Answer question)
    (question : Q) :
    (request question : Fallible σ Answer ε (Answer question)).run.answered serve log state =
      (.ok (serve log question), ⟨question, serve log question⟩ :: log, state) :=
  rfl

theorem answered_attempt (serve : List (Exchange Answer) → (question : Q) → Answer question)
    :
    (attempt program).run.answered serve log state =
      (.ok (program.run.answered serve log state).1, (program.run.answered serve log state).2) :=
  Program.answered_bind serve

theorem Safe.weaken {returns weaker : List (Exchange Answer) → σ → ρ → Prop}
    (safe : Safe rules returns raises program log state)
    (implied : ∀ {log state value}, returns log state value → weaker log state value) :
    Safe rules weaker raises program log state := by
  refine Program.Safe.weaken safe fun {log state result} ended => ?_
  cases result with
  | ok value => exact implied ended
  | error problem => exact ended

end Rules

end Fallible

end OnecRuntime.Library
