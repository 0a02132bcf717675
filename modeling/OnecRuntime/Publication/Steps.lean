import OnecRuntime.Library.Transitions
import OnecRuntime.Publication.Server

/-!
# Runs of the server registry and its target

A system is the server registry with the target it publishes to. Every action is
one section of an operation, or the executor running the claimed mutation, so the
runs are the interleavings of the operations' sections. A step emits an event when
the executor is invoked for a mutation, when one of a mutation's callbacks runs, and
when an operation ends by raising.
-/

namespace OnecRuntime.Publication

open OnecRuntime.Library OnecRuntime.Registry

inductive Operation where
  | prepare
  | prepareRoot
  | swapRoot
  | discardRoot
  | promote
deriving DecidableEq, Repr

variable (naming : Naming) (V : Type)

structure System where
  server : ServerWorkerUniverseRegistry naming V
  target : Target

/-- How the executor's attempt at an instruction ends: its reply is delivered, the guard
refuses it, its reply is lost or malformed, or it never reaches the target. -/
inductive Execution where
  | answered (milliseconds : Nat)
  | staged (reply : Reply)
  | refused (message : Text)
  | lost (milliseconds : Nat) (message : Text)
  | malformed (milliseconds : Nat) (reply : Reply)
  | unreached (message : Text)
deriving DecidableEq, Repr

inductive Action where
  | beginPrepare (fence sealFence : Nat × Nat)
      (preparation : WorkerUniverseRegistry.Preparation) (batches : Except Failure Unit)
  | reserveStageBatch (operation : Operation) (fence : Nat × Nat)
      (candidate : WorkerUniverseCandidate naming) (instruction : Except Failure Unit)
  | bindDebugView (operation : Operation) (fence discardFence : Nat × Nat)
      (candidate : WorkerUniverseCandidate naming)
      (view : Except Failure (Option (WorkerGenerationDebugView naming V)))
  | beginPrepareRoot (operation : Operation) (fence discardFence : Nat × Nat)
      (candidate : WorkerUniverseCandidate naming) (transactionId : TransactionId)
      (batches : Except Failure Unit)
  | reservePrepareRoot (operation : Operation) (fence activeFence : Nat × Nat)
      (candidate : WorkerUniverseCandidate naming) (transactionId : TransactionId)
  | reserveSwapRoot (operation : Operation) (prepared : WorkerPreparedRootReceipt)
  | reserveDiscardRoot (operation : Operation) (prepared : WorkerPreparedRootReceipt)
  | claim (operation : Operation)
  | executeAgain
  | execute (execution : Execution)
  | complete (operation : Operation) (input : ServerWorkerUniverseRegistry.CompletionInput)
  | quarantineRoot (prepared : WorkerPreparedRootReceipt)
  | release (planFence fence previewFence : Nat × Nat) (release : Release naming)

variable {naming V}

/-- The instruction's effect on the target and the text it returns, if its guard passes. -/
def Purpose.instruct (purpose : Purpose naming) (target : Target) (milliseconds : Nat) :
    Except String (Target × Text) :=
  match purpose with
  | .stageBatch _ => .ok (target, [])
  | .prepareRoot candidate transactionId previousRootKey =>
      .ok (target.prepareRoot transactionId candidate.handle.generation candidate.manifest.sha256
        previousRootKey milliseconds)
  | .swapRoot _ prepared => target.swapRoot prepared milliseconds
  | .discardRoot _ prepared => target.discardRoot prepared

def Purpose.phase (purpose : Purpose naming) (message : Text) : Except Failure (Option Text) :=
  match purpose with
  | .prepareRoot .. => workerPromotionFailurePhase message
  | .swapRoot .. => workerRootSwapFailurePhase message
  | _ => .ok none

def ServerWorkerUniverseRegistry.StageOutcome.known :
    ServerWorkerUniverseRegistry.StageOutcome → Bool
  | .succeeded | .knownPreSwap _ => true
  | .rejected | .unknown => false

/-- The reply tells how the mutation it answers ended. -/
def Purpose.accepts (purpose : Purpose naming)
    (input : ServerWorkerUniverseRegistry.CompletionInput) (reply : Reply) : Bool :=
  match purpose with
  | .stageBatch _ => input.stageOutcome.known
  | .prepareRoot candidate transactionId previousRootKey =>
      (ServerWorkerUniverseRegistry.acceptedPreparation candidate transactionId previousRootKey
        input.receiptIdentity reply).isSome
  | .swapRoot _ prepared =>
      (ServerWorkerUniverseRegistry.acceptedPromotion prepared reply).isSome
  | .discardRoot _ prepared => workerRootDiscardReceipt reply prepared

/-- The instruction takes effect and the executor makes a result of its text. -/
def Purpose.executed (purpose : Purpose naming) (target : Target) (milliseconds : Nat)
    (result : Text → Except Text Reply) : Option (Target × Except Text Reply) :=
  match purpose.instruct target milliseconds with
  | .ok (after, text) => some (after, result text)
  | .error _ => none

/-- The target and the executor's result after an attempt. -/
def Purpose.attempt (purpose : Purpose naming) (target : Target) :
    Execution → Option (Target × Except Text Reply)
  | .answered milliseconds => purpose.executed target milliseconds fun text => .ok (.text text)
  | .staged reply => some (target, .ok reply)
  | .refused message => some (target, .error message)
  | .lost milliseconds message => purpose.executed target milliseconds fun _ => .error message
  | .malformed milliseconds reply => purpose.executed target milliseconds fun _ => .ok reply
  | .unreached message => some (target, .error message)

/-- The attempts an executor can make: a root instruction is applied completely, refused
with the text of its stage, or applied with its reply lost or malformed; a text without its
stage says nothing of the target. -/
def Purpose.Possible (purpose : Purpose naming) (target : Target) : Execution → Prop
  | .answered _ => ∀ candidate, purpose ≠ .stageBatch candidate
  | .staged _ => ∃ candidate, purpose = .stageBatch candidate
  | .refused message => (∃ phase, purpose.phase message = .ok (some phase)) ∧
      match purpose with
      | .swapRoot _ prepared => ∀ milliseconds, ∃ problem,
          target.swapRoot prepared milliseconds = .error problem
      | _ => True
  | .lost _ message => ∀ phase, purpose.phase message ≠ .ok (some phase)
  | .malformed _ reply => ∀ input, purpose.accepts input reply = false
  | .unreached message => ∀ phase, purpose.phase message ≠ .ok (some phase)

/-- What a step makes known: an invocation of the executor, a callback that ran, or an
operation that raised, with its candidate where it has one. -/
inductive Event (naming : Naming) where
  | invoked (token : Nat)
  | settled (token : Nat)
  | raised (operation : Operation) (candidate : Option (WorkerUniverseCandidate naming))
deriving DecidableEq

namespace System

def initial (owner runtimeGeneration contextGeneration : Nat) : System naming V :=
  ⟨.initial owner runtimeGeneration contextGeneration, .empty⟩

/-- What a section leaves and emits: `returns` if it returned, an event if it raised. -/
def after {α : Type} (system : System naming V) (operation : Operation)
    (candidate : Option (WorkerUniverseCandidate naming))
    (outcome : ServerWorkerUniverseRegistry.Section naming V α)
    (returns : List (Event naming)) : System naming V × List (Event naming) :=
  ({ system with server := outcome.1 },
    match outcome.2 with
    | .ok _ => returns
    | .error _ => [.raised operation candidate])

/-- The candidate of a prepared root, if the registry still has its entry. -/
def candidateOf (system : System naming V) (prepared : WorkerPreparedRootReceipt) :
    Option (WorkerUniverseCandidate naming) :=
  (system.server.preparedEntry prepared).toOption

/-- The candidate that the first section of `prepare` makes, if it makes one. -/
def preparedCandidate (system : System naming V) (fence : Nat × Nat)
    (preparation : WorkerUniverseRegistry.Preparation) :
    Option (WorkerUniverseCandidate naming) :=
  if system.server.broken || system.server.mutation.isSome then none
  else (system.server.host.prepare fence preparation).result.toOption

/-- `promote` raises the failure of its swap, or goes on to discard the root when the guard
refused it. -/
def goesOn (operation : Operation) (purpose : Purpose naming) (failure : Failure) : Bool :=
  match operation, purpose, failure with
  | .promote, .swapRoot .., .executor message =>
      match workerRootSwapFailurePhase message with
      | .ok (some _) => true
      | _ => false
  | _, _, _ => false

/-- `promote` raises the guard failure once it has discarded the root. -/
def raisesAfter (operation : Operation) (purpose : Purpose naming) : Bool :=
  match operation, purpose with
  | .promote, .discardRoot .. => true
  | _, _ => false

def completion (operation : Operation) (purpose : Purpose naming) :
    Except Failure Unit → List (Event naming)
  | .error failure =>
      if goesOn operation purpose failure then []
      else [.raised operation (some purpose.candidate)]
  | .ok () =>
      if raisesAfter operation purpose then [.raised operation (some purpose.candidate)] else []

/-- The result of an executor is kept until the mutation is completed with it. -/
def store (system : System naming V) (mutation : Mutation naming)
    (attempted : Target × Except Text Reply) : System naming V where
  server := { system.server with
    mutation := some { mutation with result := some attempted.2 } }
  target := attempted.1

variable [DecidableEq V]

/-- The system that an action leaves with its events, for the actions that are one section. -/
def sectionAction (system : System naming V) :
    Action naming V → Option (System naming V × List (Event naming))
  | .beginPrepare fence sealFence preparation batches =>
      some (system.after .prepare (system.preparedCandidate fence preparation)
        (system.server.beginPrepare fence sealFence preparation batches) [])
  | .reserveStageBatch operation fence candidate instruction =>
      some (system.after operation (some candidate)
        (system.server.reserveStageBatch fence candidate instruction) [])
  | .bindDebugView operation fence discardFence candidate view =>
      some (system.after operation (some candidate)
        (system.server.bindDebugView fence discardFence candidate view) [])
  | .beginPrepareRoot operation fence discardFence candidate transactionId batches =>
      some (system.after operation (some candidate)
        (system.server.beginPrepareRoot fence discardFence candidate transactionId batches) [])
  | .reservePrepareRoot operation fence activeFence candidate transactionId =>
      some (system.after operation (some candidate)
        (system.server.reservePrepareRoot fence activeFence candidate transactionId) [])
  | .reserveSwapRoot operation prepared =>
      some (system.after operation (system.candidateOf prepared)
        (system.server.reserveSwapRoot prepared) [])
  | .reserveDiscardRoot operation prepared =>
      some (system.after operation (system.candidateOf prepared)
        (system.server.reserveDiscardRoot prepared) [])
  | .quarantineRoot prepared =>
      some ({ system with server := (system.server.quarantineRoot prepared).1 }, [])
  | .release planFence fence previewFence release =>
      some ({ system with
        server := (system.server.release planFence fence previewFence release).1 }, [])
  | .claim _ | .executeAgain | .execute _ | .complete _ _ => none

/-- The steps of a system. An operation executes the mutation it reserved once; any further
call of `execute_mutation` is an action of its own. -/
inductive Step : System naming V → Action naming V → System naming V → List (Event naming) → Prop
  | atomic {system action outcome} (ran : sectionAction system action = some outcome) :
      Step system action outcome.1 outcome.2
  | claim {system operation mutation} (outstanding : system.server.mutation = some mutation)
      (own : mutation.claimed = false) :
      Step system (.claim operation)
        (system.after operation (some mutation.purpose.candidate)
          (system.server.claimMutation mutation) [.invoked mutation.token]).1
        (system.after operation (some mutation.purpose.candidate)
          (system.server.claimMutation mutation) [.invoked mutation.token]).2
  | executeAgain {system mutation} (outstanding : system.server.mutation = some mutation) :
      Step system .executeAgain
        { system with server := (system.server.claimMutation mutation).1 }
        (match (system.server.claimMutation mutation).2 with
          | .ok _ => [.invoked mutation.token]
          | .error _ => [])
  | execute {system mutation execution attempted}
      (outstanding : system.server.mutation = some mutation) (claimed : mutation.claimed = true)
      (running : mutation.result = none)
      (possible : mutation.purpose.Possible system.target execution)
      (ran : mutation.purpose.attempt system.target execution = some attempted) :
      Step system (.execute execution) (system.store mutation attempted) []
  | complete {system operation mutation input result}
      (outstanding : system.server.mutation = some mutation)
      (finished : mutation.result = some result) :
      Step system (.complete operation input)
        { system with
          server := (system.server.completeMutation mutation.purpose input result).1 }
        (.settled mutation.token :: completion operation mutation.purpose
          (system.server.completeMutation mutation.purpose input result).2)

end System

end OnecRuntime.Publication

/-!
# What an attempt leaves of the target

An attempt executes its instruction or leaves the target alone. Whatever is executed,
a stored outcome stays stored and a prepared root is stored under its own root key.
-/

namespace OnecRuntime.Publication

open OnecRuntime.Library OnecRuntime.Registry

variable {naming : Naming}

variable {target : Target} {purpose : Purpose naming}

variable {milliseconds : Nat}

theorem Purpose.executed_eq_some
    {result : Text → Except Text Reply} {attempted : Target × Except Text Reply}
    (ran : purpose.executed target milliseconds result = some attempted) :
    ∃ text, purpose.instruct target milliseconds = .ok (attempted.1, text) ∧
      attempted.2 = result text := by
  unfold Purpose.executed at ran
  split at ran
  · next executed =>
      cases ran
      exact ⟨_, executed, rfl⟩
  · cases ran

/-- An attempt leaves the target alone or executes the instruction. -/
theorem Purpose.attempt_target {execution : Execution} {attempted : Target × Except Text Reply}
    (ran : purpose.attempt target execution = some attempted) :
    attempted.1 = target ∨ ∃ milliseconds text,
      purpose.instruct target milliseconds = .ok (attempted.1, text) := by
  cases execution with
  | answered milliseconds | lost milliseconds _ | malformed milliseconds _ =>
      obtain ⟨text, executed, _⟩ := Purpose.executed_eq_some ran
      exact .inr ⟨milliseconds, text, executed⟩
  | staged _ | refused _ | unreached _ =>
      cases ran
      exact .inl rfl

variable {after : Target} {text : Text}

/-- A swap answers with its stored outcome or publishes the prepared root it names. -/
theorem Target.swapRoot_cases {prepared : WorkerPreparedRootReceipt}
    (executed : target.swapRoot prepared milliseconds = .ok (after, text)) :
    after = target ∧ target.swapOutcomes.get? prepared.transactionId = some text ∨
      target.swapOutcomes.get? prepared.transactionId = none ∧
        ∃ stored, target.prepared.get? prepared.transactionId = some stored ∧
          Target.identifies stored prepared ∧
          (after, text) = target.publish stored prepared milliseconds := by
  unfold Target.swapRoot at executed
  split at executed
  · next receipt found =>
      cases executed
      exact .inl ⟨rfl, found⟩
  · next fresh =>
      split at executed
      · cases executed
      · next stored found =>
          split at executed
          · next same =>
              split at executed
              · cases executed
                exact .inr ⟨fresh, stored, found, same, rfl⟩
              · split at executed <;> cases executed
          · cases executed

theorem Target.discardRoot_cases {prepared : WorkerPreparedRootReceipt}
    (executed : target.discardRoot prepared = .ok (after, text)) :
    after = target ∨ target.discardOutcomes.get? prepared.transactionId = none ∧
      (after, text) = target.forgetPrepared prepared := by
  unfold Target.discardRoot at executed
  split at executed
  · cases executed
    exact .inl rfl
  · next fresh =>
      split at executed
      · cases executed
      · split at executed
        · cases executed
          exact .inr ⟨fresh, rfl⟩
        · cases executed

theorem get?_set_kept {κ ν : Type} [DecidableEq κ] {dictionary : Dictionary κ ν} {key other : κ}
    {stored value : ν} (fresh : dictionary.get? key = none)
    (found : dictionary.get? other = some stored) :
    (dictionary.set key value).get? other = some stored := by
  have apart : other ≠ key := by
    rintro rfl
    rw [fresh] at found
    cases found
  rw [Dictionary.get?_set_other _ _ apart]
  exact found

/-- An outcome that the target stores stays stored. -/
theorem Purpose.instruct_outcomes
    (executed : purpose.instruct target milliseconds = .ok (after, text)) :
    (∀ transactionId receipt, target.swapOutcomes.get? transactionId = some receipt →
        after.swapOutcomes.get? transactionId = some receipt) ∧
      ∀ transactionId receipt, target.discardOutcomes.get? transactionId = some receipt →
        after.discardOutcomes.get? transactionId = some receipt := by
  cases purpose with
  | stageBatch candidate =>
      cases executed
      exact ⟨fun _ _ stored => stored, fun _ _ stored => stored⟩
  | prepareRoot candidate transactionId previousRootKey =>
      cases executed
      exact ⟨fun _ _ stored => stored, fun _ _ stored => stored⟩
  | swapRoot candidate prepared =>
      rcases Target.swapRoot_cases executed with ⟨rfl, _⟩ | ⟨fresh, stored, _, _, published⟩
      · exact ⟨fun _ _ stored => stored, fun _ _ stored => stored⟩
      · cases published
        exact ⟨fun _ _ found => get?_set_kept fresh found, fun _ _ stored => stored⟩
  | discardRoot candidate prepared =>
      rcases Target.discardRoot_cases executed with rfl | ⟨fresh, forgot⟩
      · exact ⟨fun _ _ stored => stored, fun _ _ stored => stored⟩
      · cases forgot
        exact ⟨fun _ _ stored => stored, fun _ _ found => get?_set_kept fresh found⟩

/-- The target's prepared roots are stored under their own root keys. -/
def Target.Sealed (target : Target) : Prop :=
  ∀ transactionId stored, target.prepared.get? transactionId = some stored →
    stored.rootKey = stored.candidateRootKey

theorem Target.Sealed.erased (isSealed : target.Sealed)
    (transactionId : TransactionId) :
    ∀ other stored, (target.prepared.erase transactionId).get? other = some stored →
      stored.rootKey = stored.candidateRootKey := by
  intro other stored found
  have kept := (Dictionary.mem_eraseAll.1 (Dictionary.get?_eq_some.1 found)).2
  exact isSealed other stored (Dictionary.get?_eq_some.2 kept)

theorem Purpose.instruct_sealed (isSealed : target.Sealed)
    (executed : purpose.instruct target milliseconds = .ok (after, text)) : after.Sealed := by
  cases purpose with
  | stageBatch candidate =>
      cases executed
      exact isSealed
  | prepareRoot candidate transactionId previousRootKey =>
      cases executed
      intro other stored found
      by_cases same : other = transactionId
      · subst same
        simp only [Dictionary.get?_set_same] at found
        cases found
        rfl
      · simp only [Dictionary.get?_set_other _ _ same] at found
        exact isSealed other stored found
  | swapRoot candidate prepared =>
      rcases Target.swapRoot_cases executed with ⟨rfl, _⟩ | ⟨_, stored, _, _, published⟩
      · exact isSealed
      · cases published
        exact isSealed.erased _
  | discardRoot candidate prepared =>
      rcases Target.discardRoot_cases executed with rfl | ⟨_, forgot⟩
      · exact isSealed
      · cases forgot
        exact isSealed.erased _

end OnecRuntime.Publication
