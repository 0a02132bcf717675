import OnecRuntime.Publication.Steps
import OnecRuntime.Registry.Runs

/-!
# What a section can do

Every section other than a completed swap and a release leaves the references of
the host alone. It changes nothing, prepares a candidate, reserves the mutation,
binds a debug view, gives the pending candidate back or breaks the registry.
-/

namespace OnecRuntime.Publication

open OnecRuntime.Library OnecRuntime.Registry

variable {naming : Naming} {V : Type}

/-- The generations, leases and counts of two host registries are the same. -/
structure SameReferences (before after : WorkerUniverseRegistry naming V) : Prop where
  generations : after.generations = before.generations
  active : after.activeGeneration = before.activeGeneration
  leases : after.leases = before.leases
  refcounts : after.registrationRefcounts = before.registrationRefcounts
  artifacts : after.registrationArtifacts = before.registrationArtifacts

theorem SameReferences.refl (registry : WorkerUniverseRegistry naming V) :
    SameReferences registry registry := ⟨rfl, rfl, rfl, rfl, rfl⟩

theorem SameReferences.trans {first second third : WorkerUniverseRegistry naming V}
    (left : SameReferences first second) (right : SameReferences second third) :
    SameReferences first third :=
  ⟨right.generations.trans left.generations, right.active.trans left.active,
    right.leases.trans left.leases, right.refcounts.trans left.refcounts,
    right.artifacts.trans left.artifacts⟩

/-- The root key of the host's active generation. -/
def activeRoot (host : WorkerUniverseRegistry naming V) : Option String :=
  host.activeRecord.map GenerationRecord.rootKey

theorem SameReferences.activeRoot {before after : WorkerUniverseRegistry naming V}
    (same : SameReferences before after) : activeRoot after = activeRoot before := by
  unfold Publication.activeRoot WorkerUniverseRegistry.activeRecord
  rw [same.generations, same.active]

/-- A host registry that is unchanged or was broken with its candidate quarantined. -/
inductive Degraded (before : WorkerUniverseRegistry naming V) :
    WorkerUniverseRegistry naming V → Prop
  | same : Degraded before before
  | broken (holds : List String) : Degraded before
      { before with quarantineHolds := holds, pending := none, state := .broken }

theorem Degraded.references {before after : WorkerUniverseRegistry naming V}
    (degraded : Degraded before after) : SameReferences before after := by
  cases degraded
  · exact .refl before
  · exact ⟨rfl, rfl, rfl, rfl, rfl⟩

theorem Degraded.trans {first second third : WorkerUniverseRegistry naming V}
    (left : Degraded first second) (right : Degraded second third) : Degraded first third := by
  cases right with
  | same => exact left
  | broken holds =>
      cases left with
      | same => exact .broken holds
      | broken _ => exact .broken holds

theorem markBroken_degraded (host : WorkerUniverseRegistry naming V)
    (candidate : Option (WorkerUniverseCandidate naming)) :
    Degraded host (host.markBroken candidate).registry := by
  unfold WorkerUniverseRegistry.markBroken
  apply Outcome.ofAttempt_registry .same
  intro next value returned
  obtain ⟨_, _, returned⟩ := bind_eq_ok.1 returned
  cases candidate with
  | none =>
      cases returned
      obtain ⟨holds, broken⟩ := WorkerUniverseRegistry.quarantinePending_broken host
      rw [broken]
      exact .broken holds
  | some named =>
      obtain ⟨_, _, returned⟩ := bind_eq_ok.1 returned
      cases returned
      exact .broken _

/-- A discard gives the candidate back, or raises and leaves the host as it was or broken. -/
theorem discard_cases (host : WorkerUniverseRegistry naming V) (fence : Nat × Nat)
    (candidate : WorkerUniverseCandidate naming) :
    (host.discard fence candidate).result = .ok () ∧
        host.requirePending candidate = .ok () ∧
        (host.discard fence candidate).registry = host.forgetPending candidate ∨
      (∃ problem, (host.discard fence candidate).result = .error problem) ∧
        Degraded host (host.discard fence candidate).registry := by
  unfold WorkerUniverseRegistry.discard
  cases admitted : host.requireDiscardable candidate with
  | error problem => exact .inr ⟨⟨problem, rfl⟩, .same⟩
  | ok value =>
      obtain ⟨_, _, isPending⟩ := bind_eq_ok.1 admitted
      cases host.requireCurrentFence fence with
      | error problem => exact .inr ⟨⟨problem, rfl⟩, .broken _⟩
      | ok current => exact .inl ⟨rfl, isPending, rfl⟩

theorem discardExact_cases (host : WorkerUniverseRegistry naming V)
    (candidate : WorkerUniverseCandidate naming) :
    (host.discardExactPendingWithoutFence candidate).result = .ok () ∧
        host.requirePending candidate = .ok () ∧
        (host.discardExactPendingWithoutFence candidate).registry =
          host.forgetPending candidate ∨
      (∃ problem, (host.discardExactPendingWithoutFence candidate).result = .error problem) := by
  unfold WorkerUniverseRegistry.discardExactPendingWithoutFence
  cases returned : host.discardExactPendingAttempt candidate with
  | error problem => exact .inr ⟨problem, rfl⟩
  | ok outcome =>
      obtain ⟨_, _, returned⟩ := bind_eq_ok.1 returned
      obtain ⟨_, isPending, returned⟩ := bind_eq_ok.1 returned
      obtain ⟨_, _, returned⟩ := bind_eq_ok.1 returned
      cases returned
      exact .inl ⟨rfl, isPending, rfl⟩

namespace ServerWorkerUniverseRegistry

/-- What a section does to the host when it is no confirmation and no release. -/
inductive Moves (before : Server naming V) : Server naming V → Prop
  | stays : Moves before before
  | prepares {fence : Nat × Nat} {preparation : WorkerUniverseRegistry.Preparation}
      {next : WorkerUniverseRegistry naming V} {candidate : WorkerUniverseCandidate naming}
      (idle : before.mutation = none)
      (made : before.host.prepareAttempt fence preparation = .ok (next, candidate)) :
      Moves before { before with host := next }
  | binds {fence : Nat × Nat} {candidate : WorkerUniverseCandidate naming}
      {debugView : WorkerGenerationDebugView naming V} {next : WorkerUniverseRegistry naming V}
      (bound : before.host.bindCandidateDebugViewAttempt fence candidate debugView =
        .ok (next, ())) : Moves before { before with host := next }
  | discards (candidate : WorkerUniverseCandidate naming)
      (isPending : before.host.requirePending candidate = .ok ()) :
      Moves before { before with host := before.host.forgetPending candidate }
  | breaks {host : WorkerUniverseRegistry naming V} (degraded : Degraded before.host host) :
      Moves before { before with broken := true, host := host }

/-- A mutation is reserved while no other one is outstanding. -/
structure Reserves (before : Server naming V) (purpose : Purpose naming)
    (after : Server naming V) : Prop where
  available : before.available
  idle : before.mutation = none
  reserved : after = { before with
    mutation := some ⟨before.nextToken, purpose, false, none⟩
    nextToken := before.nextToken + 1 }

variable (server : Server naming V)

theorem breakPending_moves (candidate : WorkerUniverseCandidate naming) :
    ∃ host, Degraded server.host host ∧
      server.breakPending candidate = { server with broken := true, host := host } := by
  have named := markBroken_degraded server.host (some candidate)
  have pending := markBroken_degraded server.host none
  unfold breakPending
  cases marked : server.host.markBroken (some candidate) with
  | mk registry result =>
      rw [marked] at named
      cases result with
      | ok value => exact ⟨registry, named, rfl⟩
      | error problem =>
          simp only
          split
          · exact ⟨server.host, .same, rfl⟩
          · exact ⟨_, pending, rfl⟩

variable {α : Type}

theorem abandon_moves (candidate : WorkerUniverseCandidate naming) :
    Moves server (server.abandon candidate : Section naming V α).1 := by
  obtain ⟨host, degraded, broke⟩ := server.breakPending_moves candidate
  show Moves server (server.breakPending candidate)
  rw [broke]
  exact .breaks degraded

theorem abandon_broken (candidate : WorkerUniverseCandidate naming) :
    (server.abandon candidate : Section naming V α).1.broken = true := by
  obtain ⟨host, _, broke⟩ := server.breakPending_moves candidate
  show (server.breakPending candidate).broken = true
  rw [broke]

/-- An abort before the swap gives the candidate back or breaks the registry. -/
theorem abortPreSwap_cases (fence : Nat × Nat)
    (candidate : WorkerUniverseCandidate naming) (failure : Failure) :
    (server.host.requirePending candidate = .ok () ∧
        (server.abortPreSwap fence candidate failure : Section naming V α).1 =
          { server with host := server.host.forgetPending candidate }) ∨
      ∃ host, Degraded server.host host ∧
        (server.abortPreSwap fence candidate failure : Section naming V α).1 =
          { server with broken := true, host := host } := by
  unfold abortPreSwap
  simp only
  rcases discard_cases server.host fence candidate with
    ⟨returned, isPending, forgot⟩ | ⟨⟨problem, raised⟩, degraded⟩
  · rw [returned, forgot]
    exact .inl ⟨isPending, rfl⟩
  · rw [raised]
    obtain ⟨host, further, broke⟩ := breakPending_moves
      { server with host := (server.host.discard fence candidate).registry } candidate
    exact .inr ⟨host, degraded.trans further, broke⟩

theorem abortPreSwap_moves (fence : Nat × Nat)
    (candidate : WorkerUniverseCandidate naming) (failure : Failure) :
    Moves server (server.abortPreSwap fence candidate failure : Section naming V α).1 := by
  rcases server.abortPreSwap_cases (α := α) fence candidate failure with
    ⟨isPending, forgot⟩ | ⟨host, degraded, broke⟩
  · rw [forgot]
    exact .discards candidate isPending
  · rw [broke]
    exact .breaks degraded

theorem reserveMutation_cases (purpose : Purpose naming) :
    (server.reserveMutation purpose).1 = server ∧
        (server.reserveMutation purpose).2 = .error mutationUnavailable ∧
        ¬(server.available ∧ server.mutation = none) ∨
      (server.reserveMutation purpose).2 = .ok () ∧
        Reserves server purpose (server.reserveMutation purpose).1 := by
  unfold reserveMutation
  split
  · next free => exact .inr ⟨rfl, free.1, Option.isNone_iff_eq_none.1 free.2, rfl⟩
  · next taken => exact .inl ⟨rfl, rfl, by simpa using taken⟩

theorem reservePurpose_cases (purpose : Except Failure (Purpose naming)) :
    (server.reservePurpose purpose).1 = server ∨
      ∃ reserved, purpose = .ok reserved ∧
        Reserves server reserved (server.reservePurpose purpose).1 := by
  cases purpose with
  | error failure => exact .inl rfl
  | ok reserved =>
      rcases server.reserveMutation_cases reserved with ⟨same, _⟩ | ⟨_, reserves⟩
      · exact .inl same
      · exact .inr ⟨reserved, rfl, reserves⟩

theorem reserveStageBatch_cases (fence : Nat × Nat) (candidate : WorkerUniverseCandidate naming)
    (instruction : Except Failure Unit) :
    (∃ failure, instruction = .error failure ∧
        server.reserveStageBatch fence candidate instruction =
          server.abortPreSwap fence candidate failure) ∨
      instruction = .ok () ∧ server.reserveStageBatch fence candidate instruction =
        server.reserveMutation (.stageBatch candidate) := by
  cases instruction with
  | error failure => exact .inl ⟨failure, rfl, rfl⟩
  | ok value => exact .inr ⟨rfl, rfl⟩

/-- A debug view is not there, is bound, or the candidate is aborted. -/
theorem bindDebugView_cases (fence discardFence : Nat × Nat)
    (candidate : WorkerUniverseCandidate naming)
    (view : Except Failure (Option (WorkerGenerationDebugView naming V))) :
    (view ≠ .ok none ∧ ∃ failure, server.bindDebugView fence discardFence candidate view =
        server.abortPreSwap discardFence candidate failure) ∨
      ∃ after, Moves server after ∧ after.host.pending = server.host.pending ∧
        server.bindDebugView fence discardFence candidate view = (after, .ok ()) := by
  unfold bindDebugView
  cases view with
  | error failure => exact .inl ⟨fun impossible => (nomatch impossible), failure, rfl⟩
  | ok built =>
      cases built with
      | none => exact .inr ⟨server, .stays, rfl, rfl⟩
      | some debugView =>
          simp only
          unfold WorkerUniverseRegistry.bindCandidateDebugView
          cases bound : server.host.bindCandidateDebugViewAttempt fence candidate debugView with
          | error problem =>
              exact .inl ⟨fun impossible => (nomatch impossible), .problem problem, rfl⟩
          | ok outcome =>
              obtain ⟨next, value⟩ := outcome
              refine .inr ⟨{ server with host := next }, .binds bound, ?_, rfl⟩
              obtain ⟨_, _, bound⟩ := bind_eq_ok.1 bound
              obtain ⟨_, _, bound⟩ := bind_eq_ok.1 bound
              cases bound
              rfl

theorem beginPrepareRoot_cases (fence discardFence : Nat × Nat)
    (candidate : WorkerUniverseCandidate naming) (transactionId : TransactionId)
    (batches : Except Failure Unit) :
    (∃ failure, batches = .error failure ∧
        server.beginPrepareRoot fence discardFence candidate transactionId batches =
          server.abortPreSwap discardFence candidate failure) ∨
      server.beginPrepareRoot fence discardFence candidate transactionId batches =
        (server, .ok ()) ∨
      (∃ failure, server.beginPrepareRoot fence discardFence candidate transactionId batches =
          (server, .error failure)) ∧
        (server.broken = true ∨ transactionId ∈ server.preparedRoots.keys ∨
          ∃ failure, server.sealedActivation fence candidate = .error failure) := by
  unfold beginPrepareRoot
  split
  · next broken => exact .inr (.inr ⟨⟨_, rfl⟩, .inl broken⟩)
  · split
    · next used => exact .inr (.inr ⟨⟨_, rfl⟩, .inr (.inl used)⟩)
    · split
      · next failure isError => exact .inr (.inr ⟨⟨_, rfl⟩, .inr (.inr ⟨failure, isError⟩)⟩)
      · cases batches with
        | error failure => exact .inl ⟨failure, rfl, rfl⟩
        | ok value => exact .inr (.inl rfl)

/-- Undoing an internal preparation gives the candidate back or breaks the registry. -/
theorem discardExact_moves (candidate : WorkerUniverseCandidate naming)
    (failure : Failure) : Moves server (server.discardExact candidate failure : Section naming V α).1 := by
  unfold discardExact
  simp only
  rcases discardExact_cases server.host candidate with
    ⟨returned, isPending, forgot⟩ | ⟨problem, raised⟩
  · rw [returned, forgot]
    exact .discards candidate isPending
  · rw [raised]
    exact server.abandon_moves candidate

/-- `prepare` is refused, or prepares a candidate that it returns or undoes. -/
theorem beginPrepare_cases (fence sealFence : Nat × Nat)
    (preparation : WorkerUniverseRegistry.Preparation) (batches : Except Failure Unit) :
    ((∃ failure, server.beginPrepare fence sealFence preparation batches =
          (server, .error failure)) ∧
        ((server.broken || server.mutation.isSome) = true ∨
          ∃ problem, server.host.prepareAttempt fence preparation = .error problem)) ∨
      server.broken = false ∧ server.mutation = none ∧ ∃ next candidate,
        server.host.prepareAttempt fence preparation = .ok (next, candidate) ∧
        (server.beginPrepare fence sealFence preparation batches =
            ({ server with host := next }, .ok candidate) ∨
          ∃ failure, server.beginPrepare fence sealFence preparation batches =
            discardExact { server with host := next } candidate failure) := by
  unfold beginPrepare
  cases broken : server.broken with
  | true => exact .inl ⟨⟨_, rfl⟩, .inl rfl⟩
  | false =>
      cases idle : server.mutation with
      | some mutation => exact .inl ⟨⟨_, rfl⟩, .inl rfl⟩
      | none =>
          simp only [Option.isSome_none, Bool.false_eq_true, if_false]
          unfold WorkerUniverseRegistry.prepare
          cases made : server.host.prepareAttempt fence preparation with
          | error problem => exact .inl ⟨⟨_, rfl⟩, .inr ⟨problem, rfl⟩⟩
          | ok outcome =>
              obtain ⟨next, candidate⟩ := outcome
              refine .inr ⟨trivial, trivial, next, candidate, rfl, ?_⟩
              simp only [Outcome.ofAttempt]
              split
              · exact .inl (by rw [← broken, ← idle])
              · next failure _ => exact .inr ⟨failure, by rw [← broken, ← idle]⟩

variable {candidate : WorkerUniverseCandidate naming}

theorem preparedEntry_stored {prepared : WorkerPreparedRootReceipt}
    (entered : server.preparedEntry prepared = .ok candidate) :
    server.preparedRoots.get? prepared.transactionId = some (candidate, prepared) := by
  obtain ⟨_, _, entered⟩ := bind_eq_ok.1 entered
  split at entered
  · next candidate' receipt found =>
      split at entered
      · next same =>
          cases entered
          rw [found, same]
      · cases entered
  · cases entered

theorem preparedEntry_of_stored {prepared : WorkerPreparedRootReceipt}
    (working : server.broken = false)
    (stored : server.preparedRoots.get? prepared.transactionId = some (candidate, prepared)) :
    server.preparedEntry prepared = .ok candidate := by
  refine bind_eq_ok.2 ⟨(), require_eq_ok.2 working, ?_⟩
  rw [stored]
  simp

theorem claimMutation_cases (mutation : Mutation naming) :
    ¬(server.available ∧ mutation.claimed = false) ∧
        (∃ failure, server.claimMutation mutation = (server, .error failure)) ∨
      server.available ∧ mutation.claimed = false ∧ server.claimMutation mutation =
        ({ server with mutation := some { mutation with claimed := true } }, .ok ()) := by
  unfold claimMutation
  by_cases available : server.available
  · cases claimed : mutation.claimed with
    | true => exact .inl ⟨by simp, _, by simp [available]; rfl⟩
    | false => exact .inr ⟨available, rfl, by simp [available]⟩
  · exact .inl ⟨by simp [available], _, by simp [available]; rfl⟩

theorem quarantineRoot_cases (prepared : WorkerPreparedRootReceipt) :
    (server.quarantineRoot prepared).1 = server ∨ ∃ host, Degraded server.host host ∧
      (server.quarantineRoot prepared).1 = { server with broken := true, host := host } := by
  unfold quarantineRoot
  split
  · exact .inl rfl
  · split
    · exact .inl rfl
    · exact .inr (server.breakPending_moves _)

/-! ## Completions -/

/-- A completion that records nothing: it returns, raises and leaves the server alone, gives
its candidate back or breaks the registry. -/
inductive Ends (candidate : WorkerUniverseCandidate naming) (reported : Failure → Prop) :
    Section naming V Unit → Prop
  | returns : Ends candidate reported (server, .ok ())
  | reports (failure : Failure) (raises : reported failure) :
      Ends candidate reported (server, .error failure)
  | aborts (fence : Nat × Nat) (failure : Failure) :
      Ends candidate reported (server.abortPreSwap fence candidate failure)
  | abandons : Ends candidate reported (server.abandon candidate)

theorem Ends.moves {reported : Failure → Prop}
    {outcome : Section naming V Unit} (ends : Ends server candidate reported outcome) :
    Moves server outcome.1 := by
  cases ends with
  | returns => exact .stays
  | reports failure => exact .stays
  | aborts fence failure => exact server.abortPreSwap_moves fence candidate failure
  | abandons => exact server.abandon_moves candidate

/-- A stage batch raises and leaves the server alone when its error cannot be built. -/
theorem completeStage_ends (candidate : WorkerUniverseCandidate naming)
    (input : CompletionInput) (result : Except Text Reply) :
    Ends server candidate
      (fun failure => ∃ reply error, result = .ok reply ∧
        input.stageOutcome = .knownPreSwap error ∧
        server.stageFailureError input.diagnosticsFence candidate error = .error failure)
      (server.completeStage candidate input result) := by
  cases result with
  | error message => exact .abandons
  | ok reply =>
      simp only [completeStage]
      cases outcome : input.stageOutcome with
      | rejected => exact .abandons
      | succeeded => exact .returns
      | unknown => exact .abandons
      | knownPreSwap error =>
          cases built : server.stageFailureError input.diagnosticsFence candidate error with
          | error failure =>
              simp only [built]
              exact .reports failure ⟨reply, error, rfl, rfl, built⟩
          | ok failure =>
              simp only [built]
              exact .aborts input.hostFence failure

/-- The failure of a root preparation that is classified or recorded by raising. -/
def UnrecordedFailure (input : CompletionInput) (result : Except Text Reply)
    (failure : Failure) : Prop :=
  ∃ message, result = .error message ∧
    (workerPromotionFailurePhase message = .error failure ∨ input.recording = .error failure)

theorem abortPrepareRoot_ends (candidate : WorkerUniverseCandidate naming)
    (input : CompletionInput) (message : Text) :
    Ends server candidate (UnrecordedFailure input (.error message))
      (server.abortPrepareRoot candidate input message) := by
  unfold abortPrepareRoot
  cases phase : workerPromotionFailurePhase message with
  | error failure => exact .reports failure ⟨message, rfl, .inl phase⟩
  | ok found =>
      cases found with
      | none => exact .abandons
      | some stage =>
          cases recorded : input.recording with
          | error failure => exact .reports failure ⟨message, rfl, .inr recorded⟩
          | ok value => exact .aborts input.hostFence (.executor message)

/-- A root preparation is recorded with its accepted receipt, or its abort ran. -/
theorem completePrepareRoot_cases (candidate : WorkerUniverseCandidate naming)
    (transactionId : TransactionId) (previousRootKey : String) (input : CompletionInput)
    (result : Except Text Reply) :
    Ends server candidate (UnrecordedFailure input result)
        (server.completePrepareRoot candidate transactionId previousRootKey input result) ∨
      ∃ reply receipt, result = .ok reply ∧
        acceptedPreparation candidate transactionId previousRootKey input.receiptIdentity reply =
          some receipt ∧
        server.completePrepareRoot candidate transactionId previousRootKey input result =
          ({ server with
            preparedRoots := server.preparedRoots.set transactionId (candidate, receipt) },
            .ok ()) := by
  cases result with
  | error message => exact .inl (server.abortPrepareRoot_ends candidate input message)
  | ok reply =>
      simp only [completePrepareRoot]
      cases accepted : acceptedPreparation candidate transactionId previousRootKey
          input.receiptIdentity reply with
      | none => exact .inl .abandons
      | some receipt => exact .inr ⟨reply, receipt, rfl, accepted, rfl⟩

/-- The failure of a swap that is raised with the server left alone. -/
def RefusedSwap (result : Except Text Reply) (failure : Failure) : Prop :=
  ∃ message, result = .error message ∧
    (workerRootSwapFailurePhase message = .error failure ∨
      failure = .executor message ∧
        ∃ stage, workerRootSwapFailurePhase message = .ok (some stage))

/-- A swap was refused, broke the registry, or was confirmed. -/
theorem completeSwapRoot_cases (candidate : WorkerUniverseCandidate naming)
    (prepared : WorkerPreparedRootReceipt) (input : CompletionInput)
    (result : Except Text Reply) :
    (∃ failure, RefusedSwap result failure ∧
        server.completeSwapRoot candidate prepared input result = (server, .error failure)) ∨
      server.completeSwapRoot candidate prepared input result = server.abandon candidate ∨
      ∃ reply receipt next confirmation, result = .ok reply ∧
        acceptedPromotion prepared reply = some receipt ∧
        server.host.confirmAttempt input.hostFence candidate receipt =
          .ok (next, confirmation) ∧
        server.completeSwapRoot candidate prepared input result =
          ({ server with
            host := next
            preparedRoots := server.preparedRoots.erase prepared.transactionId }, .ok ()) := by
  cases result with
  | error message =>
      simp only [completeSwapRoot, abortSwapRoot]
      cases phase : workerRootSwapFailurePhase message with
      | error failure => exact .inl ⟨failure, ⟨message, rfl, .inl phase⟩, rfl⟩
      | ok found =>
          cases found with
          | none => exact .inr (.inl rfl)
          | some stage => exact .inl ⟨_, ⟨message, rfl, .inr ⟨rfl, stage, phase⟩⟩, rfl⟩
  | ok reply =>
      simp only [completeSwapRoot]
      cases accepted : acceptedPromotion prepared reply with
      | none => exact .inr (.inl rfl)
      | some receipt =>
          simp only
          unfold WorkerUniverseRegistry.confirm
          cases confirmed : server.host.confirmAttempt input.hostFence candidate receipt with
          | error problem => exact .inr (.inl rfl)
          | ok outcome =>
              exact .inr (.inr
                ⟨reply, receipt, outcome.1, outcome.2, rfl, accepted, confirmed, rfl⟩)

/-- A discard gave the candidate back or broke the registry. -/
theorem completeDiscardRoot_cases (candidate : WorkerUniverseCandidate naming)
    (prepared : WorkerPreparedRootReceipt) (input : CompletionInput)
    (result : Except Text Reply) :
    (∃ host, Degraded server.host host ∧
        (server.completeDiscardRoot candidate prepared input result).1 =
          { server with broken := true, host := host }) ∨
      server.host.requirePending candidate = .ok () ∧
        (server.completeDiscardRoot candidate prepared input result).2 = .ok () ∧
        (server.completeDiscardRoot candidate prepared input result).1 =
          { server with
            host := server.host.forgetPending candidate
            preparedRoots := server.preparedRoots.erase prepared.transactionId } := by
  have broke := server.breakPending_moves candidate
  cases result with
  | error message => exact .inl broke
  | ok reply =>
      unfold completeDiscardRoot
      simp only
      split
      · rcases discard_cases server.host input.hostFence candidate with
          ⟨returned, isPending, forgot⟩ | ⟨⟨problem, raised⟩, degraded⟩
        · rw [returned, forgot]
          exact .inr ⟨isPending, rfl, rfl⟩
        · rw [raised]
          obtain ⟨host, further, broke⟩ := breakPending_moves
            { server with host := (server.host.discard input.hostFence candidate).registry }
            candidate
          exact .inl ⟨host, degraded.trans further, broke⟩
      · exact .inl broke

end ServerWorkerUniverseRegistry

end OnecRuntime.Publication
