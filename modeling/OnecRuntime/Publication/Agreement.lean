import OnecRuntime.Publication.Coherence
import OnecRuntime.Publication.Steps
import OnecRuntime.Publication.Server

/-!
# Host and target agree on the active root

Between the execution of a swap and its completion the target may already have the
candidate's root. At any other time its active root is the host's, and the outcomes it
stores are receipts of generations other than the pending one, so a swap that is
answered with the receipt of its own candidate has just been made.
-/

namespace OnecRuntime.Publication

open OnecRuntime.Library OnecRuntime.Registry OnecRuntime.Registry.WorkerUniverseRegistry
open ServerWorkerUniverseRegistry

variable {naming : Naming} {V : Type}

namespace System

/-- The outstanding mutation swaps a prepared root; `result` is the executor's, once it ran. -/
def Swapping (system : System naming V) (candidate : WorkerUniverseCandidate naming)
    (prepared : WorkerPreparedRootReceipt) (result : Option (Except Text Reply)) : Prop :=
  ∃ mutation, system.server.mutation = some mutation ∧
    mutation.purpose = .swapRoot candidate prepared ∧ mutation.result = result

/-- The stored swap outcomes are receipts of generations that were prepared before. -/
def ReceiptsStored (system : System naming V) (admits : Nat → Prop) : Prop :=
  ∀ transactionId text, system.target.swapOutcomes.get? transactionId = some text →
    ∃ prepared prepareMs swapMs, text = Target.swapReceipt prepared prepareMs swapMs ∧
      prepared.generation < system.server.host.nextGeneration ∧ admits prepared.generation

/-- The generation is not the pending candidate's. -/
def NotPending (system : System naming V) (generation : Nat) : Prop :=
  ∀ candidate, system.server.host.pending = some candidate →
    generation ≠ candidate.handle.generation

/-- The target has the host's active root and no outcome for the pending candidate. -/
structure Quiet (system : System naming V) : Prop where
  active : system.target.active = activeRoot system.server.host
  outcomes : system.ReceiptsStored system.NotPending

/-- The target has the root of a candidate whose swap is not confirmed yet. -/
structure Swapped (system : System naming V) (candidate : WorkerUniverseCandidate naming) :
    Prop where
  active : system.target.active = some (generationRootKey candidate.handle.generation)
  outcomes : system.ReceiptsStored fun _ => True

structure Agreement (system : System naming V) : Prop where
  quiet : (∀ candidate prepared result, ¬system.Swapping candidate prepared (some result)) →
    system.Quiet
  swapping : ∀ candidate prepared result, system.Swapping candidate prepared result →
    system.server.host.pending = some candidate ∧
      prepared.generation = candidate.handle.generation ∧
      prepared.candidateRootKey = generationRootKey candidate.handle.generation
  accepted : ∀ candidate prepared reply, system.Swapping candidate prepared (some (.ok reply)) →
    (acceptedPromotion prepared reply).isSome → system.Swapped candidate
  refused : ∀ candidate prepared message phase,
    system.Swapping candidate prepared (some (.error message)) →
    workerRootSwapFailurePhase message = .ok (some phase) → system.Quiet

structure Faithful (system : System naming V) : Prop where
  coherent : system.server.Coherent
  isSealed : system.target.Sealed
  agreement : system.server.broken = false → system.Agreement

/-- The text does not end where its stage should follow. -/
def Classifiable (purpose : Purpose naming) (message : Text) : Prop :=
  ∃ phase, purpose.phase message = .ok phase

/-- An action that reaches no defect: no error text ends right after its stage marker, a swap
is reserved for the pending candidate only, and no failing section gives a candidate back
while its swap is outstanding. -/
def Orderly (system : System naming V) : Action naming V → Prop
  | .reserveStageBatch _ _ candidate instruction =>
      instruction = .ok () ∨ ∀ prepared result, ¬system.Swapping candidate prepared result
  | .bindDebugView _ _ _ candidate view =>
      view = .ok none ∨ ∀ prepared result, ¬system.Swapping candidate prepared result
  | .beginPrepareRoot _ _ _ candidate _ batches =>
      batches = .ok () ∨ ∀ prepared result, ¬system.Swapping candidate prepared result
  | .reserveSwapRoot _ prepared => ∀ candidate,
      system.server.preparedEntry prepared = .ok candidate →
        system.server.host.pending = some candidate
  | .complete _ _ => ∀ mutation message, system.server.mutation = some mutation →
      mutation.result = some (.error message) → Classifiable mutation.purpose message
  | _ => True

end System

/-! ## Sections that move the host -/

section Moves

variable {before after : Server naming V} {target : Target}

theorem swapping_congr {first second : System naming V}
    (same : second.server.mutation = first.server.mutation)
    {candidate : WorkerUniverseCandidate naming} {prepared : WorkerPreparedRootReceipt}
    {result : Option (Except Text Reply)} :
    second.Swapping candidate prepared result ↔ first.Swapping candidate prepared result := by
  unfold System.Swapping
  rw [same]

theorem receipts_later {admits also : Nat → Prop}
    (stored : System.ReceiptsStored ⟨before, target⟩ admits)
    (later : before.host.nextGeneration ≤ after.host.nextGeneration)
    (implied : ∀ generation, generation < before.host.nextGeneration →
      admits generation → also generation) :
    System.ReceiptsStored ⟨after, target⟩ also := by
  intro transactionId text found
  obtain ⟨prepared, prepareMs, swapMs, receipt, small, admitted⟩ := stored transactionId text found
  exact ⟨prepared, prepareMs, swapMs, receipt, Nat.lt_of_lt_of_le small later,
    implied _ small admitted⟩

namespace ServerWorkerUniverseRegistry

/-- A quiet system stays quiet: a new candidate has a generation of its own. -/
theorem Moves.quiet (moves : Moves before after) (working : after.broken = false)
    (quiet : System.Quiet ⟨before, target⟩) : System.Quiet ⟨after, target⟩ where
  active := quiet.active.trans moves.references.activeRoot.symm
  outcomes := by
    apply receipts_later quiet.outcomes moves.later
    intro generation small other candidate isPending
    rcases moves.pending working with same | ⟨_, fresh, isFresh, numbered⟩ | ⟨none, _⟩
    · exact other candidate (same ▸ isPending)
    · rw [isFresh] at isPending
      cases isPending
      exact fun equal => absurd (equal.trans numbered) (Nat.ne_of_lt small)
    · rw [none] at isPending
      cases isPending

/-- A section that leaves the candidate of an outstanding swap pending keeps the agreement. -/
theorem Moves.agreement (moves : Moves before after) (working : after.broken = false)
    (agreement : System.Agreement ⟨before, target⟩)
    (undisturbed : ∀ candidate prepared result,
      System.Swapping ⟨before, target⟩ candidate prepared result →
      after.host.pending = before.host.pending) :
    System.Agreement ⟨after, target⟩ := by
  have same : ∀ {candidate prepared result},
      System.Swapping ⟨after, target⟩ candidate prepared result ↔
        System.Swapping ⟨before, target⟩ candidate prepared result :=
    fun {_ _ _} => swapping_congr moves.mutation
  constructor
  · intro unexecuted
    apply moves.quiet working
    exact agreement.quiet fun candidate prepared result swapping =>
      unexecuted candidate prepared result (same.2 swapping)
  · intro candidate prepared result swapping
    obtain ⟨isPending, matched⟩ := agreement.swapping candidate prepared result (same.1 swapping)
    exact ⟨(undisturbed _ _ _ (same.1 swapping)).trans isPending, matched⟩
  · intro candidate prepared reply swapping accepted
    have swapped := agreement.accepted candidate prepared reply (same.1 swapping) accepted
    exact ⟨swapped.active, receipts_later swapped.outcomes moves.later fun _ _ _ => trivial⟩
  · intro candidate prepared message phase swapping refused
    exact moves.quiet working
      (agreement.refused candidate prepared message phase (same.1 swapping) refused)

theorem Moves.faithful (moves : Moves before after) (faithful : System.Faithful ⟨before, target⟩)
    (undisturbed : after.broken = false → ∀ candidate prepared result,
      System.Swapping ⟨before, target⟩ candidate prepared result →
      after.host.pending = before.host.pending) :
    System.Faithful ⟨after, target⟩ where
  coherent := moves.coherent faithful.coherent
  isSealed := faithful.isSealed
  agreement working := by
    have was : before.broken = false := by
      cases broken : before.broken with
      | false => rfl
      | true => exact absurd working (by simp [moves.broken_kept broken])
    exact moves.agreement working (faithful.agreement was) (undisturbed working)

/-- While no swap is outstanding every section keeps the agreement. -/
theorem Moves.faithful_idle (moves : Moves before after)
    (faithful : System.Faithful ⟨before, target⟩)
    (idle : ∀ candidate prepared result,
      ¬System.Swapping ⟨before, target⟩ candidate prepared result) :
    System.Faithful ⟨after, target⟩ :=
  moves.faithful faithful fun _ candidate prepared result swapping =>
    absurd swapping (idle candidate prepared result)

/-- Nothing is asked of a broken server. -/
theorem broken_faithful (coherent : before.Coherent) (isSealed : target.Sealed)
    {host : WorkerUniverseRegistry naming V} (degraded : Degraded before.host host) :
    System.Faithful ⟨{ before with broken := true, host := host }, target⟩ :=
  ⟨(Moves.breaks degraded).coherent coherent, isSealed, fun working => (nomatch working)⟩

/-- Giving back a candidate whose swap is not outstanding keeps the agreement. -/
theorem abortPreSwap_faithful {α : Type} (faithful : System.Faithful ⟨before, target⟩)
    (fence : Nat × Nat) (candidate : WorkerUniverseCandidate naming) (failure : Failure)
    (apart : ∀ prepared result, ¬System.Swapping ⟨before, target⟩ candidate prepared result) :
    System.Faithful ⟨(before.abortPreSwap fence candidate failure : Section naming V α).1,
      target⟩ := by
  apply (before.abortPreSwap_moves fence candidate failure).faithful faithful
  intro working other prepared result swapping
  rcases before.abortPreSwap_cases (α := α) fence candidate failure with
    ⟨isPending, _⟩ | ⟨host, _, broke⟩
  · cases broken : before.broken with
    | true =>
        have kept := (before.abortPreSwap_moves (α := α) fence candidate failure).broken_kept broken
        rw [kept] at working
        cases working
    | false =>
        have named := (faithful.agreement broken).swapping other prepared result swapping
        have same : candidate = other :=
          Option.some.inj ((requirePending_isPending isPending).1.symm.trans named.1)
        exact absurd (same ▸ swapping) (apart prepared result)
  · rw [broke] at working
    cases working

/-- Reserving a mutation keeps the agreement if a swap is reserved for the pending candidate. -/
theorem Reserves.faithful {purpose : Purpose naming} (reserves : Reserves before purpose after)
    (faithful : System.Faithful ⟨before, target⟩)
    (swaps : ∀ candidate prepared, purpose = .swapRoot candidate prepared →
      before.host.pending = some candidate ∧
        prepared.generation = candidate.handle.generation ∧
        prepared.candidateRootKey = generationRootKey candidate.handle.generation) :
    System.Faithful ⟨after, target⟩ := by
  refine ⟨reserves.coherent faithful.coherent, faithful.isSealed, fun _ => ?_⟩
  have agreement := faithful.agreement reserves.available.1
  have quiet := agreement.quiet fun candidate prepared result ⟨mutation, outstanding, _⟩ => by
    rw [reserves.idle] at outstanding
    cases outstanding
  rw [reserves.reserved]
  have fresh : ∀ {candidate prepared result}, System.Swapping
      ⟨{ before with
        mutation := some ⟨before.nextToken, purpose, false, none⟩
        nextToken := before.nextToken + 1 }, target⟩ candidate prepared result →
      purpose = .swapRoot candidate prepared ∧ result = none := by
    rintro candidate prepared result ⟨mutation, outstanding, kind, outcome⟩
    cases outstanding
    exact ⟨kind, outcome.symm⟩
  constructor
  · exact fun _ => ⟨quiet.active, quiet.outcomes⟩
  · exact fun candidate prepared result swapping => swaps candidate prepared (fresh swapping).1
  · exact fun candidate prepared reply swapping _ => (nomatch (fresh swapping).2)
  · exact fun candidate prepared message phase swapping _ => (nomatch (fresh swapping).2)

theorem reservePurpose_faithful (faithful : System.Faithful ⟨before, target⟩)
    (purpose : Except Failure (Purpose naming))
    (swaps : ∀ candidate prepared, purpose = .ok (.swapRoot candidate prepared) →
      before.host.pending = some candidate ∧
        prepared.generation = candidate.handle.generation ∧
        prepared.candidateRootKey = generationRootKey candidate.handle.generation) :
    System.Faithful ⟨(before.reservePurpose purpose).1, target⟩ := by
  rcases before.reservePurpose_cases purpose with same | ⟨reserved, given, reserves⟩
  · rw [same]
    exact faithful
  · apply reserves.faithful faithful
    rintro candidate prepared rfl
    exact swaps candidate prepared given

end ServerWorkerUniverseRegistry

end Moves

/-! ## The actions that are one section -/

namespace System

variable {system : System naming V}

theorem Agreement.withMutation (agreement : system.Agreement) {mutation : Option (Mutation naming)}
    (same : ∀ candidate prepared result,
      Swapping ⟨{ system.server with mutation := mutation }, system.target⟩ candidate prepared
        result ↔ system.Swapping candidate prepared result) :
    Agreement ⟨{ system.server with mutation := mutation }, system.target⟩ := by
  constructor
  · intro unexecuted
    have quiet := agreement.quiet fun candidate prepared result swapping =>
      unexecuted candidate prepared result ((same candidate prepared _).2 swapping)
    exact ⟨quiet.active, quiet.outcomes⟩
  · exact fun candidate prepared result swapping =>
      agreement.swapping candidate prepared result ((same candidate prepared _).1 swapping)
  · intro candidate prepared reply swapping accepted
    have swapped := agreement.accepted candidate prepared reply
      ((same candidate prepared _).1 swapping) accepted
    exact ⟨swapped.active, swapped.outcomes⟩
  · intro candidate prepared message phase swapping refused
    have quiet := agreement.refused candidate prepared message phase
      ((same candidate prepared _).1 swapping) refused
    exact ⟨quiet.active, quiet.outcomes⟩

theorem claimed_faithful {mutation : Mutation naming} (faithful : system.Faithful)
    (outstanding : system.server.mutation = some mutation) :
    Faithful ⟨(system.server.claimMutation mutation).1, system.target⟩ := by
  rcases system.server.claimMutation_cases mutation with ⟨_, failure, same⟩ | ⟨_, _, same⟩
  · rw [same]
    exact faithful
  · rw [same]
    refine ⟨faithful.coherent.withMutation _, faithful.isSealed, fun working => ?_⟩
    apply (faithful.agreement working).withMutation
    intro candidate prepared result
    constructor
    · rintro ⟨claimed, isClaimed, kind, outcome⟩
      cases isClaimed
      exact ⟨mutation, outstanding, kind, outcome⟩
    · rintro ⟨found, isFound, kind, outcome⟩
      rw [outstanding] at isFound
      cases isFound
      exact ⟨_, rfl, kind, outcome⟩

section Release

variable [DecidableEq V]

theorem released_faithful (faithful : system.Faithful) (planFence fence previewFence : Nat × Nat)
    (release : Release naming) :
    Faithful ⟨(system.server.release planFence fence previewFence release).1, system.target⟩ := by
  unfold ServerWorkerUniverseRegistry.release
  split
  · exact faithful
  · have keeps := directRelease_keeps faithful.coherent.exact planFence fence previewFence release
    refine ⟨faithful.coherent.released planFence fence previewFence release, faithful.isSealed,
      fun working => ?_⟩
    have agreement := faithful.agreement working
    have later := Nat.le_of_eq keeps.later.symm
    have quiets : system.Quiet → Quiet ⟨{ system.server with
        host := (system.server.host.directRelease planFence fence previewFence release).registry },
        system.target⟩ := by
      intro quiet
      refine ⟨quiet.active.trans keeps.root.symm, receipts_later quiet.outcomes later ?_⟩
      intro generation _ other candidate isPending
      exact other candidate (keeps.pending.symm.trans isPending)
    constructor
    · exact fun unexecuted => quiets (agreement.quiet unexecuted)
    · intro candidate prepared result swapping
      obtain ⟨isPending, matched⟩ := agreement.swapping candidate prepared result swapping
      exact ⟨keeps.pending.trans isPending, matched⟩
    · intro candidate prepared reply swapping accepted
      have swapped := agreement.accepted candidate prepared reply swapping accepted
      exact ⟨swapped.active, receipts_later swapped.outcomes later fun _ _ _ => trivial⟩
    · exact fun candidate prepared message phase swapping refused =>
        quiets (agreement.refused candidate prepared message phase swapping refused)

theorem sectionAction_faithful (faithful : system.Faithful) {action : Action naming V}
    {outcome : System naming V × List (Event naming)} (orderly : system.Orderly action)
    (ran : system.sectionAction action = some outcome) : outcome.1.Faithful := by
  cases action with
  | beginPrepare fence sealFence preparation batches =>
      cases ran
      rcases system.server.beginPrepare_cases fence sealFence preparation batches with
        ⟨⟨failure, same⟩, _⟩ | ⟨_, idle, next, candidate, made, same⟩
      · simp only [System.after, same]
        exact faithful
      · have first := (Moves.prepares idle made).faithful_idle faithful fun other prepared result
            ⟨mutation, outstanding, _⟩ => by
          rw [idle] at outstanding
          cases outstanding
        rcases same with same | ⟨failure, same⟩
        · simp only [System.after, same]
          exact first
        · simp only [System.after, same]
          apply (discardExact_moves _ candidate failure).faithful_idle first
          rintro other prepared result ⟨mutation, outstanding, _⟩
          have impossible : system.server.mutation = some mutation := outstanding
          rw [idle] at impossible
          cases impossible
  | reserveStageBatch operation fence candidate instruction =>
      cases ran
      rcases system.server.reserveStageBatch_cases fence candidate instruction with
        ⟨failure, failed, same⟩ | ⟨_, same⟩
      · simp only [System.after, same]
        apply abortPreSwap_faithful faithful
        exact orderly.resolve_left (by simp [failed])
      · simp only [System.after, same]
        apply reservePurpose_faithful faithful (.ok (.stageBatch candidate))
        intro other prepared kind
        cases kind
  | bindDebugView operation fence discardFence candidate view =>
      cases ran
      rcases system.server.bindDebugView_cases fence discardFence candidate view with
        ⟨built, failure, same⟩ | ⟨next, moves, kept, same⟩
      · simp only [System.after, same]
        exact abortPreSwap_faithful faithful discardFence candidate failure
          (orderly.resolve_left built)
      · simp only [System.after, same]
        exact moves.faithful faithful fun _ _ _ _ _ => kept
  | beginPrepareRoot operation fence discardFence candidate transactionId batches =>
      cases ran
      rcases system.server.beginPrepareRoot_cases fence discardFence candidate transactionId
        batches with ⟨failure, failed, same⟩ | same | ⟨⟨failure, same⟩, _⟩
      · simp only [System.after, same]
        apply abortPreSwap_faithful faithful
        exact orderly.resolve_left (by simp [failed])
      · simp only [System.after, same]
        exact faithful
      · simp only [System.after, same]
        exact faithful
  | reservePrepareRoot operation fence activeFence candidate transactionId =>
      cases ran
      apply reservePurpose_faithful faithful
      intro other prepared kind
      unfold prepareRootPurpose at kind
      obtain ⟨_, _, kind⟩ := bind_eq_ok.1 kind
      obtain ⟨_, _, kind⟩ := bind_eq_ok.1 kind
      obtain ⟨_, _, kind⟩ := bind_eq_ok.1 kind
      cases kind
  | reserveSwapRoot operation prepared =>
      cases ran
      apply reservePurpose_faithful faithful
      intro candidate named kind
      cases entered : system.server.preparedEntry prepared with
      | error failure =>
          rw [entered] at kind
          cases kind
      | ok entry =>
          rw [entered] at kind
          cases kind
          have stored := system.server.preparedEntry_stored entered
          exact ⟨orderly candidate entered, faithful.coherent.receipts _ _ _ stored⟩
  | reserveDiscardRoot operation prepared =>
      cases ran
      apply reservePurpose_faithful faithful
      intro candidate named kind
      cases entered : system.server.preparedEntry prepared with
      | error failure =>
          rw [entered] at kind
          cases kind
      | ok entry =>
          rw [entered] at kind
          cases kind
  | quarantineRoot prepared =>
      cases ran
      rcases system.server.quarantineRoot_cases prepared with same | ⟨host, degraded, broke⟩
      · simp only [same]
        exact faithful
      · simp only [broke]
        exact broken_faithful faithful.coherent faithful.isSealed degraded
  | release planFence fence previewFence release =>
      cases ran
      exact released_faithful faithful planFence fence previewFence release
  | claim _ | executeAgain | execute _ | complete _ _ => cases ran

end Release

/-! ## Execution -/

theorem unswapped_attempt {purpose : Purpose naming} {target : Target} {execution : Execution}
    {attempted : Target × Except Text Reply}
    (unswapped : ∀ candidate prepared, purpose ≠ .swapRoot candidate prepared)
    (ran : purpose.attempt target execution = some attempted) :
    attempted.1.active = target.active ∧ attempted.1.swapOutcomes = target.swapOutcomes := by
  obtain ⟨after, result⟩ := attempted
  rcases Purpose.attempt_target ran with same | ⟨milliseconds, text, executed⟩
  · cases same
    exact ⟨rfl, rfl⟩
  · cases purpose with
    | stageBatch candidate =>
        cases executed
        exact ⟨rfl, rfl⟩
    | prepareRoot candidate transactionId previousRootKey =>
        cases executed
        exact ⟨rfl, rfl⟩
    | swapRoot candidate prepared => exact absurd rfl (unswapped candidate prepared)
    | discardRoot candidate prepared =>
        rcases Target.discardRoot_cases executed with same | ⟨_, forgot⟩
        · cases same
          exact ⟨rfl, rfl⟩
        · cases forgot
          exact ⟨rfl, rfl⟩

theorem accepted_generation {prepared stored : WorkerPreparedRootReceipt} {prepareMs swapMs : Nat}
    (accepted : (acceptedPromotion prepared
      (.text (Target.swapReceipt stored prepareMs swapMs))).isSome) :
    stored.generation = prepared.generation := by
  obtain ⟨receipt, isReceipt⟩ := Option.isSome_iff_exists.1 accepted
  obtain ⟨promotion, filtered, _⟩ := Option.map_eq_some_iff.1 isReceipt
  obtain ⟨read, checked⟩ := Option.filter_eq_some_iff.1 filtered
  rw [← promotion_generation read]
  exact (of_decide_eq_true checked).2.2.1

/-- A swap answered with the receipt of the pending candidate has just published its root. -/
theorem answered_swapped {candidate : WorkerUniverseCandidate naming}
    {prepared : WorkerPreparedRootReceipt} {after : Target} {milliseconds : Nat} {text : Text}
    (quiet : system.Quiet) (exact : Exact system.server.host) (isSealed : system.target.Sealed)
    (isPending : system.server.host.pending = some candidate)
    (generation : prepared.generation = candidate.handle.generation)
    (rootKey : prepared.candidateRootKey = generationRootKey candidate.handle.generation)
    (executed : system.target.swapRoot prepared milliseconds = .ok (after, text))
    (accepted : (acceptedPromotion prepared (.text text)).isSome) :
    Swapped ⟨system.server, after⟩ candidate := by
  rcases Target.swapRoot_cases executed with ⟨_, stored⟩ | ⟨_, stored, found, same, published⟩
  · obtain ⟨other, prepareMs, swapMs, rfl, _, apart⟩ := quiet.outcomes _ _ stored
    exact absurd ((accepted_generation accepted).trans generation) (apart candidate isPending)
  · cases published
    constructor
    · show some stored.rootKey = _
      rw [isSealed _ _ found, same.2.2.2.1, rootKey]
    · intro transactionId receipt isStored
      by_cases here : transactionId = prepared.transactionId
      · subst here
        have isSet : (system.target.swapOutcomes.set prepared.transactionId
            (Target.swapReceipt prepared stored.prepareMs milliseconds)).get?
              prepared.transactionId = some receipt := isStored
        rw [Dictionary.get?_set_same] at isSet
        cases isSet
        refine ⟨prepared, _, _, rfl, ?_, trivial⟩
        rw [generation]
        exact (exact.pendingNew candidate isPending).2
      · have kept : (system.target.swapOutcomes.set prepared.transactionId
            (Target.swapReceipt prepared stored.prepareMs milliseconds)).get? transactionId =
              some receipt := isStored
        rw [Dictionary.get?_set_other _ _ here] at kept
        obtain ⟨other, prepareMs, swapMs, same, small, _⟩ := quiet.outcomes _ _ kept
        exact ⟨other, prepareMs, swapMs, same, small, trivial⟩

theorem executed_faithful {mutation : Mutation naming} {execution : Execution}
    {attempted : Target × Except Text Reply} (faithful : system.Faithful)
    (outstanding : system.server.mutation = some mutation) (running : mutation.result = none)
    (possible : mutation.purpose.Possible system.target execution)
    (ran : mutation.purpose.attempt system.target execution = some attempted) :
    (system.store mutation attempted).Faithful := by
  refine ⟨faithful.coherent.withMutation _, ?_, fun working => ?_⟩
  · rcases Purpose.attempt_target ran with same | ⟨milliseconds, text, executed⟩
    · show attempted.1.Sealed
      rw [same]
      exact faithful.isSealed
    · exact Purpose.instruct_sealed faithful.isSealed executed
  have agreement := faithful.agreement working
  have quiet := agreement.quiet fun candidate prepared result ⟨found, isFound, _, finished⟩ => by
    rw [outstanding] at isFound
    cases isFound
    rw [running] at finished
    cases finished
  have kind : ∀ {candidate prepared result},
      (system.store mutation attempted).Swapping candidate prepared result →
        mutation.purpose = .swapRoot candidate prepared ∧ result = some attempted.2 := by
    rintro candidate prepared result ⟨found, isFound, swaps, finished⟩
    cases isFound
    exact ⟨swaps, finished.symm⟩
  constructor
  · intro unexecuted
    have kept := unswapped_attempt (fun candidate prepared swaps =>
      unexecuted candidate prepared attempted.2 ⟨_, rfl, swaps, rfl⟩) ran
    constructor
    · exact kept.1.trans quiet.active
    · intro transactionId text stored
      have was : system.target.swapOutcomes.get? transactionId = some text := by
        rw [← kept.2]
        exact stored
      exact quiet.outcomes transactionId text was
  · intro candidate prepared result swapping
    exact agreement.swapping candidate prepared none
      ⟨mutation, outstanding, (kind swapping).1, running⟩
  · intro candidate prepared reply swapping accepted
    obtain ⟨swaps, finished⟩ := kind swapping
    obtain ⟨isPending, generation, rootKey⟩ := agreement.swapping candidate prepared none
      ⟨mutation, outstanding, swaps, running⟩
    rw [swaps] at ran possible
    cases execution with
    | answered milliseconds =>
        obtain ⟨text, executed, result⟩ := Purpose.executed_eq_some ran
        rw [result] at finished
        cases finished
        have swapped := answered_swapped quiet faithful.coherent.exact faithful.isSealed isPending
          generation rootKey executed accepted
        exact ⟨swapped.active, swapped.outcomes⟩
    | staged given =>
        obtain ⟨staged, impossible⟩ := possible
        cases impossible
    | malformed milliseconds given =>
        obtain ⟨text, _, result⟩ := Purpose.executed_eq_some ran
        rw [result] at finished
        cases finished
        have unaccepted := possible ⟨.succeeded, (0, 0), (0, 0), 0, .ok ()⟩
        simp only [Purpose.accepts, accepted] at unaccepted
        cases unaccepted
    | lost milliseconds message =>
        obtain ⟨text, _, result⟩ := Purpose.executed_eq_some ran
        rw [result] at finished
        cases finished
    | refused message | unreached message =>
        cases ran
        cases finished
  · intro candidate prepared message phase swapping classified
    obtain ⟨swaps, finished⟩ := kind swapping
    rw [swaps] at ran possible
    cases execution with
    | refused given =>
        cases ran
        exact ⟨quiet.active, quiet.outcomes⟩
    | unreached given =>
        cases ran
        cases finished
        exact absurd classified (possible phase)
    | lost milliseconds given =>
        obtain ⟨text, _, result⟩ := Purpose.executed_eq_some ran
        rw [result] at finished
        cases finished
        exact absurd classified (possible phase)
    | answered milliseconds =>
        obtain ⟨text, _, result⟩ := Purpose.executed_eq_some ran
        rw [result] at finished
        cases finished
    | malformed milliseconds given =>
        obtain ⟨text, _, result⟩ := Purpose.executed_eq_some ran
        rw [result] at finished
        cases finished
    | staged given =>
        cases ran
        cases finished

end System

end OnecRuntime.Publication
