import OnecRuntime.Publication.Tokens

/-!
# Settled mutations

The executor is invoked at most once for a mutation and one of its callbacks runs once
it has run. A section that raises has given its candidate back or broken the registry,
and a swap that its guard refused leaves the candidate with its prepared root.
-/

namespace OnecRuntime.Publication

open OnecRuntime.Library OnecRuntime.Registry OnecRuntime.Registry.WorkerUniverseRegistry
open ServerWorkerUniverseRegistry

variable {naming : Naming} {V : Type}

namespace System

/-! ## Candidates -/

/-- The candidate was given back: the host is settled with the references it had. -/
structure Discarded (before later : System naming V) (candidate : WorkerUniverseCandidate naming) :
    Prop where
  notPending : later.server.host.pending ≠ some candidate
  references : SameReferences before.server.host later.server.host
  settled : later.server.host.state = .ready ∨ later.server.host.state = .empty

/-- The pending candidate has a prepared root that `discard_root` takes. -/
def Held (system : System naming V) (candidate : WorkerUniverseCandidate naming) : Prop :=
  system.server.host.pending = some candidate ∧
    ∃ prepared, system.server.preparedEntry prepared = .ok candidate

/-- What an operation that raised may leave of its candidate. The caller of `promote` has no
prepared root, and an operation that came to no candidate left the registry alone. -/
def Settled (before later : System naming V) (operation : Operation) :
    Option (WorkerUniverseCandidate naming) → Prop
  | none => later.server = before.server
  | some candidate => later.server.broken = true ∨ operation ≠ .promote ∧ later.Held candidate ∨
      Discarded before later candidate

/-- A reservation meets no outstanding mutation. -/
def Free (system : System naming V) : Prop :=
  system.server.broken = true ∨ system.server.mutation = none

/-- The failure of a completed mutation is classified and reported without raising anew. -/
def Regular (server : Server naming V) (purpose : Purpose naming) (input : CompletionInput) :
    Except Text Reply → Prop
  | .error message => Classifiable purpose message ∧ input.recording = .ok ()
  | .ok _ => ∀ candidate error, purpose = .stageBatch candidate →
      input.stageOutcome = .knownPreSwap error →
      ∃ failure, server.stageFailureError input.diagnosticsFence candidate error = .ok failure

/-- An action that leaves no candidate stuck: inside `prepare`, `prepare_root` and `promote` no
reservation is refused, and no failure of a completed mutation raises while it is reported. -/
def Settling (system : System naming V) : Action naming V → Prop
  | .reserveStageBatch _ _ _ instruction => instruction = .ok () → system.Free
  | .beginPrepareRoot _ fence _ candidate transactionId _ => system.server.broken = true ∨
      transactionId ∉ system.server.preparedRoots.keys ∧
        ∃ activation, system.server.sealedActivation fence candidate = .ok activation
  | .reservePrepareRoot _ fence activeFence candidate transactionId => system.Free ∧
      (system.server.broken = true ∨ ∃ purpose,
        system.server.prepareRootPurpose fence activeFence candidate transactionId = .ok purpose)
  | .reserveSwapRoot operation prepared => operation = .promote → system.server.broken = true ∨
      system.server.mutation = none ∧
        ∃ candidate, system.server.preparedEntry prepared = .ok candidate
  | .reserveDiscardRoot operation prepared =>
      (operation = .promote → system.server.broken = true ∨ system.server.mutation = none ∧
        ∃ candidate, system.server.preparedEntry prepared = .ok candidate) ∧
      ∀ candidate, system.server.preparedEntry prepared = .ok candidate →
        system.server.host.pending = some candidate
  | .complete _ input => ∀ mutation result, system.server.mutation = some mutation →
      mutation.result = some result → Regular system.server mutation.purpose input result
  | _ => True

variable {system : System naming V}

theorem forgetPending_settled (host : WorkerUniverseRegistry naming V)
    (candidate : WorkerUniverseCandidate naming) :
    (host.forgetPending candidate).state = .ready ∨
      (host.forgetPending candidate).state = .empty := by
  unfold forgetPending
  cases host.activeGeneration with
  | none => exact .inr rfl
  | some generation => exact .inl rfl

variable {later : System naming V}

theorem forgotten_discarded {candidate : WorkerUniverseCandidate naming}
    (forgot : later.server.host = system.server.host.forgetPending candidate) :
    Discarded system later candidate := by
  refine ⟨?_, ?_, ?_⟩
  · rw [forgot]
    exact fun impossible => (nomatch impossible)
  · rw [forgot]
    exact ⟨rfl, rfl, rfl, rfl, rfl⟩
  · rw [forgot]
    exact forgetPending_settled _ candidate

/-- An abort before the swap settles its candidate. -/
theorem abortPreSwap_settled {α : Type} (server : Server naming V) (target : Target)
    (fence : Nat × Nat) (candidate : WorkerUniverseCandidate naming) (failure : Failure)
    (operation : Operation) (references : SameReferences system.server.host server.host) :
    Settled system ⟨(server.abortPreSwap fence candidate failure : Section naming V α).1, target⟩
      operation (some candidate) := by
  rcases server.abortPreSwap_cases (α := α) fence candidate failure with
    ⟨_, forgot⟩ | ⟨host, _, broke⟩
  · right; right
    rw [forgot]
    refine ⟨fun impossible => (nomatch impossible), references.trans ⟨rfl, rfl, rfl, rfl, rfl⟩, ?_⟩
    exact forgetPending_settled _ candidate
  · left
    rw [broke]

variable {operation : Operation}

theorem broken_settled
    {candidate : WorkerUniverseCandidate naming} (broken : later.server.broken = true) :
    Settled system later operation (some candidate) := .inl broken

/-! ## Sections that raise -/

variable {candidate : Option (WorkerUniverseCandidate naming)}

variable {raiser : Operation}

theorem raised_of_after {α : Type}
    {raised : Option (WorkerUniverseCandidate naming)} {outcome : Section naming V α}
    (emitted : .raised raiser raised ∈ (system.after operation candidate outcome []).2) :
    raiser = operation ∧ raised = candidate ∧ ∃ failure, outcome.2 = .error failure := by
  unfold after at emitted
  split at emitted
  · cases emitted
  · next failure isError =>
      have same := List.mem_singleton.1 emitted
      cases same
      exact ⟨rfl, rfl, failure, isError⟩

theorem discardExact_settled {α : Type} (server : Server naming V) (target : Target)
    (candidate : WorkerUniverseCandidate naming) (failure : Failure)
    (references : SameReferences system.server.host server.host) :
    Settled system ⟨(server.discardExact candidate failure : Section naming V α).1, target⟩
      .prepare (some candidate) := by
  unfold discardExact
  simp only
  rcases discardExact_cases server.host candidate with
    ⟨returned, _, forgot⟩ | ⟨problem, raised⟩
  · rw [returned, forgot]
    exact .inr (.inr ⟨fun impossible => (nomatch impossible),
      references.trans ⟨rfl, rfl, rfl, rfl, rfl⟩, forgetPending_settled _ candidate⟩)
  · rw [raised]
    exact .inl (server.abandon_broken (α := α) candidate)

variable {failure : Failure}

theorem beginPrepare_settled {fence sealFence : Nat × Nat} {preparation : Preparation}
    {batches : Except Failure Unit} {target : Target}
    (raised : (system.server.beginPrepare fence sealFence preparation batches).2 =
      .error failure) :
    Settled system ⟨(system.server.beginPrepare fence sealFence preparation batches).1, target⟩
      .prepare (system.preparedCandidate fence preparation) := by
  unfold preparedCandidate
  rcases system.server.beginPrepare_cases fence sealFence preparation batches with
    ⟨⟨problem, same⟩, refused⟩ | ⟨working, idle, next, candidate, made, same⟩
  · rw [same]
    rcases refused with unavailable | ⟨unmade, isError⟩
    · rw [if_pos unavailable]
      rfl
    · split
      · rfl
      · rw [WorkerUniverseRegistry.prepare, isError]
        rfl
  · rw [working, idle, WorkerUniverseRegistry.prepare, made]
    rcases same with same | ⟨problem, same⟩
    · rw [same] at raised
      cases raised
    · rw [same]
      exact discardExact_settled _ target candidate problem (prepareAttempt_prepared made).references

/-- A refused reservation leaves the server alone. -/
theorem reserveMutation_refused {server : Server naming V} {purpose : Purpose naming}
    (raised : (server.reserveMutation purpose).2 = .error failure) :
    (server.reserveMutation purpose).1 = server ∧ ¬(server.available ∧ server.mutation = none) := by
  rcases server.reserveMutation_cases purpose with ⟨same, _, refused⟩ | ⟨returned, _⟩
  · exact ⟨same, refused⟩
  · rw [returned] at raised
    cases raised

theorem reservePurpose_refused {server : Server naming V}
    {purpose : Except Failure (Purpose naming)}
    (raised : (server.reservePurpose purpose).2 = .error failure) :
    (server.reservePurpose purpose).1 = server ∧
      ((∃ problem, purpose = .error problem) ∨
        ¬(server.available ∧ server.mutation = none)) := by
  cases purpose with
  | error problem => exact ⟨rfl, .inl ⟨problem, rfl⟩⟩
  | ok reserved =>
      obtain ⟨same, refused⟩ := reserveMutation_refused raised
      exact ⟨same, .inr refused⟩

theorem free_broken (coherent : system.server.Coherent) (free : system.Free)
    (refused : ¬(system.server.available ∧ system.server.mutation = none)) :
    system.server.broken = true := by
  cases broken : system.server.broken with
  | true => rfl
  | false =>
      rcases free with already | idle
      · rw [broken] at already
        cases already
      · exact absurd ⟨coherent.available broken, idle⟩ refused

/-- The entry of a prepared root that a refused reservation leaves in place. -/
theorem refused_settled {prepared : WorkerPreparedRootReceipt} (same : later.server = system.server)
    (kept : ∀ candidate, system.server.preparedEntry prepared = .ok candidate →
      system.server.broken = true ∨
        operation ≠ .promote ∧ system.server.host.pending = some candidate) :
    Settled system later operation (system.candidateOf prepared) := by
  unfold candidateOf
  cases entered : system.server.preparedEntry prepared with
  | error problem => exact same
  | ok candidate =>
      rcases kept candidate entered with broken | ⟨apart, isPending⟩
      · left
        rw [same]
        exact broken
      · refine .inr (.inl ⟨apart, ?_, prepared, ?_⟩)
        · rw [same]
          exact isPending
        · rw [same]
          exact entered

variable [DecidableEq V]

/-- A section that raises settles the candidate of its operation. -/
theorem sectionAction_settled (coherent : system.server.Coherent) {action : Action naming V}
    {outcome : System naming V × List (Event naming)}
    (orderly : system.Orderly action)
    (settling : system.Settling action) (ran : system.sectionAction action = some outcome)
    (raised : .raised operation candidate ∈ outcome.2) :
    Settled system outcome.1 operation candidate := by
  cases action with
  | beginPrepare fence sealFence preparation batches =>
      cases ran
      obtain ⟨rfl, rfl, failure, isError⟩ := raised_of_after raised
      exact beginPrepare_settled isError
  | reserveStageBatch operation fence candidate instruction =>
      cases ran
      obtain ⟨rfl, rfl, failure, isError⟩ := raised_of_after raised
      rcases system.server.reserveStageBatch_cases fence candidate instruction with
        ⟨problem, _, same⟩ | ⟨built, same⟩
      · simp only [System.after, same]
        exact abortPreSwap_settled _ _ fence candidate problem _ (.refl _)
      · rw [same] at isError
        obtain ⟨unchanged, refused⟩ := reserveMutation_refused isError
        apply broken_settled
        simp only [System.after, same, unchanged]
        exact free_broken coherent (settling built) refused
  | bindDebugView operation fence discardFence candidate view =>
      cases ran
      obtain ⟨rfl, rfl, failure, isError⟩ := raised_of_after raised
      rcases system.server.bindDebugView_cases fence discardFence candidate view with
        ⟨_, problem, same⟩ | ⟨next, _, _, same⟩
      · simp only [System.after, same]
        exact abortPreSwap_settled _ _ discardFence candidate problem _ (.refl _)
      · rw [same] at isError
        cases isError
  | beginPrepareRoot operation fence discardFence candidate transactionId batches =>
      cases ran
      obtain ⟨rfl, rfl, failure, isError⟩ := raised_of_after raised
      rcases settling with broken | ⟨unused, activation, isSealed⟩
      · apply broken_settled
        simp only [System.after, beginPrepareRoot, broken, if_true]
      · rcases system.server.beginPrepareRoot_cases fence discardFence candidate transactionId
          batches with ⟨problem, _, same⟩ | same | ⟨⟨problem, same⟩, broken | used | ⟨_, unsealed⟩⟩
        · simp only [System.after, same]
          exact abortPreSwap_settled _ _ discardFence candidate problem _ (.refl _)
        · rw [same] at isError
          cases isError
        · apply broken_settled
          simp only [System.after, same]
          exact broken
        · exact absurd used unused
        · rw [isSealed] at unsealed
          cases unsealed
  | reservePrepareRoot operation fence activeFence candidate transactionId =>
      cases ran
      obtain ⟨rfl, rfl, failure, isError⟩ := raised_of_after raised
      obtain ⟨unchanged, refused⟩ := reservePurpose_refused isError
      apply broken_settled
      simp only [System.after]
      show (system.server.reservePurpose _).1.broken = true
      rw [unchanged]
      obtain ⟨free, broken | ⟨purpose, given⟩⟩ := settling
      · exact broken
      · rcases refused with ⟨problem, failed⟩ | refused
        · rw [given] at failed
          cases failed
        · exact free_broken coherent free refused
  | reserveSwapRoot operation prepared =>
      cases ran
      obtain ⟨rfl, rfl, failure, isError⟩ := raised_of_after raised
      obtain ⟨unchanged, refused⟩ := reservePurpose_refused isError
      apply refused_settled unchanged
      intro candidate entered
      by_cases promotes : operation = .promote
      · left
        rcases settling promotes with broken | ⟨idle, _⟩
        · exact broken
        · rcases refused with ⟨problem, failed⟩ | refused
          · rw [entered] at failed
            cases failed
          · exact free_broken coherent (.inr idle) refused
      · exact .inr ⟨promotes, orderly candidate entered⟩
  | reserveDiscardRoot operation prepared =>
      cases ran
      obtain ⟨rfl, rfl, failure, isError⟩ := raised_of_after raised
      obtain ⟨unchanged, refused⟩ := reservePurpose_refused isError
      apply refused_settled unchanged
      intro candidate entered
      by_cases promotes : operation = .promote
      · left
        rcases settling.1 promotes with broken | ⟨idle, _⟩
        · exact broken
        · rcases refused with ⟨problem, failed⟩ | refused
          · rw [entered] at failed
            cases failed
          · exact free_broken coherent (.inr idle) refused
      · exact .inr ⟨promotes, settling.2 candidate entered⟩
  | quarantineRoot prepared =>
      cases ran
      cases raised
  | release planFence fence previewFence release =>
      cases ran
      cases raised
  | claim _ | executeAgain | execute _ | complete _ _ => cases ran

/-! ## Completions that raise -/

omit [DecidableEq V] in
theorem raised_of_completion {purpose : Purpose naming}
    {result : Except Failure Unit}
    (emitted : .raised raiser candidate ∈ completion operation purpose result) :
    raiser = operation ∧ candidate = some purpose.candidate ∧
      ((∃ failure, result = .error failure ∧ goesOn operation purpose failure = false) ∨
        result = .ok () ∧ raisesAfter operation purpose = true) := by
  cases result with
  | error failure =>
      simp only [completion] at emitted
      split at emitted
      · cases emitted
      · next stops =>
          cases List.mem_singleton.1 emitted
          exact ⟨rfl, rfl, .inl ⟨failure, rfl, by simpa using stops⟩⟩
  | ok value =>
      simp only [completion] at emitted
      split at emitted
      · next after =>
          cases List.mem_singleton.1 emitted
          exact ⟨rfl, rfl, .inr ⟨rfl, after⟩⟩
      · cases emitted

omit [DecidableEq V] in
theorem ends_settled {given : WorkerUniverseCandidate naming} {reported : Failure → Prop}
    {outcome : Section naming V Unit} (ends : Ends system.taken.server given reported outcome)
    (operation : Operation) (isError : outcome.2 = .error failure)
    (unreported : ∀ failure, ¬reported failure) :
    Settled system { system with server := outcome.1 } operation (some given) := by
  cases ends with
  | returns => cases isError
  | reports problem raises => exact absurd raises (unreported problem)
  | aborts fence problem => exact abortPreSwap_settled _ _ fence given problem _ (.refl _)
  | abandons => exact broken_settled (system.taken.server.abandon_broken (α := Unit) given)

omit [DecidableEq V] in
/-- A completed mutation whose operation raises settles the candidate. -/
theorem completion_settled {mutation : Mutation naming}
    {input : CompletionInput} {result : Except Text Reply}
    (faithful : system.Faithful)
    (rooted : system.Rooted) (outstanding : system.server.mutation = some mutation)
    (finished : mutation.result = some result)
    (regular : Regular system.server mutation.purpose input result)
    (raised : .raised raiser candidate ∈ completion operation mutation.purpose
      (system.server.completeMutation mutation.purpose input result).2) :
    Settled system
      { system with server := (system.server.completeMutation mutation.purpose input result).1 }
      raiser candidate := by
  obtain ⟨rfl, rfl, ended⟩ := raised_of_completion raised
  cases kind : mutation.purpose with
  | stageBatch given =>
      rw [kind] at ended regular
      rcases ended with ⟨failure, isError, _⟩ | ⟨_, after⟩
      · apply ends_settled (system.taken.server.completeStage_ends given input result) raiser isError
        rintro problem ⟨reply, error, rfl, outcome, failed⟩
        obtain ⟨built, succeeded⟩ := regular given error rfl outcome
        have same : system.taken.server.stageFailureError input.diagnosticsFence given error =
          .ok built := succeeded
        rw [same] at failed
        cases failed
      · cases raiser <;> cases after
  | prepareRoot given transactionId previousRootKey =>
      rw [kind] at ended regular
      rcases system.taken.server.completePrepareRoot_cases given transactionId previousRootKey input
        result with ends | ⟨reply, receipt, _, _, same⟩
      · rcases ended with ⟨failure, isError, _⟩ | ⟨_, after⟩
        · apply ends_settled ends raiser isError
          rintro problem ⟨message, rfl, unclassified | unrecorded⟩
          · obtain ⟨phase, classified⟩ := regular.1
            exact nomatch classified.symm.trans unclassified
          · rw [regular.2] at unrecorded
            cases unrecorded
        · cases raiser <;> cases after
      · rcases ended with ⟨failure, isError, _⟩ | ⟨_, after⟩
        · have isOk := congrArg Prod.snd same
          exact nomatch isOk.symm.trans isError
        · cases raiser <;> cases after
  | swapRoot given prepared =>
      rw [kind] at ended regular
      show Settled system
        { system with server :=
            (system.taken.server.completeSwapRoot given prepared input result).1 } raiser (some given)
      rcases ended with ⟨failure, isError, stops⟩ | ⟨_, after⟩
      · rcases system.taken.server.completeSwapRoot_cases given prepared input result with
          ⟨problem, ⟨message, rfl, raises⟩, same⟩ | same | ⟨_, _, _, _, _, _, _, same⟩
        · rcases raises with unclassified | ⟨rfl, stage, classified⟩
          · obtain ⟨phase, classified⟩ := regular.1
            exact nomatch classified.symm.trans unclassified
          · rw [same]
            have entry := rooted mutation given prepared outstanding (.inl kind)
            cases broken : system.server.broken with
            | true => exact .inl broken
            | false =>
                have isPending := ((faithful.agreement broken).swapping given prepared
                  (some (.error message)) ⟨mutation, outstanding, kind, finished⟩).1
                refine .inr (.inl ⟨?_, isPending, prepared,
                  system.taken.server.preparedEntry_of_stored broken entry⟩)
                rintro rfl
                have named := Except.error.inj ((congrArg Prod.snd same).symm.trans isError)
                rw [← named] at stops
                simp [goesOn, classified] at stops
        · rw [same]
          exact broken_settled (system.taken.server.abandon_broken (α := Unit) given)
        · have isOk := congrArg Prod.snd same
          exact nomatch isOk.symm.trans isError
      · cases raiser <;> cases after
  | discardRoot given prepared =>
      show Settled system
        { system with server :=
            (system.taken.server.completeDiscardRoot given prepared input result).1 } raiser
          (some given)
      rcases system.taken.server.completeDiscardRoot_cases given prepared input result with
        ⟨host, degraded, broke⟩ | ⟨isPending, _, same⟩
      · rw [broke]
        exact broken_settled rfl
      · rw [same]
        exact .inr (.inr (forgotten_discarded rfl))

/-- A step that raises for an operation settles the operation's candidate. -/
theorem step_settled (faithful : system.Faithful) (rooted : system.Rooted)
    {action : Action naming V} {events : List (Event naming)}
    (orderly : system.Orderly action) (settling : system.Settling action)
    (step : Step system action later events) (raised : .raised operation candidate ∈ events) :
    Settled system later operation candidate := by
  cases step with
  | atomic ran => exact sectionAction_settled faithful.coherent orderly settling ran raised
  | @claim owner mutation outstanding own =>
      rcases system.server.claimMutation_cases mutation with ⟨refused, failure, same⟩ | ⟨_, _, same⟩
      · rw [same] at raised ⊢
        cases List.mem_singleton.1 raised
        apply broken_settled
        cases broken : system.server.broken with
        | true => exact broken
        | false => exact absurd ⟨faithful.coherent.available broken, own⟩ refused
      · rw [same] at raised
        cases List.mem_singleton.1 raised
  | @executeAgain mutation outstanding =>
      rcases system.server.claimMutation_cases mutation with ⟨_, failure, same⟩ | ⟨_, _, same⟩
      · rw [same] at raised
        cases raised
      · rw [same] at raised
        cases List.mem_singleton.1 raised
  | execute outstanding claimed running possible ran => cases raised
  | complete outstanding finished =>
      rcases List.mem_cons.1 raised with impossible | raised
      · cases impossible
      · exact completion_settled faithful rooted outstanding finished
          (settling _ _ outstanding finished) raised

/-! ## The law -/

/-- What holds of a system and of the events of the run that reached it. -/
structure SettlementLaw (events : List (Event naming)) (system : System naming V) : Prop where
  once : ∀ token, events.count (.invoked token) ≤ 1 ∧ events.count (.settled token) ≤ 1 ∧
    events.count (.settled token) ≤ events.count (.invoked token)
  settled : ∀ token, token < system.server.nextToken →
    (∀ mutation, system.server.mutation = some mutation → mutation.token ≠ token) →
    events.count (.invoked token) = 1 ∧ events.count (.settled token) = 1
  raised : ∀ {action : Action naming V} {later : System naming V} {emitted : List (Event naming)}
    {operation : Operation} {candidate : Option (WorkerUniverseCandidate naming)},
    system.Orderly action → system.Settling action → Step system action later emitted →
    .raised operation candidate ∈ emitted → Settled system later operation candidate

/-- Every action permitted leaves host and target in agreement and no candidate stuck. -/
def Regulated (system : System naming V) (action : Action naming V) : Prop :=
  system.Orderly action ∧ system.Settling action

/-- The executor raises with a text that ends at the marker of the preparation stage: reading the
stage raises in turn, and the candidate stays pending while no prepared root holds it. -/
theorem unclassified_failure_sticks :
    ∃ events system action later emitted operation candidate,
      Run Step Anything (initial 0 0 0 : System plainNaming Unit) events system ∧
        Step system action later emitted ∧ .raised operation candidate ∈ emitted ∧
        ¬Settled system later operation candidate := by
  have run : Run Step Anything (initial 0 0 0 : System plainNaming Unit) _ _ := .start
  have run := run.further (.atomic (show sectionAction _
    (.beginPrepare (0, 0) (0, 0) onlyPreparation (.ok ())) = some _ from rfl)) trivial
  have run := run.further (.atomic (show sectionAction _
    (.reservePrepareRoot .prepareRoot (0, 0) (0, 0) onlyCandidate firstTransaction) = some _
      from rfl)) trivial
  have run := run.further (show Step _ (.claim .prepareRoot) _ _ from .claim rfl rfl) trivial
  have run := run.further (show Step _ (.execute (.unreached preparedStageMarker)) _ _ from
    .execute rfl rfl rfl (fun _ classified => nomatch classified) rfl) trivial
  refine ⟨_, _, .complete .prepareRoot plainInput, _, _, .prepareRoot, some onlyCandidate, run,
    .complete rfl rfl, List.mem_cons_of_mem _ (List.mem_singleton_self _), ?_⟩
  rintro (broken | ⟨_, _, prepared, entered⟩ | discarded)
  · cases broken
  · have absent : (Dictionary.empty : Dictionary TransactionId
        (WorkerUniverseCandidate plainNaming × WorkerPreparedRootReceipt)).get?
          prepared.transactionId = some (onlyCandidate, prepared) :=
      preparedEntry_stored _ entered
    cases absent
  · exact discarded.notPending rfl

/-- In every regulated run each mutation is executed once and settled once, and an operation
that raises leaves its candidate given back, held by a prepared root or with a broken registry. -/
theorem regulated_settlement_law {owner runtimeGeneration contextGeneration : Nat}
    {events : List (Event naming)}
    (run : Run Step Regulated (initial owner runtimeGeneration contextGeneration) events system) :
    SettlementLaw events system := by
  have faithful := run.keeps (initial_faithful owner runtimeGeneration contextGeneration)
    fun held allowed taken => step_faithful held allowed.1 taken
  have counted := run_counted run
  exact ⟨counted.once, counted.done, fun orderly settling step raised =>
    step_settled faithful (run_rooted run) orderly settling step raised⟩

theorem broken_settlement_law :
    ∃ events system, Run Step Regulated (initial 0 0 0 : System plainNaming Unit) events system ∧
      system.server.broken = true ∧ .settled 0 ∈ events ∧ SettlementLaw events system := by
  have run : Run Step Regulated (initial 0 0 0 : System plainNaming Unit) _ _ := .start
  have run := run.further (.atomic (show sectionAction _
    (.beginPrepare (0, 0) (0, 0) onlyPreparation (.ok ())) = some _ from rfl)) ⟨trivial, trivial⟩
  have run := run.further (.atomic (show sectionAction _
    (.reservePrepareRoot .prepareRoot (0, 0) (0, 0) onlyCandidate firstTransaction) = some _
      from rfl)) ⟨trivial, .inr rfl, .inr ⟨_, rfl⟩⟩
  have run := run.further (show Step _ (.claim .prepareRoot) _ _ from .claim rfl rfl)
    ⟨trivial, trivial⟩
  have run := run.further (show Step _ (.execute (.unreached [])) _ _ from
    .execute rfl rfl rfl (fun _ classified => nomatch classified) rfl) ⟨trivial, trivial⟩
  have run := run.further (show Step _ (.complete .prepareRoot plainInput) _ _ from
    .complete rfl rfl) ⟨fun _ _ outstanding failed => by
      cases outstanding
      cases failed
      exact ⟨none, rfl⟩, fun _ _ outstanding finished => by
      cases outstanding
      cases finished
      exact ⟨⟨none, rfl⟩, rfl⟩⟩
  exact ⟨_, _, run, rfl, List.mem_append_right _ List.mem_cons_self, regulated_settlement_law run⟩

/-- What no failure of a mutation can break. -/
structure TokenLaw (events : List (Event naming)) (system : System naming V) : Prop where
  once : ∀ token, events.count (.invoked token) ≤ 1 ∧ events.count (.settled token) ≤ 1 ∧
    events.count (.settled token) ≤ events.count (.invoked token)
  done : ∀ token, token < system.server.nextToken →
    (∀ mutation, system.server.mutation = some mutation → mutation.token ≠ token) →
    events.count (.invoked token) = 1 ∧ events.count (.settled token) = 1
  /-- Only a prepared root that is there is swapped or discarded. -/
  rooted : system.Rooted

/-- In every run, whatever the executor and the callbacks raise in it. -/
theorem token_law {owner runtimeGeneration contextGeneration : Nat} {events : List (Event naming)}
    (run : Run Step Anything (initial owner runtimeGeneration contextGeneration) events system) :
    TokenLaw events system := by
  have counted := run_counted run
  exact ⟨counted.once, counted.done, run_rooted run⟩

/-- The preparation that gets stuck was settled. -/
theorem stuck_token_law : ∃ events system, .settled 0 ∈ events ∧
    TokenLaw events (system : System plainNaming Unit) := by
  have run : Run Step Anything (initial 0 0 0 : System plainNaming Unit) _ _ := .start
  have run := run.further (.atomic (show sectionAction _
    (.beginPrepare (0, 0) (0, 0) onlyPreparation (.ok ())) = some _ from rfl)) trivial
  have run := run.further (.atomic (show sectionAction _
    (.reservePrepareRoot .prepareRoot (0, 0) (0, 0) onlyCandidate firstTransaction) = some _
      from rfl)) trivial
  have run := run.further (show Step _ (.claim .prepareRoot) _ _ from .claim rfl rfl) trivial
  have run := run.further (show Step _ (.execute (.unreached preparedStageMarker)) _ _ from
    .execute rfl rfl rfl (fun _ classified => nomatch classified) rfl) trivial
  have run := run.further (show Step _ (.complete .prepareRoot plainInput) _ _ from
    .complete rfl rfl) trivial
  exact ⟨_, _, List.mem_append_right _ List.mem_cons_self, token_law run⟩

end System

end OnecRuntime.Publication
