import OnecRuntime.Publication.Agreement

/-!
# The active root over whole runs

A completed swap was refused, broke the registry, or was confirmed with the receipt of
its own candidate, whose root the target then has. So the agreement of host and target
survives every orderly run. An attempt whose reply is lost or malformed breaks the
registry when it is completed, and an executed swap or discard can be executed again.
-/

namespace OnecRuntime.Publication

open OnecRuntime.Library OnecRuntime.Registry OnecRuntime.Registry.WorkerUniverseRegistry
open ServerWorkerUniverseRegistry

variable {naming : Naming} {V : Type}

namespace System

variable {system : System naming V}

/-! ## Completion -/

variable {server : Server naming V}

/-- Once no mutation is outstanding a quiet system is faithful. -/
theorem faithful_of_quiet {target : Target} (coherent : server.Coherent)
    (isSealed : target.Sealed) (idle : server.mutation = none)
    (quiet : server.broken = false → Quiet ⟨server, target⟩) : Faithful ⟨server, target⟩ := by
  have unswapped : ∀ candidate prepared result,
      ¬Swapping ⟨server, target⟩ candidate prepared result := by
    rintro candidate prepared result ⟨mutation, outstanding, _⟩
    rw [idle] at outstanding
    cases outstanding
  refine ⟨coherent, isSealed, fun working => ⟨fun _ => quiet working, ?_, ?_, ?_⟩⟩
  · exact fun _ _ _ swapping => absurd swapping (unswapped _ _ _)
  · exact fun _ _ _ swapping _ => absurd swapping (unswapped _ _ _)
  · exact fun _ _ _ _ swapping _ => absurd swapping (unswapped _ _ _)

/-- The server with its mutation taken. -/
def taken (system : System naming V) : System naming V :=
  { system with server := { system.server with mutation := none } }

variable {mutation : Mutation naming}

theorem taken_faithful (faithful : system.Faithful)
    (outstanding : system.server.mutation = some mutation)
    (unswapped : ∀ candidate prepared, mutation.purpose ≠ .swapRoot candidate prepared) :
    system.taken.Faithful := by
  apply faithful_of_quiet (faithful.coherent.withMutation none) faithful.isSealed rfl
  intro working
  have quiet := (faithful.agreement working).quiet fun candidate prepared result
      ⟨found, isFound, swaps, _⟩ => by
    rw [outstanding] at isFound
    cases isFound
    exact unswapped candidate prepared swaps
  exact ⟨quiet.active, quiet.outcomes⟩

theorem unswapped_taken (candidate : WorkerUniverseCandidate naming)
    (prepared : WorkerPreparedRootReceipt) (result : Option (Except Text Reply)) :
    ¬system.taken.Swapping candidate prepared result := by
  rintro ⟨mutation, outstanding, _⟩
  cases outstanding

/-- The prepared roots are of no account for a system without an outstanding mutation. -/
theorem Faithful.withRoots {target : Target}
    (faithful : Faithful ⟨server, target⟩) (idle : server.mutation = none)
    {roots : Dictionary TransactionId (WorkerUniverseCandidate naming × WorkerPreparedRootReceipt)}
    (coherent : Coherent { server with preparedRoots := roots }) :
    Faithful ⟨{ server with preparedRoots := roots }, target⟩ := by
  apply faithful_of_quiet coherent faithful.isSealed idle
  intro working
  have quiet := (faithful.agreement working).quiet fun candidate prepared result
      ⟨mutation, outstanding, _⟩ => by
    rw [idle] at outstanding
    cases outstanding
  exact ⟨quiet.active, quiet.outcomes⟩

variable {candidate : WorkerUniverseCandidate naming}

theorem accepted_preparation
    {transactionId : TransactionId} {previousRootKey : String} {identity : Nat} {reply : Reply}
    {receipt : WorkerPreparedRootReceipt}
    (accepted : acceptedPreparation candidate transactionId previousRootKey identity reply =
      some receipt) :
    receipt.transactionId = transactionId ∧
      receipt.generation = candidate.handle.generation ∧
      receipt.candidateRootKey = generationRootKey candidate.handle.generation := by
  obtain ⟨_, checked⟩ := Option.filter_eq_some_iff.1 accepted
  have same := of_decide_eq_true checked
  exact ⟨same.1, same.2.1, same.2.2.2.1⟩

theorem prepared_coherent (coherent : server.Coherent)
    {transactionId : TransactionId}
    {receipt : WorkerPreparedRootReceipt}
    (matched : receipt.generation = candidate.handle.generation ∧
      receipt.candidateRootKey = generationRootKey candidate.handle.generation) :
    Coherent { server with
      preparedRoots := server.preparedRoots.set transactionId (candidate, receipt) } := by
  refine ⟨coherent.exact, coherent.phased, coherent.broken, fun other found stored isStored => ?_⟩
  by_cases same : other = transactionId
  · subst same
    rw [Dictionary.get?_set_same] at isStored
    cases isStored
    exact matched
  · rw [Dictionary.get?_set_other _ _ same] at isStored
    exact coherent.receipts other found stored isStored

theorem swap_completed
    {prepared : WorkerPreparedRootReceipt} {input : CompletionInput} {result : Except Text Reply}
    (faithful : system.Faithful) (outstanding : system.server.mutation = some mutation)
    (swaps : mutation.purpose = .swapRoot candidate prepared)
    (finished : mutation.result = some result)
    (classifiable : ∀ message, result = .error message → Classifiable mutation.purpose message) :
    Faithful ⟨(system.taken.server.completeSwapRoot candidate prepared input result).1,
      system.target⟩ := by
  have swapping : system.Swapping candidate prepared (some result) :=
    ⟨mutation, outstanding, swaps, finished⟩
  have coherent := faithful.coherent.withMutation none
  rcases system.taken.server.completeSwapRoot_cases candidate prepared input result with
    ⟨failure, ⟨message, rfl, raised⟩, same⟩ | same |
      ⟨reply, receipt, next, confirmation, rfl, accepted, confirmed, same⟩
  · rw [same]
    apply faithful_of_quiet coherent faithful.isSealed rfl
    intro working
    obtain ⟨phase, classified⟩ := classifiable message rfl
    rw [swaps] at classified
    rcases raised with unclassified | ⟨_, stage, refused⟩
    · exact nomatch classified.symm.trans unclassified
    · have quiet := (faithful.agreement working).refused candidate prepared message stage swapping
        refused
      exact ⟨quiet.active, quiet.outcomes⟩
  · obtain ⟨host, degraded, broke⟩ := system.taken.server.breakPending_moves candidate
    rw [same]
    show Faithful ⟨system.taken.server.breakPending candidate, system.target⟩
    rw [broke]
    exact broken_faithful coherent faithful.isSealed degraded
  · rw [same]
    obtain ⟨_, none, _, root, later⟩ := confirmAttempt_root confirmed
    apply faithful_of_quiet ((coherent.confirmed confirmed).forgetRoot _) faithful.isSealed rfl
    intro working
    have swapped := (faithful.agreement working).accepted candidate prepared reply swapping
      (by rw [accepted]; rfl)
    refine ⟨swapped.active.trans root.symm, ?_⟩
    have kept : system.server.host.nextGeneration ≤ next.nextGeneration := Nat.le_of_eq later.symm
    apply receipts_later swapped.outcomes kept
    intro generation _ _ other isPending
    have isNone : next.pending = some other := isPending
    rw [none] at isNone
    cases isNone

/-- A completed mutation keeps the agreement. -/
theorem completed_faithful (input : CompletionInput)
    {result : Except Text Reply} (faithful : system.Faithful)
    (outstanding : system.server.mutation = some mutation)
    (finished : mutation.result = some result)
    (classifiable : ∀ message, result = .error message → Classifiable mutation.purpose message) :
    Faithful ⟨(system.server.completeMutation mutation.purpose input result).1,
      system.target⟩ := by
  cases kind : mutation.purpose with
  | stageBatch candidate =>
      have idle := taken_faithful faithful outstanding (by simp [kind])
      exact (system.taken.server.completeStage_ends candidate input result).moves.faithful_idle idle
        unswapped_taken
  | prepareRoot candidate transactionId previousRootKey =>
      have idle := taken_faithful faithful outstanding (by simp [kind])
      rcases system.taken.server.completePrepareRoot_cases candidate transactionId previousRootKey
        input result with ends | ⟨reply, receipt, _, accepted, same⟩
      · exact ends.moves.faithful_idle idle unswapped_taken
      · show Faithful ⟨(system.taken.server.completePrepareRoot candidate transactionId
          previousRootKey input result).1, system.target⟩
        rw [same]
        exact idle.withRoots rfl
          (prepared_coherent idle.coherent (accepted_preparation accepted).2)
  | swapRoot candidate prepared =>
      exact swap_completed faithful outstanding kind finished classifiable
  | discardRoot candidate prepared =>
      have idle := taken_faithful faithful outstanding (by simp [kind])
      show Faithful ⟨(system.taken.server.completeDiscardRoot candidate prepared input result).1,
        system.target⟩
      rcases system.taken.server.completeDiscardRoot_cases candidate prepared input result with
        ⟨host, degraded, broke⟩ | ⟨isPending, _, same⟩
      · rw [broke]
        exact broken_faithful idle.coherent idle.isSealed degraded
      · rw [same]
        have forgot := (Moves.discards candidate isPending).faithful_idle idle unswapped_taken
        exact forgot.withRoots rfl (forgot.coherent.forgetRoot _)

/-! ## Runs -/

theorem initial_coherent (owner runtimeGeneration contextGeneration : Nat) :
    (ServerWorkerUniverseRegistry.initial owner runtimeGeneration contextGeneration :
      Server naming V).Coherent where
  exact := initial_exact owner runtimeGeneration contextGeneration
  phased := ⟨fun _ impossible => (nomatch impossible), fun _ => rfl, fun closed => by cases closed⟩
  broken impossible := by cases impossible
  receipts _ _ _ impossible := by cases impossible

theorem initial_faithful (owner runtimeGeneration contextGeneration : Nat) :
    (initial owner runtimeGeneration contextGeneration : System naming V).Faithful := by
  apply faithful_of_quiet (initial_coherent owner runtimeGeneration contextGeneration)
  · intro transactionId stored impossible
    cases impossible
  · rfl
  · refine fun _ => ⟨rfl, ?_⟩
    intro transactionId text impossible
    cases impossible

variable [DecidableEq V]

theorem step_faithful {later : System naming V} {action : Action naming V}
    {events : List (Event naming)} (faithful : system.Faithful)
    (orderly : system.Orderly action) (step : Step system action later events) :
    later.Faithful := by
  cases step with
  | atomic ran => exact sectionAction_faithful faithful orderly ran
  | claim outstanding own => exact claimed_faithful faithful outstanding
  | executeAgain outstanding => exact claimed_faithful faithful outstanding
  | execute outstanding claimed running possible ran =>
      exact executed_faithful faithful outstanding running possible ran
  | complete outstanding finished =>
      apply completed_faithful _ faithful outstanding finished
      rintro message rfl
      exact orderly _ message outstanding finished

/-! ## Lost and malformed replies -/

end System

def Execution.LosesReply : Execution → Prop
  | .lost _ _ | .malformed _ _ => True
  | _ => False

/-- The executor's result does not tell that the mutation took effect or was refused. -/
def Purpose.Unconfirmed (purpose : Purpose naming) (input : CompletionInput) :
    Except Text Reply → Prop
  | .error message => purpose.phase message = .ok none
  | .ok reply => purpose.accepts input reply = false

namespace System

variable {system : System naming V}

variable {input : CompletionInput}

theorem unconfirmed_broken {purpose : Purpose naming}
    {result : Except Text Reply} (server : Server naming V)
    (unconfirmed : purpose.Unconfirmed input result) :
    (server.completeMutation purpose input result).1.broken = true := by
  have broke {α : Type} (candidate : WorkerUniverseCandidate naming) :
      (abandon { server with mutation := none } candidate : Section naming V α).1.broken = true :=
    abandon_broken _ candidate
  cases purpose with
  | stageBatch candidate =>
      cases result with
      | error message => exact broke candidate
      | ok reply =>
          have unknown : input.stageOutcome.known = false := unconfirmed
          unfold completeMutation completeStage
          cases outcome : input.stageOutcome with
          | rejected | unknown =>
              simp only
              exact broke candidate
          | succeeded | knownPreSwap _ =>
              rw [outcome] at unknown
              cases unknown
  | prepareRoot candidate transactionId previousRootKey =>
      cases result with
      | error message =>
          have unclassified : workerPromotionFailurePhase message = .ok none := unconfirmed
          simp only [completeMutation, completePrepareRoot, abortPrepareRoot, unclassified]
          exact broke candidate
      | ok reply =>
          have rejected : acceptedPreparation candidate transactionId previousRootKey
              input.receiptIdentity reply = none := by
            simpa [Purpose.Unconfirmed, Purpose.accepts] using unconfirmed
          simp only [completeMutation, completePrepareRoot, rejected]
          exact broke candidate
  | swapRoot candidate prepared =>
      cases result with
      | error message =>
          have unclassified : workerRootSwapFailurePhase message = .ok none := unconfirmed
          simp only [completeMutation, completeSwapRoot, abortSwapRoot, unclassified]
          exact broke candidate
      | ok reply =>
          have rejected : acceptedPromotion prepared reply = none := by
            simpa [Purpose.Unconfirmed, Purpose.accepts] using unconfirmed
          simp only [completeMutation, completeSwapRoot, rejected]
          exact broke candidate
  | discardRoot candidate prepared =>
      cases result with
      | error message => exact broke candidate
      | ok reply =>
          have rejected : workerRootDiscardReceipt reply prepared = false := unconfirmed
          simp only [completeMutation, completeDiscardRoot, rejected]
          exact broke candidate

/-- The result of an attempt that lost its reply confirms nothing, if it can be classified. -/
theorem lost_unconfirmed {purpose : Purpose naming} {target : Target} {execution : Execution}
    {attempted : Target × Except Text Reply} (lost : execution.LosesReply)
    (possible : purpose.Possible target execution)
    (ran : purpose.attempt target execution = some attempted) (input : CompletionInput)
    (classifiable : ∀ message, attempted.2 = .error message → Classifiable purpose message) :
    purpose.Unconfirmed input attempted.2 := by
  cases execution with
  | lost milliseconds message =>
      obtain ⟨text, _, result⟩ := Purpose.executed_eq_some ran
      obtain ⟨phase, classified⟩ := classifiable message result
      rw [result]
      cases phase with
      | none => exact classified
      | some stage => exact absurd classified (possible stage)
  | malformed milliseconds reply =>
      obtain ⟨text, _, result⟩ := Purpose.executed_eq_some ran
      rw [result]
      exact possible input
  | answered _ | staged _ | refused _ | unreached _ => cases lost

/-! ## Executing an instruction again -/

theorem sectionAction_target [DecidableEq V] {action : Action naming V}
    {outcome : System naming V × List (Event naming)}
    (ran : system.sectionAction action = some outcome) : outcome.1.target = system.target := by
  cases action <;> cases ran <;> rfl

variable {later : System naming V} {events : List (Event naming)}

/-- The outcomes that a target stores stay stored in every run. -/
theorem step_outcomes [DecidableEq V] {action : Action naming V}
    (step : Step system action later events) :
    (∀ transactionId receipt, system.target.swapOutcomes.get? transactionId = some receipt →
        later.target.swapOutcomes.get? transactionId = some receipt) ∧
      ∀ transactionId receipt, system.target.discardOutcomes.get? transactionId = some receipt →
        later.target.discardOutcomes.get? transactionId = some receipt := by
  cases step with
  | atomic ran =>
      rw [sectionAction_target ran]
      exact ⟨fun _ _ stored => stored, fun _ _ stored => stored⟩
  | claim | executeAgain | complete => exact ⟨fun _ _ stored => stored, fun _ _ stored => stored⟩
  | execute outstanding claimed running possible ran =>
      rcases Purpose.attempt_target ran with same | ⟨milliseconds, text, executed⟩
      · simp only [System.store, same]
        exact ⟨fun _ _ stored => stored, fun _ _ stored => stored⟩
      · exact Purpose.instruct_outcomes executed

/-- Every action is permitted. -/
def Anything (_ : System naming V) (_ : Action naming V) : Prop := True

theorem run_outcomes [DecidableEq V]
    (run : Run Step Anything system events later) :
    (∀ transactionId receipt, system.target.swapOutcomes.get? transactionId = some receipt →
        later.target.swapOutcomes.get? transactionId = some receipt) ∧
      ∀ transactionId receipt, system.target.discardOutcomes.get? transactionId = some receipt →
        later.target.discardOutcomes.get? transactionId = some receipt := by
  induction run with
  | start => exact ⟨fun _ _ stored => stored, fun _ _ stored => stored⟩
  | further before taken allowed hypothesis =>
      obtain ⟨swaps, discards⟩ := step_outcomes taken
      exact ⟨fun _ _ stored => swaps _ _ (hypothesis.1 _ _ stored),
        fun _ _ stored => discards _ _ (hypothesis.2 _ _ stored)⟩

/-! ## The law -/

/-- A working registry whose host is settled has the target's active root. -/
def RootsAgree (system : System naming V) : Prop :=
  system.server.broken = false →
    (system.server.host.state = .ready ∨ system.server.host.state = .empty) →
    system.target.active = activeRoot system.server.host ∧
      (system.server.host.state = .empty → system.target.active = none)

theorem Faithful.rootsAgree (faithful : system.Faithful) : system.RootsAgree := by
  intro working settled
  have unswapped : ∀ candidate prepared result,
      ¬system.Swapping candidate prepared (some result) := by
    intro candidate prepared result swapping
    have isPending :=
      ((faithful.agreement working).swapping candidate prepared (some result) swapping).1
    have preparing := faithful.coherent.phased.preparing candidate isPending
    rcases settled with ready | empty
    · rw [preparing] at ready
      cases ready
    · rw [preparing] at empty
      cases empty
  have quiet := (faithful.agreement working).quiet unswapped
  refine ⟨quiet.active, fun empty => ?_⟩
  rw [quiet.active, activeRoot_of_none (faithful.coherent.phased.empty empty)]

variable [DecidableEq V]

/-- What holds of a system however it was reached by orderly actions. -/
structure RootLaw (system : System naming V) : Prop where
  agree : system.RootsAgree
  lost : ∀ {execution : Execution} {executed waiting later : System naming V}
    {operation : Operation} {input : CompletionInput} {events emitted : List (Event naming)},
    execution.LosesReply → Step system (.execute execution) executed events →
    waiting.server.mutation = executed.server.mutation →
    waiting.Orderly (.complete operation input) →
    Step waiting (.complete operation input) later emitted → later.server.broken = true
  unconfirmed : ∀ {mutation : Mutation naming} {result : Except Text Reply}
    {operation : Operation} {input : CompletionInput} {later : System naming V}
    {emitted : List (Event naming)},
    system.server.mutation = some mutation → mutation.result = some result →
    mutation.purpose.Unconfirmed input result →
    Step system (.complete operation input) later emitted → later.server.broken = true
  swapAgain : ∀ {prepared : WorkerPreparedRootReceipt} {milliseconds : Nat} {target : Target}
    {receipt : Text}, system.target.swapRoot prepared milliseconds = .ok (target, receipt) →
    ∀ {events : List (Event naming)} {later : System naming V}, Run Step Anything { system with target := target } events later →
      ∀ again, later.target.swapRoot prepared again = .ok (later.target, receipt)
  discardAgain : ∀ {prepared : WorkerPreparedRootReceipt} {target : Target} {receipt : Text},
    system.target.discardRoot prepared = .ok (target, receipt) →
    ∀ {events : List (Event naming)} {later : System naming V}, Run Step Anything { system with target := target } events later →
      later.target.discardRoot prepared = .ok (later.target, receipt)

theorem completed_unconfirmed {mutation : Mutation naming} {result : Except Text Reply}
    {operation : Operation}
    {emitted : List (Event naming)} (outstanding : system.server.mutation = some mutation)
    (finished : mutation.result = some result)
    (unconfirmed : mutation.purpose.Unconfirmed input result)
    (step : Step system (.complete operation input) later emitted) :
    later.server.broken = true := by
  cases step with
  | atomic ran => cases ran
  | complete isOutstanding isFinished =>
      rw [outstanding] at isOutstanding
      cases isOutstanding
      rw [finished] at isFinished
      cases isFinished
      exact unconfirmed_broken _ unconfirmed

theorem completed_lost {execution : Execution} {executed waiting : System naming V}
    {operation : Operation} {emitted : List (Event naming)}
    (lost : execution.LosesReply) (step : Step system (.execute execution) executed events)
    (same : waiting.server.mutation = executed.server.mutation)
    (orderly : waiting.Orderly (.complete operation input))
    (completed : Step waiting (.complete operation input) later emitted) :
    later.server.broken = true := by
  cases step with
  | atomic ran => cases ran
  | @execute mutation _ attempted outstanding claimed running possible ran =>
      refine completed_unconfirmed same rfl (lost_unconfirmed lost possible ran input ?_) completed
      intro message result
      exact orderly { mutation with result := some attempted.2 } message same
        (congrArg some result)

theorem Faithful.rootLaw (faithful : system.Faithful) : system.RootLaw where
  agree := faithful.rootsAgree
  lost := completed_lost
  unconfirmed := completed_unconfirmed
  swapAgain executed _ _ run again :=
    Target.swapRoot_again ((run_outcomes run).1 _ _ (Target.swapRoot_outcome executed)) again
  discardAgain executed _ _ run :=
    Target.discardRoot_again ((run_outcomes run).2 _ _ (Target.discardRoot_outcome executed))

/-! ## One candidate -/

def plainNaming : Naming := ⟨id, id⟩

def onlyModule : WorkerModuleArtifact := ⟨"module", 1, "digest"⟩

def onlyPreparation : Preparation :=
  ⟨[onlyModule], 0, 0, ⟨.ok (), .ok "manifest", .ok (), .ok ()⟩⟩

def onlyCandidate : WorkerUniverseCandidate plainNaming where
  identity := 0
  handle := ⟨0, 0, 0, 1, "manifest"⟩
  manifest := ⟨1, [manifestModule plainNaming onlyModule], "manifest", by decide, by decide,
    by decide, by decide⟩
  artifacts := [onlyModule]
  newArtifacts := [onlyModule]
  previous := none

def firstTransaction : TransactionId := ⟨['a'], by decide⟩

def secondTransaction : TransactionId := ⟨['b'], by decide⟩

def onlyPrepared (transactionId : TransactionId) : WorkerPreparedRootReceipt :=
  ⟨0, transactionId, 1, "manifest", "generation-1", "", 0⟩

def plainInput : CompletionInput := ⟨.succeeded, (0, 0), (0, 0), 0, .ok ()⟩

/-- The system once the first candidate's root is prepared. -/
def preparedSystem : System plainNaming Unit where
  server :=
    { host := { WorkerUniverseRegistry.initial 0 0 0 with
        nextGeneration := 2
        handles := Dictionary.empty.set 1 onlyCandidate.handle
        pending := some onlyCandidate
        sealedActivations := Dictionary.empty.set 1 ⟨onlyCandidate, none⟩
        state := .preparing }
      broken := false
      preparedRoots := Dictionary.empty.set firstTransaction
        (onlyCandidate, onlyPrepared firstTransaction)
      mutation := none
      nextToken := 1 }
  target := (Target.empty.prepareRoot firstTransaction 1 "manifest" "" 0).1

theorem prepared_run :
    ∃ events, Run Step Orderly (initial 0 0 0 : System plainNaming Unit) events preparedSystem := by
  have run : Run Step Orderly (initial 0 0 0 : System plainNaming Unit) _ _ := .start
  have run := run.further (.atomic (show sectionAction _
    (.beginPrepare (0, 0) (0, 0) onlyPreparation (.ok ())) = some _ from rfl)) trivial
  have run := run.further (.atomic (show sectionAction _
    (.reservePrepareRoot .prepareRoot (0, 0) (0, 0) onlyCandidate firstTransaction) = some _
      from rfl)) trivial
  have run := run.further (show Step _ (.claim .prepareRoot) _ _ from .claim rfl rfl) trivial
  have run := run.further (show Step _ (.execute (.answered 0)) _ _ from
    .execute rfl rfl rfl (fun _ impossible => nomatch impossible) rfl) trivial
  have run := run.further (show Step _ (.complete .prepareRoot plainInput) _ _ from
    .complete rfl rfl) (fun _ _ outstanding failed => by cases outstanding; cases failed)
  exact ⟨_, run⟩

/-- The reply of a swap is lost with a text that ends at the marker of its stage. The registry
is not broken, the candidate is prepared again and discarded, and the host is empty while the
target has the candidate's root. -/
theorem lost_swap_disagrees :
    ∃ events system, Run Step Anything (initial 0 0 0 : System plainNaming Unit) events system ∧
      ¬system.RootsAgree := by
  obtain ⟨events, prepared⟩ := prepared_run
  have run : Run Step Anything _ _ _ := prepared.weaken fun _ _ _ => trivial
  have run := run.further (.atomic (show sectionAction _
    (.reserveSwapRoot .swapRoot (onlyPrepared firstTransaction)) = some _ from rfl)) trivial
  have run := run.further (show Step _ (.claim .swapRoot) _ _ from .claim rfl rfl) trivial
  have run := run.further (show Step _ (.execute (.lost 0 swapStageMarker)) _ _ from
    .execute rfl rfl rfl (fun _ classified => nomatch classified) rfl) trivial
  have run := run.further (show Step _ (.complete .swapRoot plainInput) _ _ from
    .complete rfl rfl) trivial
  have run := run.further (.atomic (show sectionAction _
    (.reservePrepareRoot .prepareRoot (0, 0) (0, 0) onlyCandidate secondTransaction) = some _
      from rfl)) trivial
  have run := run.further (show Step _ (.claim .prepareRoot) _ _ from .claim rfl rfl) trivial
  have run := run.further (show Step _ (.execute (.answered 0)) _ _ from
    .execute rfl rfl rfl (fun _ impossible => nomatch impossible) rfl) trivial
  have run := run.further (show Step _ (.complete .prepareRoot plainInput) _ _ from
    .complete rfl rfl) trivial
  have run := run.further (.atomic (show sectionAction _
    (.reserveDiscardRoot .discardRoot (onlyPrepared secondTransaction)) = some _ from rfl)) trivial
  have run := run.further (show Step _ (.claim .discardRoot) _ _ from .claim rfl rfl) trivial
  have run := run.further (show Step _ (.execute (.answered 0)) _ _ from
    .execute rfl rfl rfl (fun _ impossible => nomatch impossible) rfl) trivial
  have run := run.further (show Step _ (.complete .discardRoot plainInput) _ _ from
    .complete rfl rfl) trivial
  refine ⟨_, _, run, fun agree => ?_⟩
  cases (agree rfl (.inr rfl)).1

/-- In every orderly run host and target agree on the active root, an attempt whose reply is
lost or malformed breaks the registry, and a swap or discard can be executed again. -/
theorem orderly_root_law {owner runtimeGeneration contextGeneration : Nat}
    {events : List (Event naming)}
    (run : Run Step Orderly (initial owner runtimeGeneration contextGeneration) events system) :
    system.RootLaw :=
  (run.keeps (initial_faithful owner runtimeGeneration contextGeneration)
    step_faithful).rootLaw

theorem published_root_law :
    ∃ events system, Run Step Orderly (initial 0 0 0 : System plainNaming Unit) events system ∧
      system.target.active = some "generation-1" ∧ system.RootLaw := by
  obtain ⟨events, run⟩ := prepared_run
  have run := run.further (.atomic (show sectionAction _
    (.reserveSwapRoot .swapRoot (onlyPrepared firstTransaction)) = some _ from rfl))
    (fun _ entered => by cases entered; rfl)
  have run := run.further (show Step _ (.claim .swapRoot) _ _ from .claim rfl rfl) trivial
  have run := run.further (show Step _ (.execute (.answered 0)) _ _ from
    .execute rfl rfl rfl (fun _ impossible => nomatch impossible) rfl) trivial
  have run := run.further (show Step _ (.complete .swapRoot plainInput) _ _ from
    .complete rfl rfl) (fun _ _ outstanding failed => by cases outstanding; cases failed)
  exact ⟨_, _, run, rfl, orderly_root_law run⟩

end System

end OnecRuntime.Publication
