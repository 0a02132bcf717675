import OnecRuntime.Publication.RootLaw

/-!
# Tokens

A mutation is reserved under a new token while no other one is outstanding. A claim
invokes the executor for it once, and completing it takes it away and runs one of its
callbacks, so the events of a run count one of each for every token that is done.
-/

namespace OnecRuntime.Publication

open OnecRuntime.Library OnecRuntime.Registry OnecRuntime.Registry.WorkerUniverseRegistry
open ServerWorkerUniverseRegistry

variable {naming : Naming} {V : Type}

namespace System

/-- The swap or discard that is outstanding is of a prepared root that is still there. -/
def Rooted (system : System naming V) : Prop :=
  ∀ mutation candidate prepared, system.server.mutation = some mutation →
    (mutation.purpose = .swapRoot candidate prepared ∨
      mutation.purpose = .discardRoot candidate prepared) →
    system.server.preparedRoots.get? prepared.transactionId = some (candidate, prepared)

variable {system : System naming V}

/-- What a section that is no completion does to the outstanding mutation. -/
inductive Reserved (before : Server naming V) : Server naming V → Prop
  | kept {after : Server naming V} (mutation : after.mutation = before.mutation)
      (nextToken : after.nextToken = before.nextToken)
      (roots : after.preparedRoots = before.preparedRoots) : Reserved before after
  | reserved {after : Server naming V} (purpose : Purpose naming)
      (reserves : Reserves before purpose after)
      (entered : ∀ candidate prepared, (purpose = .swapRoot candidate prepared ∨
        purpose = .discardRoot candidate prepared) →
        before.preparedRoots.get? prepared.transactionId = some (candidate, prepared)) :
      Reserved before after

theorem reserved_of_moves {before after : Server naming V} (moves : Moves before after) :
    Reserved before after := .kept moves.mutation moves.nextToken moves.preparedRoots

theorem reserved_of_purpose (server : Server naming V) (purpose : Except Failure (Purpose naming))
    (entered : ∀ candidate prepared, (purpose = .ok (.swapRoot candidate prepared) ∨
      purpose = .ok (.discardRoot candidate prepared)) →
      server.preparedEntry prepared = .ok candidate) :
    Reserved server (server.reservePurpose purpose).1 := by
  rcases server.reservePurpose_cases purpose with same | ⟨reserved, given, reserves⟩
  · rw [same]
    exact .kept rfl rfl rfl
  · refine .reserved reserved reserves fun candidate prepared kind => ?_
    apply server.preparedEntry_stored
    apply entered
    rw [given]
    exact kind.imp (congrArg _) (congrArg _)

variable {action : Action naming V}

theorem sectionAction_reserved [DecidableEq V]
    {outcome : System naming V × List (Event naming)}
    (ran : system.sectionAction action = some outcome) :
    Reserved system.server outcome.1.server := by
  cases action with
  | beginPrepare fence sealFence preparation batches =>
      cases ran
      show Reserved system.server (system.server.beginPrepare fence sealFence preparation batches).1
      rcases system.server.beginPrepare_cases fence sealFence preparation batches with
        ⟨⟨failure, same⟩, _⟩ | ⟨_, _, next, candidate, _, same | ⟨failure, same⟩⟩
      · rw [same]
        exact .kept rfl rfl rfl
      · rw [same]
        exact .kept rfl rfl rfl
      · rw [same]
        have moves := discardExact_moves (α := WorkerUniverseCandidate naming)
          { system.server with host := next } candidate failure
        exact .kept moves.mutation moves.nextToken moves.preparedRoots
  | reserveStageBatch operation fence candidate instruction =>
      cases ran
      show Reserved system.server (system.server.reserveStageBatch fence candidate instruction).1
      rcases system.server.reserveStageBatch_cases fence candidate instruction with
        ⟨failure, _, same⟩ | ⟨_, same⟩
      · rw [same]
        exact reserved_of_moves (system.server.abortPreSwap_moves fence candidate failure)
      · rw [same]
        apply reserved_of_purpose system.server (.ok (.stageBatch candidate))
        rintro other prepared (kind | kind) <;> cases kind
  | bindDebugView operation fence discardFence candidate view =>
      cases ran
      show Reserved system.server
        (system.server.bindDebugView fence discardFence candidate view).1
      rcases system.server.bindDebugView_cases fence discardFence candidate view with
        ⟨_, failure, same⟩ | ⟨next, moves, _, same⟩
      · rw [same]
        exact reserved_of_moves (system.server.abortPreSwap_moves discardFence candidate failure)
      · rw [same]
        exact reserved_of_moves moves
  | beginPrepareRoot operation fence discardFence candidate transactionId batches =>
      cases ran
      show Reserved system.server
        (system.server.beginPrepareRoot fence discardFence candidate transactionId batches).1
      rcases system.server.beginPrepareRoot_cases fence discardFence candidate transactionId
        batches with ⟨failure, _, same⟩ | same | ⟨⟨failure, same⟩, _⟩
      · rw [same]
        exact reserved_of_moves (system.server.abortPreSwap_moves discardFence candidate failure)
      · rw [same]
        exact .kept rfl rfl rfl
      · rw [same]
        exact .kept rfl rfl rfl
  | reservePrepareRoot operation fence activeFence candidate transactionId =>
      cases ran
      apply reserved_of_purpose
      rintro other prepared (kind | kind)
      · obtain ⟨_, _, kind⟩ := bind_eq_ok.1 kind
        obtain ⟨_, _, kind⟩ := bind_eq_ok.1 kind
        obtain ⟨_, _, kind⟩ := bind_eq_ok.1 kind
        cases kind
      · obtain ⟨_, _, kind⟩ := bind_eq_ok.1 kind
        obtain ⟨_, _, kind⟩ := bind_eq_ok.1 kind
        obtain ⟨_, _, kind⟩ := bind_eq_ok.1 kind
        cases kind
  | reserveSwapRoot operation prepared | reserveDiscardRoot operation prepared =>
      cases ran
      apply reserved_of_purpose
      intro other named kind
      cases entered : system.server.preparedEntry prepared with
      | error failure =>
          rw [entered] at kind
          rcases kind with kind | kind <;> cases kind
      | ok candidate =>
          rw [entered] at kind
          rcases kind with kind | kind <;> cases kind
          exact entered
  | quarantineRoot prepared =>
      cases ran
      rcases system.server.quarantineRoot_cases prepared with same | ⟨host, _, broke⟩
      · simp only [same]
        exact .kept rfl rfl rfl
      · simp only [broke]
        exact .kept rfl rfl rfl
  | release planFence fence previewFence release =>
      cases ran
      unfold ServerWorkerUniverseRegistry.release
      split
      · exact .kept rfl rfl rfl
      · exact .kept rfl rfl rfl
  | claim _ | executeAgain | execute _ | complete _ _ => cases ran

/-- A completed mutation is no longer outstanding. -/
theorem completeMutation_taken (system : System naming V) (purpose : Purpose naming) (input : CompletionInput)
    (result : Except Text Reply) :
    (system.server.completeMutation purpose input result).1.mutation = none ∧
      (system.server.completeMutation purpose input result).1.nextToken =
        system.server.nextToken := by
  have kept {outcome : Server naming V} (moves : Moves system.taken.server outcome) :
      outcome.mutation = none ∧ outcome.nextToken = system.server.nextToken :=
    ⟨moves.mutation, moves.nextToken⟩
  cases purpose with
  | stageBatch given => exact kept (system.taken.server.completeStage_ends given input result).moves
  | prepareRoot given transactionId previousRootKey =>
      rcases system.taken.server.completePrepareRoot_cases given transactionId previousRootKey input
        result with ends | ⟨reply, receipt, _, _, same⟩
      · exact kept ends.moves
      · simp only [completeMutation]
        show (system.taken.server.completePrepareRoot given transactionId previousRootKey input
          result).1.mutation = none ∧ _
        rw [same]
        exact ⟨rfl, congrArg (·.1.nextToken) same⟩
  | swapRoot given prepared =>
      rcases system.taken.server.completeSwapRoot_cases given prepared input result with
        ⟨failure, _, same⟩ | same | ⟨_, _, _, _, _, _, _, same⟩
      · exact ⟨congrArg (·.1.mutation) same, congrArg (·.1.nextToken) same⟩
      · have moves := system.taken.server.abandon_moves (α := Unit) given
        exact ⟨(congrArg (·.1.mutation) same).trans moves.mutation,
          (congrArg (·.1.nextToken) same).trans moves.nextToken⟩
      · exact ⟨congrArg (·.1.mutation) same, congrArg (·.1.nextToken) same⟩
  | discardRoot given prepared =>
      rcases system.taken.server.completeDiscardRoot_cases given prepared input result with
        ⟨host, _, same⟩ | ⟨_, _, same⟩
      · exact ⟨congrArg (·.mutation) same, congrArg (·.nextToken) same⟩
      · exact ⟨congrArg (·.mutation) same, congrArg (·.nextToken) same⟩

theorem claimed_rooted {mutation : Mutation naming} (rooted : system.Rooted)
    (outstanding : system.server.mutation = some mutation) :
    Rooted ⟨(system.server.claimMutation mutation).1, system.target⟩ := by
  rcases system.server.claimMutation_cases mutation with ⟨_, failure, same⟩ | ⟨_, _, same⟩
  · rw [same]
    exact rooted
  · rw [same]
    intro found candidate prepared isFound kind
    cases isFound
    exact rooted mutation candidate prepared outstanding kind

variable {events : List (Event naming)}

variable {later : System naming V}

theorem step_rooted [DecidableEq V]
    (rooted : system.Rooted)
    (step : Step system action later events) : later.Rooted := by
  cases step with
  | atomic ran =>
      intro mutation candidate prepared outstanding kind
      cases sectionAction_reserved ran with
      | kept same _ roots =>
          rw [roots]
          exact rooted mutation candidate prepared (same.symm.trans outstanding) kind
      | reserved purpose reserves entered =>
          rw [reserves.reserved] at outstanding ⊢
          cases outstanding
          exact entered candidate prepared kind
  | claim outstanding own => exact claimed_rooted rooted outstanding
  | executeAgain outstanding => exact claimed_rooted rooted outstanding
  | execute outstanding claimed running possible ran =>
      intro found candidate prepared isFound kind
      cases isFound
      exact rooted _ candidate prepared outstanding kind
  | @complete operation mutation input result outstanding finished =>
      intro found candidate prepared isFound kind
      have taken := (system.completeMutation_taken mutation.purpose input result).1
      exact nomatch taken.symm.trans isFound

/-- How often the executor was invoked for each token and how many callbacks have run. -/
structure Counted (events : List (Event naming)) (system : System naming V) : Prop where
  unused : ∀ token, system.server.nextToken ≤ token →
    events.count (.invoked token) = 0 ∧ events.count (.settled token) = 0
  done : ∀ token, token < system.server.nextToken →
    (∀ mutation, system.server.mutation = some mutation → mutation.token ≠ token) →
    events.count (.invoked token) = 1 ∧ events.count (.settled token) = 1
  outstanding : ∀ mutation, system.server.mutation = some mutation →
    mutation.token < system.server.nextToken ∧
      events.count (.invoked mutation.token) = (if mutation.claimed then 1 else 0) ∧
      events.count (.settled mutation.token) = 0 ∧
      (mutation.result.isSome = true → mutation.claimed = true)

/-- Events that tell of no invocation and of no callback. -/
def Silent (events : List (Event naming)) : Prop :=
  ∀ token, events.count (.invoked token) = 0 ∧ events.count (.settled token) = 0

theorem raised_silent (operation : Operation)
    (candidate : Option (WorkerUniverseCandidate naming)) :
    Silent [.raised operation candidate] := fun token => ⟨by simp, by simp⟩

theorem after_silent {α : Type} (operation : Operation)
    (candidate : Option (WorkerUniverseCandidate naming)) (outcome : Section naming V α) :
    Silent (system.after operation candidate outcome []).2 := by
  unfold after
  split
  · exact fun _ => ⟨rfl, rfl⟩
  · exact raised_silent operation candidate

theorem completion_silent (operation : Operation) (purpose : Purpose naming)
    (result : Except Failure Unit) : Silent (completion operation purpose result) := by
  cases result with
  | error failure =>
      simp only [completion]
      split
      · exact fun _ => ⟨rfl, rfl⟩
      · exact raised_silent operation _
  | ok value =>
      simp only [completion]
      split
      · exact raised_silent operation _
      · exact fun _ => ⟨rfl, rfl⟩

theorem sectionAction_silent [DecidableEq V]
    {outcome : System naming V × List (Event naming)}
    (ran : system.sectionAction action = some outcome) : Silent outcome.2 := by
  cases action with
  | quarantineRoot _ | release _ _ _ _ =>
      cases ran
      exact fun _ => ⟨rfl, rfl⟩
  | claim _ | executeAgain | execute _ | complete _ _ => cases ran
  | beginPrepare _ _ _ _ | reserveStageBatch _ _ _ _ | bindDebugView _ _ _ _ _
  | beginPrepareRoot _ _ _ _ _ _ | reservePrepareRoot _ _ _ _ _ | reserveSwapRoot _ _
  | reserveDiscardRoot _ _ =>
      cases ran
      exact after_silent _ _ _

variable {emitted : List (Event naming)}

theorem count_silent (silent : Silent emitted)
    (token : Nat) :
    (events ++ emitted).count (.invoked token) = events.count (.invoked token) ∧
      (events ++ emitted).count (.settled token) = events.count (.settled token) := by
  rw [List.count_append, List.count_append, (silent token).1, (silent token).2]
  exact ⟨rfl, rfl⟩

/-- Silent events that leave the mutation alone. -/
theorem Counted.silent (counted : Counted events system) (silent : Silent emitted)
    (mutation : later.server.mutation = system.server.mutation)
    (nextToken : later.server.nextToken = system.server.nextToken) :
    Counted (events ++ emitted) later := by
  constructor
  · intro token unused
    rw [(count_silent silent token).1, (count_silent silent token).2]
    exact counted.unused token (nextToken ▸ unused)
  · intro token used apart
    rw [(count_silent silent token).1, (count_silent silent token).2]
    exact counted.done token (nextToken ▸ used) (mutation ▸ apart)
  · intro found isFound
    rw [(count_silent silent _).1, (count_silent silent _).2, nextToken]
    exact counted.outstanding found (mutation.symm.trans isFound)

theorem Counted.reserved
    {purpose : Purpose naming} (counted : Counted events system) (silent : Silent emitted)
    (reserves : Reserves system.server purpose later.server) :
    Counted (events ++ emitted) later := by
  have fresh := counted.unused system.server.nextToken (Nat.le_refl _)
  constructor
  · intro token unused
    rw [(count_silent silent token).1, (count_silent silent token).2]
    rw [reserves.reserved] at unused
    exact counted.unused token (Nat.le_of_succ_le unused)
  · intro token used apart
    rw [(count_silent silent token).1, (count_silent silent token).2]
    rw [reserves.reserved] at used apart
    have other := apart _ rfl
    apply counted.done token (Nat.lt_of_le_of_ne (Nat.le_of_lt_succ used) (Ne.symm other))
    intro mutation outstanding
    exact nomatch reserves.idle.symm.trans outstanding
  · intro found isFound
    rw [(count_silent silent _).1, (count_silent silent _).2]
    rw [reserves.reserved] at isFound ⊢
    cases isFound
    exact ⟨Nat.lt_succ_self _, fresh.1, fresh.2, fun finished => (nomatch finished)⟩

/-- A claim invokes the executor for an unclaimed mutation or is refused. -/
theorem Counted.claimed {mutation : Mutation naming}
    (counted : Counted events system) (outstanding : system.server.mutation = some mutation)
    (accepted : (system.server.claimMutation mutation).2 = .ok () →
      emitted = [.invoked mutation.token])
    (refused : ∀ failure, (system.server.claimMutation mutation).2 = .error failure →
      Silent emitted) :
    Counted (events ++ emitted) ⟨(system.server.claimMutation mutation).1, system.target⟩ := by
  rcases system.server.claimMutation_cases mutation with
    ⟨_, failure, same⟩ | ⟨_, unclaimed, same⟩
  · have silent := refused failure (congrArg Prod.snd same)
    rw [same]
    exact counted.silent silent rfl rfl
  · have emits := accepted (congrArg Prod.snd same)
    subst emits
    rw [same]
    obtain ⟨bound, invoked, settled, running⟩ := counted.outstanding mutation outstanding
    rw [unclaimed] at invoked
    have apart : ∀ token, token ≠ mutation.token →
        (events ++ [Event.invoked mutation.token]).count (Event.invoked token : Event naming) =
          events.count (.invoked token) := by
      intro token other
      simp [List.count_append, Ne.symm other]
    constructor
    · intro token unused
      have other : token ≠ mutation.token := Nat.ne_of_gt (Nat.lt_of_lt_of_le bound unused)
      rw [apart token other]
      simpa [List.count_append] using counted.unused token unused
    · intro token used others
      have other : token ≠ mutation.token :=
        Ne.symm (others { mutation with claimed := true } rfl)
      rw [apart token other]
      have done := counted.done token used fun found isFound => by
        rw [outstanding] at isFound
        cases isFound
        exact Ne.symm other
      simpa [List.count_append] using done
    · intro found isFound
      cases isFound
      refine ⟨bound, ?_, ?_, fun _ => rfl⟩
      · simpa [List.count_append] using invoked
      · simpa [List.count_append] using settled

theorem step_counted [DecidableEq V]
    (counted : Counted events system)
    (step : Step system action later emitted) : Counted (events ++ emitted) later := by
  cases step with
  | atomic ran =>
      have silent := sectionAction_silent ran
      cases sectionAction_reserved ran with
      | kept mutation nextToken _ => exact counted.silent silent mutation nextToken
      | reserved purpose reserves _ => exact counted.reserved silent reserves
  | claim outstanding own =>
      apply counted.claimed outstanding
      · intro returned
        simp only [after, returned]
      · intro failure raised
        simp only [after, raised]
        exact raised_silent _ _
  | executeAgain outstanding =>
      apply counted.claimed outstanding
      · intro returned
        simp only [returned]
      · intro failure raised
        simp only [raised]
        exact fun _ => ⟨rfl, rfl⟩
  | @execute mutation _ attempted outstanding claimed running possible ran =>
      obtain ⟨bound, invoked, settled, _⟩ := counted.outstanding mutation outstanding
      rw [List.append_nil]
      refine ⟨counted.unused, fun token used others => counted.done token used ?_, ?_⟩
      · intro found isFound
        rw [outstanding] at isFound
        cases isFound
        exact others { mutation with result := some attempted.2 } rfl
      · intro found isFound
        cases isFound
        exact ⟨bound, invoked, settled, fun _ => claimed⟩
  | @complete operation mutation input result outstanding finished =>
      obtain ⟨bound, invoked, settled, running⟩ := counted.outstanding mutation outstanding
      have claimed := running (by rw [finished]; rfl)
      rw [claimed] at invoked
      obtain ⟨taken, nextToken⟩ := system.completeMutation_taken mutation.purpose input result
      have silent := completion_silent operation mutation.purpose
        (system.server.completeMutation mutation.purpose input result).2
      have split : ∀ {rest : List (Event naming)},
          events ++ Event.settled mutation.token :: rest =
            (events ++ [Event.settled mutation.token]) ++ rest := by simp
      rw [split]
      have apart : ∀ token, token ≠ mutation.token →
          (events ++ [Event.settled mutation.token]).count (Event.settled token : Event naming) =
            events.count (.settled token) := by
        intro token other
        simp [List.count_append, Ne.symm other]
      constructor
      · intro token unused
        rw [(count_silent silent token).1, (count_silent silent token).2]
        rw [nextToken] at unused
        have other : token ≠ mutation.token := Nat.ne_of_gt (Nat.lt_of_lt_of_le bound unused)
        rw [apart token other]
        simpa [List.count_append] using counted.unused token unused
      · intro token used _
        rw [(count_silent silent token).1, (count_silent silent token).2]
        rw [nextToken] at used
        by_cases same : token = mutation.token
        · subst same
          constructor
          · simpa [List.count_append] using invoked
          · simpa [List.count_append] using settled
        · rw [apart token same]
          have done := counted.done token used fun found isFound => by
            rw [outstanding] at isFound
            cases isFound
            exact Ne.symm same
          simpa [List.count_append] using done
      · intro found isFound
        cases taken.symm.trans isFound

theorem Counted.once (counted : Counted events system)
    (token : Nat) : events.count (.invoked token) ≤ 1 ∧ events.count (.settled token) ≤ 1 ∧
      events.count (.settled token) ≤ events.count (.invoked token) := by
  by_cases used : token < system.server.nextToken
  · by_cases outstanding : ∃ mutation, system.server.mutation = some mutation ∧
      mutation.token = token
    · obtain ⟨mutation, isOutstanding, rfl⟩ := outstanding
      obtain ⟨_, invoked, settled, _⟩ := counted.outstanding mutation isOutstanding
      rw [invoked, settled]
      split <;> simp
    · have done := counted.done token used fun mutation isOutstanding same =>
        outstanding ⟨mutation, isOutstanding, same⟩
      rw [done.1, done.2]
      simp
  · have unused := counted.unused token (Nat.le_of_not_lt used)
    rw [unused.1, unused.2]
    simp

theorem initial_counted (owner runtimeGeneration contextGeneration : Nat) :
    Counted [] (initial owner runtimeGeneration contextGeneration : System naming V) := by
  refine ⟨fun _ _ => ⟨rfl, rfl⟩, fun token used => ?_, fun mutation outstanding => ?_⟩
  · exact absurd used (Nat.not_lt_zero token)
  · cases outstanding

section Runs

variable [DecidableEq V] {permitted : System naming V → Action naming V → Prop}
  {owner runtimeGeneration contextGeneration : Nat}

theorem run_rooted
    (run : Run Step permitted (initial owner runtimeGeneration contextGeneration) events system) :
    system.Rooted :=
  run.keeps (fun _ _ _ outstanding => by cases outstanding) fun held _ taken =>
    step_rooted held taken

theorem run_counted
    (run : Run Step permitted (initial owner runtimeGeneration contextGeneration) events system) :
    Counted events system :=
  run.keeps_trace (initial_counted owner runtimeGeneration contextGeneration)
    fun held _ taken => step_counted held taken

end Runs

end System

end OnecRuntime.Publication
