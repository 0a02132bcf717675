import OnecRuntime.Publication.Effects

/-!
# Coherent servers

In a coherent server the host's references are exact, a pending candidate means that
the host is preparing, an empty host has no active generation, a broken host means a
broken server, and each prepared root is the root of its candidate. No section of an
operation leaves that invariant, and a release or a section other than a completed
swap leaves the root of the active generation alone.
-/

namespace OnecRuntime.Publication

open OnecRuntime.Library OnecRuntime.Registry OnecRuntime.Registry.WorkerUniverseRegistry

variable {naming : Naming} {V : Type}

section Host

variable {host next : WorkerUniverseRegistry naming V}

/-- The phase of a host registry fits its pending candidate and its active generation. -/
structure Phased (host : WorkerUniverseRegistry naming V) : Prop where
  preparing : ∀ candidate, host.pending = some candidate → host.state = .preparing
  empty : host.state = .empty → host.activeGeneration = none
  opened : host.state ≠ .closed

/-- A host registry with the same references and a pending candidate of its own. -/
structure Prepared (host next : WorkerUniverseRegistry naming V)
    (candidate : WorkerUniverseCandidate naming) : Prop where
  references : SameReferences host next
  isPending : next.pending = some candidate
  preparing : next.state = .preparing
  generation : candidate.handle.generation = host.nextGeneration
  later : next.nextGeneration = host.nextGeneration + 1
  holds : next.quarantineHolds = host.quarantineHolds
  settled : host.state = .ready ∨ host.state = .empty

variable {candidate : WorkerUniverseCandidate naming}

variable {fence : Nat × Nat}

theorem prepareAttempt_prepared {preparation : Preparation}
    (made : host.prepareAttempt fence preparation = .ok (next, candidate)) :
    Prepared host next candidate := by
  unfold prepareAttempt at made
  obtain ⟨_, available, made⟩ := bind_eq_ok.1 made
  obtain ⟨_, unprepared, made⟩ := bind_eq_ok.1 made
  obtain ⟨_, _, made⟩ := bind_eq_ok.1 made
  obtain ⟨⟨ordered, manifest⟩, _, made⟩ := bind_eq_ok.1 made
  obtain ⟨_, _, made⟩ := bind_eq_ok.1 made
  obtain ⟨_, _, made⟩ := bind_eq_ok.1 made
  obtain ⟨_, _, made⟩ := bind_eq_ok.1 made
  cases made
  have unavailable := require_eq_ok.1 available
  have free := require_eq_ok.1 unprepared
  refine ⟨⟨rfl, rfl, rfl, rfl, rfl⟩, rfl, rfl, rfl, rfl, rfl, ?_⟩
  cases phase : host.state <;> simp_all

theorem bindAttempt_frame {debugView : WorkerGenerationDebugView naming V}
    (bound : host.bindCandidateDebugViewAttempt fence candidate debugView = .ok (next, ())) :
    next = { host with sealedActivations := next.sealedActivations } := by
  obtain ⟨_, _, bound⟩ := bind_eq_ok.1 bound
  obtain ⟨_, _, bound⟩ := bind_eq_ok.1 bound
  cases bound
  rfl

theorem requirePending_isPending (isPending : host.requirePending candidate = .ok ()) :
    host.pending = some candidate ∧ host.state = .preparing :=
  ⟨(require_eq_ok.1 isPending).2.1, (require_eq_ok.1 isPending).1⟩

theorem activeRoot_of_get? {generation : Nat} {record : GenerationRecord naming V}
    (active : host.activeGeneration = some generation)
    (stored : host.generations.get? generation = some record) :
    activeRoot host = some record.rootKey := by
  unfold activeRoot activeRecord
  rw [active, Option.bind_some, stored]
  rfl

theorem activeRoot_of_none (inactive : host.activeGeneration = none) : activeRoot host = none := by
  unfold activeRoot activeRecord
  rw [inactive]
  rfl

/-- A confirmation makes the candidate's root the active one. -/
theorem confirmAttempt_root
    {receipt : WorkerPromotionReceipt} {confirmation : WorkerGenerationConfirmation}
    (confirmed : host.confirmAttempt fence candidate receipt = .ok (next, confirmation)) :
    host.pending = some candidate ∧ next.pending = none ∧ next.state = .ready ∧
      activeRoot next = some (generationRootKey candidate.handle.generation) ∧
      next.nextGeneration = host.nextGeneration := by
  obtain ⟨dropped, refcounts, activation, removal, promotion, _⟩ := confirmAttempt_cases confirmed
  have stored : next.generations.get? candidate.handle.generation =
      some (confirmedRecord candidate receipt activation) := by
    rw [promotion.promoted, get?_collected]
    exact ⟨Dictionary.get?_set_same _ _ _, by simp [GenerationRecord.isLive, confirmedRecord]⟩
  have active : next.activeGeneration = some candidate.handle.generation := by
    rw [promotion.promoted]
    rfl
  refine ⟨promotion.isPending, ?_, ?_, ?_, ?_⟩
  · rw [promotion.promoted]
    rfl
  · rw [promotion.promoted]
    rfl
  · rw [activeRoot_of_get? active stored]
    exact congrArg some promotion.expected.2.2.2.1
  · rw [promotion.promoted]
    rfl

/-! ### Releases -/

/-- What a released record keeps of the registry. -/
structure ReleaseFrame (host next : WorkerUniverseRegistry naming V) : Prop where
  active : next.activeGeneration = host.activeGeneration
  pending : next.pending = host.pending
  phase : next.state = host.state
  later : next.nextGeneration = host.nextGeneration
  roots : ∀ generation,
    (next.generations.get? generation).map GenerationRecord.rootKey =
      (host.generations.get? generation).map GenerationRecord.rootKey

theorem rootKey_set {generations : Dictionary Nat (GenerationRecord naming V)} {generation : Nat}
    {record updated : GenerationRecord naming V} (stored : generations.get? generation = some record)
    (same : updated.rootKey = record.rootKey) (other : Nat) :
    ((generations.set generation updated).get? other).map GenerationRecord.rootKey =
      (generations.get? other).map GenerationRecord.rootKey := by
  by_cases here : other = generation
  · subst here
    rw [Dictionary.get?_set_same, stored, Option.map_some, Option.map_some, same]
  · rw [Dictionary.get?_set_other _ _ here]

theorem releaseRecord_frame {release : Release naming}
    (removed : host.releaseRecord release = .ok next) : ReleaseFrame host next := by
  cases release with
  | generation handle =>
      obtain ⟨record, known, removed⟩ := bind_eq_ok.1 removed
      cases removed
      have stored := (requireGeneration_stored known).1
      exact ⟨rfl, rfl, rfl, rfl, rootKey_set stored rfl⟩
  | pin pin =>
      obtain ⟨_, _, removed⟩ := bind_eq_ok.1 removed
      obtain ⟨record, known, removed⟩ := bind_eq_ok.1 removed
      cases removed
      have stored := (requireGeneration_stored known).1
      exact ⟨rfl, rfl, rfl, rfl, rootKey_set stored rfl⟩

/-- What a release keeps: the active root, the pending candidate and the phase. -/
structure Keeps (host next : WorkerUniverseRegistry naming V) : Prop where
  active : next.activeGeneration = host.activeGeneration
  root : activeRoot next = activeRoot host
  pending : next.pending = host.pending
  phase : next.state = host.state
  later : next.nextGeneration = host.nextGeneration

theorem Keeps.refl (host : WorkerUniverseRegistry naming V) : Keeps host host :=
  ⟨rfl, rfl, rfl, rfl, rfl⟩

variable [DecidableEq V]

theorem commitment_keeps (exact : Exact host) {previewFence : Nat × Nat}
    {plan : WorkerLifecycleReleasePlan naming V} {released : WorkerUniverseRegistry naming V}
    (commitment : Commitment host next previewFence plan released) : Keeps host next := by
  have after := (commitment.exact exact).1
  have frame := releaseRecord_frame commitment.removed
  have committed := commitment.committed
  have active : next.activeGeneration = host.activeGeneration := by
    rw [committed]
    exact frame.active
  refine ⟨active, ?_, ?_, ?_, ?_⟩
  · cases marked : host.activeGeneration with
    | none => rw [activeRoot_of_none marked, activeRoot_of_none (active.trans marked)]
    | some generation =>
        have inside := after.activeStored generation (active.trans marked)
        obtain ⟨record, stored⟩ := Dictionary.mem_keys.1 inside
        have kept : released.generations.get? generation = some record := by
          rw [committed] at stored
          exact (get?_collected.1 stored).1
        have rooted := frame.roots generation
        rw [kept] at rooted
        obtain ⟨old, found, same⟩ := Option.map_eq_some_iff.1 rooted.symm
        rw [activeRoot_of_get? (active.trans marked) stored, activeRoot_of_get? marked found, same]
  · rw [committed]
    exact frame.pending
  · rw [committed]
    exact frame.phase
  · rw [committed]
    exact frame.later

theorem directRelease_keeps (exact : Exact host) (planFence fence previewFence : Nat × Nat)
    (release : Release naming) :
    Keeps host (host.directRelease planFence fence previewFence release).registry := by
  unfold directRelease
  split
  · exact .refl host
  · apply Outcome.ofAttempt_registry (Keeps.refl host)
    intro next names returned
    obtain ⟨_, _, released, commitment⟩ := commitReleaseAttempt_cases returned
    exact commitment_keeps exact commitment

end Host

namespace ServerWorkerUniverseRegistry

structure Coherent (server : Server naming V) : Prop where
  exact : Exact server.host
  phased : Phased server.host
  broken : server.host.state = .broken → server.broken = true
  receipts : ∀ transactionId candidate receipt,
    server.preparedRoots.get? transactionId = some (candidate, receipt) →
      receipt.generation = candidate.handle.generation ∧
        receipt.candidateRootKey = generationRootKey candidate.handle.generation

variable {before after : Server naming V}

theorem Coherent.available (coherent : Coherent before) (working : before.broken = false) :
    before.available := by
  refine ⟨working, fun broke => ?_, coherent.phased.opened⟩
  rw [coherent.broken broke] at working
  cases working

namespace Moves

theorem mutation (moves : Moves before after) : after.mutation = before.mutation := by
  cases moves <;> rfl

theorem preparedRoots (moves : Moves before after) :
    after.preparedRoots = before.preparedRoots := by
  cases moves <;> rfl

theorem nextToken (moves : Moves before after) : after.nextToken = before.nextToken := by
  cases moves <;> rfl

theorem references (moves : Moves before after) : SameReferences before.host after.host := by
  cases moves with
  | stays => exact .refl _
  | prepares idle made => exact (prepareAttempt_prepared made).references
  | binds bound =>
      rw [bindAttempt_frame bound]
      exact ⟨rfl, rfl, rfl, rfl, rfl⟩
  | discards candidate isPending => exact ⟨rfl, rfl, rfl, rfl, rfl⟩
  | breaks degraded => exact degraded.references

theorem broken_kept (moves : Moves before after) (broken : before.broken = true) :
    after.broken = true := by
  cases moves with
  | breaks degraded => rfl
  | stays | prepares _ _ | binds _ | discards _ _ => exact broken

theorem later (moves : Moves before after) :
    before.host.nextGeneration ≤ after.host.nextGeneration := by
  cases moves with
  | stays => exact Nat.le_refl _
  | prepares idle made =>
      rw [(prepareAttempt_prepared made).later]
      exact Nat.le_succ _
  | binds bound =>
      rw [bindAttempt_frame bound]
  | discards candidate isPending => exact Nat.le_refl _
  | breaks degraded =>
      cases degraded
      · exact Nat.le_refl _
      · exact Nat.le_refl _

/-- The host keeps its pending candidate, prepares a new one or has none left. -/
theorem pending (moves : Moves before after) (working : after.broken = false) :
    after.host.pending = before.host.pending ∨
      before.mutation = none ∧ (∃ candidate, after.host.pending = some candidate ∧
        candidate.handle.generation = before.host.nextGeneration) ∨
      after.host.pending = none ∧ ∃ candidate, before.host.pending = some candidate := by
  cases moves with
  | stays => exact .inl rfl
  | prepares idle made =>
      have prepared := prepareAttempt_prepared made
      exact .inr (.inl ⟨idle, _, prepared.isPending, prepared.generation⟩)
  | binds bound =>
      rw [bindAttempt_frame bound]
      exact .inl rfl
  | discards candidate isPending =>
      exact .inr (.inr ⟨rfl, candidate, (requirePending_isPending isPending).1⟩)
  | breaks degraded => cases working

theorem coherent (moves : Moves before after) (coherent : Coherent before) : Coherent after := by
  have references := moves.references
  have receipts := moves.preparedRoots ▸ coherent.receipts
  cases moves with
  | stays => exact coherent
  | @prepares fence preparation next candidate idle made =>
      have prepared := prepareAttempt_prepared made
      have held := prepare_exact coherent.exact fence preparation
      rw [prepare, made] at held
      refine ⟨held, ⟨fun _ _ => prepared.preparing, fun empty => ?_, fun closed => ?_⟩,
        fun broken => ?_, receipts⟩
      · rw [prepared.preparing] at empty
        cases empty
      · rw [prepared.preparing] at closed
        cases closed
      · rw [prepared.preparing] at broken
        cases broken
  | @binds fence candidate debugView next bound =>
      have held := bindCandidateDebugView_exact coherent.exact fence candidate debugView
      rw [bindCandidateDebugView, bound] at held
      refine ⟨held, ?_, ?_, receipts⟩
      · rw [bindAttempt_frame bound]
        exact ⟨coherent.phased.preparing, coherent.phased.empty, coherent.phased.opened⟩
      · rw [bindAttempt_frame bound]
        exact coherent.broken
  | discards candidate isPending =>
      have preparing := (requirePending_isPending isPending).2
      refine ⟨forgetPending_exact coherent.exact candidate (by rw [preparing]; decide),
        ⟨fun _ impossible => (nomatch impossible), fun empty => ?_, fun closed => ?_⟩,
        fun broken => ?_, receipts⟩
      · cases active : before.host.activeGeneration with
        | none => exact active
        | some generation => simp [forgetPending, active] at empty
      · simp only [forgetPending] at closed
        split at closed <;> cases closed
      · simp only [forgetPending] at broken
        split at broken <;> cases broken
  | breaks degraded =>
      cases degraded with
      | same => exact ⟨coherent.exact, coherent.phased, fun _ => rfl, receipts⟩
      | broken holds =>
          exact ⟨setBroken_exact coherent.exact holds,
            ⟨fun _ impossible => (nomatch impossible), fun impossible => (nomatch impossible),
              fun impossible => (nomatch impossible)⟩, fun _ => rfl, receipts⟩

end Moves

theorem Reserves.coherent {purpose : Purpose naming} (reserves : Reserves before purpose after)
    (coherent : Coherent before) : Coherent after := by
  rw [reserves.reserved]
  exact ⟨coherent.exact, coherent.phased, coherent.broken, coherent.receipts⟩

/-- The mutation is of no account for coherence. -/
theorem Coherent.withMutation (coherent : Coherent before) (mutation : Option (Mutation naming)) :
    Coherent { before with mutation := mutation } :=
  ⟨coherent.exact, coherent.phased, coherent.broken, coherent.receipts⟩

theorem Coherent.forgetRoot (coherent : Coherent before) (transactionId : TransactionId) :
    Coherent { before with preparedRoots := before.preparedRoots.erase transactionId } := by
  refine ⟨coherent.exact, coherent.phased, coherent.broken, fun other candidate receipt stored => ?_⟩
  have kept := (Dictionary.mem_eraseAll.1 (Dictionary.get?_eq_some.1 stored)).2
  exact coherent.receipts other candidate receipt (Dictionary.get?_eq_some.2 kept)

theorem Coherent.confirmed (coherent : Coherent before) {fence : Nat × Nat}
    {candidate : WorkerUniverseCandidate naming} {receipt : WorkerPromotionReceipt}
    {next : WorkerUniverseRegistry naming V} {confirmation : WorkerGenerationConfirmation}
    (confirmed : before.host.confirmAttempt fence candidate receipt = .ok (next, confirmation)) :
    Coherent { before with host := next } := by
  obtain ⟨_, none, ready, _, _⟩ := confirmAttempt_root confirmed
  have held := confirm_exact coherent.exact fence candidate receipt
  rw [confirm, confirmed] at held
  refine ⟨held, ⟨fun candidate isPending => ?_, fun empty => ?_, fun closed => ?_⟩,
    fun broken => ?_, coherent.receipts⟩
  · rw [none] at isPending
    cases isPending
  · rw [ready] at empty
    cases empty
  · rw [ready] at closed
    cases closed
  · rw [ready] at broken
    cases broken

theorem Coherent.released [DecidableEq V] (coherent : Coherent before)
    (planFence fence previewFence : Nat × Nat) (release : Release naming) :
    Coherent { before with
      host := (before.host.directRelease planFence fence previewFence release).registry } := by
  have keeps := directRelease_keeps coherent.exact planFence fence previewFence release
  refine ⟨directRelease_exact coherent.exact planFence fence previewFence release,
    ⟨?_, ?_, ?_⟩, ?_, coherent.receipts⟩
  · rw [keeps.pending, keeps.phase]
    exact coherent.phased.preparing
  · rw [keeps.active, keeps.phase]
    exact coherent.phased.empty
  · rw [keeps.phase]
    exact coherent.phased.opened
  · rw [keeps.phase]
    exact coherent.broken

end ServerWorkerUniverseRegistry

end OnecRuntime.Publication
