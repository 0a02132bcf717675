import OnecRuntime.Proxies.Rollback

/-!
# A world beside its publication

Every call of a run keeps the registry consistent and, as long as the active publication
is undisturbed, its relation to the registry without the publication.
-/

namespace OnecRuntime.Proxies

open OnecRuntime.Library

variable {carriers : Carriers} {world : World carriers}
  {checkpoint : CapturePublicationCheckpoint carriers}

structure Shaded (world : World carriers) : Prop where
  consistent : Consistent world.drawn world.registry
  consistentPlain : Consistent world.drawn world.plain
  shadows : ∀ {checkpoint}, world.registry.activeCapturePublication = some checkpoint →
    world.disturbed = false →
    Shadows world.drawn world.registry world.plain world.aliased checkpoint

theorem World.touchedKeys_active
    (active : world.registry.activeCapturePublication = some checkpoint) :
    world.touchedKeys = checkpoint.bindingsBefore.keys := by
  unfold World.touchedKeys
  rw [active]
  rfl

theorem World.createdIds_active
    (active : world.registry.activeCapturePublication = some checkpoint) :
    world.createdIds = checkpoint.createdProxyIds := by
  unfold World.createdIds
  rw [active]
  rfl

variable {call : Call carriers}

/-- A call beside the publication that does not overtake it leaves the bindings of its names. -/
theorem not_overtaken (outside : call.publishes = false)
    (calm : world.overtakes call = false) {key : BindingKey} (touched : key ∈ world.touchedKeys) :
    (world.next call).bindings.get? key = world.registry.bindings.get? key := by
  unfold World.overtakes at calm
  rw [outside] at calm
  have every := List.any_eq_false.1 (show world.touchedKeys.any _ = false from calm) key touched
  exact not_not.1 fun differs => every (decide_eq_true differs)

/-- No other call starts a publication. -/
theorem perform_inactive {registry : ProxyRegistry carriers} {drawn : Nat}
    {saved : Dictionary ProxyId (ProxyRecord carriers)}
    (inactive : registry.activeCapturePublication = none)
    (other : ∀ captureFence, call ≠ .beginCapturePublication captureFence)
    (consistent : Consistent drawn registry) :
    (registry.perform drawn saved call).activeCapturePublication = none := by
  have unpublished : ∀ registration,
      (registry.register drawn none registration).2.activeCapturePublication = none := by
    intro registration
    by_cases accepted : registration.Accepted
    · rw [register_accepted accepted]
      exact inactive
    · obtain ⟨failure, is⟩ := register_refused accepted registry drawn
      rw [is]
      exact inactive
  have unfound : ∀ token, registry.requireCapturePublication token = .error .invalidCheckpoint := by
    intro token
    unfold ProxyRegistry.requireCapturePublication
    rw [inactive]
  cases call with
  | registerContext entry => exact unpublished _
  | registerPython arguments generation => exact unpublished _
  | registerFrame entry captureFence publication =>
      cases publication with
      | none => exact unpublished _
      | some token =>
          rcases register_published registry drawn token (.frame entry captureFence) with
            is | ⟨checkpoint, active, _⟩
          · exact (congrArg ProxyRegistry.activeCapturePublication is).trans inactive
          · rw [inactive] at active
            cases active
  | registerContextBatch entries =>
      obtain ⟨⟨active, _⟩, _⟩ := registerEach_extends consistent entries
      change (registry.registerContextBatch drawn entries).2.activeCapturePublication = none
      unfold ProxyRegistry.registerContextBatch
      split
      · next is =>
          rw [is] at active
          exact active.trans inactive
      · next is =>
          rw [is] at active
          exact active.trans inactive
  | snapshotExact proxyId =>
      exact (snapshotExact_grown consistent proxyId).same.2.2.trans inactive
  | release proxyId => exact (release_reflags registry proxyId).active.trans inactive
  | releaseResolved proxyId =>
      rcases releaseResolved_reflags registry proxyId with is | ⟨descriptor, _, is⟩
      · exact (congrArg ProxyRegistry.activeCapturePublication is).trans inactive
      · refine (congrArg ProxyRegistry.activeCapturePublication is).trans ?_
        exact (release_reflags registry _).active.trans inactive
  | invalidateRuntimeGeneration runtimeId generation =>
      change (registry.invalidateRuntimeGeneration runtimeId generation).2.activeCapturePublication =
        none
      unfold ProxyRegistry.invalidateRuntimeGeneration
      split
      · exact inactive
      · exact inactive
  | invalidatePythonGeneration generation =>
      change (registry.invalidatePythonGeneration generation).2.activeCapturePublication = none
      unfold ProxyRegistry.invalidatePythonGeneration
      split
      · exact inactive
      · exact inactive
  | invalidateCaptureFence captureFence => exact inactive
  | beginCapturePublication captureFence => exact absurd rfl (other captureFence)
  | commitCapturePublication token =>
      change (registry.commitCapturePublication token).2.activeCapturePublication = none
      unfold ProxyRegistry.commitCapturePublication
      rw [unfound]
      exact inactive
  | rollbackCapturePublication token =>
      change (registry.rollbackCapturePublication token).2.activeCapturePublication = none
      unfold ProxyRegistry.rollbackCapturePublication
      rw [unfound]
      exact inactive
  | captureStateSnapshot captureFence => exact inactive
  | restoreCaptureState index => exact inactive

/-! ## Calls beside the publication -/

theorem restore_shadows
    (shadows : Shadows world.drawn world.registry world.plain world.aliased checkpoint)
    {saved : Dictionary ProxyId (ProxyRecord carriers)}
    (known : ∀ {proxyId}, proxyId ∈ saved.keys → proxyId ∈ world.registry.records.keys) :
    Shadows world.drawn (world.registry.restoreCaptureState saved)
      (world.plain.restoreCaptureState (saved.filterEntries
        fun proxyId _ => decide (proxyId ∈ world.plain.records.keys))) world.aliased
      checkpoint := by
  have knownPlain : ∀ {proxyId}, proxyId ∈ (saved.filterEntries
      fun proxyId _ => decide (proxyId ∈ world.plain.records.keys)).keys →
      proxyId ∈ world.plain.records.keys := by
    intro proxyId member
    obtain ⟨record, found⟩ := Dictionary.mem_keys.1 member
    exact of_decide_eq_true (Dictionary.get?_filterEntries_eq_some.1 found).2
  refine shadows.reflags (restore_reflags known) (restore_reflags knownPlain) ?_
  intro proxyId record foreign original found
  have stored : proxyId ∈ world.plain.records.keys :=
    Dictionary.mem_keys.2 ⟨record, (shadows.records foreign original).trans found⟩
  have same : (saved.filterEntries
      fun proxyId _ => decide (proxyId ∈ world.plain.records.keys)).get? proxyId =
        saved.get? proxyId :=
    Option.ext fun value => by
      rw [Dictionary.get?_filterEntries_eq_some]
      exact ⟨And.left, fun held => ⟨held, decide_eq_true stored⟩⟩
  unfold restoredBy
  rw [same]

section

variable (shaded : Shaded world)
  (active : world.registry.activeCapturePublication = some checkpoint)
  (shadows : Shadows world.drawn world.registry world.plain world.aliased checkpoint)

include shaded shadows

theorem register_shadows {registration : Registration carriers}
    (kept : ∀ key ∈ checkpoint.bindingsBefore.keys,
      (world.registry.register world.drawn none registration).2.bindings.get? key =
        world.registry.bindings.get? key) :
    Shadows (world.drawn + 1) (world.registry.register world.drawn none registration).2
      (world.plain.register world.drawn none registration).2 world.aliased checkpoint := by
  by_cases accepted : registration.Accepted
  · rw [register_accepted accepted] at kept ⊢
    rw [register_accepted accepted]
    refine shadows.store shaded.consistent shaded.consistentPlain fun touched => ?_
    exact (BoundFrom.with (Nat.le_refl _) (.inl rfl)).differs shaded.consistent (kept _ touched)
  · obtain ⟨failure, is⟩ := register_refused accepted world.registry world.drawn
    obtain ⟨failureToo, isToo⟩ := register_refused accepted world.plain world.drawn
    rw [is, isToo]
    exact shadows.later (Nat.le_succ _)

theorem batch_shadows {entries : List (ContextEntry carriers)}
    (kept : ∀ key ∈ checkpoint.bindingsBefore.keys,
      (world.registry.registerContextBatch world.drawn entries).2.bindings.get? key =
        world.registry.bindings.get? key) :
    Shadows (world.drawn + entries.length)
      (world.registry.registerContextBatch world.drawn entries).2
      (world.plain.registerContextBatch world.drawn entries).2 world.aliased checkpoint := by
  rcases batch_cases shaded.consistent entries with ⟨accepted, is⟩ | ⟨refused, is⟩
  · rcases batch_cases shaded.consistentPlain entries with ⟨_, isToo⟩ | ⟨refused, _⟩
    · rw [is] at kept ⊢
      rw [isToo]
      refine shadows.batch shaded.consistent shaded.consistentPlain fun entry member touched => ?_
      exact (withEach_bound (Nat.le_refl _) (.inl ⟨entry, member, rfl⟩)).differs shaded.consistent
        (kept _ touched)
    · exact absurd accepted refused
  · rcases batch_cases shaded.consistentPlain entries with ⟨accepted, _⟩ | ⟨_, isToo⟩
    · exact absurd accepted refused
    · rw [is, isToo]
      exact shadows.later (Nat.le_add_right _ _)

theorem published_shadows (token : Nat) (registration : Registration carriers) :
    ∃ after, Shadows (world.drawn + 1)
      (world.registry.register world.drawn (some token) registration).2 world.plain world.aliased
      after := by
  rcases register_published world.registry world.drawn token registration with
    is | ⟨found, isActive, is | is⟩
  · rw [is]
    exact ⟨checkpoint, shadows.later (Nat.le_succ _)⟩
  · rw [shadows.active] at isActive
    cases isActive
    rw [is]
    exact ⟨_, (shadows.touch registration.key).later (Nat.le_succ _)⟩
  · rw [shadows.active] at isActive
    cases isActive
    rw [is]
    refine ⟨_, (shadows.touch registration.key).own (shaded.consistent.touch _ _)
      shaded.consistentPlain token ?_⟩
    exact Dictionary.mem_keys_touched.2 (.inl rfl)

include active

theorem snapshotExact_shadows (proxyId : ProxyId) :
    Shadows (world.drawn + 1) (world.registry.snapshotExact proxyId world.drawn).2
      (world.plain.snapshotExact proxyId world.drawn).2 (world.nextAliased (.snapshotExact proxyId))
      checkpoint := by
  have consistent := shaded.consistent
  have consistentPlain := shaded.consistentPlain
  by_cases through : (world.registry.records.get? proxyId).any
      (fun record => decide (record.descriptor.key ∈ world.touchedKeys)) = true
  · rw [show world.nextAliased (.snapshotExact proxyId) = world.aliased ++ [world.drawn] from
      if_pos through]
    exact shadows.aliasOwn consistent consistentPlain (snapshotExact_grown consistent proxyId)
      (snapshotExact_grown consistentPlain proxyId)
  · rw [show world.nextAliased (.snapshotExact proxyId) = world.aliased from if_neg through]
    have neither : (∀ {record}, world.registry.records.get? proxyId = some record →
          record.exactAnchorId ≠ none) →
        (∀ {record}, world.plain.records.get? proxyId = some record →
          record.exactAnchorId ≠ none) →
        Shadows (world.drawn + 1) (world.registry.snapshotExact proxyId world.drawn).2
          (world.plain.snapshotExact proxyId world.drawn).2 world.aliased checkpoint := by
      intro exact exactPlain
      rw [snapshotExact_alias consistent exact, snapshotExact_alias consistentPlain exactPlain]
      exact shadows.later (Nat.le_succ _)
    by_cases original : proxyId ∈ world.aliased
    · exact neither (shadows.aliases original).2.1 (shadows.aliases original).2.2.1
    · cases known : world.registry.records.get? proxyId with
      | none =>
          refine neither (by rw [known]; exact fun impossible => by cases impossible) ?_
          intro record found
          by_cases created : proxyId ∈ checkpoint.createdProxyIds
          · rw [(shadows.absent created).1] at found
            cases found
          · rw [shadows.records created original, known] at found
            cases found
      | some record =>
          have untouched : record.descriptor.key ∉ checkpoint.bindingsBefore.keys := by
            rw [← World.touchedKeys_active active]
            intro touched
            rw [known] at through
            exact through (decide_eq_true touched)
          have foreign : proxyId ∉ checkpoint.createdProxyIds :=
            fun created => untouched (shadows.createdTouched created known).2.1
          have other := shadows.untouched_other consistent untouched
          have agrees := shadows.agrees consistent consistentPlain known foreign original other
          have outside : ∀ {current : ProxyRecord carriers},
              world.registry.resolve proxyId = .ok current.descriptor →
              current.exactAnchorId = none →
              world.registry.records.get? current.descriptor.proxyId = some current →
              current.descriptor.proxyId ∉ checkpoint.createdProxyIds := by
            intro current resolved registered found created
            have touched := (shadows.createdTouched created found).2.1
            have key := consistent.answer_key known resolved
            rw [key] at touched
            exact untouched touched
          rcases snapshotExact_alike consistent agrees.resolve (fun resolved found registered =>
              (shadows.records (outside resolved registered found)
                (shadows.not_aliased found registered)).trans found) with
            ⟨is, isPlain⟩ | ⟨current, resolved, found, registered, is, isPlain⟩
          · rw [is, isPlain]
            exact shadows.later (Nat.le_succ _)
          · rw [is, isPlain]
            exact shadows.aliasBoth consistent consistentPlain
              (outside resolved registered found)

end

/-- The relation to the registry without the publication after a call that does not disturb it. -/
theorem perform_shadows (shaded : Shaded world)
    (known : ∀ {proxyId}, proxyId ∈ (world.saved call).keys →
      proxyId ∈ world.registry.records.keys)
    (calm : (world.perform call).disturbed = false)
    (active : (world.next call).activeCapturePublication = some checkpoint) :
    Shadows (world.drawn + call.draws) (world.next call) (world.nextPlain call)
      (world.nextAliased call) checkpoint := by
  cases before : world.registry.activeCapturePublication with
  | none =>
      by_cases other : ∀ captureFence, call ≠ .beginCapturePublication captureFence
      · rw [World.next, perform_inactive before other shaded.consistent] at active
        cases active
      · obtain ⟨captureFence, begins⟩ := not_forall.1 other
        have begins := not_not.1 begins
        subst begins
        have begun : world.next (.beginCapturePublication captureFence) =
            { world.registry with
              activeCapturePublication :=
                some ⟨world.drawn, captureFence, [], .empty, .empty⟩ } := by
          change (world.registry.beginCapturePublication world.drawn captureFence).2 = _
          unfold ProxyRegistry.beginCapturePublication
          rw [before]
        have plain : world.nextPlain (.beginCapturePublication captureFence) = world.registry :=
          if_pos (by rw [before]; rfl)
        have aliased : world.nextAliased (.beginCapturePublication captureFence) = [] :=
          if_pos (by rw [before]; rfl)
        rw [begun] at active ⊢
        cases active
        rw [plain, aliased]
        exact Shadows.begun world.registry world.drawn captureFence
  | some current =>
      have undisturbed : world.disturbed = false := by
        cases call with
        | beginCapturePublication captureFence =>
            have calm : (world.registry.activeCapturePublication.isSome && world.disturbed) =
              false := calm
            rw [before] at calm
            exact calm
        | _ => exact (Bool.or_eq_false_iff.1 (Bool.or_eq_false_iff.1 calm).1).1
      have shadows := shaded.shadows before undisturbed
      have kept : call.publishes = false → ∀ key ∈ current.bindingsBefore.keys,
          (world.next call).bindings.get? key = world.registry.bindings.get? key := by
        intro outside key touched
        rw [← World.touchedKeys_active before] at touched
        refine not_overtaken outside ?_ touched
        unfold World.overtakes
        cases call with
        | beginCapturePublication captureFence => cases outside
        | _ => exact (Bool.or_eq_false_iff.1 (Bool.or_eq_false_iff.1 calm).1).2
      suffices ∃ after, Shadows (world.drawn + call.draws) (world.next call) (world.nextPlain call)
          (world.nextAliased call) after by
        obtain ⟨after, whole⟩ := this
        rw [whole.active] at active
        cases active
        exact whole
      have more := Nat.le_succ world.drawn
      cases call with
      | registerContext entry => exact ⟨_, register_shadows shaded shadows (kept rfl)⟩
      | registerPython arguments generation => exact ⟨_, register_shadows shaded shadows (kept rfl)⟩
      | registerFrame entry captureFence publication =>
          cases publication with
          | none => exact ⟨_, register_shadows shaded shadows (kept rfl)⟩
          | some token => exact published_shadows shaded shadows token (.frame entry captureFence)
      | registerContextBatch entries => exact ⟨_, batch_shadows shaded shadows (kept rfl)⟩
      | snapshotExact proxyId => exact ⟨_, snapshotExact_shadows shaded before shadows proxyId⟩
      | release proxyId =>
          exact ⟨_, (shadows.reflags (release_reflags _ _) (release_reflags _ _)
            fun _ _ _ => rfl).later more⟩
      | releaseResolved proxyId =>
          refine ⟨_, (shadows.releaseResolved shaded.consistent shaded.consistentPlain ?_).later more⟩
          intro foreign record found currentId created bound
          have direct := (Bool.or_eq_false_iff.1 calm).2
          unfold World.redirects at direct
          rw [World.createdIds_active before] at direct
          simp [foreign, found, bound, created] at direct
      | invalidateRuntimeGeneration runtimeId generation =>
          refine ⟨current, ?_⟩
          change Shadows (world.drawn + 1)
            (world.registry.invalidateRuntimeGeneration runtimeId generation).2
            (world.plain.invalidateRuntimeGeneration runtimeId generation).2 world.aliased current
          unfold ProxyRegistry.invalidateRuntimeGeneration
          split
          · exact shadows.later more
          · exact (shadows.reflags (invalidate_reflags _ _) (invalidate_reflags _ _)
              fun _ _ _ => rfl).later more
      | invalidatePythonGeneration generation =>
          refine ⟨current, ?_⟩
          change Shadows (world.drawn + 1) (world.registry.invalidatePythonGeneration generation).2
            (world.plain.invalidatePythonGeneration generation).2 world.aliased current
          unfold ProxyRegistry.invalidatePythonGeneration
          split
          · exact shadows.later more
          · exact (shadows.reflags (invalidate_reflags _ _) (invalidate_reflags _ _)
              fun _ _ _ => rfl).later more
      | invalidateCaptureFence captureFence =>
          exact ⟨_, (shadows.reflags (invalidate_reflags _ _) (invalidate_reflags _ _)
            fun _ _ _ => rfl).later more⟩
      | beginCapturePublication captureFence =>
          have refused : world.next (.beginCapturePublication captureFence) = world.registry := by
            change (world.registry.beginCapturePublication world.drawn captureFence).2 = _
            unfold ProxyRegistry.beginCapturePublication
            rw [before]
          have plain : world.nextPlain (.beginCapturePublication captureFence) = world.plain :=
            if_neg (by rw [before]; exact Bool.false_ne_true)
          have aliased : world.nextAliased (.beginCapturePublication captureFence) =
              world.aliased := if_neg (by rw [before]; exact Bool.false_ne_true)
          rw [refused, plain, aliased]
          exact ⟨current, shadows.later more⟩
      | commitCapturePublication token =>
          refine ⟨current, ?_⟩
          change (world.registry.commitCapturePublication token).2.activeCapturePublication = _
            at active
          change Shadows (world.drawn + 1) (world.registry.commitCapturePublication token).2
            world.plain world.aliased current
          unfold ProxyRegistry.commitCapturePublication at active ⊢
          split
          · exact shadows.later more
          · next is =>
              rw [is] at active
              cases active
      | rollbackCapturePublication token =>
          refine ⟨current, ?_⟩
          change (world.registry.rollbackCapturePublication token).2.activeCapturePublication = _
            at active
          change Shadows (world.drawn + 1) (world.registry.rollbackCapturePublication token).2
            world.plain world.aliased current
          unfold ProxyRegistry.rollbackCapturePublication at active ⊢
          split
          · exact shadows.later more
          · next is =>
              rw [is] at active
              cases active
      | captureStateSnapshot captureFence => exact ⟨_, shadows.later more⟩
      | restoreCaptureState index =>
          exact ⟨_, (restore_shadows shadows known).later more⟩

end OnecRuntime.Proxies
