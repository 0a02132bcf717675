import OnecRuntime.Proxies.Tracking

/-!
# The law of a run

What every run of calls keeps, and the law of its registry: proxies resolve to live
records under their own name and fence, exact ones only while they are the newest, and
rollbacks, failed batches and restored snapshots undo what they should.
-/

namespace OnecRuntime.Proxies

open OnecRuntime.Library

variable {carriers : Carriers} {world : World carriers}

/-- No registration of the name is newer. -/
def Newest (registry : ProxyRegistry carriers) (descriptor : ProxyDescriptor carriers) : Prop :=
  ∀ {proxyId record}, registry.records.get? proxyId = some record → record.exactAnchorId = none →
    record.descriptor.key = descriptor.key → record.descriptor.version ≤ descriptor.version

/-- The record of an answer, for a proxy with a certain record. -/
structure AnswerOf (registry : ProxyRegistry carriers) (record : ProxyRecord carriers)
    (answer : ProxyDescriptor carriers) : Prop where
  live : ∃ current, registry.records.get? answer.proxyId = some current ∧
    current.descriptor = answer ∧ current.Live
  name : answer.key = record.descriptor.key
  fence : answer.fence = record.descriptor.fence
  own : answer = record.descriptor ∨
    record.descriptor.consistency = .latest ∧ Newest registry answer
  exact : record.descriptor.consistency = .exact → Newest registry answer

/-- Two registries answer alike about the proxies that are not set apart. -/
structure AnswersAlike (aliased : List ProxyId) (first second : ProxyRegistry carriers) : Prop where
  resolve : ∀ {proxyId}, proxyId ∉ aliased → first.resolve proxyId = second.resolve proxyId
  current : ∀ realm, first.current realm = second.current realm
  resolveName : ∀ qualifiedName, first.resolveName qualifiedName = second.resolveName qualifiedName
  history : ∀ qualifiedName, first.history qualifiedName = second.history qualifiedName

/-- Proxies cross neither a generation nor a rollback; `allowed` says which calls are made. -/
structure ProxyLaw (allowed : World carriers → Call carriers → Prop) (world : World carriers) :
    Prop where
  resolves : ∀ {proxyId record}, world.registry.records.get? proxyId = some record →
    (∃ failure, world.registry.resolve proxyId = .error failure ∧ failure.Expected) ∨
      ∃ answer, world.registry.resolve proxyId = .ok answer ∧
        AnswerOf world.registry record answer
  distinct : ∀ {first second firstRecord secondRecord},
    world.registry.records.get? first = some firstRecord →
    world.registry.records.get? second = some secondRecord →
    firstRecord.exactAnchorId = none → secondRecord.exactAnchorId = none →
    firstRecord.descriptor.key = secondRecord.descriptor.key →
    firstRecord.descriptor.version = secondRecord.descriptor.version → first = second
  batch : ∀ {entries failure},
    (world.registry.registerContextBatch world.drawn entries).1 = .error failure →
    (world.registry.registerContextBatch world.drawn entries).2 = world.registry
  /-- A rollback leaves the answers of the same calls without the publication. -/
  rollback : ∀ {token checkpoint},
    world.registry.requireCapturePublication token = .ok checkpoint →
    allowed world (.rollbackCapturePublication token) →
    AnswersAlike world.aliased (world.registry.rollbackCapturePublication token).2 world.plain
  restore : ∀ {index snapshot}, world.snapshots[index]? = some snapshot →
    allowed world (.restoreCaptureState index) →
    Revived snapshot world.registry (world.registry.restoreCaptureState snapshot.saved)
  /-- A proxy of an invalidated generation stays stale. -/
  doomed : ∀ {proxyId record}, proxyId ∈ world.doomed →
    world.registry.records.get? proxyId = some record → record.stale = true

/-! ## What every run keeps -/

structure Sound (world : World carriers) : Prop where
  shaded : Shaded world
  tracked : ∃ origin, Tracks world origin

theorem Sound.opened (carriers : Carriers) : Sound (World.opened carriers) :=
  ⟨⟨Consistent.new 0, Consistent.new 0, fun impossible => by cases impossible⟩,
    fun _ => none, Tracks.opened carriers⟩

variable {call : Call carriers}

/-- The records of a restored snapshot are known. -/
theorem saved_known (allowed : Undoes world call) {proxyId : ProxyId}
    (member : proxyId ∈ (world.saved call).keys) : proxyId ∈ world.registry.records.keys := by
  cases call with
  | restoreCaptureState index =>
      change proxyId ∈ ((world.snapshots[index]?).elim Dictionary.empty (·.saved)).keys at member
      cases indexed : world.snapshots[index]? with
      | none =>
          rw [indexed] at member
          cases member
      | some snapshot =>
          rw [indexed] at member
          exact (allowed indexed).known member
  | _ => cases member

theorem next_consistent (sound : Sound world)
    (allowed : Undoes world call) : Consistent (world.drawn + call.draws) (world.next call) := by
  by_cases other : ∀ token, call ≠ .rollbackCapturePublication token
  · exact sound.shaded.consistent.perform other (saved_known allowed)
  · obtain ⟨token, is⟩ := not_forall.1 other
    have is := not_not.1 is
    subst is
    change Consistent (world.drawn + 1) (world.registry.rollbackCapturePublication token).2
    unfold ProxyRegistry.rollbackCapturePublication
    split
    · exact sound.shaded.consistent.later (Nat.le_succ _)
    · next checkpoint required =>
        obtain ⟨undisturbed, named⟩ := allowed required
        have shadows := sound.shaded.shadows (requireCapturePublication_ok required) undisturbed
        exact (shadows.rewound_consistent sound.shaded.consistent sound.shaded.consistentPlain
          named).later (Nat.le_succ _)

theorem nextPlain_consistent (sound : Sound world) (call : Call carriers) :
    Consistent (world.drawn + call.draws) (world.nextPlain call) := by
  have kept := sound.shaded.consistentPlain.later (Nat.le_add_right world.drawn call.draws)
  have performed : (∀ token, call ≠ .rollbackCapturePublication token) →
      Consistent (world.drawn + call.draws)
        (world.plain.perform world.drawn (world.plainSaved call) call) := by
    intro other
    refine sound.shaded.consistentPlain.perform other fun member => ?_
    obtain ⟨record, found⟩ := Dictionary.mem_keys.1 member
    exact of_decide_eq_true (Dictionary.get?_filterEntries_eq_some.1 found).2
  cases call with
  | beginCapturePublication captureFence =>
      change Consistent _ (if world.registry.activeCapturePublication.isNone = true then
        world.registry else world.plain)
      split
      · exact sound.shaded.consistent.later (Nat.le_succ _)
      · exact kept
  | registerFrame entry captureFence publication =>
      cases publication with
      | none => exact performed (fun _ => by simp)
      | some token => exact kept
  | commitCapturePublication token => exact kept
  | rollbackCapturePublication token => exact kept
  | _ => exact performed (fun _ => by simp)

theorem next_tracks (sound : Sound world) (allowed : Undoes world call) :
    ∃ origin, Tracks (world.perform call) origin := by
  obtain ⟨origin, tracks⟩ := sound.tracked
  have grows : world.drawn ≤ (world.perform call).drawn := Nat.le_add_right _ _
  have consistent := sound.shaded.consistent
  have same : ∀ {other : ProxyRegistry carriers}, other = world.registry →
      Quiet world.drawn (world.drawn + call.draws) world.registry other :=
    fun is => (Added.of_same _ (by rw [is])).quiet
  cases call with
  | registerContext entry => exact tracks.quiet grows (Added.register none _).quiet rfl rfl
  | registerPython arguments generation =>
      exact tracks.quiet grows (Added.register none _).quiet rfl rfl
  | registerFrame entry captureFence publication =>
      exact tracks.quiet grows (Added.register publication _).quiet rfl rfl
  | registerContextBatch entries =>
      exact tracks.quiet grows (Added.batch consistent entries).quiet rfl rfl
  | snapshotExact proxyId =>
      exact tracks.quiet grows (Added.snapshotExact consistent proxyId).quiet rfl rfl
  | release proxyId => exact tracks.quiet grows (Quiet.release _ proxyId) rfl rfl
  | releaseResolved proxyId => exact tracks.quiet grows (Quiet.releaseResolved _ proxyId) rfl rfl
  | invalidateRuntimeGeneration runtimeId generation =>
      cases outcome : world.registry.invalidateRuntimeGeneration runtimeId generation with
      | mk result next =>
          have registry : (world.perform (.invalidateRuntimeGeneration runtimeId
              generation)).registry = next := congrArg Prod.snd outcome
          have doomed : (world.perform (.invalidateRuntimeGeneration runtimeId
              generation)).doomed = world.nextDoomed (.invalidateRuntimeGeneration runtimeId
                generation) := rfl
          unfold World.nextDoomed at doomed
          simp only [outcome] at doomed
          unfold ProxyRegistry.invalidateRuntimeGeneration at outcome
          split at outcome
          · cases outcome
            exact tracks.quiet grows (same registry) rfl doomed
          · cases outcome
            exact ⟨origin, tracks.dooms _ consistent grows registry rfl doomed⟩
  | invalidatePythonGeneration generation =>
      cases outcome : world.registry.invalidatePythonGeneration generation with
      | mk result next =>
          have registry : (world.perform (.invalidatePythonGeneration generation)).registry =
              next := congrArg Prod.snd outcome
          have doomed : (world.perform (.invalidatePythonGeneration generation)).doomed =
              world.nextDoomed (.invalidatePythonGeneration generation) := rfl
          unfold World.nextDoomed at doomed
          simp only [outcome] at doomed
          unfold ProxyRegistry.invalidatePythonGeneration at outcome
          split at outcome
          · cases outcome
            exact tracks.quiet grows (same registry) rfl doomed
          · cases outcome
            exact ⟨origin, tracks.dooms _ consistent grows registry rfl doomed⟩
  | invalidateCaptureFence captureFence =>
      exact ⟨origin, tracks.expires grows captureFence rfl rfl rfl⟩
  | beginCapturePublication captureFence =>
      refine tracks.quiet grows (Added.of_same _ ?_).quiet rfl rfl
      change (world.registry.beginCapturePublication world.drawn captureFence).2.records = _
      unfold ProxyRegistry.beginCapturePublication
      split <;> rfl
  | commitCapturePublication token =>
      refine tracks.quiet grows (Added.of_same _ ?_).quiet rfl rfl
      change (world.registry.commitCapturePublication token).2.records = _
      unfold ProxyRegistry.commitCapturePublication
      split <;> rfl
  | rollbackCapturePublication token =>
      refine tracks.quiet grows (Added.quiet ?_) rfl rfl
      change Added _ _ _ (world.registry.rollbackCapturePublication token).2
      unfold ProxyRegistry.rollbackCapturePublication
      split
      · exact Added.of_same _ rfl
      · exact Added.rewound _ _
  | captureStateSnapshot captureFence =>
      exact ⟨origin, tracks.snapshots consistent grows captureFence rfl rfl rfl⟩
  | restoreCaptureState index =>
      cases indexed : world.snapshots[index]? with
      | none =>
          have kept : (world.perform (.restoreCaptureState index)).snapshots = world.snapshots := by
            change world.nextSnapshots (.restoreCaptureState index) = world.snapshots
            simp only [World.nextSnapshots, indexed]
          refine tracks.quiet grows (Added.of_same _ ?_).quiet kept rfl
          change (world.registry.restoreCaptureState
            (world.saved (.restoreCaptureState index))).records = _
          simp only [World.saved, indexed]
          rfl
      | some snapshot =>
          refine ⟨origin, tracks.restores grows indexed (allowed indexed) ?_ rfl rfl⟩
          change world.registry.restoreCaptureState
            (world.saved (.restoreCaptureState index)) = _
          simp only [World.saved, indexed]
          rfl

theorem Sound.perform (sound : Sound world) (allowed : Undoes world call) :
    Sound (world.perform call) :=
  ⟨⟨next_consistent sound allowed, nextPlain_consistent sound call,
    fun active calm => perform_shadows sound.shaded (saved_known allowed) calm active⟩,
    next_tracks sound allowed⟩

/-! ## The law -/

theorem Consistent.newest {drawn : Nat} {registry : ProxyRegistry carriers}
    (consistent : Consistent drawn registry) {currentId : ProxyId} {current : ProxyRecord carriers}
    (bound : registry.bindings.get? current.descriptor.key = some currentId)
    (found : registry.records.get? currentId = some current) :
    Newest registry current.descriptor := by
  intro proxyId record known registered key
  obtain ⟨_, is, _, _, version⟩ := consistent.registered bound
  rw [found] at is
  cases is
  obtain ⟨last, held, most⟩ := consistent.versioned known registered
  rw [key, version] at held
  cases held
  exact most

theorem Consistent.answer {drawn : Nat} {registry : ProxyRegistry carriers}
    (consistent : Consistent drawn registry) {proxyId : ProxyId} {record : ProxyRecord carriers}
    {answer : ProxyDescriptor carriers} (known : registry.records.get? proxyId = some record)
    (live : record.Live) (which : Resolution registry proxyId record answer) :
    AnswerOf registry record answer := by
  cases which with
  | @snapshot anchorId anchor anchored bound found anchorLive same =>
      subst same
      obtain ⟨registered, _, describes⟩ := (consistent.exact known anchored).2.2 found
      have key : anchor.descriptor.key = record.descriptor.key := by
        rw [describes]
        rfl
      have newest : Newest registry anchor.descriptor := by
        refine consistent.newest ?_ found
        rw [key]
        exact bound
      have own : Newest registry record.descriptor := by
        intro other otherRecord otherKnown otherRegistered otherKey
        rw [describes]
        exact newest otherKnown otherRegistered (otherKey.trans key.symm)
      exact ⟨⟨record, by rw [consistent.own known]; exact known, rfl, live⟩, rfl, rfl, .inl rfl,
        fun _ => own⟩
  | binding plain bound same =>
      subst same
      exact ⟨⟨record, by rw [consistent.own known]; exact known, rfl, live⟩, rfl, rfl, .inl rfl,
        fun _ => consistent.newest bound known⟩
  | @latest currentId current plain latest bound found currentLive fence same =>
      subst same
      obtain ⟨_, is, _, key, _⟩ := consistent.registered bound
      rw [found] at is
      cases is
      have newest : Newest registry current.descriptor := by
        refine consistent.newest ?_ found
        rw [key]
        exact bound
      have consistency : record.descriptor.consistency = .latest := by
        cases kind : record.descriptor.consistency with
        | exact => exact absurd kind latest
        | latest => rfl
      exact ⟨⟨current, by rw [consistent.own found]; exact found, rfl, currentLive⟩, key, fence,
        .inr ⟨consistency, newest⟩, fun _ => newest⟩

theorem Sound.law (sound : Sound world) : ProxyLaw Undoes world := by
  obtain ⟨origin, tracks⟩ := sound.tracked
  have consistent := sound.shaded.consistent
  refine ⟨fun known => ?_, consistent.distinct, batch_failed consistent, fun required allowed => ?_,
    fun indexed allowed => restore_revives (mem_of_index indexed) tracks (allowed indexed),
    fun member => (tracks.doomed member).2⟩
  · rcases consistent.resolve_cases known with failed | ⟨answer, is, live, which⟩
    · exact .inl failed
    · exact .inr ⟨answer, is, consistent.answer known live which⟩
  · have shadows := sound.shaded.shadows (requireCapturePublication_ok required) (allowed required).1
    have consistentPlain := sound.shaded.consistentPlain
    unfold ProxyRegistry.rollbackCapturePublication
    rw [required]
    exact ⟨shadows.rewound_resolve consistent consistentPlain,
      shadows.rewound_current consistentPlain,
      shadows.rewound_resolveName consistent consistentPlain, shadows.rewound_history⟩

/-- In every run that rolls back undisturbed publications and restores fitting snapshots,
proxies cross neither a generation nor a rollback. -/
theorem proxy_law {signals : List Unit}
    (run : Run Step Undoes (World.opened carriers) signals world) : ProxyLaw Undoes world := by
  refine Sound.law (run.keeps (Sound.opened carriers) ?_)
  intro emitted state next call sound allowed taken
  rw [taken.1]
  exact sound.perform allowed

/-! ## Runs -/

def plainCarriers : Carriers := ⟨Nat, Nat, Unit, id, instDecidableEqNat⟩

/-- A publication without aliases is undisturbed when no other call went through its names. -/
theorem undisturbed_of_plain {token : Nat} (calm : world.disturbed = false)
    (plain : world.registry.records.entries.all (fun entry => entry.2.exactAnchorId.isNone) =
      true) : Undisturbed world token := by
  refine fun _ => ⟨calm, fun found anchored => ?_⟩
  have none := List.all_eq_true.1 plain _ (Dictionary.get?_eq_some.1 found)
  rw [anchored] at none
  cases none

/-- A snapshot of live records fits as long as no generation is lost and no record rolled back. -/
theorem fits_of_live {snapshot : Snapshot carriers}
    (known : ∀ proxyId ∈ snapshot.saved.keys, proxyId ∈ world.registry.records.keys)
    (undoomed : world.doomed = [])
    (live : snapshot.saved.entries.all (fun entry => !entry.2.stale) = true)
    (covered : ∀ proxyId ∈ snapshot.expired, proxyId ∈ snapshot.saved.keys) :
    Fits world snapshot := by
  have fresh : ∀ {proxyId saved}, snapshot.saved.get? proxyId = some saved →
      saved.stale = false := by
    intro proxyId saved found
    simpa using List.all_eq_true.1 live _ (Dictionary.get?_eq_some.1 found)
  refine ⟨fun {_} => known _, fun _ _ => ?_, fun expired _ => ?_, fun found stale => ?_⟩
  · rw [undoomed]
    exact List.not_mem_nil
  · obtain ⟨saved, found⟩ := Dictionary.mem_keys.1 (covered _ expired)
    exact ⟨saved, found, fresh found⟩
  · rw [fresh found] at stale
    cases stale

/-- A value of the context or of a frame. -/
def plainEntry (qualifiedName : String) : ContextEntry plainCarriers :=
  ⟨⟨text qualifiedName, text "Number", .latest, some (7 : Nat), [], ()⟩, text "runtime", 1, 1⟩

/-- A frame value is rolled back beside a registration of another name, and an invalidation of
its fence is undone. -/
theorem rolled_back_and_restored_law :
    ∃ signals world, Run Step Undoes (World.opened plainCarriers) signals world ∧
      world.registry.records.keys = [1, 3] ∧
      (world.registry.records.get? 3).map (·.stale) = some false ∧ ProxyLaw Undoes world := by
  have run : Run Step Undoes (World.opened plainCarriers) _ _ := .start
  have run := run.further
    (show Step _ (.beginCapturePublication (0 : Nat)) _ _ from ⟨rfl, rfl⟩) trivial
  have run := run.further
    (show Step _ (.registerContext (plainEntry "bsl.total")) _ _ from ⟨rfl, rfl⟩) trivial
  have run := run.further (show Step _ (.registerFrame (plainEntry "bsl.row") (0 : Nat) (some 0)) _ _
    from ⟨rfl, rfl⟩) trivial
  have run := run.further (show Step _ (.registerFrame (plainEntry "bsl.row2") (0 : Nat) none) _ _
    from ⟨rfl, rfl⟩) trivial
  have run := run.further
    (show Step _ (.rollbackCapturePublication 0) _ _ from ⟨rfl, rfl⟩) (undisturbed_of_plain (by decide +kernel) (by decide +kernel))
  have run := run.further
    (show Step _ (.captureStateSnapshot (0 : Nat)) _ _ from ⟨rfl, rfl⟩) trivial
  have run := run.further
    (show Step _ (.invalidateCaptureFence (0 : Nat)) _ _ from ⟨rfl, rfl⟩) trivial
  have run := run.further (show Step _ (.restoreCaptureState 0) _ _ from ⟨rfl, rfl⟩) (by
    rintro _ ⟨⟩
    exact fits_of_live (by decide +kernel) (by decide +kernel) (by decide +kernel)
      (by decide +kernel))
  exact ⟨_, _, run, by decide +kernel, by decide +kernel, proxy_law run⟩

def Anything (_ : World carriers) (_ : Call carriers) : Prop := True

/-- A rollback that takes away the binding of another registration leaves a proxy that cannot be
resolved, and a restored snapshot revives a proxy of an invalidated generation. -/
theorem overtaken_rollback_breaks_law :
    (∃ signals world, Run Step Anything (World.opened plainCarriers) signals world ∧
      world.registry.records.keys = [2] ∧
      world.registry.resolve 2 = .error .keyError ∧ ¬ProxyLaw Anything world) ∧
    ∃ signals world, Run Step Anything (World.opened plainCarriers) signals world ∧
      world.doomed = [0] ∧ ¬ProxyLaw Anything world := by
  constructor
  · have run : Run Step Anything (World.opened plainCarriers) _ _ := .start
    have run := run.further
      (show Step _ (.beginCapturePublication (0 : Nat)) _ _ from ⟨rfl, rfl⟩) trivial
    have run := run.further (show Step _ (.registerFrame (plainEntry "bsl.row") (0 : Nat) (some 0)) _
      _ from ⟨rfl, rfl⟩) trivial
    have run := run.further
      (show Step _ (.registerContext (plainEntry "bsl.row")) _ _ from ⟨rfl, rfl⟩) trivial
    have run := run.further
      (show Step _ (.rollbackCapturePublication 0) _ _ from ⟨rfl, rfl⟩) trivial
    refine ⟨_, _, run, by decide +kernel, rfl, fun law => ?_⟩
    rcases @ProxyLaw.resolves _ _ _ law 2 _ rfl with ⟨failure, is, expected⟩ | ⟨answer, is, _⟩
    · cases is
      exact expected
    · cases is
  · have run : Run Step Anything (World.opened plainCarriers) _ _ := .start
    have run := run.further (show Step _ (.registerFrame (plainEntry "bsl.row") (0 : Nat) none) _ _
      from ⟨rfl, rfl⟩) trivial
    have run := run.further
      (show Step _ (.captureStateSnapshot (0 : Nat)) _ _ from ⟨rfl, rfl⟩) trivial
    have run := run.further (show Step _ (.invalidateRuntimeGeneration (text "runtime") 1) _ _
      from ⟨rfl, rfl⟩) trivial
    have run := run.further (show Step _ (.restoreCaptureState 0) _ _ from ⟨rfl, rfl⟩) trivial
    refine ⟨_, _, run, by decide +kernel, fun law => ?_⟩
    have stale := @ProxyLaw.doomed _ _ _ law 0 _ (by decide +kernel) rfl
    cases stale

end OnecRuntime.Proxies
