import OnecRuntime.Proxies.Answers

/-!
# Snapshots and invalidations

What a run knows of every snapshot: the records that it has are as they were, apart from
releases and from what an invalidation of its fence has expired since. A record that has
lost its generation stays stale.
-/

namespace OnecRuntime.Proxies

open OnecRuntime.Library

variable {carriers : Carriers} {world : World carriers}

/-- The handle of a record, which is gone when it is stale or released. -/
def ProxyRecord.Holds (record : ProxyRecord carriers) (origin : Option carriers.Handle) : Prop :=
  record.resolverHandle = if record.stale || record.released then none else origin

/-- How a record of a snapshot is related to the record as it is. -/
structure Kept (doomed : List ProxyId) (expired : List ProxyId) (proxyId : ProxyId)
    (saved current : ProxyRecord carriers) : Prop where
  descriptor : current.descriptor = saved.descriptor
  released : saved.released = true → current.released = true
  stale : saved.stale = false → proxyId ∉ doomed → (current.stale = true ↔ proxyId ∈ expired)

structure Tracks (world : World carriers) (origin : ProxyId → Option carriers.Handle) : Prop where
  doomed : ∀ {proxyId}, proxyId ∈ world.doomed → proxyId < world.drawn ∧
    ∀ {record}, world.registry.records.get? proxyId = some record → record.stale = true
  handles : ∀ {proxyId record}, world.registry.records.get? proxyId = some record →
    record.Holds (origin proxyId)
  saved : ∀ {snapshot}, snapshot ∈ world.snapshots → ∀ {proxyId saved},
    snapshot.saved.get? proxyId = some saved → proxyId < world.drawn ∧
      saved.Holds (origin proxyId) ∧
      ProxyRegistry.ofCapture snapshot.captureFence saved = true ∧
      ∀ {current}, world.registry.records.get? proxyId = some current →
        Kept world.doomed snapshot.expired proxyId saved current

theorem Tracks.opened (carriers : Carriers) :
    Tracks (World.opened carriers) fun _ => none := by
  refine ⟨?_, ?_, ?_⟩
  · intro _ impossible
    cases impossible
  · intro _ _ impossible
    cases impossible
  · intro _ impossible
    cases impossible

/-! ## Calls that expire nothing -/

/-- Records are new, the same, or released. -/
def Quiet (drawn more : Nat) (registry next : ProxyRegistry carriers) : Prop :=
  ∀ {proxyId record}, next.records.get? proxyId = some record →
    (drawn ≤ proxyId ∧ proxyId < more ∧ record.Live) ∨
      ∃ before, registry.records.get? proxyId = some before ∧
        (record = before ∨ record = before.dropped)

theorem dropped_holds {record : ProxyRecord carriers} {origin : Option carriers.Handle}
    (holds : record.Holds origin) : record.dropped.Holds origin := by
  unfold ProxyRecord.dropped
  split
  · exact holds
  · unfold ProxyRecord.Holds
    simp

theorem dropped_stale (record : ProxyRecord carriers) :
    record.dropped.stale = record.stale ∧
      (record.released = true → record.dropped.released = true) := by
  unfold ProxyRecord.dropped
  split
  · exact ⟨rfl, id⟩
  · exact ⟨rfl, fun _ => rfl⟩

theorem Tracks.quiet {origin : ProxyId → Option carriers.Handle} (tracks : Tracks world origin)
    {next : World carriers} (grows : world.drawn ≤ next.drawn)
    (quiet : Quiet world.drawn next.drawn world.registry next.registry)
    (snapshots : next.snapshots = world.snapshots) (doomed : next.doomed = world.doomed) :
    ∃ later, Tracks next later := by
  refine ⟨fun proxyId => if proxyId < world.drawn then origin proxyId else
    (next.registry.records.get? proxyId).elim none (·.resolverHandle), ?_, ?_, ?_⟩
  · intro proxyId member
    rw [doomed] at member
    obtain ⟨early, stale⟩ := tracks.doomed member
    refine ⟨Nat.lt_of_lt_of_le early grows, fun found => ?_⟩
    rcases quiet found with ⟨late, _⟩ | ⟨before, was, rfl | rfl⟩
    · exact absurd early (Nat.not_lt.2 late)
    · exact stale was
    · rw [(dropped_stale before).1]
      exact stale was
  · intro proxyId record found
    split
    · next early =>
        rcases quiet found with ⟨late, _⟩ | ⟨before, was, rfl | rfl⟩
        · exact absurd early (Nat.not_lt.2 late)
        · exact tracks.handles was
        · exact dropped_holds (tracks.handles was)
    · next late =>
        rcases quiet found with ⟨_, _, live⟩ | ⟨before, was, is⟩
        · unfold ProxyRecord.Holds
          rw [live.1, live.2, found]
          rfl
        · have holds := tracks.handles was
          unfold ProxyRecord.Holds
          rw [found]
          have own : record.Holds (origin proxyId) := by
            rcases is with rfl | rfl
            · exact holds
            · exact dropped_holds holds
          unfold ProxyRecord.Holds at own
          by_cases gone : (record.stale || record.released) = true
          · rw [if_pos gone] at own ⊢
            exact own
          · rw [if_neg gone]
            rfl
  · intro snapshot member proxyId saved found
    rw [snapshots] at member
    obtain ⟨early, holds, captured, kept⟩ := tracks.saved member found
    refine ⟨Nat.lt_of_lt_of_le early grows, ?_, captured, fun isCurrent => ?_⟩
    · rw [if_pos early]
      exact holds
    · rw [doomed]
      rcases quiet isCurrent with ⟨late, _⟩ | ⟨before, was, rfl | rfl⟩
      · exact absurd early (Nat.not_lt.2 late)
      · exact kept was
      · have same := kept was
        obtain ⟨stale, released⟩ := dropped_stale before
        refine ⟨(before.dropped_same.1).trans same.descriptor,
          fun wasReleased => released (same.released wasReleased), ?_⟩
        rw [stale]
        exact same.stale

/-! ## Calls that are quiet -/

section

variable {drawn : Nat} {registry next : ProxyRegistry carriers}

/-- Records are new or the same. -/
def Added (drawn more : Nat) (registry next : ProxyRegistry carriers) : Prop :=
  ∀ proxyId record, next.records.get? proxyId = some record →
    (drawn ≤ proxyId ∧ proxyId < more ∧ record.Live) ∨
      registry.records.get? proxyId = some record

theorem Added.quiet {more : Nat} (added : Added drawn more registry next) :
    Quiet drawn more registry next :=
  fun found => (added _ _ found).imp_right fun was => ⟨_, was, .inl rfl⟩

theorem Added.of_same (more : Nat) (same : next.records = registry.records) :
    Added drawn more registry next := by
  intro proxyId record found
  rw [same] at found
  exact .inr found

theorem Added.with (registration : Registration carriers) :
    Added drawn (drawn + 1) registry (registry.with drawn registration) := by
  intro proxyId record found
  rcases Dictionary.get?_set_eq_some.1 found with ⟨rfl, rfl⟩ | ⟨_, was⟩
  · exact .inl ⟨Nat.le_refl _, Nat.lt_succ_self _, rfl, rfl⟩
  · exact .inr was

theorem Added.register (publication : Option Nat) (registration : Registration carriers) :
    Added drawn (drawn + 1) registry (registry.register drawn publication registration).2 := by
  cases publication with
  | none =>
      by_cases accepted : registration.Accepted
      · rw [register_accepted accepted]
        exact Added.with registration
      · obtain ⟨failure, is⟩ := register_refused accepted registry drawn
        rw [is]
        exact Added.of_same _ rfl
  | some token =>
      rcases register_published registry drawn token registration with
        is | ⟨checkpoint, _, is | is⟩
      · rw [is]
        exact Added.of_same _ rfl
      · rw [is]
        exact Added.of_same _ rfl
      · rw [is]
        exact Added.with registration

theorem Added.withEach (entries : List (ContextEntry carriers)) :
    Added drawn (drawn + entries.length) registry (registry.withEach drawn entries) := by
  induction entries generalizing drawn registry with
  | nil => exact Added.of_same _ rfl
  | cons entry rest hypothesis =>
      intro proxyId record found
      have length : drawn + 1 + rest.length = drawn + (entry :: rest).length := by
        rw [List.length_cons]
        omega
      have later : drawn + 1 ≤ proxyId ∧ proxyId < drawn + 1 + rest.length ∧ record.Live ∨
          (registry.with drawn (.context entry)).records.get? proxyId = some record :=
        hypothesis proxyId record found
      rcases later with ⟨late, early, live⟩ | before
      · exact .inl ⟨Nat.le_of_succ_le late, Nat.lt_of_lt_of_eq early length, live⟩
      · rcases @Added.with carriers drawn registry (.context entry) _ _ before with
          ⟨late, early, live⟩ | was
        · exact .inl ⟨late, Nat.lt_of_lt_of_le early (length ▸ Nat.le_add_right _ _), live⟩
        · exact .inr was

theorem Added.batch (consistent : Consistent drawn registry)
    (entries : List (ContextEntry carriers)) :
    Added drawn (drawn + entries.length) registry
      (registry.registerContextBatch drawn entries).2 := by
  rcases batch_cases consistent entries with ⟨_, is⟩ | ⟨_, is⟩
  · rw [is]
    exact Added.withEach entries
  · rw [is]
    exact Added.of_same _ rfl

theorem Added.snapshotExact (consistent : Consistent drawn registry) (proxyId : ProxyId) :
    Added drawn (drawn + 1) registry (registry.snapshotExact proxyId drawn).2 := by
  rcases snapshotExact_grown consistent proxyId with is | ⟨original, _, is⟩
  · rw [is]
    exact Added.of_same _ rfl
  · rw [is]
    intro other record found
    rcases Dictionary.get?_set_eq_some.1 found with ⟨rfl, rfl⟩ | ⟨_, was⟩
    · exact .inl ⟨Nat.le_refl _, Nat.lt_succ_self _, rfl, rfl⟩
    · exact .inr was

theorem Added.rewound (more : Nat) (checkpoint : CapturePublicationCheckpoint carriers) :
    Added drawn more registry (registry.rewound checkpoint) :=
  fun _ _ found => .inr (Shadows.rewound_get? _ found).2

theorem Quiet.release (more : Nat) (proxyId : ProxyId) :
    Quiet drawn more registry (registry.release proxyId).2 := by
  intro other record found
  rw [(release_reflags registry proxyId).records] at found
  obtain ⟨before, was, rfl⟩ := Option.map_eq_some_iff.1 found
  refine .inr ⟨before, was, ?_⟩
  split
  · exact .inr rfl
  · exact .inl rfl

theorem Quiet.releaseResolved (more : Nat) (proxyId : ProxyId) :
    Quiet drawn more registry (registry.releaseResolved proxyId).2 := by
  rcases releaseResolved_reflags registry proxyId with is | ⟨descriptor, _, is⟩
  · rw [is]
    exact (Added.of_same more rfl).quiet
  · rw [is]
    exact Quiet.release more descriptor.proxyId

end

/-! ## Invalidations -/

section

variable {origin : ProxyId → Option carriers.Handle} (tracks : Tracks world origin)
  (hit : ProxyRecord carriers → Bool)

theorem expired_eq_some {proxyId : ProxyId} {record : ProxyRecord carriers}
    (found : (world.registry.invalidate hit).records.get? proxyId = some record) :
    ∃ before, world.registry.records.get? proxyId = some before ∧
      record = ProxyRegistry.expired hit before := by
  rw [(invalidate_reflags world.registry hit).records] at found
  obtain ⟨before, was, is⟩ := Option.map_eq_some_iff.1 found
  exact ⟨before, was, is.symm⟩

theorem expired_holds {record : ProxyRecord carriers} {handle : Option carriers.Handle}
    (holds : record.Holds handle) : (ProxyRegistry.expired hit record).Holds handle := by
  unfold ProxyRegistry.expired
  split
  · rfl
  · exact holds

theorem expired_flags (record : ProxyRecord carriers) :
    (ProxyRegistry.expired hit record).released = record.released ∧
      ((ProxyRegistry.expired hit record).stale = true ↔
        record.stale = true ∨ hit record = true) := by
  unfold ProxyRegistry.expired
  by_cases matched : hit record = true ∧ record.stale = false
  · rw [if_pos matched]
    exact ⟨rfl, fun _ => .inr matched.1, fun _ => rfl⟩
  · rw [if_neg matched]
    refine ⟨rfl, .inl, ?_⟩
    rintro (stale | matches_)
    · exact stale
    · by_contra live
      exact matched ⟨matches_, Bool.eq_false_iff.2 live⟩

theorem mem_hitIds {proxyId : ProxyId} : proxyId ∈ world.hitIds hit ↔
    ∃ record, world.registry.records.get? proxyId = some record ∧ hit record = true := by
  unfold World.hitIds
  rw [Dictionary.mem_keys]
  simp only [Dictionary.get?_filterEntries_eq_some]

include tracks

/-- An invalidation of a generation dooms what it matches. -/
theorem Tracks.dooms (consistent : Consistent world.drawn world.registry) {next : World carriers}
    (grows : world.drawn ≤ next.drawn)
    (registry : next.registry = world.registry.invalidate hit)
    (snapshots : next.snapshots = world.snapshots)
    (doomed : next.doomed = world.doomed ++ world.hitIds hit) : Tracks next origin := by
  refine ⟨?_, ?_, ?_⟩
  · intro proxyId member
    rw [doomed] at member
    rw [registry]
    rcases List.mem_append.1 member with earlier | now
    · obtain ⟨early, stale⟩ := tracks.doomed earlier
      refine ⟨Nat.lt_of_lt_of_le early grows, fun found => ?_⟩
      obtain ⟨before, was, rfl⟩ := expired_eq_some hit found
      exact (expired_flags hit before).2.2 (.inl (stale was))
    · obtain ⟨record, known, matches_⟩ := (mem_hitIds hit).1 now
      refine ⟨Nat.lt_of_lt_of_le (consistent.old known) grows, fun found => ?_⟩
      obtain ⟨before, was, rfl⟩ := expired_eq_some hit found
      rw [known] at was
      cases was
      exact (expired_flags hit record).2.2 (.inr matches_)
  · intro proxyId record found
    rw [registry] at found
    obtain ⟨before, was, rfl⟩ := expired_eq_some hit found
    exact expired_holds hit (tracks.handles was)
  · intro snapshot member proxyId saved found
    rw [snapshots] at member
    obtain ⟨early, holds, captured, kept⟩ := tracks.saved member found
    refine ⟨Nat.lt_of_lt_of_le early grows, holds, captured, fun isCurrent => ?_⟩
    rw [registry] at isCurrent
    obtain ⟨before, was, rfl⟩ := expired_eq_some hit isCurrent
    have same := kept was
    obtain ⟨released, stale⟩ := expired_flags hit before
    refine ⟨(expired_same hit before).1.trans same.descriptor, ?_, fun live undoomed => ?_⟩
    · rw [released]
      exact same.released
    · rw [doomed, List.mem_append, not_or] at undoomed
      have unmatched : ¬hit before = true :=
        fun matches_ => undoomed.2 ((mem_hitIds hit).2 ⟨before, was, matches_⟩)
      rw [stale, or_iff_left unmatched]
      exact same.stale live undoomed.1

end

end OnecRuntime.Proxies

/-!
# Restored snapshots

An invalidation of a fence expires records, which every snapshot of the fence remembers;
restoring a fitting snapshot revives these records and changes nothing else.
-/

namespace OnecRuntime.Proxies

open OnecRuntime.Library

variable {carriers : Carriers} {world : World carriers}
  {origin : ProxyId → Option carriers.Handle}

/-- The expired records are live again, with their handles unless they were released. -/
structure Revived (snapshot : Snapshot carriers) (before after : ProxyRegistry carriers) :
    Prop where
  bindings : after.bindings = before.bindings
  bindingVersions : after.bindingVersions = before.bindingVersions
  active : after.activeCapturePublication = before.activeCapturePublication
  others : ∀ {proxyId}, proxyId ∉ snapshot.expired →
    after.records.get? proxyId = before.records.get? proxyId
  unknown : ∀ {proxyId}, before.records.get? proxyId = none → after.records.get? proxyId = none
  revived : ∀ {proxyId record}, proxyId ∈ snapshot.expired →
    before.records.get? proxyId = some record →
    ∃ saved, snapshot.saved.get? proxyId = some saved ∧ saved.stale = false ∧
      after.records.get? proxyId = some { record with
        stale := false
        resolverHandle := if record.released then record.resolverHandle else saved.resolverHandle }

variable {snapshot : Snapshot carriers}

theorem mem_of_index {index : Nat}
    (found : world.snapshots[index]? = some snapshot) : snapshot ∈ world.snapshots :=
  List.mem_of_getElem? found

/-- A record whose snapshot is stale, or live and not expired since, is restored to itself. -/
theorem restored_same (member : snapshot ∈ world.snapshots)
    (tracks : Tracks world origin) (fits : Fits world snapshot) {proxyId : ProxyId}
    {saved current : ProxyRecord carriers} (found : snapshot.saved.get? proxyId = some saved)
    (known : world.registry.records.get? proxyId = some current)
    (unexpired : proxyId ∉ snapshot.expired) :
    ProxyRegistry.restored saved current = current := by
  obtain ⟨_, holds, _, kept⟩ := tracks.saved member found
  have same := kept known
  have handle := tracks.handles known
  have stale : saved.stale = current.stale := by
    cases wasStale : saved.stale with
    | true => exact (fits.unrevived found wasStale known).symm
    | false =>
        have live := same.stale wasStale (fits.undoomed found wasStale)
        exact (Bool.eq_false_iff.2 fun is => unexpired (live.1 is)).symm
  have handles : (if current.released then current.resolverHandle else saved.resolverHandle) =
      current.resolverHandle := by
    by_cases released : current.released = true
    · exact if_pos released
    · have unreleased : saved.released = false :=
        Bool.eq_false_iff.2 fun is => released (same.released is)
      unfold ProxyRecord.Holds at holds handle
      rw [if_neg released, holds, handle, stale, unreleased, Bool.eq_false_iff.2 released]
  unfold ProxyRegistry.restored
  rw [handles, stale]

/-- Restoring a fitting snapshot revives what was expired since. -/
theorem restore_revives (member : snapshot ∈ world.snapshots)
    (tracks : Tracks world origin) (fits : Fits world snapshot) :
    Revived snapshot world.registry (world.registry.restoreCaptureState snapshot.saved) := by
  have effect := @restore_reflags _ world.registry snapshot.saved fits.known
  refine ⟨effect.bindings, effect.bindingVersions, effect.active, ?_, ?_, ?_⟩
  · intro proxyId unexpired
    rw [effect.records]
    cases known : world.registry.records.get? proxyId with
    | none => rfl
    | some current =>
        refine congrArg some ?_
        unfold restoredBy
        cases found : snapshot.saved.get? proxyId with
        | none => rfl
        | some saved => exact restored_same member tracks fits found known unexpired
  · intro proxyId unknown
    rw [effect.records, unknown]
    rfl
  · intro proxyId record expired known
    obtain ⟨saved, found, live⟩ := fits.covered expired (Dictionary.mem_keys.2 ⟨record, known⟩)
    refine ⟨saved, found, live, ?_⟩
    rw [effect.records, known]
    unfold restoredBy ProxyRegistry.restored
    rw [found, Option.map_some, Option.elim_some, live]

/-! ## Tracking -/

variable {next : World carriers}

/-- An invalidation of a fence is remembered by the snapshots of the fence. -/
theorem Tracks.expires (tracks : Tracks world origin)
    (grows : world.drawn ≤ next.drawn) (captureFence : carriers.CaptureFence)
    (registry : next.registry = world.registry.invalidate (ProxyRegistry.ofCapture captureFence))
    (snapshots : next.snapshots = world.nextSnapshots (.invalidateCaptureFence captureFence))
    (doomed : next.doomed = world.doomed) : Tracks next origin := by
  refine ⟨?_, ?_, ?_⟩
  · intro proxyId member
    rw [doomed] at member
    obtain ⟨early, stale⟩ := tracks.doomed member
    refine ⟨Nat.lt_of_lt_of_le early grows, fun found => ?_⟩
    rw [registry] at found
    obtain ⟨before, was, rfl⟩ := expired_eq_some _ found
    exact (expired_flags _ before).2.2 (.inl (stale was))
  · intro proxyId record found
    rw [registry] at found
    obtain ⟨before, was, rfl⟩ := expired_eq_some _ found
    exact expired_holds _ (tracks.handles was)
  · intro snapshot member proxyId saved found
    rw [snapshots] at member
    obtain ⟨original, originally, rfl⟩ := List.mem_map.1 member
    have parts : (if original.captureFence = captureFence then
          { original with expired := original.expired ++ world.expiredIds captureFence }
        else original).saved = original.saved ∧
        (if original.captureFence = captureFence then
          { original with expired := original.expired ++ world.expiredIds captureFence }
        else original).captureFence = original.captureFence := by
      split <;> exact ⟨rfl, rfl⟩
    rw [parts.1] at found
    rw [parts.2, doomed]
    obtain ⟨early, holds, captured, kept⟩ := tracks.saved originally found
    refine ⟨Nat.lt_of_lt_of_le early grows, holds, captured, fun isCurrent => ?_⟩
    rw [registry] at isCurrent
    obtain ⟨before, was, rfl⟩ := expired_eq_some _ isCurrent
    have same := kept was
    obtain ⟨released, stale⟩ := expired_flags (ProxyRegistry.ofCapture captureFence) before
    refine ⟨(expired_same _ before).1.trans same.descriptor, ?_, fun live undoomed => ?_⟩
    · rw [released]
      exact same.released
    · have captures : ∀ fence : carriers.CaptureFence,
          ProxyRegistry.ofCapture fence before = ProxyRegistry.ofCapture fence saved := by
        intro fence
        unfold ProxyRegistry.ofCapture
        rw [same.descriptor]
      rw [stale, captures, same.stale live undoomed]
      by_cases fence : original.captureFence = captureFence
      · rw [if_pos fence]
        have matches_ : ProxyRegistry.ofCapture captureFence before = true := by
          rw [captures, ← fence]
          exact captured
        rw [List.mem_append]
        have hits : ProxyRegistry.ofCapture captureFence saved = true := by
          rw [← captures]
          exact matches_
        cases wasStale : before.stale with
        | true =>
            have earlier := (same.stale live undoomed).1 wasStale
            exact ⟨fun _ => .inl earlier, fun _ => .inl earlier⟩
        | false =>
            have now : proxyId ∈ world.expiredIds captureFence :=
              (mem_hitIds _).2 ⟨before, was, by rw [matches_, wasStale]; rfl⟩
            exact ⟨fun _ => .inr now, fun _ => .inr hits⟩
      · rw [if_neg fence]
        refine or_iff_left fun matches_ => fence ?_
        unfold ProxyRegistry.ofCapture at matches_ captured
        have first := (of_decide_eq_true matches_).2
        have second := (of_decide_eq_true captured).2
        exact Option.some.inj (second.symm.trans first)

/-- A new snapshot has its records as they are. -/
theorem Tracks.snapshots (tracks : Tracks world origin)
    (consistent : Consistent world.drawn world.registry)
    (grows : world.drawn ≤ next.drawn) (captureFence : carriers.CaptureFence)
    (registry : next.registry = world.registry)
    (snapshots : next.snapshots = world.nextSnapshots (.captureStateSnapshot captureFence))
    (doomed : next.doomed = world.doomed) : Tracks next origin := by
  refine ⟨?_, ?_, ?_⟩
  · intro proxyId member
    rw [doomed] at member
    rw [registry]
    exact ⟨Nat.lt_of_lt_of_le (tracks.doomed member).1 grows, (tracks.doomed member).2⟩
  · intro proxyId record found
    rw [registry] at found
    exact tracks.handles found
  · intro snapshot member proxyId saved found
    rw [registry, doomed]
    rw [snapshots] at member
    rcases List.mem_append.1 member with earlier | now
    · obtain ⟨early, rest⟩ := tracks.saved earlier found
      exact ⟨Nat.lt_of_lt_of_le early grows, rest⟩
    · rw [List.mem_singleton.1 now] at found ⊢
      obtain ⟨known, captured⟩ := Dictionary.get?_filterEntries_eq_some.1 found
      refine ⟨Nat.lt_of_lt_of_le (consistent.old known) grows, tracks.handles known, captured,
        fun isCurrent => ?_⟩
      rw [known] at isCurrent
      cases isCurrent
      refine ⟨rfl, id, fun live _ => ?_⟩
      rw [live]
      exact iff_of_false Bool.false_ne_true List.not_mem_nil

/-- A restored record is revived or the same. -/
theorem Revived.cases {before after : ProxyRegistry carriers}
    (revived : Revived snapshot before after) {proxyId : ProxyId} {record : ProxyRecord carriers}
    (found : after.records.get? proxyId = some record) :
    ∃ current, before.records.get? proxyId = some current ∧
      (proxyId ∉ snapshot.expired ∧ record = current ∨
        proxyId ∈ snapshot.expired ∧ ∃ saved, snapshot.saved.get? proxyId = some saved ∧
          saved.stale = false ∧ record = { current with
            stale := false
            resolverHandle :=
              if current.released then current.resolverHandle else saved.resolverHandle }) := by
  cases known : before.records.get? proxyId with
  | none =>
      rw [revived.unknown known] at found
      cases found
  | some current =>
      refine ⟨current, rfl, ?_⟩
      by_cases expired : proxyId ∈ snapshot.expired
      · obtain ⟨saved, isSaved, live, is⟩ := revived.revived expired known
        rw [found] at is
        exact .inr ⟨expired, saved, isSaved, live, Option.some.inj is⟩
      · rw [revived.others expired, known] at found
        exact .inl ⟨expired, (Option.some.inj found).symm⟩

/-- A restored snapshot is forgotten by every snapshot. -/
theorem Tracks.restores (tracks : Tracks world origin)
    (grows : world.drawn ≤ next.drawn) {index : Nat} {restored : Snapshot carriers}
    (indexed : world.snapshots[index]? = some restored) (fits : Fits world restored)
    (registry : next.registry = world.registry.restoreCaptureState restored.saved)
    (snapshots : next.snapshots = world.nextSnapshots (.restoreCaptureState index))
    (doomed : next.doomed = world.doomed) : Tracks next origin := by
  have revives := restore_revives (mem_of_index indexed) tracks fits
  rw [← registry] at revives
  refine ⟨?_, ?_, ?_⟩
  · intro proxyId member
    rw [doomed] at member
    obtain ⟨early, stale⟩ := tracks.doomed member
    refine ⟨Nat.lt_of_lt_of_le early grows, fun found => ?_⟩
    obtain ⟨current, known, ⟨_, rfl⟩ | ⟨_, saved, isSaved, live, _⟩⟩ := revives.cases found
    · exact stale known
    · exact absurd member (fits.undoomed isSaved live)
  · intro proxyId record found
    obtain ⟨current, known, ⟨_, rfl⟩ | ⟨_, saved, isSaved, live, rfl⟩⟩ := revives.cases found
    · exact tracks.handles known
    · obtain ⟨_, holds, _, kept⟩ := tracks.saved (mem_of_index indexed) isSaved
      have handle := tracks.handles known
      unfold ProxyRecord.Holds at holds handle ⊢
      cases released : current.released with
      | true =>
          rw [handle, released]
          simp
      | false =>
          have unreleased : saved.released = false := by
            refine Bool.eq_false_iff.2 fun is => ?_
            rw [(kept known).released is] at released
            cases released
          rw [live, unreleased] at holds
          exact holds
  · intro snapshot member proxyId saved found
    have forgets : world.nextSnapshots (.restoreCaptureState index) =
        world.snapshots.map fun snapshot => { snapshot with
          expired := snapshot.expired.filter fun proxyId =>
            decide (proxyId ∉ restored.expired) } := by
      simp only [World.nextSnapshots, indexed]
    rw [snapshots, forgets] at member
    obtain ⟨original, originally, rfl⟩ := List.mem_map.1 member
    obtain ⟨early, holds, captured, kept⟩ := tracks.saved originally found
    refine ⟨Nat.lt_of_lt_of_le early grows, holds, captured, fun isCurrent => ?_⟩
    rw [doomed]
    obtain ⟨current, known, ⟨unexpired, rfl⟩ | ⟨expired, _, _, _, rfl⟩⟩ :=
      revives.cases isCurrent
    · have same := kept known
      refine ⟨same.descriptor, same.released, fun live undoomed => ?_⟩
      rw [same.stale live undoomed, List.mem_filter]
      exact ⟨fun member => ⟨member, decide_eq_true unexpired⟩, And.left⟩
    · have same := kept known
      refine ⟨same.descriptor, same.released, fun _ _ => ?_⟩
      rw [List.mem_filter]
      exact iff_of_false Bool.false_ne_true fun member =>
        absurd expired (of_decide_eq_true member.2)

end OnecRuntime.Proxies
