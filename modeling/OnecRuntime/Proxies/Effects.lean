import OnecRuntime.Proxies.Consistency

/-!
# Effects of the calls

What each call leaves. A registration outside a publication is refused or stored,
whatever the registry holds; releases, invalidations and restored snapshots change flags
alone; a batch that fails leaves the registry as it was.
-/

namespace OnecRuntime.Proxies

open OnecRuntime.Library

variable {carriers : Carriers} {drawn : Nat} {registry : ProxyRegistry carriers}

/-! ## Registrations -/

/-- The checks of a registration, which do not depend on the registry. -/
def Registration.Accepted (registration : Registration carriers) : Prop :=
  registration.fence.validate = .ok () ∧ (registration.descriptor 0 1).validate = .ok ()

theorem validate_descriptor (registration : Registration carriers) (proxyId version : Nat) :
    (registration.descriptor proxyId (version + 1)).validate =
      (registration.descriptor 0 1).validate := by
  have positive : ∀ number : Nat,
      requirePositiveInt ((number + 1 : Nat) : Int) "version" = .ok () :=
    fun number => require_of_holds (by omega)
  unfold ProxyDescriptor.validate
  simp only [Registration.descriptor]
  rw [positive version, positive 0]
  rfl

/-- The descriptor that a registration gets. -/
def ProxyRegistry.given (registry : ProxyRegistry carriers) (proxyId : ProxyId)
    (registration : Registration carriers) : ProxyDescriptor carriers :=
  registration.descriptor proxyId (registry.nextVersion registration.key)

/-- The registry with an accepted registration. -/
def ProxyRegistry.with (registry : ProxyRegistry carriers) (proxyId : ProxyId)
    (registration : Registration carriers) : ProxyRegistry carriers :=
  registry.store (registry.given proxyId registration) registration.arguments.resolverHandle

theorem register_accepted {registration : Registration carriers} (accepted : registration.Accepted)
    (registry : ProxyRegistry carriers) (proxyId : ProxyId) :
    registry.register proxyId none registration =
      (.ok (registry.given proxyId registration), registry.with proxyId registration) := by
  unfold ProxyRegistry.register ProxyRegistry.journaled
  rw [accepted.1]
  simp only
  have checks : (registration.descriptor proxyId
      (registry.nextVersion registration.key)).validate = .ok () :=
    (validate_descriptor registration proxyId _).trans accepted.2
  rw [checks]
  rfl

theorem register_refused {registration : Registration carriers}
    (refused : ¬registration.Accepted) (registry : ProxyRegistry carriers) (proxyId : ProxyId) :
    ∃ failure, registry.register proxyId none registration = (.error failure, registry) := by
  unfold ProxyRegistry.register ProxyRegistry.journaled
  cases fenced : registration.fence.validate with
  | error failure => exact ⟨failure, rfl⟩
  | ok fine =>
      simp only
      have checks := validate_descriptor registration proxyId
        ((registry.bindingVersions.get? registration.key).getD 0)
      cases described : (registration.descriptor 0 1).validate with
      | error failure =>
          rw [described] at checks
          unfold ProxyRegistry.nextVersion
          rw [checks]
          exact ⟨failure, rfl⟩
      | ok also => exact absurd ⟨fenced, described⟩ refused

/-- A registration of a publication is refused, maybe after it touched its name, or it is accepted
and stored. -/
theorem register_cases (registry : ProxyRegistry carriers) (proxyId : ProxyId) (token : Nat)
    (registration : Registration carriers) :
    (∃ failure, registry.register proxyId (some token) registration = (.error failure, registry)) ∨
      ∃ checkpoint, registry.requireCapturePublication token = .ok checkpoint ∧
        ((∃ failure, registry.register proxyId (some token) registration =
            (.error failure, registry.touch checkpoint registration.key)) ∨
          registration.Accepted ∧ registry.register proxyId (some token) registration =
            (.ok (registry.given proxyId registration),
              ((registry.touch checkpoint registration.key).with proxyId registration).created
                proxyId (some token))) := by
  unfold ProxyRegistry.register
  cases fenced : registration.fence.validate with
  | error failure => exact .inl ⟨failure, rfl⟩
  | ok fine =>
      simp only
      cases journaled : registry.journaled registration (some token) with
      | error failure => exact .inl ⟨failure, rfl⟩
      | ok left =>
          obtain ⟨checkpoint, required, rest⟩ := bind_eq_ok.1 journaled
          obtain ⟨_, _, is⟩ := bind_eq_ok.1 rest
          have is := pure_eq_ok.1 is
          subst is
          refine .inr ⟨checkpoint, required, ?_⟩
          simp only
          cases described : (registration.descriptor proxyId ((registry.touch checkpoint
              registration.key).nextVersion registration.key)).validate with
          | error failure => exact .inl ⟨failure, rfl⟩
          | ok also =>
              exact .inr ⟨⟨fenced, (validate_descriptor registration proxyId _).symm.trans described⟩,
                rfl⟩

theorem requireCapturePublication_ok {token : Nat}
    {checkpoint : CapturePublicationCheckpoint carriers}
    (required : registry.requireCapturePublication token = .ok checkpoint) :
    registry.activeCapturePublication = some checkpoint := by
  unfold ProxyRegistry.requireCapturePublication at required
  split at required
  · next found =>
      split at required
      · cases required
        exact found
      · cases required
  · cases required

/-- What a registration of a publication leaves. -/
theorem register_published (registry : ProxyRegistry carriers) (proxyId : ProxyId) (token : Nat)
    (registration : Registration carriers) :
    (registry.register proxyId (some token) registration).2 = registry ∨
      ∃ checkpoint, registry.activeCapturePublication = some checkpoint ∧
        ((registry.register proxyId (some token) registration).2 =
            registry.touch checkpoint registration.key ∨
          (registry.register proxyId (some token) registration).2 =
            ((registry.touch checkpoint registration.key).with proxyId registration).created
              proxyId (some token)) := by
  rcases register_cases registry proxyId token registration with
    ⟨failure, is⟩ | ⟨checkpoint, required, ⟨failure, is⟩ | ⟨_, is⟩⟩
  · rw [is]
    exact .inl rfl
  · rw [is]
    exact .inr ⟨checkpoint, requireCapturePublication_ok required, .inl rfl⟩
  · rw [is]
    exact .inr ⟨checkpoint, requireCapturePublication_ok required, .inr rfl⟩

/-! ## Flags -/

/-- The records change one by one, and their proxies and all else stay. -/
structure Reflags (change : ProxyId → ProxyRecord carriers → ProxyRecord carriers)
    (before after : ProxyRegistry carriers) : Prop where
  keys : after.records.keys = before.records.keys
  records : ∀ proxyId, after.records.get? proxyId =
    (before.records.get? proxyId).map (change proxyId)
  same : ∀ proxyId (record : ProxyRecord carriers), record.Same (change proxyId record)
  bindings : after.bindings = before.bindings
  bindingVersions : after.bindingVersions = before.bindingVersions
  active : after.activeCapturePublication = before.activeCapturePublication

theorem Reflags.consistent {change : ProxyId → ProxyRecord carriers → ProxyRecord carriers}
    {after : ProxyRegistry carriers} (reflags : Reflags change registry after)
    (consistent : Consistent drawn registry) : Consistent drawn after := by
  refine consistent.reflagged (fun proxyId => ?_) ?_ reflags.bindings reflags.bindingVersions
  · rw [reflags.records, Option.isSome_map]
  · intro proxyId before after was found
    rw [reflags.records, was] at found
    cases found
    exact reflags.same proxyId before

theorem Reflags.refl (registry : ProxyRegistry carriers) :
    Reflags (fun _ record => record) registry registry :=
  ⟨rfl, fun _ => Option.map_id'.symm, fun _ _ => ⟨rfl, rfl⟩, rfl, rfl, rfl⟩

def ProxyRecord.dropped (record : ProxyRecord carriers) : ProxyRecord carriers :=
  if record.released then record else { record with released := true, resolverHandle := none }

theorem ProxyRecord.dropped_same (record : ProxyRecord carriers) : record.Same record.dropped := by
  unfold ProxyRecord.dropped
  split <;> exact ⟨rfl, rfl⟩

theorem release_reflags (registry : ProxyRegistry carriers) (proxyId : ProxyId) :
    Reflags (fun other record => if other = proxyId then record.dropped else record) registry
      (registry.release proxyId).2 := by
  have same : ∀ other (record : ProxyRecord carriers),
      record.Same (if other = proxyId then record.dropped else record) := by
    intro other record
    split
    · exact record.dropped_same
    · exact ⟨rfl, rfl⟩
  have kept : (∀ record, registry.records.get? proxyId = some record →
      record.dropped = record) →
      Reflags (fun other record => if other = proxyId then record.dropped else record) registry
        registry := by
    intro unchanged
    refine ⟨rfl, fun other => ?_, same, rfl, rfl, rfl⟩
    cases found : registry.records.get? other with
    | none => rfl
    | some record =>
        by_cases is : other = proxyId
        · subst is
          simp [unchanged record found]
        · simp [is]
  unfold ProxyRegistry.release ProxyRegistry.record
  cases found : registry.records.get? proxyId with
  | none => exact kept (by rw [found]; exact fun _ impossible => by cases impossible)
  | some record =>
      simp only
      split
      · next released =>
          refine kept fun other is => ?_
          rw [found] at is
          cases is
          exact if_pos released
      · next open_ =>
          refine ⟨Dictionary.keys_set_stored _ (Dictionary.mem_keys.2 ⟨record, found⟩),
            fun other => ?_, same, rfl, rfl, rfl⟩
          by_cases is : other = proxyId
          · subst is
            simp only
            rw [Dictionary.get?_set_same, found]
            simp [ProxyRecord.dropped, open_]
          · simp only
            rw [Dictionary.get?_set_other _ _ is]
            simp [is]

theorem expired_same (hit : ProxyRecord carriers → Bool) (record : ProxyRecord carriers) :
    record.Same (ProxyRegistry.expired hit record) := by
  unfold ProxyRegistry.expired
  split <;> exact ⟨rfl, rfl⟩

theorem invalidate_reflags (registry : ProxyRegistry carriers)
    (hit : ProxyRecord carriers → Bool) :
    Reflags (fun _ record => ProxyRegistry.expired hit record) registry
      (registry.invalidate hit) :=
  ⟨Dictionary.keys_mapEntries _ _, Dictionary.get?_mapEntries _ _, fun _ => expired_same hit,
    rfl, rfl, rfl⟩

/-- A record is restored where the snapshot has it. -/
def restoredBy (saved : Dictionary ProxyId (ProxyRecord carriers)) (proxyId : ProxyId)
    (record : ProxyRecord carriers) : ProxyRecord carriers :=
  (saved.get? proxyId).elim record (ProxyRegistry.restored · record)

theorem foldl_restoreRecord {entries : List (ProxyId × ProxyRecord carriers)}
    (distinct : (entries.map Prod.fst).Nodup)
    {records : Dictionary ProxyId (ProxyRecord carriers)}
    (known : ∀ entry ∈ entries, entry.1 ∈ records.keys) :
    (entries.foldl ProxyRegistry.restoreRecord records).keys = records.keys ∧
      ∀ proxyId, (entries.foldl ProxyRegistry.restoreRecord records).get? proxyId =
        (records.get? proxyId).map fun record =>
          (entries.lookup proxyId).elim record (ProxyRegistry.restored · record) := by
  induction entries generalizing records with
  | nil => exact ⟨rfl, fun _ => Option.map_id'.symm⟩
  | cons entry rest hypothesis =>
      obtain ⟨savedId, saved⟩ := entry
      obtain ⟨absent, apart⟩ := List.nodup_cons.1 distinct
      obtain ⟨current, found⟩ := Dictionary.mem_keys.1 (known (savedId, saved) List.mem_cons_self)
      have step : ProxyRegistry.restoreRecord records (savedId, saved) =
          records.set savedId (ProxyRegistry.restored saved current) := by
        unfold ProxyRegistry.restoreRecord
        simp only
        rw [found]
      have keys := Dictionary.keys_set_stored (ProxyRegistry.restored saved current)
        (known (savedId, saved) List.mem_cons_self)
      have after := @hypothesis apart (records.set savedId (ProxyRegistry.restored saved current))
        (fun other member => by
          rw [keys]
          exact known other (List.mem_cons_of_mem _ member))
      rw [List.foldl_cons, step]
      refine ⟨after.1.trans keys, fun proxyId => ?_⟩
      rw [after.2]
      by_cases same : proxyId = savedId
      · subst same
        rw [Dictionary.get?_set_same, found]
        simp [Dictionary.lookup_of_absent absent]
      · have other : (proxyId == savedId) = false := beq_eq_false_iff_ne.2 same
        rw [Dictionary.get?_set_other _ _ same, List.lookup_cons, other]

theorem restore_reflags {saved : Dictionary ProxyId (ProxyRecord carriers)}
    (known : ∀ {proxyId}, proxyId ∈ saved.keys → proxyId ∈ registry.records.keys) :
    Reflags (restoredBy saved) registry (registry.restoreCaptureState saved) := by
  have effect := @foldl_restoreRecord carriers saved.entries saved.distinct registry.records
    fun entry member => known (List.mem_map.2 ⟨entry, member, rfl⟩)
  refine ⟨effect.1, effect.2, fun proxyId record => ?_, rfl, rfl, rfl⟩
  unfold restoredBy
  cases saved.get? proxyId with
  | none => exact ⟨rfl, rfl⟩
  | some before => exact ⟨rfl, rfl⟩

/-- Flags change, or nothing does. -/
theorem releaseResolved_reflags (registry : ProxyRegistry carriers) (proxyId : ProxyId) :
    (registry.releaseResolved proxyId).2 = registry ∨
      ∃ descriptor, registry.releaseTarget proxyId = .ok (descriptor, true) ∧
        (registry.releaseResolved proxyId).2 = (registry.release descriptor.proxyId).2 := by
  unfold ProxyRegistry.releaseResolved
  split
  · exact .inl rfl
  · exact .inl rfl
  · next descriptor target => exact .inr ⟨descriptor, target, rfl⟩

/-! ## Batches -/

/-- More records at the end, and the same active publication. -/
def Extends (before after : ProxyRegistry carriers) : Prop :=
  after.activeCapturePublication = before.activeCapturePublication ∧
    ∃ more, after.records.entries = before.records.entries ++ more

theorem Extends.with (consistent : Consistent drawn registry)
    (registration : Registration carriers) :
    Extends registry (registry.with drawn registration) := by
  refine ⟨rfl, _, Dictionary.entries_set_absent _ ?_⟩
  exact Dictionary.get?_eq_none.1 consistent.fresh

theorem Consistent.with (consistent : Consistent drawn registry)
    (registration : Registration carriers) :
    Consistent (drawn + 1) (registry.with drawn registration) :=
  consistent.store _ rfl rfl

theorem registerEach_extends (consistent : Consistent drawn registry)
    (entries : List (ContextEntry carriers)) :
    Extends registry (registry.registerEach drawn entries).2 ∧
      Consistent (drawn + entries.length) (registry.registerEach drawn entries).2 := by
  induction entries generalizing drawn registry with
  | nil => exact ⟨⟨rfl, [], (List.append_nil _).symm⟩, consistent⟩
  | cons entry rest hypothesis =>
      unfold ProxyRegistry.registerEach
      by_cases accepted : (Registration.context entry).Accepted
      · rw [register_accepted accepted]
        simp only
        obtain ⟨⟨active, more, records⟩, kept⟩ := hypothesis (consistent.with (.context entry))
        obtain ⟨activeFirst, first, recordsFirst⟩ := Extends.with consistent (.context entry)
        have whole : Extends registry
            ((registry.with drawn (.context entry)).registerEach (drawn + 1) rest).2 :=
          ⟨active.trans activeFirst, first ++ more, by
            rw [records, recordsFirst, List.append_assoc]⟩
        have reaches : drawn + 1 + rest.length = drawn + (entry :: rest).length := by
          rw [List.length_cons]
          omega
        rw [← reaches]
        split
        · next failure last is =>
            rw [is] at whole kept
            exact ⟨whole, kept⟩
        · next descriptors last is =>
            rw [is] at whole kept
            exact ⟨whole, kept⟩
      · obtain ⟨failure, is⟩ := register_refused accepted registry drawn
        rw [is]
        exact ⟨⟨rfl, [], (List.append_nil _).symm⟩, consistent.later (Nat.le_add_right _ _)⟩

theorem eraseAll_extension {before after : Dictionary ProxyId (ProxyRecord carriers)}
    {more : List (ProxyId × ProxyRecord carriers)} (grown : after.entries = before.entries ++ more) :
    after.eraseAll (after.keys.filter fun proxyId => decide (proxyId ∉ before.keys)) = before := by
  have distinct : ((before.entries ++ more).map Prod.fst).Nodup := grown ▸ after.distinct
  rw [List.map_append] at distinct
  have entries : (after.eraseAll
      (after.keys.filter fun proxyId => decide (proxyId ∉ before.keys))).entries =
        before.entries := by
    unfold Dictionary.eraseAll
    simp only [grown, List.filter_append]
    have first : before.entries.filter (fun entry => decide (entry.1 ∉
        after.keys.filter fun proxyId => decide (proxyId ∉ before.keys))) = before.entries := by
      rw [List.filter_eq_self]
      intro entry member
      have stored : entry.1 ∈ before.keys := List.mem_map.2 ⟨entry, member, rfl⟩
      simp [stored]
    have second : more.filter (fun entry => decide (entry.1 ∉
        after.keys.filter fun proxyId => decide (proxyId ∉ before.keys))) = [] := by
      rw [List.filter_eq_nil_iff]
      intro entry member
      have absent : entry.1 ∉ before.keys := fun stored =>
        (List.nodup_append.1 distinct).2.2 entry.1 stored entry.1
          (List.mem_map.2 ⟨entry, member, rfl⟩) rfl
      have stored : entry.1 ∈ after.keys := by
        unfold Dictionary.keys
        rw [grown]
        exact List.mem_map.2 ⟨entry, List.mem_append_right _ member, rfl⟩
      simp [absent, stored]
    rw [first, second, List.append_nil]
  exact Dictionary.eq_of_entries entries

/-- A batch that fails leaves the registry as it was. -/
theorem batch_failed (consistent : Consistent drawn registry)
    {entries : List (ContextEntry carriers)} {failure : ProxyFailure}
    (failed : (registry.registerContextBatch drawn entries).1 = .error failure) :
    (registry.registerContextBatch drawn entries).2 = registry := by
  obtain ⟨⟨active, more, records⟩, _⟩ := registerEach_extends consistent entries
  unfold ProxyRegistry.registerContextBatch at failed ⊢
  generalize registry.registerEach drawn entries = pair at failed active records ⊢
  obtain ⟨result, left⟩ := pair
  cases result with
  | ok descriptors => cases failed
  | error other =>
      simp only at active records ⊢
      rw [eraseAll_extension records]
      cases registry
      cases active
      rfl

theorem batch_consistent (consistent : Consistent drawn registry)
    (entries : List (ContextEntry carriers)) :
    Consistent (drawn + entries.length) (registry.registerContextBatch drawn entries).2 := by
  obtain ⟨_, whole⟩ := registerEach_extends consistent entries
  cases outcome : (registry.registerContextBatch drawn entries).1 with
  | error failure =>
      rw [batch_failed consistent outcome]
      exact consistent.later (Nat.le_add_right _ _)
  | ok descriptors =>
      unfold ProxyRegistry.registerContextBatch at outcome ⊢
      generalize registry.registerEach drawn entries = pair at whole outcome ⊢
      obtain ⟨result, left⟩ := pair
      cases result with
      | ok _ => exact whole
      | error _ => cases outcome

/-! ## Aliases -/

/-- An answer that is not exact is the live binding of its name. -/
theorem Consistent.answer_registered (consistent : Consistent drawn registry) {proxyId : ProxyId}
    {answer : ProxyDescriptor carriers} (resolved : registry.resolve proxyId = .ok answer)
    (inexact : answer.consistency ≠ .exact) :
    ∃ record, registry.records.get? answer.proxyId = some record ∧ record.descriptor = answer ∧
      record.exactAnchorId = none ∧ record.Live ∧
      registry.bindings.get? answer.key = some answer.proxyId := by
  cases known : registry.records.get? proxyId with
  | none =>
      rw [resolve_unknown known] at resolved
      cases resolved
  | some record =>
      rcases consistent.resolve_cases known with ⟨failure, is, _⟩ | ⟨other, is, live, which⟩
      · rw [resolved] at is
        cases is
      · rw [resolved] at is
        cases is
        cases which with
        | snapshot anchored bound found anchorLive same =>
            subst same
            exact absurd (consistent.exact known anchored).1 inexact
        | binding plain bound same =>
            subst same
            have own := consistent.own known
            rw [own]
            exact ⟨record, known, rfl, plain, live, bound⟩
        | @latest currentId current plain latest bound found currentLive fence same =>
            subst same
            obtain ⟨registered, foundToo, anchored, keyed, _⟩ := consistent.registered bound
            rw [found] at foundToo
            cases foundToo
            have own := consistent.own found
            rw [own]
            refine ⟨current, found, rfl, anchored, currentLive, ?_⟩
            rw [keyed]
            exact bound

/-- An answer has the name of the proxy. -/
theorem Consistent.answer_key (consistent : Consistent drawn registry) {proxyId : ProxyId}
    {record : ProxyRecord carriers} {answer : ProxyDescriptor carriers}
    (known : registry.records.get? proxyId = some record)
    (resolved : registry.resolve proxyId = .ok answer) : answer.key = record.descriptor.key := by
  rcases consistent.resolve_cases known with ⟨failure, is, _⟩ | ⟨other, is, _, which⟩
  · rw [resolved] at is
    cases is
  · rw [resolved] at is
    cases is
    cases which with
    | snapshot anchored bound found live same => rw [same]
    | binding plain bound same => rw [same]
    | latest plain latest bound found live fence same =>
        obtain ⟨registered, foundToo, _, keyed, _⟩ := consistent.registered bound
        rw [found] at foundToo
        cases foundToo
        rw [same]
        exact keyed

/-- The registry with an exact alias of a descriptor. -/
def ProxyRegistry.aliased (registry : ProxyRegistry carriers) (aliasId : ProxyId)
    (record : ProxyRecord carriers) : ProxyRegistry carriers :=
  { registry with
    records := registry.records.set aliasId
      (ProxyRegistry.exactAlias record.descriptor aliasId record.resolverHandle) }

/-- A snapshot makes an alias of the live binding of a name, or changes nothing. -/
theorem snapshotExact_cases (consistent : Consistent drawn registry) (proxyId aliasId : ProxyId) :
    (registry.snapshotExact proxyId aliasId).2 = registry ∨
      ∃ record, registry.resolve proxyId = .ok record.descriptor ∧
        record.descriptor.consistency = .latest ∧
        registry.records.get? record.descriptor.proxyId = some record ∧
        record.exactAnchorId = none ∧ record.Live ∧
        registry.bindings.get? record.descriptor.key = some record.descriptor.proxyId ∧
        (registry.snapshotExact proxyId aliasId).2 = registry.aliased aliasId record := by
  unfold ProxyRegistry.snapshotExact
  cases resolved : registry.resolve proxyId with
  | error failure => exact .inl rfl
  | ok answer =>
      simp only
      by_cases exact : answer.consistency = .exact
      · left
        split
        · rfl
        · rw [if_pos exact]
      · obtain ⟨record, found, rfl, plain, live, bound⟩ := consistent.answer_registered resolved exact
        have inexact : record.descriptor.consistency = .latest := by
          cases which : record.descriptor.consistency with
          | exact => exact absurd which exact
          | latest => rfl
        have recorded : registry.currentRecord record.descriptor.proxyId = .ok record := by
          unfold ProxyRegistry.currentRecord
          rw [found]
        rw [recorded]
        simp only
        rw [if_neg exact]
        exact .inr ⟨record, rfl, inexact, found, plain, live, bound, rfl⟩

theorem Consistent.aliased (consistent : Consistent drawn registry)
    {record : ProxyRecord carriers} (latest : record.descriptor.consistency = .latest)
    (found : registry.records.get? record.descriptor.proxyId = some record)
    (plain : record.exactAnchorId = none) :
    Consistent (drawn + 1) (registry.aliased drawn record) := by
  have made : ∀ {proxyId other}, (registry.aliased drawn record).records.get? proxyId = some other →
      proxyId = drawn ∧
        other = ProxyRegistry.exactAlias record.descriptor drawn record.resolverHandle ∨
      proxyId ≠ drawn ∧ registry.records.get? proxyId = some other :=
    fun foundOther => Dictionary.get?_set_eq_some.1 foundOther
  have before := consistent.old found
  refine ⟨?_, ?_, ?_, ?_, ?_, ?_, ?_⟩
  · intro proxyId other foundOther
    rcases made foundOther with ⟨rfl, _⟩ | ⟨_, was⟩
    · exact Nat.lt_succ_self _
    · exact Nat.lt_succ_of_lt (consistent.old was)
  · intro proxyId other foundOther
    rcases made foundOther with ⟨rfl, rfl⟩ | ⟨_, was⟩
    · rfl
    · exact consistent.own was
  · intro proxyId other foundOther
    rcases made foundOther with ⟨rfl, rfl⟩ | ⟨_, was⟩
    · obtain ⟨currentId, bound⟩ := consistent.bound found
      exact ⟨currentId, bound⟩
    · exact consistent.bound was
  · intro key currentId bound
    obtain ⟨current, was, anchored, keyed, version⟩ := consistent.registered bound
    have apart : currentId ≠ drawn := Nat.ne_of_lt (consistent.old was)
    exact ⟨current, (Dictionary.get?_set_other _ _ apart).trans was, anchored, keyed, version⟩
  · intro proxyId other foundOther anchored
    rcases made foundOther with ⟨_, rfl⟩ | ⟨_, was⟩
    · cases anchored
    · exact consistent.versioned was anchored
  · intro first second firstRecord secondRecord one two anchored anchoredToo key version
    rcases made one with ⟨_, rfl⟩ | ⟨_, was⟩
    · cases anchored
    · rcases made two with ⟨_, rfl⟩ | ⟨_, wasToo⟩
      · cases anchoredToo
      · exact consistent.distinct was wasToo anchored anchoredToo key version
  · intro proxyId other anchorId foundOther anchored
    rcases made foundOther with ⟨rfl, rfl⟩ | ⟨_, was⟩
    · cases anchored
      refine ⟨rfl, Nat.lt_succ_of_lt before, fun foundAnchor => ?_⟩
      rcases made foundAnchor with ⟨is, _⟩ | ⟨_, wasAnchor⟩
      · exact absurd is (Nat.ne_of_lt before)
      · rw [found] at wasAnchor
        cases wasAnchor
        exact ⟨plain, latest, rfl⟩
    · obtain ⟨exact, earlier, describes⟩ := consistent.exact was anchored
      refine ⟨exact, Nat.lt_succ_of_lt earlier, fun foundAnchor => ?_⟩
      rcases made foundAnchor with ⟨is, _⟩ | ⟨_, wasAnchor⟩
      · exact absurd is (Nat.ne_of_lt earlier)
      · exact describes wasAnchor

/-! ## All calls -/

theorem Consistent.touch (consistent : Consistent drawn registry)
    (checkpoint : CapturePublicationCheckpoint carriers) (key : BindingKey) :
    Consistent drawn (registry.touch checkpoint key) :=
  consistent.of_same rfl rfl rfl

theorem Consistent.activated (consistent : Consistent drawn registry)
    (active : Option (CapturePublicationCheckpoint carriers)) :
    Consistent (drawn + 1) { registry with activeCapturePublication := active } :=
  have same : Consistent drawn { registry with activeCapturePublication := active } :=
    consistent.of_same rfl rfl rfl
  same.later (Nat.le_succ _)

theorem Consistent.register (consistent : Consistent drawn registry) (publication : Option Nat)
    (registration : Registration carriers) :
    Consistent (drawn + 1) (registry.register drawn publication registration).2 := by
  cases publication with
  | none =>
      by_cases accepted : registration.Accepted
      · rw [register_accepted accepted]
        exact consistent.with registration
      · obtain ⟨failure, is⟩ := register_refused accepted registry drawn
        rw [is]
        exact consistent.later (Nat.le_succ _)
  | some token =>
      rcases register_published registry drawn token registration with
        is | ⟨checkpoint, _, is | is⟩
      · rw [is]
        exact consistent.later (Nat.le_succ _)
      · rw [is]
        exact (consistent.touch checkpoint registration.key).later (Nat.le_succ _)
      · rw [is]
        exact ((consistent.touch checkpoint registration.key).with registration).of_same rfl rfl rfl

theorem Consistent.releaseResolved (consistent : Consistent drawn registry) (proxyId : ProxyId) :
    Consistent drawn (registry.releaseResolved proxyId).2 := by
  rcases releaseResolved_reflags registry proxyId with is | ⟨descriptor, _, is⟩
  · rw [is]
    exact consistent
  · rw [is]
    exact (release_reflags registry descriptor.proxyId).consistent consistent

theorem Consistent.invalidations (consistent : Consistent drawn registry)
    (hit : ProxyRecord carriers → Bool) : Consistent drawn (registry.invalidate hit) :=
  (invalidate_reflags registry hit).consistent consistent

/-- Every call but a rollback keeps a registry consistent. -/
theorem Consistent.perform (consistent : Consistent drawn registry)
    {saved : Dictionary ProxyId (ProxyRecord carriers)} {call : Call carriers}
    (kept : ∀ token, call ≠ .rollbackCapturePublication token)
    (known : ∀ {proxyId}, proxyId ∈ saved.keys → proxyId ∈ registry.records.keys) :
    Consistent (drawn + call.draws) (registry.perform drawn saved call) := by
  have more : drawn ≤ drawn + 1 := Nat.le_succ _
  cases call with
  | registerContext entry => exact consistent.register none (.context entry)
  | registerPython arguments generation => exact consistent.register none (.python arguments generation)
  | registerFrame entry captureFence publication =>
      exact consistent.register publication (.frame entry captureFence)
  | registerContextBatch entries => exact batch_consistent consistent entries
  | snapshotExact proxyId =>
      change Consistent (drawn + 1) (registry.snapshotExact proxyId drawn).2
      rcases snapshotExact_cases consistent proxyId drawn with
        is | ⟨record, _, latest, found, plain, _, _, is⟩
      · rw [is]
        exact consistent.later more
      · rw [is]
        exact consistent.aliased latest found plain
  | release proxyId => exact ((release_reflags registry proxyId).consistent consistent).later more
  | releaseResolved proxyId => exact (consistent.releaseResolved proxyId).later more
  | invalidateRuntimeGeneration runtimeId generation =>
      change Consistent (drawn + 1) (registry.invalidateRuntimeGeneration runtimeId generation).2
      unfold ProxyRegistry.invalidateRuntimeGeneration
      split
      · exact consistent.later more
      · exact (consistent.invalidations _).later more
  | invalidatePythonGeneration generation =>
      change Consistent (drawn + 1) (registry.invalidatePythonGeneration generation).2
      unfold ProxyRegistry.invalidatePythonGeneration
      split
      · exact consistent.later more
      · exact (consistent.invalidations _).later more
  | invalidateCaptureFence captureFence => exact (consistent.invalidations _).later more
  | beginCapturePublication captureFence =>
      change Consistent (drawn + 1) (registry.beginCapturePublication drawn captureFence).2
      unfold ProxyRegistry.beginCapturePublication
      split
      · exact consistent.later more
      · exact consistent.activated _
  | commitCapturePublication token =>
      change Consistent (drawn + 1) (registry.commitCapturePublication token).2
      unfold ProxyRegistry.commitCapturePublication
      split
      · exact consistent.later more
      · exact consistent.activated _
  | rollbackCapturePublication token => exact absurd rfl (kept token)
  | captureStateSnapshot captureFence => exact consistent.later more
  | restoreCaptureState index => exact ((restore_reflags known).consistent consistent).later more

end OnecRuntime.Proxies
