import OnecRuntime.Proxies.Effects

/-!
# The registry without the publication

While a publication is active and undisturbed, the registry of the same calls without it
is the one that a rollback would leave, apart from the aliases that were made of touched
names. Every call keeps this.
-/

namespace OnecRuntime.Proxies

open OnecRuntime.Library

variable {carriers : Carriers} {drawn : Nat} {registry plain : ProxyRegistry carriers}
  {aliased : List ProxyId} {checkpoint : CapturePublicationCheckpoint carriers}

/-- How the registry with a publication is related to the one without it. -/
structure Shadows (drawn : Nat) (registry plain : ProxyRegistry carriers)
    (aliased : List ProxyId) (checkpoint : CapturePublicationCheckpoint carriers) : Prop where
  active : registry.activeCapturePublication = some checkpoint
  bindingsHeld : checkpoint.bindingsBefore.Holds registry.bindings
  versionsHeld : checkpoint.bindingVersionsBefore.Holds registry.bindingVersions
  bindings : checkpoint.bindingsBefore.undo registry.bindings = plain.bindings
  versions : checkpoint.bindingVersionsBefore.undo registry.bindingVersions =
    plain.bindingVersions
  keys : registry.records.keys.filter
      (fun proxyId => decide (proxyId ∉ checkpoint.createdProxyIds ++ aliased)) =
    plain.records.keys.filter (fun proxyId => decide (proxyId ∉ aliased))
  records : ∀ {proxyId}, proxyId ∉ checkpoint.createdProxyIds → proxyId ∉ aliased →
    plain.records.get? proxyId = registry.records.get? proxyId
  absent : ∀ {proxyId}, proxyId ∈ checkpoint.createdProxyIds →
    plain.records.get? proxyId = none ∧ proxyId < drawn
  sameKeys : ∀ key, key ∈ checkpoint.bindingsBefore.keys ↔
    key ∈ checkpoint.bindingVersionsBefore.keys
  createdTouched : ∀ {proxyId record}, proxyId ∈ checkpoint.createdProxyIds →
    registry.records.get? proxyId = some record → record.exactAnchorId = none ∧
      record.descriptor.key ∈ checkpoint.bindingsBefore.keys ∧
      ∃ currentId ∈ checkpoint.createdProxyIds,
        registry.bindings.get? record.descriptor.key = some currentId
  touchedBound : ∀ {key before}, checkpoint.bindingsBefore.get? key = some before →
    registry.bindings.get? key = before ∨
      ∃ currentId ∈ checkpoint.createdProxyIds, registry.bindings.get? key = some currentId
  aliases : ∀ {proxyId}, proxyId ∈ aliased → proxyId < drawn ∧
    (∀ {record}, registry.records.get? proxyId = some record → record.exactAnchorId ≠ none) ∧
    (∀ {record}, plain.records.get? proxyId = some record → record.exactAnchorId ≠ none) ∧
    ∀ {record anchorId}, registry.records.get? proxyId = some record →
      record.exactAnchorId = some anchorId → anchorId ∈ registry.records.keys
  anchors : ∀ {proxyId record anchorId}, registry.records.get? proxyId = some record →
    record.exactAnchorId = some anchorId → anchorId ∈ checkpoint.createdProxyIds →
    proxyId ∈ aliased

/-- A publication that has just begun. -/
theorem Shadows.begun (registry : ProxyRegistry carriers) (token : Nat)
    (captureFence : carriers.CaptureFence) :
    Shadows drawn { registry with
        activeCapturePublication := some ⟨token, captureFence, [], .empty, .empty⟩ }
      registry [] ⟨token, captureFence, [], .empty, .empty⟩ := by
  refine ⟨rfl, ?_, ?_, rfl, rfl, rfl, fun _ _ => rfl, ?_, fun _ => Iff.rfl, ?_, ?_, ?_, ?_⟩
  · intro _ _ impossible
    cases impossible
  · intro _ _ impossible
    cases impossible
  · intro _ impossible
    cases impossible
  · intro _ _ impossible
    cases impossible
  · intro _ _ impossible
    cases impossible
  · intro _ impossible
    cases impossible
  · intro _ _ _ _ _ impossible
    cases impossible

namespace Shadows

variable {proxyId : ProxyId} {record : ProxyRecord carriers}

variable {key : BindingKey}

/-- A name whose binding is not of the publication has the same binding without it. -/
theorem binding_other (shadows : Shadows drawn registry plain aliased checkpoint)
    (other : ∀ currentId ∈ checkpoint.createdProxyIds,
      registry.bindings.get? key ≠ some currentId) :
    plain.bindings.get? key = registry.bindings.get? key := by
  rw [← shadows.bindings, Dictionary.get?_undo]
  cases touched : checkpoint.bindingsBefore.get? key with
  | none => rfl
  | some before =>
      rcases shadows.touchedBound touched with same | ⟨currentId, created, bound⟩
      · exact same.symm
      · exact absurd bound (other currentId created)

theorem nextVersion (shadows : Shadows drawn registry plain aliased checkpoint)
    (untouched : key ∉ checkpoint.bindingsBefore.keys) :
    plain.nextVersion key = registry.nextVersion key := by
  have other : key ∉ checkpoint.bindingVersionsBefore.keys :=
    fun touched => untouched ((shadows.sameKeys key).2 touched)
  unfold ProxyRegistry.nextVersion
  rw [← shadows.versions, Dictionary.get?_undo, Dictionary.get?_eq_none.2 other]
  rfl

/-- A registration is no alias. -/
theorem not_aliased (shadows : Shadows drawn registry plain aliased checkpoint)
    (found : registry.records.get? proxyId = some record) (registered : record.exactAnchorId = none) :
    proxyId ∉ aliased :=
  fun member => (shadows.aliases member).2.1 found registered

/-- What another proxy reads is the same without the publication, where the binding of its name
is not of the publication. -/
theorem agrees (shadows : Shadows drawn registry plain aliased checkpoint)
    (consistent : Consistent drawn registry) (consistentPlain : Consistent drawn plain)
    (found : registry.records.get? proxyId = some record)
    (foreign : proxyId ∉ checkpoint.createdProxyIds) (original : proxyId ∉ aliased)
    (other : ∀ currentId ∈ checkpoint.createdProxyIds,
      registry.bindings.get? record.descriptor.key ≠ some currentId) :
    AgreesOn registry plain proxyId record := by
  have foundPlain : plain.records.get? proxyId = some record :=
    (shadows.records foreign original).trans found
  refine ⟨found, foundPlain, shadows.binding_other other, fun bound => ?_, fun anchored => ?_⟩
  · obtain ⟨current, foundCurrent, registered, _⟩ := consistent.registered bound
    exact shadows.records (fun created => other _ created bound)
      (shadows.not_aliased foundCurrent registered)
  · rename_i anchorId
    have outside : anchorId ∉ checkpoint.createdProxyIds :=
      fun created => original (shadows.anchors found anchored created)
    by_cases madeLater : anchorId ∈ aliased
    · obtain ⟨_, inRegistry, inPlain, _⟩ := shadows.aliases madeLater
      have missing : registry.records.get? anchorId = none := by
        cases held : registry.records.get? anchorId with
        | none => rfl
        | some anchor =>
            exact absurd ((consistent.exact found anchored).2.2 held).1 (inRegistry held)
      have missingPlain : plain.records.get? anchorId = none := by
        cases held : plain.records.get? anchorId with
        | none => rfl
        | some anchor =>
            exact absurd ((consistentPlain.exact foundPlain anchored).2.2 held).1 (inPlain held)
      rw [missing, missingPlain]
    · exact shadows.records outside madeLater

theorem untouched_other (shadows : Shadows drawn registry plain aliased checkpoint)
    (consistent : Consistent drawn registry)
    (untouched : key ∉ checkpoint.bindingsBefore.keys) :
    ∀ currentId ∈ checkpoint.createdProxyIds, registry.bindings.get? key ≠ some currentId := by
  intro currentId created bound
  obtain ⟨current, found, _, keyed, _⟩ := consistent.registered bound
  exact untouched (keyed ▸ (shadows.createdTouched created found).2.1)

/-! ## Flags -/

/-- The same flags change with and without the publication. -/
theorem reflags (shadows : Shadows drawn registry plain aliased checkpoint)
    {change changePlain : ProxyId → ProxyRecord carriers → ProxyRecord carriers}
    {next nextPlain : ProxyRegistry carriers} (effect : Reflags change registry next)
    (effectPlain : Reflags changePlain plain nextPlain)
    (same : ∀ {proxyId record}, proxyId ∉ checkpoint.createdProxyIds → proxyId ∉ aliased →
      registry.records.get? proxyId = some record →
      changePlain proxyId record = change proxyId record) :
    Shadows drawn next nextPlain aliased checkpoint := by
  have backward : ∀ {proxyId after}, next.records.get? proxyId = some after →
      ∃ before, registry.records.get? proxyId = some before ∧ before.Same after := by
    intro proxyId after found
    rw [effect.records] at found
    obtain ⟨before, was, rfl⟩ := Option.map_eq_some_iff.1 found
    exact ⟨before, was, effect.same proxyId before⟩
  refine ⟨effect.active.trans shadows.active, ?_, ?_, ?_, ?_, ?_, ?_, ?_, shadows.sameKeys, ?_, ?_,
    ?_, ?_⟩
  · rw [effect.bindings]
    exact shadows.bindingsHeld
  · rw [effect.bindingVersions]
    exact shadows.versionsHeld
  · rw [effect.bindings, effectPlain.bindings]
    exact shadows.bindings
  · rw [effect.bindingVersions, effectPlain.bindingVersions]
    exact shadows.versions
  · rw [effect.keys, effectPlain.keys]
    exact shadows.keys
  · intro proxyId foreign original
    rw [effect.records, effectPlain.records, shadows.records foreign original]
    cases found : registry.records.get? proxyId with
    | none => rfl
    | some record => exact congrArg some (same foreign original found)
  · intro proxyId created
    rw [effectPlain.records, (shadows.absent created).1]
    exact ⟨rfl, (shadows.absent created).2⟩
  · intro proxyId record created found
    obtain ⟨before, was, descriptor, anchor⟩ := backward found
    rw [descriptor, anchor, effect.bindings]
    exact shadows.createdTouched created was
  · intro key before touched
    rw [effect.bindings]
    exact shadows.touchedBound touched
  · intro proxyId member
    obtain ⟨early, inRegistry, inPlain, anchored⟩ := shadows.aliases member
    refine ⟨early, fun found => ?_, fun found => ?_, fun found at_ => ?_⟩
    · obtain ⟨before, was, _, anchor⟩ := backward found
      rw [anchor]
      exact inRegistry was
    · rw [effectPlain.records] at found
      obtain ⟨before, was, rfl⟩ := Option.map_eq_some_iff.1 found
      rw [(effectPlain.same proxyId before).2]
      exact inPlain was
    · obtain ⟨before, was, _, anchor⟩ := backward found
      rw [effect.keys]
      exact anchored was (anchor.symm.trans at_)
  · intro proxyId record anchorId found anchored created
    obtain ⟨before, was, _, anchor⟩ := backward found
    rw [anchor] at anchored
    exact shadows.anchors was anchored created

theorem later (shadows : Shadows drawn registry plain aliased checkpoint) {more : Nat}
    (reaches : drawn ≤ more) : Shadows more registry plain aliased checkpoint :=
  ⟨shadows.active, shadows.bindingsHeld, shadows.versionsHeld, shadows.bindings, shadows.versions,
    shadows.keys, shadows.records,
    fun created => ⟨(shadows.absent created).1,
      Nat.lt_of_lt_of_le (shadows.absent created).2 reaches⟩,
    shadows.sameKeys, shadows.createdTouched, shadows.touchedBound,
    fun member => ⟨Nat.lt_of_lt_of_le (shadows.aliases member).1 reaches,
      (shadows.aliases member).2⟩, shadows.anchors⟩

/-! ## Registrations -/

theorem fresh (shadows : Shadows drawn registry plain aliased checkpoint) :
    drawn ∉ checkpoint.createdProxyIds ++ aliased := by
  rw [List.mem_append]
  rintro (created | made)
  · exact Nat.lt_irrefl _ (shadows.absent created).2
  · exact Nat.lt_irrefl _ (shadows.aliases made).1

theorem apart (shadows : Shadows drawn registry plain aliased checkpoint)
    (member : proxyId ∈ checkpoint.createdProxyIds ++ aliased) : proxyId ≠ drawn := by
  rintro rfl
  exact shadows.fresh member

/-- The keys with a drawn identifier that belongs to neither side. -/
theorem keys_set (shadows : Shadows drawn registry plain aliased checkpoint)
    (consistent : Consistent drawn registry) (consistentPlain : Consistent drawn plain)
    (first second : ProxyRecord carriers) :
    (registry.records.set drawn first).keys.filter
        (fun proxyId => decide (proxyId ∉ checkpoint.createdProxyIds ++ aliased)) =
      (plain.records.set drawn second).keys.filter (fun proxyId => decide (proxyId ∉ aliased)) := by
  have foreign := shadows.fresh
  have original : drawn ∉ aliased := fun member => foreign (List.mem_append_right _ member)
  rw [Dictionary.keys_set_absent _ (Dictionary.get?_eq_none.1 consistent.fresh),
    Dictionary.keys_set_absent _ (Dictionary.get?_eq_none.1 consistentPlain.fresh),
    List.filter_append, List.filter_append, shadows.keys]
  simp only [foreign, original, List.filter_cons, List.filter_nil]

/-- A registration under another name is stored with and without the publication. -/
theorem store (shadows : Shadows drawn registry plain aliased checkpoint)
    (consistent : Consistent drawn registry) (consistentPlain : Consistent drawn plain)
    {registration : Registration carriers}
    (untouched : registration.key ∉ checkpoint.bindingsBefore.keys) :
    Shadows (drawn + 1) (registry.with drawn registration) (plain.with drawn registration) aliased
      checkpoint := by
  have given : plain.given drawn registration = registry.given drawn registration := by
    unfold ProxyRegistry.given
    rw [shadows.nextVersion untouched]
  have untouchedToo : registration.key ∉ checkpoint.bindingVersionsBefore.keys :=
    fun touched => untouched ((shadows.sameKeys _).2 touched)
  have aside : ∀ {key}, key ∈ checkpoint.bindingsBefore.keys → key ≠ registration.key := by
    rintro key touched rfl
    exact untouched touched
  unfold ProxyRegistry.with
  rw [given]
  refine ⟨shadows.active, Dictionary.Holds.set shadows.bindingsHeld _ _, Dictionary.Holds.set shadows.versionsHeld _ _, ?_, ?_,
    shadows.keys_set consistent consistentPlain _ _, ?_, ?_, shadows.sameKeys, ?_, ?_, ?_, ?_⟩
  · refine (Dictionary.undo_set_untouched shadows.bindingsHeld _ untouched).trans ?_
    rw [shadows.bindings]
    rfl
  · refine (Dictionary.undo_set_untouched shadows.versionsHeld _ untouchedToo).trans ?_
    rw [shadows.versions]
    rfl
  · intro proxyId foreign original
    by_cases is : proxyId = drawn
    · subst is
      exact (Dictionary.get?_set_same _ _ _).trans (Dictionary.get?_set_same _ _ _).symm
    · exact (Dictionary.get?_set_other _ _ is).trans
        ((shadows.records foreign original).trans (Dictionary.get?_set_other _ _ is).symm)
  · intro proxyId created
    have other := shadows.apart (List.mem_append_left _ created)
    obtain ⟨missing, early⟩ := shadows.absent created
    exact ⟨(Dictionary.get?_set_other _ _ other).trans missing, Nat.lt_succ_of_lt early⟩
  · intro proxyId record created found
    have other := shadows.apart (List.mem_append_left _ created)
    have was := (Dictionary.get?_set_other _ _ other).symm.trans found
    obtain ⟨registered, touched, currentId, ours, bound⟩ := shadows.createdTouched created was
    exact ⟨registered, touched, currentId, ours,
      (Dictionary.get?_set_other _ _ (aside touched)).trans bound⟩
  · intro key before touched
    have other := aside (Dictionary.mem_keys.2 ⟨before, touched⟩)
    have same := @Dictionary.get?_set_other _ _ _ registry.bindings registration.key key drawn other
    rcases shadows.touchedBound touched with was | ⟨currentId, ours, bound⟩
    · exact .inl (same.trans was)
    · exact .inr ⟨currentId, ours, same.trans bound⟩
  · intro proxyId member
    have other := shadows.apart (List.mem_append_right _ member)
    obtain ⟨early, inRegistry, inPlain, anchored⟩ := shadows.aliases member
    exact ⟨Nat.lt_succ_of_lt early,
      fun found => inRegistry ((Dictionary.get?_set_other _ _ other).symm.trans found),
      fun found => inPlain ((Dictionary.get?_set_other _ _ other).symm.trans found),
      fun found at_ => Dictionary.mem_keys_set.2
        (.inr (anchored ((Dictionary.get?_set_other _ _ other).symm.trans found) at_))⟩
  · intro proxyId record anchorId found anchored created
    rcases Dictionary.get?_set_eq_some.1 found with ⟨_, rfl⟩ | ⟨_, was⟩
    · cases anchored
    · exact shadows.anchors was anchored created

/-- A touch of the publication. -/
theorem touch (shadows : Shadows drawn registry plain aliased checkpoint) (key : BindingKey) :
    Shadows drawn (registry.touch checkpoint key) plain aliased { checkpoint with
      bindingsBefore := checkpoint.bindingsBefore.touched registry.bindings key
      bindingVersionsBefore :=
        checkpoint.bindingVersionsBefore.touched registry.bindingVersions key } := by
  refine ⟨rfl, Dictionary.Holds.touch shadows.bindingsHeld key, Dictionary.Holds.touch shadows.versionsHeld key, ?_, ?_, shadows.keys,
    shadows.records, shadows.absent, ?_, ?_, ?_, shadows.aliases, shadows.anchors⟩
  · exact (Dictionary.undo_touched shadows.bindingsHeld key).trans shadows.bindings
  · exact (Dictionary.undo_touched shadows.versionsHeld key).trans shadows.versions
  · intro other
    rw [Dictionary.mem_keys_touched, Dictionary.mem_keys_touched, shadows.sameKeys]
  · intro proxyId record created found
    obtain ⟨registered, touched, bound⟩ := shadows.createdTouched created found
    exact ⟨registered, Dictionary.mem_keys_touched.2 (.inr touched), bound⟩
  · intro other before touched
    by_cases earlier : other ∈ checkpoint.bindingsBefore.keys
    · have was : checkpoint.bindingsBefore.get? other = some before := by
        by_cases same : other = key
        · subst same
          simp only [Dictionary.touched] at touched
          rwa [if_pos earlier] at touched
        · rwa [Dictionary.get?_touched_other same] at touched
      exact shadows.touchedBound was
    · have same : other = key :=
        (Dictionary.mem_keys_touched.1 (Dictionary.mem_keys.2 ⟨before, touched⟩)).resolve_right
          earlier
      subst same
      rw [Dictionary.get?_touched_same earlier] at touched
      exact .inl (Option.some.inj touched)

/-- A registration of the publication under a touched name. -/
theorem own (shadows : Shadows drawn registry plain aliased checkpoint)
    (consistent : Consistent drawn registry) (consistentPlain : Consistent drawn plain)
    {registration : Registration carriers} (token : Nat)
    (touched : registration.key ∈ checkpoint.bindingsBefore.keys) :
    Shadows (drawn + 1) ((registry.with drawn registration).created drawn (some token)) plain
      aliased { checkpoint with createdProxyIds := checkpoint.createdProxyIds ++ [drawn] } := by
  have absent : drawn ∉ registry.records.keys := Dictionary.get?_eq_none.1 consistent.fresh
  have keep : ∀ {key currentId}, registry.bindings.get? key = some currentId →
      currentId ∈ checkpoint.createdProxyIds → ∃ other ∈ checkpoint.createdProxyIds ++ [drawn],
        (registry.bindings.set registration.key drawn).get? key = some other := by
    intro key currentId bound ours
    by_cases same : key = registration.key
    · subst same
      exact ⟨drawn, by simp, Dictionary.get?_set_same _ _ _⟩
    · exact ⟨currentId, List.mem_append_left _ ours,
        (Dictionary.get?_set_other _ _ same).trans bound⟩
  refine ⟨?_, Dictionary.Holds.set shadows.bindingsHeld _ _, Dictionary.Holds.set shadows.versionsHeld _ _, ?_, ?_, ?_, ?_, ?_,
    shadows.sameKeys, ?_, ?_, ?_, ?_⟩
  · change registry.activeCapturePublication.map _ = _
    rw [shadows.active]
    rfl
  · exact (Dictionary.undo_set_touched shadows.bindingsHeld _ touched).trans shadows.bindings
  · exact (Dictionary.undo_set_touched shadows.versionsHeld _
      ((shadows.sameKeys _).1 touched)).trans shadows.versions
  · rw [← shadows.keys]
    refine (congrArg (List.filter _) (Dictionary.keys_set_absent _ absent)).trans ?_
    rw [List.filter_append]
    have last : [drawn].filter (fun proxyId => decide (proxyId ∉
        (checkpoint.createdProxyIds ++ [drawn]) ++ aliased)) = [] := by simp
    refine (congrArg (_ ++ ·) last).trans ?_
    rw [List.append_nil]
    refine List.filter_congr fun proxyId member => decide_eq_decide.2 ?_
    have other : proxyId ≠ drawn := by
      rintro rfl
      exact absent member
    simp [other]
  · intro proxyId foreign original
    have parts := not_or.1 (mt List.mem_append.2 foreign)
    have other : proxyId ≠ drawn := fun is => parts.2 (List.mem_singleton.2 is)
    exact (shadows.records parts.1 original).trans (Dictionary.get?_set_other _ _ other).symm
  · intro proxyId created
    rcases List.mem_append.1 created with earlier | now
    · exact ⟨(shadows.absent earlier).1, Nat.lt_succ_of_lt (shadows.absent earlier).2⟩
    · rw [List.mem_singleton.1 now]
      exact ⟨consistentPlain.fresh, Nat.lt_succ_self _⟩
  · intro proxyId record created found
    rcases Dictionary.get?_set_eq_some.1 found with ⟨_, rfl⟩ | ⟨other, was⟩
    · exact ⟨rfl, touched, drawn, by simp, Dictionary.get?_set_same _ _ _⟩
    · have earlier : proxyId ∈ checkpoint.createdProxyIds :=
        (List.mem_append.1 created).resolve_right fun now => other (List.mem_singleton.1 now)
      obtain ⟨registered, wasTouched, currentId, ours, bound⟩ := shadows.createdTouched earlier was
      exact ⟨registered, wasTouched, keep bound ours⟩
  · intro key before was
    rcases shadows.touchedBound was with bound | ⟨currentId, ours, bound⟩
    · by_cases same : key = registration.key
      · subst same
        exact .inr ⟨drawn, by simp, Dictionary.get?_set_same _ _ _⟩
      · exact .inl ((Dictionary.get?_set_other _ _ same).trans bound)
    · exact .inr (keep bound ours)
  · intro proxyId member
    have other := shadows.apart (List.mem_append_right _ member)
    obtain ⟨early, inRegistry, inPlain, anchored⟩ := shadows.aliases member
    exact ⟨Nat.lt_succ_of_lt early,
      fun found => inRegistry ((Dictionary.get?_set_other _ _ other).symm.trans found), inPlain,
      fun found at_ => Dictionary.mem_keys_set.2
        (.inr (anchored ((Dictionary.get?_set_other _ _ other).symm.trans found) at_))⟩
  · intro proxyId record anchorId found anchored created
    rcases Dictionary.get?_set_eq_some.1 found with ⟨_, rfl⟩ | ⟨_, was⟩
    · cases anchored
    · rcases List.mem_append.1 created with earlier | now
      · exact shadows.anchors was anchored earlier
      · exact absurd (List.mem_singleton.1 now) (Nat.ne_of_lt (consistent.exact was anchored).2.1)

end Shadows

end OnecRuntime.Proxies
