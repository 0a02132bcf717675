import OnecRuntime.Proxies.Shading

/-!
# Answers after a rollback

A rollback leaves a consistent registry in which every proxy but the aliases of touched
names is answered as in the registry without the publication.
-/

namespace OnecRuntime.Proxies

open OnecRuntime.Library

variable {carriers : Carriers} {drawn : Nat} {registry plain : ProxyRegistry carriers}
  {aliased : List ProxyId} {checkpoint : CapturePublicationCheckpoint carriers}
  {world : World carriers}

namespace Shadows

variable {proxyId : ProxyId}

theorem rewound_get? (created : List ProxyId) {record : ProxyRecord carriers}
    (found : (registry.records.eraseAll created).get? proxyId = some record) :
    proxyId ∉ created ∧ registry.records.get? proxyId = some record := by
  have foreign : proxyId ∉ created := by
    intro member
    rw [Dictionary.get?_eraseAll_removed _ member] at found
    cases found
  exact ⟨foreign, by rwa [Dictionary.get?_eraseAll_kept _ foreign] at found⟩

/-- A proxy that is no alias of a touched name is the same after the rollback. -/
theorem rewound_records (shadows : Shadows drawn registry plain aliased checkpoint)
    (original : proxyId ∉ aliased) :
    (registry.rewound checkpoint).records.get? proxyId = plain.records.get? proxyId := by
  by_cases created : proxyId ∈ checkpoint.createdProxyIds
  · rw [(shadows.absent created).1]
    exact Dictionary.get?_eraseAll_removed _ created
  · rw [shadows.records created original]
    exact Dictionary.get?_eraseAll_kept _ created

theorem bound_original (shadows : Shadows drawn registry plain aliased checkpoint)
    (consistentPlain : Consistent drawn plain) {key : BindingKey} {currentId : ProxyId}
    (bound : plain.bindings.get? key = some currentId) : currentId ∉ aliased := by
  obtain ⟨record, found, registered, _⟩ := consistentPlain.registered bound
  exact fun member => (shadows.aliases member).2.2.1 found registered

/-- A rollback keeps the registry consistent, unless an alias of a first registration is left
without a binding. -/
theorem rewound_consistent (shadows : Shadows drawn registry plain aliased checkpoint)
    (consistent : Consistent drawn registry) (consistentPlain : Consistent drawn plain)
    (named : ∀ {aliasId record anchorId}, registry.records.get? aliasId = some record →
      record.exactAnchorId = some anchorId → anchorId ∈ checkpoint.createdProxyIds →
      checkpoint.bindingsBefore.get? record.descriptor.key ≠ some none) :
    Consistent drawn (registry.rewound checkpoint) := by
  have bindings : (registry.rewound checkpoint).bindings = plain.bindings := shadows.bindings
  have versions : (registry.rewound checkpoint).bindingVersions = plain.bindingVersions :=
    shadows.versions
  have registration : ∀ {proxyId record},
      (registry.rewound checkpoint).records.get? proxyId = some record →
      record.exactAnchorId = none → plain.records.get? proxyId = some record := by
    intro proxyId record found registered
    obtain ⟨foreign, was⟩ := rewound_get? _ found
    exact (shadows.records foreign (shadows.not_aliased was registered)).trans was
  refine ⟨?_, ?_, ?_, ?_, ?_, ?_, ?_⟩
  · intro proxyId record found
    exact consistent.old (rewound_get? _ found).2
  · intro proxyId record found
    exact consistent.own (rewound_get? _ found).2
  · intro proxyId record found
    obtain ⟨foreign, was⟩ := rewound_get? _ found
    rw [bindings]
    by_cases original : proxyId ∈ aliased
    · obtain ⟨_, inRegistry, _, anchors⟩ := shadows.aliases original
      cases anchored : record.exactAnchorId with
      | none => exact absurd anchored (inRegistry was)
      | some anchorId =>
          obtain ⟨anchor, foundAnchor⟩ := Dictionary.mem_keys.1 (anchors was anchored)
          obtain ⟨registered, _, same⟩ := (consistent.exact was anchored).2.2 foundAnchor
          have key : record.descriptor.key = anchor.descriptor.key := by
            rw [same]
            rfl
          by_cases created : anchorId ∈ checkpoint.createdProxyIds
          · rw [← shadows.bindings, Dictionary.get?_undo]
            cases touched : checkpoint.bindingsBefore.get? record.descriptor.key with
            | none => exact consistent.bound was
            | some before =>
                cases before with
                | none => exact absurd touched (named was anchored created)
                | some held => exact ⟨held, rfl⟩
          · rw [key]
            exact consistentPlain.bound ((shadows.records created
              (shadows.not_aliased foundAnchor registered)).trans foundAnchor)
    · exact consistentPlain.bound ((shadows.records foreign original).trans was)
  · intro key currentId bound
    rw [bindings] at bound
    rw [versions]
    have original := shadows.bound_original consistentPlain bound
    obtain ⟨record, found, rest⟩ := consistentPlain.registered bound
    exact ⟨record, (shadows.rewound_records original).trans found, rest⟩
  · intro proxyId record found registered
    rw [versions]
    exact consistentPlain.versioned (registration found registered) registered
  · intro first second firstRecord secondRecord one two registered registeredToo
    exact consistentPlain.distinct (registration one registered) (registration two registeredToo)
      registered registeredToo
  · intro proxyId record anchorId found anchored
    obtain ⟨exact, early, describes⟩ := consistent.exact (rewound_get? _ found).2 anchored
    exact ⟨exact, early, fun foundAnchor => describes (rewound_get? _ foundAnchor).2⟩

/-! ## Answers -/

theorem rewound_resolve (shadows : Shadows drawn registry plain aliased checkpoint)
    (consistent : Consistent drawn registry) (consistentPlain : Consistent drawn plain)
    (original : proxyId ∉ aliased) :
    (registry.rewound checkpoint).resolve proxyId = plain.resolve proxyId := by
  have same := shadows.rewound_records original
  cases known : plain.records.get? proxyId with
  | none => rw [resolve_unknown known, resolve_unknown (same.trans known)]
  | some record =>
      have foreign : proxyId ∉ checkpoint.createdProxyIds := by
        intro created
        rw [(shadows.absent created).1] at known
        cases known
      have found : registry.records.get? proxyId = some record :=
        (shadows.records foreign original).symm.trans known
      refine AgreesOn.resolve ⟨known, same.trans known, ?_, fun bound => ?_, fun anchored => ?_⟩
      · exact congrArg (Dictionary.get? · _) shadows.bindings
      · exact shadows.rewound_records (shadows.bound_original consistentPlain bound)
      · rename_i anchorId
        have outside : anchorId ∉ checkpoint.createdProxyIds :=
          fun created => original (shadows.anchors found anchored created)
        by_cases madeLater : anchorId ∈ aliased
        · -- an anchor is no alias, so neither registry has it
          obtain ⟨_, inRegistry, inPlain, _⟩ := shadows.aliases madeLater
          have missing : plain.records.get? anchorId = none := by
            cases held : plain.records.get? anchorId with
            | none => rfl
            | some anchor =>
                exact absurd ((consistentPlain.exact known anchored).2.2 held).1 (inPlain held)
          have gone : registry.records.get? anchorId = none := by
            cases held : registry.records.get? anchorId with
            | none => rfl
            | some anchor =>
                exact absurd ((consistent.exact found anchored).2.2 held).1 (inRegistry held)
          rw [missing]
          exact (Dictionary.get?_eraseAll_kept _ outside).trans gone
        · exact shadows.rewound_records madeLater

theorem rewound_current (shadows : Shadows drawn registry plain aliased checkpoint)
    (consistentPlain : Consistent drawn plain) (realm : Option ProxyRealm) :
    (registry.rewound checkpoint).current realm = plain.current realm := by
  unfold ProxyRegistry.current
  rw [show (registry.rewound checkpoint).bindings = plain.bindings from shadows.bindings]
  have same : ∀ binding ∈ plain.bindings.entries,
      (registry.rewound checkpoint).listed realm binding = plain.listed realm binding := by
    intro binding member
    have bound : plain.bindings.get? binding.1 = some binding.2 := Dictionary.get?_eq_some.2 member
    unfold ProxyRegistry.listed ProxyRegistry.currentRecord
    rw [shadows.rewound_records (shadows.bound_original consistentPlain bound)]
  rw [mapM_same same]

theorem rewound_resolveName (shadows : Shadows drawn registry plain aliased checkpoint)
    (consistent : Consistent drawn registry) (consistentPlain : Consistent drawn plain)
    (qualifiedName : CodeText) :
    (registry.rewound checkpoint).resolveName qualifiedName = plain.resolveName qualifiedName := by
  unfold ProxyRegistry.resolveName
  rw [show (registry.rewound checkpoint).bindings = plain.bindings from shadows.bindings]
  refine bind_congr fun _ => bind_congr fun realm => ?_
  cases bound : plain.bindings.get? (bindingKey carriers realm qualifiedName) with
  | none => rfl
  | some currentId =>
      exact shadows.rewound_resolve consistent consistentPlain
        (shadows.bound_original consistentPlain bound)

/-- The records beside the aliases of touched names are the same, in the same order. -/
theorem rewound_original (shadows : Shadows drawn registry plain aliased checkpoint) :
    (registry.rewound checkpoint).records.eraseAll aliased = plain.records.eraseAll aliased := by
  refine Dictionary.eq_of_keys_of_get? ?_ fun proxyId => ?_
  · rw [Dictionary.keys_eraseAll, Dictionary.keys_eraseAll, ← shadows.keys]
    refine (congrArg (List.filter _) (Dictionary.keys_eraseAll _ _)).trans ?_
    rw [List.filter_filter]
    refine List.filter_congr fun proxyId _ => ?_
    simp [and_comm]
  · by_cases member : proxyId ∈ aliased
    · rw [Dictionary.get?_eraseAll_removed _ member, Dictionary.get?_eraseAll_removed _ member]
    · rw [Dictionary.get?_eraseAll_kept _ member, Dictionary.get?_eraseAll_kept _ member]
      exact shadows.rewound_records member

/-- The registrations of a name do not involve aliases. -/
theorem registrations_eraseAll {some_ : ProxyRegistry carriers} {aliased : List ProxyId}
    (aliases : ∀ {proxyId record}, proxyId ∈ aliased → some_.records.get? proxyId = some record →
      record.exactAnchorId ≠ none) (key : BindingKey) :
    some_.registrations key =
      ((some_.records.eraseAll aliased).entries.filter fun entry =>
        decide (entry.2.descriptor.key = key) && entry.2.exactAnchorId.isNone).map
          (·.2.descriptor) := by
  unfold ProxyRegistry.registrations Dictionary.eraseAll
  simp only [List.filter_filter]
  congr 1
  refine List.filter_congr fun entry member => ?_
  by_cases made : entry.1 ∈ aliased
  · have exact := aliases made (Dictionary.get?_eq_some.2 member)
    cases anchored : entry.2.exactAnchorId with
    | none => exact absurd anchored exact
    | some anchorId => simp
  · simp [made]

theorem rewound_history (shadows : Shadows drawn registry plain aliased checkpoint)
    (qualifiedName : CodeText) :
    (registry.rewound checkpoint).history qualifiedName = plain.history qualifiedName := by
  have same : ∀ key, (registry.rewound checkpoint).registrations key = plain.registrations key := by
    intro key
    rw [@registrations_eraseAll _ _ aliased (fun member found =>
        (shadows.aliases member).2.1 (rewound_get? _ found).2),
      @registrations_eraseAll _ _ aliased (fun member found =>
        (shadows.aliases member).2.2.1 found), shadows.rewound_original]
  unfold ProxyRegistry.history
  simp only [same]

end Shadows

end OnecRuntime.Proxies
