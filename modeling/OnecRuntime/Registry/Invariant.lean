import OnecRuntime.Registry.Lifecycle

/-!
# Exact reference counts

The demand for a registration is what the generation records ask of it. In an
exact registry every stored count is the demand, the entries are the names in
demand, every record is live, and the pins of a record are its leases. Collecting
the dead records changes no demand, so a release need only account for the one
record it touches.
-/

namespace OnecRuntime.Registry

open OnecRuntime.Library

variable {naming : Naming} {V : Type}

namespace GenerationRecord

/-- One reference for an active or retained record and one for each operation pin. -/
def references (record : GenerationRecord naming V) (name : String) : Nat :=
  if name ∈ record.manifest.registrationNames then
    (if record.active || record.explicitlyRetained then 1 else 0) + record.operationPins
  else 0

variable {record : GenerationRecord naming V}

theorem references_of_mem {name : String}
    (member : name ∈ record.manifest.registrationNames) :
    record.references name =
      (if record.active || record.explicitlyRetained then 1 else 0) + record.operationPins :=
  if_pos member

theorem references_pos {name : String}
    (live : record.isLive = true) (member : name ∈ record.manifest.registrationNames) :
    0 < record.references name := by
  rw [references_of_mem member]
  unfold isLive at live
  cases held : (record.active || record.explicitlyRetained) with
  | true => simp
  | false =>
      rw [held] at live
      simpa using live

theorem references_of_dead (dead : record.isLive = false)
    (name : String) : record.references name = 0 := by
  unfold isLive at dead
  obtain ⟨unheld, unpinned⟩ := Bool.or_eq_false_iff.1 dead
  have none : record.operationPins = 0 := by simpa using unpinned
  unfold references
  rw [unheld, none]
  simp

end GenerationRecord

def demandIn (generations : Dictionary Nat (GenerationRecord naming V)) (name : String) : Nat :=
  generations.total fun record => record.references name

theorem demandIn_set {generations : Dictionary Nat (GenerationRecord naming V)} {generation : Nat}
    {old : GenerationRecord naming V} (record : GenerationRecord naming V)
    (stored : generations.get? generation = some old) (name : String) :
    demandIn (generations.set generation record) name + old.references name =
      demandIn generations name + record.references name :=
  Dictionary.total_set_stored _ record stored

theorem demandIn_set_absent {generations : Dictionary Nat (GenerationRecord naming V)}
    {generation : Nat} (record : GenerationRecord naming V)
    (absent : generations.get? generation = none) (name : String) :
    demandIn (generations.set generation record) name =
      demandIn generations name + record.references name :=
  Dictionary.total_set_absent _ record absent

/-- The counts are a demand and the entries are the names in demand. -/
structure Counted (demand : String → Nat) (refcounts : Refcounts) (artifacts : Artifacts) :
    Prop where
  counts : ∀ name, countOf refcounts name = demand name
  stored : ∀ name, name ∈ refcounts.keys ↔ 0 < demand name
  owned : ∀ name, name ∈ artifacts.keys ↔ 0 < demand name

variable {refcounts : Refcounts} {artifacts : Artifacts}

theorem Counted.congr {first second : String → Nat}
    (counted : Counted first refcounts artifacts)
    (same : ∀ name, second name = first name) : Counted second refcounts artifacts := by
  have equal : second = first := funext same
  rw [equal]
  exact counted

/-- Removing the zero counts leaves exactly the names in demand. -/
theorem removal_counted (naming : Naming) {demand : String → Nat}
    (counts : ∀ name, countOf refcounts name = demand name)
    (same : ∀ name, name ∈ artifacts.keys ↔ name ∈ refcounts.keys) :
    Counted demand (removeZeroRegistrationRefcounts naming refcounts artifacts []).refcounts
      (removeZeroRegistrationRefcounts naming refcounts artifacts []).artifacts where
  counts name := (countOf_removed naming artifacts).trans (counts name)
  stored name := by rw [mem_keys_removed, counts]
  owned name := by rw [mem_keys_removed_artifacts naming artifacts (same name), counts]

/-- Rebuilding both dictionaries from their sorted items keeps them counted. -/
theorem Counted.ofSortedItems (naming : Naming) {demand : String → Nat}
    (counted : Counted demand refcounts artifacts) :
    Counted demand (.ofItems (sortedItems naming refcounts.entries))
      (.ofItems (sortedItems naming artifacts.entries)) where
  counts name := by
    unfold countOf sortedItems
    rw [Dictionary.get?_ofItems_of_perm (List.perm_insertionSort _ _)]
    exact counted.counts name
  stored name := by
    unfold sortedItems
    rw [Dictionary.mem_keys, Dictionary.get?_ofItems_of_perm (List.perm_insertionSort _ _),
      ← Dictionary.mem_keys]
    exact counted.stored name
  owned name := by
    unfold sortedItems
    rw [Dictionary.mem_keys, Dictionary.get?_ofItems_of_perm (List.perm_insertionSort _ _),
      ← Dictionary.mem_keys]
    exact counted.owned name

namespace WorkerUniverseRegistry

def demand (registry : WorkerUniverseRegistry naming V) (name : String) : Nat :=
  demandIn registry.generations name

/-- The number of leases of a generation. -/
def leasesOn (registry : WorkerUniverseRegistry naming V) (generation : Nat) : Nat :=
  registry.leases.total fun lease =>
    if lease.pin.handle.generation = generation then 1 else 0

/-- How the records, the active generation, the leases and the pending candidate
refer to each other. -/
structure Referenced (registry : WorkerUniverseRegistry naming V) : Prop where
  active : ∀ generation record, registry.generations.get? generation = some record →
    (record.active = true ↔ registry.activeGeneration = some generation)
  activeStored : ∀ generation, registry.activeGeneration = some generation →
    generation ∈ registry.generations.keys
  handles : ∀ generation record, registry.generations.get? generation = some record →
    record.handle.generation = generation
  pins : ∀ generation record, registry.generations.get? generation = some record →
    record.operationPins = registry.leasesOn generation
  leased : ∀ leaseId lease, registry.leases.get? leaseId = some lease →
    lease.pin.leaseId = leaseId ∧
      ∃ record, registry.generations.get? lease.pin.handle.generation = some record ∧
        record.handle = lease.pin.handle
  numbered : ∀ generation ∈ registry.generations.keys, generation < registry.nextGeneration
  pendingNew : ∀ candidate, registry.pending = some candidate →
    candidate.handle.generation ∉ registry.generations.keys ∧
      candidate.handle.generation < registry.nextGeneration
  holds : registry.quarantineHolds ≠ [] → registry.state = .broken

structure Exact (registry : WorkerUniverseRegistry naming V) : Prop extends
    Referenced registry where
  counted : Counted registry.demand registry.registrationRefcounts registry.registrationArtifacts
  live : ∀ generation record, registry.generations.get? generation = some record →
    record.isLive = true

variable {registry : WorkerUniverseRegistry naming V}

variable {generation : Nat} {record : GenerationRecord naming V}

theorem Exact.name_stored (exact : Exact registry)
    (stored : registry.generations.get? generation = some record)
    {name : String} (member : name ∈ record.manifest.registrationNames) :
    0 < registry.demand name :=
  Nat.lt_of_lt_of_le
    (GenerationRecord.references_pos (exact.live generation record stored) member)
    (Dictionary.weight_le_total (fun record => record.references name)
      (Dictionary.get?_eq_some.1 stored))

theorem Referenced.holds_empty (referenced : Referenced registry)
    (available : registry.state ≠ .broken) : registry.quarantineHolds = [] := by
  by_contra held
  exact available (referenced.holds held)

/-- The references do not depend on the counts. -/
theorem Referenced.withCounts (referenced : Referenced registry) (refcounts : Refcounts)
    (artifacts : Artifacts) :
    Referenced { registry with
      registrationRefcounts := refcounts, registrationArtifacts := artifacts } :=
  ⟨referenced.active, referenced.activeStored, referenced.handles, referenced.pins,
    referenced.leased, referenced.numbered, referenced.pendingNew, referenced.holds⟩

/-! ## Collecting dead records -/

theorem mem_deadGenerations (stored : registry.generations.get? generation = some record) :
    generation ∈ registry.deadGenerations ↔ record.isLive = false := by
  unfold deadGenerations
  constructor
  · intro member
    obtain ⟨⟨_, found⟩, dead, rfl⟩ := List.mem_map.1 member
    obtain ⟨inside, dead⟩ := List.mem_filter.1 dead
    have same : found = record :=
      Dictionary.eq_of_mem registry.generations.distinct inside (Dictionary.get?_eq_some.1 stored)
    subst same
    simpa using dead
  · intro dead
    exact List.mem_map.2 ⟨(generation, record),
      List.mem_filter.2 ⟨Dictionary.get?_eq_some.1 stored, by simp [dead]⟩, rfl⟩

theorem get?_collected :
    registry.collectUnretainedGenerations.generations.get? generation = some record ↔
      registry.generations.get? generation = some record ∧ record.isLive = true := by
  have kept : registry.collectUnretainedGenerations.generations.get? generation = some record ↔
      generation ∉ registry.deadGenerations ∧
        registry.generations.get? generation = some record := by
    rw [Dictionary.get?_eq_some, Dictionary.get?_eq_some]
    exact Dictionary.mem_eraseAll
  rw [kept]
  constructor
  · rintro ⟨apart, stored⟩
    rw [mem_deadGenerations stored] at apart
    exact ⟨stored, by simpa using apart⟩
  · rintro ⟨stored, live⟩
    exact ⟨by simp [mem_deadGenerations stored, live], stored⟩

theorem demand_collected (name : String) :
    registry.collectUnretainedGenerations.demand name = registry.demand name := by
  refine Dictionary.total_eraseAll_of_zero (GenerationRecord.references · name) ?_
  intro entry member removed
  have stored := Dictionary.get?_eq_some.2 member
  exact GenerationRecord.references_of_dead ((mem_deadGenerations stored).1 removed) name

theorem total_pos_of_mem {κ ν : Type} [DecidableEq κ] {dictionary : Dictionary κ ν} {key : κ}
    {value : ν} {weight : ν → Nat} (stored : dictionary.get? key = some value)
    (heavy : 0 < weight value) : 0 < dictionary.total weight :=
  Nat.lt_of_lt_of_le heavy
    (Dictionary.weight_le_total weight (Dictionary.get?_eq_some.1 stored))

/-- Active and leased records are live, so collecting keeps every reference. -/
theorem Referenced.collected (referenced : Referenced registry) :
    Referenced registry.collectUnretainedGenerations where
  active generation record stored := referenced.active generation record (get?_collected.1 stored).1
  activeStored generation isActive := by
    obtain ⟨record, stored⟩ := Dictionary.mem_keys.1 (referenced.activeStored generation isActive)
    have marked := (referenced.active generation record stored).2 isActive
    exact Dictionary.mem_keys.2 ⟨record, get?_collected.2 ⟨stored, by
      simp [GenerationRecord.isLive, marked]⟩⟩
  handles generation record stored := referenced.handles generation record (get?_collected.1 stored).1
  pins generation record stored := referenced.pins generation record (get?_collected.1 stored).1
  leased leaseId lease stored := by
    obtain ⟨named, record, recorded, same⟩ := referenced.leased leaseId lease stored
    have counted : record.operationPins = registry.leasesOn lease.pin.handle.generation :=
      referenced.pins _ record recorded
    have pinned : 0 < registry.leasesOn lease.pin.handle.generation :=
      total_pos_of_mem stored (by simp)
    exact ⟨named, record, get?_collected.2 ⟨recorded, by
      simp [GenerationRecord.isLive, counted, pinned]⟩, same⟩
  numbered generation member := by
    obtain ⟨record, stored⟩ := Dictionary.mem_keys.1 member
    exact referenced.numbered generation
      (Dictionary.mem_keys.2 ⟨record, (get?_collected.1 stored).1⟩)
  pendingNew candidate isPending := by
    obtain ⟨absent, bound⟩ := referenced.pendingNew candidate isPending
    refine ⟨fun member => absent ?_, bound⟩
    obtain ⟨record, stored⟩ := Dictionary.mem_keys.1 member
    exact Dictionary.mem_keys.2 ⟨record, (get?_collected.1 stored).1⟩
  holds := referenced.holds

/-- A registry whose references are consistent and counted is exact once collected. -/
theorem Referenced.exact_collected (referenced : Referenced registry)
    (counted : Counted registry.demand registry.registrationRefcounts
      registry.registrationArtifacts) :
    Exact registry.collectUnretainedGenerations where
  toReferenced := referenced.collected
  counted := counted.congr demand_collected
  live _ _ stored := (get?_collected.1 stored).2

end WorkerUniverseRegistry

end OnecRuntime.Registry
