import Mathlib.Data.Finset.Card
import Mathlib.Data.Finset.Dedup
import OnecRuntime.Files.Coalescer

/-!
# What a report of file changes tells

The files that exist before a batch of events and after it, what a report has to tell of the
difference, and when it does. The coalescer keeps one change for each path and not whether the
file existed, so a file that appears, is deleted and appears again is told as a change.
-/

namespace OnecRuntime.Files

open OnecRuntime.Library

/-! ## The files of a batch -/

section Files

variable (initial : String → Bool)

/-- The files there are after an event. -/
def after (there : String → Bool) (event : FileEvent) : String → Bool :=
  Function.update there event.uri (decide (event.type ≠ .deleted))

/-- The files there are after some events. -/
def present (events : List FileEvent) : String → Bool := events.foldl after initial

/-- A file is created where there is none, and changed or deleted where there is one. -/
def allowed (there : String → Bool) (event : FileEvent) : Prop :=
  there event.uri = decide (event.type ≠ .created)

/-- Events of which each may happen after those before it. -/
inductive Consistent : List FileEvent → Prop where
  | none : Consistent []
  | next {events : List FileEvent} {event : FileEvent} (before : Consistent events)
      (may : allowed (present initial events) event) : Consistent (events ++ [event])

end Files

def touched (events : List FileEvent) : Finset String := (events.map FileEvent.uri).toFinset

def deletes (events : List FileEvent) (path : String) : Prop := ⟨path, .deleted⟩ ∈ events

/-- A file that appears in a batch in which it is deleted. -/
def Reappears (initial : String → Bool) (events : List FileEvent) (path : String) : Prop :=
  initial path = false ∧ present initial events path = true ∧ deletes events path

section Reports

variable (pathname : String → String) (initial : String → Bool) (events : List FileEvent)

/-- What has to be reported of the paths where no restart is asked for. -/
structure Net (reported : List FileEvent) : Prop where
  created : ∀ path, initial path = false → present initial events path = true →
    ⟨path, .created⟩ ∈ reported
  deleted : ∀ path, initial path = true → present initial events path = false →
    ⟨path, .deleted⟩ ∈ reported
  changed : ∀ path, path ∈ touched events → initial path = true →
    present initial events path = true → ⟨path, .changed⟩ ∈ reported
  silent : ∀ event ∈ reported, event.uri ∈ touched events

/-- A report that tells the net truth, or asks for a restart, and asks for one where it has to. -/
structure Truthful (flushed : Flushed) : Prop where
  net : flushed.restart = false → Net initial events flushed.events
  once : (flushed.events.map FileEvent.uri).Nodup
  restarts : ∀ path, structuralPath (pathname path) = true ∨ canonicalPath (pathname path) = true →
    initial path ≠ present initial events path → flushed.restart = true
  dropped : maximalPaths < (touched events).card → flushed.restart = true

/-- The events that have a restart asked for. -/
def RestartCause : Prop :=
  (∃ event ∈ events, event.type ≠ .changed ∧ structuralPath (pathname event.uri) = true) ∨
    maximalPaths < (touched events).card ∨
    ∃ path ∈ touched events, canonicalPath (pathname path) = true ∧
      (present initial events path = false ∨ initial path = false ∧ ¬deletes events path)

end Reports

/-! ## One event -/

section Event

variable {initial : String → Bool} {events : List FileEvent} {event : FileEvent} {path : String}

theorem present_append (initial : String → Bool) (events : List FileEvent) (event : FileEvent) :
    present initial (events ++ [event]) = after (present initial events) event := by
  simp [present]

theorem present_here (initial : String → Bool) (events : List FileEvent) (event : FileEvent) :
    present initial (events ++ [event]) event.uri = decide (event.type ≠ .deleted) := by
  rw [present_append, after, Function.update_self]

theorem present_other (initial : String → Bool) (events : List FileEvent)
    (other : path ≠ event.uri) :
    present initial (events ++ [event]) path = present initial events path := by
  rw [present_append, after, Function.update_of_ne other]

theorem touched_append (events : List FileEvent) (event : FileEvent) :
    touched (events ++ [event]) = insert event.uri (touched events) := by
  ext path
  simp [touched]

theorem mem_touched : path ∈ touched events ↔ ∃ event ∈ events, event.uri = path := by
  simp [touched]

theorem touched_of_deletes (deleted : deletes events path) : path ∈ touched events :=
  mem_touched.2 ⟨_, deleted, rfl⟩

/-- A path without events is as it was. -/
theorem present_untouched (untouched : path ∉ touched events) :
    present initial events path = initial path := by
  induction events using List.reverseRecOn with
  | nil => rfl
  | append_singleton events event before =>
    rw [touched_append, Finset.mem_insert, not_or] at untouched
    rw [present_other _ _ untouched.1, before untouched.2]

theorem deletes_other (events : List FileEvent) (other : path ≠ event.uri) :
    deletes (events ++ [event]) path ↔ deletes events path := by
  unfold deletes
  rw [List.mem_append, List.mem_singleton]
  constructor
  · rintro (old | rfl)
    · exact old
    · exact absurd rfl other
  · exact .inl

theorem deletes_here (events : List FileEvent) (event : FileEvent) :
    deletes (events ++ [event]) event.uri ↔ deletes events event.uri ∨ event.type = .deleted := by
  obtain ⟨uri, type⟩ := event
  unfold deletes
  rw [List.mem_append, List.mem_singleton]
  constructor
  · rintro (old | same)
    · exact .inl old
    · exact .inr (congrArg FileEvent.type same).symm
  · rintro (old | deleted)
    · exact .inl old
    · exact .inr (congrArg (FileEvent.mk uri) deleted.symm)

end Event

/-! ## What is kept of a batch -/

/-- The change that is kept of a path, by what happened to it. -/
inductive Kept (initial : String → Bool) (events : List FileEvent) (path : String) :
    ChangeType → Prop where
  | gone (absent : present initial events path = false) (deleted : deletes events path) :
      Kept initial events path .deleted
  | renewed (there : present initial events path = true)
      (known : initial path = true ∨ deletes events path) : Kept initial events path .changed
  | appeared (there : present initial events path = true) (new : initial path = false)
      (undeleted : ¬deletes events path) : Kept initial events path .created

variable {initial : String → Bool} {events : List FileEvent} {event : FileEvent}

theorem Kept.other {path : String} {type : ChangeType} (other : path ≠ event.uri)
    (kept : Kept initial events path type) : Kept initial (events ++ [event]) path type := by
  have same := present_other initial events other
  have deletions := deletes_other events other
  cases kept with
  | gone absent deleted => exact .gone (same.trans absent) (deletions.2 deleted)
  | renewed there known => exact .renewed (same.trans there) (known.imp_right deletions.2)
  | appeared there new undeleted =>
    exact .appeared (same.trans there) new fun deleted => undeleted (deletions.1 deleted)

theorem kept_merged (may : allowed (present initial events) event) {previous : ChangeType}
    (kept : Kept initial events event.uri previous) :
    Kept initial (events ++ [event]) event.uri
      (FileChangeCoalescer.merged (some previous) event.type) := by
  have now := present_here initial events event
  have deletions := deletes_here events event
  unfold allowed at may
  cases type : event.type with
  | created =>
    rw [type] at may now
    cases kept with
    | gone absent deleted => exact .renewed now (.inr (deletions.2 (.inl deleted)))
    | renewed there _ => exact absurd (there.symm.trans may) (by decide)
    | appeared there _ _ => exact absurd (there.symm.trans may) (by decide)
  | changed =>
    rw [type] at may now deletions
    cases kept with
    | gone absent _ => exact absurd (absent.symm.trans may) (by decide)
    | renewed there known => exact .renewed now (known.imp_right fun old => deletions.2 (.inl old))
    | appeared there new undeleted =>
      refine .appeared now new fun deleted => ?_
      rcases deletions.1 deleted with old | impossible
      · exact undeleted old
      · exact nomatch impossible
  | deleted =>
    rw [type] at now
    have gone : Kept initial (events ++ [event]) event.uri .deleted :=
      .gone now (deletions.2 (.inr type))
    cases previous with
    | created => exact gone
    | changed => exact gone
    | deleted => exact gone

theorem kept_first
    (may : allowed (present initial events) event) (new : event.uri ∉ touched events) :
    Kept initial (events ++ [event]) event.uri
      (FileChangeCoalescer.merged none event.type) := by
  have now := present_here initial events event
  have deletions := deletes_here events event
  unfold allowed at may
  rw [present_untouched new] at may
  cases type : event.type with
  | created =>
    rw [type] at may now deletions
    refine .appeared now may fun deleted => ?_
    rcases deletions.1 deleted with old | impossible
    · exact new (touched_of_deletes old)
    · exact nomatch impossible
  | changed =>
    rw [type] at may now
    exact .renewed now (.inl may)
  | deleted =>
    rw [type] at now
    exact .gone now (deletions.2 (.inr type))

/-! ## A whole batch -/

section Batch

variable (pathname : String → String) (initial : String → Bool)

/-- What holds of a coalescer after some events. -/
structure Tracks (events : List FileEvent) (coalescer : FileChangeCoalescer) : Prop where
  known : ∀ path ∈ coalescer.events.keys, path ∈ touched events
  whole : coalescer.events.entries.length < maximalPaths ∨ (touched events).card ≤ maximalPaths →
    ∀ path ∈ touched events, path ∈ coalescer.events.keys
  restart : coalescer.restart = true ↔
    (∃ event ∈ events, event.type ≠ .changed ∧ structuralPath (pathname event.uri) = true) ∨
      maximalPaths < (touched events).card
  kept : ∀ path type, coalescer.events.get? path = some type → Kept initial events path type

variable {pathname initial} {events : List FileEvent} {event : FileEvent}
  {coalescer : FileChangeCoalescer}

theorem card_keys (tracks : Tracks pathname initial events coalescer)
    (complete : ∀ path ∈ touched events, path ∈ coalescer.events.keys) :
    (touched events).card = coalescer.events.entries.length := by
  have same : coalescer.events.keys.toFinset = touched events := by
    ext path
    rw [List.mem_toFinset]
    exact ⟨tracks.known path, complete path⟩
  have distinct : coalescer.events.keys.Nodup := coalescer.events.distinct
  rw [← same, List.toFinset_card_of_nodup distinct]
  exact List.length_map ..

/-- More events touch as many paths or more. -/
theorem card_touched_le (events : List FileEvent) (event : FileEvent) :
    (touched events).card ≤ (touched (events ++ [event])).card := by
  rw [touched_append]
  exact Finset.card_le_card (Finset.subset_insert _ _)

theorem structural_append (events : List FileEvent) (event : FileEvent) :
    (∃ other ∈ events ++ [event], other.type ≠ .changed ∧
        structuralPath (pathname other.uri) = true) ↔
      (∃ other ∈ events, other.type ≠ .changed ∧ structuralPath (pathname other.uri) = true) ∨
        event.type ≠ .changed ∧ structuralPath (pathname event.uri) = true := by
  constructor
  · rintro ⟨other, member, cause⟩
    rcases List.mem_append.1 member with old | new
    · exact .inl ⟨other, old, cause⟩
    · rw [List.mem_singleton.1 new] at cause
      exact .inr cause
  · rintro (⟨other, member, cause⟩ | cause)
    · exact ⟨other, List.mem_append_left _ member, cause⟩
    · exact ⟨event, by simp, cause⟩

/-- An event whose path finds no place is dropped, and a restart is asked for. -/
theorem Tracks.drop (tracks : Tracks pathname initial events coalescer)
    (unknown : event.uri ∉ coalescer.events.keys)
    (full : maximalPaths ≤ coalescer.events.entries.length) :
    Tracks pathname initial (events ++ [event]) ⟨coalescer.events, true⟩ := by
  have many : maximalPaths < (touched (events ++ [event])).card := by
    by_cases complete : ∀ path ∈ touched events, path ∈ coalescer.events.keys
    · have new : event.uri ∉ touched events := fun old => unknown (complete _ old)
      rw [touched_append, Finset.card_insert_of_notMem new, card_keys tracks complete]
      omega
    · have beyond : ¬(touched events).card ≤ maximalPaths := fun few =>
        complete (tracks.whole (.inr few))
      have more := card_touched_le events event
      omega
  refine ⟨?_, ?_, ?_, ?_⟩
  · intro path member
    rw [touched_append]
    exact Finset.mem_insert_of_mem (tracks.known path member)
  · intro room
    rcases room with room | few
    · exact absurd full (Nat.not_le.2 room)
    · exact absurd few (Nat.not_le.2 many)
  · exact ⟨fun _ => .inr many, fun _ => rfl⟩
  · intro path type held
    have other : path ≠ event.uri := by
      rintro rfl
      exact unknown (Dictionary.mem_keys.2 ⟨type, held⟩)
    exact (tracks.kept path type held).other other

theorem length_le_set (dictionary : Dictionary String ChangeType) (path : String)
    (type : ChangeType) :
    dictionary.entries.length ≤ (dictionary.set path type).entries.length := by
  unfold Dictionary.set
  split
  · simp
  · simp

/-- An event of a path that is known, or finds a place, is kept. -/
theorem Tracks.store (tracks : Tracks pathname initial events coalescer)
    (may : allowed (present initial events) event)
    (room : event.uri ∈ coalescer.events.keys ∨
      coalescer.events.entries.length < maximalPaths) :
    Tracks pathname initial (events ++ [event])
      ⟨coalescer.events.set event.uri
          (FileChangeCoalescer.merged (coalescer.events.get? event.uri) event.type),
        coalescer.restart ||
          decide (event.type ≠ .changed) && structuralPath (pathname event.uri)⟩ := by
  refine ⟨?_, ?_, ?_, ?_⟩
  · intro path member
    rw [touched_append, Finset.mem_insert]
    rcases Dictionary.mem_keys_set.1 member with same | old
    · exact .inl same
    · exact .inr (tracks.known path old)
  · intro spare path member
    have complete : ∀ path ∈ touched events, path ∈ coalescer.events.keys := by
      refine tracks.whole (spare.imp ?_ fun few => (card_touched_le events event).trans few)
      exact fun less => (length_le_set _ _ _).trans_lt less
    rw [touched_append, Finset.mem_insert] at member
    exact Dictionary.mem_keys_set.2 (member.imp_right (complete path))
  · have more := card_touched_le events event
    have beyond : maximalPaths < (touched (events ++ [event])).card →
        maximalPaths < (touched events).card := by
      intro many
      by_contra few
      have complete := tracks.whole (.inr (Nat.not_lt.1 few))
      have counted := card_keys tracks complete
      by_cases old : event.uri ∈ touched events
      · rw [touched_append, Finset.insert_eq_of_mem old] at many
        exact few many
      · have spare := room.resolve_left fun member => old (tracks.known _ member)
        rw [touched_append, Finset.card_insert_of_notMem old] at many
        omega
    rw [structural_append, Bool.or_eq_true, tracks.restart, Bool.and_eq_true, decide_eq_true_iff]
    constructor
    · rintro ((old | many) | new)
      · exact .inl (.inl old)
      · exact .inr (many.trans_le more)
      · exact .inl (.inr new)
    · rintro ((old | new) | many)
      · exact .inl (.inl old)
      · exact .inr new
      · exact .inl (.inr (beyond many))
  · intro path type held
    rcases Dictionary.get?_set_eq_some.1 held with ⟨rfl, rfl⟩ | ⟨other, old⟩
    · cases previous : coalescer.events.get? event.uri with
      | some earlier => exact kept_merged may (tracks.kept _ _ previous)
      | none =>
        have unknown := Dictionary.get?_eq_none.1 previous
        have complete := tracks.whole (.inl (room.resolve_left unknown))
        exact kept_first may fun member => unknown (complete _ member)
    · exact (tracks.kept path type old).other other

theorem tracks_batch (pathname : String → String) (consistent : Consistent initial events) :
    Tracks pathname initial events
      (events.foldl (FileChangeCoalescer.push pathname) FileChangeCoalescer.fresh) := by
  induction consistent with
  | none =>
    refine ⟨?_, ?_, ?_, ?_⟩
    · exact fun _ member => nomatch member
    · exact fun _ path member => absurd member (by simp [touched])
    · simp [FileChangeCoalescer.fresh, touched]
    · exact fun _ _ held => nomatch held
  | @next events event before may tracks =>
    rw [List.foldl_append, List.foldl_cons, List.foldl_nil]
    generalize events.foldl (FileChangeCoalescer.push pathname) FileChangeCoalescer.fresh =
      coalescer at tracks
    unfold FileChangeCoalescer.push
    by_cases dropped : coalescer.events.get? event.uri = none ∧
        maximalPaths ≤ coalescer.events.entries.length
    · rw [if_pos dropped]
      exact tracks.drop (Dictionary.get?_eq_none.1 dropped.1) dropped.2
    · rw [if_neg dropped]
      refine tracks.store may ?_
      rw [Dictionary.get?_eq_none] at dropped
      by_cases stored : event.uri ∈ coalescer.events.keys
      · exact .inl stored
      · exact .inr (Nat.not_le.1 fun full => dropped ⟨stored, full⟩)

/-! ## What a report tells -/

open FileChangeCoalescer

theorem report_events : (report pathname events).events =
    (events.foldl (push pathname) fresh).events.entries.map fun entry => ⟨entry.1, entry.2⟩ := rfl

variable {path : String}

theorem mem_report {type : ChangeType} :
    ⟨path, type⟩ ∈ (report pathname events).events ↔
      (events.foldl (push pathname) fresh).events.get? path = some type := by
  rw [report_events, List.mem_map, Dictionary.get?_eq_some]
  constructor
  · rintro ⟨⟨stored, held⟩, member, same⟩
    cases same
    exact member
  · exact fun member => ⟨_, member, rfl⟩

/-- A change that is reported of a path is the one that is kept of it. -/
theorem kept_of_reported (consistent : Consistent initial events)
    {type : ChangeType} (reported : ⟨path, type⟩ ∈ (report pathname events).events) :
    Kept initial events path type :=
  (tracks_batch pathname consistent).kept path type (mem_report.1 reported)

/-- Of every path touched by few paths' events something is reported. -/
theorem reported_of_touched (pathname : String → String) (consistent : Consistent initial events)
    (few : (touched events).card ≤ maximalPaths) (member : path ∈ touched events) :
    ∃ type, ⟨path, type⟩ ∈ (report pathname events).events := by
  obtain ⟨type, held⟩ := Dictionary.mem_keys.1
    ((tracks_batch pathname consistent).whole (.inr few) path member)
  exact ⟨type, mem_report.2 held⟩

/-- A restart is asked for exactly where the events have a cause of it. -/
theorem report_restart (consistent : Consistent initial events) :
    (report pathname events).restart = true ↔ RestartCause pathname initial events := by
  have tracks := tracks_batch pathname consistent
  have canonical : ((report pathname events).events.any fun event =>
      decide (event.type ≠ .changed) && canonicalPath (pathname event.uri)) = true ↔
      ∃ path type, ⟨path, type⟩ ∈ (report pathname events).events ∧ type ≠ .changed ∧
        canonicalPath (pathname path) = true := by
    rw [List.any_eq_true]
    constructor
    · rintro ⟨⟨path, type⟩, member, cause⟩
      rw [Bool.and_eq_true, decide_eq_true_iff] at cause
      exact ⟨path, type, member, cause⟩
    · rintro ⟨path, type, member, cause⟩
      refine ⟨_, member, ?_⟩
      rw [Bool.and_eq_true, decide_eq_true_iff]
      exact cause
  have asked : (report pathname events).restart = true ↔
      (events.foldl (push pathname) fresh).restart = true ∨
        ∃ path type, ⟨path, type⟩ ∈ (report pathname events).events ∧ type ≠ .changed ∧
          canonicalPath (pathname path) = true := by
    rw [← canonical, ← Bool.or_eq_true]
    rfl
  rw [asked, tracks.restart, or_assoc]
  refine or_congr_right ?_
  by_cases many : maximalPaths < (touched events).card
  · exact ⟨fun _ => .inl many, fun _ => .inl many⟩
  refine or_congr_right ⟨?_, ?_⟩
  · rintro ⟨path, type, reported, differs, named⟩
    refine ⟨path, tracks.known path (Dictionary.mem_keys.2 ⟨type, mem_report.1 reported⟩), named, ?_⟩
    cases kept_of_reported consistent reported with
    | gone absent _ => exact .inl absent
    | renewed _ _ => exact absurd rfl differs
    | appeared _ new undeleted => exact .inr ⟨new, undeleted⟩
  · rintro ⟨path, member, named, net⟩
    obtain ⟨type, reported⟩ := reported_of_touched pathname consistent
      (Nat.not_lt.1 many) member
    refine ⟨path, type, reported, ?_, named⟩
    rintro rfl
    cases kept_of_reported consistent reported with
    | renewed there known =>
      rcases net with absent | ⟨new, undeleted⟩
      · rw [there] at absent
        exact nomatch absent
      · rcases known with old | deleted
        · rw [old] at new
          exact nomatch new
        · exact undeleted deleted

/-- A difference in what exists comes from an event that creates or deletes. -/
theorem exists_event_of_net (consistent : Consistent initial events)
    (net : initial path ≠ present initial events path) :
    ∃ event ∈ events, event.uri = path ∧ event.type ≠ .changed := by
  induction consistent with
  | none => exact absurd rfl net
  | @next events event before may earlier =>
    by_cases here : path = event.uri
    · subst here
      by_cases plain : event.type = .changed
      · unfold allowed at may
        rw [present_here, plain] at net
        rw [plain] at may
        obtain ⟨other, member, same, cause⟩ := earlier (may ▸ net)
        exact ⟨other, List.mem_append_left _ member, same, cause⟩
      · exact ⟨event, by simp, rfl, plain⟩
    · rw [present_other _ _ here] at net
      obtain ⟨other, member, same, cause⟩ := earlier net
      exact ⟨other, List.mem_append_left _ member, same, cause⟩

theorem net_of_report (consistent : Consistent initial events)
    (few : (touched events).card ≤ maximalPaths)
    (steady : ∀ path, ¬Reappears initial events path) :
    Net initial events (report pathname events).events where
  created path absent there := by
    have member : path ∈ touched events := by
      by_contra untouched
      rw [present_untouched untouched, absent] at there
      exact nomatch there
    obtain ⟨type, reported⟩ := reported_of_touched pathname consistent few member
    cases kept_of_reported consistent reported with
    | gone gone _ => exact nomatch gone.symm.trans there
    | renewed _ known =>
      rcases known with old | deleted
      · exact nomatch old.symm.trans absent
      · exact absurd ⟨absent, there, deleted⟩ (steady path)
    | appeared _ _ _ => exact reported
  deleted path was absent := by
    have member : path ∈ touched events := by
      by_contra untouched
      rw [present_untouched untouched, was] at absent
      exact nomatch absent
    obtain ⟨type, reported⟩ := reported_of_touched pathname consistent few member
    cases kept_of_reported consistent reported with
    | gone _ _ => exact reported
    | renewed there _ => exact nomatch there.symm.trans absent
    | appeared there _ _ => exact nomatch there.symm.trans absent
  changed path member was there := by
    obtain ⟨type, reported⟩ := reported_of_touched pathname consistent few member
    cases kept_of_reported consistent reported with
    | gone absent _ => exact nomatch absent.symm.trans there
    | renewed _ _ => exact reported
    | appeared _ new _ => exact nomatch new.symm.trans was
  silent event reported :=
    (tracks_batch pathname consistent).known event.uri
      (Dictionary.mem_keys.2 ⟨event.type, mem_report.1 reported⟩)

variable (pathname initial events) in
/-- A report of consistent events tells the net truth exactly where the events have a cause of a
restart, or no file that was not there is deleted on its way to being there. -/
theorem report_truthful_iff (consistent : Consistent initial events) :
    Truthful pathname initial events (report pathname events) ↔
      RestartCause pathname initial events ∨ ∀ path, ¬Reappears initial events path := by
  constructor
  · intro truthful
    by_cases asked : (report pathname events).restart = true
    · exact .inl ((report_restart consistent).1 asked)
    · refine .inr fun path reappears => ?_
      obtain ⟨absent, there, deleted⟩ := reappears
      have created := (truthful.net (Bool.eq_false_iff.2 asked)).created path absent there
      cases kept_of_reported consistent created with
      | appeared _ _ undeleted => exact undeleted deleted
  · intro condition
    refine ⟨fun quiet => ?_, ?_, ?_, ?_⟩
    · have uncaused : ¬RestartCause pathname initial events := fun cause => by
        rw [(report_restart consistent).2 cause] at quiet
        exact nomatch quiet
      exact net_of_report consistent (Nat.not_lt.1 fun many => uncaused (.inr (.inl many)))
        (condition.resolve_left uncaused)
    · rw [report_events, List.map_map]
      exact (events.foldl (push pathname) fresh).events.distinct
    · intro path named net
      rw [report_restart consistent]
      obtain ⟨event, member, rfl, differs⟩ := exists_event_of_net consistent net
      rcases named with structural | canonical
      · exact .inl ⟨event, member, differs, structural⟩
      · rcases condition with cause | steady
        · exact cause
        · refine .inr (.inr ⟨event.uri, mem_touched.2 ⟨event, member, rfl⟩, canonical, ?_⟩)
          cases there : present initial events event.uri with
          | false => exact .inl rfl
          | true =>
            have absent : initial event.uri = false := by
              rw [there] at net
              exact Bool.eq_false_iff.2 net
            exact .inr ⟨absent, fun deleted => steady _ ⟨absent, there, deleted⟩⟩
    · exact fun many => (report_restart consistent).2 (.inr (.inl many))

end Batch

/-! ## A module that is written, removed and written again -/

def written : FileEvent := ⟨"file:///p/CommonModules/M/Ext/Module.bsl", .created⟩

def removed : FileEvent := ⟨"file:///p/CommonModules/M/Ext/Module.bsl", .deleted⟩

/-- The path of a URL without an authority. -/
def filePath (uri : String) : String := String.ofList (uri.toList.drop 7)

theorem consistent_written : Consistent (fun _ => false) [written] :=
  show Consistent (fun _ => false) ([] ++ [written]) from .next .none rfl

theorem report_truthful_first :
    Truthful filePath (fun _ => false) [written] (FileChangeCoalescer.report filePath [written]) :=
  (report_truthful_iff filePath (fun _ => false) [written] consistent_written).2
    (.inr fun path reappears => by
      have deleted := reappears.2.2
      simp [deletes, written] at deleted)

theorem module_change_untold :
    Consistent (fun _ => false) [written, removed, written] ∧
      ¬Truthful filePath (fun _ => false) [written, removed, written]
        (FileChangeCoalescer.report filePath [written, removed, written]) := by
  have consistent : Consistent (fun _ => false) [written, removed, written] :=
    show Consistent (fun _ => false) (([written] ++ [removed]) ++ [written]) from
      .next (.next consistent_written rfl) rfl
  refine ⟨consistent, fun truthful => ?_⟩
  have created := (truthful.net (by decide +kernel)).created written.uri rfl (by decide +kernel)
  revert created
  decide +kernel

end OnecRuntime.Files
