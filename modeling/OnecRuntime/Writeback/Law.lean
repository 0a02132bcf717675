import Mathlib.Data.List.Nodup
import OnecRuntime.Writeback.Scope

/-!
# No root is lost and none is written twice

The ledger tells what the transport has seen of a stop: the roots in front of the first unfinished
one are written, those behind it are untouched.
-/

namespace OnecRuntime.Writeback

def Event.isWrite : Event → Bool
  | .exported _ _ | .sent _ _ | .written _ => true
  | .admitted _ | .continued => false

def writes (events : List Event) : List Event := events.filter Event.isWrite

/-- What was seen of a root in a certain state. -/
def seen (entry : String × RootState) : List Event :=
  match entry.2.address with
  | none => []
  | some address =>
      match entry.2.phase with
      | .succeeded => [.exported entry.1 address, .sent entry.1 address, .written entry.1]
      | .failed | .unknown => [.exported entry.1 address, .sent entry.1 address]
      | _ => [.exported entry.1 address]

def AllSucceeded (ledger : RootWritebackLedger) : Prop :=
  ∀ entry ∈ ledger, entry.2.phase = .succeeded ∧ entry.2.address.isSome

/-- A root whose export gave no address yet. -/
structure RootState.Early (state : RootState) : Prop where
  fresh : state.phase = .unattempted → state = .fresh
  unexported : state.failedStage = some .exporting → state.address = none

/-- Behind the first root that is not written every state is fresh. -/
inductive Frontier : RootWritebackLedger → Prop where
  | nil : Frontier []
  | front {entry : String × RootState} {rest : RootWritebackLedger}
      (waits : entry.2.phase ≠ .succeeded)
      (early : entry.2.Early)
      (behind : ∀ other ∈ rest, other.2 = .fresh) : Frontier (entry :: rest)
  | done {entry : String × RootState} {rest : RootWritebackLedger}
      (phase : entry.2.phase = .succeeded) (address : entry.2.address.isSome)
      (frontier : Frontier rest) : Frontier (entry :: rest)

variable {functions : NameFunctions} {scope next : CaptureScope} {root : String} {state : RootState}
  {ledger : RootWritebackLedger} {before events : List Event} {port : String → Answers}

theorem Frontier.fresh (untouched : ∀ entry ∈ ledger, entry.2 = .fresh) : Frontier ledger := by
  cases ledger with
  | nil => exact .nil
  | cons entry rest =>
      have here := untouched _ List.mem_cons_self
      refine .front ?_ ⟨fun _ => here, fun _ => ?_⟩
        fun other member => untouched _ (List.mem_cons_of_mem _ member)
      all_goals rw [here]
      · exact nofun
      · rfl

theorem seen_fresh (untouched : ∀ entry ∈ ledger, entry.2 = .fresh) : ledger.flatMap seen = [] := by
  rw [List.flatMap_eq_nil_iff]
  intro entry member
  rw [seen, untouched entry member]
  rfl

/-! ## The loop -/

/-- What one root adds to what was seen of it; where nothing is raised it is written. -/
structure Adds (root : String) (state : RootState)
    (result : RootState × List Event × Option Failure) : Prop where
  seen : seen (root, result.1) = seen (root, state) ++ result.2.1
  writes : ∀ event ∈ result.2.1, event.isWrite = true
  early : result.1.Early
  stays : result.2.2 ≠ none → result.1.phase ≠ .succeeded
  done : result.2.2 = none → result.1.phase = .succeeded ∧ result.1.address.isSome

theorem modifyRoot_adds (touched : state.phase ≠ .unattempted) (waits : state.phase ≠ .succeeded)
    (unexported : state.failedStage = some .exporting → state.address = none) (answer : Modify) :
    Adds root state (modifyRoot root answer state) := by
  have unchanged (problem : Failure) : Adds root state (state, [], some problem) :=
    ⟨by simp, nofun, ⟨fun fresh => absurd fresh touched, unexported⟩, fun _ => waits, nofun⟩
  unfold modifyRoot
  split
  · next address exported known =>
      cases answer with
      | refused => exact unchanged _
      | interrupted =>
          refine ⟨?_, ?_, ⟨nofun, unexported⟩, nofun, nofun⟩ <;>
            simp [seen, exported, known, Event.isWrite]
      | returned resultId errorOccurred =>
          cases errorOccurred
          · refine ⟨?_, ?_, ⟨nofun, unexported⟩, nofun, fun _ => ⟨rfl, by simp [known]⟩⟩ <;>
              simp [seen, exported, known, Event.isWrite]
          · refine ⟨?_, ?_, ⟨nofun, nofun⟩, nofun, nofun⟩ <;>
              simp [seen, exported, known, Event.isWrite]
  · exact unchanged _

theorem writeRoot_adds (early : state.Early) (waits : state.phase ≠ .succeeded) :
    Adds root state (writeRoot port root state) := by
  rw [writeRoot, if_neg waits]
  split_ifs with unattempted
  · obtain rfl := early.fresh unattempted
    cases (port root).exporting with
    | raised | errorOccurred => exact ⟨rfl, nofun, ⟨nofun, fun _ => rfl⟩, nofun, nofun⟩
    | returned typeName value =>
        unfold exportRoot
        dsimp only
        split_ifs
        · exact ⟨rfl, nofun, ⟨nofun, fun _ => rfl⟩, nofun, nofun⟩
        · have adds : Adds root { RootState.fresh with
              phase := .exported, address := some (value.getD "") } _ :=
            modifyRoot_adds (by simp) (by simp) (by simp [RootState.fresh]) (port root).modify
          refine ⟨adds.seen, ?_, adds.early, adds.stays, adds.done⟩
          rintro event (_ | ⟨_, member⟩)
          · rfl
          · exact adds.writes event member
  · exact modifyRoot_adds unattempted waits early.unexported _

/-- What the loop leaves of a ledger and adds to what was seen. -/
structure Flushed (ledger : RootWritebackLedger)
    (result : RootWritebackLedger × List Event × Option Failure) : Prop where
  names : result.1.map Prod.fst = ledger.map Prod.fst
  frontier : Frontier result.1
  seen : result.1.flatMap seen = ledger.flatMap seen ++ result.2.1
  writes : ∀ event ∈ result.2.1, event.isWrite = true
  done : result.2.2 = none → AllSucceeded result.1

theorem writeRoots_flushed (frontier : Frontier ledger) : Flushed ledger (writeRoots port ledger) := by
  induction ledger with
  | nil => exact ⟨rfl, .nil, rfl, nofun, fun _ => nofun⟩
  | cons entry rest hypothesis =>
      obtain ⟨root, state⟩ := entry
      cases frontier with
      | front waits early behind =>
          obtain ⟨first, wrote, after, stays, done⟩ :
            Adds root state (writeRoot port root state) := writeRoot_adds early waits
          rw [writeRoots]
          split
          · next result =>
              rw [result] at first wrote after stays
              refine ⟨rfl, .front (stays nofun) after behind, ?_, wrote, nofun⟩
              simpa [seen_fresh behind] using first
          · next result =>
              rw [result] at first wrote done
              obtain ⟨phase, address⟩ := done rfl
              obtain ⟨names, frontier, seen, writes, all⟩ := hypothesis (.fresh behind)
              refine ⟨congrArg (root :: ·) names, .done phase address frontier, ?_, ?_, fun returned =>
                List.forall_mem_cons.2 ⟨⟨phase, address⟩, all returned⟩⟩
              · rw [seen_fresh behind, List.nil_append] at seen
                simp [first, seen, seen_fresh behind]
              · intro event member
                rcases List.mem_append.1 member with now | later
                · exact wrote event now
                · exact writes event later
      | done phase address frontier =>
          obtain ⟨names, frontier, seen, writes, done⟩ := hypothesis frontier
          rw [writeRoots, writeRoot, if_pos phase]
          refine ⟨congrArg (root :: ·) names, .done phase address frontier, ?_, writes,
            fun returned => List.forall_mem_cons.2 ⟨⟨phase, address⟩, done returned⟩⟩
          simp [seen]

theorem flush_flushed (frontier : Frontier ledger) : Flushed ledger (flush port ledger) := by
  unfold flush
  split
  iterate 3 exact ⟨rfl, frontier, (List.append_nil _).symm, nofun, nofun⟩
  all_goals exact writeRoots_flushed frontier

/-! ## Blocked stops -/

/-- No outcome is known, or the modify was rejected. -/
def RootState.Stuck (state : RootState) : Prop :=
  state.phase = .unknown ∨ state.phase = .failed ∧ state.failedStage = some .modify

def CaptureScope.Blocked (scope : CaptureScope) : Prop :=
  ∃ ledger, scope.writebackLedger = some ledger ∧ ∃ entry ∈ ledger, entry.2.Stuck

theorem stuck_disposition {entry : String × RootState} (member : entry ∈ ledger)
    (stuck : entry.2.Stuck) :
    ledger.disposition = .outcomeUnknown ∨ ledger.disposition = .partialWrite := by
  unfold RootWritebackLedger.disposition
  split_ifs with unknown ready sent failed partly
  · exact .inl rfl
  · have succeeded := List.all_eq_true.1 ready entry member
    rcases stuck with phase | ⟨phase, -⟩ <;> simp [phase] at succeeded
  · exact .inl rfl
  · exact .inr rfl
  all_goals
    rcases stuck with phase | ⟨phase, stage⟩
    · exact absurd (List.any_eq_true.2 ⟨entry, member, by simpa using phase⟩) unknown
  · exact absurd (List.any_eq_true.2 ⟨entry, member, by simp [stage]⟩) partly
  · exact absurd (List.any_eq_true.2 ⟨entry, member, by simpa using phase⟩) failed

/-- A blocked stop stays as it is, and the transport sees nothing more of it. -/
theorem blocked_perform (blocked : scope.Blocked) (action : CaptureScope.Action) :
    scope.perform functions action = (scope, []) := by
  obtain ⟨ledger, begun, entry, member, stuck⟩ := blocked
  have disposed := stuck_disposition member stuck
  have unflushed (port : String → Answers) :
      ∃ problem, flush port ledger = (ledger, [], some problem) := by
    unfold flush
    rcases disposed with is | is <;> exact ⟨_, by rw [is]⟩
  obtain ⟨roots, stored, ready⟩ := scope
  obtain rfl : stored = some ledger := begun
  cases action with
  | admitCell roots => rfl
  | resume request =>
      obtain ⟨problem, refused⟩ := unflushed request.port
      unfold CaptureScope.perform CaptureScope.plan
      dsimp only
      split
      · rfl
      · cases request.rearms <;> cases ready <;>
          simp [CaptureScope.writeAndContinue, CaptureScope.beginWriteback, refused]
  | discard =>
      unfold CaptureScope.perform CaptureScope.discardUnmodifiedWriteback
      rcases disposed with is | is <;> cases ready <;> simp [is]

theorem blocked_run (blocked : scope.Blocked) (actions : List CaptureScope.Action) :
    scope.run functions actions = (scope, []) := by
  induction actions with
  | nil => rfl
  | cons action rest hypothesis =>
      rw [CaptureScope.run, blocked_perform blocked action]
      dsimp only
      rw [hypothesis]
      rfl

/-! ## Whole runs -/

structure Consistent (functions : NameFunctions) (scope : CaptureScope) (events : List Event) :
    Prop where
  distinct : (scope.dirtyRoots.map functions.casefold).Nodup
  admitted : ∀ root, .admitted root ∈ events →
    functions.casefold root ∈ scope.dirtyRoots.map functions.casefold
  unopened : scope.writebackLedger = none → writes events = []
  told : ∀ ledger, scope.writebackLedger = some ledger → ledger.map Prod.fst = scope.dirtyRoots ∧
    Frontier ledger ∧ writes events = ledger.flatMap seen
  continued : .continued ∈ events → scope.ready = false ∧ ∃ earlier ledger,
    events = earlier ++ [.continued] ∧ .continued ∉ earlier ∧
      scope.writebackLedger = some ledger ∧ AllSucceeded ledger

theorem writes_append (first second : List Event) :
    writes (first ++ second) = writes first ++ writes second := List.filter_append ..

theorem writes_admitted (roots : List String) : writes (roots.map .admitted) = [] := by
  induction roots with
  | nil => rfl
  | cons root rest hypothesis => exact hypothesis

theorem admitRoot_spec {known : List String} (distinct : (known.map functions.casefold).Nodup)
    (root : String) :
    ((CaptureScope.admitRoot functions known root).map functions.casefold).Nodup ∧
      functions.casefold root ∈ (CaptureScope.admitRoot functions known root).map functions.casefold ∧
        known ⊆ CaptureScope.admitRoot functions known root := by
  unfold CaptureScope.admitRoot
  split_ifs with held
  · exact ⟨distinct, held, List.Subset.refl _⟩
  · rw [List.map_append]
    refine ⟨List.Nodup.append distinct (List.nodup_singleton _) (List.disjoint_singleton.2 held), ?_,
      List.subset_append_left _ _⟩
    exact List.mem_append_right _ List.mem_cons_self

theorem foldl_admitRoot {known : List String} (distinct : (known.map functions.casefold).Nodup)
    (roots : List String) :
    ((roots.foldl (CaptureScope.admitRoot functions) known).map functions.casefold).Nodup ∧
      (∀ root ∈ roots, functions.casefold root ∈
        (roots.foldl (CaptureScope.admitRoot functions) known).map functions.casefold) ∧
      known ⊆ roots.foldl (CaptureScope.admitRoot functions) known := by
  induction roots generalizing known with
  | nil => exact ⟨distinct, nofun, List.Subset.refl _⟩
  | cons root rest hypothesis =>
      obtain ⟨unique, here, grown⟩ := admitRoot_spec distinct root
      obtain ⟨every, others, larger⟩ := hypothesis unique
      refine ⟨every, fun other member => ?_, List.Subset.trans grown larger⟩
      rcases List.mem_cons.1 member with rfl | inside
      · exact List.map_subset _ larger here
      · exact others other inside

theorem admit_consistent (consistent : Consistent functions scope before) {roots : List String}
    (admits : scope.admitCellDirtyRoots functions roots = .ok next) :
    next.ready = scope.ready ∧
      Consistent functions next (before ++ roots.map .admitted) := by
  unfold CaptureScope.admitCellDirtyRoots at admits
  split_ifs at admits with begun unready
  split at admits
  · cases admits
  · obtain rfl := Except.ok.inj admits
    obtain ⟨distinct, every, grown⟩ := foldl_admitRoot consistent.distinct roots
    have closed : scope.writebackLedger = none := by simpa using begun
    refine ⟨rfl, distinct, fun root member => ?_, fun _ => ?_, fun ledger opened => ?_,
      fun member => ?_⟩
    · rcases List.mem_append.1 member with earlier | now
      · exact List.map_subset _ grown (consistent.admitted root earlier)
      · obtain ⟨_, inside, same⟩ := List.mem_map.1 now
        obtain rfl := Event.admitted.inj same
        exact every _ inside
    · rw [writes_append, writes_admitted, consistent.unopened closed]
      rfl
    · rw [closed] at opened
      cases opened
    · have earlier : .continued ∈ before := by simpa using member
      simp [(consistent.continued earlier).1] at unready

theorem begin_told (consistent : Consistent functions scope before)
    (begins : scope.beginWriteback functions = .ok ledger) :
    ledger.map Prod.fst = scope.dirtyRoots ∧ Frontier ledger ∧
      writes before = ledger.flatMap seen := by
  unfold CaptureScope.beginWriteback at begins
  split_ifs at begins
  split at begins
  · next stored =>
      obtain rfl := Except.ok.inj begins
      exact consistent.told _ stored
  · next unopened =>
      unfold RootWritebackLedger.new at begins
      split_ifs at begins
      split at begins
      · cases begins
      · obtain rfl := Except.ok.inj begins
        have untouched : ∀ entry ∈ scope.dirtyRoots.map fun root => (root, RootState.fresh),
            entry.2 = .fresh := by
          intro entry member
          obtain ⟨_, _, rfl⟩ := List.mem_map.1 member
          rfl
        refine ⟨?_, .fresh untouched, ?_⟩
        · rw [List.map_map]
          exact List.map_id _
        · rw [seen_fresh untouched, consistent.unopened unopened]

theorem writeAndContinue_consistent (consistent : Consistent functions scope before)
    (ready : scope.ready = true) (request : Resume) :
    Consistent functions (scope.writeAndContinue functions request).1
      (before ++ (scope.writeAndContinue functions request).2.1) := by
  unfold CaptureScope.writeAndContinue
  split
  · simpa using consistent
  · next ledger begins =>
      obtain ⟨names, frontier, told⟩ := begin_told consistent begins
      have result : Flushed ledger (flush request.port ledger) := flush_flushed frontier
      generalize flush request.port ledger = flushed at result
      obtain ⟨written, events, failure⟩ := flushed
      have silent : .continued ∉ before ++ events := by
        intro member
        rcases List.mem_append.1 member with earlier | now
        · rw [(consistent.continued earlier).1] at ready
          cases ready
        · cases result.writes _ now
      have admitted : ∀ root, .admitted root ∈ before ++ events → .admitted root ∈ before := by
        intro root member
        rcases List.mem_append.1 member with earlier | now
        · exact earlier
        · cases result.writes _ now
      have all : writes (before ++ events) = written.flatMap seen := by
        rw [writes_append, told, result.seen]
        exact congrArg _ (List.filter_eq_self.2 result.writes)
      have flushed : Consistent functions { scope with writebackLedger := some written }
          (before ++ events) := by
        refine ⟨consistent.distinct, fun root member => consistent.admitted root (admitted root member),
          nofun, ?_, fun member => absurd member silent⟩
        rintro _ ⟨⟩
        exact ⟨result.names.trans names, result.frontier, all⟩
      have continues (returned : failure = none) : Consistent functions
          { scope with writebackLedger := some written, ready := false }
          (before ++ (events ++ [.continued])) := by
        have same : writes (before ++ events ++ [.continued]) = writes (before ++ events) := by
          rw [writes_append]
          exact List.append_nil _
        rw [← List.append_assoc]
        refine ⟨consistent.distinct, fun root member => flushed.admitted root (by simpa using member),
          nofun, fun ledger stored => ?_,
          fun _ => ⟨rfl, _, written, rfl, silent, rfl, result.done returned⟩⟩
        rw [same]
        exact flushed.told ledger stored
      dsimp only
      cases failure with
      | some problem => exact flushed
      | none =>
          cases request.ends with
          | false => exact flushed
          | true =>
              cases request.release with
              | refused => exact flushed
              | lost | acknowledged => exact continues rfl

theorem plan_consistent (consistent : Consistent functions scope before)
    (ready : scope.ready = true) (request : Resume) :
    Consistent functions (scope.plan functions request).1
      (before ++ (scope.plan functions request).2.1) := by
  have unchanged : Consistent functions scope (before ++ []) := by rwa [List.append_nil]
  unfold CaptureScope.plan
  split
  · split
    · exact writeAndContinue_consistent consistent ready request
    · exact unchanged
  · split
    · exact unchanged
    · next admitted admits =>
        obtain ⟨still, named⟩ := admit_consistent consistent admits
        split
        · have written := writeAndContinue_consistent named (still.trans ready) request
          rwa [List.append_assoc] at written
        · exact named

theorem discard_unseen (frontier : Frontier ledger)
    (unmodified : ∀ entry ∈ ledger, entry.2.phase = .unattempted ∨
      entry.2.phase = .failed ∧ entry.2.failedStage = some .exporting) :
    ledger.flatMap seen = [] := by
  cases frontier with
  | nil => rfl
  | @front entry _ _ early behind =>
      have unexported : entry.2.address = none := by
        rcases unmodified entry List.mem_cons_self with unattempted | ⟨-, stage⟩
        · rw [early.fresh unattempted]
          rfl
        · exact early.unexported stage
      rw [List.flatMap_cons, seen_fresh behind, seen, unexported]
      rfl
  | done phase _ _ =>
      have here := unmodified _ List.mem_cons_self
      rw [phase] at here
      rcases here with unattempted | ⟨failed, -⟩ <;> contradiction

theorem perform_consistent (consistent : Consistent functions scope before)
    (action : CaptureScope.Action) :
    Consistent functions (scope.perform functions action).1
      (before ++ (scope.perform functions action).2) := by
  have unchanged : Consistent functions scope (before ++ []) := by rwa [List.append_nil]
  cases action with
  | admitCell roots =>
      unfold CaptureScope.perform
      dsimp only
      split
      · exact unchanged
      · next admits => exact (admit_consistent consistent admits).2
  | resume request =>
      unfold CaptureScope.perform
      dsimp only
      split
      · exact unchanged
      · next passes =>
          have ready : scope.ready = true := by
            unfold CaptureScope.checkResume at passes
            split_ifs at passes with unready
            all_goals simpa using unready
          exact plan_consistent consistent ready request
  | discard =>
      unfold CaptureScope.perform
      dsimp only
      split
      · exact unchanged
      · next discards =>
          unfold CaptureScope.discardUnmodifiedWriteback at discards
          split_ifs at discards with unready
          split at discards
          · cases discards
          · next ledger stored =>
              split_ifs at discards with _ modified
              obtain rfl := Except.ok.inj discards
              obtain ⟨-, frontier, told⟩ := consistent.told ledger stored
              have unmodified : ∀ entry ∈ ledger, entry.2.phase = .unattempted ∨
                  entry.2.phase = .failed ∧ entry.2.failedStage = some .exporting := by
                simpa [or_iff_not_imp_left] using modified
              have unseen := told.trans (discard_unseen frontier unmodified)
              rw [List.append_nil]
              refine ⟨consistent.distinct, consistent.admitted, fun _ => unseen, nofun, fun member => ?_⟩
              simp [(consistent.continued member).1] at unready

theorem run_consistent (consistent : Consistent functions scope before)
    (actions : List CaptureScope.Action) :
    Consistent functions (scope.run functions actions).1
      (before ++ (scope.run functions actions).2) := by
  induction actions generalizing scope before with
  | nil => simpa [CaptureScope.run] using consistent
  | cons action rest hypothesis =>
      have last := hypothesis (perform_consistent consistent action)
      rwa [List.append_assoc] at last

theorem opened_consistent : Consistent functions .opened [] :=
  ⟨List.nodup_nil, nofun, fun _ => rfl, nofun, nofun⟩

def sentRoot : Event → Option String
  | .sent root _ => some root
  | _ => none

theorem sentRoot_writes (events : List Event) :
    (writes events).filterMap sentRoot = events.filterMap sentRoot := by
  rw [writes, List.filterMap_filter]
  congr
  funext event
  cases event <;> rfl

theorem sentRoot_seen (entry : String × RootState) :
    (seen entry).filterMap sentRoot <+: [entry.1] := by
  unfold seen
  split
  · exact List.nil_prefix
  · split
    iterate 3 exact List.prefix_rfl
    exact List.nil_prefix

theorem seen_succeeded {entry : String × RootState} (phase : entry.2.phase = .succeeded)
    (address : entry.2.address.isSome) : ∃ address,
      seen entry = [.exported entry.1 address, .sent entry.1 address, .written entry.1] := by
  obtain ⟨text, known⟩ := Option.isSome_iff_exists.1 address
  exact ⟨text, by simp [seen, known, phase]⟩

/-- The roots that were sent are the first ones. -/
theorem Frontier.sent_prefix (frontier : Frontier ledger) :
    (ledger.flatMap seen).filterMap sentRoot <+: ledger.map Prod.fst := by
  induction frontier with
  | nil => exact List.nil_prefix
  | @front entry rest _ _ behind =>
      rw [List.flatMap_cons, seen_fresh behind, List.append_nil]
      exact (sentRoot_seen entry).trans (List.prefix_append [entry.1] _)
  | @done entry rest phase address _ hypothesis =>
      obtain ⟨text, known⟩ := seen_succeeded phase address
      rw [List.flatMap_cons, known]
      exact (List.prefix_append_right_inj [entry.1]).2 hypothesis

theorem AllSucceeded.written (all : AllSucceeded ledger) (member : root ∈ ledger.map Prod.fst) :
    .written root ∈ ledger.flatMap seen := by
  obtain ⟨entry, inside, rfl⟩ := List.mem_map.1 member
  obtain ⟨text, known⟩ := seen_succeeded (all entry inside).1 (all entry inside).2
  exact List.mem_flatMap.2 ⟨entry, inside, by simp [known]⟩

/-- What a run leaves of a stop, and what was seen of it. -/
structure WritebackLaw (functions : NameFunctions) (scope : CaptureScope) (events : List Event) :
    Prop where
  distinct : (scope.dirtyRoots.map functions.casefold).Nodup
  kept : ∀ root, .admitted root ∈ events →
    functions.casefold root ∈ scope.dirtyRoots.map functions.casefold
  /-- The modifies go out in the order of the roots, one for each. -/
  once : events.filterMap sentRoot <+: scope.dirtyRoots
  /-- MAIN continues at most once, behind the last write. -/
  continued : .continued ∈ events → ∃ earlier, events = earlier ++ [.continued] ∧
    .continued ∉ earlier ∧ ∀ root ∈ scope.dirtyRoots, .written root ∈ earlier
  fenced : scope.Blocked → ∀ actions, scope.run functions actions = (scope, [])

/-- From a confirmed stop on, whatever is admitted, resumed and discarded and however the ports
answer: no changed root is dropped, none is modified twice, and MAIN continues only behind the
last write. -/
theorem writeback_law (functions : NameFunctions) (actions : List CaptureScope.Action) :
    WritebackLaw functions (CaptureScope.opened.run functions actions).1
      (CaptureScope.opened.run functions actions).2 := by
  have consistent : Consistent functions _ _ := run_consistent opened_consistent actions
  rw [List.nil_append] at consistent
  generalize CaptureScope.opened.run functions actions = last at consistent
  obtain ⟨scope, events⟩ := last
  refine ⟨consistent.distinct, consistent.admitted, ?_, fun member => ?_, blocked_run⟩
  · dsimp only
    rw [← sentRoot_writes]
    cases stored : scope.writebackLedger with
    | none =>
        rw [consistent.unopened stored]
        exact List.nil_prefix
    | some ledger =>
        obtain ⟨names, frontier, told⟩ := consistent.told ledger stored
        rw [told, ← names]
        exact frontier.sent_prefix
  · obtain ⟨-, earlier, ledger, rfl, silent, stored, all⟩ := consistent.continued member
    obtain ⟨names, -, told⟩ := consistent.told ledger stored
    refine ⟨earlier, rfl, silent, fun root inside => ?_⟩
    rw [← names] at inside
    have written := all.written inside
    rw [← told, writes_append] at written
    rcases List.mem_append.1 written with now | never
    · exact (List.mem_filter.1 now).1
    · exact absurd never List.not_mem_nil

end OnecRuntime.Writeback
