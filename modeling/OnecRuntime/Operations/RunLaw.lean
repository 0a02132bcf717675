import OnecRuntime.Operations.Serving

/-!
# Operations run once and settle

The law of a whole run of the service, from a registry that was read back from its
journal, where every operation is terminal. One append that raises is enough to
break it: a refused submission stays behind, or a task ends and leaves its
operation running.
-/

namespace OnecRuntime.Operations

open OnecRuntime.Library

variable {contracts : Contracts}

namespace Service

open OperationRegistry

variable {service : Service contracts} {signals : List Signal}

/-- A service over a registry, before any call. -/
def opened (registry : OperationRegistry contracts) (nextId : Nat) : Service contracts :=
  ⟨registry, nextId, none, .empty, false, [], []⟩

/-- What `_rehydrate` leaves: terminal operations whose identifiers are drawn. -/
def Rehydrated (registry : OperationRegistry contracts) (nextId : Nat) : Prop :=
  ∀ {operationId command state}, registry.status operationId = some (command, state) →
    operationId < nextId ∧ state.terminal = true

theorem opened_orderly {registry : OperationRegistry contracts} {nextId : Nat}
    (rehydrated : Rehydrated registry nextId) : Orderly [] (opened registry nextId) := by
  refine ⟨fun {operationId entry} is => (@rehydrated operationId entry.1 entry.2 is).1, nofun, ?_, nofun,
    fun _ _ => rfl, fun _ => Nat.zero_le _, nofun, nofun⟩
  intro first second command other old new left _ live _ _
  rw [(rehydrated left).2] at live
  cases live

variable {first last : Service contracts} {earlier later : List Signal}

theorem run_orderly {permitted : Service contracts → Action contracts → Prop}
    (orderly : Orderly earlier first) (run : Run Step permitted first later last) :
    Orderly (earlier ++ later) last := by
  induction run with
  | start => rwa [List.append_nil]
  | further before taken _ hypothesis =>
      rw [← List.append_assoc]
      exact step_orderly hypothesis taken

theorem run_stable {permitted : Service contracts → Action contracts → Prop}
    (orderly : Orderly earlier first) (run : Run Step permitted first later last) :
    Stable first.registry last.registry later := by
  induction run with
  | start => exact stable_of_same rfl _
  | further before taken _ hypothesis =>
      exact hypothesis.trans (step_stable (run_orderly orderly before) taken)

/-- The part of the law that holds in every run. -/
theorem Orderly.alone (orderly : Orderly signals service) {first second : Nat}
    (left : service.tasks.get? first = some .executing)
    (right : service.tasks.get? second = some .executing) : first = second :=
  Option.some.inj ((orderly.lane left rfl).symm.trans (orderly.lane right rfl))

theorem Orderly.journaled (orderly : Orderly signals service) {operationId : Nat}
    {next : Service contracts} {emitted : List Signal}
    (step : Step service (.call operationId) next emitted) :
    (∃ cursor command, ⟨cursor, operationId, .submitted command⟩ ∈ service.registry.journal) ∧
      ∃ cursor, ⟨cursor, operationId, .started⟩ ∈ service.registry.journal := by
  unfold Step perform at step
  simp only at step
  split at step
  · next task => exact ⟨orderly.submitted task rfl, orderly.started task⟩
  · cases step

/-- Contracts that carry nothing. -/
def plainContracts : Contracts :=
  ⟨Unit, Unit, Unit, Unit, Unit, (), fun _ => [], fun _ => (), fun _ _ _ _ => (),
    inferInstance, inferInstance, inferInstance⟩

def plainCommand : Command plainContracts :=
  ⟨.codeRun, text "runtime", some 1, some (text "cell"), some 1, some (text "hash"),
    text "inputs", none, none, none, none⟩

def plainSubmission (submitted : Append) : Submission plainContracts :=
  ⟨some plainCommand, submitted, .accepted, .flushed⟩

def plainOutcome : BackendExecution plainContracts :=
  ⟨.completed, [text "done"], true, none, none, text "unknown", rfl⟩

def emptyRegistry : OperationRegistry plainContracts := ⟨.empty, 1, []⟩

theorem emptyRegistry_rehydrated : Rehydrated emptyRegistry 0 := nofun

def Anything (_ : Service contracts) (_ : Action contracts) : Prop := True

/-- The part of the law that no append can break. -/
structure CallLaw (signals : List Signal) (service : Service contracts) : Prop where
  exclusive : Exclusive service.registry
  once : ∀ operationId, signals.count (.called operationId) ≤ 1
  alone : ∀ {first second}, service.tasks.get? first = some .executing →
    service.tasks.get? second = some .executing → first = second
  journaled : ∀ {operationId next emitted}, Step service (.call operationId) next emitted →
    (∃ cursor command, ⟨cursor, operationId, .submitted command⟩ ∈ service.registry.journal) ∧
      ∃ cursor, ⟨cursor, operationId, .started⟩ ∈ service.registry.journal
  stable : ∀ {later final}, Run Step Anything service later final →
    Stable service.registry final.registry later

/-- In every run, whichever appends raise in it. -/
theorem call_law {registry : OperationRegistry contracts} {nextId : Nat}
    (rehydrated : Rehydrated registry nextId)
    (run : Run Step Anything (opened registry nextId) signals service) : CallLaw signals service := by
  have orderly : Orderly signals service := run_orderly (opened_orderly rehydrated) run
  exact ⟨orderly.exclusive, orderly.once, orderly.alone, orderly.journaled, run_stable orderly⟩

/-- The last append of a task raises. -/
theorem lost_settlement_call_law : ∃ signals service, .called 0 ∈ signals ∧
    service.registry.status 0 = some (plainCommand, .running) ∧ CallLaw signals service := by
  have run : Run Step Anything (opened emptyRegistry 0) _ _ := .start
  have run := run.further (show Step _ (.submit (plainSubmission .flushed)) _ _ from rfl) trivial
  have run := run.further (show Step _ (.enterLane 0 .flushed) _ _ from rfl) trivial
  have run := run.further (show Step _ (.call 0) _ _ from rfl) trivial
  have run := run.further (show Step _ (.answer 0 (some plainOutcome)) _ _ from rfl) trivial
  have run := run.further (show Step _ (.offerDiagnostic 0 true .flushed) _ _ from rfl) trivial
  have run := run.further
    (show Step _ (.settle 0 ⟨.flushed, [.flushed], .raised false⟩) _ _ from rfl) trivial
  exact ⟨_, _, List.mem_singleton_self _, rfl, call_law emptyRegistry_rehydrated run⟩

end Service

end OnecRuntime.Operations
