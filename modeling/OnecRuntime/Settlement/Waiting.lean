import OnecRuntime.Settlement.Evidence

/-!
# Registrations that wait

A registration is there exactly while its operation or its cell waits for a terminal
reply: a call registers it, and a terminal reply or a discard removes it.
-/

namespace OnecRuntime.Settlement

open OnecRuntime.Library
open OnecRuntime.Main

variable {contents : Contents}

/-- A registration of an operation is there. -/
def World.Present (world : World contents) (operation : Nat) : Prop :=
  ∃ registration, world.service.main.get? (world.commandId operation) = some registration ∧
    registration.record.operation = operation

/-- Whether an operation waits for its terminal reply, after one more signal. -/
def Signal.tracksMain (operation : Nat) (waiting : Bool) : Signal contents → Bool
  | .registeredMain registered _ => waiting || registered = operation
  | .settledMain settled (.replied reply) _ =>
      waiting && !(settled = operation && reply.kind = .mainCompleted)
  | .discardedMain discarded => waiting && discarded ≠ operation
  | _ => waiting

/-- Whether a cell waits for its reply, after one more signal. -/
def Signal.tracksCapture (payload : Nat) (waiting : Bool) : Signal contents → Bool
  | .registeredCapture registered => waiting || registered = payload
  | .settledCapture settled (.replied _) _ => waiting && settled ≠ payload
  | .discardedCapture discarded => waiting && discarded ≠ payload
  | _ => waiting

def waitsMain (operation : Nat) (signals : List (Signal contents)) : Bool :=
  signals.foldl (Signal.tracksMain operation) false

def waitsCapture (payload : Nat) (signals : List (Signal contents)) : Bool :=
  signals.foldl (Signal.tracksCapture payload) false

/-! ## Registrations that wait -/

variable {world next : World contents}

theorem present_of_same {operation : Nat}
    (same : next.service.main = world.service.main)
    (commands : next.commandId = world.commandId) :
    next.Present operation ↔ world.Present operation := by
  unfold World.Present
  rw [same, commands]

/-- An assignment that keeps the operation of a registration. -/
theorem present_of_reassigned {operation key : Nat}
    {before after : MainRegistration contents}
    (found : world.service.main.get? key = some before)
    (changed : next.service.main = world.service.main.set key after)
    (commands : next.commandId = world.commandId)
    (kept : after.record.operation = before.record.operation) :
    next.Present operation ↔ world.Present operation := by
  unfold World.Present
  rw [changed, commands]
  constructor
  · rintro ⟨registration, is, own⟩
    rcases Dictionary.get?_set_eq_some.1 is with ⟨same, rfl⟩ | ⟨_, was⟩
    · rw [same]
      exact ⟨before, found, by rw [← kept, own]⟩
    · exact ⟨registration, was, own⟩
  · rintro ⟨registration, is, own⟩
    by_cases same : world.commandId operation = key
    · rw [same] at is ⊢
      rw [found] at is
      cases is
      exact ⟨after, Dictionary.get?_set_same _ _ _, by rw [kept, own]⟩
    · exact ⟨registration, Dictionary.get?_set_eq_some.2 (.inr ⟨same, is⟩), own⟩

/-- The removal of the registration of one operation. -/
theorem present_of_erased {operation removed : Nat}
    {before : MainRegistration contents}
    (found : world.service.main.get? (world.commandId removed) = some before)
    (owned : before.record.operation = removed)
    (changed : next.service.main = world.service.main.erase (world.commandId removed))
    (commands : next.commandId = world.commandId) :
    next.Present operation ↔ world.Present operation ∧ removed ≠ operation := by
  unfold World.Present
  rw [changed, commands]
  constructor
  · rintro ⟨registration, is, own⟩
    obtain ⟨apart, was⟩ := Dictionary.get?_erase_eq_some.1 is
    exact ⟨⟨registration, was, own⟩, fun same => apart (by rw [same])⟩
  · rintro ⟨⟨registration, is, own⟩, apart⟩
    refine ⟨registration, Dictionary.get?_erase_eq_some.2 ⟨fun same => apart ?_, is⟩, own⟩
    rw [same, found] at is
    cases is
    rw [← owned, own]

theorem registered_present {operation registered : Nat}
    {fresh : MainRegistration contents}
    (absent : world.commandId registered ∉ world.service.main.keys)
    (owned : fresh.record.operation = registered)
    (changed : next.service.main = world.service.main.set (world.commandId registered) fresh)
    (commands : next.commandId = world.commandId) :
    next.Present operation ↔ world.Present operation ∨ registered = operation := by
  unfold World.Present
  rw [changed, commands]
  constructor
  · rintro ⟨registration, is, own⟩
    rcases Dictionary.get?_set_eq_some.1 is with ⟨same, rfl⟩ | ⟨_, was⟩
    · exact .inr (owned.symm.trans own)
    · exact .inl ⟨registration, was, own⟩
  · rintro (⟨registration, is, own⟩ | rfl)
    · refine ⟨registration, Dictionary.get?_set_eq_some.2 (.inr ⟨fun same => absent ?_, is⟩), own⟩
      rw [← same]
      exact Dictionary.mem_keys.2 ⟨registration, is⟩
    · exact ⟨fresh, Dictionary.get?_set_same _ _ _, owned⟩

variable {waiting : Bool}

/-- A signal that registers, settles and discards nothing of an operation. -/
theorem tracked_of_same {signal : Signal contents} {operation : Nat} {before after : Prop}
    (tracked : before ↔ waiting = true) (same : after ↔ before)
    (idle : signal.tracksMain operation waiting = waiting) :
    after ↔ signal.tracksMain operation waiting = true := by
  rw [idle, same]
  exact tracked

theorem settled_present {operation settledFor : Nat}
    {settled : Settled contents}
    (effect : MainEffect world.service world.objects settledFor settled) (names : List CodeText)
    (tracked : world.Present operation ↔ waiting = true) :
    World.Present { world with service := settled.service } operation ↔
      (Signal.settledMain settledFor settled.answer names).tracksMain operation waiting = true := by
  cases effect with
  | raised failure => exact tracked
  | userStop kind unnumbered unticketed =>
      refine tracked_of_same tracked (present_of_same rfl rfl) ?_
      simp [Signal.tracksMain, kind]
  | captured before owned kind numbered ticketed =>
      refine tracked_of_same tracked (present_of_reassigned before rfl rfl rfl) ?_
      simp [Signal.tracksMain, kind]
  | terminal before owned kind named unnumbered unticketed finished =>
      rcases finished.main with ⟨same, answered⟩ | ⟨erased, answered⟩
      · rw [answered]
        exact tracked_of_same tracked (present_of_same same rfl) rfl
      · rw [answered]
        have removed : World.Present { world with service := settled.service } operation ↔
            world.Present operation ∧ settledFor ≠ operation :=
          present_of_erased before owned erased rfl
        rw [removed, tracked]
        simp [Signal.tracksMain, kind]

theorem perform_present (world : World contents) (action : Action contents) {operation : Nat}
    (tracked : world.Present operation ↔ waiting = true) :
    (world.perform action).1.Present operation ↔
      (world.perform action).2.tracksMain operation waiting = true := by
  cases action with
  | registerMain registered payload prior ticket =>
      change (world.registerMain registered payload prior ticket).1.Present operation ↔
        (world.registerMain registered payload prior ticket).2.tracksMain operation waiting = true
      unfold World.registerMain
      split
      · next service registers =>
          obtain ⟨fresh, owned, _, _, _, absent, rfl⟩ :=
            RouteSettlementService.registerMain_ok registers
          have added := @registered_present _ world (world.registerMain registered payload prior
            ticket).1 operation registered fresh absent owned
          unfold World.registerMain at added
          rw [registers] at added
          rw [added rfl rfl, tracked]
          simp [Signal.tracksMain]
      · exact tracked
  | rebindNextCaptureTicket rebound ticket =>
      change (world.accepted _ _).1.Present operation ↔
        (world.accepted _ _).2.tracksMain operation waiting = true
      unfold World.accepted
      split
      · next service bound =>
          obtain ⟨before, found, owned, rfl⟩ :=
            RouteSettlementService.rebindNextCaptureTicket_ok bound
          exact tracked_of_same tracked (present_of_reassigned found rfl rfl rfl) rfl
      · exact tracked
  | registerCapture scope payload base =>
      change (world.accepted _ _).1.Present operation ↔
        (world.accepted _ _).2.tracksMain operation waiting = true
      unfold World.accepted
      split
      · next service registers =>
          obtain ⟨_, _, rfl⟩ := RouteSettlementService.registerCapture_ok registers
          exact tracked
      · exact tracked
  | settleMain fault outcome payload =>
      change (world.settleMain fault outcome payload).1.Present operation ↔
        (world.settleMain fault outcome payload).2.tracksMain operation waiting = true
      rcases world.settleMain_cases fault outcome payload with
        ⟨settledFor, settled, _, effect, is⟩ | ⟨answer, is⟩
      · rw [is]
        exact settled_present effect _ tracked
      · rw [is]
        exact tracked
  | settleCapture fault outcome payload =>
      change (world.settleCapture fault outcome payload).1.Present operation ↔
        (world.settleCapture fault outcome payload).2.tracksMain operation waiting = true
      rcases world.settleCapture_cases fault outcome payload with
        ⟨settled, _, effect, is⟩ | ⟨answer, is⟩
      · rw [is]
        refine tracked_of_same tracked (present_of_same ?_ rfl) rfl
        cases effect with
        | raised failure => rfl
        | terminal before kind named finished => exact finished.others.2 fun _ => rfl
      · rw [is]
        exact tracked
  | discardMain discarded =>
      change World.Present
        { world with service := world.service.discardMain world.objects discarded } operation ↔ _
      rcases discardMain_cases world discarded with ⟨same, foreign⟩ | ⟨before, found, owned, same⟩
      · rw [same]
        refine tracked.trans ?_
        change _ ↔ (waiting && decide (discarded ≠ operation)) = true
        rw [Bool.and_eq_true, decide_eq_true_iff]
        refine ⟨fun waits => ⟨waits, ?_⟩, And.left⟩
        rintro rfl
        obtain ⟨registration, is, own⟩ := tracked.2 waits
        exact foreign registration is own
      · have removed : World.Present
              { world with service := world.service.discardMain world.objects discarded } operation ↔
            world.Present operation ∧ discarded ≠ operation :=
          present_of_erased found owned (congrArg RouteSettlementService.main same) rfl
        rw [removed, tracked]
        simp [World.perform, Signal.tracksMain]
  | discardCapture payload => exact tracked
  | operationMoved moved phase pendingStop =>
      exact tracked_of_same tracked
        (present_of_same rfl (perform_commandId world (.operationMoved moved phase pendingStop))) rfl
  | scopeMoved scope contextState frameIdentity observed => exact tracked

/-! ## Cells that wait -/

variable {payload : Nat}

theorem erased_waits {removed : Nat} :
    payload ∉ [removed] ∧ waiting = true ↔ (waiting && decide (removed ≠ payload)) = true := by
  rw [List.mem_singleton, Bool.and_eq_true, decide_eq_true_iff, and_comm, ne_comm]

theorem registered_waits {registered : Nat} :
    payload = registered ∨ waiting = true ↔
      (waiting || decide (registered = payload)) = true := by
  rw [Bool.or_eq_true, decide_eq_true_iff, or_comm, @eq_comm _ payload]

theorem settledCell_waits {settledFor : Nat}
    {settled : Settled contents}
    (effect : CaptureEffect world.service world.objects settledFor settled)
    (names : List CodeText) (tracked : payload ∈ world.service.capture.keys ↔ waiting = true) :
    payload ∈ settled.service.capture.keys ↔
      (Signal.settledCapture settledFor settled.answer names).tracksCapture payload waiting =
        true := by
  cases effect with
  | raised failure => exact tracked
  | terminal before kind named finished =>
      rcases finished.capture with ⟨same, answered⟩ | ⟨erased, answered⟩
      · rw [same, answered]
        exact tracked
      · rw [erased, answered, Dictionary.erase, Dictionary.mem_keys_eraseAll, tracked]
        exact erased_waits

theorem perform_waits (world : World contents) (action : Action contents)
    (tracked : payload ∈ world.service.capture.keys ↔ waiting = true) :
    payload ∈ (world.perform action).1.service.capture.keys ↔
      (world.perform action).2.tracksCapture payload waiting = true := by
  cases action with
  | registerMain registered prepared prior ticket =>
      change payload ∈ (world.registerMain registered prepared prior ticket).1.service.capture.keys ↔
        (world.registerMain registered prepared prior ticket).2.tracksCapture payload waiting = true
      unfold World.registerMain
      split
      · next service registers =>
          obtain ⟨fresh, _, _, _, _, _, rfl⟩ := RouteSettlementService.registerMain_ok registers
          exact tracked
      · exact tracked
  | rebindNextCaptureTicket rebound ticket =>
      change payload ∈ (world.accepted _ _).1.service.capture.keys ↔
        (world.accepted _ _).2.tracksCapture payload waiting = true
      unfold World.accepted
      split
      · next service bound =>
          obtain ⟨_, _, _, rfl⟩ := RouteSettlementService.rebindNextCaptureTicket_ok bound
          exact tracked
      · exact tracked
  | registerCapture scope prepared base =>
      change payload ∈ (world.accepted _ _).1.service.capture.keys ↔
        (world.accepted _ _).2.tracksCapture payload waiting = true
      unfold World.accepted
      split
      · next service registers =>
          obtain ⟨fresh, _, rfl⟩ := RouteSettlementService.registerCapture_ok registers
          simp only
          rw [Dictionary.mem_keys_set, tracked]
          exact registered_waits
      · exact tracked
  | settleMain fault outcome prepared =>
      change payload ∈ (world.settleMain fault outcome prepared).1.service.capture.keys ↔
        (world.settleMain fault outcome prepared).2.tracksCapture payload waiting = true
      rcases world.settleMain_cases fault outcome prepared with
        ⟨settledFor, settled, _, effect, is⟩ | ⟨answer, is⟩
      · have same : settled.service.capture = world.service.capture := by
          cases effect with
          | raised failure => rfl
          | userStop kind unnumbered unticketed => rfl
          | captured before owned kind numbered ticketed => rfl
          | terminal before owned kind named unnumbered unticketed finished =>
              exact finished.others.1 fun _ => rfl
        rw [is]
        simp only
        rw [same]
        exact tracked
      · rw [is]
        exact tracked
  | settleCapture fault outcome prepared =>
      change payload ∈ (world.settleCapture fault outcome prepared).1.service.capture.keys ↔
        (world.settleCapture fault outcome prepared).2.tracksCapture payload waiting = true
      rcases world.settleCapture_cases fault outcome prepared with
        ⟨settled, _, effect, is⟩ | ⟨answer, is⟩
      · rw [is]
        exact settledCell_waits effect _ tracked
      · rw [is]
        exact tracked
  | discardMain discarded =>
      have same : (world.service.discardMain world.objects discarded).capture =
          world.service.capture := by
        rcases discardMain_cases world discarded with ⟨same, _⟩ | ⟨_, _, _, same⟩ <;> rw [same]
      change payload ∈ (world.service.discardMain world.objects discarded).capture.keys ↔ _
      rw [same]
      exact tracked
  | discardCapture discarded =>
      change payload ∈ (world.service.capture.erase discarded).keys ↔
        (waiting && decide (discarded ≠ payload)) = true
      rw [Dictionary.erase, Dictionary.mem_keys_eraseAll, tracked]
      exact erased_waits
  | operationMoved moved phase pendingStop => exact tracked
  | scopeMoved scope contextState frameIdentity observed => exact tracked

end OnecRuntime.Settlement
