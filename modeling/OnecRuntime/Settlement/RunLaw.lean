import OnecRuntime.Settlement.Law
import OnecRuntime.Settlement.Repeats

/-!
# Outcomes are published once

The names of a command are covered by the namespace once they entered it, so they enter
once. The law of a whole run puts this beside the numbers of the stops, the tickets, the
registrations that wait, and the calls that can be repeated.
-/

namespace OnecRuntime.Settlement

open OnecRuntime.Library
open OnecRuntime.Main

variable {contents : Contents}

/-! ## Names -/

/-- A name that a settle call added. -/
def Entered (signals : List (Signal contents)) (name : CodeText) : Prop :=
  (∃ operation answer names, .settledMain operation answer names ∈ signals ∧ name ∈ names) ∨
    ∃ payload answer names, .settledCapture payload answer names ∈ signals ∧ name ∈ names

variable {signals : List (Signal contents)}

theorem Entered.append {name : CodeText}
    (entered : Entered signals name) (later : List (Signal contents)) :
    Entered (signals ++ later) name := by
  rcases entered with ⟨operation, answer, names, member, new⟩ | ⟨payload, answer, names, member, new⟩
  · exact .inl ⟨operation, answer, names, List.mem_append_left _ member, new⟩
  · exact .inr ⟨payload, answer, names, List.mem_append_left _ member, new⟩

/-- What every run keeps about the namespace. -/
structure Named (initial : List CodeText) (signals : List (Signal contents))
    (world : World contents) : Prop where
  unentered : ∀ operation, operation ∉ world.admitted →
    ∀ signal ∈ signals, signal.enters operation = false
  covered : ∀ {key registration}, world.service.main.get? key = some registration →
    (∃ signal ∈ signals, signal.enters registration.record.operation = true) →
    ∀ name ∈ registration.namespaceNames,
      contents.casefold name ∈ world.service.namespaceOwner.names.map contents.casefold
  once : ∀ operation, (signals.filter (Signal.enters operation)).length ≤ 1
  origin : ∀ name ∈ world.service.namespaceOwner.names, name ∈ initial ∨ Entered signals name
  main : ∀ {operation answer names}, .settledMain operation answer names ∈ signals → names ≠ [] →
    ∃ reply, (answer = .replied reply ∨ answer = .interrupted reply) ∧
      reply.kind = .mainCompleted ∧ reply.operationId = (world.commandId operation : Int) ∧
      reply.succeeded = true
  cells : ∀ {payload answer names}, .settledCapture payload answer names ∈ signals → names ≠ [] →
    ∃ reply, (answer = .replied reply ∨ answer = .interrupted reply) ∧
      reply.kind = .captureCell ∧ reply.succeeded = true

variable {signal : Signal contents}

theorem enters_iff {operation : Nat} :
    signal.enters operation = true ↔
      ∃ answer names, signal = .settledMain operation answer names ∧ names ≠ [] := by
  cases signal with
  | settledMain settled answer names => simp [Signal.enters]
  | registeredMain registered ticket => simp [Signal.enters]
  | rebound rebound ticket => simp [Signal.enters]
  | registeredCapture payload => simp [Signal.enters]
  | settledCapture payload answer names => simp [Signal.enters]
  | settledOther answer => simp [Signal.enters]
  | discardedMain discarded => simp [Signal.enters]
  | discardedCapture payload => simp [Signal.enters]
  | refused failure => simp [Signal.enters]
  | moved => simp [Signal.enters]

variable {world : World contents}

/-- A call that adds names of a command found its registration, and the names are covered. -/
theorem NamesEffect.entering {next : World contents}
    {operation : Nat} (effect : NamesEffect world next signal)
    (enters : signal.enters operation = true) :
    ∃ registration, world.service.main.get? (world.commandId operation) = some registration ∧
      registration.record.operation = operation ∧
      next.service.namespaceOwner.names = mergeNames contents.casefold
        world.service.namespaceOwner.names registration.namespaceNames ∧
      entered world.service next.service ≠ [] := by
  obtain ⟨answer, names, is, new⟩ := enters_iff.1 enters
  cases effect with
  | unchanged same quiet quietCells => exact absurd (quiet _ _ _ is) new
  | main signalled answered found owned terminal named successful merged =>
      rw [signalled] at is
      cases is
      exact ⟨_, found, owned, merged, new⟩
  | capture signalled answered found terminal named successful merged =>
      rw [signalled] at is
      cases is

/-- The names of the namespace stay, in some spelling. -/
theorem NamesEffect.keeps {next : World contents}
    (effect : NamesEffect world next signal) {folded : CodeText}
    (member : folded ∈ world.service.namespaceOwner.names.map contents.casefold) :
    folded ∈ next.service.namespaceOwner.names.map contents.casefold := by
  obtain ⟨name, named, rfl⟩ := List.mem_map.1 member
  cases effect with
  | unchanged same quiet quietCells =>
      rw [same]
      exact member
  | main signalled answered found owned terminal _ successful merged =>
      rw [merged]
      exact mergeNames_covers (.inl named)
  | capture signalled answered found terminal _ successful merged =>
      rw [merged]
      exact mergeNames_covers (.inl named)

/-- Covered names add nothing. -/
theorem entered_covered {before after : RouteSettlementService contents} {names : List CodeText}
    (merged : after.namespaceOwner.names =
      mergeNames contents.casefold before.namespaceOwner.names names)
    (covered : ∀ name ∈ names,
      contents.casefold name ∈ before.namespaceOwner.names.map contents.casefold) :
    entered before after = [] := by
  unfold entered
  rw [merged]
  refine List.filter_eq_nil_iff.2 fun name member => ?_
  rcases mem_mergeNames member with was | ⟨new, absent⟩
  · simpa using was
  · exact absurd (covered name new) absent

variable {initial : List CodeText}

theorem perform_named (numbered : Numbered signals world)
    (named : Named initial signals world) {action : Action contents}
    (once : RegistersOnce world action) :
    Named initial (signals ++ [(world.perform action).2]) (world.perform action).1 := by
  have effect := perform_names world action
  refine ⟨?_, ?_, ?_, ?_, ?_, ?_⟩
  · intro operation absent signal member
    rw [perform_admitted, not_or] at absent
    rcases List.mem_append.1 member with earlier | now
    · exact named.unentered operation absent.1 signal earlier
    · rw [List.mem_singleton.1 now, Bool.eq_false_iff]
      intro enters
      obtain ⟨registration, found, owned, _⟩ := effect.entering enters
      exact absent.1 (owned ▸ numbered.admitted found)
  · rintro key registration found ⟨signal, member, enters⟩ name names
    rcases (perform_origin numbered.keyed action found).before with
      ⟨before, was, same, kept⟩ | ⟨signalled, _, _⟩
    · rw [← same] at enters
      rw [← kept] at names
      rcases List.mem_append.1 member with earlier | now
      · exact effect.keeps (named.covered was ⟨signal, earlier, enters⟩ name names)
      · rw [List.mem_singleton.1 now] at enters
        obtain ⟨settled, is, _, merged, _⟩ := effect.entering enters
        rw [numbered.keyed was, was] at is
        cases is
        rw [merged]
        exact mergeNames_covers (.inr names)
    · have fresh := registered_fresh once signalled
      rcases List.mem_append.1 member with earlier | now
      · rw [named.unentered _ fresh signal earlier] at enters
        cases enters
      · rw [List.mem_singleton.1 now, signalled] at enters
        cases enters
  · intro operation
    rw [List.filter_append, List.length_append]
    by_cases enters : (world.perform action).2.enters operation = true
    · obtain ⟨registration, found, owned, merged, new⟩ := effect.entering enters
      have earlier : signals.filter (Signal.enters operation) = [] := by
        refine List.filter_eq_nil_iff.2 fun signal member before => ?_
        exact new (entered_covered merged
          (named.covered found ⟨signal, member, owned ▸ before⟩))
      rw [earlier, List.length_nil, Nat.zero_add]
      exact List.length_filter_le _ _
    · rw [List.filter_cons_of_neg enters, List.filter_nil]
      exact named.once operation
  · intro name member
    by_cases was : name ∈ world.service.namespaceOwner.names
    · exact (named.origin name was).imp_right fun entered => entered.append _
    · have new : name ∈ entered world.service (world.perform action).1.service :=
        List.mem_filter.2 ⟨member, decide_eq_true was⟩
      cases effect with
      | unchanged same quiet quietCells =>
          rw [same] at member
          exact absurd member was
      | main signalled answered found owned terminal _ successful merged =>
          have now := List.mem_append_right signals (List.mem_singleton.2 signalled.symm)
          exact .inr (.inl ⟨_, _, _, now, new⟩)
      | capture signalled answered found terminal _ successful merged =>
          have now := List.mem_append_right signals (List.mem_singleton.2 signalled.symm)
          exact .inr (.inr ⟨_, _, _, now, new⟩)
  · intro operation answer names member new
    rw [perform_commandId]
    rcases List.mem_append.1 member with earlier | now
    · exact named.main earlier new
    · have is := (List.mem_singleton.1 now).symm
      cases effect with
      | unchanged same quiet quietCells => exact absurd (quiet _ _ _ is) new
      | main signalled answered found owned terminal numbered successful merged =>
          rw [signalled] at is
          cases is
          exact ⟨_, answered, terminal, numbered, successful⟩
      | capture signalled answered found terminal numbered successful merged =>
          rw [signalled] at is
          cases is
  · intro payload answer names member new
    rcases List.mem_append.1 member with earlier | now
    · exact named.cells earlier new
    · have is := (List.mem_singleton.1 now).symm
      cases effect with
      | unchanged same quiet quietCells => exact absurd (quietCells _ _ _ is) new
      | main signalled answered found owned terminal numbered successful merged =>
          rw [signalled] at is
          cases is
      | capture signalled answered found terminal numbered successful merged =>
          rw [signalled] at is
          cases is
          exact ⟨_, answered, terminal, successful⟩

/-! ## Cells and tickets -/

/-- A registration of a cell was there before the call, or its names are valid. -/
theorem perform_cells (world : World contents) (action : Action contents) {key : Nat}
    {registration : CaptureRegistration contents}
    (found : (world.perform action).1.service.capture.get? key = some registration) :
    world.service.capture.get? key = some registration ∨
      ∀ name ∈ registration.namespaceNames, name ≠ [] := by
  cases action with
  | registerMain registered payload prior ticket =>
      change (world.registerMain registered payload prior ticket).1.service.capture.get? key = _
        at found
      unfold World.registerMain at found
      split at found
      · next service registers =>
          obtain ⟨_, _, _, _, _, _, rfl⟩ := RouteSettlementService.registerMain_ok registers
          exact .inl found
      · exact .inl found
  | rebindNextCaptureTicket rebound ticket =>
      change (world.accepted _ _).1.service.capture.get? key = _ at found
      unfold World.accepted at found
      split at found
      · next service bound =>
          obtain ⟨_, _, _, rfl⟩ := RouteSettlementService.rebindNextCaptureTicket_ok bound
          exact .inl found
      · exact .inl found
  | registerCapture scope payload base =>
      change (world.accepted _ _).1.service.capture.get? key = _ at found
      unfold World.accepted at found
      split at found
      · next service registers =>
          obtain ⟨fresh, valid, rfl⟩ := RouteSettlementService.registerCapture_ok registers
          rcases Dictionary.get?_set_eq_some.1 found with ⟨_, rfl⟩ | ⟨_, kept⟩
          · exact .inr valid
          · exact .inl kept
      · exact .inl found
  | settleMain fault outcome payload =>
      change (world.settleMain fault outcome payload).1.service.capture.get? key = _ at found
      rcases world.settleMain_cases fault outcome payload with
        ⟨operation, settled, _, effect, is⟩ | ⟨answer, is⟩
      · rw [is] at found
        have same : settled.service.capture = world.service.capture := by
          cases effect with
          | raised failure => rfl
          | userStop kind unnumbered unticketed => rfl
          | captured before owned kind numbered ticketed => rfl
          | terminal before owned kind named unnumbered unticketed finished =>
              exact finished.others.1 fun _ => rfl
        simp only [same] at found
        exact .inl found
      · rw [is] at found
        exact .inl found
  | settleCapture fault outcome payload =>
      change (world.settleCapture fault outcome payload).1.service.capture.get? key = _ at found
      rcases world.settleCapture_cases fault outcome payload with
        ⟨settled, _, effect, is⟩ | ⟨answer, is⟩
      · rw [is] at found
        cases effect with
        | raised failure => exact .inl found
        | terminal before kind named finished =>
            rcases finished.capture with ⟨same, _⟩ | ⟨erased, _⟩
            · simp only [same] at found
              exact .inl found
            · simp only [erased] at found
              exact .inl (Dictionary.get?_erase_eq_some.1 found).2
      · rw [is] at found
        exact .inl found
  | discardMain discarded =>
      change (world.service.discardMain world.objects discarded).capture.get? key = _ at found
      rcases discardMain_cases world discarded with ⟨same, _⟩ | ⟨_, _, _, same⟩
      · rw [same] at found
        exact .inl found
      · rw [same] at found
        exact .inl found
  | discardCapture payload => exact .inl (Dictionary.get?_erase_eq_some.1 found).2
  | operationMoved moved phase pendingStop => exact .inl found
  | scopeMoved scope contextState frameIdentity observed => exact .inl found

theorem ticketId_eq_some {ticket : Option CaptureCorrelationTicket} {commandId sequence : Nat}
    {identifier : CodeText}
    (reported : MainReplyPolicy.ticketId ticket commandId sequence = some identifier) :
    ∃ given, ticket = some given ∧ given.ticketId = identifier ∧
      given.expectedOperationId = commandId ∧ given.expectedStopSequence = sequence := by
  unfold MainReplyPolicy.ticketId at reported
  split at reported
  · cases reported
  · next given =>
      split at reported
      · next names => exact ⟨given, rfl, Option.some.inj reported, names.1, names.2⟩
      · cases reported

/-- Every reported ticket was given to the command and names the stop of the reply. -/
def Ticketed (signals : List (Signal contents)) (world : World contents) : Prop :=
  ∀ {operation reply names identifier},
    .settledMain operation (.replied reply) names ∈ signals →
    reply.captureTicket = some identifier →
    ∃ ticket, (∃ signal ∈ signals, signal.Gives operation ticket) ∧
      ticket.ticketId = identifier ∧ ticket.expectedOperationId = world.commandId operation ∧
      reply.stopSequence = some ticket.expectedStopSequence

theorem perform_ticketed (numbered : Numbered signals world) (ticketed : Ticketed signals world)
    (action : Action contents) :
    Ticketed (signals ++ [(world.perform action).2]) (world.perform action).1 := by
  intro operation reply names identifier member reported
  rw [perform_commandId]
  have earlier : ∀ {ticket}, (∃ signal ∈ signals, signal.Gives operation ticket) →
      ∃ signal ∈ signals ++ [(world.perform action).2], signal.Gives operation ticket :=
    fun ⟨signal, held, gives⟩ => ⟨signal, List.mem_append_left _ held, gives⟩
  rcases List.mem_append.1 member with before | now
  · obtain ⟨ticket, given, rest⟩ := ticketed before reported
    exact ⟨ticket, earlier given, rest⟩
  · rcases perform_replied (List.mem_singleton.1 now).symm with
      ⟨_, unticketed⟩ | ⟨registration, found, owned, sequenced, carried⟩
    · rw [unticketed] at reported
      cases reported
    · rw [carried] at reported
      obtain ⟨ticket, held, same, command, sequence⟩ := ticketId_eq_some reported
      refine ⟨ticket, earlier (owned ▸ numbered.given found held), same, command, ?_⟩
      rw [sequenced, sequence]

/-! ## The law -/

/-- The law of a state that a run reached with some signals. -/
structure SettlementLaw (initial : List CodeText) (signals : List (Signal contents))
    (world : World contents) : Prop where
  /-- Every name was there at first or entered with a settle call. -/
  names : ∀ name ∈ world.service.namespaceOwner.names, name ∈ initial ∨ Entered signals name
  /-- Names enter with the terminal successful reply of their own command. -/
  mainNames : ∀ {operation answer names}, .settledMain operation answer names ∈ signals →
    names ≠ [] → ∃ reply, (answer = .replied reply ∨ answer = .interrupted reply) ∧
      reply.kind = .mainCompleted ∧ reply.operationId = (world.commandId operation : Int) ∧
      reply.succeeded = true
  mainNamesOnce : ∀ operation, (signals.filter (Signal.enters operation)).length ≤ 1
  /-- Names of a cell enter with its own successful reply. -/
  captureNames : ∀ {payload answer names}, .settledCapture payload answer names ∈ signals →
    names ≠ [] → ∃ reply, (answer = .replied reply ∨ answer = .interrupted reply) ∧
      reply.kind = .captureCell ∧ reply.succeeded = true
  /-- The stops of a command are numbered from one, each once and in order. -/
  stops : ∀ operation, ∃ count, stopsOf operation signals = List.range' 1 count
  tickets : Ticketed signals world
  /-- A registration is there until a terminal reply was returned or it was discarded. -/
  mainKept : ∀ operation, world.Present operation ↔ waitsMain operation signals = true
  captureKept : ∀ payload,
    payload ∈ world.service.capture.keys ↔ waitsCapture payload signals = true
  /-- A call without a reply keeps the registrations; it gives the reply that was lost, or what
  it would have given, wherever it is repeated on the same evidence. -/
  mainRepeats : ∀ {fault outcome payload}, ¬(world.mainAnswer fault outcome payload).Replies →
    (world.settleMain fault outcome payload).1.service.main = world.service.main ∧
    (∀ {reply}, world.mainAnswer fault outcome payload = .interrupted reply →
      world.mainAnswer .none outcome payload = .replied reply) ∧
    ∀ {later}, SameEvidence outcome world later → ∀ again,
      later.mainAnswer again outcome payload = world.mainAnswer again outcome payload
  captureRepeats : ∀ {fault outcome payload},
    ¬(world.captureAnswer fault outcome payload).Replies →
    (world.settleCapture fault outcome payload).1.service.capture = world.service.capture ∧
    (∀ {reply}, world.captureAnswer fault outcome payload = .interrupted reply →
      world.captureAnswer .none outcome payload = .replied reply) ∧
    ∀ {later}, SameCell payload.ref world later → ∀ again,
      later.captureAnswer again outcome payload = world.captureAnswer again outcome payload

/-- A service before any call. -/
def opened (objects : Objects contents) (initial : List CodeText) : World contents :=
  ⟨⟨.empty, .empty, ⟨initial, 0⟩⟩, objects, []⟩

/-- What every run keeps. -/
structure Orderly (initial : List CodeText) (signals : List (Signal contents))
    (world : World contents) : Prop where
  numbered : Numbered signals world
  named : Named initial signals world
  ticketed : Ticketed signals world
  present : ∀ operation, world.Present operation ↔ waitsMain operation signals = true
  waits : ∀ payload, payload ∈ world.service.capture.keys ↔ waitsCapture payload signals = true
  cells : ∀ {key registration}, world.service.capture.get? key = some registration →
    ∀ name ∈ registration.namespaceNames, name ≠ []

theorem opened_orderly (objects : Objects contents) (initial : List CodeText) :
    Orderly initial [] (opened objects initial) := by
  refine ⟨⟨nofun, nofun, nofun, fun _ _ => rfl, nofun, fun _ => ⟨0, rfl⟩, nofun⟩,
    ⟨fun _ _ _ member => absurd member List.not_mem_nil, nofun, fun _ => Nat.zero_le _,
      fun _ member => .inl member, fun member => absurd member List.not_mem_nil,
      fun member => absurd member List.not_mem_nil⟩,
    fun member => absurd member List.not_mem_nil, fun operation => ?_, fun payload => ?_, nofun⟩
  · constructor
    · rintro ⟨_, impossible, _⟩
      cases impossible
    · intro impossible
      cases impossible
  · constructor
    · intro impossible
      cases impossible
    · intro impossible
      cases impossible

theorem perform_orderly (orderly : Orderly initial signals world) {action : Action contents}
    (once : RegistersOnce world action) :
    Orderly initial (signals ++ [(world.perform action).2]) (world.perform action).1 := by
  refine ⟨perform_numbered orderly.numbered once,
    perform_named orderly.numbered orderly.named once,
    perform_ticketed orderly.numbered orderly.ticketed action, fun operation => ?_,
    fun payload => ?_, fun {key registration} found => ?_⟩
  · unfold waitsMain
    rw [List.foldl_append]
    exact perform_present world action (orderly.present operation)
  · unfold waitsCapture
    rw [List.foldl_append]
    exact perform_waits world action (orderly.waits payload)
  · exact (perform_cells world action found).elim orderly.cells id

theorem Orderly.law (orderly : Orderly initial signals world) :
    SettlementLaw initial signals world :=
  ⟨orderly.named.origin, orderly.named.main, orderly.named.once, orderly.named.cells,
    orderly.numbered.stops, orderly.ticketed, orderly.present, orderly.waits,
    fun silent => ⟨(mainAnswer_kept silent).1, mainAnswer_rebuilt orderly.numbered.valid,
      fun same again => (mainAnswer_same same again _).symm⟩,
    fun silent => ⟨(captureAnswer_kept silent).2, captureAnswer_rebuilt orderly.cells,
      fun same again => (captureAnswer_same same again).symm⟩⟩

end OnecRuntime.Settlement
