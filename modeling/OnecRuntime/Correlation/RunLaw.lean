import OnecRuntime.Correlation.CallLaw

/-!
# Runs of the capture service

What a call keeps is kept over the runs, through crashes and new services. A run whose appends are
all sound keeps what the journal is for; a torn character and a torn line do not.
-/

namespace OnecRuntime.Correlation

open OnecRuntime.Library

/-- The generations of the published fences, the newest first. -/
def World.generations (world : World) : List Int :=
  (world.published.map (·.captureGeneration)).reverse

structure WorldHolds (world : World) : Prop where
  file : ∃ table, Covers table world.recorded ∧ FileHolds table world.generations world.file
  service : ∀ service, world.service = some service →
    SessionHolds world.recorded world.generations world.generations
      ⟨world.file, service, world.events⟩
  rising : world.generations.Pairwise fun newer older => older < newer
  readable : ∀ file intent, Event.armed file intent ∈ world.events → Readable file (.intent intent)

/-- The world holds if all appends of its run were sound. -/
def WorldKept (world : World) : Prop := SoundEvents world.events → WorldHolds world

theorem new_of_items {file : JournalFile} {items : List Json}
    (read : journalItems file = some items) :
    CaptureService.new file =
      some ⟨items.foldl laterGeneration 0, items.foldl withRequest .empty, none, none⟩ := by
  unfold CaptureService.new loadGeneration loadRequests
  rw [read]
  rfl

/-- What the journal is for follows from what is kept. -/
theorem WorldHolds.survives {world : World} (holds : WorldHolds world) : Survives world := by
  obtain ⟨table, covers, items, read, answered, _⟩ := holds.file
  have constructed := new_of_items read
  refine ⟨⟨_, constructed⟩, ?_, ?_, holds.readable⟩
  · rintro service (living | fresh) request member
    · exact answers_of_held ((holds.service service living).covers request member)
    · rw [constructed] at fresh
      cases fresh
      exact answers_of_held (answered _ _ (covers request member))
  · exact List.pairwise_reverse.1 holds.rising

variable {world : World}

theorem WorldKept.session (kept : WorldKept world) {service : CaptureService}
    (living : world.service = some service) :
    Kept world.recorded world.generations world.generations ⟨world.file, service, world.events⟩ :=
  fun sound => (kept sound).service service living

/-- A call leaves a world that is kept, with what was recorded and published by it. -/
theorem worldKept_of_session {session : Session}
    (kept : Kept world.recorded world.generations world.generations session)
    (file : world.file = session.file) (events : world.events = session.events)
    (service : ∀ service, world.service = some service → service = session.service) :
    WorldKept world := by
  intro sound
  have holds := kept (events ▸ sound)
  refine ⟨⟨_, holds.covers, ?_⟩, ?_, holds.rising, ?_⟩
  · rw [file]
    exact holds.file
  · intro other living
    rw [service other living, file, events]
    exact holds
  · rw [events]
    exact holds.readable

theorem after_service {α : Type} (ended : Session × Outcome α) (service : CaptureService)
    (living : (world.after ended).service = some service) : service = ended.1.service := by
  unfold World.after at living
  dsimp only at living
  split at living
  · cases living
  · exact (Option.some.inj living).symm

theorem WorldKept.after {α : Type} {ended : Session × Outcome α}
    (kept : Kept world.recorded world.generations world.generations ended.1) :
    WorldKept (world.after ended) :=
  worldKept_of_session kept rfl rfl (after_service ended)

theorem WorldKept.publish {ended : Session × Outcome CaptureRunResult}
    (ends : Ends world.recorded world.generations ended) : WorldKept (world.publish ended) := by
  unfold World.publish
  split
  · next execution capture failure recovery quarantine dispatched same =>
      refine @worldKept_of_session
        { world.after ended with published := world.published ++ [capture.fence] } ended.1 ?_ rfl rfl
        (@after_service world _ ended)
      have newest : World.generations
          { world.after ended with published := world.published ++ [capture.fence] } =
            capture.fence.captureGeneration :: world.generations := by
        unfold World.generations
        rw [List.map_append, List.reverse_append]
        rfl
      rw [newest]
      exact ends.published _ capture same rfl
  · exact .after ends.kept

theorem WorldKept.record (kept : WorldKept world) {service : CaptureService}
    (living : world.service = some service) (requestId fingerprint operationId : CodeText)
    (fate : Fate) :
    WorldKept (world.record requestId fingerprint operationId
      (Session.recordRequest ⟨world.file, service, world.events⟩ requestId fingerprint operationId
        fate)) := by
  obtain ⟨always, returned⟩ :=
    (kept.session living).recordRequest requestId fingerprint operationId fate
  unfold World.record
  split
  · next done same => exact worldKept_of_session (returned done same) rfl rfl (@after_service world _ _)
  · exact .after always

/-- A service that is constructed from a journal that is kept. -/
theorem WorldKept.start (kept : WorldKept world) :
    WorldKept { world with service := CaptureService.new world.file } := by
  intro sound
  have holds := kept sound
  refine ⟨holds.file, ?_, holds.rising, holds.readable⟩
  intro service constructed
  obtain ⟨table, covers, items, read, answered, low⟩ := holds.file
  dsimp only at constructed
  rw [new_of_items read] at constructed
  cases constructed
  exact ⟨⟨items, read, fun _ _ held => held, low⟩,
    fun request member => answered _ _ (covers request member), low, holds.rising, holds.readable⟩

/-- A change of the paused capture keeps all. -/
theorem WorldKept.mapService (kept : WorldKept world) {change : CaptureService → CaptureService}
    (requests : ∀ service, (change service).requests = service.requests)
    (generation : ∀ service, (change service).generation = service.generation) :
    WorldKept { world with service := world.service.map change } := by
  intro sound
  have holds := kept sound
  refine ⟨holds.file, ?_, holds.rising, holds.readable⟩
  intro service changed
  obtain ⟨before, living, rfl⟩ := Option.map_eq_some_iff.1 changed
  have session := (kept.session living).withService (requests before) (generation before)
  exact session sound

theorem WorldKept.step (kept : WorldKept world) (functions : TextFunctions) (step : Step) :
    WorldKept (world.step functions step) := by
  cases step with
  | start => exact kept.start
  | stop =>
      intro sound
      have holds := kept sound
      exact ⟨holds.file, fun _ living => (nomatch living), holds.rising, holds.readable⟩
  | recordRequest requestId fingerprint operationId fate =>
      unfold World.step
      dsimp only
      split
      · next service living => exact kept.record living _ _ _ _
      · exact kept
  | runUntil request replies =>
      unfold World.step
      dsimp only
      split
      · next service living => exact .publish ((kept.session living).runUntil functions _ _)
      · exact kept
  | continueCapture fence operationId nextPoints replies =>
      unfold World.step
      dsimp only
      split
      · next service living => exact .publish ((kept.session living).continueCapture _)
      · exact kept
  | activateCaptureView capture => exact kept.mapService (fun _ => rfl) fun _ => rfl
  | invalidateIfActive fence =>
      refine kept.mapService (fun service => ?_) fun service => ?_
      · split <;> rfl
      · split <;> rfl

theorem worldKept_initial : WorldKept .initial := by
  intro _
  refine ⟨⟨.empty, nofun, [], rfl, ?_, nofun⟩, fun _ living => (nomatch living), .nil, nofun⟩
  intro requestId value held
  exact held

theorem worldKept_run (functions : TextFunctions) (steps : List Step) :
    WorldKept (World.run functions steps) := by
  have kept : ∀ world, WorldKept world → WorldKept (steps.foldl (World.step functions) world) := by
    induction steps with
    | nil => exact fun _ kept => kept
    | cons step rest hypothesis => exact fun world kept => hypothesis _ (kept.step functions step)
  exact kept _ worldKept_initial

/-! ## The runs that keep what the journal is for -/

/-- In a run whose appends all start a line of their own, hold no unescaped line separator and are
cut between two characters, and whose requests are named, the journal survives. -/
theorem journal_survives (functions : TextFunctions) (steps : List Step)
    (sound : ∀ event ∈ (World.run functions steps).events, event.IsSound) :
    Survives (World.run functions steps) :=
  (worldKept_run functions steps sound).survives

/-- What is left of a line ends between two characters; a whole line does. -/
def Fate.endsBetween (fate : Fate) (payload : Json) : Bool :=
  fate = .done || (lineBytes payload).all fun bytes => (decodedText (fate.written bytes)).isSome

theorem endsBetween_iff {fate : Fate} {payload : Json} :
    fate.endsBetween payload = true ↔
      ∀ bytes, lineBytes payload = some bytes → decodedText (fate.written bytes) ≠ none := by
  unfold Fate.endsBetween lineBytes
  split
  · next encodable =>
      constructor
      · intro holds bytes same
        cases same
        rcases Bool.or_eq_true_iff.1 holds with done | decoded
        · rw [of_decide_eq_true done]
          exact Option.ne_none_iff_exists'.2 ⟨_, decodedText_encoded _⟩
        · exact Option.isSome_iff_ne_none.1 decoded
      · intro decoded
        exact Bool.or_eq_true_iff.2 (.inr (Option.isSome_iff_ne_none.2 (decoded _ rfl)))
  · exact iff_of_true (Bool.or_eq_true_iff.2 (.inr rfl)) nofun

instance (file : JournalFile) (payload : Json) (fate : Fate) : Decidable (Sound file payload fate) :=
  decidable_of_iff (Fresh file ∧ Plain payload ∧ fate.endsBetween payload = true)
    ⟨fun ⟨fresh, plain, between⟩ => ⟨fresh, plain, endsBetween_iff.1 between⟩,
      fun sound => ⟨sound.fresh, sound.plain, endsBetween_iff.2 sound.between⟩⟩

instance (entry : Entry) : Decidable entry.Named := by
  unfold Entry.Named
  split <;> infer_instance

instance (event : Event) : Decidable event.IsSound := by
  unfold Event.IsSound
  split <;> infer_instance

/-- Texts that are compared as they are, and that are all identifiers. -/
def plainTexts : TextFunctions := ⟨id, fun _ => true⟩

def stoppedPoint : ResolvedCapturePoint :=
  ⟨text "p", text "Core", text "Orders", text "Post", 7, 3, List.replicate 64 (point 'a'), 7,
    text "Post();"⟩

/-- The intent is armed, and MAIN stops at its point. -/
def stoppedReplies : RunReplies :=
  ⟨some [stoppedPoint], text "capture_1", .done, some ⟨text "ticket", 5, 1⟩, .done,
    some ⟨.bare .captured "captured", some ⟨1, stoppedPoint, 5, some (text "ticket"), some 5⟩,
      .nothing, none, some true⟩, true⟩

/-- A request is recorded and its capture published, a crash tears the next record, and the service
is constructed again. -/
def quietSteps : List Step :=
  [.start, .recordRequest (text "a") (text "f") (text "o") .done,
    .runUntil ⟨text "o", 3, List.replicate 64 (point 'a'), [text "p"]⟩ stoppedReplies,
    .recordRequest (text "b") (text "f") (text "p") (.crashed 5), .start]

theorem quiet_journal_survives :
    (World.run plainTexts quietSteps).recorded.length = 1 ∧
      (World.run plainTexts quietSteps).published.length = 1 ∧
      Survives (World.run plainTexts quietSteps) := by
  refine ⟨by decide +kernel, by decide +kernel, journal_survives plainTexts quietSteps ?_⟩
  decide +kernel

/-- The process crashes inside the first record; the next service records a request on its line. -/
def tornSteps : List Step :=
  [.start, .recordRequest (text "a") (text "f") (text "o") (.crashed 5), .start,
    .recordRequest (text "b") (text "f") (text "o") .done]

/-- The process crashes between the two bytes of a letter. -/
def cutSteps : List Step :=
  [.start, .recordRequest (text "й") (text "f") (text "o") (.crashed 16)]

theorem lost_of_empty {world : World} (recorded : world.recorded ≠ [])
    (empty : (CaptureService.new world.file).map (·.requests.entries) = some []) :
    ¬Survives world := by
  intro survives
  obtain ⟨service, constructed, nothing⟩ := Option.map_eq_some_iff.1 empty
  obtain ⟨request, member⟩ := List.exists_mem_of_ne_nil _ recorded
  have answers := survives.answers service (.inr constructed) request member
  have held := Dictionary.get?_eq_some.1 (requestOperation_some answers.1)
  rw [nothing] at held
  cases held

/-- A recorded request is not known to the next service, and a journal cannot be opened again. -/
theorem torn_journal_lost :
    ¬Survives (World.run plainTexts tornSteps) ∧ ¬Survives (World.run plainTexts cutSteps) := by
  constructor
  · have recorded : (World.run plainTexts tornSteps).recorded.length = 1 := by decide +kernel
    refine lost_of_empty (fun nothing => ?_) (by decide +kernel)
    rw [nothing] at recorded
    cases recorded
  · intro survives
    obtain ⟨service, constructed⟩ := survives.constructs
    have closed : (CaptureService.new (World.run plainTexts cutSteps).file).isNone = true := by
      decide +kernel
    rw [constructed] at closed
    cases closed

end OnecRuntime.Correlation
