import OnecRuntime.Correlation.Continuation
import OnecRuntime.Correlation.JournalLaw

/-!
# Incarnations of the capture service

A run constructs the service, calls it, and loses it: by a crash inside an append, or between two
calls. The file stays. Where every append of a run is sound, each service that is constructed
answers the requests that were recorded, the generations of the published fences rise over all
incarnations, and no intent reaches the runtime before it can be read back.
-/

namespace OnecRuntime.Correlation

open OnecRuntime.Library

/-- A request whose `record_request` returned, with the operation that it was answered by. -/
structure RecordedRequest where
  requestId : CodeText
  fingerprint : CodeText
  operationId : CodeText

structure World where
  file : JournalFile
  /-- The service, while a process runs. -/
  service : Option CaptureService
  recorded : List RecordedRequest
  published : List CaptureFence
  events : List Event

def World.initial : World := ⟨none, none, [], [], []⟩

inductive Step where
  /-- The service is constructed. -/
  | start
  /-- The process ends between two calls. -/
  | stop
  | recordRequest (requestId fingerprint operationId : CodeText) (fate : Fate)
  | runUntil (request : RunRequest) (replies : RunReplies)
  | continueCapture (fence : CaptureFence) (operationId : CodeText) (nextPoints : List CodeText)
      (replies : ContinueReplies)
  | activateCaptureView (capture : CaptureView)
  | invalidateIfActive (fence : CaptureFence)

namespace World

variable (functions : TextFunctions) (world : World)

/-- The world after a call; a crash takes the service with it. -/
def after {α : Type} (ended : Session × Outcome α) : World :=
  { world with
    file := ended.1.file
    events := ended.1.events
    service :=
      match ended.2 with
      | .crashed => none
      | _ => some ended.1.service }

/-- The operation that a service answers a request by, in place of a given one. -/
def answer (service : CaptureService) (requestId fingerprint operationId : CodeText) : CodeText :=
  match service.requestOperation requestId fingerprint with
  | .ok (some known) => known
  | _ => operationId

def record (requestId fingerprint operationId : CodeText) (ended : Session × Outcome Unit) : World :=
  match ended.2 with
  | .returned _ =>
      { world.after ended with
        recorded := world.recorded ++ [⟨requestId, fingerprint,
          answer ended.1.service requestId fingerprint operationId⟩] }
  | _ => world.after ended

def publish (ended : Session × Outcome CaptureRunResult) : World :=
  match ended.2 with
  | .returned ⟨_, some capture, _, _, _, _⟩ =>
      { world.after ended with published := world.published ++ [capture.fence] }
  | _ => world.after ended

/-- A step for which a service is needed does nothing without one. -/
def step : Step → World
  | .start => { world with service := CaptureService.new world.file }
  | .stop => { world with service := none }
  | .recordRequest requestId fingerprint operationId fate =>
      match world.service with
      | some service =>
          world.record requestId fingerprint operationId
            (Session.recordRequest ⟨world.file, service, world.events⟩ requestId fingerprint
              operationId fate)
      | none => world
  | .runUntil request replies =>
      match world.service with
      | some service =>
          world.publish
            (Session.runUntil functions ⟨world.file, service, world.events⟩ request replies)
      | none => world
  | .continueCapture fence operationId nextPoints replies =>
      match world.service with
      | some service =>
          world.publish
            (Session.continueCapture ⟨world.file, service, world.events⟩ functions fence operationId
              nextPoints replies)
      | none => world
  | .activateCaptureView capture =>
      { world with service := world.service.map (·.activateCaptureView capture) }
  | .invalidateIfActive fence =>
      { world with service := world.service.map fun service =>
          if service.activeFence = some fence then service.invalidateCapture else service }

def run (steps : List Step) : World := steps.foldl (step functions) initial

end World

/-! ## What is to hold -/

/-- The request is answered by its operation, and refused with another fingerprint. -/
def Answers (service : CaptureService) (request : RecordedRequest) : Prop :=
  service.requestOperation request.requestId request.fingerprint = .ok (some request.operationId) ∧
    ∀ other, other ≠ request.fingerprint →
      service.requestOperation request.requestId other = .error .differentInputs

structure Survives (world : World) : Prop where
  constructs : ∃ service, CaptureService.new world.file = some service
  answers : ∀ service, world.service = some service ∨ CaptureService.new world.file = some service →
    ∀ request ∈ world.recorded, Answers service request
  rising : (world.published.map (·.captureGeneration)).Pairwise (· < ·)
  readable : ∀ file intent, Event.armed file intent ∈ world.events → Readable file (.intent intent)

/-- The names of a recorded request that is read back. -/
def Entry.Named : Entry → Prop
  | .request requestId fingerprint operationId =>
      requestId ≠ [] ∧ fingerprint ≠ [] ∧ operationId ≠ []
  | _ => True

def Event.IsSound : Event → Prop
  | .appended file entry fate => Sound file entry.payload fate ∧ entry.Named
  | .armed _ _ => True

end OnecRuntime.Correlation

/-!
# What survives a crash

What holds of the items of the journal is kept by every sound append, and what holds of a service by
every call. A call publishes a fence only with the generation of an intent that it has recorded, and
that generation is above those of all fences before it.
-/

namespace OnecRuntime.Correlation

open OnecRuntime.Library

/-! ## What an item adds -/

theorem withRequest_request (requests : Requests) {requestId fingerprint operationId : CodeText}
    (named : (Entry.request requestId fingerprint operationId).Named) :
    withRequest requests (Entry.request requestId fingerprint operationId).payload =
      requests.set requestId (fingerprint, operationId) := by
  have found : ∀ name content, (name, content) ∈ [("request_id", requestId),
      ("fingerprint", fingerprint), ("operation_id", operationId)] →
      Json.get? (Entry.request requestId fingerprint operationId).payload name =
        some (.string content) := by
    intro name content member
    simp only [List.mem_cons, Prod.mk.injEq, List.not_mem_nil, or_false] at member
    rcases member with ⟨rfl, rfl⟩ | ⟨rfl, rfl⟩ | ⟨rfl, rfl⟩ <;> rfl
  unfold withRequest
  rw [found "request_id" requestId (by simp), found "fingerprint" fingerprint (by simp),
    found "operation_id" operationId (by simp)]
  exact if_pos named

/-- The names of the members of an entry that is no request. -/
theorem requestId_absent {entry : Entry}
    (other : ∀ requestId fingerprint operationId,
      entry ≠ .request requestId fingerprint operationId) :
    Json.get? entry.payload "request_id" = none := by
  cases entry with
  | request requestId fingerprint operationId => exact absurd rfl (other _ _ _)
  | intent => rfl
  | arming => rfl
  | continuation => rfl

theorem withRequest_other (requests : Requests) {entry : Entry}
    (other : ∀ requestId fingerprint operationId,
      entry ≠ .request requestId fingerprint operationId) :
    withRequest requests entry.payload = requests := by
  unfold withRequest
  rw [requestId_absent other]

theorem laterGeneration_le (generation : Int) (item : Json) :
    generation ≤ laterGeneration generation item := by
  unfold laterGeneration
  split
  · split <;> omega
  · exact Int.le_refl _

theorem laterGeneration_intent (generation : Int) (intent : CaptureIntent) :
    intent.captureGeneration ≤ laterGeneration generation (Entry.intent intent).payload := by
  have found : Json.get? (Entry.intent intent).payload "capture_generation" =
      some (number intent.captureGeneration) := rfl
  unfold laterGeneration
  rw [found]
  dsimp only [number]
  split <;> omega

/-! ## The journal -/

/-- The journal is read, it answers the requests of a table, and its generation is at least each of
the given ones. -/
def FileHolds (table : Requests) (generations : List Int) (file : JournalFile) : Prop :=
  ∃ items, journalItems file = some items ∧
    (∀ requestId value, table.get? requestId = some value →
      (items.foldl withRequest .empty).get? requestId = some value) ∧
    ∀ generation ∈ generations, generation ≤ items.foldl laterGeneration 0

/-- The entry records none of the requests of the table. -/
def Apart (table : Requests) : Entry → Prop
  | .request requestId _ _ => table.get? requestId = none
  | _ => True

section Journal

variable {table : Requests} {generations : List Int} {file : JournalFile} {entry : Entry}
  {fate : Fate}

/-- One more item keeps what is answered. -/
theorem answered_kept {items : List Json} (named : entry.Named) (apart : Apart table entry)
    (answered : ∀ requestId value, table.get? requestId = some value →
      (items.foldl withRequest .empty).get? requestId = some value) :
    ∀ requestId value, table.get? requestId = some value →
      ((items ++ [entry.payload]).foldl withRequest .empty).get? requestId = some value := by
  intro requestId value held
  rw [List.foldl_append, List.foldl_cons, List.foldl_nil]
  cases entry with
  | request other fingerprint operationId =>
      have different : requestId ≠ other := by
        rintro rfl
        exact absurd (held.symm.trans apart) (Option.some_ne_none value)
      rw [withRequest_request _ named, Dictionary.get?_set_other _ _ different]
      exact answered requestId value held
  | intent | arming | continuation =>
      rw [withRequest_other]
      · exact answered requestId value held
      · nofun

theorem generation_kept {items : List Json} {payload : Json}
    (low : ∀ generation ∈ generations, generation ≤ items.foldl laterGeneration 0) :
    ∀ generation ∈ generations,
      generation ≤ (items ++ [payload]).foldl laterGeneration 0 := by
  intro generation member
  rw [List.foldl_append, List.foldl_cons, List.foldl_nil]
  exact Int.le_trans (low generation member) (laterGeneration_le _ _)

theorem FileHolds.append (holds : FileHolds table generations file)
    (sound : Sound file entry.payload fate) (named : entry.Named) (apart : Apart table entry) :
    FileHolds table generations (append file entry fate).1 := by
  obtain ⟨items, read, answered, low⟩ := holds
  rcases append_items sound read with same | longer
  · exact ⟨items, same, answered, low⟩
  · exact ⟨_, longer, answered_kept named apart answered, generation_kept low⟩

/-- A request that is appended is answered. -/
theorem FileHolds.append_request {requestId fingerprint operationId : CodeText}
    (holds : FileHolds table generations file)
    (sound : Sound file (Entry.request requestId fingerprint operationId).payload fate)
    (named : (Entry.request requestId fingerprint operationId).Named)
    (absent : table.get? requestId = none)
    (done : (Correlation.append file (.request requestId fingerprint operationId) fate).2 = .done) :
    FileHolds (table.set requestId (fingerprint, operationId)) generations
      (Correlation.append file (.request requestId fingerprint operationId) fate).1 := by
  obtain ⟨items, read, answered, low⟩ := holds
  refine ⟨_, append_done sound read done, ?_, generation_kept low⟩
  intro other value held
  rcases Dictionary.get?_set_eq_some.1 held with ⟨rfl, rfl⟩ | ⟨_, before⟩
  · rw [List.foldl_append, List.foldl_cons, List.foldl_nil, withRequest_request _ named]
    exact Dictionary.get?_set_same _ _ _
  · exact @answered_kept table (.request requestId fingerprint operationId) items named absent
      answered other value before

/-- The generation of an intent that is appended counts, and the intent can be read. -/
theorem FileHolds.append_intent {intent : CaptureIntent} (holds : FileHolds table generations file)
    (sound : Sound file (Entry.intent intent).payload fate)
    (done : (Correlation.append file (.intent intent) fate).2 = .done) :
    FileHolds table (intent.captureGeneration :: generations)
        (Correlation.append file (.intent intent) fate).1 ∧
      Readable (Correlation.append file (.intent intent) fate).1 (.intent intent) := by
  obtain ⟨items, read, answered, low⟩ := holds
  have longer := append_done sound read done
  refine ⟨⟨_, longer, answered_kept trivial trivial answered, ?_⟩, ⟨_, longer, by simp⟩⟩
  intro generation member
  rcases List.mem_cons.1 member with rfl | before
  · rw [List.foldl_append, List.foldl_cons, List.foldl_nil]
    exact laterGeneration_intent _ intent
  · exact generation_kept low generation before

theorem FileHolds.fewer {more : List Int} (holds : FileHolds table more file)
    (fewer : generations ⊆ more) : FileHolds table generations file := by
  obtain ⟨items, read, answered, low⟩ := holds
  exact ⟨items, read, answered, fun generation member => low generation (fewer member)⟩

end Journal

/-! ## Sessions -/

/-- The table answers the recorded requests. -/
def Covers (table : Requests) (recorded : List RecordedRequest) : Prop :=
  ∀ request ∈ recorded,
    table.get? request.requestId = some (request.fingerprint, request.operationId)

/-- The journal of a session answers all that its service does, and counts the generations that are
written; the service counts those that are known, the newest first. -/
structure SessionHolds (recorded : List RecordedRequest) (written known : List Int)
    (session : Session) : Prop where
  file : FileHolds session.service.requests written session.file
  covers : Covers session.service.requests recorded
  low : ∀ generation ∈ known, generation ≤ session.service.generation
  rising : known.Pairwise fun newer older => older < newer
  readable : ∀ file intent, Event.armed file intent ∈ session.events →
    Readable file (.intent intent)

def SoundEvents (events : List Event) : Prop := ∀ event ∈ events, event.IsSound

/-- The session holds if its appends were sound. -/
def Kept (recorded : List RecordedRequest) (written known : List Int) (session : Session) : Prop :=
  SoundEvents session.events → SessionHolds recorded written known session

/-- The intent can be read from the journal of the session, if its appends were sound. -/
def Recorded (intent : CaptureIntent) (session : Session) : Prop :=
  SoundEvents session.events → Readable session.file (.intent intent)

section Sessions

variable {recorded : List RecordedRequest} {written known : List Int} {session : Session}
  {entry : Entry} {fate : Fate}

theorem SoundEvents.before {events : List Event} {event : Event}
    (sound : SoundEvents (events ++ [event])) : SoundEvents events :=
  fun other member => sound other (List.mem_append_left _ member)

theorem SoundEvents.last {events : List Event} {event : Event}
    (sound : SoundEvents (events ++ [event])) : event.IsSound :=
  sound event (List.mem_append_right _ (List.mem_singleton_self event))

theorem readable_append {file : JournalFile}
    (readable : ∀ file intent, Event.armed file intent ∈ session.events →
      Readable file (.intent intent)) :
    ∀ other intent,
      Event.armed other intent ∈ session.events ++ [Event.appended file entry fate] →
        Readable other (.intent intent) := by
  intro other intent member
  rcases List.mem_append.1 member with earlier | here
  · exact readable other intent earlier
  · cases List.mem_singleton.1 here

theorem Kept.append (kept : Kept recorded written known session)
    (apart : Apart session.service.requests entry) :
    Kept recorded written known (session.append entry fate).1 := by
  intro sound
  have before := kept sound.before
  exact ⟨before.file.append sound.last.1 sound.last.2 apart, before.covers, before.low, before.rising,
    readable_append before.readable⟩

theorem Kept.append_intent {intent : CaptureIntent} (kept : Kept recorded written known session)
    (done : (session.append (.intent intent) fate).2 = .done) :
    Kept recorded (intent.captureGeneration :: written) known
        (session.append (.intent intent) fate).1 ∧
      Recorded intent (session.append (.intent intent) fate).1 := by
  have appended : SoundEvents (session.append (.intent intent) fate).1.events → _ := fun sound =>
    (kept sound.before).file.append_intent sound.last.1 done
  refine ⟨fun sound => ?_, fun sound => (appended sound).2⟩
  have before := kept sound.before
  exact ⟨(appended sound).1, before.covers, before.low, before.rising,
    readable_append before.readable⟩

theorem Kept.arm {intent : CaptureIntent} (kept : Kept recorded written known session)
    (recordedIntent : Recorded intent session) :
    Kept recorded written known (session.arm intent) := by
  intro sound
  have before := kept sound.before
  refine ⟨before.file, before.covers, before.low, before.rising, ?_⟩
  intro file other member
  rcases List.mem_append.1 member with inside | here
  · exact before.readable file other inside
  · cases List.mem_singleton.1 here
    exact recordedIntent sound.before

theorem Kept.withService {change : CaptureService → CaptureService}
    (kept : Kept recorded written known session)
    (requests : (change session.service).requests = session.service.requests)
    (generation : (change session.service).generation = session.service.generation) :
    Kept recorded written known (session.withService change) := by
  intro sound
  have before := kept sound
  refine ⟨?_, ?_, ?_, before.rising, before.readable⟩
  · exact requests ▸ before.file
  · exact requests ▸ before.covers
  · exact generation ▸ before.low

theorem Kept.fewer {less : List Int} (kept : Kept recorded written known session)
    (fewer : less ⊆ written) : Kept recorded less known session := fun sound =>
  have before := kept sound
  ⟨before.file.fewer fewer, before.covers, before.low, before.rising, before.readable⟩

end Sessions

end OnecRuntime.Correlation
