import OnecRuntime.Correlation.Incarnations

/-!
# What a call of the capture service keeps

Between the record of an intent and the fence that is published for it the generation of the intent
is written and above all that are known. Every way through `run_until` and `continue_capture` either
publishes that fence or leaves what is known as it was.
-/

namespace OnecRuntime.Correlation

open OnecRuntime.Library

variable {recorded : List RecordedRequest} {generations : List Int} {session : Session}

/-- What a call leaves: all that was kept, and a fence above the generations that were known. -/
structure Ends (recorded : List RecordedRequest) (generations : List Int)
    (ended : Session × Outcome CaptureRunResult) : Prop where
  kept : Kept recorded generations generations ended.1
  published : ∀ result capture, ended.2 = .returned result → result.capture = some capture →
    Kept recorded (capture.fence.captureGeneration :: generations)
      (capture.fence.captureGeneration :: generations) ended.1

theorem Ends.silent {ended : Session × Outcome CaptureRunResult}
    (kept : Kept recorded generations generations ended.1)
    (silent : ∀ result, ended.2 = .returned result → result.capture = none) :
    Ends recorded generations ended :=
  ⟨kept, fun result capture same published => by
    rw [silent result same] at published
    cases published⟩

theorem Ends.raised (kept : Kept recorded generations generations session) (problem : CaptureError) :
    Ends recorded generations (session, .raised problem) :=
  .silent kept fun _ same => by cases same

theorem Ends.crashed (kept : Kept recorded generations generations session) :
    Ends recorded generations (session, .crashed) :=
  .silent kept fun _ same => by cases same

theorem Ends.returned (kept : Kept recorded generations generations session)
    {result : CaptureRunResult} (silent : result.capture = none) :
    Ends recorded generations (session, .returned result) :=
  .silent kept fun _ same => by
    cases same
    exact silent

theorem Ends.quarantined (kept : Kept recorded generations generations session)
    {result : CaptureRunResult} (silent : result.capture = none) :
    Ends recorded generations (session.quarantined result) :=
  .returned (kept.withService rfl rfl) silent

/-! ## An intent that is recorded -/

/-- The generation of the intent is written and above those that are known. -/
structure Pending (recorded : List RecordedRequest) (generations : List Int)
    (intent : CaptureIntent) (session : Session) : Prop where
  kept : Kept recorded (intent.captureGeneration :: generations) generations session
  above : SoundEvents session.events →
    ∀ generation ∈ generations, generation < intent.captureGeneration

variable {intent : CaptureIntent} {entry : Entry} {fate : Fate}

theorem Pending.all (pending : Pending recorded generations intent session) :
    Kept recorded generations generations session :=
  pending.kept.fewer (List.subset_cons_self _ _)

theorem Pending.append (pending : Pending recorded generations intent session)
    (apart : Apart session.service.requests entry) :
    Pending recorded generations intent (session.append entry fate).1 :=
  ⟨pending.kept.append apart, fun sound => pending.above sound.before⟩

theorem Pending.arm (pending : Pending recorded generations intent session)
    (recordedIntent : Recorded intent session) :
    Pending recorded generations intent (session.arm intent) :=
  ⟨pending.kept.arm recordedIntent, fun sound => pending.above sound.before⟩

theorem Pending.withService {change : CaptureService → CaptureService}
    (pending : Pending recorded generations intent session)
    (requests : (change session.service).requests = session.service.requests)
    (generation : (change session.service).generation = session.service.generation) :
    Pending recorded generations intent (session.withService change) :=
  ⟨pending.kept.withService requests generation, pending.above⟩

/-- An intent with a generation above that of the service is pending once it is recorded. -/
theorem pending_of_append (kept : Kept recorded generations generations session)
    (above : session.service.generation < intent.captureGeneration)
    (done : (session.append (.intent intent) fate).2 = .done) :
    Pending recorded generations intent (session.append (.intent intent) fate).1 ∧
      Recorded intent (session.append (.intent intent) fate).1 := by
  obtain ⟨longer, readable⟩ := kept.append_intent done
  refine ⟨⟨longer, fun sound generation member => ?_⟩, readable⟩
  exact Int.lt_of_le_of_lt ((kept sound.before).low generation member) above

/-- A stop is published with the generation of the intent, or not at all. -/
theorem Pending.correlate (pending : Pending recorded generations intent session)
    (arming : CaptureArming) (outcome : CaptureRunOutcome) (stop : CaptureStop) :
    Ends recorded generations (session.correlate intent arming outcome stop) := by
  have advanced : Kept recorded (intent.captureGeneration :: generations)
      (intent.captureGeneration :: generations)
      (session.withService ({ · with generation := intent.captureGeneration })) := by
    intro sound
    have before := pending.kept sound
    refine ⟨before.file, before.covers, ?_,
      List.pairwise_cons.2 ⟨pending.above sound, before.rising⟩, before.readable⟩
    intro generation member
    rcases List.mem_cons.1 member with rfl | known
    · exact Int.le_refl _
    · exact Int.le_of_lt (pending.above sound generation known)
  have fewer : Kept recorded generations generations
      (session.withService ({ · with generation := intent.captureGeneration })) := fun sound =>
    have before := advanced sound
    ⟨before.file.fewer (List.subset_cons_self _ _), before.covers,
      fun generation member => before.low generation (List.mem_cons_of_mem _ member),
      (List.pairwise_cons.1 before.rising).2, before.readable⟩
  unfold Session.correlate
  split
  · dsimp only
    split
    · refine ⟨fewer, ?_⟩
      intro result capture same published
      cases same
      cases published
      exact advanced
    · exact .raised fewer _
  · exact .returned pending.all rfl

/-! ## Running up to a capture -/

theorem capture_failedArmCleanup (disarmed : Bool) (intent : CaptureIntent) (runtimeState : String) :
    (failedArmCleanup disarmed intent runtimeState).capture = none := by
  unfold failedArmCleanup
  split <;> rfl

theorem capture_noStop (disarmed : Bool) (intent : CaptureIntent) (outcome : CaptureRunOutcome) :
    (noStop disarmed intent outcome).capture = none := by
  unfold noStop
  split_ifs <;> rfl

theorem Pending.runArmed (pending : Pending recorded generations intent session)
    (arming : CaptureArming) (replies : RunReplies) :
    Ends recorded generations (session.runArmed intent arming replies) := by
  unfold Session.runArmed
  dsimp only
  split
  · exact .returned pending.all (capture_noStop _ _ _)
  · next stop _ =>
      have ends := pending.correlate arming (replies.outcome.getD Session.lostOutcome) stop
      split
      · next next result same =>
          rw [same] at ends
          refine ⟨ends.kept, ?_⟩
          intro other capture returned published
          cases returned
          exact ends.published result capture rfl published
      · exact ends

theorem Pending.runIntent (pending : Pending recorded generations intent session)
    (recordedIntent : Recorded intent session) (replies : RunReplies) :
    Ends recorded generations (session.runIntent intent replies) := by
  have armed := pending.arm recordedIntent
  unfold Session.runIntent
  split
  · exact .returned armed.all (capture_failedArmCleanup _ _ _)
  · next arming _ =>
      split
      · have after := @Pending.append recorded generations (session.arm intent) intent
          (.arming intent arming) replies.armingFate armed trivial
        split
        · next next same =>
            rw [same] at after
            exact after.runArmed arming replies
        · next next same =>
            rw [same] at after
            exact .returned after.all (capture_failedArmCleanup _ _ _)
        · next next same =>
            rw [same] at after
            exact .crashed after.all
      · exact .returned armed.all (capture_failedArmCleanup _ _ _)

theorem Kept.runUntil (kept : Kept recorded generations generations session)
    (functions : TextFunctions) (request : RunRequest) (replies : RunReplies) :
    Ends recorded generations (session.runUntil functions request replies) := by
  unfold Session.runUntil
  split
  · exact .raised kept _
  · next resolved _ =>
      split
      · exact .raised kept _
      split
      · exact .raised kept _
      dsimp only
      have after := @Kept.append recorded generations generations session
        (.intent ⟨replies.captureIntentId, request.operationId, request.sourceRevision,
          request.sourceSha256, session.service.generation + 1, resolved⟩) replies.intentFate kept
        trivial
      split
      · next next same =>
          obtain ⟨pending, readable⟩ := pending_of_append kept
            (Int.lt_succ session.service.generation) (congrArg Prod.snd same)
          rw [same] at pending readable
          exact pending.runIntent readable replies
      · next next same =>
          rw [same] at after
          exact .raised after _
      · next next same =>
          rw [same] at after
          exact .crashed after

/-! ## Continuing -/

/-- The next stop, if there is one, is pending. -/
structure Ready (recorded : List RecordedRequest) (generations : List Int)
    (next : Option CaptureIntent) (session : Session) : Prop where
  kept : Kept recorded generations generations session
  pending : ∀ intent ∈ next, Pending recorded generations intent session

variable {next : Option CaptureIntent}

theorem Ready.append (ready : Ready recorded generations next session)
    (apart : Apart session.service.requests entry) :
    Ready recorded generations next (session.append entry fate).1 :=
  ⟨ready.kept.append apart, fun intent member => (ready.pending intent member).append apart⟩

theorem Ready.withService {change : CaptureService → CaptureService}
    (ready : Ready recorded generations next session)
    (requests : (change session.service).requests = session.service.requests)
    (generation : (change session.service).generation = session.service.generation) :
    Ready recorded generations next (session.withService change) :=
  ⟨ready.kept.withService requests generation,
    fun intent member => (ready.pending intent member).withService requests generation⟩

theorem Ends.rolledBack (kept : Kept recorded generations generations session)
    {saved : CaptureService} {replies : ContinueReplies} {restored failed : CaptureRunResult}
    (silent : restored.capture = none ∧ failed.capture = none) :
    Ends recorded generations (session.rolledBack saved replies restored failed) := by
  unfold Session.rolledBack
  split
  · exact .returned (kept.withService rfl rfl) silent.1
  · exact .quarantined kept silent.2

theorem Ends.concluded {ended : Session × Outcome CaptureRunResult}
    (ends : Ends recorded generations ended) (operationId : CodeText)
    (statuses : List (CodeText × CodeText)) (continueState : CodeText) (replies : ContinueReplies) :
    Ends recorded generations
      (Session.concluded operationId statuses continueState replies ended) := by
  unfold Session.concluded
  split
  · split
    · exact .quarantined ends.kept rfl
    · split
      · exact ends
      · exact .raised ends.kept _
  · exact ends

theorem capture_noStopWithoutDisarm (operationId : CodeText) (dirtyRoots : List CodeText)
    (outcome : CaptureRunOutcome) :
    (noStopWithoutDisarm operationId dirtyRoots outcome).capture = none := by
  unfold noStopWithoutDisarm
  dsimp only
  split <;> rfl

theorem Ready.acknowledged {following : Option (CaptureIntent × CaptureArming)}
    (ready : Ready recorded generations (following.map Prod.fst) session) (operationId : CodeText)
    (dirtyRoots : List CodeText) (outcome : CaptureRunOutcome)
    (statuses : List (CodeText × CodeText)) (continueState : CodeText) (replies : ContinueReplies) :
    Ends recorded generations
      (session.acknowledged operationId dirtyRoots following outcome statuses continueState
        replies) := by
  unfold Session.acknowledged
  refine Ends.concluded ?_ _ _ _ _
  split
  · exact .returned ready.kept (capture_noStopWithoutDisarm _ _ _)
  · exact .returned ready.kept (capture_noStop _ _ _)
  · next intent arming stop _ => exact (ready.pending intent rfl).correlate arming outcome stop

section Continuation

variable {functions : TextFunctions} {saved : CaptureService} {fence : CaptureFence}
  {operationId : CodeText} {dirtyRoots : List CodeText} {replies : ContinueReplies}

variable {following : Option (CaptureIntent × CaptureArming)}

theorem Ready.replied (ready : Ready recorded generations (following.map Prod.fst) session)
    (outcome : CaptureRunOutcome) :
    Ends recorded generations
      (session.replied functions saved operationId dirtyRoots following outcome replies) := by
  unfold Session.replied
  split
  · dsimp only
    split
    · unfold Session.partialWriteback
      dsimp only
      split
      · exact .rolledBack ready.kept ⟨rfl, rfl⟩
      · exact .quarantined ready.kept rfl
    split
    · exact .quarantined ready.kept rfl
    split
    · exact .quarantined ready.kept rfl
    · exact ready.acknowledged _ _ _ _ _ _
  · exact .quarantined ready.kept rfl

theorem Ready.sent (ready : Ready recorded generations (following.map Prod.fst) session) :
    Ends recorded generations
      (session.sent functions saved fence operationId dirtyRoots following replies) := by
  have revoked := @Ready.withService recorded generations session _ (·.invalidateCapture) ready rfl
    rfl
  unfold Session.sent
  dsimp only
  split
  · exact revoked.replied _
  · have after := @Kept.append recorded generations generations _
      (.continuation fence dirtyRoots .unknown) replies.unknownFate revoked.kept trivial
    split
    · next ended same =>
        rw [same] at after
        exact .crashed after
    · next ended ending _ same =>
        rw [same] at after
        exact .quarantined after rfl

theorem Ready.plan (ready : Ready recorded generations (following.map Prod.fst) session) :
    Ends recorded generations
      (session.plan functions saved fence operationId dirtyRoots following replies) := by
  have after := @Ready.append recorded generations session
    (.continuation fence dirtyRoots .planned) replies.plannedFate _ ready trivial
  unfold Session.plan
  split
  · next ended same =>
      rw [same] at after
      exact after.sent
  · next ended same =>
      rw [same] at after
      exact .quarantined after.kept rfl
  · next ended same =>
      rw [same] at after
      exact .crashed after.kept

theorem Ready.admitted (ready : Ready recorded generations next session)
    (arming : Option CaptureArming) :
    Ends recorded generations
      (session.admitted functions saved fence operationId dirtyRoots next arming replies) := by
  unfold Session.admitted
  split
  · exact .rolledBack ready.kept ⟨rfl, rfl⟩
  · split
    · next intent arming _ =>
        have after := @Ready.append recorded generations session (.arming intent arming)
          replies.armingFate _ ready trivial
        split
        · next ended same =>
            rw [same] at after
            exact @Ready.plan recorded generations _ functions saved fence operationId dirtyRoots
              replies (some (intent, arming)) after
        · next ended same =>
            rw [same] at after
            exact .quarantined after.kept rfl
        · next ended same =>
            rw [same] at after
            exact .crashed after.kept
    · exact @Ready.plan recorded generations _ functions saved fence operationId dirtyRoots replies
        none ⟨ready.kept, fun _ member => by cases member⟩

theorem Ready.prepared (ready : Ready recorded generations next session)
    (readable : ∀ intent ∈ next, Recorded intent session) :
    Ends recorded generations
      (session.prepared functions saved fence operationId dirtyRoots next replies) := by
  have called : Ready recorded generations next (next.elim session session.arm) := by
    cases next with
    | none => exact ready
    | some intent =>
        refine ⟨ready.kept.arm (readable intent rfl), ?_⟩
        intro other member
        cases member
        exact (ready.pending intent rfl).arm (readable intent rfl)
  unfold Session.prepared
  dsimp only
  split
  · exact called.admitted _
  · exact .returned called.kept rfl
  · exact .quarantined called.kept rfl

theorem Kept.planned (kept : Kept recorded generations generations session)
    (above : session.service.generation < intent.captureGeneration) :
    Ends recorded generations
      (session.planned functions saved fence operationId dirtyRoots intent replies) := by
  have after := @Kept.append recorded generations generations session (.intent intent)
    replies.intentFate kept trivial
  unfold Session.planned
  split
  · next ended same =>
      obtain ⟨pending, readable⟩ := pending_of_append kept above (congrArg Prod.snd same)
      rw [same] at pending readable
      refine Ready.prepared ⟨pending.all, ?_⟩ ?_
      · intro other member
        cases member
        exact pending
      · intro other member
        cases member
        exact readable
  · next ended same =>
      rw [same] at after
      exact .quarantined after rfl
  · next ended same =>
      rw [same] at after
      exact .crashed after

theorem Kept.continueCapture (kept : Kept recorded generations generations session)
    (nextPoints : List CodeText) :
    Ends recorded generations
      (session.continueCapture functions fence operationId nextPoints replies) := by
  unfold Session.continueCapture
  dsimp only
  split
  · exact .raised kept _
  · split
    · exact .raised kept _
    split
    · exact .raised kept _
    split
    · exact .raised kept _
    split
    · exact .raised kept _
    split
    · exact Ready.prepared ⟨kept, fun _ member => by cases member⟩ fun _ member => by cases member
    · split
      · exact .raised kept _
      · split
        · exact .raised kept _
        split
        · exact .raised kept _
        · refine Kept.planned kept ?_
          dsimp only
          omega

end Continuation

/-! ## Requests -/

variable {service : CaptureService}

variable {requestId fingerprint : CodeText}

theorem requestOperation_some {known : CodeText}
    (answered : service.requestOperation requestId fingerprint = .ok (some known)) :
    service.requests.get? requestId = some (fingerprint, known) := by
  unfold CaptureService.requestOperation at answered
  split at answered
  · cases answered
  · next other operationId held =>
      split at answered
      · cases answered
      · next same =>
          cases answered
          rw [held, not_not.1 same]

theorem requestOperation_none
    (answered : service.requestOperation requestId fingerprint = .ok none) :
    service.requests.get? requestId = none := by
  unfold CaptureService.requestOperation at answered
  split at answered
  · next absent => exact absent
  · split at answered <;> cases answered

theorem answers_of_held {request : RecordedRequest}
    (held : service.requests.get? request.requestId =
      some (request.fingerprint, request.operationId)) : Answers service request := by
  refine ⟨?_, fun other different => ?_⟩
  · unfold CaptureService.requestOperation
    rw [held]
    exact if_neg (not_not.2 rfl)
  · unfold CaptureService.requestOperation
    rw [held]
    exact if_pos (Ne.symm different)

theorem answer_eq {operationId known : CodeText}
    (held : service.requests.get? requestId = some (fingerprint, known)) :
    World.answer service requestId fingerprint operationId = known := by
  have answers := (@answers_of_held service ⟨requestId, fingerprint, known⟩ held).1
  unfold World.answer
  rw [answers]

/-- A request that is recorded is answered from then on. -/
theorem Kept.recordRequest (kept : Kept recorded generations generations session)
    (requestId fingerprint operationId : CodeText) (fate : Fate) :
    Kept recorded generations generations
        (session.recordRequest requestId fingerprint operationId fate).1 ∧
      ∀ done, (session.recordRequest requestId fingerprint operationId fate).2 = .returned done →
        Kept (recorded ++ [⟨requestId, fingerprint,
            World.answer (session.recordRequest requestId fingerprint operationId fate).1.service
              requestId fingerprint operationId⟩]) generations generations
          (session.recordRequest requestId fingerprint operationId fate).1 := by
  have longer : ∀ {table : Requests} {known : CodeText}, Covers table recorded →
      table.get? requestId = some (fingerprint, known) →
        Covers table (recorded ++ [⟨requestId, fingerprint, known⟩]) := by
    intro table known covers held request member
    rcases List.mem_append.1 member with before | last
    · exact covers request before
    · obtain rfl := List.mem_singleton.1 last
      exact held
  unfold Session.recordRequest
  split
  · exact ⟨kept, fun _ same => by cases same⟩
  · next known answered =>
      have held := requestOperation_some answered
      refine ⟨kept, fun _ _ sound => ?_⟩
      have before := kept sound
      rw [answer_eq held]
      exact ⟨before.file, longer before.covers held, before.low, before.rising, before.readable⟩
  · next answered =>
      have absent := requestOperation_none answered
      have after := @Kept.append recorded generations generations session
        (.request requestId fingerprint operationId) fate kept absent
      split
      · next ended same =>
          obtain rfl : (session.append (.request requestId fingerprint operationId) fate).1 =
              ended := congrArg Prod.fst same
          have done := congrArg Prod.snd same
          have held : (session.service.requests.set requestId (fingerprint, operationId)).get?
              requestId = some (fingerprint, operationId) := Dictionary.get?_set_same _ _ _
          have recordedNow : Kept (recorded ++ [⟨requestId, fingerprint, operationId⟩]) generations
              generations ((session.append (.request requestId fingerprint operationId)
                fate).1.withService (·.recorded requestId fingerprint operationId)) := by
            intro sound
            have before := kept sound.before
            refine ⟨before.file.append_request sound.last.1 sound.last.2 absent done,
              longer ?_ held, before.low, before.rising, readable_append before.readable⟩
            intro request member
            have known := before.covers request member
            have different : request.requestId ≠ requestId := by
              intro equal
              rw [equal, absent] at known
              cases known
            exact (Dictionary.get?_set_other _ _ different).trans known
          have known : World.answer ((session.append (.request requestId fingerprint operationId)
              fate).1.withService (·.recorded requestId fingerprint operationId)).service requestId
                fingerprint operationId = operationId := answer_eq held
          refine ⟨fun sound => ?_, fun _ _ => ?_⟩
          · have now := recordedNow sound
            exact ⟨now.file, fun request member => now.covers request
              (List.mem_append_left _ member), now.low, now.rising, now.readable⟩
          · dsimp only
            rw [known]
            exact recordedNow
      · next ended same =>
          rw [same] at after
          exact ⟨after, fun _ other => by cases other⟩
      · next ended same =>
          rw [same] at after
          exact ⟨after, fun _ other => by cases other⟩

end OnecRuntime.Correlation
