import OnecRuntime.Materialization.Stop

/-!
# What a plan does to its key

A plan tracks its own key before anything remote, gives it up when its deletion was confirmed or
its creation never asked for, and asks nothing behind a deletion without an outcome.
-/

namespace OnecRuntime.Materialization

open OnecRuntime.Library

/-! ## What a log shows -/

def creates : (question : Question) → Answer question → Bool
  | .evaluate evaluation, _ => evaluation.purpose = .create
  | _, _ => false

/-- A deletion of the key without an error. -/
def confirms (key : Text) : (question : Question) → Answer question → Bool
  | .evaluate evaluation, .returned false => evaluation.purpose = .delete ∧ evaluation.key = key
  | _, _ => false

/-- A deletion that did not return. -/
def undecides : (question : Question) → Answer question → Bool
  | .evaluate evaluation, .suspended | .evaluate evaluation, .raised _ _ =>
      evaluation.purpose = .delete
  | _, _ => false

def creationAsked (log : Log) : Bool :=
  log.any fun exchange => creates exchange.question exchange.answer

def deleted (key : Text) (log : Log) : Bool :=
  log.any fun exchange => confirms key exchange.question exchange.answer

def undecided (log : Log) : Bool :=
  log.any fun exchange => undecides exchange.question exchange.answer

/-- The record of the ticket was retired. -/
def reported (log : Log) : Bool := log.any fun exchange => exchange.question.reports

/-! ## The rules of a plan -/

inductive Change (work : Work) (log : Log) (keys : Keys) : Keys → Prop
  | tracked {plan : Plan} (transfer : work = .transfer plan)
      (absent : keys.get? plan.privateKey = none) (silent : reported log = false)
      (uncreated : creationAsked log = false) :
      Change work log keys (keys.set plan.privateKey .live)
  | untracked {plan : Plan} (transfer : work = .transfer plan) (uncreated : creationAsked log = false) :
      Change work log keys (keys.erase plan.privateKey)
  | deleted {key : Text} (own : work.key = some key) (confirmed : deleted key log) :
      Change work log keys (keys.erase key)
  | rejected {plan : Plan} (transfer : work = .transfer plan)
      (tracked : keys.get? plan.privateKey ≠ none) (silent : reported log = false)
      (decided : undecided log = false) (sent : creationAsked log) :
      Change work log keys (keys.set plan.privateKey .confirmedFailure)
  | doubtful {key : Text} (own : work.key = some key) (tracked : keys.get? key ≠ none)
      (undecided : undecided log) (silent : reported log = false)
      (sent : ∀ plan, work = .transfer plan → creationAsked log) :
      Change work log keys (keys.set key .unknown)

/-- A change concerns the key of the work only. -/
theorem Change.frame {work : Work} {log : Log} {keys after : Keys}
    (change : Change work log keys after) :
    ∃ key, work.key = some key ∧ ∀ other, other ≠ key → after.get? other = keys.get? other := by
  have kept {key other : Text} (apart : other ≠ key) :
      (keys.erase key).get? other = keys.get? other :=
    Dictionary.get?_eraseAll_kept _ fun member => apart (List.mem_singleton.1 member)
  have own {plan : Plan} (transfer : work = .transfer plan) : work.key = some plan.privateKey := by
    rw [transfer]
    rfl
  cases change with
  | tracked transfer =>
      exact ⟨_, own transfer, fun other apart => Dictionary.get?_set_other _ _ apart⟩
  | untracked transfer => exact ⟨_, own transfer, fun other apart => kept apart⟩
  | deleted mine => exact ⟨_, mine, fun other apart => kept apart⟩
  | rejected transfer =>
      exact ⟨_, own transfer, fun other apart => Dictionary.get?_set_other _ _ apart⟩
  | doubtful mine => exact ⟨_, mine, fun other apart => Dictionary.get?_set_other _ _ apart⟩

def rules (work : Work) : Rules Keys Answer where
  asks log keys question :=
    undecided log = false ∧
      (question.reports → ∀ key, work.key = some key → keys.get? key ≠ some .live)
  changes := Change work

/-- A plan ends without a live key, or it keeps its ticket; it keeps its ticket and an unknown key
behind a deletion without an outcome; and it retires its record before it ends on a key that it
created and could not delete. -/
structure Ends (work : Work) (log : Log) (keys : Keys) (result : Except Problem Conclusion) :
    Prop where
  settled : settles log result → ∀ key, work.key = some key →
    keys.get? key = none ∨ keys.get? key = some .confirmedFailure
  kept : undecided log → settles log result = false ∧
    ∀ key, work.key = some key → keys.get? key = some .unknown
  published : settles log result → ∀ plan, work = .transfer plan →
    keys.get? plan.privateKey = some .confirmedFailure → creationAsked log → reported log

/-- The plan is safe from here on. -/
def Safe (work : Work) (script : Program Keys Answer (Except Problem Conclusion)) (log : Log)
    (keys : Keys) : Prop :=
  script.Safe (rules work) (Ends work) log keys

/-- A plan is safe where its returns and its problems end it. -/
theorem Safe.of_fallible {work : Work} {script : Transfer Conclusion} {log : Log} {keys : Keys}
    (safe : Fallible.Safe (rules work)
      (fun log keys conclusion => Ends work log keys (.ok conclusion))
      (fun log keys problem => Ends work log keys (.error problem)) script log keys) :
    Safe work script.run log keys := by
  refine Program.Safe.weaken safe fun {log state result} ended => ?_
  cases result with
  | ok conclusion => exact ended
  | error problem => exact ended

/-! ## The keys of the scope -/

section Notes

variable {given : Rules Keys Answer} {returns : Log → Keys → Unit → Prop}
  {raises : Log → Keys → Problem → Prop} {key : Text} {log : Log} {keys : Keys}

theorem safe_trackTemporaryKey :
    Fallible.Safe given returns raises (trackTemporaryKey key) log keys ↔
      if key = [] then raises log keys (.value "temporary key must be non-empty text")
      else if keys.get? key ≠ none then
        raises log keys (.value "temporary key is already tracked")
      else given.changes log keys (keys.set key .live) ∧ returns log (keys.set key .live) () := by
  unfold trackTemporaryKey
  rw [Fallible.safe_bind, Fallible.safe_get]
  split
  · exact Fallible.safe_throw
  · split
    · exact Fallible.safe_throw
    · exact Fallible.safe_modify

theorem safe_noteTemporaryCleanup {state : CleanupState} (tracked : keys.get? key ≠ none) :
    Fallible.Safe given returns raises (noteTemporaryCleanup state key) log keys ↔
      given.changes log keys (keys.set key state) ∧ returns log (keys.set key state) () := by
  unfold noteTemporaryCleanup
  rw [Fallible.safe_bind, Fallible.safe_get, if_neg tracked]
  exact Fallible.safe_modify

theorem safe_confirmTemporaryCleanup (tracked : keys.get? key ≠ none) :
    Fallible.Safe given returns raises (confirmTemporaryCleanup key) log keys ↔
      given.changes log keys (keys.erase key) ∧ returns log (keys.erase key) () := by
  unfold confirmTemporaryCleanup
  rw [Fallible.safe_bind, Fallible.safe_get, if_neg tracked]
  exact Fallible.safe_modify

theorem safe_publishFailure {error : String} :
    Fallible.Safe given returns raises (publishFailure error) log keys ↔
      given.asks log keys (.fail error) ∧
        returns (⟨.fail error, .ok ()⟩ :: log) keys () ∧
        ∀ message, raises (⟨.fail error, .error message⟩ :: log) keys (.protocol message) := by
  unfold publishFailure
  rw [Fallible.safe_bind, Fallible.safe_request]
  refine and_congr_right fun _ => ⟨fun safe => ⟨safe (.ok ()), fun message => safe (.error message)⟩,
    fun safe answer => ?_⟩
  cases answer with
  | ok done => exact safe.1
  | error message => exact safe.2 message

end Notes

namespace Ends

variable {work : Work} {log : Log} {keys : Keys} {result : Except Problem Conclusion}

theorem of_kept (unsettled : settles log result = false)
    (doubt : undecided log → ∀ key, work.key = some key → keys.get? key = some .unknown) :
    Ends work log keys result := by
  refine ⟨fun settled => ?_, fun doubtful => ⟨unsettled, doubt doubtful⟩, fun settled => ?_⟩
  · rw [unsettled] at settled
    cases settled
  · rw [unsettled] at settled
    cases settled

theorem of_freed (decided : undecided log = false)
    (free : ∀ key, work.key = some key →
      keys.get? key = none ∨ keys.get? key = some .confirmedFailure)
    (published : ∀ plan, work = .transfer plan →
      keys.get? plan.privateKey = some .confirmedFailure → creationAsked log → reported log) :
    Ends work log keys result := by
  refine ⟨fun _ => free, fun doubtful => ?_, fun _ => published⟩
  rw [decided] at doubtful
  cases doubtful

end Ends

/-! ## A transfer -/

/-- The key of the transfer is live and nothing stands against its deletion; its creation was
asked for or not. -/
structure Held (plan : Plan) (sent : Bool) (log : Log) (keys : Keys) : Prop where
  live : keys.get? plan.privateKey = some .live
  decided : undecided log = false
  silent : reported log = false
  creation : creationAsked log = sent

namespace Held

variable {plan : Plan} {sent : Bool} {log : Log} {keys : Keys} {question : Question}

theorem asked (held : Held plan sent log keys) (question : Question) (answer : Answer question)
    (plain : question.reports = false) (decides : undecides question answer = false) :
    Held plan (creates question answer || sent) (⟨question, answer⟩ :: log) keys := by
  refine ⟨held.live, ?_, ?_, ?_⟩
  · unfold undecided
    rw [List.any_cons, decides]
    exact held.decided
  · unfold reported
    rw [List.any_cons, plain]
    exact held.silent
  · rw [← held.creation]
    exact List.any_cons

theorem asks (held : Held plan sent log keys) (plain : question.reports = false) :
    (rules (.transfer plan)).asks log keys question := by
  refine ⟨held.decided, fun reports => ?_⟩
  rw [plain] at reports
  cases reports

theorem tracked (held : Held plan sent log keys) : keys.get? plan.privateKey ≠ none := by
  rw [held.live]
  exact Option.some_ne_none _

/-- The ticket keeps the live key. -/
theorem ends (held : Held plan sent log keys) {result : Except Problem Conclusion}
    (unsettled : settles log result = false) : Ends (.transfer plan) log keys result := by
  refine .of_kept unsettled fun doubtful => ?_
  rw [held.decided] at doubtful
  cases doubtful

end Held

section Transfer

variable {scope : Scope} {plan : Plan} {sent : Bool} {log : Log} {keys : Keys}

/-- A problem ends the transfer. -/
def Raises (plan : Plan) (log : Log) (keys : Keys) (problem : Problem) : Prop :=
  Ends (.transfer plan) log keys (.error problem)

theorem unresolved_unknown (stage : String) (raised : Raised) :
    (unresolved stage raised).outcomeUnknown = true := by
  cases raised <;> rfl

theorem settles_of_unknown {problem : Problem} (unknown : problem.outcomeUnknown = true) :
    settles log (.error problem) = false := by
  simp [settles, unknown]

theorem settles_suspended (evaluation : Evaluation) (problem : Problem) :
    settles (⟨.evaluate evaluation, .suspended⟩ :: log) (.error problem) = false := rfl

theorem safe_decoded (held : Held plan sent log keys) :
    Fallible.Safe (rules (.transfer plan)) (fun log keys _ => Held plan sent log keys) (Raises plan)
      (decoded plan) log keys := by
  unfold decoded
  rw [Fallible.safe_bind, Fallible.safe_request]
  refine ⟨held.asks rfl, fun content => ?_⟩
  have asked := held.asked .evaluationToPython content rfl rfl
  cases content with
  | error raised => exact asked
  | ok content =>
      cases content with
      | none => exact asked
      | some content =>
          dsimp only
          split
          · exact asked
          · rw [Fallible.safe_bind, Fallible.safe_request]
            refine ⟨asked.asks rfl, fun payload => ?_⟩
            have answered := asked.asked .decode payload rfl rfl
            cases payload with
            | error raised => exact answered
            | ok payload =>
                cases payload with
                | none => exact answered
                | some payload => exact answered

theorem safe_received (held : Held plan sent log keys) (errorOccurred : Bool) :
    Fallible.Safe (rules (.transfer plan)) (fun log keys _ => Held plan sent log keys) (Raises plan)
      (received scope plan errorOccurred) log keys := by
  unfold received
  cases errorOccurred with
  | true => exact held
  | false =>
      rw [if_neg Bool.false_ne_true, Fallible.safe_bind, Fallible.safe_request]
      refine ⟨held.asks rfl, fun metadata => ?_⟩
      have admitted := held.asked .admitMetadata metadata rfl rfl
      cases metadata with
      | error raised => exact admitted
      | ok metadata =>
          dsimp only
          rw [Fallible.safe_bind, Fallible.safe_request]
          refine ⟨admitted.asks rfl, fun response => ?_⟩
          cases response with
          | suspended => exact (admitted.asked _ _ rfl rfl).ends (settles_suspended _ _)
          | raised raised _ =>
              exact (admitted.asked _ _ rfl rfl).ends
                (settles_of_unknown (unresolved_unknown "payload_read" raised))
          | returned errorOccurred =>
              have answered := admitted.asked (.evaluate (reading scope plan)) (.returned errorOccurred) rfl rfl
              cases errorOccurred with
              | true => exact answered
              | false => exact safe_decoded answered

/-- The transfer's key is gone, or its deletion was rejected. -/
structure Freed (plan : Plan) (log : Log) (keys : Keys) : Prop where
  decided : undecided log = false
  free : keys.get? plan.privateKey = none ∨ keys.get? plan.privateKey = some .confirmedFailure

namespace Freed

theorem asked (freed : Freed plan log keys) {question : Question} {answer : Answer question}
    (decides : undecides question answer = false) : Freed plan (⟨question, answer⟩ :: log) keys := by
  refine ⟨?_, freed.free⟩
  unfold undecided
  rw [List.any_cons, decides]
  exact freed.decided

theorem asks (freed : Freed plan log keys) (question : Question) :
    (rules (.transfer plan)).asks log keys question := by
  refine ⟨freed.decided, fun _ key own => ?_⟩
  cases own
  obtain gone | rejected := freed.free
  · rw [gone]
    exact nofun
  · rw [rejected]
    exact nofun

theorem ends (freed : Freed plan log keys) (result : Except Problem Conclusion)
    (published : creationAsked log → reported log) : Ends (.transfer plan) log keys result := by
  refine .of_freed freed.decided (fun key own => ?_) fun _ _ _ => published
  cases own
  exact freed.free

/-- A failure is published, and then the transfer raises. -/
theorem publishes (freed : Freed plan log keys) (error : String) {problem : Problem} {ρ : Type}
    {returns : Log → Keys → ρ → Prop} :
    Fallible.Safe (rules (.transfer plan)) returns (Raises plan)
      (do publishFailure error; throw problem) log keys := by
  rw [Fallible.safe_bind, safe_publishFailure]
  exact ⟨freed.asks _, (freed.asked rfl).ends _ fun _ => rfl,
    fun message => (freed.asked rfl).ends _ fun _ => rfl⟩

end Freed

theorem noted_unknown (held : Held plan true log keys) {evaluation : Evaluation}
    {answer : Answer (.evaluate evaluation)} {problem : Problem} {ρ : Type}
    {returns : Log → Keys → ρ → Prop} (undecided : undecides (.evaluate evaluation) answer)
    (unsettled : settles (⟨.evaluate evaluation, answer⟩ :: log) (.error problem) = false) :
    Fallible.Safe (rules (.transfer plan)) returns (Raises plan)
      (do noteTemporaryCleanupUnknown plan.privateKey; throw problem)
      (⟨.evaluate evaluation, answer⟩ :: log) keys := by
  rw [Fallible.safe_bind]
  refine (safe_noteTemporaryCleanup held.tracked).2 ⟨.doubtful rfl held.tracked ?_ held.silent ?_, ?_⟩
  · unfold OnecRuntime.Materialization.undecided
    rw [List.any_cons, undecided]
    rfl
  · intro _ _
    unfold creationAsked
    rw [List.any_cons]
    exact Bool.or_eq_true_iff.2 (.inr held.creation)
  · refine .of_kept unsettled fun _ key own => ?_
    cases own
    exact Dictionary.get?_set_same ..

theorem safe_removed (held : Held plan true log keys) (policy : Except Problem Payload) :
    Fallible.Safe (rules (.transfer plan)) (fun log keys _ => Freed plan log keys) (Raises plan)
      (removed scope plan policy) log keys := by
  unfold removed
  rw [Fallible.safe_bind, Fallible.safe_request]
  refine ⟨held.asks rfl, fun answer => ?_⟩
  cases answer with
  | suspended => exact noted_unknown held rfl (settles_suspended _ _)
  | raised raised _ => exact noted_unknown held rfl (settles_of_unknown rfl)
  | returned errorOccurred =>
      have answered := held.asked (.evaluate (deletion scope plan)) (.returned errorOccurred) rfl rfl
      cases errorOccurred with
      | true =>
          dsimp only
          rw [Fallible.safe_bind]
          refine (safe_noteTemporaryCleanup answered.tracked).2
            ⟨.rejected rfl answered.tracked answered.silent answered.decided answered.creation, ?_⟩
          exact Freed.publishes ⟨answered.decided, .inr (Dictionary.get?_set_same ..)⟩ _
      | false =>
          dsimp only
          rw [Fallible.safe_bind]
          refine (safe_confirmTemporaryCleanup answered.tracked).2 ⟨.deleted rfl ?_, ?_⟩
          · simp [deleted, confirms, deletion]
          · have freed : Freed plan (⟨.evaluate (deletion scope plan), .returned false⟩ :: log)
                (keys.erase plan.privateKey) :=
              ⟨answered.decided, .inl (Dictionary.get?_eraseAll_removed _ List.mem_cons_self)⟩
            cases policy with
            | error problem => exact freed.publishes _
            | ok payload => exact freed

theorem safe_created (held : Held plan false log keys) :
    Fallible.Safe (rules (.transfer plan)) (fun log keys _ => Freed plan log keys) (Raises plan)
      (created scope plan) log keys := by
  unfold created
  rw [Fallible.safe_bind, Fallible.safe_request]
  refine ⟨held.asks rfl, fun answer => ?_⟩
  cases answer with
  | suspended => exact (held.asked _ _ rfl rfl).ends (settles_suspended _ _)
  | raised raised _ =>
      exact (held.asked _ _ rfl rfl).ends
        (settles_of_unknown (unresolved_unknown "workspace_restore" raised))
  | returned errorOccurred =>
      have answered := held.asked (.evaluate (creation scope plan)) (.returned errorOccurred) rfl rfl
      dsimp only
      rw [Fallible.safe_bind, Fallible.safe_request]
      refine ⟨answered.asks rfl, fun restored => ?_⟩
      cases restored with
      | raised raised _ => exact (answered.asked _ _ rfl rfl).ends (settles_of_unknown rfl)
      | done =>
          dsimp only
          rw [Fallible.safe_bind]
          have given := answered.asked .restoreWorkspace .done rfl rfl
          exact (safe_received given errorOccurred).weaken fun held => safe_removed held _

theorem safe_validate {returns : Log → Keys → Unit → Prop} (decided : undecided log = false)
    (uncreated : creationAsked log = false)
    (free : keys.get? plan.privateKey = none ∨
      keys.get? plan.privateKey = some .confirmedFailure)
    (next : returns log keys ()) :
    Fallible.Safe (rules (.transfer plan)) returns (Raises plan) (validate scope plan) log keys := by
  have ends (problem : Problem) : Raises plan log keys problem :=
    Freed.ends ⟨decided, free⟩ _ fun created => absurd created (ne_true_of_eq_false uncreated)
  unfold validate
  split
  · exact ends _
  · split
    · exact ends _
    · exact next

theorem safe_execute (fresh : undecided log = false) (silent : reported log = false)
    (uncreated : creationAsked log = false)
    (free : keys.get? plan.privateKey = none ∨
      keys.get? plan.privateKey = some .confirmedFailure) :
    Fallible.Safe (rules (.transfer plan)) (fun log keys _ => Freed plan log keys) (Raises plan)
      (execute scope plan) log keys := by
  have ends (problem : Problem) : Raises plan log keys problem :=
    Freed.ends ⟨fresh, free⟩ _ fun created => absurd created (ne_true_of_eq_false uncreated)
  unfold execute
  rw [Fallible.safe_bind]
  refine safe_validate fresh uncreated free ?_
  rw [Fallible.safe_bind, safe_trackTemporaryKey]
  split
  · exact ends _
  · split
    · exact ends _
    · rename_i untracked
      have absent : keys.get? plan.privateKey = none := not_not.1 untracked
      have held : Held plan false log (keys.set plan.privateKey .live) :=
        ⟨Dictionary.get?_set_same .., fresh, silent, uncreated⟩
      refine ⟨.tracked rfl absent silent uncreated, ?_⟩
      rw [Fallible.safe_bind, Fallible.safe_request]
      refine ⟨held.asks rfl, fun answer => ?_⟩
      have shielded := held.asked .shieldWorkspace answer rfl rfl
      cases answer with
      | done => exact safe_created shielded
      | raised raised _ =>
          dsimp only
          rw [Fallible.safe_bind]
          refine (safe_confirmTemporaryCleanup shielded.tracked).2 ⟨.untracked rfl ?_, ?_⟩
          · exact uncreated
          · refine Freed.ends ⟨shielded.decided, .inl ?_⟩ _ fun created => ?_
            · exact Dictionary.get?_eraseAll_removed _ List.mem_cons_self
            · exact absurd created (ne_true_of_eq_false shielded.creation)

/-- A transfer is safe from its start. -/
theorem safe_materializationPlan
    (free : keys.get? plan.privateKey = none ∨
      keys.get? plan.privateKey = some .confirmedFailure) :
    Safe (.transfer plan) (materializationPlan scope plan).run [] keys := by
  have freed : Freed plan [] keys := ⟨rfl, free⟩
  refine .of_fallible ?_
  unfold materializationPlan
  rw [Fallible.safe_bind, Fallible.safe_request]
  refine ⟨freed.asks _, fun prepared => ?_⟩
  have asked : Freed plan [⟨.prepare, prepared⟩] keys := freed.asked rfl
  cases prepared with
  | error raised =>
      cases raised with
      | baseException => exact asked.ends _ nofun
      | outcomeUnknown | exception =>
          dsimp only
          rw [Fallible.safe_bind, safe_publishFailure]
          exact ⟨asked.asks _, (asked.asked rfl).ends _ fun _ => rfl,
            fun message => (asked.asked rfl).ends _ fun _ => rfl⟩
  | ok done =>
      dsimp only
      rw [Fallible.safe_bind]
      refine (safe_execute asked.decided rfl rfl free).weaken fun freed => ?_
      rw [Fallible.safe_bind, Fallible.safe_request]
      refine ⟨freed.asks _, fun completed => ?_⟩
      cases completed with
      | error message => exact (freed.asked rfl).ends _ fun _ => rfl
      | ok done => exact (freed.asked rfl).ends _ fun _ => rfl

end Transfer

/-! ## A retry and a resume -/

section Retry

variable {scope : Scope} {key : Text} {log : Log} {keys : Keys}

theorem retry_asks (decided : undecided log = false) {question : Question}
    (plain : question.reports = false) : (rules (.retry key)).asks log keys question := by
  refine ⟨decided, fun reports => ?_⟩
  rw [plain] at reports
  cases reports

theorem retry_noted (tracked : keys.get? key ≠ none) (silent : reported log = false)
    {evaluation : Evaluation} {answer : Answer (.evaluate evaluation)} {problem : Problem}
    (doubtful : undecides (.evaluate evaluation) answer)
    (unsettled : settles (⟨.evaluate evaluation, answer⟩ :: log) (.error problem) = false) :
    Fallible.Safe (rules (.retry key))
      (fun log keys conclusion => Ends (.retry key) log keys (.ok conclusion))
      (fun log keys problem => Ends (.retry key) log keys (.error problem))
      (do noteTemporaryCleanupUnknown key; throw problem)
      (⟨.evaluate evaluation, answer⟩ :: log) keys := by
  rw [Fallible.safe_bind]
  refine (safe_noteTemporaryCleanup tracked).2 ⟨.doubtful rfl tracked ?_ silent nofun, ?_⟩
  · unfold undecided
    rw [List.any_cons, doubtful]
    rfl
  · refine .of_kept unsettled fun _ other own => ?_
    cases own
    exact Dictionary.get?_set_same ..

/-- A retry is safe from its start. -/
theorem safe_retryConfirmedCleanup
    (free : keys.get? key = none ∨ keys.get? key = some .confirmedFailure) :
    Safe (.retry key) (retryConfirmedCleanup scope key).run [] keys := by
  have ends {log : Log} (decided : undecided log = false) {keys : Keys}
      (free : keys.get? key = none ∨ keys.get? key = some .confirmedFailure)
      (result : Except Problem Conclusion) : Ends (.retry key) log keys result := by
    refine .of_freed decided (fun other own => ?_) nofun
    cases own
    exact free
  refine .of_fallible ?_
  unfold retryConfirmedCleanup
  rw [Fallible.safe_bind, Fallible.safe_get]
  split
  · exact ends rfl free _
  · rename_i admitted
    have rejected : keys.get? key = some .confirmedFailure := by
      by_contra other
      exact admitted (.inr (.inr other))
    have tracked : keys.get? key ≠ none := by
      rw [rejected]
      exact Option.some_ne_none _
    rw [Fallible.safe_bind, Fallible.safe_request]
    refine ⟨retry_asks rfl rfl, fun shielded => ?_⟩
    cases shielded with
    | raised raised _ => exact ends rfl free _
    | done =>
        dsimp only
        rw [Fallible.safe_bind, Fallible.safe_request]
        refine ⟨retry_asks rfl rfl, fun answer => ?_⟩
        cases answer with
        | suspended => exact retry_noted tracked rfl rfl rfl
        | raised raised _ =>
            refine retry_noted tracked rfl rfl (settles_of_unknown ?_)
            cases raised <;> rfl
        | returned errorOccurred =>
            cases errorOccurred with
            | true =>
                dsimp only
                rw [if_pos rfl, Fallible.safe_bind, Fallible.safe_request]
                refine ⟨retry_asks rfl rfl, fun restored => ?_⟩
                cases restored with
                | raised raised _ => exact ends rfl free _
                | done => exact ends rfl free _
            | false =>
                dsimp only
                rw [if_neg Bool.false_ne_true, Fallible.safe_bind]
                refine (safe_confirmTemporaryCleanup tracked).2 ⟨.deleted rfl ?_, ?_⟩
                · simp [deleted, confirms, retriedDeletion]
                · have gone : (keys.erase key).get? key = none :=
                    Dictionary.get?_eraseAll_removed _ List.mem_cons_self
                  rw [Fallible.safe_bind, Fallible.safe_request]
                  refine ⟨retry_asks rfl rfl, fun restored => ?_⟩
                  cases restored with
                  | raised raised _ => exact ends rfl (.inl gone) _
                  | done => exact ends rfl (.inl gone) _

end Retry

theorem safe_resumption (keys : Keys) : Safe .resume resumption.run [] keys := by
  refine .of_fallible ?_
  unfold resumption
  rw [Fallible.safe_bind, Fallible.safe_request]
  refine ⟨⟨rfl, fun reports => by cases reports⟩, fun answer => ?_⟩
  cases answer with
  | raised raised _ => exact .of_freed rfl nofun nofun
  | done => exact .of_freed rfl nofun nofun

/-- Every plan is safe from its start where its key is gone or rejected. -/
theorem safe_script (scope : Scope) (work : Work) {keys : Keys}
    (free : ∀ key, work.key = some key →
      keys.get? key = none ∨ keys.get? key = some .confirmedFailure) :
    Safe work (work.script scope).run [] keys := by
  cases work with
  | transfer plan => exact safe_materializationPlan (free _ rfl)
  | retry key => exact safe_retryConfirmedCleanup (free _ rfl)
  | resume => exact safe_resumption keys

end OnecRuntime.Materialization
