import Mathlib.Data.List.Basic

/-!
# Writing the roots of a stop back

The cells of a CAPTURE stop name the roots that they may have changed.  A resume exports each
root to temporary storage, writes it from there into the frame and lets MAIN continue.  The
answers of the debugger to one `flush` are given for each root.
-/

namespace OnecRuntime.Writeback

inductive RootWritePhase where
  | unattempted
  | exportPending
  | exported
  | modifySent
  | succeeded
  | failed
  | unknown
deriving DecidableEq

inductive Stage where
  | exporting
  | modify
deriving DecidableEq

inductive WritebackDisposition where
  | inProgress
  | ready
  | pausedExportFailed
  | partialWrite
  | outcomeUnknown
deriving DecidableEq

inductive Failure where
  | writebackBlocked (text : String)
  | captureExportFailed (text : String)
  | captureModifyFailed
  | unsafeName (name : String)
  | valueError (text : String)
  | runtimeError (text : String)
  | protocolError (text : String)
  /-- Whatever a port raised. -/
  | raised
deriving DecidableEq

structure RootState where
  phase : RootWritePhase
  address : Option String
  resultId : Option Nat
  failedStage : Option Stage
deriving DecidableEq

def RootState.fresh : RootState := ⟨.unattempted, none, none, none⟩

/-- What `evaluate_until_result` gives; of a result that is no error, what
`evaluation_to_python` makes of it where that is a text. -/
inductive Export where
  | raised
  | errorOccurred
  | returned (typeName : String) (value : Option String)

/-- How `modify` ends, which calls `on_transport_dispatch` right before the transport. -/
inductive Modify where
  | refused
  | interrupted
  | returned (resultId : Nat) (errorOccurred : Bool)

structure Answers where
  exporting : Export
  modify : Modify

/-- What a run shows of a stop. -/
inductive Event where
  | admitted (root : String)
  | exported (root address : String)
  /-- The modify of the root enters the transport. -/
  | sent (root address : String)
  | written (root : String)
  /-- Continue enters the transport. -/
  | continued
deriving DecidableEq

/-! ## The ledger -/

/-- `_states`, in the order of `roots`. -/
abbrev RootWritebackLedger := List (String × RootState)

namespace RootWritebackLedger

variable (ledger : RootWritebackLedger)

/-- `RootWritebackLedger(dirty_roots)` -/
def new (isSafe : String → Bool) (roots : List String) : Except Failure RootWritebackLedger :=
  if roots.Nodup then
    match roots.find? fun root => !isSafe root with
    | some root => .error (.unsafeName root)
    | none => .ok (roots.map fun root => (root, .fresh))
  else .error (.valueError "Dirty roots must be unique")

def somewhere (phase : RootWritePhase) : Bool := ledger.any fun entry => entry.2.phase = phase

def disposition : WritebackDisposition :=
  if ledger.somewhere .unknown then .outcomeUnknown
  else if ledger.all fun entry => entry.2.phase = .succeeded then .ready
  else if ledger.somewhere .modifySent then .outcomeUnknown
  else if ledger.somewhere .failed then
    if ledger.any fun entry => entry.2.phase = .succeeded || entry.2.failedStage = some .modify then
      .partialWrite
    else .pausedExportFailed
  else .inProgress

end RootWritebackLedger

/-! ## `CaptureWritebackExecutor` -/

def exportRoot (state : RootState) : Export → Except (RootState × Failure) RootState
  | .raised => .error ({ state with phase := .unknown }, .raised)
  | .errorOccurred =>
      .error ({ state with phase := .failed, failedStage := some .exporting },
        .captureExportFailed "Capture root export failed")
  | .returned typeName value =>
      let address := value.getD ""
      if typeName ≠ "Строка" || address = "" then
        .error ({ state with phase := .failed, failedStage := some .exporting },
          .captureExportFailed "Capture root export address is invalid")
      else .ok { state with phase := .exported, address := some address }

/-- The second half of the loop's body. -/
def modifyRoot (root : String) (answer : Modify) (state : RootState) :
    RootState × List Event × Option Failure :=
  match state.phase, state.address with
  | .exported, some address =>
      match answer with
      | .refused => (state, [], some .raised)
      | .interrupted => ({ state with phase := .unknown }, [.sent root address], some .raised)
      | .returned resultId true =>
          ({ state with phase := .failed, resultId := some resultId, failedStage := some .modify },
            [.sent root address], some .captureModifyFailed)
      | .returned resultId false =>
          ({ state with phase := .succeeded, resultId := some resultId },
            [.sent root address, .written root], none)
  | _, _ => (state, [], some (.writebackBlocked "Capture writeback has no confirmed export"))

def writeRoot (port : String → Answers) (root : String) (state : RootState) :
    RootState × List Event × Option Failure :=
  if state.phase = .succeeded then (state, [], none)
  else if state.phase = .unattempted then
    match exportRoot state (port root).exporting with
    | .error (failed, failure) => (failed, [], some failure)
    | .ok ready =>
        let (after, events, failure) := modifyRoot root (port root).modify ready
        (after, .exported root (ready.address.getD "") :: events, failure)
  else modifyRoot root (port root).modify state

/-- The loop over the roots. -/
def writeRoots (port : String → Answers) :
    RootWritebackLedger → RootWritebackLedger × List Event × Option Failure
  | [] => ([], [], none)
  | (root, state) :: rest =>
      match writeRoot port root state with
      | (after, events, some failure) => ((root, after) :: rest, events, some failure)
      | (after, events, none) =>
          let (others, later, failure) := writeRoots port rest
          ((root, after) :: others, events ++ later, failure)

def flush (port : String → Answers) (ledger : RootWritebackLedger) :
    RootWritebackLedger × List Event × Option Failure :=
  match ledger.disposition with
  | .outcomeUnknown | .partialWrite | .pausedExportFailed =>
      (ledger, [], some (.writebackBlocked "Capture writeback requires reconciliation"))
  | .inProgress | .ready => writeRoots port ledger

/-! ## The stop -/

/-- How `casefold` and the check of `build_live_capture_root_transfer_call` treat a name. -/
structure NameFunctions where
  casefold : String → String
  isSafe : String → Bool

structure CaptureScope where
  dirtyRoots : List String
  writebackLedger : Option RootWritebackLedger
  /-- The context is READY and the frame CONFIRMED. -/
  ready : Bool

/-- How Continue ends: raised before its transport, behind it, or acknowledged. -/
inductive Release where
  | refused
  | lost
  | acknowledged
deriving DecidableEq

/-- A resume with what its plan meets. -/
structure Resume where
  dirtyRoots : List String
  /-- `rearm_captured_successor` returns. -/
  rearms : Bool
  port : String → Answers
  /-- `end_scope` returns. -/
  ends : Bool
  release : Release

namespace CaptureScope

variable (functions : NameFunctions) (scope : CaptureScope)

/-- A confirmed stop right after its setup. -/
def opened : CaptureScope := ⟨[], none, true⟩

def admitRoot (known : List String) (root : String) : List String :=
  if functions.casefold root ∈ known.map functions.casefold then known else known ++ [root]

def admitCellDirtyRoots (roots : List String) : Except Failure CaptureScope :=
  if scope.writebackLedger.isSome then .error (.runtimeError "capture writeback has already begun")
  else if !scope.ready then .error (.runtimeError "capture frame is not ready")
  else
    match roots.find? fun root => !functions.isSafe root with
    | some root => .error (.unsafeName root)
    | none => .ok { scope with dirtyRoots := roots.foldl (admitRoot functions) scope.dirtyRoots }

def beginWriteback : Except Failure RootWritebackLedger :=
  if !scope.ready then .error (.runtimeError "capture frame is not ready")
  else
    match scope.writebackLedger with
    | some ledger => .ok ledger
    | none => RootWritebackLedger.new functions.isSafe scope.dirtyRoots

def discardUnmodifiedWriteback : Except Failure CaptureScope :=
  let refused := Failure.runtimeError "capture writeback cannot be discarded"
  if !scope.ready then .error (.runtimeError "capture frame is not ready")
  else
    match scope.writebackLedger with
    | none => .error refused
    | some ledger =>
        if ledger.disposition ≠ .pausedExportFailed then .error refused
        else if ledger.any fun entry => !(entry.2.phase = .unattempted ||
            entry.2.phase = .failed && entry.2.failedStage = some .exporting) then
          .error (.runtimeError "capture writeback may have modified the frame")
        else .ok { scope with writebackLedger := none }

/-- What `submit_resume` refuses of the roots and the stop. -/
def checkResume (roots : List String) : Except Failure Unit :=
  if !scope.ready then .error (.protocolError "No ready CAPTURE stop can be resumed")
  else
    match roots.find? fun root => !functions.isSafe root with
    | some root => .error (.unsafeName root)
    | none =>
        if scope.writebackLedger.isSome && roots.any fun root =>
            functions.casefold root ∉ scope.dirtyRoots.map functions.casefold then
          .error (.protocolError "CAPTURE writeback cannot admit a new root after resume began")
        else .ok ()

/-- The plan of a resume from `begin_writeback` on. -/
def writeAndContinue (request : Resume) : CaptureScope × List Event × Option Failure :=
  match scope.beginWriteback functions with
  | .error failure => (scope, [], some failure)
  | .ok ledger =>
      let (after, events, failure) := flush request.port ledger
      let flushed := { scope with writebackLedger := some after }
      if failure.isSome then (flushed, events, failure)
      else if !request.ends then (flushed, events, some .raised)
      else
        match request.release with
        | .refused => (flushed, events, some .raised)
        | .lost => ({ flushed with ready := false }, events ++ [.continued], some .raised)
        | .acknowledged => ({ flushed with ready := false }, events ++ [.continued], none)

/-- The plan of a resume, which admits its own roots unless the writeback began before. -/
def plan (request : Resume) : CaptureScope × List Event × Option Failure :=
  if scope.writebackLedger.isSome then
    if request.rearms then scope.writeAndContinue functions request else (scope, [], some .raised)
  else
    match scope.admitCellDirtyRoots functions request.dirtyRoots with
    | .error failure => (scope, [], some failure)
    | .ok admitted =>
        let named := request.dirtyRoots.map Event.admitted
        if request.rearms then
          let (after, events, failure) := admitted.writeAndContinue functions request
          (after, named ++ events, failure)
        else (admitted, named, some .raised)

inductive Action where
  /-- A cell is admitted with its dirty roots. -/
  | admitCell (roots : List String)
  | resume (request : Resume)
  | discard

/-- What a call leaves and shows; a call that raises leaves what it had changed before. -/
def perform : Action → CaptureScope × List Event
  | .admitCell roots =>
      match scope.admitCellDirtyRoots functions roots with
      | .error _ => (scope, [])
      | .ok admitted => (admitted, roots.map .admitted)
  | .resume request =>
      match scope.checkResume functions request.dirtyRoots with
      | .error _ => (scope, [])
      | .ok () =>
          let (after, events, _) := scope.plan functions request
          (after, events)
  | .discard =>
      match scope.discardUnmodifiedWriteback with
      | .error _ => (scope, [])
      | .ok discarded => (discarded, [])

def run (scope : CaptureScope) : List Action → CaptureScope × List Event
  | [] => (scope, [])
  | action :: rest =>
      let (next, events) := scope.perform functions action
      let (last, later) := run next rest
      (last, events ++ later)

end CaptureScope

end OnecRuntime.Writeback
