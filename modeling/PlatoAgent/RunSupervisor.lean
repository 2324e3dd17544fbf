import PlatoAgent.LedgerLifecycle

/-!
# The supervisor of a run child

The daemon runs every admitted run in a child process and records what the
child sends.  The child stages how the run is to end; the parent publishes one
end of the run after the child is gone.  What a pass of the supervisor's loop
observes is given to it: clocks, the cancel flag, the process and the pipe.
-/

namespace PlatoAgent

/-- The errors that a supervised run ends with; all others are known by their
text. -/
inductive RunError where
  | runCanceled
  | runFailed (reason : String)
  | supervisedRun (reason : String)
  | runChildTimedOut (deadlineMs : UInt64)
  | other (text : String)
  deriving DecidableEq, Repr

/-- An error of the process, its pipes or a handler. -/
inductive ChildError where
  | supervised (reason : String)
  | other (text : String)
  deriving DecidableEq, Repr

def ChildError.toRunError : ChildError → RunError
  | .supervised reason => .supervisedRun reason
  | .other text => .other text

def RunError.text : RunError → String
  | .runCanceled => "run did not finish: run canceled"
  | .runFailed reason => s!"run did not finish: {reason}"
  | .supervisedRun reason => reason
  | .runChildTimedOut deadlineMs =>
      s!"run child exceeded its {deadlineMs}-millisecond deadline"
  | .other text => text

structure RunOutcome where
  runId : RunId
  finalAnswer : String
  deriving DecidableEq, Repr

inductive RecordOperation where
  | event (event : HarnessEvent)
  | finish (runId : RunId) (finalAnswer : String)
  | fail (runId : RunId) (error : String) (canceled : Bool)

inductive ChildRunResult where
  | finished (outcome : RunOutcome)
  | canceled
  | failed (error : String)
  deriving DecidableEq, Repr

/-- The messages of the child; the requests to the handlers of tools are
answered by a reply and do not touch the run. -/
inductive ChildMessage where
  | ready (pid : UInt32)
  | record (operation : RecordOperation)
  | assistantDelta
  | approval
  | threadSpawn
  | logicalRead
  | threadReturn
  | parentAnswer
  | result (result : ChildRunResult)

inductive StopCause where
  | canceled
  | timedOut
  | childFailed
  deriving DecidableEq, Repr

structure ExitStatus where
  success : Bool
  text : String
  deriving DecidableEq, Repr

inductive ReaderEvent where
  | message (message : ChildMessage)
  | invalid (error : String)
  | closed
  | timeout
  | disconnected

def RecordOperation.runId : RecordOperation → RunId
  | .event recorded => recorded.runId
  | .finish runId _ | .fail runId _ _ => runId

def terminalError : RunError → String
  | .runFailed reason | .supervisedRun reason => reason
  | error => error.text

def terminalForOutcome (runId : RunId) :
    Except RunError RunOutcome → RecordOperation
  | .ok outcome => .finish runId outcome.finalAnswer
  | .error .runCanceled => .fail runId runCanceledReason true
  | .error (.runChildTimedOut _) =>
      .fail runId "run child deadline exceeded" false
  | .error error => .fail runId (terminalError error) false

/-- The staged intent agrees with the result that the child reported. -/
def intentMatches (runId : RunId) :
    RecordOperation → Except RunError RunOutcome → Bool
  | .finish terminalRunId finalAnswer, .ok outcome =>
      terminalRunId == runId && outcome.runId == runId &&
        finalAnswer == outcome.finalAnswer
  | .fail terminalRunId error true, .error .runCanceled =>
      terminalRunId == runId && error == runCanceledReason
  | .fail terminalRunId error false, .error (.supervisedRun resultError) =>
      terminalRunId == runId && (resultError == error ||
        resultError == s!"run did not finish: {error}")
  | _, _ => false

def validateTerminalIntent (terminal : Option RecordOperation)
    (runId : RunId) (outcome : Except RunError RunOutcome) :
    Except RunError RecordOperation :=
  match terminal with
  | none => .error (.supervisedRun "run child returned without terminal intent")
  | some terminal =>
      if intentMatches runId terminal outcome then .ok terminal
      else .error (.supervisedRun
        "run child result did not match terminal intent")

/-- What the parent did with an operation of the child: a record that it
wrote, or an intent that was staged. -/
inductive ParentEntry where
  | recorded (record : RecordedEvent)
  | staged (operation : RecordOperation)

/-- The recorder of the run, the staged intent, and what was done so far. -/
structure ParentRunRecorder where
  recorder : JsonlEventRecorder
  terminal : Option RecordOperation
  history : List ParentEntry

structure SupervisedRunCompletion where
  outcome : Except RunError RunOutcome
  recorder : JsonlEventRecorder
  operation : RecordOperation

namespace SupervisedRunCompletion

/-- `SupervisedRunCompletion::new`. -/
def ofOutcome (recorder : JsonlEventRecorder) (runId : RunId)
    (outcome : Except RunError RunOutcome) : SupervisedRunCompletion where
  outcome := outcome
  recorder := recorder
  operation := terminalForOutcome runId outcome

def overrideFailure (completion : SupervisedRunCompletion)
    (error : RunError) : SupervisedRunCompletion where
  outcome := .error error
  recorder := completion.recorder
  operation := .fail completion.operation.runId (terminalError error) false

/-- `TerminalPublication::publish`. -/
def publish (env : LedgerEnv) (completion : SupervisedRunCompletion) :
    LedgerM (Recorded JsonlEventRecorder) :=
  match completion.operation with
  | .finish runId finalAnswer =>
      completion.recorder.finishRun env runId finalAnswer
  | .fail runId error canceled =>
      completion.recorder.failRun env runId error canceled
  | .event _ =>
      -- Unreachable: a publication stores an intent.
      pure (.error (.config "terminal publication stores intent"),
        completion.recorder)

end SupervisedRunCompletion

namespace ParentRunRecorder

def complete (parent : ParentRunRecorder) (runId : RunId)
    (outcome : Except RunError RunOutcome) (preserveChildTerminal : Bool) :
    SupervisedRunCompletion :=
  if preserveChildTerminal then
    match validateTerminalIntent parent.terminal runId outcome with
    | .ok terminal =>
        { outcome := outcome
          recorder := parent.recorder
          operation := terminal }
    | .error error => .ofOutcome parent.recorder runId (.error error)
  else .ofOutcome parent.recorder runId outcome

/-- The record of an accepted event is also sent to the collector of the
daemon, which may be gone. -/
def apply (env : LedgerEnv) (shown : AppError → String)
    (collectorOpen : Bool) (parent : ParentRunRecorder) :
    RecordOperation →
      LedgerM (Except RunError (Option RecordedEvent) × ParentRunRecorder)
  | .event event =>
      if parent.terminal.isSome then
        pure (.error (.supervisedRun
          "run child emitted a nonterminal event after terminal intent"),
          parent)
      else do
        match ← (parent.recorder.record env event).attempt with
        | .error error => pure (.error (.other (shown error)), parent)
        | .ok (record, recorder) =>
            let recorded := { parent with
              recorder := recorder
              history := parent.history ++ [.recorded record] }
            if collectorOpen then pure (.ok (some record), recorded)
            else
              pure (.error (.supervisedRun "daemon event collector closed"),
                recorded)
  | terminal =>
      let staged := { parent with
        terminal := some terminal
        history := parent.history ++ [.staged terminal] }
      if parent.terminal.isSome then
        pure (.error (.supervisedRun
          "run child emitted more than one terminal intent"), staged)
      else pure (.ok none, staged)

end ParentRunRecorder

/-- What one pass of the loop observes. -/
structure SupervisorPass where
  descendants : Except ChildError Unit
  cancel : Bool
  pastDeadline : Bool
  pastGrace : Bool
  cancelWrite : Except ChildError Unit
  exit : Except ChildError (Option ExitStatus)
  received : ReaderEvent
  /-- The decision on an approval request. -/
  approval : Except ChildError Unit
  collectorOpen : Bool
  reply : Except ChildError Unit

structure SupervisorState where
  parent : ParentRunRecorder
  ready : Bool
  stopCause : Option StopCause

inductive PassEnd where
  | continues
  | breaks (result : ChildRunResult)
  | fails (error : RunError)

def stopReason (cause : StopCause) (pid : UInt32)
    (status : Option ExitStatus) : String :=
  match cause, status with
  | .canceled, _ => runCanceledReason
  | .timedOut, _ => "run child deadline exceeded"
  | .childFailed, some status =>
      s!"run child {pid} exited unexpectedly with {status.text}"
  | .childFailed, none => s!"run child {pid} exited unexpectedly"

def stopError (cause : StopCause) (deadlineMs : UInt64) (reason : String) :
    RunError :=
  match cause with
  | .canceled => .runCanceled
  | .timedOut => .runChildTimedOut deadlineMs
  | .childFailed => .supervisedRun reason

section Supervision

variable (env : LedgerEnv) (shown : AppError → String)
variable (pid : UInt32) (deadlineMs : UInt64)

def SupervisorPass.replied (pass : SupervisorPass) (next : PassEnd) :
    PassEnd :=
  match pass.reply with
  | .error error => .fails error.toRunError
  | .ok () => next

def handleMessage (pass : SupervisorPass) (state : SupervisorState) :
    ChildMessage → LedgerM (SupervisorState × PassEnd)
  | .ready childPid =>
      if state.ready ∨ childPid ≠ pid then
        pure (state, .fails (.supervisedRun
          s!"run child ready identity mismatch: expected {pid}, got {childPid}"))
      else
        pure ({ state with ready := true }, pass.replied .continues)
  | .record operation => do
      let (result, parent) ← state.parent.apply env shown pass.collectorOpen
        operation
      let applied := { state with parent := parent }
      match result with
      | .error error => pure (applied, .fails error)
      | .ok _ => pure (applied, pass.replied .continues)
  | .assistantDelta =>
      if pass.collectorOpen then pure (state, pass.replied .continues)
      else
        pure (state, .fails (.supervisedRun "daemon event collector closed"))
  | .approval =>
      match pass.approval with
      | .error error => pure (state, .fails error.toRunError)
      | .ok () => pure (state, pass.replied .continues)
  | .threadSpawn | .logicalRead | .threadReturn | .parentAnswer =>
      pure (state, pass.replied .continues)
  | .result result => pure (state, pass.replied (.breaks result))

/-- The end of a pass, after the pipe was read; a result leaves the loop at
once, so no pass begins with one. -/
def handleReceived (pass : SupervisorPass) (state : SupervisorState) :
    LedgerM (SupervisorState × PassEnd) :=
  match pass.received with
  | .message message => handleMessage env shown pid pass state message
  | .invalid error =>
      pure (state, .fails (.supervisedRun
        s!"run child transport failed: {error}"))
  | .timeout => pure (state, .continues)
  | .closed | .disconnected =>
      pure (state, .fails (.supervisedRun
        s!"run child {pid} closed its event stream without a result"))

def observedStop (pass : SupervisorPass) (state : SupervisorState) :
    Option StopCause :=
  if state.stopCause.isNone ∧ pass.cancel then some .canceled
  else if state.stopCause.isNone ∧ state.parent.terminal.isNone ∧
      pass.pastDeadline then some .timedOut
  else none

def handleProcess (pass : SupervisorPass) (state : SupervisorState) :
    LedgerM (SupervisorState × PassEnd) :=
  match state.stopCause.filter fun _ => pass.pastGrace with
  | some cause =>
      pure (state, .fails (stopError cause deadlineMs
        (stopReason cause pid none)))
  | none =>
      match pass.exit with
      | .error error => pure (state, .fails error.toRunError)
      | .ok (some status) =>
          pure (state, .fails (.supervisedRun
            (stopReason .childFailed pid (some status))))
      | .ok none => handleReceived env shown pid pass state

def superviseOnce (pass : SupervisorPass) (state : SupervisorState) :
    LedgerM (SupervisorState × PassEnd) :=
  match pass.descendants with
  | .error error => pure (state, .fails error.toRunError)
  | .ok () =>
      match observedStop pass state with
      | none => handleProcess env shown pid deadlineMs pass state
      | some cause =>
          let stopped := { state with stopCause := some cause }
          match pass.cancelWrite with
          | .error error => pure (stopped, .fails error.toRunError)
          | .ok () => handleProcess env shown pid deadlineMs pass stopped

/-- The passes up to a result or a failure; none while the child still runs. -/
def superviseLoop (state : SupervisorState) :
    List SupervisorPass →
      LedgerM (SupervisorState × Option (Except RunError ChildRunResult))
  | [] => pure (state, none)
  | pass :: rest => do
      let (next, passEnd) ← superviseOnce env shown pid deadlineMs pass state
      match passEnd with
      | .continues => superviseLoop next rest
      | .breaks result => pure (next, some (.ok result))
      | .fails error => pure (next, some (.error error))

/-- All that the supervision of a child observes. -/
structure SupervisorScript where
  /-- The executable, the environment and the start of the process. -/
  spawn : Except ChildError Unit
  /-- The pipes and the start message. -/
  connect : Except ChildError Unit
  passes : List SupervisorPass
  /-- The exit after a result, with the drain of the pipes. -/
  finalize : Except String ExitStatus
  /-- The errors of the cleanup after a failure. -/
  cleanupErrors : List String

/-- `cleanup_failure` of a child that was not finalized. -/
def cleanupFailure (errors : List String) (primary : RunError) : RunError :=
  if errors.isEmpty then primary
  else
    .supervisedRun (s!"{primary.text}; supervised child cleanup also failed: " ++
      "; ".intercalate errors)

/-- A completion with what led to it: the stop that was observed, the result
that the child reported and its exit. -/
structure Supervised where
  completion : SupervisedRunCompletion
  parent : ParentRunRecorder
  stopCause : Option StopCause
  result : Option ChildRunResult
  exit : Option ExitStatus

/-- The outcome of a child that reported a result and exited. -/
def outcomeOfResult (stopCause : Option StopCause)
    (result : ChildRunResult) : Except RunError RunOutcome :=
  match stopCause with
  | some .timedOut => .error (.runChildTimedOut deadlineMs)
  | some .canceled => .error .runCanceled
  | some .childFailed =>
      -- Unreachable: a child failure has no result.
      .error (.supervisedRun "child failure returns before result mapping")
  | none =>
      match result with
      | .finished outcome => .ok outcome
      | .canceled => .error .runCanceled
      | .failed error => .error (.supervisedRun error)

/-- The end of the supervision, after the loop. -/
def superviseEnd (runId : RunId) (script : SupervisorScript)
    (state : SupervisorState) :
    Except RunError ChildRunResult → Supervised
  | .error error =>
      { completion := state.parent.complete runId
          (.error (cleanupFailure script.cleanupErrors error)) false
        parent := state.parent
        stopCause := state.stopCause
        result := none
        exit := none }
  | .ok result =>
      match script.finalize with
      | .error reason =>
          { completion := state.parent.complete runId
              (.error (.supervisedRun reason)) false
            parent := state.parent
            stopCause := state.stopCause
            result := some result
            exit := none }
      | .ok status =>
          let outcome : Except RunError RunOutcome :=
            if status.success then
              outcomeOfResult deadlineMs state.stopCause result
            else .error (.supervisedRun
              (stopReason .childFailed pid (some status)))
          { completion := state.parent.complete runId outcome
              (status.success && state.stopCause.isNone)
            parent := state.parent
            stopCause := state.stopCause
            result := some result
            exit := some status }

/-- `run_supervised_with_limits`; none while the child still runs. -/
def runSupervised (runId : RunId) (recorder : JsonlEventRecorder)
    (script : SupervisorScript) : LedgerM (Option Supervised) :=
  let parent : ParentRunRecorder := ⟨recorder, none, []⟩
  let start : SupervisorState := ⟨parent, false, none⟩
  match script.spawn with
  | .error error =>
      pure (some
        { completion := parent.complete runId (.error error.toRunError) false
          parent := parent
          stopCause := none
          result := none
          exit := none })
  | .ok () =>
      match script.connect with
      | .error error =>
          pure (some (superviseEnd pid deadlineMs runId script start
            (.error error.toRunError)))
      | .ok () => do
          let (state, ended) ← superviseLoop env shown pid deadlineMs start
            script.passes
          pure (ended.map (superviseEnd pid deadlineMs runId script state))

end Supervision

end PlatoAgent
