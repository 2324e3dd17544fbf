import PlatoAgent.LedgerSqlite

/-!
# Session recorders

The two recorders of a session run.  Both keep the run state in memory, refuse
terminal events through `record` while their session run is open, and fail the
run when they are dropped before its outcome was attempted.  The methods return
the recorder next to the result, because a failed terminal attempt is remembered.
-/

namespace PlatoAgent

open AtomicProgram

/-- The outcome a recorder method reports, with the recorder after it. -/
abbrev Recorded (Recorder : Type) :=
  Except AppError RecordedEvent × Recorder

def droppedRunReason : String :=
  "run ended before session status was closed"

namespace JsonlEventRecorder

/-- Append the terminal event, then close the session row. -/
def recordTerminal (env : LedgerEnv) (recorder : JsonlEventRecorder)
    (event : HarnessEvent) (outcome : SessionOutcome) :
    LedgerM (Recorded JsonlEventRecorder) :=
  match recorder.session with
  | none => do
      match ← (recordEvent env recorder event).attempt with
      | .error error => pure (.error error, recorder)
      | .ok (record, recorded) => pure (.ok record, recorded)
  | some session =>
      if !session.isOpen then
        pure (.error (.config "JSONL session run is already closed"), recorder)
      else do
        let attempted := { recorder with
          session := some { session with terminalAttempted := true } }
        match ← (recordEvent env attempted event).attempt with
        | .error error => pure (.error error, attempted)
        | .ok (record, recorded) =>
            match ← (completeSessionTerminal env session.runId
              outcome).attempt with
            | .error error => pure (.error error, recorded)
            | .ok () =>
                pure (.ok record, { recorded with
                  session := some { session with
                    isOpen := false, terminalAttempted := true } })

def finishRun (env : LedgerEnv) (recorder : JsonlEventRecorder)
    (runId : RunId) (finalAnswer : String) :
    LedgerM (Recorded JsonlEventRecorder) :=
  recordTerminal env recorder (.runFinished runId)
    (finishedOutcome finalAnswer)

def failRun (env : LedgerEnv) (recorder : JsonlEventRecorder) (runId : RunId)
    (error : String) (canceled : Bool) :
    LedgerM (Recorded JsonlEventRecorder) :=
  recordTerminal env recorder (.runFailed runId error)
    (failedOutcome error canceled)

/-- `Drop`. -/
def drop (env : LedgerEnv) (recorder : JsonlEventRecorder) : LedgerM Unit :=
  match recorder.session with
  | none => pure ()
  | some session =>
      if session.isOpen && !session.terminalAttempted &&
          !recorder.poisoned then do
        let _ ← failRun env recorder session.runId droppedRunReason false
        pure ()
      else
        pure ()

/-- Undo an admission that has no events: delete its row and its log. -/
def discardEmptySessionAdmission (recorder : JsonlEventRecorder) :
    LedgerM Unit := do
  let bytes ← readFile recorder.path
  requireApp bytes.isEmpty (.config
    "cannot discard a JSONL session admission after recording events")
  match recorder.session with
  | none => throwApp (.config
      "cannot discard a JSONL recorder without session admission")
  | some session =>
      requireApp (session.isOpen && !session.terminalAttempted) (.config
        "cannot discard a closed JSONL session admission")
      let rowCleanup ← (discardRunningSessionRun session.runId
        session.createdSession).attempt
      let logCleanup ← (removeFile (runJsonlPath session.runId)).attempt
      match rowCleanup, logCleanup with
      | .ok (), .ok () => pure ()
      | .error row, .ok () => throwApp row
      | .ok (), .error log => throwApp log
      | .error _, .error _ => throwApp (.config
          s!"failed to remove uncommitted run log {runJsonlPath session.runId}")

end JsonlEventRecorder

structure SqliteEventRecorder where
  runId : RunId
  state : RunState
  sessionRunOpen : Bool
  terminalAttempted : Bool

namespace SqliteEventRecorder

def create (runId : RunId) : SqliteEventRecorder :=
  { runId := runId, state := .new, sessionRunOpen := false,
    terminalAttempted := false }

def fromSession (runId : RunId) : SqliteEventRecorder :=
  { runId := runId, state := .new, sessionRunOpen := true,
    terminalAttempted := false }

def record (env : LedgerEnv) (recorder : SqliteEventRecorder)
    (event : HarnessEvent) :
    LedgerM (RecordedEvent × SqliteEventRecorder) := do
  requireApp (!(recorder.sessionRunOpen && event.isRunEnd)) (.config
    "SQLite session terminal events require an atomic session outcome")
  let (record, nextState) ← nextRecord env recorder.state event
  transaction (appendRecordIn env recorder.runId record)
  pure (record, { recorder with state := nextState })

/-- Commit the terminal event and the session outcome together. -/
def recordTerminal (env : LedgerEnv) (recorder : SqliteEventRecorder)
    (event : HarnessEvent) (outcome : SessionOutcome) :
    LedgerM (Recorded SqliteEventRecorder) :=
  if !recorder.sessionRunOpen then do
    match ← (record env recorder event).attempt with
    | .error error => pure (.error error, recorder)
    | .ok (record, recorded) => pure (.ok record, recorded)
  else do
    let attempted := { recorder with terminalAttempted := true }
    match ← (nextRecord env recorder.state event).attempt with
    | .error error => pure (.error error, attempted)
    | .ok (record, nextState) =>
        match ← (commitSessionTerminal env recorder.runId record
          outcome).attempt with
        | .error error => pure (.error error, attempted)
        | .ok () =>
            pure (.ok record, { attempted with
              state := nextState, sessionRunOpen := false })

def finishRun (env : LedgerEnv) (recorder : SqliteEventRecorder)
    (finalAnswer : String) : LedgerM (Recorded SqliteEventRecorder) :=
  recordTerminal env recorder (.runFinished recorder.runId)
    (finishedOutcome finalAnswer)

def failRun (env : LedgerEnv) (recorder : SqliteEventRecorder)
    (error : String) (canceled : Bool) :
    LedgerM (Recorded SqliteEventRecorder) :=
  recordTerminal env recorder (.runFailed recorder.runId error)
    (failedOutcome error canceled)

/-- `Drop`. -/
def drop (env : LedgerEnv) (recorder : SqliteEventRecorder) : LedgerM Unit :=
  if recorder.sessionRunOpen && !recorder.terminalAttempted then do
    let _ ← failRun env recorder droppedRunReason false
    pure ()
  else
    pure ()

end SqliteEventRecorder

/-- The hydration of the prompt from earlier turns may fail; its outcome is
given by the caller. -/
abbrev Hydration := List SessionTurn → Except AppError Unit

/-- `begin_session_recorder`. -/
def beginSessionRecorder (env : LedgerEnv) (hydrated : Hydration)
    (sessionId : String) (runId : RunId) (question : String)
    (createSession : Bool) : LedgerM SqliteEventRecorder := do
  let turns ← beginSessionRun env sessionId runId question createSession
  Program.ofExcept (hydrated turns)
  pure (.fromSession runId)

/-- `begin_default_jsonl_session_recorder`: the empty log comes first, then the
admission. -/
def beginDefaultJsonlSessionRecorder (env : LedgerEnv) (hydrated : Hydration)
    (sessionId : String) (runId : RunId) (question : String)
    (createSession : Bool) : LedgerM JsonlEventRecorder := do
  let recorder ← JsonlEventRecorder.create (runJsonlPath runId)
  match ← (beginSessionRun env sessionId runId question
    createSession).attempt with
  | .error error =>
      match ← (removeFile (runJsonlPath runId)).attempt with
      | .ok () => throwApp error
      | .error _ => throwApp (.config
          s!"failed to remove uncommitted run log {runJsonlPath runId}")
  | .ok turns =>
      let admitted := recorder.withSession runId createSession
      match hydrated turns with
      | .ok () => pure admitted
      | .error error =>
          match ← admitted.discardEmptySessionAdmission.attempt with
          | .ok () => throwApp error
          | .error _ => throwApp (.config
              "failed to discard uncommitted run admission")

end PlatoAgent
