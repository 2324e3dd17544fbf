import PlatoAgent.LedgerJsonl

/-!
# The SQLite ledger

Event rows, session admission, session outcomes and the SQLite recorder.  The
bodies of transactions follow the statements of the source in order; a failed
statement rolls the whole transaction back.
-/

namespace PlatoAgent

open AtomicProgram

namespace Workspace

/-- `SELECT … FROM ledger_events WHERE run_id = ?1 ORDER BY seq ASC`. -/
def eventRows (workspace : Workspace) (runId : RunId) : List LedgerEventRow :=
  (workspace.ledgerEvents.rows.filter (·.runId == runId)).insertionSort
    fun first second => first.seq ≤ second.seq

end Workspace

def sqliteRecordFromRow (env : LedgerEnv) (row : LedgerEventRow) :
    Except AppError RecordedEvent := do
  if ¬ supportedLedgerVersion row.v then
    throw (.ledgerVersion ledgerVersion row.v)
  match env.serdeJson.fromStr row.eventJson with
  | none => throw .sqlite
  | some event =>
      validateLedgerIdentity row.v event
      let seq ← rowU64 row.seq
      let occurredAtMs ← rowU64 row.occurredAtMs
      pure { seq := seq, occurredAtMs := occurredAtMs, event := event }

def readRunRecordsFrom (env : LedgerEnv) (workspace : Workspace)
    (runId : RunId) : Except AppError (List RecordedEvent) :=
  (workspace.eventRows runId).mapM (sqliteRecordFromRow env)

/-- `INSERT OR IGNORE`; an ignored row is accepted only when it is identical
to the row it would replace. -/
def insertEventRow (row : LedgerEventRow) (record : RecordedEvent) :
    Txn Unit := do
  let workspace ← get
  match workspace.ledgerEvents.insert? row with
  | some inserted => set { workspace with ledgerEvents := inserted }
  | none =>
      match workspace.ledgerEvents.rows.find? fun existing =>
        existing.runId == row.runId && existing.seq == row.seq with
      | none => throw .sqlite
      | some existing => do
          let occurredAtMs ← rowU64 existing.occurredAtMs
          Txn.require
            (occurredAtMs == record.occurredAtMs &&
              existing.v == ledgerVersion &&
              existing.eventJson == row.eventJson)
            (.ledgerConflict row.runId.value record.seq)

def appendRecordIn (env : LedgerEnv) (runId : RunId) (record : RecordedEvent) :
    Txn Unit := do
  validateLedgerIdentity ledgerVersion record.event
  let eventJson := env.serdeJson.toString record.event
  let seq ← sqliteI64 record.seq "seq"
  let occurredAtMs ← sqliteI64 record.occurredAtMs "occurred_at_ms"
  insertEventRow
    { runId := runId, seq := seq, occurredAtMs := occurredAtMs,
      v := ledgerVersion, eventJson := eventJson }
    record

/-- `validate_record_run_ids`: the first record of another run is an error. -/
def validateRecordRunIds (selected : RunId) :
    List RecordedEvent → Except AppError Unit
  | [] => .ok ()
  | record :: rest =>
      if record.event.runId ≠ selected then
        .error (.core (.runIdMismatch selected.value
          record.event.runId.value))
      else
        validateRecordRunIds selected rest

/-- The records of the run log if there is one, else those of the rows. -/
def storedRecords (env : LedgerEnv) (runId : RunId) (logged : Bool) :
    LedgerM (List RecordedEvent) :=
  if logged then do
    let records ← readRecords env (runJsonlPath runId)
    Program.ofExcept (validateRecordRunIds runId records)
    pure records
  else
    Program.inspect fun workspace => readRunRecordsFrom env workspace runId

/-- `SqliteLedger::read_run`. -/
def readRun (env : LedgerEnv) (runId : RunId) :
    LedgerM (List RecordedEvent) := do
  let logged ← fileExists (runJsonlPath runId)
  let records ← storedRecords env runId logged
  requireApp (!records.isEmpty) (.runNotFound runId.value)
  pure records

structure SessionTurn where
  question : String
  finalAnswer : String
  deriving DecidableEq, Repr

/-- `run_id = ?1 AND status = 'running'`. -/
def SessionRun.isRunning (runId : RunId) (row : SessionRun) : Bool :=
  row.runId == runId && row.status == .running

namespace Workspace

def sessionExists (workspace : Workspace) (sessionId : String) : Bool :=
  workspace.sessions.rows.any (·.sessionId == sessionId)

/-- The rows of a session in `session_index` order. -/
def sessionRows (workspace : Workspace) (sessionId : String) :
    List SessionRun :=
  (workspace.sessionRuns.rows.filter (·.sessionId == sessionId)).insertionSort
    fun first second => first.sessionIndex ≤ second.sessionIndex

def activeRun (workspace : Workspace) (sessionId : String) : Option RunId :=
  ((workspace.sessionRows sessionId).find? (·.status == .running)).map (·.runId)

/-- `COALESCE(MAX(session_index) + 1, 0)`, read as an `i64`. -/
def nextSessionIndex (workspace : Workspace) (sessionId : String) :
    Except AppError Int64 :=
  match ((workspace.sessionRows sessionId).map (·.sessionIndex)).max? with
  | none => .ok 0
  | some greatest =>
      if greatest = Int64.maxValue then .error .sqlite else .ok (greatest + 1)

def sessionTurns (workspace : Workspace) (sessionId : String) :
    Except AppError (List SessionTurn) :=
  if workspace.sessionExists sessionId then
    .ok <| (workspace.sessionRows sessionId).filterMap fun row =>
      match row.status, row.finalAnswer with
      | .finished, some finalAnswer =>
          some { question := row.question, finalAnswer := finalAnswer }
      | _, _ => none
  else
    .error (.sessionNotFound sessionId)

end Workspace

/-- `UPDATE sessions SET updated_at_ms = ?2 WHERE session_id = ?1`. -/
def Workspace.touch (workspace : Workspace) (sessionId : String)
    (now : Int64) : Workspace :=
  { workspace with
    sessions := workspace.sessions.update (·.sessionId == sessionId)
      (fun row => { row with updatedAtMs := now }) fun _ => rfl }

def touchSession (sessionId : String) (now : Int64) : Txn Unit :=
  modify (·.touch sessionId now)

/-- `INSERT INTO sessions`; a broken constraint is an error. -/
def insertSession (row : SessionRow) : Txn Unit := do
  let workspace ← get
  match workspace.sessions.insert? row with
  | none => throw .sqlite
  | some sessions => set { workspace with sessions := sessions }

/-- `INSERT INTO session_runs`; a broken constraint is an error. -/
def insertSessionRun (row : SessionRun) : Txn Unit := do
  let workspace ← get
  match workspace.sessionRuns.insert? row with
  | none => throw .sqlite
  | some sessionRuns => set { workspace with sessionRuns := sessionRuns }

def refuseActiveRun (sessionId : String) : Txn Unit := do
  let workspace ← get
  match workspace.activeRun sessionId with
  | some activeRunId => throw (.sessionActive sessionId activeRunId.value)
  | none => pure ()

/-- A row as admission writes it. -/
def admittedRow (sessionId : String) (runId : RunId) (question : String)
    (sessionIndex now : Int64) : SessionRun :=
  { sessionId := sessionId, runId := runId, sessionIndex := sessionIndex,
    question := question, finalAnswer := none, status := .running,
    error := none, createdAtMs := now, updatedAtMs := now }

/-- The transaction of `begin_session_run`. -/
def admitSessionRun (sessionId : String) (runId : RunId) (question : String)
    (createSession : Bool) (now : Int64) : Txn Unit := do
  let start ← get
  Txn.require (start.sessionExists sessionId || createSession)
    (.sessionNotFound sessionId)
  refuseActiveRun sessionId
  (if start.sessionExists sessionId then pure () else insertSession
    { sessionId := sessionId, createdAtMs := now, updatedAtMs := now })
  let workspace ← get
  let sessionIndex ← workspace.nextSessionIndex sessionId
  insertSessionRun (admittedRow sessionId runId question sessionIndex now)
  touchSession sessionId now

def beginSessionRun (env : LedgerEnv) (sessionId : String) (runId : RunId)
    (question : String) (createSession : Bool) :
    LedgerM (List SessionTurn) := do
  let now ← nowColumn env
  transaction (admitSessionRun sessionId runId question createSession now)
  Program.inspect fun workspace => workspace.sessionTurns sessionId

/-- The session of the run's running row. -/
def runningSession (runId : RunId) (missing : AppError) : Txn String := do
  let workspace ← get
  match workspace.sessionRuns.rows.find? (·.isRunning runId) with
  | none => throw missing
  | some row => pure row.sessionId

/-- `DELETE FROM session_runs WHERE run_id = ?1 AND status = 'running'`. -/
def Workspace.deleteRun (workspace : Workspace) (runId : RunId) : Workspace :=
  { workspace with
    sessionRuns := workspace.sessionRuns.delete (·.isRunning runId) }

/-- Delete the session unless a run refers to it. -/
def Workspace.deleteEmptySession (workspace : Workspace)
    (sessionId : String) : Workspace :=
  { workspace with
    sessions := workspace.sessions.delete fun session =>
      session.sessionId == sessionId &&
        !workspace.sessionRuns.rows.any (·.sessionId == sessionId) }

def discardRunIn (runId : RunId) (createdSession : Bool) : Txn Unit := do
  let sessionId ← runningSession runId (.config
    s!"running session admission is unavailable for cleanup: {runId.value}")
  modify (·.deleteRun runId)
  if createdSession then
    modify (·.deleteEmptySession sessionId)

def discardRunningSessionRun (runId : RunId) (createdSession : Bool) :
    LedgerM Unit :=
  transaction (discardRunIn runId createdSession)

/-- What a closed session run shows: its status, answer and error. -/
structure SessionOutcome where
  status : RunStateName
  finalAnswer : Option String
  error : Option String
  deriving DecidableEq, Repr

def SessionRun.close (outcome : SessionOutcome) (now : Int64)
    (row : SessionRun) : SessionRun :=
  { row with
    status := outcome.status, finalAnswer := outcome.finalAnswer,
    error := outcome.error, updatedAtMs := now }

/-- The `UPDATE session_runs` of `update_running_session_outcome`. -/
def Workspace.closeRun (workspace : Workspace) (runId : RunId)
    (outcome : SessionOutcome) (now : Int64) : Workspace :=
  { workspace with
    sessionRuns := workspace.sessionRuns.update (·.isRunning runId)
      (SessionRun.close outcome now) fun _ => rfl }

/-- Close the run's running row; without one, an error. -/
def updateRunningSessionOutcome (runId : RunId) (outcome : SessionOutcome)
    (now : Int64) : Txn Unit := do
  let workspace ← get
  if workspace.sessionRuns.rows.any (·.isRunning runId) then
    set (workspace.closeRun runId outcome now)
  else
    throw (.runNotFound runId.value)

def commitTerminalIn (env : LedgerEnv) (runId : RunId)
    (record : RecordedEvent) (outcome : SessionOutcome) (now : Int64) :
    Txn Unit := do
  let sessionId ← runningSession runId (.runNotFound runId.value)
  appendRecordIn env runId record
  updateRunningSessionOutcome runId outcome now
  touchSession sessionId now

/-- The terminal event and the session outcome in one transaction. -/
def commitSessionTerminal (env : LedgerEnv) (runId : RunId)
    (record : RecordedEvent) (outcome : SessionOutcome) : LedgerM Unit := do
  let now ← nowColumn env
  transaction (commitTerminalIn env runId record outcome now)

def completeTerminalIn (runId : RunId) (outcome : SessionOutcome)
    (now : Int64) : Txn Unit := do
  let sessionId ← runningSession runId (.runNotFound runId.value)
  updateRunningSessionOutcome runId outcome now
  touchSession sessionId now

/-- The session outcome of a run whose terminal event is in its log. -/
def completeSessionTerminal (env : LedgerEnv) (runId : RunId)
    (outcome : SessionOutcome) : LedgerM Unit := do
  let now ← nowColumn env
  transaction (completeTerminalIn runId outcome now)

/-- The content of the event's assistant message. -/
def HarnessEvent.assistantAnswer : HarnessEvent → Option String
  | .modelResponded _ _ _ output _ _ _ =>
      if output.role = .assistant then some output.content else none
  | _ => none

def finalAnswerFromRecords (runId : RunId) (records : List RecordedEvent) :
    Except AppError String :=
  match records.reverse.findSome? (·.event.assistantAnswer) with
  | some answer => .ok answer
  | none => .error (.config
      s!"finished session run {runId.value} has no final assistant answer")

def runCanceledReason : String := "run canceled"

def failureStatus (reason : String) : RunStateName :=
  if reason = runCanceledReason then .canceled else .failed

/-- The outcome of a run that the caller declares finished. -/
def finishedOutcome (finalAnswer : String) : SessionOutcome :=
  { status := .finished, finalAnswer := some finalAnswer, error := none }

/-- The outcome of a run that the caller declares failed or canceled. -/
def failedOutcome (error : String) (canceled : Bool) : SessionOutcome :=
  { status := if canceled then .canceled else .failed, finalAnswer := none,
    error := some error }

def replayRunState (env : LedgerEnv) (runId : RunId) :
    LedgerM (List RecordedEvent × RunState) := do
  let records ← readRun env runId
  let state ← Program.ofExcept (replayRecords records)
  pure (records, state)

/-- The terminal record that `finish_session_run` commits: the one in the
ledger if the run is finished, else the next one. -/
def finishRecord (env : LedgerEnv) (runId : RunId) (finalAnswer : String)
    (records : List RecordedEvent) (state : RunState) :
    LedgerM RecordedEvent :=
  match state.phase, records.getLast? with
  -- A finished run has a last record, so the pair only names it.
  | .finished, some last => do
      let durableAnswer ←
        Program.ofExcept (finalAnswerFromRecords runId records)
      requireApp (durableAnswer == finalAnswer) (.config
        s!"finished session run {runId.value} answer does not match its ledger")
      pure last
  | _, _ => do
      let (record, _) ← nextRecord env state (.runFinished runId)
      pure record

def finishSessionRun (env : LedgerEnv) (runId : RunId)
    (finalAnswer : String) : LedgerM Unit := do
  let (records, state) ← replayRunState env runId
  let record ← finishRecord env runId finalAnswer records state
  commitSessionTerminal env runId record (finishedOutcome finalAnswer)

/-- The terminal record that `fail_session_run` commits. -/
def failRecord (env : LedgerEnv) (runId : RunId) (error : String)
    (records : List RecordedEvent) (state : RunState) :
    LedgerM RecordedEvent :=
  match state.phase, records.getLast? with
  | .failed reason, some last => do
      requireApp (reason == error) (.config
        s!"failed session run {runId.value} error does not match its ledger")
      pure last
  | _, _ => do
      let (record, _) ← nextRecord env state (.runFailed runId error)
      pure record

def failSessionRun (env : LedgerEnv) (runId : RunId) (error : String)
    (canceled : Bool) : LedgerM Unit := do
  let (records, state) ← replayRunState env runId
  let record ← failRecord env runId error records state
  commitSessionTerminal env runId record (failedOutcome error canceled)

end PlatoAgent
