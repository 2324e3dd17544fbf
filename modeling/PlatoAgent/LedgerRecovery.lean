import PlatoAgent.LedgerRecorders

/-!
# Recovery of interrupted session runs

At start the daemon closes every session run that is still marked running.  A
run with a JSONL log is closed in two durable steps, first the log and then the
row; a run without one is closed in a single transaction.
-/

namespace PlatoAgent

open AtomicProgram

/-- The identity recorded for a run that never started: agent `plato`. -/
def recoveredIdentity : RunIdentity :=
  .legacyAgent ⟨"plato", by decide⟩

/-- The outcome read back from a failure reason. -/
def storedFailureOutcome (reason : String) : SessionOutcome :=
  { status := failureStatus reason, finalAnswer := none, error := some reason }

/-- The outcome of a run whose ledger is already terminal. -/
def terminalOutcome (runId : RunId) (records : List RecordedEvent)
    (phase : RunPhase) : Option (Except AppError SessionOutcome) :=
  match phase with
  | .finished => some <| (finalAnswerFromRecords runId records).map
      finishedOutcome
  | .failed reason => some <| .ok (storedFailureOutcome reason)
  | _ => none

def interruptedOutcome (error : String) : SessionOutcome :=
  { status := .interrupted, finalAnswer := none, error := some error }

/-- The records of a log, after giving an empty log its first event. -/
def startedRecords (env : LedgerEnv) (recorder : JsonlEventRecorder)
    (runId : RunId) : LedgerM (JsonlEventRecorder × List RecordedEvent) := do
  let records ← readRecords env recorder.path
  if records.isEmpty then
    let (_, recorder) ← recorder.record env
      (.runStarted { runId := runId, identity := recoveredIdentity })
    let records ← readRecords env recorder.path
    pure (recorder, records)
  else
    pure (recorder, records)

def recoverJsonlSessionRun (env : LedgerEnv) (path : String) (runId : RunId)
    (error : String) : LedgerM Unit := do
  let recorder ← JsonlEventRecorder.reopen env path
  let (recorder, records) ← startedRecords env recorder runId
  let state ← Program.ofExcept (replayRecords records)
  match terminalOutcome runId records state.phase with
  | some outcome =>
      let outcome ← Program.ofExcept outcome
      completeSessionTerminal env runId outcome
  | none =>
      let _ ← recorder.record env (.runFailed runId error)
      completeSessionTerminal env runId (interruptedOutcome error)

/-- The outcome that recovery stores, after ending a run that is not over. -/
def recoveredOutcomeIn (env : LedgerEnv) (runId : RunId) (error : String)
    (records : List RecordedEvent) (state : RunState) : Txn SessionOutcome :=
  match terminalOutcome runId records state.phase with
  | some outcome => liftM outcome
  | none => do
      let occurredAtMs ← Txn.nowMs env
      let (record, _) ←
        nextRecordAt occurredAtMs state (.runFailed runId error)
      appendRecordIn env runId record
      pure (interruptedOutcome error)

def recoverRowsIn (env : LedgerEnv) (sessionId : String) (runId : RunId)
    (error : String) (now : Int64) : Txn Unit := do
  let records ← readRunRecordsFrom env (← get) runId
  Txn.require (!records.isEmpty) (.config
    s!"running session run {runId.value} has no ledger events")
  let state ← replayRecords records
  let outcome ← recoveredOutcomeIn env runId error records state
  updateRunningSessionOutcome runId outcome now
  touchSession sessionId now

def recoverSqliteSessionRun (env : LedgerEnv) (sessionId : String)
    (runId : RunId) (error : String) : LedgerM Unit := do
  let now ← nowColumn env
  transaction (recoverRowsIn env sessionId runId error now)

/-- `SELECT session_id, run_id … WHERE status = 'running'
ORDER BY session_id, session_index`. -/
def Workspace.runningRuns (workspace : Workspace) : List SessionRun :=
  (workspace.sessionRuns.rows.filter (·.status == .running)).insertionSort
    fun first second =>
      first.sessionId < second.sessionId ∨
        (first.sessionId = second.sessionId ∧
          first.sessionIndex ≤ second.sessionIndex)

/-- One iteration of the recovery loop. -/
def recoverSessionRun (env : LedgerEnv) (error : String) (row : SessionRun) :
    LedgerM Unit := do
  let logged ← fileExists (runJsonlPath row.runId)
  if logged then
    recoverJsonlSessionRun env (runJsonlPath row.runId) row.runId error
  else
    recoverSqliteSessionRun env row.sessionId row.runId error

/-- The loop stops at the first run that cannot be recovered. -/
def recoverEach (env : LedgerEnv) (error : String) :
    List SessionRun → LedgerM Unit
  | [] => pure ()
  | row :: rest => do
      recoverSessionRun env error row
      recoverEach env error rest

def recoverRunningSessionRuns (env : LedgerEnv) (error : String) :
    LedgerM Nat := do
  let runningRuns ← Program.inspect fun workspace => .ok workspace.runningRuns
  recoverEach env error runningRuns
  pure runningRuns.length

def interruptRunningSessionRuns (env : LedgerEnv) (error : String) :
    LedgerM Nat :=
  recoverRunningSessionRuns env error

end PlatoAgent
