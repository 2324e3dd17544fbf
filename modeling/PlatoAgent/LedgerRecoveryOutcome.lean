import PlatoAgent.LedgerRows
import PlatoAgent.LedgerTornTail

/-!
# The outcome of a recovery

The outcome that recovery stores for a running session run is a function of the
run's ledger alone: of the log if there is one, else of the rows.  Closing the
row and appending to the ledger are the only durable effects.
-/

namespace PlatoAgent

open AtomicProgram

/-- The records of a run as recovery reads them. -/
def ledgerRecords (env : LedgerEnv) (workspace : Workspace) (runId : RunId) :
    Except AppError (List RecordedEvent) :=
  match workspace.files (runJsonlPath runId) with
  | some bytes => recordsOf env bytes
  | none => readRunRecordsFrom env workspace runId

/-- Recovery can end a run that is not over: an empty log is given its first
event, other ledgers have to belong to the run and have room for one more
record. -/
def endable (runId : RunId) (logged : Bool) (records : List RecordedEvent)
    (state : RunState) : Bool :=
  if records.isEmpty then
    logged
  else
    state.runId == some runId && (logged || decide (records.length < 2 ^ 63))

def recoveredOutcome (error : String) (runId : RunId) (logged : Bool)
    (records : List RecordedEvent) (state : RunState) :
    Option SessionOutcome :=
  match terminalOutcome runId records state.phase with
  | some outcome => outcome.toOption
  | none =>
      if endable runId logged records state then
        some (interruptedOutcome error)
      else
        none

/-- The outcome that recovery stores for a running run, unless it fails. -/
def recoveryOutcome (env : LedgerEnv) (error : String) (workspace : Workspace)
    (runId : RunId) : Option SessionOutcome :=
  match ledgerRecords env workspace runId with
  | .error _ => none
  | .ok records =>
      match RunState.replay records with
      | .error _ => none
      | .ok state => recoveredOutcome error runId
          (workspace.files (runJsonlPath runId)).isSome records state

variable {env : LedgerEnv} {error : String} {workspace after cut : Workspace}
  {runId : RunId} {records : List RecordedEvent} {state : RunState}

theorem recoveryOutcome_of_ledger
    (read : ledgerRecords env workspace runId = .ok records)
    (replayed : RunState.replay records = .ok state) :
    recoveryOutcome env error workspace runId =
      recoveredOutcome error runId
        (workspace.files (runJsonlPath runId)).isSome records state := by
  rw [recoveryOutcome, read]
  dsimp only
  rw [replayed]

theorem recoveryOutcome_eq_some_iff {outcome : SessionOutcome} :
    recoveryOutcome env error workspace runId = some outcome ↔
      ∃ records state, ledgerRecords env workspace runId = .ok records ∧
        RunState.replay records = .ok state ∧
        recoveredOutcome error runId
          (workspace.files (runJsonlPath runId)).isSome records state =
            some outcome := by
  unfold recoveryOutcome
  cases read : ledgerRecords env workspace runId with
  | error failure => simp
  | ok records =>
      dsimp only
      cases replayed : RunState.replay records with
      | error failure => simp [replayed]
      | ok state => simp [replayed]

theorem recoveredOutcome_eq_some_iff {logged : Bool}
    {outcome : SessionOutcome} :
    recoveredOutcome error runId logged records state = some outcome ↔
      terminalOutcome runId records state.phase = some (.ok outcome) ∨
        (terminalOutcome runId records state.phase = none ∧
          endable runId logged records state = true ∧
          outcome = interruptedOutcome error) := by
  unfold recoveredOutcome
  cases terminal : terminalOutcome runId records state.phase with
  | none =>
      by_cases canEnd : endable runId logged records state = true
      · simpa [canEnd] using eq_comm
      · simp [canEnd]
  | some result => cases result <;> simp [Except.toOption]

/-- The clock stays within the range of integer columns. -/
def ClockFits (env : LedgerEnv) : Prop :=
  ∀ reading, (env.clock reading).toNat < 2 ^ 63

theorem nowColumn_run (fits : ClockFits env) (workspace : Workspace) :
    (nowColumn env).run workspace =
      (.ok (env.clock workspace.clockReadings).toInt64, workspace.tick) := by
  rw [nowColumn, Program.run_bind_ok (nowMs_run env workspace),
    sqliteI64_ok_iff.mpr ⟨fits _, rfl⟩]
  rfl

theorem nowColumn_passes :
    (nowColumn env).Passes workspace cut →
      cut = workspace ∨ cut = workspace.tick := by
  rw [nowColumn, Program.passes_bind, nowMs_passes]
  rintro (early | ⟨now, middle, read, late⟩)
  · exact early
  · obtain ⟨_, rfl⟩ := Prod.mk.inj read
    exact .inr late

/-- The run has a row that is still running. -/
def Running (workspace : Workspace) (runId : RunId) : Prop :=
  ∃ row ∈ workspace.sessionRuns, row.isRunning runId = true

theorem Running.find (running : Running workspace runId) :
    ∃ row, workspace.sessionRuns.rows.find? (·.isRunning runId) = some row := by
  obtain ⟨row, member, isRunning⟩ := running
  exact Option.isSome_iff_exists.mp
    (List.find?_isSome.mpr ⟨row, member, isRunning⟩)

/-- The session rows are those before with the run's row closed. -/
def ClosedWith (runId : RunId) (outcome : SessionOutcome)
    (workspace after : Workspace) : Prop :=
  ∃ now, after.sessionRuns =
    (workspace.closeRun runId outcome now).sessionRuns

/-- Files and event rows are as before. -/
structure SameLedgers (workspace after : Workspace) : Prop where
  files : after.files = workspace.files
  ledgerEvents : after.ledgerEvents = workspace.ledgerEvents

theorem completeSessionTerminal_run (fits : ClockFits env)
    (running : Running workspace runId) (outcome : SessionOutcome) :
    ∃ after,
      (completeSessionTerminal env runId outcome).run workspace =
        (.ok (), after) ∧
      ClosedWith runId outcome workspace after ∧
      SameLedgers workspace after := by
  obtain ⟨row, found⟩ := running.find
  let now := (env.clock workspace.clockReadings).toInt64
  have commits : (completeTerminalIn runId outcome now).Commits workspace.tick
      () ((workspace.tick.closeRun runId outcome now).touch row.sessionId
        now) :=
    commits_completeTerminalIn.mpr ⟨row, found, rfl⟩
  refine ⟨(workspace.tick.closeRun runId outcome now).touch row.sessionId now,
    ?_, ⟨now, rfl⟩, rfl, rfl⟩
  rw [completeSessionTerminal,
    Program.run_bind_ok (nowColumn_run fits workspace)]
  exact transaction_run_of_commits commits

/-- A transaction with a timestamp is cut before it, or it is done. -/
theorem nowColumn_transaction_passes {body : Int64 → Txn Unit}
    (passes : (nowColumn env >>= fun now => transaction (body now)).Passes
      workspace cut) :
    cut = workspace ∨ cut = workspace.tick ∨
      cut = ((nowColumn env >>= fun now => transaction (body now)).run
        workspace).2 := by
  have started : ∀ {cut}, (nowColumn env).Passes workspace cut →
      cut = workspace ∨ cut = workspace.tick ∨
        cut = ((nowColumn env >>= fun now => transaction (body now)).run
          workspace).2 := by
    intro cut early
    rcases nowColumn_passes early with same | ticked
    · exact .inl same
    · exact .inr (.inl ticked)
  rw [Program.passes_bind] at passes
  rcases passes with early | ⟨now, middle, read, late⟩
  · exact started early
  · rw [transaction, Program.passes_transact] at late
    rcases late with before | done
    · have reached := (nowColumn env).passes_end workspace
      rw [read] at reached
      rw [before]
      exact started reached
    · rw [Program.run_bind_ok read]
      exact .inr (.inr done)

/-- The bytes of the log up to its last newline. -/
def committedLog (workspace : Workspace) (runId : RunId) :
    Option (List UInt8) :=
  (workspace.files (runJsonlPath runId)).map fun bytes =>
    bytes.take (committedLength bytes)

/-- The ledger is the one before with these records appended. -/
structure Appends (env : LedgerEnv) (runId : RunId)
    (workspace after : Workspace) (added : List RecordedEvent) : Prop where
  log : committedLog after runId =
    (committedLog workspace runId).map (· ++ logBytes env added)
  rows : after.eventRows runId = workspace.eventRows runId ++
    if (committedLog workspace runId).isSome then []
    else added.map (eventRowOf env runId)
  replays : added ≠ [] → ∃ records state,
    ledgerRecords env workspace runId = .ok records ∧
    ledgerRecords env after runId = .ok (records ++ added) ∧
    RunState.replay (records ++ added) = .ok state

theorem recordsOf_take_committed (env : LedgerEnv) (bytes : List UInt8) :
    recordsOf env (bytes.take (committedLength bytes)) =
      recordsOf env bytes := by
  obtain ⟨committed, torn, rfl, complete, tail⟩ := exists_committed bytes
  rw [take_committedLength complete tail, recordsOf_torn env complete tail]

/-- Torn bytes do not count. -/
theorem ledgerRecords_eq (env : LedgerEnv) (workspace : Workspace)
    (runId : RunId) :
    ledgerRecords env workspace runId =
      match committedLog workspace runId with
      | some committed => recordsOf env committed
      | none => (workspace.eventRows runId).mapM (sqliteRecordFromRow env) := by
  unfold ledgerRecords committedLog
  cases workspace.files (runJsonlPath runId) with
  | none => rfl
  | some bytes => exact (recordsOf_take_committed env bytes).symm

theorem isSome_committedLog (workspace : Workspace) (runId : RunId) :
    (committedLog workspace runId).isSome =
      (workspace.files (runJsonlPath runId)).isSome := by
  simp [committedLog]

theorem Appends.isSome_log {added : List RecordedEvent}
    (appends : Appends env runId workspace after added) :
    (committedLog after runId).isSome =
      (committedLog workspace runId).isSome := by
  simp [appends.log]

theorem Appends.ledgerRecords_nil
    (appends : Appends env runId workspace after []) :
    ledgerRecords env after runId = ledgerRecords env workspace runId := by
  have sameLog : committedLog after runId = committedLog workspace runId := by
    simpa [logBytes] using appends.log
  have sameRows : after.eventRows runId = workspace.eventRows runId := by
    simpa using appends.rows
  rw [ledgerRecords_eq, ledgerRecords_eq, sameLog, sameRows]

theorem Appends.of_same (log : committedLog after runId =
      committedLog workspace runId)
    (rows : after.eventRows runId = workspace.eventRows runId) :
    Appends env runId workspace after [] :=
  ⟨by simp [log, logBytes], by simp [rows], fun nonempty =>
    absurd rfl nonempty⟩

theorem Appends.trans {middle : Workspace}
    {first second : List RecordedEvent}
    (early : Appends env runId workspace middle first)
    (late : Appends env runId middle after second) :
    Appends env runId workspace after (first ++ second) := by
  refine ⟨?_, ?_, ?_⟩
  · rw [late.log, early.log]
    cases committedLog workspace runId <;> simp [logBytes]
  · rw [late.rows, early.rows, early.isSome_log]
    cases (committedLog workspace runId).isSome <;> simp
  · intro nonempty
    by_cases firstEmpty : first = []
    · subst firstEmpty
      rw [List.nil_append] at nonempty ⊢
      rw [← early.ledgerRecords_nil]
      exact late.replays nonempty
    · obtain ⟨records, state, read, readMiddle, replayed⟩ :=
        early.replays firstEmpty
      by_cases secondEmpty : second = []
      · subst secondEmpty
        rw [List.append_nil, late.ledgerRecords_nil]
        exact ⟨records, state, read, readMiddle, replayed⟩
      · obtain ⟨middleRecords, final, readMiddle', readAfter, replayedAfter⟩ :=
          late.replays secondEmpty
        rw [readMiddle] at readMiddle'
        obtain rfl := Except.ok.inj readMiddle'
        rw [List.append_assoc] at readAfter replayedAfter
        exact ⟨records, final, read, readAfter, replayedAfter⟩

end PlatoAgent
