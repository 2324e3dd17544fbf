import PlatoAgent.LedgerRecovery

/-!
# What the ledger transactions commit

One lemma for each transaction body says exactly when it commits and what it
leaves behind.  Callers use these lemmas and do not unfold the bodies.
-/

namespace PlatoAgent

open AtomicProgram

variable {before after : Workspace}

theorem transaction_run_of_commits {Result : Type} {body : Txn Result}
    {result : Result} (commits : body.Commits before result after) :
    (transaction body).run before = (.ok result, after) := by
  have ran : body.run before = .ok (result, after) := commits
  rw [transaction, Program.run_transact, ran]

theorem transaction_run_of_not_commits {Result : Type} {body : Txn Result}
    (refuses : ∀ result after, ¬ body.Commits before result after) :
    ∃ error, (transaction body).run before = (.error error, before) := by
  rw [transaction, Program.run_transact]
  cases ran : body.run before with
  | error error => exact ⟨error, rfl⟩
  | ok pair => exact absurd ran (refuses pair.1 pair.2)

/-- A transaction ends as it commits, or changes nothing. -/
theorem transaction_run_cases {Result : Type} (body : Txn Result)
    (before : Workspace) :
    (∃ result after, body.Commits before result after ∧
      (transaction body).run before = (.ok result, after)) ∨
    ((∀ result after, ¬ body.Commits before result after) ∧
      ∃ error, (transaction body).run before = (.error error, before)) := by
  by_cases commits : ∃ result after, body.Commits before result after
  · obtain ⟨result, after, commits⟩ := commits
    exact .inl ⟨result, after, commits, transaction_run_of_commits commits⟩
  · push Not at commits
    exact .inr ⟨commits, transaction_run_of_not_commits commits⟩

theorem guarantees_transaction {Result : Type} {body : Txn Result}
    {relation : Workspace → Workspace → Prop}
    (reflexive : ∀ workspace, relation workspace workspace)
    (committed : ∀ before result after,
      body.Commits before result after → relation before after) :
    (transaction body).Guarantees relation :=
  Program.guarantees_transact reflexive committed

@[simp]
theorem commits_touchSession {sessionId : String} {now : Int64}
    {result : Unit} :
    (touchSession sessionId now).Commits before result after ↔
      before.touch sessionId now = after :=
  Txn.commits_modify

/-- The run has a running row, and the result is its session. -/
@[simp]
theorem commits_runningSession {runId : RunId} {missing : AppError}
    {sessionId : String} :
    (runningSession runId missing).Commits before sessionId after ↔
      before = after ∧ ∃ row,
        before.sessionRuns.rows.find? (·.isRunning runId) = some row ∧
          row.sessionId = sessionId := by
  unfold runningSession
  simp only [Txn.commits_bind, Txn.commits_get]
  cases found : before.sessionRuns.rows.find? (·.isRunning runId) with
  | none => simp [found]
  | some row => simp [found, and_comm]

@[simp]
theorem commits_updateRunningSessionOutcome {runId : RunId}
    {outcome : SessionOutcome} {now : Int64} {result : Unit} :
    (updateRunningSessionOutcome runId outcome now).Commits before result
        after ↔
      (∃ row ∈ before.sessionRuns, row.isRunning runId = true) ∧
        before.closeRun runId outcome now = after := by
  unfold updateRunningSessionOutcome
  simp only [Txn.commits_bind, Txn.commits_get]
  by_cases running : before.sessionRuns.rows.any (·.isRunning runId) = true
  · have present : ∃ row ∈ before.sessionRuns, row.isRunning runId = true := by
      simpa [UniqueTable.mem_iff] using running
    simp [running, present]
  · have absent : ¬ ∃ row ∈ before.sessionRuns, row.isRunning runId = true := by
      simpa [UniqueTable.mem_iff] using running
    simp [running, absent]

@[simp]
theorem commits_insertSessionRun {row : SessionRun} {result : Unit} :
    (insertSessionRun row).Commits before result after ↔
      ∃ sessionRuns, before.sessionRuns.insert? row = some sessionRuns ∧
        { before with sessionRuns := sessionRuns } = after := by
  unfold insertSessionRun
  simp only [Txn.commits_bind, Txn.commits_get]
  cases inserted : before.sessionRuns.insert? row with
  | none => simp [inserted]
  | some sessionRuns => simp [inserted]

@[simp]
theorem commits_insertSession {row : SessionRow} {result : Unit} :
    (insertSession row).Commits before result after ↔
      ∃ sessions, before.sessions.insert? row = some sessions ∧
        { before with sessions := sessions } = after := by
  unfold insertSession
  simp only [Txn.commits_bind, Txn.commits_get]
  cases inserted : before.sessions.insert? row with
  | none => simp [inserted]
  | some sessions => simp [inserted]

@[simp]
theorem commits_refuseActiveRun {sessionId : String} {result : Unit} :
    (refuseActiveRun sessionId).Commits before result after ↔
      before.activeRun sessionId = none ∧ before = after := by
  unfold refuseActiveRun
  simp only [Txn.commits_bind, Txn.commits_get]
  cases active : before.activeRun sessionId with
  | none => simp [active]
  | some runId => simp [active]

/-- Admission appends one running row to a session without an active run, at
the next index; logs and events are not touched. -/
theorem commits_admitSessionRun {sessionId : String} {runId : RunId}
    {question : String} {createSession : Bool} {now : Int64} {result : Unit}
    (commits : (admitSessionRun sessionId runId question createSession
      now).Commits before result after) :
    before.activeRun sessionId = none ∧
      ∃ sessionIndex, before.nextSessionIndex sessionId = .ok sessionIndex ∧
        before.sessionRuns.insert?
          (admittedRow sessionId runId question sessionIndex now) =
            some after.sessionRuns ∧
        after.ledgerEvents = before.ledgerEvents ∧
        after.files = before.files ∧
        after.clockReadings = before.clockReadings := by
  unfold admitSessionRun at commits
  simp only [Txn.commits_bind, Txn.commits_get, Txn.commits_require,
    commits_refuseActiveRun, Txn.commits_lift, commits_insertSessionRun,
    commits_touchSession] at commits
  obtain ⟨_, _, ⟨rfl, rfl⟩, _, _, ⟨_, rfl⟩, _, _, ⟨inactive, rfl⟩, _, middle,
    sessionAdded, _, _, ⟨rfl, rfl⟩, sessionIndex, _, ⟨index, rfl⟩, _, _,
    ⟨sessionRuns, inserted, rfl⟩, rfl⟩ := commits
  have kept : middle.sessionRuns = before.sessionRuns ∧
      middle.ledgerEvents = before.ledgerEvents ∧
      middle.files = before.files ∧
      middle.clockReadings = before.clockReadings := by
    split at sessionAdded
    · obtain ⟨_, rfl⟩ := Txn.commits_pure.mp sessionAdded
      exact ⟨rfl, rfl, rfl, rfl⟩
    · obtain ⟨_, _, rfl⟩ := commits_insertSession.mp sessionAdded
      exact ⟨rfl, rfl, rfl, rfl⟩
  have sameIndex : middle.nextSessionIndex sessionId =
      before.nextSessionIndex sessionId := by
    simp only [Workspace.nextSessionIndex, Workspace.sessionRows, kept.1]
  refine ⟨inactive, sessionIndex, ?_, ?_, kept.2⟩
  · rw [← sameIndex]
    exact index
  · rw [← kept.1]
    exact inserted

/-- A committed append added the row, or found the identical row. -/
theorem commits_insertEventRow {row : LedgerEventRow} {record : RecordedEvent}
    {result : Unit}
    (commits : (insertEventRow row record).Commits before result after) :
    (∃ ledgerEvents, before.ledgerEvents.insert? row = some ledgerEvents ∧
        after = { before with ledgerEvents := ledgerEvents }) ∨
      (before.ledgerEvents.insert? row = none ∧ after = before) := by
  unfold insertEventRow at commits
  simp only [Txn.commits_bind, Txn.commits_get] at commits
  obtain ⟨_, _, ⟨rfl, rfl⟩, commits⟩ := commits
  cases inserted : before.ledgerEvents.insert? row with
  | some ledgerEvents =>
      rw [inserted] at commits
      exact .inl ⟨ledgerEvents, rfl, (Txn.commits_set.mp commits).symm⟩
  | none =>
      rw [inserted] at commits
      refine .inr ⟨rfl, ?_⟩
      dsimp only at commits
      split at commits
      · exact absurd commits Txn.not_commits_throw
      · simp only [Txn.commits_bind, Txn.commits_lift,
          Txn.commits_require] at commits
        obtain ⟨_, _, ⟨_, rfl⟩, _, rfl⟩ := commits
        rfl

/-- The columns under which a record is stored, when it can be stored. -/
def eventRowOf (env : LedgerEnv) (runId : RunId) (record : RecordedEvent) :
    LedgerEventRow :=
  { runId := runId, seq := record.seq.toInt64,
    occurredAtMs := record.occurredAtMs.toInt64, v := ledgerVersion,
    eventJson := env.serdeJson.toString record.event }

theorem commits_appendRecordIn {env : LedgerEnv} {runId : RunId}
    {record : RecordedEvent} {result : Unit} :
    (appendRecordIn env runId record).Commits before result after ↔
      record.event.zeroRevision = false ∧ record.seq.toNat < 2 ^ 63 ∧
        record.occurredAtMs.toNat < 2 ^ 63 ∧
        (insertEventRow (eventRowOf env runId record) record).Commits before
          result after := by
  unfold appendRecordIn
  simp only [Txn.commits_bind, Txn.commits_lift, sqliteI64_ok_iff,
    validateLedgerIdentity_current]
  constructor
  · rintro ⟨_, _, ⟨valid, rfl⟩, _, _, ⟨⟨seqFits, rfl⟩, rfl⟩, _, _,
      ⟨⟨timeFits, rfl⟩, rfl⟩, inserted⟩
    refine ⟨?_, seqFits, timeFits, inserted⟩
    by_contra zero
    simp [zero] at valid
  · rintro ⟨valid, seqFits, timeFits, inserted⟩
    exact ⟨(), before, by simp [valid], _, _, ⟨⟨seqFits, rfl⟩, rfl⟩, _, _,
      ⟨⟨timeFits, rfl⟩, rfl⟩, inserted⟩

/-- An append changes the event rows only. -/
theorem appendRecordIn_frame {env : LedgerEnv} {runId : RunId}
    {record : RecordedEvent} {result : Unit}
    (commits : (appendRecordIn env runId record).Commits before result after) :
    after = { before with ledgerEvents := after.ledgerEvents } := by
  obtain ⟨_, _, _, inserted⟩ := commits_appendRecordIn.mp commits
  rcases commits_insertEventRow inserted with ⟨_, _, rfl⟩ | ⟨_, rfl⟩ <;> rfl

theorem commits_completeTerminalIn {runId : RunId} {outcome : SessionOutcome}
    {now : Int64} {result : Unit} :
    (completeTerminalIn runId outcome now).Commits before result after ↔
      ∃ row, before.sessionRuns.rows.find? (·.isRunning runId) = some row ∧
        (before.closeRun runId outcome now).touch row.sessionId now =
          after := by
  unfold completeTerminalIn
  simp only [Txn.commits_bind, commits_runningSession,
    commits_updateRunningSessionOutcome, commits_touchSession]
  constructor
  · rintro ⟨_, _, ⟨rfl, row, found, rfl⟩, _, _, ⟨_, rfl⟩, rfl⟩
    exact ⟨row, found, rfl⟩
  · rintro ⟨row, found, rfl⟩
    have present := List.mem_of_find?_eq_some found
    have running := List.find?_some found
    exact ⟨row.sessionId, before, ⟨rfl, row, found, rfl⟩, (), _,
      ⟨⟨row, present, running⟩, rfl⟩, rfl⟩

theorem commits_commitTerminalIn {env : LedgerEnv} {runId : RunId}
    {record : RecordedEvent} {outcome : SessionOutcome} {now : Int64}
    {result : Unit}
    (commits : (commitTerminalIn env runId record outcome now).Commits before
      result after) :
    ∃ row middle,
      before.sessionRuns.rows.find? (·.isRunning runId) = some row ∧
        (appendRecordIn env runId record).Commits before () middle ∧
        (middle.closeRun runId outcome now).touch row.sessionId now =
          after := by
  unfold commitTerminalIn at commits
  simp only [Txn.commits_bind, commits_runningSession,
    commits_updateRunningSessionOutcome, commits_touchSession] at commits
  obtain ⟨_, _, ⟨rfl, row, found, rfl⟩, _, middle, appended, _, _, ⟨_, rfl⟩,
    rfl⟩ := commits
  exact ⟨row, middle, found, appended, rfl⟩

theorem commits_discardRunIn {runId : RunId} {createdSession : Bool}
    {result : Unit}
    (commits : (discardRunIn runId createdSession).Commits before result
      after) :
    after.sessionRuns = (before.deleteRun runId).sessionRuns ∧
      after.ledgerEvents = before.ledgerEvents ∧
      after.files = before.files ∧
      after.clockReadings = before.clockReadings := by
  unfold discardRunIn at commits
  simp only [Txn.commits_bind, commits_runningSession,
    Txn.commits_modify] at commits
  obtain ⟨_, _, ⟨rfl, row, _, rfl⟩, _, _, rfl, cleaned⟩ := commits
  split at cleaned
  · rw [Txn.commits_modify] at cleaned
    subst cleaned
    exact ⟨rfl, rfl, rfl, rfl⟩
  · obtain ⟨_, rfl⟩ := Txn.commits_pure.mp cleaned
    exact ⟨rfl, rfl, rfl, rfl⟩

/-- The recovery of rows commits for a run with events that replay.  Either the
ledger names the outcome, or the interruption is appended first. -/
theorem commits_recoverRowsIn {env : LedgerEnv} {sessionId : String}
    {runId : RunId} {error : String} {now : Int64} {result : Unit} :
    (recoverRowsIn env sessionId runId error now).Commits before result
        after ↔
      ∃ records state outcome middle,
        readRunRecordsFrom env before runId = .ok records ∧ records ≠ [] ∧
        replayRecords records = .ok state ∧
        (recoveredOutcomeIn env runId error records state).Commits before
          outcome middle ∧
        (∃ row ∈ middle.sessionRuns, row.isRunning runId = true) ∧
        (middle.closeRun runId outcome now).touch sessionId now = after := by
  unfold recoverRowsIn
  simp only [Txn.commits_bind, Txn.commits_get, Txn.commits_lift,
    Txn.commits_require, commits_updateRunningSessionOutcome,
    commits_touchSession]
  constructor
  · rintro ⟨_, _, ⟨rfl, rfl⟩, records, _, ⟨read, rfl⟩, _, _, ⟨nonempty, rfl⟩,
      state, _, ⟨replayed, rfl⟩, outcome, middle, recovered, _, _,
      ⟨running, rfl⟩, rfl⟩
    exact ⟨records, state, outcome, middle, read, by simpa using nonempty,
      replayed, recovered, running, rfl⟩
  · rintro ⟨records, state, outcome, middle, read, nonempty, replayed,
      recovered, running, rfl⟩
    exact ⟨before, before, ⟨rfl, rfl⟩, records, before, ⟨read, rfl⟩, (),
      before, ⟨by simpa using nonempty, rfl⟩, state, before, ⟨replayed, rfl⟩,
      outcome, middle, recovered, (), _, ⟨running, rfl⟩, rfl⟩

theorem commits_recoveredOutcomeIn {env : LedgerEnv} {runId : RunId}
    {error : String} {records : List RecordedEvent} {state : RunState}
    {outcome : SessionOutcome}
    (commits : (recoveredOutcomeIn env runId error records state).Commits
      before outcome after) :
    (terminalOutcome runId records state.phase = some (.ok outcome) ∧
        before = after) ∨
      (terminalOutcome runId records state.phase = none ∧
        outcome = interruptedOutcome error ∧
        ∃ record nextState,
          nextRecordAt (env.clock before.clockReadings) state
            (.runFailed runId error) = .ok (record, nextState) ∧
          (appendRecordIn env runId record).Commits
            { before with clockReadings := before.clockReadings + 1 } ()
            after) := by
  unfold recoveredOutcomeIn at commits
  cases terminal : terminalOutcome runId records state.phase with
  | some known =>
      rw [terminal] at commits
      obtain ⟨rfl, rfl⟩ := Txn.commits_lift.mp commits
      exact .inl ⟨rfl, rfl⟩
  | none =>
      rw [terminal] at commits
      dsimp only at commits
      rw [Txn.commits_bind] at commits
      obtain ⟨occurredAtMs, middle, read, commits⟩ := commits
      have reading : env.clock before.clockReadings = occurredAtMs ∧
          { before with clockReadings := before.clockReadings + 1 } =
            middle := by
        simpa [Txn.Commits, Txn.nowMs, StateT.run] using read
      obtain ⟨rfl, rfl⟩ := reading
      simp only [Txn.commits_bind, Txn.commits_lift,
        Txn.commits_pure] at commits
      obtain ⟨⟨record, nextState⟩, _, ⟨next, rfl⟩, _, _, appended, rfl,
        rfl⟩ := commits
      exact .inr ⟨rfl, rfl, record, nextState, next, appended⟩

end PlatoAgent
