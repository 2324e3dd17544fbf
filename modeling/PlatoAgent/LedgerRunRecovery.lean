import PlatoAgent.LedgerLogRecovery

/-!
# Recovery of one run

The recovery of a running session run, from its log or from its rows: what it
stores, what it appends, and what a cut of it leaves behind.
-/

namespace PlatoAgent

open AtomicProgram

variable {env : LedgerEnv} {error : String} {workspace after cut : Workspace}
  {runId : RunId} {records : List RecordedEvent} {state : RunState}

@[simp]
theorem commits_txnNowMs {before : Workspace} {now : UInt64} :
    (Txn.nowMs env).Commits before now after ↔
      env.clock before.clockReadings = now ∧ before.tick = after := by
  have ran : (Txn.nowMs env).run before =
      .ok (env.clock before.clockReadings, before.tick) := rfl
  simp [Txn.Commits, ran]

theorem recoveredOutcomeIn_terminal {outcome : SessionOutcome}
    (terminal : terminalOutcome runId records state.phase =
      some (.ok outcome)) :
    (recoveredOutcomeIn env runId error records state).Commits workspace
      outcome workspace := by
  rw [recoveredOutcomeIn, terminal]
  exact Txn.commits_lift.mpr ⟨rfl, rfl⟩

theorem recoveredOutcomeIn_ongoing {record : RecordedEvent}
    {next : RunState}
    (ongoing : terminalOutcome runId records state.phase = none)
    (accepted : nextRecordAt (env.clock workspace.clockReadings) state
      (.runFailed runId error) = .ok (record, next))
    (appended : (appendRecordIn env runId record).Commits workspace.tick ()
      after) :
    (recoveredOutcomeIn env runId error records state).Commits workspace
      (interruptedOutcome error) after := by
  rw [recoveredOutcomeIn, ongoing]
  simp only [Txn.commits_bind, commits_txnNowMs, Txn.commits_lift]
  exact ⟨_, _, ⟨rfl, rfl⟩, (record, next), _, ⟨accepted, rfl⟩, (), after,
    appended, Txn.commits_pure.mpr ⟨rfl, rfl⟩⟩

/-- The failure of a stored run can be stored, if there is room for it. -/
theorem storable_runFailed (fits : ClockFits env)
    (read : readRunRecordsFrom env workspace runId = .ok records)
    (replayed : RunState.replay records = .ok state) :
    Storable (state.stamp (env.clock after.clockReadings)
        (.runFailed runId error)) ↔ records.length < 2 ^ 63 := by
  have shape := RunState.ledgerShape_of_replay replayed
  have few := ((rowsNumbered_of_read read).row_seq_lt replayed).1
  have seq : (state.stamp (env.clock after.clockReadings)
      (.runFailed runId error)).seq.toNat = records.length := by
    simp only [RunState.stamp, shape.nextSeq, UInt64.toNat_ofNat']
    omega
  constructor
  · intro storable
    rw [← seq]
    exact storable.seq
  · intro room
    refine ⟨rfl, ?_, fits _⟩
    rw [seq]
    exact room

/-- What recovery leaves behind for a run whose row it closed. -/
structure RecoveredRun (env : LedgerEnv) (runId : RunId)
    (outcome : SessionOutcome) (workspace after : Workspace) : Prop where
  closed : ClosedWith runId outcome workspace after
  files : ∀ path, path ≠ runJsonlPath runId →
    after.files path = workspace.files path
  rows : SameOtherRows runId workspace after
  appends : ∃ added, Appends env runId workspace after added

section Rows

variable {sessionId : String} {now : Int64}

theorem recoverRowsIn_commits
    (absent : workspace.files (runJsonlPath runId) = none)
    (fits : ClockFits env) (running : Running workspace runId)
    {outcome : SessionOutcome}
    (recoverable : recoveryOutcome env error workspace runId =
      some outcome) :
    ∃ after,
      (recoverRowsIn env sessionId runId error now).Commits workspace.tick ()
        after ∧
      RecoveredRun env runId outcome workspace after := by
  obtain ⟨records, state, ledger, replayed, recovered⟩ :=
    recoveryOutcome_eq_some_iff.mp recoverable
  have shape := RunState.ledgerShape_of_replay replayed
  rw [absent, Option.isSome_none] at recovered
  have read : readRunRecordsFrom env workspace runId = .ok records := by
    rw [ledgerRecords, absent] at ledger
    exact ledger
  have opened : replayRecords records = .ok state := by
    rw [replayRecords, replayed]
    rfl
  have noLog : committedLog workspace runId = none := by
    simp [committedLog, absent]
  have nonempty : records ≠ [] := by
    rintro rfl
    rw [shape.initial rfl] at recovered
    cases recovered
  rcases recoveredOutcome_eq_some_iff.mp recovered with
    terminal | ⟨ongoing, canEnd, rfl⟩
  · refine ⟨_, commits_recoverRowsIn.mpr ⟨records, state, outcome,
      workspace.tick, read, nonempty, opened,
      recoveredOutcomeIn_terminal terminal, running, rfl⟩, ⟨now, rfl⟩,
      fun _ _ => rfl, fun _ _ => rfl, [], .of_same rfl rfl⟩
  · have notEmpty : records.isEmpty = false := by simpa using nonempty
    obtain ⟨own, room⟩ : state.runId = some runId ∧
        records.length < 2 ^ 63 := by
      simpa [endable, notEmpty] using canEnd
    obtain ⟨next, accepted⟩ :=
      (next_runFailed_iff error replayed nonempty ongoing).mpr own
    obtain ⟨record, isRecord⟩ : ∃ record, record = state.stamp
        (env.clock workspace.tick.clockReadings) (.runFailed runId error) :=
      ⟨_, rfl⟩
    have storable : Storable record := by
      rw [isRecord]
      exact (storable_runFailed fits read replayed).mpr room
    have stepped : state.next record = .ok next := by
      rw [isRecord]
      exact accepted
    have offered : nextRecordAt (env.clock workspace.tick.clockReadings) state
        (.runFailed runId error) = .ok (record, next) :=
      nextRecordAt_ok_iff.mpr ⟨isRecord, accepted⟩
    have ticked : readRunRecordsFrom env workspace.tick.tick runId =
      .ok records := read
    obtain ⟨middle, appended, frame, rows, others⟩ :=
      @appendRecordIn_next env _ _ _ _ _ (rowsNumbered_of_read ticked) replayed
        (by rw [isRecord]; rfl) storable
    have readBack := readRunRecordsFrom_concat ticked rows storable
      (by rw [isRecord]; rfl)
    have stillRunning : Running middle runId := by
      rw [frame]
      exact running
    have noLogAfter : middle.files (runJsonlPath runId) = none := by
      rw [frame]
      exact absent
    refine ⟨(middle.closeRun runId (interruptedOutcome error) now).touch
      sessionId now, commits_recoverRowsIn.mpr ⟨records, state, _, middle, read,
      nonempty, opened, recoveredOutcomeIn_ongoing ongoing offered appended,
      stillRunning, rfl⟩, ⟨now, ?_⟩, ?_, others, [record], ?_, ?_, ?_⟩
    · rw [frame]
      rfl
    · intro path _
      rw [frame]
      rfl
    · rw [noLog]
      simp [committedLog, Workspace.touch, Workspace.closeRun, noLogAfter]
    · rw [noLog]
      exact rows
    · intro _
      refine ⟨records, next, ledger, ?_, RunState.replay_concat_ok_iff.mpr
        ⟨state, replayed, stepped⟩⟩
      have noLogFinal : ((middle.closeRun runId (interruptedOutcome error)
          now).touch sessionId now).files (runJsonlPath runId) = none :=
        noLogAfter
      rw [ledgerRecords, noLogFinal]
      exact readBack

theorem recoverable_of_recoverRowsIn_commits
    (absent : workspace.files (runJsonlPath runId) = none)
    (fits : ClockFits env) {result : Unit}
    (commits : (recoverRowsIn env sessionId runId error now).Commits
      workspace.tick result after) :
    ∃ outcome, recoveryOutcome env error workspace runId = some outcome := by
  obtain ⟨records, state, outcome, middle, read, nonempty, opened, recovered,
    _, _⟩ := commits_recoverRowsIn.mp commits
  have replayed : RunState.replay records = .ok state := by
    unfold replayRecords at opened
    cases replay : RunState.replay records with
    | error failure => simp [replay, Except.mapError] at opened
    | ok found => simpa [replay, Except.mapError] using opened
  have ledger : ledgerRecords env workspace runId = .ok records := by
    rw [ledgerRecords, absent]
    exact read
  refine ⟨outcome, recoveryOutcome_eq_some_iff.mpr ⟨records, state, ledger,
    replayed, recoveredOutcome_eq_some_iff.mpr ?_⟩⟩
  rcases commits_recoveredOutcomeIn recovered with
    ⟨terminal, _⟩ | ⟨ongoing, rfl, record, next, accepted, appended⟩
  · exact .inl terminal
  · obtain ⟨rfl, stepped⟩ := nextRecordAt_ok_iff.mp accepted
    have own := (next_runFailed_iff error replayed nonempty ongoing).mp
      ⟨next, stepped⟩
    obtain ⟨positive, seq, time, _⟩ := commits_appendRecordIn.mp appended
    have room := (storable_runFailed fits read replayed).mp
      ⟨positive, seq, time⟩
    have notEmpty : records.isEmpty = false := by simpa using nonempty
    refine .inr ⟨ongoing, ?_, rfl⟩
    rw [endable, notEmpty, own, decide_eq_true room]
    simp

/-- The recovery from rows stores the outcome of the ledger in one step, or
fails and changes nothing. -/
theorem recoverSqliteSessionRun_run
    (absent : workspace.files (runJsonlPath runId) = none)
    (fits : ClockFits env) (running : Running workspace runId)
    (error sessionId : String) :
    (∃ outcome after,
      recoveryOutcome env error workspace runId = some outcome ∧
      (recoverSqliteSessionRun env sessionId runId error).run workspace =
        (.ok (), after) ∧
      RecoveredRun env runId outcome workspace after) ∨
    (∃ failure,
      recoveryOutcome env error workspace runId = none ∧
      (recoverSqliteSessionRun env sessionId runId error).run workspace =
        (.error failure, workspace.tick)) := by
  rw [recoverSqliteSessionRun,
    Program.run_bind_ok (nowColumn_run fits workspace)]
  cases recoverable : recoveryOutcome env error workspace runId with
  | some outcome =>
      obtain ⟨after, commits, result⟩ :=
        recoverRowsIn_commits absent fits running recoverable
      exact .inl ⟨outcome, after, rfl, transaction_run_of_commits commits,
        result⟩
  | none =>
      obtain ⟨failure, ran⟩ := transaction_run_of_not_commits
        fun result after commits => by
          obtain ⟨outcome, found⟩ :=
            recoverable_of_recoverRowsIn_commits absent fits commits
          rw [recoverable] at found
          cases found
      exact .inr ⟨failure, rfl, ran⟩

end Rows

theorem runJsonlPath_ne_empty (runId : RunId) : runJsonlPath runId ≠ "" := by
  intro empty
  have lengths := congrArg String.length empty
  simp [runJsonlPath] at lengths

/-- The run has a log that ends in failure. -/
def LogFailed (env : LedgerEnv) (workspace : Workspace) (runId : RunId) :
    Prop :=
  (workspace.files (runJsonlPath runId)).isSome = true ∧
    ∃ records state reason, ledgerRecords env workspace runId = .ok records ∧
      RunState.replay records = .ok state ∧ state.phase = .failed reason

/-- What a cut of a recovery leaves while the row is not closed: the ledger has
the same recovery as before, or its log got the interruption. -/
structure RunCut (env : LedgerEnv) (error : String) (runId : RunId)
    (workspace cut : Workspace) : Prop where
  logOnly : LogOnly (runJsonlPath runId) workspace cut
  appends : ∃ added, Appends env runId workspace cut added
  fate :
    (recoveryOutcome env error cut runId =
        recoveryOutcome env error workspace runId ∧
      (LogFailed env cut runId ↔ LogFailed env workspace runId)) ∨
    (recoveryOutcome env error workspace runId =
        some (interruptedOutcome error) ∧
      recoveryOutcome env error cut runId =
        some (storedFailureOutcome error) ∧
      LogFailed env cut runId ∧ ¬ LogFailed env workspace runId)

section ReadableLogs

variable {committed : List UInt8}

theorem ReadableLog.committedLog_eq
    (log : ReadableLog env workspace (runJsonlPath runId) committed records
      state) :
    committedLog workspace runId = some committed := by
  obtain ⟨torn, tail, content⟩ := log.content
  rw [committedLog, content, Option.map_some,
    take_committedLength log.complete tail]

theorem ReadableLog.ledgerRecords_eq
    (log : ReadableLog env workspace (runJsonlPath runId) committed records
      state) :
    ledgerRecords env workspace runId = .ok records := by
  rw [PlatoAgent.ledgerRecords_eq, log.committedLog_eq]
  exact log.read

theorem ReadableLog.isSome
    (log : ReadableLog env workspace (runJsonlPath runId) committed records
      state) :
    (workspace.files (runJsonlPath runId)).isSome = true := by
  obtain ⟨torn, _, content⟩ := log.content
  simp [content]

theorem ReadableLog.recoveryOutcome_eq
    (log : ReadableLog env workspace (runJsonlPath runId) committed records
      state) (error : String) :
    recoveryOutcome env error workspace runId =
      recoveredOutcome error runId true records state := by
  rw [recoveryOutcome_of_ledger log.ledgerRecords_eq log.replayed, log.isSome]

theorem ReadableLog.logFailed_iff
    (log : ReadableLog env workspace (runJsonlPath runId) committed records
      state) :
    LogFailed env workspace runId ↔
      ∃ reason, state.phase = .failed reason := by
  constructor
  · rintro ⟨_, found, later, reason, read, replayed, failed⟩
    rw [log.ledgerRecords_eq] at read
    obtain rfl := Except.ok.inj read
    rw [log.replayed] at replayed
    obtain rfl := Except.ok.inj replayed
    exact ⟨reason, failed⟩
  · rintro ⟨reason, failed⟩
    exact ⟨log.isSome, records, state, reason, log.ledgerRecords_eq,
      log.replayed, failed⟩

theorem ReadableLog.appends {added : List RecordedEvent} {later : RunState}
    (log : ReadableLog env workspace (runJsonlPath runId) committed records
      state)
    (grown : ReadableLog env after (runJsonlPath runId)
      (committed ++ logBytes env added) (records ++ added) later)
    (sameEvents : after.ledgerEvents = workspace.ledgerEvents) :
    Appends env runId workspace after added := by
  refine ⟨?_, ?_, fun _ => ⟨records, later, log.ledgerRecords_eq,
    grown.ledgerRecords_eq, grown.replayed⟩⟩
  · rw [grown.committedLog_eq, log.committedLog_eq]
    rfl
  · rw [log.committedLog_eq]
    simp [Workspace.eventRows, sameEvents]

theorem ReadableLog.runCut
    (log : ReadableLog env workspace (runJsonlPath runId) committed records
      state)
    (cutting : JsonlCut env error (runJsonlPath runId) runId committed records
      state workspace cut) :
    RunCut env error runId workspace cut := by
  obtain ⟨added, later, grown, ends⟩ := cutting.log
  refine ⟨cutting.logOnly,
    ⟨added, log.appends grown cutting.logOnly.ledgerEvents⟩, ?_⟩
  rw [log.recoveryOutcome_eq, grown.recoveryOutcome_eq, log.logFailed_iff,
    grown.logFailed_iff]
  rcases ends with same | interrupted
  · refine .inl ⟨same.outcome, ?_⟩
    exact exists_congr same.failed
  · refine .inr ⟨interrupted.outcome, ?_, ⟨error, interrupted.failed⟩, ?_⟩
    · rw [recoveredOutcome, interrupted.failed, terminalOutcome_failed]
      rfl
    · rintro ⟨reason, failed⟩
      exact interrupted.ongoing reason failed

end ReadableLogs

/-- A cut that left the committed bytes and the rows. -/
theorem RunCut.of_same_log
    (logOnly : LogOnly (runJsonlPath runId) workspace cut)
    (log : committedLog cut runId = committedLog workspace runId) :
    RunCut env error runId workspace cut := by
  have rows : cut.eventRows runId = workspace.eventRows runId := by
    simp [Workspace.eventRows, logOnly.ledgerEvents]
  have exist : (cut.files (runJsonlPath runId)).isSome =
      (workspace.files (runJsonlPath runId)).isSome := by
    rw [← isSome_committedLog, ← isSome_committedLog, log]
  have ledger : ledgerRecords env cut runId =
      ledgerRecords env workspace runId := by
    rw [ledgerRecords_eq, ledgerRecords_eq, log, rows]
  refine ⟨logOnly, ⟨[], .of_same log rows⟩, .inl ⟨?_, ?_⟩⟩
  · rw [recoveryOutcome, recoveryOutcome, ledger, exist]
  · rw [LogFailed, LogFailed, ledger, exist]

theorem RunCut.refl (env : LedgerEnv) (error : String) (runId : RunId)
    (workspace : Workspace) : RunCut env error runId workspace workspace :=
  .of_same_log (LogOnly.refl _ _) rfl

theorem RunCut.tick (env : LedgerEnv) (error : String) (runId : RunId)
    (workspace : Workspace) :
    RunCut env error runId workspace workspace.tick :=
  .of_same_log (LogOnly.tick _ _) rfl

/-- A log that does not parse or replay is not recovered. -/
theorem recoverJsonlSessionRun_unreadable {bytes : List UInt8}
    (content : workspace.files (runJsonlPath runId) = some bytes)
    (unreadable : ∀ records state, recordsOf env bytes = .ok records →
      RunState.replay records ≠ .ok state) :
    recoveryOutcome env error workspace runId = none ∧
      (∃ failure, (recoverJsonlSessionRun env (runJsonlPath runId) runId
        error).run workspace = (.error failure, workspace)) ∧
      ∀ cut, (recoverJsonlSessionRun env (runJsonlPath runId) runId
        error).Passes workspace cut → RunCut env error runId workspace cut := by
  have ledger : ledgerRecords env workspace runId = recordsOf env bytes := by
    rw [ledgerRecords, content]
  obtain ⟨failure, reopened⟩ : ∃ failure,
      (JsonlEventRecorder.reopen env (runJsonlPath runId)).run workspace =
        (.error failure, workspace) := by
    cases read : recordsOf env bytes with
    | error failure =>
        exact ⟨failure, JsonlEventRecorder.reopen_run_read_error
          (runJsonlPath_ne_empty runId) content read⟩
    | ok records =>
        cases replayed : RunState.replay records with
        | error failure =>
            refine ⟨.core failure, JsonlEventRecorder.reopen_run_replay_error
              (runJsonlPath_ne_empty runId) content read ?_⟩
            rw [replayRecords, replayed]
            rfl
        | ok state => exact absurd replayed (unreadable records state read)
  refine ⟨?_, ⟨failure, ?_⟩, ?_⟩
  · cases recoverable : recoveryOutcome env error workspace runId with
    | none => rfl
    | some outcome =>
        obtain ⟨records, state, read, replayed, _⟩ :=
          recoveryOutcome_eq_some_iff.mp recoverable
        rw [ledger] at read
        exact absurd replayed (unreadable records state read)
  · rw [recoverJsonlSessionRun_eq, Program.run_bind_error reopened]
  · intro cut passes
    rw [recoverJsonlSessionRun_eq,
      Program.passes_bind_of_error reopened] at passes
    rcases JsonlEventRecorder.reopen_passes (runJsonlPath_ne_empty runId)
      content passes with rfl | rfl
    · exact .refl _ _ _ _
    · refine .of_same_log (LogOnly.modifyFile _ _ _) ?_
      obtain ⟨committed, torn, rfl, complete, tail⟩ := exists_committed bytes
      have whole := take_committedLength complete
        (List.not_mem_nil (a := newline))
      rw [List.append_nil] at whole
      simp [committedLog, content, take_committedLength complete tail, whole]

theorem recoverSessionRun_eq (env : LedgerEnv) (error : String)
    (row : SessionRun) (workspace : Workspace) :
    (recoverSessionRun env error row).run workspace =
      (if (workspace.files (runJsonlPath row.runId)).isSome then
        recoverJsonlSessionRun env (runJsonlPath row.runId) row.runId error
      else
        recoverSqliteSessionRun env row.sessionId row.runId error).run
          workspace := by
  have exist : (fileExists (runJsonlPath row.runId)).run workspace =
      (.ok (workspace.files (runJsonlPath row.runId)).isSome, workspace) := rfl
  rw [recoverSessionRun, Program.run_bind_ok exist]

theorem recoverSessionRun_passes_iff {row : SessionRun} :
    (recoverSessionRun env error row).Passes workspace cut ↔
      (if (workspace.files (runJsonlPath row.runId)).isSome then
        recoverJsonlSessionRun env (runJsonlPath row.runId) row.runId error
      else
        recoverSqliteSessionRun env row.sessionId row.runId error).Passes
          workspace cut := by
  have exist : (fileExists (runJsonlPath row.runId)).run workspace =
      (.ok (workspace.files (runJsonlPath row.runId)).isSome, workspace) := rfl
  rw [recoverSessionRun, Program.passes_bind_of_ok exist, fileExists,
    Program.passes_inspect]
  constructor
  · rintro (rfl | later)
    · exact Program.passes_start _ _
    · exact later
  · exact .inr

theorem readableLog_or_not (env : LedgerEnv) {path : String}
    {bytes : List UInt8} (content : workspace.files path = some bytes) :
    (∃ committed records state,
      ReadableLog env workspace path committed records state) ∨
    ∀ records state, recordsOf env bytes = .ok records →
      RunState.replay records ≠ .ok state := by
  by_cases readable : ∃ records state, recordsOf env bytes = .ok records ∧
      RunState.replay records = .ok state
  · obtain ⟨records, state, read, replayed⟩ := readable
    obtain ⟨committed, torn, rfl, complete, tail⟩ := exists_committed bytes
    rw [recordsOf_torn env complete tail] at read
    exact .inl ⟨committed, records, state, ⟨torn, tail, content⟩, complete,
      read, replayed⟩
  · refine .inr fun records state read replayed => ?_
    exact readable ⟨records, state, read, replayed⟩

/-- The recovery of a running run stores the outcome of its ledger, or fails
and leaves the row running. -/
theorem recoverSessionRun_run {row : SessionRun} (fits : ClockFits env)
    (running : Running workspace row.runId) (error : String) :
    (∃ outcome after,
      recoveryOutcome env error workspace row.runId = some outcome ∧
      (recoverSessionRun env error row).run workspace = (.ok (), after) ∧
      RecoveredRun env row.runId outcome workspace after) ∨
    (∃ failure after,
      recoveryOutcome env error workspace row.runId = none ∧
      (recoverSessionRun env error row).run workspace =
        (.error failure, after) ∧
      RunCut env error row.runId workspace after) := by
  rw [recoverSessionRun_eq]
  cases content : workspace.files (runJsonlPath row.runId) with
  | none =>
      rcases recoverSqliteSessionRun_run content fits running error
        row.sessionId with ⟨outcome, after, found, ran, result⟩ |
          ⟨failure, missing, ran⟩
      · exact .inl ⟨outcome, after, found, ran, result⟩
      · exact .inr ⟨failure, _, missing, ran, .tick _ _ _ _⟩
  | some bytes =>
      rcases readableLog_or_not env content with
        ⟨committed, records, state, log⟩ | unreadable
      · have outcomeIs := log.recoveryOutcome_eq error
        rcases log.recover (runJsonlPath_ne_empty _) fits running with
          ⟨outcome, after, found, ran, closed⟩ |
            ⟨failure, after, missing, ran, cutting⟩
        · obtain ⟨added, later, grown⟩ := closed.log
          refine .inl ⟨outcome, after, outcomeIs.trans found, ran,
            closed.closed, closed.files, fun other _ => ?_,
            added, log.appends grown closed.ledgerEvents⟩
          simp [Workspace.eventRows, closed.ledgerEvents]
        · exact .inr ⟨failure, after, outcomeIs.trans missing, ran,
            log.runCut cutting⟩
      · obtain ⟨missing, ⟨failure, ran⟩, _⟩ :=
          @recoverJsonlSessionRun_unreadable env error workspace row.runId
            bytes content unreadable
        exact .inr ⟨failure, workspace, missing, ran, .refl _ _ _ _⟩

/-- A cut recovery left the row running, or it was done. -/
theorem recoverSessionRun_passes {row : SessionRun}
    (passes : (recoverSessionRun env error row).Passes workspace cut) :
    RunCut env error row.runId workspace cut ∨
      cut = ((recoverSessionRun env error row).run workspace).2 := by
  rw [recoverSessionRun_passes_iff] at passes
  rw [recoverSessionRun_eq]
  cases content : workspace.files (runJsonlPath row.runId) with
  | none =>
      rw [content] at passes
      rcases nowColumn_transaction_passes passes with rfl | rfl | done
      · exact .inl (.refl _ _ _ _)
      · exact .inl (.tick _ _ _ _)
      · exact .inr done
  | some bytes =>
      rw [content] at passes
      rcases readableLog_or_not env content with
        ⟨committed, records, state, log⟩ | unreadable
      · rcases log.recover_passes (runJsonlPath_ne_empty _) passes with
          cutting | done
        · exact .inl (log.runCut cutting)
        · exact .inr done
      · exact .inl ((recoverJsonlSessionRun_unreadable content
          unreadable).2.2 cut passes)

end PlatoAgent
