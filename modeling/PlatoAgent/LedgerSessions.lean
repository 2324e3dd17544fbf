import PlatoAgent.LedgerText
import PlatoAgent.LedgerTransactions

/-!
# Session rows under concurrent connections

Any number of connections may issue ledger functions on one workspace, each
transaction being one atomic step.  Whatever the interleaving, a step changes
the session rows in one of four ways: not at all, by admitting a run, by
closing a run, or by discarding a running admission.  The invariants of the
session table follow from these four cases alone.
-/

namespace PlatoAgent

open AtomicProgram

/-- An outcome that closes a run: an answer for a finished run, an error for
every other. -/
def SessionOutcome.Closes (outcome : SessionOutcome) : Prop :=
  (outcome.status = .finished ∧ outcome.finalAnswer.isSome ∧
      outcome.error = none) ∨
    ((outcome.status = .failed ∨ outcome.status = .canceled ∨
        outcome.status = .interrupted) ∧
      outcome.finalAnswer = none ∧ outcome.error.isSome)

/-- What one atomic step may do to the session rows. -/
inductive SessionChange (before after : Workspace) : Prop where
  | unchanged (same : after.sessionRuns = before.sessionRuns)
  | admitted (row : SessionRun) (running : row.status = .running)
      (inactive : ∀ present ∈ before.sessionRuns,
        present.sessionId = row.sessionId → present.status ≠ .running)
      (newest : ∀ present ∈ before.sessionRuns,
        present.sessionId = row.sessionId →
          present.sessionIndex < row.sessionIndex)
      (inserted : before.sessionRuns.insert? row = some after.sessionRuns)
  | closed (runId : RunId) (outcome : SessionOutcome) (now : Int64)
      (closes : outcome.Closes)
      (updated : after.sessionRuns =
        (before.closeRun runId outcome now).sessionRuns)
  | discarded (runId : RunId)
      (deleted : after.sessionRuns = (before.deleteRun runId).sessionRuns)

theorem SessionChange.refl (workspace : Workspace) :
    SessionChange workspace workspace :=
  .unchanged rfl

theorem mem_sessionRows {workspace : Workspace} {sessionId : String}
    {row : SessionRun} :
    row ∈ workspace.sessionRows sessionId ↔
      row ∈ workspace.sessionRuns ∧ row.sessionId = sessionId := by
  simp [Workspace.sessionRows, UniqueTable.mem_iff]

theorem not_running_of_inactive {workspace : Workspace} {sessionId : String}
    (inactive : workspace.activeRun sessionId = none) {row : SessionRun}
    (member : row ∈ workspace.sessionRuns) (owned : row.sessionId = sessionId) :
    row.status ≠ .running := by
  have absent : (workspace.sessionRows sessionId).find?
      (·.status == .running) = none := by
    simpa [Workspace.activeRun] using inactive
  rw [List.find?_eq_none] at absent
  simpa using absent row (mem_sessionRows.mpr ⟨member, owned⟩)

instance lawfulOrderMaxInt64 : Std.LawfulOrderMax Int64 where
  max_eq_or first second := by
    change (if first ≤ second then second else first) = first ∨
      (if first ≤ second then second else first) = second
    split <;> simp
  max_le_iff first second bound := by
    change (if first ≤ second then second else first) ≤ bound ↔ _
    simp only [Int64.le_iff_toInt_le]
    split <;> omega

/-- The next index exceeds every index in use; at the greatest `i64` there is
no next index. -/
theorem sessionIndex_lt_next {workspace : Workspace} {sessionId : String}
    {sessionIndex : Int64}
    (next : workspace.nextSessionIndex sessionId = .ok sessionIndex)
    {row : SessionRun} (member : row ∈ workspace.sessionRuns)
    (owned : row.sessionId = sessionId) : row.sessionIndex < sessionIndex := by
  have listed : row.sessionIndex ∈
      (workspace.sessionRows sessionId).map (·.sessionIndex) :=
    List.mem_map_of_mem (mem_sessionRows.mpr ⟨member, owned⟩)
  unfold Workspace.nextSessionIndex at next
  cases greatest : ((workspace.sessionRows sessionId).map
      (·.sessionIndex)).max? with
  | none =>
      rw [List.max?_eq_none_iff] at greatest
      rw [greatest] at listed
      exact absurd listed List.not_mem_nil
  | some index =>
      rw [greatest] at next
      have bound := (List.max?_eq_some_iff.mp greatest).2 _ listed
      dsimp only at next
      split at next
      · cases next
      next notGreatest =>
        obtain rfl : index + 1 = sessionIndex := by simpa using next
        have below : index.toInt < Int64.maxValue.toInt := by
          have le := Int64.le_maxValue index
          rw [Int64.le_iff_toInt_le] at le
          have distinct : index.toInt ≠ Int64.maxValue.toInt := fun same =>
            notGreatest (Int64.toInt_inj.mp same)
          omega
        rw [Int64.lt_iff_toInt_lt, Int64.toInt_add]
        rw [Int64.le_iff_toInt_le] at bound
        have lower := Int64.le_toInt index
        have greatestValue : Int64.maxValue.toInt = 2 ^ 63 - 1 := by decide
        have one : (1 : Int64).toInt = 1 := by decide
        rw [one, Int.bmod_eq_of_le (by omega) (by omega)]
        omega

theorem admitSessionRun_change {before after : Workspace}
    {sessionId : String} {runId : RunId} {question : String}
    {createSession : Bool} {now : Int64} {result : Unit}
    (commits : (admitSessionRun sessionId runId question createSession
      now).Commits before result after) : SessionChange before after := by
  obtain ⟨inactive, sessionIndex, next, inserted, _⟩ :=
    commits_admitSessionRun commits
  refine .admitted (admittedRow sessionId runId question sessionIndex now) rfl
    ?_ ?_ inserted
  · intro present member owned
    exact not_running_of_inactive inactive member owned
  · intro present member owned
    exact sessionIndex_lt_next next member owned

theorem closed_change {before middle after : Workspace} {runId : RunId}
    {outcome : SessionOutcome} {now : Int64} {sessionId : String}
    (closes : outcome.Closes) (same : middle.sessionRuns = before.sessionRuns)
    (touched : (middle.closeRun runId outcome now).touch sessionId now =
      after) : SessionChange before after := by
  subst touched
  refine .closed runId outcome now closes ?_
  change (middle.closeRun runId outcome now).sessionRuns = _
  simp only [Workspace.closeRun, same]

theorem appendRecordIn_sessionRuns {before after : Workspace}
    {env : LedgerEnv} {runId : RunId} {record : RecordedEvent} {result : Unit}
    (commits : (appendRecordIn env runId record).Commits before result after) :
    after.sessionRuns = before.sessionRuns := by
  rw [appendRecordIn_frame commits]

theorem finishedOutcome_closes (finalAnswer : String) :
    (finishedOutcome finalAnswer).Closes :=
  .inl ⟨rfl, rfl, rfl⟩

theorem failedOutcome_closes (error : String) (canceled : Bool) :
    (failedOutcome error canceled).Closes := by
  cases canceled
  · exact .inr ⟨.inl rfl, rfl, rfl⟩
  · exact .inr ⟨.inr (.inl rfl), rfl, rfl⟩

theorem interruptedOutcome_closes (error : String) :
    (interruptedOutcome error).Closes :=
  .inr ⟨.inr (.inr rfl), rfl, rfl⟩

theorem terminalOutcome_closes {runId : RunId} {records : List RecordedEvent}
    {phase : RunPhase} {outcome : SessionOutcome}
    (terminal : terminalOutcome runId records phase = some (.ok outcome)) :
    outcome.Closes := by
  unfold terminalOutcome at terminal
  split at terminal
  · cases answered : finalAnswerFromRecords runId records with
    | error error => simp [answered, Except.map] at terminal
    | ok answer =>
        obtain rfl : finishedOutcome answer = outcome := by
          simpa [answered, Except.map] using terminal
        exact finishedOutcome_closes answer
  · next reason =>
      obtain rfl : storedFailureOutcome reason = outcome := by
        simpa using terminal
      refine .inr ⟨?_, rfl, rfl⟩
      simp only [storedFailureOutcome, failureStatus]
      split
      · exact .inr (.inl rfl)
      · exact .inl rfl
  · cases terminal

section Guarantees

variable {Result : Type} (env : LedgerEnv)

/-- A step that leaves the session rows alone. -/
theorem guarantees_step {effect : Workspace → Workspace}
    {resume : Workspace → LedgerM Result}
    (same : ∀ workspace, (effect workspace).sessionRuns =
      workspace.sessionRuns)
    (rest : ∀ workspace, (resume workspace).Guarantees SessionChange) :
    (Program.atomic effect resume).Guarantees SessionChange :=
  fun workspace => ⟨.unchanged (same workspace), rest workspace⟩

theorem guarantees_read (read : Workspace → Except AppError Result) :
    (Program.inspect read).Guarantees SessionChange :=
  Program.guarantees_inspect SessionChange.refl read

theorem guarantees_nowMs : (nowMs env).Guarantees SessionChange :=
  guarantees_step (fun _ => rfl) fun _ => trivial

theorem guarantees_nowColumn : (nowColumn env).Guarantees SessionChange :=
  Program.guarantees_bind (guarantees_nowMs env) fun _ => trivial

theorem guarantees_nextRecord (state : RunState) (event : HarnessEvent) :
    (nextRecord env state event).Guarantees SessionChange :=
  Program.guarantees_bind (guarantees_nowMs env) fun _ => trivial

theorem guarantees_appendFile (path : String) (bytes : List UInt8) :
    (appendFile path bytes).Guarantees SessionChange := by
  induction bytes with
  | nil => trivial
  | cons byte rest ih => exact guarantees_step (fun _ => rfl) fun _ => ih

theorem guarantees_removeFile (path : String) :
    (removeFile path).Guarantees SessionChange := by
  refine Program.guarantees_transact SessionChange.refl ?_
  intro workspace result after removed
  cases present : workspace.files path with
  | none => simp [present] at removed
  | some bytes =>
      simp only [present, Except.ok.injEq, Prod.mk.injEq] at removed
      exact .unchanged (by rw [← removed.2])

theorem guarantees_readRecords (path : String) :
    (readRecords env path).Guarantees SessionChange :=
  Program.guarantees_bind (guarantees_read _) fun _ => trivial

theorem guarantees_reopen (path : String) :
    (JsonlEventRecorder.reopen env path).Guarantees SessionChange := by
  refine Program.guarantees_bind (guarantees_requireApp _ _) fun _ => ?_
  refine Program.guarantees_bind ?_ fun _ => trivial
  refine Program.guarantees_bind (guarantees_read _) fun bytes => ?_
  refine Program.guarantees_bind trivial fun _ => ?_
  refine Program.guarantees_bind trivial fun _ => ?_
  refine Program.guarantees_bind ?_ fun _ => trivial
  unfold JsonlEventRecorder.cutTornTail
  split
  · exact guarantees_step (fun _ => rfl) fun _ => trivial
  · trivial

theorem guarantees_recordEvent (recorder : JsonlEventRecorder)
    (event : HarnessEvent) :
    (recorder.recordEvent env event).Guarantees SessionChange := by
  refine Program.guarantees_bind (guarantees_requireApp _ _) fun _ => ?_
  refine Program.guarantees_bind (guarantees_nextRecord env _ _) ?_
  rintro ⟨record, nextState⟩
  exact Program.guarantees_bind (guarantees_appendFile _ _) fun _ => trivial

theorem guarantees_jsonlRecord (recorder : JsonlEventRecorder)
    (event : HarnessEvent) :
    (recorder.record env event).Guarantees SessionChange :=
  Program.guarantees_bind (guarantees_requireApp _ _) fun _ =>
    guarantees_recordEvent env recorder event

theorem guarantees_beginSessionRun (sessionId : String) (runId : RunId)
    (question : String) (createSession : Bool) :
    (beginSessionRun env sessionId runId question createSession).Guarantees
      SessionChange := by
  refine Program.guarantees_bind (guarantees_nowColumn env) fun now => ?_
  refine Program.guarantees_bind ?_ fun _ => guarantees_read _
  exact guarantees_transaction SessionChange.refl fun _ _ _ commits =>
    admitSessionRun_change commits

theorem guarantees_discardRunningSessionRun (runId : RunId)
    (createdSession : Bool) :
    (discardRunningSessionRun runId createdSession).Guarantees
      SessionChange :=
  guarantees_transaction SessionChange.refl fun _ _ _ commits =>
    .discarded runId (commits_discardRunIn commits).1

theorem guarantees_commitSessionTerminal (runId : RunId)
    (record : RecordedEvent) {outcome : SessionOutcome}
    (closes : outcome.Closes) :
    (commitSessionTerminal env runId record outcome).Guarantees
      SessionChange := by
  refine Program.guarantees_bind (guarantees_nowColumn env) fun now => ?_
  refine guarantees_transaction SessionChange.refl ?_
  intro before result after commits
  obtain ⟨row, middle, _, appended, touched⟩ :=
    commits_commitTerminalIn commits
  exact closed_change closes (appendRecordIn_sessionRuns appended) touched

theorem guarantees_completeSessionTerminal (runId : RunId)
    {outcome : SessionOutcome} (closes : outcome.Closes) :
    (completeSessionTerminal env runId outcome).Guarantees SessionChange := by
  refine Program.guarantees_bind (guarantees_nowColumn env) fun now => ?_
  refine guarantees_transaction SessionChange.refl ?_
  intro before result after commits
  obtain ⟨row, _, touched⟩ := commits_completeTerminalIn.mp commits
  exact closed_change closes rfl touched

theorem guarantees_readRun (runId : RunId) :
    (readRun env runId).Guarantees SessionChange := by
  refine Program.guarantees_bind (guarantees_read _) fun logged => ?_
  refine Program.guarantees_bind ?_ fun records =>
    Program.guarantees_bind (guarantees_requireApp _ _) fun _ => trivial
  cases logged
  · exact guarantees_read _
  · exact Program.guarantees_bind (guarantees_readRecords env _) fun _ =>
      Program.guarantees_bind trivial fun _ => trivial

theorem guarantees_replayRunState (runId : RunId) :
    (replayRunState env runId).Guarantees SessionChange :=
  Program.guarantees_bind (guarantees_readRun env runId) fun _ =>
    Program.guarantees_bind trivial fun _ => trivial

theorem guarantees_finishSessionRun (runId : RunId) (finalAnswer : String) :
    (finishSessionRun env runId finalAnswer).Guarantees SessionChange := by
  refine Program.guarantees_bind (guarantees_replayRunState env runId) ?_
  rintro ⟨records, state⟩
  refine Program.guarantees_bind ?_ fun record =>
    guarantees_commitSessionTerminal env runId record
      (finishedOutcome_closes finalAnswer)
  unfold finishRecord
  split
  · exact Program.guarantees_bind trivial fun _ =>
      Program.guarantees_bind (guarantees_requireApp _ _) fun _ => trivial
  · exact Program.guarantees_bind (guarantees_nextRecord env _ _) fun _ =>
      trivial

theorem guarantees_failSessionRun (runId : RunId) (error : String)
    (canceled : Bool) :
    (failSessionRun env runId error canceled).Guarantees SessionChange := by
  refine Program.guarantees_bind (guarantees_replayRunState env runId) ?_
  rintro ⟨records, state⟩
  refine Program.guarantees_bind ?_ fun record =>
    guarantees_commitSessionTerminal env runId record
      (failedOutcome_closes error canceled)
  unfold failRecord
  split
  · exact Program.guarantees_bind (guarantees_requireApp _ _) fun _ => trivial
  · exact Program.guarantees_bind (guarantees_nextRecord env _ _) fun _ =>
      trivial

theorem guarantees_jsonlTerminal (recorder : JsonlEventRecorder)
    (event : HarnessEvent) {outcome : SessionOutcome}
    (closes : outcome.Closes) :
    (recorder.recordTerminal env event outcome).Guarantees SessionChange := by
  unfold JsonlEventRecorder.recordTerminal
  split
  · refine Program.guarantees_bind
      (Program.guarantees_attempt (guarantees_recordEvent env _ _)) ?_
    rintro (error | ⟨record, recorded⟩) <;> trivial
  · next session _ =>
    split
    · trivial
    · refine Program.guarantees_bind
        (Program.guarantees_attempt (guarantees_recordEvent env _ _)) ?_
      rintro (error | ⟨record, recorded⟩)
      · trivial
      · refine Program.guarantees_bind (Program.guarantees_attempt
          (guarantees_completeSessionTerminal env session.runId closes)) ?_
        rintro (error | ⟨⟩) <;> trivial

theorem guarantees_jsonlDrop (recorder : JsonlEventRecorder) :
    (recorder.drop env).Guarantees SessionChange := by
  unfold JsonlEventRecorder.drop
  split
  · trivial
  · split
    · exact Program.guarantees_bind (guarantees_jsonlTerminal env _ _
        (failedOutcome_closes _ _)) fun _ => trivial
    · trivial

theorem guarantees_discardEmpty (recorder : JsonlEventRecorder) :
    recorder.discardEmptySessionAdmission.Guarantees SessionChange := by
  refine Program.guarantees_bind (guarantees_read _) fun bytes => ?_
  refine Program.guarantees_bind (guarantees_requireApp _ _) fun _ => ?_
  cases recorder.session with
  | none => trivial
  | some session =>
      refine Program.guarantees_bind (guarantees_requireApp _ _) fun _ => ?_
      refine Program.guarantees_bind (Program.guarantees_attempt
        (guarantees_discardRunningSessionRun _ _)) fun rowCleanup => ?_
      refine Program.guarantees_bind (Program.guarantees_attempt
        (guarantees_removeFile _)) fun logCleanup => ?_
      rcases rowCleanup with _ | ⟨⟩ <;> rcases logCleanup with _ | ⟨⟩ <;>
        trivial

theorem guarantees_sqliteRecord (recorder : SqliteEventRecorder)
    (event : HarnessEvent) :
    (recorder.record env event).Guarantees SessionChange := by
  refine Program.guarantees_bind (guarantees_requireApp _ _) fun _ => ?_
  refine Program.guarantees_bind (guarantees_nextRecord env _ _) ?_
  rintro ⟨record, nextState⟩
  refine Program.guarantees_bind ?_ fun _ => trivial
  exact guarantees_transaction SessionChange.refl fun _ _ _ commits =>
    .unchanged (appendRecordIn_sessionRuns commits)

theorem guarantees_sqliteTerminal (recorder : SqliteEventRecorder)
    (event : HarnessEvent) {outcome : SessionOutcome}
    (closes : outcome.Closes) :
    (recorder.recordTerminal env event outcome).Guarantees SessionChange := by
  unfold SqliteEventRecorder.recordTerminal
  split
  · refine Program.guarantees_bind
      (Program.guarantees_attempt (guarantees_sqliteRecord env _ _)) ?_
    rintro (error | ⟨record, recorded⟩) <;> trivial
  · refine Program.guarantees_bind
      (Program.guarantees_attempt (guarantees_nextRecord env _ _)) ?_
    rintro (error | ⟨record, nextState⟩)
    · trivial
    · refine Program.guarantees_bind (Program.guarantees_attempt
        (guarantees_commitSessionTerminal env _ _ closes)) ?_
      rintro (error | ⟨⟩) <;> trivial

theorem guarantees_sqliteDrop (recorder : SqliteEventRecorder) :
    (recorder.drop env).Guarantees SessionChange := by
  unfold SqliteEventRecorder.drop
  split
  · exact Program.guarantees_bind (guarantees_sqliteTerminal env _ _
      (failedOutcome_closes _ _)) fun _ => trivial
  · trivial

theorem guarantees_recoverJsonlSessionRun (path : String) (runId : RunId)
    (error : String) :
    (recoverJsonlSessionRun env path runId error).Guarantees
      SessionChange := by
  refine Program.guarantees_bind (guarantees_reopen env path) fun opened => ?_
  refine Program.guarantees_bind ?_ ?_
  · refine Program.guarantees_bind (guarantees_readRecords env _)
      fun records => ?_
    split
    · refine Program.guarantees_bind (guarantees_jsonlRecord env _ _) ?_
      rintro ⟨record, recorder⟩
      exact Program.guarantees_bind (guarantees_readRecords env _)
        fun _ => trivial
    · trivial
  · rintro ⟨recorder, records⟩
    refine Program.guarantees_bind (Program.guarantees_ofExcept _)
      fun state => ?_
    cases terminal : terminalOutcome runId records state.phase with
    | none =>
        exact Program.guarantees_bind (guarantees_jsonlRecord env _ _) fun _ =>
          guarantees_completeSessionTerminal env runId
            (interruptedOutcome_closes error)
    | some outcome =>
        cases outcome with
        | error failure => trivial
        | ok outcome =>
            exact guarantees_completeSessionTerminal env runId
              (terminalOutcome_closes terminal)

theorem guarantees_recoverSqliteSessionRun (sessionId : String)
    (runId : RunId) (error : String) :
    (recoverSqliteSessionRun env sessionId runId error).Guarantees
      SessionChange := by
  refine Program.guarantees_bind (guarantees_nowColumn env) fun now => ?_
  refine guarantees_transaction SessionChange.refl ?_
  intro before result after commits
  obtain ⟨records, state, outcome, middle, _, _, _, recovered, _, touched⟩ :=
    commits_recoverRowsIn.mp commits
  rcases commits_recoveredOutcomeIn recovered with
    ⟨terminal, rfl⟩ | ⟨_, rfl, record, nextState, _, appended⟩
  · exact closed_change (terminalOutcome_closes terminal) rfl touched
  · have same : middle.sessionRuns = before.sessionRuns := by
      rw [appendRecordIn_sessionRuns appended]
    exact closed_change (interruptedOutcome_closes error) same touched

theorem guarantees_recoverEach (error : String) (rows : List SessionRun) :
    (recoverEach env error rows).Guarantees SessionChange := by
  induction rows with
  | nil => trivial
  | cons row rest ih =>
      refine Program.guarantees_bind ?_ fun _ => ih
      refine Program.guarantees_bind (guarantees_read _) fun logged => ?_
      cases logged
      · exact guarantees_recoverSqliteSessionRun env _ _ _
      · exact guarantees_recoverJsonlSessionRun env _ _ _

theorem guarantees_recoverRunningSessionRuns (error : String) :
    (recoverRunningSessionRuns env error).Guarantees SessionChange :=
  Program.guarantees_bind (guarantees_read _) fun rows =>
    Program.guarantees_bind (guarantees_recoverEach env error rows)
      fun _ => trivial

end Guarantees

/-- The ledger functions a connection may issue, with their arguments. -/
inductive LedgerCommand where
  | begin (sessionId : String) (runId : RunId) (question : String)
      (createSession : Bool)
  | discard (runId : RunId) (createdSession : Bool)
  | discardEmpty (recorder : JsonlEventRecorder)
  | finishSession (runId : RunId) (finalAnswer : String)
  | failSession (runId : RunId) (error : String) (canceled : Bool)
  | jsonlRecord (recorder : JsonlEventRecorder) (event : HarnessEvent)
  | jsonlFinish (recorder : JsonlEventRecorder) (runId : RunId)
      (finalAnswer : String)
  | jsonlFail (recorder : JsonlEventRecorder) (runId : RunId) (error : String)
      (canceled : Bool)
  | jsonlDrop (recorder : JsonlEventRecorder)
  | sqliteRecord (recorder : SqliteEventRecorder) (event : HarnessEvent)
  | sqliteFinish (recorder : SqliteEventRecorder) (finalAnswer : String)
  | sqliteFail (recorder : SqliteEventRecorder) (error : String)
      (canceled : Bool)
  | sqliteDrop (recorder : SqliteEventRecorder)
  | recover (error : String)

/-- Run a function for its effect. -/
def forget {Result : Type} (program : LedgerM Result) : LedgerM Unit := do
  let _ ← program
  pure ()

def LedgerCommand.program (env : LedgerEnv) : LedgerCommand → LedgerM Unit
  | .begin sessionId runId question createSession =>
      forget (beginSessionRun env sessionId runId question createSession)
  | .discard runId createdSession =>
      discardRunningSessionRun runId createdSession
  | .discardEmpty recorder => recorder.discardEmptySessionAdmission
  | .finishSession runId finalAnswer => finishSessionRun env runId finalAnswer
  | .failSession runId error canceled =>
      failSessionRun env runId error canceled
  | .jsonlRecord recorder event => forget (recorder.record env event)
  | .jsonlFinish recorder runId finalAnswer =>
      forget (recorder.finishRun env runId finalAnswer)
  | .jsonlFail recorder runId error canceled =>
      forget (recorder.failRun env runId error canceled)
  | .jsonlDrop recorder => recorder.drop env
  | .sqliteRecord recorder event => forget (recorder.record env event)
  | .sqliteFinish recorder finalAnswer =>
      forget (recorder.finishRun env finalAnswer)
  | .sqliteFail recorder error canceled =>
      forget (recorder.failRun env error canceled)
  | .sqliteDrop recorder => recorder.drop env
  | .recover error => forget (recoverRunningSessionRuns env error)

theorem guarantees_forget {Result : Type} {program : LedgerM Result}
    (guarantees : program.Guarantees SessionChange) :
    (forget program).Guarantees SessionChange :=
  Program.guarantees_bind guarantees fun _ => trivial

theorem guarantees_command (env : LedgerEnv) (command : LedgerCommand) :
    (command.program env).Guarantees SessionChange := by
  cases command with
  | begin => exact guarantees_forget (guarantees_beginSessionRun env _ _ _ _)
  | discard => exact guarantees_discardRunningSessionRun _ _
  | discardEmpty => exact guarantees_discardEmpty _
  | finishSession => exact guarantees_finishSessionRun env _ _
  | failSession => exact guarantees_failSessionRun env _ _ _
  | jsonlRecord => exact guarantees_forget (guarantees_jsonlRecord env _ _)
  | jsonlFinish =>
      exact guarantees_forget
        (guarantees_jsonlTerminal env _ _ (finishedOutcome_closes _))
  | jsonlFail =>
      exact guarantees_forget
        (guarantees_jsonlTerminal env _ _ (failedOutcome_closes _ _))
  | jsonlDrop => exact guarantees_jsonlDrop env _
  | sqliteRecord => exact guarantees_forget (guarantees_sqliteRecord env _ _)
  | sqliteFinish =>
      exact guarantees_forget
        (guarantees_sqliteTerminal env _ _ (finishedOutcome_closes _))
  | sqliteFail =>
      exact guarantees_forget
        (guarantees_sqliteTerminal env _ _ (failedOutcome_closes _ _))
  | sqliteDrop => exact guarantees_sqliteDrop env _
  | recover =>
      exact guarantees_forget (guarantees_recoverRunningSessionRuns env _)

/-- Other processes may change the run logs at any time, but not the tables. -/
def LogsChange (before after : Workspace) : Prop :=
  after.sessions = before.sessions ∧
    after.sessionRuns = before.sessionRuns ∧
    after.ledgerEvents = before.ledgerEvents

/-- One step of the connections to a workspace ledger. -/
abbrev LedgerStep (env : LedgerEnv) (Connection : Type)
    [DecidableEq Connection] :
    System Workspace AppError Unit Connection →
      System Workspace AppError Unit Connection → Prop :=
  System.Step
    (fun program => ∃ command : LedgerCommand, program = command.program env)
    LogsChange

/-- A closed row shows an answer or an error, never both. -/
def SessionRun.Shaped (row : SessionRun) : Prop :=
  (row.status = .finished → row.finalAnswer.isSome ∧ row.error = none) ∧
    (row.status = .failed ∨ row.status = .canceled ∨
        row.status = .interrupted →
      row.finalAnswer = none ∧ row.error.isSome)

structure SessionsSound (workspace : Workspace) : Prop where
  oneRunning : ∀ first ∈ workspace.sessionRuns,
    ∀ second ∈ workspace.sessionRuns, first.sessionId = second.sessionId →
      first.status = .running → second.status = .running → first = second
  shaped : ∀ row ∈ workspace.sessionRuns, row.Shaped

theorem SessionRun.shaped_of_running {row : SessionRun}
    (running : row.status = .running) : row.Shaped := by
  constructor <;> simp [running]

theorem SessionOutcome.Closes.shaped {outcome : SessionOutcome}
    (closes : outcome.Closes) (now : Int64) (row : SessionRun) :
    (row.close outcome now).Shaped := by
  rcases closes with ⟨status, answer, error⟩ | ⟨status, answer, error⟩
  · constructor
    · exact fun _ => ⟨answer, error⟩
    · simp [SessionRun.close, status]
  · constructor
    · rcases status with status | status | status <;>
        simp [SessionRun.close, status]
    · exact fun _ => ⟨answer, error⟩

theorem SessionOutcome.Closes.not_running {outcome : SessionOutcome}
    (closes : outcome.Closes) (now : Int64) (row : SessionRun) :
    (row.close outcome now).status ≠ .running := by
  rcases closes with ⟨status, _⟩ | ⟨status | status | status, _⟩ <;>
    simp [SessionRun.close, status]

/-- A row after closing a run is a row from before, or a closed one. -/
theorem mem_closeRun {workspace : Workspace} {runId : RunId}
    {outcome : SessionOutcome} {now : Int64} {row : SessionRun} :
    row ∈ (workspace.closeRun runId outcome now).sessionRuns ↔
      ∃ original ∈ workspace.sessionRuns,
        row = if original.isRunning runId then original.close outcome now
          else original := by
  have keepsKeys : ∀ row : SessionRun,
      (row.close outcome now).keys = row.keys := fun _ => rfl
  exact UniqueTable.mem_update keepsKeys

theorem SessionsSound.step {before after : Workspace}
    (sound : SessionsSound before) (change : SessionChange before after) :
    SessionsSound after := by
  cases change with
  | unchanged same =>
      exact ⟨by simpa [same] using sound.oneRunning,
        by simpa [same] using sound.shaped⟩
  | admitted row running inactive newest inserted =>
      constructor
      · intro first firstMember second secondMember owned firstRuns secondRuns
        rw [UniqueTable.mem_insert? inserted] at firstMember secondMember
        rcases firstMember with old | rfl <;>
          rcases secondMember with other | rfl
        · exact sound.oneRunning first old second other owned firstRuns
            secondRuns
        · exact absurd firstRuns (inactive first old owned)
        · exact absurd secondRuns (inactive second other owned.symm)
        · rfl
      · intro other member
        rcases (UniqueTable.mem_insert? inserted).mp member with old | rfl
        · exact sound.shaped other old
        · exact SessionRun.shaped_of_running running
  | closed runId outcome now closes updated =>
      have members : ∀ row, row ∈ after.sessionRuns ↔
          ∃ original ∈ before.sessionRuns,
            row = if original.isRunning runId then original.close outcome now
              else original := by
        intro row
        rw [updated]
        exact mem_closeRun
      -- A row that is still running was not touched by the update.
      have kept : ∀ row ∈ after.sessionRuns, row.status = .running →
          row ∈ before.sessionRuns := by
        intro row member runs
        obtain ⟨original, present, rfl⟩ := (members row).mp member
        split at runs
        · exact absurd runs (closes.not_running now original)
        next untouched => simpa [untouched] using present
      constructor
      · intro first firstMember second secondMember owned firstRuns secondRuns
        exact sound.oneRunning first (kept first firstMember firstRuns) second
          (kept second secondMember secondRuns) owned firstRuns secondRuns
      · intro row member
        obtain ⟨original, present, rfl⟩ := (members row).mp member
        split
        · exact closes.shaped now original
        · exact sound.shaped original present
  | discarded runId deleted =>
      have kept : ∀ row ∈ after.sessionRuns, row ∈ before.sessionRuns := by
        intro row member
        rw [deleted] at member
        exact (UniqueTable.mem_delete.mp member).1
      constructor
      · intro first firstMember second secondMember
        exact sound.oneRunning first (kept first firstMember) second
          (kept second secondMember)
      · intro row member
        exact sound.shaped row (kept row member)

/-- A row that is not running is out of reach of every step. -/
theorem SessionChange.keeps_closed {before after : Workspace}
    (change : SessionChange before after) {row : SessionRun}
    (member : row ∈ before.sessionRuns) (closed : row.status ≠ .running) :
    row ∈ after.sessionRuns := by
  have unselected : ∀ runId, row.isRunning runId = false := by
    intro runId
    simp [SessionRun.isRunning, closed]
  cases change with
  | unchanged same =>
      rw [same]
      exact member
  | admitted _ _ _ _ inserted =>
      exact (UniqueTable.mem_insert? inserted).mpr (.inl member)
  | closed runId outcome now closes updated =>
      rw [updated]
      exact mem_closeRun.mpr ⟨row, member, by simp [unselected]⟩
  | discarded runId deleted =>
      rw [deleted]
      exact UniqueTable.mem_delete.mpr ⟨member, unselected runId⟩

/-- A run that a step admits is the newest of its session. -/
theorem SessionChange.admits_newest {before after : Workspace}
    (change : SessionChange before after) {row : SessionRun}
    (member : row ∈ after.sessionRuns)
    (fresh : ∀ present ∈ before.sessionRuns, present.runId ≠ row.runId)
    {present : SessionRun} (old : present ∈ before.sessionRuns)
    (owned : present.sessionId = row.sessionId) :
    present.sessionIndex < row.sessionIndex := by
  cases change with
  | unchanged same =>
      rw [same] at member
      exact absurd rfl (fresh row member)
  | admitted admitted _ _ newest inserted =>
      rcases (UniqueTable.mem_insert? inserted).mp member with before | rfl
      · exact absurd rfl (fresh row before)
      · exact newest present old owned
  | closed runId outcome now closes updated =>
      rw [updated] at member
      obtain ⟨original, originalMember, rfl⟩ := mem_closeRun.mp member
      refine absurd ?_ (fresh original originalMember)
      split <;> rfl
  | discarded runId deleted =>
      rw [deleted] at member
      exact absurd rfl (fresh row (UniqueTable.mem_delete.mp member).1)

section Interleaving

variable {env : LedgerEnv} {Connection : Type} [DecidableEq Connection]

/-- The connections at the start: an empty ledger and nothing in progress. -/
def idleConnections (Connection : Type) :
    System Workspace AppError Unit Connection :=
  System.idle Workspace.empty (.ok ())

theorem logsChange_change {before after : Workspace}
    (changed : LogsChange before after) : SessionChange before after :=
  .unchanged changed.2.1

theorem sessionChanges_of_steps
    {system after : System Workspace AppError Unit Connection}
    (current : ∀ connection,
      (system.programs connection).Guarantees SessionChange)
    (steps : Relation.ReflTransGen (LedgerStep env Connection) system after) :
    Relation.ReflTransGen SessionChange system.shared after.shared ∧
      ∀ connection,
        (after.programs connection).Guarantees SessionChange :=
  System.chain_of_steps SessionChange.refl
    (by
      rintro program ⟨command, rfl⟩
      exact guarantees_command env command)
    (fun _ _ => logsChange_change) current steps

theorem sessionsSound_of_changes {before after : Workspace}
    (sound : SessionsSound before)
    (changes : Relation.ReflTransGen SessionChange before after) :
    SessionsSound after := by
  induction changes with
  | refl => exact sound
  | tail _ change ih => exact ih.step change

theorem mem_of_changes {before after : Workspace}
    (changes : Relation.ReflTransGen SessionChange before after)
    {row : SessionRun} (member : row ∈ before.sessionRuns)
    (closed : row.status ≠ .running) : row ∈ after.sessionRuns := by
  induction changes with
  | refl => exact member
  | tail _ change ih => exact change.keeps_closed ih closed

/-- What holds of the session rows of a system, and of a later one. -/
structure SessionContract (env : LedgerEnv)
    (system later : System Workspace AppError Unit Connection) : Prop where
  oneRunning : ∀ first ∈ system.shared.sessionRuns,
    ∀ second ∈ system.shared.sessionRuns,
      first.sessionId = second.sessionId → first.status = .running →
        second.status = .running → first = second
  distinctIndices : ∀ first ∈ system.shared.sessionRuns,
    ∀ second ∈ system.shared.sessionRuns,
      first.sessionId = second.sessionId →
        first.sessionIndex = second.sessionIndex → first = second
  /-- A run that the next step admits has the greatest index. -/
  admittedNewest : ∀ next, LedgerStep env Connection system next →
    ∀ row ∈ next.shared.sessionRuns,
      (∀ present ∈ system.shared.sessionRuns, present.runId ≠ row.runId) →
      ∀ present ∈ system.shared.sessionRuns,
        present.sessionId = row.sessionId →
          present.sessionIndex < row.sessionIndex
  closedKept : ∀ row ∈ system.shared.sessionRuns, row.status ≠ .running →
    row ∈ later.shared.sessionRuns
  answered : ∀ row ∈ system.shared.sessionRuns, row.status = .finished →
    row.finalAnswer.isSome ∧ row.error = none
  failed : ∀ row ∈ system.shared.sessionRuns,
    row.status = .failed ∨ row.status = .canceled ∨
        row.status = .interrupted →
      row.finalAnswer = none ∧ row.error.isSome

/-- For every interleaving of the ledger functions over any connections: a
session has at most one running run, its indices are distinct and a run is
admitted with the greatest of them, a row that is not running stays as it is,
and a closed row shows exactly its answer or its error. -/
theorem sessionContract_of_interleaving
    {system later : System Workspace AppError Unit Connection}
    (reached : Relation.ReflTransGen (LedgerStep env Connection)
      (idleConnections Connection) system)
    (continued : Relation.ReflTransGen (LedgerStep env Connection) system
      later) :
    SessionContract env system later := by
  have emptySound : SessionsSound Workspace.empty :=
    ⟨fun _ member => absurd member UniqueTable.not_mem_empty,
      fun _ member => absurd member UniqueTable.not_mem_empty⟩
  have idle : ∀ connection, ((idleConnections Connection).programs
      connection).Guarantees SessionChange := fun _ => trivial
  obtain ⟨changes, current⟩ := sessionChanges_of_steps idle reached
  have sound := sessionsSound_of_changes emptySound changes
  refine ⟨sound.oneRunning, ?_, ?_, ?_,
    fun row member => (sound.shaped row member).1,
    fun row member => (sound.shaped row member).2⟩
  · intro first firstMember second secondMember owned sameIndex
    refine UniqueTable.eq_of_shared_key firstMember secondMember
      (.sessionIndex first.sessionId first.sessionIndex) ?_ ?_
    · simp [SessionRun.keys]
    · simp [SessionRun.keys, owned, sameIndex]
  · intro next step row member fresh present old owned
    have change := (System.step_guarantees SessionChange.refl
      (by
        rintro program ⟨command, rfl⟩
        exact guarantees_command env command)
      (fun _ _ => logsChange_change) current step).1
    exact change.admits_newest member fresh old owned
  · intro row member closed
    exact mem_of_changes (sessionChanges_of_steps current continued).1 member
      closed

end Interleaving

/-- The system after an idle connection issued a command and finished it. -/
def afterCommand {Connection : Type} [DecidableEq Connection]
    (env : LedgerEnv) (connection : Connection) (command : LedgerCommand)
    (system : System Workspace AppError Unit Connection) :
    System Workspace AppError Unit Connection where
  shared := ((command.program env).run system.shared).2
  programs := Function.update system.programs connection
    (.finish ((command.program env).run system.shared).1)

theorem steps_afterCommand {Connection : Type} [DecidableEq Connection]
    (env : LedgerEnv) {connection : Connection} {outcome : Except AppError Unit}
    (command : LedgerCommand)
    {system : System Workspace AppError Unit Connection}
    (idle : system.programs connection = .finish outcome) :
    Relation.ReflTransGen (LedgerStep env Connection) system
      (afterCommand env connection command system) :=
  System.steps_of_run idle ⟨command, rfl⟩

/-- One of two connections has admitted the first run of a session. -/
def firstAdmitted : System Workspace AppError Unit Bool :=
  afterCommand ledgerEnv false
    (.begin "session_1" firstRun "question" true) (idleConnections Bool)

/-- While that run is running, the other connection is refused. -/
theorem sessionContract_refused :
    ∃ later, Relation.ReflTransGen (LedgerStep ledgerEnv Bool)
        (idleConnections Bool) firstAdmitted ∧
      Relation.ReflTransGen (LedgerStep ledgerEnv Bool) firstAdmitted later ∧
      firstAdmitted.shared.sessionRuns.rows =
        [admittedRow "session_1" firstRun "question" 0 1700000000000] ∧
      later.programs true =
        .finish (.error (.sessionActive "session_1" "run_1")) ∧
      SessionContract ledgerEnv firstAdmitted later := by
  have reached : Relation.ReflTransGen (LedgerStep ledgerEnv Bool)
      (idleConnections Bool) firstAdmitted :=
    steps_afterCommand ledgerEnv _ rfl
  have continued : Relation.ReflTransGen (LedgerStep ledgerEnv Bool)
      firstAdmitted (afterCommand ledgerEnv true
        (.begin "session_1" secondRun "question" true) firstAdmitted) :=
    steps_afterCommand ledgerEnv _ rfl
  exact ⟨_, reached, continued, rfl, rfl,
    sessionContract_of_interleaving reached continued⟩

end PlatoAgent
