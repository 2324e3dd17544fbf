import PlatoAgent.LedgerLifecycle

/-!
# Runs that recovery cannot close

Recovery closes the running rows one after the other and stops at the first
that it cannot close.  In the states a process can leave behind there are six
kinds of such runs: a run without any ledger, a log that opens with profile
revision zero, a ledger with an event that nests too deep to be read, a ledger
that belongs to another run, a finished run without an answer, and a run whose
rows are used up.
-/

namespace PlatoAgent

open AtomicProgram

variable {env : LedgerEnv} {error : String} {workspace after : Workspace}
  {runId : RunId} {records : List RecordedEvent} {state : RunState}

/-- The ledger of the run holds these records, in its log or else in rows. -/
def Holds (env : LedgerEnv) (workspace : Workspace) (runId : RunId)
    (records : List RecordedEvent) : Prop :=
  TornLog env workspace (runJsonlPath runId) records ∨
    (workspace.files (runJsonlPath runId) = none ∧
      RowsHold env workspace runId records)

/-- The runs that stop recovery. -/
inductive Blocked (env : LedgerEnv) (workspace : Workspace) (runId : RunId) :
    Prop where
  | neverStarted (noLog : workspace.files (runJsonlPath runId) = none)
      (noRows : workspace.eventRows runId = [])
  /-- The log holds a `run_started` that the reader refuses. -/
  | zeroRevision (records : List RecordedEvent)
      (log : TornLog env workspace (runJsonlPath runId) records)
      (refused : ∃ record ∈ records, record.event.zeroRevision = true)
  /-- An event of the log is too deep for the parser. -/
  | deepLine (records : List RecordedEvent)
      (log : TornLog env workspace (runJsonlPath runId) records)
      (deep : ∃ record ∈ records, record.event.fitsLine = false)
  /-- There is no log, and an event of the rows is too deep for the parser. -/
  | deepRow (records : List RecordedEvent)
      (noLog : workspace.files (runJsonlPath runId) = none)
      (rows : RowsHold env workspace runId records)
      (deep : ∃ record ∈ records, record.event.fitsColumn = false)
  /-- The run is not over, and its events name another run. -/
  | otherRun (records : List RecordedEvent) (state : RunState)
      (held : Holds env workspace runId records)
      (replayed : RunState.replay records = .ok state)
      (started : records ≠ []) (ongoing : state.phase.isOver = false)
      (other : state.runId ≠ some runId)
  /-- The run is finished, but no message of the assistant is recorded. -/
  | unanswered (records : List RecordedEvent) (state : RunState)
      (held : Holds env workspace runId records)
      (replayed : RunState.replay records = .ok state)
      (finished : state.phase = .finished)
      (silent : ∀ record ∈ records, record.event.assistantAnswer = none)
  /-- The run is not over, and no column value is left for its next event. -/
  | full (records : List RecordedEvent) (state : RunState)
      (noLog : workspace.files (runJsonlPath runId) = none)
      (rows : RowsHold env workspace runId records)
      (replayed : RunState.replay records = .ok state)
      (ongoing : state.phase.isOver = false)
      (length : 2 ^ 63 ≤ records.length)

theorem TornLog.ledgerRecords_eq
    (log : TornLog env workspace (runJsonlPath runId) records) :
    ledgerRecords env workspace runId =
      recordsOf env (logBytes env records) := by
  obtain ⟨tail, torn, content⟩ := log.content
  rw [ledgerRecords, content]
  exact recordsOf_torn env (committed_logBytes env records) torn

theorem Holds.eq_of_read (held : Holds env workspace runId records)
    {read : List RecordedEvent}
    (reads : ledgerRecords env workspace runId = .ok read) :
    read = records := by
  rcases held with log | ⟨noLog, rows⟩
  · rw [log.ledgerRecords_eq] at reads
    exact eq_of_recordsOf_logBytes reads
  · rw [ledgerRecords, noLog] at reads
    exact rows.eq_of_read reads

theorem TornLog.readable_of_read
    (log : TornLog env workspace (runJsonlPath runId) records)
    {read : List RecordedEvent}
    (reads : ledgerRecords env workspace runId = .ok read) :
    ∀ record ∈ records, record.event.refused = false := by
  rw [log.ledgerRecords_eq] at reads
  obtain rfl := eq_of_recordsOf_logBytes reads
  exact recordsOf_logBytes_ok_iff.mp reads

theorem finalAnswerFromRecords_ok_iff (runId : RunId) :
    (∃ answer, finalAnswerFromRecords runId records = .ok answer) ↔
      ∃ record ∈ records, record.event.assistantAnswer ≠ none := by
  unfold finalAnswerFromRecords
  cases found : records.reverse.findSome? (·.event.assistantAnswer) with
  | none =>
      rw [List.findSome?_eq_none_iff] at found
      simp only [List.mem_reverse] at found
      simpa using found
  | some answer =>
      obtain ⟨record, member, answers⟩ := List.exists_of_findSome?_eq_some found
      simp only [Except.ok.injEq, exists_eq', true_iff]
      exact ⟨record, List.mem_reverse.mp member, by simp [answers]⟩

theorem recoveredOutcome_isSome_iff {logged : Bool} :
    (recoveredOutcome error runId logged records state).isSome = true ↔
      (state.phase = .finished →
        ∃ record ∈ records, record.event.assistantAnswer ≠ none) ∧
      (state.phase.isOver = false →
        endable runId logged records state = true) := by
  rw [← finalAnswerFromRecords_ok_iff runId]
  unfold recoveredOutcome terminalOutcome
  cases state.phase with
  | finished =>
      cases finalAnswerFromRecords runId records <;>
        simp [Except.map, Except.toOption, RunPhase.isOver]
  | failed reason => simp [Except.toOption, RunPhase.isOver]
  | _ => cases endable runId logged records state <;> simp [RunPhase.isOver]

theorem endable_iff {logged : Bool} :
    endable runId logged records state = true ↔
      (records = [] → logged = true) ∧
        (records ≠ [] → state.runId = some runId ∧
          (logged = false → records.length < 2 ^ 63)) := by
  cases records with
  | nil => simp [endable]
  | cons first rest => cases logged <;> simp [endable]

/-- In a durable workspace, recovery stores an outcome for a run exactly if the
run is not blocked. -/
theorem recoveryOutcome_isSome_iff (durable : Durable env workspace) :
    (recoveryOutcome env error workspace runId).isSome = true ↔
      ¬ Blocked env workspace runId := by
  constructor
  · intro recovers blocked
    obtain ⟨outcome, found⟩ := Option.isSome_iff_exists.mp recovers
    obtain ⟨read, reached, reads, replays, recovered⟩ :=
      recoveryOutcome_eq_some_iff.mp found
    obtain ⟨answered, ends⟩ := recoveredOutcome_isSome_iff.mp
      (Option.isSome_iff_exists.mpr ⟨outcome, recovered⟩)
    rw [endable_iff] at ends
    cases blocked with
    | neverStarted noLog noRows =>
        obtain rfl := Holds.eq_of_read
          (.inr ⟨noLog, rowsHold_nil env noRows⟩) reads
        obtain rfl : RunState.new = reached := Except.ok.inj replays
        have logged := (ends rfl).1 rfl
        rw [noLog] at logged
        cases logged
    | zeroRevision records log refused =>
        obtain ⟨record, member, zero⟩ := refused
        have accepted := log.readable_of_read reads record member
        simp [HarnessEvent.refused, zero] at accepted
    | deepLine records log deep =>
        obtain ⟨record, member, unfit⟩ := deep
        have accepted := log.readable_of_read reads record member
        simp [HarnessEvent.refused, unfit] at accepted
    | deepRow records noLog rows deep =>
        obtain ⟨record, member, unfit⟩ := deep
        rw [ledgerRecords, noLog] at reads
        obtain rfl := rows.eq_of_read reads
        rw [rows.read_ok_iff.mp reads record member] at unfit
        cases unfit
    | otherRun records state held replayed started ongoing other =>
        obtain rfl := held.eq_of_read reads
        rw [replayed] at replays
        obtain rfl := Except.ok.inj replays
        exact other ((ends ongoing).2 started).1
    | unanswered records state held replayed finished silent =>
        obtain rfl := held.eq_of_read reads
        rw [replayed] at replays
        obtain rfl := Except.ok.inj replays
        obtain ⟨record, member, answers⟩ := answered finished
        exact answers (silent record member)
    | full records state noLog rows replayed ongoing length =>
        obtain rfl := Holds.eq_of_read (.inr ⟨noLog, rows⟩) reads
        rw [replayed] at replays
        obtain rfl := Except.ok.inj replays
        have started : read ≠ [] := by
          rintro rfl
          simp at length
        have room := ((ends ongoing).2 started).2 (by rw [noLog]; rfl)
        omega
  · intro free
    obtain ⟨records, state, held, read, replayed⟩ : ∃ records state,
        Holds env workspace runId records ∧
          ledgerRecords env workspace runId = .ok records ∧
          RunState.replay records = .ok state := by
      rcases durable (.log (runJsonlPath runId)) with noLog | ⟨records, log⟩
      · obtain ⟨⟨records, state, rows, replayed⟩, _⟩ := durable (.rows runId)
        refine ⟨records, state, .inr ⟨noLog, rows⟩, ?_, replayed⟩
        rw [ledgerRecords, noLog]
        refine rows.read_ok_iff.mpr fun record member => ?_
        by_contra unfit
        exact free (.deepRow records noLog rows
          ⟨record, member, by simpa using unfit⟩)
      · obtain ⟨state, replayed⟩ := log.replayed
        refine ⟨records, state, .inl log, ?_, replayed⟩
        rw [log.ledgerRecords_eq]
        refine recordsOf_logBytes fun record member => ?_
        by_contra refused
        simp only [HarnessEvent.refused, Bool.not_eq_false, Bool.or_eq_true,
          Bool.not_eq_true'] at refused
        rcases refused with zero | unfit
        · exact free (.zeroRevision records log ⟨record, member, zero⟩)
        · exact free (.deepLine records log ⟨record, member, unfit⟩)
    rw [recoveryOutcome_of_ledger read replayed, recoveredOutcome_isSome_iff,
      endable_iff]
    refine ⟨fun finished => ?_, fun ongoing => ⟨fun empty => ?_,
      fun started => ⟨?_, fun unlogged => ?_⟩⟩⟩
    · by_contra silent
      push Not at silent
      exact free (.unanswered records state held replayed finished silent)
    · by_contra unlogged
      have noLog : workspace.files (runJsonlPath runId) = none := by
        simpa using unlogged
      rcases held with ⟨⟨_, _, content⟩, _⟩ | ⟨_, rows⟩
      · rw [noLog] at content
        cases content
      · exact free (.neverStarted noLog (by simp [rows.rows, empty]))
    · by_contra other
      exact free (.otherRun records state held replayed started ongoing other)
    · have noLog : workspace.files (runJsonlPath runId) = none := by
        simpa using unlogged
      rcases held with ⟨⟨_, _, content⟩, _⟩ | ⟨_, rows⟩
      · rw [noLog] at content
        cases content
      · by_contra long
        exact free (.full records state noLog rows replayed ongoing (by omega))

/-- The loop ends well exactly if every row has an outcome, and then no row is
running. -/
theorem recoverEach_succeeds_iff (fits : ClockFits env)
    {rows : List SessionRun} (listed : workspace.runningRuns = rows) :
    (∃ after, (recoverEach env error rows).run workspace = (.ok (), after) ∧
        after.runningRuns = []) ↔
      ∀ row ∈ rows,
        (recoveryOutcome env error workspace row.runId).isSome = true := by
  induction rows generalizing workspace with
  | nil =>
      simp only [List.not_mem_nil, false_imp_iff, implies_true, iff_true]
      exact ⟨workspace, rfl, listed⟩
  | cons row rest ih =>
      have running : Running workspace row.runId := running_of_mem (by
        rw [listed]
        exact List.mem_cons_self)
      have distinct := runningRuns_distinct workspace
      rw [listed, List.pairwise_cons] at distinct
      rw [List.forall_mem_cons]
      rcases recoverSessionRun_run fits running error with
        ⟨outcome, middle, found, ran, recovered⟩ |
          ⟨failure, stopped, missing, ran, _⟩
      · have remaining := recovered.closed.runningRuns_eq listed
          (recoveryOutcome_status found)
        rw [recoverEach_run_ok ran, ih remaining, found]
        simp only [Option.isSome_some, true_and]
        refine forall₂_congr fun other member => ?_
        rw [(recovered.elsewhere error
          (Ne.symm (distinct.1 other member))).1]
      · rw [recoverEach_run_error ran, missing]
        simp

def InterruptContract (env : LedgerEnv) (error : String)
    (workspace : Workspace) : Prop :=
  ∃ count after,
    (interruptRunningSessionRuns env error).run workspace =
      (.ok count, after) ∧
    ∀ row ∈ after.sessionRuns, row.status ≠ .running

theorem interruptContract_iff :
    InterruptContract env error workspace ↔
      ∃ after, (recoverEach env error workspace.runningRuns).run workspace =
          (.ok (), after) ∧ after.runningRuns = [] := by
  have listed : (Program.inspect fun workspace : Workspace =>
      (.ok workspace.runningRuns : Except AppError _)).run workspace =
        (.ok workspace.runningRuns, workspace) := rfl
  have none_running : ∀ after : Workspace, after.runningRuns = [] ↔
      ∀ row ∈ after.sessionRuns, row.status ≠ .running := by
    intro after
    rw [List.eq_nil_iff_forall_not_mem]
    refine forall_congr' fun row => ?_
    rw [mem_runningRuns, not_and]
  rw [InterruptContract, interruptRunningSessionRuns,
    recoverRunningSessionRuns, Program.run_bind_ok listed, Program.run_bind]
  rcases (recoverEach env error workspace.runningRuns).run workspace with
    ⟨_ | _, after⟩
  · simp
  · simp [none_running]

/-- In every state that calls, dropped recorders and crashes can leave behind,
`interrupt_running_session_runs` closes all running runs exactly if none of them
is blocked. -/
theorem interruptContract_iff_unblocked (env : LedgerEnv)
    (fits : ClockFits env) (error : String) (process : LedgerProcess)
    (reached : Relation.ReflTransGen (LedgerProcess.Step env)
      LedgerProcess.initial process) :
    InterruptContract env error process.workspace ↔
      ∀ runId, Running process.workspace runId →
        ¬ Blocked env process.workspace runId := by
  have durable := (LedgerProcess.sound_of_steps reached).durable
  rw [interruptContract_iff, recoverEach_succeeds_iff fits rfl]
  constructor
  · intro recovers runId running
    obtain ⟨row, member, isRunning⟩ := running
    obtain ⟨rfl, status⟩ : row.runId = runId ∧ row.status = .running := by
      simpa [SessionRun.isRunning] using isRunning
    exact (recoveryOutcome_isSome_iff durable).mp
      (recovers row (mem_runningRuns.mpr ⟨member, status⟩))
  · intro free row member
    exact (recoveryOutcome_isSome_iff durable).mpr
      (free row.runId (running_of_mem member))

theorem admittedFirst_reached :
    Relation.ReflTransGen (LedgerProcess.Step ledgerEnv)
      LedgerProcess.initial ⟨admittedFirst, []⟩ := by
  have issued : LedgerCall ledgerEnv [] _ := .createJsonl [] (fun _ => .ok ())
    "session_1" firstRun "question" true
  refine .single (.crashed issued ?_)
  exact Program.passes_end _ _

theorem interruptContract_admittedFirst :
    InterruptContract ledgerEnv "daemon restarted" admittedFirst := by
  have durable := (LedgerProcess.sound_of_steps admittedFirst_reached).durable
  refine (interruptContract_iff_unblocked ledgerEnv ledgerEnv_fits
    "daemon restarted" ⟨admittedFirst, []⟩ admittedFirst_reached).mpr ?_
  rintro runId ⟨row, member, isRunning⟩
  have onlyRow : row ∈ [firstRow] := member
  obtain rfl := List.mem_singleton.mp onlyRow
  obtain rfl : firstRun = runId := by
    simp only [SessionRun.isRunning, Bool.and_eq_true, beq_iff_eq] at isRunning
    exact isRunning.1
  have recovers : (recoveryOutcome ledgerEnv "daemon restarted" admittedFirst
      firstRun).isSome = true := rfl
  exact (recoveryOutcome_isSome_iff durable).mp recovers

def admitSqlite : LedgerM SqliteEventRecorder :=
  beginSessionRecorder ledgerEnv (fun _ => .ok ()) "session_1" firstRun
    "question" true

/-- The workspace after the recorder was dropped without any event. -/
def droppedFirst : Workspace :=
  ((SqliteEventRecorder.fromSession firstRun).drop ledgerEnv).run
    (admitSqlite.run Workspace.empty).2 |>.2

theorem droppedFirst_reached :
    Relation.ReflTransGen (LedgerProcess.Step ledgerEnv)
      LedgerProcess.initial ⟨droppedFirst, []⟩ := by
  have created : LedgerProcess.Step ledgerEnv .initial
      ⟨(admitSqlite.run Workspace.empty).2, [.sqlite (.fromSession firstRun)]⟩ :=
    .completed (.createSqlite [] (fun _ => .ok ()) "session_1" firstRun
      "question" true) rfl
  have dropped : LedgerProcess.Step ledgerEnv
      ⟨(admitSqlite.run Workspace.empty).2, [.sqlite (.fromSession firstRun)]⟩
      ⟨droppedFirst, []⟩ :=
    .completed (.drop [] [] (.sqlite (.fromSession firstRun))) rfl
  exact .head created (.single dropped)

/-- A run that was admitted to the tables and never started cannot be recovered:
the core rejects the failure that its dropped recorder offers, and recovery
stops at its empty ledger. -/
theorem not_interruptContract_droppedFirst :
    Relation.ReflTransGen (LedgerProcess.Step ledgerEnv)
        LedgerProcess.initial ⟨droppedFirst, []⟩ ∧
      ((interruptRunningSessionRuns ledgerEnv "daemon restarted").run
        droppedFirst).1 = .error (.config
          "running session run run_1 has no ledger events") ∧
      ¬ InterruptContract ledgerEnv "daemon restarted" droppedFirst := by
  have stops : ((interruptRunningSessionRuns ledgerEnv
      "daemon restarted").run droppedFirst).1 = .error (.config
        "running session run run_1 has no ledger events") := rfl
  refine ⟨droppedFirst_reached, stops, ?_⟩
  rintro ⟨count, after, ran, _⟩
  rw [ran] at stops
  cases stops

end PlatoAgent
