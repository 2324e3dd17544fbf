import PlatoAgent.LedgerBackends
import PlatoAgent.LedgerRunRecovery

/-!
# Places of the ledger

A recorder writes to one place: a log, or the rows of a run.  Each of its calls,
however it is cut, leaves the other places as they are and a ledger that replays
in its own; session rows may be closed but do not go.
-/

namespace PlatoAgent

open AtomicProgram

/-- Where a recorder writes: a log, or the rows of a run. -/
inductive Place where
  | log (path : String)
  | rows (runId : RunId)
  deriving DecidableEq

/-- The run has a session row, running or closed. -/
def HasRow (workspace : Workspace) (runId : RunId) : Prop :=
  ∃ row ∈ workspace.sessionRuns, row.runId = runId

/-- The place is as it was; a session row of its run is still there. -/
def SameAt (workspace after : Workspace) : Place → Prop
  | .log path => after.files path = workspace.files path
  | .rows runId => after.eventRows runId = workspace.eventRows runId ∧
      (HasRow workspace runId → HasRow after runId)

/-- What a place holds replays. -/
def Valid (env : LedgerEnv) (workspace : Workspace) : Place → Prop
  | .log path => workspace.files path = none ∨
      ∃ records, TornLog env workspace path records
  | .rows runId =>
      (∃ records state, RowsHold env workspace runId records ∧
          RunState.replay records = .ok state) ∧
        (workspace.eventRows runId ≠ [] → HasRow workspace runId)

/-- Only this place may have changed, and what it holds replays. -/
def Acts (env : LedgerEnv) (place : Option Place)
    (workspace after : Workspace) : Prop :=
  ∀ other, SameAt workspace after other ∨
    (place = some other ∧ Valid env after other)

variable {env : LedgerEnv} {place : Option Place}
  {workspace middle after cut : Workspace}

theorem SameAt.refl (workspace : Workspace) (place : Place) :
    SameAt workspace workspace place := by
  cases place with
  | log path => rfl
  | rows runId => exact ⟨rfl, id⟩

theorem SameAt.trans {place : Place} (first : SameAt workspace middle place)
    (second : SameAt middle after place) : SameAt workspace after place := by
  cases place with
  | log path => exact Eq.trans second first
  | rows runId =>
      exact ⟨second.1.trans first.1, fun present =>
        second.2 (first.2 present)⟩

theorem Valid.of_sameAt {place : Place} (valid : Valid env workspace place)
    (same : SameAt workspace after place) : Valid env after place := by
  cases place with
  | log path =>
      have file : after.files path = workspace.files path := same
      rcases valid with absent | ⟨records, ⟨tail, torn, content⟩, replayed⟩
      · exact .inl (file.trans absent)
      · exact .inr ⟨records, ⟨tail, torn, file.trans content⟩, replayed⟩
  | rows runId =>
      obtain ⟨⟨records, state, held, replayed⟩, filed⟩ := valid
      refine ⟨⟨records, state, held.of_sameRows same.1, replayed⟩,
        fun nonempty => ?_⟩
      rw [same.1] at nonempty
      exact same.2 (filed nonempty)

theorem Acts.refl (env : LedgerEnv) (place : Option Place)
    (workspace : Workspace) : Acts env place workspace workspace :=
  fun other => .inl (.refl workspace other)

theorem Acts.trans (first : Acts env place workspace middle)
    (second : Acts env place middle after) :
    Acts env place workspace after := by
  intro other
  rcases second other with same | changed
  · rcases first other with same' | ⟨own, valid⟩
    · exact .inl (same'.trans same)
    · exact .inr ⟨own, valid.of_sameAt same⟩
  · exact .inr changed

/-- However the program is cut or ends, it acted on this place only. -/
def ActsOnly (env : LedgerEnv) (place : Option Place) (workspace : Workspace)
    {Result : Type} (program : LedgerM Result) : Prop :=
  ∀ cut, program.Passes workspace cut → Acts env place workspace cut

section ActsOnly

variable {First Second : Type}

theorem ActsOnly.finish (env : LedgerEnv) (place : Option Place)
    (workspace : Workspace) (outcome : Except AppError First) :
    ActsOnly env place workspace (.finish outcome) := by
  intro cut passes
  obtain rfl : cut = workspace := passes
  exact .refl _ _ _

theorem ActsOnly.attempt {program : LedgerM First}
    (acts : ActsOnly env place workspace program) :
    ActsOnly env place workspace program.attempt :=
  fun cut passes => acts cut (Program.passes_attempt.mp passes)

theorem ActsOnly.bind {program : LedgerM First}
    {continuation : First → LedgerM Second}
    (first : ActsOnly env place workspace program)
    (second : ∀ result middle, program.run workspace = (.ok result, middle) →
      ActsOnly env place middle (continuation result)) :
    ActsOnly env place workspace (program >>= continuation) := by
  intro cut passes
  rw [Program.passes_bind] at passes
  rcases passes with inside | ⟨result, middle, ran, later⟩
  · exact first cut inside
  · exact (first middle (Program.passes_of_run ran)).trans
      (second result middle ran cut later)

end ActsOnly

/-- Every place of the workspace replays. -/
def Durable (env : LedgerEnv) (workspace : Workspace) : Prop :=
  ∀ place, Valid env workspace place

theorem Durable.of_acts (durable : Durable env workspace)
    (acts : Acts env place workspace after) : Durable env after := by
  intro other
  rcases acts other with same | ⟨_, valid⟩
  · exact (durable other).of_sameAt same
  · exact valid

/-- Logs and event rows are as before, and no session row is gone. -/
structure SessionOnly (workspace after : Workspace) : Prop where
  files : after.files = workspace.files
  ledgerEvents : after.ledgerEvents = workspace.ledgerEvents
  kept : ∀ runId, HasRow workspace runId → HasRow after runId

theorem SessionOnly.refl (workspace : Workspace) :
    SessionOnly workspace workspace :=
  ⟨rfl, rfl, fun _ => id⟩

theorem SessionOnly.trans (first : SessionOnly workspace middle)
    (second : SessionOnly middle after) : SessionOnly workspace after :=
  ⟨second.files.trans first.files,
    second.ledgerEvents.trans first.ledgerEvents,
    fun runId present => second.kept runId (first.kept runId present)⟩

theorem SessionOnly.tick (workspace : Workspace) :
    SessionOnly workspace workspace.tick :=
  ⟨rfl, rfl, fun _ => id⟩

theorem SessionOnly.sameAt (same : SessionOnly workspace after)
    (place : Place) : SameAt workspace after place := by
  cases place with
  | log path => exact congrFun same.files path
  | rows runId =>
      refine ⟨?_, same.kept runId⟩
      simp [Workspace.eventRows, same.ledgerEvents]

theorem SessionOnly.acts (same : SessionOnly workspace after) :
    Acts env place workspace after :=
  fun other => .inl (same.sameAt other)

/-- A program that guarantees this changes session rows only, however it is
cut. -/
theorem sessionOnly_of_passes {Result : Type} {program : LedgerM Result}
    (guarantees : program.Guarantees SessionOnly)
    (passes : program.Passes workspace cut) : SessionOnly workspace cut := by
  have chain := Program.chain_of_passes guarantees passes
  clear passes
  induction chain with
  | refl => exact .refl workspace
  | tail _ step ih => exact ih.trans step

theorem SessionOnly.actsOnly {Result : Type} {program : LedgerM Result}
    (guarantees : program.Guarantees SessionOnly) :
    ActsOnly env place workspace program :=
  fun _ passes => (sessionOnly_of_passes guarantees passes).acts

theorem hasRow_closeRun {runId other : RunId} {outcome : SessionOutcome}
    {now : Int64} (present : HasRow workspace other) :
    HasRow (workspace.closeRun runId outcome now) other := by
  obtain ⟨row, member, named⟩ := present
  refine ⟨if row.isRunning runId then row.close outcome now else row,
    List.mem_map.mpr ⟨row, member, rfl⟩, ?_⟩
  split
  · exact named
  · exact named

theorem nowMs_sessionOnly : (nowMs env).Guarantees SessionOnly :=
  fun workspace => ⟨.tick workspace, trivial⟩

theorem nowColumn_sessionOnly : (nowColumn env).Guarantees SessionOnly :=
  Program.guarantees_bind nowMs_sessionOnly fun _ => trivial

theorem completeSessionTerminal_sessionOnly {runId : RunId}
    {outcome : SessionOutcome} :
    (completeSessionTerminal env runId outcome).Guarantees SessionOnly := by
  refine Program.guarantees_bind nowColumn_sessionOnly fun now => ?_
  refine guarantees_transaction SessionOnly.refl ?_
  intro before result after commits
  obtain ⟨row, _, rfl⟩ := commits_completeTerminalIn.mp commits
  exact ⟨rfl, rfl, fun _ => hasRow_closeRun⟩

section Admission

variable {sessionId question : String} {runId : RunId}
  {createSession : Bool}

theorem beginSessionRun_sessionOnly :
    (beginSessionRun env sessionId runId question createSession).Guarantees
      SessionOnly := by
  refine Program.guarantees_bind nowColumn_sessionOnly fun now => ?_
  refine Program.guarantees_bind ?_ fun _ =>
    Program.guarantees_inspect SessionOnly.refl _
  refine guarantees_transaction SessionOnly.refl ?_
  intro before result after commits
  obtain ⟨_, index, _, inserted, events, files, _⟩ :=
    commits_admitSessionRun commits
  refine ⟨files, events, ?_⟩
  rintro other ⟨row, member, named⟩
  exact ⟨row, (UniqueTable.mem_insert? inserted).mpr (.inl member), named⟩

/-- An admitted run had no row, and has one now. -/
theorem beginSessionRun_fresh {turns : List SessionTurn}
    (admitted : (beginSessionRun env sessionId runId question
      createSession).run workspace = (.ok turns, after)) :
    ¬ HasRow workspace runId ∧ HasRow after runId := by
  obtain ⟨now, ticked, clock, admitted⟩ :=
    Program.exists_of_run_bind_ok admitted
  obtain ⟨_, reached, entered, listed⟩ :=
    Program.exists_of_run_bind_ok admitted
  obtain rfl : reached = after := (Prod.mk.inj listed).2
  have before := sessionOnly_of_passes nowColumn_sessionOnly
    ((nowColumn env).passes_end workspace)
  rw [clock] at before
  rcases transaction_run_cases (admitSessionRun sessionId runId question
    createSession now) ticked with ⟨_, _, commits, ran⟩ | ⟨_, _, ran⟩
  · rw [ran] at entered
    obtain ⟨_, rfl⟩ := Prod.mk.inj entered
    obtain ⟨_, index, _, inserted, _⟩ := commits_admitSessionRun commits
    refine ⟨?_, admittedRow sessionId runId question index now,
      (UniqueTable.mem_insert? inserted).mpr (.inr rfl), rfl⟩
    intro present
    obtain ⟨row, member, named⟩ := before.kept runId present
    refine (UniqueTable.insert?_eq_some inserted).2 row member (.runId runId)
      ?_ ?_
    · simp [SessionRun.keys, named]
    · simp [SessionRun.keys, admittedRow]
  · rw [ran] at entered
    cases entered

end Admission

theorem Acts.of_log {path : String} {records : List RecordedEvent}
    (logOnly : LogOnly path workspace after)
    (log : TornLog env after path records) :
    Acts env (some (.log path)) workspace after := by
  intro other
  cases other with
  | log otherPath =>
      by_cases same : otherPath = path
      · subst same
        exact .inr ⟨rfl, .inr ⟨records, log⟩⟩
      · exact .inl (logOnly.files otherPath same)
  | rows runId =>
      refine .inl ⟨?_, ?_⟩
      · simp [Workspace.eventRows, logOnly.ledgerEvents]
      · rw [HasRow, HasRow, logOnly.sessionRuns]
        exact id

section Logs

variable {recorder : JsonlEventRecorder} {records : List RecordedEvent}
  {event : HarnessEvent}

theorem Logged.recordEvent_acts
    (logged : Logged env workspace recorder records) (event : HarnessEvent) :
    ActsOnly env (some (.log recorder.path)) workspace
      (recorder.recordEvent env event) := by
  intro cut passes
  rcases JsonlEventRecorder.recordEvent_passes logged.healthy passes with
    rfl | rfl | ⟨record, state, accepted, count, bound, rfl⟩
  · exact .refl _ _ _
  · exact (SessionOnly.tick workspace).acts
  · obtain ⟨rfl, stepped⟩ := nextRecordAt_ok_iff.mp accepted
    have logOnly := (LogOnly.tick recorder.path workspace).trans
      (LogOnly.modifyFile recorder.path workspace.tick (· ++ (lineBytes env
        (recorder.state.stamp (env.clock workspace.clockReadings)
          event)).take count))
    rcases Nat.lt_or_eq_of_le bound with torn | whole
    · refine .of_log logOnly ⟨⟨_, newline_not_mem_take_lineBytes torn, ?_⟩,
        recorder.state, logged.replayed⟩
      simp [logged.content]
    · refine .of_log logOnly ⟨⟨[], List.not_mem_nil, ?_⟩, state,
        RunState.replay_concat_ok_iff.mpr ⟨_, logged.replayed, stepped⟩⟩
      simp [logged.content, whole, logBytes_concat]

/-- A call leaves the recorder at the end of its log, accepted or not. -/
theorem Logged.recordEvent_cases
    (logged : Logged env workspace recorder records)
    (event : HarnessEvent) :
    (∃ record recorded after,
      (recorder.recordEvent env event).run workspace =
        (.ok (record, recorded), after) ∧
      recorded.path = recorder.path ∧ recorded.session = recorder.session ∧
      ∃ records, Logged env after recorded records) ∨
    (∃ error, (recorder.recordEvent env event).run workspace =
      (.error error, workspace.tick)) := by
  cases offered : nextRecordAt (env.clock workspace.clockReadings)
      recorder.state event with
  | error error =>
      exact .inr ⟨error,
        JsonlEventRecorder.recordEvent_run_error logged.healthy offered⟩
  | ok pair =>
      obtain ⟨record, state⟩ := pair
      obtain ⟨rfl, stepped⟩ := nextRecordAt_ok_iff.mp offered
      refine .inl ⟨_, _, _, JsonlEventRecorder.recordEvent_run_ok
        logged.healthy offered, rfl, rfl, records ++ [recorder.state.stamp
          (env.clock workspace.clockReadings) event], ?_, ?_,
        logged.healthy⟩
      · simp [JsonlEventRecorder.advanced, logged.content, logBytes_concat]
      · exact RunState.replay_concat_ok_iff.mpr
          ⟨recorder.state, logged.replayed, stepped⟩

theorem Logged.withSession (logged : Logged env workspace recorder records)
    (session : Option JsonlSession) :
    Logged env workspace { recorder with session := session } records :=
  ⟨logged.content, logged.replayed, logged.healthy⟩

theorem Logged.of_sessionOnly (logged : Logged env workspace recorder records)
    (same : SessionOnly workspace after) :
    Logged env after recorder records := by
  refine ⟨?_, logged.replayed, logged.healthy⟩
  rw [same.files]
  exact logged.content

theorem Logged.record_acts (logged : Logged env workspace recorder records)
    (event : HarnessEvent) :
    ActsOnly env (some (.log recorder.path)) workspace
      (recorder.record env event) := by
  by_cases gated : (recorder.sessionOpen && event.isRunEnd) = true
  · rw [JsonlEventRecorder.record, requireApp_of_not (by simp [gated]),
      Program.ofExcept_error_bind]
    exact .finish _ _ _ _
  · rw [JsonlEventRecorder.record_of_open (by simpa using gated)]
    exact logged.recordEvent_acts event

theorem Logged.record_cases (logged : Logged env workspace recorder records)
    (event : HarnessEvent) :
    (∃ record recorded after,
      (recorder.record env event).run workspace =
        (.ok (record, recorded), after) ∧
      recorded.path = recorder.path ∧
      ∃ records, Logged env after recorded records) ∨
    (∃ error after, (recorder.record env event).run workspace =
      (.error error, after) ∧ SessionOnly workspace after) := by
  by_cases gated : (recorder.sessionOpen && event.isRunEnd) = true
  · exact .inr ⟨_, _, JsonlEventRecorder.record_run_gated gated, .refl _⟩
  · rw [JsonlEventRecorder.record_of_open (by simpa using gated)]
    rcases logged.recordEvent_cases event with
      ⟨record, recorded, after, ran, path, _, extended⟩ | ⟨error, ran⟩
    · exact .inl ⟨record, recorded, after, ran, path, extended⟩
    · exact .inr ⟨error, _, ran, .tick _⟩

/-- A terminal call touches the log and then session rows. -/
theorem Logged.recordTerminal_acts
    (logged : Logged env workspace recorder records) (event : HarnessEvent)
    (outcome : SessionOutcome) :
    ActsOnly env (some (.log recorder.path)) workspace
      (recorder.recordTerminal env event outcome) := by
  unfold JsonlEventRecorder.recordTerminal
  split
  next none =>
    refine (logged.recordEvent_acts event).attempt.bind ?_
    rintro (error | ⟨record, recorded⟩) middle _ <;> exact .finish _ _ _ _
  next session _ =>
    split
    · exact .finish _ _ _ _
    · have attempted := logged.withSession
        (some { session with terminalAttempted := true })
      refine (attempted.recordEvent_acts event).attempt.bind ?_
      rintro (error | ⟨record, recorded⟩) middle _
      · exact .finish _ _ _ _
      · refine (SessionOnly.actsOnly
          completeSessionTerminal_sessionOnly).attempt.bind ?_
        rintro (error | ⟨⟩) done _ <;> exact .finish _ _ _ _

theorem Logged.recordTerminal_run
    (logged : Logged env workspace recorder records)
    (event : HarnessEvent) (outcome : SessionOutcome) :
    ∃ result recorded after,
      (recorder.recordTerminal env event outcome).run workspace =
        (.ok (result, recorded), after) ∧
      recorded.path = recorder.path ∧
      ∃ records, Logged env after recorded records := by
  unfold JsonlEventRecorder.recordTerminal
  split
  next none =>
    rcases logged.recordEvent_cases event with
      ⟨record, recorded, after, ran, path, _, extended⟩ | ⟨error, ran⟩
    · refine ⟨.ok record, recorded, after, ?_, path, extended⟩
      rw [Program.run_bind_ok (by rw [Program.run_attempt, ran])]
      rfl
    · refine ⟨.error error, recorder, workspace.tick, ?_, rfl, records,
        logged.tick⟩
      rw [Program.run_bind_ok (by rw [Program.run_attempt, ran])]
      rfl
  next session _ =>
    split
    · exact ⟨_, recorder, workspace, rfl, rfl, records, logged⟩
    · have attempted := logged.withSession
        (some { session with terminalAttempted := true })
      rcases attempted.recordEvent_cases event with
        ⟨record, recorded, middle, ran, path, _, final, extended⟩ |
          ⟨error, ran⟩
      · -- Whether the row is closed or not, the log has the event.
        have closing := sessionOnly_of_passes
          completeSessionTerminal_sessionOnly
          ((completeSessionTerminal env session.runId outcome).passes_end
            middle)
        cases closed : (completeSessionTerminal env session.runId
            outcome).run middle with
        | mk result after =>
            rw [closed] at closing
            have attempt : (completeSessionTerminal env session.runId
                outcome).attempt.run middle = (.ok result, after) := by
              rw [Program.run_attempt, closed]
            rw [Program.run_bind_ok (by rw [Program.run_attempt, ran])]
            dsimp only
            rw [Program.run_bind_ok attempt]
            cases result with
            | error error =>
                exact ⟨_, recorded, after, rfl, path, final,
                  extended.of_sessionOnly closing⟩
            | ok _ =>
                exact ⟨_, _, after, rfl, path, final,
                  (extended.withSession _).of_sessionOnly closing⟩
      · refine ⟨.error error, { recorder with
          session := some { session with terminalAttempted := true } },
          workspace.tick, ?_, rfl, records, attempted.tick⟩
        rw [Program.run_bind_ok (by rw [Program.run_attempt, ran])]
        rfl

end Logs

section Rows

variable {recorder : SqliteEventRecorder} {records : List RecordedEvent}
  {event : HarnessEvent}

/-- The recorder is at the end of its rows, and its run has a session row. -/
structure RowedRun (env : LedgerEnv) (workspace : Workspace)
    (recorder : SqliteEventRecorder) (records : List RecordedEvent) :
    Prop where
  rowed : Rowed env workspace recorder records
  present : HasRow workspace recorder.runId

theorem RowedRun.of_sessionOnly
    (rowed : RowedRun env workspace recorder records)
    (same : SessionOnly workspace after) :
    RowedRun env after recorder records := by
  refine ⟨⟨rowed.rowed.held.of_sameRows ?_, rowed.rowed.replayed⟩,
    same.kept _ rowed.present⟩
  simp [Workspace.eventRows, same.ledgerEvents]

theorem RowedRun.withFlags (rowed : RowedRun env workspace recorder records)
    (sessionRunOpen terminalAttempted : Bool) :
    RowedRun env workspace { recorder with
      sessionRunOpen := sessionRunOpen
      terminalAttempted := terminalAttempted } records :=
  ⟨⟨rowed.rowed.held, rowed.rowed.replayed⟩, rowed.present⟩

/-- A committed append puts the recorder at the end of the longer ledger; a
closing of session rows in the same transaction does not matter. -/
theorem RowedRun.appended (rowed : RowedRun env workspace recorder records)
    {now : UInt64} {record : RecordedEvent} {next : RunState}
    (accepted : nextRecordAt now recorder.state event = .ok (record, next))
    {result : Unit}
    (commits : (appendRecordIn env recorder.runId record).Commits workspace
      result middle)
    (closed : SessionOnly middle after) :
    RowedRun env after (recorder.advanced next) (records ++ [record]) ∧
      Acts env (some (.rows recorder.runId)) workspace after := by
  obtain ⟨rfl, stepped⟩ := nextRecordAt_ok_iff.mp accepted
  obtain ⟨frame, held, others⟩ :=
    rowed.rowed.held.of_commits_appendRecordIn rowed.rowed.replayed rfl commits
  have kept : ∀ runId, HasRow workspace runId → HasRow middle runId := by
    intro runId present
    rw [frame]
    exact present
  have replayed := RunState.replay_concat_ok_iff.mpr
    ⟨_, rowed.rowed.replayed, stepped⟩
  have extended : RowedRun env after (recorder.advanced next)
      (records ++ [recorder.state.stamp now event]) :=
    RowedRun.of_sessionOnly
      ⟨⟨held, replayed⟩, kept recorder.runId rowed.present⟩ closed
  refine ⟨extended, Acts.trans ?_ closed.acts⟩
  intro other
  cases other with
  | log path =>
      refine .inl ?_
      rw [SameAt, frame]
  | rows runId =>
      by_cases same : runId = recorder.runId
      · subst same
        refine .inr ⟨rfl, ⟨_, next, held, replayed⟩, fun _ => ?_⟩
        exact kept recorder.runId rowed.present
      · exact .inl ⟨others runId same, kept runId⟩

theorem nextRecord_sessionOnly {state : RunState} :
    (nextRecord env state event).Guarantees SessionOnly :=
  Program.guarantees_bind nowMs_sessionOnly fun _ => trivial

/-- The transaction that stores the next record, alone or with the outcome. -/
theorem RowedRun.transaction_acts
    (rowed : RowedRun env workspace recorder records) (body : Txn Unit)
    {now : UInt64} {record : RecordedEvent} {next : RunState}
    (accepted : nextRecordAt now recorder.state event = .ok (record, next))
    (stores : ∀ result after, body.Commits workspace result after →
      ∃ middle, (appendRecordIn env recorder.runId record).Commits workspace
        () middle ∧ SessionOnly middle after) :
    ActsOnly env (some (.rows recorder.runId)) workspace
        (transaction body) ∧
      ((∃ after records,
        (transaction body).run workspace = (.ok (), after) ∧
          RowedRun env after (recorder.advanced next) records) ∨
        ∃ error, (transaction body).run workspace =
          (.error error, workspace)) := by
  rcases transaction_run_cases body workspace with
    ⟨⟨⟩, after, commits, ran⟩ | ⟨_, error, ran⟩
  · obtain ⟨middle, appended, closed⟩ := stores () after commits
    obtain ⟨extended, acts⟩ := rowed.appended accepted appended closed
    refine ⟨fun cut passes => ?_, .inl ⟨after, _, ran, extended⟩⟩
    rw [transaction, Program.passes_transact] at passes
    rcases passes with rfl | done
    · exact .refl _ _ _
    · rw [← transaction, ran] at done
      rw [done]
      exact acts
  · refine ⟨fun cut passes => ?_, .inr ⟨error, ran⟩⟩
    rw [transaction, Program.passes_transact] at passes
    rcases passes with rfl | done
    · exact .refl _ _ _
    · rw [← transaction, ran] at done
      rw [done]
      exact .refl _ _ _

theorem RowedRun.record (rowed : RowedRun env workspace recorder records)
    (event : HarnessEvent) :
    ActsOnly env (some (.rows recorder.runId)) workspace
        (recorder.record env event) ∧
      ((∃ record recorded after records,
        (recorder.record env event).run workspace =
          (.ok (record, recorded), after) ∧
        recorded.runId = recorder.runId ∧
        RowedRun env after recorded records) ∨
      ∃ error after, (recorder.record env event).run workspace =
        (.error error, after) ∧ SessionOnly workspace after) := by
  by_cases gated : (recorder.sessionRunOpen && event.isRunEnd) = true
  · rw [SqliteEventRecorder.record, requireApp_of_not (by simp [gated]),
      Program.ofExcept_error_bind]
    exact ⟨.finish _ _ _ _, .inr ⟨_, workspace, rfl, .refl _⟩⟩
  · rw [SqliteEventRecorder.record_of_open (by simpa using gated)]
    have numbered := nextRecord_run env workspace recorder.state event
    have ticks : ActsOnly env (some (.rows recorder.runId)) workspace
        (nextRecord env recorder.state event) :=
      SessionOnly.actsOnly nextRecord_sessionOnly
    cases offered : nextRecordAt (env.clock workspace.clockReadings)
        recorder.state event with
    | error error =>
        rw [offered] at numbered
        refine ⟨ticks.bind fun result middle ran => ?_,
          .inr ⟨error, _, Program.run_bind_error numbered, .tick _⟩⟩
        rw [numbered] at ran
        cases ran
    | ok pair =>
        obtain ⟨record, next⟩ := pair
        rw [offered] at numbered
        have ticked := rowed.of_sessionOnly (.tick workspace)
        obtain ⟨acts, ends⟩ := ticked.transaction_acts _ offered
          fun result after commits => ⟨after, commits, .refl after⟩
        refine ⟨ticks.bind fun result middle ran => ?_, ?_⟩
        · rw [numbered] at ran
          cases ran
          exact acts.bind fun _ _ _ => .finish _ _ _ _
        · rw [Program.run_bind_ok numbered]
          dsimp only
          rcases ends with ⟨after, final, ran, extended⟩ | ⟨error, ran⟩
          · exact .inl ⟨record, _, after, final, Program.run_bind_ok ran, rfl,
              extended⟩
          · exact .inr ⟨error, _, Program.run_bind_error ran, .tick _⟩

theorem RowedRun.commitTerminal
    (rowed : RowedRun env workspace recorder records) {now : UInt64}
    {record : RecordedEvent} {next : RunState}
    (accepted : nextRecordAt now recorder.state event = .ok (record, next))
    (outcome : SessionOutcome) :
    ActsOnly env (some (.rows recorder.runId)) workspace
        (commitSessionTerminal env recorder.runId record outcome) ∧
      ((∃ after records,
        (commitSessionTerminal env recorder.runId record outcome).run
          workspace = (.ok (), after) ∧
        RowedRun env after (recorder.advanced next) records) ∨
      ∃ error, (commitSessionTerminal env recorder.runId record outcome).run
        workspace = (.error error, workspace.tick)) := by
  have ticked := rowed.of_sessionOnly (.tick workspace)
  have transacts := fun column => ticked.transaction_acts
    (commitTerminalIn env recorder.runId record outcome column) accepted
    fun result after commits => by
      obtain ⟨row, middle, _, appended, rfl⟩ :=
        commits_commitTerminalIn commits
      exact ⟨middle, appended, rfl, rfl, fun _ => hasRow_closeRun⟩
  obtain ⟨read, clock⟩ : ∃ outcome, (nowColumn env).run workspace =
      (outcome, workspace.tick) := by
    rw [nowColumn, Program.run_bind_ok (nowMs_run env workspace)]
    exact ⟨_, rfl⟩
  constructor
  · refine ActsOnly.bind (SessionOnly.actsOnly nowColumn_sessionOnly) ?_
    intro column middle ran
    rw [clock] at ran
    obtain ⟨_, rfl⟩ := Prod.mk.inj ran
    exact (transacts column).1
  · cases read with
    | error error =>
        exact .inr ⟨error, Program.run_bind_error clock⟩
    | ok column =>
        rw [commitSessionTerminal, Program.run_bind_ok clock]
        exact (transacts column).2

/-- A terminal call stores the event and the outcome, or neither. -/
theorem RowedRun.recordTerminal
    (rowed : RowedRun env workspace recorder records) (event : HarnessEvent)
    (outcome : SessionOutcome) :
    ActsOnly env (some (.rows recorder.runId)) workspace
        (recorder.recordTerminal env event outcome) ∧
      ∃ result recorded after records,
        (recorder.recordTerminal env event outcome).run workspace =
          (.ok (result, recorded), after) ∧
        recorded.runId = recorder.runId ∧
        RowedRun env after recorded records := by
  unfold SqliteEventRecorder.recordTerminal
  split
  · obtain ⟨acts, ends⟩ := rowed.record event
    refine ⟨acts.attempt.bind ?_, ?_⟩
    · rintro (error | ⟨record, recorded⟩) middle _ <;> exact .finish _ _ _ _
    · rcases ends with ⟨record, recorded, after, final, ran, named, extended⟩ |
        ⟨error, after, ran, same⟩
      · refine ⟨.ok record, recorded, after, final, ?_, named, extended⟩
        rw [Program.run_bind_ok (by rw [Program.run_attempt, ran])]
        rfl
      · refine ⟨.error error, recorder, after, records, ?_, rfl,
          rowed.of_sessionOnly same⟩
        rw [Program.run_bind_ok (by rw [Program.run_attempt, ran])]
        rfl
  · have numbered : (nextRecord env recorder.state event).attempt.run
        workspace = (.ok (nextRecordAt (env.clock workspace.clockReadings)
          recorder.state event), workspace.tick) := by
      rw [Program.run_attempt, nextRecord_run]
    have attempted := (rowed.withFlags recorder.sessionRunOpen
      true).of_sessionOnly (.tick workspace)
    have ticks : ActsOnly env (some (.rows recorder.runId)) workspace
        (nextRecord env recorder.state event).attempt :=
      (SessionOnly.actsOnly nextRecord_sessionOnly).attempt
    cases offered : nextRecordAt (env.clock workspace.clockReadings)
        recorder.state event with
    | error error =>
        rw [offered] at numbered
        refine ⟨ticks.bind fun result middle ran => ?_, .error error, _, _,
          records, Program.run_bind_ok numbered, rfl, attempted⟩
        rw [numbered] at ran
        cases ran
        exact .finish _ _ _ _
    | ok pair =>
        obtain ⟨record, next⟩ := pair
        rw [offered] at numbered
        obtain ⟨acts, ends⟩ := attempted.commitTerminal offered outcome
        refine ⟨ticks.bind fun result middle ran => ?_, ?_⟩
        · rw [numbered] at ran
          cases ran
          refine acts.attempt.bind ?_
          rintro (error | ⟨⟩) done _ <;> exact .finish _ _ _ _
        · rw [Program.run_bind_ok numbered]
          dsimp only
          rcases ends with ⟨after, final, ran, extended⟩ | ⟨error, ran⟩
          · rw [Program.run_bind_ok (by rw [Program.run_attempt, ran])]
            exact ⟨_, _, after, final, rfl, rfl,
              extended.withFlags false true⟩
          · rw [Program.run_bind_ok (by rw [Program.run_attempt, ran])]
            exact ⟨_, _, _, records, rfl, rfl,
              attempted.of_sessionOnly (.tick _)⟩

end Rows

end PlatoAgent
