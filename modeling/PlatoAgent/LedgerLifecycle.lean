import PlatoAgent.LedgerCrashRecovery
import PlatoAgent.LedgerPlaces

/-!
# The life of session runs

A process admits session runs, creates recorders for them, records events, ends
runs and drops recorders; it can die at any step and lose its recorders.
Whatever the order, every log holds the lines of records that replay and a torn
tail, and the rows of every run are records that replay.
-/

namespace PlatoAgent

open AtomicProgram

variable {env : LedgerEnv} {workspace middle after cut : Workspace}

/-- A live session recorder. -/
inductive Recorder where
  | jsonl (recorder : JsonlEventRecorder)
  | sqlite (recorder : SqliteEventRecorder)

namespace Recorder

def place : Recorder → Place
  | .jsonl recorder => .log recorder.path
  | .sqlite recorder => .rows recorder.runId

/-- `record`; a rejected event leaves the recorder as it was. -/
def record (env : LedgerEnv) (event : HarnessEvent) :
    Recorder → LedgerM Recorder
  | .jsonl recorder => do
      match ← (recorder.record env event).attempt with
      | .error _ => pure (.jsonl recorder)
      | .ok (_, recorded) => pure (.jsonl recorded)
  | .sqlite recorder => do
      match ← (recorder.record env event).attempt with
      | .error _ => pure (.sqlite recorder)
      | .ok (_, recorded) => pure (.sqlite recorded)

/-- `finish_run`; the run is named by the caller of a JSONL recorder. -/
def finishRun (env : LedgerEnv) (runId : RunId) (finalAnswer : String) :
    Recorder → LedgerM Recorder
  | .jsonl recorder => do
      let (_, recorded) ← recorder.finishRun env runId finalAnswer
      pure (.jsonl recorded)
  | .sqlite recorder => do
      let (_, recorded) ← recorder.finishRun env finalAnswer
      pure (.sqlite recorded)

/-- `fail_run`. -/
def failRun (env : LedgerEnv) (runId : RunId) (error : String)
    (canceled : Bool) : Recorder → LedgerM Recorder
  | .jsonl recorder => do
      let (_, recorded) ← recorder.failRun env runId error canceled
      pure (.jsonl recorded)
  | .sqlite recorder => do
      let (_, recorded) ← recorder.failRun env error canceled
      pure (.sqlite recorded)

def drop (env : LedgerEnv) : Recorder → LedgerM Unit
  | .jsonl recorder => recorder.drop env
  | .sqlite recorder => recorder.drop env

/-- The recorder is at the end of what its place holds. -/
def Synced (env : LedgerEnv) (workspace : Workspace) : Recorder → Prop
  | .jsonl recorder => ∃ records, Logged env workspace recorder records
  | .sqlite recorder => ∃ records, RowedRun env workspace recorder records

variable {recorder : Recorder}

theorem Synced.of_sameAt (synced : recorder.Synced env workspace)
    (same : SameAt workspace after recorder.place) :
    recorder.Synced env after := by
  cases recorder with
  | jsonl recorder =>
      obtain ⟨records, content, replayed, healthy⟩ := synced
      have file : after.files recorder.path = workspace.files recorder.path :=
        same
      exact ⟨records, file.trans content, replayed, healthy⟩
  | sqlite recorder =>
      obtain ⟨records, ⟨held, replayed⟩, present⟩ := synced
      exact ⟨records, ⟨held.of_sameRows same.1, replayed⟩, same.2 present⟩

/-- A method acts on the place of its recorder, and leaves the recorder at the
end of it. -/
structure Method (env : LedgerEnv) (workspace : Workspace)
    (recorder : Recorder) (program : LedgerM Recorder) : Prop where
  acts : ActsOnly env (some recorder.place) workspace program
  returns : ∃ recorded after, program.run workspace = (.ok recorded, after) ∧
    recorded.place = recorder.place ∧ recorded.Synced env after

theorem Synced.record (synced : recorder.Synced env workspace)
    (event : HarnessEvent) :
    Method env workspace recorder (recorder.record env event) := by
  cases recorder with
  | jsonl recorder =>
      obtain ⟨records, logged⟩ := synced
      constructor
      · refine (logged.record_acts event).attempt.bind ?_
        rintro (error | ⟨record, recorded⟩) middle _ <;> exact .finish _ _ _ _
      · rcases logged.record_cases event with
          ⟨record, recorded, after, ran, path, extended⟩ |
            ⟨error, after, ran, same⟩
        · refine ⟨.jsonl recorded, after, ?_, congrArg Place.log path,
            extended⟩
          exact Program.run_bind_ok (by rw [Program.run_attempt, ran])
        · refine ⟨.jsonl recorder, after, ?_, rfl, records,
            logged.of_sessionOnly same⟩
          exact Program.run_bind_ok (by rw [Program.run_attempt, ran])
  | sqlite recorder =>
      obtain ⟨records, rowed⟩ := synced
      obtain ⟨acts, ends⟩ := rowed.record event
      constructor
      · refine acts.attempt.bind ?_
        rintro (error | ⟨record, recorded⟩) middle _ <;> exact .finish _ _ _ _
      · rcases ends with
          ⟨record, recorded, after, final, ran, named, extended⟩ |
            ⟨error, after, ran, same⟩
        · refine ⟨.sqlite recorded, after, ?_, congrArg Place.rows named,
            final, extended⟩
          exact Program.run_bind_ok (by rw [Program.run_attempt, ran])
        · refine ⟨.sqlite recorder, after, ?_, rfl, records,
            rowed.of_sessionOnly same⟩
          exact Program.run_bind_ok (by rw [Program.run_attempt, ran])

/-- The terminal methods of a JSONL recorder. -/
theorem method_jsonlTerminal {recorder : JsonlEventRecorder}
    {records : List RecordedEvent}
    (logged : Logged env workspace recorder records) (event : HarnessEvent)
    (outcome : SessionOutcome) :
    Method env workspace (.jsonl recorder) (do
      let (_, recorded) ← recorder.recordTerminal env event outcome
      pure (.jsonl recorded)) := by
  obtain ⟨result, recorded, after, ran, path, extended⟩ :=
    logged.recordTerminal_run event outcome
  refine ⟨(logged.recordTerminal_acts event outcome).bind fun _ _ _ =>
    .finish _ _ _ _, .jsonl recorded, after, Program.run_bind_ok ran,
    congrArg Place.log path, extended⟩

/-- The terminal methods of a SQLite recorder. -/
theorem method_sqliteTerminal {recorder : SqliteEventRecorder}
    {records : List RecordedEvent}
    (rowed : RowedRun env workspace recorder records) (event : HarnessEvent)
    (outcome : SessionOutcome) :
    Method env workspace (.sqlite recorder) (do
      let (_, recorded) ← recorder.recordTerminal env event outcome
      pure (.sqlite recorded)) := by
  obtain ⟨acts, result, recorded, after, final, ran, named, extended⟩ :=
    rowed.recordTerminal event outcome
  exact ⟨acts.bind fun _ _ _ => .finish _ _ _ _, .sqlite recorded, after,
    Program.run_bind_ok ran, congrArg Place.rows named, final, extended⟩

theorem Synced.finishRun (synced : recorder.Synced env workspace)
    (runId : RunId) (finalAnswer : String) :
    Method env workspace recorder
      (recorder.finishRun env runId finalAnswer) := by
  cases recorder with
  | jsonl recorder =>
      obtain ⟨records, logged⟩ := synced
      exact method_jsonlTerminal logged _ _
  | sqlite recorder =>
      obtain ⟨records, rowed⟩ := synced
      exact method_sqliteTerminal rowed _ _

theorem Synced.failRun (synced : recorder.Synced env workspace)
    (runId : RunId) (error : String) (canceled : Bool) :
    Method env workspace recorder
      (recorder.failRun env runId error canceled) := by
  cases recorder with
  | jsonl recorder =>
      obtain ⟨records, logged⟩ := synced
      exact method_jsonlTerminal logged _ _
  | sqlite recorder =>
      obtain ⟨records, rowed⟩ := synced
      exact method_sqliteTerminal rowed _ _

theorem jsonlDrop {recorder : JsonlEventRecorder}
    {records : List RecordedEvent}
    (logged : Logged env workspace recorder records) :
    ActsOnly env (some (.log recorder.path)) workspace (recorder.drop env) ∧
      ∃ after, (recorder.drop env).run workspace = (.ok (), after) := by
  unfold JsonlEventRecorder.drop
  split
  · exact ⟨.finish _ _ _ _, workspace, rfl⟩
  next session _ =>
    split
    · obtain ⟨result, recorded, after, ran, _⟩ :=
        logged.recordTerminal_run (.runFailed session.runId droppedRunReason)
          (failedOutcome droppedRunReason false)
      exact ⟨(logged.recordTerminal_acts _ _).bind fun _ _ _ =>
        .finish _ _ _ _, after, Program.run_bind_ok ran⟩
    · exact ⟨.finish _ _ _ _, workspace, rfl⟩

theorem sqliteDrop {recorder : SqliteEventRecorder}
    {records : List RecordedEvent}
    (rowed : RowedRun env workspace recorder records) :
    ActsOnly env (some (.rows recorder.runId)) workspace
        (recorder.drop env) ∧
      ∃ after, (recorder.drop env).run workspace = (.ok (), after) := by
  unfold SqliteEventRecorder.drop
  split
  · obtain ⟨acts, result, recorded, after, final, ran, _⟩ :=
      rowed.recordTerminal (.runFailed recorder.runId droppedRunReason)
        (failedOutcome droppedRunReason false)
    exact ⟨acts.bind fun _ _ _ => .finish _ _ _ _, after,
      Program.run_bind_ok ran⟩
  · exact ⟨.finish _ _ _ _, workspace, rfl⟩

theorem Synced.drop (synced : recorder.Synced env workspace) :
    ActsOnly env (some recorder.place) workspace (recorder.drop env) ∧
      ∃ after, (recorder.drop env).run workspace = (.ok (), after) := by
  cases recorder with
  | jsonl recorder =>
      obtain ⟨records, logged⟩ := synced
      exact jsonlDrop logged
  | sqlite recorder =>
      obtain ⟨records, rowed⟩ := synced
      exact sqliteDrop rowed

end Recorder

section Admission

variable {sessionId question : String} {runId : RunId}
  {createSession : Bool} {hydrated : Hydration}

theorem beginSessionRecorder_sessionOnly :
    (beginSessionRecorder env hydrated sessionId runId question
      createSession).Guarantees SessionOnly := by
  refine Program.guarantees_bind beginSessionRun_sessionOnly fun turns => ?_
  exact Program.guarantees_bind (Program.guarantees_ofExcept _) fun _ =>
    trivial

/-- A new SQLite recorder belongs to a run without rows. -/
theorem beginSessionRecorder_synced (durable : Durable env workspace)
    {recorder : SqliteEventRecorder}
    (began : (beginSessionRecorder env hydrated sessionId runId question
      createSession).run workspace = (.ok recorder, after)) :
    recorder.runId = runId ∧ ¬ HasRow workspace runId ∧
      RowedRun env after recorder [] := by
  have same := sessionOnly_of_passes beginSessionRecorder_sessionOnly
    (Program.passes_of_run began)
  obtain ⟨turns, admitted, enters, began⟩ :=
    Program.exists_of_run_bind_ok began
  obtain ⟨_, prepared, hydrates, began⟩ :=
    Program.exists_of_run_bind_ok began
  obtain ⟨_, rfl⟩ := Prod.mk.inj hydrates
  obtain ⟨made, rfl⟩ := Prod.mk.inj began
  obtain rfl := Except.ok.inj made
  obtain ⟨fresh, present⟩ := beginSessionRun_fresh enters
  have noRows : workspace.eventRows runId = [] := by
    by_contra nonempty
    exact fresh ((durable (.rows runId)).2 nonempty)
  have noRowsAfter : admitted.eventRows runId = [] := by
    rw [Workspace.eventRows, same.ledgerEvents]
    exact noRows
  exact ⟨rfl, fresh, ⟨rowsHold_nil env noRowsAfter, rfl⟩, present⟩

/-- What undoing an admission may change: the log of the run may be removed,
and its session row deleted. -/
structure Discards (runId : RunId) (workspace after : Workspace) : Prop where
  ledgerEvents : after.ledgerEvents = workspace.ledgerEvents
  others : ∀ path, path ≠ runJsonlPath runId →
    after.files path = workspace.files path
  log : after.files (runJsonlPath runId) =
      workspace.files (runJsonlPath runId) ∨
    after.files (runJsonlPath runId) = none
  kept : ∀ other, other ≠ runId → HasRow workspace other →
    HasRow after other

theorem Discards.refl (runId : RunId) (workspace : Workspace) :
    Discards runId workspace workspace :=
  ⟨rfl, fun _ _ => rfl, .inl rfl, fun _ _ => id⟩

theorem Discards.trans (first : Discards runId workspace middle)
    (second : Discards runId middle after) :
    Discards runId workspace after := by
  refine ⟨second.ledgerEvents.trans first.ledgerEvents,
    fun path different => (second.others path different).trans
      (first.others path different), ?_,
    fun other different present => second.kept other different
      (first.kept other different present)⟩
  rcases second.log with same | gone
  · rw [same]
    exact first.log
  · exact .inr gone

theorem removeFile_discards :
    (removeFile (runJsonlPath runId)).Guarantees (Discards runId) := by
  refine Program.guarantees_transact (Discards.refl runId) ?_
  intro before result after removed
  cases content : before.files (runJsonlPath runId) with
  | none => simp [content] at removed
  | some bytes =>
      simp only [content, Except.ok.injEq, Prod.mk.injEq] at removed
      obtain ⟨_, rfl⟩ := removed
      exact ⟨rfl, fun path different => Function.update_of_ne different _ _,
        .inr (Function.update_self ..), fun _ _ => id⟩

theorem discardRunningSessionRun_discards {createdSession : Bool} :
    (discardRunningSessionRun runId createdSession).Guarantees
      (Discards runId) := by
  refine guarantees_transaction (Discards.refl runId) ?_
  intro before result after commits
  obtain ⟨rows, events, files, _⟩ := commits_discardRunIn commits
  refine ⟨events, fun path _ => by rw [files], .inl (by rw [files]), ?_⟩
  rintro other different ⟨row, member, named⟩
  refine ⟨row, ?_, named⟩
  rw [rows]
  refine UniqueTable.mem_delete.mpr ⟨member, ?_⟩
  simp [SessionRun.isRunning, named, different]

theorem discardEmptySessionAdmission_discards {recorder : JsonlEventRecorder}
    (owned : ∀ session, recorder.session = some session →
      session.runId = runId) :
    recorder.discardEmptySessionAdmission.Guarantees (Discards runId) := by
  unfold JsonlEventRecorder.discardEmptySessionAdmission
  refine Program.guarantees_bind (Program.guarantees_inspect
    (Discards.refl runId) _) fun bytes => ?_
  refine Program.guarantees_bind (guarantees_requireApp _ _) fun _ => ?_
  split
  · trivial
  next session attached =>
    rw [owned session attached]
    refine Program.guarantees_bind (guarantees_requireApp _ _) fun _ => ?_
    refine Program.guarantees_bind (Program.guarantees_attempt
      discardRunningSessionRun_discards) fun row => ?_
    refine Program.guarantees_bind (Program.guarantees_attempt
      removeFile_discards) fun log => ?_
    split <;> trivial

theorem discards_of_passes {Result : Type} {program : LedgerM Result}
    (guarantees : program.Guarantees (Discards runId))
    (passes : program.Passes workspace cut) : Discards runId workspace cut := by
  have chain := Program.chain_of_passes guarantees passes
  clear passes
  induction chain with
  | refl => exact .refl runId workspace
  | tail _ step ih => exact ih.trans step

/-- The workspace with an empty log at the path. -/
def Workspace.withEmptyLog (workspace : Workspace) (path : String) :
    Workspace :=
  { workspace with files := Function.update workspace.files path (some []) }

theorem withEmptyLog_logOnly (workspace : Workspace) (path : String) :
    LogOnly path workspace (workspace.withEmptyLog path) :=
  ⟨rfl, rfl, fun _ different => Function.update_of_ne different _ _⟩

theorem withEmptyLog_tornLog (env : LedgerEnv) (workspace : Workspace)
    (path : String) : TornLog env (workspace.withEmptyLog path) path [] := by
  refine ⟨⟨[], List.not_mem_nil, ?_⟩, .new, rfl⟩
  simp [Workspace.withEmptyLog, logBytes]

theorem createRunLog (workspace : Workspace) (runId : RunId) :
    (∃ error, workspace.files (runJsonlPath runId) ≠ none ∧
      (JsonlEventRecorder.create (runJsonlPath runId)).run workspace =
        (.error error, workspace)) ∨
    (workspace.files (runJsonlPath runId) = none ∧
      (JsonlEventRecorder.create (runJsonlPath runId)).run workspace =
        (.ok (.reopened (runJsonlPath runId) .new),
          workspace.withEmptyLog (runJsonlPath runId))) := by
  rw [JsonlEventRecorder.create,
    requireApp_of (by simpa using runJsonlPath_ne_empty runId),
    Program.pure_bind, createNewFile, Program.run_bind, Program.run_transact]
  cases content : workspace.files (runJsonlPath runId) with
  | some bytes => exact .inl ⟨_, by simp, rfl⟩
  | none => exact .inr ⟨rfl, rfl⟩

theorem createRunLog_passes {runId : RunId}
    (passes : (JsonlEventRecorder.create (runJsonlPath runId)).Passes workspace
      cut) :
    cut = workspace ∨ (workspace.files (runJsonlPath runId) = none ∧
      cut = workspace.withEmptyLog (runJsonlPath runId)) := by
  rw [JsonlEventRecorder.create,
    requireApp_of (by simpa using runJsonlPath_ne_empty runId),
    Program.pure_bind, Program.passes_bind, createNewFile,
    Program.passes_transact] at passes
  cases content : workspace.files (runJsonlPath runId) with
  | some bytes =>
      simp only [Program.run_transact, content] at passes
      rcases passes with (same | same) | ⟨_, _, ran, _⟩
      · exact .inl same
      · exact .inl same
      · cases ran
  | none =>
      simp only [Program.run_transact, content] at passes
      rcases passes with (same | made) | ⟨_, _, ran, made⟩
      · exact .inl same
      · exact .inr ⟨rfl, made⟩
      · obtain ⟨_, rfl⟩ := Prod.mk.inj ran
        exact .inr ⟨rfl, made⟩

theorem removeFile_acts {path : String} :
    ActsOnly env (some (.log path)) workspace (removeFile path) := by
  intro cut passes
  rw [removeFile, Program.passes_transact, Program.run_transact] at passes
  cases content : workspace.files path with
  | none =>
      simp only [content, or_self] at passes
      rw [passes]
      exact .refl _ _ _
  | some bytes =>
      simp only [content] at passes
      rcases passes with rfl | rfl
      · exact .refl _ _ _
      · intro other
        cases other with
        | log otherPath =>
            by_cases same : otherPath = path
            · subst same
              exact .inr ⟨rfl, .inl (Function.update_self ..)⟩
            · exact .inl (Function.update_of_ne same _ _)
        | rows runId => exact .inl ⟨rfl, id⟩

/-- An admission that is undone, or is being undone, acts on the log of its
run: the row it deletes is its own. -/
theorem Discards.acts {opened : Workspace}
    (fresh : ¬ HasRow workspace runId)
    (admits : SessionOnly (workspace.withEmptyLog (runJsonlPath runId)) opened)
    (discards : Discards runId opened cut) :
    Acts env (some (.log (runJsonlPath runId))) workspace cut := by
  have opening := withEmptyLog_logOnly workspace (runJsonlPath runId)
  intro other
  cases other with
  | log path =>
      by_cases same : path = runJsonlPath runId
      · subst same
        refine .inr ⟨rfl, ?_⟩
        rcases discards.log with kept | gone
        · have content := (withEmptyLog_tornLog env workspace
            (runJsonlPath runId)).content
          rw [← admits.files, ← kept] at content
          exact .inr ⟨[], content, .new, rfl⟩
        · exact .inl gone
      · refine .inl ?_
        rw [SameAt, discards.others path same, admits.files]
        exact opening.files path same
  | rows other =>
      refine .inl ⟨?_, fun present => ?_⟩
      · rw [Workspace.eventRows, discards.ledgerEvents, admits.ledgerEvents]
        rfl
      · have different : other ≠ runId := fun same => fresh (same ▸ present)
        exact discards.kept other different (admits.kept other present)

section Logs

variable (sessionId question runId createSession hydrated)

/-- After the log is created, the admission acts on it alone. -/
theorem beginDefaultJsonlSessionRecorder_acts :
    ActsOnly env (some (.log (runJsonlPath runId))) workspace
      (beginDefaultJsonlSessionRecorder env hydrated sessionId runId question
        createSession) := by
  intro cut passes
  rw [beginDefaultJsonlSessionRecorder, Program.passes_bind] at passes
  rcases passes with early | ⟨recorder, opened, created, late⟩
  · rcases createRunLog_passes early with rfl | ⟨_, rfl⟩
    · exact .refl _ _ _
    · exact .of_log (withEmptyLog_logOnly _ _) (withEmptyLog_tornLog _ _ _)
  · rcases createRunLog workspace runId with ⟨_, _, failed⟩ | ⟨_, made⟩
    · rw [failed] at created
      cases created
    · rw [made] at created
      obtain ⟨isRecorder, rfl⟩ := Prod.mk.inj created
      obtain rfl := Except.ok.inj isRecorder
      have opening : Acts env (some (.log (runJsonlPath runId))) workspace
          (workspace.withEmptyLog (runJsonlPath runId)) :=
        .of_log (withEmptyLog_logOnly _ _) (withEmptyLog_tornLog _ _ _)
      rw [Program.passes_bind, Program.passes_attempt] at late
      rcases late with inside | ⟨result, admitted, began, later⟩
      · exact opening.trans
          (sessionOnly_of_passes beginSessionRun_sessionOnly inside).acts
      · rw [Program.run_attempt] at began
        obtain ⟨isResult, rfl⟩ := Prod.mk.inj began
        have same := sessionOnly_of_passes beginSessionRun_sessionOnly
          ((beginSessionRun env sessionId runId question createSession).passes_end
            (workspace.withEmptyLog (runJsonlPath runId)))
        cases result with
        | error error =>
            refine (opening.trans same.acts).trans
              ((removeFile_acts.attempt.bind ?_) cut later)
            rintro (_ | _) _ _ <;> exact .finish _ _ _ _
        | ok turns =>
            have entered : (beginSessionRun env sessionId runId question
                createSession).run (workspace.withEmptyLog
                  (runJsonlPath runId)) = (.ok turns, _) :=
              Prod.ext (Except.ok.inj isResult) rfl
            have fresh := (beginSessionRun_fresh entered).1
            refine Discards.acts fresh same (discards_of_passes ?_ later)
            dsimp only
            split
            · trivial
            · refine Program.guarantees_bind (Program.guarantees_attempt
                (discardEmptySessionAdmission_discards ?_)) fun undone => ?_
              · rintro session ⟨⟩
                rfl
              · split <;> trivial

/-- A log that is there already is left alone. -/
theorem beginDefaultJsonlSessionRecorder_of_log
    (present : workspace.files (runJsonlPath runId) ≠ none)
    (passes : (beginDefaultJsonlSessionRecorder env hydrated sessionId runId
      question createSession).Passes workspace cut) : cut = workspace := by
  rw [beginDefaultJsonlSessionRecorder, Program.passes_bind] at passes
  rcases passes with early | ⟨recorder, opened, created, _⟩
  · rcases createRunLog_passes early with same | ⟨absent, _⟩
    · exact same
    · exact absurd absent present
  · rcases createRunLog workspace runId with ⟨_, _, failed⟩ | ⟨absent, _⟩
    · rw [failed] at created
      cases created
    · exact absurd absent present

/-- A new JSONL recorder is at the end of a log that it made. -/
theorem beginDefaultJsonlSessionRecorder_synced
    {recorder : JsonlEventRecorder}
    (began : (beginDefaultJsonlSessionRecorder env hydrated sessionId runId
      question createSession).run workspace = (.ok recorder, after)) :
    recorder.path = runJsonlPath runId ∧
      workspace.files (runJsonlPath runId) = none ∧
      Logged env after recorder [] := by
  obtain ⟨made, opened, created, began⟩ := Program.exists_of_run_bind_ok began
  obtain ⟨_, rfl, empty⟩ := logged_of_create env none created
  have absent : workspace.files (runJsonlPath runId) = none := by
    rcases createRunLog workspace runId with ⟨_, _, failed⟩ | ⟨absent, _⟩
    · rw [failed] at created
      cases created
    · exact absent
  obtain ⟨result, admitted, entered, began⟩ :=
    Program.exists_of_run_bind_ok began
  rw [Program.run_attempt] at entered
  obtain ⟨isResult, rfl⟩ := Prod.mk.inj entered
  have same := sessionOnly_of_passes beginSessionRun_sessionOnly
    ((beginSessionRun env sessionId runId question createSession).passes_end
      opened)
  cases result with
  | error error =>
      obtain ⟨removed, _, _, thrown⟩ := Program.exists_of_run_bind_ok began
      cases removed <;> cases thrown
  | ok turns =>
      dsimp only at began
      split at began
      · obtain ⟨isRecorder, rfl⟩ := Prod.mk.inj began
        obtain rfl := Except.ok.inj isRecorder
        exact ⟨rfl, absent, (empty.withSession _).of_sessionOnly same⟩
      · obtain ⟨undone, _, _, thrown⟩ := Program.exists_of_run_bind_ok began
        cases undone <;> cases thrown

end Logs

end Admission

/-- The durable state, and the recorders that the process holds. -/
structure LedgerProcess where
  workspace : Workspace
  live : List Recorder

/-- The created recorder joins the others, if there is one. -/
def adopt {Created : Type} (recorderOf : Created → Recorder)
    (live : List Recorder) (program : LedgerM Created) :
    LedgerM (List Recorder) := do
  match ← program.attempt with
  | .error _ => pure live
  | .ok created => pure (recorderOf created :: live)

/-- A call of the process, with the recorders it holds afterwards.  A call that
fails reports its error and changes no other recorder. -/
inductive LedgerCall (env : LedgerEnv) :
    List Recorder → LedgerM (List Recorder) → Prop where
  | beginSessionRun (live : List Recorder) (sessionId : String)
      (runId : RunId) (question : String) (createSession : Bool) :
      LedgerCall env live (do
        let _ ← (PlatoAgent.beginSessionRun env sessionId runId question
          createSession).attempt
        pure live)
  | createSqlite (live : List Recorder) (hydrated : Hydration)
      (sessionId : String) (runId : RunId) (question : String)
      (createSession : Bool) :
      LedgerCall env live (adopt .sqlite live
        (beginSessionRecorder env hydrated sessionId runId question
          createSession))
  | createJsonl (live : List Recorder) (hydrated : Hydration)
      (sessionId : String) (runId : RunId) (question : String)
      (createSession : Bool) :
      LedgerCall env live (adopt .jsonl live
        (beginDefaultJsonlSessionRecorder env hydrated sessionId runId
          question createSession))
  | record (front rest : List Recorder) (recorder : Recorder)
      (event : HarnessEvent) :
      LedgerCall env (front ++ recorder :: rest) (do
        let recorded ← recorder.record env event
        pure (front ++ recorded :: rest))
  | finishRun (front rest : List Recorder) (recorder : Recorder)
      (runId : RunId) (finalAnswer : String) :
      LedgerCall env (front ++ recorder :: rest) (do
        let recorded ← recorder.finishRun env runId finalAnswer
        pure (front ++ recorded :: rest))
  | failRun (front rest : List Recorder) (recorder : Recorder)
      (runId : RunId) (error : String) (canceled : Bool) :
      LedgerCall env (front ++ recorder :: rest) (do
        let recorded ← recorder.failRun env runId error canceled
        pure (front ++ recorded :: rest))
  | drop (front rest : List Recorder) (recorder : Recorder) :
      LedgerCall env (front ++ recorder :: rest) (do
        recorder.drop env
        pure (front ++ rest))

/-- A call is completed, or the process dies before, inside or after it and its
recorders are lost. -/
inductive LedgerProcess.Step (env : LedgerEnv) :
    LedgerProcess → LedgerProcess → Prop where
  | completed {process : LedgerProcess} {call : LedgerM (List Recorder)}
      {live : List Recorder} {after : Workspace}
      (issued : LedgerCall env process.live call)
      (ran : call.run process.workspace = (.ok live, after)) :
      Step env process ⟨after, live⟩
  | crashed {process : LedgerProcess} {call : LedgerM (List Recorder)}
      {cut : Workspace} (issued : LedgerCall env process.live call)
      (passes : call.Passes process.workspace cut) :
      Step env process ⟨cut, []⟩

/-- A process without recorders in an empty workspace. -/
def LedgerProcess.initial : LedgerProcess :=
  ⟨Workspace.empty, []⟩

/-- Every place replays; the recorders are at the ends of different places. -/
structure LedgerProcess.Sound (env : LedgerEnv) (process : LedgerProcess) :
    Prop where
  durable : Durable env process.workspace
  synced : ∀ recorder ∈ process.live, recorder.Synced env process.workspace
  distinct : process.live.Pairwise fun first second =>
    first.place ≠ second.place

namespace LedgerProcess

variable {live front rest : List Recorder} {recorder : Recorder}

theorem Sound.initial (env : LedgerEnv) :
    LedgerProcess.initial.Sound env := by
  refine ⟨?_, fun _ member => absurd member List.not_mem_nil, .nil⟩
  rintro (path | runId)
  · exact .inl rfl
  · exact ⟨⟨[], .new, rowsHold_nil env rfl, rfl⟩,
      fun nonempty => absurd rfl nonempty⟩

theorem Sound.crash {process : LedgerProcess} (sound : process.Sound env)
    {place : Option Place} (acts : Acts env place process.workspace cut) :
    LedgerProcess.Sound env ⟨cut, []⟩ :=
  ⟨sound.durable.of_acts acts, fun _ member => absurd member List.not_mem_nil,
    .nil⟩

/-- Recorders at other places stay at their ends. -/
theorem Sound.synced_of_acts (sound : Sound env ⟨workspace, live⟩)
    {place : Place} (elsewhere : ∀ recorder ∈ live, recorder.place ≠ place)
    (acts : Acts env (some place) workspace after) :
    ∀ recorder ∈ live, recorder.Synced env after := by
  intro recorder member
  rcases acts recorder.place with same | ⟨own, _⟩
  · exact (sound.synced recorder member).of_sameAt same
  · exact absurd (Option.some.inj own).symm (elsewhere recorder member)

theorem Sound.of_same (sound : Sound env ⟨workspace, live⟩)
    (same : ∀ place, SameAt workspace after place) :
    Sound env ⟨after, live⟩ := by
  refine ⟨fun place => (sound.durable place).of_sameAt (same place), ?_,
    sound.distinct⟩
  intro recorder member
  exact (sound.synced recorder member).of_sameAt (same recorder.place)

/-- The places of the other recorders. -/
theorem Sound.others (sound : Sound env ⟨workspace, front ++ recorder :: rest⟩) :
    Sound env ⟨workspace, front ++ rest⟩ ∧
      ∀ other ∈ front ++ rest, other.place ≠ recorder.place := by
  have distinct := sound.distinct
  rw [List.pairwise_middle Ne.symm, List.pairwise_cons] at distinct
  refine ⟨⟨sound.durable, fun other member => sound.synced other ?_,
    distinct.2⟩, fun other member => Ne.symm (distinct.1 other member)⟩
  rw [List.mem_append] at member ⊢
  exact member.imp_right (List.mem_cons_of_mem recorder)

/-- A recorder at a place of its own joins the others. -/
theorem Sound.insert (sound : Sound env ⟨workspace, front ++ rest⟩)
    (synced : recorder.Synced env workspace)
    (elsewhere : ∀ other ∈ front ++ rest, other.place ≠ recorder.place) :
    Sound env ⟨workspace, front ++ recorder :: rest⟩ := by
  refine ⟨sound.durable, ?_, ?_⟩
  · intro other member
    have cases : other = recorder ∨ other ∈ front ++ rest := by
      simpa [or_left_comm] using member
    rcases cases with rfl | old
    · exact synced
    · exact sound.synced other old
  · rw [List.pairwise_middle Ne.symm, List.pairwise_cons]
    exact ⟨fun other member => Ne.symm (elsewhere other member),
      sound.distinct⟩

/-- What a call does to a process. -/
structure Keeps (env : LedgerEnv) (process : LedgerProcess)
    (call : LedgerM (List Recorder)) : Prop where
  crashed : ∀ cut, call.Passes process.workspace cut → Sound env ⟨cut, []⟩
  completed : ∀ live after, call.run process.workspace = (.ok live, after) →
    Sound env ⟨after, live⟩

/-- A call of a method of one of the recorders. -/
theorem Sound.method (sound : Sound env ⟨workspace, front ++ recorder :: rest⟩)
    {program : LedgerM Recorder}
    (method : Recorder.Method env workspace recorder program) :
    Keeps env ⟨workspace, front ++ recorder :: rest⟩ (do
      let recorded ← program
      pure (front ++ recorded :: rest)) := by
  obtain ⟨recorded, after, ran, samePlace, synced⟩ := method.returns
  constructor
  · intro cut passes
    have acts : ActsOnly env (some recorder.place) workspace (do
        let recorded ← program
        pure (front ++ recorded :: rest)) :=
      method.acts.bind fun _ _ _ => .finish _ _ _ _
    exact sound.crash (acts cut passes)
  · intro live ended called
    rw [Program.run_bind_ok ran] at called
    obtain ⟨isLive, rfl⟩ := Prod.mk.inj called
    obtain rfl := Except.ok.inj isLive
    have acts := method.acts after (Program.passes_of_run ran)
    obtain ⟨others, elsewhere⟩ := sound.others
    refine Sound.insert ⟨sound.durable.of_acts acts,
      others.synced_of_acts elsewhere acts, others.distinct⟩ synced ?_
    rw [samePlace]
    exact elsewhere

theorem Sound.drop (sound : Sound env ⟨workspace, front ++ recorder :: rest⟩) :
    Keeps env ⟨workspace, front ++ recorder :: rest⟩ (do
      recorder.drop env
      pure (front ++ rest)) := by
  obtain ⟨acts, after, ran⟩ := (sound.synced recorder (by simp)).drop
  constructor
  · intro cut passes
    have acting : ActsOnly env (some recorder.place) workspace (do
        recorder.drop env
        pure (front ++ rest)) := acts.bind fun _ _ _ => .finish _ _ _ _
    exact sound.crash (acting cut passes)
  · intro live ended called
    rw [Program.run_bind_ok ran] at called
    obtain ⟨isLive, rfl⟩ := Prod.mk.inj called
    obtain rfl := Except.ok.inj isLive
    have dropped := acts after (Program.passes_of_run ran)
    obtain ⟨others, elsewhere⟩ := sound.others
    exact ⟨sound.durable.of_acts dropped,
      others.synced_of_acts elsewhere dropped, others.distinct⟩

/-- A call that creates a recorder. -/
theorem Sound.create (sound : Sound env ⟨workspace, live⟩) {Created : Type}
    {program : LedgerM Created} (recorderOf : Created → Recorder)
    {place : Option Place} (acts : ActsOnly env place workspace program)
    (untouched : ∀ cut, program.Passes workspace cut →
      ∀ recorder ∈ live, SameAt workspace cut recorder.place)
    (made : ∀ created after, program.run workspace = (.ok created, after) →
      (recorderOf created).Synced env after ∧
        ∀ other ∈ live, other.place ≠ (recorderOf created).place) :
    Keeps env ⟨workspace, live⟩ (adopt recorderOf live program) := by
  constructor
  · intro cut passes
    rw [adopt, Program.passes_bind, Program.passes_attempt, Program.run_attempt] at passes
    rcases passes with inside | ⟨result, middle, ran, ended⟩
    · exact sound.crash (acts cut inside)
    · obtain ⟨_, rfl⟩ := Prod.mk.inj ran
      have reached : cut = (program.run workspace).2 := by
        cases result <;> exact ended
      rw [reached]
      exact sound.crash (acts _ (program.passes_end workspace))
  · intro recorders ended called
    rw [adopt, Program.run_bind, Program.run_attempt] at called
    rcases ran : program.run workspace with ⟨result, after⟩
    rw [ran] at called
    have passes := Program.passes_of_run ran
    have kept : Sound env ⟨after, live⟩ := by
      refine ⟨sound.durable.of_acts (acts after passes), ?_, sound.distinct⟩
      intro recorder member
      exact (sound.synced recorder member).of_sameAt
        (untouched after passes recorder member)
    cases result with
    | error error =>
        obtain ⟨isLive, rfl⟩ := Prod.mk.inj called
        obtain rfl := Except.ok.inj isLive
        exact kept
    | ok created =>
        obtain ⟨isLive, rfl⟩ := Prod.mk.inj called
        obtain rfl := Except.ok.inj isLive
        obtain ⟨synced, elsewhere⟩ := made created after ran
        have joined : Sound env ⟨after, [] ++ recorderOf created :: live⟩ :=
          Sound.insert kept synced elsewhere
        exact joined

section Creation

variable (sound : Sound env ⟨workspace, live⟩) (sessionId question : String)
  (runId : RunId) (createSession : Bool) (hydrated : Hydration)

include sound

theorem Sound.beginSessionRun :
    Keeps env ⟨workspace, live⟩ (do
      let _ ← (PlatoAgent.beginSessionRun env sessionId runId question
        createSession).attempt
      pure live) := by
  have guarantees : (do
      let _ ← (PlatoAgent.beginSessionRun env sessionId runId question
        createSession).attempt
      pure live : LedgerM (List Recorder)).Guarantees SessionOnly :=
    Program.guarantees_bind
      (Program.guarantees_attempt beginSessionRun_sessionOnly) fun _ => trivial
  constructor
  · intro cut passes
    have acts : Acts env none workspace cut :=
      (sessionOnly_of_passes guarantees passes).acts
    exact sound.crash acts
  · intro recorders after called
    have same := sessionOnly_of_passes guarantees
      (Program.passes_of_run called)
    obtain ⟨_, _, _, returned⟩ := Program.exists_of_run_bind_ok called
    obtain rfl := Except.ok.inj (Prod.mk.inj returned).1
    exact sound.of_same same.sameAt

theorem Sound.createSqlite :
    Keeps env ⟨workspace, live⟩ (adopt .sqlite live
      (beginSessionRecorder env hydrated sessionId runId question
        createSession)) := by
  have acts : ActsOnly env none workspace (beginSessionRecorder env hydrated
      sessionId runId question createSession) :=
    SessionOnly.actsOnly beginSessionRecorder_sessionOnly
  refine sound.create Recorder.sqlite acts ?_ ?_
  · intro cut passes recorder _
    exact (sessionOnly_of_passes beginSessionRecorder_sessionOnly
      passes).sameAt recorder.place
  · intro recorder after began
    obtain ⟨rfl, fresh, rowed⟩ := beginSessionRecorder_synced sound.durable
      began
    refine ⟨⟨[], rowed⟩, fun other member same => ?_⟩
    -- A recorder of the same rows would belong to an admitted run.
    have synced := sound.synced other member
    cases other with
    | jsonl other => cases same
    | sqlite other =>
        obtain ⟨records, otherRowed⟩ := synced
        have sameRun : other.runId = recorder.runId := Place.rows.inj same
        exact fresh (sameRun ▸ otherRowed.present)

theorem Sound.createJsonl :
    Keeps env ⟨workspace, live⟩ (adopt .jsonl live
      (beginDefaultJsonlSessionRecorder env hydrated sessionId runId question
        createSession)) := by
  -- A log with a live recorder is there, so it is not created again.
  have present : ∀ recorder ∈ live,
      recorder.place = .log (runJsonlPath runId) →
        workspace.files (runJsonlPath runId) ≠ none := by
    intro recorder member same absent
    have synced := sound.synced recorder member
    cases recorder with
    | sqlite recorder => cases same
    | jsonl recorder =>
        obtain ⟨records, logged⟩ := synced
        have content := logged.content
        rw [Place.log.inj same, absent] at content
        cases content
  have acts : ActsOnly env (some (.log (runJsonlPath runId))) workspace
      (beginDefaultJsonlSessionRecorder env hydrated sessionId runId question
        createSession) :=
    beginDefaultJsonlSessionRecorder_acts _ _ _ _ _
  refine sound.create Recorder.jsonl acts ?_ ?_
  · intro cut passes recorder member
    rcases acts cut passes recorder.place with same | ⟨own, _⟩
    · exact same
    · have untouched := beginDefaultJsonlSessionRecorder_of_log _ _ _ _ _
        (present recorder member (Option.some.inj own).symm) passes
      rw [untouched]
      exact .refl _ _
  · intro recorder after began
    obtain ⟨path, absent, logged⟩ :=
      beginDefaultJsonlSessionRecorder_synced _ _ _ _ _ began
    refine ⟨⟨[], logged⟩, fun other member same => ?_⟩
    rw [Recorder.place, path] at same
    exact present other member same absent

end Creation

theorem Sound.call {process : LedgerProcess} (sound : process.Sound env)
    {call : LedgerM (List Recorder)} (issued : LedgerCall env process.live call) :
    Keeps env process call := by
  obtain ⟨workspace, live⟩ := process
  cases issued with
  | beginSessionRun => exact sound.beginSessionRun _ _ _ _
  | createSqlite => exact sound.createSqlite _ _ _ _ _
  | createJsonl => exact sound.createJsonl _ _ _ _ _
  | record front rest recorder event =>
      exact sound.method ((sound.synced recorder (by simp)).record event)
  | finishRun front rest recorder runId finalAnswer =>
      exact sound.method
        ((sound.synced recorder (by simp)).finishRun runId finalAnswer)
  | failRun front rest recorder runId error canceled =>
      exact sound.method
        ((sound.synced recorder (by simp)).failRun runId error canceled)
  | drop front rest recorder => exact sound.drop

theorem Sound.step {process next : LedgerProcess} (sound : process.Sound env)
    (step : Step env process next) : next.Sound env := by
  cases step with
  | completed issued ran => exact (sound.call issued).completed _ _ ran
  | crashed issued passes => exact (sound.call issued).crashed _ passes

theorem sound_of_steps {process : LedgerProcess}
    (reached : Relation.ReflTransGen (Step env) .initial process) :
    process.Sound env := by
  induction reached with
  | refl => exact .initial env
  | tail _ step ih => exact ih.step step

end LedgerProcess

end PlatoAgent
