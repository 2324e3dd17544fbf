import PlatoAgent.LedgerRecoveryOutcome

/-!
# Recovery of a run with a log

The recovery of one JSONL run, to its end and cut at any point.  While the row
is not closed, a cut leaves a log with the same recovery, except in one window:
the interruption is already in the log.
-/

namespace PlatoAgent

open AtomicProgram

variable {env : LedgerEnv} {error : String} {workspace after cut : Workspace}
  {runId : RunId} {records : List RecordedEvent} {state : RunState}

/-- A log that parses and replays, up to a torn tail. -/
structure ReadableLog (env : LedgerEnv) (workspace : Workspace)
    (path : String) (committed : List UInt8) (records : List RecordedEvent)
    (state : RunState) : Prop where
  content : ∃ torn, newline ∉ torn ∧
    workspace.files path = some (committed ++ torn)
  complete : Committed committed
  read : recordsOf env committed = .ok records
  replayed : RunState.replay records = .ok state

/-- Only this file, and the clock, may have changed. -/
structure LogOnly (path : String) (workspace after : Workspace) : Prop where
  sessionRuns : after.sessionRuns = workspace.sessionRuns
  ledgerEvents : after.ledgerEvents = workspace.ledgerEvents
  files : ∀ other, other ≠ path → after.files other = workspace.files other

theorem LogOnly.refl (path : String) (workspace : Workspace) :
    LogOnly path workspace workspace :=
  ⟨rfl, rfl, fun _ _ => rfl⟩

theorem LogOnly.trans {path : String} {workspace middle after : Workspace}
    (first : LogOnly path workspace middle)
    (second : LogOnly path middle after) : LogOnly path workspace after :=
  ⟨second.sessionRuns.trans first.sessionRuns,
    second.ledgerEvents.trans first.ledgerEvents,
    fun other different =>
      (second.files other different).trans (first.files other different)⟩

theorem LogOnly.tick (path : String) (workspace : Workspace) :
    LogOnly path workspace workspace.tick :=
  ⟨rfl, rfl, fun _ _ => rfl⟩

theorem LogOnly.modifyFile (path : String) (workspace : Workspace)
    (change : List UInt8 → List UInt8) :
    LogOnly path workspace (workspace.modifyFile path change) :=
  ⟨rfl, rfl, fun _ different =>
    Workspace.modifyFile_files_ne workspace change different⟩

/-- The recorder is at the end of a readable log. -/
structure OpenLog (env : LedgerEnv) (workspace : Workspace)
    (recorder : JsonlEventRecorder) (committed : List UInt8)
    (records : List RecordedEvent) : Prop where
  content : workspace.files recorder.path = some committed
  complete : Committed committed
  read : recordsOf env committed = .ok records
  replayed : RunState.replay records = .ok recorder.state
  healthy : recorder.poisoned = false
  free : recorder.session = none

section Logs

variable {path : String} {committed : List UInt8}
  {recorder : JsonlEventRecorder} {event : HarnessEvent}

theorem OpenLog.readable
    (opened : OpenLog env workspace recorder committed records) :
    ReadableLog env workspace recorder.path committed records
      recorder.state :=
  ⟨⟨[], List.not_mem_nil, by simp [opened.content]⟩, opened.complete,
    opened.read, opened.replayed⟩

theorem OpenLog.tick
    (opened : OpenLog env workspace recorder committed records) :
    OpenLog env workspace.tick recorder committed records :=
  ⟨opened.content, opened.complete, opened.read, opened.replayed,
    opened.healthy, opened.free⟩

theorem OpenLog.record_eq
    (opened : OpenLog env workspace recorder committed records) :
    recorder.record env event = recorder.recordEvent env event :=
  JsonlEventRecorder.record_of_open (by
    simp [JsonlEventRecorder.sessionOpen, opened.free])

theorem OpenLog.record_rejected
    (opened : OpenLog env workspace recorder committed records)
    (event : HarnessEvent) (rejected : ∀ next, recorder.state.next
      (recorder.state.stamp 0 event) ≠ .ok next) :
    ∃ failure, (recorder.record env event).run workspace =
      (.error failure, workspace.tick) := by
  cases offered : nextRecordAt (env.clock workspace.clockReadings)
      recorder.state event with
  | error failure =>
      rw [opened.record_eq]
      exact ⟨failure,
        JsonlEventRecorder.recordEvent_run_error opened.healthy offered⟩
  | ok pair =>
      obtain ⟨_, stepped⟩ := nextRecordAt_ok_iff.mp offered
      exact absurd stepped (rejected _)

/-- An accepted event is read after the others. -/
theorem OpenLog.record_accepted
    (opened : OpenLog env workspace recorder committed records)
    (readable : event.refused = false) {next : RunState}
    (accepted : recorder.state.next (recorder.state.stamp 0 event) =
      .ok next) :
    ∃ record after,
      record = recorder.state.stamp (env.clock workspace.clockReadings)
        event ∧
      (recorder.record env event).run workspace =
        (.ok (record, recorder.advanced next), after) ∧
      OpenLog env after (recorder.advanced next)
        (committed ++ logBytes env [record]) (records ++ [record]) ∧
      LogOnly recorder.path workspace after := by
  have offered := nextRecordAt_ok_iff.mpr
    (⟨rfl, accepted⟩ : _ ∧ recorder.state.next (recorder.state.stamp
      (env.clock workspace.clockReadings) event) = .ok next)
  have ran := JsonlEventRecorder.recordEvent_run_ok opened.healthy offered
  have line : logBytes env [recorder.state.stamp
      (env.clock workspace.clockReadings) event] = lineBytes env
        (recorder.state.stamp (env.clock workspace.clockReadings) event) := by
    simp [logBytes]
  rw [opened.record_eq]
  refine ⟨_, _, rfl, ran, ⟨?_, ?_, ?_, ?_, opened.healthy, opened.free⟩,
    (LogOnly.tick _ _).trans (LogOnly.modifyFile _ _ _)⟩
  · simp [JsonlEventRecorder.advanced, opened.content, line]
  · rw [line]
    exact committed_lineBytes env _ _
  · have valid := readBack_ok_iff.mpr readable
    rw [line, recordsOf_append_line env opened.complete, opened.read]
    simp [RunState.stamp, valid, bind, Except.bind, pure, Except.pure]
  · exact RunState.replay_concat_ok_iff.mpr
      ⟨recorder.state, opened.replayed, accepted⟩

/-- A cut call left the log as it was, up to a torn tail, or it was done. -/
theorem OpenLog.record_passes
    (opened : OpenLog env workspace recorder committed records)
    (passes : (recorder.record env event).Passes workspace cut) :
    (LogOnly recorder.path workspace cut ∧
        ReadableLog env cut recorder.path committed records
          recorder.state) ∨
      cut = ((recorder.record env event).run workspace).2 := by
  rw [opened.record_eq] at passes ⊢
  rcases JsonlEventRecorder.recordEvent_passes opened.healthy passes with
    rfl | rfl | ⟨record, next, accepted, count, bound, rfl⟩
  · exact .inl ⟨LogOnly.refl _ _, opened.readable⟩
  · exact .inl ⟨LogOnly.tick _ _, opened.tick.readable⟩
  · rcases Nat.lt_or_eq_of_le bound with torn | whole
    · refine .inl ⟨(LogOnly.tick _ _).trans (LogOnly.modifyFile _ _ _),
        ⟨_, newline_not_mem_take_lineBytes torn, ?_⟩, opened.complete,
        opened.read, opened.replayed⟩
      simp [opened.content]
    · refine .inr ?_
      rw [JsonlEventRecorder.recordEvent_run_ok opened.healthy accepted,
        whole, List.take_length]

theorem ReadableLog.reopen
    (log : ReadableLog env workspace path committed records state)
    (named : path ≠ "") :
    ∃ after,
      (JsonlEventRecorder.reopen env path).run workspace =
        (.ok (.reopened path state), after) ∧
      OpenLog env after (.reopened path state) committed records ∧
      LogOnly path workspace after := by
  obtain ⟨torn, tail, content⟩ := log.content
  have replayed : replayRecords records = .ok state := by
    rw [replayRecords, log.replayed]
    rfl
  have ran := JsonlEventRecorder.reopen_run_ok named content
    ((recordsOf_torn env log.complete tail).trans log.read) replayed
  rw [committedLength_append log.complete tail] at ran
  refine ⟨_, ran, ⟨?_, log.complete, log.read, log.replayed, rfl, rfl⟩,
    LogOnly.modifyFile _ _ _⟩
  simp [JsonlEventRecorder.reopened, content]

theorem ReadableLog.reopen_passes
    (log : ReadableLog env workspace path committed records state)
    (named : path ≠ "")
    (passes : (JsonlEventRecorder.reopen env path).Passes workspace cut) :
    LogOnly path workspace cut ∧
      ReadableLog env cut path committed records state := by
  obtain ⟨torn, tail, content⟩ := log.content
  rcases JsonlEventRecorder.reopen_passes named content passes with rfl | rfl
  · exact ⟨LogOnly.refl _ _, log⟩
  · refine ⟨LogOnly.modifyFile _ _ _, ⟨[], List.not_mem_nil, ?_⟩,
      log.complete, log.read, log.replayed⟩
    simp [content, committedLength_append log.complete tail]

end Logs

theorem terminalOutcome_failed (runId : RunId) (records : List RecordedEvent)
    (reason : String) :
    terminalOutcome runId records (.failed reason) =
      some (.ok (storedFailureOutcome reason)) :=
  rfl

theorem terminalOutcome_of_canFail {phase : RunPhase}
    (canFail : phase.canFail = true) :
    terminalOutcome runId records phase = none := by
  cases phase <;> first | rfl | cases canFail

theorem canFail_of_not_terminal {phase : RunPhase}
    (started : phase ≠ .notStarted)
    (ongoing : terminalOutcome runId records phase = none) :
    phase.canFail = true := by
  cases phase <;> first | rfl | exact absurd rfl started | cases ongoing

theorem not_failed_of_not_terminal {phase : RunPhase}
    (ongoing : terminalOutcome runId records phase = none) (reason : String) :
    phase ≠ .failed reason := by
  rintro rfl
  cases ongoing

/-- A started run accepts its failure exactly if it is not over and the failure
names it. -/
theorem next_runFailed_iff (error : String)
    (replayed : RunState.replay records = .ok state)
    (nonempty : records ≠ [])
    (ongoing : terminalOutcome runId records state.phase = none) :
    (∃ next, state.next (state.stamp 0 (.runFailed runId error)) =
      .ok next) ↔ state.runId = some runId := by
  have shape := RunState.ledgerShape_of_replay replayed
  obtain ⟨first, rest, rfl⟩ := List.exists_cons_of_ne_nil nonempty
  have bound := shape.runIds first List.mem_cons_self
  have canFail := canFail_of_not_terminal (shape.started nonempty) ongoing
  rw [RunState.next_runFailed_ok_iff, bound]
  constructor
  · rintro ⟨named, _⟩
    rw [named _ rfl]
  · intro same
    refine ⟨fun expected isBound => ?_, canFail⟩
    exact Option.some.inj (same.symm.trans isBound)

theorem recoveredOutcome_ongoing (nonempty : records ≠ [])
    (ongoing : terminalOutcome runId records state.phase = none) :
    recoveredOutcome error runId true records state =
      if state.runId = some runId then some (interruptedOutcome error)
      else none := by
  have notEmpty : records.isEmpty = false := by simpa using nonempty
  simp [recoveredOutcome, ongoing, endable, notEmpty]

/-- The part of the recovery after the log is open and started. -/
def endJsonlRun (env : LedgerEnv) (runId : RunId) (error : String)
    (recorder : JsonlEventRecorder) (records : List RecordedEvent) :
    LedgerM Unit := do
  let state ← Program.ofExcept (replayRecords records)
  match terminalOutcome runId records state.phase with
  | some outcome =>
      let outcome ← Program.ofExcept outcome
      completeSessionTerminal env runId outcome
  | none =>
      let _ ← recorder.record env (.runFailed runId error)
      completeSessionTerminal env runId (interruptedOutcome error)

theorem recoverJsonlSessionRun_eq (env : LedgerEnv) (path : String)
    (runId : RunId) (error : String) :
    recoverJsonlSessionRun env path runId error = (do
      let recorder ← JsonlEventRecorder.reopen env path
      let (recorder, records) ← startedRecords env recorder runId
      endJsonlRun env runId error recorder records) :=
  rfl

/-- The ledger has the same recovery as before. -/
structure SameFate (error : String) (runId : RunId)
    (records : List RecordedEvent) (state : RunState)
    (laterRecords : List RecordedEvent) (later : RunState) : Prop where
  outcome : recoveredOutcome error runId true laterRecords later =
    recoveredOutcome error runId true records state
  failed : ∀ reason, later.phase = .failed reason ↔
    state.phase = .failed reason

/-- The interruption is in the log of a run that was not over. -/
structure InterruptionLogged (error : String) (runId : RunId)
    (records : List RecordedEvent) (state later : RunState) : Prop where
  outcome : recoveredOutcome error runId true records state =
    some (interruptedOutcome error)
  failed : later.phase = .failed error
  ongoing : ∀ reason, state.phase ≠ .failed reason

/-- What a cut of the recovery leaves while the row is not closed. -/
structure JsonlCut (env : LedgerEnv) (error : String) (path : String)
    (runId : RunId) (committed : List UInt8) (records : List RecordedEvent)
    (state : RunState) (workspace cut : Workspace) : Prop where
  logOnly : LogOnly path workspace cut
  log : ∃ added later,
    ReadableLog env cut path (committed ++ logBytes env added)
      (records ++ added) later ∧
    (SameFate error runId records state (records ++ added) later ∨
      InterruptionLogged error runId records state later)

section EndRun

variable {recorder : JsonlEventRecorder} {committed : List UInt8}

theorem JsonlCut.of_readable {path : String}
    (logOnly : LogOnly path workspace cut)
    (log : ReadableLog env cut path committed records state) :
    JsonlCut env error path runId committed records state workspace cut := by
  refine ⟨logOnly, [], state, ?_, .inl ?_⟩
  · simpa [logBytes] using log
  · rw [List.append_nil]
    exact ⟨rfl, fun _ => Iff.rfl⟩

theorem endJsonlRun_terminal (replayed : RunState.replay records = .ok state)
    {outcome : Except AppError SessionOutcome}
    (terminal : terminalOutcome runId records state.phase = some outcome) :
    endJsonlRun env runId error recorder records = (do
      let outcome ← Program.ofExcept outcome
      completeSessionTerminal env runId outcome) := by
  have opened : replayRecords records = .ok state := by
    rw [replayRecords, replayed]
    rfl
  rw [endJsonlRun, opened, Program.ofExcept_ok_bind, terminal]

theorem endJsonlRun_ongoing (replayed : RunState.replay records = .ok state)
    (ongoing : terminalOutcome runId records state.phase = none) :
    endJsonlRun env runId error recorder records = (do
      let _ ← recorder.record env (.runFailed runId error)
      completeSessionTerminal env runId (interruptedOutcome error)) := by
  have opened : replayRecords records = .ok state := by
    rw [replayRecords, replayed]
    rfl
  rw [endJsonlRun, opened, Program.ofExcept_ok_bind, ongoing]

/-- The row is closed, and nothing changed but this log. -/
structure ClosedLog (env : LedgerEnv) (path : String) (runId : RunId)
    (outcome : SessionOutcome) (committed : List UInt8)
    (records : List RecordedEvent) (workspace after : Workspace) : Prop where
  closed : ClosedWith runId outcome workspace after
  ledgerEvents : after.ledgerEvents = workspace.ledgerEvents
  files : ∀ other, other ≠ path → after.files other = workspace.files other
  log : ∃ added later, ReadableLog env after path
    (committed ++ logBytes env added) (records ++ added) later

theorem OpenLog.endRun
    (opened : OpenLog env workspace recorder committed records)
    (error : String) (nonempty : records ≠ []) (fits : ClockFits env)
    (running : Running workspace runId) :
    (∃ outcome after,
      recoveredOutcome error runId true records recorder.state =
        some outcome ∧
      (endJsonlRun env runId error recorder records).run workspace =
        (.ok (), after) ∧
      ClosedLog env recorder.path runId outcome committed records workspace
        after) ∨
    (∃ failure after,
      recoveredOutcome error runId true records recorder.state = none ∧
      (endJsonlRun env runId error recorder records).run workspace =
        (.error failure, after) ∧
      LogOnly recorder.path workspace after ∧
      ReadableLog env after recorder.path committed records
        recorder.state) := by
  cases terminal : terminalOutcome runId records recorder.state.phase with
  | some result =>
      rw [endJsonlRun_terminal opened.replayed terminal]
      cases result with
      | error failure =>
          refine .inr ⟨failure, workspace, ?_, rfl, LogOnly.refl _ _,
            opened.readable⟩
          simp [recoveredOutcome, terminal, Except.toOption]
      | ok outcome =>
          obtain ⟨after, ran, closed, same⟩ :=
            completeSessionTerminal_run fits running outcome
          refine .inl ⟨outcome, after, ?_, ran, closed, same.ledgerEvents,
            fun other _ => by rw [same.files], [], recorder.state,
            ⟨[], List.not_mem_nil, ?_⟩, ?_, ?_, ?_⟩
          · simp [recoveredOutcome, terminal, Except.toOption]
          · simp [same.files, opened.content, logBytes]
          · simpa [logBytes] using opened.complete
          · simpa [logBytes] using opened.read
          · simpa using opened.replayed
  | none =>
      rw [endJsonlRun_ongoing opened.replayed terminal,
        recoveredOutcome_ongoing nonempty terminal]
      by_cases own : recorder.state.runId = some runId
      · obtain ⟨next, accepted⟩ := (next_runFailed_iff error
          opened.replayed nonempty terminal).mpr own
        obtain ⟨record, middle, _, recorded, extended, logOnly⟩ :=
          opened.record_accepted rfl accepted
        have stillRunning : Running middle runId := by
          rw [Running, logOnly.sessionRuns]
          exact running
        obtain ⟨after, ran, ⟨now, closed⟩, same⟩ :=
          completeSessionTerminal_run fits stillRunning
            (interruptedOutcome error)
        refine .inl ⟨interruptedOutcome error, after, if_pos own, ?_,
          ⟨now, ?_⟩, ?_, ?_, [record], next, ⟨[], List.not_mem_nil, ?_⟩,
          extended.complete, extended.read, extended.replayed⟩
        · rw [Program.run_bind_ok recorded]
          exact ran
        · rw [closed, Workspace.closeRun, Workspace.closeRun,
            logOnly.sessionRuns]
        · rw [same.ledgerEvents, logOnly.ledgerEvents]
        · intro other different
          rw [same.files, logOnly.files other different]
        · rw [same.files, List.append_nil]
          exact extended.content
      · obtain ⟨failure, rejected⟩ := opened.record_rejected
          (.runFailed runId error) fun next accepted =>
            own ((next_runFailed_iff error opened.replayed nonempty
              terminal).mp
              ⟨next, accepted⟩)
        refine .inr ⟨failure, _, if_neg own, ?_, LogOnly.tick _ _,
          opened.tick.readable⟩
        rw [Program.run_bind_error rejected]

theorem OpenLog.endRun_passes
    (opened : OpenLog env workspace recorder committed records)
    (nonempty : records ≠ [])
    (passes : (endJsonlRun env runId error recorder records).Passes workspace
      cut) :
    JsonlCut env error recorder.path runId committed records recorder.state
        workspace cut ∨
      cut = ((endJsonlRun env runId error recorder records).run
        workspace).2 := by
  cases terminal : terminalOutcome runId records recorder.state.phase with
  | some result =>
      rw [endJsonlRun_terminal opened.replayed terminal] at passes ⊢
      cases result with
      | error failure =>
          obtain rfl : cut = workspace := passes
          exact .inr rfl
      | ok outcome =>
          rw [Program.ofExcept_ok_bind] at passes ⊢
          rcases nowColumn_transaction_passes passes with rfl | rfl | done
          · exact .inl (.of_readable (LogOnly.refl _ _) opened.readable)
          · exact .inl (.of_readable (LogOnly.tick _ _) opened.tick.readable)
          · exact .inr done
  | none =>
      rw [endJsonlRun_ongoing opened.replayed terminal] at passes ⊢
      by_cases own : recorder.state.runId = some runId
      · obtain ⟨next, accepted⟩ := (next_runFailed_iff error
          opened.replayed nonempty terminal).mpr own
        obtain ⟨record, middle, _, recorded, extended, logOnly⟩ :=
          opened.record_accepted rfl accepted
        have phase : next.phase = .failed error :=
          RunState.phase_of_next_runFailed accepted
        -- From here on the interruption is in the log.
        have logged : ∀ later, LogOnly recorder.path middle later →
            later.files recorder.path = middle.files recorder.path →
            JsonlCut env error recorder.path runId committed records
              recorder.state workspace later := by
          intro later fromMiddle sameFile
          refine ⟨logOnly.trans fromMiddle, [record], next,
            ⟨⟨[], List.not_mem_nil, ?_⟩, extended.complete, extended.read,
              extended.replayed⟩, .inr ⟨?_, phase, ?_⟩⟩
          · rw [sameFile, List.append_nil]
            exact extended.content
          · rw [recoveredOutcome_ongoing nonempty terminal, if_pos own]
          · exact not_failed_of_not_terminal terminal
        rw [Program.passes_bind_of_ok recorded] at passes
        rcases passes with early | late
        · rcases opened.record_passes early with ⟨same, log⟩ | done
          · exact .inl (.of_readable same log)
          · rw [recorded] at done
            rw [done]
            exact .inl (logged middle (LogOnly.refl _ _) rfl)
        · rcases nowColumn_transaction_passes late with rfl | rfl | done
          · exact .inl (logged _ (LogOnly.refl _ _) rfl)
          · exact .inl (logged _ (LogOnly.tick _ _) rfl)
          · rw [Program.run_bind_ok recorded]
            exact .inr done
      · obtain ⟨failure, rejected⟩ := opened.record_rejected
          (.runFailed runId error) fun next accepted =>
            own ((next_runFailed_iff error opened.replayed nonempty
              terminal).mp
              ⟨next, accepted⟩)
        rw [Program.passes_bind_of_error rejected] at passes
        rw [Program.run_bind_error rejected]
        rcases opened.record_passes passes with ⟨same, log⟩ | done
        · exact .inl (.of_readable same log)
        · rw [rejected] at done
          exact .inr done

end EndRun

/-- An empty log accepts its first event, and then its failure. -/
theorem next_recoveredStart (runId : RunId) :
    ∃ next, RunState.new.next (RunState.new.stamp 0
        (.runStarted ⟨runId, recoveredIdentity⟩)) = .ok next ∧
      next.runId = some runId ∧ next.phase.canFail = true := by
  obtain ⟨next, accepted⟩ := (@RunState.next_new_ok_iff 0
    (.runStarted ⟨runId, recoveredIdentity⟩)).mpr rfl
  refine ⟨next, accepted, ?_⟩
  obtain ⟨_, middle, transition, rfl⟩ := RunState.next_ok_iff.mp accepted
  cases transition with
  | runStarted => exact ⟨rfl, rfl⟩

section RecoverLog

variable {recorder : JsonlEventRecorder} {committed : List UInt8}
  {path : String}

/-- After this stage the log is not empty, and its recovery is the same. -/
theorem OpenLog.started
    (opened : OpenLog env workspace recorder committed records)
    (error : String) (runId : RunId) :
    ∃ added started after,
      (startedRecords env recorder runId).run workspace =
        (.ok (started, records ++ added), after) ∧
      OpenLog env after started (committed ++ logBytes env added)
        (records ++ added) ∧
      started.path = recorder.path ∧ LogOnly recorder.path workspace after ∧
      records ++ added ≠ [] ∧
      SameFate error runId records recorder.state (records ++ added)
        started.state ∧
      ∀ cut, (startedRecords env recorder runId).Passes workspace cut →
        (LogOnly recorder.path workspace cut ∧ ReadableLog env cut
          recorder.path committed records recorder.state) ∨ cut = after := by
  have read : (readRecords env recorder.path).run workspace =
      (.ok records, workspace) := by
    rw [readRecords_run opened.content, opened.read]
  by_cases empty : records = []
  · subst empty
    have initial : recorder.state = .new :=
      (RunState.ledgerShape_of_replay opened.replayed).initial rfl
    obtain ⟨next, accepted, own, canFail⟩ := next_recoveredStart runId
    rw [← initial] at accepted
    obtain ⟨record, after, _, recorded, extended, logOnly⟩ :=
      opened.record_accepted rfl accepted
    have readBack : (readRecords env (recorder.advanced next).path).run
        after = (.ok [record], after) := by
      rw [readRecords_run extended.content, extended.read]
      rfl
    have notFailed : ∀ reason, next.phase ≠ .failed reason := by
      intro reason failed
      rw [failed] at canFail
      cases canFail
    refine ⟨[record], recorder.advanced next, after, ?_, extended, rfl,
      logOnly, by simp, ⟨?_, ?_⟩, ?_⟩
    · rw [startedRecords, Program.run_bind_ok read, List.isEmpty_nil,
        if_pos rfl, Program.run_bind_ok recorded]
      exact Program.run_bind_ok readBack
    · have ongoing := @terminalOutcome_of_canFail runId ([] ++ [record])
        next.phase canFail
      have ended := @recoveredOutcome_ongoing error runId ([] ++ [record])
        next (by simp) ongoing
      rw [if_pos own] at ended
      rw [initial]
      exact ended
    · intro reason
      rw [initial]
      exact ⟨fun failed => absurd failed (notFailed reason), nofun⟩
    · intro cut passes
      rw [startedRecords, Program.passes_bind_of_ok read, List.isEmpty_nil,
        if_pos rfl, Program.passes_bind_of_ok recorded] at passes
      rcases passes with early | late | afterwards
      · rw [readRecords_passes early]
        exact .inl ⟨LogOnly.refl _ _, opened.readable⟩
      · rcases opened.record_passes late with same | done
        · exact .inl same
        · rw [recorded] at done
          exact .inr done
      · dsimp only at afterwards
        rw [Program.passes_bind_of_ok readBack] at afterwards
        rcases afterwards with reading | done
        · exact .inr (readRecords_passes reading)
        · exact .inr done
  · have notEmpty : ¬ records.isEmpty = true := by simpa using empty
    refine ⟨[], recorder, workspace, ?_, ?_, rfl, LogOnly.refl _ _,
      by simpa using empty, ?_, ?_⟩
    · rw [startedRecords, Program.run_bind_ok read, if_neg notEmpty,
        List.append_nil]
      rfl
    · simpa [logBytes] using opened
    · rw [List.append_nil]
      exact ⟨rfl, fun _ => Iff.rfl⟩
    · intro cut passes
      rw [startedRecords, Program.passes_bind_of_ok read,
        if_neg notEmpty] at passes
      rcases passes with early | late
      · exact .inr (readRecords_passes early)
      · exact .inr late

/-- A later stage of the recovery, seen from its start. -/
theorem JsonlCut.after_stage {middle : Workspace}
    {added : List RecordedEvent} {started : RunState}
    (logOnly : LogOnly path workspace middle)
    (fate : SameFate error runId records state (records ++ added) started)
    (later : JsonlCut env error path runId (committed ++ logBytes env added)
      (records ++ added) started middle cut) :
    JsonlCut env error path runId committed records state workspace cut := by
  obtain ⟨more, final, log, ends⟩ := later.log
  have bytes : logBytes env (added ++ more) =
      logBytes env added ++ logBytes env more := by simp [logBytes]
  rw [List.append_assoc, List.append_assoc, ← bytes] at log
  refine ⟨logOnly.trans later.logOnly, added ++ more, final, log, ?_⟩
  rcases ends with same | interrupted
  · refine .inl ⟨?_, fun reason =>
      (same.failed reason).trans (fate.failed reason)⟩
    rw [← List.append_assoc, same.outcome, fate.outcome]
  · refine .inr ⟨fate.outcome.symm.trans interrupted.outcome,
      interrupted.failed, fun reason failed =>
        interrupted.ongoing reason ((fate.failed reason).mpr failed)⟩

/-- The recovery of a run with a readable log stores the outcome of its ledger,
or fails and leaves the row running. -/
theorem ReadableLog.recover
    (log : ReadableLog env workspace path committed records state)
    (named : path ≠ "") (fits : ClockFits env)
    (running : Running workspace runId) :
    (∃ outcome after,
      recoveredOutcome error runId true records state = some outcome ∧
      (recoverJsonlSessionRun env path runId error).run workspace =
        (.ok (), after) ∧
      ClosedLog env path runId outcome committed records workspace after) ∨
    (∃ failure after,
      recoveredOutcome error runId true records state = none ∧
      (recoverJsonlSessionRun env path runId error).run workspace =
        (.error failure, after) ∧
      JsonlCut env error path runId committed records state workspace
        after) := by
  obtain ⟨opened, reopened, openLog, openOnly⟩ := log.reopen named
  obtain ⟨added, started, middle, starts, startedLog, samePath, startOnly,
    nonempty, fate, _⟩ := openLog.started error runId
  have stillRunning : Running middle runId := by
    rw [Running, startOnly.sessionRuns, openOnly.sessionRuns]
    exact running
  have logOnly : LogOnly path workspace middle := openOnly.trans startOnly
  have whole : (recoverJsonlSessionRun env path runId error).run workspace =
      (endJsonlRun env runId error started (records ++ added)).run middle := by
    rw [recoverJsonlSessionRun_eq, Program.run_bind_ok reopened,
      Program.run_bind_ok starts]
  have startPath : started.path = path := samePath
  rcases startedLog.endRun error nonempty fits stillRunning with
    ⟨outcome, after, ends, ran, ⟨now, closed⟩, events, files, more, final,
      readable⟩ | ⟨failure, after, ends, ran, endOnly, readable⟩
  · rw [startPath] at files readable
    refine .inl ⟨outcome, after, fate.outcome.symm.trans ends,
      whole.trans ran, ⟨now, ?_⟩, ?_, ?_, added ++ more, final, ?_⟩
    · rw [closed, Workspace.closeRun, Workspace.closeRun, logOnly.sessionRuns]
    · rw [events, logOnly.ledgerEvents]
    · intro other different
      rw [files other different, logOnly.files other different]
    · have bytes : logBytes env (added ++ more) =
          logBytes env added ++ logBytes env more := by simp [logBytes]
      rw [bytes, ← List.append_assoc, ← List.append_assoc]
      exact readable
  · rw [startPath] at endOnly readable
    exact .inr ⟨failure, after, fate.outcome.symm.trans ends,
      whole.trans ran, .after_stage logOnly fate (.of_readable endOnly readable)⟩

/-- A cut recovery left the row running, or it was done. -/
theorem ReadableLog.recover_passes
    (log : ReadableLog env workspace path committed records state)
    (named : path ≠ "")
    (passes : (recoverJsonlSessionRun env path runId error).Passes workspace
      cut) :
    JsonlCut env error path runId committed records state workspace cut ∨
      cut = ((recoverJsonlSessionRun env path runId error).run
        workspace).2 := by
  obtain ⟨opened, reopened, openLog, openOnly⟩ := log.reopen named
  obtain ⟨added, started, middle, starts, startedLog, samePath, startOnly,
    nonempty, fate, startCuts⟩ := openLog.started error runId
  have logOnly : LogOnly path workspace middle := openOnly.trans startOnly
  have startPath : started.path = path := samePath
  rw [recoverJsonlSessionRun_eq] at passes ⊢
  rw [Program.run_bind_ok reopened, Program.run_bind_ok starts]
  rw [Program.passes_bind_of_ok reopened,
    Program.passes_bind_of_ok starts] at passes
  rcases passes with early | starting | ending
  · obtain ⟨same, readable⟩ := log.reopen_passes named early
    exact .inl (.of_readable same readable)
  · rcases startCuts cut starting with ⟨same, readable⟩ | rfl
    · exact .inl (.of_readable (openOnly.trans same) readable)
    · have readable := startedLog.readable
      rw [startPath] at readable
      exact .inl (.after_stage logOnly fate
        (.of_readable (LogOnly.refl _ _) readable))
  · rcases startedLog.endRun_passes nonempty ending with cutting | done
    · rw [startPath] at cutting
      exact .inl (.after_stage logOnly fate cutting)
    · exact .inr done

/-- Only a run that is not over is interrupted. -/
theorem ongoing_of_interrupted {logged : Bool}
    (interrupted : recoveredOutcome error runId logged records state =
      some (interruptedOutcome error)) :
    terminalOutcome runId records state.phase = none ∧
      endable runId logged records state = true := by
  rcases recoveredOutcome_eq_some_iff.mp interrupted with
    terminal | ⟨ongoing, ends, _⟩
  · unfold terminalOutcome at terminal
    split at terminal
    · cases answer : finalAnswerFromRecords runId records <;>
        simp [answer, Except.map, finishedOutcome,
          interruptedOutcome] at terminal
    · simp only [storedFailureOutcome, interruptedOutcome, failureStatus,
        Option.some.injEq, Except.ok.injEq, SessionOutcome.mk.injEq] at terminal
      split at terminal <;> cases terminal.1
    · cases terminal
  · exact ⟨ongoing, ends⟩

/-- The recovery of an empty log passes through a state with the first event in
the log and the row as it was. -/
theorem ReadableLog.exists_started
    (log : ReadableLog env workspace path committed [] .new) (error : String)
    (runId : RunId) (named : path ≠ "") :
    ∃ cut final record later,
      (recoverJsonlSessionRun env path runId error).Passes workspace cut ∧
      LogOnly path workspace cut ∧
      ReadableLog env cut path final [record] later ∧
      ∀ reason, later.phase ≠ .failed reason := by
  obtain ⟨opened, reopened, openLog, openOnly⟩ := log.reopen named
  obtain ⟨next, accepted, _, canFail⟩ := next_recoveredStart runId
  obtain ⟨record, cut, _, recorded, extended, logOnly⟩ :=
    openLog.record_accepted rfl accepted
  have read : (readRecords env (JsonlEventRecorder.reopened path .new).path).run
      opened = (.ok [], opened) := by
    rw [readRecords_run openLog.content, openLog.read]
  refine ⟨cut, _, record, next, ?_, openOnly.trans logOnly, extended.readable,
    fun reason failed => ?_⟩
  · rw [recoverJsonlSessionRun_eq, Program.passes_bind_of_ok reopened,
      Program.passes_bind]
    refine .inr (.inl ?_)
    rw [startedRecords, Program.passes_bind_of_ok read, List.isEmpty_nil,
      if_pos rfl, Program.passes_bind_of_ok recorded]
    exact .inr (.inr (Program.passes_start _ _))
  · rw [failed] at canFail
    cases canFail

/-- The recovery of a run that it interrupts passes through a state with the
interruption in the log and the row as it was. -/
theorem ReadableLog.exists_interrupted
    (log : ReadableLog env workspace path committed records state)
    (named : path ≠ "")
    (interrupted : recoveredOutcome error runId true records state =
      some (interruptedOutcome error)) :
    ∃ cut final ending later,
      (recoverJsonlSessionRun env path runId error).Passes workspace cut ∧
      LogOnly path workspace cut ∧
      ReadableLog env cut path final ending later ∧
      later.phase = .failed error := by
  obtain ⟨opened, reopened, openLog, openOnly⟩ := log.reopen named
  obtain ⟨added, started, middle, starts, startedLog, samePath, startOnly,
    nonempty, fate, _⟩ := openLog.started error runId
  obtain ⟨ongoing, ends⟩ := ongoing_of_interrupted
    (fate.outcome.trans interrupted)
  have own : started.state.runId = some runId := by
    have notEmpty : (records ++ added).isEmpty = false := by
      simpa using nonempty
    simpa [endable, notEmpty] using ends
  obtain ⟨next, accepted⟩ := (next_runFailed_iff error startedLog.replayed
    nonempty ongoing).mpr own
  obtain ⟨record, cut, _, recorded, extended, logOnly⟩ :=
    startedLog.record_accepted rfl accepted
  have startPath : started.path = path := samePath
  have readable := extended.readable
  rw [startPath] at logOnly
  refine ⟨cut, _, _, next, ?_, (openOnly.trans startOnly).trans logOnly,
    startPath ▸ readable, RunState.phase_of_next_runFailed accepted⟩
  rw [recoverJsonlSessionRun_eq, Program.passes_bind_of_ok reopened,
    Program.passes_bind_of_ok starts]
  dsimp only
  rw [endJsonlRun_ongoing startedLog.replayed ongoing,
    Program.passes_bind_of_ok recorded]
  exact .inr (.inr (.inr (Program.passes_start _ _)))

end RecoverLog

end PlatoAgent
