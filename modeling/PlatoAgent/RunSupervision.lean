import PlatoAgent.RunSupervisor

/-!
# The ledger of a supervised run

Whatever the child sends and whenever a stop is observed, the ledger of the run
holds the events that the parent recorded and at most one end, which is written
when the completion is published.  The run is published as finished only when
the child staged that end, reported it and exited.
-/

namespace PlatoAgent

open AtomicProgram

variable {env : LedgerEnv} {workspace after : Workspace}

section Recorders

variable {recorder : JsonlEventRecorder} {records : List RecordedEvent}
variable {record : RecordedEvent} {state : RunState} {event : HarnessEvent}

/-- The workspace with a further line in the log. -/
def Workspace.withLine (workspace : Workspace) (env : LedgerEnv)
    (path : String) (record : RecordedEvent) : Workspace :=
  workspace.tick.modifyFile path (· ++ lineBytes env record)

theorem Logged.withLine (logged : Logged env workspace recorder records)
    (offered : nextRecordAt (env.clock workspace.clockReadings) recorder.state
      event = .ok (record, state)) :
    Logged env (workspace.withLine env recorder.path record)
      (recorder.advanced state) (records ++ [record]) := by
  obtain ⟨rfl, stepped⟩ := nextRecordAt_ok_iff.mp offered
  refine ⟨?_, ?_, logged.healthy⟩
  · simp [Workspace.withLine, JsonlEventRecorder.advanced, logged.content,
      logBytes_concat]
  · exact RunState.replay_concat_ok_iff.mpr
      ⟨recorder.state, logged.replayed, stepped⟩

/-- One call of `record` while the session run is open. -/
theorem Logged.record_open (logged : Logged env workspace recorder records)
    (isOpen : recorder.sessionOpen = true) (event : HarnessEvent) :
    (∃ record recorded after,
      (recorder.record env event).run workspace =
        (.ok (record, recorded), after) ∧
      record.event = event ∧ record.event.isRunEnd = false ∧
      recorded.session = recorder.session ∧
      Logged env after recorded (records ++ [record]) ∧
      after.sessionRuns = workspace.sessionRuns) ∨
    ∃ error after, (recorder.record env event).run workspace =
        (.error error, after) ∧
      Logged env after recorder records ∧
      after.sessionRuns = workspace.sessionRuns := by
  by_cases isEnd : event.isRunEnd = true
  · exact .inr ⟨_, _, JsonlEventRecorder.record_run_gated
      (by simp [isOpen, isEnd]), logged, rfl⟩
  · have notEnd : event.isRunEnd = false := by simpa using isEnd
    rw [JsonlEventRecorder.record_of_open (by simp [notEnd])]
    cases offered : nextRecordAt (env.clock workspace.clockReadings)
        recorder.state event with
    | error error =>
        exact .inr ⟨error, _,
          JsonlEventRecorder.recordEvent_run_error logged.healthy offered,
          logged.tick, rfl⟩
    | ok pair =>
        obtain ⟨record, state⟩ := pair
        refine .inl ⟨record, _, _, JsonlEventRecorder.recordEvent_run_ok
          logged.healthy offered, ?_, ?_, rfl, logged.withLine offered, rfl⟩
        · obtain ⟨rfl, _⟩ := nextRecordAt_ok_iff.mp offered
          rfl
        · obtain ⟨rfl, _⟩ := nextRecordAt_ok_iff.mp offered
          exact notEnd

variable {session : JsonlSession} (attached : recorder.session = some session)
variable (isOpen : session.isOpen = true)

include attached isOpen

theorem Logged.recordTerminal_rejected
    (logged : Logged env workspace recorder records) {error : AppError}
    (rejected : nextRecordAt (env.clock workspace.clockReadings) recorder.state
      event = .error error) (outcome : SessionOutcome) :
    (recorder.recordTerminal env event outcome).run workspace =
      (.ok (.error error, { recorder with
        session := some { session with terminalAttempted := true } }),
        workspace.tick) := by
  have attempted := logged.withSession
    (some { session with terminalAttempted := true })
  have ran := JsonlEventRecorder.recordEvent_run_error attempted.healthy
    rejected
  unfold JsonlEventRecorder.recordTerminal
  simp only [attached]
  rw [if_neg (by simp [isOpen])]
  rw [Program.run_bind_ok (by rw [Program.run_attempt, ran])]
  rfl

/-- The event is written, and then the row is closed or not. -/
theorem Logged.recordTerminal_accepted
    (logged : Logged env workspace recorder records)
    (offered : nextRecordAt (env.clock workspace.clockReadings) recorder.state
      event = .ok (record, state)) {outcome : SessionOutcome}
    {result : Except AppError Unit}
    (closed : (completeSessionTerminal env session.runId outcome).run
      (workspace.withLine env recorder.path record) = (result, after)) :
    ∃ recorded, (recorder.recordTerminal env event outcome).run workspace =
        (.ok (result.map fun _ => record, recorded), after) ∧
      Logged env after recorded (records ++ [record]) ∧
      ∃ session, recorded.session = some session ∧
        session.terminalAttempted = true := by
  have attempted := logged.withSession
    (some { session with terminalAttempted := true })
  have ran := JsonlEventRecorder.recordEvent_run_ok attempted.healthy offered
  rw [show workspace.tick.modifyFile recorder.path (· ++ lineBytes env record)
    = workspace.withLine env recorder.path record from rfl] at ran
  have extended := attempted.withLine offered
  have closing := sessionOnly_of_passes completeSessionTerminal_sessionOnly
    ((completeSessionTerminal env session.runId outcome).passes_end
      (workspace.withLine env recorder.path record))
  rw [closed] at closing
  have attempt : (completeSessionTerminal env session.runId
      outcome).attempt.run (workspace.withLine env recorder.path record) =
        (.ok result, after) := by
    rw [Program.run_attempt, closed]
  unfold JsonlEventRecorder.recordTerminal
  simp only [attached]
  rw [if_neg (by simp [isOpen]),
    Program.run_bind_ok (by rw [Program.run_attempt, ran])]
  dsimp only
  rw [Program.run_bind_ok attempt]
  cases result with
  | error error =>
      exact ⟨_, rfl, extended.of_sessionOnly closing, _, rfl, rfl⟩
  | ok done =>
      exact ⟨_, rfl, (extended.withSession _).of_sessionOnly closing, _, rfl,
        rfl⟩

end Recorders

theorem beginDefaultJsonlSessionRecorder_session {hydrated : Hydration}
    {sessionId question : String} {runId : RunId} {createSession : Bool}
    {recorder : JsonlEventRecorder}
    (began : (beginDefaultJsonlSessionRecorder env hydrated sessionId runId
      question createSession).run workspace = (.ok recorder, after)) :
    recorder.session = some ⟨runId, createSession, true, false⟩ := by
  obtain ⟨made, opened, created, began⟩ := Program.exists_of_run_bind_ok began
  obtain ⟨result, admitted, entered, began⟩ :=
    Program.exists_of_run_bind_ok began
  cases result with
  | error error =>
      obtain ⟨removed, _, _, thrown⟩ := Program.exists_of_run_bind_ok began
      cases removed <;> cases thrown
  | ok turns =>
      dsimp only at began
      split at began
      · obtain ⟨isRecorder, _⟩ := Prod.mk.inj began
        obtain rfl := Except.ok.inj isRecorder
        rfl
      · obtain ⟨undone, _, _, thrown⟩ := Program.exists_of_run_bind_ok began
        cases undone <;> cases thrown

/-- The records that the parent wrote. -/
def recordedOf (history : List ParentEntry) : List RecordedEvent :=
  history.filterMap fun
    | .recorded record => some record
    | .staged _ => none

/-- The intents that the child staged. -/
def stagedOf (history : List ParentEntry) : List RecordOperation :=
  history.filterMap fun
    | .recorded _ => none
    | .staged operation => some operation

theorem recordedOf_append (history later : List ParentEntry) :
    recordedOf (history ++ later) = recordedOf history ++ recordedOf later :=
  List.filterMap_append

theorem stagedOf_append (history later : List ParentEntry) :
    stagedOf (history ++ later) = stagedOf history ++ stagedOf later :=
  List.filterMap_append

/-- The operation is an intent. -/
def RecordOperation.isIntent : RecordOperation → Bool
  | .event _ => false
  | .finish _ _ | .fail _ _ _ => true

/-- The log holds what was recorded, none of it the end of the run and all of
it before the first intent. -/
structure ParentRunRecorder.Sound (env : LedgerEnv) (session : JsonlSession)
    (before workspace : Workspace) (parent : ParentRunRecorder) : Prop where
  logged : Logged env workspace parent.recorder (recordedOf parent.history)
  attached : parent.recorder.session = some session
  rows : workspace.sessionRuns = before.sessionRuns
  events : ∀ record ∈ recordedOf parent.history,
    record.event.isRunEnd = false
  ordered : parent.history = (recordedOf parent.history).map .recorded ++
    (stagedOf parent.history).map .staged
  terminal : parent.terminal = (stagedOf parent.history).getLast?
  intents : ∀ operation ∈ stagedOf parent.history, operation.isIntent = true

section Parent

variable {session : JsonlSession} {before : Workspace}
variable {parent : ParentRunRecorder}

/-- The intents among the operations. -/
def intentsOf (operations : List RecordOperation) : List RecordOperation :=
  operations.filter RecordOperation.isIntent

/-- The events among the operations. -/
def eventsOf (operations : List RecordOperation) : List HarnessEvent :=
  operations.filterMap fun
    | .event event => some event
    | .finish _ _ | .fail _ _ _ => none

/-- What one operation of the child leaves. -/
structure Applied (env : LedgerEnv) (session : JsonlSession)
    (before : Workspace) (operation : RecordOperation)
    (parent later : ParentRunRecorder)
    (result : Except RunError (Option RecordedEvent)) (after : Workspace) :
    Prop where
  sound : later.Sound env session before after
  single : (stagedOf parent.history).length ≤ 1 → ∀ record,
    result = .ok record → (stagedOf later.history).length ≤ 1
  staged : ∀ record, result = .ok record →
    stagedOf later.history = stagedOf parent.history ++ intentsOf [operation]
  written : ∀ record, result = .ok record →
    (recordedOf later.history).map RecordedEvent.event =
      (recordedOf parent.history).map RecordedEvent.event ++
        eventsOf [operation]
  prefixed : (recordedOf later.history).map RecordedEvent.event <+:
    (recordedOf parent.history).map RecordedEvent.event ++ eventsOf [operation]
  uncanceled : result ≠ .error .runCanceled

theorem ParentRunRecorder.Sound.stage
    (sound : parent.Sound env session before workspace)
    {operation : RecordOperation} (isIntent : operation.isIntent = true) :
    { parent with
      terminal := some operation
      history := parent.history ++ [ParentEntry.staged operation] }.Sound env
        session before workspace := by
  have recorded : recordedOf (parent.history ++ [ParentEntry.staged operation]) =
      recordedOf parent.history := by
    rw [recordedOf_append]
    exact List.append_nil _
  have staged : stagedOf (parent.history ++ [ParentEntry.staged operation]) =
      stagedOf parent.history ++ [operation] := stagedOf_append _ _
  refine ⟨?_, sound.attached, sound.rows, ?_, ?_, ?_, ?_⟩
  · rw [recorded]
    exact sound.logged
  · rw [recorded]
    exact sound.events
  · have ordered := sound.ordered
    rw [recorded, staged, List.map_append, ← List.append_assoc, ← ordered]
    rfl
  · rw [staged, List.getLast?_concat]
  · rw [staged]
    intro other member
    rcases List.mem_append.mp member with earlier | new
    · exact sound.intents other earlier
    · obtain rfl := List.mem_singleton.mp new
      exact isIntent

/-- A record is written while nothing is staged. -/
theorem ParentRunRecorder.Sound.write
    (sound : parent.Sound env session before workspace)
    (unstaged : parent.terminal = none) {record : RecordedEvent}
    {recorder : JsonlEventRecorder}
    (logged : Logged env after recorder
      (recordedOf parent.history ++ [record]))
    (attached : recorder.session = parent.recorder.session)
    (notEnd : record.event.isRunEnd = false)
    (rows : after.sessionRuns = workspace.sessionRuns) :
    { parent with
      recorder := recorder
      history := parent.history ++ [ParentEntry.recorded record] }.Sound env
        session before after := by
  have none : stagedOf parent.history = [] :=
    List.getLast?_eq_none_iff.mp (sound.terminal.symm.trans unstaged)
  have recorded : recordedOf (parent.history ++ [ParentEntry.recorded record]) =
      recordedOf parent.history ++ [record] := recordedOf_append _ _
  have staged : stagedOf (parent.history ++ [ParentEntry.recorded record]) = [] := by
    rw [stagedOf_append, none]
    rfl
  refine ⟨?_, attached.trans sound.attached, rows.trans sound.rows, ?_, ?_, ?_,
    ?_⟩
  · rw [recorded]
    exact logged
  · rw [recorded]
    intro other member
    rcases List.mem_append.mp member with earlier | new
    · exact sound.events other earlier
    · obtain rfl := List.mem_singleton.mp new
      exact notEnd
  · have ordered := sound.ordered
    rw [none, List.map_nil, List.append_nil] at ordered
    rw [recorded, staged, List.map_append, List.map_nil, List.append_nil,
      ← ordered]
    rfl
  · rw [staged, unstaged]
    rfl
  · rw [staged]
    intro other member
    cases member

theorem ParentRunRecorder.Sound.apply
    (sound : parent.Sound env session before workspace)
    (isOpen : session.isOpen = true) (shown : AppError → String)
    (collectorOpen : Bool) (operation : RecordOperation) :
    ∃ result later after,
      (parent.apply env shown collectorOpen operation).run workspace =
        (.ok (result, later), after) ∧
      Applied env session before operation parent later result after := by
  have intent : ∀ operation : RecordOperation, operation.isIntent = true →
      ∃ result later,
        (if parent.terminal.isSome then
          (.error (.supervisedRun
            "run child emitted more than one terminal intent"),
            { parent with
              terminal := some operation
              history := parent.history ++ [.staged operation] })
        else (.ok none, { parent with
          terminal := some operation
          history := parent.history ++ [.staged operation] }) :
            Except RunError (Option RecordedEvent) × ParentRunRecorder) =
          (result, later) ∧
        Applied env session before operation parent later result workspace := by
    intro operation isIntent
    have sound' := sound.stage isIntent
    have staged : stagedOf (parent.history ++
        [ParentEntry.staged operation]) = stagedOf parent.history ++
          intentsOf [operation] := by
      rw [stagedOf_append, intentsOf, List.filter_cons_of_pos isIntent]
      rfl
    have written : (recordedOf (parent.history ++
        [ParentEntry.staged operation])).map RecordedEvent.event =
          (recordedOf parent.history).map RecordedEvent.event ++
            eventsOf [operation] := by
      have noEvents : eventsOf [operation] = [] := by
        cases operation with
        | event event => cases isIntent
        | finish runId finalAnswer => rfl
        | fail runId error canceled => rfl
      rw [recordedOf_append, noEvents, List.append_nil]
      exact congrArg _ (List.append_nil _)
    by_cases isStaged : parent.terminal.isSome = true
    · rw [if_pos isStaged]
      refine ⟨_, _, rfl, sound', ?_, fun _ _ => staged, fun _ _ => written,
        written ▸ List.prefix_rfl, by simp⟩
      rintro _ record isOk
      cases isOk
    · rw [if_neg isStaged]
      refine ⟨_, _, rfl, sound', ?_, fun _ _ => staged, fun _ _ => written,
        written ▸ List.prefix_rfl, by simp⟩
      intro _ record _
      have none : stagedOf parent.history = [] :=
        List.getLast?_eq_none_iff.mp
          (sound.terminal.symm.trans (by simpa using isStaged))
      rw [stagedOf_append, none]
      exact le_rfl
  cases operation with
  | event event =>
      unfold ParentRunRecorder.apply
      dsimp only
      by_cases isStaged : parent.terminal.isSome = true
      · rw [if_pos isStaged]
        exact ⟨_, _, workspace, rfl, sound, fun single _ _ => single, by simp,
          by simp, List.prefix_append _ _, by simp⟩
      have unstaged : parent.terminal = none := by simpa using isStaged
      have recorderOpen : parent.recorder.sessionOpen = true := by
        simp [JsonlEventRecorder.sessionOpen, sound.attached, isOpen]
      rw [if_neg isStaged]
      rcases sound.logged.record_open recorderOpen event with
        ⟨record, recorded, after, ran, isEvent, notEnd, attached, logged,
          rows⟩ | ⟨error, after, ran, logged, rows⟩
      · have written := sound.write unstaged logged attached notEnd rows
        have single : stagedOf (parent.history ++
            [ParentEntry.recorded record]) = stagedOf parent.history := by
          rw [stagedOf_append]
          exact List.append_nil _
        have events : (recordedOf (parent.history ++
            [ParentEntry.recorded record])).map RecordedEvent.event =
              (recordedOf parent.history).map RecordedEvent.event ++
                eventsOf [.event event] := by
          rw [recordedOf_append, List.map_append]
          exact congrArg (fun last => _ ++ [last]) isEvent
        have staged : stagedOf (parent.history ++
            [ParentEntry.recorded record]) = stagedOf parent.history ++
              intentsOf [.event event] := single.trans (List.append_nil _).symm
        rw [Program.run_bind_ok (by rw [Program.run_attempt, ran])]
        dsimp only
        cases collectorOpen with
        | true =>
            refine ⟨_, _, after, rfl, written, ?_, fun _ _ => staged,
              fun _ _ => events, events ▸ List.prefix_rfl, by simp⟩
            intro few _ _
            rw [single]
            exact few
        | false =>
            refine ⟨_, _, after, rfl, written, ?_, fun _ _ => staged,
              fun _ _ => events, events ▸ List.prefix_rfl, by simp⟩
            rintro _ _ isOk
            cases isOk
      · rw [Program.run_bind_ok (by rw [Program.run_attempt, ran])]
        exact ⟨_, _, after, rfl, ⟨logged, sound.attached,
          rows.trans sound.rows, sound.events, sound.ordered,
          sound.terminal, sound.intents⟩, fun single _ _ => single, by simp,
          by simp, List.prefix_append _ _, by simp⟩
  | finish runId finalAnswer =>
      obtain ⟨result, later, isResult, applied⟩ :=
        intent (.finish runId finalAnswer) rfl
      refine ⟨result, later, workspace, ?_, applied⟩
      rw [← isResult]
      unfold ParentRunRecorder.apply
      dsimp only
      split <;> rfl
  | fail runId error canceled =>
      obtain ⟨result, later, isResult, applied⟩ :=
        intent (.fail runId error canceled) rfl
      refine ⟨result, later, workspace, ?_, applied⟩
      rw [← isResult]
      unfold ParentRunRecorder.apply
      dsimp only
      split <;> rfl

end Parent

/-- The operations that a message brings. -/
def ReaderEvent.operations : ReaderEvent → List RecordOperation
  | .message (.record operation) => [operation]
  | _ => []

def SupervisorState.staged (state : SupervisorState) : List RecordOperation :=
  stagedOf state.parent.history

/-- The events that the parent wrote. -/
def SupervisorState.written (state : SupervisorState) : List HarnessEvent :=
  (recordedOf state.parent.history).map RecordedEvent.event

section Passes

variable {session : JsonlSession} {before : Workspace}
variable {pass : SupervisorPass} {state next : SupervisorState}

/-- What one message leaves. -/
structure Handled (env : LedgerEnv) (session : JsonlSession)
    (before : Workspace) (received : ReaderEvent)
    (state next : SupervisorState) (passEnd : PassEnd) (after : Workspace) :
    Prop where
  sound : next.parent.Sound env session before after
  stopCause : next.stopCause = state.stopCause
  prefixed : next.written <+: state.written ++ eventsOf received.operations
  continued : passEnd = .continues →
    next.written = state.written ++ eventsOf received.operations ∧
      next.staged = state.staged ++ intentsOf received.operations ∧
      (state.staged.length ≤ 1 → next.staged.length ≤ 1)
  broke : ∀ result, passEnd = .breaks result →
    received = .message (.result result) ∧ next = state
  uncanceled : passEnd ≠ .fails .runCanceled

theorem ChildError.toRunError_ne_runCanceled (error : ChildError) :
    error.toRunError ≠ .runCanceled := by
  cases error <;> simp [ChildError.toRunError]

theorem SupervisorPass.replied_cases (pass : SupervisorPass)
    (passEnd : PassEnd) :
    pass.replied passEnd = passEnd ∨
      ∃ error : ChildError, pass.replied passEnd = .fails error.toRunError := by
  unfold SupervisorPass.replied
  cases pass.reply with
  | error error => exact .inr ⟨error, rfl⟩
  | ok _ => exact .inl rfl

variable (sound : state.parent.Sound env session before workspace)

include sound

theorem Handled.fails {received : ReaderEvent} {error : RunError}
    (uncanceled : error ≠ .runCanceled) :
    Handled env session before received state state (.fails error)
      workspace :=
  ⟨sound, rfl, List.prefix_append _ _, by simp, by simp,
    by simpa using uncanceled⟩

theorem Handled.continues {received : ReaderEvent} {ready : Bool}
    (quiet : received.operations = []) :
    Handled env session before received state
      { state with ready := ready } .continues workspace := by
  refine ⟨sound, rfl, List.prefix_append _ _, fun _ => ⟨?_, ?_, id⟩, by simp,
    by simp⟩
  · rw [quiet]
    exact (List.append_nil _).symm
  · rw [quiet]
    exact (List.append_nil _).symm

/-- A message without an operation ends with its reply. -/
theorem Handled.replied {received : ReaderEvent} {ready : Bool}
    (quiet : received.operations = []) :
    Handled env session before received state { state with ready := ready }
      (pass.replied .continues) workspace := by
  rcases pass.replied_cases .continues with same | ⟨error, failed⟩
  · rw [same]
    exact .continues sound quiet
  · rw [failed]
    refine ⟨sound, rfl, List.prefix_append _ _, by simp, by simp, ?_⟩
    simpa using error.toRunError_ne_runCanceled

theorem handleMessage_spec (isOpen : session.isOpen = true)
    (shown : AppError → String) (pid : UInt32) (pass : SupervisorPass)
    (message : ChildMessage) :
    ∃ next passEnd after,
      (handleMessage env shown pid pass state message).run workspace =
        (.ok (next, passEnd), after) ∧
      Handled env session before (.message message) state next passEnd
        after := by
  cases message with
  | ready childPid =>
      unfold handleMessage
      dsimp only
      by_cases isWrong : state.ready = true ∨ childPid ≠ pid
      · rw [if_pos isWrong]
        exact ⟨_, _, _, rfl, .fails sound (by simp)⟩
      · rw [if_neg isWrong]
        exact ⟨_, _, _, rfl, .replied sound rfl⟩
  | record operation =>
      obtain ⟨result, later, after, ran, applied⟩ :=
        sound.apply isOpen shown pass.collectorOpen operation
      unfold handleMessage
      dsimp only
      rw [Program.run_bind_ok ran]
      dsimp only
      cases result with
      | error error =>
          refine ⟨_, _, _, rfl, applied.sound, rfl, applied.prefixed, by simp,
            by simp, ?_⟩
          simpa using applied.uncanceled
      | ok record =>
          refine ⟨_, _, _, rfl, applied.sound, rfl, applied.prefixed,
            fun _ => ⟨applied.written record rfl, applied.staged record rfl,
              fun few => applied.single few record rfl⟩, ?_, ?_⟩
          · rcases pass.replied_cases .continues with same | ⟨error, failed⟩
            · simp [same]
            · simp [failed]
          · rcases pass.replied_cases .continues with same | ⟨error, failed⟩
            · simp [same]
            · simpa [failed] using error.toRunError_ne_runCanceled
  | assistantDelta =>
      unfold handleMessage
      dsimp only
      cases pass.collectorOpen with
      | true => exact ⟨_, _, _, rfl, .replied sound rfl⟩
      | false => exact ⟨_, _, _, rfl, .fails sound (by simp)⟩
  | approval =>
      unfold handleMessage
      dsimp only
      cases pass.approval with
      | error error =>
          exact ⟨_, _, _, rfl, .fails sound error.toRunError_ne_runCanceled⟩
      | ok _ => exact ⟨_, _, _, rfl, .replied sound rfl⟩
  | threadSpawn => exact ⟨_, _, _, rfl, .replied sound rfl⟩
  | logicalRead => exact ⟨_, _, _, rfl, .replied sound rfl⟩
  | threadReturn => exact ⟨_, _, _, rfl, .replied sound rfl⟩
  | parentAnswer => exact ⟨_, _, _, rfl, .replied sound rfl⟩
  | result result =>
      refine ⟨_, _, _, rfl, ?_⟩
      rcases pass.replied_cases (.breaks result) with same | ⟨error, failed⟩
      · rw [same]
        exact ⟨sound, rfl, List.prefix_append _ _, by simp,
          fun other isResult => ⟨by cases isResult; rfl, rfl⟩, by simp⟩
      · rw [failed]
        exact .fails sound error.toRunError_ne_runCanceled

theorem handleReceived_spec (isOpen : session.isOpen = true)
    (shown : AppError → String) (pid : UInt32) (pass : SupervisorPass) :
    ∃ next passEnd after,
      (handleReceived env shown pid pass state).run workspace =
        (.ok (next, passEnd), after) ∧
      Handled env session before pass.received state next passEnd after := by
  unfold handleReceived
  cases pass.received with
  | message message => exact handleMessage_spec sound isOpen _ _ _ message
  | invalid error => exact ⟨_, _, _, rfl, .fails sound (by simp)⟩
  | closed => exact ⟨_, _, _, rfl, .fails sound (by simp)⟩
  | timeout => exact ⟨_, _, _, rfl, .continues sound rfl⟩
  | disconnected => exact ⟨_, _, _, rfl, .fails sound (by simp)⟩

omit sound

/-- What one pass leaves. -/
structure Passed (env : LedgerEnv) (session : JsonlSession)
    (before : Workspace) (pass : SupervisorPass)
    (state next : SupervisorState) (passEnd : PassEnd) (after : Workspace) :
    Prop where
  sound : next.parent.Sound env session before after
  prefixed : next.written <+:
    state.written ++ eventsOf pass.received.operations
  continued : passEnd = .continues →
    next.written = state.written ++ eventsOf pass.received.operations ∧
      next.staged = state.staged ++ intentsOf pass.received.operations ∧
      (state.staged.length ≤ 1 → next.staged.length ≤ 1)
  broke : ∀ result, passEnd = .breaks result →
    pass.received = .message (.result result) ∧ next.parent = state.parent
  canceled : passEnd = .fails .runCanceled → next.stopCause = some .canceled
  seen : next.stopCause = some .canceled →
    state.stopCause = some .canceled ∨ pass.cancel = true
  unstopped : next.stopCause = none → state.stopCause = none ∧
    ((∀ error, passEnd ≠ .fails error) → observedStop pass state = none)
  stopped : next.stopCause ≠ state.stopCause →
    next.stopCause = some .canceled ∨ next.stopCause = some .timedOut

theorem handleProcess_spec
    (sound : state.parent.Sound env session before workspace)
    (isOpen : session.isOpen = true) (shown : AppError → String)
    (pid : UInt32) (deadlineMs : UInt64) (pass : SupervisorPass) :
    ∃ next passEnd after,
      (handleProcess env shown pid deadlineMs pass state).run workspace =
        (.ok (next, passEnd), after) ∧
      (Handled env session before pass.received state next passEnd after ∨
        next = state ∧ after = workspace ∧
          state.stopCause = some .canceled ∧ passEnd = .fails .runCanceled) := by
  unfold handleProcess
  cases grace : state.stopCause.filter fun _ => pass.pastGrace with
  | some cause =>
      have isCause : state.stopCause = some cause :=
        (Option.filter_eq_some_iff.mp grace).1
      refine ⟨_, _, _, rfl, ?_⟩
      cases cause with
      | canceled => exact .inr ⟨rfl, rfl, isCause, rfl⟩
      | timedOut => exact .inl (.fails sound (by simp [stopError]))
      | childFailed => exact .inl (.fails sound (by simp [stopError]))
  | none =>
      dsimp only
      cases pass.exit with
      | error error =>
          exact ⟨_, _, _, rfl,
            .inl (.fails sound error.toRunError_ne_runCanceled)⟩
      | ok exit =>
          cases exit with
          | some status =>
              exact ⟨_, _, _, rfl, .inl (.fails sound (by simp))⟩
          | none =>
              obtain ⟨next, passEnd, after, ran, handled⟩ :=
                handleReceived_spec sound isOpen shown pid pass
              exact ⟨next, passEnd, after, ran, .inl handled⟩

theorem observedStop_cases (pass : SupervisorPass) (state : SupervisorState) :
    observedStop pass state = none ∨
      state.stopCause = none ∧
        (observedStop pass state = some .canceled ∧ pass.cancel = true ∨
          observedStop pass state = some .timedOut) := by
  unfold observedStop
  split
  next canceled =>
    exact .inr ⟨Option.isNone_iff_eq_none.mp canceled.1,
      .inl ⟨rfl, canceled.2⟩⟩
  next =>
    split
    next timedOut =>
      exact .inr ⟨Option.isNone_iff_eq_none.mp timedOut.1, .inr rfl⟩
    next => exact .inl rfl

/-- The state with the stop that the pass observes. -/
def SupervisorState.observed (state : SupervisorState)
    (pass : SupervisorPass) : SupervisorState :=
  { state with stopCause := (observedStop pass state).or state.stopCause }

section Observed

variable (state pass)

theorem SupervisorState.observed_seen
    (canceled : (state.observed pass).stopCause = some .canceled) :
    state.stopCause = some .canceled ∨ pass.cancel = true := by
  unfold SupervisorState.observed at canceled
  rcases observedStop_cases pass state with same |
    ⟨_, ⟨_, isCanceled⟩ | isTimedOut⟩
  · rw [same] at canceled
    exact .inl canceled
  · exact .inr isCanceled
  · rw [isTimedOut] at canceled
    cases canceled

theorem SupervisorState.observed_unstopped
    (unstopped : (state.observed pass).stopCause = none) :
    state.stopCause = none ∧ observedStop pass state = none := by
  have both := Option.or_eq_none_iff.mp unstopped
  exact ⟨both.2, both.1⟩

theorem SupervisorState.observed_stopped
    (stopped : (state.observed pass).stopCause ≠ state.stopCause) :
    (state.observed pass).stopCause = some .canceled ∨
      (state.observed pass).stopCause = some .timedOut := by
  unfold SupervisorState.observed at stopped ⊢
  rcases observedStop_cases pass state with same |
    ⟨_, ⟨isCanceled, _⟩ | isTimedOut⟩
  · rw [same] at stopped
    exact absurd rfl stopped
  · rw [isCanceled]
    exact .inl rfl
  · rw [isTimedOut]
    exact .inr rfl

end Observed

theorem Passed.of_stop {passEnd : PassEnd}
    (handled : Handled env session before pass.received (state.observed pass)
      next passEnd after ∨
        next = state.observed pass ∧
          next.parent.Sound env session before after ∧
          (passEnd = .fails .runCanceled →
            next.stopCause = some .canceled) ∧
          ∃ error, passEnd = .fails error) :
    Passed env session before pass state next passEnd after := by
  have stop : next.stopCause = (state.observed pass).stopCause := by
    rcases handled with handled | ⟨rfl, _⟩
    · exact handled.stopCause
    · rfl
  have seen := state.observed_seen pass
  have unstopped := state.observed_unstopped pass
  have stopped := state.observed_stopped pass
  rw [← stop] at seen unstopped stopped
  have quiet : next.stopCause = none → state.stopCause = none ∧
      ((∀ error, passEnd ≠ .fails error) →
        observedStop pass state = none) :=
    fun isNone => ⟨(unstopped isNone).1, fun _ => (unstopped isNone).2⟩
  rcases handled with handled | ⟨rfl, sound, canceled, error, rfl⟩
  · have parent : ∀ result, passEnd = .breaks result →
        next.parent = (state.observed pass).parent := fun result isResult =>
      congrArg SupervisorState.parent (handled.broke result isResult).2
    exact ⟨handled.sound, handled.prefixed, handled.continued,
      fun result isResult => ⟨(handled.broke result isResult).1,
        parent result isResult⟩,
      fun isCanceled => absurd isCanceled handled.uncanceled, seen, quiet,
      stopped⟩
  · exact ⟨sound, List.prefix_append _ _, by simp, by simp, canceled, seen,
      quiet, stopped⟩

theorem superviseOnce_spec
    (sound : state.parent.Sound env session before workspace)
    (isOpen : session.isOpen = true) (shown : AppError → String)
    (pid : UInt32) (deadlineMs : UInt64) (pass : SupervisorPass) :
    ∃ next passEnd after,
      (superviseOnce env shown pid deadlineMs pass state).run workspace =
        (.ok (next, passEnd), after) ∧
      Passed env session before pass state next passEnd after := by
  have process : ∃ next passEnd after,
      (handleProcess env shown pid deadlineMs pass
        (state.observed pass)).run workspace =
          (.ok (next, passEnd), after) ∧
      Passed env session before pass state next passEnd after := by
    have observed : (state.observed pass).parent.Sound env session before
      workspace := sound
    obtain ⟨next, passEnd, after, ran, handled⟩ :=
      handleProcess_spec observed isOpen shown pid deadlineMs pass
    refine ⟨next, passEnd, after, ran, .of_stop ?_⟩
    rcases handled with handled | ⟨rfl, rfl, isCanceled, rfl⟩
    · exact .inl handled
    · exact .inr ⟨rfl, observed, fun _ => isCanceled, _, rfl⟩
  unfold superviseOnce
  cases pass.descendants with
  | error error =>
      refine ⟨_, _, _, rfl, sound, List.prefix_append _ _, by simp, by simp,
        ?_, fun isCanceled => .inl isCanceled, ?_, ?_⟩
      · exact fun isCanceled => absurd (PassEnd.fails.inj isCanceled)
          error.toRunError_ne_runCanceled
      · exact fun isNone => ⟨isNone, fun alive => absurd rfl (alive _)⟩
      · exact fun changed => absurd rfl changed
  | ok _ =>
      dsimp only
      cases observes : observedStop pass state with
      | none =>
          have same : state.observed pass = state := by
            unfold SupervisorState.observed
            rw [observes]
            rfl
          rw [same] at process
          exact process
      | some cause =>
          have stopped : state.observed pass =
              { state with stopCause := some cause } := by
            unfold SupervisorState.observed
            rw [observes]
            rfl
          dsimp only
          rw [← stopped]
          cases pass.cancelWrite with
          | error error =>
              refine ⟨_, _, _, rfl, .of_stop (.inr ⟨rfl, sound, ?_, _, rfl⟩)⟩
              exact fun isCanceled => absurd (PassEnd.fails.inj isCanceled)
                error.toRunError_ne_runCanceled
          | ok _ => exact process

theorem not_cancel_of_observedStop (unstopped : state.stopCause = none)
    (observes : observedStop pass state = none) : pass.cancel = false := by
  unfold observedStop at observes
  split at observes
  next => cases observes
  next quiet => simpa [unstopped] using quiet

/-- The operations that the child sent over the passes. -/
def sentOperations (passes : List SupervisorPass) : List RecordOperation :=
  passes.flatMap fun pass => pass.received.operations

theorem sentOperations_cons (pass : SupervisorPass)
    (rest : List SupervisorPass) :
    sentOperations (pass :: rest) =
      pass.received.operations ++ sentOperations rest :=
  List.flatMap_cons

theorem eventsOf_append (operations later : List RecordOperation) :
    eventsOf (operations ++ later) = eventsOf operations ++ eventsOf later :=
  List.filterMap_append

theorem intentsOf_append (operations later : List RecordOperation) :
    intentsOf (operations ++ later) =
      intentsOf operations ++ intentsOf later :=
  List.filter_append _ _

/-- What the passes up to a result leave. -/
structure Resulted (passes : List SupervisorPass)
    (state next : SupervisorState) (result : ChildRunResult)
    (consumed rest : List SupervisorPass) (last : SupervisorPass) :
    Prop where
  passes : passes = consumed ++ last :: rest
  received : last.received = .message (.result result)
  written : next.written =
    state.written ++ eventsOf (sentOperations consumed)
  staged : next.staged = state.staged ++ intentsOf (sentOperations consumed)
  single : state.staged.length ≤ 1 → next.staged.length ≤ 1
  uncanceled : next.stopCause = none →
    ∀ pass ∈ consumed ++ [last], pass.cancel = false

/-- What the loop leaves. -/
structure Looped (env : LedgerEnv) (session : JsonlSession)
    (before : Workspace) (passes : List SupervisorPass)
    (state next : SupervisorState)
    (ended : Option (Except RunError ChildRunResult)) (after : Workspace) :
    Prop where
  sound : next.parent.Sound env session before after
  prefixed : next.written <+:
    state.written ++ eventsOf (sentOperations passes)
  canceled : ended = some (.error .runCanceled) →
    next.stopCause = some .canceled
  seen : next.stopCause = some .canceled →
    state.stopCause = some .canceled ∨ ∃ pass ∈ passes, pass.cancel = true
  stopped : next.stopCause ≠ state.stopCause →
    next.stopCause = some .canceled ∨ next.stopCause = some .timedOut
  unstopped : next.stopCause = none → state.stopCause = none
  resulted : ∀ result, ended = some (.ok result) → ∃ consumed rest last,
    Resulted passes state next result consumed rest last

/-- A pass that ends the loop. -/
theorem Looped.of_last {passEnd : PassEnd}
    {ended : Except RunError ChildRunResult} (rest : List SupervisorPass)
    (passed : Passed env session before pass state next passEnd after)
    (isEnd : (∃ result, passEnd = .breaks result ∧ ended = .ok result) ∨
      ∃ error, passEnd = .fails error ∧ ended = .error error) :
    Looped env session before (pass :: rest) state next (some ended)
      after := by
  refine ⟨passed.sound, ?_, ?_, ?_, passed.stopped,
    fun isNone => (passed.unstopped isNone).1, ?_⟩
  · rw [sentOperations_cons, eventsOf_append, ← List.append_assoc]
    exact passed.prefixed.trans (List.prefix_append _ _)
  · rintro ⟨⟩
    rcases isEnd with ⟨_, _, isOk⟩ | ⟨error, isFail, isError⟩
    · cases isOk
    · cases isError
      exact passed.canceled isFail
  · intro isCanceled
    rcases passed.seen isCanceled with earlier | now
    · exact .inl earlier
    · exact .inr ⟨pass, List.mem_cons_self, now⟩
  · rintro other ⟨⟩
    rcases isEnd with ⟨_, isBreak, isOk⟩ | ⟨error, _, isError⟩
    · cases isOk
      obtain ⟨received, parent⟩ := passed.broke _ isBreak
      refine ⟨[], rest, pass, rfl, received, ?_, ?_, ?_, ?_⟩
      · unfold SupervisorState.written
        rw [parent]
        exact (List.append_nil _).symm
      · unfold SupervisorState.staged
        rw [parent]
        exact (List.append_nil _).symm
      · unfold SupervisorState.staged
        rw [parent]
        exact id
      · intro isNone other member
        obtain rfl := List.mem_singleton.mp member
        obtain ⟨unstopped, observes⟩ := passed.unstopped isNone
        refine not_cancel_of_observedStop unstopped (observes ?_)
        simp [isBreak]
    · cases isError

/-- A pass before the rest of the loop. -/
theorem Looped.cons {middle : SupervisorState} {during : Workspace}
    {rest : List SupervisorPass}
    {ended : Option (Except RunError ChildRunResult)}
    (passed : Passed env session before pass state middle .continues during)
    (looped : Looped env session before rest middle next ended after) :
    Looped env session before (pass :: rest) state next ended after := by
  obtain ⟨written, staged, single⟩ := passed.continued rfl
  refine ⟨looped.sound, ?_, looped.canceled, ?_, ?_, ?_, ?_⟩
  · have prefixed := looped.prefixed
    rw [written] at prefixed
    rw [sentOperations_cons, eventsOf_append, ← List.append_assoc]
    exact prefixed
  · intro isCanceled
    rcases looped.seen isCanceled with earlier | ⟨other, member, later⟩
    · rcases passed.seen earlier with earlier | now
      · exact .inl earlier
      · exact .inr ⟨pass, List.mem_cons_self, now⟩
    · exact .inr ⟨other, List.mem_cons_of_mem _ member, later⟩
  · intro changed
    by_cases same : next.stopCause = middle.stopCause
    · rw [same] at changed ⊢
      exact passed.stopped changed
    · exact looped.stopped same
  · intro isNone
    exact (passed.unstopped (looped.unstopped isNone)).1
  · intro result isOk
    obtain ⟨consumed, later, last, resulted⟩ := looped.resulted result isOk
    refine ⟨pass :: consumed, later, last, ?_, resulted.received, ?_, ?_,
      fun few => resulted.single (single few), ?_⟩
    · rw [resulted.passes]
      rfl
    · rw [resulted.written, written, sentOperations_cons, eventsOf_append,
        List.append_assoc]
    · rw [resulted.staged, staged, sentOperations_cons, intentsOf_append,
        List.append_assoc]
    · intro isNone other member
      rcases List.mem_cons.mp member with rfl | member
      · obtain ⟨unstopped, observes⟩ :=
          passed.unstopped (looped.unstopped isNone)
        exact not_cancel_of_observedStop unstopped (observes (by simp))
      · exact resulted.uncanceled isNone other member

theorem superviseLoop_spec (isOpen : session.isOpen = true)
    (shown : AppError → String) (pid : UInt32) (deadlineMs : UInt64)
    (passes : List SupervisorPass) :
    ∀ {state : SupervisorState} {workspace : Workspace},
      state.parent.Sound env session before workspace →
      ∃ next ended after,
        (superviseLoop env shown pid deadlineMs state passes).run workspace =
          (.ok (next, ended), after) ∧
        Looped env session before passes state next ended after := by
  induction passes with
  | nil =>
      intro state workspace sound
      exact ⟨_, _, _, rfl, sound, List.prefix_append _ _, by simp,
        fun isCanceled => .inl isCanceled,
        fun changed => absurd rfl changed, id, by simp⟩
  | cons pass rest ih =>
      intro state workspace sound
      obtain ⟨middle, passEnd, during, ran, passed⟩ :=
        superviseOnce_spec sound isOpen shown pid deadlineMs pass
      unfold superviseLoop
      rw [Program.run_bind_ok ran]
      dsimp only
      cases passEnd with
      | continues =>
          obtain ⟨next, ended, after, looped, spec⟩ := ih passed.sound
          exact ⟨next, ended, after, looped, .cons passed spec⟩
      | breaks result =>
          exact ⟨_, _, _, rfl,
            .of_last rest passed (.inl ⟨result, rfl, rfl⟩)⟩
      | fails error =>
          exact ⟨_, _, _, rfl,
            .of_last rest passed (.inr ⟨error, rfl, rfl⟩)⟩

/-- The child sent all that it sends. -/
def ReaderEvent.isLast : ReaderEvent → Bool
  | .message (.result _) | .invalid _ | .closed | .disconnected => true
  | .message _ | .timeout => false

/-- Whatever came before, a pass that observes this is the last. -/
def SupervisorPass.isLast (pass : SupervisorPass) : Bool :=
  !pass.descendants.isOk || pass.received.isLast ||
    match pass.exit with
    | .ok none => false
    | _ => true

theorem isLast_of_handleProcess {shown : AppError → String} {pid : UInt32}
    {deadlineMs : UInt64} {state next : SupervisorState} {pass : SupervisorPass}
    {workspace after : Workspace} (running : pass.descendants.isOk = true)
    (ran : (handleProcess env shown pid deadlineMs pass state).run workspace =
      (.ok (next, .continues), after)) : pass.isLast = false := by
  unfold handleProcess at ran
  split at ran
  · cases ran
  · split at ran
    · cases ran
    · cases ran
    next exit =>
      have received : pass.received.isLast = false := by
        unfold handleReceived at ran
        cases isReceived : pass.received with
        | message message =>
            cases message with
            | result result =>
                rw [isReceived] at ran
                have replied := congrArg (fun outcome => outcome.1) ran
                simp only [handleMessage] at replied
                unfold SupervisorPass.replied at replied
                split at replied <;> cases replied
            | _ => rfl
        | timeout => rfl
        | _ =>
            rw [isReceived] at ran
            cases ran
      rw [SupervisorPass.isLast, running, received, exit]
      rfl

theorem isLast_of_superviseOnce {shown : AppError → String} {pid : UInt32}
    {deadlineMs : UInt64} {state next : SupervisorState} {pass : SupervisorPass}
    {workspace after : Workspace}
    (ran : (superviseOnce env shown pid deadlineMs pass state).run workspace =
      (.ok (next, .continues), after)) : pass.isLast = false := by
  unfold superviseOnce at ran
  split at ran
  · cases ran
  next running =>
    have isOk : pass.descendants.isOk = true := by
      rw [running]
      rfl
    split at ran
    · exact isLast_of_handleProcess isOk ran
    · dsimp only at ran
      split at ran
      · cases ran
      · exact isLast_of_handleProcess isOk ran

/-- The supervision goes on only while no pass is the last. -/
theorem isLast_of_superviseLoop {shown : AppError → String} {pid : UInt32}
    {deadlineMs : UInt64} {passes : List SupervisorPass} :
    ∀ {state next : SupervisorState} {workspace after : Workspace},
      (superviseLoop env shown pid deadlineMs state passes).run workspace =
        (.ok (next, none), after) →
      ∀ pass ∈ passes, pass.isLast = false := by
  induction passes with
  | nil => simp
  | cons pass rest ih =>
      intro state next workspace after ran
      unfold superviseLoop at ran
      obtain ⟨⟨middle, passEnd⟩, during, once, later⟩ :=
        Program.exists_of_run_bind_ok ran
      cases passEnd with
      | continues =>
          exact List.forall_mem_cons.mpr ⟨isLast_of_superviseOnce once, ih later⟩
      | breaks => cases later
      | fails => cases later

end Passes

/-- The end of the run that an intent asks for. -/
def RecordOperation.endEvent : RecordOperation → HarnessEvent
  | .event recorded => recorded
  | .finish runId _ => .runFinished runId
  | .fail runId error _ => .runFailed runId error

def RecordOperation.outcome : RecordOperation → SessionOutcome
  | .event _ => failedOutcome "" false
  | .finish _ finalAnswer => finishedOutcome finalAnswer
  | .fail _ error canceled => failedOutcome error canceled

section Publication

variable {completion : SupervisedRunCompletion}

theorem SupervisedRunCompletion.publish_eq (env : LedgerEnv)
    (isIntent : completion.operation.isIntent = true) :
    completion.publish env = completion.recorder.recordTerminal env
      completion.operation.endEvent completion.operation.outcome := by
  unfold SupervisedRunCompletion.publish
  cases operation : completion.operation with
  | event event =>
      rw [operation] at isIntent
      cases isIntent
  | finish runId finalAnswer =>
      unfold JsonlEventRecorder.finishRun
      rfl
  | fail runId error canceled =>
      unfold JsonlEventRecorder.failRun
      rfl

theorem JsonlEventRecorder.drop_of_attempted {recorder : JsonlEventRecorder}
    {session : JsonlSession} (attached : recorder.session = some session)
    (attempted : session.terminalAttempted = true) :
    (recorder.drop env).run workspace = (.ok (), workspace) := by
  unfold JsonlEventRecorder.drop
  simp only [attached]
  rw [if_neg (by simp [attempted])]
  rfl

end Publication

/-- The child ended the run with the result: one intent before it, and no stop
was observed. -/
structure EndedByChild (passes : List SupervisorPass)
    (stopCause : Option StopCause) (intent : RecordOperation)
    (result : ChildRunResult) : Prop where
  unstopped : stopCause = none
  received : ∃ consumed rest last,
    passes = consumed ++ last :: rest ∧
    last.received = .message (.result result) ∧
    intentsOf (sentOperations consumed) = [intent] ∧
    ∀ pass ∈ consumed ++ [last], pass.cancel = false

theorem intentMatches_finish {runId terminalRunId : RunId} {answer : String}
    {outcome : Except RunError RunOutcome}
    (agrees : intentMatches runId (.finish terminalRunId answer) outcome =
      true) :
    terminalRunId = runId ∧ outcome = .ok ⟨runId, answer⟩ := by
  cases outcome with
  | error error => cases agrees
  | ok outcome =>
      simp only [intentMatches, Bool.and_eq_true, beq_iff_eq] at agrees
      obtain ⟨⟨rfl, isRun⟩, rfl⟩ := agrees
      exact ⟨rfl, by rw [← isRun]⟩

theorem intentMatches_canceled {runId terminalRunId : RunId} {error : String}
    {outcome : Except RunError RunOutcome}
    (agrees : intentMatches runId (.fail terminalRunId error true) outcome =
      true) :
    terminalRunId = runId ∧ error = runCanceledReason ∧
      outcome = .error .runCanceled := by
  cases outcome with
  | ok outcome => cases agrees
  | error found =>
      cases found with
      | runCanceled =>
          simp only [intentMatches, Bool.and_eq_true, beq_iff_eq] at agrees
          exact ⟨agrees.1, agrees.2, rfl⟩
      | runFailed reason => cases agrees
      | supervisedRun reason => cases agrees
      | runChildTimedOut deadlineMs => cases agrees
      | other text => cases agrees

theorem terminalForOutcome_isIntent (runId : RunId)
    (outcome : Except RunError RunOutcome) :
    (terminalForOutcome runId outcome).isIntent = true := by
  unfold terminalForOutcome
  split <;> rfl

theorem terminalForOutcome_finish {runId terminalRunId : RunId}
    {answer : String} {outcome : Except RunError RunOutcome}
    (isFinish : terminalForOutcome runId outcome =
      .finish terminalRunId answer) :
    ∃ finished, outcome = .ok finished := by
  cases outcome with
  | ok finished => exact ⟨finished, rfl⟩
  | error error => cases error <;> cases isFinish

theorem terminalForOutcome_canceled {runId terminalRunId : RunId}
    {reason : String} {outcome : Except RunError RunOutcome}
    (isFail : terminalForOutcome runId outcome =
      .fail terminalRunId reason true) :
    outcome = .error .runCanceled := by
  cases outcome with
  | ok finished => cases isFail
  | error error =>
      cases error with
      | runCanceled => rfl
      | runFailed reason => cases isFail
      | supervisedRun reason => cases isFail
      | runChildTimedOut deadlineMs => cases isFail
      | other text => cases isFail

namespace ParentRunRecorder

variable {parent : ParentRunRecorder} {runId : RunId}
variable {outcome : Except RunError RunOutcome} {preserve : Bool}

theorem complete_recorder :
    (parent.complete runId outcome preserve).recorder = parent.recorder := by
  unfold complete
  split
  · split <;> rfl
  · rfl

/-- The intent that is published was staged or follows from the outcome. -/
theorem complete_cases :
    (preserve = true ∧ ∃ terminal, parent.terminal = some terminal ∧
      intentMatches runId terminal outcome = true ∧
      (parent.complete runId outcome preserve).operation = terminal) ∨
    (∃ reason, (parent.complete runId outcome preserve).operation =
      .fail runId reason false) ∨
    preserve = false ∧ (parent.complete runId outcome preserve).operation =
      terminalForOutcome runId outcome := by
  unfold complete
  cases preserve with
  | false => exact .inr (.inr ⟨rfl, rfl⟩)
  | true =>
      rw [if_pos rfl]
      unfold validateTerminalIntent
      cases parent.terminal with
      | none => exact .inr (.inl ⟨_, rfl⟩)
      | some terminal =>
          dsimp only
          by_cases agrees : intentMatches runId terminal outcome = true
          · rw [if_pos agrees]
            exact .inl ⟨rfl, terminal, rfl, agrees, rfl⟩
          · rw [if_neg agrees]
            exact .inr (.inl ⟨_, rfl⟩)

theorem complete_isIntent
    (staged : ∀ terminal, parent.terminal = some terminal →
      terminal.isIntent = true) :
    (parent.complete runId outcome preserve).operation.isIntent = true := by
  rcases parent.complete_cases with
    ⟨_, terminal, isTerminal, _, isOperation⟩ | ⟨reason, isFail⟩ |
      ⟨_, isOperation⟩
  · rw [isOperation]
    exact staged terminal isTerminal
  · rw [isFail]
    rfl
  · rw [isOperation]
    exact terminalForOutcome_isIntent runId outcome

theorem complete_finish {terminalRunId : RunId} {answer : String}
    (isFinish : (parent.complete runId outcome preserve).operation =
      .finish terminalRunId answer) :
    (preserve = true ∧ terminalRunId = runId ∧
      parent.terminal = some (.finish runId answer) ∧
      outcome = .ok ⟨runId, answer⟩) ∨
    preserve = false ∧ ∃ finished, outcome = .ok finished := by
  rcases parent.complete_cases with
    ⟨preserved, terminal, isTerminal, agrees, isOperation⟩ |
      ⟨reason, isFail⟩ | ⟨unpreserved, isOperation⟩
  · rw [isOperation] at isFinish
    rw [isFinish] at isTerminal agrees
    obtain ⟨rfl, isOutcome⟩ := intentMatches_finish agrees
    exact .inl ⟨preserved, rfl, isTerminal, isOutcome⟩
  · cases isFail.symm.trans isFinish
  · exact .inr ⟨unpreserved,
      terminalForOutcome_finish (isOperation.symm.trans isFinish)⟩

theorem complete_canceled {terminalRunId : RunId} {reason : String}
    (isFail : (parent.complete runId outcome preserve).operation =
      .fail terminalRunId reason true) :
    outcome = .error .runCanceled ∧ (preserve = true →
      parent.terminal = some (.fail runId runCanceledReason true)) := by
  rcases parent.complete_cases with
    ⟨_, terminal, isTerminal, agrees, isOperation⟩ |
      ⟨_, isFailed⟩ | ⟨unpreserved, isOperation⟩
  · rw [isOperation] at isFail
    rw [isFail] at isTerminal agrees
    obtain ⟨rfl, rfl, isOutcome⟩ := intentMatches_canceled agrees
    exact ⟨isOutcome, fun _ => isTerminal⟩
  · cases isFailed.symm.trans isFail
  · refine ⟨terminalForOutcome_canceled (isOperation.symm.trans isFail), ?_⟩
    intro preserved
    cases unpreserved.symm.trans preserved

end ParentRunRecorder

theorem outcomeOfResult_ok {deadlineMs : UInt64}
    {stopCause : Option StopCause} {result : ChildRunResult}
    {outcome : RunOutcome}
    (isOk : outcomeOfResult deadlineMs stopCause result = .ok outcome) :
    stopCause = none ∧ result = .finished outcome := by
  unfold outcomeOfResult at isOk
  cases stopCause with
  | none =>
      cases result with
      | finished found =>
          cases isOk
          exact ⟨rfl, rfl⟩
      | canceled => cases isOk
      | failed error => cases isOk
  | some cause => cases cause <;> cases isOk

theorem outcomeOfResult_canceled {deadlineMs : UInt64}
    {stopCause : Option StopCause} {result : ChildRunResult}
    (isCanceled : outcomeOfResult deadlineMs stopCause result =
      .error .runCanceled) :
    stopCause = some .canceled ∨ stopCause = none ∧ result = .canceled := by
  unfold outcomeOfResult at isCanceled
  cases stopCause with
  | none =>
      cases result with
      | finished found => cases isCanceled
      | canceled => exact .inr ⟨rfl, rfl⟩
      | failed error => cases isCanceled
  | some cause =>
      cases cause with
      | canceled => exact .inl rfl
      | timedOut => cases isCanceled
      | childFailed => cases isCanceled

theorem cleanupFailure_canceled {errors : List String} {primary : RunError}
    (isCanceled : cleanupFailure errors primary = .runCanceled) :
    primary = .runCanceled := by
  unfold cleanupFailure at isCanceled
  split at isCanceled
  · exact isCanceled
  · cases isCanceled

section Ends

variable {session : JsonlSession} {before : Workspace}
variable {passes : List SupervisorPass} {start next : SupervisorState}
variable {runId terminalRunId : RunId} {script : SupervisorScript}
variable {pid : UInt32} {deadlineMs : UInt64}

theorem Looped.endedByChild {result : ChildRunResult}
    {intent : RecordOperation} (unstaged : start.staged = [])
    (looped : Looped env session before passes start next
      (some (.ok result)) after)
    (terminal : next.parent.terminal = some intent)
    (unstopped : next.stopCause = none) :
    EndedByChild passes next.stopCause intent result := by
  obtain ⟨consumed, rest, last, resulted⟩ := looped.resulted result rfl
  have single : next.staged.length ≤ 1 :=
    resulted.single (by simp [unstaged])
  have isLast : next.staged.getLast? = some intent :=
    looped.sound.terminal.symm.trans terminal
  have staged : next.staged = [intent] := by
    obtain ⟨front, isFront⟩ := List.getLast?_eq_some_iff.mp isLast
    rw [isFront, List.length_append] at single
    have empty : front = [] := List.length_eq_zero_iff.mp (by simpa using single)
    rw [isFront, empty]
    rfl
  refine ⟨unstopped, consumed, rest, last, resulted.passes,
    resulted.received, ?_, resulted.uncanceled unstopped⟩
  have sent := resulted.staged
  rw [staged, unstaged, List.nil_append] at sent
  exact sent.symm

/-- A run is finished only by a child that committed to it. -/
theorem superviseEnd_finish {answer : String}
    {ended : Except RunError ChildRunResult} (unstaged : start.staged = [])
    (looped : Looped env session before passes start next (some ended) after)
    (isFinish : (superviseEnd pid deadlineMs runId script next
      ended).completion.operation = .finish terminalRunId answer) :
    terminalRunId = runId ∧
      EndedByChild passes next.stopCause (.finish runId answer)
        (.finished ⟨runId, answer⟩) ∧
      ∃ status, script.finalize = .ok status ∧ status.success = true := by
  have failure : ∀ error : RunError, (next.parent.complete runId (.error error)
      false).operation ≠ .finish terminalRunId answer := by
    intro error isFinish
    rcases ParentRunRecorder.complete_finish isFinish with
      ⟨_, _, _, isOk⟩ | ⟨_, _, isOk⟩ <;> cases isOk
  unfold superviseEnd at isFinish
  cases ended with
  | error error => exact absurd isFinish (failure _)
  | ok result =>
      cases finalized : script.finalize with
      | error reason =>
          rw [finalized] at isFinish
          exact absurd isFinish (failure _)
      | ok status =>
          rw [finalized] at isFinish
          dsimp only at isFinish
          rcases ParentRunRecorder.complete_finish isFinish with
            ⟨preserved, rfl, isTerminal, isOutcome⟩ |
              ⟨unpreserved, finished, isOutcome⟩
          · obtain ⟨success, unstopped⟩ := Bool.and_eq_true_iff.mp preserved
            rw [if_pos success] at isOutcome
            obtain ⟨_, rfl⟩ := outcomeOfResult_ok isOutcome
            exact ⟨rfl, looped.endedByChild unstaged isTerminal
              (Option.isNone_iff_eq_none.mp unstopped), status, rfl, success⟩
          · by_cases success : status.success = true
            · rw [if_pos success] at isOutcome
              obtain ⟨unstopped, _⟩ := outcomeOfResult_ok isOutcome
              rw [success, unstopped] at unpreserved
              cases unpreserved
            · rw [if_neg success] at isOutcome
              cases isOutcome

/-- A run is canceled by a stop that was observed or by its child. -/
theorem superviseEnd_canceled {reason : String}
    {ended : Except RunError ChildRunResult} (unstaged : start.staged = [])
    (looped : Looped env session before passes start next (some ended) after)
    (isFail : (superviseEnd pid deadlineMs runId script next
      ended).completion.operation = .fail terminalRunId reason true) :
    next.stopCause = some .canceled ∨
      EndedByChild passes next.stopCause
        (.fail runId runCanceledReason true) .canceled := by
  unfold superviseEnd at isFail
  cases ended with
  | error error =>
      obtain ⟨isCanceled, _⟩ := ParentRunRecorder.complete_canceled isFail
      have primary : error = .runCanceled :=
        cleanupFailure_canceled (Except.error.inj isCanceled)
      exact .inl (looped.canceled (by rw [primary]))
  | ok result =>
      cases finalized : script.finalize with
      | error cause =>
          rw [finalized] at isFail
          obtain ⟨isCanceled, _⟩ := ParentRunRecorder.complete_canceled isFail
          cases isCanceled
      | ok status =>
          rw [finalized] at isFail
          dsimp only at isFail
          obtain ⟨isCanceled, staged⟩ :=
            ParentRunRecorder.complete_canceled isFail
          by_cases success : status.success = true
          · rw [if_pos success] at isCanceled
            rcases outcomeOfResult_canceled isCanceled with stopped |
              ⟨unstopped, rfl⟩
            · exact .inl stopped
            · exact .inr (looped.endedByChild unstaged
                (staged (by simp [success, unstopped])) unstopped)
          · rw [if_neg success] at isCanceled
            cases isCanceled

end Ends

/-- What a supervised child leaves, whatever it sent. -/
structure Completed (env : LedgerEnv) (session : JsonlSession)
    (before : Workspace) (runId : RunId) (script : SupervisorScript)
    (supervised : Supervised) (after : Workspace) : Prop where
  sound : supervised.parent.Sound env session before after
  completion : ∃ outcome preserve, supervised.completion =
    supervised.parent.complete runId outcome preserve
  isIntent : supervised.completion.operation.isIntent = true
  events : (recordedOf supervised.parent.history).map RecordedEvent.event <+:
    eventsOf (sentOperations script.passes)
  finished : ∀ terminalRunId answer,
    supervised.completion.operation = .finish terminalRunId answer →
      terminalRunId = runId ∧
      EndedByChild script.passes supervised.stopCause (.finish runId answer)
        (.finished ⟨runId, answer⟩) ∧
      ∃ status, script.finalize = .ok status ∧ status.success = true
  canceled : ∀ terminalRunId reason,
    supervised.completion.operation = .fail terminalRunId reason true →
      (supervised.stopCause = some .canceled ∧
        ∃ pass ∈ script.passes, pass.cancel = true) ∨
      EndedByChild script.passes supervised.stopCause
        (.fail runId runCanceledReason true) .canceled

theorem Completed.recorder {session : JsonlSession} {before : Workspace}
    {runId : RunId} {script : SupervisorScript} {supervised : Supervised}
    (completed : Completed env session before runId script supervised
      after) :
    supervised.completion.recorder = supervised.parent.recorder := by
  obtain ⟨outcome, preserve, isCompletion⟩ := completed.completion
  rw [isCompletion]
  exact ParentRunRecorder.complete_recorder

section Run

variable {session : JsonlSession} {before : Workspace}
variable {runId : RunId} {script : SupervisorScript}

theorem ParentRunRecorder.Sound.terminal_isIntent
    {parent : ParentRunRecorder}
    (sound : parent.Sound env session before workspace)
    {terminal : RecordOperation} (isTerminal : parent.terminal = some terminal) :
    terminal.isIntent = true :=
  sound.intents terminal
    (List.mem_of_getLast? (sound.terminal.symm.trans isTerminal))

theorem superviseEnd_parent (pid : UInt32) (deadlineMs : UInt64) (runId : RunId)
    (script : SupervisorScript) (state : SupervisorState)
    (ended : Except RunError ChildRunResult) :
    (superviseEnd pid deadlineMs runId script state ended).parent =
      state.parent := by
  unfold superviseEnd
  cases ended with
  | error error => rfl
  | ok result => cases script.finalize <;> rfl

theorem Completed.of_looped {start next : SupervisorState}
    {ended : Except RunError ChildRunResult} (pid : UInt32)
    (deadlineMs : UInt64) (unwritten : start.parent.history = [])
    (unstopped : start.stopCause = none)
    (looped : Looped env session before script.passes start next
      (some ended) after) :
    Completed env session before runId script
      (superviseEnd pid deadlineMs runId script next ended) after := by
  have unstaged : start.staged = [] := by
    unfold SupervisorState.staged
    rw [unwritten]
    rfl
  have events := looped.prefixed
  rw [show start.written = [] by
    unfold SupervisorState.written
    rw [unwritten]
    rfl, List.nil_append] at events
  have finishes := @superviseEnd_finish env after session before
    script.passes start next runId
  have cancels := @superviseEnd_canceled env after session before
    script.passes start next runId
  have shape : (superviseEnd pid deadlineMs runId script next ended).parent =
      next.parent ∧
      (superviseEnd pid deadlineMs runId script next ended).stopCause =
        next.stopCause ∧
      ∃ outcome preserve,
        (superviseEnd pid deadlineMs runId script next ended).completion =
          next.parent.complete runId outcome preserve := by
    unfold superviseEnd
    cases ended with
    | error error =>
        exact ⟨rfl, rfl, .error (cleanupFailure script.cleanupErrors error),
          false, rfl⟩
    | ok result =>
        cases script.finalize with
        | error reason =>
            exact ⟨rfl, rfl, .error (.supervisedRun reason), false, rfl⟩
        | ok status => exact ⟨rfl, rfl, _, _, rfl⟩
  obtain ⟨parent, stopCause, outcome, preserve, completion⟩ := shape
  refine ⟨?_, ?_, ?_, ?_, ?_, ?_⟩
  · rw [parent]
    exact looped.sound
  · rw [parent]
    exact ⟨outcome, preserve, completion⟩
  · rw [completion]
    exact ParentRunRecorder.complete_isIntent fun terminal isTerminal =>
      looped.sound.terminal_isIntent isTerminal
  · rw [parent]
    exact events
  · intro terminalRunId answer isFinish
    rw [stopCause]
    exact finishes unstaged looped isFinish
  · intro terminalRunId reason isFail
    rw [stopCause]
    rcases cancels unstaged looped isFail with stopped | byChild
    · refine .inl ⟨stopped, ?_⟩
      rcases looped.seen stopped with earlier | now
      · cases unstopped.symm.trans earlier
      · exact now
    · exact .inr byChild

theorem runSupervised_spec {recorder : JsonlEventRecorder}
    (admitted : Logged env workspace recorder [])
    (attached : recorder.session = some session)
    (isOpen : session.isOpen = true) (shown : AppError → String)
    (pid : UInt32) (deadlineMs : UInt64) (runId : RunId)
    (script : SupervisorScript) :
    ∃ ended after parent,
      (runSupervised env shown pid deadlineMs runId recorder script).run
        workspace = (.ok ended, after) ∧
      parent.Sound env session workspace after ∧
      (recordedOf parent.history).map RecordedEvent.event <+:
        eventsOf (sentOperations script.passes) ∧
      (ended = none → script.spawn = .ok () ∧ script.connect = .ok () ∧
        ∀ pass ∈ script.passes, pass.isLast = false) ∧
      ∀ supervised, ended = some supervised → supervised.parent = parent ∧
        Completed env session workspace runId script supervised after := by
  have sound : ParentRunRecorder.Sound env session workspace workspace
      ⟨recorder, none, []⟩ :=
    ⟨admitted, attached, rfl, by simp [recordedOf], rfl, rfl,
      by simp [stagedOf]⟩
  unfold runSupervised
  cases spawned : script.spawn with
  | error error =>
      refine ⟨_, _, _, rfl, sound, List.nil_prefix, by simp, ?_⟩
      rintro supervised ⟨⟩
      refine ⟨rfl, sound, ⟨.error error.toRunError, false, rfl⟩, ?_,
        List.nil_prefix, ?_, ?_⟩
      · exact ParentRunRecorder.complete_isIntent (by simp)
      · intro terminalRunId answer isFinish
        rcases ParentRunRecorder.complete_finish isFinish with
          ⟨_, _, _, isOk⟩ | ⟨_, _, isOk⟩ <;> cases isOk
      · intro terminalRunId reason isFail
        obtain ⟨isCanceled, _⟩ := ParentRunRecorder.complete_canceled isFail
        exact absurd (Except.error.inj isCanceled)
          error.toRunError_ne_runCanceled
  | ok _ =>
      dsimp only
      cases connected : script.connect with
      | error error =>
          refine ⟨_, _, _, rfl, sound, List.nil_prefix, by simp, ?_⟩
          rintro supervised ⟨⟩
          refine ⟨rfl, .of_looped pid deadlineMs rfl rfl ⟨sound,
            List.prefix_append _ _, ?_, by simp, by simp, by simp, by simp⟩⟩
          intro isCanceled
          simp [error.toRunError_ne_runCanceled] at isCanceled
      | ok _ =>
          obtain ⟨next, ended, after, ran, looped⟩ :=
            superviseLoop_spec isOpen shown pid deadlineMs script.passes
              (show (SupervisorState.mk ⟨recorder, none, []⟩ false
                none).parent.Sound env session workspace workspace from sound)
          dsimp only
          rw [Program.run_bind_ok ran]
          refine ⟨_, _, next.parent, rfl, looped.sound, looped.prefixed, ?_, ?_⟩
          · intro isNone
            obtain rfl := Option.map_eq_none_iff.mp isNone
            exact ⟨rfl, rfl, isLast_of_superviseLoop ran⟩
          · intro supervised isSome
            cases ended with
            | none => cases isSome
            | some ended =>
                cases isSome
                exact ⟨superviseEnd_parent pid deadlineMs runId script next ended,
                  .of_looped pid deadlineMs rfl rfl looped⟩

variable (completion : SupervisedRunCompletion)

end Run

/-- The recorder of an admitted first run. -/
def firstRecorder : JsonlEventRecorder where
  path := runJsonlPath firstRun
  state := .new
  session := some ⟨firstRun, true, true, false⟩
  poisoned := false

/-- A quiet pass that receives the message. -/
def SupervisorPass.receiving (message : ChildMessage) : SupervisorPass where
  descendants := .ok ()
  cancel := false
  pastDeadline := false
  pastGrace := false
  cancelWrite := .ok ()
  exit := .ok none
  received := .message message
  approval := .ok ()
  collectorOpen := true
  reply := .ok ()

/-- A child that starts its run, fails it and exits. -/
def failingScript : SupervisorScript where
  spawn := .ok ()
  connect := .ok ()
  passes :=
    [.receiving (.ready 7), .receiving (.record (.event (agentStart firstRun))),
      .receiving (.record (.fail firstRun "provider unavailable" false)),
      .receiving (.result (.failed "provider unavailable"))]
  finalize := .ok ⟨true, "exit status: 0"⟩
  cleanupErrors := []

theorem began_admittedFirst :
    (beginDefaultJsonlSessionRecorder ledgerEnv (fun _ => .ok ()) "session_1"
      firstRun "question" true).run Workspace.empty =
        (.ok firstRecorder, admittedFirst) :=
  rfl

end PlatoAgent
