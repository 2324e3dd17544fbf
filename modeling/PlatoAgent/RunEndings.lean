import PlatoAgent.RunSupervision

/-!
# The end of a supervised run

After its child is gone, a run is ended three times: in the ledger and the
session row, in the status of its record in memory, and in the outcome that is
returned.  They name the same result exactly when the core takes the published
end and the deliveries of the run are reconciled, or a failure is published.
-/

namespace PlatoAgent

open AtomicProgram

/-- The status of the run's record in memory. -/
structure RunStatus where
  state : RunStateName
  finalAnswer : Option String
  error : Option String
  deriving DecidableEq, Repr

def eventCollectorPanic : String :=
  "daemon event collector panicked"

/-- `finish_run` and `finish_run_with_error`. -/
def statusOfOutcome : Except RunError RunOutcome → RunStatus
  | .ok outcome =>
      { state := .finished
        finalAnswer := some outcome.finalAnswer
        error := none }
  | .error error =>
      { state := if error = .runCanceled then .canceled else .failed
        finalAnswer := none
        error := some error.text }

structure FinishedRun where
  outcome : Except RunError RunOutcome
  status : RunStatus

/-- The completion after the scratch directory of a one-shot run is removed. -/
def completionAfterRoot (rootRemoved : Except ChildError Unit)
    (completion : SupervisedRunCompletion) : SupervisedRunCompletion :=
  match rootRemoved with
  | .ok () => completion
  | .error error => completion.overrideFailure error.toRunError

/-- The completion after the event collector is joined. -/
def completionAfterCollection (collectorPanicked : Bool)
    (completion : SupervisedRunCompletion) : SupervisedRunCompletion :=
  if collectorPanicked then
    completion.overrideFailure (.runFailed eventCollectorPanic)
  else completion

/-- `reconciled` is the result of `reconcile_run`. -/
def finishRunAfterEventCollection (env : LedgerEnv)
    (shown : AppError → String) (collectorPanicked : Bool)
    (reconciled : Except ChildError Unit)
    (completion : SupervisedRunCompletion) : LedgerM FinishedRun := do
  let collected := completionAfterCollection collectorPanicked completion
  let (terminal, recorder) ← collected.publish env
  recorder.drop env
  let published : Except RunError RunOutcome :=
    match terminal with
    | .ok _ => collected.outcome
    | .error error => .error (.other (shown error))
  let outcome : Except RunError RunOutcome :=
    match reconciled with
    | .ok () => published
    | .error error => .error error.toRunError
  pure { outcome := outcome, status := statusOfOutcome outcome }

/-- What a run came to. -/
inductive EndName where
  | finished (answer : String)
  | canceled
  | failed
  deriving DecidableEq, Repr

/-- The result that a status and an answer name. -/
def endName : RunStateName → Option String → Option EndName
  | .finished, some answer => some (.finished answer)
  | .canceled, none => some .canceled
  | .failed, none => some .failed
  | _, _ => none

def RunStatus.endName (status : RunStatus) : Option EndName :=
  PlatoAgent.endName status.state status.finalAnswer

def SessionOutcome.endName (outcome : SessionOutcome) : Option EndName :=
  PlatoAgent.endName outcome.status outcome.finalAnswer

def outcomeName : Except RunError RunOutcome → EndName
  | .ok outcome => .finished outcome.finalAnswer
  | .error .runCanceled => .canceled
  | .error _ => .failed

/-- The outcome, the record in memory and the session row name one result. -/
def FinishedRun.Agrees (finished : FinishedRun) (runId : RunId)
    (workspace : Workspace) : Prop :=
  finished.status.endName = some (outcomeName finished.outcome) ∧
    (outcomeOf workspace runId).bind SessionOutcome.endName =
      some (outcomeName finished.outcome)

/-- The core takes the end that the intent asks for after the records. -/
def TakesEnd (records : List RecordedEvent) (operation : RecordOperation) :
    Prop :=
  ∃ state next, RunState.replay records = .ok state ∧
    state.next (state.stamp 0 operation.endEvent) = .ok next

/-- The intent to be published names the result that is returned. -/
def SupervisedRunCompletion.Named (completion : SupervisedRunCompletion) :
    Prop :=
  completion.operation.outcome.endName =
    some (outcomeName completion.outcome)

theorem outcomeName_error {error : RunError}
    (uncanceled : error ≠ .runCanceled) :
    outcomeName (.error error) = .failed := by
  unfold outcomeName
  split
  next isOk => cases isOk
  next isCanceled => exact absurd (Except.error.inj isCanceled) uncanceled
  next => rfl

theorem terminalForOutcome_named (runId : RunId)
    (outcome : Except RunError RunOutcome) :
    (terminalForOutcome runId outcome).outcome.endName =
      some (outcomeName outcome) := by
  cases outcome with
  | ok outcome => rfl
  | error error => cases error <;> rfl

theorem intentMatches_named {runId : RunId} {terminal : RecordOperation}
    {outcome : Except RunError RunOutcome}
    (agrees : intentMatches runId terminal outcome = true) :
    terminal.outcome.endName = some (outcomeName outcome) := by
  cases terminal with
  | event event => cases outcome <;> cases agrees
  | finish terminalRunId answer =>
      obtain ⟨rfl, rfl⟩ := intentMatches_finish agrees
      rfl
  | fail terminalRunId reason canceled =>
      cases canceled with
      | true =>
          obtain ⟨rfl, rfl, rfl⟩ := intentMatches_canceled agrees
          rfl
      | false =>
          cases outcome with
          | ok outcome => cases agrees
          | error error =>
              cases error with
              | supervisedRun reason => rfl
              | runCanceled => cases agrees
              | runFailed reason => cases agrees
              | runChildTimedOut deadlineMs => cases agrees
              | other text => cases agrees

theorem ParentRunRecorder.complete_named (parent : ParentRunRecorder)
    (runId : RunId) (outcome : Except RunError RunOutcome)
    (preserve : Bool) : (parent.complete runId outcome preserve).Named := by
  unfold SupervisedRunCompletion.Named ParentRunRecorder.complete
  cases preserve with
  | false => exact terminalForOutcome_named runId outcome
  | true =>
      rw [if_pos rfl]
      unfold validateTerminalIntent
      cases parent.terminal with
      | none => rfl
      | some terminal =>
          dsimp only
          by_cases agrees : intentMatches runId terminal outcome = true
          · rw [if_pos agrees]
            exact intentMatches_named agrees
          · rw [if_neg agrees]
            rfl

theorem SupervisedRunCompletion.overrideFailure_named
    (completion : SupervisedRunCompletion) {error : RunError}
    (uncanceled : error ≠ .runCanceled) :
    (completion.overrideFailure error).Named := by
  unfold Named overrideFailure
  rw [outcomeName_error uncanceled]
  rfl

theorem completionAfterRoot_named (rootRemoved : Except ChildError Unit)
    {completion : SupervisedRunCompletion} (named : completion.Named) :
    (completionAfterRoot rootRemoved completion).Named := by
  cases rootRemoved with
  | ok _ => exact named
  | error error =>
      exact completion.overrideFailure_named error.toRunError_ne_runCanceled

theorem completionAfterCollection_named (collectorPanicked : Bool)
    {completion : SupervisedRunCompletion} (named : completion.Named) :
    (completionAfterCollection collectorPanicked completion).Named := by
  cases collectorPanicked with
  | false => exact named
  | true => exact completion.overrideFailure_named (by simp)

theorem completionAfterRoot_recorder (rootRemoved : Except ChildError Unit)
    (completion : SupervisedRunCompletion) :
    (completionAfterRoot rootRemoved completion).recorder =
      completion.recorder := by
  cases rootRemoved <;> rfl

theorem completionAfterCollection_recorder (collectorPanicked : Bool)
    (completion : SupervisedRunCompletion) :
    (completionAfterCollection collectorPanicked completion).recorder =
      completion.recorder := by
  cases collectorPanicked <;> rfl

theorem completionAfterRoot_isIntent (rootRemoved : Except ChildError Unit)
    {completion : SupervisedRunCompletion}
    (isIntent : completion.operation.isIntent = true) :
    (completionAfterRoot rootRemoved completion).operation.isIntent =
      true := by
  cases rootRemoved with
  | ok _ => exact isIntent
  | error error => rfl

theorem completionAfterCollection_isIntent (collectorPanicked : Bool)
    {completion : SupervisedRunCompletion}
    (isIntent : completion.operation.isIntent = true) :
    (completionAfterCollection collectorPanicked
      completion).operation.isIntent = true := by
  cases collectorPanicked with
  | false => exact isIntent
  | true => rfl

theorem statusOfOutcome_named (outcome : Except RunError RunOutcome) :
    (statusOfOutcome outcome).endName = some (outcomeName outcome) := by
  cases outcome with
  | ok outcome => rfl
  | error error => cases error <;> rfl

section Publication

variable {env : LedgerEnv} {workspace : Workspace}
variable {completion : SupervisedRunCompletion} {session : JsonlSession}
variable {records : List RecordedEvent}

/-- The core takes the offered end whatever the time. -/
theorem takesEnd_iff {recorder : JsonlEventRecorder}
    (logged : Logged env workspace recorder records)
    (operation : RecordOperation) (now : UInt64) :
    TakesEnd records operation ↔ ∃ record state,
      nextRecordAt now recorder.state operation.endEvent =
        .ok (record, state) := by
  constructor
  · rintro ⟨state, next, replayed, accepted⟩
    obtain rfl := Except.ok.inj (replayed.symm.trans logged.replayed)
    exact ⟨_, next, nextRecordAt_ok_iff.mpr ⟨rfl, accepted⟩⟩
  · rintro ⟨record, next, offered⟩
    exact ⟨_, next, logged.replayed, (nextRecordAt_ok_iff.mp offered).2⟩

/-- A publication that the core takes closes the row. -/
theorem SupervisedRunCompletion.publish_taken (fits : ClockFits env)
    (logged : Logged env workspace completion.recorder records)
    (attached : completion.recorder.session = some session)
    (isOpen : session.isOpen = true)
    (isIntent : completion.operation.isIntent = true)
    (running : Running workspace session.runId)
    (taken : TakesEnd records completion.operation) :
    ∃ record last after,
      (completion.publish env).run workspace =
        (.ok (.ok record, last), after) ∧
      outcomeOf after session.runId = some completion.operation.outcome ∧
      (last.drop env).run after = (.ok (), after) := by
  obtain ⟨record, state, offered⟩ := (takesEnd_iff logged _ _).mp taken
  have stillRunning : Running
      (workspace.withLine env completion.recorder.path record)
      session.runId := running
  obtain ⟨after, closed, closes, _⟩ := completeSessionTerminal_run fits
    stillRunning completion.operation.outcome
  obtain ⟨last, ran, _, _, lastAttached, attempted⟩ :=
    logged.recordTerminal_accepted attached isOpen offered closed
  refine ⟨record, last, after, ?_, ?_,
    JsonlEventRecorder.drop_of_attempted lastAttached attempted⟩
  · rw [SupervisedRunCompletion.publish_eq env isIntent, ran]
    rfl
  · rw [closes.outcomeOf_eq stillRunning, if_pos rfl]

/-- A publication that the core refuses leaves the row as it is. -/
theorem SupervisedRunCompletion.publish_refused
    (logged : Logged env workspace completion.recorder records)
    (attached : completion.recorder.session = some session)
    (isOpen : session.isOpen = true)
    (isIntent : completion.operation.isIntent = true)
    (refused : ¬ TakesEnd records completion.operation) :
    ∃ error last,
      (completion.publish env).run workspace =
        (.ok (.error error, last), workspace.tick) ∧
      (last.drop env).run workspace.tick = (.ok (), workspace.tick) := by
  rw [takesEnd_iff logged _ (env.clock workspace.clockReadings)] at refused
  cases offered : nextRecordAt (env.clock workspace.clockReadings)
      completion.recorder.state completion.operation.endEvent with
  | ok pair => exact absurd ⟨pair.1, pair.2, offered⟩ refused
  | error error =>
      refine ⟨error, { completion.recorder with
        session := some { session with terminalAttempted := true } }, ?_,
        JsonlEventRecorder.drop_of_attempted rfl rfl⟩
      rw [SupervisedRunCompletion.publish_eq env isIntent]
      exact logged.recordTerminal_rejected attached isOpen offered
        completion.operation.outcome

/-- The row of a running run names no result. -/
theorem not_named_of_running {runId : RunId}
    (running : Running workspace runId) :
    (outcomeOf workspace runId).bind SessionOutcome.endName = none := by
  obtain ⟨row, member, isRunning⟩ := running
  obtain ⟨isRun, isStatus⟩ : row.runId = runId ∧ row.status = .running := by
    simpa [SessionRun.isRunning] using isRunning
  unfold outcomeOf
  cases found : workspace.sessionRuns.rows.find? (·.runId == runId) with
  | none => rfl
  | some other =>
      have otherRun : other.runId = runId := by
        simpa using List.find?_some found
      obtain rfl := row_eq_of_runId member
        (List.mem_of_find?_eq_some found) (isRun.trans otherRun.symm)
      simp [SessionRun.outcome, isStatus, SessionOutcome.endName, endName]

theorem endName_eq_failed_iff {operation : RecordOperation}
    (isIntent : operation.isIntent = true) :
    operation.outcome.endName = some .failed ↔
      ∃ runId reason, operation = .fail runId reason false := by
  cases operation with
  | event event => cases isIntent
  | finish runId answer =>
      constructor
      · intro named
        cases named
      · rintro ⟨_, _, isFail⟩
        cases isFail
  | fail runId reason canceled =>
      cases canceled with
      | false => exact ⟨fun _ => ⟨runId, reason, rfl⟩, fun _ => rfl⟩
      | true =>
          constructor
          · intro named
            cases named
          · rintro ⟨_, _, isFail⟩
            cases isFail

theorem finishRunAfterEventCollection_agrees (fits : ClockFits env)
    (logged : Logged env workspace completion.recorder records)
    (attached : completion.recorder.session = some session)
    (isOpen : session.isOpen = true)
    (isIntent : completion.operation.isIntent = true)
    (running : Running workspace session.runId) (named : completion.Named)
    (shown : AppError → String) (collectorPanicked : Bool)
    (reconciled : Except ChildError Unit) :
    ∃ finished after,
      (finishRunAfterEventCollection env shown collectorPanicked reconciled
        completion).run workspace = (.ok finished, after) ∧
      (finished.Agrees session.runId after ↔
        TakesEnd records (completionAfterCollection collectorPanicked
          completion).operation ∧
        (reconciled = .ok () ∨ ∃ runId reason,
          (completionAfterCollection collectorPanicked completion).operation =
            .fail runId reason false)) := by
  have recorder := completionAfterCollection_recorder collectorPanicked
    completion
  have collectedIntent := completionAfterCollection_isIntent collectorPanicked
    isIntent
  have collectedNamed := completionAfterCollection_named collectorPanicked
    named
  unfold finishRunAfterEventCollection
  dsimp only
  generalize completionAfterCollection collectorPanicked completion =
    collected at recorder collectedIntent collectedNamed ⊢
  rw [← recorder] at logged attached
  by_cases taken : TakesEnd records collected.operation
  · obtain ⟨record, last, after, ran, closed, dropped⟩ :=
      SupervisedRunCompletion.publish_taken fits logged attached isOpen
        collectedIntent running taken
    rw [Program.run_bind_ok ran]
    dsimp only
    rw [Program.run_bind_ok dropped]
    refine ⟨_, after, rfl, ?_⟩
    unfold FinishedRun.Agrees
    dsimp only
    rw [closed, Option.bind_some, collectedNamed, statusOfOutcome_named]
    cases reconciled with
    | ok _ => simp [taken]
    | error error =>
        dsimp only
        rw [outcomeName_error error.toRunError_ne_runCanceled,
          ← endName_eq_failed_iff collectedIntent, collectedNamed]
        simp [taken]
  · obtain ⟨error, last, ran, dropped⟩ :=
      SupervisedRunCompletion.publish_refused logged attached isOpen
        collectedIntent taken
    rw [Program.run_bind_ok ran]
    dsimp only
    rw [Program.run_bind_ok dropped]
    refine ⟨_, workspace.tick, rfl, ?_⟩
    have stillRunning : Running workspace.tick session.runId := running
    unfold FinishedRun.Agrees
    dsimp only
    rw [not_named_of_running stillRunning]
    simp [taken]

end Publication

section Admitted

variable {env : LedgerEnv} {initial workspace before : Workspace}
variable {hydrated : Hydration} {sessionId question : String}
variable {runId : RunId} {createSession : Bool}

theorem beginSessionRun_running {turns : List SessionTurn}
    (admitted : (beginSessionRun env sessionId runId question
      createSession).run initial = (.ok turns, workspace)) :
    Running workspace runId := by
  obtain ⟨now, ticked, _, admitted⟩ := Program.exists_of_run_bind_ok admitted
  obtain ⟨_, reached, entered, listed⟩ :=
    Program.exists_of_run_bind_ok admitted
  obtain rfl : reached = workspace := (Prod.mk.inj listed).2
  rcases transaction_run_cases (admitSessionRun sessionId runId question
    createSession now) ticked with ⟨_, _, commits, ran⟩ | ⟨_, _, ran⟩
  · rw [ran] at entered
    obtain ⟨_, rfl⟩ := Prod.mk.inj entered
    obtain ⟨_, index, _, inserted, _⟩ := commits_admitSessionRun commits
    exact ⟨admittedRow sessionId runId question index now,
      (UniqueTable.mem_insert? inserted).mpr (.inr rfl),
      by simp [SessionRun.isRunning, admittedRow]⟩
  · rw [ran] at entered
    cases entered

theorem beginDefaultJsonlSessionRecorder_running
    {recorder : JsonlEventRecorder}
    (began : (beginDefaultJsonlSessionRecorder env hydrated sessionId runId
      question createSession).run initial = (.ok recorder, workspace)) :
    Running workspace runId := by
  obtain ⟨made, opened, created, began⟩ := Program.exists_of_run_bind_ok began
  obtain ⟨result, admitted, entered, began⟩ :=
    Program.exists_of_run_bind_ok began
  rw [Program.run_attempt] at entered
  obtain ⟨isResult, rfl⟩ := Prod.mk.inj entered
  cases result with
  | error error =>
      obtain ⟨removed, _, _, thrown⟩ := Program.exists_of_run_bind_ok began
      cases removed <;> cases thrown
  | ok turns =>
      dsimp only at began
      split at began
      · obtain ⟨_, rfl⟩ := Prod.mk.inj began
        exact beginSessionRun_running
          (Prod.ext (Except.ok.inj isResult) rfl)
      · obtain ⟨undone, _, _, thrown⟩ := Program.exists_of_run_bind_ok began
        cases undone <;> cases thrown

/-- The three ends of an admitted run agree exactly when the core takes the
published end after what the parent recorded, and the deliveries are reconciled
or a failure is published. -/
theorem supervisedRun_agrees_iff (fits : ClockFits env)
    {recorder : JsonlEventRecorder}
    (began : (beginDefaultJsonlSessionRecorder env hydrated sessionId runId
      question createSession).run initial = (.ok recorder, workspace))
    (shown : AppError → String) (pid : UInt32) (deadlineMs : UInt64)
    (script : SupervisorScript) {supervised : Supervised}
    (ended : (runSupervised env shown pid deadlineMs runId recorder
      script).run workspace = (.ok (some supervised), before))
    (rootRemoved : Except ChildError Unit) (collectorPanicked : Bool)
    (reconciled : Except ChildError Unit) :
    ∃ finished after,
      (finishRunAfterEventCollection env shown collectorPanicked reconciled
        (completionAfterRoot rootRemoved supervised.completion)).run before =
          (.ok finished, after) ∧
      (finished.Agrees runId after ↔
        TakesEnd (recordedOf supervised.parent.history)
          (completionAfterCollection collectorPanicked (completionAfterRoot
            rootRemoved supervised.completion)).operation ∧
        (reconciled = .ok () ∨ ∃ failedRun reason,
          (completionAfterCollection collectorPanicked (completionAfterRoot
            rootRemoved supervised.completion)).operation =
              .fail failedRun reason false)) := by
  have admitted := (beginDefaultJsonlSessionRecorder_synced _ _ _ _ _
    began).2.2
  have attached := beginDefaultJsonlSessionRecorder_session began
  obtain ⟨found, reached, _, ran, _, _, _, completes⟩ :=
    runSupervised_spec admitted attached rfl shown pid deadlineMs runId script
  obtain ⟨isFound, rfl⟩ := Prod.mk.inj (ran.symm.trans ended)
  obtain ⟨-, completed⟩ := completes supervised (Except.ok.inj isFound)
  have isRecorder := (completionAfterRoot_recorder rootRemoved
    supervised.completion).trans completed.recorder
  have running : Running reached runId := by
    unfold Running
    rw [completed.sound.rows]
    exact beginDefaultJsonlSessionRecorder_running began
  obtain ⟨outcome, preserve, isCompletion⟩ := completed.completion
  have named : supervised.completion.Named := by
    rw [isCompletion]
    exact supervised.parent.complete_named runId outcome preserve
  have logged := completed.sound.logged
  have stillAttached := completed.sound.attached
  rw [← isRecorder] at logged stillAttached
  exact finishRunAfterEventCollection_agrees fits logged stillAttached rfl
    (completionAfterRoot_isIntent rootRemoved completed.isIntent) running
    (completionAfterRoot_named rootRemoved named) shown collectorPanicked
    reconciled

end Admitted

theorem supervisedRun_agrees_failing :
    ∃ supervised before,
      (runSupervised ledgerEnv (fun _ => "") 7 1000 firstRun firstRecorder
        failingScript).run admittedFirst = (.ok (some supervised), before) ∧
      ∃ finished after,
        (finishRunAfterEventCollection ledgerEnv (fun _ => "") false (.ok ())
          (completionAfterRoot (.ok ()) supervised.completion)).run before =
            (.ok finished, after) ∧
        (finished.Agrees firstRun after ↔
          TakesEnd (recordedOf supervised.parent.history)
            (.fail firstRun "provider unavailable" false) ∧
          ((.ok () : Except ChildError Unit) = .ok () ∨
            ∃ failedRun reason,
              RecordOperation.fail firstRun "provider unavailable" false =
                .fail failedRun reason false)) := by
  refine ⟨_, _, rfl, ?_⟩
  exact supervisedRun_agrees_iff ledgerEnv_fits began_admittedFirst
    (fun _ => "") 7 1000 failingScript rfl (.ok ()) false (.ok ())

/-- A run whose child cannot be started. -/
def unspawnedScript : SupervisorScript :=
  { failingScript with
    spawn := .error (.other "No such file or directory (os error 2)") }

/-- The row of the run stays running, and no result is named. -/
theorem supervisedRun_unspawned :
    ∃ supervised before finished after,
      (runSupervised ledgerEnv (fun _ => "") 7 1000 firstRun firstRecorder
        unspawnedScript).run admittedFirst =
          (.ok (some supervised), before) ∧
      (finishRunAfterEventCollection ledgerEnv (fun _ => "") false (.ok ())
        (completionAfterRoot (.ok ()) supervised.completion)).run before =
          (.ok finished, after) ∧
      finished.status.state = .failed ∧ Running after firstRun ∧
      ¬ finished.Agrees firstRun after := by
  have running : Running admittedFirst.tick firstRun :=
    ⟨firstRow, List.mem_singleton.mpr rfl, rfl⟩
  refine ⟨_, _, _, _, rfl, rfl, rfl, running, ?_⟩
  rintro ⟨_, named⟩
  cases (not_named_of_running running).symm.trans named

end PlatoAgent
