import PlatoAgent.DaemonRuntime

/-!
# The approval gate of a run

A tool call that needs approval blocks its run until a client decides, the run
is canceled or the run ends.  The decision lives in the record of the run and
in the server store.  Each function below is one critical section under the
lock of the approvals of the record.
-/

namespace PlatoAgent

def shellExec : String :=
  "shell.exec"

inductive ApprovalDecision where
  | grant | grantSession | deny
  deriving DecidableEq, Repr

inductive ExternalApprovalOutcome where
  | granted (actor : String)
  | denied (actor reason : String)
  deriving DecidableEq, Repr

def ExternalApprovalOutcome.actor : ExternalApprovalOutcome → String
  | .granted actor | .denied actor _ => actor

structure ApprovalRequest where
  runId : RunId
  callId : ToolCallId
  toolName : String
  effect : EffectClass
  reason : String
  inputPreview : Option String
  approvalPreview : Option String
  diffPreview : Option String
  yoloEligible : Bool
  deriving DecidableEq, Repr

/-- A call of the shell. -/
def sampleShellRequest : ApprovalRequest where
  runId := ⟨"r", by decide⟩
  callId := ⟨"call_1", by decide⟩
  toolName := "shell.exec"
  effect := .externalSideEffect
  reason := "runs a command"
  inputPreview := none
  approvalPreview := none
  diffPreview := none
  yoloEligible := false

structure PendingApprovalDecision where
  decision : ApprovalDecision
  outcome : ExternalApprovalOutcome
  deriving DecidableEq, Repr

structure PendingApproval where
  sessionId : String
  request : ApprovalRequest
  decision : Option PendingApprovalDecision
  deriving DecidableEq, Repr

/-- A run record with its cancel flag and its approvals. -/
structure ApprovalGate where
  record : RunRecord
  cancel : Bool
  approvals : FiniteMap String PendingApproval

structure ToolCallApprovalDecision where
  granted : Bool
  actor : String
  reason : Option String
  decidedAtMs : UInt64
  deriving DecidableEq, Repr

structure ToolCallApprovalRecord where
  runId : String
  callId : String
  sessionId : String
  toolName : String
  effect : EffectClass
  reason : String
  inputPreview : Option String
  approvalPreview : Option String
  diffPreview : Option String
  requestedAtMs : UInt64
  decision : Option ToolCallApprovalDecision
  deriving DecidableEq, Repr

/-- The table `tool_call_approvals`, by run and call. -/
abbrev ToolCallApprovals : Type :=
  FiniteMap (String × String) ToolCallApprovalRecord

namespace ToolCallApprovals

/-- A request that is already stored stands, with its decision. -/
def persistToolCallApproval (rows : ToolCallApprovals)
    (record : ToolCallApprovalRecord) : Except AppError ToolCallApprovals :=
  (storedU64 record.requestedAtMs "approval requested_at_ms").map fun _ =>
    if (rows.lookup (record.runId, record.callId)).isSome then rows
    else
      rows.insert (record.runId, record.callId) { record with decision := none }

/-- The undecided row of the call gets the decision; the flag says whether
there was one. -/
def resolveToolCallApproval (rows : ToolCallApprovals) (runId callId : String)
    (decision : ToolCallApprovalDecision) :
    Except AppError (Bool × ToolCallApprovals) :=
  (storedU64 decision.decidedAtMs "approval decided_at_ms").map fun _ =>
    match (rows.lookup (runId, callId)).filter (·.decision.isNone) with
    | none => (false, rows)
    | some row =>
        (true,
          rows.insert (runId, callId) { row with decision := some decision })

end ToolCallApprovals

/-- A method of the server store is called at a time, and can fail. -/
structure StoreAttempt where
  nowMs : UInt64
  failure : Option AppError
  deriving DecidableEq, Repr

def StoreAttempt.result {Result : Type} (attempt : StoreAttempt)
    (result : Except AppError Result) : Except AppError Result :=
  attempt.failure.elim result .error

/-- The grants of sessions and the stored approvals of all runs. -/
structure ApprovalDesk where
  sessionToolGrants : Finset (String × String)
  toolCallApprovals : ToolCallApprovals

namespace ApprovalDesk

def hasShellSessionGrant (desk : ApprovalDesk) (sessionId : String) : Bool :=
  (sessionId, shellExec) ∈ desk.sessionToolGrants

def installShellSessionGrant (desk : ApprovalDesk) (sessionId : String) :
    ApprovalDesk :=
  { desk with
    sessionToolGrants :=
      insert (sessionId, shellExec) desk.sessionToolGrants }

end ApprovalDesk

/-- The row of a decision that is made at a time. -/
def ExternalApprovalOutcome.stored (outcome : ExternalApprovalOutcome)
    (nowMs : UInt64) : ToolCallApprovalDecision :=
  match outcome with
  | .granted actor => ⟨true, actor, none, nowMs⟩
  | .denied actor reason => ⟨false, actor, some reason, nowMs⟩

def recordApprovalDecision (rows : ToolCallApprovals) (runId callId : String)
    (outcome : ExternalApprovalOutcome) (attempt : StoreAttempt) :
    Except AppError ToolCallApprovals :=
  attempt.result
    ((rows.resolveToolCallApproval runId callId (outcome.stored attempt.nowMs)).map
      (·.2))

def persistApprovalRequest (rows : ToolCallApprovals) (sessionId : String)
    (request : ApprovalRequest) (attempt : StoreAttempt) :
    Except AppError ToolCallApprovals :=
  attempt.result (rows.persistToolCallApproval
    { runId := request.runId.value
      callId := request.callId.value
      sessionId := sessionId
      toolName := request.toolName
      effect := request.effect
      reason := request.reason
      inputPreview := request.inputPreview
      approvalPreview := request.approvalPreview
      diffPreview := request.diffPreview
      requestedAtMs := attempt.nowMs
      decision := none })

def daemonDenial (reason : String) : ExternalApprovalOutcome :=
  .denied "daemon" reason

/-- Best effort: the denial stands also when it cannot be recorded. -/
def recordDaemonDenial (rows : ToolCallApprovals) (request : ApprovalRequest)
    (reason : String) (attempt : StoreAttempt) : ToolCallApprovals :=
  match recordApprovalDecision rows request.runId.value request.callId.value
      (daemonDenial reason) attempt with
  | .ok recorded => recorded
  | .error _ => rows

def approvalRequestedEvent (request : ApprovalRequest) : StreamEvent :=
  .approvalRequested request.runId.value request.callId.value request.toolName
    request.effect request.reason request.diffPreview request.approvalPreview
    request.yoloEligible

inductive ApprovalAnswer where
  /-- The request is of another run. -/
  | mismatch
  | outcome (outcome : ExternalApprovalOutcome)
  /-- The handler waits. -/
  | asked
  deriving DecidableEq, Repr

namespace ApprovalGate

/-- Decisions that were made are kept. -/
def dropUndecided (gate : ApprovalGate) : ApprovalGate :=
  { gate with approvals := gate.approvals.retain (·.decision.isSome) }

def withState (gate : ApprovalGate) (state : RunStateName) : ApprovalGate :=
  { gate with record := { gate.record with state := state } }

/-- `push_event` on the own buffer of the record. -/
def pushEvent (gate : ApprovalGate) (event : StreamEvent) : ApprovalGate :=
  { gate with
    record :=
      { gate.record with
        events := gate.record.events.push maxEventBuffer event } }

/-- `approval_handler` up to its loop; `shown` is the text of an error. -/
def ask (shown : AppError → String) (gate : ApprovalGate)
    (desk : ApprovalDesk) (request : ApprovalRequest)
    (threadYolo sessionYolo : Bool) (attempt : StoreAttempt) :
    ApprovalAnswer × ApprovalGate × ApprovalDesk :=
  if request.runId.value ≠ gate.record.runId then
    (.mismatch, gate, desk)
  else if gate.cancel then
    (.outcome (daemonDenial "run canceled"), gate, desk)
  else if gate.record.state ≠ .running then
    (.outcome (daemonDenial "run is no longer active"), gate, desk)
  else if request.yoloEligible && threadYolo then
    (.outcome (.granted "yolo"), gate, desk)
  else if request.yoloEligible && sessionYolo then
    (.outcome (.granted "tui_yolo"), gate, desk)
  else if request.toolName = shellExec ∧
      request.effect = .externalSideEffect ∧
      desk.hasShellSessionGrant gate.record.sessionId then
    (.outcome (.granted "session_grant"), gate, desk)
  else match persistApprovalRequest desk.toolCallApprovals
      gate.record.sessionId request attempt with
  | .error error =>
      (.outcome (daemonDenial
        s!"approval could not be recorded: {shown error}"), gate, desk)
  | .ok rows =>
      (.asked,
        { gate with
          approvals := gate.approvals.insert request.callId.value
            ⟨gate.record.sessionId, request, none⟩ }.pushEvent
            (approvalRequestedEvent request),
        { desk with toolCallApprovals := rows })

def decisionOf (gate : ApprovalGate) (callId : String) :
    Option PendingApprovalDecision :=
  (gate.approvals.lookup callId).bind (·.decision)

/-- The daemon answers for a client that no longer can. -/
def deny (gate : ApprovalGate) (desk : ApprovalDesk) (request : ApprovalRequest)
    (reason : String) (attempt : StoreAttempt) :
    Option ExternalApprovalOutcome × ApprovalGate × ApprovalDesk :=
  (some (daemonDenial reason),
    { gate with approvals := gate.approvals.erase request.callId.value },
    { desk with
      toolCallApprovals :=
        recordDaemonDenial desk.toolCallApprovals request reason attempt })

/-- One pass of the loop of `approval_handler`; without an outcome it waits for
the next notification. -/
def wake (gate : ApprovalGate) (desk : ApprovalDesk) (request : ApprovalRequest)
    (attempt : StoreAttempt) :
    Option ExternalApprovalOutcome × ApprovalGate × ApprovalDesk :=
  match gate.decisionOf request.callId.value with
  | some decision => (some decision.outcome, gate, desk)
  | none =>
      if gate.cancel then
        gate.deny desk request "run canceled" attempt
      else if gate.record.state ≠ .running then
        gate.deny desk request "run is no longer active" attempt
      else (none, gate, desk)

end ApprovalGate

structure ApprovalDecideParams where
  runId : String
  toolCallId : String
  decision : ApprovalDecision
  actor : Option String
  reason : Option String
  deriving DecidableEq, Repr

/-- The actor that a decision is recorded for. -/
def ApprovalDecideParams.decisionActor (params : ApprovalDecideParams)
    (attributedActor : Option ActorId) : String :=
  match params.decision with
  | .grantSession => "tui_session_grant"
  | .grant | .deny => (attributedActor.map (·.value)).getD "daemon"

def ApprovalDecideParams.outcome (params : ApprovalDecideParams)
    (decisionActor : String) : ExternalApprovalOutcome :=
  match params.decision with
  | .grant => .granted decisionActor
  | .grantSession => .granted "tui_session_grant"
  | .deny =>
      .denied decisionActor
        (params.reason.getD "approval denied by daemon client")

inductive ApprovalDecideError where
  /-- Malformed request, with the text of the error. -/
  | malformedActor (error : Error)
  /-- Not found: `run not found: {run_id}`. -/
  | runNotFound (runId : String)
  /-- Not found: `pending approval not found: {tool_call_id}`. -/
  | approvalNotFound (toolCallId : String)
  /-- Internal: `approval decision could not be recorded: {error}`. -/
  | unrecorded (error : AppError)
  deriving DecidableEq, Repr

/-- Only calls of the shell outside the workspace can be granted to a whole
session. -/
def PendingApproval.admits (pending : PendingApproval)
    (decision : ApprovalDecision) : Bool :=
  decision != .grantSession ||
    (pending.request.toolName == shellExec &&
      pending.request.effect == .externalSideEffect)

namespace ApprovalGate

/-- The pending approval that a decision is about. -/
def decidable? (gate : ApprovalGate) (toolCallId : String) :
    Option PendingApproval :=
  if gate.cancel || gate.record.state != .running then none
  else (gate.approvals.lookup toolCallId).filter fun pending =>
    pending.request.runId.value == gate.record.runId &&
      pending.sessionId == gate.record.sessionId &&
      pending.request.callId.value == toolCallId

/-- A decision on a call that has none yet. -/
def decideFirst (gate : ApprovalGate) (desk : ApprovalDesk)
    (params : ApprovalDecideParams) (decisionActor : String)
    (pending : PendingApproval) (attempt : StoreAttempt) :
    Except ApprovalDecideError RunStateName × ApprovalGate × ApprovalDesk :=
  let outcome := params.outcome decisionActor
  -- The grant is installed before the decision is recorded.
  let installed :=
    if params.decision = .grantSession then
      desk.installShellSessionGrant gate.record.sessionId
    else desk
  match recordApprovalDecision desk.toolCallApprovals gate.record.runId
      params.toolCallId outcome attempt with
  | .error error => (.error (.unrecorded error), gate, installed)
  | .ok rows =>
      (.ok gate.record.state,
        { gate with
          approvals := gate.approvals.insert params.toolCallId
            { pending with decision := some ⟨params.decision, outcome⟩ } },
        { installed with toolCallApprovals := rows })

/-- `handle_approval_decide` under the locks of the record. -/
def decide (gate : ApprovalGate) (desk : ApprovalDesk)
    (params : ApprovalDecideParams) (decisionActor : String)
    (attempt : StoreAttempt) :
    Except ApprovalDecideError RunStateName × ApprovalGate × ApprovalDesk :=
  let notFound := (.error (.approvalNotFound params.toolCallId), gate, desk)
  match gate.decidable? params.toolCallId with
  | none => notFound
  | some pending =>
      match pending.decision with
      | some existing =>
          if existing.decision = params.decision ∧
              existing.outcome.actor = decisionActor then
            (.ok gate.record.state, gate, desk)
          else notFound
      | none =>
          if pending.admits params.decision then
            gate.decideFirst desk params decisionActor pending attempt
          else notFound

/-- `request_cancel_after`; `before` is the result of its first argument. -/
def requestCancelAfter (gate : ApprovalGate) (before : Except AppError Unit) :
    Except AppError (Option RunStateName × ApprovalGate) :=
  match gate.record.state with
  | .running =>
      before.map fun _ =>
        (some .cancelRequested,
          (({ gate.withState .cancelRequested with cancel := true }.pushEvent
            (.canceled gate.record.runId)).dropUndecided))
  | .cancelRequested => .ok (some .cancelRequested, gate)
  | .finished | .failed | .canceled | .interrupted => .ok (none, gate)

/-- The first critical section of `complete_run`. -/
def complete (gate : ApprovalGate) (status : RunStateName) : ApprovalGate :=
  (gate.withState status).dropUndecided

end ApprovalGate

section Rows

variable {rows after : ToolCallApprovals} {runId callId : String}
    {outcome : ExternalApprovalOutcome} {attempt : StoreAttempt}

theorem StoreAttempt.result_eq_ok {Result : Type} {value : Result}
    {result : Except AppError Result}
    (isOk : attempt.result result = .ok value) : result = .ok value := by
  unfold StoreAttempt.result at isOk
  cases failed : attempt.failure with
  | none =>
      rw [failed] at isOk
      exact isOk
  | some error =>
      rw [failed] at isOk
      cases isOk

theorem storedU64_map_eq_ok {Result : Type} {value : UInt64} {field : String}
    {result stored : Result}
    (isOk : (storedU64 value field).map (fun _ => result) = .ok stored) :
    result = stored := by
  cases checked : storedU64 value field with
  | error error =>
      rw [checked] at isOk
      cases isOk
  | ok checkedValue =>
      rw [checked] at isOk
      exact Except.ok.inj isOk

/-- A decision that is recorded is written to the undecided row of its call,
and nowhere else. -/
theorem recordApprovalDecision_eq_ok
    (isOk : recordApprovalDecision rows runId callId outcome attempt =
      .ok after) :
    after = ((rows.lookup (runId, callId)).filter
      (·.decision.isNone)).elim rows fun row =>
        rows.insert (runId, callId)
          { row with decision := some (outcome.stored attempt.nowMs) } := by
  have resolved := StoreAttempt.result_eq_ok isOk
  unfold ToolCallApprovals.resolveToolCallApproval at resolved
  cases checked : storedU64 (outcome.stored attempt.nowMs).decidedAtMs
      "approval decided_at_ms" with
  | error error =>
      rw [checked] at resolved
      cases resolved
  | ok checkedValue =>
      rw [checked] at resolved
      cases undecided : (rows.lookup (runId, callId)).filter
          (·.decision.isNone) with
      | none =>
          rw [undecided] at resolved
          exact (Except.ok.inj resolved).symm
      | some row =>
          rw [undecided] at resolved
          exact (Except.ok.inj resolved).symm

theorem recordApprovalDecision_self {row : ToolCallApprovalRecord}
    (isOk : recordApprovalDecision rows runId callId outcome attempt =
      .ok after)
    (found : rows.lookup (runId, callId) = some row)
    (undecided : row.decision = none) :
    after.lookup (runId, callId) =
      some { row with decision := some (outcome.stored attempt.nowMs) } := by
  rw [recordApprovalDecision_eq_ok isOk, found,
    Option.filter_some_pos (by simp [undecided])]
  exact AList.lookup_insert _

theorem recordApprovalDecision_other {key : String × String}
    (isOk : recordApprovalDecision rows runId callId outcome attempt =
      .ok after)
    (other : key ≠ (runId, callId)) : after.lookup key = rows.lookup key := by
  rw [recordApprovalDecision_eq_ok isOk]
  cases (rows.lookup (runId, callId)).filter (·.decision.isNone) with
  | none => rfl
  | some row => exact AList.lookup_insert_ne other

theorem recordDaemonDenial_other {request : ApprovalRequest}
    {reason : String} {key : String × String}
    (other : key ≠ (request.runId.value, request.callId.value)) :
    (recordDaemonDenial rows request reason attempt).lookup key =
      rows.lookup key := by
  unfold recordDaemonDenial
  split
  next recorded isRecorded => exact recordApprovalDecision_other isRecorded other
  · rfl

/-- A request that was not stored is stored undecided. -/
theorem persistApprovalRequest_eq_ok {sessionId : String}
    {request : ApprovalRequest}
    (isOk : persistApprovalRequest rows sessionId request attempt = .ok after)
    (absent : rows.lookup (request.runId.value, request.callId.value) =
      none) :
    ∃ row, row.decision = none ∧
      after = rows.insert (request.runId.value, request.callId.value) row := by
  have persisted := StoreAttempt.result_eq_ok isOk
  unfold ToolCallApprovals.persistToolCallApproval at persisted
  have stored := storedU64_map_eq_ok persisted
  dsimp only at stored
  rw [absent, if_neg (by simp)] at stored
  exact ⟨_, rfl, stored.symm⟩

end Rows

namespace ApprovalGate

variable {gate : ApprovalGate} {desk : ApprovalDesk}

theorem lookup_dropUndecided {callId : String} {pending : PendingApproval} :
    gate.dropUndecided.approvals.lookup callId = some pending ↔
      gate.approvals.lookup callId = some pending ∧
        pending.decision.isSome = true :=
  FiniteMap.lookup_retain_eq_some_iff

theorem decisionOf_dropUndecided (callId : String) :
    gate.dropUndecided.decisionOf callId = gate.decisionOf callId := by
  ext decision
  unfold decisionOf
  simp only [Option.bind_eq_some_iff, lookup_dropUndecided]
  constructor
  · rintro ⟨pending, ⟨found, _⟩, decided⟩
    exact ⟨pending, found, decided⟩
  · rintro ⟨pending, found, decided⟩
    exact ⟨pending, ⟨found, by simp [decided]⟩, decided⟩

/-- What a decision does. -/
theorem decide_cases (gate : ApprovalGate) (desk : ApprovalDesk)
    (params : ApprovalDecideParams) (actor : String)
    (attempt : StoreAttempt) :
    (∃ error after, gate.decide desk params actor attempt =
      (.error error, gate, after) ∧
      after.toolCallApprovals = desk.toolCallApprovals) ∨
    (∃ existing, gate.decisionOf params.toolCallId = some existing ∧
      existing.decision = params.decision ∧
      existing.outcome.actor = actor ∧ gate.record.state = .running ∧
      gate.decide desk params actor attempt =
        (.ok gate.record.state, gate, desk)) ∨
    ∃ pending after, gate.approvals.lookup params.toolCallId = some pending ∧
      pending.decision = none ∧ gate.record.state = .running ∧
      recordApprovalDecision desk.toolCallApprovals gate.record.runId
        params.toolCallId (params.outcome actor) attempt =
          .ok after.toolCallApprovals ∧
      gate.decide desk params actor attempt =
        (.ok gate.record.state,
          { gate with
            approvals := gate.approvals.insert params.toolCallId
              { pending with
                decision := some ⟨params.decision, params.outcome actor⟩ } },
          after) := by
  unfold decide
  dsimp only
  split
  · exact .inl ⟨_, _, rfl, rfl⟩
  next pending decidable =>
    unfold decidable? at decidable
    obtain ⟨active, decidable⟩ := Option.ite_none_left_eq_some.mp decidable
    obtain ⟨found, _⟩ := Option.filter_eq_some_iff.mp decidable
    have running : gate.record.state = .running := by
      by_contra halted
      exact active (by simp [halted])
    split
    next existing decided =>
      split
      next same =>
        refine .inr (.inl ⟨existing, ?_, same.1, same.2, running, rfl⟩)
        unfold decisionOf
        rw [found]
        exact decided
      · exact .inl ⟨_, _, rfl, rfl⟩
    next undecided =>
      split
      · unfold decideFirst
        dsimp only
        split
        · refine .inl ⟨_, _, rfl, ?_⟩
          split <;> rfl
        next rows recorded =>
          exact .inr (.inr ⟨pending, _, found, undecided, running, recorded,
            rfl⟩)
      · exact .inl ⟨_, _, rfl, rfl⟩

/-- What one pass of a handler does. -/
theorem wake_cases (gate : ApprovalGate) (desk : ApprovalDesk)
    (request : ApprovalRequest) (attempt : StoreAttempt) :
    (∃ decision, gate.decisionOf request.callId.value = some decision ∧
      gate.wake desk request attempt = (some decision.outcome, gate, desk)) ∨
    (gate.decisionOf request.callId.value = none ∧
      gate.cancel = false ∧ gate.record.state = .running ∧
      gate.wake desk request attempt = (none, gate, desk)) ∨
    ∃ reason, gate.decisionOf request.callId.value = none ∧
      (gate.cancel = true ∧ reason = "run canceled" ∨
        gate.record.state ≠ .running ∧
          reason = "run is no longer active") ∧
      gate.wake desk request attempt =
        gate.deny desk request reason attempt := by
  unfold wake
  split
  next decision decided => exact .inl ⟨decision, decided, rfl⟩
  next undecided =>
    split
    next canceled =>
      exact .inr (.inr ⟨_, undecided, .inl ⟨canceled, rfl⟩, rfl⟩)
    next uncanceled =>
      split
      next halted => exact .inr (.inr ⟨_, undecided, .inr ⟨halted, rfl⟩, rfl⟩)
      next running =>
        exact .inr (.inl ⟨undecided, by simpa using uncanceled,
          by simpa using running, rfl⟩)

/-- What happens to a request that makes its handler wait. -/
theorem ask_eq_asked {shown : AppError → String} {request : ApprovalRequest}
    {threadYolo sessionYolo : Bool} {attempt : StoreAttempt}
    (asked : (gate.ask shown desk request threadYolo sessionYolo attempt).1 =
      .asked) :
    ∃ rows after, request.runId.value = gate.record.runId ∧
      persistApprovalRequest desk.toolCallApprovals gate.record.sessionId
        request attempt = .ok rows ∧
      after.record.runId = gate.record.runId ∧
      after.record.state = gate.record.state ∧ after.cancel = gate.cancel ∧
      after.approvals = gate.approvals.insert request.callId.value
        ⟨gate.record.sessionId, request, none⟩ ∧
      gate.ask shown desk request threadYolo sessionYolo attempt =
        (.asked, after, { desk with toolCallApprovals := rows }) := by
  unfold ask at asked ⊢
  split at asked
  · cases asked
  next sameRun =>
    split at asked
    · cases asked
    next uncanceled =>
      split at asked
      · cases asked
      next running =>
        split at asked
        · cases asked
        next noThreadYolo =>
          split at asked
          · cases asked
          next noSessionYolo =>
            split at asked
            · cases asked
            next noGrant =>
              split at asked
              · cases asked
              next rows persisted =>
                rw [if_neg sameRun, if_neg uncanceled, if_neg running,
                  if_neg noThreadYolo, if_neg noSessionYolo, if_neg noGrant,
                  persisted]
                refine ⟨rows, _, not_not.mp sameRun, rfl, ?_, ?_, ?_, ?_,
                  rfl⟩ <;> rfl

end ApprovalGate

end PlatoAgent
