import PlatoAgent.RunStateMachine
import PlatoAgent.HistoryReplay

/-!
# What one accepted event can do

`Transition` lists every arm of `apply_event` with its guards, and
`applyEvent_ok_iff` proves that the imperative method succeeds exactly along
it.  All later invariants are derived from `Transition`; none of them unfolds
the method again.
-/

namespace PlatoAgent

namespace RunM

variable {First Second : Type}

@[simp]
theorem exec_pure (result : First) (state : RunState) :
    exec (pure result) state = (.ok result, state) :=
  rfl

@[simp]
theorem exec_bind (action : RunM First) (continuation : First → RunM Second)
    (state : RunState) :
    exec (action >>= continuation) state =
      match exec action state with
      | (.ok result, after) => exec (continuation result) after
      | (.error error, after) => (.error error, after) := by
  simp only [exec, ExceptT.run_bind, StateT.run_bind]
  rcases action.run.run state with ⟨_ | _, _⟩ <;> rfl

@[simp]
theorem exec_get (state : RunState) : exec get state = (.ok state, state) :=
  rfl

@[simp]
theorem exec_modify (update : RunState → RunState) (state : RunState) :
    exec (modify update) state = (.ok (), update state) :=
  rfl

@[simp]
theorem exec_throw (error : Error) (state : RunState) :
    exec (throw error : RunM First) state = (.error error, state) :=
  rfl

@[simp]
theorem exec_lift (check : Except Error First) (state : RunState) :
    exec (liftM check) state = (check, state) :=
  rfl

end RunM

/-- The phases in which a turn is over and the next context may be built. -/
def RunPhase.betweenTurns : RunPhase → Bool
  | .readyForContext | .turnConcluded | .policyDenied .. | .approvalDenied ..
  | .toolFailed .. => true
  | _ => false

namespace RunState

/-- The phase entered by a policy decision on the pending call. -/
def phaseAfterDecision (call : ToolCall) : PolicyDecision → RunPhase
  | .allow => .readyToExecuteTool call
  | .requireApproval reason => .awaitingApproval call reason
  | .deny reason => .policyDenied call.id reason

/-- The phase entered by a model response. -/
def phaseAfterResponse (turnId : TurnId) (proposals : List ToolProposal) :
    RunPhase :=
  if proposals.isEmpty then .turnConcluded
  else .awaitingToolCall turnId proposals

/-- The accepted transitions of `apply_event`, one constructor for each arm. -/
inductive Transition (state : RunState) : HarnessEvent → RunState → Prop where
  | runStarted (started : RunStartedEvent)
      (phase : state.phase = .notStarted)
      (idle : state.pendingCompactionTurnId = none) :
      Transition state (.runStarted started)
        { state with
          runId := some started.runId
          phase := .readyForContext }
  | contextBuilt (runId : RunId) (turnId : TurnId) (context : ContextPack)
      (between : state.phase.betweenTurns = true)
      (gate : ∀ expected, state.pendingCompactionTurnId = some expected →
        expected = turnId)
      (fresh : turnId ∉ state.usedTurnIds)
      (budget : context.validateBudget = .ok ()) :
      Transition state (.contextBuilt runId turnId context)
        { state with
          usedTurnIds := insert turnId state.usedTurnIds
          pendingCompactionTurnId := none
          phase := .readyToRequestModel turnId state.nextModelStep context }
  | contextCompacted (runId : RunId) (turnId : TurnId)
      (tokensBefore tokensAfter : UInt32) (start endExclusive : UInt64)
      (between : state.phase.betweenTurns = true)
      (idle : state.pendingCompactionTurnId = none)
      (range : start < endExclusive)
      (fresh : turnId ∉ state.usedTurnIds) :
      Transition state
        (.contextCompacted runId turnId tokensBefore tokensAfter start
          endExclusive)
        { state with pendingCompactionTurnId := some turnId }
  | modelRequested (runId : RunId) (turnId : TurnId) (step : UInt32)
      (context : ContextPack) (model : ModelName)
      (phase : state.phase = .readyToRequestModel turnId step context)
      (idle : state.pendingCompactionTurnId = none) :
      Transition state (.modelRequested runId turnId step model)
        { state with phase := .awaitingModelResponse turnId step context }
  | modelFailed (runId : RunId) (turnId : TurnId) (step : UInt32)
      (context : ContextPack) (reason : String)
      (phase : state.phase = .awaitingModelResponse turnId step context)
      (idle : state.pendingCompactionTurnId = none) :
      Transition state (.modelFailed runId turnId step reason)
        { state with phase := .readyToRequestModel turnId step context }
  | modelResponded (runId : RunId) (turnId : TurnId) (step : UInt32)
      (context : ContextPack) (output : Message)
      (proposedCalls : List ToolProposal) (servedModel : Option ModelName)
      (usage : Option ModelUsage)
      (phase : state.phase = .awaitingModelResponse turnId step context)
      (idle : state.pendingCompactionTurnId = none) :
      Transition state
        (.modelResponded runId turnId step output proposedCalls servedModel
          usage)
        { state with
          nextModelStep := state.nextModelStep + 1
          phase := phaseAfterResponse turnId proposedCalls }
  | toolCallProposed (runId : RunId) (turnId : TurnId) (call : ToolCall)
      (proposals : List ToolProposal)
      (phase : state.phase = .awaitingToolCall turnId proposals)
      (idle : state.pendingCompactionTurnId = none)
      (proposed : matchesProposal proposals call = true)
      (fresh : call.id ∉ state.usedToolCallIds) :
      Transition state (.toolCallProposed runId turnId call)
        { state with
          usedToolCallIds := insert call.id state.usedToolCallIds
          phase := .awaitingPolicy call }
  | toolProposalsRejected (runId : RunId) (turnId : TurnId) (reason : String)
      (proposals : List ToolProposal)
      (phase : state.phase = .awaitingToolCall turnId proposals)
      (idle : state.pendingCompactionTurnId = none)
      (nonblank : trimIsEmpty reason = false) :
      Transition state (.toolProposalsRejected runId turnId reason)
        { state with phase := .turnConcluded }
  | policyEvaluated (runId : RunId) (call : ToolCall)
      (decision : PolicyDecision)
      (phase : state.phase = .awaitingPolicy call)
      (idle : state.pendingCompactionTurnId = none) :
      Transition state (.policyEvaluated runId call.id decision)
        { state with phase := phaseAfterDecision call decision }
  | approvalGranted (runId : RunId) (call : ToolCall) (reason : String)
      (actorId : ActorId)
      (phase : state.phase = .awaitingApproval call reason)
      (idle : state.pendingCompactionTurnId = none) :
      Transition state (.approvalGranted runId call.id actorId)
        { state with phase := .readyToExecuteTool call }
  | approvalDenied (runId : RunId) (call : ToolCall) (asked reason : String)
      (actorId : ActorId)
      (phase : state.phase = .awaitingApproval call asked)
      (idle : state.pendingCompactionTurnId = none) :
      Transition state (.approvalDenied runId call.id actorId reason)
        { state with phase := .approvalDenied call.id reason }
  | toolStarted (runId : RunId) (call : ToolCall)
      (phase : state.phase = .readyToExecuteTool call)
      (idle : state.pendingCompactionTurnId = none) :
      Transition state (.toolStarted runId call.id)
        { state with phase := .toolRunning call.id }
  | toolFinished (runId : RunId) (result : ToolResult)
      (phase : state.phase = .toolRunning result.callId)
      (idle : state.pendingCompactionTurnId = none) :
      Transition state (.toolFinished runId result)
        { state with phase := .turnConcluded }
  | toolFailed (runId : RunId) (callId : ToolCallId) (reason : String)
      (phase : state.phase = .toolRunning callId)
      (idle : state.pendingCompactionTurnId = none) :
      Transition state (.toolFailed runId callId reason)
        { state with phase := .toolFailed callId reason }
  | runFinished (runId : RunId)
      (phase : state.phase = .turnConcluded)
      (idle : state.pendingCompactionTurnId = none) :
      Transition state (.runFinished runId)
        { state with phase := .finished }
  | runFailed (runId : RunId) (reason : String)
      (started : state.phase.canFail = true) :
      Transition state (.runFailed runId reason)
        { state with
          pendingCompactionTurnId := none
          phase := .failed reason }

/-- The verdict of running a method of the state machine: success only along a
transition, failure only without a write. -/
def Verdict (state : RunState) (event : HarnessEvent) :
    Except Error Unit × RunState → Prop
  | (.ok (), after) => Transition state event after
  | (.error _, after) => after = state

/-- While a compacted turn is pending, only its context and a failure pass. -/
def GateOpen (state : RunState) (event : HarnessEvent) : Prop :=
  ∀ expected, state.pendingCompactionTurnId = some expected →
    (∃ runId context, event = .contextBuilt runId expected context) ∨
      ∃ runId reason, event = .runFailed runId reason

theorem compactionGate_exec (event : HarnessEvent) (state : RunState) :
    ∃ result, (compactionGate event).exec state = (result, state) ∧
      (result = .ok () ↔ GateOpen state event) := by
  unfold GateOpen
  cases pending : state.pendingCompactionTurnId with
  | none => exact ⟨.ok (), by simp [compactionGate, pending], by simp⟩
  | some expected =>
      cases event with
      | contextBuilt runId turnId context =>
          refine ⟨ensureTurn expected turnId,
            by simp [compactionGate, pending], ?_⟩
          simp only [ensureTurn, ensure_ok_iff]
          simp [eq_comm]
      | runFailed runId reason =>
          exact ⟨.ok (), by simp [compactionGate, pending], by simp⟩
      | _ =>
          exact ⟨_, by simp [compactionGate, pending]; rfl, by simp⟩

theorem GateOpen.idle {state : RunState} {event : HarnessEvent}
    (gate : GateOpen state event)
    (notBuilt : ∀ runId turnId context, event ≠ .contextBuilt runId turnId context)
    (notFailed : ∀ runId reason, event ≠ .runFailed runId reason) :
    state.pendingCompactionTurnId = none := by
  cases pending : state.pendingCompactionTurnId with
  | none => rfl
  | some expected =>
      rcases gate expected pending with ⟨runId, context, built⟩ | ⟨runId, reason, failed⟩
      · exact absurd built (notBuilt runId expected context)
      · exact absurd failed (notFailed runId reason)

theorem Verdict.ofCheck {state : RunState} {event : HarnessEvent}
    {check : Except Error Unit} {rest : Unit → RunM Unit}
    (passed : check = .ok () → Verdict state event ((rest ()).exec state)) :
    Verdict state event (RunM.exec (liftM check >>= rest) state) := by
  cases check with
  | error error => simp [Verdict]
  | ok result => simpa using passed rfl

theorem Verdict.ofGet {state : RunState} {event : HarnessEvent}
    {rest : RunState → RunM Unit}
    (continued : Verdict state event ((rest state).exec state)) :
    Verdict state event (RunM.exec (get >>= rest) state) := by
  simpa using continued

theorem contextBuilt_verdict {runId : RunId} {turnId : TurnId}
    {context : ContextPack} {state : RunState}
    (between : state.phase.betweenTurns = true)
    (gate : GateOpen state (.contextBuilt runId turnId context)) :
    Verdict state (.contextBuilt runId turnId context)
      (RunM.exec (do
        startTurn turnId context
        modify fun state => { state with pendingCompactionTurnId := none })
        state) := by
  simp only [startTurn, bind_assoc]
  refine Verdict.ofGet (Verdict.ofCheck fun fresh =>
    Verdict.ofCheck fun budget => ?_)
  simp only [ensureNewTurn, ensure_ok_iff] at fresh
  have sameTurn : ∀ expected, state.pendingCompactionTurnId = some expected →
      expected = turnId := by
    intro expected pending
    simpa [eq_comm] using gate expected pending
  simpa [Verdict, setPhase] using
    Transition.contextBuilt runId turnId context between sameTurn fresh budget

theorem contextCompacted_verdict {runId : RunId} {turnId : TurnId}
    {tokensBefore tokensAfter : UInt32} {start endExclusive : UInt64}
    {state : RunState} (between : state.phase.betweenTurns = true)
    (idle : state.pendingCompactionTurnId = none) :
    Verdict state
      (.contextCompacted runId turnId tokensBefore tokensAfter start
        endExclusive)
      (RunM.exec (do
        ensureCompactionRange start endExclusive
        ensureNewTurn (← get).usedTurnIds turnId
        modify fun state => { state with pendingCompactionTurnId := some turnId })
        state) := by
  refine Verdict.ofCheck fun range =>
    Verdict.ofGet (Verdict.ofCheck fun fresh => ?_)
  simp only [ensureCompactionRange, ensureNewTurn, ensure_ok_iff] at range fresh
  exact .contextCompacted runId turnId tokensBefore tokensAfter start
    endExclusive between idle range fresh

/-- Checks precede writes in every arm: under an open gate the phase match
either follows a transition or leaves the state as it found it. -/
theorem applyInPhase_verdict (event : HarnessEvent) (state : RunState)
    (gate : GateOpen state event) :
    Verdict state event ((applyInPhase state.phase event).exec state) := by
  cases event with
  | runStarted started =>
      have idle := gate.idle (by simp) (by simp)
      cases phaseEq : state.phase with
      | notStarted => exact .runStarted started phaseEq idle
      | _ => rfl
  | contextBuilt runId turnId context =>
      cases phaseEq : state.phase with
      | readyForContext | turnConcluded | policyDenied | approvalDenied
      | toolFailed =>
          exact contextBuilt_verdict (by simp [phaseEq, RunPhase.betweenTurns]) gate
      | _ => rfl
  | contextCompacted runId turnId tokensBefore tokensAfter start endExclusive =>
      have idle := gate.idle (by simp) (by simp)
      cases phaseEq : state.phase with
      | readyForContext | turnConcluded | policyDenied | approvalDenied
      | toolFailed =>
          exact contextCompacted_verdict
            (by simp [phaseEq, RunPhase.betweenTurns]) idle
      | _ => rfl
  | modelRequested runId actualTurnId actualStep model =>
      have idle := gate.idle (by simp) (by simp)
      cases phaseEq : state.phase with
      | readyToRequestModel turnId step context =>
          refine Verdict.ofCheck fun sameTurn =>
            Verdict.ofCheck fun sameStep => ?_
          simp only [ensureTurn, ensureStep, ensure_ok_iff] at sameTurn sameStep
          subst sameTurn sameStep
          exact .modelRequested runId turnId step context model phaseEq idle
      | _ => rfl
  | modelFailed runId actualTurnId actualStep reason =>
      have idle := gate.idle (by simp) (by simp)
      cases phaseEq : state.phase with
      | awaitingModelResponse turnId step context =>
          refine Verdict.ofCheck fun sameTurn =>
            Verdict.ofCheck fun sameStep => ?_
          simp only [ensureTurn, ensureStep, ensure_ok_iff] at sameTurn sameStep
          subst sameTurn sameStep
          exact .modelFailed runId turnId step context reason phaseEq idle
      | _ => rfl
  | modelResponded runId actualTurnId actualStep output proposedCalls
      servedModel usage =>
      have idle := gate.idle (by simp) (by simp)
      cases phaseEq : state.phase with
      | awaitingModelResponse turnId step context =>
          refine Verdict.ofCheck fun sameTurn =>
            Verdict.ofCheck fun sameStep => ?_
          simp only [ensureTurn, ensureStep, ensure_ok_iff] at sameTurn sameStep
          subst sameTurn sameStep
          exact .modelResponded runId turnId step context output proposedCalls
            servedModel usage phaseEq idle
      | _ => rfl
  | toolProposalsRejected runId actualTurnId reason =>
      have idle := gate.idle (by simp) (by simp)
      cases phaseEq : state.phase with
      | awaitingToolCall turnId proposals =>
          refine Verdict.ofCheck fun sameTurn =>
            Verdict.ofCheck fun nonblank => ?_
          simp only [ensureTurn, ensureToolProposalsRejectionReason,
            ensure_ok_iff] at sameTurn nonblank
          subst sameTurn
          exact .toolProposalsRejected runId turnId reason proposals phaseEq idle
            nonblank
      | _ => rfl
  | toolCallProposed runId actualTurnId call =>
      have idle := gate.idle (by simp) (by simp)
      cases phaseEq : state.phase with
      | awaitingToolCall turnId proposals =>
          refine Verdict.ofCheck fun sameTurn =>
            Verdict.ofCheck fun proposed =>
              Verdict.ofGet (Verdict.ofCheck fun fresh => ?_)
          simp only [ensureTurn, ensureProposed, ensureNewToolCall,
            ensure_ok_iff] at sameTurn proposed fresh
          subst sameTurn
          exact .toolCallProposed runId turnId call proposals phaseEq idle
            proposed fresh
      | _ => rfl
  | policyEvaluated runId callId decision =>
      have idle := gate.idle (by simp) (by simp)
      cases phaseEq : state.phase with
      | awaitingPolicy call =>
          refine Verdict.ofCheck fun sameCall => ?_
          simp only [ensureCall, ensure_ok_iff] at sameCall
          subst sameCall
          cases decision <;> exact .policyEvaluated runId call _ phaseEq idle
      | _ => rfl
  | approvalGranted runId callId actorId =>
      have idle := gate.idle (by simp) (by simp)
      cases phaseEq : state.phase with
      | awaitingApproval call reason =>
          refine Verdict.ofCheck fun sameCall => ?_
          simp only [ensureCall, ensure_ok_iff] at sameCall
          subst sameCall
          exact .approvalGranted runId call reason actorId phaseEq idle
      | _ => rfl
  | approvalDenied runId callId actorId reason =>
      have idle := gate.idle (by simp) (by simp)
      cases phaseEq : state.phase with
      | awaitingApproval call asked =>
          refine Verdict.ofCheck fun sameCall => ?_
          simp only [ensureCall, ensure_ok_iff] at sameCall
          subst sameCall
          exact .approvalDenied runId call asked reason actorId phaseEq idle
      | _ => rfl
  | toolStarted runId callId =>
      have idle := gate.idle (by simp) (by simp)
      cases phaseEq : state.phase with
      | readyToExecuteTool call =>
          refine Verdict.ofCheck fun sameCall => ?_
          simp only [ensureCall, ensure_ok_iff] at sameCall
          subst sameCall
          exact .toolStarted runId call phaseEq idle
      | _ => rfl
  | toolFinished runId result =>
      have idle := gate.idle (by simp) (by simp)
      cases phaseEq : state.phase with
      | toolRunning callId =>
          refine Verdict.ofCheck fun sameCall => ?_
          simp only [ensureCall, ensure_ok_iff] at sameCall
          subst sameCall
          exact .toolFinished runId result phaseEq idle
      | _ => rfl
  | toolFailed runId actualCallId reason =>
      have idle := gate.idle (by simp) (by simp)
      cases phaseEq : state.phase with
      | toolRunning callId =>
          refine Verdict.ofCheck fun sameCall => ?_
          simp only [ensureCall, ensure_ok_iff] at sameCall
          subst sameCall
          exact .toolFailed runId callId reason phaseEq idle
      | _ => rfl
  | runFinished runId =>
      have idle := gate.idle (by simp) (by simp)
      cases phaseEq : state.phase with
      | turnConcluded => exact .runFinished runId phaseEq idle
      | _ => rfl
  | runFailed runId reason =>
      cases phaseEq : state.phase with
      | notStarted | finished | failed => rfl
      | _ => exact .runFailed runId reason (by simp [phaseEq, RunPhase.canFail])

/-- A method of the run state machine follows a transition or writes
nothing. -/
theorem applyEvent_verdict (event : HarnessEvent) (state : RunState) :
    Verdict state event ((applyEvent event).exec state) := by
  obtain ⟨gateResult, gateExec, gateOk⟩ := compactionGate_exec event state
  cases gateResult with
  | error error => simp [applyEvent, gateExec, Verdict]
  | ok result =>
      have verdict := applyInPhase_verdict event state (gateOk.mp rfl)
      simpa [applyEvent, gateExec] using verdict

theorem exec_applyEvent_of_gate {state : RunState} {event : HarnessEvent}
    (gate : GateOpen state event) :
    (applyEvent event).exec state =
      (applyInPhase state.phase event).exec state := by
  obtain ⟨gateResult, gateExec, gateOk⟩ := compactionGate_exec event state
  obtain rfl := gateOk.mpr gate
  simp [applyEvent, gateExec]

theorem GateOpen.of_idle {state : RunState} {event : HarnessEvent}
    (idle : state.pendingCompactionTurnId = none) : GateOpen state event := by
  intro expected pending
  simp [idle] at pending

/-- Every listed transition is accepted. -/
theorem applyEvent_of_transition {state after : RunState}
    {event : HarnessEvent} (transition : Transition state event after) :
    (applyEvent event).exec state = (.ok (), after) := by
  cases transition with
  | contextBuilt runId turnId context between gate fresh budget =>
      have isOpen : GateOpen state (.contextBuilt runId turnId context) := by
        intro expected pending
        exact .inl ⟨runId, context, by rw [gate expected pending]⟩
      rw [exec_applyEvent_of_gate isOpen]
      cases phaseEq : state.phase with
      | readyForContext | turnConcluded | policyDenied | approvalDenied
      | toolFailed =>
          simp [applyInPhase, startTurn, setPhase, ensureNewTurn, ensure, fresh,
            budget]
      | _ => simp [phaseEq, RunPhase.betweenTurns] at between
  | contextCompacted runId turnId tokensBefore tokensAfter start endExclusive
      between idle range fresh =>
      rw [exec_applyEvent_of_gate (.of_idle idle)]
      cases phaseEq : state.phase with
      | readyForContext | turnConcluded | policyDenied | approvalDenied
      | toolFailed =>
          simp [applyInPhase, ensureCompactionRange, ensureNewTurn, ensure,
            fresh, range, phaseEq]
      | _ => simp [phaseEq, RunPhase.betweenTurns] at between
  | runFailed runId reason started =>
      have isOpen : GateOpen state (.runFailed runId reason) :=
        fun _ _ => .inr ⟨runId, reason, rfl⟩
      rw [exec_applyEvent_of_gate isOpen]
      cases phaseEq : state.phase with
      | notStarted | finished | failed =>
          simp [phaseEq, RunPhase.canFail] at started
      | _ => simp [applyInPhase, setPhase, RunPhase.canFail]
  | runStarted _ phase idle | runFinished _ phase idle =>
      rw [exec_applyEvent_of_gate (.of_idle idle), phase]
      simp [applyInPhase, setPhase]
  | modelRequested _ _ _ _ _ phase idle | modelFailed _ _ _ _ _ phase idle =>
      rw [exec_applyEvent_of_gate (.of_idle idle), phase]
      simp [applyInPhase, setPhase, ensureTurn, ensureStep, ensure]
  | modelResponded _ _ _ _ _ _ _ _ phase idle =>
      rw [exec_applyEvent_of_gate (.of_idle idle), phase]
      simp [applyInPhase, setPhase, ensureTurn, ensureStep, ensure,
        phaseAfterResponse]
  | toolCallProposed _ _ _ _ phase idle proposed fresh =>
      rw [exec_applyEvent_of_gate (.of_idle idle), phase]
      simp [applyInPhase, setPhase, ensureTurn, ensureProposed,
        ensureNewToolCall, ensure, proposed, fresh]
  | toolProposalsRejected _ _ _ _ phase idle nonblank =>
      rw [exec_applyEvent_of_gate (.of_idle idle), phase]
      simp [applyInPhase, setPhase, ensureTurn,
        ensureToolProposalsRejectionReason, ensure, nonblank]
  | policyEvaluated _ _ decision phase idle =>
      rw [exec_applyEvent_of_gate (.of_idle idle), phase]
      cases decision <;>
        simp [applyInPhase, setPhase, ensureCall, ensure, phaseAfterDecision]
  | approvalGranted _ _ _ _ phase idle | approvalDenied _ _ _ _ _ phase idle
  | toolStarted _ _ phase idle | toolFinished _ _ phase idle
  | toolFailed _ _ _ phase idle =>
      rw [exec_applyEvent_of_gate (.of_idle idle), phase]
      simp [applyInPhase, setPhase, ensureCall, ensure]

theorem applyEvent_ok_iff {state after : RunState} {event : HarnessEvent} :
    (applyEvent event).exec state = (.ok (), after) ↔
      Transition state event after := by
  constructor
  · intro accepted
    have verdict := applyEvent_verdict event state
    rwa [accepted] at verdict
  · exact applyEvent_of_transition

/-- The checks `apply` makes before it looks at the phase. -/
structure Admits (state : RunState) (record : RecordedEvent) : Prop where
  seq : record.seq = state.nextSeq
  runId : ∀ expected, state.runId = some expected →
    record.event.runId = expected

/-- The last write of `apply`. -/
def advance (state : RunState) : RunState :=
  { state with nextSeq := state.nextSeq + 1 }

@[simp] theorem advance_runId (state : RunState) :
    (advance state).runId = state.runId := rfl
@[simp] theorem advance_nextModelStep (state : RunState) :
    (advance state).nextModelStep = state.nextModelStep := rfl
@[simp] theorem advance_usedTurnIds (state : RunState) :
    (advance state).usedTurnIds = state.usedTurnIds := rfl
@[simp] theorem advance_usedToolCallIds (state : RunState) :
    (advance state).usedToolCallIds = state.usedToolCallIds := rfl
@[simp] theorem advance_pendingCompactionTurnId (state : RunState) :
    (advance state).pendingCompactionTurnId = state.pendingCompactionTurnId :=
  rfl
@[simp] theorem advance_phase (state : RunState) :
    (advance state).phase = state.phase := rfl

theorem apply_exec_of_admits {state : RunState} {record : RecordedEvent}
    (admits : Admits state record) :
    (apply record).exec state =
      match (applyEvent record.event).exec state with
      | (.ok _, after) => (.ok (), advance after)
      | (.error error, after) => (.error error, after) := by
  rcases exec : (applyEvent record.event).exec state with ⟨_ | _, after⟩ <;>
    cases bound : state.runId with
    | none => simp [apply, admits.seq, bound, exec, advance]
    | some expected =>
        simp [apply, admits.seq, bound, admits.runId expected bound, exec,
          advance]

theorem apply_exec_of_not_admits {state : RunState} {record : RecordedEvent}
    (refused : ¬ Admits state record) :
    ∃ error, (apply record).exec state = (.error error, state) := by
  by_cases seq : record.seq = state.nextSeq
  · cases bound : state.runId with
    | none => exact (refused ⟨seq, by simp [bound]⟩).elim
    | some expected =>
        have different : record.event.runId ≠ expected := by
          intro same
          exact refused ⟨seq, by simp [bound, same]⟩
        exact ⟨_, by simp [apply, seq, bound, different]; rfl⟩
  · exact ⟨_, by simp [apply, seq]; rfl⟩

/-- `apply` succeeds exactly along the transitions of admitted events. -/
theorem apply_ok_iff {state after : RunState} {record : RecordedEvent} :
    (apply record).exec state = (.ok (), after) ↔
      Admits state record ∧
        ∃ middle, Transition state record.event middle ∧
          after = advance middle := by
  by_cases admits : Admits state record
  · rw [apply_exec_of_admits admits]
    simp only [admits, true_and, ← applyEvent_ok_iff]
    rcases (applyEvent record.event).exec state with ⟨_ | _, middle⟩ <;>
      simp [eq_comm]
  · obtain ⟨error, refused⟩ := apply_exec_of_not_admits admits
    simp [refused, admits]

/-- A rejected record leaves the whole state as it was. -/
theorem apply_error_state {state after : RunState} {record : RecordedEvent}
    {error : Error}
    (rejected : (apply record).exec state = (.error error, after)) :
    after = state := by
  by_cases admits : Admits state record
  · have verdict := applyEvent_verdict record.event state
    rw [apply_exec_of_admits admits] at rejected
    rcases exec : (applyEvent record.event).exec state with ⟨_ | _, middle⟩ <;>
      rw [exec] at rejected verdict <;> simp at rejected
    exact rejected.2.symm.trans verdict
  · obtain ⟨_, refused⟩ := apply_exec_of_not_admits admits
    rw [refused] at rejected
    simp at rejected
    exact rejected.2.symm

theorem next_ok_iff {state after : RunState} {record : RecordedEvent} :
    next state record = .ok after ↔
      Admits state record ∧
        ∃ middle, Transition state record.event middle ∧
          after = advance middle := by
  rw [← apply_ok_iff]
  unfold next
  rcases (apply record).exec state with ⟨_ | _, middle⟩ <;> simp

/-- Replays an ordered ledger from the fresh state and stops at the first
rejected record. -/
def replay (ledger : List RecordedEvent) : Except Error RunState :=
  HistoryReplay.replayFrom next new ledger

/-- Number a list of events from sequence zero. -/
def recordAll (events : List HarnessEvent) : List RecordedEvent :=
  events.zipIdx.map fun (event, index) => ⟨UInt64.ofNat index, 0, event⟩

/-- The run of the sample ledgers. -/
def sampleRun : RunId :=
  ⟨"run-1", by decide⟩

/-- The turn of the sample ledgers. -/
def sampleTurn : TurnId :=
  ⟨"turn-1", by decide⟩

/-- The model of the sample ledgers. -/
def sampleModel : ModelName :=
  ⟨"model-1", by decide⟩

/-- The start of the sample ledgers. -/
def sampleStart : HarnessEvent :=
  .runStarted ⟨sampleRun, .legacyAgent ⟨"agent-1", by decide⟩⟩

/-- The ledger in the documentation of `RunState`: one tool turn that is
proposed, approved, executed and finished. -/
def toolTurnLedger : List RecordedEvent :=
  let callId : ToolCallId := ⟨"call-1", by decide⟩
  let tool : ToolName := ⟨"file.write", by decide⟩
  let input : Value :=
    .object [("content", .string "done"), ("path", .string "note.txt")]
  let call : ToolCall := ⟨callId, tool, .workspaceWrite, input⟩
  recordAll
    [sampleStart,
      .contextBuilt sampleRun sampleTurn ⟨10, []⟩,
      .modelRequested sampleRun sampleTurn 0 sampleModel,
      .modelResponded sampleRun sampleTurn 0
        ⟨.assistant, "I will write the file."⟩
        [⟨tool, input⟩] none (some ⟨3, 5⟩),
      .toolCallProposed sampleRun sampleTurn call,
      .policyEvaluated sampleRun callId (.requireApproval "workspace write"),
      .approvalGranted sampleRun callId ⟨"human-1", by decide⟩,
      .toolStarted sampleRun callId,
      .toolFinished sampleRun
        ⟨callId, "wrote note.txt", .object [], [], .both⟩,
      .runFinished sampleRun]

example : (replay toolTurnLedger).map (fun state => state.phase) = .ok .finished :=
  rfl

/-- The events of a ledger, without their ordering metadata. -/
def eventsOf (ledger : List RecordedEvent) : List HarnessEvent :=
  ledger.map RecordedEvent.event

@[simp]
theorem eventsOf_append (front back : List RecordedEvent) :
    eventsOf (front ++ back) = eventsOf front ++ eventsOf back :=
  List.map_append

/-- The invariant rule of accepted ledgers: a relation between the events so
far and the state they replay to survives every transition. -/
theorem invariant_of_transition
    (holds : List HarnessEvent → RunState → Prop)
    (initially : holds [] new)
    (preserved : ∀ events state event after, holds events state →
      Transition state event after → holds (events ++ [event]) (advance after))
    {ledger : List RecordedEvent} {state : RunState}
    (accepted : replay ledger = .ok state) :
    holds (eventsOf ledger) state := by
  refine HistoryReplay.invariant_of_step
    (fun ledger state => holds (eventsOf ledger) state) initially ?_ accepted
  intro history before record after _ holdsBefore stepped
  obtain ⟨_, middle, transition, rfl⟩ := next_ok_iff.mp stepped
  simpa [eventsOf] using
    preserved (eventsOf history) before record.event middle holdsBefore transition

/-- Every event of an accepted ledger was a transition from the state that the
events before it replay to. -/
theorem transition_at_event {ledger : List RecordedEvent} {state : RunState}
    {before after : List HarnessEvent} {event : HarnessEvent}
    (accepted : replay ledger = .ok state)
    (split : eventsOf ledger = before ++ event :: after) :
    ∃ front source target, eventsOf front = before ∧ front <+: ledger ∧
      replay front = .ok source ∧ Transition source event target := by
  obtain ⟨front, rest, rfl, frontEvents, restEvents⟩ :=
    List.map_eq_append_iff.mp split
  obtain ⟨record, back, rfl, rfl, _⟩ := List.map_eq_cons_iff.mp restEvents
  obtain ⟨source, frontAccepted, restAccepted⟩ :=
    HistoryReplay.replayFrom_append_ok_iff.mp accepted
  obtain ⟨middle, stepped, _⟩ :=
    HistoryReplay.replayFrom_cons_ok_iff.mp restAccepted
  obtain ⟨_, target, transition, _⟩ := next_ok_iff.mp stepped
  exact ⟨front, source, target, frontEvents, List.prefix_append _ _,
    frontAccepted, transition⟩

/-- The last event of an accepted ledger led to its state. -/
theorem transition_to_last {ledger : List RecordedEvent} {state : RunState}
    {before : List HarnessEvent} {event : HarnessEvent}
    (accepted : replay ledger = .ok state)
    (split : eventsOf ledger = before ++ [event]) :
    ∃ front source target, eventsOf front = before ∧
      replay front = .ok source ∧ Transition source event target ∧
      state = advance target := by
  obtain ⟨front, rest, rfl, frontEvents, restEvents⟩ :=
    List.map_eq_append_iff.mp split
  obtain ⟨record, back, rfl, rfl, backEvents⟩ :=
    List.map_eq_cons_iff.mp restEvents
  obtain rfl := List.map_eq_nil_iff.mp backEvents
  obtain ⟨source, frontAccepted, stepped⟩ :=
    HistoryReplay.replayFrom_concat_ok_iff.mp accepted
  obtain ⟨_, target, transition, rfl⟩ := next_ok_iff.mp stepped
  exact ⟨front, source, target, frontEvents, frontAccepted, transition, rfl⟩

theorem Transition.runId_kept {state after : RunState} {event : HarnessEvent}
    {bound : RunId} (transition : Transition state event after)
    (isBound : state.runId = some bound) (same : event.runId = bound) :
    after.runId = some bound := by
  cases transition with
  | runStarted started => exact congrArg some same
  | _ => exact isBound

theorem Transition.usedTurnIds_mono {state after : RunState}
    {event : HarnessEvent} (transition : Transition state event after) :
    state.usedTurnIds ⊆ after.usedTurnIds := by
  cases transition with
  | contextBuilt => exact Finset.subset_insert _ _
  | _ => exact Finset.Subset.refl _

theorem Transition.usedToolCallIds_mono {state after : RunState}
    {event : HarnessEvent} (transition : Transition state event after) :
    state.usedToolCallIds ⊆ after.usedToolCallIds := by
  cases transition with
  | toolCallProposed => exact Finset.subset_insert _ _
  | _ => exact Finset.Subset.refl _

theorem Transition.nextSeq_eq {state after : RunState} {event : HarnessEvent}
    (transition : Transition state event after) :
    after.nextSeq = state.nextSeq := by
  cases transition <;> rfl

/-- One call of `apply` is transactional on every state: an error keeps all
seven fields, success advances the sequence by one, keeps a bound run id and
only adds used ids. -/
theorem apply_transactional (state : RunState) (record : RecordedEvent) :
    match (apply record).exec state with
    | (.error _, after) =>
        after.runId = state.runId ∧ after.nextSeq = state.nextSeq ∧
          after.nextModelStep = state.nextModelStep ∧
          after.usedTurnIds = state.usedTurnIds ∧
          after.usedToolCallIds = state.usedToolCallIds ∧
          after.pendingCompactionTurnId = state.pendingCompactionTurnId ∧
          after.phase = state.phase
    | (.ok (), after) =>
        after.nextSeq = state.nextSeq + 1 ∧
          (∀ bound, state.runId = some bound → after.runId = some bound) ∧
          state.usedTurnIds ⊆ after.usedTurnIds ∧
          state.usedToolCallIds ⊆ after.usedToolCallIds := by
  rcases exec : (apply record).exec state with ⟨error | result, after⟩
  · obtain rfl := apply_error_state exec
    simp
  · obtain ⟨admits, middle, transition, rfl⟩ := apply_ok_iff.mp exec
    refine ⟨?_, ?_, transition.usedTurnIds_mono, transition.usedToolCallIds_mono⟩
    · simp [advance, transition.nextSeq_eq]
    · intro bound isBound
      exact transition.runId_kept isBound (admits.runId bound isBound)

end RunState

end PlatoAgent
