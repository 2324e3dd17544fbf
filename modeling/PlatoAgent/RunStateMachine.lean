import PlatoAgent.CoreEvents

/-!
# The run state machine

`RunState` is the state derived by replaying one run's ledger.  `apply` is
written in the order of the Rust method: it reads and writes one mutable state
and may fail between two writes, so that "a rejected event leaves the state
unchanged" is a theorem about the code and not a consequence of its type.
-/

namespace PlatoAgent

/-- Current phase of one run. -/
inductive RunPhase where
  | notStarted
  | readyForContext
  | readyToRequestModel (turnId : TurnId) (step : UInt32) (context : ContextPack)
  | awaitingModelResponse (turnId : TurnId) (step : UInt32)
      (context : ContextPack)
  | awaitingToolCall (turnId : TurnId) (proposals : List ToolProposal)
  | awaitingPolicy (call : ToolCall)
  | awaitingApproval (call : ToolCall) (reason : String)
  | policyDenied (callId : ToolCallId) (reason : String)
  | approvalDenied (callId : ToolCallId) (reason : String)
  | readyToExecuteTool (call : ToolCall)
  | toolRunning (callId : ToolCallId)
  | toolFailed (callId : ToolCallId) (reason : String)
  | turnConcluded
  | finished
  | failed (reason : String)
  deriving Repr

namespace RunPhase

def name : RunPhase → String
  | .notStarted => "not_started"
  | .readyForContext => "ready_for_context"
  | .readyToRequestModel .. => "ready_to_request_model"
  | .awaitingModelResponse .. => "awaiting_model_response"
  | .awaitingToolCall .. => "awaiting_tool_call"
  | .awaitingPolicy .. => "awaiting_policy"
  | .awaitingApproval .. => "awaiting_approval"
  | .policyDenied .. => "policy_denied"
  | .approvalDenied .. => "approval_denied"
  | .readyToExecuteTool .. => "ready_to_execute_tool"
  | .toolRunning .. => "tool_running"
  | .toolFailed .. => "tool_failed"
  | .turnConcluded => "turn_concluded"
  | .finished => "finished"
  | .failed .. => "failed"

/-- Only a started, nonterminal run can fail. -/
def canFail : RunPhase → Bool
  | .notStarted | .finished | .failed _ => false
  | _ => true

end RunPhase

/-- Host command requested by the run state machine. -/
inductive RunCommand where
  | requestModel (turnId : TurnId) (step : UInt32) (context : ContextPack)
  | awaitApproval (callId : ToolCallId) (reason : String)
  | executeTool (call : ToolCall)
  deriving Repr

/-- Durable state derived by replaying one run's ordered event ledger. -/
structure RunState where
  runId : Option RunId
  nextSeq : UInt64
  nextModelStep : UInt32
  usedTurnIds : Finset TurnId
  usedToolCallIds : Finset ToolCallId
  pendingCompactionTurnId : Option TurnId
  phase : RunPhase

/-- Computations of the `&mut self` methods: the state written so far survives
an error. -/
abbrev RunM := ExceptT Error (StateM RunState)

/-- Run a method on a state: its result and the state it leaves behind. -/
def RunM.exec {Result : Type} (action : RunM Result) (state : RunState) :
    Except Error Result × RunState :=
  action.run.run state

/-- A precondition check: the common shape of the `ensure_*` guards. -/
def ensure (condition : Prop) [Decidable condition] (error : Error) :
    Except Error Unit :=
  if condition then .ok () else .error error

@[simp]
theorem ensure_ok_iff {condition : Prop} [Decidable condition]
    {error : Error} {result : Unit} :
    ensure condition error = .ok result ↔ condition := by
  unfold ensure
  split <;> simp_all

def ensureTurn (expected actual : TurnId) : Except Error Unit :=
  ensure (expected = actual) (.turnMismatch expected.value actual.value)

def ensureNewTurn (usedTurnIds : Finset TurnId) (actual : TurnId) :
    Except Error Unit :=
  ensure (actual ∉ usedTurnIds) (.turnReused actual.value)

def ensureToolProposalsRejectionReason (reason : String) : Except Error Unit :=
  ensure (trimIsEmpty reason = false) .emptyToolProposalsRejectionReason

def ensureCompactionRange (start endExclusive : UInt64) : Except Error Unit :=
  ensure (start < endExclusive) (.invalidCompactionRange start endExclusive)

def ensureStep (expected actual : UInt32) : Except Error Unit :=
  ensure (expected = actual) (.stepMismatch expected actual)

def ensureCall (expected actual : ToolCallId) : Except Error Unit :=
  ensure (expected = actual) (.toolCallMismatch expected.value actual.value)

def ensureNewToolCall (usedToolCallIds : Finset ToolCallId)
    (actual : ToolCallId) : Except Error Unit :=
  ensure (actual ∉ usedToolCallIds) (.toolCallReused actual.value)

/-- The call's tool and input are those of a pending proposal. -/
def matchesProposal (proposals : List ToolProposal) (call : ToolCall) : Bool :=
  proposals.any fun proposal =>
    proposal.tool == call.tool && proposal.input == call.input

def ensureProposed (proposals : List ToolProposal) (call : ToolCall) :
    Except Error Unit :=
  ensure (matchesProposal proposals call = true) .unproposedToolCall

def invalid (phase : RunPhase) (event : HarnessEvent) : Error :=
  .invalidTransition phase.name event.name

namespace RunState

/-- An unbound state expecting sequence zero and `run_started`. -/
def new : RunState where
  runId := none
  nextSeq := 0
  nextModelStep := 0
  usedTurnIds := ∅
  usedToolCallIds := ∅
  pendingCompactionTurnId := none
  phase := .notStarted

/-- Derives the pending host command without mutating run state. -/
def pendingCommand (state : RunState) : Option RunCommand :=
  match state.phase with
  | .readyToRequestModel turnId step context =>
      some (.requestModel turnId step context)
  | .awaitingApproval call reason => some (.awaitApproval call.id reason)
  | .readyToExecuteTool call => some (.executeTool call)
  | _ => none

def setPhase (phase : RunPhase) : RunM Unit :=
  modify fun state => { state with phase := phase }

def startTurn (turnId : TurnId) (context : ContextPack) : RunM Unit := do
  ensureNewTurn (← get).usedTurnIds turnId
  context.validateBudget
  modify fun state =>
    { state with usedTurnIds := insert turnId state.usedTurnIds }
  setPhase (.readyToRequestModel turnId (← get).nextModelStep context)

/-- The check made before the phase match while a compacted turn is pending. -/
def compactionGate (event : HarnessEvent) : RunM Unit := do
  let state ← get
  match state.pendingCompactionTurnId with
  | none => pure ()
  | some expectedTurnId =>
      match event with
      | .contextBuilt _ turnId _ => ensureTurn expectedTurnId turnId
      | .runFailed .. => pure ()
      | _ => throw (invalid state.phase event)

/-- The match on the phase and the event, with one arm for each accepted
pair. -/
def applyInPhase (phase : RunPhase) (event : HarnessEvent) : RunM Unit :=
  match phase, event with
  | .notStarted, .runStarted started => do
      modify fun state => { state with runId := some started.runId }
      setPhase .readyForContext
  | .readyForContext, .contextBuilt _ turnId context
  | .turnConcluded, .contextBuilt _ turnId context
  | .policyDenied .., .contextBuilt _ turnId context
  | .approvalDenied .., .contextBuilt _ turnId context
  | .toolFailed .., .contextBuilt _ turnId context => do
      startTurn turnId context
      modify fun state => { state with pendingCompactionTurnId := none }
  | .readyForContext, .contextCompacted _ turnId _ _ start endExclusive
  | .turnConcluded, .contextCompacted _ turnId _ _ start endExclusive
  | .policyDenied .., .contextCompacted _ turnId _ _ start endExclusive
  | .approvalDenied .., .contextCompacted _ turnId _ _ start endExclusive
  | .toolFailed .., .contextCompacted _ turnId _ _ start endExclusive => do
      ensureCompactionRange start endExclusive
      ensureNewTurn (← get).usedTurnIds turnId
      modify fun state => { state with pendingCompactionTurnId := some turnId }
  | .readyToRequestModel turnId step context,
      .modelRequested _ actualTurnId actualStep _ => do
      ensureTurn turnId actualTurnId
      ensureStep step actualStep
      setPhase (.awaitingModelResponse turnId step context)
  | .awaitingModelResponse turnId step context,
      .modelFailed _ actualTurnId actualStep _ => do
      ensureTurn turnId actualTurnId
      ensureStep step actualStep
      setPhase (.readyToRequestModel turnId step context)
  | .awaitingModelResponse turnId step _,
      .modelResponded _ actualTurnId actualStep _ proposedCalls _ _ => do
      ensureTurn turnId actualTurnId
      ensureStep step actualStep
      modify fun state =>
        { state with nextModelStep := state.nextModelStep + 1 }
      setPhase (if proposedCalls.isEmpty then .turnConcluded
        else .awaitingToolCall turnId proposedCalls)
  | .awaitingToolCall turnId proposals,
      .toolCallProposed _ actualTurnId call => do
      ensureTurn turnId actualTurnId
      ensureProposed proposals call
      ensureNewToolCall (← get).usedToolCallIds call.id
      modify fun state =>
        { state with usedToolCallIds := insert call.id state.usedToolCallIds }
      setPhase (.awaitingPolicy call)
  | .awaitingToolCall turnId _, .toolProposalsRejected _ actualTurnId reason => do
      ensureTurn turnId actualTurnId
      ensureToolProposalsRejectionReason reason
      setPhase .turnConcluded
  | .awaitingPolicy call, .policyEvaluated _ callId decision => do
      ensureCall call.id callId
      match decision with
      | .allow => setPhase (.readyToExecuteTool call)
      | .requireApproval reason => setPhase (.awaitingApproval call reason)
      | .deny reason => setPhase (.policyDenied call.id reason)
  | .awaitingApproval call _, .approvalGranted _ callId _ => do
      ensureCall call.id callId
      setPhase (.readyToExecuteTool call)
  | .awaitingApproval call _, .approvalDenied _ callId _ reason => do
      ensureCall call.id callId
      setPhase (.approvalDenied call.id reason)
  | .readyToExecuteTool call, .toolStarted _ callId => do
      ensureCall call.id callId
      setPhase (.toolRunning call.id)
  | .toolRunning callId, .toolFinished _ result => do
      ensureCall callId result.callId
      setPhase .turnConcluded
  | .toolRunning callId, .toolFailed _ actualCallId reason => do
      ensureCall callId actualCallId
      setPhase (.toolFailed callId reason)
  | .turnConcluded, .runFinished _ => setPhase .finished
  | phase, .runFailed runId reason =>
      if phase.canFail then do
        modify fun state => { state with pendingCompactionTurnId := none }
        setPhase (.failed reason)
      else
        throw (invalid phase (.runFailed runId reason))
  | phase, event => throw (invalid phase event)

def applyEvent (event : HarnessEvent) : RunM Unit := do
  compactionGate event
  applyInPhase (← get).phase event

/-- Validates and applies one event, advancing the sequence only on success. -/
def apply (record : RecordedEvent) : RunM Unit := do
  let state ← get
  if record.seq ≠ state.nextSeq then
    throw (.sequenceMismatch state.nextSeq record.seq)
  match state.runId with
  | some expected =>
      if record.event.runId ≠ expected then
        throw (.runIdMismatch expected.value record.event.runId.value)
  | none => pure ()
  applyEvent record.event
  modify fun state => { state with nextSeq := state.nextSeq + 1 }

/-- The state after one accepted record, as the callers of `apply(..)?` see
it. -/
def next (state : RunState) (record : RecordedEvent) : Except Error RunState :=
  match (apply record).exec state with
  | (.ok (), after) => .ok after
  | (.error error, _) => .error error

end RunState

end PlatoAgent
