import PlatoAgent.RunStateTransition

/-!
# The history behind every phase

The phase of a run determines how its ledger ends.  `RunTrail` records that
link together with the meaning of the used-id sets and of the step counter; it
is preserved by every transition and therefore holds of every accepted ledger.
-/

namespace PlatoAgent

open HistoryReplay

namespace HarnessEvent

def contextTurn : HarnessEvent → Option TurnId
  | .contextBuilt _ turnId _ => some turnId
  | _ => none

/-- The turn and the proposals of a model response. -/
def response : HarnessEvent → Option (TurnId × List ToolProposal)
  | .modelResponded _ turnId _ _ proposedCalls _ _ =>
      some (turnId, proposedCalls)
  | _ => none

def proposedCallId : HarnessEvent → Option ToolCallId
  | .toolCallProposed _ _ call => some call.id
  | _ => none

def startedCallId : HarnessEvent → Option ToolCallId
  | .toolStarted _ callId => some callId
  | _ => none

/-- The call that a policy or an approver denied. -/
def deniedCallId : HarnessEvent → Option ToolCallId
  | .policyEvaluated _ callId (.deny _) => some callId
  | .approvalDenied _ callId _ _ => some callId
  | _ => none

end HarnessEvent

namespace RunHistory

open HarnessEvent RunState

/-- The number of model responses in a history. -/
def responseCount (events : List HarnessEvent) : Nat :=
  (observations response events).length

/-- The call is proposed by the last event, in the latest turn, and matches a
proposal of the latest model response. -/
def ProposedLast (events : List HarnessEvent) (call : ToolCall) : Prop :=
  ∃ earlier runId turnId proposals,
    events = earlier ++ [.toolCallProposed runId turnId call] ∧
      latest contextTurn earlier = some turnId ∧
      latest response earlier = some (turnId, proposals) ∧
      matchesProposal proposals call = true

/-- The policy and approval events that clear a call for execution. -/
inductive Clearance (callId : ToolCallId) : List HarnessEvent → Prop where
  | allowed (runId : RunId) :
      Clearance callId [.policyEvaluated runId callId .allow]
  | approved (policyRunId : RunId) (reason : String) (runId : RunId)
      (actorId : ActorId) :
      Clearance callId
        [.policyEvaluated policyRunId callId (.requireApproval reason),
          .approvalGranted runId callId actorId]

/-- The history ends with the proposal of the call and its clearance. -/
def ClearedLast (events : List HarnessEvent) (call : ToolCall) : Prop :=
  ∃ proposed clearance, events = proposed ++ clearance ∧
    ProposedLast proposed call ∧ Clearance call.id clearance

/-- How the ledger of a run in the given phase ends. -/
def PhaseTrail (events : List HarnessEvent) : RunPhase → Prop
  | .readyToRequestModel turnId step _
  | .awaitingModelResponse turnId step _ =>
      latest contextTurn events = some turnId ∧
        step = UInt32.ofNat (responseCount events)
  | .awaitingToolCall turnId proposals =>
      latest contextTurn events = some turnId ∧
        latest response events = some (turnId, proposals)
  | .awaitingPolicy call => ProposedLast events call
  | .awaitingApproval call reason =>
      ∃ proposed runId,
        events = proposed ++
          [.policyEvaluated runId call.id (.requireApproval reason)] ∧
        ProposedLast proposed call
  | .readyToExecuteTool call => ClearedLast events call
  | .toolRunning callId =>
      ∃ cleared runId call, events = cleared ++ [.toolStarted runId callId] ∧
        call.id = callId ∧ ClearedLast cleared call
  | _ => True

/-- What the ledger so far says about the state it replays to. -/
structure RunTrail (events : List HarnessEvent) (state : RunState) : Prop where
  turnIds : state.usedTurnIds = (observations contextTurn events).toFinset
  turnsNodup : (observations contextTurn events).Nodup
  callIds : state.usedToolCallIds = (observations proposedCallId events).toFinset
  callsNodup : (observations proposedCallId events).Nodup
  steps : state.nextModelStep = UInt32.ofNat (responseCount events)
  trail : PhaseTrail events state.phase

theorem PhaseTrail.concat {events : List HarnessEvent} {state after : RunState}
    {event : HarnessEvent} (holds : RunTrail events state)
    (transition : Transition state event after) :
    PhaseTrail (events ++ [event]) after.phase := by
  have trail := holds.trail
  cases transition with
  | contextBuilt runId turnId context =>
      simp [PhaseTrail, contextTurn, holds.steps, responseCount, response]
  | contextCompacted runId turnId _ _ _ _ between =>
      cases phaseEq : state.phase <;>
        simp [phaseEq, RunPhase.betweenTurns] at between <;>
        simp [PhaseTrail]
  | modelRequested runId turnId step context model phase
  | modelFailed runId turnId step context reason phase =>
      rw [phase] at trail
      simpa [PhaseTrail, contextTurn, responseCount, response] using trail
  | modelResponded runId turnId step context output proposedCalls served usage
      phase =>
      rw [phase] at trail
      simp only [phaseAfterResponse]
      split
      · trivial
      · exact ⟨by simpa [contextTurn] using trail.1, by simp [response]⟩
  | toolCallProposed runId turnId call proposals phase idle proposed =>
      rw [phase] at trail
      exact ⟨events, runId, turnId, proposals, rfl, trail.1, trail.2, proposed⟩
  | policyEvaluated runId call decision phase =>
      rw [phase] at trail
      cases decision with
      | allow => exact ⟨events, _, rfl, trail, .allowed runId⟩
      | requireApproval reason => exact ⟨events, runId, rfl, trail⟩
      | deny reason => trivial
  | approvalGranted runId call reason actorId phase =>
      rw [phase] at trail
      obtain ⟨proposed, policyRunId, rfl, proposedLast⟩ := trail
      exact ⟨proposed, _, List.append_assoc .., proposedLast,
        .approved policyRunId reason runId actorId⟩
  | toolStarted runId call phase =>
      rw [phase] at trail
      exact ⟨events, runId, call, rfl, rfl, trail⟩
  | _ => trivial

theorem RunTrail.concat {events : List HarnessEvent} {state after : RunState}
    {event : HarnessEvent} (holds : RunTrail events state)
    (transition : Transition state event after) :
    RunTrail (events ++ [event]) (advance after) := by
  have trail := PhaseTrail.concat holds transition
  obtain ⟨turnIds, turnsNodup, callIds, callsNodup, steps, _⟩ := holds
  cases transition with
  | contextBuilt runId turnId context between gate fresh =>
      have unseen : turnId ∉ observations contextTurn events := by
        simpa [turnIds] using fresh
      refine ⟨?_, ?_, ?_, ?_, ?_, trail⟩
      · ext used
        simp [turnIds, contextTurn]
      · simp [contextTurn, List.nodup_append, turnsNodup]
        exact fun used member same => unseen (same ▸ member)
      all_goals simpa [proposedCallId, responseCount, response]
  | toolCallProposed runId turnId call proposals phase idle proposed fresh =>
      have unseen : call.id ∉ observations proposedCallId events := by
        simpa [callIds] using fresh
      refine ⟨?_, ?_, ?_, ?_, ?_, trail⟩
      · simpa [contextTurn]
      · simpa [contextTurn]
      · ext used
        simp [callIds, proposedCallId]
      · simp [proposedCallId, List.nodup_append, callsNodup]
        exact fun used member same => unseen (same ▸ member)
      · simpa [responseCount, response]
  | modelResponded =>
      refine ⟨?_, ?_, ?_, ?_, ?_, trail⟩
      case refine_5 => simp [steps, responseCount, response]
      all_goals simpa [contextTurn, proposedCallId]
  | _ =>
      refine ⟨?_, ?_, ?_, ?_, ?_, trail⟩ <;>
        simpa [contextTurn, proposedCallId, responseCount, response]

/-- Every accepted ledger is the trail of the state it replays to. -/
theorem runTrail_of_replay {ledger : List RecordedEvent} {state : RunState}
    (accepted : replay ledger = .ok state) :
    RunTrail (eventsOf ledger) state := by
  refine invariant_of_transition RunTrail ?_ ?_ accepted
  · exact ⟨rfl, List.nodup_nil, rfl, List.nodup_nil, rfl, trivial⟩
  · intro events before event after holds transition
    exact holds.concat transition

end RunHistory

end PlatoAgent
