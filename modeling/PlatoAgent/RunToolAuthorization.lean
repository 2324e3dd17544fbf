import PlatoAgent.RunHistory

/-!
# No tool runs without its proposal and clearance

Every recorded tool start is preceded by the only proposal of its call, made in
the latest turn for a proposal of the latest model response, and by a policy
allowance or a granted approval.  A started call is never denied, before or
after, and the command to execute a call is pending only with that history.
-/

namespace PlatoAgent

namespace RunHistory

open HistoryReplay HarnessEvent RunState

/-- The call of the given id may execute: policy allowed it, or policy asked
for an approval that was granted later. -/
def Clears (callId : ToolCallId) (between : List HarnessEvent) : Prop :=
  (∃ runId, .policyEvaluated runId callId .allow ∈ between) ∨
    ∃ front middle back policyRunId reason runId actorId,
      between = front ++
        .policyEvaluated policyRunId callId (.requireApproval reason) ::
          (middle ++ .approvalGranted runId callId actorId :: back)

def Authorized (history : List HarnessEvent) (call : ToolCall) : Prop :=
  ∃ earlier between runId turnId proposals,
    history = earlier ++ .toolCallProposed runId turnId call :: between ∧
      latest contextTurn history = some turnId ∧
      latest response history = some (turnId, proposals) ∧
      (∃ proposal ∈ proposals, proposal.tool = call.tool ∧
        (proposal.input == call.input) = true) ∧
      Clears call.id between

theorem Clearance.clears {callId : ToolCallId} {events : List HarnessEvent}
    (clearance : Clearance callId events) : Clears callId events := by
  cases clearance with
  | allowed runId => exact .inl ⟨runId, by simp⟩
  | approved policyRunId reason runId actorId =>
      exact .inr ⟨[], [], [], policyRunId, reason, runId, actorId, rfl⟩

theorem Clearance.silent {callId : ToolCallId} {events : List HarnessEvent}
    (clearance : Clearance callId events) :
    ∀ event ∈ events, contextTurn event = none ∧ response event = none := by
  cases clearance <;> simp [contextTurn, response]

theorem ClearedLast.authorized {events : List HarnessEvent} {call : ToolCall}
    (cleared : ClearedLast events call) : Authorized events call := by
  obtain ⟨_, clearance, rfl, ⟨earlier, runId, turnId, proposals, rfl,
    latestTurn, latestResponse, proposed⟩, clears⟩ := cleared
  have silent := clears.silent
  refine ⟨earlier, clearance, runId, turnId, proposals, by simp, ?_, ?_, ?_,
    clears.clears⟩
  · rw [latest_append_of_silent fun event member => (silent event member).1]
    simpa [contextTurn] using latestTurn
  · rw [latest_append_of_silent fun event member => (silent event member).2]
    simpa [response] using latestResponse
  · obtain ⟨proposal, member, same⟩ := List.any_eq_true.mp proposed
    have both : proposal.tool = call.tool ∧
        (proposal.input == call.input) = true := by simpa using same
    exact ⟨proposal, member, both⟩

/-- The call that a phase still holds back or may execute. -/
def pendingCall : RunPhase → Option ToolCall
  | .awaitingPolicy call => some call
  | .awaitingApproval call _ => some call
  | .readyToExecuteTool call => some call
  | _ => none

/-- Only the pending call can be started or denied, and never both at once. -/
theorem pendingCall_of_outcome {state after : RunState} {event : HarnessEvent}
    {callId : ToolCallId} (transition : Transition state event after)
    (outcome : startedCallId event = some callId ∨
      deniedCallId event = some callId) :
    (∃ call, pendingCall state.phase = some call ∧ call.id = callId) ∧
      pendingCall after.phase = none ∧
      ¬ (startedCallId event = some callId ∧ deniedCallId event = some callId) := by
  cases transition with
  | policyEvaluated runId call decision phase =>
      cases decision with
      | deny reason =>
          have same : call.id = callId := by
            simpa [startedCallId, deniedCallId] using outcome
          exact ⟨⟨call, by simp [phase, pendingCall], same⟩, rfl,
            by simp [startedCallId]⟩
      | _ => simp [startedCallId, deniedCallId] at outcome
  | approvalDenied runId call asked reason actorId phase =>
      have same : call.id = callId := by
        simpa [startedCallId, deniedCallId] using outcome
      exact ⟨⟨call, by simp [phase, pendingCall], same⟩, rfl,
        by simp [startedCallId]⟩
  | toolStarted runId call phase =>
      have same : call.id = callId := by
        simpa [startedCallId, deniedCallId] using outcome
      exact ⟨⟨call, by simp [phase, pendingCall], same⟩, rfl,
        by simp [deniedCallId]⟩
  | _ => simp [startedCallId, deniedCallId] at outcome

/-- A call becomes pending by a proposal under a new id and stays pending
without a start or a denial. -/
theorem pendingCall_after {state after : RunState} {event : HarnessEvent}
    {call : ToolCall} (transition : Transition state event after)
    (pending : pendingCall after.phase = some call) :
    call.id ∈ after.usedToolCallIds ∧
        call.id ∉ state.usedToolCallIds ∨
      pendingCall state.phase = some call := by
  cases transition with
  | toolCallProposed runId turnId proposed proposals phase idle _ fresh =>
      obtain rfl : proposed = call := by simpa [pendingCall] using pending
      exact .inl ⟨by simp, fresh⟩
  | policyEvaluated runId evaluated decision phase =>
      cases decision <;>
        simp [phaseAfterDecision, pendingCall] at pending
      all_goals exact .inr (by simp [phase, pendingCall, pending])
  | approvalGranted runId approved reason actorId phase =>
      obtain rfl : approved = call := by simpa [pendingCall] using pending
      exact .inr (by simp [phase, pendingCall])
  | modelResponded runId turnId step context output proposedCalls =>
      simp only [phaseAfterResponse] at pending
      split at pending <;> simp [pendingCall] at pending
  | contextCompacted => exact .inr pending
  | _ => simp [pendingCall] at pending

/-- Starts and denials so far: each names a proposed call, no call has both,
and the pending call has neither. -/
structure CallOutcomes (events : List HarnessEvent) (state : RunState) :
    Prop where
  startedUsed : ∀ callId ∈ observations startedCallId events,
    callId ∈ state.usedToolCallIds
  deniedUsed : ∀ callId ∈ observations deniedCallId events,
    callId ∈ state.usedToolCallIds
  exclusive : ∀ callId ∈ observations startedCallId events,
    callId ∉ observations deniedCallId events
  pendingUsed : ∀ call, pendingCall state.phase = some call →
    call.id ∈ state.usedToolCallIds
  pendingFresh : ∀ call, pendingCall state.phase = some call →
    call.id ∉ observations startedCallId events ∧
      call.id ∉ observations deniedCallId events

theorem CallOutcomes.concat {events : List HarnessEvent}
    {state after : RunState} {event : HarnessEvent}
    (holds : CallOutcomes events state)
    (transition : Transition state event after) :
    CallOutcomes (events ++ [event]) (advance after) := by
  have grows := transition.usedToolCallIds_mono
  have outcomeUsed : ∀ callId, (startedCallId event = some callId ∨
      deniedCallId event = some callId) → callId ∈ state.usedToolCallIds := by
    intro callId outcome
    obtain ⟨⟨call, pending, rfl⟩, _⟩ := pendingCall_of_outcome transition outcome
    exact holds.pendingUsed call pending
  refine ⟨?_, ?_, ?_, ?_, ?_⟩
  · intro callId started
    have split : callId ∈ observations startedCallId events ∨
        startedCallId event = some callId := by simpa using started
    rcases split with earlier | now
    · exact grows (holds.startedUsed callId earlier)
    · exact grows (outcomeUsed callId (.inl now))
  · intro callId denied
    have split : callId ∈ observations deniedCallId events ∨
        deniedCallId event = some callId := by simpa using denied
    rcases split with earlier | now
    · exact grows (holds.deniedUsed callId earlier)
    · exact grows (outcomeUsed callId (.inr now))
  · intro callId started denied
    have startSplit : callId ∈ observations startedCallId events ∨
        startedCallId event = some callId := by simpa using started
    have denySplit : callId ∈ observations deniedCallId events ∨
        deniedCallId event = some callId := by simpa using denied
    rcases startSplit with startedEarlier | startedNow
    · rcases denySplit with deniedEarlier | deniedNow
      · exact holds.exclusive callId startedEarlier deniedEarlier
      · obtain ⟨⟨call, pending, rfl⟩, _⟩ :=
          pendingCall_of_outcome transition (.inr deniedNow)
        exact (holds.pendingFresh call pending).1 startedEarlier
    · obtain ⟨⟨call, pending, rfl⟩, _, notBoth⟩ :=
        pendingCall_of_outcome transition (.inl startedNow)
      rcases denySplit with deniedEarlier | deniedNow
      · exact (holds.pendingFresh call pending).2 deniedEarlier
      · exact notBoth ⟨startedNow, deniedNow⟩
  · intro call pending
    rcases pendingCall_after transition pending with ⟨used, _⟩ | stillPending
    · exact used
    · exact grows (holds.pendingUsed call stillPending)
  · intro call pending
    have quiet : ∀ callId, ¬ (startedCallId event = some callId ∨
        deniedCallId event = some callId) := by
      intro callId outcome
      have ended := (pendingCall_of_outcome transition outcome).2.1
      simp [ended] at pending
    have unseen : call.id ∉ observations startedCallId events ∧
        call.id ∉ observations deniedCallId events := by
      rcases pendingCall_after transition pending with ⟨_, fresh⟩ | stillPending
      · exact ⟨fun member => fresh (holds.startedUsed call.id member),
          fun member => fresh (holds.deniedUsed call.id member)⟩
      · exact holds.pendingFresh call stillPending
    have silent := not_or.mp (quiet call.id)
    simpa [silent.1, silent.2] using unseen

theorem callOutcomes_of_replay {ledger : List RecordedEvent} {state : RunState}
    (accepted : replay ledger = .ok state) :
    CallOutcomes (eventsOf ledger) state := by
  refine invariant_of_transition CallOutcomes ?_ ?_ accepted
  · exact ⟨by simp, by simp, by simp, by simp [new, pendingCall],
      by simp [new, pendingCall]⟩
  · intro events before event after holds transition
    exact holds.concat transition

/-- The safety contract of tool execution over one accepted ledger and the
state it replays to. -/
structure ToolSafety (ledger : List RecordedEvent) (state : RunState) :
    Prop where
  /-- A start is authorized by the events before it, under the only proposal of
  its call id in the whole ledger. -/
  started : ∀ before after runId callId,
    eventsOf ledger = before ++ .toolStarted runId callId :: after →
      (∃ call, call.id = callId ∧ Authorized before call) ∧
        (observations proposedCallId (eventsOf ledger)).count callId = 1
  /-- No call is both started and denied, in either order. -/
  neverDenied : ∀ callId ∈ observations startedCallId (eventsOf ledger),
    callId ∉ observations deniedCallId (eventsOf ledger)
  /-- The command to execute a call is pending only with that history. -/
  pending : ∀ call, state.pendingCommand = some (.executeTool call) →
    Authorized (eventsOf ledger) call ∧
      (observations proposedCallId (eventsOf ledger)).count call.id = 1 ∧
      call.id ∉ observations startedCallId (eventsOf ledger) ∧
      call.id ∉ observations deniedCallId (eventsOf ledger)

theorem count_proposed_eq_one {events : List HarnessEvent} {state : RunState}
    (trail : RunTrail events state) {callId : ToolCallId}
    (used : callId ∈ state.usedToolCallIds) :
    (observations proposedCallId events).count callId = 1 := by
  have member : callId ∈ observations proposedCallId events := by
    simpa [trail.callIds] using used
  exact List.count_eq_one_of_mem trail.callsNodup member

theorem phase_of_executeTool {state : RunState} {call : ToolCall}
    (command : state.pendingCommand = some (.executeTool call)) :
    state.phase = .readyToExecuteTool call := by
  unfold pendingCommand at command
  split at command <;> simp_all

theorem toolSafety_of_replay (ledger : List RecordedEvent) (state : RunState)
    (accepted : replay ledger = .ok state) : ToolSafety ledger state := by
  have trail := runTrail_of_replay accepted
  have outcomes := callOutcomes_of_replay accepted
  refine ⟨?_, outcomes.exclusive, ?_⟩
  · intro before after runId callId split
    obtain ⟨front, source, target, rfl, _, frontAccepted, transition⟩ :=
      transition_at_event accepted split
    cases transition with
    | toolStarted _ call phase =>
        have cleared := (runTrail_of_replay frontAccepted).trail
        rw [phase] at cleared
        refine ⟨⟨call, rfl, ClearedLast.authorized cleared⟩, ?_⟩
        apply count_proposed_eq_one trail
        apply outcomes.startedUsed
        simp [split, startedCallId]
  · intro call command
    have phase := phase_of_executeTool command
    have cleared := trail.trail
    rw [phase] at cleared
    have isPending : pendingCall state.phase = some call := by
      simp [phase, pendingCall]
    exact ⟨ClearedLast.authorized cleared,
      count_proposed_eq_one trail (outcomes.pendingUsed call isPending),
      outcomes.pendingFresh call isPending⟩

/-- The documented tool turn is accepted, starts its call, and is safe. -/
theorem toolSafety_of_replay_toolTurn :
    ∃ state, replay toolTurnLedger = .ok state ∧
      observations startedCallId (eventsOf toolTurnLedger) ≠ [] ∧
      ToolSafety toolTurnLedger state :=
  ⟨_, rfl, by decide, toolSafety_of_replay toolTurnLedger _ rfl⟩

end RunHistory

end PlatoAgent
