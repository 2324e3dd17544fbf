import PlatoAgent.RunStateTransition

/-!
# The compaction gate and the end of a run

A compacted turn is a second piece of control state beside the phase.  While it
is pending the run is between turns, no command is pending, and only the
context of that turn or a failure is accepted.  The same step analysis shows
that a terminal event is last and what a finished run directly follows.
-/

namespace PlatoAgent

theorem ContextPack.validateBudget_ok_iff {context : ContextPack} :
    context.validateBudget = .ok () ↔
      context.estimatedTokensU64 ≤ context.tokenBudget.toUInt64 := by
  rw [← UInt64.not_lt]
  unfold ContextPack.validateBudget
  by_cases exceeded : context.estimatedTokensU64 > context.tokenBudget.toUInt64
  · simp [exceeded]
  · simp [exceeded]

namespace HarnessEvent

def compactedTurn : HarnessEvent → Option TurnId
  | .contextCompacted _ turnId _ _ _ _ => some turnId
  | _ => none

def isTerminal : HarnessEvent → Bool
  | .runFinished _ | .runFailed .. => true
  | _ => false

/-- The events that conclude a turn successfully: a response without
proposals, a tool result, and a rejected proposal batch. -/
def concludesTurn : HarnessEvent → Bool
  | .modelResponded _ _ _ _ proposedCalls _ _ => proposedCalls.isEmpty
  | .toolFinished .. | .toolProposalsRejected .. => true
  | _ => false

end HarnessEvent

namespace RunState

open HarnessEvent

/-- The gate invariant: a pending turn is unused and awaited between turns. -/
def GateConsistent (state : RunState) : Prop :=
  ∀ turnId, state.pendingCompactionTurnId = some turnId →
    state.phase.betweenTurns = true ∧ turnId ∉ state.usedTurnIds

/-- A transition leaves the gate closed only by compacting. -/
theorem Transition.pendingCompactionTurnId_after {state after : RunState}
    {event : HarnessEvent} (transition : Transition state event after) :
    after.pendingCompactionTurnId = compactedTurn event := by
  cases transition with
  | contextBuilt | contextCompacted | runFailed => rfl
  | runStarted _ _ idle | modelRequested _ _ _ _ _ _ idle
  | modelFailed _ _ _ _ _ _ idle | modelResponded _ _ _ _ _ _ _ _ _ idle
  | toolCallProposed _ _ _ _ _ idle | toolProposalsRejected _ _ _ _ _ idle
  | policyEvaluated _ _ _ _ idle | approvalGranted _ _ _ _ _ idle
  | approvalDenied _ _ _ _ _ _ idle | toolStarted _ _ _ idle
  | toolFinished _ _ _ idle | toolFailed _ _ _ _ idle | runFinished _ _ idle =>
      exact idle

theorem GateConsistent.after {state after : RunState} {event : HarnessEvent}
    (transition : Transition state event after) :
    GateConsistent (advance after) := by
  intro turnId pending
  have compacted : compactedTurn event = some turnId := by
    rw [← transition.pendingCompactionTurnId_after]
    exact pending
  cases transition with
  | contextCompacted _ _ _ _ _ _ between _ _ fresh =>
      obtain rfl := Option.some.inj compacted
      exact ⟨between, fresh⟩
  | _ => simp [compactedTurn] at compacted

theorem gateConsistent_of_replay {ledger : List RecordedEvent}
    {state : RunState} (accepted : replay ledger = .ok state) :
    GateConsistent state := by
  refine invariant_of_transition (fun _ state => GateConsistent state) ?_ ?_
    accepted
  · simp [GateConsistent, new]
  · intro events before event after _ transition
    exact GateConsistent.after transition

theorem pendingCommand_of_betweenTurns {state : RunState}
    (between : state.phase.betweenTurns = true) :
    state.pendingCommand = none := by
  unfold pendingCommand
  cases phaseEq : state.phase <;>
    simp [phaseEq, RunPhase.betweenTurns] at between ⊢

/-- The events the gate lets through. -/
def ReleasesGate (turnId : TurnId) (event : HarnessEvent) : Prop :=
  (∃ runId context, event = .contextBuilt runId turnId context ∧
      context.estimatedTokensU64 ≤ context.tokenBudget.toUInt64) ∨
    ∃ runId reason, event = .runFailed runId reason

theorem releasesGate_of_transition {state after : RunState}
    {event : HarnessEvent} {turnId : TurnId}
    (pending : state.pendingCompactionTurnId = some turnId)
    (transition : Transition state event after) :
    ReleasesGate turnId event := by
  cases transition with
  | contextBuilt runId built context between gate fresh budget =>
      obtain rfl := gate turnId pending
      exact .inl ⟨runId, context, rfl, ContextPack.validateBudget_ok_iff.mp budget⟩
  | runFailed runId reason => exact .inr ⟨runId, reason, rfl⟩
  | _ => simp_all

theorem transition_of_releasesGate {state : RunState} {event : HarnessEvent}
    {turnId : TurnId} (consistent : GateConsistent state)
    (pending : state.pendingCompactionTurnId = some turnId)
    (releases : ReleasesGate turnId event) :
    ∃ after, Transition state event after := by
  obtain ⟨between, fresh⟩ := consistent turnId pending
  rcases releases with ⟨runId, context, rfl, budget⟩ | ⟨runId, reason, rfl⟩
  · have sameTurn : ∀ expected, state.pendingCompactionTurnId = some expected →
        expected = turnId := by
      intro expected other
      exact Option.some.inj (other.symm.trans pending)
    exact ⟨_, .contextBuilt runId turnId context between sameTurn fresh
      (ContextPack.validateBudget_ok_iff.mpr budget)⟩
  · have started : state.phase.canFail = true := by
      cases phaseEq : state.phase <;>
        simp [phaseEq, RunPhase.betweenTurns, RunPhase.canFail] at between ⊢
    exact ⟨_, .runFailed runId reason started⟩

theorem not_transition_after_terminal {source state after : RunState}
    {terminal event : HarnessEvent} (isTerminal : terminal.isTerminal = true)
    (ended : Transition source terminal state) :
    ¬ Transition (advance state) event after := by
  have stopped : (advance state).phase.canFail = false ∧
      (advance state).phase ≠ .notStarted ∧
      (advance state).phase.betweenTurns = false := by
    cases ended with
    | runFinished | runFailed =>
        simp [RunPhase.canFail, RunPhase.betweenTurns]
    | _ => simp [HarnessEvent.isTerminal] at isTerminal
  intro transition
  cases transition <;>
    simp_all [RunPhase.canFail, RunPhase.betweenTurns]

theorem concludesTurn_of_transition {source state : RunState}
    {event : HarnessEvent} (transition : Transition source event state)
    (phase : state.phase = .turnConcluded)
    (idle : state.pendingCompactionTurnId = none) :
    event.concludesTurn = true := by
  cases transition with
  | modelResponded _ _ _ _ _ proposedCalls =>
      simp only [phaseAfterResponse] at phase
      split at phase
      · assumption
      · cases phase
  | toolFinished | toolProposalsRejected => rfl
  | contextCompacted => cases idle
  | policyEvaluated _ _ decision => cases decision <;> cases phase
  | _ => cases phase

/-- The compaction and termination contract over one accepted ledger and the
state it replays to. -/
structure CompactionContract (ledger : List RecordedEvent) (state : RunState) :
    Prop where
  /-- A pending turn stops everything but its context and a failure. -/
  gated : ∀ turnId, state.pendingCompactionTurnId = some turnId →
    state.phase.betweenTurns = true ∧ state.pendingCommand = none ∧
      turnId ∉ state.usedTurnIds ∧
      (∀ record, (∃ after, next state record = .ok after) ↔
        Admits state record ∧ ReleasesGate turnId record.event) ∧
      ∀ record after, next state record = .ok after →
        after.pendingCompactionTurnId = none
  /-- A compaction is directly followed by its context or by a failure. -/
  followed : ∀ before compacted turnId event after,
    eventsOf ledger = before ++ compacted :: event :: after →
      compactedTurn compacted = some turnId → ReleasesGate turnId event
  /-- A terminal event is the last one. -/
  terminalLast : ∀ before terminal after,
    eventsOf ledger = before ++ terminal :: after →
      terminal.isTerminal = true → after = []
  /-- A run finishes directly after the event that concluded its turn. -/
  finishes : ∀ before runId after,
    eventsOf ledger = before ++ .runFinished runId :: after →
      ∃ earlier previous, before = earlier ++ [previous] ∧
        previous.concludesTurn = true

/-- Every accepted ledger keeps the compaction and termination contract. -/
theorem compactionContract_of_replay (ledger : List RecordedEvent)
    (state : RunState) (accepted : replay ledger = .ok state) :
    CompactionContract ledger state := by
  refine ⟨?_, ?_, ?_, ?_⟩
  · intro turnId pending
    have consistent := gateConsistent_of_replay accepted
    obtain ⟨between, fresh⟩ := consistent turnId pending
    refine ⟨between, pendingCommand_of_betweenTurns between, fresh, ?_, ?_⟩
    · intro record
      constructor
      · rintro ⟨after, stepped⟩
        obtain ⟨admits, middle, transition, _⟩ := next_ok_iff.mp stepped
        exact ⟨admits, releasesGate_of_transition pending transition⟩
      · rintro ⟨admits, releases⟩
        obtain ⟨middle, transition⟩ :=
          transition_of_releasesGate consistent pending releases
        exact ⟨_, next_ok_iff.mpr ⟨admits, middle, transition, rfl⟩⟩
    · intro record after stepped
      obtain ⟨_, middle, transition, rfl⟩ := next_ok_iff.mp stepped
      have cleared := transition.pendingCompactionTurnId_after
      rcases releasesGate_of_transition pending transition with
        ⟨_, _, built, _⟩ | ⟨_, _, failed⟩
      · simpa [built, compactedTurn] using cleared
      · simpa [failed, compactedTurn] using cleared
  · intro before compacted turnId event after split compactedEq
    have regrouped : eventsOf ledger =
        (before ++ [compacted]) ++ event :: after := by simpa using split
    obtain ⟨front, source, target, frontEvents, _, frontAccepted, transition⟩ :=
      transition_at_event accepted regrouped
    obtain ⟨_, _, compactedState, _, _, compaction, rfl⟩ :=
      transition_to_last frontAccepted frontEvents
    apply releasesGate_of_transition _ transition
    exact compaction.pendingCompactionTurnId_after.trans compactedEq
  · intro before terminal after split isTerminal
    cases after with
    | nil => rfl
    | cons event after =>
        have regrouped : eventsOf ledger =
            (before ++ [terminal]) ++ event :: after := by simpa using split
        obtain ⟨front, source, target, frontEvents, _, frontAccepted,
          transition⟩ := transition_at_event accepted regrouped
        obtain ⟨_, _, ended, _, _, ending, rfl⟩ :=
          transition_to_last frontAccepted frontEvents
        exact (not_transition_after_terminal isTerminal ending transition).elim
  · intro before runId after split
    obtain ⟨front, source, target, rfl, _, frontAccepted, transition⟩ :=
      transition_at_event accepted split
    cases transition with
    | runFinished _ phase idle =>
        rcases List.eq_nil_or_concat (eventsOf front) with empty |
          ⟨earlier, previous, nonempty⟩
        · obtain rfl := List.map_eq_nil_iff.mp empty
          obtain rfl : new = source := by
            simpa [replay] using frontAccepted
          cases phase
        · rw [List.concat_eq_append] at nonempty
          obtain ⟨_, _, concluded, _, _, conclusion, rfl⟩ :=
            transition_to_last frontAccepted nonempty
          exact ⟨earlier, previous, nonempty,
            concludesTurn_of_transition conclusion phase idle⟩

/-- A run that compacts its prior turns and is waiting for the context. -/
def compactedLedger : List RecordedEvent :=
  recordAll
    [sampleStart, .contextCompacted sampleRun sampleTurn 4096 2048 0 3]

/-- The contract at a run with a pending compacted turn. -/
theorem compactionContract_of_replay_compacted :
    ∃ state, replay compactedLedger = .ok state ∧
      state.pendingCompactionTurnId ≠ none ∧
      CompactionContract compactedLedger state :=
  ⟨_, rfl, by decide, compactionContract_of_replay compactedLedger _ rfl⟩

end RunState

end PlatoAgent
