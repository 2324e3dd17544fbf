import PlatoAgent.RunHistory

/-!
# Turns, steps and retries

Turn ids and call ids are never reused, a turn consumes at most one call, and
every model event carries the current step and turn.  A failed model request
leaves no trace: erasing each adjacent request and failure and renumbering the
records replays to the same state up to the sequence number.
-/

namespace PlatoAgent

namespace RunHistory

open HistoryReplay HarnessEvent RunState

/-- How many calls a turn may have proposed and started when it is in the given
phase. -/
def callBudget : RunPhase → Nat × Nat
  | .readyToRequestModel .. | .awaitingModelResponse .. | .awaitingToolCall .. =>
      (0, 0)
  | .awaitingPolicy .. | .awaitingApproval .. | .readyToExecuteTool .. => (1, 0)
  | _ => (1, 1)

/-- Within a turn the budget only grows, and by at least what is used. -/
theorem callBudget_step {state after : RunState} {event : HarnessEvent}
    (transition : Transition state event after)
    (sameTurn : contextTurn event = none) :
    (callBudget state.phase).1 + (proposedCallId event).toList.length ≤
        (callBudget after.phase).1 ∧
      (callBudget state.phase).2 + (startedCallId event).toList.length ≤
        (callBudget after.phase).2 := by
  cases transition with
  | contextBuilt => simp [contextTurn] at sameTurn
  | contextCompacted => simp [proposedCallId, startedCallId]
  | modelResponded runId turnId step context output proposedCalls _ _ phase =>
      simp only [phase, phaseAfterResponse]
      split <;> simp [callBudget, proposedCallId, startedCallId]
  | policyEvaluated runId call decision phase =>
      cases decision <;>
        simp [phase, phaseAfterDecision, callBudget, proposedCallId,
          startedCallId]
  | runFailed runId reason started =>
      cases state.phase <;> simp [callBudget, proposedCallId, startedCallId]
  | runStarted _ phase | modelRequested _ _ _ _ _ phase
  | modelFailed _ _ _ _ _ phase | toolCallProposed _ _ _ _ phase
  | toolProposalsRejected _ _ _ _ phase | approvalGranted _ _ _ _ phase
  | approvalDenied _ _ _ _ _ phase | toolStarted _ _ phase
  | toolFinished _ _ phase | toolFailed _ _ _ phase | runFinished _ phase =>
      simp [phase, callBudget, proposedCallId, startedCallId]

/-- The proposals and starts since the latest context stay within the budget of
the phase. -/
def WithinBudget (events : List HarnessEvent) (state : RunState) : Prop :=
  (observations proposedCallId (since contextTurn events)).length ≤
      (callBudget state.phase).1 ∧
    (observations startedCallId (since contextTurn events)).length ≤
      (callBudget state.phase).2

theorem WithinBudget.concat {events : List HarnessEvent}
    {state after : RunState} {event : HarnessEvent}
    (holds : WithinBudget events state)
    (transition : Transition state event after) :
    WithinBudget (events ++ [event]) (advance after) := by
  unfold WithinBudget at holds ⊢
  rw [since_concat]
  cases built : contextTurn event with
  | some turnId => simp
  | none =>
      have growth := callBudget_step transition built
      simp
      omega

theorem withinBudget_of_replay {ledger : List RecordedEvent} {state : RunState}
    (accepted : replay ledger = .ok state) :
    WithinBudget (eventsOf ledger) state := by
  refine invariant_of_transition WithinBudget ?_ ?_ accepted
  · simp [WithinBudget]
  · intro events before event after holds transition
    exact holds.concat transition

theorem callBudget_le_one (phase : RunPhase) :
    (callBudget phase).1 ≤ 1 ∧ (callBudget phase).2 ≤ 1 := by
  cases phase <;> simp [callBudget]

def modelStep : HarnessEvent → Option (TurnId × UInt32)
  | .modelRequested _ turnId step _ => some (turnId, step)
  | .modelFailed _ turnId step _ => some (turnId, step)
  | .modelResponded _ turnId step _ _ _ _ => some (turnId, step)
  | _ => none

theorem modelStep_of_transition {events : List HarnessEvent}
    {state after : RunState} {event : HarnessEvent} {turnId : TurnId}
    {step : UInt32} (trail : RunTrail events state)
    (transition : Transition state event after)
    (carried : modelStep event = some (turnId, step)) :
    latest contextTurn events = some turnId ∧
      step = UInt32.ofNat (responseCount events) := by
  have phaseTrail := trail.trail
  cases transition with
  | modelRequested _ _ _ _ _ phase | modelFailed _ _ _ _ _ phase
  | modelResponded _ _ _ _ _ _ _ _ phase =>
      rw [phase] at phaseTrail
      simp only [modelStep, Option.some.injEq, Prod.mk.injEq] at carried
      obtain ⟨rfl, rfl⟩ := carried
      exact phaseTrail
  | _ => simp [modelStep] at carried

end RunHistory

namespace RunState

def withSeq (state : RunState) (seq : UInt64) : RunState :=
  { state with nextSeq := seq }

theorem Transition.withSeq {state after : RunState} {event : HarnessEvent}
    (transition : Transition state event after) (seq : UInt64) :
    Transition (state.withSeq seq) event (after.withSeq seq) := by
  cases transition with
  | runStarted _ phase idle => exact .runStarted _ phase idle
  | contextBuilt _ _ _ between gate fresh budget =>
      exact .contextBuilt _ _ _ between gate fresh budget
  | contextCompacted _ _ _ _ _ _ between idle range fresh =>
      exact .contextCompacted _ _ _ _ _ _ between idle range fresh
  | modelRequested _ _ _ _ _ phase idle =>
      exact .modelRequested _ _ _ _ _ phase idle
  | modelFailed _ _ _ _ _ phase idle => exact .modelFailed _ _ _ _ _ phase idle
  | modelResponded _ _ _ _ _ _ _ _ phase idle =>
      exact .modelResponded _ _ _ _ _ _ _ _ phase idle
  | toolCallProposed _ _ _ _ phase idle proposed fresh =>
      exact .toolCallProposed _ _ _ _ phase idle proposed fresh
  | toolProposalsRejected _ _ _ _ phase idle nonblank =>
      exact .toolProposalsRejected _ _ _ _ phase idle nonblank
  | policyEvaluated _ _ _ phase idle => exact .policyEvaluated _ _ _ phase idle
  | approvalGranted _ _ _ _ phase idle =>
      exact .approvalGranted _ _ _ _ phase idle
  | approvalDenied _ _ _ _ _ phase idle =>
      exact .approvalDenied _ _ _ _ _ phase idle
  | toolStarted _ _ phase idle => exact .toolStarted _ _ phase idle
  | toolFinished _ _ phase idle => exact .toolFinished _ _ phase idle
  | toolFailed _ _ _ phase idle => exact .toolFailed _ _ _ phase idle
  | runFinished _ phase idle => exact .runFinished _ phase idle
  | runFailed _ _ started => exact .runFailed _ _ started

/-- A record renumbered to the expected sequence is accepted with the same
effect. -/
theorem next_withSeq {state after : RunState} {record : RecordedEvent}
    (stepped : next state record = .ok after) (seq : UInt64) :
    next (state.withSeq seq) { record with seq := seq } =
      .ok (after.withSeq (seq + 1)) := by
  obtain ⟨admits, middle, transition, rfl⟩ := next_ok_iff.mp stepped
  exact next_ok_iff.mpr
    ⟨⟨rfl, admits.runId⟩, middle.withSeq seq, transition.withSeq seq, rfl⟩

/-- Renumber records contiguously from the given sequence. -/
def renumberFrom (seq : UInt64) : List RecordedEvent → List RecordedEvent
  | [] => []
  | record :: rest =>
      { record with seq := seq } :: renumberFrom (seq + 1) rest

/-- A model request directly followed by its failure. -/
def isRetry : HarnessEvent → HarnessEvent → Bool
  | .modelRequested .., .modelFailed .. => true
  | _, _ => false

/-- Erase every adjacent model request and failure. -/
def eraseRetries : List RecordedEvent → List RecordedEvent
  | [] => []
  | [record] => [record]
  | first :: second :: rest =>
      if isRetry first.event second.event then eraseRetries rest
      else first :: eraseRetries (second :: rest)

theorem retry_restores {state middle after : RunState}
    {request failure : RecordedEvent}
    (retry : isRetry request.event failure.event = true)
    (requested : next state request = .ok middle)
    (failed : next middle failure = .ok after) :
    after = state.withSeq after.nextSeq := by
  obtain ⟨_, sent, request', rfl⟩ := next_ok_iff.mp requested
  obtain ⟨_, restored, failure', rfl⟩ := next_ok_iff.mp failed
  generalize request.event = requestEvent at retry request'
  generalize failure.event = failureEvent at retry failure'
  cases request' with
  | modelRequested _ turnId step context _ phase idle =>
      cases failure' with
      | modelFailed _ _ _ _ _ sentPhase =>
          simp only [advance_phase, RunPhase.awaitingModelResponse.injEq]
            at sentPhase
          obtain ⟨rfl, rfl, rfl⟩ := sentPhase
          simp [advance, withSeq, ← phase]
      | _ => simp [isRetry] at retry
  | _ => cases failure' <;> simp [isRetry] at retry

/-- Retries are unobservable: from states equal up to the sequence number, the
ledger and its erasure reach states equal up to the sequence number. -/
theorem replay_eraseRetries (ledger : List RecordedEvent)
    {state target : RunState} (seq : UInt64)
    (accepted : HistoryReplay.replayFrom next state ledger = .ok target) :
    ∃ erased, HistoryReplay.replayFrom next (state.withSeq seq)
        (renumberFrom seq (eraseRetries ledger)) = .ok erased ∧
      erased = target.withSeq erased.nextSeq := by
  induction ledger using eraseRetries.induct generalizing state seq with
  | case1 =>
      obtain rfl : state = target := by simpa using accepted
      exact ⟨state.withSeq seq, rfl, rfl⟩
  | case2 record =>
      obtain ⟨middle, stepped, continued⟩ :=
        HistoryReplay.replayFrom_cons_ok_iff.mp accepted
      obtain rfl : middle = target := by simpa using continued
      exact ⟨_, HistoryReplay.replayFrom_cons_ok_iff.mpr
        ⟨_, next_withSeq stepped seq, rfl⟩, rfl⟩
  | case3 first second rest retry ih =>
      obtain ⟨middle, requested, continued⟩ :=
        HistoryReplay.replayFrom_cons_ok_iff.mp accepted
      obtain ⟨after, failed, remaining⟩ :=
        HistoryReplay.replayFrom_cons_ok_iff.mp continued
      have restored := retry_restores retry requested failed
      have erased := ih seq remaining
      rw [restored] at erased
      simpa [eraseRetries, retry, withSeq] using erased
  | case4 first second rest noRetry ih =>
      obtain ⟨middle, stepped, continued⟩ :=
        HistoryReplay.replayFrom_cons_ok_iff.mp accepted
      obtain ⟨erased, erasedAccepted, same⟩ := ih (seq + 1) continued
      refine ⟨erased, ?_, same⟩
      rw [eraseRetries, if_neg noRetry, renumberFrom]
      exact HistoryReplay.replayFrom_cons_ok_iff.mpr
        ⟨_, next_withSeq stepped seq, erasedAccepted⟩

end RunState

namespace RunHistory

open HistoryReplay HarnessEvent RunState

/-- The turn contract over one accepted ledger and the state it replays to. -/
structure TurnDiscipline (ledger : List RecordedEvent) (state : RunState) :
    Prop where
  turnsDistinct : (observations contextTurn (eventsOf ledger)).Nodup
  callsDistinct : (observations proposedCallId (eventsOf ledger)).Nodup
  /-- Two consecutive contexts enclose at most one proposal and one start. -/
  oneCall : ∀ before first between second after,
    eventsOf ledger = before ++ first :: (between ++ second :: after) →
      (contextTurn first).isSome → (contextTurn second).isSome →
      (∀ event ∈ between, contextTurn event = none) →
      (observations proposedCallId between).length ≤ 1 ∧
        (observations startedCallId between).length ≤ 1
  /-- A model event carries the turn of the latest context and, as a `u32`, the
  number of responses before it. -/
  steps : ∀ before event after turnId step,
    eventsOf ledger = before ++ event :: after →
      modelStep event = some (turnId, step) →
      latest contextTurn before = some turnId ∧
        step = UInt32.ofNat (responseCount before)
  /-- Without its retries the ledger replays to the same state, up to the
  sequence number. -/
  retries : ∃ erased,
    replay (renumberFrom 0 (eraseRetries ledger)) = .ok erased ∧
      erased = { state with nextSeq := erased.nextSeq }

theorem turnDiscipline_of_replay (ledger : List RecordedEvent)
    (state : RunState) (accepted : replay ledger = .ok state) :
    TurnDiscipline ledger state := by
  have trail := runTrail_of_replay accepted
  refine ⟨trail.turnsNodup, trail.callsNodup, ?_, ?_, ?_⟩
  · intro before first between second after split firstBuilt _ silent
    have regrouped : eventsOf ledger =
        (before ++ first :: between) ++ second :: after := by simpa using split
    obtain ⟨front, source, _, frontEvents, _, frontAccepted, _⟩ :=
      transition_at_event accepted regrouped
    have budget := withinBudget_of_replay frontAccepted
    rw [WithinBudget, frontEvents, since_append_cons firstBuilt silent] at budget
    have bound := callBudget_le_one source.phase
    omega
  · intro before event after turnId step split carried
    obtain ⟨front, source, target, rfl, _, frontAccepted, transition⟩ :=
      transition_at_event accepted split
    exact modelStep_of_transition (runTrail_of_replay frontAccepted) transition
      carried
  · exact replay_eraseRetries ledger 0 accepted

def retriedLedger : List RecordedEvent :=
  recordAll
    [sampleStart,
      .contextBuilt sampleRun sampleTurn ⟨10, []⟩,
      .modelRequested sampleRun sampleTurn 0 sampleModel,
      .modelFailed sampleRun sampleTurn 0 "provider unavailable",
      .modelRequested sampleRun sampleTurn 0 sampleModel,
      .modelResponded sampleRun sampleTurn 0 ⟨.assistant, "Done."⟩ [] none none,
      .runFinished sampleRun]

/-- The contract at a retried run, whose erasure drops two records. -/
theorem turnDiscipline_of_replay_retried :
    (eraseRetries retriedLedger).length + 2 = retriedLedger.length ∧
      ∃ state, replay retriedLedger = .ok state ∧
        TurnDiscipline retriedLedger state :=
  ⟨rfl, _, rfl, turnDiscipline_of_replay retriedLedger _ rfl⟩

end RunHistory

end PlatoAgent
