import PlatoAgent.RunStateTransition

/-!
# The shape of accepted ledgers

Whatever its events are, an accepted ledger is numbered contiguously from zero,
opens with its only `run_started`, and belongs to one run.  A started run that
is not over accepts exactly the failure of that run.
-/

namespace PlatoAgent

def HarnessEvent.isRunStarted : HarnessEvent → Bool
  | .runStarted _ => true
  | _ => false

namespace RunState

theorem Transition.phase_ne_notStarted {state after : RunState}
    {event : HarnessEvent} (transition : Transition state event after)
    (other : event.isRunStarted = false → state.phase ≠ .notStarted) :
    after.phase ≠ .notStarted := by
  cases transition with
  | contextCompacted => exact other rfl
  | modelResponded _ turnId _ _ _ proposedCalls =>
      simp only [phaseAfterResponse]
      split <;> simp
  | policyEvaluated _ call decision =>
      cases decision <;> simp [phaseAfterDecision]
  | _ => simp

/-- Only `run_started` leaves the initial phase, and it is accepted nowhere
else. -/
theorem Transition.isRunStarted_iff {state after : RunState}
    {event : HarnessEvent} (transition : Transition state event after) :
    event.isRunStarted = true ↔ state.phase = .notStarted := by
  cases transition with
  | runStarted started phase => simp [HarnessEvent.isRunStarted, phase]
  | contextBuilt _ _ _ between =>
      simp only [HarnessEvent.isRunStarted, Bool.false_eq_true, false_iff]
      intro initial
      simp [initial, RunPhase.betweenTurns] at between
  | contextCompacted _ _ _ _ _ _ between =>
      simp only [HarnessEvent.isRunStarted, Bool.false_eq_true, false_iff]
      intro initial
      simp [initial, RunPhase.betweenTurns] at between
  | runFailed _ _ started =>
      simp only [HarnessEvent.isRunStarted, Bool.false_eq_true, false_iff]
      intro initial
      simp [initial, RunPhase.canFail] at started
  | _ => simp_all [HarnessEvent.isRunStarted]

theorem Transition.runId_after {state after : RunState} {event : HarnessEvent}
    (transition : Transition state event after) :
    (event.isRunStarted = true ∧ after.runId = some event.runId) ∨
      (event.isRunStarted = false ∧ after.runId = state.runId) := by
  cases transition with
  | runStarted started => exact .inl ⟨rfl, rfl⟩
  | _ => exact .inr ⟨rfl, rfl⟩

/-- What replay guarantees about the records themselves. -/
structure LedgerShape (records : List RecordedEvent) (state : RunState) :
    Prop where
  nextSeq : state.nextSeq = UInt64.ofNat records.length
  seqs : records.map (·.seq) =
    (List.range records.length).map UInt64.ofNat
  initial : records = [] → state = new
  started : records ≠ [] → state.phase ≠ .notStarted
  runIds : ∀ record ∈ records, state.runId = some record.event.runId
  opening : ∀ first rest, records = first :: rest →
    first.event.isRunStarted = true ∧
      ∀ record ∈ rest, record.event.isRunStarted = false

theorem LedgerShape.phase_eq_notStarted_iff {records : List RecordedEvent}
    {state : RunState} (shape : LedgerShape records state) :
    state.phase = .notStarted ↔ records = [] := by
  constructor
  · intro phase
    by_contra nonempty
    exact shape.started nonempty phase
  · intro empty
    rw [shape.initial empty]
    rfl

theorem LedgerShape.concat {records : List RecordedEvent} {state : RunState}
    {record : RecordedEvent} {after : RunState}
    (shape : LedgerShape records state)
    (accepted : next state record = .ok after) :
    LedgerShape (records ++ [record]) after := by
  obtain ⟨admits, middle, transition, rfl⟩ := next_ok_iff.mp accepted
  have isStart := transition.isRunStarted_iff.trans
    shape.phase_eq_notStarted_iff
  refine
    { nextSeq := ?_, seqs := ?_, initial := by simp, started := fun _ => ?_,
      runIds := ?_, opening := ?_ }
  · simp [advance, transition.nextSeq_eq, shape.nextSeq]
  · simp [shape.seqs, admits.seq, shape.nextSeq, List.range_succ]
  · refine transition.phase_ne_notStarted fun notStart initial => ?_
    have start := isStart.mpr (shape.phase_eq_notStarted_iff.mp initial)
    simp [start] at notStart
  · intro other member
    rw [List.mem_append, List.mem_singleton] at member
    rcases transition.runId_after with ⟨start, bound⟩ | ⟨notStart, kept⟩
    · obtain rfl : records = [] := isStart.mp start
      rcases member with old | rfl
      · exact absurd old List.not_mem_nil
      · exact bound
    · rw [advance_runId, kept]
      rcases member with old | rfl
      · exact shape.runIds other old
      · cases records with
        | nil => simp [isStart.mpr rfl] at notStart
        | cons first rest =>
            have bound := shape.runIds first List.mem_cons_self
            rw [bound, admits.runId _ bound]
  · intro first rest split
    cases records with
    | nil =>
        obtain ⟨rfl, rfl⟩ : record = first ∧ rest = [] := by
          simpa [eq_comm] using split
        exact ⟨isStart.mpr rfl, by simp⟩
    | cons head tail =>
        obtain ⟨rfl, rfl⟩ : head = first ∧ tail ++ [record] = rest := by
          simpa using split
        obtain ⟨headStart, tailOthers⟩ := shape.opening head tail rfl
        refine ⟨headStart, fun other member => ?_⟩
        rcases List.mem_append.mp member with old | added
        · exact tailOthers other old
        · obtain rfl : other = record := by simpa using added
          simpa using fun start => isStart.mp start

theorem ledgerShape_of_replay {records : List RecordedEvent}
    {state : RunState} (accepted : replay records = .ok state) :
    LedgerShape records state := by
  refine HistoryReplay.invariant_of_step LedgerShape ?_ ?_ accepted
  · exact
      { nextSeq := rfl, seqs := rfl, initial := fun _ => rfl,
        started := fun nonempty => absurd rfl nonempty,
        runIds := by simp, opening := by simp }
  · intro history before record after _ shape stepped
    exact shape.concat stepped

theorem replay_concat_ok_iff {records : List RecordedEvent}
    {record : RecordedEvent} {after : RunState} :
    replay (records ++ [record]) = .ok after ↔
      ∃ state, replay records = .ok state ∧ next state record = .ok after :=
  HistoryReplay.replayFrom_concat_ok_iff

/-- The event with the next sequence number and a timestamp. -/
def stamp (state : RunState) (now : UInt64) (event : HarnessEvent) :
    RecordedEvent :=
  { seq := state.nextSeq, occurredAtMs := now, event := event }

/-- A fresh run accepts `run_started` and nothing else. -/
theorem next_new_ok_iff {now : UInt64} {event : HarnessEvent} :
    (∃ after, next new (new.stamp now event) = .ok after) ↔ event.isRunStarted = true := by
  constructor
  · rintro ⟨after, accepted⟩
    obtain ⟨_, _, transition, _⟩ := next_ok_iff.mp accepted
    exact transition.isRunStarted_iff.mpr rfl
  · intro start
    cases event with
    | runStarted started =>
        exact ⟨_, next_ok_iff.mpr ⟨⟨rfl, by simp [new]⟩, _,
          .runStarted started rfl rfl, rfl⟩⟩
    | _ => cases start

/-- The failure of a run is accepted by the run it names, while it can fail. -/
theorem next_runFailed_ok_iff {state : RunState} {now : UInt64}
    {runId : RunId} {reason : String} :
    (∃ after, next state (state.stamp now (.runFailed runId reason)) =
      .ok after) ↔
      (∀ expected, state.runId = some expected → runId = expected) ∧
        state.phase.canFail = true := by
  constructor
  · rintro ⟨after, accepted⟩
    obtain ⟨admits, _, transition, _⟩ := next_ok_iff.mp accepted
    refine ⟨admits.runId, ?_⟩
    cases transition with
    | runFailed _ _ started => exact started
  · rintro ⟨named, started⟩
    exact ⟨_, next_ok_iff.mpr ⟨⟨rfl, named⟩, _, .runFailed runId reason started,
      rfl⟩⟩

/-- After its failure was recorded, a run shows the reason. -/
theorem phase_of_next_runFailed {state after : RunState} {now : UInt64}
    {runId : RunId} {reason : String}
    (accepted : next state (state.stamp now (.runFailed runId reason)) =
      .ok after) :
    after.phase = .failed reason := by
  obtain ⟨_, _, transition, rfl⟩ := next_ok_iff.mp accepted
  cases transition with
  | runFailed => rfl

end RunState

end PlatoAgent
