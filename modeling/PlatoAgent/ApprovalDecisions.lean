import PlatoAgent.ActionRuns
import PlatoAgent.ApprovalGate

/-!
# Decisions on tool calls

Handlers wait, clients decide, runs are canceled and end, in any order and for
all runs of the host at once.  A handler returns the decision that was
acknowledged first for its call, or a denial of the daemon; and what it returns
is what the server store holds.
-/

namespace PlatoAgent

/-- A handler in its loop. -/
structure BlockedHandler where
  run : RunRef
  request : ApprovalRequest
  /-- The handler was notified since its last pass. -/
  awake : Bool
  deriving DecidableEq, Repr

structure ApprovalReturn where
  outcome : ExternalApprovalOutcome
  /-- The outcome was decided by a client, or its own write succeeded. -/
  recorded : Bool
  deriving DecidableEq, Repr

/-- An `approval.decide` that was accepted. -/
structure ApprovalAcknowledgement where
  run : RunRef
  callId : String
  decision : ApprovalDecision
  actor : String
  outcome : ExternalApprovalOutcome
  /-- A cancellation of the run was acknowledged before. -/
  afterCancel : Bool
  /-- The run was completed before. -/
  afterEnd : Bool
  deriving DecidableEq, Repr

/-- A call of a run. -/
abbrev CallKey : Type :=
  RunRef × String

structure ApprovalSystem where
  gates : RunRef → ApprovalGate
  desk : ApprovalDesk
  asked : Finset CallKey
  blocked : FiniteMap CallKey BlockedHandler
  returned : FiniteMap CallKey ApprovalReturn
  acknowledged : List ApprovalAcknowledgement
  /-- The runs whose cancellation was acknowledged. -/
  canceled : Finset RunRef
  /-- The runs that were completed. -/
  ended : Finset RunRef

inductive ApprovalAction where
  | ask (run : RunRef) (request : ApprovalRequest)
      (threadYolo sessionYolo : Bool) (attempt : StoreAttempt)
  | wake (key : CallKey) (attempt : StoreAttempt)
  | decide (run : RunRef) (params : ApprovalDecideParams)
      (attributedActor : Option ActorId) (attempt : StoreAttempt)
  | cancel (run : RunRef) (before : Except AppError Unit)
  | complete (run : RunRef) (status : RunStateName)

/-- `notify_all` on the condition variable of a run. -/
def notifyHandlers (run : RunRef) (blocked : FiniteMap CallKey BlockedHandler) :
    FiniteMap CallKey BlockedHandler :=
  blocked.mapValues fun handler =>
    if handler.run = run then { handler with awake := true } else handler

namespace ApprovalSystem

def start (gates : RunRef → ApprovalGate) (desk : ApprovalDesk) :
    ApprovalSystem :=
  ⟨gates, desk, ∅, ∅, ∅, [], ∅, ∅⟩

def withGate (system : ApprovalSystem) (run : RunRef) (gate : ApprovalGate) :
    ApprovalSystem :=
  { system with gates := Function.update system.gates run gate }

def ask (shown : AppError → String) (system : ApprovalSystem) (run : RunRef)
    (request : ApprovalRequest) (threadYolo sessionYolo : Bool)
    (attempt : StoreAttempt) : ApprovalSystem :=
  let key := (run, request.callId.value)
  let answer := (system.gates run).ask shown system.desk request threadYolo
    sessionYolo attempt
  match answer.1 with
  | .mismatch | .outcome _ =>
      { system with asked := insert key system.asked }
  | .asked =>
      { system.withGate run answer.2.1 with
        desk := answer.2.2
        asked := insert key system.asked
        blocked := system.blocked.insert key ⟨run, request, true⟩ }

/-- The return of a handler, if its pass ended the loop. -/
def wake (system : ApprovalSystem) (key : CallKey) (handler : BlockedHandler)
    (attempt : StoreAttempt) : ApprovalSystem :=
  let gate := system.gates key.1
  let pass := gate.wake system.desk handler.request attempt
  match pass.1 with
  | none =>
      { system with
        blocked := system.blocked.insert key { handler with awake := false } }
  | some outcome =>
      { system.withGate key.1 pass.2.1 with
        desk := pass.2.2
        blocked := system.blocked.erase key
        returned := system.returned.insert key
          ⟨outcome,
            (gate.decisionOf handler.request.callId.value).isSome ||
              (recordApprovalDecision system.desk.toolCallApprovals
                handler.request.runId.value handler.request.callId.value
                outcome attempt).toBool⟩ }

def acknowledgement (system : ApprovalSystem) (run : RunRef)
    (params : ApprovalDecideParams) (actor : String) :
    ApprovalAcknowledgement :=
  ⟨run, params.toolCallId, params.decision, actor, params.outcome actor,
    run ∈ system.canceled, run ∈ system.ended⟩

def decide (system : ApprovalSystem) (run : RunRef)
    (params : ApprovalDecideParams) (attributedActor : Option ActorId)
    (attempt : StoreAttempt) : ApprovalSystem :=
  let actor := params.decisionActor attributedActor
  let decided := (system.gates run).decide system.desk params actor attempt
  let after := { system.withGate run decided.2.1 with desk := decided.2.2 }
  match decided.1 with
  | .error _ => after
  | .ok _ =>
      { after with
        acknowledged := system.acknowledged ++
          [system.acknowledgement run params actor]
        blocked :=
          if ((system.gates run).decisionOf params.toolCallId).isSome then
            system.blocked
          else notifyHandlers run system.blocked }

def cancel (system : ApprovalSystem) (run : RunRef)
    (before : Except AppError Unit) : ApprovalSystem :=
  match (system.gates run).requestCancelAfter before with
  | .error _ | .ok (none, _) => system
  | .ok (some _, gate) =>
      { system.withGate run gate with
        canceled := insert run system.canceled
        blocked :=
          if (system.gates run).record.state = .running then
            notifyHandlers run system.blocked
          else system.blocked }

def complete (system : ApprovalSystem) (run : RunRef) (status : RunStateName) :
    ApprovalSystem :=
  { system.withGate run ((system.gates run).complete status) with
    ended := insert run system.ended
    blocked := notifyHandlers run system.blocked }

def step (shown : AppError → String) (system : ApprovalSystem) :
    ApprovalAction → Option ApprovalSystem
  | .ask run request threadYolo sessionYolo attempt =>
      -- A run asks once for each of its calls.
      if (run, request.callId.value) ∈ system.asked then none
      else some (system.ask shown run request threadYolo sessionYolo attempt)
  | .wake key attempt =>
      (system.blocked.lookup key).map fun handler =>
        system.wake key handler attempt
  | .decide run params attributedActor attempt =>
      some (system.decide run params attributedActor attempt)
  | .cancel run before => some (system.cancel run before)
  | .complete run status =>
      if status.isActive then none else some (system.complete run status)

def decisionOf (system : ApprovalSystem) (key : CallKey) :
    Option PendingApprovalDecision :=
  (system.gates key.1).decisionOf key.2

def rowOf (system : ApprovalSystem) (key : CallKey) :
    Option ToolCallApprovalRecord :=
  system.desk.toolCallApprovals.lookup
    ((system.gates key.1).record.runId, key.2)

def acknowledgements (system : ApprovalSystem) (key : CallKey) :
    List ApprovalAcknowledgement :=
  system.acknowledged.filter fun acknowledgement =>
    (acknowledgement.run, acknowledgement.callId) = key

/-- The run neither runs nor can be decided on. -/
def Halted (system : ApprovalSystem) (run : RunRef) : Prop :=
  (system.gates run).record.state ≠ .running

end ApprovalSystem

/-- The row of a call holds the outcome. -/
def RecordedAs (row : Option ToolCallApprovalRecord)
    (outcome : ExternalApprovalOutcome) : Prop :=
  ∃ record nowMs, row = some record ∧
    record.decision = some (outcome.stored nowMs)

/-- The reasons of the daemon for a denial. -/
def IsHaltDenial (outcome : ExternalApprovalOutcome) : Prop :=
  outcome = daemonDenial "run canceled" ∨
    outcome = daemonDenial "run is no longer active"

namespace ApprovalSystem

/-- The parties agree on every call. -/
structure Agreed (system : ApprovalSystem) : Prop where
  /-- A run of which a cancellation was acknowledged, or that was completed, is
  halted from then on. -/
  halted : ∀ run, run ∈ system.canceled ∪ system.ended → system.Halted run
  /-- A handler returns the decision that was acknowledged first, or denies as
  the run was canceled or ended without one. -/
  outcome : ∀ key result, system.returned.lookup key = some result →
    (∃ first rest, system.acknowledgements key = first :: rest ∧
      result.outcome = first.outcome) ∨
    (system.acknowledgements key = [] ∧ IsHaltDenial result.outcome ∧
      system.Halted key.1)
  /-- No acknowledgement conflicts with the first one. -/
  conflicts : ∀ key first rest, system.acknowledgements key = first :: rest →
    ∀ later ∈ rest,
      later.decision = first.decision ∧ later.actor = first.actor
  /-- Nothing is decided once a cancellation was acknowledged or the run was
  completed. -/
  onTime : ∀ acknowledgement ∈ system.acknowledged,
    acknowledgement.afterCancel = false ∧ acknowledgement.afterEnd = false
  recorded : ∀ key result, system.returned.lookup key = some result →
    result.recorded = true → RecordedAs (system.rowOf key) result.outcome
  /-- No handler sleeps through the decision or the end of its run. -/
  awake : ∀ key handler, system.blocked.lookup key = some handler →
    system.acknowledgements key ≠ [] ∨ system.Halted key.1 →
      handler.awake = true
  /-- And its next pass returns. -/
  returns : ∀ key handler attempt, system.blocked.lookup key = some handler →
    system.acknowledgements key ≠ [] ∨ system.Halted key.1 →
      ∃ result, (system.wake key handler attempt).returned.lookup key =
        some result

/-- Runs start, with distinct names and without stored approvals. -/
structure Fresh (system : ApprovalSystem) : Prop where
  distinct : ∀ run other, (system.gates run).record.runId =
    (system.gates other).record.runId → run = other
  running : ∀ run, (system.gates run).record.state = .running
  uncanceled : ∀ run, (system.gates run).cancel = false
  approvals : ∀ run, (system.gates run).approvals = ∅
  rows : ∀ key, system.rowOf key = none

/-- What is known about one call. -/
structure CallInvariant (system : ApprovalSystem) (key : CallKey) : Prop where
  decided : system.decisionOf key = (system.acknowledgements key).head?.map
    fun first => ⟨first.decision, first.outcome⟩
  agree : ∀ acknowledgement ∈ system.acknowledgements key, ∀ decision,
    system.decisionOf key = some decision →
      acknowledgement.decision = decision.decision ∧
        acknowledgement.actor = decision.outcome.actor
  stored : ∀ decision, system.decisionOf key = some decision →
    RecordedAs (system.rowOf key) decision.outcome
  pending : ∀ pending, (system.gates key.1).approvals.lookup key.2 =
    some pending → pending.decision = none → system.blocked.lookup key ≠ none
  waiting : system.blocked.lookup key ≠ none → system.decisionOf key = none →
    ∃ row, system.rowOf key = some row ∧ row.decision = none
  handler : ∀ handler, system.blocked.lookup key = some handler →
    handler.run = key.1 ∧ handler.request.callId.value = key.2 ∧
      handler.request.runId.value = (system.gates key.1).record.runId
  awake : ∀ handler, system.blocked.lookup key = some handler →
    system.decisionOf key ≠ none ∨ system.Halted key.1 → handler.awake = true
  unasked : key ∉ system.asked →
    (system.gates key.1).approvals.lookup key.2 = none ∧
      system.blocked.lookup key = none ∧ system.returned.lookup key = none ∧
      system.rowOf key = none
  returned : ∀ result, system.returned.lookup key = some result →
    system.blocked.lookup key = none ∧
      ((∃ decision, system.decisionOf key = some decision ∧
          result.outcome = decision.outcome) ∨
        (system.decisionOf key = none ∧ IsHaltDenial result.outcome ∧
          system.Halted key.1 ∧
          (result.recorded = true →
            RecordedAs (system.rowOf key) result.outcome)))

structure Invariant (system : ApprovalSystem) : Prop where
  distinct : ∀ run other, (system.gates run).record.runId =
    (system.gates other).record.runId → run = other
  halted : ∀ run, (system.gates run).cancel = true ∨
    run ∈ system.canceled ∪ system.ended → system.Halted run
  onTime : ∀ acknowledgement ∈ system.acknowledged,
    acknowledgement.afterCancel = false ∧ acknowledgement.afterEnd = false
  calls : ∀ key, system.CallInvariant key

theorem Fresh.invariant {system : ApprovalSystem} (fresh : system.Fresh)
    (begins : system = start system.gates system.desk) :
    system.Invariant := by
  have approvals : ∀ key : CallKey,
      (system.gates key.1).approvals.lookup key.2 = none := by
    intro key
    rw [fresh.approvals]
    exact AList.lookup_empty key.2
  have undecided : ∀ key, system.decisionOf key = none := by
    intro key
    unfold decisionOf ApprovalGate.decisionOf
    rw [approvals]
    rfl
  have blocked : ∀ key, system.blocked.lookup key = none := by
    intro key
    rw [begins]
    exact AList.lookup_empty key
  have returned : ∀ key, system.returned.lookup key = none := by
    intro key
    rw [begins]
    exact AList.lookup_empty key
  have silent : system.acknowledged = [] := by
    rw [begins]
    rfl
  refine ⟨fresh.distinct, ?_, ?_, ?_⟩
  · rintro run (canceled | canceled)
    · cases (fresh.uncanceled run).symm.trans canceled
    · rw [begins] at canceled
      exact absurd canceled (by simp [start])
  · rw [silent]
    intro acknowledgement member
    cases member
  · intro key
    have quiet : system.acknowledgements key = [] := by
      unfold acknowledgements
      rw [silent]
      rfl
    constructor
    · rw [undecided, quiet]
      rfl
    · rw [quiet]
      intro acknowledgement member
      cases member
    · intro decision decided
      cases (undecided key).symm.trans decided
    · intro pending found
      cases (approvals key).symm.trans found
    · intro isBlocked
      exact absurd (blocked key) isBlocked
    · intro handler isBlocked
      cases (blocked key).symm.trans isBlocked
    · intro handler isBlocked
      cases (blocked key).symm.trans isBlocked
    · intro _
      exact ⟨approvals key, blocked key, returned key, fresh.rows key⟩
    · intro result isReturned
      cases (returned key).symm.trans isReturned

/-- A step leaves a call alone, up to the end of its run. -/
structure Frame (key : CallKey) (system after : ApprovalSystem) : Prop where
  runId : (after.gates key.1).record.runId =
    (system.gates key.1).record.runId
  decision : after.decisionOf key = system.decisionOf key
  pending : ∀ pending, (after.gates key.1).approvals.lookup key.2 =
    some pending → (system.gates key.1).approvals.lookup key.2 = some pending
  row : after.rowOf key = system.rowOf key
  returned : after.returned.lookup key = system.returned.lookup key
  acknowledgements : after.acknowledgements key = system.acknowledgements key
  halted : system.Halted key.1 → after.Halted key.1
  asked : key ∈ system.asked → key ∈ after.asked
  blocked : ∀ handler, after.blocked.lookup key = some handler →
    ∃ old, system.blocked.lookup key = some old ∧
      handler.run = old.run ∧ handler.request = old.request ∧
      (old.awake = true → handler.awake = true) ∧
      (after.Halted key.1 → system.Halted key.1 ∨ handler.awake = true)
  stays : system.blocked.lookup key ≠ none → after.blocked.lookup key ≠ none

theorem Frame.keeps {key : CallKey} {system after : ApprovalSystem}
    (frame : Frame key system after) (invariant : system.CallInvariant key) :
    after.CallInvariant key := by
  have unblocked : system.blocked.lookup key = none →
      after.blocked.lookup key = none := by
    intro isFree
    by_contra isBlocked
    obtain ⟨handler, found⟩ := Option.ne_none_iff_exists'.mp isBlocked
    obtain ⟨old, isOld, _⟩ := frame.blocked handler found
    cases isFree.symm.trans isOld
  constructor
  · rw [frame.decision, frame.acknowledgements]
    exact invariant.decided
  · rw [frame.decision, frame.acknowledgements]
    exact invariant.agree
  · rw [frame.decision, frame.row]
    exact invariant.stored
  · intro pending found undecided
    exact frame.stays
      (invariant.pending pending (frame.pending pending found) undecided)
  · intro isBlocked
    rw [frame.decision, frame.row]
    exact invariant.waiting fun isFree => isBlocked (unblocked isFree)
  · intro handler isBlocked
    obtain ⟨old, isOld, sameRun, sameRequest, _⟩ :=
      frame.blocked handler isBlocked
    rw [frame.runId, sameRun, sameRequest]
    exact invariant.handler old isOld
  · intro handler isBlocked
    obtain ⟨old, isOld, _, _, stays, halts⟩ := frame.blocked handler isBlocked
    rw [frame.decision]
    rintro (decided | halted)
    · exact stays (invariant.awake old isOld (.inl decided))
    · rcases halts halted with earlier | awake
      · exact stays (invariant.awake old isOld (.inr earlier))
      · exact awake
  · intro unasked
    obtain ⟨noPending, noBlocked, noReturned, noRow⟩ :=
      invariant.unasked fun isAsked => unasked (frame.asked isAsked)
    refine ⟨?_, unblocked noBlocked, frame.returned ▸ noReturned,
      frame.row ▸ noRow⟩
    by_contra isPending
    obtain ⟨pending, found⟩ := Option.ne_none_iff_exists'.mp isPending
    cases noPending.symm.trans (frame.pending pending found)
  · intro result isReturned
    rw [frame.returned] at isReturned
    obtain ⟨isFree, cause⟩ := invariant.returned result isReturned
    refine ⟨unblocked isFree, ?_⟩
    rw [frame.decision, frame.row]
    rcases cause with decided | ⟨undecided, denial, halted, recorded⟩
    · exact .inl decided
    · exact .inr ⟨undecided, denial, frame.halted halted, recorded⟩

section Steps

variable {system : ApprovalSystem} {key : CallKey}

/-- The handlers of a run are awake after a notification. -/
theorem lookup_notifyHandlers {run : RunRef} {handler : BlockedHandler}
    {blocked : FiniteMap CallKey BlockedHandler}
    (found : (notifyHandlers run blocked).lookup key = some handler) :
    ∃ old, blocked.lookup key = some old ∧ handler.run = old.run ∧
      handler.request = old.request ∧
      (old.awake = true → handler.awake = true) ∧
      (old.run = run → handler.awake = true) := by
  unfold notifyHandlers at found
  rw [FiniteMap.lookup_mapValues] at found
  obtain ⟨old, isOld, rfl⟩ := Option.map_eq_some_iff.mp found
  refine ⟨old, isOld, ?_⟩
  split
  · exact ⟨rfl, rfl, fun _ => rfl, fun _ => rfl⟩
  next other => exact ⟨rfl, rfl, id, fun same => absurd same other⟩

theorem notifyHandlers_ne_none {run : RunRef}
    {blocked : FiniteMap CallKey BlockedHandler}
    (isBlocked : blocked.lookup key ≠ none) :
    (notifyHandlers run blocked).lookup key ≠ none := by
  obtain ⟨handler, found⟩ := Option.ne_none_iff_exists'.mp isBlocked
  unfold notifyHandlers
  rw [FiniteMap.lookup_mapValues, found]
  exact Option.some_ne_none _

/-- The rows of different calls are different. -/
theorem Invariant.rowKey_ne (invariant : system.Invariant)
    {other : CallKey} (different : key ≠ other) :
    ((system.gates key.1).record.runId, key.2) ≠
      ((system.gates other.1).record.runId, other.2) := by
  intro same
  obtain ⟨sameRun, sameCall⟩ := Prod.mk.inj same
  exact different (Prod.ext (invariant.distinct _ _ sameRun) sameCall)

/-- A step of one call leaves the rest of the gate alone. -/
structure GateFrame (run : RunRef) (callId : String)
    (system after : ApprovalSystem) : Prop where
  others : ∀ other, other ≠ run → after.gates other = system.gates other
  runId : (after.gates run).record.runId = (system.gates run).record.runId
  state : (after.gates run).record.state = (system.gates run).record.state
  cancel : (after.gates run).cancel = (system.gates run).cancel
  approvals : ∀ other, other ≠ callId →
    (after.gates run).approvals.lookup other =
      (system.gates run).approvals.lookup other
  rows : ∀ row, row ≠ ((system.gates run).record.runId, callId) →
    after.desk.toolCallApprovals.lookup row =
      system.desk.toolCallApprovals.lookup row

namespace GateFrame

variable {after : ApprovalSystem} {run : RunRef} {callId : String}

theorem sameRunId (frame : GateFrame run callId system after)
    (other : RunRef) :
    (after.gates other).record.runId = (system.gates other).record.runId := by
  by_cases isRun : other = run
  · rw [isRun]
    exact frame.runId
  · rw [frame.others other isRun]

theorem sameState (frame : GateFrame run callId system after)
    (other : RunRef) : after.Halted other ↔ system.Halted other := by
  unfold Halted
  by_cases isRun : other = run
  · rw [isRun, frame.state]
  · rw [frame.others other isRun]

theorem sameCancel (frame : GateFrame run callId system after)
    (other : RunRef) :
    (after.gates other).cancel = (system.gates other).cancel := by
  by_cases isRun : other = run
  · rw [isRun]
    exact frame.cancel
  · rw [frame.others other isRun]

theorem samePending (frame : GateFrame run callId system after)
    (different : key ≠ (run, callId)) :
    (after.gates key.1).approvals.lookup key.2 =
      (system.gates key.1).approvals.lookup key.2 := by
  by_cases isRun : key.1 = run
  · have otherCall : key.2 ≠ callId :=
      fun isCall => different (Prod.ext isRun isCall)
    rw [isRun]
    exact frame.approvals key.2 otherCall
  · rw [frame.others key.1 isRun]

/-- Other calls are left alone, except for notifications. -/
theorem toFrame (frame : GateFrame run callId system after)
    (invariant : system.Invariant) (different : key ≠ (run, callId))
    (asked : key ∈ system.asked → key ∈ after.asked)
    (returned : after.returned.lookup key = system.returned.lookup key)
    (acknowledgements :
      after.acknowledgements key = system.acknowledgements key)
    (blocked : after.blocked.lookup key = system.blocked.lookup key ∨
      after.blocked.lookup key =
        (notifyHandlers run system.blocked).lookup key) :
    Frame key system after := by
  have pending := frame.samePending different
  refine ⟨frame.sameRunId key.1, ?_, ?_, ?_, returned, acknowledgements,
    (frame.sameState key.1).mpr, asked, ?_, ?_⟩
  · unfold decisionOf ApprovalGate.decisionOf
    rw [pending]
  · intro found isFound
    exact pending ▸ isFound
  · unfold rowOf
    rw [frame.sameRunId]
    exact frame.rows _ (invariant.rowKey_ne different)
  · intro handler found
    rcases blocked with same | notified
    · exact ⟨handler, same ▸ found, rfl, rfl, id,
        fun halted => .inl ((frame.sameState key.1).mp halted)⟩
    · obtain ⟨old, isOld, sameRun, sameRequest, stays, _⟩ :=
        lookup_notifyHandlers (notified ▸ found)
      exact ⟨old, isOld, sameRun, sameRequest, stays,
        fun halted => .inl ((frame.sameState key.1).mp halted)⟩
  · intro isBlocked
    rcases blocked with same | notified
    · rw [same]
      exact isBlocked
    · rw [notified]
      exact notifyHandlers_ne_none isBlocked

/-- A step of one call keeps what is known if it keeps what is known about
that call. -/
theorem invariant (frame : GateFrame run callId system after)
    (invariant : system.Invariant)
    (stopped : after.canceled ∪ after.ended = system.canceled ∪ system.ended)
    (onTime : ∀ acknowledgement ∈ after.acknowledged,
      acknowledgement.afterCancel = false ∧ acknowledgement.afterEnd = false)
    (asked : system.asked ⊆ after.asked)
    (returned : ∀ key, key ≠ (run, callId) →
      after.returned.lookup key = system.returned.lookup key)
    (acknowledgements : ∀ key, key ≠ (run, callId) →
      after.acknowledgements key = system.acknowledgements key)
    (blocked : ∀ key, key ≠ (run, callId) →
      after.blocked.lookup key = system.blocked.lookup key ∨
        after.blocked.lookup key =
          (notifyHandlers run system.blocked).lookup key)
    (self : after.CallInvariant (run, callId)) : after.Invariant := by
  refine ⟨?_, ?_, onTime, ?_⟩
  · intro first second same
    rw [frame.sameRunId, frame.sameRunId] at same
    exact invariant.distinct first second same
  · intro other
    rw [frame.sameState, frame.sameCancel, stopped]
    exact invariant.halted other
  · intro key
    by_cases isCall : key = (run, callId)
    · exact isCall ▸ self
    · exact (frame.toFrame invariant isCall (asked ·) (returned key isCall)
        (acknowledgements key isCall) (blocked key isCall)).keeps
        (invariant.calls key)

end GateFrame

/-- A step writes the gate of one run. -/
theorem GateFrame.ofGate {after : ApprovalSystem} {run : RunRef}
    {callId : String} {gate : ApprovalGate}
    (gates : after.gates = Function.update system.gates run gate)
    (runId : gate.record.runId = (system.gates run).record.runId)
    (state : gate.record.state = (system.gates run).record.state)
    (cancel : gate.cancel = (system.gates run).cancel)
    (approvals : ∀ other, other ≠ callId → gate.approvals.lookup other =
      (system.gates run).approvals.lookup other)
    (rows : ∀ row, row ≠ ((system.gates run).record.runId, callId) →
      after.desk.toolCallApprovals.lookup row =
        system.desk.toolCallApprovals.lookup row) :
    GateFrame run callId system after := by
  have isGate : after.gates run = gate := by
    rw [gates]
    exact Function.update_self ..
  refine ⟨?_, isGate ▸ runId, isGate ▸ state, isGate ▸ cancel,
    isGate ▸ approvals, rows⟩
  intro other isOther
  rw [gates]
  exact Function.update_of_ne isOther ..

theorem GateFrame.same {after : ApprovalSystem} (run : RunRef)
    (callId : String) (gates : after.gates = system.gates)
    (rows : after.desk.toolCallApprovals = system.desk.toolCallApprovals) :
    GateFrame run callId system after := by
  refine ⟨fun other _ => congrFun gates other, ?_, ?_, ?_, ?_, ?_⟩
  · rw [gates]
  · rw [gates]
  · rw [gates]
  · intro other _
    rw [gates]
  · intro row _
    rw [rows]

theorem acknowledgements_append_other (acknowledged : List
      ApprovalAcknowledgement) (last : ApprovalAcknowledgement)
    (different : key ≠ (last.run, last.callId)) :
    (acknowledged ++ [last]).filter (fun acknowledgement =>
      (acknowledgement.run, acknowledgement.callId) = key) =
    acknowledged.filter fun acknowledgement =>
      (acknowledgement.run, acknowledgement.callId) = key := by
  rw [List.filter_append, List.filter_cons_of_neg (by
    simpa using different.symm)]
  exact List.append_nil _

theorem acknowledgements_append_self (acknowledged : List
      ApprovalAcknowledgement) (last : ApprovalAcknowledgement)
    (isCall : (last.run, last.callId) = key) :
    (acknowledged ++ [last]).filter (fun acknowledgement =>
      (acknowledgement.run, acknowledgement.callId) = key) =
    acknowledged.filter (fun acknowledgement =>
      (acknowledgement.run, acknowledgement.callId) = key) ++ [last] := by
  rw [List.filter_append, List.filter_cons_of_pos (by simpa using isCall)]
  rfl

theorem Frame.refl_asked (asked : Finset CallKey)
    (grows : system.asked ⊆ asked) :
    Frame key system { system with asked := asked } :=
  ⟨rfl, rfl, fun _ found => found, rfl, rfl, rfl, id, fun isAsked =>
    grows isAsked, fun handler found => ⟨handler, found, rfl, rfl, id, .inl⟩,
    id⟩

/-- A call without a decision has no acknowledgements. -/
theorem CallInvariant.unacknowledged (invariant : system.CallInvariant key)
    (undecided : system.decisionOf key = none) :
    system.acknowledgements key = [] := by
  have first := invariant.decided
  rw [undecided] at first
  exact List.head?_eq_none_iff.mp (Option.map_eq_none_iff.mp first.symm)

/-- What is known about a call that was just asked for. -/
theorem CallInvariant.asked {after : ApprovalSystem}
    {pending : PendingApproval} {handler : BlockedHandler}
    {row : ToolCallApprovalRecord}
    (found : (after.gates key.1).approvals.lookup key.2 = some pending)
    (undecided : pending.decision = none)
    (silent : after.acknowledgements key = [])
    (isRow : after.rowOf key = some row) (isOpen : row.decision = none)
    (isBlocked : after.blocked.lookup key = some handler)
    (waits : handler.run = key.1 ∧ handler.request.callId.value = key.2 ∧
      handler.request.runId.value = (after.gates key.1).record.runId)
    (awake : handler.awake = true) (isAsked : key ∈ after.asked)
    (unreturned : after.returned.lookup key = none) :
    after.CallInvariant key := by
  have noDecision : after.decisionOf key = none := by
    unfold decisionOf ApprovalGate.decisionOf
    rw [found]
    exact undecided
  constructor
  · rw [noDecision, silent]
    rfl
  · rw [silent]
    intro acknowledgement member
    cases member
  · intro decision decided
    cases noDecision.symm.trans decided
  · intro _ _ _
    rw [isBlocked]
    exact Option.some_ne_none _
  · intro _ _
    exact ⟨row, isRow, isOpen⟩
  · intro other isOther
    cases isBlocked.symm.trans isOther
    exact waits
  · intro other isOther _
    cases isBlocked.symm.trans isOther
    exact awake
  · intro unasked
    exact absurd isAsked unasked
  · intro result isReturned
    cases unreturned.symm.trans isReturned

theorem Invariant.ask (invariant : system.Invariant)
    (shown : AppError → String) {run : RunRef}
    {request : ApprovalRequest} {threadYolo sessionYolo : Bool}
    {attempt : StoreAttempt}
    (unasked : (run, request.callId.value) ∉ system.asked) :
    (system.ask shown run request threadYolo sessionYolo attempt).Invariant := by
  have answered : ({ system with
      asked := insert (run, request.callId.value) system.asked } :
        ApprovalSystem).Invariant :=
    ⟨invariant.distinct, invariant.halted, invariant.onTime, fun key =>
      (Frame.refl_asked _ (Finset.subset_insert ..)).keeps
        (invariant.calls key)⟩
  unfold ApprovalSystem.ask
  dsimp only
  split
  · exact answered
  · exact answered
  next asked =>
    obtain ⟨rows, gate, sameRun, persisted, runId, state, cancel, approvals,
      isAsked⟩ := ApprovalGate.ask_eq_asked asked
    obtain ⟨noPending, noBlocked, noReturned, noRow⟩ :=
      (invariant.calls _).unasked unasked
    have silent : system.acknowledgements (run, request.callId.value) = [] := by
      refine (invariant.calls _).unacknowledged ?_
      unfold decisionOf ApprovalGate.decisionOf
      rw [noPending]
      rfl
    obtain ⟨row, isOpen, isRows⟩ := persistApprovalRequest_eq_ok persisted
      (sameRun ▸ noRow)
    rw [isAsked]
    have isGate : Function.update system.gates run gate run = gate :=
      Function.update_self ..
    refine (GateFrame.ofGate rfl runId state cancel ?_ ?_).invariant invariant
      rfl invariant.onTime (Finset.subset_insert ..) (fun _ _ => rfl)
      (fun _ _ => rfl) (fun key isOther => .inl (AList.lookup_insert_ne isOther))
      (@CallInvariant.asked (run, request.callId.value) _
        ⟨(system.gates run).record.sessionId, request, none⟩
        ⟨run, request, true⟩ row ?_ rfl silent ?_ isOpen
        (AList.lookup_insert _) ⟨rfl, rfl, ?_⟩ rfl
        (Finset.mem_insert_self ..) noReturned)
    · intro other isOther
      rw [approvals]
      exact AList.lookup_insert_ne isOther
    · intro other isOther
      rw [← sameRun] at isOther
      rw [isRows]
      exact AList.lookup_insert_ne isOther
    · dsimp only [withGate]
      rw [isGate, approvals]
      exact AList.lookup_insert _
    · dsimp only [rowOf, withGate]
      rw [isGate, runId, ← sameRun, isRows]
      exact AList.lookup_insert _
    · dsimp only [withGate]
      rw [isGate, runId]
      exact sameRun

theorem withGate_same (run : RunRef) :
    system.withGate run (system.gates run) = system := by
  unfold withGate
  rw [Function.update_eq_self]

/-- The handler of a decided call returns the decision. -/
theorem CallInvariant.returnDecision (known : system.CallInvariant key)
    {decision : PendingApprovalDecision}
    (decided : system.decisionOf key = some decision) (recorded : Bool) :
    ({ system with
      blocked := system.blocked.erase key
      returned := system.returned.insert key
        ⟨decision.outcome, recorded⟩ } : ApprovalSystem).CallInvariant
          key := by
  have free : (system.blocked.erase key).lookup key = none :=
    AList.lookup_erase ..
  refine ⟨known.decided, known.agree, known.stored, ?_, ?_, ?_, ?_, ?_, ?_⟩
  · intro pending found undecided
    have none : system.decisionOf key = none := by
      unfold decisionOf ApprovalGate.decisionOf
      rw [found]
      exact undecided
    cases none.symm.trans decided
  · intro isBlocked
    exact absurd free isBlocked
  · intro handler isBlocked
    cases free.symm.trans isBlocked
  · intro handler isBlocked
    cases free.symm.trans isBlocked
  · intro unasked
    obtain ⟨noPending, _⟩ := known.unasked unasked
    unfold decisionOf ApprovalGate.decisionOf at decided
    rw [noPending] at decided
    cases decided
  · intro result isReturned
    refine ⟨free, .inl ⟨decision, decided, ?_⟩⟩
    rw [AList.lookup_insert] at isReturned
    exact congrArg ApprovalReturn.outcome (Option.some.inj isReturned).symm

/-- A handler that goes on waiting has nothing to return. -/
theorem CallInvariant.sleep (known : system.CallInvariant key)
    {handler : BlockedHandler}
    (isBlocked : system.blocked.lookup key = some handler)
    (undecided : system.decisionOf key = none)
    (running : ¬ system.Halted key.1) :
    ({ system with
      blocked := system.blocked.insert key
        { handler with awake := false } } : ApprovalSystem).CallInvariant
          key := by
  have sleeps : (system.blocked.insert key { handler with
      awake := false }).lookup key = some { handler with awake := false } :=
    AList.lookup_insert _
  refine ⟨known.decided, known.agree, known.stored, ?_, ?_, ?_, ?_, ?_, ?_⟩
  · intro _ _ _ free
    cases sleeps.symm.trans free
  · intro _
    exact known.waiting (by simp [isBlocked])
  · intro other found
    cases sleeps.symm.trans found
    exact known.handler handler isBlocked
  · intro _ _ cause
    rcases cause with decided | halted
    · exact absurd undecided decided
    · exact absurd halted running
  · intro unasked
    cases isBlocked.symm.trans (known.unasked unasked).2.1
  · intro result isReturned
    cases isBlocked.symm.trans (known.returned result isReturned).1

/-- A handler returns the denial of the daemon. -/
theorem CallInvariant.returnDenial {after : ApprovalSystem}
    {result : ApprovalReturn}
    (silent : after.acknowledgements key = [])
    (noPending : (after.gates key.1).approvals.lookup key.2 = none)
    (free : after.blocked.lookup key = none)
    (isReturned : after.returned.lookup key = some result)
    (isAsked : key ∈ after.asked) (denial : IsHaltDenial result.outcome)
    (halted : after.Halted key.1)
    (recorded : result.recorded = true →
      RecordedAs (after.rowOf key) result.outcome) :
    after.CallInvariant key := by
  have undecided : after.decisionOf key = none := by
    unfold decisionOf ApprovalGate.decisionOf
    rw [noPending]
    rfl
  constructor
  · rw [undecided, silent]
    rfl
  · rw [silent]
    intro acknowledgement member
    cases member
  · intro decision decided
    cases undecided.symm.trans decided
  · intro pending found
    cases noPending.symm.trans found
  · intro isBlocked
    exact absurd free isBlocked
  · intro handler isBlocked
    cases free.symm.trans isBlocked
  · intro handler isBlocked
    cases free.symm.trans isBlocked
  · intro unasked
    exact absurd isAsked unasked
  · intro other isOther
    cases isReturned.symm.trans isOther
    exact ⟨free, .inr ⟨undecided, denial, halted, recorded⟩⟩

theorem Invariant.wake (invariant : system.Invariant)
    {handler : BlockedHandler} {attempt : StoreAttempt}
    (isBlocked : system.blocked.lookup key = some handler) :
    (system.wake key handler attempt).Invariant := by
  have known := invariant.calls key
  obtain ⟨_, sameCall, sameRun⟩ := known.handler handler isBlocked
  have isAsked : key ∈ system.asked := by
    by_contra unasked
    cases isBlocked.symm.trans (known.unasked unasked).2.1
  unfold ApprovalSystem.wake
  dsimp only
  rcases (system.gates key.1).wake_cases system.desk handler.request attempt
    with ⟨decision, decided, passes⟩ | ⟨undecided, uncanceled, running, passes⟩ |
      ⟨reason, undecided, cause, passes⟩
  · rw [passes]
    dsimp only
    rw [withGate_same]
    rw [sameCall] at decided
    refine @GateFrame.invariant system _ key.1 key.2 ?_ invariant rfl
      invariant.onTime (fun _ => id)
      (fun other isOther => AList.lookup_insert_ne isOther) (fun _ _ => rfl)
      (fun other isOther => .inl (AList.lookup_erase_ne isOther))
      (known.returnDecision decided _)
    exact .same _ _ rfl rfl
  · rw [passes]
    dsimp only
    rw [sameCall] at undecided
    refine @GateFrame.invariant system _ key.1 key.2 ?_ invariant rfl
      invariant.onTime (fun _ => id) (fun _ _ => rfl) (fun _ _ => rfl)
      (fun other isOther => .inl (AList.lookup_insert_ne isOther))
      (known.sleep isBlocked undecided (not_not.mpr running))
    exact .same _ _ rfl rfl
  · rw [passes]
    dsimp only [ApprovalGate.deny]
    have halted : system.Halted key.1 := by
      rcases cause with ⟨canceled, _⟩ | ⟨halted, _⟩
      · exact invariant.halted key.1 (.inl canceled)
      · exact halted
    have isDenial : IsHaltDenial (daemonDenial reason) := by
      rcases cause with ⟨_, rfl⟩ | ⟨_, rfl⟩
      · exact .inl rfl
      · exact .inr rfl
    have isRow : (handler.request.runId.value, handler.request.callId.value) =
        ((system.gates key.1).record.runId, key.2) := by
      rw [sameRun, sameCall]
    generalize isNew : ({ system.gates key.1 with
        approvals := (system.gates key.1).approvals.erase
          handler.request.callId.value } : ApprovalGate) = gate
    have isGate : Function.update system.gates key.1 gate key.1 = gate :=
      Function.update_self ..
    rw [undecided]
    rw [sameCall] at undecided
    refine (@GateFrame.ofGate system _ key.1 key.2 gate rfl (isNew ▸ rfl)
      (isNew ▸ rfl) (isNew ▸ rfl) ?_ ?_).invariant invariant rfl
      invariant.onTime (fun _ => id)
      (fun other isOther => AList.lookup_insert_ne isOther) (fun _ _ => rfl)
      (fun other isOther => .inl (AList.lookup_erase_ne isOther))
      (CallInvariant.returnDenial (known.unacknowledged undecided) ?_
        (AList.lookup_erase ..) (AList.lookup_insert _) isAsked isDenial ?_ ?_)
    · intro other isOther
      rw [← isNew, sameCall]
      exact AList.lookup_erase_ne isOther
    · intro row isOther
      exact recordDaemonDenial_other (isRow ▸ isOther)
    · dsimp only [withGate]
      rw [isGate, ← isNew, sameCall]
      exact AList.lookup_erase ..
    · unfold Halted
      dsimp only [withGate]
      rw [isGate, ← isNew]
      exact halted
    · intro isRecorded
      obtain ⟨row, found, isOpen⟩ := known.waiting (by simp [isBlocked])
        undecided
      unfold rowOf at found ⊢
      dsimp only [withGate]
      rw [isGate, ← isNew]
      unfold recordDaemonDenial
      cases written : recordApprovalDecision system.desk.toolCallApprovals
          handler.request.runId.value handler.request.callId.value
          (daemonDenial reason) attempt with
      | error error =>
          rw [written] at isRecorded
          cases isRecorded
      | ok rows =>
          rw [← isRow] at found ⊢
          exact ⟨_, attempt.nowMs,
            recordApprovalDecision_self written found isOpen, rfl⟩

theorem outcome_actor (params : ApprovalDecideParams)
    (attributedActor : Option ActorId) :
    (params.outcome (params.decisionActor attributedActor)).actor =
      params.decisionActor attributedActor := by
  unfold ApprovalDecideParams.outcome ApprovalDecideParams.decisionActor
  cases params.decision <;> rfl

/-- Grants of sessions do not matter to calls that wait. -/
theorem Invariant.withDesk (invariant : system.Invariant)
    {desk : ApprovalDesk}
    (rows : desk.toolCallApprovals = system.desk.toolCallApprovals) :
    ({ system with desk := desk } : ApprovalSystem).Invariant := by
  refine ⟨invariant.distinct, invariant.halted, invariant.onTime, fun key => ?_⟩
  have frame : Frame key system { system with desk := desk } := by
    refine ⟨rfl, rfl, fun _ => id, ?_, rfl, rfl, id, id, ?_, id⟩
    · unfold rowOf
      rw [rows]
    · intro handler found
      exact ⟨handler, found, rfl, rfl, id, .inl⟩
  exact frame.keeps (invariant.calls key)

/-- A decision is repeated. -/
theorem CallInvariant.repeatDecision {after : ApprovalSystem}
    (known : system.CallInvariant key) (last : ApprovalAcknowledgement)
    {existing : PendingApprovalDecision} (decided : system.decisionOf key = some existing)
    (sameDecision : existing.decision = last.decision)
    (sameActor : existing.outcome.actor = last.actor)
    (gates : after.gates = system.gates) (desk : after.desk = system.desk)
    (asked : after.asked = system.asked)
    (blocked : after.blocked = system.blocked)
    (returned : after.returned = system.returned)
    (acknowledgements : after.acknowledgements key =
      system.acknowledgements key ++ [last]) :
    after.CallInvariant key := by
  have stillDecided : after.decisionOf key = some existing := by
    unfold decisionOf at decided ⊢
    rw [gates]
    exact decided
  have sameRow : after.rowOf key = system.rowOf key := by
    unfold rowOf
    rw [gates, desk]
  constructor
  · rw [acknowledgements, List.head?_append, stillDecided, ← decided]
    have first := known.decided
    rw [decided] at first
    obtain ⟨acknowledgement, isFirst, _⟩ :=
      Option.map_eq_some_iff.mp first.symm
    rw [known.decided, isFirst]
    rfl
  · rw [acknowledgements]
    intro acknowledgement member decision isDecision
    cases stillDecided.symm.trans isDecision
    rcases List.mem_append.mp member with earlier | isLast
    · exact known.agree acknowledgement earlier existing decided
    · rw [List.mem_singleton.mp isLast]
      exact ⟨sameDecision.symm, sameActor.symm⟩
  · intro decision isDecision
    cases stillDecided.symm.trans isDecision
    rw [sameRow]
    exact known.stored existing decided
  · rw [gates, blocked]
    exact known.pending
  · intro _ undecided
    cases stillDecided.symm.trans undecided
  · rw [gates, blocked]
    exact known.handler
  · intro handler isBlocked _
    rw [blocked] at isBlocked
    exact known.awake handler isBlocked (.inl (by simp [decided]))
  · rw [asked, gates, blocked, returned, sameRow]
    exact known.unasked
  · intro result isReturned
    rw [returned] at isReturned
    obtain ⟨free, cause⟩ := known.returned result isReturned
    refine ⟨blocked ▸ free, .inl ⟨existing, stillDecided, ?_⟩⟩
    rcases cause with ⟨decision, isDecision, isOutcome⟩ | ⟨undecided, _⟩
    · cases decided.symm.trans isDecision
      exact isOutcome
    · cases decided.symm.trans undecided

/-- A call gets its decision. -/
theorem CallInvariant.decideFirst {after : ApprovalSystem}
    (known : system.CallInvariant key) (first : ApprovalAcknowledgement)
    {pending : PendingApproval}
    (found : (system.gates key.1).approvals.lookup key.2 = some pending)
    (undecided : pending.decision = none)
    (runId : (after.gates key.1).record.runId =
      (system.gates key.1).record.runId)
    (decided : (after.gates key.1).approvals.lookup key.2 =
      some { pending with decision := some ⟨first.decision, first.outcome⟩ })
    (actor : first.outcome.actor = first.actor)
    (isRow : RecordedAs (after.rowOf key) first.outcome)
    (blocked : after.blocked = notifyHandlers key.1 system.blocked)
    (returned : after.returned = system.returned)
    (acknowledgements : after.acknowledgements key =
      system.acknowledgements key ++ [first])
    (isAsked : key ∈ after.asked) :
    after.CallInvariant key := by
  have wasUndecided : system.decisionOf key = none := by
    unfold decisionOf ApprovalGate.decisionOf
    rw [found]
    exact undecided
  have isDecided : after.decisionOf key =
      some ⟨first.decision, first.outcome⟩ := by
    unfold decisionOf ApprovalGate.decisionOf
    rw [decided]
    rfl
  have only : after.acknowledgements key = [first] := by
    rw [acknowledgements, known.unacknowledged wasUndecided]
    rfl
  constructor
  · rw [isDecided, only]
    rfl
  · rw [only]
    intro acknowledgement member decision isDecision
    cases isDecided.symm.trans isDecision
    rw [List.mem_singleton.mp member]
    exact ⟨rfl, actor.symm⟩
  · intro decision isDecision
    cases isDecided.symm.trans isDecision
    exact isRow
  · intro other isOther isOpen
    rw [decided] at isOther
    cases isOther
    cases isOpen
  · intro _ isOpen
    cases isDecided.symm.trans isOpen
  · intro handler isBlocked
    rw [blocked] at isBlocked
    obtain ⟨old, isOld, sameRun, sameRequest, _⟩ :=
      lookup_notifyHandlers isBlocked
    rw [sameRun, sameRequest, runId]
    exact known.handler old isOld
  · intro handler isBlocked _
    rw [blocked] at isBlocked
    obtain ⟨old, isOld, _, _, _, awake⟩ := lookup_notifyHandlers isBlocked
    exact awake (known.handler old isOld).1
  · intro unasked
    exact absurd isAsked unasked
  · intro result isReturned
    rw [returned] at isReturned
    exact absurd (known.returned result isReturned).1
      (known.pending pending found undecided)

theorem Invariant.decide (invariant : system.Invariant) (run : RunRef)
    (params : ApprovalDecideParams) (attributedActor : Option ActorId)
    (attempt : StoreAttempt) :
    (system.decide run params attributedActor attempt).Invariant := by
  have known := invariant.calls (run, params.toolCallId)
  have onTime : (system.gates run).record.state = .running →
      ∀ acknowledgement ∈ system.acknowledged ++
        [system.acknowledgement run params
          (params.decisionActor attributedActor)],
        acknowledgement.afterCancel = false ∧
          acknowledgement.afterEnd = false := by
    intro running acknowledgement member
    rcases List.mem_append.mp member with earlier | isLast
    · exact invariant.onTime acknowledgement earlier
    · rw [List.mem_singleton.mp isLast]
      have active : run ∉ system.canceled ∪ system.ended := fun stopped =>
        invariant.halted run (.inr stopped) running
      rw [Finset.mem_union, not_or] at active
      exact ⟨decide_eq_false active.1, decide_eq_false active.2⟩
  unfold ApprovalSystem.decide
  dsimp only
  rcases (system.gates run).decide_cases system.desk params
      (params.decisionActor attributedActor) attempt with
    ⟨error, desk, decides, rows⟩ |
      ⟨existing, decided, sameDecision, sameActor, running, decides⟩ |
      ⟨pending, desk, found, undecided, running, recorded, decides⟩
  · rw [decides]
    dsimp only
    rw [withGate_same]
    exact invariant.withDesk rows
  · rw [decides]
    dsimp only
    rw [withGate_same, decided, if_pos Option.isSome_some]
    refine @GateFrame.invariant system _ run params.toolCallId
      (.same _ _ rfl rfl) invariant rfl (onTime running) (fun _ => id)
      (fun _ _ => rfl)
      (fun _ isOther => acknowledgements_append_other _ _ isOther)
      (fun _ _ => .inl rfl)
      (known.repeatDecision (system.acknowledgement run params
        (params.decisionActor attributedActor)) decided sameDecision sameActor
        rfl rfl rfl rfl rfl (acknowledgements_append_self _ _ rfl))
  · rw [decides]
    dsimp only
    have wasUndecided : (system.gates run).decisionOf params.toolCallId =
        none := by
      unfold ApprovalGate.decisionOf
      rw [found]
      exact undecided
    have isAsked : (run, params.toolCallId) ∈ system.asked := by
      by_contra unasked
      cases found.symm.trans (known.unasked unasked).1
    obtain ⟨row, isRow, isOpen⟩ := known.waiting
      (known.pending pending found undecided) wasUndecided
    generalize isNew : ({ system.gates run with
        approvals := (system.gates run).approvals.insert params.toolCallId
          { pending with
            decision := some ⟨params.decision, params.outcome
              (params.decisionActor attributedActor)⟩ } } :
        ApprovalGate) = gate
    have isGate : Function.update system.gates run gate run = gate :=
      Function.update_self ..
    rw [wasUndecided, if_neg (by simp)]
    refine (@GateFrame.ofGate system _ run params.toolCallId gate rfl
      (isNew ▸ rfl) (isNew ▸ rfl) (isNew ▸ rfl) ?_ ?_).invariant invariant rfl
      (onTime running) (fun _ => id) (fun _ _ => rfl)
      (fun _ isOther => acknowledgements_append_other _ _ isOther)
      (fun _ _ => .inr rfl)
      (known.decideFirst (system.acknowledgement run params
        (params.decisionActor attributedActor)) found undecided ?_ ?_
        (outcome_actor ..) ?_ rfl rfl (acknowledgements_append_self _ _ rfl)
        isAsked)
    · intro other isOther
      rw [← isNew]
      exact AList.lookup_insert_ne isOther
    · intro other isOther
      exact recordApprovalDecision_other recorded isOther
    · dsimp only [withGate]
      rw [isGate, ← isNew]
    · dsimp only [withGate]
      rw [isGate, ← isNew]
      exact AList.lookup_insert _
    · unfold rowOf at isRow ⊢
      dsimp only [withGate]
      rw [isGate, ← isNew]
      exact ⟨_, attempt.nowMs,
        recordApprovalDecision_self recorded isRow isOpen, rfl⟩

/-- What the end of a run, or its cancellation, does to a call. -/
theorem Frame.halt {after : ApprovalSystem} {run : RunRef}
    {gate : ApprovalGate} (known : system.CallInvariant key)
    (gates : after.gates = Function.update system.gates run gate)
    (runId : gate.record.runId = (system.gates run).record.runId)
    (approvals : gate.approvals =
      (system.gates run).dropUndecided.approvals)
    (halted : gate.record.state ≠ .running)
    (desk : after.desk = system.desk) (asked : after.asked = system.asked)
    (blocked : after.blocked = notifyHandlers run system.blocked)
    (returned : after.returned = system.returned)
    (acknowledged : after.acknowledged = system.acknowledged) :
    Frame key system after := by
  have sameAcknowledgements : after.acknowledgements key =
      system.acknowledgements key := by
    unfold ApprovalSystem.acknowledgements
    rw [acknowledged]
  have notified : ∀ handler, after.blocked.lookup key = some handler →
      ∃ old, system.blocked.lookup key = some old ∧
        handler.run = old.run ∧ handler.request = old.request ∧
        (old.awake = true → handler.awake = true) ∧
        (key.1 = run → handler.awake = true) := by
    intro handler isBlocked
    rw [blocked] at isBlocked
    obtain ⟨old, isOld, sameRun, sameRequest, stays, awake⟩ :=
      lookup_notifyHandlers isBlocked
    exact ⟨old, isOld, sameRun, sameRequest, stays, fun isRun =>
      awake ((known.handler old isOld).1.trans isRun)⟩
  by_cases isRun : key.1 = run
  · have isGate : after.gates key.1 = gate := by
      rw [gates, isRun]
      exact Function.update_self ..
    refine ⟨?_, ?_, ?_, ?_, by rw [returned], sameAcknowledgements, ?_,
      by rw [asked]; exact id, ?_, ?_⟩
    · rw [isGate, runId, isRun]
    · unfold decisionOf
      rw [isGate, isRun, ← (system.gates run).decisionOf_dropUndecided]
      unfold ApprovalGate.decisionOf
      rw [approvals]
    · intro pending found
      rw [isGate, approvals] at found
      rw [isRun]
      exact (ApprovalGate.lookup_dropUndecided.mp found).1
    · unfold rowOf
      rw [desk, isGate, runId, isRun]
    · intro _
      unfold Halted
      rw [isGate]
      exact halted
    · intro handler isBlocked
      obtain ⟨old, isOld, sameRun, sameRequest, stays, awake⟩ :=
        notified handler isBlocked
      exact ⟨old, isOld, sameRun, sameRequest, stays,
        fun _ => .inr (awake isRun)⟩
    · intro isBlocked
      rw [blocked]
      exact notifyHandlers_ne_none isBlocked
  · have isGate : after.gates key.1 = system.gates key.1 := by
      rw [gates]
      exact Function.update_of_ne isRun ..
    refine ⟨?_, ?_, ?_, ?_, by rw [returned], sameAcknowledgements, ?_,
      by rw [asked]; exact id, ?_, ?_⟩
    · rw [isGate]
    · unfold decisionOf
      rw [isGate]
    · rw [isGate]
      exact fun _ => id
    · unfold rowOf
      rw [desk, isGate]
    · unfold Halted
      rw [isGate]
      exact id
    · intro handler isBlocked
      obtain ⟨old, isOld, sameRun, sameRequest, stays, _⟩ :=
        notified handler isBlocked
      refine ⟨old, isOld, sameRun, sameRequest, stays, fun isHalted => .inl ?_⟩
      unfold Halted at isHalted ⊢
      rw [← isGate]
      exact isHalted
    · intro isBlocked
      rw [blocked]
      exact notifyHandlers_ne_none isBlocked

theorem Invariant.halt (invariant : system.Invariant)
    {after : ApprovalSystem} {run : RunRef} {gate : ApprovalGate}
    (gates : after.gates = Function.update system.gates run gate)
    (runId : gate.record.runId = (system.gates run).record.runId)
    (approvals : gate.approvals =
      (system.gates run).dropUndecided.approvals)
    (halted : gate.record.state ≠ .running)
    (desk : after.desk = system.desk) (asked : after.asked = system.asked)
    (blocked : after.blocked = notifyHandlers run system.blocked)
    (returned : after.returned = system.returned)
    (acknowledged : after.acknowledged = system.acknowledged)
    (stopped : after.canceled ∪ after.ended ⊆
      insert run (system.canceled ∪ system.ended)) :
    after.Invariant := by
  have isGate : after.gates run = gate := by
    rw [gates]
    exact Function.update_self ..
  have others : ∀ other, other ≠ run →
      after.gates other = system.gates other := by
    intro other isOther
    rw [gates]
    exact Function.update_of_ne isOther ..
  have sameRunId : ∀ other, (after.gates other).record.runId =
      (system.gates other).record.runId := by
    intro other
    by_cases isRun : other = run
    · rw [isRun, isGate, runId]
    · rw [others other isRun]
  refine ⟨?_, ?_, ?_, fun key => ?_⟩
  · intro first second same
    rw [sameRunId, sameRunId] at same
    exact invariant.distinct first second same
  · intro other cause
    unfold Halted
    by_cases isRun : other = run
    · rw [isRun, isGate]
      exact halted
    · rw [others other isRun] at cause ⊢
      refine invariant.halted other (cause.imp_right fun isStopped => ?_)
      exact Finset.mem_of_mem_insert_of_ne (stopped isStopped) isRun
  · rw [acknowledged]
    exact invariant.onTime
  · exact (Frame.halt (invariant.calls key) gates runId approvals halted desk
      asked blocked returned acknowledged).keeps (invariant.calls key)

theorem Invariant.complete (invariant : system.Invariant) (run : RunRef)
    {status : RunStateName} (ended : status.isActive = false) :
    (system.complete run status).Invariant := by
  refine @Invariant.halt system invariant _ run
    ((system.gates run).complete status) rfl rfl rfl ?_ rfl rfl rfl rfl rfl
    (Finset.union_insert ..).subset
  rintro (rfl : status = .running)
  cases ended

theorem Invariant.cancel (invariant : system.Invariant) (run : RunRef)
    (before : Except AppError Unit) :
    (system.cancel run before).Invariant := by
  unfold ApprovalSystem.cancel
  split
  · exact invariant
  · exact invariant
  next state gate accepted =>
    unfold ApprovalGate.requestCancelAfter at accepted
    split at accepted
    next running =>
      cases before with
      | error error => cases accepted
      | ok done =>
          rw [if_pos running]
          cases accepted
          refine @Invariant.halt system invariant _ run _ rfl rfl rfl ?_ rfl
            rfl rfl rfl rfl (Finset.insert_union ..).subset
          rintro ⟨⟩
    next requested =>
      cases accepted
      rw [withGate_same, if_neg (by simp [requested])]
      refine ⟨invariant.distinct, ?_, invariant.onTime, fun key => ?_⟩
      · intro other cause
        by_cases isRun : other = run
        · unfold Halted
          rw [isRun]
          simp [requested]
        · refine invariant.halted other (cause.imp_right fun isStopped => ?_)
          rw [Finset.insert_union] at isStopped
          exact Finset.mem_of_mem_insert_of_ne isStopped isRun
      · have known := invariant.calls key
        exact ⟨known.decided, known.agree, known.stored, known.pending,
          known.waiting, known.handler, known.awake, known.unasked,
          known.returned⟩
    all_goals cases accepted

theorem Invariant.step (invariant : system.Invariant)
    {shown : AppError → String} {action : ApprovalAction}
    {after : ApprovalSystem} (stepped : system.step shown action = some after) :
    after.Invariant := by
  cases action with
  | ask run request threadYolo sessionYolo attempt =>
      obtain ⟨unasked, isAfter⟩ := Option.ite_none_left_eq_some.mp stepped
      rw [← Option.some.inj isAfter]
      exact invariant.ask shown unasked
  | wake key attempt =>
      obtain ⟨handler, isBlocked, rfl⟩ := Option.map_eq_some_iff.mp stepped
      exact invariant.wake isBlocked
  | decide run params attributedActor attempt =>
      rw [← Option.some.inj stepped]
      exact invariant.decide run params attributedActor attempt
  | cancel run before =>
      rw [← Option.some.inj stepped]
      exact invariant.cancel run before
  | complete run status =>
      obtain ⟨ended, isAfter⟩ := Option.ite_none_left_eq_some.mp stepped
      rw [← Option.some.inj isAfter]
      exact invariant.complete run (by simpa using ended)

theorem Invariant.agreed (invariant : system.Invariant) : system.Agreed := by
  constructor
  · exact fun run stopped => invariant.halted run (.inr stopped)
  · intro key result isReturned
    have known := invariant.calls key
    rcases (known.returned result isReturned).2 with
      ⟨decision, decided, isOutcome⟩ | ⟨undecided, denial, halted, _⟩
    · have first := known.decided
      rw [decided] at first
      obtain ⟨acknowledgement, isFirst, isDecision⟩ :=
        Option.map_eq_some_iff.mp first.symm
      obtain ⟨rest, isList⟩ := List.head?_eq_some_iff.mp isFirst
      refine .inl ⟨acknowledgement, rest, isList, ?_⟩
      rw [isOutcome, ← isDecision]
    · exact .inr ⟨known.unacknowledged undecided, denial, halted⟩
  · intro key first rest isList later member
    have known := invariant.calls key
    have decided := known.decided
    rw [isList] at decided
    obtain ⟨firstDecision, firstActor⟩ := known.agree first
      (isList ▸ List.mem_cons_self) _ decided
    obtain ⟨laterDecision, laterActor⟩ := known.agree later
      (isList ▸ List.mem_cons_of_mem _ member) _ decided
    exact ⟨laterDecision, laterActor.trans firstActor.symm⟩
  · exact invariant.onTime
  · intro key result isReturned isRecorded
    have known := invariant.calls key
    rcases (known.returned result isReturned).2 with
      ⟨decision, decided, isOutcome⟩ | ⟨_, _, _, recorded⟩
    · rw [isOutcome]
      exact known.stored decision decided
    · exact recorded isRecorded
  · intro key handler isBlocked cause
    have known := invariant.calls key
    refine known.awake handler isBlocked (cause.imp_left fun acknowledged => ?_)
    exact fun undecided => acknowledged (known.unacknowledged undecided)
  · intro key handler attempt isBlocked cause
    have known := invariant.calls key
    obtain ⟨_, sameCall, _⟩ := known.handler handler isBlocked
    unfold ApprovalSystem.wake
    dsimp only
    rcases (system.gates key.1).wake_cases system.desk handler.request attempt
      with ⟨_, _, passes⟩ | ⟨undecided, _, running, _⟩ | ⟨_, _, _, passes⟩
    · rw [passes]
      exact ⟨_, AList.lookup_insert _⟩
    · rw [sameCall] at undecided
      rcases cause with acknowledged | halted
      · exact absurd (known.unacknowledged undecided) acknowledged
      · exact absurd running halted
    · rw [passes]
      exact ⟨_, AList.lookup_insert _⟩

/-- The outcome that a handler returns, the decisions that were acknowledged
and the stored approvals agree in every run. -/
theorem approvalHandler_agreed (shown : AppError → String)
    {gates : RunRef → ApprovalGate} {desk : ApprovalDesk}
    (fresh : (start gates desk).Fresh)
    (reached : Reaches (step shown) anyStep (start gates desk) system) :
    system.Agreed := by
  have invariant : system.Invariant := reached.invariant
    (fresh.invariant rfl) fun _ _ _ invariant _ stepped =>
      invariant.step stepped
  exact invariant.agreed

end Steps

/-- Runs `r`, `rr`, … of one session. -/
def sampleGate (run : RunRef) : ApprovalGate where
  record := ⟨String.ofList (List.replicate run 'r'), "session_1", none, .running,
    .empty⟩
  cancel := false
  approvals := ∅

theorem sampleGate_fresh : (start sampleGate ⟨∅, ∅⟩).Fresh := by
  refine ⟨?_, fun _ => rfl, fun _ => rfl, fun _ => rfl, fun key => ?_⟩
  · intro run other same
    have lists := congrArg List.length (String.ofList_injective same)
    simpa using lists
  · exact AList.lookup_empty _

/-- A client grants a call of a run that is canceled then, and its handler returns
the grant; another run is completed while a call waits, and its handler denies. -/
theorem approvalHandler_agreed_granted :
    ∃ system, Reaches (step fun _ => "") anyStep (start sampleGate ⟨∅, ∅⟩)
        system ∧
      system.returned.lookup (1, "call_1") =
        some ⟨.granted "daemon", true⟩ ∧
      system.returned.lookup (2, "call_1") =
        some ⟨daemonDenial "run is no longer active", true⟩ ∧
      system.canceled = {1} ∧ system.ended = {2} ∧ system.Agreed := by
  have reached : ∃ system,
      Reaches (step fun _ => "") anyStep (start sampleGate ⟨∅, ∅⟩) system ∧
        system.returned.lookup (1, "call_1") =
          some ⟨.granted "daemon", true⟩ ∧
        system.returned.lookup (2, "call_1") =
          some ⟨daemonDenial "run is no longer active", true⟩ ∧
        system.canceled = {1} ∧ system.ended = {2} :=
    ⟨_, Reaches.run .start (show List.foldlM (step fun _ => "")
      (start sampleGate ⟨∅, ∅⟩)
      [.ask 1 sampleShellRequest false false ⟨0, none⟩,
        .decide 1 ⟨"r", "call_1", .grant, none, none⟩ none ⟨2, none⟩,
        .cancel 1 (.ok ()),
        .wake (1, "call_1") ⟨4, none⟩,
        .ask 2 { sampleShellRequest with runId := ⟨"rr", by decide⟩ } false
          false ⟨1, none⟩,
        .complete 2 .failed,
        .wake (2, "call_1") ⟨4, none⟩] = some _ from rfl), rfl, rfl, rfl, rfl⟩
  obtain ⟨system, reaches, granted, denied, canceled, ended⟩ := reached
  exact ⟨system, reaches, granted, denied, canceled, ended,
    approvalHandler_agreed (fun _ => "") sampleGate_fresh reaches⟩

end ApprovalSystem

end PlatoAgent
