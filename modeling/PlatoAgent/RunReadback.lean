import PlatoAgent.RunHistory

/-!
# The readback projection accounts for every tool call

`collect_entry` projects each event in isolation.  That the projected stream is
well bracketed is a property of the state machine: a small scanner over the
entries accepts the projection of every accepted ledger, and its status follows
the phase of the run.
-/

namespace PlatoAgent

open HistoryReplay

inductive ReadbackEntry where
  | contextCompacted (turnId : TurnId)
      (estimatedTokensBefore estimatedTokensAfter : UInt32)
      (droppedTurnStart droppedTurnEndExclusive : UInt64)
  | contextFragment (turnId : TurnId) (fragment : ContextFragment)
  | modelMessage (turnId : TurnId) (message : Message)
      (servedModel : Option ModelName)
  | modelFailed (turnId : TurnId) (step : UInt32) (reason : String)
  | toolProposalsRejected (turnId : TurnId) (reason : String)
  | toolCall (turnId : TurnId) (call : ToolCall)
  | toolResult (result : ToolResult)
  | policyDenied (callId : ToolCallId) (reason : String)
  | approvalGranted (callId : ToolCallId) (actorId : ActorId)
  | approvalDenied (callId : ToolCallId) (actorId : ActorId) (reason : String)
  | toolFailed (callId : ToolCallId) (reason : String)
  deriving Repr

def collectEntry (event : HarnessEvent) (entries : List ReadbackEntry) :
    List ReadbackEntry :=
  match event with
  | .contextCompacted _ turnId tokensBefore tokensAfter start endExclusive =>
      entries ++
        [.contextCompacted turnId tokensBefore tokensAfter start endExclusive]
  | .contextBuilt _ turnId context =>
      entries ++ context.fragments.map fun fragment =>
        .contextFragment turnId fragment
  | .modelResponded _ turnId _ output _ servedModel _ =>
      entries ++ [.modelMessage turnId output servedModel]
  | .modelFailed _ turnId step reason =>
      entries ++ [.modelFailed turnId step reason]
  | .toolProposalsRejected _ turnId reason =>
      entries ++ [.toolProposalsRejected turnId reason]
  | .toolCallProposed _ turnId call => entries ++ [.toolCall turnId call]
  | .toolFinished _ result => entries ++ [.toolResult result]
  | .policyEvaluated _ callId (.deny reason) =>
      entries ++ [.policyDenied callId reason]
  | .approvalGranted _ callId actorId =>
      entries ++ [.approvalGranted callId actorId]
  | .approvalDenied _ callId actorId reason =>
      entries ++ [.approvalDenied callId actorId reason]
  | .toolFailed _ callId reason => entries ++ [.toolFailed callId reason]
  | .runStarted _ | .modelRequested .. | .policyEvaluated _ _ .allow
  | .policyEvaluated _ _ (.requireApproval _) | .toolStarted ..
  | .runFinished _ | .runFailed .. => entries

structure ReadbackLoop where
  state : RunState
  entries : List ReadbackEntry
  identity : Option RunIdentity

/-- One iteration of the replay loop. -/
def ReadbackLoop.step (loop : ReadbackLoop) (record : RecordedEvent) :
    Except Error ReadbackLoop := do
  let state ← loop.state.next record
  return {
    state := state
    entries := collectEntry record.event loop.entries
    identity :=
      match record.event with
      | .runStarted started => some started.identity
      | _ => loop.identity }

/-- Replay-validated audit view for one run ledger. -/
structure RunReadback where
  identity : Option RunIdentity
  entries : List ReadbackEntry
  finalPhase : RunPhase
  nextSeq : UInt64

/-- Replays an ordered ledger and rejects the first invalid recorded event. -/
def RunReadback.fromEvents (events : List RecordedEvent) :
    Except Error RunReadback := do
  let loop ← replayFrom ReadbackLoop.step ⟨RunState.new, [], none⟩ events
  return ⟨loop.identity, loop.entries, loop.state.phase, loop.state.nextSeq⟩

namespace RunReadback

open HarnessEvent RunState

/-- The entries that one event contributes. -/
def entriesOf (event : HarnessEvent) : List ReadbackEntry :=
  collectEntry event []

theorem collectEntry_eq (event : HarnessEvent) (entries : List ReadbackEntry) :
    collectEntry event entries = entries ++ entriesOf event := by
  cases event with
  | policyEvaluated runId callId decision =>
      cases decision <;> simp [entriesOf, collectEntry]
  | _ => simp [entriesOf, collectEntry]

def project (events : List HarnessEvent) : List ReadbackEntry :=
  events.flatMap entriesOf

@[simp]
theorem project_append (front back : List HarnessEvent) :
    project (front ++ back) = project front ++ project back :=
  List.flatMap_append

theorem project_singleton (event : HarnessEvent) :
    project [event] = entriesOf event :=
  List.flatMap_singleton _ _

theorem loop_step_ok_iff {loop after : ReadbackLoop} {record : RecordedEvent} :
    loop.step record = .ok after ↔
      ∃ state, loop.state.next record = .ok state ∧
        after = {
          state := state
          entries := loop.entries ++ entriesOf record.event
          identity :=
            match record.event with
            | .runStarted started => some started.identity
            | _ => loop.identity } := by
  unfold ReadbackLoop.step
  cases loop.state.next record <;>
    simp [bind, Except.bind, pure, Except.pure, collectEntry_eq, eq_comm]

theorem loop_state_replay (ledger : List RecordedEvent) :
    (replayFrom ReadbackLoop.step ⟨RunState.new, [], none⟩ ledger).map
        ReadbackLoop.state =
      replay ledger := by
  refine replayFrom_map ReadbackLoop.state ?_ _ ledger
  intro loop record
  unfold ReadbackLoop.step
  cases loop.state.next record <;> rfl

theorem loop_entries_replay {ledger : List RecordedEvent} {loop : ReadbackLoop}
    (accepted : replayFrom ReadbackLoop.step ⟨RunState.new, [], none⟩ ledger =
      .ok loop) :
    loop.entries = project (eventsOf ledger) := by
  refine invariant_of_step
    (fun ledger (loop : ReadbackLoop) =>
      loop.entries = project (eventsOf ledger)) rfl ?_ accepted
  intro history before record after _ holds stepped
  obtain ⟨state, _, rfl⟩ := loop_step_ok_iff.mp stepped
  simp [holds, eventsOf, project_singleton]

/-- A readback exists exactly for the accepted ledgers; its entries are the
projection of the events. -/
theorem fromEvents_ok {ledger : List RecordedEvent} {readback : RunReadback}
    (accepted : fromEvents ledger = .ok readback) :
    ∃ state, replay ledger = .ok state ∧
      readback.entries = project (eventsOf ledger) ∧
      readback.finalPhase = state.phase := by
  unfold fromEvents at accepted
  have states := loop_state_replay ledger
  cases looped : replayFrom ReadbackLoop.step ⟨RunState.new, [], none⟩ ledger with
  | error error => simp [looped, bind, Except.bind] at accepted
  | ok loop =>
      rw [looped] at states
      simp only [looped, bind, Except.bind, pure, Except.pure,
        Except.ok.injEq] at accepted
      subst accepted
      exact ⟨loop.state, states.symm, loop_entries_replay looped, rfl⟩

theorem fromEvents_of_replay {ledger : List RecordedEvent} {state : RunState}
    (accepted : replay ledger = .ok state) :
    ∃ readback, fromEvents ledger = .ok readback := by
  have states := loop_state_replay ledger
  rw [accepted] at states
  unfold fromEvents
  cases looped : replayFrom ReadbackLoop.step ⟨RunState.new, [], none⟩ ledger with
  | error error => simp [looped, Except.map] at states
  | ok loop => exact ⟨_, rfl⟩

end RunReadback

namespace ReadbackEntry

def called : ReadbackEntry → Option (TurnId × ToolCall)
  | .toolCall turnId call => some (turnId, call)
  | _ => none

def callId : ReadbackEntry → Option ToolCallId
  | .toolCall _ call => some call.id
  | _ => none

def outcomeId : ReadbackEntry → Option ToolCallId
  | .toolResult result => some result.callId
  | .toolFailed callId _ => some callId
  | .policyDenied callId _ => some callId
  | .approvalDenied callId _ _ => some callId
  | _ => none

def grantedId : ReadbackEntry → Option ToolCallId
  | .approvalGranted callId _ => some callId
  | _ => none

def denialId : ReadbackEntry → Option ToolCallId
  | .policyDenied callId _ => some callId
  | .approvalDenied callId _ _ => some callId
  | _ => none

/-- The entries that open the next turn or call. -/
def isBoundary : ReadbackEntry → Bool
  | .toolCall .. | .contextFragment .. | .contextCompacted .. => true
  | _ => false

end ReadbackEntry

namespace RunReadback

open HarnessEvent RunState ReadbackEntry

/-- What the scanner has seen: no open call, or a call without an outcome and
whether its approval was granted. -/
inductive CallStatus where
  | idle
  | opened (callId : ToolCallId) (granted : Bool)
  deriving DecidableEq

/-- The scanner of well-bracketed entries. -/
def scanEntry : CallStatus → ReadbackEntry → Except Unit CallStatus
  | .idle, .toolCall _ call => .ok (.opened call.id false)
  | .idle, .contextCompacted .. | .idle, .contextFragment ..
  | .idle, .modelMessage .. | .idle, .modelFailed ..
  | .idle, .toolProposalsRejected .. => .ok .idle
  | .opened callId false, .approvalGranted granted _ =>
      if granted = callId then .ok (.opened callId true) else .error ()
  | .opened callId false, .policyDenied denied _
  | .opened callId false, .approvalDenied denied _ _ =>
      if denied = callId then .ok .idle else .error ()
  | .opened callId _, .toolResult result =>
      if result.callId = callId then .ok .idle else .error ()
  | .opened callId _, .toolFailed failed _ =>
      if failed = callId then .ok .idle else .error ()
  | _, _ => .error ()

/-- How the status of the scanner follows the phase of the run. -/
def StatusMatches : RunPhase → CallStatus → Prop
  | .awaitingPolicy call, status => status = .opened call.id false
  | .awaitingApproval call _, status => status = .opened call.id false
  | .readyToExecuteTool call, status =>
      ∃ granted, status = .opened call.id granted
  | .toolRunning callId, status => ∃ granted, status = .opened callId granted
  | .failed _, _ => True
  | _, status => status = .idle

theorem statusMatches_betweenTurns {phase : RunPhase} {status : CallStatus}
    (between : phase.betweenTurns = true) :
    StatusMatches phase status ↔ status = .idle := by
  cases phase <;> simp [RunPhase.betweenTurns] at between <;>
    simp [StatusMatches]

theorem scan_fragments (turnId : TurnId) (fragments : List ContextFragment) :
    replayFrom scanEntry .idle
        (fragments.map fun fragment => .contextFragment turnId fragment) =
      .ok .idle := by
  induction fragments with
  | nil => rfl
  | cons fragment rest ih =>
      rw [List.map_cons, replayFrom_cons]
      exact ih

/-- One event moves the scanner as the transition moves the phase. -/
theorem scan_transition {state after : RunState} {event : HarnessEvent}
    {status : CallStatus} (transition : Transition state event after)
    (follows : StatusMatches state.phase status) :
    ∃ afterStatus, replayFrom scanEntry status (entriesOf event) =
        .ok afterStatus ∧ StatusMatches after.phase afterStatus := by
  cases transition with
  | contextBuilt runId turnId context between =>
      obtain rfl := (statusMatches_betweenTurns between).mp follows
      exact ⟨.idle, scan_fragments turnId context.fragments, rfl⟩
  | contextCompacted _ _ _ _ _ _ between =>
      obtain rfl := (statusMatches_betweenTurns between).mp follows
      exact ⟨.idle, rfl, follows⟩
  | modelResponded _ _ _ _ _ proposedCalls _ _ phase =>
      rw [phase] at follows
      obtain rfl : status = .idle := follows
      refine ⟨.idle, rfl, ?_⟩
      simp only [phaseAfterResponse]
      split <;> rfl
  | policyEvaluated _ call decision phase =>
      rw [phase] at follows
      obtain rfl : status = .opened call.id false := follows
      cases decision with
      | allow => exact ⟨_, rfl, false, rfl⟩
      | requireApproval => exact ⟨_, rfl, rfl⟩
      | deny reason =>
          exact ⟨.idle, by
            simp [entriesOf, collectEntry, replayFrom_cons, scanEntry, bind,
              Except.bind], rfl⟩
  | approvalGranted _ call _ actorId phase =>
      rw [phase] at follows
      obtain rfl : status = .opened call.id false := follows
      exact ⟨.opened call.id true, by
        simp [entriesOf, collectEntry, replayFrom_cons, scanEntry, bind,
          Except.bind], true, rfl⟩
  | approvalDenied _ call _ _ _ phase =>
      rw [phase] at follows
      obtain rfl : status = .opened call.id false := follows
      exact ⟨.idle, by
        simp [entriesOf, collectEntry, replayFrom_cons, scanEntry, bind,
          Except.bind], rfl⟩
  | toolStarted _ call phase =>
      rw [phase] at follows
      exact ⟨status, rfl, follows⟩
  | toolFinished _ result phase =>
      rw [phase] at follows
      obtain ⟨granted, rfl⟩ := follows
      exact ⟨.idle, by
        cases granted <;>
          simp [entriesOf, collectEntry, replayFrom_cons, scanEntry, bind,
            Except.bind], rfl⟩
  | toolFailed _ callId _ phase =>
      rw [phase] at follows
      obtain ⟨granted, rfl⟩ := follows
      exact ⟨.idle, by
        cases granted <;>
          simp [entriesOf, collectEntry, replayFrom_cons, scanEntry, bind,
            Except.bind], rfl⟩
  | runFailed => exact ⟨status, rfl, trivial⟩
  | runStarted _ phase | modelRequested _ _ _ _ _ phase
  | modelFailed _ _ _ _ _ phase | toolCallProposed _ _ _ _ phase
  | toolProposalsRejected _ _ _ _ phase | runFinished _ phase =>
      rw [phase] at follows
      obtain rfl : status = .idle := follows
      exact ⟨_, rfl, rfl⟩

/-- The scanner accepts the projection of every accepted ledger. -/
theorem scan_of_replay {ledger : List RecordedEvent} {state : RunState}
    (accepted : replay ledger = .ok state) :
    ∃ status, replayFrom scanEntry .idle (project (eventsOf ledger)) =
        .ok status ∧ StatusMatches state.phase status := by
  refine invariant_of_transition
    (fun events state => ∃ status,
      replayFrom scanEntry .idle (project events) = .ok status ∧
        StatusMatches state.phase status) ?_ ?_ accepted
  · exact ⟨.idle, rfl, rfl⟩
  · rintro events before event after ⟨status, scanned, follows⟩ transition
    obtain ⟨afterStatus, stepped, afterFollows⟩ :=
      scan_transition transition follows
    refine ⟨afterStatus, ?_, afterFollows⟩
    rw [project_append, project_singleton]
    exact replayFrom_append_ok_iff.mpr ⟨status, scanned, stepped⟩

/-- The accepted steps of the scanner, by what the entry reports. -/
inductive ScanStep : CallStatus → ReadbackEntry → CallStatus → Prop where
  | call (entry : ReadbackEntry) (callId : ToolCallId)
      (called : entry.callId = some callId)
      (noOutcome : entry.outcomeId = none)
      (notGranted : entry.grantedId = none) :
      ScanStep .idle entry (.opened callId false)
  | silent (entry : ReadbackEntry)
      (notCalled : entry.callId = none)
      (noOutcome : entry.outcomeId = none)
      (notGranted : entry.grantedId = none) :
      ScanStep .idle entry .idle
  | granted (entry : ReadbackEntry) (callId : ToolCallId)
      (grants : entry.grantedId = some callId)
      (notCalled : entry.callId = none)
      (noOutcome : entry.outcomeId = none)
      (inside : entry.isBoundary = false) :
      ScanStep (.opened callId false) entry (.opened callId true)
  | outcome (entry : ReadbackEntry) (callId : ToolCallId) (granted : Bool)
      (reports : entry.outcomeId = some callId)
      (notCalled : entry.callId = none)
      (notGranted : entry.grantedId = none)
      (inside : entry.isBoundary = false)
      (executed : granted = true → entry.denialId = none) :
      ScanStep (.opened callId granted) entry .idle

theorem scanStep_of_ok {status after : CallStatus} {entry : ReadbackEntry}
    (scanned : scanEntry status entry = .ok after) :
    ScanStep status entry after := by
  cases status with
  | idle =>
      cases entry with
      | toolCall turnId call =>
          cases scanned
          exact .call _ _ rfl rfl rfl
      | contextCompacted | contextFragment | modelMessage | modelFailed
      | toolProposalsRejected =>
          cases scanned
          exact .silent _ rfl rfl rfl
      | _ => cases scanned
  | opened callId granted =>
      cases entry with
      | toolResult | toolFailed =>
          simp only [scanEntry] at scanned
          split at scanned
          · next same =>
              cases scanned
              exact .outcome _ _ _ (congrArg some same) rfl rfl rfl fun _ => rfl
          · cases scanned
      | policyDenied | approvalDenied =>
          cases granted with
          | true => cases scanned
          | false =>
              simp only [scanEntry] at scanned
              split at scanned
              · next same =>
                  cases scanned
                  exact .outcome _ _ _ (congrArg some same) rfl rfl rfl nofun
              · cases scanned
      | approvalGranted =>
          cases granted with
          | true => cases scanned
          | false =>
              simp only [scanEntry] at scanned
              split at scanned
              · next same =>
                  cases scanned
                  exact .granted _ _ (congrArg some same) rfl rfl rfl
              · cases scanned
      | _ => cases granted <;> cases scanned

theorem called_of_opened {entries : List ReadbackEntry} {callId : ToolCallId}
    {granted : Bool}
    (scanned : replayFrom scanEntry .idle entries = .ok (.opened callId granted)) :
    callId ∈ observations ReadbackEntry.callId entries := by
  refine invariant_of_step
    (fun entries status => ∀ callId granted, status = .opened callId granted →
      callId ∈ observations ReadbackEntry.callId entries)
    nofun ?_ scanned callId granted rfl
  rintro history status entry after _ holds stepped opened isGranted rfl
  have step := scanStep_of_ok stepped
  generalize target : CallStatus.opened opened isGranted = result at step
  cases step with
  | call _ _ called =>
      obtain ⟨rfl, rfl⟩ := CallStatus.opened.inj target
      simp [called]
  | granted _ _ =>
      obtain ⟨rfl, rfl⟩ := CallStatus.opened.inj target
      simpa using Or.inl (holds _ _ rfl)
  | _ => cases target

/-- One for the open call, zero for every other. -/
def openCount (callId : ToolCallId) : CallStatus → Nat
  | .idle => 0
  | .opened other _ => if other = callId then 1 else 0

/-- Calls and outcomes balance up to the calls that are open before and after
the stream. -/
theorem count_outcome_add {entries : List ReadbackEntry}
    {status final : CallStatus} (callId : ToolCallId)
    (scanned : replayFrom scanEntry status entries = .ok final) :
    (observations outcomeId entries).count callId + openCount callId final =
      (observations ReadbackEntry.callId entries).count callId +
        openCount callId status := by
  induction entries generalizing status with
  | nil =>
      obtain rfl : status = final := by simpa using scanned
      simp
  | cons entry rest ih =>
      obtain ⟨middle, stepped, remaining⟩ := replayFrom_cons_ok_iff.mp scanned
      have balance := ih remaining
      cases scanStep_of_ok stepped with
      | call _ other called noOutcome =>
          simp only [observations_cons, called, noOutcome, Option.toList_none,
            Option.toList_some, List.nil_append, List.singleton_append,
            List.count_cons, beq_iff_eq]
          simp only [openCount] at balance ⊢
          omega
      | silent _ notCalled noOutcome =>
          simpa [notCalled, noOutcome] using balance
      | granted _ other _ notCalled noOutcome =>
          simpa [notCalled, noOutcome, openCount] using balance
      | outcome _ other _ reports notCalled =>
          simp only [observations_cons, notCalled, reports, Option.toList_none,
            Option.toList_some, List.nil_append, List.singleton_append,
            List.count_cons, beq_iff_eq]
          simp only [openCount] at balance ⊢
          omega

theorem outcome_called {entries : List ReadbackEntry} {final : CallStatus}
    {callId : ToolCallId}
    (scanned : replayFrom scanEntry .idle entries = .ok final)
    (reported : callId ∈ observations outcomeId entries) :
    callId ∈ observations ReadbackEntry.callId entries := by
  have balance := count_outcome_add callId scanned
  have positive := List.count_pos_iff.mpr reported
  simp only [openCount] at balance
  exact List.count_pos_iff.mp (by omega)

def callWindow (rest : List ReadbackEntry) : List ReadbackEntry :=
  rest.takeWhile fun entry => !entry.isBoundary

/-- An open call without an outcome in its window is the last call. -/
theorem opened_of_missing {rest : List ReadbackEntry} {callId : ToolCallId}
    {granted : Bool} {final : CallStatus}
    (scanned : replayFrom scanEntry (.opened callId granted) rest = .ok final)
    (missing : callId ∉ observations outcomeId (callWindow rest)) :
    observations ReadbackEntry.callId rest = [] ∧
      ∃ finalGranted, final = .opened callId finalGranted := by
  induction rest generalizing granted with
  | nil =>
      obtain rfl : CallStatus.opened callId granted = final := by
        simpa using scanned
      exact ⟨rfl, granted, rfl⟩
  | cons entry rest ih =>
      obtain ⟨middle, stepped, remaining⟩ := replayFrom_cons_ok_iff.mp scanned
      cases scanStep_of_ok stepped with
      | granted _ _ _ notCalled noOutcome inside =>
          have rest := ih remaining (by
            simpa [callWindow, inside, noOutcome] using missing)
          simpa [notCalled] using rest
      | outcome _ _ _ reports _ _ inside =>
          simp [callWindow, inside, reports] at missing

/-- A granted call is executed: no denial of it follows. -/
theorem undenied_of_granted {rest : List ReadbackEntry} {callId : ToolCallId}
    {final : CallStatus}
    (scanned : replayFrom scanEntry (.opened callId true) rest = .ok final)
    (fresh : callId ∉ observations ReadbackEntry.callId rest) :
    callId ∉ observations denialId rest := by
  cases rest with
  | nil => simp
  | cons entry rest =>
      obtain ⟨middle, stepped, remaining⟩ := replayFrom_cons_ok_iff.mp scanned
      cases scanStep_of_ok stepped with
      | outcome _ _ _ reports notCalled _ _ executed =>
          have notDenied := executed rfl
          intro denied
          have later : callId ∈ observations denialId rest := by
            simpa [notDenied] using denied
          obtain ⟨denial, member, denies⟩ := mem_observations.mp later
          have reported : callId ∈ observations outcomeId rest := by
            refine mem_observations.mpr ⟨denial, member, ?_⟩
            cases denial <;> simp_all [denialId, outcomeId]
          have called := outcome_called remaining reported
          exact fresh (by simpa [notCalled] using called)

/-- The call that a phase holds between its proposal and its outcome. -/
def midCall : RunPhase → Option ToolCallId
  | .awaitingPolicy call => some call.id
  | .awaitingApproval call _ => some call.id
  | .readyToExecuteTool call => some call.id
  | .toolRunning callId => some callId
  | _ => none

/-- The run is in the middle of the call, or was failed in the middle of it. -/
def HeldCall (ledger : List RecordedEvent) (callId : ToolCallId) : Prop :=
  (∃ state, replay ledger = .ok state ∧ midCall state.phase = some callId) ∨
    ∃ before runId reason front state,
      eventsOf ledger = before ++ [.runFailed runId reason] ∧
        eventsOf front = before ∧ replay front = .ok state ∧
        midCall state.phase = some callId

theorem midCall_of_opened {phase : RunPhase} {callId : ToolCallId}
    {granted : Bool} (follows : StatusMatches phase (.opened callId granted))
    (notFailed : ∀ reason, phase ≠ .failed reason) :
    midCall phase = some callId := by
  cases phase <;> simp_all [StatusMatches, midCall]

theorem heldCall_of_opened {ledger : List RecordedEvent} {state : RunState}
    {callId : ToolCallId} {granted : Bool}
    (accepted : replay ledger = .ok state)
    (scanned : replayFrom scanEntry .idle (project (eventsOf ledger)) =
      .ok (.opened callId granted)) :
    HeldCall ledger callId := by
  obtain ⟨status, scannedStatus, follows⟩ := scan_of_replay accepted
  obtain rfl : status = .opened callId granted :=
    Except.ok.inj (scannedStatus.symm.trans scanned)
  by_cases failed : ∃ reason, state.phase = .failed reason
  · obtain ⟨reason, phase⟩ := failed
    -- The failure is the last event and projects to nothing, so the scanner
    -- stopped in the state that the failure found.
    rcases List.eq_nil_or_concat (eventsOf ledger) with empty |
      ⟨before, event, nonempty⟩
    · simp [empty, project] at scanned
    · rw [List.concat_eq_append] at nonempty
      obtain ⟨front, source, target, rfl, frontAccepted, transition, rfl⟩ :=
        transition_to_last accepted nonempty
      cases transition with
      | runFailed runId _ started =>
          obtain ⟨earlier, earlierScanned, earlierFollows⟩ :=
            scan_of_replay frontAccepted
          rw [nonempty, project_append, project_singleton] at scanned
          obtain rfl : earlier = .opened callId granted := by
            simpa [entriesOf, collectEntry, earlierScanned] using scanned
          refine .inr ⟨_, runId, _, front, source, nonempty, rfl,
            frontAccepted, midCall_of_opened earlierFollows ?_⟩
          rintro other phaseEq
          simp [phaseEq, RunPhase.canFail] at started
      | contextCompacted _ _ _ _ _ _ between =>
          simp only [advance_phase] at phase
          simp [phase, RunPhase.betweenTurns] at between
      | modelResponded =>
          simp only [advance_phase, phaseAfterResponse] at phase
          split at phase <;> cases phase
      | policyEvaluated _ _ decision => cases decision <;> cases phase
      | _ => cases phase
  · push Not at failed
    exact .inl ⟨state, accepted, midCall_of_opened follows failed⟩

def proposedCall : HarnessEvent → Option (TurnId × ToolCall)
  | .toolCallProposed _ turnId call => some (turnId, call)
  | _ => none

def reportedCallId : HarnessEvent → Option ToolCallId
  | .toolFinished _ result => some result.callId
  | .toolFailed _ callId _ => some callId
  | event => deniedCallId event

theorem observations_project {Observation : Type}
    {observe : ReadbackEntry → Option Observation}
    {source : HarnessEvent → Option Observation}
    (each : ∀ event, observations observe (entriesOf event) =
      (source event).toList) (events : List HarnessEvent) :
    observations observe (project events) = observations source events := by
  induction events with
  | nil => rfl
  | cons event rest ih =>
      rw [observations_cons, ← each, ← ih]
      simp [project]

theorem calls_project (events : List HarnessEvent) :
    observations called (project events) = observations proposedCall events := by
  refine observations_project (fun event => ?_) events
  cases event with
  | policyEvaluated _ _ decision => cases decision <;> rfl
  | contextBuilt runId turnId context =>
      simp [entriesOf, collectEntry, proposedCall, observations, called]
  | _ => rfl

theorem callIds_project (events : List HarnessEvent) :
    observations ReadbackEntry.callId (project events) =
      observations proposedCallId events := by
  refine observations_project (fun event => ?_) events
  cases event with
  | policyEvaluated _ _ decision => cases decision <;> rfl
  | contextBuilt runId turnId context =>
      simp [entriesOf, collectEntry, proposedCallId, observations,
        ReadbackEntry.callId]
  | _ => rfl

theorem outcomes_project (events : List HarnessEvent) :
    observations outcomeId (project events) =
      observations reportedCallId events := by
  refine observations_project (fun event => ?_) events
  cases event with
  | policyEvaluated _ _ decision => cases decision <;> rfl
  | contextBuilt runId turnId context =>
      simp [entriesOf, collectEntry, reportedCallId, deniedCallId, observations,
        outcomeId]
  | _ => rfl

/-- The audit contract of the projection of one accepted ledger. -/
structure ReadbackContract (ledger : List RecordedEvent)
    (entries : List ReadbackEntry) : Prop where
  /-- The calls of the entries are the proposed ones, in order. -/
  calls : observations called entries = observations proposedCall (eventsOf ledger)
  /-- No outcome of the ledger is lost, and none is added. -/
  outcomes : observations outcomeId entries =
    observations reportedCallId (eventsOf ledger)
  /-- Before the next call or context, a call has at most one outcome. -/
  atMostOne : ∀ before turnId call rest,
    entries = before ++ .toolCall turnId call :: rest →
      (observations outcomeId (callWindow rest)).count call.id ≤ 1
  /-- In the whole stream, too, no call has two entries or two outcomes. -/
  once : ∀ callId, (observations ReadbackEntry.callId entries).count callId ≤ 1 ∧
    (observations outcomeId entries).count callId ≤ 1
  /-- An approval comes between its call and the outcome, which is no denial. -/
  granted : ∀ before callId actorId rest,
    entries = before ++ .approvalGranted callId actorId :: rest →
      callId ∉ observations outcomeId before ∧
        callId ∉ observations denialId rest
  /-- Outcomes and approvals follow their call. -/
  called : ∀ before entry rest callId, entries = before ++ entry :: rest →
    (entry.outcomeId = some callId ∨ entry.grantedId = some callId) →
      callId ∈ observations ReadbackEntry.callId before
  /-- Only the last call can lack its outcome, and only in a run that is, or
  was failed, in the middle of it. -/
  missing : ∀ before turnId call rest,
    entries = before ++ .toolCall turnId call :: rest →
      call.id ∉ observations outcomeId (callWindow rest) →
      observations ReadbackEntry.callId rest = [] ∧ HeldCall ledger call.id
  /-- Every prefix of the ledger projects to a prefix of the entries. -/
  prefixes : ∀ front, front <+: ledger →
    ∃ prior, fromEvents front = .ok prior ∧ prior.entries <+: entries

theorem scan_split {entries before rest : List ReadbackEntry}
    {entry : ReadbackEntry} {final : CallStatus}
    (scanned : replayFrom scanEntry .idle entries = .ok final)
    (split : entries = before ++ entry :: rest) :
    ∃ status after, replayFrom scanEntry .idle before = .ok status ∧
      ScanStep status entry after ∧ replayFrom scanEntry after rest = .ok final := by
  subst split
  obtain ⟨status, frontScanned, restScanned⟩ :=
    replayFrom_append_ok_iff.mp scanned
  obtain ⟨after, stepped, remaining⟩ := replayFrom_cons_ok_iff.mp restScanned
  exact ⟨status, after, frontScanned, scanStep_of_ok stepped, remaining⟩

theorem prefix_entries {ledger front : List RecordedEvent} {state : RunState}
    (accepted : replay ledger = .ok state) (isPrefix : front <+: ledger) :
    ∃ prior, fromEvents front = .ok prior ∧
      prior.entries <+: project (eventsOf ledger) := by
  obtain ⟨middle, frontAccepted⟩ := replayFrom_ok_of_prefix isPrefix accepted
  obtain ⟨prior, priorOk⟩ := fromEvents_of_replay frontAccepted
  obtain ⟨_, _, priorEntries, _⟩ := fromEvents_ok priorOk
  obtain ⟨back, rfl⟩ := isPrefix
  exact ⟨prior, priorOk, by simp [priorEntries]⟩

theorem readbackContract_of_fromEvents (ledger : List RecordedEvent)
    (readback : RunReadback) (projected : fromEvents ledger = .ok readback) :
    ReadbackContract ledger readback.entries := by
  obtain ⟨state, accepted, entriesEq, _⟩ := fromEvents_ok projected
  rw [entriesEq]
  obtain ⟨status, scanned, _⟩ := scan_of_replay accepted
  have callsNodup := (RunHistory.runTrail_of_replay accepted).callsNodup
  rw [← callIds_project] at callsNodup
  have calledOnce := List.nodup_iff_count_le_one.mp callsNodup
  have outcomeOnce : ∀ callId,
      (observations outcomeId (project (eventsOf ledger))).count callId ≤ 1 := by
    intro callId
    have balance := count_outcome_add callId scanned
    have bound := calledOnce callId
    simp only [openCount] at balance
    omega
  refine ⟨calls_project _, outcomes_project _, ?_,
    fun callId => ⟨calledOnce callId, outcomeOnce callId⟩, ?_, ?_, ?_,
    fun front isPrefix => prefix_entries accepted isPrefix⟩
  · intro before turnId call rest split
    have window : (callWindow rest).Sublist (project (eventsOf ledger)) := by
      rw [split]
      exact (List.takeWhile_sublist _).trans
        ((List.sublist_cons_self _ _).trans (List.sublist_append_right _ _))
    exact (List.Sublist.count_le call.id (window.filterMap outcomeId)).trans
      (outcomeOnce call.id)
  · intro before callId actorId rest split
    obtain ⟨earlier, after, frontScanned, step, restScanned⟩ :=
      scan_split scanned split
    have bound := calledOnce callId
    rw [split] at bound
    cases step with
    | granted _ other grants =>
        obtain rfl : callId = other := Option.some.inj grants
        have opened := called_of_opened frontScanned
        have positive := List.count_pos_iff.mpr opened
        have balance := count_outcome_add callId frontScanned
        simp only [openCount, if_true] at balance
        simp only [observations_append, observations_cons,
          ReadbackEntry.callId, Option.toList_none, List.nil_append,
          List.count_append] at bound
        refine ⟨List.count_eq_zero.mp (by omega),
          undenied_of_granted restScanned (List.count_eq_zero.mp (by omega))⟩
    | _ => simp_all [ReadbackEntry.grantedId, outcomeId]
  · intro before entry rest callId split reports
    obtain ⟨earlier, after, frontScanned, step, _⟩ := scan_split scanned split
    cases step with
    | granted _ other grants notCalled noOutcome =>
        obtain rfl : other = callId := by simpa [noOutcome, grants] using reports
        exact called_of_opened frontScanned
    | outcome _ other _ outcome notCalled notGranted =>
        obtain rfl : other = callId := by simpa [outcome, notGranted] using reports
        exact called_of_opened frontScanned
    | _ => simp_all
  · intro before turnId call rest split missing
    obtain ⟨earlier, after, frontScanned, step, restScanned⟩ :=
      scan_split scanned split
    cases step with
    | call _ callId called =>
        obtain rfl : call.id = callId := Option.some.inj called
        obtain ⟨last, granted, rfl⟩ := opened_of_missing restScanned missing
        exact ⟨last, heldCall_of_opened accepted scanned⟩
    | _ => simp_all [ReadbackEntry.callId, outcomeId]

theorem readbackContract_of_fromEvents_toolTurn :
    ∃ readback, fromEvents toolTurnLedger = .ok readback ∧
      observations outcomeId readback.entries ≠ [] ∧
      ReadbackContract toolTurnLedger readback.entries :=
  ⟨_, rfl, by decide,
    readbackContract_of_fromEvents toolTurnLedger _ rfl⟩

end RunReadback

end PlatoAgent
