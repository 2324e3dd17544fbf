import PlatoAgent.ApprovalGate

/-!
# Requests that fail

A request that is answered with an error grants no authority: a decision that
fails leaves the grants of sessions, the pending decisions and the stored
approvals alone, and a run that is not admitted leaves the approval profiles
and the maps of runs alone.  The two exceptions are a session grant whose
decision cannot be recorded and an approval profile whose run is refused after
its reservation.
-/

namespace PlatoAgent

/-- The state that the handlers of `approval.decide` share. -/
structure ApprovalRuntime where
  state : RuntimeState
  cancel : RunRef → Bool
  approvals : RunRef → FiniteMap String PendingApproval
  desk : ApprovalDesk

namespace ApprovalRuntime

def gate (runtime : ApprovalRuntime) (run : RunRef) : ApprovalGate :=
  ⟨runtime.state.records run, runtime.cancel run, runtime.approvals run⟩

def withGate (runtime : ApprovalRuntime) (run : RunRef) (gate : ApprovalGate) :
    ApprovalRuntime :=
  { runtime with
    state := runtime.state.setRecord run gate.record
    cancel := Function.update runtime.cancel run gate.cancel
    approvals := Function.update runtime.approvals run gate.approvals }

/-- `handle_approval_decide` for an actor that is well formed. -/
def decideAs (runtime : ApprovalRuntime) (params : ApprovalDecideParams)
    (attributedActor : Option ActorId) (attempt : StoreAttempt) :
    Except ApprovalDecideError RunStateName × ApprovalRuntime :=
  match runtime.state.runs.lookup params.runId with
  | none => (.error (.runNotFound params.runId), runtime)
  | some run =>
      let decided := (runtime.gate run).decide runtime.desk params
        (params.decisionActor attributedActor) attempt
      (decided.1,
        { runtime.withGate run decided.2.1 with desk := decided.2.2 })

def handleApprovalDecide (runtime : ApprovalRuntime)
    (params : ApprovalDecideParams) (attempt : StoreAttempt) :
    Except ApprovalDecideError RunStateName × ApprovalRuntime :=
  match params.actor.map (Identifier.new .actorId) with
  | none => runtime.decideAs params none attempt
  | some (.ok actor) => runtime.decideAs params (some actor) attempt
  | some (.error error) => (.error (.malformedActor error), runtime)

/-- No authority was granted. -/
structure SameAuthority (runtime after : ApprovalRuntime) : Prop where
  grants : after.desk.sessionToolGrants = runtime.desk.sessionToolGrants
  approvals : after.approvals = runtime.approvals
  rows : after.desk.toolCallApprovals = runtime.desk.toolCallApprovals

/-- A decision is due that grants the shell to a session which does not have
it yet. -/
def grantsNewSession (runtime : ApprovalRuntime)
    (params : ApprovalDecideParams) : Bool :=
  params.decision == .grantSession &&
    (params.actor.map (Identifier.new .actorId)).all (·.toBool) &&
    (runtime.state.runs.lookup params.runId).any fun run =>
      ((runtime.gate run).decidable? params.toolCallId).any fun pending =>
        pending.decision.isNone && pending.admits .grantSession &&
          !runtime.desk.hasShellSessionGrant (runtime.state.records run).sessionId

end ApprovalRuntime

inductive RunSession where
  | fresh (sessionId : String)
  | continue (sessionId : String)
  deriving DecidableEq, Repr

def RunSession.sessionId : RunSession → String
  | .fresh sessionId | .continue sessionId => sessionId

/-- The fields of `run.start` and `message.append` that admission reads. -/
inductive RunRequest where
  | runStart (approvalProfile : Option ApprovalProfile)
  | messageAppend (sessionId : Option String)
      (approvalProfile : Option ApprovalProfile)
      (priorInterruptedRunId : Option String)
  deriving DecidableEq, Repr

/-- What the steps of a request that do not touch the shared state return. -/
structure RunRequestEnv where
  newSessionId : String
  latestSessionId : Except String String
  threadConfinement : Except Unit ThreadConfinement
  priorVoiceInterruptionContext : Except AppError String
  newRunId : Except AppError RunId
  prepareOneShotConfinement : Except AppError Bool
  /-- The profile revision, the prepared run and its place in the ledger. -/
  admission : Except AppError Unit

inductive StartRunError where
  | shuttingDown
  /-- Not found, with the text of the lookup. -/
  | noSession (message : String)
  | unconfinable
  | priorContext (error : AppError)
  | runId (error : AppError)
  | sessionActive (sessionId runId : String)
  | confinement (error : AppError)
  | admission (error : AppError)
  deriving DecidableEq, Repr

namespace RuntimeState

def approvalProfile (state : RuntimeState) (sessionId : String) :
    ApprovalProfile :=
  (state.approvalProfiles.lookup sessionId).getD .prompt

/-- The steps of `start_run` after the reservation, up to the admission. -/
def admitReserved (state : RuntimeState) (record : RunRef)
    (env : RunRequestEnv) : Except StartRunError RunRef × RuntimeState :=
  match env.prepareOneShotConfinement with
  | .error error =>
      (.error (.confinement error), state.releaseRunReservation record)
  | .ok _ =>
      match env.admission with
      | .error error =>
          (.error (.admission error), state.releaseRunReservation record)
      | .ok _ => (.ok record, state)

def reserveAndAdmit (state : RuntimeState) (runId : RunId) (sessionId : String)
    (profile : Option ApprovalProfile) (env : RunRequestEnv) :
    Except StartRunError RunRef × RuntimeState :=
  let made := state.newRecord runId.value sessionId none
  match made.2.reserveRunWithProfile made.1 profile with
  | .error .shuttingDown => (.error .shuttingDown, made.2)
  | .error (.sessionActive active) =>
      (.error (.sessionActive sessionId active), made.2)
  | .ok reserved => reserved.admitReserved made.1 env

/-- The steps of `start_run` before the reservation. -/
def beforeReservation (priorInterruptedRunId : Option String)
    (env : RunRequestEnv) : Except StartRunError RunId :=
  match env.threadConfinement with
  | .error _ => .error .unconfinable
  | .ok _ =>
      match priorInterruptedRunId.map fun _ =>
          env.priorVoiceInterruptionContext with
      | some (.error error) => .error (.priorContext error)
      | some (.ok _) | none => env.newRunId.mapError .runId

/-- `start_run` without a thread, up to the admission of the run. -/
def startRun (state : RuntimeState) (session : RunSession)
    (profile : Option ApprovalProfile) (priorInterruptedRunId : Option String)
    (env : RunRequestEnv) : Except StartRunError RunRef × RuntimeState :=
  match beforeReservation priorInterruptedRunId env with
  | .error error => (.error error, state)
  | .ok runId => state.reserveAndAdmit runId session.sessionId profile env

def handleRunStart (state : RuntimeState)
    (approvalProfile : Option ApprovalProfile) (env : RunRequestEnv) :
    Except StartRunError RunRef × RuntimeState :=
  state.startRun (.fresh env.newSessionId) (some (approvalProfile.getD .prompt))
    none env

def handleMessageAppend (state : RuntimeState) (sessionId : Option String)
    (approvalProfile : Option ApprovalProfile)
    (priorInterruptedRunId : Option String) (env : RunRequestEnv) :
    Except StartRunError RunRef × RuntimeState :=
  if state.shutdownAccepted then (.error .shuttingDown, state)
  else match (sessionId.map .ok).getD env.latestSessionId with
  | .error message => (.error (.noSession message), state)
  | .ok sessionId =>
      state.startRun (.continue sessionId) approvalProfile
        priorInterruptedRunId env

def handleRunRequest (state : RuntimeState) (request : RunRequest)
    (env : RunRequestEnv) : Except StartRunError RunRef × RuntimeState :=
  match request with
  | .runStart approvalProfile => state.handleRunStart approvalProfile env
  | .messageAppend sessionId approvalProfile priorInterruptedRunId =>
      state.handleMessageAppend sessionId approvalProfile
        priorInterruptedRunId env

/-- The addresses that the maps hold are those of records that were made. -/
structure Allocated (state : RuntimeState) : Prop where
  runs : ∀ runId ref, state.runs.lookup runId = some ref →
    ref < state.nextRecord
  active : ∀ threadId ref, state.activeThreadRuns.lookup threadId = some ref →
    ref < state.nextRecord

/-- Profiles and runs are what they were. -/
structure SameAdmission (state after : RuntimeState) : Prop where
  profiles : ∀ sessionId,
    after.approvalProfile sessionId = state.approvalProfile sessionId
  runs : after.runs = state.runs
  activeThreadRuns : after.activeThreadRuns = state.activeThreadRuns

/-- A run of the session can be reserved. -/
def canReserve (state : RuntimeState) (sessionId : String) : Bool :=
  !state.shutdownAccepted && (state.activeSessionRun sessionId).isNone

/-- A reservation that is made changes the profile of the session, or takes
the name of a run that is still known. -/
def reservationChanges (state : RuntimeState) (runId : RunId)
    (sessionId : String) (profile : Option ApprovalProfile) : Bool :=
  state.canReserve sessionId &&
    (profile.any (· != state.approvalProfile sessionId) ||
      (state.runs.lookup runId.value).isSome)

end RuntimeState

/-- The run, session and profile of the reservation that a request comes to. -/
def RunRequest.reservation (request : RunRequest) (env : RunRequestEnv) :
    Option (RunId × String × Option ApprovalProfile) :=
  match request with
  | .runStart approvalProfile =>
      (RuntimeState.beforeReservation none env).toOption.map fun runId =>
        (runId, env.newSessionId, some (approvalProfile.getD .prompt))
  | .messageAppend sessionId approvalProfile priorInterruptedRunId =>
      (((sessionId.map .ok).getD env.latestSessionId).toOption).bind
        fun sessionId =>
          (RuntimeState.beforeReservation priorInterruptedRunId
            env).toOption.map fun runId => (runId, sessionId, approvalProfile)

namespace ApprovalGate

variable {gate : ApprovalGate} {desk : ApprovalDesk}
  {params : ApprovalDecideParams} {actor : String} {attempt : StoreAttempt}
  {error : ApprovalDecideError}

/-- A first decision for the whole session is due. -/
def grantsSession (gate : ApprovalGate) (params : ApprovalDecideParams) :
    Bool :=
  params.decision == .grantSession &&
    (gate.decidable? params.toolCallId).any fun pending =>
      pending.decision.isNone && pending.admits .grantSession

/-- A decision that fails changes at most the grants of sessions. -/
theorem decide_error
    (failed : (gate.decide desk params actor attempt).1 = .error error) :
    (gate.decide desk params actor attempt).2 = (gate,
      if gate.grantsSession params then
        desk.installShellSessionGrant gate.record.sessionId
      else desk) := by
  unfold decide at failed ⊢
  unfold grantsSession
  dsimp only at failed ⊢
  cases isDecidable : gate.decidable? params.toolCallId with
  | none =>
      rw [if_neg (by simp)]
  | some pending =>
      rw [isDecidable] at failed
      dsimp only at failed ⊢
      rw [Option.any_some]
      cases isDecided : pending.decision with
      | some existing =>
          rw [isDecided] at failed
          dsimp only at failed ⊢
          have decided : ¬ (params.decision == .grantSession &&
              ((some existing).isNone && pending.admits .grantSession)) =
                true := by simp
          rw [if_neg decided]
          split <;> rfl
      | none =>
          rw [isDecided] at failed
          dsimp only at failed ⊢
          by_cases admitted : pending.admits params.decision = true
          · rw [if_pos admitted] at failed ⊢
            unfold decideFirst at failed ⊢
            dsimp only at failed ⊢
            split at failed
            next =>
              by_cases isSession : params.decision = .grantSession
              · rw [isSession] at admitted
                rw [if_pos isSession, if_pos (by simp [isSession, admitted])]
              · rw [if_neg isSession, if_neg (by simp [isSession])]
            · cases failed
          · rw [if_neg admitted]
            refine Prod.ext rfl (if_neg ?_).symm
            intro granted
            obtain ⟨isSession, both⟩ := Bool.and_eq_true_iff.mp granted
            rw [eq_of_beq isSession] at admitted
            exact admitted (by simpa using both)

end ApprovalGate

namespace ApprovalRuntime

variable {runtime : ApprovalRuntime} {params : ApprovalDecideParams}
  {attempt : StoreAttempt} {error : ApprovalDecideError}

theorem SameAuthority.refl (runtime : ApprovalRuntime) :
    runtime.SameAuthority runtime :=
  ⟨rfl, rfl, rfl⟩

/-- What a decision that fails does to the grants of sessions. -/
theorem decideAs_error {attributedActor : Option ActorId}
    (failed : (runtime.decideAs params attributedActor attempt).1 =
      .error error) :
    runtime.SameAuthority
        (runtime.decideAs params attributedActor attempt).2 ↔
      ((runtime.state.runs.lookup params.runId).any fun run =>
        (runtime.gate run).grantsSession params &&
          !runtime.desk.hasShellSessionGrant
            (runtime.state.records run).sessionId) = false := by
  unfold decideAs at failed ⊢
  cases found : runtime.state.runs.lookup params.runId with
  | none => simpa using SameAuthority.refl runtime
  | some run =>
      rw [found] at failed
      dsimp only at failed ⊢
      rw [ApprovalGate.decide_error failed, Option.any_some]
      have sameApprovals : Function.update runtime.approvals run
          (runtime.gate run).approvals = runtime.approvals :=
        Function.update_eq_self ..
      by_cases grants : (runtime.gate run).grantsSession params = true
      · rw [if_pos grants, grants, Bool.true_and, Bool.not_eq_false']
        constructor
        · rintro ⟨same, _, _⟩
          have member : ((runtime.state.records run).sessionId, shellExec) ∈
              insert ((runtime.state.records run).sessionId, shellExec)
                runtime.desk.sessionToolGrants :=
            Finset.mem_insert_self ..
          exact decide_eq_true (same ▸ member)
        · intro granted
          exact ⟨Finset.insert_eq_of_mem (of_decide_eq_true granted),
            sameApprovals, rfl⟩
      · rw [if_neg grants]
        simp only [Bool.not_eq_true] at grants
        rw [grants]
        exact ⟨fun _ => rfl, fun _ => ⟨rfl, sameApprovals, rfl⟩⟩

/-- A decision that fails grants nothing, unless it was to grant the shell to a
new session. -/
theorem handleApprovalDecide_error
    (failed : (runtime.handleApprovalDecide params attempt).1 =
      .error error) :
    runtime.SameAuthority (runtime.handleApprovalDecide params attempt).2 ↔
      runtime.grantsNewSession params = false := by
  unfold handleApprovalDecide at failed ⊢
  have regroup : ((runtime.state.runs.lookup params.runId).any fun run =>
      (runtime.gate run).grantsSession params &&
        !runtime.desk.hasShellSessionGrant
          (runtime.state.records run).sessionId) =
      (params.decision == .grantSession &&
        (runtime.state.runs.lookup params.runId).any fun run =>
          ((runtime.gate run).decidable? params.toolCallId).any fun pending =>
            pending.decision.isNone && pending.admits .grantSession &&
              !runtime.desk.hasShellSessionGrant
                (runtime.state.records run).sessionId) := by
    unfold ApprovalGate.grantsSession
    cases runtime.state.runs.lookup params.runId with
    | none => simp
    | some run =>
        rw [Option.any_some, Option.any_some, Bool.and_assoc]
        congr 1
        cases (runtime.gate run).decidable? params.toolCallId with
        | none => rfl
        | some pending => rfl
  unfold grantsNewSession
  split at failed
  next absent =>
    rw [absent, decideAs_error failed, regroup]
    simp
  next actor isActor =>
    rw [isActor, decideAs_error failed, regroup]
    simp [Except.toBool]
  next malformed isMalformed =>
    rw [isMalformed]
    simpa [Except.toBool] using SameAuthority.refl runtime

end ApprovalRuntime

namespace FiniteMap

variable {Key Value : Type} [DecidableEq Key]

/-- An entry that is added and removed leaves nothing behind if its key was
free. -/
theorem erase_insert_iff {map : FiniteMap Key Value} {key : Key}
    {value : Value} :
    (map.insert key value).erase key = map ↔ map.lookup key = none := by
  constructor
  · intro same
    rw [← same]
    exact AList.lookup_erase ..
  · intro absent
    apply AList.ext
    have free : key ∉ map.entries.keys := AList.lookup_eq_none.mp absent
    have added : (map.insert key value).entries =
        ⟨key, value⟩ :: map.entries.kerase key := rfl
    change (map.insert key value).entries.kerase key = map.entries
    rw [added, List.kerase_of_notMem_keys free]
    exact List.kerase_cons_eq rfl

theorem retain_eq_self {map : FiniteMap Key Value} {keeps : Value → Bool}
    (all : ∀ key value, map.lookup key = some value → keeps value = true) :
    map.retain keeps = map := by
  apply AList.ext
  refine List.filter_eq_self.mpr fun entry member => ?_
  exact all entry.1 entry.2 (lookup_eq_some_iff.mpr member)

end FiniteMap

namespace RuntimeState

variable {state : RuntimeState} {sessionId : String}
  {profile : Option ApprovalProfile} {env : RunRequestEnv}
  {error : StartRunError}

theorem SameAdmission.refl (state : RuntimeState) : state.SameAdmission state :=
  ⟨fun _ => rfl, rfl, rfl⟩

/-- A new record is in no map. -/
theorem newRecord_activeSessionRun (allocated : state.Allocated)
    (runId newSession : String) :
    (state.newRecord runId newSession none).2.activeSessionRun sessionId =
      state.activeSessionRun sessionId := by
  have same : ∀ ref ∈ state.runs.entries.map (·.2),
      (state.newRecord runId newSession none).2.records ref =
        state.records ref := by
    intro ref member
    obtain ⟨entry, isEntry, rfl⟩ := List.mem_map.mp member
    have below := allocated.runs entry.1 entry.2
      (FiniteMap.lookup_eq_some_iff.mpr isEntry)
    exact Function.update_of_ne (Nat.ne_of_lt below) ..
  unfold activeSessionRun runIsActive
  change (state.runs.entries.map (·.2)).find? _ = _
  generalize state.runs.entries.map (·.2) = refs at same
  induction refs with
  | nil => rfl
  | cons ref refs ih =>
      have rest := ih fun other member =>
        same other (List.mem_cons_of_mem _ member)
      rw [List.find?_cons, List.find?_cons, same ref List.mem_cons_self, rest]

/-- A reservation is made if the host accepts runs and the session is free. -/
theorem reserveRunWithProfile_cases (allocated : state.Allocated)
    (runId : RunId) (sessionId : String) (profile : Option ApprovalProfile) :
    let made := state.newRecord runId.value sessionId none
    (state.canReserve sessionId = false ∧
      ∃ error, made.2.reserveRunWithProfile made.1 profile = .error error) ∨
    (state.canReserve sessionId = true ∧
      made.2.reserveRunWithProfile made.1 profile = .ok { made.2 with
        approvalProfiles := profile.elim state.approvalProfiles
          (state.approvalProfiles.insert sessionId)
        runs := state.runs.insert runId.value state.nextRecord }) := by
  intro made
  have isRecord : made.2.records made.1 =
      ⟨runId.value, sessionId, none, .running, .empty⟩ :=
    Function.update_self ..
  have sameActive := @newRecord_activeSessionRun state sessionId allocated
    runId.value sessionId
  unfold reserveRunWithProfile canReserve
  rw [isRecord]
  dsimp only
  cases accepted : state.shutdownAccepted with
  | true => exact .inl ⟨rfl, _, if_pos accepted⟩
  | false =>
      rw [if_neg (by simp [made, newRecord, accepted]), sameActive]
      cases state.activeSessionRun sessionId with
      | some active => exact .inl ⟨rfl, _, rfl⟩
      | none => exact .inr ⟨rfl, rfl⟩

/-- A reservation that is given back leaves nothing behind but the profile. -/
theorem releaseRunReservation_reserved (allocated : state.Allocated)
    (runId : RunId) (sessionId : String)
    (profiles : FiniteMap String ApprovalProfile) :
    (({ (state.newRecord runId.value sessionId none).2 with
      approvalProfiles := profiles
      runs := state.runs.insert runId.value state.nextRecord } :
        RuntimeState).releaseRunReservation state.nextRecord) =
    { (state.newRecord runId.value sessionId none).2 with
      approvalProfiles := profiles
      runs := (state.runs.insert runId.value state.nextRecord).erase
        runId.value } := by
  have isRecord : (state.newRecord runId.value sessionId none).2.records
      state.nextRecord = ⟨runId.value, sessionId, none, .running, .empty⟩ :=
    Function.update_self ..
  have kept : FiniteMap.retain (· != state.nextRecord)
      state.activeThreadRuns = state.activeThreadRuns := by
    refine FiniteMap.retain_eq_self fun threadId ref found => ?_
    simpa using Nat.ne_of_lt (allocated.active threadId ref found)
  unfold releaseRunReservation
  dsimp only
  rw [isRecord, if_pos (AList.lookup_insert _)]
  have unchanged : (state.newRecord runId.value sessionId none
      ).2.activeThreadRuns = state.activeThreadRuns := rfl
  rw [unchanged, kept]

/-- The profile of a session after its reservation. -/
theorem approvalProfile_reserved :
    (∀ other, RuntimeState.approvalProfile { state with
      approvalProfiles := profile.elim state.approvalProfiles
        (state.approvalProfiles.insert sessionId) } other =
      state.approvalProfile other) ↔
      profile.any (· != state.approvalProfile sessionId) = false := by
  cases profile with
  | none => exact ⟨fun _ => rfl, fun _ _ => rfl⟩
  | some profile =>
      unfold approvalProfile
      simp only [Option.elim_some, Option.any_some, bne_eq_false_iff_eq]
      constructor
      · intro same
        have isProfile := same sessionId
        rw [AList.lookup_insert] at isProfile
        exact isProfile
      · intro isProfile other
        by_cases isSession : other = sessionId
        · rw [isSession, AList.lookup_insert]
          exact isProfile
        · rw [AList.lookup_insert_ne isSession]

theorem reserveAndAdmit_error (allocated : state.Allocated) (runId : RunId)
    (failed : (state.reserveAndAdmit runId sessionId profile env).1 =
      .error error) :
    state.SameAdmission
        (state.reserveAndAdmit runId sessionId profile env).2 ↔
      state.reservationChanges runId sessionId profile = false := by
  have released : (state.canReserve sessionId = false ∧
      (state.reserveAndAdmit runId sessionId profile env).2 =
        (state.newRecord runId.value sessionId none).2) ∨
      (state.canReserve sessionId = true ∧
        (state.reserveAndAdmit runId sessionId profile env).2 =
          { (state.newRecord runId.value sessionId none).2 with
            approvalProfiles := profile.elim state.approvalProfiles
              (state.approvalProfiles.insert sessionId)
            runs := (state.runs.insert runId.value state.nextRecord).erase
              runId.value }) := by
    unfold reserveAndAdmit at failed ⊢
    dsimp only at failed ⊢
    rcases reserveRunWithProfile_cases allocated runId sessionId profile with
      ⟨refused, reason, isError⟩ | ⟨reserved, isOk⟩
    · rw [isError]
      cases reason <;> exact .inl ⟨refused, rfl⟩
    · rw [isOk] at failed ⊢
      refine .inr ⟨reserved, ?_⟩
      rw [← releaseRunReservation_reserved allocated]
      dsimp only at failed ⊢
      unfold admitReserved at failed ⊢
      split
      · rfl
      next isPrepared =>
        rw [isPrepared] at failed
        dsimp only at failed
        split
        · rfl
        next isAdmitted =>
          rw [isAdmitted] at failed
          cases failed
  unfold reservationChanges
  rcases released with ⟨refused, isAfter⟩ | ⟨reserved, isAfter⟩
  · rw [isAfter, refused]
    exact ⟨fun _ => rfl, fun _ => ⟨fun _ => rfl, rfl, rfl⟩⟩
  · rw [isAfter, reserved, Bool.true_and, Bool.or_eq_false_iff,
      Option.isSome_eq_false_iff, Option.isNone_iff_eq_none,
      ← @approvalProfile_reserved state sessionId profile,
      ← @FiniteMap.erase_insert_iff _ _ _ state.runs runId.value
        state.nextRecord]
    exact ⟨fun same => ⟨same.profiles, same.runs⟩,
      fun same => ⟨same.1, same.2, rfl⟩⟩

/-- A run that is not admitted leaves profiles and runs as they were, unless it
is refused after a reservation that changed them. -/
theorem handleRunRequest_error {request : RunRequest}
    (allocated : state.Allocated)
    (failed : (state.handleRunRequest request env).1 = .error error) :
    state.SameAdmission (state.handleRunRequest request env).2 ↔
      ((request.reservation env).any fun reservation =>
        state.reservationChanges reservation.1 reservation.2.1
          reservation.2.2) = false := by
  have started : ∀ (session : RunSession) profile prior,
      (state.startRun session profile prior env).1 = .error error →
      (state.SameAdmission (state.startRun session profile prior env).2 ↔
        ((beforeReservation prior env).toOption.any fun runId =>
          state.reservationChanges runId session.sessionId profile) =
            false) := by
    intro session profile prior failed
    unfold startRun at failed ⊢
    cases early : beforeReservation prior env with
    | error reason => exact ⟨fun _ => rfl, fun _ => .refl state⟩
    | ok runId =>
        rw [early] at failed
        exact reserveAndAdmit_error allocated runId failed
  unfold RunRequest.reservation
  cases request with
  | runStart approvalProfile =>
      rw [Option.any_map]
      exact started _ _ _ failed
  | messageAppend sessionId approvalProfile prior =>
      unfold handleRunRequest handleMessageAppend at failed ⊢
      dsimp only at failed ⊢
      by_cases accepted : state.shutdownAccepted = true
      · rw [if_pos accepted]
        refine ⟨fun _ => ?_, fun _ => .refl state⟩
        rw [Option.any_eq_false]
        intro reservation _
        simp [reservationChanges, canReserve, accepted]
      · rw [if_neg accepted] at failed ⊢
        cases found : (sessionId.map .ok).getD env.latestSessionId with
        | error message => exact ⟨fun _ => rfl, fun _ => .refl state⟩
        | ok session =>
            rw [found] at failed
            dsimp only [Except.toOption, Option.bind_some]
            rw [Option.any_map]
            exact started _ _ _ failed

end RuntimeState

/-- Requests that fail grant no authority, except for a session grant that
cannot be recorded and a reservation that is given back. -/
theorem errorAnswer_grantsNothing_iff (runtime : ApprovalRuntime)
    (state : RuntimeState) :
    (∀ params attempt error,
      (runtime.handleApprovalDecide params attempt).1 = .error error →
      (runtime.SameAuthority (runtime.handleApprovalDecide params attempt).2 ↔
        runtime.grantsNewSession params = false)) ∧
    ∀ request env error, state.Allocated →
      (state.handleRunRequest request env).1 = .error error →
      (state.SameAdmission (state.handleRunRequest request env).2 ↔
        ((request.reservation env).any fun reservation =>
          state.reservationChanges reservation.1 reservation.2.1
            reservation.2.2) = false) :=
  ⟨fun _ _ _ => ApprovalRuntime.handleApprovalDecide_error,
    fun _ _ _ => RuntimeState.handleRunRequest_error⟩

/-- A run that waits for the decision on a call of the shell. -/
def sampleApprovalRuntime : ApprovalRuntime where
  state :=
    { RuntimeState.initial "epoch" with
      runs := AList.insert "r" 0 ∅
      records := fun _ => ⟨"r", "session_1", none, .running, .empty⟩
      nextRecord := 1 }
  cancel _ := false
  approvals _ :=
    AList.insert "call_1" ⟨"session_1", sampleShellRequest, none⟩ ∅
  desk := ⟨∅, ∅⟩

/-- The ledger cannot be opened. -/
def sampleRunRequestEnv : RunRequestEnv where
  newSessionId := "session_2"
  latestSessionId := .ok "session_1"
  threadConfinement := .ok .none
  priorVoiceInterruptionContext := .ok ""
  newRunId := .ok ⟨"rr", by decide⟩
  prepareOneShotConfinement := .ok false
  admission := .error .sqlite

theorem sampleApprovalRuntime_allocated :
    RuntimeState.Allocated { sampleApprovalRuntime.state with runs := ∅ } := by
  constructor
  · intro runId ref found
    cases found
  · intro threadId ref found
    cases found

/-- A denial that cannot be recorded grants nothing, and neither does a message
that is refused under the profile of its session. -/
theorem errorAnswer_grantsNothing_denied :
    sampleApprovalRuntime.SameAuthority
      (sampleApprovalRuntime.handleApprovalDecide
        ⟨"r", "call_1", .deny, none, none⟩ ⟨0, some .sqlite⟩).2 ∧
    RuntimeState.SameAdmission { sampleApprovalRuntime.state with runs := ∅ }
      (RuntimeState.handleRunRequest
        { sampleApprovalRuntime.state with runs := ∅ }
        (.messageAppend none (some .prompt) none) sampleRunRequestEnv).2 :=
  let granted := errorAnswer_grantsNothing_iff sampleApprovalRuntime
    { sampleApprovalRuntime.state with runs := ∅ }
  ⟨(granted.1 ⟨"r", "call_1", .deny, none, none⟩ ⟨0, some .sqlite⟩ _
      rfl).mpr rfl,
    (granted.2 (.messageAppend none (some .prompt) none) sampleRunRequestEnv
      _ sampleApprovalRuntime_allocated rfl).mpr rfl⟩

/-- A session grant that cannot be recorded is refused and stays, and so does
the profile of a message that is refused. -/
theorem errorAnswer_grantsAuthority :
    (sampleApprovalRuntime.handleApprovalDecide
        ⟨"r", "call_1", .grantSession, none, none⟩ ⟨0, some .sqlite⟩).1 =
      .error (.unrecorded .sqlite) ∧
    (sampleApprovalRuntime.handleApprovalDecide
        ⟨"r", "call_1", .grantSession, none, none⟩ ⟨0, some .sqlite⟩
          ).2.desk.hasShellSessionGrant "session_1" = true ∧
    sampleApprovalRuntime.desk.hasShellSessionGrant "session_1" = false ∧
    (RuntimeState.handleRunRequest
        { sampleApprovalRuntime.state with runs := ∅ }
        (.messageAppend none (some .yolo) none) sampleRunRequestEnv).1 =
      .error (.admission .sqlite) ∧
    (RuntimeState.handleRunRequest
        { sampleApprovalRuntime.state with runs := ∅ }
        (.messageAppend none (some .yolo) none)
        sampleRunRequestEnv).2.approvalProfile "session_1" = .yolo ∧
    sampleApprovalRuntime.state.approvalProfile "session_1" = .prompt :=
  ⟨rfl, rfl, rfl, rfl, rfl, rfl⟩

end PlatoAgent
