import PlatoAgent.ActionRuns
import PlatoAgent.DaemonRuntime

/-!
# Shutting an idle host down

The runtimes of all workspaces share one state, and requests through any of
them admit runs, sends, spawns, stops and issue preparations.  A host that
accepts `shutdown_if_idle` is idle and admits nothing afterwards, and every
spawn that keeps it from being idle is in the hands of a client or a request,
as long as every turn is one of a loaded thread of the caller's workspace, no
stop follows, and no spawn fails or loses its reply before a client has it.
-/

namespace PlatoAgent

/-- Nothing is under way in any workspace. -/
structure RuntimeState.Idle (state : RuntimeState) : Prop where
  runs : ∀ runId ref, state.runs.lookup runId = some ref →
    state.runIsActive ref = false
  turns : ∀ ref, (state.threads ref).currentTurn = none
  spawns : ∀ spawnId, state.pendingThreadSpawns.lookup spawnId = none
  stops : state.stoppingThreads = ∅
  issuePrep : state.issuePrepActive = false

/-- A thread with a turn is loaded and of this workspace.  A spawn that is
granted replaces the loaded thread, whose turn goes on. -/
def RuntimeState.TurnsLoadedIn (state : RuntimeState) (workspaceId : String) :
    Prop :=
  ∀ ref, (state.threads ref).currentTurn ≠ none →
    (state.threads ref).workspaceId = workspaceId ∧
      ∃ threadId, state.liveThreads.lookup threadId = some ref

/-- The message waits for a turn of some thread, loaded or replaced. -/
def RuntimeState.Waits (state : RuntimeState) (message : String) : Prop :=
  ∃ ref turn, (state.threads ref).currentTurn = some turn ∧
    message ∈ turn.pendingMessages

/-- Why a request holds a reserved spawn. -/
inductive SpawnKind where
  /-- A `thread.spawn` that a client will have to approve. -/
  | approval
  | autoGranted
  /-- The tool call of a coordinator. -/
  | model
  /-- A client's decision on a spawn. -/
  | decision
  deriving DecidableEq, Repr

/-- A request between the reservation, or the claim, of a spawn and its end. -/
structure SpawnProcess where
  workspaceId : String
  spawnId : String
  kind : SpawnKind
  claimed : Bool
  deriving DecidableEq, Repr

structure HostSystem where
  state : RuntimeState
  spawns : List SpawnProcess
  /-- The ids that clients got in an `ApprovalRequired` result. -/
  returned : List String
  /-- The state in which the shutdown was accepted. -/
  shutdown : Option RuntimeState
  /-- Something was admitted after the shutdown was accepted. -/
  lateAdmission : Bool

inductive HostAction where
  | reserveRun (runId sessionId : String) (turn : Option ThreadTurnBinding)
      (profile : Option ApprovalProfile)
  | endRun (record : RunRef) (status : RunStateName)
  | retireRun (record : RunRef)
  | releaseRun (record : RunRef)
  | loadThread (workspaceId threadId : String) (nowMs : UInt64)
  | send (workspaceId threadId controllerId : String)
      (expectedTurnId : Option String) (message newTurnId : String)
      (nowMs : UInt64)
  | bindRun (workspaceId : String) (turn : ThreadTurnBinding)
      (record : RunRef) (nowMs : UInt64)
  | nextMessage (turn : ThreadTurnBinding)
  | abortTurn (turn : ThreadTurnBinding)
  | beginStop (workspaceId threadId : String)
  | completeStop (threadId : String)
  | abortStop (threadId : String)
  | reserveIssuePrep
  | dropIssuePrep
  | reserveSpawn (workspaceId spawnId : String) (draft : ThreadAuthorityDraft)
      (maxSpawnDepth : UInt32) (kind : SpawnKind)
  | returnSpawn (process : SpawnProcess)
  /-- The connection is gone before the client has the result. -/
  | loseReply (process : SpawnProcess)
  | claimSpawn (process : SpawnProcess)
  | decideSpawn (workspaceId spawnId : String)
  | grantSpawn (process : SpawnProcess) (threadId : String) (nowMs : UInt64)
  /-- The spawn is denied or canceled. -/
  | refuseSpawn (process : SpawnProcess)
  | failSpawn (process : SpawnProcess)
  | shutdownIfIdle (workspaceId : String)

namespace HostSystem

def start (liveEpochId : String) : HostSystem :=
  ⟨.initial liveEpochId, [], [], none, false⟩

def withState (system : HostSystem) (state : RuntimeState) : HostSystem :=
  { system with state := state }

/-- The state after an admission. -/
def admitState (system : HostSystem) (state : RuntimeState) : HostSystem :=
  { system with
    state := state
    lateAdmission := system.lateAdmission || system.state.shutdownAccepted }

def reserveRun (system : HostSystem) (runId sessionId : String)
    (turn : Option ThreadTurnBinding) (profile : Option ApprovalProfile) :
    HostSystem :=
  let made := system.state.newRecord runId sessionId turn
  match made.2.reserveRunWithProfile made.1 profile with
  | .error _ => system.withState made.2
  | .ok reserved => system.admitState reserved

def send (system : HostSystem) (workspaceId threadId controllerId : String)
    (expectedTurnId : Option String) (message newTurnId : String)
    (nowMs : UInt64) : HostSystem :=
  let sent := system.state.sendThread workspaceId threadId controllerId
    expectedTurnId message newTurnId nowMs
  match sent.1 with
  | .started _ _ | .steered _ => system.admitState sent.2
  | .shuttingDown | .stopped | .rejected _ => system.withState sent.2

/-- A failed request keeps the reservation, and gives its claim back. -/
def failSpawn (system : HostSystem) (process : SpawnProcess) : HostSystem :=
  { system with
    state :=
      if process.claimed then
        system.state.releaseThreadSpawnClaim process.spawnId
      else system.state
    spawns := system.spawns.erase process }

def shutdownIfIdle (system : HostSystem) (workspaceId : String) :
    HostSystem :=
  let decided := system.state.shutdownIfIdle workspaceId
  match decided.1 with
  | .shutdown =>
      { system with state := decided.2, shutdown := some system.state }
  | .refusedActive | .alreadyShuttingDown => system.withState decided.2

def step (system : HostSystem) : HostAction → Option HostSystem
  | .reserveRun runId sessionId turn profile =>
      some (system.reserveRun runId sessionId turn profile)
  | .endRun record status =>
      some (system.withState (system.state.endRun record status))
  | .retireRun record =>
      some (system.withState (system.state.retireRun record))
  | .releaseRun record =>
      some (system.withState (system.state.releaseRunReservation record))
  | .loadThread workspaceId threadId nowMs =>
      some (system.withState
        (system.state.loadThread workspaceId threadId nowMs).2)
  | .send workspaceId threadId controllerId expectedTurnId message newTurnId
      nowMs =>
      some (system.send workspaceId threadId controllerId expectedTurnId
        message newTurnId nowMs)
  | .bindRun workspaceId turn record nowMs =>
      match system.state.bindThreadRun workspaceId turn record nowMs with
      | .bound state => some (system.withState state)
      | .failed _ | .awaitsStop => some system
  | .nextMessage turn =>
      (system.state.nextThreadMessage turn).map fun next =>
        system.withState next.2
  | .abortTurn turn =>
      some (system.withState (system.state.abortThreadTurn turn))
  | .beginStop workspaceId threadId =>
      match system.state.beginThreadStop workspaceId threadId with
      | .error _ => some system
      | .ok begun => some (system.admitState begun.2)
  | .completeStop threadId =>
      some (system.withState (system.state.completeThreadStop threadId))
  | .abortStop threadId =>
      some (system.withState (system.state.abortThreadStop threadId))
  | .reserveIssuePrep =>
      match system.state.reserveIssuePrep with
      | .error _ => some system
      | .ok reserved => some (system.admitState reserved)
  | .dropIssuePrep => some (system.withState system.state.dropIssuePrep)
  | .reserveSpawn workspaceId spawnId draft maxSpawnDepth kind =>
      if kind = .decision then none
      else match system.state.reserveThreadSpawn workspaceId spawnId draft
          maxSpawnDepth with
      | .error _ => some system
      | .ok reserved =>
          some { system.admitState reserved with
            spawns := ⟨workspaceId, spawnId, kind, false⟩ :: system.spawns }
  | .returnSpawn process =>
      if process ∈ system.spawns ∧ process.kind = .approval then
        some { system with
          spawns := system.spawns.erase process
          returned := process.spawnId :: system.returned }
      else none
  | .loseReply process =>
      if process ∈ system.spawns ∧ process.kind = .approval then
        some { system with spawns := system.spawns.erase process }
      else none
  | .claimSpawn process =>
      if process ∈ system.spawns ∧ !process.claimed ∧
          process.kind ≠ .approval then
        match system.state.claimThreadSpawn process.workspaceId
            process.spawnId with
        | .error _ => none
        | .ok claimed =>
            some { system.withState claimed.2 with
              spawns := { process with claimed := true } ::
                system.spawns.erase process }
      else none
  | .decideSpawn workspaceId spawnId =>
      match system.state.claimThreadSpawn workspaceId spawnId with
      | .error _ => some system
      | .ok claimed =>
          some { system.withState claimed.2 with
            spawns := ⟨workspaceId, spawnId, .decision, true⟩ ::
              system.spawns }
  | .grantSpawn process threadId nowMs =>
      if process ∈ system.spawns ∧ process.claimed then
        (system.state.completeThreadSpawn process.workspaceId process.spawnId
          threadId nowMs).map fun completed =>
            { system.withState completed with
              spawns := system.spawns.erase process }
      else none
  | .refuseSpawn process =>
      if process ∈ system.spawns ∧ process.claimed then
        some { system.withState (system.state.completeThreadSpawnWithoutAuthority
            process.spawnId) with
          spawns := system.spawns.erase process }
      else none
  | .failSpawn process =>
      -- A spawn that waits for a client is returned and does not fail.
      if process ∈ system.spawns ∧ process.kind ≠ .approval then
        some (system.failSpawn process)
      else none
  | .shutdownIfIdle workspaceId => some (system.shutdownIfIdle workspaceId)

/-- The steps that keep the promises of the shutdown. -/
def Careful (system : HostSystem) : HostAction → Prop
  | .beginStop _ _ => system.state.shutdownAccepted = false
  | .loseReply _ => False
  | .failSpawn process => process.kind = .decision
  | .shutdownIfIdle workspaceId =>
      system.state.isBusy workspaceId = true ∨
        system.state.TurnsLoadedIn workspaceId
  | _ => True

/-- The spawn is in the hands of a client or of a request in progress. -/
def Attended (system : HostSystem) (spawnId : String) : Prop :=
  spawnId ∈ system.returned ∨
    ∃ process ∈ system.spawns, process.spawnId = spawnId

end HostSystem

/-- The step touches no reserved spawn. -/
def SameSpawns (state after : RuntimeState) : Prop :=
  after.pendingThreadSpawns = state.pendingThreadSpawns

section Frames

variable {state after : RuntimeState}

theorem reserveRunWithProfile_sameSpawns {record : RunRef}
    {profile : Option ApprovalProfile}
    (reserved : state.reserveRunWithProfile record profile = .ok after) :
    state.shutdownAccepted = false ∧ SameSpawns state after := by
  unfold RuntimeState.reserveRunWithProfile at reserved
  split at reserved
  · cases reserved
  next accepting =>
    split at reserved
    · cases reserved
    · cases reserved
      exact ⟨by simpa using accepting, rfl⟩

theorem loadThread_sameSpawns (workspaceId threadId : String)
    (nowMs : UInt64) :
    SameSpawns state (state.loadThread workspaceId threadId nowMs).2 := by
  unfold RuntimeState.loadThread
  split
  · rfl
  · split
    · rfl
    · split <;> rfl

theorem sendThread_sameSpawns (workspaceId threadId controllerId : String)
    (expectedTurnId : Option String) (message newTurnId : String)
    (nowMs : UInt64) :
    SameSpawns state (state.sendThread workspaceId threadId controllerId
      expectedTurnId message newTurnId nowMs).2 := by
  unfold RuntimeState.sendThread
  split
  · rfl
  · split
    · rfl
    · split
      · rfl
      · split <;> rfl

theorem bindThreadRun_sameSpawns {workspaceId : String}
    {turn : ThreadTurnBinding} {record : RunRef} {nowMs : UInt64}
    (bound : state.bindThreadRun workspaceId turn record nowMs =
      .bound after) : SameSpawns state after := by
  unfold RuntimeState.bindThreadRun at bound
  split at bound
  · cases bound
  split at bound
  · cases bound
  split at bound
  · cases bound
  split at bound
  · cases bound
  split at bound
  · cases bound
  · cases bound
    rfl

theorem beginThreadStop_sameSpawns {workspaceId threadId : String}
    {target : ThreadStopTarget}
    (begun : state.beginThreadStop workspaceId threadId =
      .ok (target, after)) : SameSpawns state after := by
  unfold RuntimeState.beginThreadStop at begun
  split at begun
  · cases begun
  split at begun
  · cases begun
  dsimp only at begun
  split at begun <;> cases begun <;> rfl

theorem completeThreadStop_sameSpawns (threadId : String) :
    SameSpawns state (state.completeThreadStop threadId) := by
  unfold RuntimeState.completeThreadStop SameSpawns
  dsimp only
  split <;> rfl

theorem abortThreadStop_sameSpawns (threadId : String) :
    SameSpawns state (state.abortThreadStop threadId) := by
  unfold RuntimeState.abortThreadStop SameSpawns
  dsimp only
  split <;> rfl

theorem nextThreadMessage_sameSpawns {turn : ThreadTurnBinding}
    {next : Option String × RuntimeState}
    (delivered : state.nextThreadMessage turn = some next) :
    SameSpawns state next.2 := by
  obtain ⟨message, _, rfl⟩ := Option.map_eq_some_iff.mp delivered
  rfl

theorem reserveIssuePrep_sameSpawns
    (reserved : state.reserveIssuePrep = .ok after) :
    state.shutdownAccepted = false ∧ SameSpawns state after := by
  unfold RuntimeState.reserveIssuePrep at reserved
  split at reserved
  · cases reserved
  next accepting =>
    split at reserved
    · cases reserved
    · cases reserved
      exact ⟨by simpa using accepting, rfl⟩

/-- A send that is admitted found the host accepting. -/
theorem sendThread_admitted {workspaceId threadId controllerId : String}
    {expectedTurnId : Option String} {message newTurnId : String}
    {nowMs : UInt64}
    (admitted : (state.sendThread workspaceId threadId controllerId
      expectedTurnId message newTurnId nowMs).1 ≠ .shuttingDown) :
    state.shutdownAccepted = false := by
  by_contra accepted
  refine admitted ?_
  unfold RuntimeState.sendThread
  rw [if_pos (by simpa using accepted)]

end Frames

section Idle

variable {state : RuntimeState} {workspaceId : String}

/-- A host that is not busy, as seen from one workspace, is idle if every turn
is one of a loaded thread of this workspace. -/
theorem RuntimeState.idle_of_not_busy
    (quiet : state.isBusy workspaceId = false)
    (loaded : state.TurnsLoadedIn workspaceId) : state.Idle := by
  unfold RuntimeState.isBusy at quiet
  simp only [Bool.or_eq_false_iff, Bool.not_eq_false', decide_eq_false_iff_not]
    at quiet
  obtain ⟨⟨⟨⟨issuePrep, spawns⟩, stops⟩, turns⟩, runs⟩ := quiet
  refine ⟨?_, ?_, ?_, Finset.not_nonempty_iff_eq_empty.mp stops, issuePrep⟩
  · intro runId ref present
    by_contra active
    have any : FiniteMap.anyValue state.runIsActive state.runs = true :=
      FiniteMap.anyValue_iff.mpr ⟨runId, ref, present, by simpa using active⟩
    cases runs.symm.trans any
  · intro ref
    by_contra hasTurn
    obtain ⟨own, threadId, present⟩ := loaded ref hasTurn
    have any : FiniteMap.anyValue (fun ref =>
        (state.threads ref).workspaceId == workspaceId &&
          (state.threads ref).currentTurnId.isSome) state.liveThreads =
            true := by
      refine FiniteMap.anyValue_iff.mpr ⟨threadId, ref, present, ?_⟩
      simp [own, LiveThread.currentTurnId, Option.isSome_iff_ne_none,
        hasTurn]
    cases turns.symm.trans any
  · intro spawnId
    by_contra present
    obtain ⟨pending, isPending⟩ := Option.ne_none_iff_exists'.mp present
    have member := FiniteMap.lookup_eq_some_iff.mp isPending
    rw [List.isEmpty_iff.mp spawns] at member
    cases member

theorem shutdownIfIdle_eq_shutdown
    (decided : (state.shutdownIfIdle workspaceId).1 = .shutdown) :
    state.shutdownAccepted = false ∧ state.isBusy workspaceId = false := by
  unfold RuntimeState.shutdownIfIdle at decided
  split at decided
  · cases decided
  next accepting =>
    split at decided
    · cases decided
    next quiet => exact ⟨by simpa using accepting, by simpa using quiet⟩

theorem shutdownIfIdle_sameSpawns (workspaceId : String) :
    SameSpawns state (state.shutdownIfIdle workspaceId).2 := by
  unfold RuntimeState.shutdownIfIdle
  split
  · rfl
  · split <;> rfl

end Idle

namespace HostSystem

/-- The spawn was returned, or the request that reserved it goes on. -/
def Held (system : HostSystem) (spawnId : String) : Prop :=
  spawnId ∈ system.returned ∨
    ∃ process ∈ system.spawns, process.spawnId = spawnId ∧
      process.kind ≠ .decision

theorem Held.attended {system : HostSystem} {spawnId : String}
    (held : system.Held spawnId) : system.Attended spawnId := by
  rcases held with returned | ⟨process, member, isSpawn, _⟩
  · exact .inl returned
  · exact .inr ⟨process, member, isSpawn⟩

/-- What careful steps keep. -/
structure Invariant (system : HostSystem) : Prop where
  idle : ∀ state, system.shutdown = some state → state.Idle
  onTime : system.lateAdmission = false
  held : ∀ spawnId pending,
    system.state.pendingThreadSpawns.lookup spawnId = some pending →
      system.Held spawnId

section Steps

variable {system : HostSystem} {state : RuntimeState}

theorem Invariant.withState (invariant : system.Invariant)
    (same : SameSpawns system.state state) :
    (system.withState state).Invariant := by
  refine ⟨invariant.idle, invariant.onTime, ?_⟩
  intro spawnId pending isPending
  refine invariant.held spawnId pending ?_
  rw [← same]
  exact isPending

theorem Invariant.admitState (invariant : system.Invariant)
    (accepting : system.state.shutdownAccepted = false)
    (same : SameSpawns system.state state) :
    (system.admitState state).Invariant := by
  have kept := invariant.withState same
  refine ⟨kept.idle, ?_, kept.held⟩
  unfold HostSystem.admitState
  rw [accepting, Bool.or_false]
  exact invariant.onTime

/-- A request ends; the spawns that remain are not its own, or it only decided
on one. -/
theorem Invariant.leave (invariant : system.Invariant)
    (process : SpawnProcess)
    (remaining : ∀ spawnId pending,
      state.pendingThreadSpawns.lookup spawnId = some pending →
        (∃ earlier,
          system.state.pendingThreadSpawns.lookup spawnId = some earlier) ∧
        (process.kind ≠ .decision → process.spawnId ≠ spawnId)) :
    ({ system.withState state with
      spawns := system.spawns.erase process } : HostSystem).Invariant := by
  refine ⟨invariant.idle, invariant.onTime, ?_⟩
  intro spawnId pending isPending
  obtain ⟨⟨earlier, isEarlier⟩, other⟩ := remaining spawnId pending isPending
  rcases invariant.held spawnId earlier isEarlier with
    returned | ⟨holder, member, isSpawn, reserves⟩
  · exact .inl returned
  · refine .inr ⟨holder, ?_, isSpawn, reserves⟩
    refine (List.mem_erase_of_ne ?_).mpr member
    rintro rfl
    exact other reserves isSpawn

theorem lookup_erase_pending {spawns : FiniteMap String PendingThreadSpawn}
    {erased spawnId : String} {pending : PendingThreadSpawn}
    (present : (spawns.erase erased).lookup spawnId = some pending) :
    erased ≠ spawnId ∧ spawns.lookup spawnId = some pending := by
  obtain ⟨different, found⟩ :=
    FiniteMap.lookup_erase_eq_some_iff.mp present
  exact ⟨Ne.symm different, found⟩

theorem claimThreadSpawn_lookup {workspaceId claimedId spawnId : String}
    {claimed : PendingThreadSpawn × RuntimeState}
    {pending : PendingThreadSpawn}
    (claims : system.state.claimThreadSpawn workspaceId claimedId =
      .ok claimed)
    (present : claimed.2.pendingThreadSpawns.lookup spawnId =
      some pending) :
    ∃ earlier,
      system.state.pendingThreadSpawns.lookup spawnId = some earlier := by
  unfold RuntimeState.claimThreadSpawn at claims
  split at claims
  · cases claims
  next found isFound =>
    split at claims
    · cases claims
    split at claims
    · cases claims
    · cases claims
      rcases FiniteMap.lookup_insert_eq_some_iff.mp present with
        ⟨rfl, _⟩ | ⟨_, same⟩
      · exact ⟨found, isFound⟩
      · exact ⟨pending, same⟩

theorem releaseThreadSpawnClaim_lookup {releasedId spawnId : String}
    {pending : PendingThreadSpawn}
    (present : (system.state.releaseThreadSpawnClaim
      releasedId).pendingThreadSpawns.lookup spawnId = some pending) :
    ∃ earlier,
      system.state.pendingThreadSpawns.lookup spawnId = some earlier := by
  unfold RuntimeState.releaseThreadSpawnClaim at present
  split at present
  · exact ⟨pending, present⟩
  next found isFound =>
    rcases FiniteMap.lookup_insert_eq_some_iff.mp present with
      ⟨rfl, _⟩ | ⟨_, same⟩
    · exact ⟨found, isFound⟩
    · exact ⟨pending, same⟩

theorem failSpawn_lookup {process : SpawnProcess} {spawnId : String}
    {pending : PendingThreadSpawn}
    (present : (system.failSpawn process).state.pendingThreadSpawns.lookup
      spawnId = some pending) :
    ∃ earlier,
      system.state.pendingThreadSpawns.lookup spawnId = some earlier := by
  by_cases isClaimed : process.claimed = true
  · simp only [failSpawn, if_pos isClaimed] at present
    exact releaseThreadSpawnClaim_lookup present
  · simp only [failSpawn, if_neg isClaimed] at present
    exact ⟨pending, present⟩

/-- A decision that fails leaves the spawn to the client that got it. -/
theorem Invariant.failSpawn {process : SpawnProcess}
    (invariant : system.Invariant) (decides : process.kind = .decision) :
    (system.failSpawn process).Invariant :=
  @Invariant.leave system (system.failSpawn process).state invariant process
    fun _ _ present =>
      ⟨failSpawn_lookup present, fun reserves => absurd decides reserves⟩

theorem Invariant.step {after : HostSystem} {action : HostAction}
    (invariant : system.Invariant) (careful : system.Careful action)
    (stepped : system.step action = some after) : after.Invariant := by
  cases action with
  | reserveRun runId sessionId turn profile =>
      cases stepped
      unfold HostSystem.reserveRun
      dsimp only
      split
      · exact invariant.withState rfl
      next reserved isReserved =>
        obtain ⟨accepting, same⟩ := reserveRunWithProfile_sameSpawns isReserved
        exact invariant.admitState accepting same
  | endRun record status =>
      cases stepped
      exact invariant.withState rfl
  | retireRun record =>
      cases stepped
      exact invariant.withState rfl
  | releaseRun record =>
      cases stepped
      exact invariant.withState rfl
  | loadThread workspaceId threadId nowMs =>
      cases stepped
      exact invariant.withState (loadThread_sameSpawns _ _ _)
  | send workspaceId threadId controllerId expectedTurnId message newTurnId
      nowMs =>
      cases stepped
      have same := @sendThread_sameSpawns system.state workspaceId threadId
        controllerId expectedTurnId message newTurnId nowMs
      have accepting := @sendThread_admitted system.state workspaceId threadId
        controllerId expectedTurnId message newTurnId nowMs
      unfold HostSystem.send
      dsimp only
      split
      next isStarted =>
        exact invariant.admitState (accepting (by simp [isStarted])) same
      next isSteered =>
        exact invariant.admitState (accepting (by simp [isSteered])) same
      · exact invariant.withState same
      · exact invariant.withState same
      · exact invariant.withState same
  | bindRun workspaceId turn record nowMs =>
      unfold HostSystem.step at stepped
      dsimp only at stepped
      split at stepped
      next state bound =>
        cases stepped
        exact invariant.withState (bindThreadRun_sameSpawns bound)
      · cases stepped
        exact invariant
      · cases stepped
        exact invariant
  | nextMessage turn =>
      obtain ⟨next, delivered, rfl⟩ := Option.map_eq_some_iff.mp stepped
      exact invariant.withState (nextThreadMessage_sameSpawns delivered)
  | abortTurn turn =>
      cases stepped
      exact invariant.withState rfl
  | beginStop workspaceId threadId =>
      unfold HostSystem.step at stepped
      dsimp only at stepped
      split at stepped
      · cases stepped
        exact invariant
      next begun isBegun =>
        cases stepped
        exact invariant.admitState careful (beginThreadStop_sameSpawns isBegun)
  | completeStop threadId =>
      cases stepped
      exact invariant.withState (completeThreadStop_sameSpawns _)
  | abortStop threadId =>
      cases stepped
      exact invariant.withState (abortThreadStop_sameSpawns _)
  | reserveIssuePrep =>
      unfold HostSystem.step at stepped
      dsimp only at stepped
      split at stepped
      · cases stepped
        exact invariant
      next reserved isReserved =>
        cases stepped
        obtain ⟨accepting, same⟩ := reserveIssuePrep_sameSpawns isReserved
        exact invariant.admitState accepting same
  | dropIssuePrep =>
      cases stepped
      exact invariant.withState rfl
  | reserveSpawn workspaceId spawnId draft maxSpawnDepth kind =>
      obtain ⟨reserves, stepped⟩ := Option.ite_none_left_eq_some.mp stepped
      split at stepped
      · cases stepped
        exact invariant
      next reserved isReserved =>
        cases stepped
        unfold RuntimeState.reserveThreadSpawn at isReserved
        split at isReserved
        · cases isReserved
        next accepting =>
          split at isReserved
          · cases isReserved
          cases isReserved
          refine ⟨invariant.idle, ?_, ?_⟩
          · simpa [HostSystem.admitState, accepting] using invariant.onTime
          · intro otherId pending present
            rcases FiniteMap.lookup_insert_eq_some_iff.mp present with
              ⟨rfl, _⟩ | ⟨_, earlier⟩
            · exact .inr ⟨_, List.mem_cons_self, rfl, reserves⟩
            · rcases invariant.held otherId pending earlier with
                returned | ⟨holder, member, isSpawn, holds⟩
              · exact .inl returned
              · exact .inr ⟨holder, List.mem_cons_of_mem _ member, isSpawn,
                  holds⟩
  | returnSpawn process =>
      obtain ⟨⟨_, _⟩, ⟨⟩⟩ := Option.ite_none_right_eq_some.mp stepped
      refine ⟨invariant.idle, invariant.onTime, ?_⟩
      intro spawnId pending present
      rcases invariant.held spawnId pending present with
        returned | ⟨holder, member, isSpawn, reserves⟩
      · exact .inl (List.mem_cons_of_mem _ returned)
      · by_cases isHolder : holder = process
        · rw [← isSpawn, isHolder]
          exact .inl List.mem_cons_self
        · exact .inr ⟨holder, (List.mem_erase_of_ne isHolder).mpr member,
            isSpawn, reserves⟩
  | loseReply process => exact careful.elim
  | claimSpawn process =>
      obtain ⟨_, stepped⟩ := Option.ite_none_right_eq_some.mp stepped
      split at stepped
      · cases stepped
      next claimed isClaimed =>
        cases stepped
        refine ⟨invariant.idle, invariant.onTime, ?_⟩
        intro spawnId pending present
        obtain ⟨earlier, isEarlier⟩ :=
          claimThreadSpawn_lookup isClaimed present
        rcases invariant.held spawnId earlier isEarlier with
          returned | ⟨holder, member, isSpawn, reserves⟩
        · exact .inl returned
        · by_cases isHolder : holder = process
          · subst isHolder
            exact .inr ⟨_, List.mem_cons_self, isSpawn, reserves⟩
          · refine .inr ⟨holder, List.mem_cons_of_mem _ ?_, isSpawn, reserves⟩
            exact (List.mem_erase_of_ne isHolder).mpr member
  | decideSpawn workspaceId spawnId =>
      unfold HostSystem.step at stepped
      dsimp only at stepped
      split at stepped
      · cases stepped
        exact invariant
      next claimed isClaimed =>
        cases stepped
        refine ⟨invariant.idle, invariant.onTime, ?_⟩
        intro otherId pending present
        obtain ⟨earlier, isEarlier⟩ :=
          claimThreadSpawn_lookup isClaimed present
        rcases invariant.held otherId earlier isEarlier with
          returned | ⟨holder, member, isSpawn, reserves⟩
        · exact .inl returned
        · exact .inr ⟨holder, List.mem_cons_of_mem _ member, isSpawn, reserves⟩
  | grantSpawn process threadId nowMs =>
      obtain ⟨_, stepped⟩ := Option.ite_none_right_eq_some.mp stepped
      obtain ⟨completed, isCompleted, rfl⟩ :=
        Option.map_eq_some_iff.mp stepped
      obtain ⟨_, _, rfl⟩ := Option.map_eq_some_iff.mp isCompleted
      refine invariant.leave process fun spawnId pending present => ?_
      obtain ⟨different, earlier⟩ := lookup_erase_pending present
      exact ⟨⟨pending, earlier⟩, fun _ => different⟩
  | refuseSpawn process =>
      obtain ⟨_, ⟨⟩⟩ := Option.ite_none_right_eq_some.mp stepped
      refine invariant.leave process fun spawnId pending present => ?_
      obtain ⟨different, earlier⟩ := lookup_erase_pending present
      exact ⟨⟨pending, earlier⟩, fun _ => different⟩
  | failSpawn process =>
      obtain ⟨_, isFailed⟩ := Option.ite_none_right_eq_some.mp stepped
      rw [← Option.some.inj isFailed]
      exact invariant.failSpawn careful
  | shutdownIfIdle workspaceId =>
      cases stepped
      have same := @shutdownIfIdle_sameSpawns system.state workspaceId
      unfold HostSystem.shutdownIfIdle
      dsimp only
      split
      next decided =>
        obtain ⟨_, quiet⟩ := shutdownIfIdle_eq_shutdown decided
        refine ⟨?_, invariant.onTime, ?_⟩
        · rintro state ⟨⟩
          rcases careful with busy | loaded
          · cases quiet.symm.trans busy
          · exact RuntimeState.idle_of_not_busy quiet loaded
        · exact (invariant.withState same).held
      · exact invariant.withState same
      · exact invariant.withState same

end Steps

/-- When the shutdown was accepted the host was idle, nothing was admitted
after it, and every pending spawn is in the hands of a client or a request. -/
theorem shutdownIfIdle_idle {liveEpochId : String} {system : HostSystem}
    (reached : Reaches HostSystem.step HostSystem.Careful
      (HostSystem.start liveEpochId) system) :
    (∀ state, system.shutdown = some state → state.Idle) ∧
      system.lateAdmission = false ∧
      ∀ spawnId pending,
        system.state.pendingThreadSpawns.lookup spawnId = some pending →
          system.Attended spawnId := by
  have initial : (HostSystem.start liveEpochId).Invariant := by
    refine ⟨?_, rfl, ?_⟩
    · intro state isShutdown
      cases isShutdown
    · intro spawnId pending present
      cases present
  have invariant : system.Invariant := reached.invariant initial
    fun _ _ _ invariant careful stepped => invariant.step careful stepped
  exact ⟨invariant.idle, invariant.onTime, fun spawnId pending present =>
    (invariant.held spawnId pending present).attended⟩

/-- The draft of a coordinator's spawn. -/
def sampleDraft (threadId : String) : ThreadAuthorityDraft where
  threadId := threadId
  parentThreadId := some "thread_01"
  cwd := "/home/plato"
  agentId := none
  profileId := ⟨"profile", by decide⟩
  profileRevision := 1
  threadKind := .child
  model := "small"
  reasoningEffort := .low
  approvalPolicy := .prompt
  toolset := []
  worktrees := []
  repositories := []
  grantedPaths := []
  network := false

/-- A turn of another workspace ends, a client denies the spawn that it got, and
the host shuts down. -/
theorem shutdownIfIdle_idle_denied :
    ∃ system, Reaches step Careful (start "epoch") system ∧
      (∃ state, system.shutdown = some state) ∧
      "spawn_01" ∈ system.returned ∧
      (∀ state, system.shutdown = some state → state.Idle) ∧
      system.lateAdmission = false ∧
      ∀ spawnId pending,
        system.state.pendingThreadSpawns.lookup spawnId = some pending →
          system.Attended spawnId := by
  have reached : ∃ system, Reaches step Careful (start "epoch") system ∧
      (∃ state, system.shutdown = some state) ∧
      "spawn_01" ∈ system.returned := by
    have sent := @Reaches.next _ _ step Careful (start "epoch") _ _
      (.send "other" "thread_01" "client" none "hello" "turn_01" 0)
      .start trivial rfl
    have ended := @Reaches.next _ HostAction _ _ _ _ _
      (.nextMessage ⟨"thread_01", "turn_01", 0⟩) sent trivial rfl
    have reserved := @Reaches.next _ HostAction _ _ _ _ _
      (.reserveSpawn "home" "spawn_01" (sampleDraft "thread_02") 2 .approval)
      ended trivial rfl
    have returned := @Reaches.next _ HostAction _ _ _ _ _
      (.returnSpawn ⟨"home", "spawn_01", .approval, false⟩) reserved
      trivial rfl
    have decided := @Reaches.next _ HostAction _ _ _ _ _
      (.decideSpawn "home" "spawn_01") returned trivial rfl
    have denied := @Reaches.next _ HostAction _ _ _ _ _
      (.refuseSpawn ⟨"home", "spawn_01", .decision, true⟩) decided trivial rfl
    refine ⟨_, @Reaches.next _ HostAction _ _ _ _ _ (.shutdownIfIdle "home")
      denied ?_ rfl, ⟨_, rfl⟩, List.mem_cons_self⟩
    refine .inr fun ref hasTurn => absurd ?_ hasTurn
    cases ref <;> rfl
  obtain ⟨system, reaches, shutdown, returned⟩ := reached
  exact ⟨system, reaches, shutdown, returned, shutdownIfIdle_idle reaches⟩

/-- A host shuts down while a thread of another workspace has a turn and is
then asked to stop it; a host shuts down while a steered message waits for a
thread that a granted spawn replaced; and a spawn that fails, or whose reply is
lost, keeps a host from ever being idle. -/
theorem shutdownIfIdle_not_idle :
    (∃ system, Reaches step anyStep (start "epoch") system ∧
      (∃ state, system.shutdown = some state ∧ ¬ state.Idle) ∧
      system.lateAdmission = true) ∧
    (∃ system, Reaches step anyStep (start "epoch") system ∧
      ∃ state, system.shutdown = some state ∧ ¬ state.Idle ∧
        state.Waits "look again") ∧
    (∃ system, Reaches step anyStep (start "epoch") system ∧
      (∃ pending, system.state.pendingThreadSpawns.lookup "spawn_01" =
        some pending) ∧
      ¬ system.Attended "spawn_01" ∧
      (system.state.shutdownIfIdle "home").1 = .refusedActive) ∧
    ∃ system, Reaches step anyStep (start "epoch") system ∧
      (∃ pending, system.state.pendingThreadSpawns.lookup "spawn_02" =
        some pending) ∧
      ¬ system.Attended "spawn_02" ∧
      (system.state.shutdownIfIdle "home").1 = .refusedActive := by
  refine ⟨?_, ?_, ?_, ?_⟩
  · refine ⟨_, Reaches.run .start (show List.foldlM step (start "epoch")
      [.loadThread "other" "thread_01" 0,
        .send "other" "thread_01" "client" none "hello" "turn_01" 0,
        .shutdownIfIdle "home",
        .beginStop "other" "thread_01"] = some _ from rfl), ?_, rfl⟩
    refine ⟨_, rfl, fun idle => ?_⟩
    have hasTurn := idle.turns 0
    cases hasTurn
  · refine ⟨_, Reaches.run .start (show List.foldlM step (start "epoch")
      [.reserveSpawn "home" "spawn_01" (sampleDraft "thread_02") 2
          .autoGranted,
        .claimSpawn ⟨"home", "spawn_01", .autoGranted, false⟩,
        .send "home" "thread_02" "client" none "hello" "turn_01" 0,
        .send "home" "thread_02" "client" (some "turn_01") "look again"
          "turn_02" 0,
        .grantSpawn ⟨"home", "spawn_01", .autoGranted, true⟩ "thread_02" 0,
        .shutdownIfIdle "home"] = some _ from rfl), _, rfl, fun idle => ?_, ?_⟩
    · have hasTurn := idle.turns 0
      cases hasTurn
    · exact ⟨0, _, rfl, List.mem_cons_self⟩
  · refine ⟨_, Reaches.run .start (show List.foldlM step (start "epoch")
      [.reserveSpawn "home" "spawn_01" (sampleDraft "thread_02") 2
          .autoGranted,
        .claimSpawn ⟨"home", "spawn_01", .autoGranted, false⟩,
        .failSpawn ⟨"home", "spawn_01", .autoGranted, true⟩] = some _ from
      rfl), ⟨_, rfl⟩, ?_, rfl⟩
    rintro (returned | ⟨process, member, _⟩)
    · cases returned
    · cases member
  · refine ⟨_, Reaches.run .start (show List.foldlM step (start "epoch")
      [.reserveSpawn "home" "spawn_02" (sampleDraft "thread_02") 2 .approval,
        .loseReply ⟨"home", "spawn_02", .approval, false⟩] = some _ from
      rfl), ⟨_, rfl⟩, ?_, rfl⟩
    rintro (returned | ⟨process, member, _⟩)
    · cases returned
    · cases member

end HostSystem

end PlatoAgent
