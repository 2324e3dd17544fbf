import PlatoAgent.FiniteMap
import PlatoAgent.LiveThread
import PlatoAgent.LedgerTypes
import PlatoAgent.StoreSchema

/-!
# The daemon runtime

The state that the runtimes of all workspaces share, with the live threads and
run records that it points to.  Each function below is one critical section
under the lock of the state; `workspaceId` is the workspace of the runtime that
calls it.
-/

namespace PlatoAgent

/-- The address of a shared `RunRecord`. -/
abbrev RunRef : Type :=
  Nat

structure RunRecord where
  runId : String
  sessionId : String
  threadTurn : Option ThreadTurnBinding
  state : RunStateName
  events : OffsetBuffer StreamEvent
  deriving Repr

/-- The run has not ended. -/
def RunStateName.isActive : RunStateName → Bool
  | .running | .cancelRequested => true
  | .finished | .failed | .canceled | .interrupted => false

inductive ApprovalProfile where
  | prompt | yolo
  deriving DecidableEq, Repr

structure PendingThreadSpawn where
  spawnId : String
  workspaceId : String
  draft : ThreadAuthorityDraft
  maxSpawnDepth : UInt32
  decisionInProgress : Bool
  deriving DecidableEq, Repr

inductive ThreadSpawnAdmissionError where
  | shuttingDown | duplicate
  deriving DecidableEq, Repr

inductive ThreadSpawnClaimError where
  | notFound | wrongWorkspace | decisionInProgress
  deriving DecidableEq, Repr

inductive ThreadEventsError where
  | stopped
  deriving DecidableEq, Repr

inductive ThreadStopError where
  | inProgress | alreadyStopped
  deriving DecidableEq, Repr

structure ThreadStopTarget where
  turnId : Option String
  run : Option RunRef
  deriving DecidableEq, Repr

inductive RunAdmissionError where
  | shuttingDown
  | sessionActive (runId : String)
  deriving DecidableEq, Repr

inductive IssuePrepAdmissionError where
  | shuttingDown | active
  deriving DecidableEq, Repr

inductive ShutdownIfIdleDecision where
  | shutdown | refusedActive | alreadyShuttingDown
  deriving DecidableEq, Repr

def maxEventBuffer : Nat :=
  256

def maxTerminalRuns : Nat :=
  32

/-- `RuntimeState`, followed by the objects that its pointers refer to. -/
structure RuntimeState where
  runs : FiniteMap String RunRef
  liveThreads : FiniteMap String ThreadRef
  activeThreadRuns : FiniteMap String RunRef
  stoppingThreads : Finset String
  stoppedThreads : Finset String
  pendingThreadSpawns : FiniteMap String PendingThreadSpawn
  terminalRuns : List String
  shutdownAccepted : Bool
  issuePrepActive : Bool
  approvalProfiles : FiniteMap String ApprovalProfile
  liveEpochId : String
  threads : ThreadRef → LiveThread
  nextThread : ThreadRef
  records : RunRef → RunRecord
  nextRecord : RunRef

namespace RuntimeState

/-- `RuntimeState::default`; the objects are junk until they are made. -/
def initial (liveEpochId : String) : RuntimeState where
  runs := ∅
  liveThreads := ∅
  activeThreadRuns := ∅
  stoppingThreads := ∅
  stoppedThreads := ∅
  pendingThreadSpawns := ∅
  terminalRuns := []
  shutdownAccepted := false
  issuePrepActive := false
  approvalProfiles := ∅
  liveEpochId := liveEpochId
  threads _ := .new "" 0
  nextThread := 0
  records _ := ⟨"", "", none, .running, .empty⟩
  nextRecord := 0

def setThread (state : RuntimeState) (ref : ThreadRef) (thread : LiveThread) :
    RuntimeState :=
  { state with threads := Function.update state.threads ref thread }

def setRecord (state : RuntimeState) (ref : RunRef) (record : RunRecord) :
    RuntimeState :=
  { state with records := Function.update state.records ref record }

/-- A new object becomes the live thread. -/
def installThread (state : RuntimeState) (threadId : String)
    (thread : LiveThread) : RuntimeState :=
  { state with
    threads := Function.update state.threads state.nextThread thread
    nextThread := state.nextThread + 1
    liveThreads := state.liveThreads.insert threadId state.nextThread }

/-- The live object of a thread of the workspace. -/
def liveThread (state : RuntimeState) (workspaceId threadId : String) :
    Option ThreadRef :=
  (state.liveThreads.lookup threadId).filter fun ref =>
    (state.threads ref).workspaceId == workspaceId

def runIsActive (state : RuntimeState) (ref : RunRef) : Bool :=
  (state.records ref).state.isActive

def reserveThreadSpawn (state : RuntimeState) (workspaceId spawnId : String)
    (draft : ThreadAuthorityDraft) (maxSpawnDepth : UInt32) :
    Except ThreadSpawnAdmissionError RuntimeState :=
  if state.shutdownAccepted then
    .error .shuttingDown
  else if (state.pendingThreadSpawns.lookup spawnId).isSome ∨
      (state.liveThreads.lookup draft.threadId).isSome ∨
      state.pendingThreadSpawns.anyValue fun pending =>
        pending.draft.threadId == draft.threadId then
    .error .duplicate
  else
    .ok { state with
      pendingThreadSpawns := state.pendingThreadSpawns.insert spawnId
        ⟨spawnId, workspaceId, draft, maxSpawnDepth, false⟩ }

def claimThreadSpawn (state : RuntimeState) (workspaceId spawnId : String) :
    Except ThreadSpawnClaimError (PendingThreadSpawn × RuntimeState) :=
  match state.pendingThreadSpawns.lookup spawnId with
  | none => .error .notFound
  | some pending =>
      if pending.workspaceId ≠ workspaceId then
        .error .wrongWorkspace
      else if pending.decisionInProgress then
        .error .decisionInProgress
      else
        let claimed := { pending with decisionInProgress := true }
        .ok (claimed,
          { state with
            pendingThreadSpawns :=
              state.pendingThreadSpawns.insert spawnId claimed })

def releaseThreadSpawnClaim (state : RuntimeState) (spawnId : String) :
    RuntimeState :=
  match state.pendingThreadSpawns.lookup spawnId with
  | none => state
  | some pending =>
      { state with
        pendingThreadSpawns := state.pendingThreadSpawns.insert spawnId
          { pending with decisionInProgress := false } }

/-- `complete_thread_spawn` panics without a reservation. -/
def completeThreadSpawn (state : RuntimeState) (workspaceId spawnId : String)
    (threadId : String) (createdAtMs : UInt64) : Option RuntimeState :=
  (state.pendingThreadSpawns.lookup spawnId).map fun _ =>
    { state.installThread threadId (.new workspaceId createdAtMs) with
      pendingThreadSpawns := state.pendingThreadSpawns.erase spawnId }

def completeThreadSpawnWithoutAuthority (state : RuntimeState)
    (spawnId : String) : RuntimeState :=
  { state with pendingThreadSpawns := state.pendingThreadSpawns.erase spawnId }

def loadThread (state : RuntimeState) (workspaceId threadId : String)
    (nowMs : UInt64) : Except ThreadEventsError ThreadRef × RuntimeState :=
  if threadId ∈ state.stoppedThreads then
    (.error .stopped, state)
  else match state.liveThread workspaceId threadId with
  | some ref => (.ok ref, state)
  | none =>
      if threadId ∈ state.stoppingThreads then
        (.error .stopped, state)
      else
        (.ok state.nextThread,
          state.installThread threadId (.new workspaceId nowMs))

/-- `send` on a live object. -/
def sendLive (state : RuntimeState) (ref : ThreadRef)
    (threadId controllerId : String) (expectedTurnId : Option String)
    (message newTurnId : String) (nowMs : UInt64) :
    ThreadSendAdmission × RuntimeState :=
  let sent := (state.threads ref).send ref threadId controllerId
    expectedTurnId message newTurnId nowMs
  (sent.1, state.setThread ref sent.2)

def sendThread (state : RuntimeState) (workspaceId threadId : String)
    (controllerId : String) (expectedTurnId : Option String)
    (message newTurnId : String) (nowMs : UInt64) :
    ThreadSendAdmission × RuntimeState :=
  if state.shutdownAccepted then
    (.shuttingDown, state)
  else if threadId ∈ state.stoppingThreads ∨
      threadId ∈ state.stoppedThreads then
    (.stopped, state)
  else match state.liveThread workspaceId threadId with
  | some ref =>
      state.sendLive ref threadId controllerId expectedTurnId message
        newTurnId nowMs
  | none =>
      if expectedTurnId.isSome then
        (.rejected (.rejected threadId none .turnMismatch), state)
      else
        (state.installThread threadId (.new workspaceId nowMs)).sendLive
          state.nextThread threadId controllerId expectedTurnId message
          newTurnId nowMs

/-- One pass of the loop of `bind_thread_run`. -/
inductive BindPass where
  | bound (state : RuntimeState)
  | failed (error : ThreadRunBindError)
  | awaitsStop

def bindThreadRun (state : RuntimeState) (workspaceId : String)
    (turn : ThreadTurnBinding) (record : RunRef) (nowMs : UInt64) : BindPass :=
  if turn.threadId ∈ state.stoppedThreads then
    .failed .stopping
  else match (state.liveThread workspaceId turn.threadId).filter
      (· == turn.thread) with
  | none => .failed .notLoaded
  | some ref =>
      if turn.threadId ∈ state.stoppingThreads then
        .awaitsStop
      else if (state.activeThreadRuns.lookup turn.threadId).any
          state.runIsActive then
        .failed .runActive
      else match (state.threads ref).bindRun turn.turnId nowMs with
      | .error error => .failed error
      | .ok thread =>
          .bound { state.setThread ref thread with
            activeThreadRuns :=
              state.activeThreadRuns.insert turn.threadId record }

/-- `wait_for_stop_resolution`, or nothing while the stop is being decided. -/
def waitForStopResolution (state : RuntimeState) (ref : ThreadRef) :
    Option LiveThreadLifecycle :=
  if (state.threads ref).lifecycle = .stopping then none
  else some (state.threads ref).lifecycle

def beginThreadStop (state : RuntimeState) (workspaceId threadId : String) :
    Except ThreadStopError (ThreadStopTarget × RuntimeState) :=
  if threadId ∈ state.stoppedThreads then
    .error .alreadyStopped
  else if threadId ∈ state.stoppingThreads then
    .error .inProgress
  else
    let marked := { state with
      stoppingThreads := insert threadId state.stoppingThreads }
    let run := state.activeThreadRuns.lookup threadId
    match state.liveThread workspaceId threadId with
    | none => .ok (⟨none, run⟩, marked)
    | some ref =>
        let begun := (state.threads ref).beginStop
        .ok (⟨begun.1, run⟩, marked.setThread ref begun.2)

def completeThreadStop (state : RuntimeState) (threadId : String) :
    RuntimeState :=
  let completed := match state.liveThreads.lookup threadId with
    | none => state
    | some ref => state.setThread ref (state.threads ref).completeStop
  { completed with
    liveThreads := state.liveThreads.erase threadId
    activeThreadRuns := state.activeThreadRuns.erase threadId
    stoppingThreads := state.stoppingThreads.erase threadId
    stoppedThreads := insert threadId state.stoppedThreads }

def abortThreadStop (state : RuntimeState) (threadId : String) :
    RuntimeState :=
  let aborted := match state.liveThreads.lookup threadId with
    | none => state
    | some ref => state.setThread ref (state.threads ref).abortStop
  { aborted with stoppingThreads := state.stoppingThreads.erase threadId }

/-- `next_thread_message`, or nothing while a stop is being decided. -/
def nextThreadMessage (state : RuntimeState) (turn : ThreadTurnBinding) :
    Option (Option String × RuntimeState) :=
  ((state.threads turn.thread).nextMessageOrFinish turn.turnId).map
    fun next => (next.1, state.setThread turn.thread next.2)

def abortThreadTurn (state : RuntimeState) (turn : ThreadTurnBinding) :
    RuntimeState :=
  state.setThread turn.thread ((state.threads turn.thread).abort turn.turnId)

/-- `RunRecord::new_for_thread`, or `RunRecord::new` without a turn. -/
def newRecord (state : RuntimeState) (runId sessionId : String)
    (threadTurn : Option ThreadTurnBinding) : RunRef × RuntimeState :=
  (state.nextRecord,
    { state with
      records := Function.update state.records state.nextRecord
        ⟨runId, sessionId, threadTurn, .running, .empty⟩
      nextRecord := state.nextRecord + 1 })

/-- An active run of the session. -/
def activeSessionRun (state : RuntimeState) (sessionId : String) :
    Option RunRef :=
  (state.runs.entries.map (·.2)).find? fun ref =>
    (state.records ref).sessionId == sessionId && state.runIsActive ref

def reserveRunWithProfile (state : RuntimeState) (record : RunRef)
    (profile : Option ApprovalProfile) :
    Except RunAdmissionError RuntimeState :=
  if state.shutdownAccepted then
    .error .shuttingDown
  else match state.activeSessionRun (state.records record).sessionId with
  | some active => .error (.sessionActive (state.records active).runId)
  | none =>
      .ok { state with
        approvalProfiles := profile.elim state.approvalProfiles fun profile =>
          state.approvalProfiles.insert (state.records record).sessionId profile
        runs := state.runs.insert (state.records record).runId record }

def releaseRunReservation (state : RuntimeState) (record : RunRef) :
    RuntimeState :=
  let runId := (state.records record).runId
  { state with
    activeThreadRuns := FiniteMap.retain (· != record) state.activeThreadRuns
    runs :=
      if state.runs.lookup runId = some record then state.runs.erase runId
      else state.runs }

/-- The first critical section of `complete_run`. -/
def endRun (state : RuntimeState) (record : RunRef) (status : RunStateName) :
    RuntimeState :=
  state.setRecord record { state.records record with state := status }

/-- The terminal runs that are still kept, after those that are evicted. -/
def evictTerminalRuns (runs : FiniteMap String RunRef)
    (terminalRuns : List String) : FiniteMap String RunRef × List String :=
  let evicted := terminalRuns.take (terminalRuns.length - maxTerminalRuns)
  (evicted.foldl (fun runs runId => runs.erase runId) runs,
    terminalRuns.drop (terminalRuns.length - maxTerminalRuns))

/-- The second critical section of `complete_run`. -/
def retireRun (state : RuntimeState) (record : RunRef) : RuntimeState :=
  let kept := evictTerminalRuns state.runs
    (state.terminalRuns ++ [(state.records record).runId])
  { state with
    activeThreadRuns := FiniteMap.retain (· != record) state.activeThreadRuns
    runs := kept.1
    terminalRuns := kept.2 }

def reserveIssuePrep (state : RuntimeState) :
    Except IssuePrepAdmissionError RuntimeState :=
  if state.shutdownAccepted then
    .error .shuttingDown
  else if state.issuePrepActive then
    .error .active
  else
    .ok { state with issuePrepActive := true }

/-- `Drop` of the reservation. -/
def dropIssuePrep (state : RuntimeState) : RuntimeState :=
  { state with issuePrepActive := false }

/-- Something is under way, as seen from the workspace of the caller. -/
def isBusy (state : RuntimeState) (workspaceId : String) : Bool :=
  state.issuePrepActive ||
    !state.pendingThreadSpawns.entries.isEmpty ||
    decide state.stoppingThreads.Nonempty ||
    FiniteMap.anyValue (fun ref =>
      (state.threads ref).workspaceId == workspaceId &&
        (state.threads ref).currentTurnId.isSome) state.liveThreads ||
    FiniteMap.anyValue state.runIsActive state.runs

def shutdownIfIdle (state : RuntimeState) (workspaceId : String) :
    ShutdownIfIdleDecision × RuntimeState :=
  if state.shutdownAccepted then
    (.alreadyShuttingDown, state)
  else if state.isBusy workspaceId then
    (.refusedActive, state)
  else
    (.shutdown, { state with shutdownAccepted := true })

section Objects

variable (state : RuntimeState) (ref : ThreadRef) (thread : LiveThread)

@[simp]
theorem setThread_threads :
    (state.setThread ref thread).threads =
      Function.update state.threads ref thread :=
  rfl

@[simp]
theorem setThread_liveThreads :
    (state.setThread ref thread).liveThreads = state.liveThreads :=
  rfl

@[simp]
theorem setThread_liveEpochId :
    (state.setThread ref thread).liveEpochId = state.liveEpochId :=
  rfl

@[simp]
theorem setThread_nextThread :
    (state.setThread ref thread).nextThread = state.nextThread :=
  rfl

variable (threadId : String)

@[simp]
theorem installThread_lookup :
    (state.installThread threadId thread).liveThreads.lookup threadId =
      some state.nextThread :=
  AList.lookup_insert _

@[simp]
theorem installThread_threads :
    (state.installThread threadId thread).threads =
      Function.update state.threads state.nextThread thread :=
  rfl

@[simp]
theorem installThread_liveEpochId :
    (state.installThread threadId thread).liveEpochId = state.liveEpochId :=
  rfl

@[simp]
theorem installThread_nextThread :
    (state.installThread threadId thread).nextThread = state.nextThread + 1 :=
  rfl

end Objects

/-- The thread of the live object, when it belongs to the workspace. -/
theorem liveThread_eq_some_iff {state : RuntimeState}
    {workspaceId threadId : String} {ref : ThreadRef} :
    state.liveThread workspaceId threadId = some ref ↔
      state.liveThreads.lookup threadId = some ref ∧
        (state.threads ref).workspaceId = workspaceId := by
  simp [liveThread, Option.filter_eq_some_iff]

theorem liveThread_eq_none_of_unloaded {state : RuntimeState}
    {threadId : String}
    (unloaded : state.liveThreads.lookup threadId = none)
    (workspaceId : String) : state.liveThread workspaceId threadId = none := by
  simp [liveThread, unloaded]

end RuntimeState

end PlatoAgent
