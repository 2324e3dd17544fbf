import PlatoAgent.ActionRuns
import PlatoAgent.DaemonRuntime

/-!
# Turns of a thread

Requests that send to one thread, the drivers of the turns they start, and a
request that stops the thread, interleaved step by step.  A process of the
model is a `thread.send` request that started a turn; when its first run is
handed over, the same process goes on as the driver of the turn.
-/

namespace PlatoAgent

/-- Where a process is in `handle_thread_send`, `start_run` or
`drive_thread_turn`. -/
inductive TurnPhase where
  /-- Between `send_thread` and `start_run`. -/
  | admitted
  /-- In `start_run`, before the run is reserved. -/
  | starting
  | reserved (record : RunRef)
  /-- In the loop of `bind_thread_run`, at its wait. -/
  | awaitingStop (record : RunRef)
  | bound (record : RunRef)
  | running (record : RunRef)
  /-- In `complete_run`, after the status was set. -/
  | retiring (record : RunRef)
  /-- On a failure exit of `start_run`, before the reservation is released. -/
  | releasing (record : RunRef)
  | aborting
  /-- The request, or the `start_run` of the driver, has failed. -/
  | failed
  /-- In the loop of the driver, before `next_thread_message`. -/
  | driving
  /-- After the loop of the driver. -/
  | drained
  deriving DecidableEq, Repr

def TurnPhase.record : TurnPhase → Option RunRef
  | .reserved record | .awaitingStop record | .bound record | .running record
  | .retiring record | .releasing record => some record
  | .admitted | .starting | .aborting | .failed | .driving | .drained => none

/-- The run of the process is bound to the thread. -/
def TurnPhase.isExecuting : TurnPhase → Bool
  | .bound _ | .running _ | .retiring _ => true
  | .admitted | .starting | .reserved _ | .awaitingStop _ | .releasing _
  | .aborting | .failed | .driving | .drained => false

structure TurnProcess where
  turn : ThreadTurnBinding
  isDriver : Bool
  phase : TurnPhase
  deriving DecidableEq, Repr

inductive TurnMove where
  /-- An exit of `handle_thread_send` before `start_run`. -/
  | fail
  | startRun
  | failStart
  | reserve (runId sessionId : String)
  | bind (nowMs : UInt64)
  | resumeBind
  /-- The admission of a bound run fails, or its worker is not started. -/
  | failAdmission
  | launch
  | endRun (status : RunStateName)
  | retire
  | release
  | abortStart
  | leave
  | nextMessage
  | finish
  deriving DecidableEq, Repr

/-- What a move leaves: the process, unless it is done, and the message that
`next_thread_message` returned. -/
structure TurnMoved where
  state : RuntimeState
  process : Option TurnProcess
  delivered : Option String

namespace TurnProcess

def enter (process : TurnProcess) (phase : TurnPhase) : TurnProcess :=
  { process with phase := phase }

/-- `reserve_run_with_profile` for a fresh record. -/
def reserve (state : RuntimeState) (process : TurnProcess)
    (runId sessionId : String) : TurnMoved :=
  let made := state.newRecord runId sessionId (some process.turn)
  match made.2.reserveRunWithProfile made.1 none with
  | .error _ => ⟨made.2, some (process.enter .failed), none⟩
  | .ok reserved => ⟨reserved, some (process.enter (.reserved made.1)), none⟩

/-- One pass of `bind_thread_run`. -/
def bind (workspaceId : String) (state : RuntimeState) (process : TurnProcess)
    (record : RunRef) (nowMs : UInt64) : TurnMoved :=
  match state.bindThreadRun workspaceId process.turn record nowMs with
  | .bound after => ⟨after, some (process.enter (.bound record)), none⟩
  | .failed _ => ⟨state, some (process.enter (.releasing record)), none⟩
  | .awaitsStop => ⟨state, some (process.enter (.awaitingStop record)), none⟩

/-- The end of the wait in `bind_thread_run`. -/
def resumeBind (state : RuntimeState) (process : TurnProcess)
    (record : RunRef) : Option TurnMoved :=
  (state.waitForStopResolution process.turn.thread).map fun lifecycle =>
    ⟨state,
      some (process.enter (if lifecycle = .running then .reserved record
        else .releasing record)), none⟩

/-- `next_thread_message` in the loop of the driver. -/
def nextMessage (state : RuntimeState) (process : TurnProcess) :
    Option TurnMoved :=
  (state.nextThreadMessage process.turn).map fun next =>
    ⟨next.2, some (process.enter (if next.1.isSome then .starting else .drained)),
      next.1⟩

def move (workspaceId : String) (state : RuntimeState)
    (process : TurnProcess) (move : TurnMove) : Option TurnMoved :=
  match process.phase, move with
  | .admitted, .fail => some ⟨state, some (process.enter .failed), none⟩
  | .admitted, .startRun => some ⟨state, some (process.enter .starting), none⟩
  | .starting, .failStart => some ⟨state, some (process.enter .failed), none⟩
  | .starting, .reserve runId sessionId =>
      some (process.reserve state runId sessionId)
  | .reserved record, .bind nowMs =>
      some (process.bind workspaceId state record nowMs)
  | .awaitingStop record, .resumeBind => process.resumeBind state record
  | .bound record, .failAdmission =>
      some ⟨state, some (process.enter (.releasing record)), none⟩
  | .bound record, .launch =>
      -- The worker of a first run takes over as the driver.
      some ⟨state, some ⟨process.turn, true, .running record⟩, none⟩
  | .running record, .endRun status =>
      if status.isActive then none
      else some ⟨state.endRun record status,
        some (process.enter (.retiring record)), none⟩
  | .retiring record, .retire =>
      some ⟨state.retireRun record, some (process.enter .driving), none⟩
  | .releasing record, .release =>
      some ⟨state.releaseRunReservation record, some (process.enter .aborting),
        none⟩
  | .aborting, .abortStart =>
      some ⟨state.abortThreadTurn process.turn, some (process.enter .failed),
        none⟩
  | .failed, .leave =>
      -- The request aborts the turn and returns; the driver goes on.
      if process.isDriver then some ⟨state, some (process.enter .driving), none⟩
      else some ⟨state.abortThreadTurn process.turn, none, none⟩
  | .driving, .nextMessage => process.nextMessage state
  | .drained, .finish =>
      some ⟨state.abortThreadTurn process.turn, none, none⟩
  | _, _ => none

end TurnProcess

/-- The processes of one thread, the stop in progress, and what was answered:
the messages that were acknowledged for a turn and those returned to it. -/
structure TurnSystem where
  state : RuntimeState
  processes : FiniteMap Nat TurnProcess
  nextProcess : Nat
  stop : Option ThreadStopTarget
  usedTurns : List String
  acknowledged : List (String × String)
  delivered : List (String × String)

inductive TurnAction where
  | send (controllerId : String) (expectedTurnId : Option String)
      (message newTurnId : String) (nowMs : UInt64)
  | move (process : Nat) (move : TurnMove)
  | requestCancel (record : RunRef)
  | beginStop
  | completeStop
  | abortStop
  deriving DecidableEq, Repr

namespace TurnSystem

/-- `thread.send` with a fresh turn identifier. -/
def send (workspaceId threadId : String) (system : TurnSystem)
    (controllerId : String) (expectedTurnId : Option String)
    (message newTurnId : String) (nowMs : UInt64) : TurnSystem :=
  let sent := system.state.sendThread workspaceId threadId controllerId
    expectedTurnId message newTurnId nowMs
  let used := { system with
    state := sent.2
    usedTurns := newTurnId :: system.usedTurns }
  match sent.1 with
  | .started _ turn =>
      { used with
        processes := system.processes.insert system.nextProcess
          ⟨turn, false, .admitted⟩
        nextProcess := system.nextProcess + 1 }
  | .steered (.steered _ turnId) =>
      { used with
        acknowledged := system.acknowledged ++ [(turnId, message)] }
  | _ => used

def setProcess (system : TurnSystem) (key : Nat)
    (process : Option TurnProcess) : FiniteMap Nat TurnProcess :=
  match process with
  | some process => system.processes.insert key process
  | none => system.processes.erase key

def moveTo (system : TurnSystem) (key : Nat) (process : TurnProcess)
    (moved : TurnMoved) : TurnSystem :=
  { system with
    state := moved.state
    processes := system.setProcess key moved.process
    delivered := system.delivered ++
      (moved.delivered.map fun message =>
        (process.turn.turnId, message)).toList }

def advance (workspaceId : String) (system : TurnSystem) (key : Nat)
    (move : TurnMove) : Option TurnSystem :=
  (system.processes.lookup key).bind fun process =>
    (process.move workspaceId system.state move).map
      (system.moveTo key process)

def step (workspaceId threadId : String) (system : TurnSystem) :
    TurnAction → Option TurnSystem
  | .send controllerId expectedTurnId message newTurnId nowMs =>
      if newTurnId ∈ system.usedTurns then none
      else some (system.send workspaceId threadId controllerId expectedTurnId
        message newTurnId nowMs)
  | .move key move => system.advance workspaceId key move
  | .requestCancel record =>
      if (system.state.records record).state = .running then
        some { system with
          state := system.state.endRun record .cancelRequested }
      else none
  | .beginStop =>
      match system.state.beginThreadStop workspaceId threadId with
      | .error _ => none
      | .ok (target, state) =>
          some { system with state := state, stop := some target }
  | .completeStop =>
      -- A stop is completed when the run it found has ended.
      if system.stop.any fun target =>
          !target.run.any system.state.runIsActive then
        some { system with
          state := system.state.completeThreadStop threadId
          stop := none }
      else none
  | .abortStop =>
      if system.stop.isSome then
        some { system with
          state := system.state.abortThreadStop threadId
          stop := none }
      else none

structure Initial (threadId : String) (system : TurnSystem) : Prop where
  unloaded : system.state.liveThreads.lookup threadId = none
  unbound : system.state.activeThreadRuns.lookup threadId = none
  unstopped : threadId ∉ system.state.stoppingThreads
  processes : system.processes = ∅
  stop : system.stop = none
  acknowledged : system.acknowledged = []
  delivered : system.delivered = []

end TurnSystem

/-- The parts of the state that runs do not touch. -/
structure RuntimeState.SameThreads (before after : RuntimeState) : Prop where
  liveThreads : after.liveThreads = before.liveThreads
  threads : after.threads = before.threads
  stoppingThreads : after.stoppingThreads = before.stoppingThreads
  stoppedThreads : after.stoppedThreads = before.stoppedThreads

theorem RuntimeState.SameThreads.refl (state : RuntimeState) :
    state.SameThreads state :=
  ⟨rfl, rfl, rfl, rfl⟩

/-- What one move of a process can do. -/
inductive TurnStep (workspaceId : String) (state : RuntimeState)
    (process : TurnProcess) : TurnMove → TurnMoved → Prop where
  | quiet {move : TurnMove} {after : RuntimeState} {isDriver : Bool}
      {phase : TurnPhase} (same : state.SameThreads after)
      (active : after.activeThreadRuns = state.activeThreadRuns)
      (record : process.phase.record.isSome = true →
        phase.record = process.phase.record)
      (undrained : phase ≠ .drained)
      (executing : phase.isExecuting = true →
        process.phase.isExecuting = true) :
      TurnStep workspaceId state process move
        ⟨after, some ⟨process.turn, isDriver, phase⟩, none⟩
  | bind {after : RuntimeState} {record : RunRef} {nowMs : UInt64}
      (bound : state.bindThreadRun workspaceId process.turn record nowMs =
        .bound after) :
      TurnStep workspaceId state process (.bind nowMs)
        ⟨after, some (process.enter (.bound record)), none⟩
  | unbind {move : TurnMove} {after : RuntimeState} {record : RunRef}
      {phase : TurnPhase} (same : state.SameThreads after)
      (held : process.phase.record = some record)
      (active : after.activeThreadRuns =
        FiniteMap.retain (· != record) state.activeThreadRuns)
      (undrained : phase ≠ .drained) (idle : phase.isExecuting = false) :
      TurnStep workspaceId state process move
        ⟨after, some (process.enter phase), none⟩
  | abortStart (unheld : process.phase.record = none) :
      TurnStep workspaceId state process .abortStart
        ⟨state.abortThreadTurn process.turn, some (process.enter .failed),
          none⟩
  | leave (unheld : process.phase.record = none)
      (isRequest : process.isDriver = false) :
      TurnStep workspaceId state process .leave
        ⟨state.abortThreadTurn process.turn, none, none⟩
  | next {moved : TurnMoved} (unheld : process.phase.record = none)
      (next : process.nextMessage state = some moved) :
      TurnStep workspaceId state process .nextMessage moved
  | finish (isDrained : process.phase = .drained) :
      TurnStep workspaceId state process .finish
        ⟨state.abortThreadTurn process.turn, none, none⟩

theorem TurnProcess.reserve_turnStep (workspaceId : String)
    (state : RuntimeState) {process : TurnProcess}
    (isStarting : process.phase = .starting) (runId sessionId : String) :
    TurnStep workspaceId state process (.reserve runId sessionId)
      (process.reserve state runId sessionId) := by
  have unheld : process.phase.record = none := by simp [isStarting,
    TurnPhase.record]
  unfold TurnProcess.reserve
  dsimp only
  split
  · exact .quiet ⟨rfl, rfl, rfl, rfl⟩ rfl (by simp [unheld]) (by decide)
      (by simp [TurnPhase.isExecuting])
  next reserved isReserved =>
    have frame : state.SameThreads reserved ∧
        reserved.activeThreadRuns = state.activeThreadRuns := by
      unfold RuntimeState.reserveRunWithProfile at isReserved
      split at isReserved
      · cases isReserved
      split at isReserved
      · cases isReserved
      · cases isReserved
        exact ⟨⟨rfl, rfl, rfl, rfl⟩, rfl⟩
    exact .quiet frame.1 frame.2 (by simp [unheld]) (by simp)
      (by simp [TurnPhase.isExecuting])

theorem TurnProcess.bind_turnStep (workspaceId : String)
    (state : RuntimeState) {process : TurnProcess} {record : RunRef}
    (isReserved : process.phase = .reserved record) (nowMs : UInt64) :
    TurnStep workspaceId state process (.bind nowMs)
      (process.bind workspaceId state record nowMs) := by
  have held : process.phase.record = some record := by simp [isReserved,
    TurnPhase.record]
  unfold TurnProcess.bind
  split
  next bound => exact .bind bound
  · exact .quiet (.refl state) rfl (fun _ => held.symm ▸ rfl) (by simp)
      (by simp [TurnPhase.isExecuting])
  · exact .quiet (.refl state) rfl (fun _ => held.symm ▸ rfl) (by simp)
      (by simp [TurnPhase.isExecuting])

theorem TurnProcess.move_turnStep {workspaceId : String}
    {state : RuntimeState} {process : TurnProcess} {move : TurnMove}
    {moved : TurnMoved}
    (isMoved : process.move workspaceId state move = some moved) :
    TurnStep workspaceId state process move moved := by
  unfold TurnProcess.move at isMoved
  split at isMoved
  next phase =>
    cases isMoved
    exact .quiet (.refl state) rfl (by simp [phase, TurnPhase.record])
      (by decide) (by simp [TurnPhase.isExecuting])
  next phase =>
    cases isMoved
    exact .quiet (.refl state) rfl (by simp [phase, TurnPhase.record])
      (by decide) (by simp [TurnPhase.isExecuting])
  next phase =>
    cases isMoved
    exact .quiet (.refl state) rfl (by simp [phase, TurnPhase.record])
      (by decide) (by simp [TurnPhase.isExecuting])
  next phase =>
    cases isMoved
    exact TurnProcess.reserve_turnStep workspaceId state phase ..
  next phase =>
    cases isMoved
    exact TurnProcess.bind_turnStep workspaceId state phase _
  next phase =>
    obtain ⟨lifecycle, _, rfl⟩ := Option.map_eq_some_iff.mp isMoved
    refine .quiet (.refl state) rfl (fun _ => ?_) ?_ ?_
    · split <;> simp [phase, TurnPhase.record]
    · split <;> simp
    · split <;> simp [TurnPhase.isExecuting]
  next phase =>
    cases isMoved
    exact .quiet (.refl state) rfl (by simp [phase, TurnPhase.record])
      (by simp) (by simp [TurnPhase.isExecuting])
  next phase =>
    cases isMoved
    exact .quiet (.refl state) rfl (by simp [phase, TurnPhase.record])
      (by simp) (by simp [phase, TurnPhase.isExecuting])
  next phase =>
    split at isMoved
    · cases isMoved
    · cases isMoved
      exact .quiet ⟨rfl, rfl, rfl, rfl⟩ rfl
        (by simp [phase, TurnPhase.record]) (by simp)
        (by simp [phase, TurnPhase.isExecuting])
  next phase =>
    cases isMoved
    exact .unbind ⟨rfl, rfl, rfl, rfl⟩ (by simp [phase, TurnPhase.record]) rfl
      (by decide) rfl
  next phase =>
    cases isMoved
    exact .unbind ⟨rfl, rfl, rfl, rfl⟩ (by simp [phase, TurnPhase.record]) rfl
      (by decide) rfl
  next phase =>
    cases isMoved
    exact .abortStart (by simp [phase, TurnPhase.record])
  next phase =>
    split at isMoved
    · cases isMoved
      exact .quiet (.refl state) rfl (by simp [phase, TurnPhase.record])
        (by decide) (by simp [TurnPhase.isExecuting])
    next isRequest =>
      cases isMoved
      exact .leave (by simp [phase, TurnPhase.record]) (by simpa using isRequest)
  next phase => exact .next (by simp [phase, TurnPhase.record]) isMoved
  next phase =>
    cases isMoved
    exact .finish phase
  · cases isMoved

def LiveThread.steer (thread : LiveThread) (active : ActiveThreadTurn)
    (message : String) (nowMs : UInt64) : LiveThread :=
  { thread.touch nowMs with
    currentTurn := some
      { active with pendingMessages := active.pendingMessages ++ [message] } }

def LiveThread.startTurn (thread : LiveThread) (turnId controllerId : String)
    (nowMs : UInt64) : LiveThread :=
  { thread.touch nowMs with currentTurn := some ⟨turnId, controllerId, []⟩ }

/-- What `send_thread` can do. -/
inductive SendStep (workspaceId threadId : String) (state : RuntimeState)
    (controllerId message newTurnId : String) (nowMs : UInt64) :
    ThreadSendAdmission → RuntimeState → Prop where
  | refused {admission : ThreadSendAdmission}
      (unstarted : ∀ receipt turn, admission ≠ .started receipt turn)
      (unsteered : ∀ receipt, admission ≠ .steered receipt) :
      SendStep workspaceId threadId state controllerId message newTurnId nowMs
        admission state
  | steered (ref : ThreadRef) (active : ActiveThreadTurn)
      (live : state.liveThread workspaceId threadId = some ref)
      (running : (state.threads ref).lifecycle = .running)
      (current : (state.threads ref).currentTurn = some active) :
      SendStep workspaceId threadId state controllerId message newTurnId nowMs
        (.steered (.steered threadId active.turnId))
        (state.setThread ref ((state.threads ref).steer active message nowMs))
  | started (ref : ThreadRef) (base : RuntimeState)
      (isBase : base = state ∧
          state.liveThread workspaceId threadId = some ref ∨
        base = state.installThread threadId (.new workspaceId nowMs) ∧
          state.liveThread workspaceId threadId = none ∧
          ref = state.nextThread)
      (unstopped : threadId ∉ state.stoppingThreads ∧
        threadId ∉ state.stoppedThreads)
      (running : (base.threads ref).lifecycle = .running)
      (idle : (base.threads ref).currentTurn = none) :
      SendStep workspaceId threadId state controllerId message newTurnId nowMs
        (.started (.started threadId newTurnId) ⟨threadId, newTurnId, ref⟩)
        (base.setThread ref
          ((base.threads ref).startTurn newTurnId controllerId nowMs))

theorem RuntimeState.setThread_self (state : RuntimeState) (ref : ThreadRef) :
    state.setThread ref (state.threads ref) = state := by
  simp [RuntimeState.setThread]

theorem sendLive_sendStep {workspaceId threadId : String}
    {state : RuntimeState} {ref : ThreadRef}
    (live : state.liveThread workspaceId threadId = some ref)
    (unstopped : threadId ∉ state.stoppingThreads ∧
      threadId ∉ state.stoppedThreads)
    (controllerId : String) (expectedTurnId : Option String)
    (message newTurnId : String) (nowMs : UInt64) :
    SendStep workspaceId threadId state controllerId message newTurnId nowMs
      (state.sendLive ref threadId controllerId expectedTurnId message
        newTurnId nowMs).1
      (state.sendLive ref threadId controllerId expectedTurnId message
        newTurnId nowMs).2 := by
  unfold RuntimeState.sendLive LiveThread.send
  dsimp only
  split
  · rw [RuntimeState.setThread_self]
    exact .refused (by simp) (by simp)
  next running =>
  simp only [ne_eq, Decidable.not_not] at running
  split
  next active current =>
    split
    · rw [RuntimeState.setThread_self]
      exact .refused (by simp) (by simp)
    split
    · rw [RuntimeState.setThread_self]
      exact .refused (by simp) (by simp)
    split
    · rw [RuntimeState.setThread_self]
      exact .refused (by simp) (by simp)
    · exact .steered ref active live running current
  next idle =>
    split
    · rw [RuntimeState.setThread_self]
      exact .refused (by simp) (by simp)
    · exact .started ref state (.inl ⟨rfl, live⟩) unstopped running idle

theorem sendLive_idle (state : RuntimeState) (ref : ThreadRef)
    (running : (state.threads ref).lifecycle = .running)
    (idle : (state.threads ref).currentTurn = none)
    (threadId controllerId message newTurnId : String) (nowMs : UInt64) :
    state.sendLive ref threadId controllerId none message newTurnId nowMs =
      (.started (.started threadId newTurnId) ⟨threadId, newTurnId, ref⟩,
        state.setThread ref
          ((state.threads ref).startTurn newTurnId controllerId nowMs)) := by
  simp [RuntimeState.sendLive, LiveThread.send, running, idle,
    LiveThread.startTurn]

theorem sendThread_sendStep (workspaceId threadId : String)
    (state : RuntimeState) (controllerId : String)
    (expectedTurnId : Option String) (message newTurnId : String)
    (nowMs : UInt64) :
    SendStep workspaceId threadId state controllerId message newTurnId nowMs
      (state.sendThread workspaceId threadId controllerId expectedTurnId
        message newTurnId nowMs).1
      (state.sendThread workspaceId threadId controllerId expectedTurnId
        message newTurnId nowMs).2 := by
  unfold RuntimeState.sendThread
  split
  · exact .refused (by simp) (by simp)
  split
  · exact .refused (by simp) (by simp)
  next unstopped =>
  rw [not_or] at unstopped
  split
  next ref live =>
    exact sendLive_sendStep live unstopped controllerId expectedTurnId message
      newTurnId nowMs
  next absent =>
    split
    · exact .refused (by simp) (by simp)
    next unexpected =>
      have isNone : expectedTurnId = none := by simpa using unexpected
      subst isNone
      have sent := sendLive_idle
        (state.installThread threadId (.new workspaceId nowMs))
        state.nextThread (by simp [LiveThread.new]) (by simp [LiveThread.new])
        threadId controllerId message newTurnId nowMs
      rw [sent]
      exact .started state.nextThread _ (.inr ⟨rfl, absent, rfl⟩) unstopped
        (by simp [LiveThread.new]) (by simp [LiveThread.new])

end PlatoAgent
