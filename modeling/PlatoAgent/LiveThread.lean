import PlatoAgent.CoreEvents
import PlatoAgent.OffsetBuffer

/-!
# Live threads

The in-memory object of one loaded thread: its lifecycle, the active turn with
the steered messages that wait for it, and the buffer of published events.  The
functions below run under the lock of the object.  One that waits for the
condition variable is cut there, into the parts before and after the wait.
-/

namespace PlatoAgent

/-- The stream events that the server pushes. -/
inductive StreamEvent where
  | ledger (record : RecordedEvent)
  | assistantDelta (runId turnId : String) (step : UInt32) (deltaIndex : UInt64)
      (text : String)
  | approvalRequested (runId toolCallId toolName : String)
      (effect : EffectClass) (reason : String)
      (diffPreview approvalPreview : Option String) (yoloEligible : Bool)
  | canceled (runId : String)
  deriving Repr

/-- An event with the turn that owns it. -/
structure ThreadEvent where
  turnId : String
  event : StreamEvent
  deriving Repr

def maxThreadEventBuffer : Nat :=
  256

def maxPendingThreadSteers : Nat :=
  32

/-- The address of a shared `LiveThread`. -/
abbrev ThreadRef : Type :=
  Nat

structure ThreadTurnBinding where
  threadId : String
  turnId : String
  thread : ThreadRef
  deriving DecidableEq, Repr

inductive ThreadSendRejectedReason where
  | controllerOwned | turnMismatch | queueFull
  deriving DecidableEq, Repr

inductive ThreadSendResult where
  | started (threadId turnId : String)
  | steered (threadId turnId : String)
  | rejected (threadId : String) (turnId : Option String)
      (reason : ThreadSendRejectedReason)
  deriving DecidableEq, Repr

inductive ThreadSendAdmission where
  | shuttingDown
  | stopped
  | started (receipt : ThreadSendResult) (turn : ThreadTurnBinding)
  | steered (receipt : ThreadSendResult)
  | rejected (receipt : ThreadSendResult)
  deriving DecidableEq, Repr

inductive ThreadRunBindError where
  | notLoaded | stopping | runActive
  deriving DecidableEq, Repr

inductive ThreadEventsResetReason where
  | epochChanged | lagged
  deriving DecidableEq, Repr

structure ThreadEventsResult where
  threadId : String
  liveEpochId : String
  reset : Option ThreadEventsResetReason
  fromOffset : Nat
  nextOffset : Nat
  currentTurnId : Option String
  events : List (Buffered ThreadEvent)
  deriving Repr

inductive LiveThreadLifecycle where
  | running | stopping | stopped
  deriving DecidableEq, Repr

structure ActiveThreadTurn where
  turnId : String
  controllerId : String
  pendingMessages : List String
  deriving DecidableEq, Repr

structure LiveThread where
  workspaceId : String
  lifecycle : LiveThreadLifecycle
  currentTurn : Option ActiveThreadTurn
  lastActivityAtMs : UInt64
  buffer : OffsetBuffer ThreadEvent
  deriving Repr

namespace LiveThread

def new (workspaceId : String) (lastActivityAtMs : UInt64) : LiveThread where
  workspaceId := workspaceId
  lifecycle := .running
  currentTurn := none
  lastActivityAtMs := lastActivityAtMs
  buffer := .empty

def currentTurnId (thread : LiveThread) : Option String :=
  thread.currentTurn.map (·.turnId)

/-- The turn is the current one. -/
def ownsTurn (thread : LiveThread) (turnId : String) : Bool :=
  thread.currentTurnId == some turnId

def touch (thread : LiveThread) (nowMs : UInt64) : LiveThread :=
  { thread with lastActivityAtMs := max thread.lastActivityAtMs nowMs }

def bindRun (thread : LiveThread) (turnId : String) (nowMs : UInt64) :
    Except ThreadRunBindError LiveThread :=
  if thread.lifecycle ≠ .running then
    .error .stopping
  else if !thread.ownsTurn turnId then
    .error .notLoaded
  else
    .ok (thread.touch nowMs)

/-- `send` on the thread at the address `self`. -/
def send (self : ThreadRef) (thread : LiveThread)
    (threadId controllerId : String) (expectedTurnId : Option String)
    (message newTurnId : String) (nowMs : UInt64) :
    ThreadSendAdmission × LiveThread :=
  if thread.lifecycle ≠ .running then
    (.stopped, thread)
  else match thread.currentTurn with
  | some active =>
      if active.controllerId ≠ controllerId then
        (.rejected (.rejected threadId (some active.turnId) .controllerOwned),
          thread)
      else if expectedTurnId ≠ some active.turnId then
        (.rejected (.rejected threadId (some active.turnId) .turnMismatch),
          thread)
      else if active.pendingMessages.length ≥ maxPendingThreadSteers then
        (.rejected (.rejected threadId (some active.turnId) .queueFull),
          thread)
      else
        (.steered (.steered threadId active.turnId),
          { thread.touch nowMs with
            currentTurn := some
              { active with
                pendingMessages := active.pendingMessages ++ [message] } })
  | none =>
      if expectedTurnId.isSome then
        (.rejected (.rejected threadId none .turnMismatch), thread)
      else
        (.started (.started threadId newTurnId) ⟨threadId, newTurnId, self⟩,
          { thread.touch nowMs with
            currentTurn := some ⟨newTurnId, controllerId, []⟩ })

def publish (thread : LiveThread) (turnId : String) (event : StreamEvent)
    (nowMs : UInt64) : LiveThread :=
  if thread.lifecycle = .stopped then
    thread
  else
    { thread.touch nowMs with
      buffer := thread.buffer.push maxThreadEventBuffer ⟨turnId, event⟩ }

/-- A result without events, that makes the reader start again. -/
def resetResult (thread : LiveThread) (threadId liveEpochId : String)
    (reason : ThreadEventsResetReason) (offset : Nat) : ThreadEventsResult where
  threadId := threadId
  liveEpochId := liveEpochId
  reset := some reason
  fromOffset := offset
  nextOffset := offset
  currentTurnId := thread.currentTurnId
  events := []

/-- The part of `events` after the wait. -/
def eventsFrom (thread : LiveThread) (threadId liveEpochId : String)
    (fromOffset limit : Nat) : ThreadEventsResult :=
  if fromOffset < thread.buffer.firstOffset then
    thread.resetResult threadId liveEpochId .lagged thread.buffer.firstOffset
  else
    let events := thread.buffer.page fromOffset limit
    { threadId := threadId
      liveEpochId := liveEpochId
      reset := none
      fromOffset := fromOffset
      nextOffset := fromOffset + events.length
      currentTurnId := thread.currentTurnId
      events := events }

/-- What `events` does before it returns or waits. -/
inductive EventsStart where
  | done (result : ThreadEventsResult)
  | waiting (fromOffset : Nat)
  deriving Repr

/-- `events` up to the wait; it waits when there is nothing to return and the
caller may wait. -/
def events (thread : LiveThread) (threadId liveEpochId : String)
    (expectedLiveEpochId : Option String) (fromOffset : Option Nat)
    (limit : Nat) (waits : Bool) : EventsStart :=
  if expectedLiveEpochId.any (· != liveEpochId) then
    .done (thread.resetResult threadId liveEpochId .epochChanged
      thread.buffer.nextOffset)
  else
    let fromOffset := fromOffset.getD thread.buffer.nextOffset
    if fromOffset < thread.buffer.firstOffset then
      .done (thread.resetResult threadId liveEpochId .lagged
        thread.buffer.firstOffset)
    else if fromOffset ≥ thread.buffer.nextOffset ∧ waits then
      .waiting fromOffset
    else
      .done (thread.eventsFrom threadId liveEpochId fromOffset limit)

/-- `next_message_or_finish`, or nothing while a stop is being decided. -/
def nextMessageOrFinish (thread : LiveThread) (turnId : String) :
    Option (Option String × LiveThread) :=
  match thread.lifecycle with
  | .stopping => none
  | .stopped => some (none, thread)
  | .running =>
      match thread.currentTurn.filter (·.turnId == turnId) with
      | none => some (none, thread)
      | some active =>
          match active.pendingMessages with
          | message :: rest =>
              some (some message,
                { thread with
                  currentTurn := some { active with pendingMessages := rest } })
          | [] => some (none, { thread with currentTurn := none })

def beginStop (thread : LiveThread) : Option String × LiveThread :=
  (thread.currentTurnId, { thread with lifecycle := .stopping })

def completeStop (thread : LiveThread) : LiveThread :=
  { thread with lifecycle := .stopped, currentTurn := none }

def abortStop (thread : LiveThread) : LiveThread :=
  if thread.lifecycle = .stopping then
    { thread with lifecycle := .running }
  else thread

/-- An abort does nothing while a stop is being decided. -/
def abort (thread : LiveThread) (turnId : String) : LiveThread :=
  if thread.lifecycle = .running ∧ thread.ownsTurn turnId then
    { thread with currentTurn := none }
  else thread

/-- The parts of a live thread that turns do not touch. -/
structure SameBuffer (before after : LiveThread) : Prop where
  workspaceId : after.workspaceId = before.workspaceId
  lifecycle : after.lifecycle = before.lifecycle
  buffer : after.buffer = before.buffer

theorem SameBuffer.refl (thread : LiveThread) : thread.SameBuffer thread :=
  ⟨rfl, rfl, rfl⟩

theorem send_sameBuffer (self : ThreadRef) (thread : LiveThread)
    (threadId controllerId : String) (expectedTurnId : Option String)
    (message newTurnId : String) (nowMs : UInt64) :
    thread.SameBuffer (thread.send self threadId controllerId expectedTurnId
      message newTurnId nowMs).2 := by
  unfold send
  split
  · exact .refl thread
  split
  · split
    · exact .refl thread
    split
    · exact .refl thread
    split
    · exact .refl thread
    · exact ⟨rfl, rfl, rfl⟩
  · split
    · exact .refl thread
    · exact ⟨rfl, rfl, rfl⟩

theorem send_started_thread {self : ThreadRef} {thread : LiveThread}
    {threadId controllerId : String} {expectedTurnId : Option String}
    {message newTurnId : String} {nowMs : UInt64} {receipt : ThreadSendResult}
    {turn : ThreadTurnBinding}
    (started : (thread.send self threadId controllerId expectedTurnId message
      newTurnId nowMs).1 = .started receipt turn) :
    turn = ⟨threadId, newTurnId, self⟩ := by
  unfold send at started
  split at started
  · cases started
  split at started
  · split at started
    · cases started
    split at started
    · cases started
    split at started <;> cases started
  · split at started
    · cases started
    · cases started
      rfl

theorem nextMessageOrFinish_sameBuffer {thread after : LiveThread}
    {turnId : String} {message : Option String}
    (next : thread.nextMessageOrFinish turnId = some (message, after)) :
    thread.SameBuffer after := by
  unfold nextMessageOrFinish at next
  split at next
  · cases next
  · cases next
    exact .refl thread
  split at next
  · cases next
    exact .refl thread
  split at next
  · cases next
    exact ⟨rfl, rfl, rfl⟩
  · cases next
    exact ⟨rfl, rfl, rfl⟩

theorem abort_sameBuffer (thread : LiveThread) (turnId : String) :
    thread.SameBuffer (thread.abort turnId) := by
  unfold abort
  split
  · exact ⟨rfl, rfl, rfl⟩
  · exact .refl thread

/-- A running thread publishes into its buffer. -/
theorem publish_of_not_stopped {thread : LiveThread}
    (alive : thread.lifecycle ≠ .stopped) (turnId : String)
    (event : StreamEvent) (nowMs : UInt64) :
    (thread.publish turnId event nowMs).workspaceId = thread.workspaceId ∧
      (thread.publish turnId event nowMs).lifecycle = thread.lifecycle ∧
      (thread.publish turnId event nowMs).buffer =
        thread.buffer.push maxThreadEventBuffer ⟨turnId, event⟩ := by
  simp [publish, alive, touch]

end LiveThread

end PlatoAgent
