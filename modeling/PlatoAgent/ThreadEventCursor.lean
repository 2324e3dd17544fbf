import PlatoAgent.ActionRuns
import PlatoAgent.DaemonRuntime
import PlatoAgent.StoreRuns

/-!
# Cursors on the events of a thread

One observer polls `thread_events` and passes back the cursor it was given,
while the thread is spawned, loaded, sent messages and published to.  The
observer misses nothing as long as the live object of the thread is never
replaced; completing a spawn replaces it.
-/

namespace PlatoAgent

/-- Where the observer is in its call of `thread_events`. -/
inductive ObserverPhase where
  | idle
  | loaded (ref : ThreadRef) (limit : Nat) (waits : Bool)
  | waiting (ref : ThreadRef) (fromOffset limit : Nat)
  deriving DecidableEq, Repr

/-- A client with the cursor of its last result.  `origin` counts the events
published before its first call read the buffer, and `caughtUp` says that the
last page was not full and that nothing was published since. -/
structure ThreadObserver where
  phase : ObserverPhase
  cursor : Option (String × Nat)
  observations : List (Observation ThreadEvent)
  origin : Option Nat
  caughtUp : Bool
  deriving Repr

namespace ThreadObserver

def new : ThreadObserver :=
  ⟨.idle, none, [], none, false⟩

/-- What a result says about the events from the requested offset on. -/
def observed (requested : Nat) (result : ThreadEventsResult) :
    List (Observation ThreadEvent) :=
  match result.reset with
  | none => result.events.map fun buffered => .received buffered.event
  | some .lagged => [.lagged (result.fromOffset - requested)]
  | some .epochChanged => [.restarted]

def receive (observer : ThreadObserver) (requested limit : Nat)
    (result : ThreadEventsResult) : ThreadObserver :=
  { observer with
    phase := .idle
    cursor := some (result.liveEpochId, result.nextOffset)
    observations := observer.observations ++ observed requested result
    caughtUp := result.reset.isNone && decide (result.events.length < limit) }

/-- The observer has its result, or waits for the object it has loaded. -/
def proceed (observer : ThreadObserver) (ref : ThreadRef)
    (requested limit : Nat) : LiveThread.EventsStart → ThreadObserver
  | .done result => observer.receive requested limit result
  | .waiting fromOffset =>
      { observer with phase := .waiting ref fromOffset limit }

/-- The offset that the next call asks for, or where it starts. -/
def position (observer : ThreadObserver) : Option Nat :=
  (observer.cursor.map (·.2)).or observer.origin

end ThreadObserver

/-- The runtime with one observer of a thread, every event that was published
for the thread, and the turns that may publish. -/
structure ThreadEventSystem where
  state : RuntimeState
  published : List ThreadEvent
  turns : List ThreadTurnBinding
  observer : ThreadObserver

inductive ThreadEventAction where
  | completeSpawn (spawnId : String) (createdAtMs : UInt64)
  | load (nowMs : UInt64)
  | send (controllerId : String) (expectedTurnId : Option String)
      (message newTurnId : String) (nowMs : UInt64)
  | publish (turn : ThreadTurnBinding) (event : StreamEvent) (nowMs : UInt64)
  | nextMessage (turn : ThreadTurnBinding)
  | abortTurn (turn : ThreadTurnBinding)
  | call (limit : Nat) (waits : Bool) (nowMs : UInt64)
  | read
  | wake

namespace ThreadEventSystem

/-- The critical section of the observer that reads the thread. -/
def read (system : ThreadEventSystem) (threadId : String) (ref : ThreadRef)
    (limit : Nat) (waits : Bool) : ThreadObserver :=
  let thread := system.state.threads ref
  let observer :=
    { system.observer with
      origin := some (system.observer.origin.getD system.published.length) }
  observer.proceed ref
    ((observer.cursor.map (·.2)).getD thread.buffer.nextOffset) limit
    (thread.events threadId system.state.liveEpochId
      (observer.cursor.map (·.1)) (observer.cursor.map (·.2)) limit waits)

def step (workspaceId threadId : String) (system : ThreadEventSystem) :
    ThreadEventAction → Option ThreadEventSystem
  | .completeSpawn spawnId createdAtMs =>
      (system.state.completeThreadSpawn workspaceId spawnId threadId
        createdAtMs).map fun state => { system with state := state }
  | .load nowMs =>
      some { system with
        state := (system.state.loadThread workspaceId threadId nowMs).2 }
  | .send controllerId expectedTurnId message newTurnId nowMs =>
      let sent := system.state.sendThread workspaceId threadId controllerId
        expectedTurnId message newTurnId nowMs
      some { system with
        state := sent.2
        turns := match sent.1 with
          | .started _ turn => turn :: system.turns
          | _ => system.turns }
  | .publish turn event nowMs =>
      if turn ∈ system.turns then
        some { system with
          state := system.state.setThread turn.thread
            ((system.state.threads turn.thread).publish turn.turnId event nowMs)
          published := system.published ++ [⟨turn.turnId, event⟩]
          observer := { system.observer with caughtUp := false } }
      else none
  | .nextMessage turn =>
      if turn ∈ system.turns then
        (system.state.nextThreadMessage turn).map fun next =>
          { system with state := next.2 }
      else none
  | .abortTurn turn =>
      if turn ∈ system.turns then
        some { system with state := system.state.abortThreadTurn turn }
      else none
  | .call limit waits nowMs =>
      if system.observer.phase = .idle then
        match system.state.loadThread workspaceId threadId nowMs with
        | (.ok ref, state) =>
            some { system with
              state := state
              observer :=
                { system.observer with phase := .loaded ref limit waits } }
        | (.error _, _) => none
      else none
  | .read =>
      match system.observer.phase with
      | .loaded ref limit waits =>
          some { system with
            observer := system.read threadId ref limit waits }
      | _ => none
  | .wake =>
      match system.observer.phase with
      | .waiting ref fromOffset limit =>
          some { system with
            observer := system.observer.receive fromOffset limit
              ((system.state.threads ref).eventsFrom threadId
                system.state.liveEpochId fromOffset limit) }
      | _ => none

/-- The thread is not loaded yet and nobody observes it. -/
structure Initial (threadId : String) (system : ThreadEventSystem) : Prop where
  unloaded : system.state.liveThreads.lookup threadId = none
  published : system.published = []
  turns : system.turns = []
  observer : system.observer = .new

/-- The observations account for the events published since the first call, up
to some point, and for all of them when the observer caught up. -/
def Follows (system : ThreadEventSystem) : Prop :=
  ∀ origin, system.observer.origin = some origin →
    ∃ seen, Accounts system.observer.observations seen ∧
      seen <+: system.published.drop origin ∧
      (system.observer.caughtUp = true → seen = system.published.drop origin)

/-- The events in a buffer are numbered without gaps. -/
def Numbered (buffer : OffsetBuffer ThreadEvent) : Prop :=
  buffer.nextOffset = buffer.firstOffset + buffer.events.length ∧
    ∀ (index : Nat) (buffered : Buffered ThreadEvent),
      buffer.events[index]? = some buffered →
        buffered.offset = buffer.firstOffset + index

/-- A spawn is completed only while the thread has no live object. -/
def KeepsObject (threadId : String) (system : ThreadEventSystem)
    (action : ThreadEventAction) : Prop :=
  ∀ spawnId createdAtMs, action = .completeSpawn spawnId createdAtMs →
    system.state.liveThreads.lookup threadId = none

/-- The objects of the runtime stay, up to their turns, or a fresh one is
installed for the thread. -/
inductive LiveStep (workspaceId threadId : String)
    (before after : RuntimeState) : Prop where
  | kept (epoch : after.liveEpochId = before.liveEpochId)
      (next : after.nextThread = before.nextThread)
      (lookup : after.liveThreads.lookup threadId =
        before.liveThreads.lookup threadId)
      (same : ∀ ref, (before.threads ref).SameBuffer (after.threads ref))
  | installed (epoch : after.liveEpochId = before.liveEpochId)
      (next : after.nextThread = before.nextThread + 1)
      (lookup : after.liveThreads.lookup threadId = some before.nextThread)
      (nowMs : UInt64)
      (new : (LiveThread.new workspaceId nowMs).SameBuffer
        (after.threads before.nextThread))
      (others : ∀ ref, ref ≠ before.nextThread →
        after.threads ref = before.threads ref)

theorem LiveStep.refl (workspaceId threadId : String) (state : RuntimeState) :
    LiveStep workspaceId threadId state state :=
  .kept rfl rfl rfl fun ref => .refl (state.threads ref)

theorem liveStep_setThread {workspaceId threadId : String}
    {state : RuntimeState} {ref : ThreadRef} {thread : LiveThread}
    (same : (state.threads ref).SameBuffer thread) :
    LiveStep workspaceId threadId state (state.setThread ref thread) := by
  refine .kept rfl rfl rfl fun other => ?_
  by_cases isRef : other = ref
  · subst isRef
    simpa using same
  · simpa [Function.update_of_ne isRef] using
      LiveThread.SameBuffer.refl (state.threads other)

theorem liveStep_install (workspaceId threadId : String)
    (state : RuntimeState) (nowMs : UInt64) :
    LiveStep workspaceId threadId state
      (state.installThread threadId (.new workspaceId nowMs)) := by
  refine .installed rfl rfl (by simp) nowMs ?_ ?_
  · simpa using LiveThread.SameBuffer.refl _
  · intro ref different
    simp [Function.update_of_ne different]

theorem completeThreadSpawn_liveStep {workspaceId threadId : String}
    {state after : RuntimeState} {spawnId : String} {createdAtMs : UInt64}
    (completed : state.completeThreadSpawn workspaceId spawnId threadId
      createdAtMs = some after) :
    LiveStep workspaceId threadId state after := by
  obtain ⟨_, _, rfl⟩ := Option.map_eq_some_iff.mp completed
  obtain ⟨epoch, next, lookup, same⟩ | ⟨epoch, next, lookup, nowMs, new,
    others⟩ := liveStep_install workspaceId threadId state createdAtMs
  · exact .kept epoch next lookup same
  · exact .installed epoch next lookup nowMs new others

/-- Every live object of the thread belongs to the workspace. -/
def OwnedBy (workspaceId threadId : String) (state : RuntimeState) : Prop :=
  ∀ ref, state.liveThreads.lookup threadId = some ref →
    (state.threads ref).workspaceId = workspaceId

theorem OwnedBy.liveThread_eq {workspaceId threadId : String}
    {state : RuntimeState} (owned : OwnedBy workspaceId threadId state) :
    state.liveThread workspaceId threadId =
      state.liveThreads.lookup threadId := by
  cases lookup : state.liveThreads.lookup threadId with
  | none => exact RuntimeState.liveThread_eq_none_of_unloaded lookup _
  | some ref =>
      exact RuntimeState.liveThread_eq_some_iff.mpr ⟨lookup, owned ref lookup⟩

theorem loadThread_liveStep (workspaceId threadId : String)
    (state : RuntimeState) (nowMs : UInt64) :
    LiveStep workspaceId threadId state
      (state.loadThread workspaceId threadId nowMs).2 := by
  unfold RuntimeState.loadThread
  split
  · exact .refl _ _ _
  split
  · exact .refl _ _ _
  split
  · exact .refl _ _ _
  · exact liveStep_install _ _ _ nowMs

/-- The thread is not given a fresh object while it has one. -/
def KeepsLoaded (threadId : String) (before after : RuntimeState) : Prop :=
  after.nextThread = before.nextThread ∨
    before.liveThreads.lookup threadId = none

theorem loadThread_keepsLoaded {workspaceId threadId : String}
    {state : RuntimeState} (owned : OwnedBy workspaceId threadId state)
    (nowMs : UInt64) :
    KeepsLoaded threadId state
      (state.loadThread workspaceId threadId nowMs).2 := by
  unfold RuntimeState.loadThread
  rw [owned.liveThread_eq]
  split
  · exact .inl rfl
  split
  · exact .inl rfl
  next unloaded => exact .inr unloaded

theorem loadThread_ok {workspaceId threadId : String}
    {state after : RuntimeState} (owned : OwnedBy workspaceId threadId state)
    {nowMs : UInt64} {ref : ThreadRef}
    (loaded : state.loadThread workspaceId threadId nowMs = (.ok ref, after)) :
    after.liveThreads.lookup threadId = some ref := by
  unfold RuntimeState.loadThread at loaded
  rw [owned.liveThread_eq] at loaded
  split at loaded
  · cases loaded
  split at loaded
  next found =>
    cases loaded
    exact found
  split at loaded
  · cases loaded
  · cases loaded
    simp

theorem sendLive_started {state : RuntimeState} {ref : ThreadRef}
    {threadId controllerId : String} {expectedTurnId : Option String}
    {message newTurnId : String} {nowMs : UInt64} {receipt : ThreadSendResult}
    {turn : ThreadTurnBinding}
    (started : (state.sendLive ref threadId controllerId expectedTurnId message
      newTurnId nowMs).1 = .started receipt turn) : turn.thread = ref := by
  rw [LiveThread.send_started_thread started]

theorem sendThread_liveStep (workspaceId threadId : String)
    (state : RuntimeState) (controllerId : String)
    (expectedTurnId : Option String) (message newTurnId : String)
    (nowMs : UInt64) :
    LiveStep workspaceId threadId state
      (state.sendThread workspaceId threadId controllerId expectedTurnId
        message newTurnId nowMs).2 := by
  unfold RuntimeState.sendThread
  split
  · exact .refl _ _ _
  split
  · exact .refl _ _ _
  split
  · exact liveStep_setThread (LiveThread.send_sameBuffer ..)
  split
  · exact .refl _ _ _
  · refine .installed rfl rfl (by simp [RuntimeState.sendLive]) nowMs ?_ ?_
    · have same := LiveThread.send_sameBuffer state.nextThread
        (LiveThread.new workspaceId nowMs) threadId controllerId
        expectedTurnId message newTurnId nowMs
      simpa [RuntimeState.sendLive] using same
    · intro ref different
      simp [RuntimeState.sendLive, Function.update_of_ne different]

theorem sendThread_keepsLoaded {workspaceId threadId : String}
    {state : RuntimeState} (owned : OwnedBy workspaceId threadId state)
    (controllerId : String) (expectedTurnId : Option String)
    (message newTurnId : String) (nowMs : UInt64) :
    KeepsLoaded threadId state
      (state.sendThread workspaceId threadId controllerId expectedTurnId
        message newTurnId nowMs).2 := by
  unfold RuntimeState.sendThread
  rw [owned.liveThread_eq]
  split
  · exact .inl rfl
  split
  · exact .inl rfl
  split
  · exact .inl rfl
  next unloaded => exact .inr unloaded

/-- A turn is started on the object that is live afterwards. -/
theorem sendThread_isLive {workspaceId threadId : String}
    {state after : RuntimeState} {controllerId : String}
    {expectedTurnId : Option String} {message newTurnId : String}
    {nowMs : UInt64} {receipt : ThreadSendResult} {turn : ThreadTurnBinding}
    (started : state.sendThread workspaceId threadId controllerId
      expectedTurnId message newTurnId nowMs =
        (.started receipt turn, after)) :
    after.liveThreads.lookup threadId = some turn.thread := by
  unfold RuntimeState.sendThread at started
  split at started
  · cases started
  split at started
  · cases started
  split at started
  next ref found =>
    obtain rfl : _ = after := congrArg Prod.snd started
    rw [sendLive_started (congrArg Prod.fst started)]
    exact (RuntimeState.liveThread_eq_some_iff.mp found).1
  next unloaded =>
  split at started
  · cases started
  · obtain rfl : _ = after := congrArg Prod.snd started
    rw [sendLive_started (congrArg Prod.fst started)]
    simp [RuntimeState.sendLive]

/-- The observer has read the events from `origin` up to `offset`. -/
structure ReadUpTo (system : ThreadEventSystem) (origin offset : Nat) :
    Prop where
  isOrigin : system.observer.origin = some origin
  started : origin ≤ offset
  published : offset ≤ system.published.length
  accounts : Accounts system.observer.observations
    ((system.published.drop origin).take (offset - origin))
  caughtUp : system.observer.caughtUp = true →
    offset = system.published.length

/-- While one object serves the thread, its buffer holds what was published,
and the cursor of the observer counts what it has read. -/
structure Sound (workspaceId threadId : String) (system : ThreadEventSystem) :
    Prop where
  live : ∀ ref, system.state.liveThreads.lookup threadId = some ref →
    (system.state.threads ref).workspaceId = workspaceId ∧
      (system.state.threads ref).lifecycle = .running ∧
      (system.state.threads ref).buffer.Logs system.published
  unloaded : system.state.liveThreads.lookup threadId = none →
    system.published = []
  turns : ∀ turn ∈ system.turns,
    system.state.liveThreads.lookup threadId = some turn.thread
  unstarted : system.observer.phase = .idle ∨
      (∃ ref limit waits, system.observer.phase = .loaded ref limit waits) →
    system.observer.cursor = none → system.observer.origin = none
  loaded : ∀ ref limit waits,
    system.observer.phase = .loaded ref limit waits →
      system.state.liveThreads.lookup threadId = some ref
  waiting : ∀ ref fromOffset limit,
    system.observer.phase = .waiting ref fromOffset limit →
      system.state.liveThreads.lookup threadId = some ref ∧
        system.observer.position = some fromOffset
  epoch : ∀ cursor, system.observer.cursor = some cursor →
    cursor.1 = system.state.liveEpochId
  position : ∀ offset, system.observer.position = some offset →
    ∃ origin, system.ReadUpTo origin offset
  nothing : system.observer.position = none →
    system.observer.observations = []

theorem Initial.sound {workspaceId threadId : String}
    {system : ThreadEventSystem} (initial : system.Initial threadId) :
    system.Sound workspaceId threadId := by
  have unloaded := initial.unloaded
  refine ⟨?_, fun _ => initial.published, ?_, ?_, ?_, ?_, ?_, ?_, ?_⟩
  · simp [unloaded]
  · simp [initial.turns]
  · simp [initial.observer, ThreadObserver.new]
  · simp [initial.observer, ThreadObserver.new]
  · simp [initial.observer, ThreadObserver.new]
  · simp [initial.observer, ThreadObserver.new]
  · simp [initial.observer, ThreadObserver.new, ThreadObserver.position]
  · simp [initial.observer, ThreadObserver.new]

theorem Sound.owned {workspaceId threadId : String}
    {system : ThreadEventSystem} (sound : system.Sound workspaceId threadId) :
    OwnedBy workspaceId threadId system.state :=
  fun ref lookup => (sound.live ref lookup).1

/-- A step of the runtime under an observer that does not move. -/
theorem Sound.liveStep {workspaceId threadId : String}
    {system : ThreadEventSystem} (sound : system.Sound workspaceId threadId)
    {after : RuntimeState}
    (step : LiveStep workspaceId threadId system.state after)
    (keeps : KeepsLoaded threadId system.state after) :
    { system with state := after }.Sound workspaceId threadId := by
  have position : ∀ offset, system.observer.position = some offset →
      ∃ origin, { system with state := after }.ReadUpTo origin offset := by
    intro offset isPosition
    obtain ⟨origin, read⟩ := sound.position offset isPosition
    exact ⟨origin, read.isOrigin, read.started, read.published, read.accounts,
      read.caughtUp⟩
  cases step with
  | kept epoch _ lookup same =>
      refine ⟨?_, ?_, ?_, sound.unstarted, ?_, ?_, ?_, position,
        sound.nothing⟩
      · intro ref found
        rw [lookup] at found
        obtain ⟨owned, running, logs⟩ := sound.live ref found
        have kept := same ref
        exact ⟨kept.workspaceId.trans owned, kept.lifecycle.trans running,
          kept.buffer ▸ logs⟩
      · rw [lookup]
        exact sound.unloaded
      · rw [lookup]
        exact sound.turns
      · rw [lookup]
        exact sound.loaded
      · rw [lookup]
        exact sound.waiting
      · rw [epoch]
        exact sound.epoch
  | installed epoch next lookup nowMs new =>
      obtain same | unloaded := keeps
      · rw [same] at next
        exact absurd next (Nat.ne_of_lt (Nat.lt_succ_self _))
      have published := sound.unloaded unloaded
      refine ⟨?_, fun _ => published, ?_, sound.unstarted, ?_, ?_, ?_,
        position, sound.nothing⟩
      · intro other found
        rw [lookup] at found
        cases found
        refine ⟨new.workspaceId, new.lifecycle, ?_⟩
        rw [new.buffer, published]
        exact OffsetBuffer.logs_empty
      · intro turn member
        rw [sound.turns turn member] at unloaded
        cases unloaded
      · intro other limit waits isLoaded
        rw [sound.loaded other limit waits isLoaded] at unloaded
        cases unloaded
      · intro other fromOffset limit isWaiting
        rw [(sound.waiting other fromOffset limit isWaiting).1] at unloaded
        cases unloaded
      · rw [epoch]
        exact sound.epoch

/-- The events between two offsets of a log are those up to the first one and
the ones between. -/
theorem take_drop_append {Event : Type} {log : List Event}
    {origin offset next : Nat} (started : origin ≤ offset)
    (bound : offset ≤ next) :
    (log.drop origin).take (offset - origin) ++
        (log.drop offset).take (next - offset) =
      (log.drop origin).take (next - origin) := by
  have split : next - origin = (offset - origin) + (next - offset) := by omega
  have later : origin + (offset - origin) = offset := by omega
  rw [split, List.take_add, List.drop_drop, later]

/-- A result of the live object moves the observer on to its next offset. -/
theorem ReadUpTo.receive {system : ThreadEventSystem} {origin offset : Nat}
    (read : system.ReadUpTo origin offset) {thread : LiveThread}
    (logs : thread.buffer.Logs system.published) (threadId : String)
    (limit : Nat) :
    { system with
      observer := system.observer.receive offset limit
        (thread.eventsFrom threadId system.state.liveEpochId offset
          limit) }.ReadUpTo origin
      (thread.eventsFrom threadId system.state.liveEpochId offset
        limit).nextOffset := by
  have started := read.started
  have published := read.published
  have bound := logs.first
  by_cases behind : offset < thread.buffer.firstOffset
  · -- The missed events are those before the oldest one in the buffer.
    have missed : ((system.published.drop offset).take
        (thread.buffer.firstOffset - offset)).length =
        thread.buffer.firstOffset - offset := by
      rw [List.length_take, List.length_drop]
      omega
    simp only [LiveThread.eventsFrom, if_pos behind, LiveThread.resetResult]
    refine ⟨read.isOrigin, by omega, bound, ?_, ?_⟩
    · have accounts := read.accounts.lagged
        ((system.published.drop offset).take
          (thread.buffer.firstOffset - offset))
      rw [take_drop_append started (by omega), missed] at accounts
      simpa [ThreadObserver.receive, ThreadObserver.observed] using accounts
    · simp [ThreadObserver.receive]
  · have page := logs.page (Nat.not_lt.mp behind) limit
    have length : (thread.buffer.page offset limit).length =
        min limit (system.published.length - offset) := by
      rw [page, length_numbered, List.length_take, List.length_drop]
    simp only [LiveThread.eventsFrom, if_neg behind]
    refine ⟨read.isOrigin, by omega, ?_, ?_, ?_⟩
    · change offset + (thread.buffer.page offset limit).length ≤
        system.published.length
      rw [length]
      omega
    · have events : (thread.buffer.page offset limit).map
          (fun buffered => Observation.received buffered.event) =
          ((system.published.drop offset).take limit).map .received := by
        rw [page]
        conv_rhs => rw [← map_event_numbered offset (List.take _ _)]
        rw [List.map_map]
        rfl
      have accounts := read.accounts.page
        ((system.published.drop offset).take limit)
      have taken : (system.published.drop offset).take limit =
          (system.published.drop offset).take
            (offset + (thread.buffer.page offset limit).length - offset) := by
        rw [Nat.add_sub_cancel_left, length, List.take_eq_take_iff,
          List.length_drop]
        omega
      rw [taken, take_drop_append started (by omega), ← taken] at accounts
      simpa [ThreadObserver.receive, ThreadObserver.observed, events] using
        accounts
    · intro caughtUp
      have short : (thread.buffer.page offset limit).length < limit := by
        simpa [ThreadObserver.receive] using caughtUp
      change offset + (thread.buffer.page offset limit).length =
        system.published.length
      rw [length] at short ⊢
      omega

theorem receive_cursor (observer : ThreadObserver) (thread : LiveThread)
    (threadId liveEpochId : String) (requested limit : Nat) :
    (observer.receive requested limit (thread.eventsFrom threadId liveEpochId
      requested limit)).cursor =
      some (liveEpochId, (thread.eventsFrom threadId liveEpochId requested
        limit).nextOffset) := by
  unfold LiveThread.eventsFrom
  split <;> rfl

theorem Sound.received {workspaceId threadId : String}
    {system : ThreadEventSystem} (sound : system.Sound workspaceId threadId)
    {observer : ThreadObserver} {origin next : Nat}
    (isIdle : observer.phase = .idle)
    (cursor : observer.cursor = some (system.state.liveEpochId, next))
    (read : { system with observer := observer }.ReadUpTo origin next) :
    { system with observer := observer }.Sound workspaceId threadId := by
  have position : observer.position = some next := by
    simp [ThreadObserver.position, cursor]
  refine ⟨sound.live, sound.unloaded, sound.turns, ?_, ?_, ?_, ?_, ?_, ?_⟩
  · intro _ none
    rw [cursor] at none
    cases none
  · intro ref limit waits isLoaded
    rw [isIdle] at isLoaded
    cases isLoaded
  · intro ref fromOffset limit isWaiting
    rw [isIdle] at isWaiting
    cases isWaiting
  · intro other isCursor
    rw [cursor] at isCursor
    cases isCursor
    rfl
  · intro offset isPosition
    rw [position] at isPosition
    cases isPosition
    exact ⟨origin, read⟩
  · intro none
    rw [position] at none
    cases none

/-- With the epoch of the runtime, `events` waits or reads from the cursor. -/
theorem events_eq (thread : LiveThread) (threadId liveEpochId : String)
    {expected : Option String}
    (current : ∀ epoch, expected = some epoch → epoch = liveEpochId)
    (fromOffset : Option Nat) (limit : Nat) (waits : Bool) :
    thread.events threadId liveEpochId expected fromOffset limit waits =
        .waiting (fromOffset.getD thread.buffer.nextOffset) ∨
      thread.events threadId liveEpochId expected fromOffset limit waits =
        .done (thread.eventsFrom threadId liveEpochId
          (fromOffset.getD thread.buffer.nextOffset) limit) := by
  have sameEpoch : expected.any (· != liveEpochId) = false := by
    cases expected with
    | none => rfl
    | some epoch => simp [current epoch rfl]
  simp only [LiveThread.events, sameEpoch, Bool.false_eq_true, if_false]
  split
  next behind =>
    right
    rw [LiveThread.eventsFrom, if_pos behind]
  split
  · exact .inl rfl
  · exact .inr rfl

theorem Sound.publish {workspaceId threadId : String}
    {system : ThreadEventSystem} (sound : system.Sound workspaceId threadId)
    {turn : ThreadTurnBinding} (member : turn ∈ system.turns)
    (event : StreamEvent) (nowMs : UInt64) :
    { system with
      state := system.state.setThread turn.thread
        ((system.state.threads turn.thread).publish turn.turnId event nowMs)
      published := system.published ++ [(⟨turn.turnId, event⟩ : ThreadEvent)]
      observer :=
        { system.observer with caughtUp := false } }.Sound workspaceId
      threadId := by
  have lookup := sound.turns turn member
  obtain ⟨owned, running, logs⟩ := sound.live turn.thread lookup
  have alive : (system.state.threads turn.thread).lifecycle ≠ .stopped := by
    rw [running]
    decide
  obtain ⟨sameWorkspace, sameLifecycle, pushed⟩ :=
    LiveThread.publish_of_not_stopped alive turn.turnId event nowMs
  refine ⟨?_, ?_, sound.turns, sound.unstarted, sound.loaded, sound.waiting,
    sound.epoch, ?_, sound.nothing⟩
  · intro ref found
    obtain rfl : turn.thread = ref := Option.some.inj (lookup.symm.trans found)
    simp only [RuntimeState.setThread_threads, Function.update_self]
    refine ⟨sameWorkspace.trans owned, sameLifecycle.trans running, ?_⟩
    rw [pushed]
    have room : 0 < maxThreadEventBuffer := by decide
    exact logs.push room _
  · intro unloaded
    rw [RuntimeState.setThread_liveThreads, lookup] at unloaded
    cases unloaded
  · intro offset isPosition
    obtain ⟨origin, read⟩ := sound.position offset isPosition
    have started := read.started
    have published := read.published
    refine ⟨origin, read.isOrigin, started, ?_, ?_, fun caughtUp => ?_⟩
    · simp only [List.length_append]
      omega
    · rw [List.drop_append_of_le_length (by omega),
        List.take_append_of_le_length (by simp only [List.length_drop]; omega)]
      exact read.accounts
    · cases caughtUp

theorem Sound.read {workspaceId threadId : String}
    {system : ThreadEventSystem} (sound : system.Sound workspaceId threadId)
    {ref : ThreadRef} {limit : Nat} {waits : Bool}
    (isLoaded : system.observer.phase = .loaded ref limit waits) :
    { system with
      observer := system.read threadId ref limit waits }.Sound workspaceId
      threadId := by
  have lookup := sound.loaded ref limit waits isLoaded
  obtain ⟨_, _, logs⟩ := sound.live ref lookup
  have unstarted := sound.unstarted (.inr ⟨ref, limit, waits, isLoaded⟩)
  let observer :=
    { system.observer with
      origin := some (system.observer.origin.getD system.published.length) }
  let offset := (observer.cursor.map (·.2)).getD
    (system.state.threads ref).buffer.nextOffset
  have positioned : observer.position = some offset := by
    cases isCursor : system.observer.cursor with
    | none =>
        simp [observer, offset, ThreadObserver.position, isCursor,
          unstarted isCursor, logs.next]
    | some cursor =>
        simp [observer, offset, ThreadObserver.position, isCursor]
  -- The first call starts at the end of what was published.
  obtain ⟨origin, read⟩ : ∃ origin,
      { system with observer := observer }.ReadUpTo origin offset := by
    cases isCursor : system.observer.cursor with
    | none =>
        have noOrigin := unstarted isCursor
        have nothing := sound.nothing (by
          simp [ThreadObserver.position, isCursor, noOrigin])
        have isEnd : offset = system.published.length := by
          simp [offset, observer, isCursor, logs.next]
        refine ⟨offset, by simp [observer, noOrigin, isEnd], Nat.le_refl _,
          Nat.le_of_eq isEnd, ?_, fun _ => isEnd⟩
        simpa [observer, nothing] using Accounts.nil
    | some cursor =>
        obtain ⟨origin, read⟩ := sound.position cursor.2 (by
          simp [ThreadObserver.position, isCursor])
        have isOffset : offset = cursor.2 := by
          simp [offset, observer, isCursor]
        rw [isOffset]
        exact ⟨origin, by simp [observer, read.isOrigin], read.started,
          read.published, read.accounts, read.caughtUp⟩
  have current : ∀ epoch, observer.cursor.map (·.1) = some epoch →
      epoch = system.state.liveEpochId := by
    intro epoch isEpoch
    obtain ⟨cursor, isCursor, rfl⟩ := Option.map_eq_some_iff.mp isEpoch
    exact sound.epoch cursor isCursor
  have readEq : system.read threadId ref limit waits =
      observer.proceed ref offset limit
        ((system.state.threads ref).events threadId system.state.liveEpochId
          (observer.cursor.map (·.1)) (observer.cursor.map (·.2)) limit
          waits) := rfl
  obtain waiting | done := events_eq (system.state.threads ref) threadId
    system.state.liveEpochId current (observer.cursor.map (·.2)) limit waits
  · rw [readEq, waiting]
    refine ⟨sound.live, sound.unloaded, sound.turns, ?_, ?_, ?_, ?_, ?_, ?_⟩
    · rintro (isIdle | ⟨_, _, _, isLoaded⟩) _
      · cases isIdle
      · cases isLoaded
    · intro other otherLimit otherWaits isLoaded
      cases isLoaded
    · intro other fromOffset otherLimit isWaiting
      cases isWaiting
      exact ⟨lookup, positioned⟩
    · exact sound.epoch
    · intro other isPosition
      have isOffset : offset = other :=
        Option.some.inj (positioned.symm.trans isPosition)
      subst isOffset
      exact ⟨origin, read.isOrigin, read.started, read.published,
        read.accounts, read.caughtUp⟩
    · intro none
      exact absurd (positioned.symm.trans none) (by simp)
  · rw [readEq, done]
    have received := read.receive logs threadId limit
    refine sound.received rfl ?_ received
    exact receive_cursor ..

theorem Sound.wake {workspaceId threadId : String}
    {system : ThreadEventSystem} (sound : system.Sound workspaceId threadId)
    {ref : ThreadRef} {fromOffset limit : Nat}
    (isWaiting : system.observer.phase = .waiting ref fromOffset limit) :
    { system with
      observer := system.observer.receive fromOffset limit
        ((system.state.threads ref).eventsFrom threadId
          system.state.liveEpochId fromOffset limit) }.Sound workspaceId
      threadId := by
  obtain ⟨lookup, position⟩ := sound.waiting ref fromOffset limit isWaiting
  obtain ⟨_, _, logs⟩ := sound.live ref lookup
  obtain ⟨origin, read⟩ := sound.position fromOffset position
  have received := read.receive logs threadId limit
  refine sound.received rfl ?_ received
  exact receive_cursor ..

/-- The turns that may publish after a send. -/
theorem Sound.send {workspaceId threadId : String}
    {system : ThreadEventSystem} (sound : system.Sound workspaceId threadId)
    {turns : List ThreadTurnBinding}
    (started : ∀ turn ∈ turns, turn ∈ system.turns ∨
      system.state.liveThreads.lookup threadId = some turn.thread) :
    { system with turns := turns }.Sound workspaceId threadId := by
  refine ⟨sound.live, sound.unloaded, ?_, sound.unstarted, sound.loaded,
    sound.waiting, sound.epoch, ?_, sound.nothing⟩
  · intro turn member
    obtain known | isLive := started turn member
    · exact sound.turns turn known
    · exact isLive
  · intro offset isPosition
    obtain ⟨origin, read⟩ := sound.position offset isPosition
    exact ⟨origin, read.isOrigin, read.started, read.published, read.accounts,
      read.caughtUp⟩

theorem Sound.call {workspaceId threadId : String}
    {system : ThreadEventSystem} (sound : system.Sound workspaceId threadId)
    (isIdle : system.observer.phase = .idle) {ref : ThreadRef}
    (lookup : system.state.liveThreads.lookup threadId = some ref)
    (limit : Nat) (waits : Bool) :
    { system with
      observer :=
        { system.observer with
          phase := .loaded ref limit waits } }.Sound workspaceId threadId := by
  refine ⟨sound.live, sound.unloaded, sound.turns, ?_, ?_, ?_, sound.epoch,
    ?_, sound.nothing⟩
  · intro _ none
    exact sound.unstarted (.inl isIdle) none
  · intro other otherLimit otherWaits isLoaded
    cases isLoaded
    exact lookup
  · intro other fromOffset otherLimit isWaiting
    cases isWaiting
  · intro offset isPosition
    obtain ⟨origin, read⟩ := sound.position offset isPosition
    exact ⟨origin, read.isOrigin, read.started, read.published, read.accounts,
      read.caughtUp⟩

theorem Sound.step {workspaceId threadId : String}
    {system after : ThreadEventSystem}
    (sound : system.Sound workspaceId threadId) {action : ThreadEventAction}
    (keeps : KeepsObject threadId system action)
    (stepped : system.step workspaceId threadId action = some after) :
    after.Sound workspaceId threadId := by
  cases action with
  | completeSpawn spawnId createdAtMs =>
      obtain ⟨state, completed, rfl⟩ := Option.map_eq_some_iff.mp stepped
      exact sound.liveStep (completeThreadSpawn_liveStep completed)
        (.inr (keeps spawnId createdAtMs rfl))
  | load nowMs =>
      cases stepped
      exact sound.liveStep (loadThread_liveStep ..)
        (loadThread_keepsLoaded sound.owned nowMs)
  | send controllerId expectedTurnId message newTurnId nowMs =>
      have served := sound.liveStep (sendThread_liveStep workspaceId threadId
        system.state controllerId expectedTurnId message newTurnId nowMs)
        (sendThread_keepsLoaded sound.owned ..)
      cases stepped
      refine served.send fun turn member => ?_
      split at member
      next receipt started isStarted =>
        obtain rfl | known := List.mem_cons.mp member
        · exact .inr (sendThread_isLive (Prod.ext isStarted rfl))
        · exact .inl known
      next => exact .inl member
  | publish turn event nowMs =>
      rw [ThreadEventSystem.step] at stepped
      split at stepped
      next member =>
        cases stepped
        exact sound.publish member event nowMs
      next => cases stepped
  | nextMessage turn =>
      rw [ThreadEventSystem.step] at stepped
      split at stepped
      next =>
        obtain ⟨⟨message, state⟩, next, rfl⟩ :=
          Option.map_eq_some_iff.mp stepped
        obtain ⟨⟨_, thread⟩, nextThread, isNext⟩ :=
          Option.map_eq_some_iff.mp next
        cases isNext
        exact sound.liveStep (liveStep_setThread
          (LiveThread.nextMessageOrFinish_sameBuffer nextThread)) (.inl rfl)
      next => cases stepped
  | abortTurn turn =>
      rw [ThreadEventSystem.step] at stepped
      split at stepped
      next =>
        cases stepped
        exact sound.liveStep (liveStep_setThread
          (LiveThread.abort_sameBuffer ..)) (.inl rfl)
      next => cases stepped
  | call limit waits nowMs =>
      rw [ThreadEventSystem.step] at stepped
      split at stepped
      next isIdle =>
        split at stepped
        next ref state loaded =>
          cases stepped
          have served := sound.liveStep (loadThread_liveStep workspaceId
            threadId system.state nowMs)
            (loadThread_keepsLoaded sound.owned nowMs)
          rw [loaded] at served
          exact served.call isIdle (loadThread_ok sound.owned loaded) limit
            waits
        next => cases stepped
      next => cases stepped
  | read =>
      rw [ThreadEventSystem.step] at stepped
      split at stepped
      next ref limit waits isLoaded =>
        cases stepped
        exact sound.read isLoaded
      next => cases stepped
  | wake =>
      rw [ThreadEventSystem.step] at stepped
      split at stepped
      next ref fromOffset limit isWaiting =>
        cases stepped
        exact sound.wake isWaiting
      next => cases stepped

theorem Sound.follows {workspaceId threadId : String}
    {system : ThreadEventSystem} (sound : system.Sound workspaceId threadId) :
    system.Follows := by
  intro origin isOrigin
  have positioned : ∃ offset, system.observer.position = some offset := by
    cases isCursor : system.observer.cursor with
    | none => exact ⟨origin, by simp [ThreadObserver.position, isCursor,
        isOrigin]⟩
    | some cursor => exact ⟨cursor.2, by simp [ThreadObserver.position,
        isCursor]⟩
  obtain ⟨offset, isPosition⟩ := positioned
  obtain ⟨other, read⟩ := sound.position offset isPosition
  obtain rfl : other = origin :=
    Option.some.inj (read.isOrigin.symm.trans isOrigin)
  refine ⟨_, read.accounts, List.take_prefix _ _, fun caughtUp => ?_⟩
  rw [read.caughtUp caughtUp, List.take_of_length_le]
  simp

/-- The objects that were made for the thread since the start hold the end of
some log, whether they are live or not. -/
structure Placed (threadId : String) (start : ThreadRef)
    (system : ThreadEventSystem) : Prop where
  grown : start ≤ system.state.nextThread
  live : ∀ ref, system.state.liveThreads.lookup threadId = some ref →
    start ≤ ref ∧ ref < system.state.nextThread
  turns : ∀ turn ∈ system.turns,
    start ≤ turn.thread ∧ turn.thread < system.state.nextThread
  logs : ∀ ref, start ≤ ref → ref < system.state.nextThread →
    ∃ log, (system.state.threads ref).buffer.Logs log

theorem Initial.placed {threadId : String} {system : ThreadEventSystem}
    (initial : system.Initial threadId) :
    system.Placed threadId system.state.nextThread := by
  refine ⟨Nat.le_refl _, ?_, ?_, ?_⟩
  · simp [initial.unloaded]
  · simp [initial.turns]
  · intro ref first last
    exact absurd first (Nat.not_le.mpr last)

theorem Placed.liveStep {workspaceId threadId : String} {start : ThreadRef}
    {system : ThreadEventSystem} (placed : system.Placed threadId start)
    {after : RuntimeState}
    (step : LiveStep workspaceId threadId system.state after) :
    { system with state := after }.Placed threadId start := by
  have grown := placed.grown
  cases step with
  | kept _ next lookup same =>
      refine ⟨?_, ?_, ?_, ?_⟩
      · rw [next]
        exact grown
      · rw [lookup, next]
        exact placed.live
      · rw [next]
        exact placed.turns
      · intro ref first last
        rw [next] at last
        obtain ⟨log, logs⟩ := placed.logs ref first last
        exact ⟨log, (same ref).buffer ▸ logs⟩
  | installed _ next lookup nowMs new others =>
      refine ⟨?_, ?_, ?_, ?_⟩
      · rw [next]
        exact Nat.le_succ_of_le grown
      · intro ref found
        rw [lookup] at found
        cases found
        rw [next]
        exact ⟨grown, Nat.lt_succ_self _⟩
      · intro turn member
        obtain ⟨first, last⟩ := placed.turns turn member
        rw [next]
        exact ⟨first, Nat.lt_succ_of_lt last⟩
      · intro ref first last
        by_cases isNew : ref = system.state.nextThread
        · subst isNew
          exact ⟨[], new.buffer ▸ OffsetBuffer.logs_empty⟩
        · rw [others ref isNew]
          rw [next] at last
          exact placed.logs ref first
            (Nat.lt_of_le_of_ne (Nat.le_of_lt_succ last) isNew)

theorem Placed.step {workspaceId threadId : String} {start : ThreadRef}
    {system after : ThreadEventSystem} (placed : system.Placed threadId start)
    {action : ThreadEventAction}
    (stepped : system.step workspaceId threadId action = some after) :
    after.Placed threadId start := by
  cases action with
  | completeSpawn spawnId createdAtMs =>
      obtain ⟨state, completed, rfl⟩ := Option.map_eq_some_iff.mp stepped
      exact placed.liveStep (completeThreadSpawn_liveStep completed)
  | load nowMs =>
      cases stepped
      exact placed.liveStep (loadThread_liveStep ..)
  | send controllerId expectedTurnId message newTurnId nowMs =>
      have served := placed.liveStep (sendThread_liveStep workspaceId threadId
        system.state controllerId expectedTurnId message newTurnId nowMs)
      cases stepped
      refine ⟨served.grown, served.live, fun turn member => ?_, served.logs⟩
      split at member
      next receipt started isStarted =>
        obtain rfl | known := List.mem_cons.mp member
        · exact served.live _ (sendThread_isLive (Prod.ext isStarted rfl))
        · exact served.turns turn known
      next => exact served.turns turn member
  | publish turn event nowMs =>
      rw [ThreadEventSystem.step] at stepped
      split at stepped
      next member =>
        cases stepped
        refine ⟨placed.grown, placed.live, placed.turns, ?_⟩
        intro ref first last
        obtain ⟨log, logs⟩ := placed.logs ref first last
        by_cases isRef : ref = turn.thread
        · subst isRef
          simp only [RuntimeState.setThread_threads, Function.update_self]
          by_cases stopped :
              (system.state.threads turn.thread).lifecycle = .stopped
          · simpa [LiveThread.publish, stopped] using ⟨log, logs⟩
          · rw [(LiveThread.publish_of_not_stopped stopped _ _ _).2.2]
            have room : 0 < maxThreadEventBuffer := by decide
            exact ⟨_, logs.push room _⟩
        · simp only [RuntimeState.setThread_threads,
            Function.update_of_ne isRef]
          exact ⟨log, logs⟩
      next => cases stepped
  | nextMessage turn =>
      rw [ThreadEventSystem.step] at stepped
      split at stepped
      next =>
        obtain ⟨⟨message, state⟩, next, rfl⟩ :=
          Option.map_eq_some_iff.mp stepped
        obtain ⟨⟨_, thread⟩, nextThread, isNext⟩ :=
          Option.map_eq_some_iff.mp next
        cases isNext
        have same := LiveThread.nextMessageOrFinish_sameBuffer nextThread
        exact placed.liveStep (@liveStep_setThread workspaceId _ _ _ _ same)
      next => cases stepped
  | abortTurn turn =>
      rw [ThreadEventSystem.step] at stepped
      split at stepped
      next =>
        cases stepped
        have same := LiveThread.abort_sameBuffer
          (system.state.threads turn.thread) turn.turnId
        exact placed.liveStep (@liveStep_setThread workspaceId _ _ _ _ same)
      next => cases stepped
  | call limit waits nowMs =>
      have served := placed.liveStep (loadThread_liveStep workspaceId
        threadId system.state nowMs)
      rw [ThreadEventSystem.step] at stepped
      split at stepped
      next =>
        split at stepped
        next ref state loaded =>
          cases stepped
          rw [loaded] at served
          exact ⟨served.grown, served.live, served.turns, served.logs⟩
        next => cases stepped
      next => cases stepped
  | read =>
      rw [ThreadEventSystem.step] at stepped
      split at stepped
      next =>
        cases stepped
        exact ⟨placed.grown, placed.live, placed.turns, placed.logs⟩
      next => cases stepped
  | wake =>
      rw [ThreadEventSystem.step] at stepped
      split at stepped
      next =>
        cases stepped
        exact ⟨placed.grown, placed.live, placed.turns, placed.logs⟩
      next => cases stepped

theorem numbered_of_logs {buffer : OffsetBuffer ThreadEvent}
    {log : List ThreadEvent} (logs : buffer.Logs log) : Numbered buffer :=
  ⟨logs.nextOffset_eq, fun _ _ found => logs.offset_eq found⟩

/-- In every run that completes spawns only where the thread has no live
object, the observer follows the thread; the buffers are always numbered. -/
theorem threadEvents_follow (workspaceId threadId : String)
    {start system : ThreadEventSystem} (initial : start.Initial threadId)
    (reached : Reaches (step workspaceId threadId) (KeepsObject threadId) start
      system) :
    system.Follows ∧
      ∀ ref, start.state.nextThread ≤ ref → ref < system.state.nextThread →
        Numbered (system.state.threads ref).buffer := by
  have sound : system.Sound workspaceId threadId :=
    reached.invariant initial.sound fun _ _ _ sound keeps stepped =>
      sound.step keeps stepped
  have placed : system.Placed threadId start.state.nextThread :=
    reached.invariant initial.placed fun _ _ _ placed _ stepped =>
      placed.step stepped
  refine ⟨sound.follows, fun ref first last => ?_⟩
  obtain ⟨_, logs⟩ := placed.logs ref first last
  exact numbered_of_logs logs

/-- A spawn that waits for its completion, with no object of the thread. -/
def spawning : ThreadEventSystem where
  state :=
    { RuntimeState.initial "epoch" with
      pendingThreadSpawns := AList.singleton "spawn"
        ⟨"spawn", "workspace", ServerStore.sampleReservation.draft, 1, true⟩ }
  published := []
  turns := []
  observer := .new

theorem spawning_initial : spawning.Initial "home" :=
  ⟨rfl, rfl, rfl, rfl⟩

/-- The observer loads the thread, a turn publishes, and the spawn is completed
only then: the next call returns an empty page of the new object. -/
def replacedRun : List ThreadEventAction :=
  [.call 10 false 0, .read, .send "controller" none "hello" "turn" 0,
    .publish ⟨"home", "turn", 0⟩ (.canceled "run") 0,
    .completeSpawn "spawn" 1, .call 10 false 2, .read]

theorem not_accounts_nil {Event : Type} {event : Event} {events : List Event} :
    ¬ Accounts [] (event :: events) := by
  intro accounts
  generalize isNil : ([] : List (Observation Event)) = observations at accounts
  generalize isCons : event :: events = all at accounts
  cases accounts with
  | nil => cases isCons
  | received | lagged | restarted => simp at isNil

/-- In a run that replaces the object, an event is lost without a word. -/
theorem threadEvents_not_followed :
    ¬ ∀ (workspaceId threadId : String) (start system : ThreadEventSystem),
      start.Initial threadId →
      Reaches (step workspaceId threadId) anyStep start system →
      system.Follows ∧
        ∀ ref, start.state.nextThread ≤ ref → ref < system.state.nextThread →
          Numbered (system.state.threads ref).buffer := by
  intro follows
  obtain ⟨last, runs⟩ : ∃ last,
      replacedRun.foldlM (step "workspace" "home") spawning = some last ∧
        last.observer.observations = [] ∧ last.observer.origin = some 0 ∧
        last.observer.caughtUp = true ∧
        last.published = [⟨"turn", .canceled "run"⟩] :=
    ⟨_, rfl, rfl, rfl, rfl, rfl⟩
  obtain ⟨isLast, nothing, origin, caughtUp, published⟩ := runs
  have followed := (follows "workspace" "home" spawning last spawning_initial
    (Reaches.start.run isLast)).1
  obtain ⟨seen, accounts, _, all⟩ := followed 0 origin
  rw [nothing, all caughtUp, published] at accounts
  exact not_accounts_nil accounts

/-- The observer of a spawned thread calls, a turn publishes two events, and the
observer reads them in two pages. -/
def followedRun : List ThreadEventAction :=
  [.call 10 false 2, .read, .send "controller" none "hello" "turn" 3,
    .publish ⟨"home", "turn", 0⟩ (.assistantDelta "run" "turn" 1 0 "Hello") 4,
    .publish ⟨"home", "turn", 0⟩ (.canceled "run") 5,
    .call 1 false 6, .read, .call 10 false 7, .read]

/-- A spawn that is completed before the thread is observed: the observer receives
both events, in order. -/
theorem threadEvents_follow_spawning :
    ∃ system, Reaches (step "workspace" "home") (KeepsObject "home") spawning
        system ∧
      system.observer.origin = some 0 ∧
      system.published =
        [⟨"turn", .assistantDelta "run" "turn" 1 0 "Hello"⟩,
          ⟨"turn", .canceled "run"⟩] ∧
      system.observer.observations = system.published.map .received ∧
      system.Follows := by
  have keeps : KeepsObject "home" spawning (.completeSpawn "spawn" 1) :=
    fun _ _ _ => rfl
  obtain ⟨spawned, isSpawned, last, runs, origin, published, received⟩ :
      ∃ spawned, spawning.step "workspace" "home" (.completeSpawn "spawn" 1) =
          some spawned ∧
        ∃ last, followedRun.foldlM (step "workspace" "home") spawned =
            some last ∧
          last.observer.origin = some 0 ∧
          last.published =
            [⟨"turn", .assistantDelta "run" "turn" 1 0 "Hello"⟩,
              ⟨"turn", .canceled "run"⟩] ∧
          last.observer.observations = last.published.map .received :=
    ⟨_, rfl, _, rfl, rfl, rfl, rfl⟩
  have reached := ((Reaches.start : Reaches (step "workspace" "home")
    (KeepsObject "home") spawning spawning).next keeps isSpawned).runAllowed
      (fun action member state spawnId createdAtMs isSpawn => by
        subst isSpawn
        simp [followedRun] at member) runs
  exact ⟨last, reached, origin, published, received,
    (threadEvents_follow "workspace" "home" spawning_initial reached).1⟩

end ThreadEventSystem

end PlatoAgent
