import PlatoAgent.ThreadTurns

/-!
# Threads at rest

When no request and no driver is under way for a thread, the thread should be
free: no turn, no bound run and no stop in progress.  The turn of a request
that fails is released by `abort_thread_turn`, which does nothing while a stop
is being decided; the thread is free again when no request leaves at such a
moment.
-/

namespace PlatoAgent

namespace LiveThread

/-- A turn that survives an abort was current before, and is another one unless
a stop is being decided. -/
theorem currentTurn_abort {thread : LiveThread} {turnId : String}
    {active : ActiveThreadTurn}
    (current : (thread.abort turnId).currentTurn = some active) :
    thread.currentTurn = some active ∧
      (thread.lifecycle = .running → active.turnId ≠ turnId) := by
  unfold abort at current
  split at current
  · cases current
  next kept =>
    refine ⟨current, fun running isTurn => kept ⟨running, ?_⟩⟩
    simp [ownsTurn, currentTurnId, current, isTurn]

/-- A turn that survives `next_message_or_finish` was current before, and is
another one when the call ended the loop of the driver. -/
theorem currentTurn_nextMessageOrFinish {thread after : LiveThread}
    {turnId : String} {message : Option String} {active : ActiveThreadTurn}
    (next : thread.nextMessageOrFinish turnId = some (message, after))
    (current : after.currentTurn = some active) :
    (∃ old, thread.currentTurn = some old ∧ old.turnId = active.turnId) ∧
      (thread.lifecycle = .running → message = none →
        active.turnId ≠ turnId) := by
  unfold nextMessageOrFinish at next
  split at next
  · cases next
  next stopped =>
    cases next
    refine ⟨⟨active, current, rfl⟩, fun running => ?_⟩
    rw [stopped] at running
    cases running
  split at next
  next other =>
    cases next
    refine ⟨⟨active, current, rfl⟩, fun _ _ isTurn => ?_⟩
    rw [current] at other
    simp [isTurn] at other
  next old isOld =>
  have wasOld := (Option.filter_eq_some_iff.mp isOld).1
  split at next
  · cases next
    cases current
    exact ⟨⟨old, wasOld, rfl⟩, fun _ none => by cases none⟩
  · cases next
    cases current

end LiveThread

namespace TurnSystem

/-- A process that will still end the turn. -/
def HasOwner (system : TurnSystem) (ref : ThreadRef) (turnId : String) :
    Prop :=
  ∃ key process, system.processes.lookup key = some process ∧
    process.turn.thread = ref ∧ process.turn.turnId = turnId ∧
    process.phase ≠ .drained

/-- A process that will still release the record. -/
def HasHolder (system : TurnSystem) (record : RunRef) : Prop :=
  ∃ key process, system.processes.lookup key = some process ∧
    process.phase.record = some record

/-- Every turn, bound run and stop of the thread belongs to a process. -/
structure Owned (workspaceId threadId : String) (system : TurnSystem) :
    Prop where
  live : ∀ ref, system.state.liveThreads.lookup threadId = some ref →
    (system.state.threads ref).workspaceId = workspaceId ∧
      (system.state.threads ref).lifecycle ≠ .stopped
  current : ∀ ref active,
    system.state.liveThreads.lookup threadId = some ref →
      (system.state.threads ref).currentTurn = some active →
      system.HasOwner ref active.turnId
  active : ∀ record,
    system.state.activeThreadRuns.lookup threadId = some record →
      system.HasHolder record
  stopping : threadId ∈ system.state.stoppingThreads → system.stop.isSome
  lifecycle : ∀ ref, system.state.liveThreads.lookup threadId = some ref →
    (system.state.threads ref).lifecycle = .stopping →
      threadId ∈ system.state.stoppingThreads
  threadIds : ∀ key process, system.processes.lookup key = some process →
    process.turn.threadId = threadId
  keys : ∀ key process, system.processes.lookup key = some process →
    key < system.nextProcess

/-- No request leaves while the stop of its thread is being decided. -/
def LeavesResolved (system : TurnSystem) (action : TurnAction) : Prop :=
  ∀ key process, action = .move key .leave →
    system.processes.lookup key = some process → process.isDriver = false →
    (system.state.threads process.turn.thread).lifecycle ≠ .stopping

theorem Initial.owned {workspaceId threadId : String} {system : TurnSystem}
    (initial : system.Initial threadId) :
    system.Owned workspaceId threadId := by
  refine ⟨?_, ?_, ?_, ?_, ?_, ?_, ?_⟩
  · simp [initial.unloaded]
  · simp [initial.unloaded]
  · simp [initial.unbound]
  · intro stopping
    exact absurd stopping initial.unstopped
  · simp [initial.unloaded]
  · simp [initial.processes]
  · simp [initial.processes]

theorem Owned.liveThread_eq {workspaceId threadId : String}
    {system : TurnSystem} (owned : system.Owned workspaceId threadId) :
    system.state.liveThread workspaceId threadId =
      system.state.liveThreads.lookup threadId := by
  cases lookup : system.state.liveThreads.lookup threadId with
  | none => exact RuntimeState.liveThread_eq_none_of_unloaded lookup _
  | some ref =>
      exact RuntimeState.liveThread_eq_some_iff.mpr
        ⟨lookup, (owned.live ref lookup).1⟩

/-- The threads stay where they are, and turns at most end. -/
structure TurnsShrink (before after : RuntimeState) : Prop where
  liveThreads : after.liveThreads = before.liveThreads
  stoppingThreads : after.stoppingThreads = before.stoppingThreads
  workspaceId : ∀ ref, (after.threads ref).workspaceId =
    (before.threads ref).workspaceId
  lifecycle : ∀ ref, (after.threads ref).lifecycle =
    (before.threads ref).lifecycle
  currentTurn : ∀ ref active, (after.threads ref).currentTurn = some active →
    ∃ old, (before.threads ref).currentTurn = some old ∧
      old.turnId = active.turnId

theorem turnsShrink_of_sameThreads {before after : RuntimeState}
    (same : before.SameThreads after) : TurnsShrink before after where
  liveThreads := same.liveThreads
  stoppingThreads := same.stoppingThreads
  workspaceId ref := by rw [same.threads]
  lifecycle ref := by rw [same.threads]
  currentTurn ref active current := ⟨active, same.threads ▸ current, rfl⟩

theorem turnsShrink_setThread {state : RuntimeState} {ref : ThreadRef}
    {thread : LiveThread} (same : (state.threads ref).SameBuffer thread)
    (shrinks : ∀ active, thread.currentTurn = some active →
      ∃ old, (state.threads ref).currentTurn = some old ∧
        old.turnId = active.turnId) :
    TurnsShrink state (state.setThread ref thread) := by
  refine ⟨rfl, rfl, ?_, ?_, ?_⟩
  · intro other
    by_cases isRef : other = ref
    · subst isRef
      simpa using same.workspaceId
    · simp [Function.update_of_ne isRef]
  · intro other
    by_cases isRef : other = ref
    · subst isRef
      simpa using same.lifecycle
    · simp [Function.update_of_ne isRef]
  · intro other active current
    by_cases isRef : other = ref
    · subst isRef
      exact shrinks active (by simpa using current)
    · exact ⟨active, by simpa [Function.update_of_ne isRef] using current, rfl⟩

theorem turnsShrink_abort (state : RuntimeState) (turn : ThreadTurnBinding) :
    TurnsShrink state (state.abortThreadTurn turn) :=
  turnsShrink_setThread (LiveThread.abort_sameBuffer ..) fun active current =>
    ⟨active, (LiveThread.currentTurn_abort current).1, rfl⟩

theorem lookup_setProcess (system : TurnSystem) (key other : Nat)
    (process : Option TurnProcess) :
    (system.setProcess key process).lookup other =
      if other = key then process else system.processes.lookup other := by
  cases process with
  | none =>
      by_cases same : other = key
      · subst same
        simp [setProcess]
      · simp [setProcess, same, AList.lookup_erase_ne same]
  | some process =>
      by_cases same : other = key
      · subst same
        simp [setProcess]
      · simp [setProcess, same, AList.lookup_insert_ne same]

theorem HasOwner.move {system : TurnSystem} {ref : ThreadRef}
    {turnId : String} (owner : system.HasOwner ref turnId) {key : Nat}
    {process : TurnProcess} {moved : TurnMoved}
    (found : system.processes.lookup key = some process)
    (still : process.turn.thread = ref → process.turn.turnId = turnId →
      process.phase ≠ .drained → ∃ later, moved.process = some later ∧
        later.turn = process.turn ∧ later.phase ≠ .drained) :
    (system.moveTo key process moved).HasOwner ref turnId := by
  obtain ⟨other, owning, isOwning, onThread, ofTurn, undrained⟩ := owner
  by_cases same : other = key
  · subst same
    obtain rfl : owning = process :=
      Option.some.inj (isOwning.symm.trans found)
    obtain ⟨later, isLater, sameTurn, laterUndrained⟩ :=
      still onThread ofTurn undrained
    refine ⟨other, later, ?_, by rw [sameTurn, onThread],
      by rw [sameTurn, ofTurn], laterUndrained⟩
    rw [moveTo, lookup_setProcess, if_pos rfl, isLater]
  · refine ⟨other, owning, ?_, onThread, ofTurn, undrained⟩
    rw [moveTo, lookup_setProcess, if_neg same, isOwning]

theorem HasHolder.move {system : TurnSystem} {record : RunRef}
    (holder : system.HasHolder record) {key : Nat} {process : TurnProcess}
    {moved : TurnMoved}
    (found : system.processes.lookup key = some process)
    (still : process.phase.record = some record →
      ∃ later, moved.process = some later ∧
        later.phase.record = some record) :
    (system.moveTo key process moved).HasHolder record := by
  obtain ⟨other, holding, isHolding, holds⟩ := holder
  by_cases same : other = key
  · subst same
    obtain rfl : holding = process :=
      Option.some.inj (isHolding.symm.trans found)
    obtain ⟨later, isLater, laterHolds⟩ := still holds
    refine ⟨other, later, ?_, laterHolds⟩
    rw [moveTo, lookup_setProcess, if_pos rfl, isLater]
  · refine ⟨other, holding, ?_, holds⟩
    rw [moveTo, lookup_setProcess, if_neg same, isHolding]

/-- A move keeps the invariant when turns and bound runs keep their process. -/
theorem Owned.of_move {workspaceId threadId : String} {system : TurnSystem}
    (owned : system.Owned workspaceId threadId) {key : Nat}
    {process : TurnProcess} {moved : TurnMoved}
    (shrinks : TurnsShrink system.state moved.state)
    (found : system.processes.lookup key = some process)
    (sameTurn : ∀ later, moved.process = some later →
      later.turn = process.turn)
    (current : ∀ ref active,
      system.state.liveThreads.lookup threadId = some ref →
      (moved.state.threads ref).currentTurn = some active →
      process.turn.thread = ref → process.turn.turnId = active.turnId →
      process.phase ≠ .drained → ∃ later, moved.process = some later ∧
        later.phase ≠ .drained)
    (active : ∀ record,
      moved.state.activeThreadRuns.lookup threadId = some record →
      (system.moveTo key process moved).HasHolder record) :
    (system.moveTo key process moved).Owned workspaceId threadId := by
  have kept : ∀ other later,
      (system.setProcess key moved.process).lookup other = some later →
      ∃ earlier, system.processes.lookup other = some earlier ∧
        later.turn = earlier.turn := by
    intro other later isLater
    rw [lookup_setProcess] at isLater
    split at isLater
    next same => exact ⟨process, same ▸ found, sameTurn later isLater⟩
    next => exact ⟨later, isLater, rfl⟩
  refine ⟨?_, ?_, active, ?_, ?_, ?_, ?_⟩
  · intro ref isLive
    rw [moveTo, shrinks.liveThreads] at isLive
    rw [moveTo, shrinks.workspaceId, shrinks.lifecycle]
    exact owned.live ref isLive
  · intro ref turn isLive isCurrent
    rw [moveTo, shrinks.liveThreads] at isLive
    obtain ⟨old, wasCurrent, sameId⟩ := shrinks.currentTurn ref turn isCurrent
    have owner := owned.current ref old isLive wasCurrent
    rw [sameId] at owner
    refine owner.move found fun onThread ofTurn undrained => ?_
    obtain ⟨later, isLater, laterUndrained⟩ := current ref turn isLive
      isCurrent onThread ofTurn undrained
    exact ⟨later, isLater, sameTurn later isLater, laterUndrained⟩
  · rw [moveTo, shrinks.stoppingThreads]
    exact owned.stopping
  · intro ref isLive isStopping
    rw [moveTo, shrinks.liveThreads] at isLive
    rw [moveTo, shrinks.lifecycle] at isStopping
    rw [moveTo, shrinks.stoppingThreads]
    exact owned.lifecycle ref isLive isStopping
  · intro other later isLater
    obtain ⟨earlier, isEarlier, same⟩ := kept other later isLater
    rw [same]
    exact owned.threadIds other earlier isEarlier
  · intro other later isLater
    obtain ⟨earlier, isEarlier, _⟩ := kept other later isLater
    exact owned.keys other earlier isEarlier

/-- A bound run: the thread keeps its turn, and the record becomes the one of
the thread. -/
theorem bindThreadRun_bound {workspaceId : String} {state after : RuntimeState}
    {turn : ThreadTurnBinding} {record : RunRef} {nowMs : UInt64}
    (bound : state.bindThreadRun workspaceId turn record nowMs =
      .bound after) :
    state.liveThreads.lookup turn.threadId = some turn.thread ∧
      (state.threads turn.thread).ownsTurn turn.turnId = true ∧
      after = { state.setThread turn.thread
          ((state.threads turn.thread).touch nowMs) with
        activeThreadRuns :=
          state.activeThreadRuns.insert turn.threadId record } := by
  unfold RuntimeState.bindThreadRun at bound
  split at bound
  · cases bound
  split at bound
  · cases bound
  next ref isLive =>
  obtain ⟨live, isRef⟩ := Option.filter_eq_some_iff.mp isLive
  obtain rfl : ref = turn.thread := by simpa using isRef
  split at bound
  · cases bound
  split at bound
  · cases bound
  split at bound
  · cases bound
  next thread isBound =>
    unfold LiveThread.bindRun at isBound
    split at isBound
    · cases isBound
    split at isBound
    · cases isBound
    next owns =>
      cases isBound
      cases bound
      exact ⟨(RuntimeState.liveThread_eq_some_iff.mp live).1,
        by simpa using owns, rfl⟩

theorem Owned.advance {workspaceId threadId : String}
    {system after : TurnSystem} (owned : system.Owned workspaceId threadId)
    {key : Nat} {move : TurnMove}
    (resolved : LeavesResolved system (.move key move))
    (moved : system.advance workspaceId key move = some after) :
    after.Owned workspaceId threadId := by
  obtain ⟨process, found, moved⟩ := Option.bind_eq_some_iff.mp moved
  obtain ⟨result, isMoved, rfl⟩ := Option.map_eq_some_iff.mp moved
  cases TurnProcess.move_turnStep isMoved with
  | quiet same active record undrained =>
      refine owned.of_move (turnsShrink_of_sameThreads same) found ?_ ?_ ?_
      · rintro later ⟨⟩
        rfl
      · intro ref turn _ _ _ _ _
        exact ⟨_, rfl, undrained⟩
      · intro held isHeld
        rw [active] at isHeld
        refine (owned.active held isHeld).move found fun holds => ?_
        refine ⟨_, rfl, ?_⟩
        rw [record (by simp [holds]), holds]
  | @bind state record nowMs bound =>
      obtain ⟨_, _, rfl⟩ := bindThreadRun_bound bound
      have touched : TurnsShrink system.state
          (system.state.setThread process.turn.thread
            ((system.state.threads process.turn.thread).touch nowMs)) :=
        turnsShrink_setThread ⟨rfl, rfl, rfl⟩ fun active current =>
          ⟨active, current, rfl⟩
      refine owned.of_move ⟨touched.liveThreads, touched.stoppingThreads,
        touched.workspaceId, touched.lifecycle, touched.currentTurn⟩ found
        ?_ ?_ ?_
      · rintro later ⟨⟩
        rfl
      · intro ref turn _ _ _ _ _
        exact ⟨_, rfl, by simp [TurnProcess.enter]⟩
      · intro held isHeld
        have isThread := owned.threadIds key process found
        rw [isThread, AList.lookup_insert] at isHeld
        cases isHeld
        refine ⟨key, process.enter (.bound record), ?_, rfl⟩
        rw [moveTo, lookup_setProcess, if_pos rfl]
  | unbind same held active undrained =>
      refine owned.of_move (turnsShrink_of_sameThreads same) found ?_ ?_ ?_
      · rintro later ⟨⟩
        rfl
      · intro ref turn _ _ _ _ _
        exact ⟨_, rfl, undrained⟩
      · intro other isHeld
        rw [active, FiniteMap.lookup_retain_eq_some_iff] at isHeld
        refine (owned.active other isHeld.1).move found fun holds => ?_
        rw [held] at holds
        cases holds
        simp at isHeld
  | abortStart unheld =>
      refine owned.of_move (turnsShrink_abort ..) found ?_ ?_ ?_
      · rintro later ⟨⟩
        rfl
      · intro ref turn _ _ _ _ _
        exact ⟨_, rfl, by simp [TurnProcess.enter]⟩
      · intro held isHeld
        refine (owned.active held isHeld).move found fun holds => ?_
        rw [unheld] at holds
        cases holds
  | leave unheld isRequest =>
      refine owned.of_move (turnsShrink_abort ..) found ?_ ?_ ?_
      · rintro later ⟨⟩
      · -- The abort ends the turn, since no stop is being decided.
        intro ref turn isLive isCurrent onThread ofTurn _
        subst onThread
        have unresolved := resolved key process rfl found isRequest
        have alive := (owned.live process.turn.thread isLive).2
        have running : (system.state.threads process.turn.thread).lifecycle =
            .running := by
          cases lifecycle :
              (system.state.threads process.turn.thread).lifecycle with
          | running => rfl
          | stopping => exact absurd lifecycle unresolved
          | stopped => exact absurd lifecycle alive
        have ended := (LiveThread.currentTurn_abort (by
          simpa [RuntimeState.abortThreadTurn] using isCurrent)).2 running
        exact absurd ofTurn.symm ended
      · intro held isHeld
        refine (owned.active held isHeld).move found fun holds => ?_
        rw [unheld] at holds
        cases holds
  | next unheld next =>
      obtain ⟨⟨_, _⟩, isNext, rfl⟩ := Option.map_eq_some_iff.mp next
      obtain ⟨⟨message, _⟩, nextThread, isThread⟩ :=
        Option.map_eq_some_iff.mp isNext
      cases isThread
      refine owned.of_move (turnsShrink_setThread
        (LiveThread.nextMessageOrFinish_sameBuffer nextThread)
        fun active current =>
          (LiveThread.currentTurn_nextMessageOrFinish nextThread current).1)
        found ?_ ?_ ?_
      · rintro later ⟨⟩
        rfl
      · intro ref turn isLive isCurrent onThread ofTurn _
        refine ⟨_, rfl, ?_⟩
        cases message with
        | some message => simp [TurnProcess.enter]
        | none =>
            subst onThread
            have alive := (owned.live process.turn.thread isLive).2
            have ended := (LiveThread.currentTurn_nextMessageOrFinish
              nextThread (by simpa using isCurrent)).2
            have running :
                (system.state.threads process.turn.thread).lifecycle =
                  .running := by
              cases lifecycle :
                  (system.state.threads process.turn.thread).lifecycle with
              | running => rfl
              | stopping =>
                  simp [LiveThread.nextMessageOrFinish, lifecycle] at nextThread
              | stopped => exact absurd lifecycle alive
            exact absurd ofTurn.symm (ended running rfl)
      · intro held isHeld
        refine (owned.active held isHeld).move found fun holds => ?_
        rw [unheld] at holds
        cases holds
  | finish isDrained =>
      refine owned.of_move (turnsShrink_abort ..) found ?_ ?_ ?_
      · rintro later ⟨⟩
      · intro ref turn _ _ _ _ undrained
        exact absurd isDrained undrained
      · intro held isHeld
        refine (owned.active held isHeld).move found fun holds => ?_
        rw [isDrained] at holds
        cases holds

/-- A message is queued for the turn that is current. -/
theorem Owned.steer {workspaceId threadId : String} {system : TurnSystem}
    (owned : system.Owned workspaceId threadId) {ref : ThreadRef}
    {active : ActiveThreadTurn}
    (current : (system.state.threads ref).currentTurn = some active)
    (message : String) (nowMs : UInt64) :
    { system with
      state := system.state.setThread ref
        ((system.state.threads ref).steer active message nowMs) }.Owned
      workspaceId threadId := by
  have shrinks : TurnsShrink system.state (system.state.setThread ref
      ((system.state.threads ref).steer active message nowMs)) :=
    turnsShrink_setThread ⟨rfl, rfl, rfl⟩ fun _ steered =>
      ⟨active, current, by cases steered; rfl⟩
  refine ⟨?_, ?_, owned.active, owned.stopping, ?_, owned.threadIds,
    owned.keys⟩
  · intro other isLive
    rw [shrinks.workspaceId, shrinks.lifecycle]
    exact owned.live other isLive
  · intro other turn isLive isCurrent
    obtain ⟨old, wasCurrent, sameId⟩ := shrinks.currentTurn other turn
      isCurrent
    exact sameId ▸ owned.current other old isLive wasCurrent
  · intro other isLive isStopping
    rw [shrinks.lifecycle] at isStopping
    exact owned.lifecycle other isLive isStopping

theorem Owned.addProcess {workspaceId threadId : String} {system : TurnSystem}
    (owned : system.Owned workspaceId threadId) {other : Nat}
    {process added : TurnProcess}
    (found : system.processes.lookup other = some process) :
    (system.processes.insert system.nextProcess added).lookup other =
      some process := by
  have different : other ≠ system.nextProcess :=
    Nat.ne_of_lt (owned.keys other process found)
  rw [AList.lookup_insert_ne different, found]

/-- A turn is started on the live object, which may be new. -/
theorem Owned.start {workspaceId threadId : String} {system : TurnSystem}
    (owned : system.Owned workspaceId threadId) {ref : ThreadRef}
    {base : RuntimeState}
    (isLive : base.liveThreads.lookup threadId = some ref)
    (workspace : (base.threads ref).workspaceId = workspaceId)
    (running : (base.threads ref).lifecycle = .running)
    (active : base.activeThreadRuns = system.state.activeThreadRuns)
    (stopping : base.stoppingThreads = system.state.stoppingThreads)
    (newTurnId controllerId : String) (nowMs : UInt64) :
    { system with
      state := base.setThread ref
        ((base.threads ref).startTurn newTurnId controllerId nowMs)
      processes := system.processes.insert system.nextProcess
        ⟨⟨threadId, newTurnId, ref⟩, false, .admitted⟩
      nextProcess := system.nextProcess + 1 }.Owned workspaceId threadId := by
  have only : ∀ other,
      (base.setThread ref ((base.threads ref).startTurn newTurnId controllerId
        nowMs)).liveThreads.lookup threadId = some other → other = ref :=
    fun other isOther => Option.some.inj (isOther.symm.trans isLive)
  refine ⟨?_, ?_, ?_, ?_, ?_, ?_, ?_⟩
  · intro other isOther
    obtain rfl := only other isOther
    simp [LiveThread.startTurn, LiveThread.touch, workspace, running]
  · intro other turn isOther isCurrent
    obtain rfl := only other isOther
    simp only [RuntimeState.setThread_threads, Function.update_self,
      LiveThread.startTurn] at isCurrent
    cases isCurrent
    exact ⟨system.nextProcess, _, AList.lookup_insert _, rfl, rfl, by simp⟩
  · intro record isBound
    obtain ⟨key, process, found, holds⟩ := owned.active record
      (active ▸ isBound)
    exact ⟨key, process, owned.addProcess found, holds⟩
  · intro isStopping
    exact owned.stopping (stopping ▸ isStopping)
  · intro other isOther isStopping
    obtain rfl := only other isOther
    simp only [RuntimeState.setThread_threads, Function.update_self,
      LiveThread.startTurn, LiveThread.touch, running] at isStopping
    cases isStopping
  · intro key process found
    obtain ⟨_, rfl⟩ | ⟨_, found⟩ :=
      FiniteMap.lookup_insert_eq_some_iff.mp found
    · rfl
    · exact owned.threadIds key process found
  · intro key process found
    obtain ⟨rfl, _⟩ | ⟨_, found⟩ :=
      FiniteMap.lookup_insert_eq_some_iff.mp found
    · exact Nat.lt_succ_self _
    · exact Nat.lt_succ_of_lt (owned.keys key process found)

/-- What was answered and which turns were used plays no part. -/
theorem Owned.answered {workspaceId threadId : String} {system : TurnSystem}
    (owned : system.Owned workspaceId threadId) (usedTurns : List String)
    (acknowledged : List (String × String)) :
    { system with
      usedTurns := usedTurns
      acknowledged := acknowledged }.Owned workspaceId threadId :=
  ⟨owned.live, owned.current, owned.active, owned.stopping, owned.lifecycle,
    owned.threadIds, owned.keys⟩

theorem Owned.send {workspaceId threadId : String} {system : TurnSystem}
    (owned : system.Owned workspaceId threadId) (controllerId : String)
    (expectedTurnId : Option String) (message newTurnId : String)
    (nowMs : UInt64) :
    (system.send workspaceId threadId controllerId expectedTurnId message
      newTurnId nowMs).Owned workspaceId threadId := by
  have sent := sendThread_sendStep workspaceId threadId system.state
    controllerId expectedTurnId message newTurnId nowMs
  unfold TurnSystem.send
  generalize system.state.sendThread workspaceId threadId controllerId
    expectedTurnId message newTurnId nowMs = result at sent ⊢
  obtain ⟨admission, after⟩ := result
  dsimp only at sent ⊢
  cases sent with
  | refused unstarted unsteered =>
      split
      · exact absurd rfl (unstarted _ _)
      · exact absurd rfl (unsteered _)
      · exact owned.answered _ _
  | steered ref active _ _ current =>
      exact (owned.steer current message nowMs).answered _ _
  | started ref base isBase _ running =>
      obtain ⟨rfl, live⟩ | ⟨rfl, _, rfl⟩ := isBase
      · obtain ⟨isLive, workspace⟩ :=
          RuntimeState.liveThread_eq_some_iff.mp live
        exact (owned.start isLive workspace running rfl rfl newTurnId
          controllerId nowMs).answered _ _
      · exact (owned.start (by simp) (by simp [LiveThread.new]) running rfl rfl
          newTurnId controllerId nowMs).answered _ _

theorem Owned.beginStop {workspaceId threadId : String} {system : TurnSystem}
    (owned : system.Owned workspaceId threadId) {target : ThreadStopTarget}
    {after : RuntimeState}
    (begun : system.state.beginThreadStop workspaceId threadId =
      .ok (target, after)) :
    { system with state := after, stop := some target }.Owned workspaceId
      threadId := by
  unfold RuntimeState.beginThreadStop at begun
  rw [owned.liveThread_eq] at begun
  split at begun
  · cases begun
  split at begun
  · cases begun
  dsimp only at begun
  split at begun
  next unloaded =>
    cases begun
    refine ⟨owned.live, owned.current, owned.active, fun _ => rfl, ?_,
      owned.threadIds, owned.keys⟩
    intro ref isLive
    rw [unloaded] at isLive
    cases isLive
  next ref isRef =>
    cases begun
    refine ⟨?_, ?_, owned.active, fun _ => rfl,
      fun _ _ _ => Finset.mem_insert_self _ _, owned.threadIds, owned.keys⟩
    · intro other isLive
      obtain rfl : ref = other := Option.some.inj (isRef.symm.trans isLive)
      simpa [LiveThread.beginStop] using (owned.live ref isRef).1
    · intro other active isLive isCurrent
      obtain rfl : ref = other := Option.some.inj (isRef.symm.trans isLive)
      exact owned.current ref active isRef
        (by simpa [LiveThread.beginStop] using isCurrent)

theorem Owned.completeStop {workspaceId threadId : String}
    {system : TurnSystem} (owned : system.Owned workspaceId threadId) :
    { system with
      state := system.state.completeThreadStop threadId
      stop := none }.Owned workspaceId threadId := by
  have unloaded : (system.state.completeThreadStop threadId).liveThreads.lookup
      threadId = none := AList.lookup_erase _ _
  have unbound :
      (system.state.completeThreadStop threadId).activeThreadRuns.lookup
        threadId = none := AList.lookup_erase _ _
  refine ⟨?_, ?_, ?_, ?_, ?_, owned.threadIds, owned.keys⟩
  · simp [unloaded]
  · simp [unloaded]
  · simp [unbound]
  · intro stopping
    exact absurd stopping (Finset.notMem_erase _ _)
  · simp [unloaded]

theorem Owned.abortStop {workspaceId threadId : String} {system : TurnSystem}
    (owned : system.Owned workspaceId threadId) :
    { system with
      state := system.state.abortThreadStop threadId
      stop := none }.Owned workspaceId threadId := by
  unfold RuntimeState.abortThreadStop
  dsimp only
  split
  next unloaded =>
    refine ⟨owned.live, owned.current, owned.active, ?_, ?_, owned.threadIds,
      owned.keys⟩
    · intro stopping
      exact absurd stopping (Finset.notMem_erase _ _)
    · simp [unloaded]
  next ref isRef =>
    have running : ((system.state.threads ref).abortStop).lifecycle =
        .running := by
      have alive := (owned.live ref isRef).2
      unfold LiveThread.abortStop
      split
      · rfl
      next unstopping =>
        cases lifecycle : (system.state.threads ref).lifecycle with
        | running => rfl
        | stopping => exact absurd lifecycle unstopping
        | stopped => exact absurd lifecycle alive
    have kept : ((system.state.threads ref).abortStop).workspaceId =
          (system.state.threads ref).workspaceId ∧
        ((system.state.threads ref).abortStop).currentTurn =
          (system.state.threads ref).currentTurn := by
      unfold LiveThread.abortStop
      split <;> exact ⟨rfl, rfl⟩
    refine ⟨?_, ?_, owned.active, ?_, ?_, owned.threadIds, owned.keys⟩
    · intro other isLive
      obtain rfl : ref = other := Option.some.inj (isRef.symm.trans isLive)
      simp only [RuntimeState.setThread_threads, Function.update_self]
      refine ⟨kept.1.trans (owned.live ref isRef).1, ?_⟩
      rw [running]
      decide
    · intro other active isLive isCurrent
      obtain rfl : ref = other := Option.some.inj (isRef.symm.trans isLive)
      simp only [RuntimeState.setThread_threads, Function.update_self,
        kept.2] at isCurrent
      exact owned.current ref active isRef isCurrent
    · intro stopping
      exact absurd stopping (Finset.notMem_erase _ _)
    · intro other isLive isStopping
      obtain rfl : ref = other := Option.some.inj (isRef.symm.trans isLive)
      simp only [RuntimeState.setThread_threads, Function.update_self,
        running] at isStopping
      cases isStopping

theorem Owned.step {workspaceId threadId : String}
    {system after : TurnSystem} (owned : system.Owned workspaceId threadId)
    {action : TurnAction} (resolved : LeavesResolved system action)
    (stepped : system.step workspaceId threadId action = some after) :
    after.Owned workspaceId threadId := by
  cases action with
  | send controllerId expectedTurnId message newTurnId nowMs =>
      rw [TurnSystem.step] at stepped
      split at stepped
      · cases stepped
      · cases stepped
        exact owned.send ..
  | move key move => exact owned.advance resolved stepped
  | requestCancel record =>
      rw [TurnSystem.step] at stepped
      split at stepped
      · cases stepped
        exact ⟨owned.live, owned.current, owned.active, owned.stopping,
          owned.lifecycle, owned.threadIds, owned.keys⟩
      · cases stepped
  | beginStop =>
      rw [TurnSystem.step] at stepped
      split at stepped
      · cases stepped
      next begun =>
        cases stepped
        exact owned.beginStop begun
  | completeStop =>
      rw [TurnSystem.step] at stepped
      split at stepped
      · cases stepped
        exact owned.completeStop
      · cases stepped
  | abortStop =>
      rw [TurnSystem.step] at stepped
      split at stepped
      · cases stepped
        exact owned.abortStop
      · cases stepped

/-- Nothing is under way for the thread. -/
def AtRest (system : TurnSystem) : Prop :=
  (∀ key, system.processes.lookup key = none) ∧ system.stop = none

/-- The thread has no turn, no run and no stop, and starts a turn for the next
message. -/
structure Free (workspaceId threadId : String) (state : RuntimeState) :
    Prop where
  unstopping : threadId ∉ state.stoppingThreads
  unbound : state.activeThreadRuns.lookup threadId = none
  idle : ∀ ref, state.liveThreads.lookup threadId = some ref →
    (state.threads ref).currentTurn = none ∧
      (state.threads ref).lifecycle ≠ .stopping
  starts : state.shutdownAccepted = false → threadId ∉ state.stoppedThreads →
    ∀ controllerId message newTurnId nowMs, ∃ turn after,
      state.sendThread workspaceId threadId controllerId none message newTurnId
        nowMs = (.started (.started threadId newTurnId) turn, after)

theorem Owned.free {workspaceId threadId : String} {system : TurnSystem}
    (owned : system.Owned workspaceId threadId) (rest : system.AtRest) :
    Free workspaceId threadId system.state := by
  obtain ⟨noProcess, noStop⟩ := rest
  have unstopping : threadId ∉ system.state.stoppingThreads := by
    intro stopping
    have isStopping := owned.stopping stopping
    rw [noStop] at isStopping
    cases isStopping
  have idle : ∀ ref, system.state.liveThreads.lookup threadId = some ref →
      (system.state.threads ref).currentTurn = none ∧
        (system.state.threads ref).lifecycle ≠ .stopping := by
    intro ref isLive
    constructor
    · rw [Option.eq_none_iff_forall_ne_some]
      intro active isCurrent
      obtain ⟨key, _, found, _⟩ := owned.current ref active isLive isCurrent
      rw [noProcess key] at found
      cases found
    · intro stopping
      exact unstopping (owned.lifecycle ref isLive stopping)
  refine ⟨unstopping, ?_, idle, ?_⟩
  · rw [Option.eq_none_iff_forall_ne_some]
    intro record isBound
    obtain ⟨key, _, found, _⟩ := owned.active record isBound
    rw [noProcess key] at found
    cases found
  · intro accepting unstopped controllerId message newTurnId nowMs
    unfold RuntimeState.sendThread
    rw [owned.liveThread_eq, if_neg (by simp [accepting]),
      if_neg (by simp [unstopping, unstopped])]
    split
    next ref isLive =>
      obtain ⟨noTurn, unstoppingLive⟩ := idle ref isLive
      have alive := (owned.live ref isLive).2
      have running : (system.state.threads ref).lifecycle = .running := by
        cases lifecycle : (system.state.threads ref).lifecycle with
        | running => rfl
        | stopping => exact absurd lifecycle unstoppingLive
        | stopped => exact absurd lifecycle alive
      rw [sendLive_idle _ _ running noTurn]
      exact ⟨_, _, rfl⟩
    next unloaded =>
      rw [if_neg (by simp), sendLive_idle _ _ (by simp [LiveThread.new])
        (by simp [LiveThread.new])]
      exact ⟨_, _, rfl⟩

/-- In every run in which no request leaves while the stop of its thread is
being decided, a thread at rest is free. -/
theorem thread_free_at_rest (workspaceId threadId : String)
    {start system : TurnSystem} (initial : start.Initial threadId)
    (reached : Reaches (step workspaceId threadId) LeavesResolved start system)
    (rest : system.AtRest) :
    Free workspaceId threadId system.state := by
  have owned : system.Owned workspaceId threadId :=
    reached.invariant initial.owned fun _ _ _ owned resolved stepped =>
      owned.step resolved stepped
  exact owned.free rest

/-- A runtime with nothing in it. -/
def unused : TurnSystem where
  state := .initial "epoch"
  processes := ∅
  nextProcess := 0
  stop := none
  usedTurns := []
  acknowledged := []
  delivered := []

theorem unused_initial (threadId : String) : unused.Initial threadId :=
  ⟨rfl, rfl, by simp [unused, RuntimeState.initial], rfl, rfl, rfl, rfl⟩

/-- A request fails while the thread is being stopped, and the stop is rolled
back. -/
def strandedRun : List TurnAction :=
  [.send "controller" none "hello" "turn" 0, .beginStop, .move 0 .fail,
    .move 0 .leave, .abortStop]

/-- The turn of the failed request stays for ever. -/
theorem thread_stranded_at_rest :
    ¬ ∀ (workspaceId threadId : String) (start system : TurnSystem),
      start.Initial threadId →
      Reaches (step workspaceId threadId) anyStep start system →
      system.AtRest → Free workspaceId threadId system.state := by
  intro free
  obtain ⟨last, isLast, processes, stop, live, current⟩ : ∃ last,
      strandedRun.foldlM (step "workspace" "thread") unused = some last ∧
        last.processes = ∅ ∧ last.stop = none ∧
        last.state.liveThreads.lookup "thread" = some 0 ∧
        (last.state.threads 0).currentTurn =
          some ⟨"turn", "controller", []⟩ :=
    ⟨_, rfl, rfl, rfl, rfl, rfl⟩
  have rest : last.AtRest := ⟨fun key => by simp [processes], stop⟩
  have idle := (free "workspace" "thread" unused last (unused_initial _)
    (Reaches.start.run isLast) rest).idle 0 live
  rw [current] at idle
  cases idle.1

def leavesResolved (system : TurnSystem) : TurnAction → Bool
  | .move key .leave =>
      (system.processes.lookup key).all fun process => process.isDriver ||
        (system.state.threads process.turn.thread).lifecycle != .stopping
  | _ => true

theorem leavesResolved_sound (system : TurnSystem) (action : TurnAction)
    (passes : system.leavesResolved action = true) :
    LeavesResolved system action := by
  rintro key process rfl found unowned
  simpa [leavesResolved, found, unowned] using passes

/-- A request fails before any stop, and the run of the next one outlives a stop
that is rolled back. -/
def rolledBackRun : List TurnAction :=
  [.send "controller" none "hello" "first" 0, .move 0 .fail, .move 0 .leave,
    .send "controller" none "again" "second" 1, .move 1 .startRun,
    .move 1 (.reserve "run" "session"), .move 1 (.bind 2), .move 1 .launch,
    .beginStop, .abortStop, .move 1 (.endRun .finished), .move 1 .retire,
    .move 1 .nextMessage, .move 1 .finish]

/-- The thread is still loaded after that, and starts a turn for a third
message. -/
theorem thread_free_after_failure :
    ∃ system, Reaches (step "workspace" "thread") LeavesResolved unused
        system ∧ system.AtRest ∧
      system.state.liveThreads.lookup "thread" = some 0 ∧
      Free "workspace" "thread" system.state ∧
      ∃ turn after, system.state.sendThread "workspace" "thread" "controller"
        none "once more" "third" 3 = (.started (.started "thread" "third") turn,
          after) := by
  obtain ⟨last, isLast, processes, stop, live, accepting, stopped⟩ : ∃ last,
      rolledBackRun.foldlM (fun system action =>
          if leavesResolved system action then
            step "workspace" "thread" system action
          else none) unused = some last ∧
        last.processes = ∅ ∧ last.stop = none ∧
        last.state.liveThreads.lookup "thread" = some 0 ∧
        last.state.shutdownAccepted = false ∧
        last.state.stoppedThreads = ∅ :=
    ⟨_, rfl, rfl, rfl, rfl, rfl, rfl⟩
  have reached := Reaches.runChecked leavesResolved_sound .start isLast
  have rest : last.AtRest := ⟨fun key => by simp [processes], stop⟩
  have free := thread_free_at_rest "workspace" "thread" (unused_initial _)
    reached rest
  exact ⟨last, reached, rest, live, free, free.starts accepting
    (by simp [stopped]) "controller" "once more" "third" 3⟩

end TurnSystem

end PlatoAgent
