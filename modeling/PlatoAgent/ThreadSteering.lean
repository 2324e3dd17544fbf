import PlatoAgent.ThreadStops

/-!
# Steered messages

A message that was acknowledged as steered waits in the queue of its turn.  On
a thread that is never stopped it is returned to the driver of that turn, in
order, unless the turn is aborted while messages wait: the queue is dropped
with the turn.
-/

namespace PlatoAgent

/-- The messages for a turn, in order. -/
def messagesOf (turnId : String) (messages : List (String × String)) :
    List String :=
  (messages.filter (·.1 == turnId)).map (·.2)

theorem messagesOf_append (turnId : String)
    (messages later : List (String × String)) :
    messagesOf turnId (messages ++ later) =
      messagesOf turnId messages ++ messagesOf turnId later := by
  simp [messagesOf]

@[simp]
theorem messagesOf_nil (turnId : String) : messagesOf turnId [] = [] :=
  rfl

theorem messagesOf_single (turnId other message : String) :
    messagesOf turnId [(other, message)] =
      if other = turnId then [message] else [] := by
  by_cases same : other = turnId <;> simp [messagesOf, same]

/-- The current turn of a thread. -/
def RuntimeState.currentTurnOf (state : RuntimeState) (threadId : String) :
    Option ActiveThreadTurn :=
  (state.liveThreads.lookup threadId).bind fun ref =>
    (state.threads ref).currentTurn

/-- The messages that wait for a turn. -/
def RuntimeState.pendingOf (state : RuntimeState) (threadId turnId : String) :
    List String :=
  ((state.currentTurnOf threadId).filter (·.turnId == turnId)).elim []
    (·.pendingMessages)

namespace TurnSystem

/-- Acknowledged messages are returned to their turn, all of them before the
turn ends, and at most one turn has a run. -/
structure Delivers (threadId : String) (system : TurnSystem) : Prop where
  waiting : ∀ turnId, messagesOf turnId system.acknowledged =
    messagesOf turnId system.delivered ++
      system.state.pendingOf threadId turnId
  ended : ∀ turnId, (∀ active,
      system.state.currentTurnOf threadId = some active →
        active.turnId ≠ turnId) →
    messagesOf turnId system.acknowledged =
      messagesOf turnId system.delivered
  single : ∀ key process, system.processes.lookup key = some process →
    process.phase.isExecuting = true →
      (system.state.currentTurnOf threadId).map (·.turnId) =
        some process.turn.turnId ∧
      ∀ other rival, system.processes.lookup other = some rival →
        rival.phase.isExecuting = true → other = key

/-- The thread is never stopped. -/
def NeverStopped (_ : TurnSystem) (action : TurnAction) : Prop :=
  action ≠ .beginStop

/-- Moreover, no failed start aborts a turn for which messages wait. -/
def LosesNothing (threadId : String) (system : TurnSystem)
    (action : TurnAction) : Prop :=
  NeverStopped system action ∧
    ∀ key process move, action = .move key move →
      move = .abortStart ∨ move = .leave ∧ process.isDriver = false →
      system.processes.lookup key = some process →
      system.state.pendingOf threadId process.turn.turnId = []

/-- What holds on a thread that is never stopped and loses nothing. -/
structure Balanced (workspaceId threadId : String) (system : TurnSystem) :
    Prop where
  unstopped : system.stop = none
  live : ∀ ref, system.state.liveThreads.lookup threadId = some ref →
    (system.state.threads ref).workspaceId = workspaceId ∧
      (system.state.threads ref).lifecycle = .running
  processes : ∀ key process, system.processes.lookup key = some process →
    system.state.liveThreads.lookup threadId = some process.turn.thread ∧
      process.turn.turnId ∈ system.usedTurns ∧ key < system.nextProcess
  distinct : ∀ key process other rival,
    system.processes.lookup key = some process →
    system.processes.lookup other = some rival →
    process.turn.turnId = rival.turn.turnId → key = other
  executing : ∀ key process, system.processes.lookup key = some process →
    process.phase.isExecuting = true →
      (system.state.currentTurnOf threadId).map (·.turnId) =
        some process.turn.turnId
  drained : ∀ key process, system.processes.lookup key = some process →
    process.phase = .drained →
      (system.state.currentTurnOf threadId).map (·.turnId) ≠
        some process.turn.turnId
  waiting : ∀ turnId, messagesOf turnId system.acknowledged =
    messagesOf turnId system.delivered ++
      system.state.pendingOf threadId turnId

theorem pendingOf_eq_nil {state : RuntimeState} {threadId turnId : String}
    (ended : ∀ active, state.currentTurnOf threadId = some active →
      active.turnId ≠ turnId) : state.pendingOf threadId turnId = [] := by
  unfold RuntimeState.pendingOf
  cases current : state.currentTurnOf threadId with
  | none => rfl
  | some active =>
      have different := ended active current
      simp [Option.filter, different]

theorem Balanced.delivers {workspaceId threadId : String} {system : TurnSystem}
    (balanced : system.Balanced workspaceId threadId) :
    system.Delivers threadId := by
  refine ⟨balanced.waiting, ?_, ?_⟩
  · intro turnId ended
    rw [balanced.waiting, pendingOf_eq_nil ended, List.append_nil]
  · intro key process found executing
    have current := balanced.executing key process found executing
    refine ⟨current, fun other rival isRival rivalExecutes => ?_⟩
    have rivalCurrent := balanced.executing other rival isRival rivalExecutes
    exact balanced.distinct other rival key process isRival found
      (Option.some.inj (rivalCurrent.symm.trans current))

theorem Initial.balanced {workspaceId threadId : String} {system : TurnSystem}
    (initial : system.Initial threadId) :
    system.Balanced workspaceId threadId := by
  have idle : system.state.currentTurnOf threadId = none := by
    simp [RuntimeState.currentTurnOf, initial.unloaded]
  refine ⟨initial.stop, ?_, ?_, ?_, ?_, ?_, ?_⟩
  · simp [initial.unloaded]
  · simp [initial.processes]
  · simp [initial.processes]
  · simp [initial.processes]
  · simp [initial.processes]
  · intro turnId
    simp [initial.acknowledged, initial.delivered, RuntimeState.pendingOf,
      idle]

/-- The thread as the live object has it. -/
theorem Balanced.currentTurnOf {workspaceId threadId : String}
    {system : TurnSystem} (balanced : system.Balanced workspaceId threadId)
    {key : Nat} {process : TurnProcess}
    (found : system.processes.lookup key = some process) :
    system.state.currentTurnOf threadId =
      (system.state.threads process.turn.thread).currentTurn := by
  simp [RuntimeState.currentTurnOf, (balanced.processes key process found).1]

theorem TurnsShrink.currentTurnOf {before after : RuntimeState}
    (shrinks : TurnsShrink before after) {threadId : String}
    {active : ActiveThreadTurn}
    (current : after.currentTurnOf threadId = some active) :
    ∃ old, before.currentTurnOf threadId = some old ∧
      old.turnId = active.turnId := by
  obtain ⟨ref, isLive, isCurrent⟩ := Option.bind_eq_some_iff.mp current
  rw [shrinks.liveThreads] at isLive
  obtain ⟨old, wasCurrent, sameId⟩ := shrinks.currentTurn ref active isCurrent
  exact ⟨old, Option.bind_eq_some_iff.mpr ⟨ref, isLive, wasCurrent⟩, sameId⟩

theorem Balanced.of_move {workspaceId threadId : String}
    {system : TurnSystem} (balanced : system.Balanced workspaceId threadId)
    {key : Nat} {process : TurnProcess} {moved : TurnMoved}
    (shrinks : TurnsShrink system.state moved.state)
    (found : system.processes.lookup key = some process)
    (sameTurn : ∀ later, moved.process = some later →
      later.turn = process.turn)
    (kept : ∀ turnId, turnId ≠ process.turn.turnId →
      (system.state.currentTurnOf threadId).map (·.turnId) = some turnId →
      (moved.state.currentTurnOf threadId).map (·.turnId) = some turnId)
    (executing : ∀ later, moved.process = some later →
      later.phase.isExecuting = true →
      (moved.state.currentTurnOf threadId).map (·.turnId) =
        some process.turn.turnId)
    (drained : ∀ later, moved.process = some later →
      later.phase = .drained →
      (moved.state.currentTurnOf threadId).map (·.turnId) ≠
        some process.turn.turnId)
    (waiting : ∀ turnId, messagesOf turnId system.acknowledged =
      messagesOf turnId (system.moveTo key process moved).delivered ++
        moved.state.pendingOf threadId turnId) :
    (system.moveTo key process moved).Balanced workspaceId threadId := by
  have origin : ∀ other later,
      (system.setProcess key moved.process).lookup other = some later →
      other = key ∧ moved.process = some later ∨
        other ≠ key ∧ system.processes.lookup other = some later := by
    intro other later isLater
    rw [lookup_setProcess] at isLater
    split at isLater
    next same => exact .inl ⟨same, isLater⟩
    next different => exact .inr ⟨different, isLater⟩
  have earlier : ∀ other later,
      (system.setProcess key moved.process).lookup other = some later →
      ∃ old, system.processes.lookup other = some old ∧
        later.turn = old.turn := by
    intro other later isLater
    obtain ⟨rfl, isMoved⟩ | ⟨_, isOld⟩ := origin other later isLater
    · exact ⟨process, found, sameTurn later isMoved⟩
    · exact ⟨later, isOld, rfl⟩
  refine ⟨balanced.unstopped, ?_, ?_, ?_, ?_, ?_, waiting⟩
  · intro ref isLive
    rw [moveTo, shrinks.liveThreads] at isLive
    rw [moveTo, shrinks.workspaceId, shrinks.lifecycle]
    exact balanced.live ref isLive
  · intro other later isLater
    obtain ⟨old, isOld, same⟩ := earlier other later isLater
    rw [moveTo, shrinks.liveThreads, same]
    exact balanced.processes other old isOld
  · intro first firstLater second secondLater isFirst isSecond sameId
    obtain ⟨firstOld, isFirstOld, firstSame⟩ := earlier first firstLater
      isFirst
    obtain ⟨secondOld, isSecondOld, secondSame⟩ := earlier second secondLater
      isSecond
    rw [firstSame, secondSame] at sameId
    exact balanced.distinct first firstOld second secondOld isFirstOld
      isSecondOld sameId
  · intro other later isLater isExecuting
    obtain ⟨rfl, isMoved⟩ | ⟨different, isOld⟩ := origin other later isLater
    · rw [sameTurn later isMoved]
      exact executing later isMoved isExecuting
    · refine kept _ (fun sameId => different ?_)
        (balanced.executing other later isOld isExecuting)
      exact balanced.distinct other later key process isOld found sameId
  · intro other later isLater isDrained isCurrent
    obtain ⟨rfl, isMoved⟩ | ⟨_, isOld⟩ := origin other later isLater
    · rw [sameTurn later isMoved] at isCurrent
      exact drained later isMoved isDrained isCurrent
    · obtain ⟨active, isActive, sameId⟩ := Option.map_eq_some_iff.mp isCurrent
      obtain ⟨old, wasCurrent, oldId⟩ := shrinks.currentTurnOf isActive
      refine balanced.drained other later isOld isDrained ?_
      rw [wasCurrent, Option.map_some, oldId, sameId]

/-- A move that leaves the current turn alone. -/
theorem Balanced.of_sameTurn {workspaceId threadId : String}
    {system : TurnSystem} (balanced : system.Balanced workspaceId threadId)
    {key : Nat} {process : TurnProcess} {moved : TurnMoved}
    (shrinks : TurnsShrink system.state moved.state)
    (found : system.processes.lookup key = some process)
    (same : moved.state.currentTurnOf threadId =
      system.state.currentTurnOf threadId)
    (undelivered : moved.delivered = none)
    (sameTurn : ∀ later, moved.process = some later →
      later.turn = process.turn)
    (executing : ∀ later, moved.process = some later →
      later.phase.isExecuting = true →
      (system.state.currentTurnOf threadId).map (·.turnId) =
        some process.turn.turnId)
    (undrained : ∀ later, moved.process = some later →
      later.phase ≠ .drained) :
    (system.moveTo key process moved).Balanced workspaceId threadId := by
  refine balanced.of_move shrinks found sameTurn ?_ ?_ ?_ ?_
  · intro turnId _ isCurrent
    rw [same]
    exact isCurrent
  · rw [same]
    exact executing
  · intro later isLater isDrained
    exact absurd isDrained (undrained later isLater)
  · intro turnId
    rw [balanced.waiting, moveTo, undelivered]
    simp [RuntimeState.pendingOf, same]

/-- An abort of a turn for which nothing waits. -/
theorem Balanced.of_abort {workspaceId threadId : String}
    {system : TurnSystem} (balanced : system.Balanced workspaceId threadId)
    {key : Nat} {process : TurnProcess} {next : Option TurnProcess}
    (found : system.processes.lookup key = some process)
    (nothing : system.state.pendingOf threadId process.turn.turnId = [])
    (sameTurn : ∀ later, next = some later → later.turn = process.turn)
    (idle : ∀ later, next = some later → later.phase.isExecuting = false)
    (undrained : ∀ later, next = some later → later.phase ≠ .drained) :
    (system.moveTo key process ⟨system.state.abortThreadTurn process.turn,
      next, none⟩).Balanced workspaceId threadId := by
  have isLive := (balanced.processes key process found).1
  have current := balanced.currentTurnOf found
  have running := (balanced.live _ isLive).2
  have after : (system.state.abortThreadTurn process.turn).currentTurnOf
      threadId = ((system.state.threads process.turn.thread).abort
        process.turn.turnId).currentTurn := by
    simp [RuntimeState.currentTurnOf, RuntimeState.abortThreadTurn, isLive]
  have kept : ∀ turnId, turnId ≠ process.turn.turnId →
      ((system.state.abortThreadTurn process.turn).currentTurnOf
        threadId).filter (·.turnId == turnId) =
      (system.state.currentTurnOf threadId).filter (·.turnId == turnId) := by
    intro turnId different
    rw [after, current]
    unfold LiveThread.abort
    split
    next owns =>
      obtain ⟨active, isActive, isTurn⟩ : ∃ active,
          (system.state.threads process.turn.thread).currentTurn =
            some active ∧ active.turnId = process.turn.turnId := by
        simpa [LiveThread.ownsTurn, LiveThread.currentTurnId] using owns.2
      simp [isActive, isTurn, different.symm, Option.filter]
    next => rfl
  refine balanced.of_move (turnsShrink_abort ..) found sameTurn ?_ ?_ ?_ ?_
  · intro turnId different isCurrent
    obtain ⟨active, isActive, rfl⟩ := Option.map_eq_some_iff.mp isCurrent
    have same := kept active.turnId different
    have isFiltered : (some active).filter (·.turnId == active.turnId) =
        some active := by
      simp [Option.filter]
    rw [isActive, isFiltered] at same
    have isAfter := (Option.filter_eq_some_iff.mp same).1
    simp [isAfter]
  · intro later isLater isExecuting
    rw [idle later isLater] at isExecuting
    cases isExecuting
  · intro later isLater isDrained
    exact absurd isDrained (undrained later isLater)
  · intro turnId
    rw [balanced.waiting, moveTo]
    simp only [Option.map_none, Option.toList_none, List.append_nil]
    by_cases different : turnId = process.turn.turnId
    · subst different
      rw [nothing, pendingOf_eq_nil]
      intro active isActive
      rw [after] at isActive
      exact (LiveThread.currentTurn_abort isActive).2 running
    · rw [RuntimeState.pendingOf, RuntimeState.pendingOf, kept turnId different]

/-- What `next_message_or_finish` does on a running thread. -/
theorem nextMessageOrFinish_cases {thread after : LiveThread}
    {turnId : String} {message : Option String}
    (running : thread.lifecycle = .running)
    (next : thread.nextMessageOrFinish turnId = some (message, after)) :
    (message = none ∧ after = thread ∧
        ∀ active, thread.currentTurn = some active →
          active.turnId ≠ turnId) ∨
      ∃ active, thread.currentTurn = some active ∧ active.turnId = turnId ∧
        ((message = none ∧ active.pendingMessages = [] ∧
            after.currentTurn = none) ∨
          ∃ head rest, message = some head ∧
            active.pendingMessages = head :: rest ∧
            after.currentTurn =
              some { active with pendingMessages := rest }) := by
  simp only [LiveThread.nextMessageOrFinish, running] at next
  split at next
  next other =>
    cases next
    refine .inl ⟨rfl, rfl, fun active current isTurn => ?_⟩
    rw [current] at other
    simp [isTurn] at other
  next active isActive =>
    obtain ⟨current, isTurn⟩ := Option.filter_eq_some_iff.mp isActive
    refine .inr ⟨active, current, by simpa using isTurn, ?_⟩
    split at next
    next head rest pending =>
      cases next
      exact .inr ⟨head, rest, rfl, pending, rfl⟩
    next pending =>
      cases next
      exact .inl ⟨rfl, pending, rfl⟩

theorem currentTurnOf_setThread {state : RuntimeState} {threadId : String}
    {ref : ThreadRef}
    (isLive : state.liveThreads.lookup threadId = some ref)
    (thread : LiveThread) :
    (state.setThread ref thread).currentTurnOf threadId =
      thread.currentTurn := by
  simp [RuntimeState.currentTurnOf, isLive]

theorem pendingOf_eq {state : RuntimeState} {threadId : String}
    {active : ActiveThreadTurn}
    (current : state.currentTurnOf threadId = some active) (turnId : String) :
    state.pendingOf threadId turnId =
      if active.turnId = turnId then active.pendingMessages else [] := by
  by_cases same : active.turnId = turnId <;>
    simp [RuntimeState.pendingOf, current, same, Option.filter]

theorem Balanced.next {workspaceId threadId : String} {system : TurnSystem}
    (balanced : system.Balanced workspaceId threadId) {key : Nat}
    {process : TurnProcess} {moved : TurnMoved}
    (found : system.processes.lookup key = some process)
    (next : process.nextMessage system.state = some moved) :
    (system.moveTo key process moved).Balanced workspaceId threadId := by
  obtain ⟨⟨_, _⟩, isNext, rfl⟩ := Option.map_eq_some_iff.mp next
  obtain ⟨⟨message, after⟩, nextThread, isThread⟩ :=
    Option.map_eq_some_iff.mp isNext
  cases isThread
  have isLive := (balanced.processes key process found).1
  have current := balanced.currentTurnOf found
  have running := (balanced.live _ isLive).2
  have isAfter := currentTurnOf_setThread isLive after
  have shrinks := turnsShrink_setThread
    (LiveThread.nextMessageOrFinish_sameBuffer nextThread)
    fun active isCurrent =>
      (LiveThread.currentTurn_nextMessageOrFinish nextThread isCurrent).1
  dsimp only
  obtain ⟨rfl, rfl, other⟩ | ⟨active, wasCurrent, isTurn, ended | popped⟩ :=
    nextMessageOrFinish_cases running nextThread
  · -- The turn is no longer current: nothing changes.
    have same := isAfter.trans current.symm
    refine balanced.of_move shrinks found ?_ ?_ ?_ ?_ ?_
    · rintro later ⟨⟩
      rfl
    · intro turnId _ isCurrent
      rw [same]
      exact isCurrent
    · rintro later ⟨⟩ isExecuting
      cases isExecuting
    · rintro later ⟨⟩ _ isCurrent
      rw [isAfter] at isCurrent
      obtain ⟨active, isActive, isId⟩ := Option.map_eq_some_iff.mp isCurrent
      exact other active isActive isId
    · intro turnId
      rw [balanced.waiting, moveTo]
      simp [RuntimeState.pendingOf, same]
  · obtain ⟨rfl, nothing, isEnded⟩ := ended
    rw [isEnded] at isAfter
    have waited := pendingOf_eq (current.trans wasCurrent)
    refine balanced.of_move shrinks found ?_ ?_ ?_ ?_ ?_
    · rintro later ⟨⟩
      rfl
    · intro turnId different isCurrent
      rw [current, wasCurrent, Option.map_some, isTurn] at isCurrent
      exact absurd (Option.some.inj isCurrent).symm different
    · rintro later ⟨⟩ isExecuting
      cases isExecuting
    · rintro later ⟨⟩ _ isCurrent
      rw [isAfter] at isCurrent
      cases isCurrent
    · intro turnId
      rw [balanced.waiting, moveTo, waited]
      simp [RuntimeState.pendingOf, isAfter, nothing]
  · obtain ⟨head, rest, rfl, pending, isPopped⟩ := popped
    rw [isPopped] at isAfter
    have waited := pendingOf_eq (current.trans wasCurrent)
    have waits := pendingOf_eq isAfter
    have sameId : ((system.state.setThread process.turn.thread
        after).currentTurnOf threadId).map (·.turnId) =
        (system.state.currentTurnOf threadId).map (·.turnId) := by
      rw [isAfter, current, wasCurrent]
      rfl
    refine balanced.of_move shrinks found ?_ ?_ ?_ ?_ ?_
    · rintro later ⟨⟩
      rfl
    · intro turnId _ isCurrent
      rw [sameId]
      exact isCurrent
    · rintro later ⟨⟩ isExecuting
      cases isExecuting
    · rintro later ⟨⟩ isDrained
      cases isDrained
    · intro turnId
      rw [balanced.waiting, moveTo, waited, waits]
      simp only [Option.map_some, Option.toList_some, messagesOf_append,
        messagesOf_single, isTurn, pending]
      split <;> simp

theorem Balanced.advance {workspaceId threadId : String}
    {system after : TurnSystem}
    (balanced : system.Balanced workspaceId threadId) {key : Nat}
    {move : TurnMove}
    (keeps : LosesNothing threadId system (.move key move))
    (moved : system.advance workspaceId key move = some after) :
    after.Balanced workspaceId threadId := by
  obtain ⟨process, found, moved⟩ := Option.bind_eq_some_iff.mp moved
  obtain ⟨result, isMoved, rfl⟩ := Option.map_eq_some_iff.mp moved
  have isLive := (balanced.processes key process found).1
  have current := balanced.currentTurnOf found
  cases TurnProcess.move_turnStep isMoved with
  | quiet same active record undrained executing =>
      refine balanced.of_sameTurn (turnsShrink_of_sameThreads same) found ?_ rfl
        ?_ ?_ ?_
      · simp [RuntimeState.currentTurnOf, same.liveThreads, same.threads]
      · rintro later ⟨⟩
        rfl
      · rintro later ⟨⟩ isExecuting
        exact balanced.executing key process found (executing isExecuting)
      · rintro later ⟨⟩
        exact undrained
  | @bind state record nowMs bound =>
      obtain ⟨_, owns, rfl⟩ := bindThreadRun_bound bound
      have touched : TurnsShrink system.state
          (system.state.setThread process.turn.thread
            ((system.state.threads process.turn.thread).touch nowMs)) :=
        turnsShrink_setThread ⟨rfl, rfl, rfl⟩ fun active current =>
          ⟨active, current, rfl⟩
      refine balanced.of_sameTurn ⟨touched.liveThreads,
        touched.stoppingThreads, touched.workspaceId, touched.lifecycle,
        touched.currentTurn⟩ found ?_ rfl ?_ ?_ ?_
      · rw [current]
        exact currentTurnOf_setThread isLive _
      · rintro later ⟨⟩
        rfl
      · rintro later ⟨⟩ _
        rw [current]
        simpa [LiveThread.ownsTurn, LiveThread.currentTurnId] using owns
      · rintro later ⟨⟩
        simp [TurnProcess.enter]
  | unbind same held active undrained idle =>
      refine balanced.of_sameTurn (turnsShrink_of_sameThreads same) found ?_ rfl
        ?_ ?_ ?_
      · simp [RuntimeState.currentTurnOf, same.liveThreads, same.threads]
      · rintro later ⟨⟩
        rfl
      · rintro later ⟨⟩ isExecuting
        exact absurd (idle.symm.trans isExecuting) (by decide)
      · rintro later ⟨⟩
        exact undrained
  | abortStart unheld =>
      refine balanced.of_abort found
        (keeps.2 key process _ rfl (.inl rfl) found) ?_ ?_ ?_
      · rintro later ⟨⟩
        rfl
      · rintro later ⟨⟩
        rfl
      · rintro later ⟨⟩
        simp [TurnProcess.enter]
  | leave unheld isRequest =>
      refine balanced.of_abort found
        (keeps.2 key process _ rfl (.inr ⟨rfl, isRequest⟩) found) ?_ ?_ ?_
      · rintro later ⟨⟩
      · rintro later ⟨⟩
      · rintro later ⟨⟩
  | next unheld next => exact balanced.next found next
  | finish isDrained =>
      have ended := balanced.drained key process found isDrained
      refine balanced.of_abort found (pendingOf_eq_nil ?_) ?_ ?_ ?_
      · intro active isActive isTurn
        refine ended ?_
        rw [isActive, Option.map_some, isTurn]
      · rintro later ⟨⟩
      · rintro later ⟨⟩
      · rintro later ⟨⟩

/-- A message that waits behind the others of its turn. -/
theorem Balanced.steer {workspaceId threadId : String} {system : TurnSystem}
    (balanced : system.Balanced workspaceId threadId) {ref : ThreadRef}
    {active : ActiveThreadTurn}
    (live : system.state.liveThread workspaceId threadId = some ref)
    (current : (system.state.threads ref).currentTurn = some active)
    (message : String) (nowMs : UInt64) (used : List String)
    (kept : ∀ turnId ∈ system.usedTurns, turnId ∈ used) :
    { system with
      state := system.state.setThread ref
        ((system.state.threads ref).steer active message nowMs)
      usedTurns := used
      acknowledged := system.acknowledged ++ [(active.turnId, message)]
      }.Balanced workspaceId threadId := by
  have isLive := (RuntimeState.liveThread_eq_some_iff.mp live).1
  have wasCurrent : system.state.currentTurnOf threadId = some active := by
    simp [RuntimeState.currentTurnOf, isLive, current]
  have isCurrent := currentTurnOf_setThread isLive
    ((system.state.threads ref).steer active message nowMs)
  have sameId : ((system.state.setThread ref
      ((system.state.threads ref).steer active message nowMs)).currentTurnOf
        threadId).map (·.turnId) =
      (system.state.currentTurnOf threadId).map (·.turnId) := by
    rw [isCurrent, wasCurrent]
    rfl
  refine ⟨balanced.unstopped, ?_, ?_, balanced.distinct, ?_, ?_, ?_⟩
  · intro other isOther
    obtain rfl : ref = other := Option.some.inj (isLive.symm.trans isOther)
    simpa [LiveThread.steer, LiveThread.touch] using balanced.live ref isLive
  · intro key process found
    obtain ⟨onThread, isUsed, isKey⟩ := balanced.processes key process found
    exact ⟨onThread, kept _ isUsed, isKey⟩
  · rw [sameId]
    exact balanced.executing
  · rw [sameId]
    exact balanced.drained
  · intro turnId
    rw [messagesOf_append, balanced.waiting, pendingOf_eq wasCurrent,
      pendingOf_eq isCurrent, messagesOf_single]
    split <;> simp

/-- A turn that starts on an idle thread. -/
theorem Balanced.start {workspaceId threadId : String} {system : TurnSystem}
    (balanced : system.Balanced workspaceId threadId) {ref : ThreadRef}
    {base : RuntimeState}
    (isLive : base.liveThreads.lookup threadId = some ref)
    (workspace : (base.threads ref).workspaceId = workspaceId)
    (running : (base.threads ref).lifecycle = .running)
    (idle : system.state.currentTurnOf threadId = none)
    (onThread : ∀ key process, system.processes.lookup key = some process →
      base.liveThreads.lookup threadId = some process.turn.thread)
    {newTurnId : String} (fresh : newTurnId ∉ system.usedTurns)
    (controllerId : String) (nowMs : UInt64) :
    { system with
      state := base.setThread ref
        ((base.threads ref).startTurn newTurnId controllerId nowMs)
      usedTurns := newTurnId :: system.usedTurns
      processes := system.processes.insert system.nextProcess
        ⟨⟨threadId, newTurnId, ref⟩, false, .admitted⟩
      nextProcess := system.nextProcess + 1 }.Balanced workspaceId
        threadId := by
  have isCurrent := currentTurnOf_setThread isLive
    ((base.threads ref).startTurn newTurnId controllerId nowMs)
  have unused : ∀ key process, system.processes.lookup key = some process →
      process.turn.turnId ≠ newTurnId := by
    intro key process found isNew
    exact fresh (isNew ▸ (balanced.processes key process found).2.1)
  refine ⟨balanced.unstopped, ?_, ?_, ?_, ?_, ?_, ?_⟩
  · intro other isOther
    obtain rfl : ref = other := Option.some.inj (isLive.symm.trans isOther)
    simp [LiveThread.startTurn, LiveThread.touch, workspace, running]
  · intro key process found
    obtain ⟨rfl, rfl⟩ | ⟨_, isOld⟩ :=
      FiniteMap.lookup_insert_eq_some_iff.mp found
    · exact ⟨isLive, List.mem_cons_self, Nat.lt_succ_self _⟩
    · obtain ⟨_, isUsed, isKey⟩ := balanced.processes key process isOld
      exact ⟨onThread key process isOld, List.mem_cons_of_mem _ isUsed,
        Nat.lt_succ_of_lt isKey⟩
  · intro key process other rival isProcess isRival sameId
    obtain ⟨rfl, rfl⟩ | ⟨_, isOld⟩ :=
      FiniteMap.lookup_insert_eq_some_iff.mp isProcess
    · obtain ⟨rfl, _⟩ | ⟨_, rivalOld⟩ :=
        FiniteMap.lookup_insert_eq_some_iff.mp isRival
      · rfl
      · exact absurd sameId.symm (unused other rival rivalOld)
    · obtain ⟨rfl, rfl⟩ | ⟨_, rivalOld⟩ :=
        FiniteMap.lookup_insert_eq_some_iff.mp isRival
      · exact absurd sameId (unused key process isOld)
      · exact balanced.distinct key process other rival isOld rivalOld sameId
  · intro key process found isExecuting
    obtain ⟨_, rfl⟩ | ⟨_, isOld⟩ :=
      FiniteMap.lookup_insert_eq_some_iff.mp found
    · cases isExecuting
    · have wasCurrent := balanced.executing key process isOld isExecuting
      rw [idle] at wasCurrent
      cases wasCurrent
  · intro key process found isDrained isNew
    obtain ⟨_, rfl⟩ | ⟨_, isOld⟩ :=
      FiniteMap.lookup_insert_eq_some_iff.mp found
    · cases isDrained
    · rw [isCurrent] at isNew
      exact unused key process isOld (Option.some.inj isNew).symm
  · intro turnId
    rw [balanced.waiting, pendingOf_eq isCurrent]
    simp [RuntimeState.pendingOf, idle]

/-- A request that is refused uses up its turn identifier. -/
theorem Balanced.useTurn {workspaceId threadId : String} {system : TurnSystem}
    (balanced : system.Balanced workspaceId threadId) (newTurnId : String) :
    { system with
      usedTurns := newTurnId :: system.usedTurns }.Balanced workspaceId
        threadId := by
  refine ⟨balanced.unstopped, balanced.live, ?_, balanced.distinct,
    balanced.executing, balanced.drained, balanced.waiting⟩
  intro key process found
  obtain ⟨onThread, isUsed, isKey⟩ := balanced.processes key process found
  exact ⟨onThread, List.mem_cons_of_mem _ isUsed, isKey⟩

theorem Balanced.send {workspaceId threadId : String} {system : TurnSystem}
    (balanced : system.Balanced workspaceId threadId) (controllerId : String)
    (expectedTurnId : Option String) (message : String) {newTurnId : String}
    (fresh : newTurnId ∉ system.usedTurns) (nowMs : UInt64) :
    (system.send workspaceId threadId controllerId expectedTurnId message
      newTurnId nowMs).Balanced workspaceId threadId := by
  have sent := sendThread_sendStep workspaceId threadId system.state
    controllerId expectedTurnId message newTurnId nowMs
  unfold TurnSystem.send
  generalize system.state.sendThread workspaceId threadId controllerId
    expectedTurnId message newTurnId nowMs = result at sent ⊢
  obtain ⟨admission, after⟩ := result
  dsimp only at sent ⊢
  cases sent with
  | refused unstarted unsteered =>
      split
      · exact absurd rfl (unstarted _ _)
      · exact absurd rfl (unsteered _)
      · exact balanced.useTurn newTurnId
  | steered ref active live _ current =>
      exact balanced.steer live current message nowMs _
        fun _ isUsed => List.mem_cons_of_mem _ isUsed
  | started ref base isBase _ running idle =>
      obtain ⟨rfl, live⟩ | ⟨rfl, absent, rfl⟩ := isBase
      · obtain ⟨isLive, workspace⟩ :=
          RuntimeState.liveThread_eq_some_iff.mp live
        refine balanced.start isLive workspace running ?_ ?_ fresh
          controllerId nowMs
        · simp [RuntimeState.currentTurnOf, isLive, idle]
        · intro key process found
          exact (balanced.processes key process found).1
      · have unloaded : system.state.liveThreads.lookup threadId = none := by
          rw [Option.eq_none_iff_forall_ne_some]
          intro ref isLive
          have live := RuntimeState.liveThread_eq_some_iff.mpr
            ⟨isLive, (balanced.live ref isLive).1⟩
          rw [absent] at live
          cases live
        refine balanced.start (by simp) (by simp [LiveThread.new]) running ?_
          ?_ fresh controllerId nowMs
        · simp [RuntimeState.currentTurnOf, unloaded]
        · intro key process found
          have isLive := (balanced.processes key process found).1
          rw [unloaded] at isLive
          cases isLive

theorem Balanced.step {workspaceId threadId : String}
    {system after : TurnSystem}
    (balanced : system.Balanced workspaceId threadId) {action : TurnAction}
    (keeps : LosesNothing threadId system action)
    (stepped : system.step workspaceId threadId action = some after) :
    after.Balanced workspaceId threadId := by
  cases action with
  | send controllerId expectedTurnId message newTurnId nowMs =>
      rw [TurnSystem.step] at stepped
      split at stepped
      · cases stepped
      next fresh =>
        cases stepped
        exact balanced.send controllerId expectedTurnId message fresh nowMs
  | move key move => exact balanced.advance keeps stepped
  | requestCancel record =>
      rw [TurnSystem.step] at stepped
      split at stepped
      · cases stepped
        exact ⟨balanced.unstopped, balanced.live, balanced.processes,
          balanced.distinct, balanced.executing, balanced.drained,
          balanced.waiting⟩
      · cases stepped
  | beginStop => exact absurd rfl keeps.1
  | completeStop =>
      simp [TurnSystem.step, balanced.unstopped] at stepped
  | abortStop =>
      simp [TurnSystem.step, balanced.unstopped] at stepped

/-- In every run on a thread that is never stopped, in which no failed start
aborts a turn for which messages wait, acknowledged messages are returned to
their turn in order, all of them before the turn ends. -/
theorem steered_messages_delivered (workspaceId threadId : String)
    {start system : TurnSystem} (initial : start.Initial threadId)
    (reached : Reaches (step workspaceId threadId) (LosesNothing threadId)
      start system) :
    system.Delivers threadId := by
  have balanced : system.Balanced workspaceId threadId :=
    reached.invariant initial.balanced fun _ _ _ balanced keeps stepped =>
      balanced.step keeps stepped
  exact balanced.delivers

/-- A message is acknowledged for a turn whose first run then fails to
start. -/
theorem steered_message_lost :
    ¬ ∀ (workspaceId threadId : String) (start system : TurnSystem),
      start.Initial threadId →
      Reaches (step workspaceId threadId) NeverStopped start system →
      system.Delivers threadId := by
  intro delivers
  have sent := (Reaches.start : Reaches (step "workspace" "thread")
    NeverStopped unused unused).next (show NeverStopped _
      (.send "controller" none "hello" "turn" 0) by simp [NeverStopped]) rfl
  have steered := sent.next (show NeverStopped _
    (.send "controller" (some "turn") "more" "turn2" 0) by
      simp [NeverStopped]) rfl
  have started := steered.next (show NeverStopped _ (.move 0 .startRun) by
    simp [NeverStopped]) rfl
  have failed := started.next (show NeverStopped _ (.move 0 .failStart) by
    simp [NeverStopped]) rfl
  have left := failed.next (show NeverStopped _ (.move 0 .leave) by
    simp [NeverStopped]) rfl
  have lost := (delivers "workspace" "thread" _ _ (unused_initial _)
    left).waiting "turn"
  exact absurd lost (by decide)

/-- A message is acknowledged and returned. -/
theorem steered_message_returned :
    ∃ system, Reaches (step "workspace" "thread") (LosesNothing "thread")
        unused system ∧
      system.delivered = [("turn", "more")] ∧ system.Delivers "thread" := by
  have other : ∀ (system : TurnSystem) (action : TurnAction),
      action ≠ .beginStop → (∀ key, action ≠ .move key .abortStart) →
      (∀ key, action ≠ .move key .leave) →
      LosesNothing "thread" system action := by
    intro system action unstopped noAbort noLeave
    refine ⟨unstopped, ?_⟩
    rintro key process move rfl (rfl | ⟨rfl, _⟩)
    · exact absurd rfl (noAbort key)
    · exact absurd rfl (noLeave key)
  have sent := (Reaches.start : Reaches (step "workspace" "thread")
    (LosesNothing "thread") unused unused).next
      (other _ (.send "controller" none "hello" "turn" 0) (by simp) (by simp)
        (by simp)) rfl
  have steered := sent.next (other _
    (.send "controller" (some "turn") "more" "turn2" 0) (by simp) (by simp)
      (by simp)) rfl
  have started := steered.next (other _ (.move 0 .startRun) (by simp) (by simp)
    (by simp)) rfl
  have reserved := started.next (other _ (.move 0 (.reserve "run" "session"))
    (by simp) (by simp) (by simp)) rfl
  have bound := reserved.next (other _ (.move 0 (.bind 0)) (by simp) (by simp)
    (by simp)) rfl
  have launched := bound.next (other _ (.move 0 .launch) (by simp) (by simp)
    (by simp)) rfl
  have ended := launched.next (other _ (.move 0 (.endRun .finished)) (by simp)
    (by simp) (by simp)) rfl
  have retired := ended.next (other _ (.move 0 .retire) (by simp) (by simp)
    (by simp)) rfl
  have returned := retired.next (other _ (.move 0 .nextMessage) (by simp)
    (by simp) (by simp)) rfl
  exact ⟨_, returned, rfl, steered_messages_delivered "workspace" "thread"
    (unused_initial _) returned⟩

end TurnSystem

end PlatoAgent
