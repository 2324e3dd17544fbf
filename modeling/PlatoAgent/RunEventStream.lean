import PlatoAgent.ActionRuns
import PlatoAgent.DaemonRuntime
import PlatoAgent.LedgerJsonl
import PlatoAgent.RunLedgerShape

/-!
# Streams of run events

One client polls `events.stream` for a run and goes on from the offset of its
last page.  While the runtime holds the run, a page comes from the buffer of
the run, which numbers every event that was pushed; afterwards it comes from
the ledger of the run, which numbers its records alone.  A record reaches the
ledger first and the buffer later, and the call between the two can fail.
-/

namespace PlatoAgent

def defaultEventLimit : Nat :=
  64

def maxEventLimit : Nat :=
  128

structure EventsStreamResult where
  runId : String
  fromOffset : Nat
  nextOffset : Nat
  status : RunStateName
  events : List (Buffered StreamEvent)

inductive EventsStreamReply where
  | page (result : EventsStreamResult)
  /-- The requested offset is no longer buffered. -/
  | lagged (fromOffset firstOffset : Nat)

/-- What the supervisor sends to the event collector. -/
inductive RunEvent where
  | ledger (record : RecordedEvent)
  | assistantDelta (turnId : String) (step : UInt32) (deltaIndex : UInt64)
      (text : String)

/-- `push_recorded_event` and `push_assistant_delta`. -/
def RunEvent.streamed (runId : String) : RunEvent → StreamEvent
  | .ledger record => .ledger record
  | .assistantDelta turnId step deltaIndex text =>
      .assistantDelta runId turnId step deltaIndex text

def StreamEvent.record? : StreamEvent → Option RecordedEvent
  | .ledger record => some record
  | .assistantDelta .. | .approvalRequested .. | .canceled _ => none

def RunEvent.record? : RunEvent → Option RecordedEvent
  | .ledger record => some record
  | .assistantDelta .. => none

/-- The ledger records among the events. -/
def streamedRecords (events : List StreamEvent) : List RecordedEvent :=
  events.filterMap StreamEvent.record?

/-- `RunRecord::push_event`. -/
def RuntimeState.pushEvent (state : RuntimeState) (ref : RunRef)
    (event : StreamEvent) (nowMs : UInt64) : RuntimeState :=
  let record := state.records ref
  let pushed := state.setRecord ref
    { record with events := record.events.push maxEventBuffer event }
  match record.threadTurn with
  | none => pushed
  | some turn =>
      pushed.setThread turn.thread
        ((pushed.threads turn.thread).publish turn.turnId event nowMs)

/-- The first accepted `request_cancel`. -/
def RuntimeState.requestCancel (state : RuntimeState) (ref : RunRef)
    (nowMs : UInt64) : Option RuntimeState :=
  if (state.records ref).state = .running then
    some ((state.endRun ref .cancelRequested).pushEvent ref
      (.canceled (state.records ref).runId) nowMs)
  else none

/-- `handle_events_stream` for a run that was found. -/
def RunRecord.eventsStream (record : RunRecord) (fromOffset : Option Nat)
    (limit : Nat) : EventsStreamReply :=
  let fromOffset := fromOffset.getD record.events.nextOffset
  if fromOffset < record.events.firstOffset then
    .lagged fromOffset record.events.firstOffset
  else
    let events := record.events.page fromOffset limit
    .page
      { runId := record.runId
        fromOffset := fromOffset
        nextOffset := fromOffset + events.length
        status := record.state
        events := events }

/-- `durable_events_stream`, for the records and the status of the run's row. -/
def durableEventsStream (runId : String) (status : RunStateName)
    (records : List RecordedEvent) (fromOffset : Option Nat) (limit : Nat) :
    EventsStreamResult :=
  let fromOffset := fromOffset.getD records.length
  let events := numbered fromOffset
    (((records.drop fromOffset).take limit).map .ledger)
  { runId := runId
    fromOffset := fromOffset
    nextOffset := fromOffset + events.length
    status := status
    events := events }

/-- A client, with the request that it waits for: its limit and the run that
was found. -/
structure StreamClient where
  offset : Nat
  events : List StreamEvent
  lagged : Bool
  /-- The last page was not full and its run had ended. -/
  finished : Bool
  asked : Option (Nat × Option RunRef)

namespace StreamClient

def new : StreamClient :=
  ⟨0, [], false, false, none⟩

def records (client : StreamClient) : List RecordedEvent :=
  streamedRecords client.events

def receive (client : StreamClient) (limit : Nat) :
    EventsStreamReply → StreamClient
  | .page result =>
      { client with
        offset := result.nextOffset
        events := client.events ++ result.events.map (·.event)
        finished := !result.status.isActive &&
          decide (result.events.length < limit)
        asked := none }
  | .lagged _ _ => { client with lagged := true, asked := none }

end StreamClient

/-- One run with its ledger, the events on their way to its buffer, and a client
that streams it. -/
structure StreamSystem where
  state : RuntimeState
  /-- The recorder of the run. -/
  run : RunState
  records : List RecordedEvent
  /-- The last record, until it is sent. -/
  unsent : Option RecordedEvent
  collecting : List RunEvent
  /-- The collector takes events. -/
  collects : Bool
  retired : Bool
  client : StreamClient

/-- What other runs do. -/
inductive OtherRunAction where
  | reserve (runId sessionId : String) (turn : Option ThreadTurnBinding)
      (profile : Option ApprovalProfile)
  | push (other : RunRef) (event : StreamEvent) (nowMs : UInt64)
  | endRun (other : RunRef) (status : RunStateName)
  | retire (other : RunRef)
  | release (other : RunRef)

inductive StreamAction where
  /-- A record reaches the ledger. -/
  | record (record : RecordedEvent)
  /-- It is sent to the collector. -/
  | send
  /-- The record of a terminal event is pushed when the collector has ended. -/
  | publish (nowMs : UInt64)
  /-- The call that wrote the record fails: the collector is closed, or the
  outcome of the session cannot be stored. -/
  | abandon
  | assistantDelta (turnId : String) (step : UInt32) (deltaIndex : UInt64)
      (text : String)
  | collect (nowMs : UInt64)
  /-- The collector is joined, or panics with what it has not taken yet. -/
  | endCollector
  | requestApproval (event : StreamEvent) (nowMs : UInt64)
  | requestCancel (nowMs : UInt64)
  | endRun (status : RunStateName)
  | retire
  | other (action : OtherRunAction)
  | ask (limit : Option Nat)
  /-- The answer; the status is that of the row of the run. -/
  | answer (rowStatus : RunStateName)

namespace StreamSystem

def start (state : RuntimeState) : StreamSystem :=
  ⟨state, .new, [], none, [], true, false, .new⟩

/-- The records on their way to the buffer. -/
def underway (system : StreamSystem) : List RecordedEvent :=
  system.collecting.filterMap RunEvent.record? ++ system.unsent.toList

/-- Other runs have other records and other ids. -/
def others (system : StreamSystem) (ref : RunRef) (runId : String)
    (other : RunRef) : Prop :=
  other ≠ ref ∧ (system.state.records other).runId ≠ runId

instance (system : StreamSystem) (ref : RunRef) (runId : String)
    (other : RunRef) : Decidable (system.others ref runId other) :=
  inferInstanceAs (Decidable (_ ∧ _))

def otherStep (ref : RunRef) (runId : String) (system : StreamSystem) :
    OtherRunAction → Option RuntimeState
  | .reserve otherId sessionId turn profile =>
      if otherId = runId then none
      else
        let made := system.state.newRecord otherId sessionId turn
        match made.2.reserveRunWithProfile made.1 profile with
        | .error _ => some made.2
        | .ok reserved => some reserved
  | .push other event nowMs =>
      if system.others ref runId other then
        some (system.state.pushEvent other event nowMs)
      else none
  | .endRun other status =>
      if system.others ref runId other then
        some (system.state.endRun other status)
      else none
  | .retire other =>
      if system.others ref runId other then
        some (system.state.retireRun other)
      else none
  | .release other =>
      if system.others ref runId other then
        some (system.state.releaseRunReservation other)
      else none

/-- The reply to the request that the client waits for. -/
def reply (runId : String) (system : StreamSystem) (rowStatus : RunStateName)
    (limit : Nat) : Option RunRef → EventsStreamReply
  | some found =>
      (system.state.records found).eventsStream (some system.client.offset)
        limit
  | none =>
      .page (durableEventsStream runId rowStatus system.records
        (some system.client.offset) limit)

def step (ref : RunRef) (runId : String) (system : StreamSystem) :
    StreamAction → Option StreamSystem
  | .record record =>
      if system.state.runIsActive ref ∧ system.unsent.isNone then
        (system.run.next record).toOption.map fun run =>
          { system with
            run := run
            records := system.records ++ [record]
            unsent := some record }
      else none
  | .send =>
      if system.collects then
        system.unsent.map fun record =>
          { system with
            unsent := none
            collecting := system.collecting ++ [.ledger record] }
      else none
  | .publish nowMs =>
      if system.collects then none
      else
        (system.unsent.filter (·.event.isRunEnd)).map fun record =>
          { system with
            state := system.state.pushEvent ref (.ledger record) nowMs
            unsent := none }
  | .abandon => some { system with unsent := none }
  | .assistantDelta turnId step deltaIndex text =>
      if system.state.runIsActive ref ∧ system.collects then
        some { system with
          collecting := system.collecting ++
            [.assistantDelta turnId step deltaIndex text] }
      else none
  | .collect nowMs =>
      match system.collecting with
      | [] => none
      | event :: rest =>
          some { system with
            state := system.state.pushEvent ref (event.streamed runId) nowMs
            collecting := rest }
  | .endCollector =>
      some { system with collecting := [], collects := false }
  | .requestApproval event nowMs =>
      if event.record?.isNone then
        some { system with
          state := system.state.pushEvent ref event nowMs }
      else none
  | .requestCancel nowMs =>
      (system.state.requestCancel ref nowMs).map fun state =>
        { system with state := state }
  | .endRun status =>
      -- The collector has ended, and the last record was pushed or abandoned.
      if system.state.runIsActive ref ∧ !system.collects ∧
          system.unsent.isNone ∧ !status.isActive then
        some { system with state := system.state.endRun ref status }
      else none
  | .retire =>
      if !system.state.runIsActive ref ∧ !system.retired then
        some { system with
          state := system.state.retireRun ref
          retired := true }
      else none
  | .other action =>
      (system.otherStep ref runId action).map fun state =>
        { system with state := state }
  | .ask limit =>
      let limit := limit.getD defaultEventLimit
      if system.client.asked.isSome ∨ system.client.lagged ∨
          maxEventLimit < limit then
        -- A larger limit is refused and changes nothing.
        none
      else
        some { system with
          client := { system.client with
            asked := some (limit, system.state.runs.lookup runId) } }
  | .answer rowStatus =>
      system.client.asked.map fun asked =>
        { system with
          client := system.client.receive asked.1
            (system.reply runId rowStatus asked.1 asked.2) }

/-- A page comes from the ledger only for a client that was sent nothing but
records, or all of them. -/
def CleanSwitch (system : StreamSystem) (action : StreamAction) : Prop :=
  ∀ rowStatus limit, action = .answer rowStatus →
    system.client.asked = some (limit, none) →
    (∀ event ∈ system.client.events, event.record?.isSome = true) ∨
      system.client.records = system.records

/-- Every record of the ledger reaches the buffer. -/
def KeepsRecords (system : StreamSystem) : StreamAction → Prop
  | .abandon => system.unsent = none
  | .endCollector => system.collecting.filterMap RunEvent.record? = []
  | _ => True

/-- The steps that the stream survives. -/
def Exact (system : StreamSystem) (action : StreamAction) : Prop :=
  system.KeepsRecords action ∧ system.CleanSwitch action

end StreamSystem

section Frames

variable {state after : RuntimeState} {ref other : RunRef} {runId : String}

/-- The run is as before, or it was evicted. -/
structure SameRun (ref : RunRef) (runId : String)
    (state after : RuntimeState) : Prop where
  record : after.records ref = state.records ref
  nextRecord : state.nextRecord ≤ after.nextRecord
  runs : after.runs.lookup runId = state.runs.lookup runId ∨
    after.runs.lookup runId = none ∧ runId ∈ state.terminalRuns
  terminalRuns : runId ∈ after.terminalRuns → runId ∈ state.terminalRuns

theorem SameRun.isActive (same : SameRun ref runId state after) :
    after.runIsActive ref = state.runIsActive ref := by
  unfold RuntimeState.runIsActive
  rw [same.record]

/-- Only the record of the run may have changed. -/
structure SameRuns (state after : RuntimeState) : Prop where
  nextRecord : after.nextRecord = state.nextRecord
  runs : after.runs = state.runs
  terminalRuns : after.terminalRuns = state.terminalRuns

theorem pushEvent_runs (state : RuntimeState) (ref : RunRef)
    (event : StreamEvent) (nowMs : UInt64) :
    SameRuns state (state.pushEvent ref event nowMs) := by
  unfold RuntimeState.pushEvent
  dsimp only
  split <;> exact ⟨rfl, rfl, rfl⟩

theorem pushEvent_records (state : RuntimeState) (ref : RunRef)
    (event : StreamEvent) (nowMs : UInt64) :
    (state.pushEvent ref event nowMs).records =
      Function.update state.records ref
        { state.records ref with
          events := (state.records ref).events.push maxEventBuffer event } := by
  unfold RuntimeState.pushEvent
  dsimp only
  split <;> rfl

theorem SameRun.pushEvent (different : other ≠ ref) (event : StreamEvent)
    (nowMs : UInt64) :
    SameRun ref runId state (state.pushEvent other event nowMs) := by
  have same := pushEvent_runs state other event nowMs
  refine ⟨?_, same.nextRecord.ge, .inl (by rw [same.runs]), ?_⟩
  · rw [pushEvent_records, Function.update_of_ne different.symm]
  · rw [same.terminalRuns]
    exact id

theorem SameRun.endRun (different : other ≠ ref) (status : RunStateName) :
    SameRun ref runId state (state.endRun other status) :=
  ⟨Function.update_of_ne different.symm _ _, le_rfl, .inl rfl, id⟩

theorem lookup_eraseAll {runs : FiniteMap String RunRef}
    (evicted : List String) :
    (evicted.foldl (fun runs runId => runs.erase runId) runs).lookup runId =
      if runId ∈ evicted then none else runs.lookup runId := by
  induction evicted generalizing runs with
  | nil => rfl
  | cons first rest ih =>
      rw [List.foldl_cons, ih]
      by_cases isFirst : runId = first
      · subst isFirst
        simp
      · rw [AList.lookup_erase_ne isFirst]
        simp [isFirst]

theorem lookup_retireRun (state : RuntimeState) (other : RunRef) :
    (state.retireRun other).runs.lookup runId =
        state.runs.lookup runId ∨
      (state.retireRun other).runs.lookup runId = none ∧
        (runId ∈ state.terminalRuns ∨
          (state.records other).runId = runId) := by
  have looked : (state.retireRun other).runs.lookup runId = _ :=
    lookup_eraseAll _
  rw [looked]
  split
  next evicted =>
    have member := List.mem_of_mem_take evicted
    rcases List.mem_append.mp member with earlier | new
    · exact .inr ⟨rfl, .inl earlier⟩
    · exact .inr ⟨rfl, .inr (List.mem_singleton.mp new).symm⟩
  next => exact .inl rfl

theorem mem_retireRun (state : RuntimeState) (other : RunRef)
    (member : runId ∈ (state.retireRun other).terminalRuns) :
    runId ∈ state.terminalRuns ∨ (state.records other).runId = runId := by
  rcases List.mem_append.mp (List.mem_of_mem_drop member) with earlier | new
  · exact .inl earlier
  · exact .inr (List.mem_singleton.mp new).symm

theorem SameRun.retireRun
    (otherId : (state.records other).runId ≠ runId) :
    SameRun ref runId state (state.retireRun other) := by
  refine ⟨rfl, le_rfl, ?_, ?_⟩
  · rcases lookup_retireRun state other with same | ⟨gone, isTerminal | own⟩
    · exact .inl same
    · exact .inr ⟨gone, isTerminal⟩
    · exact absurd own otherId
  · intro member
    rcases mem_retireRun state other member with earlier | own
    · exact earlier
    · exact absurd own otherId

theorem SameRun.release
    (otherId : (state.records other).runId ≠ runId) :
    SameRun ref runId state (state.releaseRunReservation other) := by
  refine ⟨rfl, le_rfl, .inl ?_, id⟩
  unfold RuntimeState.releaseRunReservation
  dsimp only
  split
  · exact AList.lookup_erase_ne otherId.symm
  · rfl

theorem SameRun.newRecord (fresh : ref < state.nextRecord)
    (otherId sessionId : String) (turn : Option ThreadTurnBinding) :
    SameRun ref runId state (state.newRecord otherId sessionId turn).2 :=
  ⟨Function.update_of_ne (Nat.ne_of_lt fresh) _ _, Nat.le_succ _, .inl rfl,
    id⟩

theorem SameRun.reserve {profile : Option ApprovalProfile}
    (different : (state.records other).runId ≠ runId)
    (reserved : state.reserveRunWithProfile other profile = .ok after) :
    SameRun ref runId state after := by
  unfold RuntimeState.reserveRunWithProfile at reserved
  split at reserved
  · cases reserved
  · split at reserved
    · cases reserved
    · cases reserved
      exact ⟨rfl, le_rfl, .inl (AList.lookup_insert_ne different.symm), id⟩

theorem SameRun.trans {middle : RuntimeState}
    (first : SameRun ref runId state middle)
    (second : SameRun ref runId middle after) :
    SameRun ref runId state after := by
  refine ⟨second.record.trans first.record,
    first.nextRecord.trans second.nextRecord, ?_,
    fun member => first.terminalRuns (second.terminalRuns member)⟩
  rcases second.runs with same | ⟨gone, isTerminal⟩
  · rcases first.runs with still | ⟨gone, isTerminal⟩
    · exact .inl (same.trans still)
    · exact .inr ⟨same.trans gone, isTerminal⟩
  · exact .inr ⟨gone, first.terminalRuns isTerminal⟩

theorem StreamSystem.otherStep_sameRun {system : StreamSystem}
    {action : OtherRunAction} (fresh : ref < system.state.nextRecord)
    (stepped : system.otherStep ref runId action = some after) :
    SameRun ref runId system.state after := by
  cases action with
  | reserve otherId sessionId turn profile =>
      unfold otherStep at stepped
      dsimp only at stepped
      split at stepped
      · cases stepped
      next different =>
        have made := @SameRun.newRecord _ ref runId fresh otherId sessionId turn
        split at stepped
        · cases stepped
          exact made
        next reserved isReserved =>
          cases stepped
          refine made.trans (.reserve ?_ isReserved)
          rw [show ((system.state.newRecord otherId sessionId turn).2.records
            (system.state.newRecord otherId sessionId turn).1).runId = otherId
              from by simp [RuntimeState.newRecord]]
          exact different
  | push other event nowMs =>
      obtain ⟨isOther, ⟨⟩⟩ := Option.ite_none_right_eq_some.mp stepped
      exact .pushEvent isOther.1 event nowMs
  | endRun other status =>
      obtain ⟨isOther, ⟨⟩⟩ := Option.ite_none_right_eq_some.mp stepped
      exact .endRun isOther.1 status
  | retire other =>
      obtain ⟨isOther, ⟨⟩⟩ := Option.ite_none_right_eq_some.mp stepped
      exact .retireRun isOther.2
  | release other =>
      obtain ⟨isOther, ⟨⟩⟩ := Option.ite_none_right_eq_some.mp stepped
      exact .release isOther.2

end Frames

theorem streamedRecords_append (events later : List StreamEvent) :
    streamedRecords (events ++ later) =
      streamedRecords events ++ streamedRecords later :=
  List.filterMap_append

/-- Events that are all records are as many as their records. -/
theorem length_streamedRecords {events : List StreamEvent}
    (only : ∀ event ∈ events, event.record?.isSome = true) :
    (streamedRecords events).length = events.length := by
  induction events with
  | nil => rfl
  | cons event rest ih =>
      obtain ⟨record, isRecord⟩ := Option.isSome_iff_exists.mp
        (only event List.mem_cons_self)
      have restOnly := ih fun other member =>
        only other (List.mem_cons_of_mem _ member)
      rw [streamedRecords, List.filterMap_cons_some isRecord, List.length_cons,
        List.length_cons]
      exact congrArg (· + 1) restOnly

theorem streamedRecords_map_ledger (records : List RecordedEvent) :
    streamedRecords (records.map .ledger) = records := by
  induction records with
  | nil => rfl
  | cons record rest ih =>
      exact congrArg (record :: ·) ih

namespace StreamClient

/-- The offset counts the pushed events. -/
def ReadsLive (client : StreamClient) (log : List StreamEvent) : Prop :=
  client.events = log.take client.offset ∧ client.offset ≤ log.length

/-- The offset counts the records, or there are none left. -/
def ReadsLedger (client : StreamClient) (records : List RecordedEvent) :
    Prop :=
  ((∀ event ∈ client.events, event.record?.isSome = true) ∧
    client.records = records.take client.offset ∧
    client.offset ≤ records.length) ∨
  client.records = records ∧ records.length ≤ client.offset

variable {client : StreamClient} {log : List StreamEvent}
variable {records : List RecordedEvent}

theorem ReadsLive.push (reads : client.ReadsLive log) (event : StreamEvent) :
    client.ReadsLive (log ++ [event]) := by
  obtain ⟨events, bound⟩ := reads
  refine ⟨?_, ?_⟩
  · rw [List.take_append_of_le_length bound]
    exact events
  · rw [List.length_append]
    omega

theorem ReadsLive.isPrefix (reads : client.ReadsLive log) :
    client.records <+: streamedRecords log := by
  refine ⟨streamedRecords (log.drop client.offset), ?_⟩
  rw [records, reads.1, ← streamedRecords_append, List.take_append_drop]

theorem ReadsLedger.isPrefix (reads : client.ReadsLedger records) :
    client.records <+: records := by
  rcases reads with ⟨_, taken, _⟩ | ⟨all, _⟩
  · rw [taken]
    exact List.take_prefix _ _
  · rw [all]

theorem take_append_page {Event : Type} (log : List Event)
    (offset limit : Nat) :
    log.take offset ++ (log.drop offset).take limit =
      log.take (offset + ((log.drop offset).take limit).length) := by
  rw [List.take_add]
  exact congrArg _ (List.prefix_iff_eq_take.mp (List.take_prefix _ _))

/-- A page of the buffer; after a page that is not full, nothing is left. -/
theorem ReadsLive.receive (reads : client.ReadsLive log) {limit : Nat}
    {result : EventsStreamResult}
    (events : result.events =
      numbered client.offset ((log.drop client.offset).take limit))
    (next : result.nextOffset = client.offset + result.events.length) :
    (client.receive limit (.page result)).ReadsLive log ∧
      (result.events.length < limit →
        (client.receive limit (.page result)).records = streamedRecords log) := by
  have read : (client.receive limit (.page result)).events =
      log.take result.nextOffset := by
    unfold StreamClient.receive
    dsimp only
    rw [next, events, map_event_numbered, length_numbered, reads.1,
      take_append_page]
  have count : result.events.length =
      min limit (log.length - client.offset) := by
    rw [events, length_numbered, List.length_take, List.length_drop]
  have bound := reads.2
  refine ⟨⟨read, ?_⟩, ?_⟩
  · change result.nextOffset ≤ log.length
    omega
  · intro short
    rw [records, read, List.take_of_length_le]
    omega

/-- The switch from the buffer to the ledger. -/
theorem ReadsLive.switch (reads : client.ReadsLive log)
    (clean : (∀ event ∈ client.events, event.record?.isSome = true) ∨
      client.records = streamedRecords log) :
    client.ReadsLedger (streamedRecords log) := by
  have count : client.events.length = client.offset := by
    rw [reads.1, List.length_take]
    exact min_eq_left reads.2
  have split : streamedRecords log =
      client.records ++ streamedRecords (log.drop client.offset) := by
    rw [records, reads.1, ← streamedRecords_append, List.take_append_drop]
  rcases clean with only | all
  · have length : client.records.length = client.offset :=
      (length_streamedRecords only).trans count
    refine .inl ⟨only, ?_, ?_⟩
    · rw [split, List.take_left' length]
    · rw [split, List.length_append]
      omega
  · refine .inr ⟨all, ?_⟩
    rw [← all, ← count]
    exact List.length_filterMap_le _ _

/-- A page of the ledger; after a page that is not full, nothing is left. -/
theorem ReadsLedger.receive (reads : client.ReadsLedger records)
    {limit : Nat} {result : EventsStreamResult}
    (events : result.events = numbered client.offset
      (((records.drop client.offset).take limit).map .ledger))
    (next : result.nextOffset = client.offset + result.events.length) :
    (client.receive limit (.page result)).ReadsLedger records ∧
      (result.events.length < limit →
        (client.receive limit (.page result)).records = records) := by
  have count : result.events.length =
      min limit (records.length - client.offset) := by
    rw [events, length_numbered, List.length_map, List.length_take,
      List.length_drop]
  have received : (client.receive limit (.page result)).events =
      client.events ++
        ((records.drop client.offset).take limit).map .ledger := by
    unfold StreamClient.receive
    dsimp only
    rw [events, map_event_numbered]
  have read : (client.receive limit (.page result)).records =
      client.records ++ (records.drop client.offset).take limit := by
    rw [StreamClient.records, received, streamedRecords_append,
      streamedRecords_map_ledger]
    rfl
  have offset : (client.receive limit (.page result)).offset =
      result.nextOffset := rfl
  rcases reads with ⟨only, taken, bound⟩ | ⟨all, bound⟩
  · have readAll : (client.receive limit (.page result)).records =
        records.take result.nextOffset := by
      rw [read, taken, take_append_page, next, count, List.length_take,
        List.length_drop]
    refine ⟨.inl ⟨?_, readAll, ?_⟩, ?_⟩
    · rw [received]
      intro event member
      rcases List.mem_append.mp member with earlier | new
      · exact only event earlier
      · obtain ⟨record, _, rfl⟩ := List.mem_map.mp new
        rfl
    · rw [offset]
      omega
    · intro short
      rw [readAll, List.take_of_length_le]
      omega
  · have readAll : (client.receive limit (.page result)).records =
        records := by
      rw [read, all, List.drop_eq_nil_of_le bound, List.take_nil,
        List.append_nil]
    refine ⟨.inr ⟨readAll, ?_⟩, fun _ => readAll⟩
    rw [offset]
    omega

end StreamClient

/-- The runtime and the client have no pointer to the run any more. -/
structure StreamSystem.Gone (runId : String) (system : StreamSystem) :
    Prop where
  evicted : system.state.runs.lookup runId = none
  unasked : ∀ limit other, system.client.asked ≠ some (limit, some other)

/-- The pushed events and those underway are records of the ledger.  In an exact
run they account for all of them, and the client has read a part. -/
structure StreamLog (exact : Prop) (ref : RunRef) (runId : String)
    (system : StreamSystem) (log : List StreamEvent) : Prop where
  logs : (system.state.records ref).events.Logs log
  recorded : ∀ record ∈ streamedRecords log ++ system.underway,
    record ∈ system.records
  records : exact → streamedRecords log ++ system.underway = system.records
  reads : exact → system.client.ReadsLive log ∨
    system.Gone runId ∧ system.client.ReadsLedger system.records

/-- The runtime holds the run until it is retired. -/
structure HeldRun (ref : RunRef) (runId : String) (state : RuntimeState)
    (retired : Bool) : Prop where
  fresh : ref < state.nextRecord
  ownId : (state.records ref).runId = runId
  present : state.runs.lookup runId = some ref ∨
    state.runs.lookup runId = none ∧ retired = true
  terminal : runId ∈ state.terminalRuns → retired = true
  ended : retired = true → state.runIsActive ref = false

structure StreamInvariant (exact : Prop) (ref : RunRef) (runId : String)
    (system : StreamSystem) : Prop where
  held : HeldRun ref runId system.state system.retired
  replayed : RunState.replay system.records = .ok system.run
  collected : system.collects = false → system.collecting = []
  settled : system.state.runIsActive ref = false →
    system.collects = false ∧ system.unsent = none
  found : ∀ limit other, system.client.asked = some (limit, some other) →
    other = ref
  missing : ∀ limit, system.client.asked = some (limit, none) →
    system.state.runs.lookup runId = none
  finished : exact → system.client.finished = true →
    system.state.runIsActive ref = false ∧
      system.client.records = system.records
  log : ∃ log, StreamLog exact ref runId system log

section HeldRun

variable {ref : RunRef} {runId : String} {state after : RuntimeState}
  {retired : Bool}

theorem HeldRun.unretired (held : HeldRun ref runId state retired)
    (isActive : state.runIsActive ref = true) : retired = false := by
  by_contra isRetired
  have ended := held.ended (by simpa using isRetired)
  rw [isActive] at ended
  cases ended

theorem HeldRun.retired_of_evicted (held : HeldRun ref runId state retired)
    (evicted : state.runs.lookup runId = none) : retired = true := by
  rcases held.present with present | ⟨_, isRetired⟩
  · cases evicted.symm.trans present
  · exact isRetired

theorem record_pushEvent (state : RuntimeState) (ref : RunRef)
    (event : StreamEvent) (nowMs : UInt64) :
    (state.pushEvent ref event nowMs).records ref =
      { state.records ref with
        events := (state.records ref).events.push maxEventBuffer event } := by
  rw [pushEvent_records, Function.update_self]

theorem runIsActive_pushEvent (state : RuntimeState) (ref : RunRef)
    (event : StreamEvent) (nowMs : UInt64) :
    (state.pushEvent ref event nowMs).runIsActive ref =
      state.runIsActive ref := by
  unfold RuntimeState.runIsActive
  rw [record_pushEvent]

theorem HeldRun.push (held : HeldRun ref runId state retired)
    (event : StreamEvent) (nowMs : UInt64) :
    HeldRun ref runId (state.pushEvent ref event nowMs) retired := by
  have runs := pushEvent_runs state ref event nowMs
  refine ⟨?_, ?_, ?_, ?_, ?_⟩
  · rw [runs.nextRecord]
    exact held.fresh
  · rw [record_pushEvent]
    exact held.ownId
  · rw [runs.runs]
    exact held.present
  · rw [runs.terminalRuns]
    exact held.terminal
  · rw [runIsActive_pushEvent]
    exact held.ended

theorem record_endRun (state : RuntimeState) (ref : RunRef)
    (status : RunStateName) :
    (state.endRun ref status).records ref =
      { state.records ref with state := status } :=
  Function.update_self ..

theorem HeldRun.endRun (held : HeldRun ref runId state retired)
    (isActive : state.runIsActive ref = true) (status : RunStateName) :
    HeldRun ref runId (state.endRun ref status) retired := by
  refine ⟨held.fresh, ?_, held.present, held.terminal, fun isRetired => ?_⟩
  · rw [record_endRun]
    exact held.ownId
  · cases (held.unretired isActive).symm.trans isRetired

theorem evicted_retireRun (state : RuntimeState) (other : RunRef)
    (evicted : state.runs.lookup runId = none) :
    (state.retireRun other).runs.lookup runId = none := by
  rcases @lookup_retireRun runId state other with same | ⟨gone, _⟩
  · exact same.trans evicted
  · exact gone

theorem HeldRun.retire (held : HeldRun ref runId state retired)
    (inactive : state.runIsActive ref = false) :
    HeldRun ref runId (state.retireRun ref) true := by
  refine ⟨held.fresh, held.ownId, ?_, fun _ => rfl, fun _ => inactive⟩
  rcases @lookup_retireRun runId state ref with same | ⟨gone, _⟩
  · rcases held.present with present | ⟨gone, _⟩
    · exact .inl (same.trans present)
    · exact .inr ⟨same.trans gone, rfl⟩
  · exact .inr ⟨gone, rfl⟩

theorem SameRun.evicted (same : SameRun ref runId state after)
    (gone : state.runs.lookup runId = none) :
    after.runs.lookup runId = none := by
  rcases same.runs with kept | ⟨gone, _⟩
  · exact kept.trans gone
  · exact gone

theorem HeldRun.other (held : HeldRun ref runId state retired)
    (same : SameRun ref runId state after) :
    HeldRun ref runId after retired := by
  refine ⟨held.fresh.trans_le same.nextRecord, ?_, ?_,
    fun member => held.terminal (same.terminalRuns member), ?_⟩
  · rw [same.record]
    exact held.ownId
  · rcases same.runs with kept | ⟨gone, isTerminal⟩
    · rw [kept]
      exact held.present
    · exact .inr ⟨gone, held.terminal isTerminal⟩
  · rw [same.isActive]
    exact held.ended

end HeldRun

section Invariant

variable {exact : Prop} {ref : RunRef} {runId : String} {system : StreamSystem}

/-- While the run is active its stream is not finished. -/
theorem StreamInvariant.unfinished
    (invariant : StreamInvariant exact ref runId system) (isExact : exact)
    (isActive : system.state.runIsActive ref = true) :
    system.client.finished = false := by
  by_contra isFinished
  have ended := (invariant.finished isExact (by simpa using isFinished)).1
  rw [isActive] at ended
  cases ended

/-- A record reaches the ledger. -/
theorem StreamInvariant.record
    (invariant : StreamInvariant exact ref runId system)
    (isActive : system.state.runIsActive ref = true)
    (sent : system.unsent = none) {record : RecordedEvent} {run : RunState}
    (accepted : system.run.next record = .ok run) :
    StreamInvariant exact ref runId { system with
      run := run
      records := system.records ++ [record]
      unsent := some record } := by
  obtain ⟨log, streamed⟩ := invariant.log
  have later : StreamSystem.underway { system with
      run := run, records := system.records ++ [record],
      unsent := some record } = system.underway ++ [record] := by
    simp [StreamSystem.underway, sent]
  refine ⟨invariant.held, ?_, invariant.collected, ?_, invariant.found,
    invariant.missing, ?_, log, streamed.logs, ?_, ?_, ?_⟩
  · exact RunState.replay_concat_ok_iff.mpr
      ⟨system.run, invariant.replayed, accepted⟩
  · intro inactive
    cases isActive.symm.trans inactive
  · intro isExact isFinished
    cases (invariant.unfinished isExact isActive).symm.trans isFinished
  · intro found member
    rw [later, ← List.append_assoc] at member
    rcases List.mem_append.mp member with earlier | new
    · exact List.mem_append_left _ (streamed.recorded found earlier)
    · exact List.mem_append_right _ new
  · intro isExact
    rw [later, ← List.append_assoc, streamed.records isExact]
  · intro isExact
    rcases streamed.reads isExact with live | ⟨gone, _⟩
    · exact .inl live
    · cases (invariant.held.unretired isActive).symm.trans
        (invariant.held.retired_of_evicted gone.evicted)

/-- The events underway change, and an exact run keeps its records. -/
theorem StreamInvariant.underway
    (invariant : StreamInvariant exact ref runId system)
    (unsent : Option RecordedEvent) (collecting : List RunEvent)
    (collects : Bool) (collected : collects = false → collecting = [])
    (settled : system.state.runIsActive ref = false →
      collects = false ∧ unsent = none)
    (fewer : ∀ record ∈ collecting.filterMap RunEvent.record? ++
      unsent.toList, record ∈ system.underway)
    (same : exact → collecting.filterMap RunEvent.record? ++ unsent.toList =
      system.underway) :
    StreamInvariant exact ref runId { system with
      unsent := unsent
      collecting := collecting
      collects := collects } := by
  obtain ⟨log, streamed⟩ := invariant.log
  refine ⟨invariant.held, invariant.replayed, collected, settled,
    invariant.found, invariant.missing, invariant.finished, log, streamed.logs,
    ?_, ?_, ?_⟩
  · intro record member
    rcases List.mem_append.mp member with pushed | later
    · exact streamed.recorded record (List.mem_append_left _ pushed)
    · exact streamed.recorded record
        (List.mem_append_right _ (fewer record later))
  · intro isExact
    exact (congrArg _ (same isExact)).trans (streamed.records isExact)
  · intro isExact
    rcases streamed.reads isExact with live | ⟨gone, durable⟩
    · exact .inl live
    · exact .inr ⟨⟨gone.evicted, gone.unasked⟩, durable⟩

/-- The run after an event is pushed to its buffer. -/
theorem StreamInvariant.push (invariant : StreamInvariant exact ref runId system)
    (event : StreamEvent) (nowMs : UInt64) (unsent : Option RecordedEvent)
    (collecting : List RunEvent)
    (pushes : streamedRecords [event] ++
      (collecting.filterMap RunEvent.record? ++ unsent.toList) =
        system.underway)
    (emptied : system.collecting = [] → collecting = [])
    (sent : system.unsent = none → unsent = none) :
    StreamInvariant exact ref runId { system with
      state := system.state.pushEvent ref event nowMs
      unsent := unsent
      collecting := collecting } := by
  have runs := pushEvent_runs system.state ref event nowMs
  have active := runIsActive_pushEvent system.state ref event nowMs
  obtain ⟨log, streamed⟩ := invariant.log
  have moved : streamedRecords (log ++ [event]) ++ StreamSystem.underway
      { system with
        state := system.state.pushEvent ref event nowMs
        unsent := unsent
        collecting := collecting } =
      streamedRecords log ++ system.underway := by
    rw [streamedRecords_append, List.append_assoc, ← pushes]
    rfl
  refine ⟨invariant.held.push event nowMs, invariant.replayed, ?_, ?_,
    invariant.found, ?_, ?_, log ++ [event], ?_, ?_, ?_, ?_⟩
  · exact fun ends => emptied (invariant.collected ends)
  · dsimp only
    rw [active]
    exact fun inactive =>
      ⟨(invariant.settled inactive).1, sent (invariant.settled inactive).2⟩
  · dsimp only
    rw [runs.runs]
    exact invariant.missing
  · dsimp only
    rw [active]
    exact invariant.finished
  · dsimp only
    rw [record_pushEvent]
    exact streamed.logs.push (by decide) event
  · rw [moved]
    exact streamed.recorded
  · rw [moved]
    exact streamed.records
  · intro isExact
    rcases streamed.reads isExact with live | ⟨gone, durable⟩
    · exact .inl (live.push event)
    · refine .inr ⟨⟨?_, gone.unasked⟩, durable⟩
      dsimp only
      rw [runs.runs]
      exact gone.evicted

/-- The run after its status is set while it is active. -/
theorem StreamInvariant.setStatus
    (invariant : StreamInvariant exact ref runId system)
    (isActive : system.state.runIsActive ref = true) (status : RunStateName)
    (joined : status.isActive = false →
      system.collects = false ∧ system.unsent = none) :
    StreamInvariant exact ref runId { system with
      state := system.state.endRun ref status } := by
  have own := record_endRun system.state ref status
  obtain ⟨log, streamed⟩ := invariant.log
  refine ⟨invariant.held.endRun isActive status, invariant.replayed,
    invariant.collected, ?_, invariant.found, invariant.missing, ?_, log, ?_,
    streamed.recorded, streamed.records, ?_⟩
  · dsimp only
    unfold RuntimeState.runIsActive
    rw [own]
    exact joined
  · intro isExact isFinished
    cases (invariant.unfinished isExact isActive).symm.trans isFinished
  · dsimp only
    rw [own]
    exact streamed.logs
  · intro isExact
    rcases streamed.reads isExact with live | ⟨gone, durable⟩
    · exact .inl live
    · exact .inr ⟨⟨gone.evicted, gone.unasked⟩, durable⟩

theorem StreamInvariant.retire
    (invariant : StreamInvariant exact ref runId system)
    (inactive : system.state.runIsActive ref = false) :
    StreamInvariant exact ref runId { system with
      state := system.state.retireRun ref
      retired := true } := by
  obtain ⟨log, streamed⟩ := invariant.log
  refine ⟨invariant.held.retire inactive, invariant.replayed,
    invariant.collected, invariant.settled, invariant.found,
    fun limit isAsked => evicted_retireRun _ _ (invariant.missing limit isAsked),
    invariant.finished, log, streamed.logs, streamed.recorded,
    streamed.records, ?_⟩
  intro isExact
  rcases streamed.reads isExact with live | ⟨gone, durable⟩
  · exact .inl live
  · exact .inr ⟨⟨evicted_retireRun _ _ gone.evicted, gone.unasked⟩, durable⟩

theorem StreamInvariant.other
    (invariant : StreamInvariant exact ref runId system)
    {after : RuntimeState} (same : SameRun ref runId system.state after) :
    StreamInvariant exact ref runId { system with state := after } := by
  have active := same.isActive
  obtain ⟨log, streamed⟩ := invariant.log
  refine ⟨invariant.held.other same, invariant.replayed, invariant.collected,
    ?_, invariant.found,
    fun limit isAsked => same.evicted (invariant.missing limit isAsked), ?_,
    log, ?_, streamed.recorded, streamed.records, ?_⟩
  · dsimp only
    rw [active]
    exact invariant.settled
  · dsimp only
    rw [active]
    exact invariant.finished
  · dsimp only
    rw [same.record]
    exact streamed.logs
  · intro isExact
    rcases streamed.reads isExact with live | ⟨gone, durable⟩
    · exact .inl live
    · exact .inr ⟨⟨same.evicted gone.evicted, gone.unasked⟩, durable⟩

theorem StreamInvariant.ask (invariant : StreamInvariant exact ref runId system)
    (limit : Nat) :
    StreamInvariant exact ref runId { system with
      client := { system.client with
        asked := some (limit, system.state.runs.lookup runId) } } := by
  obtain ⟨log, streamed⟩ := invariant.log
  refine ⟨invariant.held, invariant.replayed, invariant.collected,
    invariant.settled, ?_, ?_, invariant.finished, log, streamed.logs,
    streamed.recorded, streamed.records, ?_⟩
  · intro otherLimit other isAsked
    obtain ⟨_, looked⟩ := Prod.mk.inj (Option.some.inj isAsked)
    rcases invariant.held.present with present | ⟨gone, _⟩
    · exact Option.some.inj (looked.symm.trans present)
    · cases looked.symm.trans gone
  · intro otherLimit isAsked
    exact (Prod.mk.inj (Option.some.inj isAsked)).2
  · intro isExact
    rcases streamed.reads isExact with live | ⟨gone, durable⟩
    · exact .inl live
    · refine .inr ⟨⟨gone.evicted, ?_⟩, durable⟩
      intro otherLimit other isAsked
      have looked := (Prod.mk.inj (Option.some.inj isAsked)).2
      cases looked.symm.trans gone.evicted

/-- A run that has ended has nothing underway. -/
theorem StreamInvariant.underway_eq_nil
    (invariant : StreamInvariant exact ref runId system)
    (inactive : system.state.runIsActive ref = false) :
    system.underway = [] := by
  obtain ⟨ends, sent⟩ := invariant.settled inactive
  rw [StreamSystem.underway, invariant.collected ends, sent]
  rfl

/-- An answer takes the request of the client. -/
theorem StreamInvariant.answer
    (invariant : StreamInvariant exact ref runId system)
    {client : StreamClient} (answered : client.asked = none)
    (finished : exact → client.finished = true →
      system.state.runIsActive ref = false ∧ client.records = system.records)
    (reads : exact → ∀ log, StreamLog exact ref runId system log →
      client.ReadsLive log ∨ system.state.runs.lookup runId = none ∧
        client.ReadsLedger system.records) :
    StreamInvariant exact ref runId { system with client := client } := by
  obtain ⟨log, streamed⟩ := invariant.log
  refine ⟨invariant.held, invariant.replayed, invariant.collected,
    invariant.settled, ?_, ?_, finished, log, streamed.logs, streamed.recorded,
    streamed.records, ?_⟩
  · intro _ _ isAsked
    cases answered.symm.trans isAsked
  · intro _ isAsked
    cases answered.symm.trans isAsked
  · intro isExact
    rcases reads isExact log streamed with live | ⟨evicted, durable⟩
    · exact .inl live
    · refine .inr ⟨⟨evicted, ?_⟩, durable⟩
      intro _ _ isAsked
      cases answered.symm.trans isAsked

/-- A page of the buffer. -/
theorem StreamInvariant.answerLive
    (invariant : StreamInvariant exact ref runId system) {limit : Nat}
    (asked : system.client.asked = some (limit, some ref)) :
    StreamInvariant exact ref runId { system with
      client := system.client.receive limit
        ((system.state.records ref).eventsStream (some system.client.offset)
          limit) } := by
  have live : ∀ log, exact → StreamLog exact ref runId system log →
      system.client.ReadsLive log := by
    intro log isExact streamed
    rcases streamed.reads isExact with live | ⟨gone, _⟩
    · exact live
    · exact absurd asked (gone.unasked limit ref)
  unfold RunRecord.eventsStream
  dsimp only [Option.getD_some]
  split
  · exact invariant.answer rfl invariant.finished
      fun isExact log streamed => .inl (live log isExact streamed)
  next buffered =>
    have next := fun log isExact
        (streamed : StreamLog exact ref runId system log) =>
        @StreamClient.ReadsLive.receive _ _ (live log isExact streamed) limit
          { runId := (system.state.records ref).runId
            fromOffset := system.client.offset
            nextOffset := system.client.offset +
              ((system.state.records ref).events.page system.client.offset
                limit).length
            status := (system.state.records ref).state
            events := (system.state.records ref).events.page
              system.client.offset limit }
          (streamed.logs.page (Nat.le_of_not_lt buffered) limit) rfl
    refine invariant.answer rfl (fun isExact isFinished => ?_)
      fun isExact log streamed => .inl (next log isExact streamed).1
    obtain ⟨log, streamed⟩ := invariant.log
    obtain ⟨inactive, short⟩ := Bool.and_eq_true_iff.mp isFinished
    have ended : system.state.runIsActive ref = false := by
      simpa [RuntimeState.runIsActive] using inactive
    have all := streamed.records isExact
    rw [invariant.underway_eq_nil ended, List.append_nil] at all
    exact ⟨ended, ((next log isExact streamed).2 (by simpa using short)).trans
      all⟩

/-- A page of the ledger. -/
theorem StreamInvariant.answerLedger
    (invariant : StreamInvariant exact ref runId system) {limit : Nat}
    (asked : system.client.asked = some (limit, none))
    (clean : exact →
      (∀ event ∈ system.client.events, event.record?.isSome = true) ∨
        system.client.records = system.records) (rowStatus : RunStateName) :
    StreamInvariant exact ref runId { system with
      client := system.client.receive limit (.page (durableEventsStream runId
        rowStatus system.records (some system.client.offset) limit)) } := by
  have evicted := invariant.missing limit asked
  have ended := invariant.held.ended
    (invariant.held.retired_of_evicted evicted)
  have reads : ∀ log, exact → StreamLog exact ref runId system log →
      system.client.ReadsLedger system.records := by
    intro log isExact streamed
    have all := streamed.records isExact
    rw [invariant.underway_eq_nil ended, List.append_nil] at all
    rcases streamed.reads isExact with live | ⟨_, durable⟩
    · have clean := clean isExact
      rw [← all] at clean ⊢
      exact live.switch clean
    · exact durable
  have next := fun log isExact streamed =>
    @StreamClient.ReadsLedger.receive _ _ (reads log isExact streamed) limit
      (durableEventsStream runId rowStatus system.records
        (some system.client.offset) limit) rfl rfl
  refine invariant.answer rfl (fun isExact isFinished => ?_)
    fun isExact log streamed => .inr ⟨evicted, (next log isExact streamed).1⟩
  obtain ⟨log, streamed⟩ := invariant.log
  obtain ⟨_, short⟩ := Bool.and_eq_true_iff.mp isFinished
  exact ⟨ended, (next log isExact streamed).2 (by simpa using short)⟩

theorem StreamInvariant.step {after : StreamSystem} {action : StreamAction}
    (invariant : StreamInvariant exact ref runId system)
    (survives : exact → system.Exact action)
    (stepped : system.step ref runId action = some after) :
    StreamInvariant exact ref runId after := by
  cases action with
  | record record =>
      obtain ⟨⟨isActive, sent⟩, written⟩ :=
        Option.ite_none_right_eq_some.mp stepped
      obtain ⟨run, accepts, rfl⟩ := Option.map_eq_some_iff.mp written
      have accepted : system.run.next record = .ok run := by
        cases next : system.run.next record with
        | error failure => simp [next, Except.toOption] at accepts
        | ok reached => simpa [next, Except.toOption] using accepts
      exact invariant.record isActive (Option.isNone_iff_eq_none.mp sent)
        accepted
  | send =>
      obtain ⟨opened, sends⟩ := Option.ite_none_right_eq_some.mp stepped
      obtain ⟨record, isUnsent, rfl⟩ := Option.map_eq_some_iff.mp sends
      have same : (system.collecting ++ [RunEvent.ledger record]).filterMap
          RunEvent.record? ++ (none : Option RecordedEvent).toList =
          system.underway := by
        simp [StreamSystem.underway, isUnsent, RunEvent.record?]
      refine invariant.underway none _ system.collects ?_ ?_
        (fun found member => same ▸ member) fun _ => same
      · intro ends
        cases opened.symm.trans ends
      · intro inactive
        exact ⟨(invariant.settled inactive).1, rfl⟩
  | publish nowMs =>
      obtain ⟨_, publishes⟩ := Option.ite_none_left_eq_some.mp stepped
      obtain ⟨record, filtered, rfl⟩ := Option.map_eq_some_iff.mp publishes
      have isUnsent := (Option.filter_eq_some_iff.mp filtered).1
      have ends : system.collecting = [] := by
        refine invariant.collected ?_
        simpa using ‹¬ system.collects = true›
      exact invariant.push (.ledger record) nowMs none system.collecting
        (by simp [StreamSystem.underway, isUnsent, ends, streamedRecords,
          StreamEvent.record?]) id fun _ => rfl
  | abandon =>
      cases stepped
      refine invariant.underway none system.collecting system.collects
        invariant.collected (fun inactive =>
          ⟨(invariant.settled inactive).1, rfl⟩) ?_ fun isExact => ?_
      · intro found member
        exact List.mem_append_left _ (by simpa using member)
      · have sent : system.unsent = none := (survives isExact).1
        rw [StreamSystem.underway, sent]
  | assistantDelta turnId step deltaIndex text =>
      obtain ⟨⟨isActive, opened⟩, ⟨⟩⟩ :=
        Option.ite_none_right_eq_some.mp stepped
      have same : (system.collecting ++
          [RunEvent.assistantDelta turnId step deltaIndex text]).filterMap
          RunEvent.record? ++ system.unsent.toList = system.underway := by
        simp [StreamSystem.underway, RunEvent.record?]
      refine invariant.underway system.unsent _ system.collects ?_
        invariant.settled (fun found member => same ▸ member) fun _ => same
      intro ends
      cases opened.symm.trans ends
  | collect nowMs =>
      unfold StreamSystem.step at stepped
      cases queue : system.collecting with
      | nil =>
          rw [queue] at stepped
          cases stepped
      | cons event rest =>
          rw [queue] at stepped
          cases stepped
          refine invariant.push (event.streamed runId) nowMs system.unsent rest
            ?_ ?_ id
          · rw [StreamSystem.underway, queue]
            cases event <;> rfl
          · rw [queue]
            intro empty
            cases empty
  | endCollector =>
      cases stepped
      refine invariant.underway system.unsent [] false (fun _ => rfl)
        (fun inactive => ⟨rfl, (invariant.settled inactive).2⟩) ?_
        fun isExact => ?_
      · intro found member
        exact List.mem_append_right _ (by simpa using member)
      · have taken : system.collecting.filterMap RunEvent.record? = [] :=
          (survives isExact).1
        rw [StreamSystem.underway, taken]
        rfl
  | requestApproval event nowMs =>
      obtain ⟨isOther, ⟨⟩⟩ := Option.ite_none_right_eq_some.mp stepped
      refine invariant.push event nowMs system.unsent system.collecting ?_ id id
      rw [streamedRecords, List.filterMap_cons_none
        (Option.isNone_iff_eq_none.mp isOther)]
      rfl
  | requestCancel nowMs =>
      obtain ⟨state, canceled, rfl⟩ := Option.map_eq_some_iff.mp stepped
      obtain ⟨isRunning, ⟨⟩⟩ := Option.ite_none_right_eq_some.mp canceled
      have isActive : system.state.runIsActive ref = true := by
        simp [RuntimeState.runIsActive, isRunning, RunStateName.isActive]
      have set := invariant.setStatus isActive .cancelRequested (by simp
        [RunStateName.isActive])
      exact set.push (.canceled (system.state.records ref).runId) nowMs
        system.unsent system.collecting rfl id id
  | endRun status =>
      obtain ⟨⟨isActive, joined, sent, _⟩, ⟨⟩⟩ :=
        Option.ite_none_right_eq_some.mp stepped
      exact invariant.setStatus isActive status fun _ =>
        ⟨by simpa using joined, Option.isNone_iff_eq_none.mp sent⟩
  | retire =>
      obtain ⟨⟨inactive, _⟩, ⟨⟩⟩ := Option.ite_none_right_eq_some.mp stepped
      exact invariant.retire (by simpa using inactive)
  | other action =>
      obtain ⟨state, moved, rfl⟩ := Option.map_eq_some_iff.mp stepped
      exact invariant.other
        (StreamSystem.otherStep_sameRun invariant.held.fresh moved)
  | ask limit =>
      obtain ⟨_, ⟨⟩⟩ := Option.ite_none_left_eq_some.mp stepped
      exact invariant.ask _
  | answer rowStatus =>
      obtain ⟨⟨limit, found⟩, asked, rfl⟩ := Option.map_eq_some_iff.mp stepped
      cases found with
      | some other =>
          obtain rfl := invariant.found limit other asked
          exact invariant.answerLive asked
      | none =>
          exact invariant.answerLedger asked (fun isExact =>
            (survives isExact).2 rowStatus limit rfl asked) rowStatus

end Invariant

section Streamed

variable {state admitted : RuntimeState} {runId sessionId : String}
variable {turn : Option ThreadTurnBinding} {profile : Option ApprovalProfile}

theorem StreamInvariant.start (exact : Prop)
    (reserved : (state.newRecord runId sessionId turn).2.reserveRunWithProfile
      state.nextRecord profile = .ok admitted)
    (fresh : runId ∉ state.terminalRuns) :
    StreamInvariant exact state.nextRecord runId (.start admitted) := by
  have record : ((state.newRecord runId sessionId turn).2.records
      state.nextRecord) = ⟨runId, sessionId, turn, .running, .empty⟩ :=
    Function.update_self ..
  unfold RuntimeState.reserveRunWithProfile at reserved
  split at reserved
  · cases reserved
  split at reserved
  · cases reserved
  cases reserved
  have running : RuntimeState.runIsActive (StreamSystem.start _).state
      state.nextRecord = true := congrArg (·.state.isActive) record
  refine ⟨⟨Nat.lt_succ_self _, ?_, .inl ?_, ?_, ?_⟩, rfl, ?_, ?_, ?_, ?_, ?_,
    [], ?_, ?_, fun _ => rfl, fun _ => .inl ⟨rfl, le_rfl⟩⟩
  · exact congrArg RunRecord.runId record
  · dsimp only [StreamSystem.start]
    rw [record]
    exact AList.lookup_insert _
  · exact fun member => absurd member fresh
  · intro isRetired
    cases isRetired
  · intro ends
    cases ends
  · intro inactive
    cases running.symm.trans inactive
  · intro _ _ isAsked
    cases isAsked
  · intro _ isAsked
    cases isAsked
  · intro _ isFinished
    cases isFinished
  · dsimp only [StreamSystem.start]
    rw [record]
    exact OffsetBuffer.logs_empty
  · intro found member
    cases member

/-- A client that is not told that it lags receives the records of its run in
order, and all of them by the page that ends its stream, when every record
reaches the buffer and every switch to the ledger is clean. -/
theorem eventsStream_records
    (reserved : (state.newRecord runId sessionId turn).2.reserveRunWithProfile
      state.nextRecord profile = .ok admitted)
    (fresh : runId ∉ state.terminalRuns) {system : StreamSystem}
    (reached : Reaches (StreamSystem.step state.nextRecord runId)
      StreamSystem.Exact (.start admitted) system) :
    system.client.records <+: system.records ∧
      (system.client.finished = true →
        system.client.records = system.records) := by
  have invariant : StreamInvariant True state.nextRecord runId system :=
    reached.invariant (.start True reserved fresh)
      fun _ _ _ invariant survives stepped =>
        invariant.step (fun _ => survives) stepped
  refine ⟨?_, fun isFinished => (invariant.finished trivial isFinished).2⟩
  obtain ⟨log, streamed⟩ := invariant.log
  rcases streamed.reads trivial with live | ⟨_, durable⟩
  · rw [← streamed.records trivial]
    exact live.isPrefix.trans (List.prefix_append _ _)
  · exact durable.isPrefix

end Streamed

/-- A runtime that has admitted its first run. -/
def streamedRuntime : RuntimeState :=
  let made := (RuntimeState.initial "epoch").newRecord "run_01" "session_1" none
  (made.2.reserveRunWithProfile made.1 none).toOption.getD made.2

def laterRuns : List String :=
  ["run_02", "run_03", "run_04", "run_05", "run_06", "run_07", "run_08",
    "run_09", "run_10", "run_11", "run_12", "run_13", "run_14", "run_15",
    "run_16", "run_17", "run_18", "run_19", "run_20", "run_21", "run_22",
    "run_23", "run_24", "run_25", "run_26", "run_27", "run_28", "run_29",
    "run_30", "run_31", "run_32", "run_33"]

def streamedRunId : RunId :=
  ⟨"run_01", by decide⟩

def startedRecord : RecordedEvent :=
  ⟨0, 0, .runStarted
    ⟨streamedRunId, .legacyAgent ⟨"agent_01", by decide⟩⟩⟩

def failedRecord : RecordedEvent :=
  ⟨1, 0, .runFailed streamedRunId "provider unavailable"⟩

/-- The later runs come and go, so that the first run is evicted. -/
def evictingActions : List StreamAction :=
  (laterRuns.zipIdx 1).flatMap fun (runId, ref) =>
    [.other (.reserve runId "session_2" none none),
      .other (.endRun ref .finished), .other (.retire ref)]

/-- The client reads the start of the run and a delta; then the run fails, and
the runs after it evict it. -/
def skippingActions : List StreamAction :=
  .flatten
    [[.record startedRecord, .send, .assistantDelta "turn-1" 0 0 "Hello",
        .collect 0, .collect 0, .ask (some 2), .answer .running,
        .record failedRecord, .endCollector, .publish 0, .endRun .failed,
        .retire],
      evictingActions, [.ask none, .answer .failed]]

/-- The failure of the run is never sent. -/
theorem eventsStream_skips_record :
    ∃ system, Reaches (StreamSystem.step 0 "run_01") anyStep
        (.start streamedRuntime) system ∧
      system.client.lagged = false ∧ system.client.finished = true ∧
      system.client.records.map RecordedEvent.seq = [0] ∧
      system.records.map RecordedEvent.seq = [0, 1] := by
  have runs : (skippingActions.foldlM (StreamSystem.step 0 "run_01")
      (.start streamedRuntime)).map (fun system =>
        (system.client.lagged, system.client.finished,
          system.client.records.map RecordedEvent.seq,
          system.records.map RecordedEvent.seq)) =
      some (false, true, [0], [0, 1]) := by
    decide +kernel
  obtain ⟨system, ran, ends⟩ := Option.map_eq_some_iff.mp runs
  obtain ⟨lagged, finished, received, records⟩ : _ ∧ _ ∧ _ ∧ _ := by
    simpa only [Prod.mk.injEq] using ends
  exact ⟨system, .run .start ran, lagged, finished, received, records⟩

/-- The check that a step is exact. -/
def StreamSystem.isExact (system : StreamSystem) : StreamAction → Bool
  | .abandon => system.unsent.isNone
  | .endCollector =>
      (system.collecting.filterMap RunEvent.record?).isEmpty
  | .answer _ =>
      match system.client.asked with
      | some (_, none) => system.client.events.all (·.record?.isSome)
      | _ => true
  | _ => true

theorem StreamSystem.exact_of_isExact (system : StreamSystem)
    (action : StreamAction) (isExact : system.isExact action = true) :
    system.Exact action := by
  constructor
  · cases action with
    | abandon => exact Option.isNone_iff_eq_none.mp isExact
    | endCollector => exact List.isEmpty_iff.mp isExact
    | _ => trivial
  · rintro rowStatus limit rfl asked
    rw [StreamSystem.isExact, asked] at isExact
    exact .inl (List.all_eq_true.mp isExact)

/-- The client reads the start of the run, and its failure from the ledger after
the run was evicted. -/
def switchingActions : List StreamAction :=
  .flatten
    [[.record startedRecord, .send, .collect 0, .ask (some 1), .answer .running,
        .record failedRecord, .endCollector, .publish 0, .endRun .failed,
        .retire],
      evictingActions, [.ask none, .answer .failed]]

/-- Such a client receives both records. -/
theorem eventsStream_records_switching :
    ∃ system, Reaches (StreamSystem.step 0 "run_01") StreamSystem.Exact
        (.start streamedRuntime) system ∧
      system.client.finished = true ∧
      system.client.records.map RecordedEvent.seq = [0, 1] ∧
      (system.client.records <+: system.records ∧
        (system.client.finished = true →
          system.client.records = system.records)) := by
  have runs : (switchingActions.foldlM (fun system action =>
      if StreamSystem.isExact system action then
        StreamSystem.step 0 "run_01" system action
      else none) (.start streamedRuntime)).map (fun system =>
        (system.client.finished,
          system.client.records.map RecordedEvent.seq)) =
      some (true, [0, 1]) := by
    decide +kernel
  obtain ⟨system, ran, ends⟩ := Option.map_eq_some_iff.mp runs
  obtain ⟨finished, received⟩ : _ ∧ _ := by
    simpa only [Prod.mk.injEq] using ends
  have reached := Reaches.runChecked StreamSystem.exact_of_isExact
    .start ran
  exact ⟨system, reached, finished, received,
    @eventsStream_records (RuntimeState.initial "epoch") streamedRuntime "run_01"
      "session_1" none none rfl (by decide) system reached⟩

end PlatoAgent
