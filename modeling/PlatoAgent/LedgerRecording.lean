import PlatoAgent.LedgerLogs
import PlatoAgent.RunLedgerShape

/-!
# Recording to a log

What one call of a JSONL recorder does to its log: a rejected event writes
nothing, an accepted one appends its line.  A log written this way holds the
lines of records that replay to the recorder's state.
-/

namespace PlatoAgent

open AtomicProgram

variable {env : LedgerEnv} {workspace : Workspace}

theorem nextRecordAt_ok_iff {now : UInt64} {state after : RunState}
    {event : HarnessEvent} {record : RecordedEvent} :
    nextRecordAt now state event = .ok (record, after) ↔
      record = state.stamp now event ∧
        state.next (state.stamp now event) = .ok after := by
  simp only [nextRecordAt, RunState.stamp]
  cases state.next { seq := state.nextSeq, occurredAtMs := now, event := event }
  · simp
  · simp [eq_comm]

theorem nextRecord_run (env : LedgerEnv) (workspace : Workspace)
    (state : RunState) (event : HarnessEvent) :
    (nextRecord env state event).run workspace =
      (nextRecordAt (env.clock workspace.clockReadings) state event,
        workspace.tick) := by
  rw [nextRecord, Program.run_bind_ok (nowMs_run env workspace)]
  rfl

theorem nextRecord_passes {state : RunState} {event : HarnessEvent}
    {cut : Workspace} :
    (nextRecord env state event).Passes workspace cut ↔
      cut = workspace ∨ cut = workspace.tick := by
  rw [nextRecord, Program.passes_bind, nowMs_passes]
  constructor
  · rintro (early | ⟨now, middle, read, late⟩)
    · exact early
    · obtain ⟨_, rfl⟩ := Prod.mk.inj read
      exact .inr late
  · exact .inl

namespace JsonlEventRecorder

variable {recorder : JsonlEventRecorder} {event : HarnessEvent}

/-- The recorder after an acknowledged record. -/
def advanced (recorder : JsonlEventRecorder) (after : RunState) :
    JsonlEventRecorder :=
  { recorder with state := after }

theorem recordEvent_of_healthy (healthy : recorder.poisoned = false) :
    recorder.recordEvent env event = (do
      let (record, nextState) ← nextRecord env recorder.state event
      appendFile recorder.path (lineBytes env record)
      pure (record, recorder.advanced nextState)) := by
  rw [recordEvent, requireApp_of (by simp [healthy]), Program.pure_bind]
  rfl

theorem recordEvent_run_ok {record : RecordedEvent} {after : RunState}
    (healthy : recorder.poisoned = false)
    (accepted : nextRecordAt (env.clock workspace.clockReadings)
      recorder.state event = .ok (record, after)) :
    (recorder.recordEvent env event).run workspace =
      (.ok (record, recorder.advanced after),
        workspace.tick.modifyFile recorder.path
          (· ++ lineBytes env record)) := by
  have next := nextRecord_run env workspace recorder.state event
  rw [accepted] at next
  rw [recordEvent_of_healthy healthy, Program.run_bind_ok next,
    Program.run_bind_ok (appendFile_run _)]
  rfl

theorem recordEvent_run_error {error : AppError}
    (healthy : recorder.poisoned = false)
    (rejected : nextRecordAt (env.clock workspace.clockReadings)
      recorder.state event = .error error) :
    (recorder.recordEvent env event).run workspace =
      (.error error, workspace.tick) := by
  have next := nextRecord_run env workspace recorder.state event
  rw [rejected] at next
  rw [recordEvent_of_healthy healthy, Program.run_bind_error next]

/-- A call is cut before its write, or after some bytes of its line. -/
theorem recordEvent_passes {cut : Workspace}
    (healthy : recorder.poisoned = false)
    (passes : (recorder.recordEvent env event).Passes workspace cut) :
    cut = workspace ∨ cut = workspace.tick ∨
      ∃ record after,
        nextRecordAt (env.clock workspace.clockReadings) recorder.state event =
          .ok (record, after) ∧
        ∃ count ≤ (lineBytes env record).length,
          cut = workspace.tick.modifyFile recorder.path
            (· ++ (lineBytes env record).take count) := by
  rw [recordEvent_of_healthy healthy, Program.passes_bind, nextRecord_passes,
    nextRecord_run] at passes
  rcases passes with (early | ticked) | ⟨⟨record, after⟩, middle, next, late⟩
  · exact .inl early
  · exact .inr (.inl ticked)
  · obtain ⟨accepted, rfl⟩ := Prod.mk.inj next
    refine .inr (.inr ⟨record, after, accepted, ?_⟩)
    rw [Program.passes_bind, appendFile_passes, appendFile_run] at late
    rcases late with torn | ⟨_, _, written, done⟩
    · exact torn
    · obtain ⟨_, rfl⟩ := Prod.mk.inj written
      refine ⟨_, le_rfl, ?_⟩
      rw [List.take_length]
      exact done

theorem record_of_open (free : (recorder.sessionOpen && event.isRunEnd) =
    false) : recorder.record env event = recorder.recordEvent env event := by
  rw [record, requireApp_of (by simp [free]), Program.pure_bind]

theorem record_run_gated (gated : (recorder.sessionOpen && event.isRunEnd) =
    true) :
    (recorder.record env event).run workspace =
      (.error (.config
        "JSONL session terminal events require a matching session outcome"),
        workspace) := by
  rw [record, requireApp_of_not (by simp [gated]),
    Program.ofExcept_error_bind]
  rfl

/-- The recorder that `open` returns for a log that replays to the state. -/
def reopened (path : String) (state : RunState) : JsonlEventRecorder :=
  { path := path, state := state, session := none, poisoned := false }

variable {path : String} {bytes : List UInt8}

theorem reopen_of_named (named : path ≠ "") :
    reopen env path = (do
      let state ← openForAppend env path
      pure (reopened path state)) := by
  rw [reopen, requireApp_of (by simpa using named), Program.pure_bind]
  rfl

theorem reopen_run_ok {records : List RecordedEvent} {state : RunState}
    (named : path ≠ "") (content : workspace.files path = some bytes)
    (read : recordsOf env bytes = .ok records)
    (replayed : replayRecords records = .ok state) :
    (reopen env path).run workspace =
      (.ok (reopened path state),
        workspace.modifyFile path (·.take (committedLength bytes))) := by
  have opened : (openForAppend env path).run workspace = (.ok state,
      workspace.modifyFile path (·.take (committedLength bytes))) := by
    rw [openForAppend, Program.run_bind_ok (readFile_run content), read,
      Program.ofExcept_ok_bind, replayed, Program.ofExcept_ok_bind,
      Program.run_bind_ok (cutTornTail_run content)]
    rfl
  rw [reopen_of_named named, Program.run_bind_ok opened]
  rfl

theorem reopen_run_read_error {error : AppError} (named : path ≠ "")
    (content : workspace.files path = some bytes)
    (unread : recordsOf env bytes = .error error) :
    (reopen env path).run workspace = (.error error, workspace) := by
  have opened : (openForAppend env path).run workspace =
      (.error error, workspace) := by
    rw [openForAppend, Program.run_bind_ok (readFile_run content), unread]
    rfl
  rw [reopen_of_named named, Program.run_bind_error opened]

theorem reopen_run_replay_error {records : List RecordedEvent}
    {error : AppError} (named : path ≠ "")
    (content : workspace.files path = some bytes)
    (read : recordsOf env bytes = .ok records)
    (refused : replayRecords records = .error error) :
    (reopen env path).run workspace = (.error error, workspace) := by
  have opened : (openForAppend env path).run workspace =
      (.error error, workspace) := by
    rw [openForAppend, Program.run_bind_ok (readFile_run content), read,
      Program.ofExcept_ok_bind, refused]
    rfl
  rw [reopen_of_named named, Program.run_bind_error opened]

/-- Opening is cut before or after the truncation. -/
theorem reopen_passes {cut : Workspace} (named : path ≠ "")
    (content : workspace.files path = some bytes)
    (passes : (reopen env path).Passes workspace cut) :
    cut = workspace ∨ cut = workspace.modifyFile path
      (·.take (committedLength bytes)) := by
  rw [reopen_of_named named, Program.passes_bind] at passes
  have inside : ∀ cut, (openForAppend env path).Passes workspace cut →
      cut = workspace ∨ cut = workspace.modifyFile path
        (·.take (committedLength bytes)) := by
    intro cut passes
    rw [openForAppend, Program.passes_bind, readFile_run content] at passes
    rcases passes with early | ⟨_, _, read, passes⟩
    · exact .inl (by simpa [readFile] using early)
    · obtain ⟨same, rfl⟩ := Prod.mk.inj read
      obtain rfl := Except.ok.inj same
      cases parsed : recordsOf env bytes with
      | error error =>
          rw [parsed] at passes
          exact .inl passes
      | ok records =>
          rw [parsed, Program.ofExcept_ok_bind] at passes
          cases replayed : replayRecords records with
          | error error =>
              rw [replayed] at passes
              exact .inl passes
          | ok state =>
              rw [replayed, Program.ofExcept_ok_bind, Program.passes_bind,
                cutTornTail_run content] at passes
              rcases passes with torn | ⟨_, _, written, done⟩
              · exact cutTornTail_passes torn
              · obtain ⟨_, rfl⟩ := Prod.mk.inj written
                exact .inr done
  rcases passes with early | ⟨state, middle, opened, done⟩
  · exact inside cut early
  · obtain rfl : cut = middle := done
    have reached := (openForAppend env path).passes_end workspace
    rw [opened] at reached
    exact inside cut reached

end JsonlEventRecorder

/-- Offer the events one after the other, going on after a rejection: for each
event its acknowledged record, if it was accepted. -/
def offerAll {Recorder : Type}
    (record : Recorder → HarnessEvent → LedgerM (RecordedEvent × Recorder)) :
    Recorder → List HarnessEvent →
      LedgerM (List (Option RecordedEvent) × Recorder)
  | recorder, [] => pure ([], recorder)
  | recorder, event :: rest => do
      match ← (record recorder event).attempt with
      | .error _ =>
          let (verdicts, final) ← offerAll record recorder rest
          pure (none :: verdicts, final)
      | .ok (accepted, recorded) =>
          let (verdicts, final) ← offerAll record recorded rest
          pure (some accepted :: verdicts, final)

section Offering

variable {Recorder : Type}
  {record : Recorder → HarnessEvent → LedgerM (RecordedEvent × Recorder)}
  {recorder recorded final : Recorder} {event : HarnessEvent}
  {rest : List HarnessEvent} {verdicts : List (Option RecordedEvent)}
  {middle after : Workspace}

theorem offerAll_run_rejected {error : AppError}
    (rejected : (record recorder event).run workspace =
      (.error error, middle))
    (later : (offerAll record recorder rest).run middle =
      (.ok (verdicts, final), after)) :
    (offerAll record recorder (event :: rest)).run workspace =
      (.ok (none :: verdicts, final), after) := by
  have attempted : (record recorder event).attempt.run workspace =
      (.ok (.error error), middle) := by simp [rejected]
  rw [offerAll, Program.run_bind_ok attempted]
  dsimp only
  rw [Program.run_bind_ok later]
  rfl

theorem offerAll_run_accepted {accepted : RecordedEvent}
    (acknowledged : (record recorder event).run workspace =
      (.ok (accepted, recorded), middle))
    (later : (offerAll record recorded rest).run middle =
      (.ok (verdicts, final), after)) :
    (offerAll record recorder (event :: rest)).run workspace =
      (.ok (some accepted :: verdicts, final), after) := by
  have attempted : (record recorder event).attempt.run workspace =
      (.ok (.ok (accepted, recorded)), middle) := by simp [acknowledged]
  rw [offerAll, Program.run_bind_ok attempted]
  dsimp only
  rw [Program.run_bind_ok later]
  rfl

end Offering

/-- The state after an event, if a recorder hands the event to the core and
the core accepts it. -/
def accepts (sessionOpen : Bool) (state : RunState) (event : HarnessEvent) :
    Option RunState :=
  if sessionOpen && event.isRunEnd then
    none
  else
    (state.next (state.stamp 0 event)).toOption

theorem RunState.next_stamp (state : RunState) (now : UInt64)
    (event : HarnessEvent) :
    state.next (state.stamp now event) = state.next (state.stamp 0 event) :=
  rfl

theorem nextRecordAt_of_accepts {sessionOpen : Bool} {state after : RunState}
    {event : HarnessEvent} (now : UInt64)
    (accepted : accepts sessionOpen state event = some after) :
    (sessionOpen && event.isRunEnd) = false ∧
      nextRecordAt now state event = .ok (state.stamp now event, after) := by
  unfold accepts at accepted
  split at accepted
  · cases accepted
  next free =>
    refine ⟨by simpa using free, nextRecordAt_ok_iff.mpr ⟨rfl, ?_⟩⟩
    rw [RunState.next_stamp]
    cases stepped : state.next (state.stamp 0 event) with
    | error error => simp [stepped, Except.toOption] at accepted
    | ok next =>
        simp only [stepped, Except.toOption, Option.some.injEq] at accepted
        rw [accepted]

theorem nextRecordAt_of_not_accepts {sessionOpen : Bool} {state : RunState}
    {event : HarnessEvent} (now : UInt64)
    (refused : accepts sessionOpen state event = none) :
    (sessionOpen && event.isRunEnd) = true ∨
      ∃ error, nextRecordAt now state event = .error error := by
  unfold accepts at refused
  split at refused
  next gated => exact .inl gated
  · refine .inr ?_
    cases offered : nextRecordAt now state event with
    | error error => exact ⟨error, rfl⟩
    | ok pair =>
        obtain ⟨_, stepped⟩ := nextRecordAt_ok_iff.mp offered
        rw [RunState.next_stamp] at stepped
        simp [stepped, Except.toOption] at refused

/-- A fresh run accepts `run_started` and nothing else. -/
theorem accepts_new_isSome {sessionOpen : Bool} {event : HarnessEvent} :
    (accepts sessionOpen .new event).isSome = event.isRunStarted := by
  have starts := @RunState.next_new_ok_iff 0 event
  unfold accepts
  cases isStart : event.isRunStarted with
  | true =>
      obtain ⟨after, stepped⟩ := starts.mpr isStart
      have free : event.isRunEnd = false := by
        cases event <;> simp_all [HarnessEvent.isRunStarted,
          HarnessEvent.isRunEnd]
      simp [free, stepped, Except.toOption]
  | false =>
      split
      · rfl
      · cases stepped : RunState.new.next (RunState.new.stamp 0 event) with
        | error error => rfl
        | ok after =>
            rw [starts.mp ⟨after, stepped⟩] at isStart
            cases isStart

/-- The verdicts of the core on events offered in this order. -/
def coreVerdicts (sessionOpen : Bool) :
    RunState → List HarnessEvent → List Bool
  | _, [] => []
  | state, event :: rest =>
      match accepts sessionOpen state event with
      | none => false :: coreVerdicts sessionOpen state rest
      | some after => true :: coreVerdicts sessionOpen after rest

/-- The events that the core accepts, in this order. -/
def coreEvents (sessionOpen : Bool) :
    RunState → List HarnessEvent → List HarnessEvent
  | _, [] => []
  | state, event :: rest =>
      match accepts sessionOpen state event with
      | none => coreEvents sessionOpen state rest
      | some after => event :: coreEvents sessionOpen after rest

end PlatoAgent
