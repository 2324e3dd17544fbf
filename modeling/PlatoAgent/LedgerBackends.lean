import PlatoAgent.LedgerRows
import PlatoAgent.LedgerTornTail

/-!
# The two backends of a run

The same events offered to a JSONL recorder and to a SQLite recorder.  Both ask
the same core state machine, but the log checks identities and run ids when it
is read, and the rows check identities and number ranges when they are written.
What nests too deep is written by both, and a line reaches the limit of the
parser before a row does.
-/

namespace PlatoAgent

open AtomicProgram

section Reading

variable {env : LedgerEnv} {workspace : Workspace} {runId : RunId}
  {records : List RecordedEvent} {bytes : List UInt8}

theorem validateRecordRunIds_ok_iff :
    validateRecordRunIds runId records = .ok () ↔
      ∀ record ∈ records, record.event.runId = runId := by
  induction records with
  | nil => simp [validateRecordRunIds]
  | cons record rest ih =>
      unfold validateRecordRunIds
      split <;> simp_all

theorem readRun_of_stored {stored : Except AppError (List RecordedEvent)}
    (isStored : (storedRecords env runId
      (workspace.files (runJsonlPath runId)).isSome).run workspace =
        (stored, workspace)) :
    ((readRun env runId).run workspace).1 = .ok records ↔
      stored = .ok records ∧ records ≠ [] := by
  have exist : (fileExists (runJsonlPath runId)).run workspace =
      (.ok (workspace.files (runJsonlPath runId)).isSome, workspace) := rfl
  rw [readRun, Program.run_bind_ok exist]
  cases stored with
  | error error =>
      rw [Program.run_bind_error isStored]
      simp
  | ok found =>
      rw [Program.run_bind_ok isStored]
      cases found with
      | nil =>
          constructor
          · intro missing
            cases missing
          · rintro ⟨same, nonempty⟩
            cases same
            exact absurd rfl nonempty
      | cons first rest =>
          constructor
          · intro same
            cases same
            exact ⟨rfl, by simp⟩
          · exact And.left

/-- A run with a log is read from it, if all its records name the run. -/
theorem readRun_logged_ok_iff
    (content : workspace.files (runJsonlPath runId) = some bytes) :
    ((readRun env runId).run workspace).1 = .ok records ↔
      recordsOf env bytes = .ok records ∧
        (∀ record ∈ records, record.event.runId = runId) ∧ records ≠ [] := by
  have isStored : (storedRecords env runId
      (workspace.files (runJsonlPath runId)).isSome).run workspace =
      (do
        let records ← recordsOf env bytes
        validateRecordRunIds runId records
        pure records, workspace) := by
    rw [content, storedRecords, Option.isSome_some, if_pos rfl,
      Program.run_bind, readRecords_run content]
    cases recordsOf env bytes with
    | error error => rfl
    | ok found =>
        dsimp only
        rw [Program.run_bind, Program.run_ofExcept, except_ok_bind]
        cases validateRecordRunIds runId found <;> rfl
  rw [readRun_of_stored isStored]
  simp only [except_bind_ok_iff, pure, Except.pure, Except.ok.injEq]
  constructor
  · rintro ⟨⟨_, read, _, valid, rfl⟩, nonempty⟩
    exact ⟨read, validateRecordRunIds_ok_iff.mp valid, nonempty⟩
  · rintro ⟨read, named, nonempty⟩
    exact ⟨⟨_, read, (), validateRecordRunIds_ok_iff.mpr named, rfl⟩, nonempty⟩

/-- A run without a log is read from its rows; they are filed under the run. -/
theorem readRun_rows_ok_iff
    (absent : workspace.files (runJsonlPath runId) = none) :
    ((readRun env runId).run workspace).1 = .ok records ↔
      readRunRecordsFrom env workspace runId = .ok records ∧
        records ≠ [] := by
  refine readRun_of_stored ?_
  rw [absent]
  rfl

end Reading

/-- The rows hold exactly these records, and the recorder is at their end. -/
structure Rowed (env : LedgerEnv) (workspace : Workspace)
    (recorder : SqliteEventRecorder) (records : List RecordedEvent) :
    Prop where
  held : RowsHold env workspace recorder.runId records
  replayed : RunState.replay records = .ok recorder.state

/-- The recorder after an acknowledged record. -/
def SqliteEventRecorder.advanced (recorder : SqliteEventRecorder)
    (after : RunState) : SqliteEventRecorder :=
  { recorder with state := after }

section Recording

variable {env : LedgerEnv} {workspace : Workspace}
  {recorder : SqliteEventRecorder} {records : List RecordedEvent}
  {event : HarnessEvent} {state : RunState}

theorem Rowed.tick (rowed : Rowed env workspace recorder records) :
    Rowed env workspace.tick recorder records :=
  ⟨rowed.held.of_sameRows rfl, rowed.replayed⟩

theorem SqliteEventRecorder.record_of_open
    (free : (recorder.sessionRunOpen && event.isRunEnd) = false) :
    recorder.record env event = (do
      let (record, nextState) ← nextRecord env recorder.state event
      transaction (appendRecordIn env recorder.runId record)
      pure (record, recorder.advanced nextState)) := by
  rw [record, requireApp_of (by simp [free]), Program.pure_bind]
  rfl

theorem SqliteEventRecorder.record_rejected
    (refused : accepts recorder.sessionRunOpen recorder.state event = none) :
    ∃ error after,
      (recorder.record env event).run workspace = (.error error, after) ∧
        (after = workspace ∨ after = workspace.tick) := by
  by_cases gated : (recorder.sessionRunOpen && event.isRunEnd) = true
  · refine ⟨.config
      "SQLite session terminal events require an atomic session outcome",
      workspace, ?_, .inl rfl⟩
    rw [record, requireApp_of_not (by simp [gated]),
      Program.ofExcept_error_bind]
    rfl
  · rcases nextRecordAt_of_not_accepts (env.clock workspace.clockReadings)
      refused with shut | ⟨error, rejected⟩
    · exact absurd shut gated
    · have next := nextRecord_run env workspace recorder.state event
      rw [rejected] at next
      refine ⟨error, _, ?_, .inr rfl⟩
      rw [record_of_open (by simpa using gated), Program.run_bind_error next]

theorem SqliteEventRecorder.record_unstorable
    (accepted : accepts recorder.sessionRunOpen recorder.state event =
      some state)
    (unstorable : ¬ Storable (recorder.state.stamp
      (env.clock workspace.clockReadings) event)) :
    ∃ error,
      (recorder.record env event).run workspace =
        (.error error, workspace.tick) := by
  obtain ⟨free, offered⟩ := nextRecordAt_of_accepts
    (env.clock workspace.clockReadings) accepted
  have next := nextRecord_run env workspace recorder.state event
  rw [offered] at next
  obtain ⟨error, refused⟩ : ∃ error, (transaction (appendRecordIn env
      recorder.runId (recorder.state.stamp (env.clock workspace.clockReadings)
        event))).run workspace.tick = (.error error, workspace.tick) :=
    transaction_run_of_not_commits fun result _ =>
      not_commits_appendRecordIn unstorable result
  refine ⟨error, ?_⟩
  rw [record_of_open free, Program.run_bind_ok next]
  exact Program.run_bind_error refused

/-- An accepted event that can be stored becomes a row. -/
theorem Rowed.record_accepted (rowed : Rowed env workspace recorder records)
    (accepted : accepts recorder.sessionRunOpen recorder.state event =
      some state)
    (storable : Storable (recorder.state.stamp
      (env.clock workspace.clockReadings) event)) :
    ∃ record after,
      record = recorder.state.stamp (env.clock workspace.clockReadings)
        event ∧
      (recorder.record env event).run workspace =
        (.ok (record, recorder.advanced state), after) ∧
      Rowed env after (recorder.advanced state) (records ++ [record]) ∧
      after.files = workspace.files := by
  obtain ⟨free, offered⟩ := nextRecordAt_of_accepts
    (env.clock workspace.clockReadings) accepted
  obtain ⟨_, stepped⟩ := nextRecordAt_ok_iff.mp offered
  have next := nextRecord_run env workspace recorder.state event
  rw [offered] at next
  obtain ⟨after, commits, frame, rows, _⟩ :=
    @appendRecordIn_next env _ _ _ _ _ rowed.tick.held.numbered rowed.replayed
      rfl storable
  refine ⟨_, after, rfl, ?_, ⟨rowed.tick.held.concat rows storable, ?_⟩, ?_⟩
  · rw [SqliteEventRecorder.record_of_open free, Program.run_bind_ok next]
    exact Program.run_bind_ok (transaction_run_of_commits commits)
  · exact RunState.replay_concat_ok_iff.mpr
      ⟨recorder.state, rowed.replayed, stepped⟩
  · rw [frame]
    rfl

/-- What several calls leave behind. -/
structure RowsAll (env : LedgerEnv) (workspace after : Workspace)
    (recorder final : SqliteEventRecorder) (records : List RecordedEvent)
    (verdicts : List (Option RecordedEvent)) (events : List HarnessEvent) :
    Prop where
  rowed : Rowed env after final (records ++ verdicts.reduceOption)
  runId : final.runId = recorder.runId
  files : after.files = workspace.files
  offered : VerdictsOn verdicts events
  storable : ∀ record ∈ verdicts.reduceOption, Storable record
  /-- Without refused identities and number overflow, the core decides. -/
  core : (records = [] → StartsPositive events) →
    records.length + (coreVerdicts recorder.sessionRunOpen recorder.state
      events).count true ≤ 2 ^ 63 →
    verdicts.map (·.isSome) =
      coreVerdicts recorder.sessionRunOpen recorder.state events

theorem startsPositive_of_cons {event : HarnessEvent}
    {rest : List HarnessEvent} (positive : StartsPositive (event :: rest))
    (other : event.isRunStarted = false) : StartsPositive rest := by
  intro start found
  refine positive start ?_
  rw [firstStart, List.find?_cons_of_neg (by simp [other])]
  exact found

/-- An event that the core accepts can be stored, if it does not open the run
with a refused identity and the run is not full. -/
theorem Rowed.storable_of_accepts
    (rowed : Rowed env workspace recorder records)
    (clock : ∀ reading, (env.clock reading).toNat < 2 ^ 63)
    (accepted : accepts recorder.sessionRunOpen recorder.state event =
      some state)
    (positive : records = [] → event.zeroRevision = false)
    (room : records.length < 2 ^ 63) :
    Storable (recorder.state.stamp (env.clock workspace.clockReadings)
      event) := by
  have shape := RunState.ledgerShape_of_replay rowed.replayed
  refine ⟨?_, ?_, clock _⟩
  · by_contra zero
    have isStart := HarnessEvent.isRunStarted_of_zeroRevision
      (by simpa [RunState.stamp] using zero : event.zeroRevision = true)
    obtain ⟨_, offered⟩ := nextRecordAt_of_accepts 0 accepted
    obtain ⟨_, stepped⟩ := nextRecordAt_ok_iff.mp offered
    obtain ⟨_, _, transition, _⟩ := RunState.next_ok_iff.mp stepped
    have initial := shape.phase_eq_notStarted_iff.mp
      (transition.isRunStarted_iff.mp isStart)
    exact zero (positive initial)
  · simp only [RunState.stamp, shape.nextSeq, UInt64.toNat_ofNat']
    omega

theorem Rowed.offerAll (rowed : Rowed env workspace recorder records)
    (clock : ∀ reading, (env.clock reading).toNat < 2 ^ 63)
    (events : List HarnessEvent) :
    ∃ verdicts final after,
      (offerAll (SqliteEventRecorder.record env) recorder events).run
        workspace = (.ok (verdicts, final), after) ∧
      RowsAll env workspace after recorder final records verdicts events := by
  induction events generalizing workspace recorder records with
  | nil =>
      exact ⟨[], recorder, workspace, rfl, by simpa using rowed, rfl, rfl,
        .nil, by simp, fun _ _ => rfl⟩
  | cons event rest ih =>
      have shape := RunState.ledgerShape_of_replay rowed.replayed
      have starts := @accepts_new_isSome recorder.sessionRunOpen event
      cases accepted : accepts recorder.sessionRunOpen recorder.state event with
      | none =>
          obtain ⟨error, middle, ran, middleCases⟩ :=
            @SqliteEventRecorder.record_rejected env workspace recorder event
              accepted
          have kept : Rowed env middle recorder records ∧
              middle.files = workspace.files := by
            rcases middleCases with rfl | rfl
            · exact ⟨rowed, rfl⟩
            · exact ⟨rowed.tick, rfl⟩
          obtain ⟨verdicts, final, after, finished, result⟩ := ih kept.1
          refine ⟨none :: verdicts, final, after,
            offerAll_run_rejected ran finished, ?_⟩
          refine
            { rowed := by simpa using result.rowed, runId := result.runId,
              files := result.files.trans kept.2,
              offered := .cons (by simp) result.offered,
              storable := by simpa using result.storable, core := ?_ }
          intro positive room
          simp only [coreVerdicts, accepted] at room ⊢
          rw [List.count_cons_of_ne (by simp)] at room
          have later := result.core (fun empty => startsPositive_of_cons
            (positive empty) (by
              rw [shape.initial empty] at accepted
              simpa [accepted] using starts.symm)) room
          simp [later]
      | some state =>
          by_cases storable : Storable (recorder.state.stamp
              (env.clock workspace.clockReadings) event)
          · obtain ⟨record, middle, isStamp, ran, extended, sameFiles⟩ :=
              rowed.record_accepted accepted storable
            obtain ⟨verdicts, final, after, finished, result⟩ := ih extended
            refine ⟨some record :: verdicts, final, after,
              offerAll_run_accepted ran finished, ?_⟩
            refine
              { rowed := by simpa using result.rowed, runId := result.runId,
                files := result.files.trans sameFiles,
                offered := .cons ?_ result.offered, storable := ?_, core := ?_ }
            · intro acknowledged same
              obtain rfl := Option.some.inj same
              simp [isStamp, RunState.stamp]
            · intro stored member
              rw [List.reduceOption_cons_of_some, List.mem_cons] at member
              rcases member with rfl | later
              · rw [isStamp]
                exact storable
              · exact result.storable stored later
            · intro _ room
              simp only [coreVerdicts, accepted] at room ⊢
              rw [List.count_cons_self] at room
              have roomLeft : records.length + 1 + (coreVerdicts
                  recorder.sessionRunOpen state rest).count true ≤ 2 ^ 63 := by
                omega
              have core : verdicts.map (·.isSome) =
                  coreVerdicts recorder.sessionRunOpen state rest :=
                result.core (by simp) (by
                  rw [List.length_append]
                  exact roomLeft)
              simp [core]
          · obtain ⟨error, ran⟩ :=
              SqliteEventRecorder.record_unstorable accepted storable
            obtain ⟨verdicts, final, after, finished, result⟩ :=
              ih rowed.tick
            refine ⟨none :: verdicts, final, after,
              offerAll_run_rejected ran finished, ?_⟩
            refine
              { rowed := by simpa using result.rowed, runId := result.runId,
                files := result.files,
                offered := .cons (by simp) result.offered,
                storable := by simpa using result.storable, core := ?_ }
            intro positive room
            simp only [coreVerdicts, accepted, List.count_cons_self] at room
            refine absurd (rowed.storable_of_accepts clock accepted
              (fun empty => ?_) (by omega)) storable
            rw [shape.initial empty] at accepted
            rw [accepted] at starts
            refine positive empty event ?_
            rw [firstStart, List.find?_cons_of_pos (by simpa using starts.symm)]

end Recording

/-- A record without its timestamp. -/
def RecordedEvent.numbered (record : RecordedEvent) : UInt64 × HarnessEvent :=
  (record.seq, record.event)

/-- The two recorders are fresh recorders of the run, both outside a session
or both inside one. -/
def SameAdmission (runId : RunId) (fresh jsonl : JsonlEventRecorder)
    (sqlite : SqliteEventRecorder) : Prop :=
  (jsonl = fresh ∧ sqlite = .create runId) ∨
    ∃ createdSession, jsonl = fresh.withSession runId createdSession ∧
      sqlite = .fromSession runId

/-- Both backends gave the same verdicts, and the run reads the same from
either, or from neither. -/
structure BackendsAgree (env : LedgerEnv) (runId : RunId)
    (jsonlVerdicts sqliteVerdicts : List (Option RecordedEvent))
    (jsonlAfter sqliteAfter : Workspace) : Prop where
  verdicts : jsonlVerdicts.map (·.isSome) = sqliteVerdicts.map (·.isSome)
  reads :
    (∃ jsonlRecords sqliteRecords,
      ((readRun env runId).run jsonlAfter).1 = .ok jsonlRecords ∧
      ((readRun env runId).run sqliteAfter).1 = .ok sqliteRecords ∧
      jsonlRecords.map (·.numbered) = sqliteRecords.map (·.numbered) ∧
      ∀ record ∈ jsonlRecords, record.event.runId = runId) ∨
    ((∀ records, ((readRun env runId).run jsonlAfter).1 ≠ .ok records) ∧
      ∀ records, ((readRun env runId).run sqliteAfter).1 ≠ .ok records)

/-- Equal verdicts on the same events acknowledge the same events. -/
theorem VerdictsOn.events_eq {first second : List (Option RecordedEvent)}
    {events : List HarnessEvent} (firstOn : VerdictsOn first events)
    (secondOn : VerdictsOn second events)
    (same : first.map (·.isSome) = second.map (·.isSome)) :
    first.reduceOption.map (·.event) = second.reduceOption.map (·.event) := by
  induction firstOn generalizing second with
  | nil =>
      cases secondOn
      rfl
  | @cons verdict event rest others firstEvent _ ih =>
      cases secondOn with
      | @cons verdict' _ rest' _ secondEvent othersOn =>
          simp only [List.map_cons, List.cons.injEq] at same
          have later := ih othersOn same.2
          cases verdict with
          | none =>
              cases verdict' with
              | none => simpa using later
              | some record => simp at same
          | some record =>
              cases verdict' with
              | none => simp at same
              | some record' =>
                  simp [later, firstEvent record rfl, secondEvent record' rfl]

theorem numbered_eq_of_events {first second : List RecordedEvent}
    {firstState secondState : RunState}
    (firstReplayed : RunState.replay first = .ok firstState)
    (secondReplayed : RunState.replay second = .ok secondState)
    (events : first.map (·.event) = second.map (·.event)) :
    first.map (·.numbered) = second.map (·.numbered) := by
  have lengths : first.length = second.length := by
    simpa using congrArg List.length events
  have seqs : first.map (·.seq) = second.map (·.seq) := by
    rw [(RunState.ledgerShape_of_replay firstReplayed).seqs,
      (RunState.ledgerShape_of_replay secondReplayed).seqs, lengths]
  have zipped : ∀ records : List RecordedEvent,
      records.map (·.numbered) =
        (records.map (·.seq)).zip (records.map (·.event)) := by
    intro records
    simp [List.zip_map', RecordedEvent.numbered]
  rw [zipped, zipped, seqs, events]

/-- The number of acknowledged events is the number of positive verdicts. -/
theorem length_reduceOption_eq_count (verdicts : List (Option RecordedEvent)) :
    verdicts.reduceOption.length = (verdicts.map (·.isSome)).count true := by
  induction verdicts with
  | nil => rfl
  | cons verdict rest ih => cases verdict <;> simp [ih]

/-- The verdicts of the core select the events that it accepts. -/
theorem VerdictsOn.events_eq_coreEvents {sessionOpen : Bool} {state : RunState}
    {verdicts : List (Option RecordedEvent)} {events : List HarnessEvent}
    (offered : VerdictsOn verdicts events)
    (core : verdicts.map (·.isSome) = coreVerdicts sessionOpen state events) :
    verdicts.reduceOption.map (·.event) =
      coreEvents sessionOpen state events := by
  induction offered generalizing state with
  | nil => rfl
  | @cons verdict event _ _ isEvent _ ih =>
      cases accepted : accepts sessionOpen state event with
      | none =>
          simp only [List.map_cons, coreVerdicts, accepted, List.cons.injEq]
            at core
          obtain rfl : verdict = none := by simpa using core.1
          simpa [coreEvents, accepted] using ih core.2
      | some next =>
          simp only [List.map_cons, coreVerdicts, accepted, List.cons.injEq]
            at core
          obtain ⟨record, rfl⟩ := Option.isSome_iff_exists.mp core.1
          simp [coreEvents, accepted, ih core.2, isEvent record rfl]

/-- The `run_started` among the events, if there is one, names the run and does
not name profile revision zero. -/
def OpensRun (runId : RunId) (events : List HarnessEvent) : Prop :=
  ∀ start, firstStart events = some start →
    start.runId = runId ∧ start.zeroRevision = false

/-- Both backends read the accepted events back: the run opens with its own
identity, and no event is too deep for a line.  Or neither does: an event is too
deep for a row. -/
def ReadsAlike (runId : RunId) (sessionOpen : Bool)
    (events : List HarnessEvent) : Prop :=
  (OpensRun runId events ∧
      ∀ event ∈ coreEvents sessionOpen .new events, event.fitsLine = true) ∨
    (StartsPositive events ∧
      ∃ event ∈ coreEvents sessionOpen .new events, event.fitsColumn = false)

theorem ReadsAlike.startsPositive {runId : RunId} {sessionOpen : Bool}
    {events : List HarnessEvent}
    (alike : ReadsAlike runId sessionOpen events) : StartsPositive events := by
  rcases alike with ⟨opens, _⟩ | ⟨positive, _⟩
  · exact fun start found => (opens start found).2
  · exact positive

/-- A line nests the event deeper than a row does. -/
theorem HarnessEvent.fitsColumn_of_fitsLine {event : HarnessEvent}
    (fits : event.fitsLine = true) : event.fitsColumn = true := by
  simp only [fitsLine, fitsColumn, decide_eq_true_eq] at *
  omega

section Agreement

variable {env : LedgerEnv} {workspace : Workspace} {runId : RunId}
  {records : List RecordedEvent} {state : RunState}

/-- All records of a ledger name the run that the first one names. -/
theorem runIds_eq_of_head {first : RecordedEvent} {rest : List RecordedEvent}
    (replayed : RunState.replay (first :: rest) = .ok state)
    (named : first.event.runId = runId) :
    ∀ record ∈ first :: rest, record.event.runId = runId := by
  have shape := RunState.ledgerShape_of_replay replayed
  intro record member
  have bound := shape.runIds first List.mem_cons_self
  have same := shape.runIds record member
  rw [bound] at same
  rw [← Option.some.inj same, named]

theorem Logged.readRun_ok_iff {recorder : JsonlEventRecorder}
    (logged : Logged env workspace recorder records)
    (path : recorder.path = runJsonlPath runId) :
    ((readRun env runId).run workspace).1 = .ok records ↔
      (∀ record ∈ records, record.event.refused = false) ∧
        (∀ record ∈ records, record.event.runId = runId) ∧ records ≠ [] := by
  have content := logged.content
  rw [path] at content
  rw [readRun_logged_ok_iff content, recordsOf_logBytes_ok_iff]

theorem Logged.eq_of_readRun_ok {recorder : JsonlEventRecorder}
    (logged : Logged env workspace recorder records)
    (path : recorder.path = runJsonlPath runId)
    {read : List RecordedEvent}
    (readBack : ((readRun env runId).run workspace).1 = .ok read) :
    read = records := by
  have content := logged.content
  rw [path] at content
  exact eq_of_recordsOf_logBytes
    ((readRun_logged_ok_iff content).mp readBack).1

theorem Rowed.readRun_ok_iff {recorder : SqliteEventRecorder}
    (rowed : Rowed env workspace recorder records)
    (noLog : workspace.files (runJsonlPath recorder.runId) = none) :
    ((readRun env recorder.runId).run workspace).1 = .ok records ↔
      (∀ record ∈ records, record.event.fitsColumn = true) ∧
        records ≠ [] := by
  rw [readRun_rows_ok_iff noLog, rowed.held.read_ok_iff]

theorem Rowed.eq_of_readRun_ok {recorder : SqliteEventRecorder}
    (rowed : Rowed env workspace recorder records)
    (noLog : workspace.files (runJsonlPath recorder.runId) = none)
    {read : List RecordedEvent}
    (readBack : ((readRun env recorder.runId).run workspace).1 = .ok read) :
    read = records :=
  rowed.held.eq_of_read ((readRun_rows_ok_iff noLog).mp readBack).1

/-- A fresh recorder of a run without rows. -/
theorem rowed_of_noRows (env : LedgerEnv) {recorder : SqliteEventRecorder}
    (noRows : ∀ row ∈ workspace.ledgerEvents, row.runId ≠ recorder.runId)
    (initial : recorder.state = .new) : Rowed env workspace recorder [] := by
  refine ⟨rowsHold_nil env ?_, ?_⟩
  · exact List.eq_nil_iff_forall_not_mem.mpr fun row member =>
      noRows row (mem_eventRows.mp member).1 (mem_eventRows.mp member).2
  · rw [initial]
    rfl

/-- What both backends hold after the same events. -/
structure Fed (env : LedgerEnv) (runId : RunId) (sessionOpen : Bool)
    (events : List HarnessEvent)
    (jsonlVerdicts sqliteVerdicts : List (Option RecordedEvent))
    (jsonlAfter sqliteAfter : Workspace) : Prop where
  logged : ∃ final, final.path = runJsonlPath runId ∧
    Logged env jsonlAfter final jsonlVerdicts.reduceOption
  opening : OpensWith jsonlVerdicts.reduceOption events
  jsonlCore : jsonlVerdicts.map (·.isSome) =
    coreVerdicts sessionOpen .new events
  jsonlOffered : VerdictsOn jsonlVerdicts events
  rowed : ∃ final, final.runId = runId ∧
    Rowed env sqliteAfter final sqliteVerdicts.reduceOption
  noLog : sqliteAfter.files (runJsonlPath runId) = none
  storable : ∀ record ∈ sqliteVerdicts.reduceOption, Storable record
  sqliteCore : StartsPositive events →
    (coreVerdicts sessionOpen .new events).count true ≤ 2 ^ 63 →
    sqliteVerdicts.map (·.isSome) = coreVerdicts sessionOpen .new events
  sqliteOffered : VerdictsOn sqliteVerdicts events

section Fed

variable {sessionOpen : Bool} {events : List HarnessEvent}
  {jsonlVerdicts sqliteVerdicts : List (Option RecordedEvent)}
  {jsonlAfter sqliteAfter : Workspace}

/-- The acknowledged events of the log are those that the core accepts. -/
theorem Fed.jsonlEvents_eq (fed : Fed env runId sessionOpen events
      jsonlVerdicts sqliteVerdicts jsonlAfter sqliteAfter) :
    jsonlVerdicts.reduceOption.map (·.event) =
      coreEvents sessionOpen .new events :=
  fed.jsonlOffered.events_eq_coreEvents fed.jsonlCore

/-- Rows that hold the events of the log opened with an accepted identity. -/
theorem Fed.startsPositive_of_agree (fed : Fed env runId sessionOpen events
      jsonlVerdicts sqliteVerdicts jsonlAfter sqliteAfter)
    (agree : BackendsAgree env runId jsonlVerdicts sqliteVerdicts jsonlAfter
      sqliteAfter) : StartsPositive events := by
  have sameEvents := fed.jsonlOffered.events_eq fed.sqliteOffered agree.verdicts
  intro start isFirst
  have opening := fed.opening
  rw [OpensWith, isFirst] at opening
  have rowsOpening : sqliteVerdicts.reduceOption.head?.map (·.event) =
      some start := by
    rw [← List.head?_map, ← sameEvents, List.head?_map, opening]
  obtain ⟨stored, isHead, rfl⟩ := Option.map_eq_some_iff.mp rowsOpening
  exact (fed.storable stored (List.mem_of_head? isHead)).positive

theorem Fed.readsAlike_of_agree (fed : Fed env runId sessionOpen events
      jsonlVerdicts sqliteVerdicts jsonlAfter sqliteAfter)
    (agree : BackendsAgree env runId jsonlVerdicts sqliteVerdicts jsonlAfter
      sqliteAfter) :
    ReadsAlike runId sessionOpen events ∧
      (coreVerdicts sessionOpen .new events).count true ≤ 2 ^ 63 := by
  obtain ⟨jsonlFinal, path, logged⟩ := fed.logged
  obtain ⟨sqliteFinal, rfl, rowed⟩ := fed.rowed
  have sameEvents := fed.jsonlOffered.events_eq fed.sqliteOffered agree.verdicts
  have positive := fed.startsPositive_of_agree agree
  refine ⟨?_, ?_⟩
  · by_cases deep : ∃ event ∈ coreEvents sessionOpen .new events,
        event.fitsColumn = false
    · exact .inr ⟨positive, deep⟩
    refine .inl ?_
    rw [← fed.jsonlEvents_eq] at deep ⊢
    cases acknowledged : jsonlVerdicts.reduceOption with
    | nil =>
        have opening := fed.opening
        rw [acknowledged] at opening
        refine ⟨fun start isFirst => ?_, by simp⟩
        rw [OpensWith, isFirst] at opening
        cases opening
    | cons first rest =>
        -- The rows are read, so the log is read as well.
        have rowsRead : ((readRun env sqliteFinal.runId).run sqliteAfter).1 =
            .ok sqliteVerdicts.reduceOption := by
          refine (rowed.readRun_ok_iff fed.noLog).mpr ⟨fun record member => ?_,
            ?_⟩
          · by_contra unfit
            refine deep ⟨record.event, ?_, by simpa using unfit⟩
            rw [sameEvents]
            exact List.mem_map_of_mem member
          · intro empty
            simp [acknowledged, empty] at sameEvents
        rcases agree.reads with
          ⟨read, _, readBack, _, _, named⟩ | ⟨_, rowsFail⟩
        · obtain rfl := logged.eq_of_readRun_ok path readBack
          obtain ⟨readable, _, _⟩ := (logged.readRun_ok_iff path).mp readBack
          rw [← acknowledged]
          refine ⟨fun start isFirst => ⟨?_, positive start isFirst⟩,
            fun event member => ?_⟩
          · have opening := fed.opening
            rw [OpensWith, isFirst, acknowledged] at opening
            rw [← Option.some.inj opening]
            exact named first (by rw [acknowledged]; exact List.mem_cons_self)
          · obtain ⟨record, isRecord, rfl⟩ := List.mem_map.mp member
            have read := readable record isRecord
            simp only [HarnessEvent.refused, Bool.or_eq_false_iff] at read
            simpa using read.2
        · exact absurd rowsRead (rowsFail _)
  · rw [← fed.jsonlCore, agree.verdicts, ← length_reduceOption_eq_count]
    exact (rowed.held.numbered.row_seq_lt rowed.replayed).1

theorem Fed.agree_of_readsAlike (fed : Fed env runId sessionOpen events
      jsonlVerdicts sqliteVerdicts jsonlAfter sqliteAfter)
    (alike : ReadsAlike runId sessionOpen events)
    (few : (coreVerdicts sessionOpen .new events).count true ≤ 2 ^ 63) :
    BackendsAgree env runId jsonlVerdicts sqliteVerdicts jsonlAfter
      sqliteAfter := by
  obtain ⟨jsonlFinal, path, logged⟩ := fed.logged
  obtain ⟨sqliteFinal, rfl, rowed⟩ := fed.rowed
  have verdicts : jsonlVerdicts.map (·.isSome) =
      sqliteVerdicts.map (·.isSome) := by
    rw [fed.jsonlCore, fed.sqliteCore alike.startsPositive few]
  have sameEvents := fed.jsonlOffered.events_eq fed.sqliteOffered verdicts
  refine ⟨verdicts, ?_⟩
  rcases alike with ⟨opens, fit⟩ | ⟨positive, event, member, unfit⟩
  · rw [← fed.jsonlEvents_eq] at fit
    have allFit : FitLines jsonlVerdicts.reduceOption := fun record member =>
      fit _ (List.mem_map_of_mem member)
    have readable := (allFit.readable_iff logged.replayed fed.opening).mpr
      fun start found => (opens start found).2
    cases acknowledged : jsonlVerdicts.reduceOption with
    | nil =>
        have noRows : sqliteVerdicts.reduceOption = [] := by
          simpa [acknowledged] using sameEvents.symm
        refine .inr ⟨fun read readBack => ?_, fun read readBack => ?_⟩
        · obtain rfl := logged.eq_of_readRun_ok path readBack
          exact ((logged.readRun_ok_iff path).mp readBack).2.2 acknowledged
        · obtain rfl := rowed.eq_of_readRun_ok fed.noLog readBack
          exact ((rowed.readRun_ok_iff fed.noLog).mp readBack).2 noRows
    | cons first rest =>
        have named : ∀ record ∈ jsonlVerdicts.reduceOption,
            record.event.runId = sqliteFinal.runId := by
          have replayed := logged.replayed
          have opening := fed.opening
          rw [acknowledged] at replayed opening ⊢
          exact runIds_eq_of_head replayed (opens first.event opening.symm).1
        refine .inl ⟨jsonlVerdicts.reduceOption, sqliteVerdicts.reduceOption,
          ?_, ?_, numbered_eq_of_events logged.replayed rowed.replayed
            sameEvents, named⟩
        · exact (logged.readRun_ok_iff path).mpr
            ⟨readable, named, by simp [acknowledged]⟩
        · refine (rowed.readRun_ok_iff fed.noLog).mpr ⟨fun record member => ?_,
            ?_⟩
          · refine HarnessEvent.fitsColumn_of_fitsLine (fit _ ?_)
            rw [sameEvents]
            exact List.mem_map_of_mem member
          · intro empty
            simp [acknowledged, empty] at sameEvents
  · -- The event is in both ledgers, and neither is read.
    rw [← fed.jsonlEvents_eq] at member
    refine .inr ⟨fun read readBack => ?_, fun read readBack => ?_⟩
    · obtain rfl := logged.eq_of_readRun_ok path readBack
      obtain ⟨record, isRecord, rfl⟩ := List.mem_map.mp member
      have accepted := ((logged.readRun_ok_iff path).mp readBack).1 record
        isRecord
      simp only [HarnessEvent.refused, Bool.or_eq_false_iff] at accepted
      rw [HarnessEvent.fitsColumn_of_fitsLine (by simpa using accepted.2)]
        at unfit
      cases unfit
    · obtain rfl := rowed.eq_of_readRun_ok fed.noLog readBack
      rw [sameEvents] at member
      obtain ⟨record, isRecord, rfl⟩ := List.mem_map.mp member
      rw [((rowed.readRun_ok_iff fed.noLog).mp readBack).1 record isRecord]
        at unfit
      cases unfit

end Fed

section Offered

variable {jsonlStart jsonlOpened jsonlAfter sqliteStart sqliteAfter : Workspace}
  {fresh jsonl jsonlFinal : JsonlEventRecorder}
  {sqlite sqliteFinal : SqliteEventRecorder}
  {jsonlVerdicts sqliteVerdicts : List (Option RecordedEvent)}

/-- Fresh recorders of one run, in places without events of the run. -/
theorem fed_of_offered (events : List HarnessEvent)
    (clock : ∀ reading, (env.clock reading).toNat < 2 ^ 63)
    (created : (JsonlEventRecorder.create (runJsonlPath runId)).run
      jsonlStart = (.ok fresh, jsonlOpened))
    (noRows : ∀ row ∈ sqliteStart.ledgerEvents, row.runId ≠ runId)
    (noLog : sqliteStart.files (runJsonlPath runId) = none)
    (admission : SameAdmission runId fresh jsonl sqlite)
    (jsonlOffered : (offerAll (JsonlEventRecorder.record env) jsonl
      events).run jsonlOpened = (.ok (jsonlVerdicts, jsonlFinal), jsonlAfter))
    (sqliteOffered : (offerAll (SqliteEventRecorder.record env) sqlite
      events).run sqliteStart =
        (.ok (sqliteVerdicts, sqliteFinal), sqliteAfter)) :
    Fed env runId sqlite.sessionRunOpen events jsonlVerdicts sqliteVerdicts
      jsonlAfter sqliteAfter := by
  obtain ⟨_, rfl, logged⟩ := logged_of_create env jsonl.session created
  obtain ⟨sameSession, rfl, initial, isFresh⟩ :
      jsonl.sessionOpen = sqlite.sessionRunOpen ∧ sqlite.runId = runId ∧
        sqlite.state = .new ∧
        jsonl = { JsonlEventRecorder.reopened (runJsonlPath runId) .new with
          session := jsonl.session } := by
    rcases admission with ⟨rfl, rfl⟩ | ⟨createdSession, rfl, rfl⟩ <;>
      exact ⟨rfl, rfl, rfl, rfl⟩
  rw [← isFresh] at logged
  obtain ⟨_, _, _, jsonlRan, jsonlResult⟩ := logged.offerAll events
  rw [jsonlOffered] at jsonlRan
  cases jsonlRan
  have rowed := rowed_of_noRows env noRows initial
  obtain ⟨_, _, _, sqliteRan, sqliteResult⟩ := rowed.offerAll clock events
  rw [sqliteOffered] at sqliteRan
  cases sqliteRan
  have jsonlInitial : jsonl.state = .new := by rw [isFresh]; rfl
  have jsonlCore := jsonlResult.core
  have sqliteCore := sqliteResult.core
  rw [jsonlInitial, sameSession] at jsonlCore
  rw [initial, List.length_nil, Nat.zero_add] at sqliteCore
  exact
    { logged := ⟨_, jsonlResult.path.trans (by rw [isFresh]; rfl),
        jsonlResult.logged⟩
      opening := jsonlResult.opening rfl
      jsonlCore := jsonlCore
      jsonlOffered := jsonlResult.offered
      rowed := ⟨_, sqliteResult.runId, sqliteResult.rowed⟩
      noLog := by rw [sqliteResult.files, noLog]
      storable := sqliteResult.storable
      sqliteCore := fun positive => sqliteCore fun _ => positive
      sqliteOffered := sqliteResult.offered }

/-- Fed the same events, the two backends agree exactly if they read alike what
the core accepts, and it can be numbered in an integer column. -/
theorem backendsAgree_iff_readsAlike (events : List HarnessEvent)
    (clock : ∀ reading, (env.clock reading).toNat < 2 ^ 63)
    (created : (JsonlEventRecorder.create (runJsonlPath runId)).run
      jsonlStart = (.ok fresh, jsonlOpened))
    (noRows : ∀ row ∈ sqliteStart.ledgerEvents, row.runId ≠ runId)
    (noLog : sqliteStart.files (runJsonlPath runId) = none)
    (admission : SameAdmission runId fresh jsonl sqlite)
    (jsonlOffered : (offerAll (JsonlEventRecorder.record env) jsonl
      events).run jsonlOpened = (.ok (jsonlVerdicts, jsonlFinal), jsonlAfter))
    (sqliteOffered : (offerAll (SqliteEventRecorder.record env) sqlite
      events).run sqliteStart =
        (.ok (sqliteVerdicts, sqliteFinal), sqliteAfter)) :
    BackendsAgree env runId jsonlVerdicts sqliteVerdicts jsonlAfter
        sqliteAfter ↔
      ReadsAlike runId sqlite.sessionRunOpen events ∧
        (coreVerdicts sqlite.sessionRunOpen .new events).count true ≤
          2 ^ 63 := by
  have fed := fed_of_offered events clock created noRows noLog admission
    jsonlOffered sqliteOffered
  exact ⟨fed.readsAlike_of_agree, fun ⟨alike, few⟩ =>
    fed.agree_of_readsAlike alike few⟩

end Offered

/-- Events offered to recorders of the first run outside a session. -/
theorem exists_offered_firstRun (events : List HarnessEvent) :
    ∃ jsonlVerdicts jsonlFinal jsonlAfter sqliteVerdicts sqliteFinal
        sqliteAfter,
      (offerAll (JsonlEventRecorder.record ledgerEnv)
        (.reopened firstLog .new) events).run withFirstLog =
          (.ok (jsonlVerdicts, jsonlFinal), jsonlAfter) ∧
      (offerAll (SqliteEventRecorder.record ledgerEnv) (.create firstRun)
        events).run Workspace.empty =
          (.ok (sqliteVerdicts, sqliteFinal), sqliteAfter) := by
  have logged : Logged ledgerEnv withFirstLog (.reopened firstLog .new) [] :=
    (logged_of_create ledgerEnv none create_firstLog).2.2
  have rowed : Rowed ledgerEnv Workspace.empty (.create firstRun) [] :=
    rowed_of_noRows ledgerEnv
      (fun _ member => absurd member UniqueTable.not_mem_empty) rfl
  obtain ⟨_, _, _, jsonlOffered, _⟩ := logged.offerAll events
  obtain ⟨_, _, _, sqliteOffered, _⟩ := rowed.offerAll ledgerEnv_clock events
  exact ⟨_, _, _, _, _, _, jsonlOffered, sqliteOffered⟩

/-- A run that opens with its own agent identity and fails. -/
def failedFirst : List HarnessEvent :=
  [agentStart firstRun, .runFailed firstRun "stopped"]

/-- The backends agree on it. -/
theorem backendsAgree_failedFirst :
    ∃ jsonlVerdicts jsonlFinal jsonlAfter sqliteVerdicts sqliteFinal
        sqliteAfter,
      (offerAll (JsonlEventRecorder.record ledgerEnv)
        (.reopened firstLog .new) failedFirst).run withFirstLog =
          (.ok (jsonlVerdicts, jsonlFinal), jsonlAfter) ∧
      (offerAll (SqliteEventRecorder.record ledgerEnv) (.create firstRun)
        failedFirst).run Workspace.empty =
          (.ok (sqliteVerdicts, sqliteFinal), sqliteAfter) ∧
      BackendsAgree ledgerEnv firstRun jsonlVerdicts sqliteVerdicts jsonlAfter
        sqliteAfter := by
  obtain ⟨_, _, _, _, _, _, jsonlOffered, sqliteOffered⟩ :=
    exists_offered_firstRun failedFirst
  refine ⟨_, _, _, _, _, _, jsonlOffered, sqliteOffered, ?_⟩
  refine (backendsAgree_iff_readsAlike failedFirst ledgerEnv_clock
    create_firstLog (fun _ member => absurd member UniqueTable.not_mem_empty)
    rfl (.inl ⟨rfl, rfl⟩) jsonlOffered sqliteOffered).mpr
      ⟨.inl ⟨?_, ?_⟩, ?_⟩
  · rintro start ⟨⟩
    exact ⟨rfl, rfl⟩
  · have events : coreEvents (SqliteEventRecorder.create
        firstRun).sessionRunOpen .new failedFirst = failedFirst := rfl
    rw [events]
    decide
  · have verdicts : coreVerdicts (SqliteEventRecorder.create
        firstRun).sessionRunOpen .new failedFirst = [true, true] := rfl
    rw [verdicts]
    decide

/-- A `run_started` of another run is recorded by both backends, but only the
log refuses to give it back as the run. -/
theorem not_backendsAgree_otherRun :
    ∃ jsonlVerdicts jsonlFinal jsonlAfter sqliteVerdicts sqliteFinal
        sqliteAfter,
      (offerAll (JsonlEventRecorder.record ledgerEnv)
        (.reopened firstLog .new) [agentStart secondRun]).run withFirstLog =
          (.ok (jsonlVerdicts, jsonlFinal), jsonlAfter) ∧
      (offerAll (SqliteEventRecorder.record ledgerEnv) (.create firstRun)
        [agentStart secondRun]).run Workspace.empty =
          (.ok (sqliteVerdicts, sqliteFinal), sqliteAfter) ∧
      ¬ BackendsAgree ledgerEnv firstRun jsonlVerdicts sqliteVerdicts
        jsonlAfter sqliteAfter := by
  obtain ⟨_, _, _, _, _, _, jsonlOffered, sqliteOffered⟩ :=
    exists_offered_firstRun [agentStart secondRun]
  refine ⟨_, _, _, _, _, _, jsonlOffered, sqliteOffered, fun agree => ?_⟩
  have fed := fed_of_offered [agentStart secondRun] ledgerEnv_clock
    create_firstLog (fun _ member => absurd member UniqueTable.not_mem_empty)
    rfl (.inl ⟨rfl, rfl⟩) jsonlOffered sqliteOffered
  have offered : coreEvents (SqliteEventRecorder.create
      firstRun).sessionRunOpen .new [agentStart secondRun] =
      [agentStart secondRun] := rfl
  have alike := (fed.readsAlike_of_agree agree).1
  rw [ReadsAlike, offered] at alike
  rcases alike with ⟨opens, _⟩ | ⟨_, event, member, unfit⟩
  · have named := (opens _ rfl).1
    revert named
    decide
  · obtain rfl := List.mem_singleton.mp member
    revert unfit
    decide

end Agreement

end PlatoAgent
