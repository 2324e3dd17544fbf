import PlatoAgent.LedgerRecording
import PlatoAgent.LedgerText

/-!
# Crashes while recording

A process that dies inside `record` leaves any prefix of the next line at the
end of the log.  Opening the log again keeps the acknowledged records, and
recording goes on where they end.  Among the events that the parser reads, the
one that breaks this is a `run_started` with profile revision zero: it is
written and acknowledged, but the reader refuses its line.
-/

namespace PlatoAgent

open AtomicProgram

/-- The bytes of a log with these records and no torn tail. -/
def logBytes (env : LedgerEnv) (records : List RecordedEvent) : List UInt8 :=
  records.flatMap (lineBytes env)

theorem logBytes_concat (env : LedgerEnv) (records : List RecordedEvent)
    (record : RecordedEvent) :
    logBytes env (records ++ [record]) =
      logBytes env records ++ lineBytes env record := by
  simp [logBytes]

theorem committed_logBytes (env : LedgerEnv) (records : List RecordedEvent) :
    Committed (logBytes env records) := by
  induction records using List.reverseRecOn with
  | nil => exact committed_nil
  | append_singleton front record ih =>
      rw [logBytes_concat]
      exact committed_lineBytes env _ record

/-- A log without a refused line is read back as it was written. -/
theorem recordsOf_logBytes {env : LedgerEnv} {records : List RecordedEvent}
    (readable : ∀ record ∈ records, record.event.refused = false) :
    recordsOf env (logBytes env records) = .ok records := by
  induction records using List.reverseRecOn with
  | nil => rfl
  | append_singleton front record ih =>
      have frontRead := ih fun other member => readable other (by simp [member])
      have valid := readBack_ok_iff.mpr (readable record (by simp))
      rw [logBytes_concat,
        recordsOf_append_line env (committed_logBytes env front), frontRead,
        valid]
      rfl

/-- A log with a refused line is not read at all. -/
theorem recordsOf_logBytes_refused (env : LedgerEnv)
    {records : List RecordedEvent} {record : RecordedEvent}
    (member : record ∈ records) (refused : record.event.refused = true) :
    ∃ error, recordsOf env (logBytes env records) = .error error := by
  induction records using List.reverseRecOn with
  | nil => exact absurd member List.not_mem_nil
  | append_singleton front last ih =>
      rw [logBytes_concat,
        recordsOf_append_line env (committed_logBytes env front)]
      rcases List.mem_append.mp member with old | added
      · obtain ⟨error, unread⟩ := ih old
        exact ⟨error, by rw [unread]; rfl⟩
      · obtain rfl : record = last := by simpa using added
        cases recordsOf env (logBytes env front) with
        | error error => exact ⟨error, rfl⟩
        | ok records =>
            cases unread : readBack record.event with
            | error error => exact ⟨error, rfl⟩
            | ok valid =>
                rw [readBack_ok_iff.mp unread] at refused
                cases refused

theorem recordsOf_logBytes_ok_iff {env : LedgerEnv}
    {records : List RecordedEvent} :
    recordsOf env (logBytes env records) = .ok records ↔
      ∀ record ∈ records, record.event.refused = false := by
  constructor
  · intro read record member
    by_contra refused
    obtain ⟨error, unread⟩ := recordsOf_logBytes_refused env member
      (by simpa using refused)
    rw [unread] at read
    cases read
  · exact recordsOf_logBytes

theorem eq_of_recordsOf_logBytes {env : LedgerEnv}
    {records found : List RecordedEvent}
    (read : recordsOf env (logBytes env records) = .ok found) :
    found = records := by
  by_cases readable : ∀ record ∈ records, record.event.refused = false
  · rw [recordsOf_logBytes readable] at read
    exact (Except.ok.inj read).symm
  · push Not at readable
    obtain ⟨record, member, refused⟩ := readable
    obtain ⟨error, unread⟩ := recordsOf_logBytes_refused env member
      (by simpa using refused)
    rw [unread] at read
    cases read

/-- The records acknowledged among the events, and the recorder at the end. -/
def JsonlEventRecorder.recordAll (env : LedgerEnv)
    (recorder : JsonlEventRecorder) (events : List HarnessEvent) :
    LedgerM (List RecordedEvent × JsonlEventRecorder) := do
  let (verdicts, final) ← offerAll (record env) recorder events
  pure (verdicts.reduceOption, final)

/-- The log holds exactly these records, and the recorder is at their end. -/
structure Logged (env : LedgerEnv) (workspace : Workspace)
    (recorder : JsonlEventRecorder) (records : List RecordedEvent) :
    Prop where
  content : workspace.files recorder.path = some (logBytes env records)
  replayed : RunState.replay records = .ok recorder.state
  healthy : recorder.poisoned = false

section Recording

variable {env : LedgerEnv} {workspace : Workspace}
  {recorder : JsonlEventRecorder} {records : List RecordedEvent}

theorem Logged.tick (logged : Logged env workspace recorder records) :
    Logged env workspace.tick recorder records :=
  ⟨logged.content, logged.replayed, logged.healthy⟩

theorem Logged.record_rejected
    (logged : Logged env workspace recorder records) {event : HarnessEvent}
    (refused : accepts recorder.sessionOpen recorder.state event = none) :
    ∃ error after,
      (recorder.record env event).run workspace = (.error error, after) ∧
        (after = workspace ∨ after = workspace.tick) := by
  by_cases gated : (recorder.sessionOpen && event.isRunEnd) = true
  · exact ⟨_, _, JsonlEventRecorder.record_run_gated gated, .inl rfl⟩
  · rcases nextRecordAt_of_not_accepts (env.clock workspace.clockReadings)
      refused with shut | ⟨error, rejected⟩
    · exact absurd shut gated
    · rw [JsonlEventRecorder.record_of_open (by simpa using gated)]
      exact ⟨error, _, JsonlEventRecorder.recordEvent_run_error logged.healthy
        rejected, .inr rfl⟩

/-- An accepted event appends its line. -/
theorem Logged.record_accepted
    (logged : Logged env workspace recorder records) {event : HarnessEvent}
    {state : RunState}
    (accepted : accepts recorder.sessionOpen recorder.state event =
      some state) :
    ∃ record after,
      record = recorder.state.stamp (env.clock workspace.clockReadings)
        event ∧
      (recorder.record env event).run workspace =
        (.ok (record, recorder.advanced state), after) ∧
      Logged env after (recorder.advanced state) (records ++ [record]) := by
  obtain ⟨free, offered⟩ := nextRecordAt_of_accepts
    (env.clock workspace.clockReadings) accepted
  obtain ⟨_, stepped⟩ := nextRecordAt_ok_iff.mp offered
  refine ⟨_, workspace.tick.modifyFile recorder.path
    (· ++ lineBytes env (recorder.state.stamp
      (env.clock workspace.clockReadings) event)), rfl, ?_, ?_, ?_,
    logged.healthy⟩
  · rw [JsonlEventRecorder.record_of_open free]
    exact JsonlEventRecorder.recordEvent_run_ok logged.healthy offered
  · simp [JsonlEventRecorder.advanced, logged.content, logBytes_concat]
  · exact RunState.replay_concat_ok_iff.mpr
      ⟨recorder.state, logged.replayed, stepped⟩

/-- The `run_started` among the events, if there is one. -/
def firstStart (events : List HarnessEvent) : Option HarnessEvent :=
  events.find? (·.isRunStarted)

/-- The first record is the `run_started` among the events. -/
def OpensWith (records : List RecordedEvent) (events : List HarnessEvent) :
    Prop :=
  records.head?.map (·.event) = firstStart events

theorem OpensWith.append {first second : List RecordedEvent}
    {offered more : List HarnessEvent} (opening : OpensWith first offered)
    (later : first = [] → OpensWith second more) :
    OpensWith (first ++ second) (offered ++ more) := by
  unfold OpensWith firstStart at *
  rw [List.find?_append, ← opening]
  cases first with
  | nil => simpa using later rfl
  | cons record rest => rfl

/-- Each verdict is about its event: an acknowledged record carries it. -/
def VerdictsOn (verdicts : List (Option RecordedEvent))
    (events : List HarnessEvent) : Prop :=
  List.Forall₂ (fun verdict event =>
    ∀ record, verdict = some record → record.event = event) verdicts events

theorem VerdictsOn.event_mem {verdicts : List (Option RecordedEvent)}
    {events : List HarnessEvent} (offered : VerdictsOn verdicts events)
    {record : RecordedEvent} (member : record ∈ verdicts.reduceOption) :
    record.event ∈ events := by
  induction offered with
  | nil => cases member
  | @cons verdict event _ _ isEvent _ ih =>
      cases verdict with
      | none => exact List.mem_cons_of_mem _ (ih (by simpa using member))
      | some first =>
          rw [List.reduceOption_cons_of_some, List.mem_cons] at member
          rcases member with rfl | later
          · rw [isEvent record rfl]
            exact List.mem_cons_self
          · exact List.mem_cons_of_mem _ (ih later)

/-- What several calls leave behind. -/
structure RecordsAll (env : LedgerEnv) (after : Workspace)
    (recorder final : JsonlEventRecorder) (records : List RecordedEvent)
    (verdicts : List (Option RecordedEvent)) (events : List HarnessEvent) :
    Prop where
  logged : Logged env after final (records ++ verdicts.reduceOption)
  path : final.path = recorder.path
  session : final.session = recorder.session
  opening : records = [] → OpensWith verdicts.reduceOption events
  core : verdicts.map (·.isSome) =
    coreVerdicts recorder.sessionOpen recorder.state events
  offered : VerdictsOn verdicts events

theorem Logged.offerAll (logged : Logged env workspace recorder records)
    (events : List HarnessEvent) :
    ∃ verdicts final after,
      (offerAll (JsonlEventRecorder.record env) recorder events).run
        workspace = (.ok (verdicts, final), after) ∧
      RecordsAll env after recorder final records verdicts events := by
  induction events generalizing workspace recorder records with
  | nil =>
      exact ⟨[], recorder, workspace, rfl, by simpa using logged, rfl, rfl,
        fun _ => rfl, rfl, .nil⟩
  | cons event rest ih =>
      have shape := RunState.ledgerShape_of_replay logged.replayed
      have starts := @accepts_new_isSome recorder.sessionOpen event
      cases accepted : accepts recorder.sessionOpen recorder.state event with
      | none =>
          obtain ⟨error, middle, ran, middleCases⟩ :=
            logged.record_rejected accepted
          have kept : Logged env middle recorder records := by
            rcases middleCases with rfl | rfl
            · exact logged
            · exact logged.tick
          obtain ⟨verdicts, final, after, finished, result⟩ := ih kept
          refine ⟨none :: verdicts, final, after,
            offerAll_run_rejected ran finished, ?_⟩
          refine
            { logged := by simpa using result.logged, path := result.path,
              session := result.session, opening := ?_, core := ?_,
              offered := .cons (by simp) result.offered }
          · intro empty
            rw [shape.initial empty] at accepted
            rw [accepted] at starts
            rw [OpensWith, firstStart,
              List.find?_cons_of_neg (by simpa using starts)]
            simpa [OpensWith, firstStart] using result.opening empty
          · simpa [coreVerdicts, accepted] using result.core
      | some state =>
          obtain ⟨record, middle, isStamp, ran, extended⟩ :=
            logged.record_accepted accepted
          obtain ⟨verdicts, final, after, finished, result⟩ := ih extended
          refine ⟨some record :: verdicts, final, after,
            offerAll_run_accepted ran finished, ?_⟩
          refine
            { logged := by simpa using result.logged, path := result.path,
              session := result.session, opening := ?_, core := ?_,
              offered := .cons ?_ result.offered }
          · intro empty
            rw [shape.initial empty] at accepted
            rw [accepted] at starts
            rw [OpensWith, firstStart,
              List.find?_cons_of_pos (by simpa using starts.symm)]
            simp [isStamp, RunState.stamp]
          · have core : verdicts.map (·.isSome) =
                coreVerdicts recorder.sessionOpen state rest := result.core
            simp [coreVerdicts, accepted, core]
          · intro acknowledged same
            obtain rfl := Option.some.inj same
            simp [isStamp, RunState.stamp]

theorem Logged.recordAll (logged : Logged env workspace recorder records)
    (events : List HarnessEvent) :
    ∃ verdicts final after,
      (recorder.recordAll env events).run workspace =
        (.ok (verdicts.reduceOption, final), after) ∧
      RecordsAll env after recorder final records verdicts events := by
  obtain ⟨verdicts, final, after, offered, result⟩ := logged.offerAll events
  refine ⟨verdicts, final, after, ?_, result⟩
  rw [JsonlEventRecorder.recordAll, Program.run_bind_ok offered]
  rfl

end Recording

/-- The `run_started` among the events, if there is one, does not name profile
revision zero. -/
def StartsPositive (events : List HarnessEvent) : Prop :=
  ∀ start, firstStart events = some start → start.zeroRevision = false

theorem HarnessEvent.isRunStarted_of_zeroRevision {event : HarnessEvent}
    (zero : event.zeroRevision = true) : event.isRunStarted = true := by
  cases event with
  | runStarted => rfl
  | _ => cases zero

/-- Only the opening record can have a refused identity. -/
theorem forall_positive_iff {records : List RecordedEvent} {state : RunState}
    {events : List HarnessEvent} (replayed : RunState.replay records = .ok state)
    (opening : OpensWith records events) :
    (∀ record ∈ records, record.event.zeroRevision = false) ↔
      StartsPositive events := by
  have shape := RunState.ledgerShape_of_replay replayed
  unfold StartsPositive
  rw [← opening]
  cases records with
  | nil => simp
  | cons first rest =>
      obtain ⟨_, others⟩ := shape.opening first rest rfl
      constructor
      · intro positive start isFirst
        obtain rfl : first.event = start := by simpa using isFirst
        exact positive first List.mem_cons_self
      · intro positive record member
        rcases List.mem_cons.mp member with rfl | later
        · exact positive _ rfl
        · by_contra zero
          have start := HarnessEvent.isRunStarted_of_zeroRevision
            (by simpa using zero)
          simp [others record later] at start

/-- The lines of these records are short of the depth that the parser reads. -/
def FitLines (records : List RecordedEvent) : Prop :=
  ∀ record ∈ records, record.event.fitsLine = true

/-- Of the lines that the parser reads, only the opening one can be refused. -/
theorem FitLines.readable_iff {records : List RecordedEvent} {state : RunState}
    {events : List HarnessEvent} (fit : FitLines records)
    (replayed : RunState.replay records = .ok state)
    (opening : OpensWith records events) :
    (∀ record ∈ records, record.event.refused = false) ↔
      StartsPositive events := by
  rw [← forall_positive_iff replayed opening]
  refine forall₂_congr fun record member => ?_
  simp [HarnessEvent.refused, fit record member]

/-- The log holds the lines of records that replay, and then a torn tail. -/
structure TornLog (env : LedgerEnv) (workspace : Workspace) (path : String)
    (records : List RecordedEvent) : Prop where
  content : ∃ tail, newline ∉ tail ∧
    workspace.files path = some (logBytes env records ++ tail)
  replayed : ∃ state, RunState.replay records = .ok state

/-- What a crash must leave: the survivors are read, the log opens at their
end, and what is recorded from there is read after them. -/
structure TornTailContract (env : LedgerEnv) (path : String)
    (crashed : Workspace) (survivors : List RecordedEvent)
    (more : List HarnessEvent) : Prop where
  read : ((readRecords env path).run crashed).1 = .ok survivors
  opened : ∃ recorder after,
    (JsonlEventRecorder.reopen env path).run crashed = (.ok recorder, after) ∧
      RunState.replay survivors = .ok recorder.state ∧
      ∃ added final finished,
        (recorder.recordAll env more).run after =
          (.ok (added, final), finished) ∧
        (survivors ++ added).map (·.seq) =
          (List.range (survivors ++ added).length).map UInt64.ofNat ∧
        ((readRecords env path).run finished).1 = .ok (survivors ++ added)

section Crash

variable {env : LedgerEnv} {workspace crashed : Workspace} {path : String}
  {recorder : JsonlEventRecorder} {records : List RecordedEvent}
  {events more : List HarnessEvent} {next : HarnessEvent}

theorem Logged.readRecords_ok_iff
    (logged : Logged env workspace recorder records) :
    ((readRecords env recorder.path).run workspace).1 = .ok records ↔
      ∀ record ∈ records, record.event.refused = false := by
  rw [readRecords_run logged.content]
  exact recordsOf_logBytes_ok_iff

/-- Opening a torn log without refused lines puts a recorder at the end of its
records. -/
theorem TornLog.reopen (log : TornLog env workspace path records)
    (named : path ≠ "")
    (readable : ∀ record ∈ records, record.event.refused = false) :
    ((readRecords env path).run workspace).1 = .ok records ∧
      ∃ state, RunState.replay records = .ok state ∧
        (JsonlEventRecorder.reopen env path).run workspace =
          (.ok (.reopened path state), workspace.modifyFile path
            (·.take (logBytes env records).length)) ∧
        Logged env (workspace.modifyFile path
          (·.take (logBytes env records).length))
          (.reopened path state) records := by
  obtain ⟨tail, torn, content⟩ := log.content
  obtain ⟨state, replayed⟩ := log.replayed
  have complete := committed_logBytes env records
  have read : recordsOf env (logBytes env records ++ tail) = .ok records := by
    rw [recordsOf_torn env complete torn]
    exact recordsOf_logBytes readable
  have opened := JsonlEventRecorder.reopen_run_ok named content read
    (show replayRecords records = .ok state by rw [replayRecords, replayed]; rfl)
  rw [committedLength_append complete torn] at opened
  refine ⟨?_, state, replayed, opened, ?_, replayed, rfl⟩
  · rw [readRecords_run content]
    exact read
  · simp [JsonlEventRecorder.reopened, content]

/-- Recording goes on from the end of a log, and the whole is read back unless
its identity is refused. -/
theorem Logged.continues (logged : Logged env workspace recorder records)
    (opening : OpensWith records events) (fit : FitLines records)
    (moreFit : ∀ event ∈ more, event.fitsLine = true) :
    ∃ added final finished,
      (recorder.recordAll env more).run workspace =
        (.ok (added, final), finished) ∧
      (records ++ added).map (·.seq) =
        (List.range (records ++ added).length).map UInt64.ofNat ∧
      (((readRecords env recorder.path).run finished).1 =
          .ok (records ++ added) ↔ StartsPositive (events ++ more)) := by
  obtain ⟨verdicts, final, finished, ran, result⟩ := logged.recordAll more
  have shape := RunState.ledgerShape_of_replay result.logged.replayed
  refine ⟨verdicts.reduceOption, final, finished, ran, shape.seqs, ?_⟩
  have allFit : FitLines (records ++ verdicts.reduceOption) := by
    intro record member
    rcases List.mem_append.mp member with old | added
    · exact fit record old
    · exact moreFit _ (result.offered.event_mem added)
  rw [← result.path, result.logged.readRecords_ok_iff]
  exact allFit.readable_iff result.logged.replayed
    (opening.append result.opening)

/-- The contract holds after a crash exactly if no refused identity is or will
be in the log. -/
theorem TornLog.contract_iff (log : TornLog env crashed path records)
    (named : path ≠ "") (opening : OpensWith records events)
    (fit : FitLines records)
    (moreFit : ∀ event ∈ more, event.fitsLine = true) :
    TornTailContract env path crashed records more ↔
      StartsPositive (events ++ more) := by
  obtain ⟨state, replayed⟩ := log.replayed
  constructor
  · intro contract
    obtain ⟨tail, torn, content⟩ := log.content
    have read : recordsOf env (logBytes env records) = .ok records := by
      have read := contract.read
      rw [readRecords_run content,
        recordsOf_torn env (committed_logBytes env records) torn] at read
      exact read
    obtain ⟨_, state, _, opened, logged⟩ :=
      log.reopen named (recordsOf_logBytes_ok_iff.mp read)
    obtain ⟨added, final, finished, ran, _, readBack⟩ :=
      logged.continues opening fit moreFit
    obtain ⟨recorder, after, reopened, _, added', final', finished', ran', _,
      read'⟩ := contract.opened
    rw [opened] at reopened
    cases reopened
    rw [ran] at ran'
    cases ran'
    exact readBack.mp read'
  · intro positive
    have survivorsPositive : StartsPositive events := by
      intro start found
      refine positive start ?_
      rw [firstStart, List.find?_append, ← firstStart, found]
      rfl
    obtain ⟨read, state, replayed, opened, logged⟩ := log.reopen named
      ((fit.readable_iff replayed opening).mpr survivorsPositive)
    obtain ⟨added, final, finished, ran, seqs, readBack⟩ :=
      logged.continues opening fit moreFit
    exact ⟨read, _, _, opened, replayed, added, final, finished, ran, seqs,
      readBack.mpr positive⟩

/-- The records that must survive a crash of `record`: the acknowledged ones,
and the next one if its whole line reached the log. -/
def survivors (env : LedgerEnv) (recorder : JsonlEventRecorder)
    (records : List RecordedEvent) (next : HarnessEvent)
    (workspace crashed : Workspace) : List RecordedEvent :=
  let record := recorder.state.stamp (env.clock workspace.clockReadings) next
  if crashed.files recorder.path =
      (workspace.files recorder.path).map (· ++ lineBytes env record) then
    records ++ [record]
  else
    records

theorem lineBytes_ne_nil (env : LedgerEnv) (record : RecordedEvent) :
    lineBytes env record ≠ [] := by
  simp [lineBytes]

/-- A log whose bytes did not change lost nothing and gained nothing. -/
theorem Logged.survivors_unchanged
    (logged : Logged env workspace recorder records)
    (same : crashed.files = workspace.files) :
    survivors env recorder records next workspace crashed = records := by
  unfold survivors
  rw [if_neg]
  rw [same, logged.content]
  simp [lineBytes_ne_nil]

theorem Logged.tornLog (logged : Logged env workspace recorder records)
    (same : crashed.files = workspace.files) :
    TornLog env crashed recorder.path records := by
  refine ⟨⟨[], List.not_mem_nil, ?_⟩, recorder.state, logged.replayed⟩
  rw [same, logged.content, List.append_nil]

/-- What is left of a call of `record` that was cut: the log as it was, with a
torn tail, or the log with the next line. -/
theorem Logged.crash_cases (logged : Logged env workspace recorder records)
    (passes : (recorder.record env next).Passes workspace crashed) :
    TornLog env crashed recorder.path
        (survivors env recorder records next workspace crashed) ∧
      (survivors env recorder records next workspace crashed = records ∨
        survivors env recorder records next workspace crashed = records ++
            [recorder.state.stamp (env.clock workspace.clockReadings) next] ∧
          ∃ after, recorder.state.next (recorder.state.stamp
            (env.clock workspace.clockReadings) next) = .ok after) := by
  -- Nothing was written.
  have untouched : crashed.files = workspace.files →
      TornLog env crashed recorder.path
          (survivors env recorder records next workspace crashed) ∧
        survivors env recorder records next workspace crashed = records := by
    intro same
    rw [logged.survivors_unchanged same]
    exact ⟨logged.tornLog same, rfl⟩
  by_cases gated : (recorder.sessionOpen && next.isRunEnd) = true
  · have same : crashed = workspace := by
      rw [JsonlEventRecorder.record, requireApp_of_not (by simp [gated]),
        Program.ofExcept_error_bind, Program.passes_ofExcept] at passes
      exact passes
    obtain ⟨log, kept⟩ := untouched (by rw [same])
    exact ⟨log, .inl kept⟩
  · rw [JsonlEventRecorder.record_of_open (by simpa using gated)] at passes
    rcases JsonlEventRecorder.recordEvent_passes logged.healthy passes with
      rfl | rfl | ⟨record, after, accepted, count, bound, rfl⟩
    · obtain ⟨log, kept⟩ := untouched rfl
      exact ⟨log, .inl kept⟩
    · obtain ⟨log, kept⟩ := untouched rfl
      exact ⟨log, .inl kept⟩
    · obtain ⟨rfl, stepped⟩ := nextRecordAt_ok_iff.mp accepted
      rcases Nat.lt_or_eq_of_le bound with torn | whole
      · have kept : survivors env recorder records next workspace
            (workspace.tick.modifyFile recorder.path (· ++ (lineBytes env
              (recorder.state.stamp (env.clock workspace.clockReadings)
                next)).take count)) = records := by
          unfold survivors
          rw [if_neg]
          intro same
          have lengths := congrArg (Option.map List.length) same
          simp [logged.content] at lengths
          omega
        rw [kept]
        refine ⟨⟨⟨_, newline_not_mem_take_lineBytes torn, ?_⟩, recorder.state,
          logged.replayed⟩, .inl rfl⟩
        simp [logged.content]
      · subst whole
        rw [List.take_length]
        have gained : survivors env recorder records next workspace
            (workspace.tick.modifyFile recorder.path (· ++ lineBytes env
              (recorder.state.stamp (env.clock workspace.clockReadings)
                next))) = records ++ [recorder.state.stamp
                  (env.clock workspace.clockReadings) next] := by
          unfold survivors
          rw [if_pos]
          simp
        rw [gained]
        refine ⟨⟨⟨[], List.not_mem_nil, ?_⟩, after,
          RunState.replay_concat_ok_iff.mpr
            ⟨_, logged.replayed, stepped⟩⟩, .inr ⟨rfl, after, stepped⟩⟩
        simp [logged.content, logBytes_concat]

/-- A fresh recorder is at the end of an empty log. -/
theorem logged_of_create (env : LedgerEnv) {start opened : Workspace}
    {fresh : JsonlEventRecorder} (session : Option JsonlSession)
    (created : (JsonlEventRecorder.create path).run start =
      (.ok fresh, opened)) :
    path ≠ "" ∧ fresh = .reopened path .new ∧
      Logged env opened { fresh with session := session } [] := by
  have named : path ≠ "" := by
    rintro rfl
    cases created
  rw [JsonlEventRecorder.create, requireApp_of (by simpa using named),
    Program.pure_bind, createNewFile] at created
  cases content : start.files path with
  | some bytes =>
      rw [Program.run_bind, Program.run_transact, content] at created
      cases created
  | none =>
      rw [Program.run_bind, Program.run_transact, content] at created
      cases created
      exact ⟨named, rfl, by simp [logBytes], rfl, rfl⟩

/-- A crash of `record` at any byte loses nothing that was acknowledged and the
log goes on, exactly if the `run_started` it opens with is not of revision
zero; the event in flight counts as offered or not, as the crash decides.  The
events are such that the parser reads their lines. -/
theorem tornTailContract_iff_startsPositive {start opened before : Workspace}
    {fresh : JsonlEventRecorder} {acks : List RecordedEvent}
    (session : Option JsonlSession) (events more : List HarnessEvent)
    (next : HarnessEvent)
    (created : (JsonlEventRecorder.create path).run start =
      (.ok fresh, opened))
    (recorded : (JsonlEventRecorder.recordAll env
      { fresh with session := session } events).run opened =
        (.ok (acks, recorder), before))
    (roundTrips : ∀ event ∈ events ++ next :: more, event.fitsLine = true) :
    (∀ crashed, (recorder.record env next).Passes before crashed →
      TornTailContract env path crashed
        (survivors env recorder acks next before crashed) more) ↔
      StartsPositive (events ++ more) ∧
        StartsPositive (events ++ next :: more) := by
  obtain ⟨named, rfl, empty⟩ := logged_of_create env session created
  obtain ⟨verdicts, _, _, ran, result⟩ := empty.recordAll events
  rw [recorded] at ran
  simp only [Prod.mk.injEq, Except.ok.injEq] at ran
  obtain ⟨⟨isAcks, rfl⟩, rfl⟩ := ran
  have logged : Logged env before recorder acks := by
    rw [isAcks]
    exact result.logged
  have opening : OpensWith acks events := by
    rw [isAcks]
    exact result.opening rfl
  have fit : FitLines acks := by
    intro record member
    rw [isAcks] at member
    exact roundTrips _ (List.mem_append_left _
      (result.offered.event_mem member))
  have nextFit : next.fitsLine = true := roundTrips next (by simp)
  have moreFit : ∀ event ∈ more, event.fitsLine = true := fun event member =>
    roundTrips event (by simp [member])
  have fitNext : FitLines (acks ++ [recorder.state.stamp
      (env.clock before.clockReadings) next]) := by
    intro record member
    rcases List.mem_append.mp member with old | added
    · exact fit record old
    · obtain rfl := List.mem_singleton.mp added
      exact nextFit
  have samePath : recorder.path = path := result.path
  have shape := RunState.ledgerShape_of_replay logged.replayed
  -- With the next record in the log, the next event counts as offered.
  have openingNext : ∀ {after}, recorder.state.next (recorder.state.stamp
      (env.clock before.clockReadings) next) = .ok after →
      OpensWith (acks ++ [recorder.state.stamp
        (env.clock before.clockReadings) next]) (events ++ [next]) := by
    intro after accepted
    refine opening.append fun initial => ?_
    rw [shape.initial initial] at accepted ⊢
    have isStart := RunState.next_new_ok_iff.mp ⟨after, accepted⟩
    rw [OpensWith, firstStart, List.find?_cons_of_pos isStart]
    rfl
  rw [← samePath]
  rw [← samePath] at named
  have afterNext : events ++ next :: more = events ++ [next] ++ more := by simp
  constructor
  · intro contract
    have uncut := contract before (Program.passes_start _ _)
    rw [logged.survivors_unchanged rfl] at uncut
    have log := logged.tornLog rfl
    have first := (log.contract_iff named opening fit moreFit).mp uncut
    refine ⟨first, ?_⟩
    rw [afterNext]
    cases accepted : accepts recorder.sessionOpen recorder.state next with
    | none =>
        refine (log.contract_iff named ?_ fit moreFit).mp uncut
        have quiet : OpensWith (acks ++ []) (events ++ [next]) := by
          refine opening.append fun initial => ?_
          have starts := @accepts_new_isSome recorder.sessionOpen next
          rw [shape.initial initial] at accepted
          rw [accepted] at starts
          rw [OpensWith, firstStart,
            List.find?_cons_of_neg (by simpa using starts)]
          rfl
        simpa using quiet
    | some state =>
        obtain ⟨record, after, rfl, ran, extended⟩ :=
          logged.record_accepted accepted
        have passes := Program.passes_end (recorder.record env next) before
        rw [ran] at passes
        have cut := contract _ passes
        have gained : survivors env recorder acks next before after =
            acks ++ [recorder.state.stamp (env.clock before.clockReadings)
              next] := by
          unfold survivors
          rw [if_pos]
          have content := extended.content
          rw [logBytes_concat] at content
          rw [logged.content]
          exact content
        obtain ⟨_, offered⟩ := nextRecordAt_of_accepts
          (env.clock before.clockReadings) accepted
        obtain ⟨_, stepped⟩ := nextRecordAt_ok_iff.mp offered
        rw [gained] at cut
        exact ((extended.tornLog rfl).contract_iff named
          (openingNext stepped) fitNext moreFit).mp cut
  · rintro ⟨without, withNext⟩ crashed passes
    obtain ⟨log, kept | ⟨gained, after, stepped⟩⟩ := logged.crash_cases passes
    · rw [kept] at log ⊢
      exact (log.contract_iff named opening fit moreFit).mpr without
    · rw [gained] at log ⊢
      rw [afterNext] at withNext
      exact (log.contract_iff named (openingNext stepped) fitNext
        moreFit).mpr withNext

/-- The log of the first run. -/
def firstLog : String :=
  runJsonlPath firstRun

/-- A workspace whose only file is the empty log of the first run. -/
def withFirstLog : Workspace :=
  { Workspace.empty with
    files := Function.update Workspace.empty.files firstLog (some []) }

theorem create_firstLog :
    (JsonlEventRecorder.create firstLog).run Workspace.empty =
      (.ok (.reopened firstLog .new), withFirstLog) :=
  rfl

/-- A single `run_started` is acknowledged, whatever its identity is. -/
theorem recordAll_start {start : HarnessEvent}
    (isStart : start.isRunStarted = true) :
    ∃ record recorder before,
      (JsonlEventRecorder.recordAll ledgerEnv (.reopened firstLog .new)
        [start]).run withFirstLog = (.ok ([record], recorder), before) ∧
      record.event = start ∧ recorder.path = firstLog ∧
      Logged ledgerEnv before recorder [record] := by
  have empty : Logged ledgerEnv withFirstLog (.reopened firstLog .new) [] :=
    (logged_of_create ledgerEnv none create_firstLog).2.2
  obtain ⟨accepted, stepped⟩ := Option.isSome_iff_exists.mp
    ((@accepts_new_isSome false start).trans isStart)
  obtain ⟨record, after, isStamp, ran, logged⟩ := empty.record_accepted stepped
  refine ⟨record, _, after, ?_, by rw [isStamp]; rfl, rfl, logged⟩
  rw [JsonlEventRecorder.recordAll,
    Program.run_bind_ok (offerAll_run_accepted ran rfl)]
  rfl

/-- A run that starts with an agent identity survives every crash of its
failure. -/
theorem tornTailContract_agentStart :
    ∃ record recorder before,
      (JsonlEventRecorder.recordAll ledgerEnv (.reopened firstLog .new)
        [agentStart firstRun]).run withFirstLog =
        (.ok ([record], recorder), before) ∧
      record.event = agentStart firstRun ∧
      ∀ crashed, (recorder.record ledgerEnv
          (.runFailed firstRun "stopped")).Passes before crashed →
        TornTailContract ledgerEnv firstLog crashed
          (survivors ledgerEnv recorder [record]
            (.runFailed firstRun "stopped") before crashed)
          [.runFailed firstRun "failed"] := by
  obtain ⟨record, recorder, before, ran, isStart, _⟩ :=
    @recordAll_start (agentStart firstRun) rfl
  refine ⟨record, recorder, before, ran, isStart, ?_⟩
  refine (tornTailContract_iff_startsPositive none [agentStart firstRun]
    [.runFailed firstRun "failed"] (.runFailed firstRun "stopped")
    create_firstLog ran (by decide)).mpr ⟨?_, ?_⟩
  · rintro start ⟨⟩
    rfl
  · rintro start ⟨⟩
    rfl

/-- A `run_started` with profile revision zero is acknowledged, and the log
cannot be read from then on, even without a crash. -/
theorem not_tornTailContract_zeroRevision :
    ∃ record recorder before,
      (JsonlEventRecorder.recordAll ledgerEnv (.reopened firstLog .new)
        [zeroRevisionStart firstRun]).run withFirstLog =
        (.ok ([record], recorder), before) ∧
      record.event = zeroRevisionStart firstRun ∧
      (recorder.record ledgerEnv (.runFailed firstRun "stopped")).Passes before
        before ∧
      survivors ledgerEnv recorder [record] (.runFailed firstRun "stopped")
        before before = [record] ∧
      ¬ TornTailContract ledgerEnv firstLog before [record] [] := by
  obtain ⟨record, recorder, before, ran, isStart, path, logged⟩ :=
    @recordAll_start (zeroRevisionStart firstRun) rfl
  refine ⟨record, recorder, before, ran, isStart, Program.passes_start _ _,
    logged.survivors_unchanged rfl, fun contract => ?_⟩
  have read := contract.read
  rw [← path, logged.readRecords_ok_iff] at read
  have readable := read record List.mem_cons_self
  rw [isStart] at readable
  cases readable

end Crash

end PlatoAgent
