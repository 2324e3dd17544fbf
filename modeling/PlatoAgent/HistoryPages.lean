import PlatoAgent.LedgerText
import PlatoAgent.RunReadback

/-!
# Pages of the history of a thread

The runs of a thread are the runs of its session.  A page of their records is
cut by a limit and by the size of its text; a record that is too large alone is
replaced by a stand-in.  The ledger can grow between two reads of it, so that
it is given as a sequence: the ledger that the first read sees, and so on.
-/

namespace PlatoAgent

namespace LogicalReads

inductive LogicalReadErrorCode where
  | invalidRequest | crossProfile | membershipDenied | notFound | readFailed
  deriving DecidableEq, Repr

structure ReadError where
  code : LogicalReadErrorCode
  message : String
  deriving DecidableEq, Repr

namespace ReadError

def invalid (message : String) : ReadError :=
  ⟨.invalidRequest, message⟩

def membership : ReadError :=
  ⟨.membershipDenied, "target is not a member of the current profile"⟩

/-- An error of the ledger or of the replay. -/
def failed : ReadError :=
  ⟨.readFailed, "profile read failed"⟩

def noHistory : ReadError :=
  ⟨.notFound, "thread has no committed history"⟩

end ReadError

/-- A run of a session with its records; both counts are bounded by the
integers of SQLite and the size of the address space. -/
structure SessionRunRecords where
  runId : String
  sessionIndex : Nat
  status : RunStateName
  records : List RecordedEvent
  index_lt : sessionIndex + 1 < 2 ^ 63
  length_lt : records.length < 2 ^ 63

/-- The session of a thread, with its runs in `session_index` order. -/
structure SessionHistory where
  exists? : Bool
  runs : List SessionRunRecords
  ordered : runs.Pairwise fun first second =>
    first.sessionIndex < second.sessionIndex

namespace SessionHistory

/-- `read_session_run_at_or_after`.  A run without records is not found. -/
def readSessionRunAtOrAfter (history : SessionHistory) (sessionIndex : Nat) :
    Except ReadError (Option SessionRunRecords) :=
  if !history.exists? then .error .noHistory
  else if 2 ^ 63 ≤ sessionIndex then .error .failed
  else match history.runs.find? (sessionIndex ≤ ·.sessionIndex) with
  | none => .ok none
  | some run => if run.records.isEmpty then .error .failed else .ok (some run)

/-- `run_session_location`, for the runs of this session. -/
def runSessionIndex (history : SessionHistory) (runId : String) : Option Nat :=
  (history.runs.find? (·.runId == runId)).map (·.sessionIndex)

end SessionHistory

def historyCursor (sessionIndex entryIndex : Nat) : String :=
  String.ofList
    (Nat.toDigits 10 sessionIndex ++ ':' :: Nat.toDigits 10 entryIndex)

/-- `str::parse` for 64-bit unsigned integers. -/
def parseUnsigned (text : List Char) : Option Nat :=
  let digits := if text.head? = some '+' then text.tail else text
  if digits.isEmpty || !digits.all Char.isDigit then none
  else
    let value := Nat.ofDigitChars 10 digits 0
    if value < 2 ^ 64 then some value else none

def parseHistoryCursor (cursor : String) : Except ReadError (Nat × Nat) :=
  let invalid := .error (.invalid "invalid history cursor")
  match cursor.toList.dropWhile (· != ':') with
  | [] => invalid
  | _ :: entryIndex =>
      match parseUnsigned (cursor.toList.takeWhile (· != ':')),
        parseUnsigned entryIndex with
      | some sessionIndex, some entryIndex => .ok (sessionIndex, entryIndex)
      | _, _ => invalid

inductive ProfileEventEntry where
  | event (sessionIndex : Nat) (runId : String) (record : RecordedEvent)
  | omitted (sessionIndex : Nat) (runId : String) (sequence : UInt64)
      (event : String) (serializedBytes : Nat) (reason : String)

structure ThreadEventsResult where
  threadId : String
  entries : List ProfileEventEntry
  truncated : Bool
  nextCursor : Option String

def maxLogicalReadSerializedBytes : Nat :=
  256 * 1024

namespace ProfileEventEntry

def value : ProfileEventEntry → Value
  | .event sessionIndex runId record =>
      .object [("entry", .string "event"),
        ("session_index", LedgerText.u64 (.ofNat sessionIndex)),
        ("run_id", .string runId),
        ("record", LedgerText.recordedEvent record)]
  | .omitted sessionIndex runId sequence name serializedBytes reason =>
      .object [("entry", .string "omitted"),
        ("session_index", LedgerText.u64 (.ofNat sessionIndex)),
        ("run_id", .string runId),
        ("sequence", LedgerText.u64 sequence),
        ("event", .string name),
        ("serialized_bytes", LedgerText.u64 (.ofNat serializedBytes)),
        ("reason", .string reason)]

end ProfileEventEntry

namespace ThreadEventsResult

/-- The value of `LogicalReadToolOutput::Ok` with this result. -/
def outputValue (result : ThreadEventsResult) : Value :=
  .object [("status", .string "ok"),
    ("result", .object [("kind", .string "thread_events"),
      ("thread_id", .string result.threadId),
      ("entries", .array (result.entries.map (·.value))),
      ("truncated", .bool result.truncated),
      ("next_cursor", LedgerText.nullable .string result.nextCursor)])]

def serializedFits (json : JsonWriter) (result : ThreadEventsResult) : Bool :=
  (json.toVec result.outputValue).length < maxLogicalReadSerializedBytes

end ThreadEventsResult

def eventEntryFits (json : JsonWriter) (threadId : String)
    (entry : ProfileEventEntry) : Bool :=
  ThreadEventsResult.serializedFits json ⟨threadId, [entry], true,
    some "18446744073709551615:18446744073709551615"⟩

/-- The entry of a record: the record, or a stand-in for one that is too
large. -/
def eventEntry (json : JsonWriter) (threadId : String)
    (run : SessionRunRecords) (record : RecordedEvent) :
    ProfileEventEntry × Bool :=
  let normal := .event run.sessionIndex run.runId record
  if eventEntryFits json threadId normal then (normal, false)
  else
    (.omitted run.sessionIndex run.runId record.seq record.event.name
      (json.toVec normal.value).length
      "entry exceeded the serialized response cap", true)

structure HistorySource where
  exactRunId : Option String
  sessionIndex : Nat
  entryIndex : Nat
  currentRun : Option SessionRunRecords
  /-- The reads of the ledger so far. -/
  reads : Nat

structure HistoryEvent where
  position : String
  run : SessionRunRecords
  record : RecordedEvent

/-- The recorded identity of the run is the profile. -/
def isOfProfile (readback : RunReadback) (profileId : ProfileId) : Bool :=
  match readback.identity with
  | some (.profile other _) => other == profileId
  | _ => false

section Reading

variable (ledgers : Nat → SessionHistory) (profileId : ProfileId)

namespace HistorySource

def ensureRun (source : HistorySource) : Except ReadError HistorySource :=
  if source.currentRun.isSome then .ok source
  else match (ledgers source.reads).readSessionRunAtOrAfter
      source.sessionIndex with
  | .error error => .error error
  | .ok none => .ok { source with reads := source.reads + 1 }
  | .ok (some run) =>
      if run.sessionIndex ≠ source.sessionIndex ∧ source.entryIndex ≠ 0 then
        .error (.invalid "history cursor is out of range")
      else if source.exactRunId.any (· != run.runId) then .error .membership
      else match RunReadback.fromEvents run.records with
      | .error _ => .error .failed
      | .ok readback =>
          if isOfProfile readback profileId then
            .ok { source with
              sessionIndex := run.sessionIndex
              currentRun := some run
              reads := source.reads + 1 }
          else .error .membership

theorem ensureRun_sessionIndex_le {ledgers : Nat → SessionHistory}
    {profileId : ProfileId} {source after : HistorySource}
    (ensured : source.ensureRun ledgers profileId = .ok after) :
    source.sessionIndex ≤ after.sessionIndex := by
  unfold ensureRun at ensured
  split at ensured
  · cases ensured
    exact le_rfl
  split at ensured
  · cases ensured
  · cases ensured
    exact le_rfl
  next run found =>
    have later : source.sessionIndex ≤ run.sessionIndex := by
      unfold SessionHistory.readSessionRunAtOrAfter at found
      split at found
      · cases found
      split at found
      · cases found
      split at found
      · cases found
      next isRun =>
        split at found
        · cases found
        · cases found
          simpa using List.find?_some isRun
    split at ensured
    · cases ensured
    split at ensured
    · cases ensured
    split at ensured
    · cases ensured
    split at ensured
    · cases ensured
      exact later
    · cases ensured

def nextEvent (source : HistorySource) :
    Except ReadError (Option HistoryEvent × HistorySource) :=
  match _ensured : source.ensureRun ledgers profileId with
  | .error error => .error error
  | .ok source' =>
      match source'.currentRun with
      | none => .ok (none, source')
      | some run =>
          if run.records.length < source'.entryIndex then
            .error (.invalid "event cursor is out of range")
          else match run.records[source'.entryIndex]? with
          | some record =>
              .ok (some ⟨historyCursor run.sessionIndex source'.entryIndex, run,
                  record⟩,
                { source' with entryIndex := source'.entryIndex + 1 })
          | none =>
              if source'.exactRunId.isSome then .ok (none, source')
              else if source'.sessionIndex + 1 < 2 ^ 64 then
                nextEvent { source' with
                  sessionIndex := source'.sessionIndex + 1
                  entryIndex := 0
                  currentRun := none }
              else .error (.invalid "history cursor overflowed")
termination_by 2 ^ 64 - source.sessionIndex
decreasing_by
  have later := ensureRun_sessionIndex_le _ensured
  omega

/-- `HistorySource::open`; the first read of the ledger finds the selected
run. -/
def «open» (runId cursor : Option String) : Except ReadError HistorySource :=
  match runId.map fun runId =>
      ((ledgers 0).runSessionIndex runId).map fun index => (runId, index) with
  | some none => .error .membership
  | selected =>
      let exact := selected.join
      match cursor.map parseHistoryCursor with
      | some (.error error) => .error error
      | some (.ok (sessionIndex, entryIndex)) =>
          if exact.any (·.2 != sessionIndex) then
            .error (.invalid "cursor does not belong to the selected run")
          else
            .ok ⟨exact.map (·.1), sessionIndex, entryIndex, none, 1⟩
      | none =>
          .ok ⟨exact.map (·.1), exact.elim 0 (·.2), 0, none, 1⟩

end HistorySource

/-- The loop of `read_thread_events`; `remaining` is the room below the
limit. -/
def collectEvents (json : JsonWriter) (threadId : String) (remaining : Nat)
    (source : HistorySource) (entries : List ProfileEventEntry)
    (contentTruncated : Bool) : Except ReadError ThreadEventsResult :=
  match source.nextEvent ledgers profileId with
  | .error error => .error error
  | .ok (none, _) => .ok ⟨threadId, entries, contentTruncated, none⟩
  | .ok (some event, source) =>
      match remaining with
      | 0 => .ok ⟨threadId, entries, true, some event.position⟩
      | remaining + 1 =>
          let entry := eventEntry json threadId event.run event.record
          let page := ⟨threadId, entries ++ [entry.1], true,
            some event.position⟩
          if ThreadEventsResult.serializedFits json page then
            collectEvents json threadId remaining source page.entries
              (contentTruncated || entry.2)
          else .ok ⟨threadId, entries, true, some event.position⟩

def defaultHistoryLimit : Nat :=
  50

def maxHistoryLimit : Nat :=
  256

def historyLimit (limit : Option Nat) : Except ReadError Nat :=
  let limit := limit.getD defaultHistoryLimit
  if limit = 0 ∨ maxHistoryLimit < limit then
    .error (.invalid "limit must be between 1 and 256")
  else .ok limit

structure ThreadHistoryInput where
  threadId : Option String
  runId : Option String
  cursor : Option String
  limit : Option Nat

/-- `read_thread_events`; `scope` is the result of the checks of profile and
thread. -/
def readThreadEvents (json : JsonWriter) (callerThreadId : String)
    (scope : Except ReadError Unit) (input : ThreadHistoryInput) :
    Except ReadError ThreadEventsResult :=
  let threadId := input.threadId.getD callerThreadId
  match scope, historyLimit input.limit,
    HistorySource.open ledgers input.runId input.cursor with
  | .error error, _, _ => .error error
  | .ok _, .error error, _ => .error error
  | .ok _, .ok _, .error error => .error error
  | .ok _, .ok limit, .ok source =>
      collectEvents ledgers profileId json threadId limit source [] false

end Reading

end LogicalReads

end PlatoAgent
