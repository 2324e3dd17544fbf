import PlatoAgent.LedgerWorkspace

/-!
# JSONL run logs

The append-only log of one run: every record is one JSON object followed by a
newline, and the newline is its commit marker.  Bytes after the last newline
are a torn write and are cut off when the log is opened for appending.
-/

namespace PlatoAgent

open AtomicProgram

/-- `iter().rposition(newline).map_or(0, |index| index + 1)`. -/
def committedLength (bytes : List UInt8) : Nat :=
  match bytes.reverse.findIdx? (· == newline) with
  | none => 0
  | some index => bytes.length - index

/-- The checks on a decoded line. -/
def validateLedgerLine : PersistedLedgerLine → Except AppError Unit
  | .record line =>
      if supportedLedgerVersion line.v then
        validateLedgerIdentity line.v line.record.event
      else
        .error (.ledgerVersion ledgerVersion line.v)
  | .voice line => validateVoiceEnvelopes line.voiceEvents

def parseLedgerLine (env : LedgerEnv) (bytes : List UInt8) :
    Except AppError PersistedLedgerLine :=
  match env.serdeJson.fromSlice bytes with
  | none => .error .json
  | some line => (validateLedgerLine line).map fun _ => line

/-- The loop over the pieces between newlines; blank pieces are skipped. -/
def parsePieces (env : LedgerEnv) :
    List (List UInt8) → Except AppError (List PersistedLedgerLine)
  | [] => .ok []
  | piece :: rest =>
      if piece.all isAsciiWhitespace then
        parsePieces env rest
      else do
        let line ← parseLedgerLine env piece
        let lines ← parsePieces env rest
        pure (line :: lines)

def parseLedgerLines (env : LedgerEnv) (bytes : List UInt8) :
    Except AppError (List PersistedLedgerLine) :=
  parsePieces env (bytes.splitOn newline)

/-- The core record of a line, if it is one. -/
def PersistedLedgerLine.coreRecord : PersistedLedgerLine →
    Option RecordedEvent
  | .record line => some line.record
  | .voice _ => none

/-- The core records of the committed part of a log. -/
def recordsOf (env : LedgerEnv) (bytes : List UInt8) :
    Except AppError (List RecordedEvent) := do
  let lines ← parseLedgerLines env (bytes.take (committedLength bytes))
  pure (lines.filterMap PersistedLedgerLine.coreRecord)

def readRecords (env : LedgerEnv) (path : String) :
    LedgerM (List RecordedEvent) := do
  let bytes ← readFile path
  Program.ofExcept (recordsOf env bytes)

/-- The session admission attached to a recorder. -/
structure JsonlSession where
  runId : RunId
  createdSession : Bool
  isOpen : Bool
  terminalAttempted : Bool
  deriving DecidableEq, Repr

structure JsonlEventRecorder where
  path : String
  state : RunState
  session : Option JsonlSession
  poisoned : Bool

/-- The event ends its run. -/
def HarnessEvent.isRunEnd : HarnessEvent → Bool
  | .runFinished .. | .runFailed .. => true
  | _ => false

/-- The bytes of one committed record. -/
def lineBytes (env : LedgerEnv) (record : RecordedEvent) : List UInt8 :=
  env.serdeJson.toVec { v := ledgerVersion, record := record } ++ [newline]

namespace JsonlEventRecorder

def create (path : String) : LedgerM JsonlEventRecorder := do
  requireApp (path != "") .emptyLedger
  createNewFile path
  pure { path := path, state := .new, session := none, poisoned := false }

/-- `set_len` to the committed length, unless the file has that length. -/
def cutTornTail (path : String) (bytes : List UInt8) : LedgerM Unit :=
  if bytes.length ≠ committedLength bytes then
    truncateFile path (committedLength bytes)
  else
    pure ()

/-- `open_jsonl_for_append`: parse and replay the committed lines, then cut off
a torn tail. -/
def openForAppend (env : LedgerEnv) (path : String) : LedgerM RunState := do
  let bytes ← readFile path
  let records ← Program.ofExcept (recordsOf env bytes)
  let state ← Program.ofExcept (replayRecords records)
  cutTornTail path bytes
  pure state

/-- `JsonlEventRecorder::open`. -/
def reopen (env : LedgerEnv) (path : String) :
    LedgerM JsonlEventRecorder := do
  requireApp (path != "") .emptyLedger
  let state ← openForAppend env path
  pure { path := path, state := state, session := none, poisoned := false }

def withSession (recorder : JsonlEventRecorder) (runId : RunId)
    (createdSession : Bool) : JsonlEventRecorder :=
  { recorder with
    session := some
      { runId := runId, createdSession := createdSession, isOpen := true,
        terminalAttempted := false } }

def sessionOpen (recorder : JsonlEventRecorder) : Bool :=
  recorder.session.any (·.isOpen)

/-- Write the next record; it is acknowledged after its newline. -/
def recordEvent (env : LedgerEnv) (recorder : JsonlEventRecorder)
    (event : HarnessEvent) : LedgerM (RecordedEvent × JsonlEventRecorder) := do
  requireApp (!recorder.poisoned) (.config
    "JSONL recorder is unavailable after a prior write failure")
  let (record, nextState) ← nextRecord env recorder.state event
  appendFile recorder.path (lineBytes env record)
  pure (record, { recorder with state := nextState })

def record (env : LedgerEnv) (recorder : JsonlEventRecorder)
    (event : HarnessEvent) : LedgerM (RecordedEvent × JsonlEventRecorder) := do
  requireApp (!(recorder.sessionOpen && event.isRunEnd)) (.config
    "JSONL session terminal events require a matching session outcome")
  recordEvent env recorder event

end JsonlEventRecorder

end PlatoAgent
