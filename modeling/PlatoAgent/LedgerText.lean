import PlatoAgent.LedgerTypes

/-!
# The text of ledger lines

The JSON objects of ledger lines and readers for them.  They give a `SerdeJson`
that writes ledger lines as the program does.
-/

namespace PlatoAgent

namespace LedgerText

def recordedEvent (record : RecordedEvent) : Value :=
  .object [("seq", u64 record.seq),
    ("occurred_at_ms", u64 record.occurredAtMs),
    ("event", event record.event)]

def readRecordedEvent : Value → Option RecordedEvent :=
  readObject do
    let seq ← field "seq" readU64
    let occurredAtMs ← field "occurred_at_ms" readU64
    let event ← field "event" readEvent
    pure { seq := seq, occurredAtMs := occurredAtMs, event := event }

theorem restores_recordedEvent :
    Restores readRecordedEvent recordedEvent := by
  intro value
  refine readObject_of_run ?_
  simp [run_field restores_event]

def ledgerLine (line : LedgerLine) : Value :=
  .object [("v", u32 line.v), ("record", recordedEvent line.record)]

def readLedgerLine : Value → Option LedgerLine :=
  readObject do
    let v ← field "v" readU32
    let record ← field "record" readRecordedEvent
    pure { v := v, record := record }

theorem restores_ledgerLine : Restores readLedgerLine ledgerLine := by
  intro value
  refine readObject_of_run ?_
  simp [run_field restores_recordedEvent]

theorem depth_ledgerLine (line : LedgerLine) :
    (ledgerLine line).depth = line.record.event.depth + 2 := by
  simp [ledgerLine, recordedEvent, Value.depth, Value.entriesDepth, u32, u64,
    HarnessEvent.depth]

end LedgerText

/-- The value, if the parser reads text that nests as deep. -/
def readable (value : Value) : Option Value :=
  if value.depth ≤ readableDepth then some value else none

/-- A JSON library that writes ledger lines and events as the program does.  It
reads the lines of core records; lines of voice events are not read. -/
def ledgerJson : SerdeJson where
  toVec line := JsonText.toBytes (LedgerText.ledgerLine line)
  fromSlice bytes := do
    let value ← readable (← JsonText.fromBytes bytes)
    let line ← LedgerText.readLedgerLine value
    some (.record line)
  toString event := JsonText.toText (LedgerText.event event)
  fromStr text := do
    let value ← readable (← JsonText.fromText text)
    LedgerText.readEvent value
  fromSlice_toVec line := by
    have restored := LedgerText.restores_ledgerLine line
    rw [JsonText.fromBytes_toBytes, Option.bind_eq_bind, Option.bind_some,
      readable, LedgerText.depth_ledgerLine]
    by_cases fits : line.record.event.depth + 2 ≤ readableDepth <;>
      simp [fits, HarnessEvent.fitsLine, restored]
  toVec_object _ := JsonText.head_toBytes_object _
  newline_not_mem_toVec _ := JsonText.newline_not_mem_toBytes _
  fromStr_toString event := by
    have restored := LedgerText.restores_event event
    rw [JsonText.fromText_toText, Option.bind_eq_bind, Option.bind_some,
      readable, ← HarnessEvent.depth]
    by_cases fits : event.depth ≤ readableDepth <;>
      simp [fits, HarnessEvent.fitsColumn, restored]

/-- The environment with this library, within one millisecond. -/
def ledgerEnv : LedgerEnv where
  serdeJson := ledgerJson
  clock _ := 1700000000000

theorem ledgerEnv_clock (reading : Nat) :
    (ledgerEnv.clock reading).toNat < 2 ^ 63 := by
  have time : (1700000000000 : UInt64).toNat < 2 ^ 63 := by decide
  exact time

def firstRun : RunId :=
  ⟨"run_1", by decide⟩

def secondRun : RunId :=
  ⟨"run_2", by decide⟩

def agentStart (runId : RunId) : HarnessEvent :=
  .runStarted { runId := runId, identity := .legacyAgent ⟨"agent_1", by decide⟩ }

/-- A `run_started` whose line the reader refuses. -/
def zeroRevisionStart (runId : RunId) : HarnessEvent :=
  .runStarted
    { runId := runId, identity := .profile ⟨"profile_1", by decide⟩ 0 }

end PlatoAgent
