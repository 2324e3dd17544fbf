import PlatoAgent.EventText
import PlatoAgent.RunStateMachine

/-!
# Ledger lines and their validation

The values that `platonic-server` writes to a ledger and the checks it makes on
them.  The text format is the one of `serde_json`, which is not part of this
repository: `SerdeJson` names the functions the ledger calls and the documented
facts it relies on.
-/

namespace PlatoAgent

/-- The errors of the ledger functions.  Errors of the operating system, the
JSON parser and the database are opaque. -/
inductive AppError where
  | config (message : String)
  | ledgerVersion (expected actual : UInt32)
  | emptyLedger
  | ledgerExists (path : String)
  | ledgerConflict (runId : String) (seq : UInt64)
  | voiceEventVersion (expected actual : UInt32)
  | voiceEventContract (message : String)
  | runNotFound (runId : String)
  | sessionNotFound (sessionId : String)
  | sessionActive (sessionId runId : String)
  | io
  | json
  | sqlite
  | core (error : Error)
  deriving DecidableEq, Repr

/-- Wire name of a run lifecycle state, the `status` column of a session
run. -/
inductive RunStateName where
  | running | finished | failed | canceled | cancelRequested | interrupted
  deriving DecidableEq, Repr

def legacyLedgerVersion : UInt32 := 1

def ledgerVersion : UInt32 := 2

def supportedLedgerVersion (version : UInt32) : Bool :=
  version == legacyLedgerVersion || version == ledgerVersion

/-- The event is a `run_started` whose profile revision is zero. -/
def HarnessEvent.zeroRevision : HarnessEvent → Bool
  | .runStarted ⟨_, .profile _ profileRevision⟩ => profileRevision == 0
  | _ => false

/-- The event is a `run_started` with a profile identity. -/
def HarnessEvent.profileIdentity : HarnessEvent → Bool
  | .runStarted ⟨_, .profile ..⟩ => true
  | _ => false

def validateLedgerIdentity (version : UInt32) (event : HarnessEvent) :
    Except AppError Unit :=
  if event.zeroRevision then
    .error (.config "ledger profile identity requires a positive revision")
  else if version == legacyLedgerVersion && event.profileIdentity then
    .error (.config "ledger v1 run_started requires legacy agent identity")
  else
    .ok ()

/-- Lines are written under the current version, which admits every identity
with a positive revision. -/
theorem validateLedgerIdentity_current (event : HarnessEvent) :
    validateLedgerIdentity ledgerVersion event =
      if event.zeroRevision then
        .error (.config "ledger profile identity requires a positive revision")
      else .ok () := by
  have current : (ledgerVersion == legacyLedgerVersion) = false := by decide
  simp [validateLedgerIdentity, current]

structure LedgerLine where
  v : UInt32
  record : RecordedEvent
  deriving Repr

def voiceEventVersion : UInt32 := 1

/-- Bounded voice observations persisted beside the core ledger. -/
inductive VoiceEvent where
  | voiceCaptured (runId : RunId) (turnId : TurnId) (transcriptSha256 : String)
      (transcriptBytes transcriptSpanMs inputFrames outputFrames
        vadStartSample vadSpeechEndSample vadCloseSample vadCloseToFinalUs
        normalizationResamplingUs : UInt64)
  | voiceSpoken (runId : RunId) (turnId : TurnId)
      (ttfaMs sentenceCount : UInt64) (interruptedAt : Option UInt64)
  | voiceInterrupted (runId : RunId) (turnId : TurnId) (spokenPrefix : String)
      (deltaIndex : UInt64)
  deriving DecidableEq, Repr

def isLowerHexByte (byte : UInt8) : Bool :=
  (48 ≤ byte && byte ≤ 57) || (97 ≤ byte && byte ≤ 102)

/-- Validates the bounded durable fields carried by the event. -/
def VoiceEvent.validate : VoiceEvent → Except String Unit
  | .voiceCaptured _ _ transcriptSha256 transcriptBytes _ _ _ vadStartSample
      vadSpeechEndSample vadCloseSample _ _ =>
      if transcriptBytes = 0 then
        .error "captured transcript length must be nonzero"
      else if transcriptSha256.utf8ByteSize ≠ 64 ∨
          ¬ transcriptSha256.toUTF8.toList.all isLowerHexByte then
        .error "captured transcript SHA-256 must be 64 lowercase hex bytes"
      else if vadStartSample > vadSpeechEndSample ∨
          vadSpeechEndSample > vadCloseSample then
        .error "captured VAD sample boundaries are not ordered"
      else
        .ok ()
  | .voiceSpoken _ _ _ sentenceCount _ =>
      if sentenceCount = 0 then
        .error "spoken sentence count must be nonzero"
      else
        .ok ()
  | .voiceInterrupted .. => .ok ()

/-- One immutable companion fact with its position in the run's stream. -/
structure VoiceEventEnvelope where
  v : UInt32
  sequence : UInt64
  event : VoiceEvent
  deriving DecidableEq, Repr

structure VoiceLedgerLine where
  voiceEvents : List VoiceEventEnvelope
  deriving DecidableEq, Repr

/-- What the stream validation has met so far. -/
structure VoiceStreamSeen where
  capture : Bool
  interruption : Bool
  deriving DecidableEq, Repr

/-- The event following an interrupted speech is its exact interruption. -/
def isInterruptionOf (runId : RunId) (turnId : TurnId) :
    Option VoiceEvent → Bool
  | some (.voiceInterrupted interruptedRun interruptedTurn _ _) =>
      interruptedRun == runId && interruptedTurn == turnId
  | _ => false

/-- The event preceding an interruption is its exact interrupted speech. -/
def isInterruptedSpeechOf (runId : RunId) (turnId : TurnId) :
    Option VoiceEvent → Bool
  | some (.voiceSpoken spokenRun spokenTurn _ _ (some _)) =>
      spokenRun == runId && spokenTurn == turnId
  | _ => false

/-- One iteration of the loop of `validate_voice_event_stream`. -/
def validateVoiceEventAt (events : List VoiceEvent) (seen : VoiceStreamSeen)
    (event : VoiceEvent) (index : Nat) : Except AppError VoiceStreamSeen :=
  match event with
  | .voiceCaptured .. =>
      if seen.capture ∨ index ≠ 0 then
        .error (.voiceEventContract
          "voice capture must appear at most once and first")
      else
        .ok { seen with capture := true }
  | .voiceSpoken runId turnId _ _ interruptedAt =>
      if seen.interruption then
        .error (.voiceEventContract
          "voice interruption must terminate its companion stream")
      else if interruptedAt.isSome ∧
          ¬ isInterruptionOf runId turnId events[index + 1]? then
        .error (.voiceEventContract
          "interrupted voice speech must be followed by its exact interruption fact")
      else
        .ok seen
  | .voiceInterrupted runId turnId _ _ =>
      let previous := if index = 0 then none else events[index - 1]?
      if seen.interruption ∨ ¬ isInterruptedSpeechOf runId turnId previous ∨
          index + 1 ≠ events.length then
        .error (.voiceEventContract
          "voice interruption must be paired with the preceding spoken fact and terminate the stream")
      else
        .ok { seen with interruption := true }

def validateVoiceEventStream (events : List VoiceEvent) :
    Except AppError Unit := do
  let _ ← events.zipIdx.foldlM
    (fun seen (event, index) => validateVoiceEventAt events seen event index)
    { capture := false, interruption := false }
  pure ()

/-- The check of one envelope at its position; its event when it passes. -/
def validateVoiceEnvelope (envelope : VoiceEventEnvelope) (index : Nat) :
    Except AppError VoiceEvent :=
  let expected := UInt64.ofNat index
  if envelope.v ≠ voiceEventVersion then
    .error (.voiceEventVersion voiceEventVersion envelope.v)
  else if envelope.sequence ≠ expected then
    .error (.voiceEventContract
      s!"voice event sequence was {envelope.sequence}, expected {expected}")
  else
    match envelope.event.validate with
    | .error message => .error (.voiceEventContract message)
    | .ok () => .ok envelope.event

def validateVoiceEnvelopes (envelopes : List VoiceEventEnvelope) :
    Except AppError Unit := do
  let events ← envelopes.zipIdx.mapM fun (envelope, index) =>
    validateVoiceEnvelope envelope index
  validateVoiceEventStream events

/-- A line of a JSONL ledger: a core record or a voice companion batch. -/
inductive PersistedLedgerLine where
  | record (line : LedgerLine)
  | voice (line : VoiceLedgerLine)
  deriving Repr

def newline : UInt8 := 10

def isAsciiWhitespace (byte : UInt8) : Bool :=
  byte == 32 || byte == 9 || byte == 10 || byte == 12 || byte == 13

/-- The parser of `serde_json` reads containers that nest this deep; its writer
knows no such limit. -/
def readableDepth : Nat := 127

/-- The event is read back from a line, in which it is two objects deep. -/
def HarnessEvent.fitsLine (event : HarnessEvent) : Bool :=
  event.depth + 2 ≤ readableDepth

/-- The event is read back from a column of its own. -/
def HarnessEvent.fitsColumn (event : HarnessEvent) : Bool :=
  event.depth ≤ readableDepth

/-- The calls into `serde_json`, with the facts the ledger relies on: what is
written is read back unless it nests too deep, a line is a JSON object, and
control characters are escaped in it. -/
structure SerdeJson where
  /-- `serde_json::to_vec` of a ledger line. -/
  toVec : LedgerLine → List UInt8
  /-- `serde_json::from_slice::<PersistedLedgerLine>`. -/
  fromSlice : List UInt8 → Option PersistedLedgerLine
  /-- `serde_json::to_string` of an event. -/
  toString : HarnessEvent → String
  /-- `serde_json::from_str::<HarnessEvent>`. -/
  fromStr : String → Option HarnessEvent
  fromSlice_toVec : ∀ line, fromSlice (toVec line) =
    if line.record.event.fitsLine then some (.record line) else none
  toVec_object : ∀ line, (toVec line).head? = some 123
  newline_not_mem_toVec : ∀ line, newline ∉ toVec line
  fromStr_toString : ∀ event, fromStr (toString event) =
    if event.fitsColumn then some event else none

/-- What the ledger takes from outside: the JSON library and the readings of
the system clock, in the order in which they are taken. -/
structure LedgerEnv where
  serdeJson : SerdeJson
  clock : Nat → UInt64

def sqliteI64 (value : UInt64) (field : String) : Except AppError Int64 :=
  if value.toNat < 2 ^ 63 then
    .ok value.toInt64
  else
    .error (.config s!"ledger {field} exceeds sqlite integer: {value}")

def rowU64 (value : Int64) : Except AppError UInt64 :=
  if value < 0 then .error .sqlite else .ok value.toUInt64

theorem sqliteI64_ok_iff {value : UInt64} {field : String} {column : Int64} :
    sqliteI64 value field = .ok column ↔
      value.toNat < 2 ^ 63 ∧ value.toInt64 = column := by
  unfold sqliteI64
  split <;> simp_all

theorem except_bind_ok_iff {Failure First Second : Type}
    {outcome : Except Failure First}
    {continuation : First → Except Failure Second} {result : Second} :
    (outcome >>= continuation) = .ok result ↔
      ∃ first, outcome = .ok first ∧ continuation first = .ok result := by
  cases outcome <;> simp [bind, Except.bind]

theorem except_ok_bind {First Second : Type} (first : First)
    (continuation : First → Except AppError Second) :
    (Except.ok first >>= continuation) = continuation first :=
  rfl

end PlatoAgent
