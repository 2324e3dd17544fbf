import PlatoAgent.ActionRuns
import PlatoAgent.FramedBytes
import PlatoAgent.IdempotencyStore
import PlatoAgent.JsonText

/-!
# Mutations through the HTTP gateway

The requests of any number of clients, the answers and failures of the daemon,
and restarts of the gateway, interleaved step by step over the idempotency
store.  A process of the model is a request whose reservation was fresh.
-/

namespace PlatoAgent

structure HttpResponse where
  status : UInt16
  headers : List (String × String)
  body : List UInt8
  deriving DecidableEq, Repr

namespace HttpResponse

def json (status : UInt16) (body : List UInt8) : HttpResponse where
  status := status
  headers := [("Content-Type", "application/json")]
  body := body

def withHeader (response : HttpResponse) (name value : String) :
    HttpResponse :=
  { response with headers := response.headers ++ [(name, value)] }

/-- `error_response`. -/
def error (status : UInt16) (code message : String) : HttpResponse :=
  json status (JsonText.toBytes (.object
    [("error", .object [("code", .string code), ("message", .string message)])]))

end HttpResponse

/-- `str::encode_utf16`. -/
def utf16Units (text : String) : List Nat :=
  text.toList.flatMap fun character =>
    if character.toNat < 0x10000 then [character.toNat]
    else
      [0xD800 + (character.toNat - 0x10000) / 0x400,
        0xDC00 + (character.toNat - 0x10000) % 0x400]

/-- Keys in the order of `utf16_cmp`. -/
def sortKeys (entries : List (String × Value)) :
    List (String × Value) :=
  entries.insertionSort fun first second =>
    utf16Units first.1 ≤ utf16Units second.1

/- The value whose text `write_canonical_value` writes. -/
mutual
def canonicalValue : Value → Except HttpResponse Value
  | .number (.float _) =>
      .error (.error 500 "internal_error"
        "floating-point JSON is not admitted in mutation bodies")
  | .array items => do return .array (← canonicalItems items)
  | .object entries => do return .object (sortKeys (← canonicalEntries entries))
  | .null => .ok .null
  | .bool value => .ok (.bool value)
  | .number value => .ok (.number value)
  | .string value => .ok (.string value)

def canonicalItems : List Value → Except HttpResponse (List Value)
  | [] => .ok []
  | item :: rest => do
      let item ← canonicalValue item
      return item :: (← canonicalItems rest)

def canonicalEntries :
    List (String × Value) →
      Except HttpResponse (List (String × Value))
  | [] => .ok []
  | (key, value) :: rest => do
      let value ← canonicalValue value
      return (key, value) :: (← canonicalEntries rest)
end

/-- A request after its route, its body and its key were parsed and its
workspace and profile admitted; an empty body is the empty object. -/
structure MutationRequest where
  principal : String
  key : String
  operation : String
  targets : List String
  content : Value
  /-- The lengths are machine words. -/
  sized : ∀ text ∈ principal :: operation :: targets,
    text.utf8ByteSize < 2 ^ 64

def utf8Bytes (text : String) : List UInt8 :=
  text.toByteArray.data.toList

section Requests

variable (sha256 : List UInt8 → Digest)

namespace MutationRequest

/-- `canonical_request_body`; floating-point numbers are refused before any
text is written. -/
def canonicalRequestBody (request : MutationRequest) :
    Except HttpResponse (List UInt8) := do
  return JsonText.toBytes (← canonicalValue request.content)

def requestKey (request : MutationRequest) : RequestKey :=
  (request.principal, sha256 (utf8Bytes request.key))

/-- What the fingerprint is the hash of. -/
def fingerprintInput (request : MutationRequest) (canonical : List UInt8) :
    List UInt8 :=
  framed ((request.principal :: "v2" :: request.operation ::
    request.targets).map utf8Bytes) ++ (sha256 canonical).toList

def fingerprint (request : MutationRequest) (canonical : List UInt8) :
    Digest :=
  sha256 (request.fingerprintInput sha256 canonical)

end MutationRequest

end Requests

/-- Where a request is in `mutation` after its reservation. -/
inductive MutationPhase where
  | reserved
  | admitted
  /-- With a client of its workspace. -/
  | connected
  | dispatched
  /-- Before the outcome is stored; the last response is the answer when that
  fails. -/
  | storing (response : HttpResponse) (knownError : Bool)
      (unrecorded : HttpResponse)
  /-- Before the row is marked ambiguous. -/
  | doubting (response : HttpResponse)
  deriving DecidableEq, Repr

/-- The request was not handed to the daemon yet. -/
def MutationPhase.isEarly : MutationPhase → Bool
  | .reserved | .admitted | .connected => true
  | .dispatched | .storing _ _ _ | .doubting _ => false

structure MutationProcess where
  key : RequestKey
  fingerprint : Digest
  phase : MutationPhase
  deriving DecidableEq, Repr

inductive MutationMove where
  /-- `admit_mutation` refuses. -/
  | limit
  | admission
  | failClient (response : HttpResponse)
  | connect
  | failScope (response : HttpResponse)
  | dispatch
  /-- The daemon answers, with the text of its result if it has one. -/
  | answer (body : Option (List UInt8))
  /-- The daemon answers with an error. -/
  | refuse (response : HttpResponse)
  | lose (response : HttpResponse)
  | store (nowMs : Nat)
  | doubt (nowMs : Nat)
  | failWrite
  deriving DecidableEq, Repr

/-- What happened, for the record: requests with the reservation that made
their row and their answer, if they do not go on; requests without a row;
dispatches; stored outcomes with the reservation that made the row; and the
answers of the requests that went on. -/
inductive GatewayEvent where
  | received (request : MutationRequest) (canonical : List UInt8)
      (period : Nat) (answer : Option HttpResponse)
  | refused (request : MutationRequest) (answer : HttpResponse)
  | dispatched (process : Nat) (key : RequestKey)
  | stored (period : Nat) (response : StoredResponse)
  | finished (process : Nat) (answer : HttpResponse)

/-- The rows of the database, the requests in progress, and the events, the
latest first.  Every row remembers the reservation that made it. -/
structure GatewaySystem where
  store : IdempotencyStore
  clock : Nat
  processes : FiniteMap Nat MutationProcess
  nextProcess : Nat
  owners : RequestKey → Nat
  events : List GatewayEvent

inductive GatewayAction where
  | receive (request : MutationRequest) (nowMs : Nat)
  | move (process : Nat) (move : MutationMove)
  | restart (nowMs : Nat)

def maxResponseBytes : Nat :=
  1024 * 1024

def idempotencyInProgress : HttpResponse :=
  (HttpResponse.error 409 "idempotency_in_progress"
    "the idempotent request is still in progress").withHeader "Retry-After" "1"

def idempotencyKeyConflict : HttpResponse :=
  .error 409 "idempotency_key_conflict"
    "the idempotency key was used for a different request"

def idempotencyOutcomeUnknown : HttpResponse :=
  .error 409 "idempotency_outcome_unknown"
    "the earlier request outcome is unknown; inspect state and use a new key"

def idempotencyReplayed (response : StoredResponse) : HttpResponse :=
  (HttpResponse.json response.status response.body).withHeader
    "Idempotency-Replayed" "true"

/-- The answer to a request that does not go on. -/
def Reservation.answer : Reservation → Option HttpResponse
  | .fresh => none
  | .inProgress => some idempotencyInProgress
  | .replay response => some (idempotencyReplayed response)
  | .conflict => some idempotencyKeyConflict
  | .ambiguous => some idempotencyOutcomeUnknown

def rateLimited : HttpResponse :=
  .error 429 "rate_limited" "the principal mutation rate limit is reached"

def idempotencyRecordError : HttpResponse :=
  .error 500 "idempotency_unavailable"
    "the native outcome could not be recorded"

/-- The next phase of a move that does not touch the store. -/
def MutationPhase.next : MutationPhase → MutationMove → Option MutationPhase
  | .reserved, .limit =>
      some (.storing rateLimited true (.error 503 "idempotency_unavailable"
        "the rate-limit outcome could not be recorded"))
  | .reserved, .admission => some .admitted
  | .admitted, .failClient response =>
      some (.storing response true idempotencyRecordError)
  | .admitted, .connect => some .connected
  | .connected, .failScope response =>
      some (.storing response true idempotencyRecordError)
  | .dispatched, .answer body =>
      match body.filter (·.length ≤ maxResponseBytes) with
      | some body => some (.storing (.json 200 body) false idempotencyRecordError)
      | none =>
          some (.doubting (.error 502 "native_response_too_large"
            "the native response exceeds the gateway limit"))
  | .dispatched, .refuse response =>
      some (.storing response true idempotencyRecordError)
  | .dispatched, .lose response => some (.doubting response)
  | _, _ => none

namespace GatewaySystem

def finish (system : GatewaySystem) (key : Nat) (answer : HttpResponse) :
    GatewaySystem :=
  { system with
    processes := system.processes.erase key
    events := .finished key answer :: system.events }

/-- `store_response` and the answer after it. -/
def storeResponse (system : GatewaySystem) (key : Nat)
    (process : MutationProcess) (response : HttpResponse) (knownError : Bool)
    (unrecorded : HttpResponse) (nowMs : Nat) : GatewaySystem :=
  let stored : StoredResponse := ⟨response.status, response.body⟩
  match system.store.complete process.key process.fingerprint stored knownError
      nowMs with
  | .error _ => { system with clock := nowMs }.finish key unrecorded
  | .ok store =>
      { system with
        store := store
        clock := nowMs
        events := .stored (system.owners process.key) stored ::
          system.events }.finish key response

/-- `mark_ambiguous` and the answer after it. -/
def markAmbiguous (system : GatewaySystem) (key : Nat)
    (process : MutationProcess) (response : HttpResponse) (nowMs : Nat) :
    GatewaySystem :=
  match system.store.markAmbiguous process.key process.fingerprint nowMs with
  | .error _ => { system with clock := nowMs }.finish key idempotencyRecordError
  | .ok store => { system with store := store, clock := nowMs }.finish key response

def advance (system : GatewaySystem) (key : Nat) (process : MutationProcess) :
    MutationMove → Option GatewaySystem
  | .dispatch =>
      if process.phase = .connected then
        some { system with
          processes := system.processes.insert key
            { process with phase := .dispatched }
          events := .dispatched key process.key :: system.events }
      else none
  | .store nowMs =>
      match process.phase with
      | .storing response knownError unrecorded =>
          if system.clock ≤ nowMs then
            some (system.storeResponse key process response knownError
              unrecorded nowMs)
          else none
      | _ => none
  | .doubt nowMs =>
      match process.phase with
      | .doubting response =>
          if system.clock ≤ nowMs then
            some (system.markAmbiguous key process response nowMs)
          else none
      | _ => none
  | .failWrite =>
      match process.phase with
      | .storing _ _ unrecorded => some (system.finish key unrecorded)
      | .doubting _ => some (system.finish key idempotencyRecordError)
      | _ => none
  | move =>
      (process.phase.next move).map fun phase =>
        { system with
          processes := system.processes.insert key
            { process with phase := phase } }

/-- `mutation` up to the answer of the reservation. -/
def receive (sha256 : List UInt8 → Digest) (system : GatewaySystem)
    (request : MutationRequest) (canonical : List UInt8) (nowMs : Nat) :
    GatewaySystem :=
  let key := request.requestKey sha256
  let fingerprint := request.fingerprint sha256 canonical
  let reserved := system.store.reserve key fingerprint nowMs
  let later := { system with store := reserved.2, clock := nowMs }
  match reserved.1 with
  | .error _ =>
      { later with
        events := .refused request (.error 503 "idempotency_unavailable"
          "the idempotency store is unavailable") :: system.events }
  | .ok .fresh =>
      { later with
        processes := system.processes.insert system.nextProcess
          ⟨key, fingerprint, .reserved⟩
        nextProcess := system.nextProcess + 1
        owners := Function.update system.owners key system.nextProcess
        events := .received request canonical system.nextProcess none ::
          system.events }
  | .ok reservation =>
      { later with
        events := .received request canonical (system.owners key)
          reservation.answer :: system.events }

def step (sha256 : List UInt8 → Digest) (system : GatewaySystem) :
    GatewayAction → Option GatewaySystem
  | .receive request nowMs =>
      if system.clock ≤ nowMs then
        match request.canonicalRequestBody with
        | .error response =>
            some { system with
              events := .refused request response :: system.events }
        | .ok canonical => some (system.receive sha256 request canonical nowMs)
      else none
  | .move key move =>
      (system.processes.lookup key).bind fun process =>
        system.advance key process move
  | .restart nowMs =>
      -- The requests in progress are gone with the gateway.
      if system.clock ≤ nowMs then
        match IdempotencyStore.openWithMaxRows system.store.rows nowMs
            system.store.maxRows with
        | .error _ => none
        | .ok store =>
            some { system with
              store := store
              clock := nowMs
              processes := ∅ }
      else none

def initial (maxRows : UInt64) (nowMs : Nat) : GatewaySystem where
  store := ⟨∅, maxRows⟩
  clock := nowMs
  processes := ∅
  nextProcess := 0
  owners _ := 0
  events := []

end GatewaySystem

end PlatoAgent
