import PlatoAgent.HttpMutations

/-!
# At most one dispatch per reservation

From the request that makes a row until the row expires, the requests with the
same principal and key are dispatched at most once, and all but the first are
answered from the row.  A request whose own row expired while it was still in
progress can be dispatched during the time of a later row.
-/

namespace PlatoAgent

theorem utf8Bytes_injective : Function.Injective utf8Bytes := by
  intro first second same
  apply String.toByteArray_inj.mp
  apply ByteArray.ext
  exact Array.toList_inj.mp same

theorem length_utf8Bytes (text : String) :
    (utf8Bytes text).length = text.utf8ByteSize := by
  rw [utf8Bytes, Array.length_toList]
  rfl

/-- The strings that a request hashes are among the given ones. -/
def MutationRequest.HashesIn (sha256 : List UInt8 → Digest)
    (hashed : Set (List UInt8)) (request : MutationRequest)
    (canonical : List UInt8) : Prop :=
  utf8Bytes request.key ∈ hashed ∧ canonical ∈ hashed ∧
    request.fingerprintInput sha256 canonical ∈ hashed

/-- The requests agree in all that their fingerprint covers. -/
def MutationRequest.Same (first : MutationRequest)
    (firstCanonical : List UInt8) (second : MutationRequest)
    (secondCanonical : List UInt8) : Prop :=
  first.principal = second.principal ∧ first.operation = second.operation ∧
    first.targets = second.targets ∧ firstCanonical = secondCanonical

section Hashes

variable {sha256 : List UInt8 → Digest} {hashed : Set (List UInt8)}
variable (injective : Set.InjOn sha256 hashed)
variable {first second : MutationRequest}
variable {firstCanonical secondCanonical : List UInt8}
variable (firstHashes : first.HashesIn sha256 hashed firstCanonical)
variable (secondHashes : second.HashesIn sha256 hashed secondCanonical)

include injective firstHashes secondHashes

theorem fingerprint_eq_iff :
    first.fingerprint sha256 firstCanonical =
        second.fingerprint sha256 secondCanonical ↔
      first.Same firstCanonical second secondCanonical := by
  constructor
  · intro same
    have inputs := injective firstHashes.2.2 secondHashes.2.2 same
    have sized : ∀ request : MutationRequest, ∀ part ∈ (request.principal ::
        "v2" :: request.operation :: request.targets).map utf8Bytes,
        part.length < 256 ^ 8 := by
      intro request part member
      obtain ⟨text, isText, rfl⟩ := List.mem_map.mp member
      rw [length_utf8Bytes]
      rcases List.mem_cons.mp isText with rfl | isText
      · exact request.sized _ (by simp)
      rcases List.mem_cons.mp isText with rfl | isText
      · decide
      · exact request.sized _ (List.mem_cons_of_mem _ isText)
    obtain ⟨parts, digests⟩ := framed_append_inj (sized first) (sized second)
      (by simp) inputs
    have texts := List.map_injective_iff.mpr utf8Bytes_injective parts
    have bodies := injective firstHashes.2.1 secondHashes.2.1
      (Vector.toList_inj.mp digests)
    simp only [List.cons.injEq, true_and] at texts
    exact ⟨texts.1, texts.2.1, texts.2.2, bodies⟩
  · rintro ⟨principal, operation, targets, rfl⟩
    simp [MutationRequest.fingerprint, MutationRequest.fingerprintInput,
      principal, operation, targets]

theorem key_eq_of_requestKey_eq
    (same : first.requestKey sha256 = second.requestKey sha256) :
    first.principal = second.principal ∧ first.key = second.key := by
  obtain ⟨principal, digest⟩ := Prod.mk.inj same
  exact ⟨principal,
    utf8Bytes_injective (injective firstHashes.1 secondHashes.1 digest)⟩

end Hashes

namespace GatewaySystem

/-- What one step of the gateway can do. -/
inductive GatewayStep (sha256 : List UInt8 → Digest)
    (system : GatewaySystem) : GatewayAction → GatewaySystem → Prop where
  | refused {request : MutationRequest} {nowMs now : Nat}
      (answer : HttpResponse) (store : IdempotencyStore)
      (later : system.clock ≤ now)
      (isStore : store = system.store ∨ store = system.store.expire now) :
      GatewayStep sha256 system (.receive request nowMs)
        { system with
          store := store
          clock := now
          events := .refused request answer :: system.events }
  | found {request : MutationRequest} {nowMs : Nat} (canonical : List UInt8)
      (row : RequestRow) (reservation : Reservation)
      (later : system.clock ≤ nowMs)
      (isCanonical : request.canonicalRequestBody = .ok canonical)
      (present : (system.store.expire nowMs).rows.lookup
        (request.requestKey sha256) = some row)
      (answered : row.answer (request.fingerprint sha256 canonical) =
        .ok reservation) :
      GatewayStep sha256 system (.receive request nowMs)
        { system with
          store := system.store.expire nowMs
          clock := nowMs
          events := .received request canonical
            (system.owners (request.requestKey sha256)) reservation.answer ::
              system.events }
  | fresh {request : MutationRequest} {nowMs : Nat} (canonical : List UInt8)
      (later : system.clock ≤ nowMs)
      (isCanonical : request.canonicalRequestBody = .ok canonical)
      (absent : (system.store.expire nowMs).rows.lookup
        (request.requestKey sha256) = none)
      (room : FiniteMap.size (system.store.expire nowMs).rows <
        system.store.maxRows.toNat)
      (small : nowMs + ambiguousTtlMs < 2 ^ 63) :
      GatewayStep sha256 system (.receive request nowMs)
        { system with
          store := { system.store.expire nowMs with
            rows := (system.store.expire nowMs).rows.insert
              (request.requestKey sha256)
              (IdempotencyStore.freshRow (request.fingerprint sha256 canonical)
                nowMs (nowMs + ambiguousTtlMs)) }
          clock := nowMs
          processes := system.processes.insert system.nextProcess
            ⟨request.requestKey sha256, request.fingerprint sha256 canonical,
              .reserved⟩
          nextProcess := system.nextProcess + 1
          owners := Function.update system.owners (request.requestKey sha256)
            system.nextProcess
          events := .received request canonical system.nextProcess none ::
            system.events }
  | quiet {key : Nat} {move : MutationMove} (process : MutationProcess)
      (phase : MutationPhase)
      (isProcess : system.processes.lookup key = some process)
      (early : phase.isEarly = true → process.phase.isEarly = true) :
      GatewayStep sha256 system (.move key move)
        { system with
          processes := system.processes.insert key
            { process with phase := phase } }
  | dispatch {key : Nat} (process : MutationProcess)
      (isProcess : system.processes.lookup key = some process)
      (early : process.phase.isEarly = true) :
      GatewayStep sha256 system (.move key .dispatch)
        { system with
          processes := system.processes.insert key
            { process with phase := .dispatched }
          events := .dispatched key process.key :: system.events }
  | stored {key : Nat} {move : MutationMove} (process : MutationProcess)
      (response : StoredResponse) (answer : HttpResponse)
      (before after : RequestRow) (store : IdempotencyStore) (nowMs : Nat)
      (isProcess : system.processes.lookup key = some process)
      (later : system.clock ≤ nowMs)
      (settles : system.store.Settles process.key process.fingerprint before
        after store)
      (completed : after.state = .completed ∨ after.state = .knownError)
      (status : after.status = some response.status.toNat)
      (body : after.body = some response.body)
      (small : after.expiresAtMs < 2 ^ 63) :
      GatewayStep sha256 system (.move key move)
        { system with
          store := store
          clock := nowMs
          processes := system.processes.erase key
          events := .finished key answer ::
            .stored (system.owners process.key) response :: system.events }
  | doubted {key : Nat} {move : MutationMove} (process : MutationProcess)
      (answer : HttpResponse) (before after : RequestRow)
      (store : IdempotencyStore) (nowMs : Nat)
      (isProcess : system.processes.lookup key = some process)
      (later : system.clock ≤ nowMs)
      (settles : system.store.Settles process.key process.fingerprint before
        after store)
      (ambiguous : after.state = .ambiguous)
      (small : after.expiresAtMs < 2 ^ 63) :
      GatewayStep sha256 system (.move key move)
        { system with
          store := store
          clock := nowMs
          processes := system.processes.erase key
          events := .finished key answer :: system.events }
  | finished {key : Nat} {move : MutationMove} (answer : HttpResponse)
      (nowMs : Nat) (later : system.clock ≤ nowMs) :
      GatewayStep sha256 system (.move key move)
        { system with
          clock := nowMs
          processes := system.processes.erase key
          events := .finished key answer :: system.events }
  | restart {nowMs : Nat} (later : system.clock ≤ nowMs)
      (small : nowMs + ambiguousTtlMs < 2 ^ 63) :
      GatewayStep sha256 system (.restart nowMs)
        { system with
          store := { system.store with
            rows := FiniteMap.mapValues
              (fun row => if row.state = .inFlight then
                row.doubt nowMs (nowMs + ambiguousTtlMs) else row)
              system.store.rows }
          clock := nowMs
          processes := ∅ }

theorem receive_gatewayStep {sha256 : List UInt8 → Digest}
    {system : GatewaySystem} {request : MutationRequest}
    {canonical : List UInt8} {nowMs : Nat} (later : system.clock ≤ nowMs)
    (isCanonical : request.canonicalRequestBody = .ok canonical) :
    GatewayStep sha256 system (.receive request nowMs)
      (system.receive sha256 request canonical nowMs) := by
  have reserved := system.store.reserve_reserveStep
    (request.requestKey sha256) (request.fingerprint sha256 canonical) nowMs
  unfold receive
  dsimp only
  generalize system.store.reserve (request.requestKey sha256)
    (request.fingerprint sha256 canonical) nowMs = result at reserved ⊢
  obtain ⟨reservation, store⟩ := result
  dsimp only at reserved ⊢
  cases reserved with
  | failed error _ => exact .refused _ _ later (.inl rfl)
  | found row present =>
      split
      next => exact .refused _ _ later (.inr rfl)
      next isFresh =>
        exact absurd isFresh (row.answer_ne_fresh _)
      next reservation _ answered =>
        exact .found canonical row reservation later isCanonical present
          answered
  | fresh absent room small =>
      exact .fresh canonical later isCanonical absent room small

/-- A move that does not touch the store leaves a late phase late. -/
theorem isEarly_of_next {phase next : MutationPhase} {move : MutationMove}
    (isNext : phase.next move = some next) (early : next.isEarly = true) :
    phase.isEarly = true := by
  unfold MutationPhase.next at isNext
  split at isNext
  · rfl
  · rfl
  · rfl
  · rfl
  · rfl
  · split at isNext
    · cases isNext
      cases early
    · cases isNext
      cases early
  · cases isNext
    cases early
  · cases isNext
    cases early
  · cases isNext

theorem storeResponse_gatewayStep {sha256 : List UInt8 → Digest}
    {system : GatewaySystem} {key : Nat} {process : MutationProcess}
    (isProcess : system.processes.lookup key = some process) {nowMs : Nat}
    (later : system.clock ≤ nowMs) (move : MutationMove)
    (response : HttpResponse) (knownError : Bool) (unrecorded : HttpResponse) :
    GatewayStep sha256 system (.move key move)
      (system.storeResponse key process response knownError unrecorded
        nowMs) := by
  unfold storeResponse
  dsimp only
  split
  · exact .finished _ nowMs later
  next store completed =>
    obtain ⟨before, after, settles, state, status, body, small⟩ :=
      IdempotencyStore.complete_eq_ok completed
    refine .stored process ⟨response.status, response.body⟩ response before
      after store nowMs isProcess later settles ?_ status body small
    rw [state]
    cases knownError <;> simp

theorem markAmbiguous_gatewayStep {sha256 : List UInt8 → Digest}
    {system : GatewaySystem} {key : Nat} {process : MutationProcess}
    (isProcess : system.processes.lookup key = some process) {nowMs : Nat}
    (later : system.clock ≤ nowMs) (move : MutationMove)
    (response : HttpResponse) :
    GatewayStep sha256 system (.move key move)
      (system.markAmbiguous key process response nowMs) := by
  unfold markAmbiguous
  split
  · exact .finished _ nowMs later
  next store marked =>
    obtain ⟨before, after, settles, ambiguous, small⟩ :=
      IdempotencyStore.markAmbiguous_eq_ok marked
    exact .doubted process response before after store nowMs isProcess later
      settles ambiguous small

theorem advance_gatewayStep {sha256 : List UInt8 → Digest}
    {system after : GatewaySystem} {key : Nat} {process : MutationProcess}
    (isProcess : system.processes.lookup key = some process)
    {move : MutationMove}
    (advanced : system.advance key process move = some after) :
    GatewayStep sha256 system (.move key move) after := by
  unfold advance at advanced
  split at advanced
  · split at advanced
    next connected =>
      cases advanced
      exact .dispatch process isProcess (by simp [connected,
        MutationPhase.isEarly])
    · cases advanced
  · split at advanced
    · split at advanced
      next later =>
        cases advanced
        exact storeResponse_gatewayStep isProcess later ..
      · cases advanced
    · cases advanced
  · split at advanced
    · split at advanced
      next later =>
        cases advanced
        exact markAmbiguous_gatewayStep isProcess later ..
      · cases advanced
    · cases advanced
  · split at advanced
    · cases advanced
      exact .finished _ system.clock le_rfl
    · cases advanced
      exact .finished _ system.clock le_rfl
    · cases advanced
  · obtain ⟨phase, isNext, rfl⟩ := Option.map_eq_some_iff.mp advanced
    exact .quiet process phase isProcess (isEarly_of_next isNext)

theorem step_gatewayStep {sha256 : List UInt8 → Digest}
    {system after : GatewaySystem} {action : GatewayAction}
    (stepped : system.step sha256 action = some after) :
    GatewayStep sha256 system action after := by
  cases action with
  | receive request nowMs =>
      rw [step] at stepped
      split at stepped
      next later =>
        split at stepped
        · cases stepped
          exact .refused _ system.store le_rfl (.inl rfl)
        next canonical isCanonical =>
          cases stepped
          exact receive_gatewayStep later isCanonical
      · cases stepped
  | move key move =>
      obtain ⟨process, isProcess, advanced⟩ :=
        Option.bind_eq_some_iff.mp stepped
      exact advance_gatewayStep isProcess advanced
  | restart nowMs =>
      rw [step] at stepped
      split at stepped
      next later =>
        split at stepped
        · cases stepped
        next store opened =>
          cases stepped
          unfold IdempotencyStore.openWithMaxRows at opened
          obtain ⟨now, isNow, opened⟩ :=
            IdempotencyStore.exists_of_bind_eq_ok opened
          obtain ⟨expires, isExpires, opened⟩ :=
            IdempotencyStore.exists_of_bind_eq_ok opened
          obtain ⟨rfl, _⟩ := IdempotencyStore.sqliteI64_eq_ok isNow
          obtain ⟨rfl, small⟩ := IdempotencyStore.sqliteI64_eq_ok isExpires
          cases opened
          exact .restart later small
      · cases stepped

end GatewaySystem

/-- The request that made the row goes on. -/
def GatewayEvent.isFirst (period : Nat) : GatewayEvent → Bool
  | .received _ _ own none => own == period
  | _ => false

def GatewayEvent.isDispatchOf (process : Nat) : GatewayEvent → Bool
  | .dispatched own _ => own == process
  | _ => false

def GatewayEvent.isDispatchFor (key : RequestKey) : GatewayEvent → Bool
  | .dispatched _ own => own == key
  | _ => false

/-- A request without a row, or the answer of a request that went on. -/
def GatewayEvent.IsNeutral : GatewayEvent → Prop
  | .refused _ _ | .finished _ _ => True
  | .received _ _ _ _ | .dispatched _ _ | .stored _ _ => False

namespace GatewaySystem

/-- How a request is answered whose row was made by an earlier one. -/
def AnsweredFrom (system : GatewaySystem) (first : MutationRequest)
    (firstCanonical : List UInt8) (request : MutationRequest)
    (canonical : List UInt8) (period : Nat) (answer : HttpResponse) : Prop :=
  (first.Same firstCanonical request canonical ∧
      (answer = idempotencyInProgress ∨ answer = idempotencyOutcomeUnknown ∨
        ∃ response, .stored period response ∈ system.events ∧
          answer = idempotencyReplayed response)) ∨
    (¬ first.Same firstCanonical request canonical ∧
      answer = idempotencyKeyConflict)

/-- The requests of one row: one of them goes on and is dispatched at most
once, the others are answered from the row. -/
structure AtMostOnce (sha256 : List UInt8 → Digest) (system : GatewaySystem) :
    Prop where
  dispatches : ∀ period, system.events.countP (·.isDispatchOf period) ≤ 1
  firsts : ∀ period, system.events.countP (·.isFirst period) ≤ 1
  dispatched : ∀ process key, .dispatched process key ∈ system.events →
    ∃ request canonical,
      .received request canonical process none ∈ system.events ∧
        request.requestKey sha256 = key
  others : ∀ request canonical period answer,
    .received request canonical period (some answer) ∈ system.events →
    ∃ first firstCanonical,
      .received first firstCanonical period none ∈ system.events ∧
        first.principal = request.principal ∧ first.key = request.key ∧
        system.AnsweredFrom first firstCanonical request canonical period
          answer
  stored : ∀ period response other,
    .stored period response ∈ system.events →
    .stored period other ∈ system.events → response = other
  bounded : FiniteMap.size system.store.rows ≤ system.store.maxRows.toNat

/-- A row and the request that made it. -/
structure RowOf (sha256 : List UInt8 → Digest) (system : GatewaySystem)
    (key : RequestKey) (row : RequestRow) : Prop where
  first : ∃ request canonical,
    .received request canonical (system.owners key) none ∈ system.events ∧
      request.requestKey sha256 = key ∧
      request.fingerprint sha256 canonical = row.fingerprint
  expires : row.expiresAtMs < 2 ^ 63
  unstored : row.state = .inFlight → ∀ response,
    .stored (system.owners key) response ∉ system.events
  outcome : row.state = .completed ∨ row.state = .knownError →
    ∃ response, .stored (system.owners key) response ∈ system.events ∧
      row.status = some response.status.toNat ∧ row.body = some response.body

/-- What holds in every reachable state. -/
structure Recorded (sha256 : List UInt8 → Digest)
    (hashed : Set (List UInt8)) (system : GatewaySystem) : Prop where
  atMostOnce : system.AtMostOnce sha256
  hashes : ∀ request canonical period answer,
    .received request canonical period answer ∈ system.events →
      request.HashesIn sha256 hashed canonical
  rows : ∀ key row, system.store.rows.lookup key = some row →
    system.RowOf sha256 key row
  periods : ∀ request canonical period answer,
    .received request canonical period answer ∈ system.events →
      period < system.nextProcess
  storedPeriods : ∀ period response,
    .stored period response ∈ system.events → period < system.nextProcess
  processes : ∀ key process, system.processes.lookup key = some process →
    ∃ request canonical,
      .received request canonical key none ∈ system.events ∧
        request.requestKey sha256 = process.key
  early : ∀ key process, system.processes.lookup key = some process →
    process.phase.isEarly = true →
      system.events.countP (·.isDispatchOf key) = 0

/-- The strings that a received request hashes are among the given ones. -/
def HashesIn (sha256 : List UInt8 → Digest) (hashed : Set (List UInt8))
    (_ : GatewaySystem) : GatewayAction → Prop
  | .receive request _ => ∀ canonical,
      request.canonicalRequestBody = .ok canonical →
        request.HashesIn sha256 hashed canonical
  | .move _ _ | .restart _ => True

theorem recorded_initial (sha256 : List UInt8 → Digest)
    (hashed : Set (List UInt8)) (maxRows : UInt64) (nowMs : Nat) :
    (initial maxRows nowMs).Recorded sha256 hashed := by
  refine ⟨⟨?_, ?_, ?_, ?_, ?_, ?_⟩, ?_, ?_, ?_, ?_, ?_, ?_⟩ <;>
    simp [initial, FiniteMap.size]

/-- Requests that go on for the same row are one request. -/
theorem eq_of_isFirst {events : List GatewayEvent} {period : Nat}
    (atMostOne : events.countP (·.isFirst period) ≤ 1)
    {first second : MutationRequest} {firstCanonical secondCanonical}
    (isFirst : .received first firstCanonical period none ∈ events)
    (isSecond : .received second secondCanonical period none ∈ events) :
    first = second ∧ firstCanonical = secondCanonical := by
  rw [List.countP_eq_length_filter] at atMostOne
  have firstKept : .received first firstCanonical period none ∈
      events.filter (·.isFirst period) :=
    List.mem_filter.mpr ⟨isFirst, by simp [GatewayEvent.isFirst]⟩
  have secondKept : .received second secondCanonical period none ∈
      events.filter (·.isFirst period) :=
    List.mem_filter.mpr ⟨isSecond, by simp [GatewayEvent.isFirst]⟩
  cases found : events.filter (·.isFirst period) with
  | nil =>
      rw [found] at firstKept
      cases firstKept
  | cons event rest =>
      rw [found, List.length_cons] at atMostOne
      have none : rest = [] := List.length_eq_zero_iff.mp (by omega)
      rw [found, none, List.mem_singleton] at firstKept secondKept
      have same := firstKept.trans secondKept.symm
      cases same
      exact ⟨rfl, rfl⟩

/-- Rows that were made by one reservation have one key. -/
theorem Recorded.key_eq {sha256 : List UInt8 → Digest}
    {hashed : Set (List UInt8)} {system : GatewaySystem}
    (recorded : system.Recorded sha256 hashed) {key other : RequestKey}
    {row otherRow : RequestRow}
    (present : system.store.rows.lookup key = some row)
    (otherPresent : system.store.rows.lookup other = some otherRow)
    (same : system.owners key = system.owners other) : key = other := by
  obtain ⟨first, _, isFirst, isKey, _⟩ := (recorded.rows key row present).first
  obtain ⟨second, _, isSecond, isOther, _⟩ :=
    (recorded.rows other otherRow otherPresent).first
  rw [← same] at isSecond
  obtain ⟨rfl, _⟩ := eq_of_isFirst (recorded.atMostOnce.firsts _) isFirst
    isSecond
  exact isKey.symm.trans isOther

/-- Answers stay answers when more happens. -/
theorem AnsweredFrom.mono {system after : GatewaySystem}
    {first request : MutationRequest} {firstCanonical canonical : List UInt8}
    {period : Nat} {answer : HttpResponse}
    (answered : system.AnsweredFrom first firstCanonical request canonical
      period answer)
    (more : ∀ event ∈ system.events, event ∈ after.events) :
    after.AnsweredFrom first firstCanonical request canonical period
      answer := by
  obtain ⟨same, inProgress | unknown | ⟨response, isStored, replays⟩⟩ |
    conflicts := answered
  · exact .inl ⟨same, .inl inProgress⟩
  · exact .inl ⟨same, .inr (.inl unknown)⟩
  · exact .inl ⟨same, .inr (.inr ⟨response, more _ isStored, replays⟩)⟩
  · exact .inr conflicts

theorem RowOf.mono {sha256 : List UInt8 → Digest} {system after : GatewaySystem}
    {key : RequestKey} {row later : RequestRow}
    (isRow : system.RowOf sha256 key row)
    (owner : after.owners key = system.owners key)
    (more : ∀ event ∈ system.events, event ∈ after.events)
    (unstored : ∀ response,
      .stored (system.owners key) response ∈ after.events →
        .stored (system.owners key) response ∈ system.events)
    (fingerprint : later.fingerprint = row.fingerprint)
    (expires : later.expiresAtMs < 2 ^ 63)
    (state : later = row ∨ later.state = .ambiguous) :
    after.RowOf sha256 key later := by
  obtain ⟨request, canonical, isFirst, isKey, isPrint⟩ := isRow.first
  refine ⟨⟨request, canonical, ?_, isKey, isPrint.trans fingerprint.symm⟩,
    expires, ?_, ?_⟩
  · rw [owner]
    exact more _ isFirst
  · intro inFlight response isStored
    rw [owner] at isStored
    obtain rfl | ambiguous := state
    · exact isRow.unstored inFlight response (unstored response isStored)
    · rw [ambiguous] at inFlight
      cases inFlight
  · intro completed
    obtain rfl | ambiguous := state
    · obtain ⟨response, isStored, outcome⟩ := isRow.outcome completed
      refine ⟨response, ?_, outcome⟩
      rw [owner]
      exact more _ isStored
    · rw [ambiguous] at completed
      obtain isCompleted | isError := completed
      · cases isCompleted
      · cases isError

/-- A step that records nothing of a row, and changes rows only to ambiguous
ones. -/
theorem Recorded.neutral {sha256 : List UInt8 → Digest}
    {hashed : Set (List UInt8)} {system after : GatewaySystem}
    (recorded : system.Recorded sha256 hashed)
    (rows : ∀ key row, after.store.rows.lookup key = some row →
      ∃ old, system.store.rows.lookup key = some old ∧
        row.fingerprint = old.fingerprint ∧ row.expiresAtMs < 2 ^ 63 ∧
        (row = old ∨ row.state = .ambiguous))
    (size : FiniteMap.size after.store.rows ≤
      FiniteMap.size system.store.rows)
    (maxRows : after.store.maxRows = system.store.maxRows)
    (processes : ∀ key process, after.processes.lookup key = some process →
      ∃ old, system.processes.lookup key = some old ∧
        process.key = old.key ∧
        (process.phase.isEarly = true → old.phase.isEarly = true))
    (next : after.nextProcess = system.nextProcess)
    (owners : after.owners = system.owners)
    (events : after.events = system.events ∨
      ∃ event, after.events = event :: system.events ∧ event.IsNeutral) :
    after.Recorded sha256 hashed := by
  have more : ∀ event ∈ system.events, event ∈ after.events := by
    intro event member
    obtain same | ⟨added, same, _⟩ := events
    · rw [same]
      exact member
    · rw [same]
      exact List.mem_cons_of_mem _ member
  have fewer : ∀ event ∈ after.events,
      event ∈ system.events ∨ event.IsNeutral := by
    intro event member
    obtain same | ⟨added, same, neutral⟩ := events
    · exact .inl (same ▸ member)
    · rw [same] at member
      rcases List.mem_cons.mp member with rfl | earlier
      · exact .inr neutral
      · exact .inl earlier
  have counts : ∀ test : GatewayEvent → Bool,
      (∀ event, event.IsNeutral → test event = false) →
      after.events.countP test = system.events.countP test := by
    intro test neutrals
    obtain same | ⟨added, same, neutral⟩ := events
    · rw [same]
    · rw [same, List.countP_cons_of_neg (by simp [neutrals added neutral])]
  have old : ∀ event ∈ after.events, ¬ event.IsNeutral →
      event ∈ system.events := fun event member special =>
    (fewer event member).resolve_right special
  have dispatchCounts : ∀ process,
      after.events.countP (·.isDispatchOf process) =
        system.events.countP (·.isDispatchOf process) := fun process =>
    counts _ fun event neutral => by cases event <;> first | rfl | cases neutral
  have firstCounts : ∀ period,
      after.events.countP (·.isFirst period) =
        system.events.countP (·.isFirst period) := fun process =>
    counts _ fun event neutral => by cases event <;> first | rfl | cases neutral
  obtain ⟨atMostOnce, hashes, wereRows, periods, storedPeriods, wereProcesses,
    early⟩ := recorded
  refine ⟨⟨?_, ?_, ?_, ?_, ?_, ?_⟩, ?_, ?_, ?_, ?_, ?_, ?_⟩
  · intro period
    rw [dispatchCounts]
    exact atMostOnce.dispatches period
  · intro period
    rw [firstCounts]
    exact atMostOnce.firsts period
  · intro process key member
    obtain ⟨request, canonical, isFirst, isKey⟩ :=
      atMostOnce.dispatched process key (old _ member id)
    exact ⟨request, canonical, more _ isFirst, isKey⟩
  · intro request canonical period answer member
    obtain ⟨first, firstCanonical, isFirst, principal, isKey, answered⟩ :=
      atMostOnce.others request canonical period answer (old _ member id)
    exact ⟨first, firstCanonical, more _ isFirst, principal, isKey,
      answered.mono more⟩
  · intro period response other isResponse isOther
    exact atMostOnce.stored period response other (old _ isResponse id)
      (old _ isOther id)
  · rw [maxRows]
    exact size.trans atMostOnce.bounded
  · intro request canonical period answer member
    exact hashes request canonical period answer (old _ member id)
  · intro key row present
    obtain ⟨before, wasPresent, fingerprint, expires, state⟩ :=
      rows key row present
    exact (wereRows key before wasPresent).mono (by rw [owners]) more
      (fun response member => old _ member id) fingerprint expires state
  · intro request canonical period answer member
    rw [next]
    exact periods request canonical period answer (old _ member id)
  · intro period response member
    rw [next]
    exact storedPeriods period response (old _ member id)
  · intro key process isProcess
    obtain ⟨before, wasProcess, sameKey, _⟩ := processes key process isProcess
    obtain ⟨request, canonical, isFirst, isKey⟩ :=
      wereProcesses key before wasProcess
    exact ⟨request, canonical, more _ isFirst, isKey.trans sameKey.symm⟩
  · intro key process isProcess isEarly
    obtain ⟨before, wasProcess, _, wasEarly⟩ := processes key process isProcess
    rw [dispatchCounts]
    exact early key before wasProcess (wasEarly isEarly)

/-- The deletion of expired rows, at some time. -/
theorem Recorded.expire {sha256 : List UInt8 → Digest}
    {hashed : Set (List UInt8)} {system : GatewaySystem}
    (recorded : system.Recorded sha256 hashed) (now clock : Nat) :
    { system with
      store := system.store.expire now
      clock := clock }.Recorded sha256 hashed := by
  refine recorded.neutral ?_ (FiniteMap.size_retain_le ..) rfl ?_ rfl rfl
    (.inl rfl)
  · intro key row present
    have wasPresent := (IdempotencyStore.lookup_expire.mp present).1
    exact ⟨row, wasPresent, rfl, (recorded.rows key row wasPresent).expires,
      .inl rfl⟩
  · intro key process isProcess
    exact ⟨process, isProcess, rfl, id⟩

/-- What a row answers, by the outcome that was stored for it. -/
theorem RowOf.answer {sha256 : List UInt8 → Digest} {system : GatewaySystem}
    {key : RequestKey} {row : RequestRow} (isRow : system.RowOf sha256 key row)
    (fingerprint : Digest) :
    ∃ reservation answer, row.answer fingerprint = .ok reservation ∧
      reservation.answer = some answer ∧
      (row.fingerprint = fingerprint ∧
          (answer = idempotencyInProgress ∨
            answer = idempotencyOutcomeUnknown ∨
            ∃ response,
              .stored (system.owners key) response ∈ system.events ∧
                answer = idempotencyReplayed response) ∨
        row.fingerprint ≠ fingerprint ∧ answer = idempotencyKeyConflict) := by
  have replays : row.state = .completed ∨ row.state = .knownError →
      ∃ response, .stored (system.owners key) response ∈ system.events ∧
        row.replay = .ok (.replay response) := by
    intro completed
    obtain ⟨response, isStored, status, body⟩ := isRow.outcome completed
    refine ⟨response, isStored, ?_⟩
    have small := response.status.toNat_lt
    simp only [RequestRow.replay, status, body]
    rw [if_neg (by omega)]
    simp
  unfold RequestRow.answer
  split
  next different =>
    exact ⟨.conflict, _, rfl, rfl, .inr ⟨different, rfl⟩⟩
  next same =>
    rw [ne_eq, Decidable.not_not] at same
    split
    next => exact ⟨.inProgress, _, rfl, rfl, .inl ⟨same, .inl rfl⟩⟩
    next => exact ⟨.ambiguous, _, rfl, rfl, .inl ⟨same, .inr (.inl rfl)⟩⟩
    next completed =>
      obtain ⟨response, isStored, isReplay⟩ := replays (.inl completed)
      exact ⟨_, _, isReplay, rfl,
        .inl ⟨same, .inr (.inr ⟨response, isStored, rfl⟩)⟩⟩
    next knownError =>
      obtain ⟨response, isStored, isReplay⟩ := replays (.inr knownError)
      exact ⟨_, _, isReplay, rfl,
        .inl ⟨same, .inr (.inr ⟨response, isStored, rfl⟩)⟩⟩

section Injective

variable {sha256 : List UInt8 → Digest} {hashed : Set (List UInt8)}
variable (injective : Set.InjOn sha256 hashed)

include injective

/-- A request that is answered from a row. -/
theorem Recorded.answer {system : GatewaySystem}
    (recorded : system.Recorded sha256 hashed) {request : MutationRequest}
    {canonical : List UInt8}
    (hashes : request.HashesIn sha256 hashed canonical) {row : RequestRow}
    (present : system.store.rows.lookup (request.requestKey sha256) = some row)
    {reservation : Reservation}
    (answered : row.answer (request.fingerprint sha256 canonical) =
      .ok reservation) :
    { system with
      events := .received request canonical
        (system.owners (request.requestKey sha256)) reservation.answer ::
          system.events }.Recorded sha256 hashed := by
  have isRow := recorded.rows _ row present
  obtain ⟨_, answer, isAnswer, isSome, answers⟩ :=
    isRow.answer (request.fingerprint sha256 canonical)
  cases answered.symm.trans isAnswer
  rw [isSome]
  obtain ⟨first, firstCanonical, isFirst, firstKey, firstPrint⟩ := isRow.first
  have firstHashes := recorded.hashes _ _ _ _ isFirst
  have same := fingerprint_eq_iff injective firstHashes hashes
  obtain ⟨samePrincipal, sameKey⟩ := key_eq_of_requestKey_eq injective
    firstHashes hashes firstKey
  have period := recorded.periods _ _ _ _ isFirst
  obtain ⟨atMostOnce, wereHashes, wereRows, periods, storedPeriods,
    wereProcesses, early⟩ := recorded
  refine ⟨⟨?_, ?_, ?_, ?_, ?_, ?_⟩, ?_, ?_, ?_, ?_, ?_, ?_⟩
  · intro process
    rw [List.countP_cons_of_neg (by simp [GatewayEvent.isDispatchOf])]
    exact atMostOnce.dispatches process
  · intro other
    rw [List.countP_cons_of_neg (by simp [GatewayEvent.isFirst])]
    exact atMostOnce.firsts other
  · intro process key member
    rcases List.mem_cons.mp member with new | earlier
    · cases new
    · obtain ⟨request, canonical, wasFirst, isKey⟩ :=
        atMostOnce.dispatched process key earlier
      exact ⟨request, canonical, List.mem_cons_of_mem _ wasFirst, isKey⟩
  · intro asked askedCanonical other reply member
    rcases List.mem_cons.mp member with new | earlier
    · cases new
      refine ⟨first, firstCanonical, List.mem_cons_of_mem _ isFirst,
        samePrincipal, sameKey, ?_⟩
      obtain ⟨samePrint, replies⟩ | ⟨different, conflicts⟩ := answers
      · have replied : system.AnsweredFrom first firstCanonical request
            canonical (system.owners (request.requestKey sha256)) answer :=
          .inl ⟨same.mp (firstPrint.trans samePrint), replies⟩
        exact replied.mono fun event => List.mem_cons_of_mem _
      · refine .inr ⟨fun isSame => different ?_, conflicts⟩
        exact firstPrint.symm.trans (same.mpr isSame)
    · obtain ⟨first, firstCanonical, isFirst, principal, isKey, replied⟩ :=
        atMostOnce.others asked askedCanonical other reply earlier
      exact ⟨first, firstCanonical, List.mem_cons_of_mem _ isFirst, principal,
        isKey, replied.mono fun event => List.mem_cons_of_mem _⟩
  · intro other response second isResponse isSecond
    refine atMostOnce.stored other response second ?_ ?_
    · exact (List.mem_cons.mp isResponse).resolve_left (by simp)
    · exact (List.mem_cons.mp isSecond).resolve_left (by simp)
  · exact atMostOnce.bounded
  · intro asked askedCanonical other reply member
    rcases List.mem_cons.mp member with new | earlier
    · cases new
      exact hashes
    · exact wereHashes asked askedCanonical other reply earlier
  · intro key other isOther
    refine (wereRows key other isOther).mono rfl
      (fun event => List.mem_cons_of_mem _) ?_ rfl
      (wereRows key other isOther).expires (.inl rfl)
    intro response isStored
    exact (List.mem_cons.mp isStored).resolve_left (by simp)
  · intro asked askedCanonical other reply member
    rcases List.mem_cons.mp member with new | earlier
    · cases new
      exact period
    · exact periods asked askedCanonical other reply earlier
  · intro other response isStored
    exact storedPeriods other response
      ((List.mem_cons.mp isStored).resolve_left (by simp))
  · intro key process isProcess
    obtain ⟨request, canonical, isFirst, isKey⟩ :=
      wereProcesses key process isProcess
    exact ⟨request, canonical, List.mem_cons_of_mem _ isFirst, isKey⟩
  · intro key process isProcess isEarly
    rw [List.countP_cons_of_neg (by simp [GatewayEvent.isDispatchOf])]
    exact early key process isProcess isEarly

end Injective

/-- A request that makes a row. -/
theorem Recorded.reserve {sha256 : List UInt8 → Digest}
    {hashed : Set (List UInt8)} {system : GatewaySystem}
    (recorded : system.Recorded sha256 hashed) {request : MutationRequest}
    {canonical : List UInt8}
    (hashes : request.HashesIn sha256 hashed canonical)
    (room : FiniteMap.size system.store.rows < system.store.maxRows.toNat)
    {nowMs : Nat} (small : nowMs + ambiguousTtlMs < 2 ^ 63) :
    { system with
      store := { system.store with
        rows := system.store.rows.insert (request.requestKey sha256)
          (IdempotencyStore.freshRow (request.fingerprint sha256 canonical)
            nowMs (nowMs + ambiguousTtlMs)) }
      processes := system.processes.insert system.nextProcess
        ⟨request.requestKey sha256, request.fingerprint sha256 canonical,
          .reserved⟩
      nextProcess := system.nextProcess + 1
      owners := Function.update system.owners (request.requestKey sha256)
        system.nextProcess
      events := .received request canonical system.nextProcess none ::
        system.events }.Recorded sha256 hashed := by
  obtain ⟨atMostOnce, wereHashes, wereRows, periods, storedPeriods,
    wereProcesses, early⟩ := recorded
  have undispatched : system.events.countP
      (·.isDispatchOf system.nextProcess) = 0 := by
    rw [List.countP_eq_zero]
    intro event member isDispatch
    cases event with
    | dispatched process key =>
        obtain rfl : process = system.nextProcess := by
          simpa [GatewayEvent.isDispatchOf] using isDispatch
        obtain ⟨first, firstCanonical, isFirst, _⟩ :=
          atMostOnce.dispatched _ key member
        exact Nat.lt_irrefl _ (periods _ _ _ _ isFirst)
    | _ => cases isDispatch
  refine ⟨⟨?_, ?_, ?_, ?_, ?_, ?_⟩, ?_, ?_, ?_, ?_, ?_, ?_⟩
  · intro process
    rw [List.countP_cons_of_neg (by simp [GatewayEvent.isDispatchOf])]
    exact atMostOnce.dispatches process
  · intro period
    by_cases isNew : period = system.nextProcess
    · subst isNew
      have none : system.events.countP (·.isFirst system.nextProcess) = 0 := by
        rw [List.countP_eq_zero]
        intro event member isFirst
        unfold GatewayEvent.isFirst at isFirst
        split at isFirst
        next own =>
          obtain rfl : own = system.nextProcess := by simpa using isFirst
          exact Nat.lt_irrefl _ (periods _ _ _ _ member)
        · cases isFirst
      rw [List.countP_cons, none]
      split <;> omega
    · have other : ¬ (GatewayEvent.received request canonical
          system.nextProcess none).isFirst period = true := by
        simpa [GatewayEvent.isFirst] using Ne.symm isNew
      rw [List.countP_cons_of_neg other]
      exact atMostOnce.firsts period
  · intro process key member
    obtain ⟨first, firstCanonical, isFirst, isKey⟩ := atMostOnce.dispatched
      process key ((List.mem_cons.mp member).resolve_left (by simp))
    exact ⟨first, firstCanonical, List.mem_cons_of_mem _ isFirst, isKey⟩
  · intro asked askedCanonical period reply member
    obtain ⟨first, firstCanonical, isFirst, principal, isKey, replied⟩ :=
      atMostOnce.others asked askedCanonical period reply
        ((List.mem_cons.mp member).resolve_left (by simp))
    exact ⟨first, firstCanonical, List.mem_cons_of_mem _ isFirst, principal,
      isKey, replied.mono fun event => List.mem_cons_of_mem _⟩
  · intro period response other isResponse isOther
    refine atMostOnce.stored period response other ?_ ?_
    · exact (List.mem_cons.mp isResponse).resolve_left (by simp)
    · exact (List.mem_cons.mp isOther).resolve_left (by simp)
  · have larger := FiniteMap.size_insert_le system.store.rows
      (request.requestKey sha256) (IdempotencyStore.freshRow
        (request.fingerprint sha256 canonical) nowMs (nowMs + ambiguousTtlMs))
    exact larger.trans room
  · intro asked askedCanonical period reply member
    rcases List.mem_cons.mp member with new | earlier
    · cases new
      exact hashes
    · exact wereHashes asked askedCanonical period reply earlier
  · intro key row present
    obtain ⟨rfl, rfl⟩ | ⟨different, wasPresent⟩ :=
      FiniteMap.lookup_insert_eq_some_iff.mp present
    · refine ⟨⟨request, canonical, ?_, rfl, rfl⟩, small, ?_, ?_⟩
      · simp
      · intro _ response isStored
        have earlier := (List.mem_cons.mp isStored).resolve_left (by simp)
        dsimp only at earlier
        rw [Function.update_self] at earlier
        exact Nat.lt_irrefl _ (storedPeriods _ _ earlier)
      · rintro (completed | knownError)
        · cases completed
        · cases knownError
    · refine (wereRows key row wasPresent).mono
        (Function.update_of_ne different _ _)
        (fun event => List.mem_cons_of_mem _) ?_ rfl
        (wereRows key row wasPresent).expires (.inl rfl)
      intro response isStored
      exact (List.mem_cons.mp isStored).resolve_left (by simp)
  · intro asked askedCanonical period reply member
    rcases List.mem_cons.mp member with new | earlier
    · cases new
      exact Nat.lt_succ_self _
    · exact Nat.lt_succ_of_lt (periods asked askedCanonical period reply earlier)
  · intro period response isStored
    exact Nat.lt_succ_of_lt (storedPeriods period response
      ((List.mem_cons.mp isStored).resolve_left (by simp)))
  · intro key process isProcess
    obtain ⟨rfl, rfl⟩ | ⟨_, wasProcess⟩ :=
      FiniteMap.lookup_insert_eq_some_iff.mp isProcess
    · exact ⟨request, canonical, List.mem_cons_self, rfl⟩
    · obtain ⟨first, firstCanonical, isFirst, isKey⟩ :=
        wereProcesses key process wasProcess
      exact ⟨first, firstCanonical, List.mem_cons_of_mem _ isFirst, isKey⟩
  · intro key process isProcess isEarly
    rw [List.countP_cons_of_neg (by simp [GatewayEvent.isDispatchOf])]
    obtain ⟨rfl, rfl⟩ | ⟨_, wasProcess⟩ :=
      FiniteMap.lookup_insert_eq_some_iff.mp isProcess
    · exact undispatched
    · exact early key process wasProcess isEarly

theorem Recorded.dispatch {sha256 : List UInt8 → Digest}
    {hashed : Set (List UInt8)} {system : GatewaySystem}
    (recorded : system.Recorded sha256 hashed) {key : Nat}
    {process : MutationProcess}
    (isProcess : system.processes.lookup key = some process)
    (isEarly : process.phase.isEarly = true) :
    { system with
      processes := system.processes.insert key
        { process with phase := .dispatched }
      events := .dispatched key process.key :: system.events }.Recorded sha256
        hashed := by
  obtain ⟨atMostOnce, wereHashes, wereRows, periods, storedPeriods,
    wereProcesses, early⟩ := recorded
  have old : ∀ event ∈ .dispatched key process.key :: system.events,
      event ≠ .dispatched key process.key → event ∈ system.events :=
    fun event member different => (List.mem_cons.mp member).resolve_left
      different
  have others : ∀ other, other ≠ key →
      (GatewayEvent.dispatched key process.key :: system.events).countP
          (·.isDispatchOf other) =
        system.events.countP (·.isDispatchOf other) := by
    intro other different
    refine List.countP_cons_of_neg ?_
    simpa [GatewayEvent.isDispatchOf] using Ne.symm different
  refine ⟨⟨?_, ?_, ?_, ?_, ?_, atMostOnce.bounded⟩, ?_, ?_, ?_, ?_, ?_, ?_⟩
  · intro other
    by_cases isKey : other = key
    · subst isKey
      rw [List.countP_cons, early other process isProcess isEarly]
      split <;> omega
    · rw [others other isKey]
      exact atMostOnce.dispatches other
  · intro period
    rw [List.countP_cons_of_neg (by simp [GatewayEvent.isFirst])]
    exact atMostOnce.firsts period
  · intro other otherKey member
    rcases List.mem_cons.mp member with new | earlier
    · cases new
      obtain ⟨first, firstCanonical, isFirst, isKey⟩ :=
        wereProcesses key process isProcess
      exact ⟨first, firstCanonical, List.mem_cons_of_mem _ isFirst, isKey⟩
    · obtain ⟨first, firstCanonical, isFirst, isKey⟩ :=
        atMostOnce.dispatched other otherKey earlier
      exact ⟨first, firstCanonical, List.mem_cons_of_mem _ isFirst, isKey⟩
  · intro asked askedCanonical period reply member
    obtain ⟨first, firstCanonical, isFirst, principal, isKey, replied⟩ :=
      atMostOnce.others asked askedCanonical period reply
        (old _ member (by simp))
    exact ⟨first, firstCanonical, List.mem_cons_of_mem _ isFirst, principal,
      isKey, replied.mono fun event => List.mem_cons_of_mem _⟩
  · intro period response other isResponse isOther
    exact atMostOnce.stored period response other (old _ isResponse (by simp))
      (old _ isOther (by simp))
  · intro asked askedCanonical period reply member
    exact wereHashes asked askedCanonical period reply (old _ member (by simp))
  · intro other row present
    exact (wereRows other row present).mono rfl
      (fun event => List.mem_cons_of_mem _)
      (fun response isStored => old _ isStored (by simp)) rfl
      (wereRows other row present).expires (.inl rfl)
  · intro asked askedCanonical period reply member
    exact periods asked askedCanonical period reply (old _ member (by simp))
  · intro period response isStored
    exact storedPeriods period response (old _ isStored (by simp))
  · intro other otherProcess isOther
    have was : ∃ before, system.processes.lookup other = some before ∧
        otherProcess.key = before.key := by
      obtain ⟨rfl, rfl⟩ | ⟨_, wasProcess⟩ :=
        FiniteMap.lookup_insert_eq_some_iff.mp isOther
      · exact ⟨process, isProcess, rfl⟩
      · exact ⟨otherProcess, wasProcess, rfl⟩
    obtain ⟨before, wasProcess, sameKey⟩ := was
    obtain ⟨first, firstCanonical, isFirst, isKey⟩ :=
      wereProcesses other before wasProcess
    exact ⟨first, firstCanonical, List.mem_cons_of_mem _ isFirst,
      isKey.trans sameKey.symm⟩
  · intro other otherProcess isOther otherEarly
    obtain ⟨_, rfl⟩ | ⟨different, wasProcess⟩ :=
      FiniteMap.lookup_insert_eq_some_iff.mp isOther
    · cases otherEarly
    · rw [others other different]
      exact early other otherProcess wasProcess otherEarly

/-- The outcome of a request is stored in the row, and the request is done. -/
theorem Recorded.store {sha256 : List UInt8 → Digest}
    {hashed : Set (List UInt8)} {system : GatewaySystem}
    (recorded : system.Recorded sha256 hashed) {key : RequestKey}
    {fingerprint : Digest} {before after : RequestRow}
    {store : IdempotencyStore} {response : StoredResponse}
    (settles : system.store.Settles key fingerprint before after store)
    (status : after.status = some response.status.toNat)
    (body : after.body = some response.body)
    (small : after.expiresAtMs < 2 ^ 63) (clock : Nat) :
    { system with
      store := store
      clock := clock
      events := .stored (system.owners key) response ::
        system.events }.Recorded sha256 hashed := by
  have own := recorded.rows key before settles.present
  have unstored := own.unstored settles.inFlight
  have separate : ∀ other row, system.store.rows.lookup other = some row →
      other ≠ key → system.owners other ≠ system.owners key :=
    fun other row present different same =>
      different (recorded.key_eq present settles.present same)
  obtain ⟨atMostOnce, wereHashes, wereRows, periods, storedPeriods,
    wereProcesses, early⟩ := recorded
  have old : ∀ event ∈ .stored (system.owners key) response :: system.events,
      event ≠ .stored (system.owners key) response → event ∈ system.events :=
    fun event member different => (List.mem_cons.mp member).resolve_left
      different
  have counts : ∀ process,
      (GatewayEvent.stored (system.owners key) response ::
          system.events).countP (·.isDispatchOf process) =
        system.events.countP (·.isDispatchOf process) := fun process =>
    List.countP_cons_of_neg (by simp [GatewayEvent.isDispatchOf])
  obtain ⟨first, firstCanonical, isFirst, firstKey, firstPrint⟩ := own.first
  refine ⟨⟨?_, ?_, ?_, ?_, ?_, ?_⟩, ?_, ?_, ?_, ?_, ?_, ?_⟩
  · intro process
    rw [counts]
    exact atMostOnce.dispatches process
  · intro period
    rw [List.countP_cons_of_neg (by simp [GatewayEvent.isFirst])]
    exact atMostOnce.firsts period
  · intro process other member
    obtain ⟨request, canonical, wasFirst, isKey⟩ :=
      atMostOnce.dispatched process other (old _ member (by simp))
    exact ⟨request, canonical, List.mem_cons_of_mem _ wasFirst, isKey⟩
  · intro asked askedCanonical period reply member
    obtain ⟨request, canonical, wasFirst, principal, isKey, replied⟩ :=
      atMostOnce.others asked askedCanonical period reply
        (old _ member (by simp))
    exact ⟨request, canonical, List.mem_cons_of_mem _ wasFirst, principal,
      isKey, replied.mono fun event => List.mem_cons_of_mem _⟩
  · -- Nothing was stored for the row before.
    intro period one another isOne isAnother
    rcases List.mem_cons.mp isOne with new | earlier
    · cases new
      rcases List.mem_cons.mp isAnother with new | earlier
      · cases new
        rfl
      · exact absurd earlier (unstored another)
    · rcases List.mem_cons.mp isAnother with new | anotherEarlier
      · cases new
        exact absurd earlier (unstored one)
      · exact atMostOnce.stored period one another earlier anotherEarlier
  · rw [settles.result]
    have same := FiniteMap.size_insert_of_lookup settles.present after
    exact same.le.trans atMostOnce.bounded
  · intro asked askedCanonical period reply member
    exact wereHashes asked askedCanonical period reply (old _ member (by simp))
  · intro other row present
    rw [settles.result] at present
    obtain ⟨rfl, rfl⟩ | ⟨different, wasPresent⟩ :=
      FiniteMap.lookup_insert_eq_some_iff.mp present
    · refine ⟨⟨first, firstCanonical, List.mem_cons_of_mem _ isFirst, firstKey,
        firstPrint.trans settles.kept.symm⟩, small, ?_, ?_⟩
      · intro inFlight
        exact absurd inFlight settles.isSettled
      · intro _
        exact ⟨response, List.mem_cons_self, status, body⟩
    · refine (wereRows other row wasPresent).mono rfl
        (fun event => List.mem_cons_of_mem _) ?_ rfl
        (wereRows other row wasPresent).expires (.inl rfl)
      intro another isStored
      refine old _ isStored fun same => ?_
      exact separate other row wasPresent different
        (GatewayEvent.stored.inj same).1
  · intro asked askedCanonical period reply member
    exact periods asked askedCanonical period reply (old _ member (by simp))
  · intro period another isStored
    rcases List.mem_cons.mp isStored with new | earlier
    · cases new
      exact periods _ _ _ _ isFirst
    · exact storedPeriods period another earlier
  · intro other process isProcess
    obtain ⟨request, canonical, wasFirst, isKey⟩ :=
      wereProcesses other process isProcess
    exact ⟨request, canonical, List.mem_cons_of_mem _ wasFirst, isKey⟩
  · intro other process isProcess isEarly
    rw [counts]
    exact early other process isProcess isEarly

theorem Recorded.step {sha256 : List UInt8 → Digest}
    {hashed : Set (List UInt8)} (injective : Set.InjOn sha256 hashed)
    {system after : GatewaySystem} (recorded : system.Recorded sha256 hashed)
    {action : GatewayAction} (hashes : HashesIn sha256 hashed system action)
    (stepped : system.step sha256 action = some after) :
    after.Recorded sha256 hashed := by
  have same : ∀ key row, system.store.rows.lookup key = some row →
      ∃ old, system.store.rows.lookup key = some old ∧
        row.fingerprint = old.fingerprint ∧ row.expiresAtMs < 2 ^ 63 ∧
        (row = old ∨ row.state = .ambiguous) :=
    fun key row present =>
      ⟨row, present, rfl, (recorded.rows key row present).expires, .inl rfl⟩
  have erased : ∀ gone key process,
      (system.processes.erase gone).lookup key = some process →
      ∃ old, system.processes.lookup key = some old ∧
        process.key = old.key ∧
        (process.phase.isEarly = true → old.phase.isEarly = true) :=
    fun gone key process isProcess =>
      ⟨process, (FiniteMap.lookup_erase_eq_some_iff.mp isProcess).2, rfl, id⟩
  cases step_gatewayStep stepped with
  | refused answer store later isStore =>
      obtain rfl | rfl := isStore
      · exact recorded.neutral same le_rfl rfl
          (fun key process isProcess => ⟨process, isProcess, rfl, id⟩) rfl rfl
          (.inr ⟨_, rfl, trivial⟩)
      · exact (recorded.expire _ 0).neutral
          (fun key row present => ⟨row, present, rfl,
            (recorded.rows key row
              (IdempotencyStore.lookup_expire.mp present).1).expires,
            .inl rfl⟩) le_rfl rfl
          (fun key process isProcess => ⟨process, isProcess, rfl, id⟩) rfl rfl
          (.inr ⟨_, rfl, trivial⟩)
  | found canonical row reservation later isCanonical present answered =>
      exact (recorded.expire _ _).answer injective
        (hashes canonical isCanonical) present answered
  | fresh canonical later isCanonical absent room small =>
      exact (recorded.expire _ _).reserve (hashes canonical isCanonical) room
        small
  | quiet process phase isProcess early =>
      refine recorded.neutral same le_rfl rfl ?_ rfl rfl (.inl rfl)
      intro key other isOther
      obtain ⟨rfl, rfl⟩ | ⟨_, wasProcess⟩ :=
        FiniteMap.lookup_insert_eq_some_iff.mp isOther
      · exact ⟨process, isProcess, rfl, early⟩
      · exact ⟨other, wasProcess, rfl, id⟩
  | dispatch process isProcess early =>
      exact recorded.dispatch isProcess early
  | stored process response answer before after store nowMs _ _ settles _
      status body small =>
      have stored := recorded.store settles status body small nowMs
      exact stored.neutral
        (fun key row present => ⟨row, present, rfl,
          (stored.rows key row present).expires, .inl rfl⟩) le_rfl rfl
        (erased _) rfl rfl (.inr ⟨_, rfl, trivial⟩)
  | doubted process answer before after store nowMs _ _ settles ambiguous
      small =>
      refine recorded.neutral ?_ ?_ ?_ (erased _) rfl rfl
        (.inr ⟨_, rfl, trivial⟩)
      · intro key row present
        rw [settles.result] at present
        obtain ⟨rfl, rfl⟩ | ⟨_, wasPresent⟩ :=
          FiniteMap.lookup_insert_eq_some_iff.mp present
        · exact ⟨before, settles.present, settles.kept, small, .inr ambiguous⟩
        · exact same key row wasPresent
      · rw [settles.result]
        exact (FiniteMap.size_insert_of_lookup settles.present after).le
      · rw [settles.result]
  | finished answer nowMs later =>
      exact recorded.neutral same le_rfl rfl (erased _) rfl rfl
        (.inr ⟨_, rfl, trivial⟩)
  | restart later small =>
      refine recorded.neutral ?_ (FiniteMap.size_mapValues ..).le rfl ?_ rfl
        rfl (.inl rfl)
      · intro key row present
        rw [FiniteMap.lookup_mapValues] at present
        obtain ⟨old, wasPresent, rfl⟩ := Option.map_eq_some_iff.mp present
        refine ⟨old, wasPresent, ?_⟩
        split
        · exact ⟨rfl, small, .inr rfl⟩
        · exact ⟨rfl, (recorded.rows key old wasPresent).expires, .inl rfl⟩
      · intro key process isProcess
        cases isProcess

/-- A row stays with the reservation that made it until it expires, and an
outcome is not changed. -/
def RowsKept (before after : GatewaySystem) : Prop :=
  ∀ key row, before.store.rows.lookup key = some row →
    row.expiresAtMs ≤ after.clock ∨
      ∃ later, after.store.rows.lookup key = some later ∧
        after.owners key = before.owners key ∧
        later.fingerprint = row.fingerprint ∧
        (row.state ≠ .inFlight → later = row)

theorem rowsKept_of_step {sha256 : List UInt8 → Digest}
    {system after : GatewaySystem} {action : GatewayAction}
    (stepped : system.step sha256 action = some after) :
    system.RowsKept after := by
  intro key row present
  have expires : ∀ now, row.expiresAtMs ≤ now ∨
      (system.store.expire now).rows.lookup key = some row := by
    intro now
    by_cases expired : row.expiresAtMs ≤ now
    · exact .inl expired
    · exact .inr (IdempotencyStore.lookup_expire.mpr
        ⟨present, Nat.lt_of_not_le expired⟩)
  have settled : ∀ other fingerprint before settled store,
      system.store.Settles other fingerprint before settled store →
      ∃ later, store.rows.lookup key = some later ∧
        later.fingerprint = row.fingerprint ∧
        (row.state ≠ .inFlight → later = row) := by
    intro other fingerprint before settled store settles
    rw [settles.result]
    by_cases same : key = other
    · subst same
      obtain rfl : row = before :=
        Option.some.inj (present.symm.trans settles.present)
      exact ⟨settled, AList.lookup_insert _, settles.kept,
        fun done => absurd settles.inFlight done⟩
    · exact ⟨row, (AList.lookup_insert_ne same).trans present, rfl,
        fun _ => rfl⟩
  cases step_gatewayStep stepped with
  | refused answer store later isStore =>
      obtain rfl | rfl := isStore
      · exact .inr ⟨row, present, rfl, rfl, fun _ => rfl⟩
      · exact (expires _).imp_right fun kept =>
          ⟨row, kept, rfl, rfl, fun _ => rfl⟩
  | found canonical _ reservation later =>
      exact (expires _).imp_right fun kept =>
        ⟨row, kept, rfl, rfl, fun _ => rfl⟩
  | fresh canonical later isCanonical absent =>
      refine (expires _).imp_right fun kept => ?_
      have different : key ≠ _ := fun same => by
        rw [same, absent] at kept
        cases kept
      exact ⟨row, (AList.lookup_insert_ne different).trans kept,
        Function.update_of_ne different _ _, rfl, fun _ => rfl⟩
  | quiet => exact .inr ⟨row, present, rfl, rfl, fun _ => rfl⟩
  | dispatch => exact .inr ⟨row, present, rfl, rfl, fun _ => rfl⟩
  | stored process response answer before after store nowMs _ _ settles =>
      obtain ⟨later, isLater, fingerprint, done⟩ := settled _ _ _ _ _ settles
      exact .inr ⟨later, isLater, rfl, fingerprint, done⟩
  | doubted process answer before after store nowMs _ _ settles =>
      obtain ⟨later, isLater, fingerprint, done⟩ := settled _ _ _ _ _ settles
      exact .inr ⟨later, isLater, rfl, fingerprint, done⟩
  | finished => exact .inr ⟨row, present, rfl, rfl, fun _ => rfl⟩
  | @restart nowMs later small =>
      refine .inr ⟨if row.state = .inFlight then
        row.doubt nowMs (nowMs + ambiguousTtlMs) else row, ?_, rfl, ?_, ?_⟩
      · rw [FiniteMap.lookup_mapValues, present, Option.map_some]
      · split <;> rfl
      · intro done
        rw [if_neg done]

/-- While its row has not expired, a request is answered from it and does not
go on. -/
def AnswersFromRow (sha256 : List UInt8 → Digest) (system : GatewaySystem) :
    Prop :=
  ∀ request canonical nowMs row, system.clock ≤ nowMs →
    request.canonicalRequestBody = .ok canonical →
    system.store.rows.lookup (request.requestKey sha256) = some row →
    nowMs < row.expiresAtMs →
    ∃ answer after, system.step sha256 (.receive request nowMs) = some after ∧
      after.processes = system.processes ∧
      after.events = .received request canonical
        (system.owners (request.requestKey sha256)) (some answer) ::
          system.events

theorem Recorded.answersFromRow {sha256 : List UInt8 → Digest}
    {hashed : Set (List UInt8)} {system : GatewaySystem}
    (recorded : system.Recorded sha256 hashed) :
    system.AnswersFromRow sha256 := by
  intro request canonical nowMs row later isCanonical present unexpired
  have isRow := recorded.rows _ row present
  obtain ⟨reservation, answer, answered, isSome, _⟩ :=
    isRow.answer (request.fingerprint sha256 canonical)
  have reserved : system.store.reserve (request.requestKey sha256)
      (request.fingerprint sha256 canonical) nowMs =
        (.ok reservation, system.store.expire nowMs) := by
    have inside : IdempotencyStore.sqliteI64 nowMs = .ok nowMs :=
      if_pos (unexpired.trans isRow.expires)
    have kept := IdempotencyStore.lookup_expire.mpr ⟨present, unexpired⟩
    simp [IdempotencyStore.reserve, inside, kept, answered]
  refine ⟨answer, system.receive sha256 request canonical nowMs, ?_, ?_⟩
  · rw [GatewaySystem.step, if_pos later, isCanonical]
  · unfold receive
    simp only [reserved]
    cases reservation with
    | fresh => cases isSome
    | inProgress =>
        cases isSome
        exact ⟨rfl, rfl⟩
    | replay response =>
        cases isSome
        exact ⟨rfl, rfl⟩
    | conflict =>
        cases isSome
        exact ⟨rfl, rfl⟩
    | ambiguous =>
        cases isSome
        exact ⟨rfl, rfl⟩

/-- The requests with a lower number are gone. -/
structure Abandoned (bound : Nat) (before system : GatewaySystem) : Prop where
  next : bound ≤ system.nextProcess
  processes : ∀ key process, system.processes.lookup key = some process →
    bound ≤ key
  dispatches : ∀ process, process < bound →
    system.events.countP (·.isDispatchOf process) =
      before.events.countP (·.isDispatchOf process)

theorem Abandoned.step {sha256 : List UInt8 → Digest} {bound : Nat}
    {before system after : GatewaySystem} {action : GatewayAction}
    (abandoned : Abandoned bound before system)
    (stepped : system.step sha256 action = some after) :
    Abandoned bound before after := by
  obtain ⟨next, processes, dispatches⟩ := abandoned
  have erased : ∀ gone key process,
      (system.processes.erase gone).lookup key = some process → bound ≤ key :=
    fun gone key process isProcess => processes key process
      (FiniteMap.lookup_erase_eq_some_iff.mp isProcess).2
  have inserted : ∀ new added, bound ≤ new → ∀ key process,
      (system.processes.insert new added).lookup key = some process →
      bound ≤ key := by
    intro new added above key process isProcess
    obtain ⟨rfl, _⟩ | ⟨_, wasProcess⟩ :=
      FiniteMap.lookup_insert_eq_some_iff.mp isProcess
    · exact above
    · exact processes key process wasProcess
  have counts : ∀ event : GatewayEvent,
      (∀ process, process < bound → event.isDispatchOf process = false) →
      ∀ process, process < bound →
        (event :: system.events).countP (·.isDispatchOf process) =
          before.events.countP (·.isDispatchOf process) := by
    intro event other process below
    rw [List.countP_cons_of_neg (by simp [other process below])]
    exact dispatches process below
  cases step_gatewayStep stepped with
  | refused answer store =>
      exact ⟨next, processes, counts _ fun _ _ => rfl⟩
  | found canonical row reservation =>
      exact ⟨next, processes, counts _ fun _ _ => rfl⟩
  | fresh canonical =>
      exact ⟨Nat.le_succ_of_le next, inserted _ _ next,
        counts _ fun _ _ => rfl⟩
  | quiet process phase isProcess =>
      exact ⟨next, inserted _ _ (processes _ process isProcess), dispatches⟩
  | dispatch process isProcess =>
      have above := processes _ process isProcess
      refine ⟨next, inserted _ _ above, counts _ fun other below => ?_⟩
      simpa [GatewayEvent.isDispatchOf] using
        Nat.ne_of_gt (Nat.lt_of_lt_of_le below above)
  | stored process response answer before after store nowMs =>
      refine ⟨next, erased _, ?_⟩
      intro process below
      rw [List.countP_cons_of_neg (by simp [GatewayEvent.isDispatchOf])]
      exact counts _ (fun _ _ => rfl) process below
  | doubted => exact ⟨next, erased _, counts _ fun _ _ => rfl⟩
  | finished => exact ⟨next, erased _, counts _ fun _ _ => rfl⟩
  | restart =>
      refine ⟨next, ?_, dispatches⟩
      intro key process isProcess
      cases isProcess

/-- A restart leaves the rows in flight ambiguous, and the requests that made
the rows so far are never dispatched again. -/
structure AbandonsRows (sha256 : List UInt8 → Digest)
    (before after : GatewaySystem) : Prop where
  ambiguous : ∀ key row, before.store.rows.lookup key = some row →
    row.state = .inFlight →
    ∃ later, after.store.rows.lookup key = some later ∧
      later.state = .ambiguous
  dispatches : ∀ system, Reaches (step sha256) anyStep after system →
    ∀ process, process < before.nextProcess →
      system.events.countP (·.isDispatchOf process) =
        before.events.countP (·.isDispatchOf process)

theorem abandonsRows_of_restart {sha256 : List UInt8 → Digest}
    {before after : GatewaySystem} {nowMs : Nat}
    (stepped : before.step sha256 (.restart nowMs) = some after) :
    AbandonsRows sha256 before after := by
  cases step_gatewayStep stepped with
  | restart later small =>
      constructor
      · intro key row present inFlight
        refine ⟨row.doubt nowMs (nowMs + ambiguousTtlMs), ?_, rfl⟩
        rw [FiniteMap.lookup_mapValues, present, Option.map_some,
          if_pos inFlight]
      · intro system reached process below
        have abandoned : Abandoned before.nextProcess before system := by
          refine reached.invariant ⟨le_rfl, ?_, fun _ _ => rfl⟩
            fun _ _ _ abandoned _ stepped => abandoned.step stepped
          intro key process isProcess
          cases isProcess
        exact abandoned.dispatches process below

/-- In every run of the gateway, the requests of one row are dispatched at most
once and otherwise answered from it, the row lasts until it expires, and a
restart leaves it without a dispatch to come. -/
theorem mutations_dispatched_at_most_once {sha256 : List UInt8 → Digest}
    {hashed : Set (List UInt8)} (injective : Set.InjOn sha256 hashed)
    (maxRows : UInt64) (startMs : Nat) {system : GatewaySystem}
    (reached : Reaches (step sha256) (HashesIn sha256 hashed)
      (initial maxRows startMs) system) :
    system.AtMostOnce sha256 ∧ system.AnswersFromRow sha256 ∧
      (∀ action after, system.step sha256 action = some after →
        system.RowsKept after) ∧
      ∀ nowMs after, system.step sha256 (.restart nowMs) = some after →
        AbandonsRows sha256 system after := by
  have recorded : system.Recorded sha256 hashed :=
    reached.invariant (recorded_initial sha256 hashed maxRows startMs)
      fun _ _ _ recorded hashes stepped =>
        recorded.step injective hashes stepped
  exact ⟨recorded.atMostOnce, recorded.answersFromRow,
    fun _ _ stepped => rowsKept_of_step stepped,
    fun _ _ stepped => abandonsRows_of_restart stepped⟩

/-- `thread.stop` with an empty body. -/
def stopRequest : MutationRequest where
  principal := "phone"
  key := "k"
  operation := "thread.stop"
  targets := ["workspace", "profile", "thread"]
  content := .object []
  sized := by decide

/-- A hash that tells strings apart by their length. -/
def lengthHash (bytes : List UInt8) : Digest :=
  .replicate 32 (.ofNat bytes.length)

/-- The strings that the request hashes. -/
def stopHashed : Set (List UInt8) :=
  {utf8Bytes "k", [123, 125],
    stopRequest.fingerprintInput lengthHash [123, 125]}

theorem lengthHash_injOn : Set.InjOn lengthHash stopHashed := by
  have apart : ∀ first second : List UInt8,
      (UInt8.ofNat first.length ≠ UInt8.ofNat second.length) →
      lengthHash first = lengthHash second → first = second := by
    intro first second different same
    refine absurd ?_ different
    exact congrArg (·.get 0) same
  rintro first (rfl | rfl | rfl) second (rfl | rfl | rfl) <;>
    first
    | exact fun _ => rfl
    | exact apart _ _ (by decide +kernel)

theorem stopRequest_hashes (system : GatewaySystem) (nowMs : Nat) :
    HashesIn lengthHash stopHashed system (.receive stopRequest nowMs) := by
  intro canonical isCanonical
  cases isCanonical
  exact ⟨.inl rfl, .inr (.inl rfl), .inr (.inr rfl)⟩

/-- The dispatches for the row of a key since it was made are at most one. -/
def DispatchedOncePerRow (system : GatewaySystem) : Prop :=
  ∀ key row, system.store.rows.lookup key = some row →
    (system.events.takeWhile fun event =>
      !event.isFirst (system.owners key)).countP (·.isDispatchFor key) ≤ 1

/-- A request whose row expires before it is dispatched, and a second request
with the same key that makes a new row. -/
theorem stale_request_dispatched_again :
    ¬ ∀ (sha256 : List UInt8 → Digest) (hashed : Set (List UInt8)),
      Set.InjOn sha256 hashed → ∀ (maxRows : UInt64) (startMs : Nat)
        (system : GatewaySystem),
      Reaches (step sha256) (HashesIn sha256 hashed)
        (initial maxRows startMs) system → system.DispatchedOncePerRow := by
  intro once
  have first := (Reaches.start : Reaches (step lengthHash)
    (HashesIn lengthHash stopHashed) (initial 10 0) (initial 10 0)).next
      (stopRequest_hashes _ 0) rfl
  have firstAdmitted := first.next
    (show HashesIn _ _ _ (.move 0 .admission) from trivial) rfl
  have firstConnected := firstAdmitted.next
    (show HashesIn _ _ _ (.move 0 .connect) from trivial) rfl
  have second := firstConnected.next (stopRequest_hashes _ ambiguousTtlMs) rfl
  have firstDispatched := second.next
    (show HashesIn _ _ _ (.move 0 .dispatch) from trivial) rfl
  have secondAdmitted := firstDispatched.next
    (show HashesIn _ _ _ (.move 1 .admission) from trivial) rfl
  have secondConnected := secondAdmitted.next
    (show HashesIn _ _ _ (.move 1 .connect) from trivial) rfl
  have secondDispatched := secondConnected.next
    (show HashesIn _ _ _ (.move 1 .dispatch) from trivial) rfl
  have counted := once lengthHash stopHashed lengthHash_injOn 10 0 _
    secondDispatched (stopRequest.requestKey lengthHash) _ rfl
  exact absurd counted (by decide +kernel)

set_option maxRecDepth 4000 in
/-- The request is dispatched, its answer is stored, and the request that repeats
it is answered from the row. -/
theorem repeated_request_answered :
    ∃ system earlier, Reaches (step lengthHash)
        (HashesIn lengthHash stopHashed) (initial 10 0) system ∧
      system.events = .received stopRequest [123, 125] 0
        (some (idempotencyReplayed ⟨200, [123, 125]⟩)) :: earlier ∧
      earlier.countP (·.isDispatchOf 0) = 1 ∧
      system.AtMostOnce lengthHash := by
  have received := (Reaches.start : Reaches (step lengthHash)
    (HashesIn lengthHash stopHashed) (initial 10 0) (initial 10 0)).next
      (stopRequest_hashes _ 0) rfl
  have admitted := received.next
    (show HashesIn _ _ _ (.move 0 .admission) from trivial) rfl
  have connected := admitted.next
    (show HashesIn _ _ _ (.move 0 .connect) from trivial) rfl
  have dispatched := connected.next
    (show HashesIn _ _ _ (.move 0 .dispatch) from trivial) rfl
  have answered := dispatched.next
    (show HashesIn _ _ _ (.move 0 (.answer (some [123, 125]))) from trivial) rfl
  have stored := answered.next
    (show HashesIn _ _ _ (.move 0 (.store 1)) from trivial) rfl
  have repeated := stored.next (stopRequest_hashes _ 2) rfl
  exact ⟨_, _, repeated, rfl, by decide +kernel,
    (mutations_dispatched_at_most_once lengthHash_injOn 10 0 repeated).1⟩

end GatewaySystem

end PlatoAgent
