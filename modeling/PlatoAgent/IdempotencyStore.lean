import PlatoAgent.FiniteMap

/-!
# The idempotency store of the HTTP gateway

One row per principal and hashed key, in one of four states.  A row leaves
`in_flight` by the outcome of its request or by a restart of the gateway, and
leaves the table when it expires.
-/

namespace PlatoAgent

/-- A SHA-256 digest. -/
abbrev Digest : Type :=
  Vector UInt8 32

/-- The primary key: a principal and the hash of an idempotency key. -/
abbrev RequestKey : Type :=
  String × Digest

def completedTtlMs : Nat :=
  24 * 60 * 60 * 1000

def ambiguousTtlMs : Nat :=
  7 * completedTtlMs

/-- The largest body that is stored for replay. -/
def maxReplayBody : Nat :=
  1024 * 1024

inductive IdempotencyError where
  | full
  | invalidState (message : String)
  | responseTooLarge
  deriving DecidableEq, Repr

structure StoredResponse where
  status : UInt16
  body : List UInt8
  deriving DecidableEq, Repr

inductive Reservation where
  | fresh
  | inProgress
  | replay (response : StoredResponse)
  | conflict
  | ambiguous
  deriving DecidableEq, Repr

inductive RequestState where
  | inFlight
  | completed
  | knownError
  | ambiguous
  deriving DecidableEq, Repr

/-- The text of the column. -/
def RequestState.asStr : RequestState → String
  | .inFlight => "in_flight"
  | .completed => "completed"
  | .knownError => "known_error"
  | .ambiguous => "ambiguous"

/-- A row of `requests` without its key. -/
structure RequestRow where
  fingerprint : Digest
  state : RequestState
  createdAtMs : Nat
  updatedAtMs : Nat
  expiresAtMs : Nat
  status : Option Int
  body : Option (List UInt8)
  deriving DecidableEq, Repr

/-- `sqlite_i64`. -/
def IdempotencyStore.sqliteI64 (value : Nat) : Except IdempotencyError Nat :=
  if value < 2 ^ 63 then .ok value
  else .error (.invalidState "timestamp exceeds SQLite range")

/-- What a stored outcome is replayed as. -/
def RequestRow.replay (row : RequestRow) :
    Except IdempotencyError Reservation :=
  match row.status with
  | none => .error (.invalidState s!"{row.state.asStr} row has no HTTP status")
  | some status =>
      if status < 0 ∨ 2 ^ 16 ≤ status then
        .error (.invalidState
          s!"{row.state.asStr} row has invalid HTTP status")
      else
        match row.body with
        | none => .error (.invalidState s!"{row.state.asStr} row has no body")
        | some body => .ok (.replay ⟨.ofNat status.toNat, body⟩)

/-- What an existing row answers to a request with the fingerprint. -/
def RequestRow.answer (row : RequestRow) (fingerprint : Digest) :
    Except IdempotencyError Reservation :=
  if row.fingerprint ≠ fingerprint then .ok .conflict
  else
    match row.state with
    | .inFlight => .ok .inProgress
    | .ambiguous => .ok .ambiguous
    | .completed | .knownError => row.replay

/-- An existing row never lets a request go on. -/
theorem RequestRow.answer_ne_fresh (row : RequestRow) (fingerprint : Digest) :
    row.answer fingerprint ≠ .ok .fresh := by
  have replays : row.replay ≠ .ok .fresh := by
    unfold RequestRow.replay
    split
    · simp
    split
    · simp
    split <;> simp
  unfold RequestRow.answer
  split
  · simp
  split
  · simp
  · simp
  · exact replays
  · exact replays

/-- The outcome of the request is not known. -/
def RequestRow.doubt (row : RequestRow) (now expires : Nat) : RequestRow :=
  { row with
    state := .ambiguous
    updatedAtMs := now
    expiresAtMs := expires
    status := none
    body := none }

structure IdempotencyStore where
  rows : FiniteMap RequestKey RequestRow
  maxRows : UInt64

namespace IdempotencyStore

/-- `open_with_max_rows` on the rows that the file holds. -/
def openWithMaxRows (rows : FiniteMap RequestKey RequestRow) (nowMs : Nat)
    (maxRows : UInt64) : Except IdempotencyError IdempotencyStore := do
  let now ← sqliteI64 nowMs
  let expires ← sqliteI64 (nowMs + ambiguousTtlMs)
  pure
    { rows := FiniteMap.mapValues
        (fun row =>
          if row.state = .inFlight then row.doubt now expires else row) rows
      maxRows := maxRows }

/-- The deletion of expired rows. -/
def expire (store : IdempotencyStore) (now : Nat) : IdempotencyStore :=
  { store with rows := store.rows.retain (decide <| now < ·.expiresAtMs) }

/-- The row of a fresh reservation. -/
def freshRow (fingerprint : Digest) (now expires : Nat) : RequestRow where
  fingerprint := fingerprint
  state := .inFlight
  createdAtMs := now
  updatedAtMs := now
  expiresAtMs := expires
  status := none
  body := none

/-- A failure before the commit leaves the table as it was; the answer of an
existing row is given after it. -/
def reserve (store : IdempotencyStore) (key : RequestKey)
    (fingerprint : Digest) (nowMs : Nat) :
    Except IdempotencyError Reservation × IdempotencyStore :=
  match sqliteI64 nowMs with
  | .error error => (.error error, store)
  | .ok now =>
      let expired := store.expire now
      match expired.rows.lookup key with
      | some row => (row.answer fingerprint, expired)
      | none =>
          if store.maxRows.toInt64.toInt ≤ FiniteMap.size expired.rows then
            (.error .full, store)
          else
            match sqliteI64 (nowMs + ambiguousTtlMs) with
            | .error error => (.error error, store)
            | .ok expires =>
                (.ok .fresh,
                  { expired with
                    rows := expired.rows.insert key
                      (freshRow fingerprint now expires) })

/-- An update of the row that is in flight for the request. -/
def settle (store : IdempotencyStore) (key : RequestKey)
    (fingerprint : Digest) (change : RequestRow → RequestRow)
    (message : String) : Except IdempotencyError IdempotencyStore :=
  match store.rows.lookup key with
  | none => .error (.invalidState message)
  | some row =>
      if row.fingerprint = fingerprint ∧ row.state = .inFlight then
        .ok { store with rows := store.rows.insert key (change row) }
      else .error (.invalidState message)

def complete (store : IdempotencyStore) (key : RequestKey)
    (fingerprint : Digest) (response : StoredResponse) (knownError : Bool)
    (nowMs : Nat) : Except IdempotencyError IdempotencyStore :=
  if maxReplayBody < response.body.length then .error .responseTooLarge
  else do
    let now ← sqliteI64 nowMs
    let expires ← sqliteI64 (nowMs + completedTtlMs)
    store.settle key fingerprint
      (fun row =>
        { row with
          state := if knownError then .knownError else .completed
          updatedAtMs := now
          expiresAtMs := expires
          status := some response.status.toNat
          body := some response.body })
      "completion did not own one in-flight row"

def markAmbiguous (store : IdempotencyStore) (key : RequestKey)
    (fingerprint : Digest) (nowMs : Nat) :
    Except IdempotencyError IdempotencyStore := do
  let now ← sqliteI64 nowMs
  let expires ← sqliteI64 (nowMs + ambiguousTtlMs)
  store.settle key fingerprint (·.doubt now expires)
    "ambiguity transition did not own one in-flight row"

theorem exists_of_bind_eq_ok {Failure First Second : Type}
    {first : Except Failure First} {second : First → Except Failure Second}
    {result : Second} (succeeds : first >>= second = .ok result) :
    ∃ middle, first = .ok middle ∧ second middle = .ok result := by
  cases first with
  | error failure => cases succeeds
  | ok middle => exact ⟨middle, rfl, succeeds⟩

theorem sqliteI64_eq_ok {value result : Nat}
    (stored : sqliteI64 value = .ok result) :
    result = value ∧ value < 2 ^ 63 := by
  unfold sqliteI64 at stored
  split at stored
  next small =>
    cases stored
    exact ⟨rfl, small⟩
  · cases stored

theorem lookup_expire {store : IdempotencyStore} {now : Nat}
    {key : RequestKey} {row : RequestRow} :
    (store.expire now).rows.lookup key = some row ↔
      store.rows.lookup key = some row ∧ now < row.expiresAtMs := by
  unfold expire
  rw [FiniteMap.lookup_retain_eq_some_iff, decide_eq_true_iff]

/-- The ways in which a reservation can go. -/
inductive ReserveStep (store : IdempotencyStore) (key : RequestKey)
    (fingerprint : Digest) (nowMs : Nat) :
    Except IdempotencyError Reservation → IdempotencyStore → Prop where
  | failed (error : IdempotencyError)
      (expired : ∀ row, store.rows.lookup key = some row →
        row.expiresAtMs < 2 ^ 63 → row.expiresAtMs ≤ nowMs) :
      ReserveStep store key fingerprint nowMs (.error error) store
  | found (row : RequestRow)
      (present : (store.expire nowMs).rows.lookup key = some row) :
      ReserveStep store key fingerprint nowMs (row.answer fingerprint)
        (store.expire nowMs)
  | fresh (absent : (store.expire nowMs).rows.lookup key = none)
      (room : FiniteMap.size (store.expire nowMs).rows < store.maxRows.toNat)
      (small : nowMs + ambiguousTtlMs < 2 ^ 63) :
      ReserveStep store key fingerprint nowMs (.ok .fresh)
        { store.expire nowMs with
          rows := (store.expire nowMs).rows.insert key
            (freshRow fingerprint nowMs (nowMs + ambiguousTtlMs)) }

theorem toInt_toInt64_le (value : UInt64) :
    value.toInt64.toInt ≤ value.toNat := by
  change value.toBitVec.toInt ≤ value.toBitVec.toNat
  rw [BitVec.toInt_eq_toNat_cond]
  split <;> omega

theorem reserve_reserveStep (store : IdempotencyStore) (key : RequestKey)
    (fingerprint : Digest) (nowMs : Nat) :
    ReserveStep store key fingerprint nowMs
      (store.reserve key fingerprint nowMs).1
      (store.reserve key fingerprint nowMs).2 := by
  have expired : (store.expire nowMs).rows.lookup key = none →
      ∀ row, store.rows.lookup key = some row → row.expiresAtMs ≤ nowMs := by
    intro absent row present
    by_contra unexpired
    have found := lookup_expire.mpr ⟨present, Nat.lt_of_not_le unexpired⟩
    rw [absent] at found
    cases found
  unfold reserve
  split
  next error outside =>
    refine .failed error fun row _ bounded => ?_
    unfold sqliteI64 at outside
    split at outside
    · cases outside
    next large => omega
  next now inside =>
    obtain ⟨rfl, _⟩ := sqliteI64_eq_ok inside
    dsimp only
    split
    next row present => exact .found row present
    next absent =>
      split
      · exact .failed .full fun row present _ => expired absent row present
      next room =>
        split
        next error _ =>
          exact .failed error fun row present _ => expired absent row present
        next expires isExpires =>
          obtain ⟨rfl, small⟩ := sqliteI64_eq_ok isExpires
          refine .fresh absent ?_ small
          have bound := toInt_toInt64_le store.maxRows
          omega

/-- A row in flight that is settled, all else as it was. -/
structure Settles (store : IdempotencyStore) (key : RequestKey)
    (fingerprint : Digest) (before after : RequestRow)
    (settled : IdempotencyStore) : Prop where
  present : store.rows.lookup key = some before
  matches_ : before.fingerprint = fingerprint
  inFlight : before.state = .inFlight
  kept : after.fingerprint = before.fingerprint
  isSettled : after.state ≠ .inFlight
  result : settled = { store with rows := store.rows.insert key after }

theorem settle_eq_ok {store settled : IdempotencyStore} {key : RequestKey}
    {fingerprint : Digest} {change : RequestRow → RequestRow}
    {message : String}
    (isSettled : store.settle key fingerprint change message = .ok settled) :
    ∃ row, store.rows.lookup key = some row ∧
      row.fingerprint = fingerprint ∧ row.state = .inFlight ∧
      settled = { store with rows := store.rows.insert key (change row) } := by
  unfold settle at isSettled
  split at isSettled
  · cases isSettled
  next row present =>
    split at isSettled
    next owned =>
      cases isSettled
      exact ⟨row, present, owned.1, owned.2, rfl⟩
    · cases isSettled

theorem complete_eq_ok {store settled : IdempotencyStore} {key : RequestKey}
    {fingerprint : Digest} {response : StoredResponse} {knownError : Bool}
    {nowMs : Nat}
    (completed : store.complete key fingerprint response knownError nowMs =
      .ok settled) :
    ∃ before after, store.Settles key fingerprint before after settled ∧
      after.state = (if knownError then .knownError else .completed) ∧
      after.status = some response.status.toNat ∧
      after.body = some response.body ∧ after.expiresAtMs < 2 ^ 63 := by
  unfold complete at completed
  split at completed
  · cases completed
  · obtain ⟨now, _, completed⟩ := exists_of_bind_eq_ok completed
    obtain ⟨expires, isExpires, completed⟩ := exists_of_bind_eq_ok completed
    obtain ⟨row, present, isMatch, inFlight, rfl⟩ := settle_eq_ok completed
    obtain ⟨rfl, small⟩ := sqliteI64_eq_ok isExpires
    refine ⟨row, _, ⟨present, isMatch, inFlight, ?_, ?_, rfl⟩, rfl, rfl, rfl,
      small⟩
    · rfl
    · cases knownError <;> simp

theorem markAmbiguous_eq_ok {store settled : IdempotencyStore}
    {key : RequestKey} {fingerprint : Digest} {nowMs : Nat}
    (marked : store.markAmbiguous key fingerprint nowMs = .ok settled) :
    ∃ before after, store.Settles key fingerprint before after settled ∧
      after.state = .ambiguous ∧ after.expiresAtMs < 2 ^ 63 := by
  unfold markAmbiguous at marked
  obtain ⟨now, _, marked⟩ := exists_of_bind_eq_ok marked
  obtain ⟨expires, isExpires, marked⟩ := exists_of_bind_eq_ok marked
  obtain ⟨row, present, isMatch, inFlight, rfl⟩ := settle_eq_ok marked
  obtain ⟨rfl, small⟩ := sqliteI64_eq_ok isExpires
  refine ⟨row, _, ⟨present, isMatch, inFlight, ?_, ?_, rfl⟩, rfl, small⟩
  · rfl
  · simp [RequestRow.doubt]

end IdempotencyStore

end PlatoAgent
