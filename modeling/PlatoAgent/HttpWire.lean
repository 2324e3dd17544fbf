import PlatoAgent.ProviderReads

/-!
# Requests on the wire

`read_request` over the reads that a connection delivers.  `httparse` is a
function of the header block; deadlines that elapse are failures of the
connection.
-/

namespace PlatoAgent

namespace Reads

/-- The bytes of a read into a buffer of some length. -/
def chunk (reads : Reads) (length : Nat) : List UInt8 :=
  (reads.buffers.headD []).take length

def afterChunk (reads : Reads) (length : Nat) : Reads where
  buffers :=
    if ((reads.buffers.headD []).drop length).isEmpty then reads.buffers.tail
    else (reads.buffers.headD []).drop length :: reads.buffers.tail
  nonempty := by
    have later : ∀ buffer ∈ reads.buffers.tail, buffer ≠ [] :=
      fun buffer member => reads.nonempty buffer (List.mem_of_mem_tail member)
    split
    · exact later
    next notEmpty =>
      rw [List.isEmpty_iff] at notEmpty
      intro buffer member
      rcases List.mem_cons.mp member with rfl | isLater
      · exact notEmpty
      · exact later buffer isLater

theorem chunk_append (reads : Reads) (length : Nat) :
    reads.chunk length ++ (reads.afterChunk length).bytes = reads.bytes := by
  obtain ⟨buffers, nonempty⟩ := reads
  cases buffers with
  | nil => simp [chunk, afterChunk, bytes]
  | cons buffer later =>
      change buffer.take length ++ (if (buffer.drop length).isEmpty then later
        else buffer.drop length :: later).flatten = buffer ++ later.flatten
      split
      next isEmpty =>
        rw [List.take_of_length_le
          (List.drop_eq_nil_iff.mp (List.isEmpty_iff.mp isEmpty))]
      next => rw [List.flatten_cons, ← List.append_assoc, List.take_append_drop]

/-- A read is empty at the end of the bytes only. -/
theorem chunk_isEmpty_iff {length : Nat} (positive : 0 < length)
    (reads : Reads) : (reads.chunk length).isEmpty = true ↔ reads.bytes = [] := by
  obtain ⟨buffers, nonempty⟩ := reads
  cases buffers with
  | nil => simp [chunk, bytes]
  | cons buffer later =>
      have some? := nonempty buffer List.mem_cons_self
      simp [chunk, bytes, some?, positive.ne']

theorem length_chunk_le (reads : Reads) (length : Nat) :
    (reads.chunk length).length ≤ length :=
  List.length_take_le _ _

end Reads

namespace HttpWire

def maxBodyBytes : Nat := 768 * 1024

def maxHeaderBytes : Nat := 32 * 1024

def maxTargetBytes : Nat := 4 * 1024

inductive WireError where
  | headersTooLarge
  | tooManyHeaders
  | bodyTooLarge
  | malformed
  | transferEncoding
  | io (message : String)
  deriving DecidableEq, Repr

/-- A subtraction that would underflow is a failure of its own. -/
inductive WireFailure where
  | error (error : WireError)
  | underflow
  deriving DecidableEq, Repr

structure HttpRequest where
  method : String
  target : String
  headers : List (String × List UInt8)
  body : List UInt8
  deriving DecidableEq, Repr

/-- `httparse::Request` after the parser filled it in. -/
structure ParsedRequest where
  method : Option String
  path : Option String
  version : Option UInt8
  headers : List (String × List UInt8)
  deriving DecidableEq, Repr

/-- The result of `httparse` with 64 headers at most. -/
inductive ParseResult where
  | complete (length : Nat) (request : ParsedRequest)
  | incomplete
  | tooManyHeaders
  | failed
  deriving DecidableEq, Repr

/-- The bytes that arrive, and how a read fails after the last of them. -/
structure Connection where
  reads : Reads
  failure : Option String

namespace Connection

def bytes (connection : Connection) : List UInt8 :=
  connection.reads.bytes

/-- `TcpStream::read`; no bytes at the end of the connection. -/
def read (connection : Connection) (length : Nat) :
    Except WireFailure (List UInt8 × Connection) :=
  if connection.reads.buffers.isEmpty then
    match connection.failure with
    | none => .ok ([], connection)
    | some message => .error (.error (.io message))
  else
    .ok (connection.reads.chunk length,
      { connection with reads := connection.reads.afterChunk length })

end Connection

/-- `find_header_end`. -/
def findHeaderEnd : List UInt8 → Option Nat
  | [] => none
  | byte :: rest =>
      if (byte :: rest).take 4 = [13, 10, 13, 10] then some 4
      else (findHeaderEnd rest).map (· + 1)

theorem findHeaderEnd_bounds {bytes : List UInt8} {headerEnd : Nat}
    (found : findHeaderEnd bytes = some headerEnd) :
    4 ≤ headerEnd ∧ headerEnd ≤ bytes.length := by
  induction bytes generalizing headerEnd with
  | nil => cases found
  | cons byte rest ih =>
      rw [findHeaderEnd] at found
      split at found
      next isEnd =>
        cases found
        have length := congrArg List.length isEnd
        simp only [List.length_take, List.length_cons, List.length_nil] at length
        simp only [List.length_cons]
        omega
      next =>
        obtain ⟨earlier, later, rfl⟩ := Option.map_eq_some_iff.mp found
        have bounds := ih later
        simp only [List.length_cons]
        omega

/-- More bytes do not move the end of the header block. -/
theorem findHeaderEnd_append {bytes : List UInt8} {headerEnd : Nat}
    (found : findHeaderEnd bytes = some headerEnd) (more : List UInt8) :
    findHeaderEnd (bytes ++ more) = some headerEnd := by
  induction bytes generalizing headerEnd with
  | nil => cases found
  | cons byte rest ih =>
      have bounds := findHeaderEnd_bounds found
      have sameFront : ((byte :: rest) ++ more).take 4 =
          (byte :: rest).take 4 :=
        List.take_append_of_le_length (by omega)
      rw [findHeaderEnd] at found
      rw [List.cons_append, findHeaderEnd, ← List.cons_append, sameFront]
      split at found
      next isEnd => rw [if_pos isEnd, found]
      next notEnd =>
        obtain ⟨earlier, later, rfl⟩ := Option.map_eq_some_iff.mp found
        rw [if_neg notEnd, ih later]
        rfl

/-- The end is found in the bytes up to it. -/
theorem findHeaderEnd_of_append {bytes more : List UInt8} {headerEnd : Nat}
    (found : findHeaderEnd (bytes ++ more) = some headerEnd)
    (inside : headerEnd ≤ bytes.length) :
    findHeaderEnd bytes = some headerEnd := by
  induction bytes generalizing headerEnd with
  | nil =>
      have bounds := findHeaderEnd_bounds found
      simp only [List.length_nil] at inside
      omega
  | cons byte rest ih =>
      have bounds := findHeaderEnd_bounds found
      have sameFront : ((byte :: rest) ++ more).take 4 =
          (byte :: rest).take 4 :=
        List.take_append_of_le_length (by omega)
      rw [List.cons_append, findHeaderEnd, ← List.cons_append,
        sameFront] at found
      rw [findHeaderEnd]
      split at found
      next isEnd => rw [if_pos isEnd, found]
      next notEnd =>
        obtain ⟨earlier, later, rfl⟩ := Option.map_eq_some_iff.mp found
        rw [List.length_cons, Nat.add_le_add_iff_right] at inside
        rw [if_neg notEnd, ih later inside]
        rfl

/-- A subtraction of unsigned numbers. -/
def subtract (total used : Nat) : Except WireFailure Nat :=
  if used ≤ total then .ok (total - used) else .error .underflow

namespace Connection

/-- The connection after a read is that much shorter. -/
theorem shorter {connection rest : Connection} {length : Nat}
    {chunk : List UInt8} (read : connection.read length = .ok (chunk, rest))
    (some? : ¬ chunk.isEmpty = true) :
    rest.bytes.length < connection.bytes.length := by
  rw [Connection.read] at read
  split at read
  · split at read
    · cases read
      exact absurd rfl some?
    · cases read
  · cases read
    have parts := congrArg List.length (connection.reads.chunk_append length)
    have positive : (connection.reads.chunk length).length ≠ 0 :=
      fun zero => some? (List.isEmpty_iff.mpr (List.length_eq_zero_iff.mp zero))
    rw [List.length_append] at parts
    simp only [bytes]
    omega

/-- The bytes of a read and the rest of the connection. -/
abbrev Received (connection : Connection) : Type :=
  {received : List UInt8 × Connection //
    received.2.bytes.length < connection.bytes.length}

/-- A read inside of a message, which is malformed if it ends there. -/
def receive (connection : Connection) (length : Nat) :
    Except WireFailure connection.Received :=
  match read : connection.read length with
  | .error failure => .error failure
  | .ok (chunk, rest) =>
      if some? : chunk.isEmpty then .error (.error .malformed)
      else .ok ⟨(chunk, rest), shorter read some?⟩

/-- How a message fails that is incomplete when all bytes were read. -/
def ended (connection : Connection) : WireFailure :=
  match connection.failure with
  | none => .error .malformed
  | some message => .error (.io message)

theorem receive_some {connection : Connection} {length : Nat}
    (positive : 0 < length) (some? : connection.bytes ≠ []) :
    ∃ received : connection.Received,
      connection.receive length = .ok received ∧
      received.1.1 ++ received.1.2.bytes = connection.bytes ∧
      received.1.1.length ≤ length ∧
      received.1.2.failure = connection.failure := by
  have notEmpty : ¬ connection.reads.buffers.isEmpty = true := by
    intro isEmpty
    apply some?
    rw [bytes, Reads.bytes, List.isEmpty_iff.mp isEmpty, List.flatten_nil]
  have isSome : ¬ (connection.reads.chunk length).isEmpty = true := by
    rw [Reads.chunk_isEmpty_iff positive]
    exact some?
  have read : connection.read length = .ok (connection.reads.chunk length,
      { connection with reads := connection.reads.afterChunk length }) := by
    rw [Connection.read, if_neg notEmpty]
  refine ⟨⟨(connection.reads.chunk length,
      { connection with reads := connection.reads.afterChunk length }),
    shorter read isSome⟩, ?_, connection.reads.chunk_append length,
    connection.reads.length_chunk_le length, rfl⟩
  rw [receive]
  split
  next failure isRead =>
    rw [read] at isRead
    cases isRead
  next isRead =>
    rw [read] at isRead
    cases isRead
    rw [dif_neg isSome]

theorem receive_ended {connection : Connection} (length : Nat)
    (none? : connection.bytes = []) :
    connection.receive length = .error connection.ended := by
  have isEmpty : connection.reads.buffers.isEmpty = true := by
    rw [List.isEmpty_iff]
    apply List.eq_nil_iff_forall_not_mem.mpr
    intro buffer member
    exact connection.reads.nonempty buffer member
      (List.flatten_eq_nil_iff.mp none? buffer member)
  obtain ⟨reads, failure⟩ := connection
  rw [receive]
  split
  next isRead =>
    rw [Connection.read, if_pos isEmpty] at isRead
    cases failure with
    | none => cases isRead
    | some message =>
        cases isRead
        rfl
  next isRead =>
    rw [Connection.read, if_pos isEmpty] at isRead
    cases failure with
    | none =>
        cases isRead
        rfl
    | some message => cases isRead

end Connection

/-- The loop up to the end of the header block: where it ends, all bytes read so
far, and the rest of the connection. -/
def readHeader (connection : Connection) (bytes : List UInt8) :
    Except WireFailure (Nat × List UInt8 × Connection) :=
  match findHeaderEnd bytes with
  | some headerEnd => .ok (headerEnd, bytes, connection)
  | none => do
      if maxHeaderBytes ≤ bytes.length then
        throw (.error .headersTooLarge)
      let remaining ← subtract (maxHeaderBytes + 1) bytes.length
      let ⟨(chunk, rest), _shorter⟩ ← connection.receive (min remaining 4096)
      readHeader rest (bytes ++ chunk)
termination_by connection.bytes.length
decreasing_by exact _shorter

/-- The loop up to the end of the body. -/
def readBody (contentLength : Nat) (connection : Connection)
    (body : List UInt8) : Except WireFailure (List UInt8) := do
  if body.length < contentLength then
    let remaining ← subtract contentLength body.length
    let ⟨(chunk, rest), _shorter⟩ ← connection.receive (min remaining 8192)
    readBody contentLength rest (body ++ chunk)
  else
    return body
termination_by connection.bytes.length
decreasing_by exact _shorter

/-- The header block is found where it ends in all bytes. -/
theorem readHeader_found {connection : Connection} {bytes : List UInt8}
    {headerEnd : Nat}
    (found : findHeaderEnd (bytes ++ connection.bytes) = some headerEnd)
    (inside : headerEnd ≤ maxHeaderBytes) :
    ∃ read rest, readHeader connection bytes = .ok (headerEnd, read, rest) ∧
      read ++ rest.bytes = bytes ++ connection.bytes ∧
      headerEnd ≤ read.length ∧ rest.failure = connection.failure := by
  induction size : connection.bytes.length using Nat.strong_induction_on
    generalizing connection bytes
  next size ih =>
    subst size
    cases isEnd : findHeaderEnd bytes with
    | some earlier =>
        have same := findHeaderEnd_append isEnd connection.bytes
        rw [found] at same
        obtain rfl := Option.some.inj same
        refine ⟨bytes, connection, ?_, rfl, (findHeaderEnd_bounds isEnd).2, rfl⟩
        rw [readHeader, isEnd]
    | none =>
        have later : bytes.length < headerEnd := by
          by_contra notLater
          have early := findHeaderEnd_of_append found (by omega)
          rw [isEnd] at early
          cases early
        have room : ¬ maxHeaderBytes ≤ bytes.length := by omega
        have noUnderflow : bytes.length ≤ maxHeaderBytes + 1 := by omega
        have some? : connection.bytes ≠ [] := by
          intro none?
          have bounds := (findHeaderEnd_bounds found).2
          rw [none?, List.append_nil] at bounds
          omega
        obtain ⟨⟨⟨chunk, rest⟩, shorter⟩, received, parts, _, failure⟩ :=
          @Connection.receive_some connection
            (min (maxHeaderBytes + 1 - bytes.length) 4096) (by omega) some?
        have whole : bytes ++ chunk ++ rest.bytes = bytes ++ connection.bytes := by
          rw [List.append_assoc]
          exact congrArg _ parts
        obtain ⟨read, last, isRead, same, length, stillFails⟩ :=
          ih _ shorter (by rwa [whole]) rfl
        refine ⟨read, last, ?_, same.trans whole, length,
          stillFails.trans failure⟩
        rw [readHeader, isEnd]
        dsimp only
        rw [if_neg room, subtract, if_pos noUnderflow]
        change (connection.receive _).bind _ = _
        rw [received]
        exact isRead

/-- All that arrives holds no end of a header block within the limit. -/
def NoHeaderEnd (bytes : List UInt8) : Prop :=
  ∀ headerEnd, findHeaderEnd bytes = some headerEnd → maxHeaderBytes < headerEnd

/-- With the limit's bytes and no end among them the block is too large; the end
can still be found one byte behind the limit. -/
theorem readHeader_large {connection : Connection} {bytes : List UInt8}
    (noEnd : NoHeaderEnd (bytes ++ connection.bytes))
    (large : maxHeaderBytes ≤ (bytes ++ connection.bytes).length) :
    readHeader connection bytes = .error (.error .headersTooLarge) ∨
      ∃ headerEnd read rest, maxHeaderBytes < headerEnd ∧
        readHeader connection bytes = .ok (headerEnd, read, rest) := by
  induction size : connection.bytes.length using Nat.strong_induction_on
    generalizing connection bytes
  next size ih =>
    subst size
    cases isEnd : findHeaderEnd bytes with
    | some headerEnd =>
        refine .inr ⟨headerEnd, bytes, connection,
          noEnd _ (findHeaderEnd_append isEnd _), ?_⟩
        rw [readHeader, isEnd]
    | none =>
        rw [readHeader, isEnd]
        dsimp only
        by_cases full : maxHeaderBytes ≤ bytes.length
        · rw [if_pos full]
          exact .inl rfl
        · have noUnderflow : bytes.length ≤ maxHeaderBytes + 1 := by omega
          have some? : connection.bytes ≠ [] := by
            intro none?
            rw [none?, List.append_nil] at large
            exact full large
          obtain ⟨⟨⟨chunk, rest⟩, shorter⟩, received, parts, _, _⟩ :=
            @Connection.receive_some connection
              (min (maxHeaderBytes + 1 - bytes.length) 4096) (by omega) some?
          have whole : bytes ++ chunk ++ rest.bytes =
              bytes ++ connection.bytes := by
            rw [List.append_assoc]
            exact congrArg _ parts
          have goesOn := ih _ shorter (by rwa [whole]) (by rwa [whole]) rfl
          rw [if_neg full, subtract, if_pos noUnderflow]
          change (connection.receive _).bind _ = _ ∨
            ∃ headerEnd read rest, _ ∧ (connection.receive _).bind _ = _
          rw [received]
          exact goesOn

/-- A connection that ends first is malformed or fails. -/
theorem readHeader_ended {connection : Connection} {bytes : List UInt8}
    (noEnd : findHeaderEnd (bytes ++ connection.bytes) = none)
    (small : (bytes ++ connection.bytes).length < maxHeaderBytes) :
    readHeader connection bytes = .error connection.ended := by
  induction size : connection.bytes.length using Nat.strong_induction_on
    generalizing connection bytes
  next size ih =>
    subst size
    have noEarlier : findHeaderEnd bytes = none := by
      cases isEnd : findHeaderEnd bytes with
      | none => rfl
      | some headerEnd =>
          rw [findHeaderEnd_append isEnd] at noEnd
          cases noEnd
    have length := small
    rw [List.length_append] at length
    have room : ¬ maxHeaderBytes ≤ bytes.length := by omega
    have noUnderflow : bytes.length ≤ maxHeaderBytes + 1 := by omega
    rw [readHeader, noEarlier]
    dsimp only
    rw [if_neg room, subtract, if_pos noUnderflow]
    change (connection.receive _).bind _ = _
    by_cases none? : connection.bytes = []
    · rw [Connection.receive_ended _ none?]
      rfl
    · obtain ⟨⟨⟨chunk, rest⟩, shorter⟩, received, parts, _, failure⟩ :=
        @Connection.receive_some connection
          (min (maxHeaderBytes + 1 - bytes.length) 4096) (by omega) none?
      have whole : bytes ++ chunk ++ rest.bytes =
          bytes ++ connection.bytes := by
        rw [List.append_assoc]
        exact congrArg _ parts
      have goesOn := ih _ shorter (by rwa [whole]) (by rwa [whole]) rfl
      dsimp only at failure
      rw [received]
      refine Eq.trans goesOn ?_
      rw [Connection.ended, Connection.ended, failure]

/-- The body is the bytes after the header block up to its length. -/
theorem readBody_eq {contentLength : Nat} {connection : Connection}
    {body : List UInt8} (within : body.length ≤ contentLength) :
    readBody contentLength connection body =
      if (body ++ connection.bytes).length < contentLength then
        .error connection.ended
      else .ok ((body ++ connection.bytes).take contentLength) := by
  induction size : connection.bytes.length using Nat.strong_induction_on
    generalizing connection body
  next size ih =>
    subst size
    rw [readBody]
    by_cases short : body.length < contentLength
    · rw [if_pos short, subtract, if_pos within]
      change (connection.receive _).bind _ = _
      by_cases none? : connection.bytes = []
      · have whole : body ++ connection.bytes = body := by
          rw [none?, List.append_nil]
        rw [Connection.receive_ended _ none?, whole, if_pos short]
        rfl
      · obtain ⟨⟨⟨chunk, rest⟩, shorter⟩, received, parts, length, failure⟩ :=
          @Connection.receive_some connection
            (min (contentLength - body.length) 8192) (by omega) none?
        have whole : body ++ chunk ++ rest.bytes =
            body ++ connection.bytes := by
          rw [List.append_assoc]
          exact congrArg _ parts
        have goesOn := @ih _ shorter rest (body ++ chunk) (by
          rw [List.length_append]
          dsimp only at length
          omega) rfl
        dsimp only at failure
        rw [received]
        refine Eq.trans goesOn ?_
        rw [whole, Connection.ended, Connection.ended, failure]
    · have full : body.length = contentLength := by omega
      rw [if_neg short, if_neg (by rw [List.length_append]; omega), ← full,
        List.take_left]
      rfl

/-- `eq_ignore_ascii_case` with a name in lower case. -/
def named (name : String) (header : String × List UInt8) : Bool :=
  header.1.toList.map Char.toLower == name.toList

/-- `parse::<usize>` of a string of digits. -/
def parseUsize (digits : List UInt8) : Option Nat :=
  let value := digits.foldl (fun value digit => 10 * value + (digit - 48).toNat) 0
  if value < 2 ^ 64 then some value else none

def isAsciiDigit (byte : UInt8) : Bool :=
  48 ≤ byte && byte ≤ 57

/-- The request without its body, and the length of that. -/
structure RequestHead where
  method : String
  target : String
  headers : List (String × List UInt8)
  contentLength : Nat
  deriving DecidableEq, Repr

def orMalformed {Result : Type} : Option Result → Except WireError Result
  | none => .error .malformed
  | some result => .ok result

def contentLengthOf (headers : List (String × List UInt8)) :
    Except WireError Nat := do
  let contentLengths := headers.filter (named "content-length")
  if 1 < contentLengths.length then throw .malformed
  match contentLengths.head? with
  | some (_, value) =>
      if !value.isEmpty && value.all isAsciiDigit then
        orMalformed (parseUsize value)
      else throw .malformed
  | none => return 0

/-- What is checked of a request that was parsed. -/
def headOf (parsed : ParsedRequest) : Except WireError RequestHead := do
  let method ← orMalformed parsed.method
  let target ← orMalformed parsed.path
  if maxTargetBytes < target.utf8ByteSize || !target.startsWith "/" ||
      target.contains '#' then
    throw .malformed
  if parsed.headers.any (named "transfer-encoding") then
    throw .transferEncoding
  if (parsed.headers.filter (named "host")).length ≠ 1 then throw .malformed
  let contentLength ← contentLengthOf parsed.headers
  if maxBodyBytes < contentLength then throw .bodyTooLarge
  return ⟨method, target, parsed.headers, contentLength⟩

section Requests

variable (parse : List UInt8 → ParseResult)

/-- The head of a request from its header block. -/
def parseHead (block : List UInt8) : Except WireError RequestHead :=
  match parse block with
  | .incomplete => .error .malformed
  | .tooManyHeaders => .error .tooManyHeaders
  | .failed => .error .malformed
  | .complete length parsed =>
      if length ≠ block.length ∨ parsed.version ≠ some 1 then .error .malformed
      else headOf parsed

/-- `read_request`. -/
def readRequest (connection : Connection) : Except WireFailure HttpRequest := do
  let (headerEnd, bytes, connection) ← readHeader connection []
  if maxHeaderBytes < headerEnd then throw (.error .headersTooLarge)
  let head ← (parseHead parse (bytes.take headerEnd)).mapError .error
  let body ← readBody head.contentLength connection
    ((bytes.drop headerEnd).take head.contentLength)
  return ⟨head.method, head.target, head.headers, body⟩

/-- The request that the bytes of a connection hold. -/
def requestOf (bytes : List UInt8) (ended : WireFailure) :
    Except WireFailure HttpRequest :=
  match (findHeaderEnd bytes).filter (· ≤ maxHeaderBytes) with
  | none =>
      if maxHeaderBytes ≤ bytes.length then .error (.error .headersTooLarge)
      else .error ended
  | some headerEnd => do
      let head ← (parseHead parse (bytes.take headerEnd)).mapError .error
      let body := (bytes.drop headerEnd).take head.contentLength
      if body.length < head.contentLength then throw ended
      return ⟨head.method, head.target, head.headers, body⟩

theorem take_append_of_take {Item : Type} (first second : List Item)
    (length : Nat) :
    (first.take length ++ second).take length =
      (first ++ second).take length := by
  rw [List.take_append, List.take_append, List.take_take, min_self,
    List.length_take]
  congr 2
  omega

/-- What is read depends on the bytes, not on the reads that they arrive in. -/
theorem readRequest_eq (connection : Connection) :
    readRequest parse connection =
      requestOf parse connection.bytes connection.ended := by
  rw [readRequest, requestOf]
  cases isEnd : (findHeaderEnd connection.bytes).filter
      (· ≤ maxHeaderBytes) with
  | none =>
      have noEnd : NoHeaderEnd ([] ++ connection.bytes) := by
        intro headerEnd found
        rw [List.nil_append] at found
        rw [found, Option.filter_some] at isEnd
        by_contra inside
        rw [if_pos (by simpa using inside)] at isEnd
        cases isEnd
      dsimp only
      by_cases large : maxHeaderBytes ≤ connection.bytes.length
      · rw [if_pos large]
        rcases readHeader_large noEnd (by simpa using large) with tooLarge |
          ⟨headerEnd, read, rest, beyond, isRead⟩
        · rw [tooLarge]
          rfl
        · rw [isRead]
          change (if maxHeaderBytes < headerEnd then _ else _) = _
          rw [if_pos beyond]
          rfl
      · have absent : findHeaderEnd ([] ++ connection.bytes) = none := by
          by_contra some?
          obtain ⟨headerEnd, found⟩ := Option.ne_none_iff_exists'.mp some?
          have bounds := findHeaderEnd_bounds found
          have beyond := noEnd headerEnd found
          rw [List.nil_append] at bounds
          omega
        rw [if_neg large, readHeader_ended absent (by
          rw [List.nil_append]
          omega)]
        rfl
  | some headerEnd =>
      obtain ⟨found, inside⟩ := Option.filter_eq_some_iff.mp isEnd
      rw [decide_eq_true_eq] at inside
      obtain ⟨read, rest, isRead, parts, length, failure⟩ :=
        @readHeader_found connection [] headerEnd found inside
      rw [List.nil_append] at parts
      have block : read.take headerEnd = connection.bytes.take headerEnd := by
        rw [← parts, List.take_append_of_le_length length]
      have behind : read.drop headerEnd ++ rest.bytes =
          connection.bytes.drop headerEnd := by
        rw [← parts, List.drop_append_of_le_length length]
      rw [isRead]
      change (if maxHeaderBytes < headerEnd then _ else _) = _
      rw [if_neg (by omega)]
      dsimp only
      rw [block]
      cases parseHead parse (connection.bytes.take headerEnd) with
      | error error => rfl
      | ok head =>
          have short : ((read.drop headerEnd).take head.contentLength ++
                rest.bytes).length < head.contentLength ↔
              ((connection.bytes.drop headerEnd).take
                head.contentLength).length < head.contentLength := by
            rw [← behind, List.length_append, List.length_take,
              List.length_take, List.length_append]
            omega
          have ended : rest.ended = connection.ended := by
            rw [Connection.ended, failure, Connection.ended]
          change (readBody _ _ _).bind _ = if _ then _ else _
          rw [readBody_eq (List.length_take_le _ _), take_append_of_take,
            behind, ended]
          by_cases isShort : ((connection.bytes.drop headerEnd).take
              head.contentLength).length < head.contentLength
          · rw [if_pos isShort, if_pos (short.mpr isShort)]
            rfl
          · rw [if_neg isShort, if_neg (mt short.mp isShort)]
            rfl

end Requests

/-- The header names the length of the body. -/
structure BodyLength (header : String × List UInt8) (length : Nat) : Prop where
  nonempty : header.2 ≠ []
  digits : header.2.all isAsciiDigit = true
  value : parseUsize header.2 = some length

/-- The head of a request, up to the limit for its body. -/
structure HeadAdmitted (parsed : ParsedRequest) (head : RequestHead) :
    Prop where
  method : parsed.method = some head.method
  target : parsed.path = some head.target
  targetShort : head.target.utf8ByteSize ≤ maxTargetBytes
  targetAbsolute : head.target.startsWith "/" = true
  noFragment : head.target.contains '#' = false
  noTransferEncoding : parsed.headers.any (named "transfer-encoding") = false
  oneHost : (parsed.headers.filter (named "host")).length = 1
  contentLength :
    (parsed.headers.filter (named "content-length") = [] ∧
      head.contentLength = 0) ∨
    ∃ header, parsed.headers.filter (named "content-length") = [header] ∧
      BodyLength header head.contentLength
  headers : head.headers = parsed.headers

theorem orMalformed_ok_iff {Result : Type} {found : Option Result}
    {result : Result} : orMalformed found = .ok result ↔ found = some result := by
  cases found <;> simp [orMalformed]

theorem contentLengthOf_ok_iff {headers : List (String × List UInt8)}
    {length : Nat} : contentLengthOf headers = .ok length ↔
      (headers.filter (named "content-length") = [] ∧ length = 0) ∨
      ∃ header, headers.filter (named "content-length") = [header] ∧
        BodyLength header length := by
  rw [contentLengthOf]
  generalize headers.filter (named "content-length") = found
  cases found with
  | nil =>
      change Except.ok 0 = Except.ok length ↔ _
      simp [eq_comm]
  | cons header others =>
      cases others with
      | nil =>
          obtain ⟨name, value⟩ := header
          dsimp only
          rw [if_neg (by simp)]
          change (if (!value.isEmpty && value.all isAsciiDigit) = true then
            orMalformed (parseUsize value) else _) = _ ↔ _
          by_cases digits : (!value.isEmpty && value.all isAsciiDigit) = true
          · have nonempty : value ≠ [] := by
              rintro rfl
              cases digits
            have all := (Bool.and_eq_true_iff.mp digits).2
            rw [if_pos digits, orMalformed_ok_iff]
            constructor
            · intro isValue
              exact .inr ⟨_, rfl, nonempty, all, isValue⟩
            · rintro (⟨none?, _⟩ | ⟨_, same, _, _, isValue⟩)
              · cases none?
              · cases same
                exact isValue
          · rw [if_neg digits]
            constructor
            · intro isOk
              cases isOk
            · rintro (⟨none?, _⟩ | ⟨_, same, nonempty, all, _⟩)
              · cases none?
              · cases same
                refine absurd (Bool.and_eq_true_iff.mpr ⟨?_, all⟩) digits
                simpa using nonempty
      | cons second rest =>
          dsimp only
          rw [if_pos (by simp)]
          constructor
          · intro isOk
            cases isOk
          · rintro (⟨none?, _⟩ | ⟨_, same, _⟩)
            · cases none?
            · cases same

/-- The head of a request is admitted up to the limit for its body. -/
theorem headOf_of_admitted {parsed : ParsedRequest} {head : RequestHead}
    (admitted : HeadAdmitted parsed head) :
    headOf parsed = if maxBodyBytes < head.contentLength then
      .error .bodyTooLarge else .ok head := by
  have length := contentLengthOf_ok_iff.mpr admitted.contentLength
  have target : ¬ (maxTargetBytes < head.target.utf8ByteSize ||
      !head.target.startsWith "/" || head.target.contains '#') = true := by
    simp [admitted.targetShort, admitted.targetAbsolute, admitted.noFragment]
  rw [headOf, admitted.method, admitted.target]
  change (if _ then _ else _) = _
  rw [if_neg target]
  change (if _ then _ else _) = _
  rw [if_neg (by rw [admitted.noTransferEncoding]; decide)]
  change (if _ then _ else _) = _
  rw [if_neg (not_not.mpr admitted.oneHost), length]
  change (if _ then _ else _) = _
  split
  · rfl
  · rw [← admitted.headers]
    rfl

theorem admitted_of_headOf {parsed : ParsedRequest} {head : RequestHead}
    (isHead : headOf parsed = .ok head) :
    HeadAdmitted parsed head ∧ head.contentLength ≤ maxBodyBytes := by
  rw [headOf] at isHead
  obtain ⟨method, isMethod, isHead⟩ := except_bind_ok_iff.mp isHead
  obtain ⟨target, isTarget, isHead⟩ := except_bind_ok_iff.mp isHead
  dsimp only at isHead
  split at isHead
  · cases isHead
  next targetOk =>
  split at isHead
  · cases isHead
  next noTransferEncoding =>
  split at isHead
  · cases isHead
  next oneHost =>
  obtain ⟨length, isLength, isHead⟩ := except_bind_ok_iff.mp isHead
  split at isHead
  · cases isHead
  next within =>
  cases isHead
  simp only [Bool.or_eq_true, decide_eq_true_eq, Bool.not_eq_true',
    not_or, Bool.not_eq_false, Bool.not_eq_true, not_lt] at targetOk
  exact ⟨⟨orMalformed_ok_iff.mp isMethod, orMalformed_ok_iff.mp isTarget,
    targetOk.1.1, targetOk.1.2, targetOk.2,
    Bool.eq_false_iff.mpr noTransferEncoding, not_not.mp oneHost,
    contentLengthOf_ok_iff.mp isLength, rfl⟩, not_lt.mp within⟩

/-- The header block that ends here was parsed as a whole. -/
structure BlockParsed (parse : List UInt8 → ParseResult) (bytes : List UInt8)
    (headerEnd : Nat) (parsed : ParsedRequest) : Prop where
  found : findHeaderEnd bytes = some headerEnd
  inside : headerEnd ≤ maxHeaderBytes
  complete : parse (bytes.take headerEnd) = .complete headerEnd parsed
  version : parsed.version = some 1

theorem length_take_of_found {bytes : List UInt8} {headerEnd : Nat}
    (found : findHeaderEnd bytes = some headerEnd) :
    (bytes.take headerEnd).length = headerEnd := by
  rw [List.length_take, min_eq_left (findHeaderEnd_bounds found).2]

section Requests

variable {parse : List UInt8 → ParseResult} {connection : Connection}

theorem readRequest_of_inside {headerEnd : Nat}
    (found : findHeaderEnd connection.bytes = some headerEnd)
    (inside : headerEnd ≤ maxHeaderBytes) :
    readRequest parse connection = (do
      let head ← (parseHead parse (connection.bytes.take headerEnd)).mapError
        .error
      let body := (connection.bytes.drop headerEnd).take head.contentLength
      if body.length < head.contentLength then throw connection.ended
      return ⟨head.method, head.target, head.headers, body⟩) := by
  rw [readRequest_eq, requestOf, found, Option.filter_some,
    if_pos (by simpa using inside)]

/-- With its block parsed the request depends on what the block holds. -/
theorem BlockParsed.parseHead_eq {bytes : List UInt8} {headerEnd : Nat}
    {parsed : ParsedRequest}
    (block : BlockParsed parse bytes headerEnd parsed) :
    parseHead parse (bytes.take headerEnd) = headOf parsed := by
  have whole : ¬ (headerEnd ≠ (bytes.take headerEnd).length ∨
      parsed.version ≠ some 1) := by
    rw [length_take_of_found block.found]
    simp [block.version]
  rw [parseHead, block.complete]
  dsimp only
  rw [if_neg whole]

/-- A head that was accepted comes from a block that was parsed. -/
theorem blockParsed_of_parseHead {bytes : List UInt8} {headerEnd : Nat}
    {head : RequestHead} (found : findHeaderEnd bytes = some headerEnd)
    (inside : headerEnd ≤ maxHeaderBytes)
    (isHead : parseHead parse (bytes.take headerEnd) = .ok head) :
    ∃ parsed, BlockParsed parse bytes headerEnd parsed ∧
      headOf parsed = .ok head := by
  rw [parseHead] at isHead
  split at isHead
  · cases isHead
  · cases isHead
  · cases isHead
  next length parsed complete =>
    split at isHead
    · cases isHead
    next whole =>
      rw [length_take_of_found found, not_or, not_not, not_not] at whole
      rw [whole.1] at complete
      exact ⟨parsed, ⟨found, inside, complete, whole.2⟩, isHead⟩

theorem readRequest_admitted {headerEnd : Nat} {parsed : ParsedRequest}
    {head : RequestHead}
    (block : BlockParsed parse connection.bytes headerEnd parsed)
    (admitted : HeadAdmitted parsed head)
    (within : head.contentLength ≤ maxBodyBytes) :
    readRequest parse connection =
      if connection.bytes.length < headerEnd + head.contentLength then
        .error connection.ended
      else .ok ⟨head.method, head.target, head.headers,
        (connection.bytes.drop headerEnd).take head.contentLength⟩ := by
  have bounds := findHeaderEnd_bounds block.found
  have short : ((connection.bytes.drop headerEnd).take
        head.contentLength).length < head.contentLength ↔
      connection.bytes.length < headerEnd + head.contentLength := by
    rw [List.length_take, List.length_drop]
    omega
  rw [readRequest_of_inside block.found block.inside, block.parseHead_eq,
    headOf_of_admitted admitted, if_neg (by omega)]
  change (if _ then _ else _) = _
  by_cases isShort : connection.bytes.length < headerEnd + head.contentLength
  · rw [if_pos isShort, if_pos (short.mpr isShort)]
    rfl
  · rw [if_neg isShort, if_neg (mt short.mp isShort)]
    rfl

/-- A request that was read comes from a block that was parsed and admitted. -/
theorem admitted_of_readRequest {request : HttpRequest}
    (isRead : readRequest parse connection = .ok request) :
    ∃ headerEnd parsed head,
      BlockParsed parse connection.bytes headerEnd parsed ∧
      HeadAdmitted parsed head ∧ head.contentLength ≤ maxBodyBytes := by
  rw [readRequest_eq, requestOf] at isRead
  split at isRead
  · split at isRead <;> cases isRead
  next headerEnd isEnd =>
    obtain ⟨found, inside⟩ := Option.filter_eq_some_iff.mp isEnd
    obtain ⟨head, isHead, _⟩ := except_bind_ok_iff.mp isRead
    cases parsedHead : parseHead parse (connection.bytes.take headerEnd) with
    | error error =>
        rw [parsedHead] at isHead
        cases isHead
    | ok head =>
        obtain ⟨parsed, block, ofParsed⟩ := blockParsed_of_parseHead found
          (of_decide_eq_true inside) parsedHead
        obtain ⟨admitted, within⟩ := admitted_of_headOf ofParsed
        exact ⟨headerEnd, parsed, head, block, admitted, within⟩

theorem BlockParsed.unique {bytes : List UInt8} {first second : Nat}
    {firstParsed secondParsed : ParsedRequest}
    (isFirst : BlockParsed parse bytes first firstParsed)
    (isSecond : BlockParsed parse bytes second secondParsed) :
    firstParsed = secondParsed := by
  have sameEnd := isFirst.found.symm.trans isSecond.found
  obtain rfl := Option.some.inj sameEnd
  have same := isFirst.complete.symm.trans isSecond.complete
  exact (ParseResult.complete.inj same).2

/-- A failure of the head is an error and no underflow. -/
theorem readRequest_error {failure : WireFailure}
    (fails : readRequest parse connection = .error failure) :
    ∃ error, failure = .error error := by
  have ended : ∃ error, connection.ended = .error error := by
    rw [Connection.ended]
    cases connection.failure with
    | none => exact ⟨_, rfl⟩
    | some message => exact ⟨_, rfl⟩
  rw [readRequest_eq, requestOf] at fails
  split at fails
  · split at fails
    · cases fails
      exact ⟨_, rfl⟩
    · cases fails
      exact ended
  next headerEnd _ =>
    cases isHead : parseHead parse (connection.bytes.take headerEnd) with
    | error error =>
        rw [isHead] at fails
        cases fails
        exact ⟨error, rfl⟩
    | ok head =>
        rw [isHead] at fails
        change (if _ then _ else _) = _ at fails
        split at fails
        · cases fails
          exact ended
        · cases fails

/-- What `read_request` answers, for all that a client can send. -/
structure AnswersFromBytes (parse : List UInt8 → ParseResult) : Prop where
  anyReads : ∀ first second : Connection, first.bytes = second.bytes →
    first.failure = second.failure →
    readRequest parse first = readRequest parse second
  accepted : ∀ (connection : Connection) (request : HttpRequest),
    readRequest parse connection = .ok request ↔
      ∃ headerEnd parsed head,
        BlockParsed parse connection.bytes headerEnd parsed ∧
        HeadAdmitted parsed head ∧ head.contentLength ≤ maxBodyBytes ∧
        headerEnd + head.contentLength ≤ connection.bytes.length ∧
        request = ⟨head.method, head.target, head.headers,
          (connection.bytes.drop headerEnd).take head.contentLength⟩
  headersTooLarge : ∀ connection : Connection,
    NoHeaderEnd connection.bytes → maxHeaderBytes ≤ connection.bytes.length →
    readRequest parse connection = .error (.error .headersTooLarge)
  bodyTooLarge : ∀ (connection : Connection) headerEnd parsed head,
    BlockParsed parse connection.bytes headerEnd parsed →
    HeadAdmitted parsed head → maxBodyBytes < head.contentLength →
    readRequest parse connection = .error (.error .bodyTooLarge)
  refused : ∀ (connection : Connection) headerEnd parsed,
    BlockParsed parse connection.bytes headerEnd parsed →
    (parsed.headers.any (named "transfer-encoding") = true ∨
      (parsed.headers.filter (named "host")).length ≠ 1 ∨
      1 < (parsed.headers.filter (named "content-length")).length ∨
      ∃ header ∈ parsed.headers, named "content-length" header = true ∧
        ∀ length, ¬ BodyLength header length) →
    ∃ error, readRequest parse connection = .error (.error error)
  endedInHeader : ∀ connection : Connection,
    findHeaderEnd connection.bytes = none →
    connection.bytes.length < maxHeaderBytes →
    readRequest parse connection = .error connection.ended
  endedInBody : ∀ (connection : Connection) headerEnd parsed head,
    BlockParsed parse connection.bytes headerEnd parsed →
    HeadAdmitted parsed head → head.contentLength ≤ maxBodyBytes →
    connection.bytes.length < headerEnd + head.contentLength →
    readRequest parse connection = .error connection.ended
  noUnderflow : ∀ connection : Connection,
    readRequest parse connection ≠ .error .underflow

theorem answersFromBytes (parse : List UInt8 → ParseResult) :
    AnswersFromBytes parse where
  anyReads := by
    intro first second sameBytes sameFailure
    rw [readRequest_eq, readRequest_eq, sameBytes, Connection.ended,
      sameFailure, ← Connection.ended]
  accepted := by
    intro connection request
    constructor
    · intro isRead
      obtain ⟨headerEnd, parsed, head, block, admitted, within⟩ :=
        admitted_of_readRequest isRead
      rw [readRequest_admitted block admitted within] at isRead
      split at isRead
      · cases isRead
      next whole =>
        exact ⟨headerEnd, parsed, head, block, admitted, within, not_lt.mp whole,
          (Except.ok.inj isRead).symm⟩
    · rintro ⟨headerEnd, parsed, head, block, admitted, within, whole, rfl⟩
      rw [readRequest_admitted block admitted within, if_neg (by omega)]
  headersTooLarge := by
    intro connection noEnd large
    have outside : (findHeaderEnd connection.bytes).filter
        (· ≤ maxHeaderBytes) = none := by
      rw [Option.filter_eq_none_iff]
      intro headerEnd found
      have beyond := noEnd headerEnd found
      simpa using beyond
    rw [readRequest_eq, requestOf, outside]
    exact if_pos large
  bodyTooLarge := by
    intro connection headerEnd parsed head block admitted large
    rw [readRequest_of_inside block.found block.inside, block.parseHead_eq,
      headOf_of_admitted admitted, if_pos large]
    rfl
  refused := by
    intro connection headerEnd parsed block reason
    cases isRead : readRequest parse connection with
    | error failure =>
        obtain ⟨error, rfl⟩ := readRequest_error isRead
        exact ⟨error, rfl⟩
    | ok request =>
        obtain ⟨_, other, head, otherBlock, admitted, _⟩ :=
          admitted_of_readRequest isRead
        obtain rfl := block.unique otherBlock
        exfalso
        rcases reason with encoding | hosts | lengths | ⟨header, member, named?,
          malformed⟩
        · rw [admitted.noTransferEncoding] at encoding
          cases encoding
        · exact hosts admitted.oneHost
        · rcases admitted.contentLength with ⟨absent, _⟩ | ⟨only, isOnly, _⟩
          · rw [absent] at lengths
            simp at lengths
          · rw [isOnly] at lengths
            simp at lengths
        · have inFilter := List.mem_filter.mpr ⟨member, named?⟩
          rcases admitted.contentLength with ⟨absent, _⟩ | ⟨only, isOnly, isLength⟩
          · rw [absent] at inFilter
            cases inFilter
          · rw [isOnly, List.mem_singleton] at inFilter
            subst inFilter
            exact malformed _ isLength
  endedInHeader := by
    intro connection noEnd small
    rw [readRequest_eq, requestOf, noEnd]
    exact if_neg (by omega)
  endedInBody := by
    intro connection headerEnd parsed head block admitted within short
    rw [readRequest_admitted block admitted within, if_pos short]
  noUnderflow := by
    intro connection underflow
    obtain ⟨error, isError⟩ := readRequest_error underflow
    cases isError

end Requests

/-- A request of HTTP/1.0. -/
def oldRequest : List UInt8 :=
  "GET / HTTP/1.0\r\nHost: a\r\n\r\n".toByteArray.data.toList

def oldParsed : ParsedRequest where
  method := some "GET"
  path := some "/"
  version := some 0
  headers := [("Host", [97])]

/-- The parser on this request. -/
def oldParse (block : List UInt8) : ParseResult :=
  if block = oldRequest then .complete 27 oldParsed else .incomplete

def oldConnection : Connection where
  reads := ⟨[oldRequest], by decide +kernel⟩
  failure := none

theorem readRequest_refuses_old_version :
    ¬ ∀ (parse : List UInt8 → ParseResult) (connection : Connection)
        (headerEnd contentLength : Nat) (parsed : ParsedRequest),
      findHeaderEnd connection.bytes = some headerEnd →
      headerEnd ≤ maxHeaderBytes →
      parse (connection.bytes.take headerEnd) = .complete headerEnd parsed →
      parsed.headers.any (named "transfer-encoding") = false →
      (parsed.headers.filter (named "host")).length = 1 →
      contentLengthOf parsed.headers = .ok contentLength →
      contentLength ≤ maxBodyBytes →
      headerEnd + contentLength ≤ connection.bytes.length →
      ∃ request, readRequest parse connection = .ok request := by
  intro accepts
  have found : findHeaderEnd oldConnection.bytes = some 27 := by decide +kernel
  have complete : oldParse (oldConnection.bytes.take 27) =
      .complete 27 oldParsed := by decide +kernel
  obtain ⟨request, isRead⟩ := accepts oldParse oldConnection 27 0 oldParsed
    found (by decide) complete (by decide +kernel) (by decide +kernel) rfl
    (by decide) (by decide +kernel)
  rw [readRequest_of_inside found (by decide)] at isRead
  obtain ⟨head, isHead, _⟩ := except_bind_ok_iff.mp isRead
  rw [parseHead, complete] at isHead
  dsimp only at isHead
  rw [if_pos (.inr (by decide))] at isHead
  cases isHead

end HttpWire

end PlatoAgent
