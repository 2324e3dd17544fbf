import PlatoAgent.LedgerRecovery

/-!
# The bytes of a run log

A log is a sequence of committed lines followed by a torn tail without a
newline.  Reading ignores the tail, appending a line to the committed part
appends its record to what is read, and a cut write leaves a torn tail or a
whole line.
-/

namespace PlatoAgent

open AtomicProgram

/-- Bytes that end with a newline, or no bytes at all. -/
def Committed (bytes : List UInt8) : Prop :=
  bytes = [] ∨ ∃ front, bytes = front ++ [newline]

theorem committed_nil : Committed [] :=
  .inl rfl

theorem committed_concat (front : List UInt8) :
    Committed (front ++ [newline]) :=
  .inr ⟨front, rfl⟩

theorem committed_lineBytes (env : LedgerEnv) (front : List UInt8)
    (record : RecordedEvent) :
    Committed (front ++ lineBytes env record) := by
  rw [lineBytes, ← List.append_assoc]
  exact committed_concat _

theorem findIdx_newline_none {bytes : List UInt8} (absent : newline ∉ bytes) :
    bytes.findIdx? (· == newline) = none := by
  rw [List.findIdx?_eq_none_iff]
  intro byte member
  simpa using fun same : byte = newline => absent (same ▸ member)

theorem committedLength_append {committed torn : List UInt8}
    (complete : Committed committed) (tail : newline ∉ torn) :
    committedLength (committed ++ torn) = committed.length := by
  have silent : torn.reverse.findIdx? (· == newline) = none :=
    findIdx_newline_none (by simpa using tail)
  unfold committedLength
  rcases complete with rfl | ⟨front, rfl⟩
  · simp [silent]
  · have found : (front ++ [newline] ++ torn).reverse.findIdx?
        (· == newline) = some torn.length := by
      rw [List.append_assoc, List.reverse_append, List.reverse_append,
        List.append_assoc, List.findIdx?_append, silent]
      simp [List.findIdx?_cons]
    rw [found]
    simp only [List.length_append, List.length_singleton]
    omega

theorem take_committedLength {committed torn : List UInt8}
    (complete : Committed committed) (tail : newline ∉ torn) :
    (committed ++ torn).take (committedLength (committed ++ torn)) =
      committed := by
  rw [committedLength_append complete tail]
  exact List.take_left

/-- Every log is a committed part and a torn tail. -/
theorem exists_committed (bytes : List UInt8) :
    ∃ committed torn, bytes = committed ++ torn ∧ Committed committed ∧
      newline ∉ torn := by
  induction bytes using List.reverseRecOn with
  | nil => exact ⟨[], [], rfl, committed_nil, by simp⟩
  | append_singleton front byte ih =>
      by_cases mark : byte = newline
      · subst mark
        exact ⟨front ++ [newline], [], by simp, committed_concat front,
          by simp⟩
      · obtain ⟨committed, torn, rfl, complete, tail⟩ := ih
        refine ⟨committed, torn ++ [byte], by simp, complete, ?_⟩
        simp [tail, Ne.symm mark]

theorem parsePieces_append (env : LedgerEnv) (first second :
    List (List UInt8)) :
    parsePieces env (first ++ second) = (do
      let front ← parsePieces env first
      let back ← parsePieces env second
      pure (front ++ back)) := by
  induction first with
  | nil =>
      cases parsed : parsePieces env second <;>
        simp [parsePieces, parsed, bind, Except.bind, pure, Except.pure]
  | cons piece rest ih =>
      rw [List.cons_append, parsePieces, parsePieces]
      split
      · exact ih
      · rw [ih]
        cases parseLedgerLine env piece with
        | error error => rfl
        | ok line =>
            cases parsePieces env rest with
            | error error => rfl
            | ok lines =>
                cases parsePieces env second <;>
                  simp [bind, Except.bind, pure, Except.pure]

theorem parsePieces_blank (env : LedgerEnv) : parsePieces env [[]] = .ok [] :=
  rfl

/-- Lines after a committed part are read after it. -/
theorem parseLedgerLines_append (env : LedgerEnv)
    {committed : List UInt8} (complete : Committed committed)
    (rest : List UInt8) :
    parseLedgerLines env (committed ++ rest) = (do
      let front ← parseLedgerLines env committed
      let back ← parseLedgerLines env rest
      pure (front ++ back)) := by
  unfold parseLedgerLines
  rcases complete with rfl | ⟨front, rfl⟩
  · have empty : parsePieces env (List.splitOn newline []) = .ok [] := rfl
    rw [empty]
    cases parsed : parsePieces env (List.splitOn newline rest) <;>
      simp [parsed, bind, Except.bind, pure, Except.pure]
  · have split : (front ++ [newline] ++ rest).splitOn newline =
        front.splitOn newline ++ rest.splitOn newline := by
      rw [List.append_assoc]
      exact List.splitOn_append_cons_self front rest
    have closed : (front ++ [newline]).splitOn newline =
        front.splitOn newline ++ [[]] :=
      List.splitOn_append_cons_self front []
    rw [split, closed, parsePieces_append, parsePieces_append,
      parsePieces_blank]
    cases parsePieces env (front.splitOn newline) <;>
      simp [bind, Except.bind, pure, Except.pure]

theorem lineBytes_nonblank (env : LedgerEnv) (line : LedgerLine) :
    (env.serdeJson.toVec line).all isAsciiWhitespace = false := by
  have object := env.serdeJson.toVec_object line
  cases bytes : env.serdeJson.toVec line with
  | nil => simp [bytes] at object
  | cons first rest =>
      obtain rfl : first = 123 := by simpa [bytes] using object
      have brace : isAsciiWhitespace 123 = false := by decide
      simp [brace]

/-- What reading makes of the line of an event: it nests too deep for the
parser, or its identity is checked. -/
def readBack (event : HarnessEvent) : Except AppError Unit :=
  if event.fitsLine then validateLedgerIdentity ledgerVersion event
  else .error .json

/-- The reader refuses the line of the event. -/
def HarnessEvent.refused (event : HarnessEvent) : Bool :=
  event.zeroRevision || !event.fitsLine

theorem readBack_ok_iff {event : HarnessEvent} :
    readBack event = .ok () ↔ event.refused = false := by
  unfold readBack HarnessEvent.refused
  rw [validateLedgerIdentity_current]
  cases event.fitsLine <;> cases event.zeroRevision <;> simp

/-- A written line is read back, unless it is refused. -/
theorem parseLedgerLines_lineBytes (env : LedgerEnv) (record : RecordedEvent) :
    parseLedgerLines env (lineBytes env record) = (do
      readBack record.event
      pure [.record { v := ledgerVersion, record := record }]) := by
  have pieces : (lineBytes env record).splitOn newline =
      [env.serdeJson.toVec { v := ledgerVersion, record := record }, []] :=
    List.splitOn_append_cons_self_of_not_mem
      (env.serdeJson.newline_not_mem_toVec _) []
  have supported : supportedLedgerVersion ledgerVersion = true := by decide
  rw [parseLedgerLines, pieces, parsePieces, lineBytes_nonblank,
    parsePieces_blank]
  simp only [Bool.false_eq_true, if_false, parseLedgerLine,
    env.serdeJson.fromSlice_toVec, readBack]
  cases record.event.fitsLine with
  | false => rfl
  | true =>
      simp only [if_true, validateLedgerLine, supported]
      cases validateLedgerIdentity ledgerVersion record.event <;> rfl

theorem recordsOf_committed (env : LedgerEnv) {committed : List UInt8}
    (complete : Committed committed) :
    recordsOf env committed = (do
      let lines ← parseLedgerLines env committed
      pure (lines.filterMap PersistedLedgerLine.coreRecord)) := by
  have whole : committed.take (committedLength committed) = committed := by
    simpa using take_committedLength complete (List.not_mem_nil (a := newline))
  rw [recordsOf, whole]

/-- A torn tail is not read. -/
theorem recordsOf_torn (env : LedgerEnv) {committed torn : List UInt8}
    (complete : Committed committed) (tail : newline ∉ torn) :
    recordsOf env (committed ++ torn) = recordsOf env committed := by
  rw [recordsOf_committed env complete, recordsOf,
    take_committedLength complete tail]

/-- An appended line appends its record. -/
theorem recordsOf_append_line (env : LedgerEnv) {committed : List UInt8}
    (complete : Committed committed) (record : RecordedEvent) :
    recordsOf env (committed ++ lineBytes env record) = (do
      let records ← recordsOf env committed
      readBack record.event
      pure (records ++ [record])) := by
  rw [recordsOf_committed env (committed_lineBytes env committed record),
    recordsOf_committed env complete, parseLedgerLines_append env complete,
    parseLedgerLines_lineBytes]
  cases parseLedgerLines env committed with
  | error error => rfl
  | ok lines =>
      cases readBack record.event with
      | error error => rfl
      | ok valid =>
          simp [bind, Except.bind, pure, Except.pure,
            PersistedLedgerLine.coreRecord]

/-- A prefix of a line is torn, or it is the whole line. -/
theorem newline_not_mem_take_lineBytes {env : LedgerEnv}
    {record : RecordedEvent} {count : Nat}
    (cut : count < (lineBytes env record).length) :
    newline ∉ (lineBytes env record).take count := by
  have bound : count ≤ (env.serdeJson.toVec
      { v := ledgerVersion, record := record }).length := by
    simp only [lineBytes, List.length_append, List.length_singleton] at cut
    omega
  rw [lineBytes, List.take_append_of_le_length bound]
  intro member
  exact env.serdeJson.newline_not_mem_toVec _ (List.mem_of_mem_take member)

namespace Workspace

/-- One more clock reading. -/
def tick (workspace : Workspace) : Workspace :=
  { workspace with clockReadings := workspace.clockReadings + 1 }

@[simp]
theorem tick_files (workspace : Workspace) :
    workspace.tick.files = workspace.files :=
  rfl

@[simp]
theorem tick_sessionRuns (workspace : Workspace) :
    workspace.tick.sessionRuns = workspace.sessionRuns :=
  rfl

@[simp]
theorem tick_ledgerEvents (workspace : Workspace) :
    workspace.tick.ledgerEvents = workspace.ledgerEvents :=
  rfl

@[simp]
theorem modifyFile_sessionRuns (workspace : Workspace) (path : String)
    (change : List UInt8 → List UInt8) :
    (workspace.modifyFile path change).sessionRuns = workspace.sessionRuns :=
  rfl

@[simp]
theorem modifyFile_ledgerEvents (workspace : Workspace) (path : String)
    (change : List UInt8 → List UInt8) :
    (workspace.modifyFile path change).ledgerEvents =
      workspace.ledgerEvents :=
  rfl

@[simp]
theorem modifyFile_files_self (workspace : Workspace) (path : String)
    (change : List UInt8 → List UInt8) :
    (workspace.modifyFile path change).files path =
      (workspace.files path).map change := by
  simp [modifyFile]

@[simp]
theorem modifyFile_files_ne (workspace : Workspace) {path other : String}
    (change : List UInt8 → List UInt8) (different : other ≠ path) :
    (workspace.modifyFile path change).files other =
      workspace.files other := by
  simp [modifyFile, different]

theorem modifyFile_modifyFile (workspace : Workspace) (path : String)
    (first second : List UInt8 → List UInt8) :
    (workspace.modifyFile path first).modifyFile path second =
      workspace.modifyFile path (second ∘ first) := by
  simp [modifyFile, Option.map_map]

theorem modifyFile_eq_self {workspace : Workspace} {path : String}
    {change : List UInt8 → List UInt8} {bytes : List UInt8}
    (content : workspace.files path = some bytes)
    (same : change bytes = bytes) :
    workspace.modifyFile path change = workspace := by
  have kept : Function.update workspace.files path (some bytes) =
      workspace.files := by
    rw [← content]
    exact Function.update_eq_self path workspace.files
  simp [modifyFile, content, same, kept]

@[simp]
theorem modifyFile_id (workspace : Workspace) (path : String) :
    workspace.modifyFile path (fun bytes => bytes) = workspace := by
  simp [modifyFile]

theorem modifyFile_append (workspace : Workspace) (path : String)
    (first second : List UInt8) :
    (workspace.modifyFile path (· ++ first)).modifyFile path (· ++ second) =
      workspace.modifyFile path (· ++ (first ++ second)) := by
  rw [modifyFile_modifyFile]
  congr 1
  funext bytes
  simp

end Workspace

variable {env : LedgerEnv} {workspace : Workspace} {path : String}

theorem appendFile_run (bytes : List UInt8) :
    (appendFile path bytes).run workspace =
      (.ok (), workspace.modifyFile path (· ++ bytes)) := by
  induction bytes generalizing workspace with
  | nil =>
      have same : workspace.modifyFile path (· ++ []) = workspace := by simp
      rw [same]
      rfl
  | cons byte rest ih =>
      change (appendFile path rest).run (workspace.modifyFile path
        (· ++ [byte])) = _
      rw [ih, Workspace.modifyFile_append, List.singleton_append]

/-- A write is cut after any number of its bytes. -/
theorem appendFile_passes {bytes : List UInt8} {cut : Workspace} :
    (appendFile path bytes).Passes workspace cut ↔
      ∃ count ≤ bytes.length,
        cut = workspace.modifyFile path (· ++ bytes.take count) := by
  induction bytes generalizing workspace with
  | nil =>
      change cut = workspace ↔ _
      simp
  | cons byte rest ih =>
      have extend : ∀ count, (workspace.modifyFile path
          (· ++ [byte])).modifyFile path (· ++ rest.take count) =
          workspace.modifyFile path
            (· ++ (byte :: rest).take (count + 1)) := by
        intro count
        rw [Workspace.modifyFile_append, List.singleton_append,
          List.take_succ_cons]
      change cut = workspace ∨ (appendFile path rest).Passes
        (workspace.modifyFile path (· ++ [byte])) cut ↔ _
      rw [ih]
      constructor
      · rintro (rfl | ⟨count, bound, rfl⟩)
        · exact ⟨0, Nat.zero_le _, by simp⟩
        · exact ⟨count + 1, by simpa using bound, extend count⟩
      · rintro ⟨count, bound, rfl⟩
        cases count with
        | zero => exact .inl (by simp)
        | succ count =>
            exact .inr ⟨count, by simpa using bound, (extend count).symm⟩

theorem readFile_run {bytes : List UInt8}
    (content : workspace.files path = some bytes) :
    (readFile path).run workspace = (.ok bytes, workspace) := by
  simp [readFile, content]

theorem readRecords_run {bytes : List UInt8}
    (content : workspace.files path = some bytes) :
    (readRecords env path).run workspace =
      (recordsOf env bytes, workspace) := by
  rw [readRecords, Program.run_bind_ok (readFile_run content)]
  rfl

theorem readRecords_passes {cut : Workspace}
    (passes : (readRecords env path).Passes workspace cut) :
    cut = workspace := by
  rw [readRecords, Program.passes_bind] at passes
  rcases passes with early | ⟨bytes, middle, read, late⟩
  · simpa [readFile] using early
  · obtain rfl : cut = middle := late
    have reached := (readFile path).passes_end workspace
    rw [read] at reached
    simpa [readFile] using reached

theorem nowMs_run (env : LedgerEnv) (workspace : Workspace) :
    (nowMs env).run workspace =
      (.ok (env.clock workspace.clockReadings), workspace.tick) :=
  rfl

theorem nowMs_passes {cut : Workspace} :
    (nowMs env).Passes workspace cut ↔
      cut = workspace ∨ cut = workspace.tick :=
  Iff.rfl

theorem requireApp_of {condition : Bool} {error : AppError}
    (holds : condition = true) : requireApp condition error = pure () := by
  subst holds
  rfl

theorem requireApp_of_not {condition : Bool} {error : AppError}
    (fails : condition = false) :
    requireApp condition error = Program.ofExcept (.error error) := by
  subst fails
  rfl

/-- Truncation to the committed length, whether it writes or not. -/
theorem cutTornTail_run {bytes : List UInt8}
    (content : workspace.files path = some bytes) :
    (JsonlEventRecorder.cutTornTail path bytes).run workspace =
      (.ok (), workspace.modifyFile path
        (·.take (committedLength bytes))) := by
  unfold JsonlEventRecorder.cutTornTail
  split
  · rfl
  next whole =>
    have same : bytes.take (committedLength bytes) = bytes := by
      rw [List.take_of_length_le]
      omega
    rw [Workspace.modifyFile_eq_self content same]
    rfl

theorem cutTornTail_passes {bytes : List UInt8} {cut : Workspace} :
    (JsonlEventRecorder.cutTornTail path bytes).Passes workspace cut →
      cut = workspace ∨ cut = workspace.modifyFile path
        (·.take (committedLength bytes)) := by
  unfold JsonlEventRecorder.cutTornTail
  split
  · exact id
  · exact fun passes => .inl passes

end PlatoAgent
