import PlatoAgent.LedgerRecording
import PlatoAgent.LedgerTransactions

/-!
# The event rows of a run

A run without a log keeps its records as rows.  The integer columns bound the
number of records and the timestamps they can hold; within these bounds the
next record of a run is a new row, and it is read back after the others.
-/

namespace PlatoAgent

open AtomicProgram

variable {env : LedgerEnv} {workspace after : Workspace} {runId : RunId}
  {records : List RecordedEvent} {record : RecordedEvent} {state : RunState}

theorem toInt_toInt64 {value : UInt64} (fits : value.toNat < 2 ^ 63) :
    value.toInt64.toInt = value.toNat := by
  have small : 2 * value.toBitVec.toNat < 2 ^ 64 := by
    have same : value.toBitVec.toNat = value.toNat := rfl
    omega
  exact BitVec.toInt_eq_toNat_of_lt small

theorem rowU64_ok_iff {column : Int64} {value : UInt64} :
    rowU64 column = .ok value ↔
      column = value.toInt64 ∧ value.toNat < 2 ^ 63 := by
  unfold rowU64
  constructor
  · intro read
    split at read
    · cases read
    next nonneg =>
      obtain rfl := Except.ok.inj read
      refine ⟨rfl, ?_⟩
      have least : (0 : Int) ≤ column.toInt := by
        simpa [Int64.lt_iff_toInt_lt] using nonneg
      have signed : column.toInt = column.toBitVec.toInt := rfl
      have bits : column.toUInt64.toNat = column.toBitVec.toNat := rfl
      rw [signed, BitVec.toInt_eq_toNat_cond] at least
      rw [bits]
      split at least <;> omega
  · rintro ⟨rfl, fits⟩
    have nonneg : ¬ value.toInt64 < 0 := by
      simp [Int64.lt_iff_toInt_lt, toInt_toInt64 fits]
    rw [if_neg nonneg]
    rfl

/-- The record can be stored: its identity is accepted, and its numbers fit
into integer columns. -/
structure Storable (record : RecordedEvent) : Prop where
  positive : record.event.zeroRevision = false
  seq : record.seq.toNat < 2 ^ 63
  occurredAtMs : record.occurredAtMs.toNat < 2 ^ 63

/-- A stored row is read back, unless its event nests too deep. -/
theorem sqliteRecordFromRow_eventRowOf (storable : Storable record) :
    sqliteRecordFromRow env (eventRowOf env runId record) =
      if record.event.fitsColumn then .ok record else .error .sqlite := by
  have supported : supportedLedgerVersion ledgerVersion = true := by decide
  have seq := rowU64_ok_iff.mpr ⟨rfl, storable.seq⟩
  have time := rowU64_ok_iff.mpr ⟨rfl, storable.occurredAtMs⟩
  simp only [sqliteRecordFromRow, eventRowOf, supported, not_true_eq_false,
    if_false, env.serdeJson.fromStr_toString]
  cases record.event.fitsColumn with
  | false => rfl
  | true =>
      simp only [if_true, validateLedgerIdentity_current, storable.positive,
        seq, time, Bool.false_eq_true, if_false]
      rfl

theorem seq_of_sqliteRecordFromRow {row : LedgerEventRow}
    (decoded : sqliteRecordFromRow env row = .ok record) :
    row.seq = record.seq.toInt64 ∧ record.seq.toNat < 2 ^ 63 := by
  unfold sqliteRecordFromRow at decoded
  by_cases supported : supportedLedgerVersion row.v = true
  · cases parsed : env.serdeJson.fromStr row.eventJson with
    | none => simp [supported, parsed] at decoded
    | some event =>
        simp only [supported, parsed, not_true_eq_false, if_false,
          except_bind_ok_iff] at decoded
        obtain ⟨_, _, seq, read, _, _, made⟩ := decoded
        obtain rfl := Except.ok.inj made
        exact rowU64_ok_iff.mp read
  · simp [supported, bind, Except.bind] at decoded

theorem mem_eventRows {row : LedgerEventRow} :
    row ∈ workspace.eventRows runId ↔
      row ∈ workspace.ledgerEvents ∧ row.runId = runId := by
  simp [Workspace.eventRows, UniqueTable.mem_iff]

/-- Each row decodes to the record at its place. -/
theorem forall₂_of_readRunRecordsFrom
    (read : readRunRecordsFrom env workspace runId = .ok records) :
    List.Forall₂ (fun row record => sqliteRecordFromRow env row = .ok record)
      (workspace.eventRows runId) records := by
  unfold readRunRecordsFrom at read
  generalize workspace.eventRows runId = rows at read
  induction rows generalizing records with
  | nil =>
      obtain rfl : [] = records := Except.ok.inj read
      exact .nil
  | cons row rest ih =>
      simp only [List.mapM_cons, except_bind_ok_iff] at read
      obtain ⟨first, decoded, others, readOthers, made⟩ := read
      obtain rfl := Except.ok.inj made
      exact .cons decoded (ih readOthers)

theorem readRunRecordsFrom_of_forall₂
    (decoded : List.Forall₂
      (fun row record => sqliteRecordFromRow env row = .ok record)
      (workspace.eventRows runId) records) :
    readRunRecordsFrom env workspace runId = .ok records := by
  unfold readRunRecordsFrom
  generalize workspace.eventRows runId = rows at decoded
  induction decoded with
  | nil => rfl
  | cons decoded _ ih =>
      simp only [List.mapM_cons, except_bind_ok_iff]
      exact ⟨_, decoded, _, ih, rfl⟩

/-- Each row carries the number of the record at its place. -/
def RowsNumbered (workspace : Workspace) (runId : RunId)
    (records : List RecordedEvent) : Prop :=
  List.Forall₂ (fun row record =>
    row.seq = record.seq.toInt64 ∧ record.seq.toNat < 2 ^ 63)
    (workspace.eventRows runId) records

theorem rowsNumbered_of_read
    (read : readRunRecordsFrom env workspace runId = .ok records) :
    RowsNumbered workspace runId records :=
  (forall₂_of_readRunRecordsFrom read).imp fun _ _ =>
    seq_of_sqliteRecordFromRow

/-- The numbers of a stored run: its records are as many as the columns can
count, and every row is numbered below the next record. -/
theorem RowsNumbered.row_seq_lt (rows : RowsNumbered workspace runId records)
    (replayed : RunState.replay records = .ok state) :
    records.length ≤ 2 ^ 63 ∧
      ∀ row ∈ workspace.eventRows runId, row.seq.toInt < records.length := by
  have seqs := (RunState.ledgerShape_of_replay replayed).seqs
  have numbered : ∀ index (bound : index < records.length),
      records[index].seq = UInt64.ofNat index := by
    intro index bound
    have same := congrArg (·[index]?) seqs
    simpa [bound] using same
  have fits : ∀ index (bound : index < records.length),
      records[index].seq.toNat < 2 ^ 63 := by
    intro index bound
    have rowBound : index < (workspace.eventRows runId).length := by
      rw [rows.length_eq]
      exact bound
    exact (rows.get rowBound bound).2
  have few : records.length ≤ 2 ^ 63 := by
    by_contra many
    have last := fits (2 ^ 63) (by omega)
    rw [numbered, UInt64.toNat_ofNat'] at last
    omega
  refine ⟨few, fun row member => ?_⟩
  obtain ⟨index, rowBound, rfl⟩ := List.getElem_of_mem member
  have bound : index < records.length := by
    rw [← rows.length_eq]
    exact rowBound
  obtain ⟨sameSeq, seqFits⟩ := rows.get rowBound bound
  have small := fits index bound
  have isIndex := numbered index bound
  simp only [List.get_eq_getElem] at sameSeq
  rw [sameSeq, toInt_toInt64 small, isIndex, UInt64.toNat_ofNat']
  omega

/-- The rows of the run are these records, as they were written. -/
structure RowsHold (env : LedgerEnv) (workspace : Workspace) (runId : RunId)
    (records : List RecordedEvent) : Prop where
  rows : workspace.eventRows runId = records.map (eventRowOf env runId)
  storable : ∀ record ∈ records, Storable record

theorem rowsHold_nil (env : LedgerEnv)
    (noRows : workspace.eventRows runId = []) :
    RowsHold env workspace runId [] :=
  ⟨noRows, by simp⟩

theorem RowsHold.of_sameRows (held : RowsHold env workspace runId records)
    (same : after.eventRows runId = workspace.eventRows runId) :
    RowsHold env after runId records :=
  ⟨same.trans held.rows, held.storable⟩

theorem RowsHold.numbered (held : RowsHold env workspace runId records) :
    RowsNumbered workspace runId records := by
  rw [RowsNumbered, held.rows, List.forall₂_map_left_iff, List.forall₂_same]
  exact fun record member => ⟨rfl, (held.storable record member).seq⟩

/-- Reading the rows gives the records back, unless one nests too deep. -/
theorem RowsHold.read_eq (held : RowsHold env workspace runId records) :
    readRunRecordsFrom env workspace runId =
      if records.all (·.event.fitsColumn) then .ok records
      else .error .sqlite := by
  unfold readRunRecordsFrom
  rw [held.rows]
  have storable := held.storable
  clear held
  induction records with
  | nil => rfl
  | cons record rest ih =>
      rw [List.map_cons, List.mapM_cons,
        sqliteRecordFromRow_eventRowOf (storable record List.mem_cons_self),
        ih fun other member => storable other (List.mem_cons_of_mem _ member),
        List.all_cons]
      cases record.event.fitsColumn <;>
        cases rest.all (·.event.fitsColumn) <;> rfl

theorem RowsHold.read_ok_iff (held : RowsHold env workspace runId records) :
    readRunRecordsFrom env workspace runId = .ok records ↔
      ∀ record ∈ records, record.event.fitsColumn = true := by
  rw [held.read_eq, ← List.all_eq_true]
  cases records.all (·.event.fitsColumn) <;> simp

/-- Whatever is read is what the rows hold. -/
theorem RowsHold.eq_of_read (held : RowsHold env workspace runId records)
    {found : List RecordedEvent}
    (read : readRunRecordsFrom env workspace runId = .ok found) :
    found = records := by
  rw [held.read_eq] at read
  split at read
  · exact (Except.ok.inj read).symm
  · cases read

instance : Std.Total fun first second : LedgerEventRow =>
    first.seq ≤ second.seq :=
  ⟨fun first second => Int64.le_total first.seq second.seq⟩

instance : IsTrans LedgerEventRow fun first second =>
    first.seq ≤ second.seq :=
  ⟨fun _ _ _ => Int64.le_trans⟩

theorem pairwise_eventRows (workspace : Workspace) (runId : RunId) :
    (workspace.eventRows runId).Pairwise fun first second =>
      first.seq ≤ second.seq :=
  List.pairwise_insertionSort _ _

/-- A row with a greater number is read after the others. -/
theorem eventRows_insert {row : LedgerEventRow} (rowRun : row.runId = runId)
    (greatest : ∀ other ∈ workspace.eventRows runId, other.seq < row.seq)
    (inserted : workspace.ledgerEvents.insert? row =
      some after.ledgerEvents) :
    after.eventRows runId = workspace.eventRows runId ++ [row] := by
  obtain ⟨rows, _⟩ := UniqueTable.insert?_eq_some inserted
  have selected : after.ledgerEvents.rows.filter (·.runId == runId) =
      workspace.ledgerEvents.rows.filter (·.runId == runId) ++ [row] := by
    simp [rows, rowRun]
  have permuted : (after.eventRows runId).Perm
      (workspace.eventRows runId ++ [row]) := by
    refine (List.perm_insertionSort _ _).trans ?_
    rw [selected]
    exact (List.perm_insertionSort _ _).symm.append_right [row]
  refine List.Perm.eq_of_pairwise ?_ (pairwise_eventRows after runId) ?_
    permuted
  · -- Rows of one run with the same number are the same row.
    intro first second firstMember secondMember ascends descends
    obtain ⟨firstRow, firstRun⟩ := mem_eventRows.mp firstMember
    obtain ⟨secondRow, secondRun⟩ :=
      mem_eventRows.mp (permuted.symm.subset secondMember)
    refine UniqueTable.eq_of_shared_key firstRow secondRow
      (first.runId, first.seq) (by simp [LedgerEventRow.keys]) ?_
    simp [LedgerEventRow.keys, firstRun, secondRun,
      Int64.le_antisymm ascends descends]
  · refine List.pairwise_append.mpr ⟨pairwise_eventRows workspace runId,
      by simp, ?_⟩
    intro other member added isAdded
    obtain rfl : added = row := by simpa using isAdded
    exact Int64.le_of_lt (greatest other member)

theorem eventRows_insert_other {row : LedgerEventRow}
    (rowRun : row.runId ≠ runId)
    (inserted : workspace.ledgerEvents.insert? row =
      some after.ledgerEvents) :
    after.eventRows runId = workspace.eventRows runId := by
  obtain ⟨rows, _⟩ := UniqueTable.insert?_eq_some inserted
  simp [Workspace.eventRows, rows, rowRun]

/-- The records of the other runs are as before. -/
def SameOtherRows (runId : RunId) (before after : Workspace) : Prop :=
  ∀ other, other ≠ runId → after.eventRows other = before.eventRows other

/-- The next record of a stored run is inserted as a new row. -/
theorem appendRecordIn_next (rows : RowsNumbered workspace runId records)
    (replayed : RunState.replay records = .ok state)
    (isNext : record.seq = state.nextSeq) (storable : Storable record) :
    ∃ after, (appendRecordIn env runId record).Commits workspace () after ∧
      after = { workspace with ledgerEvents := after.ledgerEvents } ∧
      after.eventRows runId =
        workspace.eventRows runId ++ [eventRowOf env runId record] ∧
      SameOtherRows runId workspace after := by
  have shape := RunState.ledgerShape_of_replay replayed
  obtain ⟨few, numbered⟩ := rows.row_seq_lt replayed
  have seqFits := storable.seq
  have seqIs : record.seq.toNat = records.length := by
    have wrapped := seqFits
    rw [isNext, shape.nextSeq, UInt64.toNat_ofNat'] at wrapped ⊢
    omega
  have greatest : ∀ other ∈ workspace.eventRows runId,
      other.seq < (eventRowOf env runId record).seq := by
    intro other member
    have below := numbered other member
    rw [Int64.lt_iff_toInt_lt]
    simp only [eventRowOf, toInt_toInt64 seqFits, seqIs]
    exact below
  obtain ⟨ledgerEvents, inserted⟩ : ∃ ledgerEvents,
      workspace.ledgerEvents.insert? (eventRowOf env runId record) =
        some ledgerEvents := by
    refine UniqueTable.insert?_of_separate fun present member key left right => ?_
    simp only [LedgerEventRow.keys, List.mem_singleton] at left right
    rw [left, Prod.mk.injEq] at right
    have below := greatest present (mem_eventRows.mpr ⟨member, right.1⟩)
    rw [right.2] at below
    exact Int64.lt_irrefl below
  refine ⟨{ workspace with ledgerEvents := ledgerEvents },
    commits_appendRecordIn.mpr ⟨storable.positive, storable.seq,
      storable.occurredAtMs, ?_⟩, rfl,
    @eventRows_insert workspace { workspace with ledgerEvents := ledgerEvents }
      runId _ rfl greatest inserted, ?_⟩
  · unfold insertEventRow
    simp [Txn.commits_bind, inserted]
  · intro other different
    exact eventRows_insert_other (Ne.symm different) inserted

/-- An appended row that does not nest too deep is read after the others. -/
theorem readRunRecordsFrom_concat
    (read : readRunRecordsFrom env workspace runId = .ok records)
    (appended : after.eventRows runId =
      workspace.eventRows runId ++ [eventRowOf env runId record])
    (storable : Storable record) (fits : record.event.fitsColumn = true) :
    readRunRecordsFrom env after runId = .ok (records ++ [record]) := by
  have decoded : sqliteRecordFromRow env (eventRowOf env runId record) =
      .ok record := by
    rw [sqliteRecordFromRow_eventRowOf storable, fits, if_pos rfl]
  refine readRunRecordsFrom_of_forall₂ ?_
  rw [appended]
  exact List.rel_append (forall₂_of_readRunRecordsFrom read)
    (.cons decoded .nil)

theorem RowsHold.concat (held : RowsHold env workspace runId records)
    (appended : after.eventRows runId =
      workspace.eventRows runId ++ [eventRowOf env runId record])
    (storable : Storable record) :
    RowsHold env after runId (records ++ [record]) := by
  refine ⟨by simp [appended, held.rows], fun other member => ?_⟩
  rcases List.mem_append.mp member with old | added
  · exact held.storable other old
  · obtain rfl := List.mem_singleton.mp added
    exact storable

/-- A committed append is the next row of the run. -/
theorem RowsHold.of_commits_appendRecordIn
    (held : RowsHold env workspace runId records)
    (replayed : RunState.replay records = .ok state)
    (isNext : record.seq = state.nextSeq) {result : Unit}
    (commits : (appendRecordIn env runId record).Commits workspace result
      after) :
    after = { workspace with ledgerEvents := after.ledgerEvents } ∧
      RowsHold env after runId (records ++ [record]) ∧
      SameOtherRows runId workspace after := by
  obtain ⟨positive, seq, occurredAtMs, _⟩ := commits_appendRecordIn.mp commits
  have storable : Storable record := ⟨positive, seq, occurredAtMs⟩
  obtain ⟨found, appended, frame, rows, others⟩ :=
    @appendRecordIn_next env _ _ _ _ _ held.numbered replayed isNext storable
  obtain rfl : found = after := by
    have same : Except.ok ((), found) = .ok (result, after) :=
      appended.symm.trans commits
    exact (Prod.mk.inj (Except.ok.inj same)).2
  exact ⟨frame, held.concat rows storable, others⟩

/-- A record that cannot be stored is refused. -/
theorem not_commits_appendRecordIn (refused : ¬ Storable record)
    (result : Unit) :
    ¬ (appendRecordIn env runId record).Commits workspace result after := by
  intro commits
  obtain ⟨positive, seq, occurredAtMs, _⟩ := commits_appendRecordIn.mp commits
  exact refused ⟨positive, seq, occurredAtMs⟩

end PlatoAgent
