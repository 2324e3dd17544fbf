import PlatoAgent.StoreDelivery

/-!
# Returns, answers and their edges

Without its delivery columns, each message table is a list that only grows.
A terminal return closes its edge, a stop closes the child, and an accepted
draft is acknowledged with the same record while its source run is admitted.
-/

namespace PlatoAgent

/-- A cut text is the longest prefix within the limit. -/
theorem truncateUtf8Bytes_spec (value : String) (maxBytes : Nat) :
    (truncateUtf8Bytes value maxBytes).1.toList <+: value.toList ∧
      (truncateUtf8Bytes value maxBytes).1.utf8ByteSize ≤ maxBytes ∧
      (∀ start, start <+: value.toList → String.utf8Len start ≤ maxBytes →
        start <+: (truncateUtf8Bytes value maxBytes).1.toList) ∧
      ((truncateUtf8Bytes value maxBytes).2 = true ↔
        (truncateUtf8Bytes value maxBytes).1 ≠ value) := by
  unfold truncateUtf8Bytes
  split
  next fits =>
    exact ⟨List.prefix_rfl, fits, fun start isPrefix _ => isPrefix, by simp⟩
  next tooLong =>
    have size := Utf8.utf8Len_takeBytes_le value.toList
      (Utf8.boundaryBelow value.toList maxBytes)
    have below := Utf8.boundaryBelow_le value.toList maxBytes
    have cut : (String.ofList (Utf8.takeBytes value.toList
        (Utf8.boundaryBelow value.toList maxBytes))).utf8ByteSize ≤
          maxBytes := by
      rw [String.utf8ByteSize_ofList]
      omega
    refine ⟨?_, cut, ?_, ?_⟩
    · simpa using Utf8.takeBytes_isPrefix _ _
    · intro start isPrefix fits
      simpa using Utf8.prefix_takeBytes_boundaryBelow isPrefix fits
    · simp only [ne_eq, true_iff]
      intro same
      rw [same] at cut
      exact tooLong cut

section Columns

variable {Row Key : Type} {keys : Row → List Key}
  {columns : DeliveryColumns Row Key keys}

/-- A message without its delivery. -/
def DeliveryColumns.content (columns : DeliveryColumns Row Key keys)
    (row : Row) : Row :=
  columns.deliver (fun _ => .inserted) row

def DeliveryColumns.contents (columns : DeliveryColumns Row Key keys)
    (table : UniqueTable Row Key keys) : List Row :=
  table.rows.map columns.content

@[simp]
theorem DeliveryColumns.content_deliver (change : Delivery → Delivery)
    (row : Row) :
    columns.content (columns.deliver change row) = columns.content row := by
  simp [content, Function.comp_def]

@[simp]
theorem DeliveryColumns.contents_updateDeliveries
    {table : UniqueTable Row Key keys} {selected : Row → Bool}
    {change : Delivery → Delivery} :
    columns.contents (columns.updateDeliveries table selected change) =
      columns.contents table := by
  simp only [contents, updateDeliveries, UniqueTable.update, List.map_map]
  apply List.map_congr_left
  intro row _
  simp only [Function.comp_apply]
  split <;> simp

theorem DeliveryColumns.contents_reserveAll {admission : ThreadRunAdmission}
    {newAdmission : Bool} {messageIds : List String}
    {table after : UniqueTable Row Key keys}
    (reserves : columns.reserveAll admission newAdmission table messageIds =
      .ok after) : columns.contents after = columns.contents table := by
  induction messageIds generalizing table with
  | nil =>
      cases reserves
      rfl
  | cons messageId messageIds ih =>
      obtain ⟨middle, first, rest⟩ := except_bind_ok_iff.mp reserves
      obtain ⟨rfl, _⟩ := columns.reserveDelivery_ok first
      rw [ih rest, contents_updateDeliveries]

end Columns

namespace ServerStore

def returnContents (store : ServerStore) : List ChildReturnRecord :=
  childReturnColumns.contents store.childReturns

def answerContents (store : ServerStore) : List ParentAnswerRecord :=
  parentAnswerColumns.contents store.parentAnswers

theorem mem_returnContents {store : ServerStore} {row : ChildReturnRecord}
    (member : row ∈ store.childReturns) :
    childReturnColumns.content row ∈ store.returnContents :=
  List.mem_map_of_mem member

theorem mem_answerContents {store : ServerStore} {row : ParentAnswerRecord}
    (member : row ∈ store.parentAnswers) :
    parentAnswerColumns.content row ∈ store.answerContents :=
  List.mem_map_of_mem member

/-- Only a return that passed its checks is appended to the returns. -/
theorem commit_returnContents {env : StoreEnv} {store after : ServerStore}
    {command : StoreCommand}
    (committed : command.commit env store = .ok after) :
    after.returnContents = store.returnContents ∨
      ∃ draft edge profileRevision childReturns,
        store.InsertsReturn draft edge profileRevision childReturns ∧
        after.returnContents = store.returnContents ++
          [store.returnRow draft edge profileRevision] := by
  cases command with
  | persistChildReturn draft =>
      obtain ⟨⟨_, _⟩, persists, rfl⟩ := except_map_ok_iff.mp committed
      obtain ⟨rfl, _⟩ | ⟨edge, profileRevision, childReturns, inserts, _,
        rfl⟩ := persistChildReturn_ok persists
      · exact .inl rfl
      · refine .inr ⟨draft, edge, profileRevision, childReturns, inserts, ?_⟩
        simp only [returnContents, DeliveryColumns.contents, List.map_append,
          (UniqueTable.insert?_eq_some inserts.inserted).1]
        rfl
  | persistParentAnswer draft =>
      obtain ⟨⟨_, _⟩, persists, rfl⟩ := except_map_ok_iff.mp committed
      obtain ⟨rfl, _⟩ | ⟨_, _, _, _, _, rfl⟩ :=
        persistParentAnswer_ok persists <;> exact .inl rfl
  | admitThreadRunAndReserve admission childReturnIds parentAnswerIds =>
      obtain ⟨⟨_, _⟩, admits, rfl⟩ := except_map_ok_iff.mp committed
      obtain ⟨_, _, _, _, made, rfl⟩ :=
        admitThreadRunAndReserve_ok_iff.mp admits
      exact .inl (DeliveryColumns.contents_reserveAll made.returns)
  | settleThreadRunDeliveries runId consumed atMs =>
      obtain ⟨⟨_, _⟩, settles, rfl⟩ := except_map_ok_iff.mp committed
      obtain ⟨_, rfl⟩ | ⟨_, _, rfl⟩ := settleThreadRunDeliveries_ok settles
      · exact .inl rfl
      · exact .inl DeliveryColumns.contents_updateDeliveries
  | discardThreadRunAdmission runId =>
      obtain ⟨⟨_, _⟩, discards, rfl⟩ := except_map_ok_iff.mp committed
      obtain ⟨_, rfl⟩ | ⟨_, _, rfl⟩ := discardThreadRunAdmission_ok discards
      · exact .inl rfl
      · exact .inl DeliveryColumns.contents_updateDeliveries
  | persistThreadSpawn | claimThreadBranches | releaseThreadClaims
  | persistThreadStop | reserveProfileHome
  | decideProfileHomeWithoutAuthority | persistProfileHome =>
      have same := (commit_sameMessages rfl committed).childReturns
      exact .inl (congrArg childReturnColumns.contents same)

/-- Only an answer that passed its checks is appended to the answers. -/
theorem commit_answerContents {env : StoreEnv} {store after : ServerStore}
    {command : StoreCommand}
    (committed : command.commit env store = .ok after) :
    after.answerContents = store.answerContents ∨
      ∃ draft edge admission parentAnswers,
        store.InsertsAnswer draft edge admission parentAnswers ∧
        after.answerContents = store.answerContents ++
          [store.answerRow draft edge admission.profileRevision] := by
  cases command with
  | persistChildReturn draft =>
      obtain ⟨⟨_, _⟩, persists, rfl⟩ := except_map_ok_iff.mp committed
      obtain ⟨rfl, _⟩ | ⟨_, _, _, _, _, rfl⟩ :=
        persistChildReturn_ok persists <;> exact .inl rfl
  | persistParentAnswer draft =>
      obtain ⟨⟨_, _⟩, persists, rfl⟩ := except_map_ok_iff.mp committed
      obtain ⟨rfl, _⟩ | ⟨edge, admission, parentAnswers, inserts, _, rfl⟩ :=
        persistParentAnswer_ok persists
      · exact .inl rfl
      · refine .inr ⟨draft, edge, admission, parentAnswers, inserts, ?_⟩
        simp only [answerContents, DeliveryColumns.contents, List.map_append,
          (UniqueTable.insert?_eq_some inserts.inserted).1]
        rfl
  | admitThreadRunAndReserve admission childReturnIds parentAnswerIds =>
      obtain ⟨⟨_, _⟩, admits, rfl⟩ := except_map_ok_iff.mp committed
      obtain ⟨_, _, _, _, made, rfl⟩ :=
        admitThreadRunAndReserve_ok_iff.mp admits
      exact .inl (DeliveryColumns.contents_reserveAll made.answers)
  | settleThreadRunDeliveries runId consumed atMs =>
      obtain ⟨⟨_, _⟩, settles, rfl⟩ := except_map_ok_iff.mp committed
      obtain ⟨_, rfl⟩ | ⟨_, _, rfl⟩ := settleThreadRunDeliveries_ok settles
      · exact .inl rfl
      · exact .inl DeliveryColumns.contents_updateDeliveries
  | discardThreadRunAdmission runId =>
      obtain ⟨⟨_, _⟩, discards, rfl⟩ := except_map_ok_iff.mp committed
      obtain ⟨_, rfl⟩ | ⟨_, _, rfl⟩ := discardThreadRunAdmission_ok discards
      · exact .inl rfl
      · exact .inl DeliveryColumns.contents_updateDeliveries
  | persistThreadSpawn | claimThreadBranches | releaseThreadClaims
  | persistThreadStop | reserveProfileHome
  | decideProfileHomeWithoutAuthority | persistProfileHome =>
      have same := (commit_sameMessages rfl committed).parentAnswers
      exact .inl (congrArg parentAnswerColumns.contents same)

/-- The edge has a terminal return. -/
def Terminal (store : ServerStore) (spawnId : String) : Prop :=
  ∃ row ∈ store.childReturns, row.spawnId = spawnId ∧
    row.kind.isTerminal = true

theorem terminal_iff_contents {store : ServerStore} {spawnId : String} :
    store.Terminal spawnId ↔ ∃ row ∈ store.returnContents,
      row.spawnId = spawnId ∧ row.kind.isTerminal = true := by
  constructor
  · rintro ⟨row, member, isTerminal⟩
    exact ⟨_, mem_returnContents member, isTerminal⟩
  · rintro ⟨content, member, isTerminal⟩
    obtain ⟨row, rowMember, rfl⟩ := List.mem_map.mp member
    exact ⟨row, rowMember, isTerminal⟩

theorem not_terminal_of_isOpen {store : ServerStore} {spawnId : String}
    (isOpen : store.terminalChildReturn spawnId = none) :
    ¬store.Terminal spawnId := by
  rintro ⟨row, member, sameEdge, isTerminal⟩
  rw [terminalChildReturn, List.find?_eq_none] at isOpen
  have unselected := isOpen row member
  simp [sameEdge, isTerminal] at unselected

/-- What a run adds to the messages of a store never belongs to an edge or a
child that the store had closed. -/
structure ExtendsOpen (before after : ServerStore) : Prop where
  returns : ∃ added, after.returnContents = before.returnContents ++ added ∧
    ∀ row ∈ added, ¬before.Terminal row.spawnId
  answers : ∃ added, after.answerContents = before.answerContents ++ added ∧
    ∀ row ∈ added, ¬before.Terminal row.spawnId ∧
      before.threadStop row.childThreadId = none

theorem ExtendsOpen.terminal {before after : ServerStore}
    (extends' : ExtendsOpen before after) {spawnId : String}
    (closed : before.Terminal spawnId) : after.Terminal spawnId := by
  obtain ⟨added, contents, _⟩ := extends'.returns
  rw [terminal_iff_contents] at closed ⊢
  obtain ⟨row, member, isTerminal⟩ := closed
  exact ⟨row, by simp [contents, member], isTerminal⟩

theorem commit_extendsOpen {env : StoreEnv} {store after : ServerStore}
    {command : StoreCommand}
    (committed : command.commit env store = .ok after) :
    ExtendsOpen store after where
  returns := by
    obtain same | ⟨draft, edge, profileRevision, _, inserts, appended⟩ :=
      commit_returnContents committed
    · exact ⟨[], by simp [same], by simp⟩
    · refine ⟨_, appended, fun row member => ?_⟩
      rw [List.mem_singleton.mp member]
      exact not_terminal_of_isOpen inserts.isOpen
  answers := by
    obtain same | ⟨draft, edge, admission, _, inserts, appended⟩ :=
      commit_answerContents committed
    · exact ⟨[], by simp [same], by simp⟩
    · refine ⟨_, appended, fun row member => ?_⟩
      rw [List.mem_singleton.mp member]
      exact ⟨not_terminal_of_isOpen inserts.isOpen, inserts.unstopped⟩

theorem threadStop_eq_none_of_grow {before after : ServerStore}
    (grows : ThreadsGrow before after) {threadId : String}
    (unstopped : after.threadStop threadId = none) :
    before.threadStop threadId = none := by
  rw [threadStop, List.find?_eq_none] at unstopped ⊢
  intro row member
  exact unstopped row (grows.stops row member)

theorem ExtendsOpen.trans {first second third : ServerStore}
    (earlier : ExtendsOpen first second) (grows : ThreadsGrow first second)
    (later : ExtendsOpen second third) : ExtendsOpen first third where
  returns := by
    obtain ⟨early, earlyContents, earlyOpen⟩ := earlier.returns
    obtain ⟨late, lateContents, lateOpen⟩ := later.returns
    refine ⟨early ++ late, by simp [lateContents, earlyContents], ?_⟩
    intro row member
    obtain member | member := List.mem_append.mp member
    · exact earlyOpen row member
    · exact fun closed => lateOpen row member (earlier.terminal closed)
  answers := by
    obtain ⟨early, earlyContents, earlyOpen⟩ := earlier.answers
    obtain ⟨late, lateContents, lateOpen⟩ := later.answers
    refine ⟨early ++ late, by simp [lateContents, earlyContents], ?_⟩
    intro row member
    obtain member | member := List.mem_append.mp member
    · exact earlyOpen row member
    · exact ⟨fun closed => (lateOpen row member).1 (earlier.terminal closed),
        threadStop_eq_none_of_grow grows (lateOpen row member).2⟩

theorem afterCalls_extendsOpen (env : StoreEnv) (store : ServerStore)
    (calls : List StoreCall) :
    ExtendsOpen store (store.afterCalls env calls) := by
  have kept : ∀ call ∈ calls, ∀ middle after : ServerStore,
      ThreadsGrow store middle ∧ ExtendsOpen store middle →
      call.command.commit env middle = .ok after →
      ThreadsGrow store after ∧ ExtendsOpen store after := by
    intro call _ middle after ⟨grows, extended⟩ committed
    exact ⟨grows.trans (commit_threadsGrow committed),
      extended.trans grows (commit_extendsOpen committed)⟩
  have initial : ExtendsOpen store store :=
    ⟨⟨[], by simp, by simp⟩, ⟨[], by simp, by simp⟩⟩
  exact (afterCalls_invariant calls kept ⟨ThreadsGrow.refl store, initial⟩).2

/-- Unconsumed progress and question returns to one parent. -/
def isPendingReturn (parentThreadId : String) (row : ChildReturnRecord) :
    Bool :=
  row.parentThreadId == parentThreadId && !row.kind.isTerminal &&
    row.delivery.state != .consumed

/-- Changing deliveries of unconsumed messages leaves no more pending. -/
theorem pending_updateDeliveries_le (parentThreadId : String)
    {table : UniqueTable ChildReturnRecord ReturnKey ChildReturnRecord.keys}
    {selected : ChildReturnRecord → Bool} {change : Delivery → Delivery}
    (unconsumed : ∀ row, selected row = true →
      row.delivery.state ≠ .consumed) :
    (childReturnColumns.updateDeliveries table selected change).rows.countP
        (isPendingReturn parentThreadId) ≤
      table.rows.countP (isPendingReturn parentThreadId) := by
  simp only [DeliveryColumns.updateDeliveries, UniqueTable.update,
    List.countP_map]
  apply List.countP_mono_left
  intro row _ pending
  simp only [Function.comp_apply] at pending
  split at pending
  next isSelected =>
    simp only [isPendingReturn, childReturnColumns, Bool.and_eq_true]
      at pending ⊢
    exact ⟨pending.1, by simpa using unconsumed row isSelected⟩
  next => exact pending

theorem pending_reserveAll_le (parentThreadId : String)
    {admission : ThreadRunAdmission} {newAdmission : Bool}
    {messageIds : List String}
    {table after : UniqueTable ChildReturnRecord ReturnKey
      ChildReturnRecord.keys}
    (reserves : childReturnColumns.reserveAll admission newAdmission table
      messageIds = .ok after) :
    after.rows.countP (isPendingReturn parentThreadId) ≤
      table.rows.countP (isPendingReturn parentThreadId) := by
  induction messageIds generalizing table with
  | nil =>
      cases reserves
      exact le_rfl
  | cons messageId messageIds ih =>
      obtain ⟨middle, first, rest⟩ := except_bind_ok_iff.mp reserves
      obtain ⟨rfl, _⟩ := childReturnColumns.reserveDelivery_ok first
      apply (ih rest).trans
      apply pending_updateDeliveries_le
      intro row selected
      simp only [DeliveryColumns.isReservable, Bool.and_eq_true, beq_iff_eq]
        at selected
      have isAvailable : row.delivery.state = .available := selected.2.2
      simp [isAvailable]

theorem pending_settleReserved_le (parentThreadId : String)
    {table : UniqueTable ChildReturnRecord ReturnKey ChildReturnRecord.keys}
    {runId turnId : String} {change : Delivery → Delivery} :
    (childReturnColumns.settleReserved table runId turnId change).rows.countP
        (isPendingReturn parentThreadId) ≤
      table.rows.countP (isPendingReturn parentThreadId) := by
  apply pending_updateDeliveries_le
  intro row selected
  have isReserved : row.delivery.state = .reserved :=
    Delivery.state_of_isReservedBy selected
  simp [isReserved]

/-- A commit adds a pending return only to a parent with room. -/
theorem commit_pendingNonterminal {env : StoreEnv} {store after : ServerStore}
    {command : StoreCommand} (parentThreadId : String)
    (committed : command.commit env store = .ok after) :
    after.pendingNonterminal parentThreadId ≤
        store.pendingNonterminal parentThreadId ∨
      after.pendingNonterminal parentThreadId ≤
        maxUnconsumedNonterminalReturns := by
  cases command with
  | persistChildReturn draft =>
      obtain ⟨⟨_, _⟩, persists, rfl⟩ := except_map_ok_iff.mp committed
      obtain ⟨rfl, _⟩ | ⟨edge, profileRevision, childReturns, inserts, _,
        rfl⟩ := persistChildReturn_ok persists
      · exact .inl le_rfl
      simp only [pendingNonterminal, List.countP_append, List.countP_singleton,
        (UniqueTable.insert?_eq_some inserts.inserted).1]
      split
      next isPending =>
        simp only [returnRow, Bool.and_eq_true, beq_iff_eq,
          Bool.not_eq_true'] at isPending
        obtain ⟨⟨rfl, nonterminal⟩, _⟩ := isPending
        have room := inserts.room nonterminal
        unfold pendingNonterminal at room
        omega
      next => simp
  | persistParentAnswer draft =>
      obtain ⟨⟨_, _⟩, persists, rfl⟩ := except_map_ok_iff.mp committed
      obtain ⟨rfl, _⟩ | ⟨_, _, _, _, _, rfl⟩ :=
        persistParentAnswer_ok persists <;> exact .inl le_rfl
  | admitThreadRunAndReserve admission childReturnIds parentAnswerIds =>
      obtain ⟨⟨_, _⟩, admits, rfl⟩ := except_map_ok_iff.mp committed
      obtain ⟨_, _, _, _, made, rfl⟩ :=
        admitThreadRunAndReserve_ok_iff.mp admits
      exact .inl (pending_reserveAll_le parentThreadId made.returns)
  | settleThreadRunDeliveries runId consumed atMs =>
      obtain ⟨⟨_, _⟩, settles, rfl⟩ := except_map_ok_iff.mp committed
      obtain ⟨_, rfl⟩ | ⟨_, _, rfl⟩ := settleThreadRunDeliveries_ok settles
      · exact .inl le_rfl
      · exact .inl (pending_settleReserved_le parentThreadId)
  | discardThreadRunAdmission runId =>
      obtain ⟨⟨_, _⟩, discards, rfl⟩ := except_map_ok_iff.mp committed
      obtain ⟨_, rfl⟩ | ⟨_, _, rfl⟩ := discardThreadRunAdmission_ok discards
      · exact .inl le_rfl
      · exact .inl (pending_settleReserved_le parentThreadId)
  | persistThreadSpawn | claimThreadBranches | releaseThreadClaims
  | persistThreadStop | reserveProfileHome
  | decideProfileHomeWithoutAuthority | persistProfileHome =>
      have same := (commit_sameMessages rfl committed).childReturns
      simp [pendingNonterminal, same]

theorem pendingNonterminal_afterCalls_le (env : StoreEnv)
    {start : ServerStore} (noReturns : start.childReturns = .empty)
    (calls : List StoreCall) (parentThreadId : String) :
    (start.afterCalls env calls).pendingNonterminal parentThreadId ≤
      maxUnconsumedNonterminalReturns := by
  have kept : ∀ call ∈ calls, ∀ store after : ServerStore,
      store.pendingNonterminal parentThreadId ≤
        maxUnconsumedNonterminalReturns →
      call.command.commit env store = .ok after →
      after.pendingNonterminal parentThreadId ≤
        maxUnconsumedNonterminalReturns := by
    intro call _ store after bounded committed
    obtain fewer | bounded := commit_pendingNonterminal parentThreadId committed
    · exact fewer.trans bounded
    · exact bounded
  have initial : start.pendingNonterminal parentThreadId ≤
      maxUnconsumedNonterminalReturns := by
    simp [pendingNonterminal, noReturns, UniqueTable.empty]
  exact afterCalls_invariant calls kept initial

theorem commit_sameApprovals {env : StoreEnv} {store after : ServerStore}
    {command : StoreCommand}
    (committed : command.commit env store = .ok after)
    (notSpawn : ∀ approval authority confinement,
      command ≠ .persistThreadSpawn approval authority confinement) :
    after.threadSpawnApprovals = store.threadSpawnApprovals := by
  cases command with
  | persistThreadSpawn approval authority confinement =>
      exact absurd rfl (notSpawn approval authority confinement)
  | claimThreadBranches workspaceId threadId claims claimedAtMs =>
      obtain ⟨⟨_, _⟩, claims, rfl⟩ := except_map_ok_iff.mp committed
      obtain ⟨rfl, _⟩ | ⟨_, _, rfl, _⟩ := claimThreadBranches_ok claims <;> rfl
  | releaseThreadClaims threadId =>
      cases committed
      rfl
  | persistThreadStop stop =>
      obtain ⟨⟨_, _⟩, stops, rfl⟩ := except_map_ok_iff.mp committed
      obtain ⟨rfl, _⟩ | ⟨_, _, _, _, _, _, rfl⟩ :=
        persistThreadStop_ok stops <;> rfl
  | reserveProfileHome reservation claims =>
      obtain ⟨⟨_, _⟩, reserves, rfl⟩ := except_map_ok_iff.mp committed
      obtain ⟨rfl, _⟩ | ⟨_, _, _, _, rfl⟩ :=
        reserveProfileHome_ok reserves <;> rfl
  | decideProfileHomeWithoutAuthority reservationId state actor reason decidedAtMs =>
      obtain ⟨⟨_, _⟩, decides, rfl⟩ := except_map_ok_iff.mp committed
      obtain ⟨rfl, _⟩ | ⟨_, _, _, _, _, _, rfl⟩ :=
        decideProfileHomeWithoutAuthority_ok decides <;> rfl
  | persistProfileHome reservationId authority confinement actor decidedAtMs =>
      obtain ⟨⟨_, _⟩, persists, rfl⟩ := except_map_ok_iff.mp committed
      obtain rfl | ⟨_, _, _, _, _, _, _, _, _, _, _, rfl⟩ :=
        persistProfileHome_ok persists <;> rfl
  | persistChildReturn | persistParentAnswer | admitThreadRunAndReserve
  | settleThreadRunDeliveries | discardThreadRunAdmission =>
      exact (commit_sameThreads rfl committed).approvals

theorem threadAuthorityRow_eq_some_iff {store : ServerStore}
    {threadId : String} {row : ThreadAuthorityRow} :
    store.threadAuthorityRow threadId = some row ↔
      row ∈ store.threadAuthorities ∧ row.threadId = threadId := by
  unfold threadAuthorityRow
  rw [UniqueTable.find?_eq_some_iff (.threadId threadId)]
  · simp
  · intro other selected
    rw [ThreadAuthorityRow.keys, beq_iff_eq.mp selected]
    exact List.mem_cons_self

theorem threadAuthorityRow_of_grow {before after : ServerStore}
    (grows : ThreadsGrow before after) {threadId : String}
    {row : ThreadAuthorityRow}
    (found : before.threadAuthorityRow threadId = some row) :
    after.threadAuthorityRow threadId = some row := by
  rw [threadAuthorityRow_eq_some_iff] at found ⊢
  exact ⟨grows.authorities row found.1, found.2⟩

/-- A thread that exists gets no further granted approval. -/
theorem commit_grantedSpawn {env : StoreEnv} {store after : ServerStore}
    {command : StoreCommand}
    (committed : command.commit env store = .ok after) {threadId : String}
    {row : ThreadAuthorityRow}
    (known : store.threadAuthorityRow threadId = some row) :
    after.grantedSpawn threadId = store.grantedSpawn threadId := by
  by_cases notSpawn : ∀ approval authority confinement,
      command ≠ .persistThreadSpawn approval authority confinement
  · rw [grantedSpawn, commit_sameApprovals committed notSpawn, grantedSpawn]
  push Not at notSpawn
  obtain ⟨approval, authority, confinement, rfl⟩ := notSpawn
  obtain ⟨⟨_, _⟩, persists, rfl⟩ := except_map_ok_iff.mp committed
  have unrelated : ∀ approvals, store.threadSpawnApprovals.insert? approval =
      some approvals →
      ¬(approval.threadId = threadId ∧ approval.decision = .granted) →
      approvals.rows.filter (fun row => row.threadId == threadId &&
          row.decision == .granted) =
        store.threadSpawnApprovals.rows.filter (fun row =>
          row.threadId == threadId && row.decision == .granted) := by
    intro approvals approved other
    rw [(UniqueTable.insert?_eq_some approved).1, List.filter_append]
    simpa using other
  obtain rfl | ⟨approvals, approved, ⟨refused, rfl⟩ |
    ⟨spawned, classification, authorities, _, spawns, rfl⟩⟩ :=
      persistThreadSpawn_ok persists
  · rfl
  · simp only [grantedSpawn]
    rw [unrelated approvals approved fun same => refused same.2]
  · simp only [grantedSpawn]
    rw [unrelated approvals approved]
    rintro ⟨sameThread, _⟩
    obtain ⟨member, rfl⟩ := threadAuthorityRow_eq_some_iff.mp known
    have separate := (UniqueTable.insert?_eq_some spawns.inserts.inserted).2
      row member (.threadId row.threadId) (by simp [ThreadAuthorityRow.keys])
    apply separate
    simp [ThreadAuthorityRow.keys, authorityRow, spawns.sameThread, sameThread]

theorem commit_childEdgeFrom {env : StoreEnv} {store after : ServerStore}
    {command : StoreCommand}
    (committed : command.commit env store = .ok after)
    {workspaceId childThreadId : String} {edge : SpawnEdge}
    (found : store.childEdgeFrom workspaceId childThreadId =
      .ok (some edge)) :
    after.childEdgeFrom workspaceId childThreadId = .ok (some edge) := by
  unfold childEdgeFrom at found ⊢
  cases known : store.threadAuthorityRow childThreadId with
  | none => simp [known] at found
  | some row =>
      rw [known] at found
      rw [threadAuthorityRow_of_grow (commit_threadsGrow committed) known,
        commit_grantedSpawn committed known]
      exact found

theorem commit_parentAnswerEdgeFrom {env : StoreEnv}
    {store after : ServerStore} {command : StoreCommand}
    (committed : command.commit env store = .ok after)
    {workspaceId parentThreadId childThreadId : String} {edge : SpawnEdge}
    (found : store.parentAnswerEdgeFrom workspaceId parentThreadId
      childThreadId = .ok (some edge)) :
    after.parentAnswerEdgeFrom workspaceId parentThreadId childThreadId =
      .ok (some edge) := by
  have grows := commit_threadsGrow committed
  unfold parentAnswerEdgeFrom at found ⊢
  cases parentKnown : store.threadAuthorityRow parentThreadId with
  | none => simp [parentKnown] at found
  | some parent =>
      cases childKnown : store.threadAuthorityRow childThreadId with
      | none => simp [parentKnown, childKnown] at found
      | some child =>
          rw [parentKnown, childKnown] at found
          rw [threadAuthorityRow_of_grow grows parentKnown,
            threadAuthorityRow_of_grow grows childKnown,
            commit_grantedSpawn committed childKnown]
          exact found

theorem commit_matchingThreadRun {env : StoreEnv} {store after : ServerStore}
    {command : StoreCommand}
    (committed : command.commit env store = .ok after)
    {runId workspaceId threadId : String} {profileId : ProfileId}
    {turnId : Option String} {admission : ThreadRunAdmission}
    (keeps : command ≠ .discardThreadRunAdmission runId)
    (found : store.matchingThreadRun runId workspaceId profileId threadId
      turnId = some admission) :
    after.matchingThreadRun runId workspaceId profileId threadId turnId =
      some admission := by
  rw [matchingThreadRun, Option.filter_eq_some_iff] at found ⊢
  obtain ⟨known, agrees⟩ := found
  obtain ⟨member, rfl⟩ := threadRunAdmissionById_eq_some_iff.mp known
  have kept := (commit_deliverySteps committed).1.mem_admissions member keeps
  exact ⟨threadRunAdmissionById_eq_some_iff.mpr ⟨kept, rfl⟩, agrees⟩

/-- The store holds the record with which it answers the draft. -/
structure AcknowledgesReturn (store : ServerStore) (draft : ChildReturnDraft)
    (edge : SpawnEdge) (profileRevision : UInt64) (row : ChildReturnRecord) :
    Prop where
  named : draft.messageId ≠ ""
  fits : draft.kind.isTerminal = false →
    draft.payload.utf8ByteSize ≤ maxChildReturnPayloadBytes
  edgeFrom : store.childEdgeFrom draft.workspaceId draft.childThreadId =
    .ok (some edge)
  admitted : store.returnRevision draft edge = some profileRevision
  durable : row ∈ store.childReturns
  terminal : draft.kind.isTerminal = true →
    row.spawnId = edge.spawnId ∧ row.kind.isTerminal = true
  nonterminal : draft.kind.isTerminal = false →
    row.messageId = draft.messageId ∧
      childReturnMatches row draft edge profileRevision
        (returnPayload draft).1 (returnPayload draft).2 = true

theorem terminalChildReturn_eq_some_iff {store : ServerStore}
    {spawnId : String} {row : ChildReturnRecord} :
    store.terminalChildReturn spawnId = some row ↔
      row ∈ store.childReturns ∧ row.spawnId = spawnId ∧
        row.kind.isTerminal = true := by
  unfold terminalChildReturn
  rw [UniqueTable.find?_eq_some_iff (.terminal spawnId)]
  · simp
  · intro other selected
    simp only [Bool.and_eq_true, beq_iff_eq] at selected
    simp [ChildReturnRecord.keys, selected]

theorem childReturnById_eq_some_iff {store : ServerStore}
    {messageId : String} {row : ChildReturnRecord} :
    store.childReturnById messageId = some row ↔
      row ∈ store.childReturns ∧ row.messageId = messageId := by
  unfold childReturnById
  rw [UniqueTable.find?_eq_some_iff (.messageId messageId)]
  · simp
  · intro other selected
    simp [ChildReturnRecord.keys, beq_iff_eq.mp selected]

theorem parentAnswerById_eq_some_iff {store : ServerStore}
    {messageId : String} {row : ParentAnswerRecord} :
    store.parentAnswerById messageId = some row ↔
      row ∈ store.parentAnswers ∧ row.messageId = messageId := by
  unfold parentAnswerById
  rw [UniqueTable.find?_eq_some_iff (.messageId messageId)]
  · simp
  · intro other selected
    simp [ParentAnswerRecord.keys, beq_iff_eq.mp selected]

theorem AcknowledgesReturn.replays {store : ServerStore}
    {draft : ChildReturnDraft} {edge : SpawnEdge} {profileRevision : UInt64}
    {row : ChildReturnRecord}
    (acknowledges : store.AcknowledgesReturn draft edge profileRevision row) :
    store.persistChildReturn draft = .ok (.replayed row, store) := by
  have fits : (!draft.kind.isTerminal && decide (maxChildReturnPayloadBytes <
      draft.payload.utf8ByteSize)) = false := by
    cases kind : draft.kind.isTerminal with
    | true => rfl
    | false => simpa using acknowledges.fits kind
  simp only [persistChildReturn, acknowledges.named, if_false, fits,
    Bool.false_eq_true, acknowledges.edgeFrom, acknowledges.admitted]
  cases kind : draft.kind.isTerminal with
  | true =>
      have found := terminalChildReturn_eq_some_iff.mpr
        ⟨acknowledges.durable, acknowledges.terminal kind⟩
      simp [storeChildReturn, kind, found]
  | false =>
      obtain ⟨sameId, agrees⟩ := acknowledges.nonterminal kind
      have found := childReturnById_eq_some_iff.mpr
        ⟨acknowledges.durable, sameId⟩
      simp [storeChildReturn, kind, found, agrees]

/-- A record that matches a draft answers it, whatever its kind. -/
theorem terminal_of_matches {draft : ChildReturnDraft} {edge : SpawnEdge}
    {profileRevision : UInt64} {row : ChildReturnRecord} {payload : String}
    {truncated : Bool}
    (agrees : childReturnMatches row draft edge profileRevision payload
      truncated = true) (isTerminal : draft.kind.isTerminal = true) :
    row.spawnId = edge.spawnId ∧ row.kind.isTerminal = true := by
  simp only [childReturnMatches, Bool.and_eq_true, beq_iff_eq] at agrees
  obtain ⟨⟨⟨⟨⟨⟨⟨⟨⟨⟨sameEdge, _⟩, _⟩, _⟩, _⟩, _⟩, sameKind⟩, _⟩, _⟩, _⟩, _⟩ :=
    agrees
  exact ⟨sameEdge, sameKind ▸ isTerminal⟩

theorem returnRow_matches (store : ServerStore) (draft : ChildReturnDraft)
    (edge : SpawnEdge) (profileRevision : UInt64) :
    childReturnMatches (store.returnRow draft edge profileRevision) draft edge
      profileRevision (returnPayload draft).1 (returnPayload draft).2 =
        true := by
  simp [childReturnMatches, returnRow]

/-- A draft that was stored or replayed is acknowledged from then on. -/
theorem acknowledgesReturn_of_persisted {store after : ServerStore}
    {draft : ChildReturnDraft} {result : PersistChildReturnResult}
    {row : ChildReturnRecord}
    (persists : store.persistChildReturn draft = .ok (result, after))
    (accepted : result = .stored row ∨ result = .replayed row) :
    ∃ edge profileRevision,
      after.AcknowledgesReturn draft edge profileRevision row := by
  unfold persistChildReturn at persists
  split at persists
  · cases persists
    simp at accepted
  next named =>
  split at persists
  · cases persists
    simp at accepted
  next fits =>
  split at persists
  · cases persists
  · cases persists
    simp at accepted
  next edge edgeFrom =>
  split at persists
  · cases persists
    simp at accepted
  next profileRevision admitted =>
  have small : draft.kind.isTerminal = false →
      draft.payload.utf8ByteSize ≤ maxChildReturnPayloadBytes := by
    intro nonterminal
    simpa [nonterminal] using fits
  refine ⟨edge, profileRevision, ?_⟩
  unfold storeChildReturn at persists
  split at persists
  next existing found =>
    cases persists
    obtain ⟨isTerminal, found⟩ : draft.kind.isTerminal = true ∧
        store.terminalChildReturn edge.spawnId = some existing := by
      simpa using found
    obtain rfl : existing = row := by simpa using accepted
    obtain ⟨durable, closes⟩ := terminalChildReturn_eq_some_iff.mp found
    exact ⟨named, small, edgeFrom, admitted, durable, fun _ => closes,
      fun nonterminal => by simp [isTerminal] at nonterminal⟩
  split at persists
  next existing found =>
    split at persists
    next agrees =>
      cases persists
      obtain rfl : existing = row := by simpa using accepted
      obtain ⟨durable, sameId⟩ := childReturnById_eq_some_iff.mp found
      exact ⟨named, small, edgeFrom, admitted, durable,
        terminal_of_matches agrees, fun _ => ⟨sameId, agrees⟩⟩
    next =>
      cases persists
      simp at accepted
  split at persists
  · cases persists
    simp at accepted
  split at persists
  · cases persists
    simp at accepted
  obtain ⟨childReturns, inserted, rfl, rfl⟩ := insertChildReturn_ok persists
  obtain rfl : store.returnRow draft edge profileRevision = row := by
    simpa using accepted
  have agrees := returnRow_matches store draft edge profileRevision
  exact ⟨named, small, edgeFrom, admitted,
    (UniqueTable.mem_insert? inserted).mpr (.inr rfl),
    terminal_of_matches agrees, fun _ => ⟨rfl, agrees⟩⟩

theorem commit_returnRevision {env : StoreEnv} {store after : ServerStore}
    {command : StoreCommand}
    (committed : command.commit env store = .ok after)
    {draft : ChildReturnDraft} {edge : SpawnEdge} {profileRevision : UInt64}
    (keeps : ∀ runId, draft.sourceRunId = some runId →
      command ≠ .discardThreadRunAdmission runId)
    (admitted : store.returnRevision draft edge = some profileRevision) :
    after.returnRevision draft edge = some profileRevision := by
  unfold returnRevision at admitted ⊢
  cases source : draft.sourceRunId with
  | none => simpa [source] using admitted
  | some runId =>
      simp only [source, Option.map_eq_some_iff] at admitted ⊢
      obtain ⟨admission, found, revision⟩ := admitted
      exact ⟨admission, commit_matchingThreadRun committed
        (keeps runId source) found, revision⟩

/-- The contents of a table only grow, so every record stays. -/
theorem commit_exists_return {env : StoreEnv} {store after : ServerStore}
    {command : StoreCommand}
    (committed : command.commit env store = .ok after)
    {row : ChildReturnRecord} (durable : row ∈ store.childReturns) :
    ∃ later ∈ after.childReturns,
      childReturnColumns.content later = childReturnColumns.content row := by
  obtain ⟨added, contents, _⟩ := (commit_extendsOpen committed).returns
  have member : childReturnColumns.content row ∈ after.returnContents := by
    rw [contents]
    exact List.mem_append_left _ (mem_returnContents durable)
  exact List.mem_map.mp member

theorem commit_exists_answer {env : StoreEnv} {store after : ServerStore}
    {command : StoreCommand}
    (committed : command.commit env store = .ok after)
    {row : ParentAnswerRecord} (durable : row ∈ store.parentAnswers) :
    ∃ later ∈ after.parentAnswers,
      parentAnswerColumns.content later = parentAnswerColumns.content row := by
  obtain ⟨added, contents, _⟩ := (commit_extendsOpen committed).answers
  have member : parentAnswerColumns.content row ∈ after.answerContents := by
    rw [contents]
    exact List.mem_append_left _ (mem_answerContents durable)
  exact List.mem_map.mp member

theorem AcknowledgesReturn.commit {env : StoreEnv}
    {store after : ServerStore} {draft : ChildReturnDraft} {edge : SpawnEdge}
    {profileRevision : UInt64} {row : ChildReturnRecord}
    (acknowledges : store.AcknowledgesReturn draft edge profileRevision row)
    {command : StoreCommand}
    (keeps : ∀ runId, draft.sourceRunId = some runId →
      command ≠ .discardThreadRunAdmission runId)
    (committed : command.commit env store = .ok after) :
    ∃ later, childReturnColumns.content later =
        childReturnColumns.content row ∧
      after.AcknowledgesReturn draft edge profileRevision later := by
  obtain ⟨later, durable, same⟩ :=
    commit_exists_return committed acknowledges.durable
  refine ⟨later, same, ?_⟩
  -- Everything but the delivery of the two records agrees.
  obtain ⟨delivery, rfl⟩ : ∃ delivery, later = { row with
      delivery := delivery } := by
    refine ⟨later.delivery, ?_⟩
    simp only [DeliveryColumns.content, childReturnColumns,
      ChildReturnRecord.mk.injEq] at same
    cases later
    cases row
    simpa using same
  exact
    { named := acknowledges.named
      fits := acknowledges.fits
      edgeFrom := commit_childEdgeFrom committed acknowledges.edgeFrom
      admitted := commit_returnRevision committed keeps acknowledges.admitted
      durable := durable
      terminal := acknowledges.terminal
      nonterminal := acknowledges.nonterminal }

theorem AcknowledgesReturn.afterCalls {env : StoreEnv} {store : ServerStore}
    {draft : ChildReturnDraft} {edge : SpawnEdge} {profileRevision : UInt64}
    {row : ChildReturnRecord}
    (acknowledges : store.AcknowledgesReturn draft edge profileRevision row)
    {calls : List StoreCall}
    (keeps : ∀ runId, draft.sourceRunId = some runId → ∀ call ∈ calls,
      call.command ≠ .discardThreadRunAdmission runId) :
    ∃ later, childReturnColumns.content later =
        childReturnColumns.content row ∧
      (store.afterCalls env calls).AcknowledgesReturn draft edge
        profileRevision later := by
  have kept : ∀ call ∈ calls, ∀ before after : ServerStore,
      (∃ later, childReturnColumns.content later =
          childReturnColumns.content row ∧
        before.AcknowledgesReturn draft edge profileRevision later) →
      call.command.commit env before = .ok after →
      ∃ later, childReturnColumns.content later =
          childReturnColumns.content row ∧
        after.AcknowledgesReturn draft edge profileRevision later := by
    rintro call member before after ⟨held, sameHeld, heldAcknowledges⟩
      committed
    obtain ⟨later, sameLater, laterAcknowledges⟩ := heldAcknowledges.commit
      (fun runId source => keeps runId source call member) committed
    exact ⟨later, sameLater.trans sameHeld, laterAcknowledges⟩
  exact afterCalls_invariant calls kept ⟨row, rfl, acknowledges⟩

/-- The store holds the answer with which it answers the draft. -/
structure AcknowledgesAnswer (store : ServerStore) (draft : ParentAnswerDraft)
    (edge : SpawnEdge) (admission : ThreadRunAdmission)
    (row : ParentAnswerRecord) : Prop where
  fits : draft.payload.utf8ByteSize ≤ maxChildReturnPayloadBytes
  edgeFrom : store.parentAnswerEdgeFrom draft.workspaceId
    draft.parentThreadId draft.childThreadId = .ok (some edge)
  admitted : store.matchingThreadRun draft.sourceRunId draft.workspaceId
    edge.profileId draft.parentThreadId (some draft.sourceTurnId) =
      some admission
  durable : row ∈ store.parentAnswers
  sameId : row.messageId = draft.messageId
  agrees : parentAnswerMatches row draft edge admission.profileRevision = true

theorem AcknowledgesAnswer.replays {store : ServerStore}
    {draft : ParentAnswerDraft} {edge : SpawnEdge}
    {admission : ThreadRunAdmission} {row : ParentAnswerRecord}
    (acknowledges : store.AcknowledgesAnswer draft edge admission row) :
    store.persistParentAnswer draft = .ok (.replayed row, store) := by
  have found := parentAnswerById_eq_some_iff.mpr
    ⟨acknowledges.durable, acknowledges.sameId⟩
  simp [persistParentAnswer, Nat.not_lt.mpr acknowledges.fits,
    acknowledges.edgeFrom, acknowledges.admitted, storeParentAnswer, found,
    acknowledges.agrees]

theorem acknowledgesAnswer_of_persisted {store after : ServerStore}
    {draft : ParentAnswerDraft} {result : PersistParentAnswerResult}
    {row : ParentAnswerRecord}
    (persists : store.persistParentAnswer draft = .ok (result, after))
    (accepted : result = .stored row ∨ result = .replayed row) :
    ∃ edge admission,
      after.AcknowledgesAnswer draft edge admission row := by
  unfold persistParentAnswer at persists
  split at persists
  · cases persists
    simp at accepted
  next fits =>
  split at persists
  · cases persists
  · cases persists
    simp at accepted
  next edge edgeFrom =>
  split at persists
  · cases persists
    simp at accepted
  next admission admitted =>
  refine ⟨edge, admission, ?_⟩
  unfold storeParentAnswer at persists
  split at persists
  next existing found =>
    split at persists
    next agrees =>
      cases persists
      obtain rfl : existing = row := by simpa using accepted
      obtain ⟨durable, sameId⟩ := parentAnswerById_eq_some_iff.mp found
      exact ⟨Nat.not_lt.mp fits, edgeFrom, admitted, durable, sameId, agrees⟩
    next =>
      cases persists
      simp at accepted
  split at persists
  · cases persists
    simp at accepted
  split at persists
  · cases persists
    simp at accepted
  obtain ⟨parentAnswers, inserted, rfl, rfl⟩ := insertParentAnswer_ok persists
  obtain rfl : store.answerRow draft edge admission.profileRevision = row := by
    simpa using accepted
  exact ⟨Nat.not_lt.mp fits, edgeFrom, admitted,
    (UniqueTable.mem_insert? inserted).mpr (.inr rfl), rfl,
    by simp [parentAnswerMatches, answerRow]⟩

theorem AcknowledgesAnswer.afterCalls {env : StoreEnv} {store : ServerStore}
    {draft : ParentAnswerDraft} {edge : SpawnEdge}
    {admission : ThreadRunAdmission} {row : ParentAnswerRecord}
    (acknowledges : store.AcknowledgesAnswer draft edge admission row)
    {calls : List StoreCall}
    (keeps : ∀ call ∈ calls,
      call.command ≠ .discardThreadRunAdmission draft.sourceRunId) :
    ∃ later, parentAnswerColumns.content later =
        parentAnswerColumns.content row ∧
      (store.afterCalls env calls).AcknowledgesAnswer draft edge admission
        later := by
  have kept : ∀ call ∈ calls, ∀ before after : ServerStore,
      (∃ later, parentAnswerColumns.content later =
          parentAnswerColumns.content row ∧
        before.AcknowledgesAnswer draft edge admission later) →
      call.command.commit env before = .ok after →
      ∃ later, parentAnswerColumns.content later =
          parentAnswerColumns.content row ∧
        after.AcknowledgesAnswer draft edge admission later := by
    rintro call member before after ⟨held, sameHeld, acknowledged⟩ committed
    obtain ⟨later, durable, same⟩ :=
      commit_exists_answer committed acknowledged.durable
    refine ⟨later, same.trans sameHeld, ?_⟩
    obtain ⟨delivery, rfl⟩ : ∃ delivery, later = { held with
        delivery := delivery } := by
      refine ⟨later.delivery, ?_⟩
      simp only [DeliveryColumns.content, parentAnswerColumns,
        ParentAnswerRecord.mk.injEq] at same
      cases later
      cases held
      simpa using same
    exact
      { fits := acknowledged.fits
        edgeFrom := commit_parentAnswerEdgeFrom committed acknowledged.edgeFrom
        admitted := commit_matchingThreadRun committed (keeps call member)
          acknowledged.admitted
        durable := durable
        sameId := acknowledged.sameId
        agrees := acknowledged.agrees }
  exact afterCalls_invariant calls kept ⟨row, rfl, acknowledges⟩

/-- The `CHECK` constraints and the admission trigger hold of every stored
authority. -/
def SchemaChecked (store : ServerStore) : Prop :=
  ∀ row ∈ store.threadAuthorities, authorityCheck row = true ∧
    (row.threadKind = .child → row.parentThreadId.isSome = true)

theorem InsertsAuthority.schemaChecked {store after : ServerStore}
    {row : ThreadAuthorityRow}
    (inserts : store.InsertsAuthority row after.threadAuthorities)
    (checked : store.SchemaChecked) : after.SchemaChecked := by
  intro other member
  obtain member | rfl := (UniqueTable.mem_insert? inserts.inserted).mp member
  · exact checked other member
  · refine ⟨inserts.checked, fun isChild => ?_⟩
    have admitted := inserts.admitted (by simp [isChild])
    simp only [profileAdmission, Bool.and_eq_true, Bool.or_eq_true] at admitted
    simpa [isChild] using admitted.2.elim (by simp [isChild])
      fun parent => parent.1.1

theorem commit_schemaChecked {env : StoreEnv} {store after : ServerStore}
    {command : StoreCommand}
    (committed : command.commit env store = .ok after)
    (checked : store.SchemaChecked) : after.SchemaChecked := by
  obtain same | ⟨_, _, _, spawns⟩ | ⟨_, _, _, _, _, _, _, _, grants⟩ :=
    commit_threadAuthorities committed
  · intro row member
    exact checked row (same ▸ member)
  · exact spawns.inserts.schemaChecked checked
  · exact grants.inserts.schemaChecked checked

theorem schemaChecked_afterCalls {env : StoreEnv} {start : ServerStore}
    (checked : start.SchemaChecked) (calls : List StoreCall) :
    (start.afterCalls env calls).SchemaChecked := by
  apply afterCalls_invariant calls _ checked
  intro call _ store after held committed
  exact commit_schemaChecked committed held

/-- A checked row of a home or child has all columns of an edge. -/
theorem edgeOf_ok {row : ThreadAuthorityRow} {parentThreadId : Option String}
    (checked : authorityCheck row = true) (profiled : row.threadKind ≠ .legacy)
    (hasParent : parentThreadId.isSome = true)
    (spawn : ThreadSpawnApprovalRecord) :
    ∃ edge, edgeOf spawn row parentThreadId = .ok edge := by
  obtain ⟨parent, rfl⟩ := Option.isSome_iff_exists.mp hasParent
  simp only [authorityCheck, profiled, if_false, Bool.and_eq_true] at checked
  obtain ⟨revisions, _, hasProfile⟩ := checked
  obtain ⟨profileId, isProfile⟩ := Option.isSome_iff_exists.mp hasProfile
  cases isRevision : row.profileRevision with
  | none => simp [isProfile, isRevision] at revisions
  | some profileRevision => simp [edgeOf, isProfile, isRevision]

theorem childEdgeFrom_ok {store : ServerStore} (checked : store.SchemaChecked)
    (workspaceId childThreadId : String) :
    ∃ found, store.childEdgeFrom workspaceId childThreadId = .ok found := by
  unfold childEdgeFrom
  split
  next child spawn known _ =>
    split
    next isChild =>
      obtain ⟨member, _⟩ := threadAuthorityRow_eq_some_iff.mp known
      obtain ⟨edge, isEdge⟩ := edgeOf_ok (checked child member).1
        (by simp [isChild.2]) ((checked child member).2 isChild.2) spawn
      exact ⟨some edge, by simp [isEdge, Except.map]⟩
    next => exact ⟨none, rfl⟩
  next => exact ⟨none, rfl⟩

theorem parentAnswerEdgeFrom_ok {store : ServerStore}
    (checked : store.SchemaChecked)
    (workspaceId parentThreadId childThreadId : String) :
    ∃ found, store.parentAnswerEdgeFrom workspaceId parentThreadId
      childThreadId = .ok found := by
  unfold parentAnswerEdgeFrom
  split
  next parent child spawn parentKnown _ _ =>
    split
    next related =>
      obtain ⟨member, _⟩ := threadAuthorityRow_eq_some_iff.mp parentKnown
      have hasParent : child.parentThreadId.isSome = true := by
        simp [related.1]
      obtain ⟨edge, isEdge⟩ := edgeOf_ok (checked parent member).1
        related.2.2.2.2.2.1 hasParent spawn
      exact ⟨some edge, by simp [isEdge, Except.map]⟩
    next => exact ⟨none, rfl⟩
  next => exact ⟨none, rfl⟩

/-- The stored return is what the draft says. -/
def SameReturn (row : ChildReturnRecord) (draft : ChildReturnDraft) : Prop :=
  row.childThreadId = draft.childThreadId ∧
    row.sourceRunId = draft.sourceRunId ∧
    row.sourceTurnId = draft.sourceTurnId ∧ row.kind = draft.kind ∧
    row.payload = (returnPayload draft).1 ∧
    row.artifactRefs = draft.artifactRefs ∧
    row.truncated = (returnPayload draft).2

/-- The stored answer is what the draft says. -/
def SameAnswer (row : ParentAnswerRecord) (draft : ParentAnswerDraft) : Prop :=
  row.parentThreadId = draft.parentThreadId ∧
    row.childThreadId = draft.childThreadId ∧
    row.sourceRunId = draft.sourceRunId ∧
    row.sourceTurnId = draft.sourceTurnId ∧ row.kind = draft.kind ∧
    row.payload = draft.payload

theorem sameReturn_of_matches {row : ChildReturnRecord}
    {draft : ChildReturnDraft} {edge : SpawnEdge} {profileRevision : UInt64}
    (agrees : childReturnMatches row draft edge profileRevision
      (returnPayload draft).1 (returnPayload draft).2 = true) :
    SameReturn row draft := by
  simp only [childReturnMatches, Bool.and_eq_true, beq_iff_eq] at agrees
  unfold SameReturn
  tauto

theorem sameAnswer_of_matches {row : ParentAnswerRecord}
    {draft : ParentAnswerDraft} {edge : SpawnEdge} {profileRevision : UInt64}
    (agrees : parentAnswerMatches row draft edge profileRevision = true) :
    SameAnswer row draft := by
  simp only [parentAnswerMatches, Bool.and_eq_true, beq_iff_eq] at agrees
  unfold SameAnswer
  tauto

/-- A message name that was used for something else is rejected; a terminal
draft is answered with the terminal return of its edge, if there is one. -/
theorem persistChildReturn_of_conflict {store : ServerStore}
    (checked : store.SchemaChecked) {draft : ChildReturnDraft}
    {row : ChildReturnRecord} (durable : row ∈ store.childReturns)
    (sameId : row.messageId = draft.messageId)
    (different : ¬SameReturn row draft) :
    (∃ code reason, store.persistChildReturn draft =
        .ok (.rejected code reason, store)) ∨
      draft.kind.isTerminal = true ∧ ∃ edge existing,
        store.childEdgeFrom draft.workspaceId draft.childThreadId =
          .ok (some edge) ∧
        store.terminalChildReturn edge.spawnId = some existing ∧
        store.persistChildReturn draft = .ok (.replayed existing, store) := by
  have found := childReturnById_eq_some_iff.mpr ⟨durable, sameId⟩
  have mismatch (edge : SpawnEdge) (profileRevision : UInt64) :
      childReturnMatches row draft edge profileRevision
        (returnPayload draft).1 (returnPayload draft).2 = false := by
    rw [← Bool.not_eq_true]
    exact fun agrees => different (sameReturn_of_matches agrees)
  obtain ⟨edge?, edgeFrom⟩ := childEdgeFrom_ok checked draft.workspaceId
    draft.childThreadId
  unfold persistChildReturn
  split
  · exact .inl ⟨_, _, rfl⟩
  split
  · exact .inl ⟨_, _, rfl⟩
  rw [edgeFrom]
  cases edge? with
  | none => exact .inl ⟨_, _, rfl⟩
  | some edge =>
      simp only
      cases store.returnRevision draft edge with
      | none => exact .inl ⟨_, _, rfl⟩
      | some profileRevision =>
          simp only [storeChildReturn, found, mismatch]
          split
          next existing terminal =>
            obtain ⟨isTerminal, terminal⟩ : draft.kind.isTerminal = true ∧
                store.terminalChildReturn edge.spawnId = some existing := by
              simpa using terminal
            exact .inr ⟨isTerminal, edge, existing, rfl, terminal, rfl⟩
          next => exact .inl ⟨_, _, rfl⟩

theorem persistParentAnswer_of_conflict {store : ServerStore}
    (checked : store.SchemaChecked) {draft : ParentAnswerDraft}
    {row : ParentAnswerRecord} (durable : row ∈ store.parentAnswers)
    (sameId : row.messageId = draft.messageId)
    (different : ¬SameAnswer row draft) :
    ∃ code reason, store.persistParentAnswer draft =
      .ok (.rejected code reason, store) := by
  have found := parentAnswerById_eq_some_iff.mpr ⟨durable, sameId⟩
  have mismatch (edge : SpawnEdge) (profileRevision : UInt64) :
      parentAnswerMatches row draft edge profileRevision = false := by
    rw [← Bool.not_eq_true]
    exact fun agrees => different (sameAnswer_of_matches agrees)
  obtain ⟨edge?, edgeFrom⟩ := parentAnswerEdgeFrom_ok checked
    draft.workspaceId draft.parentThreadId draft.childThreadId
  unfold persistParentAnswer
  split
  · exact ⟨_, _, rfl⟩
  rw [edgeFrom]
  cases edge? with
  | none => exact ⟨_, _, rfl⟩
  | some edge =>
      simp only
      split
      · exact ⟨_, _, rfl⟩
      · simp [storeParentAnswer, found, mismatch]

/-- What a stored terminal return keeps of its payload. -/
theorem terminal_payload_of_stored {store after : ServerStore}
    {draft : ChildReturnDraft} {record : ChildReturnRecord}
    (persists : store.persistChildReturn draft = .ok (.stored record, after))
    (isTerminal : draft.kind.isTerminal = true) :
    record.payload =
        (truncateUtf8Bytes draft.payload maxChildReturnPayloadBytes).1 ∧
      record.truncated =
        (truncateUtf8Bytes draft.payload maxChildReturnPayloadBytes).2 := by
  obtain ⟨_, unstored⟩ | ⟨edge, profileRevision, _, _, stored, _⟩ :=
    persistChildReturn_ok persists
  · exact absurd rfl (unstored record)
  · cases stored
    simp [returnRow, returnPayload, isTerminal]

/-- In every run from a store without messages: an edge has at most one
terminal return; nothing is added to a closed edge, and no answer to a stopped
child; a parent never has more than the allowed number of unconsumed
nonterminal returns; an accepted draft is replayed while its source run keeps
its admission; a name that was used for something else is rejected, except that
a terminal draft is answered with the terminal return of its edge; and a
terminal payload is cut to the longest prefix that fits. -/
theorem message_edges_contract (env : StoreEnv) (start : ServerStore)
    (checked : start.SchemaChecked) (noReturns : start.childReturns = .empty)
    (calls : List StoreCall) :
    let store := start.afterCalls env calls
    (∀ first ∈ store.childReturns, ∀ second ∈ store.childReturns,
      first.spawnId = second.spawnId → first.kind.isTerminal = true →
      second.kind.isTerminal = true → first = second) ∧
    (∀ later, ∃ returns answers,
      (store.afterCalls env later).returnContents =
        store.returnContents ++ returns ∧
      (∀ row ∈ returns, ¬store.Terminal row.spawnId) ∧
      (store.afterCalls env later).answerContents =
        store.answerContents ++ answers ∧
      ∀ row ∈ answers, ¬store.Terminal row.spawnId ∧
        store.threadStop row.childThreadId = none) ∧
    (∀ parentThreadId, store.pendingNonterminal parentThreadId ≤
      maxUnconsumedNonterminalReturns) ∧
    (∀ draft result record after,
      store.persistChildReturn draft = .ok (result, after) →
      result = .stored record ∨ result = .replayed record →
      ∀ later, (∀ runId, draft.sourceRunId = some runId → ∀ call ∈ later,
          call.command ≠ .discardThreadRunAdmission runId) →
        ∃ replayed, childReturnColumns.content replayed =
            childReturnColumns.content record ∧
          (after.afterCalls env later).persistChildReturn draft =
            .ok (.replayed replayed, after.afterCalls env later)) ∧
    (∀ draft result record after,
      store.persistParentAnswer draft = .ok (result, after) →
      result = .stored record ∨ result = .replayed record →
      ∀ later, (∀ call ∈ later,
          call.command ≠ .discardThreadRunAdmission draft.sourceRunId) →
        ∃ replayed, parentAnswerColumns.content replayed =
            parentAnswerColumns.content record ∧
          (after.afterCalls env later).persistParentAnswer draft =
            .ok (.replayed replayed, after.afterCalls env later)) ∧
    (∀ draft, ∀ row ∈ store.childReturns,
      row.messageId = draft.messageId → ¬SameReturn row draft →
      (∃ code reason, store.persistChildReturn draft =
          .ok (.rejected code reason, store)) ∨
        draft.kind.isTerminal = true ∧ ∃ edge existing,
          store.childEdgeFrom draft.workspaceId draft.childThreadId =
            .ok (some edge) ∧
          store.terminalChildReturn edge.spawnId = some existing ∧
          store.persistChildReturn draft = .ok (.replayed existing, store)) ∧
    (∀ draft, ∀ row ∈ store.parentAnswers,
      row.messageId = draft.messageId → ¬SameAnswer row draft →
      ∃ code reason, store.persistParentAnswer draft =
        .ok (.rejected code reason, store)) ∧
    ∀ draft record after,
      store.persistChildReturn draft = .ok (.stored record, after) →
      draft.kind.isTerminal = true →
      record.payload.toList <+: draft.payload.toList ∧
      record.payload.utf8ByteSize ≤ maxChildReturnPayloadBytes ∧
      (∀ start, start <+: draft.payload.toList →
        String.utf8Len start ≤ maxChildReturnPayloadBytes →
        start <+: record.payload.toList) ∧
      (record.truncated = true ↔ record.payload ≠ draft.payload) := by
  intro store
  have storeChecked : store.SchemaChecked :=
    schemaChecked_afterCalls checked calls
  refine ⟨?_, ?_, ?_, ?_, ?_, ?_, ?_, ?_⟩
  · intro first firstMember second secondMember sameEdge firstTerminal
      secondTerminal
    exact UniqueTable.eq_of_shared_key firstMember secondMember
      (.terminal first.spawnId) (by simp [ChildReturnRecord.keys, firstTerminal])
      (by simp [ChildReturnRecord.keys, secondTerminal, sameEdge])
  · intro later
    obtain ⟨⟨returns, returnsAdded, returnsOpen⟩, answers, answersAdded,
      answersOpen⟩ := afterCalls_extendsOpen env store later
    exact ⟨returns, answers, returnsAdded, returnsOpen, answersAdded,
      answersOpen⟩
  · exact pendingNonterminal_afterCalls_le env noReturns calls
  · intro draft result record after persists accepted later keeps
    obtain ⟨edge, profileRevision, acknowledges⟩ :=
      acknowledgesReturn_of_persisted persists accepted
    obtain ⟨replayed, same, held⟩ := acknowledges.afterCalls keeps
    exact ⟨replayed, same, held.replays⟩
  · intro draft result record after persists accepted later keeps
    obtain ⟨edge, admission, acknowledges⟩ :=
      acknowledgesAnswer_of_persisted persists accepted
    obtain ⟨replayed, same, held⟩ := acknowledges.afterCalls keeps
    exact ⟨replayed, same, held.replays⟩
  · intro draft row durable sameId different
    exact persistChildReturn_of_conflict storeChecked durable sameId different
  · intro draft row durable sameId different
    exact persistParentAnswer_of_conflict storeChecked durable sameId different
  · intro draft record after persists isTerminal
    obtain ⟨payload, truncated⟩ :=
      terminal_payload_of_stored persists isTerminal
    rw [payload, truncated]
    exact truncateUtf8Bytes_spec draft.payload maxChildReturnPayloadBytes

theorem sampleStore_schemaChecked : sampleStore.SchemaChecked := by
  have rows : ∀ row ∈ sampleStore.threadAuthorities.rows,
      authorityCheck row = true ∧
        (row.threadKind = .child → row.parentThreadId.isSome = true) := by
    decide
  exact rows

/-- A progress message is handed to a run of the parent and consumed, and then
the child reports its outcome. -/
def sampleOutcome : List StoreCall :=
  [⟨1, .admitThreadRunAndReserve (sampleAdmission "run") ["message"] []⟩,
    ⟨1, .settleThreadRunDeliveries "run" true 4⟩,
    ⟨2, .persistChildReturn { sampleReturn "done" with kind := .result }⟩]

theorem sampleOutcome_rows :
    ∃ row terminal,
      (sampleStore.afterCalls sampleStoreEnv (⟨0, .persistChildReturn
        (sampleReturn "message")⟩ :: sampleOutcome)).childReturnById "message" =
          some row ∧
      row.payload = "halfway" ∧
      (sampleStore.afterCalls sampleStoreEnv (⟨0, .persistChildReturn
        (sampleReturn "message")⟩ :: sampleOutcome)).childReturnById "done" =
          some terminal ∧
      terminal.kind.isTerminal = true ∧ terminal.spawnId = "spawn" :=
  ⟨_, _, rfl, rfl, rfl, rfl, rfl⟩

/-- The stored message is still replayed after that, its name is rejected for
another payload, and the closed edge takes nothing more. -/
theorem message_edges_contract_sample :
    ∃ record stored last,
      sampleStore.persistChildReturn (sampleReturn "message") =
        .ok (.stored record, stored) ∧
      stored.afterCalls sampleStoreEnv sampleOutcome = last ∧
      (∃ replayed, childReturnColumns.content replayed =
          childReturnColumns.content record ∧
        last.persistChildReturn (sampleReturn "message") =
          .ok (.replayed replayed, last)) ∧
      (∃ code reason, last.persistChildReturn
          { sampleReturn "message" with payload := "other" } =
        .ok (.rejected code reason, last)) ∧
      ∀ later, ∃ returns,
        (last.afterCalls sampleStoreEnv later).returnContents =
          last.returnContents ++ returns ∧
        ∀ row ∈ returns, row.spawnId ≠ "spawn" := by
  obtain ⟨record, stored, persists⟩ : ∃ record stored,
      sampleStore.persistChildReturn (sampleReturn "message") =
        .ok (.stored record, stored) := ⟨_, _, rfl⟩
  have contract := message_edges_contract sampleStoreEnv sampleStore
    sampleStore_schemaChecked rfl
  obtain ⟨row, terminal, found, payload, foundTerminal, isOutcome, edge⟩ :=
    sampleOutcome_rows
  obtain ⟨-, grows, -, -, -, conflicts, -, -⟩ :=
    contract (⟨0, .persistChildReturn (sampleReturn "message")⟩ :: sampleOutcome)
  have reported : sampleStore.afterCall sampleStoreEnv
      ⟨0, .persistChildReturn (sampleReturn "message")⟩ = stored :=
    afterCall_of_commit
      (by simp only [StoreCommand.commit, persists, Except.map])
  rw [afterCalls_cons, reported] at grows conflicts found foundTerminal
  obtain ⟨member, sameId⟩ := childReturnById_eq_some_iff.mp found
  obtain ⟨memberTerminal, -⟩ := childReturnById_eq_some_iff.mp foundTerminal
  refine ⟨record, stored, _, persists, rfl, ?_, ?_, ?_⟩
  · exact (contract []).2.2.2.1 _ _ _ _ persists (.inl rfl) sampleOutcome
      (by rintro runId ⟨⟩)
  · have different : ¬SameReturn row
        { sampleReturn "message" with payload := "other" } := by
      rintro ⟨-, -, -, -, same, -, -⟩
      rw [payload] at same
      revert same
      decide
    rcases conflicts { sampleReturn "message" with payload := "other" } row
      member sameId different with rejected | ⟨isTerminal, -⟩
    · exact rejected
    · cases isTerminal
  · intro later
    obtain ⟨returns, -, added, opened, -⟩ := grows later
    refine ⟨returns, added, fun late isLate sameEdge => ?_⟩
    exact opened late isLate ⟨terminal, memberTerminal, edge.trans
      sameEdge.symm, isOutcome⟩

/-- An equal draft is rejected once its source run was discarded, and a
terminal draft that reuses a name with another payload is not rejected. -/
theorem replay_and_conflict_exceptions :
    let worker : ThreadRunAdmission :=
      { sampleAdmission "work" with threadId := "child" }
    let note : ChildReturnDraft :=
      { sampleReturn "note" with
        sourceRunId := some "work", sourceTurnId := some "turn" }
    let admitted := sampleStore.afterCalls sampleStoreEnv
      [⟨0, .admitThreadRunAndReserve worker [] []⟩]
    let discarded := admitted.afterCalls sampleStoreEnv
      [⟨0, .persistChildReturn note⟩, ⟨0, .discardThreadRunAdmission "work"⟩]
    let outcome : ChildReturnDraft := { sampleReturn "done" with kind := .result }
    let finished := sampleStore.afterCalls sampleStoreEnv
      [⟨0, .persistChildReturn outcome⟩]
    (admitted.persistChildReturn note).map (·.1) =
        .ok (.stored (admitted.returnRow note
          ⟨"spawn", sampleProfile, 1, "home"⟩ 1)) ∧
      discarded.persistChildReturn note = .ok (.rejected "source_denied"
        "child return source run is not admitted for this child",
        discarded) ∧
      ∃ existing, finished.childReturnById "done" = some existing ∧
        existing.payload = "halfway" ∧
        finished.persistChildReturn { outcome with payload := "other" } =
          .ok (.replayed existing, finished) :=
  ⟨rfl, rfl, _, rfl, rfl, rfl⟩

end ServerStore

end PlatoAgent
