import PlatoAgent.StoreMessages

/-!
# Runs of the server store

Connections call the methods of the store in any order.  Every method is one
immediate transaction, so a run is the list of the calls in the order in which
their transactions commit, and a call that fails leaves the store as it was.
For each method one lemma says what it does when it succeeds; the facts about
whole runs follow from these.
-/

namespace PlatoAgent

inductive StoreCommand where
  | persistThreadSpawn (approval : ThreadSpawnApprovalRecord)
      (authority : Option ThreadAuthorityRecord)
      (confinement : Option ThreadConfinement)
  | claimThreadBranches (workspaceId threadId : String)
      (claims : List (String × String)) (claimedAtMs : UInt64)
  | releaseThreadClaims (threadId : String)
  | persistThreadStop (stop : ThreadStopRecord)
  | reserveProfileHome (reservation : HomeReservationRecord)
      (claims : List (String × String))
  | decideProfileHomeWithoutAuthority (reservationId : String)
      (state : HomeReservationState) (actor : String) (reason : Option String)
      (decidedAtMs : UInt64)
  | persistProfileHome (reservationId : String)
      (authority : ThreadAuthorityRecord) (confinement : ThreadConfinement)
      (actor : String) (decidedAtMs : UInt64)
  | persistChildReturn (draft : ChildReturnDraft)
  | persistParentAnswer (draft : ParentAnswerDraft)
  | admitThreadRunAndReserve (admission : ThreadRunAdmission)
      (childReturnIds parentAnswerIds : List String)
  | settleThreadRunDeliveries (runId : String) (consumed : Bool)
      (atMs : UInt64)
  | discardThreadRunAdmission (runId : String)

/-- The store that a successful call commits. -/
def StoreCommand.commit (env : StoreEnv) (store : ServerStore) :
    StoreCommand → Except AppError ServerStore
  | .persistThreadSpawn approval authority confinement =>
      (store.persistThreadSpawn env approval authority confinement).map (·.2)
  | .claimThreadBranches workspaceId threadId claims claimedAtMs =>
      (store.claimThreadBranches workspaceId threadId claims claimedAtMs).map
        (·.2)
  | .releaseThreadClaims threadId =>
      (store.releaseThreadClaims threadId).map (·.2)
  | .persistThreadStop stop => (store.persistThreadStop stop).map (·.2)
  | .reserveProfileHome reservation claims =>
      (store.reserveProfileHome reservation claims).map (·.2)
  | .decideProfileHomeWithoutAuthority reservationId state actor reason
      decidedAtMs =>
      (store.decideProfileHomeWithoutAuthority reservationId state actor reason
        decidedAtMs).map (·.2)
  | .persistProfileHome reservationId authority confinement actor
      decidedAtMs =>
      (store.persistProfileHome env reservationId authority confinement actor
        decidedAtMs).map (·.2)
  | .persistChildReturn draft => (store.persistChildReturn draft).map (·.2)
  | .persistParentAnswer draft => (store.persistParentAnswer draft).map (·.2)
  | .admitThreadRunAndReserve admission childReturnIds parentAnswerIds =>
      (store.admitThreadRunAndReserve admission childReturnIds
        parentAnswerIds).map (·.2)
  | .settleThreadRunDeliveries runId consumed atMs =>
      (store.settleThreadRunDeliveries runId consumed atMs).map (·.2)
  | .discardThreadRunAdmission runId =>
      (store.discardThreadRunAdmission runId).map (·.2)

/-- One call of one connection. -/
structure StoreCall where
  connection : Nat
  command : StoreCommand

namespace ServerStore

/-- A failed transaction is rolled back. -/
def afterCall (env : StoreEnv) (store : ServerStore) (call : StoreCall) :
    ServerStore :=
  match call.command.commit env store with
  | .ok after => after
  | .error _ => store

def afterCalls (env : StoreEnv) (store : ServerStore)
    (calls : List StoreCall) : ServerStore :=
  calls.foldl (afterCall env) store

@[simp]
theorem afterCalls_nil (env : StoreEnv) (store : ServerStore) :
    store.afterCalls env [] = store :=
  rfl

@[simp]
theorem afterCalls_cons (env : StoreEnv) (store : ServerStore)
    (call : StoreCall) (calls : List StoreCall) :
    store.afterCalls env (call :: calls) =
      (store.afterCall env call).afterCalls env calls :=
  rfl

theorem afterCalls_append (env : StoreEnv) (store : ServerStore)
    (first second : List StoreCall) :
    store.afterCalls env (first ++ second) =
      (store.afterCalls env first).afterCalls env second := by
  simp [afterCalls]

theorem afterCall_of_commit {env : StoreEnv} {store after : ServerStore}
    {call : StoreCall} (committed : call.command.commit env store = .ok after) :
    store.afterCall env call = after := by
  simp [afterCall, committed]

theorem afterCall_invariant {env : StoreEnv} {holds : ServerStore → Prop}
    {call : StoreCall} {store : ServerStore}
    (kept : ∀ after, call.command.commit env store = .ok after → holds after)
    (initial : holds store) : holds (store.afterCall env call) := by
  unfold afterCall
  split
  next after committed => exact kept after committed
  next => exact initial

/-- What every commit of a run keeps holds after the run. -/
theorem afterCalls_invariant {env : StoreEnv} {holds : ServerStore → Prop}
    (calls : List StoreCall)
    (kept : ∀ call ∈ calls, ∀ store after, holds store →
      call.command.commit env store = .ok after → holds after)
    {store : ServerStore} (initial : holds store) :
    holds (store.afterCalls env calls) := by
  induction calls generalizing store with
  | nil => exact initial
  | cons call calls ih =>
      rw [afterCalls_cons]
      apply ih fun later member => kept later (List.mem_cons_of_mem _ member)
      apply afterCall_invariant _ initial
      intro after committed
      exact kept call List.mem_cons_self store after initial committed

end ServerStore

theorem except_map_ok_iff {Failure First Second : Type}
    {outcome : Except Failure First} {change : First → Second}
    {result : Second} :
    outcome.map change = .ok result ↔
      ∃ first, outcome = .ok first ∧ change first = result := by
  cases outcome <;> simp [Except.map]

namespace ServerStore

/-- A child return that passed every check and is inserted. -/
structure InsertsReturn (store : ServerStore) (draft : ChildReturnDraft)
    (edge : SpawnEdge) (profileRevision : UInt64)
    (childReturns : UniqueTable ChildReturnRecord ReturnKey
      ChildReturnRecord.keys) : Prop where
  named : draft.messageId ≠ ""
  edgeFrom : store.childEdgeFrom draft.workspaceId draft.childThreadId =
    .ok (some edge)
  admitted : store.returnRevision draft edge = some profileRevision
  fresh : store.childReturnById draft.messageId = none
  isOpen : store.terminalChildReturn edge.spawnId = none
  room : draft.kind.isTerminal = false →
    store.pendingNonterminal edge.parentThreadId <
      maxUnconsumedNonterminalReturns
  inserted : store.childReturns.insert?
    (store.returnRow draft edge profileRevision) = some childReturns

theorem insertChildReturn_ok {store after : ServerStore}
    {draft : ChildReturnDraft} {edge : SpawnEdge} {profileRevision : UInt64}
    {result : PersistChildReturnResult}
    (inserts : store.insertChildReturn draft edge profileRevision =
      .ok (result, after)) :
    ∃ childReturns, store.childReturns.insert?
        (store.returnRow draft edge profileRevision) = some childReturns ∧
      result = .stored (store.returnRow draft edge profileRevision) ∧
      after = { store with
        childReturns := childReturns
        lastReturnSequence := store.lastReturnSequence + 1 } := by
  simp only [insertChildReturn, except_bind_ok_iff, insertRow_ok_iff] at inserts
  obtain ⟨_, _, _, _, _, _, childReturns, inserted, committed⟩ := inserts
  cases committed
  exact ⟨childReturns, inserted, rfl, rfl⟩

/-- A child return is rejected or replayed with nothing changed, or stored as
a new row. -/
theorem persistChildReturn_ok {store after : ServerStore}
    {draft : ChildReturnDraft} {result : PersistChildReturnResult}
    (persists : store.persistChildReturn draft = .ok (result, after)) :
    (after = store ∧ ∀ record, result ≠ .stored record) ∨
      ∃ edge profileRevision childReturns,
        store.InsertsReturn draft edge profileRevision childReturns ∧
        result = .stored (store.returnRow draft edge profileRevision) ∧
        after = { store with
          childReturns := childReturns
          lastReturnSequence := store.lastReturnSequence + 1 } := by
  unfold persistChildReturn at persists
  split at persists
  · cases persists
    simp
  next named =>
  split at persists
  · cases persists
    simp
  split at persists
  · cases persists
  · cases persists
    simp
  next edge edgeFrom =>
  split at persists
  · cases persists
    simp
  next profileRevision admitted =>
  unfold storeChildReturn at persists
  split at persists
  · cases persists
    simp
  split at persists
  · split at persists <;> cases persists <;> simp
  next fresh =>
  split at persists
  · cases persists
    simp
  next isOpen =>
  split at persists
  · cases persists
    simp
  next room =>
  obtain ⟨childReturns, inserted, stored, committed⟩ :=
    insertChildReturn_ok persists
  refine .inr ⟨edge, profileRevision, childReturns, ?_, stored, committed⟩
  exact
    { named := named
      edgeFrom := edgeFrom
      admitted := admitted
      fresh := fresh
      isOpen := by simpa using isOpen
      room := fun nonterminal => by simpa [nonterminal] using room
      inserted := inserted }

/-- A parent answer that passed every check and is inserted. -/
structure InsertsAnswer (store : ServerStore) (draft : ParentAnswerDraft)
    (edge : SpawnEdge) (admission : ThreadRunAdmission)
    (parentAnswers : UniqueTable ParentAnswerRecord AnswerKey
      ParentAnswerRecord.keys) : Prop where
  edgeFrom : store.parentAnswerEdgeFrom draft.workspaceId
    draft.parentThreadId draft.childThreadId = .ok (some edge)
  admitted : store.matchingThreadRun draft.sourceRunId draft.workspaceId
    edge.profileId draft.parentThreadId (some draft.sourceTurnId) =
      some admission
  fresh : store.parentAnswerById draft.messageId = none
  unstopped : store.threadStop draft.childThreadId = none
  isOpen : store.terminalChildReturn edge.spawnId = none
  inserted : store.parentAnswers.insert?
    (store.answerRow draft edge admission.profileRevision) = some parentAnswers

theorem insertParentAnswer_ok {store after : ServerStore}
    {draft : ParentAnswerDraft} {edge : SpawnEdge} {profileRevision : UInt64}
    {result : PersistParentAnswerResult}
    (inserts : store.insertParentAnswer draft edge profileRevision =
      .ok (result, after)) :
    ∃ parentAnswers, store.parentAnswers.insert?
        (store.answerRow draft edge profileRevision) = some parentAnswers ∧
      result = .stored (store.answerRow draft edge profileRevision) ∧
      after = { store with
        parentAnswers := parentAnswers
        lastAnswerSequence := store.lastAnswerSequence + 1 } := by
  simp only [insertParentAnswer, except_bind_ok_iff, insertRow_ok_iff]
    at inserts
  obtain ⟨_, _, _, _, _, _, parentAnswers, inserted, committed⟩ := inserts
  cases committed
  exact ⟨parentAnswers, inserted, rfl, rfl⟩

theorem persistParentAnswer_ok {store after : ServerStore}
    {draft : ParentAnswerDraft} {result : PersistParentAnswerResult}
    (persists : store.persistParentAnswer draft = .ok (result, after)) :
    (after = store ∧ ∀ record, result ≠ .stored record) ∨
      ∃ edge admission parentAnswers,
        store.InsertsAnswer draft edge admission parentAnswers ∧
        result = .stored
          (store.answerRow draft edge admission.profileRevision) ∧
        after = { store with
          parentAnswers := parentAnswers
          lastAnswerSequence := store.lastAnswerSequence + 1 } := by
  unfold persistParentAnswer at persists
  split at persists
  · cases persists
    simp
  split at persists
  · cases persists
  · cases persists
    simp
  next edge edgeFrom =>
  split at persists
  · cases persists
    simp
  next admission admitted =>
  unfold storeParentAnswer at persists
  split at persists
  · split at persists <;> cases persists <;> simp
  next fresh =>
  split at persists
  · cases persists
    simp
  next unstopped =>
  split at persists
  · cases persists
    simp
  next isOpen =>
  obtain ⟨parentAnswers, inserted, stored, committed⟩ :=
    insertParentAnswer_ok persists
  refine .inr ⟨edge, admission, parentAnswers, ?_, stored, committed⟩
  exact
    { edgeFrom := edgeFrom
      admitted := admitted
      fresh := fresh
      unstopped := by simpa using unstopped
      isOpen := by simpa using isOpen
      inserted := inserted }

/-- An admission that found or inserted its row and holds all its messages. -/
structure Admits (store : ServerStore) (admission : ThreadRunAdmission)
    (childReturnIds parentAnswerIds : List String) (newAdmission : Bool)
    (admissions : UniqueTable ThreadRunAdmission String
      ThreadRunAdmission.keys)
    (childReturns : UniqueTable ChildReturnRecord ReturnKey
      ChildReturnRecord.keys)
    (parentAnswers : UniqueTable ParentAnswerRecord AnswerKey
      ParentAnswerRecord.keys) : Prop where
  storedRevision : admission.profileRevision.toNat < 2 ^ 63
  storedTime : admission.createdAtMs.toNat < 2 ^ 63
  positive : 0 < admission.profileRevision
  authority : store.authorityMatches admission = true
  admissions_eq : newAdmission = true ∧
      store.threadRunAdmissions.insert? admission = some admissions ∨
    newAdmission = false ∧
      store.threadRunAdmissions.insert? admission = none ∧
      admissions = store.threadRunAdmissions
  stored : (admissions.rows.find? (·.runId == admission.runId)).any
    (sameAdmission · admission) = true
  returns : childReturnColumns.reserveAll admission newAdmission
    store.childReturns childReturnIds = .ok childReturns
  answers : parentAnswerColumns.reserveAll admission newAdmission
    store.parentAnswers parentAnswerIds = .ok parentAnswers

theorem insertAdmission_ok_iff {store after : ServerStore}
    {admission : ThreadRunAdmission} {inserted : Bool} :
    store.insertAdmission admission = .ok (inserted, after) ↔
      admission.profileRevision.toNat < 2 ^ 63 ∧
      admission.createdAtMs.toNat < 2 ^ 63 ∧
      0 < admission.profileRevision ∧
      ∃ admissions, after = { store with threadRunAdmissions := admissions } ∧
        (inserted = true ∧
            store.threadRunAdmissions.insert? admission = some admissions ∨
          inserted = false ∧
            store.threadRunAdmissions.insert? admission = none ∧
            admissions = store.threadRunAdmissions) := by
  simp only [insertAdmission, except_bind_ok_iff, storedU64_ok_iff,
    constraint_ok_iff, decide_eq_true_eq]
  cases store.threadRunAdmissions.insert? admission with
  | none =>
      simp only [pure, Except.pure, Except.ok.injEq, Prod.mk.injEq]
      constructor
      · rintro ⟨_, ⟨revision, rfl⟩, _, ⟨time, rfl⟩, _, positive, rfl, rfl⟩
        exact ⟨revision, time, positive, _, rfl, by simp⟩
      · rintro ⟨revision, time, positive, admissions, rfl, outcome⟩
        obtain ⟨rfl, rfl⟩ : inserted = false ∧
            admissions = store.threadRunAdmissions := by simpa using outcome
        exact ⟨_, ⟨revision, rfl⟩, _, ⟨time, rfl⟩, (), positive, rfl, rfl⟩
  | some table =>
      simp only [pure, Except.pure, Except.ok.injEq, Prod.mk.injEq]
      constructor
      · rintro ⟨_, ⟨revision, rfl⟩, _, ⟨time, rfl⟩, _, positive, rfl, rfl⟩
        exact ⟨revision, time, positive, table, rfl, by simp⟩
      · rintro ⟨revision, time, positive, admissions, rfl, outcome⟩
        obtain ⟨rfl, rfl⟩ : inserted = true ∧ table = admissions := by
          simpa using outcome
        exact ⟨_, ⟨revision, rfl⟩, _, ⟨time, rfl⟩, (), positive, rfl, rfl⟩

theorem reserveMessages_ok_iff {store after : ServerStore}
    {admission : ThreadRunAdmission} {newAdmission : Bool}
    {childReturnIds parentAnswerIds : List String} :
    store.reserveMessages admission newAdmission childReturnIds
        parentAnswerIds = .ok after ↔
      ∃ childReturns, childReturnColumns.reserveAll admission newAdmission
          store.childReturns childReturnIds = .ok childReturns ∧
        ∃ parentAnswers, parentAnswerColumns.reserveAll admission newAdmission
            store.parentAnswers parentAnswerIds = .ok parentAnswers ∧
          after = { store with
            childReturns := childReturns
            parentAnswers := parentAnswers } := by
  simp only [reserveMessages, except_bind_ok_iff, pure, Except.pure,
    Except.ok.injEq, eq_comm (b := after)]

theorem admitThreadRunAndReserve_ok_iff {store after : ServerStore}
    {admission : ThreadRunAdmission}
    {childReturnIds parentAnswerIds : List String} {result : Unit} :
    store.admitThreadRunAndReserve admission childReturnIds
        parentAnswerIds = .ok (result, after) ↔
      ∃ newAdmission admissions childReturns parentAnswers,
        store.Admits admission childReturnIds parentAnswerIds newAdmission
          admissions childReturns parentAnswers ∧
        after = { store with
          threadRunAdmissions := admissions
          childReturns := childReturns
          parentAnswers := parentAnswers } := by
  simp only [admitThreadRunAndReserve, except_bind_ok_iff, storedU64_ok_iff,
    requireThat_ok_iff]
  constructor
  · rintro ⟨_, _, _, checked, ⟨newAdmission, _⟩, inserts, _, agrees, _,
      reserves, committed⟩
    obtain ⟨storedRevision, storedTime, positive, admissions, rfl, table⟩ :=
      insertAdmission_ok_iff.mp inserts
    obtain ⟨childReturns, returns, parentAnswers, answers, rfl⟩ :=
      reserveMessages_ok_iff.mp reserves
    cases committed
    refine ⟨newAdmission, admissions, childReturns, parentAnswers, ?_, rfl⟩
    exact
      { storedRevision := storedRevision
        storedTime := storedTime
        positive := positive
        authority := checked
        admissions_eq := table
        stored := agrees
        returns := returns
        answers := answers }
  · rintro ⟨newAdmission, admissions, childReturns, parentAnswers, admits,
      rfl⟩
    have inserts := insertAdmission_ok_iff.mpr ⟨admits.storedRevision,
      admits.storedTime, admits.positive, admissions, rfl,
      admits.admissions_eq⟩
    let admitted := { store with threadRunAdmissions := admissions }
    have reserves := (@reserveMessages_ok_iff admitted _ _ _ _ _).mpr
      ⟨childReturns, admits.returns, parentAnswers, admits.answers, rfl⟩
    exact ⟨_, ⟨admits.storedRevision, rfl⟩, (), admits.authority, _, inserts,
      (), admits.stored, _, reserves, rfl⟩

/-- The change that a settlement makes to the messages of its run. -/
def settlement (consumed : Bool) (atMs : UInt64) : Delivery → Delivery :=
  if consumed then Delivery.consume atMs else Delivery.release

theorem settleThreadRunDeliveries_ok {store after : ServerStore}
    {runId : String} {consumed : Bool} {atMs : UInt64} {result : Unit}
    (settles : store.settleThreadRunDeliveries runId consumed atMs =
      .ok (result, after)) :
    (store.threadRunAdmissionById runId = none ∧ after = store) ∨
      ∃ admission, store.threadRunAdmissionById runId = some admission ∧
        after = store.settleBoth runId admission.threadTurnId
          (settlement consumed atMs) := by
  unfold settleThreadRunDeliveries at settles
  split at settles
  next unknown =>
    cases settles
    exact .inl ⟨unknown, rfl⟩
  next admission known =>
    refine .inr ⟨admission, known, ?_⟩
    cases consumed with
    | false =>
        cases settles
        rfl
    | true =>
        obtain ⟨stored, isStored, committed⟩ := except_bind_ok_iff.mp settles
        obtain ⟨_, rfl⟩ := storedU64_ok_iff.mp isStored
        cases committed
        rfl

theorem discardThreadRunAdmission_ok {store after : ServerStore}
    {runId : String} {result : Unit}
    (discards : store.discardThreadRunAdmission runId = .ok (result, after)) :
    (store.threadRunAdmissionById runId = none ∧ after = store) ∨
      ∃ admission, store.threadRunAdmissionById runId = some admission ∧
        after = { store.settleBoth runId admission.threadTurnId
            Delivery.release with
          threadRunAdmissions := store.threadRunAdmissions.delete
            (·.runId == runId) } := by
  unfold discardThreadRunAdmission at discards
  split at discards
  next unknown =>
    cases discards
    exact .inl ⟨unknown, rfl⟩
  next admission known =>
    cases discards
    exact .inr ⟨admission, known, rfl⟩

/-- The messages and admissions are the same. -/
structure SameMessages (before after : ServerStore) : Prop where
  childReturns : after.childReturns = before.childReturns
  parentAnswers : after.parentAnswers = before.parentAnswers
  admissions : after.threadRunAdmissions = before.threadRunAdmissions

/-- The thread tables are the same. -/
structure SameThreads (before after : ServerStore) : Prop where
  authorities : after.threadAuthorities = before.threadAuthorities
  approvals : after.threadSpawnApprovals = before.threadSpawnApprovals
  stops : after.threadStops = before.threadStops
  claims : after.threadBranchClaims = before.threadBranchClaims
  reservations : after.homeReservations = before.homeReservations
  profiles : after.profiles = before.profiles
  revisions : after.profileRevisions = before.profileRevisions

/-- No authority, approval, stop, profile or revision is ever lost. -/
structure ThreadsGrow (before after : ServerStore) : Prop where
  authorities : ∀ row ∈ before.threadAuthorities, row ∈ after.threadAuthorities
  approvals : ∀ row ∈ before.threadSpawnApprovals,
    row ∈ after.threadSpawnApprovals
  stops : ∀ row ∈ before.threadStops, row ∈ after.threadStops
  profiles : ∀ row ∈ before.profiles, ∃ later ∈ after.profiles,
    later.id = row.id ∧ later.workspaceId = row.workspaceId ∧
      later.currentRevision = row.currentRevision
  revisions : after.profileRevisions = before.profileRevisions

theorem SameThreads.grow {before after : ServerStore}
    (same : SameThreads before after) : ThreadsGrow before after where
  authorities _ member := same.authorities ▸ member
  approvals _ member := same.approvals ▸ member
  stops _ member := same.stops ▸ member
  profiles row member := ⟨row, same.profiles ▸ member, rfl, rfl, rfl⟩
  revisions := same.revisions

theorem ThreadsGrow.refl (store : ServerStore) : ThreadsGrow store store where
  authorities _ member := member
  approvals _ member := member
  stops _ member := member
  profiles row member := ⟨row, member, rfl, rfl, rfl⟩
  revisions := rfl

theorem ThreadsGrow.trans {first second third : ServerStore}
    (earlier : ThreadsGrow first second) (later : ThreadsGrow second third) :
    ThreadsGrow first third where
  authorities row member := later.authorities row
    (earlier.authorities row member)
  approvals row member := later.approvals row (earlier.approvals row member)
  stops row member := later.stops row (earlier.stops row member)
  profiles row member := by
    obtain ⟨middle, middleMember, sameId, sameWorkspace, sameRevision⟩ :=
      earlier.profiles row member
    obtain ⟨last, lastMember, lastId, lastWorkspace, lastRevision⟩ :=
      later.profiles middle middleMember
    exact ⟨last, lastMember, lastId.trans sameId,
      lastWorkspace.trans sameWorkspace, lastRevision.trans sameRevision⟩
  revisions := later.revisions.trans earlier.revisions

end ServerStore

/-- The commands that write messages and admissions, and nothing else. -/
def StoreCommand.isDelivery : StoreCommand → Bool
  | .persistChildReturn _ | .persistParentAnswer _
  | .admitThreadRunAndReserve _ _ _ | .settleThreadRunDeliveries _ _ _
  | .discardThreadRunAdmission _ => true
  | _ => false

namespace ServerStore

theorem commit_sameMessages {env : StoreEnv} {store after : ServerStore}
    {command : StoreCommand} (thread : command.isDelivery = false)
    (committed : command.commit env store = .ok after) :
    SameMessages store after := by
  cases command with
  | persistThreadSpawn approval authority confinement =>
      obtain ⟨⟨_, _⟩, persists, rfl⟩ := except_map_ok_iff.mp committed
      obtain rfl | ⟨_, _, ⟨_, rfl⟩ | ⟨_, _, _, _, _, rfl⟩⟩ :=
        persistThreadSpawn_ok persists <;> exact ⟨rfl, rfl, rfl⟩
  | claimThreadBranches workspaceId threadId claims claimedAtMs =>
      obtain ⟨⟨_, _⟩, claims, rfl⟩ := except_map_ok_iff.mp committed
      obtain ⟨rfl, _⟩ | ⟨_, _, rfl, _⟩ := claimThreadBranches_ok claims <;>
        exact ⟨rfl, rfl, rfl⟩
  | releaseThreadClaims threadId =>
      cases committed
      exact ⟨rfl, rfl, rfl⟩
  | persistThreadStop stop =>
      obtain ⟨⟨_, _⟩, stops, rfl⟩ := except_map_ok_iff.mp committed
      obtain ⟨rfl, _⟩ | ⟨_, _, _, _, _, _, rfl⟩ := persistThreadStop_ok stops <;>
        exact ⟨rfl, rfl, rfl⟩
  | reserveProfileHome reservation claims =>
      obtain ⟨⟨_, _⟩, reserves, rfl⟩ := except_map_ok_iff.mp committed
      obtain ⟨rfl, _⟩ | ⟨_, _, _, _, rfl⟩ := reserveProfileHome_ok reserves <;>
        exact ⟨rfl, rfl, rfl⟩
  | decideProfileHomeWithoutAuthority reservationId state actor reason decidedAtMs =>
      obtain ⟨⟨_, _⟩, decides, rfl⟩ := except_map_ok_iff.mp committed
      obtain ⟨rfl, _⟩ | ⟨_, _, _, _, _, _, rfl⟩ :=
        decideProfileHomeWithoutAuthority_ok decides <;>
          exact ⟨rfl, rfl, rfl⟩
  | persistProfileHome reservationId authority confinement actor decidedAtMs =>
      obtain ⟨⟨_, _⟩, persists, rfl⟩ := except_map_ok_iff.mp committed
      obtain rfl | ⟨_, _, _, _, _, _, _, _, _, _, _, rfl⟩ :=
        persistProfileHome_ok persists <;> exact ⟨rfl, rfl, rfl⟩
  | persistChildReturn | persistParentAnswer | admitThreadRunAndReserve
  | settleThreadRunDeliveries | discardThreadRunAdmission => cases thread

theorem commit_sameThreads {env : StoreEnv} {store after : ServerStore}
    {command : StoreCommand} (delivery : command.isDelivery = true)
    (committed : command.commit env store = .ok after) :
    SameThreads store after := by
  cases command with
  | persistChildReturn draft =>
      obtain ⟨⟨_, _⟩, persists, rfl⟩ := except_map_ok_iff.mp committed
      obtain ⟨rfl, _⟩ | ⟨_, _, _, _, _, rfl⟩ := persistChildReturn_ok persists <;>
        exact ⟨rfl, rfl, rfl, rfl, rfl, rfl, rfl⟩
  | persistParentAnswer draft =>
      obtain ⟨⟨_, _⟩, persists, rfl⟩ := except_map_ok_iff.mp committed
      obtain ⟨rfl, _⟩ | ⟨_, _, _, _, _, rfl⟩ :=
        persistParentAnswer_ok persists <;>
          exact ⟨rfl, rfl, rfl, rfl, rfl, rfl, rfl⟩
  | admitThreadRunAndReserve admission childReturnIds parentAnswerIds =>
      obtain ⟨⟨_, _⟩, admits, rfl⟩ := except_map_ok_iff.mp committed
      obtain ⟨_, _, _, _, _, rfl⟩ := admitThreadRunAndReserve_ok_iff.mp admits
      exact ⟨rfl, rfl, rfl, rfl, rfl, rfl, rfl⟩
  | settleThreadRunDeliveries runId consumed atMs =>
      obtain ⟨⟨_, _⟩, settles, rfl⟩ := except_map_ok_iff.mp committed
      obtain ⟨_, rfl⟩ | ⟨_, _, rfl⟩ := settleThreadRunDeliveries_ok settles <;>
        exact ⟨rfl, rfl, rfl, rfl, rfl, rfl, rfl⟩
  | discardThreadRunAdmission runId =>
      obtain ⟨⟨_, _⟩, discards, rfl⟩ := except_map_ok_iff.mp committed
      obtain ⟨_, rfl⟩ | ⟨_, _, rfl⟩ := discardThreadRunAdmission_ok discards <;>
        exact ⟨rfl, rfl, rfl, rfl, rfl, rfl, rfl⟩
  | persistThreadSpawn | claimThreadBranches | releaseThreadClaims
  | persistThreadStop | reserveProfileHome
  | decideProfileHomeWithoutAuthority | persistProfileHome => cases delivery

theorem commit_threadsGrow {env : StoreEnv} {store after : ServerStore}
    {command : StoreCommand}
    (committed : command.commit env store = .ok after) :
    ThreadsGrow store after := by
  cases command with
  | persistThreadSpawn approval authority confinement =>
      obtain ⟨⟨_, _⟩, persists, rfl⟩ := except_map_ok_iff.mp committed
      obtain rfl | ⟨approvals, approved, outcome⟩ :=
        persistThreadSpawn_ok persists
      · exact .refl _
      have kept : ∀ row ∈ store.threadSpawnApprovals, row ∈ approvals :=
        fun row member => (UniqueTable.mem_insert? approved).mpr (.inl member)
      obtain ⟨_, rfl⟩ | ⟨_, _, authorities, _, spawns, rfl⟩ := outcome
      · exact { ThreadsGrow.refl store with approvals := kept }
      · exact
          { ThreadsGrow.refl store with
            approvals := kept
            authorities := fun row member =>
              (UniqueTable.mem_insert? spawns.inserts.inserted).mpr
                (.inl member) }
  | claimThreadBranches workspaceId threadId claims claimedAtMs =>
      obtain ⟨⟨_, _⟩, claims, rfl⟩ := except_map_ok_iff.mp committed
      obtain ⟨rfl, _⟩ | ⟨_, _, rfl, _⟩ := claimThreadBranches_ok claims
      · exact .refl _
      · exact { ThreadsGrow.refl store with }
  | releaseThreadClaims threadId =>
      cases committed
      exact { ThreadsGrow.refl store with }
  | persistThreadStop stop =>
      obtain ⟨⟨_, _⟩, stops, rfl⟩ := except_map_ok_iff.mp committed
      obtain ⟨rfl, _⟩ | ⟨_, stops, _, _, _, stopped, rfl⟩ :=
        persistThreadStop_ok stops
      · exact .refl _
      · exact
          { ThreadsGrow.refl store with
            stops := fun row member =>
              (UniqueTable.mem_insert? stopped).mpr (.inl member) }
  | reserveProfileHome reservation claims =>
      obtain ⟨⟨_, _⟩, reserves, rfl⟩ := except_map_ok_iff.mp committed
      obtain ⟨rfl, _⟩ | ⟨_, _, _, _, rfl⟩ := reserveProfileHome_ok reserves
      · exact .refl _
      · exact { ThreadsGrow.refl store with }
  | decideProfileHomeWithoutAuthority reservationId state actor reason decidedAtMs =>
      obtain ⟨⟨_, _⟩, decides, rfl⟩ := except_map_ok_iff.mp committed
      obtain ⟨rfl, _⟩ | ⟨_, _, _, _, _, _, rfl⟩ :=
        decideProfileHomeWithoutAuthority_ok decides
      · exact .refl _
      · exact { ThreadsGrow.refl store with }
  | persistProfileHome reservationId authority confinement actor decidedAtMs =>
      obtain ⟨⟨_, _⟩, persists, rfl⟩ := except_map_ok_iff.mp committed
      obtain rfl | ⟨reservation, authorities, _, profiles, _, _, _, _, _, _,
        grants, rfl⟩ := persistProfileHome_ok persists
      · exact .refl _
      refine
        { ThreadsGrow.refl store with
          authorities := fun row member =>
            (UniqueTable.mem_insert? grants.inserts.inserted).mpr (.inl member)
          profiles := fun row member => ?_ }
      refine ⟨_, (UniqueTable.mem_update? grants.designated).mpr
        ⟨row, member, rfl⟩, ?_⟩
      split <;> exact ⟨rfl, rfl, rfl⟩
  | persistChildReturn | persistParentAnswer | admitThreadRunAndReserve
  | settleThreadRunDeliveries | discardThreadRunAdmission =>
      exact (commit_sameThreads rfl committed).grow

/-- Authorities come from granted spawns and from granted homes. -/
theorem commit_threadAuthorities {env : StoreEnv} {store after : ServerStore}
    {command : StoreCommand}
    (committed : command.commit env store = .ok after) :
    after.threadAuthorities = store.threadAuthorities ∨
      (∃ approval authority classification,
        store.Spawns env approval authority classification
          after.threadAuthorities) ∨
      ∃ reservation authority actor decidedAtMs,
        validateCompleteAuthority env authority = .ok () ∧
        authority.threadKind = .home ∧ authority.parentThreadId = none ∧
        homeMatches reservation authority = true ∧
        store.GrantsHome reservation authority actor decidedAtMs
          after.threadAuthorities after.profiles after.homeReservations := by
  cases command with
  | persistThreadSpawn approval authority confinement =>
      obtain ⟨⟨_, _⟩, persists, rfl⟩ := except_map_ok_iff.mp committed
      obtain rfl | ⟨_, _, ⟨_, rfl⟩ | ⟨spawned, classification, _, _, spawns,
        rfl⟩⟩ := persistThreadSpawn_ok persists
      · exact .inl rfl
      · exact .inl rfl
      · exact .inr (.inl ⟨approval, spawned, classification, spawns⟩)
  | persistProfileHome reservationId authority confinement actor decidedAtMs =>
      obtain ⟨⟨_, _⟩, persists, rfl⟩ := except_map_ok_iff.mp committed
      obtain rfl | ⟨reservation, _, _, _, _, complete, isHome, parentless, _,
        agrees, grants, rfl⟩ := persistProfileHome_ok persists
      · exact .inl rfl
      · exact .inr (.inr ⟨reservation, authority, actor, decidedAtMs, complete,
          isHome, parentless, agrees, grants⟩)
  | claimThreadBranches workspaceId threadId claims claimedAtMs =>
      obtain ⟨⟨_, _⟩, claims, rfl⟩ := except_map_ok_iff.mp committed
      obtain ⟨rfl, _⟩ | ⟨_, _, rfl, _⟩ := claimThreadBranches_ok claims <;>
        exact .inl rfl
  | releaseThreadClaims threadId =>
      cases committed
      exact .inl rfl
  | persistThreadStop stop =>
      obtain ⟨⟨_, _⟩, stops, rfl⟩ := except_map_ok_iff.mp committed
      obtain ⟨rfl, _⟩ | ⟨_, _, _, _, _, _, rfl⟩ :=
        persistThreadStop_ok stops <;> exact .inl rfl
  | reserveProfileHome reservation claims =>
      obtain ⟨⟨_, _⟩, reserves, rfl⟩ := except_map_ok_iff.mp committed
      obtain ⟨rfl, _⟩ | ⟨_, _, _, _, rfl⟩ :=
        reserveProfileHome_ok reserves <;> exact .inl rfl
  | decideProfileHomeWithoutAuthority reservationId state actor reason
      decidedAtMs =>
      obtain ⟨⟨_, _⟩, decides, rfl⟩ := except_map_ok_iff.mp committed
      obtain ⟨rfl, _⟩ | ⟨_, _, _, _, _, _, rfl⟩ :=
        decideProfileHomeWithoutAuthority_ok decides <;> exact .inl rfl
  | persistChildReturn | persistParentAnswer | admitThreadRunAndReserve
  | settleThreadRunDeliveries | discardThreadRunAdmission =>
      exact .inl (commit_sameThreads rfl committed).authorities

theorem afterCalls_threadsGrow (env : StoreEnv) (store : ServerStore)
    (calls : List StoreCall) :
    ThreadsGrow store (store.afterCalls env calls) := by
  apply afterCalls_invariant calls _ (ThreadsGrow.refl store)
  intro call _ middle after grows committed
  exact grows.trans (commit_threadsGrow committed)

/-- An environment in which every absolute path is a canonical directory. -/
def sampleStoreEnv : StoreEnv where
  canonicalDirectory path := path.toList.head? == some '/'

def sampleProfile : ProfileId :=
  ⟨"profile_20", by decide⟩

/-- The authority of a thread that may work under `/work`. -/
def sampleAuthority (threadId : String) (threadKind : ThreadKind)
    (parentThreadId : Option String) : ThreadAuthorityRow where
  threadId := threadId
  parentThreadId := parentThreadId
  spawningActor := "user"
  cwd := some "/work"
  agentId := none
  workspaceId := some "workspace"
  profileId := some sampleProfile
  profileRevision := some 1
  threadKind := threadKind
  legacyReason := none
  model := "model"
  reasoningEffort := .medium
  approvalPolicy := .prompt
  toolset := some []
  worktrees := some []
  grantedPaths := some [⟨"/work", true⟩]
  network := some false
  createdAtMs := 1

/-- One profile without a home, and no threads. -/
def sampleRoot : ServerStore where
  workspaces := ["workspace"]
  agents := .empty
  profiles := ⟨[⟨sampleProfile, "workspace", "Profile", 1, none, none⟩],
    by simp⟩
  profileRevisions := ⟨[⟨sampleProfile, 1⟩], by simp⟩
  threadAuthorities := .empty
  threadSpawnApprovals := .empty
  threadStops := .empty
  threadConfinements := .empty
  threadBranchClaims := .empty
  homeReservations := .empty
  threadRunAdmissions := .empty
  childReturns := .empty
  parentAnswers := .empty
  lastReturnSequence := 0
  lastAnswerSequence := 0

/-- A request for a home of the profile. -/
def sampleReservation : HomeReservationRecord where
  id := "reservation"
  workspaceId := "workspace"
  profileId := sampleProfile
  idempotencyKey := "key"
  proposal := ⟨[⟨"repo", none⟩], "repo", ""⟩
  draft :=
    { threadId := "home"
      parentThreadId := none
      cwd := "/work"
      agentId := none
      profileId := sampleProfile
      profileRevision := 1
      threadKind := .home
      model := "model"
      reasoningEffort := .medium
      approvalPolicy := .prompt
      toolset := []
      worktrees := []
      repositories := []
      grantedPaths := [⟨"/work", true⟩]
      network := false }
  state := .pending
  decidedBy := none
  reason := none
  createdAtMs := 1
  decidedAtMs := none

/-- The home is reserved and granted, and a child is spawned under it. -/
def sampleThreads : List StoreCall :=
  [⟨0, .reserveProfileHome sampleReservation [("repo", "main")]⟩,
    ⟨0, .persistProfileHome "reservation"
      (sampleAuthority "home" .home none).record .landlock "user" 1⟩,
    ⟨0, .persistThreadSpawn ⟨"spawn", "child", .granted, "user", none, 1⟩
      (some (sampleAuthority "child" .child (some "home")).record) none⟩]

/-- One profile with a home and one child, and no messages. -/
def sampleStore : ServerStore :=
  sampleRoot.afterCalls sampleStoreEnv sampleThreads

/-- A progress message of the child that no run wrote. -/
def sampleReturn (messageId : String) : ChildReturnDraft where
  messageId := messageId
  workspaceId := "workspace"
  childThreadId := "child"
  sourceRunId := none
  sourceTurnId := none
  kind := .progress
  payload := "halfway"
  artifactRefs := []
  createdAtMs := 2

/-- A run of the home thread. -/
def sampleAdmission (runId : String) : ThreadRunAdmission where
  runId := runId
  workspaceId := "workspace"
  profileId := sampleProfile
  threadId := "home"
  threadTurnId := "turn"
  profileRevision := 1
  createdAtMs := 3

end ServerStore

end PlatoAgent
