import PlatoAgent.StoreThreads

/-!
# What the thread methods of the store do

For each method that spawns, stops, claims branches or decides a profile home,
one lemma lists what a successful call found and which tables it wrote.
-/

namespace PlatoAgent

namespace ServerStore

/-- A row that passed the trigger, the checks and the keys of
`thread_authorities`. -/
structure InsertsAuthority (store : ServerStore) (row : ThreadAuthorityRow)
    (authorities : UniqueTable ThreadAuthorityRow AuthorityKey
      ThreadAuthorityRow.keys) : Prop where
  admitted : row.threadKind ≠ .legacy → store.profileAdmission row = true
  checked : authorityCheck row = true
  known : store.knownProfile row.profileId = true
  inserted : store.threadAuthorities.insert? row = some authorities

theorem insertThreadAuthority_ok {store after : ServerStore}
    {authority : ThreadAuthorityRecord}
    {classification : ThreadProfileAuthority}
    (inserts : store.insertThreadAuthority authority classification =
      .ok after) :
    ∃ authorities, store.InsertsAuthority (authorityRow authority
        classification) authorities ∧
      after = { store with threadAuthorities := authorities } := by
  simp only [insertThreadAuthority, except_bind_ok_iff, constraint_ok_iff,
    insertRow_ok_iff, Bool.and_eq_true] at inserts
  obtain ⟨_, _, _, _, _, admitted, _, ⟨checked, known⟩, authorities, inserted,
    committed⟩ := inserts
  cases committed
  refine ⟨authorities, ⟨?_, checked, known, inserted⟩, rfl⟩
  intro profiled
  simpa [profiled] using admitted

theorem insertConfinement_ok {store after : ServerStore} {threadId : String}
    {confinement : ThreadConfinement} {recordedAtMs : UInt64}
    (inserts : store.insertConfinement threadId confinement recordedAtMs =
      .ok after) :
    ∃ confinements,
      after = { store with threadConfinements := confinements } := by
  simp only [insertConfinement, except_bind_ok_iff] at inserts
  obtain ⟨_, _, confinements, _, committed⟩ := inserts
  cases committed
  exact ⟨confinements, rfl⟩

/-- A granted spawn that inserts an authority. -/
structure Spawns (env : StoreEnv) (store : ServerStore)
    (approval : ThreadSpawnApprovalRecord) (authority : ThreadAuthorityRecord)
    (classification : ThreadProfileAuthority)
    (authorities : UniqueTable ThreadAuthorityRow AuthorityKey
      ThreadAuthorityRow.keys) : Prop where
  complete : validateCompleteAuthority env authority = .ok ()
  granted : approval.decision = .granted
  sameThread : authority.threadId = approval.threadId
  allowed : store.checkNewSpawn authority = .ok ()
  classified : store.spawnClassification authority = .ok classification
  inserts : store.InsertsAuthority (authorityRow authority classification)
    authorities

theorem insertSpawn_none_ok {store after : ServerStore}
    {approval : ThreadSpawnApprovalRecord}
    {confinement : Option ThreadConfinement}
    (inserts : store.insertSpawn approval none confinement = .ok after) :
    ∃ approvals, store.threadSpawnApprovals.insert? approval = some approvals ∧
      after = { store with threadSpawnApprovals := approvals } := by
  simp only [insertSpawn, except_bind_ok_iff, insertRow_ok_iff] at inserts
  obtain ⟨_, _, approvals, approved, committed⟩ := inserts
  cases committed
  exact ⟨approvals, approved, rfl⟩

theorem insertSpawn_some_ok {store after : ServerStore}
    {approval : ThreadSpawnApprovalRecord} {authority : ThreadAuthorityRecord}
    {confinement : Option ThreadConfinement}
    (inserts : store.insertSpawn approval (some authority) confinement =
      .ok after) :
    ∃ approvals classification authorities confinements,
      store.threadSpawnApprovals.insert? approval = some approvals ∧
      store.spawnClassification authority = .ok classification ∧
      store.InsertsAuthority (authorityRow authority classification)
        authorities ∧
      after = { store with
        threadSpawnApprovals := approvals
        threadAuthorities := authorities
        threadConfinements := confinements } := by
  simp only [insertSpawn, except_bind_ok_iff, insertRow_ok_iff] at inserts
  obtain ⟨_, _, approvals, approved, classification, classified, granted,
    inserts, confines⟩ := inserts
  obtain ⟨authorities, row, rfl⟩ := insertThreadAuthority_ok inserts
  have inserted : store.InsertsAuthority
      (authorityRow authority classification) authorities :=
    ⟨row.admitted, row.checked, row.known, row.inserted⟩
  cases confinement with
  | none =>
      cases confines
      exact ⟨approvals, classification, authorities, _, approved, classified,
        inserted, rfl⟩
  | some confinement =>
      obtain ⟨confinements, rfl⟩ := insertConfinement_ok confines
      exact ⟨approvals, classification, authorities, confinements, approved,
        classified, inserted, rfl⟩

/-- A decision is replayed, recorded without an authority, or granted. -/
theorem persistThreadSpawn_ok {env : StoreEnv} {store after : ServerStore}
    {approval : ThreadSpawnApprovalRecord}
    {authority result : Option ThreadAuthorityRecord}
    {confinement : Option ThreadConfinement}
    (persists : store.persistThreadSpawn env approval authority confinement =
      .ok (result, after)) :
    after = store ∨
      ∃ approvals,
        store.threadSpawnApprovals.insert? approval = some approvals ∧
        (approval.decision ≠ .granted ∧
            after = { store with threadSpawnApprovals := approvals } ∨
          ∃ spawned classification authorities confinements,
            store.Spawns env approval spawned classification authorities ∧
            after = { store with
              threadSpawnApprovals := approvals
              threadAuthorities := authorities
              threadConfinements := confinements }) := by
  simp only [persistThreadSpawn, except_bind_ok_iff] at persists
  obtain ⟨_, _, _, complete, _, decided, persists⟩ := persists
  cases existing : store.threadSpawnApproval approval.spawnId with
  | some durable =>
      simp only [existing, except_bind_ok_iff] at persists
      obtain ⟨_, _, committed⟩ := persists
      cases committed
      exact .inl rfl
  | none =>
      simp only [existing, except_bind_ok_iff] at persists
      obtain ⟨_, allowed, _, inserts, committed⟩ := persists
      cases committed
      right
      cases authority with
      | none =>
          obtain ⟨approvals, approved, rfl⟩ := insertSpawn_none_ok inserts
          refine ⟨approvals, approved, .inl ⟨?_, rfl⟩⟩
          intro granted
          simp [checkSpawnDecision, granted] at decided
      | some authority =>
          obtain ⟨approvals, classification, authorities, confinements,
            approved, classified, inserted, rfl⟩ := insertSpawn_some_ok inserts
          refine ⟨approvals, approved, .inr ⟨authority, classification,
            authorities, confinements, ?_, rfl⟩⟩
          simp only [checkSpawnDecision] at decided
          split at decided
          · cases decided
          next granted =>
          split at decided
          · cases decided
          next sameThread =>
          simp only [Option.toList_some, List.forM_eq_forM, List.forM_cons,
            List.forM_nil, except_bind_ok_iff, checkSpawnAuthority] at complete
          simp only [Option.toList_some, List.forM_eq_forM, List.forM_cons,
            List.forM_nil, except_bind_ok_iff] at allowed
          obtain ⟨_, ⟨_, complete, _⟩, _⟩ := complete
          obtain ⟨_, allowed, _⟩ := allowed
          exact
            { complete := complete
              granted := by simpa using granted
              sameThread := by simpa using sameThread
              allowed := allowed
              classified := classified
              inserts := inserted }

theorem persistThreadStop_ok {store after : ServerStore}
    {stop : ThreadStopRecord} {result : ThreadStopRecord × Bool}
    (persists : store.persistThreadStop stop = .ok (result, after)) :
    (after = store ∧ (store.threadStop stop.threadId).isSome) ∨
      ∃ authority stops,
        store.threadStop stop.threadId = none ∧
        store.threadAuthority stop.threadId = some authority ∧
        authority.threadKind ≠ .home ∧
        store.threadStops.insert? stop = some stops ∧
        after = { store.withoutClaims stop.threadId with
          threadStops := stops } := by
  unfold persistThreadStop at persists
  split at persists
  next existing found =>
    cases persists
    exact .inl ⟨rfl, by simp [found]⟩
  next unstopped =>
  split at persists
  · cases persists
  next authority known =>
  split at persists
  · cases persists
  next notHome =>
  simp only [except_bind_ok_iff, insertRow_ok_iff] at persists
  obtain ⟨_, _, stops, inserted, committed⟩ := persists
  cases committed
  exact .inr ⟨authority, stops, unstopped, known, notHome, inserted, rfl⟩

/-- The claim that a thread makes on one branch. -/
def claimOf (workspaceId threadId : String) (claimedAtMs : UInt64)
    (claim : String × String) : BranchClaimRecord :=
  ⟨workspaceId, claim.1, claim.2, threadId, claimedAtMs⟩

theorem insertClaims_ok {store after : ServerStore}
    {workspaceId threadId : String} {claimedAtMs : UInt64}
    {claims : List (String × String)}
    (inserts : store.insertClaims workspaceId threadId claimedAtMs claims =
      .ok after) :
    ∃ table, after = { store with threadBranchClaims := table } ∧
      table.rows = store.threadBranchClaims.rows ++
        claims.map (claimOf workspaceId threadId claimedAtMs) := by
  induction claims generalizing store with
  | nil =>
      cases inserts
      exact ⟨_, rfl, by simp⟩
  | cons claim claims ih =>
      obtain ⟨repo, branch⟩ := claim
      simp only [insertClaims, except_bind_ok_iff, insertRow_ok_iff] at inserts
      obtain ⟨first, inserted, inserts⟩ := inserts
      obtain ⟨table, rfl, rows⟩ := ih inserts
      refine ⟨table, rfl, ?_⟩
      rw [rows, (UniqueTable.insert?_eq_some inserted).1]
      simp [claimOf]

/-- Without a conflict, every branch is claimed by the thread, earlier claims
stay, and every new claim is one of the requested ones. -/
structure Claims (store : ServerStore) (workspaceId threadId : String)
    (claims : List (String × String))
    (table : UniqueTable BranchClaimRecord ClaimKey
      BranchClaimRecord.keys) : Prop where
  kept : ∀ row ∈ store.threadBranchClaims, row ∈ table
  added : ∀ row ∈ table, row ∈ store.threadBranchClaims ∨
    row.workspaceId = workspaceId ∧ row.threadId = threadId ∧
      (row.repo, row.branch) ∈ claims
  claimed : ∀ claim ∈ claims, ∃ row ∈ table, row.workspaceId = workspaceId ∧
    row.repo = claim.1 ∧ row.branch = claim.2 ∧ row.threadId = threadId

theorem mem_of_branchClaim {store : ServerStore}
    {workspaceId repo branch : String} {row : BranchClaimRecord}
    (found : store.branchClaim workspaceId repo branch = some row) :
    row ∈ store.threadBranchClaims ∧ row.workspaceId = workspaceId ∧
      row.repo = repo ∧ row.branch = branch := by
  have member := List.mem_of_find?_eq_some found
  have selected := List.find?_some found
  simp only [Bool.and_eq_true, beq_iff_eq] at selected
  exact ⟨member, selected.1.1, selected.1.2, selected.2⟩

theorem claimEach_ok {store after : ServerStore}
    {workspaceId threadId : String} {claimedAtMs : UInt64}
    {claims : List (String × String)}
    (succeeds : store.claimEach workspaceId threadId claimedAtMs claims =
      .ok (none, after)) :
    ∃ table, after = { store with threadBranchClaims := table } ∧
      store.Claims workspaceId threadId claims table := by
  induction claims generalizing store with
  | nil =>
      cases succeeds
      exact ⟨_, rfl, fun _ member => member, fun _ member => .inl member,
        by simp⟩
  | cons claim claims ih =>
      obtain ⟨repo, branch⟩ := claim
      unfold claimEach at succeeds
      split at succeeds
      next existing found =>
        split at succeeds
        · cases succeeds
        next own =>
        obtain ⟨member, sameWorkspace, sameRepo, sameBranch⟩ :=
          mem_of_branchClaim found
        obtain ⟨table, rfl, rest⟩ := ih succeeds
        refine ⟨table, rfl, rest.kept, ?_, ?_⟩
        · intro row rowMember
          have := rest.added row rowMember
          simp only [List.mem_cons]
          tauto
        · intro claim claimMember
          obtain rfl | claimMember := List.mem_cons.mp claimMember
          · exact ⟨existing, rest.kept _ member, sameWorkspace, sameRepo,
              sameBranch, by simpa using own⟩
          · exact rest.claimed claim claimMember
      next unclaimed =>
        simp only [except_bind_ok_iff, insertRow_ok_iff, storedU64_ok_iff]
          at succeeds
        obtain ⟨_, ⟨_, rfl⟩, first, inserted, succeeds⟩ := succeeds
        obtain ⟨table, rfl, rest⟩ := ih succeeds
        have member : ∀ row, row ∈ first ↔
            row ∈ store.threadBranchClaims ∨ row = _ :=
          fun row => UniqueTable.mem_insert? inserted
        refine ⟨table, rfl, ?_, ?_, ?_⟩
        · intro row rowMember
          exact rest.kept row ((member row).mpr (.inl rowMember))
        · intro row rowMember
          obtain present | requested := rest.added row rowMember
          · obtain present | rfl := (member row).mp present
            · exact .inl present
            · simp
          · simp only [List.mem_cons]
            tauto
        · intro claim claimMember
          obtain rfl | claimMember := List.mem_cons.mp claimMember
          · exact ⟨_, rest.kept _ ((member _).mpr (.inr rfl)), rfl, rfl, rfl,
              rfl⟩
          · exact rest.claimed claim claimMember

/-- A conflict claims nothing. -/
theorem claimThreadBranches_ok {store after : ServerStore}
    {workspaceId threadId : String} {claimedAtMs : UInt64}
    {claims : List (String × String)} {result : Option BranchClaimConflict}
    (claimed : store.claimThreadBranches workspaceId threadId claims
      claimedAtMs = .ok (result, after)) :
    (after = store ∧ result.isSome) ∨
      result = none ∧
      ∃ table, after = { store with threadBranchClaims := table } ∧
        store.Claims workspaceId threadId claims table := by
  unfold claimThreadBranches at claimed
  split at claimed
  · cases claimed
  · cases claimed
    exact .inl ⟨rfl, rfl⟩
  next succeeds =>
    cases claimed
    exact .inr ⟨rfl, claimEach_ok succeeds⟩

theorem insertReservation_ok {store after : ServerStore}
    {reservation : HomeReservationRecord} {claims : List (String × String)}
    (inserts : store.insertReservation reservation claims = .ok after) :
    ∃ reservations table,
      store.homeReservations.insert? reservation = some reservations ∧
      table.rows = store.threadBranchClaims.rows ++
        claims.map (claimOf reservation.workspaceId
          reservation.draft.threadId reservation.createdAtMs) ∧
      after = { store with
        homeReservations := reservations
        threadBranchClaims := table } := by
  simp only [insertReservation, except_bind_ok_iff, insertRow_ok_iff,
    storedU64_ok_iff] at inserts
  obtain ⟨_, ⟨_, rfl⟩, reservations, inserted, inserts⟩ := inserts
  obtain ⟨table, rfl, rows⟩ := insertClaims_ok inserts
  exact ⟨reservations, table, inserted, rows, rfl⟩

/-- A reservation that passed every check and is inserted with its claims. -/
structure Reserves (store : ServerStore) (reservation : HomeReservationRecord)
    (claims : List (String × String))
    (reservations : UniqueTable HomeReservationRecord ReservationKey
      HomeReservationRecord.keys)
    (table : UniqueTable BranchClaimRecord ClaimKey
      BranchClaimRecord.keys) : Prop where
  pending : reservation.state = .pending
  fresh : store.homeReservationByKey reservation.profileId
    reservation.idempotencyKey = none
  homeless : ∃ profile, store.profile reservation.profileId = some profile ∧
    profile.workspaceId = reservation.workspaceId ∧ profile.homeThreadId = none
  unreserved : store.pendingHomeReservation reservation.profileId = none
  unclaimed : store.claimConflict reservation.workspaceId claims = none
  inserted : store.homeReservations.insert? reservation = some reservations
  claimed : table.rows = store.threadBranchClaims.rows ++
    claims.map (claimOf reservation.workspaceId reservation.draft.threadId
      reservation.createdAtMs)

/-- A request is replayed or refused with nothing changed, or reserved. -/
theorem reserveProfileHome_ok {store after : ServerStore}
    {reservation : HomeReservationRecord} {claims : List (String × String)}
    {result : ReserveProfileHomeResult}
    (reserves : store.reserveProfileHome reservation claims =
      .ok (result, after)) :
    (after = store ∧ ∀ reserved, result ≠ .reserved reserved) ∨
      ∃ reservations table,
        store.Reserves reservation claims reservations table ∧
        result = .reserved reservation ∧
        after = { store with
          homeReservations := reservations
          threadBranchClaims := table } := by
  unfold reserveProfileHome at reserves
  split at reserves
  · cases reserves
  next undecided =>
  split at reserves
  · cases reserves
  next profile known =>
  split at reserves
  · cases reserves
  next sameWorkspace =>
  split at reserves
  · split at reserves <;> cases reserves <;> simp
  next fresh =>
  split at reserves
  · cases reserves
    simp
  next homeless =>
  split at reserves
  · cases reserves
    simp
  next unreserved =>
  split at reserves
  · cases reserves
    simp
  next unclaimed =>
  simp only [except_bind_ok_iff] at reserves
  obtain ⟨_, inserts, committed⟩ := reserves
  cases committed
  obtain ⟨reservations, table, inserted, claimed, rfl⟩ :=
    insertReservation_ok inserts
  refine .inr ⟨reservations, table, ?_, rfl, rfl⟩
  exact
    { pending := by
        by_contra decided
        exact undecided (.inl decided)
      fresh := fresh
      homeless := ⟨profile, known, by simpa using sameWorkspace,
        by simpa using homeless⟩
      unreserved := unreserved
      unclaimed := unclaimed
      inserted := inserted
      claimed := claimed }

/-- A pending reservation with this identifier. -/
def isPending (reservationId : String) (row : HomeReservationRecord) : Bool :=
  row.id == reservationId && row.state == .pending

theorem decideReservation_ok {store after : ServerStore}
    {reservationId : String}
    {decision : HomeReservationRecord → HomeReservationRecord}
    (decides : store.decideReservation reservationId decision = .ok after) :
    ∃ reservations, store.homeReservations.update? (isPending reservationId)
        decision = some reservations ∧
      after = { store with homeReservations := reservations } := by
  simp only [decideReservation, except_bind_ok_iff] at decides
  obtain ⟨_, _, decides⟩ := decides
  split at decides
  · cases decides
  next reservations updated =>
    cases decides
    exact ⟨reservations, updated, rfl⟩

/-- What a refusal writes into its reservation. -/
def refuse (state : HomeReservationState) (actor : String)
    (reason : Option String) (decidedAtMs : UInt64)
    (row : HomeReservationRecord) : HomeReservationRecord :=
  { row with
    state := state, decidedBy := some actor, reason := reason
    decidedAtMs := some decidedAtMs }

theorem decideProfileHomeWithoutAuthority_ok {store after : ServerStore}
    {reservationId : String} {state : HomeReservationState} {actor : String}
    {reason : Option String} {decidedAtMs : UInt64}
    {result : HomeReservationRecord}
    (decides : store.decideProfileHomeWithoutAuthority reservationId state
      actor reason decidedAtMs = .ok (result, after)) :
    (after = store ∧ result.state ≠ .pending) ∨
      ∃ reservation reservations,
        (state = .denied ∨ state = .canceled) ∧
        store.homeReservation reservationId = some reservation ∧
        reservation.state = .pending ∧
        store.homeReservations.update? (isPending reservationId)
          (refuse state actor reason decidedAtMs) = some reservations ∧
        after = { store.withoutClaims reservation.draft.threadId with
          homeReservations := reservations } := by
  unfold decideProfileHomeWithoutAuthority at decides
  split at decides
  · cases decides
  next valid =>
  split at decides
  · cases decides
  next reservation known =>
  split at decides
  next decided =>
    cases decides
    exact .inl ⟨rfl, decided⟩
  next pending =>
  simp only [except_bind_ok_iff, storedU64_ok_iff] at decides
  obtain ⟨_, ⟨_, rfl⟩, _, update, committed⟩ := decides
  cases committed
  obtain ⟨reservations, updated, rfl⟩ := decideReservation_ok update
  refine .inr ⟨reservation, reservations, ?_, known, by simpa using pending,
    updated, rfl⟩
  tauto

/-- The profile that gets its home. -/
def isHomeless (profileId : ProfileId) (row : ProfileRow) : Bool :=
  row.id == profileId && row.homeThreadId.isNone

theorem designateHome_ok {store after : ServerStore} {profileId : ProfileId}
    {threadId : String}
    (designates : store.designateHome profileId threadId = .ok after) :
    ∃ profiles, store.profiles.rows.countP (isHomeless profileId) = 1 ∧
      (∀ row ∈ store.profiles, isHomeless profileId row = true →
        store.homeDesignation row threadId = true) ∧
      store.profiles.update? (isHomeless profileId)
        (fun row => { row with homeThreadId := some threadId }) =
          some profiles ∧
      after = { store with profiles := profiles } := by
  simp only [designateHome, except_bind_ok_iff, constraint_ok_iff,
    requireThat_ok_iff] at designates
  obtain ⟨_, designated, _, one, designates⟩ := designates
  split at designates
  · cases designates
  next profiles updated =>
    cases designates
    refine ⟨profiles, one, ?_, updated, rfl⟩
    intro row member homeless
    have := List.all_eq_true.mp designated row member
    have selected : (row.id == profileId && row.homeThreadId.isNone) = true :=
      homeless
    simpa [selected] using this

/-- What a grant writes into its reservation. -/
def grant (actor : String) (decidedAtMs : UInt64)
    (row : HomeReservationRecord) : HomeReservationRecord :=
  { row with
    state := .granted, decidedBy := some actor
    decidedAtMs := some decidedAtMs }

/-- The row of a home authority. -/
def homeRow (reservation : HomeReservationRecord)
    (authority : ThreadAuthorityRecord) : ThreadAuthorityRow :=
  authorityRow authority
    { workspaceId := some reservation.workspaceId
      profileId := some reservation.profileId
      profileRevision := authority.profileRevision
      threadKind := .home
      legacyReason := none }

/-- A grant that creates the home of a profile. -/
structure GrantsHome (store : ServerStore) (reservation : HomeReservationRecord)
    (authority : ThreadAuthorityRecord) (actor : String) (decidedAtMs : UInt64)
    (authorities : UniqueTable ThreadAuthorityRow AuthorityKey
      ThreadAuthorityRow.keys)
    (profiles : UniqueTable ProfileRow ProfileKey ProfileRow.keys)
    (reservations : UniqueTable HomeReservationRecord ReservationKey
      HomeReservationRecord.keys) : Prop where
  inserts : store.InsertsAuthority (homeRow reservation authority) authorities
  homeless : store.profiles.rows.countP (isHomeless reservation.profileId) = 1
  designated : store.profiles.update? (isHomeless reservation.profileId)
    (fun row => { row with homeThreadId := some authority.threadId }) =
      some profiles
  decided : store.homeReservations.update? (isPending reservation.id)
    (grant actor decidedAtMs) = some reservations

theorem grantHome_ok {store after : ServerStore}
    {reservation : HomeReservationRecord} {authority : ThreadAuthorityRecord}
    {confinement : ThreadConfinement} {actor : String} {decidedAtMs : UInt64}
    (grants : store.grantHome reservation authority confinement actor
      decidedAtMs = .ok after) :
    ∃ authorities confinements profiles reservations,
      store.GrantsHome reservation authority actor decidedAtMs authorities
        profiles reservations ∧
      after = { store with
        threadAuthorities := authorities
        threadConfinements := confinements
        profiles := profiles
        homeReservations := reservations } := by
  simp only [grantHome, except_bind_ok_iff, storedU64_ok_iff] at grants
  obtain ⟨_, inserts, _, confines, _, designates, _, ⟨_, rfl⟩, decides⟩ :=
    grants
  obtain ⟨authorities, row, rfl⟩ := insertThreadAuthority_ok inserts
  obtain ⟨confinements, rfl⟩ := insertConfinement_ok confines
  obtain ⟨profiles, one, _, designated, rfl⟩ := designateHome_ok designates
  obtain ⟨reservations, decided, rfl⟩ := decideReservation_ok decides
  exact ⟨authorities, confinements, profiles, reservations,
    ⟨row, one, designated, decided⟩, rfl⟩

/-- A grant is replayed with nothing changed, or creates the home. -/
theorem persistProfileHome_ok {env : StoreEnv} {store after : ServerStore}
    {reservationId : String} {authority : ThreadAuthorityRecord}
    {confinement : ThreadConfinement} {actor : String} {decidedAtMs : UInt64}
    {result : ThreadAuthorityRecord × Bool}
    (persists : store.persistProfileHome env reservationId authority
      confinement actor decidedAtMs = .ok (result, after)) :
    after = store ∨
      ∃ reservation authorities confinements profiles reservations,
        validateCompleteAuthority env authority = .ok () ∧
        authority.threadKind = .home ∧ authority.parentThreadId = none ∧
        store.homeReservation reservationId = some reservation ∧
        homeMatches reservation authority = true ∧
        store.GrantsHome reservation authority actor decidedAtMs authorities
          profiles reservations ∧
        after = { store with
          threadAuthorities := authorities
          threadConfinements := confinements
          profiles := profiles
          homeReservations := reservations } := by
  simp only [persistProfileHome, except_bind_ok_iff, requireThat_ok_iff]
    at persists
  obtain ⟨_, complete, _, ⟨isHome, parentless⟩, persists⟩ := persists
  cases known : store.homeReservation reservationId with
  | none => simp [known, throw, throwThe, MonadExceptOf.throw] at persists
  | some reservation =>
      simp only [known] at persists
      split at persists
      · split at persists
        · cases persists
        · cases persists
          exact .inl rfl
      · simp only [except_bind_ok_iff, requireThat_ok_iff] at persists
        obtain ⟨_, agrees, _, _, _, grants, committed⟩ := persists
        cases committed
        obtain ⟨authorities, confinements, profiles, reservations, granted,
          rfl⟩ := grantHome_ok grants
        exact .inr ⟨reservation, authorities, confinements, profiles,
          reservations, complete, isHome, parentless, rfl, agrees, granted,
          rfl⟩

end ServerStore

end PlatoAgent
