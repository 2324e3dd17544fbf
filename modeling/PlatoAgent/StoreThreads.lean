import PlatoAgent.ThreadAuthority

/-!
# Threads, branch claims and profile homes in the store

The methods of `ServerStore` that create authorities, stop threads, claim
branches and reserve profile homes.  Each is one transaction; a failed
statement or an early return without commit leaves the store as it was.
-/

namespace PlatoAgent

namespace ServerStore

def threadAuthorityRow (store : ServerStore) (threadId : String) :
    Option ThreadAuthorityRow :=
  store.threadAuthorities.rows.find? (·.threadId == threadId)

/-- `thread_authority_from`. -/
def threadAuthority (store : ServerStore) (threadId : String) :
    Option ThreadAuthorityRecord :=
  (store.threadAuthorityRow threadId).map (·.record)

def profile (store : ServerStore) (profileId : ProfileId) :
    Option ProfileRow :=
  store.profiles.rows.find? (·.id == profileId)

def hasRevision (store : ServerStore) (profileId : ProfileId)
    (revision : UInt64) : Bool :=
  store.profileRevisions.rows.any fun row =>
    row.profileId == profileId && row.revision == revision

def threadSpawnApproval (store : ServerStore) (spawnId : String) :
    Option ThreadSpawnApprovalRecord :=
  store.threadSpawnApprovals.rows.find? (·.spawnId == spawnId)

def threadStop (store : ServerStore) (threadId : String) :
    Option ThreadStopRecord :=
  store.threadStops.rows.find? (·.threadId == threadId)

def threadConfinement (store : ServerStore) (threadId : String) :
    Option ThreadConfinement :=
  (store.threadConfinements.rows.find? (·.threadId == threadId)).map
    (·.backend)

def branchClaim (store : ServerStore) (workspaceId repo branch : String) :
    Option BranchClaimRecord :=
  store.threadBranchClaims.rows.find? fun row =>
    row.workspaceId == workspaceId && row.repo == repo && row.branch == branch

def homeReservation (store : ServerStore) (reservationId : String) :
    Option HomeReservationRecord :=
  store.homeReservations.rows.find? (·.id == reservationId)

def homeReservationByKey (store : ServerStore) (profileId : ProfileId)
    (idempotencyKey : String) : Option HomeReservationRecord :=
  store.homeReservations.rows.find? fun row =>
    row.profileId == profileId && row.idempotencyKey == idempotencyKey

def pendingHomeReservation (store : ServerStore) (profileId : ProfileId) :
    Option HomeReservationRecord :=
  store.homeReservations.rows.find? fun row =>
    row.profileId == profileId && row.state == .pending

/-- The row that `insert_thread_authority` writes. -/
def authorityRow (authority : ThreadAuthorityRecord)
    (classification : ThreadProfileAuthority) : ThreadAuthorityRow where
  threadId := authority.threadId
  parentThreadId := authority.parentThreadId
  spawningActor := authority.spawningActor
  cwd := authority.cwd
  agentId := authority.agentId
  workspaceId := classification.workspaceId
  profileId := classification.profileId
  profileRevision := classification.profileRevision
  threadKind := classification.threadKind
  legacyReason := classification.legacyReason
  model := authority.model
  reasoningEffort := authority.reasoningEffort
  approvalPolicy := authority.approvalPolicy
  toolset := some authority.toolset
  worktrees := some authority.worktrees
  grantedPaths := some authority.grantedPaths
  network := some authority.network
  createdAtMs := authority.createdAtMs

/-- The `CHECK` constraints of `thread_authorities`. -/
def authorityCheck (row : ThreadAuthorityRow) : Bool :=
  (match row.profileId, row.profileRevision with
    | none, none => true
    | some _, some revision => 0 < revision
    | _, _ => false) &&
  (if row.threadKind = .legacy then row.legacyReason.isSome
    else row.legacyReason.isNone && row.workspaceId.isSome &&
      row.profileId.isSome)

/-- A parent that the admission trigger accepts: a live home or child of the
same workspace and profile. -/
def liveParent (store : ServerStore) (row parent : ThreadAuthorityRow) : Bool :=
  some parent.threadId == row.parentThreadId &&
    parent.workspaceId == row.workspaceId && parent.profileId == row.profileId &&
    parent.threadKind != .legacy && (store.threadStop parent.threadId).isNone

/-- The trigger `thread_authorities_profile_admission`. -/
def profileAdmission (store : ServerStore) (row : ThreadAuthorityRow) : Bool :=
  (store.profiles.rows.any fun profile =>
    some profile.id == row.profileId &&
      some profile.workspaceId == row.workspaceId) &&
  (store.profileRevisions.rows.any fun revision =>
    some revision.profileId == row.profileId &&
      some revision.revision == row.profileRevision) &&
  (row.threadKind != .home || row.parentThreadId.isNone) &&
  (row.threadKind != .child ||
    row.parentThreadId.isSome && row.parentThreadId != some row.threadId &&
      store.threadAuthorities.rows.any (store.liveParent row))

/-- The foreign key from `thread_authorities` to `profiles`. -/
def knownProfile (store : ServerStore) (profileId : Option ProfileId) : Bool :=
  profileId.all fun profileId => (store.profile profileId).isSome

def insertThreadAuthority (store : ServerStore)
    (authority : ThreadAuthorityRecord)
    (classification : ThreadProfileAuthority) : Except AppError ServerStore :=
  do
  let row := authorityRow authority classification
  classification.profileRevision.toList.forM fun revision => do
    let _ ← storedU64 revision "thread profile revision"
  let _ ← storedU64 authority.createdAtMs "thread created_at_ms"
  constraint (row.threadKind == .legacy || store.profileAdmission row)
  constraint (authorityCheck row && store.knownProfile row.profileId)
  let threadAuthorities ← insertRow store.threadAuthorities row
  pure { store with threadAuthorities := threadAuthorities }

def insertConfinement (store : ServerStore) (threadId : String)
    (confinement : ThreadConfinement) (recordedAtMs : UInt64) :
    Except AppError ServerStore := do
  let recordedAtMs ←
    storedU64 recordedAtMs "thread confinement recorded_at_ms"
  let threadConfinements ← insertRow store.threadConfinements
    { threadId := threadId, backend := confinement
      recordedAtMs := recordedAtMs }
  pure { store with threadConfinements := threadConfinements }

/-- `new_profile_authority`: the classification of a child. -/
def newProfileAuthority (store : ServerStore)
    (authority : ThreadAuthorityRecord) :
    Except AppError ThreadProfileAuthority :=
  match authority.profileId with
  | none => .error (.config "new thread authority has no profile id")
  | some profileId =>
      match authority.profileRevision with
      | none => .error (.config "new thread authority has no profile revision")
      | some profileRevision =>
          match store.profile profileId with
          | none => .error (.config s!"profile not found: {profileId.value}")
          | some profile =>
              .ok { workspaceId := some profile.workspaceId
                    profileId := some profileId
                    profileRevision := some profileRevision
                    threadKind := authority.threadKind
                    legacyReason := none }

/-- The parent's profile differs from the one the agent was imported to. -/
def crossesProfile (store : ServerStore) (parentThreadId : String)
    (profileId : Option ProfileId) : Bool :=
  match store.threadAuthorityRow parentThreadId with
  | some parent => parent.profileId.isSome && parent.profileId != profileId
  | none => false

/-- `legacy_profile_authority`: the classification of a thread of an agent. -/
def legacyProfileAuthority (store : ServerStore)
    (authority : ThreadAuthorityRecord) (agentId : AgentId) :
    ThreadProfileAuthority :=
  let agentWorkspace :=
    (store.agents.rows.find? (·.id == agentId.value)).map (·.workspaceId)
  let profile := store.profiles.rows.find?
    (·.importedAgentId == some agentId.value)
  let profileId := profile.map (·.id)
  let workspaceId := (profile.map (·.workspaceId)) <|> agentWorkspace
  let workspaceExists := workspaceId.any store.workspaces.contains
  let legacyReason : LegacyReason :=
    if agentWorkspace.isSome && !workspaceExists then .missingWorkspace
    else if profileId.isNone then .missingProfile
    else match authority.parentThreadId with
      | some parentThreadId =>
          if store.crossesProfile parentThreadId profileId then
            .crossProfileEdge
          else .unsupportedAuthority
      | none => .additionalRoot
  { workspaceId := workspaceId
    profileId := profileId
    profileRevision := profile.map (·.currentRevision)
    threadKind := .legacy
    legacyReason := some legacyReason }

/-- The decision and the authority fit together. -/
def checkSpawnDecision (approval : ThreadSpawnApprovalRecord) :
    Option ThreadAuthorityRecord → Except AppError Unit
  | some authority =>
      if approval.decision ≠ .granted then
        .error (.config
          "denied or canceled thread.spawn cannot create authority")
      else if authority.threadId ≠ approval.threadId then
        .error (.config
          "thread.spawn approval and authority thread ids differ")
      else .ok ()
  | none =>
      if approval.decision = .granted then
        .error (.config
          "granted thread.spawn approval requires an authority record")
      else .ok ()

/-- The authority is complete and was spawned by the approving actor. -/
def checkSpawnAuthority (env : StoreEnv)
    (approval : ThreadSpawnApprovalRecord)
    (authority : ThreadAuthorityRecord) : Except AppError Unit := do
  validateCompleteAuthority env authority
  requireThat (authority.spawningActor = approval.actor)
    (.config "thread.spawn approval actor must match spawning actor")

/-- The durable authority of a repeated decision is the requested one. -/
def checkReplayedAuthority (store : ServerStore)
    (approval : ThreadSpawnApprovalRecord) (authority : ThreadAuthorityRecord) :
    Except AppError Unit :=
  match store.threadAuthority authority.threadId with
  | none => .error (.config
      s!"granted spawn {approval.spawnId} has no authority record")
  | some durable => requireThat (durable = authority)
      (.config s!"thread authority conflicts with durable thread {authority.threadId}")

/-- A repeated decision must be the durable one. -/
def replaySpawn (store : ServerStore) (approval : ThreadSpawnApprovalRecord)
    (authority : Option ThreadAuthorityRecord)
    (confinement : Option ThreadConfinement)
    (existing : ThreadSpawnApprovalRecord) :
    Except AppError (Option ThreadAuthorityRecord) := do
  requireThat (existing = approval) (.config
    s!"thread.spawn decision conflicts with durable spawn {approval.spawnId}")
  authority.toList.forM (store.checkReplayedAuthority approval)
  requireThat (confinement = none ∨
      confinement = store.threadConfinement approval.threadId) (.config
    s!"thread confinement conflicts with durable thread {approval.threadId}")
  pure authority

/-- `ProfileId::new("legacy_validation")`. -/
def legacyValidation : ProfileId :=
  ⟨"legacy_validation", by decide⟩

/-- The draft under which a stored spawn is validated again. -/
def spawnDraft (parent authority : ThreadAuthorityRecord) (cwd : String) :
    ThreadAuthorityDraft where
  threadId := authority.threadId
  parentThreadId := authority.parentThreadId
  cwd := cwd
  agentId := authority.agentId
  profileId := ((authority.profileId <|> parent.profileId).getD
    legacyValidation)
  profileRevision := authority.profileRevision.getD 1
  threadKind := authority.threadKind
  model := authority.model
  reasoningEffort := authority.reasoningEffort
  approvalPolicy := authority.approvalPolicy
  toolset := authority.toolset
  worktrees := authority.worktrees
  repositories := []
  grantedPaths := authority.grantedPaths
  network := authority.network

/-- The parent is durable, the child stays within it, and a child thread has
a live parent of its own profile. -/
def checkSpawnParent (store : ServerStore) (authority : ThreadAuthorityRecord)
    (parentThreadId : String) : Except AppError Unit :=
  match store.threadAuthority parentThreadId with
  | none => .error (.config
      s!"parent thread is no longer durable: {parentThreadId}")
  | some parent =>
      match authorityWorkingDirectory authority with
      | none => .error (.config "thread authority has no working directory")
      | some cwd =>
          match validateChildAuthority parent
              (spawnDraft parent authority cwd) with
          | .error error => .error (.config error.text)
          | .ok () =>
              if authority.threadKind = .child ∧
                  (parent.profileId ≠ authority.profileId ∨
                    parent.threadKind = .legacy ∨
                    (store.threadStop parentThreadId).isSome) then
                .error (.config "child requires a live same-profile parent")
              else .ok ()

def checkNewSpawn (store : ServerStore) (authority : ThreadAuthorityRecord) :
    Except AppError Unit := do
  requireThat (authority.threadKind ≠ .home)
    (.config "home authority requires a profile.open reservation")
  authority.parentThreadId.toList.forM (store.checkSpawnParent authority)

/-- The classification of a spawned thread; home authorities were refused. -/
def spawnClassification (store : ServerStore)
    (authority : ThreadAuthorityRecord) :
    Except AppError ThreadProfileAuthority :=
  match authority.threadKind, authority.agentId with
  | .legacy, some agentId => .ok (store.legacyProfileAuthority authority agentId)
  | _, _ => store.newProfileAuthority authority

/-- The writes of a new decision. -/
def insertSpawn (store : ServerStore) (approval : ThreadSpawnApprovalRecord)
    (authority : Option ThreadAuthorityRecord)
    (confinement : Option ThreadConfinement) :
    Except AppError ServerStore := do
  let _ ← storedU64 approval.occurredAtMs "thread approval occurred_at_ms"
  let threadSpawnApprovals ← insertRow store.threadSpawnApprovals approval
  let store := { store with threadSpawnApprovals := threadSpawnApprovals }
  match authority with
  | none => pure store
  | some authority => do
      let classification ← store.spawnClassification authority
      let store ← store.insertThreadAuthority authority classification
      match confinement with
      | none => pure store
      | some confinement =>
          store.insertConfinement authority.threadId confinement
            approval.occurredAtMs

def persistThreadSpawn (env : StoreEnv) (store : ServerStore)
    (approval : ThreadSpawnApprovalRecord)
    (authority : Option ThreadAuthorityRecord)
    (confinement : Option ThreadConfinement) :
    Except AppError (Option ThreadAuthorityRecord × ServerStore) := do
  requireThat (authority.isSome ∨ confinement.isNone)
    (.config "thread confinement requires a granted authority record")
  authority.toList.forM (checkSpawnAuthority env approval)
  checkSpawnDecision approval authority
  match store.threadSpawnApproval approval.spawnId with
  | some existing => do
      let durable ← store.replaySpawn approval authority confinement existing
      pure (durable, store)
  | none => do
      authority.toList.forM store.checkNewSpawn
      let after ← store.insertSpawn approval authority confinement
      pure (authority, after)

structure BranchClaimConflict where
  repo : String
  branch : String
  threadId : String
  deriving DecidableEq, Repr

/-- The loop of `claim_thread_branches`: a conflict, or the store with the
claims so far. -/
def claimEach (store : ServerStore) (workspaceId threadId : String)
    (claimedAtMs : UInt64) : List (String × String) →
    Except AppError (Option BranchClaimConflict × ServerStore)
  | [] => .ok (none, store)
  | (repo, branch) :: rest =>
      match store.branchClaim workspaceId repo branch with
      | some existing =>
          if existing.threadId ≠ threadId then
            .ok (some ⟨repo, branch, existing.threadId⟩, store)
          else
            store.claimEach workspaceId threadId claimedAtMs rest
      | none => do
          let claimedAtMs' ← storedU64 claimedAtMs "branch claim claimed_at_ms"
          let claims ← insertRow store.threadBranchClaims
            ⟨workspaceId, repo, branch, threadId, claimedAtMs'⟩
          claimEach { store with threadBranchClaims := claims } workspaceId
            threadId claimedAtMs rest

/-- A conflict is returned without commit, so nothing is claimed. -/
def claimThreadBranches (store : ServerStore) (workspaceId threadId : String)
    (claims : List (String × String)) (claimedAtMs : UInt64) :
    Except AppError (Option BranchClaimConflict × ServerStore) :=
  match store.claimEach workspaceId threadId claimedAtMs claims with
  | .error error => .error error
  | .ok (some conflict, _) => .ok (some conflict, store)
  | .ok (none, after) => .ok (none, after)

/-- `DELETE FROM thread_branch_claims WHERE thread_id = ?1`. -/
def withoutClaims (store : ServerStore) (threadId : String) : ServerStore :=
  { store with
    threadBranchClaims := store.threadBranchClaims.delete
      (·.threadId == threadId) }

def releaseThreadClaims (store : ServerStore) (threadId : String) :
    Except AppError (Unit × ServerStore) :=
  .ok ((), store.withoutClaims threadId)

/-- The stop, and whether this call inserted it. -/
def persistThreadStop (store : ServerStore) (stop : ThreadStopRecord) :
    Except AppError ((ThreadStopRecord × Bool) × ServerStore) :=
  match store.threadStop stop.threadId with
  | some existing => .ok ((existing, false), store)
  | none =>
      match store.threadAuthority stop.threadId with
      | none => .error (.config
          s!"thread stop has no durable authority: {stop.threadId}")
      | some authority =>
          if authority.threadKind = .home then
            .error (.config "profile home threads cannot be stopped")
          else do
            let _ ← storedU64 stop.occurredAtMs "thread stop occurred_at_ms"
            let threadStops ← insertRow store.threadStops stop
            let store := { store with threadStops := threadStops }
            pure ((stop, true), store.withoutClaims stop.threadId)

inductive ReserveProfileHomeResult where
  | reserved (reservation : HomeReservationRecord)
  | replayed (reservation : HomeReservationRecord)
  | conflict (message : String)
  deriving DecidableEq, Repr

/-- The `CHECK` constraint of `home_reservations`. -/
def reservationCheck (row : HomeReservationRecord) : Bool :=
  match row.state with
  | .pending =>
      row.decidedBy.isNone && row.reason.isNone && row.decidedAtMs.isNone
  | .granted | .canceled =>
      row.decidedBy.isSome && row.reason.isNone && row.decidedAtMs.isSome
  | .denied =>
      row.decidedBy.isSome && row.reason.isSome && row.decidedAtMs.isSome

/-- The first claim that some thread already holds. -/
def claimConflict (store : ServerStore) (workspaceId : String)
    (claims : List (String × String)) : Option BranchClaimConflict :=
  claims.findSome? fun (repo, branch) =>
    (store.branchClaim workspaceId repo branch).map fun claim =>
      ⟨repo, branch, claim.threadId⟩

def insertClaims (store : ServerStore) (workspaceId threadId : String)
    (claimedAtMs : UInt64) : List (String × String) →
    Except AppError ServerStore
  | [] => .ok store
  | (repo, branch) :: rest => do
      let claims ← insertRow store.threadBranchClaims
        ⟨workspaceId, repo, branch, threadId, claimedAtMs⟩
      insertClaims { store with threadBranchClaims := claims } workspaceId
        threadId claimedAtMs rest

/-- The writes of a new reservation. -/
def insertReservation (store : ServerStore)
    (reservation : HomeReservationRecord) (claims : List (String × String)) :
    Except AppError ServerStore := do
  let createdAtMs ← storedU64 reservation.createdAtMs
    "home reservation created_at_ms"
  let homeReservations ← insertRow store.homeReservations reservation
  insertClaims { store with homeReservations := homeReservations }
    reservation.workspaceId reservation.draft.threadId createdAtMs claims

def reserveProfileHome (store : ServerStore)
    (reservation : HomeReservationRecord) (claims : List (String × String)) :
    Except AppError (ReserveProfileHomeResult × ServerStore) :=
  if reservation.state ≠ .pending ∨ reservation.decidedBy.isSome ∨
      reservation.reason.isSome ∨ reservation.decidedAtMs.isSome then
    .error (.config "new home reservation must be pending and undecided")
  else match store.profile reservation.profileId with
  | none => .error (.config
      s!"profile not found: {reservation.profileId.value}")
  | some profile =>
      if profile.workspaceId ≠ reservation.workspaceId then
        .error (.config s!"profile {reservation.profileId.value} belongs to another workspace")
      else match store.homeReservationByKey reservation.profileId
          reservation.idempotencyKey with
      | some existing =>
          if existing.proposal = reservation.proposal then
            .ok (.replayed existing, store)
          else
            .ok (.conflict s!"idempotency key {reservation.idempotencyKey} names a different home proposal", store)
      | none =>
          if profile.homeThreadId.isSome then
            .ok (.conflict s!"profile {reservation.profileId.value} already has a home", store)
          else match store.pendingHomeReservation reservation.profileId with
          | some existing =>
              .ok (.conflict s!"profile {reservation.profileId.value} already has pending home reservation {existing.id}", store)
          | none =>
              match store.claimConflict reservation.workspaceId claims with
              | some conflict =>
                  .ok (.conflict s!"branch {conflict.branch} in repository {conflict.repo} is already claimed by thread {conflict.threadId}", store)
              | none => do
                  let after ← store.insertReservation reservation claims
                  pure (.reserved reservation, after)

/-- `UPDATE home_reservations … WHERE id = ?1 AND state = 'pending'`. -/
def decideReservation (store : ServerStore) (reservationId : String)
    (decide : HomeReservationRecord → HomeReservationRecord) :
    Except AppError ServerStore := do
  let selected (row : HomeReservationRecord) :=
    row.id == reservationId && row.state == .pending
  constraint (store.homeReservations.rows.all fun row =>
    !selected row || reservationCheck (decide row))
  match store.homeReservations.update? selected decide with
  | none => throw .sqlite
  | some homeReservations =>
      pure { store with homeReservations := homeReservations }

def decideProfileHomeWithoutAuthority (store : ServerStore)
    (reservationId : String) (state : HomeReservationState) (actor : String)
    (reason : Option String) (decidedAtMs : UInt64) :
    Except AppError (HomeReservationRecord × ServerStore) :=
  if (state ≠ .denied ∧ state ≠ .canceled) ∨
      (state = .denied) ≠ (reason.isSome = true) then
    .error (.config "invalid home reservation decision")
  else match store.homeReservation reservationId with
  | none => .error (.config s!"home reservation not found: {reservationId}")
  | some reservation =>
      if reservation.state ≠ .pending then
        .ok (reservation, store)
      else do
        let decidedAtMs ←
          storedU64 decidedAtMs "home reservation decided_at_ms"
        let decide (row : HomeReservationRecord) : HomeReservationRecord :=
          { row with
            state := state, decidedBy := some actor, reason := reason
            decidedAtMs := some decidedAtMs }
        let store ← store.decideReservation reservationId decide
        pure (decide reservation,
          store.withoutClaims reservation.draft.threadId)

/-- The home authority is the one the reservation drafted. -/
def homeMatches (reservation : HomeReservationRecord)
    (authority : ThreadAuthorityRecord) : Bool :=
  reservation.state == .pending &&
    authority.threadId == reservation.draft.threadId &&
    authority.profileId == some reservation.profileId &&
    authority.profileRevision == some reservation.draft.profileRevision &&
    authority.model == reservation.draft.model &&
    authority.reasoningEffort == reservation.draft.reasoningEffort &&
    authority.approvalPolicy == reservation.draft.approvalPolicy &&
    authority.toolset == reservation.draft.toolset &&
    authority.network == reservation.draft.network

/-- The trigger `profiles_home_designation` for the new home. -/
def homeDesignation (store : ServerStore) (profile : ProfileRow)
    (threadId : String) : Bool :=
  profile.homeThreadId.isNone &&
    store.threadAuthorities.rows.any fun row =>
      row.threadId == threadId && row.profileId == some profile.id &&
        row.workspaceId == some profile.workspaceId &&
        row.threadKind == .home && row.parentThreadId.isNone

/-- `UPDATE profiles SET home_thread_id = ?2 WHERE id = ?1 AND home_thread_id
IS NULL`, which must change one row. -/
def designateHome (store : ServerStore) (profileId : ProfileId)
    (threadId : String) : Except AppError ServerStore := do
  let selected (row : ProfileRow) :=
    row.id == profileId && row.homeThreadId.isNone
  constraint (store.profiles.rows.all fun row =>
    !selected row || store.homeDesignation row threadId)
  requireThat (store.profiles.rows.countP selected = 1)
    (.config s!"profile {profileId.value} home designation raced")
  match store.profiles.update? selected
      (fun row => { row with homeThreadId := some threadId }) with
  | none => throw .sqlite
  | some profiles => pure { store with profiles := profiles }

/-- The writes that grant a reservation. -/
def grantHome (store : ServerStore) (reservation : HomeReservationRecord)
    (authority : ThreadAuthorityRecord) (confinement : ThreadConfinement)
    (actor : String) (decidedAtMs : UInt64) : Except AppError ServerStore := do
  let store ← store.insertThreadAuthority authority
    { workspaceId := some reservation.workspaceId
      profileId := some reservation.profileId
      profileRevision := authority.profileRevision
      threadKind := .home
      legacyReason := none }
  let store ← store.insertConfinement authority.threadId confinement
    decidedAtMs
  let store ← store.designateHome reservation.profileId authority.threadId
  let decidedAtMs ← storedU64 decidedAtMs "home reservation decided_at_ms"
  store.decideReservation reservation.id fun row =>
    { row with
      state := .granted, decidedBy := some actor
      decidedAtMs := some decidedAtMs }

/-- The profile of the reservation has no home yet. -/
def checkNoHome (store : ServerStore) (reservation : HomeReservationRecord) :
    Except AppError Unit :=
  match (store.profile reservation.profileId).filter
      (·.workspaceId == reservation.workspaceId) with
  | none => .error (.config
      s!"profile not found: {reservation.profileId.value}")
  | some profile =>
      if profile.homeThreadId.isSome then
        .error (.config s!"profile {reservation.profileId.value} already has a home")
      else .ok ()

/-- The durable home, and whether this call created it. -/
def persistProfileHome (env : StoreEnv) (store : ServerStore)
    (reservationId : String) (authority : ThreadAuthorityRecord)
    (confinement : ThreadConfinement) (actor : String)
    (decidedAtMs : UInt64) :
    Except AppError ((ThreadAuthorityRecord × Bool) × ServerStore) := do
  validateCompleteAuthority env authority
  requireThat (authority.threadKind = .home ∧ authority.parentThreadId = none)
    (.config "profile home persistence requires a parentless home authority")
  match store.homeReservation reservationId with
  | none => throw (.config s!"home reservation not found: {reservationId}")
  | some reservation =>
      if reservation.state = .granted then
        match store.threadAuthority reservation.draft.threadId with
        | none => throw (.config
            s!"granted home reservation {reservationId} has no authority")
        | some existing => pure ((existing, false), store)
      else do
        requireThat (homeMatches reservation authority) (.config
          s!"home authority conflicts with reservation {reservationId}")
        store.checkNoHome reservation
        let after ← store.grantHome reservation authority confinement actor
          decidedAtMs
        pure ((authority, true), after)

end ServerStore

end PlatoAgent
