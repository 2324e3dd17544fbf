import PlatoAgent.StoreLineage

/-!
# Profile homes, their reservations and branch claims

A profile gets its home by granting one pending reservation, which claimed the
branches of the home when it was made.  The steps of the store are sorted by
what they do to reservations, profiles, homes and claims; the invariants that
couple these tables follow for every run.
-/

namespace PlatoAgent

/-- A reservation of a home that is wanted or granted. -/
def HomeReservationRecord.IsLive (row : HomeReservationRecord) : Prop :=
  row.state = .pending ∨ row.state = .granted

/-- A reservation without its decision. -/
def HomeReservationRecord.request (row : HomeReservationRecord) :
    HomeReservationRecord :=
  { row with
    state := .pending, decidedBy := none, reason := none, decidedAtMs := none }

namespace ServerStore

/-- What one commit can do to the tables around profile homes. -/
inductive HomeStep (store after : ServerStore) : StoreCommand → Prop where
  | same {command : StoreCommand}
      (reservations : after.homeReservations = store.homeReservations)
      (profiles : after.profiles = store.profiles)
      (authorities : after.threadAuthorities = store.threadAuthorities)
      (claims : after.threadBranchClaims = store.threadBranchClaims) :
      HomeStep store after command
  | spawn {approval : ThreadSpawnApprovalRecord}
      {authority : Option ThreadAuthorityRecord}
      {confinement : Option ThreadConfinement}
      (reservations : after.homeReservations = store.homeReservations)
      (profiles : after.profiles = store.profiles)
      (threads : ∀ row ∈ after.threadAuthorities,
        row ∈ store.threadAuthorities ∨ row.threadKind ≠ .home)
      (claims : after.threadBranchClaims = store.threadBranchClaims) :
      HomeStep store after (.persistThreadSpawn approval authority confinement)
  | claim {workspaceId threadId : String} {claims : List (String × String)}
      {claimedAtMs : UInt64}
      (reservations : after.homeReservations = store.homeReservations)
      (profiles : after.profiles = store.profiles)
      (authorities : after.threadAuthorities = store.threadAuthorities)
      (claimed : store.Claims workspaceId threadId claims
        after.threadBranchClaims) :
      HomeStep store after
        (.claimThreadBranches workspaceId threadId claims claimedAtMs)
  | release {threadId : String}
      (reservations : after.homeReservations = store.homeReservations)
      (profiles : after.profiles = store.profiles)
      (authorities : after.threadAuthorities = store.threadAuthorities)
      (claims : after.threadBranchClaims =
        store.threadBranchClaims.delete (·.threadId == threadId)) :
      HomeStep store after (.releaseThreadClaims threadId)
  | stop {stop : ThreadStopRecord} (authority : ThreadAuthorityRecord)
      (known : store.threadAuthority stop.threadId = some authority)
      (notHome : authority.threadKind ≠ .home)
      (reservations : after.homeReservations = store.homeReservations)
      (profiles : after.profiles = store.profiles)
      (authorities : after.threadAuthorities = store.threadAuthorities)
      (claims : after.threadBranchClaims =
        store.threadBranchClaims.delete (·.threadId == stop.threadId)) :
      HomeStep store after (.persistThreadStop stop)
  | reserve {reservation : HomeReservationRecord}
      {claims : List (String × String)}
      (reserves : store.Reserves reservation claims after.homeReservations
        after.threadBranchClaims)
      (profiles : after.profiles = store.profiles)
      (authorities : after.threadAuthorities = store.threadAuthorities) :
      HomeStep store after (.reserveProfileHome reservation claims)
  | refuse {reservationId : String} {state : HomeReservationState}
      {actor : String} {reason : Option String} {decidedAtMs : UInt64}
      (reservation : HomeReservationRecord)
      (refused : state = .denied ∨ state = .canceled)
      (known : store.homeReservation reservationId = some reservation)
      (pending : reservation.state = .pending)
      (decided : store.homeReservations.update? (isPending reservationId)
        (refuse state actor reason decidedAtMs) = some after.homeReservations)
      (profiles : after.profiles = store.profiles)
      (authorities : after.threadAuthorities = store.threadAuthorities)
      (claims : after.threadBranchClaims =
        store.threadBranchClaims.delete
          (·.threadId == reservation.draft.threadId)) :
      HomeStep store after (.decideProfileHomeWithoutAuthority reservationId
        state actor reason decidedAtMs)
  | grant {reservationId : String} {authority : ThreadAuthorityRecord}
      {confinement : ThreadConfinement} {actor : String}
      {decidedAtMs : UInt64} (reservation : HomeReservationRecord)
      (known : store.homeReservation reservationId = some reservation)
      (agrees : homeMatches reservation authority = true)
      (grants : store.GrantsHome reservation authority actor decidedAtMs
        after.threadAuthorities after.profiles after.homeReservations)
      (claims : after.threadBranchClaims = store.threadBranchClaims) :
      HomeStep store after (.persistProfileHome reservationId authority
        confinement actor decidedAtMs)

/-- A spawn never inserts a home. -/
theorem Spawns.not_home {env : StoreEnv} {store : ServerStore}
    {approval : ThreadSpawnApprovalRecord} {authority : ThreadAuthorityRecord}
    {classification : ThreadProfileAuthority}
    {authorities : UniqueTable ThreadAuthorityRow AuthorityKey
      ThreadAuthorityRow.keys}
    (spawns : store.Spawns env approval authority classification authorities) :
    ∀ row ∈ authorities,
      row ∈ store.threadAuthorities ∨ row.threadKind ≠ .home := by
  intro row member
  obtain member | rfl :=
    (UniqueTable.mem_insert? spawns.inserts.inserted).mp member
  · exact .inl member
  · obtain legacy | ⟨_, _, spawned⟩ := spawns.inserted_row
    · exact .inr (by simp [legacy])
    · exact .inr (by simp [spawned.isChild])

theorem commit_homeStep {env : StoreEnv} {store after : ServerStore}
    {command : StoreCommand}
    (committed : command.commit env store = .ok after) :
    HomeStep store after command := by
  cases command with
  | persistThreadSpawn approval authority confinement =>
      obtain ⟨⟨_, _⟩, persists, rfl⟩ := except_map_ok_iff.mp committed
      obtain rfl | ⟨_, _, ⟨_, rfl⟩ | ⟨_, _, _, _, spawns, rfl⟩⟩ :=
        persistThreadSpawn_ok persists
      · exact .same rfl rfl rfl rfl
      · exact .same rfl rfl rfl rfl
      · exact .spawn rfl rfl spawns.not_home rfl
  | claimThreadBranches workspaceId threadId claims claimedAtMs =>
      obtain ⟨⟨_, _⟩, claims, rfl⟩ := except_map_ok_iff.mp committed
      obtain ⟨rfl, _⟩ | ⟨_, _, rfl, claimed⟩ := claimThreadBranches_ok claims
      · exact .same rfl rfl rfl rfl
      · exact .claim rfl rfl rfl claimed
  | releaseThreadClaims threadId =>
      cases committed
      exact .release rfl rfl rfl rfl
  | persistThreadStop stop =>
      obtain ⟨⟨_, _⟩, stops, rfl⟩ := except_map_ok_iff.mp committed
      obtain ⟨rfl, _⟩ | ⟨authority, _, _, known, notHome, _, rfl⟩ :=
        persistThreadStop_ok stops
      · exact .same rfl rfl rfl rfl
      · exact .stop authority known notHome rfl rfl rfl rfl
  | reserveProfileHome reservation claims =>
      obtain ⟨⟨_, _⟩, reserves, rfl⟩ := except_map_ok_iff.mp committed
      obtain ⟨rfl, _⟩ | ⟨_, _, reserved, _, rfl⟩ :=
        reserveProfileHome_ok reserves
      · exact .same rfl rfl rfl rfl
      · exact .reserve reserved rfl rfl
  | decideProfileHomeWithoutAuthority reservationId state actor reason
      decidedAtMs =>
      obtain ⟨⟨_, _⟩, decides, rfl⟩ := except_map_ok_iff.mp committed
      obtain ⟨rfl, _⟩ | ⟨reservation, _, refused, known, pending, decided,
        rfl⟩ := decideProfileHomeWithoutAuthority_ok decides
      · exact .same rfl rfl rfl rfl
      · exact .refuse reservation refused known pending decided rfl rfl rfl
  | persistProfileHome reservationId authority confinement actor decidedAtMs =>
      obtain ⟨⟨_, _⟩, persists, rfl⟩ := except_map_ok_iff.mp committed
      obtain rfl | ⟨reservation, _, _, _, _, _, _, _, known, agrees, grants,
        rfl⟩ := persistProfileHome_ok persists
      · exact .same rfl rfl rfl rfl
      · exact .grant reservation known agrees grants rfl
  | persistChildReturn | persistParentAnswer | admitThreadRunAndReserve
  | settleThreadRunDeliveries | discardThreadRunAdmission =>
      have same := commit_sameThreads rfl committed
      exact .same same.reservations same.profiles same.authorities same.claims

theorem isPending_iff {reservationId : String} {row : HomeReservationRecord} :
    isPending reservationId row = true ↔
      row.id = reservationId ∧ row.state = .pending := by
  simp [isPending]

theorem homeReservation_eq_some_iff {store : ServerStore}
    {reservationId : String} {row : HomeReservationRecord} :
    store.homeReservation reservationId = some row ↔
      row ∈ store.homeReservations ∧ row.id = reservationId := by
  unfold homeReservation
  rw [UniqueTable.find?_eq_some_iff (.id reservationId)]
  · simp
  · intro other selected
    simp [HomeReservationRecord.keys, beq_iff_eq.mp selected]

/-- A row of the later table is an earlier row, decided at most once. -/
def DecidedFrom (old row : HomeReservationRecord) : Prop :=
  row.request = old.request ∧ (old.state ≠ .pending → row = old)

theorem DecidedFrom.refl (row : HomeReservationRecord) : DecidedFrom row row :=
  ⟨rfl, fun _ => rfl⟩

theorem DecidedFrom.trans {old middle row : HomeReservationRecord}
    (earlier : DecidedFrom old middle) (later : DecidedFrom middle row) :
    DecidedFrom old row := by
  refine ⟨later.1.trans earlier.1, fun decided => ?_⟩
  obtain rfl := earlier.2 decided
  exact later.2 decided

/-- The columns that no decision touches. -/
theorem DecidedFrom.columns {old row : HomeReservationRecord}
    (decided : DecidedFrom old row) :
    row.id = old.id ∧ row.profileId = old.profileId ∧
      row.workspaceId = old.workspaceId ∧
      row.idempotencyKey = old.idempotencyKey ∧ row.proposal = old.proposal ∧
      row.draft = old.draft := by
  have same := decided.1
  simp only [HomeReservationRecord.request,
    HomeReservationRecord.mk.injEq] at same
  tauto

/-- A decision of the pending rows with some identifier. -/
theorem decidedFrom_of_update {reservationId : String}
    {decision : HomeReservationRecord → HomeReservationRecord}
    (keeps : ∀ row, (decision row).request = row.request)
    (row : HomeReservationRecord) :
    DecidedFrom row
      (if isPending reservationId row then decision row else row) := by
  cases selected : isPending reservationId row with
  | false => exact .refl row
  | true =>
      refine ⟨keeps row, fun decided => ?_⟩
      exact absurd (isPending_iff.mp selected).2 decided

@[simp]
theorem request_refuse (state : HomeReservationState) (actor : String)
    (reason : Option String) (decidedAtMs : UInt64)
    (row : HomeReservationRecord) :
    (refuse state actor reason decidedAtMs row).request = row.request :=
  rfl

@[simp]
theorem request_grant (actor : String) (decidedAtMs : UInt64)
    (row : HomeReservationRecord) :
    (grant actor decidedAtMs row).request = row.request :=
  rfl

theorem HomeStep.exists_decided {store after : ServerStore}
    {command : StoreCommand} (step : HomeStep store after command)
    {old : HomeReservationRecord} (member : old ∈ store.homeReservations) :
    ∃ row ∈ after.homeReservations, DecidedFrom old row := by
  cases step with
  | same reservations | spawn reservations | claim reservations
  | release reservations | stop _ _ _ reservations =>
      exact ⟨old, reservations ▸ member, .refl old⟩
  | reserve reserves =>
      exact ⟨old, (UniqueTable.mem_insert? reserves.inserted).mpr
        (.inl member), .refl old⟩
  | refuse reservation _ _ _ decided =>
      exact ⟨_, (UniqueTable.mem_update? decided).mpr ⟨old, member, rfl⟩,
        decidedFrom_of_update (request_refuse _ _ _ _) old⟩
  | grant reservation _ _ grants =>
      exact ⟨_, (UniqueTable.mem_update? grants.decided).mpr
        ⟨old, member, rfl⟩, decidedFrom_of_update (request_grant _ _) old⟩

/-- A reservation of the later store is an earlier one or a new request. -/
theorem HomeStep.origin {store after : ServerStore}
    {command : StoreCommand} (step : HomeStep store after command)
    {row : HomeReservationRecord} (member : row ∈ after.homeReservations) :
    (∃ old ∈ store.homeReservations, DecidedFrom old row) ∨
      ∃ claims, command = .reserveProfileHome row claims := by
  cases step with
  | same reservations | spawn reservations | claim reservations
  | release reservations | stop _ _ _ reservations =>
      exact .inl ⟨row, reservations ▸ member, .refl row⟩
  | @reserve reservation claims reserves =>
      obtain member | rfl := (UniqueTable.mem_insert? reserves.inserted).mp
        member
      · exact .inl ⟨row, member, .refl row⟩
      · exact .inr ⟨claims, rfl⟩
  | refuse reservation _ _ _ decided =>
      obtain ⟨old, oldMember, rfl⟩ := (UniqueTable.mem_update? decided).mp
        member
      exact .inl ⟨old, oldMember,
        decidedFrom_of_update (request_refuse _ _ _ _) old⟩
  | grant reservation _ _ grants =>
      obtain ⟨old, oldMember, rfl⟩ :=
        (UniqueTable.mem_update? grants.decided).mp member
      exact .inl ⟨old, oldMember,
        decidedFrom_of_update (request_grant _ _) old⟩

theorem exists_decided_afterCalls (env : StoreEnv) {store : ServerStore}
    {old : HomeReservationRecord} (member : old ∈ store.homeReservations)
    (calls : List StoreCall) :
    ∃ row ∈ (store.afterCalls env calls).homeReservations,
      DecidedFrom old row := by
  have kept : ∀ call ∈ calls, ∀ before after : ServerStore,
      (∃ row ∈ before.homeReservations, DecidedFrom old row) →
      call.command.commit env before = .ok after →
      ∃ row ∈ after.homeReservations, DecidedFrom old row := by
    rintro call _ before after ⟨middle, middleMember, earlier⟩ committed
    obtain ⟨row, rowMember, later⟩ :=
      (commit_homeStep committed).exists_decided middleMember
    exact ⟨row, rowMember, earlier.trans later⟩
  exact afterCalls_invariant calls kept ⟨old, member, .refl old⟩

/-- Reservations, profiles and home authorities fit together. -/
structure HomesMatch (store : ServerStore) : Prop where
  workspace : ∀ row ∈ store.homeReservations, ∃ profile ∈ store.profiles,
    profile.id = row.profileId ∧ profile.workspaceId = row.workspaceId
  homeless : ∀ profile ∈ store.profiles, profile.homeThreadId = none →
    ∀ row ∈ store.homeReservations, row.profileId = profile.id →
      row.state ≠ .granted
  granted : ∀ profile ∈ store.profiles, ∀ threadId,
    profile.homeThreadId = some threadId → ∃ row ∈ store.homeReservations,
      row.profileId = profile.id ∧ row.state = .granted ∧
        row.draft.threadId = threadId
  unique : ∀ first ∈ store.homeReservations,
    ∀ second ∈ store.homeReservations, first.state = .granted →
      second.state = .granted → first.profileId = second.profileId →
      first = second
  homes : ∀ row ∈ store.threadAuthorities, row.threadKind = .home →
    ∃ profile ∈ store.profiles, row.profileId = some profile.id ∧
      profile.homeThreadId = some row.threadId

theorem HomesMatch.of_same {store after : ServerStore}
    (fits : store.HomesMatch)
    (reservations : after.homeReservations = store.homeReservations)
    (profiles : after.profiles = store.profiles)
    (threads : ∀ row ∈ after.threadAuthorities,
      row ∈ store.threadAuthorities ∨ row.threadKind ≠ .home) :
    after.HomesMatch where
  workspace := by
    rw [reservations, profiles]
    exact fits.workspace
  homeless := by
    rw [reservations, profiles]
    exact fits.homeless
  granted := by
    rw [reservations, profiles]
    exact fits.granted
  unique := by
    rw [reservations]
    exact fits.unique
  homes row member isHome := by
    rw [profiles]
    obtain member | notHome := threads row member
    · exact fits.homes row member isHome
    · exact absurd isHome notHome

theorem HomesMatch.reserve {store after : ServerStore}
    (fits : store.HomesMatch) {reservation : HomeReservationRecord}
    {claims : List (String × String)}
    (reserves : store.Reserves reservation claims after.homeReservations
      after.threadBranchClaims)
    (profiles : after.profiles = store.profiles)
    (authorities : after.threadAuthorities = store.threadAuthorities) :
    after.HomesMatch := by
  have member : ∀ row, row ∈ after.homeReservations ↔
      row ∈ store.homeReservations ∨ row = reservation :=
    fun row => UniqueTable.mem_insert? reserves.inserted
  have granted : ∀ row ∈ after.homeReservations, row.state = .granted →
      row ∈ store.homeReservations := by
    intro row rowMember isGranted
    obtain rowMember | rfl := (member row).mp rowMember
    · exact rowMember
    · rw [reserves.pending] at isGranted
      cases isGranted
  refine ⟨?_, ?_, ?_, ?_, ?_⟩
  · intro row rowMember
    rw [profiles]
    obtain rowMember | rfl := (member row).mp rowMember
    · exact fits.workspace row rowMember
    · obtain ⟨profile, known, sameWorkspace, _⟩ := reserves.homeless
      have selected := List.find?_some known
      exact ⟨profile, List.mem_of_find?_eq_some known,
        by simpa using selected, sameWorkspace⟩
  · intro profile known none row rowMember sameProfile isGranted
    exact fits.homeless profile (profiles ▸ known) none row
      (granted row rowMember isGranted) sameProfile isGranted
  · intro profile known threadId isHome
    obtain ⟨row, rowMember, isGranted⟩ := fits.granted profile
      (profiles ▸ known) threadId isHome
    exact ⟨row, (member row).mpr (.inl rowMember), isGranted⟩
  · intro first firstMember second secondMember firstGranted secondGranted
    exact fits.unique first (granted first firstMember firstGranted) second
      (granted second secondMember secondGranted) firstGranted secondGranted
  · rw [authorities, profiles]
    exact fits.homes

theorem HomesMatch.refuse {store after : ServerStore}
    (fits : store.HomesMatch) {reservationId : String}
    {state : HomeReservationState} {actor : String} {reason : Option String}
    {decidedAtMs : UInt64} (refused : state = .denied ∨ state = .canceled)
    (decided : store.homeReservations.update? (isPending reservationId)
      (ServerStore.refuse state actor reason decidedAtMs) =
        some after.homeReservations)
    (profiles : after.profiles = store.profiles)
    (authorities : after.threadAuthorities = store.threadAuthorities) :
    after.HomesMatch := by
  have granted : ∀ row ∈ after.homeReservations, row.state = .granted →
      row ∈ store.homeReservations := by
    intro row rowMember isGranted
    obtain ⟨old, oldMember, rfl⟩ := (UniqueTable.mem_update? decided).mp
      rowMember
    split at isGranted
    · obtain rfl | rfl := refused <;> cases isGranted
    next unselected =>
      rw [if_neg unselected]
      exact oldMember
  refine ⟨?_, ?_, ?_, ?_, ?_⟩
  · intro row rowMember
    rw [profiles]
    obtain ⟨old, oldMember, rfl⟩ := (UniqueTable.mem_update? decided).mp
      rowMember
    obtain ⟨_, sameProfile, sameWorkspace, _⟩ :=
      (decidedFrom_of_update (request_refuse _ _ _ _) old).columns
    rw [sameProfile, sameWorkspace]
    exact fits.workspace old oldMember
  · intro profile known none row rowMember sameProfile isGranted
    exact fits.homeless profile (profiles ▸ known) none row
      (granted row rowMember isGranted) sameProfile isGranted
  · intro profile known threadId isHome
    obtain ⟨row, rowMember, sameProfile, isGranted, isDraft⟩ :=
      fits.granted profile (profiles ▸ known) threadId isHome
    refine ⟨row, ?_, sameProfile, isGranted, isDraft⟩
    refine (UniqueTable.mem_update? decided).mpr ⟨row, rowMember, ?_⟩
    simp [isPending, isGranted]
  · intro first firstMember second secondMember firstGranted secondGranted
    exact fits.unique first (granted first firstMember firstGranted) second
      (granted second secondMember secondGranted) firstGranted secondGranted
  · rw [authorities, profiles]
    exact fits.homes

theorem isHomeless_iff {profileId : ProfileId} {row : ProfileRow} :
    isHomeless profileId row = true ↔
      row.id = profileId ∧ row.homeThreadId = none := by
  simp [isHomeless]

/-- The profile of the reservation becomes the only one with a new home, and
the reservation the only one that is newly granted. -/
theorem HomesMatch.grant {store after : ServerStore}
    (fits : store.HomesMatch) {reservation : HomeReservationRecord}
    {authority : ThreadAuthorityRecord} {actor : String}
    {decidedAtMs : UInt64} (durable : reservation ∈ store.homeReservations)
    (agrees : homeMatches reservation authority = true)
    (grants : store.GrantsHome reservation authority actor decidedAtMs
      after.threadAuthorities after.profiles after.homeReservations) :
    after.HomesMatch := by
  obtain ⟨isPending, sameThread⟩ : reservation.state = .pending ∧
      authority.threadId = reservation.draft.threadId := by
    simp only [homeMatches, Bool.and_eq_true, beq_iff_eq] at agrees
    tauto
  obtain ⟨owner, ownerMember, ownerHomeless⟩ : ∃ owner ∈ store.profiles,
      isHomeless reservation.profileId owner = true :=
    List.countP_pos_iff.mp (by rw [grants.homeless]; exact Nat.one_pos)
  have ownerIs := isHomeless_iff.mp ownerHomeless
  have selected : ∀ row ∈ store.homeReservations,
      ServerStore.isPending reservation.id row = true → row = reservation := by
    intro row member isSelected
    exact UniqueTable.eq_of_shared_key member durable (.id reservation.id)
      (by simp [HomeReservationRecord.keys, (isPending_iff.mp isSelected).1])
      (by simp [HomeReservationRecord.keys])
  have noGranted : ∀ row ∈ store.homeReservations,
      row.profileId = reservation.profileId → row.state ≠ .granted := by
    intro row member sameProfile
    exact fits.homeless owner ownerMember ownerIs.2 row member
      (sameProfile.trans ownerIs.1.symm)
  -- A later row is an earlier one, or the reservation that was just granted.
  have later : ∀ row ∈ after.homeReservations,
      row ∈ store.homeReservations ∨
        row = ServerStore.grant actor decidedAtMs reservation := by
    intro row member
    obtain ⟨old, oldMember, rfl⟩ :=
      (UniqueTable.mem_update? grants.decided).mp member
    split
    next isSelected => exact .inr (by rw [selected old oldMember isSelected])
    next => exact .inl oldMember
  have laterProfile : ∀ profile ∈ after.profiles,
      (profile ∈ store.profiles ∧ (profile.homeThreadId = none →
          profile.id ≠ reservation.profileId)) ∨
        profile.id = reservation.profileId ∧
          profile.homeThreadId = some authority.threadId := by
    intro profile member
    obtain ⟨old, oldMember, rfl⟩ :=
      (UniqueTable.mem_update? grants.designated).mp member
    split
    next isSelected => exact .inr ⟨(isHomeless_iff.mp isSelected).1, rfl⟩
    next unselected =>
      exact .inl ⟨oldMember, fun none same =>
        unselected (isHomeless_iff.mpr ⟨same, none⟩)⟩
  have grantedMember : ServerStore.grant actor decidedAtMs reservation ∈
      after.homeReservations := by
    refine (UniqueTable.mem_update? grants.decided).mpr
      ⟨reservation, durable, ?_⟩
    rw [if_pos (isPending_iff.mpr ⟨rfl, isPending⟩)]
  have keptProfile : ∀ profile ∈ store.profiles, ∃ kept ∈ after.profiles,
      kept.id = profile.id ∧ kept.workspaceId = profile.workspaceId ∧
        (profile.homeThreadId ≠ none →
          kept.homeThreadId = profile.homeThreadId) := by
    intro profile member
    refine ⟨_, (UniqueTable.mem_update? grants.designated).mpr
      ⟨profile, member, rfl⟩, ?_⟩
    split
    next isSelected =>
      exact ⟨rfl, rfl, fun some => absurd (isHomeless_iff.mp isSelected).2
        some⟩
    next => exact ⟨rfl, rfl, fun _ => rfl⟩
  refine ⟨?_, ?_, ?_, ?_, ?_⟩
  · intro row member
    have earlier : ∃ profile ∈ store.profiles, profile.id = row.profileId ∧
        profile.workspaceId = row.workspaceId := by
      obtain oldMember | rfl := later row member
      · exact fits.workspace row oldMember
      · exact fits.workspace reservation durable
    obtain ⟨profile, profileMember, sameId, sameWorkspace⟩ := earlier
    obtain ⟨kept, keptMember, keptId, keptWorkspace, _⟩ :=
      keptProfile profile profileMember
    exact ⟨kept, keptMember, keptId.trans sameId,
      keptWorkspace.trans sameWorkspace⟩
  · intro profile member none row rowMember sameProfile isGranted
    obtain ⟨oldProfile, foreign⟩ | ⟨_, isHome⟩ := laterProfile profile member
    · obtain oldMember | rfl := later row rowMember
      · exact fits.homeless profile oldProfile none row oldMember sameProfile
          isGranted
      · exact foreign none sameProfile.symm
    · rw [none] at isHome
      cases isHome
  · intro profile member threadId isHome
    obtain ⟨oldProfile, _⟩ | ⟨sameId, isNew⟩ := laterProfile profile member
    · obtain ⟨row, rowMember, sameProfile, isGranted, isDraft⟩ :=
        fits.granted profile oldProfile threadId isHome
      refine ⟨row, ?_, sameProfile, isGranted, isDraft⟩
      refine (UniqueTable.mem_update? grants.decided).mpr ⟨row, rowMember, ?_⟩
      simp [ServerStore.isPending, isGranted]
    · refine ⟨_, grantedMember, sameId.symm, rfl, ?_⟩
      rw [isNew] at isHome
      rw [← Option.some.inj isHome, sameThread]
      rfl
  · intro first firstMember second secondMember firstGranted secondGranted
      sameProfile
    obtain firstOld | rfl := later first firstMember
    · obtain secondOld | rfl := later second secondMember
      · exact fits.unique first firstOld second secondOld firstGranted
          secondGranted sameProfile
      · exact absurd firstGranted (noGranted first firstOld sameProfile)
    · obtain secondOld | rfl := later second secondMember
      · exact absurd secondGranted
          (noGranted second secondOld sameProfile.symm)
      · rfl
  · intro row member isHome
    obtain member | rfl :=
      (UniqueTable.mem_insert? grants.inserts.inserted).mp member
    · obtain ⟨profile, profileMember, sameProfile, isThread⟩ :=
        fits.homes row member isHome
      obtain ⟨kept, keptMember, keptId, _, keptHome⟩ :=
        keptProfile profile profileMember
      refine ⟨kept, keptMember, by rw [keptId, sameProfile], ?_⟩
      rw [keptHome (by simp [isThread]), isThread]
    · refine ⟨{ owner with homeThreadId := some authority.threadId }, ?_, ?_,
        rfl⟩
      · refine (UniqueTable.mem_update? grants.designated).mpr
          ⟨owner, ownerMember, ?_⟩
        rw [if_pos ownerHomeless]
      · simp [homeRow, authorityRow, ownerIs.1]

theorem HomeStep.homesMatch {store after : ServerStore}
    {command : StoreCommand} (step : HomeStep store after command)
    (fits : store.HomesMatch) : after.HomesMatch := by
  cases step with
  | same reservations profiles authorities
  | claim reservations profiles authorities
  | release reservations profiles authorities
  | stop _ _ _ reservations profiles authorities =>
      exact fits.of_same reservations profiles
        fun row member => .inl (authorities ▸ member)
  | spawn reservations profiles threads =>
      exact fits.of_same reservations profiles threads
  | reserve reserves profiles authorities =>
      exact fits.reserve reserves profiles authorities
  | refuse reservation refused _ _ decided profiles authorities =>
      exact fits.refuse refused decided profiles authorities
  | grant reservation known agrees grants =>
      exact fits.grant (homeReservation_eq_some_iff.mp known).1 agrees grants

theorem homesMatch_afterCalls {env : StoreEnv} {start : ServerStore}
    (fits : start.HomesMatch) (calls : List StoreCall) :
    (start.afterCalls env calls).HomesMatch := by
  apply afterCalls_invariant calls _ fits
  intro call _ store after held committed
  exact (commit_homeStep committed).homesMatch held

/-- A store in which no profile was ever opened. -/
structure NoHomes (store : ServerStore) : Prop where
  reservations : store.homeReservations = .empty
  homeless : ∀ profile ∈ store.profiles, profile.homeThreadId = none
  threads : ∀ row ∈ store.threadAuthorities, row.threadKind ≠ .home

theorem NoHomes.homesMatch {store : ServerStore} (noHomes : store.NoHomes) :
    store.HomesMatch where
  workspace row member := by simp [noHomes.reservations] at member
  homeless profile _ _ row member := by simp [noHomes.reservations] at member
  granted profile member threadId isHome := by
    rw [noHomes.homeless profile member] at isHome
    cases isHome
  unique first member := by simp [noHomes.reservations] at member
  homes row member isHome := absurd isHome (noHomes.threads row member)

theorem profile_eq_some_iff {store : ServerStore} {profileId : ProfileId}
    {row : ProfileRow} :
    store.profile profileId = some row ↔
      row ∈ store.profiles ∧ row.id = profileId := by
  unfold profile
  rw [UniqueTable.find?_eq_some_iff (.id profileId)]
  · simp
  · intro other selected
    simp [ProfileRow.keys, beq_iff_eq.mp selected]

theorem homeReservationByKey_eq_some_iff {store : ServerStore}
    {profileId : ProfileId} {idempotencyKey : String}
    {row : HomeReservationRecord} :
    store.homeReservationByKey profileId idempotencyKey = some row ↔
      row ∈ store.homeReservations ∧ row.profileId = profileId ∧
        row.idempotencyKey = idempotencyKey := by
  unfold homeReservationByKey
  rw [UniqueTable.find?_eq_some_iff (.request profileId idempotencyKey)]
  · simp
  · intro other selected
    simp only [Bool.and_eq_true, beq_iff_eq] at selected
    simp [HomeReservationRecord.keys, selected]

/-- A request that a client may send again: undecided, in the workspace of its
profile. -/
structure RepeatsRequest (existing request : HomeReservationRecord) :
    Prop where
  pending : request.state = .pending
  undecided : request.decidedBy = none ∧ request.reason = none ∧
    request.decidedAtMs = none
  sameProfile : request.profileId = existing.profileId
  sameWorkspace : request.workspaceId = existing.workspaceId
  sameKey : request.idempotencyKey = existing.idempotencyKey

theorem reserveProfileHome_of_known {store : ServerStore}
    (fits : store.HomesMatch) {existing request : HomeReservationRecord}
    (durable : existing ∈ store.homeReservations)
    (repeats : RepeatsRequest existing request)
    (claims : List (String × String)) :
    (request.proposal = existing.proposal →
      store.reserveProfileHome request claims =
        .ok (.replayed existing, store)) ∧
    (request.proposal ≠ existing.proposal →
      ∃ message, store.reserveProfileHome request claims =
        .ok (.conflict message, store)) := by
  obtain ⟨profile, profileMember, sameId, sameWorkspace⟩ :=
    fits.workspace existing durable
  have known : store.profile request.profileId = some profile :=
    profile_eq_some_iff.mpr
      ⟨profileMember, sameId.trans repeats.sameProfile.symm⟩
  have found : store.homeReservationByKey request.profileId
      request.idempotencyKey = some existing :=
    homeReservationByKey_eq_some_iff.mpr
      ⟨durable, repeats.sameProfile.symm, repeats.sameKey.symm⟩
  have workspace : profile.workspaceId = request.workspaceId :=
    sameWorkspace.trans repeats.sameWorkspace.symm
  simp only [reserveProfileHome, repeats.pending, repeats.undecided, known,
    found, workspace]
  constructor
  · intro same
    simp [same]
  · intro different
    simp [different.symm]

/-- The threads that the reservations of a run draft. -/
def draftedThreads (calls : List StoreCall) : List String :=
  calls.filterMap fun call =>
    match call.command with
    | .reserveProfileHome reservation _ => some reservation.draft.threadId
    | _ => none

end ServerStore

/-- The commands that reserve, decide and stop threads and claim branches. -/
def StoreCommand.isHome : StoreCommand → Bool
  | .reserveProfileHome _ _ | .decideProfileHomeWithoutAuthority _ _ _ _ _
  | .persistProfileHome _ _ _ _ _ | .claimThreadBranches _ _ _ _
  | .releaseThreadClaims _ | .persistThreadStop _ => true
  | _ => false

namespace ServerStore

theorem mem_draftedThreads {calls : List StoreCall} {call : StoreCall}
    {reservation : HomeReservationRecord} {claims : List (String × String)}
    (member : call ∈ calls)
    (reserves : call.command = .reserveProfileHome reservation claims) :
    reservation.draft.threadId ∈ draftedThreads calls :=
  List.mem_filterMap.mpr ⟨call, member, by simp [reserves]⟩

theorem threadId_of_homeMatches {reservation : HomeReservationRecord}
    {authority : ThreadAuthorityRecord}
    (agrees : homeMatches reservation authority = true) :
    authority.threadId = reservation.draft.threadId := by
  simp only [homeMatches, Bool.and_eq_true, beq_iff_eq] at agrees
  tauto

/-- Reservations and new authorities are for drafted threads. -/
structure Drafted (start store : ServerStore) (threads : List String) :
    Prop where
  reservations : ∀ row ∈ store.homeReservations, row.draft.threadId ∈ threads
  authorities : ∀ row ∈ store.threadAuthorities,
    row ∈ start.threadAuthorities ∨ row.threadId ∈ threads

theorem drafted_afterCalls {env : StoreEnv} {start : ServerStore}
    (noReservations : start.homeReservations = .empty)
    (calls : List StoreCall)
    (homeOnly : ∀ call ∈ calls, call.command.isHome = true) :
    Drafted start (start.afterCalls env calls) (draftedThreads calls) := by
  have kept : ∀ call ∈ calls, ∀ store after : ServerStore,
      Drafted start store (draftedThreads calls) →
      call.command.commit env store = .ok after →
      Drafted start after (draftedThreads calls) := by
    intro call called store after drafted committed
    have step := commit_homeStep committed
    have reservations : ∀ row ∈ after.homeReservations,
        row.draft.threadId ∈ draftedThreads calls := by
      intro row member
      obtain ⟨old, oldMember, decided⟩ | ⟨claims, reserves⟩ :=
        step.origin member
      · rw [decided.columns.2.2.2.2.2]
        exact drafted.reservations old oldMember
      · exact mem_draftedThreads called reserves
    refine ⟨reservations, ?_⟩
    generalize isCommand : call.command = command at step
    have isHome := homeOnly call called
    rw [isCommand] at isHome
    cases step with
    | same _ _ authorities | claim _ _ authorities | release _ _ authorities
    | stop _ _ _ _ _ authorities | reserve _ _ authorities
    | refuse _ _ _ _ _ _ authorities =>
        rw [authorities]
        exact drafted.authorities
    | spawn => cases isHome
    | grant reservation known agrees grants =>
        intro row member
        obtain member | rfl :=
          (UniqueTable.mem_insert? grants.inserts.inserted).mp member
        · exact drafted.authorities row member
        · right
          have isDraft : (homeRow reservation _).threadId =
              reservation.draft.threadId := threadId_of_homeMatches agrees
          rw [isDraft]
          exact drafted.reservations reservation
            (homeReservation_eq_some_iff.mp known).1
  have initial : Drafted start start (draftedThreads calls) :=
    ⟨fun row member => by simp [noReservations] at member,
      fun row member => .inl member⟩
  exact afterCalls_invariant calls kept initial

/-- While its reservation is pending or granted, the thread that it drafts
keeps the claims, and any authority of that thread is the home. -/
structure KeepsClaims (store : ServerStore)
    (reservation : HomeReservationRecord) (claims : List (String × String)) :
    Prop where
  durable : ∃ row ∈ store.homeReservations, row.id = reservation.id
  only : ∀ row ∈ store.homeReservations,
    row.draft.threadId = reservation.draft.threadId → row.id = reservation.id
  threads : ∀ row ∈ store.threadAuthorities,
    row.threadId = reservation.draft.threadId → row.threadKind = .home
  claimed : ∀ row ∈ store.homeReservations, row.id = reservation.id →
    row.IsLive → ∀ claim ∈ claims,
      claimOf reservation.workspaceId reservation.draft.threadId
        reservation.createdAtMs claim ∈ store.threadBranchClaims

theorem KeepsClaims.of_kept {store after : ServerStore}
    {reservation : HomeReservationRecord} {claims : List (String × String)}
    (keeps : store.KeepsClaims reservation claims)
    (reservations : after.homeReservations = store.homeReservations)
    (authorities : after.threadAuthorities = store.threadAuthorities)
    (kept : ∀ row ∈ store.threadBranchClaims,
      row.threadId = reservation.draft.threadId →
      row ∈ after.threadBranchClaims) :
    after.KeepsClaims reservation claims where
  durable := by
    rw [reservations]
    exact keeps.durable
  only := by
    rw [reservations]
    exact keeps.only
  threads := by
    rw [authorities]
    exact keeps.threads
  claimed row member sameId isLive claim requested :=
    kept _ (keeps.claimed row (reservations ▸ member) sameId isLive claim
      requested) rfl

theorem mem_delete_of_other_thread {store : ServerStore}
    {row : BranchClaimRecord} {threadId other : String}
    (member : row ∈ store.threadBranchClaims)
    (isThread : row.threadId = threadId) (different : other ≠ threadId) :
    row ∈ store.threadBranchClaims.delete (·.threadId == other) := by
  rw [UniqueTable.mem_delete]
  refine ⟨member, ?_⟩
  rw [beq_eq_false_iff_ne, isThread]
  exact different.symm

theorem eq_of_same_id {store : ServerStore}
    {first second : HomeReservationRecord}
    (firstMember : first ∈ store.homeReservations)
    (secondMember : second ∈ store.homeReservations)
    (sameId : first.id = second.id) : first = second :=
  UniqueTable.eq_of_shared_key firstMember secondMember (.id first.id)
    (by simp [HomeReservationRecord.keys])
    (by simp [HomeReservationRecord.keys, sameId])

/-- A decision keeps the claims of the reservations that stay pending or
granted. -/
theorem KeepsClaims.of_decided {store after : ServerStore}
    {reservation : HomeReservationRecord} {claims : List (String × String)}
    (keeps : store.KeepsClaims reservation claims) {reservationId : String}
    {decision : HomeReservationRecord → HomeReservationRecord}
    (sameRequest : ∀ row, (decision row).request = row.request)
    (decided : store.homeReservations.update? (isPending reservationId)
      decision = some after.homeReservations)
    (threads : ∀ row ∈ after.threadAuthorities,
      row.threadId = reservation.draft.threadId → row.threadKind = .home)
    (kept : ∀ old ∈ store.homeReservations, old.id = reservation.id →
      (if isPending reservationId old then decision old else old).IsLive →
      old.IsLive ∧
        ∀ row ∈ store.threadBranchClaims,
          row.threadId = reservation.draft.threadId →
          row ∈ after.threadBranchClaims) :
    after.KeepsClaims reservation claims := by
  have member := fun row => (UniqueTable.mem_update? decided :
    row ∈ after.homeReservations ↔ _)
  have columns := fun old => (@decidedFrom_of_update reservationId decision
    sameRequest old).columns
  obtain ⟨durable, durableMember, durableId⟩ := keeps.durable
  refine ⟨⟨_, (member _).mpr ⟨durable, durableMember, rfl⟩, ?_⟩, ?_, threads,
    ?_⟩
  · rw [(columns durable).1, durableId]
  · intro row rowMember sameThread
    obtain ⟨old, oldMember, rfl⟩ := (member row).mp rowMember
    obtain ⟨sameId, _, _, _, _, sameDraft⟩ := columns old
    rw [sameDraft] at sameThread
    rw [sameId]
    exact keeps.only old oldMember sameThread
  · intro row rowMember sameId isLive claim requested
    obtain ⟨old, oldMember, rfl⟩ := (member row).mp rowMember
    rw [(columns old).1] at sameId
    obtain ⟨wasLive, keptClaims⟩ := kept old oldMember sameId isLive
    exact keptClaims _ (keeps.claimed old oldMember sameId wasLive claim
      requested) rfl

theorem KeepsClaims.step {store after : ServerStore}
    {reservation : HomeReservationRecord} {claims : List (String × String)}
    (keeps : store.KeepsClaims reservation claims) {command : StoreCommand}
    (step : HomeStep store after command) (isHome : command.isHome = true)
    (unreleased : command ≠
      .releaseThreadClaims reservation.draft.threadId)
    (otherDraft : ∀ other otherClaims,
      command = .reserveProfileHome other otherClaims →
      other.draft.threadId ≠ reservation.draft.threadId) :
    after.KeepsClaims reservation claims := by
  cases step with
  | same reservations _ authorities table =>
      exact keeps.of_kept reservations authorities
        fun row member _ => table ▸ member
  | spawn => cases isHome
  | claim reservations _ authorities claimed =>
      exact keeps.of_kept reservations authorities
        fun row member _ => claimed.kept row member
  | @release threadId reservations _ authorities table =>
      apply keeps.of_kept reservations authorities
      intro row member isThread
      rw [table]
      apply mem_delete_of_other_thread member isThread
      rintro rfl
      exact unreleased rfl
  | @stop stop authority known notHome reservations _ authorities table =>
      apply keeps.of_kept reservations authorities
      intro row member isThread
      rw [table]
      apply mem_delete_of_other_thread member isThread
      -- Only a thread that is no home is stopped.
      intro sameThread
      obtain ⟨thread, threadMember, isStopped, rfl⟩ :=
        threadAuthority_eq_some known
      exact notHome (keeps.threads thread threadMember
        (isStopped.trans sameThread))
  | @reserve other otherClaims reserves _ authorities =>
      have different := otherDraft other otherClaims rfl
      have member := fun row => (UniqueTable.mem_insert? reserves.inserted :
        row ∈ after.homeReservations ↔ _)
      obtain ⟨row, rowMember, sameId⟩ := keeps.durable
      refine ⟨⟨row, (member row).mpr (.inl rowMember), sameId⟩, ?_, ?_, ?_⟩
      · intro later laterMember sameThread
        obtain laterMember | rfl := (member later).mp laterMember
        · exact keeps.only later laterMember sameThread
        · exact absurd sameThread different
      · rw [authorities]
        exact keeps.threads
      · intro later laterMember laterId isLive claim requested
        obtain laterMember | rfl := (member later).mp laterMember
        · have held := keeps.claimed later laterMember laterId isLive claim
            requested
          rw [UniqueTable.mem_iff, reserves.claimed]
          exact List.mem_append_left _ held
        · have separate := (UniqueTable.insert?_eq_some reserves.inserted).2
            row rowMember (.id row.id) (by simp [HomeReservationRecord.keys])
          exact absurd (by simp [HomeReservationRecord.keys, laterId, sameId])
            separate
  | refuse refused isRefused known pending decided _ authorities table =>
      obtain ⟨refusedMember, refusedId⟩ :=
        homeReservation_eq_some_iff.mp known
      apply keeps.of_decided (request_refuse _ _ _ _) decided
      · rw [authorities]
        exact keeps.threads
      intro old oldMember sameId isLive
      split at isLive
      · obtain rfl | rfl := isRefused <;> simp [refuse, HomeReservationRecord.IsLive] at isLive
      next unselected =>
        refine ⟨isLive, fun row member isThread => ?_⟩
        rw [table]
        apply mem_delete_of_other_thread member isThread
        -- The refused reservation would be the one that is not selected.
        intro sameThread
        have isRefusedRow := keeps.only refused refusedMember sameThread
        obtain rfl := eq_of_same_id oldMember refusedMember
          (sameId.trans isRefusedRow.symm)
        exact unselected (isPending_iff.mpr ⟨refusedId, pending⟩)
  | grant granted known agrees grants table =>
      apply keeps.of_decided (request_grant _ _) grants.decided
      · intro row member sameThread
        obtain member | rfl :=
          (UniqueTable.mem_insert? grants.inserts.inserted).mp member
        · exact keeps.threads row member sameThread
        · rfl
      intro old oldMember sameId isLive
      refine ⟨?_, fun row member _ => table ▸ member⟩
      split at isLive
      next selected => exact .inl (isPending_iff.mp selected).2
      next => exact isLive

/-- The reservation that a run makes first holds its claims, since no earlier
reservation or thread has the thread that it drafts. -/
theorem Reserves.keepsClaims {store after : ServerStore}
    {reservation : HomeReservationRecord} {claims : List (String × String)}
    (reserves : store.Reserves reservation claims after.homeReservations
      after.threadBranchClaims)
    (authorities : after.threadAuthorities = store.threadAuthorities)
    (newDraft : ∀ row ∈ store.homeReservations,
      row.draft.threadId ≠ reservation.draft.threadId)
    (newThread : ∀ row ∈ store.threadAuthorities,
      row.threadId ≠ reservation.draft.threadId) :
    after.KeepsClaims reservation claims where
  durable := ⟨reservation,
    (UniqueTable.mem_insert? reserves.inserted).mpr (.inr rfl), rfl⟩
  only row member sameThread := by
    obtain member | rfl := (UniqueTable.mem_insert? reserves.inserted).mp
      member
    · exact absurd sameThread (newDraft row member)
    · rfl
  threads row member sameThread :=
    absurd sameThread (newThread row (authorities ▸ member))
  claimed row _ _ _ claim requested := by
    rw [UniqueTable.mem_iff, reserves.claimed]
    exact List.mem_append_right _ (List.mem_map_of_mem requested)

/-- The run of `calls` makes the reservation at this point. -/
def ReservesAt (env : StoreEnv) (start : ServerStore)
    (earlier : List StoreCall) (reservation : HomeReservationRecord)
    (claims : List (String × String)) : Prop :=
  ∃ after, (start.afterCalls env earlier).reserveProfileHome reservation
    claims = .ok (.reserved reservation, after)

theorem keepsClaims_afterCalls {env : StoreEnv} {start : ServerStore}
    (noReservations : start.homeReservations = .empty)
    {earlier later : List StoreCall} {connection : Nat}
    {reservation : HomeReservationRecord} {claims : List (String × String)}
    {calls : List StoreCall}
    (split : calls = earlier ++
      ⟨connection, .reserveProfileHome reservation claims⟩ :: later)
    (homeOnly : ∀ call ∈ calls, call.command.isHome = true)
    (newEarlier : reservation.draft.threadId ∉ draftedThreads earlier)
    (newLater : reservation.draft.threadId ∉ draftedThreads later)
    (newThread : ∀ row ∈ start.threadAuthorities,
      row.threadId ≠ reservation.draft.threadId)
    (reserved : ReservesAt env start earlier reservation claims)
    (unreleased : ∀ call ∈ later, call.command ≠
      .releaseThreadClaims reservation.draft.threadId) :
    (start.afterCalls env calls).KeepsClaims reservation claims := by
  subst split
  obtain ⟨after, reserves⟩ := reserved
  obtain ⟨_, notReserved⟩ | ⟨reservations, table, made, _, isAfter⟩ :=
    reserveProfileHome_ok reserves
  · exact absurd rfl (notReserved reservation)
  obtain ⟨sameReservations, sameTable, sameAuthorities⟩ :
      reservations = after.homeReservations ∧
        table = after.threadBranchClaims ∧
        after.threadAuthorities =
          (start.afterCalls env earlier).threadAuthorities := by
    simp [isAfter]
  rw [sameReservations, sameTable] at made
  have drafted : Drafted start (start.afterCalls env earlier)
      (draftedThreads earlier) :=
    drafted_afterCalls noReservations earlier fun call member =>
      homeOnly call (List.mem_append_left _ member)
  have initial := made.keepsClaims sameAuthorities
    (fun row member sameThread =>
      newEarlier (sameThread ▸ drafted.reservations row member))
    (fun row member sameThread => by
      obtain old | isDraft := drafted.authorities row member
      · exact newThread row old sameThread
      · exact newEarlier (sameThread ▸ isDraft))
  have committed : (StoreCommand.reserveProfileHome reservation
      claims).commit env (start.afterCalls env earlier) = .ok after :=
    except_map_ok_iff.mpr ⟨_, reserves, rfl⟩
  rw [afterCalls_append, afterCalls_cons, afterCall_of_commit committed]
  have kept : ∀ call ∈ later, ∀ before next : ServerStore,
      before.KeepsClaims reservation claims →
      call.command.commit env before = .ok next →
      next.KeepsClaims reservation claims := by
    intro call member before next keeps committed
    apply keeps.step (commit_homeStep committed)
    · exact homeOnly call
        (List.mem_append_right _ (List.mem_cons_of_mem _ member))
    · exact unreleased call member
    · intro other otherClaims isReserve sameThread
      exact newLater (sameThread ▸ mem_draftedThreads member isReserve)
  exact afterCalls_invariant later kept initial

/-- Another thread holds one of the claims. -/
def ClaimedByOther (store : ServerStore) (workspaceId threadId : String)
    (claims : List (String × String)) : Prop :=
  ∃ claim ∈ claims, ∃ row ∈ store.threadBranchClaims,
    row.workspaceId = workspaceId ∧ row.repo = claim.1 ∧
      row.branch = claim.2 ∧ row.threadId ≠ threadId

/-- A branch of a workspace is claimed once. -/
theorem eq_of_same_branch {store : ServerStore}
    {first second : BranchClaimRecord}
    (firstMember : first ∈ store.threadBranchClaims)
    (secondMember : second ∈ store.threadBranchClaims)
    (sameWorkspace : first.workspaceId = second.workspaceId)
    (sameRepo : first.repo = second.repo)
    (sameBranch : first.branch = second.branch) : first = second :=
  UniqueTable.eq_of_shared_key firstMember secondMember
    (.branch first.workspaceId first.repo first.branch)
    (by simp [BranchClaimRecord.keys])
    (by simp [BranchClaimRecord.keys, sameWorkspace, sameRepo, sameBranch])

theorem afterCall_eq_of_unchanged {env : StoreEnv} {store : ServerStore}
    {call : StoreCall}
    (unchanged : ∀ after, call.command.commit env store = .ok after →
      after = store) :
    store.afterCall env call = store :=
  afterCall_invariant unchanged rfl

theorem claimThreadBranches_of_claimedByOther {env : StoreEnv}
    {store : ServerStore} {workspaceId threadId : String}
    {claims : List (String × String)}
    (claimed : store.ClaimedByOther workspaceId threadId claims)
    (connection : Nat) (claimedAtMs : UInt64) :
    store.afterCall env ⟨connection,
      .claimThreadBranches workspaceId threadId claims claimedAtMs⟩ =
      store := by
  apply afterCall_eq_of_unchanged
  intro after committed
  obtain ⟨⟨_, _⟩, claims, rfl⟩ := except_map_ok_iff.mp committed
  obtain ⟨rfl, _⟩ | ⟨_, table, rfl, made⟩ := claimThreadBranches_ok claims
  · rfl
  obtain ⟨claim, requested, row, member, inWorkspace, ofRepo, ofBranch,
    other⟩ := claimed
  obtain ⟨own, ownMember, ownWorkspace, ownRepo, ownBranch, isOwn⟩ :=
    made.claimed claim requested
  have same : row = own := UniqueTable.eq_of_shared_key (made.kept row member)
    ownMember (.branch workspaceId claim.1 claim.2)
    (by simp [BranchClaimRecord.keys, inWorkspace, ofRepo, ofBranch])
    (by simp [BranchClaimRecord.keys, ownWorkspace, ownRepo, ownBranch])
  exact absurd (same ▸ isOwn) other

theorem reserveProfileHome_of_claimedByOther {env : StoreEnv}
    {store : ServerStore} {reservation : HomeReservationRecord}
    {claims : List (String × String)}
    (claimed : store.ClaimedByOther reservation.workspaceId
      reservation.draft.threadId claims) (connection : Nat) :
    store.afterCall env
      ⟨connection, .reserveProfileHome reservation claims⟩ = store := by
  apply afterCall_eq_of_unchanged
  intro after committed
  obtain ⟨⟨_, _⟩, reserves, rfl⟩ := except_map_ok_iff.mp committed
  obtain ⟨rfl, _⟩ | ⟨_, table, made, _, rfl⟩ := reserveProfileHome_ok reserves
  · rfl
  obtain ⟨claim, requested, row, member, inWorkspace, ofRepo, ofBranch,
    other⟩ := claimed
  have kept : row ∈ table := by
    rw [UniqueTable.mem_iff, made.claimed]
    exact List.mem_append_left _ member
  have added : claimOf reservation.workspaceId reservation.draft.threadId
      reservation.createdAtMs claim ∈ table := by
    rw [UniqueTable.mem_iff, made.claimed]
    exact List.mem_append_right _ (List.mem_map_of_mem requested)
  have same : row = _ := UniqueTable.eq_of_shared_key kept added
    (.branch reservation.workspaceId claim.1 claim.2)
    (by simp [BranchClaimRecord.keys, inWorkspace, ofRepo, ofBranch])
    (by simp [BranchClaimRecord.keys, claimOf])
  exact absurd (by rw [same]; rfl) other

/-- The designated home of a profile is a home thread. -/
def HomesExist (store : ServerStore) : Prop :=
  ∀ profile ∈ store.profiles, ∀ threadId,
    profile.homeThreadId = some threadId → ∃ row ∈ store.threadAuthorities,
      row.threadId = threadId ∧ row.threadKind = .home ∧
        row.profileId = some profile.id

theorem homesExist_afterCalls {env : StoreEnv} {start : ServerStore}
    (noHomes : start.NoHomes) (calls : List StoreCall) :
    (start.afterCalls env calls).HomesExist := by
  have initial : start.HomesExist := by
    intro profile member threadId isHome
    rw [noHomes.homeless profile member] at isHome
    cases isHome
  refine afterCalls_invariant calls ?_ initial
  intro call _ before after exist committed
  have grows := (commit_threadsGrow committed).authorities
  have kept : after.profiles = before.profiles → after.HomesExist := by
    intro profiles profile member threadId isHome
    obtain ⟨row, rowMember, isRow⟩ := exist profile (profiles ▸ member)
      threadId isHome
    exact ⟨row, grows row rowMember, isRow⟩
  have step := commit_homeStep committed
  generalize call.command = command at step
  cases step with
  | same _ profiles | spawn _ profiles | claim _ profiles
  | release _ profiles | stop _ _ _ _ profiles | reserve _ profiles
  | refuse _ _ _ _ _ profiles => exact kept profiles
  | grant reservation _ agrees grants =>
      intro profile member threadId isHome
      obtain ⟨old, oldMember, rfl⟩ :=
        (UniqueTable.mem_update? grants.designated).mp member
      split at isHome
      next selected =>
        cases isHome
        refine ⟨homeRow reservation _,
          (UniqueTable.mem_insert? grants.inserts.inserted).mpr (.inr rfl),
          rfl, rfl, ?_⟩
        rw [if_pos selected]
        exact congrArg some (isHomeless_iff.mp selected).1.symm
      next unselected =>
        obtain ⟨row, rowMember, isRow⟩ := exist old oldMember threadId isHome
        rw [if_neg unselected]
        exact ⟨row, grows row rowMember, isRow⟩

def HasHome (store : ServerStore) (profile : ProfileRow) : Prop :=
  ∃ row ∈ store.threadAuthorities,
    row.threadKind = .home ∧ row.profileId = some profile.id

def HasGranted (store : ServerStore) (profile : ProfileRow)
    (reservation : HomeReservationRecord) : Prop :=
  reservation ∈ store.homeReservations ∧
    reservation.profileId = profile.id ∧ reservation.state = .granted

/-- What a store says about homes, reservations and claims at one moment. -/
structure HomesUnique (store : ServerStore) : Prop where
  pending : ∀ first ∈ store.homeReservations,
    ∀ second ∈ store.homeReservations, first.state = .pending →
      second.state = .pending → first.profileId = second.profileId →
      first = second
  home : ∀ first ∈ store.threadAuthorities,
    ∀ second ∈ store.threadAuthorities, ∀ profileId : ProfileId,
      first.threadKind = .home → second.threadKind = .home →
      first.profileId = some profileId → second.profileId = some profileId →
      first = second
  designated : ∀ profile ∈ store.profiles,
    store.HasHome profile ↔ profile.homeThreadId.isSome
  granted : ∀ profile ∈ store.profiles,
    store.HasHome profile ↔ ∃! reservation, store.HasGranted profile reservation
  branch : ∀ first ∈ store.threadBranchClaims,
    ∀ second ∈ store.threadBranchClaims,
      first.workspaceId = second.workspaceId → first.repo = second.repo →
      first.branch = second.branch → first = second

theorem HomesMatch.homesUnique {store : ServerStore}
    (fits : store.HomesMatch) (exist : store.HomesExist) :
    store.HomesUnique := by
  have designated : ∀ profile ∈ store.profiles,
      store.HasHome profile ↔ profile.homeThreadId.isSome := by
    intro profile member
    constructor
    · rintro ⟨row, rowMember, isHome, ofProfile⟩
      obtain ⟨owner, ownerMember, ofOwner, isThread⟩ :=
        fits.homes row rowMember isHome
      have same : owner = profile := UniqueTable.eq_of_shared_key ownerMember
        member (.id profile.id)
        (by simp [ProfileRow.keys, Option.some.inj (ofOwner ▸ ofProfile)])
        (by simp [ProfileRow.keys])
      rw [← same, isThread]
      rfl
    · intro isSome
      obtain ⟨threadId, isThread⟩ := Option.isSome_iff_exists.mp isSome
      obtain ⟨row, rowMember, _, isHome, ofProfile⟩ :=
        exist profile member threadId isThread
      exact ⟨row, rowMember, isHome, ofProfile⟩
  refine ⟨?_, ?_, designated, ?_, ?_⟩
  · intro first firstMember second secondMember firstPending secondPending same
    exact UniqueTable.eq_of_shared_key firstMember secondMember
      (.pending first.profileId)
      (by simp [HomeReservationRecord.keys, firstPending])
      (by simp [HomeReservationRecord.keys, secondPending, same])
  · intro first firstMember second secondMember profileId firstHome secondHome
      firstOwner secondOwner
    exact UniqueTable.eq_of_shared_key firstMember secondMember
      (.home profileId)
      (by simp [ThreadAuthorityRow.keys, firstHome, firstOwner])
      (by simp [ThreadAuthorityRow.keys, secondHome, secondOwner])
  · intro profile member
    rw [designated profile member]
    constructor
    · intro isSome
      obtain ⟨threadId, isThread⟩ := Option.isSome_iff_exists.mp isSome
      obtain ⟨row, rowMember, ofProfile, isGranted, _⟩ :=
        fits.granted profile member threadId isThread
      refine ⟨row, ⟨rowMember, ofProfile, isGranted⟩, ?_⟩
      rintro other ⟨otherMember, ofOther, otherGranted⟩
      exact fits.unique other otherMember row rowMember otherGranted isGranted
        (ofOther.trans ofProfile.symm)
    · rintro ⟨row, ⟨rowMember, ofProfile, isGranted⟩, _⟩
      rw [Option.isSome_iff_ne_none]
      intro homeless
      exact fits.homeless profile member homeless row rowMember ofProfile
        isGranted
  · intro first firstMember second secondMember
    exact eq_of_same_branch firstMember secondMember

/-- Over any run of the home operations: homes, pending reservations and claims
are unique, decisions are final, an idempotency key keeps its proposal,
conflicts change nothing, and homes whose thread nobody else drafted keep their
claims until these are released. -/
theorem profileHomes_afterCalls (env : StoreEnv) {start : ServerStore}
    (noHomes : start.NoHomes) (calls : List StoreCall)
    (homeOnly : ∀ call ∈ calls, call.command.isHome = true) :
    let store := start.afterCalls env calls
    store.HomesUnique ∧
    (∀ earlier later, calls = earlier ++ later →
      ∀ old ∈ (start.afterCalls env earlier).homeReservations,
        (old.state ≠ .pending → old ∈ store.homeReservations ∧
          ∀ row ∈ store.homeReservations, row.id = old.id → row = old) ∧
        (∃ row ∈ store.homeReservations, row.id = old.id) ∧
        ∀ row ∈ store.homeReservations, row.profileId = old.profileId →
          row.idempotencyKey = old.idempotencyKey →
          row.id = old.id ∧ row.proposal = old.proposal) ∧
    (∀ existing ∈ store.homeReservations, ∀ request,
      RepeatsRequest existing request → ∀ claims,
        (request.proposal = existing.proposal →
          store.reserveProfileHome request claims =
            .ok (.replayed existing, store)) ∧
        (request.proposal ≠ existing.proposal →
          ∃ message, store.reserveProfileHome request claims =
            .ok (.conflict message, store))) ∧
    (∀ reservation claims message after,
      store.reserveProfileHome reservation claims =
        .ok (.conflict message, after) → after = store) ∧
    (∀ workspaceId threadId claims claimedAtMs connection,
      store.ClaimedByOther workspaceId threadId claims →
        store.afterCall env ⟨connection, .claimThreadBranches workspaceId
          threadId claims claimedAtMs⟩ = store) ∧
    (∀ reservation claims connection,
      store.ClaimedByOther reservation.workspaceId reservation.draft.threadId
        claims → store.afterCall env
          ⟨connection, .reserveProfileHome reservation claims⟩ = store) ∧
    (∀ earlier later connection reservation claims,
      calls = earlier ++
        ⟨connection, .reserveProfileHome reservation claims⟩ :: later →
      ReservesAt env start earlier reservation claims →
      reservation.draft.threadId ∉ draftedThreads earlier →
      reservation.draft.threadId ∉ draftedThreads later →
      (∀ row ∈ start.threadAuthorities,
        row.threadId ≠ reservation.draft.threadId) →
      (∀ call ∈ later, call.command ≠
        .releaseThreadClaims reservation.draft.threadId) →
      ∀ row ∈ store.homeReservations, row.id = reservation.id →
        row.IsLive → ∀ claim ∈ claims,
          claimOf reservation.workspaceId reservation.draft.threadId
            reservation.createdAtMs claim ∈ store.threadBranchClaims) := by
  intro store
  have fits : store.HomesMatch := homesMatch_afterCalls noHomes.homesMatch calls
  refine ⟨fits.homesUnique (homesExist_afterCalls noHomes calls), ?_, ?_, ?_,
    ?_, ?_, ?_⟩
  · intro earlier later split old oldMember
    obtain ⟨row, member, decided⟩ := exists_decided_afterCalls env oldMember
      later
    rw [← afterCalls_append, ← split] at member
    obtain ⟨sameId, sameProfile, _, sameKey, sameProposal, _⟩ :=
      decided.columns
    refine ⟨fun final => ?_, ⟨row, member, sameId⟩, ?_⟩
    · obtain rfl := decided.2 final
      exact ⟨member, fun other otherMember => eq_of_same_id otherMember member⟩
    · intro other otherMember otherProfile otherKey
      have same : other = row := UniqueTable.eq_of_shared_key otherMember
        member (.request row.profileId row.idempotencyKey)
        (by simp [HomeReservationRecord.keys, otherProfile, otherKey,
          sameProfile, sameKey])
        (by simp [HomeReservationRecord.keys])
      exact same ▸ ⟨sameId, sameProposal⟩
  · intro existing durable request repeats claims
    exact reserveProfileHome_of_known fits durable repeats claims
  · intro reservation claims message after reserves
    obtain ⟨rfl, _⟩ | ⟨_, _, _, isReserved, _⟩ :=
      reserveProfileHome_ok reserves
    · rfl
    · cases isReserved
  · intro workspaceId threadId claims claimedAtMs connection claimed
    exact claimThreadBranches_of_claimedByOther claimed connection claimedAtMs
  · intro reservation claims connection claimed
    exact reserveProfileHome_of_claimedByOther claimed connection
  · intro earlier later connection reservation claims split reserved newEarlier
      newLater newThread unreleased
    exact (keepsClaims_afterCalls noHomes.reservations split homeOnly newEarlier
      newLater newThread reserved unreleased).claimed

/-- The home of the sample store is granted, and still holds its branch. -/
theorem profileHomes_sampleThreads :
    sampleRoot.NoHomes ∧
      claimOf "workspace" "home" sampleReservation.createdAtMs
        ("repo", "main") ∈
        (sampleRoot.afterCalls sampleStoreEnv
          (sampleThreads.take 2)).threadBranchClaims := by
  have noHomes : sampleRoot.NoHomes :=
    ⟨rfl, by simp [sampleRoot, UniqueTable.mem_iff],
      by simp [sampleRoot]⟩
  have homes := profileHomes_afterCalls sampleStoreEnv noHomes
    (sampleThreads.take 2) (by simp [sampleThreads, StoreCommand.isHome])
  refine ⟨noHomes, homes.2.2.2.2.2.2 [] (sampleThreads.take 2).tail 0
    sampleReservation [("repo", "main")] rfl ⟨_, rfl⟩
    (by simp [draftedThreads]) (by simp [sampleThreads, draftedThreads])
    (by simp [sampleRoot]) (by simp [sampleThreads])
    (grant "user" 1 sampleReservation) ?_ rfl (.inr rfl) ("repo", "main")
    (List.mem_singleton_self _)⟩
  exact List.mem_singleton_self _

def otherProfile : ProfileId :=
  ⟨"profile_21", by decide⟩

/-- Two profiles without a home, and no threads. -/
def twoProfiles : ServerStore :=
  { sampleRoot with
    profiles := ⟨[⟨sampleProfile, "workspace", "Profile", 1, none, none⟩,
      ⟨otherProfile, "workspace", "Other", 1, none, none⟩], by
        simp [SeparateKeys, ProfileRow.keys, sampleProfile, otherProfile]⟩
    profileRevisions := ⟨[⟨sampleProfile, 1⟩, ⟨otherProfile, 1⟩], by
      simp [SeparateKeys, ProfileRevisionRow.keys, sampleProfile,
        otherProfile]⟩ }

/-- A request for a home of the other profile, with the same thread. -/
def otherReservation : HomeReservationRecord :=
  { sampleReservation with
    id := "other"
    profileId := otherProfile
    idempotencyKey := "other"
    draft := { sampleReservation.draft with profileId := otherProfile } }

/-- Both homes are reserved, and the second is denied. -/
def sharedThreads : List StoreCall :=
  [⟨0, .reserveProfileHome sampleReservation [("repo", "main")]⟩,
    ⟨0, .reserveProfileHome otherReservation []⟩,
    ⟨0, .decideProfileHomeWithoutAuthority "other" .denied "user" (some "no")
      2⟩]

/-- Where two reservations draft one thread, the denial of one takes the claims of
the other, which stays pending. -/
theorem not_profileHomes_sharedThreads :
    ¬ ∀ (env : StoreEnv) (start : ServerStore), start.NoHomes →
      ∀ calls : List StoreCall, (∀ call ∈ calls, call.command.isHome = true) →
      ∀ earlier later connection reservation claims,
        calls = earlier ++
          ⟨connection, .reserveProfileHome reservation claims⟩ :: later →
        ReservesAt env start earlier reservation claims →
        (∀ call ∈ later, call.command ≠
          .releaseThreadClaims reservation.draft.threadId) →
        ∀ row ∈ (start.afterCalls env calls).homeReservations,
          row.id = reservation.id → row.IsLive → ∀ claim ∈ claims,
            claimOf reservation.workspaceId reservation.draft.threadId
              reservation.createdAtMs claim ∈
              (start.afterCalls env calls).threadBranchClaims := by
  intro keeps
  have noHomes : twoProfiles.NoHomes :=
    ⟨rfl, by simp [twoProfiles, UniqueTable.mem_iff],
      by simp [twoProfiles, sampleRoot]⟩
  have held := keeps sampleStoreEnv twoProfiles noHomes sharedThreads
    (by simp [sharedThreads, StoreCommand.isHome]) [] sharedThreads.tail 0
    sampleReservation [("repo", "main")] rfl ⟨_, rfl⟩ (by simp [sharedThreads])
    sampleReservation (List.mem_cons_self) rfl (.inl rfl) ("repo", "main")
    List.mem_cons_self
  cases held

end ServerStore

end PlatoAgent
