import PlatoAgent.StoreReturns

/-!
# Authority along the lineage of a thread

A child authority is checked against its parent alone.  The relations checked
there compose, so every child stays within each of its ancestors, and since a
parent is always older than its children every lineage ends at the home of the
profile.
-/

namespace PlatoAgent

/-- What a child may never have beyond any of its ancestors. -/
structure Narrows (ancestor child : ThreadAuthorityRecord) : Prop where
  toolset : ∀ tool ∈ child.toolset, tool ∈ ancestor.toolset
  network : child.network = true → ancestor.network = true
  approvalPolicy : ancestor.approvalPolicy.permits child.approvalPolicy = true
  repositories : ∀ worktree ∈ child.worktrees, ∃ owned ∈ ancestor.worktrees,
    owned.repo = worktree.repo

theorem ThreadApprovalPolicy.permits_trans {first second third :
    ThreadApprovalPolicy} (upper : first.permits second = true)
    (lower : second.permits third = true) : first.permits third = true := by
  cases first <;> cases second <;> cases third <;>
    simp_all [ThreadApprovalPolicy.permits]

theorem Narrows.trans {first second third : ThreadAuthorityRecord}
    (upper : Narrows first second) (lower : Narrows second third) :
    Narrows first third where
  toolset tool member := upper.toolset tool (lower.toolset tool member)
  network isSet := upper.network (lower.network isSet)
  approvalPolicy := ThreadApprovalPolicy.permits_trans upper.approvalPolicy
    lower.approvalPolicy
  repositories worktree member := by
    obtain ⟨middle, middleMember, sameMiddle⟩ :=
      lower.repositories worktree member
    obtain ⟨owned, ownedMember, sameOwned⟩ :=
      upper.repositories middle middleMember
    exact ⟨owned, ownedMember, sameOwned.trans sameMiddle⟩

/-- Component by component, the path lies under the other one. -/
def LiesUnder (path base : String) : Prop :=
  pathComponents base <+: pathComponents path

/-- Under a worktree of the authority. -/
def UnderWorktree (authority : ThreadAuthorityRecord) (path : String) : Prop :=
  ∃ worktree ∈ authority.worktrees, LiesUnder path worktree.path

/-- The scratch directory beside the repositories of the thread. -/
def OwnScratch (authority : ThreadAuthorityRecord) (path : String) : Prop :=
  ∃ worktree ∈ authority.worktrees, ∃ root repository,
    pathComponents worktree.path = root ++
      [.normal authority.threadId, .normal "repos", repository] ∧
    pathComponents path = root ++
      [.normal authority.threadId, .normal "scratch"]

/-- The paths of a child against those of its direct parent. -/
structure PathsWithin (parent child : ThreadAuthorityRecord) : Prop where
  granted : ∀ grant ∈ child.grantedPaths, ¬OwnScratch child grant.path →
    UnderWorktree parent grant.path ∨
      ∃ covering ∈ parent.grantedPaths, LiesUnder grant.path covering.path
  writable : ∀ grant ∈ child.grantedPaths, ¬OwnScratch child grant.path →
    grant.writable = true → UnderWorktree parent grant.path ∨
      ∃ covering ∈ parent.grantedPaths, covering.writable = true ∧
        LiesUnder grant.path covering.path
  ownDirectory : child.worktrees ≠ [] → ∃ cwd,
    authorityWorkingDirectory child = some cwd ∧ UnderWorktree child cwd
  parentDirectory : child.worktrees = [] → ∃ cwd,
    authorityWorkingDirectory child = some cwd ∧
      (UnderWorktree parent cwd ∨
        ∃ covering ∈ parent.grantedPaths, LiesUnder cwd covering.path)

theorem underWorktree_iff {authority : ThreadAuthorityRecord}
    {path : String} :
    underWorktree authority path = true ↔ UnderWorktree authority path := by
  simp [underWorktree, UnderWorktree, LiesUnder, Path.startsWith]

theorem mem_grantMatches {authority : ThreadAuthorityRecord} {path : String}
    {grant : ThreadGrantedPath} :
    grant ∈ grantMatches authority path ↔
      grant ∈ authority.grantedPaths ∧ LiesUnder path grant.path := by
  simp [grantMatches, LiesUnder, Path.startsWith]

theorem validateChildPath_ok {parent : ThreadAuthorityRecord} {path : String}
    {writable : Bool} {result : Unit}
    (valid : validateChildPath parent path writable = .ok result) :
    (UnderWorktree parent path ∨
      ∃ covering ∈ parent.grantedPaths, LiesUnder path covering.path) ∧
    (writable = true → UnderWorktree parent path ∨
      ∃ covering ∈ parent.grantedPaths, covering.writable = true ∧
        LiesUnder path covering.path) := by
  unfold validateChildPath at valid
  split at valid
  · cases valid
  next covered =>
  split at valid
  · cases valid
  next writes =>
  by_cases under : UnderWorktree parent path
  · exact ⟨.inl under, fun _ => .inl under⟩
  have outside : underWorktree parent path = false := by
    rw [← Bool.not_eq_true, underWorktree_iff]
    exact under
  simp only [outside, Bool.not_false, Bool.true_and, Bool.and_true,
    List.isEmpty_iff] at covered writes
  constructor
  · obtain ⟨covering, member⟩ := List.exists_mem_of_ne_nil _ covered
    obtain ⟨granted, lies⟩ := mem_grantMatches.mp member
    exact .inr ⟨covering, granted, lies⟩
  · rintro rfl
    simp only [Bool.true_and, Bool.not_eq_true', Bool.not_eq_false,
      List.any_eq_true] at writes
    obtain ⟨covering, member, isWritable⟩ := writes
    obtain ⟨granted, lies⟩ := mem_grantMatches.mp member
    exact .inr ⟨covering, granted, isWritable, lies⟩

theorem validateGrants_ok {parent : ThreadAuthorityRecord}
    {grants : List ThreadGrantedPath} {result : Unit}
    (valid : validateGrants parent grants = .ok result) :
    ∀ grant ∈ grants,
      validateChildPath parent grant.path grant.writable = .ok () := by
  induction grants with
  | nil => simp
  | cons grant grants ih =>
      obtain ⟨_, first, rest⟩ := except_bind_ok_iff.mp valid
      intro other member
      obtain rfl | member := List.mem_cons.mp member
      · exact first
      · exact ih rest other member

theorem isScratchBeside_eq_true {threadId : String} {worktree path : Path}
    (beside : isScratchBeside threadId worktree path = true) :
    ∃ root repository,
      worktree = root ++ [.normal threadId, .normal "repos", repository] ∧
      path = root ++ [.normal threadId, .normal "scratch"] := by
  unfold isScratchBeside at beside
  cases repos : worktree.parent with
  | none => simp [repos] at beside
  | some reposRoot =>
      simp only [repos] at beside
      split at beside
      next named =>
        obtain ⟨threadRoot, isParent, rfl⟩ :=
          Path.eq_concat_of_fileName named
        simp only [isParent, Bool.and_eq_true, beq_iff_eq] at beside
        obtain ⟨threadNamed, rfl⟩ := beside
        obtain ⟨root, _, rfl⟩ := Path.eq_concat_of_fileName threadNamed
        obtain ⟨repository, rfl⟩ := Path.eq_concat_of_parent repos
        exact ⟨root, repository, by simp, by simp⟩
      next => cases beside

/-- Every repository of the list is one of the parent's. -/
theorem missingRepository_eq_none {parent : ThreadAuthorityRecord}
    {repositories : List String}
    (present : missingRepository parent repositories = none) :
    ∀ repo ∈ repositories, ∃ owned ∈ parent.worktrees, owned.repo = repo := by
  intro repo member
  have := List.find?_eq_none.mp present repo member
  simpa using this

namespace ServerStore

theorem ownScratch_of_childOwnedPath {parent authority : ThreadAuthorityRecord}
    {cwd path : String}
    (owned : childOwnedPath (spawnDraft parent authority cwd) path = true) :
    OwnScratch authority path := by
  obtain ⟨worktree, member, beside⟩ := List.any_eq_true.mp owned
  obtain ⟨root, repository, isWorktree, isScratch⟩ :=
    isScratchBeside_eq_true beside
  exact ⟨worktree, member, root, repository, isWorktree, isScratch⟩

/-- The grants that are checked are all but the thread's own scratch. -/
theorem grants_within {parent authority : ThreadAuthorityRecord}
    (valid : ∀ grant ∈ authority.grantedPaths,
      ¬OwnScratch authority grant.path →
      validateChildPath parent grant.path grant.writable = .ok ()) :
    (∀ grant ∈ authority.grantedPaths, ¬OwnScratch authority grant.path →
      UnderWorktree parent grant.path ∨
        ∃ covering ∈ parent.grantedPaths,
          LiesUnder grant.path covering.path) ∧
    ∀ grant ∈ authority.grantedPaths, ¬OwnScratch authority grant.path →
      grant.writable = true → UnderWorktree parent grant.path ∨
        ∃ covering ∈ parent.grantedPaths, covering.writable = true ∧
          LiesUnder grant.path covering.path := by
  constructor
  · intro grant member foreign
    exact (validateChildPath_ok (valid grant member foreign)).1
  · intro grant member foreign
    exact (validateChildPath_ok (valid grant member foreign)).2

theorem validateChildPaths_ok {parent authority : ThreadAuthorityRecord}
    {cwd : String} {result : Unit}
    (directory : authorityWorkingDirectory authority = some cwd)
    (valid : validateChildPaths parent (spawnDraft parent authority cwd) =
      .ok result) :
    PathsWithin parent authority ∧
      ∀ worktree ∈ authority.worktrees, ∃ owned ∈ parent.worktrees,
        owned.repo = worktree.repo := by
  unfold validateChildPaths at valid
  split at valid
  next noWorktrees =>
    have empty : authority.worktrees = [] := List.isEmpty_iff.mp noWorktrees
    obtain ⟨_, cwdValid, grantsValid⟩ := except_bind_ok_iff.mp valid
    have each := validateGrants_ok grantsValid
    obtain ⟨granted, writable⟩ :=
      grants_within fun grant member _ => each grant member
    refine ⟨⟨granted, writable, fun some => absurd empty some, fun _ => ?_⟩,
      by simp [empty]⟩
    exact ⟨cwd, directory, (validateChildPath_ok cwdValid).1⟩
  next hasWorktrees =>
    have nonempty : authority.worktrees ≠ [] := by
      simpa [spawnDraft] using hasWorktrees
    split at valid
    · cases valid
    next present =>
    split at valid
    next inside =>
      have each := validateGrants_ok valid
      have foreignValid : ∀ grant ∈ authority.grantedPaths,
          ¬OwnScratch authority grant.path →
          validateChildPath parent grant.path grant.writable = .ok () := by
        intro grant member foreign
        apply each grant
        refine List.mem_filter.mpr ⟨member, ?_⟩
        rw [Bool.not_eq_true', ← Bool.not_eq_true]
        exact fun owned => foreign (ownScratch_of_childOwnedPath owned)
      obtain ⟨granted, writable⟩ := grants_within foreignValid
      refine ⟨⟨granted, writable, fun _ => ⟨cwd, directory, ?_⟩,
        fun none => absurd none nonempty⟩, ?_⟩
      · obtain ⟨worktree, member, under⟩ := List.any_eq_true.mp inside
        exact ⟨worktree, member, Path.startsWith_iff.mp under⟩
      · intro worktree member
        exact missingRepository_eq_none present worktree.repo
          (List.mem_map_of_mem member)
    next => cases valid

/-- What the check of a child against its parent establishes. -/
theorem validateChildAuthority_ok {parent authority : ThreadAuthorityRecord}
    {cwd : String} {result : Unit}
    (directory : authorityWorkingDirectory authority = some cwd)
    (valid : validateChildAuthority parent (spawnDraft parent authority cwd) =
      .ok result) :
    Narrows parent authority ∧ PathsWithin parent authority := by
  simp only [validateChildAuthority] at valid
  split at valid
  · cases valid
  next policy =>
  split at valid
  · cases valid
  next tools =>
  split at valid
  · cases valid
  next network =>
  split at valid
  · cases valid
  next =>
  obtain ⟨within, repositories⟩ := validateChildPaths_ok directory valid
  refine ⟨⟨?_, ?_, by simpa [spawnDraft] using policy, repositories⟩, within⟩
  · intro tool member
    simp only [spawnDraft, Bool.not_eq_true', Bool.not_eq_false,
      List.isEmpty_iff, List.filter_eq_nil_iff] at tools
    simpa using tools tool member
  · intro isSet
    have isSet' : (spawnDraft parent authority cwd).network = true := isSet
    simpa [isSet'] using network

/-- The row of a child that was spawned under a row of its parent. -/
structure SpawnedUnder (parent child : ThreadAuthorityRow) : Prop where
  isChild : child.threadKind = .child
  named : child.parentThreadId = some parent.threadId
  profiled : parent.threadKind ≠ .legacy
  sameProfile : parent.profileId = child.profileId
  narrows : Narrows parent.record child.record
  within : PathsWithin parent.record child.record

theorem threadAuthority_eq_some {store : ServerStore} {threadId : String}
    {record : ThreadAuthorityRecord}
    (found : store.threadAuthority threadId = some record) :
    ∃ row ∈ store.threadAuthorities, row.threadId = threadId ∧
      row.record = record := by
  obtain ⟨row, known, isRecord⟩ := Option.map_eq_some_iff.mp found
  obtain ⟨member, sameThread⟩ := threadAuthorityRow_eq_some_iff.mp known
  exact ⟨row, member, sameThread, isRecord⟩

theorem checkSpawnParent_ok {store : ServerStore}
    {authority : ThreadAuthorityRecord} {parentThreadId : String}
    {result : Unit}
    (valid : store.checkSpawnParent authority parentThreadId = .ok result)
    (isChild : authority.threadKind = .child) :
    ∃ parent ∈ store.threadAuthorities, parent.threadId = parentThreadId ∧
      parent.threadKind ≠ .legacy ∧ parent.profileId = authority.profileId ∧
      Narrows parent.record authority ∧ PathsWithin parent.record authority := by
  unfold checkSpawnParent at valid
  split at valid
  · cases valid
  next record known =>
  split at valid
  · cases valid
  next cwd directory =>
  split at valid
  · cases valid
  next valid' =>
  split at valid
  · cases valid
  next live =>
  simp only [isChild, true_and, not_or, not_not] at live
  obtain ⟨parent, member, sameThread, rfl⟩ := threadAuthority_eq_some known
  obtain ⟨narrows, within⟩ := validateChildAuthority_ok directory valid'
  exact ⟨parent, member, sameThread, live.2.1, live.1, narrows, within⟩

/-- A row that a spawn inserts is a legacy row or a child of a stored row. -/
theorem Spawns.inserted_row {env : StoreEnv} {store : ServerStore}
    {approval : ThreadSpawnApprovalRecord} {authority : ThreadAuthorityRecord}
    {classification : ThreadProfileAuthority}
    {authorities : UniqueTable ThreadAuthorityRow AuthorityKey
      ThreadAuthorityRow.keys}
    (spawns : store.Spawns env approval authority classification authorities) :
    (authorityRow authority classification).threadKind = .legacy ∨
      ∃ parent ∈ store.threadAuthorities,
        SpawnedUnder parent (authorityRow authority classification) := by
  obtain ⟨_, notHome, parentValid⟩ := except_bind_ok_iff.mp spawns.allowed
  rw [requireThat_ok_iff] at notHome
  have classified := spawns.classified
  unfold spawnClassification at classified
  split at classified
  · cases classified
    exact .inl rfl
  next =>
  unfold newProfileAuthority at classified
  split at classified
  · cases classified
  next profileId isProfile =>
  split at classified
  · cases classified
  next profileRevision isRevision =>
  split at classified
  · cases classified
  next profile known =>
  cases classified
  cases kind : authority.threadKind with
  | home => exact absurd kind notHome
  | legacy => exact .inl rfl
  | child =>
      have admitted := spawns.inserts.admitted (by simp [authorityRow, kind])
      obtain ⟨parentThreadId, hasParent⟩ :
          ∃ parentThreadId, authority.parentThreadId = some parentThreadId := by
        simp only [profileAdmission, authorityRow, kind, Bool.and_eq_true,
          Bool.or_eq_true] at admitted
        obtain impossible | ⟨⟨isSome, _⟩, _⟩ := admitted.2
        · simp at impossible
        · exact Option.isSome_iff_exists.mp isSome
      simp only [hasParent, Option.toList_some, List.forM_eq_forM,
        List.forM_cons, List.forM_nil, except_bind_ok_iff] at parentValid
      obtain ⟨_, valid, _⟩ := parentValid
      obtain ⟨parent, member, sameThread, profiled, sameProfile, narrows,
        within⟩ := checkSpawnParent_ok valid kind
      have isRecord : (authorityRow authority
          { workspaceId := some profile.workspaceId
            profileId := some profileId
            profileRevision := some profileRevision
            threadKind := .child
            legacyReason := none }).record = authority := by
        cases authority
        simp_all [authorityRow, ThreadAuthorityRow.record]
      refine .inr ⟨parent, member, ?_⟩
      exact
        { isChild := rfl
          named := by simp [authorityRow, hasParent, sameThread]
          profiled := profiled
          sameProfile := sameProfile.trans isProfile
          narrows := by
            rw [isRecord]
            exact narrows
          within := by
            rw [isRecord]
            exact within }

/-- The stored thread that another one names as its parent. -/
def IsParent (store : ServerStore) (parent child : ThreadAuthorityRow) : Prop :=
  parent ∈ store.threadAuthorities ∧
    child.parentThreadId = some parent.threadId

/-- The parents, their parents and so on. -/
def IsAncestor (store : ServerStore) : ThreadAuthorityRow →
    ThreadAuthorityRow → Prop :=
  Relation.TransGen store.IsParent

/-- A thread followed by its parent, up to a home, without repetition. -/
inductive Lineage (store : ServerStore) : List ThreadAuthorityRow → Prop where
  | home (row : ThreadAuthorityRow) (durable : row ∈ store.threadAuthorities)
      (isHome : row.threadKind = .home)
      (parentless : row.parentThreadId = none) : Lineage store [row]
  | child (row parent : ThreadAuthorityRow) (rest : List ThreadAuthorityRow)
      (durable : row ∈ store.threadAuthorities)
      (spawned : SpawnedUnder parent row)
      (lineage : Lineage store (parent :: rest))
      (isNew : row ∉ parent :: rest) : Lineage store (row :: parent :: rest)

namespace Lineage

variable {store : ServerStore}

theorem mono {later : ServerStore} {rows : List ThreadAuthorityRow}
    (kept : ∀ row ∈ store.threadAuthorities, row ∈ later.threadAuthorities)
    (lineage : Lineage store rows) : Lineage later rows := by
  induction lineage with
  | home row durable isHome parentless =>
      exact .home row (kept row durable) isHome parentless
  | child row parent rest durable spawned _ isNew ih =>
      exact .child row parent rest (kept row durable) spawned ih isNew

theorem durable {rows : List ThreadAuthorityRow}
    (lineage : Lineage store rows) :
    ∀ row ∈ rows, row ∈ store.threadAuthorities := by
  induction lineage with
  | home row durable => simpa using durable
  | child row parent rest durable _ _ _ ih =>
      intro other member
      obtain rfl | member := List.mem_cons.mp member
      · exact durable
      · exact ih other member

theorem nodup {rows : List ThreadAuthorityRow}
    (lineage : Lineage store rows) : rows.Nodup := by
  induction lineage with
  | home row => simp
  | child row parent rest _ _ _ isNew ih => exact ih.cons isNew

/-- The lineage ends at a home of the profile of its thread. -/
theorem ends_at_home {row : ThreadAuthorityRow}
    {rest : List ThreadAuthorityRow} (lineage : Lineage store (row :: rest)) :
    ∃ home, (row :: rest).getLast? = some home ∧ home.threadKind = .home ∧
      home.profileId = row.profileId := by
  generalize isRows : row :: rest = rows at lineage
  induction lineage generalizing row rest with
  | home other durable isHome =>
      cases isRows
      exact ⟨other, rfl, isHome, rfl⟩
  | child other parent others durable spawned lineage isNew ih =>
      cases isRows
      obtain ⟨home, isLast, isHome, sameProfile⟩ := ih rfl
      refine ⟨home, ?_, isHome, sameProfile.trans spawned.sameProfile⟩
      rwa [List.getLast?_cons_cons]

/-- The thread stays within every later row of its lineage. -/
theorem narrows {row : ThreadAuthorityRow} {rest : List ThreadAuthorityRow}
    (lineage : Lineage store (row :: rest)) :
    ∀ ancestor ∈ rest, Narrows ancestor.record row.record := by
  generalize isRows : row :: rest = rows at lineage
  induction lineage generalizing row rest with
  | home =>
      cases isRows
      simp
  | child other parent others durable spawned lineage isNew ih =>
      cases isRows
      intro ancestor member
      obtain rfl | member := List.mem_cons.mp member
      · exact spawned.narrows
      · exact (ih rfl ancestor member).trans spawned.narrows

/-- The parents of a thread are the next row of its lineage. -/
theorem parent_eq {row parent : ThreadAuthorityRow}
    {rest : List ThreadAuthorityRow} (lineage : Lineage store (row :: rest))
    (isParent : store.IsParent parent row) :
    ∃ others, rest = parent :: others ∧ SpawnedUnder parent row := by
  obtain ⟨member, named⟩ := isParent
  cases lineage with
  | home _ _ _ parentless =>
      rw [named] at parentless
      cases parentless
  | child _ next others _ spawned lineage =>
      have sameThread : next.threadId = parent.threadId := by
        have := spawned.named.symm.trans named
        simpa using this
      obtain rfl : next = parent :=
        UniqueTable.eq_of_shared_key
          (lineage.durable next List.mem_cons_self) member
          (.threadId parent.threadId)
          (by simp [ThreadAuthorityRow.keys, sameThread])
          (by simp [ThreadAuthorityRow.keys])
      exact ⟨others, rfl, spawned⟩

theorem tail {row parent : ThreadAuthorityRow}
    {rest : List ThreadAuthorityRow}
    (lineage : Lineage store (row :: parent :: rest)) :
    Lineage store (parent :: rest) := by
  cases lineage with
  | child _ _ _ _ _ lineage => exact lineage

/-- Every ancestor is a later row of the lineage. -/
theorem mem_of_isAncestor {row ancestor : ThreadAuthorityRow}
    (isAncestor : store.IsAncestor ancestor row) :
    ∀ {rest : List ThreadAuthorityRow}, Lineage store (row :: rest) →
      ancestor ∈ rest := by
  induction isAncestor with
  | single isParent =>
      intro rest lineage
      obtain ⟨others, rfl, _⟩ := lineage.parent_eq isParent
      exact List.mem_cons_self
  | tail _ isParent ih =>
      intro rest lineage
      obtain ⟨others, rfl, _⟩ := lineage.parent_eq isParent
      exact List.mem_cons_of_mem _ (ih lineage.tail)

/-- Every later row of the lineage is an ancestor. -/
theorem isAncestor_of_mem {row : ThreadAuthorityRow}
    {rest : List ThreadAuthorityRow} (lineage : Lineage store (row :: rest)) :
    ∀ ancestor ∈ rest, store.IsAncestor ancestor row := by
  generalize isRows : row :: rest = rows at lineage
  induction lineage generalizing row rest with
  | home =>
      cases isRows
      simp
  | child other parent others durable spawned lineage isNew ih =>
      cases isRows
      have isParent : store.IsParent parent other :=
        ⟨lineage.durable parent List.mem_cons_self, spawned.named⟩
      intro ancestor member
      obtain rfl | member := List.mem_cons.mp member
      · exact .single isParent
      · exact .tail (ih rfl ancestor member) isParent

end Lineage

/-- Every home or child thread of the store has a lineage. -/
def Rooted (store : ServerStore) : Prop :=
  ∀ row ∈ store.threadAuthorities, row.threadKind ≠ .legacy →
    ∃ rest, Lineage store (row :: rest)

/-- Adding a row that has a lineage keeps the store rooted. -/
theorem Rooted.insert {store after : ServerStore} {row : ThreadAuthorityRow}
    (rooted : store.Rooted)
    (inserted : store.threadAuthorities.insert? row =
      some after.threadAuthorities)
    (hasLineage : row.threadKind ≠ .legacy →
      ∃ rest, Lineage after (row :: rest)) : after.Rooted := by
  intro other member profiled
  obtain member | rfl := (UniqueTable.mem_insert? inserted).mp member
  · obtain ⟨rest, lineage⟩ := rooted other member profiled
    refine ⟨rest, lineage.mono fun old oldMember => ?_⟩
    exact (UniqueTable.mem_insert? inserted).mpr (.inl oldMember)
  · exact hasLineage profiled

theorem commit_rooted {env : StoreEnv} {store after : ServerStore}
    {command : StoreCommand}
    (committed : command.commit env store = .ok after)
    (rooted : store.Rooted) : after.Rooted := by
  have grows := (commit_threadsGrow committed).authorities
  obtain same | ⟨_, authority, classification, spawns⟩ |
    ⟨reservation, authority, _, _, _, isHome, parentless, _, grants⟩ :=
      commit_threadAuthorities committed
  · intro row member profiled
    obtain ⟨rest, lineage⟩ := rooted row (same ▸ member) profiled
    exact ⟨rest, lineage.mono grows⟩
  · have inserted := spawns.inserts.inserted
    apply rooted.insert inserted
    intro profiled
    obtain legacy | ⟨parent, member, spawned⟩ := spawns.inserted_row
    · exact absurd legacy profiled
    obtain ⟨rest, lineage⟩ := rooted parent member spawned.profiled
    refine ⟨parent :: rest, .child _ parent rest
      ((UniqueTable.mem_insert? inserted).mpr (.inr rfl)) spawned
      (lineage.mono grows) ?_⟩
    -- The new thread is older than none of its ancestors.
    intro isOld
    have separate := (UniqueTable.insert?_eq_some inserted).2 _
      (lineage.durable _ isOld)
    exact separate (.threadId authority.threadId)
      (by simp [ThreadAuthorityRow.keys, authorityRow])
      (by simp [ThreadAuthorityRow.keys, authorityRow])
  · have inserted := grants.inserts.inserted
    apply rooted.insert inserted
    intro _
    refine ⟨[], .home _ ?_ rfl ?_⟩
    · exact (UniqueTable.mem_insert? inserted).mpr (.inr rfl)
    · exact parentless

theorem rooted_afterCalls {env : StoreEnv} {start : ServerStore}
    (legacyOnly : ∀ row ∈ start.threadAuthorities, row.threadKind = .legacy)
    (calls : List StoreCall) : (start.afterCalls env calls).Rooted := by
  have initial : start.Rooted := by
    intro row member profiled
    exact absurd (legacyOnly row member) profiled
  apply afterCalls_invariant calls _ initial
  intro call _ store after rooted committed
  exact commit_rooted committed rooted

/-- In every run from a store with only legacy threads, a child never exceeds
any of its ancestors, its paths stay within its parent's, its ancestors end at
the home of its profile, and no authority ever changes. -/
theorem child_authority_within_lineage (env : StoreEnv) (start : ServerStore)
    (legacyOnly : ∀ row ∈ start.threadAuthorities, row.threadKind = .legacy)
    (calls : List StoreCall) :
    let store := start.afterCalls env calls
    (∀ child ∈ store.threadAuthorities, child.threadKind = .child →
      (∀ ancestor, store.IsAncestor ancestor child →
        Narrows ancestor.record child.record) ∧
      (∀ parent, store.IsParent parent child →
        PathsWithin parent.record child.record) ∧
      ∃ ancestors home, (child :: ancestors).Nodup ∧
        (∀ ancestor, ancestor ∈ ancestors ↔
          store.IsAncestor ancestor child) ∧
        (∀ ancestor ∈ child :: ancestors, ∀ other ∈ child :: ancestors,
          ancestor.threadId = other.threadId → ancestor = other) ∧
        ancestors.getLast? = some home ∧ home.threadKind = .home ∧
        home.profileId = child.profileId) ∧
    ∀ row ∈ store.threadAuthorities, ∀ later,
      row ∈ (store.afterCalls env later).threadAuthorities ∧
      ∀ other ∈ (store.afterCalls env later).threadAuthorities,
        other.threadId = row.threadId → other = row := by
  intro store
  have rooted : store.Rooted := rooted_afterCalls legacyOnly calls
  constructor
  · intro child member isChild
    obtain ⟨rest, lineage⟩ := rooted child member (by simp [isChild])
    refine ⟨?_, ?_, rest, ?_⟩
    · intro ancestor isAncestor
      exact lineage.narrows ancestor (Lineage.mem_of_isAncestor isAncestor
        lineage)
    · intro parent isParent
      obtain ⟨_, _, spawned⟩ := lineage.parent_eq isParent
      exact spawned.within
    · obtain ⟨home, isLast, isHome, sameProfile⟩ := lineage.ends_at_home
      refine ⟨home, lineage.nodup, ?_, ?_, ?_, isHome, sameProfile⟩
      · intro ancestor
        exact ⟨lineage.isAncestor_of_mem ancestor,
          fun isAncestor => Lineage.mem_of_isAncestor isAncestor lineage⟩
      · intro ancestor ancestorMember other otherMember sameThread
        exact UniqueTable.eq_of_shared_key
          (lineage.durable _ ancestorMember) (lineage.durable _ otherMember)
          (.threadId ancestor.threadId) (by simp [ThreadAuthorityRow.keys])
          (by simp [ThreadAuthorityRow.keys, sameThread])
      · cases rest with
        | nil =>
            obtain rfl : child = home := by simpa using isLast
            rw [isChild] at isHome
            cases isHome
        | cons parent others =>
            rwa [List.getLast?_cons_cons] at isLast
  · intro row member later
    have kept := (afterCalls_threadsGrow env store later).authorities row member
    refine ⟨kept, fun other otherMember sameThread => ?_⟩
    exact UniqueTable.eq_of_shared_key otherMember kept
      (.threadId row.threadId) (by simp [ThreadAuthorityRow.keys, sameThread])
      (by simp [ThreadAuthorityRow.keys])

theorem child_authority_within_lineage_sample :
    (∀ row ∈ sampleRoot.threadAuthorities, row.threadKind = .legacy) ∧
    sampleAuthority "child" .child (some "home") ∈
      (sampleRoot.afterCalls sampleStoreEnv sampleThreads).threadAuthorities ∧
    Narrows (sampleAuthority "home" .home none).record
      (sampleAuthority "child" .child (some "home")).record := by
  have legacyOnly : ∀ row ∈ sampleRoot.threadAuthorities,
      row.threadKind = .legacy := by simp [sampleRoot]
  have rows : (sampleRoot.afterCalls sampleStoreEnv
      sampleThreads).threadAuthorities.rows =
      [sampleAuthority "home" .home none,
        sampleAuthority "child" .child (some "home")] := rfl
  have home : sampleAuthority "home" .home none ∈ (sampleRoot.afterCalls
      sampleStoreEnv sampleThreads).threadAuthorities := by
    simp [UniqueTable.mem_iff, rows]
  have child : sampleAuthority "child" .child (some "home") ∈
      (sampleRoot.afterCalls sampleStoreEnv
        sampleThreads).threadAuthorities := by
    simp [UniqueTable.mem_iff, rows]
  refine ⟨legacyOnly, child, ?_⟩
  exact ((child_authority_within_lineage sampleStoreEnv sampleRoot legacyOnly
    sampleThreads).1 _ child rfl).1 _ (.single ⟨home, rfl⟩)

end ServerStore

end PlatoAgent
