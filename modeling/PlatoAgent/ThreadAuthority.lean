import PlatoAgent.StoreSchema

/-!
# Thread authorities

The checks of `thread_authority.rs`: what makes an authority complete and when
a child authority stays within its parent's.  Paths are compared component by
component, as `std::path` does.
-/

namespace PlatoAgent

/-- The components of a Unix path. -/
inductive PathComponent where
  | rootDir
  | curDir
  | parentDir
  | normal (name : String)
  deriving DecidableEq, Repr

abbrev Path := List PathComponent

/-- `Path::components`: repeated separators, trailing separators and inner `.`
components are normalized away; only a leading `.` is kept. -/
def pathComponents (path : String) : Path :=
  let isAbsolute := path.toList.head? == some '/'
  let pieces := path.toList.splitOn '/'
  let component (piece : List Char) : Option PathComponent :=
    if piece = [] ∨ piece = ['.'] then none
    else if piece = ['.', '.'] then some .parentDir
    else some (.normal (String.ofList piece))
  (if isAbsolute then [.rootDir] else []) ++
    (if pieces.head? = some ['.'] then [.curDir] else []) ++
      pieces.filterMap component

namespace Path

/-- `Path::starts_with`. -/
def startsWith (path base : Path) : Bool :=
  base.isPrefixOf path

/-- `Path::parent`. -/
def parent (path : Path) : Option Path :=
  match path.getLast? with
  | none | some .rootDir => none
  | some _ => some path.dropLast

/-- `Path::file_name`. -/
def fileName (path : Path) : Option String :=
  match path.getLast? with
  | some (.normal name) => some name
  | _ => none

theorem startsWith_iff {path base : Path} :
    startsWith path base = true ↔ base <+: path := by
  simp [startsWith]

theorem eq_concat_of_fileName {path : Path} {name : String}
    (named : path.fileName = some name) :
    ∃ root, path.parent = some root ∧ path = root ++ [.normal name] := by
  unfold fileName at named
  split at named
  next last found =>
    cases named
    obtain ⟨root, rfl⟩ := List.getLast?_eq_some_iff.mp found
    exact ⟨root, by simp [parent], rfl⟩
  next => cases named

theorem eq_concat_of_parent {path root : Path}
    (isParent : path.parent = some root) :
    ∃ last, path = root ++ [last] := by
  unfold parent at isParent
  cases found : path.getLast? with
  | none => simp [found] at isParent
  | some last =>
      obtain ⟨initial, rfl⟩ := List.getLast?_eq_some_iff.mp found
      cases last <;> simp_all

end Path

inductive ThreadAuthorityError where
  | parentRequired
  | sameProfileParent
  | invalidLineage
  | stoppedParent
  | approvalPolicy (parent child : ThreadApprovalPolicy)
  | workingDirectory (parent child : String)
  | writablePath (child : String)
  | repository (repo : String)
  | toolset (excess : List String)
  | network
  | spawnDepth (maximum : UInt32)
  deriving DecidableEq, Repr

def ThreadApprovalPolicy.asStr : ThreadApprovalPolicy → String
  | .prompt => "prompt"
  | .yolo => "yolo"

/-- The displayed text of the error. -/
def ThreadAuthorityError.text : ThreadAuthorityError → String
  | .parentRequired => "thread spawn requires a same-profile parent"
  | .sameProfileParent =>
      "child and parent must belong to the same non-legacy profile"
  | .invalidLineage => "child ancestry must terminate at its profile home"
  | .stoppedParent => "stopped threads cannot parent children"
  | .approvalPolicy parent child =>
      s!"child approval policy {child.asStr} exceeds parent policy {parent.asStr}"
  | .workingDirectory parent child =>
      s!"child cwd {child} is outside parent cwd {parent}"
  | .writablePath child =>
      s!"child writable path {child} exceeds parent path authority"
  | .repository repo =>
      s!"child repository {repo} exceeds parent repository authority"
  | .toolset excess => s!"child toolset exceeds parent toolset: {excess}"
  | .network => "child network authority exceeds parent network authority"
  | .spawnDepth maximum => s!"child spawn depth exceeds server maximum {maximum}"

/-- The working directory: `cwd`, else the first worktree, else the first
granted path. -/
def authorityWorkingDirectory (authority : ThreadAuthorityRecord) :
    Option String :=
  authority.cwd <|> (authority.worktrees.head?.map (·.path)) <|>
    (authority.grantedPaths.head?.map (·.path))

/-- The path lies under a worktree of the authority. -/
def underWorktree (authority : ThreadAuthorityRecord) (path : String) : Bool :=
  authority.worktrees.any fun worktree =>
    (pathComponents path).startsWith (pathComponents worktree.path)

/-- The granted paths of the authority that the path lies under. -/
def grantMatches (authority : ThreadAuthorityRecord) (path : String) :
    List ThreadGrantedPath :=
  authority.grantedPaths.filter fun grant =>
    (pathComponents path).startsWith (pathComponents grant.path)

def validateChildPath (parent : ThreadAuthorityRecord) (childPath : String)
    (writable : Bool) : Except ThreadAuthorityError Unit :=
  if !underWorktree parent childPath && (grantMatches parent childPath).isEmpty
  then
    .error (.workingDirectory
      ((authorityWorkingDirectory parent).getD "<no granted path>") childPath)
  else if writable && !underWorktree parent childPath &&
      !(grantMatches parent childPath).any (·.writable) then
    .error (.writablePath childPath)
  else
    .ok ()

/-- The path is `scratch` beside the `repos` directory, named after the
thread's root, that holds the worktree. -/
def isScratchBeside (threadId : String) (worktree path : Path) : Bool :=
  match worktree.parent with
  | none => false
  | some reposRoot =>
      if reposRoot.fileName = some "repos" then
        match reposRoot.parent with
        | none => false
        | some threadRoot =>
            threadRoot.fileName == some threadId &&
              path == threadRoot ++ [.normal "scratch"]
      else
        false

def childOwnedPath (child : ThreadAuthorityDraft) (path : String) : Bool :=
  child.worktrees.any fun worktree =>
    isScratchBeside child.threadId (pathComponents worktree.path)
      (pathComponents path)

/-- The first repository that no worktree of the parent has. -/
def missingRepository (parent : ThreadAuthorityRecord)
    (repositories : List String) : Option String :=
  repositories.find? fun repo => !parent.worktrees.any (·.repo == repo)

/-- The check of each granted path in turn. -/
def validateGrants (parent : ThreadAuthorityRecord) :
    List ThreadGrantedPath → Except ThreadAuthorityError Unit
  | [] => .ok ()
  | grant :: rest => do
      validateChildPath parent grant.path grant.writable
      validateGrants parent rest

/-- The paths of a child: without worktrees all of them lie under the parent's
paths; with worktrees the working directory lies in one of these, and only the
child's own scratch is exempt. -/
def validateChildPaths (parent : ThreadAuthorityRecord)
    (child : ThreadAuthorityDraft) : Except ThreadAuthorityError Unit :=
  if child.worktrees.isEmpty then do
    validateChildPath parent child.cwd false
    validateGrants parent child.grantedPaths
  else
    match missingRepository parent (child.worktrees.map (·.repo)) with
    | some repo => .error (.repository repo)
    | none =>
        if child.worktrees.any fun worktree =>
            (pathComponents child.cwd).startsWith
              (pathComponents worktree.path) then
          validateGrants parent
            (child.grantedPaths.filter fun grant =>
              !childOwnedPath child grant.path)
        else
          .error (.workingDirectory "server-created child repositories"
            child.cwd)

def validateChildAuthority (parent : ThreadAuthorityRecord)
    (child : ThreadAuthorityDraft) : Except ThreadAuthorityError Unit :=
  let excess := child.toolset.filter fun tool => !parent.toolset.contains tool
  if !parent.approvalPolicy.permits child.approvalPolicy then
    .error (.approvalPolicy parent.approvalPolicy child.approvalPolicy)
  else if !excess.isEmpty then
    .error (.toolset excess)
  else if child.network && !parent.network then
    .error .network
  else
    match missingRepository parent (child.repositories.map (·.repo)) with
    | some repo => .error (.repository repo)
    | none => validateChildPaths parent child

/-- What the store takes from outside: whether a path is the canonical name of
a directory. -/
structure StoreEnv where
  canonicalDirectory : String → Bool

def validateAuthorityPath (env : StoreEnv) (path : String) :
    Except AppError Unit :=
  if env.canonicalDirectory path then .ok ()
  else .error (.config "thread authority paths must be canonical")

/-- The blank check of an identifier type. -/
def checkIdentifier (kind : IdKind) (value : String) : Except AppError Unit :=
  match Identifier.new kind value with
  | .ok _ => .ok ()
  | .error error => .error (.core error)

/-- The parent of an authority is another thread. -/
def validateParent (authority : ThreadAuthorityRecord) :
    Except AppError Unit :=
  match authority.parentThreadId with
  | none => .ok ()
  | some parentThreadId => do
      checkIdentifier .actorId parentThreadId
      requireThat (parentThreadId ≠ authority.threadId)
        (.config "thread authority cannot name itself as parent")

/-- The checks of `thread_kind` against the other columns. -/
def validateKind (authority : ThreadAuthorityRecord) : Except AppError Unit :=
  if authority.threadKind = .home ∧ authority.parentThreadId.isSome then
    .error (.config "home thread authority cannot have a parent")
  else if authority.threadKind = .child ∧ authority.parentThreadId.isNone then
    .error (.config "child thread authority requires a parent")
  else if authority.threadKind = .legacy ∧ authority.agentId.isNone then
    .error (.config "legacy thread authority requires an agent id")
  else if authority.threadKind ≠ .legacy ∧ authority.agentId.isSome then
    .error (.config "profile thread authority cannot carry a legacy agent id")
  else if authority.threadKind ≠ .legacy ∧
      (authority.profileId.isNone ∨
        authority.profileRevision.all (· == 0)) then
    .error (.config
      "profile thread authority requires a profile and positive revision")
  else
    .ok ()

def validateWorktree (env : StoreEnv) (worktree : ThreadWorktree) :
    Except AppError Unit :=
  if trimIsEmpty worktree.repo || trimIsEmpty worktree.branch then
    .error (.config
      "thread authority worktree repo and branch must not be empty")
  else
    validateAuthorityPath env worktree.path

def validateCompleteAuthority (env : StoreEnv)
    (authority : ThreadAuthorityRecord) : Except AppError Unit := do
  checkIdentifier .actorId authority.threadId
  validateParent authority
  checkIdentifier .actorId authority.spawningActor
  validateKind authority
  checkIdentifier .modelName authority.model
  authority.cwd.toList.forM (validateAuthorityPath env)
  authority.toolset.forM (checkIdentifier .toolName)
  requireThat (authority.worktrees ≠ [] ∨ authority.grantedPaths ≠ [])
    (.config "thread authority requires a worktree or granted path")
  authority.worktrees.forM (validateWorktree env)
  authority.grantedPaths.forM fun grant => validateAuthorityPath env grant.path

end PlatoAgent
