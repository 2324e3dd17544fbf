import PlatoAgent.FallibleCalls
import PlatoAgent.ProcessTable

/-!
# The tree of a run child

The daemon scans the process table for the descendants of its run child,
signals those that it has observed, and ends only when the group of the run
child and everything observed are gone.  The table changes between any two of
its steps.
-/

namespace PlatoAgent

namespace ChildProcess

open ProcessTable

/-- `HashMap::insert`, by pid. -/
def insertObserved (observed : List Identity) (process : Identity) :
    List Identity :=
  process :: observed.filter fun other => other.pid ≠ process.pid

structure Walk where
  observed : List Identity
  queue : List Pid
  found : List Identity

/-- A process of the table, when the children of a parent are visited. -/
def visit (child parent : Pid) (walk : Walk) (process : LinuxProcess) : Walk :=
  if process.parent = parent.val ∧ process.pid ≠ child then
    let identity : Identity := ⟨process.pid, process.startTime⟩
    { observed := insertObserved walk.observed identity
      queue := if walk.observed.all (·.pid ≠ process.pid)
        then walk.queue ++ [process.pid] else walk.queue
      found := walk.found ++ [identity] }
  else walk

/-- The loop over the queue. -/
def walkQueue (child : Pid) (processes : List LinuxProcess) :
    Nat → Walk → Walk
  | 0, walk => walk
  | rounds + 1, walk =>
      match walk.queue with
      | [] => walk
      | parent :: rest =>
          walkQueue child processes rounds
            (processes.foldl (visit child parent) { walk with queue := rest })

def startParents (child : Pid) (observed : List Identity) : List Pid :=
  child :: observed.map Identity.pid

/-- Every pid enters the queue once. -/
def scan (child : Pid) (observed : List Identity)
    (processes : List LinuxProcess) : Walk :=
  let parents := startParents child observed
  walkQueue child processes (parents.length + processes.length)
    ⟨observed, parents, []⟩

/-- A process whose file was read, and the table at that moment. -/
structure Reading where
  table : List Process
  process : Process

/-- What a step sees, for the conditions under which it is right. -/
inductive Sight where
  | scan (readings : List Reading) (parents : List Pid)
  | check (table : List Process) (process : Identity)
  | group (table : List Process)
  | signal (table : List Process) (process : Identity)

/-- What the surroundings do before an atomic step: events of the kernel, and
whether a call fails or a deadline has come; and the pids that `/proc` lists to
a scan which begins. -/
structure Turn where
  events : List KernelEvent
  fails : Bool
  expired : Bool
  entries : List Pid

/-- The table, the fields of a `PlatformChild`, the turns to come, and what has
been found, signalled and seen. -/
structure Machine where
  kernel : Kernel
  turns : List Turn
  child : Identity
  observed : List Identity
  status : Option Nat
  found : List Identity
  signalled : List Process
  seen : List Sight

/-- Why a call has no result: it goes on, or it fails. -/
inductive Stop where
  | pending
  | io (reason : String)
  deriving DecidableEq, Repr

abbrev Call := ExceptT Stop (StateM Machine)

def Machine.see (machine : Machine) (sight : Sight) : Machine :=
  { machine with seen := machine.seen ++ [sight] }

def Machine.afterTurn (machine : Machine) (turn : Turn) (rest : List Turn) :
    Machine :=
  { machine with
    turns := rest
    kernel := turn.events.foldl (Kernel.advance machine.child) machine.kernel }

/-- The surroundings before an atomic step. -/
def nextTurn : Call Turn := do
  let machine ← get
  match machine.turns with
  | [] => throw .pending
  | turn :: rest =>
      set (machine.afterTurn turn rest)
      return turn

/-- `Instant::now() >= deadline`. -/
def isExpired : Call Bool := do
  return (← nextTurn).expired

/-- `HashMap::insert`, by pid. -/
def insertReading (readings : List Reading) (reading : Reading) :
    List Reading :=
  reading :: readings.filter fun other =>
    other.process.pid ≠ reading.process.pid

/-- A file of a process is read, where there is one and it can be parsed. -/
def readStat (table : List Process) (pid : Pid) (readings : List Reading) :
    List Reading :=
  match table.find? fun process => process.pid = pid with
  | none => readings
  | some process =>
      if (process.stat.bind (parseLinuxStat process.pid)).isSome then
        insertReading readings ⟨table, process⟩
      else readings

/-- The loop of `linux_processes` over the entries of `/proc`, one file at a
time. -/
def readProcesses : List Pid → List Reading → Call (List Reading)
  | [], readings => return readings
  | pid :: rest, readings => do
      let turn ← nextTurn
      if turn.fails then throw (.io "read_dir")
      else
        let table := (← get).kernel.processes
        readProcesses rest (readStat table pid readings)

def Machine.observe (readings : List Reading) (machine : Machine) : Machine :=
  let walk := scan machine.child.pid machine.observed
    (linuxProcesses (readings.map Reading.process))
  { machine with
    observed := walk.observed
    found := machine.found ++ walk.found
    seen := machine.seen ++ [.scan readings
      (startParents machine.child.pid machine.observed)] }

def observeDescendants : Call Unit := do
  let turn ← nextTurn
  if turn.fails then throw (.io "read_dir")
  else
    let readings ← readProcesses turn.entries []
    modify (Machine.observe readings)

inductive Signal where
  | term | stop | kill
  deriving DecidableEq, Repr

/-- The process that holds a pid gets a signal. -/
def Machine.signal (machine : Machine) (process : Identity) : Machine :=
  { machine with
    signalled := machine.signalled ++
      (machine.kernel.holder process.pid).toList
    seen := machine.seen ++ [.signal machine.kernel.processes process] }

/-- The pid may pass to another process between the check and the signal. -/
def signalOne (_signal : Signal) (process : Identity) : Call Unit := do
  let _ ← nextTurn
  if processAlive (← get).kernel.processes process && process.pid ≠ 0 then
    let _ ← nextTurn
    modify (·.signal process)
  else return

def signalEach (signal : Signal) : List Identity → Call Unit
  | [] => return
  | process :: rest => do
      signalOne signal process
      signalEach signal rest

def signalObserved (signal : Signal) : Call Unit := do
  signalEach signal (← get).observed

/-- A signal to the group of the run child, or to the run child alone. -/
def killProcessGroup (_signal : Signal) : Call Unit := do
  let _ ← nextTurn

/-- The run child is reaped when it is a zombie. -/
def Machine.reapChild (machine : Machine) : Machine :=
  match machine.kernel.processes.find? (·.identity = machine.child) with
  | none => machine
  | some process =>
      match process.exitStatus with
      | none => machine
      | some status =>
          { machine with
            status := some status
            kernel := { machine.kernel with processes :=
              machine.kernel.processes.filter (·.pid ≠ machine.child.pid) } }

def tryWait : Call (Option Nat) := do
  let machine ← get
  if machine.status.isSome then return machine.status
  else
    let turn ← nextTurn
    if turn.fails then throw (.io "waitpid")
    else
      modify Machine.reapChild
      return (← get).status

def checkAlive (process : Identity) : Call Bool := do
  let _ ← nextTurn
  let table := (← get).kernel.processes
  modify (·.see (.check table process))
  return processAlive table process

def anyAlive : List Identity → Call Bool
  | [] => return false
  | process :: rest => do
      if ← checkAlive process then return true else anyAlive rest

def anyObservedAlive : Call Bool := do
  anyAlive (← get).observed

def groupAlive : Call Bool := do
  let turn ← nextTurn
  let machine ← get
  modify (·.see (.group machine.kernel.processes))
  if machine.kernel.processes.any (·.group.pid = machine.child.pid) then
    if turn.fails then throw (.io "kill") else return true
  else return false

/-- Every loop takes a turn in each round, so that the turns bound it. -/
def withTurns {Result : Type} (loop : Nat → Call Result) : Call Result := do
  loop (← get).turns.length

def waitForExitLoop : Nat → Call (Option Nat)
  | 0 => throw .pending
  | rounds + 1 => do
      observeDescendants
      let status ← tryWait
      if status.isSome then return status
      else if ← isExpired then return none
      else waitForExitLoop rounds

def waitForExit : Call (Option Nat) :=
  withTurns waitForExitLoop

/-- The pids of those that are alive. -/
def residualPids : List Identity → Call (List Pid)
  | [] => return []
  | process :: rest => do
      let alive ← checkAlive process
      let others ← residualPids rest
      return if alive then process.pid :: others else others

def residualError : Call Unit := do
  let machine ← get
  let residual ← residualPids machine.observed
  throw (.io (s!"run child {machine.child.pid} left residual process group " ++
    s!"or descendants {residual}"))

def assertZeroResidualLoop : Nat → Call Unit
  | 0 => throw .pending
  | rounds + 1 => do
      observeDescendants
      let groupAlive ← groupAlive
      let descendantsAlive ← anyObservedAlive
      if !groupAlive && !descendantsAlive then return
      else if ← isExpired then residualError
      else assertZeroResidualLoop rounds

def assertZeroResidual : Call Unit :=
  withTurns assertZeroResidualLoop

def freezeLoop : Nat → Call Unit
  | 0 => throw .pending
  | rounds + 1 => do
      let before := (← get).observed.length
      observeDescendants
      signalObserved .stop
      killProcessGroup .stop
      observeDescendants
      if (← get).observed.length = before then return
      else freezeLoop rounds

def freezeDescendantTree : Call Unit :=
  withTurns freezeLoop

/-- `self.try_wait()?.is_some() && !self.any_observed_alive()`. -/
def hasEnded : Call Bool := do
  let status ← tryWait
  if status.isSome then return !(← anyObservedAlive) else return false

def graceLoop : Nat → Call Unit
  | 0 => throw .pending
  | rounds + 1 => do
      observeDescendants
      signalObserved .term
      if ← hasEnded then return
      else if ← isExpired then return
      else graceLoop rounds

/-- `self.try_wait()?.is_none() || self.any_observed_alive() ||
self.group_alive()?`. -/
def isLeft : Call Bool := do
  let status ← tryWait
  if status.isNone then return true
  else if ← anyObservedAlive then return true
  else groupAlive

/-- The last of the signals is that of `Child::kill`. -/
def killTree : Call Unit := do
  freezeDescendantTree
  signalObserved .kill
  killProcessGroup .kill
  killProcessGroup .kill

def killLoop : Nat → Call Unit
  | 0 => throw .pending
  | rounds + 1 => do
      let status ← tryWait
      if status.isSome then return
      else if ← isExpired then
        throw (.io s!"run child {(← get).child.pid} did not exit after kill")
      else killLoop rounds

def killIfLeft : Call Unit := do
  if ← isLeft then killTree else return

def terminateTree : Call (Option Nat) := do
  observeDescendants
  signalObserved .term
  killProcessGroup .term
  withTurns graceLoop
  killIfLeft
  withTurns killLoop
  assertZeroResidual
  return (← get).status

def settle {Result : Type} :
    Except Stop Result → Call (Except String Result)
  | .ok result => return .ok result
  | .error .pending => throw .pending
  | .error (.io reason) => return .error reason

/-- A failure is handed to the caller; what is pending stays so. -/
def attempt {Result : Type} (call : Call Result) :
    Call (Except String Result) := do
  settle (← FallibleCall.attempt call)

def killOnDrop : Call Unit := do
  let exited ← attempt tryWait
  if exited.toOption.join.isNone then discard (attempt terminateTree)
  else if ← anyObservedAlive then discard (attempt terminateTree)
  else return

inductive Request where
  | observe | tryWait | waitForExit | terminate | assertZero | drop
  deriving DecidableEq, Repr

def request : Request → Call Unit
  | .observe => observeDescendants
  | .tryWait => discard tryWait
  | .waitForExit => discard waitForExit
  | .terminate => discard terminateTree
  | .assertZero => assertZeroResidual
  | .drop => killOnDrop

/-- The callers go on after a failure. -/
def requests : List Request → Call Unit
  | [] => return
  | first :: rest => do
      let _ ← attempt (request first)
      requests rest

section Scan

variable {table : List Process} {known : List Identity} {child : Pid}

/-- The identity of a process of the table that is accepted. -/
def IsListed (accept : Process → Prop) (table : List Process)
    (identity : Identity) : Prop :=
  ∃ process ∈ table, process.identity = identity ∧ accept process

/-- A pid whose children are visited: one that the walk starts with, or that of
an accepted process. -/
def IsParent (accept : Process → Prop) (table : List Process)
    (parents : List Pid) (pid : Pid) : Prop :=
  pid ∈ parents ∨ ∃ process ∈ table, process.pid = pid ∧ accept process

/-- A walk has only found processes of the table that are accepted, and has
lost only what another process has replaced. -/
structure Walk.Valid (accept : Process → Prop) (table : List Process)
    (known : List Identity) (parents : List Pid) (walk : Walk) : Prop where
  observed : ∀ identity ∈ walk.observed,
    identity ∈ known ∨ IsListed accept table identity
  kept : ∀ identity ∈ known, identity ∈ walk.observed ∨
    ∃ process ∈ table, process.pid = identity.pid ∧ process.identity ≠ identity
  found : ∀ identity ∈ walk.found,
    identity ∈ walk.observed ∧ IsListed accept table identity
  queue : ∀ pid ∈ walk.queue, IsParent accept table parents pid

/-- Children of an accepted parent are accepted. -/
def Accepts (child : Pid) (accept : Process → Prop) (table : List Process)
    (parents : List Pid) : Prop :=
  ∀ process ∈ table, process.name.isSome = true → process.pid ≠ child →
    IsParent accept table parents process.parent → accept process

variable {accept : Process → Prop} {parents : List Pid} {walk : Walk}

theorem Walk.Valid.visit (nodup : (table.map Process.pid).Nodup)
    (accepts : Accepts child accept table parents)
    (valid : walk.Valid accept table known parents) {parent : Pid}
    (isParent : IsParent accept table parents parent) {listed : LinuxProcess}
    (member : listed ∈ linuxProcesses table) :
    (ChildProcess.visit child parent walk listed).Valid accept table known
      parents := by
  obtain ⟨process, isProcess, named, rfl⟩ := mem_linuxProcesses.mp member
  unfold ChildProcess.visit
  split
  next isChild =>
    have same : process.parent = parent := by
      have equal : (process.parent.val : Int) = parent.val := isChild.1
      exact Fin.ext (by omega)
    have accepted : accept process :=
      accepts process isProcess named isChild.2 (same ▸ isParent)
    have isListed : IsListed accept table process.identity :=
      ⟨process, isProcess, rfl, accepted⟩
    have inserted {identity : Identity} :
        identity ∈ insertObserved walk.observed process.identity ↔
          identity = process.identity ∨
            identity ∈ walk.observed ∧ identity.pid ≠ process.pid := by
      simp [insertObserved, Process.pid]
    constructor
    case observed =>
      intro identity isObserved
      rcases inserted.mp isObserved with rfl | ⟨before, _⟩
      · exact .inr isListed
      · exact valid.observed identity before
    case kept =>
      intro identity before
      rcases valid.kept identity before with still | replaced
      · by_cases samePid : identity.pid = process.pid
        · by_cases equal : identity = process.identity
          · exact .inl (inserted.mpr (.inl equal))
          · exact .inr ⟨process, isProcess, samePid.symm, Ne.symm equal⟩
        · exact .inl (inserted.mpr (.inr ⟨still, samePid⟩))
      · exact .inr replaced
    case found =>
      intro identity isFound
      rcases List.mem_append.mp isFound with before | now
      · obtain ⟨still, other, isOther, rfl, acceptsOther⟩ :=
          valid.found identity before
        refine ⟨inserted.mpr ?_, other, isOther, rfl, acceptsOther⟩
        by_cases samePid : other.pid = process.pid
        · rw [pid_unique nodup isOther isProcess samePid]
          exact .inl rfl
        · exact .inr ⟨still, samePid⟩
      · obtain rfl := List.mem_singleton.mp now
        exact ⟨inserted.mpr (.inl rfl), isListed⟩
    case queue =>
      intro pid isQueued
      dsimp only at isQueued
      split at isQueued
      · rcases List.mem_append.mp isQueued with before | now
        · exact valid.queue pid before
        · obtain rfl := List.mem_singleton.mp now
          exact .inr ⟨process, isProcess, rfl, accepted⟩
      · exact valid.queue pid isQueued
  · exact valid

theorem Walk.Valid.visits (nodup : (table.map Process.pid).Nodup)
    (accepts : Accepts child accept table parents)
    (valid : walk.Valid accept table known parents) {parent : Pid}
    (isParent : IsParent accept table parents parent)
    {listed : List LinuxProcess} (members : listed ⊆ linuxProcesses table) :
    (listed.foldl (ChildProcess.visit child parent) walk).Valid accept table
      known parents := by
  induction listed generalizing walk with
  | nil => exact valid
  | cons first rest ih =>
      obtain ⟨member, later⟩ := List.cons_subset.mp members
      exact ih (valid.visit nodup accepts isParent member) later

theorem Walk.Valid.walkQueue (nodup : (table.map Process.pid).Nodup)
    (accepts : Accepts child accept table parents)
    (valid : walk.Valid accept table known parents) (rounds : Nat) :
    (ChildProcess.walkQueue child (linuxProcesses table) rounds walk).Valid
      accept table known parents := by
  induction rounds generalizing walk with
  | zero => exact valid
  | succ rounds ih =>
      rw [ChildProcess.walkQueue]
      split
      · exact valid
      next parent rest queue =>
        have isParent := valid.queue parent (by rw [queue]; exact .head _)
        have popped : Walk.Valid accept table known parents
            { walk with queue := rest } :=
          { valid with queue := fun pid member =>
              valid.queue pid (by rw [queue]; exact .tail _ member) }
        exact ih (popped.visits nodup accepts isParent (List.Subset.refl _))

/-- A scan finds only accepted processes of the table. -/
theorem valid_scan (nodup : (table.map Process.pid).Nodup)
    (accepts : Accepts child accept table (startParents child known)) :
    (scan child known (linuxProcesses table)).Valid accept table known
      (startParents child known) := by
  have start : Walk.Valid accept table known (startParents child known)
      ⟨known, startParents child known, []⟩ :=
    ⟨fun _ member => .inl member, fun _ member => .inl member,
      fun _ member => (nomatch member), fun _ member => .inl member⟩
  exact start.walkQueue nodup accepts _

/-- Where the children of the popped pids are found and all other known pids
are queued. -/
structure Walk.Searched (child : Pid) (table : List Process)
    (parents popped : List Pid) (walk : Walk) : Prop where
  start : ∀ pid ∈ parents, pid ∈ popped ∨ pid ∈ walk.queue
  known : ∀ identity ∈ walk.observed,
    identity.pid ∈ popped ∨ identity.pid ∈ walk.queue
  children : ∀ process ∈ table, process.name.isSome = true →
    process.pid ≠ child → process.parent ∈ popped →
    process.identity ∈ walk.found

theorem queue_subset_visit (child parent : Pid) (walk : Walk)
    (listed : LinuxProcess) :
    walk.queue ⊆ (visit child parent walk listed).queue := by
  unfold visit
  split
  · dsimp only
    split
    · exact List.subset_append_left _ _
    · exact List.Subset.refl _
  · exact List.Subset.refl _

theorem found_subset_visit (child parent : Pid) (walk : Walk)
    (listed : LinuxProcess) :
    walk.found ⊆ (visit child parent walk listed).found := by
  unfold visit
  split
  · exact List.subset_append_left _ _
  · exact List.Subset.refl _

theorem known_visit {popped : List Pid} {parent : Pid} (listed : LinuxProcess)
    (known : ∀ identity ∈ walk.observed,
      identity.pid ∈ popped ∨ identity.pid ∈ walk.queue) :
    ∀ identity ∈ (visit child parent walk listed).observed,
      identity.pid ∈ popped ∨
        identity.pid ∈ (visit child parent walk listed).queue := by
  intro identity member
  by_cases before : identity ∈ walk.observed
  · exact (known identity before).imp_right
      fun queued => queue_subset_visit child parent walk listed queued
  · unfold visit at member ⊢
    split at member
    next isChild =>
      rw [if_pos isChild]
      dsimp only at member ⊢
      rcases List.mem_cons.mp member with rfl | old
      · split
        · exact .inr (List.mem_append_right _ (.head _))
        next someone =>
          simp only [List.all_eq_true, decide_eq_true_eq, not_forall,
            not_not] at someone
          obtain ⟨other, isOther, same⟩ := someone
          rw [← same]
          exact known other isOther
      · exact absurd (List.mem_of_mem_filter old) before
    · exact absurd member before

/-- All listed processes are visited as children of a parent. -/
theorem visits_spec {popped : List Pid} {parent : Pid}
    (listed : List LinuxProcess)
    (known : ∀ identity ∈ walk.observed,
      identity.pid ∈ popped ∨ identity.pid ∈ walk.queue) :
    walk.queue ⊆ (listed.foldl (visit child parent) walk).queue ∧
    walk.found ⊆ (listed.foldl (visit child parent) walk).found ∧
    (∀ identity ∈ (listed.foldl (visit child parent) walk).observed,
      identity.pid ∈ popped ∨
        identity.pid ∈ (listed.foldl (visit child parent) walk).queue) ∧
    ∀ process ∈ listed, process.parent = parent.val → process.pid ≠ child →
      ⟨process.pid, process.startTime⟩ ∈
        (listed.foldl (visit child parent) walk).found := by
  induction listed generalizing walk with
  | nil =>
      exact ⟨List.Subset.refl _, List.Subset.refl _, known,
        fun _ member => nomatch member⟩
  | cons first rest ih =>
      obtain ⟨queue, found, observed, children⟩ := ih (known_visit first known)
      refine ⟨List.Subset.trans (queue_subset_visit _ _ _ _) queue,
        List.Subset.trans (found_subset_visit _ _ _ _) found, observed, ?_⟩
      refine List.forall_mem_cons.mpr ⟨fun isParent other => ?_, children⟩
      apply found
      unfold visit
      rw [if_pos ⟨isParent, other⟩]
      exact List.mem_append_right _ (.head _)

/-- The pids in the queue and those that no walk has met. -/
def Walk.left (listed : List LinuxProcess) (walk : Walk) : Nat :=
  walk.queue.length +
    listed.countP fun process => walk.observed.all (·.pid ≠ process.pid)

theorem countP_lt_countP {Value : Type} {fewer more : Value → Bool}
    {values : List Value}
    (implies : ∀ value ∈ values, fewer value = true → more value = true)
    (differs : ∃ value ∈ values, more value = true ∧ fewer value = false) :
    values.countP fewer < values.countP more := by
  induction values with
  | nil =>
      obtain ⟨_, member, _⟩ := differs
      cases member
  | cons first rest ih =>
      obtain ⟨atFirst, later⟩ := List.forall_mem_cons.mp implies
      have least := List.countP_mono_left later
      rw [List.countP_cons, List.countP_cons]
      obtain ⟨value, member, isMore, notFewer⟩ := differs
      rcases List.mem_cons.mp member with rfl | behind
      · rw [isMore, notFewer]
        simp only [Bool.false_eq_true, if_false, if_true]
        omega
      · have less := ih later ⟨value, behind, isMore, notFewer⟩
        split <;> split <;> simp_all

theorem left_visit {parent : Pid} {listed : List LinuxProcess}
    {process : LinuxProcess} (member : process ∈ listed) :
    (visit child parent walk process).left listed ≤ walk.left listed := by
  have fewer (other : LinuxProcess) :
      (insertObserved walk.observed ⟨process.pid, process.startTime⟩).all
        (·.pid ≠ other.pid) = true → walk.observed.all (·.pid ≠ other.pid) =
          true := by
    simp only [insertObserved, List.all_eq_true, decide_eq_true_eq,
      List.forall_mem_cons, List.mem_filter]
    rintro ⟨isOther, rest⟩ identity isKnown
    by_cases same : identity.pid = process.pid
    · rw [same]
      exact isOther
    · exact rest identity ⟨isKnown, same⟩
  unfold visit
  split
  · unfold Walk.left
    dsimp only
    split
    next free =>
      have less := countP_lt_countP (fun other _ => fewer other)
        ⟨process, member, free, by simp [insertObserved]⟩
      rw [List.length_append, List.length_singleton]
      omega
    · exact Nat.add_le_add_left
        (List.countP_mono_left fun other _ => fewer other) _
  · exact Nat.le_refl _

theorem left_visits {parent : Pid} {listed visited : List LinuxProcess}
    (members : visited ⊆ listed) :
    (visited.foldl (visit child parent) walk).left listed ≤ walk.left listed := by
  induction visited generalizing walk with
  | nil => exact Nat.le_refl _
  | cons first rest ih =>
      obtain ⟨member, later⟩ := List.cons_subset.mp members
      exact (ih later).trans (left_visit member)

/-- With enough rounds the queue is emptied and every known pid is popped. -/
theorem searched_walkQueue {popped : List Pid} {rounds : Nat}
    (enough : walk.left (linuxProcesses table) ≤ rounds)
    (searched : walk.Searched child table parents popped) :
    ∃ all, (walkQueue child (linuxProcesses table) rounds walk).queue = [] ∧
      (walkQueue child (linuxProcesses table) rounds walk).Searched child table
        parents all := by
  induction rounds generalizing walk popped with
  | zero =>
      refine ⟨popped, ?_, searched⟩
      unfold Walk.left at enough
      have short : walk.queue.length = 0 := by omega
      exact List.length_eq_zero_iff.mp short
  | succ rounds ih =>
      rw [walkQueue]
      split
      next empty => exact ⟨popped, empty, searched⟩
      next parent rest queue =>
        have known : ∀ identity ∈ walk.observed,
            identity.pid ∈ parent :: popped ∨ identity.pid ∈ rest := by
          intro identity member
          have either := searched.known identity member
          rw [queue, List.mem_cons] at either
          rw [List.mem_cons]
          tauto
        have spec := @visits_spec child { walk with queue := rest }
          (parent :: popped) parent (linuxProcesses table) known
        have popsParent : Walk.Searched child table parents (parent :: popped)
            ((linuxProcesses table).foldl (visit child parent)
              { walk with queue := rest }) := by
          constructor
          case start =>
            intro pid member
            have either := searched.start pid member
            rw [queue, List.mem_cons] at either
            rw [List.mem_cons]
            rcases either with before | now | later
            · exact .inl (.inr before)
            · exact .inl (.inl now)
            · exact .inr (spec.1 later)
          case known => exact spec.2.2.1
          case children =>
            intro process member named other isPopped
            rcases List.mem_cons.mp isPopped with now | before
            · exact spec.2.2.2 process.listed
                (mem_linuxProcesses.mpr ⟨process, member, named, rfl⟩)
                (by rw [← now]; rfl) other
            · exact spec.2.1 (searched.children process member named other before)
        have less : Walk.left (linuxProcesses table)
            { walk with queue := rest } + 1 =
              walk.left (linuxProcesses table) := by
          unfold Walk.left
          rw [queue, List.length_cons]
          dsimp only
          omega
        have next := @left_visits child { walk with queue := rest } parent _ _
          (List.Subset.refl (linuxProcesses table))
        exact ih (by omega) popsParent

/-- A process that is linked by parents to one of the pids that a scan starts
with, through processes that can be read. -/
inductive Linked (child : Pid) (table : List Process) (parents : List Pid) :
    Process → Prop
  | start {process} (member : process ∈ table)
      (named : process.name.isSome = true) (other : process.pid ≠ child)
      (isChild : process.parent ∈ parents) : Linked child table parents process
  | next {parent process} (linked : Linked child table parents parent)
      (member : process ∈ table) (named : process.name.isSome = true)
      (other : process.pid ≠ child) (isChild : process.parent = parent.pid) :
      Linked child table parents process

/-- A scan finds exactly the processes that are linked to the run child or to
what was observed before, and observes each of them. -/
theorem scan_finds_linked (nodup : (table.map Process.pid).Nodup)
    (child : Pid) (known : List Identity) (identity : Identity) :
    (identity ∈ (scan child known (linuxProcesses table)).found ↔
      ∃ process, Linked child table (startParents child known) process ∧
        process.identity = identity) ∧
    (identity ∈ (scan child known (linuxProcesses table)).found →
      identity ∈ (scan child known (linuxProcesses table)).observed) := by
  have accepts : Accepts child (Linked child table (startParents child known))
      table (startParents child known) := by
    intro process member named other isParent
    rcases isParent with started | ⟨parent, _, same, linked⟩
    · exact .start member named other started
    · exact .next linked member named other same.symm
  have valid := valid_scan nodup accepts
  have start : Walk.Searched child table (startParents child known) []
      ⟨known, startParents child known, []⟩ :=
    ⟨fun _ member => .inr member,
      fun identity member => .inr (List.mem_cons_of_mem _
        (List.mem_map_of_mem member)),
      fun _ _ _ _ isPopped => nomatch isPopped⟩
  obtain ⟨all, empty, searched⟩ := searched_walkQueue
    (Nat.add_le_add_left List.countP_le_length _) start
  have popped {pid : Pid}
      (reached : pid ∈ all ∨ pid ∈ (walkQueue child (linuxProcesses table)
        ((startParents child known).length + (linuxProcesses table).length)
        ⟨known, startParents child known, []⟩).queue) : pid ∈ all := by
    rw [empty] at reached
    exact reached.resolve_right (fun member => nomatch member)
  refine ⟨⟨?_, ?_⟩, fun found => (valid.found identity found).1⟩
  · intro found
    obtain ⟨_, process, _, same, linked⟩ := valid.found identity found
    exact ⟨process, linked, same⟩
  · rintro ⟨process, linked, rfl⟩
    induction linked with
    | start member named other isChild =>
        exact searched.children _ member named other
          (popped (searched.start _ isChild))
    | next linked member named other isChild ih =>
        refine searched.children _ member named other ?_
        rw [isChild]
        exact popped (searched.known _ (valid.found _ ih).1)

end Scan

/-- No stranger is the parent of a process that is read, under the pid of the
run child, of an observed process or of a descendant that the scan has read; and
a pid stays with the process that was checked until that is signalled. -/
def Sight.IsInTree (child : Identity) : Sight → Prop
  | .scan readings parents => ∀ reading ∈ readings,
      (reading.process.parent ∈ parents ∨ ∃ other ∈ readings,
        other.process.pid = reading.process.parent ∧
          child ∈ other.process.lineage) →
      ∀ parent ∈ reading.table, parent.pid = reading.process.parent →
        parent.identity = child ∨ child ∈ parent.lineage
  | .check _ _ => True
  | .group _ => True
  | .signal table process => ∀ holder ∈ table, holder.pid = process.pid →
      holder.identity = process

/-- A checked process can be read, and the run child has not left its group. -/
def Sight.IsPlain (child : Identity) : Sight → Prop
  | .scan _ _ => True
  | .check table checked => ∀ process ∈ table, process.identity = checked →
      process.name.isSome = true
  | .group table => ∀ process ∈ table, process.identity = child →
      process.group = child
  | .signal _ _ => True

/-- What is observed was in the table.  What was found is observed or gone, and
as long as every scan stays in the tree, only descendants of the run child are
observed and signalled. -/
structure Machine.Sound (child : Identity) (machine : Machine) : Prop where
  isChild : machine.child = child
  kernel : machine.kernel.Sound
  used : child ∈ machine.kernel.used
  pid : child.pid ≠ 0 ∧ child.pid ≠ 1
  observed : ∀ identity ∈ machine.observed,
    identity ∈ machine.kernel.used ∧ identity.pid ≠ 0
  found : ∀ identity ∈ machine.found,
    identity ∈ machine.observed ∨ Kernel.Gone identity machine.kernel
  descends : (∀ sight ∈ machine.seen, sight.IsInTree child) →
    (∀ identity ∈ machine.observed,
      Kernel.Descends child identity machine.kernel) ∧
    ∀ process ∈ machine.signalled, child ∈ process.lineage

section Steps

variable {child : Identity} {machine : Machine}

/-- A child of a descendant that is held in the table is one. -/
theorem lineage_of_parent {kernel : Kernel} (sound : kernel.Sound)
    (notInit : child.pid ≠ 1) {process parent : Process}
    (member : process ∈ kernel.processes) (isParent : parent ∈ kernel.processes)
    (same : parent.pid = process.parent)
    (inTree : parent.identity = child ∨ child ∈ parent.lineage) :
    child ∈ process.lineage := by
  rcases sound.parents process member with none | ⟨holder, isHolder, holds, _,
    bornOf⟩
  · exact absurd (same.trans none) (sound.positive parent isParent)
  obtain rfl := pid_unique sound.nodup isHolder isParent
    (holds.trans same.symm)
  rcases bornOf with isInit | bornOf
  · obtain ⟨first, isFirst, pid, _, lineage⟩ := sound.init
    obtain rfl := pid_unique sound.nodup isHolder isFirst
      (isInit.trans pid.symm)
    rcases inTree with rfl | later
    · exact absurd isInit notInit
    · rw [lineage] at later
      cases later
  · rcases inTree with rfl | later
    · exact bornOf
    · exact sound.closed process member holder isHolder bornOf later

/-- A process that was read was in a table of the kernel, and whoever was
observed under its pid before is gone. -/
structure Reading.Sound (machine : Machine) (reading : Reading) : Prop where
  kernel : ∃ kernel : Kernel, kernel.Sound ∧ kernel.processes = reading.table
  member : reading.process ∈ reading.table
  born : Kernel.Born reading.process.identity
    (· = reading.process.lineage) machine.kernel
  replaced : ∀ identity ∈ machine.observed,
    identity.pid = reading.process.pid → identity ≠ reading.process.identity →
      Kernel.Gone identity machine.kernel

theorem Reading.Sound.positive {reading : Reading}
    (sound : reading.Sound machine) : reading.process.pid ≠ 0 := by
  obtain ⟨kernel, isKernel, table⟩ := sound.kernel
  exact isKernel.positive _ (table ▸ sound.member)

/-- What a scan has read: one process for each pid. -/
structure SoundReadings (machine : Machine) (readings : List Reading) :
    Prop where
  nodup : ((readings.map Reading.process).map Process.pid).Nodup
  each : ∀ reading ∈ readings, reading.Sound machine

theorem soundReadings_nil : SoundReadings machine [] :=
  ⟨List.nodup_nil, by simp⟩

theorem SoundReadings.afterTurn {readings : List Reading}
    (sound : machine.Sound child) (areSound : SoundReadings machine readings)
    (turn : Turn) (rest : List Turn) :
    SoundReadings (machine.afterTurn turn rest) readings := by
  refine ⟨areSound.nodup, fun reading member => ?_⟩
  obtain ⟨kernel, inTable, born, replaced⟩ := areSound.each reading member
  refine ⟨kernel, inTable, ?_, fun identity observed same differs => ?_⟩
  · exact (Kernel.stable_born _ _).events sound.kernel born _ _
  · exact (Kernel.stable_gone identity).events sound.kernel
      (replaced identity observed same differs) _ _

/-- One more file is read. -/
theorem SoundReadings.readStat {readings : List Reading}
    (sound : machine.Sound child) (areSound : SoundReadings machine readings)
    (pid : Pid) :
    SoundReadings machine
      (readStat machine.kernel.processes pid readings) := by
  unfold ChildProcess.readStat
  split
  · exact areSound
  next process found =>
    split
    · have nodup := sound.kernel.nodup
      have member := List.mem_of_find?_eq_some found
      have others : ∀ reading ∈ readings.filter (fun other =>
          other.process.pid ≠ process.pid), reading.Sound machine :=
        fun reading isReading =>
          areSound.each reading (List.mem_of_mem_filter isReading)
      have isSound : Reading.Sound machine
          ⟨machine.kernel.processes, process⟩ := by
        refine ⟨⟨machine.kernel, sound.kernel, rfl⟩, member,
          ⟨sound.kernel.used process member, ?_⟩, ?_⟩
        · intro other isOther same
          rw [pid_unique nodup isOther member (congrArg Identity.pid same)]
        · intro identity observed samePid differs
          refine ⟨(sound.observed identity observed).1, ?_⟩
          rintro other isOther rfl
          exact differs (congrArg Process.identity
            (pid_unique nodup isOther member samePid))
      refine ⟨?_, List.forall_mem_cons.mpr ⟨isSound, others⟩⟩
      rw [insertReading, List.map_cons, List.map_cons, List.nodup_cons]
      constructor
      · simp only [List.mem_map, List.mem_filter, decide_eq_true_eq]
        rintro ⟨_, ⟨reading, ⟨_, differs⟩, rfl⟩, same⟩
        exact differs same
      · exact areSound.nodup.sublist
          ((List.filter_sublist.map _).map _)
    · exact areSound

/-- A scan in the tree accepts only descendants. -/
theorem accepts_descendants {readings : List Reading} {parents : List Pid}
    (notInit : child.pid ≠ 1) (sound : SoundReadings machine readings)
    (positive : 0 ∉ parents)
    (inTree : (Sight.scan readings parents).IsInTree child) :
    Accepts child.pid (child ∈ ·.lineage) (readings.map Reading.process)
      parents := by
  intro process member _ _ isParent
  obtain ⟨reading, isReading, rfl⟩ := List.mem_map.mp member
  have known := sound.each reading isReading
  obtain ⟨kernel, isKernel, table⟩ := known.kernel
  have inKernel : reading.process ∈ kernel.processes := table ▸ known.member
  have reached : reading.process.parent ∈ parents ∨ ∃ other ∈ readings,
      other.process.pid = reading.process.parent ∧
        child ∈ other.process.lineage := by
    refine isParent.imp_right ?_
    rintro ⟨other, isOther, same, descends⟩
    obtain ⟨first, isFirst, rfl⟩ := List.mem_map.mp isOther
    exact ⟨first, isFirst, same, descends⟩
  rcases isKernel.parents _ inKernel with none | ⟨parent, isParent, same, _⟩
  · rcases reached with started | ⟨other, isOther, zero, _⟩
    · exact absurd (none ▸ started) positive
    · exact absurd (zero.trans none) (sound.each other isOther).positive
  · exact lineage_of_parent isKernel notInit inKernel isParent same
      (inTree reading isReading reached parent (table ▸ isParent) same)

/-- Events between two steps. -/
theorem Machine.Sound.evolve (sound : machine.Sound child) (kept : Identity)
    (events : List KernelEvent) (turns : List Turn) (status : Option Nat) :
    Machine.Sound child { machine with
      turns := turns
      status := status
      kernel := events.foldl (Kernel.advance kept) machine.kernel } where
  isChild := sound.isChild
  kernel := sound.kernel.events _ _
  used := (Kernel.stable_used child).events sound.kernel sound.used _ _
  pid := sound.pid
  observed identity member :=
    ⟨(Kernel.stable_used identity).events sound.kernel
      (sound.observed identity member).1 _ _, (sound.observed identity member).2⟩
  found identity member := (sound.found identity member).imp_right fun gone =>
    (Kernel.stable_gone identity).events sound.kernel gone _ _
  descends inTree := (sound.descends inTree).imp_left fun observed identity member =>
    (Kernel.stable_born identity (child ∈ ·)).events sound.kernel
      (observed identity member) _ _

theorem Machine.Sound.startParents_positive (sound : machine.Sound child) :
    0 ∉ startParents machine.child.pid machine.observed := by
  rw [startParents, List.mem_cons, not_or, sound.isChild, List.mem_map]
  refine ⟨sound.pid.1.symm, ?_⟩
  rintro ⟨identity, member, zero⟩
  exact (sound.observed identity member).2 zero

theorem Machine.Sound.observe (sound : machine.Sound child)
    {readings : List Reading} (areSound : SoundReadings machine readings) :
    (machine.observe readings).Sound child := by
  have nodup := areSound.nodup
  have valid := @valid_scan (readings.map Reading.process) machine.observed
    machine.child.pid (fun _ => True) nodup fun _ _ _ _ _ => trivial
  constructor
  case isChild => exact sound.isChild
  case kernel => exact sound.kernel
  case used => exact sound.used
  case pid => exact sound.pid
  case observed =>
    intro identity member
    rcases valid.observed identity member with before |
      ⟨process, isProcess, rfl, _⟩
    · exact sound.observed identity before
    · obtain ⟨reading, isReading, rfl⟩ := List.mem_map.mp isProcess
      have known := areSound.each reading isReading
      exact ⟨known.born.used, known.positive⟩
  case found =>
    intro identity member
    rcases List.mem_append.mp member with before | now
    · rcases sound.found identity before with observed | gone
      · rcases valid.kept identity observed with still | ⟨other, isOther,
          samePid, differs⟩
        · exact .inl still
        · obtain ⟨reading, isReading, rfl⟩ := List.mem_map.mp isOther
          exact .inr ((areSound.each reading isReading).replaced identity
            observed samePid.symm (Ne.symm differs))
      · exact .inr gone
    · exact .inl (valid.found identity now).1
  case descends =>
    intro inTree
    have earlier : ∀ sight ∈ machine.seen, sight.IsInTree child :=
      fun sight member => inTree sight (List.mem_append_left _ member)
    have accepts := accepts_descendants sound.pid.2 areSound
      sound.startParents_positive (inTree _ (List.mem_append_right _ (.head _)))
    rw [← sound.isChild] at accepts
    obtain ⟨observed, signalled⟩ := sound.descends earlier
    refine ⟨fun identity member => ?_, signalled⟩
    rcases (valid_scan nodup accepts).observed identity member with before |
      ⟨process, isProcess, rfl, descends⟩
    · exact observed identity before
    · obtain ⟨reading, isReading, rfl⟩ := List.mem_map.mp isProcess
      have known := (areSound.each reading isReading).born
      refine ⟨known.used, fun other isOther same => ?_⟩
      rw [known.lineage other isOther same, ← sound.isChild]
      exact descends

theorem Machine.Sound.see (sound : machine.Sound child) (sight : Sight) :
    (machine.see sight).Sound child :=
  { sound with
    descends := fun inTree => sound.descends fun sight member =>
      inTree sight (List.mem_append_left _ member) }

theorem Machine.Sound.signal (sound : machine.Sound child) {process : Identity}
    (member : process ∈ machine.observed) :
    (machine.signal process).Sound child := by
  refine { sound with descends := fun inTree => ?_ }
  obtain ⟨observed, signalled⟩ := sound.descends fun sight isSight =>
    inTree sight (List.mem_append_left _ isSight)
  refine ⟨observed, fun other isOther => ?_⟩
  rcases List.mem_append.mp isOther with before | now
  · exact signalled other before
  · obtain ⟨holds, samePid⟩ := Kernel.mem_of_holder (Option.mem_toList.mp now)
    have still := inTree _ (List.mem_append_right _ (.head _)) other holds samePid
    exact (observed process member).lineage other holds still

/-- The zombie of the run child goes like any other. -/
theorem reaped_eq_advance {kernel : Kernel} (sound : kernel.Sound)
    {process : Process} (member : process ∈ kernel.processes)
    (zombie : process.isAlive = false) :
    ({ kernel with processes :=
      kernel.processes.filter (·.pid ≠ process.pid) } : Kernel) =
      kernel.advance ⟨process.pid, process.identity.startTime + 1⟩
        (.reap process.pid) := by
  have holds : kernel.holder process.pid = some process :=
    find_pid sound.nodup member
  have other : process.identity ≠
      ⟨process.pid, process.identity.startTime + 1⟩ := by
    intro same
    have startTime : process.identity.startTime =
        process.identity.startTime + 1 := congrArg Identity.startTime same
    have next := congrArg UInt64.toBitVec startTime
    simp at next
  unfold Kernel.advance Kernel.apply
  simp [holds, zombie, other]

theorem Machine.Sound.reapChild (sound : machine.Sound child) :
    machine.reapChild.Sound child := by
  unfold Machine.reapChild
  split
  · exact sound
  next process found =>
    split
    · exact sound
    next status exited =>
      have member := List.mem_of_find?_eq_some found
      have isChild : process.identity = machine.child := by
        simpa using List.find?_some found
      have zombie : process.isAlive = false := by
        unfold Process.isAlive
        rw [exited]
        rfl
      have reaped := reaped_eq_advance sound.kernel member zombie
      rw [show machine.child.pid = process.pid from
        congrArg Identity.pid isChild.symm, reaped]
      exact sound.evolve _ [.reap process.pid] machine.turns (some status)

theorem Machine.Sound.afterTurn (sound : machine.Sound child) (turn : Turn)
    (rest : List Turn) : (machine.afterTurn turn rest).Sound child :=
  sound.evolve _ _ _ machine.status

open FallibleCall

theorem keeps_nextTurn {property : Machine → Prop}
    (holds : ∀ machine turn rest, property machine →
      property (machine.afterTurn turn rest)) :
    Keeps property nextTurn := by
  intro machine start
  cases machine with
  | mk kernel turns child observed status found signalled seen =>
      cases turns with
      | nil => exact ⟨fun _ returns => (nomatch returns), fun _ _ => start⟩
      | cons turn rest =>
          exact ⟨fun _ _ => holds _ turn rest start,
            fun _ fails => nomatch fails⟩

theorem keeps_sound_nextTurn : Keeps (Machine.Sound child) nextTurn :=
  keeps_nextTurn fun _ turn rest sound => sound.afterTurn turn rest

theorem keeps_isExpired : Keeps (Machine.Sound child) isExpired :=
  keeps_bind keeps_sound_nextTurn fun _ => keeps_pure _

theorem ensures_readProcesses (entries : List Pid) (readings : List Reading) :
    Ensures (fun machine => machine.Sound child ∧ SoundReadings machine readings)
      (readProcesses entries readings)
      (fun all machine => machine.Sound child ∧ SoundReadings machine all)
      (Machine.Sound child) := by
  induction entries generalizing readings with
  | nil => exact ensures_pure _ fun _ start => start
  | cons pid rest ih =>
      have turn : Keeps (fun machine => machine.Sound child ∧
          SoundReadings machine readings) nextTurn :=
        keeps_nextTurn fun machine turn later start =>
          ⟨start.1.afterTurn turn later, start.2.afterTurn start.1 turn later⟩
      refine ensures_bind (turn.weaken (fun _ start => start)
        (fun _ _ reached => reached) fun _ reached => reached.1) fun _ => ?_
      refine ensures_ite (fun _ => ensures_throw _ fun _ start => start.1)
        fun _ => ?_
      apply ensures_bind_get
      rintro machine start
      refine (ih (readStat machine.kernel.processes pid readings)).weaken ?_
        (fun _ _ reached => reached) fun _ reached => reached
      rintro _ rfl
      exact ⟨start.1, start.2.readStat start.1 pid⟩

theorem keeps_observeDescendants :
    Keeps (Machine.Sound child) observeDescendants := by
  refine ensures_bind keeps_sound_nextTurn fun turn =>
    ensures_ite (fun _ => keeps_throw _) fun _ => ?_
  refine ensures_bind ((ensures_readProcesses turn.entries []).weaken
    (fun _ sound => ⟨sound, soundReadings_nil⟩) (fun _ _ reached => reached)
    fun _ reached => reached) fun readings => ?_
  exact ensures_modify fun _ start => start.1.observe start.2

/-- A checked process is an observed one. -/
theorem ensures_signalOne (signal : Signal) {process : Identity}
    {processes : List Identity} (member : process ∈ processes) :
    Ensures (fun machine => machine.Sound child ∧ processes ⊆ machine.observed)
      (signalOne signal process)
      (fun _ machine => machine.Sound child ∧ processes ⊆ machine.observed)
      (Machine.Sound child) := by
  have turn : Ensures (fun machine => machine.Sound child ∧
      processes ⊆ machine.observed) nextTurn (fun _ machine =>
        machine.Sound child ∧ processes ⊆ machine.observed)
      (Machine.Sound child) :=
    Ensures.weaken (keeps_nextTurn fun machine turn later start =>
      ⟨start.1.afterTurn turn later, start.2⟩) (fun _ start => start)
      (fun _ _ reached => reached) fun _ reached => reached.1
  refine ensures_bind turn fun _ => ?_
  apply ensures_bind_get
  intro machine start
  refine ensures_ite (fun _ => ?_) fun _ => ensures_pure _ ?_
  · refine Ensures.start (ensures_bind turn fun _ => ensures_modify ?_) start
    exact fun _ now => ⟨now.1.signal (now.2 member), now.2⟩
  · rintro _ rfl
    exact start

/-- The signalled processes are observed ones. -/
theorem ensures_signalEach (signal : Signal) (processes : List Identity) :
    Ensures (fun machine => machine.Sound child ∧ processes ⊆ machine.observed)
      (signalEach signal processes) (fun _ => Machine.Sound child)
      (Machine.Sound child) := by
  induction processes with
  | nil => exact ensures_pure _ fun _ start => start.1
  | cons process rest ih =>
      refine ensures_bind (ensures_signalOne signal (.head rest)) fun _ => ?_
      exact ih.weaken (fun _ start =>
        ⟨start.1, (List.cons_subset.mp start.2).2⟩) (fun _ _ reached => reached)
        fun _ reached => reached

theorem keeps_signalObserved (signal : Signal) :
    Keeps (Machine.Sound child) (signalObserved signal) := by
  intro machine sound
  exact ensures_signalEach signal machine.observed machine
    ⟨sound, List.Subset.refl _⟩

theorem keeps_killProcessGroup (signal : Signal) :
    Keeps (Machine.Sound child) (killProcessGroup signal) :=
  keeps_bind keeps_sound_nextTurn fun _ => keeps_pure _

theorem keeps_tryWait : Keeps (Machine.Sound child) tryWait :=
  keeps_bind keeps_get fun _ => keeps_ite (keeps_pure _) <|
    keeps_bind keeps_sound_nextTurn fun _ => keeps_ite (keeps_throw _) <|
      keeps_bind (keeps_modify fun _ sound => sound.reapChild) fun _ =>
        keeps_bind keeps_get fun _ => keeps_pure _

theorem keeps_checkAlive (process : Identity) :
    Keeps (Machine.Sound child) (checkAlive process) :=
  keeps_bind keeps_sound_nextTurn fun _ => keeps_bind keeps_get fun _ =>
    keeps_bind (keeps_modify fun _ sound => sound.see _) fun _ => keeps_pure _

theorem keeps_anyAlive (processes : List Identity) :
    Keeps (Machine.Sound child) (anyAlive processes) := by
  induction processes with
  | nil => exact keeps_pure _
  | cons process rest ih =>
      exact keeps_bind (keeps_checkAlive process) fun _ =>
        keeps_ite (keeps_pure _) ih

theorem keeps_anyObservedAlive :
    Keeps (Machine.Sound child) anyObservedAlive :=
  keeps_bind keeps_get fun _ => keeps_anyAlive _

theorem keeps_groupAlive : Keeps (Machine.Sound child) groupAlive :=
  keeps_bind keeps_sound_nextTurn fun _ => keeps_bind keeps_get fun _ =>
    keeps_bind (keeps_modify fun _ sound => sound.see _) fun _ =>
      keeps_ite (keeps_ite (keeps_throw _) (keeps_pure _)) (keeps_pure _)

theorem keeps_withTurns {Result : Type} {loop : Nat → Call Result}
    (rounds : ∀ count, Keeps (Machine.Sound child) (loop count)) :
    Keeps (Machine.Sound child) (withTurns loop) :=
  keeps_bind keeps_get fun _ => rounds _

theorem keeps_waitForExit : Keeps (Machine.Sound child) waitForExit := by
  apply keeps_withTurns
  intro rounds
  induction rounds with
  | zero => exact keeps_throw _
  | succ rounds ih =>
      exact keeps_bind keeps_observeDescendants fun _ =>
        keeps_bind keeps_tryWait fun _ => keeps_ite (keeps_pure _) <|
          keeps_bind keeps_isExpired fun _ => keeps_ite (keeps_pure _) ih

theorem keeps_residualPids (processes : List Identity) :
    Keeps (Machine.Sound child) (residualPids processes) := by
  induction processes with
  | nil => exact keeps_pure _
  | cons process rest ih =>
      exact keeps_bind (keeps_checkAlive process) fun _ =>
        keeps_bind ih fun _ => keeps_pure _

theorem keeps_residualError : Keeps (Machine.Sound child) residualError :=
  keeps_bind keeps_get fun _ => keeps_bind (keeps_residualPids _) fun _ =>
    keeps_throw _

theorem keeps_assertZeroResidualLoop (rounds : Nat) :
    Keeps (Machine.Sound child) (assertZeroResidualLoop rounds) := by
  induction rounds with
  | zero => exact keeps_throw _
  | succ rounds ih =>
      exact keeps_bind keeps_observeDescendants fun _ =>
        keeps_bind keeps_groupAlive fun _ =>
          keeps_bind keeps_anyObservedAlive fun _ => keeps_ite (keeps_pure _) <|
            keeps_bind keeps_isExpired fun _ => keeps_ite keeps_residualError ih

theorem keeps_assertZeroResidual :
    Keeps (Machine.Sound child) assertZeroResidual :=
  keeps_withTurns keeps_assertZeroResidualLoop

theorem keeps_freezeDescendantTree :
    Keeps (Machine.Sound child) freezeDescendantTree := by
  apply keeps_withTurns
  intro rounds
  induction rounds with
  | zero => exact keeps_throw _
  | succ rounds ih =>
      exact keeps_bind keeps_get fun _ =>
        keeps_bind keeps_observeDescendants fun _ =>
          keeps_bind (keeps_signalObserved _) fun _ =>
            keeps_bind (keeps_killProcessGroup _) fun _ =>
              keeps_bind keeps_observeDescendants fun _ =>
                keeps_bind keeps_get fun _ => keeps_ite (keeps_pure _) ih

theorem keeps_hasEnded : Keeps (Machine.Sound child) hasEnded :=
  keeps_bind keeps_tryWait fun _ =>
    keeps_ite (keeps_bind keeps_anyObservedAlive fun _ => keeps_pure _)
      (keeps_pure _)

theorem keeps_graceLoop (rounds : Nat) :
    Keeps (Machine.Sound child) (graceLoop rounds) := by
  induction rounds with
  | zero => exact keeps_throw _
  | succ rounds ih =>
      exact keeps_bind keeps_observeDescendants fun _ =>
        keeps_bind (keeps_signalObserved _) fun _ =>
          keeps_bind keeps_hasEnded fun _ => keeps_ite (keeps_pure _) <|
            keeps_bind keeps_isExpired fun _ => keeps_ite (keeps_pure _) ih

theorem keeps_isLeft : Keeps (Machine.Sound child) isLeft :=
  keeps_bind keeps_tryWait fun _ => keeps_ite (keeps_pure _) <|
    keeps_bind keeps_anyObservedAlive fun _ =>
      keeps_ite (keeps_pure _) keeps_groupAlive

theorem keeps_killTree : Keeps (Machine.Sound child) killTree :=
  keeps_bind keeps_freezeDescendantTree fun _ =>
    keeps_bind (keeps_signalObserved _) fun _ =>
      keeps_bind (keeps_killProcessGroup _) fun _ => keeps_killProcessGroup _

theorem keeps_killIfLeft : Keeps (Machine.Sound child) killIfLeft :=
  keeps_bind keeps_isLeft fun _ => keeps_ite keeps_killTree (keeps_pure _)

theorem keeps_killLoop (rounds : Nat) :
    Keeps (Machine.Sound child) (killLoop rounds) := by
  induction rounds with
  | zero => exact keeps_throw _
  | succ rounds ih =>
      exact keeps_bind keeps_tryWait fun _ => keeps_ite (keeps_pure _) <|
        keeps_bind keeps_isExpired fun _ =>
          keeps_ite (keeps_bind keeps_get fun _ => keeps_throw _) ih

/-- Everything that was seen is plain. -/
def Machine.IsPlain (child : Identity) (machine : Machine) : Prop :=
  ∀ sight ∈ machine.seen, sight.IsPlain child

/-- A property that neither the surroundings nor a check of the table ends. -/
structure Steady (child : Identity) (property : Machine → Prop) : Prop where
  turn : ∀ machine turn rest, machine.Sound child → property machine →
    property (machine.afterTurn turn rest)
  see : ∀ machine sight, property machine → property (machine.see sight)

theorem Machine.IsPlain.of_see {sight : Sight}
    (plain : (machine.see sight).IsPlain child) :
    machine.IsPlain child ∧ sight.IsPlain child :=
  ⟨fun earlier member => plain earlier (List.mem_append_left _ member),
    plain sight (List.mem_append_right _ (.head _))⟩

theorem Steady.and {first second : Machine → Prop} (isFirst : Steady child first)
    (isSecond : Steady child second) :
    Steady child fun machine => first machine ∧ second machine where
  turn machine turn rest sound holds :=
    ⟨isFirst.turn machine turn rest sound holds.1,
      isSecond.turn machine turn rest sound holds.2⟩
  see machine sight holds :=
    ⟨isFirst.see machine sight holds.1, isSecond.see machine sight holds.2⟩

theorem steady_observed (known : List Identity) :
    Steady child fun machine => machine.observed = known where
  turn _ _ _ _ holds := holds
  see _ _ holds := holds

/-- What no event ends, once it has been seen. -/
theorem steady_stable {property : Kernel → Prop}
    (stable : Kernel.Stable property) :
    Steady child fun machine => machine.IsPlain child → property machine.kernel where
  turn _ _ _ sound holds plain :=
    stable.events sound.kernel (holds plain) _ _
  see _ _ holds plain := holds plain.of_see.1

variable {property : Machine → Prop}

theorem ensures_steady_nextTurn (steady : Steady child property) :
    Ensures (fun machine => machine.Sound child ∧ property machine) nextTurn
      (fun _ machine => machine.Sound child ∧ property machine)
      (Machine.Sound child) := by
  refine Ensures.weaken (keeps_nextTurn ?_) (fun _ start => start)
    (fun _ _ reached => reached) fun _ reached => reached.1
  exact fun machine turn rest start =>
    ⟨start.1.afterTurn turn rest, steady.turn machine turn rest start.1 start.2⟩

theorem ensures_checkAlive (steady : Steady child property) {process : Identity}
    (observed : ∀ machine, property machine → process ∈ machine.observed) :
    Ensures (fun machine => machine.Sound child ∧ property machine)
      (checkAlive process)
      (fun alive machine => machine.Sound child ∧ property machine ∧
        (alive = false → machine.IsPlain child →
          Kernel.Gone process machine.kernel))
      (Machine.Sound child) := by
  refine ensures_bind (ensures_steady_nextTurn steady) fun _ => ?_
  intro machine start
  obtain ⟨sound, holds⟩ := start
  refine ⟨?_, fun _ fails => nomatch fails⟩
  rintro _ ⟨⟩
  refine ⟨sound.see _, steady.see machine _ holds, ?_⟩
  intro dead plain
  refine ⟨(sound.observed process (observed machine holds)).1, ?_⟩
  intro other member same
  have named := plain.of_see.2 other member same
  have alive := (processAlive_iff sound.kernel.nodup).mpr
    ⟨other, member, same, named⟩
  rw [dead] at alive
  cases alive

/-- If nothing is found alive, everything that was checked is gone. -/
theorem ensures_anyAlive (steady : Steady child property)
    {processes : List Identity}
    (observed : ∀ machine, property machine → processes ⊆ machine.observed) :
    Ensures (fun machine => machine.Sound child ∧ property machine)
      (anyAlive processes)
      (fun alive machine => machine.Sound child ∧ property machine ∧
        (alive = false → machine.IsPlain child → ∀ process ∈ processes,
          Kernel.Gone process machine.kernel))
      (Machine.Sound child) := by
  induction processes generalizing property with
  | nil =>
      exact ensures_pure _ fun _ start =>
        ⟨start.1, start.2, fun _ _ _ member => nomatch member⟩
  | cons process rest ih =>
      refine ensures_bind (ensures_checkAlive steady fun machine holds =>
        observed machine holds (.head _)) fun alive => ?_
      cases alive with
      | true =>
          exact ensures_pure _ fun machine start =>
            ⟨start.1, start.2.1, fun alive => nomatch alive⟩
      | false =>
          have next := ih (steady.and (steady_stable
            (Kernel.stable_gone process))) fun machine holds =>
              (List.cons_subset.mp (observed machine holds.1)).2
          refine next.weaken (fun machine start =>
            ⟨start.1, start.2.1, start.2.2 rfl⟩) ?_ fun _ reached => reached
          intro alive machine reached
          refine ⟨reached.1, reached.2.1.1, fun dead plain => ?_⟩
          exact List.forall_mem_cons.mpr ⟨reached.2.1.2 plain,
            reached.2.2 dead plain⟩

theorem ensures_groupAlive :
    Ensures (Machine.Sound child) groupAlive
      (fun alive machine => machine.Sound child ∧ (alive = false →
        machine.IsPlain child → Kernel.GroupGone child machine.kernel))
      (Machine.Sound child) := by
  have read : Ensures (Machine.Sound child) (get : Call Machine)
      (fun found machine => machine.Sound child ∧ found = machine)
      (Machine.Sound child) :=
    ensures_get fun machine sound => ⟨sound, rfl⟩
  refine ensures_bind keeps_sound_nextTurn fun turn =>
    ensures_bind read fun found => ?_
  have saw : Ensures (fun machine => machine.Sound child ∧ found = machine)
      (modify (·.see (.group found.kernel.processes)) : Call Unit)
      (fun _ machine => machine.Sound child ∧
        found.Sound child ∧ machine = found.see (.group found.kernel.processes))
      (Machine.Sound child) := by
    refine ensures_modify ?_
    rintro machine ⟨sound, rfl⟩
    exact ⟨sound.see _, sound, rfl⟩
  refine ensures_bind saw fun _ => ?_
  refine ensures_ite (fun _ => ?_) fun nobody => ?_
  · exact ensures_ite
      (fun _ => ensures_throw _ fun _ start => start.1)
      fun _ => ensures_pure _ fun _ start => ⟨start.1, fun alive => nomatch alive⟩
  · refine ensures_pure _ ?_
    rintro _ ⟨after, sound, rfl⟩
    refine ⟨after, fun _ plain => ?_⟩
    have outside : ∀ process ∈ found.kernel.processes,
        process.group.pid ≠ child.pid := by
      intro process member same
      exact nobody (List.any_eq_true.mpr ⟨process, member,
        decide_eq_true (same.trans (congrArg Identity.pid sound.isChild.symm))⟩)
    refine ⟨⟨sound.used, fun process member same => ?_⟩, fun process member same =>
      outside process member (congrArg Identity.pid same)⟩
    exact outside process member
      (congrArg Identity.pid (plain.of_see.2 process member same))

/-- The group of the run child is empty, and nothing that was ever found is
left. -/
def Machine.IsEmpty (child : Identity) (machine : Machine) : Prop :=
  Kernel.GroupGone child machine.kernel ∧
    ∀ identity ∈ machine.found, Kernel.Gone identity machine.kernel

theorem ensures_anyObservedAlive (steady : Steady child property) :
    Ensures (fun machine => machine.Sound child ∧ property machine)
      anyObservedAlive
      (fun alive machine => machine.Sound child ∧ property machine ∧
        (alive = false → machine.IsPlain child → ∀ process ∈ machine.observed,
          Kernel.Gone process machine.kernel))
      (Machine.Sound child) := by
  intro machine start
  have checks := @ensures_anyAlive child _
    (steady.and (steady_observed machine.observed)) machine.observed
    (fun _ holds => holds.2 ▸ List.Subset.refl _) machine
    ⟨start.1, start.2, rfl⟩
  refine ⟨fun alive returns => ?_, checks.2⟩
  obtain ⟨sound, ⟨holds, observed⟩, gone⟩ := checks.1 alive returns
  exact ⟨sound, holds, observed ▸ gone⟩

/-- A round that does not end the loop. -/
theorem ensures_nextRound {Result : Type} {next : Call Result}
    {failing : Call Result} {after : Result → Machine → Prop}
    (isNext : Ensures (Machine.Sound child) next after (Machine.Sound child))
    (fails : Ensures (Machine.Sound child) failing after (Machine.Sound child)) :
    Ensures (Machine.Sound child)
      (do if ← isExpired then failing else next) after (Machine.Sound child) :=
  ensures_bind keeps_isExpired fun _ => ensures_ite (fun _ => fails)
    fun _ => isNext

theorem ensures_residualError {after : Unit → Machine → Prop} :
    Ensures (Machine.Sound child) residualError after (Machine.Sound child) :=
  ensures_bind keeps_get fun _ => ensures_bind (keeps_residualPids _) fun _ =>
    ensures_throw _ fun _ sound => sound

theorem ensures_assertZeroResidualLoop (rounds : Nat) :
    Ensures (Machine.Sound child) (assertZeroResidualLoop rounds)
      (fun _ machine => machine.Sound child ∧
        (machine.IsPlain child → machine.IsEmpty child))
      (Machine.Sound child) := by
  induction rounds with
  | zero => exact ensures_throw _ fun _ sound => sound
  | succ rounds ih =>
      have next := ensures_nextRound ih ensures_residualError
      refine ensures_bind keeps_observeDescendants fun _ =>
        ensures_bind ensures_groupAlive fun groupAlive => ?_
      cases groupAlive with
      | true =>
          refine (ensures_bind keeps_anyObservedAlive fun _ => ?_).weaken
            (fun _ start => start.1) (fun _ _ reached => reached)
            fun _ reached => reached
          exact next
      | false =>
          refine (ensures_bind (ensures_anyObservedAlive (steady_stable
            (Kernel.stable_groupGone child))) fun alive => ?_).weaken
              (fun _ start => ⟨start.1, start.2 rfl⟩)
              (fun _ _ reached => reached) fun _ reached => reached
          cases alive with
          | true =>
              exact next.weaken (fun _ start => start.1)
                (fun _ _ reached => reached) fun _ reached => reached
          | false =>
              refine ensures_pure _ fun machine start => ⟨start.1, ?_⟩
              obtain ⟨sound, group, gone⟩ := start
              refine fun plain => ⟨group plain, fun identity member => ?_⟩
              exact (sound.found identity member).elim
                (gone rfl plain identity) id

theorem ensures_assertZeroResidual :
    Ensures (Machine.Sound child) assertZeroResidual
      (fun _ machine => machine.Sound child ∧
        (machine.IsPlain child → machine.IsEmpty child))
      (Machine.Sound child) :=
  ensures_bind keeps_get fun _ => ensures_assertZeroResidualLoop _

theorem ensures_terminateTree :
    Ensures (Machine.Sound child) terminateTree
      (fun _ machine => machine.Sound child ∧
        (machine.IsPlain child → machine.IsEmpty child))
      (Machine.Sound child) :=
  ensures_bind keeps_observeDescendants fun _ =>
    ensures_bind (keeps_signalObserved _) fun _ =>
      ensures_bind (keeps_killProcessGroup _) fun _ =>
        ensures_bind (keeps_withTurns keeps_graceLoop) fun _ =>
          ensures_bind keeps_killIfLeft fun _ =>
            ensures_bind (keeps_withTurns keeps_killLoop) fun _ =>
              ensures_bind ensures_assertZeroResidual fun _ =>
                ensures_bind (ensures_get fun _ holds => holds) fun _ =>
                  ensures_pure _ fun _ holds => holds

theorem keeps_terminateTree : Keeps (Machine.Sound child) terminateTree :=
  ensures_terminateTree.weaken (fun _ sound => sound)
    (fun _ _ reached => reached.1) fun _ sound => sound

theorem keeps_attempt {Result : Type} {call : Call Result}
    (isCall : Keeps (Machine.Sound child) call) :
    Keeps (Machine.Sound child) (attempt call) := by
  refine keeps_bind (FallibleCall.keeps_attempt isCall) fun settled => ?_
  unfold settle
  split
  · exact keeps_pure _
  · exact keeps_throw _
  · exact keeps_pure _

theorem keeps_killOnDrop : Keeps (Machine.Sound child) killOnDrop :=
  keeps_bind (keeps_attempt keeps_tryWait) fun _ =>
    keeps_ite (keeps_map _ (keeps_attempt keeps_terminateTree)) <|
      keeps_bind keeps_anyObservedAlive fun _ =>
        keeps_ite (keeps_map _ (keeps_attempt keeps_terminateTree))
          (keeps_pure _)

theorem keeps_request (asked : Request) :
    Keeps (Machine.Sound child) (request asked) := by
  cases asked with
  | observe => exact keeps_observeDescendants
  | tryWait => exact keeps_map _ keeps_tryWait
  | waitForExit => exact keeps_map _ keeps_waitForExit
  | terminate => exact keeps_map _ keeps_terminateTree
  | assertZero => exact keeps_assertZeroResidual
  | drop => exact keeps_killOnDrop

theorem keeps_requests (asked : List Request) :
    Keeps (Machine.Sound child) (requests asked) := by
  induction asked with
  | nil => exact keeps_pure _
  | cons first rest ih =>
      exact keeps_bind (keeps_attempt (keeps_request first)) fun _ => ih

end Steps

open FallibleCall

/-- A platform child that was just spawned. -/
structure Machine.IsSpawned (machine : Machine) : Prop where
  kernel : machine.kernel.Sound
  used : machine.child ∈ machine.kernel.used
  pid : machine.child.pid ≠ 0 ∧ machine.child.pid ≠ 1
  unobserved : machine.observed = [] ∧ machine.found = [] ∧
    machine.signalled = []

theorem Machine.IsSpawned.sound {machine : Machine}
    (spawned : machine.IsSpawned) : machine.Sound machine.child where
  isChild := rfl
  kernel := spawned.kernel
  used := spawned.used
  pid := spawned.pid
  observed := by
    rw [spawned.unobserved.1]
    exact fun _ member => nomatch member
  found := by
    rw [spawned.unobserved.2.1]
    exact fun _ member => nomatch member
  descends _ := by
    rw [spawned.unobserved.1, spawned.unobserved.2.2]
    exact ⟨fun _ member => (nomatch member), fun _ member => nomatch member⟩

theorem sound_requests {start : Machine} (spawned : start.IsSpawned)
    (asked : List Request) :
    (outcome (requests asked) start).2.Sound start.child := by
  have keeps := keeps_requests asked start spawned.sound
  cases ran : (outcome (requests asked) start).1 with
  | ok result => exact keeps.1 result ran
  | error failure => exact keeps.2 failure ran

/-- In every run of a platform child, whatever the surroundings do: as long as
no scan reads a process with a stranger for its parent, and no checked pid passes
on before its signal, only processes born of the run child get a signal. -/
theorem signalled_descendants (start : Machine) (spawned : start.IsSpawned)
    (asked : List Request)
    (inTree : ∀ sight ∈ (outcome (requests asked) start).2.seen,
      sight.IsInTree start.child) :
    ∀ process ∈ (outcome (requests asked) start).2.signalled,
      start.child ∈ process.lineage :=
  ((sound_requests spawned asked).descends inTree).2

/-- Whenever `assert_zero_residual` or `terminate_tree` returns, after any calls
and whatever the surroundings do: if the checked processes could be read and the
run child had not left its group, the group is empty and every process that was
ever found is gone. -/
theorem nothing_left (start : Machine) (spawned : start.IsSpawned)
    (asked : List Request) :
    let machine := (outcome (requests asked) start).2
    (∀ after, outcome assertZeroResidual machine = (.ok (), after) →
      after.IsPlain start.child → after.IsEmpty start.child) ∧
    ∀ status after, outcome terminateTree machine = (.ok status, after) →
      after.IsPlain start.child → after.IsEmpty start.child := by
  intro machine
  have sound : machine.Sound start.child := sound_requests spawned asked
  constructor
  · intro after returns
    have ends := (ensures_assertZeroResidual machine sound).1 ()
    rw [returns] at ends
    exact (ends rfl).2
  · intro status after returns
    have ends := (ensures_terminateTree machine sound).1 status
    rw [returns] at ends
    exact (ends rfl).2

def sampleFields : StatFields where
  state := ['S']
  middle := List.replicate 17 ['0']
  last := []
  length_middle := rfl
  areFields := by decide

def sampleProcess (identity : Identity) (parent : Pid)
    (lineage : List Identity) : Process :=
  ⟨identity, parent, identity, lineage, some ['s', 'h'], sampleFields, none⟩

/-- The process 1, the daemon and its run child. -/
def sampleKernel : Kernel where
  processes := [sampleProcess ⟨1, 1⟩ 0 [],
    sampleProcess ⟨2, 2⟩ 1 [⟨1, 1⟩],
    sampleProcess ⟨10, 10⟩ 2 [⟨2, 2⟩, ⟨1, 1⟩]]
  used := [⟨1, 1⟩, ⟨2, 2⟩, ⟨10, 10⟩]

def sampleMachine (turns : List Turn) : Machine where
  kernel := sampleKernel
  turns := turns
  child := ⟨10, 10⟩
  observed := []
  status := none
  found := []
  signalled := []
  seen := []

theorem sampleKernel_sound : sampleKernel.Sound where
  nodup := by decide
  positive := by decide
  used := by decide
  born := by decide
  closed := by decide
  parents := by decide
  init := by decide

theorem sampleMachine_spawned (turns : List Turn) :
    (sampleMachine turns).IsSpawned where
  kernel := sampleKernel_sound
  used := .tail _ (.tail _ (.head _))
  pid := ⟨fun zero => (nomatch zero), fun one => nomatch one⟩
  unobserved := ⟨rfl, rfl, rfl⟩

instance decidableIsInTree (child : Identity) :
    (sight : Sight) → Decidable (sight.IsInTree child)
  | .scan readings parents => inferInstanceAs (Decidable (∀ reading ∈ readings,
      (reading.process.parent ∈ parents ∨ ∃ other ∈ readings,
        other.process.pid = reading.process.parent ∧
          child ∈ other.process.lineage) →
      ∀ parent ∈ reading.table, parent.pid = reading.process.parent →
        parent.identity = child ∨ child ∈ parent.lineage))
  | .check _ _ => .isTrue trivial
  | .group _ => .isTrue trivial
  | .signal table process => inferInstanceAs (Decidable (∀ holder ∈ table,
      holder.pid = process.pid → holder.identity = process))

instance decidableIsPlain (child : Identity) :
    (sight : Sight) → Decidable (sight.IsPlain child)
  | .scan _ _ => .isTrue trivial
  | .check table checked => inferInstanceAs (Decidable (∀ process ∈ table,
      process.identity = checked → process.name.isSome = true))
  | .group table => inferInstanceAs (Decidable (∀ process ∈ table,
      process.identity = child → process.group = child))
  | .signal _ _ => .isTrue trivial

def eventsTurn (events : List KernelEvent) : Turn :=
  ⟨events, false, false, []⟩

/-- The turns of a scan that lists these pids. -/
def scanTurns (events : List KernelEvent) (entries : List Pid) : List Turn :=
  ⟨events, false, false, entries⟩ ::
    List.replicate entries.length (eventsTurn [])

/-- The run child forks a process, which gets the signals. -/
def forkingTurns : List Turn :=
  scanTurns [.fork 10 ⟨11, 11⟩] [1, 2, 10, 11] ++ scanTurns [] [10, 11] ++
    [eventsTurn [], eventsTurn []]

/-- The run child's process exits, and a stranger with a child of its own gets
its pid before the second scan. -/
def reusingTurns : List Turn :=
  scanTurns [.fork 10 ⟨11, 11⟩] [1, 2, 10, 11] ++
    scanTurns [.exit 11 1 0, .reap 11, .fork 1 ⟨11, 12⟩, .fork 11 ⟨12, 13⟩]
      [10, 11, 12] ++ [eventsTurn [], eventsTurn []]

/-- A stranger gets the pid between the check and the signal. -/
def racingTurns : List Turn :=
  scanTurns [.fork 10 ⟨11, 11⟩] [1, 2, 10, 11] ++ scanTurns [] [] ++
    [eventsTurn [], eventsTurn [.exit 11 1 0, .reap 11, .fork 1 ⟨11, 12⟩]]

theorem signalled_descendants_forked :
    (outcome (requests [.observe, .terminate])
      (sampleMachine forkingTurns)).2.signalled.map Process.identity =
        [⟨11, 11⟩] ∧
    ∀ process ∈ (outcome (requests [.observe, .terminate])
      (sampleMachine forkingTurns)).2.signalled,
      ⟨10, 10⟩ ∈ process.lineage :=
  ⟨by decide +kernel, signalled_descendants _ (sampleMachine_spawned _) _
    (by decide +kernel)⟩

/-- The condition on the scans is needed: the stranger's child gets a signal. -/
example : ⟨12, 13⟩ ∈ (outcome (requests [.observe, .terminate])
    (sampleMachine reusingTurns)).2.signalled.map Process.identity := by
  decide +kernel

/-- The condition on the checks is needed: the stranger gets the signal. -/
example : (outcome (requests [.observe, .terminate])
    (sampleMachine racingTurns)).2.signalled.map Process.identity =
      [⟨11, 12⟩] := by
  decide +kernel

/-- The run child forks a process that exits, and exits itself. -/
def exitingTurns : List Turn :=
  scanTurns [.fork 10 ⟨11, 11⟩] [1, 2, 10, 11] ++
    [eventsTurn [.exit 11 10 0, .reap 11, .exit 10 1 0]] ++
    scanTurns [] [1, 2] ++ [eventsTurn [], eventsTurn []]

theorem nothing_left_exited :
    ∃ after, outcome assertZeroResidual
      (outcome (requests [.observe, .tryWait]) (sampleMachine exitingTurns)).2 =
        (.ok (), after) ∧
      after.found = [⟨11, 11⟩] ∧ after.IsEmpty ⟨10, 10⟩ := by
  have returns : (outcome assertZeroResidual (outcome
      (requests [.observe, .tryWait]) (sampleMachine exitingTurns)).2).1.isOk =
        true := by
    decide +kernel
  have found : (outcome assertZeroResidual (outcome
      (requests [.observe, .tryWait]) (sampleMachine exitingTurns)).2).2.found =
        [⟨11, 11⟩] := by
    decide +kernel
  have plain : (outcome assertZeroResidual (outcome
      (requests [.observe, .tryWait]) (sampleMachine exitingTurns)).2).2.IsPlain
        ⟨10, 10⟩ := by
    unfold Machine.IsPlain
    decide +kernel
  have empty := (nothing_left _ (sampleMachine_spawned exitingTurns)
    [.observe, .tryWait]).1
  cases ran : outcome assertZeroResidual (outcome
      (requests [.observe, .tryWait]) (sampleMachine exitingTurns)).2 with
  | mk result after =>
      rw [ran] at returns found plain
      cases result with
      | error failure => cases returns
      | ok done => exact ⟨after, rfl, found, empty after ran plain⟩

/-- A process two links away from the process 1 is found. -/
theorem scan_finds_linked_sample :
    ⟨10, 10⟩ ∈ (scan 1 [] (linuxProcesses sampleKernel.processes)).found := by
  have finds := scan_finds_linked sampleKernel_sound.nodup 1 [] ⟨10, 10⟩
  refine finds.1.mpr ⟨sampleProcess ⟨10, 10⟩ 2 [⟨2, 2⟩, ⟨1, 1⟩], ?_, rfl⟩
  have daemon : Linked 1 sampleKernel.processes (startParents 1 [])
      (sampleProcess ⟨2, 2⟩ 1 [⟨1, 1⟩]) :=
    .start (.tail _ (.head _)) rfl (by decide) (by decide)
  exact .next daemon (.tail _ (.tail _ (.head _))) rfl (by decide) rfl

end ChildProcess

end PlatoAgent
