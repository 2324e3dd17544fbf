import Mathlib

/-!
# The process table of Linux

A process is known by its pid and its start time.  The table changes by the
events of the kernel: a fork, an exit that hands the children on, the reaping
of a zombie, a change of process group, a new name.  What a program reads of
the table is the text of the `stat` files under `/proc`.
-/

namespace PlatoAgent

namespace ProcessTable

/-- A process id; the range of an `i32` without its negative half. -/
abbrev Pid := Fin 2147483648

instance neZero_pids : NeZero 2147483648 :=
  ⟨by decide⟩

structure Identity where
  pid : Pid
  startTime : UInt64
  deriving DecidableEq, Repr

/-- `char::is_ascii_whitespace`. -/
def isAsciiWhitespace (character : Char) : Bool :=
  character = ' ' || character = '\t' || character = '\n' ||
    character = '\x0c' || character = '\r'

def isField (field : List Char) : Bool :=
  !field.isEmpty && field.all fun character =>
    !isAsciiWhitespace character && character != ')'

/-- The fields of a `stat` file that the program does not read: the state, the
fields between the parent and the start time, and those behind it. -/
structure StatFields where
  state : List Char
  middle : List (List Char)
  last : List (List Char)
  length_middle : middle.length = 17
  areFields : ∀ field ∈ state :: (middle ++ last), isField field = true

/-- A process.  Its lineage are the processes that it was born of, its group is
named by the process that made it.  A name is arbitrary bytes; it is missing
where they are not UTF-8. -/
structure Process where
  identity : Identity
  parent : Pid
  group : Identity
  lineage : List Identity
  name : Option (List Char)
  fields : StatFields
  exitStatus : Option Nat

namespace Process

def pid (process : Process) : Pid :=
  process.identity.pid

/-- Not a zombie. -/
def isAlive (process : Process) : Bool :=
  process.exitStatus.isNone

end Process

/-- The processes, and every identity that there has been. -/
structure Kernel where
  processes : List Process
  used : List Identity

inductive KernelEvent where
  | fork (forker : Pid) (child : Identity)
  | exit (pid reaper : Pid) (status : Nat)
  | reap (pid : Pid)
  | joinGroup (pid member : Pid)
  | rename (pid : Pid) (name : Option (List Char)) (fields : StatFields)

namespace Kernel

def holder (kernel : Kernel) (pid : Pid) : Option Process :=
  kernel.processes.find? fun process => process.pid = pid

/-- Change the process that holds a pid. -/
def update (kernel : Kernel) (pid : Pid) (change : Process → Process) :
    Kernel :=
  { kernel with processes := kernel.processes.map fun process =>
      if process.pid = pid then change process else process }

/-- The child of a process in the process group of its parent. -/
def forked (parent : Process) (child : Identity) : Process where
  identity := child
  parent := parent.pid
  group := parent.group
  lineage := parent.identity :: parent.lineage
  name := parent.name
  fields := parent.fields
  exitStatus := none

/-- A process of the table after an exit. -/
def exited (pid reaper : Pid) (status : Nat) (process : Process) : Process :=
  { process with
    parent := if process.parent = pid then reaper else process.parent
    exitStatus :=
      if process.pid = pid then some status else process.exitStatus }

/-- One event; none where it cannot happen.  A free pid is used again with
another start time.  The children of a process that exits are handed to an
ancestor or to the process 1, which never exits.  One process is reaped only by
whoever waits for it. -/
def apply (kept : Identity) (kernel : Kernel) : KernelEvent → Option Kernel
  | .fork forker child => do
      let parent ← kernel.holder forker
      guard (parent.isAlive = true)
      guard (child.pid ≠ 0 ∧ (kernel.holder child.pid).isNone = true)
      guard (child ∉ kernel.used)
      some ⟨kernel.processes ++ [forked parent child], kernel.used ++ [child]⟩
  | .exit pid reaper status => do
      let process ← kernel.holder pid
      let heir ← kernel.holder reaper
      guard (process.isAlive = true ∧ pid ≠ 1)
      guard (heir.isAlive = true ∧ reaper ≠ pid)
      guard (reaper = 1 ∨ heir.identity ∈ process.lineage)
      some { kernel with
        processes := kernel.processes.map (exited pid reaper status) }
  | .reap pid => do
      let process ← kernel.holder pid
      guard (process.isAlive = false ∧ process.identity ≠ kept)
      some { kernel with processes :=
        kernel.processes.filter fun other => other.pid ≠ pid }
  | .joinGroup pid member => do
      let process ← kernel.holder pid
      let other ← kernel.holder member
      guard (process.isAlive = true)
      let group := if member = pid then process.identity else other.group
      some (kernel.update pid fun process => { process with group := group })
  | .rename pid name fields =>
      some (kernel.update pid fun process =>
        { process with name := name, fields := fields })

def advance (kept : Identity) (kernel : Kernel) (event : KernelEvent) : Kernel :=
  (kernel.apply kept event).getD kernel

end Kernel

/-- Fields with a blank between them and a newline behind them. -/
def joinFields : List (List Char) → List Char
  | [] => ['\n']
  | [field] => field ++ ['\n']
  | field :: rest => field ++ ' ' :: joinFields rest

namespace Process

/-- The fields behind the name. -/
def statFields (process : Process) : List (List Char) :=
  process.fields.state :: Nat.toDigits 10 process.parent.val ::
    (process.fields.middle ++
      Nat.toDigits 10 process.identity.startTime.toNat :: process.fields.last)

/-- `read_to_string` of the `stat` file, which fails if the name is not
UTF-8. -/
def stat (process : Process) : Option (List Char) :=
  process.name.map fun name =>
    Nat.toDigits 10 process.pid.val ++ ' ' :: '(' ::
      (name ++ ')' :: ' ' :: joinFields process.statFields)

end Process

structure LinuxProcess where
  pid : Pid
  parent : Int
  startTime : UInt64
  deriving DecidableEq, Repr

def Process.listed (process : Process) : LinuxProcess :=
  ⟨process.pid, process.parent.val, process.identity.startTime⟩

/-- The part of `str::rsplit_once(") ")` behind the separator. -/
def behindName : List Char → Option (List Char)
  | [] => none
  | first :: rest =>
      match behindName rest with
      | some tail => some tail
      | none =>
          if first = ')' ∧ rest.head? = some ' ' then some rest.tail else none

/-- The words of a text behind the word that was begun. -/
def asciiWords (word : List Char) : List Char → List (List Char)
  | [] => if word.isEmpty then [] else [word]
  | first :: rest =>
      if isAsciiWhitespace first then
        if word.isEmpty then asciiWords [] rest
        else word :: asciiWords [] rest
      else asciiWords (word ++ [first]) rest

/-- `str::split_ascii_whitespace`. -/
def splitAsciiWhitespace (text : List Char) : List (List Char) :=
  asciiWords [] text

def parseDigits (text : List Char) : Option Nat :=
  if text.isEmpty || !text.all Char.isDigit then none
  else some (Nat.ofDigitChars 10 text 0)

def withoutPlus (text : List Char) : List Char :=
  if text.head? = some '+' then text.tail else text

/-- `str::parse::<i32>`. -/
def parseI32 (text : List Char) : Option Int := do
  if text.head? = some '-' then
    let value ← parseDigits text.tail
    if value ≤ 2147483648 then some (-(value : Int)) else none
  else
    let value ← parseDigits (withoutPlus text)
    if value < 2147483648 then some (value : Int) else none

/-- `str::parse::<u64>`. -/
def parseU64 (text : List Char) : Option UInt64 := do
  let value ← parseDigits (withoutPlus text)
  if value < 2 ^ 64 then some (UInt64.ofNat value) else none

def parseLinuxStat (pid : Pid) (stat : List Char) : Option LinuxProcess := do
  let tail ← behindName stat
  let fields := splitAsciiWhitespace tail
  let parent ← fields[1]?.bind parseI32
  let startTime ← fields[19]?.bind parseU64
  some ⟨pid, parent, startTime⟩

/-- `linux_processes`: a process whose file is not read is left out. -/
def linuxProcesses (table : List Process) : List LinuxProcess :=
  table.filterMap fun process =>
    process.stat.bind (parseLinuxStat process.pid)

def processAlive (table : List Process) (process : Identity) : Bool :=
  ((table.find? fun current => current.pid = process.pid).bind fun current =>
    current.stat.bind (parseLinuxStat process.pid)).any
      fun current => current.startTime = process.startTime

theorem behindName_eq_none {text : List Char} (none : ')' ∉ text) :
    behindName text = .none := by
  induction text with
  | nil => rfl
  | cons first rest ih =>
      rw [List.mem_cons, not_or] at none
      rw [behindName, ih none.2]
      dsimp only
      rw [if_neg]
      exact fun closes => none.1 closes.1.symm

/-- The last separator is the one behind the name. -/
theorem behindName_append (before : List Char) {tail : List Char}
    (none : ')' ∉ tail) :
    behindName (before ++ ')' :: ' ' :: tail) = some tail := by
  induction before with
  | nil =>
      have blank : behindName (' ' :: tail) = .none :=
        behindName_eq_none (by simp [none])
      rw [List.nil_append, behindName, blank]
      rfl
  | cons first rest ih => rw [List.cons_append, behindName, ih]

theorem asciiWords_field {field : List Char} (word rest : List Char)
    (inside : ∀ character ∈ field, isAsciiWhitespace character = false) :
    asciiWords word (field ++ rest) = asciiWords (word ++ field) rest := by
  induction field generalizing word with
  | nil => rw [List.append_nil, List.nil_append]
  | cons first others ih =>
      rw [List.cons_append, asciiWords, inside first List.mem_cons_self]
      rw [if_neg Bool.false_ne_true, ih (word ++ [first]) fun character member =>
        inside character (List.mem_cons_of_mem first member)]
      rw [List.append_assoc, List.singleton_append]

theorem isField_iff {field : List Char} :
    isField field = true ↔ field ≠ [] ∧ ∀ character ∈ field,
      isAsciiWhitespace character = false ∧ character ≠ ')' := by
  simp [isField]

theorem asciiWords_end (word : List Char) {blank : Char} (rest : List Char)
    (some : word ≠ []) (ends : isAsciiWhitespace blank = true) :
    asciiWords word (blank :: rest) = word :: asciiWords [] rest := by
  rw [asciiWords, if_pos ends, if_neg]
  rwa [List.isEmpty_iff]

theorem splitAsciiWhitespace_joinFields {fields : List (List Char)}
    (areFields : ∀ field ∈ fields, isField field = true) :
    splitAsciiWhitespace (joinFields fields) = fields := by
  unfold splitAsciiWhitespace
  induction fields with
  | nil => rfl
  | cons field rest ih =>
      obtain ⟨isField, later⟩ := List.forall_mem_cons.mp areFields
      obtain ⟨some, inside⟩ := isField_iff.mp isField
      have word (behind : List Char) :
          asciiWords [] (field ++ behind) = asciiWords field behind := by
        rw [asciiWords_field [] behind fun character member =>
          (inside character member).1, List.nil_append]
      cases rest with
      | nil =>
          rw [joinFields, word, asciiWords_end field [] some (by decide)]
          rfl
      | cons next others =>
          rw [joinFields, word, asciiWords_end field _ some (by decide),
            ih later]
          exact List.cons_ne_nil next others

theorem close_not_mem_joinFields {fields : List (List Char)}
    (areFields : ∀ field ∈ fields, isField field = true) :
    ')' ∉ joinFields fields := by
  induction fields with
  | nil => decide
  | cons field rest ih =>
      obtain ⟨isField, later⟩ := List.forall_mem_cons.mp areFields
      obtain ⟨_, inside⟩ := isField_iff.mp isField
      have outside : ')' ∉ field := fun member => (inside ')' member).2 rfl
      cases rest with
      | nil => simp [joinFields, outside]
      | cons next others => simp [joinFields, outside, ih later]

theorem parseDigits_toDigits (number : Nat) :
    parseDigits (Nat.toDigits 10 number) = some number := by
  have all : (Nat.toDigits 10 number).all Char.isDigit = true :=
    List.all_eq_true.mpr fun _ member =>
      Nat.isDigit_of_mem_toDigits (by decide) (by decide) member
  have some : (Nat.toDigits 10 number).isEmpty = false := by
    simp
  unfold parseDigits
  rw [all, some, Nat.ofDigitChars_ten_toDigits]
  rfl

theorem head_toDigits_ne (number : Nat) {sign : Char}
    (other : sign.isDigit = false) :
    (Nat.toDigits 10 number).head? ≠ some sign := by
  intro first
  have digit : sign.isDigit = true :=
    Nat.isDigit_of_mem_toDigits (by decide) (by decide)
      (List.mem_of_mem_head? first)
  rw [other] at digit
  cases digit

theorem parseI32_pid (pid : Pid) :
    parseI32 (Nat.toDigits 10 pid.val) = some (pid.val : Int) := by
  unfold parseI32 withoutPlus
  rw [if_neg (head_toDigits_ne _ (by decide)),
    if_neg (head_toDigits_ne _ (by decide)), parseDigits_toDigits]
  exact if_pos pid.isLt

theorem parseU64_startTime (startTime : UInt64) :
    parseU64 (Nat.toDigits 10 startTime.toNat) = some startTime := by
  unfold parseU64 withoutPlus
  rw [if_neg (head_toDigits_ne _ (by decide)), parseDigits_toDigits]
  change (if startTime.toNat < 2 ^ 64 then _ else _) = _
  rw [if_pos startTime.toNat_lt, UInt64.ofNat_toNat]

theorem isField_toDigits (number : Nat) :
    isField (Nat.toDigits 10 number) = true := by
  rw [isField_iff]
  refine ⟨by simp, fun character member => ?_⟩
  have isDigit : character.isDigit = true :=
    Nat.isDigit_of_mem_toDigits (by decide) (by decide) member
  constructor
  · simp only [isAsciiWhitespace, Bool.or_eq_false_iff, decide_eq_false_iff_not]
    refine ⟨⟨⟨⟨?_, ?_⟩, ?_⟩, ?_⟩, ?_⟩ <;>
    · rintro rfl
      exact absurd isDigit (by decide)
  · rintro rfl
    exact absurd isDigit (by decide)

namespace Process

theorem areFields_statFields (process : Process) :
    ∀ field ∈ process.statFields, isField field = true := by
  have known := process.fields.areFields
  intro field member
  unfold statFields at member
  simp only [List.mem_cons, List.mem_append] at member known
  rcases member with rfl | rfl | middle | rfl | last
  · exact known _ (.inl rfl)
  · exact isField_toDigits _
  · exact known field (.inr (.inl middle))
  · exact isField_toDigits _
  · exact known field (.inr (.inr last))

theorem parent_statFields (process : Process) :
    process.statFields[1]? = some (Nat.toDigits 10 process.parent.val) :=
  rfl

theorem startTime_statFields (process : Process) :
    process.statFields[19]? =
      some (Nat.toDigits 10 process.identity.startTime.toNat) := by
  have length := process.fields.length_middle
  unfold statFields
  rw [List.getElem?_cons_succ, List.getElem?_cons_succ,
    List.getElem?_append_right (by omega), length]
  rfl

/-- Whatever a process is called, what is read of it is its parent and its
start time. -/
theorem parse_stat (process : Process) :
    process.stat.bind (parseLinuxStat process.pid) =
      if process.name.isSome then some process.listed else none := by
  unfold stat
  cases process.name with
  | none => rfl
  | some name =>
      have behind (digits : List Char) : behindName (digits ++ ' ' :: '(' ::
          (name ++ ')' :: ' ' :: joinFields process.statFields)) =
            some (joinFields process.statFields) := by
        have split := behindName_append (digits ++ ' ' :: '(' :: name)
          (close_not_mem_joinFields process.areFields_statFields)
        rwa [List.append_assoc, List.cons_append, List.cons_append] at split
      have fields := splitAsciiWhitespace_joinFields
        process.areFields_statFields
      change parseLinuxStat process.pid _ = some process.listed
      unfold parseLinuxStat
      rw [behind]
      dsimp only [Option.bind_eq_bind, Option.bind_some]
      rw [fields, parent_statFields, startTime_statFields, Option.bind_some,
        Option.bind_some, parseI32_pid, parseU64_startTime]
      rfl

end Process

theorem mem_linuxProcesses {table : List Process} {listed : LinuxProcess} :
    listed ∈ linuxProcesses table ↔
      ∃ process ∈ table, process.name.isSome = true ∧
        process.listed = listed := by
  unfold linuxProcesses
  rw [List.mem_filterMap]
  refine exists_congr fun process => and_congr_right fun _ => ?_
  rw [process.parse_stat]
  split <;> simp_all

theorem pid_unique {table : List Process}
    (nodup : (table.map Process.pid).Nodup) {first second : Process}
    (isFirst : first ∈ table) (isSecond : second ∈ table)
    (same : first.pid = second.pid) : first = second :=
  List.inj_on_of_nodup_map nodup isFirst isSecond same

theorem find_pid {table : List Process}
    (nodup : (table.map Process.pid).Nodup) {process : Process}
    (member : process ∈ table) :
    table.find? (fun current => current.pid = process.pid) = some process := by
  cases found : table.find? fun current => current.pid = process.pid with
  | none =>
      have other := List.find?_eq_none.mp found process member
      simp at other
  | some current =>
      have same := List.find?_some found
      rw [pid_unique nodup (List.mem_of_find?_eq_some found) member
        (of_decide_eq_true same)]

theorem processAlive_iff {table : List Process}
    (nodup : (table.map Process.pid).Nodup) {identity : Identity} :
    processAlive table identity = true ↔
      ∃ process ∈ table, process.identity = identity ∧
        process.name.isSome = true := by
  unfold processAlive
  constructor
  · intro alive
    cases found : table.find? fun current => current.pid = identity.pid with
    | none =>
        rw [found] at alive
        cases alive
    | some process =>
        have same : process.pid = identity.pid := by
          simpa using List.find?_some found
        rw [found, Option.bind_some, ← same, process.parse_stat] at alive
        split at alive
        next named =>
          have startTime : process.identity.startTime = identity.startTime :=
            of_decide_eq_true alive
          refine ⟨process, List.mem_of_find?_eq_some found, ?_, named⟩
          cases identity
          cases isIdentity : process.identity
          simp_all [Process.pid]
        · cases alive
  · rintro ⟨process, member, rfl, named⟩
    change ((table.find? fun current => current.pid = process.pid).bind
      fun current => current.stat.bind (parseLinuxStat process.pid)).any _ = true
    rw [find_pid nodup member, Option.bind_some, process.parse_stat,
      if_pos named]
    exact decide_eq_true rfl

namespace Kernel

/-- What the kernel keeps true of its table: every process has a live parent
that it was born of, or the process 1, or none at all. -/
structure Sound (kernel : Kernel) : Prop where
  nodup : (kernel.processes.map Process.pid).Nodup
  positive : ∀ process ∈ kernel.processes, process.pid ≠ 0
  used : ∀ process ∈ kernel.processes, process.identity ∈ kernel.used
  born : ∀ process ∈ kernel.processes, process.lineage ⊆ kernel.used
  closed : ∀ process ∈ kernel.processes, ∀ ancestor ∈ kernel.processes,
    ancestor.identity ∈ process.lineage → ancestor.lineage ⊆ process.lineage
  parents : ∀ process ∈ kernel.processes, process.parent = 0 ∨
    ∃ parent ∈ kernel.processes, parent.pid = process.parent ∧
      parent.isAlive = true ∧
      (parent.pid = 1 ∨ parent.identity ∈ process.lineage)
  init : ∃ first ∈ kernel.processes, first.pid = 1 ∧ first.isAlive = true ∧
    first.lineage = []

/-- A change of the processes that are there. -/
structure Changes (kernel : Kernel) (change : Process → Process) : Prop where
  identity : ∀ process, (change process).identity = process.identity
  lineage : ∀ process, (change process).lineage = process.lineage
  group : ∀ process ∈ kernel.processes,
    (change process).group = process.identity ∨
      ∃ member ∈ kernel.processes, (change process).group = member.group
  alive : ∀ process ∈ kernel.processes, process.pid = 1 →
    (change process).isAlive = process.isAlive
  parents : ∀ process ∈ kernel.processes, (change process).parent = 0 ∨
    ∃ parent ∈ kernel.processes, parent.pid = (change process).parent ∧
      (change parent).isAlive = true ∧
      (parent.pid = 1 ∨ parent.identity ∈ process.lineage)

/-- A process that was born. -/
structure Forks (kernel : Kernel) (parent : Process) (child : Identity) :
    Prop where
  member : parent ∈ kernel.processes
  isAlive : parent.isAlive = true
  positive : child.pid ≠ 0
  free : ∀ process ∈ kernel.processes, process.pid ≠ child.pid
  fresh : child ∉ kernel.used

theorem mem_of_holder {kernel : Kernel} {pid : Pid} {process : Process}
    (holds : kernel.holder pid = some process) :
    process ∈ kernel.processes ∧ process.pid = pid :=
  ⟨List.mem_of_find?_eq_some holds, by simpa using List.find?_some holds⟩

theorem holder_eq_none {kernel : Kernel} {pid : Pid} :
    (kernel.holder pid).isNone = true ↔
      ∀ process ∈ kernel.processes, process.pid ≠ pid := by
  simp [holder]

/-- A change that leaves the parents and the zombies as they are. -/
theorem Sound.changes {kernel : Kernel} (sound : kernel.Sound)
    {change : Process → Process}
    (same : ∀ process, (change process).identity = process.identity ∧
      (change process).lineage = process.lineage ∧
      (change process).parent = process.parent ∧
      (change process).exitStatus = process.exitStatus)
    (group : ∀ process ∈ kernel.processes,
      (change process).group = process.identity ∨
        ∃ member ∈ kernel.processes, (change process).group = member.group) :
    kernel.Changes change where
  identity process := (same process).1
  lineage process := (same process).2.1
  group := group
  alive process _ _ := by
    unfold Process.isAlive
    rw [(same process).2.2.2]
  parents process member := by
    rw [(same process).2.2.1]
    refine (sound.parents process member).imp_right ?_
    rintro ⟨parent, isMember, isParent, isAlive, before⟩
    refine ⟨parent, isMember, isParent, ?_, before⟩
    unfold Process.isAlive at isAlive ⊢
    rwa [(same parent).2.2.2]

/-- The children of a process that exits go to its heir. -/
theorem Sound.changes_exit {kernel : Kernel} (sound : kernel.Sound)
    {process heir : Process} (status : Nat) (member : process ∈ kernel.processes)
    (isHeir : heir ∈ kernel.processes) (notInit : process.pid ≠ 1)
    (isAlive : heir.isAlive = true) (other : heir.pid ≠ process.pid)
    (before : heir.pid = 1 ∨ heir.identity ∈ process.lineage) :
    kernel.Changes (exited process.pid heir.pid status) := by
  have lives {other : Process} (isOther : other.pid ≠ process.pid) :
      (exited process.pid heir.pid status other).isAlive = other.isAlive := by
    unfold exited Process.isAlive
    rw [if_neg isOther]
  constructor
  case identity => exact fun _ => rfl
  case lineage => exact fun _ => rfl
  case group => exact fun current isMember => .inr ⟨current, isMember, rfl⟩
  case alive =>
    intro current _ isInit
    exact lives fun same => notInit (same.symm.trans isInit)
  case parents =>
    intro current isMember
    have parents := sound.parents current isMember
    by_cases isChild : current.parent = process.pid
    · have goes : (exited process.pid heir.pid status current).parent =
          heir.pid := if_pos isChild
      rw [goes]
      refine .inr ⟨heir, isHeir, rfl, (lives other).trans isAlive, ?_⟩
      rcases parents with none | ⟨parent, isParent, same, _, bornOf⟩
      · exact absurd (isChild.symm.trans none)
          (sound.positive process member)
      · obtain rfl := pid_unique sound.nodup isParent member
          (same.trans isChild)
        have bornOfProcess := bornOf.resolve_left notInit
        exact before.imp_right fun ancestor =>
          sound.closed current isMember parent isParent bornOfProcess ancestor
    · have stays : (exited process.pid heir.pid status current).parent =
          current.parent := if_neg isChild
      rw [stays]
      refine parents.imp_right ?_
      rintro ⟨parent, isParent, same, parentAlive, bornOf⟩
      refine ⟨parent, isParent, same, ?_, bornOf⟩
      exact (lives fun equal => isChild (same.symm.trans equal)).trans parentAlive

/-- What one event does to a sound table. -/
theorem Sound.apply_cases {kernel after : Kernel} {kept : Identity}
    {event : KernelEvent} (sound : kernel.Sound)
    (applied : kernel.apply kept event = some after) :
    (∃ parent child, kernel.Forks parent child ∧
      after = ⟨kernel.processes ++ [forked parent child],
        kernel.used ++ [child]⟩) ∨
    (∃ change, kernel.Changes change ∧
      after = { kernel with processes := kernel.processes.map change }) ∨
    (∃ pid, (∀ process ∈ kernel.processes, process.isAlive = true →
        process.pid ≠ pid) ∧
      after = { kernel with processes :=
        kernel.processes.filter fun other => other.pid ≠ pid }) := by
  cases event with
  | fork forker child =>
      simp only [apply, Option.bind_eq_bind, Option.bind_eq_some_iff,
        Option.guard_eq_some', exists_const, Option.some.injEq] at applied
      obtain ⟨parent, holds, isAlive, ⟨positive, free⟩, fresh, rfl⟩ := applied
      exact .inl ⟨parent, child, ⟨(mem_of_holder holds).1, isAlive, positive,
        holder_eq_none.mp free, fresh⟩, rfl⟩
  | exit pid reaper status =>
      simp only [apply, Option.bind_eq_bind, Option.bind_eq_some_iff,
        Option.guard_eq_some', exists_const, Option.some.injEq] at applied
      obtain ⟨process, holds, heir, isHeir, ⟨_, notInit⟩, ⟨isAlive, other⟩,
        before, rfl⟩ := applied
      obtain ⟨member, rfl⟩ := mem_of_holder holds
      obtain ⟨heirMember, rfl⟩ := mem_of_holder isHeir
      exact .inr (.inl ⟨_, sound.changes_exit status member heirMember notInit
        isAlive other before, rfl⟩)
  | reap pid =>
      simp only [apply, Option.bind_eq_bind, Option.bind_eq_some_iff,
        Option.guard_eq_some', exists_const, Option.some.injEq] at applied
      obtain ⟨process, holds, ⟨zombie, _⟩, rfl⟩ := applied
      obtain ⟨member, rfl⟩ := mem_of_holder holds
      refine .inr (.inr ⟨process.pid, ?_, rfl⟩)
      intro other isOther isAlive same
      rw [pid_unique sound.nodup isOther member same, zombie] at isAlive
      cases isAlive
  | joinGroup pid member =>
      simp only [apply, Option.bind_eq_bind, Option.bind_eq_some_iff,
        Option.guard_eq_some', exists_const, Option.some.injEq] at applied
      obtain ⟨process, holds, other, isOther, _, rfl⟩ := applied
      refine .inr (.inl ⟨_, sound.changes ?_ ?_, rfl⟩)
      · intro process
        split <;> exact ⟨rfl, rfl, rfl, rfl⟩
      · intro current isMember
        obtain ⟨isProcess, rfl⟩ := mem_of_holder holds
        split
        next same =>
          dsimp only
          split
          · exact .inl (congrArg Process.identity
              (pid_unique sound.nodup isProcess isMember same.symm))
          · exact .inr ⟨other, (mem_of_holder isOther).1, rfl⟩
        · exact .inr ⟨current, isMember, rfl⟩
  | rename pid name fields =>
      simp only [apply, Option.some.injEq] at applied
      subst applied
      refine .inr (.inl ⟨_, sound.changes ?_ ?_, rfl⟩)
      · intro process
        split <;> exact ⟨rfl, rfl, rfl, rfl⟩
      · intro current isMember
        refine .inr ⟨current, isMember, ?_⟩
        split <;> rfl

theorem Sound.fork {kernel : Kernel} {parent : Process} {child : Identity}
    (sound : kernel.Sound) (forks : kernel.Forks parent child) :
    (Kernel.mk (kernel.processes ++ [forked parent child])
      (kernel.used ++ [child])).Sound := by
  have bornOf {identity : Identity}
      (ancestor : identity ∈ (forked parent child).lineage) :
      identity ∈ kernel.used := by
    rcases List.mem_cons.mp ancestor with rfl | later
    · exact sound.used parent forks.member
    · exact sound.born parent forks.member later
  constructor
  case nodup =>
    rw [List.map_append, List.nodup_append]
    refine ⟨sound.nodup, List.nodup_singleton _, ?_⟩
    simp only [List.mem_map, List.map_cons, List.map_nil, List.mem_singleton]
    rintro _ ⟨process, member, rfl⟩ _ rfl
    exact forks.free process member
  case positive =>
    simp only [List.mem_append, List.mem_singleton]
    rintro process (member | rfl)
    · exact sound.positive process member
    · exact forks.positive
  case used =>
    simp only [List.mem_append, List.mem_singleton]
    rintro process (member | rfl)
    · exact .inl (sound.used process member)
    · exact .inr rfl
  case born =>
    simp only [List.mem_append, List.mem_singleton]
    rintro process (member | rfl) identity ancestor
    · exact List.mem_append_left _ (sound.born process member ancestor)
    · exact List.mem_append_left _ (bornOf ancestor)
  case closed =>
    simp only [List.mem_append, List.mem_singleton]
    rintro process (member | rfl) ancestor (isAncestor | rfl) bornOfAncestor
    · exact sound.closed process member ancestor isAncestor bornOfAncestor
    · exact absurd (sound.born process member bornOfAncestor) forks.fresh
    · rcases List.mem_cons.mp bornOfAncestor with same | later
      · obtain rfl := pid_unique sound.nodup isAncestor forks.member
          (congrArg Identity.pid same)
        exact List.subset_cons_self _ _
      · exact List.subset_cons_of_subset _
          (sound.closed parent forks.member ancestor isAncestor later)
    · exact absurd (bornOf bornOfAncestor) forks.fresh
  case parents =>
    simp only [List.mem_append, List.mem_singleton]
    rintro process (member | rfl)
    · refine (sound.parents process member).imp_right ?_
      rintro ⟨holder, isHolder, facts⟩
      exact ⟨holder, .inl isHolder, facts⟩
    · exact .inr ⟨parent, .inl forks.member, rfl, forks.isAlive,
        .inr List.mem_cons_self⟩
  case init =>
    obtain ⟨first, member, facts⟩ := sound.init
    exact ⟨first, List.mem_append_left _ member, facts⟩

theorem Sound.change {kernel : Kernel} {change : Process → Process}
    (sound : kernel.Sound) (changes : kernel.Changes change) :
    ({ kernel with processes := kernel.processes.map change } : Kernel).Sound := by
  have pid (process : Process) : (change process).pid = process.pid :=
    congrArg Identity.pid (changes.identity process)
  constructor
  case nodup =>
    have same : (kernel.processes.map change).map Process.pid =
        kernel.processes.map Process.pid := by
      rw [List.map_map]
      exact List.map_congr_left fun process _ => pid process
    rw [same]
    exact sound.nodup
  case positive =>
    simp only [List.forall_mem_map, pid]
    exact sound.positive
  case used =>
    simp only [List.forall_mem_map, changes.identity]
    exact sound.used
  case born =>
    simp only [List.forall_mem_map, changes.lineage]
    exact sound.born
  case closed =>
    simp only [List.forall_mem_map, changes.identity, changes.lineage]
    exact sound.closed
  case parents =>
    simp only [List.forall_mem_map, changes.lineage]
    intro process member
    refine (changes.parents process member).imp_right ?_
    rintro ⟨parent, isParent, same, isAlive, bornOf⟩
    refine ⟨change parent, List.mem_map_of_mem isParent,
      (pid parent).trans same, isAlive, ?_⟩
    rwa [pid, changes.identity]
  case init =>
    obtain ⟨first, member, isInit, isAlive, lineage⟩ := sound.init
    exact ⟨change first, List.mem_map_of_mem member, (pid first).trans isInit,
      (changes.alive first member isInit).trans isAlive,
      (changes.lineage first).trans lineage⟩

theorem Sound.reap {kernel : Kernel} {pid : Pid} (sound : kernel.Sound)
    (zombie : ∀ process ∈ kernel.processes, process.isAlive = true →
      process.pid ≠ pid) :
    ({ kernel with processes :=
      kernel.processes.filter fun other => other.pid ≠ pid } : Kernel).Sound := by
  have before {process : Process} (member : process ∈ kernel.processes.filter
      fun other => other.pid ≠ pid) : process ∈ kernel.processes :=
    List.mem_of_mem_filter member
  have stays {process : Process} (member : process ∈ kernel.processes)
      (isAlive : process.isAlive = true) :
      process ∈ kernel.processes.filter fun other => other.pid ≠ pid :=
    List.mem_filter.mpr ⟨member, decide_eq_true (zombie process member isAlive)⟩
  constructor
  case nodup => exact sound.nodup.sublist (List.filter_sublist.map _)
  case positive =>
    exact fun process member => sound.positive process (before member)
  case used => exact fun process member => sound.used process (before member)
  case born => exact fun process member => sound.born process (before member)
  case closed =>
    exact fun process member ancestor isAncestor =>
      sound.closed process (before member) ancestor (before isAncestor)
  case parents =>
    intro process member
    refine (sound.parents process (before member)).imp_right ?_
    rintro ⟨parent, isParent, same, isAlive, bornOf⟩
    exact ⟨parent, stays isParent isAlive, same, isAlive, bornOf⟩
  case init =>
    obtain ⟨first, member, isInit, isAlive, lineage⟩ := sound.init
    exact ⟨first, stays member isAlive, isInit, isAlive, lineage⟩

theorem Sound.advance {kernel : Kernel} (sound : kernel.Sound)
    (kept : Identity) (event : KernelEvent) :
    (kernel.advance kept event).Sound := by
  unfold Kernel.advance
  cases applied : kernel.apply kept event with
  | none => exact sound
  | some after =>
      rcases sound.apply_cases applied with ⟨_, _, forks, rfl⟩ |
        ⟨_, changes, rfl⟩ | ⟨_, zombie, rfl⟩
      · exact sound.fork forks
      · exact sound.change changes
      · exact sound.reap zombie

/-- A property of tables that no event ends. -/
def Stable (property : Kernel → Prop) : Prop :=
  ∀ kept kernel event, kernel.Sound → property kernel →
    property (kernel.advance kept event)

/-- A process that was there and is there no more. -/
structure Gone (identity : Identity) (kernel : Kernel) : Prop where
  used : identity ∈ kernel.used
  absent : ∀ process ∈ kernel.processes, process.identity ≠ identity

/-- A process group that was there and is empty, its leader gone. -/
structure GroupGone (identity : Identity) (kernel : Kernel) : Prop where
  gone : Gone identity kernel
  empty : ∀ process ∈ kernel.processes, process.group ≠ identity

/-- Whoever has an identity that was used has such a lineage. -/
structure Born (identity : Identity) (accept : List Identity → Prop)
    (kernel : Kernel) : Prop where
  used : identity ∈ kernel.used
  lineage : ∀ process ∈ kernel.processes, process.identity = identity →
    accept process.lineage

/-- Whoever has the identity was born of an ancestor. -/
abbrev Descends (ancestor identity : Identity) (kernel : Kernel) : Prop :=
  Born identity (ancestor ∈ ·) kernel

/-- A property is stable if the three kinds of steps keep it. -/
theorem stable_of_steps {property : Kernel → Prop}
    (fork : ∀ kernel parent child, property kernel →
      kernel.Forks parent child → property ⟨kernel.processes ++
        [forked parent child], kernel.used ++ [child]⟩)
    (change : ∀ kernel change, property kernel → kernel.Changes change →
      property { kernel with processes := kernel.processes.map change })
    (reap : ∀ (kernel : Kernel) (pid : Pid), property kernel →
      property { kernel with processes :=
        kernel.processes.filter fun other => other.pid ≠ pid }) :
    Stable property := by
  intro kept kernel event sound holds
  unfold Kernel.advance
  cases applied : kernel.apply kept event with
  | none => exact holds
  | some after =>
      rcases sound.apply_cases applied with ⟨_, _, forks, rfl⟩ |
        ⟨_, changes, rfl⟩ | ⟨_, _, rfl⟩
      · exact fork _ _ _ holds forks
      · exact change _ _ holds changes
      · exact reap _ _ holds

theorem Gone.fork {identity child : Identity} {kernel : Kernel}
    {parent : Process} (gone : Gone identity kernel)
    (forks : kernel.Forks parent child) :
    Gone identity ⟨kernel.processes ++ [forked parent child],
      kernel.used ++ [child]⟩ := by
  refine ⟨List.mem_append_left _ gone.used, ?_⟩
  simp only [List.mem_append, List.mem_singleton]
  rintro process (member | rfl)
  · exact gone.absent process member
  · exact fun same => forks.fresh
      ((show child = identity from same) ▸ gone.used)

theorem Gone.change {identity : Identity} {kernel : Kernel}
    {change : Process → Process} (gone : Gone identity kernel)
    (changes : kernel.Changes change) :
    Gone identity
      { kernel with processes := kernel.processes.map change } := by
  refine ⟨gone.used, ?_⟩
  simp only [List.forall_mem_map, changes.identity]
  exact gone.absent

theorem Gone.reap {identity : Identity} {kernel : Kernel}
    (gone : Gone identity kernel) (pid : Pid) :
    Gone identity { kernel with
      processes := kernel.processes.filter fun other => other.pid ≠ pid } :=
  ⟨gone.used, fun process member =>
    gone.absent process (List.mem_of_mem_filter member)⟩

theorem stable_gone (identity : Identity) : Stable (Gone identity) :=
  stable_of_steps (fun _ _ _ gone => gone.fork)
    (fun _ _ gone => gone.change) (fun _ pid gone => gone.reap pid)

theorem stable_groupGone (identity : Identity) : Stable (GroupGone identity) := by
  apply stable_of_steps
  case fork =>
    intro kernel parent child gone forks
    refine ⟨gone.gone.fork forks, ?_⟩
    simp only [List.mem_append, List.mem_singleton]
    rintro process (member | rfl)
    · exact gone.empty process member
    · exact gone.empty parent forks.member
  case change =>
    intro kernel change gone changes
    refine ⟨gone.gone.change changes, ?_⟩
    simp only [List.forall_mem_map]
    intro process member same
    rcases changes.group process member with own | ⟨other, isOther, joins⟩
    · exact gone.gone.absent process member (own.symm.trans same)
    · exact gone.empty other isOther (joins.symm.trans same)
  case reap =>
    intro kernel pid gone
    exact ⟨gone.gone.reap pid, fun process member =>
      gone.empty process (List.mem_of_mem_filter member)⟩

theorem stable_born (identity : Identity) (accept : List Identity → Prop) :
    Stable (Born identity accept) := by
  apply stable_of_steps
  case fork =>
    intro kernel parent child born forks
    refine ⟨List.mem_append_left _ born.used, ?_⟩
    simp only [List.mem_append, List.mem_singleton]
    rintro process (member | rfl)
    · exact born.lineage process member
    · exact fun same => absurd
        ((show child = identity from same) ▸ born.used) forks.fresh
  case change =>
    intro kernel change born changes
    refine ⟨born.used, ?_⟩
    simp only [List.forall_mem_map, changes.identity, changes.lineage]
    exact born.lineage
  case reap =>
    intro kernel pid born
    exact ⟨born.used, fun process member =>
      born.lineage process (List.mem_of_mem_filter member)⟩

theorem stable_used (identity : Identity) :
    Stable fun kernel => identity ∈ kernel.used := by
  apply stable_of_steps
  case fork =>
    intro kernel parent child used _
    exact List.mem_append_left _ used
  case change => exact fun _ _ used _ => used
  case reap => exact fun _ _ used => used

/-- Events in a row. -/
theorem Sound.events {kernel : Kernel} (sound : kernel.Sound) (kept : Identity)
    (events : List KernelEvent) :
    (events.foldl (Kernel.advance kept) kernel).Sound := by
  induction events generalizing kernel with
  | nil => exact sound
  | cons event rest ih => exact ih (sound.advance kept event)

theorem Stable.events {property : Kernel → Prop} (stable : Stable property)
    {kernel : Kernel} (sound : kernel.Sound) (holds : property kernel)
    (kept : Identity) (events : List KernelEvent) :
    property (events.foldl (Kernel.advance kept) kernel) := by
  induction events generalizing kernel with
  | nil => exact holds
  | cons event rest ih =>
      exact ih (sound.advance kept event) (stable kept kernel event sound holds)

end Kernel

end ProcessTable

end PlatoAgent
