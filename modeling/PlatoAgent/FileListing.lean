import PlatoAgent.BoundedSort
import PlatoAgent.FileTools

/-!
# The entries of a directory

A system lists a directory in any order.  Of the entries the first ones by name
are kept while they are read, and of these as many are shown as fit.
-/

namespace PlatoAgent

namespace FileTools

open PathWalk

structure ListEntry where
  name : String
  kind : String
  deriving DecidableEq, Repr

def maxListEntries : Nat := 200

def maxListDataBytes : Nat := 32 * 1024

def fileKind : Entry String (List UInt8) → String
  | .link _ => "symlink"
  | .directory => "directory"
  | .file _ => "file"

def estimatedListEntryBytes (entry : ListEntry) : Nat :=
  entry.name.utf8ByteSize + entry.kind.utf8ByteSize + 32

def retainListCandidate (entries : List ListEntry) (candidate : ListEntry) :
    List ListEntry :=
  let index :=
    (entries.takeWhile fun entry => entry.name ≤ candidate.name).length
  if maxListEntries ≤ index then entries
  else
    (if entries.length = maxListEntries then entries.dropLast
      else entries).insertIdx index candidate

/-- The entries that are returned, and whether one was left out. -/
def returnEntries (returned : List ListEntry) (dataBytes : Nat) :
    List ListEntry → List ListEntry × Bool
  | [] => (returned, false)
  | entry :: rest =>
      if maxListEntries ≤ returned.length ∨
          maxListDataBytes < dataBytes + estimatedListEntryBytes entry then
        (returned, true)
      else
        returnEntries (returned ++ [entry])
          (dataBytes + estimatedListEntryBytes entry) rest

/-- `fs::read_dir`, for the names in the order of the system. -/
def readDir (disk : Disk) (place : Place String) (names : List String) :
    Except FileError (List ListEntry) :=
  names.mapM fun name => do
    let entry ← orIo (disk.tree (name :: place))
    return ⟨name, fileKind entry⟩

def ListEntry.toJson (entry : ListEntry) : Value :=
  .object [("kind", .string entry.kind), ("name", .string entry.name)]

def listResult (callId : ToolCallId) (path : String)
    (returned : List ListEntry) (entryCount : Nat) (truncated : Bool) :
    ToolResult where
  callId := callId
  summary :=
    s!"listed {returned.length} of {entryCount} entries in {path}"
  data := .object [
    ("entries", .array (returned.map ListEntry.toJson)),
    ("entry_count", .number (.posInt (UInt64.ofNat entryCount))),
    ("path", .string path),
    ("returned_count", .number (.posInt (UInt64.ofNat returned.length))),
    ("truncated", .bool truncated)]
  artifacts := []
  visibility := .both

/-- The result for the entries of a directory. -/
def listEntries (callId : ToolCallId) (path : String)
    (entries : List ListEntry) : ToolResult :=
  let (returned, cut) :=
    returnEntries [] 0 (entries.foldl retainListCandidate [])
  listResult callId path returned entries.length
    (cut || returned.length < entries.length)

/-- The names that the system lists for a place, and whether it fails to say
what is there or to list it. -/
structure ListTurn where
  listed : Place String → List String
  stats : Bool
  reads : Bool

def listDirectory (disk : Disk) (turn : ListTurn) (workspaceRoot : Path String)
    (callId : ToolCallId) (input : Value) : Except FileError ToolResult := do
  let path ← (parsePathInput input).mapError .json
  let place ← resolveExistingPath disk workspaceRoot path
  refuseIf (!turn.stats) .io
  refuseIf (!isDirectory (disk.tree place)) .notADirectory
  refuseIf (!turn.reads) .io
  let entries ← readDir disk place (turn.listed place)
  return listEntries callId path entries

def dataBytes (entries : List ListEntry) : Nat :=
  (entries.map estimatedListEntryBytes).sum

def FitsList (entries : List ListEntry) : Prop :=
  entries.length ≤ maxListEntries ∧ dataBytes entries ≤ maxListDataBytes

/-- Entries in the order of their names. -/
def sortEntries (entries : List ListEntry) : List ListEntry :=
  entries.insertionSort fun one other => one.name ≤ other.name

theorem foldl_retainListCandidate (entries : List ListEntry) :
    entries.foldl retainListCandidate [] =
      (sortEntries entries).take maxListEntries :=
  BoundedSort.foldl_retain_eq ListEntry.name maxListEntries entries

theorem dataBytes_append (first second : List ListEntry) :
    dataBytes (first ++ second) = dataBytes first + dataBytes second := by
  simp [dataBytes]

/-- The loop adds entries while they fit, and says so if one is left. -/
theorem returnEntries_spec (returned rest : List ListEntry)
    (fits : FitsList returned) :
    LongestStart FitsList (returned ++ rest)
        (returnEntries returned (dataBytes returned) rest).1 ∧
      ((returnEntries returned (dataBytes returned) rest).2 = true ↔
        (returnEntries returned (dataBytes returned) rest).1.length <
          (returned ++ rest).length) := by
  induction rest generalizing returned with
  | nil =>
      refine ⟨⟨?_, fits, ?_⟩, ?_⟩
      · simp [returnEntries]
      · intro start isPrefix _
        simpa [returnEntries] using isPrefix
      · simp [returnEntries]
  | cons entry rest ih =>
      unfold returnEntries
      split
      next full =>
        refine ⟨⟨List.prefix_append _ _, fits, ?_⟩, by simp⟩
        intro start isPrefix startFits
        rcases List.prefix_or_prefix_of_prefix isPrefix
            (List.prefix_append returned (entry :: rest)) with shorter | longer
        · exact shorter
        · obtain ⟨more, rfl⟩ := longer
          cases more with
          | nil => simp
          | cons other more =>
              rw [List.prefix_append_right_inj, List.cons_prefix_cons]
                at isPrefix
              obtain ⟨rfl, -⟩ := isPrefix
              obtain ⟨few, small⟩ := startFits
              rw [dataBytes_append] at small
              simp only [List.length_append, List.length_cons] at few
              simp only [dataBytes, List.map_cons, List.sum_cons] at small full
              omega
      next room =>
        rw [not_or, Nat.not_le, Nat.not_lt] at room
        have added : dataBytes returned + estimatedListEntryBytes entry =
            dataBytes (returned ++ [entry]) := by
          simp [dataBytes]
        have next := ih (returned ++ [entry]) ⟨by simp; omega, by
          rw [← added]
          exact room.2⟩
        rw [List.append_assoc, List.singleton_append] at next
        rw [added]
        exact next

theorem longestStart_of_take {entries shown : List ListEntry}
    (longest : LongestStart FitsList (entries.take maxListEntries) shown) :
    LongestStart FitsList entries shown := by
  refine ⟨longest.isPrefix.trans (List.take_prefix _ _), longest.admitted, ?_⟩
  intro start isPrefix fits
  refine longest.longest start ?_ fits
  rw [List.prefix_take_iff]
  exact ⟨isPrefix, fits.1⟩

/-- The system lists each name in a directory once. -/
structure Lists (disk : Disk) (listed : Place String → List String) : Prop where
  mem_iff : ∀ place name,
    name ∈ listed place ↔ disk.tree (name :: place) ≠ none
  nodup : ∀ place, (listed place).Nodup

/-- An entry of a directory. -/
def IsEntry (disk : Disk) (place : Place String) (entry : ListEntry) : Prop :=
  ∃ found, disk.tree (entry.name :: place) = some found ∧
    entry.kind = fileKind found

section Listing

variable {disk : Disk} {listed other : Place String → List String}
  {place : Place String}

theorem readDir_of_present {names : List String}
    (present : ∀ name ∈ names, disk.tree (name :: place) ≠ none) :
    ∃ entries, readDir disk place names = .ok entries ∧
      entries.map ListEntry.name = names ∧
      ∀ entry ∈ entries, IsEntry disk place entry := by
  induction names with
  | nil => exact ⟨[], rfl, rfl, by simp⟩
  | cons name rest ih =>
      obtain ⟨entries, isRead, names, areEntries⟩ :=
        ih fun other member => present other (List.mem_cons_of_mem _ member)
      obtain ⟨found, isFound⟩ :=
        Option.ne_none_iff_exists'.mp (present name List.mem_cons_self)
      refine ⟨⟨name, fileKind found⟩ :: entries, ?_, by simp [names], ?_⟩
      · unfold readDir at isRead ⊢
        rw [List.mapM_cons, isFound, isRead]
        rfl
      · intro entry member
        rcases List.mem_cons.mp member with rfl | later
        · exact ⟨found, isFound, rfl⟩
        · exact areEntries entry later

/-- The entries of a directory, each of them once. -/
structure Entries (disk : Disk) (place : Place String)
    (entries : List ListEntry) : Prop where
  mem_iff : ∀ entry, entry ∈ entries ↔ IsEntry disk place entry
  nodup : (entries.map ListEntry.name).Nodup

theorem Lists.readDir (lists : Lists disk listed) (place : Place String) :
    ∃ entries, readDir disk place (listed place) = .ok entries ∧
      Entries disk place entries := by
  obtain ⟨entries, isRead, names, areEntries⟩ :=
    @readDir_of_present disk place (listed place)
      fun name => (lists.mem_iff place name).mp
  refine ⟨entries, isRead, fun entry => ⟨areEntries entry, ?_⟩, ?_⟩
  · rintro ⟨found, isFound, isKind⟩
    have isListed : entry.name ∈ entries.map ListEntry.name := by
      rw [names, lists.mem_iff, isFound]
      simp
    obtain ⟨same, member, isName⟩ := List.mem_map.mp isListed
    obtain ⟨again, isAgain, sameKind⟩ := areEntries same member
    rw [isName, isFound, Option.some_inj] at isAgain
    have isSame : same = entry := by
      cases same
      cases entry
      simp_all
    rwa [← isSame]
  · rw [names]
    exact lists.nodup place

theorem Entries.sort {entries : List ListEntry}
    (isEntries : Entries disk place entries) :
    Entries disk place (sortEntries entries) := by
  have same : List.Perm (sortEntries entries) entries :=
    List.perm_insertionSort _ entries
  exact ⟨fun entry => same.mem_iff.trans (isEntries.mem_iff entry),
    (same.map ListEntry.name).nodup_iff.mpr isEntries.nodup⟩

theorem Entries.sorted {entries : List ListEntry}
    (isEntries : Entries disk place entries) :
    (sortEntries entries).Pairwise
      fun one other => one.name < other.name := by
  have ordered := List.pairwise_insertionSort
    (fun one other : ListEntry => one.name ≤ other.name) entries
  have differ := List.pairwise_map.mp isEntries.sort.nodup
  exact (ordered.and differ).imp fun both => lt_of_le_of_ne both.1 both.2

/-- The order in which a directory is read makes no difference. -/
theorem Entries.sort_eq {first second : List ListEntry}
    (one : Entries disk place first) (two : Entries disk place second) :
    sortEntries first = sortEntries second := by
  have same : List.Perm (sortEntries first) (sortEntries second) := by
    rw [List.perm_ext_iff_of_nodup (.of_map _ one.sort.nodup)
      (.of_map _ two.sort.nodup)]
    intro entry
    rw [one.sort.mem_iff, two.sort.mem_iff]
  refine same.eq_of_pairwise (fun entry other _ _ before after => ?_)
    one.sorted two.sorted
  exact absurd before (lt_asymm after)

theorem Entries.length_eq {first second : List ListEntry}
    (one : Entries disk place first) (two : Entries disk place second) :
    first.length = second.length := by
  have same := congrArg List.length (one.sort_eq two)
  simpa [sortEntries] using same

/-- What a call that is answered shows: as many entries as fit of those of one
directory of the workspace, in the order of their names, and how many there
are. -/
structure ShowsDirectory (disk : Disk) (workspaceRoot : Path String)
    (callId : ToolCallId) (input : Value) (result : ToolResult)
    (root place : Place String) (path : String)
    (entries shown : List ListEntry) : Prop where
  isRoot : disk.canonicalize workspaceRoot = some root
  isPath : parsePathInput input = .ok path
  resolves : resolveExistingPath disk workspaceRoot path = .ok place
  below : root <:+ place
  isDirectory : disk.tree place = some .directory
  sorted : entries.Pairwise fun one other => one.name < other.name
  mem_iff : ∀ entry, entry ∈ entries ↔ IsEntry disk place entry
  longest : LongestStart FitsList entries shown
  isResult : result = listResult callId path shown entries.length
    (shown.length < entries.length)

/-- As much is shown of the entries as fits, in the order of their names. -/
theorem listEntries_spec (callId : ToolCallId) (path : String)
    (entries : List ListEntry) :
    ∃ shown, LongestStart FitsList (sortEntries entries) shown ∧
      listEntries callId path entries = listResult callId path shown
        (sortEntries entries).length
        (shown.length < (sortEntries entries).length) := by
  have empty : FitsList [] := ⟨Nat.zero_le _, Nat.zero_le _⟩
  obtain ⟨longest, cut⟩ := returnEntries_spec []
    ((sortEntries entries).take maxListEntries) empty
  refine ⟨_, longestStart_of_take longest, ?_⟩
  have size : (sortEntries entries).length = entries.length := by
    simp [sortEntries]
  unfold listEntries
  rw [foldl_retainListCandidate, size]
  dsimp only
  congr 1
  rw [Bool.eq_iff_iff, Bool.or_eq_true, decide_eq_true_eq, decide_eq_true_eq]
  refine ⟨fun either => either.elim (fun isCut => ?_) id, .inr⟩
  have fewer := cut.mp isCut
  rw [List.nil_append, List.length_take, size] at fewer
  exact lt_of_lt_of_le fewer (Nat.min_le_right _ _)

theorem listEntries_eq (callId : ToolCallId) (path : String)
    {first second : List ListEntry} (one : Entries disk place first)
    (two : Entries disk place second) :
    listEntries callId path first = listEntries callId path second := by
  unfold listEntries
  rw [foldl_retainListCandidate, foldl_retainListCandidate, one.sort_eq two,
    one.length_eq two]

/-- A directory of the workspace that can be read is answered. -/
theorem listDirectory_of_read {workspaceRoot : Path String} {callId : ToolCallId}
    {input : Value} {path : String} {entries : List ListEntry}
    (isPath : parsePathInput input = .ok path)
    (resolves : resolveExistingPath disk workspaceRoot path = .ok place)
    (inside : isDirectory (disk.tree place) = true)
    (isRead : readDir disk place (listed place) = .ok entries) :
    listDirectory disk ⟨listed, true, true⟩ workspaceRoot callId input =
      .ok (listEntries callId path entries) := by
  unfold listDirectory
  rw [isPath]
  change (resolveExistingPath disk workspaceRoot path >>= _) = _
  rw [resolves]
  change (refuseIf (!isDirectory (disk.tree place)) .notADirectory >>= _) = _
  rw [inside]
  change (readDir disk place (listed place) >>= _) = _
  rw [isRead]
  rfl

/-- A directory is listed the same whatever the order that the system reads it
in, and what is shown of it is the longest start that fits of its entries by
name. -/
theorem listDirectory_spec (rooted : Rooted disk.tree)
    (cwd : disk.tree disk.cwd = some .directory) (lists : Lists disk listed)
    (others : Lists disk other) (stats reads : Bool)
    (workspaceRoot : Path String) (callId : ToolCallId) (input : Value) :
    listDirectory disk ⟨listed, stats, reads⟩ workspaceRoot callId input =
        listDirectory disk ⟨other, stats, reads⟩ workspaceRoot callId input ∧
      ∀ result, listDirectory disk ⟨listed, stats, reads⟩ workspaceRoot callId
          input = .ok result →
        ∃ root place path entries shown, ShowsDirectory disk workspaceRoot
          callId input result root place path entries shown := by
  constructor
  · unfold listDirectory
    refine bind_congr fun path => bind_congr fun place => bind_congr fun _ =>
      bind_congr fun _ => bind_congr fun _ => ?_
    dsimp only
    obtain ⟨entries, isRead, isEntries⟩ := lists.readDir place
    obtain ⟨same, isSame, areSame⟩ := others.readDir place
    rw [isRead, isSame]
    exact congrArg Except.ok (listEntries_eq callId path isEntries areSame)
  · intro result isListed
    unfold listDirectory at isListed
    obtain ⟨path, isPath, isListed⟩ := FallibleCall.exists_of_bind_ok isListed
    obtain ⟨place, resolves, isListed⟩ :=
      FallibleCall.exists_of_bind_ok isListed
    obtain ⟨_, _, isListed⟩ := FallibleCall.exists_of_bind_ok isListed
    obtain ⟨_, isInside, isListed⟩ := FallibleCall.exists_of_bind_ok isListed
    obtain ⟨_, _, isListed⟩ := FallibleCall.exists_of_bind_ok isListed
    obtain ⟨entries, isRead, isListed⟩ :=
      FallibleCall.exists_of_bind_ok isListed
    cases isListed
    obtain ⟨same, isSame, isEntries⟩ := lists.readDir place
    obtain rfl : entries = same := Except.ok.inj (isRead.symm.trans isSame)
    obtain ⟨root, isRoot, below, _⟩ :=
      resolveExistingPath_confined rooted cwd resolves
    have parsed : parsePathInput input = .ok path := by
      cases isInput : parsePathInput input with
      | error text =>
          rw [isInput] at isPath
          cases isPath
      | ok other =>
          rw [isInput] at isPath
          cases isPath
          rfl
    have inside : disk.tree place = some .directory := by
      have passes := refuseIf_eq_ok isInside
      rw [Bool.not_eq_false'] at passes
      exact isDirectory_iff.mp passes
    obtain ⟨shown, longest, isResult⟩ := listEntries_spec callId path entries
    exact ⟨root, place, path, sortEntries entries, shown, isRoot, parsed,
      resolves, below, inside, isEntries.sorted, isEntries.sort.mem_iff, longest,
      isResult⟩

end Listing

def largeName (index : Nat) : String :=
  String.singleton (Char.ofNat (256 + index))

def largeNames : List String :=
  (List.range 250).map largeName

/-- A directory with many files. -/
def largeDisk : Disk where
  tree
    | [] => some .directory
    | [name] => if name ∈ largeNames then some (.file []) else none
    | _ => none
  links := 40
  cwd := []

def largeListed : Place String → List String
  | [] => largeNames
  | _ => []

theorem largeNames_nodup : largeNames.Nodup := by
  refine List.Nodup.map_on ?_ List.nodup_range
  intro first isFirst second isSecond same
  rw [List.mem_range] at isFirst isSecond
  have code : ∀ index < 250, (Char.ofNat (256 + index)).toNat = 256 + index := by
    decide +kernel
  have characters := String.singleton_inj.mp same
  have codes := congrArg Char.toNat characters
  rw [code first isFirst, code second isSecond] at codes
  omega

theorem largeRooted : Rooted largeDisk.tree := by
  refine ⟨rfl, fun name place entry found => ?_⟩
  cases place with
  | nil => rfl
  | cons outer rest => cases found

theorem largeLists : Lists largeDisk largeListed := by
  refine ⟨fun place name => ?_, fun place => ?_⟩
  · cases place with
    | nil => simp [largeListed, largeDisk]
    | cons outer rest => simp [largeListed, largeDisk]
  · cases place with
    | nil => exact largeNames_nodup
    | cons outer rest => exact List.nodup_nil

theorem Lists.reverse {disk : Disk} {listed : Place String → List String}
    (lists : Lists disk listed) :
    Lists disk fun place => (listed place).reverse :=
  ⟨fun place name => by rw [List.mem_reverse, lists.mem_iff],
    fun place => List.nodup_reverse.mpr (lists.nodup place)⟩

theorem isEntry_large {entry : ListEntry} :
    IsEntry largeDisk [] entry ↔
      entry.name ∈ largeNames ∧ entry.kind = "file" := by
  constructor
  · rintro ⟨found, isFound, isKind⟩
    change (if entry.name ∈ largeNames then some (Entry.file []) else none) =
      some found at isFound
    split at isFound
    next member =>
      cases isFound
      exact ⟨member, isKind⟩
    · cases isFound
  · rintro ⟨member, isKind⟩
    exact ⟨.file [], if_pos member, isKind⟩

theorem estimatedListEntryBytes_large {entry : ListEntry}
    (isEntry : IsEntry largeDisk [] entry) :
    estimatedListEntryBytes entry ≤ 40 := by
  have short : ∀ name ∈ largeNames, name.utf8ByteSize ≤ 4 := by
    intro name member
    obtain ⟨index, -, rfl⟩ := List.mem_map.mp member
    have size := (Char.ofNat (256 + index)).utf8Size_le_four
    simpa [largeName] using size
  obtain ⟨member, isKind⟩ := isEntry_large.mp isEntry
  have name := short _ member
  have kind : entry.kind.utf8ByteSize = 4 := by
    rw [isKind]
    rfl
  unfold estimatedListEntryBytes
  omega

theorem dataBytes_le {entries : List ListEntry} {bound : Nat}
    (each : ∀ entry ∈ entries, estimatedListEntryBytes entry ≤ bound) :
    dataBytes entries ≤ entries.length * bound := by
  have sum := List.sum_le_card_nsmul (entries.map estimatedListEntryBytes) bound
    (by simpa using each)
  simpa [dataBytes] using sum

def largeInput : Value :=
  .object [("path", .string ".")]

def largeCall : ToolCallId :=
  ⟨"call_list", by decide⟩

def largeListing (listed : Place String → List String) :
    Except FileError ToolResult :=
  listDirectory largeDisk ⟨listed, true, true⟩ ⟨true, []⟩ largeCall largeInput

theorem largeListing_ok : ∃ result, largeListing largeListed = .ok result := by
  obtain ⟨entries, isRead, -⟩ := largeLists.readDir []
  exact ⟨_, listDirectory_of_read rfl (by decide +kernel) rfl isRead⟩

/-- Of 250 files 200 are shown, in whatever order they are listed. -/
theorem listDirectory_sample :
    largeListing largeListed =
        largeListing (fun place => (largeListed place).reverse) ∧
      ∃ result, largeListing largeListed = .ok result ∧
        result.summary = "listed 200 of 250 entries in ." := by
  have spec := listDirectory_spec largeRooted rfl largeLists largeLists.reverse
    true true ⟨true, []⟩ largeCall largeInput
  obtain ⟨result, isOk⟩ := largeListing_ok
  refine ⟨spec.1, result, isOk, ?_⟩
  obtain ⟨root, place, path, entries, shown, shows⟩ := spec.2 result isOk
  have isPath : path = "." := Except.ok.inj (shows.isPath.symm.trans rfl)
  subst isPath
  have isPlace : place = [] := by
    have resolves : resolveExistingPath largeDisk ⟨true, []⟩ "." = .ok [] := by
      decide +kernel
    exact Except.ok.inj (shows.resolves.symm.trans resolves)
  subst isPlace
  have differ : (entries.map ListEntry.name).Nodup :=
    List.pairwise_map.mpr (shows.sorted.imp ne_of_lt)
  have names : (entries.map ListEntry.name).Perm largeNames := by
    rw [List.perm_ext_iff_of_nodup differ largeNames_nodup]
    intro name
    rw [List.mem_map]
    constructor
    · rintro ⟨entry, member, rfl⟩
      exact (isEntry_large.mp ((shows.mem_iff entry).mp member)).1
    · intro member
      exact ⟨⟨name, "file"⟩, (shows.mem_iff _).mpr
        (isEntry_large.mpr ⟨member, rfl⟩), rfl⟩
  have total : entries.length = 250 := by
    have length := names.length_eq
    rwa [List.length_map, largeNames, List.length_map, List.length_range]
      at length
  have count : (entries.take maxListEntries).length = 200 := by
    rw [List.length_take, total]
    rfl
  have fits : FitsList (entries.take maxListEntries) := by
    refine ⟨count.le, ?_⟩
    have small := @dataBytes_le (entries.take maxListEntries) 40
      fun entry member => estimatedListEntryBytes_large
        ((shows.mem_iff entry).mp (List.mem_of_mem_take member))
    rw [count] at small
    exact small.trans (by decide)
  have enough :=
    (shows.longest.longest _ (List.take_prefix _ _) fits).length_le
  have few : shown.length ≤ maxListEntries := shows.longest.admitted.1
  have shownCount : shown.length = 200 := by
    rw [count] at enough
    exact le_antisymm few enough
  rw [shows.isResult, listResult, shownCount, total]
  rfl

end FileTools

end PlatoAgent
