import PlatoAgent.FallibleCalls
import PlatoAgent.SerdeStructs
import PlatoAgent.SymlinkWalk
import PlatoAgent.Utf8Decoding

/-!
# The files of a workspace

A path of a file tool is relative to the workspace and does not go up, but the
workspace may hold links that lead out of it.  A file that is read is resolved
first; a file that is written may not be a link, and its directory is resolved.
-/

namespace PlatoAgent

namespace FileTools

open PathWalk

export PathWalk (Path Place)

/-- The bytes of files, and the directories and links that lead to them: a disk
of regular files, directories and symbolic links, where names are UTF-8 and each
file has one name. -/
structure Disk where
  tree : Tree String (List UInt8)
  links : Nat
  cwd : Place String

inductive FileError where
  | json (text : String)
  | io
  | pathEscapesWorkspace
  | notADirectory
  | platonicMemoryTooLarge
  | platonicMemoryNotRegular
  deriving DecidableEq, Repr

def orIo {Result : Type} : Option Result → Except FileError Result
  | some result => .ok result
  | none => .error .io

def refuseIf (condition : Bool) (error : FileError) : Except FileError Unit :=
  if condition then .error error else .ok ()

/-- What stands between two slashes. -/
def segmentOf (text : List Char) : Segment String :=
  if text = [] ∨ text = ['.'] then .here
  else if text = ['.', '.'] then .up
  else .name (String.ofList text)

def rawPath (raw : String) : Path String :=
  ⟨raw.toList.head? == some '/', (raw.toList.splitOn '/').map segmentOf⟩

/-- `Path::canonicalize`. -/
def Disk.canonicalize (disk : Disk) (path : Path String) :
    Option (Place String) :=
  walk disk.tree .find disk.links (path.start disk.cwd) path.segments

/-- `Path::join` of a canonical path with a relative one. -/
def join (root : Place String) (path : Path String) : Path String :=
  ⟨true, pathOf root ++ path.segments⟩

/-- `Path::parent`. -/
def parent (path : Path String) : Option (Path String) :=
  match path.segments.reverse.dropWhile (· == .here) with
  | [] => none
  | _ :: outer => some ⟨path.absolute, outer.reverse⟩

def pathEscapes (path : Path String) : Bool :=
  path.absolute || path.segments.any (· == .up)

def resolveExistingPath (disk : Disk) (workspaceRoot : Path String)
    (raw : String) : Except FileError (Place String) := do
  refuseIf (pathEscapes (rawPath raw)) .pathEscapesWorkspace
  let root ← orIo (disk.canonicalize workspaceRoot)
  let candidate ← orIo (disk.canonicalize (join root (rawPath raw)))
  refuseIf (!root.isSuffixOf candidate) .pathEscapesWorkspace
  return candidate

def isLink : Option (Entry String (List UInt8)) → Bool
  | some (.link _) => true
  | _ => false

/-- What is there already is not a link and is inside of the workspace. -/
def checkPresent (disk : Disk) (root : Place String) (candidate : Path String) :
    Except FileError Unit :=
  match walk disk.tree .stat disk.links [] candidate.segments with
  | none => .ok ()
  | some place => do
      refuseIf (isLink (disk.tree place)) .pathEscapesWorkspace
      let canonical ← orIo (disk.canonicalize candidate)
      refuseIf (!root.isSuffixOf canonical) .pathEscapesWorkspace

def resolveWritePath (disk : Disk) (workspaceRoot : Path String)
    (raw : String) : Except FileError (Path String) := do
  refuseIf (pathEscapes (rawPath raw)) .pathEscapesWorkspace
  let root ← orIo (disk.canonicalize workspaceRoot)
  let candidate := join root (rawPath raw)
  checkPresent disk root candidate
  match parent candidate with
  | none => .error .pathEscapesWorkspace
  | some outer => do
      let outer ← orIo (disk.canonicalize outer)
      refuseIf (!root.isSuffixOf outer) .pathEscapesWorkspace
      return candidate

/-- Whether a file can be opened, and how many bytes reach it when the write
fails. -/
structure WriteTurn where
  opens : Bool
  failsAfter : Option Nat

def putFile (tree : Tree String (List UInt8)) (place : Place String)
    (content : List UInt8) : Tree String (List UInt8) :=
  fun other => if other = place then some (.file content) else tree other

/-- Something that is not a file is in the way. -/
def blocksWrite : Option (Entry String (List UInt8)) → Bool
  | none | some (.file _) => false
  | _ => true

/-- `fs::write`, with what is left on the disk. -/
def fsWrite (disk : Disk) (turn : WriteTurn) (path : Path String)
    (content : List UInt8) :
    Except FileError Unit × Tree String (List UInt8) :=
  match walk disk.tree .create disk.links (path.start disk.cwd) path.segments
    with
  | none => (.error .io, disk.tree)
  | some place =>
      if blocksWrite (disk.tree place) || !turn.opens then
        (.error .io, disk.tree)
      else
        match turn.failsAfter with
        | none => (.ok (), putFile disk.tree place content)
        | some count =>
            (.error .io, putFile disk.tree place (content.take count))

def fileWrite : String := "file.write"

def fileEdit : String := "file.edit"

def platonicMemoryFilename : String := "PLATONIC.md"

def platonicMemoryMaxBytes : Nat := 8192

def names (path : Path String) : List String :=
  path.segments.filterMap Segment.nameOf

/-- The path of the memory, when a path normalizes to it. -/
def platonicMemoryTargetPath (workspaceRoot : Path String) (raw : String) :
    Option (Path String) :=
  if pathEscapes (rawPath raw) then none
  else
    let normalized : Path String := ⟨workspaceRoot.absolute,
      workspaceRoot.segments ++ (names (rawPath raw)).map .name⟩
    let memory : Path String := ⟨workspaceRoot.absolute,
      workspaceRoot.segments ++ [.name platonicMemoryFilename]⟩
    if normalized = memory then some normalized else none

def targetsPlatonicMemory (workspaceRoot : Path String) (tool : String)
    (input : Value) : Bool :=
  (tool == fileWrite || tool == fileEdit) &&
    match input.entry "path" with
    | some (.string path) =>
        (platonicMemoryTargetPath workspaceRoot path).isSome
    | _ => false

def validatePlatonicMemoryTarget (disk : Disk) (memory : Path String) :
    Except FileError Unit :=
  match walk disk.tree .stat disk.links (memory.start disk.cwd)
      memory.segments with
  | none => .ok ()
  | some place =>
      refuseIf (blocksWrite (disk.tree place)) .platonicMemoryNotRegular

structure FileContentInput where
  path : String
  content : String
  deriving DecidableEq, Repr

def textOf : Value → Option String
  | .string text => some text
  | _ => none

def parseContentInput (input : Value) : Except String FileContentInput := do
  let fields ← readStruct ["path", "content"] true false input
  let path ← fields.required "path" (expecting "a string" textOf)
  let content ← fields.required "content" (expecting "a string" textOf)
  return ⟨path, content⟩

def contentBytes (content : String) : List UInt8 :=
  Utf8.encode content.toList

def parsePathInput (input : Value) : Except String String := do
  let fields ← readStruct ["path"] true false input
  fields.required "path" (expecting "a string" textOf)

/-- What is checked before a file is written. -/
def checkWrite (disk : Disk) (workspaceRoot : Path String)
    (input : FileContentInput) : Except FileError (Path String) := do
  match platonicMemoryTargetPath workspaceRoot input.path with
  | none => resolveWritePath disk workspaceRoot input.path
  | some memory => do
      refuseIf (platonicMemoryMaxBytes < (contentBytes input.content).length)
        .platonicMemoryTooLarge
      validatePlatonicMemoryTarget disk memory
      resolveWritePath disk workspaceRoot input.path

def writeFile (disk : Disk) (turn : WriteTurn) (workspaceRoot : Path String)
    (callId : ToolCallId) (input : Value) (verb preposition : String) :
    Except FileError ToolResult × Tree String (List UInt8) :=
  match parseContentInput input with
  | .error text => (.error (.json text), disk.tree)
  | .ok input =>
      match checkWrite disk workspaceRoot input with
      | .error error => (.error error, disk.tree)
      | .ok path =>
          let bytes := contentBytes input.content
          let written := fsWrite disk turn path bytes
          (written.1.map fun _ =>
            ⟨callId, s!"{verb} {bytes.length} bytes {preposition} {input.path}",
              .object [("bytes", .number (.posInt (UInt64.ofNat bytes.length))),
                ("path", .string input.path)], [], .both⟩, written.2)

inductive WriteTool where
  | write
  | edit
  deriving DecidableEq, Repr

namespace WriteTool

def name : WriteTool → String
  | .write => fileWrite
  | .edit => fileEdit

def summaryVerb : WriteTool → String
  | .write => "wrote"
  | .edit => "edited"

def summaryPreposition : WriteTool → String
  | .write => "to"
  | .edit => "at"

end WriteTool

/-- A call of a tool that writes, how it was decided, and what its write meets. -/
structure WriteCall where
  call : ToolCall
  tool : WriteTool
  isTool : call.tool.value = tool.name
  policy : PolicyDecision
  turn : WriteTurn

/-- `execute_tool` for the tools that write. -/
def executeWrite (disk : Disk) (workspaceRoot : Path String)
    (step : WriteCall) : Except FileError ToolResult × Tree String (List UInt8) :=
  writeFile disk step.turn workspaceRoot step.call.id step.call.input
    step.tool.summaryVerb step.tool.summaryPreposition

def Disk.after (disk : Disk) (workspaceRoot : Path String)
    (calls : List WriteCall) : Disk :=
  calls.foldl (fun disk call =>
    { disk with tree := (executeWrite disk workspaceRoot call).2 }) disk

/-- The calls that are granted without being asked about. -/
def yoloEligible (workspaceRoot : Path String) (call : ToolCall)
    (policy : PolicyDecision) : Bool :=
  (match policy with
    | .requireApproval _ => true
    | _ => false) &&
    ((call.tool.value == "shell.exec" && call.effect == .externalSideEffect) ||
      (call.effect == .workspaceWrite &&
        !targetsPlatonicMemory workspaceRoot call.tool.value call.input))

/-- The longest start of a list that fits. -/
structure LongestStart {Item : Type} (fits : List Item → Prop)
    (whole shown : List Item) : Prop where
  isPrefix : shown <+: whole
  admitted : fits shown
  longest : ∀ start, start <+: whole → fits start → start <+: shown

theorem refuseIf_eq_ok {condition : Bool} {error : FileError}
    (passes : refuseIf condition error = .ok ()) : condition = false := by
  cases condition with
  | false => rfl
  | true => cases passes

theorem orIo_eq_ok {Result : Type} {read : Option Result} {result : Result}
    (passes : orIo read = .ok result) : read = some result := by
  cases read with
  | none => cases passes
  | some value =>
      cases passes
      rfl

theorem segments_ne_nil (raw : String) : (rawPath raw).segments ≠ [] := by
  simp [rawPath, List.splitOn, List.splitOnP_ne_nil]

section Resolved

variable {disk : Disk} {workspaceRoot : Path String} {raw : String}
  {root place : Place String}

theorem solid_of_canonicalize (rooted : Rooted disk.tree)
    (cwd : disk.tree disk.cwd = some .directory) {path : Path String}
    (found : disk.canonicalize path = some place) :
    Solid disk.tree place := by
  obtain ⟨links, _, leads⟩ := leads_of_walk found
  exact leads.solid rooted (solid_of_directory (rooted.start path cwd))

/-- A path that is resolved for reading leads only to itself, and it is inside
of the workspace. -/
theorem resolveExistingPath_confined (rooted : Rooted disk.tree)
    (cwd : disk.tree disk.cwd = some .directory)
    (resolves : resolveExistingPath disk workspaceRoot raw = .ok place) :
    ∃ root, disk.canonicalize workspaceRoot = some root ∧ root <:+ place ∧
      Solid disk.tree place ∧
      ∀ other, disk.canonicalize ⟨true, pathOf place⟩ = some other →
        other = place := by
  unfold resolveExistingPath at resolves
  obtain ⟨_, _, resolves⟩ := FallibleCall.exists_of_bind_ok resolves
  obtain ⟨root, isRoot, resolves⟩ := FallibleCall.exists_of_bind_ok resolves
  obtain ⟨candidate, found, resolves⟩ :=
    FallibleCall.exists_of_bind_ok resolves
  obtain ⟨_, below, resolves⟩ := FallibleCall.exists_of_bind_ok resolves
  cases resolves
  have solid := solid_of_canonicalize rooted cwd (orIo_eq_ok found)
  refine ⟨root, orIo_eq_ok isRoot, ?_, solid, ?_⟩
  · simpa using refuseIf_eq_ok below
  · intro other again
    obtain ⟨_, _, leads⟩ := leads_of_walk again
    exact leads.unique (solid.leads_pathOf rooted)

theorem parent_concat (absolute : Bool) (segments : List (Segment String))
    (name : String) :
    parent ⟨absolute, segments ++ [.name name]⟩ = some ⟨absolute, segments⟩ := by
  simp [parent]

/-- A path behind the workspace leads where it leads from there. -/
theorem leads_behind (rooted : Rooted disk.tree)
    (solid : Solid disk.tree root) {links : Nat}
    {segments : List (Segment String)}
    (leads : Leads disk.tree .find links root segments place) :
    Leads disk.tree .find links [] (pathOf root ++ segments) place := by
  cases segments with
  | nil =>
      cases leads
      simpa using solid.leads_pathOf rooted
  | cons segment rest =>
      simpa using (solid.leads_pathOf rooted).append leads (by simp)

/-- A path behind the workspace leads down to a place for a file. -/
structure Targets (disk : Disk) (raw : String) (root : Place String)
    (before : List (Segment String)) (name : String)
    (directory : Place String) : Prop where
  stays : pathEscapes (rawPath raw) = false
  segments : (rawPath raw).segments = before ++ [.name name]
  leads : ∃ links, Leads disk.tree .find links root before directory
  below : root <:+ directory
  inside : disk.tree directory = some .directory
  isFile : blocksWrite (disk.tree (name :: directory)) = false

theorem not_link_of_checkPresent {candidate : Path String}
    (present : checkPresent disk root candidate = .ok ())
    (itself : walk disk.tree .stat disk.links [] candidate.segments =
      some place) : isLink (disk.tree place) = false := by
  rw [checkPresent, itself] at present
  obtain ⟨_, refused, _⟩ := FallibleCall.exists_of_bind_ok present
  exact refuseIf_eq_ok refused

/-- A path that is accepted for writing leads into a directory of the
workspace. -/
theorem targets_of_resolveWritePath (rooted : Rooted disk.tree)
    (cwd : disk.tree disk.cwd = some .directory) {path : Path String}
    (resolves : resolveWritePath disk workspaceRoot raw = .ok path)
    (walks : walk disk.tree .create disk.links (path.start disk.cwd)
      path.segments = some place)
    (isFile : blocksWrite (disk.tree place) = false) :
    ∃ root before name directory,
      disk.canonicalize workspaceRoot = some root ∧
      Targets disk raw root before name directory ∧
      place = name :: directory ∧ path = join root (rawPath raw) := by
  unfold resolveWritePath at resolves
  obtain ⟨_, escapes, resolves⟩ := FallibleCall.exists_of_bind_ok resolves
  obtain ⟨root, isRoot, resolves⟩ := FallibleCall.exists_of_bind_ok resolves
  obtain ⟨_, present, resolves⟩ := FallibleCall.exists_of_bind_ok resolves
  have isRoot' := orIo_eq_ok isRoot
  have solid := solid_of_canonicalize rooted cwd isRoot'
  have staysBelow := refuseIf_eq_ok escapes
  split at resolves
  · cases resolves
  next outer isParent =>
    obtain ⟨directory, isDirectory, resolves⟩ :=
      FallibleCall.exists_of_bind_ok resolves
    obtain ⟨_, below, resolves⟩ := FallibleCall.exists_of_bind_ok resolves
    cases resolves
    obtain ⟨links, few, leads⟩ := leads_of_walk walks
    obtain ⟨count, fewer, leads⟩ := leads.of_pathOf rooted solid
      (segments_ne_nil raw)
    obtain ⟨before, last, segments⟩ :=
      (List.eq_nil_or_concat (rawPath raw).segments).resolve_left
        (segments_ne_nil raw)
    rw [List.concat_eq_append] at segments
    rw [segments] at leads
    obtain ⟨first, second, middle, total, start, rest⟩ :=
      leads.split (by simp)
    cases last with
    | here =>
        cases rest with
        | here inside leads =>
            cases leads
            simp [inside, blocksWrite] at isFile
    | up => simp [pathEscapes, segments] at staysBelow
    | name name =>
        have whole : Leads disk.tree .find first []
            (pathOf root ++ before) middle :=
          leads_behind rooted solid start
        have isOuter : outer = ⟨true, pathOf root ++ before⟩ := by
          rw [join, segments, ← List.append_assoc, parent_concat] at isParent
          exact (Option.some_inj.mp isParent).symm
        obtain ⟨_, _, found⟩ := leads_of_walk (orIo_eq_ok isDirectory)
        rw [isOuter] at found
        have same : directory = middle := found.unique whole
        have isBelow : root <:+ middle := by
          simpa [← same] using refuseIf_eq_ok below
        suffices same : place = name :: middle by
          rw [same] at isFile
          exact ⟨root, before, name, middle, isRoot', ⟨staysBelow, segments,
            ⟨first, start⟩, isBelow, rest.inside (by simp), isFile⟩, same, rfl⟩
        cases rest with
        | down _ _ _ leads =>
            cases leads
            rfl
        | missing => rfl
        | follow inside isLink =>
            have stays : Leads disk.tree .stat first []
                ((pathOf root ++ before) ++ [.name name]) (name :: middle) := by
              simpa using whole.append (.link inside isLink rfl) (by simp)
            have itself : walk disk.tree .stat disk.links []
                (join root (rawPath raw)).segments = some (name :: middle) := by
              rw [join, segments, ← List.append_assoc]
              exact stays.walk_eq (by omega)
            have refused := not_link_of_checkPresent present itself
            simp [isLink, FileTools.isLink] at refused
        | link _ _ isStat => cases isStat

end Resolved

section Changes

variable {root place : Place String} {content : List UInt8}
  {before middle after : Tree String (List UInt8)}

@[simp]
theorem putFile_self : putFile before place content place =
    some (.file content) := by
  simp [putFile]

theorem putFile_of_ne {other : Place String} (differs : other ≠ place) :
    putFile before place content other = before other := by
  simp [putFile, differs]

/-- Each place is as before, or it is inside of the workspace and only the bytes
of a file there are new. -/
def ChangesFiles (root : Place String)
    (before after : Tree String (List UInt8)) : Prop :=
  ∀ place, after place = before place ∨
    (root <:+ place ∧ place ≠ root ∧ blocksWrite (before place) = false ∧
      ∃ content, after place = some (.file content))

theorem ChangesFiles.refl : ChangesFiles root before before :=
  fun _ => .inl rfl

theorem ChangesFiles.trans (first : ChangesFiles root before middle)
    (second : ChangesFiles root middle after) :
    ChangesFiles root before after := by
  intro place
  rcases second place with same | ⟨below, inner, isFile, isChanged⟩
  · rw [same]
    exact first place
  · rcases first place with same | ⟨_, _, wasFile, _⟩
    · rw [same] at isFile
      exact .inr ⟨below, inner, isFile, isChanged⟩
    · exact .inr ⟨below, inner, wasFile, isChanged⟩

theorem ChangesFiles.keeps (changes : ChangesFiles root before after) :
    Keeps before after := by
  constructor
  · intro place inside
    rcases changes place with same | ⟨_, _, isFile, _⟩
    · exact same.trans inside
    · simp [inside, blocksWrite] at isFile
  · intro place target isLink
    rcases changes place with same | ⟨_, _, isFile, _⟩
    · exact same.trans isLink
    · simp [isLink, blocksWrite] at isFile
  · intro place content found
    rcases changes place with same | ⟨_, _, _, isChanged⟩
    · exact ⟨content, same.trans found⟩
    · exact isChanged

theorem putFile_changesFiles {name : String} (below : root <:+ place)
    (isFile : blocksWrite (before (name :: place)) = false) :
    ChangesFiles root before (putFile before (name :: place) content) := by
  intro other
  by_cases same : other = name :: place
  · subst same
    refine .inr ⟨below.trans (List.suffix_cons _ _), ?_, isFile, content, by simp⟩
    rintro rfl
    have short := below.length_le
    simp at short
  · exact .inl (putFile_of_ne same)

theorem rooted_putFile (rooted : Rooted before) {name : String}
    (inside : before place = some .directory)
    (isFile : blocksWrite (before (name :: place)) = false) :
    Rooted (putFile before (name :: place) content) := by
  have changes : ChangesFiles [] before
      (putFile before (name :: place) content) :=
    putFile_changesFiles List.nil_suffix isFile
  have keeps := changes.keeps
  refine ⟨keeps.directory _ rooted.root, fun other outer entry found => ?_⟩
  by_cases same : other :: outer = name :: place
  · obtain ⟨-, rfl⟩ := List.cons_eq_cons.mp same
    exact keeps.directory _ inside
  · rw [putFile_of_ne same] at found
    exact keeps.directory _ (rooted.inside other outer entry found)

end Changes

section Writes

variable {disk : Disk} {workspaceRoot : Path String} {root : Place String}

/-- What is known of an input that a file was opened for. -/
structure Accepts (disk : Disk) (workspaceRoot : Path String) (input : Value)
    (parsed : FileContentInput) (root : Place String)
    (before : List (Segment String)) (name : String)
    (directory : Place String) : Prop
    extends Targets disk parsed.path root before name directory where
  isRead : parseContentInput input = .ok parsed
  isRoot : disk.canonicalize workspaceRoot = some root
  reaches : walk disk.tree .create disk.links []
    (join root (rawPath parsed.path)).segments = some (name :: directory)
  fits : platonicMemoryTargetPath workspaceRoot parsed.path ≠ none →
    (contentBytes parsed.content).length ≤ platonicMemoryMaxBytes

theorem checkWrite_eq_ok {input : FileContentInput} {path : Path String}
    (accepts : checkWrite disk workspaceRoot input = .ok path) :
    resolveWritePath disk workspaceRoot input.path = .ok path ∧
      (platonicMemoryTargetPath workspaceRoot input.path ≠ none →
        (contentBytes input.content).length ≤ platonicMemoryMaxBytes) := by
  unfold checkWrite at accepts
  cases target : platonicMemoryTargetPath workspaceRoot input.path with
  | none =>
      rw [target] at accepts
      exact ⟨accepts, fun some => absurd rfl some⟩
  | some memory =>
      rw [target] at accepts
      obtain ⟨_, fits, rest⟩ := FallibleCall.exists_of_bind_ok accepts
      obtain ⟨_, _, resolves⟩ := FallibleCall.exists_of_bind_ok rest
      have small := refuseIf_eq_ok fits
      rw [decide_eq_false_iff_not, Nat.not_lt] at small
      exact ⟨resolves, fun _ => small⟩

theorem fsWrite_cases (turn : WriteTurn) (path : Path String)
    (content : List UInt8) :
    fsWrite disk turn path content = (.error .io, disk.tree) ∨
    ∃ place, walk disk.tree .create disk.links (path.start disk.cwd)
        path.segments = some place ∧
      blocksWrite (disk.tree place) = false ∧
      ((∃ count, fsWrite disk turn path content =
        (.error .io, putFile disk.tree place (content.take count))) ∨
      fsWrite disk turn path content =
        (.ok (), putFile disk.tree place content)) := by
  unfold fsWrite
  cases walk disk.tree .create disk.links (path.start disk.cwd) path.segments with
  | none => exact .inl rfl
  | some place =>
      dsimp only
      split
      · exact .inl rfl
      next opens =>
        rw [Bool.or_eq_true, not_or, Bool.not_eq_true] at opens
        refine .inr ⟨place, rfl, opens.1, ?_⟩
        cases turn.failsAfter with
        | none => exact .inr rfl
        | some count => exact .inl ⟨count, rfl⟩

/-- A write leaves the disk as it is, or it leaves a start of the content in one
file of the workspace, all of it when the write is reported. -/
theorem writeFile_cases (rooted : Rooted disk.tree)
    (cwd : disk.tree disk.cwd = some .directory) (turn : WriteTurn)
    (callId : ToolCallId) (input : Value) (verb preposition : String) :
    (∃ error, writeFile disk turn workspaceRoot callId input verb preposition =
      (.error error, disk.tree)) ∨
    ∃ parsed root before name directory,
      Accepts disk workspaceRoot input parsed root before name directory ∧
      ((∃ count, writeFile disk turn workspaceRoot callId input verb preposition =
        (.error .io, putFile disk.tree (name :: directory)
          ((contentBytes parsed.content).take count))) ∨
      ∃ result, writeFile disk turn workspaceRoot callId input verb preposition =
        (.ok result, putFile disk.tree (name :: directory)
          (contentBytes parsed.content))) := by
  unfold writeFile
  cases isRead : parseContentInput input with
  | error text => exact .inl ⟨_, rfl⟩
  | ok parsed =>
      dsimp only
      cases accepts : checkWrite disk workspaceRoot parsed with
      | error error => exact .inl ⟨_, rfl⟩
      | ok path =>
          dsimp only
          obtain ⟨resolves, fits⟩ := checkWrite_eq_ok accepts
          rcases fsWrite_cases turn path (contentBytes parsed.content) with
            written | ⟨place, walks, isFile, left⟩
          · rw [written]
            exact .inl ⟨_, rfl⟩
          · obtain ⟨root, before, name, directory, isRoot, targets, rfl, rfl⟩ :=
              targets_of_resolveWritePath rooted cwd resolves walks isFile
            refine .inr ⟨parsed, root, before, name, directory,
              ⟨targets, isRead, isRoot, walks, fits⟩, ?_⟩
            rcases left with ⟨count, written⟩ | written
            · rw [written]
              exact .inl ⟨count, rfl⟩
            · rw [written]
              exact .inr ⟨_, rfl⟩

theorem executeWrite_cases (rooted : Rooted disk.tree)
    (cwd : disk.tree disk.cwd = some .directory)
    (isRoot : disk.canonicalize workspaceRoot = some root) (step : WriteCall) :
    (executeWrite disk workspaceRoot step).2 = disk.tree ∨
    ∃ parsed before name directory content,
      Accepts disk workspaceRoot step.call.input parsed root before name
        directory ∧
      content <+: contentBytes parsed.content ∧
      (executeWrite disk workspaceRoot step).2 =
        putFile disk.tree (name :: directory) content := by
  unfold executeWrite
  rcases writeFile_cases rooted cwd step.turn step.call.id step.call.input
      step.tool.summaryVerb step.tool.summaryPreposition with
    ⟨error, written⟩ | ⟨parsed, other, before, name, directory, accepts, left⟩
  · rw [written]
    exact .inl rfl
  · obtain rfl : root = other :=
      Option.some_inj.mp (isRoot.symm.trans accepts.isRoot)
    rcases left with ⟨count, written⟩ | ⟨result, written⟩
    · rw [written]
      exact .inr ⟨parsed, before, name, directory, _, accepts,
        List.take_prefix _ _, rfl⟩
    · rw [written]
      exact .inr ⟨parsed, before, name, directory, _, accepts,
        List.prefix_rfl, rfl⟩

theorem executeWrite_keeps (rooted : Rooted disk.tree)
    (cwd : disk.tree disk.cwd = some .directory)
    (isRoot : disk.canonicalize workspaceRoot = some root) (step : WriteCall) :
    ChangesFiles root disk.tree (executeWrite disk workspaceRoot step).2 ∧
      Rooted (executeWrite disk workspaceRoot step).2 := by
  rcases executeWrite_cases rooted cwd isRoot step with
    left | ⟨parsed, before, name, directory, content, accepts, -, left⟩
  · rw [left]
    exact ⟨.refl, rooted⟩
  · rw [left]
    exact ⟨putFile_changesFiles accepts.below accepts.isFile,
      rooted_putFile rooted accepts.inside accepts.isFile⟩

theorem canonicalize_kept {path : Path String} {place : Place String}
    {after : Tree String (List UInt8)} (keeps : Keeps disk.tree after)
    (found : disk.canonicalize path = some place) :
    { disk with tree := after }.canonicalize path = some place := by
  obtain ⟨links, few, leads⟩ := leads_of_walk found
  exact (leads.kept keeps (by decide) (fun isCreate => by cases isCreate)).walk_eq
    few

/-- What every run of writes keeps. -/
structure Stays (workspaceRoot : Path String) (root : Place String)
    (disk after : Disk) : Prop where
  changes : ChangesFiles root disk.tree after.tree
  rooted : Rooted after.tree
  cwd : after.tree after.cwd = some .directory
  isRoot : after.canonicalize workspaceRoot = some root

theorem Stays.start (rooted : Rooted disk.tree)
    (cwd : disk.tree disk.cwd = some .directory)
    (isRoot : disk.canonicalize workspaceRoot = some root) :
    Stays workspaceRoot root disk disk :=
  ⟨.refl, rooted, cwd, isRoot⟩

theorem Stays.step {after : Disk} (stays : Stays workspaceRoot root disk after)
    (call : WriteCall) :
    Stays workspaceRoot root disk
      { after with tree := (executeWrite after workspaceRoot call).2 } := by
  obtain ⟨changes, rooted⟩ :=
    executeWrite_keeps stays.rooted stays.cwd stays.isRoot call
  have keeps := changes.keeps
  exact ⟨stays.changes.trans changes, rooted, keeps.directory _ stays.cwd,
    canonicalize_kept keeps stays.isRoot⟩

/-- Whatever holds of a disk, and with each write of a run, holds at the end. -/
theorem Disk.after_induct {holds : Disk → Prop}
    (stays : Stays workspaceRoot root disk disk) (calls : List WriteCall)
    (first : holds disk)
    (next : ∀ call ∈ calls, ∀ after, Stays workspaceRoot root disk after →
      holds after →
      holds { after with tree := (executeWrite after workspaceRoot call).2 }) :
    Stays workspaceRoot root disk (disk.after workspaceRoot calls) ∧
      holds (disk.after workspaceRoot calls) := by
  suffices loop : ∀ after, Stays workspaceRoot root disk after → holds after →
      Stays workspaceRoot root disk (after.after workspaceRoot calls) ∧
        holds (after.after workspaceRoot calls) from loop disk stays first
  clear first
  induction calls with
  | nil => exact fun _ stays holds => ⟨stays, holds⟩
  | cons call rest ih =>
      intro after stays now
      exact ih (fun other member =>
        next other (List.mem_cons_of_mem _ member)) _ (stays.step call)
        (next call List.mem_cons_self after stays now)

theorem Stays.after (stays : Stays workspaceRoot root disk disk)
    (calls : List WriteCall) :
    Stays workspaceRoot root disk (disk.after workspaceRoot calls) :=
  (@Disk.after_induct _ _ _ (fun _ => True) stays calls trivial
    fun _ _ _ _ _ => trivial).1

/-- Files that tools write are inside of the workspace, and so is each path that
they read then: a run of writes changes nothing outside of it, makes no link and
no directory, and moves no root. -/
theorem after_confined (rooted : Rooted disk.tree)
    (cwd : disk.tree disk.cwd = some .directory)
    (isRoot : disk.canonicalize workspaceRoot = some root)
    (calls : List WriteCall) :
    ChangesFiles root disk.tree (disk.after workspaceRoot calls).tree ∧
      (disk.after workspaceRoot calls).canonicalize workspaceRoot = some root ∧
      ∀ raw place, resolveExistingPath (disk.after workspaceRoot calls)
          workspaceRoot raw = .ok place →
        root <:+ place ∧
          Solid (disk.after workspaceRoot calls).tree place ∧
          ∀ other, (disk.after workspaceRoot calls).canonicalize
            ⟨true, pathOf place⟩ = some other → other = place := by
  have stays := Stays.after (.start rooted cwd isRoot) calls
  refine ⟨stays.changes, stays.isRoot, fun raw place resolves => ?_⟩
  obtain ⟨other, isOther, below, solid, itself⟩ :=
    resolveExistingPath_confined stays.rooted stays.cwd resolves
  rw [stays.isRoot, Option.some_inj] at isOther
  exact ⟨isOther ▸ below, solid, itself⟩

end Writes

/-- A workspace with a memory, a directory, a link to it and a link that leads
out, and a link to the workspace. -/
def sampleTree : Tree String (List UInt8)
  | [] => some .directory
  | ["work"] => some .directory
  | ["link"] => some (.link ⟨true, [.name "work"]⟩)
  | ["PLATONIC.md", "work"] => some (.file [111, 108, 100])
  | ["notes", "work"] => some .directory
  | ["inner", "work"] => some (.link ⟨false, [.name "notes"]⟩)
  | ["outer", "work"] => some (.link ⟨true, []⟩)
  | _ => none

def sampleDisk : Disk :=
  ⟨sampleTree, 40, []⟩

def sampleWorkspace : Path String :=
  ⟨true, [.name "link"]⟩

def writeTo (path : String) : WriteCall where
  call :=
    { id := ⟨"call_file", by decide⟩
      tool := ⟨fileWrite, by decide⟩
      effect := .workspaceWrite
      input := .object [("content", .string "hello"), ("path", .string path)] }
  tool := .write
  isTool := rfl
  policy := .requireApproval "workspace write"
  turn := ⟨true, none⟩

theorem sampleRooted : Rooted sampleDisk.tree := by
  refine ⟨rfl, fun name place entry found => ?_⟩
  change sampleTree (name :: place) = some entry at found
  unfold sampleTree at found
  split at found
  next isNil => cases isNil
  all_goals
    next isPlace =>
      first
      | cases isPlace
        rfl
      | cases found

theorem sample_canonicalize :
    sampleDisk.canonicalize sampleWorkspace = some ["work"] := by
  decide +kernel

/-- A file is written through a link that stays inside, and none through a link
that leads out. -/
theorem after_confined_sample :
    let after := sampleDisk.after sampleWorkspace
      [writeTo "inner/./note.md", writeTo "outer/note.md"]
    ChangesFiles ["work"] sampleDisk.tree after.tree ∧
      after.canonicalize sampleWorkspace = some ["work"] ∧
      after.tree ["note.md", "notes", "work"] =
        some (.file [104, 101, 108, 108, 111]) ∧
      after.tree ["note.md"] = none := by
  have confined := after_confined sampleRooted rfl sample_canonicalize
    [writeTo "inner/./note.md", writeTo "outer/note.md"]
  exact ⟨confined.1, confined.2.1, by decide +kernel, by decide +kernel⟩

end FileTools

end PlatoAgent
