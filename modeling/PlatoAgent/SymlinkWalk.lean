import Mathlib

/-!
# Paths through symbolic links

A path leads through a tree of files, directories and links.  A link is followed
where the path goes on after it.  The last segment is followed too when a file
is looked for; it is not when the link itself is asked for, and it may be missing
when a file is to be made.
-/

namespace PathWalk

variable {Name Content : Type}

inductive Segment (Name : Type) where
  | here
  | up
  | name (name : Name)
  deriving DecidableEq, Repr

def Segment.nameOf : Segment Name → Option Name
  | .name text => some text
  | _ => none

structure Path (Name : Type) where
  absolute : Bool
  segments : List (Segment Name)
  deriving DecidableEq, Repr

inductive Entry (Name Content : Type) where
  | file (content : Content)
  | directory
  | link (target : Path Name)
  deriving DecidableEq, Repr

/-- The names of the directories that lead to a place, innermost first. -/
abbrev Place (Name : Type) := List Name

abbrev Tree (Name Content : Type) := Place Name → Option (Entry Name Content)

/-- What is asked of the last segment of a path. -/
inductive Mode where
  | stat
  | find
  | create
  deriving DecidableEq, Repr

def Path.start (path : Path Name) (place : Place Name) : Place Name :=
  if path.absolute then [] else place

def isDirectory : Option (Entry Name Content) → Bool
  | some .directory => true
  | _ => false

/-- A walk that leaves a link to another walk. -/
def walkWith (tree : Tree Name Content) (mode : Mode)
    (follow : Place Name → List (Segment Name) → Option (Place Name)) :
    Place Name → List (Segment Name) → Option (Place Name)
  | place, [] => some place
  | place, segment :: rest =>
      if isDirectory (tree place) then
        match segment with
        | .here => walkWith tree mode follow place rest
        | .up => walkWith tree mode follow place.tail rest
        | .name name =>
            match tree (name :: place) with
            | none =>
                if mode = .create ∧ rest.isEmpty then some (name :: place)
                else none
            | some (.link target) =>
                if mode = .stat ∧ rest.isEmpty then some (name :: place)
                else follow (target.start place) (target.segments ++ rest)
            | some _ => walkWith tree mode follow (name :: place) rest
      else none

/-- A walk that follows no more than a number of links. -/
def walk (tree : Tree Name Content) (mode : Mode) :
    Nat → Place Name → List (Segment Name) → Option (Place Name)
  | 0 => walkWith tree mode fun _ _ => none
  | links + 1 => walkWith tree mode (walk tree mode links)

/-- Where a path leads, through this number of links. -/
inductive Leads (tree : Tree Name Content) (mode : Mode) :
    Nat → Place Name → List (Segment Name) → Place Name → Prop
  | done {place : Place Name} : Leads tree mode 0 place [] place
  | here {links : Nat} {place last : Place Name} {rest : List (Segment Name)}
      (inside : tree place = some .directory)
      (leads : Leads tree mode links place rest last) :
      Leads tree mode links place (.here :: rest) last
  | up {links : Nat} {place last : Place Name} {rest : List (Segment Name)}
      (inside : tree place = some .directory)
      (leads : Leads tree mode links place.tail rest last) :
      Leads tree mode links place (.up :: rest) last
  | down {links : Nat} {place last : Place Name} {name : Name}
      {rest : List (Segment Name)} {entry : Entry Name Content}
      (inside : tree place = some .directory)
      (found : tree (name :: place) = some entry)
      (notLink : ∀ target, entry ≠ .link target)
      (leads : Leads tree mode links (name :: place) rest last) :
      Leads tree mode links place (.name name :: rest) last
  | follow {links : Nat} {place last : Place Name} {name : Name}
      {rest : List (Segment Name)} {target : Path Name}
      (inside : tree place = some .directory)
      (found : tree (name :: place) = some (.link target))
      (enters : mode ≠ .stat ∨ rest ≠ [])
      (leads : Leads tree mode links (target.start place)
        (target.segments ++ rest) last) :
      Leads tree mode (links + 1) place (.name name :: rest) last
  | link {place : Place Name} {name : Name} {target : Path Name}
      (inside : tree place = some .directory)
      (found : tree (name :: place) = some (.link target))
      (isStat : mode = .stat) :
      Leads tree mode 0 place [.name name] (name :: place)
  | missing {place : Place Name} {name : Name}
      (inside : tree place = some .directory)
      (isMissing : tree (name :: place) = none) (isCreate : mode = .create) :
      Leads tree mode 0 place [.name name] (name :: place)

section Walks

variable {tree : Tree Name Content} {mode : Mode}

theorem isDirectory_iff {entry : Option (Entry Name Content)} :
    isDirectory entry = true ↔ entry = some .directory := by
  unfold isDirectory
  split <;> simp_all

/-- One walk is right when the walks behind its links are. -/
theorem leads_of_walkWith {limit : Nat}
    {follow : Place Name → List (Segment Name) → Option (Place Name)}
    (follows : ∀ place segments last, follow place segments = some last →
      ∃ links < limit, Leads tree mode links place segments last)
    {place last : Place Name} {segments : List (Segment Name)}
    (walks : walkWith tree mode follow place segments = some last) :
    ∃ links ≤ limit, Leads tree mode links place segments last := by
  induction segments generalizing place with
  | nil =>
      cases walks
      exact ⟨0, Nat.zero_le _, .done⟩
  | cons segment rest ih =>
      unfold walkWith at walks
      split at walks
      next directory =>
        have inside := isDirectory_iff.mp directory
        cases segment with
        | here =>
            obtain ⟨links, few, leads⟩ := ih walks
            exact ⟨links, few, .here inside leads⟩
        | up =>
            obtain ⟨links, few, leads⟩ := ih walks
            exact ⟨links, few, .up inside leads⟩
        | name name =>
            dsimp only at walks
            split at walks
            next isMissing =>
              split at walks
              next isLast =>
                cases walks
                rw [List.isEmpty_iff.mp isLast.2]
                exact ⟨0, Nat.zero_le _, .missing inside isMissing isLast.1⟩
              · cases walks
            next target isLink =>
              split at walks
              next isLast =>
                cases walks
                rw [List.isEmpty_iff.mp isLast.2]
                exact ⟨0, Nat.zero_le _, .link inside isLink isLast.1⟩
              next enters =>
                obtain ⟨links, few, leads⟩ := follows _ _ _ walks
                refine ⟨links + 1, few, .follow inside isLink ?_ leads⟩
                rw [List.isEmpty_iff, not_and_or] at enters
                exact enters
            next entry notLink found =>
              obtain ⟨links, few, leads⟩ := ih walks
              exact ⟨links, few, .down inside found notLink leads⟩
      · cases walks

theorem leads_of_walk {limit : Nat} {place last : Place Name}
    {segments : List (Segment Name)}
    (walks : walk tree mode limit place segments = some last) :
    ∃ links ≤ limit, Leads tree mode links place segments last := by
  induction limit generalizing place segments last with
  | zero => exact leads_of_walkWith (fun _ _ _ fails => by cases fails) walks
  | succ limit ih =>
      refine leads_of_walkWith (fun _ _ _ follows => ?_) walks
      obtain ⟨links, few, leads⟩ := ih follows
      exact ⟨links, Nat.lt_succ_of_le few, leads⟩

/-- A walk that may follow enough links finds where a path leads. -/
theorem Leads.walk_eq {links limit : Nat} {place last : Place Name}
    {segments : List (Segment Name)}
    (leads : Leads tree mode links place segments last)
    (enough : links ≤ limit) :
    walk tree mode limit place segments = some last := by
  induction leads generalizing limit with
  | done => cases limit <;> rfl
  | here inside _ ih | up inside _ ih =>
      have later := ih enough
      cases limit <;> simpa [walk, walkWith, isDirectory, inside] using later
  | @down links place last name rest entry inside found notLink _ ih =>
      have later := ih enough
      cases entry with
      | link target => exact absurd rfl (notLink target)
      | file | directory =>
          cases limit <;>
            simpa [walk, walkWith, isDirectory, inside, found] using later
  | @follow links place last name rest target inside found enters _ ih =>
      have entered : ¬(mode = .stat ∧ rest = []) := not_and_or.mpr enters
      cases limit with
      | zero => omega
      | succ limit =>
          have later := @ih limit (by omega)
          simp [walk, walkWith, isDirectory, inside, found, entered, later]
  | link inside found isStat =>
      cases limit <;> simp [walk, walkWith, isDirectory, inside, found, isStat]
  | missing inside isMissing isCreate =>
      cases limit <;>
        simp [walk, walkWith, isDirectory, inside, isMissing, isCreate]

/-- A path leads to one place. -/
theorem Leads.unique {links count : Nat} {place first second : Place Name}
    {segments : List (Segment Name)}
    (one : Leads tree mode links place segments first)
    (other : Leads tree mode count place segments second) :
    first = second := by
  induction one generalizing count with
  | done =>
      cases other
      rfl
  | here _ _ ih =>
      cases other with
      | here _ leads => exact ih leads
  | up _ _ ih =>
      cases other with
      | up _ leads => exact ih leads
  | down _ found notLink _ ih =>
      cases other with
      | down _ _ _ leads => exact ih leads
      | follow _ isLink | link _ isLink =>
          cases found.symm.trans isLink
          exact absurd rfl (notLink _)
      | missing _ isMissing => cases found.symm.trans isMissing
  | follow _ found enters _ ih =>
      cases other with
      | down _ other notLink =>
          cases found.symm.trans other
          exact absurd rfl (notLink _)
      | follow _ isLink _ leads =>
          cases found.symm.trans isLink
          exact ih leads
      | link _ _ isStat =>
          rcases enters with notStat | more
          · exact absurd isStat notStat
          · exact absurd rfl more
      | missing _ isMissing => cases found.symm.trans isMissing
  | link _ found isStat =>
      cases other with
      | down _ other notLink leads =>
          cases leads
          rfl
      | follow _ _ enters =>
          rcases enters with notStat | more
          · exact absurd isStat notStat
          · exact absurd rfl more
      | link => rfl
      | missing => rfl
  | missing _ isMissing isCreate =>
      cases other with
      | down _ other => cases isMissing.symm.trans other
      | follow _ isLink => cases isMissing.symm.trans isLink
      | link => rfl
      | missing => rfl

/-- What leads through one path and then another leads through both. -/
theorem Leads.append {links count : Nat} {place middle last : Place Name}
    {first second : List (Segment Name)}
    (start : Leads tree .find links place first middle)
    (rest : Leads tree mode count middle second last) (more : second ≠ []) :
    Leads tree mode (links + count) place (first ++ second) last := by
  induction start with
  | done => simpa using rest
  | here inside _ ih => exact .here inside (ih rest)
  | up inside _ ih => exact .up inside (ih rest)
  | down inside found notLink _ ih => exact .down inside found notLink (ih rest)
  | follow inside found enters _ ih =>
      have goesOn := ih rest
      rw [List.append_assoc] at goesOn
      rw [Nat.add_right_comm]
      exact .follow inside found (.inr (by simp [more])) goesOn
  | link _ _ isStat => cases isStat
  | missing _ _ isCreate => cases isCreate

/-- A path that goes on leads through the place of its first part. -/
theorem Leads.split {links : Nat} {place last : Place Name}
    {first second : List (Segment Name)}
    (leads : Leads tree mode links place (first ++ second) last)
    (more : second ≠ []) :
    ∃ before after middle, before + after = links ∧
      Leads tree .find before place first middle ∧
      Leads tree mode after middle second last := by
  generalize whole : first ++ second = segments at leads
  induction leads generalizing first with
  | done => simp [more] at whole
  | @here links place last rest inside leads ih =>
      cases first with
      | nil =>
          obtain rfl : second = _ := whole
          exact ⟨0, _, place, Nat.zero_add _, .done, .here inside leads⟩
      | cons segment others =>
          obtain ⟨rfl, same⟩ := List.cons_eq_cons.mp whole
          obtain ⟨before, after, middle, total, start, rest⟩ := ih same
          exact ⟨before, after, middle, total, .here inside start, rest⟩
  | @up links place last rest inside leads ih =>
      cases first with
      | nil =>
          obtain rfl : second = _ := whole
          exact ⟨0, _, place, Nat.zero_add _, .done, .up inside leads⟩
      | cons segment others =>
          obtain ⟨rfl, same⟩ := List.cons_eq_cons.mp whole
          obtain ⟨before, after, middle, total, start, rest⟩ := ih same
          exact ⟨before, after, middle, total, .up inside start, rest⟩
  | @down links place last name rest entry inside found notLink leads ih =>
      cases first with
      | nil =>
          obtain rfl : second = _ := whole
          exact ⟨0, _, place, Nat.zero_add _, .done, .down inside found notLink leads⟩
      | cons segment others =>
          obtain ⟨rfl, same⟩ := List.cons_eq_cons.mp whole
          obtain ⟨before, after, middle, total, start, rest⟩ := ih same
          exact ⟨before, after, middle, total, .down inside found notLink start, rest⟩
  | @follow links place last name rest target inside found enters leads ih =>
      cases first with
      | nil =>
          obtain rfl : second = _ := whole
          exact ⟨0, _, place, Nat.zero_add _, .done, .follow inside found enters leads⟩
      | cons segment others =>
          obtain ⟨rfl, same⟩ := List.cons_eq_cons.mp whole
          have both : (target.segments ++ others) ++ second =
              target.segments ++ rest := by
            rw [List.append_assoc]
            exact congrArg (target.segments ++ ·) same
          obtain ⟨before, after, middle, total, start, rest⟩ := ih both
          exact ⟨before + 1, after, middle, by omega,
            .follow inside found (.inl (by decide)) start, rest⟩
  | @link place name target inside found isStat =>
      cases first with
      | nil =>
          obtain rfl : second = _ := whole
          exact ⟨0, _, place, Nat.zero_add _, .done, .link inside found isStat⟩
      | cons segment others =>
          simp [more] at whole
  | @missing place name inside isMissing isCreate =>
      cases first with
      | nil =>
          obtain rfl : second = _ := whole
          exact ⟨0, _, place, Nat.zero_add _, .done, .missing inside isMissing isCreate⟩
      | cons segment others =>
          simp [more] at whole

/-- What is in a directory is in a directory that is there. -/
structure Rooted (tree : Tree Name Content) : Prop where
  root : tree [] = some .directory
  inside : ∀ name place entry, tree (name :: place) = some entry →
    tree place = some .directory

/-- Something is there that is not a link. -/
def Solid (tree : Tree Name Content) (place : Place Name) : Prop :=
  ∃ entry, tree place = some entry ∧ ∀ target, entry ≠ .link target

def pathOf (place : Place Name) : List (Segment Name) :=
  place.reverse.map .name

theorem solid_of_directory {place : Place Name}
    (inside : tree place = some .directory) : Solid tree place :=
  ⟨.directory, inside, fun _ => by simp⟩

theorem Rooted.tail (rooted : Rooted tree) {place : Place Name}
    (inside : tree place = some .directory) :
    tree place.tail = some .directory := by
  cases place with
  | nil => exact rooted.root
  | cons name outer => exact rooted.inside name outer _ inside

/-- A link target starts in a directory. -/
theorem Rooted.start (rooted : Rooted tree) (target : Path Name)
    {place : Place Name} (inside : tree place = some .directory) :
    tree (target.start place) = some .directory := by
  unfold Path.start
  split
  · exact rooted.root
  · exact inside

/-- What is found is there and is not a link. -/
theorem Leads.solid (rooted : Rooted tree) {links : Nat}
    {place last : Place Name} {segments : List (Segment Name)}
    (solid : Solid tree place)
    (leads : Leads tree .find links place segments last) :
    Solid tree last := by
  induction leads with
  | done => exact solid
  | here inside _ ih => exact ih (solid_of_directory inside)
  | up inside _ ih => exact ih (solid_of_directory (rooted.tail inside))
  | down inside found notLink _ ih => exact ih ⟨_, found, notLink⟩
  | follow inside found _ _ ih =>
      exact ih (solid_of_directory (rooted.start _ inside))
  | link _ _ isStat => cases isStat
  | missing _ _ isCreate => cases isCreate

/-- The path of a place that is not a link leads to it. -/
theorem Solid.leads_pathOf (rooted : Rooted tree) {place : Place Name}
    (solid : Solid tree place) : Leads tree mode 0 [] (pathOf place) place := by
  induction place generalizing mode with
  | nil => exact .done
  | cons name outer ih =>
      obtain ⟨entry, found, notLink⟩ := solid
      have inside := rooted.inside name outer entry found
      have path : pathOf (name :: outer) = pathOf outer ++ [.name name] := by
        simp [pathOf]
      rw [path]
      exact (ih (solid_of_directory inside)).append
        (.down inside found notLink .done) (by simp)

/-- A path behind a directory leads where it leads from there. -/
theorem Leads.of_pathOf (rooted : Rooted tree) {links : Nat}
    {place last : Place Name} {segments : List (Segment Name)}
    (solid : Solid tree place)
    (leads : Leads tree mode links [] (pathOf place ++ segments) last)
    (more : segments ≠ []) :
    ∃ count ≤ links, Leads tree mode count place segments last := by
  obtain ⟨before, after, middle, total, start, rest⟩ := leads.split more
  rw [start.unique (solid.leads_pathOf rooted)] at rest
  exact ⟨after, by omega, rest⟩

/-- A tree that has the directories and links of another, and files in the
places of its files. -/
structure Keeps (before after : Tree Name Content) : Prop where
  directory : ∀ place, before place = some .directory →
    after place = some .directory
  link : ∀ place target, before place = some (.link target) →
    after place = some (.link target)
  file : ∀ place content, before place = some (.file content) →
    ∃ content, after place = some (.file content)

/-- A path leads where it led, if what it was to make is there. -/
theorem Leads.kept {after : Tree Name Content} (keeps : Keeps tree after)
    {links : Nat} {place last : Place Name} {segments : List (Segment Name)}
    (leads : Leads tree mode links place segments last)
    (notStat : mode ≠ .stat) (made : mode = .create → Solid after last) :
    Leads after .find links place segments last := by
  induction leads with
  | done => exact .done
  | here inside _ ih => exact .here (keeps.directory _ inside) (ih made)
  | up inside _ ih => exact .up (keeps.directory _ inside) (ih made)
  | @down _ place _ name _ entry inside found notLink _ ih =>
      have isDirectory := keeps.directory _ inside
      cases entry with
      | file =>
          obtain ⟨content, isFile⟩ := keeps.file _ _ found
          exact .down isDirectory isFile (fun _ => by simp) (ih made)
      | directory =>
          exact .down isDirectory (keeps.directory _ found)
            (fun _ => by simp) (ih made)
      | link target => exact absurd rfl (notLink target)
  | follow inside found _ _ ih =>
      exact .follow (keeps.directory _ inside) (keeps.link _ _ found)
        (.inl (by decide)) (ih made)
  | link _ _ isStat => exact absurd isStat notStat
  | missing inside _ isCreate =>
      obtain ⟨entry, found, notLink⟩ := made isCreate
      exact .down (keeps.directory _ inside) found notLink .done

/-- A path that goes on starts in a directory. -/
theorem Leads.inside {links : Nat} {place last : Place Name}
    {segments : List (Segment Name)}
    (leads : Leads tree mode links place segments last)
    (more : segments ≠ []) : tree place = some .directory := by
  cases leads with
  | done => exact absurd rfl more
  | here inside | up inside | down inside | follow inside | link inside
  | missing inside => exact inside

end Walks

end PathWalk
