import PlatoAgent.TextLines

/-!
# The diff that is shown for approval

A file edit is approved by a unified diff with one hunk, which leaves out the
lines that both texts begin and end with.  A diff that is too long is cut and
says so.
-/

namespace PlatoAgent

open TextLines

def diffTruncatedMarker : List Char :=
  "... diff truncated".toList

structure DiffPreview where
  value : List Char
  maxChars : Nat
  chars : Nat
  truncated : Bool

namespace DiffPreview

def new (maxChars : Nat) : DiffPreview :=
  ⟨[], maxChars, 0, false⟩

def markTruncated (preview : DiffPreview) : DiffPreview :=
  if preview.truncated then preview
  else
    let ended :=
      if preview.value.getLast? = some '\n' then preview.value
      else preview.value ++ ['\n']
    { preview with
      value := ended ++ diffTruncatedMarker ++ ['\n']
      truncated := true }

def push (preview : DiffPreview) (content : List Char) : DiffPreview :=
  if preview.truncated then preview
  else
    let remaining := preview.maxChars - preview.chars
    if content.length ≤ remaining then
      { preview with
        value := preview.value ++ content
        chars := preview.chars + content.length }
    else
      markTruncated { preview with
        value := preview.value ++ content.take remaining
        chars := preview.maxChars }

def pushLine (preview : DiffPreview) (mark : Char) (line : List Char) :
    DiffPreview :=
  let pushed := (preview.push [mark]).push line
  if line.getLast? = some '\n' then pushed else pushed.push ['\n']

def finish (preview : DiffPreview) : List Char :=
  preview.value

end DiffPreview

inductive DiffMark where
  | context | minus | plus
  deriving DecidableEq, Repr

def DiffMark.char : DiffMark → Char
  | .context => ' '
  | .minus => '-'
  | .plus => '+'

/-- `common_prefix`. -/
def commonStart (left right : List (List Char)) : Nat :=
  ((left.zip right).takeWhile fun lines => lines.1 == lines.2).length

/-- The loop of `common_suffix`, which has compared some lines. -/
def commonSuffixFrom (left right : List (List Char)) (count : Nat) : Nat :=
  if count < min left.length right.length ∧
      left[left.length - count - 1]? = right[right.length - count - 1]? then
    commonSuffixFrom left right (count + 1)
  else count
termination_by min left.length right.length - count
decreasing_by omega

def commonSuffix (left right : List (List Char)) : Nat :=
  commonSuffixFrom left right 0

/-- The lines of `push_changed_lines`. -/
def changedLines : List (List Char) → List (List Char) →
    List (DiffMark × List Char)
  | currentLine :: current, proposedLine :: proposed =>
      if currentLine = proposedLine then
        (.context, currentLine) :: changedLines current proposed
      else
        (.minus, currentLine) :: (.plus, proposedLine) ::
          changedLines current proposed
  | currentLine :: current, [] =>
      (.minus, currentLine) :: changedLines current []
  | [], proposedLine :: proposed =>
      (.plus, proposedLine) :: changedLines [] proposed
  | [], [] => []

def hunkStart (start count : Nat) : Nat :=
  if count = 0 then start else start + 1

def pushLines (preview : DiffPreview) (lines : List (DiffMark × List Char)) :
    DiffPreview :=
  lines.foldl (fun preview line => preview.pushLine line.1.char line.2) preview

def diffContext : Nat :=
  3

/-- The hunk header. -/
def hunkHeader (currentStart currentCount proposedStart proposedCount : Nat) :
    List Char :=
  s!"@@ -{currentStart},{currentCount} +{proposedStart},{proposedCount} @@\n".toList

def unifiedDiff (path current proposed : List Char) (maxChars : Nat) :
    List Char :=
  if current = proposed then []
  else
    let currentLines := splitInclusive current
    let proposedLines := splitInclusive proposed
    let start := commonStart currentLines proposedLines
    let suffix := commonSuffix (currentLines.drop start)
      (proposedLines.drop start)
    let currentChangedEnd := currentLines.length - suffix
    let proposedChangedEnd := proposedLines.length - suffix
    let currentStart := start - diffContext
    let proposedStart := start - diffContext
    let currentEnd := min currentLines.length (currentChangedEnd + diffContext)
    let proposedEnd :=
      min proposedLines.length (proposedChangedEnd + diffContext)
    let currentCount := currentEnd - currentStart
    let proposedCount := proposedEnd - proposedStart
    let diff := DiffPreview.new maxChars
    let diff := diff.push ("--- a/".toList ++ path ++ ['\n'])
    let diff := diff.push ("+++ b/".toList ++ path ++ ['\n'])
    let diff := diff.push (hunkHeader (hunkStart currentStart currentCount)
      currentCount (hunkStart proposedStart proposedCount) proposedCount)
    let diff := pushLines diff
      (((currentLines.take start).drop currentStart).map (.context, ·))
    let diff := pushLines diff (changedLines
      ((currentLines.take currentChangedEnd).drop start)
      ((proposedLines.take proposedChangedEnd).drop start))
    let diff := pushLines diff
      (((currentLines.take currentEnd).drop currentChangedEnd).map
        (.context, ·))
    diff.finish

/-- A text of at most so many characters, or its first characters and the
marker. -/
def truncateDiff (maxChars : Nat) (text : List Char) : List Char :=
  if text.length ≤ maxChars then text
  else
    let shown := text.take maxChars
    (if shown.getLast? = some '\n' then shown else shown ++ ['\n']) ++
      diffTruncatedMarker ++ ['\n']

namespace DiffPreview

/-- The preview of a text that was pushed. -/
structure Shows (preview : DiffPreview) (most : Nat) (text : List Char) :
    Prop where
  value : preview.value = truncateDiff most text
  maxChars : preview.maxChars = most
  chars : preview.chars = min text.length most
  truncated : preview.truncated = decide (most < text.length)

variable {preview : DiffPreview} {maxChars : Nat} {text : List Char}

theorem shows_new (maxChars : Nat) : (new maxChars).Shows maxChars [] :=
  ⟨(if_pos (Nat.zero_le _)).symm, rfl, (Nat.zero_min _).symm, rfl⟩

theorem Shows.push (isShown : preview.Shows maxChars text)
    (content : List Char) :
    (preview.push content).Shows maxChars (text ++ content) := by
  obtain ⟨value, most, chars, truncated⟩ := isShown
  have length : (text ++ content).length = text.length + content.length :=
    List.length_append
  by_cases long : maxChars < text.length
  · -- Nothing is pushed any more.
    have same : preview.push content = preview :=
      if_pos (truncated.trans (decide_eq_true long))
    have cut : (text ++ content).take maxChars = text.take maxChars :=
      List.take_append_of_le_length (Nat.le_of_lt long)
    rw [same]
    refine ⟨?_, most, by omega, ?_⟩
    · rw [value, truncateDiff, truncateDiff, if_neg (by omega),
        if_neg (by omega), cut]
    · rw [truncated, decide_eq_true long, decide_eq_true (by omega)]
  · have untruncated : preview.truncated = false :=
      truncated.trans (decide_eq_false long)
    have whole : preview.value = text :=
      value.trans (if_pos (Nat.not_lt.mp long))
    have count : preview.chars = text.length := by omega
    unfold DiffPreview.push
    rw [untruncated, if_neg Bool.false_ne_true]
    dsimp only
    rw [most, count, whole]
    split
    next fits =>
      have room : (text ++ content).length ≤ maxChars := by omega
      refine ⟨(if_pos room).symm, rfl, ?_,
        (decide_eq_false (Nat.not_lt.mpr room)).symm⟩
      dsimp only
      omega
    next tooLong =>
      have isOver : maxChars < (text ++ content).length := by omega
      have cut : (text ++ content).take maxChars =
          text ++ content.take (maxChars - text.length) :=
        List.take_append.trans (by
          rw [List.take_of_length_le (Nat.not_lt.mp long)])
      unfold markTruncated
      dsimp only
      rw [if_neg Bool.false_ne_true]
      refine ⟨?_, rfl, ?_, (decide_eq_true isOver).symm⟩
      · rw [truncateDiff, if_neg (Nat.not_le.mpr isOver), cut]
      · dsimp only
        omega

theorem Shows.pushLine (isShown : preview.Shows maxChars text) (mark : Char)
    (line : List Char) :
    (preview.pushLine mark line).Shows maxChars
      (text ++ mark :: terminated line) := by
  have pushed := (isShown.push [mark]).push line
  rw [List.append_assoc, List.singleton_append] at pushed
  unfold DiffPreview.pushLine terminated
  dsimp only
  split
  · exact pushed
  · have ended := pushed.push ['\n']
    rw [List.append_assoc, List.cons_append] at ended
    exact ended

end DiffPreview

theorem shows_pushLines {preview : DiffPreview} {maxChars : Nat}
    {text : List Char} (isShown : preview.Shows maxChars text)
    (lines : List (DiffMark × List Char)) :
    (pushLines preview lines).Shows maxChars
      (text ++ lines.flatMap fun line => line.1.char :: terminated line.2) := by
  induction lines generalizing preview text with
  | nil =>
      rw [List.flatMap_nil, List.append_nil]
      exact isShown
  | cons line rest ih =>
      rw [List.flatMap_cons, ← List.append_assoc]
      exact ih (isShown.pushLine line.1.char line.2)

theorem exists_commonStart (left right : List (List Char)) :
    ∃ common leftRest rightRest, left = common ++ leftRest ∧
      right = common ++ rightRest ∧
      common.length = commonStart left right := by
  induction left generalizing right with
  | nil => exact ⟨[], [], right, rfl, rfl, rfl⟩
  | cons first leftRest ih =>
      cases right with
      | nil => exact ⟨[], first :: leftRest, [], rfl, rfl, rfl⟩
      | cons second rightRest =>
          unfold commonStart
          rw [List.zip_cons_cons, List.takeWhile_cons]
          by_cases same : first = second
          · obtain ⟨common, leftEnd, rightEnd, rfl, rfl, length⟩ := ih rightRest
            refine ⟨first :: common, leftEnd, rightEnd, rfl, by rw [same]; rfl,
              ?_⟩
            rw [if_pos (beq_iff_eq.mpr same), List.length_cons,
              List.length_cons, length]
            rfl
          · refine ⟨[], first :: leftRest, second :: rightRest, rfl, rfl, ?_⟩
            rw [if_neg (mt beq_iff_eq.mp same)]
            rfl

/-- The line before the common ones. -/
theorem getElem?_beforeCommon {lines front common : List (List Char)}
    {line : List Char} {count : Nat} (isLines : lines = front ++ [line] ++ common)
    (length : common.length = count) :
    lines[lines.length - count - 1]? = some line := by
  have place : lines.length - count - 1 = front.length := by
    rw [isLines, List.length_append, List.length_append, List.length_singleton]
    omega
  rw [place, isLines, List.append_assoc,
    List.getElem?_append_right (Nat.le_refl _), Nat.sub_self]
  rfl

theorem exists_commonSuffixFrom (left right : List (List Char)) (count : Nat)
    (compared : ∃ leftRest rightRest common, left = leftRest ++ common ∧
      right = rightRest ++ common ∧ common.length = count) :
    ∃ leftRest rightRest common, left = leftRest ++ common ∧
      right = rightRest ++ common ∧
      common.length = commonSuffixFrom left right count := by
  fun_induction commonSuffixFrom left right count with
  | case1 count same ih =>
      obtain ⟨short, equal⟩ := same
      obtain ⟨leftRest, rightRest, common, isLeft, isRight, length⟩ := compared
      apply ih
      have leftLength := congrArg List.length isLeft
      have rightLength := congrArg List.length isRight
      rw [List.length_append] at leftLength rightLength
      rcases List.eq_nil_or_concat' leftRest with rfl | ⟨leftFront, leftLast,
        rfl⟩
      · rw [List.length_nil] at leftLength
        omega
      rcases List.eq_nil_or_concat' rightRest with rfl | ⟨rightFront, rightLast,
        rfl⟩
      · rw [List.length_nil] at rightLength
        omega
      have leftEnd := getElem?_beforeCommon isLeft length
      have rightEnd := getElem?_beforeCommon isRight length
      obtain rfl : leftLast = rightLast :=
        Option.some.inj (leftEnd.symm.trans (equal.trans rightEnd))
      refine ⟨leftFront, rightFront, leftLast :: common, ?_, ?_, ?_⟩
      · rw [isLeft, List.append_assoc]
        rfl
      · rw [isRight, List.append_assoc]
        rfl
      · rw [List.length_cons, length]
  | case2 => exact compared

theorem exists_commonSuffix (left right : List (List Char)) :
    ∃ leftRest rightRest common, left = leftRest ++ common ∧
      right = rightRest ++ common ∧
      common.length = commonSuffix left right :=
  exists_commonSuffixFrom left right 0
    ⟨left, right, [], (List.append_nil _).symm, (List.append_nil _).symm, rfl⟩

/-- The lines that do not have a mark. -/
def linesWithout (mark : DiffMark) (lines : List (DiffMark × List Char)) :
    List (List Char) :=
  (lines.filter fun line => line.1 ≠ mark).map fun line => line.2

/-- What a diff says: the places of its lines in both texts, and the lines with
their newlines. -/
structure DiffHunk where
  currentStart : Nat
  currentCount : Nat
  proposedStart : Nat
  proposedCount : Nat
  lines : List (DiffMark × List Char)

namespace DiffHunk

/-- The whole diff of a file. -/
def text (path : List Char) (hunk : DiffHunk) : List Char :=
  "--- a/".toList ++ path ++ ['\n'] ++ ("+++ b/".toList ++ path ++ ['\n']) ++
    hunkHeader hunk.currentStart hunk.currentCount hunk.proposedStart
      hunk.proposedCount ++
    hunk.lines.flatMap fun line => line.1.char :: line.2

/-- The context and the minus lines. -/
def oldLines (hunk : DiffHunk) : List (List Char) :=
  linesWithout .plus hunk.lines

/-- The context and the plus lines. -/
def newLines (hunk : DiffHunk) : List (List Char) :=
  linesWithout .minus hunk.lines

/-- The text with the old lines of the hunk replaced by the new ones, when it
has the old ones in their place. -/
def apply (hunk : DiffHunk) (current : List Char) : Option (List Char) :=
  let lines := splitInclusive current
  let start :=
    if hunk.currentCount = 0 then hunk.currentStart else hunk.currentStart - 1
  let rest := lines.drop start
  if (rest.take hunk.currentCount).map terminated = hunk.oldLines then
    some ((lines.take start).flatten ++ hunk.newLines.flatten ++
      (rest.drop hunk.currentCount).flatten)
  else none

/-- The hunk has some lines of a text: they are as many as it says, where it
says. -/
def Spells (text : List Char) (start count : Nat)
    (lines : List (List Char)) : Prop :=
  ∃ before middle after, splitInclusive text = before ++ middle ++ after ∧
    middle.map terminated = lines ∧ count = middle.length ∧
    start = hunkStart before.length middle.length

/-- The hunk says what is changed. -/
structure Describes (hunk : DiffHunk) (current proposed : List Char) :
    Prop where
  isLine : ∀ line ∈ hunk.lines, IsWhole line.2
  old : Spells current hunk.currentStart hunk.currentCount hunk.oldLines
  new : Spells proposed hunk.proposedStart hunk.proposedCount hunk.newLines
  applied : ∃ result, hunk.apply current = some result ∧
    (result = proposed ∨
      proposed.getLast? ≠ some '\n' ∧ result = proposed ++ ['\n'])

end DiffHunk

section LinesWithout

variable {mark lineMark : DiffMark} {body : List Char}
variable {lines later : List (DiffMark × List Char)}

theorem linesWithout_cons_self :
    linesWithout mark ((mark, body) :: lines) = linesWithout mark lines := by
  unfold linesWithout
  rw [List.filter_cons_of_neg (by simp)]

theorem linesWithout_cons_of_ne (different : lineMark ≠ mark) :
    linesWithout mark ((lineMark, body) :: lines) =
      body :: linesWithout mark lines := by
  unfold linesWithout
  rw [List.filter_cons_of_pos (by simp [different]), List.map_cons]

theorem linesWithout_append :
    linesWithout mark (lines ++ later) =
      linesWithout mark lines ++ linesWithout mark later := by
  unfold linesWithout
  rw [List.filter_append, List.map_append]

/-- The lines are kept when they are changed one by one. -/
theorem linesWithout_map (change : List Char → List Char) :
    linesWithout mark (lines.map fun line => (line.1, change line.2)) =
      (linesWithout mark lines).map change := by
  induction lines with
  | nil => rfl
  | cons line rest ih =>
      obtain ⟨lineMark, body⟩ := line
      rw [List.map_cons]
      by_cases isMark : lineMark = mark
      · rw [isMark, linesWithout_cons_self, linesWithout_cons_self, ih]
      · rw [linesWithout_cons_of_ne isMark, linesWithout_cons_of_ne isMark, ih,
          List.map_cons]

theorem linesWithout_context (isChange : DiffMark.context ≠ mark)
    (lines : List (List Char)) :
    linesWithout mark (lines.map (.context, ·)) = lines := by
  induction lines with
  | nil => rfl
  | cons line rest ih =>
      rw [List.map_cons, linesWithout_cons_of_ne isChange, ih]

end LinesWithout

theorem oldLines_changedLines (current proposed : List (List Char)) :
    linesWithout .plus (changedLines current proposed) = current := by
  fun_induction changedLines current proposed with
  | case1 current proposed line ih =>
      rw [linesWithout_cons_of_ne (by decide), ih]
  | case2 currentLine current proposedLine proposed different ih =>
      rw [linesWithout_cons_of_ne (by decide), linesWithout_cons_self, ih]
  | case3 currentLine current ih =>
      rw [linesWithout_cons_of_ne (by decide), ih]
  | case4 proposedLine proposed ih =>
      rw [linesWithout_cons_self, ih]
  | case5 => rfl

theorem newLines_changedLines (current proposed : List (List Char)) :
    linesWithout .minus (changedLines current proposed) = proposed := by
  fun_induction changedLines current proposed with
  | case1 current proposed line ih =>
      rw [linesWithout_cons_of_ne (by decide), ih]
  | case2 currentLine current proposedLine proposed different ih =>
      rw [linesWithout_cons_self, linesWithout_cons_of_ne (by decide), ih]
  | case3 currentLine current ih =>
      rw [linesWithout_cons_self, ih]
  | case4 proposedLine proposed ih =>
      rw [linesWithout_cons_of_ne (by decide), ih]
  | case5 => rfl

/-- A changed line is a line of one of the texts. -/
theorem mem_of_mem_changedLines {current proposed : List (List Char)}
    {line : DiffMark × List Char}
    (member : line ∈ changedLines current proposed) :
    line.2 ∈ current ∨ line.2 ∈ proposed := by
  cases isPlus : decide (line.1 = .plus) with
  | false =>
      left
      rw [← oldLines_changedLines current proposed]
      exact List.mem_map.mpr ⟨line, List.mem_filter.mpr ⟨member, by
        simpa using isPlus⟩, rfl⟩
  | true =>
      right
      rw [← newLines_changedLines current proposed]
      exact List.mem_map.mpr ⟨line, List.mem_filter.mpr ⟨member, by
        simp [of_decide_eq_true isPlus]⟩, rfl⟩

/-- The lines of two texts: those around the change, as many as the hunk shows,
and those outside of the hunk. -/
structure HunkParts where
  before : List (List Char)
  contextBefore : List (List Char)
  removed : List (List Char)
  added : List (List Char)
  contextAfter : List (List Char)
  after : List (List Char)

namespace HunkParts

def current (parts : HunkParts) : List (List Char) :=
  parts.contextBefore ++ parts.removed ++ parts.contextAfter

def proposed (parts : HunkParts) : List (List Char) :=
  parts.contextBefore ++ parts.added ++ parts.contextAfter

/-- The lines of the hunk as they are in the texts. -/
def marked (parts : HunkParts) : List (DiffMark × List Char) :=
  parts.contextBefore.map (.context, ·) ++
    changedLines parts.removed parts.added ++
    parts.contextAfter.map (.context, ·)

def hunk (parts : HunkParts) : DiffHunk where
  currentStart := hunkStart parts.before.length parts.current.length
  currentCount := parts.current.length
  proposedStart := hunkStart parts.before.length parts.proposed.length
  proposedCount := parts.proposed.length
  lines := parts.marked.map fun line => (line.1, terminated line.2)

variable {parts : HunkParts}

theorem oldLines_hunk (parts : HunkParts) :
    parts.hunk.oldLines = parts.current.map terminated := by
  unfold DiffHunk.oldLines hunk marked
  dsimp only
  rw [linesWithout_map, linesWithout_append, linesWithout_append,
    linesWithout_context (by decide), linesWithout_context (by decide),
    oldLines_changedLines]
  rfl

theorem newLines_hunk (parts : HunkParts) :
    parts.hunk.newLines = parts.proposed.map terminated := by
  unfold DiffHunk.newLines hunk marked
  dsimp only
  rw [linesWithout_map, linesWithout_append, linesWithout_append,
    linesWithout_context (by decide), linesWithout_context (by decide),
    newLines_changedLines]
  rfl

/-- The lines of a text around those that are replaced. -/
theorem flatten_replaced {before middle after : List (List Char)}
    (areLines : AreLines (before ++ middle ++ after)) :
    before.flatten ++ (middle.map terminated).flatten ++ after.flatten =
        (before ++ middle ++ after).flatten ∨
      (before ++ middle ++ after).flatten.getLast? ≠ some '\n' ∧
        before.flatten ++ (middle.map terminated).flatten ++ after.flatten =
          (before ++ middle ++ after).flatten ++ ['\n'] := by
  by_cases isInside : after = []
  · subst isInside
    rw [List.append_nil] at areLines ⊢
    rw [List.flatten_nil, List.append_nil]
    by_cases isKept : middle = []
    · subst isKept
      rw [List.append_nil]
      exact .inl (List.append_nil _)
    · have whole := areLines.terminated_eq_of_append isKept
      have replaced := areLines.flatten_terminated
      rw [List.map_append, whole, List.flatten_append] at replaced
      exact replaced
  · have whole := areLines.terminated_eq_of_append isInside
    rw [List.map_append] at whole
    have same : middle.map terminated = middle :=
      (List.append_inj whole (List.length_map ..)).2
    rw [same, List.flatten_append, List.flatten_append]
    exact .inl rfl

theorem mem_of_mem_marked {line : DiffMark × List Char}
    (member : line ∈ parts.marked) :
    line.2 ∈ parts.current ∨ line.2 ∈ parts.proposed := by
  unfold marked at member
  unfold current proposed
  rcases List.mem_append.mp member with front | back
  · rcases List.mem_append.mp front with before | changed
    · obtain ⟨body, isBody, rfl⟩ := List.mem_map.mp before
      left
      simp [isBody]
    · rcases mem_of_mem_changedLines changed with removed | added
      · left
        simp [removed]
      · right
        simp [added]
  · obtain ⟨body, isBody, rfl⟩ := List.mem_map.mp back
    left
    simp [isBody]

/-- The hunk of the parts of two texts says what is changed. -/
theorem describes_hunk {currentText proposedText : List Char}
    (isCurrent : splitInclusive currentText =
      parts.before ++ parts.current ++ parts.after)
    (isProposed : splitInclusive proposedText =
      parts.before ++ parts.proposed ++ parts.after) :
    parts.hunk.Describes currentText proposedText where
  isLine := by
    intro line member
    obtain ⟨original, isOriginal, rfl⟩ := List.mem_map.mp member
    rcases mem_of_mem_marked isOriginal with inCurrent | inProposed
    · exact (areLines_splitInclusive currentText).isWhole_terminated _
        (by rw [isCurrent]; simp [inCurrent])
    · exact (areLines_splitInclusive proposedText).isWhole_terminated _
        (by rw [isProposed]; simp [inProposed])
  old := ⟨parts.before, parts.current, parts.after, isCurrent,
    (oldLines_hunk parts).symm, rfl, rfl⟩
  new := ⟨parts.before, parts.proposed, parts.after, isProposed,
    (newLines_hunk parts).symm, rfl, rfl⟩
  applied := by
    have start : (if parts.hunk.currentCount = 0 then parts.hunk.currentStart
        else parts.hunk.currentStart - 1) = parts.before.length := by
      unfold hunk hunkStart
      dsimp only
      split <;> rfl
    have count : parts.hunk.currentCount = parts.current.length := rfl
    have replaced := flatten_replaced (isProposed ▸
      areLines_splitInclusive proposedText)
    rw [← isProposed, flatten_splitInclusive] at replaced
    refine ⟨_, ?_, replaced⟩
    unfold DiffHunk.apply
    dsimp only
    rw [start, count, isCurrent, List.append_assoc, List.drop_left,
      List.take_left, List.take_left, List.drop_left, oldLines_hunk,
      newLines_hunk, if_pos rfl]

end HunkParts

/-- The preview of the parts of a hunk. -/
theorem shows_hunk (parts : HunkParts) (path : List Char) (maxChars : Nat) :
    (pushLines (pushLines (pushLines ((((DiffPreview.new maxChars).push
            ("--- a/".toList ++ path ++ ['\n'])).push
            ("+++ b/".toList ++ path ++ ['\n'])).push
            (hunkHeader parts.hunk.currentStart parts.hunk.currentCount
              parts.hunk.proposedStart parts.hunk.proposedCount))
          (parts.contextBefore.map (.context, ·)))
          (changedLines parts.removed parts.added))
        (parts.contextAfter.map (.context, ·))).finish =
      truncateDiff maxChars (parts.hunk.text path) := by
  have header := (((DiffPreview.shows_new maxChars).push
    ("--- a/".toList ++ path ++ ['\n'])).push
    ("+++ b/".toList ++ path ++ ['\n'])).push
    (hunkHeader parts.hunk.currentStart parts.hunk.currentCount
      parts.hunk.proposedStart parts.hunk.proposedCount)
  have shown := shows_pushLines (shows_pushLines (shows_pushLines header
    (parts.contextBefore.map (.context, ·)))
    (changedLines parts.removed parts.added))
    (parts.contextAfter.map (.context, ·))
  have lines : parts.hunk.lines.flatMap (fun line => line.1.char :: line.2) =
      parts.marked.flatMap fun line => line.1.char :: terminated line.2 :=
    List.flatMap_map ..
  unfold DiffHunk.text
  rw [lines]
  unfold HunkParts.marked
  rw [List.flatMap_append, List.flatMap_append, ← List.append_assoc,
    ← List.append_assoc]
  exact shown.value

/-- The parts of two texts that `unified_diff` finds. -/
theorem exists_hunkParts {current proposed : List Char}
    (different : current ≠ proposed) :
    ∃ parts : HunkParts,
      splitInclusive current = parts.before ++ parts.current ++ parts.after ∧
      splitInclusive proposed = parts.before ++ parts.proposed ++ parts.after ∧
      ∀ path maxChars, unifiedDiff path current proposed maxChars =
        truncateDiff maxChars (parts.hunk.text path) := by
  obtain ⟨start, currentRest, proposedRest, isCurrent, isProposed, startLength⟩ :=
    exists_commonStart (splitInclusive current) (splitInclusive proposed)
  obtain ⟨removed, added, ending, rfl, rfl, endLength⟩ :=
    exists_commonSuffix currentRest proposedRest
  let parts : HunkParts :=
    { before := start.take (start.length - diffContext)
      contextBefore := start.drop (start.length - diffContext)
      removed := removed
      added := added
      contextAfter := ending.take diffContext
      after := ending.drop diffContext }
  have around (middle : List (List Char)) :
      start ++ (middle ++ ending) =
        start.take (start.length - diffContext) ++
          (start.drop (start.length - diffContext) ++ middle ++
            ending.take diffContext) ++ ending.drop diffContext := by
    simp only [List.append_assoc, List.take_append_drop]
    rw [← List.append_assoc (List.take _ _), List.take_append_drop]
  -- What the places in a text are, whatever its changed lines.
  have counted (middle : List (List Char)) :
      min (start ++ (middle ++ ending)).length
          ((start ++ (middle ++ ending)).length - ending.length + diffContext) -
        (start.length - diffContext) =
      (start.drop (start.length - diffContext) ++ middle ++
        ending.take diffContext).length := by
    simp only [List.length_append, List.length_drop, List.length_take]
    omega
  have before : (start.take (start.length - diffContext)).length =
      start.length - diffContext := by
    rw [List.length_take]
    omega
  have changed (middle : List (List Char)) :
      ((start ++ (middle ++ ending)).take
          ((start ++ (middle ++ ending)).length - ending.length)).drop
        start.length = middle := by
    rw [← List.append_assoc, List.length_append, Nat.add_sub_cancel,
      List.take_left, List.drop_left]
  have kept : ((start ++ (removed ++ ending)).take
      (min (start ++ (removed ++ ending)).length
        ((start ++ (removed ++ ending)).length - ending.length +
          diffContext))).drop
        ((start ++ (removed ++ ending)).length - ending.length) =
      ending.take diffContext := by
    rw [← List.append_assoc, List.length_append, Nat.add_sub_cancel,
      List.drop_take, List.drop_left, List.take_eq_take_iff]
    omega
  refine ⟨parts, ?_, ?_, fun path maxChars => ?_⟩
  · rw [isCurrent]
    exact around removed
  · rw [isProposed]
    exact around added
  · rw [← shows_hunk]
    unfold unifiedDiff
    rw [if_neg different]
    dsimp only
    rw [← startLength, isCurrent, isProposed, List.drop_left, List.drop_left,
      ← endLength, List.take_left, changed, changed, kept, counted, counted]
    have currentStart : parts.hunk.currentStart = hunkStart _ _ :=
      congrArg (hunkStart · parts.current.length) before
    have proposedStart : parts.hunk.proposedStart = hunkStart _ _ :=
      congrArg (hunkStart · parts.proposed.length) before
    rw [currentStart, proposedStart]
    rfl

theorem truncateDiff_ne_nil {maxChars : Nat} {text : List Char}
    (notEmpty : text ≠ []) : truncateDiff maxChars text ≠ [] := by
  unfold truncateDiff
  split
  · exact notEmpty
  · exact List.append_ne_nil_of_right_ne_nil _ (List.cons_ne_nil _ _)

theorem DiffHunk.text_ne_nil (hunk : DiffHunk) {path : List Char} :
    hunk.text path ≠ [] := by
  have first : "--- a/".toList ≠ [] := by decide
  unfold DiffHunk.text
  simp only [ne_eq, List.append_eq_nil_iff, first, false_and, not_false_eq_true]

/-- The diff is empty for equal texts alone; it shows, up to its limit, a hunk
that says what is changed. -/
theorem unifiedDiff_faithful (path current proposed : List Char) :
    (∀ maxChars, unifiedDiff path current proposed maxChars = [] ↔
      current = proposed) ∧
    (current ≠ proposed → ∃ hunk : DiffHunk,
      hunk.Describes current proposed ∧
      ∀ maxChars, unifiedDiff path current proposed maxChars =
        truncateDiff maxChars (hunk.text path)) := by
  have shows (different : current ≠ proposed) : ∃ hunk : DiffHunk,
      hunk.Describes current proposed ∧
      ∀ maxChars, unifiedDiff path current proposed maxChars =
        truncateDiff maxChars (hunk.text path) := by
    obtain ⟨parts, isCurrent, isProposed, shown⟩ :=
      exists_hunkParts different
    exact ⟨parts.hunk, parts.describes_hunk isCurrent isProposed, shown path⟩
  refine ⟨fun maxChars => ⟨?_, fun same => if_pos same⟩, shows⟩
  intro isEmpty
  by_contra different
  obtain ⟨hunk, _, shown⟩ := shows different
  exact truncateDiff_ne_nil hunk.text_ne_nil ((shown maxChars).symm.trans isEmpty)

end PlatoAgent
