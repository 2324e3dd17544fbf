import PlatoAgent.CoreEvents

/-!
# The stream of an answer on the terminal

The deltas of an answer are shown line by line, some at a time.  Lines that may
be a table wait until the table is known to be over, and a tail that stays
quiet is shown without its newline.  The buffer keeps its order whatever the
fragments and the instants are, and its deadlines empty its queue.
-/

namespace PlatoAgent

namespace Streaming

/-- `str::trim_end_matches`. -/
def trimEndMatches (test : Char → Bool) (text : List Char) : List Char :=
  text.rdropWhile test

def trim (text : List Char) : List Char :=
  trimEndMatches isWhitespace (text.dropWhile isWhitespace)

/-- `strip_prefix('|')`, or the text itself. -/
def stripFirstBar : List Char → List Char
  | '|' :: rest => rest
  | text => text

/-- `strip_suffix('|')`, or the text itself. -/
def stripLastBar (text : List Char) : List Char :=
  if text.getLast? = some '|' then text.dropLast else text

def tableCells (line : List Char) : Option (List (List Char)) :=
  let line := trim (trimEndMatches (fun letter => letter == '\r' ||
    letter == '\n') line)
  if line.isEmpty || !line.contains '|' then none
  else some ((stripLastBar (stripFirstBar line)).splitOn '|')

def isTableRow (line : List Char) : Bool :=
  (tableCells line).any fun cells => 2 ≤ cells.length

def isTableDelimiter (line : List Char) : Bool :=
  (tableCells line).any fun cells =>
    2 ≤ cells.length && cells.all fun cell =>
      let marker := trimEndMatches (· == ':') ((trim cell).dropWhile (· == ':'))
      3 ≤ marker.length && marker.all (· == '-')

/-- Nanoseconds; durations too. -/
abbrev Instant := Nat

def milliseconds (count : Nat) : Nat :=
  count * 1000000

def streamQuietFlush : Nat := milliseconds 80

structure StreamChunk where
  text : List Char
  offset : Option Nat
  arrivedAt : Instant
  deriving DecidableEq, Repr

/-- A table that waits has a header. -/
inductive TableHoldback where
  | none
  | candidate (header : StreamChunk)
  | table (header : StreamChunk) (rows : List StreamChunk)
  deriving DecidableEq, Repr

structure StreamDrain where
  text : List Char
  offset : Option Nat
  deriving DecidableEq, Repr

/-- The buffer without the run and the place in the transcript that its text is
for. -/
structure StreamingBuffer where
  source : List Char
  pending : List Char
  pendingOffset : Option Nat
  lastOffset : Option Nat
  lastArrival : Option Instant
  queued : List StreamChunk
  tableHoldback : TableHoldback
  nextDrainAt : Option Instant
  deriving DecidableEq, Repr

/-- The chunks of a table as one. -/
def combineChunks (header : StreamChunk) (rows : List StreamChunk) :
    StreamChunk :=
  let last := rows.getLastD header
  { text := (header :: rows).flatMap StreamChunk.text
    offset := last.offset
    arrivedAt := last.arrivedAt }

/-- The delay of the next drain and the number of chunks it takes. -/
def drainPlan (pressure : Nat) : Nat × Nat :=
  if pressure = 0 then (0, 0)
  else if pressure ≤ 3 then (milliseconds 40, 1)
  else if pressure ≤ 15 then (milliseconds 24, 2)
  else if pressure ≤ 63 then (milliseconds 12, 4)
  else (milliseconds 8, 8)

/-- The lines of a text that are complete, and its tail. -/
def completeLines : List Char → List (List Char) × List Char
  | [] => ([], [])
  | letter :: rest =>
      if letter = '\n' then
        ([letter] :: (completeLines rest).1, (completeLines rest).2)
      else
        match (completeLines rest).1 with
        | [] => ([], letter :: (completeLines rest).2)
        | line :: lines =>
            ((letter :: line) :: lines, (completeLines rest).2)

namespace StreamingBuffer

/-- `StreamingBuffer::default`. -/
def empty : StreamingBuffer where
  source := []
  pending := []
  pendingOffset := none
  lastOffset := none
  lastArrival := none
  queued := []
  tableHoldback := .none
  nextDrainAt := none

def queue (buffer : StreamingBuffer) (chunk : StreamChunk) : StreamingBuffer :=
  let queued := buffer.queued ++ [chunk]
  let deadline := chunk.arrivedAt + (drainPlan queued.length).1
  { buffer with
    queued := queued
    nextDrainAt := some ((buffer.nextDrainAt.map (min · deadline)).getD
      deadline) }

/-- `collect_line` with nothing held back. -/
def collectFresh (buffer : StreamingBuffer) (line : StreamChunk) :
    StreamingBuffer :=
  if isTableRow line.text then
    { buffer with tableHoldback := .candidate line }
  else
    buffer.queue line

def collectLine (buffer : StreamingBuffer) (line : StreamChunk) :
    StreamingBuffer :=
  let taken := { buffer with tableHoldback := .none }
  match buffer.tableHoldback with
  | .none => taken.collectFresh line
  | .candidate header =>
      if isTableDelimiter line.text then
        { taken with tableHoldback := .table header [line] }
      else
        (taken.queue header).collectFresh line
  | .table header rows =>
      if isTableRow line.text then
        { taken with tableHoldback := .table header (rows ++ [line]) }
      else
        (taken.queue (combineChunks header rows)).collectFresh line

/-- The lines are collected with what is left of `pending` behind them;
`collect_line` does not look at it. -/
def push (buffer : StreamingBuffer) (offset : Option Nat) (text : List Char)
    (arrivedAt : Instant) : StreamingBuffer :=
  let pendingOffset := offset.or buffer.pendingOffset
  let split := completeLines (buffer.pending ++ text)
  let arrived := { buffer with
    source := buffer.source ++ text
    pending := split.2
    pendingOffset := pendingOffset
    lastOffset := offset.or buffer.lastOffset
    lastArrival := some arrivedAt }
  let collected := split.1.foldl (fun buffer line =>
    buffer.collectLine ⟨line, pendingOffset, arrivedAt⟩) arrived
  if split.2.isEmpty then { collected with pendingOffset := none }
  else collected

/-- The tail may be shown without its newline. -/
def isPlainTail (buffer : StreamingBuffer) : Bool :=
  !buffer.pending.isEmpty && buffer.tableHoldback == .none &&
    !isTableRow buffer.pending

/-- The deadline of a quiet flush. -/
def quietDeadline (buffer : StreamingBuffer) : Option Instant :=
  buffer.lastArrival.bind fun arrived =>
    if buffer.isPlainTail then some (arrived + streamQuietFlush) else none

def deadline (buffer : StreamingBuffer) : Option Instant :=
  match buffer.nextDrainAt, buffer.quietDeadline with
  | some left, some right => some (min left right)
  | some deadline, none | none, some deadline => some deadline
  | none, none => none

/-- The quiet flush of `drain_at`. -/
def flushQuiet (buffer : StreamingBuffer) (now : Instant) : StreamingBuffer :=
  match buffer.lastArrival with
  | none => buffer
  | some arrived =>
      if streamQuietFlush ≤ now - arrived ∧ buffer.isPlainTail = true then
        let flushed := { buffer with pending := [], pendingOffset := none }
        { flushed.queue ⟨buffer.pending, buffer.pendingOffset, arrived⟩ with
          nextDrainAt := some now }
      else buffer

def drainAt (buffer : StreamingBuffer) (now : Instant) :
    Option StreamDrain × StreamingBuffer :=
  let flushed := buffer.flushQuiet now
  if flushed.nextDrainAt.all (now < ·) then (none, flushed)
  else
    let count := (drainPlan flushed.queued.length).2
    let drained := flushed.queued.take count
    let queued := flushed.queued.drop count
    let text := drained.flatMap StreamChunk.text
    let offset := drained.foldl (fun offset chunk => chunk.offset.or offset)
      none
    let next := if queued.isEmpty then none
      else some (now + (drainPlan queued.length).1)
    (if text.isEmpty then none else some ⟨text, offset⟩,
      { flushed with queued := queued, nextDrainAt := next })

end StreamingBuffer

theorem completeLines_flatten (text : List Char) :
    (completeLines text).1.flatten ++ (completeLines text).2 = text := by
  induction text with
  | nil => rfl
  | cons letter rest ih =>
      rw [completeLines]
      split
      · rw [List.flatten_cons, List.singleton_append, List.cons_append, ih]
      · split
        next noLines =>
          rw [noLines] at ih
          exact congrArg (letter :: ·) ih
        next line lines isLines =>
          rw [isLines] at ih
          exact congrArg (letter :: ·) ih

def TableHoldback.text : TableHoldback → List Char
  | .none => []
  | .candidate header => header.text
  | .table header rows => (header :: rows).flatMap StreamChunk.text

namespace StreamingBuffer

variable {buffer before middle after : StreamingBuffer} {text : List Char}
  {now : Instant}

def queuedText (buffer : StreamingBuffer) : List Char :=
  buffer.queued.flatMap StreamChunk.text

/-- The text that has arrived and is not drained. -/
def unshown (buffer : StreamingBuffer) : List Char :=
  buffer.queuedText ++ buffer.tableHoldback.text ++ buffer.pending

/-- A queue has a deadline, and a tail an arrival. -/
structure IsTimed (buffer : StreamingBuffer) : Prop where
  nextDrainAt : buffer.nextDrainAt.isSome = true ↔ buffer.queued ≠ []
  lastArrival : buffer.pending ≠ [] → buffer.lastArrival.isSome = true

/-- A text that is collected goes behind what is queued and held back. -/
structure Collects (before after : StreamingBuffer) (text : List Char) :
    Prop where
  source_eq : after.source = before.source
  pending_eq : after.pending = before.pending
  lastArrival_eq : after.lastArrival = before.lastArrival
  text_eq : after.queuedText ++ after.tableHoldback.text =
    before.queuedText ++ before.tableHoldback.text ++ text
  timed : before.IsTimed → after.IsTimed

theorem Collects.trans {more : List Char} (first : Collects before middle text)
    (second : Collects middle after more) :
    Collects before after (text ++ more) where
  source_eq := second.source_eq.trans first.source_eq
  pending_eq := second.pending_eq.trans first.pending_eq
  lastArrival_eq := second.lastArrival_eq.trans first.lastArrival_eq
  text_eq := by
    rw [second.text_eq, first.text_eq, List.append_assoc]
  timed isTimed := second.timed (first.timed isTimed)

theorem queuedText_queue (buffer : StreamingBuffer) (chunk : StreamChunk) :
    (buffer.queue chunk).queuedText = buffer.queuedText ++ chunk.text := by
  unfold queuedText queue
  rw [List.flatMap_append, List.flatMap_singleton]

theorem isTimed_queue (buffer : StreamingBuffer) (chunk : StreamChunk)
    (arrived : buffer.pending ≠ [] → buffer.lastArrival.isSome = true) :
    (buffer.queue chunk).IsTimed where
  nextDrainAt := by simp [queue]
  lastArrival := arrived

/-- What was held back goes before the line that ends it. -/
theorem collects_collectFresh (chunk line : StreamChunk)
    (isHeld : before.tableHoldback.text = chunk.text) :
    Collects before
      (({ before with tableHoldback := .none }.queue chunk).collectFresh line)
      line.text := by
  have fresh : ({ before with tableHoldback := .none }.queue chunk).queuedText =
      before.queuedText ++ before.tableHoldback.text := by
    rw [queuedText_queue, isHeld]
    rfl
  unfold collectFresh
  split
  · refine ⟨rfl, rfl, rfl, ?_, fun isTimed => ⟨?_, isTimed.lastArrival⟩⟩
    · exact congrArg (· ++ line.text) fresh
    · exact (isTimed_queue _ chunk isTimed.lastArrival).nextDrainAt
  · refine ⟨rfl, rfl, rfl, ?_, fun isTimed =>
      isTimed_queue _ line isTimed.lastArrival⟩
    rw [queuedText_queue, fresh]
    exact List.append_nil _

theorem collects_collectLine (buffer : StreamingBuffer) (line : StreamChunk) :
    Collects buffer (buffer.collectLine line) line.text := by
  unfold collectLine
  cases held : buffer.tableHoldback with
  | none =>
      unfold collectFresh
      dsimp only
      split
      · refine ⟨rfl, rfl, rfl, ?_, fun isTimed =>
          ⟨isTimed.nextDrainAt, isTimed.lastArrival⟩⟩
        rw [held]
        exact congrArg (· ++ line.text) (List.append_nil _).symm
      · refine ⟨rfl, rfl, rfl, ?_, fun isTimed =>
          isTimed_queue _ line isTimed.lastArrival⟩
        rw [queuedText_queue, held]
        exact (List.append_nil _).trans
          (congrArg (· ++ line.text) (List.append_nil _).symm)
  | candidate header =>
      dsimp only
      split
      · refine ⟨rfl, rfl, rfl, ?_, fun isTimed =>
          ⟨isTimed.nextDrainAt, isTimed.lastArrival⟩⟩
        rw [held, List.append_assoc]
        exact congrArg (buffer.queuedText ++ ·)
          (congrArg (header.text ++ ·) (List.append_nil _))
      · apply collects_collectFresh
        rw [held]
        rfl
  | table header rows =>
      dsimp only
      split
      · refine ⟨rfl, rfl, rfl, ?_, fun isTimed =>
          ⟨isTimed.nextDrainAt, isTimed.lastArrival⟩⟩
        rw [held, List.append_assoc]
        refine congrArg (buffer.queuedText ++ ·) ?_
        simp [TableHoldback.text]
      · apply collects_collectFresh
        rw [held]
        rfl

theorem collects_lines (offset : Option Nat) (arrivedAt : Instant)
    (lines : List (List Char)) :
    Collects buffer (lines.foldl (fun buffer line =>
      buffer.collectLine ⟨line, offset, arrivedAt⟩) buffer) lines.flatten := by
  induction lines generalizing buffer with
  | nil => exact ⟨rfl, rfl, rfl, (List.append_nil _).symm, id⟩
  | cons line rest ih =>
      exact (buffer.collects_collectLine ⟨line, offset, arrivedAt⟩).trans ih

theorem push_spec (isTimed : buffer.IsTimed) (offset : Option Nat)
    (text : List Char) (arrivedAt : Instant) :
    (buffer.push offset text arrivedAt).IsTimed ∧
      (buffer.push offset text arrivedAt).unshown = buffer.unshown ++ text ∧
      (buffer.push offset text arrivedAt).source = buffer.source ++ text := by
  have whole := completeLines_flatten (buffer.pending ++ text)
  unfold push
  dsimp only
  generalize completeLines (buffer.pending ++ text) = split at whole ⊢
  generalize isArrived : ({ buffer with
    source := buffer.source ++ text
    pending := split.2
    pendingOffset := offset.or buffer.pendingOffset
    lastOffset := offset.or buffer.lastOffset
    lastArrival := some arrivedAt } : StreamingBuffer) = arrived
  have collects := @collects_lines arrived (offset.or buffer.pendingOffset)
    arrivedAt split.1
  generalize split.1.foldl _ arrived = collected at collects ⊢
  have timed : collected.IsTimed := by
    apply collects.timed
    subst isArrived
    exact ⟨isTimed.nextDrainAt, fun _ => rfl⟩
  have unshown : collected.queuedText ++ collected.tableHoldback.text ++
      collected.pending = buffer.unshown ++ text := by
    rw [collects.text_eq, collects.pending_eq]
    subst isArrived
    rw [List.append_assoc, whole, ← List.append_assoc]
    rfl
  have source : collected.source = buffer.source ++ text := by
    rw [collects.source_eq]
    subst isArrived
    rfl
  split
  · exact ⟨⟨timed.nextDrainAt, timed.lastArrival⟩, unshown, source⟩
  · exact ⟨timed, unshown, source⟩

theorem flushQuiet_spec (isTimed : buffer.IsTimed) (now : Instant) :
    (buffer.flushQuiet now).IsTimed ∧
      (buffer.flushQuiet now).unshown = buffer.unshown ∧
      (buffer.flushQuiet now).source = buffer.source := by
  unfold flushQuiet
  split
  · exact ⟨isTimed, rfl, rfl⟩
  next arrived _ =>
    split
    next quiet =>
      have noTable : buffer.tableHoldback = .none := by
        have plain := quiet.2
        unfold isPlainTail at plain
        simp only [Bool.and_eq_true, beq_iff_eq] at plain
        exact plain.1.2
      refine ⟨⟨by simp [queue], fun none => absurd rfl none⟩, ?_, rfl⟩
      unfold unshown queuedText queue
      dsimp only
      rw [noTable, List.flatMap_append, List.flatMap_singleton]
      simp [TableHoldback.text]
    next => exact ⟨isTimed, rfl, rfl⟩

theorem drainPlan_pos {pressure : Nat} (positive : pressure ≠ 0) :
    0 < (drainPlan pressure).2 := by
  unfold drainPlan
  split_ifs <;> first | contradiction | exact Nat.succ_pos _

theorem drainAt_spec (isTimed : buffer.IsTimed) (now : Instant) :
    (buffer.drainAt now).2.IsTimed ∧
      ((buffer.drainAt now).1.elim [] StreamDrain.text) ++
        (buffer.drainAt now).2.unshown = buffer.unshown ∧
      (buffer.drainAt now).2.source = buffer.source := by
  obtain ⟨timed, unshown, source⟩ := flushQuiet_spec isTimed now
  unfold drainAt
  dsimp only
  generalize buffer.flushQuiet now = flushed at timed unshown source ⊢
  split
  · exact ⟨timed, unshown, source⟩
  · refine ⟨⟨?_, timed.lastArrival⟩, ?_, source⟩
    · dsimp only
      split
      next none => simpa using none
      next some => simpa using some
    · rw [← unshown]
      unfold StreamingBuffer.unshown queuedText
      dsimp only
      have whole : flushed.queued.flatMap StreamChunk.text =
          (flushed.queued.take (drainPlan flushed.queued.length).2).flatMap
            StreamChunk.text ++
          (flushed.queued.drop (drainPlan flushed.queued.length).2).flatMap
            StreamChunk.text := by
        rw [← List.flatMap_append, List.take_append_drop]
      rw [whole]
      split
      next none =>
        rw [List.isEmpty_iff.mp none]
        rfl
      next => simp only [Option.elim_some, List.append_assoc]

/-- The chunks that are queued, and the tail that a quiet flush queues. -/
def load (buffer : StreamingBuffer) : Nat :=
  buffer.queued.length + buffer.isPlainTail.toNat

/-- The tail is empty or part of a table. -/
def IsHeldBack (buffer : StreamingBuffer) : Prop :=
  buffer.pending = [] ∨ buffer.tableHoldback ≠ .none ∨
    isTableRow buffer.pending = true

theorem isHeldBack_of_not_plain (notPlain : buffer.isPlainTail = false) :
    buffer.IsHeldBack := by
  unfold isPlainTail at notPlain
  unfold IsHeldBack
  simp only [Bool.and_eq_false_iff, Bool.not_eq_false', List.isEmpty_iff,
    beq_eq_false_iff_ne] at notPlain
  rcases notPlain with (none | held) | row
  · exact .inl none
  · exact .inr (.inl held)
  · exact .inr (.inr row)

theorem pending_ne_nil_of_plain (plain : buffer.isPlainTail = true) :
    buffer.pending ≠ [] := by
  intro none
  simp [isPlainTail, none] at plain

theorem quietDeadline_eq_some :
    buffer.quietDeadline = some now ↔
      ∃ arrived, buffer.lastArrival = some arrived ∧
        buffer.isPlainTail = true ∧ arrived + streamQuietFlush = now := by
  unfold quietDeadline
  rw [Option.bind_eq_some_iff]
  apply exists_congr
  intro arrived
  apply and_congr_right
  intro _
  by_cases plain : buffer.isPlainTail = true
  · rw [if_pos plain, Option.some_inj]
    exact (and_iff_right plain).symm
  · rw [if_neg plain]
    exact iff_of_false (nomatch ·) fun both => plain both.1

/-- Without a deadline nothing waits for one. -/
theorem settled_of_deadline_eq_none (isTimed : buffer.IsTimed)
    (noDeadline : buffer.deadline = none) :
    buffer.queued = [] ∧ buffer.IsHeldBack := by
  unfold deadline at noDeadline
  split at noDeadline
  next => cases noDeadline
  next => cases noDeadline
  next => cases noDeadline
  next noNext noQuiet =>
    constructor
    · by_contra some
      have := isTimed.nextDrainAt.mpr some
      rw [noNext] at this
      cases this
    · apply isHeldBack_of_not_plain
      by_contra plain
      rw [Bool.not_eq_false] at plain
      obtain ⟨arrived, isArrived⟩ := Option.isSome_iff_exists.mp
        (isTimed.lastArrival (pending_ne_nil_of_plain plain))
      rw [quietDeadline_eq_some.mpr ⟨arrived, isArrived, plain, rfl⟩] at noQuiet
      cases noQuiet

theorem deadline_isSome (isTimed : buffer.IsTimed)
    (some : buffer.queued ≠ []) : buffer.deadline.isSome = true := by
  by_contra none
  rw [Bool.not_eq_true, Option.isSome_eq_false_iff, Option.isNone_iff_eq_none]
    at none
  exact some (settled_of_deadline_eq_none isTimed none).1

/-- A drain that is due takes a chunk. -/
theorem length_queued_drainAt {due : Instant}
    (isNext : (buffer.flushQuiet now).nextDrainAt = some due)
    (isDue : due ≤ now) (some : (buffer.flushQuiet now).queued ≠ []) :
    (buffer.drainAt now).2.queued.length <
        (buffer.flushQuiet now).queued.length ∧
      (buffer.drainAt now).2.isPlainTail =
        (buffer.flushQuiet now).isPlainTail := by
  unfold drainAt
  dsimp only
  rw [if_neg (by simp [isNext, isDue])]
  have positive := List.length_pos_of_ne_nil some
  have takes := drainPlan_pos positive.ne'
  refine ⟨?_, rfl⟩
  rw [List.length_drop]
  omega

/-- A deadline is that of a quiet flush, or a drain is due then. -/
theorem due_of_deadline (found : buffer.deadline = some now) :
    buffer.quietDeadline = some now ∨
      ∃ due, buffer.nextDrainAt = some due ∧ due ≤ now := by
  unfold deadline at found
  split at found
  next left right isNext isQuiet =>
    cases found
    by_cases later : left ≤ right
    · exact .inr ⟨left, isNext, le_min le_rfl later⟩
    · rw [min_eq_right (Nat.le_of_not_le later)]
      exact .inl isQuiet
  next left isNext _ =>
    exact .inr ⟨left, isNext, (Option.some.inj found).le⟩
  next right _ isQuiet =>
    exact .inl (isQuiet.trans found)
  next => cases found

theorem flushQuiet_of_quiet {arrived : Instant}
    (isArrived : buffer.lastArrival = some arrived)
    (quiet : streamQuietFlush ≤ now - arrived ∧ buffer.isPlainTail = true) :
    buffer.flushQuiet now =
      { { buffer with pending := [], pendingOffset := none }.queue
          ⟨buffer.pending, buffer.pendingOffset, arrived⟩ with
        nextDrainAt := some now } := by
  unfold flushQuiet
  rw [isArrived]
  exact if_pos quiet

theorem flushQuiet_of_not_quiet
    (notQuiet : ∀ arrived, buffer.lastArrival = some arrived →
      ¬(streamQuietFlush ≤ now - arrived ∧ buffer.isPlainTail = true)) :
    buffer.flushQuiet now = buffer := by
  unfold flushQuiet
  split
  · rfl
  next arrived isArrived => exact if_neg (notQuiet arrived isArrived)

/-- A drain at the deadline leaves less to drain. -/
theorem load_drainAt_lt (isTimed : buffer.IsTimed)
    (found : buffer.deadline = some now) :
    (buffer.drainAt now).2.load < buffer.load := by
  by_cases quiet : ∃ arrived, buffer.lastArrival = some arrived ∧
      streamQuietFlush ≤ now - arrived ∧ buffer.isPlainTail = true
  · obtain ⟨arrived, isArrived, isQuiet⟩ := quiet
    have flushed := flushQuiet_of_quiet isArrived isQuiet
    have length : (buffer.flushQuiet now).queued.length =
        buffer.queued.length + 1 := by
      rw [flushed]
      exact List.length_append
    have noTail : (buffer.flushQuiet now).isPlainTail = false := by
      rw [flushed]
      rfl
    obtain ⟨fewer, tail⟩ := length_queued_drainAt
      (congrArg nextDrainAt flushed) le_rfl
      (List.ne_nil_of_length_pos (by omega))
    unfold load
    rw [tail, noTail, isQuiet.2, Bool.toNat_false, Bool.toNat_true]
    omega
  · have flushed := flushQuiet_of_not_quiet fun arrived isArrived both =>
      quiet ⟨arrived, isArrived, both⟩
    rcases due_of_deadline found with isQuiet | ⟨due, isNext, isDue⟩
    · obtain ⟨arrived, isArrived, plain, rfl⟩ := quietDeadline_eq_some.mp isQuiet
      exact absurd ⟨arrived, isArrived, by omega, plain⟩ quiet
    · have some := isTimed.nextDrainAt.mp (by rw [isNext]; rfl)
      rw [← flushed] at isNext some
      obtain ⟨fewer, tail⟩ := length_queued_drainAt isNext isDue some
      rw [flushed] at fewer tail
      unfold load
      rw [tail]
      omega

end StreamingBuffer

/-- A buffer, the text pushed to it and the text drained from it. -/
structure Stream where
  buffer : StreamingBuffer
  pushed : List Char
  drained : List Char

inductive StreamCall where
  | push (offset : Option Nat) (text : List Char) (arrivedAt : Instant)
  | drain (now : Instant)

namespace Stream

def start : Stream :=
  ⟨.empty, [], []⟩

def step (stream : Stream) : StreamCall → Stream
  | .push offset text arrivedAt =>
      ⟨stream.buffer.push offset text arrivedAt, stream.pushed ++ text,
        stream.drained⟩
  | .drain now =>
      let drain := stream.buffer.drainAt now
      ⟨drain.2, stream.pushed,
        stream.drained ++ drain.1.elim [] StreamDrain.text⟩

def run (stream : Stream) (calls : List StreamCall) : Stream :=
  calls.foldl step stream

/-- A drain at the deadline that the buffer returns. -/
def drainAtDeadline (stream : Stream) : Stream :=
  stream.buffer.deadline.elim stream fun now => stream.step (.drain now)

/-- No text is lost, doubled or moved, and the buffer is timed. -/
structure Keeps (stream : Stream) : Prop where
  isTimed : stream.buffer.IsTimed
  text_eq : stream.drained ++ stream.buffer.unshown = stream.pushed
  source_eq : stream.buffer.source = stream.pushed

theorem keeps_start : start.Keeps where
  isTimed := ⟨by decide, fun some => absurd rfl some⟩
  text_eq := rfl
  source_eq := rfl

variable {stream : Stream}

theorem Keeps.step (keeps : stream.Keeps) (call : StreamCall) :
    (stream.step call).Keeps := by
  cases call with
  | push offset text arrivedAt =>
      obtain ⟨isTimed, unshown, source⟩ := StreamingBuffer.push_spec
        keeps.isTimed offset text arrivedAt
      refine ⟨isTimed, ?_, ?_⟩
      · show stream.drained ++
          (stream.buffer.push offset text arrivedAt).unshown =
            stream.pushed ++ text
        rw [unshown, ← List.append_assoc, keeps.text_eq]
      · show _ = stream.pushed ++ text
        rw [← keeps.source_eq]
        exact source
  | drain now =>
      obtain ⟨isTimed, unshown, source⟩ := StreamingBuffer.drainAt_spec
        keeps.isTimed now
      refine ⟨isTimed, ?_, source.trans keeps.source_eq⟩
      show stream.drained ++ (stream.buffer.drainAt now).1.elim []
        StreamDrain.text ++ (stream.buffer.drainAt now).2.unshown =
          stream.pushed
      rw [List.append_assoc, unshown, keeps.text_eq]

theorem Keeps.run (keeps : stream.Keeps) (calls : List StreamCall) :
    (stream.run calls).Keeps := by
  unfold Stream.run
  induction calls generalizing stream with
  | nil => exact keeps
  | cons call rest ih => exact ih (keeps.step call)

theorem Keeps.drainAtDeadline (keeps : stream.Keeps) :
    stream.drainAtDeadline.Keeps := by
  unfold Stream.drainAtDeadline
  cases stream.buffer.deadline with
  | none => exact keeps
  | some now => exact keeps.step (.drain now)

/-- The drains that `load` allows come to the end of the deadlines. -/
theorem Keeps.exists_settled (keeps : stream.Keeps) :
    ∃ count ≤ stream.buffer.load,
      (Stream.drainAtDeadline^[count] stream).buffer.deadline = none := by
  induction bound : stream.buffer.load using Nat.strong_induction_on
    generalizing stream with
  | _ load ih =>
      cases found : stream.buffer.deadline with
      | none => exact ⟨0, Nat.zero_le _, found⟩
      | some now =>
          have drained : stream.drainAtDeadline = stream.step (.drain now) := by
            unfold Stream.drainAtDeadline
            rw [found]
            rfl
          have less := StreamingBuffer.load_drainAt_lt keeps.isTimed found
          obtain ⟨count, few, settled⟩ := ih _ (by rw [← bound]; exact less)
            (keeps.step (.drain now)) rfl
          refine ⟨count + 1, ?_, ?_⟩
          · have : (stream.step (.drain now)).buffer.load < load := by
              rw [← bound]
              exact less
            omega
          · rw [Function.iterate_succ_apply, drained]
            exact settled

theorem Keeps.iterate (keeps : stream.Keeps) (count : Nat) :
    (Stream.drainAtDeadline^[count] stream).Keeps := by
  induction count generalizing stream with
  | zero => exact keeps
  | succ count ih =>
      rw [Function.iterate_succ_apply]
      exact ih keeps.drainAtDeadline

theorem pushed_iterate (stream : Stream) (count : Nat) :
    (Stream.drainAtDeadline^[count] stream).pushed = stream.pushed := by
  induction count generalizing stream with
  | zero => rfl
  | succ count ih =>
      rw [Function.iterate_succ_apply, ih]
      unfold Stream.drainAtDeadline
      cases stream.buffer.deadline <;> rfl

end Stream

/-- Every run of pushes and drains keeps the text, with a deadline while the
queue is not empty; the drains at the deadlines end with an empty queue and a
tail that is empty or held back by a table.  The instants may be any. -/
theorem stream_spec (calls : List StreamCall) :
    let stream := Stream.start.run calls
    stream.drained ++ stream.buffer.queuedText ++
        stream.buffer.tableHoldback.text ++ stream.buffer.pending =
      stream.pushed ∧
    stream.drained <+: stream.buffer.source ∧
    stream.buffer.source = stream.pushed ∧
    (stream.buffer.queued ≠ [] → stream.buffer.deadline.isSome = true) ∧
    ∃ count ≤ stream.buffer.load,
      let settled := Stream.drainAtDeadline^[count] stream
      settled.buffer.queued = [] ∧ settled.buffer.IsHeldBack ∧
        settled.drained ++ settled.buffer.unshown = stream.pushed := by
  intro stream
  have keeps : stream.Keeps := Stream.keeps_start.run calls
  obtain ⟨count, few, settled⟩ := keeps.exists_settled
  have later := keeps.iterate count
  obtain ⟨noQueue, isHeldBack⟩ :=
    StreamingBuffer.settled_of_deadline_eq_none later.isTimed settled
  refine ⟨?_, ?_, keeps.source_eq, ?_, count, few, noQueue, isHeldBack, ?_⟩
  · rw [← keeps.text_eq, StreamingBuffer.unshown]
    simp only [List.append_assoc]
  · rw [keeps.source_eq, ← keeps.text_eq]
    exact List.prefix_append _ _
  · exact StreamingBuffer.deadline_isSome keeps.isTimed
  · rw [later.text_eq, Stream.pushed_iterate]

end Streaming

end PlatoAgent
