import PlatoAgent.ActionRuns
import PlatoAgent.HistorySizes

/-!
# A walk through the history of a thread

A client starts without a cursor and passes each returned cursor on, while the
ledger grows.  As long as every run of the thread has started, each page goes on
where the one before stopped: what is delivered stands for records at strictly
increasing places, and nothing that was there from the start is left out.
-/

namespace PlatoAgent

namespace LogicalReads

theorem parseUnsigned_toDigits {number : Nat} (small : number < 2 ^ 64) :
    parseUnsigned (Nat.toDigits 10 number) = some number := by
  have isDigits : ∀ digit ∈ Nat.toDigits 10 number, digit.isDigit = true :=
    fun _ member => Nat.isDigit_of_mem_toDigits (by decide) (by decide) member
  have unsigned : (Nat.toDigits 10 number).head? ≠ some '+' := by
    intro plus
    have digit := isDigits '+' (List.mem_of_mem_head? plus)
    exact absurd digit (by decide)
  have all : (Nat.toDigits 10 number).all Char.isDigit = true :=
    List.all_eq_true.mpr isDigits
  have some? : (Nat.toDigits 10 number).isEmpty = false := by
    simp
  unfold parseUnsigned
  simp only [if_neg unsigned, all, some?, Bool.not_true, Bool.or_self,
    Bool.false_eq_true, if_false, Nat.ofDigitChars_ten_toDigits, small, if_true]

theorem parseHistoryCursor_historyCursor {sessionIndex entryIndex : Nat}
    (smallSession : sessionIndex < 2 ^ 64) (smallEntry : entryIndex < 2 ^ 64) :
    parseHistoryCursor (historyCursor sessionIndex entryIndex) =
      .ok (sessionIndex, entryIndex) := by
  have digits : ∀ digit ∈ Nat.toDigits 10 sessionIndex,
      (digit != ':') = true := by
    intro digit member
    have isDigit : digit.isDigit = true :=
      Nat.isDigit_of_mem_toDigits (by decide) (by decide) member
    rw [bne_iff_ne]
    intro colon
    rw [colon] at isDigit
    exact absurd isDigit (by decide)
  unfold parseHistoryCursor historyCursor
  simp only [String.toList_ofList]
  rw [List.dropWhile_append_of_pos digits, List.takeWhile_append_of_pos digits]
  simp [parseUnsigned_toDigits smallSession, parseUnsigned_toDigits smallEntry]

structure HistoryKey where
  sessionIndex : Nat
  entryIndex : Nat
  deriving DecidableEq

theorem HistoryKey.ext {first second : HistoryKey}
    (session : first.sessionIndex = second.sessionIndex)
    (entry : first.entryIndex = second.entryIndex) : first = second := by
  cases first
  cases second
  cases session
  cases entry
  rfl

/-- The order of the runs, and of the records in a run. -/
def HistoryKey.Before (first second : HistoryKey) : Prop :=
  first.sessionIndex < second.sessionIndex ∨
    (first.sessionIndex = second.sessionIndex ∧
      first.entryIndex < second.entryIndex)

theorem HistoryKey.Before.trans {first second third : HistoryKey}
    (one : first.Before second) (two : second.Before third) :
    first.Before third := by
  unfold HistoryKey.Before at *
  omega

def HistoryKey.cursor (key : HistoryKey) : String :=
  historyCursor key.sessionIndex key.entryIndex

namespace SessionRunRecords

/-- The same run with more records. -/
structure Extends (later earlier : SessionRunRecords) : Prop where
  runId : later.runId = earlier.runId
  sessionIndex : later.sessionIndex = earlier.sessionIndex
  records : earlier.records <+: later.records

theorem Extends.refl (run : SessionRunRecords) : run.Extends run :=
  ⟨rfl, rfl, List.prefix_rfl⟩

theorem Extends.trans {first second third : SessionRunRecords}
    (one : third.Extends second) (two : second.Extends first) :
    third.Extends first :=
  ⟨one.runId.trans two.runId, one.sessionIndex.trans two.sessionIndex,
    two.records.trans one.records⟩

end SessionRunRecords

namespace SessionHistory

/-- Runs are not removed and records are only appended. -/
def Grows (before after : SessionHistory) : Prop :=
  ∀ run ∈ before.runs, ∃ later ∈ after.runs, later.Extends run

theorem Grows.refl (history : SessionHistory) : history.Grows history :=
  fun run member => ⟨run, member, .refl run⟩

theorem Grows.trans {first second third : SessionHistory}
    (one : first.Grows second) (two : second.Grows third) :
    first.Grows third := by
  intro run member
  obtain ⟨middle, isMiddle, extends₁⟩ := one run member
  obtain ⟨later, isLater, extends₂⟩ := two middle isMiddle
  exact ⟨later, isLater, extends₂.trans extends₁⟩

/-- Two runs of a session have different indices. -/
theorem run_unique (history : SessionHistory) {first second : SessionRunRecords}
    (isFirst : first ∈ history.runs) (isSecond : second ∈ history.runs)
    (same : first.sessionIndex = second.sessionIndex) : first = second := by
  by_contra different
  have ordered : history.runs.Pairwise fun first second =>
      first.sessionIndex ≠ second.sessionIndex :=
    history.ordered.imp fun less => ne_of_lt less
  have symmetric : Std.Symm fun first second : SessionRunRecords =>
      first.sessionIndex ≠ second.sessionIndex :=
    ⟨fun _ _ unequal => unequal.symm⟩
  exact ordered.forall isFirst isSecond different same

/-- There is a record at the place. -/
def HasRecord (history : SessionHistory) (key : HistoryKey) : Prop :=
  ∃ run ∈ history.runs, run.sessionIndex = key.sessionIndex ∧
    key.entryIndex < run.records.length

theorem HasRecord.grows {before after : SessionHistory} {key : HistoryKey}
    (has : before.HasRecord key) (grows : before.Grows after) :
    after.HasRecord key := by
  obtain ⟨run, member, index, inRun⟩ := has
  obtain ⟨later, isLater, isExtended⟩ := grows run member
  exact ⟨later, isLater, isExtended.sessionIndex.trans index,
    inRun.trans_le isExtended.records.length_le⟩

/-- The entry is the record at the place, or its stand-in. -/
def StandsFor (history : SessionHistory) (json : JsonWriter) (threadId : String)
    (key : HistoryKey) (entry : ProfileEventEntry) : Prop :=
  ∃ run ∈ history.runs, run.sessionIndex = key.sessionIndex ∧
    ∃ record, run.records[key.entryIndex]? = some record ∧
      entry = (eventEntry json threadId run record).1

theorem StandsFor.hasRecord {history : SessionHistory} {json : JsonWriter}
    {threadId : String} {key : HistoryKey} {entry : ProfileEventEntry}
    (stands : history.StandsFor json threadId key entry) :
    history.HasRecord key := by
  obtain ⟨run, member, index, record, isRecord, _⟩ := stands
  exact ⟨run, member, index, (List.getElem?_eq_some_iff.mp isRecord).choose⟩

theorem StandsFor.grows {before after : SessionHistory} {json : JsonWriter}
    {threadId : String} {key : HistoryKey} {entry : ProfileEventEntry}
    (stands : before.StandsFor json threadId key entry)
    (grows : before.Grows after) : after.StandsFor json threadId key entry := by
  obtain ⟨run, member, index, record, isRecord, isEntry⟩ := stands
  obtain ⟨later, isLater, isExtended⟩ := grows run member
  have same : eventEntry json threadId later record =
      eventEntry json threadId run record := by
    unfold eventEntry
    rw [isExtended.runId, isExtended.sessionIndex]
  obtain ⟨inRun, _⟩ := List.getElem?_eq_some_iff.mp isRecord
  obtain ⟨more, isMore⟩ := isExtended.records
  have kept : later.records[key.entryIndex]? = some record := by
    rw [← isMore, List.getElem?_append_left inRun, isRecord]
  exact ⟨later, isLater, isExtended.sessionIndex.trans index, record, kept,
    isEntry.trans (by rw [same])⟩

/-- The session exists and each of its runs has started for the profile, under
an id that leaves room on a page. -/
structure Started (history : SessionHistory) (profileId : ProfileId) : Prop where
  found : history.exists? = true
  nonempty : ∀ run ∈ history.runs, run.records ≠ []
  ofProfile : ∀ run ∈ history.runs, ∃ readback,
    RunReadback.fromEvents run.records = .ok readback ∧
      isOfProfile readback profileId = true
  short : ∀ run ∈ history.runs, shortId run.runId

/-- Reading a started session finds the first run from the index on. -/
theorem readSessionRunAtOrAfter_started {history : SessionHistory}
    {profileId : ProfileId} (started : history.Started profileId)
    {sessionIndex : Nat} (small : sessionIndex < 2 ^ 63) :
    history.readSessionRunAtOrAfter sessionIndex =
      .ok (history.runs.find? (sessionIndex ≤ ·.sessionIndex)) := by
  unfold readSessionRunAtOrAfter
  rw [started.found, if_neg (by decide), if_neg (by omega)]
  cases isRun : history.runs.find? (sessionIndex ≤ ·.sessionIndex) with
  | none => rfl
  | some run =>
      have nonempty := started.nonempty run (List.mem_of_find?_eq_some isRun)
      simp only [List.isEmpty_iff, nonempty, if_false]

/-- No run stands between the index and the first one found. -/
theorem find_first {history : SessionHistory} {sessionIndex : Nat}
    {run : SessionRunRecords}
    (isRun : history.runs.find? (sessionIndex ≤ ·.sessionIndex) = some run)
    {other : SessionRunRecords} (member : other ∈ history.runs)
    (from_ : sessionIndex ≤ other.sessionIndex) :
    run.sessionIndex ≤ other.sessionIndex := by
  obtain ⟨_, front, back, split, before⟩ := List.find?_eq_some_iff_append.mp isRun
  have ordered := history.ordered
  rw [split] at ordered member
  rcases List.mem_append.mp member with isFront | isBack
  · have skipped := before other isFront
    simp only [Bool.not_eq_eq_eq_not, Bool.not_true, decide_eq_false_iff_not]
      at skipped
    exact absurd from_ skipped
  · rcases List.mem_cons.mp isBack with rfl | isLater
    · exact le_rfl
    · have ordered := (List.pairwise_append.mp ordered).2.1
      exact (List.rel_of_pairwise_cons ordered isLater).le

/-- Nothing is recorded from the one place up to the other. -/
def NoneBetween (history : SessionHistory) (low high : HistoryKey) : Prop :=
  ∀ key, ¬ key.Before low → key.Before high → ¬ history.HasRecord key

theorem NoneBetween.trans {history : SessionHistory}
    {low middle high : HistoryKey} (one : history.NoneBetween low middle)
    (two : history.NoneBetween middle high) : history.NoneBetween low high := by
  intro key fromLow toHigh
  by_cases early : key.Before middle
  · exact one key fromLow early
  · exact two key early toHigh

/-- Nothing is recorded from the place on. -/
def NoneFrom (history : SessionHistory) (low : HistoryKey) : Prop :=
  ∀ key, ¬ key.Before low → ¬ history.HasRecord key

theorem NoneBetween.noneFrom {history : SessionHistory} {low high : HistoryKey}
    (one : history.NoneBetween low high) (two : history.NoneFrom high) :
    history.NoneFrom low := by
  intro key fromLow
  by_cases early : key.Before high
  · exact one key fromLow early
  · exact two key early

end SessionHistory

/-- The ledgers that the reads of one page see, after an earlier ledger and
before a later one; the runs have all started. -/
structure PageLedgers (profileId : ProfileId) (ledgers : Nat → SessionHistory)
    (before after : SessionHistory) : Prop where
  before : ∀ read, before.Grows (ledgers read)
  after : ∀ read, (ledgers read).Grows after
  started : ∀ read, (ledgers read).Started profileId

namespace HistorySource

def position (source : HistorySource) : HistoryKey :=
  ⟨source.sessionIndex, source.entryIndex⟩

/-- The source stands in a run, at its end, or before all records of a run
index. -/
structure Valid (ledgers : Nat → SessionHistory) (source : HistorySource) :
    Prop where
  wholeThread : source.exactRunId = none
  small : source.sessionIndex < 2 ^ 63
  current : ∀ run, source.currentRun = some run →
    run.sessionIndex = source.sessionIndex ∧
      source.entryIndex ≤ run.records.length ∧
      ∃ read, run ∈ (ledgers read).runs
  resumed : source.currentRun = none → source.entryIndex ≠ 0 →
    ∃ run ∈ (ledgers source.reads).runs,
      run.sessionIndex = source.sessionIndex ∧
      source.entryIndex ≤ run.records.length

section Page

variable {profileId : ProfileId} {ledgers : Nat → SessionHistory}
  {before after : SessionHistory}

/-- Either no run is left, or the source stands in the next one. -/
theorem ensureRun_spec (page : PageLedgers profileId ledgers before after)
    {source : HistorySource} (valid : source.Valid ledgers) :
    ∃ next, source.ensureRun ledgers profileId = .ok next ∧
      ((next.currentRun = none ∧ before.NoneFrom source.position) ∨
        (∃ run, next.currentRun = some run ∧ next.Valid ledgers ∧
          source.sessionIndex ≤ next.sessionIndex ∧
          ¬ next.position.Before source.position ∧
          before.NoneBetween source.position next.position)) := by
  unfold ensureRun
  cases isCurrent : source.currentRun with
  | some run =>
      refine ⟨source, if_pos rfl, .inr ⟨run, isCurrent, valid, le_rfl, ?_, ?_⟩⟩
      · unfold HistoryKey.Before
        omega
      · intro key fromLow toHigh
        exact absurd toHigh fromLow
  | none =>
      have started := page.started source.reads
      rw [Option.isSome_none, if_neg (by decide),
        SessionHistory.readSessionRunAtOrAfter_started started valid.small]
      cases isRun : (ledgers source.reads).runs.find?
          (source.sessionIndex ≤ ·.sessionIndex) with
      | none =>
          refine ⟨_, rfl, .inl ⟨rfl, ?_⟩⟩
          intro key fromLow has
          obtain ⟨run, member, index, _⟩ :=
            has.grows (page.before source.reads)
          have early := List.find?_eq_none.mp isRun run member
          simp only [decide_eq_true_eq] at early
          unfold HistoryKey.Before position at fromLow
          dsimp only at fromLow
          omega
      | some run =>
          have member := List.mem_of_find?_eq_some isRun
          have later : source.sessionIndex ≤ run.sessionIndex := by
            simpa using List.find?_some isRun
          have entry : source.entryIndex ≠ 0 →
              run.sessionIndex = source.sessionIndex ∧
                source.entryIndex ≤ run.records.length := by
            intro resumed
            obtain ⟨other, isOther, index, inRun⟩ :=
              valid.resumed isCurrent resumed
            have low := SessionHistory.find_first isRun isOther (by omega)
            have same := (ledgers source.reads).run_unique member isOther
              (by omega)
            rw [same]
            exact ⟨index, inRun⟩
          obtain ⟨readback, isReadback, isProfile⟩ :=
            started.ofProfile run member
          have inRange : ¬ (run.sessionIndex ≠ source.sessionIndex ∧
              source.entryIndex ≠ 0) := by
            intro outside
            exact outside.1 (entry outside.2).1
          have whole : source.exactRunId.any (· != run.runId) = false := by
            rw [valid.wholeThread]
            rfl
          simp only [if_neg inRange, whole, isReadback, isProfile, if_true,
            Bool.false_eq_true, if_false]
          refine ⟨_, rfl, .inr ⟨run, rfl, ?_, later, ?_, ?_⟩⟩
          · constructor
            · exact valid.wholeThread
            · have index := run.index_lt
              dsimp only
              omega
            · intro other isOther
              cases isOther
              refine ⟨rfl, ?_, source.reads, member⟩
              by_cases zero : source.entryIndex = 0
              · dsimp only
                omega
              · exact (entry zero).2
            · intro isNone
              cases isNone
          · unfold HistoryKey.Before position
            dsimp only
            omega
          · intro key fromLow toHigh has
            obtain ⟨other, isOther, index, _⟩ :=
              has.grows (page.before source.reads)
            unfold HistoryKey.Before position at fromLow toHigh
            dsimp only at fromLow toHigh
            by_cases zero : source.entryIndex = 0
            · have low := SessionHistory.find_first isRun isOther (by omega)
              omega
            · have same := (entry zero).1
              omega

theorem nextEvent_of_ensured {source next : HistorySource}
    (ensured : source.ensureRun ledgers profileId = .ok next) :
    source.nextEvent ledgers profileId =
      match next.currentRun with
      | none => .ok (none, next)
      | some run =>
          if run.records.length < next.entryIndex then
            .error (.invalid "event cursor is out of range")
          else match run.records[next.entryIndex]? with
          | some record =>
              .ok (some ⟨historyCursor run.sessionIndex next.entryIndex, run,
                  record⟩,
                { next with entryIndex := next.entryIndex + 1 })
          | none =>
              if next.exactRunId.isSome then .ok (none, next)
              else if next.sessionIndex + 1 < 2 ^ 64 then
                nextEvent ledgers profileId { next with
                  sessionIndex := next.sessionIndex + 1
                  entryIndex := 0
                  currentRun := none }
              else .error (.invalid "history cursor overflowed") := by
  rw [nextEvent]
  split
  next error failed =>
    rw [ensured] at failed
    cases failed
  next other isOther =>
    rw [ensured] at isOther
    cases isOther
    rfl

/-- What one step of the source takes: the first record of the earlier ledger
from the position on, or a later one before it. -/
structure Takes (ledgers : Nat → SessionHistory) (before : SessionHistory)
    (source : HistorySource) (event : HistoryEvent) (key : HistoryKey)
    (next : HistorySource) : Prop where
  position : event.position = key.cursor
  index : event.run.sessionIndex = key.sessionIndex
  member : ∃ read, event.run ∈ (ledgers read).runs
  record : event.run.records[key.entryIndex]? = some event.record
  from_ : ¬ key.Before source.position
  skipped : before.NoneBetween source.position key
  valid : next.Valid ledgers
  next : next.position = ⟨key.sessionIndex, key.entryIndex + 1⟩

theorem nextEvent_spec (page : PageLedgers profileId ledgers before after)
    {source : HistorySource} (valid : source.Valid ledgers) :
    (∃ next, source.nextEvent ledgers profileId = .ok (none, next) ∧
      before.NoneFrom source.position) ∨
    (∃ event key next,
      source.nextEvent ledgers profileId = .ok (some event, next) ∧
        source.Takes ledgers before event key next) := by
  -- The induction is on the distance to the largest index.
  induction distance : 2 ^ 63 - source.sessionIndex using Nat.strong_induction_on
    generalizing source with
  | _ distance ih =>
    obtain ⟨ensured, isEnsured, ⟨noRun, noRecord⟩ |
      ⟨run, isRun, validNext, later, notBefore, skipped⟩⟩ :=
        ensureRun_spec page valid
    · left
      refine ⟨ensured, ?_, noRecord⟩
      rw [nextEvent_of_ensured isEnsured, noRun]
    obtain ⟨index, inRun, read, member⟩ := validNext.current run isRun
    rw [nextEvent_of_ensured isEnsured]
    simp only [isRun, if_neg (Nat.not_lt.mpr inRun)]
    cases isRecord : run.records[ensured.entryIndex]? with
    | some record =>
        right
        refine ⟨_, ensured.position, _, rfl, ?_⟩
        constructor
        · rw [HistoryKey.cursor, position, index]
        · exact index
        · exact ⟨read, member⟩
        · exact isRecord
        · exact notBefore
        · exact skipped
        · constructor
          · exact validNext.wholeThread
          · exact validNext.small
          · intro other isOther
            cases isOther
            have inside := (List.getElem?_eq_some_iff.mp isRecord).choose
            exact ⟨index, inside, read, member⟩
          · intro isNone
            cases isNone
        · rfl
    | none =>
        have small := run.index_lt
        have atEnd := List.getElem?_eq_none_iff.mp isRecord
        have whole : ensured.exactRunId.isSome = false := by
          rw [validNext.wholeThread]
          rfl
        rw [whole, if_neg (by decide), if_pos (by omega)]
        let following : HistorySource :=
          { ensured with
            sessionIndex := ensured.sessionIndex + 1
            entryIndex := 0
            currentRun := none }
        have validFollowing : following.Valid ledgers := by
          constructor
          · exact validNext.wholeThread
          · show ensured.sessionIndex + 1 < 2 ^ 63
            omega
          · intro other isOther
            cases isOther
          · intro _ nonzero
            exact absurd rfl nonzero
        have rest : before.NoneBetween source.position following.position := by
          refine skipped.trans ?_
          intro key fromLow toHigh has
          -- The rest of this run was empty when it was read.
          obtain ⟨other, isOther, otherIndex, otherIn⟩ := has
          obtain ⟨current, isCurrent, isExtended⟩ :=
            page.before read other isOther
          have sameIndex := isExtended.sessionIndex
          have length := isExtended.records.length_le
          unfold HistoryKey.Before position at fromLow toHigh
          change key.sessionIndex < ensured.sessionIndex + 1 ∨
            key.sessionIndex = ensured.sessionIndex + 1 ∧
              key.entryIndex < 0 at toHigh
          dsimp only at fromLow
          have same := (ledgers read).run_unique isCurrent member (by omega)
          rw [same] at length
          omega
        have recursive := @ih (2 ^ 63 - (ensured.sessionIndex + 1))
          (by omega) following validFollowing rfl
        rcases recursive with ⟨next, isNext, noRecord⟩ |
          ⟨event, key, next, isNext, takes⟩
        · exact .inl ⟨next, isNext, rest.noneFrom noRecord⟩
        · right
          refine ⟨event, key, next, isNext, takes.position, takes.index,
            takes.member, takes.record, ?_, rest.trans takes.skipped,
            takes.valid, takes.next⟩
          have from_ := takes.from_
          unfold HistoryKey.Before position at from_ ⊢
          change ¬ (key.sessionIndex < ensured.sessionIndex + 1 ∨
            key.sessionIndex = ensured.sessionIndex + 1 ∧
              key.entryIndex < 0) at from_
          dsimp only
          omega

end Page

end HistorySource

theorem SessionHistory.HasRecord.small {history : SessionHistory}
    {key : HistoryKey} (has : history.HasRecord key) :
    key.sessionIndex + 1 < 2 ^ 63 ∧ key.entryIndex < 2 ^ 63 := by
  obtain ⟨run, _, index, inRun⟩ := has
  have one := run.index_lt
  have two := run.length_lt
  omega

/-- The entries of a page, with their places from the position on. -/
structure PageOf (json : JsonWriter) (threadId : String)
    (before after : SessionHistory) (position : HistoryKey)
    (entries : List ProfileEventEntry)
    (nextCursor : Option String) (keys : List HistoryKey) : Prop where
  increasing : keys.Pairwise HistoryKey.Before
  from_ : ∀ key ∈ keys, ¬ key.Before position
  stands : List.Forall₂ (after.StandsFor json threadId) keys entries
  complete : nextCursor = none → ∀ key, ¬ key.Before position →
    before.HasRecord key → key ∈ keys
  pending : ∀ cursor, nextCursor = some cursor → ∃ next : HistoryKey,
    cursor = next.cursor ∧ after.HasRecord next ∧ ¬ next.Before position ∧
      (∀ key ∈ keys, key.Before next) ∧
      ∀ key, ¬ key.Before position → key.Before next →
        before.HasRecord key → key ∈ keys

section Page

variable {profileId : ProfileId} {ledgers : Nat → SessionHistory}
  {before after : SessionHistory} {json : JsonWriter} {threadId : String}

/-- A page that ends before the event of the next step. -/
theorem PageOf.stop {source next : HistorySource} {event : HistoryEvent}
    {key : HistoryKey} (page : PageLedgers profileId ledgers before after)
    (takes : source.Takes ledgers before event key next) :
    PageOf json threadId before after source.position [] (some event.position)
      [] := by
  obtain ⟨read, member⟩ := takes.member
  have inRun := (List.getElem?_eq_some_iff.mp takes.record).choose
  have has : (ledgers read).HasRecord key :=
    ⟨event.run, member, takes.index, inRun⟩
  constructor
  · exact .nil
  · intro other isOther
    cases isOther
  · exact .nil
  · intro isNone
    cases isNone
  · intro cursor isCursor
    cases isCursor
    refine ⟨key, takes.position, has.grows (page.after read), takes.from_, ?_,
      ?_⟩
    · intro other isOther
      cases isOther
    · intro other fromLow early has
      exact absurd has (takes.skipped other fromLow early)

/-- A page that begins with the event of the next step. -/
theorem PageOf.take {source next : HistorySource} {event : HistoryEvent}
    {key : HistoryKey} (page : PageLedgers profileId ledgers before after)
    (takes : source.Takes ledgers before event key next)
    {entries : List ProfileEventEntry} {nextCursor : Option String}
    {keys : List HistoryKey}
    (rest : PageOf json threadId before after next.position entries nextCursor
      keys) :
    PageOf json threadId before after source.position
      ((eventEntry json threadId event.run event.record).1 :: entries) nextCursor
      (key :: keys) := by
  obtain ⟨read, member⟩ := takes.member
  have later : ∀ other : HistoryKey,
      ¬ other.Before next.position ↔ key.Before other := by
    intro other
    rw [takes.next]
    unfold HistoryKey.Before
    dsimp only
    omega
  have stands : after.StandsFor json threadId key
      (eventEntry json threadId event.run event.record).1 :=
    SessionHistory.StandsFor.grows
      ⟨event.run, member, takes.index, event.record, takes.record, rfl⟩
      (page.after read)
  have fromSource : ∀ other : HistoryKey, ¬ other.Before next.position →
      ¬ other.Before source.position := by
    intro other isLater
    have one := takes.from_
    have two := (later other).mp isLater
    unfold HistoryKey.Before at *
    omega
  have covered : ∀ other : HistoryKey, ¬ other.Before source.position →
      before.HasRecord other → other = key ∨ ¬ other.Before next.position := by
    intro other fromLow has
    have notSkipped : ¬ other.Before key :=
      fun early => takes.skipped other fromLow early has
    rw [later]
    by_cases same : other = key
    · exact .inl same
    · right
      have different : other.sessionIndex ≠ key.sessionIndex ∨
          other.entryIndex ≠ key.entryIndex := by
        by_contra both
        push Not at both
        exact same (HistoryKey.ext both.1 both.2)
      unfold HistoryKey.Before at notSkipped ⊢
      omega
  constructor
  · refine List.pairwise_cons.mpr ⟨?_, rest.increasing⟩
    intro other isOther
    exact (later other).mp (rest.from_ other isOther)
  · intro other isOther
    rcases List.mem_cons.mp isOther with rfl | isRest
    · exact takes.from_
    · exact fromSource other (rest.from_ other isRest)
  · exact .cons stands rest.stands
  · intro isNone other fromLow has
    rcases covered other fromLow has with rfl | isLater
    · exact List.mem_cons_self
    · exact List.mem_cons_of_mem _ (rest.complete isNone other isLater has)
  · intro cursor isCursor
    obtain ⟨following, isNext, hasNext, fromNext, above, complete⟩ :=
      rest.pending cursor isCursor
    have nextAfter := (later following).mp fromNext
    refine ⟨following, isNext, hasNext, fromSource _ fromNext, ?_, ?_⟩
    · intro other isOther
      rcases List.mem_cons.mp isOther with rfl | isRest
      · exact nextAfter
      · exact above other isRest
    · intro other fromLow early has
      rcases covered other fromLow has with rfl | isLater
      · exact List.mem_cons_self
      · exact List.mem_cons_of_mem _ (complete other isLater early has)

/-- A page at the end of the history. -/
theorem PageOf.last {position : HistoryKey}
    (noRecord : before.NoneFrom position) :
    PageOf json threadId before after position [] none [] := by
  constructor
  · exact .nil
  · intro key isKey
    cases isKey
  · exact .nil
  · intro _ key fromLow has
    exact absurd has (noRecord key fromLow)
  · intro cursor isCursor
    cases isCursor

/-- The loop goes on with an entry that fits. -/
theorem collectEvents_of_fits {source next : HistorySource}
    {event : HistoryEvent} {entries : List ProfileEventEntry}
    (isNext : source.nextEvent ledgers profileId = .ok (some event, next))
    (fits : ThreadEventsResult.serializedFits json
      ⟨threadId, entries ++ [(eventEntry json threadId event.run
        event.record).1], true, some event.position⟩ = true)
    (remaining : Nat) (contentTruncated : Bool) :
    collectEvents ledgers profileId json threadId (remaining + 1) source
        entries contentTruncated =
      collectEvents ledgers profileId json threadId remaining next
        (entries ++ [(eventEntry json threadId event.run event.record).1])
        (contentTruncated ||
          (eventEntry json threadId event.run event.record).2) := by
  rw [collectEvents, isNext]
  dsimp only
  rw [if_pos fits]

/-- What the loop collects after the entries it starts with; with room for an
entry and none before it, it gets on. -/
theorem collectEvents_spec (page : PageLedgers profileId ledgers before after)
    (shortThread : shortId threadId) (remaining : Nat) {source : HistorySource}
    (valid : source.Valid ledgers) (entries : List ProfileEventEntry)
    (contentTruncated : Bool) :
    ∃ result more keys,
      collectEvents ledgers profileId json threadId remaining source entries
        contentTruncated = .ok result ∧
      result.entries = entries ++ more ∧
      PageOf json threadId before after source.position more result.nextCursor
        keys ∧
      (0 < remaining → entries = [] → result.nextCursor ≠ none →
        more ≠ []) := by
  induction remaining generalizing source entries contentTruncated with
  | zero =>
      unfold collectEvents
      rcases HistorySource.nextEvent_spec page valid with
        ⟨next, isNext, noRecord⟩ | ⟨event, key, next, isNext, takes⟩
      · rw [isNext]
        refine ⟨_, [], [], rfl, (List.append_nil _).symm, .last noRecord, ?_⟩
        intro positive
        omega
      · rw [isNext]
        refine ⟨_, [], [], rfl, (List.append_nil _).symm, .stop page takes, ?_⟩
        intro positive
        omega
  | succ remaining ih =>
      unfold collectEvents
      rcases HistorySource.nextEvent_spec page valid with
        ⟨next, isNext, noRecord⟩ | ⟨event, key, next, isNext, takes⟩
      · rw [isNext]
        refine ⟨_, [], [], rfl, (List.append_nil _).symm, .last noRecord, ?_⟩
        intro _ _ pending
        exact absurd rfl pending
      rw [isNext]
      dsimp only
      split
      · obtain ⟨result, more, keys, isResult, isMore, isPage, _⟩ :=
          ih takes.valid (entries ++
            [(eventEntry json threadId event.run event.record).1])
            (contentTruncated ||
              (eventEntry json threadId event.run event.record).2)
        refine ⟨result, _, key :: keys, isResult, ?_, isPage.take page takes, ?_⟩
        · rw [isMore, List.append_assoc, List.singleton_append]
        · intro _ _ _
          exact List.cons_ne_nil _ _
      next tooLarge =>
        refine ⟨_, [], [], rfl, (List.append_nil _).symm, .stop page takes, ?_⟩
        intro _ isFirst
        obtain ⟨read, member⟩ := takes.member
        have short := (page.started read).short event.run member
        have fits := @eventEntry_fits json threadId shortThread event.run short
          event.record key.entryIndex
          (List.getElem?_eq_some_iff.mp takes.record).choose
        rw [takes.position, isFirst, HistoryKey.cursor, ← takes.index] at tooLarge
        exact absurd fits tooLarge

end Page

/-- The client's walk; `pages` counts the reads of a page. -/
structure HistoryWalk where
  ledger : SessionHistory
  cursor : Option String
  finished : Bool
  failed : Bool
  delivered : List ProfileEventEntry
  pages : Nat

/-- One read of a page: the ledgers that its reads see, a ledger after them,
and the limit. -/
structure HistoryPageRead where
  ledgers : Nat → SessionHistory
  ledger : SessionHistory
  limit : Option Nat

namespace HistoryWalk

def start (ledger : SessionHistory) : HistoryWalk :=
  ⟨ledger, none, false, false, [], 0⟩

/-- The thread reads its own history page by page until there is no cursor. -/
def step (json : JsonWriter) (profileId : ProfileId) (threadId : String)
    (walk : HistoryWalk) (read : HistoryPageRead) : Option HistoryWalk :=
  if walk.finished || walk.failed then none
  else
    match readThreadEvents read.ledgers profileId json threadId (.ok ())
      ⟨none, none, walk.cursor, read.limit⟩ with
    | .error _ =>
        some { walk with
          ledger := read.ledger
          failed := true
          pages := walk.pages + 1 }
    | .ok page =>
        some { walk with
          ledger := read.ledger
          cursor := page.nextCursor
          finished := page.nextCursor.isNone
          delivered := walk.delivered ++ page.entries
          pages := walk.pages + 1 }

/-- The ledger grows between and during the reads, every run has started when
it is read, and the limit is admitted. -/
structure Readable (profileId : ProfileId) (walk : HistoryWalk)
    (read : HistoryPageRead) : Prop where
  ledgers : PageLedgers profileId read.ledgers walk.ledger read.ledger
  limit : ∀ limit ∈ read.limit, 0 < limit ∧ limit ≤ maxHistoryLimit

/-- The state of a walk that is at a place or finished. -/
structure Delivers (json : JsonWriter) (threadId : String)
    (first : SessionHistory) (walk : HistoryWalk) (keys : List HistoryKey) :
    Prop where
  notFailed : walk.failed = false
  grows : first.Grows walk.ledger
  increasing : keys.Pairwise HistoryKey.Before
  stands : List.Forall₂ (walk.ledger.StandsFor json threadId) keys walk.delivered
  complete : walk.finished = true → ∀ key, first.HasRecord key → key ∈ keys
  pending : walk.finished = false → ∃ next : HistoryKey,
    (walk.cursor = none ∧ next = ⟨0, 0⟩ ∨
      walk.cursor = some next.cursor ∧ walk.ledger.HasRecord next) ∧
      (∀ key ∈ keys, key.Before next) ∧
      ∀ key, key.Before next → first.HasRecord key → key ∈ keys
  pages : walk.pages ≤ walk.delivered.length + walk.finished.toNat

section Walk

variable {json : JsonWriter} {profileId : ProfileId} {threadId : String}
variable {first : SessionHistory}

/-- Opening at the cursor of a walk stands at its place. -/
theorem open_spec {walk : HistoryWalk} {ledgers : Nat → SessionHistory}
    {next : HistoryKey}
    (grows : ∀ read, walk.ledger.Grows (ledgers read))
    (place : walk.cursor = none ∧ next = ⟨0, 0⟩ ∨
      walk.cursor = some next.cursor ∧ walk.ledger.HasRecord next) :
    ∃ source, HistorySource.open ledgers none walk.cursor = .ok source ∧
      source.Valid ledgers ∧ source.position = next := by
  rcases place with ⟨noCursor, isStart⟩ | ⟨isCursor, has⟩
  · rw [noCursor, isStart]
    refine ⟨_, rfl, ?_, rfl⟩
    constructor
    · rfl
    · show (0 : Nat) < 2 ^ 63
      decide
    · intro run isRun
      cases isRun
    · intro _ nonzero
      exact absurd rfl nonzero
  · have small := has.small
    have parsed := @parseHistoryCursor_historyCursor next.sessionIndex
      next.entryIndex (by omega) (by omega)
    have opened : HistorySource.open ledgers none walk.cursor =
        .ok ⟨none, next.sessionIndex, next.entryIndex, none, 1⟩ := by
      unfold HistorySource.open
      rw [isCursor, HistoryKey.cursor, Option.map_some, parsed]
      rfl
    refine ⟨_, opened, ?_, rfl⟩
    constructor
    · rfl
    · dsimp only
      omega
    · intro run isRun
      cases isRun
    · intro _ _
      obtain ⟨run, member, index, inRun⟩ := has.grows (grows 1)
      exact ⟨run, member, index, inRun.le⟩

theorem historyLimit_spec {limit : Option Nat}
    (admitted : ∀ value ∈ limit, 0 < value ∧ value ≤ maxHistoryLimit) :
    ∃ value, historyLimit limit = .ok value ∧ 0 < value := by
  cases limit with
  | none => exact ⟨50, rfl, by decide⟩
  | some limit =>
      have bounds := admitted limit rfl
      refine ⟨limit, ?_, bounds.1⟩
      unfold historyLimit
      simp only [Option.getD_some]
      rw [if_neg (by omega)]

/-- One page keeps the state of the walk, and delivers something unless it is
the last one. -/
theorem step_delivers (shortThread : shortId threadId)
    {walk after : HistoryWalk} {read : HistoryPageRead}
    {keys : List HistoryKey} (delivers : walk.Delivers json threadId first keys)
    (readable : walk.Readable profileId read)
    (stepped : walk.step json profileId threadId read = some after) :
    (∃ keys, after.Delivers json threadId first keys) ∧
      (after.finished = true ∨
        walk.delivered.length < after.delivered.length) := by
  unfold step at stepped
  obtain ⟨running, stepped⟩ := Option.ite_none_left_eq_some.mp stepped
  rw [delivers.notFailed, Bool.or_false, Bool.not_eq_true] at running
  obtain ⟨next, place, below, covered⟩ := delivers.pending running
  obtain ⟨source, isOpen, valid, position⟩ :=
    open_spec readable.ledgers.before place
  obtain ⟨limit, isLimit, positive⟩ := historyLimit_spec readable.limit
  have fromFirst : PageLedgers profileId read.ledgers first read.ledger :=
    ⟨fun k => delivers.grows.trans (readable.ledgers.before k),
      readable.ledgers.after, readable.ledgers.started⟩
  obtain ⟨page, more, pageKeys, isPage, isMore, pageOf, progress⟩ :=
    @collectEvents_spec _ _ _ _ json _ fromFirst shortThread limit _ valid []
      false
  have isRead : readThreadEvents read.ledgers profileId json threadId (.ok ())
      ⟨none, none, walk.cursor, read.limit⟩ = .ok page := by
    unfold readThreadEvents
    simp only [isOpen, isLimit, Option.getD_none, isPage]
  rw [isRead] at stepped
  cases stepped
  rw [position] at pageOf
  rw [List.nil_append] at isMore
  have later : walk.ledger.Grows read.ledger :=
    (readable.ledgers.before 0).trans (readable.ledgers.after 0)
  have moves : page.nextCursor.isNone = true ∨ 0 < page.entries.length := by
    cases isNext : page.nextCursor with
    | none => exact .inl rfl
    | some cursor =>
        right
        rw [isMore]
        apply List.length_pos_iff.mpr
        apply progress positive rfl
        rw [isNext]
        exact Option.some_ne_none cursor
  have covers : ∀ key : HistoryKey, key ∈ pageKeys ∨ key.Before next →
      first.HasRecord key → key ∈ keys ++ pageKeys := by
    intro key isCovered has
    rw [List.mem_append]
    rcases isCovered with onPage | early
    · exact .inr onPage
    · exact .inl (covered key early has)
  constructor
  · refine ⟨keys ++ pageKeys, ?_⟩
    constructor
    · exact delivers.notFailed
    · exact delivers.grows.trans later
    · refine List.pairwise_append.mpr
        ⟨delivers.increasing, pageOf.increasing, ?_⟩
      intro early isEarly late isLate
      have one := below early isEarly
      have two := pageOf.from_ late isLate
      unfold HistoryKey.Before at *
      omega
    · dsimp only
      rw [isMore]
      exact List.rel_append
        (delivers.stands.imp fun _ _ stands => stands.grows later)
        pageOf.stands
    · intro isLast key has
      apply covers key _ has
      by_cases early : key.Before next
      · exact .inr early
      · exact .inl (pageOf.complete (Option.isNone_iff_eq_none.mp isLast) key
          early has)
    · intro goesOn
      obtain ⟨cursor, isCursor⟩ :=
        Option.isSome_iff_exists.mp (Option.isNone_eq_false_iff.mp goesOn)
      obtain ⟨following, isNext, hasNext, fromNext, above, complete⟩ :=
        pageOf.pending cursor isCursor
      refine ⟨following, .inr ⟨?_, hasNext⟩, ?_, ?_⟩
      · rw [← isNext]
        exact isCursor
      · intro key isKey
        rcases List.mem_append.mp isKey with isOld | isNew
        · have one := below key isOld
          unfold HistoryKey.Before at *
          omega
        · exact above key isNew
      · intro key early has
        apply covers key _ has
        by_cases old : key.Before next
        · exact .inr old
        · exact .inl (complete key old early has)
    · have counted := delivers.pages
      rw [running] at counted
      dsimp only
      rw [List.length_append]
      rcases moves with isLast | positive
      · rw [isLast]
        simp only [Bool.toNat_false, Bool.toNat_true] at counted ⊢
        omega
      · simp only [Bool.toNat_false] at counted
        omega
  · rcases moves with isLast | positive
    · exact .inl isLast
    · right
      dsimp only
      rw [List.length_append]
      omega

/-- A reached walk is at a place or finished. -/
theorem reached_delivers (shortThread : shortId threadId) {walk : HistoryWalk}
    (reached : Reaches (step json profileId threadId) (Readable profileId)
      (start first) walk) :
    ∃ keys, walk.Delivers json threadId first keys := by
  refine @Reaches.invariant _ _ _ _ _
    (fun walk => ∃ keys, walk.Delivers json threadId first keys) ?_ ?_ _ reached
  · refine ⟨[], rfl, .refl first, .nil, .nil, ?_, ?_, Nat.zero_le _⟩
    · intro finished
      cases finished
    · intro _
      refine ⟨⟨0, 0⟩, .inl ⟨rfl, rfl⟩, ?_, ?_⟩
      · intro key isKey
        cases isKey
      · intro key early
        unfold HistoryKey.Before at early
        dsimp only at early
        omega
  · intro walk read after delivers readable stepped
    obtain ⟨keys, delivers⟩ := delivers
    exact (step_delivers shortThread delivers readable stepped).1

end Walk

end HistoryWalk

namespace SessionHistory

/-- The places of all records. -/
def keys (history : SessionHistory) : List HistoryKey :=
  history.runs.flatMap fun run =>
    (List.range run.records.length).map (⟨run.sessionIndex, ·⟩)

def recordCount (history : SessionHistory) : Nat :=
  (history.runs.map (·.records.length)).sum

theorem keys_length (history : SessionHistory) :
    history.keys.length = history.recordCount := by
  unfold keys recordCount
  simp only [List.length_flatMap, List.length_map, List.length_range]

theorem HasRecord.mem_keys {history : SessionHistory} {key : HistoryKey}
    (has : history.HasRecord key) : key ∈ history.keys := by
  obtain ⟨run, member, index, inRun⟩ := has
  refine List.mem_flatMap.mpr ⟨run, member, List.mem_map.mpr
    ⟨key.entryIndex, List.mem_range.mpr inRun, ?_⟩⟩
  exact HistoryKey.ext index rfl

/-- Entries at increasing places are no more than there are records. -/
theorem length_le_recordCount {history : SessionHistory} {json : JsonWriter}
    {threadId : String}
    {keys : List HistoryKey} {entries : List ProfileEventEntry}
    (increasing : keys.Pairwise HistoryKey.Before)
    (stands : List.Forall₂ (history.StandsFor json threadId) keys entries) :
    entries.length ≤ history.recordCount := by
  have distinct : keys.Nodup := by
    refine increasing.imp ?_
    intro one two before same
    rw [same] at before
    unfold HistoryKey.Before at before
    omega
  have recorded : keys ⊆ history.keys := by
    clear increasing distinct
    induction stands with
    | nil => exact List.nil_subset _
    | cons isEntry _ ih =>
        exact List.cons_subset.mpr ⟨isEntry.hasRecord.mem_keys, ih⟩
  rw [← stands.length_eq, ← keys_length]
  exact (distinct.subperm recorded).length_le

end SessionHistory

namespace HistoryWalk

/-- What the walk promises: no page fails; what is delivered stands for records
at strictly increasing places; once there is no cursor, nothing that was there
from the start is missing; and there are at most as many pages as records,
and one. -/
structure ExactlyOnce (json : JsonWriter) (threadId : String)
    (first : SessionHistory) (walk : HistoryWalk) : Prop where
  notFailed : walk.failed = false
  once : ∃ keys : List HistoryKey, keys.Pairwise HistoryKey.Before ∧
    List.Forall₂ (walk.ledger.StandsFor json threadId) keys walk.delivered ∧
    (walk.finished = true → ∀ key, first.HasRecord key → key ∈ keys)
  ends : walk.pages ≤ walk.ledger.recordCount + 1

/-- While every run has started when it is read, the walk delivers every record
exactly once and each page that is not the last delivers something. -/
theorem delivers_started {json : JsonWriter} {profileId : ProfileId}
    {threadId : String} {first : SessionHistory} (shortThread : shortId threadId)
    {walk : HistoryWalk}
    (reached : Reaches (step json profileId threadId) (Readable profileId)
      (start first) walk) :
    walk.ExactlyOnce json threadId first ∧
      ∀ read after, walk.Readable profileId read →
        walk.step json profileId threadId read = some after →
        after.finished = true ∨
          walk.delivered.length < after.delivered.length := by
  obtain ⟨keys, delivers⟩ := reached_delivers shortThread reached
  constructor
  · constructor
    · exact delivers.notFailed
    · exact ⟨keys, delivers.increasing, delivers.stands, delivers.complete⟩
    · have counted := delivers.pages
      have bound := SessionHistory.length_le_recordCount delivers.increasing
        delivers.stands
      have one := Bool.toNat_le walk.finished
      omega
  · intro read after readable stepped
    exact (step_delivers shortThread delivers readable stepped).2

def sampleProfile : ProfileId :=
  ⟨"profile_11", by decide⟩

def startedRecord : RecordedEvent :=
  ⟨0, 1, .runStarted
    { runId := firstRun, identity := .profile sampleProfile 1 }⟩

def startedRun : SessionRunRecords :=
  ⟨"run_1", 0, .finished, [startedRecord], by decide, by decide⟩

/-- A run that is admitted and has not started. -/
def admittedRun : SessionRunRecords :=
  ⟨"run_2", 1, .running, [], by decide, by decide⟩

def startedHistory : SessionHistory :=
  ⟨true, [startedRun], List.pairwise_singleton _ _⟩

def admittedHistory : SessionHistory :=
  ⟨true, [startedRun, admittedRun], by decide⟩

theorem startedHistory_started : startedHistory.Started sampleProfile := by
  constructor
  · rfl
  all_goals
    intro run member
    cases List.mem_singleton.mp member
  · exact List.cons_ne_nil _ _
  · exact ⟨_, rfl, by decide⟩
  · decide +kernel

def laterRecord : RecordedEvent :=
  ⟨0, 2, .runStarted
    { runId := secondRun, identity := .profile sampleProfile 1 }⟩

/-- The run that starts while the first page is read. -/
def laterRun : SessionRunRecords :=
  ⟨"run_2", 1, .running, [laterRecord], by decide, by decide⟩

def grownHistory : SessionHistory :=
  ⟨true, [startedRun, laterRun], by decide⟩

theorem grownHistory_started : grownHistory.Started sampleProfile := by
  constructor
  · rfl
  all_goals
    intro run member
    rcases List.mem_pair.mp member with rfl | rfl
  · exact List.cons_ne_nil _ _
  · exact List.cons_ne_nil _ _
  · exact ⟨_, rfl, by decide⟩
  · exact ⟨_, rfl, by decide⟩
  · decide +kernel
  · decide +kernel

theorem startedHistory_grows : startedHistory.Grows grownHistory := by
  intro run member
  cases List.mem_singleton.mp member
  exact ⟨startedRun, List.mem_cons_self, .refl startedRun⟩

/-- What the first page reads: the second run is there from the third read on. -/
def growingLedgers (read : Nat) : SessionHistory :=
  if read < 2 then startedHistory else grownHistory

theorem pageLedgers_growing : PageLedgers sampleProfile growingLedgers
    startedHistory grownHistory := by
  constructor
  all_goals
    intro read
    unfold growingLedgers
    split
  · exact .refl _
  · exact startedHistory_grows
  · exact startedHistory_grows
  · exact .refl _
  · exact startedHistory_started
  · exact grownHistory_started

def startedEntry : ProfileEventEntry × Bool :=
  eventEntry jsonTextWriter "thread" startedRun startedRecord

def laterEntry : ProfileEventEntry × Bool :=
  eventEntry jsonTextWriter "thread" laterRun laterRecord

theorem shortId_thread : shortId "thread" := by
  decide +kernel

theorem startedEntry_fits : ThreadEventsResult.serializedFits jsonTextWriter
    ⟨"thread", [startedEntry.1], true, some (historyCursor 0 0)⟩ = true :=
  @eventEntry_fits jsonTextWriter "thread" shortId_thread startedRun
    (by decide +kernel) startedRecord 0 (by decide)

theorem laterEntry_fits : ThreadEventsResult.serializedFits jsonTextWriter
    ⟨"thread", [laterEntry.1], true, some (historyCursor 1 0)⟩ = true :=
  @eventEntry_fits jsonTextWriter "thread" shortId_thread laterRun
    (by decide +kernel) laterRecord 0 (by decide)

theorem readThreadEvents_first :
    readThreadEvents growingLedgers sampleProfile jsonTextWriter "thread"
        (.ok ()) ⟨none, none, none, some 1⟩ =
      .ok ⟨"thread", [startedEntry.1], true, some (historyCursor 1 0)⟩ := by
  have first : HistorySource.nextEvent growingLedgers sampleProfile
      ⟨none, 0, 0, none, 1⟩ =
        .ok (some ⟨historyCursor 0 0, startedRun, startedRecord⟩,
          ⟨none, 0, 1, some startedRun, 2⟩) :=
    @HistorySource.nextEvent_of_ensured sampleProfile growingLedgers
      ⟨none, 0, 0, none, 1⟩ ⟨none, 0, 0, some startedRun, 2⟩ rfl
  have atEnd : HistorySource.nextEvent growingLedgers sampleProfile
      ⟨none, 0, 1, some startedRun, 2⟩ =
        HistorySource.nextEvent growingLedgers sampleProfile
          ⟨none, 1, 0, none, 2⟩ :=
    @HistorySource.nextEvent_of_ensured sampleProfile growingLedgers
      ⟨none, 0, 1, some startedRun, 2⟩ ⟨none, 0, 1, some startedRun, 2⟩ rfl
  have second : HistorySource.nextEvent growingLedgers sampleProfile
      ⟨none, 1, 0, none, 2⟩ =
        .ok (some ⟨historyCursor 1 0, laterRun, laterRecord⟩,
          ⟨none, 1, 1, some laterRun, 3⟩) :=
    @HistorySource.nextEvent_of_ensured sampleProfile growingLedgers
      ⟨none, 1, 0, none, 2⟩ ⟨none, 1, 0, some laterRun, 3⟩ rfl
  show collectEvents growingLedgers sampleProfile jsonTextWriter "thread" (0 + 1)
    ⟨none, 0, 0, none, 1⟩ [] false = _
  rw [@collectEvents_of_fits sampleProfile growingLedgers jsonTextWriter "thread"
    _ _ _ [] first startedEntry_fits, collectEvents, atEnd, second]
  rfl

theorem readThreadEvents_second :
    ∃ page, readThreadEvents (fun _ => grownHistory) sampleProfile
        jsonTextWriter "thread" (.ok ())
        ⟨none, none, some (historyCursor 1 0), some 1⟩ = .ok page ∧
      page.entries = [laterEntry.1] ∧ page.nextCursor = none := by
  have opened : HistorySource.open (fun _ => grownHistory) none
      (some (historyCursor 1 0)) = .ok ⟨none, 1, 0, none, 1⟩ := by
    have parsed := @parseHistoryCursor_historyCursor 1 0 (by decide) (by decide)
    unfold HistorySource.open
    rw [Option.map_some, parsed]
    rfl
  have first : HistorySource.nextEvent (fun _ => grownHistory) sampleProfile
      ⟨none, 1, 0, none, 1⟩ =
        .ok (some ⟨historyCursor 1 0, laterRun, laterRecord⟩,
          ⟨none, 1, 1, some laterRun, 2⟩) :=
    @HistorySource.nextEvent_of_ensured sampleProfile (fun _ => grownHistory)
      ⟨none, 1, 0, none, 1⟩ ⟨none, 1, 0, some laterRun, 2⟩ rfl
  have atEnd : HistorySource.nextEvent (fun _ => grownHistory) sampleProfile
      ⟨none, 1, 1, some laterRun, 2⟩ =
        HistorySource.nextEvent (fun _ => grownHistory) sampleProfile
          ⟨none, 2, 0, none, 2⟩ :=
    @HistorySource.nextEvent_of_ensured sampleProfile (fun _ => grownHistory)
      ⟨none, 1, 1, some laterRun, 2⟩ ⟨none, 1, 1, some laterRun, 2⟩ rfl
  have last : HistorySource.nextEvent (fun _ => grownHistory) sampleProfile
      ⟨none, 2, 0, none, 2⟩ = .ok (none, ⟨none, 2, 0, none, 3⟩) :=
    @HistorySource.nextEvent_of_ensured sampleProfile (fun _ => grownHistory)
      ⟨none, 2, 0, none, 2⟩ ⟨none, 2, 0, none, 3⟩ rfl
  unfold readThreadEvents
  rw [opened]
  show ∃ page, collectEvents (fun _ => grownHistory) sampleProfile jsonTextWriter
    "thread" (0 + 1) ⟨none, 1, 0, none, 1⟩ [] false = .ok page ∧ _
  rw [@collectEvents_of_fits sampleProfile (fun _ => grownHistory)
    jsonTextWriter "thread" _ _ _ [] first laterEntry_fits, collectEvents,
    atEnd, last]
  exact ⟨_, rfl, rfl, rfl⟩

/-- Two pages of one entry each; the second run starts during the first one. -/
theorem delivers_grownHistory :
    ∃ walk : HistoryWalk,
      Reaches (step jsonTextWriter sampleProfile "thread")
        (Readable sampleProfile) (start startedHistory) walk ∧
      walk.pages = 2 ∧ walk.finished = true ∧
      walk.delivered = [startedEntry.1, laterEntry.1] ∧
      walk.ExactlyOnce jsonTextWriter "thread" startedHistory := by
  obtain ⟨page, isPage, entries, isLast⟩ := readThreadEvents_second
  have one : ∀ limit ∈ some 1, 0 < limit ∧ limit ≤ maxHistoryLimit := by
    decide
  have firstStep : (start startedHistory).step jsonTextWriter sampleProfile
      "thread" ⟨growingLedgers, grownHistory, some 1⟩ =
        some ⟨grownHistory, some (historyCursor 1 0), false, false,
          [startedEntry.1], 1⟩ := by
    unfold step start
    dsimp only
    rw [if_neg (by decide), readThreadEvents_first]
    rfl
  have secondStep : step jsonTextWriter sampleProfile "thread"
      ⟨grownHistory, some (historyCursor 1 0), false, false, [startedEntry.1], 1⟩
      ⟨fun _ => grownHistory, grownHistory, some 1⟩ =
        some ⟨grownHistory, none, true, false, [startedEntry.1, laterEntry.1],
          2⟩ := by
    unfold step
    dsimp only
    rw [if_neg (by decide), isPage]
    simp only [entries, isLast]
    rfl
  have first := @Reaches.next _ _ (step jsonTextWriter sampleProfile "thread")
    (Readable sampleProfile) _ _ _ _ .start ⟨pageLedgers_growing, one⟩ firstStep
  have second := first.next
    (show Readable sampleProfile _ ⟨fun _ => grownHistory, grownHistory, some 1⟩
      from ⟨⟨fun _ => .refl _, fun _ => .refl _, fun _ => grownHistory_started⟩,
        one⟩) secondStep
  exact ⟨_, second, rfl, rfl, rfl, (delivers_started shortId_thread second).1⟩

/-- The first page fails at a run that has not started; the record before it is
not delivered. -/
theorem hides_admittedHistory :
    ∃ walk : HistoryWalk,
      Reaches (step jsonTextWriter sampleProfile "thread") anyStep
        (start admittedHistory) walk ∧
      admittedHistory.HasRecord ⟨0, 0⟩ ∧ walk.delivered = [] ∧
      ¬ walk.ExactlyOnce jsonTextWriter "thread" admittedHistory := by
  let ledgers : Nat → SessionHistory := fun _ => admittedHistory
  let atStart : HistorySource := ⟨none, 0, 0, none, 1⟩
  let afterFirst : HistorySource := ⟨none, 0, 1, some startedRun, 2⟩
  have first : atStart.nextEvent ledgers sampleProfile =
      .ok (some ⟨historyCursor 0 0, startedRun, startedRecord⟩, afterFirst) :=
    @HistorySource.nextEvent_of_ensured sampleProfile ledgers atStart
      ⟨none, 0, 0, some startedRun, 2⟩ rfl
  have second : afterFirst.nextEvent ledgers sampleProfile = .error .failed := by
    have atEnd : afterFirst.nextEvent ledgers sampleProfile =
        HistorySource.nextEvent ledgers sampleProfile ⟨none, 1, 0, none, 2⟩ :=
      @HistorySource.nextEvent_of_ensured sampleProfile ledgers afterFirst
        afterFirst rfl
    rw [atEnd, HistorySource.nextEvent]
    rfl
  have page : readThreadEvents ledgers sampleProfile jsonTextWriter "thread"
      (.ok ()) ⟨none, none, (start admittedHistory).cursor, none⟩ =
        .error .failed := by
    show collectEvents ledgers sampleProfile jsonTextWriter "thread" (49 + 1)
      atStart [] false = .error .failed
    rw [@collectEvents_of_fits sampleProfile ledgers jsonTextWriter "thread"
      _ _ _ [] first startedEntry_fits, collectEvents, second]
  have stepped : (start admittedHistory).step jsonTextWriter sampleProfile
      "thread" ⟨ledgers, admittedHistory, none⟩ =
        some ⟨admittedHistory, none, false, true, [], 1⟩ := by
    unfold step
    dsimp only
    rw [if_neg (by decide), page]
    rfl
  refine ⟨_, .next .start trivial stepped, ?_, rfl, ?_⟩
  · exact ⟨startedRun, List.mem_cons_self, rfl, by decide⟩
  · intro once
    exact absurd once.notFailed (by decide)

end HistoryWalk

end LogicalReads

end PlatoAgent
