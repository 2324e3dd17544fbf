import Mathlib.Algebra.Order.Floor.Div
import PlatoAgent.CoreEvents

/-!
# What was spoken before an interruption

The latch keeps the samples that every sentence of a run takes, and claims a
word to be spoken once the share of its sentence that ends with it was played.
A word is claimed just if playback has reached its end.
-/

namespace PlatoAgent

namespace U64

def saturate (value : Nat) : UInt64 :=
  .ofNat (min value (2 ^ 64 - 1))

def saturatingAdd (first second : UInt64) : UInt64 :=
  saturate (first.toNat + second.toNat)

def saturatingMul (first second : UInt64) : UInt64 :=
  saturate (first.toNat * second.toNat)

def saturatingSub (first second : UInt64) : UInt64 :=
  saturate (first.toNat - second.toNat)

@[simp]
theorem toNat_saturate (value : Nat) :
    (saturate value).toNat = min value (2 ^ 64 - 1) := by
  unfold saturate
  rw [UInt64.toNat_ofNat']
  omega

theorem toNat_saturatingSub (first second : UInt64) :
    (saturatingSub first second).toNat = first.toNat - second.toNat := by
  have bound := first.toNat_lt
  unfold saturatingSub
  rw [toNat_saturate]
  omega

end U64

/-- `str::split_whitespace`. -/
def splitWhitespace (text : List Char) : List (List Char) :=
  (text.splitOnP isWhitespace).filter (!·.isEmpty)

def joinWords (words : List (List Char)) : List Char :=
  [' '].intercalate words

def normalizeWhitespace (text : List Char) : List Char :=
  joinWords (splitWhitespace text)

/-- Words have characters, and none of them is white space. -/
def AreWords (words : List (List Char)) : Prop :=
  ∀ word ∈ words, word ≠ [] ∧
    ∀ character ∈ word, isWhitespace character = false

theorem mem_splitOnP {text word : List Char}
    (member : word ∈ text.splitOnP isWhitespace) :
    ∀ character ∈ word, isWhitespace character = false := by
  induction text generalizing word with
  | nil =>
      obtain rfl : word = [] := List.mem_singleton.mp member
      simp
  | cons first rest ih =>
      rw [List.splitOnP_cons_eq_if_modifyHead] at member
      split at member
      · rcases List.mem_cons.mp member with rfl | later
        · simp
        · exact ih later
      next isVisible =>
        obtain ⟨head, tail, split⟩ := List.exists_cons_of_ne_nil
          (List.splitOnP_ne_nil isWhitespace rest)
        rw [split] at ih member
        rcases List.mem_cons.mp member with rfl | later
        · intro character within
          rcases List.mem_cons.mp within with rfl | within
          · simpa using isVisible
          · exact ih List.mem_cons_self character within
        · exact ih (List.mem_cons_of_mem _ later)

theorem areWords_splitWhitespace (text : List Char) :
    AreWords (splitWhitespace text) := by
  intro word member
  obtain ⟨isPart, notEmpty⟩ := List.mem_filter.mp member
  exact ⟨by simpa using notEmpty, mem_splitOnP isPart⟩

/-- The words of a joined text. -/
theorem splitWhitespace_joinWords {words : List (List Char)}
    (areWords : AreWords words) : splitWhitespace (joinWords words) = words := by
  unfold splitWhitespace joinWords
  induction words with
  | nil => rfl
  | cons word rest ih =>
      obtain ⟨notEmpty, visible⟩ := areWords word List.mem_cons_self
      have kept : (!word.isEmpty) = true := by
        simpa using notEmpty
      have later := ih fun other member =>
        areWords other (List.mem_cons_of_mem _ member)
      cases rest with
      | nil =>
          rw [List.intercalate_singleton, List.splitOnP_eq_singleton visible]
          exact List.filter_cons_of_pos (p := fun part : List Char => !part.isEmpty) kept
      | cons next others =>
          rw [List.intercalate_cons_cons, List.append_assoc,
            List.singleton_append,
            List.splitOnP_append_cons_of_forall_mem visible ' ' rfl]
          exact (List.filter_cons_of_pos (p := fun part : List Char =>
            !part.isEmpty) kept).trans (congrArg (word :: ·) later)

/-- A sentence of the run and the delta that completed it. -/
structure SpeechSource where
  sentenceIndex : UInt64
  assistantDeltaIndex : UInt64
  deriving DecidableEq, Repr

structure SpokenInterruption where
  playedSamples : UInt64
  sentenceIndex : UInt64
  assistantDeltaIndex : UInt64
  spokenPrefix : String
  deriving DecidableEq, Repr

structure SentenceSpan where
  source : SpeechSource
  text : List Char
  startSample : UInt64
  endSample : UInt64
  isSpoken : splitWhitespace text ≠ []
  isOrdered : startSample < endSample

/-- The spans follow one another from the start of the run on. -/
structure InterruptionLatch where
  runStartSample : UInt64
  spans : List SentenceSpan
  interruption : Option SpokenInterruption
  isOrdered : spans.Pairwise fun earlier later =>
    earlier.endSample ≤ later.startSample

def SentenceSpan.words (span : SentenceSpan) : List (List Char) :=
  splitWhitespace span.text

def proportionalEnd (start frames : UInt64) (completed total : Nat) : UInt64 :=
  let total := max (U64.saturate total) 1
  U64.saturatingAdd start
    (U64.saturatingAdd (U64.saturatingMul frames (U64.saturate completed))
      (total - 1) / total)

namespace InterruptionLatch

def new : InterruptionLatch :=
  ⟨0, [], none, .nil⟩

def beginRun (runStartSample : UInt64) : InterruptionLatch :=
  ⟨runStartSample, [], none, .nil⟩

/-- The last span ends last. -/
theorem endSample_le_of_ordered {spans : List SentenceSpan}
    (ordered : spans.Pairwise fun earlier later =>
      earlier.endSample ≤ later.startSample)
    {startSample : UInt64}
    (follows : spans.getLast?.any (startSample < ·.endSample) ≠ true) :
    ∀ span ∈ spans, span.endSample ≤ startSample := by
  intro span member
  cases isLast : spans.getLast? with
  | none =>
      rw [List.getLast?_eq_none_iff.mp isLast] at member
      cases member
  | some last =>
      rw [isLast] at follows
      have lastEnds : last.endSample ≤ startSample := by
        simpa using follows
      obtain ⟨front, rfl⟩ := List.getLast?_eq_some_iff.mp isLast
      rcases List.mem_append.mp member with earlier | own
      · have before := (List.pairwise_append.mp ordered).2.2 span earlier last
          List.mem_cons_self
        exact UInt64.le_trans before
          (UInt64.le_trans (UInt64.le_of_lt last.isOrdered) lastEnds)
      · obtain rfl : span = last := List.mem_singleton.mp own
        exact lastEnds

theorem splitWhitespace_normalized {text : List Char}
    (notEmpty : normalizeWhitespace text ≠ []) :
    splitWhitespace (normalizeWhitespace text) ≠ [] := by
  intro noWords
  have same := splitWhitespace_joinWords (areWords_splitWhitespace text)
  apply notEmpty
  unfold normalizeWhitespace at noWords ⊢
  rw [noWords] at same
  rw [← same]
  rfl

/-- `record_sentence`; a refused sentence changes nothing. -/
def recordSentence (latch : InterruptionLatch) (source : SpeechSource)
    (text : List Char) (startSample endSample : UInt64) :
    Option InterruptionLatch :=
  let normalized := normalizeWhitespace text
  if refused : normalized = [] ∨ endSample ≤ startSample ∨
      startSample < latch.runStartSample ∨
      latch.spans.getLast?.any (startSample < ·.endSample) = true then
    none
  else
    have accepted := not_or.mp refused
    have inTime := not_or.mp accepted.2
    have following := not_or.mp inTime.2
    some
      { latch with
        spans := latch.spans ++ [⟨source, normalized, startSample, endSample,
          splitWhitespace_normalized accepted.1, UInt64.not_le.mp inTime.1⟩]
        isOrdered := List.pairwise_append.mpr ⟨latch.isOrdered,
          List.pairwise_singleton _ _, fun span member _ isNew => by
            rw [List.mem_singleton.mp isNew]
            exact endSample_le_of_ordered latch.isOrdered following.2 span
              member⟩ }

/-- The words of a span that were played, from the word at an index on. -/
def playedWords (played : UInt64) (span : SentenceSpan) (index : Nat) :
    List (List Char) → List (List Char)
  | [] => []
  | word :: rest =>
      let spanFrames := U64.saturatingSub span.endSample span.startSample
      let emittedFrames :=
        U64.saturatingSub (min played span.endSample) span.startSample
      let wordEnd := proportionalEnd span.startSample spanFrames (index + 1)
        span.words.length
      if emittedFrames = spanFrames ∨ wordEnd ≤ played then
        word :: playedWords played span (index + 1) rest
      else []

/-- The loop over the spans: the words and the last source. -/
def playedSpans (played : UInt64) : List SentenceSpan →
    List (List Char) × Option SpeechSource →
    List (List Char) × Option SpeechSource
  | [], found => found
  | span :: rest, found =>
      if played ≤ span.startSample then found
      else
        let found :=
          (found.1 ++ playedWords played span 0 span.words, some span.source)
        if played < span.endSample then found
        else playedSpans played rest found

def interrupt (latch : InterruptionLatch) (played : UInt64) :
    InterruptionLatch :=
  if latch.interruption.isSome ∨ played ≤ latch.runStartSample then latch
  else
    let found := playedSpans played latch.spans ([], none)
    match found.2 with
    | none => latch
    | some source =>
        { latch with
          interruption := some
            { playedSamples := U64.saturatingSub played latch.runStartSample
              sentenceIndex := source.sentenceIndex
              assistantDeltaIndex := source.assistantDeltaIndex
              spokenPrefix := String.ofList (joinWords found.1) } }

def take (latch : InterruptionLatch) :
    Option SpokenInterruption × InterruptionLatch :=
  (latch.interruption, { latch with interruption := none })

end InterruptionLatch

namespace SentenceSpan

def frames (span : SentenceSpan) : Nat :=
  span.endSample.toNat - span.startSample.toNat

/-- The sample at which a word has been played. -/
def wordEnd (span : SentenceSpan) (index : Nat) : Nat :=
  span.startSample.toNat + (span.frames * (index + 1)) ⌈/⌉ span.words.length

/-- The number of words that have been played at a sample. -/
def spokenCount (span : SentenceSpan) (played : Nat) : Nat :=
  min span.words.length
    (span.words.length * (played - span.startSample.toNat) / span.frames)

/-- The product of the frames and the words is a `u64`. -/
def Fits (span : SentenceSpan) : Prop :=
  span.frames * span.words.length < 2 ^ 64

variable {span : SentenceSpan} {played : Nat}

theorem frames_pos (span : SentenceSpan) : 0 < span.frames := by
  have ordered := UInt64.lt_iff_toNat_lt.mp span.isOrdered
  unfold frames
  omega

theorem startSample_add_frames (span : SentenceSpan) :
    span.startSample.toNat + span.frames = span.endSample.toNat := by
  have ordered := UInt64.lt_iff_toNat_lt.mp span.isOrdered
  unfold frames
  omega

theorem length_words_pos (span : SentenceSpan) : 0 < span.words.length :=
  List.length_pos_iff.mpr span.isSpoken

theorem wordEnd_le_iff {index : Nat} (isWord : index < span.words.length) :
    span.wordEnd index ≤ played ↔ index < span.spokenCount played := by
  have positive := span.length_words_pos
  have framesPositive := span.frames_pos
  unfold wordEnd spokenCount
  rw [lt_min_iff, ← Nat.add_one_le_iff (n := index) (m := _ / _),
    Nat.le_div_iff_mul_le framesPositive]
  constructor
  · intro ended
    have started : span.startSample.toNat ≤ played := by omega
    have share : (span.frames * (index + 1)) ⌈/⌉ span.words.length ≤
        played - span.startSample.toNat := by omega
    refine ⟨isWord, ?_⟩
    rw [Nat.mul_comm]
    exact (ceilDiv_le_iff_le_mul positive).mp share
  · rintro ⟨_, share⟩
    rw [Nat.mul_comm] at share
    have some : (span.frames * (index + 1)) ⌈/⌉ span.words.length ≤
        played - span.startSample.toNat :=
      (ceilDiv_le_iff_le_mul positive).mpr share
    have started : 0 < span.frames * (index + 1) :=
      Nat.mul_pos framesPositive (Nat.succ_pos index)
    have after : played - span.startSample.toNat ≠ 0 := by
      intro zero
      rw [zero, Nat.mul_zero] at share
      omega
    omega

theorem spokenCount_le (span : SentenceSpan) (played : Nat) :
    span.spokenCount played ≤ span.words.length :=
  min_le_left ..

/-- A span is spoken whole just when it has been played whole. -/
theorem length_words_le_spokenCount_iff :
    span.words.length ≤ span.spokenCount played ↔
      span.endSample.toNat ≤ played := by
  have positive := span.length_words_pos
  have last := @wordEnd_le_iff span played (span.words.length - 1) (by omega)
  have ends : span.wordEnd (span.words.length - 1) = span.endSample.toNat := by
    unfold wordEnd
    rw [Nat.sub_add_cancel positive, Nat.mul_comm, ← smul_eq_mul,
      smul_ceilDiv positive]
    exact span.startSample_add_frames
  rw [ends] at last
  rw [last]
  omega

/-- Nothing of a span is spoken before it starts. -/
theorem spokenCount_eq_zero (before : played ≤ span.startSample.toNat) :
    span.spokenCount played = 0 := by
  unfold spokenCount
  rw [Nat.sub_eq_zero_of_le before, Nat.mul_zero, Nat.zero_div, Nat.min_zero]

theorem spokenCount_mono (span : SentenceSpan) : Monotone span.spokenCount := by
  intro earlier later order
  unfold spokenCount
  gcongr

end SentenceSpan

/-- Rounding up is not lost when the sum saturates. -/
theorem min_div_eq_ceilDiv {frames words part limit : Nat}
    (positive : 0 < words) (isPart : part ≤ frames * words)
    (fits : frames * words ≤ limit) :
    min (part + (words - 1)) limit / words = part ⌈/⌉ words := by
  have ceiling : part ⌈/⌉ words = (part + (words - 1)) / words := by
    rw [Nat.ceilDiv_eq_add_pred_div, Nat.add_sub_assoc positive]
  rw [ceiling]
  rcases Nat.le_total (part + (words - 1)) limit with small | large
  · rw [Nat.min_eq_left small]
  · rw [Nat.min_eq_right large]
    apply Nat.le_antisymm (Nat.div_le_div_right large)
    have most : part ⌈/⌉ words ≤ frames := by
      apply (ceilDiv_le_iff_le_mul positive).mpr
      rwa [Nat.mul_comm]
    rw [← ceiling]
    exact most.trans ((Nat.le_div_iff_mul_le positive).mpr fits)

theorem toNat_max_one {value : UInt64} (positive : 0 < value.toNat) :
    (max value 1).toNat = value.toNat := by
  change (if value ≤ 1 then (1 : UInt64) else value).toNat = value.toNat
  split
  next small =>
    have bound := UInt64.le_iff_toNat_le.mp small
    have one : (1 : UInt64).toNat = 1 := rfl
    omega
  next => rfl

theorem toNat_proportionalEnd {span : SentenceSpan} (fits : span.Fits)
    {index : Nat} (isWord : index < span.words.length) :
    (proportionalEnd span.startSample
      (U64.saturatingSub span.endSample span.startSample) (index + 1)
      span.words.length).toNat = span.wordEnd index := by
  have wordsPositive := span.length_words_pos
  have framesPositive := span.frames_pos
  have ends := span.startSample_add_frames
  have bound := span.endSample.toNat_lt
  unfold SentenceSpan.Fits at fits
  have fewWords : span.words.length ≤ 2 ^ 64 - 1 := by
    have := Nat.le_mul_of_pos_left span.words.length framesPositive
    omega
  have part : span.frames * (index + 1) ≤ span.frames * span.words.length :=
    Nat.mul_le_mul_left _ isWord
  have total : (max (U64.saturate span.words.length) 1).toNat =
      span.words.length := by
    have saturated : (U64.saturate span.words.length).toNat =
        span.words.length := by
      rw [U64.toNat_saturate]
      omega
    rw [toNat_max_one (by omega), saturated]
  have frames : (U64.saturatingSub span.endSample span.startSample).toNat =
      span.frames := U64.toNat_saturatingSub ..
  have product : (U64.saturatingMul (U64.saturatingSub span.endSample
      span.startSample) (U64.saturate (index + 1))).toNat =
        span.frames * (index + 1) := by
    have completed : (U64.saturate (index + 1)).toNat = index + 1 := by
      rw [U64.toNat_saturate]
      omega
    unfold U64.saturatingMul
    rw [U64.toNat_saturate, frames, completed]
    omega
  have least : (max (U64.saturate span.words.length) 1 - 1).toNat =
      span.words.length - 1 := by
    rw [UInt64.toNat_sub_of_le, total]
    · rfl
    · rw [UInt64.le_iff_toNat_le, total]
      exact wordsPositive
  have most : (span.frames * (index + 1)) ⌈/⌉ span.words.length ≤
      span.frames := by
    apply (ceilDiv_le_iff_le_mul wordsPositive).mpr
    rwa [Nat.mul_comm span.words.length]
  unfold proportionalEnd SentenceSpan.wordEnd
  dsimp only
  unfold U64.saturatingAdd
  rw [U64.toNat_saturate, UInt64.toNat_div, U64.toNat_saturate, product, least,
    total, min_div_eq_ceilDiv wordsPositive part (by omega)]
  omega

/-- The test of the loop over the words. -/
theorem isPlayed_iff {span : SentenceSpan} (fits : span.Fits) {played : UInt64}
    {index : Nat} (isWord : index < span.words.length) :
    U64.saturatingSub (min played span.endSample) span.startSample =
          U64.saturatingSub span.endSample span.startSample ∨
        proportionalEnd span.startSample
          (U64.saturatingSub span.endSample span.startSample) (index + 1)
          span.words.length ≤ played ↔
      index < span.spokenCount played.toNat := by
  rw [← SentenceSpan.wordEnd_le_iff isWord,
    ← toNat_proportionalEnd fits isWord, ← UInt64.le_iff_toNat_le]
  apply or_iff_right_of_imp
  intro whole
  -- The whole span was played, and with it every word.
  have ordered := UInt64.lt_iff_toNat_lt.mp span.isOrdered
  have emitted := congrArg UInt64.toNat whole
  rw [U64.toNat_saturatingSub, U64.toNat_saturatingSub] at emitted
  have ended : span.endSample.toNat ≤ played.toNat := by
    by_contra unfinished
    have least : min played span.endSample = played := by
      change (if played ≤ span.endSample then played else span.endSample) = _
      rw [if_pos (UInt64.le_iff_toNat_le.mpr (by omega))]
    rw [least] at emitted
    omega
  have all := SentenceSpan.length_words_le_spokenCount_iff.mpr ended
  rw [UInt64.le_iff_toNat_le, toNat_proportionalEnd fits isWord,
    SentenceSpan.wordEnd_le_iff isWord]
  omega

theorem playedWords_eq {span : SentenceSpan} (fits : span.Fits)
    {played : UInt64} {index : Nat} {words : List (List Char)}
    (rest : index + words.length = span.words.length) :
    InterruptionLatch.playedWords played span index words =
      words.take (span.spokenCount played.toNat - index) := by
  induction words generalizing index with
  | nil => rw [List.take_nil]; rfl
  | cons word later ih =>
      rw [List.length_cons] at rest
      have isPlayed := @isPlayed_iff _ fits played index
        (by omega)
      unfold InterruptionLatch.playedWords
      dsimp only
      split
      next test =>
        have spoken := isPlayed.mp test
        obtain ⟨count, isCount⟩ :=
          Nat.exists_eq_add_of_lt spoken
        rw [ih (by omega), show span.spokenCount played.toNat - index =
          (span.spokenCount played.toNat - (index + 1)) + 1 by omega,
          List.take_succ_cons]
      next test =>
        have unspoken := mt isPlayed.mpr test
        rw [Nat.sub_eq_zero_of_le (Nat.not_lt.mp unspoken), List.take_zero]

section Spans

variable {spans : List SentenceSpan} {played : UInt64}

/-- The number of words of all spans that have been played. -/
def spokenTotal (spans : List SentenceSpan) (played : Nat) : Nat :=
  (spans.map (·.spokenCount played)).sum

/-- The last span that was started. -/
def lastStarted (spans : List SentenceSpan) (played : UInt64) :
    Option SentenceSpan :=
  (spans.filter fun span => span.startSample < played).getLast?

theorem spokenTotal_cons (span : SentenceSpan) (rest : List SentenceSpan)
    (played : Nat) :
    spokenTotal (span :: rest) played =
      span.spokenCount played + spokenTotal rest played :=
  rfl

theorem spokenTotal_append (before after : List SentenceSpan) (played : Nat) :
    spokenTotal (before ++ after) played =
      spokenTotal before played + spokenTotal after played := by
  unfold spokenTotal
  rw [List.map_append, List.sum_append]

theorem spokenTotal_mono (spans : List SentenceSpan) :
    Monotone (spokenTotal spans) := by
  intro earlier later order
  unfold spokenTotal
  exact List.sum_le_sum fun span _ => span.spokenCount_mono order

theorem spokenTotal_eq_zero {played : Nat}
    (unstarted : ∀ span ∈ spans, played ≤ span.startSample.toNat) :
    spokenTotal spans played = 0 := by
  unfold spokenTotal
  rw [List.sum_eq_zero]
  intro count member
  obtain ⟨span, isSpan, rfl⟩ := List.mem_map.mp member
  exact SentenceSpan.spokenCount_eq_zero (unstarted span isSpan)

theorem spokenTotal_le_length (spans : List SentenceSpan) (played : Nat) :
    spokenTotal spans played ≤ (spans.flatMap SentenceSpan.words).length := by
  induction spans with
  | nil => exact le_rfl
  | cons span rest ih =>
      have most := span.spokenCount_le played
      rw [spokenTotal_cons, List.flatMap_cons, List.length_append]
      omega

/-- All words of spans that have been played whole. -/
theorem spokenTotal_eq_length {played : Nat}
    (ended : ∀ span ∈ spans, span.endSample.toNat ≤ played) :
    spokenTotal spans played = (spans.flatMap SentenceSpan.words).length := by
  induction spans with
  | nil => rfl
  | cons span rest ih =>
      have all := SentenceSpan.length_words_le_spokenCount_iff.mpr
        (ended span List.mem_cons_self)
      have most := span.spokenCount_le played
      rw [spokenTotal_cons, List.flatMap_cons, List.length_append,
        ih fun other member => ended other (List.mem_cons_of_mem _ member)]
      omega

theorem lastStarted_eq_none
    (unstarted : ∀ span ∈ spans, played.toNat ≤ span.startSample.toNat) :
    lastStarted spans played = none := by
  unfold lastStarted
  rw [List.getLast?_eq_none_iff, List.filter_eq_nil_iff]
  intro span member
  have before := unstarted span member
  simp only [decide_eq_true_eq, UInt64.lt_iff_toNat_lt]
  omega

theorem lastStarted_cons {span : SentenceSpan} (rest : List SentenceSpan)
    (started : span.startSample < played) :
    lastStarted (span :: rest) played =
      (lastStarted rest played).or (some span) := by
  have kept : (span :: rest).filter (fun span => span.startSample < played) =
      span :: rest.filter fun span => span.startSample < played :=
    List.filter_cons_of_pos (p := fun span : SentenceSpan =>
      decide (span.startSample < played)) (decide_eq_true started)
  unfold lastStarted
  rw [kept, List.getLast?_cons]
  cases (rest.filter fun span => span.startSample < played).getLast? <;> rfl

theorem playedSpans_eq
    (ordered : spans.Pairwise fun earlier later =>
      earlier.endSample ≤ later.startSample)
    (fits : ∀ span ∈ spans, span.Fits)
    (found : List (List Char) × Option SpeechSource) :
    InterruptionLatch.playedSpans played spans found =
      (found.1 ++ (spans.flatMap SentenceSpan.words).take
          (spokenTotal spans played.toNat),
        ((lastStarted spans played).map SentenceSpan.source).or found.2) := by
  induction spans generalizing found with
  | nil =>
      change found = (found.1 ++ List.take _ [], none.or found.2)
      rw [List.take_nil, List.append_nil]
      rfl
  | cons span rest ih =>
      obtain ⟨follow, restOrdered⟩ := List.pairwise_cons.mp ordered
      have spanOrdered := UInt64.lt_iff_toNat_lt.mp span.isOrdered
      have unstarted (early : played.toNat ≤ span.endSample.toNat) :
          ∀ other ∈ rest, played.toNat ≤ other.startSample.toNat := by
        intro other member
        have := UInt64.le_iff_toNat_le.mp (follow other member)
        omega
      have own := @playedWords_eq _ (fits span List.mem_cons_self) played
        _ _ (Nat.zero_add span.words.length)
      rw [Nat.sub_zero] at own
      have most := span.spokenCount_le played.toNat
      rw [InterruptionLatch.playedSpans, spokenTotal_cons, List.flatMap_cons]
      by_cases started : played ≤ span.startSample
      · have early := UInt64.le_iff_toNat_le.mp started
        have noneStarted : ∀ other ∈ span :: rest,
            played.toNat ≤ other.startSample.toNat := by
          intro other member
          rcases List.mem_cons.mp member with rfl | member
          · exact early
          · exact unstarted (by omega) other member
        rw [if_pos started, SentenceSpan.spokenCount_eq_zero early,
          spokenTotal_eq_zero (unstarted (by omega)),
          lastStarted_eq_none noneStarted, List.take_zero, List.append_nil]
        rfl
      · have isStarted := UInt64.not_le.mp started
        rw [if_neg started, lastStarted_cons rest isStarted]
        dsimp only
        rw [own]
        by_cases inside : played < span.endSample
        · have early := UInt64.lt_iff_toNat_lt.mp inside
          rw [if_pos inside, spokenTotal_eq_zero (unstarted (by omega)),
            lastStarted_eq_none (unstarted (by omega)), Nat.add_zero,
            List.take_append_of_le_length most]
          rfl
        · have ended := UInt64.le_iff_toNat_le.mp (UInt64.not_lt.mp inside)
          have all := SentenceSpan.length_words_le_spokenCount_iff.mpr ended
          have count : span.spokenCount played.toNat = span.words.length := by
            omega
          rw [if_neg inside, ih restOrdered fun other member =>
            fits other (List.mem_cons_of_mem _ member)]
          rw [count, List.take_length_add_append, List.take_length,
            List.append_assoc]
          cases lastStarted rest played <;> rfl

/-- Which words are among those that were played. -/
theorem lt_spokenTotal_iff {before after : List SentenceSpan}
    {span : SentenceSpan}
    (ordered : (before ++ span :: after).Pairwise fun earlier later =>
      earlier.endSample ≤ later.startSample)
    {index : Nat} (isWord : index < span.words.length) (played : Nat) :
    (before.flatMap SentenceSpan.words).length + index <
        spokenTotal (before ++ span :: after) played ↔
      span.wordEnd index ≤ played := by
  obtain ⟨_, rest, between⟩ := List.pairwise_append.mp ordered
  obtain ⟨follow, _⟩ := List.pairwise_cons.mp rest
  have spanOrdered := UInt64.lt_iff_toNat_lt.mp span.isOrdered
  rw [SentenceSpan.wordEnd_le_iff isWord, spokenTotal_append, spokenTotal_cons]
  constructor
  · intro early
    by_contra unspoken
    have unfinished : played < span.endSample.toNat := by
      by_contra ended
      have := SentenceSpan.length_words_le_spokenCount_iff.mpr
        (Nat.not_lt.mp ended)
      omega
    have none : spokenTotal after played = 0 := by
      apply spokenTotal_eq_zero
      intro other member
      have := UInt64.le_iff_toNat_le.mp (follow other member)
      omega
    have most : spokenTotal before played ≤
        (before.flatMap SentenceSpan.words).length :=
      spokenTotal_le_length before played
    omega
  · intro spoken
    have started : span.startSample.toNat < played := by
      by_contra unstarted
      have := SentenceSpan.spokenCount_eq_zero (Nat.not_lt.mp unstarted)
      omega
    have all : spokenTotal before played =
        (before.flatMap SentenceSpan.words).length := by
      apply spokenTotal_eq_length
      intro earlier member
      have := UInt64.le_iff_toNat_le.mp
        (between earlier member span List.mem_cons_self)
      omega
    omega

/-- Whether all words of a span are among them. -/
theorem le_spokenTotal_iff {before after : List SentenceSpan}
    {span : SentenceSpan}
    (ordered : (before ++ span :: after).Pairwise fun earlier later =>
      earlier.endSample ≤ later.startSample) (played : Nat) :
    (before.flatMap SentenceSpan.words).length + span.words.length ≤
        spokenTotal (before ++ span :: after) played ↔
      span.endSample.toNat ≤ played := by
  have positive := span.length_words_pos
  have last := lt_spokenTotal_iff ordered
    (show span.words.length - 1 < span.words.length by omega) played
  rw [SentenceSpan.wordEnd_le_iff (by omega)] at last
  have whole := @SentenceSpan.length_words_le_spokenCount_iff span played
  constructor
  · intro all
    have spoken := last.mp (by omega)
    exact whole.mp (by omega)
  · intro ended
    have all := whole.mpr ended
    have spoken := last.mpr (by omega)
    omega

end Spans

namespace InterruptionLatch

/-- The words of all spans. -/
def words (latch : InterruptionLatch) : List (List Char) :=
  latch.spans.flatMap SentenceSpan.words

/-- What playback does during a run. -/
inductive LatchAction where
  | recordSentence (source : SpeechSource) (text : List Char)
      (startSample endSample : UInt64)
  | interrupt (played : UInt64)

def act (latch : InterruptionLatch) : LatchAction → InterruptionLatch
  | .recordSentence source text startSample endSample =>
      (latch.recordSentence source text startSample endSample).getD latch
  | .interrupt played => latch.interrupt played

theorem interrupt_of_some {latch : InterruptionLatch}
    {made : SpokenInterruption} (isMade : latch.interruption = some made)
    (played : UInt64) : latch.interrupt played = latch := by
  unfold interrupt
  rw [isMade]
  exact if_pos (.inl rfl)

/-- An interruption is kept until it is taken. -/
theorem interruption_act {latch : InterruptionLatch}
    {made : SpokenInterruption} (isMade : latch.interruption = some made)
    (action : LatchAction) : (latch.act action).interruption = some made := by
  cases action with
  | recordSentence source text startSample endSample =>
      unfold act recordSentence
      dsimp only
      split <;> exact isMade
  | interrupt played =>
      rw [act, interrupt_of_some isMade]
      exact isMade

theorem interruption_run {latch : InterruptionLatch}
    {made : SpokenInterruption} (isMade : latch.interruption = some made)
    (actions : List LatchAction) :
    (actions.foldl act latch).interruption = some made := by
  induction actions generalizing latch with
  | nil => exact isMade
  | cons action rest ih => exact ih (interruption_act isMade action)

theorem interruption_interrupt {latch : InterruptionLatch}
    (fits : ∀ span ∈ latch.spans, span.Fits) {played : UInt64}
    (uninterrupted : latch.interruption = none)
    (beyond : latch.runStartSample < played) :
    (latch.interrupt played).interruption =
      (lastStarted latch.spans played).map fun last =>
        { playedSamples := U64.saturatingSub played latch.runStartSample
          sentenceIndex := last.source.sentenceIndex
          assistantDeltaIndex := last.source.assistantDeltaIndex
          spokenPrefix := String.ofList (joinWords (latch.words.take
            (spokenTotal latch.spans played.toNat))) } := by
  have isOpen : ¬ (latch.interruption.isSome ∨ played ≤ latch.runStartSample) := by
    rw [uninterrupted]
    rintro (isMade | early)
    · cases isMade
    · exact UInt64.not_le.mpr beyond early
  unfold interrupt
  rw [if_neg isOpen]
  dsimp only
  rw [playedSpans_eq latch.isOrdered fits]
  cases lastStarted latch.spans played with
  | none => exact uninterrupted
  | some last => rfl

/-- The interruption of a run claims the words that were played. -/
structure ClaimsPlayed (latch : InterruptionLatch) : Prop where
  /-- An interrupt beyond the start of the run claims the first words, and the
  source of the last span that was started. -/
  interrupted : ∀ played, latch.interruption = none →
    latch.runStartSample < played →
    (latch.interrupt played).interruption =
      (lastStarted latch.spans played).map fun last =>
        { playedSamples := U64.saturatingSub played latch.runStartSample
          sentenceIndex := last.source.sentenceIndex
          assistantDeltaIndex := last.source.assistantDeltaIndex
          spokenPrefix := String.ofList (joinWords (latch.words.take
            (spokenTotal latch.spans played.toNat))) }
  word : ∀ before span after, latch.spans = before ++ span :: after →
    ∀ index < span.words.length, ∀ played,
      ((before.flatMap SentenceSpan.words).length + index <
          spokenTotal latch.spans played ↔
        span.startSample.toNat +
          ((span.endSample.toNat - span.startSample.toNat) * (index + 1)) ⌈/⌉
            span.words.length ≤ played)
  span : ∀ before span after, latch.spans = before ++ span :: after →
    ∀ played,
      ((before.flatMap SentenceSpan.words).length + span.words.length ≤
          spokenTotal latch.spans played ↔
        span.endSample.toNat ≤ played)
  longer : Monotone (spokenTotal latch.spans)
  /-- An interrupt before every span changes nothing. -/
  unstarted : ∀ played, played ≤ latch.runStartSample ∨
      lastStarted latch.spans played = none →
    latch.interrupt played = latch
  /-- A claim is kept until it is taken, and it is taken once. -/
  first : ∀ made, latch.interruption = some made →
    ∀ actions : List LatchAction,
      (actions.foldl act latch).take.1 = some made ∧
        (actions.foldl act latch).take.2.take.1 = none

theorem claimsPlayed (latch : InterruptionLatch)
    (fits : ∀ span ∈ latch.spans, span.Fits) : latch.ClaimsPlayed where
  interrupted _ := interruption_interrupt fits
  word before span after isSplit index isWord played := by
    rw [isSplit]
    exact lt_spokenTotal_iff (isSplit ▸ latch.isOrdered) isWord played
  span before span after isSplit played := by
    rw [isSplit]
    exact le_spokenTotal_iff (isSplit ▸ latch.isOrdered) played
  longer := spokenTotal_mono latch.spans
  unstarted played isUnstarted := by
    unfold interrupt
    split
    · rfl
    next isNotRefused =>
      dsimp only
      have none : lastStarted latch.spans played = none :=
        isUnstarted.resolve_left (not_or.mp isNotRefused).2
      rw [playedSpans_eq latch.isOrdered fits, none]
      rfl
  first made isMade actions := ⟨interruption_run isMade actions, rfl⟩

/-- Two sentences of a run. -/
def sampleLatch : InterruptionLatch :=
  [.recordSentence ⟨0, 3⟩ "  one   two three four  ".toList 1000 1400,
    .recordSentence ⟨1, 7⟩ "five six".toList 1400 1600].foldl act
      (beginRun 1000)

instance (span : SentenceSpan) : Decidable span.Fits :=
  inferInstanceAs (Decidable (_ < _))

theorem claimsPlayed_sample :
    sampleLatch.words.length = 6 ∧ sampleLatch.ClaimsPlayed :=
  ⟨by decide +kernel, claimsPlayed sampleLatch (by decide +kernel)⟩

/-- A run whose only sentence starts late: the first interrupt, though beyond
the start of the run, claims nothing, and the second one claims a word. -/
theorem interrupt_later :
    ((beginRun 0).recordSentence ⟨0, 0⟩ "word".toList 100 200).map
        (fun latch => ((latch.interrupt 50).interrupt 200).take.1) =
      some (some ⟨200, 0, 0, "word"⟩) := by
  decide +kernel

end InterruptionLatch

end PlatoAgent
