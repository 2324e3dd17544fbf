import PlatoAgent.LedgerTypes
import PlatoAgent.StreamingBuffer

/-!
# The rolling recognizer

The Whisper recognizer decodes the samples that are pending, at most five
seconds of them, whenever enough new ones have come.  What two decodes agree on
outside the overlap is committed as text and its samples are drained.  The
decoder is a parameter.
-/

namespace PlatoAgent

namespace Whisper

def timestampSampleCount : Nat := 160

def maxEndPaddingSamples : Nat := 2 * timestampSampleCount

structure DecodedSegment where
  text : List Char
  startSample : Nat
  endSample : Nat
  deriving DecidableEq, Repr

structure DecodedWindow where
  segments : List DecodedSegment
  deriving DecidableEq, Repr

namespace DecodedWindow

/-- `DecodedWindow::default`. -/
def empty : DecodedWindow := ⟨[]⟩

def text (window : DecodedWindow) : List Char :=
  window.segments.flatMap DecodedSegment.text

end DecodedWindow

structure StablePrefix where
  text : List Char
  drainSamples : Nat
  deriving DecidableEq, Repr

def timestampSamples (timestamp : Int) : Except String Nat :=
  if 0 ≤ timestamp ∧
      timestamp.toNat * timestampSampleCount ≤ 0xFFFFFFFFFFFFFFFF then
    .ok (timestamp.toNat * timestampSampleCount)
  else
    .error s!"invalid Whisper timestamp {timestamp}"

def clampEndPadding (endSample pendingSamples : Nat) : Except String Nat :=
  let padding := endSample - pendingSamples
  if endSample ≤ pendingSamples then
    .ok endSample
  else if padding ≤ maxEndPaddingSamples then
    .ok pendingSamples
  else
    .error (s!"Whisper segment end exceeds pending PCM by {padding} samples; " ++
      s!"maximum timestamp padding is {maxEndPaddingSamples}")

def validateDecodeWindow (samples maximum : Nat) : Except String Unit :=
  if maximum < samples then
    .error (s!"Whisper decode window contains {samples} samples, " ++
      s!"maximum is {maximum}")
  else
    .ok ()

/-- The loop of `validate_decoded_window`. -/
def validateSegments (pendingSamples : Nat) (index previousEnd : Nat) :
    List DecodedSegment → Except String Unit
  | [] => .ok ()
  | segment :: rest =>
      if segment.startSample < previousEnd ∨
          segment.endSample ≤ segment.startSample ∨
          pendingSamples < segment.endSample then
        .error (s!"Whisper segment {index} has invalid bounds " ++
          s!"{segment.startSample}..{segment.endSample} for " ++
          s!"{pendingSamples} pending samples")
      else
        validateSegments pendingSamples (index + 1) segment.endSample rest

def validateDecodedWindow (window : DecodedWindow) (pendingSamples : Nat) :
    Except String Unit :=
  validateSegments pendingSamples 0 0 window.segments

/-- The loop of `stable_prefix`. -/
def stableSegments (stableLimit : Nat) (currentText : List Char)
    (text : List Char) (drainSamples : Nat) :
    List DecodedSegment → List Char × Nat
  | [] => (text, drainSamples)
  | previous :: rest =>
      if stableLimit < previous.endSample then
        (text, drainSamples)
      else
        let candidate := text ++ previous.text
        if candidate.isEmpty || !candidate.isPrefixOf currentText then
          (text, drainSamples)
        else
          stableSegments stableLimit currentText candidate previous.endSample
            rest

def stablePrefix (previous current : DecodedWindow)
    (pendingSamples overlapSamples : Nat) :
    Except String (Option StablePrefix) := do
  validateDecodedWindow previous pendingSamples
  validateDecodedWindow current pendingSamples
  let (text, drainSamples) := stableSegments (pendingSamples - overlapSamples)
    current.text [] 0 previous.segments
  if drainSamples = 0 then return none
  return some ⟨text, drainSamples⟩

inductive SttError where
  | formatMismatch
  | contract (reason : String)
  | inference (reason : String)
  | noAudio
  | emptyTranscript
  deriving DecidableEq, Repr

structure Transcript where
  text : List Char
  isFinal : Bool
  spanMs : Nat
  deriving DecidableEq, Repr

/-- `Transcript::new`. -/
def Transcript.new (text : List Char) (isFinal : Bool) (spanMs : Nat) :
    Except SttError Transcript :=
  let text := Streaming.trim text
  if text.isEmpty then .error .emptyTranscript
  else .ok ⟨text, isFinal, spanMs⟩

/-- A segment as whisper.cpp returns it. -/
structure RawSegment where
  text : Except String (List Char)
  startTimestamp : Int
  endTimestamp : Int

/-- A frame of the recognizer's format, or of another one. -/
inductive PcmFrame (Sample : Type) where
  | f32 (sample : Sample)
  | other

structure WhisperRecognizer (Sample : Type) where
  samples : List Sample
  totalSamples : Nat
  committedText : List Char
  previousWindow : Option DecodedWindow
  samplesSincePartial : Nat
  lastPartial : List Char
  deriving DecidableEq, Repr

def millisecondsToSamples (milliseconds : Nat) : Nat :=
  (16000 * milliseconds + 999) / 1000

def samplesToMilliseconds (samples : Nat) : Nat :=
  min (samples * 1000) 0xFFFFFFFFFFFFFFFF / 16000

/-- The hard cap of the pending samples. -/
def maximumSamples : Nat := millisecondsToSamples 5000

def cadenceSamples : Nat := millisecondsToSamples 160

def minimumSamples : Nat := millisecondsToSamples 320

def overlapSamples : Nat := millisecondsToSamples 1000

def saturatingSucc (count : Nat) : Nat :=
  min (count + 1) 0xFFFFFFFFFFFFFFFF

/-- `bounded`: the first characters of a diagnostic. -/
def bounded (reason : String) : String :=
  String.ofList (reason.toList.take 2048)

namespace WhisperRecognizer

variable {Sample : Type}

def new : WhisperRecognizer Sample where
  samples := []
  totalSamples := 0
  committedText := []
  previousWindow := none
  samplesSincePartial := 0
  lastPartial := []

def reset (_recognizer : WhisperRecognizer Sample) :
    WhisperRecognizer Sample where
  samples := []
  totalSamples := 0
  committedText := []
  previousWindow := none
  samplesSincePartial := 0
  lastPartial := []

end WhisperRecognizer

section Source

variable {Sample : Type}
  (decoder : List Sample → Except String (List RawSegment))

def decodeSegment (pendingSamples : Nat) (segment : RawSegment) :
    Except SttError DecodedSegment := do
  let text ← segment.text.mapError fun error => .inference (bounded error)
  let startSample ← (timestampSamples segment.startTimestamp).mapError .contract
  let endTimestamp ← (timestampSamples segment.endTimestamp).mapError .contract
  let endSample ← (clampEndPadding endTimestamp pendingSamples).mapError
    .contract
  return ⟨text, startSample, endSample⟩

def decodeWindow (audio : List Sample) : Except SttError DecodedWindow := do
  (validateDecodeWindow audio.length maximumSamples).mapError .contract
  let raw ← (decoder audio).mapError fun error => .inference (bounded error)
  let segments ← raw.mapM (decodeSegment audio.length)
  let decoded : DecodedWindow := ⟨segments⟩
  (validateDecodedWindow decoded audio.length).mapError .contract
  return decoded

namespace WhisperRecognizer

/-- The recognizer stays as it is when a commit is required and there is
none. -/
def acceptDecodedWindow (recognizer : WhisperRecognizer Sample)
    (current : DecodedWindow) (requireCommit : Bool) :
    Except SttError (List Char × WhisperRecognizer Sample) :=
  let completeText := recognizer.committedText ++ current.text
  let selection := match recognizer.previousWindow with
    | some previous => stablePrefix previous current recognizer.samples.length
        overlapSamples
    | none => .ok none
  match selection, requireCommit with
  | .error reason, true => .error (.contract reason)
  | .ok (some stable), _ =>
      .ok (completeText, { recognizer with
        committedText := recognizer.committedText ++ stable.text
        samples := recognizer.samples.drop stable.drainSamples
        previousWindow := none })
  | .ok none, true =>
      .error (.contract
        (s!"pending Whisper PCM reached {recognizer.samples.length} samples " ++
          "without a stable segment boundary (previous segments: " ++
          s!"{recognizer.previousWindow.elim 0 (·.segments.length)}, " ++
          s!"current segments: {current.segments.length})"))
  | _, false =>
      .ok (completeText, { recognizer with previousWindow := some current })

def rolloverAtCapacity (recognizer : WhisperRecognizer Sample) :
    Except SttError (WhisperRecognizer Sample) := do
  let decoded ← decodeWindow decoder recognizer.samples
  let (_, rolled) ← recognizer.acceptDecodedWindow decoded true
  return { rolled with samplesSincePartial := 0 }

/-- What `accept` does before it takes the sample; when it fails the recognizer
stays as it is. -/
def makeRoom (recognizer : WhisperRecognizer Sample) :
    Except SttError (WhisperRecognizer Sample) :=
  if maximumSamples < recognizer.samples.length then
    .error (.contract
      s!"pending Whisper PCM exceeded its {maximumSamples}-sample hard cap")
  else if recognizer.samples.length = maximumSamples then
    recognizer.rolloverAtCapacity decoder
  else
    .ok recognizer

def pushSample (recognizer : WhisperRecognizer Sample) (sample : Sample) :
    WhisperRecognizer Sample :=
  { recognizer with
    samples := recognizer.samples ++ [sample]
    totalSamples := saturatingSucc recognizer.totalSamples
    samplesSincePartial := saturatingSucc recognizer.samplesSincePartial }

/-- A partial decode is due. -/
def isDue (recognizer : WhisperRecognizer Sample) : Bool :=
  minimumSamples ≤ recognizer.samples.length &&
    cadenceSamples ≤ recognizer.samplesSincePartial

/-- A partial decode and its transcript. -/
def decodePartial (recognizer : WhisperRecognizer Sample) :
    Except SttError (List Transcript) × WhisperRecognizer Sample :=
  let due := { recognizer with samplesSincePartial := 0 }
  match decodeWindow decoder due.samples with
  | .error error => (.error error, due)
  | .ok decoded =>
      match due.acceptDecodedWindow decoded false with
      | .error error => (.error error, due)
      | .ok (text, after) =>
          if (Streaming.trim text).isEmpty then (.ok [], after)
          else
            let spanMs := samplesToMilliseconds after.totalSamples
            match Transcript.new text false spanMs with
            | .error error => (.error error, after)
            | .ok transcript =>
                if transcript.text = after.lastPartial then (.ok [], after)
                else (.ok [transcript],
                  { after with lastPartial := transcript.text })

def accept (recognizer : WhisperRecognizer Sample) :
    PcmFrame Sample →
      Except SttError (List Transcript) × WhisperRecognizer Sample
  | .other => (.error .formatMismatch, recognizer)
  | .f32 sample =>
      match recognizer.makeRoom decoder with
      | .error error => (.error error, recognizer)
      | .ok roomy =>
          let pushed := roomy.pushSample sample
          if pushed.isDue then pushed.decodePartial decoder
          else (.ok [], pushed)

/-- The decode of `finalize`. -/
def finalDecode (recognizer : WhisperRecognizer Sample) :
    Except SttError DecodedWindow :=
  if recognizer.samples.isEmpty then .ok .empty
  else decodeWindow decoder recognizer.samples

/-- The committed text is only taken when the last window was decoded. -/
def finalize (recognizer : WhisperRecognizer Sample) :
    Except SttError Transcript × WhisperRecognizer Sample :=
  if recognizer.totalSamples = 0 then (.error .noAudio, recognizer)
  else
    let spanMs := samplesToMilliseconds recognizer.totalSamples
    let decoded := recognizer.finalDecode decoder
    let text := decoded.map fun decoded =>
      recognizer.committedText ++ decoded.text
    let after := { recognizer with
      samples := []
      totalSamples := 0
      committedText := if decoded.isOk then [] else recognizer.committedText
      previousWindow := none
      samplesSincePartial := 0
      lastPartial := [] }
    (text.bind fun text => Transcript.new text true spanMs, after)

end WhisperRecognizer

end Source

theorem bounds_of_validate {pendingSamples index previousEnd : Nat}
    {segments : List DecodedSegment}
    (valid : validateSegments pendingSamples index previousEnd segments =
      .ok ()) :
    ∀ segment ∈ segments, segment.startSample < segment.endSample := by
  induction segments generalizing index previousEnd with
  | nil => exact fun _ member => nomatch member
  | cons segment rest ih =>
      rw [validateSegments] at valid
      split at valid
      · cases valid
      next inside =>
        rw [not_or, not_or] at inside
        exact List.forall_mem_cons.mpr ⟨Nat.lt_of_not_le inside.2.1, ih valid⟩

/-- The loop of `stable_prefix` goes over the first segments. -/
theorem stableSegments_spec (stableLimit : Nat) {currentText text : List Char}
    (drainSamples : Nat) (segments : List DecodedSegment)
    (starts : text <+: currentText) :
    ∃ count,
      (stableSegments stableLimit currentText text drainSamples segments).1 =
        text ++ (segments.take count).flatMap DecodedSegment.text ∧
      (stableSegments stableLimit currentText text drainSamples segments).1 <+:
        currentText ∧
      (∀ segment ∈ segments.take count, segment.endSample ≤ stableLimit) ∧
      ((stableSegments stableLimit currentText text drainSamples segments).2 =
          drainSamples ∨
        (stableSegments stableLimit currentText text drainSamples segments).2 ≤
          stableLimit) := by
  induction segments generalizing text drainSamples with
  | nil =>
      exact ⟨0, (List.append_nil _).symm, starts,
        (fun _ member => nomatch member), .inl rfl⟩
  | cons previous rest ih =>
      rw [stableSegments]
      split
      · exact ⟨0, (List.append_nil _).symm, starts,
          (fun _ member => nomatch member), .inl rfl⟩
      next inside =>
        dsimp only
        split
        · exact ⟨0, (List.append_nil _).symm, starts,
            (fun _ member => nomatch member), .inl rfl⟩
        next agrees =>
          rw [Bool.or_eq_true, not_or, Bool.not_eq_true', Bool.not_eq_false,
            List.isPrefixOf_iff_prefix] at agrees
          obtain ⟨count, isText, isPrefix, bounded, drain⟩ := ih
            previous.endSample agrees.2
          refine ⟨count + 1, ?_, isPrefix, ?_, .inr ?_⟩
          · rw [isText, List.take_succ_cons, List.flatMap_cons,
              List.append_assoc]
          · exact List.forall_mem_cons.mpr ⟨Nat.le_of_not_lt inside, bounded⟩
          · rcases drain with same | less
            · rw [same]
              exact Nat.le_of_not_lt inside
            · exact less

/-- A text that two decodes agree on, in segments of the first one that end
before the overlap. -/
structure IsAgreed (previous current : DecodedWindow) (pendingSamples : Nat)
    (text : List Char) : Prop where
  isSegments : ∃ count,
    text = (previous.segments.take count).flatMap DecodedSegment.text ∧
      ∀ segment ∈ previous.segments.take count,
        segment.endSample + overlapSamples ≤ pendingSamples
  isPrefix : text <+: current.text

theorem isAgreed_of_stablePrefix {previous current : DecodedWindow}
    {pendingSamples : Nat} {stable : StablePrefix}
    (found : stablePrefix previous current pendingSamples overlapSamples =
      .ok (some stable)) :
    IsAgreed previous current pendingSamples stable.text ∧
      0 < stable.drainSamples ∧ stable.drainSamples ≤ pendingSamples := by
  unfold stablePrefix at found
  obtain ⟨_, valid, found⟩ := except_bind_ok_iff.mp found
  obtain ⟨_, _, found⟩ := except_bind_ok_iff.mp found
  dsimp only at found
  obtain ⟨count, isText, isPrefix, inside, drain⟩ := stableSegments_spec
    (pendingSamples - overlapSamples) 0 previous.segments
    (List.nil_prefix (l := current.text))
  split at found
  · cases found
  next some =>
    have same := Option.some.inj (Except.ok.inj found)
    rw [← same]
    refine ⟨⟨⟨count, isText, ?_⟩, isPrefix⟩, Nat.pos_of_ne_zero some, ?_⟩
    · intro segment member
      have := bounds_of_validate valid segment (List.mem_of_mem_take member)
      have := inside segment member
      omega
    · have := drain.resolve_left some
      dsimp only
      omega

section Source

variable {Sample : Type}
  {decoder : List Sample → Except String (List RawSegment)}
  {recognizer room : WhisperRecognizer Sample} {text : List Char}

namespace WhisperRecognizer

/-- A commit: the text is agreed on, and the samples behind it stay. -/
structure Commits (recognizer : WhisperRecognizer Sample)
    (current : DecodedWindow) (after : WhisperRecognizer Sample) : Prop where
  agreed : ∃ previous stable, recognizer.previousWindow = some previous ∧
    stablePrefix previous current recognizer.samples.length overlapSamples =
      .ok (some stable) ∧
    after = { recognizer with
      committedText := recognizer.committedText ++ stable.text
      samples := recognizer.samples.drop stable.drainSamples
      previousWindow := none }

theorem acceptDecodedWindow_ok {current : DecodedWindow}
    {requireCommit : Bool} {after : WhisperRecognizer Sample}
    (accepted : recognizer.acceptDecodedWindow current requireCommit =
      .ok (text, after)) :
    text = recognizer.committedText ++ current.text ∧
      (recognizer.Commits current after ∨
        requireCommit = false ∧
          after = { recognizer with previousWindow := some current }) := by
  unfold acceptDecodedWindow at accepted
  dsimp only at accepted
  split at accepted
  · cases accepted
  next _ stable selected =>
    cases accepted
    refine ⟨rfl, .inl ⟨?_⟩⟩
    split at selected
    next previous isPrevious =>
      exact ⟨previous, stable, isPrevious, selected, rfl⟩
    next => cases selected
  · cases accepted
  next => cases accepted; exact ⟨rfl, .inr ⟨rfl, rfl⟩⟩

theorem acceptDecodedWindow_isOk (current : DecodedWindow) :
    (recognizer.acceptDecodedWindow current false).isOk = true := by
  unfold acceptDecodedWindow
  dsimp only
  split
  next required => cases required
  · rfl
  next required => cases required
  · rfl

theorem makeRoom_ok (made : recognizer.makeRoom decoder = .ok room) :
    recognizer.samples.length < maximumSamples ∧ room = recognizer ∨
      recognizer.samples.length = maximumSamples ∧
        ∃ current rolled,
          decodeWindow decoder recognizer.samples = .ok current ∧
          recognizer.Commits current rolled ∧
          room = { rolled with samplesSincePartial := 0 } := by
  unfold makeRoom at made
  split at made
  · cases made
  · split at made
    next full =>
      unfold rolloverAtCapacity at made
      obtain ⟨current, decoded, made⟩ := except_bind_ok_iff.mp made
      obtain ⟨⟨_, rolled⟩, accepted, made⟩ := except_bind_ok_iff.mp made
      cases made
      rcases (acceptDecodedWindow_ok accepted).2 with commits | ⟨required, _⟩
      · exact .inr ⟨full, current, rolled, decoded, commits, rfl⟩
      · cases required
    next notFull =>
      cases made
      exact .inl ⟨by omega, rfl⟩

/-- What a partial decode does. -/
inductive PartialStep
    (decoder : List Sample → Except String (List RawSegment))
    (recognizer : WhisperRecognizer Sample) :
    Except SttError (List Transcript) → WhisperRecognizer Sample → Prop where
  | failed {error : SttError}
      (decoded : decodeWindow decoder recognizer.samples = .error error) :
      PartialStep decoder recognizer (.error error)
        { recognizer with samplesSincePartial := 0 }
  | decoded {current : DecodedWindow} {after : WhisperRecognizer Sample}
      {output : Except SttError (List Transcript)} {lastPartial : List Char}
      (decoded : decodeWindow decoder recognizer.samples = .ok current)
      (accepted : Commits { recognizer with samplesSincePartial := 0 } current
          after ∨
        after = { recognizer with
          samplesSincePartial := 0, previousWindow := some current })
      (texts : ∀ transcripts, output = .ok transcripts →
        ∀ transcript ∈ transcripts, transcript.text =
          Streaming.trim (recognizer.committedText ++ current.text)) :
      PartialStep decoder recognizer output
        { after with lastPartial := lastPartial }

theorem decodePartial_step (recognizer : WhisperRecognizer Sample) :
    PartialStep decoder recognizer (recognizer.decodePartial decoder).1
      (recognizer.decodePartial decoder).2 := by
  unfold decodePartial
  dsimp only
  cases decoded : decodeWindow decoder recognizer.samples with
  | error error => exact .failed decoded
  | ok current =>
      dsimp only
      cases accepted : acceptDecodedWindow
          { recognizer with samplesSincePartial := 0 } current false with
      | error error =>
          have isOk := @acceptDecodedWindow_isOk _
            { recognizer with samplesSincePartial := 0 } current
          rw [accepted] at isOk
          cases isOk
      | ok result =>
          obtain ⟨text, after⟩ := result
          obtain ⟨isText, isAfter⟩ := acceptDecodedWindow_ok accepted
          have isAfter := isAfter.imp_right And.right
          dsimp only
          split
          · exact .decoded decoded isAfter (fun _ same => by
              cases same
              exact fun _ member => nomatch member)
          · cases made : Transcript.new text false
                (samplesToMilliseconds after.totalSamples) with
            | error error => exact .decoded decoded isAfter (fun _ same => by
                cases same)
            | ok transcript =>
                have isTrimmed : transcript.text = Streaming.trim text := by
                  unfold Transcript.new at made
                  dsimp only at made
                  split at made
                  · cases made
                  · cases made
                    rfl
                dsimp only
                split
                · exact .decoded decoded isAfter (fun _ same => by
                    cases same
                    exact fun _ member => nomatch member)
                · exact .decoded decoded isAfter (fun _ same => by
                    cases same
                    intro other member
                    rw [List.mem_singleton.mp member, isTrimmed, isText])

end WhisperRecognizer

inductive RecognizerCall (Sample : Type) where
  | accept (frame : PcmFrame Sample)
  | reset
  | finalize

namespace WhisperRecognizer

variable (decoder)

def call (recognizer : WhisperRecognizer Sample) :
    RecognizerCall Sample →
      Except SttError (List Transcript) × WhisperRecognizer Sample
  | .accept frame => recognizer.accept decoder frame
  | .reset => (.ok [], recognizer.reset)
  | .finalize =>
      ((recognizer.finalize decoder).1.map fun transcript => [transcript],
        (recognizer.finalize decoder).2)

/-- The outputs of calls in a row. -/
def outputs (recognizer : WhisperRecognizer Sample) :
    List (RecognizerCall Sample) → List (Except SttError (List Transcript))
  | [] => []
  | call :: rest =>
      (recognizer.call decoder call).1 ::
        (recognizer.call decoder call).2.outputs rest

/-- The samples that a frame adds. -/
def taken (recognizer : WhisperRecognizer Sample) :
    PcmFrame Sample → List Sample
  | .other => []
  | .f32 sample => if (recognizer.makeRoom decoder).isOk then [sample] else []

/-- The windows that are decoded for a frame. -/
def decodedFor (recognizer : WhisperRecognizer Sample) :
    PcmFrame Sample → List DecodedWindow
  | .other => []
  | .f32 sample =>
      (if recognizer.samples.length = maximumSamples then
        (decodeWindow decoder recognizer.samples).toOption.toList
      else []) ++
      (recognizer.makeRoom decoder).toOption.elim [] fun room =>
        let pushed := room.pushSample sample
        if pushed.isDue then
          (decodeWindow decoder pushed.samples).toOption.toList
        else []

/-- Nothing of the committed text stays behind `finalize`. -/
def ClearsText (recognizer : WhisperRecognizer Sample) : Prop :=
  recognizer.committedText = [] ∨
    recognizer.totalSamples ≠ 0 ∧ (recognizer.finalDecode decoder).isOk = true

/-- A full window whose decode has no stable text. -/
structure Stuck (recognizer : WhisperRecognizer Sample)
    (previous : DecodedWindow) : Prop where
  full : recognizer.samples.length = maximumSamples
  unstable : ∃ current, decodeWindow decoder recognizer.samples = .ok current ∧
    ∀ stable, stablePrefix previous current recognizer.samples.length
      overlapSamples ≠ .ok (some stable)

end WhisperRecognizer

/-- A recognizer, with the samples it took and the windows it decoded since it
was last reset or finalized. -/
structure Session (Sample : Type) where
  recognizer : WhisperRecognizer Sample
  accepted : List Sample
  decodes : List DecodedWindow

namespace Session

def start : Session Sample :=
  ⟨.new, [], []⟩

variable (decoder)

def step (session : Session Sample) (call : RecognizerCall Sample) :
    Session Sample :=
  let after := (session.recognizer.call decoder call).2
  match call with
  | .accept frame =>
      ⟨after, session.accepted ++ session.recognizer.taken decoder frame,
        session.decodes ++ session.recognizer.decodedFor decoder frame⟩
  | .reset => ⟨after, [], []⟩
  | .finalize => ⟨after, [], []⟩

def run (session : Session Sample) (calls : List (RecognizerCall Sample)) :
    Session Sample :=
  calls.foldl (step decoder) session

structure Sound (session : Session Sample) : Prop where
  length_le : session.recognizer.samples.length ≤ maximumSamples
  suffix : session.recognizer.samples <:+ session.accepted
  previous : ∀ previous, session.recognizer.previousWindow = some previous →
    session.decodes.getLast? = some previous ∨
      session.recognizer.Stuck decoder previous
  fresh : session.recognizer.totalSamples = 0 →
    session.recognizer = { session.recognizer.reset with
      committedText := session.recognizer.committedText }

/-- A piece of text that is committed: two decodes in a row agree on it. -/
structure AddsPiece (session : Session Sample) (frame : PcmFrame Sample)
    (piece : List Char) : Prop where
  committed : (session.step decoder (.accept frame)).recognizer.committedText =
    session.recognizer.committedText ++ piece
  isAgreed : ∃ earlier previous current window,
    (session.step decoder (.accept frame)).decodes =
      earlier ++ [previous, current] ∧
    (window = session.recognizer.samples ∨
      window = session.recognizer.samples ++
        session.recognizer.taken decoder frame) ∧
    decodeWindow decoder window = .ok current ∧
    IsAgreed previous current window.length piece

variable {decoder} {session : Session Sample}

theorem sound_start : (start : Session Sample).Sound decoder where
  length_le := Nat.zero_le _
  suffix := List.suffix_rfl
  previous _ found := nomatch found
  fresh _ := rfl

theorem sound_reset : (session.step decoder .reset).Sound decoder where
  length_le := Nat.zero_le _
  suffix := List.suffix_rfl
  previous _ found := nomatch found
  fresh _ := rfl

theorem Sound.finalize (sound : session.Sound decoder) :
    (session.step decoder .finalize).Sound decoder := by
  unfold step WhisperRecognizer.call WhisperRecognizer.finalize
  dsimp only
  split
  next noSamples =>
    have fresh := sound.fresh noSamples
    rw [fresh]
    exact ⟨Nat.zero_le _, List.suffix_rfl, (fun _ found => nomatch found),
      fun _ => rfl⟩
  next =>
    exact ⟨Nat.zero_le _, List.suffix_rfl, (fun _ found => nomatch found),
      fun _ => rfl⟩

/-- After `finalize` the recognizer is reset, or it keeps committed text. -/
theorem Sound.finalize_eq_reset_iff (sound : session.Sound decoder) :
    (session.recognizer.finalize decoder).2 = session.recognizer.reset ↔
      session.recognizer.ClearsText decoder := by
  unfold WhisperRecognizer.finalize WhisperRecognizer.ClearsText
  split
  next noSamples =>
    rw [sound.fresh noSamples]
    simp [WhisperRecognizer.reset]
  next some =>
    simp only [WhisperRecognizer.reset, ne_eq, some, not_false_eq_true,
      true_and, WhisperRecognizer.mk.injEq, and_true]
    split
    next isOk => exact iff_of_true rfl (.inr isOk)
    next failed => simp [failed]

theorem stuck_of_makeRoom {recognizer : WhisperRecognizer Sample}
    {current previous : DecodedWindow} {error : SttError}
    (full : recognizer.samples.length = maximumSamples)
    (decoded : decodeWindow decoder recognizer.samples = .ok current)
    (isPrevious : recognizer.previousWindow = some previous)
    (made : recognizer.makeRoom decoder = .error error) :
    recognizer.Stuck decoder previous := by
  refine ⟨full, current, decoded, fun stable found => ?_⟩
  unfold WhisperRecognizer.makeRoom WhisperRecognizer.rolloverAtCapacity
    WhisperRecognizer.acceptDecodedWindow at made
  rw [if_neg (by omega), if_pos full, decoded, isPrevious] at made
  simp only [bind, Except.bind, found] at made
  cases made

theorem saturatingSucc_ne_zero (count : Nat) : saturatingSucc count ≠ 0 := by
  unfold saturatingSucc
  omega

/-- A recognizer that could not make room stays as it is. -/
theorem Sound.accept_full (sound : session.Sound decoder) {sample : Sample}
    {error : SttError}
    (made : session.recognizer.makeRoom decoder = .error error) :
    (session.step decoder (.accept (.f32 sample))).Sound decoder ∧
      (session.recognizer.accept decoder (.f32 sample)) =
        (.error error, session.recognizer) := by
  have same : session.recognizer.accept decoder (.f32 sample) =
      (.error error, session.recognizer) := by
    unfold WhisperRecognizer.accept
    rw [made]
  refine ⟨?_, same⟩
  unfold step WhisperRecognizer.call WhisperRecognizer.taken
    WhisperRecognizer.decodedFor
  dsimp only
  rw [same, made]
  dsimp only [Except.toOption, Option.elim_none]
  rw [List.append_nil]
  refine ⟨sound.length_le, ?_, ?_, sound.fresh⟩
  · rw [if_neg (by simp [Except.isOk, Except.toBool]), List.append_nil]
    exact sound.suffix
  · intro previous isPrevious
    by_cases full : session.recognizer.samples.length = maximumSamples
    · rw [if_pos full]
      cases decoded : decodeWindow decoder session.recognizer.samples with
      | error =>
          rw [Option.toList_none, List.append_nil]
          exact sound.previous previous isPrevious
      | ok current =>
          exact .inr (stuck_of_makeRoom full decoded isPrevious made)
    · rw [if_neg full, List.append_nil]
      exact sound.previous previous isPrevious

/-- The call of a frame for which there is room. -/
theorem step_of_room {sample : Sample} {room : WhisperRecognizer Sample}
    (made : session.recognizer.makeRoom decoder = .ok room) :
    session.recognizer.taken decoder (.f32 sample) = [sample] ∧
    session.recognizer.accept decoder (.f32 sample) =
      (if (room.pushSample sample).isDue then
        (room.pushSample sample).decodePartial decoder
      else (.ok [], room.pushSample sample)) ∧
    session.recognizer.decodedFor decoder (.f32 sample) =
      (if session.recognizer.samples.length = maximumSamples then
        (decodeWindow decoder session.recognizer.samples).toOption.toList
      else []) ++
      if (room.pushSample sample).isDue then
        (decodeWindow decoder (room.pushSample sample).samples
          ).toOption.toList
      else [] := by
  unfold WhisperRecognizer.taken WhisperRecognizer.accept
    WhisperRecognizer.decodedFor
  rw [made]
  exact ⟨rfl, rfl, rfl⟩

theorem Sound.last_of_short (sound : session.Sound decoder)
    (short : session.recognizer.samples.length < maximumSamples)
    {previous : DecodedWindow}
    (isPrevious : session.recognizer.previousWindow = some previous) :
    session.decodes.getLast? = some previous := by
  rcases sound.previous previous isPrevious with last | stuck
  · exact last
  · exact absurd stuck.full short.ne

theorem Sound.exists_last (sound : session.Sound decoder)
    {previous current : DecodedWindow} {stable : StablePrefix}
    (isPrevious : session.recognizer.previousWindow = some previous)
    (free : session.recognizer.samples.length < maximumSamples ∨
      decodeWindow decoder session.recognizer.samples = .ok current ∧
        stablePrefix previous current session.recognizer.samples.length
          overlapSamples = .ok (some stable)) :
    ∃ earlier, session.decodes = earlier ++ [previous] := by
  rcases sound.previous previous isPrevious with last | stuck
  · exact List.getLast?_eq_some_iff.mp last
  · exfalso
    rcases free with short | ⟨decoded, found⟩
    · exact absurd stuck.full short.ne
    · obtain ⟨other, same, unstable⟩ := stuck.unstable
      rw [decoded] at same
      cases same
      exact unstable stable found

theorem suffix_concat {samples accepted : List Sample}
    (suffix : samples <:+ accepted) (sample : Sample) :
    samples ++ [sample] <:+ accepted ++ [sample] := by
  obtain ⟨drained, rfl⟩ := suffix
  exact ⟨drained, (List.append_assoc _ _ _).symm⟩

/-- A frame behind a rollover. -/
theorem Sound.accept_rolled (sound : session.Sound decoder) (sample : Sample)
    {current : DecodedWindow} {rolled : WhisperRecognizer Sample}
    (full : session.recognizer.samples.length = maximumSamples)
    (decoded : decodeWindow decoder session.recognizer.samples = .ok current)
    (commits : session.recognizer.Commits current rolled)
    (made : session.recognizer.makeRoom decoder =
      .ok { rolled with samplesSincePartial := 0 }) :
    (session.step decoder (.accept (.f32 sample))).Sound decoder ∧
      (∃ piece, session.AddsPiece decoder (.f32 sample) piece) ∧
      (session.recognizer.accept decoder (.f32 sample)).1 = .ok [] := by
  obtain ⟨previous, stable, isPrevious, found, rfl⟩ := commits.agreed
  obtain ⟨isAgreed, positive, inside⟩ := isAgreed_of_stablePrefix found
  obtain ⟨earlier, last⟩ := sound.exists_last isPrevious
    (.inr ⟨decoded, found⟩)
  obtain ⟨taken, accepted, decodedFor⟩ := @step_of_room _ _ session sample _ made
  have notDue (recognizer : WhisperRecognizer Sample) :
      ({ recognizer with samplesSincePartial := 0 }.pushSample sample).isDue =
        false := by
    unfold WhisperRecognizer.isDue WhisperRecognizer.pushSample
    simp [saturatingSucc, cadenceSamples, millisecondsToSamples]
  rw [notDue, if_neg Bool.false_ne_true] at accepted decodedFor
  rw [if_pos full, decoded, List.append_nil] at decodedFor
  have stepped : session.step decoder (.accept (.f32 sample)) =
      ⟨(session.recognizer.accept decoder (.f32 sample)).2,
        session.accepted ++ [sample], session.decodes ++ [current]⟩ := by
    unfold step WhisperRecognizer.call
    dsimp only
    rw [taken, decodedFor]
    rfl
  rw [accepted] at stepped ⊢
  refine ⟨?_, ⟨stable.text, ?_, ?_⟩, rfl⟩
  · rw [stepped]
    refine ⟨?_, ?_, (fun _ found => nomatch found), fun none => ?_⟩
    · show (session.recognizer.samples.drop stable.drainSamples ++
        [sample]).length ≤ maximumSamples
      rw [List.length_append, List.length_drop, full]
      rw [full] at inside
      simp only [List.length_cons, List.length_nil]
      omega
    · exact suffix_concat ((List.drop_suffix _ _).trans sound.suffix) sample
    · exact absurd none (saturatingSucc_ne_zero _)
  · rw [stepped]
    rfl
  · rw [stepped]
    refine ⟨earlier, previous, current, _, ?_, .inl rfl, decoded, isAgreed⟩
    rw [last, List.append_assoc]
    rfl

/-- A frame that is only pushed. -/
theorem Sound.pushed (sound : session.Sound decoder)
    (short : session.recognizer.samples.length < maximumSamples)
    (sample : Sample) :
    Sound decoder ⟨session.recognizer.pushSample sample,
      session.accepted ++ [sample], session.decodes⟩ where
  length_le := by
    show (session.recognizer.samples ++ [sample]).length ≤ maximumSamples
    rw [List.length_append]
    exact short
  suffix := suffix_concat sound.suffix sample
  previous previous isPrevious := .inl (sound.last_of_short short isPrevious)
  fresh none := absurd none (saturatingSucc_ne_zero _)

/-- A frame with a partial decode. -/
theorem Sound.accept_due (sound : session.Sound decoder) (sample : Sample)
    (short : session.recognizer.samples.length < maximumSamples)
    (made : session.recognizer.makeRoom decoder = .ok session.recognizer)
    (due : (session.recognizer.pushSample sample).isDue = true) :
    (session.step decoder (.accept (.f32 sample))).Sound decoder ∧
      ((session.step decoder (.accept (.f32 sample))).recognizer.committedText =
          session.recognizer.committedText ∨
        ∃ piece, session.AddsPiece decoder (.f32 sample) piece) ∧
      ∀ transcripts,
        (session.recognizer.accept decoder (.f32 sample)).1 = .ok transcripts →
        ∀ transcript ∈ transcripts, ∃ decoded,
          decodeWindow decoder (session.recognizer.samples ++ [sample]) =
            .ok decoded ∧
          transcript.text = Streaming.trim
            (session.recognizer.committedText ++ decoded.text) := by
  obtain ⟨taken, accepted, decodedFor⟩ := @step_of_room _ _ session sample _ made
  have pushed := sound.pushed short sample
  rw [if_pos due] at accepted decodedFor
  rw [if_neg short.ne, List.nil_append] at decodedFor
  have stepped : session.step decoder (.accept (.f32 sample)) =
      ⟨(session.recognizer.accept decoder (.f32 sample)).2,
        session.accepted ++ [sample], session.decodes ++
          session.recognizer.decodedFor decoder (.f32 sample)⟩ := by
    unfold step WhisperRecognizer.call
    dsimp only
    rw [taken]
  rw [decodedFor, accepted] at stepped
  rw [accepted]
  have isStep := @WhisperRecognizer.decodePartial_step _ decoder
    (session.recognizer.pushSample sample)
  generalize (session.recognizer.pushSample sample).decodePartial decoder =
    result at isStep stepped
  obtain ⟨output, after⟩ := result
  dsimp only at isStep stepped ⊢
  cases isStep with
  | failed failed =>
      rw [failed] at stepped
      rw [stepped]
      refine ⟨?_, .inl rfl, fun _ same => nomatch same⟩
      rw [show (Except.error _ : Except SttError DecodedWindow).toOption.toList =
        [] from rfl, List.append_nil]
      exact ⟨pushed.length_le, pushed.suffix, fun previous isPrevious =>
        .inl (sound.last_of_short short isPrevious),
        fun none => absurd none (saturatingSucc_ne_zero _)⟩
  | @decoded current room _ lastPartial decoded isAfter texts =>
      rw [decoded] at stepped
      rw [stepped]
      have texts' : ∀ transcripts, output = .ok transcripts →
          ∀ transcript ∈ transcripts, ∃ decoded,
            decodeWindow decoder (session.recognizer.samples ++ [sample]) =
              .ok decoded ∧
            transcript.text = Streaming.trim
              (session.recognizer.committedText ++ decoded.text) :=
        fun transcripts same transcript member =>
          ⟨current, decoded, texts transcripts same transcript member⟩
      rcases isAfter with commits | rfl
      · obtain ⟨previous, stable, isPrevious, found, rfl⟩ := commits.agreed
        obtain ⟨isAgreed, positive, inside⟩ := isAgreed_of_stablePrefix found
        obtain ⟨earlier, last⟩ := @Sound.exists_last _ _ _ sound _ current
          stable isPrevious (.inl short)
        refine ⟨⟨?_, ?_, (fun _ found => nomatch found), fun none => ?_⟩,
          .inr ⟨stable.text, ?_, ?_⟩, texts'⟩
        · show ((session.recognizer.samples ++ [sample]).drop
            stable.drainSamples).length ≤ maximumSamples
          rw [List.length_drop]
          exact (Nat.sub_le _ _).trans pushed.length_le
        · exact (List.drop_suffix _ _).trans pushed.suffix
        · exact absurd none (saturatingSucc_ne_zero _)
        · rw [stepped]
          rfl
        · rw [stepped, taken]
          refine ⟨earlier, previous, current, _, ?_, .inr rfl, decoded,
            isAgreed⟩
          rw [last, List.append_assoc]
          rfl
      · refine ⟨⟨pushed.length_le, pushed.suffix, fun previous isPrevious => ?_,
          fun none => absurd none (saturatingSucc_ne_zero _)⟩, .inl rfl, texts'⟩
        left
        rw [← Option.some.inj isPrevious]
        exact List.getLast?_concat

/-- What a frame does to a session. -/
theorem Sound.accept (sound : session.Sound decoder) (frame : PcmFrame Sample) :
    (session.step decoder (.accept frame)).Sound decoder ∧
      ((session.step decoder (.accept frame)).recognizer.committedText =
          session.recognizer.committedText ∨
        ∃ piece, session.AddsPiece decoder frame piece) ∧
      ∀ transcripts,
        (session.recognizer.accept decoder frame).1 = .ok transcripts →
        ∀ transcript ∈ transcripts, ∃ sample decoded, frame = .f32 sample ∧
          decodeWindow decoder (session.recognizer.samples ++ [sample]) =
            .ok decoded ∧
          transcript.text = Streaming.trim
            (session.recognizer.committedText ++ decoded.text) := by
  cases frame with
  | other =>
      have stepped : session.step decoder (.accept .other) = session := by
        unfold step WhisperRecognizer.call WhisperRecognizer.taken
          WhisperRecognizer.decodedFor
        dsimp only
        rw [List.append_nil, List.append_nil]
        rfl
      rw [stepped]
      exact ⟨sound, .inl rfl, fun _ same => nomatch same⟩
  | f32 sample =>
      cases made : session.recognizer.makeRoom decoder with
      | error error =>
          obtain ⟨after, accepted⟩ := @Sound.accept_full _ _ _ sound sample _ made
          refine ⟨after, .inl ?_, ?_⟩
          · unfold step WhisperRecognizer.call
            dsimp only
            rw [accepted]
          · rw [accepted]
            exact fun _ same => nomatch same
      | ok room =>
          rcases WhisperRecognizer.makeRoom_ok made with
            ⟨short, rfl⟩ | ⟨full, current, rolled, decoded, commits, rfl⟩
          · cases due : (session.recognizer.pushSample sample).isDue with
            | true =>
                obtain ⟨after, committed, texts⟩ := sound.accept_due sample
                  short made due
                refine ⟨after, committed, ?_⟩
                intro transcripts same transcript member
                obtain ⟨decoded, isDecoded, isText⟩ := texts transcripts same
                  transcript member
                exact ⟨sample, decoded, rfl, isDecoded, isText⟩
            | false =>
                obtain ⟨taken, accepted, decodedFor⟩ := @step_of_room _ _ session
                  sample _ made
                rw [due, if_neg Bool.false_ne_true] at accepted decodedFor
                rw [if_neg short.ne] at decodedFor
                have stepped : session.step decoder (.accept (.f32 sample)) =
                    ⟨session.recognizer.pushSample sample,
                      session.accepted ++ [sample], session.decodes⟩ := by
                  unfold step WhisperRecognizer.call
                  dsimp only
                  rw [taken, accepted, decodedFor]
                  exact congrArg _ (List.append_nil _)
                rw [stepped, accepted]
                refine ⟨sound.pushed short sample, .inl rfl, ?_⟩
                intro transcripts same
                cases same
                exact fun _ member => nomatch member
          · obtain ⟨after, adds, output⟩ := sound.accept_rolled sample full
              decoded commits made
            refine ⟨after, .inr adds, ?_⟩
            rw [output]
            intro transcripts same
            cases same
            exact fun _ member => nomatch member

theorem Sound.step (sound : session.Sound decoder)
    (call : RecognizerCall Sample) : (session.step decoder call).Sound decoder := by
  cases call with
  | accept frame => exact (sound.accept frame).1
  | reset => exact sound_reset
  | finalize => exact sound.finalize

theorem Sound.run (sound : session.Sound decoder)
    (calls : List (RecognizerCall Sample)) :
    (session.run decoder calls).Sound decoder := by
  unfold Session.run
  induction calls generalizing session with
  | nil => exact sound
  | cons call rest ih => exact ih (sound.step call)

end Session

/-- The text of a final transcript. -/
theorem finalize_text {recognizer : WhisperRecognizer Sample}
    {transcript : Transcript}
    (finalized : (recognizer.finalize decoder).1 = .ok transcript) :
    ∃ decoded, recognizer.finalDecode decoder = .ok decoded ∧
      transcript.text = Streaming.trim
        (recognizer.committedText ++ decoded.text) := by
  unfold WhisperRecognizer.finalize at finalized
  split at finalized
  · cases finalized
  · dsimp only at finalized
    cases decoded : recognizer.finalDecode decoder with
    | error error =>
        rw [decoded] at finalized
        cases finalized
    | ok window =>
        rw [decoded] at finalized
        refine ⟨window, rfl, ?_⟩
        unfold Transcript.new Except.map Except.bind at finalized
        dsimp only at finalized
        split at finalized
        · cases finalized
        · cases finalized
          rfl

/-- Every session of calls: the pending samples are the last part of those
accepted, and never too many; text is committed where two decodes in a row
agree; every transcript is the committed text before the decode with the
decoded text behind it.  A recognizer that is finalized is as good as reset
exactly if it had no committed text or its last window was decoded. -/
theorem recognizer_spec (decoder : List Sample → Except String (List RawSegment))
    (calls : List (RecognizerCall Sample)) :
    let session := Session.start.run decoder calls
    session.recognizer.samples.length ≤ maximumSamples ∧
    session.recognizer.samples <:+ session.accepted ∧
    (∀ frame,
      (session.step decoder (.accept frame)).recognizer.committedText =
          session.recognizer.committedText ∨
        ∃ piece, session.AddsPiece decoder frame piece) ∧
    (∀ frame transcripts,
      (session.recognizer.accept decoder frame).1 = .ok transcripts →
      ∀ transcript ∈ transcripts, ∃ sample decoded, frame = .f32 sample ∧
        decodeWindow decoder (session.recognizer.samples ++ [sample]) =
          .ok decoded ∧
        transcript.text = Streaming.trim
          (session.recognizer.committedText ++ decoded.text)) ∧
    (∀ transcript, (session.recognizer.finalize decoder).1 = .ok transcript →
      ∃ decoded, session.recognizer.finalDecode decoder = .ok decoded ∧
        transcript.text = Streaming.trim
          (session.recognizer.committedText ++ decoded.text)) ∧
    ((session.recognizer.finalize decoder).2 = session.recognizer.reset ↔
      session.recognizer.ClearsText decoder) ∧
    (session.recognizer.ClearsText decoder → ∀ later,
      (session.recognizer.finalize decoder).2.outputs decoder later =
        session.recognizer.reset.outputs decoder later) := by
  intro session
  have sound : session.Sound decoder := Session.sound_start.run calls
  have cleared := sound.finalize_eq_reset_iff
  refine ⟨sound.length_le, sound.suffix, fun frame => (sound.accept frame).2.1,
    fun frame => (sound.accept frame).2.2, fun _ => finalize_text, cleared, ?_⟩
  intro clears later
  rw [cleared.mpr clears]

end Source

/-- Hears one word, and fails on a window of one length. -/
def sampleDecoder (window : List Unit) : Except String (List RawSegment) :=
  if window.length = 17760 then .error "device lost"
  else .ok [⟨.ok [' ', 'o', 'n', 'e'], 0, 1⟩]

def sampleWindow : DecodedWindow :=
  ⟨[⟨[' ', 'o', 'n', 'e'], 0, 160⟩]⟩

/-- The recognizer after a number of frames. -/
def listen (count : Nat) (recognizer : WhisperRecognizer Unit) :
    WhisperRecognizer Unit :=
  (List.replicate count (RecognizerCall.accept (.f32 ()))).foldl
    (fun recognizer call => (recognizer.call sampleDecoder call).2) recognizer

theorem listen_add (first second : Nat) (recognizer : WhisperRecognizer Unit) :
    listen (first + second) recognizer = listen second (listen first recognizer) := by
  unfold listen
  rw [← List.replicate_append_replicate, List.foldl_append]

theorem recognizer_run (session : Session Unit)
    (calls : List (RecognizerCall Unit)) :
    (session.run sampleDecoder calls).recognizer = calls.foldl
      (fun recognizer call => (recognizer.call sampleDecoder call).2)
        session.recognizer := by
  unfold Session.run
  induction calls generalizing session with
  | nil => rfl
  | cons call rest ih =>
      rw [List.foldl_cons, List.foldl_cons, ih]
      cases call <;> rfl

theorem maximumSamples_eq : maximumSamples = 80000 := rfl

theorem cadenceSamples_eq : cadenceSamples = 2560 := rfl

theorem minimumSamples_eq : minimumSamples = 5120 := rfl

theorem overlapSamples_eq : overlapSamples = 16000 := rfl

/-- A frame is pushed where there is room. -/
theorem listen_one (recognizer : WhisperRecognizer Unit)
    (short : recognizer.samples.length < 80000)
    (few : recognizer.totalSamples < 80000)
    (since : recognizer.samplesSincePartial < 80000) :
    listen 1 recognizer =
      (let pushed := { recognizer with
        samples := recognizer.samples ++ [()]
        totalSamples := recognizer.totalSamples + 1
        samplesSincePartial := recognizer.samplesSincePartial + 1 }
      if pushed.isDue then (pushed.decodePartial sampleDecoder).2
      else pushed) := by
  have roomy : recognizer.makeRoom sampleDecoder = .ok recognizer := by
    unfold WhisperRecognizer.makeRoom
    rw [maximumSamples_eq, if_neg (by omega), if_neg (by omega)]
  have pushes : recognizer.pushSample () = { recognizer with
      samples := recognizer.samples ++ [()]
      totalSamples := recognizer.totalSamples + 1
      samplesSincePartial := recognizer.samplesSincePartial + 1 } := by
    unfold WhisperRecognizer.pushSample saturatingSucc
    rw [Nat.min_eq_left (by omega), Nat.min_eq_left (by omega)]
  change (recognizer.accept sampleDecoder (.f32 ())).2 = _
  unfold WhisperRecognizer.accept
  rw [roomy, ← pushes]
  dsimp only
  split <;> rfl

/-- Frames between two decodes. -/
theorem listen_idle (recognizer : WhisperRecognizer Unit) {count : Nat}
    (short : recognizer.samples.length + count < 80000)
    (few : recognizer.totalSamples + count < 80000)
    (since : recognizer.samplesSincePartial + count < 80000)
    (idle : recognizer.samples.length + count < 5120 ∨
      recognizer.samplesSincePartial + count < 2560) :
    listen count recognizer = { recognizer with
      samples := recognizer.samples ++ List.replicate count ()
      totalSamples := recognizer.totalSamples + count
      samplesSincePartial := recognizer.samplesSincePartial + count } := by
  induction count with
  | zero => simp [listen]
  | succ count ih =>
      rw [listen_add, ih (by omega) (by omega) (by omega) (by omega),
        listen_one _ (by simp; omega) (by dsimp only; omega)
          (by dsimp only; omega)]
      dsimp only
      rw [if_neg]
      · rw [List.append_assoc, ← List.replicate_succ', Nat.add_assoc,
          Nat.add_assoc]
      · simp [WhisperRecognizer.isDue, minimumSamples_eq, cadenceSamples_eq]
        omega

theorem decode_sample {window : List Unit} (long : 160 ≤ window.length)
    (short : window.length ≤ 80000) (other : window.length ≠ 17760) :
    decodeWindow sampleDecoder window = .ok sampleWindow := by
  have fits : validateDecodeWindow window.length maximumSamples = .ok () := by
    unfold validateDecodeWindow
    rw [maximumSamples_eq, if_neg (by omega)]
  have raw : sampleDecoder window = .ok [⟨.ok [' ', 'o', 'n', 'e'], 0, 1⟩] := by
    unfold sampleDecoder
    rw [if_neg other]
  have ends : clampEndPadding 160 window.length = .ok 160 := by
    unfold clampEndPadding
    rw [if_pos long]
  have segment : decodeSegment window.length ⟨.ok [' ', 'o', 'n', 'e'], 0, 1⟩ =
      .ok ⟨[' ', 'o', 'n', 'e'], 0, 160⟩ := by
    change ((clampEndPadding 160 window.length).mapError
      SttError.contract).bind _ = _
    rw [ends]
    rfl
  have valid : validateDecodedWindow sampleWindow window.length = .ok () := by
    change validateSegments _ _ _ [_] = _
    rw [validateSegments, if_neg (by dsimp only; omega)]
    rfl
  unfold decodeWindow
  rw [fits, raw]
  change ([⟨.ok [' ', 'o', 'n', 'e'], 0, 1⟩].mapM
    (decodeSegment window.length)).bind _ = _
  rw [List.mapM_cons, segment]
  change ((validateDecodedWindow sampleWindow window.length).mapError
    SttError.contract).bind _ = _
  rw [valid]
  rfl

theorem stablePrefix_of_valid {previous current : DecodedWindow}
    {pendingSamples : Nat} (overlap : Nat)
    (validPrevious : validateDecodedWindow previous pendingSamples = .ok ())
    (validCurrent : validateDecodedWindow current pendingSamples = .ok ()) :
    stablePrefix previous current pendingSamples overlap =
      let stable := stableSegments (pendingSamples - overlap) current.text [] 0
        previous.segments
      .ok (if stable.2 = 0 then none else some ⟨stable.1, stable.2⟩) := by
  unfold stablePrefix
  rw [validPrevious, validCurrent]
  change (if _ then _ else _ : Except String (Option StablePrefix)) = _
  dsimp only
  split
  · rfl
  · rfl

theorem stable_sample {pendingSamples : Nat} (long : 160 ≤ pendingSamples) :
    stablePrefix sampleWindow sampleWindow pendingSamples overlapSamples =
      .ok (if pendingSamples < 16160 then none
        else some ⟨[' ', 'o', 'n', 'e'], 160⟩) := by
  have valid : validateDecodedWindow sampleWindow pendingSamples = .ok () := by
    change validateSegments _ _ _ [_] = _
    rw [validateSegments, if_neg (by dsimp only; omega)]
    rfl
  rw [stablePrefix_of_valid overlapSamples valid valid, overlapSamples_eq]
  have stable : stableSegments (pendingSamples - 16000) sampleWindow.text [] 0
      sampleWindow.segments =
        if pendingSamples < 16160 then ([], 0)
        else ([' ', 'o', 'n', 'e'], 160) := by
    change stableSegments _ _ _ _ [_] = _
    rw [stableSegments]
    by_cases inside : pendingSamples < 16160
    · rw [if_pos inside, if_pos (by dsimp only; omega)]
    · rw [if_neg inside, if_neg (by dsimp only; omega)]
      rfl
  rw [stable]
  split <;> rfl

/-- A partial decode before any text is committed. -/
theorem decodePartial_sample {recognizer : WhisperRecognizer Unit}
    (long : 160 ≤ recognizer.samples.length)
    (short : recognizer.samples.length < 16160)
    (fresh : recognizer.committedText = [])
    (previous : recognizer.previousWindow = none ∨
      recognizer.previousWindow = some sampleWindow) :
    (recognizer.decodePartial sampleDecoder).2 = { recognizer with
      previousWindow := some sampleWindow
      samplesSincePartial := 0
      lastPartial := ['o', 'n', 'e'] } := by
  have decoded := decode_sample long (by omega) (by omega)
  have accepted : { recognizer with samplesSincePartial := 0 }.acceptDecodedWindow
      sampleWindow false = .ok ([' ', 'o', 'n', 'e'], { recognizer with
        previousWindow := some sampleWindow
        samplesSincePartial := 0 }) := by
    have stable := stable_sample long
    rw [if_pos short] at stable
    unfold WhisperRecognizer.acceptDecodedWindow
    dsimp only
    rcases previous with none | same
    · rw [none, fresh]
      rfl
    · rw [same, fresh]
      dsimp only
      rw [stable]
      rfl
  unfold WhisperRecognizer.decodePartial
  dsimp only
  rw [decoded]
  dsimp only
  rw [accepted]
  dsimp only
  rw [if_neg (by decide)]
  change (if _ then _ else _ : _ × WhisperRecognizer Unit).2 = _
  split
  next same =>
    rw [← same]
    rfl
  · rfl

/-- The decode that commits the text. -/
theorem decodePartial_commit {recognizer : WhisperRecognizer Unit}
    (length : recognizer.samples.length = 17920)
    (fresh : recognizer.committedText = [])
    (previous : recognizer.previousWindow = some sampleWindow)
    (last : recognizer.lastPartial = ['o', 'n', 'e']) :
    (recognizer.decodePartial sampleDecoder).2 = { recognizer with
      samples := recognizer.samples.drop 160
      committedText := [' ', 'o', 'n', 'e']
      previousWindow := none
      samplesSincePartial := 0 } := by
  have decoded : decodeWindow sampleDecoder recognizer.samples =
      .ok sampleWindow :=
    decode_sample (by omega) (by omega) (by omega)
  have accepted : { recognizer with samplesSincePartial := 0 }.acceptDecodedWindow
      sampleWindow false = .ok ([' ', 'o', 'n', 'e'], { recognizer with
        samples := recognizer.samples.drop 160
        committedText := [' ', 'o', 'n', 'e']
        previousWindow := none
        samplesSincePartial := 0 }) := by
    have stable : stablePrefix sampleWindow sampleWindow
        recognizer.samples.length overlapSamples =
          .ok (some ⟨[' ', 'o', 'n', 'e'], 160⟩) := by
      rw [stable_sample (by omega), if_neg (by omega)]
    unfold WhisperRecognizer.acceptDecodedWindow
    dsimp only
    rw [previous, fresh]
    dsimp only
    rw [stable]
    rfl
  unfold WhisperRecognizer.decodePartial
  dsimp only
  rw [decoded]
  dsimp only
  rw [accepted]
  dsimp only
  rw [if_neg (by decide), last]
  rfl

/-- A recognizer that decoded its last window. -/
def heard (count : Nat) : WhisperRecognizer Unit where
  samples := List.replicate count ()
  totalSamples := count
  committedText := []
  previousWindow := some sampleWindow
  samplesSincePartial := 0
  lastPartial := ['o', 'n', 'e']

/-- The frames up to the next decode. -/
theorem listen_due (recognizer : WhisperRecognizer Unit) {count : Nat}
    (short : recognizer.samples.length + count + 1 < 80000)
    (few : recognizer.totalSamples + count + 1 < 80000)
    (since : recognizer.samplesSincePartial + count + 1 < 80000)
    (idle : recognizer.samples.length + count < 5120 ∨
      recognizer.samplesSincePartial + count < 2560)
    (due : 5120 ≤ recognizer.samples.length + count + 1 ∧
      2560 ≤ recognizer.samplesSincePartial + count + 1) :
    listen (count + 1) recognizer = (WhisperRecognizer.decodePartial
      sampleDecoder { recognizer with
        samples := recognizer.samples ++ List.replicate (count + 1) ()
        totalSamples := recognizer.totalSamples + (count + 1)
        samplesSincePartial := recognizer.samplesSincePartial +
          (count + 1) }).2 := by
  rw [listen_add, listen_idle _ (by omega) (by omega) (by omega) idle,
    listen_one _ (by simp; omega) (by dsimp only; omega)
      (by dsimp only; omega)]
  dsimp only
  rw [if_pos]
  · rw [List.append_assoc, ← List.replicate_succ', Nat.add_assoc,
      Nat.add_assoc]
  · simp [WhisperRecognizer.isDue, minimumSamples_eq, cadenceSamples_eq]
    omega

theorem listen_first {first : Nat} (enough : first = 5120) :
    listen first .new = heard first := by
  obtain ⟨count, rfl⟩ : ∃ count, first = count + 1 := ⟨5119, enough⟩
  have due := @listen_due .new count
    (by change 0 + _ + _ < _; omega) (by change 0 + _ + _ < _; omega)
    (by change 0 + _ + _ < _; omega) (.inl (by change 0 + _ < _; omega))
    ⟨by change _ ≤ 0 + _ + _; omega, by change _ ≤ 0 + _ + _; omega⟩
  rw [due, decodePartial_sample]
  · simp [WhisperRecognizer.new, heard]
  · simp [WhisperRecognizer.new]
    omega
  · simp [WhisperRecognizer.new]
    omega
  · rfl
  · exact .inl rfl

theorem listen_next {pending next : Nat} (enough : next = 2560)
    (first : 5120 ≤ pending) (few : pending + next < 16160) :
    listen next (heard pending) = heard (pending + next) := by
  obtain ⟨count, rfl⟩ : ∃ count, next = count + 1 := ⟨2559, enough⟩
  have due := @listen_due (heard pending) count
    (by simp [heard]; omega) (by simp [heard]; omega)
    (by simp [heard]; omega) (.inr (by simp [heard]; omega))
    ⟨by simp [heard]; omega, by simp [heard]; omega⟩
  rw [due, decodePartial_sample]
  · simp [heard]
  · simp [heard]
    omega
  · simp [heard]
    omega
  · rfl
  · exact .inr rfl

/-- The recognizer after its first commit. -/
def heardCommit (pending count : Nat) : WhisperRecognizer Unit where
  samples := List.replicate pending ()
  totalSamples := count
  committedText := [' ', 'o', 'n', 'e']
  previousWindow := none
  samplesSincePartial := 0
  lastPartial := ['o', 'n', 'e']

theorem listen_commit {pending next rest : Nat} (enough : next = 2560)
    (full : pending + next = 17920) (drained : rest + 160 = pending + next) :
    listen next (heard pending) = heardCommit rest (pending + next) := by
  obtain ⟨count, rfl⟩ : ∃ count, next = count + 1 := ⟨2559, enough⟩
  have due := @listen_due (heard pending) count
    (by simp [heard]; omega) (by simp [heard]; omega)
    (by simp [heard]; omega) (.inr (by simp [heard]; omega))
    ⟨by simp [heard]; omega, by simp [heard]; omega⟩
  have drops : (List.replicate pending () ++
      List.replicate (count + 1) ()).drop 160 = List.replicate rest () := by
    rw [List.replicate_append_replicate, List.drop_replicate, ← drained,
      Nat.add_sub_cancel]
  rw [due, decodePartial_commit]
  · exact congrArg (fun samples => WhisperRecognizer.mk samples
      (pending + (count + 1)) [' ', 'o', 'n', 'e'] none 0 ['o', 'n', 'e']) drops
  · simp [heard]
    omega
  · rfl
  · rfl
  · rfl

theorem listen_sample {total first next rest : Nat} (isFirst : first = 5120)
    (isNext : next = 2560) (isTotal : first + next + next + next + next + next =
      total) (isRest : rest + 160 = total) :
    listen total .new = heardCommit rest total := by
  rw [← isTotal, listen_add, listen_add, listen_add, listen_add, listen_add,
    listen_first isFirst, listen_next isNext, listen_next isNext,
    listen_next isNext, listen_next isNext, listen_commit isNext]
  all_goals omega

theorem finalDecode_failed {window : List Unit} (length : window.length = 17760) :
    decodeWindow sampleDecoder window = .error (.inference "device lost") := by
  have fits : validateDecodeWindow window.length maximumSamples = .ok () := by
    unfold validateDecodeWindow
    rw [maximumSamples_eq, if_neg (by omega)]
  have raw : sampleDecoder window = .error "device lost" := by
    unfold sampleDecoder
    rw [if_pos length]
  unfold decodeWindow
  rw [fits, raw]
  rfl

/-- The decode of `finalize` fails: everything is reset but the text. -/
theorem finalize_failed {pending count : Nat} (length : pending = 17760)
    (some : count ≠ 0) :
    (heardCommit pending count).finalize sampleDecoder =
      (.error (.inference "device lost"),
        { WhisperRecognizer.new with committedText := [' ', 'o', 'n', 'e'] }) := by
  have window : (heardCommit pending count).samples.length = 17760 :=
    List.length_replicate.trans length
  have decoded : (heardCommit pending count).finalDecode sampleDecoder =
      .error (.inference "device lost") := by
    unfold WhisperRecognizer.finalDecode
    rw [if_neg]
    · exact finalDecode_failed window
    · intro empty
      rw [List.isEmpty_iff_length_eq_zero, window] at empty
      omega
  unfold WhisperRecognizer.finalize
  rw [if_neg (show ¬(heardCommit pending count).totalSamples = 0 from some)]
  dsimp only
  rw [decoded]
  rfl

theorem recognizer_heard :
    (Session.start.run sampleDecoder
      (List.replicate 17920 (.accept (.f32 ())))).recognizer =
        heardCommit 17760 17920 := by
  rw [recognizer_run]
  exact listen_sample rfl rfl rfl rfl

theorem outputs_kept :
    WhisperRecognizer.outputs sampleDecoder
        { WhisperRecognizer.new with committedText := [' ', 'o', 'n', 'e'] }
        [.accept (.f32 ()), .finalize] ≠
      WhisperRecognizer.new.outputs sampleDecoder
        [.accept (.f32 ()), .finalize] := by
  decide

/-- The text of an utterance whose last decode failed is part of the next. -/
theorem finalize_keeps_text :
    let session := Session.start.run sampleDecoder
      (List.replicate 17920 (.accept (.f32 ())))
    let later := [.accept (.f32 ()), .finalize]
    (session.recognizer.finalize sampleDecoder).2.outputs sampleDecoder later ≠
      session.recognizer.reset.outputs sampleDecoder later := by
  have failed := @finalize_failed 17760 17920 rfl (by omega)
  dsimp only
  rw [recognizer_heard, failed]
  exact outputs_kept

end Whisper

end PlatoAgent
