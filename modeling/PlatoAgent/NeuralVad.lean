import Mathlib

/-!
# Speech endpoints

Samples are cut into frames, and a detector says of each frame whether it is
speech.  A run of frames that starts with speech and ends with a fixed number of
quiet ones is an utterance if enough of them are speech; its samples are passed
on as soon as that is known.
-/

namespace PlatoAgent

namespace NeuralVad

/-- `SILERO_WINDOW_SAMPLES`. -/
def windowSamples : Nat := 512

def onsetFrameCount : Nat := 1

def minimumSpeechFrames : Nat := 4

def hangoverFrames : Nat := 8

/-- `CAPTURE_SAMPLE_RATE * MAX_UTTERANCE_MS / 1_000`. -/
def maxUtteranceSamples : Nat := 16000 * 30000 / 1000

def saturatingU64 (value : Nat) : Nat :=
  min value 0xFFFFFFFFFFFFFFFF

def saturatingU16 (value : Nat) : Nat :=
  min value 0xFFFF

structure VadEndpoint where
  startSample : Nat
  speechEndSample : Nat
  closeSample : Nat
  deriving DecidableEq, Repr

inductive VadError where
  | invalidProbability
  | utteranceTooLong
  | inference (reason : String)
  deriving DecidableEq, Repr

/-- A detector with a state of its own, and the checks of its probabilities:
whether one is a number from 0 to 1, and whether it reaches the threshold. -/
structure Detector (Sample State Probability : Type) where
  speechProbability : State → List Sample →
    Except VadError Probability × State
  inRange : Probability → Bool
  isSpeech : Probability → Bool

inductive NeuralVadEvent (Sample : Type) where
  | speechOnset (startSample decisionSample : Nat)
  | speechSamples (samples : List Sample)
  | segment (samples : List Sample) (endpoint : VadEndpoint)
  | rejectedTransient (endpoint : VadEndpoint)
  deriving DecidableEq, Repr

inductive EndpointState where
  | silence
  | candidate (startSample onsetFrames : Nat)
  | speech (startSample voicedFrames quietFrames speechEndSample : Nat)
      (announced : Bool)
  deriving DecidableEq, Repr

/-- The frame is its first `frame_len` samples. -/
structure NeuralVadState (Sample : Type) where
  state : EndpointState
  frame : List Sample
  segment : List Sample
  processedSamples : Nat

/-- The endpoint state with its detector. -/
structure Listener (Sample State : Type) where
  vad : NeuralVadState Sample
  detector : State

/-- A failed push; a full frame is written out of its bounds. -/
inductive PushFailure where
  | vad (error : VadError)
  | panic
  deriving DecidableEq, Repr

variable {Sample State Probability : Type}

namespace NeuralVadState

def new : NeuralVadState Sample :=
  ⟨.silence, [], [], 0⟩

/-- `append_frame`, and what is done after it. -/
def appendFrame (vad : NeuralVadState Sample)
    (continuation : NeuralVadState Sample →
      List (NeuralVadEvent Sample) × NeuralVadState Sample) :
    Except VadError (List (NeuralVadEvent Sample)) × NeuralVadState Sample :=
  if maxUtteranceSamples < vad.segment.length + windowSamples then
    (.error .utteranceTooLong, { vad with state := .silence, segment := [] })
  else
    let result := continuation { vad with segment := vad.segment ++ vad.frame }
    (.ok result.1, result.2)

def emitProgress (vad : NeuralVadState Sample)
    (startSample decisionSample : Nat) (wasAnnounced nowAnnounced : Bool) :
    List (NeuralVadEvent Sample) :=
  if !wasAnnounced && nowAnnounced then
    [.speechOnset startSample decisionSample, .speechSamples vad.segment]
  else if wasAnnounced then [.speechSamples vad.frame]
  else []

/-- A quiet frame in speech. -/
def endSpeech (vad : NeuralVadState Sample) (startSample voicedFrames
    quietFrames speechEndSample : Nat) (announced : Bool) (stop : Nat) :
    List (NeuralVadEvent Sample) × NeuralVadState Sample :=
  let quietFrames := saturatingU16 (quietFrames + 1)
  let progress := if announced then [.speechSamples vad.frame] else []
  if quietFrames < hangoverFrames then
    let state : EndpointState :=
      .speech startSample voicedFrames quietFrames speechEndSample announced
    (progress, { vad with state := state })
  else
    let endpoint : VadEndpoint := ⟨startSample, speechEndSample, stop⟩
    if announced then
      (progress ++ [.segment vad.segment endpoint],
        { vad with state := .silence, segment := [] })
    else
      (progress ++ [.rejectedTransient endpoint],
        { vad with state := .silence, segment := [] })

def processFrame (vad : NeuralVadState Sample) (speechPositive : Bool) :
    Except VadError (List (NeuralVadEvent Sample)) × NeuralVadState Sample :=
  let start := vad.processedSamples
  let stop := saturatingU64 (start + windowSamples)
  let vad := { vad with processedSamples := stop }
  match vad.state with
  | .silence =>
      if speechPositive then
        { vad with segment := [] }.appendFrame fun vad =>
          let state : EndpointState :=
            if onsetFrameCount = 1 then .speech start 1 0 stop false
            else .candidate start 1
          ([], { vad with state := state })
      else (.ok [], vad)
  | .candidate startSample onsetFrames =>
      if speechPositive then
        vad.appendFrame fun vad =>
          let onsetFrames := saturatingU16 (onsetFrames + 1)
          let state : EndpointState :=
            if onsetFrameCount ≤ onsetFrames then
              .speech startSample onsetFrames 0 stop false
            else .candidate startSample onsetFrames
          ([], { vad with state := state })
      else (.ok [], { vad with state := .silence, segment := [] })
  | .speech startSample voicedFrames quietFrames speechEndSample announced =>
      if speechPositive then
        vad.appendFrame fun vad =>
          let voicedFrames := saturatingU16 (voicedFrames + 1)
          let nowAnnounced :=
            announced || decide (minimumSpeechFrames ≤ voicedFrames)
          let state : EndpointState :=
            .speech startSample voicedFrames 0 stop nowAnnounced
          (vad.emitProgress startSample stop announced nowAnnounced,
            { vad with state := state })
      else
        vad.appendFrame fun vad =>
          vad.endSpeech startSample voicedFrames quietFrames speechEndSample
            announced stop

end NeuralVadState

/-- The detector on a full frame. -/
def detectFrame (detector : Detector Sample State Probability)
    (listener : Listener Sample State) :
    Except PushFailure (List (NeuralVadEvent Sample)) ×
      Listener Sample State :=
  let detected := detector.speechProbability listener.detector
    listener.vad.frame
  match detected.1 with
  | .error error => (.error (.vad error), ⟨listener.vad, detected.2⟩)
  | .ok probability =>
      if detector.inRange probability then
        let result := listener.vad.processFrame (detector.isSpeech probability)
        match result.1 with
        | .error error => (.error (.vad error), ⟨result.2, detected.2⟩)
        | .ok events => (.ok events, ⟨{ result.2 with frame := [] }, detected.2⟩)
      else (.error (.vad .invalidProbability), ⟨listener.vad, detected.2⟩)

def pushSample (detector : Detector Sample State Probability)
    (listener : Listener Sample State) (sample : Sample) :
    Except PushFailure (List (NeuralVadEvent Sample)) ×
      Listener Sample State :=
  if listener.vad.frame.length < windowSamples then
    let frame := listener.vad.frame ++ [sample]
    let listener := ⟨{ listener.vad with frame := frame }, listener.detector⟩
    if frame.length = windowSamples then detectFrame detector listener
    else (.ok [], listener)
  else (.error .panic, listener)

/-- The events of a push that fails are lost. -/
def push (detector : Detector Sample State Probability) :
    Listener Sample State → List Sample →
      Except PushFailure (List (NeuralVadEvent Sample)) × Listener Sample State
  | listener, [] => (.ok [], listener)
  | listener, sample :: rest =>
      let first := pushSample detector listener sample
      match first.1 with
      | .error failure => (.error failure, first.2)
      | .ok events =>
          let others := push detector first.2 rest
          (others.1.map (events ++ ·), others.2)

/-- What each push returns. -/
def pushes (detector : Detector Sample State Probability) :
    Listener Sample State → List (List Sample) →
      List (Except PushFailure (List (NeuralVadEvent Sample)))
  | _, [] => []
  | listener, samples :: rest =>
      let first := push detector listener samples
      first.1 :: pushes detector first.2 rest

/-- The events that the pushes return. -/
def emitted (results : List (Except PushFailure
    (List (NeuralVadEvent Sample)))) : List (NeuralVadEvent Sample) :=
  results.flatMap fun result => result.toOption.getD []

def NoError (results : List (Except PushFailure
    (List (NeuralVadEvent Sample)))) : Prop :=
  ∀ result ∈ results, result.isOk = true

/-- The detector gives a probability for every frame. -/
def Detector.ErrorFree (detector : Detector Sample State Probability) : Prop :=
  ∀ state frame, frame.length = windowSamples →
    ∃ probability, (detector.speechProbability state frame).1 =
      .ok probability ∧ detector.inRange probability = true

/-- The full frames of a sequence of samples. -/
def wholeFrames (samples : List Sample) : List (List Sample) :=
  (List.range (samples.length / windowSamples)).map fun index =>
    (samples.drop (windowSamples * index)).take windowSamples

/-- Which frames are speech. -/
def speechFlags (detector : Detector Sample State Probability) :
    State → List (List Sample) → List Bool
  | _, [] => []
  | state, frame :: rest =>
      let detected := detector.speechProbability state frame
      (match detected.1 with
        | .ok probability => detector.isSpeech probability
        | .error _ => false) :: speechFlags detector detected.2 rest

/-- The detector behind the frames. -/
def detectorAfter (detector : Detector Sample State Probability) :
    State → List (List Sample) → State
  | state, [] => state
  | state, frame :: rest =>
      detectorAfter detector (detector.speechProbability state frame).2 rest

/-- An utterance, with its samples as they were passed on, or a transient. -/
inductive Item (Sample : Type) where
  | utterance (decisionSample : Nat) (pieces : List (List Sample))
      (samples : List Sample) (endpoint : VadEndpoint)
  | transient (endpoint : VadEndpoint)

namespace Item

def endpoint : Item Sample → VadEndpoint
  | .utterance _ _ _ endpoint => endpoint
  | .transient endpoint => endpoint

def events : Item Sample → List (NeuralVadEvent Sample)
  | .utterance decisionSample pieces samples endpoint =>
      .speechOnset endpoint.startSample decisionSample ::
        pieces.map .speechSamples ++ [.segment samples endpoint]
  | .transient endpoint => [.rejectedTransient endpoint]

end Item

/-- The speech frames from one sample to another. -/
def voicedBetween (flags : List Bool) (start stop : Nat) : Nat :=
  ((flags.drop (start / windowSamples)).take
    ((stop - start) / windowSamples)).count true

/-- The endpoint of an item in the samples. -/
structure VadEndpoint.IsIn (endpoint : VadEndpoint) (samples : List Sample) :
    Prop where
  start_lt : endpoint.startSample < endpoint.speechEndSample
  end_lt : endpoint.speechEndSample < endpoint.closeSample
  hangover : endpoint.closeSample - endpoint.speechEndSample =
    hangoverFrames * windowSamples
  close_le : endpoint.closeSample ≤ samples.length

/-- The item is what the samples and the detector say. -/
inductive Item.IsFound (samples : List Sample) (flags : List Bool) :
    Item Sample → Prop where
  | utterance {decisionSample : Nat} {pieces : List (List Sample)}
      {segment : List Sample} {endpoint : VadEndpoint}
      (isIn : endpoint.IsIn samples)
      (voiced : minimumSpeechFrames ≤ voicedBetween flags endpoint.startSample
        endpoint.closeSample)
      (streamed : pieces ≠ [] ∧ pieces.flatten = segment)
      (isExact : segment = (samples.drop endpoint.startSample).take
        (endpoint.closeSample - endpoint.startSample))
      (bounded : segment.length ≤ maxUtteranceSamples) :
      Item.IsFound samples flags
        (.utterance decisionSample pieces segment endpoint)
  | transient {endpoint : VadEndpoint} (isIn : endpoint.IsIn samples)
      (voiced : voicedBetween flags endpoint.startSample endpoint.closeSample <
        minimumSpeechFrames) :
      Item.IsFound samples flags (.transient endpoint)

/-- The start of an item, or nothing. -/
inductive IsCutItem : List (NeuralVadEvent Sample) → Prop where
  | none : IsCutItem []
  | utterance {startSample decisionSample : Nat}
      {pieces : List (List Sample)} (streamed : pieces ≠ []) :
      IsCutItem (.speechOnset startSample decisionSample ::
        pieces.map .speechSamples)

/-- The events are items that do not overlap, and perhaps the start of one. -/
structure AreItems (samples : List Sample) (flags : List Bool)
    (events : List (NeuralVadEvent Sample)) (items : List (Item Sample))
    (cut : List (NeuralVadEvent Sample)) : Prop where
  events_eq : events = items.flatMap Item.events ++ cut
  found : ∀ item ∈ items, item.IsFound samples flags
  separate : items.Pairwise fun first second =>
    first.endpoint.closeSample ≤ second.endpoint.startSample
  isCut : IsCutItem cut

section Frames

variable {samples more : List Sample} {flags others : List Bool}

theorem voicedBetween_append {start stop : Nat}
    (inside : stop ≤ windowSamples * flags.length) (order : start ≤ stop) :
    voicedBetween (flags ++ others) start stop =
      voicedBetween flags start stop := by
  unfold windowSamples at inside
  unfold voicedBetween windowSamples
  rw [List.drop_append_of_le_length (by omega),
    List.take_append_of_le_length (by rw [List.length_drop]; omega)]

theorem take_drop_append {start stop : Nat} (inside : stop ≤ samples.length)
    (order : start ≤ stop) :
    ((samples ++ more).drop start).take (stop - start) =
      (samples.drop start).take (stop - start) := by
  rw [List.drop_append_of_le_length (by omega),
    List.take_append_of_le_length (by rw [List.length_drop]; omega)]

theorem VadEndpoint.IsIn.append {endpoint : VadEndpoint}
    (isIn : endpoint.IsIn samples) : endpoint.IsIn (samples ++ more) where
  start_lt := isIn.start_lt
  end_lt := isIn.end_lt
  hangover := isIn.hangover
  close_le := by
    have close := isIn.close_le
    rw [List.length_append]
    omega

/-- More samples change nothing about an item. -/
theorem Item.IsFound.append {item : Item Sample}
    (found : item.IsFound samples flags)
    (length : samples.length = windowSamples * flags.length) :
    item.IsFound (samples ++ more) (flags ++ others) := by
  cases found with
  | utterance isIn voiced streamed isExact bounded =>
      have order := lt_trans isIn.start_lt isIn.end_lt
      have close := isIn.close_le
      refine .utterance isIn.append ?_ streamed ?_ bounded
      · rw [voicedBetween_append (by omega) order.le]
        exact voiced
      · rw [take_drop_append close order.le]
        exact isExact
  | transient isIn voiced =>
      have order := lt_trans isIn.start_lt isIn.end_lt
      have close := isIn.close_le
      refine .transient isIn.append ?_
      rw [voicedBetween_append (by omega) order.le]
      exact voiced

/-- Items that are found and do not overlap. -/
structure AreFound (samples : List Sample) (flags : List Bool)
    (items : List (Item Sample)) : Prop where
  found : ∀ item ∈ items, item.IsFound samples flags
  separate : items.Pairwise fun first second =>
    first.endpoint.closeSample ≤ second.endpoint.startSample

theorem AreFound.append {items : List (Item Sample)}
    (areFound : AreFound samples flags items)
    (length : samples.length = windowSamples * flags.length) :
    AreFound (samples ++ more) (flags ++ others) items :=
  ⟨fun item member => (areFound.found item member).append length,
    areFound.separate⟩

theorem AreFound.concat {items : List (Item Sample)} {item : Item Sample}
    (areFound : AreFound samples flags items)
    (found : item.IsFound samples flags)
    (closed : ∀ earlier ∈ items,
      earlier.endpoint.closeSample ≤ item.endpoint.startSample) :
    AreFound samples flags (items ++ [item]) := by
  constructor
  · intro other member
    rcases List.mem_append.mp member with earlier | last
    · exact areFound.found other earlier
    · rw [List.mem_singleton.mp last]
      exact found
  · rw [List.pairwise_append]
    refine ⟨areFound.separate, List.pairwise_singleton _ _, ?_⟩
    intro earlier member last isLast
    rw [List.mem_singleton.mp isLast]
    exact closed earlier member

theorem AreFound.close_le {items : List (Item Sample)}
    (areFound : AreFound samples flags items) {item : Item Sample}
    (member : item ∈ items) : item.endpoint.closeSample ≤ samples.length := by
  cases areFound.found item member with
  | utterance isIn _ _ _ _ => exact isIn.close_le
  | transient isIn _ => exact isIn.close_le

/-- What was passed on of speech that goes on. -/
inductive IsOpening (startSample : Nat) (segment : List Sample) :
    Bool → List (NeuralVadEvent Sample) → Prop where
  | silent : IsOpening startSample segment false []
  | announced {decisionSample : Nat} {pieces : List (List Sample)}
      (nonempty : pieces ≠ []) (isExact : pieces.flatten = segment) :
      IsOpening startSample segment true
        (.speechOnset startSample decisionSample ::
          pieces.map .speechSamples)

/-- Speech that started at a sample and has not ended. -/
structure IsSpeech (samples : List Sample) (flags : List Bool)
    (startSample voicedFrames quietFrames speechEndSample : Nat)
    (announced : Bool) : Prop where
  aligned : startSample % windowSamples = 0
  start_lt : startSample < speechEndSample
  quiet : speechEndSample + windowSamples * quietFrames = samples.length
  quiet_lt : quietFrames < hangoverFrames
  voiced : voicedFrames =
    (flags.drop (startSample / windowSamples)).count true
  isAnnounced : announced = decide (minimumSpeechFrames ≤ voicedFrames)
  bounded : samples.length ≤ startSample + maxUtteranceSamples

/-- The endpoint state, its segment and the events behind the samples of full
frames. -/
inductive Tracks (samples : List Sample) (flags : List Bool) :
    EndpointState → List Sample → List (NeuralVadEvent Sample) → Prop where
  | silence {segment : List Sample} {items : List (Item Sample)}
      (areFound : AreFound samples flags items) :
      Tracks samples flags .silence segment (items.flatMap Item.events)
  | speech {startSample voicedFrames quietFrames speechEndSample : Nat}
      {announced : Bool} {items : List (Item Sample)}
      {opening : List (NeuralVadEvent Sample)}
      (areFound : AreFound samples flags items)
      (closed : ∀ item ∈ items, item.endpoint.closeSample ≤ startSample)
      (isSpeech : IsSpeech samples flags startSample voicedFrames quietFrames
        speechEndSample announced)
      (isOpening : IsOpening startSample (samples.drop startSample) announced
        opening) :
      Tracks samples flags
        (.speech startSample voicedFrames quietFrames speechEndSample announced)
        (samples.drop startSample) (items.flatMap Item.events ++ opening)

theorem IsSpeech.start_le {startSample voicedFrames quietFrames
      speechEndSample : Nat} {announced : Bool}
    (isSpeech : IsSpeech samples flags startSample voicedFrames quietFrames
      speechEndSample announced) : startSample ≤ samples.length := by
  have start := isSpeech.start_lt
  have quiet := isSpeech.quiet
  omega

/-- Speech has no more voiced frames than fit an utterance. -/
theorem IsSpeech.voiced_le {startSample voicedFrames quietFrames
      speechEndSample : Nat} {announced : Bool}
    (isSpeech : IsSpeech samples flags startSample voicedFrames quietFrames
      speechEndSample announced)
    (length : samples.length = windowSamples * flags.length) :
    windowSamples * voicedFrames ≤ maxUtteranceSamples := by
  have most := @List.count_le_length _ _ true
    (flags.drop (startSample / windowSamples))
  have bounded := isSpeech.bounded
  have aligned := isSpeech.aligned
  rw [← isSpeech.voiced, List.length_drop] at most
  unfold windowSamples at *
  omega

/-- One more frame of speech. -/
theorem voiced_concat {startSample : Nat} (flag : Bool)
    (inside : startSample / windowSamples ≤ flags.length) :
    ((flags ++ [flag]).drop (startSample / windowSamples)).count true =
      (flags.drop (startSample / windowSamples)).count true +
        if flag then 1 else 0 := by
  rw [List.drop_append_of_le_length inside, List.count_append]
  cases flag <;> rfl

theorem IsSpeech.inside {startSample voicedFrames quietFrames
      speechEndSample : Nat} {announced : Bool}
    (isSpeech : IsSpeech samples flags startSample voicedFrames quietFrames
      speechEndSample announced)
    (length : samples.length = windowSamples * flags.length) :
    startSample / windowSamples ≤ flags.length := by
  have start := isSpeech.start_le
  unfold windowSamples at *
  omega

end Frames

section Steps

variable {samples : List Sample} {flags : List Bool}
  {vad after : NeuralVadState Sample}
  {events more : List (NeuralVadEvent Sample)}

theorem appendFrame_ok {continuation : NeuralVadState Sample →
      List (NeuralVadEvent Sample) × NeuralVadState Sample}
    (run : vad.appendFrame continuation = (.ok more, after)) :
    vad.segment.length + windowSamples ≤ maxUtteranceSamples ∧
      continuation { vad with segment := vad.segment ++ vad.frame } =
        (more, after) := by
  unfold NeuralVadState.appendFrame at run
  split at run
  next => cases run
  next short =>
    refine ⟨Nat.le_of_not_lt short, ?_⟩
    obtain ⟨sameEvents, sameState⟩ := Prod.mk.inj run
    rw [← sameState, ← Except.ok.inj sameEvents]

theorem drop_append_frame {startSample : Nat} (inside : startSample ≤
    samples.length) (frame : List Sample) :
    samples.drop startSample ++ frame =
      (samples ++ frame).drop startSample := by
  rw [List.drop_append_of_le_length inside]

/-- Speech that starts with this frame. -/
theorem tracks_silence_speech (tracks : Tracks samples flags .silence
      vad.segment events)
    (length : samples.length = windowSamples * flags.length)
    (frameLength : vad.frame.length = windowSamples) :
    Tracks (samples ++ vad.frame) (flags ++ [true])
      (.speech samples.length 1 0 (samples.length + windowSamples) false)
      vad.frame events := by
  cases tracks with
  | silence areFound =>
      have segment : vad.frame = (samples ++ vad.frame).drop samples.length :=
        (List.drop_left).symm
      rw [← List.append_nil (List.flatMap _ _)]
      have isSpeech : IsSpeech (samples ++ vad.frame) (flags ++ [true])
          samples.length 1 0 (samples.length + windowSamples) false := by
        constructor
        · rw [length]
          exact Nat.mul_mod_right _ _
        · unfold windowSamples
          omega
        · rw [List.length_append, frameLength]
          omega
        · decide
        · have whole : samples.length / windowSamples = flags.length := by
            rw [length]
            exact Nat.mul_div_cancel_left _ (by decide)
          rw [whole, List.drop_left]
          rfl
        · rfl
        · rw [List.length_append, frameLength]
          unfold maxUtteranceSamples windowSamples
          omega
      have opening := @Tracks.speech Sample (samples ++ vad.frame)
        (flags ++ [true]) _ _ _ _ _ _ [] (areFound.append length)
        (fun item member => areFound.close_le member) isSpeech .silent
      rw [← segment] at opening
      exact opening

theorem IsSpeech.voice {startSample voicedFrames quietFrames speechEndSample :
      Nat} {announced : Bool} {frame : List Sample}
    (isSpeech : IsSpeech samples flags startSample voicedFrames quietFrames
      speechEndSample announced)
    (length : samples.length = windowSamples * flags.length)
    (frameLength : frame.length = windowSamples)
    (short : samples.length - startSample + windowSamples ≤
      maxUtteranceSamples) :
    IsSpeech (samples ++ frame) (flags ++ [true]) startSample
      (saturatingU16 (voicedFrames + 1)) 0 (samples.length + windowSamples)
      (announced || decide (minimumSpeechFrames ≤
        saturatingU16 (voicedFrames + 1))) := by
  have few := isSpeech.voiced_le length
  have start := isSpeech.start_le
  have exactly : saturatingU16 (voicedFrames + 1) = voicedFrames + 1 := by
    unfold windowSamples maxUtteranceSamples at few
    unfold saturatingU16
    omega
  constructor
  · exact isSpeech.aligned
  · unfold windowSamples
    omega
  · rw [List.length_append, frameLength]
    omega
  · decide
  · rw [exactly, voiced_concat true (isSpeech.inside length),
      ← isSpeech.voiced]
    rfl
  · rw [exactly, isSpeech.isAnnounced, ← Bool.decide_or]
    congr 1
    apply propext
    omega
  · rw [List.length_append, frameLength]
    omega

theorem IsSpeech.quieten {startSample voicedFrames quietFrames
      speechEndSample : Nat} {announced : Bool} {frame : List Sample}
    (isSpeech : IsSpeech samples flags startSample voicedFrames quietFrames
      speechEndSample announced)
    (length : samples.length = windowSamples * flags.length)
    (frameLength : frame.length = windowSamples)
    (short : samples.length - startSample + windowSamples ≤
      maxUtteranceSamples)
    (open' : quietFrames + 1 < hangoverFrames) :
    IsSpeech (samples ++ frame) (flags ++ [false]) startSample voicedFrames
      (quietFrames + 1) speechEndSample announced := by
  have start := isSpeech.start_le
  have quiet := isSpeech.quiet
  constructor
  · exact isSpeech.aligned
  · exact isSpeech.start_lt
  · rw [List.length_append, frameLength, Nat.mul_add]
    omega
  · exact open'
  · rw [voiced_concat false (isSpeech.inside length), ← isSpeech.voiced]
    rfl
  · exact isSpeech.isAnnounced
  · rw [List.length_append, frameLength]
    omega

theorem IsOpening.progress {startSample stop : Nat} {segment : List Sample}
    {announced nowAnnounced : Bool} {opening : List (NeuralVadEvent Sample)}
    (isOpening : IsOpening startSample segment announced opening)
    (stays : announced = true → nowAnnounced = true)
    (grown : vad.segment = segment ++ vad.frame) :
    IsOpening startSample (segment ++ vad.frame) nowAnnounced
      (opening ++ vad.emitProgress startSample stop announced nowAnnounced) := by
  cases isOpening with
  | silent =>
      cases nowAnnounced with
      | false => exact .silent
      | true =>
          rw [← grown]
          exact @IsOpening.announced _ _ _ _ [vad.segment]
            (List.cons_ne_nil _ _) (by simp)
  | @announced decisionSample pieces nonempty isExact =>
      rw [stays rfl]
      have progress := @IsOpening.announced Sample startSample
        (segment ++ vad.frame) decisionSample (pieces ++ [vad.frame])
        (by simp) (by simp [isExact])
      rw [List.map_append] at progress
      exact progress

theorem IsOpening.quieten {startSample : Nat} {segment frame : List Sample}
    {announced : Bool} {opening : List (NeuralVadEvent Sample)}
    (isOpening : IsOpening startSample segment announced opening) :
    IsOpening startSample (segment ++ frame) announced
      (opening ++ if announced then [.speechSamples frame] else []) := by
  cases isOpening with
  | silent => exact .silent
  | @announced decisionSample pieces nonempty isExact =>
      have progress := @IsOpening.announced Sample startSample
        (segment ++ frame) decisionSample (pieces ++ [frame])
        (by simp) (by simp [isExact])
      rw [List.map_append] at progress
      exact progress

/-- The item of speech that ends with this frame. -/
theorem exists_item_of_end {startSample voicedFrames quietFrames
      speechEndSample : Nat} {announced : Bool} {frame : List Sample}
    {opening : List (NeuralVadEvent Sample)}
    (isSpeech : IsSpeech samples flags startSample voicedFrames quietFrames
      speechEndSample announced)
    (length : samples.length = windowSamples * flags.length)
    (frameLength : frame.length = windowSamples)
    (short : samples.length - startSample + windowSamples ≤
      maxUtteranceSamples)
    (ended : quietFrames + 1 = hangoverFrames)
    (isOpening : IsOpening startSample ((samples ++ frame).drop startSample)
      announced opening) :
    ∃ item : Item Sample,
      item.endpoint =
        ⟨startSample, speechEndSample, samples.length + windowSamples⟩ ∧
      item.IsFound (samples ++ frame) (flags ++ [false]) ∧
      item.events = opening ++ if announced then
          [.segment ((samples ++ frame).drop startSample)
            ⟨startSample, speechEndSample, samples.length + windowSamples⟩]
        else [.rejectedTransient
          ⟨startSample, speechEndSample, samples.length + windowSamples⟩] := by
  have start := isSpeech.start_lt
  have quiet := isSpeech.quiet
  have inside := isSpeech.inside length
  have aligned := isSpeech.aligned
  have total : (samples ++ frame).length = samples.length + windowSamples := by
    rw [List.length_append, frameLength]
  have isIn : (⟨startSample, speechEndSample,
      samples.length + windowSamples⟩ : VadEndpoint).IsIn
        (samples ++ frame) := by
    constructor
    · exact start
    · show speechEndSample < samples.length + windowSamples
      unfold windowSamples
      omega
    · show samples.length + windowSamples - speechEndSample = _
      rw [← ended, ← quiet, Nat.add_mul]
      unfold windowSamples
      omega
    · rw [total]
  have voiced : voicedBetween (flags ++ [false]) startSample
      (samples.length + windowSamples) = voicedFrames := by
    have all : ((flags ++ [false]).drop (startSample / windowSamples)).length ≤
        (samples.length + windowSamples - startSample) / windowSamples := by
      rw [List.length_drop, List.length_append]
      unfold windowSamples at *
      simp only [List.length_singleton]
      omega
    unfold voicedBetween
    rw [List.take_of_length_le all, voiced_concat false inside,
      ← isSpeech.voiced]
    rfl
  have isAnnounced := isSpeech.isAnnounced
  cases isOpening with
  | silent =>
      have few : ¬ minimumSpeechFrames ≤ voicedFrames := by
        simpa using isAnnounced
      refine ⟨.transient _, rfl, .transient isIn ?_, rfl⟩
      change voicedBetween _ startSample (samples.length + windowSamples) < _
      omega
  | @announced decisionSample pieces nonempty isExact =>
      have enough : minimumSpeechFrames ≤ voicedFrames := by
        simpa using isAnnounced.symm
      refine ⟨.utterance decisionSample pieces _ _, rfl,
        .utterance isIn ?_ ⟨nonempty, isExact⟩ ?_ ?_, rfl⟩
      · change _ ≤ voicedBetween _ startSample (samples.length + windowSamples)
        omega
      · symm
        apply List.take_of_length_le
        rw [List.length_drop, total]
      · rw [List.length_drop, total]
        omega

/-- What is known behind a frame. -/
theorem tracks_processFrame {flag : Bool}
    (tracks : Tracks samples flags vad.state vad.segment events)
    (length : samples.length = windowSamples * flags.length)
    (frameLength : vad.frame.length = windowSamples)
    (processed : vad.processedSamples = samples.length)
    (small : samples.length + windowSamples < 2 ^ 64)
    (run : vad.processFrame flag = (.ok more, after)) :
    Tracks (samples ++ vad.frame) (flags ++ [flag]) after.state after.segment
        (events ++ more) ∧
      after.processedSamples = samples.length + windowSamples := by
  obtain ⟨state, frame, segment, position⟩ := vad
  dsimp only at processed frameLength tracks ⊢
  subst processed
  have stop : saturatingU64 (samples.length + windowSamples) =
      samples.length + windowSamples := by
    unfold saturatingU64
    omega
  unfold NeuralVadState.processFrame at run
  dsimp only at run
  rw [stop] at run
  cases tracks with
  | @silence segment items areFound =>
      cases flag with
      | false =>
          obtain ⟨sameEvents, rfl⟩ := Prod.mk.inj run
          obtain rfl := Except.ok.inj sameEvents
          rw [List.append_nil]
          exact ⟨.silence (areFound.append length), rfl⟩
      | true =>
          dsimp only at run
          rw [if_pos rfl] at run
          obtain ⟨_, result⟩ := appendFrame_ok run
          obtain ⟨rfl, rfl⟩ := Prod.mk.inj result
          rw [List.append_nil]
          exact ⟨@tracks_silence_speech Sample samples flags
            ⟨.silence, frame, segment, 0⟩ _ (.silence areFound) length
            frameLength, rfl⟩
  | @speech startSample voicedFrames quietFrames speechEndSample announced
      items opening areFound closed isSpeech isOpening =>
      have inside := isSpeech.start_le
      have grown := drop_append_frame inside frame
      cases flag with
      | true =>
          dsimp only at run
          rw [if_pos rfl] at run
          obtain ⟨short, result⟩ := appendFrame_ok run
          obtain ⟨rfl, rfl⟩ := Prod.mk.inj result
          dsimp only at short ⊢
          rw [List.length_drop] at short
          have voice := isSpeech.voice length frameLength short
          rw [grown, List.append_assoc]
          refine ⟨.speech (areFound.append length) closed voice ?_, rfl⟩
          rw [← grown]
          exact @IsOpening.progress Sample
            ⟨.silence, frame, samples.drop startSample ++ frame, 0⟩ startSample
            _ _ announced _ opening isOpening
            (fun isAnnounced => by rw [isAnnounced, Bool.true_or]) rfl
      | false =>
          dsimp only at run
          rw [if_neg Bool.false_ne_true] at run
          obtain ⟨short, result⟩ := appendFrame_ok run
          dsimp only at short result
          rw [List.length_drop] at short
          have quietLt := isSpeech.quiet_lt
          have exactly : saturatingU16 (quietFrames + 1) = quietFrames + 1 := by
            unfold hangoverFrames at quietLt
            unfold saturatingU16
            omega
          have quieter := @isOpening.quieten _ _ _ frame
          rw [grown] at quieter
          unfold NeuralVadState.endSpeech at result
          dsimp only at result
          rw [exactly] at result
          by_cases open' : quietFrames + 1 < hangoverFrames
          · rw [if_pos open'] at result
            obtain ⟨rfl, rfl⟩ := Prod.mk.inj result
            dsimp only
            rw [grown, List.append_assoc]
            exact ⟨.speech (areFound.append length) closed
              (isSpeech.quieten length frameLength short open') quieter, rfl⟩
          · rw [if_neg open', grown] at result
            obtain ⟨item, isEndpoint, found, itemEvents⟩ :=
              exists_item_of_end isSpeech length frameLength short
                (by omega) quieter
            have all := (areFound.append length).concat found (by
              intro earlier member
              rw [isEndpoint]
              exact closed earlier member)
            have silence := @Tracks.silence Sample (samples ++ frame)
              (flags ++ [false]) [] _ all
            rw [List.flatMap_append, List.flatMap_singleton, itemEvents,
              ← List.append_assoc, ← List.append_assoc] at silence
            cases announced with
            | true =>
                obtain ⟨rfl, rfl⟩ := Prod.mk.inj result
                rw [← List.append_assoc]
                exact ⟨silence, rfl⟩
            | false =>
                obtain ⟨rfl, rfl⟩ := Prod.mk.inj result
                rw [← List.append_assoc]
                exact ⟨silence, rfl⟩

end Steps

section Pushes

variable {detector : Detector Sample State Probability}
  {listener after : Listener Sample State} {first : State}
  {samples : List Sample} {events more : List (NeuralVadEvent Sample)}

theorem wholeFrames_concat {frame : List Sample}
    (length : samples.length % windowSamples = 0)
    (frameLength : frame.length = windowSamples) :
    wholeFrames (samples ++ frame) = wholeFrames samples ++ [frame] := by
  have count : (samples ++ frame).length / windowSamples =
      samples.length / windowSamples + 1 := by
    rw [List.length_append, frameLength]
    exact Nat.add_div_right _ (by decide)
  have stop : windowSamples * (samples.length / windowSamples) =
      samples.length := by
    have whole := Nat.div_add_mod samples.length windowSamples
    omega
  unfold wholeFrames
  rw [count, List.range_succ, List.map_append, List.map_singleton, stop,
    List.drop_left, List.take_of_length_le frameLength.le]
  congr 1
  apply List.map_congr_left
  intro index member
  have inside := List.mem_range.mp member
  unfold windowSamples at *
  rw [List.drop_append_of_le_length (by omega),
    List.take_append_of_le_length (by rw [List.length_drop]; omega)]

theorem wholeFrames_append {frame : List Sample}
    (length : samples.length % windowSamples = 0)
    (short : frame.length < windowSamples) :
    wholeFrames (samples ++ frame) = wholeFrames samples := by
  have count : (samples ++ frame).length / windowSamples =
      samples.length / windowSamples := by
    rw [List.length_append]
    unfold windowSamples at *
    omega
  unfold wholeFrames
  rw [count]
  apply List.map_congr_left
  intro index member
  have inside := List.mem_range.mp member
  unfold windowSamples at *
  rw [List.drop_append_of_le_length (by omega),
    List.take_append_of_le_length (by rw [List.length_drop]; omega)]

theorem speechFlags_append (frames others : List (List Sample)) :
    speechFlags detector first (frames ++ others) =
      speechFlags detector first frames ++
        speechFlags detector (detectorAfter detector first frames) others := by
  induction frames generalizing first with
  | nil => rfl
  | cons frame rest ih =>
      rw [List.cons_append, speechFlags, speechFlags, ih, detectorAfter,
        List.cons_append]

theorem detectorAfter_append (frames others : List (List Sample)) :
    detectorAfter detector first (frames ++ others) =
      detectorAfter detector (detectorAfter detector first frames) others := by
  induction frames generalizing first with
  | nil => rfl
  | cons frame rest ih => rw [List.cons_append, detectorAfter, detectorAfter, ih]

theorem length_speechFlags (frames : List (List Sample)) :
    (speechFlags detector first frames).length = frames.length := by
  induction frames generalizing first with
  | nil => rfl
  | cons frame rest ih =>
      rw [speechFlags, List.length_cons, ih, List.length_cons]

/-- The listener behind the samples of full frames. -/
structure Follows (detector : Detector Sample State Probability)
    (first : State) (heard : List Sample) (listener : Listener Sample State)
    (events : List (NeuralVadEvent Sample)) : Prop where
  whole : heard.length % windowSamples = 0
  short : listener.vad.frame.length < windowSamples
  processed : listener.vad.processedSamples = heard.length
  detector_eq : listener.detector =
    detectorAfter detector first (wholeFrames heard)
  tracks : Tracks heard (speechFlags detector first (wholeFrames heard))
    listener.vad.state listener.vad.segment events

theorem length_heard {heard : List Sample}
    (whole : heard.length % windowSamples = 0) :
    heard.length = windowSamples *
      (speechFlags detector first (wholeFrames heard)).length := by
  rw [length_speechFlags, wholeFrames, List.length_map, List.length_range]
  have division := Nat.div_add_mod heard.length windowSamples
  omega

theorem follows_new : Follows detector first [] ⟨.new, first⟩ [] where
  whole := rfl
  short := (by decide : 0 < windowSamples)
  processed := rfl
  detector_eq := by
    have noFrame : wholeFrames ([] : List Sample) = [] := by
      simp [wholeFrames]
    rw [noFrame, detectorAfter]
  tracks := @Tracks.silence Sample [] _ [] []
    ⟨fun _ member => absurd member List.not_mem_nil, List.Pairwise.nil⟩

theorem detectFrame_ok
    (run : detectFrame detector listener = (.ok more, after)) :
    ∃ probability vad,
      (detector.speechProbability listener.detector listener.vad.frame).1 =
        .ok probability ∧
      listener.vad.processFrame (detector.isSpeech probability) =
        (.ok more, vad) ∧
      after = ⟨{ vad with frame := [] }, (detector.speechProbability
        listener.detector listener.vad.frame).2⟩ := by
  unfold detectFrame at run
  dsimp only at run
  split at run
  next => cases run
  next probability isProbability =>
    split at run
    next =>
      split at run
      next => cases run
      next events isOk =>
        obtain ⟨sameEvents, sameState⟩ := Prod.mk.inj run
        obtain rfl := Except.ok.inj sameEvents
        exact ⟨probability, _, isProbability, Prod.ext isOk rfl,
          sameState.symm⟩
    next => cases run

/-- One more sample. -/
theorem follows_pushSample {heard : List Sample} {sample : Sample}
    (follows : Follows detector first heard listener events)
    (small : (heard ++ listener.vad.frame).length + 1 < 2 ^ 64)
    (run : pushSample detector listener sample = (.ok more, after)) :
    ∃ heardAfter, heardAfter ++ after.vad.frame =
        heard ++ listener.vad.frame ++ [sample] ∧
      Follows detector first heardAfter after (events ++ more) := by
  unfold pushSample at run
  dsimp only at run
  rw [if_pos follows.short] at run
  split at run
  next full =>
    obtain ⟨probability, vad, isProbability, processed, rfl⟩ :=
      detectFrame_ok run
    dsimp only at isProbability processed
    have length := @length_heard _ _ _ detector first _ follows.whole
    rw [List.length_append] at small full
    have step := @tracks_processFrame Sample heard
      (speechFlags detector first (wholeFrames heard))
      ⟨listener.vad.state, listener.vad.frame ++ [sample],
        listener.vad.segment, listener.vad.processedSamples⟩
      _ events more _ follows.tracks length (by
        rw [List.length_append]
        exact full) follows.processed (by
        rw [← full, List.length_singleton]
        omega) processed
    have frames := @wholeFrames_concat _ _ (listener.vad.frame ++ [sample])
      follows.whole (by
        rw [List.length_append]
        exact full)
    refine ⟨heard ++ (listener.vad.frame ++ [sample]), by simp, ?_⟩
    constructor
    · rw [List.length_append, List.length_append, full, Nat.add_mod_right]
      exact follows.whole
    · exact (by decide : 0 < windowSamples)
    · rw [List.length_append, List.length_append, full]
      exact step.2
    · rw [frames, detectorAfter_append, ← follows.detector_eq]
      rfl
    · rw [frames, speechFlags_append, ← follows.detector_eq, speechFlags,
        speechFlags, isProbability]
      exact step.1
  next notFull =>
    obtain ⟨sameEvents, rfl⟩ := Prod.mk.inj run
    obtain rfl := Except.ok.inj sameEvents
    refine ⟨heard, (List.append_assoc _ _ _).symm, follows.whole, ?_,
      follows.processed, follows.detector_eq, ?_⟩
    · have short := follows.short
      rw [List.length_append, List.length_singleton] at notFull
      change (listener.vad.frame ++ [sample]).length < windowSamples
      rw [List.length_append, List.length_singleton]
      omega
    · rw [List.append_nil]
      exact follows.tracks

theorem push_cons_ok {sample : Sample} {rest : List Sample}
    (run : push detector listener (sample :: rest) = (.ok more, after)) :
    ∃ early middle late, pushSample detector listener sample =
        (.ok early, middle) ∧
      push detector middle rest = (.ok late, after) ∧ more = early ++ late := by
  rw [push] at run
  dsimp only at run
  split at run
  next => cases run
  next early isOk =>
    cases others : (push detector (pushSample detector listener sample).2
        rest).1 with
    | error failure =>
        rw [others] at run
        cases run
    | ok late =>
        rw [others] at run
        obtain ⟨sameEvents, rfl⟩ := Prod.mk.inj run
        exact ⟨early, _, late, Prod.ext isOk rfl, Prod.ext others rfl,
          (Except.ok.inj sameEvents).symm⟩

/-- One push. -/
theorem follows_push {heard : List Sample} {samples : List Sample}
    (follows : Follows detector first heard listener events)
    (small : (heard ++ listener.vad.frame ++ samples).length < 2 ^ 64)
    (run : push detector listener samples = (.ok more, after)) :
    ∃ heardAfter, heardAfter ++ after.vad.frame =
        heard ++ listener.vad.frame ++ samples ∧
      Follows detector first heardAfter after (events ++ more) := by
  induction samples generalizing listener heard events more with
  | nil =>
      obtain ⟨sameEvents, rfl⟩ := Prod.mk.inj run
      obtain rfl := Except.ok.inj sameEvents
      refine ⟨heard, by rw [List.append_nil], ?_⟩
      rw [List.append_nil]
      exact follows
  | cons sample rest ih =>
      obtain ⟨early, middle, late, ranFirst, ranRest, rfl⟩ := push_cons_ok run
      rw [List.length_append, List.length_cons] at small
      obtain ⟨heardThen, isThen, followsThen⟩ :=
        follows_pushSample follows (by omega) ranFirst
      obtain ⟨heardAfter, isAfter, followsAfter⟩ := ih followsThen (by
        rw [isThen, List.length_append, List.length_append,
          List.length_singleton]
        omega) ranRest
      refine ⟨heardAfter, ?_, ?_⟩
      · rw [isAfter, isThen, List.append_assoc, List.singleton_append]
      · rw [← List.append_assoc]
        exact followsAfter

theorem push_append_ok {early late : List Sample}
    {middle : Listener Sample State}
    (run : push detector listener early = (.ok more, middle)) :
    push detector listener (early ++ late) =
      ((push detector middle late).1.map (more ++ ·),
        (push detector middle late).2) := by
  induction early generalizing listener more with
  | nil =>
      obtain ⟨sameEvents, rfl⟩ := Prod.mk.inj run
      obtain rfl := Except.ok.inj sameEvents
      rw [List.nil_append]
      cases result : push detector listener late with
      | mk outcome last => cases outcome <;> rfl
  | cons sample rest ih =>
      obtain ⟨start, between, others, ranFirst, ranRest, rfl⟩ :=
        push_cons_ok run
      rw [List.cons_append, push, ranFirst]
      dsimp only
      rw [ih ranRest]
      cases (push detector middle late).1 with
      | error failure => rfl
      | ok last => simp [Except.map]

theorem push_append_error {early late : List Sample}
    {failure : PushFailure} {middle : Listener Sample State}
    (run : push detector listener early = (.error failure, middle)) :
    push detector listener (early ++ late) = (.error failure, middle) := by
  induction early generalizing listener with
  | nil => cases run
  | cons sample rest ih =>
      rw [push] at run
      rw [List.cons_append, push]
      cases isFirst : pushSample detector listener sample with
      | mk outcome between =>
          rw [isFirst] at run
          dsimp only at run ⊢
          cases outcome with
          | error other => exact run
          | ok events =>
              dsimp only at run ⊢
              cases others : push detector between rest with
              | mk result last =>
                  rw [others] at run
                  cases result with
                  | ok more => cases run
                  | error other =>
                      cases run
                      rw [ih others]
                      rfl

/-- Pushes without an error return what one push of all samples returns. -/
theorem push_flatten_of_noError {chunks : List (List Sample)}
    (noError : NoError (pushes detector listener chunks)) :
    ∃ last, push detector listener chunks.flatten =
      (.ok (emitted (pushes detector listener chunks)), last) := by
  induction chunks generalizing listener with
  | nil => exact ⟨listener, rfl⟩
  | cons chunk rest ih =>
      rw [pushes] at noError ⊢
      have isOk := noError _ List.mem_cons_self
      cases result : push detector listener chunk with
      | mk outcome middle =>
          rw [result] at isOk noError
          cases outcome with
          | error failure => cases isOk
          | ok more =>
              obtain ⟨last, ran⟩ := ih fun result member =>
                noError result (List.mem_cons_of_mem _ member)
              refine ⟨last, ?_⟩
              rw [List.flatten_cons, push_append_ok result, ran]
              rfl

/-- Pushes of samples that one push takes have no error. -/
theorem noError_of_push_flatten {chunks : List (List Sample)}
    {last : Listener Sample State}
    (run : push detector listener chunks.flatten = (.ok more, last)) :
    NoError (pushes detector listener chunks) := by
  induction chunks generalizing listener more last with
  | nil => exact fun result member => absurd member List.not_mem_nil
  | cons chunk rest ih =>
      rw [List.flatten_cons] at run
      rw [pushes]
      cases result : push detector listener chunk with
      | mk outcome middle =>
          cases outcome with
          | error failure =>
              rw [push_append_error result] at run
              cases run
          | ok events =>
              rw [push_append_ok result] at run
              cases others : push detector middle rest.flatten with
              | mk outcome final =>
                  rw [others] at run
                  cases outcome with
                  | error failure => cases run
                  | ok later =>
                      have kept := ih others
                      intro result member
                      rcases List.mem_cons.mp member with rfl | member
                      · rfl
                      · exact kept result member

theorem AreFound.areItems {items : List (Item Sample)} {flags : List Bool}
    {cut : List (NeuralVadEvent Sample)}
    (areFound : AreFound samples flags items) (isCut : IsCutItem cut) :
    AreItems samples flags (items.flatMap Item.events ++ cut) items cut :=
  ⟨rfl, areFound.found, areFound.separate, isCut⟩

/-- The events of one push from the start are items. -/
theorem exists_areItems_of_push
    (small : samples.length < 2 ^ 64)
    (run : push detector ⟨.new, first⟩ samples = (.ok events, after)) :
    ∃ items cut, AreItems samples
      (speechFlags detector first (wholeFrames samples)) events items cut := by
  obtain ⟨heard, isSamples, follows⟩ :=
    follows_push (@follows_new _ _ _ detector first) small run
  rw [List.nil_append] at follows
  change heard ++ after.vad.frame = samples at isSamples
  subst isSamples
  rw [wholeFrames_append follows.whole follows.short]
  have length := @length_heard _ _ _ detector first _ follows.whole
  have tracks := follows.tracks
  revert tracks
  generalize after.vad.state = state
  generalize after.vad.segment = segment
  intro tracks
  cases tracks with
  | @silence segment items areFound =>
      have found := (@AreFound.append _ _ after.vad.frame _ [] _ areFound
        length).areItems .none
      rw [List.append_nil, List.append_nil] at found
      exact ⟨items, [], found⟩
  | @speech _ _ _ _ _ items opening areFound _ _ isOpening =>
      have isCut : IsCutItem opening := by
        cases isOpening with
        | silent => exact .none
        | announced nonempty _ => exact .utterance nonempty
      have found := (@AreFound.append _ _ after.vad.frame _ [] _ areFound
        length).areItems isCut
      rw [List.append_nil] at found
      exact ⟨items, opening, found⟩

end Pushes

/-- However the samples are split into pushes, pushes without an error return
the same events, which are the utterances and transients of the samples. -/
theorem emitted_spec (detector : Detector Sample State Probability)
    (first : State) {chunks : List (List Sample)}
    (small : chunks.flatten.length < 2 ^ 64)
    (noError : NoError (pushes detector ⟨.new, first⟩ chunks)) :
    (∀ others : List (List Sample), others.flatten = chunks.flatten →
      NoError (pushes detector ⟨.new, first⟩ others) ∧
      emitted (pushes detector ⟨.new, first⟩ others) =
        emitted (pushes detector ⟨.new, first⟩ chunks)) ∧
    ∃ items cut, AreItems chunks.flatten
      (speechFlags detector first (wholeFrames chunks.flatten))
      (emitted (pushes detector ⟨.new, first⟩ chunks)) items cut := by
  obtain ⟨last, run⟩ := push_flatten_of_noError noError
  refine ⟨?_, exists_areItems_of_push small run⟩
  intro others same
  have kept : NoError (pushes detector ⟨.new, first⟩ others) :=
    noError_of_push_flatten (same ▸ run)
  obtain ⟨otherLast, otherRun⟩ := push_flatten_of_noError kept
  rw [same, run] at otherRun
  exact ⟨kept, (Except.ok.inj (Prod.mk.inj otherRun).1).symm⟩

/-- The detector that hears speech in these frames. -/
def speechIn (speech : Nat → Bool) : Detector Unit Nat Bool where
  speechProbability := fun count _ => (.ok (speech count), count + 1)
  inRange := fun _ => true
  isSpeech := id

/-- Speech from one frame on to another. -/
abbrev speechBetween (start stop : Nat) : Detector Unit Nat Bool :=
  speechIn fun count => decide (start ≤ count ∧ count < stop)

theorem errorFree_speechIn (speech : Nat → Bool) :
    (speechIn speech).ErrorFree :=
  fun _ _ _ => ⟨_, rfl, rfl⟩

/-- The samples of some frames. -/
@[irreducible]
def frames (count : Nat) : List Unit :=
  List.replicate (windowSamples * count) ()

theorem length_frames (count : Nat) :
    (frames count).length = windowSamples * count := by
  rw [frames, List.length_replicate]

theorem frames_add (first second : Nat) :
    frames (first + second) = frames first ++ frames second := by
  rw [frames, frames, frames, Nat.mul_add, List.replicate_append_replicate]

section Speech

variable {speech : Nat → Bool} {events : List (NeuralVadEvent Unit)}
  {state : EndpointState} {segment : List Unit} {position : Nat}
  {vad : NeuralVadState Unit} {listener : Listener Unit Nat}

theorem push_short (detector : Detector Sample State Probability)
    (listener : Listener Sample State) (samples : List Sample)
    (short : listener.vad.frame.length + samples.length < windowSamples) :
    push detector listener samples = (.ok [], ⟨{ listener.vad with
      frame := listener.vad.frame ++ samples }, listener.detector⟩) := by
  induction samples generalizing listener with
  | nil => rw [push, List.append_nil]
  | cons sample rest ih =>
      rw [List.length_cons] at short
      have notFull : (listener.vad.frame ++ [sample]).length ≠
          windowSamples := by
        rw [List.length_append, List.length_singleton]
        omega
      rw [push, pushSample, if_pos (by omega), if_neg notFull]
      dsimp only
      rw [ih _ (by
        rw [List.length_append, List.length_singleton]
        omega)]
      simp [Except.map]

/-- One frame. -/
theorem push_frame {detector : Detector Unit Nat Bool}
    (empty : listener.vad.frame = []) :
    push detector listener (frames 1) = detectFrame detector
      ⟨{ listener.vad with frame := frames 1 }, listener.detector⟩ := by
  have whole : frames 1 = List.replicate (windowSamples - 1) () ++ [()] := by
    rw [frames, Nat.mul_one]
    exact List.replicate_succ'
  have front := push_short detector listener
    (List.replicate (windowSamples - 1) ()) (by
      rw [empty, List.length_replicate]
      decide)
  rw [empty, List.nil_append] at front
  have full : (List.replicate (windowSamples - 1) () ++ [()]).length =
      windowSamples := by
    rw [List.length_append, List.length_replicate]
    rfl
  have room : (List.replicate (windowSamples - 1) ()).length <
      windowSamples := by
    rw [List.length_replicate]
    decide
  rw [whole, push_append_ok front, push, pushSample, if_pos room, if_pos full]
  dsimp only
  cases detectFrame detector ⟨{ listener.vad with
      frame := List.replicate (windowSamples - 1) () ++ [()] },
      listener.detector⟩ with
  | mk outcome last =>
      cases outcome with
      | error failure => rfl
      | ok events => simp [push, Except.map]

/-- One more frame. -/
theorem push_frames_succ {count : Nat} {flag : Bool}
    {more : List (NeuralVadEvent Unit)}
    (run : push (speechIn speech) ⟨.new, 0⟩ (frames count) =
      (.ok events, ⟨⟨state, [], segment, position⟩, count⟩))
    (isFlag : speech count = flag)
    (processed : (⟨state, frames 1, segment, position⟩ :
      NeuralVadState Unit).processFrame flag = (.ok more, vad)) :
    push (speechIn speech) ⟨.new, 0⟩ (frames (count + 1)) =
      (.ok (events ++ more), ⟨{ vad with frame := [] }, count + 1⟩) := by
  have detected : detectFrame (speechIn speech)
      ⟨⟨state, frames 1, segment, position⟩, count⟩ =
        (.ok more, ⟨{ vad with frame := [] }, count + 1⟩) := by
    unfold detectFrame speechIn
    dsimp only [id]
    rw [isFlag, processed, if_pos rfl]
  rw [frames_add, push_append_ok run, push_frame rfl]
  dsimp only
  rw [detected]
  rfl

/-- One more frame, that fails. -/
theorem push_frames_error {count : Nat} {flag : Bool} {error : VadError}
    (run : push (speechIn speech) ⟨.new, 0⟩ (frames count) =
      (.ok events, ⟨⟨state, [], segment, position⟩, count⟩))
    (isFlag : speech count = flag)
    (processed : (⟨state, frames 1, segment, position⟩ :
      NeuralVadState Unit).processFrame flag = (.error error, vad)) :
    push (speechIn speech) ⟨.new, 0⟩ (frames (count + 1)) =
      (.error (.vad error), ⟨vad, count + 1⟩) := by
  have detected : detectFrame (speechIn speech)
      ⟨⟨state, frames 1, segment, position⟩, count⟩ =
        (.error (.vad error), ⟨vad, count + 1⟩) := by
    unfold detectFrame speechIn
    dsimp only [id]
    rw [isFlag, processed, if_pos rfl]
  rw [frames_add, push_append_ok run, push_frame rfl]
  dsimp only
  rw [detected]
  rfl

theorem processFrame_silence (frame segment : List Sample) (position : Nat) :
    (⟨.silence, frame, segment, position⟩ :
        NeuralVadState Sample).processFrame true =
      (.ok [], ⟨.speech position 1 0
        (saturatingU64 (position + windowSamples)) false, frame, frame,
        saturatingU64 (position + windowSamples)⟩) := by
  have short : ¬ maxUtteranceSamples < ([] : List Sample).length +
      windowSamples := by
    rw [List.length_nil]
    decide
  unfold NeuralVadState.processFrame
  dsimp only
  rw [if_pos rfl, NeuralVadState.appendFrame, if_neg short]
  rfl

/-- What a frame of speech passes on, with the segment that it ends. -/
def voicedEvents (startSample stop : Nat) (announced nowAnnounced : Bool)
    (segment frame : List Sample) : List (NeuralVadEvent Sample) :=
  if !announced && nowAnnounced then
    [.speechOnset startSample stop, .speechSamples segment]
  else if announced then [.speechSamples frame]
  else []

theorem processFrame_speech {startSample voicedFrames quietFrames
      speechEndSample position : Nat} {announced : Bool}
    {frame segment : List Sample}
    (short : segment.length + windowSamples ≤ maxUtteranceSamples)
    (few : voicedFrames + 1 < 2 ^ 16) :
    (⟨.speech startSample voicedFrames quietFrames speechEndSample announced,
        frame, segment, position⟩ : NeuralVadState Sample).processFrame true =
      (.ok (voicedEvents startSample (saturatingU64 (position + windowSamples))
          announced
          (announced || decide (minimumSpeechFrames ≤ voicedFrames + 1))
          (segment ++ frame) frame),
        ⟨.speech startSample (voicedFrames + 1) 0
          (saturatingU64 (position + windowSamples))
          (announced || decide (minimumSpeechFrames ≤ voicedFrames + 1)),
          frame, segment ++ frame,
          saturatingU64 (position + windowSamples)⟩) := by
  have exactly : saturatingU16 (voicedFrames + 1) = voicedFrames + 1 := by
    unfold saturatingU16
    omega
  unfold NeuralVadState.processFrame
  dsimp only
  rw [if_pos rfl, NeuralVadState.appendFrame, if_neg (Nat.not_lt.mpr short),
    exactly]
  rfl

/-- The events of speech from the first frame on. -/
def openingEvents (count : Nat) : List (NeuralVadEvent Unit) :=
  if count < minimumSpeechFrames then []
  else .speechOnset 0 (windowSamples * minimumSpeechFrames) ::
    .speechSamples (frames minimumSpeechFrames) ::
      List.replicate (count - minimumSpeechFrames) (.speechSamples (frames 1))

theorem openingEvents_succ (count : Nat) :
    openingEvents (count + 1 + 1) = openingEvents (count + 1) ++
      voicedEvents 0 (windowSamples * (count + 1 + 1))
        (decide (minimumSpeechFrames ≤ count + 1))
        (decide (minimumSpeechFrames ≤ count + 1 + 1))
        (frames (count + 1 + 1)) (frames 1) := by
  unfold openingEvents voicedEvents minimumSpeechFrames
  rcases Nat.lt_trichotomy count 2 with few | rfl | many
  · rw [if_pos (by omega), if_pos (by omega), decide_eq_false (by omega),
      decide_eq_false (by omega)]
    rfl
  · rfl
  · rw [if_neg (by omega), if_neg (by omega), decide_eq_true (by omega),
      decide_eq_true (by omega), show count + 1 + 1 - 4 = count + 1 - 4 + 1 by
        omega, List.replicate_succ']
    rfl

/-- Speech from the first frame on. -/
theorem push_speech {count : Nat}
    (voiced : ∀ index ≤ count, speech index = true)
    (short : windowSamples * (count + 1) ≤ maxUtteranceSamples) :
    push (speechIn speech) ⟨.new, 0⟩ (frames (count + 1)) =
      (.ok (openingEvents (count + 1)),
        ⟨⟨.speech 0 (count + 1) 0 (windowSamples * (count + 1))
          (decide (minimumSpeechFrames ≤ count + 1)), [], frames (count + 1),
          windowSamples * (count + 1)⟩, count + 1⟩) := by
  have window : windowSamples = 512 := rfl
  have most : maxUtteranceSamples = 480000 := rfl
  induction count with
  | zero =>
      have started : push (speechIn speech) ⟨.new, 0⟩ (frames 0) =
          (.ok [], ⟨.new, 0⟩) := by
        rw [frames]
        rfl
      rw [push_frames_succ started (voiced 0 le_rfl)
        (processFrame_silence (frames 1) [] 0)]
      rfl
  | succ count ih =>
      have run := ih (fun index early => voiced index (by omega))
        (by rw [window] at *; omega)
      have few : (frames (count + 1)).length + windowSamples ≤
          maxUtteranceSamples := by
        rw [length_frames]
        rw [window] at *
        omega
      have next : saturatingU64 (windowSamples * (count + 1) +
          windowSamples) = windowSamples * (count + 1 + 1) := by
        rw [window, most] at *
        unfold saturatingU64
        omega
      have announced : (decide (minimumSpeechFrames ≤ count + 1) ||
          decide (minimumSpeechFrames ≤ count + 1 + 1)) =
            decide (minimumSpeechFrames ≤ count + 1 + 1) := by
        rw [← Bool.decide_or, decide_eq_decide]
        omega
      have processed := @processFrame_speech Unit 0 (count + 1) 0
        (windowSamples * (count + 1)) (windowSamples * (count + 1))
        (decide (minimumSpeechFrames ≤ count + 1)) (frames 1)
        (frames (count + 1)) few (by
          rw [window, most] at *
          omega)
      rw [next, announced, ← frames_add] at processed
      rw [push_frames_succ run (voiced (count + 1) le_rfl) processed,
        openingEvents_succ]

/-- One frame of speech too much. -/
theorem push_tooLong {count : Nat}
    (voiced : ∀ index ≤ count + 1, speech index = true)
    (short : windowSamples * (count + 1) ≤ maxUtteranceSamples)
    (tooLong : maxUtteranceSamples <
      windowSamples * (count + 1) + windowSamples) :
    ∃ last, push (speechIn speech) ⟨.new, 0⟩ (frames (count + 1 + 1)) =
      (.error (.vad .utteranceTooLong), last) := by
  have run := @push_speech speech count
    (fun index early => voiced index (by omega)) short
  rw [← length_frames] at tooLong
  have processed : (⟨.speech 0 (count + 1) 0 (windowSamples * (count + 1))
      (decide (minimumSpeechFrames ≤ count + 1)), frames 1, frames (count + 1),
      windowSamples * (count + 1)⟩ : NeuralVadState Unit).processFrame true =
        (.error .utteranceTooLong, ⟨.silence, frames 1, [],
          saturatingU64 (windowSamples * (count + 1) + windowSamples)⟩) := by
    unfold NeuralVadState.processFrame
    dsimp only
    rw [if_pos rfl, NeuralVadState.appendFrame, if_pos tooLong]
  exact ⟨_, push_frames_error run (voiced (count + 1) le_rfl) processed⟩

theorem saturatingU64_add (first second : Nat) :
    saturatingU64 (saturatingU64 first + second) =
      saturatingU64 (first + second) := by
  unfold saturatingU64
  omega

theorem push_silence {count : Nat}
    (quiet : ∀ index < count, speech index = false) :
    push (speechIn speech) ⟨.new, 0⟩ (frames count) =
      (.ok [], ⟨⟨.silence, [], [], saturatingU64 (windowSamples * count)⟩,
        count⟩) := by
  induction count with
  | zero =>
      rw [frames]
      rfl
  | succ count ih =>
      have run := ih fun index early => quiet index (by omega)
      rw [push_frames_succ run (quiet count (by omega)) rfl, saturatingU64_add,
        ← Nat.mul_succ]
      rfl

/-- What a quiet frame in speech passes on. -/
def quietEvents (announced : Bool) : List (NeuralVadEvent Unit) :=
  if announced then [.speechSamples (frames 1)] else []

theorem processFrame_quiet {startSample voicedFrames quietFrames
      speechEndSample position : Nat} {announced : Bool} {segment : List Unit}
    (short : segment.length + windowSamples ≤ maxUtteranceSamples)
    (early : quietFrames + 1 < hangoverFrames) :
    (⟨.speech startSample voicedFrames quietFrames speechEndSample announced,
        frames 1, segment, position⟩ : NeuralVadState Unit).processFrame false =
      (.ok (quietEvents announced),
        ⟨.speech startSample voicedFrames (quietFrames + 1) speechEndSample
          announced, frames 1, segment ++ frames 1,
          saturatingU64 (position + windowSamples)⟩) := by
  have exactly : saturatingU16 (quietFrames + 1) = quietFrames + 1 := by
    unfold hangoverFrames at early
    unfold saturatingU16
    omega
  unfold NeuralVadState.processFrame
  dsimp only
  rw [if_neg Bool.false_ne_true, NeuralVadState.appendFrame,
    if_neg (Nat.not_lt.mpr short)]
  dsimp only
  rw [NeuralVadState.endSpeech, exactly, if_pos early]
  rfl

/-- The event that ends speech. -/
def closingEvent (announced : Bool) (segment : List Unit)
    (endpoint : VadEndpoint) : NeuralVadEvent Unit :=
  if announced then .segment segment endpoint else .rejectedTransient endpoint

theorem processFrame_close {startSample voicedFrames speechEndSample
      position : Nat} {announced : Bool} {segment : List Unit}
    (short : segment.length + windowSamples ≤ maxUtteranceSamples) :
    (⟨.speech startSample voicedFrames 7 speechEndSample announced, frames 1,
        segment, position⟩ : NeuralVadState Unit).processFrame false =
      (.ok (quietEvents announced ++ [closingEvent announced
          (segment ++ frames 1) ⟨startSample, speechEndSample,
            saturatingU64 (position + windowSamples)⟩]),
        ⟨.silence, frames 1, [], saturatingU64 (position + windowSamples)⟩) := by
  unfold NeuralVadState.processFrame
  dsimp only
  rw [if_neg Bool.false_ne_true, NeuralVadState.appendFrame,
    if_neg (Nat.not_lt.mpr short)]
  cases announced <;> rfl

section Ending

variable {count length startSample voicedFrames speechEndSample : Nat}
  {announced : Bool}
  (run : push (speechIn speech) ⟨.new, 0⟩ (frames count) =
    (.ok events, ⟨⟨.speech startSample voicedFrames 0 speechEndSample
      announced, [], frames length, position⟩, count⟩))
  (bounded : saturatingU64 position = position)

include run bounded

/-- Quiet frames that do not end the speech. -/
theorem push_quiet {quietFrames : Nat} (few : quietFrames < hangoverFrames)
    (quiet : ∀ index < quietFrames, speech (count + index) = false)
    (short : windowSamples * (length + quietFrames) ≤ maxUtteranceSamples) :
    push (speechIn speech) ⟨.new, 0⟩ (frames (count + quietFrames)) =
      (.ok (events ++ (List.replicate quietFrames
          (quietEvents announced)).flatten),
        ⟨⟨.speech startSample voicedFrames quietFrames speechEndSample
          announced, [], frames (length + quietFrames),
          saturatingU64 (position + windowSamples * quietFrames)⟩,
          count + quietFrames⟩) := by
  induction quietFrames with
  | zero => simpa [bounded] using run
  | succ quietFrames ih =>
      have more := ih (by omega) (fun index early => quiet index (by omega))
        (by
          rw [← Nat.add_assoc, Nat.mul_succ] at short
          omega)
      have fits : (frames (length + quietFrames)).length + windowSamples ≤
          maxUtteranceSamples := by
        rw [length_frames, ← Nat.mul_succ]
        exact short
      have processed := @processFrame_quiet startSample voicedFrames quietFrames
        speechEndSample (saturatingU64 (position + windowSamples * quietFrames))
        announced (frames (length + quietFrames)) fits few
      rw [← Nat.add_assoc, push_frames_succ more (quiet quietFrames (by omega))
        processed, saturatingU64_add, ← frames_add, List.replicate_succ',
        List.flatten_concat, List.append_assoc, Nat.add_assoc position,
        ← Nat.mul_succ]
      rfl

/-- Enough quiet frames end the speech. -/
theorem push_hangover
    (quiet : ∀ index < hangoverFrames, speech (count + index) = false)
    (short : windowSamples * (length + hangoverFrames) ≤ maxUtteranceSamples) :
    push (speechIn speech) ⟨.new, 0⟩ (frames (count + hangoverFrames)) =
      (.ok (events ++ (List.replicate hangoverFrames
          (quietEvents announced)).flatten ++
            [closingEvent announced (frames (length + hangoverFrames))
              ⟨startSample, speechEndSample, saturatingU64
                (position + windowSamples * hangoverFrames)⟩]),
        ⟨⟨.silence, [], [],
          saturatingU64 (position + windowSamples * hangoverFrames)⟩,
          count + hangoverFrames⟩) := by
  have before := push_quiet run bounded (show 7 < hangoverFrames by decide)
    (fun index early => quiet index (by
      unfold hangoverFrames
      omega))
    (by
      unfold windowSamples hangoverFrames maxUtteranceSamples at *
      omega)
  have fits : (frames (length + 7)).length + windowSamples ≤
      maxUtteranceSamples := by
    rw [length_frames, ← Nat.mul_succ]
    exact short
  have processed := @processFrame_close startSample voicedFrames
    speechEndSample (saturatingU64 (position + windowSamples * 7)) announced
    (frames (length + 7)) fits
  have last : hangoverFrames = 7 + 1 := rfl
  have passed : (List.replicate (7 + 1) (quietEvents announced)).flatten =
      (List.replicate 7 (quietEvents announced)).flatten ++
        quietEvents announced := by
    rw [List.replicate_succ', List.flatten_concat]
  rw [last, ← Nat.add_assoc, push_frames_succ before (quiet 7 (by decide))
    processed, saturatingU64_add, ← frames_add, passed, Nat.add_assoc position,
    ← Nat.mul_succ]
  simp only [List.append_assoc]

end Ending

/-- The last position. -/
def lastSample : Nat := 0xFFFFFFFFFFFFFFFF

theorem push_transient {start : Nat}
    (atEnd : saturatingU64 (windowSamples * start) = lastSample) :
    ∃ last, push (speechBetween start (start + 1)) ⟨.new, 0⟩
        (frames (start + 1 + hangoverFrames)) =
      (.ok [.rejectedTransient ⟨lastSample, lastSample, lastSample⟩],
        last) := by
  have before := @push_silence
    (fun count => decide (start ≤ count ∧ count < start + 1)) start
    (fun index early => decide_eq_false (by omega))
  have isSpeech : decide (start ≤ start ∧ start < start + 1) = true :=
    decide_eq_true ⟨le_rfl, start.lt_succ_self⟩
  have voiced := push_frames_succ before isSpeech
    (processFrame_silence (frames 1) [] _)
  have later : ∀ more, saturatingU64 (windowSamples * start + more) =
      lastSample := by
    intro more
    unfold lastSample saturatingU64 at *
    omega
  rw [saturatingU64_add, later, atEnd] at voiced
  have ended := push_hangover voiced rfl
    (fun index early => decide_eq_false (by omega))
    (show windowSamples * (1 + hangoverFrames) ≤ maxUtteranceSamples by decide)
  have last : saturatingU64 (lastSample + windowSamples * hangoverFrames) =
      lastSample := by
    decide
  rw [last] at ended
  exact ⟨_, ended⟩

end Speech

/-- A push that fails returns no events, also none of those before its failure;
and at the end of the clock an item has no length. -/
theorem pushes_matter :
    (¬ ∀ detector : Detector Unit Nat Bool, detector.ErrorFree →
      ∀ first (chunks others : List (List Unit)),
        chunks.flatten = others.flatten →
        emitted (pushes detector ⟨.new, first⟩ chunks) =
          emitted (pushes detector ⟨.new, first⟩ others)) ∧
    ¬ ∀ detector : Detector Unit Nat Bool, detector.ErrorFree →
      ∀ first (chunks : List (List Unit)),
        NoError (pushes detector ⟨.new, first⟩ chunks) →
        ∀ endpoint, .rejectedTransient endpoint ∈
            emitted (pushes detector ⟨.new, first⟩ chunks) →
          endpoint.startSample < endpoint.speechEndSample := by
  constructor
  · intro same
    have heard : ∀ index < 1000, decide (0 ≤ index ∧ index < 1000) = true :=
      fun index early => decide_eq_true (by omega)
    obtain ⟨last, failed⟩ := @push_tooLong
      (fun count => decide (0 ≤ count ∧ count < 1000)) 936
      (fun index early => heard index (by omega)) (by decide) (by decide)
    have run := @push_speech (fun count => decide (0 ≤ count ∧ count < 1000)) 3
      (fun index early => heard index (by omega)) (by decide)
    have split : frames (936 + 1 + 1) = frames (3 + 1) ++ frames 934 :=
      frames_add (3 + 1) 934
    have equal := same (speechBetween 0 1000) (errorFree_speechIn _) 0
      [frames (936 + 1 + 1)] [frames (3 + 1), frames 934]
      (by simp [split])
    simp only [pushes, failed, run] at equal
    have parts : emitted [.error (.vad .utteranceTooLong)] =
      openingEvents (3 + 1) ++ _ := equal
    cases parts
  · intro ordered
    obtain ⟨last, run⟩ := @push_transient (2 ^ 55) (by decide)
    have order := ordered (speechBetween (2 ^ 55) (2 ^ 55 + 1))
      (errorFree_speechIn _) 0 [frames (2 ^ 55 + 1 + hangoverFrames)]
      (by
        rw [pushes, run]
        intro result member
        rw [List.mem_singleton.mp member]
        rfl)
      ⟨lastSample, lastSample, lastSample⟩ (by
        rw [pushes, run]
        exact List.mem_singleton_self _)
    exact lt_irrefl _ order

/-- Four frames of speech, eight quiet ones, and one of speech. -/
abbrev twoSounds : Detector Unit Nat Bool :=
  speechIn fun count => decide (count < 4) || decide (count = 12)

/-- What is heard of them: an utterance and a transient. -/
def twoSoundsEvents : List (NeuralVadEvent Unit) :=
  .speechOnset 0 2048 :: .speechSamples (frames 4) ::
    List.replicate 8 (.speechSamples (frames 1)) ++
      [.segment (frames 12) ⟨0, 2048, 6144⟩,
        .rejectedTransient ⟨6144, 6656, 10752⟩]

theorem push_twoSounds :
    ∃ last, push twoSounds ⟨.new, 0⟩ (frames 21) =
      (.ok twoSoundsEvents, last) := by
  have first := @push_speech
    (fun count => decide (count < 4) || decide (count = 12)) 3
    (by decide) (by decide)
  have ended := push_hangover first (by decide) (by decide)
    (show windowSamples * (4 + hangoverFrames) ≤ maxUtteranceSamples by decide)
  have isSpeech : (decide (12 < 4) || decide (12 = 12)) = true := rfl
  have voiced := push_frames_succ ended isSpeech
    (processFrame_silence (frames 1) [] _)
  have last := push_hangover voiced (by decide) (by decide)
    (show windowSamples * (1 + hangoverFrames) ≤ maxUtteranceSamples by decide)
  exact ⟨_, last⟩

/-- The two sounds in three pushes. -/
theorem emitted_spec_sample :
    NoError (pushes twoSounds ⟨.new, 0⟩ [frames 3, frames 8, frames 10]) ∧
    emitted (pushes twoSounds ⟨.new, 0⟩ [frames 3, frames 8, frames 10]) =
      twoSoundsEvents ∧
    ∃ items cut, AreItems [frames 21].flatten
      (speechFlags twoSounds 0 (wholeFrames [frames 21].flatten))
      twoSoundsEvents items cut := by
  obtain ⟨last, run⟩ := push_twoSounds
  have noError : NoError (pushes twoSounds ⟨.new, 0⟩ [frames 21]) := by
    intro result member
    rw [pushes, run] at member
    rw [List.mem_singleton.mp member]
    rfl
  have events : emitted (pushes twoSounds ⟨.new, 0⟩ [frames 21]) =
      twoSoundsEvents := by
    rw [pushes, run]
    simp [pushes, emitted, Except.toOption]
  have spec := emitted_spec twoSounds 0 (by
    rw [List.flatten_singleton, length_frames]
    decide) noError
  rw [events] at spec
  obtain ⟨split, items⟩ := spec
  have parts : [frames 3, frames 8, frames 10].flatten = [frames 21].flatten := by
    simp only [List.flatten_cons, List.flatten_nil, List.append_nil,
      ← frames_add]
  exact ⟨(split _ parts).1, (split _ parts).2, items⟩

end NeuralVad

end PlatoAgent
