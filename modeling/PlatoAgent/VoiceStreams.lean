import Mathlib.Computability.Language
import PlatoAgent.LedgerTypes

/-!
# Voice companion streams

The validation of a stream looks at neighbouring events and keeps two flags.
What it accepts is a regular language: a capture at most, speech that was not
interrupted, and at the end an interrupted speech with its interruption.
-/

namespace PlatoAgent

namespace VoiceEvent

def IsCapture : VoiceEvent → Prop
  | .voiceCaptured .. => True
  | _ => False

/-- Speech that was not interrupted. -/
def IsWholeSpeech : VoiceEvent → Prop
  | .voiceSpoken _ _ _ _ none => True
  | _ => False

/-- An interrupted speech, and the interruption of the same run and turn. -/
def IsInterruption : VoiceEvent → VoiceEvent → Prop
  | .voiceSpoken run turn _ _ (some _), .voiceInterrupted otherRun otherTurn _ _
    => run = otherRun ∧ turn = otherTurn
  | _, _ => False

theorem IsCapture.not_isWholeSpeech {event : VoiceEvent}
    (isCapture : event.IsCapture) : ¬ event.IsWholeSpeech := by
  cases event with
  | voiceCaptured => exact id
  | voiceSpoken => exact isCapture.elim
  | voiceInterrupted => exact isCapture.elim

theorem IsCapture.not_isInterruption {event next : VoiceEvent}
    (isCapture : event.IsCapture) : ¬ event.IsInterruption next := by
  cases event with
  | voiceCaptured => exact id
  | voiceSpoken => exact isCapture.elim
  | voiceInterrupted => exact isCapture.elim

theorem IsInterruption.not_isWholeSpeech {speech interruption : VoiceEvent}
    (isPair : speech.IsInterruption interruption) :
    ¬ speech.IsWholeSpeech := by
  cases speech with
  | voiceCaptured => exact isPair.elim
  | voiceInterrupted => exact isPair.elim
  | voiceSpoken run turn ttfa count interruptedAt =>
      cases interruptedAt with
      | none => exact isPair.elim
      | some sentence => exact id

end VoiceEvent

open Computability

/-- Words of one event. -/
def singleWords (accepts : VoiceEvent → Prop) : Language VoiceEvent :=
  {word | ∃ event, accepts event ∧ word = [event]}

def interruptionWords : Language VoiceEvent :=
  {word | ∃ speech interruption,
    speech.IsInterruption interruption ∧ word = [speech, interruption]}

/-- What follows the capture. -/
def speechLanguage : Language VoiceEvent :=
  (singleWords VoiceEvent.IsWholeSpeech)∗ * (1 + interruptionWords)

def voiceStreamLanguage : Language VoiceEvent :=
  (1 + singleWords VoiceEvent.IsCapture) * speechLanguage

/-- A word ends, or starts with speech that is whole. -/
theorem mem_speechLanguage {word : List VoiceEvent} :
    word ∈ speechLanguage ↔
      (word = [] ∨ word ∈ interruptionWords) ∨
      ∃ speech rest, speech.IsWholeSpeech ∧ rest ∈ speechLanguage ∧
        word = speech :: rest := by
  have unfolded : speechLanguage = (1 + interruptionWords) +
      singleWords VoiceEvent.IsWholeSpeech * speechLanguage := by
    unfold speechLanguage
    rw [← mul_assoc, ← one_add_mul, Language.one_add_self_mul_kstar_eq_kstar]
  rw [unfolded, Language.mem_add, Language.mem_add, Language.mem_one]
  apply or_congr_right
  rw [← unfolded, Language.mem_mul]
  constructor
  · rintro ⟨_, ⟨speech, isWhole, rfl⟩, rest, isRest, rfl⟩
    exact ⟨speech, rest, isWhole, isRest, rfl⟩
  · rintro ⟨speech, rest, isWhole, isRest, rfl⟩
    exact ⟨[speech], ⟨speech, isWhole, rfl⟩, rest, isRest, rfl⟩

/-- A stream starts with its capture, or has none. -/
theorem mem_voiceStreamLanguage {word : List VoiceEvent} :
    word ∈ voiceStreamLanguage ↔ word ∈ speechLanguage ∨
      ∃ capture rest, capture.IsCapture ∧ rest ∈ speechLanguage ∧
        word = capture :: rest := by
  unfold voiceStreamLanguage
  rw [one_add_mul, Language.mem_add, Language.mem_mul]
  apply or_congr_right
  constructor
  · rintro ⟨_, ⟨capture, isCapture, rfl⟩, rest, isRest, rfl⟩
    exact ⟨capture, rest, isCapture, isRest, rfl⟩
  · rintro ⟨capture, rest, isCapture, isRest, rfl⟩
    exact ⟨[capture], ⟨capture, isCapture, rfl⟩, rest, isRest, rfl⟩

theorem nil_mem_speechLanguage : [] ∈ speechLanguage :=
  mem_speechLanguage.mpr (.inl (.inl rfl))

theorem whole_cons_mem {speech : VoiceEvent} (isWhole : speech.IsWholeSpeech)
    {rest : List VoiceEvent} :
    speech :: rest ∈ speechLanguage ↔ rest ∈ speechLanguage := by
  rw [mem_speechLanguage]
  constructor
  · rintro ((isNil | ⟨first, second, isPair, isWord⟩) |
      ⟨first, others, _, isOthers, isWord⟩)
    · cases isNil
    · rw [List.cons.injEq] at isWord
      rw [isWord.1] at isWhole
      exact absurd isWhole isPair.not_isWholeSpeech
    · cases isWord
      exact isOthers
  · intro isRest
    exact .inr ⟨speech, rest, isWhole, isRest, rfl⟩

/-- Another event starts a word only as an interrupted speech at the end. -/
theorem other_cons_mem {event : VoiceEvent} (notWhole : ¬ event.IsWholeSpeech)
    {rest : List VoiceEvent} :
    event :: rest ∈ speechLanguage ↔
      ∃ interruption, event.IsInterruption interruption ∧
        rest = [interruption] := by
  rw [mem_speechLanguage]
  constructor
  · rintro ((isNil | ⟨first, second, isPair, isWord⟩) |
      ⟨first, others, isWhole, _, isWord⟩)
    · cases isNil
    · cases isWord
      exact ⟨second, isPair, rfl⟩
    · cases isWord
      exact absurd isWhole notWhole
  · rintro ⟨interruption, isPair, rfl⟩
    exact .inl (.inr ⟨event, interruption, isPair, rfl⟩)

/-- The loop over the events from an index on. -/
def validateVoiceEventsFrom (events : List VoiceEvent) (index : Nat)
    (seen : VoiceStreamSeen) (rest : List VoiceEvent) :
    Except AppError VoiceStreamSeen :=
  (rest.zipIdx index).foldlM
    (fun seen entry => validateVoiceEventAt events seen entry.1 entry.2) seen

theorem validateVoiceEventsFrom_cons (events : List VoiceEvent) (index : Nat)
    (seen : VoiceStreamSeen) (event : VoiceEvent) (rest : List VoiceEvent) :
    validateVoiceEventsFrom events index seen (event :: rest) =
      validateVoiceEventAt events seen event index >>= fun seen =>
        validateVoiceEventsFrom events (index + 1) seen rest :=
  rfl

/-- The loop passed the events from an index on. -/
def StreamPasses (events : List VoiceEvent) (index : Nat) (seen : VoiceStreamSeen)
    (rest : List VoiceEvent) : Prop :=
  (validateVoiceEventsFrom events index seen rest).isOk = true

theorem passes_nil (events : List VoiceEvent) (index : Nat)
    (seen : VoiceStreamSeen) : StreamPasses events index seen [] :=
  rfl

theorem passes_cons_of_ok {events : List VoiceEvent} {index : Nat}
    {seen after : VoiceStreamSeen} {event : VoiceEvent}
    (passed : validateVoiceEventAt events seen event index = .ok after)
    (rest : List VoiceEvent) :
    StreamPasses events index seen (event :: rest) ↔
      StreamPasses events (index + 1) after rest := by
  unfold StreamPasses
  rw [validateVoiceEventsFrom_cons, passed]
  rfl

theorem not_passes_cons {events : List VoiceEvent} {index : Nat}
    {seen : VoiceStreamSeen} {event : VoiceEvent}
    (refused : ¬ ∃ after,
      validateVoiceEventAt events seen event index = .ok after)
    (rest : List VoiceEvent) : ¬ StreamPasses events index seen (event :: rest) := by
  unfold StreamPasses
  rw [validateVoiceEventsFrom_cons]
  cases result : validateVoiceEventAt events seen event index with
  | error error => exact Bool.false_ne_true
  | ok after => exact absurd ⟨after, result⟩ refused

/-- A capture passes as the first event. -/
theorem validateCapture (events : List VoiceEvent) (seen : VoiceStreamSeen)
    {event : VoiceEvent} (isCapture : event.IsCapture) (index : Nat) :
    validateVoiceEventAt events seen event index =
      if seen.capture = true ∨ index ≠ 0 then
        .error (.voiceEventContract
          "voice capture must appear at most once and first")
      else .ok { seen with capture := true } := by
  cases event with
  | voiceCaptured => rfl
  | voiceSpoken => exact isCapture.elim
  | voiceInterrupted => exact isCapture.elim

theorem isInterruptionOf_iff (run : RunId) (turn : TurnId)
    (ttfa count sentence : UInt64) (next : VoiceEvent) :
    isInterruptionOf run turn (some next) = true ↔
      (VoiceEvent.voiceSpoken run turn ttfa count
        (some sentence)).IsInterruption next := by
  cases next with
  | voiceInterrupted otherRun otherTurn spoken delta =>
      show (otherRun == run && otherTurn == turn) = true ↔
        run = otherRun ∧ turn = otherTurn
      rw [Bool.and_eq_true, beq_iff_eq, beq_iff_eq]
      exact and_congr eq_comm eq_comm
  | voiceCaptured => exact Bool.false_eq_true.to_iff
  | voiceSpoken => exact Bool.false_eq_true.to_iff

/-- An interruption passes after its own speech, as the last event. -/
theorem validateInterruption {events : List VoiceEvent}
    {seen : VoiceStreamSeen} (quiet : seen.interruption = false) {index : Nat}
    (run : RunId) (turn : TurnId) (spoken : String) (delta : UInt64) :
    (∃ after, validateVoiceEventAt events seen
      (.voiceInterrupted run turn spoken delta) index = .ok after) ↔
    isInterruptedSpeechOf run turn
      (if index = 0 then none else events[index - 1]?) = true ∧
        index + 1 = events.length := by
  unfold validateVoiceEventAt
  dsimp only
  rw [quiet]
  generalize (if index = 0 then none else events[index - 1]?) = previous
  by_cases passed : isInterruptedSpeechOf run turn previous = true ∧
      index + 1 = events.length
  · rw [if_neg (by simp [passed.1, passed.2])]
    exact ⟨fun _ => passed, fun _ => ⟨_, rfl⟩⟩
  · have refused : false = true ∨
        ¬ isInterruptedSpeechOf run turn previous = true ∨
          index + 1 ≠ events.length := by
      tauto
    rw [if_pos refused]
    constructor
    · rintro ⟨after, isOk⟩
      cases isOk
    · intro isPassed
      exact absurd isPassed passed

/-- From an interrupted speech on, only its interruption is left. -/
theorem passes_interrupted {before rest : List VoiceEvent}
    {seen : VoiceStreamSeen} (quiet : seen.interruption = false)
    (run : RunId) (turn : TurnId) (ttfa count sentence : UInt64) :
    StreamPasses (before ++ .voiceSpoken run turn ttfa count (some sentence) :: rest)
      before.length seen
        (.voiceSpoken run turn ttfa count (some sentence) :: rest) ↔
      ∃ interruption, (VoiceEvent.voiceSpoken run turn ttfa count
        (some sentence)).IsInterruption interruption ∧
          rest = [interruption] := by
  have next : (before ++ VoiceEvent.voiceSpoken run turn ttfa count
      (some sentence) :: rest)[before.length + 1]? = rest[0]? := by
    rw [List.getElem?_append_right (Nat.le_add_right _ _),
      Nat.add_sub_cancel_left]
    rfl
  by_cases follows : isInterruptionOf run turn rest[0]? = true
  · have passed : validateVoiceEventAt (before ++ .voiceSpoken run turn ttfa
        count (some sentence) :: rest) seen (.voiceSpoken run turn ttfa count
          (some sentence)) before.length = .ok seen := by
      unfold validateVoiceEventAt
      dsimp only
      rw [quiet, if_neg Bool.false_ne_true, next,
        if_neg fun isMissing => isMissing.2 follows]
    rw [passes_cons_of_ok passed]
    cases rest with
    | nil => cases follows
    | cons event later =>
        have isPair := (isInterruptionOf_iff run turn ttfa count sentence
          event).mp follows
        cases event with
        | voiceCaptured => exact isPair.elim
        | voiceSpoken => exact isPair.elim
        | voiceInterrupted otherRun otherTurn spoken delta =>
            have previous : (before ++ VoiceEvent.voiceSpoken run turn ttfa count
                (some sentence) :: .voiceInterrupted otherRun otherTurn spoken
                  delta :: later)[before.length + 1 - 1]? =
                some (.voiceSpoken run turn ttfa count (some sentence)) := by
              rw [Nat.add_sub_cancel, List.getElem?_append_right (le_refl _),
                Nat.sub_self]
              rfl
            have paired : isInterruptedSpeechOf otherRun otherTurn
                (some (.voiceSpoken run turn ttfa count (some sentence))) =
                  true := by
              show (run == otherRun && turn == otherTurn) = true
              rw [isPair.1, isPair.2, beq_self_eq_true, beq_self_eq_true]
              rfl
            have checked := @validateInterruption (before ++ VoiceEvent.voiceSpoken
              run turn ttfa count (some sentence) :: .voiceInterrupted otherRun
                otherTurn spoken delta :: later) seen quiet (before.length + 1)
                  otherRun otherTurn spoken delta
            rw [if_neg (Nat.succ_ne_zero _), previous, paired] at checked
            have length : before.length + 1 + 1 = (before ++
                VoiceEvent.voiceSpoken run turn ttfa count (some sentence) ::
                  .voiceInterrupted otherRun otherTurn spoken delta ::
                    later).length ↔ later = [] := by
              rw [List.length_append, List.length_cons, List.length_cons,
                ← List.length_eq_zero_iff]
              omega
            rw [length] at checked
            cases later with
            | nil =>
                obtain ⟨after, isOk⟩ := checked.mpr ⟨rfl, rfl⟩
                rw [passes_cons_of_ok isOk]
                exact ⟨fun _ => ⟨_, isPair, rfl⟩, fun _ => passes_nil _ _ _⟩
            | cons extra more =>
                have refused := mt checked.mp fun both => by cases both.2
                constructor
                · intro passes
                  exact absurd passes (not_passes_cons refused _)
                · rintro ⟨interruption, _, isSingle⟩
                  cases isSingle
  · have refused : ¬ ∃ after, validateVoiceEventAt (before ++ .voiceSpoken run
        turn ttfa count (some sentence) :: rest) seen (.voiceSpoken run turn
          ttfa count (some sentence)) before.length = .ok after := by
      unfold validateVoiceEventAt
      dsimp only
      rw [quiet, if_neg Bool.false_ne_true, next, if_pos ⟨rfl, follows⟩]
      rintro ⟨after, isOk⟩
      cases isOk
    constructor
    · intro passes
      exact absurd passes (not_passes_cons refused rest)
    · rintro ⟨interruption, isPair, rfl⟩
      exact absurd ((isInterruptionOf_iff run turn ttfa count sentence
        interruption).mpr isPair) follows

/-- The loop passes the words of the language, where no capture follows and no
speech waits for its interruption. -/
theorem passes_iff (rest : List VoiceEvent) :
    ∀ {before : List VoiceEvent} {seen : VoiceStreamSeen},
      seen.interruption = false →
      (∀ event ∈ rest.head?, event.IsCapture →
        before ≠ [] ∨ seen.capture = true) →
      (∀ run turn, isInterruptedSpeechOf run turn before.getLast? = false) →
      (StreamPasses (before ++ rest) before.length seen rest ↔
        rest ∈ speechLanguage) := by
  induction rest with
  | nil =>
      intro before seen _ _ _
      exact ⟨fun _ => nil_mem_speechLanguage, fun _ => passes_nil _ _ _⟩
  | cons event rest ih =>
      intro before seen quiet noCapture noSpeech
      cases event with
      | voiceCaptured =>
          rw [other_cons_mem id]
          constructor
          · intro passes
            refine absurd passes (not_passes_cons ?_ rest)
            rw [validateCapture _ _ (by trivial), if_pos]
            · rintro ⟨after, isOk⟩
              cases isOk
            · rw [ne_eq, List.length_eq_zero_iff]
              exact (noCapture _ rfl trivial).symm
          · rintro ⟨interruption, isPair, _⟩
            exact isPair.elim
      | voiceInterrupted run turn spoken delta =>
          have previous : (if before.length = 0 then none else (before ++
              VoiceEvent.voiceInterrupted run turn spoken delta ::
                rest)[before.length - 1]?) = before.getLast? := by
            cases before using List.reverseRecOn with
            | nil => rfl
            | append_singleton front last =>
                simp
          have refused := mt (@validateInterruption (before ++
            VoiceEvent.voiceInterrupted run turn spoken delta :: rest) seen
            quiet before.length run turn spoken delta).mp
          rw [previous, noSpeech run turn] at refused
          rw [other_cons_mem id]
          constructor
          · intro passes
            refine absurd passes (not_passes_cons (refused ?_) rest)
            exact fun both => Bool.false_ne_true both.1
          · rintro ⟨interruption, isPair, _⟩
            exact isPair.elim
      | voiceSpoken run turn ttfa count interruptedAt =>
          cases interruptedAt with
          | some sentence =>
              rw [passes_interrupted quiet, other_cons_mem id]
          | none =>
              have passed : validateVoiceEventAt (before ++ .voiceSpoken run turn
                  ttfa count none :: rest) seen (.voiceSpoken run turn ttfa
                    count none) before.length = .ok seen := by
                unfold validateVoiceEventAt
                dsimp only
                rw [quiet, if_neg Bool.false_ne_true,
                  if_neg fun isMissing => Bool.false_ne_true isMissing.1]
              rw [passes_cons_of_ok passed, whole_cons_mem (by trivial)]
              have later := @ih (before ++ [.voiceSpoken run turn ttfa count
                none]) seen quiet ?_ ?_
              · rw [List.append_assoc, List.length_append] at later
                exact later
              · intro event _ _
                exact .inl (by simp)
              · intro otherRun otherTurn
                rw [List.getLast?_concat]
                rfl

/-- The validation accepts exactly the streams of the language: a capture at
most, whole speech, and an interrupted speech with its interruption at most. -/
theorem validateVoiceEventStream_ok_iff (events : List VoiceEvent) :
    validateVoiceEventStream events = .ok () ↔ events ∈ voiceStreamLanguage := by
  have isLoop : validateVoiceEventStream events = .ok () ↔
      StreamPasses events 0 ⟨false, false⟩ events := by
    have unfolded : validateVoiceEventStream events =
        (validateVoiceEventsFrom events 0 ⟨false, false⟩ events >>= fun _ =>
          pure ()) := rfl
    unfold StreamPasses
    rw [unfolded]
    cases validateVoiceEventsFrom events 0 ⟨false, false⟩ events with
    | error error =>
        constructor
        · intro isOk
          cases isOk
        · intro isOk
          cases isOk
    | ok seen => exact ⟨fun _ => rfl, fun _ => rfl⟩
  rw [isLoop, mem_voiceStreamLanguage]
  by_cases starts : ∃ capture rest, capture.IsCapture ∧ events = capture :: rest
  · obtain ⟨capture, rest, isCapture, rfl⟩ := starts
    have passed : validateVoiceEventAt (capture :: rest) ⟨false, false⟩ capture
        0 = .ok ⟨true, false⟩ := by
      rw [validateCapture _ _ isCapture, if_neg (by simp)]
    have notSpeech : capture :: rest ∉ speechLanguage := by
      rw [other_cons_mem isCapture.not_isWholeSpeech]
      rintro ⟨interruption, isPair, _⟩
      exact isCapture.not_isInterruption isPair
    rw [passes_cons_of_ok passed]
    have later := @passes_iff rest [capture] ⟨true, false⟩ rfl
      (fun event _ _ => .inr rfl) ?_
    · refine later.trans ⟨fun isRest => ?_, ?_⟩
      · exact .inr ⟨capture, rest, isCapture, isRest, rfl⟩
      · rintro (isSpeech | ⟨other, others, _, isOthers, isSame⟩)
        · exact absurd isSpeech notSpeech
        · cases isSame
          exact isOthers
    · intro run turn
      cases capture with
      | voiceCaptured => rfl
      | voiceSpoken => exact isCapture.elim
      | voiceInterrupted => exact isCapture.elim
  · have later := @passes_iff events [] ⟨false, false⟩ rfl ?_ fun _ _ => rfl
    · refine later.trans ⟨.inl, ?_⟩
      rintro (isSpeech | ⟨other, others, isCapture, _, isSame⟩)
      · exact isSpeech
      · exact absurd ⟨other, others, isCapture, isSame⟩ starts
    · intro event isHead isCapture
      obtain ⟨rest, isCons⟩ := List.head?_eq_some_iff.mp isHead
      exact absurd ⟨event, rest, isCapture, isCons⟩ starts

/-- A stream of an interrupted turn after a whole one. -/
example (run : RunId) (turn : TurnId) : validateVoiceEventStream
    [.voiceSpoken run turn 1 2 none, .voiceSpoken run turn 1 1 (some 2),
      .voiceInterrupted run turn "" 3] = .ok () := by
  simp [validateVoiceEventStream, validateVoiceEventAt, isInterruptionOf,
    isInterruptedSpeechOf]
  rfl

end PlatoAgent
