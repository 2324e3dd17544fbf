import PlatoAgent.ProviderStream

/-!
# Cutting streamed text into sentences

The cutter keeps the text that it has not cut yet and looks for boundaries from
its start whenever a fragment comes.  Whether a boundary is there, and whether
the text before it is long enough, depends on earlier text alone, so it cuts as
if the text came one character at a time.
-/

namespace PlatoAgent

def minSentenceChars : Nat :=
  20

inductive SentenceError where
  | empty
  deriving DecidableEq, Repr

/-- Nonempty, trimmed text. -/
structure Sentence where
  text : String
  notEmpty : text ≠ ""
  isTrimmed : trimmed text = text
  deriving DecidableEq

/-- The characters that are not white space. -/
def visible (text : List Char) : List Char :=
  text.filter fun character => !isWhitespace character

@[simp]
theorem visible_append (text later : List Char) :
    visible (text ++ later) = visible text ++ visible later :=
  List.filter_append ..

theorem visible_eq_nil {text : List Char}
    (blank : ∀ character ∈ text, isWhitespace character = true) :
    visible text = [] := by
  unfold visible
  rw [List.filter_eq_nil_iff]
  intro character member
  simp [blank character member]

theorem visible_dropWhile (text : List Char) :
    visible (text.dropWhile isWhitespace) = visible text := by
  have front : visible (text.takeWhile isWhitespace) = [] :=
    visible_eq_nil fun _ member => List.mem_takeWhile_imp member
  have split := congrArg visible (List.takeWhile_append_dropWhile
    (p := isWhitespace) (l := text))
  rw [visible_append, front, List.nil_append] at split
  exact split

theorem visible_rdropWhile (text : List Char) :
    visible (text.rdropWhile isWhitespace) = visible text := by
  have reversed := visible_dropWhile text.reverse
  unfold visible at reversed ⊢
  unfold List.rdropWhile
  rw [List.filter_reverse, reversed, List.filter_reverse, List.reverse_reverse]

@[simp]
theorem visible_trimmed (text : String) :
    visible (trimmed text).toList = visible text.toList := by
  unfold trimmed
  rw [String.toList_ofList, visible_rdropWhile, visible_dropWhile]

theorem trimmed_trimmed (text : String) :
    trimmed (trimmed text) = trimmed text := by
  -- The first character that is left is the first one that is not white space.
  have front : ((text.toList.dropWhile isWhitespace).rdropWhile
      isWhitespace).dropWhile isWhitespace =
        (text.toList.dropWhile isWhitespace).rdropWhile isWhitespace := by
    rw [List.dropWhile_eq_self_iff]
    intro notEmpty
    obtain ⟨ending, whole⟩ := List.rdropWhile_prefix isWhitespace
      (l := text.toList.dropWhile isWhitespace)
    have first := congrArg List.head? whole
    rw [List.head?_append_of_ne_nil _ (List.length_pos_iff.mp notEmpty),
      List.head?_eq_getElem?, List.getElem?_eq_getElem notEmpty] at first
    have isVisible := List.head?_dropWhile_not isWhitespace text.toList
    rw [← first] at isVisible
    simpa using isVisible
  unfold trimmed
  rw [String.toList_ofList, front, List.rdropWhile_idempotent]

/-- `Sentence::new`. -/
def Sentence.new (text : String) : Except SentenceError Sentence :=
  if notEmpty : trimmed text = "" then .error .empty
  else .ok ⟨trimmed text, notEmpty, trimmed_trimmed text⟩

theorem Sentence.text_of_new {text : String} {sentence : Sentence}
    (made : Sentence.new text = .ok sentence) :
    sentence.text = trimmed text := by
  unfold Sentence.new at made
  split at made
  · cases made
  · cases made
    rfl

/-- No visible text is refused. -/
theorem Sentence.visible_new (text : String) :
    (Sentence.new text).toOption.toList.flatMap
        (fun sentence => visible sentence.text.toList) =
      visible text.toList := by
  cases made : Sentence.new text with
  | error failure =>
      have isEmpty : trimmed text = "" := by
        unfold Sentence.new at made
        split at made
        next isEmpty => exact isEmpty
        next => cases made
      rw [← visible_trimmed, isEmpty]
      rfl
  | ok sentence =>
      change visible sentence.text.toList ++ [] = _
      rw [List.append_nil, text_of_new made, visible_trimmed]

structure SentenceCutter where
  buffer : List Char
  deriving DecidableEq, Repr

namespace SentenceCutter

def new : SentenceCutter :=
  ⟨[]⟩

def isTerminator (character : Char) : Bool :=
  character == '.' || character == '!' || character == '?'

/-- Whether a sentence may end with a character; the characters before it are
given with the nearest one first. -/
def isBoundary (before : List Char) (current : Char) : Bool :=
  isWhitespace current && before.head?.any isTerminator ||
    current == '\n' &&
      (['\n'].isPrefixOf before || ['\r', '\n'].isPrefixOf before)

/-- The loop of `next_boundary`, before the character at an offset. -/
def scanBoundary (searchFrom : Nat) (before : List Char) :
    List Char → Option Nat
  | [] => none
  | current :: rest =>
      if before.length < searchFrom then
        scanBoundary searchFrom (current :: before) rest
      else if isBoundary before current then some (before.length + 1)
      else scanBoundary searchFrom (current :: before) rest

/-- The end of the first boundary that is not before `searchFrom`. -/
def nextBoundary (text : List Char) (searchFrom : Nat) : Option Nat :=
  scanBoundary searchFrom [] text

theorem lt_of_scanBoundary {searchFrom boundaryEnd : Nat}
    {before text : List Char}
    (found : scanBoundary searchFrom before text = some boundaryEnd) :
    searchFrom < boundaryEnd ∧ before.length < boundaryEnd ∧
      boundaryEnd ≤ before.length + text.length := by
  induction text generalizing before with
  | nil => cases found
  | cons current rest ih =>
      have later (found : scanBoundary searchFrom (current :: before) rest =
          some boundaryEnd) :
          searchFrom < boundaryEnd ∧ before.length < boundaryEnd ∧
            boundaryEnd ≤ before.length + (current :: rest).length := by
        obtain ⟨first, second, third⟩ := ih found
        rw [List.length_cons] at second third ⊢
        exact ⟨first, by omega, by omega⟩
      unfold scanBoundary at found
      split at found
      · exact later found
      · split at found
        · cases found
          rw [List.length_cons]
          exact ⟨by omega, by omega, by omega⟩
        · exact later found

theorem lt_of_nextBoundary {text : List Char} {searchFrom boundaryEnd : Nat}
    (found : nextBoundary text searchFrom = some boundaryEnd) :
    searchFrom < boundaryEnd ∧ 0 < boundaryEnd ∧ boundaryEnd ≤ text.length := by
  have bounds := lt_of_scanBoundary found
  rwa [List.length_nil, Nat.zero_add] at bounds

/-- The text before a boundary is long enough. -/
def isLong (head : List Char) : Bool :=
  minSentenceChars ≤ (trimmed (String.ofList head)).length

def sentenceOf (head : List Char) : List Sentence :=
  (Sentence.new (String.ofList head)).toOption.toList

/-- The loop of `cut_ready`: the sentences and what is left of the buffer. -/
def cutReady (buffer : List Char) (searchFrom : Nat) :
    List Sentence × List Char :=
  match _found : nextBoundary buffer searchFrom with
  | none => ([], buffer)
  | some boundaryEnd =>
      if isLong (buffer.take boundaryEnd) then
        let later := cutReady (buffer.drop boundaryEnd) 0
        (sentenceOf (buffer.take boundaryEnd) ++ later.1, later.2)
      else cutReady buffer boundaryEnd
termination_by (buffer.length, buffer.length - searchFrom)
decreasing_by
  · have bounds := lt_of_nextBoundary _found
    rw [List.length_drop]
    exact Prod.Lex.left _ _ (by omega)
  · have bounds := lt_of_nextBoundary _found
    exact Prod.Lex.right _ (by omega)

def push (cutter : SentenceCutter) (fragment : String) :
    List Sentence × SentenceCutter :=
  let cut := cutReady (cutter.buffer ++ fragment.toList) 0
  (cut.1, ⟨cut.2⟩)

def finish (cutter : SentenceCutter) : Option Sentence × SentenceCutter :=
  ((Sentence.new (String.ofList cutter.buffer)).toOption, ⟨[]⟩)

/-- The sentences of pushing fragments one after the other. -/
def pushAll (cutter : SentenceCutter) :
    List String → List Sentence × SentenceCutter
  | [] => ([], cutter)
  | fragment :: rest =>
      let pushed := cutter.push fragment
      let later := pushed.2.pushAll rest
      (pushed.1 ++ later.1, later.2)

/-- All sentences of a text that comes in fragments. -/
def collect (fragments : List String) : List Sentence :=
  let pushed := new.pushAll fragments
  pushed.1 ++ pushed.2.finish.1.toList

/-- The sentences of a text that follows a text that is still buffered, and what
is buffered then. -/
def cutFrom (before : List Char) : List Char → List Sentence × List Char
  | [] => ([], before)
  | current :: rest =>
      if isBoundary before.reverse current && isLong (before ++ [current]) then
        let later := cutFrom [] rest
        (sentenceOf (before ++ [current]) ++ later.1, later.2)
      else cutFrom (before ++ [current]) rest

theorem scanBoundary_append {searchFrom : Nat} {before text : List Char}
    (none : scanBoundary searchFrom before text = none) (more : List Char) :
    scanBoundary searchFrom before (text ++ more) =
      scanBoundary searchFrom (text.reverse ++ before) more := by
  induction text generalizing before with
  | nil => rfl
  | cons current rest ih =>
      rw [List.reverse_cons, List.append_assoc, List.singleton_append,
        List.cons_append, scanBoundary]
      rw [scanBoundary] at none
      split at none
      next early =>
        rw [if_pos early]
        exact ih none
      next late =>
        rw [if_neg late]
        split at none
        · cases none
        next isInside =>
          rw [if_neg isInside]
          exact ih none

theorem scanBoundary_none_of_le {searchFrom : Nat} {before text : List Char}
    (short : before.length + text.length ≤ searchFrom) :
    scanBoundary searchFrom before text = none := by
  cases found : scanBoundary searchFrom before text with
  | none => rfl
  | some boundaryEnd =>
      have bounds := lt_of_scanBoundary found
      omega

theorem cutReady_of_none {buffer : List Char} {searchFrom : Nat}
    (none : nextBoundary buffer searchFrom = none) :
    cutReady buffer searchFrom = ([], buffer) := by
  unfold cutReady
  split
  · rfl
  next found =>
    cases none.symm.trans found

theorem cutReady_of_some {buffer : List Char} {searchFrom boundaryEnd : Nat}
    (found : nextBoundary buffer searchFrom = some boundaryEnd) :
    cutReady buffer searchFrom =
      if isLong (buffer.take boundaryEnd) then
        (sentenceOf (buffer.take boundaryEnd) ++
            (cutReady (buffer.drop boundaryEnd) 0).1,
          (cutReady (buffer.drop boundaryEnd) 0).2)
      else cutReady buffer boundaryEnd := by
  rw [cutReady]
  split
  next none =>
    cases none.symm.trans found
  next other isFound =>
    obtain rfl : boundaryEnd = other :=
      Option.some.inj (found.symm.trans isFound)
    rfl

/-- The search over the buffer cuts as the text comes. -/
theorem cutReady_eq_cutFrom {before : List Char} {searchFrom : Nat}
    (searched : searchFrom ≤ before.length)
    (none : nextBoundary before searchFrom = none) (rest : List Char) :
    cutReady (before ++ rest) searchFrom = cutFrom before rest := by
  induction rest generalizing before searchFrom with
  | nil =>
      rw [List.append_nil]
      exact cutReady_of_none none
  | cons current rest ih =>
      have whole : before ++ current :: rest =
          (before ++ [current]) ++ rest := by
        rw [List.append_assoc, List.singleton_append]
      have step (text : List Char) :
          nextBoundary (before ++ current :: text) searchFrom =
            if isBoundary before.reverse current then some (before.length + 1)
            else scanBoundary searchFrom (current :: before.reverse) text := by
        unfold nextBoundary
        rw [scanBoundary_append none, List.append_nil, scanBoundary,
          List.length_reverse, if_neg (Nat.not_lt.mpr searched)]
      have length : (before ++ [current]).length = before.length + 1 := by
        simp
      rw [cutFrom]
      cases isEnd : isBoundary before.reverse current with
      | false =>
          rw [Bool.false_and, if_neg Bool.false_ne_true, whole]
          refine ih (by omega) ?_
          rw [step, isEnd, if_neg Bool.false_ne_true]
          rfl
      | true =>
          have found := step rest
          rw [isEnd, if_pos rfl] at found
          rw [cutReady_of_some found, Bool.true_and, whole,
            List.take_left' length, List.drop_left' length]
          split
          · have again := @ih [] 0 (Nat.zero_le _) rfl
            rw [List.nil_append] at again
            rw [again]
          · refine ih length.ge ?_
            refine scanBoundary_none_of_le ?_
            rw [length, List.length_nil, Nat.zero_add]

theorem cutReady_eq (text : List Char) : cutReady text 0 = cutFrom [] text :=
  @cutReady_eq_cutFrom [] 0 (Nat.zero_le 0) rfl text

theorem cutFrom_append (before text more : List Char) :
    cutFrom before (text ++ more) =
      ((cutFrom before text).1 ++ (cutFrom (cutFrom before text).2 more).1,
        (cutFrom (cutFrom before text).2 more).2) := by
  induction text generalizing before with
  | nil => rfl
  | cons current rest ih =>
      rw [List.cons_append, cutFrom, cutFrom]
      split
      · dsimp only
        rw [ih, List.append_assoc]
      · exact ih _

/-- What is left is not cut again. -/
theorem cutFrom_rest {before : List Char}
    (settled : cutFrom [] before = ([], before)) (text : List Char) :
    cutFrom [] (cutFrom before text).2 = ([], (cutFrom before text).2) := by
  induction text generalizing before with
  | nil => exact settled
  | cons current rest ih =>
      rw [cutFrom]
      split
      · dsimp only
        exact ih rfl
      next goesOn =>
        refine ih ?_
        rw [cutFrom_append, settled, cutFrom, if_neg goesOn]
        rfl

theorem visible_sentenceOf (head : List Char) :
    (sentenceOf head).flatMap (fun sentence => visible sentence.text.toList) =
      visible head := by
  have made := Sentence.visible_new (String.ofList head)
  rw [String.toList_ofList] at made
  exact made

/-- No visible character is lost. -/
theorem visible_cutFrom (before text : List Char) :
    (cutFrom before text).1.flatMap
        (fun sentence => visible sentence.text.toList) ++
      visible (cutFrom before text).2 = visible before ++ visible text := by
  induction text generalizing before with
  | nil => exact (List.append_nil _).symm
  | cons current rest ih =>
      have whole : visible before ++ visible (current :: rest) =
          visible (before ++ [current]) ++ visible rest := by
        rw [visible_append before, List.append_assoc, ← visible_append [current],
          List.singleton_append]
      rw [cutFrom, whole]
      split
      · dsimp only
        rw [List.flatMap_append, visible_sentenceOf, List.append_assoc, ih]
        rfl
      · exact ih _

theorem long_of_mem_sentenceOf {head : List Char} {sentence : Sentence}
    (isHeadLong : isLong head = true) (member : sentence ∈ sentenceOf head) :
    minSentenceChars ≤ sentence.text.length := by
  unfold sentenceOf at member
  cases made : Sentence.new (String.ofList head) with
  | error failure =>
      rw [made] at member
      cases member
  | ok other =>
      rw [made] at member
      obtain rfl : sentence = other := List.mem_singleton.mp member
      rw [Sentence.text_of_new made]
      exact of_decide_eq_true isHeadLong

theorem long_of_mem_cutFrom {before text : List Char} {sentence : Sentence}
    (member : sentence ∈ (cutFrom before text).1) :
    minSentenceChars ≤ sentence.text.length := by
  induction text generalizing before with
  | nil => cases member
  | cons current rest ih =>
      rw [cutFrom] at member
      split at member
      next isEnd =>
        rcases List.mem_append.mp member with first | later
        · exact long_of_mem_sentenceOf (Bool.and_eq_true_iff.mp isEnd).2 first
        · exact ih later
      next => exact ih member

/-- The text of a cutter was searched before. -/
def Settled (cutter : SentenceCutter) : Prop :=
  cutFrom [] cutter.buffer = ([], cutter.buffer)

theorem Settled.push_eq {cutter : SentenceCutter} (settled : cutter.Settled)
    (fragment : String) :
    cutter.push fragment =
      ((cutFrom cutter.buffer fragment.toList).1,
        ⟨(cutFrom cutter.buffer fragment.toList).2⟩) := by
  unfold push
  rw [cutReady_eq, cutFrom_append, settled]
  rfl

theorem Settled.push {cutter : SentenceCutter} (settled : cutter.Settled)
    (fragment : String) : (cutter.push fragment).2.Settled := by
  rw [settled.push_eq]
  exact cutFrom_rest settled _

/-- Pushing fragments cuts as pushing their text. -/
theorem Settled.pushAll_eq {cutter : SentenceCutter} (settled : cutter.Settled)
    (fragments : List String) :
    cutter.pushAll fragments = cutter.push (String.join fragments) := by
  induction fragments generalizing cutter with
  | nil => exact (settled.push_eq "").symm
  | cons fragment rest ih =>
      have joined : (String.join (fragment :: rest)).toList =
          fragment.toList ++ (String.join rest).toList := by
        simp
      rw [pushAll, ih (settled.push fragment)]
      rw [(settled.push fragment).push_eq, settled.push_eq, settled.push_eq,
        joined, cutFrom_append]

theorem toList_finish (cutter : SentenceCutter) :
    cutter.finish.1.toList = sentenceOf cutter.buffer := by
  rw [finish, sentenceOf]

theorem settled_new : new.Settled :=
  rfl

theorem finish_empty : (finish ⟨[]⟩).1 = none := by
  have trims : trimmed (String.ofList []) = "" := by decide
  unfold finish
  dsimp only
  rw [Sentence.new, dif_pos trims]
  rfl

/-- The sentences of a text do not depend on its fragments and have all of its
visible characters; the sentences of a push are long enough, and a finished
cutter has none left. -/
theorem collect_fragments (fragments : List String) :
    collect fragments = collect [String.join fragments] ∧
      (collect fragments).flatMap
          (fun sentence => visible sentence.text.toList) =
        visible (String.join fragments).toList ∧
      (∀ sentence ∈ (new.pushAll fragments).1,
        minSentenceChars ≤ sentence.text.length) ∧
      (new.pushAll fragments).2.finish.2.finish.1 = none := by
  have pushed := settled_new.pushAll_eq fragments
  have once := settled_new.pushAll_eq [String.join fragments]
  have whole : String.join [String.join fragments] = String.join fragments := by
    simp [String.join]
  rw [whole] at once
  have cut := settled_new.push_eq (String.join fragments)
  refine ⟨?_, ?_, ?_, finish_empty⟩
  · unfold collect
    rw [pushed, once]
  · unfold collect
    dsimp only
    rw [toList_finish, List.flatMap_append, visible_sentenceOf, pushed, cut]
    exact visible_cutFrom [] _
  · intro sentence member
    rw [pushed, cut] at member
    exact long_of_mem_cutFrom member

end SentenceCutter

end PlatoAgent
