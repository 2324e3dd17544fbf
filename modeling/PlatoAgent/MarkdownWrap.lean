import PlatoAgent.CoreEvents

/-!
# Wrapping of messages

The rows that the terminal shows of a message.  `wrap_exact` cuts styled spans
into rows that fit; `wrap_prose` cuts each line at its last whitespace that
fits and leaves the whitespace at the cut out.  The segmentation into
graphemes and their widths are parameters.
-/

namespace PlatoAgent

namespace Markdown

/-- `UnicodeSegmentation::graphemes` and `UnicodeWidthStr::width`. -/
structure TextMeasure where
  graphemes : List Char → List (List Char)
  width : List Char → Nat
  flatten_graphemes : ∀ text, (graphemes text).flatten = text
  ne_nil_of_mem : ∀ text, ∀ grapheme ∈ graphemes text, grapheme ≠ []

structure Span (Style : Type) where
  content : List Char
  style : Style
  deriving DecidableEq, Repr

/-- A grapheme is never empty, so a row without glyphs is a row without
text. -/
structure StyledGlyph (Style : Type) where
  text : List Char
  style : Style
  text_ne_nil : text ≠ []
  deriving DecidableEq, Repr

/-- A row of the terminal is its spans. -/
abbrev Line (Style : Type) := List (Span Style)

section Source

variable {Style : Type} [DecidableEq Style] (measure : TextMeasure)

def styledGlyphs (spans : List (Span Style)) : List (StyledGlyph Style) :=
  spans.flatMap fun span =>
    (measure.graphemes span.content).attach.map fun grapheme =>
      ⟨grapheme.1, span.style, measure.ne_nil_of_mem _ _ grapheme.2⟩

/-- One turn of the loop in `line_from_glyphs`. -/
def pushGlyph (leadLength : Nat) (spans : Line Style)
    (glyph : StyledGlyph Style) : Line Style :=
  match spans.getLast? with
  | some last =>
      if leadLength < spans.length ∧ last.style = glyph.style then
        spans.dropLast ++ [{ last with content := last.content ++ glyph.text }]
      else
        spans ++ [⟨glyph.text, glyph.style⟩]
  | none => spans ++ [⟨glyph.text, glyph.style⟩]

def lineFromGlyphs (lead : Line Style) (glyphs : List (StyledGlyph Style)) :
    Line Style :=
  glyphs.foldl (pushGlyph lead.length) lead

def spansWidth (spans : List (Span Style)) : Nat :=
  (spans.map fun span => measure.width span.content).sum

def glyphWidth (glyph : StyledGlyph Style) : Nat :=
  measure.width glyph.text

def glyphIsWhitespace (glyph : StyledGlyph Style) : Bool :=
  glyph.text.all isWhitespace

/-- The columns that a row has behind its lead. -/
def available (width : Nat) (lead : Line Style) : Nat :=
  max (width - spansWidth measure lead) 1

/-- The loop that counts the glyphs that fit. -/
def fitCount (room used : Nat) : List (StyledGlyph Style) → Nat
  | [] => 0
  | glyph :: rest =>
      let next := glyphWidth measure glyph
      if room < used + next then 0
      else fitCount room (used + next) rest + 1

/-- `Iterator::rposition`. -/
def rposition {Item : Type} (test : Item → Bool) : List Item → Option Nat
  | [] => none
  | item :: rest =>
      match rposition test rest with
      | some index => some (index + 1)
      | none => if test item then some 0 else none

variable (continuation : Line Style) (width : Nat)

/-- The loop of `wrap_exact`. -/
def wrapExactRows (lead : Line Style) (remaining : List (StyledGlyph Style)) :
    List (Line Style) :=
  match remaining with
  | [] => []
  | first :: rest =>
      let take := fitCount measure (available measure width lead) 0
        (first :: rest)
      let take := if take = 0 then 1 else take
      lineFromGlyphs lead ((first :: rest).take take) ::
        wrapExactRows continuation ((first :: rest).drop take)
termination_by remaining.length
decreasing_by
  simp only [List.length_drop, List.length_cons]
  split <;> omega

def wrapExact (spans : List (Span Style)) (lead : Line Style) :
    List (Line Style) :=
  match styledGlyphs measure spans with
  | [] => [lead]
  | first :: rest =>
      wrapExactRows measure continuation width lead (first :: rest)

/-- The loop of `wrap_prose_segment`. -/
def wrapProseRows (lead : Line Style) (remaining : List (StyledGlyph Style)) :
    List (Line Style) :=
  match remaining with
  | [] => []
  | first :: rest =>
      let take := fitCount measure (available measure width lead) 0
        (first :: rest)
      if take = (first :: rest).length then
        [lineFromGlyphs lead (first :: rest)]
      else
        let take := if take = 0 then 1 else take
        match _found : (rposition glyphIsWhitespace
            ((first :: rest).take take)).filter (0 < ·) with
        | some breakAt =>
            let stop := (rposition (!glyphIsWhitespace ·)
              ((first :: rest).take breakAt)).elim 0 (· + 1)
            lineFromGlyphs lead ((first :: rest).take stop) ::
              wrapProseRows continuation
                (((first :: rest).drop breakAt).dropWhile glyphIsWhitespace)
        | none =>
            lineFromGlyphs lead ((first :: rest).take take) ::
              wrapProseRows continuation ((first :: rest).drop take)
termination_by remaining.length
decreasing_by
  · have positive : 0 < breakAt := by
      simpa using (Option.filter_eq_some_iff.mp _found).2
    have shorter := (List.dropWhile_suffix glyphIsWhitespace
      (l := (first :: rest).drop breakAt)).length_le
    rw [List.length_drop, List.length_cons] at shorter
    rw [List.length_cons]
    omega
  · simp only [List.length_drop, List.length_cons]
    split <;> omega

def wrapProseSegment (lead : Line Style)
    (glyphs : List (StyledGlyph Style)) : List (Line Style) :=
  match glyphs with
  | [] => [lead]
  | first :: rest =>
      wrapProseRows measure continuation width lead (first :: rest)

/-- The lines of a message, cut at its newline glyphs. -/
def segments (glyphs : List (StyledGlyph Style)) :
    List (List (StyledGlyph Style)) :=
  glyphs.splitOnP fun glyph => glyph.text == ['\n']

def wrapProse (spans : List (Span Style)) (lead : Line Style) :
    List (Line Style) :=
  match segments (styledGlyphs measure spans) with
  | [] => []
  | first :: rest =>
      wrapProseSegment measure continuation width lead first ++
        rest.flatMap (wrapProseSegment measure continuation width continuation)

end Source

variable {Style : Type} {measure : TextMeasure} {width : Nat}

/-- The characters of spans with their styles. -/
def characters (spans : List (Span Style)) : List (Char × Style) :=
  spans.flatMap fun span => span.content.map (·, span.style)

def StyledGlyph.characters (glyph : StyledGlyph Style) :
    List (Char × Style) :=
  glyph.text.map (·, glyph.style)

/-- A row: its lead, its glyphs, and the glyphs left out behind it. -/
structure Row (Style : Type) where
  lead : Line Style
  body : List (StyledGlyph Style)
  gap : List (StyledGlyph Style)

namespace Row

def line [DecidableEq Style] (row : Row Style) : Line Style :=
  lineFromGlyphs row.lead row.body

def glyphs (row : Row Style) : List (StyledGlyph Style) :=
  row.body ++ row.gap

def bodyWidth (measure : TextMeasure) (row : Row Style) : Nat :=
  (row.body.map (glyphWidth measure)).sum

/-- A row is not wider than its room, unless it is one wide glyph. -/
def Fits (measure : TextMeasure) (width : Nat) (row : Row Style) : Prop :=
  row.bodyWidth measure ≤ available measure width row.lead ∨
    ∃ glyph, row.body = [glyph]

/-- A row of a text that is not empty. -/
structure IsSound (measure : TextMeasure) (width : Nat) (row : Row Style) :
    Prop where
  isWhitespace : ∀ glyph ∈ row.gap, glyphIsWhitespace glyph = true
  gap_ne_nil : row.body = [] → row.gap ≠ []
  fits : row.Fits measure width

end Row

/-- Rows that a piece of text is cut into; an empty piece is one empty row. -/
structure IsCut (measure : TextMeasure) (width : Nat) (rows : List (Row Style))
    (piece : List (StyledGlyph Style)) : Prop where
  rows_ne_nil : rows ≠ []
  glyphs_eq : rows.flatMap Row.glyphs = piece
  isSound : piece ≠ [] → ∀ row ∈ rows, row.IsSound measure width
  length_eq : piece = [] → rows.length = 1

/-- The leads of rows: one of its own for the first. -/
def leads (lead continuation : Line Style) : Nat → List (Line Style)
  | 0 => []
  | count + 1 => lead :: List.replicate count continuation

/-- The bodies of lines, without their leads. -/
def bodies (lead continuation : Line Style) (lines : List (Line Style)) :
    List (Line Style) :=
  List.zipWith (fun lead line => line.drop lead.length)
    (leads lead continuation lines.length) lines

theorem leads_self (lead : Line Style) (count : Nat) :
    leads lead lead count = List.replicate count lead := by
  cases count <;> rfl

theorem leads_append {lead continuation : Line Style} {count : Nat}
    (positive : 0 < count) (more : Nat) :
    leads lead continuation count ++ leads continuation continuation more =
      leads lead continuation (count + more) := by
  obtain ⟨count, rfl⟩ := Nat.exists_eq_succ_of_ne_zero positive.ne'
  rw [leads_self, Nat.succ_add]
  exact congrArg (lead :: ·) List.replicate_append_replicate

theorem characters_append (first second : List (Span Style)) :
    characters (first ++ second) = characters first ++ characters second :=
  List.flatMap_append

theorem characters_styledGlyphs (spans : List (Span Style)) :
    (styledGlyphs measure spans).flatMap StyledGlyph.characters =
      characters spans := by
  induction spans with
  | nil => rfl
  | cons span rest ih =>
      have content := measure.flatten_graphemes span.content
      unfold styledGlyphs characters at ih ⊢
      rw [List.flatMap_cons, List.flatMap_append, ih, List.flatMap_cons]
      congr 1
      calc (List.map _ _).flatMap StyledGlyph.characters
        _ = ((measure.graphemes span.content).attach.map fun grapheme =>
              grapheme.1.map (·, span.style)).flatten := by
            rw [List.flatMap_map, List.flatMap_def]
            rfl
        _ = ((measure.graphemes span.content).map fun grapheme =>
              grapheme.map (·, span.style)).flatten := by
            rw [List.attach_map_val (f := fun grapheme : List Char =>
              grapheme.map fun letter => (letter, span.style))]
        _ = span.content.map (·, span.style) := by
            rw [← List.map_flatten, content]

theorem width_take_fitCount {room used : Nat}
    (glyphs : List (StyledGlyph Style)) (inside : used ≤ room) :
    used + ((glyphs.take (fitCount measure room used glyphs)).map
      (glyphWidth measure)).sum ≤ room := by
  induction glyphs generalizing used with
  | nil => simpa using inside
  | cons glyph rest ih =>
      rw [fitCount]
      split
      next => simpa using inside
      next fits =>
        have := ih (Nat.le_of_not_lt fits)
        rw [List.take_succ_cons, List.map_cons, List.sum_cons]
        omega

/-- What one turn of a loop takes. -/
def turnCount (measure : TextMeasure) (width : Nat) (lead : Line Style)
    (glyphs : List (StyledGlyph Style)) : Nat :=
  let take := fitCount measure (available measure width lead) 0 glyphs
  if take = 0 then 1 else take

theorem turnCount_pos (lead : Line Style) (glyphs : List (StyledGlyph Style)) :
    0 < turnCount measure width lead glyphs := by
  unfold turnCount
  dsimp only
  split <;> omega

theorem fits_turnCount (lead : Line Style)
    (glyphs gap : List (StyledGlyph Style)) :
    Row.Fits measure width
      ⟨lead, glyphs.take (turnCount measure width lead glyphs), gap⟩ := by
  have room := @width_take_fitCount _ measure _ _ glyphs
    (Nat.zero_le (available measure width lead))
  rw [Nat.zero_add] at room
  unfold turnCount
  dsimp only
  split
  next =>
    cases glyphs with
    | nil => exact .inl (Nat.zero_le _)
    | cons glyph rest => exact .inr ⟨glyph, rfl⟩
  next => exact .inl room

theorem rposition_eq_none {Item : Type} {test : Item → Bool}
    {items : List Item} (none : rposition test items = none) :
    ∀ item ∈ items, test item = false := by
  induction items with
  | nil => exact fun _ member => nomatch member
  | cons first rest ih =>
      rw [rposition] at none
      split at none
      next => cases none
      next isNone =>
        split at none
        next => cases none
        next fails =>
          exact List.forall_mem_cons.mpr
            ⟨Bool.eq_false_iff.mpr fails, ih isNone⟩

theorem rposition_eq_some {Item : Type} {test : Item → Bool}
    {items : List Item} {index : Nat}
    (found : rposition test items = some index) :
    index < items.length ∧
      ∀ later ∈ items.drop (index + 1), test later = false := by
  induction items generalizing index with
  | nil => cases found
  | cons first rest ih =>
      rw [rposition] at found
      split at found
      next later isLater =>
        cases found
        obtain ⟨inside, last⟩ := ih isLater
        exact ⟨Nat.succ_lt_succ inside, last⟩
      next isNone =>
        split at found
        next holds =>
          cases found
          exact ⟨Nat.succ_pos _, rposition_eq_none isNone⟩
        next => cases found

/-- What is behind the last glyph that is not whitespace. -/
theorem isWhitespace_drop (glyphs : List (StyledGlyph Style)) :
    ∀ glyph ∈ glyphs.drop ((rposition (!glyphIsWhitespace ·) glyphs).elim 0
      (· + 1)), glyphIsWhitespace glyph = true := by
  intro glyph member
  cases found : rposition (!glyphIsWhitespace ·) glyphs with
  | none =>
      rw [found] at member
      simpa using rposition_eq_none found glyph member
  | some index =>
      rw [found] at member
      simpa using (rposition_eq_some found).2 glyph member

variable {lead : Line Style}

/-- A row that takes what fits. -/
theorem isSound_turn (first : StyledGlyph Style)
    (rest : List (StyledGlyph Style)) :
    Row.IsSound measure width
      ⟨lead, (first :: rest).take (turnCount measure width lead
        (first :: rest)), []⟩ where
  isWhitespace _ member := nomatch member
  gap_ne_nil none := by
    have positive := @turnCount_pos _ measure width lead (first :: rest)
    rw [List.take_eq_nil_iff] at none
    exact absurd none (by simp; omega)
  fits := fits_turnCount lead (first :: rest) []

/-- A row that ends at the last whitespace that fits. -/
theorem isSound_break {first : StyledGlyph Style}
    {rest : List (StyledGlyph Style)} {breakAt : Nat} (positive : 0 < breakAt)
    (found : rposition glyphIsWhitespace ((first :: rest).take (turnCount measure
      width lead (first :: rest))) = some breakAt) :
    let stop := (rposition (!glyphIsWhitespace ·)
      ((first :: rest).take breakAt)).elim 0 (· + 1)
    Row.IsSound measure width ⟨lead, (first :: rest).take stop,
      ((first :: rest).take breakAt).drop stop ++
        ((first :: rest).drop breakAt).takeWhile glyphIsWhitespace⟩ ∧
    (first :: rest).take stop ++ (((first :: rest).take breakAt).drop stop ++
      ((first :: rest).drop breakAt).takeWhile glyphIsWhitespace) ++
        ((first :: rest).drop breakAt).dropWhile glyphIsWhitespace =
          first :: rest := by
  intro stop
  have inside := (rposition_eq_some found).1
  have stop_le : stop ≤ breakAt := by
    have length : ((first :: rest).take breakAt).length ≤ breakAt :=
      List.length_take_le _ _
    cases isLast : rposition (!glyphIsWhitespace ·)
        ((first :: rest).take breakAt) with
    | none =>
        simp only [stop, isLast]
        exact Nat.zero_le _
    | some index =>
        have := (rposition_eq_some isLast).1
        simp only [stop, isLast, Option.elim_some]
        omega
  have early : ((first :: rest).take breakAt).take stop =
      (first :: rest).take stop := by
    rw [List.take_take, min_eq_left stop_le]
  refine ⟨⟨?_, ?_, .inl ?_⟩, ?_⟩
  · intro glyph member
    rcases List.mem_append.mp member with trimmed | skipped
    · exact isWhitespace_drop _ glyph trimmed
    · exact List.mem_takeWhile_imp skipped
  · intro noBody
    have atStart : stop = 0 := by
      simpa using noBody
    rw [atStart, List.drop_zero]
    obtain ⟨before, rfl⟩ := Nat.exists_eq_succ_of_ne_zero positive.ne'
    exact List.cons_ne_nil _ _
  · have count_le : breakAt < turnCount measure width lead (first :: rest) :=
      lt_of_lt_of_le inside (List.length_take_le _ _)
    have room := @width_take_fitCount _ measure _ _ (first :: rest)
      (Nat.zero_le (available measure width lead))
    have isCount : turnCount measure width lead (first :: rest) =
        fitCount measure (available measure width lead) 0 (first :: rest) := by
      unfold turnCount at count_le ⊢
      dsimp only at count_le ⊢
      split at count_le
      · omega
      next some => exact if_neg some
    have shorter : ((first :: rest).take stop).Sublist ((first :: rest).take
        (fitCount measure (available measure width lead) 0 (first :: rest))) :=
      (List.take_prefix_take_left (by omega)).sublist
    have narrower := (shorter.map (glyphWidth measure)).sum_le_sum
      fun _ _ => Nat.zero_le _
    unfold Row.bodyWidth
    dsimp only
    omega
  · rw [← early, ← List.append_assoc, List.take_append_drop,
      List.append_assoc, List.takeWhile_append_dropWhile,
      List.take_append_drop]

section Rows

variable [DecidableEq Style]

theorem exists_pushGlyph (lead body : Line Style) (glyph : StyledGlyph Style) :
    ∃ after, pushGlyph lead.length (lead ++ body) glyph = lead ++ after ∧
      characters after = characters body ++ glyph.characters := by
  unfold pushGlyph
  cases body using List.reverseRecOn with
  | nil =>
      rw [List.append_nil]
      refine ⟨[⟨glyph.text, glyph.style⟩], ?_, by
        simp [characters, StyledGlyph.characters]⟩
      split
      · rw [if_neg (by omega)]
      · rfl
  | append_singleton earlier last _ =>
      rw [← List.append_assoc, List.getLast?_concat]
      dsimp only
      split
      next same =>
        refine ⟨earlier ++ [{ last with content := last.content ++ glyph.text }],
          by rw [List.dropLast_concat, List.append_assoc], ?_⟩
        simp [characters, StyledGlyph.characters, same.2]
      next =>
        refine ⟨earlier ++ [last] ++ [⟨glyph.text, glyph.style⟩],
          by simp only [List.append_assoc], ?_⟩
        rw [characters_append]
        simp [characters, StyledGlyph.characters]

theorem exists_lineFromGlyphs (lead : Line Style)
    (glyphs : List (StyledGlyph Style)) :
    ∃ body, lineFromGlyphs lead glyphs = lead ++ body ∧
      characters body = glyphs.flatMap StyledGlyph.characters := by
  unfold lineFromGlyphs
  induction glyphs using List.reverseRecOn with
  | nil => exact ⟨[], (List.append_nil lead).symm, rfl⟩
  | append_singleton earlier last ih =>
      obtain ⟨body, line, text⟩ := ih
      obtain ⟨after, pushed, more⟩ := exists_pushGlyph lead body last
      refine ⟨after, by rw [List.foldl_concat, line, pushed], ?_⟩
      rw [more, text, List.flatMap_append, List.flatMap_singleton]

/-- A line starts with its lead and goes on with its glyphs, in their
styles. -/
theorem Row.characters_line (row : Row Style) :
    row.line.take row.lead.length = row.lead ∧
      characters (row.line.drop row.lead.length) =
        row.body.flatMap StyledGlyph.characters := by
  obtain ⟨body, line, text⟩ := exists_lineFromGlyphs row.lead row.body
  unfold Row.line
  rw [line, List.take_left, List.drop_left]
  exact ⟨rfl, text⟩

/-- The rows of a loop and the glyphs that they stand for. -/
structure AreRows (measure : TextMeasure) (width : Nat)
    (lead continuation : Line Style) (lines : List (Line Style))
    (rows : List (Row Style)) (glyphs : List (StyledGlyph Style)) : Prop where
  lines_eq : lines = rows.map Row.line
  leads_eq : rows.map Row.lead = leads lead continuation rows.length
  glyphs_eq : rows.flatMap Row.glyphs = glyphs
  isSound : ∀ row ∈ rows, row.IsSound measure width

variable {lines : List (Line Style)} {rows : List (Row Style)}
  {glyphs : List (StyledGlyph Style)}

theorem AreRows.nil :
    AreRows measure width lead continuation [] [] [] :=
  ⟨rfl, rfl, rfl, fun _ member => nomatch member⟩

theorem AreRows.cons {body gap : List (StyledGlyph Style)}
    (later : AreRows measure width continuation continuation lines rows glyphs)
    (isSound : Row.IsSound measure width ⟨lead, body, gap⟩) :
    AreRows measure width lead continuation (lineFromGlyphs lead body :: lines)
      (⟨lead, body, gap⟩ :: rows) (body ++ gap ++ glyphs) where
  lines_eq := by
    rw [later.lines_eq]
    rfl
  leads_eq := by
    rw [List.map_cons, later.leads_eq, leads_self]
    rfl
  glyphs_eq := by
    rw [List.flatMap_cons, later.glyphs_eq]
    rfl
  isSound := List.forall_mem_cons.mpr ⟨isSound, later.isSound⟩

theorem exists_exactRows (lead : Line Style)
    (remaining : List (StyledGlyph Style)) :
    ∃ rows, AreRows measure width lead continuation
        (wrapExactRows measure continuation width lead remaining) rows
        remaining ∧
      ∀ row ∈ rows, row.gap = [] := by
  fun_induction wrapExactRows measure continuation width lead remaining with
  | case1 lead => exact ⟨[], .nil, fun _ member => nomatch member⟩
  | case2 lead first rest take kept ih =>
      obtain ⟨rows, areRows, noGap⟩ := ih
      have own := areRows.cons (@isSound_turn _ measure width lead first rest)
      have isTurn : turnCount measure width lead (first :: rest) = kept := rfl
      rw [List.append_nil, isTurn, List.take_append_drop] at own
      exact ⟨_, own, List.forall_mem_cons.mpr ⟨rfl, noGap⟩⟩

theorem exists_proseRows (lead : Line Style)
    (remaining : List (StyledGlyph Style)) :
    ∃ rows, AreRows measure width lead continuation
      (wrapProseRows measure continuation width lead remaining) rows
      remaining := by
  fun_induction wrapProseRows measure continuation width lead remaining with
  | case1 lead => exact ⟨[], .nil⟩
  | case2 lead first rest take all =>
      have own := (@AreRows.nil _ measure width continuation _
        continuation).cons (@isSound_turn _ measure width lead first rest)
      have every : turnCount measure width lead (first :: rest) =
          (first :: rest).length := by
        unfold turnCount
        rw [show fitCount measure (available measure width lead) 0
          (first :: rest) = _ from all]
        exact if_neg (Nat.succ_ne_zero _)
      rw [every, List.take_length, List.append_nil, List.append_nil] at own
      exact ⟨_, own⟩
  | case3 lead first rest take more kept breakAt found stop ih =>
      obtain ⟨rows, areRows⟩ := ih
      obtain ⟨isLast, positive⟩ := Option.filter_eq_some_iff.mp found
      obtain ⟨isSound, whole⟩ := @isSound_break _ measure width lead first
        rest breakAt (of_decide_eq_true positive) isLast
      have own := areRows.cons isSound
      rw [whole] at own
      exact ⟨_, own⟩
  | case4 lead first rest take more kept found ih =>
      obtain ⟨rows, areRows⟩ := ih
      have own := areRows.cons (@isSound_turn _ measure width lead first rest)
      have isTurn : turnCount measure width lead (first :: rest) = kept := rfl
      rw [List.append_nil, isTurn, List.take_append_drop] at own
      exact ⟨_, own⟩

theorem AreRows.isCut
    (areRows : AreRows measure width lead continuation lines rows glyphs)
    (nonempty : glyphs ≠ []) : IsCut measure width rows glyphs where
  rows_ne_nil none := by
    subst none
    exact nonempty areRows.glyphs_eq.symm
  glyphs_eq := areRows.glyphs_eq
  isSound _ := areRows.isSound
  length_eq none := absurd none nonempty

omit [DecidableEq Style] in
/-- The one row of an empty piece. -/
theorem isCut_empty : IsCut measure width [⟨lead, [], []⟩] [] where
  rows_ne_nil := List.cons_ne_nil _ _
  glyphs_eq := rfl
  isSound none := absurd rfl none
  length_eq _ := rfl

theorem exists_isCut_proseSegment (lead : Line Style)
    (piece : List (StyledGlyph Style)) :
    ∃ rows, wrapProseSegment measure continuation width lead piece =
        rows.map Row.line ∧
      rows.map Row.lead = leads lead continuation rows.length ∧
      IsCut measure width rows piece := by
  cases piece with
  | nil => exact ⟨[⟨lead, [], []⟩], rfl, rfl, isCut_empty⟩
  | cons first rest =>
      obtain ⟨rows, areRows⟩ := @exists_proseRows _ measure width _ continuation
        lead (first :: rest)
      exact ⟨rows, areRows.lines_eq, areRows.leads_eq,
        areRows.isCut (List.cons_ne_nil _ _)⟩

/-- Lines of a text in pieces, with the first lead on the first line. -/
structure Wraps (measure : TextMeasure) (width : Nat)
    (lead continuation : Line Style)
    (pieces : List (List (StyledGlyph Style))) (lines : List (Line Style))
    (groups : List (List (Row Style))) : Prop where
  lines_eq : lines = groups.flatten.map Row.line
  leads_eq : groups.flatten.map Row.lead =
    leads lead continuation groups.flatten.length
  isCut : List.Forall₂ (IsCut measure width) groups pieces

theorem wraps_exact (spans : List (Span Style)) (lead : Line Style) :
    ∃ rows, Wraps measure width lead continuation
        [styledGlyphs measure spans]
        (wrapExact measure continuation width spans lead) [rows] ∧
      ∀ row ∈ rows, row.gap = [] := by
  unfold wrapExact
  cases styledGlyphs measure spans with
  | nil =>
      refine ⟨[⟨lead, [], []⟩], ⟨rfl, rfl, ?_⟩,
        List.forall_mem_singleton.mpr rfl⟩
      exact .cons isCut_empty .nil
  | cons first rest =>
      obtain ⟨rows, areRows, noGap⟩ := @exists_exactRows _ measure width _
        continuation lead (first :: rest)
      refine ⟨rows, ⟨?_, ?_, ?_⟩, noGap⟩
      · rw [List.flatten_singleton]
        exact areRows.lines_eq
      · rw [List.flatten_singleton]
        exact areRows.leads_eq
      · exact .cons (areRows.isCut (List.cons_ne_nil _ _)) .nil

theorem wraps_segments (pieces : List (List (StyledGlyph Style))) :
    ∃ groups, Wraps measure width continuation continuation pieces
      (pieces.flatMap (wrapProseSegment measure continuation width
        continuation)) groups := by
  induction pieces with
  | nil => exact ⟨[], rfl, rfl, .nil⟩
  | cons piece later ih =>
      obtain ⟨groups, wraps⟩ := ih
      obtain ⟨rows, lines, areLeads, isCut⟩ := @exists_isCut_proseSegment _
        measure width _ continuation continuation piece
      refine ⟨rows :: groups, ?_, ?_, .cons isCut wraps.isCut⟩
      · rw [List.flatMap_cons, lines, wraps.lines_eq, List.flatten_cons,
          List.map_append]
      · rw [List.flatten_cons, List.map_append, areLeads, wraps.leads_eq,
          List.length_append]
        exact leads_append (List.length_pos_of_ne_nil isCut.rows_ne_nil) _

theorem wraps_prose (spans : List (Span Style)) (lead : Line Style) :
    ∃ groups, Wraps measure width lead continuation
      (segments (styledGlyphs measure spans))
      (wrapProse measure continuation width spans lead) groups := by
  unfold wrapProse
  cases segments (styledGlyphs measure spans) with
  | nil => exact ⟨[], rfl, rfl, .nil⟩
  | cons piece later =>
      obtain ⟨groups, wraps⟩ := @wraps_segments _ measure width _ continuation
        later
      obtain ⟨rows, lines, areLeads, isCut⟩ := @exists_isCut_proseSegment _
        measure width _ continuation lead piece
      refine ⟨rows :: groups, ?_, ?_, .cons isCut wraps.isCut⟩
      · dsimp only
        rw [lines, wraps.lines_eq, List.flatten_cons, List.map_append]
      · rw [List.flatten_cons, List.map_append, areLeads, wraps.leads_eq,
          List.length_append]
        exact leads_append (List.length_pos_of_ne_nil isCut.rows_ne_nil) _

/-- The characters that are not whitespace. -/
def visibleCharacters (text : List (Char × Style)) : List (Char × Style) :=
  text.filter fun character => !isWhitespace character.1

theorem characters_bodies (rows : List (Row Style))
    (areLeads : rows.map Row.lead = leads lead continuation rows.length) :
    (bodies lead continuation (rows.map Row.line)).flatMap characters =
      (rows.flatMap Row.body).flatMap StyledGlyph.characters := by
  unfold bodies
  rw [List.length_map, ← areLeads, List.zipWith_map, List.zipWith_self]
  rw [List.flatMap_map, List.flatMap_assoc]
  exact List.flatMap_congr fun row _ => row.characters_line.2

omit [DecidableEq Style] in
theorem visibleCharacters_append (first second : List (Char × Style)) :
    visibleCharacters (first ++ second) =
      visibleCharacters first ++ visibleCharacters second :=
  List.filter_append first second

omit [DecidableEq Style] in
theorem visibleCharacters_whitespace {gap : List (StyledGlyph Style)}
    (isBlank : ∀ glyph ∈ gap, glyphIsWhitespace glyph = true) :
    visibleCharacters (gap.flatMap StyledGlyph.characters) = [] := by
  apply List.filter_eq_nil_iff.mpr
  intro character member
  obtain ⟨glyph, isGlyph, isPart⟩ := List.mem_flatMap.mp member
  obtain ⟨letter, isLetter, rfl⟩ := List.mem_map.mp isPart
  have blank := List.all_eq_true.mp (isBlank glyph isGlyph) letter isLetter
  simp [blank]

omit [DecidableEq Style] in
/-- The whitespace between the bodies is all that they leave out. -/
theorem IsCut.visibleCharacters_body {piece : List (StyledGlyph Style)}
    (isCut : IsCut measure width rows piece) :
    visibleCharacters ((rows.flatMap Row.body).flatMap
      StyledGlyph.characters) =
        visibleCharacters (piece.flatMap StyledGlyph.characters) := by
  have isBlank : ∀ row ∈ rows, ∀ glyph ∈ row.gap,
      glyphIsWhitespace glyph = true := by
    intro row member glyph isGlyph
    by_cases none : piece = []
    · have noGlyphs := List.flatMap_eq_nil_iff.mp
        (isCut.glyphs_eq.trans none) row member
      rw [(List.append_eq_nil_iff.mp noGlyphs).2] at isGlyph
      cases isGlyph
    · exact (isCut.isSound none row member).isWhitespace glyph isGlyph
  rw [← isCut.glyphs_eq]
  clear isCut
  induction rows with
  | nil => rfl
  | cons row rest ih =>
      obtain ⟨own, others⟩ := List.forall_mem_cons.mp isBlank
      rw [List.flatMap_cons, List.flatMap_append, visibleCharacters_append,
        ih others, List.flatMap_cons, List.flatMap_append,
        visibleCharacters_append, Row.glyphs, List.flatMap_append,
        visibleCharacters_append, visibleCharacters_whitespace own,
        List.append_nil]

omit [DecidableEq Style] in
/-- The cuts between the pieces leave newlines out. -/
theorem visibleCharacters_segments (glyphs : List (StyledGlyph Style)) :
    visibleCharacters ((segments glyphs).flatten.flatMap
      StyledGlyph.characters) =
        visibleCharacters (glyphs.flatMap StyledGlyph.characters) := by
  induction glyphs with
  | nil => rfl
  | cons glyph rest ih =>
      unfold segments at ih ⊢
      rw [List.splitOnP_cons_eq_if_modifyHead]
      split
      next isNewline =>
        have isBlank : glyphIsWhitespace glyph = true := by
          unfold glyphIsWhitespace
          rw [eq_of_beq isNewline]
          decide
        have noText := visibleCharacters_whitespace
          (List.forall_mem_singleton.mpr isBlank)
        rw [List.flatMap_singleton] at noText
        rw [List.flatten_cons, List.nil_append, ih, List.flatMap_cons,
          visibleCharacters_append, noText, List.nil_append]
      next =>
        obtain ⟨piece, later, pieces⟩ := List.exists_cons_of_ne_nil
          (List.splitOnP_ne_nil (fun glyph : StyledGlyph Style =>
            glyph.text == ['\n']) rest)
        rw [pieces] at ih ⊢
        rw [List.modifyHead_cons, List.flatten_cons, List.cons_append,
          List.flatMap_cons, List.flatMap_cons, visibleCharacters_append,
          visibleCharacters_append, ← ih, List.flatten_cons]

theorem Wraps.visibleCharacters_bodies
    {pieces : List (List (StyledGlyph Style))}
    {groups : List (List (Row Style))}
    (wraps : Wraps measure width lead continuation pieces lines groups) :
    visibleCharacters ((bodies lead continuation lines).flatMap characters) =
      visibleCharacters (pieces.flatten.flatMap StyledGlyph.characters) := by
  rw [wraps.lines_eq, characters_bodies _ wraps.leads_eq]
  have cuts := wraps.isCut
  clear wraps
  induction cuts with
  | nil => rfl
  | cons isCut _ ih =>
      rw [List.flatten_cons, List.flatMap_append, List.flatMap_append,
        visibleCharacters_append, ih, isCut.visibleCharacters_body,
        List.flatten_cons, List.flatMap_append, visibleCharacters_append]

end Rows

/-- Both ways to wrap, for every width and all leads.  Every line is its lead
and a row that is not too wide; a row of text that is not empty is empty only
where whitespace is left out; the bodies of `wrap_exact` are the text, and
those of `wrap_prose` the text but for whitespace at the cuts. -/
theorem wrap_spec {Style : Type} [DecidableEq Style] (measure : TextMeasure)
    (width : Nat) (lead continuation : Line Style) (spans : List (Span Style)) :
    (∃ rows, Wraps measure width lead continuation
        [styledGlyphs measure spans]
        (wrapExact measure continuation width spans lead) [rows] ∧
      ∀ row ∈ rows, row.gap = []) ∧
    (bodies lead continuation (wrapExact measure continuation width spans
      lead)).flatMap characters = characters spans ∧
    (∃ groups, Wraps measure width lead continuation
      (segments (styledGlyphs measure spans))
      (wrapProse measure continuation width spans lead) groups) ∧
    visibleCharacters ((bodies lead continuation (wrapProse measure
      continuation width spans lead)).flatMap characters) =
        visibleCharacters (characters spans) := by
  obtain ⟨rows, exact, noGap⟩ := @wraps_exact _ measure width _ continuation
    spans lead
  obtain ⟨groups, prose⟩ := @wraps_prose _ measure width _ continuation spans
    lead
  refine ⟨⟨rows, exact, noGap⟩, ?_, ⟨groups, prose⟩, ?_⟩
  · have areGlyphs : rows.flatMap Row.body = styledGlyphs measure spans := by
      have isCut := (List.forall₂_cons.mp exact.isCut).1
      rw [← isCut.glyphs_eq]
      apply List.flatMap_congr
      intro row member
      rw [Row.glyphs, noGap row member, List.append_nil]
    rw [exact.lines_eq, characters_bodies _ exact.leads_eq,
      List.flatten_singleton, areGlyphs, characters_styledGlyphs]
  · rw [prose.visibleCharacters_bodies, visibleCharacters_segments,
      characters_styledGlyphs]

/-- A grapheme for each character; characters from U+2E80 on are two columns
wide. -/
def characterMeasure : TextMeasure where
  graphemes text := text.map fun character => [character]
  width text :=
    (text.map fun character => if 0x2E80 ≤ character.toNat then 2 else 1).sum
  flatten_graphemes text := by
    induction text with
    | nil => rfl
    | cons character rest ih => rw [List.map_cons, List.flatten_cons, ih]; rfl
  ne_nil_of_mem text grapheme member := by
    obtain ⟨character, _, rfl⟩ := List.mem_map.mp member
    exact List.cons_ne_nil _ _

def sampleSpans : List (Span Bool) :=
  [⟨['g', 'o', ' ', '漢'], false⟩, ⟨['字', ' ', ' ', 'n', 'o', 'w'], true⟩]

/-- Behind a lead of two columns, prose of two styles breaks at its whitespace and
keeps all other characters. -/
theorem wrap_spec_sample :
    wrapProse characterMeasure [⟨[' ', ' '], false⟩] 8 sampleSpans
        [⟨['-', ' '], false⟩] =
      [[⟨['-', ' '], false⟩, ⟨['g', 'o'], false⟩],
        [⟨[' ', ' '], false⟩, ⟨['漢'], false⟩, ⟨['字'], true⟩],
        [⟨[' ', ' '], false⟩, ⟨['n', 'o', 'w'], true⟩]] ∧
    (∃ groups, Wraps characterMeasure 8 [⟨['-', ' '], false⟩]
      [⟨[' ', ' '], false⟩] (segments (styledGlyphs characterMeasure sampleSpans))
      (wrapProse characterMeasure [⟨[' ', ' '], false⟩] 8 sampleSpans
        [⟨['-', ' '], false⟩]) groups) ∧
    visibleCharacters ((bodies [⟨['-', ' '], false⟩] [⟨[' ', ' '], false⟩]
      (wrapProse characterMeasure [⟨[' ', ' '], false⟩] 8 sampleSpans
        [⟨['-', ' '], false⟩])).flatMap characters) =
      visibleCharacters (characters sampleSpans) := by
  obtain ⟨-, -, prose, visible⟩ := wrap_spec characterMeasure 8
    [⟨['-', ' '], false⟩] [⟨[' ', ' '], false⟩] sampleSpans
  exact ⟨by decide +kernel, prose, visible⟩

end Markdown

end PlatoAgent
