import Mathlib
import PlatoAgent.CoreEvents

/-!
# JSON text

The text of a JSON value as `serde_json` writes it, without spaces and with the
short escapes, and a reader that takes the value back from the front of a text.
Floating-point numbers are the exception: they are written by their bit pattern
after a `#`, since their shortest decimal form is outside this development.
-/

namespace PlatoAgent

namespace JsonText

/-- Take a result from the front of a text. -/
abbrev Reader (Result : Type) := List Char → Option (Result × List Char)

/-- The text does not go on with a digit. -/
def Stops (text : List Char) : Prop :=
  ∀ first ∈ text.head?, first.isDigit = false

/-- The reader takes this text back as the value. -/
def Reads {Result : Type} (reader : Reader Result) (text : List Char)
    (value : Result) : Prop :=
  ∀ rest, Stops rest → reader (text ++ rest) = some (value, rest)

theorem stops_nil : Stops [] := by
  simp [Stops]

theorem stops_cons {first : Char} (mark : first.isDigit = false)
    (rest : List Char) : Stops (first :: rest) := by
  simpa [Stops] using mark

/-- The escape of a control character, quote or backslash. -/
def escapeChar (character : Char) : List Char :=
  if character = '"' then ['\\', '"']
  else if character = '\\' then ['\\', '\\']
  else if character = .ofNat 8 then ['\\', 'b']
  else if character = .ofNat 9 then ['\\', 't']
  else if character = .ofNat 10 then ['\\', 'n']
  else if character = .ofNat 12 then ['\\', 'f']
  else if character = .ofNat 13 then ['\\', 'r']
  else if character.toNat < 32 then
    ['\\', 'u', '0', '0', (character.toNat / 16).digitChar,
      (character.toNat % 16).digitChar]
  else [character]

/-- The characters of the short escapes. -/
def unescape (mark : Char) : Option Char :=
  if mark = '"' then some '"'
  else if mark = '\\' then some '\\'
  else if mark = 'b' then some (.ofNat 8)
  else if mark = 't' then some (.ofNat 9)
  else if mark = 'n' then some (.ofNat 10)
  else if mark = 'f' then some (.ofNat 12)
  else if mark = 'r' then some (.ofNat 13)
  else if mark = '/' then some '/'
  else none

def hexValue (digit : Char) : Nat :=
  if digit.isDigit then digit.toNat - 48 else digit.toNat - 87

/-- The characters up to the closing quote. -/
def readString : Reader (List Char)
  | [] => none
  | '"' :: rest => some ([], rest)
  | '\\' :: 'u' :: '0' :: '0' :: high :: low :: rest => do
      let (characters, rest) ← readString rest
      some (.ofNat (16 * hexValue high + hexValue low) :: characters, rest)
  | '\\' :: mark :: rest => do
      let character ← unescape mark
      let (characters, rest) ← readString rest
      some (character :: characters, rest)
  | character :: rest => do
      let (characters, rest) ← readString rest
      some (character :: characters, rest)

theorem hexValue_digits {code : Nat} (small : code < 32) :
    16 * hexValue (code / 16).digitChar + hexValue (code % 16).digitChar =
      code := by
  interval_cases code <;> decide

/-- An escaped character is read as itself. -/
theorem readString_escape (character : Char) (rest : List Char) :
    readString (escapeChar character ++ rest) = (do
      let (characters, rest) ← readString rest
      some (character :: characters, rest)) := by
  unfold escapeChar
  split_ifs with quote backslash backspace tab newline feed carriage control
  · rw [quote]
    rfl
  · rw [backslash]
    rfl
  · rw [backspace]
    rfl
  · rw [tab]
    rfl
  · rw [newline]
    rfl
  · rw [feed]
    rfl
  · rw [carriage]
    rfl
  · have code := hexValue_digits control
    simp only [List.cons_append, List.nil_append, readString, code,
      Char.ofNat_toNat]
  · rw [List.singleton_append, readString]
    · exact quote
    · intro _ _ _ same
      exact absurd same backslash
    · intro _ _ same
      exact absurd same backslash

theorem reads_string (characters rest : List Char) :
    readString (characters.flatMap escapeChar ++ '"' :: rest) =
      some (characters, rest) := by
  induction characters with
  | nil => rfl
  | cons character others ih =>
      rw [List.flatMap_cons, List.append_assoc, readString_escape, ih]
      rfl

/-- Escaping leaves no control character. -/
theorem escapeChar_printable {character escaped : Char}
    (member : escaped ∈ escapeChar character) : 32 ≤ escaped.toNat := by
  unfold escapeChar at member
  split_ifs at member with quote backslash backspace tab newline feed carriage
    control
  all_goals
    simp only [List.mem_cons, List.not_mem_nil, or_false] at member
  · rcases member with rfl | rfl <;> decide
  · rcases member with rfl | rfl <;> decide
  · rcases member with rfl | rfl <;> decide
  · rcases member with rfl | rfl <;> decide
  · rcases member with rfl | rfl <;> decide
  · rcases member with rfl | rfl <;> decide
  · rcases member with rfl | rfl <;> decide
  · have digit : ∀ code < 16, 32 ≤ (Nat.digitChar code).toNat := by decide
    rcases member with rfl | rfl | rfl | rfl | rfl | rfl
    · decide
    · decide
    · decide
    · decide
    · exact digit _ (by omega)
    · exact digit _ (by omega)
  · rw [member]
    omega

/-- Decimal digits, at least one. -/
def readDigits : Reader Nat := fun text =>
  match text.takeWhile Char.isDigit with
  | [] => none
  | first :: others =>
      some (Nat.ofDigitChars 10 (first :: others) 0,
        text.dropWhile Char.isDigit)

theorem reads_digits (number : Nat) :
    Reads readDigits (Nat.toDigits 10 number) number := by
  intro rest stops
  have digits : ∀ digit ∈ Nat.toDigits 10 number, digit.isDigit = true :=
    fun digit member => Nat.isDigit_of_mem_toDigits (by decide) (by decide)
      member
  have silent : rest.takeWhile Char.isDigit = [] ∧
      rest.dropWhile Char.isDigit = rest := by
    cases rest with
    | nil => exact ⟨rfl, rfl⟩
    | cons first others =>
        have mark : first.isDigit = false := stops first rfl
        simp [mark]
  have front : (Nat.toDigits 10 number ++ rest).takeWhile Char.isDigit =
      Nat.toDigits 10 number := by
    rw [List.takeWhile_append_of_pos digits, silent.1, List.append_nil]
  have back : (Nat.toDigits 10 number ++ rest).dropWhile Char.isDigit =
      rest := by
    rw [List.dropWhile_append_of_pos digits, silent.2]
  rw [readDigits, front, back]
  have value := @Nat.ofDigitChars_ten_toDigits number
  cases text : Nat.toDigits 10 number with
  | nil => exact absurd text Nat.toDigits_ne_nil
  | cons first others =>
      rw [text] at value
      simp only [value]

/-- A negative number is written by its distance from zero; the other bit
patterns of the type do not occur. -/
def numberText : Number → List Char
  | .posInt value => Nat.toDigits 10 value.toNat
  | .negInt value => '-' :: Nat.toDigits 10 (0 - value.toUInt64).toNat
  | .float bits => '#' :: Nat.toDigits 10 bits.toNat

/-- The rest of a sequence: items after commas, then the closing mark. -/
def readRest {Item : Type} (closing : Char) (item : Reader Item) :
    Nat → Reader (List Item)
  | 0, _ => none
  | _ + 1, [] => none
  | fuel + 1, mark :: text =>
      if mark = closing then
        some ([], text)
      else if mark = ',' then do
        let (first, text) ← item text
        let (others, text) ← readRest closing item fuel text
        some (first :: others, text)
      else
        none

/-- A sequence up to its closing mark. -/
def readSequence {Item : Type} (closing : Char) (item : Reader Item)
    (fuel : Nat) : Reader (List Item)
  | [] => none
  | mark :: text =>
      if mark = closing then
        some ([], text)
      else do
        let (first, text) ← item (mark :: text)
        let (others, text) ← readRest closing item fuel text
        some (first :: others, text)

/-- The text after the first item. -/
def restText {Item : Type} (closing : Char) (itemText : Item → List Char)
    (items : List Item) : List Char :=
  items.flatMap (fun item => ',' :: itemText item) ++ [closing]

section Sequences

variable {Item : Type} {closing : Char} {item : Reader Item}
  {itemText : Item → List Char}

theorem stops_restText (mark : closing.isDigit = false) (items : List Item)
    (rest : List Char) : Stops (restText closing itemText items ++ rest) := by
  cases items with
  | nil => exact stops_cons mark rest
  | cons first others =>
      simp only [restText, List.flatMap_cons, List.cons_append]
      exact stops_cons (by decide) _

theorem reads_rest (mark : closing.isDigit = false)
    (separate : closing ≠ ',') {items : List Item}
    (reads : ∀ value ∈ items, Reads item (itemText value) value) {fuel : Nat}
    (bound : items.length < fuel) (rest : List Char) :
    readRest closing item fuel (restText closing itemText items ++ rest) =
      some (items, rest) := by
  induction items generalizing fuel with
  | nil =>
      cases fuel with
      | zero => omega
      | succ fuel => simp [restText, readRest]
  | cons first others ih =>
      cases fuel with
      | zero => omega
      | succ fuel =>
          have firstRead := reads first List.mem_cons_self
            (restText closing itemText others ++ rest)
            (stops_restText mark others rest)
          have othersRead := @ih
            (fun value member => reads value (List.mem_cons_of_mem _ member))
            fuel (by simp only [List.length_cons] at bound; omega)
          have text : restText closing itemText (first :: others) ++ rest =
              ',' :: (itemText first ++
                (restText closing itemText others ++ rest)) := by
            simp [restText]
          rw [text, readRest, if_neg (Ne.symm separate), if_pos rfl, firstRead]
          simp [othersRead]

end Sequences

def quoted (text : String) : List Char :=
  '"' :: text.toList.flatMap escapeChar ++ ['"']

/- The text of a value, of the items or entries after the first, and of an
entry. -/
mutual
def valueText : Value → List Char
  | .null => ['n', 'u', 'l', 'l']
  | .bool true => ['t', 'r', 'u', 'e']
  | .bool false => ['f', 'a', 'l', 's', 'e']
  | .number value => numberText value
  | .string value => quoted value
  | .array [] => ['[', ']']
  | .array (item :: rest) => '[' :: valueText item ++ itemsText rest
  | .object [] => ['{', '}']
  | .object (entry :: rest) => '{' :: entryText entry ++ entriesText rest

def itemsText : List Value → List Char
  | [] => [']']
  | item :: rest => ',' :: valueText item ++ itemsText rest

def entryText : String × Value → List Char
  | (key, value) => quoted key ++ ':' :: valueText value

def entriesText : List (String × Value) → List Char
  | [] => ['}']
  | entry :: rest => ',' :: entryText entry ++ entriesText rest
end

theorem itemsText_eq (items : List Value) :
    itemsText items = restText ']' valueText items := by
  induction items with
  | nil => rfl
  | cons item rest ih => simp [itemsText, restText, ih]

theorem entriesText_eq (entries : List (String × Value)) :
    entriesText entries = restText '}' entryText entries := by
  induction entries with
  | nil => rfl
  | cons entry rest ih => simp [entriesText, restText, ih]

/-- How strings, between their quotes, and numbers are written. -/
structure Spelling where
  string : List Char → List Char
  number : Number → List Char

namespace Spelling

def quoted (spelling : Spelling) (text : String) : List Char :=
  '"' :: spelling.string text.toList ++ ['"']

mutual
/-- The text of a value in a spelling. -/
def value (spelling : Spelling) : Value → List Char
  | .null => ['n', 'u', 'l', 'l']
  | .bool true => ['t', 'r', 'u', 'e']
  | .bool false => ['f', 'a', 'l', 's', 'e']
  | .number number => spelling.number number
  | .string text => spelling.quoted text
  | .array [] => ['[', ']']
  | .array (item :: rest) => '[' :: spelling.value item ++ spelling.items rest
  | .object [] => ['{', '}']
  | .object (entry :: rest) =>
      '{' :: spelling.entry entry ++ spelling.entries rest

def items (spelling : Spelling) : List Value → List Char
  | [] => [']']
  | item :: rest => ',' :: spelling.value item ++ spelling.items rest

def entry (spelling : Spelling) : String × Value → List Char
  | (key, value) => spelling.quoted key ++ ':' :: spelling.value value

def entries (spelling : Spelling) : List (String × Value) → List Char
  | [] => ['}']
  | entry :: rest => ',' :: spelling.entry entry ++ spelling.entries rest
end

theorem items_eq (spelling : Spelling) (items : List Value) :
    spelling.items items = restText ']' spelling.value items := by
  induction items with
  | nil => rfl
  | cons item rest ih => simp [Spelling.items, restText, ih]

theorem entries_eq (spelling : Spelling) (entries : List (String × Value)) :
    spelling.entries entries = restText '}' spelling.entry entries := by
  induction entries with
  | nil => rfl
  | cons entry rest ih => simp [Spelling.entries, restText, ih]

/-- The spelling with the shortest escapes. -/
def plain : Spelling :=
  ⟨fun text => text.flatMap escapeChar, numberText⟩

mutual
theorem value_plain : ∀ value, plain.value value = valueText value
  | .null => rfl
  | .bool true => rfl
  | .bool false => rfl
  | .number _ => rfl
  | .string _ => rfl
  | .array [] => rfl
  | .array (item :: rest) => by
      rw [Spelling.value, valueText, value_plain item, items_plain rest]
  | .object [] => rfl
  | .object (entry :: rest) => by
      rw [Spelling.value, valueText, entry_plain entry, entries_plain rest]

theorem items_plain : ∀ items, plain.items items = itemsText items
  | [] => rfl
  | item :: rest => by
      rw [Spelling.items, itemsText, value_plain item, items_plain rest]

theorem entry_plain : ∀ entry, plain.entry entry = entryText entry
  | (key, value) => by
      rw [Spelling.entry, entryText, value_plain value]
      rfl

theorem entries_plain : ∀ entries, plain.entries entries = entriesText entries
  | [] => rfl
  | entry :: rest => by
      rw [Spelling.entries, entriesText, entry_plain entry, entries_plain rest]
end

/-- The strings are read as what they spell, and the numbers are plain. -/
structure Readable (spelling : Spelling) : Prop where
  string : ∀ characters rest,
    readString (spelling.string characters ++ '"' :: rest) =
      some (characters, rest)
  number : spelling.number = numberText

theorem readable_plain : plain.Readable :=
  ⟨reads_string, rfl⟩

end Spelling

def readEntry (value : Reader Value) : Reader (String × Value)
  | '"' :: text => do
      let (key, text) ← readString text
      match text with
      | ':' :: text => do
          let (value, text) ← value text
          some ((String.ofList key, value), text)
      | _ => none
  | _ => none

/-- The value after its first character, which is not a digit. -/
def readMarked (fuel : Nat) (value : Reader Value) (mark : Char) :
    Reader Value := fun text =>
  if mark = 'n' then
    match text with
    | 'u' :: 'l' :: 'l' :: text => some (.null, text)
    | _ => none
  else if mark = 't' then
    match text with
    | 'r' :: 'u' :: 'e' :: text => some (.bool true, text)
    | _ => none
  else if mark = 'f' then
    match text with
    | 'a' :: 'l' :: 's' :: 'e' :: text => some (.bool false, text)
    | _ => none
  else if mark = '"' then do
    let (characters, text) ← readString text
    some (.string (String.ofList characters), text)
  else if mark = '[' then do
    let (items, text) ← readSequence ']' value fuel text
    some (.array items, text)
  else if mark = '{' then do
    let (entries, text) ← readSequence '}' (readEntry value) fuel text
    some (.object entries, text)
  else if mark = '-' then do
    let (distance, text) ← readDigits text
    some (.number (.negInt (0 - UInt64.ofNat distance).toInt64), text)
  else if mark = '#' then do
    let (bits, text) ← readDigits text
    some (.number (.float (UInt64.ofNat bits)), text)
  else
    none

/-- Take a value from the front of a text; the fuel bounds its length. -/
def readValue : Nat → Reader Value
  | 0, _ => none
  | _ + 1, [] => none
  | fuel + 1, first :: text =>
      if first.isDigit then do
        let (value, text) ← readDigits (first :: text)
        some (.number (.posInt (UInt64.ofNat value)), text)
      else
        readMarked fuel (readValue fuel) first text

section Values

theorem reads_entry {spelling : Spelling} (readable : spelling.Readable)
    {value : Value} {reader : Reader Value}
    (reads : Reads reader (spelling.value value) value) (key : String) :
    Reads (readEntry reader) (spelling.entry (key, value)) (key, value) := by
  intro rest stops
  have text : spelling.entry (key, value) ++ rest =
      '"' :: (spelling.string key.toList ++
        '"' :: ':' :: (spelling.value value ++ rest)) := by
    simp [Spelling.entry, Spelling.quoted]
  rw [text, readEntry, readable.string]
  simp [reads rest stops]

theorem reads_number (fuel : Nat) (number : Number) :
    Reads (readValue (fuel + 1)) (numberText number) (.number number) := by
  intro rest stops
  cases number with
  | posInt value =>
      have digits := reads_digits value.toNat rest stops
      cases text : Nat.toDigits 10 value.toNat with
      | nil => exact absurd text Nat.toDigits_ne_nil
      | cons first others =>
          have digit : first.isDigit = true :=
            @Nat.isDigit_of_mem_toDigits 10 value.toNat first (by decide)
              (by decide) (by rw [text]; exact List.mem_cons_self)
          rw [text, List.cons_append] at digits
          rw [numberText, text, List.cons_append, readValue, if_pos digit,
            digits]
          simp
  | negInt value =>
      have digits := reads_digits (0 - value.toUInt64).toNat rest stops
      have mark : ('-').isDigit = false := by decide
      have distance : (0 - UInt64.ofNat (0 - value.toUInt64).toNat).toInt64 =
          value := by
        rw [UInt64.ofNat_toNat]
        simp
      have marked : ∀ text, readMarked fuel (readValue fuel) '-' text =
          (readDigits text).bind fun result => some (.number
            (.negInt (0 - UInt64.ofNat result.1).toInt64), result.2) :=
        fun _ => rfl
      rw [numberText, List.cons_append, readValue, if_neg (by simp [mark]),
        marked, digits, Option.bind_some, distance]
  | float bits =>
      have digits := reads_digits bits.toNat rest stops
      have mark : ('#').isDigit = false := by decide
      rw [numberText, List.cons_append, readValue, if_neg (by simp [mark])]
      simp [readMarked, digits]

theorem readValue_mark {fuel : Nat} {mark : Char}
    (notDigit : mark.isDigit = false) (text : List Char) :
    readValue (fuel + 1) (mark :: text) =
      readMarked fuel (readValue fuel) mark text := by
  rw [readValue, if_neg (by simp [notDigit])]

/-- A sequence between marks is read if its items are. -/
theorem reads_sequence {Item : Type} {closing : Char} {item : Reader Item}
    {itemText : Item → List Char} (mark : closing.isDigit = false)
    (separate : closing ≠ ',') {first : Item} {others : List Item}
    (opens : (itemText first).head? ≠ none ∧
      (itemText first).head? ≠ some closing)
    (reads : ∀ value ∈ first :: others, Reads item (itemText value) value)
    {fuel : Nat} (bound : others.length < fuel) (rest : List Char) :
    readSequence closing item fuel (itemText first ++
        (restText closing itemText others ++ rest)) =
      some (first :: others, rest) := by
  have firstRead := reads first List.mem_cons_self
    (restText closing itemText others ++ rest)
    (stops_restText mark others rest)
  have othersRead := reads_rest mark separate
    (fun value member => reads value (List.mem_cons_of_mem _ member)) bound
    rest
  cases text : itemText first with
  | nil => simp [text] at opens
  | cons character tail =>
      have open_ : character ≠ closing := by
        rintro rfl
        simp [text] at opens
      rw [text, List.cons_append] at firstRead
      rw [List.cons_append, readSequence, if_neg open_, firstRead]
      simp [othersRead]

theorem length_lt_restText {Item : Type} (closing : Char)
    (itemText : Item → List Char) (items : List Item) :
    items.length < (restText closing itemText items).length := by
  induction items with
  | nil => simp [restText]
  | cons first others ih =>
      simp only [restText, List.flatMap_cons, List.length_append,
        List.length_cons] at ih ⊢
      omega

theorem length_le_restText {Item : Type} (closing : Char)
    (itemText : Item → List Char) {items : List Item} {item : Item}
    (member : item ∈ items) :
    (itemText item).length < (restText closing itemText items).length := by
  induction items with
  | nil => exact absurd member List.not_mem_nil
  | cons first others ih =>
      simp only [restText, List.flatMap_cons, List.length_append,
        List.length_cons] at ih ⊢
      rcases List.mem_cons.mp member with rfl | later
      · omega
      · have bound := ih later
        omega

/-- No value opens with a mark that closes a sequence. -/
theorem value_opens {spelling : Spelling} (readable : spelling.Readable)
    (value : Value) :
    (spelling.value value).head? ≠ none ∧
      (spelling.value value).head? ≠ some ']' := by
  cases value with
  | null => simp [Spelling.value]
  | bool value => cases value <;> simp [Spelling.value]
  | string value => simp [Spelling.value, Spelling.quoted]
  | array items => cases items <;> simp [Spelling.value]
  | object entries => cases entries <;> simp [Spelling.value]
  | number value =>
      rw [Spelling.value, readable.number]
      cases value with
      | negInt value => simp [numberText]
      | float bits => simp [numberText]
      | posInt value =>
          rw [numberText]
          cases text : Nat.toDigits 10 value.toNat with
          | nil => exact absurd text Nat.toDigits_ne_nil
          | cons first others =>
              have digit : first.isDigit = true :=
                @Nat.isDigit_of_mem_toDigits 10 value.toNat first (by decide)
                  (by decide) (by rw [text]; exact List.mem_cons_self)
              refine ⟨by simp, ?_⟩
              rintro ⟨⟩
              revert digit
              decide

/-- What is written in a readable spelling is read back. -/
theorem reads_spelling {spelling : Spelling} (readable : spelling.Readable)
    {fuel : Nat} {value : Value}
    (bound : (spelling.value value).length ≤ fuel) :
    Reads (readValue fuel) (spelling.value value) value := by
  induction fuel generalizing value with
  | zero =>
      have opens := (value_opens readable value).1
      rw [List.length_eq_zero_iff.mp (Nat.le_zero.mp bound)] at opens
      exact absurd rfl opens
  | succ fuel ih =>
      intro rest stops
      cases value with
      | null => rfl
      | bool value => cases value <;> rfl
      | number value =>
          rw [Spelling.value, readable.number]
          exact reads_number fuel value rest stops
      | string value =>
          have text : spelling.value (.string value) ++ rest = '"' ::
              (spelling.string value.toList ++ '"' :: rest) := by
            simp [Spelling.value, Spelling.quoted]
          rw [text, readValue_mark (by decide)]
          simp [readMarked, readable.string]
      | array items =>
          cases items with
          | nil => rfl
          | cons first others =>
              have text : spelling.value (.array (first :: others)) ++ rest =
                  '[' :: (spelling.value first ++
                    (restText ']' spelling.value others ++ rest)) := by
                simp [Spelling.value, Spelling.items_eq]
              have length : (spelling.value first).length +
                  (restText ']' spelling.value others).length ≤ fuel := by
                simp only [Spelling.value, Spelling.items_eq,
                  List.length_append, List.length_cons] at bound
                omega
              have read := @reads_sequence Value ']' (readValue fuel)
                spelling.value (by decide) (by decide) first others
                (value_opens readable first) (by
                  intro item member
                  apply ih
                  rcases List.mem_cons.mp member with rfl | later
                  · omega
                  · have short := length_le_restText ']' spelling.value later
                    omega)
                fuel (by
                  have short := length_lt_restText ']' spelling.value others
                  omega)
                rest
              rw [text, readValue_mark (by decide)]
              simp [readMarked, read]
      | object entries =>
          cases entries with
          | nil => rfl
          | cons first others =>
              obtain ⟨firstKey, firstValue⟩ := first
              have text : spelling.value (.object ((firstKey, firstValue) ::
                  others)) ++ rest =
                  '{' :: (spelling.entry (firstKey, firstValue) ++
                    (restText '}' spelling.entry others ++ rest)) := by
                simp [Spelling.value, Spelling.entries_eq]
              have length : (spelling.entry (firstKey, firstValue)).length +
                  (restText '}' spelling.entry others).length ≤ fuel := by
                simp only [Spelling.value, Spelling.entries_eq,
                  List.length_append, List.length_cons] at bound
                omega
              have read := @reads_sequence (String × Value) '}'
                (readEntry (readValue fuel)) spelling.entry (by decide)
                (by decide) (firstKey, firstValue) others
                (by simp [Spelling.entry, Spelling.quoted]) (by
                  rintro ⟨key, value⟩ member
                  refine reads_entry readable (ih ?_) key
                  have short : (spelling.value value).length ≤
                      (spelling.entry (key, value)).length := by
                    simp only [Spelling.entry, List.length_append,
                      List.length_cons]
                    omega
                  rcases List.mem_cons.mp member with same | later
                  · rw [same] at short
                    omega
                  · have shorter := length_le_restText '}' spelling.entry later
                    omega)
                fuel (by
                  have short := length_lt_restText '}' spelling.entry others
                  omega)
                rest
              rw [text, readValue_mark (by decide)]
              simp [readMarked, read]

/-- What is written is read back. -/
theorem reads_value {fuel : Nat} {value : Value}
    (bound : (valueText value).length ≤ fuel) :
    Reads (readValue fuel) (valueText value) value := by
  rw [← Spelling.value_plain] at bound ⊢
  exact reads_spelling Spelling.readable_plain bound

end Values

/-- A character that a JSON text may hold outside and inside of strings. -/
def Printable (text : List Char) : Prop :=
  ∀ character ∈ text, 32 ≤ character.toNat

theorem printable_append {first second : List Char} :
    Printable (first ++ second) ↔ Printable first ∧ Printable second := by
  simp only [Printable, List.mem_append, or_imp, forall_and]

theorem printable_cons {character : Char} {text : List Char} :
    Printable (character :: text) ↔
      32 ≤ character.toNat ∧ Printable text := by
  simp [Printable]

theorem printable_quoted (text : String) : Printable (quoted text) := by
  have inner : Printable (text.toList.flatMap escapeChar) := by
    intro character member
    obtain ⟨source, _, escaped⟩ := List.mem_flatMap.mp member
    exact escapeChar_printable escaped
  rw [quoted, printable_append, printable_cons]
  exact ⟨⟨by decide, inner⟩, by simp [Printable]⟩

theorem printable_digits (number : Nat) :
    Printable (Nat.toDigits 10 number) := by
  intro character member
  have digit : character.isDigit = true :=
    Nat.isDigit_of_mem_toDigits (by decide) (by decide) member
  simp only [Char.isDigit, Bool.and_eq_true, decide_eq_true_eq] at digit
  have bound : 48 ≤ character.toNat := digit.1
  omega

theorem printable_number (number : Number) :
    Printable (numberText number) := by
  cases number with
  | posInt value => exact printable_digits _
  | negInt value => exact printable_cons.mpr ⟨by decide, printable_digits _⟩
  | float bits => exact printable_cons.mpr ⟨by decide, printable_digits _⟩

mutual
theorem printable_value : ∀ value, Printable (valueText value)
  | .null => by simp [valueText, Printable]
  | .bool true => by simp [valueText, Printable]
  | .bool false => by simp [valueText, Printable]
  | .number number => by
      rw [valueText]
      exact printable_number number
  | .string text => by
      rw [valueText]
      exact printable_quoted text
  | .array [] => by simp [valueText, Printable]
  | .array (item :: rest) => by
      rw [valueText, printable_append, printable_cons]
      exact ⟨⟨by decide, printable_value item⟩, printable_items rest⟩
  | .object [] => by simp [valueText, Printable]
  | .object (entry :: rest) => by
      rw [valueText, printable_append, printable_cons]
      exact ⟨⟨by decide, printable_entry entry⟩, printable_entries rest⟩

theorem printable_items : ∀ items, Printable (itemsText items)
  | [] => by simp [itemsText, Printable]
  | item :: rest => by
      rw [itemsText, printable_append, printable_cons]
      exact ⟨⟨by decide, printable_value item⟩, printable_items rest⟩

theorem printable_entry : ∀ entry, Printable (entryText entry)
  | (key, value) => by
      rw [entryText, printable_append, printable_cons]
      exact ⟨printable_quoted key, by decide, printable_value value⟩

theorem printable_entries : ∀ entries, Printable (entriesText entries)
  | [] => by simp [entriesText, Printable]
  | entry :: rest => by
      rw [entriesText, printable_append, printable_cons]
      exact ⟨⟨by decide, printable_entry entry⟩, printable_entries rest⟩
end

/-- `serde_json::to_vec`, the UTF-8 bytes of the text. -/
def toBytes (value : Value) : List UInt8 :=
  (valueText value).flatMap String.utf8EncodeChar

/-- `serde_json::to_string`. -/
def toText (value : Value) : String :=
  String.ofList (valueText value)

/-- `serde_json::from_str`; nothing may follow the value. -/
def fromText (text : String) : Option Value :=
  match readValue text.length text.toList with
  | some (value, []) => some value
  | _ => none

/-- `serde_json::from_slice`. -/
def fromBytes (bytes : List UInt8) : Option Value :=
  (String.fromUTF8? bytes.toByteArray).bind fromText

theorem fromText_toText (value : Value) :
    fromText (toText value) = some value := by
  have read := @reads_value (valueText value).length value (le_refl _) []
    stops_nil
  rw [List.append_nil] at read
  simp [fromText, toText, read]

theorem fromBytes_toBytes (value : Value) :
    fromBytes (toBytes value) = some value := by
  have encoded : (toBytes value).toByteArray = (toText value).toByteArray := by
    rw [toText, String.toByteArray_ofList]
    rfl
  have decoded : String.fromUTF8? (toText value).toByteArray =
      some (toText value) := by
    rw [String.fromUTF8?, dif_pos (toText value).isValidUTF8]
    rfl
  rw [fromBytes, encoded, decoded]
  exact fromText_toText value

/-- The bytes of a printable character hold no newline. -/
theorem newline_not_mem_utf8 {character : Char}
    (printable : 32 ≤ character.toNat) :
    10 ∉ String.utf8EncodeChar character := by
  have large : 32 ≤ character.val.toNat := printable
  fun_cases String.utf8EncodeChar character <;>
    simp only [List.mem_cons, List.not_mem_nil, or_false, ← UInt8.toNat_inj,
      UInt8.toNat_ofNat, UInt8.toNat_ofNat'] <;>
    omega

theorem newline_not_mem_toBytes (value : Value) : 10 ∉ toBytes value := by
  intro member
  obtain ⟨character, inText, inBytes⟩ := List.mem_flatMap.mp member
  exact newline_not_mem_utf8 (printable_value value character inText) inBytes

theorem head_toBytes_object (entries : List (String × Value)) :
    (toBytes (.object entries)).head? = some 123 := by
  cases entries with
  | nil => rfl
  | cons entry rest => rfl

end JsonText

/-- The value holds a floating-point number. -/
inductive Value.HasFloat : Value → Prop where
  | number (bits : UInt64) : HasFloat (.number (.float bits))
  | array {items : List Value} {item : Value} (member : item ∈ items)
      (inside : HasFloat item) : HasFloat (.array items)
  | object {entries : List (String × Value)} {entry : String × Value}
      (member : entry ∈ entries) (inside : HasFloat entry.2) :
      HasFloat (.object entries)

@[simp]
theorem not_hasFloat_string (text : String) :
    ¬ (Value.string text).HasFloat := by
  rintro ⟨⟩

@[simp]
theorem hasFloat_array_iff {items : List Value} :
    (Value.array items).HasFloat ↔ ∃ item ∈ items, item.HasFloat := by
  constructor
  · rintro ⟨⟩
    next item inside member => exact ⟨item, member, inside⟩
  · rintro ⟨item, member, inside⟩
    exact .array member inside

@[simp]
theorem hasFloat_object_iff {entries : List (String × Value)} :
    (Value.object entries).HasFloat ↔
      ∃ entry ∈ entries, entry.2.HasFloat := by
  constructor
  · rintro ⟨⟩
    next entry inside member => exact ⟨entry, member, inside⟩
  · rintro ⟨entry, member, inside⟩
    exact .object member inside

mutual

/-- How many containers of the value are inside one another. -/
def Value.depth : Value → Nat
  | .array items => itemsDepth items + 1
  | .object entries => entriesDepth entries + 1
  | _ => 0

def Value.itemsDepth : List Value → Nat
  | [] => 0
  | item :: rest => max item.depth (itemsDepth rest)

def Value.entriesDepth : List (String × Value) → Nat
  | [] => 0
  | (_, value) :: rest => max value.depth (entriesDepth rest)

end

namespace JsonText

/-- How `serde_json` writes a value, given how it writes numbers. -/
def jsonSpelling (numbers : Number → List Char) : Spelling :=
  ⟨fun text => text.flatMap escapeChar, numbers⟩

end JsonText

/-- `serde_json`, given the text of a floating-point number; the shortest
decimal form is outside this development. -/
structure JsonWriter where
  float : UInt64 → List Char

/-- The writer that gives numbers by their bit pattern. -/
def jsonTextWriter : JsonWriter where
  float bits := JsonText.numberText (.float bits)

namespace JsonWriter

open JsonText

variable (json : JsonWriter)

def number : Number → List Char
  | .float bits => json.float bits
  | .posInt value => numberText (.posInt value)
  | .negInt value => numberText (.negInt value)

def spelling : Spelling :=
  jsonSpelling json.number

/-- `serde_json::to_string`. -/
def toString (value : Value) : String :=
  String.ofList (json.spelling.value value)

/-- `serde_json::to_vec`. -/
def toVec (value : Value) : List UInt8 :=
  (json.spelling.value value).flatMap String.utf8EncodeChar

section Plain

variable {json}

mutual

theorem value_spelling : ∀ value, ¬ value.HasFloat →
    json.spelling.value value = valueText value
  | .null, _ => rfl
  | .bool true, _ => rfl
  | .bool false, _ => rfl
  | .number (.float bits), plain => absurd (.number bits) plain
  | .number (.posInt _), _ => rfl
  | .number (.negInt _), _ => rfl
  | .string _, _ => rfl
  | .array [], _ => rfl
  | .array (item :: rest), plain => by
      rw [Spelling.value, valueText,
        value_spelling item fun inside =>
          plain (.array List.mem_cons_self inside),
        items_spelling rest fun _ member inside =>
          plain (.array (List.mem_cons_of_mem item member) inside)]
  | .object [], _ => rfl
  | .object (entry :: rest), plain => by
      rw [Spelling.value, valueText,
        entry_spelling entry fun inside =>
          plain (.object List.mem_cons_self inside),
        entries_spelling rest fun _ member inside =>
          plain (.object (List.mem_cons_of_mem entry member) inside)]

theorem items_spelling : ∀ items : List Value,
    (∀ item ∈ items, ¬ item.HasFloat) →
    json.spelling.items items = itemsText items
  | [], _ => rfl
  | item :: rest, plain => by
      rw [List.forall_mem_cons] at plain
      rw [Spelling.items, itemsText, value_spelling item plain.1,
        items_spelling rest plain.2]

theorem entry_spelling : ∀ entry : String × Value, ¬ entry.2.HasFloat →
    json.spelling.entry entry = entryText entry
  | (key, value), plain => by
      rw [Spelling.entry, entryText, value_spelling value plain]
      rfl

theorem entries_spelling : ∀ entries : List (String × Value),
    (∀ entry ∈ entries, ¬ entry.2.HasFloat) →
    json.spelling.entries entries = entriesText entries
  | [], _ => rfl
  | entry :: rest, plain => by
      rw [List.forall_mem_cons] at plain
      rw [Spelling.entries, entriesText, entry_spelling entry plain.1,
        entries_spelling rest plain.2]

end

end Plain

/-- Without floating-point numbers, the text does not depend on the writer. -/
theorem toString_eq (value : Value) (plain : ¬ value.HasFloat) :
    json.toString value = toText value := by
  rw [JsonWriter.toString, value_spelling value plain, toText]

theorem toVec_eq {value : Value} (plain : ¬ value.HasFloat) :
    json.toVec value = toBytes value := by
  rw [toVec, value_spelling value plain, toBytes]

end JsonWriter

end PlatoAgent
