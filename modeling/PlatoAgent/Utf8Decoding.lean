import PlatoAgent.Utf8Prefixes

/-!
# Bytes that are read as a text

Bytes are decoded as far as they are characters.  What is left when a text was
cut anywhere is the start of a character that the end cuts off.
-/

namespace Utf8

def encode (text : List Char) : List UInt8 :=
  text.flatMap String.utf8EncodeChar

/-- The characters that bytes begin with, and the bytes behind them. -/
def decode : Nat → List UInt8 → List Char × List UInt8
  | 0, bytes => ([], bytes)
  | fuel + 1, bytes =>
      match bytes.toByteArray.utf8DecodeChar? 0 with
      | none => ([], bytes)
      | some character =>
          let (text, rest) := decode fuel (bytes.drop character.utf8Size)
          (character :: text, rest)

def isContinuation (byte : UInt8) : Bool :=
  0x80 ≤ byte && byte ≤ 0xBF

/-- The second of three bytes may follow the first. -/
def startsThree (first second : UInt8) : Bool :=
  (first == 0xE0 && 0xA0 ≤ second && second ≤ 0xBF) ||
    (0xE1 ≤ first && first ≤ 0xEC && isContinuation second) ||
    (first == 0xED && 0x80 ≤ second && second ≤ 0x9F) ||
    (0xEE ≤ first && first ≤ 0xEF && isContinuation second)

/-- The second of four bytes may follow the first. -/
def startsFour (first second : UInt8) : Bool :=
  (first == 0xF0 && 0x90 ≤ second && second ≤ 0xBF) ||
    (0xF1 ≤ first && first ≤ 0xF3 && isContinuation second) ||
    (first == 0xF4 && 0x80 ≤ second && second ≤ 0x8F)

/-- The bytes end before their first character does. -/
def endsInside : List UInt8 → Bool
  | [first] => 0xC2 ≤ first && first ≤ 0xF4
  | [first, second] => startsThree first second || startsFour first second
  | [first, second, third] => startsFour first second && isContinuation third
  | _ => false

theorem decode_encode_append {fuel : Nat} (text : List Char)
    {rest : List UInt8} (stuck : rest.toByteArray.utf8DecodeChar? 0 = none)
    (enough : text.length ≤ fuel) :
    decode fuel (encode text ++ rest) = (text, rest) := by
  induction text generalizing fuel with
  | nil =>
      cases fuel with
      | zero => rfl
      | succ fuel => simp [decode, encode, stuck]
  | cons character others ih =>
      cases fuel with
      | zero => simp at enough
      | succ fuel =>
          have first : (encode (character :: others) ++ rest) =
              String.utf8EncodeChar character ++ (encode others ++ rest) := by
            simp [encode]
          have decoded : (encode (character :: others) ++ rest).toByteArray.utf8DecodeChar?
              0 = some character := by
            rw [first, List.toByteArray_append]
            exact ByteArray.utf8DecodeChar?_utf8EncodeChar_append
          have behind : (encode (character :: others) ++ rest).drop
              character.utf8Size = encode others ++ rest := by
            rw [first, ← String.length_utf8EncodeChar]
            exact List.drop_left
          rw [decode, decoded]
          dsimp only
          rw [behind, ih (by simpa using enough)]

/-- No character is left of a text that was decoded to its end. -/
theorem eq_of_encode_eq {text start : List Char} {part : List UInt8}
    (isPrefix : start <+: text) (whole : encode text = encode start ++ part)
    (stuck : part.toByteArray.utf8DecodeChar? 0 = none) :
    start = text ∧ part = [] := by
  obtain ⟨more, rfl⟩ := isPrefix
  have isPart : encode more = part := by simpa [encode] using whole
  subst isPart
  cases more with
  | nil => simp [encode]
  | cons character others =>
      have bytes : encode (character :: others) =
          String.utf8EncodeChar character ++ encode others := by
        simp [encode]
      rw [bytes, List.toByteArray_append,
        ByteArray.utf8DecodeChar?_utf8EncodeChar_append] at stuck
      cases stuck

/-- No character is decoded of a part of one. -/
theorem stuck_of_part {character : Char} {part more : List UInt8}
    (split : String.utf8EncodeChar character = part ++ more)
    (isCut : more ≠ []) : part.toByteArray.utf8DecodeChar? 0 = none := by
  by_contra some
  obtain ⟨other, decoded⟩ := Option.ne_none_iff_exists'.mp some
  obtain ⟨rest, isOther⟩ := ByteArray.exists_of_utf8DecodeChar?_eq_some decoded
  have whole : (String.utf8EncodeChar character).toByteArray =
      (String.utf8EncodeChar other).toByteArray ++
        (rest ++ more.toByteArray) := by
    rw [split, List.toByteArray_append, isOther, ByteArray.append_assoc]
  have first := @ByteArray.utf8DecodeChar?_utf8EncodeChar_append
    ByteArray.empty character
  rw [ByteArray.append_empty, whole,
    ByteArray.utf8DecodeChar?_utf8EncodeChar_append, Option.some_inj] at first
  subst first
  have sizes := congrArg ByteArray.size isOther
  have lengths := congrArg List.length split
  have some := List.length_pos_of_ne_nil isCut
  simp at sizes lengths
  omega

theorem isContinuation_ofNat (value : Nat) :
    isContinuation (UInt8.ofNat (value % 64 + 128)) = true := by
  simp only [isContinuation, Bool.and_eq_true, decide_eq_true_eq,
    UInt8.le_iff_toNat_le, UInt8.toNat_ofNat', UInt8.reduceToNat]
  omega

theorem startsThree_ofNat {value : Nat} (low : 0x7ff < value)
    (high : value ≤ 0xffff)
    (valid : value < 0xd800 ∨ 0xdfff < value) :
    startsThree (UInt8.ofNat (value / 4096 % 16 + 224))
      (UInt8.ofNat (value / 64 % 64 + 128)) = true := by
  simp only [startsThree, isContinuation, Bool.and_eq_true, Bool.or_eq_true,
    decide_eq_true_eq, beq_iff_eq, ← UInt8.toNat_inj, UInt8.le_iff_toNat_le,
    UInt8.toNat_ofNat', UInt8.reduceToNat]
  omega

theorem startsFour_ofNat {value : Nat} (low : 0xffff < value)
    (high : value < 0x110000) :
    startsFour (UInt8.ofNat (value / 262144 % 8 + 240))
      (UInt8.ofNat (value / 4096 % 64 + 128)) = true := by
  simp only [startsFour, isContinuation, Bool.and_eq_true, Bool.or_eq_true,
    decide_eq_true_eq, beq_iff_eq, ← UInt8.toNat_inj, UInt8.le_iff_toNat_le,
    UInt8.toNat_ofNat', UInt8.reduceToNat]
  omega

theorem endsInside_singleton {first : UInt8} (low : 194 ≤ first.toNat)
    (high : first.toNat ≤ 244) : endsInside [first] = true := by
  simp only [endsInside, Bool.and_eq_true, decide_eq_true_eq,
    UInt8.le_iff_toNat_le]
  exact ⟨low, high⟩

/-- A character that is cut is not seen to be wrong. -/
theorem endsInside_of_part {character : Char} {part more : List UInt8}
    (split : String.utf8EncodeChar character = part ++ more)
    (isPart : part ≠ []) (isCut : more ≠ []) : endsInside part = true := by
  have valid := character.valid
  simp only [UInt32.isValidChar, Nat.isValidChar] at valid
  unfold String.utf8EncodeChar at split
  dsimp only at split
  generalize character.val.toNat = value at split valid
  obtain ⟨first, rest, rfl⟩ := List.exists_cons_of_ne_nil isPart
  split_ifs at split with one two three
  · obtain ⟨-, isNil⟩ := List.cons_eq_cons.mp split
    simp [isCut] at isNil
  · obtain ⟨rfl, others⟩ := List.cons_eq_cons.mp split
    cases rest with
    | nil =>
        apply endsInside_singleton <;> rw [UInt8.toNat_ofNat'] <;>
          norm_num <;> omega
    | cons second rest =>
        obtain ⟨-, isNil⟩ := List.cons_eq_cons.mp others
        simp [isCut] at isNil
  · obtain ⟨rfl, others⟩ := List.cons_eq_cons.mp split
    have starts := startsThree_ofNat (by omega) three (by omega)
    cases rest with
    | nil =>
        apply endsInside_singleton <;> rw [UInt8.toNat_ofNat'] <;>
          norm_num <;> omega
    | cons second rest =>
        obtain ⟨rfl, later⟩ := List.cons_eq_cons.mp others
        cases rest with
        | nil =>
            rw [endsInside, starts]
            rfl
        | cons third rest =>
            obtain ⟨-, isNil⟩ := List.cons_eq_cons.mp later
            simp [isCut] at isNil
  · obtain ⟨rfl, others⟩ := List.cons_eq_cons.mp split
    have starts := startsFour_ofNat (by omega)
      (by omega : value < 0x110000)
    cases rest with
    | nil =>
        apply endsInside_singleton <;> rw [UInt8.toNat_ofNat'] <;>
          norm_num <;> omega
    | cons second rest =>
        obtain ⟨rfl, later⟩ := List.cons_eq_cons.mp others
        cases rest with
        | nil => rw [endsInside, starts, Bool.or_true]
        | cons third rest =>
            obtain ⟨rfl, last⟩ := List.cons_eq_cons.mp later
            cases rest with
            | nil => rw [endsInside, starts, isContinuation_ofNat, Bool.and_true]
            | cons fourth rest =>
                obtain ⟨-, isNil⟩ := List.cons_eq_cons.mp last
                simp [isCut] at isNil

/-- Where a text is cut, whole characters stand before the start of one. -/
theorem exists_take_encode (text : List Char) (count : Nat) :
    ∃ start part, start <+: text ∧
      (encode text).take count = encode start ++ part ∧
      part.toByteArray.utf8DecodeChar? 0 = none ∧
      (part = [] ∨ endsInside part = true) ∧
      (count ≤ (encode text).length → count < (encode start).length + 4) := by
  induction text generalizing count with
  | nil =>
      refine ⟨[], [], List.prefix_rfl, by simp [encode], rfl, .inl rfl, ?_⟩
      intro small
      simp only [encode, List.flatMap_nil, List.length_nil] at small ⊢
      omega
  | cons character rest ih =>
      have whole : encode (character :: rest) =
          String.utf8EncodeChar character ++ encode rest := by
        simp [encode]
      have size := String.length_utf8EncodeChar character
      have few := character.utf8Size_le_four
      by_cases inside : count < character.utf8Size
      · have cut : (encode (character :: rest)).take count =
            (String.utf8EncodeChar character).take count := by
          rw [whole, List.take_append_of_le_length (by omega)]
        have split := (List.take_append_drop count
          (String.utf8EncodeChar character)).symm
        have isCut : (String.utf8EncodeChar character).drop count ≠ [] := by
          rw [Ne, List.drop_eq_nil_iff]
          omega
        refine ⟨[], (String.utf8EncodeChar character).take count,
          List.nil_prefix, by simpa [encode] using cut, stuck_of_part split isCut,
          ?_, ?_⟩
        · by_cases isNil : (String.utf8EncodeChar character).take count = []
          · exact .inl isNil
          · exact .inr (endsInside_of_part split isNil isCut)
        · intro _
          simp [encode]
          omega
      · obtain ⟨start, part, isPrefix, cut, stuck, ends, near⟩ :=
          ih (count - character.utf8Size)
        refine ⟨character :: start, part,
          (List.prefix_cons_inj character).mpr isPrefix, ?_, stuck, ends, ?_⟩
        · rw [whole, List.take_append, List.take_of_length_le (by omega), size,
            cut]
          simp [encode]
        · intro enough
          rw [whole, List.length_append, size] at enough
          have nearer := near (by omega)
          have longer : (encode (character :: start)).length =
              character.utf8Size + (encode start).length := by
            simp [encode]
          omega

end Utf8
