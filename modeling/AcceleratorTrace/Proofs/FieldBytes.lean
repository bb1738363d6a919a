import AcceleratorTrace.Layout
import Mathlib

/-!
# The bytes behind a field

The integer of a field has the bytes of the field as its digits in base 256, and a
bit field is a range of binary digits of it.  So two records agree on the bytes of a
field exactly if they hold the same integer there, and the pieces of a packed field
keep all of it.
-/

namespace AcceleratorTrace

theorem toNat_shift_or (word : UInt64) (byte : UInt8) :
    (word <<< 8 ||| byte.toUInt64).toNat = (byte.toNat + 256 * word.toNat) % 2 ^ 64 := by
  have small : byte.toNat < 2 ^ 8 := byte.toNat_lt
  have aligned : 256 * word.toNat % 2 ^ 64 = 2 ^ 8 * (word.toNat % 2 ^ 56) := by omega
  have joined : 2 ^ 8 * (word.toNat % 2 ^ 56) ||| byte.toNat =
      2 ^ 8 * (word.toNat % 2 ^ 56) + byte.toNat :=
    (Nat.two_pow_add_eq_or_of_lt small _).symm
  calc (word <<< 8 ||| byte.toUInt64).toNat
      = (word.toNat <<< 8 % 2 ^ 64) ||| byte.toNat := by simp
    _ = 256 * word.toNat % 2 ^ 64 ||| byte.toNat := by rw [Nat.shiftLeft_eq, Nat.mul_comm]
    _ = 2 ^ 8 * (word.toNat % 2 ^ 56) + byte.toNat := by rw [aligned, joined]
    _ = (byte.toNat + 256 * word.toNat) % 2 ^ 64 := by omega

/-- The bytes are the digits of the integer, the least significant first, as far as
64 bits hold them. -/
theorem ByteOrder.toNat_value_little (bytes : List UInt8) :
    (ByteOrder.little.value bytes).toNat =
      Nat.ofDigits 256 (bytes.map UInt8.toNat) % 2 ^ 64 := by
  simp only [ByteOrder.value]
  induction bytes with
  | nil => rfl
  | cons byte rest induction =>
      rw [List.foldr_cons, toNat_shift_or, induction, List.map_cons, Nat.ofDigits_cons]
      simp only [Nat.add_mod, Nat.mul_mod, Nat.mod_mod]

theorem byte_digits (bytes : List UInt8) : ∀ digit ∈ bytes.map UInt8.toNat, digit < 256 := by
  intro digit member
  obtain ⟨byte, -, rfl⟩ := List.mem_map.mp member
  exact byte.toNat_lt

theorem ofDigits_bytes_lt (bytes : List UInt8) :
    Nat.ofDigits 256 (bytes.map UInt8.toNat) < 256 ^ bytes.length := by
  simpa using Nat.ofDigits_lt_base_pow_length (by decide : 1 < 256) (byte_digits bytes)

theorem ByteOrder.toNat_value_little_of_short {bytes : List UInt8} (short : bytes.length ≤ 8) :
    (ByteOrder.little.value bytes).toNat = Nat.ofDigits 256 (bytes.map UInt8.toNat) := by
  rw [toNat_value_little]
  apply Nat.mod_eq_of_lt
  calc Nat.ofDigits 256 (bytes.map UInt8.toNat)
      < 256 ^ bytes.length := ofDigits_bytes_lt bytes
    _ ≤ 256 ^ 8 := Nat.pow_le_pow_right (by decide) short
    _ = 2 ^ 64 := by decide

theorem ByteOrder.value_little_inj {first second : List UInt8}
    (same : first.length = second.length) (short : first.length ≤ 8) :
    ByteOrder.little.value first = ByteOrder.little.value second ↔ first = second := by
  constructor
  · intro equal
    have digits := congrArg UInt64.toNat equal
    rw [toNat_value_little_of_short short, toNat_value_little_of_short (same ▸ short)] at digits
    have bytes := Nat.ofDigits_inj_of_len_eq (by decide : 1 < 256) (by simpa using same)
      (byte_digits first) (byte_digits second) digits
    exact (List.map_inj_right fun _ _ => UInt8.toNat_inj.mp).mp bytes
  · intro equal
    rw [equal]

theorem toUInt8_inj {first second : UInt64} (firstFits : first.toNat < 2 ^ 8)
    (secondFits : second.toNat < 2 ^ 8) : first.toUInt8 = second.toUInt8 ↔ first = second := by
  rw [← UInt8.toNat_inj, ← UInt64.toNat_inj, UInt64.toNat_toUInt8, UInt64.toNat_toUInt8,
    Nat.mod_eq_of_lt firstFits, Nat.mod_eq_of_lt secondFits]

theorem toUInt16_inj {first second : UInt64} (firstFits : first.toNat < 2 ^ 16)
    (secondFits : second.toNat < 2 ^ 16) : first.toUInt16 = second.toUInt16 ↔ first = second := by
  rw [← UInt16.toNat_inj, ← UInt64.toNat_inj, UInt64.toNat_toUInt16, UInt64.toNat_toUInt16,
    Nat.mod_eq_of_lt firstFits, Nat.mod_eq_of_lt secondFits]

theorem toUInt32_inj {first second : UInt64} (firstFits : first.toNat < 2 ^ 32)
    (secondFits : second.toNat < 2 ^ 32) : first.toUInt32 = second.toUInt32 ↔ first = second := by
  rw [← UInt32.toNat_inj, ← UInt64.toNat_inj, UInt64.toNat_toUInt32, UInt64.toNat_toUInt32,
    Nat.mod_eq_of_lt firstFits, Nat.mod_eq_of_lt secondFits]

theorem BitField.toNat_extract {bit : BitField} (inside : bit.InWord) (parent : UInt64) :
    (bit.extract parent).toNat = parent.toNat / 2 ^ bit.lsb % 2 ^ bit.width := by
  obtain ⟨ordered, high⟩ := inside
  obtain ⟨above, sum⟩ : ∃ above, above + bit.msb = 63 := ⟨63 - bit.msb, by omega⟩
  have aboveEq : 63 - bit.msb = above := by omega
  have up : (UInt64.ofNat above).toNat % 64 = above := by
    rw [UInt64.toNat_ofNat_of_lt' (by simp [UInt64.size]; omega)]
    omega
  have down : (UInt64.ofNat (above + bit.lsb)).toNat % 64 = above + bit.lsb := by
    rw [UInt64.toNat_ofNat_of_lt' (by simp [UInt64.size]; omega)]
    omega
  have split : 2 ^ 64 = 2 ^ above * 2 ^ (bit.msb + 1) := by
    rw [← Nat.pow_add]
    congr 1
    omega
  have width : bit.lsb + bit.width = bit.msb + 1 := by simp only [BitField.width]; omega
  simp only [BitField.extract, UInt64.toNat_shiftRight, UInt64.toNat_shiftLeft, aboveEq, up, down,
    Nat.shiftLeft_eq, Nat.shiftRight_eq_div_pow]
  calc parent.toNat * 2 ^ above % 2 ^ 64 / 2 ^ (above + bit.lsb)
      = 2 ^ above * (parent.toNat % 2 ^ (bit.msb + 1)) / (2 ^ above * 2 ^ bit.lsb) := by
        rw [split, Nat.mul_comm parent.toNat, Nat.mul_mod_mul_left, Nat.pow_add 2 above]
    _ = parent.toNat % 2 ^ (bit.lsb + bit.width) / 2 ^ bit.lsb := by
        rw [Nat.mul_div_mul_left _ _ (Nat.two_pow_pos above), width]
    _ = parent.toNat / 2 ^ bit.lsb % 2 ^ bit.width := by
        rw [Nat.pow_add, Nat.mod_mul_right_div_self]

theorem BitField.extract_lt {bit : BitField} {width : Nat} (inside : bit.InWord)
    (narrow : bit.width ≤ width) (parent : UInt64) :
    (bit.extract parent).toNat < 2 ^ width := by
  rw [toNat_extract inside]
  apply (Nat.mod_lt _ (Nat.two_pow_pos bit.width)).trans_le
  exact Nat.pow_le_pow_right (by decide) narrow

/-- Two adjacent bit fields that fill a word keep all of it. -/
theorem BitField.extract_inj {low high : BitField} (lowInside : low.InWord)
    (highInside : high.InWord) (bottom : low.lsb = 0) (adjacent : high.lsb = low.msb + 1)
    {first second : UInt64} (firstFits : first.toNat < 2 ^ (high.msb + 1))
    (secondFits : second.toNat < 2 ^ (high.msb + 1)) :
    low.extract first = low.extract second ∧ high.extract first = high.extract second ↔
      first = second := by
  constructor
  · rintro ⟨lower, upper⟩
    have lowerDigits := congrArg UInt64.toNat lower
    have upperDigits := congrArg UInt64.toNat upper
    have lowWidth : low.width = low.msb + 1 := by simp only [BitField.width]; omega
    have fill : high.lsb + high.width = high.msb + 1 := by
      have := highInside.1
      simp only [BitField.width]
      omega
    -- The upper digits of a word that fits are the whole quotient.
    have whole : ∀ {word : UInt64}, word.toNat < 2 ^ (high.msb + 1) →
        word.toNat / 2 ^ high.lsb % 2 ^ high.width = word.toNat / 2 ^ high.lsb := by
      intro word fits
      apply Nat.mod_eq_of_lt
      apply Nat.div_lt_of_lt_mul
      rwa [← Nat.pow_add, fill]
    rw [toNat_extract lowInside, toNat_extract lowInside, bottom, lowWidth] at lowerDigits
    rw [toNat_extract highInside, toNat_extract highInside, whole firstFits, whole secondFits,
      adjacent] at upperDigits
    simp only [Nat.pow_zero, Nat.div_one] at lowerDigits
    apply UInt64.toNat_inj.mp
    rw [← Nat.div_add_mod first.toNat (2 ^ (low.msb + 1)), lowerDigits, upperDigits,
      Nat.div_add_mod]
  · rintro rfl
    exact ⟨rfl, rfl⟩

/-- The little-endian integer of the two bytes at a place. -/
def halfWord (raw : List UInt8) (place : Nat) : Nat :=
  (raw.getD place 0).toNat + 256 * (raw.getD (place + 1) 0).toNat

namespace Field

/-- Two records hold the same bytes in a field. -/
def Agree (field : Field) (first second : List UInt8) : Prop :=
  ∀ place, field.offset ≤ place → place < field.stop → first[place]? = second[place]?

theorem bytes_eq_iff_agree (field : Field) (first second : List UInt8) :
    (first.drop field.offset).take field.width = (second.drop field.offset).take field.width ↔
      field.Agree first second := by
  constructor
  · intro equal place start stop
    have same := congrArg (fun bytes => bytes[place - field.offset]?) equal
    have inField : place - field.offset < field.width := by
      simp only [Field.stop] at stop
      omega
    simpa only [List.getElem?_take_of_lt inField, List.getElem?_drop, Nat.add_sub_cancel' start]
      using same
  · intro agree
    apply List.ext_getElem?
    intro index
    by_cases inField : index < field.width
    · rw [List.getElem?_take_of_lt inField, List.getElem?_take_of_lt inField, List.getElem?_drop,
        List.getElem?_drop]
      apply agree
      · exact Nat.le_add_right _ _
      · exact Nat.add_lt_add_left inField _
    · rw [List.getElem?_eq_none, List.getElem?_eq_none] <;> simp <;> omega

/-- Fields that cover all but some places agree exactly if all other places do. -/
theorem forall_agree_iff {fields : List Field} {size : Nat} {skipped : List Nat}
    {first second : List UInt8} (inside : ∀ field ∈ fields, field.stop ≤ size)
    (cover : ∀ place < size,
      (place ∉ skipped ↔ ∃ field ∈ fields, field.offset ≤ place ∧ place < field.stop)) :
    (∀ field ∈ fields, field.Agree first second) ↔
      ∀ place < size, place ∉ skipped → first[place]? = second[place]? := by
  constructor
  · intro agree place bound kept
    obtain ⟨field, member, start, stop⟩ := (cover place bound).mp kept
    exact agree field member place start stop
  · intro same field member place start stop
    have bound : place < size := stop.trans_le (inside field member)
    exact same place bound ((cover place bound).mpr ⟨field, member, start, stop⟩)

@[simp] theorem bytes?_eq_some {field : Field} {raw : List UInt8}
    (inside : field.stop ≤ raw.length) :
    field.bytes? raw = some ((raw.drop field.offset).take field.width) :=
  if_pos inside

end Field

namespace Layout

variable {layout : Layout} {field : Field} {raw first second : List UInt8}

/-- The integer of a field that lies inside the record. -/
def word (layout : Layout) (raw : List UInt8) (field : Field) : UInt64 :=
  layout.order.value ((raw.drop field.offset).take field.width)

@[simp] theorem read?_eq_word (whole : raw.length = layout.size)
    (inside : field.stop ≤ layout.size) :
    layout.read? raw field = some (layout.word raw field) := by
  rw [read?, Field.bytes?_eq_some (whole ▸ inside), Option.map_some, word]

theorem word_lt {width : Nat} (little : layout.order = .little) (narrow : field.width ≤ width)
    (fits : width ≤ 8) : (layout.word raw field).toNat < 2 ^ (8 * width) := by
  have short : ((raw.drop field.offset).take field.width).length ≤ width :=
    (List.length_take_le _ _).trans narrow
  rw [word, little, ByteOrder.toNat_value_little_of_short (short.trans fits), Nat.pow_mul]
  exact (ofDigits_bytes_lt _).trans_le (Nat.pow_le_pow_right (by decide) short)

theorem toNat_word_eq_halfWord (little : layout.order = .little) (double : field.width = 2)
    (inside : field.stop ≤ raw.length) :
    (layout.word raw field).toNat = halfWord raw field.offset := by
  have first : field.offset < raw.length := by simp only [Field.stop] at inside; omega
  have second : field.offset + 1 < raw.length := by simp only [Field.stop] at inside; omega
  have bytes : (raw.drop field.offset).take field.width =
      [raw[field.offset], raw[field.offset + 1]] := by
    rw [double, List.drop_eq_getElem_cons first, List.drop_eq_getElem_cons second]
    rfl
  rw [word, little, bytes, ByteOrder.toNat_value_little_of_short (by simp)]
  simp [halfWord, Nat.ofDigits_cons, first, second]

/-- Records of the right length hold the same integer in a field exactly if they
hold the same bytes there. -/
@[simp] theorem word_eq_iff_agree (little : layout.order = .little) (narrow : field.width ≤ 8)
    (lengths : first.length = second.length) :
    layout.word first field = layout.word second field ↔ field.Agree first second := by
  rw [word, word, little, ByteOrder.value_little_inj, Field.bytes_eq_iff_agree]
  · simp [lengths]
  · simp only [List.length_take]
    exact (Nat.min_le_left _ _).trans narrow

@[simp] theorem readU8?_eq_word (whole : raw.length = layout.size)
    (inside : field.stop ≤ layout.size) :
    layout.readU8? raw field = some (layout.word raw field).toUInt8 := by
  rw [readU8?, read?_eq_word whole inside, Option.map_some]

@[simp] theorem readU16?_eq_word (whole : raw.length = layout.size)
    (inside : field.stop ≤ layout.size) :
    layout.readU16? raw field = some (layout.word raw field).toUInt16 := by
  rw [readU16?, read?_eq_word whole inside, Option.map_some]

@[simp] theorem readU32?_eq_word (whole : raw.length = layout.size)
    (inside : field.stop ≤ layout.size) :
    layout.readU32? raw field = some (layout.word raw field).toUInt32 := by
  rw [readU32?, read?_eq_word whole inside, Option.map_some]

@[simp] theorem readBitField?_eq_extract {bit : BitField} (whole : raw.length = layout.size)
    (inside : field.stop ≤ layout.size) (inWord : bit.InWord) :
    layout.readBitField? raw field bit = some (bit.extract (layout.word raw field)) := by
  rw [readBitField?, if_pos inWord, read?_eq_word whole inside, Option.map_some]

section Narrow

variable (little : layout.order = .little) (lengths : first.length = second.length)
include little lengths

theorem cut_word_eq_iff_agree {α : Type} {cut : UInt64 → α} {width : Nat}
    (faithful : ∀ {left right : UInt64}, left.toNat < 2 ^ (8 * width) →
      right.toNat < 2 ^ (8 * width) → (cut left = cut right ↔ left = right))
    (narrow : field.width ≤ width) (fits : width ≤ 8) :
    cut (layout.word first field) = cut (layout.word second field) ↔
      field.Agree first second := by
  rw [faithful (word_lt little narrow fits) (word_lt little narrow fits)]
  exact word_eq_iff_agree little (narrow.trans fits) lengths

@[simp] theorem toUInt8_word_eq_iff_agree (narrow : field.width ≤ 1) :
    (layout.word first field).toUInt8 = (layout.word second field).toUInt8 ↔
      field.Agree first second :=
  cut_word_eq_iff_agree little lengths toUInt8_inj narrow (by decide)

@[simp] theorem toUInt16_word_eq_iff_agree (narrow : field.width ≤ 2) :
    (layout.word first field).toUInt16 = (layout.word second field).toUInt16 ↔
      field.Agree first second :=
  cut_word_eq_iff_agree little lengths toUInt16_inj narrow (by decide)

@[simp] theorem toUInt32_word_eq_iff_agree (narrow : field.width ≤ 4) :
    (layout.word first field).toUInt32 = (layout.word second field).toUInt32 ↔
      field.Agree first second :=
  cut_word_eq_iff_agree little lengths toUInt32_inj narrow (by decide)

variable (layout field) in
/-- A packed field of two bytes that is read as a lower piece of at most eight bits
and an upper piece keeps all its bytes. -/
theorem extract_word_eq_iff_agree (narrow : field.width ≤ 2) (low high : BitField)
    (bottom : low.lsb = 0) (adjacent : high.lsb = low.msb + 1) (top : high.msb = 15)
    (lowNarrow : low.msb < 8) :
    (low.extract (layout.word first field)).toUInt8 =
        (low.extract (layout.word second field)).toUInt8 ∧
      (high.extract (layout.word first field)).toUInt16 =
        (high.extract (layout.word second field)).toUInt16 ↔
      field.Agree first second := by
  have lowInside : low.InWord := by simp only [BitField.InWord]; omega
  have highInside : high.InWord := by simp only [BitField.InWord]; omega
  have lowWidth : low.width ≤ 8 := by simp only [BitField.width]; omega
  have highWidth : high.width ≤ 16 := by simp only [BitField.width]; omega
  have fits : ∀ raw, (layout.word raw field).toNat < 2 ^ (high.msb + 1) := by
    intro raw
    rw [top]
    exact word_lt little narrow (by decide)
  rw [toUInt8_inj (low.extract_lt lowInside lowWidth _) (low.extract_lt lowInside lowWidth _),
    toUInt16_inj (high.extract_lt highInside highWidth _) (high.extract_lt highInside highWidth _),
    BitField.extract_inj lowInside highInside bottom adjacent (fits first) (fits second)]
  exact word_eq_iff_agree little (narrow.trans (by decide)) lengths

end Narrow

end Layout

end AcceleratorTrace
