import AcceleratorTrace.Proofs.LayoutTiling
import Mathlib

/-!
# What a read means

The number in a field is the one that its bytes write in base 256, in the order of
the layout, cut to the width of the read.  A bit field is a range of binary digits of
its parent.  Each bit field moved back to its place contributes its own digits and no
others, so the bit fields of a packed field add up to the digits that they share out.
-/

namespace AcceleratorTrace

namespace ByteOrder

/-- The number that bytes write in base 256, however many there are. -/
def number : ByteOrder → List UInt8 → Nat
  | .little, bytes => Nat.ofDigits 256 (bytes.map UInt8.toNat)
  | .big, bytes => Nat.ofDigits 256 (bytes.reverse.map UInt8.toNat)

theorem value_big (bytes : List UInt8) :
    ByteOrder.big.value bytes = ByteOrder.little.value bytes.reverse := by
  simp only [value, List.foldr_reverse]

theorem toNat_value (order : ByteOrder) (bytes : List UInt8) :
    (order.value bytes).toNat = order.number bytes % 2 ^ 64 := by
  cases order with
  | little => exact toNat_value_little bytes
  | big =>
      rw [value_big]
      exact toNat_value_little bytes.reverse

end ByteOrder

namespace Layout

variable {layout : Layout} {field : Field} {raw : List UInt8}

theorem read?_of_inside (inside : field.stop ≤ raw.length) :
    layout.read? raw field = some (layout.word raw field) := by
  rw [read?, Field.bytes?_eq_some inside, Option.map_some, word]

theorem read?_cut {α : Type} (inside : field.stop ≤ raw.length) (cut : UInt64 → α)
    (toNat : α → Nat) {bits : Nat} (narrow : bits ≤ 64)
    (cuts : ∀ word, toNat (cut word) = word.toNat % 2 ^ bits) :
    ((layout.read? raw field).map cut).map toNat =
      some (layout.order.number ((raw.drop field.offset).take field.width) % 2 ^ bits) := by
  have divides : 2 ^ bits ∣ 2 ^ 64 := Nat.pow_dvd_pow 2 narrow
  rw [read?_of_inside inside, Option.map_some, Option.map_some, cuts, word, ByteOrder.toNat_value,
    Nat.mod_mod_of_dvd _ divides]

end Layout

theorem add_eq_or_of_disjoint {first second : Nat} (firstFits : first < 2 ^ 64)
    (secondFits : second < 2 ^ 64)
    (disjoint : ∀ position, first.testBit position = true → second.testBit position = false) :
    first + second = first ||| second := by
  have apart : BitVec.ofNat 64 first &&& BitVec.ofNat 64 second = 0#64 := by
    apply BitVec.eq_of_toNat_eq
    rw [BitVec.toNat_and, BitVec.toNat_ofNat, BitVec.toNat_ofNat, Nat.mod_eq_of_lt firstFits,
      Nat.mod_eq_of_lt secondFits]
    apply Nat.eq_of_testBit_eq
    intro position
    cases held : first.testBit position with
    | false => simp [held]
    | true => simp [disjoint position held]
  have sum := BitVec.toNat_add_of_and_eq_zero apart
  rw [BitVec.add_eq_or_of_and_eq_zero _ _ apart, BitVec.toNat_or, BitVec.toNat_ofNat,
    BitVec.toNat_ofNat, Nat.mod_eq_of_lt firstFits, Nat.mod_eq_of_lt secondFits] at sum
  exact sum.symm

namespace BitField

variable {bit : BitField} {bits : List BitField}

/-- The bits of the parent in the field, at their places in the parent. -/
def placed (bit : BitField) (parent : UInt64) : Nat :=
  (bit.extract parent).toNat * 2 ^ bit.lsb

def placedSum (bits : List BitField) (parent : UInt64) : Nat :=
  (bits.map fun bit => bit.placed parent).sum

theorem testBit_placed (inside : bit.InWord) (parent : UInt64) (position : Nat) :
    (bit.placed parent).testBit position =
      (bit.covers position && parent.toNat.testBit position) := by
  rw [placed, toNat_extract inside, Nat.testBit_mul_two_pow, Nat.testBit_mod_two_pow,
    Nat.testBit_div_two_pow]
  by_cases above : bit.lsb ≤ position
  · have place : position - bit.lsb + bit.lsb = position := Nat.sub_add_cancel above
    have range : position - bit.lsb < bit.width ↔ position ≤ bit.msb := by
      have ordered := inside.1
      simp only [width]
      omega
    simp [covers, above, place, range]
  · simp [covers, above]

theorem placed_lt (inside : bit.InWord) (parent : UInt64) : bit.placed parent < 2 ^ 64 := by
  apply Nat.lt_pow_two_of_testBit
  intro position high
  have past : parent.toNat.testBit position = false :=
    Nat.testBit_lt_two_pow (parent.toNat_lt.trans_le (Nat.pow_le_pow_right (by decide) high))
  rw [testBit_placed inside, past, Bool.and_false]

theorem extract_congr (inside : bit.InWord) {first second : UInt64}
    (same : ∀ position, bit.covers position = true →
      first.toNat.testBit position = second.toNat.testBit position) :
    bit.extract first = bit.extract second := by
  apply UInt64.toNat_inj.mp
  have places : bit.placed first = bit.placed second := by
    apply Nat.eq_of_testBit_eq
    intro position
    rw [testBit_placed inside, testBit_placed inside]
    cases covered : bit.covers position with
    | false => rfl
    | true => rw [same position covered]
  exact Nat.eq_of_mul_eq_mul_right (Nat.two_pow_pos bit.lsb) places

/-- Bit fields that share no bit add up to the bits of the parent that they cover. -/
theorem testBit_placedSum (inside : ∀ bit ∈ bits, bit.InWord)
    (disjoint : ∀ position, bits.countP (fun bit => bit.covers position) ≤ 1)
    (parent : UInt64) :
    placedSum bits parent < 2 ^ 64 ∧
      ∀ position, (placedSum bits parent).testBit position =
        (bits.any (fun bit => bit.covers position) && parent.toNat.testBit position) := by
  induction bits with
  | nil =>
      constructor
      · exact Nat.two_pow_pos 64
      · intro position
        exact Nat.zero_testBit position
  | cons bit rest induction =>
      rw [List.forall_mem_cons] at inside
      simp only [List.countP_cons] at disjoint
      obtain ⟨restFits, restBits⟩ := induction inside.2 fun position =>
        (Nat.le_add_right _ _).trans (disjoint position)
      have bitFits := placed_lt inside.1 parent
      have apart : ∀ position, (bit.placed parent).testBit position = true →
          (placedSum rest parent).testBit position = false := by
        intro position held
        rw [testBit_placed inside.1, Bool.and_eq_true] at held
        have once := disjoint position
        rw [if_pos held.1] at once
        have free : rest.countP (fun bit => bit.covers position) = 0 := by omega
        rw [List.countP_eq_zero] at free
        rw [restBits, List.any_eq_false.mpr free, Bool.false_and]
      have split :
          placedSum (bit :: rest) parent = bit.placed parent ||| placedSum rest parent := by
        rw [← add_eq_or_of_disjoint bitFits restFits apart]
        exact List.sum_cons
      rw [split]
      constructor
      · exact Nat.or_lt_two_pow bitFits restFits
      · intro position
        rw [Nat.testBit_or, testBit_placed inside.1, restBits, List.any_cons,
          Bool.and_or_distrib_right]

end BitField

namespace Field.Packs

variable {field : Field}

theorem inWord (packs : field.Packs) {bit : BitField} (member : bit ∈ field.bits) :
    bit.InWord := by
  have narrow := packs.narrow (List.ne_nil_of_mem member)
  have inside := packs.inside bit member
  exact ⟨inside.1, by omega⟩

/-- Bit fields that leave no bit of the field out add up to all of it. -/
theorem placedSum_eq (packs : field.Packs) (parent : UInt64)
    (cover : ∀ position < 8 * field.width, ∃ bit ∈ field.bits, bit.covers position = true) :
    BitField.placedSum field.bits parent = parent.toNat % 2 ^ (8 * field.width) := by
  have sum := BitField.testBit_placedSum (fun bit => packs.inWord) packs.disjoint parent
  apply Nat.eq_of_testBit_eq
  intro position
  rw [sum.2, Nat.testBit_mod_two_pow]
  congr 1
  rw [Bool.eq_iff_iff, List.any_eq_true, decide_eq_true_iff]
  constructor
  · rintro ⟨bit, member, covered⟩
    have inside := packs.inside bit member
    simp only [BitField.covers, decide_eq_true_eq] at covered
    omega
  · exact cover position

end Field.Packs

namespace Layout

theorem packs_of_check {layout : Layout} (checked : layout.check = .ok ()) {field : Field}
    (member : field ∈ layout.fields) : field.Packs :=
  (((check_eq_ok_iff_adjoin layout).mp checked).2.2 field member).2.1

/-- A read of a field inside the record gives the number of its bytes, in the byte order
of the layout and cut to the width of the read.  In a layout that passes the check, a bit
field is the digits of its parent from `lsb` to `msb`, the bit fields of a field add up to
the digits that they cover, and no other digit has a part in what a bit field holds. -/
theorem reads_mean_what_the_layout_says (layout : Layout) :
    (∀ (raw : List UInt8) (field : Field), field.stop ≤ raw.length →
      let number := layout.order.number ((raw.drop field.offset).take field.width)
      (layout.read? raw field).map UInt64.toNat = some (number % 2 ^ 64) ∧
      (layout.readU8? raw field).map UInt8.toNat = some (number % 2 ^ 8) ∧
      (layout.readU16? raw field).map UInt16.toNat = some (number % 2 ^ 16) ∧
      (layout.readU32? raw field).map UInt32.toNat = some (number % 2 ^ 32)) ∧
    (layout.check = .ok () → ∀ field ∈ layout.fields, ∀ parent : UInt64,
      let sum := (field.bits.map fun bit => (bit.extract parent).toNat * 2 ^ bit.lsb).sum
      (∀ bit ∈ field.bits, (bit.extract parent).toNat =
        parent.toNat / 2 ^ bit.lsb % 2 ^ (bit.msb - bit.lsb + 1)) ∧
      (∀ position, sum.testBit position =
        (field.bits.any (fun bit => bit.covers position) && parent.toNat.testBit position)) ∧
      ((∀ position < 8 * field.width, ∃ bit ∈ field.bits, bit.covers position = true) →
        sum = parent.toNat % 2 ^ (8 * field.width)) ∧
      (∀ bit ∈ field.bits, ∀ changed : UInt64,
        (∀ position, bit.covers position = true →
          changed.toNat.testBit position = parent.toNat.testBit position) →
        bit.extract changed = bit.extract parent) ∧
      (∀ raw : List UInt8, layout.read? raw field = some parent →
        ∀ bit ∈ field.bits, layout.readBitField? raw field bit = some (bit.extract parent))) := by
  constructor
  · intro raw field inside number
    refine ⟨?_, ?_, ?_, ?_⟩
    · have full := @read?_cut layout field raw _ inside id UInt64.toNat 64 (Nat.le_refl 64)
        fun word => (Nat.mod_eq_of_lt word.toNat_lt).symm
      rwa [Option.map_id_fun, id_eq] at full
    · exact read?_cut inside UInt64.toUInt8 UInt8.toNat (by decide) UInt64.toNat_toUInt8
    · exact read?_cut inside UInt64.toUInt16 UInt16.toNat (by decide) UInt64.toNat_toUInt16
    · exact read?_cut inside UInt64.toUInt32 UInt32.toNat (by decide) UInt64.toNat_toUInt32
  · intro checked field member parent sum
    have packs := packs_of_check checked member
    refine ⟨?_, ?_, packs.placedSum_eq parent, ?_, ?_⟩
    · intro bit bitMember
      have width : bit.width = bit.msb - bit.lsb + 1 := by
        have ordered := (packs.inside bit bitMember).1
        simp only [BitField.width]
        omega
      rw [BitField.toNat_extract (packs.inWord bitMember), width]
    · exact (BitField.testBit_placedSum (fun bit => packs.inWord) packs.disjoint parent).2
    · intro bit bitMember changed same
      exact BitField.extract_congr (packs.inWord bitMember) same
    · intro raw found bit bitMember
      rw [readBitField?, if_pos (packs.inWord bitMember), found, Option.map_some]

/-- Ten bytes, the most significant first, of which a read keeps the last eight, and a
packed field of two bytes with all its bits in two bit fields. -/
theorem reads_mean_what_the_layout_says_ten_bytes :
    let head : Field := ⟨"head", 0, 10, []⟩
    let flags : Field := ⟨"flags", 10, 2, [⟨"low", 5, 0⟩, ⟨"high", 15, 6⟩]⟩
    let layout : Layout := ⟨"wide", 12, .big, [head, flags]⟩
    let raw : List UInt8 := [1, 2, 3, 4, 5, 6, 7, 8, 9, 10, 0xAB, 0xCD]
    head.stop ≤ raw.length ∧ layout.check = .ok () ∧
      (layout.read? raw head).map UInt64.toNat = some (0x0102030405060708090A % 2 ^ 64) ∧
      (layout.readU16? raw head).map UInt16.toNat = some (0x0102030405060708090A % 2 ^ 16) ∧
      ∀ parent : UInt64,
        (flags.bits.map fun bit => (bit.extract parent).toNat * 2 ^ bit.lsb).sum =
          parent.toNat % 2 ^ 16 := by
  intro head flags layout raw
  have inside : head.stop ≤ raw.length := by decide
  have checked : layout.check = .ok () := by decide
  have number : layout.order.number ((raw.drop head.offset).take head.width) =
      0x0102030405060708090A := by decide
  obtain ⟨reads, packed⟩ := reads_mean_what_the_layout_says layout
  have wide := reads raw head inside
  simp only [number] at wide
  refine ⟨inside, checked, wide.1, wide.2.2.1, ?_⟩
  intro parent
  have cover : ∀ position < 8 * flags.width,
      ∃ bit ∈ flags.bits, bit.covers position = true := by decide
  exact (packed checked flags (by decide) parent).2.2.1 cover

end Layout

end AcceleratorTrace
