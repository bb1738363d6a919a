import AcceleratorTrace.Proofs.FieldBytes
import Mathlib

/-!
# Layouts that tile their record

`Layout.check` walks the fields with a cursor and the bit fields of a packed field
with a mask of the bits used so far.  What it decides says nothing of cursors and
masks: every byte lies in exactly one field, and no bit in two bit fields.  A record
of the right length can then be read field by field, and the fields put together
again are the record.
-/

namespace AcceleratorTrace

namespace BitField

/-- The field includes a bit position. -/
def covers (bit : BitField) (position : Nat) : Bool :=
  decide (bit.lsb ≤ position ∧ position ≤ bit.msb)

theorem toNat_lowBits (width : Nat) : (lowBits width).toNat = 2 ^ min width 64 - 1 := by
  unfold lowBits
  split
  · rename_i wide
    rw [Nat.min_eq_right wide]
    rfl
  · rename_i narrow
    have small : width < 64 := Nat.lt_of_not_le narrow
    have amount : (UInt64.ofNat width).toNat % 64 = width := by
      rw [UInt64.toNat_ofNat_of_lt' (by simp only [UInt64.size]; omega)]
      exact Nat.mod_eq_of_lt small
    have power : ((1 : UInt64) <<< UInt64.ofNat width).toNat = 2 ^ width := by
      rw [UInt64.toNat_shiftLeft, amount, UInt64.toNat_one, Nat.one_shiftLeft]
      exact Nat.mod_eq_of_lt (Nat.pow_lt_pow_right (by decide) small)
    have positive : (1 : UInt64) ≤ 1 <<< UInt64.ofNat width := by
      rw [UInt64.le_iff_toNat_le, power]
      exact Nat.two_pow_pos width
    rw [UInt64.toNat_sub_of_le _ _ positive, power, Nat.min_eq_left small.le]
    rfl

theorem testBit_mask {bit : BitField} (inside : bit.InWord) (position : Nat) :
    bit.mask.toNat.testBit position = bit.covers position := by
  obtain ⟨ordered, high⟩ := inside
  have amount : (UInt64.ofNat bit.lsb).toNat % 64 = bit.lsb := by
    rw [UInt64.toNat_ofNat_of_lt' (by simp only [UInt64.size]; omega)]
    exact Nat.mod_eq_of_lt (by omega)
  have width : min bit.width 64 = bit.msb + 1 - bit.lsb := by
    simp only [BitField.width]
    omega
  rw [mask, UInt64.toNat_shiftLeft, amount, toNat_lowBits, width, Nat.testBit_mod_two_pow,
    Nat.testBit_shiftLeft, Nat.testBit_two_pow_sub_one, Bool.eq_iff_iff]
  simp only [covers, Bool.and_eq_true, decide_eq_true_eq]
  omega

end BitField

theorem and_eq_zero_iff_testBit (first second : UInt64) :
    first &&& second = 0 ↔
      ∀ position, first.toNat.testBit position = true →
        second.toNat.testBit position = false := by
  rw [← UInt64.toNat_inj, UInt64.toNat_and, UInt64.toNat_zero]
  constructor
  · intro empty position held
    have absent := congrArg (fun word => word.testBit position) empty
    simpa [held] using absent
  · intro apart
    apply Nat.eq_of_testBit_eq
    intro position
    rw [Nat.testBit_and, Nat.zero_testBit]
    cases held : first.toNat.testBit position with
    | false => rfl
    | true => exact apart position held

/-- What a field of a sound layout says about its bit fields. -/
structure Field.Packs (field : Field) : Prop where
  narrow : field.bits ≠ [] → field.width ≤ 8
  inside : ∀ bit ∈ field.bits, bit.lsb ≤ bit.msb ∧ bit.msb < 8 * field.width
  disjoint : ∀ position, field.bits.countP (fun bit => bit.covers position) ≤ 1

namespace Layout

/-- The mask stands for the bits used so far: none of them may be used again. -/
theorem checkBits_eq_ok_iff {field : Field} (narrow : field.width ≤ 8) (used : UInt64)
    (bits : List BitField) :
    checkBits field used bits = .ok () ↔
      (∀ bit ∈ bits, bit.lsb ≤ bit.msb ∧ bit.msb < 8 * field.width) ∧
        ∀ position, (used.toNat.testBit position).toNat +
          bits.countP (fun bit => bit.covers position) ≤ 1 := by
  induction bits generalizing used with
  | nil =>
      simp only [checkBits, List.not_mem_nil, List.countP_nil]
      simp [Bool.toNat_le]
  | cons bit rest induction =>
      simp only [checkBits, List.forall_mem_cons, List.countP_cons]
      by_cases outside : bit.msb < bit.lsb ∨ field.width * 8 ≤ bit.msb
      · rw [if_pos outside]
        constructor
        · nofun
        · intro sound
          omega
      · have inside : bit.lsb ≤ bit.msb ∧ bit.msb < 8 * field.width := by omega
        have inWord : bit.InWord := ⟨inside.1, by omega⟩
        have maskBit := BitField.testBit_mask inWord
        rw [if_neg outside]
        by_cases free : used &&& bit.mask = 0
        · have apart := (and_eq_zero_iff_testBit used bit.mask).mp free
          rw [if_neg (not_not.mpr free), induction, and_iff_right inside]
          apply and_congr_right
          intro _
          apply forall_congr'
          intro position
          -- Both sides count how often the position is used, the mask of this field included.
          have once := apart position
          rw [maskBit] at once
          rw [UInt64.toNat_or, Nat.testBit_or, maskBit]
          cases held : used.toNat.testBit position with
          | false => cases bit.covers position <;> simp [Nat.add_comm]
          | true => simp [once held]
        · rw [if_pos free]
          constructor
          · nofun
          · intro sound
            apply absurd _ free
            apply (and_eq_zero_iff_testBit used bit.mask).mpr
            intro position held
            have count := sound.2 position
            rw [maskBit]
            cases covered : bit.covers position with
            | false => rfl
            | true =>
                rw [held, covered] at count
                simp at count

theorem checkField_eq_ok_iff (cursor : Nat) (field : Field) :
    checkField cursor field = .ok () ↔
      0 < field.width ∧ field.offset = cursor ∧ field.Packs := by
  unfold checkField
  by_cases empty : field.width = 0
  · rw [if_pos empty]
    constructor
    · nofun
    · intro sound
      omega
  by_cases misplaced : field.offset ≠ cursor
  · rw [if_neg empty, if_pos misplaced]
    constructor
    · nofun
    · intro sound
      exact absurd sound.2.1 misplaced
  rw [if_neg empty, if_neg misplaced]
  have placed : field.offset = cursor := not_not.mp misplaced
  by_cases wide : field.bits ≠ [] ∧ 8 < field.width
  · rw [if_pos wide]
    constructor
    · nofun
    · intro sound
      have narrow := sound.2.2.narrow wide.1
      omega
  rw [if_neg wide]
  by_cases plain : field.bits = []
  · have packs : field.Packs := by
      constructor
      · intro packed
        exact absurd plain packed
      · simp [plain]
      · simp [plain]
    rw [plain]
    exact iff_of_true rfl ⟨Nat.pos_of_ne_zero empty, placed, packs⟩
  · have narrow : field.width ≤ 8 := by
      by_contra long
      exact wide ⟨plain, by omega⟩
    rw [checkBits_eq_ok_iff narrow]
    constructor
    · intro sound
      refine ⟨Nat.pos_of_ne_zero empty, placed, fun _ => narrow, sound.1, ?_⟩
      intro position
      simpa using sound.2 position
    · intro sound
      refine ⟨sound.2.2.inside, ?_⟩
      intro position
      simpa using sound.2.2.disjoint position

end Layout

namespace Field

/-- The field includes the byte at a place. -/
def covers (field : Field) (place : Nat) : Bool :=
  decide (field.offset ≤ place ∧ place < field.stop)

/-- Fields that stand one after the other from the first offset to the second. -/
inductive Adjoin : Nat → List Field → Nat → Prop where
  | nil (cursor : Nat) : Adjoin cursor [] cursor
  | cons {cursor stop : Nat} {field : Field} {rest : List Field} (placed : field.offset = cursor)
      (later : Adjoin field.stop rest stop) : Adjoin cursor (field :: rest) stop

theorem countP_covers_of_before {fields : List Field} {place : Nat}
    (before : ∀ field ∈ fields, place < field.offset) :
    fields.countP (fun field => field.covers place) = 0 := by
  rw [List.countP_eq_zero]
  intro field member covered
  have start := before field member
  simp only [covers, decide_eq_true_eq] at covered
  omega

namespace Adjoin

variable {cursor stop : Nat} {fields : List Field}

theorem le (adjoin : Adjoin cursor fields stop) : cursor ≤ stop := by
  induction adjoin with
  | nil => exact Nat.le_refl _
  | cons placed _ induction =>
      simp only [Field.stop] at induction
      omega

theorem bounds (adjoin : Adjoin cursor fields stop) :
    ∀ field ∈ fields, cursor ≤ field.offset ∧ field.stop ≤ stop := by
  induction adjoin with
  | nil => nofun
  | @cons cursor stop first rest placed later induction =>
      intro field member
      rcases List.mem_cons.mp member with here | there
      · subst here
        exact ⟨placed.ge, later.le⟩
      · have inRest := induction field there
        simp only [Field.stop] at inRest ⊢
        omega

theorem ordered (adjoin : Adjoin cursor fields stop) (wide : ∀ field ∈ fields, 0 < field.width) :
    fields.Pairwise fun first second => first.offset < second.offset := by
  induction adjoin with
  | nil => exact .nil
  | @cons cursor stop first rest placed later induction =>
      rw [List.forall_mem_cons] at wide
      apply List.Pairwise.cons
      · intro second member
        have start := (later.bounds second member).1
        have positive := wide.1
        simp only [Field.stop] at start
        omega
      · exact induction wide.2

theorem countP_covers (adjoin : Adjoin cursor fields stop) {place : Nat} (start : cursor ≤ place)
    (inside : place < stop) : fields.countP (fun field => field.covers place) = 1 := by
  induction adjoin with
  | nil => omega
  | @cons cursor stop first rest placed later induction =>
      rw [List.countP_cons]
      by_cases here : place < first.stop
      · have others : rest.countP (fun field => field.covers place) = 0 := by
          apply countP_covers_of_before
          intro field member
          exact here.trans_le (later.bounds field member).1
        have own : first.covers place = true := decide_eq_true ⟨placed.le.trans start, here⟩
        rw [others, if_pos own]
      · have other : ¬ first.covers place = true := by
          simp [covers, here]
        rw [if_neg other, induction (Nat.le_of_not_lt here) inside]

/-- Conversely, ordered fields that cover every place once leave no gap and do not
overlap. -/
theorem of_countP_covers (reach : cursor ≤ stop) (wide : ∀ field ∈ fields, 0 < field.width)
    (ordered : fields.Pairwise fun first second => first.offset < second.offset)
    (bounds : ∀ field ∈ fields, cursor ≤ field.offset ∧ field.stop ≤ stop)
    (once : ∀ place, cursor ≤ place → place < stop →
      fields.countP (fun field => field.covers place) = 1) :
    Adjoin cursor fields stop := by
  induction fields generalizing cursor with
  | nil =>
      have equal : cursor = stop := by
        by_contra gap
        exact absurd (once cursor (Nat.le_refl _) (by omega)) (by simp)
      rw [equal]
      exact .nil stop
  | cons first rest induction =>
      rw [List.forall_mem_cons] at wide bounds
      obtain ⟨after, restOrdered⟩ := List.pairwise_cons.mp ordered
      have firstWide := wide.1
      have firstBounds := bounds.1
      have firstStop : first.stop = first.offset + first.width := rfl
      -- No field starts before the first, so the place at the cursor is in it.
      have placed : first.offset = cursor := by
        by_contra gap
        have early : ∀ field ∈ first :: rest, cursor < field.offset := by
          rw [List.forall_mem_cons]
          constructor
          · omega
          · intro field member
            have later := after field member
            omega
        have covered := once cursor (Nat.le_refl _) (by omega)
        rw [countP_covers_of_before early] at covered
        cases covered
      -- A later field that started inside the first would share its own first byte with it.
      have apart : ∀ field ∈ rest, first.stop ≤ field.offset := by
        intro field member
        by_contra overlap
        have later := after field member
        have fieldWide := wide.2 field member
        have fieldBounds := bounds.2 field member
        have own : first.covers field.offset = true := decide_eq_true ⟨later.le, by omega⟩
        have other : field.covers field.offset = true :=
          decide_eq_true ⟨Nat.le_refl _, by simp only [Field.stop]; omega⟩
        have twice := once field.offset fieldBounds.1 (by simp only [Field.stop] at *; omega)
        rw [List.countP_cons, if_pos own] at twice
        have positive : 0 < rest.countP fun candidate => candidate.covers field.offset :=
          List.countP_pos_iff.mpr ⟨field, member, other⟩
        omega
      apply Adjoin.cons placed
      apply induction firstBounds.2 wide.2 restOrdered
      · intro field member
        exact ⟨apart field member, (bounds.2 field member).2⟩
      · intro place start inside
        have covered := once place (by omega) inside
        have outside : ¬ first.covers place = true := by
          simp only [covers, decide_eq_true_eq]
          omega
        rwa [List.countP_cons, if_neg outside] at covered

/-- The bytes of adjoining fields, put together, are those between the two offsets. -/
theorem mapM_bytes? (adjoin : Adjoin cursor fields stop) {raw : List UInt8}
    (inside : stop ≤ raw.length) :
    ∃ parts, fields.mapM (fun field => field.bytes? raw) = some parts ∧
      parts.flatten = (raw.drop cursor).take (stop - cursor) := by
  induction adjoin with
  | nil cursor => exact ⟨[], rfl, by simp⟩
  | @cons cursor stop field rest placed later induction =>
      obtain ⟨parts, found, joined⟩ := induction inside
      have reach := later.le
      have own := bytes?_eq_some (reach.trans inside)
      refine ⟨(raw.drop field.offset).take field.width :: parts, ?_, ?_⟩
      · simp [own, found]
      · have length : stop - cursor = field.width + (stop - field.stop) := by
          simp only [Field.stop] at reach ⊢
          omega
        rw [List.flatten_cons, joined, length, List.take_add, List.drop_drop, ← placed]
        rfl

end Adjoin

end Field

namespace Layout

/-- What a sound layout says about its record. -/
structure Tiles (layout : Layout) : Prop where
  nonempty : 0 < layout.size
  once : ∀ place < layout.size, layout.fields.countP (fun field => field.covers place) = 1
  ordered : layout.fields.Pairwise fun first second => first.offset < second.offset
  wide : ∀ field ∈ layout.fields, 0 < field.width
  inside : ∀ field ∈ layout.fields, field.stop ≤ layout.size
  packs : ∀ field ∈ layout.fields, field.Packs

theorem checkFields_eq_ok_iff (cursor stop : Nat) (fields : List Field) :
    checkFields cursor fields = .ok stop ↔
      Field.Adjoin cursor fields stop ∧
        ∀ field ∈ fields, 0 < field.width ∧ field.Packs ∧ field.stop < UInt64.size := by
  induction fields generalizing cursor with
  | nil =>
      simp only [checkFields, Except.ok.injEq]
      constructor
      · intro equal
        subst equal
        exact ⟨.nil cursor, by simp⟩
      · intro sound
        cases sound.1
        rfl
  | cons field rest induction =>
      have checked := checkField_eq_ok_iff cursor field
      simp only [checkFields, List.forall_mem_cons]
      cases outcome : checkField cursor field with
      | error fault =>
          rw [outcome] at checked
          constructor
          · nofun
          · intro sound
            cases sound.1 with
            | cons placed _ =>
                exact absurd (checked.mpr ⟨sound.2.1.1, placed, sound.2.1.2.1⟩) nofun
      | ok value =>
          obtain ⟨positive, placed, packs⟩ := checked.mp outcome
          simp only
          by_cases small : field.stop < UInt64.size
          · rw [if_pos small, induction]
            constructor
            · intro sound
              exact ⟨.cons placed sound.1, ⟨positive, packs, small⟩, sound.2⟩
            · intro sound
              cases sound.1 with
              | cons _ later => exact ⟨later, sound.2.2⟩
          · rw [if_neg small]
            constructor
            · nofun
            · intro sound
              exact absurd sound.2.1.2.2 small

theorem check_eq_ok_iff_adjoin (layout : Layout) :
    layout.check = .ok () ↔
      0 < layout.size ∧ Field.Adjoin 0 layout.fields layout.size ∧
        ∀ field ∈ layout.fields, 0 < field.width ∧ field.Packs ∧ field.stop < UInt64.size := by
  have checked := checkFields_eq_ok_iff 0
  unfold check
  by_cases empty : layout.size = 0
  · rw [if_pos empty]
    constructor
    · nofun
    · intro sound
      omega
  rw [if_neg empty, and_iff_right (Nat.pos_of_ne_zero empty), ← checked]
  cases checkFields 0 layout.fields with
  | error fault => exact iff_of_false nofun nofun
  | ok covered =>
      by_cases whole : covered = layout.size
      · simp [whole]
      · simp [whole]

theorem tiles_iff_adjoin (layout : Layout) :
    layout.Tiles ↔
      0 < layout.size ∧ Field.Adjoin 0 layout.fields layout.size ∧
        ∀ field ∈ layout.fields, 0 < field.width ∧ field.Packs := by
  constructor
  · intro tiles
    refine ⟨tiles.nonempty, ?_, ?_⟩
    · apply Field.Adjoin.of_countP_covers (Nat.zero_le _) tiles.wide tiles.ordered
      · intro field member
        exact ⟨Nat.zero_le _, tiles.inside field member⟩
      · intro place _ inside
        exact tiles.once place inside
    · intro field member
      exact ⟨tiles.wide field member, tiles.packs field member⟩
  · intro sound
    obtain ⟨nonempty, adjoin, fields⟩ := sound
    constructor
    · exact nonempty
    · intro place inside
      exact adjoin.countP_covers (Nat.zero_le _) inside
    · exact adjoin.ordered fun field member => (fields field member).1
    · exact fun field member => (fields field member).1
    · exact fun field member => (adjoin.bounds field member).2
    · exact fun field member => (fields field member).2

theorem length_of_checkLength {layout : Layout} {raw : List UInt8}
    (whole : layout.checkLength raw = .ok ()) : raw.length = layout.size := by
  unfold checkLength at whole
  split at whole
  · cases whole
  · rename_i same
    exact not_not.mp same

/-- A layout passes the check exactly if it tiles its record.  Of a record with the
length that such a layout asks for, every field and every bit field can be read, and
the fields in order give back the record. -/
theorem check_decides_tiling (layout : Layout)
    (fits : ∀ field ∈ layout.fields, field.stop < UInt64.size) :
    (layout.check = .ok () ↔ layout.Tiles) ∧
      (layout.check = .ok () → ∀ raw, layout.checkLength raw = .ok () →
        (∀ field ∈ layout.fields, ∃ bytes, field.bytes? raw = some bytes ∧
          bytes.length = field.width ∧
          layout.read? raw field = some (layout.order.value bytes) ∧
          ∀ bit ∈ field.bits, layout.readBitField? raw field bit =
            some (bit.extract (layout.order.value bytes))) ∧
        ∃ parts, layout.fields.mapM (fun field => field.bytes? raw) = some parts ∧
          parts.flatten = raw) := by
  constructor
  · rw [check_eq_ok_iff_adjoin, tiles_iff_adjoin]
    constructor
    · intro sound
      refine ⟨sound.1, sound.2.1, ?_⟩
      intro field member
      exact ⟨(sound.2.2 field member).1, (sound.2.2 field member).2.1⟩
    · intro sound
      refine ⟨sound.1, sound.2.1, ?_⟩
      intro field member
      exact ⟨(sound.2.2 field member).1, (sound.2.2 field member).2, fits field member⟩
  · intro checked raw whole
    obtain ⟨-, adjoin, sound⟩ := (check_eq_ok_iff_adjoin layout).mp checked
    have length := length_of_checkLength whole
    constructor
    · intro field member
      have inside := (adjoin.bounds field member).2
      have own := Field.bytes?_eq_some (length ▸ inside)
      refine ⟨(raw.drop field.offset).take field.width, own, ?_, ?_, ?_⟩
      · rw [List.length_take, List.length_drop]
        simp only [Field.stop] at inside
        omega
      · exact read?_eq_word length inside
      · intro bit bitMember
        have packs := (sound field member).2.1
        have narrow := packs.narrow (List.ne_nil_of_mem bitMember)
        have bitInside := packs.inside bit bitMember
        exact readBitField?_eq_extract length inside ⟨bitInside.1, by omega⟩
    · obtain ⟨parts, found, joined⟩ := adjoin.mapM_bytes? length.ge
      refine ⟨parts, found, ?_⟩
      rw [joined, List.drop_zero, Nat.sub_zero, List.take_of_length_le length.le]

/-- A word of 64 bits with one bit field on all of them, after a head of two bytes. -/
theorem check_decides_tiling_full_word :
    let layout : Layout := ⟨"wide", 10, .little,
      [⟨"head", 0, 2, []⟩, ⟨"word", 2, 8, [⟨"all", 63, 0⟩]⟩]⟩
    layout.check = .ok () ∧ layout.Tiles ∧
      ∀ raw, layout.checkLength raw = .ok () →
        ∃ parts, layout.fields.mapM (fun field => field.bytes? raw) = some parts ∧
          parts.flatten = raw := by
  intro layout
  have checked : layout.check = .ok () := by decide
  obtain ⟨decides, reads⟩ := check_decides_tiling layout (by decide)
  exact ⟨checked, decides.mp checked, fun raw whole => (reads checked raw whole).2⟩

end Layout

end AcceleratorTrace
