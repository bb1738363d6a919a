import AcceleratorTrace.SliceName
import Mathlib

/-!
# The grammar of slice names

A name is read exactly if it is the stem of an engine, a mark, a numeral, a second
mark and a second numeral, with nothing before or after, and both numerals fit 32
bits.  The parts of a name are found by their marks alone, so a name has one reading,
and it does not matter which characters count as digits while the parts are sought.
-/

namespace AcceleratorTrace

/-- Decimal digits, the most significant first, with the number they stand for.
There is at least one digit; zeros in front are digits like any other. -/
inductive Numeral : List Char → Nat → Prop where
  | single {digit : Nat} (small : digit < 10) : Numeral [digit.digitChar] digit
  | append {digits : List Char} {value digit : Nat} (front : Numeral digits value)
      (small : digit < 10) : Numeral (digits ++ [digit.digitChar]) (10 * value + digit)

theorem digitValue_digitChar {digit : Nat} (small : digit < 10) :
    digitValue digit.digitChar = digit := by
  have code := Nat.toNat_digitChar_of_lt_ten small
  have zero : '0'.toNat = 48 := rfl
  rw [digitValue]
  omega

theorem exists_digitChar {char : Char} (digit : char.isDigit = true) :
    digitValue char < 10 ∧ (digitValue char).digitChar = char := by
  simp only [Char.isDigit, Bool.and_eq_true, decide_eq_true_eq] at digit
  have least : 48 ≤ char.toNat := digit.1
  have greatest : char.toNat ≤ 57 := digit.2
  have value : digitValue char = char.toNat - 48 := rfl
  have small : digitValue char < 10 := by omega
  refine ⟨small, ?_⟩
  apply Char.toNat_inj.mp
  rw [Nat.toNat_digitChar_of_lt_ten small]
  omega

theorem digitsValue_append (digits : List Char) (char : Char) :
    digitsValue (digits ++ [char]) = 10 * digitsValue digits + digitValue char := by
  simp [digitsValue]

namespace Numeral

variable {digits : List Char} {value : Nat}

theorem ne_nil (numeral : Numeral digits value) : digits ≠ [] := by
  cases numeral with
  | single small => exact List.cons_ne_nil _ _
  | append front small => exact List.append_ne_nil_of_right_ne_nil _ (List.cons_ne_nil _ _)

theorem isDigit (numeral : Numeral digits value) :
    ∀ char ∈ digits, char.isDigit = true := by
  induction numeral with
  | single small => simpa [Nat.isDigit_digitChar] using small
  | append front small induction =>
      intro char member
      rcases List.mem_append.mp member with early | last
      · exact induction char early
      · rw [List.mem_singleton.mp last, Nat.isDigit_digitChar]
        exact decide_eq_true small

theorem digitsValue_eq (numeral : Numeral digits value) : digitsValue digits = value := by
  induction numeral with
  | single small =>
      refine (digitsValue_append [] _).trans ?_
      rw [digitValue_digitChar small]
      exact Nat.zero_add _
  | append front small induction =>
      rw [digitsValue_append, induction, digitValue_digitChar small]

theorem of_isDigit (nonempty : digits ≠ []) (all : ∀ char ∈ digits, char.isDigit = true) :
    Numeral digits (digitsValue digits) := by
  -- Digits are added to the value at the end, so the last one is split off.
  induction digits using List.reverseRecOn with
  | nil => exact absurd rfl nonempty
  | append_singleton front last induction =>
      obtain ⟨small, char⟩ := exists_digitChar (all last (by simp))
      rw [digitsValue_append]
      by_cases empty : front = []
      · subst empty
        have alone := single small
        rw [char] at alone
        simpa [digitsValue] using alone
      · have before := induction empty fun char member => all char (by simp [member])
        have whole := append before small
        rw [char] at whole
        exact whole

theorem toDigits (number : Nat) : Numeral (Nat.toDigits 10 number) number := by
  induction number using Nat.strong_induction_on with
  | _ number induction =>
      by_cases small : number < 10
      · rw [Nat.toDigits_of_lt_base small]
        exact single small
      · have front := induction (number / 10) (by omega)
        have whole := append front (Nat.mod_lt number (by decide : 10 > 0))
        rw [Nat.div_add_mod] at whole
        rw [Nat.toDigits_of_base_le (by decide) (by omega)]
        exact whole

end Numeral

namespace SliceName

/-- The name that is put together of a stem and two numerals. -/
def joined (stem device slice : List Char) : List Char :=
  stem ++ ".data.".toList ++ device ++ ".slice_".toList ++ slice

theorem joined_eq (stem device slice : List Char) :
    joined stem device slice = stem ++ (dataMark ++ (device ++ (sliceMark ++ slice))) := by
  have marks : joined stem device slice = stem ++ dataMark ++ device ++ sliceMark ++ slice := rfl
  rw [marks]
  simp only [List.append_assoc]

/-- The text is a name of the engine with these numbers, whatever their size. -/
def Spells (text : String) (engine : Engine) (device slice : Nat) : Prop :=
  ∃ deviceDigits sliceDigits, Numeral deviceDigits device ∧ Numeral sliceDigits slice ∧
    text.toList = joined engine.stem.toList deviceDigits sliceDigits

/-- The parts that a pattern finds in a name: a stem of small letters and underscores
and two runs of what the pattern takes for digits. -/
structure Parts (isDigit : Char → Bool) (text stem device slice : List Char) : Prop where
  stemSome : stem ≠ []
  stemChars : ∀ char ∈ stem, char.isLower = true ∨ char = '_'
  deviceSome : device ≠ []
  deviceChars : ∀ char ∈ device, isDigit char = true
  sliceSome : slice ≠ []
  sliceChars : ∀ char ∈ slice, isDigit char = true
  text_eq : text = joined stem device slice

theorem append_dot_inj {first second firstRest secondRest : List Char} (firstPlain : '.' ∉ first)
    (secondPlain : '.' ∉ second) (same : first ++ '.' :: firstRest = second ++ '.' :: secondRest) :
    first = second ∧ firstRest = secondRest := by
  induction first generalizing second with
  | nil =>
      cases second with
      | nil => exact ⟨rfl, List.cons.inj same |>.2⟩
      | cons char rest =>
          obtain ⟨rfl, -⟩ := List.cons.inj same
          exact absurd List.mem_cons_self secondPlain
  | cons char rest induction =>
      cases second with
      | nil =>
          obtain ⟨rfl, -⟩ := List.cons.inj same
          exact absurd List.mem_cons_self firstPlain
      | cons other others =>
          obtain ⟨rfl, later⟩ := List.cons.inj same
          rw [List.mem_cons, not_or] at firstPlain secondPlain
          obtain ⟨rfl, rests⟩ := induction firstPlain.2 secondPlain.2 later
          exact ⟨rfl, rests⟩

theorem joined_inj {stem device slice otherStem otherDevice otherSlice : List Char}
    (stemPlain : '.' ∉ stem) (otherStemPlain : '.' ∉ otherStem) (devicePlain : '.' ∉ device)
    (otherDevicePlain : '.' ∉ otherDevice)
    (same : joined stem device slice = joined otherStem otherDevice otherSlice) :
    stem = otherStem ∧ device = otherDevice ∧ slice = otherSlice := by
  rw [joined_eq, joined_eq] at same
  -- Both marks begin with a dot.
  obtain ⟨stems, rest⟩ := append_dot_inj stemPlain otherStemPlain same
  obtain ⟨devices, rest⟩ :=
    append_dot_inj devicePlain otherDevicePlain (List.append_cancel_left rest)
  exact ⟨stems, devices, List.append_cancel_left rest⟩

theorem plain_of_isDigit {digits : List Char} {isDigit : Char → Bool}
    (dot : isDigit '.' = false) (all : ∀ char ∈ digits, isDigit char = true) : '.' ∉ digits := by
  intro member
  have digit := all '.' member
  rw [dot] at digit
  cases digit

theorem plain_of_stem {stem : List Char}
    (all : ∀ char ∈ stem, char.isLower = true ∨ char = '_') : '.' ∉ stem := by
  intro member
  have letter := all '.' member
  revert letter
  decide

theorem Parts.unique {isDigit : Char → Bool} {text stem device slice otherStem otherDevice
    otherSlice : List Char} (dot : isDigit '.' = false)
    (parts : Parts isDigit text stem device slice)
    (others : Parts isDigit text otherStem otherDevice otherSlice) :
    stem = otherStem ∧ device = otherDevice ∧ slice = otherSlice := by
  apply joined_inj
  · exact plain_of_stem parts.stemChars
  · exact plain_of_stem others.stemChars
  · exact plain_of_isDigit dot parts.deviceChars
  · exact plain_of_isDigit dot others.deviceChars
  · rw [← parts.text_eq, ← others.text_eq]

theorem stem_chars (engine : Engine) :
    engine.stem.toList ≠ [] ∧ ∀ char ∈ engine.stem.toList, char.isLower = true ∨ char = '_' := by
  cases engine <;> simp [Engine.stem]

theorem stem_inj {first second : Engine} (same : first.stem.toList = second.stem.toList) :
    first = second := by
  revert same
  cases first <;> cases second <;> decide

theorem ofStem?_eq_some_iff {stem : List Char} {engine : Engine} :
    Engine.ofStem? (String.ofList stem) = some engine ↔ engine.stem.toList = stem := by
  constructor
  · intro found
    have same : engine.stem = String.ofList stem := by simpa using List.find?_some found
    rw [same, String.toList_ofList]
  · intro same
    rw [← same, String.ofList_toList]
    cases engine <;> decide

/-- A name has one reading, even if numbers of any size are allowed. -/
theorem Spells.unique {text : String} {engine otherEngine : Engine}
    {device slice otherDevice otherSlice : Nat} (spells : Spells text engine device slice)
    (others : Spells text otherEngine otherDevice otherSlice) :
    engine = otherEngine ∧ device = otherDevice ∧ slice = otherSlice := by
  obtain ⟨deviceDigits, sliceDigits, deviceNumeral, sliceNumeral, whole⟩ := spells
  obtain ⟨otherDeviceDigits, otherSliceDigits, otherDeviceNumeral, otherSliceNumeral, otherWhole⟩ :=
    others
  rw [whole] at otherWhole
  obtain ⟨stems, rfl, rfl⟩ := joined_inj (plain_of_stem (stem_chars engine).2)
    (plain_of_stem (stem_chars otherEngine).2) (plain_of_isDigit rfl deviceNumeral.isDigit)
    (plain_of_isDigit rfl otherDeviceNumeral.isDigit) otherWhole
  refine ⟨stem_inj stems, ?_, ?_⟩
  · rw [← deviceNumeral.digitsValue_eq, otherDeviceNumeral.digitsValue_eq]
  · rw [← sliceNumeral.digitsValue_eq, otherSliceNumeral.digitsValue_eq]

theorem number?_eq_some_iff {digits : List Char} {value : UInt32} :
    number? digits = some value ↔ Numeral digits value.toNat := by
  constructor
  · intro found
    rw [number?] at found
    split at found
    · cases found
    · rename_i digitsOnly
      split at found
      · rename_i fits
        obtain rfl := Option.some.inj found
        rw [UInt32.toNat_ofNat_of_lt' fits]
        simp only [Bool.or_eq_true, List.isEmpty_iff, Bool.not_eq_true', not_or,
          Bool.not_eq_false, List.all_eq_true] at digitsOnly
        exact .of_isDigit digitsOnly.1 digitsOnly.2
      · cases found
  · intro numeral
    have fits : digitsValue digits < UInt32.size := by
      rw [numeral.digitsValue_eq]
      exact value.toNat_lt
    have digitsOnly : ¬ (digits.isEmpty || !digits.all Char.isDigit) = true := by
      simpa [numeral.ne_nil] using numeral.isDigit
    rw [number?, if_neg digitsOnly, if_pos fits, numeral.digitsValue_eq, UInt32.ofNat_toNat]

theorem span_digits {digits : List Char} (all : ∀ char ∈ digits, char.isDigit = true)
    (rest : List Char) :
    (digits ++ (sliceMark ++ rest)).takeWhile Char.isDigit = digits ∧
      (digits ++ (sliceMark ++ rest)).dropWhile Char.isDigit = sliceMark ++ rest := by
  rw [List.takeWhile_append_of_pos all, List.dropWhile_append_of_pos all]
  exact ⟨List.append_nil digits, rfl⟩

theorem parseFor?_eq_some_iff {engine : Engine} {text : List Char} {name : SliceName} :
    parseFor? engine text = some name ↔ name.engine = engine ∧ ∃ device slice,
      number? device = some name.device ∧ number? slice = some name.slice ∧
        text = joined engine.stem.toList device slice := by
  constructor
  · intro found
    simp only [parseFor?, bind, pure, Option.bind_eq_some_iff, Option.some.injEq,
      List.isPrefixOf?_eq_some_iff_append_eq] at found
    obtain ⟨afterStem, stem, numbers, mark, device, readDevice, digits, secondMark, slice,
      readSlice, rfl⟩ := found
    refine ⟨rfl, _, _, readDevice, readSlice, ?_⟩
    have whole := List.takeWhile_append_dropWhile (p := Char.isDigit) (l := numbers)
    rw [← secondMark] at whole
    rw [joined_eq, whole, mark, stem]
  · intro ⟨owner, device, slice, readDevice, readSlice, whole⟩
    subst owner
    obtain ⟨taken, dropped⟩ := span_digits (number?_eq_some_iff.mp readDevice).isDigit slice
    have stem : name.engine.stem.toList.isPrefixOf? text =
        some (dataMark ++ (device ++ (sliceMark ++ slice))) := by
      rw [List.isPrefixOf?_eq_some_iff_append_eq, whole, joined_eq]
    have mark : dataMark.isPrefixOf? (dataMark ++ (device ++ (sliceMark ++ slice))) =
        some (device ++ (sliceMark ++ slice)) := List.isPrefixOf?_eq_some_iff_append_eq.mpr rfl
    have secondMark : sliceMark.isPrefixOf? (sliceMark ++ slice) = some slice :=
      List.isPrefixOf?_eq_some_iff_append_eq.mpr rfl
    simp only [parseFor?, bind, pure, stem, Option.bind_some, mark, taken, readDevice, dropped,
      secondMark, readSlice]

theorem parseFor?_eq_some_iff_spells {engine : Engine} {text : String} {name : SliceName} :
    parseFor? engine text.toList = some name ↔
      name.engine = engine ∧ Spells text engine name.device.toNat name.slice.toNat := by
  rw [parseFor?_eq_some_iff]
  simp only [number?_eq_some_iff, Spells]

theorem parse?_eq_some_iff_spells {text : String} {name : SliceName} :
    parse? text = some name ↔ Spells text name.engine name.device.toNat name.slice.toNat := by
  have sound : ∀ found, parse? text = some found →
      Spells text found.engine found.device.toNat found.slice.toNat := by
    intro found read
    obtain ⟨engine, -, readFor⟩ := List.exists_of_findSome?_eq_some read
    obtain ⟨rfl, spells⟩ := parseFor?_eq_some_iff_spells.mp readFor
    exact spells
  constructor
  · exact sound name
  · intro spells
    have readFor : parseFor? name.engine text.toList = some name :=
      parseFor?_eq_some_iff_spells.mpr ⟨rfl, spells⟩
    have member : name.engine ∈ Engine.all := by cases name.engine <;> decide
    obtain ⟨found, read⟩ : ∃ found, parse? text = some found := by
      apply Option.isSome_iff_exists.mp
      apply List.findSome?_isSome_iff.mpr
      exact ⟨name.engine, member, by rw [readFor]; rfl⟩
    -- The engine asked first may be another one, but a name has only one reading.
    obtain ⟨engines, devices, slices⟩ := (sound found read).unique spells
    rw [UInt32.toNat_inj] at devices slices
    rw [read]
    cases found
    cases name
    simp_all

theorem parse?_eq_none_iff {text : String} :
    parse? text = none ↔ ∀ engine device slice, Spells text engine device slice →
      2 ^ 32 ≤ device ∨ 2 ^ 32 ≤ slice := by
  rw [Option.eq_none_iff_forall_ne_some]
  constructor
  · intro unread engine device slice spells
    by_contra small
    rw [not_or, not_le, not_le] at small
    apply unread ⟨engine, UInt32.ofNat device, UInt32.ofNat slice⟩
    rw [parse?_eq_some_iff_spells, UInt32.toNat_ofNat_of_lt' small.1,
      UInt32.toNat_ofNat_of_lt' small.2]
    exact spells
  · intro large name read
    have deviceFits := name.device.toNat_lt
    have sliceFits := name.slice.toNat_lt
    rcases large _ _ _ (parse?_eq_some_iff_spells.mp read) with device | slice
    · omega
    · omega

theorem spells_render (name : SliceName) :
    Spells name.render name.engine name.device.toNat name.slice.toNat := by
  refine ⟨_, _, .toDigits _, .toDigits _, ?_⟩
  have text : ∀ text : String, toString text = text := fun _ => rfl
  simp [render, joined, text]

/-- Names may also be taken apart by their pattern first, with more digits than the ten
decimal ones.  Digits that are not decimal then make the numbers unreadable. -/
theorem parse?_eq_some_iff_parts {isDigit : Char → Bool}
    (decimal : ∀ char, char.isDigit = true → isDigit char = true)
    {text : String} {name : SliceName} :
    parse? text = some name ↔ ∃ stem device slice,
      Parts isDigit text.toList stem device slice ∧
        Engine.ofStem? (String.ofList stem) = some name.engine ∧
        number? device = some name.device ∧ number? slice = some name.slice := by
  simp only [parse?_eq_some_iff_spells, number?_eq_some_iff, ofStem?_eq_some_iff]
  constructor
  · intro ⟨device, slice, deviceNumeral, sliceNumeral, whole⟩
    refine ⟨_, device, slice, ?_, rfl, deviceNumeral, sliceNumeral⟩
    obtain ⟨stemSome, stemChars⟩ := stem_chars name.engine
    exact ⟨stemSome, stemChars, deviceNumeral.ne_nil,
      fun char member => decimal char (deviceNumeral.isDigit char member), sliceNumeral.ne_nil,
      fun char member => decimal char (sliceNumeral.isDigit char member), whole⟩
  · intro ⟨stem, device, slice, parts, owner, deviceNumeral, sliceNumeral⟩
    refine ⟨device, slice, deviceNumeral, sliceNumeral, ?_⟩
    rw [owner]
    exact parts.text_eq

/-- A text is read as a slice name exactly if the grammar makes it one and both of its
numbers fit 32 bits.  The grammar is unambiguous, the name without leading zeros is read
back, and taking the text apart by a pattern with a wider notion of digit first finds the
parts in one way only and makes no difference. -/
theorem parse?_reads_exactly_the_grammar (text : String) :
    (∀ name, parse? text = some name ↔
        Spells text name.engine name.device.toNat name.slice.toNat) ∧
      (parse? text = none ↔ ∀ engine device slice, Spells text engine device slice →
        2 ^ 32 ≤ device ∨ 2 ^ 32 ≤ slice) ∧
      (∀ engine device slice otherEngine otherDevice otherSlice,
        Spells text engine device slice → Spells text otherEngine otherDevice otherSlice →
          engine = otherEngine ∧ device = otherDevice ∧ slice = otherSlice) ∧
      (∀ name : SliceName, text = name.render → parse? text = some name) ∧
      ∀ isDigit : Char → Bool, (∀ char, char.isDigit = true → isDigit char = true) →
        isDigit '.' = false →
        (∀ stem device slice otherStem otherDevice otherSlice,
          Parts isDigit text.toList stem device slice →
          Parts isDigit text.toList otherStem otherDevice otherSlice →
            stem = otherStem ∧ device = otherDevice ∧ slice = otherSlice) ∧
        ∀ name, parse? text = some name ↔ ∃ stem device slice,
          Parts isDigit text.toList stem device slice ∧
            Engine.ofStem? (String.ofList stem) = some name.engine ∧
            number? device = some name.device ∧ number? slice = some name.slice := by
  refine ⟨fun name => parse?_eq_some_iff_spells, parse?_eq_none_iff, ?_, ?_, ?_⟩
  · intro engine device slice otherEngine otherDevice otherSlice spells others
    exact spells.unique others
  · intro name canonical
    rw [canonical, parse?_eq_some_iff_spells]
    exact spells_render name
  · intro isDigit decimal dot
    refine ⟨?_, fun name => parse?_eq_some_iff_parts decimal⟩
    intro stem device slice otherStem otherDevice otherSlice parts others
    exact parts.unique dot others

example : parse? "qos.data.00000000007.slice_4294967295" = some ⟨.qos, 7, 4294967295⟩ ∧
    parse? "qos.data.7.slice_4294967296" = none ∧ parse? "qos.data.+7.slice_0" = none :=
  ⟨by cbv, by cbv, by cbv⟩

end SliceName

end AcceleratorTrace
