import AcceleratorTrace.Descriptor
import AcceleratorTrace.Proofs.FirstError
import AcceleratorTrace.Proofs.JsonNumbers

/-!
# The values of a descriptor

Each member of a descriptor has a reader of its own.  A value of the right kind is read
exactly, whatever follows it, and an integer is read only if it fits.  A reader that
succeeds on any text stops where passing over the value would have stopped, so it never
takes a part of a value for the whole.
-/

namespace AcceleratorTrace

open Json (Blank Delimited NumberText Spells Written integerText)

namespace Reading

variable {before rest : List Char}

theorem number_digit (expected : String) {char : Char} (isDigit : char.isDigit = true)
    (text : List Char) :
    number expected (char :: text) = ofText (Json.readNumber false (char :: text)) := by
  obtain ⟨small, same⟩ := exists_digitChar isDigit
  rw [← same]
  generalize digitValue char = digit at small
  interval_cases digit <;> rfl

theorem number_blank (expected : String) (isBefore : Blank before) (text : List Char) :
    number expected (before ++ text) = number expected text := by
  rw [number, number, Json.skipSpace_blank isBefore]

theorem number_text (expected : String) (number : NumberText) (delimited : Delimited rest) :
    Reading.number expected (number.text ++ rest) =
      ofText (number.reading.map fun value => (value, rest)) := by
  have read := number.readNumber_magnitude delimited
  rw [NumberText.text]
  cases sign : number.negative with
  | true =>
      rw [sign] at read
      rw [← read]
      rfl
  | false =>
      rw [sign] at read
      obtain ⟨first, later, split, isDigit⟩ := number.whole.head
      rw [← read, if_neg Bool.false_ne_true, NumberText.magnitude, split]
      exact number_digit expected isDigit _

section Integers

variable {least greatest : Int} (expected : String) {value : Int}

theorem integerBetween_inside (wide : -2 ^ 63 ≤ least ∧ greatest < 2 ^ 64)
    (inside : least ≤ value ∧ value ≤ greatest) (isBefore : Blank before)
    (delimited : Delimited rest) :
    integerBetween least greatest expected (before ++ (integerText value ++ rest)) =
      .ok (value, rest) := by
  have exactly : (NumberText.ofInt value).reading = .ok (.integer value) :=
    NumberText.reading_ofInt_eq_integer_iff.mpr ⟨rfl, by omega, by omega⟩
  rw [integerBetween, number_blank expected isBefore, ← NumberText.text_ofInt,
    number_text expected _ delimited, exactly]
  exact if_pos inside

theorem between_of_integerBetween {found : Int × List Char} (isBefore : Blank before)
    (delimited : Delimited rest)
    (read : integerBetween least greatest expected (before ++ (integerText value ++ rest)) =
      .ok found) : least ≤ value ∧ value ≤ greatest := by
  rw [integerBetween, number_blank expected isBefore, ← NumberText.text_ofInt,
    number_text expected _ delimited] at read
  cases reading : (NumberText.ofInt value).reading with
  | error fault =>
      rw [reading] at read
      contradiction
  | ok number =>
      rw [reading] at read
      cases number with
      | real real => contradiction
      | integer other =>
          obtain ⟨rfl, -⟩ := NumberText.reading_ofInt_eq_integer_iff.mp reading
          simp only [Except.map, ofText, Except.mapError] at read
          split at read
          · assumption
          · contradiction

end Integers

theorem unsigned_text (value : UInt64) (isBefore : Blank before) (delimited : Delimited rest) :
    unsigned (before ++ (integerText value.toNat ++ rest)) = .ok (value, rest) := by
  have size : UInt64.size = 2 ^ 64 := rfl
  have small := value.toNat_lt
  rw [unsigned,
    integerBetween_inside _ ⟨by omega, by omega⟩ ⟨by omega, by omega⟩ isBefore delimited]
  simp [Except.map]

theorem signed_text (value : Int64) (isBefore : Blank before) (delimited : Delimited rest) :
    signed (before ++ (integerText value.toInt ++ rest)) = .ok (value, rest) := by
  have least : Int64.minValue.toInt = -2 ^ 63 := rfl
  have greatest : Int64.maxValue.toInt = 2 ^ 63 - 1 := rfl
  have above := value.le_toInt
  have below := value.toInt_lt
  rw [signed, integerBetween_inside _ ⟨by omega, by omega⟩ ⟨by omega, by omega⟩ isBefore delimited]
  simp [Except.map]

/-- Where no word starts, an optional integer is an integer. -/
theorem optionalSigned_blank (isBefore : Blank before) {text : List Char} {first : Char}
    {later : List Char} (split : text = first :: later) (solid : Json.isSpace first = false)
    (other : first ≠ 'n') :
    optionalSigned (before ++ text) =
      (signed text).map fun (value, rest) => (some value, rest) := by
  subst split
  rw [optionalSigned, Json.skipSpace_blank_solid isBefore solid]
  split
  · next same => exact absurd (List.cons.inj same).1 other
  · rfl

theorem integerText_head (value : Int) :
    ∃ first later, integerText value = first :: later ∧ Json.isSpace first = false ∧
      first ≠ 'n' := by
  rw [← NumberText.text_ofInt]
  obtain ⟨first, later, split, start⟩ := (NumberText.ofInt value).head
  obtain ⟨_, _, same, inner⟩ := (Written.number (.ofInt value)).head
  rw [split] at same
  obtain ⟨rfl, -⟩ := List.cons.inj same
  refine ⟨first, later, split, Json.isSpace_of_isDelimiter inner, ?_⟩
  rintro rfl
  exact absurd start (by decide)

theorem optionalSigned_text (value : Int64) (isBefore : Blank before)
    (delimited : Delimited rest) :
    optionalSigned (before ++ (integerText value.toInt ++ rest)) = .ok (some value, rest) := by
  obtain ⟨first, later, split, solid, other⟩ := integerText_head value.toInt
  have read := signed_text value Json.blank_nil delimited
  rw [List.nil_append, split] at read
  rw [split, List.cons_append, optionalSigned_blank isBefore rfl solid other]
  simp only [List.cons_append] at read
  rw [read]
  rfl

theorem optionalSigned_null (isBefore : Blank before) :
    optionalSigned (before ++ (['n', 'u', 'l', 'l'] ++ rest)) = .ok (none, rest) := by
  simp only [List.cons_append, List.nil_append]
  rw [optionalSigned, Json.skipSpace_blank_solid isBefore rfl]
  rfl

theorem double_text {number : NumberText} {value : Float} (same : number.double? = some value)
    (isBefore : Blank before) (delimited : Delimited rest) :
    double (before ++ (number.text ++ rest)) = .ok (value, rest) := by
  rw [NumberText.double?] at same
  rw [double, number_blank _ isBefore, number_text _ _ delimited]
  split at same
  · next found =>
      rw [found, ← Option.some.inj same]
      rfl
  · next found =>
      rw [found, ← Option.some.inj same]
      rfl
  · contradiction

/-- The texts of a chip: its name, or an object with the name as its only key. -/
inductive ChipText (chip : Chip) : List Char → Prop where
  | name {body : List Char} (spells : Spells chip.name.toList body) :
      ChipText chip ('"' :: (body ++ ['"']))
  | object {body beforeKey beforeColon beforeNull afterNull : List Char}
      (spells : Spells chip.name.toList body) (isBeforeKey : Blank beforeKey)
      (isBeforeColon : Blank beforeColon) (isBeforeNull : Blank beforeNull)
      (isAfterNull : Blank afterNull) :
      ChipText chip
        ('\x7b' :: (beforeKey ++ '"' :: (body ++ '"' :: (beforeColon ++ ':' ::
          (beforeNull ++ (['n', 'u', 'l', 'l'] ++ (afterNull ++ ['\x7d'])))))))

theorem ofName?_name (chip : Chip) : Chip.ofName? chip.name = some chip := by
  cases chip <;> rfl

theorem chipName_spells {chip : Chip} {body : List Char} (spells : Spells chip.name.toList body) :
    chipName (body ++ '"' :: rest) = .ok (chip, rest) := by
  rw [chipName, spells.readString]
  simp only [String.ofList_toList, ofName?_name]

theorem null_text (isBefore : Blank before) :
    null (before ++ 'n' :: 'u' :: 'l' :: 'l' :: rest) = .ok rest := by
  rw [null, Json.skipSpace_blank_solid isBefore rfl]
  rfl

theorem chip_text {chip : Chip} {text : List Char} (isText : ChipText chip text)
    (isBefore : Blank before) : Reading.chip (before ++ (text ++ rest)) = .ok (chip, rest) := by
  cases isText with
  | name spells =>
      simp only [List.cons_append, List.append_assoc, List.nil_append]
      rw [Reading.chip, Json.skipSpace_blank_solid isBefore rfl]
      exact chipName_spells spells
  | object spells isBeforeKey isBeforeColon isBeforeNull isAfterNull =>
      simp only [List.cons_append, List.append_assoc, List.nil_append]
      rw [Reading.chip, Json.skipSpace_blank_solid isBefore rfl]
      simp only
      rw [chipObject, Json.skipSpace_blank_solid isBeforeKey rfl]
      simp only [bind, Except.bind, chipName_spells spells, ofText, Except.mapError,
        Json.expectMark_blank isBeforeColon (show Json.isSpace ':' = false from rfl),
        null_text isBeforeNull,
        Json.expectMark_blank isAfterNull (show Json.isSpace '\x7d' = false from rfl)]
      rfl

theorem map_eq_ok {ε α β : Type} {reading : Except ε α} {convert : α → β} {result : β}
    (read : reading.map convert = .ok result) :
    ∃ found, reading = .ok found ∧ convert found = result := by
  cases reading with
  | error fault => contradiction
  | ok found => exact ⟨found, rfl, Except.ok.inj read⟩

theorem ofText_eq_ok {α : Type} {reading : Except Json.Fault α} {result : α}
    (read : ofText reading = .ok result) : reading = .ok result := by
  cases reading with
  | error fault => contradiction
  | ok found => rw [Except.ok.inj read]

theorem wrongType_ne_ok {α : Type} {expected : String} {text : List Char} {result : α} :
    wrongType expected text ≠ .ok result := by
  intro read
  unfold wrongType at read
  split at read <;> contradiction

section Agreement

variable {text : List Char} (fuel : Nat)

theorem number_skips {expected : String} {value : Json.Number}
    (read : number expected text = .ok (value, rest)) :
    Json.skipValueWith (fuel + 1) text = .ok rest := by
  unfold number at read
  split at read
  · next later start =>
      rw [Json.skipValueWith, start]
      exact Json.readNumber_skips (ofText_eq_ok read)
  · contradiction
  · next first later notSign start =>
      split at read
      · next isDigit =>
          have left := Json.readNumber_skips (ofText_eq_ok read)
          rw [Json.skipValueWith, start]
          obtain ⟨small, same⟩ := exists_digitChar isDigit
          rw [← same] at left ⊢
          generalize digitValue first = digit at small left ⊢
          interval_cases digit <;> exact left
      · exact absurd read wrongType_ne_ok

theorem integerBetween_skips {least greatest : Int} {expected : String} {value : Int}
    (read : integerBetween least greatest expected text = .ok (value, rest)) :
    Json.skipValueWith (fuel + 1) text = .ok rest := by
  unfold integerBetween at read
  split at read
  · contradiction
  · contradiction
  · next found =>
      split at read
      · obtain ⟨rfl, rfl⟩ := Prod.mk.inj (Except.ok.inj read)
        exact number_skips fuel found
      · contradiction

theorem unsigned_skips {value : UInt64} (read : unsigned text = .ok (value, rest)) :
    Json.skipValueWith (fuel + 1) text = .ok rest := by
  obtain ⟨⟨found, after⟩, between, same⟩ := map_eq_ok read
  obtain ⟨-, rfl⟩ := Prod.mk.inj same
  exact integerBetween_skips fuel between

theorem signed_skips {value : Int64} (read : signed text = .ok (value, rest)) :
    Json.skipValueWith (fuel + 1) text = .ok rest := by
  obtain ⟨⟨found, after⟩, between, same⟩ := map_eq_ok read
  obtain ⟨-, rfl⟩ := Prod.mk.inj same
  exact integerBetween_skips fuel between

theorem optionalSigned_skips {value : Option Int64}
    (read : optionalSigned text = .ok (value, rest)) :
    Json.skipValueWith (fuel + 1) text = .ok rest := by
  unfold optionalSigned at read
  split at read
  · next later start =>
      obtain ⟨after, word, same⟩ := map_eq_ok read
      obtain ⟨-, rfl⟩ := Prod.mk.inj same
      rw [Json.skipValueWith, start]
      exact ofText_eq_ok word
  · next other =>
      obtain ⟨⟨found, after⟩, number, same⟩ := map_eq_ok read
      obtain ⟨-, rfl⟩ := Prod.mk.inj same
      have left := signed_skips fuel number
      rw [Json.skipValueWith, Json.skipSpace_skipSpace] at left
      rw [Json.skipValueWith]
      exact left

theorem double_skips {value : Float} (read : double text = .ok (value, rest)) :
    Json.skipValueWith (fuel + 1) text = .ok rest := by
  obtain ⟨⟨found, after⟩, number, same⟩ := map_eq_ok read
  cases found with
  | integer integer =>
      obtain ⟨-, rfl⟩ := Prod.mk.inj same
      exact number_skips fuel number
  | real real =>
      obtain ⟨-, rfl⟩ := Prod.mk.inj same
      exact number_skips fuel number

theorem chipName_skips {chip : Chip} (read : chipName text = .ok (chip, rest)) :
    Json.skipString text = .ok rest := by
  unfold chipName at read
  split at read
  · contradiction
  · next found =>
      split at read
      · obtain ⟨-, rfl⟩ := Prod.mk.inj (Except.ok.inj read)
        exact Json.skipString_of_readString found
      · contradiction

theorem null_skips (read : null text = .ok rest) :
    Json.skipValueWith (fuel + 1) text = .ok rest := by
  unfold null at read
  split at read
  · next later start =>
      rw [Json.skipValueWith, start]
      exact ofText_eq_ok read
  · contradiction
  · exact absurd read wrongType_ne_ok

theorem expectMark_eq_ok {mark : Char} (read : ofText (Json.expectMark mark text) = .ok rest) :
    Json.expectMark mark text = .ok rest ∧ Json.skipSpace text = mark :: rest := by
  have found := ofText_eq_ok read
  refine ⟨found, ?_⟩
  unfold Json.expectMark at found
  split at found
  · contradiction
  · next first later start =>
      split at found
      · next same => rw [start, same, Except.ok.inj found]
      · contradiction

theorem chipObject_skips {chip : Chip} (read : chipObject text = .ok (chip, rest)) :
    (∃ later, Json.skipSpace text = '"' :: later) ∧
      Json.skipMembersWith (fuel + 2) text = .ok rest := by
  unfold chipObject at read
  split at read
  · next later start =>
      obtain ⟨⟨found, afterName⟩, name, read⟩ := bind_eq_ok read
      obtain ⟨afterColon, colon, read⟩ := bind_eq_ok read
      obtain ⟨afterNull, null, read⟩ := bind_eq_ok read
      obtain ⟨afterBrace, brace, read⟩ := bind_eq_ok read
      obtain ⟨-, rfl⟩ := Prod.mk.inj (Except.ok.inj read)
      have quote : Json.expectMark '"' text = .ok later := by
        rw [Json.expectMark, start]
        rfl
      refine ⟨⟨later, start⟩, ?_⟩
      rw [Json.skipMembersWith, quote]
      simp only [bind, Except.bind, chipName_skips name, (expectMark_eq_ok colon).1,
        null_skips fuel null, (expectMark_eq_ok brace).2]
  · contradiction

theorem chip_skips {chip : Chip} (read : Reading.chip text = .ok (chip, rest)) :
    Json.skipValueWith (fuel + 3) text = .ok rest := by
  unfold Reading.chip at read
  split at read
  · next later start =>
      rw [Json.skipValueWith, start]
      exact chipName_skips read
  · next later start =>
      obtain ⟨⟨inner, key⟩, left⟩ := chipObject_skips fuel read
      rw [← left, ← Json.skipValueWith_object key, Json.skipValueWith, Json.skipValueWith, start,
        Json.skipSpace_solid rfl]
  · contradiction

end Agreement

end Reading

namespace Descriptor

open Reading

namespace Draft

variable {draft filled : Draft} {member : Member} {text rest : List Char}

/-- A member that is filled in stops where passing over its value would have stopped. -/
theorem fill_skips (read : draft.fill member text = .ok (filled, rest)) (fuel : Nat) :
    Json.skipValueWith (fuel + 3) text = .ok rest := by
  cases member
  all_goals
    obtain ⟨⟨value, after⟩, found, same⟩ := map_eq_ok read
    obtain ⟨-, rfl⟩ := Prod.mk.inj same
  · exact chip_skips fuel found
  · exact unsigned_skips (fuel + 2) found
  · exact signed_skips (fuel + 2) found
  · exact double_skips (fuel + 2) found
  · exact optionalSigned_skips (fuel + 2) found
  · exact optionalSigned_skips (fuel + 2) found

theorem fill_rest {before value : List Char} (isBefore : Blank before) (written : Written value)
    (delimited : Delimited rest) {left : List Char}
    (read : draft.fill member (before ++ (value ++ rest)) = .ok (filled, left)) : left = rest := by
  have read := fill_skips read (2 * value.length)
  rw [Json.skipValueWith_blank isBefore, written.skips delimited (by omega)] at read
  exact (Except.ok.inj read).symm

theorem has_fill (read : draft.fill member text = .ok (filled, rest)) (other : Member) :
    filled.has other = (decide (other = member) || draft.has other) := by
  cases member
  all_goals
    obtain ⟨⟨value, after⟩, found, same⟩ := map_eq_ok read
    obtain ⟨rfl, -⟩ := Prod.mk.inj same
    cases other <;> rfl

end Draft

/-- The integers that a member can hold. -/
def Member.range? : Member → Option (Int × Int)
  | .referenceCycle => some (0, 2 ^ 64 - 1)
  | .referenceWallNs | .runStartNs | .runEndNs => some (-2 ^ 63, 2 ^ 63 - 1)
  | .chip | .frequency => none

theorem Draft.fill_inRange {draft : Draft} {member : Member} {least greatest value : Int}
    {before rest : List Char} {result : Draft × List Char}
    (range : member.range? = some (least, greatest)) (isBefore : Blank before)
    (delimited : Delimited rest)
    (read : draft.fill member (before ++ (integerText value ++ rest)) = .ok result) :
    least ≤ value ∧ value ≤ greatest := by
  have signedRange {found : Int64 × List Char} {before : List Char} (isBefore : Blank before)
      (read : signed (before ++ (integerText value ++ rest)) = .ok found) :
      -2 ^ 63 ≤ value ∧ value ≤ 2 ^ 63 - 1 := by
    obtain ⟨_, between, -⟩ := map_eq_ok read
    exact between_of_integerBetween _ isBefore delimited between
  have optionalRange {found : Option Int64 × List Char}
      (read : optionalSigned (before ++ (integerText value ++ rest)) = .ok found) :
      -2 ^ 63 ≤ value ∧ value ≤ 2 ^ 63 - 1 := by
    obtain ⟨first, later, split, solid, other⟩ := integerText_head value
    rw [split, List.cons_append, optionalSigned_blank isBefore rfl solid other] at read
    obtain ⟨_, inner, -⟩ := map_eq_ok read
    apply signedRange Json.blank_nil
    rw [split]
    exact inner
  cases member with
  | chip => contradiction
  | frequency => contradiction
  | referenceCycle =>
      obtain ⟨rfl, rfl⟩ := Prod.mk.inj (Option.some.inj range)
      obtain ⟨_, found, -⟩ := map_eq_ok read
      obtain ⟨_, between, -⟩ := map_eq_ok found
      exact between_of_integerBetween _ isBefore delimited between
  | referenceWallNs =>
      obtain ⟨rfl, rfl⟩ := Prod.mk.inj (Option.some.inj range)
      obtain ⟨_, found, -⟩ := map_eq_ok read
      exact signedRange isBefore found
  | runStartNs =>
      obtain ⟨rfl, rfl⟩ := Prod.mk.inj (Option.some.inj range)
      obtain ⟨_, found, -⟩ := map_eq_ok read
      exact optionalRange found
  | runEndNs =>
      obtain ⟨rfl, rfl⟩ := Prod.mk.inj (Option.some.inj range)
      obtain ⟨_, found, -⟩ := map_eq_ok read
      exact optionalRange found

/-- The texts of an end of the window, given or not. -/
def BoundText : Option Int64 → List Char → Prop
  | none, text => text = ['n', 'u', 'l', 'l']
  | some value, text => text = integerText value.toInt

variable (descriptor : Descriptor)

/-- The text is a value of the member that stands for what the descriptor has there. -/
def Gives : Member → List Char → Prop
  | .chip, text => ChipText descriptor.chip text
  | .referenceCycle, text => text = integerText descriptor.referenceCycle.toNat
  | .referenceWallNs, text => text = integerText descriptor.referenceWallNs.toInt
  | .frequency, text =>
      ∃ number : NumberText, number.double? = some descriptor.frequency ∧ text = number.text
  | .runStartNs, text => BoundText descriptor.runStartNs text
  | .runEndNs, text => BoundText descriptor.runEndNs text

/-- A text need not give the member. -/
def Omits : Member → Prop
  | .runStartNs => descriptor.runStartNs = none
  | .runEndNs => descriptor.runEndNs = none
  | _ => False

/-- The draft that has these members of the descriptor. -/
def draftOf (members : Finset Member) : Draft where
  chip := if .chip ∈ members then some descriptor.chip else none
  referenceCycle := if .referenceCycle ∈ members then some descriptor.referenceCycle else none
  referenceWallNs := if .referenceWallNs ∈ members then some descriptor.referenceWallNs else none
  frequency := if .frequency ∈ members then some descriptor.frequency else none
  runStartNs := if .runStartNs ∈ members then some descriptor.runStartNs else none
  runEndNs := if .runEndNs ∈ members then some descriptor.runEndNs else none

variable {descriptor}

theorem has_draftOf (members : Finset Member) (member : Member) :
    (descriptor.draftOf members).has member = decide (member ∈ members) := by
  cases member <;> simp only [Draft.has, draftOf] <;> split <;> simp [*]

theorem complete_draftOf {members : Finset Member}
    (omits : ∀ member, member ∉ members → descriptor.Omits member) :
    (descriptor.draftOf members).complete = .ok descriptor := by
  have required {member : Member} (needed : ¬ descriptor.Omits member) : member ∈ members := by
    by_contra missing
    exact needed (omits member missing)
  have chip : .chip ∈ members := required not_false
  have cycle : .referenceCycle ∈ members := required not_false
  have wall : .referenceWallNs ∈ members := required not_false
  have frequency : .frequency ∈ members := required not_false
  have start : (descriptor.draftOf members).runStartNs.join = descriptor.runStartNs := by
    by_cases given : .runStartNs ∈ members
    · simp [draftOf, given]
    · simp [draftOf, given, show descriptor.runStartNs = none from omits _ given]
  have stop : (descriptor.draftOf members).runEndNs.join = descriptor.runEndNs := by
    by_cases given : .runEndNs ∈ members
    · simp [draftOf, given]
    · simp [draftOf, given, show descriptor.runEndNs = none from omits _ given]
  rw [Draft.complete, start, stop]
  simp only [draftOf, chip, cycle, wall, frequency, if_true, Draft.require]
  rfl

theorem BoundText.optionalSigned {bound : Option Int64} {text before rest : List Char}
    (isText : BoundText bound text) (isBefore : Blank before) (delimited : Delimited rest) :
    optionalSigned (before ++ (text ++ rest)) = .ok (bound, rest) := by
  cases bound with
  | none =>
      rw [show text = ['n', 'u', 'l', 'l'] from isText]
      exact optionalSigned_null isBefore
  | some value =>
      rw [show text = integerText value.toInt from isText]
      exact optionalSigned_text value isBefore delimited

theorem Gives.fill {member : Member} {text before rest : List Char}
    (gives : descriptor.Gives member text) (isBefore : Blank before) (delimited : Delimited rest)
    (members : Finset Member) :
    (descriptor.draftOf members).fill member (before ++ (text ++ rest)) =
      .ok (descriptor.draftOf (insert member members), rest) := by
  cases member with
  | chip =>
      rw [Draft.fill, chip_text gives isBefore]
      simp [Except.map, draftOf]
  | referenceCycle =>
      rw [show text = _ from gives, Draft.fill, unsigned_text _ isBefore delimited]
      simp [Except.map, draftOf]
  | referenceWallNs =>
      rw [show text = _ from gives, Draft.fill, signed_text _ isBefore delimited]
      simp [Except.map, draftOf]
  | frequency =>
      obtain ⟨number, same, rfl⟩ := gives
      rw [Draft.fill, double_text same isBefore delimited]
      simp [Except.map, draftOf]
  | runStartNs =>
      rw [Draft.fill, BoundText.optionalSigned gives isBefore delimited]
      simp [Except.map, draftOf]
  | runEndNs =>
      rw [Draft.fill, BoundText.optionalSigned gives isBefore delimited]
      simp [Except.map, draftOf]

end Descriptor

end AcceleratorTrace
