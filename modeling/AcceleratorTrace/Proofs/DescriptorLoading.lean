import AcceleratorTrace.Proofs.DescriptorText
import AcceleratorTrace.Proofs.DoubleRange
import AcceleratorTrace.Run.Config

/-!
# Loading descriptors

The descriptor of a run directory is the one that its text gives, however it is laid out.
The only value that can be lost is a frequency within a few places of the greatest double;
any other frequency is read as a finite double with its sign, near the number in the text.
-/

namespace AcceleratorTrace.Descriptor

open Json (Blank NumberText Spells Written integerText)

/-- The descriptor file of a run directory has this text. -/
def Stands (read : FilePath → Except FileFault (List UInt8)) (runDirectory : String)
    (text : List Char) : Prop :=
  read (Path.join runDirectory descriptorName) = .ok (String.ofList text).toUTF8.data.toList

theorem load_of_stands {read : FilePath → Except FileFault (List UInt8)} {runDirectory : String}
    {text : List Char} (stands : Stands read runDirectory text) :
    load read runDirectory =
      (parse (String.ofList text)).mapError
        (.unparsable (Path.join runDirectory descriptorName)) := by
  have bytes : read (Path.join runDirectory descriptorName) = _ := stands
  have decoded := textOfBytes?_eq_some_iff.mpr (Eq.refl (String.ofList text).toUTF8.data.toList)
  simp only [load, bytes, decoded]
  cases parse (String.ofList text) with
  | error fault => rfl
  | ok descriptor => rfl

section Loading

variable {read : FilePath → Except FileFault (List UInt8)} {runDirectory : String}
  {text : List Char}

theorem load_eq_ok {descriptor : Descriptor} (stands : Stands read runDirectory text)
    (parsed : parse (String.ofList text) = .ok descriptor) :
    load read runDirectory = .ok descriptor := by
  rw [load_of_stands stands, parsed]
  rfl

theorem exists_load_eq_error (stands : Stands read runDirectory text)
    (refused : ∀ descriptor, parse (String.ofList text) ≠ .ok descriptor) :
    ∃ fault, load read runDirectory =
      .error (.unparsable (Path.join runDirectory descriptorName) fault) := by
  rw [load_of_stands stands]
  cases parsed : parse (String.ofList text) with
  | error fault => exact ⟨fault, rfl⟩
  | ok descriptor => exact absurd parsed (refused descriptor)

end Loading

/-- A descriptor is loaded as it is written, in an object of any layout or in an array.  None
is loaded if a member is named twice or an integer does not fit.  The frequency may be any
number up to a few places below the greatest double, zero and the smallest included; it is
read as a finite double with its sign and near it. -/
theorem load_follows_the_text (read : FilePath → Except FileFault (List UInt8))
    (runDirectory : String) :
    (∀ (descriptor : Descriptor) (object : ObjectText), object.Gives descriptor →
      Stands read runDirectory object.text → load read runDirectory = .ok descriptor) ∧
    (∀ (descriptor : Descriptor) (array : ArrayText), array.Gives descriptor →
      Stands read runDirectory array.text → load read runDirectory = .ok descriptor) ∧
    (∀ object : ObjectText, Stands read runDirectory object.text →
      ((∃ member, 1 < object.members.count member) ∨
        ∃ entry ∈ object.entries, ∃ member, entry.member? = some member ∧
          Overflows member entry.value) →
      ∃ fault, load read runDirectory =
        .error (.unparsable (Path.join runDirectory descriptorName) fault)) ∧
    (∀ array : ArrayText, Stands read runDirectory array.text →
      (∃ pair ∈ Member.all.zip array.elements, Overflows pair.1 pair.2.value) →
      ∃ fault, load read runDirectory =
        .error (.unparsable (Path.join runDirectory descriptorName) fault)) ∧
    (∀ number : NumberText, number.size < 2 ^ 1024 - 2 ^ 974 → number.text.length < 2 ^ 30 →
      ∃ frequency parts,
        number.double? = some frequency ∧ number.Approximates frequency parts) := by
  refine ⟨?_, ?_, ?_, ?_, ?_⟩
  · intro descriptor object gives stands
    exact load_eq_ok stands gives.parse
  · intro descriptor array gives stands
    exact load_eq_ok stands gives.parse
  · intro object stands wrong
    apply exists_load_eq_error stands
    intro descriptor parsed
    have sound := ObjectText.sound_of_parse parsed
    rcases wrong with ⟨member, twice⟩ | ⟨entry, listed, member, named, overflows⟩
    · exact absurd (List.nodup_iff_count_le_one.mp sound.once member) twice.not_ge
    · exact (sound.accepted entry listed member named).not_overflows overflows
  · rintro array stands ⟨pair, listed, overflows⟩
    apply exists_load_eq_error stands
    intro descriptor parsed
    exact (ArrayText.accepts_of_parse parsed pair listed).not_overflows overflows
  · intro number below short
    exact NumberText.exists_double_approximates below short

theorem spells_self {name : List Char} (plain : name.all (fun char => Json.Plain char) = true) :
    Spells name name := by
  induction name with
  | nil => exact .nil
  | cons char name induction =>
      rw [List.all_cons, Bool.and_eq_true, decide_eq_true_eq] at plain
      exact .plain plain.1 (induction plain.2)

theorem written_integer (value : Int) : Written (integerText value) :=
  NumberText.text_ofInt value ▸ .number _

/-- A member without blanks or escapes. -/
def Entry.tight (name : String) (plain : name.toList.all (fun char => Json.Plain char) = true)
    {value : List Char} (written : Written value) : Entry :=
  ⟨name, name.toList, value, [], [], [], [], spells_self plain, written, Json.blank_nil,
    Json.blank_nil, Json.blank_nil, Json.blank_nil⟩

/-- An element without blanks. -/
def Element.tight {value : List Char} (written : Written value) : Element :=
  ⟨value, [], [], written, Json.blank_nil, Json.blank_nil⟩

theorem Entry.gives_of {descriptor : Descriptor} {entry : Entry} {member : Member}
    (named : entry.member? = some member) (gives : descriptor.Gives member entry.value) :
    ∀ other, entry.member? = some other → descriptor.Gives other entry.value := by
  intro other found
  rwa [← Option.some.inj (named.symm.trans found)]

def sample : Descriptor where
  chip := .gen3
  referenceCycle := 18446744073709551615
  referenceWallNs := -9223372036854775808
  frequency := 25.0
  runStartNs := none
  runEndNs := some 5

/-- The number `2.5e1`. -/
def sampleFrequency : NumberText where
  negative := false
  whole := ⟨['2'], List.cons_ne_nil _ _, List.forall_mem_singleton.mpr rfl⟩
  short := nofun
  fraction := some ⟨['5'], List.cons_ne_nil _ _, List.forall_mem_singleton.mpr rfl⟩
  exponent := some ⟨'e', .inl rfl, none, nofun,
    ⟨['1'], List.cons_ne_nil _ _, List.forall_mem_singleton.mpr rfl⟩⟩

def minusZero : NumberText where
  negative := true
  whole := ⟨['0'], List.cons_ne_nil _ _, List.forall_mem_singleton.mpr rfl⟩
  short := fun _ => rfl
  fraction := none
  exponent := none

theorem spells_gen3 : Spells Chip.gen3.name.toList ['g', 'e', 'n', '3'] := spells_self rfl

theorem spells_chip : Spells "chip".toList ['\\', 'u', '0', '0', '6', '3', 'h', 'i', 'p'] := by
  have digits : Json.CodeUnit '0' '0' '6' '3' (((0 * 16 + 0) * 16 + 6) * 16 + 3) :=
    .digits (.inl rfl) (.inl rfl) (.inl rfl) (.inl rfl)
  have rest : Spells ['h', 'i', 'p'] ['h', 'i', 'p'] := spells_self rfl
  exact .unit digits (by decide) rest

def shuffled : ObjectText where
  entries :=
    [Entry.tight "run_end_ns" rfl (written_integer 5),
      Entry.tight "note" rfl
        (.array (.last (.padded Json.blank_nil .trueWord (show Blank ['\t'] by decide)))),
      Entry.tight "cycles_per_microsecond" rfl (.number sampleFrequency),
      { Entry.tight "reference_wall_time_ns" rfl (written_integer (-9223372036854775808)) with
        beforeKey := ['\n'], blankBeforeKey := by decide },
      { Entry.tight "chip" rfl (.string spells_gen3.body) with
        key := _, spells := spells_chip, beforeValue := [' '], blankBeforeValue := by decide },
      Entry.tight "reference_cycle_count" rfl (written_integer 18446744073709551615)]
  before := ['\n']
  after := [' ']
  blankBefore := by decide
  blankAfter := by decide

theorem shuffled_gives : shuffled.Gives sample := by
  refine ⟨by decide, ?_, ?_⟩
  · simp only [shuffled, List.forall_mem_cons]
    refine ⟨Entry.gives_of rfl rfl, nofun, Entry.gives_of rfl ⟨sampleFrequency, rfl, rfl⟩,
      Entry.gives_of rfl rfl, Entry.gives_of rfl (.name spells_gen3), Entry.gives_of rfl rfl, nofun⟩
  · intro member missing
    cases member with
    | runStartNs => rfl
    | _ => exact absurd (by decide) missing

def inOrder : ArrayText where
  elements :=
    [.tight (.string spells_gen3.body), .tight (written_integer 18446744073709551615),
      .tight (written_integer (-9223372036854775808)), .tight (.number sampleFrequency),
      .tight .nullWord, .tight (written_integer 5)]
  before := []
  after := []
  blankBefore := Json.blank_nil
  blankAfter := Json.blank_nil

theorem inOrder_gives : inOrder.Gives sample :=
  .given (.name spells_gen3) <| .given rfl <| .given rfl <|
    .given ⟨sampleFrequency, rfl, rfl⟩ <| .given rfl <| .given rfl .nil

/-- Every member is named again. -/
def twice : ObjectText := { shuffled with entries := shuffled.entries ++ shuffled.entries }

/-- The cycle is one more than 64 bits hold. -/
def tooLarge : ArrayText :=
  { inOrder with
    elements := [.tight (.string spells_gen3.body), .tight (written_integer 18446744073709551616)] }

theorem size_sampleFrequency : sampleFrequency.size = 25 := by
  have digits : digitsValue (sampleFrequency.whole.chars ++ sampleFrequency.fractionDigits) = 25 :=
    rfl
  have power : sampleFrequency.tens - sampleFrequency.fractionDigits.length = 0 := rfl
  rw [NumberText.size, digits, power, zpow_zero, mul_one, Nat.cast_ofNat]

theorem size_minusZero : minusZero.size = 0 := by
  have digits : digitsValue (minusZero.whole.chars ++ minusZero.fractionDigits) = 0 := rfl
  rw [NumberText.size, digits, Nat.cast_zero, zero_mul]

/-- Every file has this text. -/
def reading (text : List Char) : FilePath → Except FileFault (List UInt8) :=
  fun _ => .ok (String.ofList text).toUTF8.data.toList

theorem load_follows_the_text_shuffled :
    String.ofList shuffled.text =
        "\n\x7b\"run_end_ns\":5,\"note\":[true\t],\"cycles_per_microsecond\":2.5e1,\n" ++
          "\"reference_wall_time_ns\":-9223372036854775808,\"\\u0063hip\": \"gen3\"," ++
          "\"reference_cycle_count\":18446744073709551615\x7d " ∧
      load (reading shuffled.text) "run" = .ok sample ∧
      load (reading inOrder.text) "run" = .ok sample ∧
      (∃ fault, load (reading twice.text) "run" =
        .error (.unparsable (Path.join "run" descriptorName) fault)) ∧
      (∃ fault, load (reading tooLarge.text) "run" =
        .error (.unparsable (Path.join "run" descriptorName) fault)) ∧
      (∃ frequency parts, sampleFrequency.double? = some frequency ∧
        sampleFrequency.Approximates frequency parts) ∧
      ∃ frequency parts, minusZero.double? = some frequency ∧
        Binary64.ofFloat? frequency = some parts ∧ parts.negative = true ∧
        parts.magnitude = 0 := by
  have split : (2 : ℚ) ^ 1024 = 2 ^ 50 * 2 ^ 974 := by rw [← pow_add]
  have least : (1 : ℚ) ≤ 2 ^ 974 := one_le_pow₀ one_le_two
  have below : (25 : ℚ) < 2 ^ 1024 - 2 ^ 974 := by
    rw [split]
    generalize (2 : ℚ) ^ 974 = power at least
    linarith
  refine ⟨by decide +kernel, ?_, ?_, ?_, ?_, ?_, ?_⟩
  · exact (load_follows_the_text _ _).1 sample shuffled shuffled_gives rfl
  · exact (load_follows_the_text _ _).2.1 sample inOrder inOrder_gives rfl
  · exact (load_follows_the_text _ _).2.2.1 twice rfl (.inl ⟨.chip, by decide⟩)
  · refine (load_follows_the_text _ _).2.2.2.1 tooLarge rfl
      ⟨(.referenceCycle, .tight (written_integer 18446744073709551616)), .tail _ (.head _), ?_⟩
    exact ⟨18446744073709551616, 0, 2 ^ 64 - 1, rfl, rfl, by decide⟩
  · exact (load_follows_the_text (reading []) "run").2.2.2.2 sampleFrequency
      (size_sampleFrequency ▸ below) (by decide)
  · obtain ⟨frequency, parts, read, near⟩ :=
      (load_follows_the_text (reading []) "run").2.2.2.2 minusZero
        (size_minusZero ▸ below.trans' (by norm_num)) (by decide)
    exact ⟨frequency, parts, read, near.isParts, near.sign, near.zero size_minusZero⟩

/-- The bits of the frequency that is loaded from this number. -/
def frequencyBits? (number : String) : Option UInt64 :=
  (parse ("\x7b\"chip\":\"gen1\",\"reference_cycle_count\":0,\"reference_wall_time_ns\":0," ++
    "\"cycles_per_microsecond\":" ++ number ++ "\x7d")).toOption.map
      fun descriptor => descriptor.frequency.toBits

/-- A number that is nearer to the greatest double than to anything beyond it is refused,
though the same number with one more zero is loaded. -/
theorem frequency_near_greatest_double_is_refused :
    17976931348623158 * 10 ^ 292 < (2 ^ 54 - 1) * 2 ^ 970 ∧
      frequencyBits? "1.7976931348623158e308" = none ∧
      frequencyBits? "1.79769313486231580e308" = some 0x7fefffffffffffff := by
  decide +kernel

end AcceleratorTrace.Descriptor
