import AcceleratorTrace.Descriptor.Value
import AcceleratorTrace.Proofs.JsonGrammar

/-!
# What JSON numbers are read as

The reading of a number is said on its parts.  An integer that fits 64 bits is read
exactly; any other number goes through its first digits and one power of ten.
-/

namespace AcceleratorTrace.Json

def Exponent.negative (exponent : Exponent) : Bool := exponent.sign == some '-'

def Exponent.size (exponent : Exponent) : Nat := digitsValue exponent.digits.chars

/-- A number with these kept digits and this exponent.  An exponent out of all bounds leaves
zero or nothing. -/
def Exponent.apply (exponent : Exponent) (negative : Bool) (value : Nat) (places : Int) :
    Except Fault Number :=
  if exponentLimit < exponent.size then
    if value ≠ 0 ∧ exponent.negative = false then .error .malformed
    else .ok (.real (negate negative 0.0))
  else
    scaled negative value
      (if exponent.negative then places - exponent.size else places + exponent.size)

namespace NumberText

/-- The whole part, as far as it fits 64 bits. -/
def wholeKept (number : NumberText) : Significand :=
  number.whole.chars.foldl Significand.push ⟨0, 0⟩

/-- The digits that are kept and the power of ten that they count. -/
def kept (number : NumberText) : Nat × Int :=
  match number.fraction with
  | none => (number.wholeKept.value, number.wholeKept.dropped)
  | some digits =>
      ((pushFraction number.wholeKept.value 0 digits.chars).1,
        number.wholeKept.dropped - (pushFraction number.wholeKept.value 0 digits.chars).2)

/-- What the number is read as. -/
def reading (number : NumberText) : Except Fault Number :=
  match number.exponent with
  | some exponent => exponent.apply number.negative number.kept.1 number.kept.2
  | none =>
      if number.fraction.isNone ∧ number.kept.2 = 0 then
        .ok (signed number.negative number.kept.1)
      else scaled number.negative number.kept.1 number.kept.2

end NumberText

/-- Reads an exponent after its sign. -/
def readSize (negativeExponent negative : Bool) (value : Nat) (places : Int)
    (text : List Char) : Except Fault (Number × List Char) :=
  if (digits text).isEmpty then .error (unexpected text)
  else if exponentLimit < digitsValue (digits text) then
    if value ≠ 0 ∧ negativeExponent = false then .error .malformed
    else .ok (.real (negate negative 0.0), afterDigits text)
  else
    (scaled negative value
      (if negativeExponent then places - digitsValue (digits text)
        else places + digitsValue (digits text))).map fun number => (number, afterDigits text)

theorem readExponent_unsigned {text : List Char} (plus : text.head? ≠ some '+')
    (minus : text.head? ≠ some '-') (negative : Bool) (value : Nat) (places : Int) :
    readExponent negative value places text = readSize false negative value places text := by
  unfold readExponent
  split
  next found =>
    split at found
    · exact absurd rfl plus
    · exact absurd rfl minus
    · cases found
      rfl

variable {rest : List Char}

theorem Digits.not_empty (digits : Digits) : digits.chars.isEmpty = false := by
  simpa using digits.nonempty

theorem readSize_digits (digits : Digits) (ends : ∀ char ∈ rest.head?, char.isDigit = false)
    (negativeExponent negative : Bool) (value : Nat) (places : Int) :
    readSize negativeExponent negative value places (digits.chars ++ rest) =
      (if exponentLimit < digitsValue digits.chars then
          if value ≠ 0 ∧ negativeExponent = false then .error .malformed
          else .ok (.real (negate negative 0.0))
        else
          scaled negative value
            (if negativeExponent then places - digitsValue digits.chars
              else places + digitsValue digits.chars)).map fun number => (number, rest) := by
  obtain ⟨taken, left⟩ := digits.span ends
  rw [readSize, Json.digits, afterDigits, taken, left, digits.not_empty, if_neg Bool.false_ne_true]
  split
  · split <;> rfl
  · rfl

theorem readExponent_text (exponent : Exponent)
    (ends : ∀ char ∈ rest.head?, char.isDigit = false) (negative : Bool) (value : Nat)
    (places : Int) :
    readExponent negative value places (exponent.sign.toList ++ (exponent.digits.chars ++ rest)) =
      (exponent.apply negative value places).map fun number => (number, rest) := by
  obtain ⟨mark, isMark, sign, isSign, digits⟩ := exponent
  cases sign with
  | none =>
      exact (readExponent_unsigned (digits.head_ne rest rfl) (digits.head_ne rest rfl) _ _ _).trans
        (readSize_digits digits ends _ _ _ _)
  | some char =>
      rcases isSign char rfl with rfl | rfl
      · exact readSize_digits digits ends _ _ _ _
      · exact readSize_digits digits ends _ _ _ _

theorem readTail_other {text : List Char} (small : text.head? ≠ some 'e')
    (capital : text.head? ≠ some 'E') (negative : Bool) (value : Nat) (places : Int) :
    readTail negative value places text =
      (scaled negative value places).map fun number => (number, text) := by
  unfold readTail
  split
  · exact absurd rfl small
  · exact absurd rfl capital
  · rfl

namespace NumberText

/-- What the digits of a number and its exponent are read as. -/
def tailReading (number : NumberText) (value : Nat) (places : Int) : Except Fault Number :=
  match number.exponent with
  | some exponent => exponent.apply number.negative value places
  | none => scaled number.negative value places

theorem readTail_exponentText (number : NumberText) (delimited : Delimited rest) (value : Nat)
    (places : Int) :
    readTail number.negative value places (number.exponentText ++ rest) =
      (number.tailReading value places).map fun number => (number, rest) := by
  rw [exponentText, tailReading]
  cases number.exponent with
  | none => exact readTail_other (delimited.head_ne rfl) (delimited.head_ne rfl) _ _ _
  | some exponent =>
      have read := readExponent_text exponent delimited.not_digit number.negative value places
      simp only [Exponent.text, List.cons_append, List.append_assoc]
      rcases exponent.isMark with small | capital
      · rw [small]
        exact read
      · rw [capital]
        exact read

theorem readAfterWhole_other {text : List Char} (dot : text.head? ≠ some '.')
    (small : text.head? ≠ some 'e') (capital : text.head? ≠ some 'E') (negative : Bool)
    (whole : Significand) :
    readAfterWhole negative whole text =
      if whole.dropped = 0 then .ok (signed negative whole.value, text)
      else (scaled negative whole.value whole.dropped).map fun number => (number, text) := by
  unfold readAfterWhole
  split
  · exact absurd rfl dot
  · exact absurd rfl small
  · exact absurd rfl capital
  · rfl

theorem readAfterWhole_text (number : NumberText) (delimited : Delimited rest) :
    readAfterWhole number.negative number.wholeKept
        (number.fractionText ++ (number.exponentText ++ rest)) =
      number.reading.map fun value => (value, rest) := by
  rw [fractionText, reading, kept]
  cases isFraction : number.fraction with
  | none =>
      rw [List.nil_append, exponentText]
      cases isExponent : number.exponent with
      | none =>
          rw [List.nil_append, readAfterWhole_other (delimited.head_ne rfl)
            (delimited.head_ne rfl) (delimited.head_ne rfl)]
          simp only [Option.isNone_none, true_and, Nat.cast_eq_zero]
          split <;> rfl
      | some exponent =>
          have read := readExponent_text exponent delimited.not_digit number.negative
            number.wholeKept.value number.wholeKept.dropped
          simp only [Exponent.text, List.cons_append, List.append_assoc]
          rcases exponent.isMark with small | capital
          · rw [small]
            exact read
          · rw [capital]
            exact read
  | some digits =>
      obtain ⟨taken, left⟩ := digits.span (number.exponentText_ends delimited)
      rw [List.cons_append, readAfterWhole, Json.digits, afterDigits, taken, left,
        digits.not_empty, if_neg Bool.false_ne_true]
      refine (number.readTail_exponentText delimited _ _).trans ?_
      rw [tailReading]
      cases number.exponent with
      | none => simp
      | some exponent => rfl

theorem readNumber_other {text : List Char} (zero : text.head? ≠ some '0') (negative : Bool) :
    readNumber negative text =
      if (digits text).isEmpty then .error (unexpected text)
      else readAfterWhole negative ((digits text).foldl Significand.push ⟨0, 0⟩)
        (afterDigits text) := by
  unfold readNumber
  split
  · exact absurd rfl zero
  · rfl

theorem readNumber_magnitude (number : NumberText) (delimited : Delimited rest) :
    readNumber number.negative (number.magnitude ++ rest) =
      number.reading.map fun value => (value, rest) := by
  have ends := number.fractionText_ends delimited
  have read := number.readAfterWhole_text delimited
  obtain ⟨taken, left⟩ := number.whole.span ends
  rw [magnitude, List.append_assoc, List.append_assoc]
  by_cases zero : number.whole.chars.head? = some '0'
  · have whole := number.short zero
    rw [wholeKept, whole] at read
    rw [whole, List.singleton_append, List.takeWhile_cons_of_pos rfl] at taken
    rw [whole, List.singleton_append, readNumber, Json.digits, (List.cons.inj taken).2]
    exact read
  · obtain ⟨first, later, split, -⟩ := number.whole.head
    rw [readNumber_other, Json.digits, afterDigits, taken, left, number.whole.not_empty,
      if_neg Bool.false_ne_true]
    · exact read
    · rw [split] at zero ⊢
      exact zero

end NumberText

section Agreement

variable {negative : Bool} {value : Nat} {places : Int} {text : List Char} {number : Number}

theorem map_rest_eq_ok {reading : Except Fault Number} {after : List Char}
    (read : (reading.map fun number => (number, after)) = .ok (number, rest)) : after = rest := by
  cases reading with
  | error fault => contradiction
  | ok found => exact congrArg Prod.snd (Except.ok.inj read)

theorem skipDigits_of_some (some : ¬ (digits text).isEmpty = true) :
    skipDigits text = .ok (afterDigits text) := by
  rw [digits, List.isEmpty_iff] at some
  rw [skipDigits, afterDigits]
  split
  · contradiction
  · rfl

theorem readSize_skips {negativeExponent : Bool}
    (read : readSize negativeExponent negative value places text = .ok (number, rest)) :
    skipDigits text = .ok rest := by
  unfold readSize at read
  split at read
  · contradiction
  · next some =>
      rw [skipDigits_of_some some]
      congr 1
      split at read
      · split at read
        · contradiction
        · exact congrArg Prod.snd (Except.ok.inj read)
      · exact map_rest_eq_ok read

theorem readExponent_skips
    (read : readExponent negative value places text = .ok (number, rest)) :
    skipExponent ('e' :: text) = .ok rest ∧ skipExponent ('E' :: text) = .ok rest := by
  by_cases plus : text.head? = some '+'
  · obtain ⟨later, rfl⟩ := List.head?_eq_some_iff.mp plus
    exact ⟨readSize_skips read, readSize_skips read⟩
  by_cases minus : text.head? = some '-'
  · obtain ⟨later, rfl⟩ := List.head?_eq_some_iff.mp minus
    exact ⟨readSize_skips read, readSize_skips read⟩
  rw [readExponent_unsigned plus minus] at read
  rw [← readSize_skips read]
  exact skipExponent_unsigned plus minus

theorem readTail_skips (read : readTail negative value places text = .ok (number, rest)) :
    skipExponent text = .ok rest := by
  unfold readTail at read
  split at read
  · exact (readExponent_skips read).1
  · exact (readExponent_skips read).2
  · next small capital =>
      rw [skipExponent]
      · exact congrArg _ (map_rest_eq_ok read)
      · exact small
      · exact capital

theorem readAfterWhole_skips {whole : Significand}
    (read : readAfterWhole negative whole text = .ok (number, rest)) :
    skipFraction text = .ok rest := by
  unfold readAfterWhole at read
  split at read
  · split at read
    · contradiction
    · next some =>
        rw [skipFraction, skipDigits_of_some some]
        exact readTail_skips read
  · exact (readExponent_skips read).1
  · exact (readExponent_skips read).2
  · next dot small capital =>
      rw [skipFraction, skipExponent]
      · split at read
        · exact congrArg Except.ok (congrArg Prod.snd (Except.ok.inj read))
        · exact congrArg Except.ok (map_rest_eq_ok read)
      · exact small
      · exact capital
      · exact dot

theorem readNumber_skips (read : readNumber negative text = .ok (number, rest)) :
    skipNumber text = .ok rest := by
  unfold readNumber at read
  split at read
  · split at read
    · next none =>
        rw [digits, List.isEmpty_iff] at none
        rw [skipNumber, none]
        exact readAfterWhole_skips read
    · contradiction
  · next zero =>
      split at read
      · contradiction
      · next some =>
          rw [skipNumber, skipDigits_of_some some]
          · exact readAfterWhole_skips read
          · exact zero

end Agreement

theorem push_digits {chars : List Char} (all : ∀ char ∈ chars, char.isDigit = true) :
    (digitsValue chars < UInt64.size ∧
        chars.foldl Significand.push ⟨0, 0⟩ = ⟨digitsValue chars, 0⟩) ∨
      (UInt64.size ≤ digitsValue chars ∧
        (chars.foldl Significand.push ⟨0, 0⟩).dropped ≠ 0) := by
  -- Digits are pushed at the end, so the last one is split off.
  induction chars using List.reverseRecOn with
  | nil => exact .inl ⟨by decide, rfl⟩
  | append_singleton front last induction =>
      have digit := (exists_digitChar (all last (by simp))).1
      rw [List.foldl_append, digitsValue_append]
      rcases induction fun char member => all char (by simp [member]) with
        ⟨fits, kept⟩ | ⟨large, dropped⟩
      · rw [kept]
        simp only [List.foldl_cons, List.foldl_nil, Significand.push, true_and]
        split
        · next small => exact .inl ⟨by omega, by rw [Nat.mul_comm]⟩
        · next beyond => exact .inr ⟨by omega, by simp⟩
      · refine .inr ⟨by omega, ?_⟩
        simp only [List.foldl_cons, List.foldl_nil, Significand.push]
        rw [if_neg (by simp [dropped])]
        exact Nat.succ_ne_zero _

/-- The text of an integer. -/
def integerText (value : Int) : List Char := (toString value).toList

theorem head_toDigits {value : Nat} (zero : (Nat.toDigits 10 value).head? = some '0') :
    value = 0 := by
  induction value using Nat.strong_induction_on with
  | _ value induction =>
      by_cases small : value < 10
      · rw [Nat.toDigits_of_lt_base small] at zero
        interval_cases value
        all_goals first | rfl | exact absurd zero (by decide)
      · rw [Nat.toDigits_of_base_le (by decide) (by omega),
          List.head?_append_of_ne_nil _ (Numeral.toDigits _).ne_nil] at zero
        have front := induction (value / 10) (by omega) zero
        omega

/-- An integer as a number. -/
def NumberText.ofInt (value : Int) : NumberText where
  negative := decide (value < 0)
  whole :=
    ⟨Nat.toDigits 10 value.natAbs, (Numeral.toDigits _).ne_nil, (Numeral.toDigits _).isDigit⟩
  short zero := by rw [head_toDigits zero]; rfl
  fraction := none
  exponent := none

namespace NumberText

theorem text_ofInt (value : Int) : (ofInt value).text = integerText value := by
  have alone : (ofInt value).magnitude = Nat.toDigits 10 value.natAbs := List.append_nil _
  have digits : ∀ number : Nat, (Nat.repr number).toList = Nat.toDigits 10 number := by
    intro number
    rw [Nat.repr, String.toList_ofList]
  rw [text, alone]
  cases value with
  | ofNat value => exact (digits value).symm
  | negSucc value =>
      have sign : integerText (.negSucc value) = ("-" ++ Nat.repr (value + 1)).toList := rfl
      have negative : (ofInt (.negSucc value)).negative = true :=
        decide_eq_true (Int.negSucc_lt_zero value)
      rw [sign, String.toList_append, digits, if_pos negative]
      rfl

theorem digitsValue_ofInt (value : Int) : digitsValue (ofInt value).whole.chars = value.natAbs :=
  (Numeral.toDigits _).digitsValue_eq

theorem reading_ofInt (value : Int) :
    (ofInt value).reading =
      if (ofInt value).wholeKept.dropped = 0 then
        .ok (signed (decide (value < 0)) (ofInt value).wholeKept.value)
      else scaled (decide (value < 0)) (ofInt value).wholeKept.value
        (ofInt value).wholeKept.dropped := by
  have parts : (ofInt value).reading =
      if true = true ∧ ((ofInt value).wholeKept.dropped : Int) = 0 then
        .ok (signed (decide (value < 0)) (ofInt value).wholeKept.value)
      else scaled (decide (value < 0)) (ofInt value).wholeKept.value
        (ofInt value).wholeKept.dropped := rfl
  rw [parts]
  simp only [true_and, Nat.cast_eq_zero]

/-- An integer that is read as one is read exactly, and it is if it fits 64 bits. -/
theorem reading_ofInt_eq_integer_iff {value other : Int} :
    (ofInt value).reading = .ok (.integer other) ↔
      other = value ∧ -2 ^ 63 ≤ value ∧ value < 2 ^ 64 := by
  have size : UInt64.size = 2 ^ 64 := rfl
  have half : Nat.pow 2 63 = 2 ^ 63 := rfl
  have digits := push_digits (ofInt value).whole.all
  rw [digitsValue_ofInt, ← wholeKept] at digits
  rw [reading_ofInt]
  rcases digits with ⟨fits, kept⟩ | ⟨large, dropped⟩
  · rw [kept, if_pos rfl, signed]
    by_cases sign : value < 0
    · rw [if_neg (by simp [sign])]
      split
      · next inside =>
          simp only [Except.ok.injEq, Number.integer.injEq] at inside ⊢
          omega
      · next outside =>
          simp only [Except.ok.injEq, reduceCtorEq, false_iff] at outside ⊢
          omega
    · rw [if_pos (by simpa using sign)]
      simp only [Except.ok.injEq, Number.integer.injEq]
      omega
  · rw [if_neg dropped, scaled]
    constructor
    · intro read
      cases found : scale (ofInt value).wholeKept.value (ofInt value).wholeKept.dropped with
      | error fault =>
          rw [found] at read
          contradiction
      | ok real =>
          rw [found] at read
          exact nomatch Except.ok.inj read
    · omega

/-- The double that the number is read as; numbers beyond all doubles have none. -/
def double? (number : NumberText) : Option Float :=
  match number.reading with
  | .ok (.integer value) => some (Reading.doubleOfInteger value)
  | .ok (.real value) => some value
  | .error _ => none

end NumberText

end AcceleratorTrace.Json
