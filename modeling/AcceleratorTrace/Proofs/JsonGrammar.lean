import AcceleratorTrace.Json.Skip
import AcceleratorTrace.Proofs.NameGrammar
import Mathlib

/-!
# The grammar of JSON texts

What counts as blank, as a string, as a number and as a value is said here without the
readers.  Every text of the grammar is then passed over up to its end and not further,
whatever follows it, as long as it does not run on into what follows.
-/

namespace AcceleratorTrace.Json

/-- Blanks that may stand between two marks. -/
def Blank (text : List Char) : Prop := ∀ char ∈ text, isSpace char = true

instance : DecidablePred Blank := fun text =>
  List.decidableBAll (fun char => isSpace char = true) text

theorem blank_nil : Blank [] := List.forall_mem_nil _

theorem skipSpace_blank {blank : List Char} (isBlank : Blank blank) (text : List Char) :
    skipSpace (blank ++ text) = skipSpace text :=
  List.dropWhile_append_of_pos isBlank

theorem Blank.skipSpace {blank : List Char} (isBlank : Blank blank) : skipSpace blank = [] :=
  List.dropWhile_eq_nil_iff.mpr isBlank

theorem skipSpace_solid {char : Char} (solid : isSpace char = false) (text : List Char) :
    skipSpace (char :: text) = char :: text := by
  rw [skipSpace, List.dropWhile_cons_of_neg (by simp [solid])]

theorem skipSpace_blank_solid {blank : List Char} (isBlank : Blank blank) {char : Char}
    (solid : isSpace char = false) (text : List Char) :
    skipSpace (blank ++ char :: text) = char :: text := by
  rw [skipSpace_blank isBlank, skipSpace_solid solid]

theorem skipSpace_skipSpace (text : List Char) : skipSpace (skipSpace text) = skipSpace text :=
  List.dropWhile_idempotent isSpace text

theorem expectMark_blank {blank : List Char} (isBlank : Blank blank) {mark : Char}
    (solid : isSpace mark = false) (text : List Char) :
    expectMark mark (blank ++ mark :: text) = .ok text := by
  simp only [expectMark, skipSpace_blank_solid isBlank solid, if_pos]

/-- What may stand after a value that has no end of its own. -/
def isDelimiter (char : Char) : Bool :=
  isSpace char || char == ',' || char == ']' || char == '\x7d'

/-- The text ends here, or something begins that no value goes on with. -/
def Delimited (text : List Char) : Prop := ∀ char ∈ text.head?, isDelimiter char = true

theorem delimited_blank {blank : List Char} (isBlank : Blank blank) {text : List Char}
    (delimited : Delimited text) : Delimited (blank ++ text) := by
  cases blank with
  | nil => exact delimited
  | cons first blank =>
      intro char found
      obtain rfl : first = char := by simpa using found
      simp [isDelimiter, isBlank first List.mem_cons_self]

theorem delimited_cons {char : Char} (delimiter : isDelimiter char = true) (text : List Char) :
    Delimited (char :: text) := by
  intro first found
  obtain rfl : char = first := by simpa using found
  exact delimiter

theorem Delimited.head_ne {text : List Char} (delimited : Delimited text) {char : Char}
    (plain : isDelimiter char = false) : text.head? ≠ some char := by
  intro found
  have delimiter := delimited char found
  rw [plain] at delimiter
  exact Bool.false_ne_true delimiter

/-- A hexadecimal digit, small or capital, with its value. -/
def HexDigit (char : Char) (value : Nat) : Prop :=
  "0123456789abcdef".toList[value]? = some char ∨ "0123456789ABCDEF".toList[value]? = some char

/-- Four hexadecimal digits with the code unit that they stand for. -/
inductive CodeUnit : (a b c d : Char) → Nat → Prop where
  | digits {a b c d : Char} {i j k l : Nat} (first : HexDigit a i) (second : HexDigit b j)
      (third : HexDigit c k) (fourth : HexDigit d l) :
      CodeUnit a b c d (((i * 16 + j) * 16 + k) * 16 + l)

/-- The escapes of one letter. -/
def escapes : List (Char × Char) :=
  [('"', '"'), ('\\', '\\'), ('/', '/'), ('b', '\x08'), ('f', '\x0c'), ('n', '\n'), ('r', '\r'),
    ('t', '\t')]

/-- A character that stands for itself. -/
def Plain (char : Char) : Prop := char ≠ '"' ∧ char ≠ '\\' ∧ 0x20 ≤ char.toNat

instance : DecidablePred Plain := fun char =>
  inferInstanceAs (Decidable (char ≠ '"' ∧ char ≠ '\\' ∧ 0x20 ≤ char.toNat))

/-- What stands between the quotes of a string that spells these characters. -/
inductive Spells : (name body : List Char) → Prop where
  | nil : Spells [] []
  | plain {name body : List Char} {char : Char} (plain : Plain char) (rest : Spells name body) :
      Spells (char :: name) (char :: body)
  | escape {name body : List Char} {letter char : Char} (known : (letter, char) ∈ escapes)
      (rest : Spells name body) : Spells (char :: name) ('\\' :: letter :: body)
  | unit {name body : List Char} {a b c d : Char} {code : Nat} (digits : CodeUnit a b c d code)
      (alone : ¬ (0xD800 ≤ code ∧ code ≤ 0xDFFF)) (rest : Spells name body) :
      Spells (Char.ofNat code :: name) ('\\' :: 'u' :: a :: b :: c :: d :: body)
  | pair {name body : List Char} {a b c d e f g h : Char} {high low : Nat}
      (highDigits : CodeUnit a b c d (0xD800 + high)) (highSmall : high < 0x400)
      (lowDigits : CodeUnit e f g h (0xDC00 + low)) (lowSmall : low < 0x400)
      (rest : Spells name body) :
      Spells (Char.ofNat (0x10000 + 0x400 * high + low) :: name)
        ('\\' :: 'u' :: a :: b :: c :: d :: '\\' :: 'u' :: e :: f :: g :: h :: body)

/-- What stands between the quotes of any string; its code units need not be characters. -/
inductive StringBody : List Char → Prop where
  | nil : StringBody []
  | plain {body : List Char} {char : Char} (plain : Plain char) (rest : StringBody body) :
      StringBody (char :: body)
  | escape {body : List Char} {letter char : Char} (known : (letter, char) ∈ escapes)
      (rest : StringBody body) : StringBody ('\\' :: letter :: body)
  | unit {body : List Char} {a b c d : Char} {code : Nat} (digits : CodeUnit a b c d code)
      (rest : StringBody body) : StringBody ('\\' :: 'u' :: a :: b :: c :: d :: body)

theorem Spells.body {name body : List Char} (spells : Spells name body) : StringBody body := by
  induction spells with
  | nil => exact .nil
  | plain plain rest induction => exact .plain plain induction
  | escape known rest induction => exact .escape known induction
  | unit digits alone rest induction => exact .unit digits induction
  | pair highDigits highSmall lowDigits lowSmall rest induction =>
      exact .unit highDigits (.unit lowDigits induction)

theorem HexDigit.hexValue? {char : Char} {value : Nat} (digit : HexDigit char value) :
    hexValue? char = some value := by
  have small : value < 16 := by
    rcases digit with found | found
    · exact (List.getElem?_eq_some_iff.mp found).1
    · exact (List.getElem?_eq_some_iff.mp found).1
  rcases digit with found | found
  all_goals
    interval_cases value <;>
      · obtain rfl := Option.some.inj found
        rfl

theorem CodeUnit.hexCode? {a b c d : Char} {code : Nat} (digits : CodeUnit a b c d code) :
    hexCode? a b c d = some code := by
  obtain ⟨first, second, third, fourth⟩ := digits
  rw [Json.hexCode?, first.hexValue?, second.hexValue?, third.hexValue?, fourth.hexValue?]
  rfl

theorem simpleEscape?_of_known {letter char : Char} (known : (letter, char) ∈ escapes) :
    letter ≠ 'u' ∧ simpleEscape? letter = some char := by
  simp only [escapes, List.mem_cons, Prod.mk.injEq, List.not_mem_nil, or_false] at known
  rcases known with ⟨rfl, rfl⟩ | ⟨rfl, rfl⟩ | ⟨rfl, rfl⟩ | ⟨rfl, rfl⟩ | ⟨rfl, rfl⟩ | ⟨rfl, rfl⟩ |
    ⟨rfl, rfl⟩ | ⟨rfl, rfl⟩
  all_goals exact ⟨by decide, rfl⟩

theorem Plain.not_control {char : Char} (plain : Plain char) : isControl char = false := by
  rw [isControl, decide_eq_false_iff_not]
  exact Nat.not_lt.mpr plain.2.2

section Steps

variable {char letter : Char} {a b c d : Char} {code : Nat}

theorem readString_plain (plain : Plain char) (text : List Char) :
    readString (char :: text) = (readString text).map (prepend char) := by
  rw [readString, if_neg (by simp [plain.not_control])] <;> simp [plain.1, plain.2.1]

theorem skipString_plain (plain : Plain char) (text : List Char) :
    skipString (char :: text) = skipString text := by
  rw [skipString, if_neg (by simp [plain.not_control])] <;> simp [plain.1, plain.2.1]

theorem readString_escape (known : (letter, char) ∈ escapes) (text : List Char) :
    readString ('\\' :: letter :: text) = (readString text).map (prepend char) := by
  obtain ⟨other, meaning⟩ := simpleEscape?_of_known known
  rw [readString, meaning] <;> simp [other]

theorem skipString_escape (known : (letter, char) ∈ escapes) (text : List Char) :
    skipString ('\\' :: letter :: text) = skipString text := by
  obtain ⟨other, meaning⟩ := simpleEscape?_of_known known
  rw [skipString, meaning] <;> simp [other]

theorem readString_unit (digits : CodeUnit a b c d code)
    (alone : ¬ (0xD800 ≤ code ∧ code ≤ 0xDFFF)) (text : List Char) :
    readString ('\\' :: 'u' :: a :: b :: c :: d :: text) =
      (readString text).map (prepend (Char.ofNat code)) := by
  have low : isLowSurrogate code = false := by
    simp only [isLowSurrogate, Bool.and_eq_false_iff, decide_eq_false_iff_not]
    omega
  have high : isHighSurrogate code = false := by
    simp only [isHighSurrogate, Bool.and_eq_false_iff, decide_eq_false_iff_not]
    omega
  simp [readString, digits.hexCode?, low, high]

theorem skipString_unit (digits : CodeUnit a b c d code) (text : List Char) :
    skipString ('\\' :: 'u' :: a :: b :: c :: d :: text) = skipString text := by
  rw [skipString, digits.hexCode?]

theorem readString_pair {e f g h : Char} {high low : Nat}
    (highDigits : CodeUnit a b c d (0xD800 + high)) (highSmall : high < 0x400)
    (lowDigits : CodeUnit e f g h (0xDC00 + low)) (lowSmall : low < 0x400) (text : List Char) :
    readString
        ('\\' :: 'u' :: a :: b :: c :: d :: '\\' :: 'u' :: e :: f :: g :: h :: text) =
      (readString text).map (prepend (Char.ofNat (0x10000 + 0x400 * high + low))) := by
  have notLow : isLowSurrogate (0xD800 + high) = false := by
    simp only [isLowSurrogate, Bool.and_eq_false_iff, decide_eq_false_iff_not]
    omega
  have isHigh : isHighSurrogate (0xD800 + high) = true := by
    simp only [isHighSurrogate, Bool.and_eq_true, decide_eq_true_eq]
    omega
  have isLow : isLowSurrogate (0xDC00 + low) = true := by
    simp only [isLowSurrogate, Bool.and_eq_true, decide_eq_true_eq]
    omega
  have joined : pairedChar (0xD800 + high) (0xDC00 + low) =
      Char.ofNat (0x10000 + 0x400 * high + low) := by
    exact congrArg Char.ofNat (by omega)
  simp [readString, highDigits.hexCode?, lowDigits.hexCode?, notLow, isHigh, isLow, joined]

end Steps

theorem Spells.readString {name body : List Char} (spells : Spells name body) (rest : List Char) :
    readString (body ++ '"' :: rest) = .ok (name, rest) := by
  induction spells with
  | nil => rfl
  | plain plain spells induction =>
      rw [List.cons_append, readString_plain plain, induction]
      rfl
  | escape known spells induction =>
      simp only [List.cons_append]
      rw [readString_escape known, induction]
      rfl
  | unit digits alone spells induction =>
      simp only [List.cons_append]
      rw [readString_unit digits alone, induction]
      rfl
  | pair highDigits highSmall lowDigits lowSmall spells induction =>
      simp only [List.cons_append]
      rw [readString_pair highDigits highSmall lowDigits lowSmall, induction]
      rfl

theorem StringBody.skipString {body : List Char} (isBody : StringBody body) (rest : List Char) :
    skipString (body ++ '"' :: rest) = .ok rest := by
  induction isBody with
  | nil => rfl
  | plain plain isBody induction => rw [List.cons_append, skipString_plain plain, induction]
  | escape known isBody induction =>
      simp only [List.cons_append]
      rw [skipString_escape known, induction]
  | unit digits isBody induction =>
      simp only [List.cons_append]
      rw [skipString_unit digits, induction]

theorem of_map_prepend {text name rest : List Char} {char : Char}
    (read : (readString text).map (prepend char) = .ok (name, rest)) :
    ∃ shorter, readString text = .ok (shorter, rest) := by
  cases found : readString text with
  | error fault =>
      rw [found] at read
      contradiction
  | ok result =>
      rw [found] at read
      obtain rfl := congrArg Prod.snd (Except.ok.inj read)
      exact ⟨result.1, rfl⟩

theorem skipString_of_readString {text name rest : List Char}
    (read : readString text = .ok (name, rest)) : skipString text = .ok rest := by
  fun_induction readString text generalizing name with
  | case2 after =>
      obtain rfl := congrArg Prod.snd (Except.ok.inj read)
      rfl
  | case9 a b c d high highDigits _ _ e f g h after low lowDigits _ induction =>
      obtain ⟨shorter, found⟩ := of_map_prepend read
      rw [skipString, highDigits]
      simp only
      rw [skipString, lowDigits]
      exact induction found
  | case13 a b c d after code digits _ _ induction =>
      obtain ⟨shorter, found⟩ := of_map_prepend read
      rw [skipString, digits]
      exact induction found
  | case16 letter after noUnit notU char meaning induction =>
      obtain ⟨shorter, found⟩ := of_map_prepend read
      rw [skipString, meaning]
      · exact induction found
      all_goals assumption
  | case18 char after notQuote noEnd noUnit noDigits noEscape notControl induction =>
      obtain ⟨shorter, found⟩ := of_map_prepend read
      rw [skipString, if_neg notControl]
      · exact induction found
      all_goals assumption
  | _ => contradiction

/-- Decimal digits, at least one. -/
structure Digits where
  chars : List Char
  nonempty : chars ≠ []
  all : ∀ char ∈ chars, char.isDigit = true

/-- The exponent of a number. -/
structure Exponent where
  mark : Char
  isMark : mark = 'e' ∨ mark = 'E'
  sign : Option Char
  isSign : ∀ char ∈ sign, char = '+' ∨ char = '-'
  digits : Digits

/-- The text of a number.  Its whole part has no zero in front. -/
structure NumberText where
  negative : Bool
  whole : Digits
  short : whole.chars.head? = some '0' → whole.chars = ['0']
  fraction : Option Digits
  exponent : Option Exponent

def Exponent.text (exponent : Exponent) : List Char :=
  exponent.mark :: (exponent.sign.toList ++ exponent.digits.chars)

namespace NumberText

def fractionText (number : NumberText) : List Char :=
  match number.fraction with
  | none => []
  | some digits => '.' :: digits.chars

def exponentText (number : NumberText) : List Char :=
  match number.exponent with
  | none => []
  | some exponent => exponent.text

/-- The number without its sign. -/
def magnitude (number : NumberText) : List Char :=
  number.whole.chars ++ (number.fractionText ++ number.exponentText)

def text (number : NumberText) : List Char :=
  if number.negative then '-' :: number.magnitude else number.magnitude

end NumberText

theorem Digits.head (digits : Digits) :
    ∃ first later, digits.chars = first :: later ∧ first.isDigit = true := by
  obtain ⟨first, later, split⟩ := List.exists_cons_of_ne_nil digits.nonempty
  exact ⟨first, later, split, digits.all first (split ▸ List.mem_cons_self)⟩

theorem Digits.head_ne (digits : Digits) (rest : List Char) {char : Char}
    (other : char.isDigit = false) : (digits.chars ++ rest).head? ≠ some char := by
  obtain ⟨first, later, split, isDigit⟩ := digits.head
  rw [split]
  intro found
  rw [Option.some.inj found, other] at isDigit
  exact Bool.false_ne_true isDigit

theorem Digits.span (digits : Digits) {rest : List Char}
    (ends : ∀ char ∈ rest.head?, char.isDigit = false) :
    (digits.chars ++ rest).takeWhile Char.isDigit = digits.chars ∧
      (digits.chars ++ rest).dropWhile Char.isDigit = rest := by
  rw [List.takeWhile_append_of_pos digits.all, List.dropWhile_append_of_pos digits.all]
  cases rest with
  | nil => exact ⟨List.append_nil _, rfl⟩
  | cons char rest =>
      have other : ¬ char.isDigit = true := by simp [ends char rfl]
      rw [List.takeWhile_cons_of_neg other, List.dropWhile_cons_of_neg other]
      exact ⟨List.append_nil _, rfl⟩

theorem isDigit_of_isDelimiter {char : Char} (delimiter : isDelimiter char = true) :
    char.isDigit = false := by
  simp only [isDelimiter, isSpace, Bool.or_eq_true, beq_iff_eq] at delimiter
  rcases delimiter with (((((rfl | rfl) | rfl) | rfl) | rfl) | rfl) | rfl
  all_goals rfl

theorem Delimited.not_digit {text : List Char} (delimited : Delimited text) :
    ∀ char ∈ text.head?, char.isDigit = false :=
  fun char found => isDigit_of_isDelimiter (delimited char found)

namespace NumberText

variable {rest : List Char}

theorem exponentText_ends (number : NumberText) (delimited : Delimited rest) :
    ∀ char ∈ (number.exponentText ++ rest).head?, char.isDigit = false := by
  intro char found
  rw [exponentText] at found
  cases isExponent : number.exponent with
  | none =>
      rw [isExponent] at found
      exact delimited.not_digit char found
  | some exponent =>
      rw [isExponent] at found
      obtain rfl : exponent.mark = char := by simpa [Exponent.text] using found
      rcases exponent.isMark with small | capital
      · rw [small]
        rfl
      · rw [capital]
        rfl

theorem fractionText_ends (number : NumberText) (delimited : Delimited rest) :
    ∀ char ∈ (number.fractionText ++ (number.exponentText ++ rest)).head?,
      char.isDigit = false := by
  intro char found
  rw [fractionText] at found
  cases isFraction : number.fraction with
  | none =>
      rw [isFraction] at found
      exact number.exponentText_ends delimited char found
  | some digits =>
      rw [isFraction] at found
      obtain rfl : '.' = char := by simpa using found
      rfl

end NumberText

theorem skipDigits_digits (digits : Digits) {rest : List Char}
    (ends : ∀ char ∈ rest.head?, char.isDigit = false) :
    skipDigits (digits.chars ++ rest) = .ok rest := by
  obtain ⟨taken, left⟩ := digits.span ends
  obtain ⟨first, later, split, -⟩ := digits.head
  rw [skipDigits, taken, left, split]

theorem skipExponent_unsigned {text : List Char} (plus : text.head? ≠ some '+')
    (minus : text.head? ≠ some '-') :
    skipExponent ('e' :: text) = skipDigits text ∧
      skipExponent ('E' :: text) = skipDigits text := by
  have noPlus : ∀ later, text = '+' :: later → False := by
    rintro later rfl
    exact plus rfl
  have noMinus : ∀ later, text = '-' :: later → False := by
    rintro later rfl
    exact minus rfl
  constructor
  · rw [skipExponent]
    exacts [noPlus, noMinus]
  · rw [skipExponent]
    exacts [noPlus, noMinus]

theorem skipExponent_text (exponent : Exponent) {rest : List Char}
    (ends : ∀ char ∈ rest.head?, char.isDigit = false) :
    skipExponent (exponent.text ++ rest) = .ok rest := by
  obtain ⟨mark, isMark, sign, isSign, digits⟩ := exponent
  have digitsLeft := skipDigits_digits digits ends
  have signLeft : skipExponent ('e' :: (sign.toList ++ digits.chars ++ rest)) = .ok rest ∧
      skipExponent ('E' :: (sign.toList ++ digits.chars ++ rest)) = .ok rest := by
    cases sign with
    | none =>
        rw [← digitsLeft]
        exact skipExponent_unsigned (digits.head_ne rest rfl) (digits.head_ne rest rfl)
    | some char =>
        rcases isSign char rfl with rfl | rfl
        · exact ⟨digitsLeft, digitsLeft⟩
        · exact ⟨digitsLeft, digitsLeft⟩
  rw [Exponent.text, List.cons_append]
  rcases isMark with rfl | rfl
  · exact signLeft.1
  · exact signLeft.2

theorem skipExponent_other {text : List Char} (small : text.head? ≠ some 'e')
    (capital : text.head? ≠ some 'E') : skipExponent text = .ok text := by
  unfold skipExponent
  split
  · exact absurd rfl small
  · exact absurd rfl capital
  · rfl

theorem skipFraction_other {text : List Char} (dot : text.head? ≠ some '.') :
    skipFraction text = skipExponent text := by
  unfold skipFraction
  split
  · exact absurd rfl dot
  · rfl

theorem skipNumber_other {text : List Char} (zero : text.head? ≠ some '0') :
    skipNumber text = skipDigits text >>= skipFraction := by
  unfold skipNumber
  split
  · exact absurd rfl zero
  · rfl

namespace NumberText

variable {rest : List Char}

theorem skipExponent_exponentText (number : NumberText) (delimited : Delimited rest) :
    skipExponent (number.exponentText ++ rest) = .ok rest := by
  rw [exponentText]
  cases number.exponent with
  | none => exact skipExponent_other (delimited.head_ne rfl) (delimited.head_ne rfl)
  | some exponent => exact skipExponent_text exponent delimited.not_digit

theorem exponentText_head (number : NumberText) (delimited : Delimited rest) :
    (number.exponentText ++ rest).head? ≠ some '.' := by
  rw [exponentText]
  cases number.exponent with
  | none => exact delimited.head_ne rfl
  | some exponent =>
      intro found
      have dot : exponent.mark = '.' := by simpa [Exponent.text] using found
      rcases exponent.isMark with small | capital
      · rw [small] at dot
        contradiction
      · rw [capital] at dot
        contradiction

theorem skipFraction_fractionText (number : NumberText) (delimited : Delimited rest) :
    skipFraction (number.fractionText ++ (number.exponentText ++ rest)) = .ok rest := by
  rw [fractionText]
  cases number.fraction with
  | none =>
      rw [List.nil_append, skipFraction_other (number.exponentText_head delimited)]
      exact number.skipExponent_exponentText delimited
  | some digits =>
      rw [List.cons_append, skipFraction,
        skipDigits_digits digits (number.exponentText_ends delimited)]
      exact number.skipExponent_exponentText delimited

theorem skipNumber_magnitude (number : NumberText) (delimited : Delimited rest) :
    skipNumber (number.magnitude ++ rest) = .ok rest := by
  have ends := number.fractionText_ends delimited
  have left := number.skipFraction_fractionText delimited
  rw [magnitude, List.append_assoc, List.append_assoc]
  by_cases zero : number.whole.chars.head? = some '0'
  · -- After a zero no other digit is looked at, so there has to be none.
    have span := number.whole.span ends
    rw [number.short zero] at span ⊢
    have digits := span.1
    rw [List.singleton_append, List.takeWhile_cons_of_pos rfl] at digits
    rw [List.singleton_append, skipNumber, (List.cons.inj digits).2]
    exact left
  · rw [skipNumber_other, skipDigits_digits number.whole ends]
    · exact left
    · obtain ⟨first, later, split, -⟩ := number.whole.head
      rw [split] at zero ⊢
      exact zero

end NumberText

/-- The key of a member with the colon after it. -/
inductive Key : List Char → Prop where
  | key {before body between : List Char} (isBefore : Blank before) (isBody : StringBody body)
      (isBetween : Blank between) :
      Key (before ++ '"' :: (body ++ '"' :: (between ++ [':'])))

mutual

/-- The texts of values.  Nothing blank stands around them. -/
inductive Written : List Char → Prop where
  | nullWord : Written ['n', 'u', 'l', 'l']
  | trueWord : Written ['t', 'r', 'u', 'e']
  | falseWord : Written ['f', 'a', 'l', 's', 'e']
  | number (number : NumberText) : Written number.text
  | string {body : List Char} (isBody : StringBody body) : Written ('"' :: (body ++ ['"']))
  | emptyArray {blank : List Char} (isBlank : Blank blank) : Written ('[' :: (blank ++ [']']))
  | array {elements : List Char} (isElements : Elements elements) :
      Written ('[' :: (elements ++ [']']))
  | emptyObject {blank : List Char} (isBlank : Blank blank) :
      Written ('\x7b' :: (blank ++ ['\x7d']))
  | object {members : List Char} (isMembers : Members members) :
      Written ('\x7b' :: (members ++ ['\x7d']))

/-- A value with the blanks around it. -/
inductive Element : List Char → Prop where
  | padded {before value after : List Char} (isBefore : Blank before) (written : Written value)
      (isAfter : Blank after) : Element (before ++ (value ++ after))

/-- What stands between the brackets of an array that is not empty. -/
inductive Elements : List Char → Prop where
  | last {element : List Char} (isElement : Element element) : Elements element
  | more {element later : List Char} (isElement : Element element) (isLater : Elements later) :
      Elements (element ++ ',' :: later)

/-- What stands between the braces of an object that is not empty. -/
inductive Members : List Char → Prop where
  | last {key element : List Char} (isKey : Key key) (isElement : Element element) :
      Members (key ++ element)
  | more {key element later : List Char} (isKey : Key key) (isElement : Element element)
      (isLater : Members later) : Members (key ++ (element ++ ',' :: later))

end

theorem isSpace_of_isDelimiter {char : Char} (inner : isDelimiter char = false) :
    isSpace char = false := by
  simp only [isDelimiter, Bool.or_eq_false_iff] at inner
  exact inner.1.1.1

theorem NumberText.head (number : NumberText) :
    ∃ first later, number.text = first :: later ∧ (first = '-' ∨ first.isDigit = true) := by
  rw [text]
  cases number.negative with
  | true => exact ⟨'-', number.magnitude, rfl, .inl rfl⟩
  | false =>
      obtain ⟨first, later, split, isDigit⟩ := number.whole.head
      refine ⟨first, later ++ (number.fractionText ++ number.exponentText), ?_, .inr isDigit⟩
      rw [if_neg Bool.false_ne_true, magnitude, split, List.cons_append]

/-- A value starts with something that is neither blank nor a mark between values. -/
theorem Written.head {value : List Char} (written : Written value) :
    ∃ first later, value = first :: later ∧ isDelimiter first = false := by
  cases written with
  | number number =>
      obtain ⟨first, later, split, sign | isDigit⟩ := number.head
      · exact ⟨first, later, split, sign ▸ rfl⟩
      · refine ⟨first, later, split, ?_⟩
        by_contra delimiter
        rw [Bool.not_eq_false] at delimiter
        rw [isDigit_of_isDelimiter delimiter] at isDigit
        exact Bool.false_ne_true isDigit
  | _ => exact ⟨_, _, rfl, rfl⟩

theorem skipValueWith_blank {blank : List Char} (isBlank : Blank blank) (fuel : Nat)
    (text : List Char) : skipValueWith fuel (blank ++ text) = skipValueWith fuel text := by
  cases fuel with
  | zero => rfl
  | succ fuel => rw [skipValueWith, skipValueWith, skipSpace_blank isBlank]

theorem skipElementsWith_skipSpace (fuel : Nat) (text : List Char) :
    skipElementsWith fuel (skipSpace text) = skipElementsWith fuel text := by
  have value : ∀ fuel, skipValueWith fuel (skipSpace text) = skipValueWith fuel text := by
    intro fuel
    cases fuel with
    | zero => rfl
    | succ fuel => rw [skipValueWith, skipValueWith, skipSpace_skipSpace]
  cases fuel with
  | zero => rfl
  | succ fuel => rw [skipElementsWith, skipElementsWith, value]

theorem skipMembersWith_skipSpace (fuel : Nat) (text : List Char) :
    skipMembersWith fuel (skipSpace text) = skipMembersWith fuel text := by
  cases fuel with
  | zero => rfl
  | succ fuel => rw [skipMembersWith, skipMembersWith, expectMark, expectMark, skipSpace_skipSpace]

theorem skipValueWith_array {text later : List Char} {first : Char}
    (starts : skipSpace text = first :: later) (other : first ≠ ']') (fuel : Nat) :
    skipValueWith (fuel + 1) ('[' :: text) = skipElementsWith fuel text := by
  have solid := skipElementsWith_skipSpace fuel text
  rw [starts] at solid
  rw [skipValueWith, skipSpace_solid rfl, ← solid]
  simp only [starts]
  split
  · contradiction
  · next same => exact absurd (List.cons.inj same).1 other
  · rfl

theorem skipValueWith_object {text later : List Char}
    (starts : skipSpace text = '"' :: later) (fuel : Nat) :
    skipValueWith (fuel + 1) ('\x7b' :: text) = skipMembersWith fuel text := by
  have solid := skipMembersWith_skipSpace fuel text
  rw [starts] at solid
  rw [skipValueWith, skipSpace_solid rfl, ← solid]
  simp only [starts]
  rfl

theorem Element.starts {element : List Char} (isElement : Element element) (rest : List Char) :
    ∃ first later, skipSpace (element ++ rest) = first :: later ∧ isDelimiter first = false := by
  obtain ⟨isBefore, written, isAfter⟩ := isElement
  obtain ⟨first, later, rfl, inner⟩ := written.head
  rw [List.append_assoc, skipSpace_blank isBefore, List.cons_append, List.cons_append,
    skipSpace_solid (isSpace_of_isDelimiter inner)]
  exact ⟨first, _, rfl, inner⟩

theorem Elements.starts {elements : List Char} (isElements : Elements elements)
    (rest : List Char) :
    ∃ first later, skipSpace (elements ++ rest) = first :: later ∧ isDelimiter first = false := by
  cases isElements with
  | last isElement => exact isElement.starts rest
  | more isElement isLater =>
      rw [List.append_assoc]
      exact isElement.starts _

theorem Key.starts {key : List Char} (isKey : Key key) (rest : List Char) :
    ∃ later, skipSpace (key ++ rest) = '"' :: later := by
  obtain ⟨isBefore, isBody, isBetween⟩ := isKey
  rw [List.append_assoc, List.cons_append]
  exact ⟨_, skipSpace_blank_solid isBefore rfl _⟩

theorem Key.skips {key : List Char} (isKey : Key key) (rest : List Char) :
    (expectMark '"' (key ++ rest) >>= skipString >>= expectMark ':') = .ok rest := by
  obtain ⟨isBefore, isBody, isBetween⟩ := isKey
  simp only [List.append_assoc, List.cons_append, List.nil_append]
  rw [expectMark_blank isBefore rfl]
  simp only [bind, Except.bind]
  rw [isBody.skipString]
  exact expectMark_blank isBetween rfl rest

theorem Members.starts {members : List Char} (isMembers : Members members) (rest : List Char) :
    ∃ later, skipSpace (members ++ rest) = '"' :: later := by
  cases isMembers with
  | last isKey isElement =>
      rw [List.append_assoc]
      exact isKey.starts _
  | more isKey isElement isLater =>
      rw [List.append_assoc]
      exact isKey.starts _

theorem NumberText.skipValueWith_text (number : NumberText) {rest : List Char}
    (delimited : Delimited rest) (fuel : Nat) :
    skipValueWith (fuel + 1) (number.text ++ rest) = .ok rest := by
  have left := number.skipNumber_magnitude delimited
  rw [text]
  cases number.negative with
  | true => exact left
  | false =>
      obtain ⟨first, later, split, isDigit⟩ := number.whole.head
      rw [magnitude, split] at left ⊢
      obtain ⟨small, char⟩ := exists_digitChar isDigit
      rw [← char] at left ⊢
      generalize digitValue first = digit at small left ⊢
      interval_cases digit <;> exact left

mutual

/-- A value is passed over up to its end.  Every character of it pays for two steps, and
every step into a value or on to the next one uses one up. -/
theorem Written.skips {value rest : List Char} (written : Written value)
    (delimited : Delimited rest) {fuel : Nat} (enough : 2 * value.length ≤ fuel) :
    skipValueWith fuel (value ++ rest) = .ok rest := by
  have positive : 0 < fuel := by
    obtain ⟨first, later, rfl, -⟩ := written.head
    rw [List.length_cons] at enough
    omega
  obtain ⟨fuel, rfl⟩ := Nat.exists_eq_add_of_le' positive
  cases written with
  | nullWord => rfl
  | trueWord => rfl
  | falseWord => rfl
  | number number => exact number.skipValueWith_text delimited fuel
  | string isBody =>
      rw [List.cons_append, List.append_assoc, List.singleton_append]
      exact isBody.skipString rest
  | emptyArray isBlank =>
      rw [List.cons_append, List.append_assoc, List.singleton_append, skipValueWith,
        skipSpace_solid rfl]
      simp only [skipSpace_blank_solid isBlank (show isSpace ']' = false from rfl)]
  | array isElements =>
      obtain ⟨first, later, starts, inner⟩ := isElements.starts (']' :: rest)
      have other : first ≠ ']' := by
        rintro rfl
        contradiction
      simp only [List.length_cons, List.length_append] at enough
      rw [List.cons_append, List.append_assoc, List.singleton_append,
        skipValueWith_array starts other]
      exact isElements.skips (by omega)
  | emptyObject isBlank =>
      rw [List.cons_append, List.append_assoc, List.singleton_append, skipValueWith,
        skipSpace_solid rfl]
      simp only [skipSpace_blank_solid isBlank (show isSpace '\x7d' = false from rfl)]
  | object isMembers =>
      obtain ⟨later, starts⟩ := isMembers.starts ('\x7d' :: rest)
      simp only [List.length_cons, List.length_append] at enough
      rw [List.cons_append, List.append_assoc, List.singleton_append,
        skipValueWith_object starts]
      exact isMembers.skips (by omega)
termination_by (fuel, 0)

theorem Element.skips {element rest : List Char} (isElement : Element element)
    (delimited : Delimited rest) {fuel : Nat} (enough : 2 * element.length ≤ fuel) :
    ∃ after, Blank after ∧ skipValueWith fuel (element ++ rest) = .ok (after ++ rest) := by
  cases isElement with
  | @padded before value after isBefore written isAfter =>
      simp only [List.length_append] at enough
      refine ⟨after, isAfter, ?_⟩
      rw [List.append_assoc, skipValueWith_blank isBefore, List.append_assoc]
      exact written.skips (delimited_blank isAfter delimited) (by omega)
termination_by (fuel, 1)

theorem Elements.skips {elements rest : List Char} (isElements : Elements elements) {fuel : Nat}
    (enough : 2 * elements.length + 1 ≤ fuel) :
    skipElementsWith fuel (elements ++ ']' :: rest) = .ok rest := by
  obtain ⟨fuel, rfl⟩ := Nat.exists_eq_add_of_le' (Nat.le_of_add_left_le enough)
  cases isElements with
  | last isElement =>
      have closed : Delimited (']' :: rest) := delimited_cons rfl rest
      obtain ⟨after, isAfter, left⟩ := isElement.skips closed (show _ ≤ fuel by omega)
      rw [skipElementsWith, left]
      simp only [skipSpace_blank_solid isAfter (show isSpace ']' = false from rfl)]
  | @more element later isElement isLater =>
      have comma : Delimited (',' :: (later ++ ']' :: rest)) := delimited_cons rfl _
      simp only [List.length_append, List.length_cons] at enough
      obtain ⟨after, isAfter, left⟩ := isElement.skips comma (show _ ≤ fuel by omega)
      rw [List.append_assoc, List.cons_append, skipElementsWith, left]
      simp only [skipSpace_blank_solid isAfter (show isSpace ',' = false from rfl)]
      exact isLater.skips (by omega)
termination_by (fuel, 0)

theorem Members.skips {members rest : List Char} (isMembers : Members members) {fuel : Nat}
    (enough : 2 * members.length + 1 ≤ fuel) :
    skipMembersWith fuel (members ++ '\x7d' :: rest) = .ok rest := by
  obtain ⟨fuel, rfl⟩ := Nat.exists_eq_add_of_le' (Nat.le_of_add_left_le enough)
  cases isMembers with
  | last isKey isElement =>
      have closed : Delimited ('\x7d' :: rest) := delimited_cons rfl rest
      simp only [List.length_append] at enough
      obtain ⟨after, isAfter, left⟩ := isElement.skips closed (show _ ≤ fuel by omega)
      rw [List.append_assoc, skipMembersWith, isKey.skips]
      simp only [bind, Except.bind, left,
        skipSpace_blank_solid isAfter (show isSpace '\x7d' = false from rfl)]
  | @more key element later isKey isElement isLater =>
      have comma : Delimited (',' :: (later ++ '\x7d' :: rest)) := delimited_cons rfl _
      simp only [List.length_append, List.length_cons] at enough
      obtain ⟨after, isAfter, left⟩ := isElement.skips comma (show _ ≤ fuel by omega)
      rw [List.append_assoc, List.append_assoc, List.cons_append, skipMembersWith, isKey.skips]
      simp only [bind, Except.bind, left,
        skipSpace_blank_solid isAfter (show isSpace ',' = false from rfl)]
      exact isLater.skips (by omega)
termination_by (fuel, 0)

end

end AcceleratorTrace.Json
