import ScenarioRunner.Proofs.IntegerReading
import ScenarioRunner.Text.Blank

/-!
# Numerals

A numeral is an optional minus and decimal digits, which may be of any script.
It denotes an integer.  Reading gives that integer if it is in the range and
all digits are ASCII digits; a digit of another script is an error, whatever
the numeral denotes.

The main statement is `Numeral.reads`.
-/

namespace ScenarioRunner.Number

/-! ## Digits of all scripts -/

/-- The value of a decimal digit.  The digits of a script stand together, from
zero to nine. -/
def scriptValue (char : Char) : Nat :=
  match Text.Category.decimalNumberRanges.find? fun range =>
    range.1 ≤ char.toNat && char.toNat ≤ range.2 with
  | some range => (char.toNat - range.1) % 10
  | none => 0

/-- The table has whole groups of ten. -/
example : ∀ range ∈ Text.Category.decimalNumberRanges,
    (range.2 + 1 - range.1) % 10 = 0 := by
  decide

/-- What digits denote behind those of a magnitude. -/
def decimal (magnitude : Nat) (digits : List Char) : Nat :=
  digits.foldl (fun value digit => 10 * value + scriptValue digit) magnitude

theorem scriptValue_eq {char : Char} (plain : char.isDigit = true) :
    scriptValue char = char.toNat - '0'.toNat := by
  have bounds : 48 ≤ char.toNat ∧ char.toNat ≤ 57 := by
    simpa [Char.isDigit, UInt32.le_iff_toNat_le] using plain
  have ascii :
      (Text.Category.decimalNumberRanges.find? fun range =>
        range.1 ≤ char.toNat && char.toNat ≤ range.2) = some (48, 57) :=
    List.find?_cons_of_pos (by simpa using bounds)
  rw [scriptValue, ascii]
  show (char.toNat - 48) % 10 = char.toNat - 48
  omega

/-- ASCII digits denote what they are read as. -/
theorem decimal_eq_ofDigitChars {digits : List Char}
    (plain : ∀ char ∈ digits, char.isDigit = true) (magnitude : Nat) :
    decimal magnitude digits = Nat.ofDigitChars 10 digits magnitude := by
  induction digits generalizing magnitude with
  | nil => simp [decimal]
  | cons digit later ih =>
      rw [List.forall_mem_cons] at plain
      rw [Nat.ofDigitChars_cons, ← ih plain.2, ← scriptValue_eq plain.1]
      rfl

theorem le_decimal (magnitude : Nat) (digits : List Char) :
    magnitude ≤ decimal magnitude digits := by
  induction digits generalizing magnitude with
  | nil => exact Nat.le_refl _
  | cons digit later ih =>
      have next : magnitude ≤ 10 * magnitude + scriptValue digit := by omega
      exact Nat.le_trans next (ih _)

/-! ## Reading -/

section Reading

variable {range : IntegerRange} {negative : Bool} {digits : List Char}

/-- A digit of another script is an error, unless the digits before it are out
of the range. -/
theorem readDigits_of_foreign (zero : range.HoldsZero)
    (foreign : ∃ char ∈ digits, char.isDigit = false) {magnitude : Nat}
    (inside :
      range.contains (signed negative (decimal magnitude digits)) = true) :
    readDigits range negative (signed negative magnitude) digits =
      .error .invalidDigit := by
  induction digits generalizing magnitude with
  | nil =>
      obtain ⟨char, member, -⟩ := foreign
      cases member
  | cons digit later ih =>
      by_cases plain : digit.isDigit = true
      · have value : digitValue? digit = some (digit.toNat - '0'.toNat) := by
          rw [digitValue?, if_pos plain]
        have others : ∃ char ∈ later, char.isDigit = false := by
          simpa [plain] using foreign
        have next : decimal magnitude (digit :: later) =
            decimal (10 * magnitude + (digit.toNat - '0'.toNat)) later := by
          rw [← scriptValue_eq plain]
          rfl
        rw [next] at inside
        rw [readDigits, value]
        simp only [signed_next]
        rw [if_pos (contains_signed_of_le zero (le_decimal _ _) inside)]
        exact ih others inside
      · rw [readDigits, digitValue?, if_neg plain]

theorem readDigits_eq_error {value : Int} {error : IntegerError}
    (read : readDigits range negative value digits = .error error) :
    error = .invalidDigit ∨ error = outside negative := by
  induction digits generalizing value with
  | nil => cases read
  | cons digit later ih =>
      rw [readDigits] at read
      split at read
      · cases read
        exact .inl rfl
      · dsimp only at read
        generalize (if negative then _ else _ : Int) = next at read
        split at read
        · exact ih read
        · cases read
          exact .inr rfl

end Reading

/-! ## Numerals -/

/-- A text is digits of any scripts, with an optional minus in front. -/
structure Numeral (text : List Char) (negative : Bool) (digits : List Char) :
    Prop where
  written : text = (if negative then ['-'] else []) ++ digits
  nonempty : digits ≠ []
  decimal : ∀ char ∈ digits, Text.isDigit char = true

/-- The integer that a numeral denotes in decimal. -/
def denoted (negative : Bool) (digits : List Char) : Int :=
  signed negative (decimal 0 digits)

/-- What comes of reading a numeral. -/
inductive Reads (range : IntegerRange) (negative : Bool)
    (digits : List Char) : Except IntegerError Int → Prop where
  | value (plain : ∀ char ∈ digits, char.isDigit = true)
      (inside : range.contains (denoted negative digits) = true) :
      Reads range negative digits (.ok (denoted negative digits))
  | outside (plain : ∀ char ∈ digits, char.isDigit = true)
      (beyond : range.contains (denoted negative digits) = false) :
      Reads range negative digits (.error (outside negative))
  | foreign (foreign : ∃ char ∈ digits, char.isDigit = false)
      (inside : range.contains (denoted negative digits) = true) :
      Reads range negative digits (.error .invalidDigit)
  | either (foreign : ∃ char ∈ digits, char.isDigit = false)
      (beyond : range.contains (denoted negative digits) = false)
      {error : IntegerError}
      (one : error = .invalidDigit ∨ error = Number.outside negative) :
      Reads range negative digits (.error error)

theorem reads_readDigits {range : IntegerRange} (zero : range.HoldsZero)
    (negative : Bool) (digits : List Char) :
    Reads range negative digits
      (readDigits range negative (signed negative 0) digits) := by
  have start : range.contains (signed negative 0) = true := by
    rw [contains_iff]
    cases negative <;> exact ⟨zero.lowest, zero.highest⟩
  by_cases plain : ∀ char ∈ digits, char.isDigit = true
  · have read := readDigits_of_digits zero negative plain start
    rw [← decimal_eq_ofDigitChars plain] at read
    rw [read]
    split
    · rename_i inside
      exact .value plain inside
    · rename_i beyond
      exact .outside plain (Bool.eq_false_iff.mpr beyond)
  · have foreign : ∃ char ∈ digits, char.isDigit = false := by
      simpa using plain
    by_cases inside : range.contains (denoted negative digits) = true
    · rw [readDigits_of_foreign zero foreign inside]
      exact .foreign foreign inside
    · have beyond : range.contains (denoted negative digits) = false := by
        simpa using inside
      obtain ⟨char, member, other⟩ := foreign
      obtain ⟨error, read⟩ := readDigits_of_other range negative member other
        (signed negative 0)
      rw [read]
      exact .either ⟨char, member, other⟩ beyond (readDigits_eq_error read)

/-- A numeral is read digit by digit. -/
theorem Numeral.readInteger_eq {text digits : List Char} {negative : Bool}
    (numeral : Numeral text negative digits) {range : IntegerRange}
    (negatives : range.lowest < 0) :
    readInteger range (String.ofList text) =
      readDigits range negative (signed negative 0) digits := by
  obtain ⟨rfl, nonempty, decimal⟩ := numeral
  obtain ⟨first, later, rfl⟩ := List.exists_cons_of_ne_nil nonempty
  rw [readInteger, String.toList_ofList]
  cases negative with
  | true => simp [negatives, signed]
  | false =>
      rw [List.forall_mem_cons] at decimal
      have minus : first ≠ '-' := by
        rintro rfl
        exact absurd decimal.1 (by decide +kernel)
      have plus : first ≠ '+' := by
        rintro rfl
        exact absurd decimal.1 (by decide +kernel)
      simp only [Bool.false_eq_true, if_false, List.nil_append]
      split <;> simp_all [signed]

/-- A numeral is read as what it denotes, or there is a reason. -/
theorem Numeral.reads {text digits : List Char} {negative : Bool}
    (numeral : Numeral text negative digits) {range : IntegerRange}
    (zero : range.HoldsZero) (negatives : range.lowest < 0) :
    Reads range negative digits (readInteger range (String.ofList text)) := by
  rw [numeral.readInteger_eq negatives]
  exact reads_readDigits zero negative digits

end ScenarioRunner.Number
