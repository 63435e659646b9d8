import Mathlib.Algebra.GroupWithZero.Nat
import ScenarioRunner.Proofs.PlaceholderGroups

/-!
# Integers that are read

A text of ASCII digits is read as the number that it denotes in decimal, if
that is in the range that is asked for, and a sign before it is heeded.  Any
other character is an error, whatever the digits before it are.

The main statements are `Number.readDigits_of_digits` and
`Expression.placeholderOfName?_groupName`.
-/

namespace ScenarioRunner

namespace Number

/-- An integer by its sign and its magnitude. -/
def signed (negative : Bool) (magnitude : Nat) : Int :=
  if negative then -(magnitude : Int) else magnitude

/-- What an integer out of a range is reported as. -/
def outside (negative : Bool) : IntegerError :=
  if negative then .tooSmall else .tooLarge

/-- A range that holds zero. -/
structure IntegerRange.HoldsZero (range : IntegerRange) : Prop where
  lowest : range.lowest ≤ 0
  highest : 0 ≤ range.highest

theorem contains_iff (range : IntegerRange) (value : Int) :
    range.contains value = true ↔
      range.lowest ≤ value ∧ value ≤ range.highest := by
  simp [IntegerRange.contains]

/-- A range that holds zero holds what is between zero and another of its
integers. -/
theorem contains_signed_of_le {range : IntegerRange} (zero : range.HoldsZero)
    {negative : Bool} {smaller larger : Nat} (less : smaller ≤ larger)
    (inside : range.contains (signed negative larger) = true) :
    range.contains (signed negative smaller) = true := by
  rw [contains_iff] at inside ⊢
  obtain ⟨lowest, highest⟩ := zero
  cases negative with
  | true =>
      simp only [signed, if_true] at inside ⊢
      omega
  | false =>
      simp only [signed, Bool.false_eq_true, if_false] at inside ⊢
      omega

/-- The next digit makes the magnitude ten times as large, and adds to it. -/
theorem signed_next (negative : Bool) (magnitude digit : Nat) :
    (if negative then signed negative magnitude * 10 - digit
      else signed negative magnitude * 10 + digit) =
      signed negative (10 * magnitude + digit) := by
  cases negative with
  | true =>
      simp only [signed, if_true]
      omega
  | false =>
      simp only [signed, Bool.false_eq_true, if_false]
      omega

theorem le_ofDigitChars (magnitude : Nat) (digits : List Char) :
    magnitude ≤ Nat.ofDigitChars 10 digits magnitude := by
  induction digits generalizing magnitude with
  | nil => simp
  | cons digit later ih =>
      rw [Nat.ofDigitChars_cons]
      exact Nat.le_trans (by omega) (ih _)

/-- Digits are read as what they denote, or as out of the range. -/
theorem readDigits_of_digits {range : IntegerRange} (zero : range.HoldsZero)
    (negative : Bool) {digits : List Char}
    (plain : ∀ char ∈ digits, char.isDigit = true) {magnitude : Nat}
    (inside : range.contains (signed negative magnitude) = true) :
    readDigits range negative (signed negative magnitude) digits =
      if range.contains
          (signed negative (Nat.ofDigitChars 10 digits magnitude)) then
        .ok (signed negative (Nat.ofDigitChars 10 digits magnitude))
      else .error (outside negative) := by
  induction digits generalizing magnitude with
  | nil => simp [readDigits, inside]
  | cons digit later ih =>
      rw [List.forall_mem_cons] at plain
      have value : digitValue? digit = some (digit.toNat - '0'.toNat) := by
        rw [digitValue?, if_pos plain.1]
      rw [Nat.ofDigitChars_cons, readDigits, value]
      simp only [signed_next]
      split
      · rename_i next
        exact ih plain.2 next
      · rename_i next
        have beyond :
            ¬ range.contains (signed negative (Nat.ofDigitChars 10 later
              (10 * magnitude + (digit.toNat - '0'.toNat)))) = true := by
          intro total
          exact next (contains_signed_of_le zero (le_ofDigitChars _ _) total)
        rw [if_neg beyond, outside]

/-- A character that is no digit is an error. -/
theorem readDigits_of_other (range : IntegerRange) (negative : Bool)
    {chars : List Char} {char : Char} (member : char ∈ chars)
    (other : char.isDigit = false) (value : Int) :
    ∃ error, readDigits range negative value chars = .error error := by
  induction chars generalizing value with
  | nil => cases member
  | cons first later ih =>
      rw [readDigits]
      cases read : digitValue? first with
      | none => exact ⟨_, rfl⟩
      | some digit =>
          dsimp only
          generalize (if negative then value * 10 - (digit : Int)
            else value * 10 + digit) = next
          split
          · rcases List.mem_cons.mp member with rfl | among
            · simp [digitValue?, other] at read
            · exact ih among _
          · exact ⟨_, rfl⟩

/-- Digits without a sign are read from the first one on. -/
theorem readInteger_of_digits {range : IntegerRange} (zero : range.HoldsZero)
    {digits : List Char} (nonempty : digits ≠ [])
    (plain : ∀ char ∈ digits, char.isDigit = true) :
    readInteger range (String.ofList digits) =
      if range.contains (Nat.ofDigitChars 10 digits 0 : Int) then
        .ok (Nat.ofDigitChars 10 digits 0 : Int)
      else .error .tooLarge := by
  have inside : range.contains (signed false 0) = true :=
    (contains_iff _ _).mpr ⟨zero.lowest, zero.highest⟩
  have read := readDigits_of_digits zero false plain inside
  cases digits with
  | nil => exact absurd rfl nonempty
  | cons first later =>
      rw [List.forall_mem_cons] at plain
      rw [readInteger, String.toList_ofList]
      split
      · rename_i same
        cases same
      · exact absurd plain.1 (by simp_all)
      · exact absurd plain.1 (by simp_all)
      · exact absurd plain.1 (by simp_all)
      · exact absurd plain.1 (by simp_all)
      · exact read

end Number

namespace Expression

/-- The name of a renamed group tells its placeholder, if a machine word can
count it. -/
theorem placeholderOfName?_groupName {placeholder : Nat}
    (small : placeholder < 2 ^ 64) (number : Nat) :
    placeholderOfName? (groupName placeholder number) = some placeholder := by
  have plain : ∀ char ∈ Nat.toDigits 10 placeholder,
      char.isDigit = true := fun char member =>
    Nat.isDigit_of_mem_toDigits (by decide) (by decide) member
  have taken :
      (Nat.toDigits 10 placeholder ++ '_' :: number.repr.toList).takeWhile
          (· != '_') = Nat.toDigits 10 placeholder := by
    have before : ∀ char ∈ Nat.toDigits 10 placeholder,
        (char != '_') = true := by
      intro char member
      rw [bne_iff_ne]
      rintro rfl
      exact Nat.underscore_not_in_toDigits member
    rw [List.takeWhile_append_of_pos before]
    simp
  have counted :
      (Number.IntegerRange.unsigned 64).contains placeholder = true := by
    rw [Number.contains_iff]
    constructor
    · exact Int.natCast_nonneg placeholder
    · have highest :
          (Number.IntegerRange.unsigned 64).highest = 2 ^ 64 - 1 := by
        decide
      rw [highest]
      omega
  have zero : (Number.IntegerRange.unsigned 64).HoldsZero := by
    constructor <;> decide
  have read :
      Number.readInteger (.unsigned 64)
          (String.ofList (Nat.toDigits 10 placeholder)) =
        .ok placeholder := by
    rw [Number.readInteger_of_digits zero Nat.toDigits_ne_nil plain,
      Nat.ofDigitChars_ten_toDigits, if_pos counted]
  have separated :
      (Nat.toDigits 10 placeholder ++ '_' :: number.repr.toList).contains
        '_' = true := by
    simp
  rw [placeholderOfName?, toList_groupName, Nat.toList_repr]
  simp only [separated, if_true, taken, read, Int.toNat_natCast]

end Expression

end ScenarioRunner
