import Mathlib.Data.List.Basic
import ScenarioRunner.Regex.Escape
import ScenarioRunner.Text.Quoted

/-!
# Quoted forms read back

The quoted form of a text has one piece for each character of it.  What a piece
stands for is read off the front of the form: a backslash tells that the piece
is longer than one character, and a code point ends at its closing brace.  So
texts with the same quoted form are the same.

The main statement is `Text.quoted_inj`.
-/

namespace ScenarioRunner.Text

/-! ## Texts written character by character -/

/-- If a reader takes back each character as it is written, but no quote, then
what is written up to a closing quote determines the text. -/
theorem written_inj {write : Char → List Char}
    {read? : List Char → Option (Char × List Char)}
    (reads : ∀ char rest, read? (write char ++ rest) = some (char, rest))
    (closes : ∀ rest, read? ('"' :: rest) = none)
    {first second rest others : List Char}
    (same : first.flatMap write ++ '"' :: rest =
      second.flatMap write ++ '"' :: others) :
    first = second ∧ rest = others := by
  induction first generalizing second with
  | nil =>
      cases second with
      | nil => exact ⟨rfl, List.tail_eq_of_cons_eq same⟩
      | cons char more =>
          have read := congrArg read? same
          rw [List.flatMap_nil, List.nil_append, closes, List.flatMap_cons,
            List.append_assoc, reads] at read
          cases read
  | cons char later ih =>
      have read := congrArg read? same
      rw [List.flatMap_cons, List.append_assoc, reads] at read
      cases second with
      | nil =>
          rw [List.flatMap_nil, List.nil_append, closes] at read
          cases read
      | cons other more =>
          rw [List.flatMap_cons, List.append_assoc, reads, Option.some.injEq,
            Prod.mk.injEq] at read
          obtain ⟨rfl, rest⟩ := read
          obtain ⟨rfl, behind⟩ := ih rest
          exact ⟨rfl, behind⟩

/-! ## Hexadecimal digits -/

/-- The number that hexadecimal digits denote. -/
def hexadecimalValue (digits : List Char) : Nat :=
  digits.foldl (fun value digit => 16 * value + (Regex.hexValue? digit).getD 0)
    0

theorem hexValue?_digitChar (digit : Fin 16) :
    Regex.hexValue? (Nat.digitChar digit) = some digit.val := by
  revert digit
  decide

/-- A number has one digit, or its last digit stands behind those of the
sixteenth part. -/
theorem hexadecimal_induction {property : Nat → List Char → Prop}
    (single : ∀ digit : Fin 16, property digit [Nat.digitChar digit])
    (behind : ∀ number (digit : Fin 16), property number (hexadecimal number) →
      property (16 * number + digit)
        (hexadecimal number ++ [Nat.digitChar digit]))
    (number : Nat) : property number (hexadecimal number) := by
  induction number using Nat.strongRecOn with
  | ind number ih =>
      unfold hexadecimal
      by_cases small : number < 16
      · rw [Nat.toDigits_of_lt_base small]
        exact single ⟨number, small⟩
      · have large := Nat.le_of_not_lt small
        rw [Nat.toDigits_of_base_le (by decide) large]
        have fewer := ih (number / 16) (by omega)
        have last : number % 16 < 16 := Nat.mod_lt _ (by decide)
        have whole := behind _ ⟨_, last⟩ fewer
        rwa [Nat.div_add_mod] at whole

theorem hexadecimalValue_hexadecimal (number : Nat) :
    hexadecimalValue (hexadecimal number) = number := by
  induction number using hexadecimal_induction with
  | single digit => simp [hexadecimalValue, hexValue?_digitChar]
  | behind number digit ih =>
      rw [hexadecimalValue, List.foldl_append]
      change 16 * hexadecimalValue (hexadecimal number) + _ = _
      rw [ih, hexValue?_digitChar, Option.getD_some]

theorem brace_notMem_hexadecimal (number : Nat) :
    '\x7D' ∉ hexadecimal number := by
  have digits (digit : Fin 16) : '\x7D' ∉ [Nat.digitChar digit] := by
    revert digit
    decide
  induction number using hexadecimal_induction with
  | single digit => exact digits digit
  | behind number digit ih =>
      rw [List.mem_append, not_or]
      exact ⟨ih, digits digit⟩

/-! ## Characters read back -/

/-- Read a character of a quoted form; a quote is none. -/
def readQuoted? : List Char → Option (Char × List Char)
  | [] => none
  | '"' :: _ => none
  | '\\' :: 'u' :: '\x7B' :: rest =>
      some (Char.ofNat (hexadecimalValue (rest.takeWhile (· != '\x7D'))),
        (rest.dropWhile (· != '\x7D')).tail)
  | '\\' :: '0' :: rest => some ('\x00', rest)
  | '\\' :: 't' :: rest => some ('\t', rest)
  | '\\' :: 'r' :: rest => some ('\r', rest)
  | '\\' :: 'n' :: rest => some ('\n', rest)
  | '\\' :: char :: rest => some (char, rest)
  | '\\' :: [] => none
  | char :: rest => some (char, rest)

theorem readQuoted?_plain {char : Char} (quote : char ≠ '"')
    (backslash : char ≠ '\\') (rest : List Char) :
    readQuoted? (char :: rest) = some (char, rest) := by
  unfold readQuoted?
  split <;> simp_all

/-- A code point is read up to the closing brace. -/
theorem readQuoted?_codePoint (char : Char) (rest : List Char) :
    readQuoted? ('\\' :: 'u' :: '\x7B' ::
        (hexadecimal char.toNat ++ '\x7D' :: rest)) =
      some (char, rest) := by
  have digits : ∀ digit ∈ hexadecimal char.toNat, (digit != '\x7D') = true := by
    intro digit member
    rw [bne_iff_ne]
    exact ne_of_mem_of_not_mem member (brace_notMem_hexadecimal _)
  rw [readQuoted?, List.takeWhile_append_of_pos digits,
    List.dropWhile_append_of_pos digits]
  simp [hexadecimalValue_hexadecimal]

theorem readQuoted?_quotedChar (char : Char) (rest : List Char) :
    readQuoted? (quotedChar char ++ rest) = some (char, rest) := by
  unfold quotedChar
  split
  iterate 6 rfl
  rename_i quote backslash
  split
  · simpa using readQuoted?_codePoint char rest
  · exact readQuoted?_plain quote backslash rest

/-- Texts with the same quoted form are the same. -/
theorem quoted_inj {first second : String} :
    quoted first = quoted second ↔ first = second := by
  constructor
  · intro same
    rw [quoted, quoted, String.ofList_inj, List.cons_append, List.cons_append,
      List.cons.injEq] at same
    obtain ⟨text, -⟩ :=
      written_inj readQuoted?_quotedChar (fun _ => rfl) same.2
    exact String.toList_inj.mp text
  · exact congrArg quoted

/-- A quoted form starts with its opening quote. -/
theorem head?_quoted (text : String) :
    (quoted text).toList.head? = some '"' := by
  rw [quoted, String.toList_ofList]
  rfl

end ScenarioRunner.Text
