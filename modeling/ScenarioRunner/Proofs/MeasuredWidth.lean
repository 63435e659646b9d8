import Mathlib.Data.List.Basic
import ScenarioRunner.Console.Width

/-!
# Widths of texts that are put together

In general a text is not as wide as its parts together: a terminal code may
begin in one part and end in the next one, and what a character looks like
depends on its neighbours.  Blanks and the signs that borders are drawn with
keep the texts on both sides of them apart.  A function that respects this is a
`Measure`, and nothing else is asked of one.

The main definition is `terminal`: the width on a terminal is a measure.
-/

namespace ScenarioRunner.Console

/-- What stands around and between the texts of a table. -/
def frameSigns : List Char :=
  [' ', '─', '│', '┌', '┬', '┐', '├', '┼', '┤', '└', '┴', '┘']

/-- A way to measure texts.  A blank or a sign of a border takes one column, and
the widths of the texts on both sides of it add up. -/
structure Measure where
  width : List Char → Nat
  width_nil : width [] = 0
  width_append_frame : ∀ sign ∈ frameSigns, ∀ front rest,
    width (front ++ sign :: rest) = width front + 1 + width rest

namespace Measure

variable (measure : Measure) {sign : Char} (frame : sign ∈ frameSigns)

include frame

theorem width_frame_cons (rest : List Char) :
    measure.width (sign :: rest) = 1 + measure.width rest := by
  have whole := measure.width_append_frame sign frame [] rest
  rwa [List.nil_append, measure.width_nil, Nat.zero_add] at whole

theorem width_append_replicate (front : List Char) (count : Nat) :
    measure.width (front ++ List.replicate count sign) =
      measure.width front + count := by
  induction count with
  | zero => rw [List.replicate_zero, List.append_nil, Nat.add_zero]
  | succ count ih =>
      rw [List.replicate_succ', ← List.append_assoc,
        measure.width_append_frame sign frame, ih, measure.width_nil]
      omega

theorem width_replicate (count : Nat) :
    measure.width (List.replicate count sign) = count := by
  simpa [measure.width_nil] using
    measure.width_append_replicate frame [] count

end Measure

/-! ## Signs that keep texts apart on a terminal -/

/-- A character that takes one column, is no part of a terminal code, and does
not change how its neighbours are drawn. -/
structure Solid (char : Char) : Prop where
  uncoded : isIntroducer char = false
  digit : char.isDigit = false
  bracket : (char == '(' || char == ')') = false
  separator : (char == ';') = false
  opening : (char == '[' || char == '#' || char == '?') = false
  letter : isFinalLetter char = false
  selector : (char == pictureSelector) = false
  plain : (some char != some signSelector) = true
  unjoined : (char == joiner) = false
  toneless : isSkinTone char = false
  picture : isPicture char = false
  sign : signRanges.contains char.toNat = false
  column : charWidth char = 1

theorem solid_of_frame (sign : Char) (frame : sign ∈ frameSigns) :
    Solid sign := by
  constructor <;> revert sign <;>
    refine List.forall_iff_forall_mem.mp ?_ <;> decide +kernel

variable {char : Char}

/-! ## Terminal codes -/

namespace CodeState

/-- No terminal code goes on with the character. -/
theorem step_solid (solid : Solid char) (state : CodeState) :
    state.step char = none := by
  unfold step
  rw [if_neg (by simp [solid.digit]), if_neg (by simp [solid.bracket]),
    if_neg (by simp [solid.separator]), if_neg (by simp [solid.opening]),
    if_neg (by simp [solid.letter])]

theorem length?_append_cons (solid : Solid char) (state : CodeState)
    (front rest : List Char) :
    state.length? (front ++ char :: rest) = state.length? front := by
  induction front generalizing state with
  | nil => simp [length?, step_solid solid]
  | cons first front ih =>
      rw [List.cons_append, length?, length?]
      cases state.step first with
      | none => rfl
      | some next => simp only [ih next]

theorem le_of_length? {state : CodeState} {text : List Char} {length : Nat}
    (found : state.length? text = some length) : length ≤ text.length := by
  induction text generalizing state length with
  | nil => cases found
  | cons first rest ih =>
      rw [length?] at found
      split at found
      · cases found
      · split at found
        · rename_i inner known
          have bound := ih known
          cases found
          simpa using bound
        · split at found
          · cases found
            simp
          · cases found

end CodeState

/-- The length of the terminal code that a text begins with. -/
def codeLength? (char : Char) (rest : List Char) : Option Nat :=
  if isIntroducer char then CodeState.introduced.length? rest else none

theorem codeLength?_append_cons (solid : Solid char) (first : Char)
    (front rest : List Char) :
    codeLength? first (front ++ char :: rest) = codeLength? first front := by
  rw [codeLength?, codeLength?, CodeState.length?_append_cons solid]

theorem le_of_codeLength? {first : Char} {rest : List Char} {length : Nat}
    (found : codeLength? first rest = some length) : length ≤ rest.length := by
  unfold codeLength? at found
  split at found
  · exact CodeState.le_of_length? found
  · cases found

theorem partsFrom_of_code {first : Char} {rest : List Char} {length : Nat}
    (found : codeLength? first rest = some length) :
    partsFrom 0 (first :: rest) = [] :: partsFrom length rest := by
  unfold codeLength? at found
  rw [partsFrom, found]

theorem partsFrom_of_no_code {first : Char} {rest part : List Char}
    {parts : List (List Char)} (none : codeLength? first rest = none)
    (later : partsFrom 0 rest = part :: parts) :
    partsFrom 0 (first :: rest) = (first :: part) :: parts := by
  unfold codeLength? at none
  rw [partsFrom, none, later]

/-- The character stands in a part, between the last part of the text before it
and the first part of the text behind it. -/
theorem exists_partsFrom_append_cons (solid : Solid char) {front : List Char}
    {skipped : Nat} (inside : skipped ≤ front.length) :
    ∃ early last,
      partsFrom skipped front = early ++ [last] ∧
        ∀ rest first others, plainParts rest = first :: others →
          partsFrom skipped (front ++ char :: rest) =
            early ++ (last ++ char :: first) :: others := by
  induction front generalizing skipped with
  | nil =>
      obtain rfl : skipped = 0 := Nat.le_zero.mp inside
      refine ⟨[], [], rfl, fun rest first others known => ?_⟩
      have none : codeLength? char rest = none := by
        rw [codeLength?, solid.uncoded]
        rfl
      exact partsFrom_of_no_code none known
  | cons next front ih =>
      cases skipped with
      | succ skipped => exact ih (Nat.le_of_succ_le_succ inside)
      | zero =>
          cases found : codeLength? next front with
          | some length =>
              obtain ⟨early, last, parts, appended⟩ :=
                ih (le_of_codeLength? found)
              refine ⟨[] :: early, last, ?_, fun rest first others known => ?_⟩
              · rw [partsFrom_of_code found, parts, List.cons_append]
              · rw [List.cons_append, partsFrom_of_code
                  ((codeLength?_append_cons solid _ _ _).trans found),
                  appended rest first others known, List.cons_append]
          | none =>
              obtain ⟨early, last, parts, appended⟩ := ih (Nat.zero_le _)
              have code (rest : List Char) :=
                (codeLength?_append_cons solid next front rest).trans found
              cases early with
              | nil =>
                  refine ⟨[], next :: last, partsFrom_of_no_code found parts,
                    fun rest first others known => ?_⟩
                  exact partsFrom_of_no_code (code rest)
                    (appended rest first others known)
              | cons part early =>
                  refine ⟨(next :: part) :: early, last,
                    partsFrom_of_no_code found parts,
                    fun rest first others known => ?_⟩
                  exact partsFrom_of_no_code (code rest)
                    (appended rest first others known)

/-! ## Columns -/

/-- Behind anything the character takes one column, and what follows it stands
alone. -/
theorem widthAfter_cons (solid : Solid char) (context : Context)
    (rest : List Char) :
    widthAfter context (char :: rest) = 1 + widthAfter .plain rest := by
  simp [widthAfter, solid.selector, solid.unjoined, solid.toneless,
    solid.picture, solid.sign, solid.column]

theorem widthAfter_append_cons (solid : Solid char) (context : Context)
    (front rest : List Char) :
    widthAfter context (front ++ char :: rest) =
      widthAfter context front + 1 + widthAfter .plain rest := by
  induction front generalizing context with
  | nil => simp [widthAfter_cons solid]
  | cons first front ih =>
      -- The character is none of those that a character is looked for before.
      have unchanged (test : Option Char → Bool)
          (unseen : test (some char) = test none) :
          test (front ++ char :: rest).head? = test front.head? := by
        cases front with
        | nil => exact unseen
        | cons next front => rfl
      have sign := unchanged (· != some signSelector) solid.plain
      have picture := unchanged (· == some pictureSelector) solid.selector
      have tone := unchanged (·.any isSkinTone) solid.toneless
      rw [List.cons_append, widthAfter, widthAfter, sign, picture, tone]
      simp only [ih]
      grind

theorem foldr_add_append (first second : List Nat) :
    (first ++ second).foldr (· + ·) 0 =
      first.foldr (· + ·) 0 + second.foldr (· + ·) 0 := by
  induction first with
  | nil => rw [List.nil_append, List.foldr_nil, Nat.zero_add]
  | cons number first ih =>
      rw [List.cons_append, List.foldr_cons, List.foldr_cons, ih,
        Nat.add_assoc]

theorem plainParts_ne_nil (text : List Char) : plainParts text ≠ [] := by
  have blank : Solid ' ' := solid_of_frame ' ' (by decide)
  obtain ⟨early, last, parts, -⟩ :=
    exists_partsFrom_append_cons blank (Nat.zero_le text.length)
  rw [plainParts, parts]
  simp

/-- The widths of the texts on both sides of the character add up. -/
theorem width_append_cons (solid : Solid char) (front rest : List Char) :
    width (front ++ char :: rest) = width front + 1 + width rest := by
  obtain ⟨early, last, parts, appended⟩ :=
    exists_partsFrom_append_cons solid (Nat.zero_le front.length)
  obtain ⟨first, others, known⟩ :=
    List.exists_cons_of_ne_nil (plainParts_ne_nil rest)
  have whole := appended rest first others known
  rw [← plainParts] at parts whole
  have middle :
      plainWidth (last ++ char :: first) =
        plainWidth last + 1 + plainWidth first :=
    widthAfter_append_cons solid .plain last first
  simp only [width, whole, parts, known, List.map_append, List.map_cons,
    List.map_nil, foldr_add_append, List.foldr_cons, List.foldr_nil, middle]
  omega

/-- The width of text on a terminal. -/
def terminal : Measure where
  width := width
  width_nil := rfl
  width_append_frame := fun sign frame front rest =>
    width_append_cons (solid_of_frame sign frame) front rest

end ScenarioRunner.Console
