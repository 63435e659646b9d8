import Mathlib.Data.List.Basic
import ScenarioRunner.Text.Lines
import ScenarioRunner.Text.Search

/-!
# Replacing parts of a text and cutting it into lines

A text in which a pattern does not occur is kept by a replacement, and so is
what stands before the first character that the pattern starts with.  How a
text ends is not changed by replacing a pattern without the last character, nor
by cutting the text into lines.
-/

namespace ScenarioRunner.Text

/-! ## Replacing -/

section Replace

variable {pattern replacement : List Char}

/-- A text without the pattern is kept. -/
theorem replaceFrom_of_absent {text : List Char}
    (absent : occursIn pattern text = false) :
    replaceFrom pattern replacement 0 text = text := by
  induction text with
  | nil => rfl
  | cons char rest ih =>
      rw [occursIn, Bool.or_eq_false_iff] at absent
      rw [replaceFrom, absent.1, ih absent.2]
      rfl

/-- No pattern starts inside a text that stands before another. -/
def Skips (pattern : List Char) : List Char → List Char → Prop
  | [], _ => True
  | char :: front, rest =>
      ¬ pattern <+: char :: (front ++ rest) ∧ Skips pattern front rest

theorem skips_append {front second rest : List Char} :
    Skips pattern (front ++ second) rest ↔
      Skips pattern front (second ++ rest) ∧ Skips pattern second rest := by
  induction front with
  | nil => exact (iff_of_eq (true_and _)).symm
  | cons char front ih =>
      rw [List.cons_append, Skips, Skips, ih, List.append_assoc, and_assoc]

theorem skips_of_not_mem {first : Char} {others front rest : List Char}
    (absent : first ∉ front) : Skips (first :: others) front rest := by
  induction front with
  | nil => trivial
  | cons char front ih =>
      obtain ⟨different, later⟩ := not_or.mp (mt List.mem_cons.mpr absent)
      refine ⟨?_, ih later⟩
      rw [List.cons_prefix_cons]
      exact fun matched => different matched.1

/-- What no pattern starts in is kept in front. -/
theorem replaceFrom_of_skips {front rest : List Char}
    (skips : Skips pattern front rest) :
    replaceFrom pattern replacement 0 (front ++ rest) =
      front ++ replaceFrom pattern replacement 0 rest := by
  induction front with
  | nil => rfl
  | cons char front ih =>
      have unmatched :
          pattern.isPrefixOf (char :: (front ++ rest)) = false := by
        rw [Bool.eq_false_iff, ne_eq, List.isPrefixOf_iff_prefix]
        exact skips.1
      rw [List.cons_append, replaceFrom, unmatched, ih skips.2]
      rfl

theorem infix_append_of_skips {front rest : List Char}
    (skips : Skips pattern front rest) :
    pattern <:+: front ++ rest ↔ pattern <:+: rest := by
  induction front with
  | nil => rfl
  | cons char front ih =>
      rw [List.cons_append, List.infix_cons_iff, ih skips.2]
      exact or_iff_right skips.1

/-- A text without the first character of the pattern is kept in front. -/
theorem replaceFrom_append {first : Char} {others front : List Char}
    (absent : first ∉ front) (rest : List Char) :
    replaceFrom (first :: others) replacement 0 (front ++ rest) =
      front ++ replaceFrom (first :: others) replacement 0 rest :=
  replaceFrom_of_skips (skips_of_not_mem absent)

theorem replaceFrom_skip (front rest : List Char) :
    replaceFrom pattern replacement front.length (front ++ rest) =
      replaceFrom pattern replacement 0 rest := by
  induction front with
  | nil => rfl
  | cons char front ih =>
      rw [List.length_cons, List.cons_append, replaceFrom, ih]

/-- The pattern is replaced. -/
theorem replaceFrom_pattern (first : Char) (others rest : List Char) :
    replaceFrom (first :: others) replacement 0
        (first :: others ++ rest) =
      replacement ++
        replaceFrom (first :: others) replacement 0 rest := by
  have matched :
      (first :: others).isPrefixOf (first :: (others ++ rest)) = true := by
    rw [List.isPrefixOf_iff_prefix]
    exact List.prefix_append (first :: others) rest
  rw [List.cons_append, replaceFrom, matched, if_pos rfl,
    List.length_cons, Nat.add_sub_cancel, replaceFrom_skip]

/-- A last character that is not in the pattern stays the last. -/
theorem exists_replaceFrom_concat {char : Char} (nonempty : pattern ≠ [])
    (absent : char ∉ pattern) {front : List Char} {skipped : Nat}
    (inside : skipped ≤ front.length) :
    ∃ start,
      replaceFrom pattern replacement skipped (front ++ [char]) =
        start ++ [char] := by
  have unmatched (text : List Char) (matched : pattern <+: text ++ [char]) :
      pattern.length ≤ text.length := by
    by_contra longer
    have whole : pattern = text ++ [char] := by
      apply matched.eq_of_length
      have bound := matched.length_le
      rw [List.length_append, List.length_singleton] at *
      omega
    exact absent (whole ▸ List.mem_append_right _ (List.mem_singleton_self _))
  induction front generalizing skipped with
  | nil =>
      obtain rfl : skipped = 0 := Nat.le_zero.mp inside
      have different : pattern.isPrefixOf [char] = false := by
        rw [Bool.eq_false_iff, ne_eq, List.isPrefixOf_iff_prefix]
        intro matched
        have empty := unmatched [] matched
        exact nonempty (List.length_eq_zero_iff.mp (Nat.le_zero.mp empty))
      exact ⟨[], by simp [replaceFrom, different]⟩
  | cons first rest ih =>
      cases skipped with
      | succ skipped =>
          rw [List.cons_append, replaceFrom]
          exact ih (Nat.le_of_succ_le_succ inside)
      | zero =>
          rw [List.cons_append, replaceFrom]
          split
          · rename_i matched
            rw [← List.cons_append, List.isPrefixOf_iff_prefix] at matched
            have bound := unmatched (first :: rest) matched
            rw [List.length_cons] at bound
            have skips : pattern.length - 1 ≤ rest.length := by omega
            obtain ⟨start, same⟩ := ih skips
            exact ⟨replacement ++ start, by rw [same, List.append_assoc]⟩
          · obtain ⟨start, same⟩ := ih (Nat.zero_le _)
            exact ⟨first :: start, by rw [same, List.cons_append]⟩

end Replace

/-! ## Where a pattern occurs -/

section Occurrences

variable {pattern : List Char}

/-- A character that the pattern does not have ends whatever begins before
it. -/
theorem prefix_append_cons_iff {between : Char} (absent : between ∉ pattern)
    (front back : List Char) :
    pattern <+: front ++ between :: back ↔ pattern <+: front := by
  constructor
  · intro matched
    rcases List.prefix_or_prefix_of_prefix matched
      (List.prefix_append front (between :: back)) with inside | ⟨more, same⟩
    · exact inside
    · rw [← same, List.prefix_append_right_inj] at matched
      cases more with
      | nil =>
          have whole : front = pattern := by rw [← same, List.append_nil]
          exact whole ▸ List.prefix_rfl
      | cons first others =>
          rw [List.cons_prefix_cons] at matched
          refine absurd ?_ absent
          rw [← same, matched.1]
          simp
  · intro inside
    exact inside.trans (List.prefix_append _ _)

/-- A character that the pattern does not have separates its occurrences. -/
theorem infix_append_cons_iff {between : Char} (absent : between ∉ pattern)
    (front back : List Char) :
    pattern <:+: front ++ between :: back ↔
      pattern <:+: front ∨ pattern <:+: back := by
  induction front with
  | nil =>
      have start : pattern <+: between :: back ↔ pattern <:+: [] := by
        rw [List.infix_nil, ← List.prefix_nil]
        exact prefix_append_cons_iff absent [] back
      rw [List.nil_append, List.infix_cons_iff, start]
  | cons char front ih =>
      rw [List.cons_append, List.infix_cons_iff, List.infix_cons_iff, ih,
        ← List.cons_append, prefix_append_cons_iff absent, or_assoc]

/-- A pattern whose first character comes in it once only starts nowhere in
front of its first occurrence. -/
theorem skips_of_absent {first : Char} {others front : List Char}
    (once : first ∉ others) (absent : ¬ first :: others <:+: front)
    (rest : List Char) :
    Skips (first :: others) front (first :: rest) := by
  induction front with
  | nil => trivial
  | cons char front ih =>
      rw [List.infix_cons_iff, not_or, List.cons_prefix_cons] at absent
      refine ⟨?_, ih absent.2⟩
      rw [List.cons_prefix_cons, prefix_append_cons_iff once]
      exact absent.1

/-- The first occurrence of a pattern whose first character comes in it once
only is replaced. -/
theorem replaceFrom_first {first : Char} {others replacement front : List Char}
    (once : first ∉ others) (absent : ¬ first :: others <:+: front)
    (rest : List Char) :
    replaceFrom (first :: others) replacement 0
        (front ++ (first :: others ++ rest)) =
      front ++ replacement ++
        replaceFrom (first :: others) replacement 0 rest := by
  rw [List.append_assoc, ← replaceFrom_pattern]
  exact replaceFrom_of_skips (skips_of_absent once absent _)

/-- One character is replaced wherever it stands. -/
theorem replaceFrom_single (char : Char) (replacement text : List Char) :
    replaceFrom [char] replacement 0 text =
      text.flatMap fun own => if own = char then replacement else [own] := by
  induction text with
  | nil => rfl
  | cons own rest ih =>
      have whole : [char].isPrefixOf (own :: rest) = decide (own = char) := by
        simp [List.isPrefixOf, beq_eq_decide, eq_comm]
      rw [replaceFrom, whole, List.flatMap_cons, ← ih]
      by_cases same : own = char
      · simp [same]
      · simp [same]

end Occurrences

/-! ## Lines -/

/-- A character that starts no line break belongs to the first line. -/
theorem lines_cons {char : Char} (lineFeed : char ≠ '\n')
    {rest : List Char}
    (carriageReturn : ∀ others, char = '\r' → rest ≠ '\n' :: others) :
    lines (char :: rest) =
      match lines rest with
      | [] => [[char]]
      | line :: others => (char :: line) :: others := by
  conv_lhs => unfold lines
  split <;> rename_i same <;> cases same
  · exact absurd rfl lineFeed
  · exact absurd rfl (carriageReturn _ rfl)
  · rfl

theorem lines_singleton {char : Char} (lineFeed : char ≠ '\n') :
    lines [char] = [[char]] := by
  rw [lines_cons lineFeed fun _ _ => (List.cons_ne_nil _ _).symm]
  rfl

theorem lines_ne_nil {text : List Char} (nonempty : text ≠ []) :
    lines text ≠ [] := by
  fun_cases lines text with
  | case1 => exact absurd rfl nonempty
  | case2 rest => exact List.cons_ne_nil _ _
  | case3 rest => exact List.cons_ne_nil _ _
  | case4 char rest => exact List.cons_ne_nil _ _
  | case5 char rest => exact List.cons_ne_nil _ _

/-- Lines end with a line feed. -/
theorem lines_append (front rest : List Char) :
    lines (front ++ '\n' :: rest) =
      lines (front ++ ['\n']) ++ lines rest := by
  -- A carriage return in front of the line feed belongs to the line break; any
  -- other character belongs to the first line of what follows it.
  have step {char : Char} {front : List Char} (lineFeed : char ≠ '\n')
      (carriageReturn : ∀ others, char = '\r' → front ≠ '\n' :: others)
      (ih : lines (front ++ '\n' :: rest) =
        lines (front ++ ['\n']) ++ lines rest) :
      lines (char :: front ++ '\n' :: rest) =
        lines (char :: front ++ ['\n']) ++ lines rest := by
    by_cases broken : char = '\r' ∧ front = []
    · obtain ⟨rfl, rfl⟩ := broken
      rfl
    · have kept (rest others : List Char) (return' : char = '\r') :
          front ++ '\n' :: rest ≠ '\n' :: others := by
        cases front with
        | nil => exact absurd ⟨return', rfl⟩ broken
        | cons first front =>
            intro same
            rw [List.cons_append, List.cons.injEq] at same
            exact carriageReturn front return' (by rw [same.1])
      rw [List.cons_append, List.cons_append, lines_cons lineFeed (kept _),
        lines_cons lineFeed (kept _), ih]
      cases first : lines (front ++ ['\n']) with
      | nil => exact absurd first (lines_ne_nil (by simp))
      | cons line others => rfl
  fun_induction lines front with
  | case1 => rfl
  | case2 front ih => exact congrArg ([] :: ·) ih
  | case3 front ih => exact congrArg ([] :: ·) ih
  | case4 char front lineFeed carriageReturn none ih =>
      exact step lineFeed carriageReturn ih
  | case5 char front lineFeed carriageReturn line others some ih =>
      exact step lineFeed carriageReturn ih

/-- The last line ends as the text does, unless this is a line feed. -/
theorem exists_lines_concat {char : Char} (lineFeed : char ≠ '\n')
    (front : List Char) :
    ∃ early line, lines (front ++ [char]) = early ++ [line ++ [char]] := by
  have step {first : Char} {front : List Char} (other : first ≠ '\n')
      (carriageReturn : ∀ others, first = '\r' → front ≠ '\n' :: others)
      (ih : ∃ early line,
        lines (front ++ [char]) = early ++ [line ++ [char]]) :
      ∃ early line,
        lines (first :: front ++ [char]) = early ++ [line ++ [char]] := by
    obtain ⟨early, line, same⟩ := ih
    have kept (others : List Char) (return' : first = '\r') :
        front ++ [char] ≠ '\n' :: others := by
      cases front with
      | nil =>
          intro broken
          exact lineFeed (List.cons.inj broken).1
      | cons second front =>
          intro broken
          rw [List.cons_append, List.cons.injEq] at broken
          exact carriageReturn front return' (by rw [broken.1])
    rw [List.cons_append, lines_cons other kept, same]
    cases early with
    | nil => exact ⟨[], first :: line, rfl⟩
    | cons head early => exact ⟨(first :: head) :: early, line, rfl⟩
  fun_induction lines front with
  | case1 =>
      exact ⟨[], [], lines_singleton lineFeed⟩
  | case2 front ih =>
      obtain ⟨early, line, same⟩ := ih
      exact ⟨[] :: early, line, congrArg ([] :: ·) same⟩
  | case3 front ih =>
      obtain ⟨early, line, same⟩ := ih
      exact ⟨[] :: early, line, congrArg ([] :: ·) same⟩
  | case4 first front other carriageReturn none ih =>
      exact step other carriageReturn ih
  | case5 first front other carriageReturn line others some ih =>
      exact step other carriageReturn ih

/-- The first line is a start of the text, and each line is a part of it. -/
theorem infix_of_mem_lines {text line : List Char} (member : line ∈ lines text) :
    line <:+: text := by
  have parts (text : List Char) :
      (∀ first ∈ (lines text).head?, first <+: text) ∧
        ∀ line ∈ lines text, line <:+: text := by
    fun_induction lines text with
    | case1 => simp
    | case2 rest ih =>
        simpa using fun line among => (ih.2 line among).trans
          (List.suffix_cons _ _).isInfix
    | case3 rest ih =>
        simpa using fun line among => (ih.2 line among).trans
          (List.suffix_append ['\r', '\n'] rest).isInfix
    | case4 char rest lineFeed carriageReturn none ih =>
        have start : [char] <+: char :: rest := ⟨rest, rfl⟩
        simp [start.isInfix]
    | case5 char rest lineFeed carriageReturn line others some ih =>
        rw [some] at ih
        simp only [List.head?_cons, Option.mem_some, forall_eq',
          List.forall_mem_cons] at ih ⊢
        have start : char :: line <+: char :: rest :=
          List.cons_prefix_cons.mpr ⟨rfl, ih.1⟩
        exact ⟨start, start.isInfix, fun line among =>
          (ih.2.2 line among).trans (List.suffix_cons _ _).isInfix⟩
  exact (parts text).2 line member

/-- A line feed at the end starts no line. -/
theorem lines_concat_lineFeed {front : List Char} {last : Char}
    (unreturned : '\r' ∉ front ++ [last]) (ends : last ≠ '\n') :
    lines (front ++ [last] ++ ['\n']) = lines (front ++ [last]) := by
  induction front with
  | nil =>
      have kept (char : Char) (others : List Char) (return' : last = '\r') :
          [char] ≠ '\n' :: others :=
        absurd return'.symm (by simpa using unreturned)
      rw [List.nil_append, List.singleton_append, lines_cons ends (kept _),
        lines_singleton ends]
      rfl
  | cons char front ih =>
      rw [List.cons_append, List.mem_cons, not_or] at unreturned
      have rest := ih unreturned.2
      by_cases lineFeed : char = '\n'
      · subst lineFeed
        rw [List.cons_append, List.cons_append, lines, lines, rest]
      · have kept (text others : List Char) (return' : char = '\r') :
            text ≠ '\n' :: others :=
          absurd return'.symm unreturned.1
        rw [List.cons_append, List.cons_append, lines_cons lineFeed (kept _),
          lines_cons lineFeed (kept _), rest]

/-- Lines that end with line feeds alone, put together again. -/
theorem intercalate_lines {front : List Char} {last : Char}
    (unreturned : '\r' ∉ front) (ends : last ≠ '\n') :
    ['\n'].intercalate (lines (front ++ [last])) = front ++ [last] := by
  induction front with
  | nil =>
      rw [List.nil_append, lines_singleton ends]
      simp [List.intercalate]
  | cons char front ih =>
      rw [List.mem_cons, not_or] at unreturned
      have rest := ih unreturned.2
      have some : lines (front ++ [last]) ≠ [] := lines_ne_nil (by simp)
      by_cases lineFeed : char = '\n'
      · subst lineFeed
        rw [List.cons_append, lines, List.intercalate_cons_of_ne_nil some,
          rest]
        rfl
      · rw [List.cons_append,
          lines_cons lineFeed fun others same =>
            absurd same.symm unreturned.1]
        cases split : lines (front ++ [last]) with
        | nil => exact absurd split some
        | cons line others =>
            rw [split] at rest
            cases others with
            | nil => simpa [List.intercalate] using rest
            | cons second later =>
                rw [List.intercalate_cons_of_ne_nil (List.cons_ne_nil _ _)]
                  at rest ⊢
                simp only [List.cons_append, rest]

end ScenarioRunner.Text
