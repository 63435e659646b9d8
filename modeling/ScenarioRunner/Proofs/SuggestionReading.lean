import Mathlib.Data.List.TakeWhile
import ScenarioRunner.Expression.Suggestion

/-!
# Reading suggested expressions

A suggested expression is literal texts with placeholders between them.  As
long as the literal texts have no backslash of their own, reading it gives the
placeholders back, with segments between them that stand for the literal texts:
a backslash is put before every character that would mean something else.

The main statement is `parse_interleave`.
-/

namespace ScenarioRunner.Expression

open Suggestion (escape interleave)

/-! ## Escaped text -/

theorem escape_append (first second : List Char) :
    escape (first ++ second) = escape first ++ escape second :=
  List.flatMap_append

theorem escape_cons_of_special {char : Char}
    (special : char = '(' ∨ char = '\x7B' ∨ char = '/') (rest : List Char) :
    escape (char :: rest) = '\\' :: char :: escape rest := by
  rcases special with rfl | rfl | rfl <;> rfl

theorem escape_cons_of_ordinary {char : Char} (bracket : char ≠ '(')
    (brace : char ≠ '\x7B') (slash : char ≠ '/') (rest : List Char) :
    escape (char :: rest) = char :: escape rest := by
  simp [escape, bracket, brace, slash]

theorem unescape_cons {char : Char} (plain : char ≠ '\\')
    (rest : List Char) : unescape (char :: rest) = char :: unescape rest := by
  rw [unescape]
  · intro backslash
    exact absurd backslash plain
  · intro other later backslash
    exact absurd backslash plain

/-- Escaped text stands for the text. -/
theorem unescape_escape {literal : List Char} (plain : '\\' ∉ literal) :
    unescape (escape literal) = literal := by
  induction literal with
  | nil => rfl
  | cons char rest ih =>
      rw [List.mem_cons, not_or] at plain
      by_cases special : char = '(' ∨ char = '\x7B' ∨ char = '/'
      · rw [escape_cons_of_special special, unescape, ih plain.2]
      · rw [not_or, not_or] at special
        rw [escape_cons_of_ordinary special.1 special.2.1 special.2.2,
          unescape_cons (Ne.symm plain.1), ih plain.2]

/-! ## Taking written text -/

/-- Written text ends before a text: at its end, or at a character that may not
stand in it. -/
def EndsBefore (allowed : Char → Bool) (rest : List Char) : Prop :=
  ∀ char ∈ rest.head?, char ≠ '\\' ∧ allowed char = false

section Written

variable {start rest : List Char} {allowed : Char → Bool}

theorem takeWrittenFrom_cons {char : Char} (plain : char ≠ '\\') :
    takeWrittenFrom start allowed (char :: rest) =
      if allowed char then
        (takeWrittenFrom start allowed rest).map fun (taken, rest) =>
          (char :: taken, rest)
      else .ok ([], char :: rest) := by
  rw [takeWrittenFrom]
  · intro backslash
    exact absurd backslash plain
  · intro other later backslash
    exact absurd backslash plain

theorem takeWrittenFrom_end (ends : EndsBefore allowed rest) :
    takeWrittenFrom start allowed rest = .ok ([], rest) := by
  cases rest with
  | nil => rfl
  | cons char later =>
      obtain ⟨plain, stops⟩ := ends char rfl
      rw [takeWrittenFrom_cons plain, stops]
      rfl

/-- Escaped text is taken as a whole. -/
theorem takeWrittenFrom_escape {literal : List Char}
    (plain : '\\' ∉ literal)
    (each : ∀ char ∈ literal,
      allowed char = true ∨ char = '(' ∨ char = '\x7B' ∨ char = '/')
    (ends : EndsBefore allowed rest) :
    takeWrittenFrom start allowed (escape literal ++ rest) =
      .ok (escape literal, rest) := by
  induction literal with
  | nil => exact takeWrittenFrom_end ends
  | cons char later ih =>
      rw [List.mem_cons, not_or] at plain
      rw [List.forall_mem_cons] at each
      have taken := ih plain.2 each.2
      by_cases special : char = '(' ∨ char = '\x7B' ∨ char = '/'
      · have reserved : isReserved char = true := by
          rcases special with rfl | rfl | rfl <;> decide
        rw [escape_cons_of_special special, List.cons_append,
          List.cons_append, takeWrittenFrom, if_pos reserved, taken]
        rfl
      · have allows := each.1.resolve_right special
        rw [not_or, not_or] at special
        rw [escape_cons_of_ordinary special.1 special.2.1 special.2.2,
          List.cons_append, takeWrittenFrom_cons (Ne.symm plain.1), allows,
          taken]
        rfl

end Written

/-! ## Reading segments -/

/-- What comes behind a word: nothing, a blank or a placeholder. -/
def Breaks (rest : List Char) : Prop :=
  ∀ char ∈ rest.head?, char = ' ' ∨ char = '\x7B'

namespace Breaks

variable {rest : List Char}

theorem blank (rest : List Char) : Breaks (' ' :: rest) := by
  rintro char ⟨⟩
  exact Or.inl rfl

theorem brace (rest : List Char) : Breaks ('\x7B' :: rest) := by
  rintro char ⟨⟩
  exact Or.inr rfl

theorem endsBefore (breaks : Breaks rest) : EndsBefore isTextChar rest := by
  intro char head
  rcases breaks char head with rfl | rfl <;> decide

/-- No alternative starts where a word is over. -/
theorem readAlternative (breaks : Breaks rest) (fuel : Nat) :
    readAlternative fuel rest = .ok ([], rest) := by
  cases fuel with
  | zero => rfl
  | succ fuel =>
      have taken : takeWritten isTextChar rest = .ok ([], rest) :=
        takeWrittenFrom_end breaks.endsBefore
      have bracket : ∀ inside, rest ≠ '(' :: inside := by
        rintro inside rfl
        have head := breaks '(' rfl
        revert head
        decide
      rw [Expression.readAlternative.eq_3 _ _ bracket, taken]
      rfl

theorem readAlternatives (breaks : Breaks rest) (fuel : Nat) :
    readAlternatives fuel rest = .ok ([], rest) := by
  rw [Expression.readAlternatives]
  rintro fuel inside - rfl
  have head := breaks '/' rfl
  revert head
  decide

theorem readAlternation (breaks : Breaks rest) :
    readAlternation rest = .ok none := by
  have slash : (rest.head? == some '/') = false := by
    rw [beq_eq_false_iff_ne]
    intro head
    have broken := breaks '/' head
    revert broken
    decide
  unfold Expression.readAlternation
  rw [breaks.readAlternative]
  simp [slash, bind, Except.bind, pure, Except.pure]

end Breaks

/-- A word: some literal text without blanks. -/
structure IsWord (word : List Char) : Prop where
  nonempty : word ≠ []
  plain : '\\' ∉ word
  solid : ' ' ∉ word

namespace IsWord

variable {word rest : List Char}

/-- A text starts with a word unless it starts with a blank. -/
theorem takeWhile {char : Char} {later : List Char}
    (plain : '\\' ∉ char :: later) (solid : char ≠ ' ') :
    IsWord ((char :: later).takeWhile (· != ' ')) where
  nonempty := by simp [solid]
  plain := by
    intro member
    exact plain ((List.takeWhile_sublist _).subset member)
  solid := by
    intro member
    simpa using List.mem_takeWhile_imp member

theorem escape_nonempty (own : IsWord word) : (escape word).isEmpty = false := by
  rw [List.isEmpty_eq_false_iff]
  intro empty
  have stands := unescape_escape own.plain
  rw [empty] at stands
  exact own.nonempty stands.symm

theorem takeWritten (own : IsWord word) (breaks : Breaks rest) :
    takeWritten isTextChar (escape word ++ rest) =
      .ok (escape word, rest) := by
  apply takeWrittenFrom_escape own.plain
  · intro char member
    have plain : char ≠ '\\' := fun same => own.plain (same ▸ member)
    have solid : char ≠ ' ' := fun same => own.solid (same ▸ member)
    by_cases special : char = '(' ∨ char = '\x7B' ∨ char = '/'
    · exact Or.inr special
    · left
      rw [not_or, not_or] at special
      simp [isTextChar, plain, solid, special]
  · exact breaks.endsBefore

/-- An escaped word starts neither optional text, nor a placeholder, nor
blanks. -/
theorem head (own : IsWord word) :
    ∃ char later, escape word = char :: later ∧
      char ≠ '(' ∧ char ≠ '\x7B' ∧ char ≠ ' ' := by
  cases word with
  | nil => exact absurd rfl own.nonempty
  | cons char later =>
      by_cases special : char = '(' ∨ char = '\x7B' ∨ char = '/'
      · exact ⟨'\\', _, escape_cons_of_special special later, by decide,
          by decide, by decide⟩
      · rw [not_or, not_or] at special
        refine ⟨char, _, escape_cons_of_ordinary special.1 special.2.1
          special.2.2 later, special.1, special.2.1, ?_⟩
        rintro rfl
        exact own.solid List.mem_cons_self

/-- There is nothing to choose from behind a word. -/
theorem readAlternation (own : IsWord word) (breaks : Breaks rest) :
    readAlternation (escape word ++ rest) = .ok none := by
  obtain ⟨char, later, written, bracket, -, -⟩ := own.head
  have taken := own.takeWritten breaks
  rw [written, List.cons_append] at taken ⊢
  have unopened : ∀ inside, char :: (later ++ rest) ≠ '(' :: inside := by
    intro inside same
    exact bracket (List.cons.inj same).1
  have first :
      readAlternative (char :: (later ++ rest)).length
          (char :: (later ++ rest)) =
        .ok ([.text (char :: later)], rest) := by
    rw [List.length_cons, Expression.readAlternative.eq_3 _ _ unopened, taken]
    simp [bind, Except.bind, pure, Except.pure, breaks.readAlternative]
  unfold Expression.readAlternation
  rw [first]
  simp [bind, Except.bind, pure, Except.pure, breaks.readAlternatives]

theorem readSegment (own : IsWord word) (breaks : Breaks rest) :
    readSegment (escape word ++ rest) =
      .ok (.text (escape word), rest) := by
  obtain ⟨char, later, written, bracket, brace, blank⟩ := own.head
  have taken := own.takeWritten breaks
  have alternation := own.readAlternation breaks
  rw [written, List.cons_append] at taken alternation ⊢
  unfold Expression.readSegment
  rw [alternation]
  simp only [bind, Except.bind, pure, Except.pure]
  split
  · rename_i inside same
    exact absurd (List.cons.inj same).1 bracket
  · rename_i inside same
    exact absurd (List.cons.inj same).1 brace
  · rename_i inside same
    exact absurd (List.cons.inj same).1 blank
  · rw [taken]

end IsWord

/-- Blanks are read up to what is no blank. -/
theorem readSegment_blanks (rest : List Char) :
    readSegment (' ' :: rest) =
      .ok (.blanks (' ' :: rest.takeWhile (· == ' ')),
        rest.dropWhile (· == ' ')) := by
  unfold readSegment
  rw [(Breaks.blank rest).readAlternation]
  rfl

/-- A name that may stand in a placeholder. -/
def IsLegalName (name : String) : Prop :=
  ∀ char ∈ name.toList, ParameterType.isReserved char = false

theorem IsLegalName.takeWritten {name : String} (legal : IsLegalName name)
    (rest : List Char) :
    takeWritten isNameChar (name.toList ++ '\x7D' :: rest) =
      .ok (name.toList, '\x7D' :: rest) := by
  have each (char : Char) (member : char ∈ name.toList) :
      char ≠ '\\' ∧ char ≠ '(' ∧ char ≠ '\x7B' ∧ char ≠ '/' ∧
        isNameChar char = true := by
    have allowed := legal char member
    simp [ParameterType.isReserved] at allowed
    simp [isNameChar, allowed]
  have unescaped : escape name.toList = name.toList := by
    generalize name.toList = chars at each
    induction chars with
    | nil => rfl
    | cons char later ih =>
        rw [List.forall_mem_cons] at each
        obtain ⟨-, bracket, brace, slash, -⟩ := each.1
        rw [escape_cons_of_ordinary bracket brace slash, ih each.2]
  have taken := @takeWrittenFrom_escape
    (name.toList ++ '\x7D' :: rest) ('\x7D' :: rest) isNameChar name.toList
    (fun member => (each _ member).1 rfl)
    (fun char member => Or.inl (each char member).2.2.2.2)
    (by rintro char ⟨⟩; decide)
  rw [unescaped] at taken
  exact taken

theorem readSegment_parameter {name : String} (legal : IsLegalName name)
    (rest : List Char) :
    readSegment ('\x7B' :: (name.toList ++ '\x7D' :: rest)) =
      .ok (.parameter name, rest) := by
  unfold readSegment
  rw [(Breaks.brace _).readAlternation]
  simp only [bind, Except.bind, readParameter, legal.takeWritten, pure,
    Except.pure, String.ofList_toList]

/-! ## Reading suggestions -/

/-- Segments stand for literal texts with placeholders between them.  A literal
text may be split into several segments. -/
inductive Renders : List Segment → List (List Char) → List String → Prop where
  | last : Renders [] [[]] []
  | text {segments : List Segment} {written literal : List Char}
      {literals : List (List Char)} {names : List String}
      (later : Renders segments (literal :: literals) names) :
      Renders (.text written :: segments)
        ((unescape written ++ literal) :: literals) names
  | blanks {segments : List Segment} {written literal : List Char}
      {literals : List (List Char)} {names : List String}
      (later : Renders segments (literal :: literals) names) :
      Renders (.blanks written :: segments)
        ((unescape written ++ literal) :: literals) names
  | parameter {segments : List Segment} {literals : List (List Char)}
      {names : List String} (name : String)
      (later : Renders segments literals names) :
      Renders (.parameter name :: segments) ([] :: literals) (name :: names)

/-- The placeholders of segments are those between the literal texts. -/
theorem Renders.parameters {segments : List Segment}
    {literals : List (List Char)} {names : List String}
    (renders : Renders segments literals names) :
    segments.filterMap Segment.parameter? = names := by
  induction renders with
  | last => rfl
  | text later ih => exact ih
  | blanks later ih => exact ih
  | parameter name later ih =>
      rw [List.filterMap_cons, ih]
      rfl

/-- However much fuel there is, a text reads as segments that stand for literal
texts with placeholders between them. -/
def ReadsAs (chars : List Char) (literals : List (List Char))
    (names : List String) : Prop :=
  ∀ fuel, chars.length ≤ fuel →
    ∃ segments, readSegments fuel chars = .ok segments ∧
      Renders segments literals names

namespace ReadsAs

variable {rest : List Char} {literals : List (List Char)}
  {names : List String}

theorem nil : ReadsAs [] [[]] [] := by
  intro fuel _
  refine ⟨[], ?_, .last⟩
  cases fuel <;> rfl

/-- A segment is read in front of what the rest reads as. -/
theorem readSegment {chars : List Char} {segment : Segment}
    {more : List (List Char)} {moreNames : List String}
    (read : readSegment chars = .ok (segment, rest))
    (shorter : rest.length < chars.length)
    (reads : ReadsAs rest literals names)
    (renders : ∀ segments, Renders segments literals names →
      Renders (segment :: segments) more moreNames) :
    ReadsAs chars more moreNames := by
  intro fuel enough
  cases chars with
  | nil => exact absurd shorter (Nat.not_lt_zero _)
  | cons char later =>
      cases fuel with
      | zero => exact absurd enough (Nat.not_succ_le_zero _)
      | succ fuel =>
          obtain ⟨segments, found, own⟩ := reads fuel (by omega)
          refine ⟨segment :: segments, ?_, renders segments own⟩
          simp only [readSegments, read, found, bind, Except.bind, pure,
            Except.pure]

theorem word {word literal : List Char} (own : IsWord word)
    (breaks : Breaks (escape literal ++ rest))
    (reads :
      ReadsAs (escape literal ++ rest) (literal :: literals) names) :
    ReadsAs (escape (word ++ literal) ++ rest)
      ((word ++ literal) :: literals) names := by
  have longer := List.length_pos_iff.mpr
    (List.isEmpty_eq_false_iff.mp own.escape_nonempty)
  have written :
      escape (word ++ literal) ++ rest =
        escape word ++ (escape literal ++ rest) := by
    rw [escape_append, List.append_assoc]
  rw [written]
  apply readSegment (own.readSegment breaks) ?_ reads
  · intro segments renders
    have extended :
        Renders (.text (escape word) :: segments)
          ((unescape (escape word) ++ literal) :: literals) names :=
      .text renders
    rwa [unescape_escape own.plain] at extended
  · simp only [List.length_append]
    omega

/-- What comes behind literal text: nothing, or a placeholder. -/
def Closes (rest : List Char) : Prop :=
  ∀ char ∈ rest.head?, char = '\x7B'

/-- Blanks at the start of escaped text are those of the text. -/
theorem span_blanks (closes : Closes rest) (literal : List Char) :
    (escape literal ++ rest).takeWhile (· == ' ') =
        literal.takeWhile (· == ' ') ∧
      (escape literal ++ rest).dropWhile (· == ' ') =
        escape (literal.dropWhile (· == ' ')) ++ rest := by
  induction literal with
  | nil =>
      cases rest with
      | nil => exact ⟨rfl, rfl⟩
      | cons char later =>
          obtain rfl := closes char rfl
          exact ⟨rfl, rfl⟩
  | cons char later ih =>
      by_cases blank : char = ' '
      · subst blank
        have ordinary := @escape_cons_of_ordinary ' ' (by decide) (by decide)
          (by decide) later
        rw [ordinary, List.cons_append]
        simp [ih]
      · have head : ∃ first others, escape (char :: later) = first :: others ∧
            first ≠ ' ' := by
          by_cases special : char = '(' ∨ char = '\x7B' ∨ char = '/'
          · exact ⟨'\\', _, escape_cons_of_special special later, by decide⟩
          · rw [not_or, not_or] at special
            exact ⟨char, _, escape_cons_of_ordinary special.1 special.2.1
              special.2.2 later, blank⟩
        obtain ⟨first, others, written, solid⟩ := head
        rw [List.takeWhile_cons_of_neg (by simpa using blank),
          List.dropWhile_cons_of_neg (by simpa using blank), written,
          List.cons_append]
        simp [solid]

theorem blanks (closes : Closes rest) {literal : List Char}
    (reads :
      ReadsAs (escape (literal.dropWhile (· == ' ')) ++ rest)
        (literal.dropWhile (· == ' ') :: literals) names) :
    ReadsAs (escape (' ' :: literal) ++ rest)
      ((' ' :: literal) :: literals) names := by
  have written : escape (' ' :: literal) = ' ' :: escape literal :=
    escape_cons_of_ordinary (by decide) (by decide) (by decide) literal
  have split := span_blanks closes literal
  have read := readSegment_blanks (escape literal ++ rest)
  rw [split.1, split.2] at read
  rw [written, List.cons_append]
  apply readSegment read ?_ reads
  · intro segments renders
    have blank : ∀ char ∈ literal.takeWhile (· == ' '), char = ' ' := by
      intro char member
      simpa using List.mem_takeWhile_imp member
    have stands (run : List Char) (all : ∀ char ∈ run, char = ' ') :
        unescape run = run := by
      induction run with
      | nil => rfl
      | cons char later ih =>
          rw [List.forall_mem_cons] at all
          rw [unescape_cons (by rw [all.1]; decide), ih all.2]
    have extended :
        Renders
          (.blanks (' ' :: literal.takeWhile (· == ' ')) :: segments)
          ((unescape (' ' :: literal.takeWhile (· == ' ')) ++
            literal.dropWhile (· == ' ')) :: literals) names :=
      .blanks renders
    rw [unescape_cons (by decide), stands _ blank, List.cons_append,
      List.takeWhile_append_dropWhile] at extended
    exact extended
  · have shorter :=
      (List.dropWhile_sublist (l := escape literal ++ rest)
        (· == ' ')).length_le
    rw [split.2] at shorter
    rw [List.length_cons]
    omega

/-- A word is over at a blank, or where the literal text is. -/
theorem breaks_behind_word (closes : Closes rest) (literal : List Char) :
    Breaks (escape (literal.dropWhile (· != ' ')) ++ rest) := by
  cases behind : literal.dropWhile (· != ' ') with
  | nil =>
      intro first head
      exact Or.inr (closes first head)
  | cons first others =>
      have stops := List.head?_dropWhile_not (· != ' ') literal
      rw [behind] at stops
      obtain rfl : first = ' ' := by simpa using stops
      rw [escape_cons_of_ordinary (by decide) (by decide) (by decide)]
      exact .blank _

/-- Literal text without backslashes is read as it is. -/
theorem literal (closes : Closes rest) {literal : List Char}
    (plain : '\\' ∉ literal)
    (reads : ReadsAs rest ([] :: literals) names) :
    ReadsAs (escape literal ++ rest) (literal :: literals) names := by
  induction length : literal.length using Nat.strongRecOn
    generalizing literal with
  | _ length ih =>
    subst length
    cases literal with
    | nil => exact reads
    | cons char later =>
        have left (property : Char → Bool) :
            '\\' ∉ later.dropWhile property := by
          intro member
          exact plain (List.mem_cons_of_mem _
            ((List.dropWhile_sublist _).subset member))
        have shorter (property : Char → Bool) :
            (later.dropWhile property).length < (char :: later).length :=
          Nat.lt_succ_of_le (List.dropWhile_sublist _).length_le
        by_cases blank : char = ' '
        · subst blank
          exact blanks closes (ih _ (shorter _) (left _) rfl)
        · have behind :
              (char :: later).dropWhile (· != ' ') =
                later.dropWhile (· != ' ') :=
            List.dropWhile_cons_of_pos (by simpa using blank)
          have breaks := breaks_behind_word closes (char :: later)
          have split :=
            List.takeWhile_append_dropWhile (p := (· != ' '))
              (l := char :: later)
          rw [behind] at breaks split
          have reads := word (.takeWhile plain blank) breaks
            (ih _ (shorter _) (left _) rfl)
          rwa [split] at reads

/-- A placeholder is read between literal texts. -/
theorem parameter {name : String} (legal : IsLegalName name)
    (reads : ReadsAs rest literals names) :
    ReadsAs ('\x7B' :: (name.toList ++ '\x7D' :: rest)) ([] :: literals)
      (name :: names) := by
  apply readSegment (readSegment_parameter legal rest) ?_ reads
  · intro segments renders
    exact .parameter name renders
  · simp only [List.length_cons, List.length_append]
    omega

end ReadsAs

theorem readsAs_interleave {literals : List (List Char)}
    {types : List ParameterType}
    (fits : literals.length = types.length + 1)
    (plain : ∀ literal ∈ literals, '\\' ∉ literal)
    (legal : ∀ type ∈ types, IsLegalName type.name) :
    ReadsAs (interleave literals types) literals (types.map (·.name)) := by
  induction types generalizing literals with
  | nil =>
      obtain ⟨literal, rfl⟩ := List.length_eq_one_iff.mp fits
      apply ReadsAs.literal ?_ (plain literal List.mem_cons_self) .nil
      rintro char ⟨⟩
  | cons type types ih =>
      cases literals with
      | nil => cases fits
      | cons literal literals =>
          rw [List.forall_mem_cons] at plain legal
          have reads := ih (Nat.succ.inj fits) plain.2 legal.2
          have written :
              interleave (literal :: literals) (type :: types) =
                escape literal ++
                  '\x7B' :: (type.name.toList ++
                    '\x7D' :: interleave literals types) := by
            simp [interleave]
          rw [written]
          apply ReadsAs.literal ?_ plain.1
          · exact .parameter legal.1 reads
          · rintro char ⟨⟩
            rfl

/--
A suggested expression is read as segments that stand for its literal texts
with its placeholders between them, if there are no backslashes in the literal
texts.
-/
theorem parse_interleave {literals : List (List Char)}
    {types : List ParameterType}
    (fits : literals.length = types.length + 1)
    (plain : ∀ literal ∈ literals, '\\' ∉ literal)
    (legal : ∀ type ∈ types, IsLegalName type.name) :
    ∃ segments,
      parse (String.ofList (interleave literals types)) = .ok segments ∧
        Renders segments literals (types.map (·.name)) := by
  have reads := readsAs_interleave fits plain legal
  obtain ⟨segments, found, renders⟩ := reads _ (Nat.le_refl _)
  refine ⟨segments, ?_, renders⟩
  rw [parse, String.toList_ofList]
  exact found

end ScenarioRunner.Expression
