import ScenarioRunner.Proofs.DiagnosisReport

/-!
# The text of suggested definitions

A suggested definition is its template with two parts put in: first the
expression, then the names of the arguments.  The second replacement goes
through the expression as well, so what is said here holds for expressions that
do not have the part that the arguments are put in for.

The main statement is `UnmatchedStep.snippet_eq`.
-/

namespace ScenarioRunner

namespace UnmatchedStep

/-! ## Escaped text -/

/-- How a character is written between double quotes. -/
def escapedChar (char : Char) : List Char :=
  if char = '\\' ∨ char = '"' then ['\\', char] else [char]

theorem eq_or_eq_of_mem_escapedChar {char own : Char}
    (member : char ∈ escapedChar own) : char = own ∨ char = '\\' := by
  grind [escapedChar]

/-- A text between double quotes is written character by character. -/
theorem toList_escapeQuotes (text : String) :
    (escapeQuotes text).toList = text.toList.flatMap escapedChar := by
  have backslash : "\\".toList = ['\\'] := rfl
  have quote : "\"".toList = ['"'] := rfl
  have escapedQuote : "\\\"".toList = ['\\', '"'] := rfl
  have escapedBackslash : "\\\\".toList = ['\\', '\\'] := rfl
  have replaced (pattern replacement text : String) :
      (Text.replace pattern replacement text).toList =
        Text.replaceFrom pattern.toList replacement.toList 0 text.toList :=
    String.toList_ofList
  rw [escapeQuotes, replaced, replaced, backslash, quote, escapedQuote,
    escapedBackslash, Text.replaceFrom_single, Text.replaceFrom_single,
    List.flatMap_assoc]
  apply List.flatMap_congr
  intro char _
  by_cases first : char = '\\'
  · subst first
    decide
  · by_cases second : char = '"'
    · subst second
      decide
    · simp [escapedChar, first, second]

section Occurrences

variable {pattern : List Char}

theorem prefix_of_prefix_escaped (backslash : '\\' ∉ pattern)
    {text : List Char} (matched : pattern <+: text.flatMap escapedChar) :
    pattern <+: text := by
  induction text generalizing pattern with
  | nil => exact matched
  | cons char rest ih =>
      cases pattern with
      | nil => exact List.nil_prefix
      | cons first others =>
          rw [List.mem_cons, not_or] at backslash
          rw [List.flatMap_cons, escapedChar] at matched
          split at matched
          · exact absurd (List.cons_prefix_cons.mp matched).1.symm
              backslash.1
          · obtain ⟨rfl, inside⟩ := List.cons_prefix_cons.mp matched
            exact List.cons_prefix_cons.mpr ⟨rfl, ih backslash.2 inside⟩

/-- A pattern without escaped characters does not come in by escaping. -/
theorem infix_of_infix_escaped (backslash : '\\' ∉ pattern)
    (quote : '"' ∉ pattern) {text : List Char}
    (occurs : pattern <:+: text.flatMap escapedChar) : pattern <:+: text := by
  induction text with
  | nil => exact occurs
  | cons char rest ih =>
      rw [List.flatMap_cons] at occurs
      by_cases escaped : char = '\\' ∨ char = '"'
      · have absent : char ∉ pattern := by
          rintro member
          rcases escaped with rfl | rfl
          · exact backslash member
          · exact quote member
        rw [escapedChar, if_pos escaped] at occurs
        have whole :
            ['\\', char] ++ rest.flatMap escapedChar =
              [] ++ '\\' :: ([] ++ char :: rest.flatMap escapedChar) := rfl
        rw [whole, Text.infix_append_cons_iff backslash,
          Text.infix_append_cons_iff absent] at occurs
        rcases occurs with none | none | inside
        · exact none.trans List.nil_infix
        · exact none.trans List.nil_infix
        · exact (ih inside).trans (List.suffix_cons _ _).isInfix
      · rw [escapedChar, if_neg escaped, List.singleton_append,
          List.infix_cons_iff] at occurs
        rcases occurs with start | inside
        · rw [List.infix_cons_iff]
          left
          cases pattern with
          | nil => exact List.nil_prefix
          | cons first others =>
              rw [List.mem_cons, not_or] at backslash
              obtain ⟨rfl, inside⟩ := List.cons_prefix_cons.mp start
              exact List.cons_prefix_cons.mpr
                ⟨rfl, prefix_of_prefix_escaped backslash.2 inside⟩
        · exact (ih inside).trans (List.suffix_cons _ _).isInfix

end Occurrences

/-! ## The template with its parts put in -/

/-- What stands behind the expression on its line. -/
def definitionEnd : String := "\", |world, ctx| \x7B"

/-- The line that tells the arguments, if there are any. -/
def argumentsLine (names : String) : String :=
  if names.isEmpty then "" else s!"    // Arguments: {names}.\n"

/-- What stands below the line that tells the arguments. -/
def definitionBody : String :=
  "    async \x7B Ok(Outcome::Pending) \x7D.boxed_local()\n\x7D)?;"

/-- A text without one of the characters of a pattern does not have the
pattern. -/
theorem not_infix_of_mem {char : Char} {pattern text : List Char}
    (own : char ∈ pattern) (absent : char ∉ text) : ¬ pattern <:+: text :=
  fun inside => absent (inside.subset own)

theorem bracket_mem_snippetArguments : '[' ∈ snippetArguments.toList := by
  simp [snippetArguments]

/-- The part for the arguments is not in front of the line that it stands in,
unless it is in the expression. -/
theorem not_infix_front {source : String}
    (plain : ¬ snippetArguments.toList <:+: source.toList) (others : String)
    (absent : ¬ snippetArguments.toList <:+: others.toList) :
    ¬ snippetArguments.toList <:+:
      (snippetOpening ++ escapeQuotes source ++ ("\"" ++ others)).toList := by
  have quote : '"' ∉ snippetArguments.toList := by simp [snippetArguments]
  have backslash : '\\' ∉ snippetArguments.toList := by simp [snippetArguments]
  have opening :
      snippetOpening.toList = "steps.define_step(".toList ++ ['"'] := rfl
  have front : ¬ snippetArguments.toList <:+: "steps.define_step(".toList :=
    not_infix_of_mem bracket_mem_snippetArguments (by simp)
  have between : "\"".toList = ['"'] := rfl
  intro occurs
  rw [String.toList_append, String.toList_append, String.toList_append,
    opening, between, List.append_assoc, List.append_assoc,
    List.singleton_append, Text.infix_append_cons_iff quote,
    List.singleton_append, Text.infix_append_cons_iff quote,
    toList_escapeQuotes] at occurs
  rcases occurs with first | inside | last
  · exact front first
  · exact plain (infix_of_infix_escaped backslash quote inside)
  · exact absent last

/-- What stands between the expression and the arguments. -/
def argumentsFront : String := ", |world, ctx| \x7B\n    // "

/-- The names of the arguments are put in behind the expression. -/
theorem replace_snippetArguments {source : String}
    (plain : ¬ snippetArguments.toList <:+: source.toList)
    (arguments : String) :
    Text.replace snippetArguments arguments
        (snippetOpening ++ escapeQuotes source ++ snippetClosing) =
      snippetOpening ++ escapeQuotes source ++ ("\"" ++ argumentsFront) ++
        arguments ++ ("\n" ++ definitionBody) := by
  have absent : ¬ snippetArguments.toList <:+: argumentsFront.toList :=
    not_infix_of_mem bracket_mem_snippetArguments (by simp [argumentsFront])
  have pattern : snippetArguments.toList = '[' :: "arguments]".toList := rfl
  have once : '[' ∉ "arguments]".toList := by simp
  have closing :
      snippetClosing =
        "\"" ++ argumentsFront ++ snippetArguments ++
          ("\n" ++ definitionBody) := by
    rw [← String.append_assoc]
    rfl
  have rest :
      Text.occursIn ('[' :: "arguments]".toList)
        ("\n" ++ definitionBody).toList = false := by
    have outside : '[' ∉ ("\n" ++ definitionBody).toList := by
      simp [definitionBody]
    rw [Bool.eq_false_iff, ne_eq, Text.occursIn_iff]
    exact not_infix_of_mem List.mem_cons_self outside
  have front := not_infix_front plain argumentsFront absent
  rw [pattern] at front
  have text :
      (snippetOpening ++ escapeQuotes source ++ snippetClosing).toList =
        (snippetOpening ++ escapeQuotes source ++
            ("\"" ++ argumentsFront)).toList ++
          ('[' :: "arguments]".toList ++ ("\n" ++ definitionBody).toList) := by
    rw [← pattern, closing]
    simp only [String.toList_append, List.append_assoc]
  rw [Text.replace, pattern, text, Text.replaceFrom_first once front,
    Text.replaceFrom_of_absent rest, String.ofList_append,
    String.ofList_append, String.ofList_toList, String.ofList_toList,
    String.ofList_toList]

/-- The line of a suggested definition that the expression stands in; there are
several if the expression has line feeds. -/
def definitionLine (source : String) : String :=
  snippetOpening ++ escapeQuotes source ++ definitionEnd

theorem not_contains_definitionLine {source : String}
    (plain : ¬ snippetArguments.toList <:+: source.toList) :
    ∀ line ∈ Text.lines (definitionLine source).toList,
      Text.occursIn snippetArguments.toList line = false := by
  have absent : ¬ snippetArguments.toList <:+: ", |world, ctx| \x7B".toList :=
    not_infix_of_mem bracket_mem_snippetArguments (by simp)
  have front := not_infix_front plain _ absent
  intro line member
  rw [Bool.eq_false_iff, ne_eq, Text.occursIn_iff]
  intro occurs
  exact front (occurs.trans (Text.infix_of_mem_lines member))

theorem definitionLine_unreturned {source : String}
    (unreturned : '\r' ∉ source.toList) :
    '\r' ∉ (definitionLine source).toList := by
  have opening : '\r' ∉ snippetOpening.toList := by simp [snippetOpening]
  have ending : '\r' ∉ definitionEnd.toList := by simp [definitionEnd]
  rw [definitionLine, String.toList_append, String.toList_append,
    List.mem_append, List.mem_append, toList_escapeQuotes]
  rintro ((first | inside) | last)
  · exact opening first
  · obtain ⟨char, member, written⟩ := List.mem_flatMap.mp inside
    rcases eq_or_eq_of_mem_escapedChar written with rfl | broken
    · exact unreturned member
    · exact absurd broken (by decide)
  · exact ending last

/-- The lines of a text that ends with none of the line breaks, put together
again. -/
theorem intercalate_linesOf {text : String} {front : List Char} {last : Char}
    (unreturned : '\r' ∉ text.toList) (ends : last ≠ '\n')
    (whole : text.toList = front ++ [last]) :
    "\n".intercalate (linesOf text) = text := by
  have lineFeed : "\n".toList = ['\n'] := rfl
  have kept (lines : List (List Char)) :
      (lines.map String.ofList).map String.toList = lines := by
    rw [List.map_map]
    exact List.map_id'' (fun _ => String.toList_ofList) lines
  rw [whole, List.mem_append, not_or] at unreturned
  rw [← String.toList_inj, String.toList_intercalate, linesOf, kept, lineFeed,
    whole, Text.intercalate_lines unreturned.1 ends]

theorem linesOf_ne_nil {text : String} {front : List Char} {last : Char}
    (whole : text.toList = front ++ [last]) : linesOf text ≠ [] := by
  have nonempty : front ++ [last] ≠ [] := by simp
  simp [linesOf, whole, Text.lines_ne_nil nonempty]

/-- The line of the expression ends with a brace. -/
theorem exists_definitionLine_concat (source : String) :
    ∃ front, (definitionLine source).toList = front ++ ['\x7B'] := by
  have ends :
      definitionEnd.toList = "\", |world, ctx| ".toList ++ ['\x7B'] := rfl
  refine ⟨(snippetOpening ++ escapeQuotes source).toList ++
    "\", |world, ctx| ".toList, ?_⟩
  rw [definitionLine, String.toList_append, ends, List.append_assoc]

/-- What stands below the line of the expression in the template. -/
def templateBody : String := "    // [arguments]\n" ++ definitionBody

/-- The lines of the template are those of the expression and those below. -/
theorem linesOf_template {source : String}
    (unreturned : '\r' ∉ source.toList) :
    linesOf (snippetOpening ++ escapeQuotes source ++ snippetClosing) =
      linesOf (definitionLine source) ++ linesOf templateBody := by
  have closing :
      snippetClosing = definitionEnd ++ ("\n" ++ templateBody) := by
    decide +kernel
  have text :
      (snippetOpening ++ escapeQuotes source ++ snippetClosing).toList =
        (definitionLine source).toList ++ '\n' :: templateBody.toList := by
    rw [closing, definitionLine]
    simp only [String.toList_append, List.append_assoc]
    rfl
  obtain ⟨front, whole⟩ := exists_definitionLine_concat source
  have unbroken := definitionLine_unreturned unreturned
  rw [whole] at unbroken
  rw [linesOf, text, whole, Text.lines_append,
    Text.lines_concat_lineFeed unbroken (by decide), ← whole, List.map_append]
  rfl

/-- The lines of the expression are kept. -/
theorem filter_definitionLine {source : String}
    (plain : ¬ snippetArguments.toList <:+: source.toList) :
    (linesOf (definitionLine source)).filter
        (!Text.contains · snippetArguments) =
      linesOf (definitionLine source) := by
  rw [List.filter_eq_self]
  intro line member
  obtain ⟨chars, inside, rfl⟩ := List.mem_map.mp member
  rw [Text.contains, String.toList_ofList,
    not_contains_definitionLine plain chars inside]
  rfl

/-- Without arguments the line that would tell them is left out. -/
theorem filter_lines {source : String}
    (plain : ¬ snippetArguments.toList <:+: source.toList)
    (unreturned : '\r' ∉ source.toList) :
    "\n".intercalate
        ((linesOf (snippetOpening ++ escapeQuotes source ++
          snippetClosing)).filter (!Text.contains · snippetArguments)) =
      definitionLine source ++ ("\n" ++ definitionBody) := by
  have rest :
      (linesOf templateBody).filter (!Text.contains · snippetArguments) =
        linesOf definitionBody := by
    decide +kernel
  have body : "\n".intercalate (linesOf definitionBody) = definitionBody := by
    decide +kernel
  have lower : linesOf definitionBody ≠ [] := by
    decide +kernel
  obtain ⟨front, whole⟩ := exists_definitionLine_concat source
  have unbroken := definitionLine_unreturned unreturned
  rw [linesOf_template unreturned, List.filter_append,
    filter_definitionLine plain, rest,
    String.intercalate_append_of_ne_nil (linesOf_ne_nil whole) lower,
    intercalate_linesOf unbroken (by decide) whole, body, String.append_assoc]

/-- The text of a suggested definition: the template with the expression in a
literal, and with a line for the arguments if there are any. -/
theorem snippet_eq (unmatched : UnmatchedStep) {suggestion : Suggestion}
    (plain : ¬ snippetArguments.toList <:+: suggestion.source.toList)
    (unreturned : '\r' ∉ suggestion.source.toList) :
    unmatched.snippet suggestion =
      definitionLine suggestion.source ++
        ("\n" ++ argumentsLine (unmatched.argumentNames suggestion) ++
          definitionBody) := by
  unfold snippet argumentsLine
  dsimp only
  rw [replace_snippetExpression]
  split
  · rw [filter_lines plain unreturned, String.append_empty]
  · have front :
        "\"" ++ (argumentsFront ++ "Arguments: ") =
          definitionEnd ++ ("\n" ++ "    // Arguments: ") := rfl
    let names := unmatched.argumentNames suggestion
    rw [replace_snippetArguments plain]
    calc snippetOpening ++ escapeQuotes suggestion.source ++
            ("\"" ++ argumentsFront) ++ ("Arguments: " ++ names ++ ".") ++
            ("\n" ++ definitionBody) =
          snippetOpening ++ (escapeQuotes suggestion.source ++
            ("\"" ++ (argumentsFront ++ "Arguments: ") ++
              (names ++ ("." ++ "\n" ++ definitionBody)))) := by
          simp only [String.append_assoc]
      _ = definitionLine suggestion.source ++
            ("\n" ++ ("    // Arguments: " ++ names ++ ".\n") ++
              definitionBody) := by
          rw [front, definitionLine]
          simp only [String.append_assoc]
          rfl

end UnmatchedStep

end ScenarioRunner
