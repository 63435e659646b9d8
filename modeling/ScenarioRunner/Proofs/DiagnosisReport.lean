import ScenarioRunner.Diagnosis.Report
import ScenarioRunner.Proofs.TextReplacement

/-!
# The end of a report

The report of a diagnosis ends with a remark if there are no problems.  The
texts of steps, paths and definitions may be anything, the remark itself among
them, and yet a report of problems never ends with it: it ends with a blank
line, with the files that were searched, or with the last line of a suggested
definition.

The main statement is `Diagnosis.report_endsWith_iff`.
-/

namespace ScenarioRunner

/-! ## Ends of texts -/

/-- A text ends with another. -/
def Text.EndsWith (text ending : String) : Prop :=
  ∃ start, text = start ++ ending

namespace Text.EndsWith

variable {text ending : String}

theorem refl (text : String) : EndsWith text text :=
  ⟨"", (String.empty_append).symm⟩

theorem append_left (ends : EndsWith text ending) (front : String) :
    EndsWith (front ++ text) ending := by
  obtain ⟨start, rfl⟩ := ends
  exact ⟨front ++ start, String.append_assoc.symm⟩

theorem append_right (ends : EndsWith text ending) (back : String) :
    EndsWith (text ++ back) (ending ++ back) := by
  obtain ⟨start, rfl⟩ := ends
  exact ⟨start, String.append_assoc⟩

theorem trans {shorter : String} (ends : EndsWith text ending)
    (inner : EndsWith ending shorter) : EndsWith text shorter := by
  obtain ⟨start, rfl⟩ := ends
  exact inner.append_left start

/-- Of two ends of a text one is an end of the other. -/
theorem suffix_or_suffix {other : String} (first : EndsWith text ending)
    (second : EndsWith text other) :
    ending.toList <:+ other.toList ∨ other.toList <:+ ending.toList := by
  obtain ⟨start, rfl⟩ := first
  obtain ⟨otherStart, same⟩ := second
  have whole := congrArg String.toList same
  rw [String.toList_append, String.toList_append] at whole
  have own : ending.toList <:+ start.toList ++ ending.toList :=
    List.suffix_append _ _
  exact List.suffix_or_suffix_of_suffix own ⟨otherStart.toList, whole.symm⟩

theorem intercalate (separator last : String) (early : List String) :
    EndsWith (separator.intercalate (early ++ [last])) last := by
  cases early with
  | nil =>
      rw [List.nil_append, String.intercalate_singleton]
      exact refl last
  | cons first others =>
      rw [String.intercalate_append_of_ne_nil (List.cons_ne_nil _ _)
        (List.cons_ne_nil _ _), String.intercalate_singleton]
      exact (refl last).append_left _

theorem join (last : String) (early : List String) :
    EndsWith (String.join (early ++ [last])) last := by
  rw [String.join_append]
  simpa using (refl last).append_left (String.join early)

/-- A text that ends with a semicolon, as a list of characters. -/
theorem semicolon_iff :
    EndsWith text ";" ↔ ∃ front, text.toList = front ++ [';'] := by
  constructor
  · rintro ⟨start, rfl⟩
    exact ⟨start.toList, String.toList_append⟩
  · rintro ⟨front, same⟩
    refine ⟨String.ofList front, ?_⟩
    rw [← String.toList_inj, String.toList_append, String.toList_ofList,
      same]
    rfl

/-- A semicolon at the end stays there when something else is replaced. -/
theorem replace {pattern replacement : String} (nonempty : pattern ≠ "")
    (absent : ';' ∉ pattern.toList) (ends : EndsWith text ";") :
    EndsWith (Text.replace pattern replacement text) ";" := by
  obtain ⟨front, same⟩ := semicolon_iff.mp ends
  have inside : pattern.toList ≠ [] := by
    simpa using nonempty
  obtain ⟨start, replaced⟩ :=
    exists_replaceFrom_concat inside absent (Nat.zero_le front.length)
  rw [semicolon_iff, Text.replace, same, replaced]
  exact ⟨start, String.toList_ofList⟩

end Text.EndsWith

/-! ## Suggested definitions -/

open Text (EndsWith)

/-- What stands before the expression of a suggested definition. -/
def snippetOpening : String := "steps.define_step(\""

/-- What stands behind it. -/
def snippetClosing : String :=
  "\", |world, ctx| \x7B\n    // [arguments]\n" ++
    "    async \x7B Ok(Outcome::Pending) \x7D.boxed_local()\n\x7D)?;"

/-- What stands in front of the last line. -/
def snippetFront : String :=
  "\", |world, ctx| \x7B\n    // [arguments]\n" ++
    "    async \x7B Ok(Outcome::Pending) \x7D.boxed_local()"

/-- The expression is put in for its part of the template, whatever it is. -/
theorem replace_snippetExpression (expression : String) :
    Text.replace snippetExpression expression snippetTemplate =
      snippetOpening ++ expression ++ snippetClosing := by
  have template :
      snippetTemplate.toList =
        snippetOpening.toList ++
          ('[' :: "expression]".toList ++ snippetClosing.toList) := by
    decide +kernel
  have pattern :
      snippetExpression.toList = '[' :: "expression]".toList := rfl
  have closing :
      Text.occursIn ('[' :: "expression]".toList) snippetClosing.toList =
        false := rfl
  have opening : '[' ∉ snippetOpening.toList := by simp [snippetOpening]
  rw [Text.replace, template, pattern, Text.replaceFrom_append opening,
    Text.replaceFrom_pattern, Text.replaceFrom_of_absent closing,
    String.ofList_append, String.ofList_append, String.ofList_toList,
    String.ofList_toList, String.ofList_toList, String.append_assoc]

namespace UnmatchedStep

/-- A suggested definition ends with the last line of the template. -/
theorem snippet_endsWith (unmatched : UnmatchedStep)
    (suggestion : Suggestion) :
    EndsWith (unmatched.snippet suggestion) ";" := by
  let expression := escapeQuotes suggestion.source
  have text :
      Text.replace snippetExpression expression snippetTemplate =
        snippetOpening ++ expression ++ snippetClosing :=
    replace_snippetExpression expression
  unfold snippet
  dsimp only
  rw [text]
  split
  · -- The last line says nothing about arguments, so it is kept.
    have closing :
        snippetClosing.toList =
          snippetFront.toList ++ '\n' :: "\x7D)?;".toList := rfl
    have last :
        Text.lines "\x7D)?;".toList = ["\x7D)?;".toList] := rfl
    have kept : Text.contains "\x7D)?;" snippetArguments = false := rfl
    rw [linesOf, String.toList_append, closing, ← List.append_assoc,
      Text.lines_append, last, List.map_append, List.filter_append]
    have line :
        [("\x7D)?;".toList)].map String.ofList = ["\x7D)?;"] := by
      rw [List.map_singleton, String.ofList_toList]
    rw [line, List.filter_cons_of_pos (by simp [kept]), List.filter_nil]
    apply (EndsWith.intercalate _ _ _).trans
    exact ⟨"\x7D)?", rfl⟩
  · have closing : EndsWith snippetClosing ";" :=
      ⟨snippetFront ++ "\n\x7D)?", rfl⟩
    refine EndsWith.replace ?_ ?_ (closing.append_left _)
    · simp [snippetArguments]
    · simp [snippetArguments]

/-- So it does when it is moved to the right. -/
theorem indented_endsWith {snippet : String}
    (ends : EndsWith snippet ";") :
    EndsWith (Diagnosis.indented snippet) ";" := by
  obtain ⟨front, same⟩ := EndsWith.semicolon_iff.mp ends
  have lineFeed : ';' ≠ '\n' := by decide
  obtain ⟨early, line, lines⟩ := Text.exists_lines_concat lineFeed front
  have moved :
      Diagnosis.indented snippet =
        "\n".intercalate
          (early.map (fun line => "  " ++ String.ofList line) ++
            ["  " ++ String.ofList (line ++ [';'])]) := by
    rw [Diagnosis.indented, linesOf, same, lines, List.map_map,
      List.map_append]
    rfl
  rw [moved]
  apply (EndsWith.intercalate _ _ _).trans
  rw [String.ofList_append]
  exact ((EndsWith.refl ";").append_left _).append_left _

end UnmatchedStep

/-! ## Reports -/

namespace Diagnosis

/-- The text about the files that were searched does not end as the remark
does. -/
theorem searchedText_endsWith (paths : List String) :
    EndsWith (searchedText paths) "below.\n" := by
  unfold searchedText
  split
  · apply EndsWith.append_left
    exact ⟨"suggestion(s) ", rfl⟩
  · apply EndsWith.append_left
    exact ⟨"definition. You can implement it using the suggestion(s) ",
      rfl⟩

/-- The text about an unmatched step ends with the files that were searched, or
with a suggested definition. -/
theorem unmatchedText_endsWith (colored : Bool) (unmatched : UnmatchedStep) :
    EndsWith (unmatchedText colored unmatched) "below.\n" ∨
      EndsWith (unmatchedText colored unmatched) ";\n" := by
  unfold unmatchedText
  dsimp only
  rcases List.eq_nil_or_concat unmatched.snippets with
    none | ⟨early, last, some⟩
  · left
    rw [none, List.map_nil, String.join_nil, String.append_empty]
    exact (searchedText_endsWith _).append_left _
  · right
    rw [List.concat_eq_append] at some
    have suggested : last ∈ unmatched.snippets := by
      rw [some]
      exact List.mem_append_right _ (List.mem_singleton_self last)
    obtain ⟨suggestion, -, rfl⟩ := List.mem_map.mp suggested
    have line := unmatched.snippet_endsWith suggestion
    rw [some, List.map_append, List.map_singleton]
    apply EndsWith.append_left
    apply (EndsWith.join _ _).trans
    have moved := (UnmatchedStep.indented_endsWith line).append_left "\n"
    exact moved.append_right "\n"

/-- The text about an ambiguous step ends with a line of its own. -/
theorem ambiguousText_endsWith (colored : Bool) (ambiguous : AmbiguousStep) :
    EndsWith (ambiguousText colored ambiguous) "\n" := by
  unfold ambiguousText
  dsimp only
  rcases List.eq_nil_or_concat ambiguous.definitions with
    none | ⟨early, last, some⟩
  · rw [none, List.map_nil, String.join_nil, String.append_empty]
    apply EndsWith.append_left
    exact ⟨"Step matched the following definitions:\n", rfl⟩
  · rw [some, List.concat_eq_append, List.map_append, List.map_singleton]
    apply EndsWith.append_left
    apply (EndsWith.join _ _).trans
    apply EndsWith.append_left
    exact ⟨")", rfl⟩

/-- The texts about ambiguous steps, if there are any, end with a blank
line. -/
theorem ambiguousTexts_endsWith (colored : Bool)
    {ambiguous : List AmbiguousStep} (some : ambiguous ≠ []) :
    EndsWith
      (String.join (ambiguous.map (ambiguousText colored)) ++ "\n")
      "\n\n" := by
  rcases List.eq_nil_or_concat ambiguous with none | ⟨early, last, rfl⟩
  · exact absurd none some
  · rw [List.concat_eq_append, List.map_append, List.map_singleton]
    have line := (EndsWith.join (ambiguousText colored last)
      (early.map (ambiguousText colored))).trans
      (ambiguousText_endsWith colored last)
    exact line.append_right "\n"

/-- A report of problems ends otherwise than the remark. -/
theorem report_endsWith {diagnosis : Diagnosis}
    (problems : diagnosis.hasProblems = true) (colored : Bool) :
    EndsWith (report colored diagnosis) "below.\n" ∨
      EndsWith (report colored diagnosis) ";\n" ∨
      EndsWith (report colored diagnosis) "\n\n" := by
  unfold report
  rw [if_pos problems, String.append_empty]
  rcases List.eq_nil_or_concat diagnosis.unmatched with
    none | ⟨early, last, some⟩
  · have ambiguous : diagnosis.ambiguous ≠ [] := by
      intro empty
      simp [hasProblems, none, empty] at problems
    have several : diagnosis.ambiguous.isEmpty = false :=
      List.isEmpty_eq_false_iff.mpr ambiguous
    rw [none, List.map_nil, String.join_nil, String.append_empty, several]
    right
    right
    exact (ambiguousTexts_endsWith colored ambiguous).append_left _
  · rw [some, List.concat_eq_append, List.map_append, List.map_singleton]
    have closing {ending : String}
        (ends : EndsWith (unmatchedText colored last) ending) :=
      ((EndsWith.join _ (early.map (unmatchedText colored))).trans
        ends).append_left
          ((diagnosis.usageTable colored).render Console.width ++ "\n\n" ++
            if diagnosis.ambiguous.isEmpty then ""
            else
              String.join
                (diagnosis.ambiguous.map (ambiguousText colored)) ++ "\n")
    rcases unmatchedText_endsWith colored last with searched | suggested
    · exact Or.inl (closing searched)
    · exact Or.inr (Or.inl (closing suggested))

/-- A report ends with the remark that there are no problems exactly if there
are none. -/
theorem report_endsWith_iff (colored : Bool) (diagnosis : Diagnosis) :
    EndsWith (report colored diagnosis) noProblems ↔
      diagnosis.hasProblems = false := by
  have apart {ending : String}
      (ends : EndsWith (report colored diagnosis) ending)
      (remark : EndsWith (report colored diagnosis) noProblems) :
      noProblems.toList <:+ ending.toList ∨
        ending.toList <:+ noProblems.toList :=
    remark.suffix_or_suffix ends
  constructor
  · intro remark
    by_contra found
    have problems : diagnosis.hasProblems = true := by
      simpa using found
    rcases report_endsWith problems colored with
      searched | suggested | ambiguous
    · exact absurd (apart searched remark) (by decide)
    · exact absurd (apart suggested remark) (by decide)
    · exact absurd (apart ambiguous remark) (by decide)
  · intro none
    unfold report
    rw [none]
    exact (EndsWith.refl noProblems).append_left _

end Diagnosis

end ScenarioRunner
