import ScenarioRunner.Proofs.BuiltRegistry
import ScenarioRunner.Proofs.DiagnosisTally
import ScenarioRunner.Proofs.JoinedLines
import ScenarioRunner.Proofs.SnippetText
import ScenarioRunner.Proofs.SuggestionChoices

/-!
# Reading suggested definitions

A suggested definition is meant to be put into a program, so what counts is how
the program reads it: which literal it defines a step by, and which comment it
comes with.  The reader here tells comments, literals and all other text apart.
It knows line comments and literals with their escapes; characters between
single quotes, raw literals and other comments are not in the template, and it
takes their characters for other text.

The main statement is `UnmatchedStep.read_snippet`.
-/

namespace ScenarioRunner

/-- A part of a program. -/
inductive ProgramToken where
  /-- A character outside of comments and literals. -/
  | code (char : Char)
  /-- A literal, by the text that it stands for. -/
  | literal (content : List Char)
  /-- What is behind the slashes of a comment, up to the end of its line. -/
  | comment (content : List Char)
  deriving DecidableEq, Repr

namespace ProgramToken

/-- What the characters before the next one belong to. -/
inductive Mode where
  | code
  | comment
  /-- A literal; if a backslash has ended the line, the blanks that follow are
  not part of it. -/
  | literal (continued : Bool)
  /-- A literal, right behind a backslash. -/
  | escaped
  /-- A literal, in the braces around the number of a character. -/
  | numbered (digits value : Nat)
  deriving DecidableEq, Repr

/-- Put a character in front of the content of the first part. -/
def extend (char : Char) : List ProgramToken → List ProgramToken
  | .literal content :: later => .literal (char :: content) :: later
  | .comment content :: later => .comment (char :: content) :: later
  | tokens => tokens

/-- What a backslash and a single character stand for. -/
def simpleEscape? (char : Char) : Option Char :=
  ['0', 't', 'n', 'r', '"', '\'', '\\'].zip
    ['\x00', '\t', '\n', '\r', '"', '\'', '\\'] |>.lookup char

/-- The parts of a text.  A literal that is not well formed has none. -/
def scan : Mode → List Char → Option (List ProgramToken)
  | .code, [] => some []
  | .comment, [] => some [.comment []]
  | _, [] => none
  | .code, '/' :: '/' :: rest => scan .comment rest
  | .code, '"' :: rest => scan (.literal false) rest
  | .code, char :: rest => (scan .code rest).map (.code char :: ·)
  | .comment, '\n' :: rest =>
      (scan .code rest).map ([.comment [], .code '\n'] ++ ·)
  | .comment, char :: rest => (scan .comment rest).map (extend char)
  | .literal continued, char :: rest =>
      if continued && [' ', '\t', '\n', '\r'].contains char then
        scan (.literal true) rest
      else if char = '"' then (scan .code rest).map (.literal [] :: ·)
      else if char = '\\' then scan .escaped rest
      else if char = '\r' then
        -- The line feed of such a line break is all that it stands for.
        if rest.head? = some '\n' then scan (.literal false) rest else none
      else (scan (.literal false) rest).map (extend char)
  | .escaped, '\n' :: rest => scan (.literal true) rest
  | .escaped, 'u' :: '\x7B' :: rest => scan (.numbered 0 0) rest
  | .escaped, 'x' :: high :: low :: rest => do
      let value := 16 * (← Regex.hexValue? high) + (← Regex.hexValue? low)
      if value < 128 then
        (scan (.literal false) rest).map (extend (Char.ofNat value))
      else none
  | .escaped, char :: rest => do
      let meant ← simpleEscape? char
      (scan (.literal false) rest).map (extend meant)
  | .numbered digits value, char :: rest =>
      if digits = 0 && ['_', '\x7D'].contains char then none
      else if char = '_' then scan (.numbered digits value) rest
      else if char = '\x7D' then
        if value.isValidChar then
          (scan (.literal false) rest).map (extend (Char.ofNat value))
        else none
      else do
        let digit ← Regex.hexValue? char
        if digits < 6 then
          scan (.numbered (digits + 1) (16 * value + digit)) rest
        else none

/-- The parts of a program. -/
def read (text : String) : Option (List ProgramToken) :=
  scan .code text.toList

/-- A text outside of comments and literals. -/
def codeOf (text : String) : List ProgramToken :=
  text.toList.map .code

/-! ## What is read of the parts that are put in -/

theorem scan_code_append {front : List Char} (quote : '"' ∉ front)
    (slash : '/' ∉ front) (rest : List Char) :
    scan .code (front ++ rest) =
      (scan .code rest).map (front.map .code ++ ·) := by
  induction front with
  | nil => simp
  | cons char front ih =>
      rw [List.mem_cons, not_or] at quote slash
      have step :
          scan .code (char :: (front ++ rest)) =
            (scan .code (front ++ rest)).map (.code char :: ·) := by
        rw [scan]
        · rintro others rfl -
          exact slash.1 rfl
        · rintro rfl
          exact quote.1 rfl
      rw [List.cons_append, step, ih quote.2 slash.2, Option.map_map]
      rfl

theorem scan_comment {content : List Char} (lineFeed : '\n' ∉ content)
    (rest : List Char) :
    scan .comment (content ++ '\n' :: rest) =
      (scan .code rest).map ([.comment content, .code '\n'] ++ ·) := by
  induction content with
  | nil => rfl
  | cons char content ih =>
      rw [List.mem_cons, not_or] at lineFeed
      have step :
          scan .comment (char :: (content ++ '\n' :: rest)) =
            (scan .comment (content ++ '\n' :: rest)).map (extend char) := by
        rw [scan]
        rintro rfl
        exact lineFeed.1 rfl
      rw [List.cons_append, step, ih lineFeed.2, Option.map_map]
      rfl

/-- A text that is written between double quotes is read back. -/
theorem scan_literal {content : List Char} (unreturned : '\r' ∉ content)
    (rest : List Char) :
    scan (.literal false)
        (content.flatMap UnmatchedStep.escapedChar ++ '"' :: rest) =
      (scan .code rest).map (.literal content :: ·) := by
  induction content with
  | nil => simp [scan]
  | cons char content ih =>
      rw [List.mem_cons, not_or] at unreturned
      have step :
          scan (.literal false)
              (UnmatchedStep.escapedChar char ++
                (content.flatMap UnmatchedStep.escapedChar ++ '"' :: rest)) =
            (scan (.literal false)
              (content.flatMap UnmatchedStep.escapedChar ++
                '"' :: rest)).map (extend char) := by
        by_cases backslash : char = '\\'
        · subst backslash
          rfl
        by_cases quote : char = '"'
        · subst quote
          rfl
        · rw [UnmatchedStep.escapedChar, if_neg (by simp [backslash, quote]),
            List.singleton_append, scan]
          simp [backslash, quote, Ne.symm unreturned.1]
      rw [List.flatMap_cons, List.append_assoc, step, ih unreturned.2,
        Option.map_map]
      rfl

end ProgramToken

namespace UnmatchedStep

open ProgramToken

/-! ## The parts of a suggested definition -/

/-- The names of the arguments of a suggested definition, one by one. -/
def arguments (unmatched : UnmatchedStep) (suggestion : Suggestion) :
    List String :=
  suggestion.argumentNames ++ unmatched.argument.toList.map (·.name)

/-- What is behind the slashes of the comment that tells the arguments. -/
def argumentsComment (names : List String) : String :=
  " Arguments: " ++ ", ".intercalate names ++ "."

/-- The parts that a suggested definition is meant to have. -/
def snippetTokens (source : String) (names : List String) :
    List ProgramToken :=
  codeOf "steps.define_step(" ++ [.literal source.toList] ++
    codeOf ", |world, ctx| \x7B\n" ++
    (if names.isEmpty then []
      else codeOf "    " ++
        [.comment (argumentsComment names).toList, .code '\n']) ++
    codeOf definitionBody

theorem isEmpty_intercalate {names : List String} (named : "" ∉ names) :
    (", ".intercalate names).isEmpty = names.isEmpty := by
  rw [Bool.eq_iff_iff, String.isEmpty_iff, List.isEmpty_iff]
  constructor
  · intro empty
    cases names with
    | nil => rfl
    | cons first others =>
        cases others with
        | nil =>
            rw [String.intercalate_singleton] at empty
            exact absurd (List.mem_singleton.mpr empty.symm) named
        | cons second later =>
            rw [String.intercalate_cons_cons, String.append_eq_empty_iff,
              String.append_eq_empty_iff] at empty
            exact absurd empty.1.2 (by decide)
  · rintro rfl
    exact String.intercalate_nil

theorem lineFeed_not_mem_argumentsComment {names : List String}
    (unbroken : ∀ name ∈ names, '\n' ∉ name.toList) :
    '\n' ∉ (argumentsComment names).toList := by
  have joined : '\n' ∉ (", ".intercalate names).toList := by
    rw [String.toList_intercalate]
    intro member
    rcases Text.mem_or_mem_of_mem_intercalate member with comma | found
    · exact absurd comma (by simp)
    · obtain ⟨text, listed, inside⟩ := found
      obtain ⟨name, own, rfl⟩ := List.mem_map.mp listed
      exact unbroken name own inside
  have opening : '\n' ∉ " Arguments: ".toList := by simp
  have ending : '\n' ∉ ".".toList := by simp
  rw [argumentsComment, String.toList_append, String.toList_append,
    List.mem_append, List.mem_append]
  rintro ((first | inside) | last)
  · exact opening first
  · exact joined inside
  · exact ending last

/-- What follows the line of the expression is read as a comment, if there are
arguments, and as the body. -/
theorem scan_arguments {names : List String} (named : "" ∉ names)
    (unbroken : ∀ name ∈ names, '\n' ∉ name.toList) :
    scan .code
        ((argumentsLine (", ".intercalate names)).toList ++
          definitionBody.toList) =
      some ((if names.isEmpty then []
        else codeOf "    " ++
          [.comment (argumentsComment names).toList, .code '\n']) ++
        codeOf definitionBody) := by
  have body :
      scan .code definitionBody.toList = some (codeOf definitionBody) := by
    have quote : '"' ∉ definitionBody.toList := by simp [definitionBody]
    have slash : '/' ∉ definitionBody.toList := by simp [definitionBody]
    have whole := scan_code_append quote slash []
    rw [List.append_nil] at whole
    rw [whole, scan, Option.map_some, List.append_nil, codeOf]
  rw [argumentsLine, isEmpty_intercalate named]
  cases names.isEmpty with
  | true => simpa using body
  | false =>
      have line (listed : String) :
          (s!"    // Arguments: {listed}.\n").toList =
            "    ".toList ++ '/' :: '/' ::
              ((" Arguments: " ++ listed ++ ".").toList ++ ['\n']) := by
        have opening :
            "    // Arguments: ".toList =
              "    ".toList ++ '/' :: '/' :: " Arguments: ".toList := rfl
        have ending : ".\n".toList = ".".toList ++ ['\n'] := rfl
        simp only [String.toList_append, toString, opening, ending,
          List.append_assoc, List.cons_append]
      have quote : '"' ∉ "    ".toList := by simp
      have slash : '/' ∉ "    ".toList := by simp
      rw [if_neg Bool.false_ne_true, if_neg Bool.false_ne_true, line,
        ← argumentsComment, List.append_assoc, scan_code_append quote slash,
        List.cons_append, List.cons_append, scan, List.append_assoc,
        List.singleton_append,
        scan_comment (lineFeed_not_mem_argumentsComment unbroken), body]
      rfl

/-- How a suggested definition is read: the literal is the expression, and
there is a comment exactly if there are arguments. -/
theorem read_snippet (unmatched : UnmatchedStep) {suggestion : Suggestion}
    (plain : ¬ snippetArguments.toList <:+: suggestion.source.toList)
    (unreturned : '\r' ∉ suggestion.source.toList)
    (named : "" ∉ unmatched.arguments suggestion)
    (unbroken : ∀ name ∈ unmatched.arguments suggestion,
      '\n' ∉ name.toList) :
    read (unmatched.snippet suggestion) =
      some (snippetTokens suggestion.source
        (unmatched.arguments suggestion)) := by
  let between := ", |world, ctx| \x7B\n"
  have opening :
      snippetOpening.toList = "steps.define_step(".toList ++ ['"'] := rfl
  have ending : (definitionEnd ++ "\n").toList = '"' :: between.toList := by
    simp [definitionEnd, between]
  have openingPlain :
      '"' ∉ "steps.define_step(".toList ∧
        '/' ∉ "steps.define_step(".toList := by
    simp
  have betweenPlain : '"' ∉ between.toList ∧ '/' ∉ between.toList := by
    simp [between]
  have text :
      (unmatched.snippet suggestion).toList =
        "steps.define_step(".toList ++ '"' ::
          (suggestion.source.toList.flatMap escapedChar ++ '"' ::
            (between.toList ++
              ((argumentsLine (", ".intercalate
                (unmatched.arguments suggestion))).toList ++
                definitionBody.toList))) := by
    rw [snippet_eq unmatched plain unreturned, definitionLine,
      argumentNames, ← toList_escapeQuotes]
    calc _ = snippetOpening.toList ++ ((escapeQuotes suggestion.source).toList ++
            ((definitionEnd ++ "\n").toList ++
              ((argumentsLine (", ".intercalate
                (unmatched.arguments suggestion))).toList ++
                definitionBody.toList))) := by
          simp only [arguments, String.toList_append, List.append_assoc]
      _ = _ := by
          rw [opening, ending]
          simp only [List.append_assoc, List.cons_append, List.nil_append]
  rw [ProgramToken.read, text, scan_code_append openingPlain.1 openingPlain.2, scan,
    scan_literal unreturned, scan_code_append betweenPlain.1 betweenPlain.2,
    scan_arguments named unbroken]
  simp only [Option.map_some, snippetTokens, List.append_assoc]
  rfl

end UnmatchedStep

/-! ## The suggestions of a diagnosis -/

namespace Suggestion

variable {registry : ParameterRegistry}

/-- The type without a name is not used in suggestions. -/
theorem name_ne_empty (defined : registry.Defined) {type : ParameterType}
    (member : type ∈ registry.suggestedTypes) : type.name ≠ "" := by
  have own := defined.lookup?_name (List.mem_of_mem_filter member)
  have suggested : type.suggested = true := List.of_mem_filter member
  intro empty
  -- There is one type without a name, which is built in.
  have some : ∃ builtin ∈ ParameterType.builtin,
      builtin.name = "" ∧ builtin.suggested = false := by
    decide
  obtain ⟨builtin, listed, unnamed, unsuggested⟩ := some
  have found := defined.lookup?_name (defined.mem_of_builtin builtin listed)
  rw [unnamed, ← empty, own, Option.some.injEq] at found
  rw [found, unsuggested] at suggested
  cases suggested

theorem numbered_ne_empty {name : String} (nonempty : name ≠ "")
    (occurrence : Nat) : numbered name occurrence ≠ "" := by
  unfold numbered
  split
  · exact nonempty
  · intro empty
    have parts : name ++ toString occurrence = "" := empty
    exact nonempty (String.append_eq_empty_iff.mp parts).1

/-- Every argument of a suggestion has a name. -/
theorem empty_not_mem_argumentNames (defined : registry.Defined)
    {text : String} {suggestion : Suggestion}
    (member : suggestion ∈ generate registry text) :
    "" ∉ suggestion.argumentNames := by
  obtain ⟨types, chosen, rfl⟩ := List.mem_map.mp member
  have placed := slots_placed (usableTypes registry) text.toList
  have members := forall₂_of_mem_firstChoices chosen
  rw [List.forall₂_map_right_iff] at members
  intro unnamed
  obtain ⟨index, found⟩ := List.mem_iff_getElem?.mp unnamed
  rw [getElem?_numberNames, List.getElem?_map, Option.map_map,
    Option.map_eq_some_iff] at found
  obtain ⟨type, own, empty⟩ := found
  have usable := placed.mem members type (List.mem_of_getElem? own)
  exact numbered_ne_empty
    (name_ne_empty defined (mem_of_mem_usableTypes usable).1) _ empty

end Suggestion

namespace Project

variable {Host : Type} {project : Project} {templates : List String}
  {library : StepLibrary Host} {paths : List String} {diagnosis : Diagnosis}

/-- What is suggested for an unmatched step is made with the parameter types of
the registry of its file. -/
theorem exists_registry_of_unmatched [FeatureSyntax]
    (diagnosed : project.diagnose templates library paths = .ok diagnosis)
    {unmatched : UnmatchedStep} (member : unmatched ∈ diagnosis.unmatched) :
    ∃ registry : Registry Host, registry.Built ∧
      unmatched.suggestions =
        Suggestion.generate registry.parameters unmatched.step.text := by
  obtain ⟨files, inspected, rfl⟩ :=
    (diagnose_eq_ok_iff paths diagnosis).mp diagnosed
  obtain ⟨record, among, same⟩ := List.mem_filterMap.mp member
  obtain ⟨found, listed, own⟩ := List.mem_flatMap.mp among
  obtain ⟨step, -, rfl⟩ := List.mem_map.mp own
  obtain ⟨path, -, inspects⟩ := exists_path_of_mem inspected listed
  obtain ⟨next, built⟩ := inspects.built
  refine ⟨found.registry, StepLibrary.built_of_build built, ?_⟩
  unfold DiagnosedFile.record StepRecord.make at same
  split at same
  · cases same
    rfl
  · cases same
  · cases same

/--
A suggested definition is the template with the expression and the arguments
put in, and is read as that: its literal is the expression, and a comment tells
the names of the arguments exactly if there are any.  This is so if the
expression does not have the part that the arguments are put in for, or a
carriage return, and if no name has a line feed.
-/
theorem diagnose_snippets [FeatureSyntax]
    (diagnosed : project.diagnose templates library paths = .ok diagnosis)
    {unmatched : UnmatchedStep} (member : unmatched ∈ diagnosis.unmatched)
    {suggestion : Suggestion} (suggested : suggestion ∈ unmatched.suggestions)
    (plain : Text.contains suggestion.source snippetArguments = false)
    (unreturned : '\r' ∉ suggestion.source.toList)
    (unbroken : ∀ name ∈ suggestion.argumentNames, '\n' ∉ name.toList) :
    unmatched.snippet suggestion =
        UnmatchedStep.definitionLine suggestion.source ++
          ("\n" ++ UnmatchedStep.argumentsLine
            (unmatched.argumentNames suggestion) ++
              UnmatchedStep.definitionBody) ∧
      ProgramToken.read (unmatched.snippet suggestion) =
        some (UnmatchedStep.snippetTokens suggestion.source
          (unmatched.arguments suggestion)) := by
  obtain ⟨registry, built, made⟩ :=
    exists_registry_of_unmatched diagnosed member
  rw [made] at suggested
  rw [Text.contains, Bool.eq_false_iff, ne_eq, Text.occursIn_iff] at plain
  have kinds (argument : Option ArgumentKind) :
      "" ∉ argument.toList.map (·.name) ∧
        ∀ name ∈ argument.toList.map (·.name), '\n' ∉ name.toList := by
    rcases argument with _ | _ | _ <;> decide +kernel
  have named : "" ∉ unmatched.arguments suggestion := by
    rw [UnmatchedStep.arguments, List.mem_append, not_or]
    exact ⟨Suggestion.empty_not_mem_argumentNames built.defined suggested,
      (kinds unmatched.argument).1⟩
  refine ⟨unmatched.snippet_eq plain unreturned,
    unmatched.read_snippet plain unreturned named ?_⟩
  rw [UnmatchedStep.arguments, List.forall_mem_append]
  exact ⟨unbroken, (kinds unmatched.argument).2⟩

end Project

namespace Sample

/-- A feature file with two steps that have no definitions. -/
def undefinedSteps : Project where
  root := "/p"
  files :=
    { entries :=
        [ (["a.feature"],
            .textFile
              ("Feature:\n Scenario:\n" ++
                "  Given I have 5 \"red\" cukes\n   | a |\n" ++
                "  Then I have [arguments] 5\n")) ] }

/-- What is suggested for a step with a number, a quoted text and a table. -/
def undefinedTable : UnmatchedStep where
  step := ⟨"a.feature", 3, "I have 5 \"red\" cukes"⟩
  argument := some .dataTable
  hints := { templates := ["*.rs"], patterns := ["*.rs"], paths := [] }
  suggestions :=
    [ ⟨"I have {int} {string} cukes", ["int", "string"]⟩,
      ⟨"I have {float} {string} cukes", ["float", "string"]⟩ ]

/-- What is suggested for a step with the part that the arguments are put in
for. -/
def undefinedBrackets : UnmatchedStep where
  step := ⟨"a.feature", 5, "I have [arguments] 5"⟩
  argument := none
  hints := { templates := ["*.rs"], patterns := ["*.rs"], paths := [] }
  suggestions :=
    [ ⟨"I have [arguments] {int}", ["int"]⟩,
      ⟨"I have [arguments] {float}", ["float"]⟩ ]

theorem undefinedSteps_diagnosed :
    undefinedSteps.diagnose ["*.rs"] ({} : StepLibrary Unit)
        ["/p/a.feature"] =
      .ok { unmatched := [undefinedTable, undefinedBrackets] } := by
  decide +kernel

/-- The suggestion for the first step is read as it is meant. -/
theorem undefinedTable_snippet :
    undefinedSteps.diagnose ["*.rs"] ({} : StepLibrary Unit)
          ["/p/a.feature"] =
        .ok { unmatched := [undefinedTable, undefinedBrackets] } ∧
      ProgramToken.read (undefinedTable.snippet
          ⟨"I have {int} {string} cukes", ["int", "string"]⟩) =
        some (UnmatchedStep.snippetTokens "I have {int} {string} cukes"
          ["int", "string", "dataTable"]) := by
  have read := Project.diagnose_snippets undefinedSteps_diagnosed
    List.mem_cons_self (List.mem_cons_self : _ ∈ undefinedTable.suggestions)
    (by decide +kernel) (by decide +kernel) (by decide +kernel)
  exact ⟨undefinedSteps_diagnosed, read.2⟩

/-- The arguments are put into the expression of the second step. -/
theorem undefinedBrackets_snippet :
    undefinedSteps.diagnose ["*.rs"] ({} : StepLibrary Unit)
          ["/p/a.feature"] =
        .ok { unmatched := [undefinedTable, undefinedBrackets] } ∧
      undefinedBrackets.snippet ⟨"I have [arguments] {int}", ["int"]⟩ =
        "steps.define_step(\"I have Arguments: int. {int}\", " ++
          "|world, ctx| \x7B\n    // Arguments: int.\n" ++
          "    async \x7B Ok(Outcome::Pending) \x7D.boxed_local()\n" ++
          "\x7D)?;" ∧
      ProgramToken.read (undefinedBrackets.snippet
          ⟨"I have [arguments] {int}", ["int"]⟩) ≠
        some (UnmatchedStep.snippetTokens "I have [arguments] {int}"
          ["int"]) := by
  have text :
      undefinedBrackets.snippet ⟨"I have [arguments] {int}", ["int"]⟩ =
        "steps.define_step(\"I have Arguments: int. {int}\", " ++
          "|world, ctx| \x7B\n    // Arguments: int.\n" ++
          "    async \x7B Ok(Outcome::Pending) \x7D.boxed_local()\n" ++
          "\x7D)?;" := by
    decide +kernel
  refine ⟨undefinedSteps_diagnosed, text, ?_⟩
  rw [text]
  decide +kernel

end Sample

end ScenarioRunner
