import ScenarioRunner.Proofs.BuiltRegistry
import ScenarioRunner.Proofs.Numerals
import ScenarioRunner.Proofs.PlaceholderCaptures
import ScenarioRunner.Proofs.StepCalls
import ScenarioRunner.Proofs.TakenText

/-!
# Types of integers

The pattern of the built-in types of integers matches numerals, with digits of
any script.  A type makes of a numeral the integer that it denotes, if it is in
the range of the type and has ASCII digits only.  So a step fails for a capture
of such a type only if the integer is out of the range or some digit is of
another script.

The main statement is `IntegerType.reads_numerals`.
-/

namespace ScenarioRunner

/-! ## Numerals that are matched -/

namespace Regex

/-- Digits of any script. -/
def digitsNode : Node := .repeat (.oneOf .digit) 1 none true

theorem takes_of_digits {start stop : Reach}
    (walks : digitsNode.Walks start stop) :
    ∃ digits, digits ≠ [] ∧ (∀ char ∈ digits, Text.isDigit char = true) ∧
      start.cursor.Takes digits stop.cursor := by
  obtain ⟨middle, none, loops⟩ := walks
  cases none
  exact takes_of_loops loops

theorem takes_of_minus {start stop : Reach}
    (walks : (Node.repeat (.literal '-') 0 (some 1) true).Walks start stop) :
    ∃ negative : Bool,
      start.cursor.Takes (if negative then ['-'] else []) stop.cursor := by
  obtain ⟨middle, none, count, few, copies⟩ := walks
  cases none
  cases copies with
  | none => exact ⟨false, .refl _⟩
  | copy first others =>
      obtain ⟨char, member, takes⟩ := takes_of_oneOf first
      rw [CharClass.contains_single, beq_iff_eq] at member
      cases others with
      | none =>
          rw [← member] at takes
          exact ⟨true, takes⟩
      | copy second others => simp at few

/-- The pattern of integers matches numerals. -/
theorem numeral_of_walks {start stop : Reach}
    (walks : (Regex.ofSource ParameterType.integerPattern).root.Walks start
      stop) :
    ∃ negative digits text, Number.Numeral text negative digits ∧
      start.cursor.Takes text stop.cursor := by
  have shape : (Regex.ofSource ParameterType.integerPattern).root =
      .alt (.seq (.repeat (.literal '-') 0 (some 1) true) digitsNode)
        digitsNode := by
    decide +kernel
  rw [shape] at walks
  rcases walks with ⟨middle, sign, walks⟩ | walks
  · obtain ⟨negative, early⟩ := takes_of_minus sign
    obtain ⟨digits, nonempty, decimal, late⟩ := takes_of_digits walks
    exact ⟨negative, digits, _, ⟨rfl, nonempty, decimal⟩, early.trans late⟩
  · obtain ⟨digits, nonempty, decimal, takes⟩ := takes_of_digits walks
    exact ⟨false, digits, digits, ⟨rfl, nonempty, decimal⟩, takes⟩

theorem numeral_of_matchesWhole {text : List Char}
    (whole : (Regex.ofSource ParameterType.integerPattern).MatchesWhole
      text) :
    ∃ negative digits, Number.Numeral text negative digits := by
  obtain ⟨captures, walks⟩ := whole
  obtain ⟨negative, digits, taken, numeral, takes⟩ := numeral_of_walks walks
  have same : text = taken := by
    simpa [Cursor.start] using takes.after
  rw [same]
  exact ⟨negative, digits, numeral⟩

end Regex

/-! ## Built-in types -/

/-- The built-in types of integers: their names, their ranges and the values
that they make. -/
inductive IntegerType :
    String → Number.IntegerRange → (Int → Value) → Prop where
  | int : IntegerType "int" (.signed 64) .long
  | long : IntegerType "long" (.signed 64) .long
  | short : IntegerType "short" (.signed 16) .short
  | byte : IntegerType "byte" (.signed 8) .byte

theorem Transformer.integer_eq (range : Number.IntegerRange)
    (make : Int → Value) (text : String) :
    integer range make text =
      ((Number.readInteger range text).map make).mapError (·.message) := by
  unfold integer
  cases Number.readInteger range text <;> rfl

namespace IntegerType

variable {name : String} {range : Number.IntegerRange} {make : Int → Value}

theorem holdsZero (integral : IntegerType name range make) :
    range.HoldsZero := by
  cases integral <;> constructor <;> decide

theorem lowest_lt (integral : IntegerType name range make) :
    range.lowest < 0 := by
  cases integral <;> decide

theorem mem_builtin (integral : IntegerType name range make) :
    ∃ suggested,
      ParameterType.ofDefinition ⟨name, ParameterType.integerPattern,
        .integer range make, suggested⟩ ∈ ParameterType.builtin := by
  cases integral with
  | int => exact ⟨true, by simp [ParameterType.builtin]⟩
  | long => exact ⟨false, by simp [ParameterType.builtin]⟩
  | short => exact ⟨false, by simp [ParameterType.builtin]⟩
  | byte => exact ⟨false, by simp [ParameterType.builtin]⟩

/-- No other type can have the name of a built-in one. -/
theorem exists_type (integral : IntegerType name range make)
    {registry : ParameterRegistry} (defined : registry.Defined) :
    ∃ type, registry.lookup? name = some type ∧
      type.pattern = .ofSource ParameterType.integerPattern ∧
        type.transform = .integer range make := by
  obtain ⟨suggested, member⟩ := integral.mem_builtin
  have known := defined.lookup?_name (defined.mem_of_builtin _ member)
  exact ⟨_, known, ParameterType.pattern_ofDefinition _, rfl⟩

/-- The type of a name is the built-in one. -/
theorem eq_of_mem (integral : IntegerType name range make)
    {registry : ParameterRegistry} (defined : registry.Defined)
    {type : ParameterType} (member : type ∈ registry.types)
    (named : type.name = name) :
    type.pattern = .ofSource ParameterType.integerPattern ∧
      type.transform = .integer range make := by
  obtain ⟨other, known, same⟩ := integral.exists_type defined
  rw [← named, defined.lookup?_name member] at known
  cases known
  exact same

/-- What comes of a numeral is what comes of reading it. -/
theorem exists_reads (integral : IntegerType name range make)
    {negative : Bool} {digits : List Char} {text : String}
    (numeral : Number.Numeral text.toList negative digits) :
    ∃ result, Number.Reads range negative digits result ∧
      Transformer.integer range make text =
        (result.map make).mapError (·.message) := by
  have reads := numeral.reads integral.holdsZero integral.lowest_lt
  rw [String.ofList_toList] at reads
  exact ⟨_, reads, Transformer.integer_eq range make text⟩

end IntegerType

/-! ## Steps -/

section Steps

variable {Host : Type} {registry : Registry Host}

/-- A step that fails for a capture is matched by a definition that captures
its text. -/
theorem Registry.exists_refused {text : String}
    {argument : Option StepArgument} {scope : Scope} {host : Host}
    {name captured reason : String}
    (failed : registry.run text argument scope host =
      .error (.untransformed name captured reason)) :
    ∃ definition ∈ registry.steps, ∃ captures type,
      definition.expression.match? text = some captures ∧
        ⟨some captured, some type⟩ ∈ captures ∧ type.name = name ∧
        type.transform captured = .error reason := by
  have decided := registry.decides_call text argument scope
  rw [registry.run_eq_map_call text argument scope host] at failed
  cases call : registry.call text argument scope with
  | ok call => simp [call, Except.map] at failed
  | error error =>
      simp only [call, Except.map, Except.error.injEq] at failed
      rw [call, failed] at decided
      cases decided with
      | @refused definition only early late capture captures accepted error
          refused =>
          cases refused with
          | intro refused =>
              have member : definition ∈ registry.matching text := by
                rw [only]
                exact List.mem_singleton_self definition
              exact ⟨definition, (List.mem_filter.mp member).1, _, _,
                captures.matched, by simp, rfl, refused⟩

/-- A capture with a type is what a passage of that type captures. -/
theorem Registry.Built.exists_passage (built : registry.Built)
    (single : ∀ type ∈ registry.parameters.types,
      type.pattern.root.repeatsGroups = false)
    {definition : StepDefinition Host} (member : definition ∈ registry.steps)
    (short : definition.expression.source.length ≤ 2 ^ 64)
    {text : String} {captures : List Capture}
    (matched : definition.expression.match? text = some captures)
    {captured : Option String} {type : ParameterType}
    (among : ⟨captured, some type⟩ ∈ captures) :
    ∃ passage : Expression.Passage,
      passage.type ∈ registry.parameters.types ∧
        passage.start.text = text.toList ∧
        passage.capture text.toList = ⟨captured, some type⟩ := by
  obtain ⟨pattern, compiled⟩ := built.compiled definition member
  generalize definition.expression = expression at *
  cases pattern with
  | regular regex =>
      cases compiled
      obtain ⟨texts, -, rfl⟩ := Option.map_eq_some_iff.mp matched
      obtain ⟨own, -, same⟩ := List.mem_map.mp among
      cases same
  | expression source =>
      simp only [StepPattern.compile] at compiled
      split at compiled
      · rename_i template made
        cases compiled
        rw [← Expression.Template.compileBy_placeholderNode] at made
        obtain ⟨rfl, segments, types, made⟩ :=
          Expression.Template.exists_madeBy made
        obtain ⟨passages, passes, rfl⟩ :=
          made.exists_passages built.defined
            (Expression.Insertion.documented_placeholderNode single) short matched
        obtain ⟨passage, own, same⟩ := List.mem_map.mp among
        obtain ⟨found, stop, -, traverses, -⟩ := passes.traverses
        obtain ⟨name, known⟩ := traverses.known passage own
        exact ⟨passage, List.mem_of_find?_eq_some known,
          traverses.text_eq passage own, same⟩
      · cases compiled

end Steps

/-- A capture of a type with the pattern of integers is a numeral. -/
theorem Expression.Passage.numeral_of_capture {passage : Passage}
    {text : List Char} (inText : passage.start.text = text)
    (pattern : passage.type.pattern =
      .ofSource ParameterType.integerPattern)
    {captured : String} {type : ParameterType}
    (same : passage.capture text = ⟨some captured, some type⟩) :
    ∃ negative digits,
      Number.Numeral captured.toList negative digits := by
  have closed : passage.pattern.groups = [] := by
    rw [Passage.pattern, pattern]
    decide +kernel
  have walks := passage.walks
  rw [pattern] at walks
  obtain ⟨negative, digits, taken, numeral, takes⟩ :=
    Regex.numeral_of_walks walks
  have own : some (String.ofList taken) = some captured := by
    have texts := congrArg Capture.text same
    rwa [capture, captured?_of_groups_nil closed, Option.map_some, span,
      ← inText, takes.span_of] at texts
  rw [← Option.some.inj own, String.toList_ofList]
  exact ⟨negative, digits, numeral⟩

namespace IntegerType

variable {name : String} {range : Number.IntegerRange} {make : Int → Value}

/-- A text that the pattern matches as a whole is a numeral, which the type
reads. -/
theorem exists_numeral (integral : IntegerType name range make)
    {type : ParameterType}
    (pattern : type.pattern = .ofSource ParameterType.integerPattern)
    (transform : type.transform = .integer range make) {text : String}
    (whole : type.pattern.MatchesWhole text.toList) :
    ∃ negative digits result,
      Number.Numeral text.toList negative digits ∧
        Number.Reads range negative digits result ∧
        type.transform text = (result.map make).mapError (·.message) := by
  rw [pattern] at whole
  obtain ⟨negative, digits, numeral⟩ := Regex.numeral_of_matchesWhole whole
  obtain ⟨result, reads, same⟩ := integral.exists_reads numeral
  exact ⟨negative, digits, result, numeral, reads, by rw [transform, same]⟩

/-- A capture that a step fails for is a numeral that the type does not
read. -/
theorem exists_unread (integral : IntegerType name range make)
    {Host : Type} {registry : Registry Host} (built : registry.Built)
    (single : ∀ type ∈ registry.parameters.types,
      type.pattern.root.repeatsGroups = false)
    (short : ∀ definition ∈ registry.steps,
      definition.expression.source.length ≤ 2 ^ 64)
    {text : String} {argument : Option StepArgument} {scope : Scope}
    {host : Host} {captured reason : String}
    (failed : registry.run text argument scope host =
      .error (.untransformed name captured reason)) :
    ∃ negative digits error,
      Number.Numeral captured.toList negative digits ∧
        Number.Reads range negative digits (.error error) ∧
        reason = error.message := by
  obtain ⟨definition, member, captures, type, matched, among, rfl,
    refused⟩ := Registry.exists_refused failed
  obtain ⟨passage, listed, inText, same⟩ :=
    built.exists_passage single member (short definition member) matched among
  have typed : passage.type = type :=
    Option.some.inj (congrArg Capture.type same)
  rw [typed] at listed
  obtain ⟨pattern, transform⟩ := integral.eq_of_mem built.defined listed rfl
  obtain ⟨negative, digits, numeral⟩ :=
    passage.numeral_of_capture inText (by rw [typed, pattern]) same
  obtain ⟨result, reads, own⟩ := integral.exists_reads numeral
  rw [transform, own] at refused
  cases result with
  | ok value => cases refused
  | error error =>
      cases refused
      exact ⟨negative, digits, error, numeral, reads, rfl⟩

end IntegerType

/--
A type of integers makes of each text that its pattern matches the integer
that the text denotes, if it is in the range and all digits are ASCII digits.
A step fails for a capture of the type only if the integer is out of the range
or some digit is of another script.
-/
theorem IntegerType.reads_numerals {name : String} {range : Number.IntegerRange}
    {make : Int → Value} (integral : IntegerType name range make) :
    (∀ registry : ParameterRegistry, registry.Defined →
      ∃ type, registry.lookup? name = some type ∧
        ∀ text : String, type.pattern.MatchesWhole text.toList →
          ∃ negative digits result,
            Number.Numeral text.toList negative digits ∧
              Number.Reads range negative digits result ∧
              type.transform text =
                (result.map make).mapError (·.message)) ∧
      ∀ (Host : Type) (registry : Registry Host), registry.Built →
        (∀ type ∈ registry.parameters.types,
          type.pattern.root.repeatsGroups = false) →
        (∀ definition ∈ registry.steps,
          definition.expression.source.length ≤ 2 ^ 64) →
        ∀ text argument scope host captured reason,
          registry.run text argument scope host =
              .error (.untransformed name captured reason) →
            ∃ negative digits error,
              Number.Numeral captured.toList negative digits ∧
                Number.Reads range negative digits (.error error) ∧
                reason = error.message := by
  constructor
  · intro registry defined
    obtain ⟨type, known, pattern, transform⟩ := integral.exists_type defined
    exact ⟨type, known,
      fun _ whole => integral.exists_numeral pattern transform whole⟩
  · intro Host registry built single short text argument scope host captured
      reason failed
    exact integral.exists_unread built single short failed

namespace Sample

/-- A registry with one step, which takes a small number and a large one. -/
def counting : Except BuildError (Registry Unit × Nat) :=
  Registry.ofDefinitions
    [.step (.expression "{byte} of {int}")
      (fun _ host => ⟨host, [], .completed .passed⟩) none] 0

/-- The error of a step that the registry runs. -/
def countingError (text : String) : Except BuildError (Option RunError) :=
  counting.map fun built =>
    match built.1.run text none {} () with
    | .ok _ => none
    | .error error => some error

theorem run_counting {registry : Registry Unit} {next : Nat}
    (made : counting = .ok (registry, next)) {text : String}
    {error : RunError} (failed : countingError text = .ok (some error)) :
    registry.run text none {} () = .error error := by
  rw [countingError, made] at failed
  simp only [Except.map, Except.ok.injEq] at failed
  split at failed
  · cases failed
  · rename_i same
    rw [same, Option.some.inj failed]

/-- A number that fits its type, and one that does not. -/
theorem counting_reads :
    (∃ type, ({} : ParameterRegistry).lookup? "byte" = some type ∧
      type.pattern.MatchesWhole "-128".toList ∧
        ∃ negative digits result,
          Number.Numeral "-128".toList negative digits ∧
            Number.Reads (.signed 8) negative digits result ∧
            type.transform "-128" =
              (result.map Value.byte).mapError (·.message)) ∧
      ∃ registry next, counting = .ok (registry, next) ∧
        registry.Built ∧
        (∀ type ∈ registry.parameters.types,
          type.pattern.root.repeatsGroups = false) ∧
        (∀ definition ∈ registry.steps,
          definition.expression.source.length ≤ 2 ^ 64) ∧
        registry.run "300 of 500" none {} () =
          .error (.untransformed "byte" "300"
            "number too large to fit in target type") ∧
        ∃ negative digits error,
          Number.Numeral "300".toList negative digits ∧
            Number.Reads (.signed 8) negative digits (.error error) ∧
            "number too large to fit in target type" = error.message := by
  obtain ⟨reads, fails⟩ := IntegerType.reads_numerals .byte
  constructor
  · obtain ⟨type, known, transforms⟩ := reads {} .builtin
    have source :
        (({} : ParameterRegistry).lookup? "byte").map (·.pattern) =
          some (.ofSource ParameterType.integerPattern) := by
      decide +kernel
    rw [known, Option.map_some, Option.some.injEq] at source
    have whole : type.pattern.MatchesWhole "-128".toList := by
      rw [source]
      exact Regex.matchesWhole_of_matchAt? [] (by decide +kernel)
    exact ⟨type, known, whole, transforms "-128" whole⟩
  · have kept :
        (counting.map fun built =>
          (built.1.parameters.types.all fun type =>
              !type.pattern.root.repeatsGroups) &&
            built.1.steps.all fun definition =>
              definition.expression.source.length ≤ 2 ^ 64) =
          .ok true := by
      decide +kernel
    have error : countingError "300 of 500" =
        .ok (some (.untransformed "byte" "300"
          "number too large to fit in target type")) := by
      decide +kernel
    cases made : counting with
    | error reason =>
        rw [made] at kept
        cases kept
    | ok built =>
        obtain ⟨registry, next⟩ := built
        rw [made] at kept
        simp only [Except.map, Except.ok.injEq, Bool.and_eq_true,
          List.all_eq_true, Bool.not_eq_true', decide_eq_true_eq] at kept
        have built := Registry.built_of_ofDefinitions made
        have failed := run_counting made error
        exact ⟨registry, next, rfl, built, kept.1, kept.2, failed,
          fails Unit registry built kept.1 kept.2 _ _ _ _ _ _ failed⟩

/-- A digit of another script denotes a number in the range, which is matched
and not read. -/
theorem arabicDigit_refused :
    (∃ type, ({} : ParameterRegistry).lookup? "int" = some type ∧
      type.pattern.MatchesWhole "\u0663".toList ∧
        Number.Numeral "\u0663".toList false ['\u0663'] ∧
        Number.denoted false ['\u0663'] = 3 ∧
        (Number.IntegerRange.signed 64).contains 3 = true ∧
        type.transform "\u0663" = .error "invalid digit found in string") ∧
      ∃ registry next, counting = .ok (registry, next) ∧
        registry.run "5 of \u0663" none {} () =
          .error (.untransformed "int" "\u0663"
            "invalid digit found in string") := by
  constructor
  · have facts :
        (({} : ParameterRegistry).lookup? "int").map (fun type =>
            (type.pattern, type.transform "\u0663")) =
          some (.ofSource ParameterType.integerPattern,
            .error "invalid digit found in string") := by
      decide +kernel
    obtain ⟨type, known, same⟩ := Option.map_eq_some_iff.mp facts
    rw [Prod.mk.injEq] at same
    have whole : type.pattern.MatchesWhole "\u0663".toList := by
      rw [same.1]
      exact Regex.matchesWhole_of_matchAt? [] (by decide +kernel)
    have numeral : Number.Numeral "\u0663".toList false ['\u0663'] :=
      ⟨by decide +kernel, List.cons_ne_nil _ _,
        List.forall_mem_singleton.mpr (by decide +kernel)⟩
    exact ⟨type, known, whole, numeral, by decide +kernel, by decide +kernel,
      same.2⟩
  · have error : countingError "5 of \u0663" =
        .ok (some (.untransformed "int" "\u0663"
          "invalid digit found in string")) := by
      decide +kernel
    cases made : counting with
    | error reason =>
        rw [countingError, made] at error
        cases error
    | ok built => exact ⟨built.1, built.2, rfl, run_counting made error⟩

end Sample

end ScenarioRunner
