import ScenarioRunner.Proofs.ParameterTypes

/-!
# Parameter types that are proposed

Definitions of parameter types are proposed to a registry that is kept in a
state.  A definition that is refused changes nothing, and one that is accepted
comes behind all others.  So what is found in the registry once is found in it
later on, by its name and by its pattern.

`ParameterRegistry.Answers` lists the answers to a proposal in the order in
which they are considered.  The main statement is
`ParameterRegistry.proposals_hold`.
-/

namespace ScenarioRunner

namespace ParameterType

/-- The characters that may not stand in names. -/
def reservedChars : List Char := ['\x7B', '\x7D', '(', ')', '\\', '/']

theorem isReserved_iff (char : Char) :
    isReserved char = true ↔ char ∈ reservedChars := by
  rw [isReserved, List.contains_iff_mem]
  rfl

/-- What a definition with a valid pattern gives. -/
theorem ofDefinition_eq {definition : ParameterDefinition} {pattern : Regex}
    (compiled : Regex.compile definition.regexp = .ok pattern) :
    ofDefinition definition =
      ⟨definition.name, pattern, definition.transform,
        definition.suggested⟩ := by
  rw [ofDefinition, Regex.ofSource, compiled]

end ParameterType

namespace ParameterRegistry

/-! ## One proposal -/

/-- Propose a definition to the registry of a state, which is replaced if the
definition is accepted. -/
def propose (definition : ParameterDefinition) :
    ExceptT ParameterType.DefinitionError (StateM ParameterRegistry)
      Unit := do
  let registry ← get
  match registry.define definition with
  | .error error => throw error
  | .ok more => set more

/-- The answer to a proposal, and the registry behind it. -/
def proposed (registry : ParameterRegistry)
    (definition : ParameterDefinition) :
    Except ParameterType.DefinitionError Unit × ParameterRegistry :=
  (propose definition).run.run registry

/-- A proposal puts what is defined in place of the registry, if it is
accepted. -/
theorem proposed_eq (registry : ParameterRegistry)
    (definition : ParameterDefinition) :
    registry.proposed definition =
      match registry.define definition with
      | .ok more => (.ok (), more)
      | .error error => (.error error, registry) := by
  have opened (body : ParameterRegistry →
      ExceptT ParameterType.DefinitionError (StateM ParameterRegistry) Unit) :
      (get >>= body).run.run registry = (body registry).run.run registry :=
    rfl
  rw [proposed, propose, opened]
  cases registry.define definition <;> rfl

/-- The answers to a proposal, each with the registry behind it.  A name that
may not be used is refused before one that is taken, and both before a pattern
that is no regular expression. -/
inductive Answers (registry : ParameterRegistry)
    (definition : ParameterDefinition) :
    Except ParameterType.DefinitionError Unit × ParameterRegistry →
      Prop where
  | illegalName {char : Char} (among : char ∈ definition.name.toList)
      (reserved : char ∈ ParameterType.reservedChars) :
      Answers registry definition
        (.error (.illegalName definition.name), registry)
  | duplicate
      (legal : ∀ char ∈ definition.name.toList,
        char ∉ ParameterType.reservedChars)
      {type : ParameterType} (known : type ∈ registry.types)
      (taken : type.name = definition.name) :
      Answers registry definition
        (.error (.duplicate definition.name), registry)
  | invalidPattern
      (legal : ∀ char ∈ definition.name.toList,
        char ∉ ParameterType.reservedChars)
      (fresh : ∀ type ∈ registry.types, type.name ≠ definition.name)
      {reason : Regex.SyntaxError}
      (invalid : Regex.compile definition.regexp = .error reason) :
      Answers registry definition
        (.error (.invalidPattern definition.name reason), registry)
  | accepted
      (legal : ∀ char ∈ definition.name.toList,
        char ∉ ParameterType.reservedChars)
      (fresh : ∀ type ∈ registry.types, type.name ≠ definition.name)
      {pattern : Regex}
      (compiled : Regex.compile definition.regexp = .ok pattern) :
      Answers registry definition
        (.ok (),
          ⟨registry.types ++
            [⟨definition.name, pattern, definition.transform,
              definition.suggested⟩]⟩)

section Proposal

variable {registry : ParameterRegistry} {definition : ParameterDefinition}

theorem any_isReserved_eq_false_iff (name : String) :
    name.toList.any ParameterType.isReserved = false ↔
      ∀ char ∈ name.toList, char ∉ ParameterType.reservedChars := by
  rw [List.any_eq_false]
  simp only [ParameterType.isReserved_iff]

/-- What a proposal comes to is an answer to it. -/
theorem answers_proposed (registry : ParameterRegistry)
    (definition : ParameterDefinition) :
    registry.Answers definition (registry.proposed definition) := by
  rw [proposed_eq, define]
  by_cases reserved :
      definition.name.toList.any ParameterType.isReserved = true
  · obtain ⟨char, among, own⟩ := List.any_eq_true.mp reserved
    rw [if_pos reserved]
    exact .illegalName among ((ParameterType.isReserved_iff char).mp own)
  have legal := (any_isReserved_eq_false_iff _).mp
    (Bool.eq_false_iff.mpr reserved)
  rw [if_neg reserved]
  by_cases taken : (registry.lookup? definition.name).isSome = true
  · obtain ⟨type, found⟩ := Option.isSome_iff_exists.mp taken
    have named := List.find?_some found
    rw [if_pos taken]
    exact .duplicate legal (List.mem_of_find?_eq_some found)
      (beq_iff_eq.mp named)
  have fresh := (lookup?_eq_none_iff registry definition.name).mp
    (by simpa using taken)
  rw [if_neg taken]
  cases compiled : Regex.compile definition.regexp with
  | error reason => exact .invalidPattern legal fresh compiled
  | ok pattern => exact .accepted legal fresh compiled

/-- There is no other answer. -/
theorem Answers.eq_proposed
    {result :
      Except ParameterType.DefinitionError Unit × ParameterRegistry}
    (answers : registry.Answers definition result) :
    result = registry.proposed definition := by
  rw [proposed_eq, define]
  have unreserved
      (legal : ∀ char ∈ definition.name.toList,
        char ∉ ParameterType.reservedChars) :
      definition.name.toList.any ParameterType.isReserved = false :=
    (any_isReserved_eq_false_iff _).mpr legal
  cases answers with
  | illegalName among reserved =>
      have found : definition.name.toList.any ParameterType.isReserved = true :=
        List.any_eq_true.mpr
          ⟨_, among, (ParameterType.isReserved_iff _).mpr reserved⟩
      rw [if_pos found]
  | @duplicate legal type known taken =>
      have found : (registry.lookup? definition.name).isSome = true :=
        List.find?_isSome.mpr ⟨type, known, beq_iff_eq.mpr taken⟩
      simp only [unreserved legal, found, Bool.false_eq_true, if_false,
        if_true]
  | invalidPattern legal fresh invalid =>
      have absent := (lookup?_eq_none_iff registry _).mpr fresh
      simp only [unreserved legal, absent, invalid, Option.isSome_none,
        Bool.false_eq_true, if_false]
  | accepted legal fresh compiled =>
      have absent := (lookup?_eq_none_iff registry _).mpr fresh
      simp only [unreserved legal, absent, compiled, Option.isSome_none,
        Bool.false_eq_true, if_false]

/-- A definition that is accepted comes last, and any other changes nothing. -/
theorem Answers.types
    {result :
      Except ParameterType.DefinitionError Unit × ParameterRegistry}
    (answers : registry.Answers definition result) :
    result.2.types =
      registry.types ++
        if result.1.isOk then [ParameterType.ofDefinition definition]
        else [] := by
  cases answers with
  | illegalName among reserved => exact (List.append_nil _).symm
  | duplicate legal known taken => exact (List.append_nil _).symm
  | invalidPattern legal fresh invalid => exact (List.append_nil _).symm
  | accepted legal fresh compiled =>
      rw [ParameterType.ofDefinition_eq compiled]
      rfl

/-- The registry behind a proposal is one of definitions that were
accepted. -/
theorem Defined.proposed (defined : registry.Defined)
    (definition : ParameterDefinition) :
    (registry.proposed definition).2.Defined := by
  rw [proposed_eq]
  split
  · rename_i more accepted
    exact defined.define accepted
  · exact defined

end Proposal

/-! ## Proposals one after the other -/

/-- Propose definitions one after the other, whether or not those before are
accepted.  Each comes with its answer. -/
def proposeAll : List ParameterDefinition → ParameterRegistry →
    List (ParameterDefinition × Except ParameterType.DefinitionError Unit) ×
      ParameterRegistry
  | [], registry => ([], registry)
  | definition :: others, registry =>
      let (answer, more) := registry.proposed definition
      let (answers, final) := proposeAll others more
      ((definition, answer) :: answers, final)

/-- The definitions that are accepted. -/
def accepted
    (answers : List (ParameterDefinition ×
      Except ParameterType.DefinitionError Unit)) :
    List ParameterDefinition :=
  (answers.filter (·.2.isOk)).map (·.1)

section Proposals

variable {registry : ParameterRegistry}

theorem map_fst_proposeAll (definitions : List ParameterDefinition)
    (registry : ParameterRegistry) :
    (proposeAll definitions registry).1.map (·.1) = definitions := by
  induction definitions generalizing registry with
  | nil => rfl
  | cons definition others ih =>
      rw [proposeAll, List.map_cons, ih]

/-- The types that are added are those of the accepted definitions. -/
theorem types_proposeAll (definitions : List ParameterDefinition)
    (registry : ParameterRegistry) :
    (proposeAll definitions registry).2.types =
      registry.types ++
        (accepted (proposeAll definitions registry).1).map
          ParameterType.ofDefinition := by
  induction definitions generalizing registry with
  | nil => exact (List.append_nil _).symm
  | cons definition others ih =>
      have first := (registry.answers_proposed definition).types
      simp only [proposeAll, ih, first, accepted, List.filter_cons,
        List.append_assoc]
      split <;> rfl

theorem Defined.proposeAll (defined : registry.Defined)
    (definitions : List ParameterDefinition) :
    (proposeAll definitions registry).2.Defined := by
  induction definitions generalizing registry with
  | nil => exact defined
  | cons definition others ih => exact ih (defined.proposed definition)

/-! ## What is found -/

/-- What is found in a registry is found in another one. -/
structure FoundIn (registry later : ParameterRegistry) : Prop where
  byName : ∀ name type, registry.lookup? name = some type →
    later.lookup? name = some type
  byRegexp : ∀ regexp type, registry.lookupByRegexp? regexp = some type →
    later.lookupByRegexp? regexp = some type

/-- Types that are added behind all others do not come in the way of any. -/
theorem FoundIn.of_append {later : ParameterRegistry}
    {added : List ParameterType}
    (types : later.types = registry.types ++ added) :
    registry.FoundIn later where
  byName := by
    intro name type found
    rw [lookup?, types, List.find?_append]
    rw [lookup?] at found
    rw [found, Option.some_or]
  byRegexp := by
    intro regexp type found
    rw [lookupByRegexp?, types, List.find?_append]
    rw [lookupByRegexp?] at found
    rw [found, Option.some_or]

/-- A registry has the built-in types, and behind them those of some
definitions.  Their names are distinct and legal, and their patterns are
regular expressions. -/
structure Holds (registry : ParameterRegistry)
    (definitions : List ParameterDefinition) : Prop where
  types : registry.types =
    ParameterType.builtin ++ definitions.map ParameterType.ofDefinition
  distinct : (registry.types.map (·.name)).Nodup
  legal : ∀ type ∈ registry.types, ∀ char ∈ type.name.toList,
    char ∉ ParameterType.reservedChars
  compiled : ∀ type ∈ registry.types,
    Regex.compile type.regexp = .ok type.pattern

theorem Defined.holds (defined : registry.Defined)
    {definitions : List ParameterDefinition}
    (types : registry.types =
      ParameterType.builtin ++
        definitions.map ParameterType.ofDefinition) :
    registry.Holds definitions where
  types := types
  distinct := defined.nodup_names
  legal := fun type member =>
    (any_isReserved_eq_false_iff _).mp (defined.legal type member)
  compiled := defined.compiled

/--
Behind any proposals a registry has the built-in types and those that were
accepted, in order.  Each proposal has the answer that is due, and what is
found in the registry is found behind all further proposals.
-/
theorem proposals_hold (definitions : List ParameterDefinition) :
    let (answers, registry) := proposeAll definitions {}
    answers.map (·.1) = definitions ∧
      registry.Holds (accepted answers) ∧
      (∀ definition result,
        registry.Answers definition result ↔
          result = registry.proposed definition) ∧
      ∀ further, registry.FoundIn (proposeAll further registry).2 := by
  refine ⟨map_fst_proposeAll definitions {}, ?_, ?_, ?_⟩
  · exact (Defined.builtin.proposeAll definitions).holds
      (types_proposeAll definitions {})
  · intro definition result
    constructor
    · exact Answers.eq_proposed
    · rintro rfl
      exact answers_proposed _ definition
  · intro further
    exact .of_append (types_proposeAll further _)

end Proposals

/-- A name with a reserved character is illegal even if its pattern is no
regular expression, and a name that is taken is not looked at further. -/
example :
    ((proposeAll [⟨"a/b", "(", .identity, true⟩, ⟨"", "(", .identity, true⟩,
        ⟨"paren", "(", .identity, true⟩, ⟨"color", "red", .capitals, true⟩,
        ⟨"color", "blue", .capitals, true⟩] {}).1.map fun answer =>
          answer.2.mapError (·.message)) =
      [.error (ParameterType.DefinitionError.illegalName "a/b").message,
        .error (ParameterType.DefinitionError.duplicate "").message,
        .error "Invalid regular expression of parameter type `paren`",
        .ok (),
        .error (ParameterType.DefinitionError.duplicate "color").message] := by
  decide +kernel

end ParameterRegistry

end ScenarioRunner
