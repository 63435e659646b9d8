import Mathlib.Data.List.Nodup
import ScenarioRunner.Parameter.Registry

/-!
# Parameter types that are accepted

A registry starts with the built-in types and accepts definitions one after the
other.  The names of its types are distinct and have no reserved characters, so
a type is found by its name.

The main statements are `ParameterRegistry.Defined.lookup?_name` and
`ParameterRegistry.Defined.legal`.
-/

namespace ScenarioRunner

theorem Regex.source_ofSource (source : String) :
    (ofSource source).source = source := by
  unfold ofSource
  split
  · rename_i regex compiled
    exact (compile_eq_ok_iff.mp compiled).1
  · rfl

theorem Regex.compile_ofSource {source : String}
    (valid : isValid source = true) :
    compile source = .ok (ofSource source) := by
  unfold ofSource
  split
  · assumption
  · rename_i error failed
    rw [isValid, failed] at valid
    cases valid

namespace ParameterType

theorem pattern_ofDefinition (definition : ParameterDefinition) :
    (ofDefinition definition).pattern = .ofSource definition.regexp := rfl

/-- The pattern of a built-in type is valid, so it is compiled from its
source. -/
theorem compile_of_builtin :
    ∀ type ∈ builtin, Regex.compile type.regexp = .ok type.pattern := by
  have valid :
      ∀ source ∈ [integerPattern, floatPattern, wordPattern, quotedPattern,
        anyPattern], Regex.isValid source = true := by
    decide +kernel
  have compiled (definition : ParameterDefinition)
      (listed : definition.regexp ∈ [integerPattern, floatPattern,
        wordPattern, quotedPattern, anyPattern]) :
      Regex.compile (ofDefinition definition).regexp =
        .ok (ofDefinition definition).pattern := by
    rw [regexp, ofDefinition, Regex.source_ofSource]
    exact Regex.compile_ofSource (valid _ listed)
  simp only [builtin, List.forall_mem_cons]
  refine ⟨?_, ?_, ?_, ?_, ?_, ?_, ?_, ?_, ?_, List.forall_mem_nil _⟩ <;>
    exact compiled _ (by simp)

end ParameterType

namespace ParameterRegistry

/-- A registry of the built-in types and of definitions that were accepted. -/
inductive Defined : ParameterRegistry → Prop where
  | builtin : Defined {}
  | define {registry more : ParameterRegistry}
      {definition : ParameterDefinition} (defined : Defined registry)
      (accepted : registry.define definition = .ok more) : Defined more

/-- What is accepted comes last, with its pattern compiled; its name is new and
has no reserved characters. -/
theorem exists_of_define {registry more : ParameterRegistry}
    {definition : ParameterDefinition}
    (accepted : registry.define definition = .ok more) :
    ∃ type : ParameterType,
      more.types = registry.types ++ [type] ∧
        Regex.compile type.regexp = .ok type.pattern ∧
        type.name = definition.name ∧
        type.name.toList.any ParameterType.isReserved = false ∧
        registry.lookup? type.name = none := by
  unfold define at accepted
  split at accepted
  · cases accepted
  · rename_i legal
    split at accepted
    · cases accepted
    · rename_i fresh
      split at accepted
      · cases accepted
      · rename_i pattern compiled
        cases accepted
        have source := (Regex.compile_eq_ok_iff.mp compiled).1
        refine ⟨_, rfl, ?_, rfl, ?_, ?_⟩
        · rw [← compiled]
          exact congrArg Regex.compile source
        · simpa using legal
        · simpa using fresh

theorem lookup?_eq_none_iff (registry : ParameterRegistry) (name : String) :
    registry.lookup? name = none ↔
      ∀ type ∈ registry.types, type.name ≠ name := by
  simp [lookup?, List.find?_eq_none]

namespace Defined

variable {registry : ParameterRegistry}

theorem nodup_names (defined : registry.Defined) :
    (registry.types.map (·.name)).Nodup := by
  induction defined with
  | builtin => decide
  | define defined accepted ih =>
      obtain ⟨type, types, -, -, -, fresh⟩ := exists_of_define accepted
      rw [types, List.map_append, List.map_singleton, List.nodup_append]
      refine ⟨ih, List.nodup_singleton _, ?_⟩
      intro name member other among same
      obtain ⟨known, listed, rfl⟩ := List.mem_map.mp member
      rw [List.mem_singleton.mp among] at same
      exact (lookup?_eq_none_iff _ _).mp fresh known listed same

/-- The built-in types stay. -/
theorem mem_of_builtin (defined : registry.Defined) :
    ∀ type ∈ ParameterType.builtin, type ∈ registry.types := by
  induction defined with
  | builtin => exact fun _ => id
  | define defined accepted ih =>
      obtain ⟨type, types, -⟩ := exists_of_define accepted
      intro known listed
      rw [types]
      exact List.mem_append_left _ (ih known listed)

/-- Every pattern is compiled from its source. -/
theorem compiled (defined : registry.Defined) :
    ∀ type ∈ registry.types, Regex.compile type.regexp = .ok type.pattern := by
  induction defined with
  | builtin => exact ParameterType.compile_of_builtin
  | define defined accepted ih =>
      obtain ⟨type, types, compiled, -⟩ := exists_of_define accepted
      rw [types, List.forall_mem_append, List.forall_mem_singleton]
      exact ⟨ih, compiled⟩

/-- Names have no characters with a meaning in expressions. -/
theorem legal (defined : registry.Defined) :
    ∀ type ∈ registry.types,
      type.name.toList.any ParameterType.isReserved = false := by
  induction defined with
  | builtin => decide
  | define defined accepted ih =>
      obtain ⟨type, types, -, -, legal, -⟩ := exists_of_define accepted
      rw [types, List.forall_mem_append, List.forall_mem_singleton]
      exact ⟨ih, legal⟩

/-- A type is found by its name. -/
theorem lookup?_name (defined : registry.Defined) {type : ParameterType}
    (member : type ∈ registry.types) :
    registry.lookup? type.name = some type := by
  have distinct := defined.nodup_names
  unfold lookup?
  generalize registry.types = types at member distinct
  induction types with
  | nil => cases member
  | cons first later ih =>
      rw [List.map_cons, List.nodup_cons] at distinct
      rcases List.mem_cons.mp member with rfl | among
      · simp
      · have other : first.name ≠ type.name := by
          intro same
          rw [same] at distinct
          exact distinct.1 (List.mem_map_of_mem among)
        rw [List.find?_cons_of_neg (by simpa using other)]
        exact ih among distinct.2

end Defined

end ParameterRegistry

end ScenarioRunner
