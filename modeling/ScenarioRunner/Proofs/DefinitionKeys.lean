import ScenarioRunner.Proofs.DiagnosisTally
import ScenarioRunner.Proofs.QuotedForm

/-!
# Keys of definitions

A diagnosis tells definitions apart by their keys.  Definitions have the same
key only if they are of one kind, are written alike and stand at the same site:
an expression is quoted and a regular expression stands between slashes, so
neither looks like the other.  So a step that one definition is used for is not
recorded with another.

The main statement is `StepDefinition.keys_apart`.
-/

namespace ScenarioRunner

variable {Host : Type}

/-! ## The texts of keys -/

namespace Expression

/-- Both expressions have placeholders, or both are regular. -/
def SameKind : Expression → Expression → Prop
  | .template _, .template _ => True
  | .regular _, .regular _ => True
  | _, _ => False

/-- The text of an expression in a key. -/
def keyText : Expression → String
  | .template compiled => Text.quoted compiled.source
  | .regular regex => s!"/{regex.source}/"

theorem slashed_inj {first second : String} :
    s!"/{first}/" = s!"/{second}/" ↔ first = second := by
  simp [toString, ← String.toList_inj]

/-- A quoted form starts with its quote, not with a slash. -/
theorem quoted_ne_slashed (first second : String) :
    Text.quoted first ≠ s!"/{second}/" := by
  intro same
  have slash : s!"/{second}/".toList.head? = some '/' := by
    simp [toString]
  rw [← same, Text.head?_quoted] at slash
  exact absurd slash (by decide)

/-- The text tells of what kind an expression is and how it is written. -/
theorem keyText_inj {first second : Expression} :
    first.keyText = second.keyText ↔
      first.SameKind second ∧ first.source = second.source := by
  cases first with
  | template own =>
      cases second with
      | template other => simp [keyText, SameKind, source, Text.quoted_inj]
      | regular other => simp [keyText, SameKind, quoted_ne_slashed]
  | regular own =>
      cases second with
      | template other =>
          simp [keyText, SameKind, (quoted_ne_slashed _ _).symm]
      | regular other => simpa [keyText, SameKind, source] using slashed_inj

end Expression

namespace StepDefinition

variable {first second : StepDefinition Host}

/-- Definitions of one kind that are written alike and stand at the same site,
or both at an unknown one. -/
structure SameAs (first second : StepDefinition Host) : Prop where
  kind : first.expression.SameKind second.expression
  source : first.expression.source = second.expression.source
  site : first.site = second.site

theorem key_eq (definition : StepDefinition Host) :
    definition.key = ⟨definition.expression.keyText, definition.site⟩ := by
  unfold key Expression.keyText
  cases definition.expression <;> rfl

theorem key_eq_iff : first.key = second.key ↔ first.SameAs second := by
  rw [key_eq, key_eq, DefinitionKey.mk.injEq, Expression.keyText_inj]
  constructor
  · rintro ⟨⟨kind, source⟩, site⟩
    exact ⟨kind, source, site⟩
  · rintro ⟨kind, source, site⟩
    exact ⟨⟨kind, source⟩, site⟩

end StepDefinition

/-! ## The steps of a definition -/

theorem StepRecord.make_eq_used_iff {registry : Registry Host}
    {hints : SearchHints} {step used : StepUsage}
    {argument : Option ArgumentKind} {key : DefinitionKey} :
    make registry hints step argument = .used key used ↔
      ∃ only, registry.matching step.text = [only] ∧ only.key = key ∧
        step = used := by
  unfold make
  rcases registry.matching step.text with _ | ⟨only, _ | ⟨second, others⟩⟩ <;>
    simp

/-- A step is recorded with a definition exactly if a definition of the same
kind, source and site alone matches the text of the step. -/
theorem Diagnosis.mem_stepsOf_iff {files : List (DiagnosedFile Host)}
    {definition : StepDefinition Host} {step : StepUsage} :
    step ∈ (ofFiles files).stepsOf definition.key ↔
      ∃ found ∈ files, ∃ made ∈ found.steps, ∃ only,
        found.registry.matching made.text = [only] ∧
          only.SameAs definition ∧ (found.record made).step = step := by
  rw [stepsOf_ofFiles]
  constructor
  · intro member
    obtain ⟨found, listed, used⟩ := exists_used_of_mem member
    obtain ⟨made, among, recorded⟩ := List.mem_map.mp used
    obtain ⟨only, matching, key, -⟩ :=
      StepRecord.make_eq_used_iff.mp recorded
    refine ⟨found, listed, made, among, only, matching,
      StepDefinition.key_eq_iff.mp key, ?_⟩
    rw [recorded]
    rfl
  · rintro ⟨found, listed, made, among, only, matching, same, rfl⟩
    have recorded : found.record made =
        .used definition.key (found.record made).step := by
      refine StepRecord.make_eq_used_iff.mpr
        ⟨only, matching, StepDefinition.key_eq_iff.mpr same, ?_⟩
      exact (StepRecord.step_make _ _ _ _).symm
    refine List.mem_filterMap.mpr ⟨found.record made, ?_, ?_⟩
    · exact List.mem_flatMap.mpr
        ⟨found, listed, List.mem_map_of_mem among⟩
    · rw [recorded]
      exact if_pos rfl

/--
Definitions have the same key exactly if they are of one kind, are written
alike and stand at the same site.  So a diagnosis records a step with a
definition exactly if one which is the same in this way is found for the file
of the step and is the only one there that matches it.
-/
theorem StepDefinition.keys_apart [FeatureSyntax] :
    (∀ first second : StepDefinition Host,
        first.key = second.key ↔
          first.expression.SameKind second.expression ∧
            first.expression.source = second.expression.source ∧
            first.site = second.site) ∧
      ∀ (project : Project) (templates : List String)
        (library : StepLibrary Host) (paths : List String)
        (diagnosis : Diagnosis),
        project.diagnose templates library paths = .ok diagnosis →
          ∃ files,
            List.Forall₂ (project.Inspects templates library)
                (paths.filter Path.isFeature) files ∧
              ∀ (definition : StepDefinition Host) (step : StepUsage),
                step ∈ diagnosis.stepsOf definition.key ↔
                  ∃ found ∈ files, ∃ made ∈ found.steps, ∃ only,
                    found.registry.matching made.text = [only] ∧
                      only.SameAs definition ∧
                        (found.record made).step = step := by
  constructor
  · intro first second
    rw [key_eq_iff]
    exact ⟨fun same => ⟨same.kind, same.source, same.site⟩,
      fun ⟨kind, source, site⟩ => ⟨kind, source, site⟩⟩
  · intro project templates library paths diagnosis diagnosed
    obtain ⟨files, inspect, rfl⟩ :=
      (Project.diagnose_eq_ok_iff paths diagnosis).mp diagnosed
    exact ⟨files, inspect, fun _ _ => Diagnosis.mem_stepsOf_iff⟩

namespace Sample

/-- A definition written like one of the library, at the same site, but as a
regular expression. -/
def comparedTwin : StepDefinition Unit where
  id := 0
  expression := .regular (.ofSource "a")
  body := passing
  site := some { path := "steps.rs", line := 1, column := 1 }

/-- The steps of a definition are not those of its twin of the other kind. -/
theorem compared_keys_apart :
    compared.diagnose ["*.rs"] comparedLibrary ["/p/a.feature"] =
        .ok (comparedFiles ["/p/a.feature"]) ∧
      (comparedFiles ["/p/a.feature"]).stepsOf
          ⟨"\"a\"", comparedTwin.site⟩ = [⟨"a.feature", 3, "a"⟩] ∧
      ∃ files,
        List.Forall₂ (compared.Inspects ["*.rs"] comparedLibrary)
            ["/p/a.feature"] files ∧
          ∀ found ∈ files, ∀ made ∈ found.steps, ∀ only,
            found.registry.matching made.text = [only] →
              ¬ only.SameAs comparedTwin := by
  have diagnosed := compared_succeeds ["/p/a.feature"] (by decide +kernel)
  refine ⟨diagnosed, by decide +kernel, ?_⟩
  obtain ⟨files, inspect, used⟩ :=
    StepDefinition.keys_apart.2 _ _ _ _ _ diagnosed
  have feature : ["/p/a.feature"].filter Path.isFeature = ["/p/a.feature"] := by
    decide +kernel
  have unused :
      (comparedFiles ["/p/a.feature"]).stepsOf comparedTwin.key = [] := by
    decide +kernel
  rw [feature] at inspect
  refine ⟨files, inspect, fun found listed made among only matching same => ?_⟩
  have member := (used comparedTwin (found.record made).step).mpr
    ⟨found, listed, made, among, only, matching, same, rfl⟩
  rw [unused] at member
  cases member

end Sample

end ScenarioRunner
