import Mathlib.Data.List.Forall2
import ScenarioRunner.Registry.Basic

/-!
# Calling step definitions

The text of a step decides what is called before anything is called: the only
definition that matches the text, with the values of all its captures, or
nothing.  What is called does not depend on the host, and the definitions that
are not called have no effect on it.

`Registry.Decides` lists the cases, and `Registry.recorded` is a registry whose
definitions leave a record of each call in the host.  The main statement is
`Registry.run_decides`.
-/

namespace ScenarioRunner

variable {Host : Type}

/-! ## Values of captures -/

namespace Capture

/-- What a definition receives for a capture. -/
inductive Gives : Capture → CapturedValue → Prop where
  /-- A group that took no part in the match gives neither text nor value. -/
  | absent (type : Option ParameterType) : Gives ⟨none, type⟩ ⟨none, none⟩
  /-- A placeholder gives its text and what its type makes of it. -/
  | typed {text : String} {type : ParameterType} {value : Value}
      (accepted : type.transform text = .ok value) :
      Gives ⟨some text, some type⟩ ⟨some text, some value⟩
  /-- The value of a group without a type is its text. -/
  | plain (text : String) :
      Gives ⟨some text, none⟩ ⟨some text, some (.text text)⟩

/-- The type of a capture does not accept its text. -/
inductive Refused : Capture → RunError → Prop where
  | intro {text reason : String} {type : ParameterType}
      (refused : type.transform text = .error reason) :
      Refused ⟨some text, some type⟩ (.untransformed type.name text reason)

/-- The text of a capture is accepted by its type, as far as there are both. -/
def Accepted (capture : Capture) : Prop :=
  ∀ text type, capture.text = some text → capture.type = some type →
    ∃ value, type.transform text = .ok value

theorem captured_eq_ok_iff {capture : Capture} {value : CapturedValue} :
    StepDefinition.captured capture = .ok value ↔ capture.Gives value := by
  constructor
  · intro captured
    rcases capture with ⟨_ | text, _ | type⟩
    · cases captured
      exact .absent none
    · cases captured
      exact .absent (some type)
    · cases captured
      exact .plain text
    · simp only [StepDefinition.captured, Capture.value] at captured
      cases made : type.transform text with
      | error reason => simp [made, Except.map] at captured
      | ok own =>
          simp only [made, Except.map, Except.ok.injEq] at captured
          rw [← captured]
          exact .typed made
  · rintro (type | accepted | text)
    · cases type <;> rfl
    · simp [StepDefinition.captured, Capture.value, accepted, Except.map]
    · rfl

theorem captured_eq_error_iff {capture : Capture} {error : RunError} :
    StepDefinition.captured capture = .error error ↔
      capture.Refused error := by
  constructor
  · intro captured
    rcases capture with ⟨_ | text, _ | type⟩
    · cases captured
    · cases captured
    · cases captured
    · simp only [StepDefinition.captured, Capture.value] at captured
      cases made : type.transform text with
      | error reason =>
          simp only [made, Except.map, Except.error.injEq] at captured
          rw [← captured]
          exact .intro made
      | ok own => simp [made, Except.map] at captured
  · rintro ⟨refused⟩
    simp [StepDefinition.captured, Capture.value, refused, Except.map]

theorem accepted_iff_exists_gives (capture : Capture) :
    capture.Accepted ↔ ∃ value, capture.Gives value := by
  constructor
  · intro accepted
    rcases capture with ⟨_ | text, _ | type⟩
    · exact ⟨_, .absent none⟩
    · exact ⟨_, .absent (some type)⟩
    · exact ⟨_, .plain text⟩
    · obtain ⟨value, made⟩ := accepted text type rfl rfl
      exact ⟨_, .typed made⟩
  · rintro ⟨value, _ | accepted | _⟩ text type own typed
    · cases own
    · cases own
      cases typed
      exact ⟨_, accepted⟩
    · cases typed

end Capture

section FirstError

variable {Item Made Problem : Type} {make : Item → Except Problem Made}

theorem mapM_eq_ok_iff {items : List Item} {made : List Made} :
    items.mapM make = .ok made ↔
      List.Forall₂ (fun item result => make item = .ok result) items made := by
  induction items generalizing made with
  | nil => simp [pure, Except.pure, eq_comm]
  | cons item others ih =>
      rw [List.mapM_cons, List.forall₂_cons_left_iff]
      cases own : make item with
      | error problem => simp [bind, Except.bind]
      | ok result =>
          cases rest : others.mapM make with
          | error problem => simp [bind, Except.bind, ← ih, rest]
          | ok results =>
              simp [bind, Except.bind, pure, Except.pure, ← ih, rest, eq_comm]

/-- The first item of which nothing can be made tells the problem. -/
theorem mapM_eq_error_iff {items : List Item} {problem : Problem} :
    items.mapM make = .error problem ↔
      ∃ early item late made, items = early ++ item :: late ∧
        List.Forall₂ (fun item result => make item = .ok result) early made ∧
          make item = .error problem := by
  constructor
  · intro failed
    induction items with
    | nil => cases failed
    | cons item others ih =>
        rw [List.mapM_cons] at failed
        cases own : make item with
        | error other =>
            simp only [own, bind, Except.bind, Except.error.injEq] at failed
            rw [failed] at own
            exact ⟨[], item, others, [], rfl, .nil, own⟩
        | ok result =>
            cases rest : others.mapM make with
            | ok results =>
                simp [own, rest, bind, Except.bind, pure, Except.pure]
                  at failed
            | error other =>
                simp only [own, rest, bind, Except.bind, Except.error.injEq]
                  at failed
                rw [failed] at rest
                obtain ⟨early, first, late, made, rfl, before, refused⟩ :=
                  ih rest
                exact ⟨item :: early, first, late, result :: made, rfl,
                  .cons own before, refused⟩
  · rintro ⟨early, item, late, made, rfl, before, refused⟩
    rw [List.mapM_append, mapM_eq_ok_iff.mpr before, List.mapM_cons, refused]
    rfl

end FirstError

namespace Capture

theorem mapM_captured_eq_ok_iff {captures : List Capture}
    {values : List CapturedValue} :
    captures.mapM StepDefinition.captured = .ok values ↔
      List.Forall₂ Gives captures values := by
  have same : Gives = fun capture value =>
      StepDefinition.captured capture = .ok value := by
    funext capture value
    exact propext captured_eq_ok_iff.symm
  rw [mapM_eq_ok_iff, same]

/-- The first capture that is refused tells the error. -/
theorem mapM_captured_eq_error_iff {captures : List Capture}
    {error : RunError} :
    captures.mapM StepDefinition.captured = .error error ↔
      ∃ early capture late values, captures = early ++ capture :: late ∧
        List.Forall₂ Gives early values ∧ capture.Refused error := by
  simp only [mapM_eq_error_iff, ← mapM_eq_ok_iff, mapM_captured_eq_ok_iff,
    captured_eq_error_iff]

theorem forall_accepted_of_gives {captures : List Capture}
    {values : List CapturedValue} (given : List.Forall₂ Gives captures values) :
    ∀ capture ∈ captures, capture.Accepted := by
  induction given with
  | nil => exact nofun
  | cons own _ ih =>
      rw [List.forall_mem_cons]
      exact ⟨(accepted_iff_exists_gives _).mpr ⟨_, own⟩, ih⟩

theorem exists_gives_of_accepted {captures : List Capture}
    (accepted : ∀ capture ∈ captures, capture.Accepted) :
    ∃ values, List.Forall₂ Gives captures values := by
  induction captures with
  | nil => exact ⟨[], .nil⟩
  | cons capture others ih =>
      rw [List.forall_mem_cons] at accepted
      obtain ⟨value, own⟩ :=
        (accepted_iff_exists_gives capture).mp accepted.1
      obtain ⟨values, rest⟩ := ih accepted.2
      exact ⟨value :: values, .cons own rest⟩

end Capture

/-! ## What is captured -/

/-- The types of what an expression captures: those of its placeholders, or
none for each group. -/
def Expression.captureTypes : Expression → List (Option ParameterType)
  | .template compiled =>
      compiled.placeholders.map fun placeholder => some placeholder.type
  | .regular regex => List.replicate regex.groupCount none

/-- A definition captures something from a text: one item for each placeholder
or group, in order. -/
structure StepDefinition.Captures (definition : StepDefinition Host)
    (text : String) (captures : List Capture) : Prop where
  matched : definition.expression.match? text = some captures
  types : captures.map (·.type) = definition.expression.captureTypes

theorem Expression.types_of_match? {expression : Expression} {text : String}
    {captures : List Capture}
    (matched : expression.match? text = some captures) :
    captures.map (·.type) = expression.captureTypes := by
  cases expression with
  | template compiled =>
      obtain ⟨found, -, rfl⟩ := Option.map_eq_some_iff.mp matched
      rw [List.map_map]
      rfl
  | regular regex =>
      obtain ⟨texts, own, rfl⟩ := Option.map_eq_some_iff.mp matched
      obtain ⟨found, -, rfl⟩ := Option.map_eq_some_iff.mp own
      simp [captureTypes, Function.comp_def, List.map_const']

namespace Registry

variable {registry : Registry Host} {text : String}
  {argument : Option StepArgument} {scope : Scope}

/-! ## What is called -/

/-- A definition, and what it is called with. -/
structure Call (Host : Type) where
  definition : StepDefinition Host
  context : StepContext

/-- What comes of a call. -/
def Call.perform (call : Call Host) (host : Host) : Performance Host Outcome :=
  call.definition.body call.context host

/-- The call that a text and an argument decide on, or why there is none. -/
inductive Decides (registry : Registry Host) (text : String)
    (argument : Option StepArgument) (scope : Scope) :
    Except RunError (Call Host) → Prop where
  | missing (none : registry.matching text = []) :
      Decides registry text argument scope
        (.error (.unresolved (.missing text)))
  /-- All definitions that match are told, in the order of the registry. -/
  | ambiguous {definitions : List (StepDefinition Host)}
      (all : registry.matching text = definitions)
      (several : 2 ≤ definitions.length) :
      Decides registry text argument scope
        (.error (.unresolved (.ambiguous text
          (definitions.map fun definition =>
            (definition.expression.canonical, definition.site)))))
  /-- Of the captures that are refused the first is told. -/
  | refused {definition : StepDefinition Host}
      (only : registry.matching text = [definition])
      {early late : List Capture} {capture : Capture}
      (captures : definition.Captures text (early ++ capture :: late))
      (accepted : ∀ other ∈ early, other.Accepted)
      {error : RunError} (refused : capture.Refused error) :
      Decides registry text argument scope (.error error)
  | called {definition : StepDefinition Host}
      (only : registry.matching text = [definition])
      {captures : List Capture} (captured : definition.Captures text captures)
      {values : List CapturedValue}
      (given : List.Forall₂ Capture.Gives captures values) :
      Decides registry text argument scope
        (.ok ⟨definition, scope, values, argument⟩)

/-- The call that is decided on, computed. -/
def call (registry : Registry Host) (text : String)
    (argument : Option StepArgument) (scope : Scope) :
    Except RunError (Call Host) :=
  match registry.resolve text with
  | .error reason => .error (.unresolved reason)
  | .ok definition =>
      (definition.captures text).map fun values =>
        ⟨definition, scope, values, argument⟩

theorem run_eq_map_call (registry : Registry Host) (text : String)
    (argument : Option StepArgument) (scope : Scope) (host : Host) :
    registry.run text argument scope host =
      (registry.call text argument scope).map (·.perform host) := by
  unfold run call
  cases registry.resolve text with
  | error reason => rfl
  | ok definition =>
      dsimp only
      cases definition.captures text <;> rfl

theorem exists_captures_of_matching {definition : StepDefinition Host}
    (only : registry.matching text = [definition]) :
    ∃ captures, definition.Captures text captures := by
  have member : definition ∈ registry.matching text := by
    rw [only]
    exact List.mem_singleton_self definition
  have matched : definition.isMatch text = true :=
    (List.mem_filter.mp member).2
  obtain ⟨captures, own⟩ := Option.isSome_iff_exists.mp matched
  exact ⟨captures, own, Expression.types_of_match? own⟩

/-- If one definition matches, its captures decide. -/
theorem call_eq_of_matching {definition : StepDefinition Host}
    (only : registry.matching text = [definition]) {captures : List Capture}
    (captured : definition.Captures text captures) :
    registry.call text argument scope =
      (captures.mapM StepDefinition.captured).map fun values =>
        ⟨definition, scope, values, argument⟩ := by
  have resolved := (registry.resolve_eq_ok_iff text definition).mpr only
  rw [call, resolved]
  simp only [StepDefinition.captures, captured.matched, Option.getD_some]

theorem resolve_eq_ambiguous {definitions : List (StepDefinition Host)}
    (all : registry.matching text = definitions)
    (several : 2 ≤ definitions.length) :
    registry.resolve text =
      .error (.ambiguous text (definitions.map fun definition =>
        (definition.expression.canonical, definition.site))) := by
  rw [resolve, all]
  rcases definitions with _ | ⟨first, _ | ⟨second, others⟩⟩
  · simp at several
  · simp at several
  · rfl

/-- The call that is computed is decided on. -/
theorem decides_call (registry : Registry Host) (text : String)
    (argument : Option StepArgument) (scope : Scope) :
    registry.Decides text argument scope
      (registry.call text argument scope) := by
  cases all : registry.matching text with
  | nil =>
      have missing : registry.resolve text = .error (.missing text) := by
        rw [resolve, all]
      rw [call, missing]
      exact .missing all
  | cons first others =>
      cases others with
      | cons second later =>
          have several : 2 ≤ (first :: second :: later).length := by simp
          rw [call, resolve_eq_ambiguous all several]
          exact .ambiguous all several
      | nil =>
          obtain ⟨captures, captured⟩ := exists_captures_of_matching all
          rw [call_eq_of_matching all captured]
          cases made : captures.mapM StepDefinition.captured with
          | ok values =>
              exact .called all captured
                (Capture.mapM_captured_eq_ok_iff.mp made)
          | error error =>
              obtain ⟨early, capture, late, values, rfl, given, refused⟩ :=
                Capture.mapM_captured_eq_error_iff.mp made
              exact .refused all captured
                (Capture.forall_accepted_of_gives given) refused

/-- Nothing else is decided on. -/
theorem Decides.eq_call {verdict : Except RunError (Call Host)}
    (decides : registry.Decides text argument scope verdict) :
    verdict = registry.call text argument scope := by
  cases decides with
  | missing none => rw [call, resolve, none]
  | ambiguous all several => rw [call, resolve_eq_ambiguous all several]
  | @refused _ only early late capture captured accepted error refused =>
      obtain ⟨values, given⟩ := Capture.exists_gives_of_accepted accepted
      have failed := Capture.mapM_captured_eq_error_iff.mpr
        ⟨early, capture, late, values, rfl, given, refused⟩
      rw [call_eq_of_matching only captured, failed]
      rfl
  | called only captured given =>
      rw [call_eq_of_matching only captured,
        Capture.mapM_captured_eq_ok_iff.mpr given]
      rfl

/-! ## A record of calls -/

/-- A definition that also leaves a record of each call. -/
def recordedStep (definition : StepDefinition Host) :
    StepDefinition (Host × List (Call Host)) where
  id := definition.id
  expression := definition.expression
  body := fun context (host, calls) =>
    let performance := definition.body context host
    { performance with
      host := (performance.host, calls ++ [⟨definition, context⟩]) }
  site := definition.site

/-- A registry whose definitions also leave a record of each call. -/
def recorded (registry : Registry Host) :
    Registry (Host × List (Call Host)) where
  parameters := registry.parameters
  steps := registry.steps.map recordedStep

/-- The host behind a step; it is as it was if the step is not run. -/
def hostBehind (registry : Registry Host) (text : String)
    (argument : Option StepArgument) (scope : Scope) (host : Host) : Host :=
  match registry.run text argument scope host with
  | .ok performance => performance.host
  | .error _ => host

/-- What is called does not depend on what the definitions do. -/
theorem call_recorded (registry : Registry Host) (text : String)
    (argument : Option StepArgument) (scope : Scope) :
    registry.recorded.call text argument scope =
      (registry.call text argument scope).map fun call =>
        ⟨recordedStep call.definition, call.context⟩ := by
  have matching :
      registry.recorded.matching text =
        (registry.matching text).map recordedStep := by
    unfold Registry.matching recorded
    rw [List.filter_map]
    rfl
  have decides := registry.decides_call text argument scope
  generalize registry.call text argument scope = verdict at decides
  symm
  apply Decides.eq_call
  cases decides with
  | missing none => exact .missing (by rw [matching, none]; rfl)
  | @ambiguous definitions all several =>
      have told :
          definitions.map (fun definition =>
              (definition.expression.canonical, definition.site)) =
            (definitions.map recordedStep).map fun definition =>
              (definition.expression.canonical, definition.site) := by
        rw [List.map_map]
        rfl
      rw [told]
      exact .ambiguous (by rw [matching, all]) (by simpa using several)
  | refused only captured accepted refused =>
      rw [only] at matching
      exact .refused matching ⟨captured.matched, captured.types⟩ accepted
        refused
  | called only captured given =>
      rw [only] at matching
      exact .called matching ⟨captured.matched, captured.types⟩ given

/--
A step is decided in one way, which does not depend on the host.  A definition
is called if it is the only one that matches the text and if all its captures
are accepted; it is called once, with their values in order and with the
argument.  Otherwise no definition is called.
-/
theorem run_decides (registry : Registry Host) (text : String)
    (argument : Option StepArgument) (scope : Scope) :
    ∃ verdict : Except RunError (Call Host),
      (∀ other, registry.Decides text argument scope other ↔
          other = verdict) ∧
        ((∃ call, verdict = .ok call) ↔
          ∃ definition captures, registry.matching text = [definition] ∧
            definition.Captures text captures ∧
              ∀ capture ∈ captures, capture.Accepted) ∧
        ∀ host,
          registry.run text argument scope host =
              verdict.map (·.perform host) ∧
            ∀ calls,
              registry.recorded.hostBehind text argument scope (host, calls) =
                (registry.hostBehind text argument scope host,
                  calls ++ verdict.toOption.toList) := by
  have decided := registry.decides_call text argument scope
  refine ⟨registry.call text argument scope, ?_, ?_, ?_⟩
  · intro other
    constructor
    · exact Decides.eq_call
    · rintro rfl
      exact decided
  · constructor
    · rintro ⟨call, own⟩
      rw [own] at decided
      cases decided with
      | called only captured given =>
          exact ⟨_, _, only, captured,
            Capture.forall_accepted_of_gives given⟩
    · rintro ⟨definition, captures, only, captured, accepted⟩
      obtain ⟨values, given⟩ := Capture.exists_gives_of_accepted accepted
      exact ⟨_, (Decides.called only captured given).eq_call.symm⟩
  · intro host
    refine ⟨registry.run_eq_map_call text argument scope host, ?_⟩
    intro calls
    rw [hostBehind, hostBehind, run_eq_map_call, run_eq_map_call,
      call_recorded]
    cases registry.call text argument scope with
    | error error => simp [Except.map, Except.toOption]
    | ok call => rfl

end Registry

end ScenarioRunner
