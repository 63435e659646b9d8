import ScenarioRunner.Registry.Definition

/-!
# The order of definitions

Steps, hooks and parameter types are collected side by side.  A definition is
judged by what has been collected of its own kind, and it changes nothing else:
steps are compiled only when all parameter types are known, a hook draws its
identifier once its filter has been read, and a definition that is refused
leaves no trace.

So it does not matter how the kinds are mixed, nor what was refused on the way.
The main statement is `RegistryBuilder.built_of_kinds`.
-/

namespace ScenarioRunner

variable {Host : Type}

/-! ## Judging definitions -/

/-- What a definition that is accepted brings. -/
inductive Admission (Host : Type) where
  | step (value : PendingStep Host)
  /-- A hook, made from the identifier that it draws. -/
  | hook (make : Nat → Hook Host)
  | parameters (extended : ParameterRegistry)

/-- A builder with the next identifier. -/
abbrev RegistryBuilder.State (Host : Type) := RegistryBuilder Host × Nat

/-- The state behind a definition that is accepted. -/
def Admission.extend (state : RegistryBuilder.State Host) :
    Admission Host → RegistryBuilder.State Host
  | .step value =>
      ({ state.1 with steps := state.1.steps ++ [value] }, state.2)
  | .hook make =>
      ({ state.1 with hooks := state.1.hooks ++ [make state.2] },
        state.2 + 1)
  | .parameters extended =>
      ({ state.1 with parameters := extended }, state.2)

namespace Definition

/-- What a definition brings, or why it is refused.  Only parameter types are
compared with what there is. -/
def judge (parameters : ParameterRegistry) :
    Definition Host → Except DefinitionError (Admission Host)
  | .step source body site =>
      match source.pattern with
      | .error reason => .error reason
      | .ok pattern =>
          if pattern.isEmpty then .error .emptyPattern
          else .ok (.step { pattern, body, site })
  | .hook keyword tags body site =>
      let tagSource := RegistryBuilder.hookFilter tags
      match RegistryBuilder.parseFilter keyword tagSource with
      | .error reason => .error reason
      | .ok tags =>
          .ok (.hook fun id => { id, keyword, tags, tagSource, body, site })
  | .parameter value =>
      match parameters.define value with
      | .error reason => .error (.parameter reason)
      | .ok extended => .ok (.parameters extended)

end Definition

namespace RegistryBuilder

/-- Taking in a definition is judging it and admitting what it brings. -/
theorem add_eq_judge (builder : RegistryBuilder Host) (next : Nat)
    (definition : Definition Host) :
    builder.add next definition =
      (definition.judge builder.parameters).map
        (Admission.extend (builder, next)) := by
  cases definition with
  | step source body site =>
      simp only [add, Definition.judge, bind, Except.bind]
      cases source.pattern with
      | error reason => rfl
      | ok pattern =>
          cases empty : pattern.isEmpty <;>
            simp [defineStep, empty, pure, Except.pure, Except.map,
              Admission.extend]
  | hook keyword tags body site =>
      simp only [add, defineHook, Definition.judge]
      cases parseFilter keyword (hookFilter tags) <;> rfl
  | parameter value =>
      simp only [add, defineParameter, Definition.judge, bind, Except.bind]
      cases builder.parameters.define value <;> rfl

theorem propose_of_refused {builder : RegistryBuilder Host}
    {definition : Definition Host} {reason : DefinitionError}
    (judged : definition.judge builder.parameters = .error reason)
    (next : Nat) :
    builder.propose next definition = (.error reason, builder, next) := by
  simp [propose, add_eq_judge, judged, Except.map]

theorem propose_of_admitted {builder : RegistryBuilder Host}
    {definition : Definition Host} {admission : Admission Host}
    (judged : definition.judge builder.parameters = .ok admission)
    (next : Nat) :
    builder.propose next definition =
      (.ok (), admission.extend (builder, next)) := by
  simp [propose, add_eq_judge, judged, Except.map]

end RegistryBuilder

/-! ## Kinds of definitions -/

/-- The kinds of definitions; hooks before and after tests are of one kind. -/
inductive DefinitionKind where
  | step
  | hook
  | parameter
  deriving DecidableEq, Repr

namespace Definition

def kind : Definition Host → DefinitionKind
  | .step .. => .step
  | .hook .. => .hook
  | .parameter .. => .parameter

/-- The definitions of a kind, in order. -/
def ofKind (kind : DefinitionKind) (definitions : List (Definition Host)) :
    List (Definition Host) :=
  definitions.filter (·.kind = kind)

end Definition

def Admission.kind : Admission Host → DefinitionKind
  | .step .. => .step
  | .hook .. => .hook
  | .parameters .. => .parameter

theorem Definition.kind_of_judge {parameters : ParameterRegistry}
    {definition : Definition Host} {admission : Admission Host}
    (judged : definition.judge parameters = .ok admission) :
    admission.kind = definition.kind := by
  cases definition with
  | step source body site =>
      simp only [judge] at judged
      split at judged
      · cases judged
      · split at judged <;> cases judged
        rfl
  | hook keyword tags body site =>
      simp only [judge] at judged
      split at judged <;> cases judged
      rfl
  | parameter value =>
      simp only [judge] at judged
      split at judged <;> cases judged
      rfl

namespace RegistryBuilder

/-- Two states agree on what is collected of a kind.  Only hooks draw
identifiers. -/
def AgreeOn (kind : DefinitionKind) (first second : State Host) : Prop :=
  match kind with
  | .step => first.1.steps = second.1.steps
  | .hook => first.1.hooks = second.1.hooks ∧ first.2 = second.2
  | .parameter => first.1.parameters = second.1.parameters

namespace AgreeOn

variable {kind : DefinitionKind} {first second third : State Host}

theorem refl (kind : DefinitionKind) (state : State Host) :
    AgreeOn kind state state := by
  cases kind with
  | step => rfl
  | hook => exact ⟨rfl, rfl⟩
  | parameter => rfl

theorem symm (agree : AgreeOn kind first second) :
    AgreeOn kind second first := by
  cases kind with
  | step => exact Eq.symm agree
  | hook => exact ⟨agree.1.symm, agree.2.symm⟩
  | parameter => exact Eq.symm agree

theorem trans (early : AgreeOn kind first second)
    (late : AgreeOn kind second third) : AgreeOn kind first third := by
  cases kind with
  | step => exact Eq.trans early late
  | hook => exact ⟨early.1.trans late.1, early.2.trans late.2⟩
  | parameter => exact Eq.trans early late

/-- States that agree on every kind are the same. -/
theorem eq (agree : ∀ kind, AgreeOn kind first second) :
    first = second := by
  obtain ⟨⟨parameters, steps, hooks⟩, next⟩ := first
  have sameParameters : parameters = second.1.parameters :=
    agree .parameter
  have sameSteps : steps = second.1.steps := agree .step
  have sameHooks : hooks = second.1.hooks ∧ next = second.2 := agree .hook
  rw [sameParameters, sameSteps, sameHooks.1, sameHooks.2]

/-- A definition is judged alike where there is the same of its own kind. -/
theorem judge {definition : Definition Host}
    (agree : AgreeOn definition.kind first second) :
    definition.judge first.1.parameters =
      definition.judge second.1.parameters := by
  cases definition with
  | step source body site => rfl
  | hook keyword tags body site => rfl
  | parameter value =>
      have same : first.1.parameters = second.1.parameters := agree
      rw [same]

theorem extend {admission : Admission Host}
    (agree : AgreeOn admission.kind first second) :
    AgreeOn admission.kind (admission.extend first)
      (admission.extend second) := by
  cases admission with
  | step value => exact congrArg (· ++ [value]) agree
  | hook make =>
      obtain ⟨hooks, next⟩ := agree
      exact ⟨by simp [Admission.extend, hooks, next],
        congrArg (· + 1) next⟩
  | parameters extended => rfl

/-- What is admitted matters to its own kind only. -/
theorem extend_of_ne {admission : Admission Host}
    (other : admission.kind ≠ kind) (state : State Host) :
    AgreeOn kind (admission.extend state) state := by
  cases admission with
  | step value =>
      cases kind with
      | step => exact absurd rfl other
      | hook => exact ⟨rfl, rfl⟩
      | parameter => rfl
  | hook make =>
      cases kind with
      | step => rfl
      | hook => exact absurd rfl other
      | parameter => rfl
  | parameters extended =>
      cases kind with
      | step => rfl
      | hook => exact ⟨rfl, rfl⟩
      | parameter => exact absurd rfl other

/-- A definition is answered alike, and does the same, where there is the same
of its own kind. -/
theorem propose {definition : Definition Host}
    (agree : AgreeOn definition.kind first second) :
    (first.1.propose first.2 definition).1 =
        (second.1.propose second.2 definition).1 ∧
      AgreeOn definition.kind (first.1.propose first.2 definition).2
        (second.1.propose second.2 definition).2 := by
  have same := agree.judge
  cases judged : definition.judge second.1.parameters with
  | error reason =>
      rw [propose_of_refused (same.trans judged),
        propose_of_refused judged]
      exact ⟨rfl, agree⟩
  | ok admission =>
      rw [propose_of_admitted (same.trans judged),
        propose_of_admitted judged]
      rw [← Definition.kind_of_judge judged] at agree ⊢
      exact ⟨rfl, agree.extend⟩

/-- A definition leaves the other kinds as they are. -/
theorem propose_of_ne {definition : Definition Host}
    (other : definition.kind ≠ kind) (state : State Host) :
    AgreeOn kind (state.1.propose state.2 definition).2 state := by
  cases judged : definition.judge state.1.parameters with
  | error reason =>
      rw [propose_of_refused judged]
      exact refl kind state
  | ok admission =>
      rw [propose_of_admitted judged]
      rw [← Definition.kind_of_judge judged] at other
      exact extend_of_ne other state

end AgreeOn

end RegistryBuilder

/-! ## Proposals -/

/-- A definition with the answer to it. -/
abbrev Proposal (Host : Type) :=
  Definition Host × Except DefinitionError Unit

namespace Proposal

/-- The proposals of a kind, in order. -/
def ofKind (kind : DefinitionKind) (proposals : List (Proposal Host)) :
    List (Proposal Host) :=
  proposals.filter (·.1.kind = kind)

/-- The proposals that were accepted. -/
def accepted (proposals : List (Proposal Host)) : List (Proposal Host) :=
  proposals.filter (·.2.isOk)

end Proposal

namespace RegistryBuilder

/-- The definitions proposed with their answers. -/
def proposals (state : State Host) (definitions : List (Definition Host)) :
    List (Proposal Host) :=
  (proposeAll definitions state.1 state.2).1

/-- The state behind some proposals. -/
def behind (state : State Host) (definitions : List (Definition Host)) :
    State Host :=
  (proposeAll definitions state.1 state.2).2

/-- The registry that is built behind some proposals. -/
def built (state : State Host) (definitions : List (Definition Host)) :
    Except FinalizeError (Registry Host × Nat) :=
  let last := behind state definitions
  last.1.finalize last.2

@[simp]
theorem proposals_nil (state : State Host) : proposals state [] = [] := rfl

@[simp]
theorem behind_nil (state : State Host) : behind state [] = state := rfl

@[simp]
theorem proposals_cons (state : State Host) (definition : Definition Host)
    (others : List (Definition Host)) :
    proposals state (definition :: others) =
      (definition, (state.1.propose state.2 definition).1) ::
        proposals (state.1.propose state.2 definition).2 others := rfl

@[simp]
theorem behind_cons (state : State Host) (definition : Definition Host)
    (others : List (Definition Host)) :
    behind state (definition :: others) =
      behind (state.1.propose state.2 definition).2 others := rfl

/--
The proposals of a kind are answered as if there were no others, and leave the
same of their kind.
-/
theorem AgreeOn.proposals_ofKind {kind : DefinitionKind}
    {first second : State Host} (agree : AgreeOn kind first second)
    (definitions : List (Definition Host)) :
    Proposal.ofKind kind (proposals first definitions) =
        proposals second (Definition.ofKind kind definitions) ∧
      AgreeOn kind (behind first definitions)
        (behind second (Definition.ofKind kind definitions)) := by
  induction definitions generalizing first second with
  | nil => exact ⟨rfl, agree⟩
  | cons definition others ih =>
      by_cases own : definition.kind = kind
      · subst own
        obtain ⟨answer, agreeBehind⟩ := agree.propose
        obtain ⟨answers, last⟩ := ih agreeBehind
        have kept :
            Definition.ofKind definition.kind (definition :: others) =
              definition :: Definition.ofKind definition.kind others := by
          simp [Definition.ofKind]
        rw [kept]
        refine ⟨?_, last⟩
        rw [proposals_cons, proposals_cons, ← answers, ← answer]
        simp [Proposal.ofKind]
      · obtain ⟨answers, last⟩ := ih ((propose_of_ne own first).trans agree)
        have dropped :
            Definition.ofKind kind (definition :: others) =
              Definition.ofKind kind others := by
          simp [Definition.ofKind, own]
        rw [dropped]
        refine ⟨?_, last⟩
        rw [proposals_cons, ← answers]
        simp [Proposal.ofKind, own]

/-- Without the definitions that are refused, the others are answered the
same, and lead to the same state. -/
theorem proposals_accepted (state : State Host)
    (definitions : List (Definition Host)) :
    let accepted := Proposal.accepted (proposals state definitions)
    proposals state (accepted.map (·.1)) = accepted ∧
      behind state (accepted.map (·.1)) = behind state definitions := by
  induction definitions generalizing state with
  | nil => exact ⟨rfl, rfl⟩
  | cons definition others ih =>
      cases judged : definition.judge state.1.parameters with
      | error reason =>
          have refused := propose_of_refused judged state.2
          simpa [refused, Proposal.accepted, Except.isOk, Except.toBool]
            using ih state
      | ok admission =>
          have admitted := propose_of_admitted judged state.2
          simpa [admitted, Proposal.accepted, Except.isOk, Except.toBool]
            using ih (admission.extend state)

/--
Two ways to mix the same definitions of each kind get the same answers and give
the same registry.  So does leaving out what is refused.
-/
theorem built_of_kinds (state : State Host)
    {first second : List (Definition Host)}
    (same : ∀ kind,
      Definition.ofKind kind first = Definition.ofKind kind second) :
    (∀ kind,
        Proposal.ofKind kind (proposals state first) =
          Proposal.ofKind kind (proposals state second)) ∧
      built state first = built state second ∧
      ∀ definitions,
        let accepted := Proposal.accepted (proposals state definitions)
        proposals state (accepted.map (·.1)) = accepted ∧
          built state (accepted.map (·.1)) = built state definitions := by
  have each (kind : DefinitionKind) :=
    (AgreeOn.refl kind state).proposals_ofKind first
  have others (kind : DefinitionKind) :=
    (AgreeOn.refl kind state).proposals_ofKind second
  have last : behind state first = behind state second := by
    refine AgreeOn.eq fun kind => (each kind).2.trans ?_
    rw [same kind]
    exact (others kind).2.symm
  refine ⟨fun kind => ?_, ?_, fun definitions => ?_⟩
  · rw [(each kind).1, (others kind).1, same kind]
  · rw [built, built, last]
  · obtain ⟨answers, state⟩ := proposals_accepted state definitions
    exact ⟨answers, by rw [built, built, state]⟩

end RegistryBuilder

namespace Sample

def passing : StepBody Unit := fun _ host => ⟨host, [], .completed .passed⟩

def silent : HookBody Unit := fun _ host => ⟨host, [], .completed ()⟩

/-- A parameter type is defined behind the step that needs it, and a second
time; a filter is malformed, and a pattern is empty. -/
def mixed : List (Definition Unit) :=
  [ .step (.expression "a {x}") passing none,
    .hook .before (some " @b ") silent none,
    .parameter { name := "x", regexp := "c|d" },
    .step (.expression "") passing none,
    .hook .after (some "not") silent none,
    .parameter { name := "x", regexp := "e" },
    .hook .after none silent none ]

/-- The same definitions, kind by kind. -/
def sorted : List (Definition Unit) :=
  [ .parameter { name := "x", regexp := "c|d" },
    .parameter { name := "x", regexp := "e" },
    .hook .before (some " @b ") silent none,
    .hook .after (some "not") silent none,
    .hook .after none silent none,
    .step (.expression "a {x}") passing none,
    .step (.expression "") passing none ]

/-- Three of the definitions are refused, and a registry is built. -/
theorem mixed_built_as_sorted :
    (∀ kind, Definition.ofKind kind mixed = Definition.ofKind kind sorted) ∧
      ((RegistryBuilder.proposals ({}, 0) mixed).map (·.2.isOk)) =
        [true, true, true, false, false, false, true] ∧
      ((RegistryBuilder.built ({}, 0) mixed).toOption.map fun found =>
        (found.1.hooks.map (·.id), found.1.steps.map (·.id), found.2)) =
        some ([0, 1], [2], 3) ∧
      RegistryBuilder.built ({}, 0) mixed =
        RegistryBuilder.built ({}, 0) sorted := by
  have same (kind : DefinitionKind) :
      Definition.ofKind kind mixed = Definition.ofKind kind sorted := by
    cases kind <;> rfl
  refine ⟨same, by decide +kernel, by decide +kernel, ?_⟩
  exact (RegistryBuilder.built_of_kinds ({}, 0) same).2.1

end Sample

end ScenarioRunner
