import ScenarioRunner.Proofs.Course

/-!
# Attempts that reach a step

An attempt reaches a step when all slots before it pass.  What happens then is
decided by the definitions that match the text of the step: if it is one, its
body runs unless a capture has no value; otherwise the attempt fails, and no
body runs.

The main statements are `Visit.outcome_of_unresolved` and
`Visit.invokes_of_resolved`.
-/

namespace ScenarioRunner

variable {Host : Type}

namespace StepDefinition

/-- A definition that is found fails only for want of the value of a
capture. -/
theorem captures_error {definition : StepDefinition Host} {text : String}
    {error : RunError} (failed : definition.captures text = .error error) :
    ∃ parameter captured reason,
      error = .untransformed parameter captured reason := by
  have each (captures : List Capture)
      (fails : captures.mapM captured = .error error) :
      ∃ parameter captured reason,
        error = .untransformed parameter captured reason := by
    induction captures with
    | nil => cases fails
    | cons capture others ih =>
        rw [List.mapM_cons] at fails
        cases value : capture.value with
        | error reason =>
            simp only [captured, value, bind, Except.bind,
              Except.error.injEq] at fails
            exact ⟨_, _, _, fails.symm⟩
        | ok result =>
            cases rest : others.mapM captured with
            | error later =>
                simp only [captured, value, rest, bind, Except.bind,
                  Except.error.injEq] at fails
                subst fails
                exact ih rest
            | ok results =>
                simp [captured, value, rest, bind, Except.bind, pure,
                  Except.pure] at fails
  exact each _ failed

end StepDefinition

/-! ## Slots that pass -/

namespace Executable

variable {spec : Spec Host} {executable : Executable Host} {started : Nat}

/-- A slot that ends an attempt does not end it as passed. -/
theorem playSlot_ne_passed (spec : Spec Host) (executable : Executable Host)
    (started : Nat) (slot : Slot Host) (running : Running Host) :
    (executable.playSlot spec started slot running).1 ≠
      some (.done .passed) := by
  cases slot with
  | hook id hook =>
      unfold playSlot playHook failHook
      dsimp only
      split <;> simp
  | step id step =>
      unfold playSlot playStep
      dsimp only
      split
      · simp
      · split <;> simp

theorem playSlots_cons_of_ended {slot : Slot Host}
    {running stopped : Running Host} {ending : AttemptEnd}
    (ended : executable.playSlot spec started slot running =
      (some ending, stopped))
    (others : List (Slot Host)) :
    executable.playSlots spec started (slot :: others) running =
      (ending, stopped) := by
  rw [playSlots, ended]

theorem playSlots_cons_of_passed {slot : Slot Host}
    {running stopped : Running Host}
    (passed : executable.playSlot spec started slot running =
      (none, stopped))
    (others : List (Slot Host)) :
    executable.playSlots spec started (slot :: others) running =
      executable.playSlots spec started others stopped := by
  rw [playSlots, passed]

/-- Slots are run behind those that pass. -/
theorem playSlots_append {early : List (Slot Host)}
    {running reached : Running Host}
    (passed : executable.playSlots spec started early running =
      (.done .passed, reached))
    (late : List (Slot Host)) :
    executable.playSlots spec started (early ++ late) running =
      executable.playSlots spec started late reached := by
  induction early generalizing running with
  | nil =>
      cases passed
      rfl
  | cons slot others ih =>
      have apart := playSlot_ne_passed spec executable started slot running
      rcases played : executable.playSlot spec started slot running
        with ⟨ending | ending, stopped⟩
      · rw [playSlots_cons_of_passed played] at passed
        rw [List.cons_append, playSlots_cons_of_passed played]
        exact ih passed
      · rw [playSlots_cons_of_ended played] at passed
        rw [played, (Prod.mk.inj passed).1] at apart
        exact absurd rfl apart

end Executable

/-! ## Visits -/

/-- An attempt at the test of a pickle that reaches a step of it. -/
structure Visit (spec : Spec Host) (pickle : Pickle Nat)
    (step : PickleStep Nat) where
  executable : Executable Host
  /-- The test before the attempt. -/
  running : Running Host
  /-- The test step. -/
  id : Nat
  before : List (Slot Host)
  behind : List (Slot Host)
  /-- The test when the step is reached. -/
  reached : Running Host
  own : executable.pickle = pickle
  slots : executable.slots = before ++ .step id step :: behind
  passed :
    executable.playSlots spec running.stage.next before
        (running.start executable) =
      (.done .passed, reached)

namespace Visit

variable {spec : Spec Host} {pickle : Pickle Nat} {step : PickleStep Nat}
  (visit : Visit spec pickle step)

/-- The identifier of the attempt. -/
def started : Nat := visit.running.stage.next

/-- The slot of the step. -/
def slot : Slot Host := .step visit.id step

/-- What the attempt comes to. -/
def outcome : AttemptEnd × Running Host :=
  visit.executable.body spec visit.running

/-- What the step comes to; there is no end of the attempt if it goes on. -/
def turn : Option AttemptEnd × Running Host :=
  visit.executable.playSlot spec visit.started visit.slot visit.reached

/-- The test when the step has started, and nothing else has happened. -/
def opened : Running Host :=
  visit.reached.begin visit.started visit.id

/-- What the body of a definition does in the step. -/
def performance (definition : StepDefinition Host)
    (captures : List CapturedValue) : Performance Host Outcome :=
  definition.body
    { scope := .inTest pickle visit.started visit.id (some step)
      captures
      argument := step.stepArgument }
    visit.reached.stage.host

theorem outcome_eq_playSlots :
    visit.outcome =
      visit.executable.playSlots spec visit.started
        (visit.slot :: visit.behind) visit.reached := by
  unfold outcome Executable.body
  rw [visit.slots]
  exact Executable.playSlots_append visit.passed _

theorem outcome_of_ended {ending : AttemptEnd} {stopped : Running Host}
    (ended : visit.turn = (some ending, stopped)) :
    visit.outcome = (ending, stopped) := by
  rw [outcome_eq_playSlots]
  exact Executable.playSlots_cons_of_ended ended _

theorem outcome_of_passed {stopped : Running Host}
    (passed : visit.turn = (none, stopped)) :
    visit.outcome =
      visit.executable.playSlots spec visit.started visit.behind
        stopped := by
  rw [outcome_eq_playSlots]
  exact Executable.playSlots_cons_of_passed passed _

/-! ## What a step comes to -/

theorem turn_of_unrun {error : RunError}
    (unrun : ∀ scope host,
      spec.registry.run step.text step.stepArgument scope host =
        .error error) :
    visit.turn =
      (some (.failed (Executable.runFailure spec step.text error)),
        visit.opened) := by
  unfold turn slot Executable.playSlot Executable.playStep
  simp only [unrun]
  rfl

/-- A step that does not resolve fails, and no body runs. -/
theorem turn_of_unresolved {reason : ResolveError}
    (unresolved : spec.registry.resolve step.text = .error reason) :
    visit.turn =
      (some (.failed
          (Executable.runFailure spec step.text (.unresolved reason))),
        visit.opened) := by
  apply visit.turn_of_unrun
  intro scope host
  rw [Registry.run, unresolved]

theorem outcome_of_unresolved {reason : ResolveError}
    (unresolved : spec.registry.resolve step.text = .error reason) :
    visit.outcome =
      (.failed (Executable.runFailure spec step.text (.unresolved reason)),
        visit.opened) :=
  visit.outcome_of_ended (visit.turn_of_unresolved unresolved)

/-- A capture without a value fails a step, and no body runs. -/
theorem turn_of_untransformed {definition : StepDefinition Host}
    {error : RunError}
    (resolved : spec.registry.resolve step.text = .ok definition)
    (failed : definition.captures step.text = .error error) :
    visit.turn =
      (some (.failed (.transform error.message)), visit.opened) := by
  have unrun (scope : Scope) (host : Host) :
      spec.registry.run step.text step.stepArgument scope host =
        .error error := by
    rw [Registry.run, resolved]
    simp only [failed, Except.map]
  obtain ⟨parameter, captured, reason, rfl⟩ :=
    StepDefinition.captures_error failed
  exact visit.turn_of_unrun unrun

/-- A body that runs decides how its step ends. -/
theorem turn_of_captured {definition : StepDefinition Host}
    {captures : List CapturedValue}
    (resolved : spec.registry.resolve step.text = .ok definition)
    (captured : definition.captures step.text = .ok captures) :
    let performance := visit.performance definition captures
    visit.turn.2.stage.host = performance.host ∧
      visit.turn.1 =
        match performance.ending with
        | .completed .passed => none
        | ending =>
            some (visit.slot.ended ending).attemptEnd := by
  have run (host : Host) :
      spec.registry.run step.text step.stepArgument
          (.inTest pickle visit.started visit.id (some step)) host =
        .ok (definition.body
          { scope := .inTest pickle visit.started visit.id (some step)
            captures
            argument := step.stepArgument } host) := by
    rw [Registry.run, resolved]
    simp only [captured, Except.map]
  have host : (visit.reached.begin visit.started visit.id).stage.host =
      visit.reached.stage.host := rfl
  unfold turn slot Executable.playSlot Executable.playStep performance
  simp only [visit.own, run, host]
  generalize definition.body _ visit.reached.stage.host = performance
  rcases performance with ⟨final, attachments, outcome | _ | _ | _⟩
  · cases outcome <;> exact ⟨rfl, rfl⟩
  · exact ⟨rfl, rfl⟩
  · exact ⟨rfl, rfl⟩
  · exact ⟨rfl, rfl⟩

/--
An attempt invokes a definition: it fails if a capture has no value, and else
the body runs.  It ends as the body says, or goes on with the slots behind the
step.
-/
def Invokes (definition : StepDefinition Host) : Prop :=
  match definition.captures step.text with
  | .error error =>
      visit.outcome = (.failed (.transform error.message), visit.opened)
  | .ok captures =>
      let performance := visit.performance definition captures
      ∃ stopped : Running Host,
        stopped.stage.host = performance.host ∧
          visit.outcome =
            match performance.ending with
            | .completed .passed =>
                visit.executable.playSlots spec visit.started visit.behind
                  stopped
            | ending =>
                ((visit.slot.ended ending).attemptEnd, stopped)

theorem invokes_of_resolved {definition : StepDefinition Host}
    (resolved : spec.registry.resolve step.text = .ok definition) :
    visit.Invokes definition := by
  unfold Invokes
  split
  · rename_i error failed
    exact visit.outcome_of_ended
      (visit.turn_of_untransformed resolved failed)
  · rename_i captures captured
    have taken := visit.turn_of_captured resolved captured
    dsimp only at taken ⊢
    rcases played : visit.turn with ⟨ending, stopped⟩
    rw [played] at taken
    refine ⟨stopped, taken.1, ?_⟩
    have ends := taken.2
    split
    · rename_i passed
      rw [passed] at ends
      subst ends
      exact visit.outcome_of_passed played
    · rename_i unpassed
      split at ends
      · rename_i passed
        exact absurd passed unpassed
      · subst ends
        exact visit.outcome_of_ended played

end Visit

end ScenarioRunner
