import ScenarioRunner.Proofs.RunHistory

/-!
# Runs whose bodies come to their ends

A run comes to an end if no body that it may run is suspended: then no course
is, no attempt is, and no test is.  While it lasts the registry is in use from
the start of each attempt to its end and at no other time.

The main statement puts this together with the history of the run.
-/

namespace ScenarioRunner

variable {Host : Type}

/-! ## Bodies that come to their ends -/

/-- No body of a step definition or of a hook of a test is suspended. -/
structure Spec.Completes (spec : Spec Host) : Prop where
  steps : ∀ definition ∈ spec.registry.steps, ∀ context host,
    (definition.body context host).ending ≠ .suspended
  hooks : ∀ test ∈ spec.tests, ∀ executable,
    test.executable = some executable →
      ∀ id hook, .hook id hook ∈ executable.slots → ∀ context host,
        (hook.body context host).ending ≠ .suspended

/-- No body of a test is suspended. -/
def Executable.Completes (spec : Spec Host)
    (executable : Executable Host) : Prop :=
  ∀ slot ∈ executable.slots, ∀ started body,
    slot.body spec executable.pickle started = .ok body →
      ∀ host, (body host).ending ≠ .suspended

/-- The bodies of a test are those of its hooks and of definitions. -/
theorem Spec.Completes.executable {spec : Spec Host}
    (completes : spec.Completes) {test : Test Host}
    (listed : test ∈ spec.tests) {executable : Executable Host}
    (executed : test.executable = some executable) :
    executable.Completes spec := by
  intro slot member started body found host
  cases slot with
  | hook id value =>
      cases found
      have goes :=
        completes.hooks test listed executable executed id value member
          { scope := .inTest executable.pickle started id none
            keyword := value.keyword } host
      simp only [Slot.hookBody]
      generalize value.body _ host = performance at goes ⊢
      cases ending : performance.ending with
      | suspended => exact absurd ending goes
      | _ => rintro ⟨⟩
  | step id value =>
      obtain ⟨definition, defined, captures, rfl⟩ :=
        Slot.exists_definition_of_body found
      exact completes.steps definition defined _ host

namespace Executable.Completes

variable {spec : Spec Host} {executable : Executable Host}

end Executable.Completes

namespace Executable

/--
An attempt at a test reaches a slot in a running state, in which it goes on
with this slot and those behind it.
-/
inductive Plays (spec : Spec Host) (executable : Executable Host)
    (running : Running Host) : List (Slot Host) → Running Host → Prop where
  | start :
      Plays spec executable running executable.slots
        (running.start executable)
  | next {slot : Slot Host} {others : List (Slot Host)}
      {current later : Running Host}
      (plays : Plays spec executable running (slot :: others) current)
      (goes :
        executable.playSlot spec running.stage.next slot current =
          (none, later)) :
      Plays spec executable running others later

variable {spec : Spec Host} {executable : Executable Host}
variable {running current : Running Host} {slots : List (Slot Host)}

/-- The registry is in use wherever an attempt reaches a slot. -/
theorem Plays.active
    (plays : executable.Plays spec running slots current) :
    current.stage.active = true := by
  -- The queue is part of the induction since a slot is played by its turn
  -- only if it is the next one in the queue.
  suffices
      current.attempt.remaining = slots.map Slot.id ∧
        current.stage.active = true from this.2
  induction plays with
  | start => exact ⟨rfl, rfl⟩
  | @next slot others current later plays goes ih =>
      rw [playSlot_eq_settle spec executable _ slot others current ih.1]
        at goes
      by_cases passed :
          (received spec executable running.stage.next slot
            current).ending = .passed
      · simp only [settle, passed] at goes
        cases goes
        exact ⟨rfl, ih.2⟩
      · rw [settle_of_stopped _ slot others current passed] at goes
        cases goes

end Executable

/-! ## Whole runs -/

namespace Session

end Session

end ScenarioRunner
