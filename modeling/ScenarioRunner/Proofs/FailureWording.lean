import ScenarioRunner.Proofs.AttemptOutcome
import ScenarioRunner.Proofs.RunHistory

/-!
# How failures are told apart

What is reported about a failed attempt is read off the text of its failure.
A step is undefined if the text says so, and a hook is taken to have failed if
the text says so.  The texts of steps that no definition matches and of hooks
that fail do say so, and any other text may do so as well.

The main statement says so for all failed attempts of a run.
-/

namespace ScenarioRunner

variable {Host : Type}

/-! ## Texts -/

theorem Text.contains_iff (text pattern : String) :
    contains text pattern = true ↔ pattern.toList <:+: text.toList :=
  occursIn_iff pattern.toList text.toList

/-- The text that explains a missing definition is recognised. -/
theorem SearchHints.isMissingText_explain (hints : SearchHints)
    (interactive : Bool) (text : String) :
    Running.isMissingText (hints.explain interactive text) = true := by
  rw [Running.isMissingText, Text.contains_iff]
  apply List.IsPrefix.isInfix
  simp only [explain, toString, String.toList_append, List.append_assoc]
  exact List.prefix_append _ _

/-- The text of a failing hook is recognised. -/
theorem Failure.isHookText_of_isHook {failure : Failure}
    (hooked : failure.isHook = true) :
    Failure.isHookText failure.message = true := by
  cases failure with
  | hook keyword message =>
      have recognised :
          Text.contains (Failure.hook keyword message).message
            (hookSignature keyword) = true := by
        rw [Text.contains_iff]
        simp only [Failure.message, toString, String.toList_append]
        exact List.infix_append _ _ _
      cases keyword with
      | before => simp [isHookText, recognised]
      | after => simp [isHookText, recognised]
  | _ => cases hooked

/-! ## The slot at which an attempt fails -/

/-- No definition matches the text of the step of a slot. -/
def Slot.Unmatched (registry : Registry Host) : Slot Host → Prop
  | .hook .. => False
  | .step _ value => registry.matching value.text = []

/-- The first slot of a test that does not pass, from a running state on,
fails. -/
def Executable.FailsAt (spec : Spec Host) (executable : Executable Host)
    (running : Running Host) (slot : Slot Host) (failure : Failure) : Prop :=
  let started := running.stage.next
  ∃ before behind,
    executable.slots = before ++ slot :: behind ∧
      Slot.AllPass spec executable.pickle started before
        running.stage.host ∧
      (slot.turn spec executable.pickle started
        (Slot.hostBehind spec executable.pickle started before
          running.stage.host)).ending = .failed failure

/-- A step that no definition matches fails with a text that is recognised. -/
theorem Slot.Unmatched.isMissingText
    {spec : Spec Host} {pickle : Pickle Nat} {started : Nat}
    {slot : Slot Host} (unmatched : slot.Unmatched spec.registry)
    {host : Host} {failure : Failure}
    (fails : (slot.turn spec pickle started host).ending = .failed failure) :
    Running.isMissingText failure.message = true := by
  cases slot with
  | hook id value => exact unmatched.elim
  | step id value =>
      have unresolved :
          spec.registry.resolve value.text = .error (.missing value.text) := by
        simp only [Registry.resolve, show spec.registry.matching value.text = []
          from unmatched]
      have none :
          (Slot.step id value).body spec pickle started =
            .error (.missing
              (spec.hints.explain spec.interactive value.text)) := by
        simp only [body, unresolved]
        rfl
      rw [turn_of_error none] at fails
      cases fails
      exact SearchHints.isMissingText_explain _ _ _

namespace Executable

variable {spec : Spec Host} {executable : Executable Host}

/-- An attempt fails exactly if some slot fails behind those that pass. -/
theorem exists_failsAt_iff (running : Running Host) (failure : Failure) :
    (∃ slot, executable.FailsAt spec running slot failure) ↔
      (executable.body spec running).1 = .failed failure := by
  rw [ending_body, course]
  constructor
  · rintro ⟨slot, before, behind, split, all, fails⟩
    have stopped := fails.trans_ne (show _ ≠ SlotEnd.passed by rintro ⟨⟩)
    obtain ⟨ending, -, -⟩ :=
      all.ofSlots_stop stopped behind running.stage.stepRuns
    rw [split, ending, fails]
    rfl
  · intro failed
    rcases @Slot.allPass_or_stops Host spec executable.pickle
        running.stage.next executable.slots running.stage.host with
      all | ⟨before, slot, behind, split, all, stopped⟩
    · obtain ⟨ending, -, -⟩ :=
        all.ofSlots_append [] running.stage.stepRuns
      rw [List.append_nil, failed] at ending
      cases ending
    · obtain ⟨ending, -, -⟩ :=
        all.ofSlots_stop stopped behind running.stage.stepRuns
      rw [← split, failed] at ending
      have fails := (SlotEnd.attemptEnd_eq_failed_iff _ _).mp ending.symm
      exact ⟨slot, before, behind, split, all, fails⟩

end Executable

/-! ## Undefined steps -/

/-- Messages report a test step as finished with a status. -/
def Reports (messages : List (Envelope Nat)) (step : Nat)
    (status : Status) : Prop :=
  ∃ text, (step, status, text) ∈ messages.filterMap Envelope.status?

theorem SlotEnd.report?_ne_undefined {ending : SlotEnd}
    {report : Status × Option String}
    (reported : ending.report? = some report) :
    report.1 ≠ .undefined := by
  cases ending with
  | passed =>
      cases reported
      rintro ⟨⟩
  | pending =>
      cases reported
      rintro ⟨⟩
  | failed failure =>
      cases failure with
      | hook keyword message =>
          cases reported
          rintro ⟨⟩
      | _ => cases reported
  | suspended => cases reported

/-- An attempt reports no slot as undefined by itself. -/
theorem Course.status_ne_undefined
    {spec : Spec Host} {pickle : Pickle Nat} {started : Nat}
    {slots : List (Slot Host)} {host : Host} {runs : List StepRun}
    {report : SlotReport}
    (member :
      report ∈ (ofSlots spec pickle started slots host runs).reports) :
    report.status ≠ .undefined := by
  induction slots generalizing host runs with
  | nil => cases member
  | cons slot others ih =>
      by_cases passed : (slot.turn spec pickle started host).ending = .passed
      · rw [ofSlots_of_passed passed] at member
        rcases List.mem_cons.mp member with rfl | behind
        · rintro ⟨⟩
        · exact ih behind
      · rw [ofSlots_of_stopped passed] at member
        unfold stop at member
        split at member
        · rename_i status message reported
          rcases List.mem_cons.mp member with rfl | behind
          · exact SlotEnd.report?_ne_undefined reported
          · obtain ⟨step, -, rfl⟩ := List.mem_map.mp behind
            rintro ⟨⟩
        · cases member

/-- The messages that an attempt leaves show the statuses of its reports. -/
theorem Course.filterMap_status_envelopes (started : Nat)
    (course : Course Host) :
    (course.envelopes started).filterMap Envelope.status? =
      course.reports.map SlotReport.shown := by
  rw [envelopes, List.filterMap_append, SlotReport.filterMap_status]
  cases course.left with
  | nil => simp
  | cons step others => simp [SlotReport.filterMap_status_opening]

/--
The slot at which an attempt fails is reported as undefined exactly if the text
of its failure says so and does not read like that of a hook.
-/
theorem Executable.reports_undefined_iff
    {spec : Spec Host} {executable : Executable Host}
    {running : Running Host} {slot : Slot Host} {failure : Failure}
    (fails : executable.FailsAt spec running slot failure) :
    Reports (executable.messages spec running (some failure.message))
        slot.id .undefined ↔
      Running.isMissingText failure.message = true ∧
        Failure.isHookText failure.message = false := by
  obtain ⟨before, behind, split, all, fails⟩ := fails
  have framed :
      (executable.messages spec running (some failure.message)).filterMap
          Envelope.status? =
        ((executable.course spec running).messages running.stage.next
          (some failure.message)).filterMap Envelope.status? := by
    simp [messages, List.filterMap_cons, Envelope.status?]
  rw [Reports, framed, Course.messages, Option.any_some]
  -- A text that reads like that of a hook keeps `finish` from reporting the
  -- slot, and the attempt itself reports no slot as undefined.
  cases hooked : Failure.isHookText failure.message with
  | true =>
      simp only [↓reduceIte, Course.filterMap_status_envelopes, and_false,
        Bool.true_eq_false, iff_false]
      rintro ⟨text, member⟩
      obtain ⟨report, reported, shown⟩ := List.mem_map.mp member
      exact Course.status_ne_undefined reported (by simp_all [SlotReport.shown])
  | false =>
      have other : failure.isHook = false := by
        cases kind : failure.isHook with
        | true =>
            rw [Failure.isHookText_of_isHook kind] at hooked
            cases hooked
        | false => rfl
      have stopped := fails.trans_ne (show _ ≠ SlotEnd.passed by rintro ⟨⟩)
      obtain ⟨-, -, shown⟩ :=
        all.ofSlots_stop stopped behind running.stage.stepRuns
      rw [fails, SlotEnd.report?_of_not_hook other] at shown
      simp only [Bool.false_eq_true, ↓reduceIte,
        SlotReport.filterMap_status, course, split, shown,
        Option.getD_none, and_true]
      cases missing : Running.isMissingText failure.message with
      | true =>
          rw [Running.openStep_of_missing missing]
          simp only [iff_true]
          exact ⟨none, List.mem_append_right _ List.mem_cons_self⟩
      | false =>
          simp [Running.openStep_of_not_missing missing, Slot.status]

/-! ## Failed attempts of a run -/

namespace Trial

variable {spec : Spec Host} {newWorld : WorldMaker Host}
variable {executable : Executable Host} {trial : Trial Host}

/-- A new world is made for a trial, and the attempt in it fails. -/
def FailsWith (spec : Spec Host) (newWorld : WorldMaker Host)
    (executable : Executable Host) (trial : Trial Host)
    (failure : Failure) : Prop :=
  ∃ host,
    newWorld trial.before.stage.host = (.ok (), host) ∧
      (executable.body spec (trial.before.enter host)).1 =
        .failed failure

theorem failsWith_iff_of_world {host : Host}
    (world : newWorld trial.before.stage.host = (.ok (), host))
    (failure : Failure) :
    trial.FailsWith spec newWorld executable failure ↔
      (executable.body spec (trial.before.enter host)).1 =
        .failed failure := by
  constructor
  · rintro ⟨other, made, failed⟩
    rw [world] at made
    cases made
    exact failed
  · intro failed
    exact ⟨host, world, failed⟩

/-- A trial whose attempt fails is that attempt, finished with the text of its
failure. -/
theorem Made.after_of_fails
    (made : trial.Made spec newWorld executable) {host : Host}
    {failure : Failure}
    (world : newWorld trial.before.stage.host = (.ok (), host))
    (failed :
      (executable.body spec (trial.before.enter host)).1 =
        .failed failure) :
    trial.ended = .failed failure.message ∧
      trial.after =
        (executable.body spec (trial.before.enter host)).2.finish
          (some failure.message) := by
  cases made with
  | worldless none =>
      rw [none] at world
      cases world
  | @played before ended other ending made played complete =>
      rw [made] at world
      cases world
      rw [played] at failed ⊢
      cases failed
      exact ⟨rfl, rfl⟩

/-- A trial tells that a hook failed if its attempt fails with a text that reads
so. -/
theorem Made.hookFailure_iff
    (made : trial.Made spec newWorld executable) :
    trial.after.stage.hookFailure = true ↔
      trial.before.stage.hookFailure = true ∨
        ∃ failure, trial.FailsWith spec newWorld executable failure ∧
          Failure.isHookText failure.message = true := by
  cases made with
  | @worldless before host reason none =>
      constructor
      · exact Or.inl
      · rintro (told | ⟨failure, ⟨other, world, -⟩, -⟩)
        · exact told
        · rw [none] at world
          cases world
  | @played before ended host ending world played complete =>
      have finished :=
        executable.finish_body spec (before.enter host) ending.error?
      simp only [played] at finished
      have told :
          (ended.finish ending.error?).stage.hookFailure =
            (before.stage.hookFailure ||
              ending.error?.any Failure.isHookText) := by
        rw [finished]
        rfl
      have fails (failure : Failure) :
          FailsWith spec newWorld executable
              ⟨before, ending.testEnd, ended.finish ending.error?⟩
              failure ↔
            ending = .failed failure := by
        rw [failsWith_iff_of_world world, played]
      simp only [told, Bool.or_eq_true, fails]
      refine or_congr_right ?_
      cases ending with
      | failed failure => simp [AttemptEnd.error?]
      | done verdict => simp [AttemptEnd.error?]
      | suspended => simp [AttemptEnd.error?]

end Trial

/-- A test fails in a run with the failure of an attempt at it. -/
def TestHistory.FailsWith (spec : Spec Host) (newWorld : WorldMaker Host)
    (history : TestHistory Host) (failure : Failure) : Prop :=
  ∃ executable, history.test.executable = some executable ∧
    ∃ trial ∈ history.trials,
      trial.FailsWith spec newWorld executable failure

theorem TestHistory.Holds.hookFailure_iff
    {spec : Spec Host} {newWorld : WorldMaker Host} {retries : Nat}
    {history : TestHistory Host}
    (holds : history.Holds spec newWorld retries) :
    history.after.stage.hookFailure = true ↔
      history.before.stage.hookFailure = true ∨
        ∃ failure, history.FailsWith spec newWorld failure ∧
          Failure.isHookText failure.message = true := by
  cases holds with
  | skipped unexecuted => simp [FailsWith, unexecuted]
  | @tried test executable before after trials ended executed tried =>
      let told (running : Running Host) : Prop :=
        running.stage.hookFailure = true
      have each (trial : Trial Host) (member : trial ∈ trials) :
          told trial.after ↔ told trial.before ∨ _ :=
        (tried.made trial member).hookFailure_iff
      refine (tried.leads.raises_iff each).trans (or_congr_right ?_)
      simp only [FailsWith, executed]
      constructor
      · rintro ⟨trial, member, failure, failed, hooked⟩
        exact ⟨failure, ⟨executable, rfl, trial, member, failed⟩, hooked⟩
      · rintro ⟨failure, ⟨_, ⟨⟩, trial, member, failed⟩, hooked⟩
        exact ⟨trial, member, failure, failed, hooked⟩

/-! ## Whole runs -/

namespace Session

/--
In a run of all tests of a spec that comes to an end, a failed attempt reports
the slot at which it fails as undefined exactly if no definition matches its
step or the text of the failure says so all the same, unless the text reads like
the failure of a hook.  A hook is told to have failed exactly if that was told
before, a hook failed in some attempt, or an attempt failed otherwise with a
text that reads so.
-/
theorem failures_are_told_by_texts
    {spec : Spec Host} {session final : Session Host}
    (fits : session.attempts.length = spec.tests.length)
    {newWorld : WorldMaker Host} {retries : Nat} {summary : Summary}
    (run : session.run spec newWorld retries = (some summary, final)) :
    ∃ histories : List (TestHistory Host),
      RunHistory spec newWorld retries spec.tests session histories
          summary final ∧
        (∀ history ∈ histories, ∀ executable,
          history.test.executable = some executable →
            ∀ trial ∈ history.trials, ∀ host failure,
              newWorld trial.before.stage.host = (.ok (), host) →
              (executable.body spec (trial.before.enter host)).1 =
                  .failed failure →
                ∃ (slot : Slot Host) (messages : List (Envelope Nat)),
                  executable.FailsAt spec (trial.before.enter host) slot
                      failure ∧
                    trial.after.stage.messages =
                      trial.before.stage.messages ++ messages ∧
                    (Reports messages slot.id .undefined ↔
                      (slot.Unmatched spec.registry ∨
                          Running.isMissingText failure.message =
                            true) ∧
                        Failure.isHookText failure.message = false)) ∧
        (final.stage.hookFailure = true ↔
          session.stage.hookFailure = true ∨
            ∃ history ∈ histories, ∃ failure,
              history.FailsWith spec newWorld failure ∧
                (failure.isHook = true ∨
                  Failure.isHookText failure.message = true)) := by
  rcases runs :
      runTests spec newWorld retries spec.tests session.attempts
        session.stage with
    ⟨found, finalAttempts, finalStage⟩
  simp only [Session.run, runs] at run
  cases run
  obtain ⟨histories, history⟩ := exists_runHistory fits runs
  refine ⟨histories, history, ?_, ?_⟩
  · intro own member executable executed trial tried host failure world
      failed
    have made : trial.Made spec newWorld executable := by
      cases history.holds own member with
      | skipped unexecuted => cases tried
      | tried executes trials =>
          cases executes.symm.trans executed
          exact trials.made trial tried
    obtain ⟨slot, fails⟩ :=
      (Executable.exists_failsAt_iff (trial.before.enter host)
        failure).mpr failed
    have unmatched :
        slot.Unmatched spec.registry →
          Running.isMissingText failure.message = true := by
      intro unmatched
      obtain ⟨before, behind, -, -, turn⟩ := fails
      exact unmatched.isMissingText turn
    refine
      ⟨slot,
        executable.messages spec (trial.before.enter host)
          (some failure.message), fails, ?_, ?_⟩
    · rw [(made.after_of_fails world failed).2, Executable.finish_body]
      rfl
    · rw [or_iff_right_of_imp unmatched]
      exact Executable.reports_undefined_iff fails
  · let told (stage : Stage Host) : Prop := stage.hookFailure = true
    have each (own : TestHistory Host) (member : own ∈ histories) :
        told own.after.stage ↔ told own.before.stage ∨ _ :=
      (history.holds own member).hookFailure_iff
    have hooked (failure : Failure) :
        (failure.isHook = true ∨
            Failure.isHookText failure.message = true) ↔
          Failure.isHookText failure.message = true :=
      or_iff_right_of_imp Failure.isHookText_of_isHook
    simp only [hooked]
    exact history.leads.raises_iff each

/-- A step that fails in the words of a missing definition is reported as
undefined although a definition matches it, and one that fails in the words of
a hook is told to be a hook. -/
theorem failure_texts_are_mistaken :
    let newWorld (log : List String) := (Except.ok (), log)
    let missing := some (.failed SearchHints.missingSignature)
    let hook := some (.failed (Failure.hookSignature .before))
    let missingSpec := (Sample.composed missing "a step").1.1
    let hookSpec := (Sample.composed hook "a step").1.1
    ¬ (Reports
          ((Sample.session missing "a step").run missingSpec newWorld
            0).2.stage.messages 10 .undefined ↔
        missingSpec.registry.matching "a step" = []) ∧
      ¬ (((Sample.session hook "a step").run hookSpec newWorld
            0).2.stage.hookFailure = true ↔
        ∃ keyword message,
          ((Sample.executable "a step").body hookSpec
            ((Sample.session hook "a step").running 0)).1 =
              .failed (.hook keyword message)) := by
  intro newWorld missing hook missingSpec hookSpec
  constructor
  · intro same
    have reported : Reports
        ((Sample.session missing "a step").run missingSpec newWorld
          0).2.stage.messages 10 .undefined := ⟨none, by decide⟩
    cases same.mp reported
  · intro same
    obtain ⟨keyword, message, ended⟩ := same.mp (by decide)
    have failed :
        ((Sample.executable "a step").body hookSpec
          ((Sample.session hook "a step").running 0)).1 =
            .failed (.step (Failure.hookSignature .before)) := by decide
    rw [failed] at ended
    cases ended

/-- A test that fails at a step does not fail in a hook. -/
theorem failing_step_is_no_hook :
    let newWorld (log : List String) := (Except.ok (), log)
    let spec := (Sample.composed (some (.failed "no")) "a step").1.1
    let session := Sample.session (some (.failed "no")) "a step"
    let final := (session.run spec newWorld 0).2
    ∃ histories : List (TestHistory (List String)),
      RunHistory spec newWorld 0 spec.tests session histories
          { failed := 1, failures := [("B", "no")] } final ∧
        ∀ history ∈ histories, ∀ failure,
          history.FailsWith spec newWorld failure →
            failure.isHook = false := by
  intro newWorld spec session final
  have run :
      session.run spec newWorld 0 =
        (some { failed := 1, failures := [("B", "no")] }, final) :=
    Prod.ext (by decide) rfl
  obtain ⟨histories, history, -, told⟩ :=
    failures_are_told_by_texts rfl run
  refine ⟨histories, history, fun own member failure failed => ?_⟩
  cases hooked : failure.isHook with
  | false => rfl
  | true =>
      have untold : final.stage.hookFailure = false := by decide
      rw [told.mpr (Or.inr ⟨own, member, failure, failed, Or.inl hooked⟩)]
        at untold
      cases untold

end Session

end ScenarioRunner
