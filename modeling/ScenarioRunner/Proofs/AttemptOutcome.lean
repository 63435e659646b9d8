import ScenarioRunner.Proofs.Session

/-!
# The outcome of an attempt

An attempt runs the bodies of its slots in order, each once and in the host
that the one before it left, up to the first slot that does not pass.  That
slot decides how the attempt ends and how it is reported; the slots before it
passed, and those behind it are skipped without being run.

Since the host is arbitrary, a statement about the host behind an attempt says
which bodies ran: bodies that keep a log in the host leave exactly their lines
in it.
-/

namespace ScenarioRunner

variable {Host : Type}

/-! ## Slots that can be run -/

/--
A slot can be run if it is a hook, or a step that exactly one definition
matches and all of whose captures have values.
-/
def Slot.Runnable (registry : Registry Host) : Slot Host → Prop
  | .hook .. => True
  | .step _ value =>
      ∃ definition, registry.matching value.text = [definition] ∧
        ∀ capture ∈ (definition.expression.match? value.text).getD [],
          ∃ result, capture.value = .ok result

namespace StepDefinition

theorem exists_captured_iff (capture : Capture) :
    (∃ captured, StepDefinition.captured capture = .ok captured) ↔
      ∃ value, capture.value = .ok value := by
  unfold captured
  cases capture.value with
  | ok value => simp
  | error reason => simp

/-- The captures of a definition can be had if each of them can. -/
theorem exists_captures_iff (captures : List Capture) :
    (∃ captured, captures.mapM StepDefinition.captured = .ok captured) ↔
      ∀ capture ∈ captures, ∃ value, capture.value = .ok value := by
  induction captures with
  | nil => simp [pure, Except.pure]
  | cons capture others ih =>
      rw [List.mapM_cons, List.forall_mem_cons, ← ih,
        ← exists_captured_iff]
      cases StepDefinition.captured capture with
      | error error => simp [bind, Except.bind]
      | ok captured =>
          cases others.mapM StepDefinition.captured with
          | error error => simp [bind, Except.bind]
          | ok rest => simp [bind, Except.bind, pure, Except.pure]

end StepDefinition

/-- A slot has a body exactly if it can be run. -/
theorem Slot.exists_body_iff (spec : Spec Host) (pickle : Pickle Nat)
    (started : Nat) (slot : Slot Host) :
    (∃ body, slot.body spec pickle started = .ok body) ↔
      slot.Runnable spec.registry := by
  cases slot with
  | hook id hook => exact ⟨fun _ => trivial, fun _ => ⟨_, rfl⟩⟩
  | step id step =>
      unfold Slot.Runnable
      cases resolved : spec.registry.resolve step.text with
      | error reason =>
          have unmatched (definition : StepDefinition Host) :
              spec.registry.matching step.text ≠ [definition] := by
            rw [ne_eq, ← Registry.resolve_eq_ok_iff, resolved]
            exact nofun
          simp [Slot.body, resolved, unmatched]
      | ok definition =>
          have only :=
            (Registry.resolve_eq_ok_iff _ _ _).mp resolved
          have captured :=
            StepDefinition.exists_captures_iff
              ((definition.expression.match? step.text).getD [])
          simp only [only, List.cons.injEq, and_true,
            exists_eq_left', ← captured]
          simp only [Slot.body, resolved, StepDefinition.captures]
          cases List.mapM StepDefinition.captured
              ((definition.expression.match? step.text).getD []) with
          | error error => simp
          | ok captures => simp

/-! ## Running the bodies of slots -/

namespace Slot

variable {spec : Spec Host} {pickle : Pickle Nat} {started : Nat}

/-- The host behind the bodies of slots, as far as there are any. -/
def hostBehind (spec : Spec Host) (pickle : Pickle Nat) (started : Nat) :
    List (Slot Host) → Host → Host
  | [], host => host
  | slot :: others, host =>
      match slot.body spec pickle started with
      | .error _ => hostBehind spec pickle started others host
      | .ok body => hostBehind spec pickle started others (body host).host

/-- All slots have bodies that pass, each in the host that the one before it
left. -/
def AllPass (spec : Spec Host) (pickle : Pickle Nat) (started : Nat) :
    List (Slot Host) → Host → Prop
  | [], _ => True
  | slot :: others, host =>
      ∃ body, slot.body spec pickle started = .ok body ∧
        (body host).ending = .completed .passed ∧
        AllPass spec pickle started others (body host).host

theorem hostBehind_cons (slot : Slot Host) (others : List (Slot Host))
    (host : Host) :
    hostBehind spec pickle started (slot :: others) host =
      hostBehind spec pickle started others
        (slot.turn spec pickle started host).host := by
  cases found : slot.body spec pickle started with
  | error failure => simp [hostBehind, found, turn_of_error found]
  | ok body => simp [hostBehind, found, turn_of_ok found]

theorem hostBehind_append (early late : List (Slot Host)) (host : Host) :
    hostBehind spec pickle started (early ++ late) host =
      hostBehind spec pickle started late
        (hostBehind spec pickle started early host) := by
  induction early generalizing host with
  | nil => rfl
  | cons slot others ih =>
      rw [List.cons_append, hostBehind_cons, hostBehind_cons, ih]

theorem allPass_cons_iff (slot : Slot Host) (others : List (Slot Host))
    (host : Host) :
    AllPass spec pickle started (slot :: others) host ↔
      (slot.turn spec pickle started host).ending = .passed ∧
        AllPass spec pickle started others
          (slot.turn spec pickle started host).host := by
  rw [turn_passed_iff]
  constructor
  · rintro ⟨body, found, passed, rest⟩
    rw [turn_of_ok found]
    exact ⟨⟨body, found, passed⟩, rest⟩
  · rintro ⟨⟨body, found, passed⟩, rest⟩
    rw [turn_of_ok found] at rest
    exact ⟨body, found, passed, rest⟩

/-- Either all slots pass, or there is a first one that does not. -/
theorem allPass_or_stops (slots : List (Slot Host)) (host : Host) :
    AllPass spec pickle started slots host ∨
      ∃ before slot behind,
        slots = before ++ slot :: behind ∧
          AllPass spec pickle started before host ∧
          (slot.turn spec pickle started
            (hostBehind spec pickle started before host)).ending ≠ .passed := by
  induction slots generalizing host with
  | nil => exact Or.inl trivial
  | cons slot others ih =>
      by_cases passed : (slot.turn spec pickle started host).ending = .passed
      · rcases ih (slot.turn spec pickle started host).host with
          all | ⟨before, stopper, behind, split, all, stopped⟩
        · exact Or.inl ((allPass_cons_iff slot others host).mpr
            ⟨passed, all⟩)
        · refine Or.inr ⟨slot :: before, stopper, behind, ?_, ?_, ?_⟩
          · rw [split, List.cons_append]
          · exact (allPass_cons_iff slot before host).mpr ⟨passed, all⟩
          · rwa [hostBehind_cons]
      · exact Or.inr ⟨[], slot, others, rfl, trivial, passed⟩

end Slot

/-! ## Statuses -/

/-- The test step that a message reports as finished, with its status and
text. -/
def Envelope.status? : Envelope Nat → Option (Nat × Status × Option String)
  | .stepFinished step _ status _ message _ => some (step, status, message)
  | _ => none

namespace SlotReport

/-- The test step of a report with its status and text. -/
def shown (report : SlotReport) : Nat × Status × Option String :=
  (report.step, report.status, report.message)

/-- No status is shown up to the end of a test step. -/
theorem filterMap_status_opening (started step : Nat)
    (attachments : List Attachment) :
    (opening started step attachments).filterMap Envelope.status? = [] := by
  rw [List.filterMap_eq_nil_iff]
  intro message member
  rcases List.mem_cons.mp member with rfl | shown
  · rfl
  · obtain ⟨attached, -, rfl⟩ := List.mem_map.mp shown
    rfl

/-- The messages of reports show their statuses. -/
theorem filterMap_status (started : Nat) (reports : List SlotReport) :
    (reports.flatMap (envelopes started)).filterMap Envelope.status? =
      reports.map shown := by
  induction reports with
  | nil => rfl
  | cons report others ih =>
      rw [List.flatMap_cons, List.filterMap_append, ih, envelopes,
        List.filterMap_append, filterMap_status_opening]
      rfl

end SlotReport

/-- The status of a slot that is reported without a text. -/
def Slot.status (status : Status) (slot : Slot Host) :
    Nat × Status × Option String :=
  (slot.id, status, none)

namespace Slot.AllPass

variable {spec : Spec Host} {pickle : Pickle Nat} {started : Nat}

/-- The course of slots goes on behind those that pass. -/
theorem ofSlots_append
    {before : List (Slot Host)} {host : Host}
    (all : AllPass spec pickle started before host)
    (others : List (Slot Host)) (runs : List StepRun) :
    let course :=
      Course.ofSlots spec pickle started (before ++ others) host runs
    let rest :=
      Course.ofSlots spec pickle started others
        (hostBehind spec pickle started before host)
        (runs ++ before.map (Slot.run started))
    course.ending = rest.ending ∧
      course.host = rest.host ∧
      ∀ error, (course.completed error).map SlotReport.shown =
        before.map (Slot.status .passed) ++
          (rest.completed error).map SlotReport.shown := by
  induction before generalizing host runs with
  | nil => simp [hostBehind]
  | cons slot before ih =>
      obtain ⟨passed, behind⟩ :=
        (allPass_cons_iff slot before host).mp all
      obtain ⟨ending, final, shown⟩ := ih behind (runs ++ [slot.run started])
      have runsBehind :
          runs ++ (slot :: before).map (Slot.run started) =
            runs ++ [slot.run started] ++ before.map (Slot.run started) := by
        simp
      rw [List.cons_append, Course.ofSlots_of_passed passed,
        hostBehind_cons, runsBehind]
      refine ⟨ending, final, fun error => ?_⟩
      rw [Course.completed_prepend, List.map_cons, shown]
      rfl

/-- The course of slots ends with the first that does not pass. -/
theorem ofSlots_stop
    {before : List (Slot Host)} {host : Host}
    (all : AllPass spec pickle started before host) {slot : Slot Host}
    (stopped :
      (slot.turn spec pickle started
        (hostBehind spec pickle started before host)).ending ≠ .passed)
    (behind : List (Slot Host)) (runs : List StepRun) :
    let course :=
      Course.ofSlots spec pickle started (before ++ slot :: behind) host runs
    let turn :=
      slot.turn spec pickle started
        (hostBehind spec pickle started before host)
    course.ending = turn.ending.attemptEnd ∧
      course.host = turn.host ∧
      ∀ error, (course.completed error).map SlotReport.shown =
        before.map (Slot.status .passed) ++
          (slot.id,
            turn.ending.report?.getD (Running.openStep error)) ::
            behind.map (Slot.status .skipped) := by
  obtain ⟨ending, final, shown⟩ := all.ofSlots_append (slot :: behind) runs
  rw [Course.ofSlots_of_stopped stopped] at ending final
  refine
    ⟨ending.trans (Course.ending_stop slot behind _),
      final.trans (Course.host_stop slot behind _), fun error => ?_⟩
  rw [shown, Course.ofSlots_of_stopped stopped, Course.completed_stop]
  simp [SlotReport.shown, SlotReport.skipped, Slot.status,
    Function.comp_def]

end Slot.AllPass

/-! ## The slot that ends an attempt -/

namespace Slot

variable {spec : Spec Host} {pickle : Pickle Nat} {started : Nat}

/--
How an attempt ends with a slot that comes to its end but does not pass: the
end of the attempt, and the status and the text that the slot is reported with.
-/
inductive Stops (spec : Spec Host) (pickle : Pickle Nat) (started : Nat)
    (host : Host) :
    Slot Host → AttemptEnd → Status × Option String → Prop where
  | pending {id : Nat} {value : PickleStep Nat}
      (ends : ((Slot.step id value).turn spec pickle started host).ending =
        .pending) :
      Stops spec pickle started host (.step id value) (.done .skipped)
        (.pending, none)
  /-- A step fails with a text that says that no definition matches. -/
  | undefined {id : Nat} {value : PickleStep Nat} {failure : Failure}
      (ends : ((Slot.step id value).turn spec pickle started host).ending =
        .failed failure)
      (missing : Running.isMissingText failure.message = true) :
      Stops spec pickle started host (.step id value) (.failed failure)
        (.undefined, none)
  /-- A step fails with another text. -/
  | failed {id : Nat} {value : PickleStep Nat} {failure : Failure}
      (ends : ((Slot.step id value).turn spec pickle started host).ending =
        .failed failure)
      (other : Running.isMissingText failure.message = false) :
      Stops spec pickle started host (.step id value) (.failed failure)
        (.failed, some failure.message)
  | hook {id : Nat} {value : Hook Host} {text : String}
      (ends : ((Slot.hook id value).turn spec pickle started host).ending =
        .failed (.hook value.keyword text)) :
      Stops spec pickle started host (.hook id value)
        (.failed (.hook value.keyword text)) (.failed, some text)

/-- A hook passes, fails as a hook, or is suspended. -/
theorem ending_turn_hook (id : Nat) (value : Hook Host) (host : Host) :
    let ending := ((Slot.hook id value).turn spec pickle started host).ending
    ending = .passed ∨
      (∃ text, ending = .failed (.hook value.keyword text)) ∨
      ending = .suspended := by
  simp only [turn, body, hookBody]
  generalize value.body { scope := .inTest pickle started id none
                          keyword := value.keyword } host = performance
  cases performance.ending with
  | completed result => exact Or.inl rfl
  | failed message => exact Or.inr (Or.inl ⟨message, rfl⟩)
  | panicked message => exact Or.inr (Or.inl ⟨panicText message, rfl⟩)
  | suspended => exact Or.inr (Or.inr rfl)

/-- A step does not fail as a hook. -/
theorem isHook_of_turn_step {id : Nat} {value : PickleStep Nat}
    {host : Host} {failure : Failure}
    (ends : ((Slot.step id value).turn spec pickle started host).ending =
      .failed failure) :
    failure.isHook = false := by
  rcases Executable.run_cases_body spec pickle started id value with
    ⟨error, none, -⟩ | ⟨body, found, -⟩
  · rw [turn_of_error none] at ends
    cases ends
    exact Executable.isHook_runFailure spec value.text error
  · rw [turn_of_ok found] at ends
    cases ending : (body host).ending with
    | completed outcome =>
        cases outcome <;> simp [ended, ending] at ends
    | failed message =>
        simp only [ended, ending, SlotEnd.failed.injEq] at ends
        subst ends
        rfl
    | panicked message =>
        simp only [ended, ending, SlotEnd.failed.injEq] at ends
        subst ends
        rfl
    | suspended => simp [ended, ending] at ends

/-- A slot that does not pass ends the attempt, unless it is suspended. -/
theorem stops_of_not_passed (slot : Slot Host) (host : Host)
    (stopped : (slot.turn spec pickle started host).ending ≠ .passed)
    (complete : (slot.turn spec pickle started host).ending ≠ .suspended) :
    let ending := (slot.turn spec pickle started host).ending
    Stops spec pickle started host slot ending.attemptEnd
      (ending.report?.getD
        (Running.openStep ending.attemptEnd.error?)) := by
  cases slot with
  | hook id value =>
      rcases ending_turn_hook id value host with
        passed | ⟨text, failed⟩ | suspended
      · exact absurd passed stopped
      · simp only [failed]
        exact .hook failed
      · exact absurd suspended complete
  | step id value =>
      cases ends :
          ((Slot.step id value).turn spec pickle started host).ending with
      | passed => exact absurd ends stopped
      | pending => exact .pending ends
      | failed failure =>
          have unreported :=
            SlotEnd.report?_of_not_hook (isHook_of_turn_step ends)
          simp only [unreported, Option.getD_none, SlotEnd.attemptEnd,
            AttemptEnd.error?]
          cases missing : Running.isMissingText failure.message with
          | true =>
              rw [Running.openStep_of_missing missing]
              exact .undefined ends missing
          | false =>
              rw [Running.openStep_of_not_missing missing]
              exact .failed ends missing
      | suspended => exact absurd ends complete

end Slot

/-! ## Whole attempts -/

/--
A run of slots from a host on stops at an index, which is the number of slots
if all of them pass.
-/
structure Slot.StopAt (spec : Spec Host) (pickle : Pickle Nat)
    (started : Nat) (slots : List (Slot Host)) (host : Host) (stop : Nat)
    (final : Host) (ending : AttemptEnd)
    (statuses : List (Nat × Status × Option String)) : Prop where
  bound : stop ≤ slots.length
  passes : Slot.AllPass spec pickle started (slots.take stop) host
  /-- The slots up to the index are run, and those behind it are not. -/
  final :
    final = Slot.hostBehind spec pickle started (slots.take (stop + 1)) host
  /-- The slot at the index decides how the attempt ends and is reported. -/
  ends :
    match slots[stop]? with
    | none =>
        ending = .done .passed ∧ statuses = slots.map (Slot.status .passed)
    | some slot =>
        ∃ report,
          Slot.Stops spec pickle started
            (Slot.hostBehind spec pickle started (slots.take stop) host) slot
            ending report ∧
          statuses =
            (slots.take stop).map (Slot.status .passed) ++
              (slot.id, report) ::
                (slots.drop (stop + 1)).map (Slot.status .skipped)

/-- A course that is not suspended stops somewhere. -/
theorem Course.exists_stopAt
    (spec : Spec Host) (pickle : Pickle Nat) (started : Nat)
    (slots : List (Slot Host)) (host : Host) (runs : List StepRun)
    (complete :
      (ofSlots spec pickle started slots host runs).ending ≠ .suspended) :
    let course := ofSlots spec pickle started slots host runs
    ∃ stop,
      Slot.StopAt spec pickle started slots host stop course.host course.ending
        ((course.completed course.ending.error?).map
          SlotReport.shown) := by
  intro course
  rcases @Slot.allPass_or_stops Host spec pickle started slots host with
    all | ⟨before, slot, behind, rfl, all, stopped⟩
  · have behind := all.ofSlots_append [] runs
    rw [List.append_nil] at behind
    obtain ⟨ending, final, shown⟩ := behind
    refine ⟨slots.length, Nat.le_refl _, ?_, ?_, ?_⟩
    · rwa [List.take_length]
    · rw [List.take_of_length_le (Nat.le_succ _)]
      exact final
    · simp only [List.getElem?_length]
      refine ⟨ending, (shown _).trans ?_⟩
      simp [ofSlots, completed]
  · obtain ⟨ending, final, shown⟩ := all.ofSlots_stop stopped behind runs
    rw [ending, ne_eq, SlotEnd.attemptEnd_eq_suspended_iff] at complete
    have stops := slot.stops_of_not_passed _ stopped complete
    -- The index of the slot is the number of those before it.
    have upTo :
        (before ++ slot :: behind).take (before.length + 1) =
          before ++ [slot] := by
      rw [List.append_cons, List.take_left' (by simp)]
    have beyond :
        (before ++ slot :: behind).drop (before.length + 1) = behind := by
      rw [List.append_cons, List.drop_left' (by simp)]
    have among :
        (before ++ slot :: behind)[before.length]? = some slot := by
      simp
    refine ⟨before.length, by simp, ?_, ?_, ?_⟩
    · rwa [List.take_left]
    · rw [upTo, Slot.hostBehind_append, Slot.hostBehind_cons]
      exact final
    · simp only [among, List.take_left, beyond]
      have ends : course.ending = _ := ending
      rw [ends]
      exact ⟨_, stops, shown _⟩

/--
The text of a failure that is not one of a hook does not read as if it were.
-/
def AttemptEnd.Recognised (ending : AttemptEnd) : Prop :=
  ∀ failure, ending = .failed failure → failure.isHook = false →
    Failure.isHookText failure.message = false

namespace Executable

/-- The messages of a finished attempt show the statuses of its slots. -/
theorem filterMap_status_messages
    (spec : Spec Host) (executable : Executable Host)
    (running : Running Host)
    (recognised : (executable.course spec running).ending.Recognised) :
    let course := executable.course spec running
    (executable.messages spec running course.ending.error?).filterMap
        Envelope.status? =
      (course.completed course.ending.error?).map SlotReport.shown := by
  intro course
  have complete :
      course.ending.error?.any Failure.isHookText = true →
        course.left = [] := by
    cases ended : course.ending with
    | done verdict => exact nofun
    | suspended => exact nofun
    | failed failure =>
        cases kind : failure.isHook with
        | true =>
            cases failure with
            | hook keyword message =>
                exact fun _ => Course.left_of_hook ended
            | _ => cases kind
        | false =>
            have other := recognised failure ended kind
            simp [AttemptEnd.error?, other]
  rw [messages, Course.messages_eq_completed _ _ complete,
    List.filterMap_append, List.filterMap_cons,
    SlotReport.filterMap_status]
  simp [Envelope.status?, course]

/--
An attempt at a test of a composed spec that comes to its end has run the slots
of the test, which are the matching hooks and the steps of its pickle, up to one
at which it stops, and reports every slot as this one demands.
-/
theorem attempt_stops_at_slot
    {registry : Registry Host} {source : String} {document : Document Nat}
    {pickles : List (Pickle Nat)} {options : ComposeOptions}
    {first next : Nat} {spec : Spec Host}
    {collected : List (Envelope Nat)}
    (composed :
      (Spec.compose registry source document pickles options).run first =
        ((spec, collected), next))
    {index : Nat} {executable : Executable Host}
    (executes : Session.Executes spec index executable)
    {running ended : Running Host} {ending : AttemptEnd}
    (played : executable.body spec running = (ending, ended))
    (complete : ending ≠ .suspended) (recognised : ending.Recognised) :
    executable.slots.map Slot.work = executable.pickle.work registry ∧
      (∀ slot : Slot Host,
        (∃ body,
          slot.body spec executable.pickle running.stage.next = .ok body) ↔
          slot.Runnable registry) ∧
      ∃ (stop : Nat) (messages : List (Envelope Nat)),
        (ended.finish ending.error?).stage.messages =
            running.stage.messages ++ messages ∧
          Slot.StopAt spec executable.pickle running.stage.next
            executable.slots running.stage.host stop
            (ended.finish ending.error?).stage.host ending
            (messages.filterMap Envelope.status?) := by
  obtain ⟨test, listed, executed⟩ := executes
  obtain ⟨testCase, -, describes, -, -⟩ :=
    Spec.exists_testCase composed (List.mem_of_getElem? listed) executed
  have same := Spec.registry_of_compose composed
  have course : (executable.course spec running).ending = ending := by
    rw [← ending_body, played]
  subst course
  have finished :=
    executable.finish_body spec running
      (executable.course spec running).ending.error?
  simp only [played] at finished
  obtain ⟨stop, stops⟩ :=
    Course.exists_stopAt spec executable.pickle running.stage.next
      executable.slots running.stage.host running.stage.stepRuns complete
  refine
    ⟨describes.work, fun slot => ?_, stop,
      executable.messages spec running
        (executable.course spec running).ending.error?, ?_, ?_⟩
  · rw [← same]
    exact slot.exists_body_iff spec executable.pickle running.stage.next
  · rw [finished]
  · rw [finished, executable.filterMap_status_messages spec running
      recognised]
    exact stops

/-- An attempt stops at a step that fails: its log ends there. -/
theorem attempt_stops_at_failing_step :
    let ending := some (.failed "no")
    let spec := (Sample.composed ending "a step").1.1
    let running := (Sample.session ending "a step").running 0
    let executable := Sample.executable "a step"
    let after := (executable.body spec running).2.finish (some "no")
    after.stage.host = ["Before", "step"] ∧
      ∃ (stop : Nat) (messages : List (Envelope Nat)),
        after.stage.messages = running.stage.messages ++ messages ∧
          Slot.StopAt spec executable.pickle running.stage.next
            executable.slots [] stop after.stage.host (.failed (.step "no"))
            (messages.filterMap Envelope.status?) := by
  intro ending spec running executable after
  have composed :
      (Spec.compose (Sample.registry ending) "" Sample.document
          [Sample.pickle "a step"] {}).run 9 =
        ((spec, running.stage.messages), 14) := rfl
  have executes : Session.Executes spec 0 executable := ⟨_, rfl, rfl⟩
  have played :
      executable.body spec running =
        (.failed (.step "no"), (executable.body spec running).2) :=
    Prod.ext (by decide) rfl
  have recognised :
      (AttemptEnd.failed (.step "no")).Recognised := by
    rintro failure ⟨⟩ -
    decide
  have stops :=
    attempt_stops_at_slot composed executes played nofun recognised
  exact ⟨by decide, stops.2.2⟩

end Executable

end ScenarioRunner
