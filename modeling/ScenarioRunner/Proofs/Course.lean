import ScenarioRunner.Test.Attempt

/-!
# The course of an attempt

An attempt hands a running state from slot to slot.  What it does with a slot
depends on the host alone, and what it attaches there is reported if the run
that it goes to has been started.  So the whole attempt has a course: the
reports of the slots that it completes by itself, the slots that it leaves
open, how it ends, and the host behind it.

The main statement is `Executable.body_eq_course`: an attempt changes the
running state exactly as its course says.  The queue of remaining test steps
takes no part in choosing what runs next, and the invariant that carries the
induction is that it always lists the slots that are still to come.
-/

namespace ScenarioRunner

variable {Host : Type}

/-! ## The turn of a slot -/

/-- A result, changed by a function if there is one. -/
def Ending.map {First Second : Type} (change : First → Second) :
    Ending First → Ending Second
  | .completed result => .completed (change result)
  | .failed message => .failed message
  | .panicked message => .panicked message
  | .suspended => .suspended

/-- How the turn of a slot ends. -/
inductive SlotEnd where
  | passed
  | pending
  | failed (failure : Failure)
  | suspended
  deriving DecidableEq, Repr

/-- What the turn of a slot comes to. -/
structure Turn (Host : Type) where
  host : Host
  attachments : List Attachment
  ending : SlotEnd

/-- A turn of whose attachments those are left that go to some runs. -/
def Turn.receive (turn : Turn Host) (runs : List StepRun) : Turn Host :=
  { turn with
    attachments := turn.attachments.filter (·.target ∈ runs) }

@[simp]
theorem Turn.host_receive (turn : Turn Host) (runs : List StepRun) :
    (turn.receive runs).host = turn.host := rfl

@[simp]
theorem Turn.ending_receive (turn : Turn Host) (runs : List StepRun) :
    (turn.receive runs).ending = turn.ending := rfl

/-- Whether a failure is that of a hook. -/
def Failure.isHook : Failure → Bool
  | .hook .. => true
  | _ => false

namespace Slot

/-- The run of the test step of a slot in an attempt. -/
def run (started : Nat) (slot : Slot Host) : StepRun := ⟨slot.id, started⟩

/-- The body of a hook as that of a step that passes unless it fails. -/
def hookBody (pickle : Pickle Nat) (started id : Nat) (hook : Hook Host)
    (host : Host) : Performance Host Outcome :=
  let performance :=
    hook.body
      { scope := .inTest pickle started id none, keyword := hook.keyword }
      host
  { performance with
    ending := performance.ending.map fun _ => Outcome.passed }

/--
The body that runs for a slot in an attempt, or why there is none.  It does not
depend on the host.
-/
def body (spec : Spec Host) (pickle : Pickle Nat) (started : Nat) :
    Slot Host → Except Failure (Host → Performance Host Outcome)
  | .hook id value => .ok (hookBody pickle started id value)
  | .step id value =>
      match spec.registry.resolve value.text with
      | .error reason =>
          .error (Executable.runFailure spec value.text (.unresolved reason))
      | .ok definition =>
          match definition.captures value.text with
          | .error error =>
              .error (Executable.runFailure spec value.text error)
          | .ok captures =>
              .ok (definition.body {
                scope := .inTest pickle started id (some value)
                captures
                argument := value.stepArgument })

/-- The body that runs for a step is that of a definition. -/
theorem exists_definition_of_body
    {spec : Spec Host} {pickle : Pickle Nat} {started id : Nat}
    {step : PickleStep Nat} {found : Host → Performance Host Outcome}
    (runs : (Slot.step id step).body spec pickle started = .ok found) :
    ∃ definition ∈ spec.registry.steps, ∃ captures,
      found = definition.body
        { scope := .inTest pickle started id (some step)
          captures
          argument := step.stepArgument } := by
  simp only [body] at runs
  cases resolved : spec.registry.resolve step.text with
  | error reason => simp [resolved] at runs
  | ok definition =>
      have only := (Registry.resolve_eq_ok_iff _ _ _).mp resolved
      have among : definition ∈ spec.registry.matching step.text := by
        rw [only]
        exact List.mem_singleton_self definition
      cases captured : definition.captures step.text with
      | error error => simp [resolved, captured] at runs
      | ok captures =>
          simp only [resolved, captured, Except.ok.injEq] at runs
          exact ⟨definition, (List.mem_filter.mp among).1, captures,
            runs.symm⟩

/-- The failure of a slot whose body fails with a text. -/
def failure : Slot Host → String → Failure
  | .hook _ value, message => .hook value.keyword message
  | .step .., message => .step message

/-- The failure of a slot whose body stops abnormally with a text. -/
def panic : Slot Host → String → Failure
  | .hook _ value, message => .hook value.keyword message
  | .step .., message => .panic message

/-- How the turn of a slot ends whose body has run. -/
def ended (slot : Slot Host) : Ending Outcome → SlotEnd
  | .completed .passed => .passed
  | .completed .pending => .pending
  | .failed message => .failed (slot.failure message)
  | .panicked message => .failed (slot.panic (panicText message))
  | .suspended => .suspended

/-- What the turn of a slot comes to. -/
def turn (spec : Spec Host) (pickle : Pickle Nat) (started : Nat)
    (slot : Slot Host) (host : Host) : Turn Host :=
  match slot.body spec pickle started with
  | .error failure => ⟨host, [], .failed failure⟩
  | .ok body =>
      let performance := body host
      ⟨performance.host, performance.attachments,
        slot.ended performance.ending⟩

theorem turn_of_error
    {spec : Spec Host} {pickle : Pickle Nat} {started : Nat}
    {slot : Slot Host} {failure : Failure}
    (none : slot.body spec pickle started = .error failure) (host : Host) :
    slot.turn spec pickle started host = ⟨host, [], .failed failure⟩ := by
  simp [turn, none]

theorem turn_of_ok
    {spec : Spec Host} {pickle : Pickle Nat} {started : Nat}
    {slot : Slot Host} {body : Host → Performance Host Outcome}
    (found : slot.body spec pickle started = .ok body) (host : Host) :
    slot.turn spec pickle started host =
      ⟨(body host).host, (body host).attachments,
        slot.ended (body host).ending⟩ := by
  simp [turn, found]

/-- A slot passes exactly if it has a body that passes. -/
theorem turn_passed_iff
    (spec : Spec Host) (pickle : Pickle Nat) (started : Nat)
    (slot : Slot Host) (host : Host) :
    (slot.turn spec pickle started host).ending = .passed ↔
      ∃ body, slot.body spec pickle started = .ok body ∧
        (body host).ending = .completed .passed := by
  cases found : slot.body spec pickle started with
  | error failure => simp [turn_of_error found]
  | ok body =>
      rw [turn_of_ok found]
      constructor
      · intro passed
        refine ⟨body, rfl, ?_⟩
        cases ending : (body host).ending with
        | completed outcome =>
            cases outcome with
            | passed => rfl
            | pending => simp [ended, ending] at passed
        | failed message => simp [ended, ending] at passed
        | panicked message => simp [ended, ending] at passed
        | suspended => simp [ended, ending] at passed
      · rintro ⟨_, ⟨⟩, passed⟩
        simp [ended, passed]

end Slot

/-! ## Reports of slots -/

/-- The test step and the attempt that a message is about. -/
def Envelope.about? {Id : Type} : Envelope Id → Option (Id × Id)
  | .stepStarted step started _ => some (step, started)
  | .stepFinished step started .. => some (step, started)
  | .attachment started step .. => some (step, started)
  | _ => none

/-- The run of a test step to which a message says that something is
attached. -/
def Envelope.attachedTo? : Envelope Nat → Option StepRun
  | .attachment started step .. => some ⟨step, started⟩
  | _ => none

/-- What is reported about a slot: what was attached and how it finished. -/
structure SlotReport where
  step : Nat
  attachments : List Attachment
  status : Status
  message : Option String
  deriving DecidableEq, Repr

namespace SlotReport

/-- The messages about a test step up to its end. -/
def opening (started step : Nat) (attachments : List Attachment) :
    List (Envelope Nat) :=
  .stepStarted step started {} :: attachments.map Attachment.envelope

/--
The messages about a test step: that it starts, what is attached, and that it
has finished.
-/
def envelopes (started : Nat) (report : SlotReport) : List (Envelope Nat) :=
  opening started report.step report.attachments ++
    [Running.finishedEnvelope started report.step report.status
      report.message]

/-- A message up to the end of a test step is about it, or about another run to
which something is attached. -/
theorem about?_of_mem_opening
    {started step : Nat} {attachments : List Attachment}
    {envelope : Envelope Nat}
    (member : envelope ∈ opening started step attachments) :
    envelope.about? = some (step, started) ∨
      ∃ attached ∈ attachments, envelope = attached.envelope := by
  rcases List.mem_cons.mp member with rfl | shown
  · exact Or.inl rfl
  · obtain ⟨attached, listed, same⟩ := List.mem_map.mp shown
    exact Or.inr ⟨attached, listed, same.symm⟩

theorem about?_of_mem_envelopes
    {started : Nat} {report : SlotReport} {envelope : Envelope Nat}
    (member : envelope ∈ report.envelopes started) :
    envelope.about? = some (report.step, started) ∨
      ∃ attached ∈ report.attachments, envelope = attached.envelope := by
  rcases List.mem_append.mp member with opened | closed
  · exact about?_of_mem_opening opened
  · cases List.mem_singleton.mp closed
    exact Or.inl rfl

/-- The messages up to the end of a test step start its run and no other. -/
theorem stepRuns_opening (started step : Nat)
    (attachments : List Attachment) :
    (opening started step attachments).filterMap Envelope.stepRun? =
      [⟨step, started⟩] := by
  have silent :
      (attachments.map Attachment.envelope).filterMap Envelope.stepRun? =
        [] := by
    rw [List.filterMap_map, List.filterMap_eq_nil_iff]
    exact fun _ _ => rfl
  simp [opening, Envelope.stepRun?, silent]

theorem stepRuns_envelopes (started : Nat) (report : SlotReport) :
    (report.envelopes started).filterMap Envelope.stepRun? =
      [⟨report.step, started⟩] := by
  rw [envelopes, List.filterMap_append, stepRuns_opening]
  rfl

/-- The report of a test step that is skipped. -/
def skipped (step : Nat) : SlotReport := ⟨step, [], .skipped, none⟩

@[simp]
theorem step_skipped (step : Nat) : (skipped step).step = step := rfl

@[simp]
theorem envelopes_skipped (started step : Nat) :
    (skipped step).envelopes started =
      Running.skipEnvelopes started step := rfl

theorem cases_of_mem_skip {started step : Nat} {message : Envelope Nat}
    (member : message ∈ Running.skipEnvelopes started step) :
    message = .stepStarted step started {} ∨
      message = Running.finishedEnvelope started step .skipped none := by
  simpa [Running.skipEnvelopes] using member

/-- Skipping test steps is reporting each of them as skipped. -/
theorem flatMap_skipped (started : Nat) (steps : List Nat) :
    (steps.map skipped).flatMap (envelopes started) =
      steps.flatMap (Running.skipEnvelopes started) := by
  rw [List.flatMap_map]
  rfl

end SlotReport

namespace SlotEnd

/-- How an attempt ends that ends with a slot. -/
def attemptEnd : SlotEnd → AttemptEnd
  | .passed => .done .passed
  | .pending => .done .skipped
  | .failed failure => .failed failure
  | .suspended => .suspended

@[simp]
theorem attemptEnd_eq_suspended_iff (ending : SlotEnd) :
    ending.attemptEnd = .suspended ↔ ending = .suspended := by
  cases ending <;> simp [attemptEnd]

@[simp]
theorem attemptEnd_eq_failed_iff (ending : SlotEnd) (failure : Failure) :
    ending.attemptEnd = .failed failure ↔ ending = .failed failure := by
  cases ending <;> simp [attemptEnd]

/--
The status and the text by which an attempt reports the end of a slot.  It
leaves it to `finish` to report a slot that is suspended or fails otherwise
than by a hook.
-/
def report? : SlotEnd → Option (Status × Option String)
  | .passed => some (.passed, none)
  | .pending => some (.pending, none)
  | .failed (.hook _ message) => some (.failed, some message)
  | .failed _ => none
  | .suspended => none

theorem report?_of_not_hook {failure : Failure}
    (other : failure.isHook = false) :
    (SlotEnd.failed failure).report? = none := by
  cases failure with
  | hook keyword message => cases other
  | _ => rfl

end SlotEnd

/-! ## Courses -/

/-- What an attempt makes of the slots that are still to come. -/
structure Course (Host : Type) where
  /-- The host behind the slots. -/
  host : Host
  /-- The reports of the slots that are reported as finished. -/
  reports : List SlotReport
  /-- The test steps of the other slots, the first of which has started. -/
  left : List Nat
  /-- What was attached to the first of these. -/
  attachments : List Attachment
  ending : AttemptEnd

namespace Course

/-- The messages about the slots. -/
def envelopes (started : Nat) (course : Course Host) :
    List (Envelope Nat) :=
  course.reports.flatMap (SlotReport.envelopes started) ++
    match course.left with
    | [] => []
    | step :: _ => SlotReport.opening started step course.attachments

/-- A course with the report of one more slot in front. -/
def prepend (report : SlotReport) (course : Course Host) : Course Host :=
  { course with reports := report :: course.reports }

theorem envelopes_prepend (started : Nat) (report : SlotReport)
    (course : Course Host) :
    (course.prepend report).envelopes started =
      report.envelopes started ++ course.envelopes started := by
  simp [envelopes, prepend]

/-- The course that comes to its end with the turn of a slot. -/
def stop (slot : Slot Host) (others : List (Slot Host)) (turn : Turn Host) :
    Course Host :=
  match turn.ending.report? with
  | some (status, message) =>
      { host := turn.host
        reports :=
          ⟨slot.id, turn.attachments, status, message⟩ ::
            (others.map Slot.id).map SlotReport.skipped
        left := []
        attachments := []
        ending := turn.ending.attemptEnd }
  | none =>
      { host := turn.host
        reports := []
        left := slot.id :: others.map Slot.id
        attachments := turn.attachments
        ending := turn.ending.attemptEnd }

theorem ending_stop (slot : Slot Host) (others : List (Slot Host))
    (turn : Turn Host) :
    (stop slot others turn).ending = turn.ending.attemptEnd := by
  unfold stop
  split <;> rfl

theorem host_stop (slot : Slot Host) (others : List (Slot Host))
    (turn : Turn Host) :
    (stop slot others turn).host = turn.host := by
  unfold stop
  split <;> rfl

/-- The course of slots, from a host on, if some runs have been started. -/
def ofSlots (spec : Spec Host) (pickle : Pickle Nat) (started : Nat) :
    List (Slot Host) → Host → List StepRun → Course Host
  | [], host, _ =>
      { host, reports := [], left := [], attachments := []
        ending := .done .passed }
  | slot :: others, host, runs =>
      let runs := runs ++ [slot.run started]
      let turn := (slot.turn spec pickle started host).receive runs
      if turn.ending = .passed then
        (ofSlots spec pickle started others turn.host runs).prepend
          ⟨slot.id, turn.attachments, .passed, none⟩
      else stop slot others turn

section Passing

variable {spec : Spec Host} {pickle : Pickle Nat} {started : Nat}
variable {slot : Slot Host} {host : Host}

/-- The course goes on behind a slot that passes. -/
theorem ofSlots_of_passed
    (passed : (slot.turn spec pickle started host).ending = .passed)
    (others : List (Slot Host)) (runs : List StepRun) :
    ofSlots spec pickle started (slot :: others) host runs =
      (ofSlots spec pickle started others
        (slot.turn spec pickle started host).host
        (runs ++ [slot.run started])).prepend
        ⟨slot.id,
          ((slot.turn spec pickle started host).receive
            (runs ++ [slot.run started])).attachments,
          .passed, none⟩ :=
  if_pos passed

/-- The course ends with a slot that does not pass. -/
theorem ofSlots_of_stopped
    (stopped : (slot.turn spec pickle started host).ending ≠ .passed)
    (others : List (Slot Host)) (runs : List StepRun) :
    ofSlots spec pickle started (slot :: others) host runs =
      stop slot others
        ((slot.turn spec pickle started host).receive
          (runs ++ [slot.run started])) :=
  if_neg stopped

end Passing

end Course

/-! ## Running along a course -/

namespace Running

/-- A running state with another host, other remaining test steps and more
messages. -/
def advance (running : Running Host) (host : Host) (remaining : List Nat)
    (envelopes : List (Envelope Nat)) : Running Host where
  attempt := { running.attempt with remaining }
  stage :=
    { running.stage with
      host
      messages := running.stage.messages ++ envelopes }

@[simp]
theorem advance_advance (running : Running Host)
    (firstHost secondHost : Host) (firstLeft secondLeft : List Nat)
    (first second : List (Envelope Nat)) :
    (running.advance firstHost firstLeft first).advance
        secondHost secondLeft second =
      running.advance secondHost secondLeft (first ++ second) := by
  simp [advance]

/-- A running state behind a course. -/
def follow (running : Running Host) (started : Nat)
    (course : Course Host) : Running Host :=
  running.advance course.host course.left (course.envelopes started)

/-- The running state behind the body of a slot. -/
theorem absorb_begin {Result : Type} (running : Running Host)
    (started step : Nat) (performance : Performance Host Result) :
    (running.begin started step).absorb performance =
      running.advance performance.host running.attempt.remaining
        (SlotReport.opening started step
          (performance.attachments.filter
            (·.target ∈ running.stage.stepRuns ++ [⟨step, started⟩]))) := by
  simp [begin, absorb, emit, advance, SlotReport.opening, Stage.attach,
    Stage.stepRuns, Envelope.stepRun?]

theorem complete_eq_advance (running : Running Host) (started step : Nat)
    (status : Status) (message : Option String) :
    running.complete started step status message =
      running.advance running.stage.host
        (running.attempt.remaining.drop 1)
        [finishedEnvelope started step status message] := rfl

theorem skipRemaining_eq_advance (running : Running Host) (started : Nat) :
    running.skipRemaining started =
      running.advance running.stage.host []
        (running.attempt.remaining.flatMap (skipEnvelopes started)) := rfl

@[simp]
theorem host_advance (running : Running Host) (host : Host)
    (remaining : List Nat) (envelopes : List (Envelope Nat)) :
    (running.advance host remaining envelopes).stage.host = host := rfl

@[simp]
theorem remaining_advance (running : Running Host) (host : Host)
    (remaining : List Nat) (envelopes : List (Envelope Nat)) :
    (running.advance host remaining envelopes).attempt.remaining =
      remaining := rfl

@[simp]
theorem stepRuns_advance (running : Running Host) (host : Host)
    (remaining : List Nat) (envelopes : List (Envelope Nat)) :
    (running.advance host remaining envelopes).stage.stepRuns =
      running.stage.stepRuns ++ envelopes.filterMap Envelope.stepRun? :=
  List.filterMap_append ..

@[simp]
theorem stepRuns_start (running : Running Host)
    (executable : Executable Host) :
    (running.start executable).stage.stepRuns = running.stage.stepRuns := by
  simp [start, emit, Stage.stepRuns, Envelope.stepRun?]

end Running

/-- A slot that an attempt reports itself, skipping the slots behind it. -/
theorem Running.close_eq_follow
    (running : Running Host) (started : Nat) (slot : Slot Host)
    (others : List (Slot Host)) (turn : Turn Host)
    (queued :
      running.attempt.remaining = slot.id :: others.map Slot.id)
    {status : Status} {message : Option String}
    (reported : turn.ending.report? = some (status, message)) :
    ((running.advance turn.host running.attempt.remaining
        (SlotReport.opening started slot.id turn.attachments)).complete
          started slot.id status message).skipRemaining started =
      running.follow started (Course.stop slot others turn) := by
  have skipped :=
    SlotReport.flatMap_skipped started (others.map Slot.id)
  simp only [Running.complete_eq_advance,
    Running.skipRemaining_eq_advance, Running.advance_advance,
    Running.host_advance, Running.remaining_advance, queued,
    List.drop_succ_cons, List.drop_zero, Running.follow, Course.stop,
    reported, Course.envelopes, List.flatMap_cons, skipped,
    SlotReport.envelopes, List.append_assoc, List.append_nil]

/-- A slot that an attempt leaves open. -/
theorem Running.open_eq_follow
    (running : Running Host) (started : Nat) (slot : Slot Host)
    (others : List (Slot Host)) (turn : Turn Host)
    (queued :
      running.attempt.remaining = slot.id :: others.map Slot.id)
    (unreported : turn.ending.report? = none) :
    running.advance turn.host running.attempt.remaining
        (SlotReport.opening started slot.id turn.attachments) =
      running.follow started (Course.stop slot others turn) := by
  simp only [queued, Running.follow, Course.stop, unreported,
    Course.envelopes, List.flatMap_nil, List.nil_append]

namespace Executable

open SlotReport (opening envelopes)

/-- What becomes of a running state with the turn of a slot. -/
def settle (started : Nat) (slot : Slot Host) (others : List (Slot Host))
    (running : Running Host) (turn : Turn Host) :
    Option AttemptEnd × Running Host :=
  match turn.ending with
  | .passed =>
      (none,
        running.advance turn.host (others.map Slot.id)
          (envelopes started ⟨slot.id, turn.attachments, .passed, none⟩))
  | ending =>
      (some ending.attemptEnd,
        running.follow started (Course.stop slot others turn))

theorem settle_of_stopped (started : Nat) (slot : Slot Host)
    (others : List (Slot Host)) (running : Running Host) {turn : Turn Host}
    (stopped : turn.ending ≠ .passed) :
    settle started slot others running turn =
      (some turn.ending.attemptEnd,
        running.follow started (Course.stop slot others turn)) := by
  unfold settle
  split
  · contradiction
  · rfl

/-- The turn of a slot as a running state receives it. -/
def received (spec : Spec Host) (executable : Executable Host)
    (started : Nat) (slot : Slot Host) (running : Running Host) :
    Turn Host :=
  (slot.turn spec executable.pickle started running.stage.host).receive
    (running.stage.stepRuns ++ [slot.run started])

/-- A hook is played as the turn of its slot says. -/
theorem playHook_eq_settle
    (spec : Spec Host) (executable : Executable Host)
    (started step : Nat) (hook : Hook Host) (others : List (Slot Host))
    (running : Running Host)
    (queued :
      running.attempt.remaining = step :: others.map Slot.id) :
    executable.playHook started step hook running =
      settle started (.hook step hook) others running
        (received spec executable started (.hook step hook) running) := by
  have host : (running.begin started step).stage.host =
      running.stage.host := rfl
  -- All that the hook can do is in its performance, so that each ending of it
  -- is one case; only a suspended hook leaves its slot open.
  simp only [playHook, host, received, Slot.turn, Slot.body, Slot.hookBody]
  generalize hook.body { scope := .inTest executable.pickle started step none
                         keyword := hook.keyword } running.stage.host =
    performance
  rw [Running.absorb_begin]
  have closed {message : Option String} (ending : SlotEnd)
      (reported : ending.report? = some (.failed, message)) :=
    running.close_eq_follow started (.hook step hook) others
      (Turn.receive ⟨performance.host, performance.attachments, ending⟩
        (running.stage.stepRuns ++ [⟨step, started⟩])) queued reported
  cases ending : performance.ending with
  | completed result =>
      simp [settle, Ending.map, Slot.ended, Running.complete_eq_advance,
        queued, envelopes, Slot.id, Slot.run, Turn.receive]
  | failed message =>
      exact congrArg (Prod.mk _)
        (closed (.failed (.hook hook.keyword message)) rfl)
  | panicked message =>
      exact congrArg (Prod.mk _)
        (closed (.failed (.hook hook.keyword (panicText message))) rfl)
  | suspended =>
      have opened :=
        running.open_eq_follow started (.hook step hook) others
          (Turn.receive
            ⟨performance.host, performance.attachments, .suspended⟩
            (running.stage.stepRuns ++ [⟨step, started⟩]))
          queued rfl
      exact congrArg (Prod.mk _) opened

/--
Either a step cannot be run in any host, or it is run by running the body of
its slot.
-/
theorem run_cases_body
    (spec : Spec Host) (pickle : Pickle Nat) (started id : Nat)
    (step : PickleStep Nat) :
    (∃ error,
      (Slot.step id step).body spec pickle started =
          .error (runFailure spec step.text error) ∧
        ∀ host, spec.registry.run step.text step.stepArgument
          (.inTest pickle started id (some step)) host = .error error) ∨
    ∃ body,
      (Slot.step id step).body spec pickle started = .ok body ∧
        ∀ host, spec.registry.run step.text step.stepArgument
          (.inTest pickle started id (some step)) host =
            .ok (body host) := by
  cases resolved : spec.registry.resolve step.text with
  | error reason =>
      refine Or.inl ⟨.unresolved reason, ?_, fun host => ?_⟩
      · simp [Slot.body, resolved]
      · simp [Registry.run, resolved]
  | ok definition =>
      cases captured : definition.captures step.text with
      | error error =>
          refine Or.inl ⟨error, ?_, fun host => ?_⟩
          · simp [Slot.body, resolved, captured]
          · simp [Registry.run, resolved, captured, Except.map]
      | ok captures =>
          refine Or.inr
            ⟨definition.body
              { scope := .inTest pickle started id (some step)
                captures
                argument := step.stepArgument }, ?_, fun host => ?_⟩
          · simp [Slot.body, resolved, captured]
          · simp [Registry.run, resolved, captured, Except.map]

/-- A step that cannot be run does not fail as a hook does. -/
@[simp]
theorem isHook_runFailure (spec : Spec Host) (text : String)
    (error : RunError) :
    (runFailure spec text error).isHook = false := by
  cases error with
  | unresolved reason => cases reason <;> rfl
  | untransformed parameter text reason => rfl

/-- A step is played as the turn of its slot says. -/
theorem playStep_eq_settle
    (spec : Spec Host) (executable : Executable Host)
    (started id : Nat) (step : PickleStep Nat) (others : List (Slot Host))
    (running : Running Host)
    (queued :
      running.attempt.remaining = id :: others.map Slot.id) :
    executable.playStep spec started id step running =
      settle started (.step id step) others running
        (received spec executable started (.step id step) running) := by
  have host : (running.begin started id).stage.host =
      running.stage.host := rfl
  rcases run_cases_body spec executable.pickle started id step with
    ⟨error, none, unrun⟩ | ⟨body, found, run⟩
  · have opened :=
      running.open_eq_follow started (.step id step) others
        ⟨running.stage.host, [], .failed (runFailure spec step.text error)⟩
        queued (SlotEnd.report?_of_not_hook (by simp))
    simp only [playStep, host, unrun, received, Slot.turn_of_error none]
    exact congrArg (Prod.mk _) opened
  · simp only [playStep, host, run, received, Slot.turn_of_ok found]
    generalize body running.stage.host = performance
    rw [Running.absorb_begin]
    have opened (ending : SlotEnd) (unreported : ending.report? = none) :=
      running.open_eq_follow started (.step id step) others
        (Turn.receive ⟨performance.host, performance.attachments, ending⟩
          (running.stage.stepRuns ++ [⟨id, started⟩]))
        queued unreported
    cases ending : performance.ending with
    | completed outcome =>
        cases outcome with
        | passed =>
            simp [settle, Slot.ended, Running.complete_eq_advance, queued,
              envelopes, Slot.id, Slot.run, Turn.receive]
        | pending =>
            have closed :=
              running.close_eq_follow started (.step id step) others
                (Turn.receive
                  ⟨performance.host, performance.attachments, .pending⟩
                  (running.stage.stepRuns ++ [⟨id, started⟩]))
                queued rfl
            exact congrArg (Prod.mk _) closed
    | failed message =>
        exact congrArg (Prod.mk _) (opened (.failed (.step message)) rfl)
    | panicked message =>
        exact congrArg (Prod.mk _)
          (opened (.failed (.panic (panicText message))) rfl)
    | suspended =>
        exact congrArg (Prod.mk _) (opened .suspended rfl)

/-- A slot is played as its turn says. -/
theorem playSlot_eq_settle
    (spec : Spec Host) (executable : Executable Host) (started : Nat)
    (slot : Slot Host) (others : List (Slot Host)) (running : Running Host)
    (queued :
      running.attempt.remaining = slot.id :: others.map Slot.id) :
    executable.playSlot spec started slot running =
      settle started slot others running
        (received spec executable started slot running) := by
  cases slot with
  | hook id hook =>
      exact playHook_eq_settle spec executable started id hook others
        running queued
  | step id step =>
      exact playStep_eq_settle spec executable started id step others
        running queued

/--
Slots are played along their course.  The queue lists the slots to come: it
does so at the start, and a slot that passes takes its own step off.
-/
theorem playSlots_eq_course
    (spec : Spec Host) (executable : Executable Host) (started : Nat)
    (slots : List (Slot Host)) (running : Running Host)
    (queued : running.attempt.remaining = slots.map Slot.id) :
    executable.playSlots spec started slots running =
      let course :=
        Course.ofSlots spec executable.pickle started slots
          running.stage.host running.stage.stepRuns
      (course.ending, running.follow started course) := by
  induction slots generalizing running with
  | nil =>
      rcases running with ⟨⟨_, remaining, _, _⟩, stage⟩
      simp only [List.map_nil] at queued
      subst queued
      simp [playSlots, Course.ofSlots, Running.follow, Running.advance,
        Course.envelopes]
  | cons slot others ih =>
      have played :=
        playSlot_eq_settle spec executable started slot others running
          queued
      simp only [playSlots, played]
      by_cases passed :
          (received spec executable started slot running).ending = .passed
      · rw [Course.ofSlots_of_passed passed]
        simp only [settle, passed]
        rw [ih _ rfl]
        simp only [Running.host_advance, Running.stepRuns_advance,
          SlotReport.stepRuns_envelopes, Running.follow,
          Running.advance_advance, Course.envelopes_prepend]
        rfl
      · rw [Course.ofSlots_of_stopped passed,
          settle_of_stopped started slot others running passed]
        simp only [Course.ending_stop, received]

/-- An attempt changes the running state exactly as its course says. -/
theorem body_eq_course
    (spec : Spec Host) (executable : Executable Host)
    (running : Running Host) :
    executable.body spec running =
      let course :=
        Course.ofSlots spec executable.pickle running.stage.next
          executable.slots running.stage.host running.stage.stepRuns
      (course.ending,
        (running.start executable).follow running.stage.next course) := by
  have played :=
    playSlots_eq_course spec executable running.stage.next executable.slots
      (running.start executable) rfl
  rwa [Running.stepRuns_start] at played

end Executable

end ScenarioRunner
