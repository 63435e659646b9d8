import ScenarioRunner.Proofs.Course

/-!
# The report of an attempt

An attempt is reported by its own body and by the call of `finish` behind it.
Together they report every slot once, in order: the slots that the body
completes, then, if it leaves slots open, the first of them as failed or
undefined and the others as skipped.

The main statement is `Executable.finish_body`: it says all that an attempt and
the call behind it change.  A text that reads like the failure of a hook keeps
`finish` from reporting slots, which is why `Course.messages` looks at the text.
-/

namespace ScenarioRunner

variable {Host : Type}

/-! ## Completing a course -/

namespace Course

/-- The reports of all slots once an attempt is finished with a text. -/
def completed (course : Course Host) (error : Option String) :
    List SlotReport :=
  course.reports ++
    match course.left with
    | [] => []
    | step :: others =>
        ⟨step, course.attachments, (Running.openStep error).1,
          (Running.openStep error).2⟩ :: others.map SlotReport.skipped

theorem completed_prepend (report : SlotReport) (course : Course Host)
    (error : Option String) :
    (course.prepend report).completed error =
      report :: course.completed error := rfl

theorem completed_of_left_nil {course : Course Host}
    (complete : course.left = []) (error : Option String) :
    course.completed error = course.reports := by
  simp [completed, complete]

/-- The messages of an attempt are the first of those of the finished attempt,
which go on with the end of the slot that is left open. -/
theorem envelopes_prefix_completed (started : Nat) (course : Course Host)
    (error : Option String) :
    course.envelopes started <+:
      (course.completed error).flatMap (SlotReport.envelopes started) := by
  rw [envelopes, completed, List.flatMap_append,
    List.prefix_append_right_inj]
  cases course.left with
  | nil => exact List.nil_prefix
  | cons step others =>
      simp only [List.flatMap_cons, SlotReport.envelopes,
        List.append_assoc]
      exact List.prefix_append _ _

/--
The slot that ends an attempt is reported by the attempt or else by `finish`,
and the slots behind it are skipped.
-/
theorem completed_stop (slot : Slot Host) (others : List (Slot Host))
    (turn : Turn Host) (error : Option String) :
    (stop slot others turn).completed error =
      ⟨slot.id, turn.attachments,
        (turn.ending.report?.getD (Running.openStep error)).1,
        (turn.ending.report?.getD (Running.openStep error)).2⟩ ::
        (others.map Slot.id).map SlotReport.skipped := by
  unfold stop
  split
  · rename_i reported
    simp [completed, reported]
  · rename_i unreported
    simp [completed, unreported]

/-- Every slot is reported once, in order. -/
theorem steps_completed
    (spec : Spec Host) (pickle : Pickle Nat) (started : Nat)
    (slots : List (Slot Host)) (host : Host) (runs : List StepRun)
    (error : Option String) :
    ((ofSlots spec pickle started slots host runs).completed error).map
        (·.step) =
      slots.map Slot.id := by
  induction slots generalizing host runs with
  | nil => rfl
  | cons slot others ih =>
      by_cases passed : (slot.turn spec pickle started host).ending = .passed
      · rw [ofSlots_of_passed passed, completed_prepend, List.map_cons, ih]
        rfl
      · rw [ofSlots_of_stopped passed, completed_stop]
        simp [Function.comp_def]

/-- A slot behind which the attempt ends leaves nothing open if it is
reported. -/
theorem left_stop_of_report (slot : Slot Host) (others : List (Slot Host))
    {turn : Turn Host} {report : Status × Option String}
    (reported : turn.ending.report? = some report) :
    (stop slot others turn).left = [] := by
  simp [stop, reported]

section Slots

variable {spec : Spec Host} {pickle : Pickle Nat} {started : Nat}
variable {slots : List (Slot Host)} {host : Host} {runs : List StepRun}

/-- An attempt that a failing hook ends leaves no slot open. -/
theorem left_of_hook {keyword : HookKeyword} {message : String}
    (hooked :
      (ofSlots spec pickle started slots host runs).ending =
        .failed (.hook keyword message)) :
    (ofSlots spec pickle started slots host runs).left = [] := by
  induction slots generalizing host runs with
  | nil => rfl
  | cons slot others ih =>
      by_cases passed : (slot.turn spec pickle started host).ending = .passed
      · rw [ofSlots_of_passed passed] at hooked ⊢
        exact ih hooked
      · rw [ofSlots_of_stopped passed] at hooked ⊢
        rw [ending_stop, SlotEnd.attemptEnd_eq_failed_iff] at hooked
        exact left_stop_of_report slot others (by rw [hooked]; rfl)

/-- Something is attached only to runs that have been started: those from
before, and those of the slots. -/
theorem target_of_mem_completed {error : Option String}
    {report : SlotReport} {attached : Attachment}
    (reported :
      report ∈
        (ofSlots spec pickle started slots host runs).completed error)
    (listed : attached ∈ report.attachments) :
    attached.target ∈ runs ++ slots.map (Slot.run started) := by
  -- The runs grow by that of each slot, which is why they are part of the
  -- induction.
  induction slots generalizing host runs with
  | nil => cases reported
  | cons slot others ih =>
      have own (turn : Turn Host)
          (among :
            attached ∈
              (turn.receive (runs ++ [slot.run started])).attachments) :
          attached.target ∈ runs ++ (slot :: others).map (Slot.run started) :=
        List.append_subset.mpr
          ⟨List.subset_append_left _ _,
            List.subset_append_of_subset_right _ (by simp)⟩
          (of_decide_eq_true (List.mem_filter.mp among).2)
      by_cases passed : (slot.turn spec pickle started host).ending = .passed
      · rw [ofSlots_of_passed passed, completed_prepend] at reported
        rcases List.mem_cons.mp reported with rfl | later
        · exact own _ listed
        · simpa using ih later
      · rw [ofSlots_of_stopped passed, completed_stop] at reported
        rcases List.mem_cons.mp reported with rfl | skipped
        · exact own _ listed
        · obtain ⟨step, -, rfl⟩ := List.mem_map.mp skipped
          cases listed

end Slots

/--
The messages about the slots once an attempt is finished with a text.  A text
that reads like the failure of a hook adds nothing to what the attempt has
reported.
-/
def messages (course : Course Host) (started : Nat)
    (error : Option String) : List (Envelope Nat) :=
  if error.any Failure.isHookText then course.envelopes started
  else
    (course.completed error).flatMap (SlotReport.envelopes started)

theorem messages_prefix_completed (course : Course Host) (started : Nat)
    (error : Option String) :
    course.messages started error <+:
      (course.completed error).flatMap (SlotReport.envelopes started) := by
  unfold messages
  split
  · exact course.envelopes_prefix_completed started error
  · exact List.prefix_rfl

/-- What a message about slots can tell of, if some runs have been started. -/
inductive TellsOf (slots : List (Slot Host)) (started : Nat)
    (runs : List StepRun) (envelope : Envelope Nat) : Prop where
  | slot {slot : Slot Host} (listed : slot ∈ slots)
      (about : envelope.about? = some (slot.id, started))
  /-- Something is attached to another run. -/
  | other {attached : Attachment} (earlier : attached.target ∈ runs)
      (shown : envelope = attached.envelope)

theorem TellsOf.exists_about {slots : List (Slot Host)} {started : Nat}
    {runs : List StepRun} {envelope : Envelope Nat}
    (tells : TellsOf slots started runs envelope) :
    ∃ named, envelope.about? = some named := by
  cases tells with
  | slot listed about => exact ⟨_, about⟩
  | other earlier shown => exact ⟨_, congrArg Envelope.about? shown⟩

section Messages

variable {spec : Spec Host} {pickle : Pickle Nat} {started : Nat}
variable {slots : List (Slot Host)} {host : Host} {runs : List StepRun}
variable {error : Option String} {envelope : Envelope Nat}

theorem tellsOf_of_mem_completed
    (member :
      envelope ∈
        ((ofSlots spec pickle started slots host runs).completed
          error).flatMap (SlotReport.envelopes started)) :
    TellsOf slots started runs envelope := by
  obtain ⟨report, reported, among⟩ := List.mem_flatMap.mp member
  rcases SlotReport.about?_of_mem_envelopes among with
    about | ⟨attached, listed, rfl⟩
  · have step : report.step ∈ slots.map Slot.id := by
      rw [← steps_completed spec pickle started slots host runs error]
      exact List.mem_map_of_mem reported
    obtain ⟨slot, listed, same⟩ := List.mem_map.mp step
    rw [← same] at about
    exact .slot listed about
  · have target := target_of_mem_completed reported listed
    rcases List.mem_append.mp target with earlier | own
    · exact .other earlier rfl
    · obtain ⟨slot, among, same⟩ := List.mem_map.mp own
      refine .slot among ?_
      simp [Attachment.envelope, Envelope.about?, ← same, Slot.run]

theorem tellsOf_of_mem_envelopes
    (member :
      envelope ∈
        (ofSlots spec pickle started slots host runs).envelopes started) :
    TellsOf slots started runs envelope :=
  tellsOf_of_mem_completed
    ((envelopes_prefix_completed started _ none).subset member)

theorem tellsOf_of_mem_messages
    (member :
      envelope ∈
        (ofSlots spec pickle started slots host runs).messages started
          error) :
    TellsOf slots started runs envelope :=
  tellsOf_of_mem_completed
    ((messages_prefix_completed _ started error).subset member)

end Messages

/-- The messages about the slots are their reports, if there is no slot left
that a text keeps from being reported. -/
theorem messages_eq_completed (course : Course Host) (started : Nat)
    {error : Option String}
    (recognised :
      error.any Failure.isHookText = true → course.left = []) :
    course.messages started error =
      (course.completed error).flatMap (SlotReport.envelopes started) := by
  unfold messages
  split
  · rename_i hooked
    have complete := recognised hooked
    rw [completed_of_left_nil complete, envelopes, complete,
      List.append_nil]
  · rfl

end Course

/-! ## Finishing -/

/-- The text of the failure that ends an attempt, if one does. -/
def AttemptEnd.error? : AttemptEnd → Option String
  | .failed failure => some failure.message
  | _ => none

namespace Running

theorem openStep_of_missing {text : String}
    (missing : isMissingText text = true) :
    openStep (some text) = (.undefined, none) :=
  if_pos missing

theorem openStep_of_not_missing {text : String}
    (other : isMissingText text = false) :
    openStep (some text) = (.failed, some text) :=
  if_neg (Bool.eq_false_iff.mp other)

/-- The messages by which `finish` completes the report of an attempt. -/
def closing (running : Running Host) (error : Option String) :
    List (Envelope Nat) :=
  (match running.attempt.started, running.attempt.remaining with
    | some started, step :: others =>
        if error.any Failure.isHookText then []
        else
          finishedEnvelope started step (openStep error).1
              (openStep error).2 ::
            others.flatMap (skipEnvelopes started)
    | _, _ => []) ++
    [.caseFinished running.attempt.started {} false]

/-- Each message that completes a report is about a test step, to which it
attaches nothing, or it is the end of the attempt. -/
theorem cases_of_mem_closing {running : Running Host}
    {error : Option String} {message : Envelope Nat}
    (member : message ∈ running.closing error) :
    (∃ step started, running.attempt.started = some started ∧
        message.about? = some (step, started) ∧
        message.attachedTo? = none) ∨
      message = .caseFinished running.attempt.started {} false := by
  rcases List.mem_append.mp member with closed | finished
  · left
    split at closed
    · rename_i started step others own remaining
      split at closed
      · cases closed
      · rcases List.mem_cons.mp closed with rfl | skipped
        · exact ⟨step, started, own, rfl, rfl⟩
        · obtain ⟨other, -, among⟩ := List.mem_flatMap.mp skipped
          rcases SlotReport.cases_of_mem_skip among with rfl | rfl
          · exact ⟨other, started, own, rfl, rfl⟩
          · exact ⟨other, started, own, rfl, rfl⟩
    · cases closed
  · exact Or.inr (List.mem_singleton.mp finished)

/-- Finishing an attempt a second time changes nothing. -/
theorem finish_of_finished {running : Running Host}
    (finished : running.attempt.finished = true) (error : Option String) :
    running.finish error = running := by
  simp [finish, finished]

/-- What finishing an attempt changes. -/
theorem finish_of_unfinished {running : Running Host}
    (unfinished : running.attempt.finished = false)
    (error : Option String) :
    running.finish error =
      { attempt :=
          { running.attempt with remaining := [], finished := true }
        stage :=
          { running.stage with
            active := false
            hookFailure :=
              running.stage.hookFailure || error.any Failure.isHookText
            messages :=
              running.stage.messages ++ running.closing error } } := by
  rcases running with ⟨⟨started, remaining, finished, count⟩, stage⟩
  simp only at unfinished
  subst unfinished
  cases recognised : error.any Failure.isHookText with
  | true =>
      cases started <;> cases remaining <;>
        simp [finish, closing, recognised, emit]
  | false =>
      cases started <;> cases remaining <;>
        simp [finish, closing, recognised, emit, completeOpen, complete,
          skipRemaining]

/-- The messages behind a course that is finished. -/
theorem closing_follow (running : Running Host) {started : Nat}
    (own : running.attempt.started = some started)
    (course : Course Host) (error : Option String) :
    course.envelopes started ++
        (running.follow started course).closing error =
      course.messages started error ++
        [.caseFinished (some started) {} false] := by
  have startedBehind :
      (running.follow started course).attempt.started = some started := own
  have left :
      (running.follow started course).attempt.remaining = course.left := rfl
  simp only [closing, startedBehind, left, Course.messages,
    Course.envelopes, Course.completed]
  cases complete : course.left with
  | nil => simp
  | cons step others =>
      cases error.any Failure.isHookText with
      | true => simp
      | false => simp [SlotReport.flatMap_skipped, SlotReport.envelopes]

end Running

/-! ## Whole attempts -/

namespace Executable

/-- The course of an attempt at a test. -/
def course (spec : Spec Host) (executable : Executable Host)
    (running : Running Host) : Course Host :=
  Course.ofSlots spec executable.pickle running.stage.next executable.slots
    running.stage.host running.stage.stepRuns

/-- The messages of an attempt that is finished with a text. -/
def messages (spec : Spec Host) (executable : Executable Host)
    (running : Running Host) (error : Option String) :
    List (Envelope Nat) :=
  .caseStarted running.stage.next executable.testCaseId
      running.attempt.count.toNat {} ::
    (executable.course spec running).messages running.stage.next error ++
    [.caseFinished (some running.stage.next) {} false]

@[simp]
theorem ending_body (spec : Spec Host) (executable : Executable Host)
    (running : Running Host) :
    (executable.body spec running).1 =
      (executable.course spec running).ending := by
  rw [body_eq_course]
  rfl

@[simp]
theorem next_body (spec : Spec Host) (executable : Executable Host)
    (running : Running Host) :
    (executable.body spec running).2.stage.next =
      running.stage.next + 1 := by
  rw [body_eq_course]
  rfl

/-- The messages of an attempt that is not finished. -/
theorem messages_body (spec : Spec Host) (executable : Executable Host)
    (running : Running Host) :
    (executable.body spec running).2.stage.messages =
      running.stage.messages ++
        .caseStarted running.stage.next executable.testCaseId
            running.attempt.count.toNat {} ::
          (executable.course spec running).envelopes running.stage.next := by
  rw [body_eq_course]
  simp [Running.follow, Running.advance, Running.start, Running.emit,
    course]

/-- What an attempt and the call of `finish` behind it change. -/
theorem finish_body (spec : Spec Host) (executable : Executable Host)
    (running : Running Host) (error : Option String) :
    (executable.body spec running).2.finish error =
      { attempt :=
          { started := some running.stage.next
            remaining := []
            finished := true
            count := running.attempt.count + 1 }
        stage :=
          { host := (executable.course spec running).host
            next := running.stage.next + 1
            active := false
            hookFailure :=
              running.stage.hookFailure || error.any Failure.isHookText
            messages :=
              running.stage.messages ++
                executable.messages spec running error } } := by
  have closed :=
    Running.closing_follow (running.start executable)
      (show (running.start executable).attempt.started =
        some running.stage.next from rfl)
      (executable.course spec running) error
  rw [body_eq_course, Running.finish_of_unfinished rfl]
  congr 1
  simp only [Running.follow, Running.advance, Running.start, Running.emit,
    Stage.mk.injEq, true_and, List.append_assoc]
  refine ⟨rfl, ?_⟩
  exact congrArg
    (running.stage.messages ++
      .caseStarted running.stage.next executable.testCaseId
        running.attempt.count.toNat {} :: ·) closed

end Executable

end ScenarioRunner
