import ScenarioRunner.Proofs.Protocol

/-!
# The messages about one attempt

Attempts at several tests share one stream of messages.  Those about one
attempt are picked out by the identifier that they carry.  They are what the
attempt has told so far, and they are complete once it is finished.
-/

namespace ScenarioRunner

variable {Host : Type}

namespace Envelope

/-- The attempt that a message is about. -/
def attempt? : Envelope Nat → Option Nat
  | .caseStarted id .. => some id
  | .stepStarted _ started _ => some started
  | .stepFinished _ started .. => some started
  | .attachment started .. => some started
  | .caseFinished started .. => started
  | _ => none

theorem attempt?_of_about? {envelope : Envelope Nat} {step started : Nat}
    (about : envelope.about? = some (step, started)) :
    envelope.attempt? = some started := by
  cases envelope <;> cases about <;> rfl

theorem attempt?_of_stepRun? {envelope : Envelope Nat} {run : StepRun}
    (starts : envelope.stepRun? = some run) :
    envelope.attempt? = some run.started := by
  cases envelope <;> cases starts
  rfl

theorem attempt?_of_attachedTo? {envelope : Envelope Nat}
    {target : StepRun} (attached : envelope.attachedTo? = some target) :
    envelope.attempt? = some target.started := by
  cases envelope <;> cases attached
  rfl

theorem attachedTo?_of_stepRun? {envelope : Envelope Nat} {run : StepRun}
    (starts : envelope.stepRun? = some run) :
    envelope.attachedTo? = none := by
  cases envelope <;> first | rfl | cases starts

/-- A message says that an attempt has finished. -/
def IsFinish : Envelope Nat → Prop
  | .caseFinished .. => True
  | _ => False

theorem not_isFinish_of_about? {envelope : Envelope Nat}
    {named : Nat × Nat} (about : envelope.about? = some named) :
    ¬ envelope.IsFinish := by
  cases envelope <;> first | exact id | cases about

/-- The number of an attempt at a test case that a message starts. -/
def attemptNumber? (testCase : Nat) : Envelope Nat → Option Nat
  | .caseStarted _ test number _ =>
      if test = testCase then some number else none
  | _ => none

theorem attemptNumber?_of_about? {envelope : Envelope Nat}
    {named : Nat × Nat} (about : envelope.about? = some named)
    (testCase : Nat) : envelope.attemptNumber? testCase = none := by
  cases envelope <;> first | rfl | cases about

/-- The messages about an attempt among others. -/
def ofAttempt (started : Nat) (messages : List (Envelope Nat)) :
    List (Envelope Nat) :=
  messages.filter fun message => message.attempt? = some started

theorem ofAttempt_append (started : Nat)
    (first second : List (Envelope Nat)) :
    ofAttempt started (first ++ second) =
      ofAttempt started first ++ ofAttempt started second :=
  List.filter_append ..

theorem ofAttempt_cons_self {started : Nat} {message : Envelope Nat}
    (own : message.attempt? = some started)
    (others : List (Envelope Nat)) :
    ofAttempt started (message :: others) =
      message :: ofAttempt started others :=
  List.filter_cons_of_pos (decide_eq_true own)

@[simp]
theorem mem_ofAttempt {started : Nat} {messages : List (Envelope Nat)}
    {message : Envelope Nat} :
    message ∈ ofAttempt started messages ↔
      message ∈ messages ∧ message.attempt? = some started := by
  rw [ofAttempt, List.mem_filter, decide_eq_true_iff]

theorem ofAttempt_eq_nil {started : Nat} {messages : List (Envelope Nat)}
    (silent : ∀ message ∈ messages, message.attempt? ≠ some started) :
    ofAttempt started messages = [] := by
  rw [ofAttempt, List.filter_eq_nil_iff]
  intro message member own
  exact silent message member (of_decide_eq_true own)

section Told

variable {started : Nat} {told : List (Envelope Nat)}

theorem ofAttempt_eq_self
    (own : ∀ message ∈ told, message.attempt? = some started) :
    ofAttempt started told = told := by
  rw [ofAttempt, List.filter_eq_self]
  intro message member
  exact decide_eq_true (own message member)

theorem ofAttempt_append_self
    (own : ∀ message ∈ told, message.attempt? = some started)
    (messages : List (Envelope Nat)) :
    ofAttempt started (messages ++ told) =
      ofAttempt started messages ++ told := by
  rw [ofAttempt_append, ofAttempt_eq_self own]

/-- What is told about one attempt adds nothing about another. -/
theorem ofAttempt_append_of_ne
    (own : ∀ message ∈ told, message.attempt? = some started)
    {other : Nat} (different : other ≠ started)
    (messages : List (Envelope Nat)) :
    ofAttempt other (messages ++ told) = ofAttempt other messages := by
  have silent : ofAttempt other told = [] := by
    apply ofAttempt_eq_nil
    intro message member
    rw [own message member]
    exact fun same => different (Option.some.inj same).symm
  rw [ofAttempt_append, silent, List.append_nil]

end Told

end Envelope

/-! ## What attempts tell -/

namespace Executable

@[simp]
theorem attempt_body (spec : Spec Host) (executable : Executable Host)
    (running : Running Host) :
    (executable.body spec running).2.attempt =
      { started := some running.stage.next
        remaining := (executable.course spec running).left
        finished := false
        count := running.attempt.count + 1 } := by
  rw [body_eq_course]
  rfl

/-- The messages of an attempt before it is finished, from a host on, if some
runs have been started. -/
def told (spec : Spec Host) (executable : Executable Host)
    (started count : Nat) (host : Host) (runs : List StepRun) :
    List (Envelope Nat) :=
  .caseStarted started executable.testCaseId count {} ::
    (Course.ofSlots spec executable.pickle started executable.slots host
      runs).envelopes started

section Told

variable {spec : Spec Host} {executable : Executable Host}
variable {started count : Nat} {host : Host} {runs : List StepRun}
variable {message : Envelope Nat}

theorem attempt?_of_mem_told_of_unattached
    (member : message ∈ executable.told spec started count host runs)
    (unattached : message.attachedTo? = none) :
    message.attempt? = some started := by
  rcases List.mem_cons.mp member with rfl | played
  · rfl
  · cases Course.tellsOf_of_mem_envelopes played with
    | slot listed about => exact Envelope.attempt?_of_about? about
    | other earlier shown =>
        rw [shown] at unattached
        cases unattached

theorem attempt?_of_mem_told_of_own
    (member : message ∈ executable.told spec started count host runs)
    (own : executable.AttachesOwn spec started) :
    message.attempt? = some started := by
  rcases List.mem_cons.mp member with rfl | played
  · rfl
  · obtain ⟨report, reported, among⟩ := List.mem_flatMap.mp
      ((Course.envelopes_prefix_completed started _ none).subset played)
    rcases SlotReport.about?_of_mem_envelopes among with
      about | ⟨attached, listed, rfl⟩
    · exact Envelope.attempt?_of_about? about
    · have target :=
        Course.attachesOwn_of_mem_completed own reported attached listed
      simp [Attachment.envelope, Envelope.attempt?, target]

/-- What shows of the messages of an attempt is about it: attachments do not
show unless bodies attach through their own contexts. -/
theorem attempt?_of_mem_view_told {attached : Bool}
    (own : attached = true → executable.AttachesOwn spec started)
    (member :
      message ∈ Envelope.view attached
        (executable.told spec started count host runs)) :
    message.attempt? = some started := by
  obtain ⟨listed, shows⟩ := Envelope.mem_view.mp member
  rcases shows with shows | unattached
  · exact attempt?_of_mem_told_of_own listed (own shows)
  · exact attempt?_of_mem_told_of_unattached listed unattached

theorem attachToStarted_told :
    AttachToStarted runs (executable.told spec started count host runs) :=
  .cons_of_silent rfl rfl Course.attachToStarted_envelopes

end Told

/-- Of the messages of an attempt, the first bears its number. -/
theorem filterMap_attemptNumber?_told (spec : Spec Host)
    (executable : Executable Host) (started count : Nat) (host : Host)
    (runs : List StepRun) (testCase : Nat) :
    (executable.told spec started count host runs).filterMap
        (Envelope.attemptNumber? testCase) =
      if executable.testCaseId = testCase then [count] else [] := by
  have silent :
      ((Course.ofSlots spec executable.pickle started executable.slots host
          runs).envelopes started).filterMap
        (Envelope.attemptNumber? testCase) = [] := by
    rw [List.filterMap_eq_nil_iff]
    intro message played
    obtain ⟨named, about⟩ :=
      (Course.tellsOf_of_mem_envelopes played).exists_about
    exact Envelope.attemptNumber?_of_about? about testCase
  rw [told, List.filterMap_cons, silent]
  by_cases same : executable.testCaseId = testCase <;>
    simp [Envelope.attemptNumber?, same]

end Executable

namespace Running

@[simp]
theorem finished_finish (running : Running Host) (error : Option String) :
    (running.finish error).attempt.finished = true := by
  cases finished : running.attempt.finished with
  | true => rw [finish_of_finished finished, finished]
  | false => rw [finish_of_unfinished finished]

@[simp]
theorem started_finish (running : Running Host) (error : Option String) :
    (running.finish error).attempt.started = running.attempt.started := by
  cases finished : running.attempt.finished with
  | true => rw [finish_of_finished finished]
  | false => rw [finish_of_unfinished finished]

theorem attempt?_of_mem_closing {running : Running Host} {started : Nat}
    (own : running.attempt.started = some started)
    {error : Option String} {message : Envelope Nat}
    (member : message ∈ running.closing error) :
    message.attempt? = some started := by
  rcases cases_of_mem_closing member with ⟨step, _, begun, about, -⟩ | rfl
  · rw [Envelope.attempt?_of_about? about, ← begun, own]
  · exact own

/-- Nothing is attached by the messages that complete a report. -/
theorem view_closing (attached : Bool) (running : Running Host)
    (error : Option String) :
    Envelope.view attached (running.closing error) =
      running.closing error := by
  rw [Envelope.view, List.filter_eq_self]
  intro message member
  simp [attachedTo?_of_mem_closing member]

theorem filterMap_attemptNumber?_closing (running : Running Host)
    (error : Option String) (testCase : Nat) :
    (running.closing error).filterMap
      (Envelope.attemptNumber? testCase) = [] := by
  rw [List.filterMap_eq_nil_iff]
  intro message member
  rcases cases_of_mem_closing member with ⟨_, _, -, about, -⟩ | rfl
  · exact Envelope.attemptNumber?_of_about? about testCase
  · rfl

end Running

/-! ## Where an attempt stands -/

open Envelope (ofAttempt)

/-- The messages about an attempt are the first part of the report of a test
case. -/
def PartlyReported (collected messages : List (Envelope Nat))
    (started : Nat) : Prop :=
  ofAttempt started messages = [] ∨
    ∃ testCase count whole, .testCase testCase ∈ collected ∧
      ReportsOnce testCase started count whole ∧
      ofAttempt started messages <+: whole

/-- The messages about an attempt are the whole report of a test case. -/
def WhollyReported (collected messages : List (Envelope Nat))
    (named started : Nat) : Prop :=
  ∃ testCase count, .testCase testCase ∈ collected ∧
    testCase.id = named ∧
    ReportsOnce testCase started count (ofAttempt started messages)

/-- What shows of the messages about the latest attempt at a test says where it
stands: what it has told, if it is not finished, and else its whole report. -/
inductive Attempt.Stands (spec : Spec Host) (attached : Bool)
    (testCase : TestCase Nat) (executable : Executable Host) (started : Nat)
    (attempt : Attempt) (messages : List (Envelope Nat)) : Prop where
  | unfinished (count : Nat) (host : Host) (runs : List StepRun)
      (unfinished : attempt.finished = false)
      (remaining :
        attempt.remaining =
          (Course.ofSlots spec executable.pickle started executable.slots
            host runs).left)
      (told :
        messages =
          Envelope.view attached
            (executable.told spec started count host runs)) :
      Stands spec attached testCase executable started attempt messages
  | finished (count : Nat) (finished : attempt.finished = true)
      (once : ReportsOnce testCase started count messages) :
      Stands spec attached testCase executable started attempt messages

/-- What shows of the messages about an attempt reports its test case once if
the reports are of its test steps. -/
theorem ReportsOnce.of_reports {testCase : TestCase Nat}
    (started count : Nat) {reports : List SlotReport}
    (steps : reports.map (·.step) = testCase.steps.map (·.id))
    {attached : Bool}
    (own : attached = true → ∀ report ∈ reports,
      report.AttachesOwn started) :
    ReportsOnce testCase started count
      (Envelope.view attached
        (testCase.reported started count reports)) := by
  refine ⟨reports.map (SlotReport.view attached), ?_, ?_, ?_⟩
  · rw [← steps, List.map_map]
    exact List.map_congr_left fun report _ => report.step_view attached
  · intro shown member
    obtain ⟨report, reported, rfl⟩ := List.mem_map.mp member
    cases attached with
    | true => exact own rfl report reported
    | false => exact nofun
  · have shown (report : SlotReport) :=
      report.view_envelopes attached started
    have ended :
        Envelope.view attached [.caseFinished (some started) {} false] =
          [.caseFinished (some started) {} false] :=
      Envelope.view_cons_of_unattached rfl []
    rw [TestCase.reported, Envelope.view_append, ended,
      Envelope.view_cons_of_unattached rfl, Envelope.view_flatMap,
      TestCase.reported, List.flatMap_map]
    simp only [shown]

/-- What an attempt has told is reported completely with the messages that
`finish` adds. -/
theorem Executable.reportsOnce_told {registry : Registry Host}
    {testCase : TestCase Nat} {executable : Executable Host}
    (describes : Describes registry testCase executable)
    (spec : Spec Host) {running : Running Host} {started : Nat}
    (begun : running.attempt.started = some started) {host : Host}
    {runs : List StepRun}
    (remaining :
      running.attempt.remaining =
        (Course.ofSlots spec executable.pickle started executable.slots host
          runs).left)
    (count : Nat) {error : Option String}
    (recognised :
      error.any Failure.isHookText = true →
        running.attempt.remaining = [])
    {attached : Bool}
    (own : attached = true → executable.AttachesOwn spec started) :
    ReportsOnce testCase started count
      (Envelope.view attached
          (executable.told spec started count host runs) ++
        running.closing error) := by
  let course :=
    Course.ofSlots spec executable.pickle started executable.slots host runs
  have same :
      running.closing error =
        (running.follow started course).closing error := by
    unfold Running.closing
    rw [remaining]
    rfl
  have whole := running.closing_follow begun course error
  rw [← same, Course.messages_eq_completed] at whole
  · have reported :
        executable.told spec started count host runs ++
            running.closing error =
          testCase.reported started count (course.completed error) := by
      rw [told, List.cons_append, whole, TestCase.reported, describes.id]
      rfl
    rw [← running.view_closing attached error, ← Envelope.view_append,
      reported]
    refine .of_reports started count ?_ fun shows report member => ?_
    · rw [describes.stepIds]
      exact Course.steps_completed spec executable.pickle started
        executable.slots host runs error
    · exact Course.attachesOwn_of_mem_completed (own shows) member
  · rw [← remaining]
    exact recognised

/-- What an attempt has told is the first part of a report. -/
theorem Attempt.Stands.isPrefix {registry : Registry Host}
    {spec : Spec Host} {attached : Bool} {testCase : TestCase Nat}
    {executable : Executable Host}
    (describes : Describes registry testCase executable)
    {started : Nat} {attempt : Attempt}
    {messages : List (Envelope Nat)}
    (own : attached = true → executable.AttachesOwn spec started)
    (stands :
      attempt.Stands spec attached testCase executable started messages) :
    ∃ count whole, ReportsOnce testCase started count whole ∧
      messages <+: whole := by
  cases stands with
  | finished count finished once =>
      exact ⟨count, messages, once, List.prefix_rfl⟩
  | unfinished count host runs unfinished remaining told =>
      let running : Running Host :=
        { attempt := { attempt with started := some started }
          stage := { host, next := 0 } }
      have begun : running.attempt.started = some started := rfl
      have recognised :
          (none : Option String).any Failure.isHookText = true →
            running.attempt.remaining = [] :=
        fun hooked => nomatch hooked
      have once :=
        Executable.reportsOnce_told describes spec begun remaining count
          recognised own
      rw [told]
      exact ⟨count, _, once, List.prefix_append _ _⟩

/-! ## Ends of attempts -/

/-- The last of some messages is the only one that says that an attempt has
finished. -/
theorem eq_of_append_finish {middle told rest : List (Envelope Nat)}
    (silent : ∀ message ∈ middle, ¬ message.IsFinish)
    {last finish : Envelope Nat} (ends : finish.IsFinish)
    (same : middle ++ [last] = told ++ finish :: rest) :
    middle = told ∧ last = finish ∧ rest = [] := by
  rcases List.append_eq_append_iff.mp same with
    ⟨more, rfl, tail⟩ | ⟨more, rfl, tail⟩
  · cases more with
    | nil =>
        rcases List.cons.inj tail with ⟨rfl, rfl⟩
        exact ⟨(List.append_nil _).symm, rfl, rfl⟩
    | cons first others =>
        have empty := (List.cons.inj tail).2
        simp at empty
  · cases more with
    | nil =>
        rcases List.cons.inj tail with ⟨rfl, rfl⟩
        exact ⟨List.append_nil _, rfl, rfl⟩
    | cons first others =>
        rcases List.cons.inj tail with ⟨rfl, -⟩
        exact absurd ends (silent _ (by simp))

/-- Each message that says that an attempt has finished names one that has been
started before, and no other message says so. -/
def FinishesOnce (messages : List (Envelope Nat)) : Prop :=
  ∀ before finish behind, messages = before ++ finish :: behind →
    finish.IsFinish →
      ∃ started testCase count, finish.attempt? = some started ∧
        .caseStarted started testCase count {} ∈ before ∧
        ∀ message ∈ before ++ behind,
          message.attempt? = some started → ¬ message.IsFinish

/-- An end of an attempt is no attachment, so that it shows in any case. -/
theorem FinishesOnce.of_view {attached : Bool}
    {messages : List (Envelope Nat)}
    (once : FinishesOnce (Envelope.view attached messages)) :
    FinishesOnce messages := by
  have unattached {message : Envelope Nat} (ends : message.IsFinish) :
      message.attachedTo? = none := by
    cases message <;> first | rfl | cases ends
  rintro before finish behind rfl ends
  have split :
      Envelope.view attached (before ++ finish :: behind) =
        Envelope.view attached before ++
          finish :: Envelope.view attached behind := by
    rw [Envelope.view_append,
      Envelope.view_cons_of_unattached (unattached ends)]
  obtain ⟨started, testCase, count, about, began, others⟩ :=
    once _ finish _ split ends
  refine ⟨started, testCase, count, about, (Envelope.mem_view.mp began).1,
    ?_⟩
  intro message listed same finishes
  refine others message ?_ same finishes
  rw [← Envelope.view_append, Envelope.mem_view]
  exact ⟨listed, Or.inr (unattached finishes)⟩

/-- In the first part of a report, the end of the attempt comes last and
behind its start, if it is there at all. -/
theorem ReportsOnce.of_finish {testCase : TestCase Nat}
    {started count : Nat} {whole told rest : List (Envelope Nat)}
    (once : ReportsOnce testCase started count whole)
    {finish : Envelope Nat} (ends : finish.IsFinish)
    (part : told ++ finish :: rest <+: whole) :
    .caseStarted started testCase.id count {} ∈ told ∧
      (∀ message ∈ told, ¬ message.IsFinish) ∧ rest = [] := by
  rcases once with ⟨reports, -, -, rfl⟩
  rcases part with ⟨behind, same⟩
  have silent :
      ∀ message ∈
        .caseStarted started testCase.id count {} ::
          reports.flatMap (SlotReport.envelopes started),
        ¬ message.IsFinish := by
    intro message member
    rcases List.mem_cons.mp member with rfl | reported
    · exact id
    · rcases List.mem_flatMap.mp reported with ⟨report, -, among⟩
      rcases SlotReport.about?_of_mem_envelopes among with
        about | ⟨attached, -, rfl⟩
      · exact Envelope.not_isFinish_of_about? about
      · exact id
  rw [TestCase.reported, List.append_assoc, List.cons_append] at same
  rcases eq_of_append_finish silent ends same.symm with ⟨rfl, -, nothing⟩
  exact ⟨List.mem_cons_self, silent, (List.append_eq_nil_iff.mp nothing).1⟩

end ScenarioRunner
