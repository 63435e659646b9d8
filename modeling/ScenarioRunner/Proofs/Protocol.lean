import ScenarioRunner.Proofs.Attachments
import ScenarioRunner.Proofs.Session

/-!
# The message protocol of an attempt

Whatever the bodies of an attempt do, and wherever it is left, the call of
`finish` behind it completes its messages: the attempt starts, every test step
of the test case starts, attaches and finishes in turn, and the attempt
finishes.

What is attached while a test step is running goes to its run unless a body
attaches through a context that it has kept: then it goes to the run that this
context was made for (`Sample.kept_context_attaches_elsewhere`).
-/

namespace ScenarioRunner

variable {Host : Type}

/-- The messages about an attempt at a test case, of whose test steps there are
reports. -/
def TestCase.reported (testCase : TestCase Nat) (started count : Nat)
    (reports : List SlotReport) : List (Envelope Nat) :=
  .caseStarted started testCase.id count {} ::
    reports.flatMap (SlotReport.envelopes started) ++
    [.caseFinished (some started) {} false]

/--
Messages report a test case once, as an attempt with an identifier and a
count: all its test steps in order, each from its start to its end, with
attachments to none but itself.
-/
def ReportsOnce (testCase : TestCase Nat) (started count : Nat)
    (messages : List (Envelope Nat)) : Prop :=
  ∃ reports : List SlotReport,
    reports.map (·.step) = testCase.steps.map (·.id) ∧
      (∀ report ∈ reports, report.AttachesOwn started) ∧
      messages = testCase.reported started count reports

/-- The messages of a finished attempt report the test case that describes
it. -/
theorem Executable.messages_eq_reported
    {registry : Registry Host} {testCase : TestCase Nat}
    {executable : Executable Host}
    (describes : Describes registry testCase executable)
    (spec : Spec Host) (running : Running Host) (error : Option String)
    (recognised :
      error.any Failure.isHookText = true →
        ∃ keyword message,
          (executable.body spec running).1 =
            .failed (.hook keyword message)) :
    executable.messages spec running error =
      testCase.reported running.stage.next running.attempt.count.toNat
        ((executable.course spec running).completed error) := by
  have complete :
      error.any Failure.isHookText = true →
        (executable.course spec running).left = [] := by
    intro hooked
    obtain ⟨keyword, message, ended⟩ := recognised hooked
    rw [ending_body] at ended
    exact Course.left_of_hook ended
  rw [messages, Course.messages_eq_completed _ _ complete,
    TestCase.reported, describes.id]

/--
An attempt at a test of a composed spec that is finished reports the only test
case of the test once, under an identifier that no earlier message has drawn.
It may have come to its end or been suspended, in a session that any steps lead
to; the text given to `finish` reads like the failure of a hook only if a hook
failed.

Each attachment is to a run of a test step that has been started, and to the
one that is going on if bodies attach through their own contexts.
-/
theorem finished_attempt_reports_test_case
    {registry : Registry Host} {source : String} {document : Document Nat}
    {pickles : List (Pickle Nat)} {options : ComposeOptions}
    {first next : Nat} {spec : Spec Host}
    {collected : List (Envelope Nat)}
    (composed :
      (Spec.compose registry source document pickles options).run first =
        ((spec, collected), next))
    {host : Host} {session : Session Host}
    (reaches :
      Session.Reaches spec (.start spec collected host next) session)
    {index : Nat} {executable : Executable Host}
    (executes : Session.Executes spec index executable)
    (error : Option String)
    (recognised :
      error.any Failure.isHookText = true →
        ∃ keyword message,
          (executable.body spec (session.running index)).1 =
            .failed (.hook keyword message)) :
    ∃ (testCase : TestCase Nat) (reports : List SlotReport)
        (messages : List (Envelope Nat)),
      .testCase testCase ∈ collected ∧
        testCase.id = executable.testCaseId ∧
        (∀ other : TestCase Nat, .testCase other ∈ collected →
          other.id = testCase.id → other = testCase) ∧
        (testCase.steps.map (·.id)).Nodup ∧
        (∀ envelope ∈ session.stage.messages,
          session.stage.next ∉ envelope.drawn) ∧
        ((executable.body spec
            (session.running index)).2.finish error).stage.next =
          session.stage.next + 1 ∧
        ((executable.body spec
            (session.running index)).2.finish error).stage.messages =
          session.stage.messages ++ messages ∧
        messages =
          testCase.reported session.stage.next
            (session.running index).attempt.count.toNat reports ∧
        reports.map (·.step) = testCase.steps.map (·.id) ∧
        AttachToStarted session.stage.stepRuns messages ∧
        (registry.AttachesOwn →
          ∀ report ∈ reports, report.AttachesOwn session.stage.next) := by
  obtain ⟨test, listed, executed⟩ := executes
  obtain ⟨testCase, member, describes, distinct, unique⟩ :=
    Spec.exists_testCase composed (List.mem_of_getElem? listed) executed
  have sound : session.Sound spec :=
    reaches.sound (Session.start_sound composed host)
  obtain rfl := Spec.registry_of_compose composed
  refine
    ⟨testCase, (executable.course spec (session.running index)).completed
        error,
      executable.messages spec (session.running index) error,
      member, describes.id, unique, distinct, ?_, ?_, ?_, ?_, ?_, ?_, ?_⟩
  · intro envelope earlier drawn
    exact Nat.lt_irrefl _ (sound.numbered envelope earlier _ drawn)
  · rw [Executable.finish_body]
    rfl
  · rw [Executable.finish_body]
    rfl
  · exact executable.messages_eq_reported describes spec
      (session.running index) error recognised
  · rw [describes.stepIds]
    exact Course.steps_completed spec executable.pickle session.stage.next
      executable.slots session.stage.host session.stage.stepRuns error
  · exact executable.attachToStarted_messages spec (session.running index)
      error
  · intro own report reported
    exact Course.attachesOwn_of_mem_completed
      (own.executable describes session.stage.next) reported

namespace Sample

theorem attachesOwn_registry (ending : Option (Ending Outcome)) :
    (registry ending).AttachesOwn where
  steps := by
    intro definition member context host attached among
    obtain ⟨ends, -, rfl⟩ := Option.map_eq_some_iff.mp
      (Option.mem_toList.mp member)
    exact Scope.target_of_mem_attach among
  hooks := by
    intro hook member context host attached among
    rcases List.mem_cons.mp member with rfl | last
    · exact Scope.target_of_mem_attach among
    · cases List.mem_singleton.mp last
      exact Scope.target_of_mem_attach among

end Sample

/-- A step that is suspended leaves it to `finish` to report the rest. -/
theorem suspended_attempt_reports_test_case :
    let spec := (Sample.composed (some .suspended) "a step").1.1
    let session := Sample.session (some .suspended) "a step"
    let after :=
      ((Sample.executable "a step").body spec
        (session.running 0)).2.finish none
    ∃ (testCase : TestCase Nat) (messages : List (Envelope Nat)),
      .testCase testCase ∈ session.stage.messages ∧
        testCase.id = 13 ∧
        ReportsOnce testCase 14 0 messages ∧
        after.stage.messages = session.stage.messages ++ messages := by
  intro spec session after
  have composed :
      (Spec.compose (Sample.registry (some .suspended)) "" Sample.document
          [Sample.pickle "a step"] {}).run 9 =
        ((spec, session.stage.messages), 14) := rfl
  have reaches :
      Session.Reaches spec (.start spec session.stage.messages [] 14)
        session := .refl
  have executes :
      Session.Executes spec 0 (Sample.executable "a step") :=
    ⟨_, rfl, rfl⟩
  obtain ⟨testCase, reports, messages, member, id, -, -, -, -, appended,
      same, steps, -, own⟩ :=
    finished_attempt_reports_test_case composed reaches executes none
      (by simp)
  exact ⟨testCase, messages, member, id,
    ⟨reports, steps, own (Sample.attachesOwn_registry _), same⟩, appended⟩

namespace Sample

/-- A definition whose body keeps its context in the host, and attaches a text
through the first context that has been kept. -/
def keeping : StepDefinition (List Scope) where
  id := 0
  expression := .regular ⟨"", .empty⟩
  body := fun context kept =>
    { host := kept ++ [context.scope]
      attachments :=
        kept.head?.toList.flatMap (·.attach "late" "text/plain")
      ending := .completed .passed }
  site := none

/-- The feature with this definition and without hooks. -/
def composedKeeping :
    (Spec (List Scope) × List (Envelope Nat)) × Nat :=
  (Spec.compose { steps := [keeping] } "" document [pickle "a step"] {}).run
    9

def keepingExecutable : Executable (List Scope) where
  pickle := pickle "a step"
  testCaseId := 11
  slots :=
    [ .step 9 { id := 5, text := "a step", nodeIds := [7], kind := .context },
      .step 10
        { id := 6, text := "a step", nodeIds := [8], kind := .action } ]

/-- The session of this feature before any attempt. -/
def keepingSession : Session (List Scope) :=
  .start composedKeeping.1.1 composedKeeping.1.2 [] composedKeeping.2

/-- The second step attaches to the first, so that the report of the test case
shows an attachment to a test step between the start and the end of another. -/
theorem kept_context_attaches_elsewhere :
    let spec := composedKeeping.1.1
    let session := keepingSession
    let ended := keepingExecutable.body spec (session.running 0)
    Session.Executes spec 0 keepingExecutable ∧
      ended.1 = .done .passed ∧
      ¬ ∃ (testCase : TestCase Nat) (messages : List (Envelope Nat)),
        .testCase testCase ∈ composedKeeping.1.2 ∧
          testCase.id = keepingExecutable.testCaseId ∧
          ReportsOnce testCase session.stage.next 0 messages ∧
          (ended.2.finish none).stage.messages =
            session.stage.messages ++ messages := by
  intro spec session ended
  refine ⟨⟨_, rfl, rfl⟩, by decide, ?_⟩
  rintro ⟨testCase, _, -, -, ⟨reports, -, own, rfl⟩, appended⟩
  have told : (ended.2.finish none).stage.messages =
      session.stage.messages ++
        [ .caseStarted 12 11 0 {},
          .stepStarted 9 12 {},
          Running.finishedEnvelope 12 9 .passed none,
          .stepStarted 10 12 {},
          .attachment 12 9 "late" "text/plain" .identity,
          Running.finishedEnvelope 12 10 .passed none,
          .caseFinished (some 12) {} false ] := rfl
  rw [told] at appended
  have same := (List.cons.inj (List.append_cancel_left appended)).2
  -- The reports can only be of the two steps, and the attachment can only be in
  -- the second of them.
  rcases reports with _ | ⟨⟨_, _ | ⟨attached, _⟩, _, _⟩, reports⟩
  · simp at same
  · rcases reports with _ | ⟨⟨step, _ | ⟨attached, _⟩, _, _⟩, reports⟩
    · simp [SlotReport.envelopes, SlotReport.opening] at same
    · simp [SlotReport.envelopes, SlotReport.opening,
        Running.finishedEnvelope] at same
    · have target : attached.target = ⟨step, session.stage.next⟩ :=
        own _ (.tail _ (.head _)) attached (.head _)
      simp [SlotReport.envelopes, SlotReport.opening, Attachment.envelope,
        target] at same
      omega
  · simp [SlotReport.envelopes, SlotReport.opening, Attachment.envelope,
      Running.finishedEnvelope] at same

end Sample

end ScenarioRunner
