import ScenarioRunner.Project.Run
import ScenarioRunner.Proofs.AttemptMessages
import ScenarioRunner.Proofs.RunHistory
import ScenarioRunner.Proofs.Composition

/-!
# The messages about a feature file

The messages about a feature file show the text and the document, the pickles,
the definitions, the start of the run and the test cases.  Running the tests
adds messages about attempts, and the end of the run comes last.

The main statement is `Session.framed_of_run`.
-/

namespace ScenarioRunner

variable {Host : Type}

/-! ## What runs add -/

/-- Messages grow by messages about attempts. -/
def GrowsByAttempts (before after : List (Envelope Nat)) : Prop :=
  ∃ told, after = before ++ told ∧
    ∀ message ∈ told, ∃ started, message.attempt? = some started

namespace GrowsByAttempts

theorem refl (messages : List (Envelope Nat)) :
    GrowsByAttempts messages messages :=
  ⟨[], (List.append_nil _).symm, List.forall_mem_nil _⟩

theorem trans {first second third : List (Envelope Nat)}
    (grows : GrowsByAttempts first second)
    (later : GrowsByAttempts second third) :
    GrowsByAttempts first third := by
  obtain ⟨early, rfl, earlyTold⟩ := grows
  obtain ⟨late, rfl, lateTold⟩ := later
  refine ⟨early ++ late, List.append_assoc .., ?_⟩
  exact List.forall_mem_append.mpr ⟨earlyTold, lateTold⟩

end GrowsByAttempts

theorem Executable.exists_attempt_of_mem_messages {spec : Spec Host}
    {executable : Executable Host} {running : Running Host}
    {error : Option String} {message : Envelope Nat}
    (member : message ∈ executable.messages spec running error) :
    ∃ started, message.attempt? = some started := by
  rcases List.mem_append.mp member with reported | finished
  · rcases List.mem_cons.mp reported with rfl | played
    · exact ⟨_, rfl⟩
    · obtain ⟨⟨step, started⟩, about⟩ :=
        (Course.tellsOf_of_mem_messages played).exists_about
      exact ⟨started, Envelope.attempt?_of_about? about⟩
  · rw [List.mem_singleton.mp finished]
    exact ⟨_, rfl⟩

section Run

variable {spec : Spec Host} {newWorld : WorldMaker Host}

/-- A trial adds messages about its attempt. -/
theorem Trial.Made.grows {executable : Executable Host}
    {trial : Trial Host} (made : trial.Made spec newWorld executable) :
    GrowsByAttempts trial.before.stage.messages
      trial.after.stage.messages := by
  cases made with
  | worldless none => exact .refl _
  | @played before ended host ending world played complete =>
      have finished :=
        executable.finish_body spec (before.enter host) ending.error?
      rw [played] at finished
      refine
        ⟨executable.messages spec (before.enter host) ending.error?, ?_, ?_⟩
      · rw [finished]
        rfl
      · intro message member
        exact Executable.exists_attempt_of_mem_messages member

theorem TestHistory.Holds.grows {retries : Nat} {history : TestHistory Host}
    (holds : history.Holds spec newWorld retries) :
    GrowsByAttempts history.before.stage.messages
      history.after.stage.messages := by
  cases holds with
  | skipped unexecuted => exact .refl _
  | @tried test executable before after trials ended executed tried =>
      let grown (running : Running Host) : Prop :=
        GrowsByAttempts before.stage.messages running.stage.messages
      have preserved (trial : Trial Host) (member : trial ∈ trials)
          (grows : grown trial.before) : grown trial.after :=
        grows.trans (tried.made trial member).grows
      exact (tried.leads.preserves preserved (.refl _)).2

/-- A run that comes to an end adds messages about its attempts. -/
theorem Session.grows_of_run {start final : Session Host}
    {retries : Nat} {summary : Summary}
    (fits : start.attempts.length = spec.tests.length)
    (ran : start.run spec newWorld retries = (some summary, final)) :
    GrowsByAttempts start.stage.messages final.stage.messages := by
  rcases run :
      runTests spec newWorld retries spec.tests start.attempts start.stage with
    ⟨found, attempts, stage⟩
  simp only [Session.run, run] at ran
  cases ran
  obtain ⟨histories, history⟩ := exists_runHistory fits run
  let grown (stage : Stage Host) : Prop :=
    GrowsByAttempts start.stage.messages stage.messages
  have preserved (test : TestHistory Host) (member : test ∈ histories)
      (grows : grown test.before.stage) : grown test.after.stage :=
    grows.trans (history.holds test member).grows
  exact (history.leads.preserves preserved (.refl _)).2

end Run

/-! ## All messages -/

/-- The messages about a feature file whose tests have been run. -/
structure Framed (file : FeatureFile) (registry : Registry Host)
    (testCases : List (TestCase Nat))
    (told messages : List (Envelope Nat)) : Prop where
  whole :
    messages =
      [.source file.document.uri file.source, .document file.document] ++
        file.pickles.map .pickle ++
        registry.steps.map StepDefinition.envelope ++
        registry.hooks.map Hook.envelope ++
        [.runStarted {}] ++
        testCases.map .testCase ++
        told ++
        [.runFinished {}]
  told : ∀ message ∈ told, ∃ started, message.attempt? = some started

/-- The messages of a run that comes to an end, which starts where the tests
have been composed. -/
theorem Session.framed_of_run {registry : Registry Host} {file : FeatureFile}
    {options : ComposeOptions} {first next : Nat} {spec : Spec Host}
    {collected : List (Envelope Nat)}
    (composed :
      (Spec.compose registry file.source file.document file.pickles
        options).run first = ((spec, collected), next))
    {host : Host} {number retries : Nat} {newWorld : WorldMaker Host}
    {summary : Summary} {session : Session Host}
    (ran :
      (Session.start spec collected host number).run spec newWorld retries =
        (some summary, session)) :
    ∃ testCases told,
      Framed file registry testCases told session.allMessages := by
  have consists :=
    Spec.compose_consists (fun _ => True) registry file.source file.document
      file.pickles options (fun setting _ _ _ _ _ => .trivial _) first
  rw [composed] at consists
  obtain ⟨-, testCases, opening, -⟩ := consists
  have fits :
      (Session.start spec collected host number).attempts.length =
        spec.tests.length := by
    rw [Session.start, List.length_map]
  obtain ⟨told, grown, about⟩ := Session.grows_of_run fits ran
  refine ⟨testCases, told, ?_, about⟩
  rw [Session.allMessages, grown]
  change collected = _ at opening
  change collected ++ told ++ [.runFinished {}] = _
  rw [opening, Compose.openingMessages, Registry.envelopes]
  simp only [List.append_assoc]

end ScenarioRunner
