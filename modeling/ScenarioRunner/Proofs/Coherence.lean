import ScenarioRunner.Proofs.ComposedMessages
import ScenarioRunner.Proofs.RunHistory

/-!
# Coherence of all messages

The messages of a composed spec announce its tests, and runs only add to them.
What an attempt adds is the declaration of the attempt under the next
identifier, messages about test steps of its test, and its end.  What it
attaches through kept contexts is to runs of test steps that messages before it
start, and so refers to what is known.  So an attempt preserves that tests are
announced, and hence retries, runs of all tests, and any number of such runs
do.

The main statement is `Session.messages_coherent`.
-/

namespace ScenarioRunner

variable {Host : Type}

/-! ## What an attempt adds -/

namespace Envelope

variable {envelope : Envelope Nat} {step started : Nat}

theorem declared_of_about? (about : envelope.about? = some (step, started)) :
    envelope.declared = [] := by
  cases envelope <;> first | rfl | cases about

theorem references_of_about?
    (about : envelope.about? = some (step, started)) :
    envelope.references = stepReferences step started := by
  cases envelope <;> cases about <;> rfl

theorem references_of_stepRun? {run : StepRun}
    (starts : envelope.stepRun? = some run) :
    envelope.references = stepReferences run.step run.started := by
  cases envelope <;> cases starts
  rfl

end Envelope

/-- The runs of test steps that messages start refer to what is known. -/
theorem Resolved.stepReferences_subset {messages : List (Envelope Nat)}
    (resolved : Resolved [] messages) {run : StepRun}
    (started : run ∈ messages.filterMap Envelope.stepRun?) :
    Envelope.stepReferences run.step run.started ⊆
      (messages.flatMap Envelope.declared).map some := by
  obtain ⟨message, member, starts⟩ := List.mem_filterMap.mp started
  rw [← Envelope.references_of_stepRun? starts]
  exact resolved.references_subset member

/-- A message is what an attempt tells about the slots of a test, or says that
the attempt has finished. -/
def Executable.Tells (executable : Executable Host) (started : Nat)
    (runs : List StepRun) (message : Envelope Nat) : Prop :=
  Course.TellsOf executable.slots started runs message ∨
    message = .caseFinished (some started) {} false

namespace Executable.Tells

variable {executable : Executable Host} {started : Nat}
variable {runs : List StepRun} {message : Envelope Nat}

theorem declared (tells : executable.Tells started runs message) :
    message.declared = [] := by
  rcases tells with told | rfl
  · exact Envelope.declared_of_about? told.exists_about.choose_spec
  · rfl

theorem references_subset (tells : executable.Tells started runs message)
    {known : List Declaration} (announced : executable.Announced known)
    (attempted : ⟨.attempt, started⟩ ∈ known)
    (earlier : ∀ run ∈ runs,
      Envelope.stepReferences run.step run.started ⊆ known.map some) :
    message.references ⊆ known.map some := by
  have attempt : some ⟨.attempt, started⟩ ∈ known.map some :=
    List.mem_map_of_mem attempted
  rcases tells with told | rfl
  · cases told with
    | @slot slot listed about =>
        rw [Envelope.references_of_about? about]
        have step : some ⟨.testStep, slot.id⟩ ∈ known.map some :=
          List.mem_map_of_mem (announced.slots slot listed)
        simpa [Envelope.stepReferences] using And.intro step attempt
    | other among shown =>
        rw [shown]
        exact earlier _ among
  · exact List.cons_subset.mpr ⟨attempt, List.nil_subset _⟩

end Executable.Tells

theorem Executable.Announced.mono {executable : Executable Host}
    {known more : List Declaration}
    (announced : executable.Announced known) (subset : known ⊆ more) :
    executable.Announced more where
  testCase := subset announced.testCase
  slots := fun slot listed => subset (announced.slots slot listed)

namespace Spec.Announced

variable {spec : Spec Host} {next : Nat} {messages : List (Envelope Nat)}

/-- Identifiers may be drawn without being declared. -/
theorem mono (announced : spec.Announced next messages) {later : Nat}
    (advanced : next ≤ later) : spec.Announced later messages where
  numbered := announced.numbered.mono advanced
  resolved := announced.resolved
  tests := announced.tests

/-- An attempt at an announced test may be told about. -/
theorem attempt (announced : spec.Announced next messages)
    {executable : Executable Host}
    (known : executable.Announced (messages.flatMap Envelope.declared))
    (count : Nat) {told : List (Envelope Nat)}
    (tells : ∀ message ∈ told,
      executable.Tells next (messages.filterMap Envelope.stepRun?)
        message) :
    spec.Announced (next + 1)
      (messages ++
        .caseStarted next executable.testCaseId count {} :: told) := by
  have silent : told.flatMap Envelope.declared = [] :=
    List.flatMap_eq_nil_iff.mpr fun message member =>
      (tells message member).declared
  have declared :
      (messages ++
          .caseStarted next executable.testCaseId count {} ::
            told).flatMap Envelope.declared =
        messages.flatMap Envelope.declared ++ [⟨.attempt, next⟩] := by
    rw [List.flatMap_append, List.flatMap_cons, silent, List.append_nil]
    rfl
  constructor
  · rw [declared, List.map_append]
    exact announced.numbered.append 1
  · refine announced.resolved.append ⟨?_, ?_⟩
    · exact List.cons_subset.mpr
        ⟨List.mem_map_of_mem known.testCase, List.nil_subset _⟩
    · refine .of_references fun message member => ?_
      refine (tells message member).references_subset
        (known.mono (List.subset_append_left _ _)) ?_ fun run started => ?_
      · exact List.mem_append_right _ (List.mem_singleton_self _)
      · rw [List.map_append]
        exact List.subset_append_of_subset_left _
          (announced.resolved.stepReferences_subset started)
  · intro test listed executable executes
    rw [declared]
    exact
      (announced.tests test listed executable executes).mono
        (List.subset_append_left _ _)

/-- Something may be attached to runs of test steps that have been started. -/
theorem attach (announced : spec.Announced next messages)
    {attachments : List Attachment}
    (known : ∀ attached ∈ attachments,
      attached.target ∈ messages.filterMap Envelope.stepRun?) :
    spec.Announced next
      (messages ++ attachments.map Attachment.envelope) := by
  have declared :
      (messages ++ attachments.map Attachment.envelope).flatMap
          Envelope.declared =
        messages.flatMap Envelope.declared := by
    have silent :
        (attachments.map Attachment.envelope).flatMap Envelope.declared =
          [] := by
      simp [List.flatMap_map, Attachment.envelope, Envelope.declared]
    rw [List.flatMap_append, silent, List.append_nil]
  constructor
  · rw [declared]
    exact announced.numbered
  · refine announced.resolved.append (.of_references ?_)
    intro message member
    obtain ⟨attached, listed, rfl⟩ := List.mem_map.mp member
    exact announced.resolved.stepReferences_subset (known attached listed)
  · rw [declared]
    exact announced.tests

/-- All messages are coherent, also with the end of the run. -/
theorem coherent (announced : spec.Announced next messages) :
    Coherent messages ∧ Coherent (messages ++ [.runFinished {}]) := by
  refine ⟨⟨announced.numbered.distinct, announced.resolved⟩, ?_, ?_⟩
  · rw [List.flatMap_append]
    simpa [Envelope.declared] using announced.numbered.distinct
  · exact announced.resolved.append ⟨List.nil_subset _, trivial⟩

end Spec.Announced

/-! ## Attempts and runs -/

/-- The messages on a stage announce the tests of a spec. -/
def Stage.Announces (spec : Spec Host) (stage : Stage Host) : Prop :=
  spec.Announced stage.next stage.messages

section Run

variable {spec : Spec Host} (newWorld : WorldMaker Host)
variable {test : Test Host} {executable : Executable Host}

/-- A test that is attempted once stays announced, whether there is a world,
and whether the attempt comes to its end. -/
theorem Executable.attemptOnce_announces (listed : test ∈ spec.tests)
    (executes : test.executable = some executable)
    {before : Running Host} (announces : before.stage.Announces spec) :
    (executable.attemptOnce spec newWorld before).2.stage.Announces
      spec := by
  rcases world : newWorld before.stage.host with ⟨_ | _, host⟩
  · simp only [attemptOnce, world]
    exact announces
  · have known := announces.tests test listed executable executes
    -- Whether it is suspended or not, an attempt is declared first, and what
    -- follows is about the slots of its own test.
    have reported {told : List (Envelope Nat)}
        (tells : ∀ message ∈ told,
          executable.Tells before.stage.next before.stage.stepRuns
            message) :=
      Spec.Announced.attempt announces known before.attempt.count.toNat
        tells
    rw [attemptOnce_of_world world (Prod.eta _).symm]
    split
    · simp only [Stage.Announces, next_body, messages_body]
      exact reported fun message member =>
        Or.inl (Course.tellsOf_of_mem_envelopes member)
    · simp only [Stage.Announces, finish_body, messages]
      refine reported fun message member => ?_
      rcases List.mem_append.mp member with told | finished
      · exact Or.inl (Course.tellsOf_of_mem_messages told)
      · exact Or.inr (List.mem_singleton.mp finished)

/-- A test stays announced however often it is retried. -/
theorem Executable.run_announces (listed : test ∈ spec.tests)
    (executes : test.executable = some executable) (retries : Nat)
    {before : Running Host} (announces : before.stage.Announces spec) :
    (executable.run spec newWorld retries before).2.stage.Announces
      spec := by
  have once :=
    executable.attemptOnce_announces newWorld listed executes announces
  -- An attempt that fails leaves the tests announced for the next one.
  induction retries generalizing before with
  | zero => exact once
  | succ retries ih =>
      rcases attempted : executable.attemptOnce spec newWorld before with
        ⟨ended, after⟩
      rw [attempted] at once
      simp only [run, attempted]
      cases ended with
      | failed message =>
          exact ih once (attemptOnce_announces newWorld listed executes once)
      | _ => exact once

theorem Test.run_announces (listed : test ∈ spec.tests) (retries : Nat)
    {before : Running Host} (announces : before.stage.Announces spec) :
    (test.run spec newWorld retries before).2.stage.Announces spec := by
  cases executes : test.executable with
  | none =>
      simp only [Test.run, executes]
      exact announces
  | some executable =>
      simp only [Test.run, executes]
      exact executable.run_announces newWorld listed executes _ announces

/-- All tests stay announced while some of them run. -/
theorem runTests_announces {retries : Nat} {tests : List (Test Host)}
    (listed : ∀ test ∈ tests, test ∈ spec.tests)
    {attempts : List Attempt} {stage : Stage Host}
    (announces : stage.Announces spec) :
    (runTests spec newWorld retries tests attempts stage).2.2.Announces
      spec := by
  induction tests generalizing attempts stage with
  | nil => exact announces
  | cons test tests ih =>
      cases attempts with
      | nil => exact announces
      | cons attempt attempts =>
          rw [List.forall_mem_cons] at listed
          have own :
              (test.run spec newWorld retries
                ⟨attempt, stage⟩).2.stage.Announces spec :=
            test.run_announces newWorld listed.1 retries announces
          rcases once : test.run spec newWorld retries ⟨attempt, stage⟩ with
            ⟨ended, after⟩
          rw [once] at own
          simp only [runTests, once]
          cases ended.summary? test.name with
          | none => exact own
          | some summary => exact ih listed.2 own

end Run

/-! ## Sessions -/

namespace Session

/-- What happens to a session while its spec is run any number of times. -/
inductive Continues (spec : Spec Host) :
    Session Host → Session Host → Prop where
  /-- All tests are run, with any worlds and retries. -/
  | run {session : Session Host} (newWorld : WorldMaker Host)
      (retries : Nat) :
      Continues spec session (session.run spec newWorld retries).2
  /-- Something outside of the tests changes the host. -/
  | enter {session : Session Host} (host : Host) :
      Continues spec session (session.enter host)
  /-- Something outside of the tests attaches through kept contexts. -/
  | attach {session : Session Host} (attachments : List Attachment) :
      Continues spec session (session.attach attachments)
  /-- Something else draws identifiers from the supply. -/
  | draw {session : Session Host} {later : Nat}
      (advanced : session.stage.next ≤ later) :
      Continues spec session
        { session with stage := { session.stage with next := later } }

/-- Runs preserve that tests are announced. -/
theorem Continues.announces {spec : Spec Host}
    {before after : Session Host} (continues : Continues spec before after)
    (announces : before.stage.Announces spec) :
    after.stage.Announces spec := by
  cases continues with
  | run newWorld retries =>
      exact runTests_announces newWorld (fun _ member => member) announces
  | enter host => exact announces
  | attach attachments =>
      exact Spec.Announced.attach announces fun attached member =>
        of_decide_eq_true (List.mem_filter.mp member).2
  | draw advanced => exact Spec.Announced.mono announces advanced

theorem announces_of_continues {spec : Spec Host}
    {before after : Session Host}
    (continued : Relation.ReflTransGen (Continues spec) before after)
    (announces : before.stage.Announces spec) :
    after.stage.Announces spec := by
  induction continued with
  | refl => exact announces
  | tail _ continues ih => exact continues.announces ih

/--
All messages of a session are coherent: no identifier is declared twice, and
every reference is to an entity of its kind that an earlier message declares.
The file of the spec has been read and the definitions have been collected and
compiled in any order, from one supply of identifiers, and the spec has been
run any number of times.
-/
theorem messages_coherent [FeatureSyntax]
    {first between : Nat} {registry : Registry Host}
    {files : List FeatureFile}
    (prepared :
      Preparation.Reaches (.start first)
        ⟨.compiled registry, files, between⟩)
    {file : FeatureFile} (read : file ∈ files)
    {source : String} {options : ComposeOptions} {next : Nat}
    {spec : Spec Host} {collected : List (Envelope Nat)}
    (composed :
      (Spec.compose registry source file.document file.pickles options).run
          between =
        ((spec, collected), next))
    {host : Host} {session : Session Host}
    (continued :
      Relation.ReflTransGen (Continues spec)
        (.start spec collected host next) session) :
    Coherent session.stage.messages ∧ Coherent session.allMessages := by
  have sound := prepared.sound (Preparation.start_sound first)
  obtain ⟨refers, numbered⟩ := sound.files file read
  have distinct :
      Numbered between
        ((file.document.declared ++
            file.pickles.flatMap Pickle.declared ++
            registry.declared).map Declaration.id) := by
    rw [List.map_append]
    exact numbered
  have announced : spec.Announced next collected :=
    Spec.compose_announced refers distinct composed
  have announces : session.stage.Announces spec :=
    announces_of_continues continued announced
  exact Spec.Announced.coherent announces

end Session

namespace Sample

/-- The text of a feature with one step. -/
def featureText : String :=
  "Feature: A\n\n  Scenario: B\n    Given a step\n"

/-- The file of this text, if the first identifier has been drawn before. -/
def featureFile : FeatureFile where
  source := featureText
  document :=
    { uri := "a.feature"
      feature := some
        { location := ⟨1, some 1⟩
          tags := []
          keyword := "Feature"
          name := "A"
          description := ""
          children := [.scenario
            { id := 1
              location := ⟨3, some 3⟩
              tags := []
              keyword := "Scenario"
              name := "B"
              description := ""
              steps :=
                [ { id := 2
                    location := ⟨4, some 5⟩
                    keyword := "Given "
                    kind := .context
                    text := "a step" } ]
              examples := [] }] } }
  pickles :=
    [ { id := 4
        uri := "a.feature"
        name := "B"
        steps :=
          [ { id := 3, text := "a step", nodeIds := [2], kind := .context } ]
        tags := []
        nodeIds := [1] } ]

/-- A hook that is defined before the file is read, and a step definition that
is compiled behind it. -/
def featureRegistry : Registry (List String) where
  steps :=
    [ { id := 5
        expression := .regular ⟨"a", .literal 'a'⟩
        body := stepBody (.failed "no")
        site := none } ]
  hooks := [hook 0 .before]

/-- The feature is run twice, with one retry of its failing step. -/
theorem repeated_messages_coherent :
    let composed :=
      (Spec.compose featureRegistry featureText featureFile.document
        featureFile.pickles {}).run 6
    let spec := composed.1.1
    let once (session : Session (List String)) :=
      (session.run spec (fun log => (.ok (), log)) 1).2
    let session :=
      once (once (.start spec composed.1.2 [] composed.2))
    session.stage.messages.length = 39 ∧
      Coherent session.allMessages := by
  intro composed spec once session
  let empty : RegistryBuilder (List String) := {}
  let hooked : RegistryBuilder (List String) :=
    { hooks := [hook 0 .before] }
  let defined : RegistryBuilder (List String) :=
    { steps :=
        [ ⟨.regular ⟨"a", .literal 'a'⟩, stepBody (.failed "no"),
            none⟩ ]
      hooks := [hook 0 .before] }
  have hook : empty.add 0
      (.hook .before none (hookBody .before) none) =
        .ok (hooked, 1) := rfl
  have read :
      FeatureFile.parse "a.feature" featureText 1 =
        .ok (featureFile, 5) := by
    decide +kernel
  have step : hooked.add 5
      (.step (.regular "a") (stepBody (.failed "no")) none) =
        .ok (defined, 5) := rfl
  have compiled : defined.finalize 5 = .ok (featureRegistry, 6) := rfl
  have prepared :
      Preparation.Reaches (.start 0)
        ⟨.compiled featureRegistry, [featureFile], 6⟩ :=
    .tail (.tail (.tail (.tail .refl (.define _ hook)) (.read _ _ read))
      (.define _ step)) (.compile compiled)
  have twice :
      Relation.ReflTransGen (Session.Continues spec)
        (.start spec composed.1.2 [] composed.2) session :=
    .tail (.tail .refl (.run _ 1)) (.run _ 1)
  have composes :
      (Spec.compose featureRegistry featureText featureFile.document
          featureFile.pickles {}).run 6 =
        ((spec, composed.1.2), composed.2) := rfl
  have coherent :=
    Session.messages_coherent prepared (List.mem_singleton_self featureFile)
      composes twice
  exact ⟨by decide +kernel, coherent.2⟩

end Sample

end ScenarioRunner
