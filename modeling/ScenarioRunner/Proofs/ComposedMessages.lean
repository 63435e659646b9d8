import ScenarioRunner.Proofs.Composition
import ScenarioRunner.Proofs.Preparation

/-!
# The messages of a composed spec

The messages known before anything runs show a document, its pickles, the
definitions, and a test case for every pickle that is composed.  A test case
refers to its pickle and to definitions.  So these messages are coherent if the
identifiers of the file and of the definitions are distinct, and they declare
what the executable tests are going to report.

The main statement is `Spec.compose_announces`.
-/

namespace ScenarioRunner

variable {Host : Type}

open ScenarioRunner.Numbering (Ensures Draws)

/-! ## Test cases of pickles -/

/-- What slots may be there for comes from the registry or the pickle. -/
theorem Pickle.mem_work {pickle : Pickle Nat} {registry : Registry Host}
    {work : Hook Host ⊕ PickleStep Nat}
    (member : work ∈ pickle.work registry) :
    (∃ hook ∈ registry.hooks, work = .inl hook) ∨
      ∃ step ∈ pickle.steps, work = .inr step := by
  simp only [Pickle.work, Registry.hooksFor, List.mem_append, List.mem_map,
    List.mem_filter] at member
  rcases member with (⟨hook, ⟨listed, -⟩, rfl⟩ | ⟨step, listed, rfl⟩) |
    ⟨hook, ⟨listed, -⟩, rfl⟩
  · exact Or.inl ⟨hook, listed, rfl⟩
  · exact Or.inr ⟨step, listed, rfl⟩
  · exact Or.inl ⟨hook, listed, rfl⟩

/-- A test case shows a pickle: a test step for each hook and each step. -/
structure Shows (registry : Registry Host) (testCase : TestCase Nat)
    (pickle : Pickle Nat) : Prop where
  made : testCase.pickleId = pickle.id
  steps :
    ∃ slots : List (Slot Host),
      testCase.steps = slots.map (Compose.testStep registry) ∧
        slots.map Slot.work = pickle.work registry

namespace Shows

variable {registry : Registry Host} {pickle : Pickle Nat}

/-- A test step refers to a hook, or to a step of the pickle and the step
definitions that match it. -/
theorem testStep_refers {slot : Slot Host}
    (own : slot.work ∈ pickle.work registry) :
    (Compose.testStep registry slot).references ⊆
      pickle.declared ++ registry.declared := by
  intro reference member
  cases slot with
  | hook id hook =>
      obtain ⟨known, listed, same⟩ | ⟨_, _, other⟩ := Pickle.mem_work own
      · cases same
        simp only [Compose.testStep, TestStep.references,
          Option.toList_some, List.map_cons, List.map_nil,
          Option.toList_none, Option.getD_none, List.append_nil,
          List.mem_singleton] at member
        subst member
        have among : hook.declared ∈ registry.declared :=
          List.mem_append_right _ (List.mem_map_of_mem listed)
        exact List.mem_append_right _ among
      · cases other
  | step id step =>
      obtain ⟨_, _, other⟩ | ⟨known, listed, same⟩ := Pickle.mem_work own
      · cases other
      · cases same
        simp only [Compose.testStep, TestStep.references,
          Option.toList_some, List.map_cons, List.map_nil,
          Option.toList_none, Option.getD_some, List.nil_append,
          List.map_map, List.mem_append, List.mem_singleton, List.mem_map,
          Registry.matching, List.mem_filter] at member
        rcases member with rfl | ⟨definition, ⟨defined, -⟩, rfl⟩
        · refine List.mem_append_left _ (List.mem_append_left _ ?_)
          exact List.mem_map_of_mem listed
        · refine List.mem_append_right _ (List.mem_append_left _ ?_)
          exact List.mem_map_of_mem defined

theorem references_subset {testCase : TestCase Nat}
    (shows : Shows registry testCase pickle) :
    testCase.references ⊆ pickle.declared ++ registry.declared := by
  intro reference member
  rcases List.mem_cons.mp member with rfl | among
  · rw [shows.made]
    exact List.mem_append_left _ (by simp [Pickle.declared])
  · obtain ⟨slots, steps, work⟩ := shows.steps
    rw [steps, List.flatMap_map] at among
    obtain ⟨slot, listed, own⟩ := List.mem_flatMap.mp among
    refine testStep_refers ?_ own
    rw [← work]
    exact List.mem_map_of_mem listed

end Shows

theorem Compose.Setting.test_shows (setting : Compose.Setting Host) :
    setting.Makes fun part =>
      ∃ pickle ∈ setting.pickles, Shows setting.registry part.1 pickle := by
  intro name pickle member
  refine .bind (slots_work setting.registry pickle) fun slots work => ?_
  refine .bind (.trivial _) fun id _ => ?_
  have shown : ∃ other ∈ setting.pickles,
      Shows setting.registry
        { id
          pickleId := pickle.id
          steps := slots.map (testStep setting.registry) } other :=
    ⟨pickle, member, rfl, slots, rfl, work⟩
  split
  · exact .pure shown
  · split
    · exact .pure shown
    · exact .pure shown

/-! ## Opening messages -/

namespace Compose

@[simp]
theorem declared_envelopes (registry : Registry Host) :
    registry.envelopes.flatMap Envelope.declared = registry.declared := by
  rw [Registry.envelopes, Registry.declared, List.flatMap_append,
    List.flatMap_map, List.flatMap_map, List.map_eq_flatMap,
    List.map_eq_flatMap]
  rfl

/-- What the messages about the file and the definitions declare. -/
theorem declared_openingMessages (registry : Registry Host)
    (source : String) (document : Document Nat)
    (pickles : List (Pickle Nat)) :
    (openingMessages registry source document pickles).flatMap
        Envelope.declared =
      document.declared ++ pickles.flatMap Pickle.declared ++
        registry.declared := by
  simp [openingMessages, List.flatMap_map, Envelope.declared]

/-- The messages about definitions refer to nothing. -/
theorem resolved_envelopes (registry : Registry Host)
    (known : List Declaration) :
    Resolved known registry.envelopes := by
  refine .of_references fun message member => ?_
  simp only [Registry.envelopes, List.mem_append, List.mem_map] at member
  rcases member with ⟨definition, -, rfl⟩ | ⟨hook, -, rfl⟩
  · exact List.nil_subset _
  · exact List.nil_subset _

theorem resolved_openingMessages (registry : Registry Host)
    (source : String) {document : Document Nat}
    {pickles : List (Pickle Nat)}
    (refer : ∀ pickle ∈ pickles, pickle.references ⊆ document.declared) :
    Resolved []
      (openingMessages registry source document pickles) := by
  have opening :
      Resolved [] [.source document.uri source, .document document] :=
    ⟨List.nil_subset _, List.nil_subset _, trivial⟩
  have shown (known : List Declaration)
      (nodes : document.declared ⊆ known) :
      Resolved known (pickles.map .pickle) := by
    refine .of_references fun message member => ?_
    obtain ⟨pickle, listed, rfl⟩ := List.mem_map.mp member
    exact List.map_subset some (List.Subset.trans (refer pickle listed) nodes)
  have started (known : List Declaration) :
      Resolved known [.runStarted {}] :=
    ⟨List.nil_subset _, trivial⟩
  have nodes :
      document.declared ⊆
        [Envelope.source document.uri source,
          .document document].flatMap Envelope.declared := by
    simp [Envelope.declared]
  exact
    ((opening.append (shown _ nodes)).append
      (resolved_envelopes registry _)).append (started _)

end Compose

/-! ## Composed specs -/

/-- The test case of an executable test and its test steps are known. -/
structure Executable.Announced (known : List Declaration)
    (executable : Executable Host) : Prop where
  testCase : ⟨.testCase, executable.testCaseId⟩ ∈ known
  slots : ∀ slot ∈ executable.slots, ⟨.testStep, slot.id⟩ ∈ known

/--
Messages are coherent, with identifiers below the next one, and declare the
test cases of all executable tests of a spec.
-/
structure Spec.Announced (spec : Spec Host) (next : Nat)
    (messages : List (Envelope Nat)) : Prop where
  numbered :
    Numbered next
      ((messages.flatMap Envelope.declared).map Declaration.id)
  resolved : Resolved [] messages
  tests : ∀ test ∈ spec.tests, ∀ executable,
    test.executable = some executable →
      executable.Announced (messages.flatMap Envelope.declared)

theorem Describes.announced {registry : Registry Host}
    {testCase : TestCase Nat} {executable : Executable Host}
    (describes : Describes registry testCase executable)
    {messages : List (Envelope Nat)}
    (member : .testCase testCase ∈ messages) :
    executable.Announced (messages.flatMap Envelope.declared) where
  testCase := by
    refine List.mem_flatMap.mpr ⟨_, member, ?_⟩
    rw [← describes.id]
    exact List.mem_append_right _ (List.mem_singleton_self _)
  slots := by
    intro slot listed
    refine List.mem_flatMap.mpr ⟨_, member, ?_⟩
    have shown : slot.id ∈ testCase.steps.map (·.id) := by
      rw [describes.stepIds]
      exact List.mem_map_of_mem listed
    obtain ⟨step, among, same⟩ := List.mem_map.mp shown
    rw [← same]
    exact List.mem_append_left _ (List.mem_map_of_mem among)

@[simp]
theorem TestCase.map_declared (testCase : TestCase Nat) :
    testCase.declared.map Declaration.id = testCase.identifiers := by
  simp [declared, identifiers, Function.comp_def]

/--
The messages of a composed spec announce its tests, if the pickles refer to
nodes of the document and the identifiers of the file and of the definitions
are distinct.
-/
theorem Spec.compose_announced {registry : Registry Host} {source : String}
    {document : Document Nat} {pickles : List (Pickle Nat)}
    {options : ComposeOptions} {first next : Nat} {spec : Spec Host}
    {collected : List (Envelope Nat)}
    (refer : ∀ pickle ∈ pickles, pickle.references ⊆ document.declared)
    (numbered :
      Numbered first
        ((document.declared ++ pickles.flatMap Pickle.declared ++
          registry.declared).map Declaration.id))
    (composed :
      (Spec.compose registry source document pickles options).run first =
        ((spec, collected), next)) :
    spec.Announced next collected := by
  have consists :=
    compose_consists
      (fun part => ∃ pickle ∈ pickles, Shows registry part.1 pickle)
      registry source document pickles options
      (by rintro setting rfl rfl; exact setting.test_shows) first
  obtain ⟨count, advanced, drawn⟩ :=
    compose_draws registry source document pickles options first
  rw [composed] at consists advanced drawn
  obtain ⟨-, testCases, rfl, shown⟩ := consists
  simp only at advanced drawn
  subst advanced
  rw [Compose.drawn_collected, List.nil_append] at drawn
  -- Behind the identifiers of the file and of the definitions come those of
  -- the test cases, which are all that composing draws.
  constructor
  · rw [List.flatMap_append, Compose.declared_openingMessages,
      List.map_append, List.flatMap_map, List.map_flatMap]
    have identifiers :
        (testCases.flatMap fun testCase =>
          (Envelope.testCase testCase).declared.map Declaration.id) =
          List.range' first count := by
      simpa [Envelope.declared] using drawn
    rw [identifiers]
    exact numbered.append count
  · refine
      (Compose.resolved_openingMessages registry source refer).append ?_
    rw [List.nil_append, Compose.declared_openingMessages]
    refine .of_references fun message member => ?_
    obtain ⟨testCase, listed, rfl⟩ := List.mem_map.mp member
    obtain ⟨_, pickle, among, shows⟩ := shown.exists_part listed
    refine List.map_subset some
      (List.Subset.trans shows.references_subset ?_)
    refine List.append_subset.mpr ⟨?_, List.subset_append_right _ _⟩
    refine List.subset_append_of_subset_left _ ?_
    refine List.subset_append_of_subset_right _ ?_
    exact fun _ own => List.mem_flatMap.mpr ⟨pickle, among, own⟩
  · intro test listed executable executes
    obtain ⟨testCase, member, describes, -, -⟩ :=
      exists_testCase composed listed executes
    exact describes.announced member

end ScenarioRunner
