import Mathlib.Data.List.Flatten
import Mathlib.Data.List.Pairwise
import ScenarioRunner.Proofs.Drawing
import ScenarioRunner.Test.Suite

/-!
# What composing tests gives

Composing walks the document and draws an identifier for every slot and every
test.  Two things hold of it at every level of the walk, whatever the tags
select: the identifiers that the test cases show are exactly the numbers drawn,
in order, and what is ensured for the test of each pickle holds of all test
cases and tests (`Consists`).  In particular every executable test comes with a
test case that describes it.

The main statements are `Spec.drawn_lt_next` and `Spec.exists_testCase`.
-/

namespace ScenarioRunner

variable {Host : Type}

/-! ## Slots -/

/-- What a slot is there for, apart from its identifier. -/
def Slot.work : Slot Host → Hook Host ⊕ PickleStep Nat
  | .hook _ value => .inl value
  | .step _ value => .inr value

/--
What the slots of a test are there for: the matching hooks before, the steps,
and the matching hooks after, each in order.
-/
def Pickle.work (pickle : Pickle Nat) (registry : Registry Host) :
    List (Hook Host ⊕ PickleStep Nat) :=
  (registry.hooksFor .before pickle.tagNames).map .inl ++
    pickle.steps.map .inr ++
    (registry.hooksFor .after pickle.tagNames).map .inl

namespace Compose

open ScenarioRunner.Numbering (Ensures Draws)

@[simp]
theorem id_testStep (registry : Registry Host) (slot : Slot Host) :
    (testStep registry slot).id = slot.id := by
  cases slot <;> rfl

theorem slots_work (registry : Registry Host) (pickle : Pickle Nat) :
    Ensures (slots registry pickle)
      (fun slots => slots.map Slot.work = pickle.work registry) := by
  have hooks (keyword : HookKeyword) :
      Ensures
        ((registry.hooksFor keyword pickle.tagNames).mapM slots.hookSlot)
        (fun found => found.map Slot.work =
          (registry.hooksFor keyword pickle.tagNames).map .inl) :=
    .mapM_map fun hook =>
      .bind (.trivial _) fun id _ => .pure rfl
  have steps :
      Ensures (pickle.steps.mapM (@slots.stepSlot Host))
        (fun found => found.map Slot.work = pickle.steps.map .inr) :=
    .mapM_map fun step =>
      .bind (.trivial _) fun id _ => .pure rfl
  refine .bind (hooks .before) fun before beforeWork => ?_
  refine .bind steps fun middle middleWork => ?_
  refine .bind (hooks .after) fun after afterWork => ?_
  exact .pure (by simp [Pickle.work, beforeWork, middleWork, afterWork])

theorem slots_draws (registry : Registry Host) (pickle : Pickle Nat) :
    Draws [] (slots registry pickle) (fun slots => slots.map Slot.id) := by
  have hooks (hooks : List (Hook Host)) :
      Draws [] (hooks.mapM slots.hookSlot)
        (fun slots => slots.flatMap fun slot => [slot.id]) :=
    .mapM fun hook => .bind .fresh fun id => .pure rfl
  have steps :
      Draws [] (pickle.steps.mapM (@slots.stepSlot Host))
        (fun slots => slots.flatMap fun slot => [slot.id]) :=
    .mapM fun step => .bind .fresh fun id => .pure rfl
  refine .bind (hooks _) fun before => ?_
  refine .bind (steps.after _) fun middle => ?_
  refine .bind ((hooks _).after _) fun after => ?_
  exact .pure (by simp [← List.map_eq_flatMap])

end Compose

/-! ## Test cases -/

/-- The identifiers that a test case introduces: those of its steps and its
own. -/
def TestCase.identifiers (testCase : TestCase Nat) : List Nat :=
  testCase.steps.map (·.id) ++ [testCase.id]

/-- A test case shows an executable test: its slots, one test step each. -/
structure Describes (registry : Registry Host) (testCase : TestCase Nat)
    (executable : Executable Host) : Prop where
  id : testCase.id = executable.testCaseId
  steps :
    testCase.steps = executable.slots.map (Compose.testStep registry)
  work :
    executable.slots.map Slot.work = executable.pickle.work registry

/-- The test steps of a test case are those of the slots. -/
theorem Describes.stepIds {registry : Registry Host}
    {testCase : TestCase Nat} {executable : Executable Host}
    (describes : Describes registry testCase executable) :
    testCase.steps.map (·.id) = executable.slots.map Slot.id := by
  rw [describes.steps, List.map_map]
  exact List.map_congr_left fun slot _ =>
    Compose.id_testStep registry slot

/-- The hooks of a test are hooks of the registry. -/
theorem Describes.hook_mem {registry : Registry Host}
    {testCase : TestCase Nat} {executable : Executable Host}
    (describes : Describes registry testCase executable) {id : Nat}
    {hook : Hook Host} (member : .hook id hook ∈ executable.slots) :
    hook ∈ registry.hooks := by
  have work : .inl hook ∈ executable.pickle.work registry := by
    rw [← describes.work]
    exact List.mem_map_of_mem (f := Slot.work) member
  simp only [Pickle.work, Registry.hooksFor, List.mem_append,
    List.mem_map, List.mem_filter] at work
  rcases work with (⟨_, ⟨known, -⟩, ⟨⟩⟩ | ⟨_, -, ⟨⟩⟩) | ⟨_, ⟨known, -⟩, ⟨⟩⟩
  · exact known
  · exact known

/-- Every executable test among some tests is shown by some test case. -/
def Described (registry : Registry Host) (testCases : List (TestCase Nat))
    (tests : List (Test Host)) : Prop :=
  ∀ test ∈ tests, ∀ executable, test.executable = some executable →
    ∃ testCase ∈ testCases, Describes registry testCase executable

/-- Test cases and tests are those of composed parts that all have a
property. -/
def Consists (property : TestCase Nat × Option (Test Host) → Prop)
    (testCases : List (TestCase Nat)) (tests : List (Test Host)) : Prop :=
  ∃ composed : Compose.Composed Host,
    (∀ part ∈ composed, property part) ∧
      testCases = composed.map (·.1) ∧ tests = composed.filterMap (·.2)

namespace Consists

variable {property : TestCase Nat × Option (Test Host) → Prop}

theorem nil : Consists property [] [] :=
  ⟨[], List.forall_mem_nil _, rfl, rfl⟩

theorem append {firstCases secondCases : List (TestCase Nat)}
    {firstTests secondTests : List (Test Host)}
    (first : Consists property firstCases firstTests)
    (second : Consists property secondCases secondTests) :
    Consists property (firstCases ++ secondCases)
      (firstTests ++ secondTests) := by
  obtain ⟨early, earlyHolds, rfl, rfl⟩ := first
  obtain ⟨late, lateHolds, rfl, rfl⟩ := second
  exact
    ⟨early ++ late, List.forall_mem_append.mpr ⟨earlyHolds, lateHolds⟩,
      by simp, by simp⟩

theorem flatMap {Child : Type} {children : List Child}
    {testCases : Child → List (TestCase Nat)}
    {tests : Child → List (Test Host)}
    (each : ∀ child ∈ children,
      Consists property (testCases child) (tests child)) :
    Consists property (children.flatMap testCases)
      (children.flatMap tests) := by
  induction children with
  | nil => exact nil
  | cons child others ih =>
      rw [List.forall_mem_cons] at each
      exact each.1.append (ih each.2)

/-- Every test case is that of a part. -/
theorem exists_part {testCases : List (TestCase Nat)}
    {tests : List (Test Host)}
    (consists : Consists property testCases tests)
    {testCase : TestCase Nat} (member : testCase ∈ testCases) :
    ∃ test, property (testCase, test) := by
  obtain ⟨composed, holds, rfl, rfl⟩ := consists
  obtain ⟨⟨_, test⟩, among, rfl⟩ := List.mem_map.mp member
  exact ⟨test, holds _ among⟩

end Consists

namespace Compose.Setting

open ScenarioRunner.Numbering (Ensures Draws)

/-- What is composed for any of the pickles has a property. -/
def Makes (setting : Setting Host)
    (property : TestCase Nat × Option (Test Host) → Prop) : Prop :=
  ∀ name, ∀ pickle ∈ setting.pickles,
    Ensures (setting.test name pickle) property

/-- A composed test is described by the test case it comes with. -/
def Sound (registry : Registry Host)
    (composed : TestCase Nat × Option (Test Host)) : Prop :=
  Described registry [composed.1] composed.2.toList

theorem described_of_consists {registry : Registry Host}
    {testCases : List (TestCase Nat)} {tests : List (Test Host)}
    (consists : Consists (Sound registry) testCases tests) :
    Described registry testCases tests := by
  obtain ⟨composed, sound, rfl, rfl⟩ := consists
  intro test member executable executes
  obtain ⟨part, among, own⟩ := List.mem_filterMap.mp member
  obtain ⟨testCase, only, describes⟩ :=
    sound part among test (by simp [own]) executable executes
  cases List.mem_singleton.mp only
  exact ⟨part.1, List.mem_map_of_mem among, describes⟩

theorem test_sound (setting : Setting Host) :
    setting.Makes (Sound setting.registry) := by
  intro name pickle member
  refine .bind (slots_work setting.registry pickle) fun slots work => ?_
  refine .bind (.trivial _) fun id _ => ?_
  split
  · refine .pure ?_
    intro test member executable executes
    simp only [Option.toList_some, List.mem_singleton] at member
    subst member
    cases executes
    exact ⟨_, List.mem_singleton.mpr rfl, rfl, rfl, work⟩
  · split
    · exact .pure (by simp [Sound, Described])
    · refine .pure ?_
      intro test member executable executes
      simp only [Option.toList_some, List.mem_singleton] at member
      subst member
      cases executes

theorem test_draws (setting : Setting Host) (name : String)
    (pickle : Pickle Nat) :
    Draws [] (setting.test name pickle)
      (fun composed => composed.1.identifiers) := by
  refine .bind (slots_draws setting.registry pickle) fun slots => ?_
  refine .bind (Draws.fresh.after _) fun id => ?_
  have shown :
      (slots.map (testStep setting.registry)).map (·.id) =
        slots.map Slot.id := by
    simp [Function.comp_def]
  split
  · exact .pure (by simp [TestCase.identifiers, shown])
  · split
    · exact .pure (by simp [TestCase.identifiers, shown])
    · exact .pure (by simp [TestCase.identifiers, shown])

theorem mem_of_pickleOf? {setting : Setting Host} {node : Nat}
    {pickle : Pickle Nat}
    (found : setting.pickleOf? node = some pickle) :
    pickle ∈ setting.pickles :=
  List.mem_of_find?_eq_some found

theorem mem_of_picklesOf {setting : Setting Host}
    {scenario : Scenario Nat} {pickle : Pickle Nat}
    (member : pickle ∈ setting.picklesOf scenario) :
    pickle ∈ setting.pickles := by
  unfold picklesOf at member
  split at member
  · exact mem_of_pickleOf? (Option.mem_toList.mp member)
  · obtain ⟨row, -, found⟩ := List.mem_filterMap.mp member
    exact mem_of_pickleOf? found

section Ensured

variable {setting : Setting Host}
variable {property : TestCase Nat × Option (Test Host) → Prop}

theorem scenario_ensures (makes : setting.Makes property)
    (scenario : Scenario Nat) :
    Ensures (setting.scenario scenario)
      (fun composed => ∀ part ∈ composed, property part) := by
  unfold Setting.scenario
  split
  · exact .mapM fun pickle member =>
      makes _ pickle (mem_of_picklesOf member)
  · exact .mapM fun numbered member =>
      makes _ numbered.1
        (mem_of_picklesOf (List.fst_mem_of_mem_zipIdx member))

theorem rule_ensures (makes : setting.Makes property) (rule : Rule Nat) :
    Ensures (setting.rule rule)
      (fun composed => ∀ part ∈ composed, property part) := by
  refine .bind
    (.mapM fun scenario _ => scenario_ensures makes scenario)
    fun parts all => ?_
  refine .pure fun part member => ?_
  obtain ⟨composed, composedMember, partMember⟩ :=
    List.mem_flatten.mp member
  exact all composed composedMember part partMember

theorem child_consists (makes : setting.Makes property)
    (child : FeatureChild Nat) :
    Ensures (setting.child child)
      (fun composed =>
        Consists property composed.1
          (composed.2.flatMap SuiteItem.tests)) := by
  cases child with
  | background background => exact .pure .nil
  | scenario scenario =>
      refine .bind (scenario_ensures makes scenario)
        fun composed holds => ?_
      refine .pure ⟨composed, holds, rfl, ?_⟩
      simp [List.flatMap_map, SuiteItem.tests]
  | rule rule =>
      by_cases cut : setting.cuts rule = true
      · simp only [Setting.child, cut, ↓reduceIte]
        exact .pure .nil
      · simp only [Setting.child, cut, Bool.false_eq_true, ↓reduceIte]
        refine .bind (rule_ensures makes rule) fun composed holds => ?_
        refine .pure ⟨composed, holds, rfl, ?_⟩
        simp [SuiteItem.tests]

theorem suite_consists (makes : setting.Makes property)
    (feature : Feature Nat) :
    Ensures (setting.suite feature)
      (fun composed =>
        Consists property composed.1
          (composed.2.items.flatMap SuiteItem.tests)) := by
  refine .bind (.mapM fun child _ => child_consists makes child)
    fun children all => ?_
  refine .pure ?_
  have consists : Consists property (children.flatMap (·.1)) _ :=
    Consists.flatMap all
  simpa only [List.flatMap_assoc] using consists

end Ensured

theorem scenario_draws (setting : Setting Host) (scenario : Scenario Nat) :
    Draws [] (setting.scenario scenario)
      (fun composed => composed.flatMap (·.1.identifiers)) := by
  unfold Setting.scenario
  split
  · exact .mapM fun pickle => test_draws setting _ pickle
  · exact .mapM fun numbered => test_draws setting _ numbered.1

theorem rule_draws (setting : Setting Host) (rule : Rule Nat) :
    Draws [] (setting.rule rule)
      (fun composed => composed.flatMap (·.1.identifiers)) := by
  refine .bind
    (.mapM fun scenario => scenario_draws setting scenario)
    fun parts => ?_
  refine .pure ?_
  rw [← List.flatMap_id, List.flatMap_assoc]
  rfl

theorem child_draws (setting : Setting Host) (child : FeatureChild Nat) :
    Draws [] (setting.child child)
      (fun composed => composed.1.flatMap TestCase.identifiers) := by
  cases child with
  | background background => exact .pure rfl
  | scenario scenario =>
      refine .bind (scenario_draws setting scenario) fun composed => ?_
      exact .pure (by simp [List.flatMap_map])
  | rule rule =>
      by_cases cut : setting.cuts rule = true
      · simp only [Setting.child, cut, ↓reduceIte]
        exact .pure rfl
      · simp only [Setting.child, cut, Bool.false_eq_true, ↓reduceIte]
        refine .bind (rule_draws setting rule) fun composed => ?_
        exact .pure (by simp [List.flatMap_map])

theorem suite_draws (setting : Setting Host) (feature : Feature Nat) :
    Draws [] (setting.suite feature)
      (fun composed => composed.1.flatMap TestCase.identifiers) := by
  refine .bind (.mapM fun child => child_draws setting child)
    fun children => ?_
  exact .pure (by simp [List.flatMap_assoc])

end Compose.Setting

/-! ## Composed specs -/

namespace Envelope

/-- The test case that a message shows. -/
def testCase? {Id : Type} : Envelope Id → Option (TestCase Id)
  | .testCase value => some value
  | _ => none

theorem mem_testCases {Id : Type} {messages : List (Envelope Id)}
    {value : TestCase Id} :
    value ∈ messages.filterMap testCase? ↔ .testCase value ∈ messages := by
  rw [List.mem_filterMap]
  constructor
  · rintro ⟨message, member, shows⟩
    cases message <;> cases shows
    exact member
  · intro member
    exact ⟨_, member, rfl⟩

/-- The identifiers that a message about tests introduces. -/
def drawn : Envelope Nat → List Nat
  | .testCase value => value.identifiers
  | .caseStarted id .. => [id]
  | _ => []

end Envelope

namespace Compose

open ScenarioRunner.Numbering (Ensures Draws)

/-- The messages that precede the test cases say nothing about tests. -/
theorem silent_of_mem_opening
    {registry : Registry Host} {source : String} {document : Document Nat}
    {pickles : List (Pickle Nat)} {envelope : Envelope Nat}
    (member :
      envelope ∈ openingMessages registry source document pickles) :
    envelope.drawn = [] ∧ envelope.testCase? = none := by
  simp only [openingMessages, Registry.envelopes, List.mem_append,
    List.mem_cons, List.mem_map, List.not_mem_nil, or_false] at member
  rcases member with (((rfl | rfl) | ⟨_, _, rfl⟩) |
    (⟨_, _, rfl⟩ | ⟨_, _, rfl⟩)) | rfl <;> exact ⟨rfl, rfl⟩

theorem drawn_collected (registry : Registry Host) (source : String)
    (document : Document Nat) (pickles : List (Pickle Nat))
    (testCases : List (TestCase Nat)) :
    (openingMessages registry source document pickles ++
        testCases.map Envelope.testCase).flatMap Envelope.drawn =
      testCases.flatMap TestCase.identifiers := by
  have silent :
      (openingMessages registry source document pickles).flatMap
        Envelope.drawn = [] :=
    List.flatMap_eq_nil_iff.mpr fun _ member =>
      (silent_of_mem_opening member).1
  rw [List.flatMap_append, silent, List.nil_append, List.flatMap_map]
  rfl

theorem testCases_collected (registry : Registry Host) (source : String)
    (document : Document Nat) (pickles : List (Pickle Nat))
    (testCases : List (TestCase Nat)) :
    (openingMessages registry source document pickles ++
        testCases.map Envelope.testCase).filterMap Envelope.testCase? =
      testCases := by
  have silent :
      (openingMessages registry source document pickles).filterMap
        Envelope.testCase? = [] :=
    List.filterMap_eq_nil_iff.mpr fun _ member =>
      (silent_of_mem_opening member).2
  rw [List.filterMap_append, silent, List.nil_append,
    List.filterMap_map]
  exact List.filterMap_some

end Compose

namespace Spec

open ScenarioRunner.Numbering (Ensures Draws)

/-- The identifiers of all test cases are the numbers drawn by composing. -/
theorem compose_draws (registry : Registry Host) (source : String)
    (document : Document Nat) (pickles : List (Pickle Nat))
    (options : ComposeOptions) :
    Draws [] (Spec.compose registry source document pickles options)
      (fun composed => composed.2.flatMap Envelope.drawn) := by
  have suites (setting : Compose.Setting Host) :
      Draws [] (document.feature.mapM setting.suite)
        (fun composed => ((composed.map (·.1)).getD []).flatMap
          TestCase.identifiers) := by
    cases document.feature with
    | none => exact .pure rfl
    | some feature =>
        rw [Option.mapM_some]
        exact .map (setting.suite_draws feature) fun composed => rfl
  refine .bind (suites _) fun composed => ?_
  exact .pure (Compose.drawn_collected _ _ _ _ _)

/-- Composing gives the messages known so far and a test case for each part,
all of which have what the parts of a suite have. -/
theorem compose_consists
    (property : TestCase Nat × Option (Test Host) → Prop)
    (registry : Registry Host) (source : String)
    (document : Document Nat) (pickles : List (Pickle Nat))
    (options : ComposeOptions)
    (makes : ∀ setting : Compose.Setting Host,
      setting.registry = registry → setting.pickles = pickles →
        setting.Makes property) :
    Ensures (Spec.compose registry source document pickles options)
      (fun composed =>
        composed.1.registry = registry ∧
          ∃ testCases,
            composed.2 =
                Compose.openingMessages registry source document pickles ++
                  testCases.map .testCase ∧
              Consists property testCases composed.1.tests) := by
  have suites (setting : Compose.Setting Host)
      (own : setting.Makes property) :
      Ensures (document.feature.mapM setting.suite)
        (fun composed =>
          Consists property ((composed.map (·.1)).getD [])
            ((composed.map (·.2)).elim [] fun suite =>
              suite.items.flatMap SuiteItem.tests)) := by
    cases document.feature with
    | none => exact .pure .nil
    | some feature =>
        rw [Option.mapM_some, map_eq_pure_bind]
        refine .bind (Compose.Setting.suite_consists own feature)
          fun composed consists => ?_
        exact .pure consists
  refine .bind (suites _ (makes _ rfl rfl)) fun composed consists => ?_
  refine .pure ⟨rfl, _, rfl, ?_⟩
  cases composed with
  | none => exact consists
  | some suite => exact consists

/-- Every executable test of a composed spec comes with its test case. -/
theorem compose_described (registry : Registry Host) (source : String)
    (document : Document Nat) (pickles : List (Pickle Nat))
    (options : ComposeOptions) :
    Ensures (Spec.compose registry source document pickles options)
      (fun composed =>
        composed.1.registry = registry ∧
          Described registry (composed.2.filterMap Envelope.testCase?)
            composed.1.tests) := by
  have parts :=
    compose_consists (Compose.Setting.Sound registry) registry source
      document pickles options
      (by rintro setting rfl -; exact setting.test_sound)
  refine parts.imp ?_
  rintro ⟨spec, messages⟩ ⟨own, testCases, rfl, consists⟩
  refine ⟨own, ?_⟩
  simp only [Compose.testCases_collected]
  exact Compose.Setting.described_of_consists consists

/-- A composed spec keeps the registry that it was composed with. -/
theorem registry_of_compose
    {registry : Registry Host} {source : String} {document : Document Nat}
    {pickles : List (Pickle Nat)} {options : ComposeOptions}
    {first next : Nat} {spec : Spec Host}
    {collected : List (Envelope Nat)}
    (composed :
      (Spec.compose registry source document pickles options).run first =
        ((spec, collected), next)) :
    spec.registry = registry := by
  have described :=
    (compose_described registry source document pickles options first).1
  rwa [composed] at described

/-- The identifiers of a composed spec are below the next one. -/
theorem drawn_lt_next
    {registry : Registry Host} {source : String} {document : Document Nat}
    {pickles : List (Pickle Nat)} {options : ComposeOptions}
    {first next : Nat} {spec : Spec Host}
    {collected : List (Envelope Nat)}
    (composed :
      (Spec.compose registry source document pickles options).run first =
        ((spec, collected), next))
    {envelope : Envelope Nat} (member : envelope ∈ collected)
    {id : Nat} (drawn : id ∈ envelope.drawn) :
    id < next := by
  obtain ⟨count, advanced, identifiers⟩ :=
    compose_draws registry source document pickles options first
  rw [composed] at advanced identifiers
  have among : id ∈ collected.flatMap Envelope.drawn :=
    List.mem_flatMap.mpr ⟨envelope, member, drawn⟩
  simp only at advanced identifiers
  rw [identifiers, List.nil_append, List.mem_range'_1] at among
  omega

/--
An executable test of a composed spec has exactly one test case, whose steps
are its slots and have identifiers of their own.
-/
theorem exists_testCase
    {registry : Registry Host} {source : String} {document : Document Nat}
    {pickles : List (Pickle Nat)} {options : ComposeOptions}
    {first next : Nat} {spec : Spec Host}
    {collected : List (Envelope Nat)}
    (composed :
      (Spec.compose registry source document pickles options).run first =
        ((spec, collected), next))
    {test : Test Host} (listed : test ∈ spec.tests)
    {executable : Executable Host}
    (executes : test.executable = some executable) :
    ∃ testCase : TestCase Nat,
      .testCase testCase ∈ collected ∧
        Describes registry testCase executable ∧
        (testCase.steps.map (·.id)).Nodup ∧
        ∀ other : TestCase Nat, .testCase other ∈ collected →
          other.id = testCase.id → other = testCase := by
  have described :=
    compose_described registry source document pickles options first
  obtain ⟨count, -, identifiers⟩ :=
    compose_draws registry source document pickles options first
  rw [composed] at described identifiers
  obtain ⟨testCase, member, describes⟩ :=
    described.2 test listed executable executes
  rw [Envelope.mem_testCases] at member
  have distinct : (collected.flatMap Envelope.drawn).Nodup := by
    simp only at identifiers
    rw [identifiers, List.nil_append]
    exact List.nodup_range'
  rw [List.nodup_flatMap] at distinct
  refine ⟨testCase, member, describes, ?_, ?_⟩
  · have own : testCase.identifiers.Nodup := distinct.1 _ member
    exact (List.nodup_append.mp own).1
  · intro other otherMember same
    -- Different messages draw different identifiers, and a test case draws its
    -- own.
    by_contra different
    have symmetric :
        Std.Symm (Function.onFun List.Disjoint Envelope.drawn) :=
      ⟨fun _ _ => List.disjoint_symm⟩
    have disjoint :=
      distinct.2.forall otherMember member
        (fun equal => different (Envelope.testCase.inj equal))
    exact disjoint (a := testCase.id)
      (by simp [Envelope.drawn, TestCase.identifiers, same])
      (by simp [Envelope.drawn, TestCase.identifiers])

/-- The test cases of executable tests are among all test cases, in order. -/
theorem testCaseIds_sublist {registry : Registry Host}
    {testCases : List (TestCase Nat)} {tests : List (Test Host)}
    (consists : Consists (Compose.Setting.Sound registry) testCases tests) :
    ((tests.filterMap (·.executable)).map (·.testCaseId)).Sublist
      (testCases.map (·.id)) := by
  rcases consists with ⟨composed, sound, rfl, rfl⟩
  induction composed with
  | nil => exact .slnil
  | cons part others ih =>
      rw [List.forall_mem_cons] at sound
      have rest := ih sound.2
      rcases part with ⟨testCase, test⟩
      cases test with
      | none => exact rest.cons testCase.id
      | some test =>
          simp only [List.filterMap_cons, List.map_cons]
          cases executes : test.executable with
          | none => exact rest.cons testCase.id
          | some executable =>
              rcases sound.1 test (by simp) executable executes with
                ⟨own, only, describes⟩
              cases List.mem_singleton.mp only
              have same : testCase.id = executable.testCaseId :=
                describes.id
              rw [same]
              exact rest.cons_cons executable.testCaseId

/-- Executable tests of a composed spec have test cases of their own. -/
theorem nodup_testCaseIds
    {registry : Registry Host} {source : String} {document : Document Nat}
    {pickles : List (Pickle Nat)} {options : ComposeOptions}
    {first next : Nat} {spec : Spec Host}
    {collected : List (Envelope Nat)}
    (composed :
      (Spec.compose registry source document pickles options).run first =
        ((spec, collected), next)) :
    ((spec.tests.filterMap (·.executable)).map (·.testCaseId)).Nodup := by
  have parts :=
    compose_consists (Compose.Setting.Sound registry) registry source
      document pickles options
      (by rintro setting rfl -; exact setting.test_sound) first
  rcases compose_draws registry source document pickles options first with
    ⟨count, -, drawn⟩
  rw [composed] at parts drawn
  rcases parts with ⟨-, testCases, whole, consists⟩
  simp only at whole drawn
  rw [whole, Compose.drawn_collected] at drawn
  have distinct : (testCases.flatMap TestCase.identifiers).Nodup := by
    rw [drawn]
    exact List.nodup_range'
  have own :
      (testCases.map (·.id)).Sublist
        (testCases.flatMap TestCase.identifiers) := by
    rw [List.map_eq_flatMap]
    exact List.Sublist.flatMap_right _ fun testCase _ =>
      List.sublist_append_right _ _
  exact ((testCaseIds_sublist consists).trans own).nodup distinct

end Spec

/-! ## A small feature

One scenario of two steps between two hooks, in a host that keeps a log.
-/

namespace Sample

/-- A body that writes a line to the log, attaches a text and ends. -/
def write {Result : Type} (line : String) (ending : Ending Result)
    (scope : Scope) (log : List String) :
    Performance (List String) Result where
  host := log ++ [line]
  attachments := scope.attach line "text/plain"
  ending := ending

/-- The body of a step that ends so. -/
def stepBody (ending : Ending Outcome) : StepBody (List String) :=
  fun context => write "step" ending context.scope

/-- The body of a hook that passes. -/
def hookBody (keyword : HookKeyword) : HookBody (List String) :=
  fun context => write keyword.name (.completed ()) context.scope

/-- A hook for all tests. -/
def hook (id : Nat) (keyword : HookKeyword) : Hook (List String) where
  id := id
  keyword := keyword
  tags := none
  tagSource := none
  body := hookBody keyword
  site := none

/-- A definition that matches every text. -/
def definition (ending : Ending Outcome) : StepDefinition (List String) where
  id := 2
  expression := .regular ⟨"", .empty⟩
  body := stepBody ending
  site := none

/-- Two hooks and one definition, or none. -/
def registry (ending : Option (Ending Outcome)) :
    Registry (List String) where
  steps := (ending.map definition).toList
  hooks := [hook 0 .before, hook 1 .after]

def document : Document Nat where
  uri := "a.feature"
  feature := some
    { location := ⟨1, none⟩
      tags := []
      keyword := "Feature"
      name := "A"
      description := ""
      children := [.scenario
        { id := 3
          location := ⟨2, none⟩
          tags := []
          keyword := "Scenario"
          name := "B"
          description := ""
          steps := []
          examples := [] }] }

/-- The pickle of a scenario with two steps. -/
def pickle (text : String) : Pickle Nat where
  id := 4
  uri := "a.feature"
  name := "B"
  steps :=
    [ { id := 5, text, nodeIds := [7], kind := .context },
      { id := 6, text, nodeIds := [8], kind := .action } ]
  tags := []
  nodeIds := [3]

/-- The composed feature: its spec, the messages and the next identifier. -/
def composed (ending : Option (Ending Outcome)) (text : String) :
    (Spec (List String) × List (Envelope Nat)) × Nat :=
  (Spec.compose (registry ending) "" document [pickle text] {}).run 9

/-- What is run for the only test. -/
def executable (text : String) : Executable (List String) where
  pickle := pickle text
  testCaseId := 13
  slots :=
    [ .hook 9 (hook 0 .before),
      .step 10 { id := 5, text, nodeIds := [7], kind := .context },
      .step 11 { id := 6, text, nodeIds := [8], kind := .action },
      .hook 12 (hook 1 .after) ]

end Sample

end ScenarioRunner
