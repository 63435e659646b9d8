import ScenarioRunner.Proofs.Composition
import ScenarioRunner.Proofs.PickleLookup

/-!
# The listing of tests

Composing draws identifiers, but what a suite lists does not depend on them:
it is the name and the options of each test, and the pickle of one that is
executable.  These are the entries of the tests.  They are a function of the
document, the pickles and the tags that select them.

The main statement is `Spec.compose_entries`.  It also says which pickles the
test cases are about.
-/

namespace ScenarioRunner

open ScenarioRunner.Numbering (Ensures)

variable {Host : Type}

/-! ## Entries -/

/-- What is listed of a test; the pickle of one that is not executable is
missing. -/
structure TestEntry where
  name : String
  options : TestOptions
  pickle : Option (Pickle Nat)
  deriving DecidableEq, Repr

def TestEntry.isExecutable (entry : TestEntry) : Bool :=
  entry.pickle.isSome

def Test.entry (test : Test Host) : TestEntry where
  name := test.name
  options := test.options
  pickle := test.executable.map (·.pickle)

@[simp]
theorem Test.isExecutable_entry (test : Test Host) :
    test.entry.isExecutable = test.executable.isSome :=
  Option.isSome_map

/-- What is listed of an item of a suite. -/
inductive SuiteEntry where
  | test (value : TestEntry)
  | group (name : String) (tests : List TestEntry)
  deriving DecidableEq, Repr

def SuiteEntry.tests : SuiteEntry → List TestEntry
  | .test value => [value]
  | .group _ tests => tests

def SuiteItem.entry : SuiteItem Host → SuiteEntry
  | .test value => .test value.entry
  | .group name tests => .group name (tests.map Test.entry)

@[simp]
theorem SuiteItem.tests_entry (item : SuiteItem Host) :
    item.entry.tests = item.tests.map Test.entry := by
  cases item <;> rfl

@[simp]
theorem SuiteItem.map_entry_test (tests : List (Test Host)) :
    (tests.map SuiteItem.test).map SuiteItem.entry =
      (tests.map Test.entry).map SuiteEntry.test := by
  rw [List.map_map, List.map_map]
  rfl

@[simp]
theorem SuiteEntry.flatMap_tests (entries : List TestEntry) :
    (entries.map SuiteEntry.test).flatMap SuiteEntry.tests = entries := by
  rw [List.flatMap_map]
  exact List.flatMap_singleton' entries

/-- The tests of a suite are those of its items. -/
theorem Suite.map_entry_tests (suite : Suite Host) :
    (suite.items.flatMap SuiteItem.tests).map Test.entry =
      (suite.items.map SuiteItem.entry).flatMap SuiteEntry.tests := by
  rw [List.map_flatMap, List.flatMap_map]
  simp only [SuiteItem.tests_entry]

theorem Spec.map_entry_tests (spec : Spec Host) :
    spec.tests.map Test.entry =
      (spec.suite.elim [] fun suite =>
        (suite.items.map SuiteItem.entry).flatMap SuiteEntry.tests) := by
  unfold Spec.tests
  cases spec.suite with
  | none => rfl
  | some suite => exact suite.map_entry_tests

/-! ## Entries of composed tests -/

theorem flatMap_eq_of_forall₂ {Item Made Shown : Type}
    {items : List Item} {made : List Made} {expected : Item → List Shown}
    {shown : Made → List Shown}
    (each : List.Forall₂ (fun item result => shown result = expected item)
      items made) :
    made.flatMap shown = items.flatMap expected := by
  induction each with
  | nil => rfl
  | cons first rest ih =>
      rw [List.flatMap_cons, List.flatMap_cons, first, ih]

namespace Compose

/-- Composed parts are about some pickles and give some entries. -/
structure Lists (composed : Composed Host) (pickles : List (Pickle Nat))
    (entries : List TestEntry) : Prop where
  testCases : composed.map (·.1.pickleId) = pickles.map (·.id)
  tests : (composed.filterMap (·.2)).map Test.entry = entries

namespace Lists

theorem nil : Lists ([] : Composed Host) [] [] := ⟨rfl, rfl⟩

theorem append {first second : Composed Host}
    {early late : List (Pickle Nat)} {before behind : List TestEntry}
    (firstLists : Lists first early before)
    (secondLists : Lists second late behind) :
    Lists (first ++ second) (early ++ late) (before ++ behind) where
  testCases := by
    rw [List.map_append, List.map_append, firstLists.testCases,
      secondLists.testCases]
  tests := by
    rw [List.filterMap_append, List.map_append, firstLists.tests,
      secondLists.tests]

theorem flatten {Item : Type} {items : List Item}
    {pickles : Item → List (Pickle Nat)} {entries : Item → List TestEntry}
    {parts : List (Composed Host)}
    (each : List.Forall₂
      (fun item part => Lists part (pickles item) (entries item))
      items parts) :
    Lists parts.flatten (items.flatMap pickles) (items.flatMap entries) := by
  induction each with
  | nil => exact nil
  | cons first rest ih =>
      rw [List.flatten_cons, List.flatMap_cons, List.flatMap_cons]
      exact first.append ih

end Lists

namespace Setting

/-- Whether the test of a pickle is executable. -/
def executes (setting : Setting Host) (pickle : Pickle Nat) : Bool :=
  setting.selects pickle && !pickle.tagNames.contains "@skip"

def entry (setting : Setting Host) (name : String) (pickle : Pickle Nat) :
    TestEntry where
  name := name
  options := .ofTags pickle.tagNames
  pickle := if setting.executes pickle then some pickle else none

@[simp]
theorem isExecutable_entry (setting : Setting Host) (name : String)
    (pickle : Pickle Nat) :
    (setting.entry name pickle).isExecutable = setting.executes pickle := by
  unfold entry TestEntry.isExecutable
  cases setting.executes pickle <;> rfl

/-- Whether a test is listed that has an entry. -/
def lists (setting : Setting Host) (entry : TestEntry) : Bool :=
  entry.isExecutable || !setting.omitFiltered

/-- The pickles of a scenario with the names of their tests. -/
def named (setting : Setting Host) (scenario : Scenario Nat) :
    List (String × Pickle Nat) :=
  if scenario.examples.isEmpty then
    (setting.picklesOf scenario).map fun pickle =>
      (nameOr "<unnamed scenario>" scenario.name, pickle)
  else
    (setting.picklesOf scenario).zipIdx.map fun (pickle, index) =>
      let name := nameOr "<unnamed scenario>" pickle.name
      (s!"{name} (example #{index + 1})", pickle)

@[simp]
theorem map_snd_named (setting : Setting Host) (scenario : Scenario Nat) :
    (setting.named scenario).map (·.2) = setting.picklesOf scenario := by
  unfold named
  split
  · rw [List.map_map]
    exact List.map_id _
  · rw [List.map_map]
    exact List.zipIdx_map_fst 0 _

/-- The entries that a scenario gives. -/
def entries (setting : Setting Host) (scenario : Scenario Nat) :
    List TestEntry :=
  ((setting.named scenario).map fun (name, pickle) =>
    setting.entry name pickle).filter setting.lists

def childEntries (setting : Setting Host) :
    FeatureChild Nat → List SuiteEntry
  | .background _ => []
  | .scenario value => (setting.entries value).map .test
  | .rule value =>
      if setting.cuts value then []
      else
        [.group (nameOr "<unnamed rule>" value.name)
          (value.scenarios.flatMap setting.entries)]

/-- The pickles below a child of a feature that test cases are composed
for. -/
def childPickles (setting : Setting Host) :
    FeatureChild Nat → List (Pickle Nat)
  | .background _ => []
  | .scenario value => setting.picklesOf value
  | .rule value =>
      if setting.cuts value then []
      else value.scenarios.flatMap setting.picklesOf

theorem test_lists (setting : Setting Host) (name : String)
    (pickle : Pickle Nat) :
    Ensures (setting.test name pickle)
      (fun part =>
        Lists [part] [pickle]
          ([setting.entry name pickle].filter setting.lists)) := by
  refine .bind (.trivial _) fun slots _ => ?_
  refine .bind (.trivial _) fun id _ => ?_
  have unfolded : setting.executes pickle =
      (setting.selects pickle && !pickle.tagNames.contains "@skip") := rfl
  rw [← unfolded]
  cases executes : setting.executes pickle with
  | true =>
      have listed : setting.lists (setting.entry name pickle) = true := by
        simp [lists, executes]
      refine .pure ⟨rfl, ?_⟩
      rw [List.filter_cons_of_pos listed]
      simp [executes, entry, Test.entry]
  | false =>
      cases omits : setting.omitFiltered with
      | true =>
          refine .pure ⟨rfl, ?_⟩
          simp [lists, executes, omits]
      | false =>
          refine .pure ⟨rfl, ?_⟩
          simp [lists, executes, omits, entry, Test.entry]

/-- The tests of a scenario are those of its named pickles. -/
theorem scenario_eq_mapM (setting : Setting Host)
    (scenario : Scenario Nat) :
    setting.scenario scenario =
      (setting.named scenario).mapM fun (name, pickle) =>
        setting.test name pickle := by
  unfold Setting.scenario named
  split
  · rw [List.mapM_map]
    rfl
  · rw [List.mapM_map]
    rfl

theorem scenario_lists (setting : Setting Host)
    (scenario : Scenario Nat) :
    Ensures (setting.scenario scenario)
      (fun composed =>
        Lists composed (setting.picklesOf scenario)
          (setting.entries scenario)) := by
  have each :
      Ensures (setting.scenario scenario)
        (List.Forall₂ (fun (named : String × Pickle Nat) part =>
          Lists [part] [named.2]
            ([setting.entry named.1 named.2].filter setting.lists))
          (setting.named scenario)) := by
    rw [scenario_eq_mapM]
    exact .mapM_forall₂ fun named _ => setting.test_lists named.1 named.2
  refine each.imp ?_
  intro composed listed
  rw [← map_snd_named, entries]
  generalize setting.named scenario = named at listed
  induction listed with
  | nil => exact .nil
  | cons first rest ih =>
      have both := first.append ih
      rwa [← List.filter_append] at both

theorem rule_lists (setting : Setting Host) (rule : Rule Nat) :
    Ensures (setting.rule rule)
      (fun composed =>
        Lists composed (rule.scenarios.flatMap setting.picklesOf)
          (rule.scenarios.flatMap setting.entries)) := by
  refine .bind (.mapM_forall₂ fun scenario _ =>
    setting.scenario_lists scenario) fun parts each => ?_
  exact .pure (Lists.flatten each)

theorem child_lists (setting : Setting Host) (child : FeatureChild Nat) :
    Ensures (setting.child child)
      (fun made =>
        made.1.map (·.pickleId) = (setting.childPickles child).map (·.id) ∧
          made.2.map SuiteItem.entry = setting.childEntries child) := by
  cases child with
  | background value => exact .pure ⟨rfl, rfl⟩
  | scenario value =>
      refine .bind (setting.scenario_lists value) fun composed listed => ?_
      refine .pure ⟨?_, ?_⟩
      · rw [List.map_map]
        exact listed.testCases
      · rw [SuiteItem.map_entry_test, listed.tests]
        rfl
  | rule value =>
      simp only [Setting.child, childPickles, childEntries]
      cases setting.cuts value with
      | true => exact .pure ⟨rfl, rfl⟩
      | false =>
          refine .bind (setting.rule_lists value) fun composed listed => ?_
          refine .pure ⟨?_, ?_⟩
          · rw [List.map_map]
            exact listed.testCases
          · rw [← listed.tests]
            rfl

theorem suite_lists (setting : Setting Host) (feature : Feature Nat) :
    Ensures (setting.suite feature)
      (fun made =>
        made.1.map (·.pickleId) =
            (feature.children.flatMap setting.childPickles).map (·.id) ∧
          made.2.name = nameOr "<unnamed feature>" feature.name ∧
          made.2.items.map SuiteItem.entry =
            feature.children.flatMap setting.childEntries) := by
  refine .bind (.mapM_forall₂ fun child _ => setting.child_lists child)
    fun children each => ?_
  refine .pure ⟨?_, rfl, ?_⟩
  · rw [List.map_flatMap, List.map_flatMap]
    exact flatMap_eq_of_forall₂ (each.imp fun _ _ listed => listed.1)
  · rw [List.map_flatMap]
    exact flatMap_eq_of_forall₂ (each.imp fun _ _ listed => listed.2)

end Setting

/-- What the tests of a document are composed from. -/
def settingOf (registry : Registry Host) (document : Document Nat)
    (pickles : List (Pickle Nat)) (options : ComposeOptions) :
    Setting Host where
  registry := registry
  pickles := pickles
  filter := effectiveFilter document options
  omitFiltered := options.omitFiltered

end Compose

/-- The children of the feature, if there is one. -/
def Document.children (document : Document Nat) :
    List (FeatureChild Nat) :=
  document.feature.toList.flatMap (·.children)

theorem Document.scenarios_eq_flatMap (document : Document Nat) :
    document.scenarios = document.children.flatMap FeatureChild.scenarios :=
  List.flatMap_assoc.symm

theorem Document.Owns.flatMap_children {document : Document Nat}
    {setting : Compose.Setting Host}
    (owns : document.Owns setting.pickles) :
    (document.children.flatMap fun child =>
      child.scenarios.flatMap setting.picklesOf) = setting.pickles := by
  rw [← List.flatMap_assoc, ← scenarios_eq_flatMap]
  exact owns.picklesOf.2

/-- The scenarios below a child make the pickles that are found for them. -/
theorem Document.Owns.makes {document : Document Nat}
    {setting : Compose.Setting Host}
    (owns : document.Owns setting.pickles)
    {child : FeatureChild Nat} (among : child ∈ document.children)
    {scenario : Scenario Nat} (below : scenario ∈ child.scenarios) :
    scenario.Makes (setting.picklesOf scenario) := by
  apply owns.picklesOf.1
  rw [scenarios_eq_flatMap]
  exact List.mem_flatMap.mpr ⟨child, among, below⟩

/-- A composed suite lists the tests of its feature, and the test cases are
about the pickles of the children that are not left out. -/
theorem Spec.compose_entries (registry : Registry Host) (source : String)
    (document : Document Nat) (pickles : List (Pickle Nat))
    (options : ComposeOptions) :
    Ensures (Spec.compose registry source document pickles options)
      (fun made =>
        (made.2.filterMap Envelope.testCase?).map (·.pickleId) =
            (document.children.flatMap
              (Compose.settingOf registry document pickles
                options).childPickles).map (·.id) ∧
          Option.Rel
            (fun feature suite =>
              suite.name =
                  Compose.nameOr "<unnamed feature>" feature.name ∧
                suite.items.map SuiteItem.entry =
                  feature.children.flatMap
                    (Compose.settingOf registry document pickles
                      options).childEntries)
            document.feature made.1.suite) := by
  have suites (setting : Compose.Setting Host) :
      Ensures (document.feature.mapM setting.suite)
        (fun made =>
          ((made.map (·.1)).getD []).map (·.pickleId) =
              (document.children.flatMap setting.childPickles).map
                (·.id) ∧
            Option.Rel
              (fun feature suite =>
                suite.name =
                    Compose.nameOr "<unnamed feature>" feature.name ∧
                  suite.items.map SuiteItem.entry =
                    feature.children.flatMap setting.childEntries)
              document.feature (made.map (·.2))) := by
    unfold Document.children
    cases document.feature with
    | none => exact .pure ⟨rfl, .none⟩
    | some feature =>
        rw [Option.mapM_some, map_eq_pure_bind, Option.toList_some,
          List.flatMap_singleton]
        refine .bind (setting.suite_lists feature) fun made listed => ?_
        exact .pure ⟨listed.1, .some listed.2⟩
  refine .bind (suites (Compose.settingOf registry document pickles options))
    fun made listed => ?_
  refine .pure ⟨?_, listed.2⟩
  rw [Compose.testCases_collected]
  exact listed.1

end ScenarioRunner
