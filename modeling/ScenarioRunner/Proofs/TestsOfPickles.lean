import ScenarioRunner.Proofs.ReadLines
import ScenarioRunner.Proofs.TestListing

/-!
# The tests of the pickles of a file

Every pickle of a file has one test.  The tests stand in the order of the
pickles, those of a rule in a group of their own, and they are named after the
scenario or, one by one, after the pickles of its examples.  The tags of the
pickle decide whether its test is executable, by the filter that is in force
for the document.

The main statement is `Spec.tests_follow_pickles`.
-/

namespace ScenarioRunner

variable {Host : Type}

/-! ## The filter in force -/

theorem Scenario.mem_allTags {scenario : Scenario Nat} {tag : Tag Nat} :
    tag ∈ scenario.allTags ↔
      tag ∈ scenario.tags ∨
        ∃ examples ∈ scenario.examples, tag ∈ examples.tags := by
  rw [allTags, List.mem_append, List.mem_flatMap]

theorem RuleChild.mem_allTags {children : List (RuleChild Nat)}
    {tag : Tag Nat} :
    tag ∈ children.flatMap RuleChild.allTags ↔
      ∃ scenario ∈ children.filterMap RuleChild.scenario?,
        tag ∈ scenario.allTags := by
  rw [List.mem_flatMap]
  constructor
  · rintro ⟨child, member, carried⟩
    cases child with
    | background value => cases carried
    | scenario value =>
        exact ⟨value, List.mem_filterMap.mpr ⟨_, member, rfl⟩, carried⟩
  · rintro ⟨scenario, member, carried⟩
    obtain ⟨child, among, same⟩ := List.mem_filterMap.mp member
    cases child with
    | background value => cases same
    | scenario value =>
        cases same
        exact ⟨_, among, carried⟩

theorem FeatureChild.mem_allTags {child : FeatureChild Nat}
    {tag : Tag Nat} :
    tag ∈ child.allTags ↔
      (∃ rule, child = .rule rule ∧ tag ∈ rule.tags) ∨
        ∃ scenario ∈ child.scenarios, tag ∈ scenario.allTags := by
  cases child with
  | background value => simp [allTags, scenarios]
  | scenario value => simp [allTags, scenarios]
  | rule value =>
      rw [allTags, List.mem_append, RuleChild.mem_allTags]
      simp [scenarios, Rule.scenarios]

namespace Document

/-- A tag stands above the feature, a rule, a scenario or examples. -/
def HasTag (document : Document Nat) (tag : Tag Nat) : Prop :=
  (∃ feature ∈ document.feature, tag ∈ feature.tags) ∨
    (∃ rule, .rule rule ∈ document.children ∧ tag ∈ rule.tags) ∨
    ∃ scenario ∈ document.scenarios,
      tag ∈ scenario.tags ∨
        ∃ examples ∈ scenario.examples, tag ∈ examples.tags

theorem mem_allTags {document : Document Nat} {tag : Tag Nat} :
    tag ∈ document.allTags ↔ document.HasTag tag := by
  simp only [HasTag, scenarios_eq_flatMap, ← Scenario.mem_allTags,
    List.mem_flatMap]
  unfold allTags children
  cases document.feature with
  | none => simp
  | some feature =>
      simp only [Option.toList_some, List.flatMap_singleton,
        Option.mem_some_iff, exists_eq_left', List.mem_append,
        List.mem_flatMap, FeatureChild.mem_allTags]
      constructor
      · rintro (own | ⟨child, member, ⟨rule, rfl, carried⟩ | below⟩)
        · exact Or.inl own
        · exact Or.inr (Or.inl ⟨rule, member, carried⟩)
        · obtain ⟨scenario, listed, carried⟩ := below
          exact Or.inr (Or.inr ⟨scenario, ⟨child, member, listed⟩, carried⟩)
      · rintro (own | ⟨rule, member, carried⟩ |
          ⟨scenario, ⟨child, member, listed⟩, carried⟩)
        · exact Or.inl own
        · exact Or.inr ⟨_, member, Or.inl ⟨rule, rfl, carried⟩⟩
        · exact Or.inr ⟨child, member, Or.inr ⟨scenario, listed, carried⟩⟩

/-- Some tag of the document singles out tests. -/
def IsFocused (document : Document Nat) : Prop :=
  ∃ tag, document.HasTag tag ∧ (tag.name = "@only" ∨ tag.name = "@focus")

/-- Tags satisfy the filter in force: they single out a test, if some tag of the
document does so, and otherwise satisfy the filter of the options. -/
def Satisfies (document : Document Nat) (options : ComposeOptions)
    (tags : List String) : Prop :=
  (document.IsFocused → "@only" ∈ tags ∨ "@focus" ∈ tags) ∧
    (¬ document.IsFocused →
      ∀ expression ∈ options.tags, expression.eval tags = true)

/-- Tests with these tags are executable. -/
def Executes (document : Document Nat) (options : ComposeOptions)
    (tags : List String) : Prop :=
  document.Satisfies options tags ∧ "@skip" ∉ tags

theorem any_isFocus_iff (document : Document Nat) :
    document.allTags.any Compose.isFocus = true ↔ document.IsFocused := by
  rw [List.any_eq_true]
  constructor
  · rintro ⟨tag, member, focus⟩
    refine ⟨tag, mem_allTags.mp member, ?_⟩
    simpa [Compose.isFocus] using focus
  · rintro ⟨tag, carried, focus⟩
    refine ⟨tag, mem_allTags.mpr carried, ?_⟩
    simpa [Compose.isFocus] using focus

theorem selects_effectiveFilter_iff (document : Document Nat)
    (options : ComposeOptions) (tags : List String) :
    TagExpression.selects (Compose.effectiveFilter document options) tags =
        true ↔
      document.Satisfies options tags := by
  unfold Compose.effectiveFilter Satisfies
  rw [← any_isFocus_iff]
  cases document.allTags.any Compose.isFocus with
  | true => simp [TagExpression.focus]
  | false => cases options.tags <;> simp

end Document

namespace Compose

variable (registry : Registry Host) (document : Document Nat)
variable (pickles : List (Pickle Nat)) (options : ComposeOptions)

theorem selects_settingOf_iff (pickle : Pickle Nat) :
    (settingOf registry document pickles options).selects pickle = true ↔
      document.Satisfies options pickle.tagNames :=
  document.selects_effectiveFilter_iff options pickle.tagNames

theorem executes_settingOf_iff (pickle : Pickle Nat) :
    (settingOf registry document pickles options).executes pickle = true ↔
      document.Executes options pickle.tagNames := by
  rw [Setting.executes, Bool.and_eq_true, selects_settingOf_iff]
  simp [Document.Executes]

end Compose

/-! ## Pieces of lists -/

/-- Two lists are made up of pieces, one for each item and in order, that are
related to the item. -/
inductive Piecewise {Item First Second : Type}
    (relation : Item → List First → List Second → Prop) :
    List Item → List First → List Second → Prop where
  | nil : Piecewise relation [] [] []
  | cons {item : Item} {items : List Item} {first firsts : List First}
      {second seconds : List Second} (piece : relation item first second)
      (others : Piecewise relation items firsts seconds) :
      Piecewise relation (item :: items) (first ++ firsts)
        (second ++ seconds)

namespace Piecewise

variable {Item First Second : Type}
variable {relation : Item → List First → List Second → Prop}
variable {items : List Item}

theorem flatMap {first : Item → List First} {second : Item → List Second}
    (each : ∀ item ∈ items, relation item (first item) (second item)) :
    Piecewise relation items (items.flatMap first)
      (items.flatMap second) := by
  induction items with
  | nil => exact .nil
  | cons item others ih =>
      rw [List.forall_mem_cons] at each
      exact .cons each.1 (ih each.2)

/-- What is related piece by piece is related element by element, if it is so
in each piece. -/
theorem forall₂ {Shown : Type} {firsts : List First}
    {seconds : List Second} {shown : Second → List Shown}
    {agree : First → Shown → Prop}
    (pieces : Piecewise relation items firsts seconds)
    (each : ∀ item first second, relation item first second →
      List.Forall₂ agree first (second.flatMap shown)) :
    List.Forall₂ agree firsts (seconds.flatMap shown) := by
  induction pieces with
  | nil => exact .nil
  | cons piece others ih =>
      rw [List.flatMap_append]
      exact List.rel_append (each _ _ _ piece) ih

end Piecewise

/-! ## Tests of pickles -/

/-- An entry is that of the test of a pickle. -/
structure TestEntry.IsOf (executes : List String → Prop)
    (pickle : Pickle Nat) (entry : TestEntry) : Prop where
  options : entry.options = TestOptions.ofTags pickle.tagNames
  executed : executes pickle.tagNames → entry.pickle = some pickle
  excluded : ¬ executes pickle.tagNames → entry.pickle = none

/-- The names of the tests of a scenario with these pickles. -/
def Scenario.testNames (scenario : Scenario Nat)
    (pickles : List (Pickle Nat)) : List String :=
  match scenario.examples with
  | [] => [Compose.nameOr "<unnamed scenario>" scenario.name]
  | _ :: _ =>
      (pickles.zipIdx 1).map fun (pickle, number) =>
        let name := Compose.nameOr "<unnamed scenario>" pickle.name
        s!"{name} (example #{number})"

/-- Entries list the pickles that are made from a scenario. -/
structure Scenario.Lists (executes : List String → Prop)
    (scenario : Scenario Nat) (pickles : List (Pickle Nat))
    (entries : List TestEntry) : Prop where
  made : scenario.Makes pickles
  names : entries.map (·.name) = scenario.testNames pickles
  tests : List.Forall₂ (TestEntry.IsOf executes) pickles entries

/-- Entries list the pickles below a child of a feature.  A rule has a group,
even if there is nothing in it. -/
inductive FeatureChild.Lists (executes : List String → Prop) :
    FeatureChild Nat → List (Pickle Nat) → List SuiteEntry → Prop where
  | background (value : Background Nat) :
      Lists executes (.background value) [] []
  | scenario {value : Scenario Nat} {pickles : List (Pickle Nat)}
      {entries : List TestEntry}
      (tests : value.Lists executes pickles entries) :
      Lists executes (.scenario value) pickles (entries.map .test)
  | rule {value : Rule Nat} {pickles : List (Pickle Nat)}
      {entries : List TestEntry}
      (tests :
        Piecewise (Scenario.Lists executes) value.scenarios pickles
          entries) :
      Lists executes (.rule value) pickles
        [.group (Compose.nameOr "<unnamed rule>" value.name) entries]

/-- Each pickle below a child has its test. -/
theorem FeatureChild.Lists.forall₂ {executes : List String → Prop}
    {child : FeatureChild Nat} {pickles : List (Pickle Nat)}
    {entries : List SuiteEntry}
    (listed : child.Lists executes pickles entries) :
    List.Forall₂ (TestEntry.IsOf executes) pickles
      (entries.flatMap SuiteEntry.tests) := by
  cases listed with
  | background value => exact .nil
  | scenario listed =>
      rw [SuiteEntry.flatMap_tests]
      exact listed.tests
  | @rule value _ entries listed =>
      rw [List.flatMap_singleton, SuiteEntry.tests,
        ← List.flatMap_singleton' entries]
      apply listed.forall₂
      intro scenario first second piece
      rw [List.flatMap_singleton']
      exact piece.tests

namespace Compose.Setting

variable {setting : Setting Host} {executes : List String → Prop}

theorem isOf_entry
    (decides : ∀ pickle : Pickle Nat,
      setting.executes pickle = true ↔ executes pickle.tagNames)
    (name : String) (pickle : Pickle Nat) :
    (setting.entry name pickle).IsOf executes pickle where
  options := rfl
  executed := by
    intro holds
    rw [entry, if_pos ((decides pickle).mpr holds)]
  excluded := by
    intro fails
    rw [entry, if_neg (fails ∘ (decides pickle).mp)]

/-- The tests of a scenario are named as its pickles say. -/
theorem map_fst_named {scenario : Scenario Nat}
    (made : scenario.Makes (setting.picklesOf scenario)) :
    (setting.named scenario).map (·.1) =
      scenario.testNames (setting.picklesOf scenario) := by
  unfold named Scenario.testNames
  cases tables : scenario.examples with
  | nil =>
      obtain ⟨pickle, only, -⟩ := made.nodeIds_of_plain tables
      rw [only]
      rfl
  | cons first others =>
      rw [List.zipIdx_succ, List.map_map]
      simp only [List.isEmpty_cons, Bool.false_eq_true, ↓reduceIte,
        List.map_map]
      rfl

theorem scenario_listed (listing : setting.omitFiltered = false)
    (decides : ∀ pickle : Pickle Nat,
      setting.executes pickle = true ↔ executes pickle.tagNames)
    {scenario : Scenario Nat}
    (made : scenario.Makes (setting.picklesOf scenario)) :
    scenario.Lists executes (setting.picklesOf scenario)
      (setting.entries scenario) := by
  have all : setting.entries scenario =
      (setting.named scenario).map fun named =>
        setting.entry named.1 named.2 := by
    rw [entries, List.filter_eq_self.mpr]
    intro entry _
    simp [lists, listing]
  refine ⟨made, ?_, ?_⟩
  · rw [all, ← map_fst_named made, List.map_map]
    rfl
  · rw [all, ← map_snd_named, List.forall₂_map_left_iff,
      List.forall₂_map_right_iff, List.forall₂_same]
    intro named _
    exact isOf_entry decides named.1 named.2

theorem child_listed (listing : setting.omitFiltered = false)
    (decides : ∀ pickle : Pickle Nat,
      setting.executes pickle = true ↔ executes pickle.tagNames)
    {child : FeatureChild Nat}
    (made : ∀ scenario ∈ child.scenarios,
      scenario.Makes (setting.picklesOf scenario)) :
    child.Lists executes (child.scenarios.flatMap setting.picklesOf)
      (setting.childEntries child) := by
  cases child with
  | background value => exact .background value
  | scenario value =>
      rw [FeatureChild.scenarios, List.flatMap_singleton]
      exact .scenario
        (scenario_listed listing decides (made value (by simp
          [FeatureChild.scenarios])))
  | rule value =>
      have kept : setting.cuts value = false := by simp [cuts, listing]
      rw [childEntries, kept]
      refine .rule (.flatMap fun scenario member => ?_)
      exact scenario_listed listing decides (made scenario member)

end Compose.Setting

/--
The tests of a file that has been read are those of its pickles, one for each
and in order.  They make up the suite of the feature, child by child, unless
tests are left out that the tags exclude.
-/
theorem Spec.tests_follow_pickles [FeatureSyntax]
    {uri source : String} {first next : Nat} {file : FeatureFile}
    (parsed : FeatureFile.parse uri source first = .ok (file, next))
    {registry : Registry Host} {text : String} {options : ComposeOptions}
    (listing : options.omitFiltered = false)
    {number last : Nat} {spec : Spec Host}
    {collected : List (Envelope Nat)}
    (composed :
      (Spec.compose registry text file.document file.pickles options).run
          number =
        ((spec, collected), last)) :
    List.Forall₂ (TestEntry.IsOf (file.document.Executes options))
        file.pickles (spec.tests.map Test.entry) ∧
      Option.Rel
        (fun feature suite =>
          suite.name = Compose.nameOr "<unnamed feature>" feature.name ∧
            Piecewise
              (FeatureChild.Lists (file.document.Executes options))
              feature.children file.pickles
              (suite.items.map SuiteItem.entry))
        file.document.feature spec.suite := by
  let setting :=
    Compose.settingOf registry file.document file.pickles options
  have owns : file.document.Owns setting.pickles :=
    FeatureFile.owns_of_parse parsed
  have suites :=
    (compose_entries registry text file.document file.pickles options
      number).2
  rw [composed] at suites
  have pieces :
      Piecewise (FeatureChild.Lists (file.document.Executes options))
        file.document.children file.pickles
        (file.document.children.flatMap setting.childEntries) := by
    -- What is found below the children, one after the other, is all pickles.
    have pickles := owns.flatMap_children
    change _ = file.pickles at pickles
    rw [← pickles]
    apply Piecewise.flatMap
    intro child member
    apply Compose.Setting.child_listed listing
    · exact Compose.executes_settingOf_iff _ _ _ _
    · exact fun scenario below => owns.makes member below
  have flat := pieces.forall₂ fun _ _ _ piece => piece.forall₂
  rw [Spec.map_entry_tests]
  unfold Document.children at pieces flat
  generalize spec.suite = suite at suites ⊢
  generalize file.document.feature = feature at suites pieces flat ⊢
  cases suites with
  | none => exact ⟨flat, .none⟩
  | some listed =>
      rw [Option.toList_some, List.flatMap_singleton] at pieces flat
      rw [← listed.2] at pieces flat
      exact ⟨flat, .some ⟨listed.1, pieces⟩⟩

namespace Sample

def focusedText : String :=
  "Feature:\n Scenario Outline: <a>\n  Given b\n  Examples:\n   |a|\n" ++
    "   |x|\n  @only\n  Examples:\n   |a|\n   ||\n Rule:\n" ++
    "  Scenario: C\n"

/-- An outline with two tables of examples, the second of which is singled out,
and a rule. -/
def focused : FeatureFile × Nat :=
  match FeatureFile.parse "a.feature" focusedText 0 with
  | .ok made => made
  | .error _ => default

def focusedRun (options : ComposeOptions) :
    (Spec Unit × List (Envelope Nat)) × Nat :=
  (Spec.compose {} focusedText focused.1.document focused.1.pickles
    options).run focused.2

theorem focused_listed :
    FeatureFile.parse "a.feature" focusedText 0 =
        .ok (focused.1, focused.2) ∧
      ((focusedRun {}).1.1.tests.map fun test =>
          (test.name, test.executable.isSome)) =
        [ ("x (example #1)", false),
          ("<unnamed scenario> (example #2)", true),
          ("C", false) ] := by
  decide +kernel

/-- The examples of both tables are counted together, and a single test is
executable. -/
theorem focused_tests_follow_pickles :
    FeatureFile.parse "a.feature" focusedText 0 =
        .ok (focused.1, focused.2) ∧
      ((focusedRun {}).1.1.tests.map fun test =>
          (test.name, test.executable.isSome)) =
        [ ("x (example #1)", false),
          ("<unnamed scenario> (example #2)", true),
          ("C", false) ] ∧
      List.Forall₂ (TestEntry.IsOf (focused.1.document.Executes {}))
        focused.1.pickles ((focusedRun {}).1.1.tests.map Test.entry) := by
  refine ⟨focused_listed.1, focused_listed.2, ?_⟩
  generalize composed : focusedRun {} = run
  rcases run with ⟨⟨spec, collected⟩, last⟩
  exact (Spec.tests_follow_pickles focused_listed.1 rfl composed).1

end Sample

end ScenarioRunner
