import ScenarioRunner.Proofs.TestsOfPickles

/-!
# Leaving tests out

Tests that the tags exclude are listed without being executable, or left out.
Leaving them out takes nothing else away and renames nothing: the tests are the
executable ones of the full listing.  A rule goes as a whole if the filter
selects none of its pickles.

A rule that goes is not composed at all, so its pickles have no test cases.
Every other pickle has exactly one, whatever its tags.

The main statements are `Spec.omitting_keeps_executable` and
`Spec.testCases_of_pickles`.
-/

namespace ScenarioRunner

variable {Host : Type}

/-! ## Pickles of rules -/

/-- A pickle refers to a scenario of a rule. -/
def Rule.Holds (rule : Rule Nat) (pickle : Pickle Nat) : Prop :=
  ∃ scenario ∈ rule.scenarios, scenario.id ∈ pickle.nodeIds

theorem Scenario.Makes.id_mem {scenario : Scenario Nat}
    {pickles : List (Pickle Nat)} (made : scenario.Makes pickles)
    {pickle : Pickle Nat} (member : pickle ∈ pickles) :
    scenario.id ∈ pickle.nodeIds := by
  by_cases plain : scenario.examples = []
  · rcases made.nodeIds_of_plain plain with ⟨only, rfl, nodeIds⟩
    rw [List.mem_singleton.mp member, nodeIds]
    exact List.mem_singleton_self _
  · have shown : pickle.nodeIds ∈ pickles.map (·.nodeIds) :=
      List.mem_map_of_mem member
    rw [made.nodeIds_of_outline plain] at shown
    rcases List.mem_map.mp shown with ⟨row, -, same⟩
    rw [← same]
    exact List.mem_cons_self

namespace Document.Owns

variable {document : Document Nat}

/-- A node belongs to a single child of the feature. -/
theorem child_eq {pickles : List (Pickle Nat)}
    (owns : document.Owns pickles) {first second : FeatureChild Nat}
    (firstMember : first ∈ document.children)
    (secondMember : second ∈ document.children) {node : Nat}
    (ofFirst : node ∈ first.scenarios.flatMap Scenario.nodes)
    (ofSecond : node ∈ second.scenarios.flatMap Scenario.nodes) :
    first = second := by
  have distinct := nodup_nodes owns.distinct
  rw [scenarios_eq_flatMap, List.flatMap_assoc, List.nodup_flatMap]
    at distinct
  let nodes (child : FeatureChild Nat) : List Nat :=
    child.scenarios.flatMap Scenario.nodes
  have symmetric : Std.Symm (Function.onFun List.Disjoint nodes) :=
    ⟨fun _ _ apart => List.disjoint_symm apart⟩
  by_contra different
  have apart := distinct.2.forall firstMember secondMember different
  exact apart ofFirst ofSecond

variable {setting : Compose.Setting Host}

theorem mem_pickles_iff (owns : document.Owns setting.pickles)
    {pickle : Pickle Nat} :
    pickle ∈ setting.pickles ↔
      ∃ child ∈ document.children,
        pickle ∈ child.scenarios.flatMap setting.picklesOf := by
  rw [← owns.flatMap_children, List.mem_flatMap]

/-- A pickle that refers to a scenario of a rule is found below that rule
only. -/
theorem child_eq_rule (owns : document.Owns setting.pickles)
    {rule : Rule Nat} (listed : .rule rule ∈ document.children)
    {pickle : Pickle Nat} (holds : rule.Holds pickle)
    {child : FeatureChild Nat} (among : child ∈ document.children)
    (found : pickle ∈ child.scenarios.flatMap setting.picklesOf) :
    child = .rule rule := by
  rcases holds with ⟨scenario, ofRule, refers⟩
  rcases List.mem_flatMap.mp found with ⟨other, below, own⟩
  apply owns.child_eq among listed
  · have node := (owns.makes among below).nodeIds_subset own refers
    exact List.mem_flatMap.mpr ⟨other, below, node⟩
  · exact List.mem_flatMap.mpr ⟨scenario, ofRule, List.mem_cons_self⟩

theorem mem_rule_iff (owns : document.Owns setting.pickles)
    {rule : Rule Nat} (listed : .rule rule ∈ document.children)
    {pickle : Pickle Nat} :
    pickle ∈ rule.scenarios.flatMap setting.picklesOf ↔
      pickle ∈ setting.pickles ∧ rule.Holds pickle := by
  constructor
  · intro found
    refine ⟨owns.mem_pickles_iff.mpr ⟨.rule rule, listed, found⟩, ?_⟩
    rcases List.mem_flatMap.mp found with ⟨scenario, below, member⟩
    exact ⟨scenario, below, (owns.makes listed below).id_mem member⟩
  · rintro ⟨member, holds⟩
    rcases owns.mem_pickles_iff.mp member with ⟨child, among, found⟩
    rw [owns.child_eq_rule listed holds among found] at found
    exact found

end Document.Owns

/-- The filter in force selects no pickle of a rule. -/
def Rule.Unselected (document : Document Nat) (options : ComposeOptions)
    (pickles : List (Pickle Nat)) (rule : Rule Nat) : Prop :=
  ∀ pickle ∈ pickles, rule.Holds pickle →
    ¬ document.Satisfies options pickle.tagNames

theorem Compose.cuts_settingOf_iff (registry : Registry Host)
    {document : Document Nat} {pickles : List (Pickle Nat)}
    (owns : document.Owns pickles) (options : ComposeOptions)
    {rule : Rule Nat} (listed : .rule rule ∈ document.children) :
    (settingOf registry document pickles options).cuts rule = true ↔
      options.omitFiltered = true ∧
        rule.Unselected document options pickles := by
  have found {pickle : Pickle Nat} :
      pickle ∈ rule.scenarios.flatMap
          (settingOf registry document pickles options).picklesOf ↔
        pickle ∈ pickles ∧ rule.Holds pickle :=
    Document.Owns.mem_rule_iff owns listed
  unfold Rule.scenarios at found
  rw [Setting.cuts, Bool.and_eq_true, Bool.not_eq_true',
    List.any_eq_false]
  simp only [found, selects_settingOf_iff, Rule.Unselected, and_imp]
  rfl

/-! ## The listing without excluded tests -/

/-- How the items below a child of a feature change when tests are left out.
A rule goes if the filter selects none of its pickles, and then no test of the
rule is executable. -/
inductive FeatureChild.Prunes (unselected : Rule Nat → Prop) :
    FeatureChild Nat → List SuiteEntry → List SuiteEntry → Prop where
  | background (value : Background Nat) :
      Prunes unselected (.background value) [] []
  | scenario (value : Scenario Nat) (entries : List TestEntry) :
      Prunes unselected (.scenario value) (entries.map .test)
        ((entries.filter TestEntry.isExecutable).map .test)
  | kept {value : Rule Nat} (selected : ¬ unselected value)
      (name : String) (entries : List TestEntry) :
      Prunes unselected (.rule value) [.group name entries]
        [.group name (entries.filter TestEntry.isExecutable)]
  | cut {value : Rule Nat} (none : unselected value) (name : String)
      {entries : List TestEntry}
      (excluded : entries.filter TestEntry.isExecutable = []) :
      Prunes unselected (.rule value) [.group name entries] []

variable {unselected : Rule Nat → Prop}

theorem FeatureChild.Prunes.tests {child : FeatureChild Nat}
    {listed kept : List SuiteEntry}
    (prunes : child.Prunes unselected listed kept) :
    kept.flatMap SuiteEntry.tests =
      (listed.flatMap SuiteEntry.tests).filter TestEntry.isExecutable := by
  cases prunes with
  | background value => rfl
  | scenario value entries =>
      rw [SuiteEntry.flatMap_tests, SuiteEntry.flatMap_tests]
  | kept selected name entries =>
      rw [List.flatMap_singleton, List.flatMap_singleton]
      rfl
  | cut none name excluded =>
      rw [List.flatMap_singleton, SuiteEntry.tests, excluded]
      rfl

theorem Piecewise.tests_of_prunes {children : List (FeatureChild Nat)}
    {listed kept : List SuiteEntry}
    (pieces :
      Piecewise (FeatureChild.Prunes unselected) children listed kept) :
    kept.flatMap SuiteEntry.tests =
      (listed.flatMap SuiteEntry.tests).filter TestEntry.isExecutable := by
  induction pieces with
  | nil => rfl
  | cons piece others ih =>
      rw [List.flatMap_append, List.flatMap_append, List.filter_append,
        piece.tests, ih]

namespace Compose.Setting

theorem isExecutable_of_mem_entries {setting : Setting Host}
    {scenario : Scenario Nat} {entry : TestEntry}
    (member : entry ∈ setting.entries scenario)
    (executable : entry.isExecutable = true) :
    ∃ pickle ∈ setting.picklesOf scenario,
      setting.selects pickle = true := by
  rcases List.mem_map.mp (List.mem_filter.mp member).1 with
    ⟨⟨name, pickle⟩, named, rfl⟩
  rw [isExecutable_entry, executes, Bool.and_eq_true] at executable
  refine ⟨pickle, ?_, executable.1⟩
  rw [← map_snd_named]
  exact List.mem_map_of_mem named

/-- No test of a rule is executable if the filter selects no pickle of it. -/
theorem entries_of_cuts {setting : Setting Host} {rule : Rule Nat}
    (cuts : setting.cuts rule = true) :
    (rule.scenarios.flatMap setting.entries).filter
      TestEntry.isExecutable = [] := by
  rw [Setting.cuts, Bool.and_eq_true, Bool.not_eq_true',
    List.any_eq_false] at cuts
  rw [List.filter_eq_nil_iff]
  intro entry member executable
  rcases List.mem_flatMap.mp member with ⟨scenario, below, listed⟩
  rcases isExecutable_of_mem_entries listed executable with
    ⟨pickle, found, selected⟩
  exact cuts.2 pickle (List.mem_flatMap.mpr ⟨scenario, below, found⟩)
    selected

/-- Two settings differ in that one of them leaves tests out. -/
structure Omits (listing omitting : Setting Host) : Prop where
  lists : listing.omitFiltered = false
  changed : omitting = { listing with omitFiltered := true }

namespace Omits

variable {listing omitting : Setting Host}

theorem entries (omits : Omits listing omitting)
    (scenario : Scenario Nat) :
    omitting.entries scenario =
      (listing.entries scenario).filter TestEntry.isExecutable := by
  have all : listing.lists = fun _ => true := by
    funext entry
    simp [Setting.lists, omits.lists]
  have executable : omitting.lists = TestEntry.isExecutable := by
    funext entry
    simp [Setting.lists, omits.changed]
  unfold Setting.entries
  rw [executable, all, List.filter_true, omits.changed]
  rfl

theorem rule_entries (omits : Omits listing omitting) (rule : Rule Nat) :
    rule.scenarios.flatMap omitting.entries =
      (rule.scenarios.flatMap listing.entries).filter
        TestEntry.isExecutable := by
  rw [List.filter_flatMap]
  exact List.flatMap_congr fun scenario _ => omits.entries scenario

theorem child_prunes (omits : Omits listing omitting)
    {child : FeatureChild Nat}
    (decides : ∀ rule, child = .rule rule →
      (omitting.cuts rule = true ↔ unselected rule)) :
    child.Prunes unselected (listing.childEntries child)
      (omitting.childEntries child) := by
  cases child with
  | background value => exact .background value
  | scenario value =>
      rw [childEntries, childEntries, omits.entries]
      exact .scenario value _
  | rule value =>
      have whole : listing.cuts value = false := by
        simp [cuts, omits.lists]
      rw [childEntries, childEntries, whole, omits.rule_entries]
      cases cut : omitting.cuts value with
      | true =>
          apply FeatureChild.Prunes.cut ((decides value rfl).mp cut)
          have none := entries_of_cuts cut
          rw [omits.rule_entries, List.filter_filter] at none
          simpa using none
      | false =>
          apply FeatureChild.Prunes.kept
          rw [← decides value rfl, cut]
          exact Bool.false_ne_true

end Omits

end Compose.Setting

theorem Test.map_entry_filter (tests : List (Test Host)) :
    (tests.filter (·.executable.isSome)).map Test.entry =
      (tests.map Test.entry).filter TestEntry.isExecutable := by
  rw [List.filter_map]
  congr 2
  funext test
  exact test.isExecutable_entry.symm

/-- Leaving tests out changes the items of a feature child by child. -/
theorem Compose.children_prune (registry : Registry Host)
    {document : Document Nat} {pickles : List (Pickle Nat)}
    (owns : document.Owns pickles) (options : ComposeOptions) :
    Piecewise
      (FeatureChild.Prunes (Rule.Unselected document options pickles))
      document.children
      (document.children.flatMap
        (settingOf registry document pickles
          { options with omitFiltered := false }).childEntries)
      (document.children.flatMap
        (settingOf registry document pickles
          { options with omitFiltered := true }).childEntries) := by
  let setting (omitFiltered : Bool) :=
    settingOf registry document pickles { options with omitFiltered }
  apply Piecewise.flatMap
  intro child member
  have omits : (setting false).Omits (setting true) := ⟨rfl, rfl⟩
  apply omits.child_prunes
  rintro rule rfl
  rw [cuts_settingOf_iff registry owns _ member]
  exact and_iff_right rfl

/--
The tests of a suite that leaves tests out are the executable ones of the suite
that lists them all.  A rule is missing from it just if the filter in force
selects none of its pickles.
-/
theorem Spec.omitting_keeps_executable
    {document : Document Nat} {pickles : List (Pickle Nat)}
    (owns : document.Owns pickles) (registry : Registry Host)
    (source : String) (options : ComposeOptions) (first second : Nat) :
    let compose (omitFiltered : Bool) :=
      Spec.compose registry source document pickles
        { options with omitFiltered }
    let listing := ((compose false).run first).1.1
    let omitting := ((compose true).run second).1.1
    omitting.tests.map Test.entry =
        (listing.tests.filter (·.executable.isSome)).map Test.entry ∧
      ∀ feature ∈ document.feature,
        ∃ listed ∈ listing.suite, ∃ kept ∈ omitting.suite,
          kept.name = listed.name ∧
            Piecewise
              (FeatureChild.Prunes
                (Rule.Unselected document options pickles))
              feature.children (listed.items.map SuiteItem.entry)
              (kept.items.map SuiteItem.entry) := by
  intro compose listing omitting
  have listed :=
    (compose_entries registry source document pickles
      { options with omitFiltered := false } first).2
  have kept :=
    (compose_entries registry source document pickles
      { options with omitFiltered := true } second).2
  have pieces := Compose.children_prune registry owns options
  rw [Test.map_entry_filter, Spec.map_entry_tests, Spec.map_entry_tests]
  change Option.Rel _ _ listing.suite at listed
  change Option.Rel _ _ omitting.suite at kept
  unfold Document.children at pieces
  generalize listing.suite = full at listed ⊢
  generalize omitting.suite = part at kept ⊢
  generalize document.feature = feature at listed kept pieces ⊢
  cases listed with
  | none =>
      cases kept
      exact ⟨rfl, fun feature absent => nomatch absent⟩
  | @some feature full listed =>
      cases kept with
      | @some _ part kept =>
          rw [Option.toList_some, List.flatMap_singleton, ← listed.2,
            ← kept.2] at pieces
          refine ⟨pieces.tests_of_prunes, ?_⟩
          rintro _ ⟨⟩
          exact ⟨full, rfl, part, rfl, kept.1.trans listed.1.symm, pieces⟩

namespace Sample

/-- The rule goes, since its pickle is not singled out. -/
theorem focused_tests_are_kept :
    focused.1.document.Owns focused.1.pickles ∧
      (focusedRun { omitFiltered := true }).1.1.tests.map Test.entry =
        ((focusedRun {}).1.1.tests.filter (·.executable.isSome)).map
          Test.entry := by
  have owns := FeatureFile.owns_of_parse focused_listed.1
  refine ⟨owns, ?_⟩
  unfold focusedRun
  generalize focused = made at owns ⊢
  exact (Spec.omitting_keeps_executable owns {} focusedText {} made.2
    made.2).1

end Sample

/-! ## Test cases -/

/-- A pickle belongs to a rule that is left out. -/
def Document.LeavesOut (document : Document Nat) (options : ComposeOptions)
    (pickles : List (Pickle Nat)) (pickle : Pickle Nat) : Prop :=
  options.omitFiltered = true ∧
    ∃ rule, .rule rule ∈ document.children ∧ rule.Holds pickle ∧
      rule.Unselected document options pickles

/-- How many messages are about a test case of a pickle. -/
def Pickle.testCaseCount (pickle : Pickle Nat)
    (messages : List (Envelope Nat)) : Nat :=
  ((messages.filterMap Envelope.testCase?).map (·.pickleId)).count pickle.id

theorem Document.Owns.nodup_pickleIds {document : Document Nat}
    {pickles : List (Pickle Nat)} (owns : document.Owns pickles) :
    (pickles.map (·.id)).Nodup := by
  rcases owns.compiled with ⟨number, rfl⟩
  rcases document.pickles_draws number with ⟨count, -, drawn⟩
  have all : (((document.pickles.run number).1).flatMap
      Pickle.identifiers).Nodup := by
    rw [drawn]
    exact List.nodup_range'
  refine List.Nodup.sublist ?_ all
  rw [List.map_eq_flatMap]
  apply List.Sublist.flatMap_right
  intro pickle _
  exact List.sublist_append_right _ _

namespace Compose.Setting

variable {setting : Setting Host}

theorem childPickles_eq_of_kept {child : FeatureChild Nat}
    (kept : ∀ rule, child = .rule rule → setting.cuts rule = false) :
    setting.childPickles child =
      child.scenarios.flatMap setting.picklesOf := by
  cases child with
  | background value => rfl
  | scenario value => exact (List.flatMap_singleton _ _).symm
  | rule value =>
      rw [childPickles, kept value rfl]
      rfl

theorem childPickles_sublist (child : FeatureChild Nat) :
    (setting.childPickles child).Sublist
      (child.scenarios.flatMap setting.picklesOf) := by
  by_cases kept : ∀ rule, child = .rule rule → setting.cuts rule = false
  · rw [childPickles_eq_of_kept kept]
  · push Not at kept
    rcases kept with ⟨rule, rfl, cut⟩
    rw [childPickles, if_pos (Bool.ne_false_iff.mp cut)]
    exact List.nil_sublist _

end Compose.Setting

namespace Document.Owns

variable {document : Document Nat} {pickles : List (Pickle Nat)}

/-- Test cases are composed for the pickles that do not belong to a rule that
is left out. -/
theorem mem_childPickles_iff (owns : document.Owns pickles)
    (registry : Registry Host) (options : ComposeOptions)
    {pickle : Pickle Nat} (member : pickle ∈ pickles) :
    pickle ∈ document.children.flatMap
        (Compose.settingOf registry document pickles
          options).childPickles ↔
      ¬ document.LeavesOut options pickles pickle := by
  let setting := Compose.settingOf registry document pickles options
  have settled : document.Owns setting.pickles := owns
  constructor
  · intro composed
    rintro ⟨omits, rule, listed, holds, unselected⟩
    rcases List.mem_flatMap.mp composed with ⟨child, among, found⟩
    have cut : setting.cuts rule = true :=
      (Compose.cuts_settingOf_iff registry owns options listed).mpr
        ⟨omits, unselected⟩
    have below :=
      (Compose.Setting.childPickles_sublist child).subset found
    cases settled.child_eq_rule listed holds among below
    change pickle ∈ setting.childPickles (.rule rule) at found
    rw [Compose.Setting.childPickles, if_pos cut] at found
    exact List.not_mem_nil found
  · intro stays
    rcases settled.mem_pickles_iff.mp member with ⟨child, among, found⟩
    apply List.mem_flatMap.mpr
    refine ⟨child, among, ?_⟩
    rw [Compose.Setting.childPickles_eq_of_kept]
    · exact found
    · rintro rule rfl
      rw [Bool.eq_false_iff]
      intro cut
      rcases (Compose.cuts_settingOf_iff registry owns options
        among).mp cut with ⟨omits, unselected⟩
      have holds := ((settled.mem_rule_iff among).mp found).2
      exact stays ⟨omits, rule, among, holds, unselected⟩

theorem childPickles_sublist (owns : document.Owns pickles)
    (registry : Registry Host) (options : ComposeOptions) :
    (document.children.flatMap
      (Compose.settingOf registry document pickles
        options).childPickles).Sublist pickles := by
  let setting := Compose.settingOf registry document pickles options
  have whole : (document.children.flatMap fun child =>
      child.scenarios.flatMap setting.picklesOf) = pickles :=
    flatMap_children owns
  conv => rhs; rw [← whole]
  exact List.Sublist.flatMap_right _ fun child _ =>
    Compose.Setting.childPickles_sublist child

theorem id_mem_childPickles_iff (owns : document.Owns pickles)
    (registry : Registry Host) (options : ComposeOptions)
    {pickle : Pickle Nat} (member : pickle ∈ pickles) :
    pickle.id ∈
        (document.children.flatMap
          (Compose.settingOf registry document pickles
            options).childPickles).map (·.id) ↔
      ¬ document.LeavesOut options pickles pickle := by
  rw [← owns.mem_childPickles_iff registry options member]
  constructor
  · intro shown
    rcases List.mem_map.mp shown with ⟨other, found, same⟩
    have listed := (owns.childPickles_sublist registry options).subset found
    have equal :=
      List.inj_on_of_nodup_map owns.nodup_pickleIds listed member same
    rwa [equal] at found
  · exact List.mem_map_of_mem

end Document.Owns

/--
Every pickle has exactly one test case, whether or not its test is executable
or listed, unless it belongs to a rule that is left out.
-/
theorem Spec.testCases_of_pickles
    {document : Document Nat} {pickles : List (Pickle Nat)}
    (owns : document.Owns pickles) (registry : Registry Host)
    (source : String) (options : ComposeOptions) (number : Nat)
    {pickle : Pickle Nat} (member : pickle ∈ pickles) :
    let collected :=
      ((Spec.compose registry source document pickles options).run
        number).1.2
    (¬ document.LeavesOut options pickles pickle →
        pickle.testCaseCount collected = 1) ∧
      (document.LeavesOut options pickles pickle →
        pickle.testCaseCount collected = 0) := by
  intro collected
  let composed :=
    document.children.flatMap
      (Compose.settingOf registry document pickles options).childPickles
  have counted :
      pickle.testCaseCount collected =
        (composed.map (·.id)).count pickle.id :=
    congrArg (List.count pickle.id)
      (compose_entries registry source document pickles options number).1
  rw [counted]
  constructor
  · intro stays
    apply List.count_eq_one_of_mem
    · have sublist := owns.childPickles_sublist registry options
      exact (sublist.map _).nodup owns.nodup_pickleIds
    · exact (owns.id_mem_childPickles_iff registry options member).mpr stays
  · intro leaves
    apply List.count_eq_zero_of_not_mem
    intro shown
    exact (owns.id_mem_childPickles_iff registry options member).mp shown
      leaves

namespace Sample

theorem focused_testCaseCounts :
    (focused.1.pickles.map fun pickle =>
        pickle.testCaseCount (focusedRun { omitFiltered := true }).1.2) =
      [1, 1, 0] := by
  decide +kernel

/-- The pickle of the rule has a test case just if its test is listed. -/
theorem focused_test_cases :
    focused.1.document.Owns focused.1.pickles ∧
      ∃ pickle ∈ focused.1.pickles,
        focused.1.document.LeavesOut { omitFiltered := true }
            focused.1.pickles pickle ∧
          pickle.testCaseCount (focusedRun {}).1.2 = 1 := by
  have owns := FeatureFile.owns_of_parse focused_listed.1
  refine ⟨owns, ?_⟩
  have missing :
      0 ∈ focused.1.pickles.map fun pickle =>
        pickle.testCaseCount
          (focusedRun { omitFiltered := true }).1.2 := by
    rw [focused_testCaseCounts]
    decide
  unfold focusedRun at missing ⊢
  generalize focused = made at owns missing ⊢
  rcases List.mem_map.mp missing with ⟨pickle, member, absent⟩
  refine ⟨pickle, member, ?_, ?_⟩
  · by_contra stays
    have composed :=
      (Spec.testCases_of_pickles owns ({} : Registry Unit) focusedText
        { omitFiltered := true } made.2 member).1 stays
    exact Nat.zero_ne_one (absent.symm.trans composed)
  · apply (Spec.testCases_of_pickles owns {} focusedText {} made.2 member).1
    rintro ⟨omits, -⟩
    exact Bool.false_ne_true omits

/-- Not every pickle has a test case if tests are left out. -/
theorem focused_test_cases_are_missing :
    FeatureFile.parse "a.feature" focusedText 0 =
        .ok (focused.1, focused.2) ∧
      ¬ ∀ pickle ∈ focused.1.pickles,
          pickle.testCaseCount
            (focusedRun { omitFiltered := true }).1.2 = 1 := by
  refine ⟨focused_listed.1, ?_⟩
  rw [← List.forall_mem_map (P := (· = 1)), focused_testCaseCounts]
  decide

end Sample

end ScenarioRunner
