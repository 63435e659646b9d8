import ScenarioRunner.Project.Basic
import ScenarioRunner.Proofs.DiagnosisAgreement
import ScenarioRunner.Proofs.TestsOfPickles

/-!
# Files that are left out by their tags

A feature file is left out if the tags select none of its pickles.  Its tests
are composed from pickles that are made anew, from the same text, so that the
tags would exclude all of these tests.  But where a document singles out tests,
these are executable whatever the tags are, and a file with such tests may be
left out all the same.

The main statement is `Project.filterSpecs_leaves_out`.
-/

namespace ScenarioRunner

open ScenarioRunner.Numbering (Ensures)

variable {Host : Type}

/-! ## Executable tests -/

namespace Compose.Setting

/-- An executable test is that of a pickle which the tags do not exclude. -/
theorem executes_of_mem_entries {setting : Setting Host}
    {scenario : Scenario Nat} {entry : TestEntry}
    (member : entry ∈ setting.entries scenario) {pickle : Pickle Nat}
    (executable : entry.pickle = some pickle) :
    pickle ∈ setting.pickles ∧ setting.executes pickle = true := by
  obtain ⟨⟨name, own⟩, named, rfl⟩ :=
    List.mem_map.mp (List.mem_filter.mp member).1
  have known : own ∈ setting.picklesOf scenario := by
    rw [← map_snd_named]
    exact List.mem_map_of_mem named
  simp only [entry] at executable
  split at executable
  · rename_i executes
    cases executable
    exact ⟨mem_of_picklesOf known, executes⟩
  · cases executable

theorem executes_of_mem_childEntries {setting : Setting Host}
    {child : FeatureChild Nat} {entry : TestEntry}
    (member : entry ∈
      (setting.childEntries child).flatMap SuiteEntry.tests)
    {pickle : Pickle Nat} (executable : entry.pickle = some pickle) :
    pickle ∈ setting.pickles ∧ setting.executes pickle = true := by
  cases child with
  | background value => cases member
  | scenario value =>
      rw [childEntries, SuiteEntry.flatMap_tests] at member
      exact executes_of_mem_entries member executable
  | rule value =>
      rw [childEntries] at member
      split at member
      · cases member
      · rw [List.flatMap_singleton] at member
        obtain ⟨scenario, -, listed⟩ := List.mem_flatMap.mp member
        exact executes_of_mem_entries listed executable

end Compose.Setting

/-- The filter in force selects the pickle of each executable test. -/
theorem Spec.executes_of_compose (registry : Registry Host) (source : String)
    (document : Document Nat) (pickles : List (Pickle Nat))
    (options : ComposeOptions) :
    Ensures (Spec.compose registry source document pickles options)
      (fun composed =>
        ∀ test ∈ composed.1.tests, ∀ executable ∈ test.executable,
          executable.pickle ∈ pickles ∧
            document.Executes options executable.pickle.tagNames) := by
  refine (compose_entries registry source document pickles options).imp ?_
  rintro ⟨spec, collected⟩ ⟨-, suites⟩ test listed executable executes
  have entry : test.entry ∈ document.children.flatMap fun child =>
      ((Compose.settingOf registry document pickles options).childEntries
        child).flatMap SuiteEntry.tests := by
    have listed := List.mem_map_of_mem (f := Test.entry) listed
    rw [Spec.map_entry_tests] at listed
    unfold Document.children
    generalize spec.suite = suite at suites listed
    generalize document.feature = feature at suites ⊢
    cases suites with
    | none => cases listed
    | some suites =>
        rw [Option.elim_some, suites.2, List.flatMap_assoc] at listed
        rwa [Option.toList_some, List.flatMap_singleton]
  obtain ⟨child, -, below⟩ := List.mem_flatMap.mp entry
  have own : test.entry.pickle = some executable.pickle := by
    rw [Test.entry, executes, Option.map_some]
  have found := Compose.Setting.executes_of_mem_childEntries below own
  exact ⟨found.1, (Compose.executes_settingOf_iff ..).mp found.2⟩

/-! ## Reading again -/

/-- The tags of pickles do not depend on numbers. -/
theorem SameContent.map_tagNames {first second : List (Pickle Nat)}
    (same : SameContent first second) :
    first.map Pickle.tagNames = second.map Pickle.tagNames := by
  have names (pickles : List (Pickle Nat)) :
      pickles.map Pickle.tagNames =
        (pickles.map Pickle.content).map (·.tags) := by
    rw [List.map_map]
    rfl
  rw [names, names, same]

/-- A text that can be read can be read under any name. -/
theorem FeatureFile.exists_parse [FeatureSyntax] {uri source : String}
    {first next : Nat} {file : FeatureFile}
    (parsed : parse uri source first = .ok (file, next)) (other : String)
    (second : Nat) :
    ∃ again last, parse other source second = .ok (again, last) := by
  have read := (bare_of_parse parsed).1
  have reread : ∃ bare, document? other source = .ok bare := by
    unfold document? at read ⊢
    split at read
    · rename_i blank
      exact ⟨_, if_pos blank⟩
    · rename_i text
      rw [if_neg text]
      cases found : FeatureSyntax.read? source with
      | none => simp [found] at read
      | some feature => exact ⟨_, rfl⟩
  obtain ⟨bare, reread⟩ := reread
  exact ⟨_, _, by rw [parse, reread]; rfl⟩

/-! ## Filtering -/

section Filter

variable {Item Error : Type} {passes : Item → Except Error Bool}

/-- Whether an item passes; one whose check fails does not. -/
def passed (passes : Item → Except Error Bool) (item : Item) : Bool :=
  match passes item with
  | .ok pass => pass
  | .error _ => false

theorem filter_of_filterAuxM {items found kept : List Item}
    (filtered : items.filterAuxM passes found = .ok kept) :
    (∀ item ∈ items, passes item = .ok (passed passes item)) ∧
      kept.reverse = found.reverse ++ items.filter (passed passes) := by
  induction items generalizing found with
  | nil =>
      cases filtered
      simp
  | cons item others ih =>
      rw [List.filterAuxM] at filtered
      cases checked : passes item with
      | error reason => simp [checked, bind, Except.bind] at filtered
      | ok pass =>
          have own : passed passes item = pass := by rw [passed, checked]
          rw [checked] at filtered
          obtain ⟨rest, behind⟩ := ih filtered
          rw [List.forall_mem_cons, own, behind]
          refine ⟨⟨checked, rest⟩, ?_⟩
          cases pass <;> simp [own]

/-- Filtering succeeds if all checks do, and keeps the items that pass. -/
theorem filter_of_filterM {items kept : List Item}
    (filtered : items.filterM passes = .ok kept) :
    (∀ item ∈ items, passes item = .ok (passed passes item)) ∧
      kept = items.filter (passed passes) := by
  rw [List.filterM] at filtered
  cases done : items.filterAuxM passes [] with
  | error reason => simp [done, bind, Except.bind] at filtered
  | ok found =>
      rw [done] at filtered
      cases filtered
      exact filter_of_filterAuxM done

end Filter

namespace Project

variable {project : Project} {tags : TagExpression} {path : String}

/-- What a file is that is left out. -/
structure LeavesOut [FeatureSyntax] (Host : Type) (project : Project)
    (tags : TagExpression) (path : String) : Prop where
  feature : Path.isFeature path = true
  /-- It can be read, under any name. -/
  readable : ∀ uri first,
    ∃ read, project.readFeature path uri first = .ok read
  /-- None of its tests is executable with these tags, unless the document
  singles out tests; then those are singled out that are executable. -/
  excluded : ∀ {uri first file next},
    project.readFeature path uri first = .ok (file, next) →
      ∀ (registry : Registry Host) (source : String)
        (options : ComposeOptions),
        options.tags = some tags →
        ∀ number, ∀ test ∈
          ((Spec.compose registry source file.document file.pickles
            options).run number).1.1.tests,
          (¬ file.document.IsFocused → test.executable = none) ∧
            ∀ executable ∈ test.executable,
              "@only" ∈ executable.pickle.tagNames ∨
                "@focus" ∈ executable.pickle.tagNames

/-- A file is checked by reading it. -/
theorem exists_of_mayHold_false [FeatureSyntax]
    (checked : project.mayHold tags path = .ok false) :
    Path.isFeature path = true ∧
      ∃ file next,
        project.readFeature path path 0 = .ok (file, next) ∧
          ∀ pickle ∈ file.pickles, tags.eval pickle.tagNames = false := by
  unfold mayHold at checked
  split at checked
  · rename_i feature
    cases read : project.readFeature path path 0 with
    | error reason => simp [read, Except.map] at checked
    | ok made =>
        simp only [read, Except.map, Except.ok.injEq,
          List.any_eq_false] at checked
        refine ⟨feature, made.1, made.2, rfl, ?_⟩
        intro pickle member
        exact Bool.eq_false_iff.mpr (checked pickle member)
  · cases checked

theorem leavesOut_of_mayHold [FeatureSyntax]
    (checked : project.mayHold tags path = .ok false) :
    project.LeavesOut Host tags path := by
  obtain ⟨feature, file, next, read, unselected⟩ :=
    exists_of_mayHold_false checked
  obtain ⟨source, text, parsed⟩ := exists_of_readFeature read
  refine ⟨feature, ?_, ?_⟩
  · intro uri first
    obtain ⟨again, last, reparsed⟩ :=
      FeatureFile.exists_parse parsed uri first
    refine ⟨(again, last), ?_⟩
    simp [readFeature, text, reparsed, Except.mapError, bind, Except.bind]
  · intro uri first again last reread registry given options own number test
      listed
    obtain ⟨same, found, reparsed⟩ := exists_of_readFeature reread
    rw [text, Except.ok.injEq] at found
    subst found
    have names := (FeatureFile.parse_agrees parsed reparsed).map_tagNames
    have executes :=
      Spec.executes_of_compose registry given again.document again.pickles
        options number test listed
    -- What the tags select among the pickles that are read again, they have
    -- selected before.
    have excluded {executable : Executable Host}
        (among : executable ∈ test.executable) :
        again.document.IsFocused := by
      by_contra unfocused
      obtain ⟨member, satisfied, -⟩ := executes executable among
      have again := List.mem_map_of_mem (f := Pickle.tagNames) member
      rw [← names] at again
      obtain ⟨pickle, before, alike⟩ := List.mem_map.mp again
      have selected := satisfied.2 unfocused tags own
      rw [← alike, unselected pickle before] at selected
      cases selected
    constructor
    · intro unfocused
      rw [Option.eq_none_iff_forall_not_mem]
      exact fun executable among => unfocused (excluded among)
    · intro executable among
      exact (executes executable among).2.1.1 (excluded among)

/--
If files can be filtered by tags, those that are kept stand in their order, and
all that are no feature files are among them.  Of the feature files that are
left out, no test would be executable with these tags, as long as the document
does not single out tests.
-/
theorem filterSpecs_leaves_out [FeatureSyntax] {paths kept : List String}
    (filtered : project.filterSpecs tags paths = .ok kept) :
    kept.Sublist paths ∧
      (paths.filter fun path => !Path.isFeature path).Sublist kept ∧
      ∀ path ∈ paths, path ∉ kept → project.LeavesOut Host tags path := by
  obtain ⟨checked, rfl⟩ := filter_of_filterM filtered
  refine ⟨List.filter_sublist, ?_, ?_⟩
  · apply List.monotone_filter_right
    intro path other
    simp only [Bool.not_eq_true'] at other
    simp [passed, mayHold, other]
  · intro path member absent
    apply leavesOut_of_mayHold
    have fails : passed (project.mayHold tags) path = false := by
      rw [Bool.eq_false_iff]
      exact fun pass => absent (List.mem_filter.mpr ⟨member, pass⟩)
    rw [checked path member, fails]

end Project

namespace Sample

/-- Feature files with a scenario each, that have different tags. -/
def tagged : Project where
  root := "/p"
  files :=
    { entries :=
        [ (["a.feature"], .textFile "Feature:\n @smoke\n Scenario: A\n"),
          (["b.feature"], .textFile "Feature:\n @slow\n Scenario: B\n"),
          (["c.feature"], .textFile "Feature:\n @only\n Scenario: C\n") ] }

/-- A file is left out whose only scenario has another tag. -/
theorem tagged_leaves_out :
    tagged.filterSpecs (.tag "@smoke")
        ["/p/a.feature", "/p/b.feature", "/p/c.txt"] =
      .ok ["/p/a.feature", "/p/c.txt"] ∧
    tagged.LeavesOut Unit (.tag "@smoke") "/p/b.feature" := by
  have filtered :
      tagged.filterSpecs (.tag "@smoke")
          ["/p/a.feature", "/p/b.feature", "/p/c.txt"] =
        .ok ["/p/a.feature", "/p/c.txt"] := by
    decide +kernel
  refine ⟨filtered, ?_⟩
  exact (Project.filterSpecs_leaves_out filtered).2.2 "/p/b.feature"
    (by decide) (by decide)

/-- The tests of a feature file, composed with a tag to select them by. -/
def taggedTests (path : String) : Except ProjectError (List (String × Bool)) :=
  (ProjectRun.compose { project := tagged, host := () }
      { tags := some (.tag "@smoke") } {} path).map fun composed =>
    composed.1.tests.map fun test => (test.name, test.executable.isSome)

/-- A file is left out whose only test is executable with the same tags. -/
theorem tagged_leaves_out_focused :
    tagged.filterSpecs (.tag "@smoke") ["/p/a.feature", "/p/c.feature"] =
        .ok ["/p/a.feature"] ∧
      taggedTests "/p/c.feature" = .ok [("C", true)] := by
  decide +kernel

end Sample

end ScenarioRunner
