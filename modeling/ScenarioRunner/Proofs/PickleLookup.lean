import Mathlib.Data.List.Flatten
import ScenarioRunner.Proofs.FileIdentifiers
import ScenarioRunner.Proofs.PickleOrigin
import ScenarioRunner.Test.Suite

/-!
# Finding the pickles of a scenario

Pickles are made in one walk over a document, and their tests are composed in
another.  The second walk looks up the pickles of a scenario by the identifiers
of the scenario and of its rows.  Where nodes have identifiers of their own, it
finds exactly the pickles that the first walk made for the scenario.

The main statement is `Document.Owns.picklesOf`.
-/

namespace ScenarioRunner

open ScenarioRunner.Numbering (Ensures)

/-! ## The scenarios of a document -/

def Rule.scenarios (rule : Rule Nat) : List (Scenario Nat) :=
  rule.children.filterMap RuleChild.scenario?

def FeatureChild.scenarios : FeatureChild Nat → List (Scenario Nat)
  | .background _ => []
  | .scenario value => [value]
  | .rule value => value.scenarios

/-- All scenarios, those of rules among them, in the order of the text. -/
def Document.scenarios (document : Document Nat) : List (Scenario Nat) :=
  document.feature.toList.flatMap fun feature =>
    feature.children.flatMap FeatureChild.scenarios

namespace Scenario

/-- The rows of all tables of examples. -/
def exampleRows (scenario : Scenario Nat) : List (TableRow Nat) :=
  scenario.examples.flatMap (·.body)

/-- The identifiers by which pickles of a scenario are found. -/
def nodes (scenario : Scenario Nat) : List Nat :=
  scenario.id :: scenario.exampleRows.map (·.id)

theorem nodes_sublist (scenario : Scenario Nat) :
    scenario.nodes.Sublist (scenario.declared.map Declaration.id) := by
  have rows (examples : Examples Nat) :
      (examples.body.map (·.id)).Sublist
        (examples.declared.map Declaration.id) := by
    have body :
        examples.body.map (·.id) =
          (examples.body.flatMap TableRow.declared).map Declaration.id := by
      rw [List.map_flatMap, List.map_eq_flatMap]
      rfl
    rw [body, Examples.declared]
    apply List.Sublist.map
    exact List.sublist_append_of_sublist_left
      (List.sublist_append_right _ _)
  have tables :
      (scenario.exampleRows.map (·.id)).Sublist
        ((scenario.examples.flatMap Examples.declared).map
          Declaration.id) := by
    rw [exampleRows, List.map_flatMap, List.map_flatMap]
    exact List.Sublist.flatMap_right _ fun examples _ => rows examples
  rw [nodes, declared, List.cons_append, List.cons_append, List.map_cons,
    List.map_append]
  exact (List.sublist_append_of_sublist_right tables).cons_cons _

end Scenario

theorem RuleChild.nodes_sublist (child : RuleChild Nat) :
    (child.scenario?.toList.flatMap Scenario.nodes).Sublist
      (child.declared.map Declaration.id) := by
  cases child with
  | background value => exact List.nil_sublist _
  | scenario value =>
      simp only [scenario?, Option.toList_some, List.flatMap_singleton]
      exact value.nodes_sublist

theorem FeatureChild.nodes_sublist (child : FeatureChild Nat) :
    (child.scenarios.flatMap Scenario.nodes).Sublist
      (child.declared.map Declaration.id) := by
  cases child with
  | background value => exact List.nil_sublist _
  | scenario value =>
      simp only [scenarios, List.flatMap_singleton]
      exact value.nodes_sublist
  | rule value =>
      have children :
          (value.scenarios.flatMap Scenario.nodes).Sublist
            ((value.children.flatMap RuleChild.declared).map
              Declaration.id) := by
        rw [Rule.scenarios, List.filterMap_eq_flatMap_toList,
          List.flatMap_assoc, List.map_flatMap]
        exact List.Sublist.flatMap_right _ fun child _ =>
          child.nodes_sublist
      rw [declared, Rule.declared, List.map_append]
      exact List.sublist_append_of_sublist_left children

/-- Nodes by which pickles are found have identifiers of their own, if all
nodes have. -/
theorem Document.nodup_nodes {document : Document Nat}
    (distinct : (document.declared.map Declaration.id).Nodup) :
    (document.scenarios.flatMap Scenario.nodes).Nodup := by
  refine List.Nodup.sublist ?_ distinct
  rw [scenarios, declared, List.flatMap_assoc, List.map_flatMap]
  apply List.Sublist.flatMap_right
  intro feature _
  rw [Feature.declared, List.map_append, List.flatMap_assoc,
    List.map_flatMap]
  apply List.sublist_append_of_sublist_left
  exact List.Sublist.flatMap_right _ fun child _ => child.nodes_sublist

/-! ## Groups of pickles -/

/-- Pickles are those of a scenario: one is made from each of its origins. -/
def Scenario.Makes (scenario : Scenario Nat)
    (pickles : List (Pickle Nat)) : Prop :=
  ∃ around,
    List.Forall₂ PickleOrigin.Gives (scenario.origins around) pickles

/-- Pickles are those of some scenarios, group by group. -/
def Grouped (scenarios : List (Scenario Nat))
    (pickles : List (Pickle Nat)) : Prop :=
  ∃ groups,
    List.Forall₂ Scenario.Makes scenarios groups ∧ groups.flatten = pickles

namespace Grouped

theorem nil : Grouped [] [] := ⟨[], .nil, rfl⟩

theorem single {scenario : Scenario Nat} {pickles : List (Pickle Nat)}
    (made : scenario.Makes pickles) : Grouped [scenario] pickles :=
  ⟨[pickles], .cons made .nil, by simp⟩

theorem append {first second : List (Scenario Nat)}
    {early late : List (Pickle Nat)} (firstGroups : Grouped first early)
    (secondGroups : Grouped second late) :
    Grouped (first ++ second) (early ++ late) := by
  obtain ⟨before, beforeMade, rfl⟩ := firstGroups
  obtain ⟨behind, behindMade, rfl⟩ := secondGroups
  refine ⟨before ++ behind, ?_, List.flatten_append⟩
  exact List.rel_append beforeMade behindMade

end Grouped

theorem Scenario.pickles_grouped (around : Surroundings)
    (scenario : Scenario Nat) :
    Ensures (scenario.pickles around) (Grouped [scenario]) := by
  refine (scenario.pickles_given around).imp ?_
  intro pickles given
  exact .single ⟨around, given⟩

theorem RuleChild.pickles_grouped (children : List (RuleChild Nat))
    (around : Surroundings) :
    Ensures (pickles around children)
      (Grouped (children.filterMap RuleChild.scenario?)) := by
  induction children generalizing around with
  | nil => exact .pure .nil
  | cons child others ih =>
      cases child with
      | background value => exact ih (around.within value)
      | scenario value =>
          refine .bind (value.pickles_grouped around) fun first made => ?_
          refine .bind (ih around) fun rest others => ?_
          exact .pure (made.append others)

theorem FeatureChild.pickles_grouped (children : List (FeatureChild Nat))
    (around : Surroundings) :
    Ensures (pickles around children)
      (Grouped (children.flatMap FeatureChild.scenarios)) := by
  induction children generalizing around with
  | nil => exact .pure .nil
  | cons child others ih =>
      cases child with
      | background value => exact ih (around.within value)
      | scenario value =>
          refine .bind (value.pickles_grouped around) fun first made => ?_
          refine .bind (ih around) fun rest others => ?_
          exact .pure (made.append others)
      | rule value =>
          have own :=
            RuleChild.pickles_grouped value.children
              (around.tagged value.tags)
          refine .bind own fun first made => ?_
          refine .bind (ih around) fun rest others => ?_
          exact .pure (made.append others)

/-- The pickles of a document are those of its scenarios. -/
theorem Document.pickles_grouped (document : Document Nat) :
    Ensures document.pickles (Grouped document.scenarios) := by
  unfold Document.pickles Document.scenarios
  cases document.feature with
  | none => exact .pure .nil
  | some feature =>
      rw [Option.toList_some, List.flatMap_singleton]
      exact FeatureChild.pickles_grouped feature.children _

/-! ## Nodes of pickles -/

/-- A scenario with examples has an origin for each row. -/
theorem Scenario.origins_of_outline {scenario : Scenario Nat}
    (outline : scenario.examples ≠ []) (around : Surroundings) :
    scenario.origins around =
      (scenario.examples.flatMap Examples.rows).map fun row =>
        { around, scenario, row := some row } := by
  unfold origins
  split
  · rename_i plain
    exact absurd plain outline
  · rfl

namespace Scenario.Makes

variable {scenario : Scenario Nat} {pickles : List (Pickle Nat)}

theorem nodeIds_of_plain (made : scenario.Makes pickles)
    (plain : scenario.examples = []) :
    ∃ pickle, pickles = [pickle] ∧ pickle.nodeIds = [scenario.id] := by
  obtain ⟨around, given⟩ := made
  simp only [origins, plain] at given
  cases given with
  | cons first rest =>
      cases rest
      exact ⟨_, rfl, first.nodeIds⟩

theorem nodeIds_of_outline (made : scenario.Makes pickles)
    (outline : scenario.examples ≠ []) :
    pickles.map (·.nodeIds) =
      (scenario.examples.flatMap Examples.rows).map fun row =>
        [scenario.id, row.values.id] := by
  obtain ⟨around, given⟩ := made
  rw [origins_of_outline outline, List.forall₂_map_left_iff] at given
  generalize scenario.examples.flatMap Examples.rows = tables at given
  induction given with
  | nil => rfl
  | cons first rest ih =>
      rw [List.map_cons, List.map_cons, ih, first.nodeIds]
      rfl

end Scenario.Makes

theorem Examples.values_sublist (examples : Examples Nat) :
    (examples.rows.map (·.values)).Sublist examples.body := by
  unfold Examples.rows
  cases examples.header with
  | none => exact List.nil_sublist _
  | some header => simp [Function.comp_def]

/-- The rows that pickles are made for are rows of the scenario. -/
theorem Scenario.values_sublist (scenario : Scenario Nat) :
    ((scenario.examples.flatMap Examples.rows).map (·.values)).Sublist
      scenario.exampleRows := by
  rw [List.map_flatMap]
  exact List.Sublist.flatMap_right _ fun examples _ =>
    examples.values_sublist

theorem Scenario.Makes.nodeIds_subset {scenario : Scenario Nat}
    {pickles : List (Pickle Nat)} (made : scenario.Makes pickles)
    {pickle : Pickle Nat} (member : pickle ∈ pickles) :
    pickle.nodeIds ⊆ scenario.nodes := by
  by_cases plain : scenario.examples = []
  · obtain ⟨only, rfl, nodeIds⟩ := made.nodeIds_of_plain plain
    rw [List.mem_singleton.mp member, nodeIds]
    exact List.cons_subset.mpr
      ⟨List.mem_cons_self, List.nil_subset _⟩
  · have shown : pickle.nodeIds ∈ pickles.map (·.nodeIds) :=
      List.mem_map_of_mem member
    rw [made.nodeIds_of_outline plain] at shown
    obtain ⟨row, among, same⟩ := List.mem_map.mp shown
    have own : row.values ∈ scenario.exampleRows :=
      scenario.values_sublist.subset (List.mem_map_of_mem among)
    rw [← same]
    intro node listed
    rcases List.mem_cons.mp listed with rfl | listed
    · exact List.mem_cons_self
    · rw [List.mem_singleton.mp listed]
      exact List.mem_cons_of_mem _ (List.mem_map_of_mem own)

/-- Pickles of some scenarios refer to no nodes but those of the scenarios. -/
theorem Grouped.nodeIds_subset {scenarios : List (Scenario Nat)}
    {pickles : List (Pickle Nat)} (grouped : Grouped scenarios pickles)
    {pickle : Pickle Nat} (member : pickle ∈ pickles) :
    pickle.nodeIds ⊆ scenarios.flatMap Scenario.nodes := by
  obtain ⟨groups, made, rfl⟩ := grouped
  induction made with
  | nil => cases member
  | cons makes rest ih =>
      rw [List.flatten_cons, List.mem_append] at member
      rw [List.flatMap_cons]
      rcases member with early | late
      · exact List.subset_append_of_subset_left _
          (makes.nodeIds_subset early)
      · exact List.subset_append_of_subset_right _ (ih late)

/-! ## Looking pickles up -/

/-- The first of some pickles that refers to a node. -/
def pickleAt? (pickles : List (Pickle Nat)) (node : Nat) :
    Option (Pickle Nat) :=
  pickles.find? (·.nodeIds.contains node)

theorem pickleAt?_eq_none {pickles : List (Pickle Nat)} {node : Nat}
    (other : ∀ pickle ∈ pickles, node ∉ pickle.nodeIds) :
    pickleAt? pickles node = none := by
  apply List.find?_eq_none.mpr
  intro pickle member
  simpa using other pickle member

theorem pickleAt?_cons_of_mem {pickle : Pickle Nat} {node : Nat}
    (own : node ∈ pickle.nodeIds) (others : List (Pickle Nat)) :
    pickleAt? (pickle :: others) node = some pickle :=
  List.find?_cons_of_pos (by simpa using own)

theorem pickleAt?_cons_of_not_mem {pickle : Pickle Nat} {node : Nat}
    (other : node ∉ pickle.nodeIds) (others : List (Pickle Nat)) :
    pickleAt? (pickle :: others) node = pickleAt? others node :=
  List.find?_cons_of_neg (by simpa using other)

/-- A node of a scenario leads to a pickle of the scenario. -/
theorem pickleAt?_flatten {scenarios : List (Scenario Nat)}
    {groups : List (List (Pickle Nat))}
    (made : List.Forall₂ Scenario.Makes scenarios groups)
    (distinct : (scenarios.flatMap Scenario.nodes).Nodup)
    {scenario : Scenario Nat} {group : List (Pickle Nat)}
    (member : (scenario, group) ∈ scenarios.zip groups)
    {node : Nat} (own : node ∈ scenario.nodes) :
    pickleAt? groups.flatten node = pickleAt? group node := by
  induction made with
  | nil => cases member
  | @cons first firstGroup others otherGroups makes rest ih =>
      rw [List.flatMap_cons, List.nodup_append] at distinct
      obtain ⟨-, below, apart⟩ := distinct
      rw [List.flatten_cons, pickleAt?, List.find?_append]
      rw [List.zip_cons_cons, List.mem_cons] at member
      -- The scenario is the first, whose nodes no later group refers to, or a
      -- later one, to whose nodes the first group does not refer.
      rcases member with same | later
      · obtain ⟨rfl, rfl⟩ := Prod.mk.inj same
        have absent : pickleAt? otherGroups.flatten node = none := by
          apply pickleAt?_eq_none
          intro pickle among refers
          have outside := Grouped.nodeIds_subset ⟨_, rest, rfl⟩ among
          exact apart node own node (outside refers) rfl
        unfold pickleAt? at absent ⊢
        rw [absent, Option.or_none]
      · have absent : pickleAt? firstGroup node = none := by
          apply pickleAt?_eq_none
          intro pickle among refers
          refine apart node (makes.nodeIds_subset among refers) node ?_ rfl
          exact List.mem_flatMap.mpr
            ⟨scenario, (List.of_mem_zip later).1, own⟩
        unfold pickleAt? at absent ih ⊢
        rw [absent, Option.none_or, ih below later]

/-- The rows of an outline lead to its pickles.  Rows without a header, for
which there is no pickle, lead to none. -/
theorem filterMap_pickleAt? {scenario : Nat}
    {rows all : List (TableRow Nat)} (sublist : rows.Sublist all)
    (distinct : (scenario :: all.map (·.id)).Nodup)
    {pickles : List (Pickle Nat)}
    (nodeIds :
      pickles.map (·.nodeIds) = rows.map fun row => [scenario, row.id]) :
    (all.filterMap fun row => pickleAt? pickles row.id) = pickles := by
  induction sublist generalizing pickles with
  | slnil =>
      rw [List.map_nil, List.map_eq_nil_iff] at nodeIds
      rw [nodeIds]
      rfl
  | @cons rows all row sublist ih =>
      simp only [List.map_cons, List.nodup_cons, List.mem_cons,
        not_or] at distinct
      obtain ⟨⟨apart, outside⟩, fresh, below⟩ := distinct
      have absent : pickleAt? pickles row.id = none := by
        apply pickleAt?_eq_none
        intro pickle member refers
        have shown : pickle.nodeIds ∈ pickles.map (·.nodeIds) :=
          List.mem_map_of_mem member
        rw [nodeIds] at shown
        obtain ⟨other, among, same⟩ := List.mem_map.mp shown
        rw [← same, List.mem_cons, List.mem_singleton] at refers
        rcases refers with scenarioRow | repeated
        · exact apart scenarioRow.symm
        · apply fresh
          rw [repeated]
          exact List.mem_map_of_mem (sublist.subset among)
      simp only [List.filterMap_cons, absent]
      exact ih (List.nodup_cons.mpr ⟨outside, below⟩) nodeIds
  | @cons_cons rows all row sublist ih =>
      simp only [List.map_cons, List.nodup_cons, List.mem_cons,
        not_or] at distinct
      obtain ⟨⟨apart, outside⟩, fresh, below⟩ := distinct
      cases pickles with
      | nil => cases nodeIds
      | cons pickle others =>
          rw [List.map_cons, List.map_cons, List.cons.injEq] at nodeIds
          obtain ⟨own, rest⟩ := nodeIds
          have found : pickleAt? (pickle :: others) row.id = some pickle :=
            pickleAt?_cons_of_mem (by simp [own]) others
          simp only [List.filterMap_cons, found]
          congr 1
          refine Eq.trans (List.filterMap_congr ?_)
            (ih (List.nodup_cons.mpr ⟨outside, below⟩) rest)
          intro later member
          apply pickleAt?_cons_of_not_mem
          rw [own, List.mem_cons, List.mem_singleton, not_or]
          constructor
          · intro same
            apply outside
            rw [← same]
            exact List.mem_map_of_mem member
          · intro same
            apply fresh
            rw [← same]
            exact List.mem_map_of_mem member

namespace Compose.Setting

variable {Host : Type}

/-- The pickles of a scenario are found that are made for it. -/
theorem picklesOf_eq_group {setting : Setting Host}
    {scenario : Scenario Nat} {group : List (Pickle Nat)}
    (made : scenario.Makes group) (distinct : scenario.nodes.Nodup)
    (found : ∀ node ∈ scenario.nodes,
      setting.pickleOf? node = pickleAt? group node) :
    setting.picklesOf scenario = group := by
  unfold picklesOf
  by_cases plain : scenario.examples = []
  · obtain ⟨pickle, rfl, nodeIds⟩ := made.nodeIds_of_plain plain
    rw [plain, List.isEmpty_nil, if_pos rfl,
      found _ List.mem_cons_self,
      pickleAt?_cons_of_mem (by simp [nodeIds]), Option.toList_some]
  · rw [List.isEmpty_eq_false_iff.mpr plain, if_neg Bool.false_ne_true]
    have nodeIds :
        group.map (·.nodeIds) =
          ((scenario.examples.flatMap Examples.rows).map (·.values)).map
            fun row => [scenario.id, row.id] := by
      rw [made.nodeIds_of_outline plain, List.map_map]
      rfl
    refine Eq.trans (List.filterMap_congr fun row member => ?_)
      (filterMap_pickleAt? scenario.values_sublist distinct nodeIds)
    exact found row.id
      (List.mem_cons_of_mem _ (List.mem_map_of_mem member))

/-- The pickles found for the scenarios are all pickles, each found for the
scenario that it is made from. -/
theorem picklesOf_grouped {setting : Setting Host}
    {scenarios : List (Scenario Nat)}
    (grouped : Grouped scenarios setting.pickles)
    (distinct : (scenarios.flatMap Scenario.nodes).Nodup) :
    (∀ scenario ∈ scenarios,
        scenario.Makes (setting.picklesOf scenario)) ∧
      scenarios.flatMap setting.picklesOf = setting.pickles := by
  obtain ⟨groups, made, whole⟩ := grouped
  obtain ⟨length, makes⟩ := List.forall₂_iff_zip.mp made
  have same :
      List.Forall₂ (fun scenario group =>
        setting.picklesOf scenario = group) scenarios groups := by
    apply List.forall₂_iff_zip.mpr
    refine ⟨length, ?_⟩
    intro scenario group member
    have own : scenario.nodes.Nodup :=
      (List.nodup_flatMap.mp distinct).1 scenario (List.of_mem_zip member).1
    apply picklesOf_eq_group (makes member) own
    intro node listed
    rw [← pickleAt?_flatten made distinct member listed, whole]
    rfl
  rw [← List.forall₂_map_left_iff (f := setting.picklesOf),
    List.forall₂_eq_eq_eq] at same
  constructor
  · rw [← same, List.forall₂_map_right_iff, List.forall₂_same] at made
    exact made
  · rw [← whole, ← same, List.flatMap_def]

end Compose.Setting

/-! ## Documents with their own pickles -/

/-- The nodes of a document have identifiers of their own, and these are the
pickles compiled from it. -/
structure Document.Owns (document : Document Nat)
    (pickles : List (Pickle Nat)) : Prop where
  distinct : (document.declared.map Declaration.id).Nodup
  compiled : ∃ number, (document.pickles.run number).1 = pickles

namespace Document.Owns

variable {Host : Type} {document : Document Nat}

theorem picklesOf {setting : Compose.Setting Host}
    (owns : document.Owns setting.pickles) :
    (∀ scenario ∈ document.scenarios,
        scenario.Makes (setting.picklesOf scenario)) ∧
      document.scenarios.flatMap setting.picklesOf = setting.pickles := by
  obtain ⟨number, compiled⟩ := owns.compiled
  have grouped : Grouped document.scenarios setting.pickles := by
    rw [← compiled]
    exact document.pickles_grouped number
  exact Compose.Setting.picklesOf_grouped grouped
    (nodup_nodes owns.distinct)

end Document.Owns

/-- A file that has been read holds a document with its own pickles. -/
theorem FeatureFile.owns_of_parse [FeatureSyntax] {uri source : String}
    {first next : Nat} {file : FeatureFile}
    (parsed : parse uri source first = .ok (file, next)) :
    file.document.Owns file.pickles := by
  constructor
  · obtain ⟨-, count, -, drawn⟩ := parse_identifiers parsed
    have all : (file.declared.map Declaration.id).Nodup := by
      rw [drawn]
      exact List.nodup_range'
    rw [FeatureFile.declared, List.map_append] at all
    exact (List.nodup_append.mp all).1
  · unfold parse at parsed
    cases read : document? uri source with
    | error reason => simp [read, Except.map] at parsed
    | ok bare =>
        simp only [read, Except.map, Except.ok.injEq] at parsed
        obtain ⟨rfl, -⟩ := Prod.mk.inj parsed
        exact ⟨(bare.number.run first).2, rfl⟩

end ScenarioRunner
