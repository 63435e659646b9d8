import ScenarioRunner.Feature.File
import ScenarioRunner.Proofs.Declaration
import ScenarioRunner.Proofs.Drawing

/-!
# The identifiers of a feature file

Reading a feature file numbers the nodes of its document and then draws the
identifiers of its pickles and of their steps.  So the numbers drawn are
exactly the identifiers that the document and the pickles declare, each of
them once, and every pickle refers to nodes of the document.

The main statement is `FeatureFile.parse_identifiers`.
-/

namespace ScenarioRunner

open ScenarioRunner.Numbering (Draws Ensures)

/-! ## Numbering a document -/

theorem Tag.number_draws (tag : Tag Unit) :
    Draws [] tag.number (fun made => made.declared.map Declaration.id) :=
  .bind .fresh fun _ => .pure rfl

theorem TableRow.number_draws (row : TableRow Unit) :
    Draws [] row.number (fun made => made.declared.map Declaration.id) :=
  .bind .fresh fun _ => .pure rfl

theorem StepTable.number_draws (table : StepTable Unit) :
    Draws [] table.number
      (fun made => made.declared.map Declaration.id) := by
  refine .bind (.mapM TableRow.number_draws) fun rows => ?_
  exact .pure List.map_flatMap

theorem Step.number_draws (step : Step Unit) :
    Draws [] step.number (fun made => made.declared.map Declaration.id) := by
  refine .bind (.mapM_option StepTable.number_draws) fun table => ?_
  refine .bind (Draws.fresh.after _) fun id => ?_
  exact .pure (by simp [declared, List.map_flatMap])

theorem Background.number_draws (background : Background Unit) :
    Draws [] background.number
      (fun made => made.declared.map Declaration.id) := by
  refine .bind .fresh fun id => ?_
  refine .bind ((Draws.mapM Step.number_draws).after _) fun steps => ?_
  exact .pure (by simp [declared, List.map_flatMap])

theorem Examples.number_draws (examples : Examples Unit) :
    Draws [] examples.number
      (fun made => made.declared.map Declaration.id) := by
  refine .bind (.mapM_option TableRow.number_draws) fun header => ?_
  refine .bind ((Draws.mapM TableRow.number_draws).after _) fun body => ?_
  refine .bind (Draws.fresh.after _) fun id => ?_
  refine .bind ((Draws.mapM Tag.number_draws).after _) fun tags => ?_
  exact .pure (by simp [declared, List.map_flatMap])

theorem Scenario.number_draws (scenario : Scenario Unit) :
    Draws [] scenario.number
      (fun made => made.declared.map Declaration.id) := by
  refine .bind .fresh fun id => ?_
  refine .bind ((Draws.mapM Tag.number_draws).after _) fun tags => ?_
  refine .bind ((Draws.mapM Step.number_draws).after _) fun steps => ?_
  refine .bind ((Draws.mapM Examples.number_draws).after _)
    fun examples => ?_
  exact .pure (by simp [declared, List.map_flatMap])

theorem RuleChild.number_draws (child : RuleChild Unit) :
    Draws [] child.number
      (fun made => made.declared.map Declaration.id) := by
  cases child with
  | background value => exact .map value.number_draws fun _ => rfl
  | scenario value => exact .map value.number_draws fun _ => rfl

theorem Rule.number_draws (rule : Rule Unit) :
    Draws [] rule.number (fun made => made.declared.map Declaration.id) := by
  refine .bind (.mapM RuleChild.number_draws) fun children => ?_
  refine .bind (Draws.fresh.after _) fun id => ?_
  refine .bind ((Draws.mapM Tag.number_draws).after _) fun tags => ?_
  exact .pure (by simp [declared, List.map_flatMap])

theorem FeatureChild.number_draws (child : FeatureChild Unit) :
    Draws [] child.number
      (fun made => made.declared.map Declaration.id) := by
  cases child with
  | background value => exact .map value.number_draws fun _ => rfl
  | scenario value => exact .map value.number_draws fun _ => rfl
  | rule value => exact .map value.number_draws fun _ => rfl

theorem Feature.number_draws (feature : Feature Unit) :
    Draws [] feature.number
      (fun made => made.declared.map Declaration.id) := by
  refine .bind (.mapM FeatureChild.number_draws) fun children => ?_
  refine .bind ((Draws.mapM Tag.number_draws).after _) fun tags => ?_
  exact .pure (by simp [declared, List.map_flatMap])

theorem Document.number_draws (document : Document Unit) :
    Draws [] document.number
      (fun made => made.declared.map Declaration.id) := by
  refine .bind (.mapM_option Feature.number_draws) fun feature => ?_
  exact .pure (by simp [declared, List.map_flatMap])

/-! ## Drawing the identifiers of pickles -/

/-- The identifiers that a pickle declares: those of its steps and its own. -/
def Pickle.identifiers (pickle : Pickle Nat) : List Nat :=
  pickle.steps.map (·.id) ++ [pickle.id]

@[simp]
theorem Pickle.map_declared (pickle : Pickle Nat) :
    pickle.declared.map Declaration.id = pickle.identifiers := by
  simp [declared, identifiers, Function.comp_def]

theorem Step.pickle_draws (values : Placeholder.Values) (row : Option Nat)
    (step : Step Nat) :
    Draws [] (step.pickle values row) (fun made => [made.id]) :=
  .bind .fresh fun _ => .pure rfl

namespace Scenario

theorem pickle_draws (around : Surroundings) (scenario : Scenario Nat)
    (values : Placeholder.Values) (row : Option Nat)
    (tags : List (Tag Nat)) :
    Draws [] (scenario.pickle around values row tags)
      Pickle.identifiers := by
  have steps (values : Placeholder.Values) (row : Option Nat)
      (steps : List (Step Nat)) :
      Draws [] (steps.mapM (Step.pickle values row))
        (fun made => made.flatMap fun step => [step.id]) :=
    .mapM fun step => step.pickle_draws values row
  refine .bind (steps _ _ _) fun before => ?_
  refine .bind ((steps _ _ _).after _) fun own => ?_
  refine .bind (Draws.fresh.after _) fun id => ?_
  exact .pure (by simp [Pickle.identifiers, ← List.map_eq_flatMap])

theorem examplesPickles_draws (around : Surroundings)
    (scenario : Scenario Nat) (examples : Examples Nat) :
    Draws [] (scenario.examplesPickles around examples)
      (List.flatMap Pickle.identifiers) := by
  unfold examplesPickles
  cases examples.header with
  | none => exact .pure rfl
  | some header =>
      exact .mapM fun row => scenario.pickle_draws around _ _ _

theorem pickles_draws (around : Surroundings) (scenario : Scenario Nat) :
    Draws [] (scenario.pickles around)
      (List.flatMap Pickle.identifiers) := by
  cases tables : scenario.examples with
  | nil =>
      simp only [pickles, tables]
      refine .bind (scenario.pickle_draws around _ _ _) fun pickle => ?_
      exact .pure (by simp)
  | cons first others =>
      simp only [pickles, tables]
      refine .bind (.mapM (scenario.examplesPickles_draws around))
        fun found => ?_
      exact .pure (by simp [← List.flatMap_id, List.flatMap_assoc])

end Scenario

theorem RuleChild.pickles_draws (children : List (RuleChild Nat))
    (around : Surroundings) :
    Draws [] (pickles around children)
      (List.flatMap Pickle.identifiers) := by
  induction children generalizing around with
  | nil => exact .pure rfl
  | cons child others ih =>
      cases child with
      | background value => exact ih (around.within value)
      | scenario value =>
          refine .bind (value.pickles_draws around) fun first => ?_
          refine .bind ((ih around).after _) fun rest => ?_
          exact .pure List.flatMap_append

theorem FeatureChild.pickles_draws (children : List (FeatureChild Nat))
    (around : Surroundings) :
    Draws [] (pickles around children)
      (List.flatMap Pickle.identifiers) := by
  induction children generalizing around with
  | nil => exact .pure rfl
  | cons child others ih =>
      cases child with
      | background value => exact ih (around.within value)
      | scenario value =>
          refine .bind (value.pickles_draws around) fun first => ?_
          refine .bind ((ih around).after _) fun rest => ?_
          exact .pure List.flatMap_append
      | rule value =>
          refine .bind (RuleChild.pickles_draws value.children _)
            fun first => ?_
          refine .bind ((ih around).after _) fun rest => ?_
          exact .pure List.flatMap_append

theorem Document.pickles_draws (document : Document Nat) :
    Draws [] document.pickles (List.flatMap Pickle.identifiers) := by
  unfold Document.pickles
  cases document.feature with
  | none => exact .pure rfl
  | some feature => exact FeatureChild.pickles_draws feature.children _

/-! ## References to the nodes of a document -/

theorem Tag.declaration_mem {tag : Tag Nat} {tags : List (Tag Nat)}
    (member : tag ∈ tags) :
    ⟨.tag, tag.id⟩ ∈ tags.flatMap Tag.declared :=
  List.mem_flatMap.mpr ⟨tag, member, List.mem_singleton_self _⟩

theorem Step.declaration_mem {step : Step Nat} {steps : List (Step Nat)}
    (member : step ∈ steps) :
    ⟨.step, step.id⟩ ∈ steps.flatMap Step.declared :=
  List.mem_flatMap.mpr
    ⟨step, member, List.mem_append_right _ (List.mem_singleton_self _)⟩

theorem Examples.row_declaration_mem {examples : Examples Nat}
    {row : TableRow Nat} (member : row ∈ examples.body) :
    ⟨.row, row.id⟩ ∈ examples.declared := by
  have among : ⟨.row, row.id⟩ ∈ examples.body.flatMap TableRow.declared :=
    List.mem_flatMap.mpr ⟨row, member, List.mem_singleton_self _⟩
  exact List.mem_append_left _ (List.mem_append_right _ among)

/-- The nodes are known that pickles take over from around a scenario. -/
structure Surroundings.Known (known : List Declaration)
    (around : Surroundings) : Prop where
  background : ∀ step ∈ around.background, ⟨.step, step.id⟩ ∈ known
  tags : ∀ tag ∈ around.tags, ⟨.tag, tag.id⟩ ∈ known

section Known

variable {known : List Declaration} {around : Surroundings}

theorem Surroundings.Known.within (nodes : around.Known known)
    {background : Background Nat}
    (declared : background.declared ⊆ known) :
    (around.within background).Known known where
  background := by
    intro step member
    rcases List.mem_append.mp member with outer | inner
    · exact nodes.background step outer
    · exact declared (.tail _ (Step.declaration_mem inner))
  tags := nodes.tags

theorem Surroundings.Known.tagged (nodes : around.Known known)
    {tags : List (Tag Nat)}
    (declared : tags.flatMap Tag.declared ⊆ known) :
    (around.tagged tags).Known known where
  background := nodes.background
  tags := by
    intro tag member
    rcases List.mem_append.mp member with outer | inner
    · exact nodes.tags tag outer
    · exact declared (Tag.declaration_mem inner)

theorem nodeReferences_subset {entity : Entity} {node : Nat}
    {row : Option Nat} (own : ⟨entity, node⟩ ∈ known)
    (below : ∀ id ∈ row, ⟨.row, id⟩ ∈ known) :
    nodeReferences entity (node :: row.toList) ⊆ known := by
  intro reference member
  rcases List.mem_cons.mp member with rfl | member
  · exact own
  · obtain ⟨id, among, rfl⟩ := List.mem_map.mp member
    exact below id (Option.mem_toList.mp among)

theorem Step.pickle_refers {step : Step Nat}
    (own : ⟨.step, step.id⟩ ∈ known) (values : Placeholder.Values)
    {row : Option Nat} (below : ∀ id ∈ row, ⟨.row, id⟩ ∈ known) :
    Ensures (step.pickle values row)
      (fun made => nodeReferences .step made.nodeIds ⊆ known) := by
  refine .bind (.trivial _) fun id _ => ?_
  exact .pure (nodeReferences_subset own below)

namespace Scenario

theorem pickle_refers (nodes : around.Known known)
    {scenario : Scenario Nat} (declared : scenario.declared ⊆ known)
    (values : Placeholder.Values) {row : Option Nat}
    (below : ∀ id ∈ row, ⟨.row, id⟩ ∈ known) {tags : List (Tag Nat)}
    (inherited : tags.flatMap Tag.declared ⊆ known) :
    Ensures (scenario.pickle around values row tags)
      (fun pickle => pickle.references ⊆ known) := by
  obtain ⟨own, ownTags, ownSteps, -⟩ :
      ⟨.scenario, scenario.id⟩ ∈ known ∧
        scenario.tags.flatMap Tag.declared ⊆ known ∧
        scenario.steps.flatMap Step.declared ⊆ known ∧
        scenario.examples.flatMap Examples.declared ⊆ known := by
    simpa [Scenario.declared] using declared
  have background :
      Ensures (around.background.mapM (Step.pickle [] none))
        (fun steps => ∀ made ∈ steps,
          nodeReferences .step made.nodeIds ⊆ known) :=
    .mapM fun step member =>
      Step.pickle_refers (nodes.background step member) [] (by simp)
  have steps :
      Ensures (scenario.steps.mapM (Step.pickle values row))
        (fun steps => ∀ made ∈ steps,
          nodeReferences .step made.nodeIds ⊆ known) :=
    .mapM fun step member =>
      Step.pickle_refers (ownSteps (Step.declaration_mem member)) values
        below
  refine .bind background fun before beforeRefer => ?_
  refine .bind steps fun after afterRefer => ?_
  refine .bind (.trivial _) fun id _ => ?_
  refine .pure ?_
  intro reference member
  rcases List.mem_append.mp member with member | stepMember
  · rcases List.mem_append.mp member with nodeMember | tagMember
    · exact nodeReferences_subset own below nodeMember
    · simp only [List.map_map, List.mem_map, Function.comp_apply,
        List.mem_append] at tagMember
      obtain ⟨tag, (outer | scenarioTag) | examplesTag, rfl⟩ := tagMember
      · exact nodes.tags tag outer
      · exact ownTags (Tag.declaration_mem scenarioTag)
      · exact inherited (Tag.declaration_mem examplesTag)
  · obtain ⟨made, among, member⟩ := List.mem_flatMap.mp stepMember
    rcases List.mem_append.mp among with early | late
    · exact beforeRefer made early member
    · exact afterRefer made late member

theorem examplesPickles_refer (nodes : around.Known known)
    {scenario : Scenario Nat} (declared : scenario.declared ⊆ known)
    {examples : Examples Nat} (listed : examples.declared ⊆ known) :
    Ensures (scenario.examplesPickles around examples)
      (fun pickles => ∀ pickle ∈ pickles, pickle.references ⊆ known) := by
  unfold examplesPickles
  cases examples.header with
  | none => exact .pure (List.forall_mem_nil _)
  | some header =>
      refine .mapM fun row member => ?_
      refine pickle_refers nodes declared _ ?_ ?_
      · intro id same
        cases same
        exact listed (Examples.row_declaration_mem member)
      · intro declaration among
        exact listed (List.mem_append_right _ (.tail _ among))

theorem pickles_refer (nodes : around.Known known)
    {scenario : Scenario Nat} (declared : scenario.declared ⊆ known) :
    Ensures (scenario.pickles around)
      (fun pickles => ∀ pickle ∈ pickles, pickle.references ⊆ known) := by
  cases tables : scenario.examples with
  | nil =>
      simp only [pickles, tables]
      refine .bind
        (pickle_refers nodes declared [] (by simp) (List.nil_subset _))
        fun pickle refers => ?_
      exact .pure (List.forall_mem_singleton.mpr refers)
  | cons first others =>
      simp only [pickles, tables]
      have each (examples : Examples Nat)
          (member : examples ∈ first :: others) :
          examples.declared ⊆ known := by
        intro declaration among
        refine declared (List.mem_append_right _ ?_)
        exact List.mem_flatMap.mpr ⟨examples, tables ▸ member, among⟩
      refine .bind
        (.mapM fun examples member =>
          examplesPickles_refer nodes declared (each examples member))
        fun found refer => ?_
      refine .pure fun pickle member => ?_
      obtain ⟨pickles, part, among⟩ := List.mem_flatten.mp member
      exact refer pickles part pickle among

end Scenario

/-- The pickles of the children of a rule refer to known nodes. -/
theorem RuleChild.pickles_refer (nodes : around.Known known)
    {children : List (RuleChild Nat)}
    (declared : children.flatMap RuleChild.declared ⊆ known) :
    Ensures (pickles around children)
      (fun pickles => ∀ pickle ∈ pickles, pickle.references ⊆ known) := by
  -- The surroundings grow with each background, and its steps are known.
  induction children generalizing around with
  | nil => exact .pure (List.forall_mem_nil _)
  | cons child others ih =>
      obtain ⟨own, rest⟩ := List.append_subset.mp declared
      cases child with
      | background value => exact ih (nodes.within own) rest
      | scenario value =>
          refine .bind (Scenario.pickles_refer nodes own)
            fun first refer => ?_
          refine .bind (ih nodes rest) fun behind referBehind => ?_
          exact .pure (List.forall_mem_append.mpr ⟨refer, referBehind⟩)

/-- The pickles of the children of a feature refer to known nodes. -/
theorem FeatureChild.pickles_refer (nodes : around.Known known)
    {children : List (FeatureChild Nat)}
    (declared : children.flatMap FeatureChild.declared ⊆ known) :
    Ensures (pickles around children)
      (fun pickles => ∀ pickle ∈ pickles, pickle.references ⊆ known) := by
  induction children generalizing around with
  | nil => exact .pure (List.forall_mem_nil _)
  | cons child others ih =>
      obtain ⟨own, rest⟩ := List.append_subset.mp declared
      cases child with
      | background value => exact ih (nodes.within own) rest
      | scenario value =>
          refine .bind (Scenario.pickles_refer nodes own)
            fun first refer => ?_
          refine .bind (ih nodes rest) fun behind referBehind => ?_
          exact .pure (List.forall_mem_append.mpr ⟨refer, referBehind⟩)
      | rule value =>
          obtain ⟨inner, tags⟩ := List.append_subset.mp own
          have ruleNodes : (around.tagged value.tags).Known known :=
            nodes.tagged fun _ among => tags (.tail _ among)
          refine .bind (RuleChild.pickles_refer ruleNodes inner)
            fun first refer => ?_
          refine .bind (ih nodes rest) fun behind referBehind => ?_
          exact .pure (List.forall_mem_append.mpr ⟨refer, referBehind⟩)

end Known

/-- The pickles of a document refer to its nodes. -/
theorem Document.pickles_refer (document : Document Nat) :
    Ensures document.pickles
      (fun pickles => ∀ pickle ∈ pickles,
        pickle.references ⊆ document.declared) := by
  unfold Document.pickles Document.declared
  cases document.feature with
  | none => exact .pure (List.forall_mem_nil _)
  | some feature =>
      simp only [Option.toList_some, List.flatMap_singleton]
      refine FeatureChild.pickles_refer ⟨List.forall_mem_nil _, ?_⟩
        (List.subset_append_left _ _)
      intro tag member
      exact List.mem_append_right _ (Tag.declaration_mem member)

/-! ## Reading a file -/

namespace FeatureFile

/-- What the document and the pickles of a file declare. -/
def declared (file : FeatureFile) : List Declaration :=
  file.document.declared ++ file.pickles.flatMap Pickle.declared

/-- The pickles of a file refer to the nodes of its document. -/
def Refers (file : FeatureFile) : Prop :=
  ∀ pickle ∈ file.pickles, pickle.references ⊆ file.document.declared

theorem ofDocument_draws (source : String) (bare : Document Unit) :
    Draws [] (ofDocument source bare)
      (fun file => file.declared.map Declaration.id) := by
  refine .bind bare.number_draws fun document => ?_
  refine .bind (document.pickles_draws.after _) fun pickles => ?_
  exact .pure (by simp [declared, List.map_flatMap])

theorem ofDocument_refers (source : String) (bare : Document Unit) :
    Ensures (ofDocument source bare) Refers := by
  refine .bind (.trivial _) fun document _ => ?_
  refine .bind document.pickles_refer fun pickles refer => ?_
  exact .pure refer

/--
Reading a file draws exactly the identifiers that its document and its pickles
declare, and the pickles refer to nodes of the document.
-/
theorem parse_identifiers [FeatureSyntax] {uri source : String}
    {first next : Nat} {file : FeatureFile}
    (parsed : parse uri source first = .ok (file, next)) :
    file.Refers ∧
      ∃ count,
        next = first + count ∧
          file.declared.map Declaration.id = List.range' first count := by
  unfold parse at parsed
  cases read : document? uri source with
  | error reason => simp [read, Except.map] at parsed
  | ok bare =>
      simp only [read, Except.map, Except.ok.injEq] at parsed
      have refers := ofDocument_refers source bare first
      obtain ⟨count, advanced, drawn⟩ := ofDocument_draws source bare first
      rw [parsed] at refers advanced drawn
      exact ⟨refers, count, advanced, drawn⟩

end FeatureFile

end ScenarioRunner
