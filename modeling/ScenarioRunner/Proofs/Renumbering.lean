import ScenarioRunner.Feature.File
import ScenarioRunner.Proofs.Drawing

/-!
# Reading a file with other numbers

A file may be read several times, each time with other numbers.  What is read
differs in the identifiers and in nothing else: a numbered document without its
identifiers is the bare document that it is made from, and pickles of documents
that differ in their identifiers have the same content.

The main statement is `FeatureFile.parse_agrees`.
-/

namespace ScenarioRunner

namespace Numbering

variable {First Second Third Fourth : Type}

/-- Numbering what is missing gives nothing, and the rest stays as it is. -/
theorem Ensures.mapM_option_inverse
    {value : Option First} {compute : First → Numbering Second}
    {shown : Second → First}
    (each : ∀ value,
      Ensures (compute value) (fun result => shown result = value)) :
    Ensures (value.mapM compute)
      (fun result => result.map shown = value) := by
  cases value with
  | none => exact .pure rfl
  | some value =>
      rw [Option.mapM_some, map_eq_pure_bind]
      refine .bind (each value) fun result same => ?_
      exact .pure (congrArg some same)

theorem Ensures.mapM_inverse
    {values : List First} {compute : First → Numbering Second}
    {shown : Second → First}
    (each : ∀ value,
      Ensures (compute value) (fun result => shown result = value)) :
    Ensures (values.mapM compute)
      (fun results => results.map shown = values) := by
  have all :
      Ensures (values.mapM compute)
        (fun results => results.map shown = values.map id) :=
    .mapM_map each
  simpa using all

/-- The results of two computations are related, whatever numbers are
drawn. -/
def Agree (relation : First → Second → Prop)
    (first : Numbering First) (second : Numbering Second) : Prop :=
  ∀ number other, relation (first.run number).1 (second.run other).1

namespace Agree

theorem pure {relation : First → Second → Prop} {first : First}
    {second : Second} (related : relation first second) :
    Agree relation (Pure.pure first) (Pure.pure second) :=
  fun _ _ => related

theorem trivial (first : Numbering First) (second : Numbering Second) :
    Agree (fun _ _ => True) first second :=
  fun _ _ => True.intro

theorem bind {early : First → Second → Prop}
    {late : Third → Fourth → Prop}
    {first : Numbering First} {second : Numbering Second}
    {afterFirst : First → Numbering Third}
    {afterSecond : Second → Numbering Fourth}
    (agree : Agree early first second)
    (behind : ∀ value other, early value other →
      Agree late (afterFirst value) (afterSecond other)) :
    Agree late (first >>= afterFirst) (second >>= afterSecond) := by
  intro number other
  exact behind _ _ (agree number other) _ _

/-- Lists that show the same give results that show the same. -/
theorem mapM {Shown Told : Type} {shown : First → Shown}
    {told : Second → Told} {compute other : First → Numbering Second}
    (each : ∀ first second, shown first = shown second →
      Agree (fun value other => told value = told other)
        (compute first) (other second))
    {first second : List First}
    (same : first.map shown = second.map shown) :
    Agree (fun values others => values.map told = others.map told)
      (first.mapM compute) (second.mapM other) := by
  induction first generalizing second with
  | nil =>
      cases second with
      | nil => exact .pure rfl
      | cons head tail => cases same
  | cons head tail ih =>
      cases second with
      | nil => cases same
      | cons otherHead otherTail =>
          obtain ⟨own, rest⟩ := List.cons.inj same
          rw [List.mapM_cons, List.mapM_cons]
          refine .bind (each _ _ own) fun value otherValue told => ?_
          refine .bind (ih rest) fun values others all => ?_
          exact .pure (by simp [told, all])

end Agree

end Numbering

open ScenarioRunner.Numbering (Agree Ensures)

/-! ## Documents without identifiers -/

def Tag.bare (tag : Tag Nat) : Tag Unit :=
  { location := tag.location, name := tag.name, id := () }

def TableRow.bare (row : TableRow Nat) : TableRow Unit :=
  { id := (), location := row.location, cells := row.cells }

def StepTable.bare (table : StepTable Nat) : StepTable Unit :=
  { location := table.location, rows := table.rows.map TableRow.bare }

def Step.bare (step : Step Nat) : Step Unit where
  id := ()
  location := step.location
  keyword := step.keyword
  kind := step.kind
  text := step.text
  docString := step.docString
  table := step.table.map StepTable.bare

def Background.bare (background : Background Nat) : Background Unit where
  id := ()
  location := background.location
  keyword := background.keyword
  steps := background.steps.map Step.bare

def Examples.bare (examples : Examples Nat) : Examples Unit where
  id := ()
  location := examples.location
  tags := examples.tags.map Tag.bare
  keyword := examples.keyword
  header := examples.header.map TableRow.bare
  body := examples.body.map TableRow.bare

def Scenario.bare (scenario : Scenario Nat) : Scenario Unit where
  id := ()
  location := scenario.location
  tags := scenario.tags.map Tag.bare
  keyword := scenario.keyword
  name := scenario.name
  description := scenario.description
  steps := scenario.steps.map Step.bare
  examples := scenario.examples.map Examples.bare

def RuleChild.bare : RuleChild Nat → RuleChild Unit
  | .background value => .background value.bare
  | .scenario value => .scenario value.bare

def Rule.bare (rule : Rule Nat) : Rule Unit where
  id := ()
  location := rule.location
  tags := rule.tags.map Tag.bare
  keyword := rule.keyword
  name := rule.name
  description := rule.description
  children := rule.children.map RuleChild.bare

def FeatureChild.bare : FeatureChild Nat → FeatureChild Unit
  | .background value => .background value.bare
  | .scenario value => .scenario value.bare
  | .rule value => .rule value.bare

def Feature.bare (feature : Feature Nat) : Feature Unit where
  location := feature.location
  tags := feature.tags.map Tag.bare
  keyword := feature.keyword
  name := feature.name
  description := feature.description
  children := feature.children.map FeatureChild.bare

def Document.bare (document : Document Nat) : Document Unit where
  uri := document.uri
  feature := document.feature.map Feature.bare

/-! ## Numbering changes identifiers only -/

theorem Tag.number_bare (tag : Tag Unit) :
    Ensures tag.number (fun made => made.bare = tag) :=
  .bind (.trivial _) fun _ _ => .pure rfl

theorem TableRow.number_bare (row : TableRow Unit) :
    Ensures row.number (fun made => made.bare = row) :=
  .bind (.trivial _) fun _ _ => .pure rfl

theorem StepTable.number_bare (table : StepTable Unit) :
    Ensures table.number (fun made => made.bare = table) := by
  refine .bind (.mapM_inverse TableRow.number_bare) fun rows same => ?_
  exact .pure (by rw [bare, same])

theorem Step.number_bare (step : Step Unit) :
    Ensures step.number (fun made => made.bare = step) := by
  refine .bind (.mapM_option_inverse StepTable.number_bare)
    fun table same => ?_
  refine .bind (.trivial _) fun id _ => ?_
  exact .pure (by rw [bare, same])

theorem Background.number_bare (background : Background Unit) :
    Ensures background.number (fun made => made.bare = background) := by
  refine .bind (.trivial _) fun id _ => ?_
  refine .bind (.mapM_inverse Step.number_bare) fun steps same => ?_
  exact .pure (by rw [bare, same])

theorem Examples.number_bare (examples : Examples Unit) :
    Ensures examples.number (fun made => made.bare = examples) := by
  refine .bind (.mapM_option_inverse TableRow.number_bare)
    fun header sameHeader => ?_
  refine .bind (.mapM_inverse TableRow.number_bare)
    fun body sameBody => ?_
  refine .bind (.trivial _) fun id _ => ?_
  refine .bind (.mapM_inverse Tag.number_bare) fun tags sameTags => ?_
  exact .pure (by rw [bare, sameHeader, sameBody, sameTags])

theorem Scenario.number_bare (scenario : Scenario Unit) :
    Ensures scenario.number (fun made => made.bare = scenario) := by
  refine .bind (.trivial _) fun id _ => ?_
  refine .bind (.mapM_inverse Tag.number_bare) fun tags sameTags => ?_
  refine .bind (.mapM_inverse Step.number_bare) fun steps sameSteps => ?_
  refine .bind (.mapM_inverse Examples.number_bare)
    fun examples sameExamples => ?_
  exact .pure (by rw [bare, sameTags, sameSteps, sameExamples])

theorem RuleChild.number_bare (child : RuleChild Unit) :
    Ensures child.number (fun made => made.bare = child) := by
  cases child with
  | background value =>
      rw [number, map_eq_pure_bind]
      refine .bind value.number_bare fun made same => ?_
      exact .pure (congrArg background same)
  | scenario value =>
      rw [number, map_eq_pure_bind]
      refine .bind value.number_bare fun made same => ?_
      exact .pure (congrArg scenario same)

theorem Rule.number_bare (rule : Rule Unit) :
    Ensures rule.number (fun made => made.bare = rule) := by
  refine .bind (.mapM_inverse RuleChild.number_bare)
    fun children sameChildren => ?_
  refine .bind (.trivial _) fun id _ => ?_
  refine .bind (.mapM_inverse Tag.number_bare) fun tags sameTags => ?_
  exact .pure (by rw [bare, sameChildren, sameTags])

theorem FeatureChild.number_bare (child : FeatureChild Unit) :
    Ensures child.number (fun made => made.bare = child) := by
  cases child with
  | background value =>
      rw [number, map_eq_pure_bind]
      refine .bind value.number_bare fun made same => ?_
      exact .pure (congrArg background same)
  | scenario value =>
      rw [number, map_eq_pure_bind]
      refine .bind value.number_bare fun made same => ?_
      exact .pure (congrArg scenario same)
  | rule value =>
      rw [number, map_eq_pure_bind]
      refine .bind value.number_bare fun made same => ?_
      exact .pure (congrArg rule same)

theorem Feature.number_bare (feature : Feature Unit) :
    Ensures feature.number (fun made => made.bare = feature) := by
  refine .bind (.mapM_inverse FeatureChild.number_bare)
    fun children sameChildren => ?_
  refine .bind (.mapM_inverse Tag.number_bare) fun tags sameTags => ?_
  exact .pure (by rw [bare, sameChildren, sameTags])

/-- Without its identifiers a numbered document is what it was before. -/
theorem Document.number_bare (document : Document Unit) :
    Ensures document.number (fun made => made.bare = document) := by
  refine .bind (.mapM_option_inverse Feature.number_bare)
    fun feature same => ?_
  exact .pure (by rw [bare, same])

/-! ## The content of pickles -/

/-- What a step of a pickle holds besides identifiers. -/
structure StepContent where
  text : String
  argument : Option PickleArgument
  kind : StepKind
  deriving DecidableEq, Repr

/-- What a pickle holds besides identifiers and the name of its file. -/
structure PickleContent where
  name : String
  tags : List String
  steps : List StepContent
  deriving DecidableEq, Repr

def PickleStep.content (step : PickleStep Nat) : StepContent where
  text := step.text
  argument := step.argument
  kind := step.kind

def Pickle.content (pickle : Pickle Nat) : PickleContent where
  name := pickle.name
  tags := pickle.tagNames
  steps := pickle.steps.map PickleStep.content

/-- Two pickles, or lists of them, have the same content. -/
def SameContent (first second : List (Pickle Nat)) : Prop :=
  first.map Pickle.content = second.map Pickle.content

theorem SameContent.append {first second early late : List (Pickle Nat)}
    (front : SameContent first early) (back : SameContent second late) :
    SameContent (first ++ second) (early ++ late) := by
  rw [SameContent] at *
  rw [List.map_append, List.map_append, front, back]

/-- Two surroundings differ in identifiers and names of files only. -/
structure Surroundings.Agrees (first second : Surroundings) : Prop where
  background : first.background.map Step.bare =
    second.background.map Step.bare
  tags : first.tags.map (·.name) = second.tags.map (·.name)

theorem Tag.map_name_of_bare {first second : List (Tag Nat)}
    (same : first.map Tag.bare = second.map Tag.bare) :
    first.map (·.name) = second.map (·.name) := by
  have names (tags : List (Tag Nat)) :
      tags.map (·.name) = (tags.map Tag.bare).map (·.name) := by
    rw [List.map_map]
    rfl
  rw [names, names, same]

namespace Surroundings.Agrees

variable {first second : Surroundings}

theorem within (agree : first.Agrees second)
    {background other : Background Nat}
    (same : background.bare = other.bare) :
    (first.within background).Agrees (second.within other) where
  background := by
    have steps := congrArg (@Background.steps Unit) same
    simp only [Background.bare] at steps
    simp [Surroundings.within, agree.background, steps]
  tags := agree.tags

theorem tagged (agree : first.Agrees second) {tags other : List (Tag Nat)}
    (same : tags.map Tag.bare = other.map Tag.bare) :
    (first.tagged tags).Agrees (second.tagged other) where
  background := agree.background
  tags := by
    simp [Surroundings.tagged, agree.tags, Tag.map_name_of_bare same]

end Surroundings.Agrees

theorem TableRow.map_cells_of_bare {first second : List (TableRow Nat)}
    (same : first.map TableRow.bare = second.map TableRow.bare) :
    first.map (·.cells) = second.map (·.cells) := by
  have cells (rows : List (TableRow Nat)) :
      rows.map (·.cells) = (rows.map TableRow.bare).map (·.cells) := by
    rw [List.map_map]
    rfl
  rw [cells, cells, same]

/-- The argument of a step has no identifiers in it. -/
theorem Step.pickleArgument_of_bare {first second : Step Nat}
    (same : first.bare = second.bare) (values : Placeholder.Values) :
    first.pickleArgument values = second.pickleArgument values := by
  have docString : first.docString = second.docString :=
    congrArg (@Step.docString Unit) same
  have table :
      first.table.map StepTable.bare = second.table.map StepTable.bare :=
    congrArg (@Step.table Unit) same
  unfold pickleArgument
  rw [docString]
  cases firstTable : first.table with
  | none =>
      rw [firstTable, Option.map_none, eq_comm,
        Option.map_eq_none_iff] at table
      rw [table]
  | some found =>
      cases secondTable : second.table with
      | none => simp [firstTable, secondTable] at table
      | some other =>
          rw [firstTable, secondTable, Option.map_some, Option.map_some,
            Option.some.injEq] at table
          have rows := TableRow.map_cells_of_bare
            (congrArg (@StepTable.rows Unit) table)
          have cells (rows : List (TableRow Nat)) :
              rows.map (fun row =>
                  row.cells.map (Placeholder.replace values)) =
                (rows.map (·.cells)).map
                  (List.map (Placeholder.replace values)) := by
            rw [List.map_map]
            rfl
          simp only [Option.map_some, Option.isSome_some, cells, rows]

theorem Step.pickle_agrees {first second : Step Nat}
    (same : first.bare = second.bare) (values : Placeholder.Values)
    (row other : Option Nat) :
    Agree (fun made remade => made.content = remade.content)
      (first.pickle values row) (second.pickle values other) := by
  have text : first.text = second.text := congrArg (@Step.text Unit) same
  have kind : first.kind = second.kind := congrArg (@Step.kind Unit) same
  have argument := pickleArgument_of_bare same values
  refine .bind (.trivial _ _) fun id otherId _ => ?_
  exact .pure (by simp [PickleStep.content, text, kind, argument])

namespace Scenario

variable {around otherAround : Surroundings}

theorem pickle_agrees (agree : around.Agrees otherAround)
    {first second : Scenario Nat} (same : first.bare = second.bare)
    (values : Placeholder.Values) (row other : Option Nat)
    {tags otherTags : List (Tag Nat)}
    (sameTags : tags.map Tag.bare = otherTags.map Tag.bare) :
    Agree (fun made remade => made.content = remade.content)
      (first.pickle around values row tags)
      (second.pickle otherAround values other otherTags) := by
  have name : first.name = second.name := congrArg (@Scenario.name Unit) same
  have ownTags : first.tags.map (·.name) = second.tags.map (·.name) :=
    Tag.map_name_of_bare (congrArg (@Scenario.tags Unit) same)
  have below : tags.map (·.name) = otherTags.map (·.name) :=
    Tag.map_name_of_bare sameTags
  have steps : first.steps.map Step.bare = second.steps.map Step.bare :=
    congrArg (@Scenario.steps Unit) same
  refine .bind
    (.mapM (fun _ _ same => Step.pickle_agrees same [] none none)
      agree.background) fun before otherBefore early => ?_
  refine .bind
    (.mapM (fun _ _ same => Step.pickle_agrees same values row other) steps)
    fun own otherOwn late => ?_
  refine .bind (.trivial _ _) fun id otherId _ => ?_
  apply Agree.pure
  have names (tags : List (Tag Nat)) :
      (tags.map Tag.inherited).map (·.name) = tags.map (·.name) := by
    rw [List.map_map]
    rfl
  simp [Pickle.content, Pickle.tagNames, name, early, late, names,
    agree.tags, ownTags, below, -List.map_map]

theorem examplesPickles_agree (agree : around.Agrees otherAround)
    {first second : Scenario Nat} (same : first.bare = second.bare)
    {examples other : Examples Nat}
    (sameExamples : examples.bare = other.bare) :
    Agree SameContent (first.examplesPickles around examples)
      (second.examplesPickles otherAround other) := by
  have header :
      examples.header.map TableRow.bare = other.header.map TableRow.bare :=
    congrArg (@Examples.header Unit) sameExamples
  have body :
      examples.body.map TableRow.bare = other.body.map TableRow.bare :=
    congrArg (@Examples.body Unit) sameExamples
  have tags : examples.tags.map Tag.bare = other.tags.map Tag.bare :=
    congrArg (@Examples.tags Unit) sameExamples
  unfold examplesPickles
  cases first : examples.header with
  | none =>
      rw [first, Option.map_none, eq_comm, Option.map_eq_none_iff] at header
      rw [header]
      exact .pure rfl
  | some top =>
      cases second : other.header with
      | none => simp [first, second] at header
      | some otherTop =>
          rw [first, second, Option.map_some, Option.map_some,
            Option.some.injEq] at header
          have cells : top.cells = otherTop.cells :=
            congrArg (@TableRow.cells Unit) header
          refine Agree.mapM (fun row otherRow sameRow => ?_) body
          have values : row.cells = otherRow.cells :=
            congrArg (@TableRow.cells Unit) sameRow
          rw [cells, values]
          exact pickle_agrees agree same _ _ _ tags

theorem pickles_agree (agree : around.Agrees otherAround)
    {first second : Scenario Nat} (same : first.bare = second.bare) :
    Agree SameContent (first.pickles around)
      (second.pickles otherAround) := by
  have tables :
      first.examples.map Examples.bare = second.examples.map Examples.bare :=
    congrArg (@Scenario.examples Unit) same
  unfold pickles
  cases firstTables : first.examples with
  | nil =>
      rw [firstTables, List.map_nil, eq_comm, List.map_eq_nil_iff] at tables
      rw [tables]
      refine .bind (pickle_agrees agree same [] none none rfl)
        fun pickle other alike => ?_
      apply Agree.pure
      simp [SameContent, alike]
  | cons table others =>
      cases secondTables : second.examples with
      | nil => simp [firstTables, secondTables] at tables
      | cons otherTable otherOthers =>
          rw [firstTables, secondTables] at tables
          have tablePickles :
              Agree
                (fun found other =>
                  found.map (List.map Pickle.content) =
                    other.map (List.map Pickle.content))
                ((table :: others).mapM (first.examplesPickles around))
                ((otherTable :: otherOthers).mapM
                  (second.examplesPickles otherAround)) :=
            .mapM (fun _ _ sameTable =>
              examplesPickles_agree agree same sameTable) tables
          refine .bind tablePickles fun found otherFound alike => ?_
          apply Agree.pure
          rw [SameContent, List.map_flatten, List.map_flatten, alike]

end Scenario

theorem RuleChild.pickles_agree {around other : Surroundings}
    (agree : around.Agrees other) {first second : List (RuleChild Nat)}
    (same : first.map RuleChild.bare = second.map RuleChild.bare) :
    Agree SameContent (pickles around first) (pickles other second) := by
  -- Both runs go through the same children; the surroundings grow alike.
  induction first generalizing second around other with
  | nil =>
      cases second with
      | nil => exact .pure rfl
      | cons head tail => cases same
  | cons head tail ih =>
      cases second with
      | nil => cases same
      | cons otherHead otherTail =>
          obtain ⟨own, rest⟩ := List.cons.inj same
          cases head with
          | background value =>
              cases otherHead with
              | background otherValue =>
                  exact ih (agree.within (background.inj own)) rest
              | scenario otherValue => cases own
          | scenario value =>
              cases otherHead with
              | background otherValue => cases own
              | scenario otherValue =>
                  refine .bind
                    (Scenario.pickles_agree agree (scenario.inj own))
                    fun found otherFound front => ?_
                  refine .bind (ih agree rest)
                    fun later otherLater back => ?_
                  exact .pure (front.append back)

theorem FeatureChild.pickles_agree {around other : Surroundings}
    (agree : around.Agrees other) {first second : List (FeatureChild Nat)}
    (same : first.map FeatureChild.bare = second.map FeatureChild.bare) :
    Agree SameContent (pickles around first) (pickles other second) := by
  induction first generalizing second around other with
  | nil =>
      cases second with
      | nil => exact .pure rfl
      | cons head tail => cases same
  | cons head tail ih =>
      cases second with
      | nil => cases same
      | cons otherHead otherTail =>
          obtain ⟨own, rest⟩ := List.cons.inj same
          cases head with
          | background value =>
              cases otherHead with
              | background otherValue =>
                  exact ih (agree.within (background.inj own)) rest
              | scenario otherValue => cases own
              | rule otherValue => cases own
          | scenario value =>
              cases otherHead with
              | background otherValue => cases own
              | scenario otherValue =>
                  refine .bind
                    (Scenario.pickles_agree agree (scenario.inj own))
                    fun found otherFound front => ?_
                  refine .bind (ih agree rest)
                    fun later otherLater back => ?_
                  exact .pure (front.append back)
              | rule otherValue => cases own
          | rule value =>
              cases otherHead with
              | background otherValue => cases own
              | scenario otherValue => cases own
              | rule otherValue =>
                  have sameRule := rule.inj own
                  have inside :=
                    agree.tagged (congrArg (@Rule.tags Unit) sameRule)
                  refine .bind
                    (RuleChild.pickles_agree inside
                      (congrArg (@Rule.children Unit) sameRule))
                    fun found otherFound front => ?_
                  refine .bind (ih agree rest)
                    fun later otherLater back => ?_
                  exact .pure (front.append back)

/-- Documents that differ in their identifiers and names have pickles of the
same content. -/
theorem Document.pickles_agree {first second : Document Nat}
    (same : first.bare.feature = second.bare.feature) :
    Agree SameContent first.pickles second.pickles := by
  simp only [bare] at same
  unfold Document.pickles
  cases firstFeature : first.feature with
  | none =>
      rw [firstFeature, Option.map_none, eq_comm,
        Option.map_eq_none_iff] at same
      rw [same]
      exact .pure rfl
  | some feature =>
      cases secondFeature : second.feature with
      | none => simp [firstFeature, secondFeature] at same
      | some other =>
          rw [firstFeature, secondFeature, Option.map_some,
            Option.map_some, Option.some.injEq] at same
          have tags := Tag.map_name_of_bare
            (congrArg (@Feature.tags Unit) same)
          have agree :
              Surroundings.Agrees
                { uri := first.uri, tags := feature.tags }
                { uri := second.uri, tags := other.tags } :=
            ⟨rfl, tags⟩
          exact FeatureChild.pickles_agree agree
            (congrArg (@Feature.children Unit) same)

/-! ## Reading a file twice -/

namespace FeatureFile

/-- The name that a document gets does not matter to what is read. -/
theorem feature_of_document? [FeatureSyntax] {uri other source : String}
    {first second : Document Unit}
    (read : document? uri source = .ok first)
    (reread : document? other source = .ok second) :
    first.feature = second.feature := by
  unfold document? at read reread
  split at read
  · rename_i blank
    rw [if_pos blank] at reread
    cases read
    cases reread
    rfl
  · rename_i text
    rw [if_neg text] at reread
    cases found : FeatureSyntax.read? source with
    | none => simp [found] at read
    | some feature =>
        simp only [found, Except.ok.injEq] at read reread
        rw [← read, ← reread]

/-- A document that is read is the text's, with numbers. -/
theorem bare_of_parse [FeatureSyntax] {uri source : String} {first next : Nat}
    {file : FeatureFile}
    (parsed : parse uri source first = .ok (file, next)) :
    document? uri source = .ok file.document.bare ∧
      ∃ number, (file.document.pickles.run number).1 = file.pickles := by
  unfold parse at parsed
  cases read : document? uri source with
  | error reason => simp [read, Except.map] at parsed
  | ok bare =>
      simp only [read, Except.map, Except.ok.injEq] at parsed
      obtain ⟨rfl, -⟩ := Prod.mk.inj parsed
      constructor
      · exact congrArg Except.ok (bare.number_bare first).symm
      · exact ⟨(bare.number.run first).2, rfl⟩

/--
A text that is read twice, with whatever numbers and names, gives pickles of
the same content.
-/
theorem parse_agrees [FeatureSyntax] {uri other source : String}
    {first second next last : Nat} {file again : FeatureFile}
    (parsed : parse uri source first = .ok (file, next))
    (parsedAgain : parse other source second = .ok (again, last)) :
    SameContent file.pickles again.pickles := by
  obtain ⟨read, number, made⟩ := bare_of_parse parsed
  obtain ⟨reread, otherNumber, remade⟩ := bare_of_parse parsedAgain
  rw [← made, ← remade]
  exact Document.pickles_agree (feature_of_document? read reread) _ _

end FeatureFile

end ScenarioRunner
