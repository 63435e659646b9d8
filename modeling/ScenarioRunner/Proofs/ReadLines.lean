import Mathlib.Data.Option.Basic
import ScenarioRunner.Feature.File

/-!
# The lines of steps that are read

Lines count from one, so zero is the line of nothing.  A reader that starts on
a line ends on a line, and what it locates on the way is on a line too.

`LocatedSyntax` is what is needed of a syntax: all steps that are read with it
have lines.  The readers of this library satisfy it whatever the keywords are,
and `FeatureFile.steps_on_lines` carries it over to documents.
-/

namespace ScenarioRunner

variable {Id : Type}

/-! ## The steps of a document -/

def RuleChild.steps : RuleChild Id → List (Step Id)
  | .background value => value.steps
  | .scenario value => value.steps

def FeatureChild.steps : FeatureChild Id → List (Step Id)
  | .background value => value.steps
  | .scenario value => value.steps
  | .rule value => value.children.flatMap RuleChild.steps

/-- All steps, in the order of the text. -/
def Document.steps (document : Document Id) : List (Step Id) :=
  document.feature.toList.flatMap fun feature =>
    feature.children.flatMap FeatureChild.steps

/-- A step has a line. -/
def Step.OnLine (step : Step Id) : Prop := 0 < step.location.line

/-- All of some steps have lines. -/
def StepsOnLines (steps : List (Step Id)) : Prop :=
  ∀ step ∈ steps, step.OnLine

theorem StepsOnLines.flatMap {First : Type} {values : List First}
    {steps : First → List (Step Id)}
    (each : ∀ value ∈ values, StepsOnLines (steps value)) :
    StepsOnLines (values.flatMap steps) := by
  intro step member
  obtain ⟨value, among, own⟩ := List.mem_flatMap.mp member
  exact each value among step own

namespace FeatureText

/-! ## Readers -/

namespace Place

theorem line_next (place : Place) : place.line ≤ place.next.line := by
  unfold next
  split <;> simp

theorem line_skip (place : Place) (count : Nat) :
    place.line ≤ (place.skip count).line := by
  induction count generalizing place with
  | zero => exact Nat.le_refl _
  | succ count ih => exact Nat.le_trans place.line_next (ih place.next)

end Place

namespace Reader

variable {First Second : Type}

/--
From a place on a line a reader reads only what has a property, and the place
behind is on a line too.
-/
def Ensures (reader : Reader First) (property : First → Prop) : Prop :=
  ∀ place value behind, 0 < place.line →
    reader place = some (value, behind) → property value ∧ 0 < behind.line

/-- A reader leads from lines to lines. -/
def Stays (reader : Reader First) : Prop :=
  Ensures reader fun _ => True

namespace Ensures

variable {reader : Reader First} {property : First → Prop}

theorem imp {weaker : First → Prop} (ensures : Ensures reader property)
    (implies : ∀ value, property value → weaker value) :
    Ensures reader weaker := by
  intro place value behind onLine read
  obtain ⟨holds, stays⟩ := ensures place value behind onLine read
  exact ⟨implies value holds, stays⟩

theorem pure {value : First} (holds : property value) :
    Ensures (Pure.pure value) property := by
  intro place other behind onLine read
  cases read
  exact ⟨holds, onLine⟩

theorem bind {next : First → Reader Second} {late : Second → Prop}
    (early : Ensures reader property)
    (second : ∀ value, property value → Ensures (next value) late) :
    Ensures (reader >>= next) late := by
  intro place value behind onLine read
  obtain ⟨⟨first, middle⟩, own, rest⟩ := Option.bind_eq_some_iff.mp read
  obtain ⟨holds, stays⟩ := early place first middle onLine own
  exact second first holds middle value behind stays rest

theorem map {change : First → Second} {late : Second → Prop}
    (ensures : Ensures reader property)
    (implies : ∀ value, property value → late (change value)) :
    Ensures (change <$> reader) late := by
  rw [map_eq_pure_bind]
  exact ensures.bind fun value holds => pure (implies value holds)

theorem orElse {other : Reader First} (first : Ensures reader property)
    (second : Ensures other property) :
    Ensures (reader <|> other) property := by
  intro place value behind onLine read
  have choice : (reader place <|> other place) = some (value, behind) := read
  cases own : reader place with
  | none =>
      rw [own] at choice
      exact second place value behind onLine choice
  | some found =>
      rw [own] at choice
      exact first place value behind onLine (own.trans choice)

theorem lift (found : Option First) : Stays (liftM found) := by
  intro place value behind onLine read
  cases found with
  | none => cases read
  | some known =>
      cases read
      exact ⟨trivial, onLine⟩

theorem guarded (condition : Prop) [Decidable condition] :
    Stays (guard condition) := by
  intro place value behind onLine read
  by_cases holds : condition
  · rw [guard, if_pos holds] at read
    cases read
    exact ⟨trivial, onLine⟩
  · rw [guard, if_neg holds] at read
    cases read

theorem here : Ensures Reader.here fun place => 0 < place.line := by
  intro place value behind onLine read
  cases read
  exact ⟨onLine, onLine⟩

theorem skip (count : Nat) : Stays (Reader.skip count) := by
  intro place value behind onLine read
  cases read
  exact ⟨trivial, Nat.lt_of_lt_of_le onLine (place.line_skip count)⟩

theorem optionally (ensures : Ensures reader property) :
    Ensures (Reader.optionally reader) fun found =>
      ∀ value ∈ found, property value := by
  apply orElse
  · apply ensures.map
    intro value holds other same
    cases same
    exact holds
  · exact pure fun value absent => nomatch absent

theorem many (ensures : Ensures reader property) :
    Ensures (Reader.many reader) fun values =>
      ∀ value ∈ values, property value := by
  intro place values behind onLine read
  fun_induction Reader.many reader place generalizing values behind with
  | case1 place absent =>
      cases read
      exact ⟨List.forall_mem_nil _, onLine⟩
  | case2 place value middle found shorter ih =>
      obtain ⟨holds, stays⟩ := ensures place value middle onLine found
      obtain ⟨⟨others, last⟩, later, same⟩ := Option.map_eq_some_iff.mp read
      cases same
      obtain ⟨rest, ended⟩ := ih others behind stays later
      exact ⟨List.forall_mem_cons.mpr ⟨holds, rest⟩, ended⟩
  | case3 place value middle found longer =>
      cases read
      exact ⟨List.forall_mem_nil _, onLine⟩

end Ensures

end Reader

open Reader (Ensures Stays)

/-! ## Readers of parts of a text -/

theorem check_stays (property : List Char → Bool) :
    Stays (Reader.check property) :=
  .bind .here fun _ _ => .guarded _

theorem exactly_stays (expected : List Char) :
    Stays (Reader.exactly expected) :=
  .bind (check_stays _) fun _ _ => .skip _

theorem take_stays (count : Nat) : Stays (Reader.take count) :=
  .bind .here fun _ _ => .bind (.skip _) fun _ _ => .pure trivial

theorem indent_stays : Stays indent :=
  .bind .here fun _ _ => .skip _

theorem comments_stays : Stays comments :=
  .bind .here fun _ _ => .skip _

theorem lineBreak_stays : Stays lineBreak :=
  .bind .here fun _ _ =>
    .bind (.lift _) fun _ _ =>
      .bind (.skip _) fun _ _ => comments_stays

theorem lineEnd_stays : Stays lineEnd :=
  .bind .here fun _ _ => .bind (.guarded _) fun _ _ => .skip _

theorem restOfLine_stays : Stays restOfLine :=
  .bind .here fun _ _ => .bind (.guarded _) fun _ _ => take_stays _

theorem keyword_stays (keywords : List String) :
    Stays (keyword keywords) :=
  .bind .here fun _ _ =>
    .bind (.lift _) fun _ _ => .bind (.skip _) fun _ _ => .pure trivial

theorem tagName_stays : Stays tagName :=
  .bind (exactly_stays _) fun _ _ =>
    .bind .here fun _ _ =>
      .bind (.guarded _) fun _ _ =>
        .bind (.skip _) fun _ _ => .pure trivial

theorem tagLine_stays : Stays tagLine := by
  refine .bind tagName_stays fun first _ => ?_
  have other : Stays (do indent; tagName) :=
    .bind indent_stays fun _ _ => tagName_stays
  refine .bind other.many fun others _ => ?_
  refine .bind indent_stays fun _ _ => ?_
  refine .bind lineBreak_stays fun _ _ => ?_
  refine .bind lineBreak_stays.many fun _ _ => ?_
  exact .pure trivial

theorem tagNames_stays : Stays tagNames := by
  have line : Stays (do indent; tagLine) :=
    .bind indent_stays fun _ _ => tagLine_stays
  exact .bind line.many fun _ _ => .pure trivial

theorem title_stays : Stays title :=
  .bind (exactly_stays _) fun _ _ =>
    .bind indent_stays fun _ _ =>
      .bind restOfLine_stays.optionally fun _ _ =>
        .bind lineEnd_stays fun _ _ => .pure trivial

theorem description_stays (after : List String) :
    Stays (description after) := by
  have line : Stays (descriptionLine after) :=
    .bind indent_stays fun _ _ =>
      .bind (check_stays _) fun _ _ =>
        .bind restOfLine_stays fun _ _ =>
          .bind lineEnd_stays fun _ _ => .pure trivial
  exact .bind line.many fun _ _ => .pure trivial

theorem quotedBy_stays (mark : List Char) : Stays (quotedBy mark) := by
  refine .bind (exactly_stays _) fun _ _ => ?_
  refine .bind .here fun _ _ => ?_
  refine .bind (.lift _) fun _ _ => ?_
  refine .bind (take_stays _) fun _ _ => ?_
  refine .bind (exactly_stays _) fun _ _ => ?_
  exact .bind lineEnd_stays fun _ _ => .pure trivial

theorem docString_stays : Stays docString :=
  .orElse (quotedBy_stays _) (quotedBy_stays _)

theorem tableRow_stays : Stays tableRow := by
  have cell : Stays cell :=
    .bind (exactly_stays _) fun _ _ =>
      .bind indent_stays fun _ _ =>
        .bind (check_stays _) fun _ _ =>
          .bind .here fun _ _ =>
            .bind (take_stays _) fun _ _ => .pure trivial
  have cells : Stays (do indent; FeatureText.cell) :=
    .bind indent_stays fun _ _ => cell
  refine .bind cells.many fun _ _ => ?_
  refine .bind indent_stays fun _ _ => ?_
  refine .bind (exactly_stays _) fun _ _ => ?_
  refine .bind indent_stays fun _ _ => ?_
  exact .bind lineEnd_stays fun _ _ => .pure trivial

theorem table_stays : Stays table := by
  have row : Stays (do indent; tableRow) :=
    .bind indent_stays fun _ _ => tableRow_stays
  refine .bind indent_stays fun _ _ => ?_
  refine .bind .here fun _ _ => ?_
  refine .bind row.many fun _ _ => ?_
  exact .bind (.lift _) fun _ _ => .pure trivial

theorem stepKeyword_stays (dialect : Dialect)
    (previous : Option StepKind) : Stays (stepKeyword dialect previous) := by
  have kept (kind : StepKind) (keywords : List String) :
      Stays ((·, kind) <$> keyword keywords) :=
    (keyword_stays keywords).map fun _ _ => trivial
  refine .orElse (kept _ _) (.orElse (kept _ _) (.orElse (kept _ _) ?_))
  refine .bind (keyword_stays _) fun _ _ => ?_
  exact .bind (.lift _) fun _ _ => .pure trivial

/-! ## Readers of steps -/

variable (dialect : Dialect)

theorem step_onLine (previous : Option StepKind) :
    Ensures (step dialect previous) Step.OnLine := by
  refine .bind indent_stays fun _ _ => ?_
  refine .bind comments_stays fun _ _ => ?_
  refine .bind .here fun start onLine => ?_
  refine .bind (stepKeyword_stays _ _) fun _ _ => ?_
  refine .bind indent_stays fun _ _ => ?_
  refine .bind restOfLine_stays fun _ _ => ?_
  refine .bind lineEnd_stays fun _ _ => ?_
  refine .bind indent_stays fun _ _ => ?_
  refine .bind docString_stays.optionally fun _ _ => ?_
  refine .bind table_stays.optionally fun _ _ => ?_
  exact .pure onLine

theorem steps_onLines (previous : Option StepKind) :
    Ensures (steps dialect previous) StepsOnLines := by
  intro place values behind onLine read
  fun_induction steps dialect previous place generalizing values behind with
  | case1 previous place absent =>
      cases read
      exact ⟨List.forall_mem_nil _, onLine⟩
  | case2 previous place first middle found shorter ih =>
      obtain ⟨own, stays⟩ :=
        step_onLine dialect previous place first middle onLine found
      obtain ⟨⟨others, last⟩, later, same⟩ := Option.map_eq_some_iff.mp read
      cases same
      obtain ⟨rest, ended⟩ := ih others behind stays later
      exact ⟨List.forall_mem_cons.mpr ⟨own, rest⟩, ended⟩
  | case3 previous place first middle found longer =>
      cases read
      exact ⟨List.forall_mem_nil _, onLine⟩

theorem background_onLines (previous : Option StepKind) :
    Ensures (background dialect previous) fun value =>
      StepsOnLines value.steps := by
  refine .bind indent_stays fun _ _ => ?_
  refine .bind .here fun _ _ => ?_
  refine .bind (keyword_stays _) fun _ _ => ?_
  refine .bind title_stays fun _ _ => ?_
  refine .bind (description_stays _) fun _ _ => ?_
  refine .bind (steps_onLines _ _) fun _ onLines => ?_
  exact .pure onLines

theorem examples_stays : Stays (examples dialect) := by
  refine .bind indent_stays fun _ _ => ?_
  refine .bind tagNames_stays fun _ _ => ?_
  refine .bind indent_stays fun _ _ => ?_
  refine .bind .here fun _ _ => ?_
  refine .bind (keyword_stays _) fun _ _ => ?_
  refine .bind title_stays fun _ _ => ?_
  refine .bind (description_stays _) fun _ _ => ?_
  exact .bind table_stays.optionally fun _ _ => .pure trivial

theorem scenario_onLines (previous : Option StepKind) :
    Ensures (scenario dialect previous) fun value =>
      StepsOnLines value.steps := by
  have keyword : Stays (scenarioKeyword dialect) := by
    refine .bind (.orElse (keyword_stays _) (keyword_stays _))
      fun _ _ => ?_
    exact .bind (check_stays _) fun _ _ => .pure trivial
  refine .bind indent_stays fun _ _ => ?_
  refine .bind tagNames_stays fun _ _ => ?_
  refine .bind indent_stays fun _ _ => ?_
  refine .bind .here fun _ _ => ?_
  refine .bind keyword fun _ _ => ?_
  refine .bind title_stays fun _ _ => ?_
  refine .bind (description_stays _) fun _ _ => ?_
  refine .bind (steps_onLines _ _) fun _ onLines => ?_
  exact .bind (examples_stays _).many fun _ _ => .pure onLines

theorem scenarios_onLines (previous : Option StepKind) :
    Ensures (scenarios dialect previous) fun values =>
      ∀ value ∈ values, StepsOnLines value.steps := by
  intro place values behind onLine read
  fun_induction scenarios dialect previous place generalizing values behind with
  | case1 previous place absent =>
      cases read
      exact ⟨List.forall_mem_nil _, onLine⟩
  | case2 previous place first middle found shorter ih =>
      obtain ⟨own, stays⟩ :=
        scenario_onLines dialect previous place first middle onLine found
      obtain ⟨⟨others, last⟩, later, same⟩ := Option.map_eq_some_iff.mp read
      cases same
      obtain ⟨rest, ended⟩ := ih others behind stays later
      exact ⟨List.forall_mem_cons.mpr ⟨own, rest⟩, ended⟩
  | case3 previous place first middle found longer =>
      cases read
      exact ⟨List.forall_mem_nil _, onLine⟩

/-- The steps of a background, if there is one, and of scenarios. -/
theorem ruleChildren_onLines {background : Option (Background Unit)}
    {scenarios : List (Scenario Unit)}
    (early : ∀ value ∈ background, StepsOnLines value.steps)
    (late : ∀ value ∈ scenarios, StepsOnLines value.steps) :
    ∀ child ∈ background.toList.map RuleChild.background ++
        scenarios.map RuleChild.scenario,
      StepsOnLines child.steps := by
  intro child member
  rcases List.mem_append.mp member with front | back
  · obtain ⟨value, among, rfl⟩ := List.mem_map.mp front
    exact early value (Option.mem_toList.mp among)
  · obtain ⟨value, among, rfl⟩ := List.mem_map.mp back
    exact late value among

theorem rule_onLines (previous : Option StepKind) :
    Ensures (rule dialect previous) fun found =>
      ∀ child ∈ found.1.children, StepsOnLines child.steps := by
  refine .bind indent_stays fun _ _ => ?_
  refine .bind tagNames_stays fun _ _ => ?_
  refine .bind indent_stays fun _ _ => ?_
  refine .bind .here fun _ _ => ?_
  refine .bind (keyword_stays _) fun _ _ => ?_
  refine .bind title_stays fun _ _ => ?_
  refine .bind (description_stays _) fun _ _ => ?_
  refine .bind (background_onLines _ _).optionally fun _ early => ?_
  refine .bind (scenarios_onLines _ _) fun _ late => ?_
  exact .pure (ruleChildren_onLines early late)

theorem rules_onLines (previous : Option StepKind) :
    Ensures (rules dialect previous) fun values =>
      ∀ value ∈ values, ∀ child ∈ value.children,
        StepsOnLines child.steps := by
  intro place values behind onLine read
  fun_induction rules dialect previous place generalizing values behind with
  | case1 previous place absent =>
      cases read
      exact ⟨List.forall_mem_nil _, onLine⟩
  | case2 previous place first kind middle found shorter ih =>
      obtain ⟨own, stays⟩ :=
        rule_onLines dialect previous place (first, kind) middle onLine found
      obtain ⟨⟨others, last⟩, later, same⟩ := Option.map_eq_some_iff.mp read
      cases same
      obtain ⟨rest, ended⟩ := ih others behind stays later
      exact ⟨List.forall_mem_cons.mpr ⟨own, rest⟩, ended⟩
  | case3 previous place first kind middle found longer =>
      cases read
      exact ⟨List.forall_mem_nil _, onLine⟩

theorem languageLine_stays (dialect? : String → Option Dialect) :
    Stays (languageLine dialect?) := by
  refine .bind .here fun place _ => ?_
  dsimp only
  split
  · refine .bind (.skip _) fun _ _ => ?_
    refine .bind restOfLine_stays fun _ _ => ?_
    refine .bind (.lift _) fun _ _ => ?_
    exact .bind lineBreak_stays fun _ _ => .pure trivial
  · exact .pure trivial

theorem feature_onLines (dialect? : String → Option Dialect) :
    Ensures (feature dialect?) fun value =>
      ∀ child ∈ value.children, StepsOnLines child.steps := by
  refine .bind indent_stays fun _ _ => ?_
  refine .bind (languageLine_stays dialect?) fun _ _ => ?_
  refine .bind lineBreak_stays.many fun _ _ => ?_
  refine .bind comments_stays fun _ _ => ?_
  refine .bind tagNames_stays fun _ _ => ?_
  refine .bind lineBreak_stays.many fun _ _ => ?_
  refine .bind .here fun _ _ => ?_
  refine .bind (keyword_stays _) fun _ _ => ?_
  refine .bind title_stays fun _ _ => ?_
  refine .bind (description_stays _) fun _ _ => ?_
  refine .bind (background_onLines _ _).optionally fun background early => ?_
  refine .bind (scenarios_onLines _ _) fun scenarios middle => ?_
  refine .bind (rules_onLines _ _) fun rules late => ?_
  apply Ensures.pure
  intro child member
  rcases List.mem_append.mp member with front | back
  · rcases List.mem_append.mp front with first | second
    · obtain ⟨value, among, rfl⟩ := List.mem_map.mp first
      exact early value (Option.mem_toList.mp among)
    · obtain ⟨value, among, rfl⟩ := List.mem_map.mp second
      exact middle value among
  · obtain ⟨value, among, rfl⟩ := List.mem_map.mp back
    exact .flatMap (late value among)

/-- The steps of a feature that is read have lines, whatever its language. -/
theorem read?_onLines {dialect? : String → Option Dialect} {text : String}
    {feature : Feature Unit} (found : read? dialect? text = some feature) :
    StepsOnLines (feature.children.flatMap FeatureChild.steps) := by
  obtain ⟨⟨first, behind⟩, parsed, rest⟩ := Option.bind_eq_some_iff.mp found
  obtain ⟨-, -, same⟩ := Option.bind_eq_some_iff.mp rest
  cases same
  exact .flatMap
    (feature_onLines dialect? _ feature behind Nat.one_pos parsed).1

end FeatureText

/-- A way to write features in which every step has a line. -/
class LocatedSyntax extends FeatureSyntax where
  onLines : ∀ {text : String} {feature : Feature Unit},
    read? text = some feature →
      StepsOnLines (feature.children.flatMap FeatureChild.steps)

instance : LocatedSyntax where
  onLines := FeatureText.read?_onLines

/-- The steps of a document that is read have lines. -/
theorem FeatureFile.steps_on_lines [LocatedSyntax] {uri source : String}
    {document : Document Unit}
    (read : document? uri source = .ok document) :
    StepsOnLines document.steps := by
  unfold document? at read
  split at read
  · cases read
    exact List.forall_mem_nil _
  · cases found : FeatureSyntax.read? source with
    | none => simp [found] at read
    | some feature =>
        simp only [found, Except.ok.injEq] at read
        rw [← read, Document.steps, Option.toList_some,
          List.flatMap_singleton]
        exact LocatedSyntax.onLines found

end ScenarioRunner
