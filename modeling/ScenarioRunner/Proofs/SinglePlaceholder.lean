import ScenarioRunner.Proofs.PlaceholderCaptures
import ScenarioRunner.Proofs.TakenText

/-!
# Expressions that are one placeholder

If the pattern of a type has no groups, then an expression that is one
placeholder of the type compiles, and captures each text that the pattern
matches as a whole.

The main statement is `Template.match?_single`.
-/

namespace ScenarioRunner

open Regex

namespace Expression

/-- A passage from the start of a text to its end captures all of it. -/
theorem Passage.capture_of_whole {passage : Passage} {text : String}
    (closed : passage.pattern.groups = [])
    (start : passage.start = Cursor.start text.toList)
    (ends : passage.stop.after = []) :
    passage.capture text.toList = ⟨some text, some passage.type⟩ := by
  have takes : passage.start.Takes text.toList passage.stop := by
    have precedes := Node.walks_forward _ passage.walks
    dsimp only at precedes
    rw [start] at precedes ⊢
    exact Cursor.takes_of_precedes precedes ends
  have span : passage.span.of text.toList = text.toList := by
    have taken := takes.span_of
    rwa [show passage.start.text = text.toList by rw [start]; rfl] at taken
  rw [capture, captured?_of_groups_nil closed, Option.map_some, span,
    String.ofList_toList]

theorem repeatsGroups_of_groups_nil {node : Node} (closed : node.groups = []) :
    node.repeatsGroups = false := by
  induction node with
  | empty => rfl
  | oneOf allowed => rfl
  | anchor condition => rfl
  | seq first second firstIH secondIH =>
      rw [Node.groups_seq, List.append_eq_nil_iff] at closed
      rw [Node.repeatsGroups, firstIH closed.1, secondIH closed.2]
      rfl
  | alt first second firstIH secondIH =>
      rw [Node.groups_alt, List.append_eq_nil_iff] at closed
      rw [Node.repeatsGroups, firstIH closed.1, secondIH closed.2]
      rfl
  | «repeat» body atLeast atMost greedy ih =>
      rw [Node.groups] at closed
      simp [Node.repeatsGroups, closed]
  | group index name body ih => cases closed

/-- A pattern without groups is put into a group of its own. -/
theorem placeholderNode_of_groups_nil {node : Node} (closed : node.groups = [])
    (placeholder groupsBefore : Nat) :
    placeholderNode placeholder groupsBefore node =
      .group (groupsBefore + 1) none (node.shift (groupsBefore + 1)) := by
  have opened := (hasOpenGroup_eq_false_iff
    (repeatsGroups_of_groups_nil closed)).mpr closed
  rw [placeholderNode, opened]
  rfl

namespace Template

section Single

variable {registry : ParameterRegistry} {source name : String}
  {type : ParameterType}

/-- An expression that is one placeholder compiles. -/
theorem compile_single (parsed : parse source = .ok [.parameter name])
    (known : registry.lookup? name = some type)
    (closed : type.pattern.root.groups = []) :
    ∃ template, compile registry source = .ok template := by
  have resolved :
      resolveTypes registry
          ([Segment.parameter name].filterMap Segment.parameter?) =
        .ok [type] := by
    simp [Segment.parameter?, resolveTypes, known, bind, Except.bind, pure,
      Except.pure]
  have unnamed :
      (expand registry.lookup? [.parameter name]).groupNames = [] := by
    rw [groupNames_expand]
    simp only [segmentNodes, known, placeholderNode_of_groups_nil closed]
    simp [Node.groupNames, Node.groups_shift, closed]
  have compiled := compile_eq parsed resolved
  simp only [unnamed, firstRepeated?] at compiled
  exact ⟨_, compiled⟩

theorem madeBy_single (parsed : parse source = .ok [.parameter name])
    (known : registry.lookup? name = some type) {template : Template}
    (compiled : compile registry source = .ok template) :
    template.MadeBy placeholderNode registry [.parameter name] [type] := by
  rw [← compileBy_placeholderNode] at compiled
  obtain ⟨rfl, segments, types, made⟩ := exists_madeBy compiled
  cases parsed.symm.trans made.parsed
  cases made.resolves with
  | cons own others =>
      cases others
      cases known.symm.trans own
      exact made

/-- An expression that is one placeholder captures each text that the pattern
of its type matches as a whole. -/
theorem match?_single (parsed : parse source = .ok [.parameter name])
    (known : registry.lookup? name = some type)
    (closed : type.pattern.root.groups = []) {template : Template}
    (compiled : compile registry source = .ok template) {text : String}
    (whole : type.pattern.MatchesWhole text.toList) :
    template.match? text = some [⟨some text, some type⟩] := by
  have made := madeBy_single parsed known compiled
  have inserted : ∀ own ∈ [type], ∀ placeholder groupsBefore,
      Inserted placeholder groupsBefore own.pattern.root
        (placeholderNode placeholder groupsBefore own.pattern.root) :=
    List.forall_mem_singleton.mpr
      (placeholderNode_inserted (repeatsGroups_of_groups_nil closed))
  have root : template.root =
      expand registry.lookup? [.parameter name] := by
    rw [made.root, expandBy, segmentNodesBy_placeholderNode]
    rfl
  have matches? : (template.match? text).isSome = true := by
    obtain ⟨captures, walks⟩ := whole
    obtain ⟨more, own⟩ := placeholderNode_covers 0 0 _ walks []
    have all : Node.WalksAll
        (segmentNodes registry.lookup? 0 0 [.parameter name])
        ⟨Cursor.start text.toList, []⟩
        ⟨⟨text.toList.reverse, []⟩, more⟩ := by
      simp only [segmentNodes, known]
      exact ⟨_, own, rfl⟩
    exact isSome_match? root rfl all
  obtain ⟨captures, matched⟩ := Option.isSome_iff_exists.mp matches?
  obtain ⟨passages, passes, rfl⟩ :=
    made.exists_passages_of_inserted inserted
      (List.forall_mem_singleton.mpr (Node.numbered_of_groups closed))
      Nat.one_le_two_pow matched
  obtain ⟨found, stop, -, traverses, ends⟩ := passes.traverses
  rw [matched]
  generalize begins : Reach.mk (Cursor.start text.toList) [] = start
    at traverses
  generalize stops : Reach.mk stop found.captures = last at traverses
  cases traverses with
  | written plain => cases plain
  | @placeholder _ _ _ passage _ _ _ own rest =>
      cases known.symm.trans own
      cases rest
      have start : Cursor.start text.toList = passage.start :=
        congrArg Reach.cursor begins
      have last : stop = passage.stop := congrArg Reach.cursor stops
      rw [last] at ends
      rw [List.map_singleton, Passage.capture_of_whole closed start.symm ends]

end Single

end Template

end Expression

end ScenarioRunner
