import Mathlib.Data.List.Nodup
import ScenarioRunner.Expression.Expansion
import ScenarioRunner.Proofs.RegexPatterns

/-!
# Groups of placeholders

The groups of a pattern that stand outside of its repetitions are renamed when
the pattern is put in the place of a placeholder.  The new names tell the
placeholder and count its groups.  Other groups keep their names, so names are
distinct only where no pattern names a group inside of a repetition.  What the
pattern matches stays the same.

The main statements are `groupNames_placeholderNode` and
`placeholderNode_covers`.
-/

namespace ScenarioRunner

open Regex

/-! ## Names of groups -/

namespace Regex.Node

/-- The names of the groups of a pattern, from left to right. -/
def groupNames (node : Node) : List String :=
  node.groups.filterMap (·.2)

/-- Whether a group inside of a repetition has a name. -/
def namesRepeated : Node → Bool
  | .seq first second | .alt first second =>
      first.namesRepeated || second.namesRepeated
  | .group _ _ body => body.namesRepeated
  | .repeat body _ _ _ => body.groups.any (·.2.isSome)
  | .empty | .oneOf _ | .anchor _ => false

@[simp]
theorem groupNames_seq (first second : Node) :
    (seq first second).groupNames = first.groupNames ++ second.groupNames :=
  List.filterMap_append

@[simp]
theorem groupNames_alt (first second : Node) :
    (alt first second).groupNames = first.groupNames ++ second.groupNames :=
  List.filterMap_append

theorem groupNames_repeat {body : Node} {atLeast : Nat}
    {atMost : Option Nat} {greedy : Bool}
    (unnamed : (Node.repeat body atLeast atMost greedy).namesRepeated = false) :
    (Node.repeat body atLeast atMost greedy).groupNames = [] := by
  unfold groupNames
  rw [List.filterMap_eq_nil_iff]
  intro group member
  have all := List.any_eq_false.mp unnamed group member
  simpa using all

@[simp]
theorem groupNames_shift (offset : Nat) (node : Node) :
    (node.shift offset).groupNames = node.groupNames := by
  rw [groupNames, groups_shift, List.filterMap_map]
  rfl

@[simp]
theorem namesRepeated_shift (offset : Nat) (node : Node) :
    (node.shift offset).namesRepeated = node.namesRepeated := by
  induction node with
  | empty => rfl
  | oneOf allowed => rfl
  | anchor condition => rfl
  | seq first second firstIH secondIH =>
      simp [shift, namesRepeated, firstIH, secondIH]
  | alt first second firstIH secondIH =>
      simp [shift, namesRepeated, firstIH, secondIH]
  | «repeat» body atLeast atMost greedy ih =>
      simp [shift, namesRepeated, groups_shift, Function.comp_def]
  | group index name body ih => simpa [shift, namesRepeated] using ih

theorem groups_sequence (nodes : List Node) :
    (sequence nodes).groups = nodes.flatMap Node.groups := by
  induction nodes with
  | nil => rfl
  | cons node later ih =>
      cases later with
      | nil => simp [sequence]
      | cons second rest => simp [sequence, ih]

theorem groups_text (chars : List Char) : (text chars).groups = [] := by
  rw [text, groups_sequence, List.flatMap_map, List.flatMap_eq_nil_iff]
  intro char _
  rfl

end Regex.Node

namespace Expression

theorem toList_groupName (placeholder number : Nat) :
    (groupName placeholder number).toList =
      '_' :: '_' :: (placeholder.repr.toList ++
        '_' :: number.repr.toList) := by
  simp [groupName, toString]

/-- Numerals tell their numbers. -/
theorem toList_repr_inj {first second : Nat}
    (same : first.repr.toList = second.repr.toList) : first = second := by
  rw [Nat.toList_repr, Nat.toList_repr] at same
  have value := congrArg (fun chars => Nat.ofDigitChars 10 chars 0) same
  simpa [Nat.ofDigitChars_toDigits] using value

/-- A name tells its placeholder and its number. -/
theorem groupName_inj {placeholder number other last : Nat}
    (same : groupName placeholder number = groupName other last) :
    placeholder = other ∧ number = last := by
  have digits (value : Nat) : '_' ∉ value.repr.toList := by
    rw [Nat.toList_repr]
    exact Nat.underscore_not_in_toDigits
  have chars := congrArg String.toList same
  rw [toList_groupName, toList_groupName, List.cons.injEq, List.cons.injEq,
    List.append_cons_inj_of_notMem (digits _) (digits _)] at chars
  obtain ⟨-, -, front, -, back⟩ := chars
  exact ⟨toList_repr_inj front, toList_repr_inj back⟩

/-- Names of a placeholder, counted up from a number to another. -/
def CountsUp (placeholder number last : Nat) (names : List String) : Prop :=
  ∃ count, last = number + count ∧
    names = (List.range' number count).map (groupName placeholder)

namespace CountsUp

variable {placeholder number middle last : Nat} {names more : List String}

theorem nil (placeholder number : Nat) :
    CountsUp placeholder number number [] :=
  ⟨0, rfl, rfl⟩

theorem append (early : CountsUp placeholder number middle names)
    (late : CountsUp placeholder middle last more) :
    CountsUp placeholder number last (names ++ more) := by
  obtain ⟨count, rfl, rfl⟩ := early
  obtain ⟨others, rfl, rfl⟩ := late
  refine ⟨count + others, Nat.add_assoc .., ?_⟩
  rw [← List.map_append, List.range'_append_1]

theorem cons (late : CountsUp placeholder (number + 1) last names) :
    CountsUp placeholder number last
      (groupName placeholder number :: names) := by
  obtain ⟨count, rfl, rfl⟩ := late
  refine ⟨count + 1, ?_, ?_⟩
  · omega
  · rw [List.range'_succ, List.map_cons]

theorem nodup (counts : CountsUp placeholder number last names) :
    names.Nodup := by
  obtain ⟨count, -, rfl⟩ := counts
  apply List.Nodup.map ?_ List.nodup_range'
  intro first second same
  exact (groupName_inj same).2

theorem mem (counts : CountsUp placeholder number last names)
    {name : String} (member : name ∈ names) :
    ∃ number, name = groupName placeholder number := by
  obtain ⟨count, -, rfl⟩ := counts
  obtain ⟨value, -, same⟩ := List.mem_map.mp member
  exact ⟨value, same.symm⟩

end CountsUp

/-- Groups outside of repetitions get the names of their placeholder, counted
up. -/
theorem groupNames_renameGroups (placeholder : Nat) {node : Node}
    (unnamed : node.namesRepeated = false) (number : Nat) :
    CountsUp placeholder number (renameGroups placeholder node number).2
      (renameGroups placeholder node number).1.groupNames := by
  induction node generalizing number with
  | empty => exact .nil placeholder number
  | oneOf allowed => exact .nil placeholder number
  | anchor condition => exact .nil placeholder number
  | «repeat» body atLeast atMost greedy ih =>
      have kept :
          renameGroups placeholder (.repeat body atLeast atMost greedy)
              number =
            (.repeat body atLeast atMost greedy, number) := rfl
      rw [kept, Node.groupNames_repeat unnamed]
      exact .nil placeholder number
  | seq first second firstIH secondIH =>
      rw [Node.namesRepeated, Bool.or_eq_false_iff] at unnamed
      have both :=
        (firstIH unnamed.1 number).append (secondIH unnamed.2 _)
      rw [← Node.groupNames_seq] at both
      exact both
  | alt first second firstIH secondIH =>
      rw [Node.namesRepeated, Bool.or_eq_false_iff] at unnamed
      have both :=
        (firstIH unnamed.1 number).append (secondIH unnamed.2 _)
      rw [← Node.groupNames_alt] at both
      exact both
  | group index name body ih => exact (ih unnamed (number + 1)).cons

theorem groupNames_of_closed {node : Node}
    (unnamed : node.namesRepeated = false)
    (closed : hasOpenGroup node = false) : node.groupNames = [] := by
  induction node with
  | empty => rfl
  | oneOf allowed => rfl
  | anchor condition => rfl
  | «repeat» body atLeast atMost greedy ih =>
      exact Node.groupNames_repeat unnamed
  | seq first second firstIH secondIH =>
      rw [Node.namesRepeated, Bool.or_eq_false_iff] at unnamed
      rw [hasOpenGroup, Bool.or_eq_false_iff] at closed
      rw [Node.groupNames_seq, firstIH unnamed.1 closed.1,
        secondIH unnamed.2 closed.2, List.append_nil]
  | alt first second firstIH secondIH =>
      rw [Node.namesRepeated, Bool.or_eq_false_iff] at unnamed
      rw [hasOpenGroup, Bool.or_eq_false_iff] at closed
      rw [Node.groupNames_alt, firstIH unnamed.1 closed.1,
        secondIH unnamed.2 closed.2, List.append_nil]
  | group index name body ih => cases closed

/-- The groups of a placeholder that have names have its names. -/
theorem groupNames_placeholderNode (placeholder groupsBefore : Nat)
    {pattern : Node} (unnamed : pattern.namesRepeated = false) :
    ∃ last, CountsUp placeholder 0 last
      (placeholderNode placeholder groupsBefore pattern).groupNames := by
  unfold placeholderNode
  split
  · exact ⟨_, groupNames_renameGroups placeholder (by simpa using unnamed) 0⟩
  · rename_i closed
    have nameless := groupNames_of_closed unnamed (by simpa using closed)
    have wrapped :
        (Node.group (groupsBefore + 1) none
          (pattern.shift (groupsBefore + 1))).groupNames = [] := by
      rw [← nameless, ← Node.groupNames_shift (groupsBefore + 1) pattern]
      rfl
    rw [wrapped]
    exact ⟨0, .nil placeholder 0⟩

theorem alike_renameGroups (placeholder : Nat) (node : Node)
    (number : Nat) :
    Alike node (renameGroups placeholder node number).1 := by
  induction node generalizing number with
  | empty => exact .empty
  | oneOf allowed => exact .oneOf allowed
  | anchor condition => exact .anchor condition
  | «repeat» body atLeast atMost greedy ih => exact .refl _
  | seq first second firstIH secondIH =>
      exact .seq (firstIH number) (secondIH _)
  | alt first second firstIH secondIH =>
      exact .alt (firstIH number) (secondIH _)
  | group index name body ih => exact .group (ih _) _ _ _ _

/-- The pattern of a placeholder matches what the pattern of its type
matches. -/
theorem placeholderNode_covers (placeholder groupsBefore : Nat)
    (pattern : Node) :
    pattern.Walks.Covers
      (placeholderNode placeholder groupsBefore pattern).Walks := by
  unfold placeholderNode
  split
  · exact (Alike.shift pattern groupsBefore).covers.trans
      (alike_renameGroups placeholder _ 0).covers
  · intro start stop walks captures
    obtain ⟨more, inside⟩ :=
      (Alike.shift pattern (groupsBefore + 1)).covers walks captures
    exact ⟨_, _, inside, rfl⟩

end Expression

end ScenarioRunner
