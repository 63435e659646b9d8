import ScenarioRunner.Proofs.IntegerReading
import ScenarioRunner.Proofs.RegexCaptures
import ScenarioRunner.Proofs.RegexNumbering
import ScenarioRunner.Proofs.SuggestionUse

/-!
# Patterns in the place of placeholders

In an expression the pattern of a type takes the place of a placeholder.  It is
put into a group without a name if it has no groups; else its groups are
renamed after the placeholder.  `Inserted` says this of one pattern, and the
functions that end in `By` do it with any `Insertion`, so what is said here
holds of all that keep to it.  The one that expressions are compiled with keeps
to it for patterns that have no groups inside of repetitions.

The main statements are `placeholderGroups_expandBy` and
`placeholderNode_inserted`.
-/

namespace ScenarioRunner

open Regex

namespace Expression

/-! ## Insertions -/

/-- What takes the place of a placeholder, after so many placeholders and
groups. -/
abbrev Insertion := Nat → Nat → Node → Node

/-- The pattern of a segment that is no placeholder. -/
def writtenNode : Segment → Node
  | .text written | .blanks written => textNode written
  | .optional written => optionalNode written
  | .alternation alternatives =>
      .choice (alternatives.map fun parts =>
        .sequence (parts.map Alternative.node))
  | .parameter _ => .empty

/-- The pattern of the type of a name; an unknown one matches nothing. -/
def patternOf (lookup : TypeLookup) (name : String) : Node :=
  match lookup name with
  | some type => type.pattern.root
  | none => .oneOf .empty

/-- The patterns of segments. -/
def segmentNodesBy (insert : Insertion) (lookup : TypeLookup) :
    Nat → Nat → List Segment → List Node
  | _, _, [] => []
  | placeholders, groupsBefore, .parameter name :: later =>
      let node := insert placeholders groupsBefore (patternOf lookup name)
      node :: segmentNodesBy insert lookup (placeholders + 1)
        (max groupsBefore (lastGroup node)) later
  | placeholders, groupsBefore, segment :: later =>
      writtenNode segment ::
        segmentNodesBy insert lookup placeholders groupsBefore later

/-- The pattern of a whole expression. -/
def expandBy (insert : Insertion) (lookup : TypeLookup)
    (segments : List Segment) : Node :=
  .sequence
    (.anchor .textStart :: segmentNodesBy insert lookup 0 0 segments ++
      [.anchor .textEnd])

/-- Compile an expression. -/
def Template.compileBy (insert : Insertion) (registry : ParameterRegistry)
    (source : String) : Except CompileError Template :=
  match parse source with
  | .error reason => .error (.malformed reason)
  | .ok segments =>
      match resolveTypes registry (segments.filterMap Segment.parameter?) with
      | .error error => .error error
      | .ok types =>
          let root := expandBy insert registry.lookup? segments
          match firstRepeated? (root.groups.filterMap (·.2)) with
          | some name => .error (.invalidPattern (.duplicateGroupName name))
          | none =>
              let groups := placeholderGroups root types.length
              .ok ⟨source, root, groups.zipWith Placeholder.mk types⟩

theorem segmentNodesBy_placeholderNode (lookup : TypeLookup)
    (placeholders groupsBefore : Nat) (segments : List Segment) :
    segmentNodesBy placeholderNode lookup placeholders groupsBefore segments =
      segmentNodes lookup placeholders groupsBefore segments := by
  induction segments generalizing placeholders groupsBefore with
  | nil => rfl
  | cons segment later ih =>
      cases segment with
      | text written => simp only [segmentNodesBy, segmentNodes, writtenNode, ih]
      | blanks written =>
          simp only [segmentNodesBy, segmentNodes, writtenNode, ih]
      | optional written =>
          simp only [segmentNodesBy, segmentNodes, writtenNode, ih]
      | alternation alternatives =>
          simp only [segmentNodesBy, segmentNodes, writtenNode, ih]
      | parameter name =>
          simp only [segmentNodesBy, segmentNodes, ih]
          rfl

/-- Expressions are compiled with `placeholderNode`. -/
theorem Template.compileBy_placeholderNode (registry : ParameterRegistry)
    (source : String) :
    compileBy placeholderNode registry source = compile registry source := by
  have same :
      expandBy placeholderNode registry.lookup? = expand registry.lookup? := by
    funext segments
    rw [expandBy, segmentNodesBy_placeholderNode, expand]
  unfold compileBy
  rw [same]
  rfl

/-- A pattern in the place of a placeholder, after so many groups: one group
without a name, or its own groups, renamed after the placeholder. -/
inductive Inserted (placeholder groupsBefore : Nat) (pattern : Node) :
    Node → Prop where
  | whole {body : Node} (closed : pattern.groups = [])
      (same : Renumbered (· + (groupsBefore + 1)) pattern body) :
      Inserted placeholder groupsBefore pattern
        (.group (groupsBefore + 1) none body)
  | renamed {node : Node} (opened : pattern.groups ≠ [])
      (same : Renumbered (· + groupsBefore) pattern node)
      (named : ∀ group ∈ node.groups, ∃ number,
        group.2 = some (groupName placeholder number)) :
      Inserted placeholder groupsBefore pattern node

/-- The patterns of all types of a registry are put in like this, and nothing
else becomes a group. -/
def Insertion.Documented (insert : Insertion) (registry : ParameterRegistry) :
    Prop :=
  ∀ type ∈ registry.types, ∀ placeholder groupsBefore,
    Inserted placeholder groupsBefore type.pattern.root
      (insert placeholder groupsBefore type.pattern.root)

/-! ## Groups of placeholders -/

/-- The numbers that the groups of a pattern get, after so many groups. -/
def ownGroups (groupsBefore : Nat) (pattern : Node) : List Nat :=
  if pattern.groups.isEmpty then [groupsBefore + 1]
  else pattern.groups.map (·.1 + groupsBefore)

/-- How many group numbers a pattern takes up. -/
def groupCount (pattern : Node) : Nat :=
  if pattern.groups.isEmpty then 1 else lastGroup pattern

/-- The groups of placeholders of some types, in order. -/
def groupsAlong : Nat → List ParameterType → List (List Nat)
  | _, [] => []
  | groupsBefore, type :: later =>
      ownGroups groupsBefore type.pattern.root ::
        groupsAlong (groupsBefore + groupCount type.pattern.root) later

/-- The written parts of an expression have no groups. -/
theorem groups_writtenNode (segment : Segment) :
    (writtenNode segment).groups = [] := by
  have part (alternative : Alternative) : alternative.node.groups = [] := by
    cases alternative <;> exact Node.groups_text _
  cases segment with
  | text written => exact Node.groups_text _
  | blanks written => exact Node.groups_text _
  | optional written => exact Node.groups_text _
  | parameter name => rfl
  | alternation alternatives =>
      rw [writtenNode, Node.groups_choice, List.flatMap_map,
        List.flatMap_eq_nil_iff]
      intro parts _
      rw [Node.groups_sequence, List.flatMap_map, List.flatMap_eq_nil_iff]
      exact fun alternative _ => part alternative

section Inserted

variable {placeholder groupsBefore : Nat} {pattern node : Node}

theorem Inserted.indices
    (inserted : Inserted placeholder groupsBefore pattern node) :
    node.groups.map (·.1) = ownGroups groupsBefore pattern := by
  unfold ownGroups
  cases inserted with
  | whole closed same =>
      have inner := same.indices
      rw [closed, List.map_nil, List.map_nil, List.map_eq_nil_iff] at inner
      simp [closed, inner]
  | renamed opened same named =>
      rw [if_neg (by simpa using opened), same.indices, List.map_map]
      rfl

theorem lastGroup_eq (node : Node) :
    lastGroup node = (node.groups.map (·.1)).foldl max 0 := by
  rw [lastGroup, List.foldl_map]

theorem max_foldl (lower highest : Nat) (indices : List Nat) :
    max lower (indices.foldl max highest) =
      indices.foldl max (max lower highest) := by
  induction indices generalizing highest with
  | nil => rfl
  | cons index later ih => rw [List.foldl_cons, ih, List.foldl_cons, max_assoc]

theorem le_foldl_max {indices : List Nat} {index : Nat}
    (member : index ∈ indices) (highest : Nat) :
    index ≤ indices.foldl max highest := by
  induction indices generalizing highest with
  | nil => cases member
  | cons first later ih =>
      rw [List.foldl_cons]
      rcases List.mem_cons.mp member with rfl | among
      · rw [max_comm, ← max_foldl]
        exact Nat.le_max_left _ _
      · exact ih among _

theorem foldl_max_add (indices : List Nat) (highest offset : Nat) :
    (indices.map (· + offset)).foldl max (highest + offset) =
      indices.foldl max highest + offset := by
  induction indices generalizing highest with
  | nil => rfl
  | cons index later ih =>
      rw [List.map_cons, List.foldl_cons, List.foldl_cons, ← ih,
        Nat.add_max_add_right]

/-- The groups behind a placeholder are numbered from those of its pattern
on. -/
theorem Inserted.max_lastGroup
    (inserted : Inserted placeholder groupsBefore pattern node) :
    max groupsBefore (lastGroup node) =
      groupsBefore + groupCount pattern := by
  rw [lastGroup_eq, inserted.indices, max_foldl, Nat.max_zero, ownGroups,
    groupCount]
  split
  · simp
  · have offset := foldl_max_add (pattern.groups.map (·.1)) 0 groupsBefore
    rw [List.map_map, Nat.zero_add, ← lastGroup_eq] at offset
    rw [Nat.add_comm, ← offset]
    rfl

theorem groupOwners_named {groups rest : List (Nat × Option String)}
    {due : Nat} (small : placeholder < 2 ^ 64)
    (named : ∀ group ∈ groups, ∃ number,
      group.2 = some (groupName placeholder number))
    (nonempty : groups ≠ []) :
    groupOwners due (groups ++ rest) =
      (groups.map (·.1)).map (placeholder, ·) ++
        groupOwners (placeholder + 1) rest := by
  induction groups generalizing due with
  | nil => exact absurd rfl nonempty
  | cons group later ih =>
      obtain ⟨index, name⟩ := group
      rw [List.forall_mem_cons] at named
      obtain ⟨⟨number, rfl⟩, named⟩ := named
      rw [List.cons_append, groupOwners, Option.bind_some,
        placeholderOfName?_groupName small, Option.getD_some]
      cases later with
      | nil => rfl
      | cons second others =>
          rw [ih named (List.cons_ne_nil _ _)]
          rfl

/-- The groups of a placeholder are owned by it if it is due, and then the next
one is due. -/
theorem Inserted.groupOwners_append
    (inserted : Inserted placeholder groupsBefore pattern node)
    (small : placeholder < 2 ^ 64) (rest : List (Nat × Option String)) :
    groupOwners placeholder (node.groups ++ rest) =
      (ownGroups groupsBefore pattern).map (placeholder, ·) ++
        groupOwners (placeholder + 1) rest := by
  rw [← inserted.indices]
  cases inserted with
  | whole closed same =>
      have inner := same.indices
      rw [closed, List.map_nil, List.map_nil, List.map_eq_nil_iff] at inner
      rw [Node.groups_group, inner]
      rfl
  | renamed opened same named =>
      have nonempty : node.groups ≠ [] := by
        intro none
        have indices := same.indices
        rw [none, List.map_nil, eq_comm, List.map_eq_nil_iff,
          List.map_eq_nil_iff] at indices
        exact opened indices
      exact groupOwners_named small named nonempty

end Inserted

/-- The groups of some placeholders, each with its placeholder. -/
def owners : Nat → List (List Nat) → List (Nat × Nat)
  | _, [] => []
  | placeholder, groups :: later =>
      groups.map (placeholder, ·) ++ owners (placeholder + 1) later

theorem le_of_mem_owners {placeholder : Nat} {lists : List (List Nat)}
    {owner : Nat × Nat} (member : owner ∈ owners placeholder lists) :
    placeholder ≤ owner.1 := by
  induction lists generalizing placeholder with
  | nil => cases member
  | cons groups later ih =>
      rcases List.mem_append.mp member with own | among
      · obtain ⟨group, -, rfl⟩ := List.mem_map.mp own
        exact Nat.le_refl _
      · exact Nat.le_of_succ_le (ih among)

/-- Each placeholder gets back its groups. -/
theorem map_filter_owners (placeholder : Nat) (lists : List (List Nat)) :
    (List.range' placeholder lists.length).map (fun owner =>
        ((owners placeholder lists).filter (·.1 == owner)).map (·.2)) =
      lists := by
  induction lists generalizing placeholder with
  | nil => rfl
  | cons groups later ih =>
      have own :
          ((owners placeholder (groups :: later)).filter
            (·.1 == placeholder)).map (·.2) = groups := by
        have none :
            (owners (placeholder + 1) later).filter (·.1 == placeholder) =
              [] := by
          rw [List.filter_eq_nil_iff]
          intro owner member same
          have least := le_of_mem_owners member
          have equal := beq_iff_eq.mp same
          omega
        rw [owners, List.filter_append, none, List.append_nil,
          List.filter_map, List.map_map]
        simp [Function.comp_def]
      have others :
          (List.range' (placeholder + 1) later.length).map (fun owner =>
              ((owners placeholder (groups :: later)).filter
                (·.1 == owner)).map (·.2)) = later := by
        conv_rhs => rw [← ih (placeholder + 1)]
        apply List.map_congr_left
        intro owner member
        have above := (List.mem_range'_1.mp member).1
        have none :
            (groups.map (placeholder, ·)).filter (·.1 == owner) = [] := by
          rw [List.filter_eq_nil_iff]
          intro group among same
          obtain ⟨index, -, rfl⟩ := List.mem_map.mp among
          have equal : placeholder = owner := beq_iff_eq.mp same
          omega
        rw [owners, List.filter_append, none, List.nil_append]
      rw [List.length_cons, List.range'_succ, List.map_cons, own, others]

section Segments

variable {insert : Insertion} {lookup : TypeLookup}

/-- The types that the names of placeholders stand for. -/
def Resolves (lookup : TypeLookup) (segments : List Segment)
    (types : List ParameterType) : Prop :=
  List.Forall₂ (fun name type => lookup name = some type)
    (segments.filterMap Segment.parameter?) types

theorem groupOwners_segmentNodesBy {segments : List Segment}
    {types : List ParameterType} (resolves : Resolves lookup segments types)
    (inserted : ∀ type ∈ types, ∀ placeholder groupsBefore,
      Inserted placeholder groupsBefore type.pattern.root
        (insert placeholder groupsBefore type.pattern.root))
    {placeholders : Nat} (small : placeholders + types.length ≤ 2 ^ 64)
    (groupsBefore : Nat) :
    groupOwners placeholders
        ((segmentNodesBy insert lookup placeholders groupsBefore
          segments).flatMap Node.groups) =
      owners placeholders (groupsAlong groupsBefore types) := by
  induction segments generalizing types placeholders groupsBefore with
  | nil =>
      cases resolves
      rfl
  | cons segment later ih =>
      have written (plain : segment.parameter? = none)
          (same : segmentNodesBy insert lookup placeholders groupsBefore
              (segment :: later) =
            writtenNode segment ::
              segmentNodesBy insert lookup placeholders groupsBefore
                later) :
          groupOwners placeholders
              ((segmentNodesBy insert lookup placeholders groupsBefore
                (segment :: later)).flatMap Node.groups) =
            owners placeholders (groupsAlong groupsBefore types) := by
        rw [Resolves, List.filterMap_cons_none plain] at resolves
        rw [same, List.flatMap_cons, groups_writtenNode, List.nil_append]
        exact ih resolves inserted small groupsBefore
      cases segment with
      | text chars => exact written rfl rfl
      | blanks chars => exact written rfl rfl
      | optional chars => exact written rfl rfl
      | alternation alternatives => exact written rfl rfl
      | parameter name =>
          have names :
              (Segment.parameter name :: later).filterMap
                  Segment.parameter? =
                name :: later.filterMap Segment.parameter? := rfl
          rw [Resolves, names] at resolves
          cases resolves with
          | cons known resolves =>
              rename_i type types
              rw [List.forall_mem_cons] at inserted
              have own := inserted.1 placeholders groupsBefore
              rw [List.length_cons] at small
              simp only [segmentNodesBy, patternOf, known, List.flatMap_cons]
              rw [own.groupOwners_append (by omega), own.max_lastGroup,
                ih resolves inserted.2 (by omega)]
              rfl

/-- The groups of each placeholder are those of the pattern in its place. -/
theorem placeholderGroups_expandBy {segments : List Segment}
    {types : List ParameterType} (resolves : Resolves lookup segments types)
    (inserted : ∀ type ∈ types, ∀ placeholder groupsBefore,
      Inserted placeholder groupsBefore type.pattern.root
        (insert placeholder groupsBefore type.pattern.root))
    (small : types.length ≤ 2 ^ 64) :
    placeholderGroups (expandBy insert lookup segments) types.length =
      groupsAlong 0 types := by
  have groups :
      (expandBy insert lookup segments).groups =
        (segmentNodesBy insert lookup 0 0 segments).flatMap Node.groups := by
    rw [expandBy, Node.groups_sequence, List.cons_append, List.flatMap_cons,
      List.flatMap_append]
    simp [Node.groups]
  have along (groupsBefore : Nat) (types : List ParameterType) :
      (groupsAlong groupsBefore types).length = types.length := by
    induction types generalizing groupsBefore with
    | nil => rfl
    | cons type types ih => rw [groupsAlong, List.length_cons, ih]; rfl
  unfold placeholderGroups
  rw [groups, groupOwners_segmentNodesBy resolves inserted (by omega),
    List.range_eq_range', ← along 0 types]
  exact map_filter_owners 0 _

end Segments

/-! ## Patterns without groups inside of repetitions -/

end Expression

/-- Whether some group is inside of a repetition. -/
def Regex.Node.repeatsGroups : Node → Bool
  | .seq first second | .alt first second =>
      first.repeatsGroups || second.repeatsGroups
  | .group _ _ body => body.repeatsGroups
  | .repeat body _ _ _ => !body.groups.isEmpty
  | .empty | .oneOf _ | .anchor _ => false

namespace Expression

theorem repeatsGroups_shift (offset : Nat) (node : Node) :
    (node.shift offset).repeatsGroups = node.repeatsGroups := by
  induction node with
  | empty => rfl
  | oneOf allowed => rfl
  | anchor condition => rfl
  | seq first second firstIH secondIH =>
      simp [Node.shift, Node.repeatsGroups, firstIH, secondIH]
  | alt first second firstIH secondIH =>
      simp [Node.shift, Node.repeatsGroups, firstIH, secondIH]
  | «repeat» body atLeast atMost greedy ih =>
      simp [Node.shift, Node.repeatsGroups, Node.groups_shift]
  | group index name body ih =>
      simpa [Node.shift, Node.repeatsGroups] using ih

/-- Renaming changes no numbers. -/
theorem renumbered_renameGroups (placeholder offset : Nat) (node : Node)
    (number : Nat) :
    Renumbered (· + offset) node
      (renameGroups placeholder (node.shift offset) number).1 := by
  induction node generalizing number with
  | empty => exact .empty
  | oneOf allowed => exact .oneOf allowed
  | anchor condition => exact .anchor condition
  | seq first second firstIH secondIH =>
      exact .seq (firstIH number) (secondIH _)
  | alt first second firstIH secondIH =>
      exact .alt (firstIH number) (secondIH _)
  | «repeat» body atLeast atMost greedy ih =>
      exact .repeats (.shift body offset) atLeast atMost greedy
  | group index name body ih => exact .group (ih _) index name _

/-- All groups are renamed if none is inside of a repetition. -/
theorem named_renameGroups (placeholder : Nat) {node : Node}
    (single : node.repeatsGroups = false) (number : Nat) :
    ∀ group ∈ (renameGroups placeholder node number).1.groups, ∃ own,
      group.2 = some (groupName placeholder own) := by
  induction node generalizing number with
  | empty => exact nofun
  | oneOf allowed => exact nofun
  | anchor condition => exact nofun
  | seq first second firstIH secondIH =>
      rw [Node.repeatsGroups, Bool.or_eq_false_iff] at single
      exact List.forall_mem_append.mpr
        ⟨firstIH single.1 number, secondIH single.2 _⟩
  | alt first second firstIH secondIH =>
      rw [Node.repeatsGroups, Bool.or_eq_false_iff] at single
      exact List.forall_mem_append.mpr
        ⟨firstIH single.1 number, secondIH single.2 _⟩
  | «repeat» body atLeast atMost greedy ih =>
      have none : body.groups = [] := by
        simpa [Node.repeatsGroups] using single
      intro group member
      have among : group ∈ body.groups := member
      rw [none] at among
      cases among
  | group index name body ih =>
      exact List.forall_mem_cons.mpr ⟨⟨number, rfl⟩, ih single _⟩

/-- A group outside of repetitions is found if there is any group. -/
theorem hasOpenGroup_eq_false_iff {node : Node}
    (single : node.repeatsGroups = false) :
    hasOpenGroup node = false ↔ node.groups = [] := by
  induction node with
  | empty => exact ⟨fun _ => rfl, fun _ => rfl⟩
  | oneOf allowed => exact ⟨fun _ => rfl, fun _ => rfl⟩
  | anchor condition => exact ⟨fun _ => rfl, fun _ => rfl⟩
  | seq first second firstIH secondIH =>
      rw [Node.repeatsGroups, Bool.or_eq_false_iff] at single
      rw [hasOpenGroup, Bool.or_eq_false_iff, firstIH single.1,
        secondIH single.2, Node.groups_seq, List.append_eq_nil_iff]
  | alt first second firstIH secondIH =>
      rw [Node.repeatsGroups, Bool.or_eq_false_iff] at single
      rw [hasOpenGroup, Bool.or_eq_false_iff, firstIH single.1,
        secondIH single.2, Node.groups_alt, List.append_eq_nil_iff]
  | «repeat» body atLeast atMost greedy ih =>
      have none : body.groups = [] := by
        simpa [Node.repeatsGroups] using single
      exact ⟨fun _ => none, fun _ => rfl⟩
  | group index name body ih =>
      constructor
      · intro closed
        cases closed
      · intro none
        cases none

/-- A pattern without groups inside of repetitions is put in as it should
be. -/
theorem placeholderNode_inserted {pattern : Node}
    (single : pattern.repeatsGroups = false)
    (placeholder groupsBefore : Nat) :
    Inserted placeholder groupsBefore pattern
      (placeholderNode placeholder groupsBefore pattern) := by
  have found := hasOpenGroup_eq_false_iff single
  unfold placeholderNode
  split
  · rename_i opened
    refine .renamed ?_
      (renumbered_renameGroups placeholder groupsBefore pattern 0) ?_
    · intro none
      rw [found.mpr none] at opened
      cases opened
    · exact named_renameGroups placeholder
        (by rwa [repeatsGroups_shift]) 0
  · rename_i closed
    exact .whole (found.mp (by simpa using closed)) (.shift pattern _)

theorem Insertion.documented_placeholderNode {registry : ParameterRegistry}
    (single : ∀ type ∈ registry.types,
      type.pattern.root.repeatsGroups = false) :
    Insertion.Documented placeholderNode registry :=
  fun type member => placeholderNode_inserted (single type member)

end Expression

end ScenarioRunner
