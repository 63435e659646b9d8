import ScenarioRunner.Proofs.RegexPatterns

/-!
# What a match captures

A way to match a pattern adds captures of its own groups to those that there
were before, and what it adds does not depend on them.  If the groups of a
pattern get other numbers, the captures get the same numbers, and nothing else
changes.

The main statement is `Renumbered.traces`.
-/

namespace ScenarioRunner.Regex

/-- Captures with other group numbers. -/
def Captures.renumber (number : Nat → Nat) (captures : Captures) : Captures :=
  captures.map fun (index, span) => (number index, span)

namespace Captures

@[simp]
theorem renumber_nil (number : Nat → Nat) : renumber number [] = [] := rfl

@[simp]
theorem renumber_cons (number : Nat → Nat) (index : Nat) (span : Span)
    (captures : Captures) :
    renumber number ((index, span) :: captures) =
      (number index, span) :: renumber number captures := rfl

@[simp]
theorem renumber_append (number : Nat → Nat) (first second : Captures) :
    renumber number (first ++ second) =
      renumber number first ++ renumber number second :=
  List.map_append

@[simp]
theorem renumber_id (captures : Captures) : renumber id captures = captures :=
  List.map_id captures

theorem lookup_renumber {number : Nat → Nat}
    (injective : Function.Injective number) (captures : Captures)
    (index : Nat) :
    (captures.renumber number).lookup (number index) =
      captures.lookup index := by
  induction captures with
  | nil => rfl
  | cons capture others ih =>
      obtain ⟨own, span⟩ := capture
      have same : (number index == number own) = (index == own) := by
        rw [Bool.eq_iff_iff, beq_iff_eq, beq_iff_eq, injective.eq_iff]
      rw [renumber_cons, List.lookup_cons, List.lookup_cons, ih, same]

end Captures

/-! ## Captures that are added -/

namespace Way

/--
A way adds captures to those that there are.  With their own numbers they are
captures of some groups that another way adds on the same path, whatever there
is before.
-/
def Traces (number : Nat → Nat) (among : List Nat) (way other : Way) : Prop :=
  ∀ ⦃start stop⦄, way start stop → ∃ own : Captures,
    stop.captures = own.renumber number ++ start.captures ∧
      (∀ capture ∈ own, capture.1 ∈ among) ∧
        ∀ captures, other ⟨start.cursor, captures⟩
          ⟨stop.cursor, own ++ captures⟩

namespace Traces

variable {number : Nat → Nat} {among : List Nat} {body copy rest late : Way}

theorem stay : Traces number among .Stay .Stay := by
  rintro start stop rfl
  exact ⟨[], rfl, nofun, fun _ => rfl⟩

theorem seq (first : Traces number among body copy)
    (second : Traces number among rest late) :
    Traces number among (body.Then rest) (copy.Then late) := by
  rintro start stop ⟨middle, early, others⟩
  obtain ⟨own, added, inside, copied⟩ := first early
  obtain ⟨more, addedMore, insideMore, ended⟩ := second others
  refine ⟨more ++ own, ?_, ?_, ?_⟩
  · rw [addedMore, added, Captures.renumber_append, List.append_assoc]
  · rw [List.forall_mem_append]
    exact ⟨insideMore, inside⟩
  · intro captures
    rw [List.append_assoc]
    exact ⟨_, copied captures, ended _⟩

theorem either (first : Traces number among body copy)
    (second : Traces number among rest late) :
    Traces number among (body.Either rest) (copy.Either late) := by
  rintro start stop (walks | walks)
  · obtain ⟨own, added, inside, copied⟩ := first walks
    exact ⟨own, added, inside, fun captures => Or.inl (copied captures)⟩
  · obtain ⟨own, added, inside, copied⟩ := second walks
    exact ⟨own, added, inside, fun captures => Or.inr (copied captures)⟩

theorem copies (traces : Traces number among body copy) (count : Nat) :
    Traces number among (Copies body count) (Copies copy count) := by
  intro start stop walks
  induction walks with
  | none place => exact ⟨[], rfl, nofun, fun _ => .none _⟩
  | copy first others ih =>
      obtain ⟨own, added, inside, copied⟩ := traces first
      obtain ⟨more, addedMore, insideMore, ended⟩ := ih
      refine ⟨more ++ own, ?_, ?_, ?_⟩
      · rw [addedMore, added, Captures.renumber_append, List.append_assoc]
      · rw [List.forall_mem_append]
        exact ⟨insideMore, inside⟩
      · intro captures
        rw [List.append_assoc]
        exact .copy (copied captures) (ended _)

theorem upTo (traces : Traces number among body copy) (most : Nat) :
    Traces number among (body.UpTo most) (copy.UpTo most) := by
  rintro start stop ⟨count, few, walks⟩
  obtain ⟨own, added, inside, copied⟩ := traces.copies count walks
  exact ⟨own, added, inside, fun captures => ⟨count, few, copied captures⟩⟩

theorem loops (traces : Traces number among body copy) (isFirst : Bool) :
    Traces number among (Loops body isFirst) (Loops copy isFirst) := by
  intro start stop walks
  induction walks with
  | idle copied idles =>
      obtain ⟨own, added, inside, copied⟩ := traces copied
      exact ⟨own, added, inside, fun captures => .idle (copied captures) idles⟩
  | stop copied advances =>
      obtain ⟨own, added, inside, copied⟩ := traces copied
      exact ⟨own, added, inside, fun captures =>
        .stop (copied captures) advances⟩
  | more copied advances others ih =>
      obtain ⟨own, added, inside, copied⟩ := traces copied
      obtain ⟨more, addedMore, insideMore, ended⟩ := ih
      refine ⟨more ++ own, ?_, ?_, ?_⟩
      · rw [addedMore, added, Captures.renumber_append, List.append_assoc]
      · rw [List.forall_mem_append]
        exact ⟨insideMore, inside⟩
      · intro captures
        rw [List.append_assoc]
        exact .more (copied captures) advances (ended _)

end Traces

end Way

/-! ## Groups with other numbers -/

/-- Two patterns differ in the names of groups only, and in their numbers in
the given way. -/
inductive Renumbered (number : Nat → Nat) : Node → Node → Prop where
  | empty : Renumbered number .empty .empty
  | oneOf (allowed : CharClass) :
      Renumbered number (.oneOf allowed) (.oneOf allowed)
  | anchor (condition : Anchor) :
      Renumbered number (.anchor condition) (.anchor condition)
  | seq {first second other last : Node} (early : Renumbered number first other)
      (late : Renumbered number second last) :
      Renumbered number (.seq first second) (.seq other last)
  | alt {first second other last : Node} (left : Renumbered number first other)
      (right : Renumbered number second last) :
      Renumbered number (.alt first second) (.alt other last)
  | repeats {body other : Node} (inside : Renumbered number body other)
      (atLeast : Nat) (atMost : Option Nat) (greedy : Bool) :
      Renumbered number (.repeat body atLeast atMost greedy)
        (.repeat other atLeast atMost greedy)
  | group {body other : Node} (inside : Renumbered number body other)
      (index : Nat) (name otherName : Option String) :
      Renumbered number (.group index name body)
        (.group (number index) otherName other)

namespace Renumbered

variable {number : Nat → Nat} {node other : Node}

theorem refl (node : Node) : Renumbered id node node := by
  induction node with
  | empty => exact .empty
  | oneOf allowed => exact .oneOf allowed
  | anchor condition => exact .anchor condition
  | seq first second firstIH secondIH => exact .seq firstIH secondIH
  | alt first second firstIH secondIH => exact .alt firstIH secondIH
  | «repeat» body atLeast atMost greedy ih =>
      exact .repeats ih atLeast atMost greedy
  | group index name body ih => exact .group ih index name name

theorem shift (node : Node) (offset : Nat) :
    Renumbered (· + offset) node (node.shift offset) := by
  induction node with
  | empty => exact .empty
  | oneOf allowed => exact .oneOf allowed
  | anchor condition => exact .anchor condition
  | seq first second firstIH secondIH => exact .seq firstIH secondIH
  | alt first second firstIH secondIH => exact .alt firstIH secondIH
  | «repeat» body atLeast atMost greedy ih =>
      exact .repeats ih atLeast atMost greedy
  | group index name body ih => exact .group ih index name name

theorem indices (renumbered : Renumbered number node other) :
    other.groups.map (·.1) = (node.groups.map (·.1)).map number := by
  induction renumbered with
  | empty => rfl
  | oneOf allowed => rfl
  | anchor condition => rfl
  | seq early late earlyIH lateIH => simp [earlyIH, lateIH]
  | alt left right leftIH rightIH => simp [leftIH, rightIH]
  | repeats inside atLeast atMost greedy ih => exact ih
  | group inside index name otherName ih => simp [ih]

/-- The same is captured with the other numbers. -/
theorem traces (renumbered : Renumbered number node other)
    {among : List Nat} (listed : ∀ group ∈ node.groups, group.1 ∈ among) :
    Way.Traces number among other.Walks node.Walks := by
  induction renumbered with
  | empty => exact .stay
  | oneOf allowed =>
      rintro start stop ⟨char, cursor, read, member, rfl⟩
      exact ⟨[], rfl, nofun, fun captures =>
        ⟨char, cursor, read, member, rfl⟩⟩
  | anchor condition =>
      rintro start stop ⟨holds, rfl⟩
      exact ⟨[], rfl, nofun, fun captures => ⟨holds, rfl⟩⟩
  | seq early late earlyIH lateIH =>
      rw [Node.groups_seq, List.forall_mem_append] at listed
      exact (earlyIH listed.1).seq (lateIH listed.2)
  | alt left right leftIH rightIH =>
      rw [Node.groups_alt, List.forall_mem_append] at listed
      exact (leftIH listed.1).either (rightIH listed.2)
  | group inside index name otherName ih =>
      rw [Node.groups_group, List.forall_mem_cons] at listed
      rintro start stop ⟨inner, walks, rfl⟩
      obtain ⟨own, added, among, copied⟩ := ih listed.2 walks
      refine ⟨(index, ⟨start.cursor.position, inner.cursor.position⟩) :: own,
        ?_, ?_, ?_⟩
      · simp [added]
      · exact List.forall_mem_cons.mpr ⟨listed.1, among⟩
      · exact fun captures => ⟨_, copied captures, rfl⟩
  | repeats inside atLeast atMost greedy ih =>
      have body := ih listed
      cases atMost with
      | some atMost => exact (body.copies atLeast).seq (body.upTo _)
      | none =>
          cases atLeast with
          | zero => exact (body.loops true).either .stay
          | succ count => exact (body.copies count).seq (body.loops true)

/-- A pattern without groups captures nothing. -/
theorem walks_alone (renumbered : Renumbered number node other)
    (none : node.groups = []) {start stop : Reach}
    (walks : other.Walks start stop) :
    stop.captures = start.captures ∧
      node.Walks ⟨start.cursor, []⟩ ⟨stop.cursor, []⟩ := by
  have listed : ∀ group ∈ node.groups, group.1 ∈ ([] : List Nat) := by
    rw [none]
    exact nofun
  obtain ⟨own, added, inside, alone⟩ := renumbered.traces listed walks
  cases own with
  | nil => exact ⟨added, alone []⟩
  | cons capture others => cases inside capture List.mem_cons_self

end Renumbered

/-- What is captured belongs to the groups of the pattern. -/
theorem Node.mem_groups_of_walks {node : Node} {start stop : Cursor}
    {own : Captures} (walks : node.Walks ⟨start, []⟩ ⟨stop, own⟩) :
    ∀ capture ∈ own, capture.1 ∈ node.groups.map (·.1) := by
  have listed : ∀ group ∈ node.groups, group.1 ∈ node.groups.map (·.1) :=
    fun group member => List.mem_map_of_mem member
  obtain ⟨same, added, inside, -⟩ := (Renumbered.refl node).traces listed walks
  rw [List.append_nil, Captures.renumber_id] at added
  rw [show own = same from added]
  exact inside

end ScenarioRunner.Regex
