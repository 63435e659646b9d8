import ScenarioRunner.Proofs.PlaceholderGroups

/-!
# Numbers of groups

The reader of regular expressions numbers capture groups from one on.  This is
kept by the parts of a pattern that are finished, by those that are still open,
and by the groups around them.

The main statement is `Regex.numbered_of_compile`.
-/

namespace ScenarioRunner.Regex

/-- The numbers of all groups are positive. -/
def Node.Numbered (node : Node) : Prop :=
  ∀ group ∈ node.groups, 0 < group.1

namespace Node

theorem numbered_of_groups {node : Node} (none : node.groups = []) :
    node.Numbered := by
  intro group member
  rw [none] at member
  cases member

theorem groups_choice (nodes : List Node) :
    (choice nodes).groups = nodes.flatMap Node.groups := by
  induction nodes with
  | nil => rfl
  | cons node later ih =>
      cases later with
      | nil => simp [choice]
      | cons second rest => simp [choice, ih]

theorem Numbered.choice {nodes : List Node}
    (numbered : ∀ node ∈ nodes, node.Numbered) : (choice nodes).Numbered := by
  intro group member
  rw [groups_choice, List.mem_flatMap] at member
  obtain ⟨node, among, own⟩ := member
  exact numbered node among group own

theorem Numbered.sequence {nodes : List Node}
    (numbered : ∀ node ∈ nodes, node.Numbered) :
    (sequence nodes).Numbered := by
  intro group member
  rw [groups_sequence, List.mem_flatMap] at member
  obtain ⟨node, among, own⟩ := member
  exact numbered node among group own

theorem Numbered.repeated {body : Node} (numbered : body.Numbered)
    (atLeast : Nat) (atMost : Option Nat) (greedy : Bool) :
    (body.repeated atLeast atMost greedy).Numbered := by
  unfold Node.repeated
  extract_lets bounds
  clear_value bounds
  split
  · exact numbered_of_groups rfl
  · split
    · exact numbered
    · exact numbered

end Node

namespace Reader

/-- All parts of the content of a group are numbered. -/
structure Level.Numbered (level : Level) : Prop where
  finished : ∀ node ∈ level.finished, node.Numbered
  items : ∀ item ∈ level.items, item.node.Numbered

namespace Level.Numbered

variable {level : Level}

theorem empty : Level.Numbered {} :=
  ⟨nofun, nofun⟩

theorem push (numbered : level.Numbered) {node : Node}
    (own : node.Numbered) : (level.push node).Numbered where
  finished := numbered.finished
  items := List.forall_mem_cons.mpr ⟨own, numbered.items⟩

theorem alternative (numbered : level.Numbered) :
    level.alternative.Numbered := by
  apply Node.Numbered.sequence
  intro node member
  have among := List.mem_of_mem_filter member
  rw [List.mem_reverse, List.mem_map] at among
  obtain ⟨item, own, rfl⟩ := among
  exact numbered.items item own

theorem node (numbered : level.Numbered) : level.node.Numbered := by
  apply Node.Numbered.choice
  intro node member
  rw [List.mem_reverse, List.mem_cons] at member
  rcases member with rfl | among
  · exact numbered.alternative
  · exact numbered.finished node among

theorem bar (numbered : level.Numbered) : level.bar.Numbered where
  finished :=
    List.forall_mem_cons.mpr ⟨numbered.alternative, numbered.finished⟩
  items := nofun

end Level.Numbered

/-- All parts that were read are numbered, and so are the groups that are still
open. -/
structure State.Numbered (state : State) : Prop where
  level : state.level.Numbered
  outer : ∀ group ∈ state.enclosing, group.outer.Numbered
  captures : ∀ group ∈ state.enclosing, ∀ capture ∈ group.capture,
    0 < capture.1

namespace State.Numbered

variable {state : State}

theorem start : State.Numbered {} :=
  ⟨.empty, nofun, nofun⟩

theorem push (numbered : state.Numbered) {node : Node}
    (own : node.Numbered) : (state.push node).Numbered where
  level := numbered.level.push own
  outer := numbered.outer
  captures := numbered.captures

theorem openGroup (numbered : state.Numbered) (flags : Flags)
    {capture : Option (Nat × Option String)}
    (positive : ∀ own ∈ capture, 0 < own.1) :
    (state.openGroup flags capture).Numbered where
  level := .empty
  outer := List.forall_mem_cons.mpr ⟨numbered.level, numbered.outer⟩
  captures := List.forall_mem_cons.mpr ⟨positive, numbered.captures⟩

theorem openCapture (numbered : state.Numbered) (name : Option String) :
    (state.openCapture name).Numbered := by
  have positive : ∀ own ∈ some (state.groupCount + 1, name), 0 < own.1 := by
    simp
  have opened := numbered.openGroup state.flags positive
  exact ⟨opened.level, opened.outer, opened.captures⟩

theorem closeGroup (numbered : state.Numbered) {closed : State}
    (done : state.closeGroup = .ok closed) : closed.Numbered := by
  unfold State.closeGroup at done
  split at done
  · cases done
  · rename_i group enclosing around
    have outer := numbered.outer
    have captures := numbered.captures
    rw [around, List.forall_mem_cons] at outer captures
    rw [Except.ok.injEq] at done
    subst done
    refine ⟨outer.1.push ?_, outer.2, captures.2⟩
    have body := numbered.level.node
    cases capture : group.capture with
    | none => exact body
    | some own =>
        have positive := captures.1 own capture
        exact List.forall_mem_cons.mpr ⟨positive, body⟩

theorem repeatLast (numbered : state.Numbered) {atLeast : Nat}
    {atMost : Option Nat} {greedy : Bool} {repeated : State}
    (done : state.repeatLast atLeast atMost greedy = .ok repeated) :
    repeated.Numbered := by
  unfold State.repeatLast at done
  split at done
  · rename_i body items last
    have parts := numbered.level.items
    rw [last, List.forall_mem_cons] at parts
    rw [Except.ok.injEq] at done
    subst done
    exact ⟨⟨numbered.level.finished,
      List.forall_mem_cons.mpr ⟨parts.1.repeated _ _ _, parts.2⟩⟩,
      numbered.outer, numbered.captures⟩
  · cases done

end State.Numbered

/-! ## Reading -/

section Parts

variable {state : State} {chars : List Char} {after : State × List Char}

theorem openGroup_numbered (numbered : state.Numbered)
    (read : openGroup state chars = .ok after) : after.1.Numbered := by
  unfold openGroup at read
  extract_lets chars named level plain at read
  have capture (rest : List Char) (done : named rest = .ok after) :
      after.1.Numbered := by
    simp only [named, bind, Except.bind, throw, throwThe,
      MonadExceptOf.throw] at done
    split at done
    · cases done
    · split at done
      · cases done
      · rename_i named _ _
        cases done
        have opened := numbered.openCapture (some named.1)
        exact ⟨opened.level, opened.outer, opened.captures⟩
  clear_value named chars
  simp only [plain, bind, Except.bind, throw, throwThe, MonadExceptOf.throw]
    at read
  split at read
  · cases read
  · split at read
    · exact capture _ read
    · exact capture _ read
    · -- Flags stand alone, or in front of a group that captures nothing.
      split at read
      · cases read
      · split at read
        · split at read
          · cases read
          · cases read
            exact ⟨⟨numbered.level.finished,
              List.forall_mem_cons.mpr
                ⟨Node.numbered_of_groups rfl, numbered.level.items⟩⟩,
              numbered.outer, numbered.captures⟩
        · cases read
          exact numbered.openGroup _ nofun
    · cases read
      exact numbered.openCapture none

theorem repetition_numbered (numbered : state.Numbered) {atLeast : Nat}
    {atMost : Option Nat}
    (read : repetition state atLeast atMost chars = .ok after) :
    after.1.Numbered := by
  simp only [repetition, bind, Except.bind] at read
  split at read
  · cases read
  · rename_i repeated done
    cases read
    exact numbered.repeatLast done

theorem countedRepetition_numbered (numbered : state.Numbered)
    (read : countedRepetition state chars = .ok after) :
    after.1.Numbered := by
  simp only [countedRepetition, bind, Except.bind, throw, throwThe,
    MonadExceptOf.throw] at read
  -- However the counts are written, the last item is repeated at the end.
  repeat' split at read
  all_goals cases read
  all_goals exact numbered.repeatLast ‹_›

/-- No part of a pattern but a group has groups. -/
theorem push_numbered (numbered : state.Numbered) {node : Node}
    (none : node.groups = []) : (state.push node).Numbered :=
  numbered.push (Node.numbered_of_groups none)

theorem groups_primitiveNode (flags : Flags) (primitive : Primitive) :
    (primitiveNode flags primitive).groups = [] := by
  cases primitive <;> rfl

theorem groups_dot {flags : Flags} {node : Node}
    (read : flags.dot = .ok node) : node.groups = [] := by
  unfold Flags.dot at read
  repeat' split at read
  all_goals cases read
  all_goals rfl

theorem part_numbered (numbered : state.Numbered) {char : Char}
    (read : part state char chars = .ok after) : after.1.Numbered := by
  unfold part at read
  simp only [bind, Except.bind] at read
  split at read
  case h_1 => exact openGroup_numbered numbered read
  case h_2 =>
    split at read
    · cases read
    · rename_i closed done
      cases read
      exact numbered.closeGroup done
  case h_3 =>
    cases read
    exact ⟨numbered.level.bar, numbered.outer, numbered.captures⟩
  case h_4 =>
    split at read
    · cases read
    · cases read
      exact push_numbered numbered rfl
  case h_5 => exact repetition_numbered numbered read
  case h_6 => exact repetition_numbered numbered read
  case h_7 => exact repetition_numbered numbered read
  case h_8 => exact countedRepetition_numbered numbered read
  case h_9 =>
    split at read
    · cases read
    · cases read
      exact push_numbered numbered (groups_primitiveNode _ _)
  case h_10 =>
    split at read
    · cases read
    · rename_i node done
      cases read
      exact push_numbered numbered (groups_dot done)
  case h_11 =>
    cases read
    exact push_numbered numbered rfl
  case h_12 =>
    cases read
    exact push_numbered numbered rfl
  case h_13 =>
    cases read
    exact push_numbered numbered rfl

end Parts

theorem loop_numbered {fuel : Nat} {state last : State} {chars : List Char}
    (numbered : state.Numbered) (read : loop fuel state chars = .ok last) :
    last.Numbered := by
  induction fuel generalizing state chars with
  | zero => cases read
  | succ fuel ih =>
      rw [loop] at read
      split at read
      · cases read
        exact numbered
      · rename_i char rest _
        simp only [bind, Except.bind] at read
        cases own : part state char rest with
        | error reason => simp [own] at read
        | ok after =>
            simp only [own] at read
            exact ih (part_numbered numbered own) read

end Reader

/-- The groups of a regular expression are numbered from one on. -/
theorem numbered_of_compile {source : String} {regex : Regex}
    (compiled : compile source = .ok regex) : regex.root.Numbered := by
  have read := (compile_eq_ok_iff.mp compiled).2
  unfold Reader.read at read
  simp only [bind, Except.bind] at read
  cases done : Reader.loop (source.toList.length + 1) {} source.toList with
  | error reason => simp [done] at read
  | ok last =>
      have numbered := Reader.loop_numbered .start done
      simp only [done] at read
      split at read
      · rw [← Except.ok.inj read]
        exact numbered.level.node
      · cases read

end ScenarioRunner.Regex
