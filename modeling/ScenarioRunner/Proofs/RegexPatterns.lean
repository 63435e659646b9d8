import ScenarioRunner.Proofs.RegexWalks

/-!
# Patterns that are put together

Patterns that differ in the numbers and names of their groups only have ways to
the same places.  The ways to match patterns one after the other are put
together from their ways, and a text can only be taken as it is.

The main statements are `Alike.covers` and `Node.walks_text`.
-/

namespace ScenarioRunner.Regex

/-! ## Groups do not matter -/

namespace Way

/-- Where a way leads to another also leads, whatever was captured before. -/
def Covers (way other : Way) : Prop :=
  ∀ ⦃start stop⦄, way start stop → ∀ captures, ∃ more,
    other ⟨start.cursor, captures⟩ ⟨stop.cursor, more⟩

namespace Covers

variable {body copy rest late : Way}

theorem stay : Covers .Stay .Stay := by
  rintro start stop rfl captures
  exact ⟨captures, rfl⟩

theorem trans (first : body.Covers copy) (second : copy.Covers late) :
    body.Covers late := by
  intro start stop walks captures
  obtain ⟨more, copied⟩ := first walks captures
  exact second copied captures

theorem seq (first : body.Covers copy) (second : rest.Covers late) :
    (body.Then rest).Covers (copy.Then late) := by
  rintro start stop ⟨middle, early, others⟩ captures
  obtain ⟨more, copied⟩ := first early captures
  obtain ⟨most, ended⟩ := second others more
  exact ⟨most, _, copied, ended⟩

theorem either (first : body.Covers copy) (second : rest.Covers late) :
    (body.Either rest).Covers (copy.Either late) := by
  rintro start stop (walks | walks) captures
  · obtain ⟨more, copied⟩ := first walks captures
    exact ⟨more, Or.inl copied⟩
  · obtain ⟨more, copied⟩ := second walks captures
    exact ⟨more, Or.inr copied⟩

theorem copies (covers : body.Covers copy) (count : Nat) :
    (Copies body count).Covers (Copies copy count) := by
  intro start stop walks
  induction walks with
  | none place =>
      intro captures
      exact ⟨captures, .none _⟩
  | copy first others ih =>
      intro captures
      obtain ⟨more, copied⟩ := covers first captures
      obtain ⟨most, ended⟩ := ih more
      exact ⟨most, .copy copied ended⟩

theorem upTo (covers : body.Covers copy) (most : Nat) :
    (body.UpTo most).Covers (copy.UpTo most) := by
  rintro start stop ⟨count, few, walks⟩ captures
  obtain ⟨more, copied⟩ := covers.copies count walks captures
  exact ⟨more, count, few, copied⟩

theorem loops (covers : body.Covers copy) (isFirst : Bool) :
    (Loops body isFirst).Covers (Loops copy isFirst) := by
  intro start stop walks
  induction walks with
  | idle copied idles =>
      intro captures
      obtain ⟨more, copied⟩ := covers copied captures
      exact ⟨more, .idle copied idles⟩
  | stop copied advances =>
      intro captures
      obtain ⟨more, copied⟩ := covers copied captures
      exact ⟨more, .stop copied advances⟩
  | more copied advances others ih =>
      intro captures
      obtain ⟨more, copied⟩ := covers copied captures
      obtain ⟨most, ended⟩ := ih more
      exact ⟨most, .more copied advances ended⟩

end Covers

end Way

/-- Two patterns differ in the numbers and names of groups only. -/
inductive Alike : Node → Node → Prop where
  | empty : Alike .empty .empty
  | oneOf (allowed : CharClass) : Alike (.oneOf allowed) (.oneOf allowed)
  | anchor (condition : Anchor) :
      Alike (.anchor condition) (.anchor condition)
  | seq {first second other last : Node} (early : Alike first other)
      (late : Alike second last) : Alike (.seq first second) (.seq other last)
  | alt {first second other last : Node} (left : Alike first other)
      (right : Alike second last) :
      Alike (.alt first second) (.alt other last)
  | repeats {body other : Node} (alike : Alike body other) (atLeast : Nat)
      (atMost : Option Nat) (greedy : Bool) :
      Alike (.repeat body atLeast atMost greedy)
        (.repeat other atLeast atMost greedy)
  | group {body other : Node} (alike : Alike body other)
      (index number : Nat) (name otherName : Option String) :
      Alike (.group index name body) (.group number otherName other)

namespace Alike

theorem refl (node : Node) : Alike node node := by
  induction node with
  | empty => exact .empty
  | oneOf allowed => exact .oneOf allowed
  | anchor condition => exact .anchor condition
  | seq first second firstIH secondIH => exact .seq firstIH secondIH
  | alt first second firstIH secondIH => exact .alt firstIH secondIH
  | «repeat» body atLeast atMost greedy ih =>
      exact .repeats ih atLeast atMost greedy
  | group index name body ih => exact .group ih index index name name

theorem shift (node : Node) (offset : Nat) :
    Alike node (node.shift offset) := by
  induction node with
  | empty => exact .empty
  | oneOf allowed => exact .oneOf allowed
  | anchor condition => exact .anchor condition
  | seq first second firstIH secondIH => exact .seq firstIH secondIH
  | alt first second firstIH secondIH => exact .alt firstIH secondIH
  | «repeat» body atLeast atMost greedy ih =>
      exact .repeats ih atLeast atMost greedy
  | group index name body ih => exact .group ih _ _ _ _

/-- Patterns that are alike have ways to the same places. -/
theorem covers {node other : Node} (alike : Alike node other) :
    node.Walks.Covers other.Walks := by
  induction alike with
  | empty => exact .stay
  | oneOf allowed =>
      rintro start stop ⟨char, cursor, read, member, rfl⟩ captures
      exact ⟨captures, char, cursor, read, member, rfl⟩
  | anchor condition =>
      rintro start stop ⟨holds, rfl⟩ captures
      exact ⟨captures, holds, rfl⟩
  | seq early late earlyIH lateIH => exact earlyIH.seq lateIH
  | alt left right leftIH rightIH => exact leftIH.either rightIH
  | group alike index number name otherName ih =>
      rintro start stop ⟨inner, walks, rfl⟩ captures
      obtain ⟨more, copied⟩ := ih walks captures
      exact ⟨_, _, copied, rfl⟩
  | repeats alike atLeast atMost greedy ih =>
      cases atMost with
      | some atMost => exact (ih.copies atLeast).seq (ih.upTo _)
      | none =>
          cases atLeast with
          | zero => exact (ih.loops true).either .stay
          | succ count => exact (ih.copies count).seq (ih.loops true)

end Alike

/-! ## Patterns one after the other -/

namespace Node

/-- The ways to match patterns one after the other. -/
def WalksAll : List Node → Way
  | [] => .Stay
  | node :: later => node.Walks.Then (WalksAll later)

theorem walks_sequence (nodes : List Node) {start stop : Reach} :
    (sequence nodes).Walks start stop ↔ WalksAll nodes start stop := by
  induction nodes generalizing start with
  | nil => exact Iff.rfl
  | cons node later ih =>
      cases later with
      | nil =>
          constructor
          · intro walks
            exact ⟨stop, walks, rfl⟩
          · rintro ⟨middle, walks, rfl⟩
            exact walks
      | cons second rest =>
          constructor
          · rintro ⟨middle, first, others⟩
            exact ⟨middle, first, ih.mp others⟩
          · rintro ⟨middle, first, others⟩
            exact ⟨middle, first, ih.mpr others⟩

theorem walksAll_append (first second : List Node) {start stop : Reach} :
    WalksAll (first ++ second) start stop ↔
      ∃ middle, WalksAll first start middle ∧ WalksAll second middle stop := by
  induction first generalizing start with
  | nil =>
      constructor
      · intro walks
        exact ⟨start, rfl, walks⟩
      · rintro ⟨middle, rfl, walks⟩
        exact walks
  | cons node later ih =>
      constructor
      · rintro ⟨middle, walks, others⟩
        obtain ⟨last, early, late⟩ := ih.mp others
        exact ⟨last, ⟨middle, walks, early⟩, late⟩
      · rintro ⟨last, ⟨middle, walks, early⟩, late⟩
        exact ⟨middle, walks, ih.mpr ⟨last, early, late⟩⟩

/-- The only way to match a text is to take it. -/
theorem walks_text (chars : List Char) {start stop : Reach} :
    (text chars).Walks start stop ↔
      ∃ rest, start.cursor.after = chars ++ rest ∧
        stop = ⟨⟨chars.reverse ++ start.cursor.before, rest⟩,
          start.captures⟩ := by
  rw [text, walks_sequence]
  induction chars generalizing start with
  | nil =>
      rcases start with ⟨⟨before, after⟩, captures⟩
      simp [WalksAll, Way.Stay]
  | cons char chars ih =>
      rw [List.map_cons]
      constructor
      · rintro ⟨middle, ⟨found, cursor, read, same, rfl⟩, others⟩
        obtain ⟨rest, after, rfl⟩ := ih.mp others
        rw [CharClass.contains_single, beq_iff_eq] at same
        subst same
        rcases start with ⟨⟨before, _ | ⟨first, later⟩⟩, captures⟩
        · cases read
        · cases read
          refine ⟨rest, ?_, ?_⟩
          · simpa using after
          · simp
      · rintro ⟨rest, after, rfl⟩
        rcases start with ⟨⟨before, own⟩, captures⟩
        simp only [List.cons_append] at after
        subst after
        refine ⟨⟨⟨char :: before, chars ++ rest⟩, captures⟩, ?_, ?_⟩
        · exact ⟨char, _, rfl, by simp, rfl⟩
        · refine ih.mpr ⟨rest, rfl, ?_⟩
          simp

end Node

end ScenarioRunner.Regex
