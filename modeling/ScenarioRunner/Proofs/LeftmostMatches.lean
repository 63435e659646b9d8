import ScenarioRunner.Proofs.WordSpans

/-!
# Leftmost matches

Where a match starts, a pattern prefers one of its ways to go on.  A search
from a position on takes the first place at which there is a match, and the
preferred one there; it finds nothing only if there is no such place.

Nothing else is asked of a search (`LeftmostSearch`).  That of a regular
expression is one of them (`Regex.leftmostSearch`).
-/

namespace ScenarioRunner

open Regex (Span)

/-- A search of a text.  At each place of it at most one match is preferred, and
what is found from a position on is the first of these. -/
structure LeftmostSearch (text : List Char) where
  /-- The preferred match at a place, if there is one. -/
  preferred? : Nat → Option Span
  /-- The first match at or behind a position. -/
  find? : Nat → Option Span
  lies : ∀ {place : Nat} {span : Span}, place ≤ text.length →
    preferred? place = some span → span.start = place ∧ span.Lies text place
  leftmost : ∀ {position : Nat}, position ≤ text.length →
    find? position =
      (List.range' position (text.length + 1 - position)).findSome?
        preferred?

namespace LeftmostSearch

variable {text : List Char} {search : LeftmostSearch text}
variable {position : Nat} {span : Span}

/-- A span of a text is what is preferred where the span starts. -/
structure Prefers (search : LeftmostSearch text) (span : Span) : Prop where
  inside : span.start ≤ text.length
  preferred : search.preferred? span.start = some span

theorem Prefers.unique {other : Span} (first : search.Prefers span)
    (second : search.Prefers other) (start : span.start = other.start) :
    span = other := by
  have preferred := first.preferred
  rw [start, second.preferred] at preferred
  exact (Option.some.inj preferred).symm

/-- A preferred match lies in the text. -/
theorem Prefers.lies (prefers : search.Prefers span) :
    span.Lies text span.start :=
  (search.lies prefers.inside prefers.preferred).2

/-- A span is the preferred match at the first place from a position on where
there is any. -/
structure IsLeftmost (search : LeftmostSearch text) (position : Nat)
    (span : Span) : Prop where
  after : position ≤ span.start
  prefers : search.Prefers span
  first : ∀ other, search.Prefers other → position ≤ other.start →
    span.start ≤ other.start

/-- A search finds what is leftmost. -/
theorem isLeftmost_of_find? (inside : position ≤ text.length)
    (found : search.find? position = some span) :
    search.IsLeftmost position span := by
  rw [search.leftmost inside, List.findSome?_eq_some_iff] at found
  obtain ⟨front, place, rest, split, preferred, absent⟩ := found
  obtain ⟨count, -, rfl, tail⟩ := List.range'_eq_append_iff.mp split
  obtain ⟨rfl, nonempty, -⟩ := List.range'_eq_cons_iff.mp tail.symm
  rw [Nat.mul_one] at preferred
  have within : position + count ≤ text.length := by omega
  obtain ⟨start, lies⟩ := search.lies within preferred
  refine ⟨start ▸ Nat.le_add_right position count,
    ⟨start ▸ within, start ▸ preferred⟩, fun other prefers after => ?_⟩
  -- The places in front of the one that is found are those up to it.
  refine Nat.le_of_not_lt fun before => ?_
  have listed : other.start ∈ List.range' position count :=
    List.mem_range'_1.mpr ⟨after, by omega⟩
  have none := absent other.start listed
  rw [prefers.preferred] at none
  cases none

theorem find?_eq_none_iff (inside : position ≤ text.length) :
    search.find? position = none ↔
      ∀ span, search.Prefers span → ¬ position ≤ span.start := by
  rw [search.leftmost inside, List.findSome?_eq_none_iff]
  constructor
  · intro absent span prefers after
    have within := prefers.inside
    have none := absent span.start
      (List.mem_range'_1.mpr ⟨after, by omega⟩)
    rw [prefers.preferred] at none
    cases none
  · intro nowhere place listed
    obtain ⟨after, before⟩ := List.mem_range'_1.mp listed
    have within : place ≤ text.length := by omega
    cases preferred : search.preferred? place with
    | none => rfl
    | some span =>
        obtain ⟨start, -⟩ := search.lies within preferred
        exact absurd (start ▸ after)
          (nowhere span ⟨start ▸ within, start ▸ preferred⟩)

end LeftmostSearch

/-! ## Regular expressions -/

namespace Regex

variable {pattern : Regex} {text : List Char} {position : Nat} {span : Span}

/-- The preferred match at a place, if there is one. -/
def preferredAt? (pattern : Regex) (text : List Char) (position : Nat) :
    Option Span :=
  (pattern.root.matchAt? ((Cursor.start text).advance position)).map
    fun reach => ⟨position, reach.cursor.position⟩

theorem lies_of_preferredAt? (inside : position ≤ text.length)
    (preferred : pattern.preferredAt? text position = some span) :
    span.start = position ∧ span.Lies text position := by
  obtain ⟨reach, matched, rfl⟩ := Option.map_eq_some_iff.mp preferred
  have forward := pattern.root.walks_forward (Node.walks_of_matchAt? matched)
  have whole : reach.cursor.text = text :=
    forward.text.trans (Cursor.text_advance _ _)
  have place : ((Cursor.start text).advance position).position = position := by
    simp [Cursor.advance_start, Cursor.position, inside]
  have ordered := forward.position
  have last := reach.cursor.position_le_length
  rw [place] at ordered
  rw [whole] at last
  exact ⟨rfl, Nat.le_refl _, ordered, last⟩

/-- A search takes the preferred match at its place, or goes on behind the next
character. -/
theorem spanFrom?_eq (pattern : Regex) (inside : position ≤ text.length) :
    pattern.spanFrom? text position =
      (pattern.preferredAt? text position).or
        (if position < text.length then
          pattern.spanFrom? text (position + 1)
        else none) := by
  have place : (text.take position).reverse.length = position := by
    rw [List.length_reverse, List.length_take_of_le inside]
  unfold spanFrom? findFrom? preferredAt?
  rw [Cursor.advance_start, Cursor.advance_start]
  cases after : text.drop position with
  | nil =>
      have last : ¬ position < text.length := by
        rw [List.drop_eq_nil_iff] at after
        omega
      rw [if_neg last, Option.or_none, Node.findFrom?, Option.map_map]
      simp only [Function.comp_def, place]
  | cons char rest =>
      have more : position < text.length := by
        have left := congrArg List.length after
        rw [List.length_drop, List.length_cons] at left
        omega
      have taken : text.take (position + 1) = text.take position ++ [char] := by
        rw [List.take_add, after]
        rfl
      have behind : text.drop (position + 1) = rest := by
        rw [← List.drop_drop, after]
        rfl
      rw [if_pos more, taken, behind, List.reverse_append, Node.findFrom?]
      cases pattern.root.matchAt?
          ⟨(text.take position).reverse, char :: rest⟩ with
      | none => simp
      | some reach => simp [place]

/-- A search looks for a preferred match at one place after the other. -/
theorem spanFrom?_eq_findSome? (inside : position ≤ text.length) :
    pattern.spanFrom? text position =
      (List.range' position (text.length + 1 - position)).findSome?
        (pattern.preferredAt? text) := by
  induction count : text.length - position generalizing position with
  | zero =>
      have last : text.length + 1 - position = 1 := by omega
      rw [spanFrom?_eq pattern inside, if_neg (by omega), last,
        Option.or_none]
      simp
  | succ left ih =>
      have more : position < text.length := by omega
      have places :
          List.range' position (text.length + 1 - position) =
            position ::
              List.range' (position + 1)
                (text.length + 1 - (position + 1)) := by
        have further :
            text.length + 1 - position =
              text.length + 1 - (position + 1) + 1 := by
          omega
        rw [further, List.range'_succ]
      rw [spanFrom?_eq pattern inside, if_pos more, ih more (by omega),
        places, List.findSome?_cons]
      cases pattern.preferredAt? text position <;> rfl

/-- The search for a regular expression. -/
def leftmostSearch (pattern : Regex) (text : List Char) :
    LeftmostSearch text where
  preferred? := pattern.preferredAt? text
  find? := pattern.spanFrom? text
  lies := lies_of_preferredAt?
  leftmost := spanFrom?_eq_findSome?

end Regex

end ScenarioRunner
