import ScenarioRunner.Expression.Suggestion
import ScenarioRunner.Proofs.RegexWalks

/-!
# Words of a step text

Suggestions replace words of a step text, which are found from left to right.
Each word is a span that the patterns of all its types match in its place, it
is not empty, and it starts at or behind the end of the word before.

The main statement is `slots_placed`.
-/

namespace ScenarioRunner

open Regex

/-! ## Spans that a pattern matches -/

/-- A pattern matches a span of a text in its place. -/
def Regex.Matches (pattern : Regex) (text : List Char) (span : Span) : Prop :=
  ∃ captures,
    pattern.root.Walks ⟨(Cursor.start text).advance span.start, []⟩
      ⟨(Cursor.start text).advance span.stop, captures⟩

/-- A span of a text from a position on. -/
structure Regex.Span.Lies (span : Span) (text : List Char)
    (position : Nat) : Prop where
  after : position ≤ span.start
  ordered : span.start ≤ span.stop
  inside : span.stop ≤ text.length

/-- What is found is a match of the pattern behind the given position. -/
theorem Regex.matches_of_findFrom? {pattern : Regex} {text : List Char}
    {position : Nat} {found : Match} (bound : position ≤ text.length)
    (search : pattern.findFrom? text position = some found) :
    found.whole.Lies text position ∧ pattern.Matches text found.whole := by
  obtain ⟨start, stop, precedes, walks, whole⟩ :=
    Node.exists_of_findFrom? search
  have forward : start.Precedes stop := pattern.root.walks_forward walks
  have here : ((Cursor.start text).advance position).position = position := by
    simp [Cursor.advance_start, Cursor.position, bound]
  have ownText : ((Cursor.start text).advance position).text = text :=
    Cursor.text_advance _ _
  have startText : start.text = text := precedes.text.trans ownText
  have stopText : stop.text = text := forward.text.trans startText
  rw [whole]
  constructor
  · constructor
    · exact here ▸ precedes.position
    · exact forward.position
    · exact stopText ▸ stop.position_le_length
  · refine ⟨found.captures, ?_⟩
    have startPlace := start.eq_advance
    have stopPlace := stop.eq_advance
    rw [startText] at startPlace
    rw [stopText] at stopPlace
    rwa [← startPlace, ← stopPlace]

namespace Suggestion

/-- A span from a position on is a word that a pattern matches. -/
structure IsWordOf (pattern : Regex) (text : List Char) (position : Nat)
    (span : Span) : Prop where
  lies : span.Lies text position
  word : isWordSpan text span = true
  matched : pattern.Matches text span

theorem findWordWithin_isWordOf {pattern : Regex} {text : List Char}
    {fuel position : Nat} {span : Span}
    (found :
      findWordWithin (pattern.spanFrom? text) text fuel position =
        some span) :
    IsWordOf pattern text position span := by
  induction fuel generalizing position with
  | zero => cases found
  | succ fuel ih =>
      unfold findWordWithin at found
      split at found
      · cases found
      · rename_i bound
        split at found
        · cases found
        · rename_i candidate taken
          obtain ⟨whole, search, rfl⟩ := Option.map_eq_some_iff.mp taken
          obtain ⟨lies, matched⟩ :=
            matches_of_findFrom? (Nat.le_of_not_lt bound) search
          split at found
          · rename_i word
            cases found
            exact ⟨lies, word, matched⟩
          · have later := ih found
            have front := later.lies.after
            refine ⟨⟨?_, later.lies.ordered, later.lies.inside⟩, later.word,
              later.matched⟩
            exact Nat.le_trans lies.after (Nat.le_of_succ_le front)

theorem isWordOf_of_typeWord? {type : ParameterType} {text : List Char}
    {position : Nat} {span : Span}
    (found : typeWord? type text position = some span) :
    IsWordOf type.pattern text position span :=
  findWordWithin_isWordOf found

/-! ## Slots -/

/-- The words of a text from a position on, each with some types, all of which
match it. -/
inductive Placed (types : List ParameterType) (text : List Char) :
    Nat → List Slot → Prop where
  | last (position : Nat) : Placed types text position []
  | next {position : Nat} {slot : Slot} {later : List Slot}
      (nonempty : slot.types ≠ [])
      (words : ∀ type ∈ slot.types, type ∈ types ∧
        IsWordOf type.pattern text position slot.span)
      (rest : Placed types text slot.span.stop later) :
      Placed types text position (slot :: later)

theorem best?_mem {spans : List Span} {span : Span}
    (best : best? spans = some span) : span ∈ spans := by
  induction spans generalizing span with
  | nil => cases best
  | cons first later ih =>
      unfold best? at best
      split at best
      · cases best
        exact List.mem_cons_self
      · rename_i other found
        split at best
        · cases best
          exact List.mem_cons_of_mem _ (ih found)
        · cases best
          exact List.mem_cons_self

theorem words_of_nextSlot? {types : List ParameterType} {text : List Char}
    {position : Nat} {slot : Slot}
    (found : nextSlot? types text position = some slot) :
    slot.types ≠ [] ∧
      ∀ type ∈ slot.types, type ∈ types ∧
        IsWordOf type.pattern text position slot.span := by
  unfold nextSlot? at found
  obtain ⟨span, best, rfl⟩ := Option.map_eq_some_iff.mp found
  constructor
  · obtain ⟨pair, member, same⟩ := List.mem_map.mp (best?_mem best)
    apply List.ne_nil_of_mem
    apply List.mem_map_of_mem (a := pair)
    rw [List.mem_filter]
    exact ⟨member, by simpa using same⟩
  · intro type member
    obtain ⟨pair, kept, rfl⟩ := List.mem_map.mp member
    obtain ⟨listed, same⟩ := List.mem_filter.mp kept
    obtain ⟨known, among, search⟩ := List.mem_filterMap.mp listed
    obtain ⟨word, searched, rfl⟩ := Option.map_eq_some_iff.mp search
    have equal : word = span := by simpa using same
    subst equal
    exact ⟨among, isWordOf_of_typeWord? searched⟩

theorem slotsWithin_placed (types : List ParameterType) (text : List Char)
    (fuel position : Nat) :
    Placed types text position (slotsWithin types text fuel position) := by
  induction fuel generalizing position with
  | zero => exact .last position
  | succ fuel ih =>
      unfold slotsWithin
      split
      · exact .last position
      · rename_i slot found
        obtain ⟨nonempty, words⟩ := words_of_nextSlot? found
        exact .next nonempty words (ih _)

/-- The words that are replaced follow each other, and the types of a word
match it. -/
theorem slots_placed (types : List ParameterType) (text : List Char) :
    Placed types text 0 (slots types text) :=
  slotsWithin_placed types text _ 0

end Suggestion

end ScenarioRunner
