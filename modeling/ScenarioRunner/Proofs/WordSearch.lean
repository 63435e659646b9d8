import ScenarioRunner.Proofs.ByteOffsets
import ScenarioRunner.Proofs.LeftmostMatches
import ScenarioRunner.Proofs.WordScan

/-!
# The search for a word

A word is searched for among the matches that a leftmost search prefers.  After
a match that is no word, the search goes on one character behind the start of
it, so no place is left out: what is found is the first word of all preferred
matches.

The same search is carried out on offsets in bytes, where a text can be cut at
the boundaries of its characters only.  It ends, it never has to cut a text
elsewhere, and it finds the same word.

The main statement is `findWord?_searches`.
-/

namespace ScenarioRunner

open Regex (Span)

/-- A span whose ends are given in bytes. -/
def Regex.Span.inBytes (text : List Char) (span : Span) : Span :=
  ⟨Text.byteOffset text span.start, Text.byteOffset text span.stop⟩

namespace Suggestion

open Text (byteCount byteOffset cutAt? IsBoundary)

variable {text : List Char} {search : LeftmostSearch text}
variable {position : Nat} {span : Span}

/-! ## Matches that are tried -/

/-- From a position on, a search rejects some matches one after the other and
then answers. -/
inductive Searched (search : LeftmostSearch text) :
    Nat → List Span → Option Span → Prop where
  | exhausted {position : Nat} (behind : text.length < position) :
      Searched search position [] none
  | absent {position : Nat}
      (nowhere : ∀ span, search.Prefers span → ¬ position ≤ span.start) :
      Searched search position [] none
  | taken {position : Nat} {span : Span}
      (leftmost : search.IsLeftmost position span)
      (word : Delimited text span) :
      Searched search position [] (some span)
  | rejected {position : Nat} {span : Span} {later : List Span}
      {answer : Option Span}
      (leftmost : search.IsLeftmost position span)
      (noWord : ¬ Delimited text span)
      (rest : Searched search (span.start + 1) later answer) :
      Searched search position (span :: later) answer

/-- A span is the first word from a position on among the preferred matches. -/
structure IsFirstWord (search : LeftmostSearch text) (position : Nat)
    (span : Span) : Prop where
  after : position ≤ span.start
  prefers : search.Prefers span
  word : Delimited text span
  first : ∀ other, search.Prefers other → position ≤ other.start →
    Delimited text other → span.start ≤ other.start

theorem IsFirstWord.unique {other : Span}
    (first : IsFirstWord search position span)
    (second : IsFirstWord search position other) : span = other := by
  apply first.prefers.unique second.prefers
  apply Nat.le_antisymm
  · exact first.first other second.prefers second.after second.word
  · exact second.first span first.prefers first.after first.word

namespace Searched

variable {rejected : List Span} {answer : Option Span}

/-- What is rejected are preferred matches that are no words. -/
theorem no_words (searched : Searched search position rejected answer) :
    ∀ span ∈ rejected, position ≤ span.start ∧ search.Prefers span ∧
      ¬ Delimited text span := by
  induction searched with
  | exhausted => exact List.forall_mem_nil _
  | absent => exact List.forall_mem_nil _
  | taken => exact List.forall_mem_nil _
  | rejected leftmost noWord rest ih =>
      rw [List.forall_mem_cons]
      refine ⟨⟨leftmost.after, leftmost.prefers, noWord⟩, ?_⟩
      intro span member
      obtain ⟨after, own⟩ := ih span member
      exact ⟨Nat.le_trans leftmost.after (Nat.le_of_succ_le after), own⟩

/-- Each match starts behind the one before it. -/
theorem pairwise (searched : Searched search position rejected answer) :
    rejected.Pairwise (·.start < ·.start) := by
  induction searched with
  | exhausted => exact .nil
  | absent => exact .nil
  | taken => exact .nil
  | rejected leftmost noWord rest ih =>
      exact .cons (fun span member => (rest.no_words span member).1) ih

/-- No preferred match in front of the answer is left out. -/
theorem complete (searched : Searched search position rejected answer)
    (prefers : search.Prefers span) (after : position ≤ span.start)
    (front : ∀ word ∈ answer, span.start < word.start) : span ∈ rejected := by
  induction searched with
  | exhausted behind =>
      exact absurd (Nat.lt_of_lt_of_le behind after)
        (Nat.not_lt.mpr prefers.inside)
  | absent nowhere => exact absurd after (nowhere span prefers)
  | taken leftmost word =>
      exact absurd (leftmost.first span prefers after)
        (Nat.not_le.mpr (front _ rfl))
  | rejected leftmost noWord rest ih =>
      rcases Nat.eq_or_lt_of_le (leftmost.first span prefers after) with
        same | behind
      · rw [leftmost.prefers.unique prefers same]
        exact List.mem_cons_self
      · exact List.mem_cons_of_mem _ (ih behind front)

theorem isFirstWord {word : Span}
    (searched : Searched search position rejected (some word)) :
    IsFirstWord search position word := by
  generalize same : some word = answer at searched
  induction searched with
  | exhausted => cases same
  | absent => cases same
  | taken leftmost delimited =>
      cases same
      exact ⟨leftmost.after, leftmost.prefers, delimited,
        fun other prefers after _ => leftmost.first other prefers after⟩
  | rejected leftmost noWord rest ih =>
      have own := ih same
      have behind := own.after
      refine ⟨Nat.le_trans leftmost.after (Nat.le_of_succ_le behind),
        own.prefers, own.word, fun other prefers after delimited => ?_⟩
      rcases Nat.eq_or_lt_of_le (leftmost.first other prefers after) with
        start | later
      · rw [leftmost.prefers.unique prefers start] at noWord
        exact absurd delimited noWord
      · exact own.first other prefers later delimited

end Searched

/-- The bound on the number of matches is never reached. -/
theorem searched_findWordWithin {fuel : Nat}
    (enough : text.length < fuel + position) :
    ∃ rejected, Searched search position rejected
      (findWordWithin search.find? text fuel position) := by
  induction fuel generalizing position with
  | zero => exact ⟨[], .exhausted (by omega)⟩
  | succ fuel ih =>
      unfold findWordWithin
      split
      · rename_i behind
        exact ⟨[], .exhausted behind⟩
      · rename_i inside
        have inside := Nat.le_of_not_lt inside
        split
        · rename_i none
          exact ⟨[], .absent ((search.find?_eq_none_iff inside).mp none)⟩
        · rename_i found taken
          have leftmost := search.isLeftmost_of_find? inside taken
          have word := isWordSpan_iff leftmost.prefers.lies.inside
          split
          · rename_i accepted
            exact ⟨[], .taken leftmost (word.mp accepted)⟩
          · rename_i refused
            -- The search goes on further behind, so one match fewer is enough.
            have after := leftmost.after
            have bound : text.length < fuel + (found.start + 1) := by
              omega
            obtain ⟨later, rest⟩ := ih bound
            exact ⟨_, .rejected leftmost (refused ∘ word.mpr) rest⟩

theorem searched_findWord? (search : LeftmostSearch text)
    (position : Nat) :
    ∃ rejected, Searched search position rejected
      (findWord? search.find? text position) :=
  searched_findWordWithin
    (Nat.lt_add_right position (Nat.lt_succ_self text.length))

/-- The first word is found if there is any. -/
theorem findWord?_eq_some_iff :
    findWord? search.find? text position = some span ↔
      IsFirstWord search position span := by
  obtain ⟨rejected, searched⟩ := searched_findWord? search position
  constructor
  · intro found
    rw [found] at searched
    exact searched.isFirstWord
  · intro first
    cases found : findWord? search.find? text position with
    | none =>
        rw [found] at searched
        have member := searched.complete first.prefers first.after nofun
        exact absurd first.word (searched.no_words span member).2.2
    | some other =>
        rw [found] at searched
        rw [first.unique searched.isFirstWord]

/-! ## The search in bytes -/

/-- What a search in bytes does at an offset. -/
inductive ByteMove where
  /-- The text cannot be cut at an offset. -/
  | breaks (offset : Nat)
  | ends (answer : Option Span)
  | restarts (offset : Nat)

/-- The text is cut at an offset; within a character the search breaks off. -/
def ByteMove.cut (text : List Char) (offset : Nat)
    (next : List Char → List Char → ByteMove) : ByteMove :=
  match cutAt? text offset with
  | none => .breaks offset
  | some (front, behind) => next front behind

/-- The first match at or behind an offset is the answer if it is a word; else
the search restarts behind the bytes of its first character. -/
def byteMove (search : LeftmostSearch text) (offset : Nat) : ByteMove :=
  if byteCount text < offset then .ends none
  else
    .cut text offset fun before _ =>
      match search.find? before.length with
      | none => .ends none
      | some found =>
          let span := found.inBytes text
          .cut text span.start fun front rest =>
            .cut text span.stop fun _ behind =>
              if span.start < span.stop && front.getLast?.all isDelimiter &&
                  behind.head?.all isDelimiter then
                .ends (some span)
              else
                .restarts (span.start + (rest.head?.map Char.utf8Size).getD 1)

theorem ByteMove.cut_byteOffset (next : List Char → List Char → ByteMove) :
    cut text (byteOffset text position) next =
      next (text.take position) (text.drop position) := by
  rw [cut, Text.cutAt?_byteOffset]

/-- The offset behind the first character of what starts at a place; behind the
end of the text it is one byte on. -/
def nextOffset (text : List Char) (position : Nat) : Nat :=
  byteOffset text position +
    ((text.drop position).head?.map Char.utf8Size).getD 1

theorem nextOffset_of_lt (inside : position < text.length) :
    nextOffset text position = byteOffset text (position + 1) := by
  have after := List.drop_eq_getElem_cons inside
  rw [nextOffset, Text.byteOffset_succ after, after]
  rfl

theorem nextOffset_of_length_le (behind : text.length ≤ position) :
    nextOffset text position = byteCount text + 1 := by
  rw [nextOffset, Text.byteOffset_of_length_le behind,
    List.drop_of_length_le behind]
  rfl

theorem byteOffset_lt_nextOffset (text : List Char) (position : Nat) :
    byteOffset text position < nextOffset text position := by
  apply Nat.lt_add_of_pos_right
  cases text.drop position with
  | nil => exact Nat.one_pos
  | cons char rest => exact char.utf8Size_pos

theorem byteMove_of_lt {offset : Nat} (behind : byteCount text < offset) :
    byteMove search offset = .ends none :=
  if_pos behind

/-- At a boundary the text can be cut wherever the search has to. -/
theorem byteMove_byteOffset (search : LeftmostSearch text)
    (inside : position ≤ text.length) :
    byteMove search (byteOffset text position) =
      match search.find? position with
      | none => .ends none
      | some found =>
          if isWordSpan text found then .ends (some (found.inBytes text))
          else .restarts (nextOffset text found.start) := by
  have bound := Text.byteOffset_le_byteCount text position
  rw [byteMove, if_neg (Nat.not_lt.mpr bound), ByteMove.cut_byteOffset,
    List.length_take_of_le inside]
  cases taken : search.find? position with
  | none => rfl
  | some found =>
      have own := (search.isLeftmost_of_find? inside taken).prefers.lies.inside
      simp only [Span.inBytes, ByteMove.cut_byteOffset,
        Text.byteOffset_lt_iff own]
      rfl

/-- A search that restarts has moved on. -/
theorem lt_of_byteMove {offset next : Nat}
    (move : byteMove search offset = .restarts next) :
    offset ≤ byteCount text ∧ offset < next := by
  have within : ¬ byteCount text < offset := by
    intro behind
    rw [byteMove_of_lt behind] at move
    cases move
  refine ⟨Nat.le_of_not_lt within, ?_⟩
  -- Elsewhere than at a boundary the search breaks off at once.
  have boundary : IsBoundary text offset := by
    rw [← Text.isSome_cutAt?_iff]
    cases cut : cutAt? text offset with
    | none => simp [byteMove, within, ByteMove.cut, cut] at move
    | some parts => rfl
  obtain ⟨position, inside, rfl⟩ := Text.isBoundary_iff.mp boundary
  rw [byteMove_byteOffset search inside] at move
  split at move
  · cases move
  · rename_i found taken
    have after := (search.isLeftmost_of_find? inside taken).after
    split at move
    · cases move
    · cases move
      exact Nat.lt_of_le_of_lt (Text.byteOffset_mono text after)
        (byteOffset_lt_nextOffset _ _)

/-- The first word at or behind an offset in bytes, or the offset within a
character at which the search breaks off. -/
def searchBytes (search : LeftmostSearch text) (offset : Nat) :
    Except Nat (Option Span) :=
  match _ : byteMove search offset with
  | .breaks place => .error place
  | .ends answer => .ok answer
  | .restarts next => searchBytes search next
termination_by byteCount text + 1 - offset
decreasing_by
  have progress := lt_of_byteMove (by assumption)
  omega

theorem searchBytes_of_ends {offset : Nat} {answer : Option Span}
    (move : byteMove search offset = .ends answer) :
    searchBytes search offset = .ok answer := by
  rw [searchBytes]
  split <;> simp_all

theorem searchBytes_of_restarts {offset next : Nat}
    (move : byteMove search offset = .restarts next) :
    searchBytes search offset = searchBytes search next := by
  rw [searchBytes]
  split <;> simp_all

theorem findWordWithin_of_lt (fuel : Nat) (behind : text.length < position) :
    findWordWithin search.find? text fuel position = none := by
  cases fuel with
  | zero => rfl
  | succ fuel => exact if_pos behind

/-- The search in bytes ends with the word that the search by positions
finds. -/
theorem searchBytes_byteOffset {fuel : Nat} (inside : position ≤ text.length)
    (enough : text.length < fuel + position) :
    searchBytes search (byteOffset text position) =
      .ok ((findWordWithin search.find? text fuel position).map
        (·.inBytes text)) := by
  induction fuel generalizing position with
  | zero => omega
  | succ fuel ih =>
      have move := byteMove_byteOffset search inside
      rw [findWordWithin, if_neg (Nat.not_lt.mpr inside)]
      cases taken : search.find? position with
      | none =>
          rw [taken] at move
          exact searchBytes_of_ends move
      | some found =>
          rw [taken] at move
          have leftmost := search.isLeftmost_of_find? inside taken
          have after := leftmost.after
          by_cases word : isWordSpan text found = true
          · simp only [word, if_true] at move ⊢
            exact searchBytes_of_ends move
          · simp only [word, if_false, Bool.false_eq_true] at move ⊢
            rw [searchBytes_of_restarts move]
            by_cases more : found.start < text.length
            · rw [nextOffset_of_lt more]
              exact ih more (by omega)
            · -- The match is empty and stands at the end of the text.
              have last := Nat.le_of_not_lt more
              rw [nextOffset_of_length_le last,
                findWordWithin_of_lt fuel (Nat.lt_succ_of_le last)]
              exact searchBytes_of_ends (byteMove_of_lt (Nat.lt_succ_self _))

/--
From every boundary of a text the search for a word ends: in bytes it never has
to cut the text within a character, and it finds the word that is found by
positions.  The matches that are tried are the leftmost ones from the position
on and then from one character behind the start of each that is rejected.  What
is found is the first word of all preferred matches from the position on, and
its ends are boundaries again; nothing is found only if all of them are
rejected.

The word of a type (`typeWord?`) is the one that the leftmost search for its
pattern finds.
-/
theorem findWord?_searches {text : List Char} (search : LeftmostSearch text)
    {offset : Nat} (boundary : IsBoundary text offset) :
    ∃ position rejected,
      position ≤ text.length ∧ byteOffset text position = offset ∧
        searchBytes search offset =
          .ok ((findWord? search.find? text position).map (·.inBytes text)) ∧
        Searched search position rejected
          (findWord? search.find? text position) ∧
        rejected.Pairwise (·.start < ·.start) ∧
        (∀ span ∈ rejected, ¬ Delimited text span) ∧
        (∀ span, findWord? search.find? text position = some span ↔
          IsFirstWord search position span) ∧
        (∀ span ∈ findWord? search.find? text position,
          IsBoundary text (span.inBytes text).start ∧
            IsBoundary text (span.inBytes text).stop) ∧
        (findWord? search.find? text position = none ↔
          ∀ span, search.Prefers span → position ≤ span.start →
            span ∈ rejected) := by
  obtain ⟨position, inside, rfl⟩ := Text.isBoundary_iff.mp boundary
  obtain ⟨rejected, searched⟩ := searched_findWord? search position
  refine ⟨position, rejected, inside, rfl,
    searchBytes_byteOffset inside (by omega), searched, searched.pairwise,
    fun span member => (searched.no_words span member).2.2,
    fun span => findWord?_eq_some_iff, fun span _ =>
      ⟨Text.isBoundary_byteOffset _ _, Text.isBoundary_byteOffset _ _⟩, ?_⟩
  constructor
  · intro nothing span prefers after
    refine searched.complete prefers after fun word found => ?_
    rw [nothing] at found
    cases found
  · intro all
    cases found : findWord? search.find? text position with
    | none => rfl
    | some word =>
        have first := findWord?_eq_some_iff.mp found
        have member := all word first.prefers first.after
        exact absurd first.word (searched.no_words word member).2.2

end Suggestion

namespace Sample

open Suggestion

/-- The search for fives, of which there may be none, in a text that starts with
a character of two bytes. -/
def fives : LeftmostSearch "é5 5".toList :=
  (Regex.ofSource "5*").leftmostSearch _

/-- Behind the first character, a match within a word and an empty one are
rejected before a word is found. -/
theorem accented_searches :
    Text.IsBoundary "é5 5".toList 2 ∧
      findWord? fives.find? "é5 5".toList 1 = some ⟨3, 4⟩ ∧
      searchBytes fives 2 = .ok (some ⟨4, 5⟩) := by
  have boundary : Text.IsBoundary "é5 5".toList 2 :=
    Text.isBoundary_iff.mpr ⟨1, by decide, by decide +kernel⟩
  have found : findWord? fives.find? "é5 5".toList 1 = some ⟨3, 4⟩ := by
    decide +kernel
  have only : ∀ position ≤ "é5 5".toList.length,
      Text.byteOffset "é5 5".toList position = 2 → position = 1 := by
    decide +kernel
  obtain ⟨position, rejected, inside, place, bytes, -⟩ :=
    findWord?_searches fives boundary
  rw [only position inside place, found] at bytes
  have ends : Span.inBytes "é5 5".toList ⟨3, 4⟩ = ⟨4, 5⟩ := by
    decide +kernel
  rw [Option.map_some, ends] at bytes
  exact ⟨boundary, found, bytes⟩

end Sample

end ScenarioRunner
