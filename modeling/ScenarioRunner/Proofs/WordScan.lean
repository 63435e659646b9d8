import ScenarioRunner.Proofs.WordSpans

/-!
# The scan for words

The words of a step text are taken from left to right.  Behind the word before,
the next one is that of the words which the types find that starts first, of
several the longest.  The scan ends where no type finds a word, not earlier: a
word takes at least one character, so the bound on the number of words is never
reached.

The main statements are `scanned_slots` and `Scanned.unique`.
-/

namespace ScenarioRunner.Suggestion

open Regex

variable {types : List ParameterType} {text : List Char}

/-! ## The leading span -/

/-- A span starts before another, or with it and is not shorter. -/
def Leads (span other : Span) : Prop :=
  span.start < other.start ∨
    span.start = other.start ∧ other.stop ≤ span.stop

namespace Leads

variable {first second third : Span}

theorem refl (span : Span) : Leads span span :=
  .inr ⟨rfl, Nat.le_refl _⟩

theorem trans (early : Leads first second) (late : Leads second third) :
    Leads first third := by
  unfold Leads at *
  omega

/-- Of two spans one leads. -/
theorem of_isBetter (better : isBetter first second = true) :
    Leads first second := by
  unfold isBetter at better
  unfold Leads
  grind

theorem of_not_isBetter (worse : isBetter first second = false) :
    Leads second first := by
  unfold isBetter at worse
  unfold Leads
  grind

/-- Spans that lead each other are the same. -/
theorem antisymm (early : Leads first second)
    (late : Leads second first) : first = second := by
  unfold Leads at early late
  cases first
  cases second
  grind

end Leads

theorem best?_eq_none_iff {spans : List Span} :
    best? spans = none ↔ spans = [] := by
  cases spans with
  | nil => exact iff_of_true rfl rfl
  | cons span later =>
      refine iff_of_false ?_ (List.cons_ne_nil _ _)
      unfold best?
      split
      · exact Option.some_ne_none _
      · split <;> exact Option.some_ne_none _

/-- The best span leads all others. -/
theorem leads_of_best? {spans : List Span} {span : Span}
    (best : best? spans = some span) : ∀ other ∈ spans, Leads span other := by
  induction spans generalizing span with
  | nil => exact nofun
  | cons first later ih =>
      rw [List.forall_mem_cons]
      unfold best? at best
      split at best
      · rename_i none
        cases best
        rw [best?_eq_none_iff] at none
        subst none
        exact ⟨.refl _, List.forall_mem_nil _⟩
      · rename_i other found
        have leading := ih found
        split at best
        · rename_i better
          cases best
          exact ⟨.of_isBetter better, leading⟩
        · rename_i worse
          cases best
          rw [Bool.not_eq_true] at worse
          have leads := Leads.of_not_isBetter worse
          exact ⟨.refl _, fun last member => leads.trans (leading last member)⟩

/-! ## The next word -/

/-- A type finds a word behind a position. -/
def Finds (text : List Char) (position : Nat) (type : ParameterType)
    (span : Span) : Prop :=
  typeWord? type text position = some span

/-- The types whose first word behind a position is a span. -/
def typesAt (types : List ParameterType) (text : List Char) (position : Nat)
    (span : Span) : List ParameterType :=
  types.filter fun type => typeWord? type text position == some span

/-- A span is the word that a scan takes behind a position. -/
structure IsNext (types : List ParameterType) (text : List Char)
    (position : Nat) (span : Span) : Prop where
  found : ∃ type ∈ types, Finds text position type span
  leads : ∀ type ∈ types, ∀ other, Finds text position type other →
    Leads span other

theorem IsNext.unique {position : Nat} {first second : Span}
    (early : IsNext types text position first)
    (late : IsNext types text position second) : first = second := by
  obtain ⟨one, oneMember, oneFinds⟩ := early.found
  obtain ⟨other, otherMember, otherFinds⟩ := late.found
  exact (early.leads other otherMember second otherFinds).antisymm
    (late.leads one oneMember first oneFinds)

/-- What the types find behind a position. -/
def candidates (types : List ParameterType) (text : List Char)
    (position : Nat) : List (ParameterType × Span) :=
  types.filterMap fun type =>
    (typeWord? type text position).map fun span => (type, span)

theorem mem_candidates {position : Nat} {type : ParameterType} {span : Span} :
    (type, span) ∈ candidates types text position ↔
      type ∈ types ∧ Finds text position type span := by
  unfold candidates Finds
  rw [List.mem_filterMap]
  constructor
  · rintro ⟨other, member, made⟩
    obtain ⟨found, search, same⟩ := Option.map_eq_some_iff.mp made
    cases same
    exact ⟨member, search⟩
  · rintro ⟨member, search⟩
    exact ⟨type, member, by rw [search]; rfl⟩

theorem map_fst_filter_candidates (position : Nat) (span : Span) :
    ((candidates types text position).filter (·.2 == span)).map (·.1) =
      typesAt types text position span := by
  unfold candidates typesAt
  induction types with
  | nil => rfl
  | cons type later ih =>
      cases search : typeWord? type text position with
      | none => simpa [search] using ih
      | some found =>
          by_cases same : found = span
          · simpa [search, same] using ih
          · simpa [search, same] using ih

theorem nextSlot?_eq_none_iff {position : Nat} :
    nextSlot? types text position = none ↔
      ∀ type ∈ types, typeWord? type text position = none := by
  change (best? ((candidates types text position).map (·.2))).map _ = none ↔ _
  rw [Option.map_eq_none_iff, best?_eq_none_iff, List.map_eq_nil_iff,
    candidates, List.filterMap_eq_nil_iff]
  simp only [Option.map_eq_none_iff]

theorem isNext_of_nextSlot? {position : Nat} {slot : Slot}
    (found : nextSlot? types text position = some slot) :
    IsNext types text position slot.span ∧
      slot.types = typesAt types text position slot.span := by
  obtain ⟨span, best, rfl⟩ := Option.map_eq_some_iff.mp found
  change best? ((candidates types text position).map (·.2)) = some span
    at best
  refine ⟨⟨?_, ?_⟩, map_fst_filter_candidates position span⟩
  · obtain ⟨⟨type, own⟩, member, rfl⟩ := List.mem_map.mp (best?_mem best)
    exact ⟨type, mem_candidates.mp member⟩
  · intro type member other finds
    apply leads_of_best? best
    exact List.mem_map_of_mem (mem_candidates.mpr ⟨member, finds⟩)

/-! ## The whole scan -/

/-- The words that a scan takes from a position on. -/
inductive Scanned (types : List ParameterType) (text : List Char) :
    Nat → List Span → Prop where
  | last {position : Nat}
      (none : ∀ type ∈ types, typeWord? type text position = none) :
      Scanned types text position []
  | next {position : Nat} {span : Span} {later : List Span}
      (leading : IsNext types text position span)
      (rest : Scanned types text span.stop later) :
      Scanned types text position (span :: later)

/-- Behind each word, the types whose word is the one that a scan takes. -/
def typesAlong (types : List ParameterType) (text : List Char) :
    Nat → List Span → List (List ParameterType)
  | _, [] => []
  | position, span :: later =>
      typesAt types text position span :: typesAlong types text span.stop later

/-- A word is a span of at least one character between two ends of words. -/
structure Delimited (text : List Char) (span : Span) : Prop where
  nonempty : span.start < span.stop
  inside : span.stop ≤ text.length
  before : ∀ front char, text.take span.start = front ++ [char] →
    isDelimiter char = true
  behind : ∀ char rest, text.drop span.stop = char :: rest →
    isDelimiter char = true

theorem isWordSpan_iff {span : Span} (inside : span.stop ≤ text.length) :
    isWordSpan text span = true ↔ Delimited text span := by
  unfold isWordSpan
  simp only [Bool.and_eq_true, decide_eq_true_eq]
  constructor
  · rintro ⟨⟨nonempty, before⟩, behind⟩
    refine ⟨nonempty, inside, ?_, ?_⟩
    · intro front char split
      rw [split, List.getLast?_concat] at before
      exact before
    · intro char rest split
      rw [split] at behind
      exact behind
  · intro delimited
    refine ⟨⟨delimited.nonempty, ?_⟩, ?_⟩
    · rcases List.eq_nil_or_concat (text.take span.start) with
        none | ⟨front, char, split⟩
      · rw [none]
        rfl
      · rw [List.concat_eq_append] at split
        rw [split, List.getLast?_concat]
        exact delimited.before front char split
    · cases split : text.drop span.stop with
      | nil => rfl
      | cons char rest => exact delimited.behind char rest split

theorem IsNext.delimited {position : Nat} {span : Span}
    (leading : IsNext types text position span) :
    position ≤ span.start ∧ Delimited text span := by
  obtain ⟨type, -, finds⟩ := leading.found
  have own := isWordOf_of_typeWord? finds
  exact ⟨own.lies.after, (isWordSpan_iff own.lies.inside).mp own.word⟩

namespace Scanned

variable {position : Nat} {spans : List Span}

/-- A text is scanned in one way. -/
theorem unique {others : List Span} (scanned : Scanned types text position spans)
    (other : Scanned types text position others) : spans = others := by
  induction scanned generalizing others with
  | last none =>
      cases other with
      | last => rfl
      | next leading rest =>
          obtain ⟨type, member, finds⟩ := leading.found
          rw [Finds, none type member] at finds
          cases finds
  | next leading rest ih =>
      cases other with
      | last none =>
          obtain ⟨type, member, finds⟩ := leading.found
          rw [Finds, none type member] at finds
          cases finds
      | next second others =>
          obtain rfl := leading.unique second
          rw [ih others]

theorem delimited (scanned : Scanned types text position spans) :
    ∀ span ∈ spans, position ≤ span.start ∧ Delimited text span := by
  induction scanned with
  | last none => exact List.forall_mem_nil _
  | @next position span later leading rest ih =>
      obtain ⟨after, own⟩ := leading.delimited
      rw [List.forall_mem_cons]
      refine ⟨⟨after, own⟩, fun other member => ?_⟩
      obtain ⟨behind, delimited⟩ := ih other member
      have nonempty := own.nonempty
      exact ⟨by omega, delimited⟩

/-- Words follow each other. -/
theorem pairwise (scanned : Scanned types text position spans) :
    spans.Pairwise fun span later => span.stop ≤ later.start := by
  induction scanned with
  | last none => exact .nil
  | next leading rest ih =>
      exact .cons (fun other member => (rest.delimited other member).1) ih

end Scanned

theorem scanned_slotsWithin {fuel position : Nat}
    (inside : position ≤ text.length)
    (enough : text.length < fuel + position) :
    Scanned types text position
        ((slotsWithin types text fuel position).map (·.span)) ∧
      (slotsWithin types text fuel position).map (·.types) =
        typesAlong types text position
          ((slotsWithin types text fuel position).map (·.span)) := by
  induction fuel generalizing position with
  | zero => omega
  | succ fuel ih =>
      unfold slotsWithin
      split
      · rename_i none
        exact ⟨.last (nextSlot?_eq_none_iff.mp none), rfl⟩
      · rename_i slot found
        obtain ⟨leading, own⟩ := isNext_of_nextSlot? found
        obtain ⟨after, delimited⟩ := leading.delimited
        have nonempty := delimited.nonempty
        -- The rest of the text is shorter, so one word fewer is enough.
        obtain ⟨rest, later⟩ := ih delimited.inside (by omega)
        refine ⟨.next leading rest, ?_⟩
        rw [List.map_cons, List.map_cons, typesAlong, own, later]

/-- The words that are replaced in a text are all that the scan takes, and each
may be replaced by the types whose word it is. -/
theorem scanned_slots (types : List ParameterType) (text : List Char) :
    Scanned types text 0 ((slots types text).map (·.span)) ∧
      (slots types text).map (·.types) =
        typesAlong types text 0 ((slots types text).map (·.span)) :=
  scanned_slotsWithin (Nat.zero_le _) (Nat.lt_succ_self _)

end ScenarioRunner.Suggestion
