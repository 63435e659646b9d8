import Mathlib.Algebra.BigOperators.Group.List.Basic
import Mathlib.Data.List.Basic
import Mathlib.Data.List.Nodup
import ScenarioRunner.Proofs.SuggestionUse
import ScenarioRunner.Proofs.WordScan

/-!
# Which expressions are suggested

The words that a scan takes in a step text cut the text into literal parts.  A
suggestion puts, for every word, a placeholder of one of the types whose word it
is, and a backslash before every character of a literal part that would mean
something in an expression.  All choices of types are made in the order of
registration, the last word changing fastest, up to a limit.

The main statement is `generate_scans`.
-/

namespace ScenarioRunner

open Regex

namespace Suggestion

/-! ## All choices -/

section Choices

variable {Member : Type}

/-- All choices of one member from each list, the last one changing
fastest. -/
def choices : List (List Member) → List (List Member)
  | [] => [[]]
  | members :: later =>
      members.flatMap fun member => (choices later).map (member :: ·)

theorem mem_choices {lists : List (List Member)} {choice : List Member} :
    choice ∈ choices lists ↔ List.Forall₂ (· ∈ ·) choice lists := by
  induction lists generalizing choice with
  | nil => simp [choices]
  | cons members later ih =>
      rw [choices, List.mem_flatMap, List.forall₂_cons_right_iff]
      constructor
      · rintro ⟨member, among, made⟩
        obtain ⟨rest, chosen, rfl⟩ := List.mem_map.mp made
        exact ⟨member, rest, among, ih.mp chosen, rfl⟩
      · rintro ⟨member, rest, among, chosen, rfl⟩
        exact ⟨member, among, List.mem_map_of_mem (ih.mpr chosen)⟩

theorem length_choices (lists : List (List Member)) :
    (choices lists).length = (lists.map List.length).prod := by
  induction lists with
  | nil => rfl
  | cons members later ih =>
      rw [choices, List.length_flatMap, List.map_cons, List.prod_cons, ← ih]
      simp

/-- Choices are ordered by the first list from which they take different
members. -/
theorem pairwise_choices {earlier : Member → Member → Prop}
    {lists : List (List Member)}
    (ordered : ∀ members ∈ lists, members.Pairwise earlier) :
    (choices lists).Pairwise (List.Lex earlier) := by
  induction lists with
  | nil => exact List.pairwise_singleton _ _
  | cons members later ih =>
      rw [List.forall_mem_cons] at ordered
      rw [choices, List.pairwise_flatMap]
      constructor
      · intro member among
        rw [List.pairwise_map]
        exact (ih ordered.2).imp .cons
      · refine ordered.1.imp ?_
        intro first second before choice chosen other among
        obtain ⟨rest, -, rfl⟩ := List.mem_map.mp chosen
        obtain ⟨last, -, rfl⟩ := List.mem_map.mp among
        exact .rel before

theorem take_flatMap_take {Made : Type} {count limit : Nat}
    (within : count ≤ limit) (members : List Member)
    (make : Member → List Made) :
    (members.flatMap fun member => (make member).take limit).take count =
      (members.flatMap make).take count := by
  induction members generalizing count with
  | nil => rfl
  | cons member later ih =>
      rw [List.flatMap_cons, List.flatMap_cons, List.take_append,
        List.take_append, List.take_take, Nat.min_eq_left within,
        ih (Nat.le_trans (Nat.sub_le _ _) within), List.length_take]
      congr 2
      omega

/-- The first choices are a start of all choices. -/
theorem firstChoices_eq_take {count : Nat} (positive : 0 < count)
    (lists : List (List Member)) :
    firstChoices count lists = (choices lists).take count := by
  induction lists with
  | nil =>
      rw [firstChoices, choices, List.take_of_length_le]
      exact positive
  | cons members later ih =>
      rw [firstChoices, choices, ih]
      simp only [List.map_take]
      exact take_flatMap_take (Nat.le_refl _) _ _

end Choices

/-! ## Parts of a text and what stands between them -/

/-- Parts with insertions between them. -/
def weave : List (List Char) → List (List Char) → List Char
  | [], _ => []
  | part :: parts, [] => part ++ weave parts []
  | part :: parts, inserted :: later => part ++ inserted ++ weave parts later

/-- A placeholder of a type. -/
def placeholder (type : ParameterType) : List Char :=
  '\x7B' :: type.name.toList ++ ['\x7D']

theorem interleave_eq_weave (parts : List (List Char))
    (types : List ParameterType) :
    interleave parts types =
      weave (parts.map escape) (types.map placeholder) := by
  fun_induction interleave parts types with
  | case1 => rfl
  | case2 part parts ih => rw [ih]; rfl
  | case3 part parts type types ih =>
      rw [ih, List.map_cons, List.map_cons, weave, placeholder]
      simp

/-- The literal parts with the words between them are the text. -/
theorem weave_literals {text : List Char} {position : Nat}
    {spans : List Span} (nonempty : ∀ span ∈ spans,
      position ≤ span.start ∧ Delimited text span)
    (apart : spans.Pairwise fun span later => span.stop ≤ later.start) :
    weave (literals text position spans) (spans.map (·.of text)) =
      text.drop position := by
  induction spans generalizing position with
  | nil => simp [literals, weave]
  | cons span later ih =>
      obtain ⟨⟨after, own⟩, others⟩ := List.forall_mem_cons.mp nonempty
      obtain ⟨behind, apart⟩ := List.pairwise_cons.mp apart
      have rest := ih (fun other member =>
        ⟨behind other member, (others other member).2⟩) apart
      have cut (first second : Nat) (ordered : first ≤ second) :
          (Span.mk first second).of text ++ text.drop second =
            text.drop first := by
        obtain ⟨count, rfl⟩ := Nat.exists_eq_add_of_le ordered
        rw [Span.of, Nat.add_sub_cancel_left, ← List.drop_drop,
          List.take_append_drop]
      rw [literals, List.map_cons, weave, rest, List.append_assoc,
        cut span.start span.stop (Nat.le_of_lt own.nonempty),
        cut position span.start after]

/-! ## Escaped text -/

/-- Whether a backslash is put before a character. -/
def isEscaped (char : Char) : Bool :=
  char == '(' || char == '\x7B' || char == '/'

/-- A text without the backslashes that are put before characters. -/
def unescape : List Char → List Char
  | [] => []
  | [char] => [char]
  | char :: next :: rest =>
      if char == '\\' && isEscaped next then next :: unescape rest
      else char :: unescape (next :: rest)

theorem escape_cons (char : Char) (rest : List Char) :
    escape (char :: rest) =
      if isEscaped char then '\\' :: char :: escape rest
      else char :: escape rest := by
  change (if isEscaped char then ['\\', char] else [char]) ++ escape rest = _
  split <;> rfl

/-- No backslash in front of an escaped text belongs to the text: it starts with
a character that needs none, or with a backslash of its own. -/
theorem unescape_cons_escape (char : Char) (text : List Char) :
    unescape (char :: escape text) = char :: unescape (escape text) := by
  cases text with
  | nil => rfl
  | cons first rest =>
      rw [escape_cons]
      cases special : isEscaped first with
      | true =>
          rw [if_pos rfl, unescape]
          simp [isEscaped]
      | false =>
          rw [if_neg Bool.false_ne_true, unescape]
          simp [special]

/-- Taking the backslashes away gives the text back. -/
theorem unescape_escape (text : List Char) : unescape (escape text) = text := by
  induction text with
  | nil => rfl
  | cons first rest ih =>
      rw [escape_cons]
      cases special : isEscaped first with
      | true =>
          rw [if_pos rfl, unescape]
          simp [special, ih]
      | false =>
          rw [if_neg Bool.false_ne_true, unescape_cons_escape, ih]

/-! ## Names of arguments -/

/-- The name of an occurrence; the first one has no number. -/
def numbered (name : String) (occurrence : Nat) : String :=
  if occurrence = 1 then name else s!"{name}{occurrence}"

/-- Each name is numbered by how often it occurs up to there. -/
theorem getElem?_numberNames (earlier names : List String) (index : Nat) :
    (numberNames earlier names)[index]? =
      names[index]?.map fun name =>
        numbered name
          (earlier.count name + (names.take (index + 1)).count name) := by
  induction names generalizing earlier index with
  | nil => rfl
  | cons first later ih =>
      rw [numberNames]
      cases index with
      | zero => simp [numbered]
      | succ index =>
          rw [List.getElem?_cons_succ, List.getElem?_cons_succ, ih,
            List.take_succ_cons]
          congr 1
          funext name
          rw [List.count_cons, List.count_cons]
          congr 1
          omega

/-! ## Suggestions -/

/-- A suggestion has the placeholders of some types in the place of words. -/
structure Suggests (text : List Char) (spans : List Span)
    (types : List ParameterType) (suggestion : Suggestion) : Prop where
  /-- Outside of the words it is the text with backslashes. -/
  source : suggestion.source.toList =
    weave ((literals text 0 spans).map escape) (types.map placeholder)
  /-- There is one argument for each word. -/
  count : suggestion.argumentNames.length = spans.length
  /-- An argument is named for its type; a name that comes again gets a
  number. -/
  names : ∀ index type, types[index]? = some type →
    suggestion.argumentNames[index]? =
      some (numbered type.name
        ((types.take (index + 1)).countP (·.name == type.name)))

theorem length_numberNames (earlier names : List String) :
    (numberNames earlier names).length = names.length := by
  induction names generalizing earlier with
  | nil => rfl
  | cons first later ih =>
      rw [numberNames, List.length_cons, ih, List.length_cons]

theorem suggests_choice {text : List Char} {spans : List Span}
    {types : List ParameterType} (fits : types.length = spans.length) :
    Suggests text spans types
      ⟨String.ofList (interleave (literals text 0 spans) types),
        numberNames [] (types.map (·.name))⟩ where
  source := by rw [String.toList_ofList, interleave_eq_weave]
  count := by rw [length_numberNames, List.length_map, fits]
  names := by
    intro index type own
    have counted (types : List ParameterType) :
        (types.map (·.name)).count type.name =
          types.countP (·.name == type.name) :=
      List.countP_map
    rw [getElem?_numberNames, List.getElem?_map, own, ← List.map_take,
      Option.map_some, Option.map_some, counted, List.count_nil, Nat.zero_add]

/-- A text is cut in one way at the first occurrence of a character. -/
theorem eq_of_append_cons {char : Char} {front back rest others : List Char}
    (frontPlain : char ∉ front) (backPlain : char ∉ back)
    (same : front ++ char :: rest = back ++ char :: others) :
    front = back ∧ rest = others := by
  have cut (part behind : List Char) (plain : char ∉ part) :
      (part ++ char :: behind).takeWhile (· != char) = part ∧
        (part ++ char :: behind).dropWhile (· != char) = char :: behind := by
    have passes : ∀ other ∈ part, (other != char) = true := by
      intro other member
      rw [bne_iff_ne]
      rintro rfl
      exact plain member
    rw [List.takeWhile_append_of_pos passes,
      List.dropWhile_append_of_pos passes]
    simp
  obtain ⟨taken, dropped⟩ := cut front rest frontPlain
  obtain ⟨takenBack, droppedBack⟩ := cut back others backPlain
  rw [same] at taken dropped
  refine ⟨taken.symm.trans takenBack, ?_⟩
  exact (List.cons.inj (dropped.symm.trans droppedBack)).2

/-- Sources with other placeholders differ: a name ends where its brace is
closed. -/
theorem types_eq_of_interleave {registry : ParameterRegistry}
    (defined : registry.Defined) {parts : List (List Char)}
    {first second : List ParameterType}
    (firstKnown : ∀ type ∈ first, type ∈ registry.types)
    (secondKnown : ∀ type ∈ second, type ∈ registry.types)
    (fits : parts.length = first.length + 1)
    (alike : first.length = second.length)
    (same : interleave parts first = interleave parts second) :
    first = second := by
  have closed (type : ParameterType) (member : type ∈ registry.types) :
      '\x7D' ∉ type.name.toList := by
    intro brace
    have legal := List.any_eq_false.mp (defined.legal type member)
    exact legal _ brace rfl
  induction parts generalizing first second with
  | nil => simp at fits
  | cons part parts ih =>
      cases first with
      | nil => exact (List.length_eq_zero_iff.mp alike.symm).symm
      | cons type types =>
          cases second with
          | nil => cases alike
          | cons other others =>
              rw [List.forall_mem_cons] at firstKnown secondKnown
              rw [interleave, interleave, List.append_assoc,
                List.append_assoc, List.append_cancel_left_eq,
                List.cons_append, List.cons_append, List.cons.injEq] at same
              obtain ⟨names, rest⟩ := eq_of_append_cons
                (closed type firstKnown.1) (closed other secondKnown.1) same.2
              have own : type = other :=
                List.inj_on_of_nodup_map defined.nodup_names firstKnown.1
                  secondKnown.1 (String.toList_inj.mp names)
              rw [own, ih firstKnown.2 secondKnown.2 (by simpa using fits)
                (by simpa using alike) rest]

/-- A type is registered before another. -/
def RegisteredBefore (registry : ParameterRegistry)
    (first second : ParameterType) : Prop :=
  [first, second].Sublist registry.types

/-- The types for each word are in the order of registration. -/
theorem pairwise_of_mem_typesAlong {registry : ParameterRegistry}
    {text : List Char} {position : Nat} {spans : List Span}
    {members : List ParameterType}
    (listed : members ∈
      typesAlong (usableTypes registry) text position spans) :
    members.Pairwise (RegisteredBefore registry) ∧
      ∀ type ∈ members, type ∈ registry.types := by
  have kept : members.Sublist registry.types := by
    induction spans generalizing position with
    | nil => cases listed
    | cons span later ih =>
        rcases List.mem_cons.mp listed with rfl | behind
        · exact List.filter_sublist.trans
            (List.filter_sublist.trans List.filter_sublist)
        · exact ih behind
  refine ⟨?_, fun type member => kept.subset member⟩
  rw [List.pairwise_iff_forall_sublist]
  exact fun pair => pair.trans kept

/-- Choices differ first in types of which the earlier is registered before. -/
theorem pairwise_choices_typesAlong (registry : ParameterRegistry)
    (text : List Char) (position : Nat) (spans : List Span) :
    (choices (typesAlong (usableTypes registry) text position spans)).Pairwise
      (List.Lex (RegisteredBefore registry)) :=
  pairwise_choices fun _ listed => (pairwise_of_mem_typesAlong listed).1

theorem length_typesAlong (types : List ParameterType) (text : List Char)
    (position : Nat) (spans : List Span) :
    (typesAlong types text position spans).length = spans.length := by
  induction spans generalizing position with
  | nil => rfl
  | cons span later ih =>
      rw [typesAlong, List.length_cons, ih, List.length_cons]

/-- What is suggested for a text whose words are some spans. -/
structure Generalizes (registry : ParameterRegistry) (text : List Char)
    (spans : List Span) (suggestions : List Suggestion) : Prop where
  delimited : ∀ span ∈ spans, Delimited text span
  apart : spans.Pairwise fun span later => span.stop ≤ later.start
  /-- The suggestions are those of the first choices of types. -/
  made : List.Forall₂ (Suggests text spans)
    ((choices (typesAlong (usableTypes registry) text 0 spans)).take limit)
    suggestions
  /-- Choices differ first in types of which the earlier is registered
  before. -/
  ordered : (choices (typesAlong (usableTypes registry) text 0 spans)).Pairwise
    (List.Lex (RegisteredBefore registry))
  count : suggestions.length =
    min limit
      ((typesAlong (usableTypes registry) text 0 spans).map List.length).prod
  distinct : (suggestions.map (·.source)).Nodup
  /-- Without the backslashes and with the words the sources are the text. -/
  restored :
    weave (((literals text 0 spans).map escape).map unescape)
      (spans.map (·.of text)) = text

/-- Sources of different choices differ. -/
theorem nodup_sources {registry : ParameterRegistry}
    (defined : registry.Defined) {text : List Char} {spans : List Span} :
    ((choices (typesAlong (usableTypes registry) text 0 spans)).map
      fun types => String.ofList (interleave (literals text 0 spans)
        types)).Nodup := by
  have known {types : List ParameterType}
      (chosen : types ∈
        choices (typesAlong (usableTypes registry) text 0 spans)) :
      types.length = spans.length ∧
        ∀ type ∈ types, type ∈ registry.types := by
    have members := mem_choices.mp chosen
    refine ⟨members.length_eq.trans (length_typesAlong _ _ _ _), ?_⟩
    intro type own
    obtain ⟨index, bound, rfl⟩ := List.getElem_of_mem own
    have listed := members.get bound (members.length_eq ▸ bound)
    exact (pairwise_of_mem_typesAlong (List.getElem_mem _)).2 _ listed
  have irreflexive (type : ParameterType) :
      ¬ RegisteredBefore registry type type := by
    intro twice
    have distinct := twice.nodup (.of_map _ defined.nodup_names)
    simp at distinct
  apply List.Nodup.map_on
  · intro first firstChosen second secondChosen same
    obtain ⟨firstCount, firstKnown⟩ := known firstChosen
    obtain ⟨secondCount, secondKnown⟩ := known secondChosen
    have fits : (literals text 0 spans).length = first.length + 1 := by
      rw [length_literals, firstCount]
    exact types_eq_of_interleave defined firstKnown secondKnown fits
      (firstCount.trans secondCount.symm) (String.ofList_injective same)
  · refine (pairwise_choices_typesAlong registry text 0 spans).imp ?_
    rintro first second before rfl
    exact List.lex_irrefl irreflexive _ before

/--
A step text has one scan, whose words are spans that do not overlap.  What is
suggested puts placeholders of types in the place of the words, for all choices
of types whose words they are, up to a limit.
-/
theorem generate_scans {registry : ParameterRegistry}
    (defined : registry.Defined) (text : String) :
    ∃ spans,
      (∀ others, Scanned (usableTypes registry) text.toList 0 others ↔
          others = spans) ∧
        Generalizes registry text.toList spans (generate registry text) := by
  obtain ⟨scanned, matching⟩ :=
    scanned_slots (usableTypes registry) text.toList
  have generated :
      generate registry text =
        ((choices (typesAlong (usableTypes registry) text.toList 0
          ((slots (usableTypes registry) text.toList).map
            (·.span)))).take limit).map fun types =>
          ⟨String.ofList (interleave (literals text.toList 0
            ((slots (usableTypes registry) text.toList).map (·.span)))
              types), numberNames [] (types.map (·.name))⟩ := by
    rw [← matching, ← firstChoices_eq_take (by decide)]
    rfl
  generalize (slots (usableTypes registry) text.toList).map (·.span) = spans
    at scanned generated
  have apart := scanned.pairwise
  have words := scanned.delimited
  refine ⟨spans, ?_, ?_⟩
  · intro others
    constructor
    · intro other
      exact other.unique scanned
    · rintro rfl
      exact scanned
  rw [generated]
  constructor
  · exact fun span member => (words span member).2
  · exact apart
  · rw [List.forall₂_map_right_iff, List.forall₂_same]
    intro types chosen
    have members := mem_choices.mp (List.mem_of_mem_take chosen)
    exact suggests_choice
      (members.length_eq.trans (length_typesAlong _ _ _ _))
  · exact pairwise_choices_typesAlong registry text.toList 0 spans
  · rw [List.length_map, List.length_take, length_choices]
  · rw [List.map_map]
    exact (nodup_sources defined).sublist ((List.take_sublist _ _).map _)
  · have restores : unescape ∘ escape = id := funext unescape_escape
    rw [List.map_map, restores, List.map_id, weave_literals words apart,
      List.drop_zero]

end Suggestion

namespace Sample

open Suggestion

/-- A number and two words are taken in a text with brackets, a slash and a
brace. -/
theorem painted_scans :
    painted.Defined ∧
      Scanned (usableTypes painted) "paint 2 (red/blue) {x}".toList 0
        [⟨6, 7⟩, ⟨9, 12⟩, ⟨13, 17⟩] ∧
      Generalizes painted "paint 2 (red/blue) {x}".toList
        [⟨6, 7⟩, ⟨9, 12⟩, ⟨13, 17⟩]
        (generate painted "paint 2 (red/blue) {x}") := by
  have defined : painted.Defined := withType_defined (by decide +kernel)
  obtain ⟨spans, scanned, general⟩ :=
    Suggestion.generate_scans defined "paint 2 (red/blue) {x}"
  have taken :
      (slots (usableTypes painted) "paint 2 (red/blue) {x}".toList).map
          (·.span) = [⟨6, 7⟩, ⟨9, 12⟩, ⟨13, 17⟩] := by
    decide +kernel
  have own := (scanned _).mp (scanned_slots _ _).1
  rw [taken] at own
  subst own
  exact ⟨defined, (scanned _).mpr rfl, general⟩

end Sample

end ScenarioRunner
