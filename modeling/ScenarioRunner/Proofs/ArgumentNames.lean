import Mathlib.Data.List.Basic
import Mathlib.Data.List.Nodup
import ScenarioRunner.Proofs.SuggestionChoices

/-!
# Names of arguments

The placeholders of a suggestion are named for their types, and a name that
comes again gets a number.  The numbers tell the occurrences of one name apart.
They do not tell them from those of another name that ends with digits: if
types are named `string` and `string2`, two arguments may have the name
`string2`.

The main statement is `Suggestion.argumentNames_nodup_iff`.
-/

namespace ScenarioRunner

namespace Suggestion

/-! ## Numbers -/

/-- What stands behind the name of an occurrence. -/
def mark (occurrence : Nat) : List Char :=
  if occurrence = 1 then [] else occurrence.repr.toList

theorem toList_numbered (name : String) (occurrence : Nat) :
    (numbered name occurrence).toList = name.toList ++ mark occurrence := by
  rw [numbered, mark]
  split
  · exact (List.append_nil _).symm
  · simp [toString]

theorem isDigit_of_mem_mark {occurrence : Nat} {char : Char}
    (member : char ∈ mark occurrence) : char.isDigit = true := by
  rw [mark] at member
  split at member
  · cases member
  · rw [Nat.toList_repr] at member
    exact Nat.isDigit_of_mem_toDigits (by decide) (by decide) member

theorem mark_inj {first second : Nat} (same : mark first = mark second) :
    first = second := by
  have marked (value : Nat) : value.repr.toList ≠ [] := by
    rw [ne_eq, String.toList_eq_nil_iff]
    exact Nat.repr_ne_empty
  unfold mark at same
  split at same <;> split at same
  · rename_i own other
    rw [own, other]
  · exact absurd same.symm (marked second)
  · exact absurd same (marked first)
  · exact Expression.toList_repr_inj same

/-- The numbers tell the occurrences of a name apart. -/
theorem numbered_inj {name : String} {first second : Nat}
    (same : numbered name first = numbered name second) : first = second := by
  have chars := congrArg String.toList same
  rw [toList_numbered, toList_numbered, List.append_cancel_left_eq] at chars
  exact mark_inj chars

/-! ## Names that read alike -/

/-- An occurrence of a name reads like an occurrence of another name. -/
def Clash (names : List String) : Prop :=
  ∃ first ∈ names, ∃ second ∈ names, first ≠ second ∧
    ∃ early late,
      1 ≤ early ∧ early ≤ names.count first ∧
        1 ≤ late ∧ late ≤ names.count second ∧
          numbered first early = numbered second late

/-- A name is another one and digits behind it. -/
def Extends (name longer : String) : Prop :=
  ∃ digits, digits ≠ [] ∧ (∀ char ∈ digits, char.isDigit = true) ∧
    longer.toList = name.toList ++ digits

/-- Of two names that read alike one is the other and digits behind it. -/
theorem extends_of_numbered {first second : String} {early late : Nat}
    (different : first ≠ second)
    (same : numbered first early = numbered second late) :
    Extends first second ∨ Extends second first := by
  have chars := congrArg String.toList same
  rw [toList_numbered, toList_numbered, List.append_eq_append_iff] at chars
  have some {shorter longer : String} {digits : List Char}
      (apart : shorter ≠ longer)
      (whole : longer.toList = shorter.toList ++ digits) : digits ≠ [] := by
    rintro rfl
    rw [List.append_nil, String.toList_inj] at whole
    exact apart whole.symm
  rcases chars with ⟨digits, whole, rest⟩ | ⟨digits, whole, rest⟩
  · refine Or.inl ⟨digits, some different whole, ?_, whole⟩
    intro char member
    apply isDigit_of_mem_mark
    rw [rest]
    exact List.mem_append_left _ member
  · refine Or.inr ⟨digits, some (Ne.symm different) whole, ?_, whole⟩
    intro char member
    apply isDigit_of_mem_mark
    rw [rest]
    exact List.mem_append_left _ member

/-! ## Occurrences -/

section Occurrences

variable {names : List String}

/-- Each occurrence of a name stands somewhere. -/
theorem exists_occurrence {name : String} {occurrence : Nat}
    (positive : 1 ≤ occurrence) (bound : occurrence ≤ names.count name) :
    ∃ index, names[index]? = some name ∧
      (names.take (index + 1)).count name = occurrence := by
  induction names generalizing occurrence with
  | nil => simp at bound; omega
  | cons first later ih =>
      by_cases own : first = name
      · subst own
        by_cases initial : occurrence = 1
        · exact ⟨0, rfl, by simp [initial]⟩
        · rw [List.count_cons_self] at bound
          have behind : 1 ≤ occurrence - 1 := by omega
          obtain ⟨index, stands, counted⟩ := ih behind (by omega)
          refine ⟨index + 1, stands, ?_⟩
          rw [List.take_succ_cons, List.count_cons_self, counted]
          omega
      · rw [List.count_cons_of_ne own] at bound
        obtain ⟨index, stands, counted⟩ := ih positive bound
        refine ⟨index + 1, stands, ?_⟩
        rw [List.take_succ_cons, List.count_cons_of_ne own, counted]

/-- Where a name stands is one of its occurrences. -/
theorem occurrence_bounds {name : String} {index : Nat}
    (stands : names[index]? = some name) :
    1 ≤ (names.take (index + 1)).count name ∧
      (names.take (index + 1)).count name ≤ names.count name := by
  refine ⟨?_, (List.take_sublist _ _).count_le _⟩
  apply List.count_pos_iff.mpr
  rw [List.take_add_one, stands]
  exact List.mem_append_right _ List.mem_cons_self

/-- A later occurrence of a name has a larger number. -/
theorem count_take_lt {name : String} {early late : Nat}
    (before : early < late) (stands : names[late]? = some name) :
    (names.take (early + 1)).count name <
      (names.take (late + 1)).count name := by
  have kept : (names.take (early + 1)).count name ≤
      (names.take late).count name :=
    (List.take_sublist_take_left before).count_le _
  rw [@List.take_add_one _ names late, stands, Option.toList_some,
    List.count_append, List.count_singleton_self]
  exact Nat.lt_succ_of_le kept

/-- The numbered names are distinct unless some read alike. -/
theorem nodup_numberNames_iff :
    (numberNames [] names).Nodup ↔ ¬ Clash names := by
  have shown {index : Nat} {name : String}
      (stands : names[index]? = some name) :
      (numberNames [] names)[index]? =
        some (numbered name ((names.take (index + 1)).count name)) := by
    rw [getElem?_numberNames, stands, Option.map_some, List.count_nil,
      Nat.zero_add]
  constructor
  · rintro distinct ⟨first, -, second, -, different, early, late, clash⟩
    obtain ⟨earlyOne, earlyBound, lateOne, lateBound, same⟩ := clash
    obtain ⟨index, stands, counted⟩ := exists_occurrence earlyOne earlyBound
    obtain ⟨other, standsOther, countedOther⟩ :=
      exists_occurrence lateOne lateBound
    have alike : (numberNames [] names)[index]? =
        (numberNames [] names)[other]? := by
      rw [shown stands, shown standsOther, counted, countedOther, same]
    have inside : index < (numberNames [] names).length := by
      rw [length_numberNames]
      exact (List.getElem?_eq_some_iff.mp stands).1
    obtain rfl := (List.getElem?_inj inside distinct).mp alike
    exact different (Option.some.inj (stands.symm.trans standsOther))
  · intro apart
    rw [List.nodup_iff_getElem?_ne_getElem?]
    intro index other before inside alike
    rw [length_numberNames] at inside
    have stands := List.getElem?_eq_getElem (before.trans inside)
    have standsOther := List.getElem?_eq_getElem inside
    rw [shown stands, shown standsOther, Option.some.injEq] at alike
    by_cases own : names[index] = names[other]
    · rw [own] at alike
      have counted := numbered_inj alike
      have larger := count_take_lt before standsOther
      omega
    · have first := occurrence_bounds stands
      have second := occurrence_bounds standsOther
      exact apart ⟨_, List.getElem_mem _, _, List.getElem_mem _, own, _, _,
        first.1, first.2, second.1, second.2, alike⟩

end Occurrences

/-! ## Names of the arguments of a suggestion -/

/-- Names of which none is another one with digits behind it do not clash. -/
theorem not_clash_of_apart {names : List String}
    (apart : ∀ first ∈ names, ∀ second ∈ names, ¬ Extends first second) :
    ¬ Clash names := by
  rintro ⟨first, own, second, other, different, _, _, -, -, -, -, same⟩
  rcases extends_of_numbered different same with longer | longer
  · exact apart first own second other longer
  · exact apart second other first own longer

/-- A suggestion is made for types of the registry. -/
theorem exists_suggests {registry : ParameterRegistry} {text : String}
    {suggestion : Suggestion} (member : suggestion ∈ generate registry text) :
    ∃ types,
      (∀ type ∈ types, type ∈ usableTypes registry) ∧
        Suggests text.toList
          ((slots (usableTypes registry) text.toList).map (·.span)) types
          suggestion ∧
        suggestion.argumentNames = numberNames [] (types.map (·.name)) := by
  obtain ⟨types, chosen, rfl⟩ := List.mem_map.mp member
  have placed := slots_placed (usableTypes registry) text.toList
  have members := forall₂_of_mem_firstChoices chosen
  rw [List.forall₂_map_right_iff] at members
  refine ⟨types, placed.mem members, suggests_choice ?_, rfl⟩
  rw [List.length_map, members.length_eq]

/-- With the types that are always there, arguments have distinct names: none of
the types has a name that ends with a digit. -/
theorem nodup_of_builtin {text : String} {suggestion : Suggestion}
    (member : suggestion ∈ generate {} text) :
    suggestion.argumentNames.Nodup := by
  have lettered : ∀ type ∈ ({} : ParameterRegistry).types,
      type.name.toList.getLast?.all (!·.isDigit) = true := by
    decide +kernel
  obtain ⟨types, usable, -, names⟩ := exists_suggests member
  rw [names, nodup_numberNames_iff]
  apply not_clash_of_apart
  rintro first - second own ⟨digits, some, digit, whole⟩
  obtain ⟨type, among, rfl⟩ := List.mem_map.mp own
  have last := List.getLast_mem some
  have letter :=
    lettered type (mem_of_mem_usableTypes (usable type among)).2
  rw [whole, List.getLast?_append_of_ne_nil _ some,
    List.getLast?_eq_getLast_of_ne_nil some, Option.all_some,
    digit _ last] at letter
  cases letter

/--
The arguments of a suggestion have distinct names unless an occurrence of a
type's name reads like an occurrence of another one's.  This takes a name that
is another one with digits behind it.
-/
theorem argumentNames_nodup_iff {registry : ParameterRegistry} {text : String}
    {suggestion : Suggestion} (member : suggestion ∈ generate registry text) :
    ∃ types,
      (∀ type ∈ types, type ∈ usableTypes registry) ∧
        Suggests text.toList
          ((slots (usableTypes registry) text.toList).map (·.span)) types
          suggestion ∧
        (suggestion.argumentNames.Nodup ↔ ¬ Clash (types.map (·.name))) ∧
        ((∀ first ∈ types, ∀ second ∈ types,
            ¬ Extends first.name second.name) →
          suggestion.argumentNames.Nodup) := by
  obtain ⟨types, usable, suggests, names⟩ := exists_suggests member
  have distinct :
      suggestion.argumentNames.Nodup ↔ ¬ Clash (types.map (·.name)) := by
    rw [names]
    exact nodup_numberNames_iff
  refine ⟨types, usable, suggests, distinct, fun apart => ?_⟩
  rw [distinct]
  apply not_clash_of_apart
  rw [List.forall_mem_map]
  intro first own
  rw [List.forall_mem_map]
  exact apart first own

end Suggestion

namespace Sample

open Suggestion

/-- The second of two texts in quotes is told from the first by its number. -/
theorem quoted_nodup :
    ⟨"{string} and {string}", ["string", "string2"]⟩ ∈
        generate {} "\"a\" and \"b\"" ∧
      ∃ types : List ParameterType,
        (∀ type ∈ types, type ∈ usableTypes {}) ∧
          ¬ Clash (types.map (·.name)) := by
  have member :
      ⟨"{string} and {string}", ["string", "string2"]⟩ ∈
        generate {} "\"a\" and \"b\"" := by
    decide +kernel
  obtain ⟨types, usable, -, distinct, -⟩ := argumentNames_nodup_iff member
  exact ⟨member, types, usable, distinct.mp (by decide)⟩

/-- The second text in quotes has the name of another type. -/
theorem numberedType_repeated :
    generate (withType "string2" "x") "\"a\" \"b\" x" =
        [⟨"{string} {string} {string2}", ["string", "string2", "string2"]⟩] ∧
      ¬ ["string", "string2", "string2"].Nodup := by
  refine ⟨by decide +kernel, by decide⟩

end Sample

end ScenarioRunner
