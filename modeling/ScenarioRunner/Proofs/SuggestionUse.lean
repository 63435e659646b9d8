import ScenarioRunner.Proofs.ParameterTypes
import ScenarioRunner.Proofs.PlaceholderGroups
import ScenarioRunner.Proofs.SuggestionReading
import ScenarioRunner.Proofs.WordSpans

/-!
# Suggested expressions are usable

A suggested expression compiles and matches the step text that it is suggested
for, if the literal texts in it have no backslashes.  Only a group that a type
names inside of a repetition may keep it from compiling.  A backslash in the
literal text is left as it is, and means something in the expression.

The main statement is `Suggestion.generate_usable`.
-/

namespace ScenarioRunner

open Regex

namespace Expression

/-! ## Patterns of suggested expressions -/

/-- The pattern of a literal text has no groups. -/
theorem groupNames_textNode (written : List Char) :
    (textNode written).groupNames = [] := by
  rw [Node.groupNames, textNode, Node.groups_text, List.filterMap_nil]

section Segments

variable {lookup : TypeLookup} {segments : List Segment}
  {literals : List (List Char)} {types : List ParameterType}

/-- All named groups of a suggested expression have names of their own. -/
theorem names_segmentNodes
    (renders : Renders segments literals (types.map (·.name)))
    (known : ∀ type ∈ types, lookup type.name = some type)
    (unnamed : ∀ type ∈ types, type.pattern.root.namesRepeated = false)
    (placeholders groupsBefore : Nat) :
    let names := (segmentNodes lookup placeholders groupsBefore
      segments).flatMap Node.groupNames
    names.Nodup ∧
      ∀ name ∈ names, ∃ placeholder ≥ placeholders, ∃ number,
        name = groupName placeholder number := by
  generalize given : types.map (·.name) = names at renders
  induction renders generalizing types placeholders groupsBefore with
  | last => exact ⟨List.nodup_nil, nofun⟩
  | text later ih =>
      simp only [segmentNodes, List.flatMap_cons, groupNames_textNode,
        List.nil_append]
      exact ih known unnamed placeholders groupsBefore given
  | blanks later ih =>
      simp only [segmentNodes, List.flatMap_cons, groupNames_textNode,
        List.nil_append]
      exact ih known unnamed placeholders groupsBefore given
  | parameter name later ih =>
      cases types with
      | nil => cases given
      | cons type types =>
          rw [List.map_cons, List.cons.injEq] at given
          obtain ⟨rfl, given⟩ := given
          rw [List.forall_mem_cons] at known unnamed
          obtain ⟨last, counts⟩ :=
            groupNames_placeholderNode placeholders groupsBefore unnamed.1
          simp only [segmentNodes, known.1, List.flatMap_cons]
          obtain ⟨distinct, owned⟩ :=
            ih known.2 unnamed.2 (placeholders + 1)
              (max groupsBefore (lastGroup
                (placeholderNode placeholders groupsBefore
                  type.pattern.root))) given
          constructor
          · rw [List.nodup_append]
            refine ⟨counts.nodup, distinct, ?_⟩
            intro name member other among same
            obtain ⟨number, rfl⟩ := counts.mem member
            obtain ⟨owner, later, last, rfl⟩ := owned other among
            rw [(groupName_inj same).1] at later
            exact Nat.not_succ_le_self _ later
          · intro name member
            rcases List.mem_append.mp member with own | among
            · exact ⟨placeholders, Nat.le_refl _, counts.mem own⟩
            · obtain ⟨owner, later, number, same⟩ := owned name among
              exact ⟨owner, Nat.le_of_succ_le later, number, same⟩

end Segments

/-! ## Texts that are laid out -/

/-- A text from a place on is literal texts with words between them, which the
patterns of some types match. -/
inductive Laid : Cursor → List (List Char) → List ParameterType → Prop where
  | last (cursor : Cursor) : Laid cursor [cursor.after] []
  | next {before literal rest : List Char} {stop : Cursor}
      {type : ParameterType} {captures : Captures}
      {literals : List (List Char)} {types : List ParameterType}
      (word : type.pattern.root.Walks
        ⟨⟨literal.reverse ++ before, rest⟩, []⟩ ⟨stop, captures⟩)
      (later : Laid stop literals types) :
      Laid ⟨before, literal ++ rest⟩ (literal :: literals) (type :: types)

/-- Literal text is taken off the front. -/
theorem Laid.drop {start : Cursor} {taken literal : List Char}
    {literals : List (List Char)} {types : List ParameterType}
    (laid : Laid start ((taken ++ literal) :: literals) types) :
    ∃ rest, start.after = taken ++ rest ∧
      Laid ⟨taken.reverse ++ start.before, rest⟩ (literal :: literals)
        types := by
  generalize given : (taken ++ literal) :: literals = all at laid
  cases laid with
  | last cursor =>
      rw [List.cons.injEq] at given
      obtain ⟨after, rfl⟩ := given
      exact ⟨literal, after.symm, .last _⟩
  | next word later =>
      rw [List.cons.injEq] at given
      obtain ⟨rfl, rfl⟩ := given
      rename_i before rest stop type captures types
      rw [List.reverse_append, List.append_assoc] at word
      exact ⟨literal ++ rest, List.append_assoc .., .next word later⟩

section Segments

variable {lookup : TypeLookup} {segments : List Segment}
  {literals : List (List Char)} {types : List ParameterType}

theorem walks_textNode {written rest : List Char} {start : Cursor}
    (after : start.after = unescape written ++ rest) (captures : Captures) :
    (textNode written).Walks ⟨start, captures⟩
      ⟨⟨(unescape written).reverse ++ start.before, rest⟩, captures⟩ :=
  (Node.walks_text _).mpr ⟨rest, after, rfl⟩

/-- The patterns of segments match a text that is laid out like them, up to its
end. -/
theorem walks_segmentNodes
    (renders : Renders segments literals (types.map (·.name)))
    (known : ∀ type ∈ types, lookup type.name = some type)
    {start : Cursor} (laid : Laid start literals types)
    (placeholders groupsBefore : Nat) (captures : Captures) :
    ∃ stop : Reach, stop.cursor.after = [] ∧
      Node.WalksAll (segmentNodes lookup placeholders groupsBefore segments)
        ⟨start, captures⟩ stop := by
  generalize given : types.map (·.name) = names at renders
  induction renders generalizing types start placeholders groupsBefore
      captures with
  | last =>
      cases types with
      | cons type types => cases given
      | nil =>
          generalize all : [[]] = literals at laid
          cases laid
          exact ⟨⟨start, captures⟩, (List.cons.inj all).1.symm, rfl⟩
  | text later ih =>
      obtain ⟨rest, after, left⟩ := laid.drop
      obtain ⟨stop, ends, walks⟩ :=
        ih known left placeholders groupsBefore captures given
      exact ⟨stop, ends, _, walks_textNode after captures, walks⟩
  | blanks later ih =>
      obtain ⟨rest, after, left⟩ := laid.drop
      obtain ⟨stop, ends, walks⟩ :=
        ih known left placeholders groupsBefore captures given
      exact ⟨stop, ends, _, walks_textNode after captures, walks⟩
  | parameter name later ih =>
      cases types with
      | nil => cases given
      | cons type types =>
          rw [List.map_cons, List.cons.injEq] at given
          obtain ⟨rfl, given⟩ := given
          rw [List.forall_mem_cons] at known
          generalize all : [] :: _ = literals at laid
          cases laid with
          | next word rest =>
              obtain ⟨rfl, rfl⟩ := List.cons.inj all
              obtain ⟨more, own⟩ :=
                placeholderNode_covers placeholders groupsBefore
                  type.pattern.root word captures
              obtain ⟨stop, ends, walks⟩ :=
                ih known.2 rest (placeholders + 1)
                  (max groupsBefore (lastGroup
                    (placeholderNode placeholders groupsBefore
                      type.pattern.root))) more given
              refine ⟨stop, ends, ?_⟩
              simp only [segmentNodes, known.1]
              exact ⟨_, own, walks⟩

end Segments

/-! ## Compiling -/

theorem firstRepeated?_eq_none {names : List String}
    (distinct : names.Nodup) : firstRepeated? names = none := by
  induction names with
  | nil => rfl
  | cons name later ih =>
      rw [List.nodup_cons] at distinct
      rw [firstRepeated?, if_neg (by simpa using distinct.1)]
      exact ih distinct.2

theorem resolveTypes_names {registry : ParameterRegistry}
    {types : List ParameterType}
    (known : ∀ type ∈ types, registry.lookup? type.name = some type) :
    resolveTypes registry (types.map (·.name)) = .ok types := by
  induction types with
  | nil => rfl
  | cons type types ih =>
      rw [List.forall_mem_cons] at known
      simp only [List.map_cons, resolveTypes, known.1, ih known.2, bind,
        Except.bind, pure, Except.pure]

theorem groupNames_expand (lookup : TypeLookup) (segments : List Segment) :
    (expand lookup segments).groupNames =
      (segmentNodes lookup 0 0 segments).flatMap Node.groupNames := by
  unfold expand Node.groupNames
  rw [Node.groups_sequence, List.flatMap_append, List.flatMap_cons,
    List.filterMap_append, List.filterMap_append, List.filterMap_flatMap]
  simp [Node.groups]

/-- Only a type that names a group inside of a repetition makes a name of a
suggested expression repeated. -/
theorem exists_namesRepeated {lookup : TypeLookup} {segments : List Segment}
    {literals : List (List Char)} {types : List ParameterType}
    (renders : Renders segments literals (types.map (·.name)))
    (known : ∀ type ∈ types, lookup type.name = some type) {name : String}
    (repeated :
      firstRepeated? (expand lookup segments).groupNames = some name) :
    ∃ type ∈ types, type.pattern.root.namesRepeated = true := by
  by_contra! unnamed
  have nameless (type : ParameterType) (among : type ∈ types) :
      type.pattern.root.namesRepeated = false := by
    simpa using unnamed type among
  have distinct := (names_segmentNodes renders known nameless 0 0).1
  rw [← groupNames_expand] at distinct
  rw [firstRepeated?_eq_none distinct] at repeated
  cases repeated

/-- An expression that can be read and whose types are known compiles, unless a
name of its groups is repeated. -/
theorem Template.compile_eq {registry : ParameterRegistry}
    {source : String} {segments : List Segment}
    {types : List ParameterType} (parsed : parse source = .ok segments)
    (resolved :
      resolveTypes registry (segments.filterMap Segment.parameter?) =
        .ok types) :
    let root := expand registry.lookup? segments
    compile registry source =
      match firstRepeated? root.groupNames with
      | some name => .error (.invalidPattern (.duplicateGroupName name))
      | none =>
          .ok ⟨source, root,
            (placeholderGroups root types.length).zipWith Placeholder.mk
              types⟩ := by
  unfold compile
  rw [parsed]
  simp only [resolved]
  rfl

/-- An expression matches a text that its patterns match up to the end. -/
theorem Template.isSome_match? {template : Template} {lookup : TypeLookup}
    {segments : List Segment}
    (root : template.root = expand lookup segments) {text : String}
    {stop : Reach} (ends : stop.cursor.after = [])
    (walks : Node.WalksAll (segmentNodes lookup 0 0 segments)
      ⟨Cursor.start text.toList, []⟩ stop) :
    (template.match? text).isSome = true := by
  have whole : template.root.Walks ⟨Cursor.start text.toList, []⟩ stop := by
    rw [root, expand, Node.walks_sequence, List.cons_append]
    refine ⟨_, ⟨rfl, rfl⟩, ?_⟩
    rw [Node.walksAll_append]
    refine ⟨stop, walks, stop, ⟨?_, rfl⟩, rfl⟩
    simp [Anchor.holds, ends]
  unfold match?
  rw [Option.isSome_map]
  exact Node.isSome_findFrom? whole

end Expression

namespace Suggestion

open Expression (Laid Renders)

/-! ## Suggestions -/

/-- The literal texts of the expressions that are suggested for a text. -/
def literalsOf (registry : ParameterRegistry) (text : String) :
    List (List Char) :=
  literals text.toList 0
    ((slots (usableTypes registry) text.toList).map (·.span))

theorem length_literals (text : List Char) (position : Nat)
    (spans : List Span) :
    (literals text position spans).length = spans.length + 1 := by
  induction spans generalizing position with
  | nil => rfl
  | cons span later ih => rw [literals, List.length_cons, ih, List.length_cons]

theorem forall₂_of_mem_firstChoices {Member : Type} {count : Nat}
    {lists : List (List Member)} {choice : List Member}
    (chosen : choice ∈ firstChoices count lists) :
    List.Forall₂ (· ∈ ·) choice lists := by
  induction lists generalizing choice with
  | nil =>
      rw [List.mem_singleton.mp chosen]
      exact .nil
  | cons members later ih =>
      have listed := List.mem_of_mem_take chosen
      obtain ⟨member, among, made⟩ := List.mem_flatMap.mp listed
      obtain ⟨rest, kept, rfl⟩ := List.mem_map.mp made
      exact .cons among (ih kept)

/-- A text is laid out as its literal texts with a type for each word. -/
theorem laid_of_placed {types : List ParameterType} {text : List Char}
    {position : Nat} {slots : List Slot}
    (placed : Placed types text position slots)
    {choice : List ParameterType}
    (chosen : List.Forall₂ (fun type slot => type ∈ slot.types) choice
      slots) :
    Laid ((Cursor.start text).advance position)
      (literals text position (slots.map (·.span))) choice := by
  induction placed generalizing choice with
  | last position =>
      cases chosen
      have after : ((Cursor.start text).advance position).after =
          text.drop position := by
        rw [Cursor.advance_start]
      rw [List.map_nil, literals, ← after]
      exact .last _
  | next nonempty words rest ih =>
      rename_i position slot later
      cases chosen with
      | cons member others =>
          rename_i type types
          obtain ⟨-, word⟩ := words type member
          obtain ⟨captures, matched⟩ := word.matched
          have lies := word.lies
          have after := lies.after
          obtain ⟨count, start⟩ := Nat.exists_eq_add_of_le after
          have split : text.drop position =
              (Span.mk position slot.span.start).of text ++
                text.drop slot.span.start := by
            rw [Span.of, start, Nat.add_sub_cancel_left, ← List.drop_drop,
              List.take_append_drop]
          have place :
              (Cursor.start text).advance slot.span.start =
                ⟨((Span.mk position slot.span.start).of text).reverse ++
                    (text.take position).reverse,
                  text.drop slot.span.start⟩ := by
            rw [Cursor.advance_start, ← List.reverse_append, Span.of, start,
              Nat.add_sub_cancel_left, List.take_add]
          rw [Cursor.advance_start, split, List.map_cons, literals]
          rw [place] at matched
          exact .next matched (ih others)

/-- Types that suggestions use are types of the registry. -/
theorem mem_of_mem_usableTypes {registry : ParameterRegistry}
    {type : ParameterType} (member : type ∈ usableTypes registry) :
    type ∈ registry.suggestedTypes ∧ type ∈ registry.types := by
  have suggested := List.mem_of_mem_filter member
  exact ⟨suggested, List.mem_of_mem_filter suggested⟩

theorem Placed.mem {types : List ParameterType} {text : List Char}
    {position : Nat} {slots : List Slot}
    (placed : Placed types text position slots)
    {choice : List ParameterType}
    (chosen : List.Forall₂ (fun type slot => type ∈ slot.types) choice
      slots) : ∀ type ∈ choice, type ∈ types := by
  induction placed generalizing choice with
  | last position =>
      cases chosen
      exact nofun
  | next nonempty words rest ih =>
      cases chosen with
      | cons member others =>
          rw [List.forall_mem_cons]
          exact ⟨(words _ member).1, ih others⟩

/-- A suggestion is made of a text's literal texts and of types that match the
words between them. -/
structure MadeOf (registry : ParameterRegistry) (text : String)
    (suggestion : Suggestion) (types : List ParameterType) : Prop where
  source : suggestion.source =
    String.ofList (interleave (literalsOf registry text) types)
  usable : ∀ type ∈ types, type ∈ usableTypes registry
  fits : (literalsOf registry text).length = types.length + 1
  laid : Laid (Cursor.start text.toList) (literalsOf registry text) types

theorem exists_madeOf {registry : ParameterRegistry} {text : String}
    {suggestion : Suggestion} (member : suggestion ∈ generate registry text) :
    ∃ types, suggestion.MadeOf registry text types := by
  obtain ⟨types, chosen, rfl⟩ := List.mem_map.mp member
  have placed := slots_placed (usableTypes registry) text.toList
  have members := forall₂_of_mem_firstChoices chosen
  rw [List.forall₂_map_right_iff] at members
  refine ⟨types, rfl, placed.mem members, ?_, laid_of_placed placed members⟩
  rw [literalsOf, length_literals, List.length_map, members.length_eq]

/--
Every suggested expression compiles with the types that it is suggested for,
and matches the text, if the literal texts have no backslashes.  The only other
case is that a type names a group inside of a repetition, and that name is
repeated.
-/
theorem generate_usable {registry : ParameterRegistry}
    (defined : registry.Defined) {text : String}
    (plain : ∀ literal ∈ literalsOf registry text, '\\' ∉ literal) :
    ∀ suggestion ∈ generate registry text,
      (∃ template,
          Expression.Template.compile registry suggestion.source =
              .ok template ∧
            (template.match? text).isSome = true) ∨
        (∃ name,
            Expression.Template.compile registry suggestion.source =
              .error (.invalidPattern (.duplicateGroupName name))) ∧
          ∃ type ∈ registry.suggestedTypes,
            type.pattern.root.namesRepeated = true := by
  intro suggestion member
  obtain ⟨types, made⟩ := exists_madeOf member
  have known (type : ParameterType) (among : type ∈ types) :
      registry.lookup? type.name = some type :=
    defined.lookup?_name (mem_of_mem_usableTypes (made.usable type among)).2
  have legal (type : ParameterType) (among : type ∈ types) :
      Expression.IsLegalName type.name := by
    have listed := (mem_of_mem_usableTypes (made.usable type among)).2
    intro char own
    simpa using List.any_eq_false.mp (defined.legal type listed) char own
  obtain ⟨segments, parsed, renders⟩ :=
    Expression.parse_interleave made.fits plain legal
  rw [← made.source] at parsed
  have resolved :
      Expression.resolveTypes registry
          (segments.filterMap Expression.Segment.parameter?) =
        .ok types := by
    rw [renders.parameters]
    exact Expression.resolveTypes_names known
  have compiled := Expression.Template.compile_eq parsed resolved
  dsimp only at compiled
  cases repeated : Expression.firstRepeated?
      (Expression.expand registry.lookup? segments).groupNames with
  | none =>
      left
      rw [repeated] at compiled
      obtain ⟨stop, ends, walks⟩ :=
        Expression.walks_segmentNodes renders known made.laid 0 0 []
      exact ⟨_, compiled, Expression.Template.isSome_match? rfl ends walks⟩
  | some name =>
      right
      rw [repeated] at compiled
      obtain ⟨type, among, names⟩ :=
        Expression.exists_namesRepeated renders known repeated
      have suggested := (mem_of_mem_usableTypes (made.usable type among)).1
      exact ⟨⟨name, compiled⟩, type, suggested, names⟩

end Suggestion

namespace Sample

open Suggestion (generate)

/-- The built-in types and one more. -/
def withType (name regexp : String) : ParameterRegistry :=
  ((ParameterRegistry.define {} ⟨name, regexp, .identity, true⟩).toOption).getD
    {}

theorem withType_defined {name regexp : String}
    (accepted :
      (ParameterRegistry.define {} ⟨name, regexp, .identity, true⟩).isOk =
        true) :
    (withType name regexp).Defined := by
  unfold withType
  cases made : ParameterRegistry.define {} ⟨name, regexp, .identity, true⟩
    with
  | error reason =>
      rw [made] at accepted
      cases accepted
  | ok more => exact .define .builtin made

def painted : ParameterRegistry := withType "color" "(red)|(blue)"

/-- A text with brackets, a slash and a brace, in which three words are
replaced. -/
theorem painted_usable :
    painted.Defined ∧
      (generate painted "paint 2 (red/blue) {x}").map (·.source) =
        [ "paint {int} \\({color}\\/{color}) \\{x}",
          "paint {float} \\({color}\\/{color}) \\{x}" ] ∧
      ∀ suggestion ∈ generate painted "paint 2 (red/blue) {x}",
        ∃ template,
          Expression.Template.compile painted suggestion.source =
              .ok template ∧
            (template.match? "paint 2 (red/blue) {x}").isSome = true := by
  have defined : painted.Defined := withType_defined (by decide +kernel)
  refine ⟨defined, by decide +kernel, ?_⟩
  intro suggestion member
  have usable :=
    Suggestion.generate_usable defined (by decide +kernel) suggestion member
  apply usable.resolve_right
  rintro ⟨-, type, suggested, repeated⟩
  have unnamed : ∀ type ∈ painted.suggestedTypes,
      type.pattern.root.namesRepeated = false := by
    decide +kernel
  rw [unnamed type suggested] at repeated
  cases repeated

/-- The expression that is suggested for a text with a backslash does not
compile. -/
theorem backslash_unusable :
    ∃ suggestion ∈ generate {} "a\\b", ∀ template,
      Expression.Template.compile {} suggestion.source ≠ .ok template := by
  refine ⟨⟨"a\\b", []⟩, by decide +kernel, ?_⟩
  intro template compiled
  have fails : (Expression.Template.compile {} "a\\b").isOk = false := by
    decide +kernel
  rw [compiled] at fails
  cases fails

/-- A type that names a group inside of a repetition can be used once only. -/
example :
    (generate (withType "t" "(?P<x>a)+") "a a").map (·.source) =
        ["{t} {t}"] ∧
      (Expression.Template.compile (withType "t" "(?P<x>a)+")
        "{t} {t}").isOk = false := by
  decide +kernel

end Sample

end ScenarioRunner
