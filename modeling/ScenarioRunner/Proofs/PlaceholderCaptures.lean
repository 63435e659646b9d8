import ScenarioRunner.Proofs.ParameterTypes
import ScenarioRunner.Proofs.PlaceholderInsertion

/-!
# What placeholders capture

The pattern of each placeholder matches a passage of the text, and captures
something in it as it would on its own.  The passages of a match are read off
the segments of the expression, and each placeholder gives back what its own
passage captured, whatever groups the other placeholders have.

The main statement is `Template.match?_passages`.
-/

namespace ScenarioRunner

open Regex

namespace Expression

/-! ## Passages -/

/-- A part of a text that the pattern of a type matches. -/
structure Passage where
  type : ParameterType
  start : Cursor
  stop : Cursor
  /-- What the groups of the pattern captured, the latest first. -/
  own : Captures
  walks : type.pattern.root.Walks ⟨start, []⟩ ⟨stop, own⟩

namespace Passage

variable (passage : Passage)

def pattern : Node := passage.type.pattern.root

def span : Span := ⟨passage.start.position, passage.stop.position⟩

/-- The whole passage if the pattern has no groups; else what the first of its
groups captured that took part in the match. -/
def captured? : Option Span :=
  let groups := passage.pattern.groups
  if groups.isEmpty then some passage.span
  else groups.findSome? fun group => passage.own.lookup group.1

/-- What is captured in a text. -/
def capture (text : List Char) : Capture :=
  ⟨passage.captured?.map fun span => String.ofList (span.of text),
    some passage.type⟩

/-- What is recorded of a passage behind so many groups. -/
def recorded (groupsBefore : Nat) : Captures :=
  if passage.pattern.groups.isEmpty then [(groupsBefore + 1, passage.span)]
  else passage.own.renumber (· + groupsBefore)

/-- Without groups the whole passage is captured. -/
theorem captured?_of_groups_nil {passage : Passage}
    (closed : passage.pattern.groups = []) :
    passage.captured? = some passage.span := by
  rw [captured?, closed]
  rfl

end Passage

/-- A way through a text along segments, with the passages of their
placeholders.  Nothing but the passages is recorded. -/
inductive Traverses (lookup : TypeLookup) :
    Nat → List Segment → Reach → Reach → List Passage → Prop where
  | done (groupsBefore : Nat) (place : Reach) :
      Traverses lookup groupsBefore [] place place []
  | written {groupsBefore : Nat} {segment : Segment} {later : List Segment}
      {start middle : Cursor} {captures : Captures} {stop : Reach}
      {passages : List Passage} (plain : segment.parameter? = none)
      (part : (writtenNode segment).Walks ⟨start, []⟩ ⟨middle, []⟩)
      (rest : Traverses lookup groupsBefore later ⟨middle, captures⟩ stop
        passages) :
      Traverses lookup groupsBefore (segment :: later) ⟨start, captures⟩ stop
        passages
  | placeholder {groupsBefore : Nat} {name : String} {later : List Segment}
      {passage : Passage} {captures : Captures} {stop : Reach}
      {passages : List Passage} (known : lookup name = some passage.type)
      (rest : Traverses lookup (groupsBefore + groupCount passage.pattern)
        later ⟨passage.stop, passage.recorded groupsBefore ++ captures⟩ stop
        passages) :
      Traverses lookup groupsBefore (.parameter name :: later)
        ⟨passage.start, captures⟩ stop (passage :: passages)

/-! ## Passages of a match -/

/-- The pattern in the place of a placeholder matches a passage. -/
theorem Inserted.exists_passage {placeholder groupsBefore : Nat}
    {type : ParameterType} {node : Node}
    (inserted : Inserted placeholder groupsBefore type.pattern.root node)
    {start stop : Reach} (walks : node.Walks start stop) :
    ∃ passage : Passage, passage.type = type ∧
      passage.start = start.cursor ∧
        stop =
          ⟨passage.stop, passage.recorded groupsBefore ++ start.captures⟩ := by
  cases inserted with
  | whole closed same =>
      obtain ⟨inner, inside, rfl⟩ := walks
      obtain ⟨added, alone⟩ := same.walks_alone closed inside
      refine ⟨⟨type, start.cursor, inner.cursor, [], alone⟩, rfl, rfl, ?_⟩
      rw [Passage.recorded, Passage.pattern, closed, added]
      rfl
  | renamed opened same named =>
      have listed : ∀ group ∈ type.pattern.root.groups,
          group.1 ∈ type.pattern.root.groups.map (·.1) :=
        fun group member => List.mem_map_of_mem member
      obtain ⟨own, added, -, alone⟩ := same.traces listed walks
      have walksAlone := alone []
      rw [List.append_nil] at walksAlone
      refine ⟨⟨type, start.cursor, stop.cursor, own, walksAlone⟩, rfl, rfl,
        ?_⟩
      rw [Passage.recorded, Passage.pattern, if_neg (by simpa using opened),
        ← added]

/-- A part that is no placeholder records nothing. -/
theorem exists_written {segment : Segment} {later : Way}
    {start stop : Reach}
    (walks : ((writtenNode segment).Walks.Then later) start stop) :
    ∃ middle : Cursor,
      (writtenNode segment).Walks ⟨start.cursor, []⟩ ⟨middle, []⟩ ∧
        later ⟨middle, start.captures⟩ stop := by
  obtain ⟨⟨middle, captures⟩, part, rest⟩ := walks
  obtain ⟨rfl, alone⟩ :=
    (Renumbered.refl _).walks_alone (groups_writtenNode segment) part
  exact ⟨middle, alone, rest⟩

section Segments

variable {insert : Insertion} {lookup : TypeLookup}

/-- The patterns of segments match along the segments. -/
theorem exists_traverses {segments : List Segment}
    {types : List ParameterType} (resolves : Resolves lookup segments types)
    (inserted : ∀ type ∈ types, ∀ placeholder groupsBefore,
      Inserted placeholder groupsBefore type.pattern.root
        (insert placeholder groupsBefore type.pattern.root))
    {placeholders groupsBefore : Nat} {start stop : Reach}
    (walks : Node.WalksAll
      (segmentNodesBy insert lookup placeholders groupsBefore segments)
      start stop) :
    ∃ passages : List Passage, passages.map (·.type) = types ∧
      Traverses lookup groupsBefore segments start stop passages := by
  induction segments generalizing types placeholders groupsBefore start with
  | nil =>
      cases resolves
      cases walks
      exact ⟨[], rfl, .done _ _⟩
  | cons segment later ih =>
      have written (plain : segment.parameter? = none)
          (walks : ((writtenNode segment).Walks.Then (Node.WalksAll
            (segmentNodesBy insert lookup placeholders groupsBefore later)))
            start stop) :
          ∃ passages : List Passage, passages.map (·.type) = types ∧
            Traverses lookup groupsBefore (segment :: later) start stop
              passages := by
        rw [Resolves, List.filterMap_cons_none plain] at resolves
        obtain ⟨middle, part, rest⟩ := exists_written walks
        obtain ⟨passages, own, traverses⟩ := ih resolves inserted rest
        exact ⟨passages, own, .written plain part traverses⟩
      cases segment with
      | text chars => exact written rfl walks
      | blanks chars => exact written rfl walks
      | optional chars => exact written rfl walks
      | alternation alternatives => exact written rfl walks
      | parameter name =>
          have names :
              (Segment.parameter name :: later).filterMap
                  Segment.parameter? =
                name :: later.filterMap Segment.parameter? := rfl
          rw [Resolves, names] at resolves
          cases resolves with
          | cons known resolves =>
              rename_i type types
              rw [List.forall_mem_cons] at inserted
              have put := inserted.1 placeholders groupsBefore
              simp only [segmentNodesBy, patternOf, known] at walks
              obtain ⟨middle, part, rest⟩ := walks
              rw [put.max_lastGroup] at rest
              obtain ⟨passage, rfl, began, rfl⟩ := put.exists_passage part
              obtain ⟨passages, own, traverses⟩ :=
                ih resolves inserted.2 rest
              refine ⟨passage :: passages, by rw [List.map_cons, own], ?_⟩
              have place : start = ⟨passage.start, start.captures⟩ := by
                rw [began]
              rw [place]
              exact .placeholder known traverses

end Segments

/-! ## Groups that belong to a placeholder -/

namespace Traverses

variable {lookup : TypeLookup} {groupsBefore : Nat} {segments : List Segment}
  {start stop : Reach} {passages : List Passage}

/-- Each passage has the type of the name in its place. -/
theorem names
    (traverses : Traverses lookup groupsBefore segments start stop passages) :
    List.Forall₂ (fun name passage => lookup name = some passage.type)
      (segments.filterMap Segment.parameter?) passages := by
  induction traverses with
  | done groupsBefore place => exact .nil
  | written plain part rest ih =>
      rw [List.filterMap_cons_none plain]
      exact ih
  | placeholder known rest ih => exact .cons known ih

theorem known
    (traverses : Traverses lookup groupsBefore segments start stop passages) :
    ∀ passage ∈ passages, ∃ name, lookup name = some passage.type := by
  induction traverses with
  | done groupsBefore place => exact nofun
  | written plain part rest ih => exact ih
  | placeholder known rest ih =>
      rw [List.forall_mem_cons]
      exact ⟨⟨_, known⟩, ih⟩

/-- All passages lie in the same text. -/
theorem text_eq
    (traverses : Traverses lookup groupsBefore segments start stop passages) :
    ∀ passage ∈ passages, passage.start.text = start.cursor.text := by
  induction traverses with
  | done groupsBefore place => exact nofun
  | written plain part rest ih =>
      intro passage member
      exact (ih passage member).trans (Node.walks_forward _ part).text
  | @placeholder groupsBefore name later passage captures stop passages known
      rest ih =>
      rw [List.forall_mem_cons]
      refine ⟨rfl, ?_⟩
      intro other member
      exact (ih other member).trans
        (Node.walks_forward _ passage.walks).text

end Traverses

/-- A pattern takes up numbers behind those before it. -/
theorem ownGroups_bounds {pattern : Node} (numbered : pattern.Numbered)
    (groupsBefore : Nat) :
    ∀ index ∈ ownGroups groupsBefore pattern,
      groupsBefore < index ∧
        index ≤ groupsBefore + groupCount pattern := by
  unfold ownGroups groupCount
  split
  · simp
  · intro index member
    obtain ⟨group, among, rfl⟩ := List.mem_map.mp member
    have lowest := numbered group among
    have highest := le_foldl_max (List.mem_map_of_mem (f := (·.1)) among) 0
    rw [← lastGroup_eq] at highest
    omega

namespace Passage

variable (passage : Passage) (groupsBefore : Nat)

theorem mem_ownGroups_of_recorded :
    ∀ capture ∈ passage.recorded groupsBefore,
      capture.1 ∈ ownGroups groupsBefore passage.pattern := by
  unfold recorded ownGroups
  split
  · simp
  · intro capture member
    obtain ⟨own, among, rfl⟩ := List.mem_map.mp member
    have listed := Node.mem_groups_of_walks passage.walks own among
    obtain ⟨group, inside, same⟩ := List.mem_map.mp listed
    exact List.mem_map.mpr ⟨group, inside, by rw [same]⟩

/-- The groups of a placeholder tell what its passage captured. -/
theorem findSome?_recorded :
    (ownGroups groupsBefore passage.pattern).findSome?
        (fun group => (passage.recorded groupsBefore).lookup group) =
      passage.captured? := by
  have injective : Function.Injective (· + groupsBefore) :=
    fun _ _ => Nat.add_right_cancel
  unfold recorded captured? ownGroups
  by_cases closed : passage.pattern.groups.isEmpty = true
  · simp [closed]
  · simp only [closed, Bool.false_eq_true, if_false, List.findSome?_map]
    congr 1
    funext group
    exact Captures.lookup_renumber injective passage.own group.1

end Passage

theorem findSome?_congr {Item Found : Type} {items : List Item}
    {find other : Item → Option Found}
    (same : ∀ item ∈ items, find item = other item) :
    items.findSome? find = items.findSome? other := by
  induction items with
  | nil => rfl
  | cons item later ih =>
      rw [List.forall_mem_cons] at same
      rw [List.findSome?_cons, List.findSome?_cons, same.1, ih same.2]

namespace Traverses

variable {lookup : TypeLookup} {groupsBefore : Nat} {segments : List Segment}
  {start stop : Reach} {passages : List Passage}

/-- What is recorded behind some groups has higher numbers. -/
theorem exists_added
    (traverses : Traverses lookup groupsBefore segments start stop passages)
    (numbered : ∀ passage ∈ passages, passage.pattern.Numbered) :
    ∃ added : Captures, stop.captures = added ++ start.captures ∧
      ∀ capture ∈ added, groupsBefore < capture.1 := by
  induction traverses with
  | done groupsBefore place => exact ⟨[], rfl, nofun⟩
  | written plain part rest ih => exact ih numbered
  | @placeholder groupsBefore name later passage captures stop passages known
      rest ih =>
      rw [List.forall_mem_cons] at numbered
      obtain ⟨added, same, above⟩ := ih numbered.2
      refine ⟨added ++ passage.recorded groupsBefore, ?_, ?_⟩
      · rw [same, List.append_assoc]
      · rw [List.forall_mem_append]
        constructor
        · intro capture member
          have higher := above capture member
          omega
        · intro capture member
          have own := passage.mem_ownGroups_of_recorded _ capture member
          exact (ownGroups_bounds numbered.1 _ _ own).1

/-- The groups of each placeholder tell what its own passage captured. -/
theorem captured
    (traverses : Traverses lookup groupsBefore segments start stop passages)
    (numbered : ∀ passage ∈ passages, passage.pattern.Numbered)
    (below : ∀ capture ∈ start.captures, capture.1 ≤ groupsBefore) :
    List.Forall₂
      (fun groups passage =>
        groups.findSome? (fun group => stop.captures.lookup group) =
          passage.captured?)
      (groupsAlong groupsBefore (passages.map (·.type))) passages := by
  induction traverses with
  | done groupsBefore place => exact .nil
  | written plain part rest ih => exact ih numbered below
  | @placeholder groupsBefore name later passage captures stop passages known
      rest ih =>
      rw [List.forall_mem_cons] at numbered
      obtain ⟨added, same, above⟩ := rest.exists_added numbered.2
      have bounds := ownGroups_bounds numbered.1 groupsBefore
      rw [List.map_cons, groupsAlong]
      refine .cons ?_ (ih numbered.2 ?_)
      · rw [← passage.findSome?_recorded groupsBefore]
        apply findSome?_congr
        intro group member
        obtain ⟨low, high⟩ := bounds group member
        -- Its own numbers are neither among the later nor the earlier ones.
        have behind : added.lookup group = none := by
          rw [List.lookup_eq_none_iff]
          intro capture among
          have higher := above capture among
          exact bne_iff_ne.mpr (by omega)
        have before : captures.lookup group = none := by
          rw [List.lookup_eq_none_iff]
          intro capture among
          have lower := below capture among
          exact bne_iff_ne.mpr (by omega)
        rw [same, List.lookup_append, List.lookup_append, behind, before,
          Option.none_or, Option.or_none]
      · rw [List.forall_mem_append]
        constructor
        · intro capture member
          have own := passage.mem_ownGroups_of_recorded _ capture member
          exact (bounds _ own).2
        · intro capture member
          have lower := below capture member
          omega

end Traverses

/-! ## Matches -/

theorem resolves_of_resolveTypes {registry : ParameterRegistry}
    {names : List String} {types : List ParameterType}
    (resolved : resolveTypes registry names = .ok types) :
    List.Forall₂ (fun name type => registry.lookup? name = some type) names
      types := by
  induction names generalizing types with
  | nil =>
      cases resolved
      exact .nil
  | cons name later ih =>
      simp only [resolveTypes, bind, Except.bind] at resolved
      split at resolved
      · cases resolved
      · rename_i type known
        split at resolved
        · cases resolved
        · rename_i others rest
          cases resolved
          exact .cons known (ih rest)

theorem Resolves.mem_types {registry : ParameterRegistry}
    {segments : List Segment} {types : List ParameterType}
    (resolves : Resolves registry.lookup? segments types) :
    ∀ type ∈ types, type ∈ registry.types := by
  unfold Resolves at resolves
  generalize segments.filterMap Segment.parameter? = names at resolves
  induction resolves with
  | nil => exact nofun
  | cons known others ih =>
      rw [List.forall_mem_cons]
      exact ⟨List.mem_of_find?_eq_some known, ih⟩

theorem length_le_of_readSegments {fuel : Nat} {chars : List Char}
    {segments : List Segment}
    (read : readSegments fuel chars = .ok segments) :
    segments.length ≤ fuel := by
  induction fuel generalizing chars segments with
  | zero => cases chars <;> cases read <;> exact Nat.le_refl 0
  | succ fuel ih =>
      cases chars with
      | nil =>
          cases read
          exact Nat.zero_le _
      | cons char rest =>
          simp only [readSegments, bind, Except.bind] at read
          split at read
          · cases read
          · split at read
            · cases read
            · rename_i later done
              cases read
              exact Nat.succ_le_succ (ih done)

namespace Template

/-- How a template comes of its expression. -/
structure MadeBy (insert : Insertion) (registry : ParameterRegistry)
    (template : Template) (segments : List Segment)
    (types : List ParameterType) : Prop where
  parsed : parse template.source = .ok segments
  resolves : Resolves registry.lookup? segments types
  root : template.root = expandBy insert registry.lookup? segments
  placeholders : template.placeholders =
    (placeholderGroups template.root types.length).zipWith Placeholder.mk types

variable {insert : Insertion} {registry : ParameterRegistry}
  {source : String} {template : Template}

theorem exists_madeBy
    (compiled : compileBy insert registry source = .ok template) :
    template.source = source ∧
      ∃ segments types, template.MadeBy insert registry segments types := by
  unfold compileBy at compiled
  split at compiled
  · cases compiled
  · rename_i segments parsed
    split at compiled
    · cases compiled
    · rename_i types resolved
      dsimp only at compiled
      split at compiled
      · cases compiled
      · cases compiled
        exact ⟨rfl, segments, types, parsed, resolves_of_resolveTypes resolved,
          rfl, rfl⟩

/-- An expression has at least one character for each placeholder. -/
theorem MadeBy.length_le {segments : List Segment}
    {types : List ParameterType}
    (made : template.MadeBy insert registry segments types) :
    types.length ≤ template.source.length := by
  calc types.length
    _ = (segments.filterMap Segment.parameter?).length :=
        made.resolves.length_eq.symm
    _ ≤ segments.length := List.length_filterMap_le _ _
    _ ≤ template.source.toList.length := length_le_of_readSegments made.parsed
    _ = template.source.length := String.length_toList

/-- A whole match goes along the segments, from one end of the text to the
other. -/
theorem walksAll_of_findFrom? {lookup : TypeLookup} {segments : List Segment}
    {text : List Char} {found : Match}
    (search : (expandBy insert lookup segments).findFrom? [] text =
      some found) :
    ∃ stop : Cursor, stop.after = [] ∧
      Node.WalksAll (segmentNodesBy insert lookup 0 0 segments)
        ⟨Cursor.start text, []⟩ ⟨stop, found.captures⟩ := by
  obtain ⟨start, stop, precedes, walks, -⟩ := Node.exists_of_findFrom? search
  rw [expandBy, Node.walks_sequence, List.cons_append] at walks
  obtain ⟨first, ⟨starts, rfl⟩, walks⟩ := walks
  rw [Node.walksAll_append] at walks
  obtain ⟨last, walks, place, ⟨ends, rfl⟩, stays⟩ := walks
  cases stays
  have position : start.position = 0 := by
    simpa [Anchor.holds, Cursor.position] using starts
  have same := start.eq_advance
  rw [precedes.text, position] at same
  rw [same] at walks
  exact ⟨stop, by simpa [Anchor.holds] using ends, walks⟩

/-- Each placeholder gives what its passage captured. -/
theorem map_zipWith_captured {text : List Char} {found : Match}
    {groups : List (List Nat)} {passages : List Passage}
    (captured : List.Forall₂
      (fun groups passage =>
        groups.findSome? (fun group => found.captures.lookup group) =
          passage.captured?) groups passages) :
    (groups.zipWith Placeholder.mk (passages.map (·.type))).map
        (fun placeholder =>
          let span := placeholder.groups.findSome? found.group?
          (⟨span.map fun span => String.ofList (span.of text),
            some placeholder.type⟩ : Capture)) =
      passages.map (·.capture text) := by
  induction captured with
  | nil => rfl
  | cons own others ih =>
      rw [List.map_cons, List.zipWith_cons_cons, List.map_cons, ih,
        List.map_cons, Passage.capture, ← own]
      rfl

/-- A match goes through a text along segments, with some passages. -/
structure Passes (template : Template) (lookup : TypeLookup)
    (segments : List Segment) (text : List Char) (passages : List Passage) :
    Prop where
  names : List.Forall₂ (fun name passage => lookup name = some passage.type)
    (segments.filterMap Segment.parameter?) passages
  traverses : ∃ found stop, template.root.findFrom? [] text = some found ∧
    Traverses lookup 0 segments ⟨Cursor.start text, []⟩
      ⟨stop, found.captures⟩ passages ∧ stop.after = []

/-- The captures of a match are those of its passages. -/
theorem MadeBy.exists_passages_of_inserted {segments : List Segment}
    {types : List ParameterType}
    (made : template.MadeBy insert registry segments types)
    (inserted : ∀ type ∈ types, ∀ placeholder groupsBefore,
      Inserted placeholder groupsBefore type.pattern.root
        (insert placeholder groupsBefore type.pattern.root))
    (numbered : ∀ type ∈ types, type.pattern.root.Numbered)
    (few : types.length ≤ 2 ^ 64) {text : String} {captures : List Capture}
    (matched : template.match? text = some captures) :
    ∃ passages, template.Passes registry.lookup? segments text.toList
        passages ∧
      captures = passages.map (·.capture text.toList) := by
  obtain ⟨found, search, rfl⟩ := Option.map_eq_some_iff.mp matched
  have whole := search
  rw [made.root] at whole
  obtain ⟨stop, ends, walks⟩ := walksAll_of_findFrom? whole
  obtain ⟨passages, rfl, traverses⟩ :=
    exists_traverses made.resolves inserted walks
  refine ⟨passages, ⟨traverses.names, found, stop, search, traverses, ends⟩,
    ?_⟩
  have own : ∀ passage ∈ passages, passage.pattern.Numbered :=
    fun passage member => numbered _ (List.mem_map_of_mem member)
  have captured := traverses.captured own nofun
  have groups := placeholderGroups_expandBy made.resolves inserted few
  rw [← made.root] at groups
  rw [made.placeholders, groups]
  exact map_zipWith_captured captured

theorem MadeBy.exists_passages {segments : List Segment}
    {types : List ParameterType}
    (made : template.MadeBy insert registry segments types)
    (defined : registry.Defined) (documented : insert.Documented registry)
    (short : template.source.length ≤ 2 ^ 64) {text : String}
    {captures : List Capture}
    (matched : template.match? text = some captures) :
    ∃ passages, template.Passes registry.lookup? segments text.toList
        passages ∧
      captures = passages.map (·.capture text.toList) := by
  have listed := made.resolves.mem_types
  exact made.exists_passages_of_inserted
    (fun type member => documented type (listed type member))
    (fun type member =>
      numbered_of_compile (defined.compiled type (listed type member)))
    (Nat.le_trans made.length_le short) matched

/--
A match gives one capture for each placeholder, in order and with the type of
its name.  Each is what the pattern of that type captured in its own passage,
where the passages lie in the text as the segments say.  The length of a text
in memory is a number that a machine word can hold.
-/
theorem match?_passages (insert : Insertion) {registry : ParameterRegistry}
    (defined : registry.Defined) (documented : insert.Documented registry)
    {source : String} (short : source.length ≤ 2 ^ 64) {template : Template}
    (compiled : compileBy insert registry source = .ok template)
    {text : String} {captures : List Capture}
    (matched : template.match? text = some captures) :
    ∃ segments passages, parse source = .ok segments ∧
      template.Passes registry.lookup? segments text.toList passages ∧
        captures = passages.map (·.capture text.toList) := by
  obtain ⟨rfl, segments, types, made⟩ := exists_madeBy compiled
  obtain ⟨passages, passes, captured⟩ :=
    made.exists_passages defined documented short matched
  exact ⟨segments, passages, made.parsed, passes, captured⟩

end Template

end Expression

namespace Sample

open Expression (Insertion Template parse placeholderNode)

/-- Of the two groups of a color, the one that took part tells the text. -/
theorem painted_passages :
    painted.Defined ∧ Insertion.Documented placeholderNode painted ∧
      "{color} {int} {color}".length ≤ 2 ^ 64 ∧
      ∃ template captures,
        Template.compileBy placeholderNode painted "{color} {int} {color}" =
            .ok template ∧
          template.match? "red 2 blue" = some captures ∧
          captures.map (·.text) = [some "red", some "2", some "blue"] ∧
          ∃ segments passages,
            parse "{color} {int} {color}" = .ok segments ∧
              template.Passes painted.lookup? segments "red 2 blue".toList
                passages ∧
              captures = passages.map (·.capture "red 2 blue".toList) := by
  have defined : painted.Defined := withType_defined (by decide +kernel)
  have documented : Insertion.Documented placeholderNode painted :=
    Insertion.documented_placeholderNode (by decide +kernel)
  have short : "{color} {int} {color}".length ≤ 2 ^ 64 := by decide +kernel
  have texts :
      ((Template.compileBy placeholderNode painted
        "{color} {int} {color}").toOption.bind
          (·.match? "red 2 blue")).map (·.map (·.text)) =
        some [some "red", some "2", some "blue"] := by
    decide +kernel
  obtain ⟨captures, matched, same⟩ := Option.map_eq_some_iff.mp texts
  obtain ⟨template, found, matched⟩ := Option.bind_eq_some_iff.mp matched
  have compiled : Template.compileBy placeholderNode painted
      "{color} {int} {color}" = .ok template := by
    revert found
    cases Template.compileBy placeholderNode painted
        "{color} {int} {color}" with
    | error reason => exact nofun
    | ok own => exact congrArg Except.ok ∘ Option.some.inj
  exact ⟨defined, documented, short, template, captures, compiled, matched,
    same, Template.match?_passages placeholderNode defined documented short
      compiled matched⟩

/-- A group inside of a repetition is not renamed, and the groups behind it
shift. -/
example :
    ((Template.compile (withType "opt" "(a)?")
      "{opt} {int}").toOption.bind
        (·.match? "a 1")).map (·.map (·.text)) =
      some [some "a", some "a"] := by
  decide +kernel

end Sample

end ScenarioRunner
