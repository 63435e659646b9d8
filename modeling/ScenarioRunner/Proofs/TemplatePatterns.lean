import ScenarioRunner.Proofs.EscapedPatterns
import ScenarioRunner.Proofs.FirstOccurrences
import ScenarioRunner.Proofs.PathParts

/-!
# The patterns of templates

A template consists of placeholders and of texts without brackets.  Filling one
placeholder after the other comes to the same as filling all of them at once:
the brackets of what is filled in have backslashes before them, so that they
make up no placeholder, neither alone nor together with what stands around
them.  Slashes are not escaped, so an escaped path has the starts of the path,
escaped.

The main statement is `Templates.patterns_expand`.
-/

namespace ScenarioRunner

namespace Templates

/-! ## Starts of paths -/

/-- The starts of a path, from its first part alone up to the whole path. -/
def starts (path : List Char) : List (List Char) :=
  (List.range (Path.parts path).length).map fun index =>
    Path.ofParts ((Path.parts path).take (index + 1))

theorem slash_not_mem_escape {char : Char} (name : char ≠ '/') :
    '/' ∉ escape [char] := by
  cases sign : isPatternSign char with
  | true => simp [escape_sign sign, Ne.symm name]
  | false => simp [escape_plain sign, Ne.symm name]

/-- The parts of an escaped path are those of the path, escaped. -/
theorem parts_escape (path : List Char) :
    Path.parts (escape path) = (Path.parts path).map escape := by
  induction path with
  | nil => rfl
  | cons char rest ih =>
      rw [escape_cons, Path.parts_cons]
      split
      · rename_i slash
        rw [slash, escape_plain rfl, List.singleton_append, Path.parts_cons,
          if_pos rfl, ih]
        rfl
      · rename_i name
        rw [Path.parts_append (slash_not_mem_escape name), ih]
        cases Path.parts rest with
        | nil => rfl
        | cons first others =>
            rw [List.map_cons, List.modifyHead_cons, List.modifyHead_cons,
              List.map_cons, escape_cons first]

theorem ofParts_escape (parts : List (List Char)) :
    Path.ofParts (parts.map escape) = escape (Path.ofParts parts) := by
  induction parts with
  | nil => rfl
  | cons part later ih =>
      cases later with
      | nil => simp [Path.ofParts]
      | cons second others =>
          have more : (second :: others).map escape ≠ [] :=
            List.cons_ne_nil _ _
          rw [List.map_cons, Path.ofParts_cons _ more, ih,
            Path.ofParts_cons _ (List.cons_ne_nil _ _), escape_append,
            escape_cons _ '/', escape_plain rfl]
          rfl

theorem fileparts_escape (path : List Char) :
    fileparts (escape path) =
      (starts path).map fun start => String.ofList (escape start) := by
  rw [fileparts, starts, parts_escape, List.length_map, List.map_map]
  apply List.map_congr_left
  intro index _
  rw [Function.comp_apply, ← List.map_take, ofParts_escape]

/-- The path of a feature file without its extension. -/
def featurePath (root feature : String) : List Char :=
  (Path.withoutExtension (Path.relativeTo root feature)).toList

section FeaturePath

variable {root feature : String}

theorem backslash_not_mem_featurePath (free : '\\' ∉ feature.toList) :
    '\\' ∉ featurePath root feature := fun member =>
  have name : '\\' ≠ '/' := by decide
  free (Path.mem_of_mem_relativeTo name
    (Path.mem_of_mem_withoutExtension name member))

theorem filepath_eq (free : '\\' ∉ feature.toList) :
    filepath root feature = escape (featurePath root feature) := by
  rw [filepath, featurePath,
    Path.withSlashes_eq (backslash_not_mem_featurePath free)]

theorem backslash_not_mem_starts {path start : List Char}
    (free : '\\' ∉ path) (member : start ∈ starts path) :
    '\\' ∉ start := by
  obtain ⟨index, -, rfl⟩ := List.mem_map.mp member
  intro inside
  exact free (Path.mem_of_mem_ofParts
    (List.take_subset _ _) (by decide) inside)

end FeaturePath

/-! ## Placeholders -/

/-- A name in brackets. -/
def place (name : List Char) : List Char := '[' :: (name ++ [']'])

theorem place_prefix_cons {name rest : List Char} {char : Char} :
    place name <+: char :: rest ↔ '[' = char ∧ name ++ [']'] <+: rest :=
  List.cons_prefix_cons

/-- The placeholder for the path of a feature file. -/
def pathPlace : List Char :=
  place ['f', 'i', 'l', 'e', 'p', 'a', 't', 'h']

/-- The placeholder for the starts of that path. -/
def startPlace : List Char :=
  place ['f', 'i', 'l', 'e', 'p', 'a', 'r', 't']

theorem toList_filepath : "[filepath]".toList = pathPlace := by
  simp [pathPlace, place]

theorem toList_filepart : "[filepart]".toList = startPlace := by
  simp [startPlace, place]

/-- A placeholder is none of the other kind. -/
theorem skips_startPlace (rest : List Char) :
    Text.Skips pathPlace startPlace rest := by
  refine ⟨by simp [pathPlace, place], ?_⟩
  exact Text.skips_of_not_mem (by decide)

/-! ## Brackets of escaped texts -/

/-- A text whose first bracket, if any, opens or comes behind a backslash. -/
def StartsOpen : List Char → Prop
  | [] => True
  | char :: rest =>
      char ≠ ']' ∧ (char = '[' ∨ char = '\\' ∨ StartsOpen rest)

theorem startsOpen_append {front rest : List Char} (absent : ']' ∉ front)
    (starts : StartsOpen rest) : StartsOpen (front ++ rest) := by
  induction front with
  | nil => exact starts
  | cons char front ih =>
      obtain ⟨own, later⟩ := not_or.mp (mt List.mem_cons.mpr absent)
      exact ⟨Ne.symm own, Or.inr (Or.inr (ih later))⟩

theorem startsOpen_escape (text : List Char) {rest : List Char}
    (starts : StartsOpen rest) : StartsOpen (escape text ++ rest) := by
  induction text with
  | nil => exact starts
  | cons char text ih =>
      rw [escape_cons, List.append_assoc]
      cases sign : isPatternSign char with
      | true =>
          rw [escape_sign sign]
          exact ⟨by decide, Or.inr (Or.inl rfl)⟩
      | false =>
          rw [escape_plain sign]
          refine ⟨?_, Or.inr (Or.inr ih)⟩
          rintro rfl
          exact absurd sign (by decide)

/-- A name and a closing bracket do not come first in such a text. -/
theorem StartsOpen.name_absent {name rest : List Char}
    (starts : StartsOpen rest) (opens : '[' ∉ name) (free : '\\' ∉ name) :
    ¬ name ++ [']'] <+: rest := by
  induction name generalizing rest with
  | nil =>
      rintro ⟨back, rfl⟩
      exact starts.1 rfl
  | cons char name ih =>
      rintro ⟨back, rfl⟩
      rw [List.mem_cons, not_or] at opens free
      obtain opened | escaped | later := starts.2
      · exact opens.1 opened.symm
      · exact free.1 escaped.symm
      · exact ih later opens.2 free.2 ⟨back, rfl⟩

/-- No name in brackets starts inside an escaped text. -/
theorem skips_escape {name : List Char} (opens : '[' ∉ name)
    (free : '\\' ∉ name) (text : List Char) {rest : List Char}
    (starts : StartsOpen rest) :
    Text.Skips (place name) (escape text) rest := by
  induction text with
  | nil => trivial
  | cons char text ih =>
      have behind : ¬ name ++ [']'] <+: escape text ++ rest :=
        (startsOpen_escape text starts).name_absent opens free
      rw [escape_cons, Text.skips_append]
      refine ⟨?_, ih⟩
      cases sign : isPatternSign char with
      | true =>
          rw [escape_sign sign]
          refine ⟨?_, ?_, trivial⟩
          · exact fun matched =>
              absurd (place_prefix_cons.mp matched).1 (by decide)
          · exact fun matched => behind (place_prefix_cons.mp matched).2
      | false =>
          rw [escape_plain sign]
          apply Text.skips_of_not_mem
          intro bracket
          obtain rfl := List.mem_singleton.mp bracket
          exact absurd sign (by decide)

/-! ## Templates as parts -/

/-- What a template consists of. -/
inductive Part where
  | text (chars : List Char)
  | filepath
  | filepart
  deriving DecidableEq, Repr

/-- A part with what is put in for placeholders. -/
def Part.filled (filepath filepart : List Char) : Part → List Char
  | .text chars => chars
  | .filepath => filepath
  | .filepart => filepart

/-- A part that has no brackets, except as a placeholder. -/
def Part.IsPlain : Part → Prop
  | .text chars => '[' ∉ chars ∧ ']' ∉ chars
  | .filepath => True
  | .filepart => True

/-- A template whose only brackets are those of placeholders. -/
structure Template where
  parts : List Part
  plain : ∀ part ∈ parts, part.IsPlain

namespace Template

/-- A template with what is put in for placeholders. -/
def filled (filepath filepart : List Char) (parts : List Part) : List Char :=
  parts.flatMap (Part.filled filepath filepart)

/-- A template as it is written. -/
def source (template : Template) : String :=
  String.ofList (filled pathPlace startPlace template.parts)

/-- The pattern of a template for a path and a start of it. -/
def pattern (template : Template) (path start : List Char) : String :=
  String.ofList (filled (escape path) (escape start) template.parts)

/-- The patterns that a template stands for: one for each start of the path if
the template has a placeholder for them, and else a single one. -/
def expansions (path : List Char) (template : Template) : List String :=
  if .filepart ∈ template.parts then
    (starts path).map (template.pattern path)
  else [template.pattern path path]

section Filling

variable {parts : List Part}

theorem filled_congr {filepath : List Char} (absent : .filepart ∉ parts)
    (first second : List Char) :
    filled filepath first parts = filled filepath second parts := by
  rw [filled, filled, List.flatMap_def, List.flatMap_def]
  refine congrArg List.flatten (List.map_congr_left ?_)
  rintro (_ | _ | _) member
  · rfl
  · rfl
  · exact absurd member absent

theorem filled_cons (filepath filepart : List Char) (part : Part)
    (later : List Part) :
    filled filepath filepart (part :: later) =
      part.filled filepath filepart ++ filled filepath filepart later :=
  List.flatMap_cons

/-- Replacing the placeholders for the path fills them. -/
theorem replace_pathPlace (replacement : List Char)
    (plain : ∀ part ∈ parts, part.IsPlain) :
    Text.replaceFrom pathPlace replacement 0
        (filled pathPlace startPlace parts) =
      filled replacement startPlace parts := by
  induction parts with
  | nil => rfl
  | cons part later ih =>
      obtain ⟨own, others⟩ := List.forall_mem_cons.mp plain
      rw [filled_cons, filled_cons, ← ih others]
      cases part with
      | text chars => exact Text.replaceFrom_append own.1 _
      | filepath => exact Text.replaceFrom_pattern _ _ _
      | filepart => exact Text.replaceFrom_of_skips (skips_startPlace _)

theorem startsOpen_filled (path : List Char)
    (plain : ∀ part ∈ parts, part.IsPlain) :
    StartsOpen (filled (escape path) startPlace parts) := by
  induction parts with
  | nil => trivial
  | cons part later ih =>
      obtain ⟨own, others⟩ := List.forall_mem_cons.mp plain
      rw [filled_cons]
      cases part with
      | text chars => exact startsOpen_append own.2 (ih others)
      | filepath => exact startsOpen_escape path (ih others)
      | filepart => exact ⟨by decide, Or.inl rfl⟩

/-- In front of other parts, no part but the placeholder for starts has one of
these in it. -/
theorem skips_filled (path : List Char) {part : Part}
    (other : part ≠ .filepart) {later : List Part}
    (plain : ∀ each ∈ part :: later, each.IsPlain) :
    Text.Skips startPlace (part.filled (escape path) startPlace)
      (filled (escape path) startPlace later) := by
  obtain ⟨own, others⟩ := List.forall_mem_cons.mp plain
  cases part with
  | text chars => exact Text.skips_of_not_mem own.1
  | filepath =>
      exact skips_escape (by decide) (by decide) path
        (startsOpen_filled path others)
  | filepart => exact absurd rfl other

/-- Replacing the placeholders for starts fills them, once those for the path
are filled. -/
theorem replace_startPlace (path replacement : List Char)
    (plain : ∀ part ∈ parts, part.IsPlain) :
    Text.replaceFrom startPlace replacement 0
        (filled (escape path) startPlace parts) =
      filled (escape path) replacement parts := by
  induction parts with
  | nil => rfl
  | cons part later ih =>
      rw [filled_cons, filled_cons, ← ih (List.forall_mem_cons.mp plain).2]
      cases part with
      | text chars =>
          exact Text.replaceFrom_of_skips
            (skips_filled path Part.noConfusion plain)
      | filepath =>
          exact Text.replaceFrom_of_skips
            (skips_filled path Part.noConfusion plain)
      | filepart => exact Text.replaceFrom_pattern _ _ _

/-- The placeholder for starts is found if the template has it. -/
theorem startPlace_infix_iff (path : List Char)
    (plain : ∀ part ∈ parts, part.IsPlain) :
    startPlace <:+: filled (escape path) startPlace parts ↔
      .filepart ∈ parts := by
  induction parts with
  | nil => simp [filled, startPlace, place]
  | cons part later ih =>
      rw [filled_cons, List.mem_cons,
        ← ih (List.forall_mem_cons.mp plain).2]
      by_cases own : part = .filepart
      · subst own
        exact iff_of_true (List.prefix_append _ _).isInfix (Or.inl rfl)
      · rw [Text.infix_append_of_skips (skips_filled path own plain)]
        exact (or_iff_right (Ne.symm own)).symm

end Filling

/-- A template stands for its expansions. -/
theorem expand_source (template : Template) (path : List Char) :
    expand (escape path) template.source = template.expansions path := by
  have first :
      Text.replace "[filepath]" (String.ofList (escape path))
          template.source =
        String.ofList (filled (escape path) startPlace template.parts) := by
    rw [Text.replace, toList_filepath, source, String.toList_ofList,
      String.toList_ofList]
    exact congrArg String.ofList
      (replace_pathPlace (escape path) template.plain)
  have second (start : List Char) :
      Text.replace "[filepart]" (String.ofList (escape start))
          (String.ofList (filled (escape path) startPlace template.parts)) =
        template.pattern path start := by
    rw [Text.replace, toList_filepart, pattern, String.toList_ofList,
      String.toList_ofList]
    exact congrArg String.ofList
      (replace_startPlace path (escape start) template.plain)
  have found :
      Text.contains
          (String.ofList (filled (escape path) startPlace template.parts))
          "[filepart]" = true ↔
        .filepart ∈ template.parts := by
    rw [Text.contains, toList_filepart, Text.occursIn_iff,
      String.toList_ofList]
    exact startPlace_infix_iff path template.plain
  rw [expand, first, fileparts_escape, expansions]
  by_cases has : .filepart ∈ template.parts
  · rw [if_pos has, if_pos (found.mpr has), List.map_map]
    exact List.map_congr_left fun start _ => second start
  · rw [if_neg has, if_neg (mt found.mp has), pattern,
      filled_congr has startPlace (escape path)]

end Template

/-! ## All patterns -/

/--
The patterns of a feature file are the expansions of the templates in order, of
equal ones the first.  What stands in them for a placeholder is the escaped
path or an escaped start of it, and this is a pattern that matches the path or
the start and nothing else.
-/
theorem patterns_expand (templates : List Template) {root feature : String}
    (free : '\\' ∉ feature.toList) :
    let path := featurePath root feature
    let found := patterns (templates.map Template.source) root feature
    found = (templates.flatMap (Template.expansions path)).eraseDups ∧
      found.Nodup ∧
      ∀ text ∈ path :: starts path,
        ∃ pattern, Glob.read (escape text) = .ok pattern ∧
          Glob.MatchesOnly pattern text := by
  refine ⟨?_, nodup_eraseDups _, ?_⟩
  · rw [patterns, filepath_eq free, List.flatMap_map]
    refine congrArg List.eraseDups (List.flatMap_congr ?_)
    exact fun template _ => template.expand_source _
  · have path := @backslash_not_mem_featurePath root _ free
    intro text member
    apply read_escape
    rcases List.mem_cons.mp member with rfl | start
    · exact path
    · exact backslash_not_mem_starts path start

end Templates

namespace Sample

open Templates

/-- A template with the path of the feature file. -/
def besideFeature : Template where
  parts := [.text "e2e/".toList, .filepath, .text ".rs".toList]
  plain := by simp [Part.IsPlain]

/-- A template with a start of that path. -/
def aboveFeature : Template where
  parts := [.filepart, .text "/*.rs".toList]
  plain := by simp [Part.IsPlain]

/-- A directory has the name of a placeholder, and a template is repeated. -/
theorem bracketed_expands :
    '\\' ∉ "/p/[filepart]/a*.feature".toList ∧
      patterns
          ([besideFeature, aboveFeature, besideFeature].map Template.source)
          "/p" "/p/[filepart]/a*.feature" =
        [ "e2e/\\[filepart\\]/a\\*.rs",
          "\\[filepart\\]/*.rs",
          "\\[filepart\\]/a\\*/*.rs" ] ∧
      ∃ pattern,
        Glob.read "\\[filepart\\]/a\\*".toList = .ok pattern ∧
          Glob.MatchesOnly pattern "[filepart]/a*".toList := by
  have free : '\\' ∉ "/p/[filepart]/a*.feature".toList := by simp
  obtain ⟨found, -, only⟩ :=
    @patterns_expand [besideFeature, aboveFeature, besideFeature] "/p" _ free
  have path :
      featurePath "/p" "/p/[filepart]/a*.feature" =
        "[filepart]/a*".toList := by
    decide +kernel
  obtain ⟨pattern, read, same⟩ := only _ List.mem_cons_self
  rw [path] at found read same
  refine ⟨free, found.trans (by decide +kernel), pattern, ?_, same⟩
  rw [← read]
  exact congrArg Glob.read (by decide +kernel)

end Sample

end ScenarioRunner
