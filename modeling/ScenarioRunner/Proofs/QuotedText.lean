import ScenarioRunner.Proofs.SinglePlaceholder
import ScenarioRunner.Proofs.TextReplacement

/-!
# Quoted texts

A text is quoted with a backslash in front of each quote in it, and the type of
quoted texts makes the text of it again.  If the text has no backslashes, then
the pattern of the type takes the quoted text as a whole, and there is no other
way to match it.  So an expression that is one placeholder of the type captures
the text.

The main statement is `QuoteMark.quoted_reads_back`.
-/

namespace ScenarioRunner

open Regex

/-! ## Quoting -/

/-- The characters that texts are quoted with. -/
inductive QuoteMark where
  | double
  | single
  deriving DecidableEq, Repr

namespace QuoteMark

def char : QuoteMark → Char
  | .double => '"'
  | .single => '\''

variable (mark : QuoteMark)

/-- A text between quotes, with a backslash in front of each quote in it. -/
def quoted (text : String) : String :=
  let quote := String.singleton mark.char
  quote ++ Text.replace quote ("\\" ++ quote) text ++ quote

/-- A character as it stands in a quoted text. -/
def escape (char : Char) : List Char :=
  if char = mark.char then ['\\', mark.char] else [char]

theorem char_ne_backslash : mark.char ≠ '\\' := by
  cases mark <;> decide

theorem toList_quoted (text : String) :
    (mark.quoted text).toList =
      mark.char :: (text.toList.flatMap mark.escape ++ [mark.char]) := by
  simp [quoted, Text.replace, Text.replaceFrom_single]
  rfl

theorem escape_ne_nil (char : Char) : mark.escape char ≠ [] := by
  unfold escape
  split <;> exact List.cons_ne_nil _ _

/-- What is between quotes does not start with a quote. -/
theorem head?_flatMap_escape (text : List Char) :
    (text.flatMap mark.escape).head? ≠ some mark.char := by
  cases text with
  | nil => exact nofun
  | cons char rest =>
      rw [List.flatMap_cons, escape]
      split
      · simp [mark.char_ne_backslash.symm]
      · simpa using ‹_›

end QuoteMark

namespace Transformer

theorem unescapeQuote_quote (quote : Char) (rest : List Char) :
    unescapeQuote quote ('\\' :: quote :: rest) =
      quote :: unescapeQuote quote rest := by
  simp [unescapeQuote]

/-- A character stays if it is not a backslash in front of a quote. -/
theorem unescapeQuote_other {quote char : Char} {rest : List Char}
    (other : char = '\\' → rest.head? ≠ some quote) :
    unescapeQuote quote (char :: rest) =
      char :: unescapeQuote quote rest := by
  by_cases backslash : char = '\\'
  · subst backslash
    cases rest with
    | nil => simp [unescapeQuote]
    | cons second rest =>
        have different : second ≠ quote := by simpa using other rfl
        simp [unescapeQuote, different]
  · simp [unescapeQuote, backslash]

/-- Quotes that are escaped are read back, wherever else backslashes are. -/
theorem unescapeQuote_escape (mark : QuoteMark) (text : List Char) :
    unescapeQuote mark.char (text.flatMap mark.escape) = text := by
  induction text with
  | nil => rfl
  | cons char rest ih =>
      rw [List.flatMap_cons, QuoteMark.escape]
      split
      · rename_i quote
        rw [quote, List.cons_append, List.singleton_append,
          unescapeQuote_quote, ih]
      · rw [List.singleton_append, unescapeQuote_other, ih]
        exact fun _ => mark.head?_flatMap_escape rest

theorem quotedText_quoted (mark : QuoteMark) (text : String) :
    quotedText (mark.quoted text) = .ok (.text text) := by
  have inner : unquote (mark.quoted text).toList =
      unescapeQuote mark.char (text.toList.flatMap mark.escape) := by
    rw [mark.toList_quoted]
    cases mark <;> simp [unquote, QuoteMark.char]
  rw [quotedText, inner, unescapeQuote_escape, String.ofList_toList]

end Transformer

/-! ## The pattern of quoted texts -/

namespace QuoteMark

variable (mark : QuoteMark)

/-- The pattern of a character between quotes: one that is neither a quote nor
a backslash, or a backslash with any character behind it. -/
def innerNode : Node :=
  .alt
    (.oneOf (.complement (.union (.single mark.char) (.single '\\'))))
    (.seq (.literal '\\') (.oneOf (.complement (.single '\n'))))

/-- The pattern of a text in quotes. -/
def node : Node :=
  .seq (.literal mark.char)
    (.seq (.repeat mark.innerNode 0 none true) (.literal mark.char))

theorem root_quotedPattern :
    (Regex.ofSource ParameterType.quotedPattern).root =
      .alt QuoteMark.double.node QuoteMark.single.node := by
  decide +kernel

theorem accepts_innerNode {char : Char} (plain : char ≠ '\\') :
    mark.innerNode.Walks.Accepts (mark.escape char) := by
  intro before rest captures
  unfold escape
  split
  · have quote :
        (CharClass.complement (.single '\n')).contains mark.char = true := by
      cases mark <;> decide
    exact Or.inr ((Way.accepts_literal '\\').seq (Way.accepts_oneOf quote)
      before rest captures)
  · rename_i other
    refine Or.inl (Way.accepts_oneOf ?_ before rest captures)
    simp [CharClass.contains, Ne.symm other, Ne.symm plain]

/-- A text without backslashes is taken in quotes. -/
theorem accepts_node {text : List Char} (plain : '\\' ∉ text) :
    mark.node.Walks.Accepts
      (mark.char :: (text.flatMap mark.escape ++ [mark.char])) := by
  have pieces : ∀ piece ∈ text.map mark.escape,
      piece ≠ [] ∧ mark.innerNode.Walks.Accepts piece := by
    rw [List.forall_mem_map]
    intro char member
    exact ⟨mark.escape_ne_nil char,
      mark.accepts_innerNode (ne_of_mem_of_not_mem member plain)⟩
  have inner : (Node.repeat mark.innerNode 0 none true).Walks.Accepts
      (text.flatMap mark.escape) := by
    intro before rest captures
    by_cases empty : text = []
    · subst empty
      exact Or.inr rfl
    · rw [List.flatMap_def]
      exact Or.inl (Way.loops_flatten (by simpa using empty) pieces true
        before rest captures)
  exact (Way.accepts_literal mark.char).seq
    (inner.seq (Way.accepts_literal mark.char))

/-- What is left of a quoted text behind its first quote. -/
inductive Left : List Char → Prop where
  | last : Left [mark.char]
  | plain {char : Char} {later : List Char} (other : char ≠ mark.char)
      (unescaped : char ≠ '\\') (rest : Left later) : Left (char :: later)
  | quote {later : List Char} (rest : Left later) :
      Left ('\\' :: mark.char :: later)

theorem left_flatMap_escape {text : List Char} (plain : '\\' ∉ text) :
    mark.Left (text.flatMap mark.escape ++ [mark.char]) := by
  induction text with
  | nil => exact .last
  | cons char rest ih =>
      rw [List.mem_cons, not_or] at plain
      rw [List.flatMap_cons, escape]
      split
      · exact .quote (ih plain.2)
      · rename_i other
        exact .plain other (Ne.symm plain.1) (ih plain.2)

variable {mark} {start stop : Reach}

theorem after_of_innerNode (walks : mark.innerNode.Walks start stop) :
    (∃ char, char ≠ mark.char ∧ char ≠ '\\' ∧
        start.cursor.after = char :: stop.cursor.after) ∨
      ∃ char, start.cursor.after = '\\' :: char :: stop.cursor.after := by
  rcases walks with inner | ⟨middle, first, second⟩
  · obtain ⟨char, member, takes⟩ := takes_of_oneOf inner
    rw [CharClass.contains, CharClass.contains, CharClass.contains_single,
      CharClass.contains_single, Bool.not_eq_true', Bool.or_eq_false_iff,
      beq_eq_false_iff_ne, beq_eq_false_iff_ne] at member
    exact .inl ⟨char, member.1.symm, member.2.symm, takes.after⟩
  · obtain ⟨char, member, early⟩ := takes_of_oneOf first
    obtain ⟨other, -, late⟩ := takes_of_oneOf second
    rw [CharClass.contains_single, beq_iff_eq] at member
    rw [member]
    exact .inr ⟨other, (early.trans late).after⟩

/-- The pattern takes a backslash together with the quote behind it. -/
theorem Left.step (walks : mark.innerNode.Walks start stop)
    (left : mark.Left start.cursor.after) : mark.Left stop.cursor.after := by
  rcases after_of_innerNode walks with ⟨char, other, plain, after⟩ |
    ⟨char, after⟩
  · generalize start.cursor.after = whole at left after
    cases left with
    | last => exact absurd (List.cons.inj after).1.symm other
    | plain _ _ rest => exact (List.cons.inj after).2 ▸ rest
    | quote rest => exact absurd (List.cons.inj after).1.symm plain
  · generalize start.cursor.after = whole at left after
    cases left with
    | last => exact nomatch (List.cons.inj after).2
    | plain _ unescaped rest =>
        exact absurd (List.cons.inj after).1 unescaped
    | quote rest =>
        exact (List.cons.inj (List.cons.inj after).2).2 ▸ rest

/-- Nothing is left behind a quote that is not escaped. -/
theorem Left.eq_nil {left rest : List Char} (whole : mark.Left left)
    (quote : left = mark.char :: rest) : rest = [] := by
  cases whole with
  | last => exact (List.cons.inj quote).2.symm
  | plain other _ _ => exact absurd (List.cons.inj quote).1 other
  | quote _ =>
      exact absurd (List.cons.inj quote).1 mark.char_ne_backslash.symm

/-- A quoted text is taken up to its last quote only. -/
theorem after_of_node (walks : mark.node.Walks start stop) {left : List Char}
    (quoted : start.cursor.after = mark.char :: left)
    (whole : mark.Left left) : stop.cursor.after = [] := by
  obtain ⟨second, opens, third, inner, closes⟩ := walks
  obtain ⟨first, -, early⟩ := takes_of_oneOf opens
  obtain ⟨last, member, late⟩ := takes_of_oneOf closes
  rw [CharClass.contains_single, beq_iff_eq] at member
  rw [← member] at late
  have begins : mark.Left second.cursor.after := by
    have after := early.after
    rw [quoted, List.singleton_append, List.cons.injEq] at after
    rwa [← after.2]
  have ends : mark.Left third.cursor.after := by
    rcases inner with loops | rfl
    · exact loops.preserves (fun place => mark.Left place.cursor.after)
        (fun _ _ => Left.step) begins
    · exact begins
  exact ends.eq_nil late.after

variable (mark)

section WithoutBackslash

variable {text : String} (plain : '\\' ∉ text.toList)

include plain

/-- The pattern matches a quoted text as a whole. -/
theorem matchesWhole_quoted :
    (Regex.ofSource ParameterType.quotedPattern).MatchesWhole
      (mark.quoted text).toList := by
  apply matchesWhole_of_accepts
  rw [root_quotedPattern, mark.toList_quoted]
  intro before rest captures
  have walks := mark.accepts_node plain before rest captures
  cases mark with
  | double => exact Or.inl walks
  | single => exact Or.inr walks

/-- A quoted text cannot be matched in part. -/
theorem after_of_quotedPattern {stop : Reach}
    (walks : (Regex.ofSource ParameterType.quotedPattern).root.Walks
      ⟨Cursor.start (mark.quoted text).toList, []⟩ stop) :
    stop.cursor.after = [] := by
  have whole := mark.left_flatMap_escape plain
  rw [root_quotedPattern, mark.toList_quoted] at walks
  -- Only the alternative of the own quote can match the first character.
  have own (other : QuoteMark)
      (walks : other.node.Walks
        ⟨Cursor.start (mark.char ::
          (text.toList.flatMap mark.escape ++ [mark.char])), []⟩ stop) :
      stop.cursor.after = [] := by
    have same : other = mark := by
      obtain ⟨second, opens, -⟩ := walks
      obtain ⟨first, member, takes⟩ := takes_of_oneOf opens
      have after := (List.cons.inj takes.after).1
      rw [CharClass.contains_single, beq_iff_eq, ← after] at member
      cases other <;> cases mark <;> simp_all [char]
    subst same
    exact after_of_node walks rfl whole
  rcases walks with double | single
  · exact own .double double
  · exact own .single single

end WithoutBackslash

/-- The type of quoted texts. -/
theorem exists_type {registry : ParameterRegistry}
    (defined : registry.Defined) :
    ∃ type, registry.lookup? "string" = some type ∧
      type.pattern = .ofSource ParameterType.quotedPattern ∧
        type.transform = .quotedText := by
  have member :
      ParameterType.ofDefinition
          ⟨"string", ParameterType.quotedPattern, .quotedText, true⟩ ∈
        ParameterType.builtin := by
    simp [ParameterType.builtin]
  have known := defined.lookup?_name (defined.mem_of_builtin _ member)
  exact ⟨_, known, ParameterType.pattern_ofDefinition _, rfl⟩

/--
The type of quoted texts makes of a quoted text the text itself, whatever
characters it has.  If it has no backslashes, then the pattern of the type
matches the quoted text as a whole, and finds nothing shorter in it; and the
expression that is one placeholder of the type captures the text.
-/
theorem quoted_reads_back {registry : ParameterRegistry}
    (defined : registry.Defined) :
    ∃ type template, registry.lookup? "string" = some type ∧
      Expression.Template.compile registry "{string}" = .ok template ∧
      ∀ text : String,
        type.transform (mark.quoted text) = .ok (.text text) ∧
          ('\\' ∉ text.toList →
            type.pattern.MatchesWhole (mark.quoted text).toList ∧
              (type.pattern.find? (mark.quoted text).toList).map (·.whole) =
                some ⟨0, (mark.quoted text).toList.length⟩ ∧
              ∃ capture,
                template.match? (mark.quoted text) = some [capture] ∧
                  capture.text = some (mark.quoted text) ∧
                  capture.value = .ok (some (.text text))) := by
  obtain ⟨type, known, pattern, transform⟩ := exists_type defined
  have parsed : Expression.parse "{string}" = .ok [.parameter "string"] := by
    decide +kernel
  have closed : type.pattern.root.groups = [] := by
    rw [pattern]
    decide +kernel
  obtain ⟨template, compiled⟩ :=
    Expression.Template.compile_single parsed known closed
  refine ⟨type, template, known, compiled, ?_⟩
  intro text
  have value : type.transform (mark.quoted text) = .ok (.text text) := by
    rw [transform, Transformer.quotedText_quoted]
  refine ⟨value, ?_⟩
  intro plain
  have whole : type.pattern.MatchesWhole (mark.quoted text).toList := by
    rw [pattern]
    exact mark.matchesWhole_quoted plain
  have first := find?_of_matchesWhole whole fun stop walks =>
    mark.after_of_quotedPattern plain (pattern ▸ walks)
  refine ⟨whole, first, _,
    Expression.Template.match?_single parsed known closed compiled whole, rfl,
    ?_⟩
  simp [Capture.value, value, Except.map]

end QuoteMark

namespace Sample

/-- A text with quotes of both kinds, quoted with one of them. -/
theorem said_reads_back :
    ({} : ParameterRegistry).Defined ∧
      QuoteMark.double.quoted "say \"it's\"" =
        "\"say \\\"it's\\\"\"" ∧
      '\\' ∉ "say \"it's\"".toList ∧
      ∃ template capture,
        Expression.Template.compile {} "{string}" = .ok template ∧
          template.match? "\"say \\\"it's\\\"\"" = some [capture] ∧
          capture.value = .ok (some (.text "say \"it's\"")) := by
  have quoted : QuoteMark.double.quoted "say \"it's\"" =
      "\"say \\\"it's\\\"\"" := by
    decide +kernel
  have plain : '\\' ∉ "say \"it's\"".toList := by
    decide +kernel
  obtain ⟨type, template, -, compiled, reads⟩ :=
    QuoteMark.double.quoted_reads_back .builtin
  obtain ⟨-, matches?⟩ := reads "say \"it's\""
  obtain ⟨-, -, capture, matched, -, value⟩ := matches? plain
  rw [quoted] at matched
  exact ⟨.builtin, quoted, plain, template, capture, compiled, matched, value⟩

/-- A backslash at the end is read back, although it keeps the pattern from
matching. -/
example :
    Transformer.quotedText (QuoteMark.double.quoted "a\\") =
        .ok (.text "a\\") ∧
      (Regex.ofSource ParameterType.quotedPattern).find?
          (QuoteMark.double.quoted "a\\").toList = none := by
  decide +kernel

end Sample

end ScenarioRunner
