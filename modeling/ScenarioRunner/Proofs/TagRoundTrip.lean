import ScenarioRunner.Proofs.TagGrammar
import ScenarioRunner.Tag.Printer

/-!
# Printed tag expressions are read back

The text of an expression is a writing of the tokens of one phrase, in which
every operator stands in brackets of its own and the inside of every `not` in
brackets too.  The tree of this phrase is the expression, if no tag of it is
empty or reads like an operator.  Reading a text gives no other tags.

The main statement is `parse_render`.
-/

namespace ScenarioRunner.TagExpression

open ScenarioRunner.Text

/-! ## Names that can be written -/

/-- A name that is written as a single word: any but the empty one and the
operators. -/
structure IsWord (name : String) : Prop where
  some : name ≠ ""
  not_and : name ≠ "and"
  not_or : name ≠ "or"
  not_not : name ≠ "not"

/-- All tags of an expression can be written. -/
def IsWritable : TagExpression → Prop
  | .conj left right => left.IsWritable ∧ right.IsWritable
  | .disj left right => left.IsWritable ∧ right.IsWritable
  | .neg inside => inside.IsWritable
  | .tag name => IsWord name

theorem IsWord.ofWord {name : String} (word : IsWord name) :
    Token.ofWord name = .word name := by
  simp [Token.ofWord, word.not_and, word.not_or, word.not_not]

/-- Words that are read are words that can be written. -/
theorem IsWord.of_ofWord {letters : List Char} (some : letters ≠ [])
    {name : String}
    (word : Token.word name = Token.ofWord (String.ofList letters)) :
    IsWord name := by
  unfold Token.ofWord at word
  split at word
  · cases word
  · split at word
    · cases word
    · split at word
      · cases word
      · rename_i not_and not_or not_not
        cases word
        refine ⟨?_, not_and, not_or, not_not⟩
        intro empty
        exact some (by simpa using congrArg String.toList empty)

/-- A text is a writing of no words but those that can be written. -/
theorem Tokenizes.isWord
    {text : List Char} {found : List Token}
    (tokenizes : Tokenizes text found) {name : String}
    (member : Token.word name ∈ found) :
    IsWord name := by
  induction tokenizes with
  | nil => cases member
  | blank blank rest ih => exact ih member
  | opening rest ih | closing rest ih =>
      rcases List.mem_cons.mp member with bracket | later
      · cases bracket
      · exact ih later
  | word spells some separated rest ih =>
      rcases List.mem_cons.mp member with own | later
      · exact IsWord.of_ofWord some own
      · exact ih later

theorem Phrase.isWritable_tree {level : Level} (phrase : Phrase level)
    (words : ∀ name, Token.word name ∈ phrase.tokens → IsWord name) :
    phrase.tree.IsWritable := by
  induction phrase with
  | word name => exact words name (by simp [tokens])
  | not inside ih =>
      exact ih fun name member => words name (by simp [tokens, member])
  | brackets inside ih =>
      exact ih fun name member => words name (by simp [tokens, member])
  | single only ih => exact ih words
  | and left right leftIH rightIH | or left right leftIH rightIH =>
      constructor
      · exact leftIH fun name member => words name (by simp [tokens, member])
      · exact rightIH fun name member => words name (by simp [tokens, member])
  | alone only ih => exact ih words

/-- The tags of an expression that has been read can be written. -/
theorem isWritable_of_parse {text : String} {expression : TagExpression}
    (read : parse text = .ok expression) :
    expression.IsWritable := by
  obtain ⟨found, cut, parsed⟩ := parse_eq_ok_iff.mp read
  obtain ⟨phrase, rfl, rfl⟩ := parseTokens_eq_ok_iff.mp parsed
  apply phrase.isWritable_tree
  intro name member
  exact (tokens_eq_ok_iff.mp cut).isWord member

/-! ## The phrase of an expression -/

/-- The operand that an expression is printed as. -/
def operand : TagExpression → Phrase .operand
  | .conj left right =>
      .brackets (.alone (.and (.single left.operand) right.operand))
  | .disj left right =>
      .brackets (.or (.alone (.single left.operand)) (.single right.operand))
  | .neg inside => .not (.brackets (.alone (.single inside.operand)))
  | .tag name => .word name

@[simp]
theorem tree_operand (expression : TagExpression) :
    expression.operand.tree = expression := by
  induction expression with
  | conj left right leftIH rightIH | disj left right leftIH rightIH =>
      simp [operand, Phrase.tree, leftIH, rightIH]
  | neg inside ih => simp [operand, Phrase.tree, ih]
  | tag name => rfl

/-! ## The text of an expression -/

/-- A text in front of others is a writing of tokens in front of theirs. -/
def Writes (letters : List Char) (own : List Token) : Prop :=
  ∀ ⦃text : List Char⦄ ⦃found : List Token⦄,
    Separated text → Tokenizes text found →
      Tokenizes (letters ++ text) (own ++ found)

theorem separated_space (text : List Char) : Separated (' ' :: text) :=
  (separated_cons_iff ' ' text).mpr (by decide)

theorem Tokenizes.space {text : List Char} {found : List Token}
    (rest : Tokenizes text found) : Tokenizes (' ' :: text) found :=
  .blank isBlank_space rest

theorem spells_escape (name : List Char) : Spells (escape name) name := by
  induction name with
  | nil => exact .nil
  | cons char others ih =>
      cases special : needsEscape char with
      | true =>
          have written :
              escape (char :: others) = '\\' :: char :: escape others := by
            simp [escape, special]
          rw [written]
          exact .escaped special ih
      | false =>
          have written : escape (char :: others) = char :: escape others := by
            simp [escape, special]
          rw [written]
          exact .plain special ih

namespace Writes

variable {first second : List Char} {early late : List Token}

theorem letters {letters word : List Char} (spells : Spells letters word)
    (some : word ≠ []) :
    Writes letters [Token.ofWord (String.ofList word)] :=
  fun _ _ separated rest => .word spells some separated rest

theorem word {name : String} (word : IsWord name) :
    Writes (escape name.toList) [.word name] := by
  have some : name.toList ≠ [] := by
    simpa using word.some
  have written := letters (spells_escape name.toList) some
  rwa [String.ofList_toList, word.ofWord] at written

theorem not : Writes "not".toList [.not] := by
  have spells : Spells "not".toList "not".toList :=
    .plain (by decide) (.plain (by decide) (.plain (by decide) .nil))
  exact letters spells (by decide)

theorem and : Writes "and".toList [.and] := by
  have spells : Spells "and".toList "and".toList :=
    .plain (by decide) (.plain (by decide) (.plain (by decide) .nil))
  exact letters spells (by decide)

theorem or : Writes "or".toList [.or] := by
  have spells : Spells "or".toList "or".toList :=
    .plain (by decide) (.plain (by decide) .nil)
  exact letters spells (by decide)

/-- Texts with a space in between are writings of the tokens of both. -/
theorem spaced (left : Writes first early) (right : Writes second late) :
    Writes (first ++ ' ' :: second) (early ++ late) := by
  intro text found separated rest
  have whole := left (separated_space _) (right separated rest).space
  simpa using whole

theorem bracketed (inside : Writes first early) :
    Writes ("( ".toList ++ first ++ " )".toList)
      (.opening :: early ++ [.closing]) := by
  intro text found separated rest
  have closed : Tokenizes (' ' :: ')' :: text) (.closing :: found) :=
    .space rest.closing
  have whole := (inside (separated_space _) closed).space.opening
  simpa using whole

end Writes

/-- The text of an expression is a writing of the tokens of its operand. -/
theorem writes_render {expression : TagExpression}
    (writable : expression.IsWritable) :
    Writes expression.render.toList expression.operand.tokens := by
  induction expression with
  | conj left right leftIH rightIH =>
      have whole :=
        ((leftIH writable.1).spaced
          (Writes.and.spaced (rightIH writable.2))).bracketed
      simpa [render, toString, operand, Phrase.tokens] using whole
  | disj left right leftIH rightIH =>
      have whole :=
        ((leftIH writable.1).spaced
          (Writes.or.spaced (rightIH writable.2))).bracketed
      simpa [render, toString, operand, Phrase.tokens] using whole
  | neg inside ih =>
      have whole := Writes.not.spaced (ih writable).bracketed
      simpa [render, toString, operand, Phrase.tokens] using whole
  | tag name =>
      simpa [render, operand, Phrase.tokens] using Writes.word writable

/--
An expression is read back from its text if it has been read from some text, or
if none of its tags is empty or reads like an operator.
-/
theorem parse_render (expression : TagExpression)
    (legible :
      (∃ text, parse text = .ok expression) ∨ expression.IsWritable) :
    parse expression.render = .ok expression := by
  have writable : expression.IsWritable := by
    rcases legible with ⟨text, read⟩ | writable
    · exact isWritable_of_parse read
    · exact writable
  have whole := writes_render writable separated_nil .nil
  rw [List.append_nil, List.append_nil] at whole
  rw [parse_eq_ok_iff]
  refine ⟨_, tokens_eq_ok_iff.mpr whole, parseTokens_eq_ok_iff.mpr ?_⟩
  exact
    ⟨.alone (.single expression.operand), rfl, tree_operand expression⟩

/-- Tags with blanks, brackets and backslashes are read back, and so is an
expression whose text has other brackets than the one it was read from. -/
theorem parse_render_of_escaped :
    let read := TagExpression.disj (.neg (.tag "@a")) (.tag "@b(c)")
    let built := TagExpression.neg (.conj (.tag " \\") (.neg (.tag ")")))
    parse "not @a or (@b\\(c\\))" = .ok read ∧
      parse read.render = .ok read ∧ parse built.render = .ok built := by
  intro read built
  have first : parse "not @a or (@b\\(c\\))" = .ok read := rfl
  have second : built.IsWritable := by
    constructor
    · exact ⟨by decide, by decide, by decide, by decide⟩
    · exact ⟨by decide, by decide, by decide, by decide⟩
  exact
    ⟨first, parse_render read (Or.inl ⟨_, first⟩),
      parse_render built (Or.inr second)⟩

end ScenarioRunner.TagExpression
