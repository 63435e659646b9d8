import ScenarioRunner.Proofs.TagSpelling
import ScenarioRunner.Tag.Parser

/-!
# The grammar of tag expressions

The grammar has three nonterminals, loosest first:

* a disjunction is one conjunction, or more of them with `or` in between,
* a conjunction is one operand, or more of them with `and` in between,
* an operand is a word, an operand behind `not`, or a disjunction in brackets.

A `Phrase` is a derivation of this grammar.  It spells out its tokens, and it
has a tree, in which both operators group to the left.  Reading tokens builds a
phrase on the way, so that what is read can be compared with what is derived.

The main statement is `parse_eq_ok_iff_derives`.
-/

namespace ScenarioRunner.TagExpression

/-! ## Phrases -/

/-- A nonterminal of the grammar. -/
inductive Level where
  | disjunction
  | conjunction
  | operand

/-- A derivation.  A repetition grows at its right end. -/
inductive Phrase : Level → Type where
  | word (name : String) : Phrase .operand
  | not (inside : Phrase .operand) : Phrase .operand
  | brackets (inside : Phrase .disjunction) : Phrase .operand
  | single (only : Phrase .operand) : Phrase .conjunction
  | and (left : Phrase .conjunction) (right : Phrase .operand) :
      Phrase .conjunction
  | alone (only : Phrase .conjunction) : Phrase .disjunction
  | or (left : Phrase .disjunction) (right : Phrase .conjunction) :
      Phrase .disjunction

namespace Phrase

/-- The tokens that a phrase derives. -/
def tokens {level : Level} : Phrase level → List Token
  | .word name => [.word name]
  | .not inside => .not :: inside.tokens
  | .brackets inside => .opening :: inside.tokens ++ [.closing]
  | .single only => only.tokens
  | .and left right => left.tokens ++ .and :: right.tokens
  | .alone only => only.tokens
  | .or left right => left.tokens ++ .or :: right.tokens

/-- The expression that a phrase stands for. -/
def tree {level : Level} : Phrase level → TagExpression
  | .word name => .tag name
  | .not inside => .neg inside.tree
  | .brackets inside => inside.tree
  | .single only => only.tree
  | .and left right => .conj left.tree right.tree
  | .alone only => only.tree
  | .or left right => .disj left.tree right.tree

/-- An operand behind a number of `not`s. -/
def nots : Nat → Phrase .operand → Phrase .operand
  | 0, operand => operand
  | count + 1, operand => .not (nots count operand)

@[simp]
theorem tree_nots (count : Nat) (operand : Phrase .operand) :
    (nots count operand).tree = negate count operand.tree := by
  induction count with
  | zero => rfl
  | succ count ih => simp [nots, tree, negate, ih]

@[simp]
theorem tokens_nots (count : Nat) (operand : Phrase .operand) :
    (nots count operand).tokens =
      List.replicate count .not ++ operand.tokens := by
  induction count with
  | zero => rfl
  | succ count ih => simp [nots, tokens, List.replicate_succ, ih]

theorem nots_succ (count : Nat) (operand : Phrase .operand) :
    nots (count + 1) operand = nots count (.not operand) := by
  induction count with
  | zero => rfl
  | succ count ih => exact congrArg Phrase.not ih

end Phrase

/-! ## Phrases that are being read -/

/-- The phrases that wait for an operand inside one pair of brackets. -/
structure Reading where
  left : Option (Phrase .disjunction) := none
  middle : Option (Phrase .conjunction) := none
  negations : Nat := 0

namespace Reading

/-- What waits, without the derivations. -/
def pending (reading : Reading) : Pending where
  left := reading.left.map Phrase.tree
  middle := reading.middle.map Phrase.tree
  negations := reading.negations

/-- An operand with what waited for it up to the last `or`. -/
def conjunct (reading : Reading) (operand : Phrase .operand) :
    Phrase .conjunction :=
  match reading.middle with
  | some left => .and left (.nots reading.negations operand)
  | none => .single (.nots reading.negations operand)

/-- A conjunction with all that waited for it. -/
def disjunct (reading : Reading) (conjunct : Phrase .conjunction) :
    Phrase .disjunction :=
  match reading.left with
  | some left => .or left conjunct
  | none => .alone conjunct

/-- The tokens up to the last `or`. -/
def leftTokens (reading : Reading) : List Token :=
  match reading.left with
  | some left => left.tokens ++ [.or]
  | none => []

/-- The tokens between the last `or` and the operand that is waited for. -/
def middleTokens (reading : Reading) : List Token :=
  (match reading.middle with
    | some middle => middle.tokens ++ [.and]
    | none => []) ++ List.replicate reading.negations .not

@[simp]
theorem tree_conjunct (reading : Reading) (operand : Phrase .operand) :
    (reading.conjunct operand).tree =
      reading.pending.conjunct operand.tree := by
  rcases reading with ⟨left, _ | middle, negations⟩
  · simp [conjunct, pending, Pending.conjunct, Phrase.tree]
  · simp [conjunct, pending, Pending.conjunct, Phrase.tree]

@[simp]
theorem tree_disjunct (reading : Reading) (conjunct : Phrase .conjunction) :
    (reading.disjunct conjunct).tree =
      reading.pending.disjunct conjunct.tree := by
  rcases reading with ⟨_ | left, middle, negations⟩ <;> rfl

theorem tokens_conjunct (reading : Reading) (operand : Phrase .operand) :
    (reading.conjunct operand).tokens =
      reading.middleTokens ++ operand.tokens := by
  rcases reading with ⟨left, _ | middle, negations⟩
  · simp [conjunct, middleTokens, Phrase.tokens]
  · simp [conjunct, middleTokens, Phrase.tokens]

theorem tokens_disjunct (reading : Reading)
    (conjunct : Phrase .conjunction) :
    (reading.disjunct conjunct).tokens =
      reading.leftTokens ++ conjunct.tokens := by
  rcases reading with ⟨_ | left, middle, negations⟩
  · simp [disjunct, leftTokens, Phrase.tokens]
  · simp [disjunct, leftTokens, Phrase.tokens]

/-- The tokens in front of the brackets that are innermost. -/
def tokensBefore : List Reading → List Token
  | [] => []
  | outer :: enclosing =>
      tokensBefore enclosing ++ outer.leftTokens ++ outer.middleTokens ++
        [.opening]

/--
Read tokens as a phrase inside the brackets that are open.  `value` is the
conjunction that has just been completed, or `none` where an operand has to
follow.
-/
def read (enclosing : List Reading) (reading : Reading) :
    Option (Phrase .conjunction) → List Token →
      Except SyntaxError (Phrase .disjunction)
  | none, [] => .error .expectedOperandAtEnd
  | none, .not :: rest =>
      read enclosing { reading with negations := reading.negations + 1 } none
        rest
  | none, .opening :: rest => read (reading :: enclosing) {} none rest
  | none, .word name :: rest =>
      read enclosing reading (some (reading.conjunct (.word name))) rest
  | none, token :: _ => .error (.expectedOperand token)
  | some value, [] =>
      match enclosing with
      | [] => .ok (reading.disjunct value)
      | _ :: _ => .error .unmatchedOpening
  | some value, .and :: rest =>
      read enclosing { left := reading.left, middle := some value } none rest
  | some value, .or :: rest =>
      read enclosing { left := some (reading.disjunct value) } none rest
  | some value, .closing :: rest =>
      match enclosing with
      | [] => .error .unmatchedClosing
      | outer :: enclosing =>
          read enclosing outer
            (some (outer.conjunct (.brackets (reading.disjunct value)))) rest
  | some _, token :: _ =>
      match enclosing with
      | [] => .error (.expectedOperator token)
      | _ :: _ => .error .unmatchedOpening

/-- Reading an expression is reading a phrase and forgetting its derivation. -/
theorem parseTokens_eq_map_read (enclosing : List Reading)
    (reading : Reading) (value : Option (Phrase .conjunction))
    (found : List Token) :
    parseTokens (enclosing.map pending) reading.pending
        (value.map Phrase.tree) found =
      (read enclosing reading value found).map Phrase.tree := by
  fun_induction read enclosing reading value found with
  | case1 => rfl
  | case2 enclosing reading rest ih => exact ih
  | case3 enclosing reading rest ih => exact ih
  | case4 enclosing reading name rest ih =>
      rw [Option.map_some, tree_conjunct] at ih
      exact ih
  | case5 enclosing reading token rest not opening word =>
      cases token with
      | not => cases not rfl
      | opening => cases opening rfl
      | word name => cases word name rfl
      | _ => rfl
  | case6 reading value =>
      rw [Except.map, tree_disjunct]
      rfl
  | case7 reading value outer enclosing => rfl
  | case8 enclosing reading value rest ih => exact ih
  | case9 enclosing reading value rest ih =>
      rw [← ih]
      simp [parseTokens, pending]
  | case10 reading value rest => rfl
  | case11 reading value rest outer enclosing ih =>
      rw [Option.map_some, tree_conjunct, Phrase.tree, tree_disjunct] at ih
      exact ih
  | case12 reading value token rest and or closing =>
      cases token with
      | and => cases and rfl
      | or => cases or rfl
      | closing => cases closing rfl
      | _ => rfl
  | case13 reading value token rest and or closing outer enclosing =>
      cases token with
      | and => cases and rfl
      | or => cases or rfl
      | closing => cases closing rfl
      | _ => rfl

/-! ## What is read is derived -/

/-- The tokens that have been read. -/
def tokensRead (enclosing : List Reading) (reading : Reading) :
    Option (Phrase .conjunction) → List Token
  | none =>
      tokensBefore enclosing ++ reading.leftTokens ++ reading.middleTokens
  | some value =>
      tokensBefore enclosing ++ reading.leftTokens ++ value.tokens

/-- A phrase derives the tokens from which it is read. -/
theorem tokens_of_read
    {enclosing : List Reading} {reading : Reading}
    {value : Option (Phrase .conjunction)} {found : List Token}
    {phrase : Phrase .disjunction}
    (done : read enclosing reading value found = .ok phrase) :
    phrase.tokens = tokensRead enclosing reading value ++ found := by
  fun_induction read enclosing reading value found with
  | case1 | case5 | case7 | case10 | case12 | case13 => cases done
  | case2 enclosing reading rest ih =>
      rw [ih done]
      simp [tokensRead, leftTokens, middleTokens, List.replicate_succ']
  | case3 enclosing reading rest ih =>
      rw [ih done]
      simp [tokensRead, tokensBefore, leftTokens, middleTokens]
  | case4 enclosing reading name rest ih =>
      rw [ih done]
      simp [tokensRead, tokens_conjunct, Phrase.tokens]
  | case6 reading value =>
      cases done
      simp [tokensRead, tokensBefore, tokens_disjunct]
  | case8 enclosing reading value rest ih =>
      rw [ih done]
      simp [tokensRead, leftTokens, middleTokens]
  | case9 enclosing reading value rest ih =>
      rw [ih done]
      simp [tokensRead, leftTokens, middleTokens, tokens_disjunct]
  | case11 reading value rest outer enclosing ih =>
      rw [ih done]
      simp [tokensRead, tokensBefore, tokens_conjunct, tokens_disjunct,
        Phrase.tokens]

/-! ## What is derived is read -/

/-- Behind a completed conjunction only what waits for it matters. -/
theorem read_some_congr (enclosing : List Reading)
    {first second : Reading} (same : first.left = second.left)
    (value : Phrase .conjunction) (found : List Token) :
    read enclosing first (some value) found =
      read enclosing second (some value) found := by
  have disjunct : first.disjunct value = second.disjunct value := by
    simp [Reading.disjunct, same]
  cases found with
  | nil => simp only [read, disjunct]
  | cons token rest => cases token <;> simp only [read, same, disjunct]

end Reading

/-- A phrase is read off its tokens, whatever stands behind them. -/
def Phrase.IsRead : {level : Level} → Phrase level → Prop
  | .operand, phrase =>
      ∀ enclosing reading rest,
        Reading.read enclosing reading none (phrase.tokens ++ rest) =
          Reading.read enclosing reading (some (reading.conjunct phrase)) rest
  | .conjunction, phrase =>
      ∀ enclosing left rest,
        Reading.read enclosing { left } none (phrase.tokens ++ rest) =
          Reading.read enclosing { left } (some phrase) rest
  | .disjunction, phrase =>
      ∀ enclosing rest, ∃ reading value,
        Reading.disjunct reading value = phrase ∧
          Reading.read enclosing {} none (phrase.tokens ++ rest) =
            Reading.read enclosing reading (some value) rest

theorem Phrase.isRead {level : Level} (phrase : Phrase level) :
    phrase.IsRead := by
  induction phrase with
  | word name =>
      intro enclosing reading rest
      rfl
  | not inside ih =>
      intro enclosing reading rest
      have negated :
          { reading with negations := reading.negations + 1 }.conjunct
              inside =
            reading.conjunct (.not inside) := by
        simp only [Reading.conjunct, Phrase.nots_succ]
      calc Reading.read enclosing reading none (inside.not.tokens ++ rest)
        _ = Reading.read enclosing
              { reading with negations := reading.negations + 1 } none
              (inside.tokens ++ rest) := rfl
        _ = Reading.read enclosing
              { reading with negations := reading.negations + 1 }
              (some (reading.conjunct (.not inside))) rest := by
            rw [ih, negated]
        _ = Reading.read enclosing reading
              (some (reading.conjunct (.not inside))) rest :=
            Reading.read_some_congr enclosing (by rfl) _ rest
  | brackets inside ih =>
      intro enclosing reading rest
      obtain ⟨own, value, whole, inner⟩ :=
        ih (reading :: enclosing) (.closing :: rest)
      calc Reading.read enclosing reading none (inside.brackets.tokens ++ rest)
        _ = Reading.read (reading :: enclosing) {} none
              (inside.tokens ++ .closing :: rest) := by
            simp [Phrase.tokens, Reading.read]
        _ = Reading.read enclosing reading
              (some (reading.conjunct (.brackets inside))) rest := by
            rw [inner, ← whole]
            rfl
  | single only ih =>
      intro enclosing left rest
      exact ih enclosing { left } rest
  | and first last firstIH lastIH =>
      intro enclosing left rest
      calc Reading.read enclosing { left } none ((first.and last).tokens ++ rest)
        _ = Reading.read enclosing { left } none
              (first.tokens ++ .and :: (last.tokens ++ rest)) := by
            simp [Phrase.tokens]
        _ = Reading.read enclosing { left, middle := some first } none
              (last.tokens ++ rest) := firstIH enclosing left _
        _ = Reading.read enclosing { left, middle := some first }
              (some (first.and last)) rest := lastIH enclosing _ rest
        _ = Reading.read enclosing { left } (some (first.and last)) rest :=
            Reading.read_some_congr enclosing (by rfl) _ rest
  | alone only ih =>
      intro enclosing rest
      exact ⟨{}, only, rfl, ih enclosing none rest⟩
  | or first last firstIH lastIH =>
      intro enclosing rest
      obtain ⟨reading, value, rfl, initial⟩ :=
        firstIH enclosing (.or :: (last.tokens ++ rest))
      refine ⟨{ left := some (reading.disjunct value) }, last, rfl, ?_⟩
      calc Reading.read enclosing {} none
            (((reading.disjunct value).or last).tokens ++ rest)
        _ = Reading.read enclosing {} none
              ((reading.disjunct value).tokens ++
                .or :: (last.tokens ++ rest)) := by
            simp [Phrase.tokens]
        _ = Reading.read enclosing { left := some (reading.disjunct value) } none
              (last.tokens ++ rest) := initial
        _ = Reading.read enclosing { left := some (reading.disjunct value) }
              (some last) rest := lastIH enclosing _ rest

/-- Exactly the tokens that a phrase derives are read as that phrase. -/
theorem Reading.read_eq_ok_iff {phrase : Phrase .disjunction}
    {found : List Token} :
    read [] {} none found = .ok phrase ↔ phrase.tokens = found := by
  constructor
  · intro done
    have whole := tokens_of_read done
    simpa [tokensRead, tokensBefore, leftTokens, middleTokens] using whole
  · rintro rfl
    obtain ⟨reading, value, rfl, done⟩ := phrase.isRead [] []
    rw [List.append_nil] at done
    rw [done]
    rfl

/-- Tokens have at most one derivation. -/
theorem Phrase.eq_of_tokens_eq {first second : Phrase .disjunction}
    (same : first.tokens = second.tokens) : first = second := by
  have read := Reading.read_eq_ok_iff.mpr (rfl : second.tokens = _)
  rw [← same, Reading.read_eq_ok_iff.mpr rfl] at read
  exact Except.ok.inj read

/-! ## Reading texts -/

theorem parseTokens_eq_ok_iff {found : List Token}
    {expression : TagExpression} :
    parseTokens [] {} none found = .ok expression ↔
      ∃ phrase : Phrase .disjunction,
        phrase.tokens = found ∧ phrase.tree = expression := by
  have derived := Reading.parseTokens_eq_map_read [] {} none found
  simp only [List.map_nil, Option.map_none] at derived
  rw [show ({} : Pending) = ({} : Reading).pending from rfl, derived]
  constructor
  · intro done
    obtain ⟨phrase, read, tree⟩ := exists_of_map_eq_ok done
    exact ⟨phrase, Reading.read_eq_ok_iff.mp read, tree⟩
  · rintro ⟨phrase, spelled, rfl⟩
    rw [Reading.read_eq_ok_iff.mpr spelled]
    rfl

/-- A text is read by reading its tokens, of which there have to be some. -/
theorem parse_eq_ok_iff {text : String} {expression : TagExpression} :
    parse text = .ok expression ↔
      ∃ found, tokens text = .ok found ∧
        parseTokens [] {} none found = .ok expression := by
  unfold parse
  cases tokens text with
  | error error => simp
  | ok found =>
      cases found with
      | nil => simp [parseTokens]
      | cons token rest => simp

/--
A text is read as an expression exactly if it is a writing of tokens that the
grammar derives, and the expression is the tree of that derivation.  There are
no other tokens that the text is a writing of, and no other derivation of them.
-/
theorem parse_eq_ok_iff_derives (text : String)
    (expression : TagExpression) :
    parse text = .ok expression ↔
      ∃ (found : List Token) (phrase : Phrase .disjunction),
        Tokenizes text.toList found ∧ phrase.tokens = found ∧
          phrase.tree = expression ∧
          (∀ others, Tokenizes text.toList others → others = found) ∧
          ∀ other : Phrase .disjunction,
            other.tokens = found → other = phrase := by
  rw [parse_eq_ok_iff]
  constructor
  · rintro ⟨found, cut, read⟩
    obtain ⟨phrase, spelled, tree⟩ := parseTokens_eq_ok_iff.mp read
    refine ⟨found, phrase, tokens_eq_ok_iff.mp cut, spelled, tree, ?_, ?_⟩
    · intro others writing
      have same := tokens_eq_ok_iff.mpr writing
      rw [cut] at same
      exact (Except.ok.inj same).symm
    · intro other derived
      exact Phrase.eq_of_tokens_eq (derived.trans spelled.symm)
  · rintro ⟨found, phrase, writing, spelled, tree, -, -⟩
    exact
      ⟨found, tokens_eq_ok_iff.mpr writing,
        parseTokens_eq_ok_iff.mpr ⟨phrase, spelled, tree⟩⟩

end ScenarioRunner.TagExpression
