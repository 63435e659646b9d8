import ScenarioRunner.Tag.Token

/-!
# How the tokens of a tag expression are written

A text is written token by token.  Blanks may stand between tokens, a bracket
stands for itself, and a word is written letter by letter, with a backslash
before each letter that would end it and before no other.  A word reaches up to
the next bracket or blank, so that two words never touch.

The main statement is `tokens_eq_ok_iff`: cutting a text gives exactly the
tokens that the text is a writing of.
-/

namespace ScenarioRunner.TagExpression

open ScenarioRunner.Text

/-! ## Words and texts -/

theorem exists_of_map_eq_ok {Error First Second : Type}
    {result : Except Error First} {change : First → Second} {value : Second}
    (mapped : result.map change = .ok value) :
    ∃ first, result = .ok first ∧ change first = value := by
  cases result with
  | error error => cases mapped
  | ok first => exact ⟨first, rfl, Except.ok.inj mapped⟩

/-- A text is a writing of the letters of a word. -/
inductive Spells : List Char → List Char → Prop where
  | nil : Spells [] []
  | plain {char : Char} {text word : List Char}
      (bare : needsEscape char = false) (rest : Spells text word) :
      Spells (char :: text) (char :: word)
  | escaped {char : Char} {text word : List Char}
      (special : needsEscape char = true) (rest : Spells text word) :
      Spells ('\\' :: char :: text) (char :: word)

/-- Whether a character ends the word before it. -/
def isBoundary (char : Char) : Bool :=
  char == '(' || char == ')' || isBlank char

/-- A word may stand before a text. -/
def Separated (text : List Char) : Prop :=
  ∀ char ∈ text.head?, isBoundary char = true

/-- A text is a writing of tokens. -/
inductive Tokenizes : List Char → List Token → Prop where
  | nil : Tokenizes [] []
  | blank {char : Char} {text : List Char} {found : List Token}
      (blank : isBlank char = true) (rest : Tokenizes text found) :
      Tokenizes (char :: text) found
  | opening {text : List Char} {found : List Token}
      (rest : Tokenizes text found) :
      Tokenizes ('(' :: text) (.opening :: found)
  | closing {text : List Char} {found : List Token}
      (rest : Tokenizes text found) :
      Tokenizes (')' :: text) (.closing :: found)
  | word {letters word text : List Char} {found : List Token}
      (spells : Spells letters word) (some : word ≠ [])
      (separated : Separated text) (rest : Tokenizes text found) :
      Tokenizes (letters ++ text)
        (Token.ofWord (String.ofList word) :: found)

@[simp]
theorem separated_nil : Separated [] := by
  intro char member
  cases member

@[simp]
theorem separated_cons_iff (char : Char) (text : List Char) :
    Separated (char :: text) ↔ isBoundary char = true := by
  simp [Separated]

/-- A character that needs no backslash ends no word. -/
theorem isBoundary_of_bare {char : Char} (bare : needsEscape char = false) :
    isBoundary char = false := by
  simp only [needsEscape, Bool.or_eq_false_iff] at bare
  obtain ⟨⟨⟨opening, closing⟩, -⟩, blank⟩ := bare
  simp [isBoundary, opening, closing, blank]

/-- The tokens that a bracket or a blank stands for. -/
def boundaryTokens (char : Char) : List Token :=
  if char = '(' then [.opening] else if char = ')' then [.closing] else []

theorem Tokenizes.boundary {char : Char} {text : List Char}
    {found : List Token} (boundary : isBoundary char = true)
    (rest : Tokenizes text found) :
    Tokenizes (char :: text) (boundaryTokens char ++ found) := by
  unfold boundaryTokens
  split
  · rename_i opening
    subst opening
    exact rest.opening
  · split
    · rename_i closing
      subst closing
      exact rest.closing
    · rename_i opening closing
      refine .blank ?_ rest
      simpa [isBoundary, opening, closing] using boundary

theorem isBoundary_of_blank {char : Char} (blank : isBlank char = true) :
    isBoundary char = true := by
  simp [isBoundary, blank]

theorem boundaryTokens_of_blank {char : Char} (blank : isBlank char = true) :
    boundaryTokens char = [] := by
  have opening : char ≠ '(' := by
    rintro rfl
    revert blank
    decide
  have closing : char ≠ ')' := by
    rintro rfl
    revert blank
    decide
  simp [boundaryTokens, opening, closing]

theorem endWord_reverse {word : List Char} (some : word ≠ [])
    (found : List Token) :
    endWord word.reverse found =
      Token.ofWord (String.ofList word) :: found := by
  unfold endWord
  split
  · rename_i none
    exact absurd (List.reverse_eq_nil_iff.mp none) some
  · rw [List.reverse_reverse]

/-- A word that is ended stands before the tokens of the text behind it. -/
theorem Tokenizes.endWord
    {letters word text : List Char} {found : List Token}
    (spells : Spells letters word) (separated : Separated text)
    (rest : Tokenizes text found) :
    Tokenizes (letters ++ text)
      (TagExpression.endWord word.reverse found) := by
  cases word with
  | nil =>
      cases spells
      exact rest
  | cons char others =>
      have some := List.cons_ne_nil char others
      rw [endWord_reverse some]
      exact .word spells some separated rest

/-! ## One character at a time -/

section Step

variable (word text : List Char)

theorem tokensFrom_plain {char : Char} (bare : needsEscape char = false) :
    tokensFrom word (char :: text) = tokensFrom (char :: word) text := by
  have inside := isBoundary_of_bare bare
  simp only [isBoundary, Bool.or_eq_false_iff] at inside
  have letter : char ≠ '\\' := by
    rintro rfl
    simp [needsEscape] at bare
  rw [tokensFrom.eq_4 _ _ _ (by simp [letter]) (by simp [letter])]
  simp [inside]

theorem tokensFrom_escaped {char : Char} (special : needsEscape char = true) :
    tokensFrom word ('\\' :: char :: text) =
      tokensFrom (char :: word) text := by
  simp [tokensFrom, special]

/-- A bracket or a blank ends the word in front of it. -/
theorem tokensFrom_boundary {char : Char} (boundary : isBoundary char = true) :
    tokensFrom word (char :: text) =
      (tokensFrom [] text).map fun later =>
        endWord word (boundaryTokens char ++ later) := by
  have letter : char ≠ '\\' := by
    rintro rfl
    revert boundary
    decide
  rw [tokensFrom.eq_4 _ _ _ (by simp [letter]) (by simp [letter])]
  by_cases opening : char = '('
  · simp [opening, boundaryTokens]
  · by_cases closing : char = ')'
    · simp [closing, boundaryTokens]
    · have blank : isBlank char = true := by
        simpa [isBoundary, opening, closing] using boundary
      simp [opening, closing, blank, boundaryTokens]

/-- The letters of a word are read one after the other. -/
theorem tokensFrom_spells {letters more : List Char}
    (spells : Spells letters more) :
    tokensFrom word (letters ++ text) =
      tokensFrom (more.reverse ++ word) text := by
  induction spells generalizing word with
  | nil => rfl
  | plain bare rest ih =>
      rw [List.cons_append, tokensFrom_plain _ _ bare, ih]
      simp
  | escaped special rest ih =>
      rw [List.cons_append, List.cons_append,
        tokensFrom_escaped _ _ special, ih]
      simp

/-- A word ends where the text behind it is separated from it. -/
theorem tokensFrom_of_separated {found : List Token}
    (separated : Separated text) (rest : tokensFrom [] text = .ok found) :
    tokensFrom word text = .ok (endWord word found) := by
  cases text with
  | nil =>
      cases rest
      rfl
  | cons char others =>
      have boundary := (separated_cons_iff char others).mp separated
      rw [tokensFrom_boundary _ _ boundary] at rest ⊢
      obtain ⟨later, read, rfl⟩ := exists_of_map_eq_ok rest
      rw [read]
      rfl

end Step

/-! ## Texts and their tokens -/

/--
A text goes on with letters of the word that has been begun, up to its first
bracket or blank; what stands behind them is a writing of the other tokens.
-/
def Continues (word text : List Char) (found : List Token) : Prop :=
  ∃ letters more behind later,
    text = letters ++ behind ∧ Spells letters more ∧ Separated behind ∧
      Tokenizes behind later ∧ found = endWord (more.reverse ++ word) later

namespace Continues

variable {word text : List Char} {found : List Token}

theorem nil (word : List Char) : Continues word [] (endWord word []) :=
  ⟨[], [], [], [], rfl, .nil, separated_nil, .nil, rfl⟩

theorem plain {char : Char} (bare : needsEscape char = false)
    (continues : Continues (char :: word) text found) :
    Continues word (char :: text) found := by
  obtain ⟨letters, more, behind, later, rfl, spells, facts⟩ := continues
  exact
    ⟨char :: letters, char :: more, behind, later, rfl,
      .plain bare spells, by simpa using facts⟩

theorem escaped {char : Char} (special : needsEscape char = true)
    (continues : Continues (char :: word) text found) :
    Continues word ('\\' :: char :: text) found := by
  obtain ⟨letters, more, behind, later, rfl, spells, facts⟩ := continues
  exact
    ⟨'\\' :: char :: letters, char :: more, behind, later, rfl,
      .escaped special spells, by simpa using facts⟩

/-- No word has been begun where a text starts. -/
theorem tokenizes (continues : Continues [] text found) :
    Tokenizes text found := by
  obtain ⟨letters, more, behind, later, rfl, spells, separated, rest, rfl⟩ :=
    continues
  rw [List.append_nil]
  exact .endWord spells separated rest

theorem boundary {char : Char} (boundary : isBoundary char = true)
    (continues : Continues [] text found) (word : List Char) :
    Continues word (char :: text)
      (endWord word (boundaryTokens char ++ found)) := by
  refine ⟨[], [], char :: text, _, rfl, .nil, ?_, ?_, rfl⟩
  · exact (separated_cons_iff char text).mpr boundary
  · exact .boundary boundary continues.tokenizes

end Continues

theorem continues_of_tokensFrom {word text : List Char} {found : List Token}
    (read : tokensFrom word text = .ok found) :
    Continues word text found := by
  -- The recursion drops one character or, behind a backslash, two.
  fun_induction tokensFrom word text generalizing found with
  | case1 word =>
      cases read
      exact .nil word
  | case2 word => cases read
  | case3 word char rest special ih =>
      exact .escaped special (ih read)
  | case4 word char rest plain => cases read
  | case5 word char rest single double opening ih =>
      obtain ⟨later, behind, rfl⟩ := exists_of_map_eq_ok read
      obtain rfl := eq_of_beq opening
      exact (ih behind).boundary (by decide) word
  | case6 word char rest single double opening closing ih =>
      obtain ⟨later, behind, rfl⟩ := exists_of_map_eq_ok read
      obtain rfl := eq_of_beq closing
      exact (ih behind).boundary (by decide) word
  | case7 word char rest single double opening closing blank ih =>
      obtain ⟨later, behind, rfl⟩ := exists_of_map_eq_ok read
      have continues :=
        (ih behind).boundary (isBoundary_of_blank blank) word
      rwa [boundaryTokens_of_blank blank] at continues
  | case8 word char rest single double opening closing blank ih =>
      have letter : char ≠ '\\' := by
        intro backslash
        cases rest with
        | nil => exact single backslash rfl
        | cons next others => exact double next others backslash rfl
      refine .plain ?_ (ih read)
      simp_all [needsEscape]

/-- What a writing of tokens is cut into. -/
theorem tokensFrom_of_tokenizes {text : List Char} {found : List Token}
    (tokenizes : Tokenizes text found) :
    tokensFrom [] text = .ok found := by
  induction tokenizes with
  | nil => rfl
  | blank blank rest ih =>
      rw [tokensFrom_boundary _ _ (isBoundary_of_blank blank), ih,
        boundaryTokens_of_blank blank]
      rfl
  | opening rest ih =>
      rw [tokensFrom_boundary _ _ (by decide), ih]
      rfl
  | closing rest ih =>
      rw [tokensFrom_boundary _ _ (by decide), ih]
      rfl
  | word spells some separated rest ih =>
      rw [tokensFrom_spells _ _ spells, List.append_nil,
        tokensFrom_of_separated _ _ separated ih, endWord_reverse some]

/-- Cutting a text gives exactly the tokens that the text is a writing of. -/
theorem tokens_eq_ok_iff {text : String} {found : List Token} :
    tokens text = .ok found ↔ Tokenizes text.toList found := by
  constructor
  · intro read
    exact (continues_of_tokensFrom read).tokenizes
  · intro tokenizes
    exact tokensFrom_of_tokenizes tokenizes

end ScenarioRunner.TagExpression
