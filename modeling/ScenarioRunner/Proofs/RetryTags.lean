import ScenarioRunner.Proofs.IntegerReading
import ScenarioRunner.Test.Options

/-!
# Tags that ask for retries

A tag `@retries(n)` asks for `n` retries if `n` is a count, blanks around it
left aside.  The last tag of this form decides, whether its value is a count or
not: behind a value that is none there are no retries, even if a tag before it
asked for some.  Other options and other tags do not matter.

The main statement is `TestOptions.retries_ofTags`.
-/

namespace ScenarioRunner

/-! ## Counts -/

namespace Number

/-- A text is digits, with an optional plus in front, of a number that so many
bits can hold. -/
inductive IsCount (bits : Nat) : List Char → Nat → Prop where
  | digits {digits : List Char} (nonempty : digits ≠ [])
      (plain : ∀ char ∈ digits, char.isDigit = true)
      (small : Nat.ofDigitChars 10 digits 0 < 2 ^ bits) :
      IsCount bits digits (Nat.ofDigitChars 10 digits 0)
  | plus {digits : List Char} (nonempty : digits ≠ [])
      (plain : ∀ char ∈ digits, char.isDigit = true)
      (small : Nat.ofDigitChars 10 digits 0 < 2 ^ bits) :
      IsCount bits ('+' :: digits) (Nat.ofDigitChars 10 digits 0)

theorem contains_unsigned_iff (bits count : Nat) :
    (IntegerRange.unsigned bits).contains count = true ↔
      count < 2 ^ bits := by
  have highest : (IntegerRange.unsigned bits).highest = 2 ^ bits - 1 := by
    simp [IntegerRange.unsigned, Nat.one_shiftLeft]
  rw [contains_iff, highest]
  have lowest : (IntegerRange.unsigned bits).lowest = 0 := rfl
  have cast : ((2 ^ bits : Nat) : Int) = 2 ^ bits := by push_cast; rfl
  omega

theorem unsigned_holdsZero (bits : Nat) :
    (IntegerRange.unsigned bits).HoldsZero := by
  have zero := (contains_iff _ _).mp
    ((contains_unsigned_iff bits 0).mpr (Nat.two_pow_pos bits))
  exact ⟨zero.1, zero.2⟩

/-- What is read from digits is what they denote. -/
theorem readDigits_eq_ok_iff (bits : Nat) (chars : List Char)
    (value : Int) :
    readDigits (.unsigned bits) false 0 chars = .ok value ↔
      (∀ char ∈ chars, char.isDigit = true) ∧
        Nat.ofDigitChars 10 chars 0 < 2 ^ bits ∧
        value = Nat.ofDigitChars 10 chars 0 := by
  by_cases plain : ∀ char ∈ chars, char.isDigit = true
  · have read := readDigits_of_digits (unsigned_holdsZero bits) false plain
      ((contains_unsigned_iff bits 0).mpr (Nat.two_pow_pos bits))
    simp only [signed, Bool.false_eq_true, if_false, Int.natCast_zero,
      contains_unsigned_iff] at read
    rw [read]
    by_cases small : Nat.ofDigitChars 10 chars 0 < 2 ^ bits
    · rw [if_pos small, Except.ok.injEq]
      exact ⟨fun same => ⟨plain, small, same.symm⟩, fun all => all.2.2.symm⟩
    · rw [if_neg small]
      constructor
      · intro same
        cases same
      · intro all
        exact absurd all.2.1 small
  · obtain ⟨char, member, other⟩ :
        ∃ char ∈ chars, char.isDigit = false := by
      simpa using plain
    obtain ⟨error, failed⟩ := readDigits_of_other (.unsigned bits) false
      member other 0
    rw [failed]
    constructor
    · intro same
      cases same
    · intro all
      exact absurd all.1 plain

/-- What is read as an integer without a minus is a count. -/
theorem isCount_of_readInteger {bits : Nat} {text : String} {value : Int}
    (read : readInteger (.unsigned bits) text = .ok value) :
    ∃ count : Nat, IsCount bits text.toList count ∧ value = count := by
  unfold readInteger at read
  split at read
  case h_1 => cases read
  case h_2 => cases read
  case h_3 => cases read
  case h_4 rest nonempty written =>
    obtain ⟨plain, small, same⟩ := (readDigits_eq_ok_iff _ _ _).mp read
    rw [written]
    exact ⟨_, .plus nonempty plain small, same⟩
  case h_5 =>
    split at read
    · rename_i negatives
      exact absurd negatives (Int.lt_irrefl 0)
    · cases read
  case h_6 =>
    rename_i nonempty _ _ _ _
    obtain ⟨plain, small, same⟩ := (readDigits_eq_ok_iff _ _ _).mp read
    exact ⟨_, .digits nonempty plain small, same⟩

/-- A count is read as an integer. -/
theorem IsCount.readInteger {bits : Nat} {text : String} {count : Nat}
    (counts : IsCount bits text.toList count) :
    readInteger (.unsigned bits) text = .ok (count : Int) := by
  generalize written : text.toList = chars at counts
  cases counts with
  | digits nonempty plain small =>
      have read := readInteger_of_digits (unsigned_holdsZero bits) nonempty
        plain
      rw [if_pos ((contains_unsigned_iff _ _).mpr small), ← written,
        String.ofList_toList] at read
      rw [read, written]
  | plus nonempty plain small =>
      have read := (readDigits_eq_ok_iff bits _ _).mpr ⟨plain, small, rfl⟩
      unfold Number.readInteger
      rw [written]
      split <;> simp_all

end Number

namespace TestOptions

/-! ## Tags -/

/-- A tag is an option: a name of ASCII letters and a value in brackets, which
has no line feeds. -/
structure IsOption (tag name value : String) : Prop where
  written : tag = "@" ++ name ++ "(" ++ value ++ ")"
  nonempty : name ≠ ""
  letters : ∀ char ∈ name.toList, char.isAlpha = true
  unbroken : '\n' ∉ value.toList

theorem IsOption.toList_eq {tag name value : String}
    (isOption : IsOption tag name value) :
    tag.toList =
      '@' :: (name.toList ++ '(' :: (value.toList ++ [')'])) := by
  rw [isOption.written]
  simp

/-- A tag that is read as an option is one. -/
theorem isOption_of_ofTag? {tag name value : String}
    (read : ofTag? tag = some (name, value)) : IsOption tag name value := by
  unfold ofTag? at read
  split at read
  case h_2 => cases read
  rename_i text written
  dsimp only at read
  split at read
  case h_2 => cases read
  rename_i first others rest taken dropped
  split at read
  case isFalse => cases read
  rename_i closed
  rw [Bool.and_eq_true, beq_iff_eq, Bool.not_eq_true', Bool.eq_false_iff,
    ne_eq, List.contains_iff_mem] at closed
  obtain ⟨ends, unbroken⟩ := closed
  rw [taken, Option.some.injEq, Prod.mk.injEq] at read
  obtain ⟨rfl, rfl⟩ := read
  have letters : ∀ char ∈ first :: others, char.isAlpha = true := by
    rw [← taken]
    exact List.all_eq_true.mp List.all_takeWhile
  have whole : text = first :: others ++ '(' :: rest := by
    rw [← taken, ← dropped, List.takeWhile_append_dropWhile]
  obtain ⟨front, rfl⟩ := List.getLast?_eq_some_iff.mp ends
  rw [List.dropLast_concat] at unbroken
  refine ⟨?_, ?_, ?_, ?_⟩
  · rw [← String.toList_inj, written, whole, List.dropLast_concat]
    simp
  · intro none
    have empty := congrArg String.toList none
    rw [String.toList_ofList] at empty
    cases empty
  · rwa [String.toList_ofList]
  · rwa [List.dropLast_concat, String.toList_ofList]

/-- An option is read as what it is. -/
theorem IsOption.ofTag? {tag name value : String}
    (isOption : IsOption tag name value) :
    ofTag? tag = some (name, value) := by
  have bracket : Char.isAlpha '(' = false := by decide
  have written := isOption.toList_eq
  have taken :
      (name.toList ++ '(' :: (value.toList ++ [')'])).takeWhile
          Char.isAlpha = name.toList := by
    rw [List.takeWhile_append_of_pos isOption.letters,
      List.takeWhile_cons_of_neg (by simp [bracket]), List.append_nil]
  have dropped :
      (name.toList ++ '(' :: (value.toList ++ [')'])).dropWhile
          Char.isAlpha = '(' :: (value.toList ++ [')']) := by
    rw [List.dropWhile_append_of_pos isOption.letters,
      List.dropWhile_cons_of_neg (by simp [bracket])]
  obtain ⟨first, others, named⟩ :=
    List.exists_cons_of_ne_nil fun none =>
      isOption.nonempty (String.toList_eq_nil_iff.mp none)
  have unbroken : value.toList.contains '\n' = false := by
    simpa using isOption.unbroken
  have back : String.ofList (first :: others) = name := by
    rw [← named, String.ofList_toList]
  generalize name.toList ++ '(' :: (value.toList ++ [')']) = text
    at written taken dropped
  unfold TestOptions.ofTag?
  simp only [written, taken.trans named, dropped, List.getLast?_concat,
    List.dropLast_concat, unbroken, back, String.ofList_toList]
  rfl

/-- A tag is read as an option if it is one. -/
theorem ofTag?_eq_some_iff (tag name value : String) :
    ofTag? tag = some (name, value) ↔ IsOption tag name value :=
  ⟨isOption_of_ofTag?, IsOption.ofTag?⟩

/-! ## Retries -/

/-- A tag asks for some number of retries. -/
def Requests (tag : String) (count : Nat) : Prop :=
  ∃ value, IsOption tag "retries" value ∧
    Number.IsCount 32 (Text.trim value).toList count

/-- A tag has the form of one that asks for retries, with a value that is no
count. -/
def IsMalformed (tag : String) : Prop :=
  ∃ value, IsOption tag "retries" value ∧
    ∀ count, ¬ Number.IsCount 32 (Text.trim value).toList count

theorem readRetries_eq_some_iff (value : String) (count : Nat) :
    readRetries value = some count ↔
      Number.IsCount 32 (Text.trim value).toList count := by
  unfold readRetries
  constructor
  · intro read
    split at read
    · rename_i number same
      obtain ⟨own, counts, rfl⟩ := Number.isCount_of_readInteger same
      rw [Int.toNat_natCast, Option.some.injEq] at read
      rwa [← read]
    · cases read
  · intro counts
    simp [counts.readInteger]

/-- A tag of the form asks for some number, or is malformed. -/
theorem exists_isOption_iff (tag : String) :
    (∃ value, IsOption tag "retries" value) ↔
      (∃ count, Requests tag count) ∨ IsMalformed tag := by
  constructor
  · rintro ⟨value, isOption⟩
    by_cases counts :
        ∃ count, Number.IsCount 32 (Text.trim value).toList count
    · obtain ⟨count, own⟩ := counts
      exact .inl ⟨count, value, isOption, own⟩
    · exact .inr ⟨value, isOption, not_exists.mp counts⟩
  · rintro (⟨-, value, isOption, -⟩ | ⟨value, isOption, -⟩)
    · exact ⟨value, isOption⟩
    · exact ⟨value, isOption⟩

/-- A tag of the form decides, whatever was asked for before. -/
theorem retries_withTag_iff {tag value : String}
    (isOption : IsOption tag "retries" value) (options : TestOptions)
    (count : Nat) :
    (options.withTag tag).retries = some count ↔ Requests tag count := by
  have read : (options.withTag tag).retries = readRetries value := by
    simp only [withTag, isOption.ofTag?]
  rw [read, readRetries_eq_some_iff]
  constructor
  · intro counts
    exact ⟨value, isOption, counts⟩
  · rintro ⟨other, same, counts⟩
    have values := isOption.ofTag?.symm.trans same.ofTag?
    cases values
    exact counts

/-- Any other tag changes nothing. -/
theorem withTag_of_other {tag : String}
    (other : ¬ ∃ value, IsOption tag "retries" value)
    (options : TestOptions) : options.withTag tag = options := by
  unfold withTag
  split
  · rename_i value read
    exact absurd ⟨value, isOption_of_ofTag? read⟩ other
  · rfl

/-- Some tag is chosen, and all tags behind it are passed over. -/
def LastIs (tags : List String) (chosen passed : String → Prop) : Prop :=
  ∃ early tag late, tags = early ++ tag :: late ∧ chosen tag ∧
    ∀ other ∈ late, passed other

theorem lastIs_nil (chosen passed : String → Prop) :
    ¬ LastIs [] chosen passed := by
  rintro ⟨early, tag, late, same, -⟩
  simp at same

/-- The tag that is chosen is the first one, or one of the others. -/
theorem lastIs_cons_iff (tag : String) (others : List String)
    (chosen passed : String → Prop) :
    LastIs (tag :: others) chosen passed ↔
      LastIs others chosen passed ∨
        chosen tag ∧ ∀ other ∈ others, passed other := by
  constructor
  · rintro ⟨early, found, late, same, own, behind⟩
    cases early with
    | nil =>
        cases same
        exact .inr ⟨own, behind⟩
    | cons first early =>
        cases same
        exact .inl ⟨early, found, late, rfl, own, behind⟩
  · rintro (⟨early, found, late, rfl, own, behind⟩ | ⟨own, behind⟩)
    · exact ⟨tag :: early, found, late, rfl, own, behind⟩
    · exact ⟨[], tag, others, rfl, own, behind⟩

/-- The last tag of the form decides, or else what was known before all
tags. -/
theorem retries_foldl_withTag_iff (tags : List String)
    (options : TestOptions) (count : Nat) :
    (tags.foldl withTag options).retries = some count ↔
      LastIs tags (Requests · count)
          (fun other => ¬ ∃ value, IsOption other "retries" value) ∨
        (∀ tag ∈ tags, ¬ ∃ value, IsOption tag "retries" value) ∧
          options.retries = some count := by
  induction tags generalizing options with
  | nil => simp [lastIs_nil]
  | cons tag others ih =>
      rw [List.foldl_cons, ih, lastIs_cons_iff, List.forall_mem_cons]
      by_cases ofForm : ∃ value, IsOption tag "retries" value
      · obtain ⟨value, isOption⟩ := id ofForm
        rw [retries_withTag_iff isOption, and_comm]
        simp only [ofForm, not_true_eq_false, false_and, or_false]
      · have unasked : ¬ Requests tag count := by
          rintro ⟨value, isOption, -⟩
          exact ofForm ⟨value, isOption⟩
        rw [withTag_of_other ofForm]
        simp only [ofForm, unasked, not_false_eq_true, true_and, false_and,
          or_false]

/--
The tests with some tags have a number of retries if a tag asks for it, and no
tag behind that one asks for any number or is malformed.
-/
theorem retries_ofTags (tags : List String) (count : Nat) :
    (ofTags tags).retries = some count ↔
      LastIs tags (Requests · count) fun other =>
        (∀ number, ¬ Requests other number) ∧ ¬ IsMalformed other := by
  have passed :
      (fun other => ¬ ∃ value, IsOption other "retries" value) =
        fun other =>
          (∀ number, ¬ Requests other number) ∧ ¬ IsMalformed other := by
    funext other
    rw [exists_isOption_iff, not_or, not_exists]
  rw [ofTags, retries_foldl_withTag_iff, passed]
  simp

end TestOptions

namespace Sample

open TestOptions (IsMalformed LastIs Requests ofTags)

/-- A malformed tag asks for nothing, and still takes back what the tag before
it asked for. -/
theorem malformed_takes_back :
    IsMalformed "@retries(many)" ∧
      LastIs ["@retries(3)", "@retries(many)"] (Requests · 3)
        (fun other => ∀ number, ¬ Requests other number) ∧
      (ofTags ["@retries(3)", "@retries(many)"]).retries = none := by
  have asks : Requests "@retries(3)" 3 :=
    ⟨"3", (TestOptions.ofTag?_eq_some_iff _ _ _).mp (by decide +kernel),
      (TestOptions.readRetries_eq_some_iff _ _).mp (by decide +kernel)⟩
  have many : TestOptions.ofTag? "@retries(many)" = some ("retries", "many") := by
    decide +kernel
  have uncounted (count : Nat) :
      ¬ Number.IsCount 32 (Text.trim "many").toList count := by
    rw [← TestOptions.readRetries_eq_some_iff]
    have unread : TestOptions.readRetries "many" = none := by
      decide +kernel
    rw [unread]
    exact nofun
  have malformed : IsMalformed "@retries(many)" :=
    ⟨"many", TestOptions.isOption_of_ofTag? many, uncounted⟩
  have unasked (number : Nat) : ¬ Requests "@retries(many)" number := by
    rintro ⟨value, isOption, counts⟩
    cases many.symm.trans isOption.ofTag?
    exact uncounted number counts
  refine ⟨malformed, ⟨[], _, _, rfl, asks, ?_⟩, by decide +kernel⟩
  exact List.forall_mem_singleton.mpr unasked

end Sample

end ScenarioRunner
