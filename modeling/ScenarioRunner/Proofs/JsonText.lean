import Mathlib.Data.List.Basic
import ScenarioRunner.Message.Report
import ScenarioRunner.Proofs.QuotedForm

/-!
# The text of JSON values

The text of a value has no line breaks, so a text with a value on each line is
cut into the values at its line feeds.  If no identifiers are in it, a value is
determined by its text: a string goes on up to the first quote that is not
escaped, and a number as far as there are digits.

The main statement is `lines_of_named`.
-/

namespace ScenarioRunner.Message.Json

/-! ## Line feeds -/

theorem isDigit_of_mem_decimal {number : Nat} {char : Char}
    (member : char ∈ decimal number) : char.isDigit = true := by
  have digits : decimal number = Nat.toDigits 10 number := Nat.toList_repr
  rw [digits] at member
  exact Nat.isDigit_of_mem_toDigits (by decide) (by decide) member

theorem lineFeed_notMem_decimal (number : Nat) : '\n' ∉ decimal number := by
  intro member
  have digit := isDigit_of_mem_decimal member
  revert digit
  decide

/-- A character that is not escaped stands for itself. -/
theorem escapedChar_of_plain {char : Char} (printed : 32 ≤ char.toNat)
    (quote : char ≠ '"') (backslash : char ≠ '\\') :
    escapedChar char = [char] := by
  have above (control : Char) (low : control.toNat < 32) :
      char ≠ control := by
    rintro rfl
    omega
  unfold escapedChar
  split
  · exact absurd rfl quote
  · exact absurd rfl backslash
  · exact absurd rfl (above _ (by decide))
  · exact absurd rfl (above _ (by decide))
  · exact absurd rfl (above _ (by decide))
  · exact absurd rfl (above _ (by decide))
  · exact absurd rfl (above _ (by decide))
  · rw [if_neg (by omega), if_neg (by omega)]

/-- A character is escaped as a control character, a quote or a backslash, or
it is not escaped. -/
theorem char_cases {property : Char → Prop}
    (control : ∀ number : Fin 32, property (Char.ofNat number))
    (quote : property '"') (backslash : property '\\')
    (plain : ∀ char, escapedChar char = [char] → 32 ≤ char.toNat →
      char ≠ '"' → char ≠ '\\' → property char)
    (char : Char) : property char := by
  by_cases low : char.toNat < 32
  · have own := control ⟨char.toNat, low⟩
    rwa [Char.ofNat_toNat] at own
  · by_cases isQuote : char = '"'
    · exact isQuote ▸ quote
    · by_cases isBackslash : char = '\\'
      · exact isBackslash ▸ backslash
      · have printed := Nat.le_of_not_lt low
        exact plain char (escapedChar_of_plain printed isQuote isBackslash)
          printed isQuote isBackslash

theorem lineFeed_notMem_escapedChar (char : Char) :
    '\n' ∉ escapedChar char := by
  induction char using char_cases with
  | control number =>
      revert number
      decide +kernel
  | quote => decide
  | backslash => decide
  | plain char itself printed _ _ =>
      rw [itself, List.mem_singleton]
      rintro rfl
      exact absurd printed (by decide)

theorem lineFeed_notMem_quotedString (text : String) :
    '\n' ∉ quotedString text := by
  simp [quotedString, lineFeed_notMem_escapedChar]

mutual

/-- The text of a value has no line feed. -/
theorem lineFeed_notMem_characters (value : Json) :
    '\n' ∉ value.characters := by
  cases value with
  | flag value => cases value <;> decide
  | number value => exact lineFeed_notMem_decimal value
  | text value => exact lineFeed_notMem_quotedString value
  | identifier value => simp [characters, lineFeed_notMem_decimal value]
  | list items =>
      simp [characters, lineFeed_notMem_itemCharacters items]
  | object members =>
      simp [characters, lineFeed_notMem_memberCharacters members]

theorem lineFeed_notMem_itemCharacters (items : List Json) :
    '\n' ∉ itemCharacters items := by
  match items with
  | [] => decide
  | [last] => simp [itemCharacters, lineFeed_notMem_characters last]
  | first :: second :: others =>
      simp [itemCharacters, lineFeed_notMem_characters first,
        lineFeed_notMem_itemCharacters (second :: others)]

theorem lineFeed_notMem_memberCharacters (members : List (String × Json)) :
    '\n' ∉ memberCharacters members := by
  match members with
  | [] => decide
  | [(name, value)] =>
      simp [memberCharacters, lineFeed_notMem_quotedString,
        lineFeed_notMem_characters value]
  | (name, value) :: second :: others =>
      simp [memberCharacters, lineFeed_notMem_quotedString,
        lineFeed_notMem_characters value,
        lineFeed_notMem_memberCharacters (second :: others)]

end

/-- A text with a value on each line is cut into them at its line feeds;
nothing stands behind the last. -/
theorem splitOn_lines (values : List Json) :
    (String.join (values.map line)).toList.splitOn '\n' =
      values.map characters ++ [[]] := by
  have joined :
      (String.join (values.map line)).toList =
        ['\n'].intercalate (values.map characters ++ [[]]) := by
    induction values with
    | nil => rfl
    | cons first others ih =>
        have behind : others.map characters ++ [[]] ≠ [] := by simp
        rw [List.map_cons, List.map_cons, List.cons_append,
          List.intercalate_cons_of_ne_nil behind, ← ih]
        simp [line, render]
  rw [joined, List.splitOn_intercalate]
  · intro text member
    rcases List.mem_append.mp member with own | last
    · obtain ⟨value, -, rfl⟩ := List.mem_map.mp own
      exact lineFeed_notMem_characters value
    · rw [List.mem_singleton.mp last]
      exact List.not_mem_nil
  · simp

/-! ## Reading back -/

/-- Values without identifiers. -/
inductive Named : Json → Prop where
  | flag (value : Bool) : Named (.flag value)
  | number (value : Nat) : Named (.number value)
  | text (value : String) : Named (.text value)
  | list {items : List Json} (each : ∀ item ∈ items, Named item) :
      Named (.list items)
  | object {members : List (String × Json)}
      (each : ∀ member ∈ members, Named member.2) : Named (.object members)

/-- The value of a hexadecimal digit. -/
def digitValue (digit : Char) : Nat :=
  if digit.isDigit then digit.toNat - '0'.toNat
  else digit.toNat - 'a'.toNat + 10

/-- Read a character of a string as it is written; a quote is none. -/
def readChar? : List Char → Option (Char × List Char)
  | [] => none
  | '"' :: _ => none
  | '\\' :: 'u' :: _ :: _ :: high :: low :: rest =>
      some (Char.ofNat (16 * digitValue high + digitValue low), rest)
  | '\\' :: 'b' :: rest => some ('\x08', rest)
  | '\\' :: 'f' :: rest => some ('\x0C', rest)
  | '\\' :: 'n' :: rest => some ('\n', rest)
  | '\\' :: 'r' :: rest => some ('\r', rest)
  | '\\' :: 't' :: rest => some ('\t', rest)
  | '\\' :: '"' :: rest => some ('"', rest)
  | '\\' :: '\\' :: rest => some ('\\', rest)
  | '\\' :: _ => none
  | char :: rest => some (char, rest)

theorem readChar?_plain {char : Char} (quote : char ≠ '"')
    (backslash : char ≠ '\\') (rest : List Char) :
    readChar? (char :: rest) = some (char, rest) := by
  unfold readChar?
  split <;> rename_i same <;> cases same
  · exact absurd rfl quote
  iterate 9 exact absurd rfl backslash
  rfl

theorem readChar?_append {text rest : List Char} {char : Char}
    (read : readChar? text = some (char, rest)) (more : List Char) :
    readChar? (text ++ more) = some (char, rest ++ more) := by
  unfold readChar? at read
  -- Only for a character that is not escaped the pattern does not tell which
  -- it is.
  split at read <;> cases read <;> try rfl
  exact readChar?_plain (by assumption) (by assumption) _

theorem readChar?_escapedChar (char : Char) (rest : List Char) :
    readChar? (escapedChar char ++ rest) = some (char, rest) := by
  have own : readChar? (escapedChar char) = some (char, []) := by
    induction char using char_cases with
    | control number =>
        revert number
        decide +kernel
    | quote => rfl
    | backslash => rfl
    | plain char itself _ quote backslash =>
        rw [itself]
        exact readChar?_plain quote backslash []
  exact readChar?_append own rest

/-- A string ends with its closing quote. -/
theorem escaped_inj {first second rest others : List Char}
    (same : first.flatMap escapedChar ++ '"' :: rest =
      second.flatMap escapedChar ++ '"' :: others) :
    first = second ∧ rest = others :=
  Text.written_inj readChar?_escapedChar (fun _ => rfl) same

theorem quotedString_inj {first second : String} {rest others : List Char}
    (same : quotedString first ++ rest = quotedString second ++ others) :
    first = second ∧ rest = others := by
  simp only [quotedString, List.cons_append, List.append_assoc,
    List.nil_append, List.cons.injEq, true_and] at same
  obtain ⟨text, behind⟩ := escaped_inj same
  exact ⟨String.toList_inj.mp text, behind⟩

/-- No number goes on in what follows. -/
def Ends (rest : List Char) : Prop :=
  ∀ char ∈ rest.head?, char.isDigit = false

theorem decimal_inj {first second : Nat} {rest others : List Char}
    (ends : Ends rest) (otherEnds : Ends others)
    (same : decimal first ++ rest = decimal second ++ others) :
    first = second ∧ rest = others := by
  have cut (number : Nat) {behind : List Char} (ends : Ends behind) :
      (decimal number ++ behind).takeWhile Char.isDigit = decimal number ∧
        (decimal number ++ behind).dropWhile Char.isDigit = behind := by
    have digits : ∀ char ∈ decimal number, char.isDigit = true :=
      fun _ member => isDigit_of_mem_decimal member
    rw [List.takeWhile_append_of_pos digits,
      List.dropWhile_append_of_pos digits]
    cases behind with
    | nil => simp
    | cons char behind =>
        have stops := ends char rfl
        simp [stops]
  obtain ⟨digits, behind⟩ := cut first ends
  obtain ⟨otherDigits, otherBehind⟩ := cut second otherEnds
  rw [same, otherDigits] at digits
  rw [same, otherBehind] at behind
  refine ⟨?_, behind.symm⟩
  have value := congrArg (fun chars => Nat.ofDigitChars 10 chars 0) digits
  have shown (number : Nat) : decimal number = Nat.toDigits 10 number :=
    Nat.toList_repr
  rw [shown, shown] at value
  simpa [Nat.ofDigitChars_toDigits] using value.symm

/-- The character that a value starts with; any digit counts as zero. -/
def mark : Json → Char
  | .flag true => 't'
  | .flag false => 'f'
  | .number _ => '0'
  | .text _ => '"'
  | .identifier _ => '"'
  | .list _ => '['
  | .object _ => '\x7B'

theorem exists_mark (value : Json) :
    ∃ char rest, value.characters = char :: rest ∧
      value.mark = if char.isDigit then '0' else char := by
  cases value with
  | flag value => cases value <;> exact ⟨_, _, rfl, by decide⟩
  | number value =>
      cases digits : decimal value with
      | nil =>
          have empty : Nat.toDigits 10 value = [] := by
            rw [← digits]
            exact Nat.toList_repr.symm
          exact absurd empty Nat.toDigits_ne_nil
      | cons digit rest =>
          have digit : digit.isDigit = true :=
            isDigit_of_mem_decimal (digits ▸ List.mem_cons_self)
          exact ⟨_, rest, digits, by rw [digit]; rfl⟩
  | text value => exact ⟨_, _, rfl, rfl⟩
  | identifier value => exact ⟨_, _, rfl, rfl⟩
  | list items => exact ⟨_, _, rfl, rfl⟩
  | object members => exact ⟨_, _, rfl, rfl⟩

/-- Values that are written alike start alike. -/
theorem mark_eq {value other : Json} {rest others : List Char}
    (same : value.characters ++ rest = other.characters ++ others) :
    value.mark = other.mark := by
  obtain ⟨char, behind, written, mark⟩ := value.exists_mark
  obtain ⟨otherChar, otherBehind, otherWritten, otherMark⟩ :=
    other.exists_mark
  rw [written, otherWritten, List.cons_append, List.cons_append,
    List.cons.injEq] at same
  rw [mark, otherMark, same.1]

/-! ### Items between commas -/

/-- Texts with commas between them, closed by a character. -/
def enclosed (close : Char) : List (List Char) → List Char
  | [] => [close]
  | [last] => last ++ [close]
  | first :: second :: others =>
      first ++ ',' :: enclosed close (second :: others)

/-- What stands behind the first of such texts. -/
def behindFirst (close : Char) : List (List Char) → List Char
  | [] => [close]
  | texts => ',' :: enclosed close texts

theorem enclosed_cons (close : Char) (text : List Char)
    (texts : List (List Char)) :
    enclosed close (text :: texts) = text ++ behindFirst close texts := by
  cases texts <;> rfl

section Enclosed

variable {Item : Type}

/-- An item is determined by its text among those with some property, whatever
stands behind it. -/
def Determined (write : Item → List Char) (among : Item → Prop)
    (item : Item) : Prop :=
  ∀ other, among other → ∀ rest others, Ends rest → Ends others →
    write item ++ rest = write other ++ others →
      item = other ∧ rest = others

variable {write : Item → List Char} {among : Item → Prop} {close : Char}

/-- Items between commas are determined if each of them is and none starts with
what closes them. -/
theorem enclosed_inj (closes : close.isDigit = false) (comma : close ≠ ',')
    (opens : ∀ item rest others, close :: others ≠ write item ++ rest)
    {items others : List Item} {rest more : List Char}
    (each : ∀ item ∈ items, Determined write among item)
    (own : ∀ item ∈ others, among item)
    (same :
      enclosed close (items.map write) ++ rest =
        enclosed close (others.map write) ++ more) :
    items = others ∧ rest = more := by
  induction items generalizing others with
  | nil =>
      cases others with
      | nil => exact ⟨rfl, List.tail_eq_of_cons_eq same⟩
      | cons other others =>
          rw [List.map_cons, enclosed_cons, List.append_assoc] at same
          exact (opens _ _ _ same).elim
  | cons item items ih =>
      cases others with
      | nil =>
          rw [List.map_cons, enclosed_cons, List.append_assoc] at same
          exact (opens _ _ _ same.symm).elim
      | cons other others =>
          rw [List.forall_mem_cons] at each own
          rw [List.map_cons, List.map_cons, enclosed_cons, enclosed_cons,
            List.append_assoc, List.append_assoc] at same
          have ends (texts : List (List Char)) (last : List Char) :
              Ends (behindFirst close texts ++ last) := by
            cases texts <;> simp [Ends, behindFirst, closes]
          obtain ⟨rfl, later⟩ :=
            each.1 other own.1 _ _ (ends _ _) (ends _ _) same
          cases items with
          | nil =>
              cases others with
              | nil => exact ⟨rfl, List.tail_eq_of_cons_eq later⟩
              | cons second others =>
                  exact absurd (List.head_eq_of_cons_eq later) comma
          | cons first items =>
              cases others with
              | nil =>
                  exact absurd (List.head_eq_of_cons_eq later).symm comma
              | cons second others =>
                  obtain ⟨equal, last⟩ := ih each.2 own.2
                    (List.tail_eq_of_cons_eq later)
                  exact ⟨by rw [equal], last⟩

end Enclosed

theorem itemCharacters_eq (items : List Json) :
    itemCharacters items = enclosed ']' (items.map characters) := by
  induction items with
  | nil => rfl
  | cons item items ih =>
      cases items with
      | nil => rfl
      | cons second others =>
          rw [itemCharacters, ih]
          rfl

/-- No value starts with a closing bracket. -/
theorem bracket_ne (value : Json) (rest others : List Char) :
    ']' :: others ≠ value.characters ++ rest := by
  intro same
  obtain ⟨char, behind, written, mark⟩ := value.exists_mark
  rw [written] at same
  obtain rfl : ']' = char := (List.cons.inj same).1
  cases value with
  | flag value => cases value <;> cases mark
  | _ => cases mark

/-- The text of a member of an object. -/
def memberText (member : String × Json) : List Char :=
  quotedString member.1 ++ ':' :: member.2.characters

theorem memberCharacters_eq (members : List (String × Json)) :
    memberCharacters members = enclosed '\x7D' (members.map memberText) := by
  induction members with
  | nil => rfl
  | cons member members ih =>
      cases members with
      | nil => rfl
      | cons second others =>
          rw [memberCharacters, ih]
          rfl

/-- No member starts with a closing brace. -/
theorem brace_ne (member : String × Json) (rest others : List Char) :
    '\x7D' :: others ≠ memberText member ++ rest := by
  simp [memberText, quotedString]

/-- A member is determined if its value is. -/
theorem determined_member {member : String × Json}
    (value : Determined characters Named member.2) :
    Determined memberText (fun other => other.2.Named) member := by
  intro other named rest others ends otherEnds same
  rw [memberText, memberText, List.append_assoc, List.append_assoc] at same
  obtain ⟨name, later⟩ := quotedString_inj same
  obtain ⟨own, last⟩ := value other.2 named rest others ends otherEnds
    (List.tail_eq_of_cons_eq later)
  exact ⟨Prod.ext name own, last⟩

/-- A value without identifiers is determined by its text. -/
theorem Named.determined {value : Json} (named : value.Named) :
    Determined characters Named value := by
  intro other otherNamed rest others ends otherEnds same
  -- The other value is of the same kind, as it starts alike.
  induction named generalizing other rest others with
  | flag value =>
      have alike := mark_eq same
      cases otherNamed with
      | flag other =>
          cases value <;> cases other <;> cases alike <;>
            exact ⟨rfl, List.append_cancel_left same⟩
      | _ => cases value <;> cases alike
  | number value =>
      have alike := mark_eq same
      cases otherNamed with
      | number other =>
          obtain ⟨rfl, behind⟩ := decimal_inj ends otherEnds same
          exact ⟨rfl, behind⟩
      | flag other => cases other <;> cases alike
      | _ => cases alike
  | text value =>
      have alike := mark_eq same
      cases otherNamed with
      | text other =>
          obtain ⟨rfl, behind⟩ := quotedString_inj same
          exact ⟨rfl, behind⟩
      | flag other => cases other <;> cases alike
      | _ => cases alike
  | list each ih =>
      have alike := mark_eq same
      cases otherNamed with
      | list otherEach =>
          have later := List.tail_eq_of_cons_eq same
          rw [itemCharacters_eq, itemCharacters_eq] at later
          obtain ⟨rfl, last⟩ :=
            enclosed_inj (by decide) (by decide) bracket_ne ih otherEach later
          exact ⟨rfl, last⟩
      | flag other => cases other <;> cases alike
      | _ => cases alike
  | object each ih =>
      have alike := mark_eq same
      cases otherNamed with
      | object otherEach =>
          have later := List.tail_eq_of_cons_eq same
          rw [memberCharacters_eq, memberCharacters_eq] at later
          obtain ⟨rfl, last⟩ :=
            enclosed_inj (by decide) (by decide) brace_ne
              (fun member among => determined_member (ih member among))
              otherEach later
          exact ⟨rfl, last⟩
      | flag other => cases other <;> cases alike
      | _ => cases alike

/-- Values without identifiers are determined by a text with each of them on a
line. -/
theorem lines_injective {first second : List Json}
    (named : ∀ value ∈ first, value.Named)
    (otherNamed : ∀ value ∈ second, value.Named)
    (same : String.join (first.map line) = String.join (second.map line)) :
    first = second := by
  have texts : first.map characters = second.map characters := by
    have cut := congrArg (fun text => text.toList.splitOn '\n') same
    simpa only [splitOn_lines, List.append_cancel_right_eq] using cut
  have ends : Ends [] := nofun
  clear same
  induction first generalizing second with
  | nil => exact (List.map_eq_nil_iff.mp texts.symm).symm
  | cons value values ih =>
      cases second with
      | nil => cases texts
      | cons other others =>
          rw [List.forall_mem_cons] at named otherNamed
          obtain ⟨own, rest⟩ := List.cons.inj texts
          have equal := named.1.determined other otherNamed.1 [] [] ends ends
            (by rw [own])
          rw [equal.1, ih named.2 otherNamed.2 rest]

mutual

/-- Where identifiers get names, none is left. -/
theorem named_nameIdentifiers (name : Nat → String) (value : Json) :
    (value.nameIdentifiers name).Named := by
  cases value with
  | flag value => exact .flag value
  | number value => exact .number value
  | text value => exact .text value
  | identifier value => exact .text (name value)
  | list items => exact .list (named_nameItems name items)
  | object members => exact .object (named_nameMembers name members)

theorem named_nameItems (name : Nat → String) (items : List Json) :
    ∀ item ∈ nameItems name items, item.Named := by
  cases items with
  | nil => exact List.forall_mem_nil _
  | cons item items =>
      exact List.forall_mem_cons.mpr
        ⟨named_nameIdentifiers name item, named_nameItems name items⟩

theorem named_nameMembers (name : Nat → String)
    (members : List (String × Json)) :
    ∀ member ∈ nameMembers name members, member.2.Named := by
  cases members with
  | nil => exact List.forall_mem_nil _
  | cons member members =>
      exact List.forall_mem_cons.mpr
        ⟨named_nameIdentifiers name member.2,
          named_nameMembers name members⟩

end

/-- A text has some values, each on a line: it is cut into their texts at its
line feeds, and it is that of no other values. -/
structure Lines (text : String) (values : List Json) : Prop where
  written : text = String.join (values.map line)
  cut : text.toList.splitOn '\n' =
    values.map (fun value => value.render.toList) ++ [[]]
  determined : ∀ others : List Json, (∀ value ∈ others, value.Named) →
    text = String.join (others.map line) → others = values

theorem lines_of_named {values : List Json}
    (named : ∀ value ∈ values, value.Named) :
    Lines (String.join (values.map line)) values where
  written := rfl
  cut := by
    rw [splitOn_lines]
    simp [render]
  determined := fun _ othersNamed same =>
    (lines_injective named othersNamed same).symm

end ScenarioRunner.Message.Json
