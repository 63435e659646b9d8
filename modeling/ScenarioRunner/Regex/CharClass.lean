import ScenarioRunner.Text.Blank
import ScenarioRunner.Text.Case
import ScenarioRunner.Text.Property
import ScenarioRunner.Text.Script

/-!
# Classes of characters

The character classes of regular expressions, as terms: ranges, the classes
that have a name, and their combinations.  `contains` says which characters a
class holds; every combination is the Boolean operation of its name.
-/

namespace ScenarioRunner.Regex

open ScenarioRunner.Text

/-- A class of characters. -/
inductive CharClass where
  /-- No character. -/
  | empty
  /-- The characters from `first` to `last`, both included. -/
  | range (first last : Char)
  /-- Decimal digits of every script. -/
  | digit
  /-- White space. -/
  | blank
  /-- Characters of words. -/
  | word
  /-- The characters of some general categories. -/
  | categories (members : List Category)
  /-- The characters of some ranges of code points. -/
  | codes (ranges : CodeRanges)
  | union (left right : CharClass)
  | inter (left right : CharClass)
  | complement (inside : CharClass)
  /-- The characters that agree up to case with one of the class. -/
  | anyCase (inside : CharClass)
  deriving DecidableEq, Repr

namespace CharClass

/-- Whether a class holds a character. -/
def contains : CharClass → Char → Bool
  | .empty, _ => false
  | .range first last, char => first ≤ char && char ≤ last
  | .digit, char => isDigit char
  | .blank, char => isBlank char
  | .word, char => isWord char
  | .categories members, char => Category.anyContains members char
  | .codes ranges, char => ranges.contains char.toNat
  | .union left right, char => left.contains char || right.contains char
  | .inter left right, char => left.contains char && right.contains char
  | .complement inside, char => !inside.contains char
  | .anyCase inside, char =>
      inside.contains char || (caseVariants char).any inside.contains

/-- Every character. -/
def all : CharClass := .complement .empty

/-- One character alone. -/
def single (char : Char) : CharClass := .range char char

/-- The characters of the first class that the second does not hold. -/
def difference (left right : CharClass) : CharClass :=
  .inter left (.complement right)

/-- The characters that exactly one of two classes holds. -/
def symmetricDifference (left right : CharClass) : CharClass :=
  .union (difference left right) (difference right left)

/-- The union of several classes. -/
def unions : List CharClass → CharClass
  | [] => .empty
  | [only] => only
  | first :: later => .union first (unions later)

/-- The union of single characters and ranges of them. -/
def ofRanges (ranges : List (Char × Char)) : CharClass :=
  unions (ranges.map fun (first, last) => .range first last)

@[simp]
theorem contains_single (expected char : Char) :
    (single expected).contains char = (expected == char) := by
  simp only [single, contains]
  rw [Bool.eq_iff_iff]
  simp only [Bool.and_eq_true, decide_eq_true_eq, beq_iff_eq]
  constructor
  · rintro ⟨lower, upper⟩
    exact Char.le_antisymm lower upper
  · rintro rfl
    exact ⟨Char.le_refl _, Char.le_refl _⟩

/-- ASCII digits. -/
def asciiDigit : CharClass := .range '0' '9'

/-- ASCII white space. -/
def asciiBlank : CharClass := ofRanges [('\t', '\r'), (' ', ' ')]

/-- ASCII letters, digits and the underscore. -/
def asciiWord : CharClass :=
  ofRanges [('0', '9'), ('A', 'Z'), ('_', '_'), ('a', 'z')]

/-- The ASCII class of a name between `[:` and `:]`. -/
def asciiNamed? : String → Option CharClass
  | "alnum" => some (ofRanges [('0', '9'), ('A', 'Z'), ('a', 'z')])
  | "alpha" => some (ofRanges [('A', 'Z'), ('a', 'z')])
  | "ascii" => some (.range '\x00' '\x7F')
  | "blank" => some (ofRanges [('\t', '\t'), (' ', ' ')])
  | "cntrl" => some (ofRanges [('\x00', '\x1F'), ('\x7F', '\x7F')])
  | "digit" => some asciiDigit
  | "graph" => some (.range '!' '~')
  | "lower" => some (.range 'a' 'z')
  | "print" => some (.range ' ' '~')
  | "punct" =>
      some (ofRanges [('!', '/'), (':', '@'), ('[', '\x60'), ('\x7B', '~')])
  | "space" => some asciiBlank
  | "upper" => some (.range 'A' 'Z')
  | "word" => some asciiWord
  | "xdigit" => some (ofRanges [('0', '9'), ('A', 'F'), ('a', 'f')])
  | _ => none

/-- The spelling of a property name that ignores case, blanks and joiners. -/
def normalizeName (name : String) : String :=
  let kept := name.toList.filter fun char =>
    char != ' ' && char != '_' && char != '-'
  let lowered := kept.map Char.toLower
  match lowered with
  | 'i' :: 's' :: rest =>
      if lowered == ['i', 's', 'c'] then "isc" else String.ofList rest
  | _ => String.ofList lowered

/-- The class of a general category, or of a group of them, by its short or
long name. -/
def categoryNamed? : String → Option CharClass
  | "lu" | "uppercaseletter" => some (.categories [.uppercaseLetter])
  | "ll" | "lowercaseletter" => some (.categories [.lowercaseLetter])
  | "lt" | "titlecaseletter" => some (.categories [.titlecaseLetter])
  | "lc" | "casedletter" =>
      some (.categories [.uppercaseLetter, .lowercaseLetter, .titlecaseLetter])
  | "lm" | "modifierletter" => some (.categories [.modifierLetter])
  | "lo" | "otherletter" => some (.categories [.otherLetter])
  | "l" | "letter" => some (.categories letterCategories)
  | "mn" | "nonspacingmark" => some (.categories [.nonspacingMark])
  | "mc" | "spacingmark" => some (.categories [.spacingMark])
  | "me" | "enclosingmark" => some (.categories [.enclosingMark])
  | "m" | "mark" | "combiningmark" => some (.categories markCategories)
  | "nd" | "decimalnumber" | "digit" => some (.categories [.decimalNumber])
  | "nl" | "letternumber" => some (.categories [.letterNumber])
  | "no" | "othernumber" => some (.categories [.otherNumber])
  | "n" | "number" => some (.categories numberCategories)
  | "pc" | "connectorpunctuation" =>
      some (.categories [.connectorPunctuation])
  | "pd" | "dashpunctuation" => some (.categories [.dashPunctuation])
  | "ps" | "openpunctuation" => some (.categories [.openPunctuation])
  | "pe" | "closepunctuation" => some (.categories [.closePunctuation])
  | "pi" | "initialpunctuation" => some (.categories [.initialPunctuation])
  | "pf" | "finalpunctuation" => some (.categories [.finalPunctuation])
  | "po" | "otherpunctuation" => some (.categories [.otherPunctuation])
  | "p" | "punctuation" | "punct" => some (.categories punctuationCategories)
  | "sm" | "mathsymbol" => some (.categories [.mathSymbol])
  | "sc" | "currencysymbol" => some (.categories [.currencySymbol])
  | "sk" | "modifiersymbol" => some (.categories [.modifierSymbol])
  | "so" | "othersymbol" => some (.categories [.otherSymbol])
  | "s" | "symbol" => some (.categories symbolCategories)
  | "zs" | "spaceseparator" => some (.categories [.spaceSeparator])
  | "zl" | "lineseparator" => some (.categories [.lineSeparator])
  | "zp" | "paragraphseparator" => some (.categories [.paragraphSeparator])
  | "z" | "separator" => some (.categories separatorCategories)
  | "cc" | "control" | "cntrl" => some (.categories [.control])
  | "cf" | "format" => some (.categories [.format])
  | "co" | "privateuse" => some (.categories [.privateUse])
  | "cn" | "unassigned" => some (.categories [.unassigned])
  | "c" | "other" => some (.categories otherCategories)
  | "any" => some all
  | "assigned" => some (.complement (.categories [.unassigned]))
  | "ascii" => some (.range '\x00' '\x7F')
  | _ => none

/-- The class of a yes-or-no property by one of its names. -/
def propertyNamed? (name : String) : Option CharClass :=
  (Property.named? name).map fun property =>
    difference
      (.union (.categories property.categories) (.codes property.added))
      (.codes property.removed)

/-- The class of a script by one of its names. -/
def scriptNamed? (name : String) : Option CharClass :=
  (Script.named? name).map fun script => .codes script.own

/-- The class of the extension of a script by one of its names. -/
def extensionNamed? (name : String) : Option CharClass :=
  (Script.named? name).map fun script =>
    symmetricDifference (.codes script.own) (.codes script.differing)

/-- The class of a value of a property that has several. -/
def valueNamed? (property value : String) : Option CharClass :=
  match property with
  | "gc" | "generalcategory" => categoryNamed? value
  | "sc" | "script" => scriptNamed? value
  | "scx" | "scriptextensions" => extensionNamed? value
  | _ => none

/-- The class named between `\p` and its closing bracket: a property, a
category or a script, or a value after the name of its property.  The age of a
character and the kinds of its breaks are not known. -/
def named? (name : String) : Option CharClass :=
  let text := name.toList
  let isEquals := fun char => char == '=' || char == ':'
  match text.dropWhile fun char => !isEquals char with
  | [] =>
      let name := normalizeName name
      (propertyNamed? name <|> categoryNamed? name <|> scriptNamed? name)
  | _ :: value =>
      let property := text.takeWhile fun char => !isEquals char
      let found := valueNamed?
        (normalizeName (String.ofList (property.filter (· != '!'))))
        (normalizeName (String.ofList value))
      if property.getLast? == some '!' then found.map .complement else found

end CharClass

end ScenarioRunner.Regex
