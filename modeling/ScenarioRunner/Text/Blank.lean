import ScenarioRunner.Text.Category

/-!
# Blanks, digits and words

The classes of characters that cut a text into parts.  Blanks are the
characters with the white-space property, digits those of every script, and
word characters the letters, marks, digits and joining punctuation.
-/

namespace ScenarioRunner.Text

/-- The characters with the white-space property. -/
def blankRanges : CodeRanges :=
  [(0x0009, 0x000D), (0x0020, 0x0020), (0x0085, 0x0085), (0x00A0, 0x00A0),
   (0x1680, 0x1680), (0x2000, 0x200A), (0x2028, 0x2029), (0x202F, 0x202F),
   (0x205F, 0x205F), (0x3000, 0x3000)]

/-- Whether a character is white space. -/
def isBlank (char : Char) : Bool :=
  blankRanges.contains char.toNat

/-- Whether a character is a decimal digit of some script. -/
def isDigit (char : Char) : Bool :=
  Category.decimalNumber.contains char

/-- Symbols that count as letters, such as circled letters. -/
def letterSymbolRanges : CodeRanges :=
  [(0x24B6, 0x24E9), (0x1F130, 0x1F149), (0x1F150, 0x1F169),
   (0x1F170, 0x1F189)]

/-- The two invisible characters that join their neighbours. -/
def joinControlRanges : CodeRanges :=
  [(0x200C, 0x200D)]

/-- Whether a character is part of a word. -/
def isWord (char : Char) : Bool :=
  char.isAlphanum || char == '_' ||
    Category.anyContains (letterCategories ++ markCategories ++
      [.decimalNumber, .letterNumber, .connectorPunctuation]) char ||
    letterSymbolRanges.contains char.toNat ||
    joinControlRanges.contains char.toNat

/-- Whether a character is a printable ASCII character that is neither a
letter nor a digit nor the space. -/
def isAsciiPunctuation (char : Char) : Bool :=
  0x21 ≤ char.toNat && char.toNat ≤ 0x7E && !char.isAlphanum

/-- The part of a text after its leading blanks. -/
def trimStart (text : List Char) : List Char :=
  text.dropWhile isBlank

/-- The part of a text before its trailing blanks. -/
def trimEnd (text : List Char) : List Char :=
  (text.reverse.dropWhile isBlank).reverse

/-- A text without the blanks at its two ends. -/
def trim (text : String) : String :=
  String.ofList (trimEnd (trimStart text.toList))

/-- Whether a text has no character but blanks. -/
def isAllBlank (text : String) : Bool :=
  text.toList.all isBlank

theorem isBlank_space : isBlank ' ' = true := by decide

end ScenarioRunner.Text
