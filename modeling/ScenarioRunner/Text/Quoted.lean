import ScenarioRunner.Text.Category

/-!
# Quoted text

A text between double quotes, readable on one line.  Quotes and backslashes
are written after a backslash, the usual control characters by their letters,
and characters that do not show on their own by their code points in
hexadecimal.
-/

namespace ScenarioRunner.Text

/-- Characters that extend the one before them and are no marks of their
own category. -/
def extenderRanges : CodeRanges :=
  [(0x09BE, 0x09BE), (0x09D7, 0x09D7), (0x0B3E, 0x0B3E), (0x0B57, 0x0B57),
   (0x0BBE, 0x0BBE), (0x0BD7, 0x0BD7), (0x0CC2, 0x0CC2), (0x0CD5, 0x0CD6),
   (0x0D3E, 0x0D3E), (0x0D57, 0x0D57), (0x0DCF, 0x0DCF), (0x0DDF, 0x0DDF),
   (0x1B35, 0x1B35), (0x200C, 0x200C), (0x302E, 0x302F), (0xFF9E, 0xFF9F),
   (0x1133E, 0x1133E), (0x11357, 0x11357), (0x114B0, 0x114B0),
   (0x114BD, 0x114BD), (0x115AF, 0x115AF), (0x11930, 0x11930),
   (0x1D165, 0x1D165), (0x1D16E, 0x1D172), (0xE0020, 0xE007F)]

/-- Whether a character is drawn together with the one before it. -/
def extendsGrapheme (char : Char) : Bool :=
  0x300 ≤ char.toNat &&
    (Category.anyContains [.nonspacingMark, .enclosingMark] char ||
      extenderRanges.contains char.toNat)

/-- Whether a character shows when it is printed. -/
def isPrintable (char : Char) : Bool :=
  char == ' ' ||
    !Category.anyContains (otherCategories ++ separatorCategories) char

/-- The lower-case hexadecimal digits of a number, without leading zeros. -/
def hexadecimal (number : Nat) : List Char :=
  Nat.toDigits 16 number

/-- How a character is written between double quotes. -/
def quotedChar (char : Char) : List Char :=
  match char with
  | '\x00' => ['\\', '0']
  | '\t' => ['\\', 't']
  | '\r' => ['\\', 'r']
  | '\n' => ['\\', 'n']
  | '"' => ['\\', '"']
  | '\\' => ['\\', '\\']
  | char =>
      if extendsGrapheme char || !isPrintable char then
        ['\\', 'u', '\x7B'] ++ hexadecimal char.toNat ++ ['\x7D']
      else [char]

/-- A text between double quotes. -/
def quoted (text : String) : String :=
  String.ofList ('"' :: text.toList.flatMap quotedChar ++ ['"'])

end ScenarioRunner.Text
