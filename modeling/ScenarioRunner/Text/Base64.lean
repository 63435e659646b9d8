/-!
# Base64

Three bytes are written as four characters of an alphabet of 64.  One or two
last bytes are written as two or three characters, filled up with `=`.
-/

namespace ScenarioRunner.Text

/-- The characters for the numbers below 64, in order. -/
def base64Alphabet : List Char :=
  ("ABCDEFGHIJKLMNOPQRSTUVWXYZ" ++ "abcdefghijklmnopqrstuvwxyz" ++
    "0123456789+/").toList

/-- The character for the lowest six bits of a number. -/
def base64Char (number : Nat) : Char :=
  base64Alphabet.getD (number % 64) '='

/-- The characters for some bytes. -/
def base64Chars : List UInt8 → List Char
  | [] => []
  | [first] =>
      let bits := first.toNat * 2 ^ 4
      [base64Char (bits / 2 ^ 6), base64Char bits, '=', '=']
  | [first, second] =>
      let bits := (first.toNat * 2 ^ 8 + second.toNat) * 2 ^ 2
      [base64Char (bits / 2 ^ 12), base64Char (bits / 2 ^ 6),
        base64Char bits, '=']
  | first :: second :: third :: rest =>
      let bits := (first.toNat * 2 ^ 8 + second.toNat) * 2 ^ 8 + third.toNat
      base64Char (bits / 2 ^ 18) :: base64Char (bits / 2 ^ 12) ::
        base64Char (bits / 2 ^ 6) :: base64Char bits :: base64Chars rest

/-- Some bytes as text. -/
def base64 (bytes : List UInt8) : String :=
  String.ofList (base64Chars bytes)

@[simp] theorem base64Chars_nil : base64Chars [] = [] := rfl

end ScenarioRunner.Text
