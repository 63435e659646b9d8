import Mathlib.Data.List.Basic
import ScenarioRunner.Glob.Selection
import ScenarioRunner.Project.Templates

/-!
# Escaped texts as glob patterns

What is put in for the placeholder of a template is escaped: a backslash stands
before every sign.  Read as a pattern, such a text consists of its own bytes
and matches nothing else.  This takes a text without backslashes, because they
are not escaped themselves.

The main statement is `Templates.read_escape`.
-/

namespace ScenarioRunner

namespace Glob

/-! ## Patterns of bytes -/

/-- A text is determined by its bytes. -/
theorem bytesOf_flatMap_inj {first second : List Char}
    (same : first.flatMap bytesOf = second.flatMap bytesOf) :
    first = second := by
  have encoded : first.utf8Encode = second.utf8Encode :=
    congrArg List.toByteArray same
  have decoded := congrArg ByteArray.utf8Decode? encoded
  rw [List.utf8Decode?_utf8Encode, List.utf8Decode?_utf8Encode] at decoded
  simpa using decoded

/-- A pattern matches a text and nothing else. -/
structure MatchesOnly (pattern : List Token) (text : List Char) : Prop where
  bytes : ∀ path, isMatch pattern path = true → path = text.flatMap bytesOf
  text : ∀ other,
    isMatch pattern (other.flatMap bytesOf) = true ↔ other = text

/-- The tokens that stand for a text. -/
def literal (text : List Char) : List Token :=
  (text.flatMap bytesOf).map .byte

theorem literal_cons (char : Char) (text : List Char) :
    literal (char :: text) = (bytesOf char).map .byte ++ literal text := by
  rw [literal, List.flatMap_cons, List.map_append, literal]

theorem restsOfAll_none (tokens : List Token) :
    restsOfAll tokens [] = [] := by
  induction tokens with
  | nil => exact restsOfAll_nil []
  | cons token later ih =>
      rw [restsOfAll_cons]
      exact ih

theorem mem_restsOfAll_bytes (bytes path : List UInt8) :
    [] ∈ restsOfAll (bytes.map .byte) [path] ↔ path = bytes := by
  induction bytes generalizing path with
  | nil => simp [eq_comm]
  | cons byte later ih =>
      rw [List.map_cons, restsOfAll_cons]
      cases path with
      | nil => simp [Token.rests, afterByte, restsOfAll_none]
      | cons first rest =>
          by_cases same : first = byte
          · simp [Token.rests, afterByte, same, List.eraseDups_cons, ih]
          · simp [Token.rests, afterByte, same, restsOfAll_none]

theorem isMatch_bytes (bytes path : List UInt8) :
    isMatch (bytes.map .byte) path = true ↔ path = bytes := by
  rw [← mem_restsOfAll_bytes, isMatch, List.contains_iff_mem]
  cases bytes <;> simp

theorem matchesOnly_literal (text : List Char) :
    MatchesOnly (literal text) text where
  bytes path := (isMatch_bytes _ path).mp
  text other := by
    rw [literal, isMatch_bytes]
    exact ⟨bytesOf_flatMap_inj, congrArg _⟩

end Glob

namespace Templates

/-! ## Escaping -/

section Escaping

variable (text : List Char)

theorem escape_cons (char : Char) :
    escape (char :: text) = escape [char] ++ escape text := by
  simp [escape]

theorem escape_append (front : List Char) :
    escape (front ++ text) = escape front ++ escape text :=
  List.flatMap_append

theorem escape_sign {char : Char} (sign : isPatternSign char = true) :
    escape [char] = ['\\', char] := by
  simp [escape, sign]

theorem escape_plain {char : Char} (plain : isPatternSign char = false) :
    escape [char] = [char] := by
  simp [escape, plain]

end Escaping

/-! ## Reading escaped texts -/

/-- A character that is neither a sign nor a backslash stands for itself; so
does a comma outside of braces. -/
theorem readFrom_plain {draft : Glob.Draft} (outside : draft.braces = [])
    (previous : Option Char) {char : Char} (free : char ≠ '\\')
    (plain : isPatternSign char = false) (rest : List Char) :
    Glob.readFrom draft previous (char :: rest) =
      Glob.readFrom (draft.pushChar char) (some char) rest := by
  have comma : draft.comma = draft.pushChar ',' := by
    rw [Glob.Draft.comma, outside]
  conv_lhs => unfold Glob.readFrom
  split <;> rename_i same <;> cases same <;>
    first
      | exact absurd rfl free
      | exact absurd plain (by decide)
      | rw [comma]
      | rfl

theorem readFrom_escape_singleton {draft : Glob.Draft}
    (outside : draft.braces = []) (previous : Option Char) {char : Char}
    (free : char ≠ '\\') (rest : List Char) :
    Glob.readFrom draft previous (escape [char] ++ rest) =
      Glob.readFrom (draft.pushChar char) (some char) rest := by
  cases sign : isPatternSign char with
  | true =>
      rw [escape_sign sign, List.cons_append, List.singleton_append,
        Glob.readFrom]
  | false =>
      rw [escape_plain sign, List.singleton_append]
      exact readFrom_plain outside previous free sign rest

/-- Outside of braces an escaped text adds its own bytes, whatever comes before
and behind it. -/
theorem readFrom_escape {text : List Char} (free : '\\' ∉ text)
    {draft : Glob.Draft} (outside : draft.braces = [])
    (previous : Option Char) (rest : List Char) :
    Glob.readFrom draft previous (escape text ++ rest) =
      Glob.readFrom
        { draft with
          tokens := (Glob.literal text).reverse ++ draft.tokens }
        (text.getLast?.or previous) rest := by
  induction text generalizing draft previous with
  | nil => rfl
  | cons char text ih =>
      obtain ⟨own, later⟩ := not_or.mp (mt List.mem_cons.mpr free)
      have last : (char :: text).getLast?.or previous =
          text.getLast?.or (some char) := by
        cases text <;> simp [List.getLast?_cons]
      rw [escape_cons, List.append_assoc,
        readFrom_escape_singleton outside previous (Ne.symm own),
        @ih later (draft.pushChar char) outside, last, Glob.literal_cons,
        List.reverse_append, List.append_assoc]
      rfl

/-- An escaped text is a pattern that matches the text and nothing else. -/
theorem read_escape {text : List Char} (free : '\\' ∉ text) :
    ∃ pattern, Glob.read (escape text) = .ok pattern ∧
      Glob.MatchesOnly pattern text := by
  refine ⟨Glob.literal text, ?_, Glob.matchesOnly_literal text⟩
  have read := @readFrom_escape text free {} rfl none []
  rw [List.append_nil] at read
  rw [Glob.read, read, Glob.readFrom, Glob.Draft.finish]
  simp

end Templates

end ScenarioRunner
