import ScenarioRunner.Number.Integer
import ScenarioRunner.Text.Blank

/-!
# Options of tests

A tag of the form `@name(value)` is an option of the tests that carry it.  The
name consists of ASCII letters, and the value ends with the tag.  The option
`retries` says how often a failing test is run again; other options are
ignored.
-/

namespace ScenarioRunner

/-- The options that a test has by its tags. -/
structure TestOptions where
  retries : Option Nat := none
  deriving DecidableEq, Repr, Inhabited

namespace TestOptions

/-- The name and the value of a tag that is an option. -/
def ofTag? (tag : String) : Option (String × String) :=
  match tag.toList with
  | '@' :: text =>
      let name := text.takeWhile Char.isAlpha
      match name, text.dropWhile Char.isAlpha with
      | _ :: _, '(' :: rest =>
          let value := rest.dropLast
          if rest.getLast? == some ')' && !value.contains '\n' then
            some (String.ofList name, String.ofList value)
          else none
      | _, _ => none
  | _ => none

/-- The number of retries that a value stands for. -/
def readRetries (value : String) : Option Nat :=
  match Number.readInteger (.unsigned 32) (Text.trim value) with
  | .ok number => some number.toNat
  | .error _ => none

/-- Take one more tag into account. -/
def withTag (options : TestOptions) (tag : String) : TestOptions :=
  match ofTag? tag with
  | some ("retries", value) => { options with retries := readRetries value }
  | _ => options

/-- The options of a test with some tags; the last tag that names an option
decides. -/
def ofTags (tags : List String) : TestOptions := tags.foldl withTag {}

@[simp] theorem ofTags_nil : ofTags [] = {} := rfl

end TestOptions

end ScenarioRunner
