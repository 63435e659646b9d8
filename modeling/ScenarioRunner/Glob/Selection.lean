import ScenarioRunner.Glob.Reader
import ScenarioRunner.Text.Blank

/-!
# Selecting files by glob patterns

Files are selected by a list of rules, written one a line.  A rule that starts
with `!` excludes what it matches, and of the rules that match a path the last
one decides.  A rule without a slash matches in every directory, one with a
slash only from the top.  Nothing below an excluded directory is selected.
-/

namespace ScenarioRunner.Glob

/-- A rule about the paths that a pattern matches. -/
structure Rule where
  excludes : Bool
  directoriesOnly : Bool
  pattern : List Token
  deriving Repr

namespace Rule

/-- A line as far as it counts: blanks at its end do not, unless the last one
comes after a backslash. -/
def trimLine (line : List Char) : List Char :=
  match line.reverse with
  | ' ' :: '\\' :: _ => line
  | _ => Text.trimEnd line

/-- The start of a line: whether it excludes, whether the pattern holds from
the top only, and what follows.  A backslash makes the sign behind it a part of
the pattern. -/
def start : List Char → Bool × Bool × List Char
  | '\\' :: '!' :: rest => (false, false, '!' :: rest)
  | '\\' :: '#' :: rest => (false, false, '#' :: rest)
  | '!' :: '/' :: rest => (true, true, rest)
  | '!' :: rest => (true, false, rest)
  | '/' :: rest => (false, true, rest)
  | rest => (false, false, rest)

/-- Whether a pattern ends with a slash, and the pattern without it. -/
def splitSlash (pattern : List Char) : Bool × List Char :=
  match pattern.reverse with
  | '/' :: '\\' :: before => (true, before.reverse)
  | '/' :: before => (true, before.reverse)
  | _ => (false, pattern)

/-- A pattern that matches in every directory unless it is bound to the top or
has a slash. -/
def inEveryDirectory (top : Bool) (pattern : List Char) : List Char :=
  if top || pattern.contains '/' || pattern == ['*', '*'] then pattern
  else ['*', '*', '/'] ++ pattern

/-- A pattern that, if it ends with all that is in a directory, does not match
the directory itself. -/
def insideOnly (pattern : List Char) : List Char :=
  if ['/', '*', '*'].isSuffixOf pattern then pattern ++ ['/', '*'] else pattern

/-- Read a rule.  Comments and empty lines are none. -/
def read (line : String) : Except SyntaxError (Option Rule) :=
  let line := trimLine line.toList
  if line.isEmpty || line.head? == some '#' then .ok none
  else
    let (excludes, top, pattern) := start line
    let (directoriesOnly, pattern) := splitSlash pattern
    (Glob.read (insideOnly (inEveryDirectory top pattern))).map fun pattern =>
      some { excludes, directoriesOnly, pattern }

/-- Whether a rule matches the path of a directory or of a file. -/
def applies (rule : Rule) (isDirectory : Bool) (path : List UInt8) : Bool :=
  (!rule.directoriesOnly || isDirectory) && isMatch rule.pattern path

end Rule

/-- The path of a file as bytes. -/
def pathBytes (names : List String) : List UInt8 :=
  ("/".intercalate names).toList.flatMap bytesOf

/-- What decides which files are selected. -/
structure Selection where
  rules : List Rule
  deriving Repr

namespace Selection

/-- A pattern as a line: a lone star holds from the top only. -/
def ruleLine (pattern : String) : String :=
  if pattern = "*" then "/*" else pattern

/-- Read the patterns of a selection. -/
def read (patterns : List String) : Except SyntaxError Selection :=
  (patterns.mapM fun pattern => Rule.read (ruleLine pattern)).map fun rules =>
    ⟨rules.filterMap id⟩

/-- The last rule that matches a path. -/
def lastRule? (selection : Selection) (isDirectory : Bool)
    (names : List String) : Option Rule :=
  (selection.rules.filter (·.applies isDirectory (pathBytes names))).getLast?

/-- Whether a directory is excluded. -/
def excludesDirectory (selection : Selection) (names : List String) : Bool :=
  (selection.lastRule? true names).any (·.excludes)

/-- Whether a file with these names above it and as its own is selected.  The
top itself cannot be excluded. -/
def selects (selection : Selection) (names : List String) : Bool :=
  (List.range (names.length - 1)).all (fun depth =>
    !selection.excludesDirectory (names.take (depth + 1))) &&
  (selection.lastRule? false names).any (!·.excludes)

end Selection

end ScenarioRunner.Glob
