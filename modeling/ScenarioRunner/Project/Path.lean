/-!
# Paths

A path is a text whose parts stand between slashes.  Empty parts and parts that
are a single dot count for nothing, except at the start: there an empty part
stands for the root of all paths, and a dot for the current directory.  Two
paths that are written differently may therefore have the same components.
Whatever is cut off a path, the rest keeps the way in which it was written.
-/

namespace ScenarioRunner.Path

/-- What a path leads through. -/
inductive Component where
  | root
  | current
  | parent
  | name (text : List Char)
  deriving DecidableEq, Repr

/-- The parts of a path, empty ones included. -/
def parts (path : List Char) : List (List Char) :=
  path.splitOn '/'

/-- The path with the given parts. -/
def ofParts (parts : List (List Char)) : List Char :=
  ['/'].intercalate parts

/-- Whether a part that is not the first counts. -/
def counts (part : List Char) : Bool :=
  !part.isEmpty && part != ['.']

/-- What a part that is not the first leads through. -/
def component? (part : List Char) : Option Component :=
  if part = ['.', '.'] then some .parent
  else if counts part then some (.name part)
  else none

/-- What the first part of a path that is not empty leads through. -/
def firstComponent (part : List Char) : Component :=
  if part.isEmpty then .root
  else if part = ['.'] then .current
  else if part = ['.', '.'] then .parent
  else .name part

/-- The components of a path. -/
def components (path : List Char) : List Component :=
  match path, parts path with
  | [], _ => []
  | _, [] => []
  | _, first :: others => firstComponent first :: others.filterMap component?

/-- Drop parts up to a number of those that count. -/
def dropCounted : Nat → List (List Char) → List (List Char)
  | _, [] => []
  | 0, parts => parts
  | number + 1, part :: others =>
      dropCounted (if counts part then number else number + 1) others

/-- Parts without those at their end that do not count. -/
def trimEnd (parts : List (List Char)) : List (List Char) :=
  (parts.reverse.dropWhile (!counts ·)).reverse

/-- The parts of a path without those at its end that do not count. -/
def trimmedParts (path : List Char) : List (List Char) :=
  match parts path with
  | [] => []
  | first :: others => first :: trimEnd others

/-- What comes after a number of components of a path. -/
def afterComponents (number : Nat) (path : List Char) : List Char :=
  match number, parts path with
  | _, [] => []
  | 0, _ =>
      match trimmedParts path with
      | [[]] => path.take 1
      | parts => ofParts parts
  | number + 1, _ :: others =>
      ofParts (trimEnd ((dropCounted number others).dropWhile (!counts ·)))

/-- What comes after a base in a path that starts with all components of the
base. -/
def stripPrefix? (base path : String) : Option String :=
  let base := components base.toList
  if base.isPrefixOf (components path.toList) then
    some (String.ofList (afterComponents base.length path.toList))
  else none

/-- What comes after a base in a path, or else the whole path. -/
def relativeTo (base path : String) : String :=
  (stripPrefix? base path).getD path

/-- A path below a base; an absolute path is not below it. -/
def join (base path : String) : String :=
  if path.startsWith "/" || base.isEmpty then path
  else if base.endsWith "/" then base ++ path
  else base ++ "/" ++ path

/-- A path without its last part that counts. -/
def parent (path : String) : String :=
  String.ofList (ofParts (trimEnd (trimEnd (parts path.toList)).dropLast))

/-- Whether a part is the name of a file or directory. -/
def isName (part : List Char) : Bool :=
  counts part && part != ['.', '.']

/-- The stem and the extension of a name: what stands before and after its last
dot.  A name without a dot, or with a single one at its start, has no
extension. -/
def splitName (name : List Char) : List Char × Option (List Char) :=
  let reversed := name.reverse
  match reversed.dropWhile (· != '.') with
  | [] | ['.'] => (name, none)
  | _ :: before =>
      (before.reverse, some (reversed.takeWhile (· != '.')).reverse)

/-- A path up to the stem of its last name.  A path that does not end with a
name stays as it is. -/
def withoutExtension (path : String) : String :=
  let parts := trimmedParts path.toList
  match parts.getLast? with
  | some last =>
      if isName last then
        String.ofList (ofParts (parts.dropLast ++ [(splitName last).1]))
      else path
  | none => path

/-- Whether the last name of a path has an extension. -/
def hasExtension (extension path : String) : Bool :=
  match (trimmedParts path.toList).getLast? with
  | some last =>
      isName last && (splitName last).2 == some extension.toList
  | none => false

/-- A path with slashes in place of backslashes. -/
def withSlashes (path : String) : String :=
  path.map fun char => if char == '\\' then '/' else char

/-- Whether a path names the file of a feature. -/
def isFeature (path : String) : Bool := hasExtension "feature" path

@[simp] theorem components_nil : components [] = [] := rfl

end ScenarioRunner.Path
