import ScenarioRunner.Project.Path

/-!
# Files

A tree of directories and files.  A place in it is given by the names that lead
to it from the top.  Paths are followed part by part, so that a path through a
file or through nothing leads nowhere, even if it turns back.
-/

namespace ScenarioRunner

/-- Why something cannot be done with a file. -/
inductive FileError where
  | notFound
  | alreadyExists
  | notDirectory
  | isDirectory
  | notText
  deriving DecidableEq, Repr

/-- The text of an error. -/
def FileError.message : FileError → String
  | .notFound => "No such file or directory (os error 2)"
  | .alreadyExists => "File exists (os error 17)"
  | .notDirectory => "Not a directory (os error 20)"
  | .isDirectory => "Is a directory (os error 21)"
  | .notText => "stream did not contain valid UTF-8"

/-- What is at a place. -/
inductive FileEntry where
  | directory
  | textFile (content : String)
  /-- A file whose bytes are no text. -/
  | binaryFile
  deriving DecidableEq, Repr

/-- The text of an error that ends an operation. -/
def FileError.operationMessage (error : FileError) : String :=
  s!"I/O operation failed: {error.message}"

namespace FileEntry

/-- A file with some bytes. -/
def ofBytes (bytes : List UInt8) : FileEntry :=
  match String.fromUTF8? ⟨bytes.toArray⟩ with
  | some content => .textFile content
  | none => .binaryFile

/-- Whether an entry is a file. -/
def isFile : FileEntry → Bool
  | .directory => false
  | .textFile _ | .binaryFile => true

/-- An entry with a text added at its end. -/
def append (entry : FileEntry) (text : String) : FileEntry :=
  match entry with
  | .textFile content => .textFile (content ++ text)
  | other => other

end FileEntry

/-- The names that lead to an entry. -/
abbrev Place := List String

/-- A tree of directories and files.  A directory with something in it need not
be listed. -/
structure Files where
  entries : List (Place × FileEntry) := []
  deriving DecidableEq, Repr, Inhabited

namespace Files

/-- What is at a place. -/
def get? (files : Files) (place : Place) : Option FileEntry :=
  match files.entries.find? (·.1 == place) with
  | some (_, entry) => some entry
  | none =>
      if place.isEmpty || files.entries.any (place.isPrefixOf ·.1) then
        some .directory
      else none

/-- The places of all files. -/
def places (files : Files) : List Place :=
  (files.entries.filter (·.2.isFile)).map (·.1)

/-- Put an entry at a place. -/
def insert (files : Files) (place : Place) (entry : FileEntry) : Files where
  entries := files.entries.filter (·.1 != place) ++ [(place, entry)]

/-- Take the entry at a place away. -/
def erase (files : Files) (place : Place) : Files where
  entries := files.entries.filter (·.1 != place)

/-- What is put at a place is there afterwards. -/
@[simp] theorem get?_insert_self (files : Files) (place : Place)
    (entry : FileEntry) :
    (files.insert place entry).get? place = some entry := by
  have absent :
      (files.entries.filter (·.1 != place)).find? (·.1 == place) = none := by
    rw [List.find?_eq_none]
    simp
  simp [insert, get?, List.find?_append, absent]

/-- Follow the parts of a path from a place. -/
def follow (files : Files) :
    Place → List (List Char) → Except FileError Place
  | place, [] => .ok place
  | place, part :: parts =>
      match files.get? place with
      | none => .error .notFound
      | some .directory =>
          if !Path.counts part then files.follow place parts
          else if part = ['.', '.'] then files.follow place.dropLast parts
          else files.follow (place ++ [String.ofList part]) parts
      | some _ => .error .notDirectory

/-- The place that a path leads to; there need not be anything. -/
def locate (files : Files) (path : String) : Except FileError Place :=
  files.follow [] (Path.parts path.toList)

/-- The place that a path leads to, if there is something. -/
def canonical? (files : Files) (path : String) : Option Place :=
  match files.locate path with
  | .ok place => (files.get? place).map fun _ => place
  | .error _ => none

/-- The text of a file. -/
def read (files : Files) (path : String) : Except FileError String := do
  match files.get? (← files.locate path) with
  | none => throw .notFound
  | some .directory => throw .isDirectory
  | some .binaryFile => throw .notText
  | some (.textFile content) => return content

/-- Take a file away. -/
def remove (files : Files) (path : String) : Except FileError Files := do
  let place ← files.locate path
  match files.get? place with
  | none => throw .notFound
  | some .directory => throw .isDirectory
  | some _ => return files.erase place

/-- Take a file away if it is there. -/
def discard (files : Files) (path : String) : Except FileError Files :=
  match files.remove path with
  | .error .notFound => .ok files
  | result => result

/-- Make the directories that parts of a path lead through. -/
def makeFrom (files : Files) :
    Place → List (List Char) → Except FileError Files
  | _, [] => .ok files
  | place, part :: parts =>
      match files.get? place with
      | some .directory =>
          if !Path.counts part then files.makeFrom place parts
          else if part = ['.', '.'] then files.makeFrom place.dropLast parts
          else
            let next := place ++ [String.ofList part]
            match files.get? next with
            | none => (files.insert next .directory).makeFrom next parts
            | some .directory => files.makeFrom next parts
            | some _ =>
                .error (if parts.isEmpty then .alreadyExists
                  else .notDirectory)
      | none => .error .notFound
      | some _ => .error .notDirectory

/-- Make a directory and all above it. -/
def makeDirectories (files : Files) (path : String) :
    Except FileError Files :=
  files.makeFrom [] (Path.trimEnd (Path.parts path.toList))

/-- Add a text at the end of a file, which is made if it is not there. -/
def append (files : Files) (path text : String) : Except FileError Files := do
  let place ← files.locate path
  if path.endsWith "/" then throw .isDirectory
  match files.get? place with
  | none => return files.insert place (.textFile text)
  | some .directory => throw .isDirectory
  | some entry => return files.insert place (entry.append text)

/-- Add a text at the end of a file, which is made with all directories above
it. -/
def appendBelow (files : Files) (path text : String) :
    Except FileError Files := do
  (← files.makeDirectories (Path.parent path)).append path text

end Files

end ScenarioRunner
