import ScenarioRunner.Message.Envelope
import ScenarioRunner.Project.Path

/-!
# Sites of definitions

Where in its source file a step definition or a hook stands.
-/

namespace ScenarioRunner

/-- A position in a source file. -/
structure Site where
  path : String
  line : Nat
  column : Nat
  deriving DecidableEq, Repr, Inhabited

namespace Site

/-- A site as text. -/
def render (site : Site) : String :=
  s!"{site.path}:{site.line}:{site.column}"

/-- A site whose path is given from a root, if it is below. -/
def relativeTo (root : String) (site : Site) : Site :=
  { site with path := Path.withSlashes (Path.relativeTo root site.path) }

/-- A site that may be unknown as text, without the column. -/
def describe (site : Option Site) : String :=
  match site with
  | some known => s!"{known.path}:{known.line}"
  | none => "unknown location"

/-- How messages refer to a site that may be unknown. -/
def reference (site : Option Site) : SourceReference :=
  { uri := site.map (·.path)
    location := site.map fun known =>
      { line := known.line, column := some known.column } }

end Site

end ScenarioRunner
