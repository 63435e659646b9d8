import ScenarioRunner.FeatureText.Reader
import ScenarioRunner.Pickle.Compile

/-!
# Feature files

Reading a feature file: its text gives a document, whose nodes are numbered,
and the document gives the pickles.
-/

namespace ScenarioRunner

/-- A feature file that has been read. -/
structure FeatureFile where
  source : String
  document : Document Nat
  pickles : List (Pickle Nat)
  deriving DecidableEq, Repr, Inhabited

/-- The text of the file with this path is not that of a feature. -/
structure FeatureFile.SyntaxError where
  uri : String
  deriving DecidableEq, Repr, Inhabited

namespace FeatureFile

/-- The bare document of a text; a blank text has no feature. -/
def document? [FeatureSyntax] (uri source : String) :
    Except SyntaxError (Document Unit) :=
  if Text.isAllBlank source then .ok { uri, feature := none }
  else
    match FeatureSyntax.read? source with
    | some feature => .ok { uri, feature := some feature }
    | none => .error { uri }

/-- Number a bare document and compile its pickles. -/
def ofDocument (source : String) (bare : Document Unit) :
    Numbering FeatureFile := do
  let document ← bare.number
  let pickles ← document.pickles
  return { source, document, pickles }

/-- Read a feature file, drawing numbers from `next` on.  Of the answer, the
second part is the next number to draw. -/
def parse [FeatureSyntax] (uri source : String) (next : Nat) :
    Except SyntaxError (FeatureFile × Nat) :=
  (document? uri source).map fun bare => (ofDocument source bare).run next

end FeatureFile

end ScenarioRunner
