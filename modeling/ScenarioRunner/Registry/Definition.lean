import ScenarioRunner.Registry.Builder

/-!
# Definitions

A definition as it is written in a source file: a step, a hook or a parameter
type.  A registry is built from a list of definitions, which are taken in one
after the other.
-/

namespace ScenarioRunner

/-- What a step definition matches texts with, as it is written. -/
inductive PatternSource where
  | expression (source : String)
  | regular (source : String)
  deriving DecidableEq, Repr

/-- The pattern that is written; a regular expression is compiled at once. -/
def PatternSource.pattern : PatternSource → Except DefinitionError StepPattern
  | .expression source => .ok (.expression source)
  | .regular source =>
      match Regex.compile source with
      | .ok regex => .ok (.regular regex)
      | .error _ => .error .invalidRegex

/-- What a source file may define. -/
inductive Definition (Host : Type) where
  | step (pattern : PatternSource) (body : StepBody Host)
      (site : Option Site)
  | hook (keyword : HookKeyword) (tags : Option String) (body : HookBody Host)
      (site : Option Site)
  | parameter (value : ParameterDefinition)

/-- Why a registry cannot be built. -/
inductive BuildError where
  | definition (reason : DefinitionError)
  | expression (reason : FinalizeError)
  deriving DecidableEq, Repr

variable {Host : Type}

/-- A definition whose site is changed. -/
def Definition.mapSite (change : Option Site → Option Site) :
    Definition Host → Definition Host
  | .step pattern body site => .step pattern body (change site)
  | .hook keyword tags body site => .hook keyword tags body (change site)
  | .parameter value => .parameter value

namespace RegistryBuilder

/-- Take in a definition; a hook draws its identifier. -/
def add (builder : RegistryBuilder Host) (next : Nat) :
    Definition Host → Except DefinitionError (RegistryBuilder Host × Nat)
  | .step source body site => do
      let pattern ← source.pattern
      return (← builder.defineStep { pattern, body, site }, next)
  | .hook keyword tags body site =>
      builder.defineHook keyword tags body site next
  | .parameter value => do
      return (← builder.defineParameter value, next)

/-- Propose a definition: it is taken in, or it is refused and nothing
changes. -/
def propose (builder : RegistryBuilder Host) (next : Nat)
    (definition : Definition Host) :
    Except DefinitionError Unit × RegistryBuilder Host × Nat :=
  match builder.add next definition with
  | .ok extended => (.ok (), extended)
  | .error reason => (.error reason, builder, next)

/-- Propose definitions one after the other, whether or not those before are
accepted.  Each comes with its answer. -/
def proposeAll : List (Definition Host) → RegistryBuilder Host → Nat →
    List (Definition Host × Except DefinitionError Unit) ×
      RegistryBuilder Host × Nat
  | [], builder, next => ([], builder, next)
  | definition :: others, builder, next =>
      let (answer, extended, last) := builder.propose next definition
      let (answers, final) := proposeAll others extended last
      ((definition, answer) :: answers, final)

/-- Take in definitions up to the first that is not accepted. -/
def addAll (builder : RegistryBuilder Host) (next : Nat)
    (definitions : List (Definition Host)) :
    Except DefinitionError (RegistryBuilder Host × Nat) :=
  definitions.foldlM (fun (builder, next) definition =>
    builder.add next definition) (builder, next)

end RegistryBuilder

/-- The registry of some definitions, and the next identifier. -/
def Registry.ofDefinitions (definitions : List (Definition Host))
    (next : Nat) : Except BuildError (Registry Host × Nat) :=
  match RegistryBuilder.addAll {} next definitions with
  | .error reason => .error (.definition reason)
  | .ok (builder, next) =>
      (builder.finalize next).mapError .expression

end ScenarioRunner
