import ScenarioRunner.Number.Integer
import ScenarioRunner.Options.Basic
import ScenarioRunner.Tag.Parser

/-!
# Reading options

Options are read from the arguments of the command line, and those that are
missing there from the environment.  The value of an option stands in the same
argument or in the next one.  A value in the next argument is taken only when
that argument has been passed, so that an unknown option behind it is reported
first.
-/

namespace ScenarioRunner

/-- An option of the command line. -/
inductive OptionName where
  | tags
  | omitFiltered
  | filterSpecs
  | stepDefinitions
  | specPattern
  | projectRoot
  | messages
  | messagesOutput
  | interactive
  | color
  | retries
  deriving DecidableEq, Repr

namespace OptionName

/-- All options, in the order in which the environment is read. -/
def all : List OptionName :=
  [.tags, .omitFiltered, .filterSpecs, .stepDefinitions, .specPattern,
    .projectRoot, .messages, .messagesOutput, .interactive, .color, .retries]

/-- The name of an option, as it is written after two hyphens. -/
def long : OptionName → String
  | .tags => "tags"
  | .omitFiltered => "omit-filtered"
  | .filterSpecs => "filter-specs"
  | .stepDefinitions => "step-definitions"
  | .specPattern => "spec-pattern"
  | .projectRoot => "project-root"
  | .messages => "messages"
  | .messagesOutput => "messages-output"
  | .interactive => "interactive"
  | .color => "color"
  | .retries => "retries"

/-- The variable of the environment that stands for an option. -/
def environmentName? : OptionName → Option String
  | .tags => some "TAGS"
  | .omitFiltered => some "OMIT_FILTERED"
  | .filterSpecs => some "FILTER_SPECS"
  | .stepDefinitions => some "STEP_DEFINITIONS"
  | .specPattern => some "SPEC_PATTERN"
  | .projectRoot => some "PROJECT_ROOT"
  | .messages => some "MESSAGES_ENABLED"
  | .messagesOutput => some "MESSAGES_OUTPUT"
  | .interactive => some "INTERACTIVE"
  | .color => none
  | .retries => some "RETRIES"

/-- Whether an option is a flag, which has no value on the command line. -/
def isFlag : OptionName → Bool
  | .omitFiltered | .filterSpecs | .messages | .interactive => true
  | _ => false

/-- Whether an option may be given several times. -/
def isList : OptionName → Bool
  | .stepDefinitions | .specPattern => true
  | _ => false

/-- The option with a name. -/
def ofLong? (name : String) : Option OptionName :=
  all.find? (·.long == name)

end OptionName

/-- Why the options cannot be read. -/
inductive UsageError where
  | missingValue (option : OptionName)
  /-- A value that is not among those possible. -/
  | impossibleValue (option : OptionName) (value : String)
  /-- A value that cannot be read. -/
  | malformedValue (option : OptionName) (value : String)
  | superfluousValue (argument : String)
  | repeatedOption (option : OptionName)
  | unknownArgument (argument : String)
  /-- The description of the options is asked for. -/
  | helpRequested
  deriving DecidableEq, Repr

/-- The options read so far, and which of them were given. -/
structure OptionsDraft where
  options : RunOptions := {}
  given : List OptionName := []
  deriving DecidableEq, Repr

namespace OptionsDraft

/-- The value of a flag. -/
def readFlag (option : OptionName) (value : String) :
    Except UsageError Bool :=
  if value = "true" then .ok true
  else if value = "false" then .ok false
  else .error (.impossibleValue option value)

/-- A path, which is not empty. -/
def readPath (option : OptionName) (value : String) :
    Except UsageError String :=
  if value.isEmpty then .error (.impossibleValue option value)
  else .ok value

/-- The items of a list, which commas separate. -/
def readList (value : String) : List String :=
  (value.toList.splitOn ',').map String.ofList

/-- A number of retries. -/
def readRetries? (value : String) : Option Nat :=
  match Number.readInteger (.signed 64) value with
  | .ok number =>
      if 0 ≤ number && number < 4294967296 then some number.toNat else none
  | .error _ => none

/-- The options with a value for one of them.  The items of a list come behind
those that were given before. -/
def withValue (draft : OptionsDraft) (option : OptionName)
    (value : String) : Except UsageError RunOptions :=
  let options := draft.options
  let required {Value : Type} (found : Option Value)
      (update : Value → RunOptions) : Except UsageError RunOptions :=
    match found with
    | some found => .ok (update found)
    | none => .error (.malformedValue option value)
  let extend (items : List String) : List String :=
    (if draft.given.contains option then items else []) ++ readList value
  match option with
  | .tags =>
      required (TagExpression.parse value).toOption fun found =>
        { options with tags := some found }
  | .omitFiltered =>
      (readFlag option value).map ({ options with omitFiltered := · })
  | .filterSpecs =>
      (readFlag option value).map ({ options with filterSpecs := · })
  | .stepDefinitions =>
      .ok { options with stepDefinitions := extend options.stepDefinitions }
  | .specPattern =>
      .ok { options with specPattern := extend options.specPattern }
  | .projectRoot =>
      (readPath option value).map ({ options with projectRoot := · })
  | .messages => (readFlag option value).map ({ options with messages := · })
  | .messagesOutput =>
      (readPath option value).map ({ options with messagesOutput := · })
  | .interactive =>
      (readFlag option value).map ({ options with interactive := · })
  | .color =>
      required (Coloring.ofText? value) ({ options with color := · })
  | .retries =>
      required (readRetries? value) fun found =>
        { options with retries := some found }

/-- Take in a value of an option. -/
def put (draft : OptionsDraft) (option : OptionName) (value : String) :
    Except UsageError OptionsDraft :=
  if draft.given.contains option && !option.isList then
    .error (.repeatedOption option)
  else
    (draft.withValue option value).map fun options =>
      { options, given := option :: draft.given }

/-- An option whose value stands in another argument, with that value once it
has been passed. -/
abbrev Waiting := Option (OptionName × Option String)

/-- Take in the value of the option that is waiting, if there is one. -/
def settle (draft : OptionsDraft) :
    Waiting → Except UsageError OptionsDraft
  | none => .ok draft
  | some (option, none) => .error (.missingValue option)
  | some (option, some value) => draft.put option value

/-- An argument. -/
inductive Argument where
  | separator
  /-- A name after two hyphens, with the value behind an equals sign. -/
  | long (name : String) (value : Option String)
  /-- A letter after one hyphen, with all that follows it. -/
  | short (letter : Char) (value : List Char)
  | plain
  deriving DecidableEq, Repr

/-- The form of an argument. -/
def Argument.ofText (text : String) : Argument :=
  match text.toList with
  | ['-', '-'] => .separator
  | '-' :: '-' :: rest =>
      let name := String.ofList (rest.takeWhile (· != '='))
      match rest.dropWhile (· != '=') with
      | [] => .long name none
      | _ :: value => .long name (some (String.ofList value))
  | '-' :: letter :: value => .short letter value
  | _ => .plain

/-- The value that is attached to a letter. -/
def attachedValue? : List Char → Option String
  | [] => none
  | '=' :: value => some (String.ofList value)
  | value => some (String.ofList value)

/-- Take in an option with the value attached to it, if there is one. -/
def begin (draft : OptionsDraft) (option : OptionName)
    (value : Option String) : Except UsageError (OptionsDraft × Waiting) :=
  match value with
  | some value => (draft.put option value).map (·, none)
  | none =>
      if option.isFlag then (draft.put option "true").map (·, none)
      else .ok (draft, some (option, none))

/-- Read arguments while an option may be waiting for its value. -/
def readArguments (draft : OptionsDraft) (waiting : Waiting) :
    List String → Except UsageError OptionsDraft
  | [] => draft.settle waiting
  | argument :: rest =>
      match Argument.ofText argument with
      | .separator =>
          match rest with
          | [] => draft.settle waiting
          | next :: _ => .error (.unknownArgument next)
      | .long name value =>
          match OptionName.ofLong? name with
          | none =>
              if name != "help" then .error (.unknownArgument argument)
              else if value.isSome then .error (.superfluousValue argument)
              else do
                let _ ← draft.settle waiting
                throw .helpRequested
          | some option =>
              if option.isFlag && value.isSome then
                .error (.superfluousValue argument)
              else do
                let draft ← draft.settle waiting
                let (draft, waiting) ← draft.begin option value
                draft.readArguments waiting rest
      | .short 't' value => do
          let draft ← draft.settle waiting
          let (draft, waiting) ← draft.begin .tags (attachedValue? value)
          draft.readArguments waiting rest
      | .short 'h' _ => do
          let _ ← draft.settle waiting
          throw .helpRequested
      | .short _ _ => .error (.unknownArgument argument)
      | .plain =>
          match waiting with
          | some (option, none) =>
              draft.readArguments (some (option, some argument)) rest
          | _ => .error (.unknownArgument argument)

/-- Take in an option from the environment unless it was given. -/
def readVariable (environment : List (String × String))
    (draft : OptionsDraft) (option : OptionName) :
    Except UsageError OptionsDraft :=
  match option.environmentName?.bind (List.lookup · environment) with
  | some value =>
      if draft.given.contains option then .ok draft
      else draft.put option value
  | none => .ok draft

end OptionsDraft

/-- Read the options from an environment and from arguments. -/
def RunOptions.read (environment : List (String × String))
    (arguments : List String) : Except UsageError RunOptions := do
  let draft ← OptionsDraft.readArguments {} none arguments
  let draft ←
    OptionName.all.foldlM (OptionsDraft.readVariable environment) draft
  return draft.options

end ScenarioRunner
