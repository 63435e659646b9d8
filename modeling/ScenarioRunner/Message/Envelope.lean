import ScenarioRunner.Message.Tree

/-!
# Messages

What a run reports, one message after the other: the feature file and its
pickles, the definitions, the shape of every test, and how each attempt at it
went.  A message is written as an object whose only member is named for the
kind of the message.  Composing and running tests does not read the clock: all
times of their messages are zero.
-/

namespace ScenarioRunner

open Message (Json)

/-- A point in time or a length of time. -/
structure Time where
  seconds : Nat := 0
  nanoseconds : Nat := 0
  deriving DecidableEq, Repr, Inhabited

/-- The number of nanoseconds in a second. -/
def Time.nanosecondsPerSecond : Nat := 1000000000

/-- A time given in nanoseconds; one before the start of time counts as the
start. -/
def Time.ofNanoseconds (offset : Int) : Time where
  seconds := offset.toNat / nanosecondsPerSecond
  nanoseconds := offset.toNat % nanosecondsPerSecond

/-- How a step of a test ended. -/
inductive Status where
  | unknown
  | passed
  | skipped
  | pending
  | undefined
  | ambiguous
  | failed
  deriving DecidableEq, Repr, Inhabited

/-- Where a definition stands, as far as it is known. -/
structure SourceReference where
  uri : Option String := none
  location : Option Location := none
  deriving DecidableEq, Repr, Inhabited

/-- How a text is contained in an attachment. -/
inductive ContentEncoding where
  | identity
  | base64
  deriving DecidableEq, Repr, Inhabited

/-- A step of a test: a hook, or a step of the pickle with the definitions
that match it. -/
structure TestStep (Id : Type) where
  id : Id
  hookId : Option Id := none
  pickleStepId : Option Id := none
  definitionIds : Option (List Id) := none
  deriving DecidableEq, Repr, Inhabited

/-- The shape of a test. -/
structure TestCase (Id : Type) where
  id : Id
  pickleId : Id
  steps : List (TestStep Id)
  deriving DecidableEq, Repr, Inhabited

/-- A message. -/
inductive Envelope (Id : Type) where
  | source (uri text : String)
  | document (value : Document Id)
  | pickle (value : Pickle Id)
  | stepDefinition (id : Id) (pattern : String) (regular : Bool)
      (reference : SourceReference)
  | hook (id : Id) (tags : Option String) (reference : SourceReference)
  | runStarted (time : Time)
  | testCase (value : TestCase Id)
  | caseStarted (id test : Id) (attempt : Nat) (time : Time)
  | stepStarted (step started : Id) (time : Time)
  | stepFinished (step started : Id) (status : Status) (duration : Time)
      (message : Option String) (time : Time)
  /-- The end of an attempt, or of none if none was started. -/
  | caseFinished (started : Option Id) (time : Time) (retried : Bool)
  | runFinished (time : Time)
  | attachment (started step : Id) (body mediaType : String)
      (encoding : ContentEncoding)
  deriving DecidableEq, Repr

def Time.json (time : Time) : Json :=
  .object [
    ("seconds", .number time.seconds),
    ("nanos", .number time.nanoseconds)]

def Status.json : Status → Json
  | .unknown => .text "UNKNOWN"
  | .passed => .text "PASSED"
  | .skipped => .text "SKIPPED"
  | .pending => .text "PENDING"
  | .undefined => .text "UNDEFINED"
  | .ambiguous => .text "AMBIGUOUS"
  | .failed => .text "FAILED"

def SourceReference.json (reference : SourceReference) : Json :=
  .object (
    Json.optional "uri" (reference.uri.map .text) ++
    Json.optional "location" (reference.location.map (·.json)))

def ContentEncoding.json : ContentEncoding → Json
  | .identity => .text "IDENTITY"
  | .base64 => .text "BASE64"

section Identified

variable {Id : Type} [Identifier Id]

def TestStep.json (step : TestStep Id) : Json :=
  .object (("id", Identifier.json step.id) ::
    Json.optional "hookId" (step.hookId.map Identifier.json) ++
    Json.optional "pickleStepId" (step.pickleStepId.map Identifier.json) ++
    Json.optional "stepDefinitionIds" (step.definitionIds.map fun ids =>
      .list (ids.map Identifier.json)))

def TestCase.json (value : TestCase Id) : Json :=
  .object [
    ("id", Identifier.json value.id),
    ("pickleId", Identifier.json value.pickleId),
    ("testSteps", .list (value.steps.map (·.json)))]

end Identified

namespace Envelope

variable {Id : Type}

/-- The name of the kind of a message. -/
def kind : Envelope Id → String
  | .source .. => "source"
  | .document _ => "gherkinDocument"
  | .pickle _ => "pickle"
  | .stepDefinition .. => "stepDefinition"
  | .hook .. => "hook"
  | .runStarted _ => "testRunStarted"
  | .testCase _ => "testCase"
  | .caseStarted .. => "testCaseStarted"
  | .stepStarted .. => "testStepStarted"
  | .stepFinished .. => "testStepFinished"
  | .caseFinished .. => "testCaseFinished"
  | .runFinished _ => "testRunFinished"
  | .attachment .. => "attachment"

variable [Identifier Id]

/-- What a message says. -/
def content : Envelope Id → Json
  | .source uri text =>
      .object [
        ("uri", .text uri),
        ("data", .text text),
        ("mediaType", .text "text/x.cucumber.gherkin+plain")]
  | .document value => value.json
  | .pickle value => value.json
  | .stepDefinition id pattern regular reference =>
      .object [
        ("id", Identifier.json id),
        ("pattern", .object [
          ("source", .text pattern),
          ("type", .text (if regular then "REGULAR_EXPRESSION"
            else "CUCUMBER_EXPRESSION"))]),
        ("sourceReference", reference.json)]
  | .hook id tags reference =>
      .object (("id", Identifier.json id) ::
        Json.optional "tagExpression" (tags.map .text) ++
        [("sourceReference", reference.json)])
  | .runStarted time => .object [("timestamp", time.json)]
  | .testCase value => value.json
  | .caseStarted id test attempt time =>
      .object [
        ("id", Identifier.json id),
        ("testCaseId", Identifier.json test),
        ("attempt", .number attempt),
        ("timestamp", time.json)]
  | .stepStarted step started time =>
      .object [
        ("testStepId", Identifier.json step),
        ("testCaseStartedId", Identifier.json started),
        ("timestamp", time.json)]
  | .stepFinished step started status duration message time =>
      .object [
        ("testStepId", Identifier.json step),
        ("testCaseStartedId", Identifier.json started),
        ("testStepResult", .object (
          [("status", status.json), ("duration", duration.json)] ++
            Json.optional "message" (message.map .text))),
        ("timestamp", time.json)]
  | .caseFinished started time retried =>
      .object [
        ("testCaseStartedId", (started.map Identifier.json).getD (.text "")),
        ("timestamp", time.json),
        ("willBeRetried", .flag retried)]
  | .runFinished time => .object [("timestamp", time.json)]
  | .attachment started step body mediaType encoding =>
      .object [
        ("testCaseStartedId", Identifier.json started),
        ("testStepId", Identifier.json step),
        ("body", .text body),
        ("mediaType", .text mediaType),
        ("contentEncoding", encoding.json)]

/-- A message as an object with one member. -/
def json (envelope : Envelope Id) : Json :=
  .object [(envelope.kind, envelope.content)]

end Envelope

end ScenarioRunner
