import ScenarioRunner.Expression.Basic
import ScenarioRunner.Message.Envelope
import ScenarioRunner.Step.Argument
import ScenarioRunner.Text.Base64

/-!
# Bodies of steps and hooks

A body is what a step definition or a hook does.  It sees its context and
changes the host: all state outside of this library, the world of the running
test included.  Running a body gives the host behind it, what it attached on
the way, and how it ended; a body that never comes to its end is suspended.

What is attached through a context goes to the run of a test step that the
context was made for.  A body may keep its context in the host, and so attach
to the same run again when another step is running, or behind the attempt.
-/

namespace ScenarioRunner

/-- What a step that does not fail reports.  A pending step is not written
yet. -/
inductive Outcome where
  | passed
  | pending
  deriving DecidableEq, Repr, Inhabited

/-- The outcome that a text stands for: only `pending` is pending. -/
def Outcome.ofText (text : String) : Outcome :=
  if text = "pending" then .pending else .passed

/-- The run of a test step in an attempt. -/
structure StepRun where
  step : Nat
  /-- The identifier of the attempt. -/
  started : Nat
  deriving DecidableEq, Repr, Inhabited

/-- Something that a body attaches. -/
structure Attachment where
  /-- The run that the context was made for through which it is attached. -/
  target : StepRun
  body : String
  mediaType : String
  encoding : ContentEncoding
  deriving DecidableEq, Repr, Inhabited

/-- How a body ends. -/
inductive Ending (Result : Type) where
  | completed (result : Result)
  | failed (message : String)
  /-- The body stopped abnormally; it may have left a text. -/
  | panicked (message : Option String)
  | suspended
  deriving DecidableEq, Repr

/-- What running a body comes to. -/
structure Performance (Host Result : Type) where
  host : Host
  attachments : List Attachment
  ending : Ending Result

/-- The test in which a body runs, as far as there is one. -/
structure Scope where
  pickle : Option (Pickle Nat) := none
  /-- The running step; hooks have none. -/
  step : Option (PickleStep Nat) := none
  /-- Where attachments go. -/
  target : Option StepRun := none

namespace Scope

/-- The scope of a test step in an attempt; that of a hook has no step of the
pickle. -/
def inTest (pickle : Pickle Nat) (started id : Nat)
    (step : Option (PickleStep Nat)) : Scope where
  pickle := some pickle
  step := step
  target := some ⟨id, started⟩

/-- What attaching an encoded text comes to: outside of a test it is dropped. -/
def emit (scope : Scope) (body mediaType : String)
    (encoding : ContentEncoding) : List Attachment :=
  match scope.target with
  | none => []
  | some target => [⟨target, body, mediaType, encoding⟩]

/-- Attach a text. -/
def attach (scope : Scope) (text mediaType : String) : List Attachment :=
  scope.emit text mediaType .identity

/-- Attach bytes. -/
def attachBytes (scope : Scope) (data : List UInt8) (mediaType : String) :
    List Attachment :=
  scope.emit (Text.base64 data) mediaType .base64

end Scope

/-- What a step definition gave for a capture. -/
structure CapturedValue where
  text : Option String
  value : Option Value
  deriving DecidableEq, Repr

/-- What the body of a step sees. -/
structure StepContext where
  scope : Scope
  captures : List CapturedValue
  argument : Option StepArgument

/-- When a hook runs: before or after the steps of a test. -/
inductive HookKeyword where
  | before
  | after
  deriving DecidableEq, Repr

/-- The name of a kind of hooks. -/
def HookKeyword.name : HookKeyword → String
  | .before => "Before"
  | .after => "After"

/-- What the body of a hook sees. -/
structure HookContext where
  scope : Scope
  keyword : HookKeyword

/-- What a step definition does. -/
abbrev StepBody (Host : Type) :=
  StepContext → Host → Performance Host Outcome

/-- What a hook does. -/
abbrev HookBody (Host : Type) :=
  HookContext → Host → Performance Host Unit

/-- The text of an abnormal stop. -/
def panicText (message : Option String) : String :=
  message.getD "(Could not resolve panic payload)"

end ScenarioRunner
