import ScenarioRunner.Test.Suite
import ScenarioRunner.Text.Search

/-!
# Attempts at tests

An attempt runs the slots of a test one after the other and reports each of
them.  It stops at the first slot that does not pass.  A failing hook and a
pending step complete the report themselves: all slots behind them are
skipped.  After any other failure it is up to `finish` to report the slot that
failed and to skip the slots behind it.

Attachments are reported where they are made, and each names the run of a test
step that its context was made for, which need not be the one that is running.
-/

namespace ScenarioRunner

/-- Why an attempt failed. -/
inductive Failure where
  | missing (message : String)
  | ambiguous (message : String)
  | transform (message : String)
  | step (message : String)
  | panic (message : String)
  | hook (keyword : HookKeyword) (message : String)
  deriving DecidableEq, Repr

namespace Failure

/-- The words by which the failure of a hook is recognised. -/
def hookSignature (keyword : HookKeyword) : String :=
  s!"Because this error occurred during a `{keyword.name}` hook"

/-- The text of a failure. -/
def message : Failure → String
  | .missing message => message
  | .ambiguous message => message
  | .transform message => message
  | .step message => message
  | .panic message => s!"Step panicked: {message}"
  | .hook keyword message =>
      s!"{message}\n\n{hookSignature keyword}" ++
        " we are skipping the remaining steps."

/-- Whether a text is recognised as the failure of a hook. -/
def isHookText (text : String) : Bool :=
  Text.contains text (hookSignature .before) ||
    Text.contains text (hookSignature .after)

end Failure

/-- How an attempt that did not fail ended; a pending step skips the rest. -/
inductive Verdict where
  | passed
  | skipped
  deriving DecidableEq, Repr

/-- How the slots of an attempt ended. -/
inductive AttemptEnd where
  | done (verdict : Verdict)
  | failed (failure : Failure)
  | suspended
  deriving DecidableEq, Repr

/-- What tests change while they run. -/
structure Stage (Host : Type) where
  host : Host
  /-- The next identifier. -/
  next : Nat
  /-- Whether the registry is in use by an attempt. -/
  active : Bool := false
  /-- Whether some test failed in a hook. -/
  hookFailure : Bool := false
  messages : List (Envelope Nat) := []

/-- The run of a test step that a message starts. -/
def Envelope.stepRun? : Envelope Nat → Option StepRun
  | .stepStarted step started _ => some ⟨step, started⟩
  | _ => none

/-- The message about an attachment. -/
def Attachment.envelope (attached : Attachment) : Envelope Nat :=
  .attachment attached.target.started attached.target.step attached.body
    attached.mediaType attached.encoding

namespace Stage

variable {Host : Type}

/-- The runs of test steps that have been started. -/
def stepRuns (stage : Stage Host) : List StepRun :=
  stage.messages.filterMap Envelope.stepRun?

/-- Report attachments.  A context whose run has not been started here leads to
other messages, and what is attached through it is not told here. -/
def attach (stage : Stage Host) (attachments : List Attachment) :
    Stage Host :=
  let received :=
    attachments.filter fun attached => attached.target ∈ stage.stepRuns
  { stage with
    messages := stage.messages ++ received.map Attachment.envelope }

end Stage

/-- The latest attempt at a test. -/
structure Attempt where
  /-- The identifier of the attempt, if there has been one. -/
  started : Option Nat := none
  /-- The test steps that have not been reported as finished. -/
  remaining : List Nat := []
  finished : Bool := false
  /-- The number of attempts, counted in 32 bits. -/
  count : UInt32 := 0
  deriving DecidableEq, Repr, Inhabited

/-- A test that is being run. -/
structure Running (Host : Type) where
  attempt : Attempt
  stage : Stage Host

namespace Running

variable {Host : Type}

/-- Add messages. -/
def emit (running : Running Host) (envelopes : List (Envelope Nat)) :
    Running Host :=
  { running with
    stage :=
      { running.stage with messages := running.stage.messages ++ envelopes } }

/-- Report that a test step starts. -/
def begin (running : Running Host) (started step : Nat) : Running Host :=
  running.emit [.stepStarted step started {}]

/-- The message that a test step has finished. -/
def finishedEnvelope (started step : Nat) (status : Status)
    (message : Option String) : Envelope Nat :=
  .stepFinished step started status {} message {}

/-- Report how the first of the remaining test steps finished. -/
def complete (running : Running Host) (started step : Nat) (status : Status)
    (message : Option String) : Running Host :=
  let running :=
    running.emit [finishedEnvelope started step status message]
  { running with
    attempt :=
      { running.attempt with remaining := running.attempt.remaining.drop 1 } }

/-- The messages about a test step that is skipped. -/
def skipEnvelopes (started step : Nat) : List (Envelope Nat) :=
  [.stepStarted step started {}, finishedEnvelope started step .skipped none]

/-- Skip all remaining test steps. -/
def skipRemaining (running : Running Host) (started : Nat) : Running Host :=
  let running := running.emit
    (running.attempt.remaining.flatMap (skipEnvelopes started))
  { running with attempt := { running.attempt with remaining := [] } }

/-- Take over what a body did. -/
def absorb {Result : Type} (running : Running Host)
    (performance : Performance Host Result) : Running Host :=
  let stage := running.stage.attach performance.attachments
  { running with stage := { stage with host := performance.host } }

/-- Start an attempt. -/
def start (running : Running Host) (executable : Executable Host) :
    Running Host :=
  let started := running.stage.next
  let stage :=
    { running.stage with next := started + 1, active := true }
  let attempt : Attempt :=
    { started := some started
      remaining := executable.slots.map Slot.id
      count := running.attempt.count + 1 }
  ({ attempt, stage } : Running Host).emit
    [.caseStarted started executable.testCaseId running.attempt.count.toNat
      {}]

/-- Whether a text is recognised as that of a missing definition. -/
def isMissingText (text : String) : Bool :=
  Text.contains text SearchHints.missingSignature

/-- How a test step that was left open is reported, given the text of the
failure if there is one. -/
def openStep (error : Option String) : Status × Option String :=
  let text := error.getD "Step did not finish"
  if isMissingText text then (.undefined, none) else (.failed, some text)

/-- Report the first remaining test step as failed and skip the others. -/
def completeOpen (running : Running Host) (error : Option String) :
    Running Host :=
  match running.attempt.started, running.attempt.remaining with
  | some started, step :: _ =>
      let (status, message) := openStep error
      (running.complete started step status message).skipRemaining started
  | _, _ => running

/-- Complete the report of the attempt, given the text of its failure if it
failed.  An attempt is finished once; if the text is that of a failing hook,
the report of the slots is complete already. -/
def finish (running : Running Host) (error : Option String) : Running Host :=
  if running.attempt.finished then running
  else
    let hookFailure := error.any Failure.isHookText
    let stage :=
      { running.stage with
        active := false
        hookFailure := running.stage.hookFailure || hookFailure }
    let running := { running with stage }
    let running :=
      if hookFailure then running else running.completeOpen error
    let running :=
      running.emit [.caseFinished running.attempt.started {} false]
    { running with
      attempt := { running.attempt with remaining := [], finished := true } }

end Running

namespace Executable

variable {Host : Type}

/-- The failure of a step that cannot be run. -/
def runFailure (spec : Spec Host) (text : String) : RunError → Failure
  | .unresolved (.missing _) =>
      .missing (spec.hints.explain spec.interactive text)
  | .unresolved reason => .ambiguous reason.message
  | error => .transform error.message

/-- The failure of a hook, which skips all slots behind it. -/
def failHook (running : Running Host) (started step : Nat)
    (keyword : HookKeyword) (message : String) :
    Option AttemptEnd × Running Host :=
  (some (.failed (.hook keyword message)),
    (running.complete started step .failed (some message)).skipRemaining
      started)

/-- Run a hook.  The answer says how the attempt ends, unless it goes on. -/
def playHook (executable : Executable Host) (started step : Nat)
    (hook : Hook Host) (running : Running Host) :
    Option AttemptEnd × Running Host :=
  let running := running.begin started step
  let scope : Scope := .inTest executable.pickle started step none
  let performance :=
    hook.body { scope, keyword := hook.keyword } running.stage.host
  let running := running.absorb performance
  match performance.ending with
  | .completed () => (none, running.complete started step .passed none)
  | .failed message =>
      failHook running started step hook.keyword message
  | .panicked message =>
      failHook running started step hook.keyword (panicText message)
  | .suspended => (some .suspended, running)

/-- Run a step.  The answer says how the attempt ends, unless it goes on. -/
def playStep (spec : Spec Host) (executable : Executable Host)
    (started step : Nat) (pickleStep : PickleStep Nat)
    (running : Running Host) : Option AttemptEnd × Running Host :=
  let running := running.begin started step
  let scope : Scope :=
    .inTest executable.pickle started step (some pickleStep)
  match spec.registry.run pickleStep.text pickleStep.stepArgument scope
      running.stage.host with
  | .error error =>
      (some (.failed (runFailure spec pickleStep.text error)), running)
  | .ok performance =>
      let running := running.absorb performance
      match performance.ending with
      | .completed .passed =>
          (none, running.complete started step .passed none)
      | .completed .pending =>
          (some (.done .skipped),
            (running.complete started step .pending none).skipRemaining
              started)
      | .failed message => (some (.failed (.step message)), running)
      | .panicked message =>
          (some (.failed (.panic (panicText message))), running)
      | .suspended => (some .suspended, running)

/-- Run a slot. -/
def playSlot (spec : Spec Host) (executable : Executable Host)
    (started : Nat) (slot : Slot Host) (running : Running Host) :
    Option AttemptEnd × Running Host :=
  match slot with
  | .hook id hook => executable.playHook started id hook running
  | .step id step => executable.playStep spec started id step running

/-- Run slots up to the first that ends the attempt. -/
def playSlots (spec : Spec Host) (executable : Executable Host)
    (started : Nat) : List (Slot Host) → Running Host →
      AttemptEnd × Running Host
  | [], running => (.done .passed, running)
  | slot :: others, running =>
      match executable.playSlot spec started slot running with
      | (some ending, running) => (ending, running)
      | (none, running) => playSlots spec executable started others running

/-- Make an attempt at a test. -/
def body (spec : Spec Host) (executable : Executable Host)
    (running : Running Host) : AttemptEnd × Running Host :=
  executable.playSlots spec running.stage.next executable.slots
    (running.start executable)

end Executable

end ScenarioRunner
