import ScenarioRunner.Message.Report
import ScenarioRunner.Test.Attempt

/-!
# Running all tests

Tests run one after the other, each attempt in a world of its own.  A failing
test is run again as often as its options or else the runner allow; what
counts is its last attempt.
-/

namespace ScenarioRunner

/-- The outcome of running tests. -/
structure Summary where
  passed : Nat := 0
  failed : Nat := 0
  /-- Tests that were not run because of their tags. -/
  skipped : Nat := 0
  /-- Tests that were stopped by a pending step. -/
  pending : Nat := 0
  /-- The names of the failed tests with the texts of their failures. -/
  failures : List (String × String) := []
  deriving DecidableEq, Repr, Inhabited

namespace Summary

/-- Whether no test failed. -/
def isSuccess (summary : Summary) : Bool := summary.failed == 0

/-- The outcome of two runs. -/
def merge (first second : Summary) : Summary where
  passed := first.passed + second.passed
  failed := first.failed + second.failed
  skipped := first.skipped + second.skipped
  pending := first.pending + second.pending
  failures := first.failures ++ second.failures

end Summary

/-- How a test ended. -/
inductive TestEnd where
  | passed
  | pending
  | skipped
  | failed (message : String)
  | suspended
  deriving DecidableEq, Repr

/-- The outcome of a single test; one that is suspended has none. -/
def TestEnd.summary? (name : String) : TestEnd → Option Summary
  | .passed => some { passed := 1 }
  | .pending => some { pending := 1 }
  | .skipped => some { skipped := 1 }
  | .failed message => some { failed := 1, failures := [(name, message)] }
  | .suspended => none

/-- Makes the world of an attempt in the host, or says why there is none. -/
abbrev WorldMaker (Host : Type) := Host → Except String Unit × Host

/-- The tests of a feature file with their attempts. -/
structure Session (Host : Type) where
  attempts : List Attempt
  stage : Stage Host

namespace Executable

variable {Host : Type}

/-- Make one attempt in a new world and finish it. -/
def attemptOnce (spec : Spec Host) (newWorld : WorldMaker Host)
    (executable : Executable Host) (running : Running Host) :
    TestEnd × Running Host :=
  let (world, host) := newWorld running.stage.host
  let running := { running with stage := { running.stage with host } }
  match world with
  | .error reason =>
      (.failed s!"World initialization failed: {reason}", running)
  | .ok () =>
      match executable.body spec running with
      | (.done .passed, running) => (.passed, running.finish none)
      | (.done .skipped, running) => (.pending, running.finish none)
      | (.failed failure, running) =>
          (.failed failure.message, running.finish (some failure.message))
      | (.suspended, running) => (.suspended, running)

/-- Run a test until it does not fail or its retries are used up. -/
def run (spec : Spec Host) (newWorld : WorldMaker Host)
    (executable : Executable Host) :
    Nat → Running Host → TestEnd × Running Host
  | 0, running => executable.attemptOnce spec newWorld running
  | retries + 1, running =>
      match executable.attemptOnce spec newWorld running with
      | (.failed _, running) => executable.run spec newWorld retries running
      | ended => ended

end Executable

/-- Run a test that may not be executable. -/
def Test.run {Host : Type} (spec : Spec Host) (newWorld : WorldMaker Host)
    (retries : Nat) (test : Test Host) (running : Running Host) :
    TestEnd × Running Host :=
  match test.executable with
  | none => (.skipped, running)
  | some executable =>
      executable.run spec newWorld (test.options.retries.getD retries) running

/-- Run tests with their attempts.  There is no outcome if one is suspended;
the tests behind it are not run. -/
def runTests {Host : Type} (spec : Spec Host) (newWorld : WorldMaker Host)
    (retries : Nat) :
    List (Test Host) → List Attempt → Stage Host →
      Option Summary × List Attempt × Stage Host
  | test :: tests, attempt :: attempts, stage =>
      let (ended, running) := test.run spec newWorld retries { attempt, stage }
      match ended.summary? test.name with
      | none => (none, running.attempt :: attempts, running.stage)
      | some summary =>
          let (others, attempts, stage) :=
            runTests spec newWorld retries tests attempts running.stage
          (others.map summary.merge, running.attempt :: attempts, stage)
  | _, attempts, stage => (some {}, attempts, stage)

namespace Session

variable {Host : Type}

/-- The session before any attempt. -/
def start (spec : Spec Host) (messages : List (Envelope Nat)) (host : Host)
    (next : Nat) : Session Host where
  attempts := spec.tests.map fun _ => {}
  stage := { host, next, messages }

/-- All messages, the last of which says that the run has finished. -/
def allMessages (session : Session Host) : List (Envelope Nat) :=
  session.stage.messages ++ [.runFinished {}]

/-- What the tests leave to be written, if messages are wanted. -/
def report? (session : Session Host) (spec : Spec Host) : Option Report :=
  if spec.messagesEnabled then
    some {
      uri := spec.uri
      messages := session.allMessages.map (·.json)
      hookFailure := session.stage.hookFailure }
  else none

/-- Run all tests. -/
def run (session : Session Host) (spec : Spec Host)
    (newWorld : WorldMaker Host) (retries : Nat) :
    Option Summary × Session Host :=
  let (summary, attempts, stage) :=
    runTests spec newWorld retries spec.tests session.attempts session.stage
  (summary, { attempts, stage })

end Session

end ScenarioRunner
