import ScenarioRunner.Message.Envelope

/-!
# Reports

What is left to be written when the tests of a feature file have run.  A report
is either kept, or written as text with one message a line.
-/

namespace ScenarioRunner

open Message (Json)

/-- The messages about a feature file. -/
structure Report where
  uri : String
  messages : List Json
  /-- Whether some test failed in a hook. -/
  hookFailure : Bool

namespace Report

/-- A report with a name in place of the number of each identifier. -/
def nameIdentifiers (report : Report) (name : Nat → String) : Report :=
  { report with messages := report.messages.map (·.nameIdentifiers name) }

/-- The messages of a report as text. -/
def text (report : Report) : String :=
  String.join (report.messages.map Json.line)

end Report

/-- Keeps the messages of reports. -/
structure Collector where
  messages : List Json := []
  /-- The number of reports. -/
  flushes : Nat := 0

/-- Take in a report. -/
def Collector.flush (collector : Collector) (report : Report) : Collector where
  messages := collector.messages ++ report.messages
  flushes := collector.flushes + 1

@[simp] theorem Collector.messages_flush (collector : Collector)
    (report : Report) :
    (collector.flush report).messages =
      collector.messages ++ report.messages := rfl

end ScenarioRunner
