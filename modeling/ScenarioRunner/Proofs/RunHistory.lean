import ScenarioRunner.Proofs.Session

/-!
# The history of a run

A run of the tests of a spec makes attempts at one test after the other.  Its
history lists them: for each test the trials at it, each of which is an attempt
in a new world or ends because there is none.

The main statement is `exists_runHistory`: a run that comes to an end has a
history, and its summary counts what the history shows.
-/

namespace ScenarioRunner

variable {Host : Type}

/-! ## Chains -/

/--
Items lead from a state to another: each starts in the state that the one
before it left.
-/
def Leads {State Item : Type} (before after : Item → State) :
    State → List Item → State → Prop
  | start, [], final => start = final
  | start, item :: others, final =>
      before item = start ∧ Leads before after (after item) others final

/-- What each item preserves holds before and behind all of them. -/
theorem Leads.preserves
    {State Item : Type} {before after : Item → State}
    {start final : State} {items : List Item}
    (leads : Leads before after start items final)
    {property : State → Prop}
    (preserved :
      ∀ item ∈ items, property (before item) → property (after item))
    (holds : property start) :
    (∀ item ∈ items, property (before item) ∧ property (after item)) ∧
      property final := by
  induction items generalizing start with
  | nil =>
      cases leads
      exact ⟨List.forall_mem_nil _, holds⟩
  | cons item others ih =>
      obtain ⟨rfl, rest⟩ := leads
      have behind := preserved item List.mem_cons_self holds
      have later :=
        ih rest
          (fun other member => preserved other (.tail item member)) behind
      exact ⟨List.forall_mem_cons.mpr ⟨⟨holds, behind⟩, later.1⟩, later.2⟩

/-- What items raise and none of them takes back holds behind them if it did
before them or one of them raises it. -/
theorem Leads.raises_iff
    {State Item : Type} {before after : Item → State}
    {start final : State} {items : List Item}
    (leads : Leads before after start items final)
    {property : State → Prop} {raises : Item → Prop}
    (each : ∀ item ∈ items,
      property (after item) ↔ property (before item) ∨ raises item) :
    property final ↔ property start ∨ ∃ item ∈ items, raises item := by
  induction items generalizing start with
  | nil =>
      cases leads
      simp
  | cons item others ih =>
      obtain ⟨rfl, rest⟩ := leads
      rw [List.forall_mem_cons] at each
      rw [ih rest each.2, each.1, or_assoc, List.exists_mem_cons_iff]

/-! ## Trials -/

/-- How a test ends with an attempt. -/
def AttemptEnd.testEnd : AttemptEnd → TestEnd
  | .done .passed => .passed
  | .done .skipped => .pending
  | .failed failure => .failed failure.message
  | .suspended => .suspended

@[simp]
theorem AttemptEnd.testEnd_eq_suspended_iff (ending : AttemptEnd) :
    ending.testEnd = .suspended ↔ ending = .suspended := by
  cases ending with
  | done verdict => cases verdict <;> simp [testEnd]
  | _ => simp [testEnd]

/-- Whether a test failed. -/
def TestEnd.isFailed : TestEnd → Bool
  | .failed _ => true
  | _ => false

/-- A running state in another host. -/
def Running.enter (running : Running Host) (host : Host) : Running Host :=
  { running with stage := { running.stage with host } }

/--
A trial at a test: the running state before it, how it ended, and the running
state behind it.
-/
structure Trial (Host : Type) where
  before : Running Host
  ended : TestEnd
  after : Running Host

/-- How a trial is made that comes to its end. -/
inductive Trial.Made (spec : Spec Host) (newWorld : WorldMaker Host)
    (executable : Executable Host) : Trial Host → Prop where
  /-- There is no world.  Nothing but the host changes. -/
  | worldless {before : Running Host} {host : Host} {reason : String}
      (none : newWorld before.stage.host = (.error reason, host)) :
      Made spec newWorld executable
        ⟨before, .failed s!"World initialization failed: {reason}",
          before.enter host⟩
  /-- An attempt is made in the new world and finished. -/
  | played {before ended : Running Host} {host : Host} {ending : AttemptEnd}
      (world : newWorld before.stage.host = (.ok (), host))
      (played : executable.body spec (before.enter host) = (ending, ended))
      (complete : ending ≠ .suspended) :
      Made spec newWorld executable
        ⟨before, ending.testEnd, ended.finish ending.error?⟩

namespace Executable

variable {spec : Spec Host} {newWorld : WorldMaker Host}
variable {executable : Executable Host}

/-- A trial that a new world makes possible is an attempt that is finished,
unless it is suspended. -/
theorem attemptOnce_of_world
    {before ended : Running Host} {host : Host} {ending : AttemptEnd}
    (world : newWorld before.stage.host = (.ok (), host))
    (played : executable.body spec (before.enter host) = (ending, ended)) :
    executable.attemptOnce spec newWorld before =
      (ending.testEnd,
        if ending = .suspended then ended
        else ended.finish ending.error?) := by
  unfold Running.enter at played
  simp only [attemptOnce, world, played]
  cases ending with
  | done verdict => cases verdict <;> rfl
  | failed failure => rfl
  | suspended => rfl

/-- An attempt that is not suspended is a trial. -/
theorem made_of_attemptOnce {before after : Running Host} {ended : TestEnd}
    (once :
      executable.attemptOnce spec newWorld before = (ended, after))
    (complete : ended ≠ .suspended) :
    Trial.Made spec newWorld executable ⟨before, ended, after⟩ := by
  rcases world : newWorld before.stage.host with ⟨_ | _, host⟩
  · simp only [attemptOnce, world] at once
    cases once
    exact .worldless world
  · rcases played : executable.body spec (before.enter host) with
      ⟨ending, final⟩
    rw [attemptOnce_of_world world played] at once
    have goes : ending ≠ .suspended := by
      obtain ⟨rfl, -⟩ := Prod.mk.inj once
      rwa [ne_eq, AttemptEnd.testEnd_eq_suspended_iff] at complete
    rw [if_neg goes] at once
    cases once
    exact .played world played goes

end Executable

/-- A trial preserves that the registry is not in use. -/
theorem Trial.Made.inactive
    {spec : Spec Host} {newWorld : WorldMaker Host}
    {executable : Executable Host} {trial : Trial Host}
    (made : trial.Made spec newWorld executable)
    (inactive : trial.before.stage.active = false) :
    trial.after.stage.active = false := by
  cases made with
  | worldless none => exact inactive
  | @played before ended host ending world played complete =>
      have finished :=
        executable.finish_body spec (before.enter host) ending.error?
      simp only [played] at finished
      simp only [finished]

/--
Trials at a test, one after the other, up to the first that does not fail or
until there have been as many as the retries allow.
-/
structure Executable.Tried (spec : Spec Host) (newWorld : WorldMaker Host)
    (executable : Executable Host) (retries : Nat)
    (before : Running Host) (trials : List (Trial Host)) (ended : TestEnd)
    (after : Running Host) : Prop where
  made : ∀ trial ∈ trials, trial.Made spec newWorld executable
  leads : Leads Trial.before Trial.after before trials after
  retried : ∀ trial ∈ trials.dropLast, trial.ended.isFailed = true
  /-- What counts is the last trial. -/
  last : trials.getLast?.map Trial.ended = some ended
  bounded : trials.length ≤ retries + 1
  /-- A test fails if all trials fail that it may have. -/
  failed_iff :
    ended.isFailed = true ↔
      trials.length = retries + 1 ∧
        ∀ trial ∈ trials, trial.ended.isFailed = true

namespace Executable.Tried

variable {spec : Spec Host} {newWorld : WorldMaker Host}
variable {executable : Executable Host}

/-- A trial is the last one if it does not fail or there are no retries. -/
theorem single {trial : Trial Host} {retries : Nat}
    (made : trial.Made spec newWorld executable)
    (settled : trial.ended.isFailed = false ∨ retries = 0) :
    executable.Tried spec newWorld retries trial.before [trial]
      trial.ended trial.after where
  made := List.forall_mem_singleton.mpr made
  leads := ⟨rfl, rfl⟩
  retried := by simp
  last := rfl
  bounded := by simp
  failed_iff := by
    rcases settled with passed | rfl
    · simp [passed]
    · simp

/-- A trial that fails is followed by those that the other retries allow. -/
theorem retry {trial : Trial Host} {retries : Nat}
    {trials : List (Trial Host)} {ended : TestEnd} {after : Running Host}
    (made : trial.Made spec newWorld executable)
    (failed : trial.ended.isFailed = true)
    (others :
      executable.Tried spec newWorld retries trial.after trials ended
        after) :
    executable.Tried spec newWorld (retries + 1) trial.before
      (trial :: trials) ended after := by
  obtain ⟨second, rest, rfl⟩ :
      ∃ second rest, trials = second :: rest := by
    cases trials with
    | nil => cases others.last
    | cons second rest => exact ⟨second, rest, rfl⟩
  constructor
  · exact List.forall_mem_cons.mpr ⟨made, others.made⟩
  · exact ⟨rfl, others.leads⟩
  · exact List.forall_mem_cons.mpr ⟨failed, others.retried⟩
  · exact others.last
  · exact Nat.succ_le_succ others.bounded
  · rw [others.failed_iff]
    refine and_congr Nat.succ_inj.symm ?_
    constructor
    · intro all
      exact List.forall_mem_cons.mpr ⟨failed, all⟩
    · intro all
      exact (List.forall_mem_cons.mp all).2

end Executable.Tried

/-- A test that is run and not suspended has been tried. -/
theorem Executable.exists_tried
    {spec : Spec Host} {newWorld : WorldMaker Host}
    {executable : Executable Host} {retries : Nat}
    {before after : Running Host} {ended : TestEnd}
    (run :
      executable.run spec newWorld retries before = (ended, after))
    (complete : ended ≠ .suspended) :
    ∃ trials,
      executable.Tried spec newWorld retries before trials ended after := by
  induction retries generalizing before with
  | zero =>
      have made := made_of_attemptOnce run complete
      exact ⟨_, .single made (Or.inr rfl)⟩
  | succ retries ih =>
      rcases once : executable.attemptOnce spec newWorld before with
        ⟨first, between⟩
      simp only [Executable.run, once] at run
      cases kind : first.isFailed with
      | true =>
          cases first with
          | failed message =>
              obtain ⟨trials, tried⟩ := ih run
              have made := made_of_attemptOnce once nofun
              exact ⟨_, tried.retry made rfl⟩
          | _ => cases kind
      | false =>
          have settled : (first, between) = (ended, after) := by
            cases first with
            | failed message => cases kind
            | _ => exact run
          cases settled
          have made := made_of_attemptOnce once complete
          exact ⟨_, .single made (Or.inl kind)⟩

/-! ## Histories of tests -/

/--
The history of a test in a run: the running state before it, the trials at it,
how it ended, and the running state behind it.
-/
structure TestHistory (Host : Type) where
  test : Test Host
  before : Running Host
  trials : List (Trial Host)
  ended : TestEnd
  after : Running Host

namespace TestHistory

variable {spec : Spec Host} {newWorld : WorldMaker Host}

/-- A test that is not executable is skipped, and others are tried. -/
inductive Holds (spec : Spec Host) (newWorld : WorldMaker Host)
    (retries : Nat) : TestHistory Host → Prop where
  | skipped {test : Test Host} {before : Running Host}
      (unexecuted : test.executable = none) :
      Holds spec newWorld retries ⟨test, before, [], .skipped, before⟩
  | tried {test : Test Host} {executable : Executable Host}
      {before after : Running Host} {trials : List (Trial Host)}
      {ended : TestEnd}
      (executed : test.executable = some executable)
      (tried :
        executable.Tried spec newWorld (test.options.retries.getD retries)
          before trials ended after) :
      Holds spec newWorld retries ⟨test, before, trials, ended, after⟩

/-- A test that is run and not suspended has a history. -/
theorem exists_of_run
    {retries : Nat} {test : Test Host} {before after : Running Host}
    {ended : TestEnd}
    (run : test.run spec newWorld retries before = (ended, after))
    (complete : ended ≠ .suspended) :
    ∃ trials,
      Holds spec newWorld retries ⟨test, before, trials, ended, after⟩ := by
  cases executed : test.executable with
  | none =>
      simp only [Test.run, executed] at run
      cases run
      exact ⟨[], .skipped executed⟩
  | some executable =>
      simp only [Test.run, executed] at run
      obtain ⟨trials, tried⟩ := Executable.exists_tried run complete
      exact ⟨trials, .tried executed tried⟩

/-- A test preserves that the registry is not in use. -/
theorem Holds.inactive
    {retries : Nat} {history : TestHistory Host}
    (holds : history.Holds spec newWorld retries)
    (inactive : history.before.stage.active = false) :
    (∀ trial ∈ history.trials,
        trial.before.stage.active = false ∧
          trial.after.stage.active = false) ∧
      history.after.stage.active = false := by
  cases holds with
  | skipped unexecuted => exact ⟨List.forall_mem_nil _, inactive⟩
  | tried executed tried =>
      let unused (running : Running Host) : Prop :=
        running.stage.active = false
      have preserved (trial : Trial Host) (member : trial ∈ _) :
          unused trial.before → unused trial.after :=
        (tried.made trial member).inactive
      exact tried.leads.preserves preserved inactive

/-- The name of a failed test with the text of its failure. -/
def failure? (history : TestHistory Host) : Option (String × String) :=
  match history.ended with
  | .failed message => some (history.test.name, message)
  | _ => none

end TestHistory

/-! ## Histories of runs -/

/-- A summary counts every test of some histories once. -/
structure Summary.Counts (summary : Summary)
    (histories : List (TestHistory Host)) : Prop where
  passed : summary.passed = histories.countP (·.ended = .passed)
  failed : summary.failed = histories.countP (·.ended.isFailed)
  skipped : summary.skipped = histories.countP (·.ended = .skipped)
  pending : summary.pending = histories.countP (·.ended = .pending)
  total :
    summary.passed + summary.failed + summary.skipped + summary.pending =
      histories.length
  failures : summary.failures = histories.filterMap TestHistory.failure?

namespace Summary.Counts

theorem nil : Counts {} ([] : List (TestHistory Host)) :=
  ⟨rfl, rfl, rfl, rfl, rfl, rfl⟩

theorem single {history : TestHistory Host} {summary : Summary}
    (counted : history.ended.summary? history.test.name = some summary) :
    summary.Counts [history] := by
  cases ended : history.ended with
  | suspended => simp [ended, TestEnd.summary?] at counted
  | _ =>
      simp only [ended, TestEnd.summary?, Option.some.injEq] at counted
      subst counted
      constructor <;>
        simp [ended, TestEnd.isFailed, TestHistory.failure?]

theorem append
    {first second : List (TestHistory Host)} {early late : Summary}
    (counts : early.Counts first) (others : late.Counts second) :
    (early.merge late).Counts (first ++ second) where
  passed := by simp [merge, counts.passed, others.passed]
  failed := by simp [merge, counts.failed, others.failed]
  skipped := by simp [merge, counts.skipped, others.skipped]
  pending := by simp [merge, counts.pending, others.pending]
  total := by
    rw [List.length_append, ← counts.total, ← others.total]
    simp only [merge]
    omega
  failures := by simp [merge, counts.failures, others.failures]

end Summary.Counts

/-- A run of tests with their attempts has a history and a summary. -/
structure RunHistory (spec : Spec Host) (newWorld : WorldMaker Host)
    (retries : Nat) (tests : List (Test Host)) (start : Session Host)
    (histories : List (TestHistory Host)) (summary : Summary)
    (final : Session Host) : Prop where
  tests : histories.map TestHistory.test = tests
  holds : ∀ history ∈ histories, history.Holds spec newWorld retries
  leads :
    Leads (·.before.stage) (·.after.stage) start.stage histories
      final.stage
  before : histories.map (·.before.attempt) = start.attempts
  after : histories.map (·.after.attempt) = final.attempts
  counts : summary.Counts histories

/-- A run leaves an attempt for each test. -/
theorem RunHistory.fits
    {spec : Spec Host} {newWorld : WorldMaker Host} {retries : Nat}
    {tests : List (Test Host)} {start final : Session Host}
    {histories : List (TestHistory Host)} {summary : Summary}
    (history :
      RunHistory spec newWorld retries tests start histories summary
        final) :
    final.attempts.length = tests.length := by
  rw [← history.after, ← history.tests, List.length_map, List.length_map]

/-- Tests that are run and come to an end have a history. -/
theorem exists_runHistory
    {spec : Spec Host} {newWorld : WorldMaker Host} {retries : Nat}
    {tests : List (Test Host)} {attempts finalAttempts : List Attempt}
    {stage finalStage : Stage Host} {summary : Summary}
    (fits : attempts.length = tests.length)
    (run :
      runTests spec newWorld retries tests attempts stage =
        (some summary, finalAttempts, finalStage)) :
    ∃ histories,
      RunHistory spec newWorld retries tests ⟨attempts, stage⟩ histories
        summary ⟨finalAttempts, finalStage⟩ := by
  induction tests generalizing attempts stage summary finalAttempts with
  | nil =>
      obtain rfl := List.length_eq_zero_iff.mp fits
      cases run
      exact
        ⟨[], rfl, List.forall_mem_nil _, rfl, rfl, rfl, .nil⟩
  | cons test tests ih =>
      obtain ⟨attempt, attempts, rfl⟩ :=
        List.exists_cons_of_length_eq_add_one fits
      rcases once : test.run spec newWorld retries ⟨attempt, stage⟩ with
        ⟨ended, after⟩
      simp only [runTests, once] at run
      cases counted : ended.summary? test.name with
      | none => simp [counted] at run
      | some own =>
          rcases rest :
              runTests spec newWorld retries tests attempts after.stage with
            ⟨others, restAttempts, restStage⟩
          simp only [counted, rest, Prod.mk.injEq,
            Option.map_eq_some_iff] at run
          obtain ⟨⟨others, rfl, rfl⟩, rfl, rfl⟩ := run
          obtain ⟨histories, history⟩ := ih (Nat.succ_inj.mp fits) rest
          have complete : ended ≠ .suspended := by
            rintro rfl
            cases counted
          obtain ⟨trials, holds⟩ := TestHistory.exists_of_run once complete
          refine
            ⟨⟨test, ⟨attempt, stage⟩, trials, ended, after⟩ :: histories,
              ?_, ?_, ?_, ?_, ?_, ?_⟩
          · rw [List.map_cons, history.tests]
          · exact List.forall_mem_cons.mpr ⟨holds, history.holds⟩
          · exact ⟨rfl, history.leads⟩
          · rw [List.map_cons, history.before]
          · rw [List.map_cons, history.after]
          · exact (Summary.Counts.single counted).append history.counts

end ScenarioRunner
