import ScenarioRunner.Proofs.HostCalls

/-!
# Sequences of calls

Whatever a host calls, the stream of messages only grows.  What it says about
one attempt is the first part of a report, whatever other tests do in between,
and the whole report as soon as the attempt is finished.  From then on the
attempt is settled: no call tells more about it.

The main statement is `Session.calls_report_attempts`.  It is about the
messages without the attachments, and about all of them if bodies attach
through their own contexts.  Through a context that a body has kept there may
be more to an attempt that has been finished
(`Sample.kept_context_attaches_behind_finish`).
-/

namespace ScenarioRunner

open Envelope (ofAttempt attemptNumber? view)

variable {Host : Type}

namespace Session

/-! ## Finished attempts -/

/-- All that shows has been told about an attempt, and no test goes on with
it. -/
structure Settled (attached : Bool) (started : Nat)
    (whole : List (Envelope Nat)) (session : Session Host) : Prop where
  told : ofAttempt started (view attached session.stage.messages) = whole
  drawn : started < session.stage.next
  finished : ∀ {index : Nat},
    (session.running index).attempt.started = some started →
      (session.running index).attempt.finished = true

section Settled

variable {registry : Registry Host} {spec : Spec Host}
variable {collected : List (Envelope Nat)} {attached : Bool}
variable {session before after : Session Host}
variable {started : Nat} {whole : List (Envelope Nat)}

theorem Settled.put (settled : session.Settled attached started whole)
    {index named : Nat} {told : List (Envelope Nat)} {running : Running Host}
    (tells : session.Tells attached index named told running)
    (inside : index < session.attempts.length)
    (different : started ≠ named) :
    (session.put index running).Settled attached started whole := by
  constructor
  · rw [tells.ofAttempt_of_ne different]
    exact settled.told
  · exact Nat.lt_of_lt_of_le settled.drawn tells.advanced
  · intro other begun
    rcases tells.started_cases inside begun with
      ⟨-, same⟩ | ⟨elsewhere, -, old⟩
    · exact absurd same different
    · rw [attempt_put_of_ne elsewhere]
      exact settled.finished old

/-- Calls tell nothing more about an attempt that is finished. -/
theorem Call.settled (collects : spec.Collects registry collected)
    (own : attached = true → registry.AttachesOwn)
    (call : Call spec before after)
    (tracked : before.Tracked registry spec collected attached)
    (settled : before.Settled attached started whole) :
    after.Settled attached started whole := by
  -- A settled attempt is neither begun, for that draws a fresh identifier, nor
  -- open, so that what a call tells is about another attempt.
  cases call with
  | enter host => exact ⟨settled.told, settled.drawn, settled.finished⟩
  | @body index executable executes =>
      apply settled.put (tracked.tells_body collects own executes)
        (executes.lt_length tracked.sound)
      rintro rfl
      exact Nat.lt_irrefl _ settled.drawn
  | @finish index executable executes named begun error recognised =>
      cases finished : (before.running index).attempt.finished with
      | true =>
          rw [Running.finish_of_finished finished, put_running]
          exact settled
      | false =>
          apply settled.put (tracked.tells_finish begun finished error)
            (executes.lt_length tracked.sound)
          rintro rfl
          rw [settled.finished begun] at finished
          cases finished

theorem Calls.settled (collects : spec.Collects registry collected)
    (own : attached = true → registry.AttachesOwn)
    (calls : Calls spec before after)
    (tracked : before.Tracked registry spec collected attached)
    (settled : before.Settled attached started whole) :
    after.Settled attached started whole := by
  induction calls with
  | refl => exact settled
  | tail earlier call ih =>
      exact call.settled collects own
        (Calls.tracked collects own earlier tracked) ih

/-- Finishing an attempt settles it, with a whole report. -/
theorem Tracked.settles (collects : spec.Collects registry collected)
    (own : attached = true → registry.AttachesOwn)
    (tracked : session.Tracked registry spec collected attached)
    {index : Nat} {executable : Executable Host}
    (executes : Executes spec index executable)
    (begun : (session.running index).attempt.started = some started)
    {error : Option String}
    (recognised :
      error.any Failure.isHookText = true →
        (session.running index).attempt.remaining = []) :
    ∃ testCase count whole, .testCase testCase ∈ collected ∧
      testCase.id = executable.testCaseId ∧
      ReportsOnce testCase started count whole ∧
      (session.put index ((session.running index).finish error)).Settled
        attached started whole := by
  have behind := tracked.finish collects own executes begun recognised
  have inside := executes.lt_length tracked.sound
  have still :
      ((session.put index
        ((session.running index).finish error)).running
          index).attempt.started = some started := by
    rw [attempt_put_self inside, Running.started_finish, begun]
  rcases behind.stands executes still with
    ⟨testCase, member, describes, stands⟩
  rw [attempt_put_self inside] at stands
  cases stands with
  | unfinished count host runs unfinished remaining told =>
      rw [Running.finished_finish] at unfinished
      cases unfinished
  | finished count _ once =>
      refine ⟨testCase, count, _, member, describes.id, once, rfl,
        behind.drawn still, ?_⟩
      intro other otherBegun
      rw [behind.apart otherBegun still, attempt_put_self inside]
      exact Running.finished_finish _ error

end Settled

theorem Tracked.finishesOnce_view {registry : Registry Host}
    {spec : Spec Host} {collected : List (Envelope Nat)} {attached : Bool}
    {session : Session Host} (collects : spec.Collects registry collected)
    (tracked : session.Tracked registry spec collected attached) :
    FinishesOnce (view attached session.stage.messages) := by
  intro before finish behind whole ends
  have member : finish ∈ view attached session.stage.messages := by
    rw [whole]
    exact List.mem_append_right _ List.mem_cons_self
  rcases tracked.told finish member with first | ⟨started, -, about⟩
  · exact absurd ends (collects.silent finish first).2
  · have own :
        ofAttempt started (view attached session.stage.messages) =
          ofAttempt started before ++
            finish :: ofAttempt started behind := by
      rw [whole, Envelope.ofAttempt_append,
        Envelope.ofAttempt_cons_self about]
    rcases tracked.parts started with nothing | parts
    · rw [own] at nothing
      simp at nothing
    · rcases parts with ⟨testCase, count, report, -, once, part⟩
      rw [own] at part
      rcases once.of_finish ends part with ⟨began, silent, nothing⟩
      refine ⟨started, testCase.id, count, about,
        (Envelope.mem_ofAttempt.mp began).1, ?_⟩
      intro message listed same
      rcases List.mem_append.mp listed with early | late
      · exact silent message (Envelope.mem_ofAttempt.mpr ⟨early, same⟩)
      · have among := Envelope.mem_ofAttempt.mpr ⟨late, same⟩
        rw [nothing] at among
        cases among

/-- Between two sessions an attempt at a test begins, of which nothing has been
told before. -/
def Begins (index : Nat) (executable : Executable Host)
    (session begun : Session Host) : Prop :=
  ∃ started count told,
    (begun.running index).attempt.started = some started ∧
      ofAttempt started session.stage.messages = [] ∧
      begun.stage.messages =
        session.stage.messages ++
          .caseStarted started executable.testCaseId count {} :: told

/-- No message is about an attempt that is still to be made, for attachments
are to runs that have been started. -/
theorem Tracked.unheard_next {registry : Registry Host} {spec : Spec Host}
    {collected : List (Envelope Nat)} {attached : Bool}
    {session : Session Host} (collects : spec.Collects registry collected)
    (tracked : session.Tracked registry spec collected attached) :
    ofAttempt session.stage.next session.stage.messages = [] := by
  have shown {message : Envelope Nat}
      (member : message ∈ session.stage.messages)
      (unattached : message.attachedTo? = none) :
      message.attempt? ≠ some session.stage.next := by
    intro about
    have shows : message ∈ view attached session.stage.messages :=
      Envelope.mem_view.mpr ⟨member, Or.inr unattached⟩
    have among := Envelope.mem_ofAttempt.mpr ⟨shows, about⟩
    rw [tracked.ofAttempt_next collects] at among
    cases among
  apply Envelope.ofAttempt_eq_nil
  intro message member about
  cases attachment : message.attachedTo? with
  | none => exact shown member attachment about
  | some target =>
      obtain ⟨before, behind, split⟩ := List.append_of_mem member
      obtain ⟨start, earlier, runs⟩ :=
        tracked.attach.exists_start attachment split
      have listed : start ∈ session.stage.messages := by
        rw [split]
        exact List.mem_append_left _ earlier
      refine shown listed (Envelope.attachedTo?_of_stepRun? runs) ?_
      rw [Envelope.attempt?_of_stepRun? runs, ← about,
        Envelope.attempt?_of_attachedTo? attachment]

theorem Tracked.begins {registry : Registry Host} {spec : Spec Host}
    {collected : List (Envelope Nat)} {attached : Bool}
    {session : Session Host} (collects : spec.Collects registry collected)
    (own : attached = true → registry.AttachesOwn)
    (tracked : session.Tracked registry spec collected attached)
    {index : Nat} {executable : Executable Host}
    (executes : Executes spec index executable) :
    Begins index executable session
      (session.put index
        (executable.body spec (session.running index)).2) := by
  have tells := tracked.tells_body collects own executes
  refine ⟨session.stage.next, _, _, ?_, tracked.unheard_next collects,
    tells.messages_put⟩
  rw [attempt_put_self (executes.lt_length tracked.sound)]
  exact tells.own

/-- What shows of the messages about an attempt is the first part of a report.
Once the latest attempt at a test is finished it is the whole report, and stays
so whatever is called then. -/
def ReportsAttempts (spec : Spec Host) (collected : List (Envelope Nat))
    (attached : Bool) (session : Session Host) : Prop :=
  (∀ started,
      PartlyReported collected (view attached session.stage.messages)
        started) ∧
    ∀ index executable, Executes spec index executable →
      ∀ started, (session.running index).attempt.started = some started →
        ∀ error : Option String,
          (error.any Failure.isHookText = true →
            (session.running index).attempt.remaining = []) →
          ∀ later,
            Calls spec
              (session.put index ((session.running index).finish error))
              later →
            WhollyReported collected (view attached later.stage.messages)
              executable.testCaseId started

theorem Tracked.reportsAttempts {registry : Registry Host}
    {spec : Spec Host} {collected : List (Envelope Nat)} {attached : Bool}
    {session : Session Host} (collects : spec.Collects registry collected)
    (own : attached = true → registry.AttachesOwn)
    (tracked : session.Tracked registry spec collected attached) :
    ReportsAttempts spec collected attached session := by
  refine ⟨tracked.parts, ?_⟩
  intro index executable executes started begun error recognised later
    behind
  rcases tracked.settles collects own executes begun recognised with
    ⟨testCase, count, whole, member, id, once, settled⟩
  have finished :=
    tracked.finish collects own executes begun recognised
  have still := Calls.settled collects own behind finished settled
  rw [← still.told] at once
  exact ⟨testCase, count, member, id, once⟩

/--
Whatever calls a host makes, the messages only grow.  Each end of an attempt
names one that has been started, an attempt ends once, and each attachment is
to the run of a test step that has been started.  The attempts at a test case
are numbered from zero, in 32 bits.  A test that is run begins a new attempt,
and finishing the latest one again changes nothing, whatever has been called in
between.

Without the attachments, the messages about an attempt are the first part of
the report of a test case, and all of it once the attempt is finished.  They
are so together with the attachments if bodies attach through their own
contexts.
-/
theorem calls_report_attempts
    {registry : Registry Host} {source : String} {document : Document Nat}
    {pickles : List (Pickle Nat)} {options : ComposeOptions}
    {first next : Nat} {spec : Spec Host}
    {collected : List (Envelope Nat)}
    (composed :
      (Spec.compose registry source document pickles options).run first =
        ((spec, collected), next))
    {host : Host} {session : Session Host}
    (calls : Calls spec (.start spec collected host next) session) :
    (∀ later, Calls spec session later →
        session.stage.messages <+: later.stage.messages) ∧
      FinishesOnce session.stage.messages ∧
      AttachToStarted [] session.stage.messages ∧
      (∀ testCase, ∃ count,
        session.stage.messages.filterMap (attemptNumber? testCase) =
          (List.range count).map (· % UInt32.size)) ∧
      ReportsAttempts spec collected false session ∧
      (registry.AttachesOwn →
        ReportsAttempts spec collected true session) ∧
      ∀ index executable, Executes spec index executable →
        Begins index executable session
          (session.put index
            (executable.body spec (session.running index)).2) ∧
        ∀ started,
          (session.running index).attempt.started = some started →
          ∀ error : Option String,
            (error.any Failure.isHookText = true →
              (session.running index).attempt.remaining = []) →
            ∀ later,
              Calls spec
                (session.put index ((session.running index).finish error))
                later →
              (later.running index).attempt.started = some started →
                ∀ again,
                  later.put index ((later.running index).finish again) =
                    later := by
  have collects := Spec.collects composed
  have tracked {attached : Bool}
      (own : attached = true → registry.AttachesOwn) :
      session.Tracked registry spec collected attached :=
    Calls.tracked collects own calls (start_tracked composed attached host)
  have hidden : false = true → registry.AttachesOwn := nofun
  have unattached := tracked hidden
  refine ⟨fun later => Calls.messages_prefix,
    .of_view (unattached.finishesOnce_view collects), unattached.attach, ?_,
    unattached.reportsAttempts collects hidden, ?_, ?_⟩
  · intro testCase
    by_cases executed :
        ∃ index executable, Executes spec index executable ∧
          executable.testCaseId = testCase
    · rcases executed with ⟨index, executable, executes, rfl⟩
      rcases unattached.numbers executes with ⟨count, -, numbers⟩
      exact ⟨count, numbers⟩
    · refine ⟨0, unattached.others testCase ?_⟩
      intro index executable executes same
      exact executed ⟨index, executable, executes, same⟩
  · intro own
    have shows : true = true → registry.AttachesOwn := fun _ => own
    exact (tracked shows).reportsAttempts collects shows
  · intro index executable executes
    refine ⟨unattached.begins collects hidden executes, ?_⟩
    intro started begun error recognised later behind same again
    rcases unattached.settles collects hidden executes begun recognised with
      ⟨testCase, count, whole, member, id, once, settled⟩
    have finished :=
      unattached.finish collects hidden executes begun recognised
    have still := Calls.settled collects hidden behind finished settled
    rw [Running.finish_of_finished (still.finished same), put_running]

end Session

namespace Sample

/-- The document with one more scenario. -/
def pair : Document Nat :=
  { document with
    feature := document.feature.map fun feature =>
      { feature with
        children := feature.children ++ [.scenario
          { id := 9
            location := ⟨3, none⟩
            tags := []
            keyword := "Scenario"
            name := "C"
            description := ""
            steps := []
            examples := [] }] } }

/-- The pickle of the other scenario, which has a single step. -/
def secondPickle : Pickle Nat where
  id := 10
  uri := "a.feature"
  name := "C"
  steps := [{ id := 11, text := "a step", nodeIds := [12], kind := .context }]
  tags := []
  nodeIds := [9]

/-- The pair of tests, whose steps are suspended. -/
def composedPair : (Spec (List String) × List (Envelope Nat)) × Nat :=
  (Spec.compose (registry (some .suspended)) "" pair
    [pickle "a step", secondPickle] {}).run 13

def firstExecutable : Executable (List String) where
  pickle := pickle "a step"
  testCaseId := 17
  slots :=
    [ .hook 13 (hook 0 .before),
      .step 14 { id := 5, text := "a step", nodeIds := [7], kind := .context },
      .step 15 { id := 6, text := "a step", nodeIds := [8], kind := .action },
      .hook 16 (hook 1 .after) ]

def secondExecutable : Executable (List String) where
  pickle := secondPickle
  testCaseId := 21
  slots :=
    [ .hook 18 (hook 0 .before),
      .step 19
        { id := 11, text := "a step", nodeIds := [12], kind := .context },
      .hook 20 (hook 1 .after) ]

/-- The first test is begun twice, the other in between, and both are finished:
the first attempt is never told to its end. -/
theorem interleaved_calls_report_attempts :
    let spec := composedPair.1.1
    let body (executable : Executable (List String)) (index : Nat)
        (session : Session (List String)) :=
      session.put index (executable.body spec (session.running index)).2
    let finish (index : Nat) (session : Session (List String)) :=
      session.put index ((session.running index).finish none)
    let begun :=
      body firstExecutable 0
        (body secondExecutable 1
          (body firstExecutable 0
            (.start spec composedPair.1.2 [] composedPair.2)))
    let later := finish 1 (finish 0 begun)
    (ofAttempt 22 later.stage.messages).length = 6 ∧
      WhollyReported composedPair.1.2 later.stage.messages 17 24 ∧
      later.put 0 ((later.running 0).finish (some "no")) = later := by
  intro spec body finish begun later
  have composed :
      (Spec.compose (registry (some .suspended)) "" pair
          [pickle "a step", secondPickle] {}).run 13 =
        ((spec, composedPair.1.2), 22) := rfl
  have first : Session.Executes spec 0 firstExecutable := ⟨_, rfl, rfl⟩
  have second : Session.Executes spec 1 secondExecutable := ⟨_, rfl, rfl⟩
  have calls :
      Session.Calls spec (.start spec composedPair.1.2 [] 22) begun :=
    .tail (.tail (.tail .refl (.body first)) (.body second)) (.body first)
  have unfailed (session : Session (List String)) (index : Nat) :
      (none : Option String).any Failure.isHookText = true →
        (session.running index).attempt.remaining = [] :=
    fun hooked => nomatch hooked
  have behind : Session.Calls spec (finish 0 begun) later :=
    .single (.finish second rfl (unfailed _ 1))
  rcases Session.calls_report_attempts composed calls with
    ⟨-, -, -, -, -, own, finished⟩
  have whole :=
    (own (attachesOwn_registry _)).2 0 firstExecutable first 24 rfl none
      (unfailed _ 0) later behind
  rw [Envelope.view_true] at whole
  have same :=
    (finished 0 firstExecutable first).2 24 rfl none (unfailed _ 0) later
      behind rfl (some "no")
  exact ⟨by decide +kernel, whole, same⟩

/-- A second attempt attaches through a context that has been kept in the first
one, to a test step of an attempt that has been finished. -/
theorem kept_context_attaches_behind_finish :
    let spec := composedKeeping.1.1
    let body (session : Session (List Scope)) :=
      session.put 0 (keepingExecutable.body spec (session.running 0)).2
    let finished :=
      (body keepingSession).put 0
        (((body keepingSession).running 0).finish none)
    Session.Calls spec keepingSession (body finished) ∧
      ¬ PartlyReported composedKeeping.1.2 (body finished).stage.messages
        12 := by
  intro spec body finished
  have executes : Session.Executes spec 0 keepingExecutable := ⟨_, rfl, rfl⟩
  have unfailed :
      (none : Option String).any Failure.isHookText = true →
        ((body keepingSession).running 0).attempt.remaining = [] := nofun
  refine
    ⟨.tail (.tail (.single (.body executes)) (.finish executes rfl unfailed))
      (.body executes), ?_⟩
  have told :
      ofAttempt 12 (body finished).stage.messages =
        [ .caseStarted 12 11 0 {},
          .stepStarted 9 12 {},
          Running.finishedEnvelope 12 9 .passed none,
          .stepStarted 10 12 {},
          .attachment 12 9 "late" "text/plain" .identity,
          Running.finishedEnvelope 12 10 .passed none ] ++
        .caseFinished (some 12) {} false ::
          [ .attachment 12 9 "late" "text/plain" .identity,
            .attachment 12 9 "late" "text/plain" .identity ] := by
    decide +kernel
  rintro (nothing | ⟨testCase, count, whole, -, once, part⟩)
  · rw [told] at nothing
    cases nothing
  · rw [told] at part
    have ends : (Envelope.caseFinished (some 12) {} false).IsFinish :=
      trivial
    cases (once.of_finish ends part).2.2

end Sample

end ScenarioRunner
