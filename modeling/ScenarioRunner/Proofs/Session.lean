import Mathlib.Logic.Relation
import ScenarioRunner.Proofs.AttemptReport
import ScenarioRunner.Proofs.Composition
import ScenarioRunner.Test.Runner

/-!
# Sessions and their steps

The attempts at the tests of a spec may be made and finished in any order.
Between them the host may change, and whoever has kept a context may attach
through it.  Each of these is a step of a session.
What a step preserves holds of every session that steps reach from the start:
there is an attempt for each test, and every identifier that the messages show
for tests and attempts is below the next one.
-/

namespace ScenarioRunner

variable {Host : Type}

namespace Session

/-- The running state of the test at an index. -/
def running (session : Session Host) (index : Nat) : Running Host where
  attempt := session.attempts.getD index {}
  stage := session.stage

/-- A session with another running state of the test at an index. -/
def put (session : Session Host) (index : Nat) (running : Running Host) :
    Session Host where
  attempts := session.attempts.set index running.attempt
  stage := running.stage

/-- A session with attachments that are made outside of the tests. -/
def attach (session : Session Host) (attachments : List Attachment) :
    Session Host :=
  { session with stage := session.stage.attach attachments }

/-- A session in another host. -/
def enter (session : Session Host) (host : Host) : Session Host :=
  { session with stage := { session.stage with host } }

/-- What is run for the test at an index. -/
def Executes (spec : Spec Host) (index : Nat)
    (executable : Executable Host) : Prop :=
  ∃ test, spec.tests[index]? = some test ∧
    test.executable = some executable

/-- What can happen to a session. -/
inductive Step (spec : Spec Host) : Session Host → Session Host → Prop where
  /-- Something outside of the tests changes the host. -/
  | enter {session : Session Host} (host : Host) :
      Step spec session (session.enter host)
  /-- Something outside of the tests attaches through kept contexts. -/
  | attach {session : Session Host} (attachments : List Attachment) :
      Step spec session (session.attach attachments)
  /-- An attempt is made; it may be suspended, and then it is left so. -/
  | body {session : Session Host} {index : Nat}
      {executable : Executable Host}
      (executes : Executes spec index executable) :
      Step spec session
        (session.put index
          (executable.body spec (session.running index)).2)
  /-- The latest attempt is finished with the text of a failure or none. -/
  | finish {session : Session Host} {index : Nat}
      {executable : Executable Host}
      (executes : Executes spec index executable)
      (error : Option String) :
      Step spec session
        (session.put index ((session.running index).finish error))

/-- Steps lead from one session to another. -/
abbrev Reaches (spec : Spec Host) :
    Session Host → Session Host → Prop :=
  Relation.ReflTransGen (Step spec)

/-- What holds of every session of a spec. -/
structure Sound (spec : Spec Host) (session : Session Host) : Prop where
  /-- There is an attempt for each test. -/
  fits : session.attempts.length = spec.tests.length
  /-- The identifiers of tests and attempts are below the next one. -/
  numbered : ∀ envelope ∈ session.stage.messages,
    ∀ id ∈ envelope.drawn, id < session.stage.next

end Session

/-! ## Messages that draw no identifier -/

theorem Envelope.drawn_of_about? {envelope : Envelope Nat}
    {named : Nat × Nat} (about : envelope.about? = some named) :
    envelope.drawn = [] := by
  cases envelope <;> first | rfl | cases about

theorem Running.drawn_of_mem_closing
    {running : Running Host} {error : Option String}
    {envelope : Envelope Nat}
    (member : envelope ∈ running.closing error) :
    envelope.drawn = [] := by
  rcases cases_of_mem_closing member with ⟨_, _, -, about, -⟩ | rfl
  · exact Envelope.drawn_of_about? about
  · rfl

/-! ## What steps preserve -/

namespace Session

theorem Sound.enter {spec : Spec Host} {session : Session Host}
    (sound : session.Sound spec) (host : Host) :
    (session.enter host).Sound spec :=
  ⟨sound.fits, sound.numbered⟩

theorem Sound.attach {spec : Spec Host} {session : Session Host}
    (sound : session.Sound spec) (attachments : List Attachment) :
    (session.attach attachments).Sound spec := by
  refine ⟨sound.fits, ?_⟩
  intro envelope member id drawn
  rcases List.mem_append.mp member with old | shown
  · exact sound.numbered envelope old id drawn
  · obtain ⟨attached, -, rfl⟩ := List.mem_map.mp shown
    cases drawn

theorem Sound.body {spec : Spec Host} {session : Session Host}
    (sound : session.Sound spec) (index : Nat)
    (executable : Executable Host) :
    (session.put index
      (executable.body spec (session.running index)).2).Sound spec := by
  refine ⟨by simpa [put] using sound.fits, ?_⟩
  intro envelope member id drawn
  simp only [put, Executable.messages_body, List.mem_append,
    List.mem_cons] at member
  simp only [put, Executable.next_body]
  rcases member with old | rfl | played
  · exact Nat.lt_succ_of_lt (sound.numbered envelope old id drawn)
  · simp only [Envelope.drawn, List.mem_singleton] at drawn
    omega
  · obtain ⟨named, about⟩ :=
      (Course.tellsOf_of_mem_envelopes played).exists_about
    rw [Envelope.drawn_of_about? about] at drawn
    cases drawn

theorem Sound.finish {spec : Spec Host} {session : Session Host}
    (sound : session.Sound spec) (index : Nat) (error : Option String) :
    (session.put index
      ((session.running index).finish error)).Sound spec := by
  refine ⟨by simpa [put] using sound.fits, ?_⟩
  cases finished : (session.running index).attempt.finished with
  | true =>
      rw [Running.finish_of_finished finished]
      exact sound.numbered
  | false =>
      rw [Running.finish_of_unfinished finished]
      intro envelope member id drawn
      rcases List.mem_append.mp member with old | closed
      · exact sound.numbered envelope old id drawn
      · rw [Running.drawn_of_mem_closing closed] at drawn
        cases drawn

/-- A step preserves what holds of every session. -/
theorem Step.sound {spec : Spec Host} {before after : Session Host}
    (step : Step spec before after) (sound : before.Sound spec) :
    after.Sound spec := by
  cases step with
  | enter host => exact sound.enter host
  | attach attachments => exact sound.attach attachments
  | body executes => exact sound.body _ _
  | finish executes error => exact sound.finish _ error

/-- Steps preserve what holds of every session. -/
theorem Reaches.sound {spec : Spec Host} {before after : Session Host}
    (reaches : Reaches spec before after) (sound : before.Sound spec) :
    after.Sound spec := by
  induction reaches with
  | refl => exact sound
  | tail _ step ih => exact step.sound ih

/-- The session of a composed spec is sound before any attempt. -/
theorem start_sound
    {registry : Registry Host} {source : String} {document : Document Nat}
    {pickles : List (Pickle Nat)} {options : ComposeOptions}
    {first next : Nat} {spec : Spec Host}
    {collected : List (Envelope Nat)}
    (composed :
      (Spec.compose registry source document pickles options).run first =
        ((spec, collected), next))
    (host : Host) :
    (Session.start spec collected host next).Sound spec where
  fits := List.length_map _
  numbered := fun _ member _ drawn =>
    Spec.drawn_lt_next composed member drawn

end Session

/-- The session of the composed feature before any attempt. -/
def Sample.session (ending : Option (Ending Outcome)) (text : String) :
    Session (List String) :=
  .start (Sample.composed ending text).1.1 (Sample.composed ending text).1.2 []
    (Sample.composed ending text).2

end ScenarioRunner
