import ScenarioRunner.Proofs.AttemptMessages

/-!
# Calls of a host

A host makes attempts at tests and finishes them, in any order and without
regard to other tests.  It finishes only what it has begun, and says that a
hook has failed only where the attempt has reported all of its test steps.

The invariant of such calls is `Session.Tracked`: what shows of the messages
about each attempt is the first part of a report, it says where the latest
attempt at each test stands, and no two tests share an attempt.  A call tells
more about one attempt only (`Session.Tells`), which leaves what holds of the
others.  Attachments show only if bodies attach through their own contexts:
through one that has been kept more could be told about any attempt.
-/

namespace ScenarioRunner

open Envelope (ofAttempt attemptNumber? view)

variable {Host : Type}

namespace Session

/-! ## Calls -/

/-- What a host may call. -/
inductive Call (spec : Spec Host) : Session Host → Session Host → Prop where
  /-- Something outside of the tests changes the host. -/
  | enter {session : Session Host} (host : Host) :
      Call spec session (session.enter host)
  /-- An attempt is made; it may be suspended, and then it is left so. -/
  | body {session : Session Host} {index : Nat}
      {executable : Executable Host}
      (executes : Executes spec index executable) :
      Call spec session
        (session.put index
          (executable.body spec (session.running index)).2)
  /-- The latest attempt is finished. -/
  | finish {session : Session Host} {index : Nat}
      {executable : Executable Host}
      (executes : Executes spec index executable) {started : Nat}
      (begun : (session.running index).attempt.started = some started)
      {error : Option String}
      (recognised :
        error.any Failure.isHookText = true →
          (session.running index).attempt.remaining = []) :
      Call spec session
        (session.put index ((session.running index).finish error))

/-- Calls lead from one session to another. -/
abbrev Calls (spec : Spec Host) : Session Host → Session Host → Prop :=
  Relation.ReflTransGen (Call spec)

variable {spec : Spec Host} {session before after : Session Host}

theorem Call.step (call : Call spec before after) :
    Step spec before after := by
  cases call with
  | enter host => exact .enter host
  | body executes => exact .body executes
  | finish executes begun recognised => exact .finish executes _

/-- The messages only grow. -/
theorem Call.messages_prefix (call : Call spec before after) :
    before.stage.messages <+: after.stage.messages := by
  cases call with
  | enter host => exact List.prefix_rfl
  | body executes =>
      simp only [put, Executable.messages_body]
      exact List.prefix_append _ _
  | @finish index _ _ _ _ error _ =>
      cases finished : (before.running index).attempt.finished with
      | true =>
          rw [Running.finish_of_finished finished]
          exact List.prefix_rfl
      | false =>
          rw [Running.finish_of_unfinished finished]
          exact List.prefix_append _ _

theorem Calls.messages_prefix (calls : Calls spec before after) :
    before.stage.messages <+: after.stage.messages := by
  induction calls with
  | refl => exact List.prefix_rfl
  | tail _ call ih => exact ih.trans call.messages_prefix

/-! ## Attempts behind a call -/

theorem attempt_put_self {index : Nat} {running : Running Host}
    (inside : index < session.attempts.length) :
    ((session.put index running).running index).attempt =
      running.attempt := by
  simp [put, Session.running, inside]

theorem attempt_put_of_ne {index other : Nat} {running : Running Host}
    (different : other ≠ index) :
    ((session.put index running).running other).attempt =
      (session.running other).attempt := by
  simp [put, Session.running, List.getD_eq_getElem?_getD,
    List.getElem?_set_ne different.symm]

/-- Putting back what is there changes nothing. -/
theorem put_running (session : Session Host) (index : Nat) :
    session.put index (session.running index) = session := by
  have same :
      session.attempts.set index (session.attempts.getD index {}) =
        session.attempts := by
    by_cases inside : index < session.attempts.length
    · rw [← List.getElem_eq_getD (h := inside)]
      exact List.set_getElem_self inside
    · exact List.set_eq_of_length_le (Nat.le_of_not_lt inside)
  exact congrArg (Session.mk · session.stage) same

theorem Executes.lt_length {index : Nat} {executable : Executable Host}
    (executes : Executes spec index executable)
    (sound : session.Sound spec) : index < session.attempts.length := by
  rcases executes with ⟨test, listed, -⟩
  rw [sound.fits]
  exact (List.getElem?_eq_some_iff.mp listed).1

theorem Executes.unique {index : Nat} {first second : Executable Host}
    (firstExecutes : Executes spec index first)
    (secondExecutes : Executes spec index second) : first = second := by
  rcases firstExecutes with ⟨test, listed, executed⟩
  rcases secondExecutes with ⟨other, otherListed, otherExecuted⟩
  cases listed.symm.trans otherListed
  exact Option.some.inj (executed.symm.trans otherExecuted)

end Session

/-! ## What composing gives -/

/-- A spec has the registry that it was composed with.  Collected messages say
nothing about attempts, and every executable test has a test case among them
that no other test has. -/
structure Spec.Collects (registry : Registry Host) (spec : Spec Host)
    (collected : List (Envelope Nat)) : Prop where
  kept : spec.registry = registry
  silent : ∀ message ∈ collected,
    message.attempt? = none ∧ ¬ message.IsFinish
  described : ∀ {index : Nat} {executable : Executable Host},
    Session.Executes spec index executable →
      ∃ testCase, .testCase testCase ∈ collected ∧
        Describes registry testCase executable
  distinct : ∀ {first second : Nat} {early late : Executable Host},
    Session.Executes spec first early →
      Session.Executes spec second late →
        early.testCaseId = late.testCaseId → first = second

theorem Compose.attempt?_of_mem_opening
    {registry : Registry Host} {source : String} {document : Document Nat}
    {pickles : List (Pickle Nat)} {message : Envelope Nat}
    (member :
      message ∈ openingMessages registry source document pickles) :
    message.attempt? = none ∧ ¬ message.IsFinish := by
  simp only [openingMessages, Registry.envelopes, List.mem_append,
    List.mem_cons, List.mem_map, List.not_mem_nil, or_false] at member
  rcases member with (((rfl | rfl) | ⟨_, _, rfl⟩) |
    (⟨_, _, rfl⟩ | ⟨_, _, rfl⟩)) | rfl <;> exact ⟨rfl, id⟩

theorem Session.Executes.testCaseId_ne
    {registry : Registry Host} {source : String} {document : Document Nat}
    {pickles : List (Pickle Nat)} {options : ComposeOptions}
    {number next : Nat} {spec : Spec Host}
    {collected : List (Envelope Nat)}
    (composed :
      (Spec.compose registry source document pickles options).run number =
        ((spec, collected), next))
    {first second : Nat} (before : first < second)
    {early late : Executable Host}
    (firstExecutes : Session.Executes spec first early)
    (secondExecutes : Session.Executes spec second late) :
    early.testCaseId ≠ late.testCaseId := by
  have distinct := Spec.nodup_testCaseIds composed
  rw [List.Nodup, List.pairwise_map, List.pairwise_filterMap] at distinct
  rcases firstExecutes with ⟨test, listed, executed⟩
  rcases secondExecutes with ⟨other, otherListed, otherExecuted⟩
  rcases List.getElem?_eq_some_iff.mp listed with ⟨inside, rfl⟩
  rcases List.getElem?_eq_some_iff.mp otherListed with ⟨within, rfl⟩
  exact List.pairwise_iff_getElem.mp distinct first second inside within
    before _ executed _ otherExecuted

theorem Spec.collects
    {registry : Registry Host} {source : String} {document : Document Nat}
    {pickles : List (Pickle Nat)} {options : ComposeOptions}
    {first next : Nat} {spec : Spec Host}
    {collected : List (Envelope Nat)}
    (composed :
      (Spec.compose registry source document pickles options).run first =
        ((spec, collected), next)) :
    spec.Collects registry collected := by
  constructor
  · exact registry_of_compose composed
  · have parts :=
      compose_consists (fun _ => True) registry source document pickles
        options (fun setting _ _ name pickle _ => .trivial _) first
    rw [composed] at parts
    rcases parts with ⟨-, testCases, whole, -⟩
    simp only at whole
    rw [whole]
    intro message member
    rcases List.mem_append.mp member with opening | shown
    · exact Compose.attempt?_of_mem_opening opening
    · rcases List.mem_map.mp shown with ⟨testCase, -, rfl⟩
      exact ⟨rfl, id⟩
  · rintro index executable ⟨test, listed, executed⟩
    rcases exists_testCase composed (List.mem_of_getElem? listed)
      executed with ⟨testCase, member, describes, -⟩
    exact ⟨testCase, member, describes⟩
  · intro first second early late firstExecutes secondExecutes same
    rcases Nat.lt_trichotomy first second with before | equal | behind
    · exact absurd same
        (firstExecutes.testCaseId_ne composed before secondExecutes)
    · exact equal
    · exact absurd same.symm
        (secondExecutes.testCaseId_ne composed behind firstExecutes)

theorem Spec.Collects.attachesOwn {registry : Registry Host}
    {spec : Spec Host} {collected : List (Envelope Nat)}
    (collects : spec.Collects registry collected)
    (own : registry.AttachesOwn) {index : Nat}
    {executable : Executable Host}
    (executes : Session.Executes spec index executable) (started : Nat) :
    executable.AttachesOwn spec started := by
  rcases collects.described executes with ⟨testCase, -, describes⟩
  obtain rfl := collects.kept
  exact own.executable describes started

namespace Session

/-! ## The invariant -/

/-- What holds behind any calls. -/
structure Tracked (registry : Registry Host) (spec : Spec Host)
    (collected : List (Envelope Nat)) (attached : Bool)
    (session : Session Host) : Prop where
  sound : session.Sound spec
  attach : AttachToStarted [] session.stage.messages
  /-- What shows are collected messages and those about attempts that have been
  made. -/
  told : ∀ message ∈ view attached session.stage.messages,
    message ∈ collected ∨
      ∃ started < session.stage.next, message.attempt? = some started
  /-- The latest attempt at each test has been made. -/
  drawn : ∀ {index started : Nat},
    (session.running index).attempt.started = some started →
      started < session.stage.next
  /-- No two tests share an attempt. -/
  apart : ∀ {first second started : Nat},
    (session.running first).attempt.started = some started →
      (session.running second).attempt.started = some started →
        first = second
  /-- The messages say where the latest attempt at a test stands. -/
  stands : ∀ {index started : Nat} {executable : Executable Host},
    Executes spec index executable →
      (session.running index).attempt.started = some started →
        ∃ testCase, .testCase testCase ∈ collected ∧
          Describes registry testCase executable ∧
          (session.running index).attempt.Stands spec attached testCase
            executable started
            (ofAttempt started (view attached session.stage.messages))
  parts : ∀ started,
    PartlyReported collected (view attached session.stage.messages) started
  /-- The attempts at a test are numbered in 32 bits. -/
  numbers : ∀ {index : Nat} {executable : Executable Host},
    Executes spec index executable →
      ∃ count,
        (session.running index).attempt.count = UInt32.ofNat count ∧
          session.stage.messages.filterMap
              (attemptNumber? executable.testCaseId) =
            (List.range count).map (· % UInt32.size)
  /-- There are no attempts but those at tests. -/
  others : ∀ testCase,
    (∀ {index : Nat} {executable : Executable Host},
      Executes spec index executable →
        executable.testCaseId ≠ testCase) →
      session.stage.messages.filterMap (attemptNumber? testCase) = []

/-- A running state of the test at an index tells more about one attempt, in
which no other test takes part. -/
structure Tells (session : Session Host) (attached : Bool)
    (index started : Nat) (told : List (Envelope Nat))
    (running : Running Host) : Prop where
  own : running.attempt.started = some started
  messages :
    running.stage.messages = session.stage.messages ++ told
  attach : AttachToStarted session.stage.stepRuns told
  about : ∀ message ∈ view attached told, message.attempt? = some started
  advanced : session.stage.next ≤ running.stage.next
  drawn : started < running.stage.next
  alone : ∀ {other : Nat}, other ≠ index →
    (session.running other).attempt.started ≠ some started

section Put

variable {registry : Registry Host} {spec : Spec Host}
variable {collected : List (Envelope Nat)} {attached : Bool}
variable {session : Session Host}
variable {index started : Nat} {told : List (Envelope Nat)}
variable {running : Running Host}

namespace Tells

theorem messages_put
    (tells : session.Tells attached index started told running) :
    (session.put index running).stage.messages =
      session.stage.messages ++ told :=
  tells.messages

theorem view_put
    (tells : session.Tells attached index started told running) :
    view attached (session.put index running).stage.messages =
      view attached session.stage.messages ++ view attached told := by
  rw [tells.messages_put, Envelope.view_append]

theorem ofAttempt_self
    (tells : session.Tells attached index started told running) :
    ofAttempt started
        (view attached (session.put index running).stage.messages) =
      ofAttempt started (view attached session.stage.messages) ++
        view attached told := by
  rw [tells.view_put]
  exact Envelope.ofAttempt_append_self tells.about _

theorem ofAttempt_of_ne
    (tells : session.Tells attached index started told running)
    {named : Nat} (different : named ≠ started) :
    ofAttempt named
        (view attached (session.put index running).stage.messages) =
      ofAttempt named (view attached session.stage.messages) := by
  rw [tells.view_put]
  exact Envelope.ofAttempt_append_of_ne tells.about different _

/-- The latest attempt at a test is the one that is told about, or another one
at another test. -/
theorem started_cases
    (tells : session.Tells attached index started told running)
    (inside : index < session.attempts.length) {other named : Nat}
    (begun :
      ((session.put index running).running other).attempt.started =
        some named) :
    other = index ∧ named = started ∨
      other ≠ index ∧ named ≠ started ∧
        (session.running other).attempt.started = some named := by
  by_cases same : other = index
  · rw [same, attempt_put_self inside, tells.own] at begun
    exact Or.inl ⟨same, (Option.some.inj begun).symm⟩
  · rw [attempt_put_of_ne same] at begun
    refine Or.inr ⟨same, ?_, begun⟩
    rintro rfl
    exact tells.alone same begun

theorem attach_put
    (tells : session.Tells attached index started told running)
    (tracked : session.Tracked registry spec collected attached) :
    AttachToStarted [] (session.put index running).stage.messages := by
  rw [tells.messages_put, AttachToStarted.append_iff]
  refine ⟨tracked.attach, ?_⟩
  rw [List.nil_append]
  exact tells.attach

theorem told_put
    (tells : session.Tells attached index started told running)
    (tracked : session.Tracked registry spec collected attached)
    {message : Envelope Nat}
    (listed :
      message ∈ view attached (session.put index running).stage.messages) :
    message ∈ collected ∨
      ∃ named < (session.put index running).stage.next,
        message.attempt? = some named := by
  rw [tells.view_put] at listed
  rcases List.mem_append.mp listed with old | new
  · rcases tracked.told message old with first | ⟨named, made, about⟩
    · exact Or.inl first
    · exact Or.inr ⟨named, Nat.lt_of_lt_of_le made tells.advanced, about⟩
  · exact Or.inr ⟨started, tells.drawn, tells.about message new⟩

theorem drawn_put
    (tells : session.Tells attached index started told running)
    (tracked : session.Tracked registry spec collected attached)
    (inside : index < session.attempts.length) {other named : Nat}
    (begun :
      ((session.put index running).running other).attempt.started =
        some named) :
    named < (session.put index running).stage.next := by
  rcases tells.started_cases inside begun with ⟨-, rfl⟩ | ⟨-, -, old⟩
  · exact tells.drawn
  · exact Nat.lt_of_lt_of_le (tracked.drawn old) tells.advanced

theorem apart
    (tells : session.Tells attached index started told running)
    (tracked : session.Tracked registry spec collected attached)
    (inside : index < session.attempts.length) {first second named : Nat}
    (firstBegun :
      ((session.put index running).running first).attempt.started =
        some named)
    (secondBegun :
      ((session.put index running).running second).attempt.started =
        some named) :
    first = second := by
  rcases tells.started_cases inside firstBegun with
    ⟨rfl, rfl⟩ | ⟨-, different, old⟩
  · rcases tells.started_cases inside secondBegun with
      ⟨rfl, -⟩ | ⟨-, different, -⟩
    · rfl
    · exact absurd rfl different
  · rcases tells.started_cases inside secondBegun with
      ⟨-, same⟩ | ⟨-, -, oldSecond⟩
    · exact absurd same different
    · exact tracked.apart old oldSecond

end Tells

/-- What is told about one attempt leaves what holds of the others. -/
theorem Tracked.put (collects : spec.Collects registry collected)
    (own : attached = true → registry.AttachesOwn)
    (tracked : session.Tracked registry spec collected attached)
    (tells : session.Tells attached index started told running)
    (sound : (session.put index running).Sound spec)
    {executable : Executable Host} (executes : Executes spec index executable)
    {testCase : TestCase Nat} (member : .testCase testCase ∈ collected)
    (describes : Describes registry testCase executable)
    (stands :
      running.attempt.Stands spec attached testCase executable started
        (ofAttempt started (view attached session.stage.messages) ++
          view attached told))
    (numbers :
      ∃ count, running.attempt.count = UInt32.ofNat count ∧
        (session.stage.messages ++ told).filterMap
            (attemptNumber? executable.testCaseId) =
          (List.range count).map (· % UInt32.size))
    (quiet : ∀ other, executable.testCaseId ≠ other →
      told.filterMap (attemptNumber? other) = []) :
    (session.put index running).Tracked registry spec collected
      attached := by
  have inside := executes.lt_length tracked.sound
  have unnumbered {other : Nat} (different : executable.testCaseId ≠ other) :
      (session.put index running).stage.messages.filterMap
          (attemptNumber? other) =
        session.stage.messages.filterMap (attemptNumber? other) := by
    rw [tells.messages_put, List.filterMap_append, quiet other different,
      List.append_nil]
  -- Each field is about the attempt that is told about, of which the facts
  -- given here speak, or about another one, of which nothing has changed.
  constructor
  case sound => exact sound
  case attach => exact tells.attach_put tracked
  case told => exact fun _ listed => tells.told_put tracked listed
  case drawn => exact tells.drawn_put tracked inside
  case apart => exact tells.apart tracked inside
  case stands =>
    intro other named late lateExecutes begun
    rcases tells.started_cases inside begun with
      ⟨rfl, rfl⟩ | ⟨elsewhere, different, old⟩
    · rw [lateExecutes.unique executes, attempt_put_self inside,
        tells.ofAttempt_self]
      exact ⟨testCase, member, describes, stands⟩
    · rw [attempt_put_of_ne elsewhere, tells.ofAttempt_of_ne different]
      exact tracked.stands lateExecutes old
  case parts =>
    intro named
    by_cases same : named = started
    · have attaches (shows : attached = true) :=
        collects.attachesOwn (own shows) executes started
      rcases stands.isPrefix describes attaches with
        ⟨count, whole, once, part⟩
      rw [same, PartlyReported, tells.ofAttempt_self]
      exact Or.inr ⟨testCase, count, whole, member, once, part⟩
    · rw [PartlyReported, tells.ofAttempt_of_ne same]
      exact tracked.parts named
  case numbers =>
    intro other late lateExecutes
    by_cases same : other = index
    · rw [same] at lateExecutes ⊢
      rw [lateExecutes.unique executes, attempt_put_self inside,
        tells.messages_put]
      exact numbers
    · rw [attempt_put_of_ne same, unnumbered]
      · exact tracked.numbers lateExecutes
      · intro equal
        exact same (collects.distinct lateExecutes executes equal.symm)
  case others =>
    intro other absent
    rw [unnumbered (absent executes)]
    exact tracked.others other absent

end Put

/-! ## What calls preserve -/

section Preserved

variable {registry : Registry Host} {spec : Spec Host}
variable {collected : List (Envelope Nat)} {attached : Bool}
variable {session before after : Session Host}

/-- Nothing has been told about an attempt that is still to be made. -/
theorem Tracked.ofAttempt_next (collects : spec.Collects registry collected)
    (tracked : session.Tracked registry spec collected attached) :
    ofAttempt session.stage.next (view attached session.stage.messages) =
      [] := by
  apply Envelope.ofAttempt_eq_nil
  intro message member own
  rcases tracked.told message member with first | ⟨started, made, about⟩
  · rw [(collects.silent message first).1] at own
    cases own
  · rw [about] at own
    cases own
    exact Nat.lt_irrefl _ made

theorem Tracked.enter
    (tracked : session.Tracked registry spec collected attached)
    (host : Host) :
    (session.enter host).Tracked registry spec collected attached :=
  ⟨tracked.sound.enter host, tracked.attach, tracked.told, tracked.drawn,
    tracked.apart, tracked.stands, tracked.parts, tracked.numbers,
    tracked.others⟩

theorem Tracked.tells_body (collects : spec.Collects registry collected)
    (own : attached = true → registry.AttachesOwn)
    (tracked : session.Tracked registry spec collected attached)
    {index : Nat} {executable : Executable Host}
    (executes : Executes spec index executable) :
    session.Tells attached index session.stage.next
      (executable.told spec session.stage.next
        (session.running index).attempt.count.toNat session.stage.host
        session.stage.stepRuns)
      (executable.body spec (session.running index)).2 := by
  constructor
  · rw [Executable.attempt_body]
    rfl
  · exact Executable.messages_body spec executable (session.running index)
  · exact Executable.attachToStarted_told
  · intro message member
    exact Executable.attempt?_of_mem_view_told
      (fun shows => collects.attachesOwn (own shows) executes _) member
  · rw [Executable.next_body]
    exact Nat.le_succ _
  · rw [Executable.next_body]
    exact Nat.lt_succ_self _
  · intro other _ begun
    exact Nat.lt_irrefl _ (tracked.drawn begun)

theorem Tracked.tells_finish
    (tracked : session.Tracked registry spec collected attached)
    {index started : Nat}
    (begun : (session.running index).attempt.started = some started)
    (unfinished : (session.running index).attempt.finished = false)
    (error : Option String) :
    session.Tells attached index started
      ((session.running index).closing error)
      ((session.running index).finish error) := by
  rw [Running.finish_of_unfinished unfinished]
  constructor
  · exact begun
  · rfl
  · exact .of_unattached fun _ => Running.attachedTo?_of_mem_closing
  · intro message member
    exact Running.attempt?_of_mem_closing begun
      (Envelope.mem_view.mp member).1
  · exact Nat.le_refl _
  · exact tracked.drawn begun
  · intro other different otherBegun
    exact different (tracked.apart otherBegun begun)

theorem Tracked.body (collects : spec.Collects registry collected)
    (own : attached = true → registry.AttachesOwn)
    (tracked : session.Tracked registry spec collected attached)
    {index : Nat} {executable : Executable Host}
    (executes : Executes spec index executable) :
    (session.put index
      (executable.body spec (session.running index)).2).Tracked registry
        spec collected attached := by
  rcases collects.described executes with ⟨testCase, member, describes⟩
  apply tracked.put collects own (tracked.tells_body collects own executes)
    (tracked.sound.body index executable) executes member describes
  · rw [tracked.ofAttempt_next collects, List.nil_append,
      Executable.attempt_body]
    exact .unfinished _ session.stage.host session.stage.stepRuns rfl rfl rfl
  · rcases tracked.numbers executes with ⟨count, counted, numbers⟩
    refine ⟨count + 1, ?_, ?_⟩
    · rw [Executable.attempt_body, counted]
      exact (UInt32.ofNat_add count 1).symm
    · rw [List.filterMap_append, numbers,
        Executable.filterMap_attemptNumber?_told, if_pos rfl, counted,
        List.range_succ, List.map_append]
      rfl
  · intro other different
    rw [Executable.filterMap_attemptNumber?_told, if_neg different]

theorem Tracked.finish (collects : spec.Collects registry collected)
    (own : attached = true → registry.AttachesOwn)
    (tracked : session.Tracked registry spec collected attached)
    {index : Nat} {executable : Executable Host}
    (executes : Executes spec index executable) {started : Nat}
    (begun : (session.running index).attempt.started = some started)
    {error : Option String}
    (recognised :
      error.any Failure.isHookText = true →
        (session.running index).attempt.remaining = []) :
    (session.put index
      ((session.running index).finish error)).Tracked registry spec
        collected attached := by
  cases finished : (session.running index).attempt.finished with
  | true =>
      rw [Running.finish_of_finished finished, put_running]
      exact tracked
  | false =>
      have silent :=
        (session.running index).filterMap_attemptNumber?_closing error
      rcases tracked.stands executes begun with
        ⟨testCase, member, describes, stands⟩
      apply tracked.put collects own
        (tracked.tells_finish begun finished error)
        (tracked.sound.finish index error) executes member describes
      · rw [Running.finish_of_unfinished finished, Running.view_closing]
        cases stands with
        | finished count ended once =>
            rw [finished] at ended
            cases ended
        | unfinished count host runs unfinished remaining told =>
            apply Attempt.Stands.finished count rfl
            rw [told]
            exact Executable.reportsOnce_told describes spec begun remaining
              count recognised
              fun shows => collects.attachesOwn (own shows) executes started
      · rw [Running.finish_of_unfinished finished, List.filterMap_append,
          silent, List.append_nil]
        exact tracked.numbers executes
      · intro other _
        exact silent other

/-- A call preserves what holds behind any calls. -/
theorem Call.tracked (collects : spec.Collects registry collected)
    (own : attached = true → registry.AttachesOwn)
    (call : Call spec before after)
    (tracked : before.Tracked registry spec collected attached) :
    after.Tracked registry spec collected attached := by
  cases call with
  | enter host => exact tracked.enter host
  | body executes => exact tracked.body collects own executes
  | finish executes begun recognised =>
      exact tracked.finish collects own executes begun recognised

/-- Calls preserve what holds behind any calls. -/
theorem Calls.tracked (collects : spec.Collects registry collected)
    (own : attached = true → registry.AttachesOwn)
    (calls : Calls spec before after)
    (tracked : before.Tracked registry spec collected attached) :
    after.Tracked registry spec collected attached := by
  induction calls with
  | refl => exact tracked
  | tail _ call ih => exact call.tracked collects own ih

end Preserved

theorem attempt_start (spec : Spec Host) (collected : List (Envelope Nat))
    (host : Host) (next index : Nat) :
    ((Session.start spec collected host next).running index).attempt =
      {} := by
  simp only [Session.running, Session.start,
    List.getD_eq_getElem?_getD, List.getElem?_map]
  cases spec.tests[index]? <;> rfl

theorem start_tracked
    {registry : Registry Host} {source : String} {document : Document Nat}
    {pickles : List (Pickle Nat)} {options : ComposeOptions}
    {first next : Nat} {spec : Spec Host}
    {collected : List (Envelope Nat)}
    (composed :
      (Spec.compose registry source document pickles options).run first =
        ((spec, collected), next))
    (attached : Bool) (host : Host) :
    (Session.start spec collected host next).Tracked registry spec
      collected attached := by
  have collects := Spec.collects composed
  have fresh {index started : Nat}
      (begun :
        ((Session.start spec collected host next).running
          index).attempt.started = some started) : False := by
    rw [attempt_start] at begun
    cases begun
  have silent (testCase : Nat) :
      collected.filterMap (attemptNumber? testCase) = [] := by
    rw [List.filterMap_eq_nil_iff]
    intro message member
    have none := (collects.silent message member).1
    cases message <;> first | rfl | cases none
  constructor
  · exact start_sound composed host
  · refine .of_unattached fun message member => ?_
    have none := (collects.silent message member).1
    cases message <;> first | rfl | cases none
  · exact fun message member => Or.inl (Envelope.mem_view.mp member).1
  · exact fun begun => (fresh begun).elim
  · exact fun begun => (fresh begun).elim
  · exact fun _ begun => (fresh begun).elim
  · intro started
    left
    apply Envelope.ofAttempt_eq_nil
    intro message member own
    have listed := (Envelope.mem_view.mp member).1
    rw [(collects.silent message listed).1] at own
    cases own
  · intro index executable _
    refine ⟨0, ?_, silent executable.testCaseId⟩
    rw [attempt_start]
    rfl
  · exact fun testCase _ => silent testCase

end Session

end ScenarioRunner
