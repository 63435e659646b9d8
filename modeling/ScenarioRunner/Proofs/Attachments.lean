import ScenarioRunner.Proofs.AttemptReport
import ScenarioRunner.Proofs.Composition

/-!
# Attachments

An attachment names the run of a test step that the context was made for
through which it is attached.  Contexts are handed to bodies by value, and a
body that keeps one may attach through it when another step is running.  So an
attachment is to a run that has been started before it
(`AttachToStarted`), and nothing more holds of all bodies.

It is to the run that is going on if no body attaches through another context
than its own (`Registry.AttachesOwn`).  What is said about messages in both
cases is said of a view of them, which shows attachments or leaves them out.
-/

namespace ScenarioRunner

variable {Host : Type}

/-! ## Runs that have been started -/

/-- Each attachment among messages is to a run that has been started before:
by an earlier one of them, or as one of some runs. -/
def AttachToStarted (runs : List StepRun) : List (Envelope Nat) → Prop
  | [] => True
  | message :: others =>
      (∀ target, message.attachedTo? = some target → target ∈ runs) ∧
        AttachToStarted (runs ++ message.stepRun?.toList) others

namespace AttachToStarted

variable {runs : List StepRun} {first second : List (Envelope Nat)}

theorem append_iff :
    AttachToStarted runs (first ++ second) ↔
      AttachToStarted runs first ∧
        AttachToStarted (runs ++ first.filterMap Envelope.stepRun?)
          second := by
  induction first generalizing runs with
  | nil => simp [AttachToStarted]
  | cons message others ih =>
      have runsBehind :
          runs ++ message.stepRun?.toList ++
              others.filterMap Envelope.stepRun? =
            runs ++ (message :: others).filterMap Envelope.stepRun? := by
        cases started : message.stepRun? <;> simp [started]
      simp only [List.cons_append, AttachToStarted, ih, runsBehind,
        and_assoc]

theorem of_initial (attach : AttachToStarted runs second)
    (part : first <+: second) : AttachToStarted runs first := by
  obtain ⟨rest, rfl⟩ := part
  exact (append_iff.mp attach).1

theorem cons_of_silent {message : Envelope Nat}
    (unattached : message.attachedTo? = none)
    (unstarted : message.stepRun? = none)
    (attach : AttachToStarted runs first) :
    AttachToStarted runs (message :: first) := by
  refine ⟨fun target attached => ?_, ?_⟩
  · rw [unattached] at attached
    cases attached
  · rwa [unstarted, Option.toList_none, List.append_nil]

/-- Where nothing is attached there is nothing to ask. -/
theorem of_unattached
    (none : ∀ message ∈ first, message.attachedTo? = none) :
    AttachToStarted runs first := by
  induction first generalizing runs with
  | nil => trivial
  | cons message others ih =>
      rw [List.forall_mem_cons] at none
      refine ⟨fun target attached => ?_, ih none.2⟩
      rw [none.1] at attached
      cases attached

theorem of_attachments {attachments : List Attachment}
    (known : ∀ attached ∈ attachments, attached.target ∈ runs) :
    AttachToStarted runs (attachments.map Attachment.envelope) := by
  induction attachments with
  | nil => trivial
  | cons attached others ih =>
      rw [List.forall_mem_cons] at known
      refine ⟨?_, ?_⟩
      · rintro target ⟨⟩
        exact known.1
      · have unstarted : attached.envelope.stepRun? = none := rfl
        rw [unstarted, Option.toList_none, List.append_nil]
        exact ih known.2

/-- The run that an attachment is to is started by a message before it. -/
theorem exists_start (attach : AttachToStarted [] second)
    {before behind : List (Envelope Nat)} {message : Envelope Nat}
    {target : StepRun} (attached : message.attachedTo? = some target)
    (split : second = before ++ message :: behind) :
    ∃ start ∈ before, start.stepRun? = some target := by
  rw [split, append_iff] at attach
  have known := attach.2.1 target attached
  rwa [List.nil_append, List.mem_filterMap] at known

end AttachToStarted

theorem SlotReport.attachToStarted_envelopes {started : Nat}
    {report : SlotReport} {runs : List StepRun}
    (received : ∀ attached ∈ report.attachments,
      attached.target ∈ runs ++ [⟨report.step, started⟩]) :
    AttachToStarted runs (report.envelopes started) := by
  rw [envelopes, AttachToStarted.append_iff]
  refine ⟨⟨?_, .of_attachments received⟩, ?_, trivial⟩
  · rintro target ⟨⟩
  · rintro target ⟨⟩

theorem Running.attachedTo?_of_mem_closing {running : Running Host}
    {error : Option String} {message : Envelope Nat}
    (member : message ∈ running.closing error) :
    message.attachedTo? = none := by
  rcases cases_of_mem_closing member with ⟨_, _, -, -, none⟩ | rfl
  · exact none
  · rfl

namespace Course

variable {spec : Spec Host} {pickle : Pickle Nat} {started : Nat}
variable {slots : List (Slot Host)} {host : Host} {runs : List StepRun}

/-- The attachments of an attempt are to runs that have been started. -/
theorem attachToStarted_completed (error : Option String) :
    AttachToStarted runs
      (((ofSlots spec pickle started slots host runs).completed
        error).flatMap (SlotReport.envelopes started)) := by
  have skipped (steps : List Nat) (runs : List StepRun) :
      AttachToStarted runs
        ((steps.map SlotReport.skipped).flatMap
          (SlotReport.envelopes started)) := by
    rw [SlotReport.flatMap_skipped]
    apply AttachToStarted.of_unattached
    intro message member
    obtain ⟨step, -, among⟩ := List.mem_flatMap.mp member
    rcases SlotReport.cases_of_mem_skip among with rfl | rfl <;> rfl
  have received (turn : Turn Host) (slot : Slot Host)
      (runs : List StepRun) (status : Status) (message : Option String) :
      AttachToStarted runs
        ((⟨slot.id, (turn.receive (runs ++ [slot.run started])).attachments,
          status, message⟩ : SlotReport).envelopes started) :=
    SlotReport.attachToStarted_envelopes fun attached listed =>
      of_decide_eq_true (List.mem_filter.mp listed).2
  induction slots generalizing host runs with
  | nil => trivial
  | cons slot others ih =>
      by_cases passed : (slot.turn spec pickle started host).ending = .passed
      · rw [ofSlots_of_passed passed, completed_prepend, List.flatMap_cons,
          AttachToStarted.append_iff, SlotReport.stepRuns_envelopes]
        exact ⟨received _ slot runs _ _, ih⟩
      · rw [ofSlots_of_stopped passed, completed_stop, List.flatMap_cons,
          AttachToStarted.append_iff]
        exact ⟨received _ slot runs _ _, skipped _ _⟩

theorem attachToStarted_messages (error : Option String) :
    AttachToStarted runs
      ((ofSlots spec pickle started slots host runs).messages started
        error) :=
  (attachToStarted_completed error).of_initial
    (messages_prefix_completed _ started error)

theorem attachToStarted_envelopes :
    AttachToStarted runs
      ((ofSlots spec pickle started slots host runs).envelopes started) :=
  (attachToStarted_completed none).of_initial
    (envelopes_prefix_completed started _ none)

end Course

/-- The attachments of a finished attempt are to runs that have been started. -/
theorem Executable.attachToStarted_messages (spec : Spec Host)
    (executable : Executable Host) (running : Running Host)
    (error : Option String) :
    AttachToStarted running.stage.stepRuns
      (executable.messages spec running error) := by
  refine AttachToStarted.append_iff.mpr ⟨?_, ?_, trivial⟩
  · exact .cons_of_silent rfl rfl (Course.attachToStarted_messages error)
  · rintro target ⟨⟩

/-! ## Bodies that attach through their own contexts -/

/-- What a body attaches goes where a scope leads. -/
def Performance.AttachesThrough {Result : Type}
    (performance : Performance Host Result) (scope : Scope) : Prop :=
  ∀ attached ∈ performance.attachments,
    scope.target = some attached.target

theorem Scope.target_of_mem_attach {scope : Scope}
    {text mediaType : String} {attached : Attachment}
    (member : attached ∈ scope.attach text mediaType) :
    scope.target = some attached.target := by
  rcases scope with ⟨_, _, _ | target⟩
  · cases member
  · cases List.mem_singleton.mp member
    rfl

/-- No body attaches through another context than its own. -/
structure Registry.AttachesOwn (registry : Registry Host) : Prop where
  steps : ∀ definition ∈ registry.steps, ∀ context host,
    (definition.body context host).AttachesThrough context.scope
  hooks : ∀ hook ∈ registry.hooks, ∀ context host,
    (hook.body context host).AttachesThrough context.scope

/-- What the bodies of a test attach in an attempt goes to their own runs. -/
def Executable.AttachesOwn (spec : Spec Host) (executable : Executable Host)
    (started : Nat) : Prop :=
  ∀ slot ∈ executable.slots, ∀ host, ∀ attached ∈
    (slot.turn spec executable.pickle started host).attachments,
      attached.target = slot.run started

theorem Registry.AttachesOwn.executable {spec : Spec Host}
    (own : spec.registry.AttachesOwn) {testCase : TestCase Nat}
    {executable : Executable Host}
    (describes : Describes spec.registry testCase executable)
    (started : Nat) : executable.AttachesOwn spec started := by
  intro slot member host attached among
  cases slot with
  | hook id hook =>
      have through :=
        own.hooks hook (describes.hook_mem member)
          ⟨.inTest executable.pickle started id none, hook.keyword⟩ host
          attached among
      exact (Option.some.inj through).symm
  | step id step =>
      cases found :
          (Slot.step id step).body spec executable.pickle started with
      | error failure =>
          rw [Slot.turn_of_error found] at among
          cases among
      | ok body =>
          obtain ⟨definition, defined, captures, rfl⟩ :=
            Slot.exists_definition_of_body found
          rw [Slot.turn_of_ok found] at among
          have through :=
            own.steps definition defined _ host attached among
          exact (Option.some.inj through).symm

/-- What is reported as attached to a test step is attached to its run. -/
def SlotReport.AttachesOwn (started : Nat) (report : SlotReport) : Prop :=
  ∀ attached ∈ report.attachments,
    attached.target = ⟨report.step, started⟩

theorem Course.attachesOwn_of_mem_completed
    {spec : Spec Host} {pickle : Pickle Nat} {started : Nat}
    {slots : List (Slot Host)} {host : Host} {runs : List StepRun}
    (own : ∀ slot ∈ slots, ∀ host, ∀ attached ∈
      (slot.turn spec pickle started host).attachments,
        attached.target = slot.run started)
    {error : Option String} {report : SlotReport}
    (reported :
      report ∈
        (ofSlots spec pickle started slots host runs).completed error) :
    report.AttachesOwn started := by
  induction slots generalizing host runs with
  | nil => cases reported
  | cons slot others ih =>
      rw [List.forall_mem_cons] at own
      by_cases passed : (slot.turn spec pickle started host).ending = .passed
      · rw [ofSlots_of_passed passed, completed_prepend] at reported
        rcases List.mem_cons.mp reported with rfl | later
        · exact fun attached listed =>
            own.1 host attached (List.mem_filter.mp listed).1
        · exact ih own.2 later
      · rw [ofSlots_of_stopped passed, completed_stop] at reported
        rcases List.mem_cons.mp reported with rfl | skipped
        · exact fun attached listed =>
            own.1 host attached (List.mem_filter.mp listed).1
        · obtain ⟨step, -, rfl⟩ := List.mem_map.mp skipped
          exact List.forall_mem_nil _

/-! ## Messages with and without attachments -/

namespace Envelope

/-- Messages with the attachments among them, or without. -/
def view (attached : Bool) (messages : List (Envelope Nat)) :
    List (Envelope Nat) :=
  messages.filter fun message => attached || message.attachedTo?.isNone

@[simp]
theorem view_true (messages : List (Envelope Nat)) :
    view true messages = messages := by
  simp [view]

@[simp]
theorem mem_view {attached : Bool} {messages : List (Envelope Nat)}
    {message : Envelope Nat} :
    message ∈ view attached messages ↔
      message ∈ messages ∧
        (attached = true ∨ message.attachedTo? = none) := by
  simp [view]

theorem view_cons_of_unattached {attached : Bool} {message : Envelope Nat}
    (unattached : message.attachedTo? = none)
    (others : List (Envelope Nat)) :
    view attached (message :: others) = message :: view attached others :=
  List.filter_cons_of_pos (by simp [unattached])

theorem view_flatMap {Item : Type} (attached : Bool) (items : List Item)
    (messages : Item → List (Envelope Nat)) :
    view attached (items.flatMap messages) =
      items.flatMap fun item => view attached (messages item) :=
  List.filter_flatMap ..

theorem view_append (attached : Bool) (first second : List (Envelope Nat)) :
    view attached (first ++ second) =
      view attached first ++ view attached second :=
  List.filter_append ..

end Envelope

/-- A report of a slot with its attachments, or without. -/
def SlotReport.view (attached : Bool) (report : SlotReport) : SlotReport :=
  if attached then report else { report with attachments := [] }

@[simp]
theorem SlotReport.step_view (attached : Bool) (report : SlotReport) :
    (report.view attached).step = report.step := by
  cases attached <;> rfl

theorem SlotReport.view_envelopes (attached : Bool) (started : Nat)
    (report : SlotReport) :
    Envelope.view attached (report.envelopes started) =
      (report.view attached).envelopes started := by
  cases attached with
  | true => exact Envelope.view_true _
  | false =>
      simp [Envelope.view, SlotReport.view, envelopes, opening,
        List.filter_map, Function.comp_def, Envelope.attachedTo?,
        Attachment.envelope, Running.finishedEnvelope]

end ScenarioRunner
