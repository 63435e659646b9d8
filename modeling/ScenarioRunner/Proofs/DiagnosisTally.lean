import Mathlib.Algebra.BigOperators.Group.List.Basic
import Mathlib.Algebra.GroupWithZero.Nat
import Mathlib.Data.List.Induction
import ScenarioRunner.Diagnosis.Basic
import ScenarioRunner.Proofs.FirstOccurrences
import ScenarioRunner.Proofs.ProposedDefinitions
import ScenarioRunner.Proofs.StepLines

/-!
# What a diagnosis records

A diagnosis collects records, one for each step of a pickle in order: the step
is unmatched, it is used by one definition, or it is ambiguous.  A diagnosis is
the tally of its records, together with the definitions that were found.  So
nothing is lost or counted twice, and to diagnose more files is to add their
records and the definitions that are new.

The main statement is `Project.diagnose_records`.
-/

namespace ScenarioRunner

variable {Host : Type}

/-! ## Records -/

/-- What is recorded of a step of a pickle. -/
inductive StepRecord where
  | unmatched (value : UnmatchedStep)
  | used (key : DefinitionKey) (step : StepUsage)
  | ambiguous (value : AmbiguousStep)
  deriving DecidableEq, Repr

namespace StepRecord

/-- Where the step stands. -/
def step : StepRecord → StepUsage
  | .unmatched value => value.step
  | .used _ step => step
  | .ambiguous value => value.step

def unmatched? : StepRecord → Option UnmatchedStep
  | .unmatched value => some value
  | _ => none

def usedBy? (key : DefinitionKey) : StepRecord → Option StepUsage
  | .used known step => if known = key then some step else none
  | _ => none

def ambiguous? : StepRecord → Option AmbiguousStep
  | .ambiguous value => some value
  | _ => none

/-- What is recorded of a step that is compared with the definitions of a
registry. -/
def make (registry : Registry Host) (hints : SearchHints)
    (step : StepUsage) (argument : Option ArgumentKind) : StepRecord :=
  match registry.matching step.text with
  | [] =>
      .unmatched {
        step, argument, hints
        suggestions := Suggestion.generate registry.parameters step.text }
  | [definition] => .used definition.key step
  | definitions =>
      .ambiguous { step, definitions := definitions.map (·.key) }

@[simp]
theorem step_make (registry : Registry Host) (hints : SearchHints)
    (step : StepUsage) (argument : Option ArgumentKind) :
    (make registry hints step argument).step = step := by
  unfold make
  split <;> rfl

end StepRecord

/-- The definitions that records use are among some keys. -/
def Covers (keys : List DefinitionKey) (records : List StepRecord) : Prop :=
  ∀ key step, .used key step ∈ records → key ∈ keys

namespace Covers

variable {keys more : List DefinitionKey}
  {records later : List StepRecord}

theorem append (early : Covers keys records) (late : Covers more later) :
    Covers (keys ++ more) (records ++ later) := by
  intro key step member
  rcases List.mem_append.mp member with front | back
  · exact List.mem_append_left _ (early key step front)
  · exact List.mem_append_right _ (late key step back)

theorem usedBy_eq_nil (covers : Covers keys records)
    {key : DefinitionKey} (other : key ∉ keys) :
    records.filterMap (StepRecord.usedBy? key) = [] := by
  rw [List.filterMap_eq_nil_iff]
  intro record member
  cases record with
  | unmatched value => rfl
  | ambiguous value => rfl
  | used known step =>
      have different : known ≠ key := by
        rintro rfl
        exact other (covers known step member)
      rw [StepRecord.usedBy?, if_neg different]

end Covers

/-! ## Tallies -/

namespace Diagnosis

/-- The definitions that are known. -/
def keys (diagnosis : Diagnosis) : List DefinitionKey :=
  diagnosis.usage.map (·.1)

/-- The steps of a definition; one that is not known has none. -/
def stepsOf (diagnosis : Diagnosis) (key : DefinitionKey) :
    List StepUsage :=
  (diagnosis.usage.lookup key).getD []

/-- The diagnosis that consists of some records. -/
def tally (keys : List DefinitionKey) (records : List StepRecord) :
    Diagnosis where
  usage := keys.map fun key =>
    (key, records.filterMap (StepRecord.usedBy? key))
  unmatched := records.filterMap StepRecord.unmatched?
  ambiguous := records.filterMap StepRecord.ambiguous?

/-- What two diagnoses record: the definitions that are new come last, and the
steps of a definition are put together. -/
def merge (first second : Diagnosis) : Diagnosis where
  usage :=
    first.usage.map (fun (key, steps) =>
        (key, steps ++ second.stepsOf key)) ++
      second.usage.filter (·.1 ∉ first.keys)
  unmatched := first.unmatched ++ second.unmatched
  ambiguous := first.ambiguous ++ second.ambiguous

section Tally

variable (keys : List DefinitionKey) (records : List StepRecord)

@[simp]
theorem keys_tally : (tally keys records).keys = keys := by
  simp [Diagnosis.keys, tally, Function.comp_def]

theorem stepsOf_tally {keys : List DefinitionKey}
    {records : List StepRecord} (covers : Covers keys records)
    (key : DefinitionKey) :
    (tally keys records).stepsOf key =
      records.filterMap (StepRecord.usedBy? key) := by
  have found (known : List DefinitionKey) :
      List.lookup key (known.map fun key =>
          (key, records.filterMap (StepRecord.usedBy? key))) =
        if key ∈ known then
          some (records.filterMap (StepRecord.usedBy? key))
        else none := by
    induction known with
    | nil => rfl
    | cons first others ih =>
        rw [List.map_cons, List.lookup_cons]
        by_cases same : key = first
        · simp [same]
        · rw [beq_false_of_ne same, ih]
          simp [same]
  rw [stepsOf, tally, found]
  split
  · rfl
  · rename_i other
    rw [covers.usedBy_eq_nil other]
    rfl

theorem addUsage_tally (key : DefinitionKey) (step : StepUsage) :
    (tally keys records).addUsage key step =
      tally keys (records ++ [.used key step]) := by
  simp only [addUsage, tally, List.map_map, List.filterMap_append,
    mk.injEq]
  refine ⟨List.map_congr_left fun known _ => ?_, by simp [
    StepRecord.unmatched?], by simp [StepRecord.ambiguous?]⟩
  by_cases same : key = known
  · simp [same, StepRecord.usedBy?]
  · simp [same, Ne.symm same, StepRecord.usedBy?]

/-- A step adds its record. -/
theorem addStep_tally (registry : Registry Host) (hints : SearchHints)
    (step : StepUsage) (argument : Option ArgumentKind) :
    (tally keys records).addStep registry hints step argument =
      tally keys
        (records ++ [.make registry hints step argument]) := by
  unfold addStep StepRecord.make
  rcases registry.matching step.text with _ | ⟨first, _ | ⟨second, others⟩⟩
  · simp [tally, StepRecord.usedBy?, StepRecord.unmatched?,
      StepRecord.ambiguous?]
  · exact addUsage_tally keys records first.key step
  · simp [tally, StepRecord.usedBy?, StepRecord.unmatched?,
      StepRecord.ambiguous?]

end Tally

/-- A definition that is new has no steps yet. -/
theorem addDefinition_tally {known : List DefinitionKey}
    {records : List StepRecord} (covers : Covers known records)
    (key : DefinitionKey) :
    (tally known.eraseDups records).addDefinition key =
      tally (known ++ [key]).eraseDups records := by
  have present :
      (tally known.eraseDups records).usage.any (·.1 == key) =
        decide (key ∈ known) := by
    rw [Bool.eq_iff_iff]
    simp [tally]
  unfold addDefinition
  rw [present, eraseDups_concat]
  by_cases member : key ∈ known
  · simp [member]
  · simp [member, tally, covers.usedBy_eq_nil member]

theorem addDefinitions_tally {known : List DefinitionKey}
    {records : List StepRecord} (covers : Covers known records)
    (new : List DefinitionKey) :
    new.foldl addDefinition (tally known.eraseDups records) =
      tally (known ++ new).eraseDups records := by
  induction new generalizing known with
  | nil => simp
  | cons key others ih =>
      have more : Covers (known ++ [key]) records := by
        intro used step member
        exact List.mem_append_left _ (covers used step member)
      rw [List.foldl_cons, addDefinition_tally covers, ih more,
        List.append_assoc, List.singleton_append]

end Diagnosis

/-! ## Files that are diagnosed -/

/-- What is read to diagnose a feature file. -/
structure DiagnosedFile (Host : Type) where
  registry : Registry Host
  hints : SearchHints
  source : String
  file : FeatureFile

namespace DiagnosedFile

variable (found : DiagnosedFile Host)

/-- The definitions that are found for the file. -/
def keys : List DefinitionKey :=
  found.registry.steps.map (·.key)

/-- The steps of all pickles. -/
def steps : List (PickleStep Nat) :=
  found.file.pickles.flatMap (·.steps)

/-- What is recorded of a step. -/
def record (step : PickleStep Nat) : StepRecord :=
  .make found.registry found.hints
    { source := found.source
      line := found.file.document.lineOf step
      text := step.text }
    (step.argument.bind (·.kind?))

def records : List StepRecord :=
  found.steps.map found.record

theorem covers : Covers found.keys found.records := by
  intro key step member
  obtain ⟨made, -, same⟩ := List.mem_map.mp member
  unfold record StepRecord.make at same
  split at same
  · cases same
  · rename_i definition only
    cases same
    have among : definition ∈ found.registry.matching made.text := by
      rw [only]
      exact List.mem_singleton_self definition
    exact List.mem_map_of_mem (List.mem_of_mem_filter among)
  · cases same

end DiagnosedFile

namespace Diagnosis

/-- The diagnosis of some files. -/
def ofFiles (files : List (DiagnosedFile Host)) : Diagnosis :=
  tally (files.flatMap (·.keys)).eraseDups (files.flatMap (·.records))

theorem covers_ofFiles (files : List (DiagnosedFile Host)) :
    Covers (files.flatMap (·.keys)) (files.flatMap (·.records)) := by
  induction files with
  | nil =>
      intro key step member
      cases member
  | cons first others ih => exact first.covers.append ih

theorem covers_known (files : List (DiagnosedFile Host)) :
    Covers (files.flatMap (·.keys)).eraseDups
      (files.flatMap (·.records)) := by
  intro key step member
  exact List.mem_eraseDups.mpr (covers_ofFiles files key step member)

theorem keys_ofFiles (files : List (DiagnosedFile Host)) :
    (ofFiles files).keys = (files.flatMap (·.keys)).eraseDups :=
  keys_tally _ _

theorem stepsOf_ofFiles (files : List (DiagnosedFile Host))
    (key : DefinitionKey) :
    (ofFiles files).stepsOf key =
      (files.flatMap (·.records)).filterMap (StepRecord.usedBy? key) :=
  stepsOf_tally (covers_known files) key

/-- To record a file is to append it to those that are recorded. -/
theorem addFile_ofFiles (files : List (DiagnosedFile Host))
    (found : DiagnosedFile Host) :
    (ofFiles files).addFile found.registry found.hints found.source
        found.file =
      ofFiles (files ++ [found]) := by
  have recorded (keys : List DefinitionKey) (records : List StepRecord)
      (steps : List (PickleStep Nat)) :
      steps.foldl
          (fun diagnosis step =>
            diagnosis.addStep found.registry found.hints
              { source := found.source
                line := found.file.document.lineOf step
                text := step.text }
              (step.argument.bind (·.kind?)))
          (tally keys records) =
        tally keys (records ++ steps.map found.record) := by
    induction steps generalizing records with
    | nil => simp
    | cons step others ih =>
        rw [List.foldl_cons, addStep_tally, ih, List.append_assoc]
        rfl
  unfold addFile ofFiles
  rw [addDefinitions_tally (covers_ofFiles files), recorded,
    List.flatMap_append, List.flatMap_append, List.flatMap_singleton,
    List.flatMap_singleton]
  rfl

/-- The records of more files come behind those that are there. -/
theorem ofFiles_append (first second : List (DiagnosedFile Host)) :
    ofFiles (first ++ second) = (ofFiles first).merge (ofFiles second) := by
  have early := covers_ofFiles first
  have whole :
      (ofFiles (first ++ second)).usage =
        ((ofFiles first).merge (ofFiles second)).usage := by
    simp only [ofFiles, merge, keys_tally]
    rw [List.flatMap_append, List.flatMap_append, eraseDups_append_new]
    simp only [tally, List.map_append, List.filterMap_append, List.map_map,
      List.filter_map]
    congr 1
    · apply List.map_congr_left
      intro key _
      rw [Function.comp_apply, ← stepsOf_tally (covers_known second)]
      rfl
    · apply List.map_congr_left
      intro key member
      have fresh : key ∉ first.flatMap (·.keys) := by
        have new := (List.mem_filter.mp member).2
        simpa using new
      rw [early.usedBy_eq_nil fresh, List.nil_append]
  have same (first second : Diagnosis) (usage : first.usage = second.usage)
      (unmatched : first.unmatched = second.unmatched)
      (ambiguous : first.ambiguous = second.ambiguous) : first = second := by
    cases first
    cases second
    simp_all
  apply same _ _ whole
  · simp [ofFiles, merge, tally]
  · simp [ofFiles, merge, tally]

end Diagnosis

namespace Project

/-- A feature file is read to be diagnosed, and definitions are found for
it. -/
structure Inspects [FeatureSyntax] (project : Project) (templates : List String)
    (library : StepLibrary Host) (path : String)
    (found : DiagnosedFile Host) : Prop where
  searched : project.search templates path = .ok found.hints
  built : ∃ next,
    library.build found.hints.paths 0 = .ok (found.registry, next)
  named : found.source = project.relative path
  read : ∃ next,
    project.readFeature path found.source 0 = .ok (found.file, next)

variable {project : Project} {templates : List String}
  {library : StepLibrary Host}

/-- Files that are no features are left out. -/
theorem diagnoseFile_of_other [FeatureSyntax] (diagnosis : Diagnosis)
    {path : String} (other : Path.isFeature path = false) :
    project.diagnoseFile templates library diagnosis path =
      .ok diagnosis := by
  simp [diagnoseFile, other, pure, Except.pure]

theorem diagnoseFile_eq_ok_iff [FeatureSyntax]
    (files : List (DiagnosedFile Host)) {path : String}
    (feature : Path.isFeature path = true) (diagnosis : Diagnosis) :
    project.diagnoseFile templates library (.ofFiles files) path =
        .ok diagnosis ↔
      ∃ found, project.Inspects templates library path found ∧
        diagnosis = .ofFiles (files ++ [found]) := by
  simp only [diagnoseFile, feature, Bool.not_true, Bool.false_eq_true,
    if_false, pure, Except.pure, bind, Except.bind]
  constructor
  · intro done
    cases searched : project.search templates path with
    | error reason => simp [searched] at done
    | ok hints =>
        cases built : library.build hints.paths 0 with
        | error reason => simp [searched, built] at done
        | ok compiled =>
            cases read : project.readFeature path (project.relative path) 0
              with
            | error reason => simp [searched, built, read] at done
            | ok parsed =>
                simp only [searched, built, read, Except.ok.injEq] at done
                let found : DiagnosedFile Host :=
                  { registry := compiled.1, hints,
                    source := project.relative path, file := parsed.1 }
                refine ⟨found, ?_, ?_⟩
                · exact ⟨searched, ⟨compiled.2, built⟩, rfl,
                    ⟨parsed.2, read⟩⟩
                · rw [← done]
                  exact Diagnosis.addFile_ofFiles files found
  · rintro ⟨found, inspects, rfl⟩
    obtain ⟨next, built⟩ := inspects.built
    obtain ⟨last, read⟩ := inspects.read
    rw [inspects.named] at read
    rw [inspects.searched]
    simp only [built, read, Except.ok.injEq]
    rw [← Diagnosis.addFile_ofFiles, inspects.named]

theorem foldlM_diagnoseFile_eq_ok_iff [FeatureSyntax]
    (files : List (DiagnosedFile Host)) (paths : List String)
    (diagnosis : Diagnosis) :
    paths.foldlM (project.diagnoseFile templates library)
        (.ofFiles files) = .ok diagnosis ↔
      ∃ found,
        List.Forall₂ (project.Inspects templates library)
            (paths.filter Path.isFeature) found ∧
          diagnosis = .ofFiles (files ++ found) := by
  induction paths generalizing files with
  | nil =>
      simp only [List.foldlM_nil, pure, Except.pure, Except.ok.injEq,
        List.filter_nil, List.forall₂_nil_left_iff, exists_eq_left,
        List.append_nil]
      exact eq_comm
  | cons path others ih =>
      rw [List.foldlM_cons]
      cases feature : Path.isFeature path with
      | false =>
          rw [diagnoseFile_of_other _ feature, List.filter_cons_of_neg
            (by simp [feature])]
          exact ih files
      | true =>
          rw [List.filter_cons_of_pos feature]
          constructor
          · intro done
            cases first :
                project.diagnoseFile templates library (.ofFiles files) path
              with
            | error reason => simp [first, bind, Except.bind] at done
            | ok middle =>
                rw [first] at done
                obtain ⟨found, inspects, rfl⟩ :=
                  (diagnoseFile_eq_ok_iff files feature middle).mp first
                obtain ⟨rest, all, rfl⟩ := (ih (files ++ [found])).mp done
                refine ⟨found :: rest, .cons inspects all, ?_⟩
                rw [List.append_assoc, List.singleton_append]
          · rintro ⟨all, inspect, rfl⟩
            cases inspect with
            | cons inspects rest =>
                rename_i found later
                have first :=
                  (diagnoseFile_eq_ok_iff files feature _).mpr
                    ⟨found, inspects, rfl⟩
                rw [first]
                refine (ih (files ++ [found])).mpr ⟨later, rest, ?_⟩
                rw [List.append_assoc, List.singleton_append]

/-- Diagnosing is reading the feature files and tallying their records. -/
theorem diagnose_eq_ok_iff [FeatureSyntax] (paths : List String)
    (diagnosis : Diagnosis) :
    project.diagnose templates library paths = .ok diagnosis ↔
      ∃ files,
        List.Forall₂ (project.Inspects templates library)
            (paths.filter Path.isFeature) files ∧
          diagnosis = .ofFiles files :=
  foldlM_diagnoseFile_eq_ok_iff [] paths diagnosis

/-- Where there is a diagnosis of some files and one of more files, the
diagnosis of all of them puts both together. -/
theorem diagnose_append [FeatureSyntax] {first second : List String}
    {early late : Diagnosis}
    (diagnosed : project.diagnose templates library first = .ok early)
    (later : project.diagnose templates library second = .ok late) :
    project.diagnose templates library (first ++ second) =
      .ok (early.merge late) := by
  obtain ⟨front, inspectFront, rfl⟩ :=
    (diagnose_eq_ok_iff first early).mp diagnosed
  obtain ⟨back, inspectBack, rfl⟩ :=
    (diagnose_eq_ok_iff second late).mp later
  rw [diagnose_eq_ok_iff]
  refine ⟨front ++ back, ?_, (Diagnosis.ofFiles_append front back).symm⟩
  rw [List.filter_append]
  exact List.rel_append inspectFront inspectBack

/-- What is found for a path is determined by it. -/
theorem Inspects.unique [FeatureSyntax] {path : String}
    {found other : DiagnosedFile Host}
    (first : project.Inspects templates library path found)
    (second : project.Inspects templates library path other) :
    found = other := by
  obtain ⟨next, built⟩ := first.built
  obtain ⟨last, read⟩ := first.read
  obtain ⟨otherNext, rebuilt⟩ := second.built
  obtain ⟨otherLast, reread⟩ := second.read
  have hints := first.searched.symm.trans second.searched
  have source := first.named.trans second.named.symm
  cases found
  cases other
  simp only [Except.ok.injEq] at hints source
  subst hints source
  have registry := built.symm.trans rebuilt
  have file := read.symm.trans reread
  simp only [Except.ok.injEq, Prod.mk.injEq] at registry file
  rw [registry.1, file.1]

end Project

/-! ## Nothing is lost -/

/-- How many steps a key is used for. -/
def usageCount (records : List StepRecord) (key : DefinitionKey) : Nat :=
  (records.filterMap (StepRecord.usedBy? key)).length

/-- A step that is used counts for its definition and for no other. -/
theorem sum_usageCount_cons {keys : List DefinitionKey}
    (distinct : keys.Nodup) {key : DefinitionKey} (member : key ∈ keys)
    (step : StepUsage) (others : List StepRecord) :
    (keys.map (usageCount (.used key step :: others))).sum =
      (keys.map (usageCount others)).sum + 1 := by
  have split (count : DefinitionKey → Nat) :
      (keys.map count).sum =
        count key + ((keys.erase key).map count).sum := by
    rw [((List.perm_cons_erase member).map count).sum_eq, List.map_cons,
      List.sum_cons]
  have own :
      usageCount (.used key step :: others) key =
        usageCount others key + 1 := by
    simp [usageCount, StepRecord.usedBy?]
  have rest :
      (keys.erase key).map (usageCount (.used key step :: others)) =
        (keys.erase key).map (usageCount others) := by
    apply List.map_congr_left
    intro other among
    have different : key ≠ other :=
      Ne.symm (distinct.mem_erase_iff.mp among).1
    simp [usageCount, StepRecord.usedBy?, different]
  rw [split, split (usageCount others), own, rest]
  omega

/-- A record counts once: with its definition, or as a problem. -/
theorem sum_usageCount {keys : List DefinitionKey}
    (distinct : keys.Nodup) {records : List StepRecord}
    (covers : Covers keys records) :
    (records.filterMap StepRecord.unmatched?).length +
        (records.filterMap StepRecord.ambiguous?).length +
        (keys.map (usageCount records)).sum =
      records.length := by
  induction records with
  | nil =>
      have none : usageCount [] = fun _ => 0 := rfl
      simp [none]
  | cons record others ih =>
      have rest : Covers keys others := by
        intro key step member
        exact covers key step (List.mem_cons_of_mem _ member)
      have counted := ih rest
      cases record with
      | unmatched value =>
          have same : usageCount (.unmatched value :: others) =
              usageCount others := rfl
          rw [same]
          simp only [List.filterMap_cons, StepRecord.unmatched?,
            StepRecord.ambiguous?, List.length_cons]
          omega
      | ambiguous value =>
          have same : usageCount (.ambiguous value :: others) =
              usageCount others := rfl
          rw [same]
          simp only [List.filterMap_cons, StepRecord.unmatched?,
            StepRecord.ambiguous?, List.length_cons]
          omega
      | used key step =>
          have member := covers key step List.mem_cons_self
          rw [sum_usageCount_cons distinct member]
          simp only [List.filterMap_cons, StepRecord.unmatched?,
            StepRecord.ambiguous?, List.length_cons]
          omega

/-- The same step is not recorded as ambiguous and as used, where it is
compared with the same definitions. -/
theorem StepRecord.not_used_of_ambiguous {registry : Registry Host}
    {hints otherHints : SearchHints} {step other : StepUsage}
    {argument otherArgument : Option ArgumentKind} {value : AmbiguousStep}
    (ambiguous : make registry hints step argument = .ambiguous value)
    (key : DefinitionKey) :
    make registry otherHints other otherArgument ≠ .used key value.step := by
  intro used
  have place : value.step = step := by
    have shown := congrArg StepRecord.step ambiguous
    rw [step_make] at shown
    exact shown.symm
  have same : other = value.step := by
    have shown := congrArg StepRecord.step used
    rwa [step_make] at shown
  rw [same, place] at used
  unfold make at ambiguous used
  rcases matching : registry.matching step.text
    with _ | ⟨first, _ | ⟨second, others⟩⟩
  · simp [matching] at used
  · simp [matching] at ambiguous
  · simp [matching] at used

/--
A diagnosis holds one record for each step of a pickle, in the order of the
steps, and knows every definition that was found.  A record has the line of the
step that the step of the pickle is made from.
-/
structure Diagnosis.Holds (diagnosis : Diagnosis)
    (files : List (DiagnosedFile Host)) : Prop where
  unmatched : diagnosis.unmatched =
    (files.flatMap (·.records)).filterMap StepRecord.unmatched?
  ambiguous : diagnosis.ambiguous =
    (files.flatMap (·.records)).filterMap StepRecord.ambiguous?
  usage : ∀ key steps, (key, steps) ∈ diagnosis.usage →
    steps = (files.flatMap (·.records)).filterMap (StepRecord.usedBy? key)
  keys : diagnosis.keys = (files.flatMap (·.keys)).eraseDups
  distinct : diagnosis.keys.Nodup
  covers : Covers diagnosis.keys (files.flatMap (·.records))
  total :
    diagnosis.unmatched.length + diagnosis.ambiguous.length +
        (diagnosis.usage.map (·.2.length)).sum =
      (files.flatMap (·.steps)).length
  apart : ∀ found ∈ files, ∀ value, .ambiguous value ∈ found.records →
    ∀ key, .used key value.step ∉ found.records
  lines : ∀ found ∈ files, ∀ made ∈ found.steps,
    ∃ step, found.file.Locates step made ∧
      (found.record made).step =
        { source := found.source
          line := step.location.line
          text := made.text }

/-- What is compared with the same definitions is not recorded as ambiguous and
as used. -/
theorem DiagnosedFile.not_used_of_ambiguous
    {found other : DiagnosedFile Host}
    (registry : found.registry = other.registry) {value : AmbiguousStep}
    (ambiguous : .ambiguous value ∈ found.records) (key : DefinitionKey) :
    .used key value.step ∉ other.records := by
  intro used
  obtain ⟨step, -, recorded⟩ := List.mem_map.mp ambiguous
  obtain ⟨otherStep, -, otherRecorded⟩ := List.mem_map.mp used
  rw [DiagnosedFile.record, registry] at recorded
  exact StepRecord.not_used_of_ambiguous recorded key otherRecorded

/-- A record names the file that the step stands in. -/
theorem DiagnosedFile.source_of_mem (found : DiagnosedFile Host)
    {record : StepRecord} (member : record ∈ found.records) :
    record.step.source = found.source := by
  obtain ⟨step, -, rfl⟩ := List.mem_map.mp member
  rw [DiagnosedFile.record, StepRecord.step_make]

theorem exists_ambiguous_of_mem {files : List (DiagnosedFile Host)}
    {value : AmbiguousStep}
    (member : value ∈ (Diagnosis.ofFiles files).ambiguous) :
    ∃ found ∈ files, .ambiguous value ∈ found.records := by
  obtain ⟨record, among, same⟩ := List.mem_filterMap.mp member
  obtain ⟨found, listed, own⟩ := List.mem_flatMap.mp among
  cases record with
  | unmatched other => cases same
  | used key step => cases same
  | ambiguous other =>
      cases same
      exact ⟨found, listed, own⟩

theorem exists_used_of_mem {files : List (DiagnosedFile Host)}
    {key : DefinitionKey} {step : StepUsage}
    (member : step ∈
      (files.flatMap (·.records)).filterMap (StepRecord.usedBy? key)) :
    ∃ found ∈ files, .used key step ∈ found.records := by
  obtain ⟨record, among, same⟩ := List.mem_filterMap.mp member
  obtain ⟨found, listed, own⟩ := List.mem_flatMap.mp among
  cases record with
  | unmatched other => cases same
  | ambiguous other => cases same
  | used known other =>
      by_cases named : known = key
      · subst named
        rw [StepRecord.usedBy?, if_pos rfl] at same
        cases same
        exact ⟨found, listed, own⟩
      · rw [StepRecord.usedBy?, if_neg named] at same
        cases same

theorem Diagnosis.ofFiles_holds {files : List (DiagnosedFile Host)}
    (lines : ∀ found ∈ files, ∀ made ∈ found.steps,
      ∃ step, found.file.Locates step made) :
    (ofFiles files).Holds files := by
  constructor
  case unmatched => rfl
  case ambiguous => rfl
  case usage =>
    intro key steps member
    obtain ⟨known, -, same⟩ := List.mem_map.mp member
    cases same
    rfl
  case keys => exact keys_ofFiles files
  case distinct =>
    rw [keys_ofFiles]
    exact nodup_eraseDups _
  case covers =>
    rw [keys_ofFiles]
    exact covers_known files
  case total =>
    have counted := sum_usageCount (nodup_eraseDups _) (covers_known files)
    have recorded :
        (files.flatMap (·.records)).length =
          (files.flatMap (·.steps)).length := by
      simp [DiagnosedFile.records, List.length_flatMap]
    rw [← recorded, ← counted, ofFiles, tally, List.map_map]
    rfl
  case apart =>
    intro found _ value ambiguous key
    exact DiagnosedFile.not_used_of_ambiguous rfl ambiguous key
  case lines =>
    intro found member made among
    obtain ⟨step, locates⟩ := lines found member made among
    refine ⟨step, locates, ?_⟩
    rw [DiagnosedFile.record, StepRecord.step_make, locates.line]

namespace Project

variable {project : Project} {templates : List String}
  {library : StepLibrary Host}

theorem Inspects.lines [LocatedSyntax] {path : String}
    {found : DiagnosedFile Host}
    (inspects : project.Inspects templates library path found) :
    ∀ made ∈ found.steps, ∃ step, found.file.Locates step made := by
  obtain ⟨next, read⟩ := inspects.read
  intro made member
  obtain ⟨pickle, among, own⟩ := List.mem_flatMap.mp member
  unfold readFeature at read
  cases text : project.read path with
  | error reason =>
      simp [text, Except.mapError, bind, Except.bind] at read
  | ok source =>
      cases parsed : FeatureFile.parse found.source source 0 with
      | error reason =>
          simp [text, parsed, Except.mapError, bind, Except.bind] at read
      | ok made =>
          simp only [text, parsed, Except.mapError, bind, Except.bind,
            Except.ok.injEq] at read
          subst read
          exact FeatureFile.lines_of_parse parsed pickle among _ own

/-- A file that is diagnosed has a path. -/
theorem exists_path_of_mem {paths : List String}
    {files : List (DiagnosedFile Host)}
    {property : String → DiagnosedFile Host → Prop}
    (all : List.Forall₂ property paths files) {found : DiagnosedFile Host}
    (member : found ∈ files) : ∃ path ∈ paths, property path found := by
  induction all with
  | nil => cases member
  | cons first rest ih =>
      rcases List.mem_cons.mp member with rfl | later
      · exact ⟨_, List.mem_cons_self, first⟩
      · obtain ⟨path, listed, holds⟩ := ih later
        exact ⟨path, List.mem_cons_of_mem _ listed, holds⟩

/-- Files are told apart by the names under which their steps are
recorded. -/
def NamesApart (project : Project) (paths : List String) : Prop :=
  ∀ first ∈ paths, ∀ second ∈ paths,
    project.relative first = project.relative second → first = second

instance (project : Project) (paths : List String) :
    Decidable (project.NamesApart paths) :=
  inferInstanceAs (Decidable (∀ first ∈ paths, ∀ second ∈ paths,
    project.relative first = project.relative second → first = second))

/--
The diagnosis of some files and then of others is that of all of them.  Every
step of a pickle is recorded once and in order, and every definition is known.
A step that is ambiguous is not recorded as used.
-/
theorem diagnose_records [LocatedSyntax] (project : Project)
    (templates : List String) (library : StepLibrary Host) :
    (∀ first second early late,
        project.diagnose templates library first = .ok early →
          project.diagnose templates library second = .ok late →
            project.diagnose templates library (first ++ second) =
              .ok (early.merge late)) ∧
      ∀ paths diagnosis,
        project.diagnose templates library paths = .ok diagnosis →
          ∃ files,
            List.Forall₂ (project.Inspects templates library)
                (paths.filter Path.isFeature) files ∧
              diagnosis.Holds files ∧
              (project.NamesApart (paths.filter Path.isFeature) →
                ∀ value ∈ diagnosis.ambiguous, ∀ key,
                  value.step ∉ diagnosis.stepsOf key) := by
  constructor
  · intro first second early late diagnosed later
    exact diagnose_append diagnosed later
  intro paths diagnosis diagnosed
  obtain ⟨files, inspect, rfl⟩ :=
    (diagnose_eq_ok_iff paths diagnosis).mp diagnosed
  refine ⟨files, inspect, ?_, ?_⟩
  · apply Diagnosis.ofFiles_holds
    intro found member
    obtain ⟨path, -, inspects⟩ := exists_path_of_mem inspect member
    exact inspects.lines
  · intro apart value ambiguous key used
    rw [Diagnosis.stepsOf_ofFiles] at used
    obtain ⟨found, member, own⟩ := exists_ambiguous_of_mem ambiguous
    obtain ⟨other, among, otherOwn⟩ := exists_used_of_mem used
    obtain ⟨path, listed, inspects⟩ := exists_path_of_mem inspect member
    obtain ⟨otherPath, otherListed, otherInspects⟩ :=
      exists_path_of_mem inspect among
    have source : found.source = other.source := by
      rw [← found.source_of_mem own, ← other.source_of_mem otherOwn]
      rfl
    rw [inspects.named, otherInspects.named] at source
    have same := apart path listed otherPath otherListed source
    subst same
    rw [inspects.unique otherInspects] at own
    exact DiagnosedFile.not_used_of_ambiguous rfl own key otherOwn

end Project

namespace Sample

/-- Two feature files, and a file of definitions. -/
def compared : Project where
  root := "/p"
  files :=
    { entries :=
        [ (["a.feature"],
            .textFile
              "Feature:\n Background:\n  Given a\n Scenario:\n  Then b\n"),
          (["b.feature"],
            .textFile "Feature:\n Scenario:\n  Given c\n  Then a\n"),
          (["steps.rs"], .textFile "") ] }

/-- A text has one definition, and another text has two. -/
def comparedLibrary : StepLibrary Unit where
  files :=
    [ ("steps.rs",
        [ .step (.expression "a") passing
            (some { path := "steps.rs", line := 1, column := 1 }),
          .step (.expression "b") passing
            (some { path := "steps.rs", line := 2, column := 1 }),
          .step (.regular "^b$") passing none ]) ]

def comparedFiles (paths : List String) : Diagnosis :=
  ((compared.diagnose ["*.rs"] comparedLibrary paths).toOption).getD {}

theorem compared_succeeds (paths : List String)
    (succeeds :
      (compared.diagnose ["*.rs"] comparedLibrary paths).isOk = true) :
    compared.diagnose ["*.rs"] comparedLibrary paths =
      .ok (comparedFiles paths) := by
  unfold comparedFiles
  cases found : compared.diagnose ["*.rs"] comparedLibrary paths with
  | error reason =>
      rw [found] at succeeds
      cases succeeds
  | ok diagnosis => rfl

/-- The records of both files. -/
def comparedBoth : Diagnosis :=
  (comparedFiles ["/p/a.feature"]).merge (comparedFiles ["/p/b.feature"])

/-- The files together have four steps: one is unmatched, one is ambiguous, and
two are used. -/
theorem compared_records :
    compared.diagnose ["*.rs"] comparedLibrary
          ["/p/a.feature", "/p/b.feature"] =
        .ok comparedBoth ∧
      (comparedBoth.usage.map (fun entry => (entry.1.expression, entry.2)),
          comparedBoth.unmatched.map (·.step)) =
        ([ ("\"a\"", [⟨"a.feature", 3, "a"⟩, ⟨"b.feature", 4, "a"⟩]),
            ("\"b\"", []), ("/^b$/", []) ],
          [⟨"b.feature", 3, "c"⟩]) ∧
      ∀ value ∈ comparedBoth.ambiguous, ∀ key,
        value.step ∉ comparedBoth.stepsOf key := by
  have first := compared_succeeds ["/p/a.feature"] (by decide +kernel)
  have second := compared_succeeds ["/p/b.feature"] (by decide +kernel)
  have records := Project.diagnose_records compared ["*.rs"] comparedLibrary
  have both := records.1 _ _ _ _ first second
  refine ⟨both, by decide +kernel, ?_⟩
  obtain ⟨files, -, -, apart⟩ := records.2 _ _ both
  exact apart (by decide +kernel)

end Sample

end ScenarioRunner
