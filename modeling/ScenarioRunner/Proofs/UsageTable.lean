import ScenarioRunner.Diagnosis.Report
import ScenarioRunner.Proofs.ProposedDefinitions
import ScenarioRunner.Proofs.ReadLines
import ScenarioRunner.Proofs.TableLayout

/-!
# The table of definitions and their steps

The table of a report has a row for each definition.  Definitions of one file
are next to each other, in the order in which they were recorded.  In its row a
definition stands above the steps that it is used for, and the places of all of
them stand in the second column.

The two columns are filled independently: each text starts as far down as the
texts above it need.  So a step stands beside its place if there are as many
line feeds above the one as above the other, in particular if there are none;
but the text of a regular expression may have some.

The main statement is `Diagnosis.usageTable_pairs`.
-/

namespace ScenarioRunner

/-! ## Order of definitions -/

/-- The file that a definition stands in, if it is known. -/
def DefinitionKey.file (key : DefinitionKey) : Option String :=
  key.site.map (·.path)

/-- Unknown files come first, and then files by their paths. -/
def FileBefore : Option String → Option String → Prop
  | none, some _ => True
  | some first, some second => first < second
  | _, none => False

namespace Diagnosis

theorem isNotAfter_iff {first second : DefinitionKey} :
    isNotAfter first second = true ↔
      ¬ FileBefore second.file first.file := by
  unfold isNotAfter DefinitionKey.file
  cases first.site with
  | none => cases second.site <;> simp [FileBefore]
  | some own =>
      cases second.site with
      | none => simp [FileBefore]
      | some other => simp [FileBefore]

theorem not_fileBefore_trans {first second third : Option String}
    (early : ¬ FileBefore second first) (late : ¬ FileBefore third second) :
    ¬ FileBefore third first := by
  cases first <;> cases second <;> cases third <;>
    simp_all only [FileBefore, not_true_eq_false, not_false_eq_true,
      String.not_lt]
  exact String.le_trans early late

theorem fileBefore_total (first second : Option String) :
    ¬ FileBefore second first ∨ ¬ FileBefore first second := by
  cases first with
  | none => exact Or.inl (by cases second <;> exact not_false)
  | some first =>
      cases second with
      | none => exact Or.inr not_false
      | some second =>
          exact (String.le_total first second).imp String.not_lt.mpr
            String.not_lt.mpr

/-- Files that come neither before nor after each other are the same. -/
theorem eq_of_not_fileBefore {first second : Option String}
    (early : ¬ FileBefore second first) (late : ¬ FileBefore first second) :
    first = second := by
  cases first <;> cases second <;>
    simp_all only [FileBefore, not_true_eq_false, not_false_eq_true,
      String.not_lt]
  exact congrArg some (String.le_antisymm early late)

theorem not_fileBefore_self (file : Option String) :
    ¬ FileBefore file file := by
  cases file with
  | none => exact not_false
  | some file => exact String.lt_irrefl file

/-- In order: no definition is in a file before that of an earlier one. -/
def Ordered (usage : List (DefinitionKey × List StepUsage)) : Prop :=
  usage.Pairwise fun first second =>
    ¬ FileBefore second.1.file first.1.file

section Sorting

variable (diagnosis : Diagnosis)

theorem sortedUsage_perm : diagnosis.sortedUsage.Perm diagnosis.usage :=
  List.mergeSort_perm _ _

theorem isNotAfter_trans (first second third : DefinitionKey × List StepUsage)
    (early : isNotAfter first.1 second.1 = true)
    (late : isNotAfter second.1 third.1 = true) :
    isNotAfter first.1 third.1 = true := by
  rw [isNotAfter_iff] at early late ⊢
  exact not_fileBefore_trans early late

theorem isNotAfter_total (first second : DefinitionKey × List StepUsage) :
    (isNotAfter first.1 second.1 || isNotAfter second.1 first.1) = true := by
  rw [Bool.or_eq_true, isNotAfter_iff, isNotAfter_iff]
  exact fileBefore_total _ _

theorem ordered_sortedUsage : Ordered diagnosis.sortedUsage :=
  (List.pairwise_mergeSort isNotAfter_trans isNotAfter_total
    diagnosis.usage).imp isNotAfter_iff.mp

/-- The definitions of a file keep their order. -/
theorem filter_sortedUsage (file : Option String) :
    diagnosis.sortedUsage.filter (·.1.file = file) =
      diagnosis.usage.filter (·.1.file = file) := by
  have together :
      (diagnosis.usage.filter (·.1.file = file)).Pairwise fun first second =>
        isNotAfter first.1 second.1 = true := by
    apply List.pairwise_of_forall_mem_list
    intro first firstMember second secondMember
    have firstFile : first.1.file = file := by
      simpa using (List.mem_filter.mp firstMember).2
    have secondFile : second.1.file = file := by
      simpa using (List.mem_filter.mp secondMember).2
    rw [isNotAfter_iff, firstFile, secondFile]
    exact not_fileBefore_self file
  have kept := (List.sublist_mergeSort isNotAfter_trans isNotAfter_total
    together List.filter_sublist).filter (·.1.file = file)
  rw [List.filter_filter] at kept
  simp only [Bool.and_self] at kept
  exact (kept.eq_of_length
    (diagnosis.sortedUsage_perm.filter _).length_eq.symm).symm

/-- Where definitions are in order, those of a file are next to each other. -/
theorem filter_infix_of_ordered
    {usage : List (DefinitionKey × List StepUsage)} (ordered : Ordered usage)
    (file : Option String) :
    ∃ front back,
      front ++ usage.filter (·.1.file = file) ++ back = usage ∧
        ∀ entry ∈ front, FileBefore entry.1.file file := by
  induction usage with
  | nil => exact ⟨[], [], rfl, List.forall_mem_nil _⟩
  | cons entry later ih =>
      obtain ⟨first, rest⟩ := List.pairwise_cons.mp ordered
      obtain ⟨front, back, whole, before⟩ := ih rest
      by_cases own : entry.1.file = file
      · -- Nothing behind the definition is in a file before its own.
        have none : front = [] := by
          rw [List.eq_nil_iff_forall_not_mem]
          intro other among
          have listed : other ∈ later := by
            rw [← whole]
            simp [among]
          exact first other listed (own ▸ before other among)
        subst none
        refine ⟨[], back, ?_, List.forall_mem_nil _⟩
        rw [List.filter_cons_of_pos (by simpa using own)]
        exact congrArg (entry :: ·) whole
      · rw [List.filter_cons_of_neg (by simpa using own)]
        by_cases early : FileBefore entry.1.file file
        · refine ⟨entry :: front, back, congrArg (entry :: ·) whole, ?_⟩
          exact List.forall_mem_cons.mpr ⟨early, before⟩
        · -- All that is behind a later file is later as well.
          have absent : later.filter (·.1.file = file) = [] := by
            rw [List.filter_eq_nil_iff]
            intro other among same
            have equal : other.1.file = file := by simpa using same
            refine own (eq_of_not_fileBefore ?_ early)
            exact equal ▸ first other among
          exact ⟨[], entry :: later, by rw [absent]; rfl,
            List.forall_mem_nil _⟩

theorem filter_infix_sortedUsage (file : Option String) :
    diagnosis.usage.filter (·.1.file = file) <:+: diagnosis.sortedUsage := by
  obtain ⟨front, back, whole, -⟩ :=
    filter_infix_of_ordered diagnosis.ordered_sortedUsage file
  rw [filter_sortedUsage] at whole
  exact ⟨front, back, whole⟩

end Sorting

/-! ## Rows of definitions -/

/-- The text of a definition, marked if it is used for no step. -/
def usagePattern (colored : Bool) (key : DefinitionKey)
    (steps : List StepUsage) : String :=
  let unused := Console.paint colored .yellow "unused"
  if steps.isEmpty then s!"{key.expression} ({unused})" else key.expression

/-- What stands in the first column, from top to bottom: the text of the
definition and those of the steps. -/
def usageTexts (colored : Bool) (key : DefinitionKey)
    (steps : List StepUsage) : List String :=
  usagePattern colored key steps :: steps.map ("  " ++ ·.text)

/-- What stands in the second column: the site of the definition and the places
of the steps. -/
def usagePlaces (key : DefinitionKey) (steps : List StepUsage) :
    List String :=
  Site.describe key.site :: steps.map fun step => s!"{step.source}:{step.line}"

/-- The number of line feeds in some texts. -/
def lineFeeds (texts : List String) : Nat :=
  (texts.map String.toList).flatten.count '\n'

/-- The line of a row on which one of the texts of a column starts: the texts
above it are counted, and the line feeds in them. -/
def startLine (texts : List String) (place : Nat) : Nat :=
  place + lineFeeds (texts.take place)

theorem startLine_eq (texts : List String) (place : Nat) :
    startLine texts place =
      Text.startLine (texts.map String.toList) place := by
  rw [startLine, Text.startLine, lineFeeds, List.map_take]

/-- A text starts in a column on a line of a row. -/
def StartsAt (measure : Console.Measure) (columns : List Nat)
    (block : List (List String)) (index line : Nat) (text : String) : Prop :=
  ∃ own start fields field,
    columns[index]? = some own ∧ block[line]? = some fields ∧
      fields[index]? = some field ∧ Text.Begins start text.toList ∧
        Console.Field measure own start field

variable {measure : Console.Measure}

/-- Of texts that are joined in a cell, each one starts on its line. -/
theorem startsAt_of_intercalate {columns : List Nat} {row : List String}
    {block : List (List String)}
    (made : Console.Table.Block measure columns row block)
    (index : Nat) {own : Nat} (texts : List String)
    (known : columns[index]? = some own)
    (stands : row[index]? = some ("\n".intercalate texts))
    (nonempty : ∀ last ∈ texts.getLast?, last ≠ "") {place : Nat}
    {text : String} (listed : texts[place]? = some text) :
    StartsAt measure columns block index (startLine texts place) text := by
  have chars : (texts.map String.toList)[place]? = some text.toList := by
    rw [List.getElem?_map, listed]
    rfl
  have last : ∀ last ∈ (texts.map String.toList).getLast?, last ≠ [] := by
    rw [List.getLast?_map]
    intro last member
    obtain ⟨text, own, rfl⟩ := Option.map_eq_some_iff.mp member
    simpa using nonempty text own
  obtain ⟨start, shown, begins⟩ := Text.exists_line_of_piece last chars
  have line :
      (Console.cellLines ("\n".intercalate texts))[startLine texts place]? =
        some start := by
    rw [Console.cellLines, String.toList_intercalate, startLine_eq]
    exact shown
  obtain ⟨fields, field, above, across, filled⟩ :=
    made.exists_field known stands line
  exact ⟨own, start, fields, field, known, above, across, begins, filled⟩

theorem usageTexts_last (colored : Bool) (key : DefinitionKey)
    (steps : List StepUsage) :
    ∀ last ∈ (usageTexts colored key steps).getLast?, last ≠ "" := by
  intro last member
  rcases List.eq_nil_or_concat steps with rfl | ⟨early, step, rfl⟩
  · obtain rfl : usagePattern colored key [] = last := by
      simpa [usageTexts] using member
    have bracket : toString ")" ≠ "" := by decide
    simp [usagePattern, bracket]
  · rw [usageTexts, List.concat_eq_append, List.map_append,
      ← List.cons_append, List.map_singleton, List.getLast?_concat] at member
    obtain rfl := Option.mem_some.mp member
    simp

theorem usagePlaces_last (key : DefinitionKey) (steps : List StepUsage) :
    ∀ last ∈ (usagePlaces key steps).getLast?, last ≠ "" := by
  intro last member
  rcases List.mem_cons.mp (List.mem_of_getLast? member) with rfl | listed
  · cases key.site <;> simp [Site.describe]
  · obtain ⟨step, -, rfl⟩ := List.mem_map.mp listed
    simp

/-- What the fields of a definition show. -/
structure ShowsUsage (measure : Console.Measure) (colored : Bool)
    (columns : List Nat) (usage : DefinitionKey × List StepUsage)
    (block : List (List String)) : Prop where
  /-- The definition starts beside its site. -/
  definition :
    StartsAt measure columns block 0 0 (usagePattern colored usage.1 usage.2) ∧
      StartsAt measure columns block 1 0 (Site.describe usage.1.site)
  /-- Each step and its place start below what stands above them. -/
  steps : ∀ place step, usage.2[place]? = some step →
    StartsAt measure columns block 0
        (startLine (usageTexts colored usage.1 usage.2) (place + 1))
        ("  " ++ step.text) ∧
      StartsAt measure columns block 1
        (startLine (usagePlaces usage.1 usage.2) (place + 1))
        s!"{step.source}:{step.line}"
  /-- A step starts beside its place if there are as many line feeds above the
  one as above the other. -/
  paired : ∀ place step, usage.2[place]? = some step →
    lineFeeds ((usageTexts colored usage.1 usage.2).take (place + 1)) =
        lineFeeds ((usagePlaces usage.1 usage.2).take (place + 1)) →
      ∃ line,
        StartsAt measure columns block 0 line ("  " ++ step.text) ∧
          StartsAt measure columns block 1 line s!"{step.source}:{step.line}"

theorem showsUsage_of_block {colored : Bool} {columns : List Nat}
    (arity : columns.length = 2) {usage : DefinitionKey × List StepUsage}
    {block : List (List String)}
    (made : Console.Table.Block measure columns
      (usageRow colored usage.1 usage.2) block) :
    ShowsUsage measure colored columns usage block := by
  obtain ⟨first, second, rfl⟩ := List.length_eq_two.mp arity
  have texts {place : Nat} {text : String}
      (listed :
        (usageTexts colored usage.1 usage.2)[place]? = some text) :=
    startsAt_of_intercalate made 0 (usageTexts colored usage.1 usage.2) rfl rfl
      (usageTexts_last colored usage.1 usage.2) listed
  have places {place : Nat} {text : String}
      (listed : (usagePlaces usage.1 usage.2)[place]? = some text) :=
    startsAt_of_intercalate made 1 (usagePlaces usage.1 usage.2) rfl rfl
      (usagePlaces_last usage.1 usage.2) listed
  have steps : ∀ place step, usage.2[place]? = some step →
      StartsAt measure [first, second] block 0
          (startLine (usageTexts colored usage.1 usage.2) (place + 1))
          ("  " ++ step.text) ∧
        StartsAt measure [first, second] block 1
          (startLine (usagePlaces usage.1 usage.2) (place + 1))
          s!"{step.source}:{step.line}" := by
    intro place step listed
    constructor
    · apply texts
      simp [usageTexts, listed]
    · apply places
      simp [usagePlaces, listed]
  have definition := @texts 0 _ rfl
  have site := @places 0 _ rfl
  refine ⟨⟨definition, site⟩, steps, ?_⟩
  intro place step listed same
  obtain ⟨text, site⟩ := steps place step listed
  rw [startLine, same] at text
  exact ⟨_, text, site⟩

/--
The table of a diagnosis has one row for each definition.  Definitions in
unknown files come first, then those of each file, by path, and those of a file
are next to each other and keep their order.  In each row the definition starts
beside its site, and each step as far down as the texts above it need, so that
it starts beside its place if as many line feeds are above the one as above the
other.  This holds however texts are measured.
-/
theorem usageTable_pairs (measure : Console.Measure) (colored : Bool)
    (diagnosis : Diagnosis) :
    diagnosis.sortedUsage.Perm diagnosis.usage ∧
      Ordered diagnosis.sortedUsage ∧
      (∀ file, diagnosis.usage.filter (·.1.file = file) <:+:
        diagnosis.sortedUsage) ∧
      ∃ columns first blocks,
        Text.lines
              ((diagnosis.usageTable colored).render measure.width).toList =
            (Console.Table.drawing columns first blocks).map String.toList ∧
          List.Forall₂ (ShowsUsage measure colored columns)
            diagnosis.sortedUsage blocks := by
  let table := diagnosis.usageTable colored
  have rectangular : ∀ row ∈ table.rows, row.length = table.head.length := by
    intro row among
    obtain ⟨usage, -, rfl⟩ := List.mem_map.mp among
    rfl
  have single : ∀ name ∈ table.head, '\n' ∉ name.toList := by
    simp [table, usageTable]
  refine ⟨diagnosis.sortedUsage_perm, diagnosis.ordered_sortedUsage,
    diagnosis.filter_infix_sortedUsage, table.widths measure.width,
    Console.Table.blockOf measure (table.widths measure.width) table.head,
    table.rows.map
      (Console.Table.blockOf measure (table.widths measure.width)), ?_, ?_⟩
  · rw [Console.Table.lines_render measure rectangular single,
      Console.Table.lines_eq measure single]
  · have blocks := Console.Table.forall₂_block measure rectangular
    have arity : (table.widths measure.width).length = 2 :=
      Console.Table.length_widths measure table
    rw [show table.rows = diagnosis.sortedUsage.map fun usage =>
      usageRow colored usage.1 usage.2 from rfl] at blocks ⊢
    rw [List.forall₂_map_left_iff] at blocks
    exact blocks.imp fun usage block made => showsUsage_of_block arity made

end Diagnosis

namespace Sample

/-- A definition for one step of a project; it is a regular expression of two
lines. -/
def brokenPattern : Diagnosis :=
  { usage :=
      [({ expression := "/a|\nb/", site := none },
        [{ source := "a.feature", line := 3, text := "a" }])] }

/-- The table of that definition. -/
def brokenLines : List String :=
  [ "┌────────────────┬──────────────────┐",
    "│ Pattern / Text │ Location         │",
    "├────────────────┼──────────────────┤",
    "│ /a|            │ unknown location │",
    "│ b/             │ a.feature:3      │",
    "│   a            │                  │",
    "└────────────────┴──────────────────┘" ]

/-- The step stands one line below its place: no line of the table has both of
them. -/
theorem brokenPattern_apart :
    Project.diagnose
        { root := "/p"
          files :=
            { entries :=
                [ (["a.feature"],
                    .textFile "Feature:\n Scenario: A\n  Given a\n"),
                  (["steps.rs"], .textFile "") ] } }
        ["*.rs"]
        ({ files := [("steps.rs", [.step (.regular "a|\nb") passing none])] } :
          StepLibrary Unit)
        ["/p/a.feature"] =
      .ok brokenPattern ∧
      (brokenPattern.usageTable false).lines Console.width = brokenLines ∧
      ∀ line ∈ (brokenPattern.usageTable false).lines Console.width,
        ¬ (Text.contains line "a.feature:3" ∧ Text.contains line "  a") := by
  have shown :
      (brokenPattern.usageTable false).lines Console.width = brokenLines := by
    decide +kernel
  refine ⟨by decide +kernel, shown, ?_⟩
  rw [shown]
  decide +kernel

end Sample

end ScenarioRunner
