import Mathlib.Data.List.Basic
import ScenarioRunner.Project.Files

/-!
# Changes to files

Making directories keeps all that is there and adds no file.  Adding a text to a
file keeps all directories.  So a path leads to the same place for good once it
has been written to, and a file that is written to several times has the texts
one after the other.

A file that is taken away beforehand may still be there if its path could not
be followed then: directories that are made later may open the way to it.  This
takes a path that turns back.

The main statements are `not_hasFile_of_discard`, `leaves_of_discard` and
`Leaves.appendBelow`.
-/

namespace ScenarioRunner.Files

/-! ## Following a path -/

/-- The place that parts of a path lead to if nothing is in the way. -/
def walk : Place → List (List Char) → Place
  | place, [] => place
  | place, part :: parts =>
      if !Path.counts part then walk place parts
      else if part = ['.', '.'] then walk place.dropLast parts
      else walk (place ++ [String.ofList part]) parts

/-- The place of a path if nothing is in the way. -/
def target (path : String) : Place :=
  walk [] (Path.parts path.toList)

section Follow

variable {files more : Files} {place found : Place}
variable {parts : List (List Char)}

theorem eq_walk_of_follow (followed : files.follow place parts = .ok found) :
    found = walk place parts := by
  fun_induction files.follow place parts with
  | case1 => exact (Except.ok.inj followed).symm
  | case2 => cases followed
  | case3 place part parts there skipped ih =>
      rw [walk, if_pos skipped]
      exact ih followed
  | case4 place parts there counts ih =>
      rw [walk, if_neg counts, if_pos rfl]
      exact ih followed
  | case5 place part parts there counts name ih =>
      rw [walk, if_neg counts, if_neg name]
      exact ih followed
  | case6 => cases followed

theorem eq_target_of_locate {path : String}
    (located : files.locate path = .ok found) : found = target path :=
  eq_walk_of_follow located

/-- All directories are still there. -/
def KeepsDirectories (files more : Files) : Prop :=
  ∀ place, files.get? place = some .directory →
    more.get? place = some .directory

theorem KeepsDirectories.follow (keeps : files.KeepsDirectories more)
    (followed : files.follow place parts = .ok found) :
    more.follow place parts = .ok found := by
  fun_induction files.follow place parts with
  | case1 => exact followed
  | case2 => cases followed
  | case3 place part parts there skipped ih =>
      rw [Files.follow, keeps place there]
      simp only [skipped, if_true]
      exact ih followed
  | case4 place parts there counts ih =>
      rw [Files.follow, keeps place there]
      simp only [counts, if_true]
      exact ih followed
  | case5 place part parts there counts name ih =>
      rw [Files.follow, keeps place there]
      simp only [counts, name, if_false]
      exact ih followed
  | case6 => cases followed

/-- There is nothing at a place exactly if no entry is there or below it. -/
theorem get?_eq_none_iff :
    files.get? place = none ↔
      place ≠ [] ∧ ∀ entry ∈ files.entries, ¬ place <+: entry.1 := by
  unfold get?
  split
  · rename_i same entry here
    have own := List.find?_some here
    simp only [reduceCtorEq, false_iff, not_and, not_forall]
    intro nonempty
    refine ⟨_, List.mem_of_find?_eq_some here, not_not.mpr ?_⟩
    exact beq_iff_eq.mp own ▸ List.prefix_refl _
  · simp [List.isPrefixOf_iff_prefix]

/-- Below nothing there is nothing. -/
theorem get?_eq_none_of_prefix {below : Place}
    (absent : files.get? place = none) (leads : place <+: below) :
    files.get? below = none := by
  rw [get?_eq_none_iff] at absent ⊢
  constructor
  · rintro rfl
    exact absent.1 (List.prefix_nil.mp leads)
  · intro entry member behind
    exact absent.2 entry member (leads.trans behind)

theorem prefix_walk (forwards : ['.', '.'] ∉ parts) :
    place <+: walk place parts := by
  fun_induction walk place parts with
  | case1 => exact List.prefix_refl _
  | case2 place part parts skipped ih =>
      exact ih fun member => forwards (.tail part member)
  | case3 => exact absurd List.mem_cons_self forwards
  | case4 place part parts counts name ih =>
      exact (List.prefix_append _ _).trans
        (ih fun member => forwards (.tail part member))

/-- A path that does not turn back leads to nothing if it cannot be
followed. -/
theorem get?_walk_of_follow (forwards : ['.', '.'] ∉ parts)
    (failed : files.follow place parts = .error .notFound) :
    files.get? (walk place parts) = none := by
  fun_induction files.follow place parts with
  | case1 => cases failed
  | case2 place part parts absent =>
      exact get?_eq_none_of_prefix absent (prefix_walk forwards)
  | case3 place part parts there skipped ih =>
      rw [walk, if_pos skipped]
      exact ih (fun member => forwards (.tail part member)) failed
  | case4 => exact absurd List.mem_cons_self forwards
  | case5 place part parts there counts name ih =>
      rw [walk, if_neg counts, if_neg name]
      exact ih (fun member => forwards (.tail part member)) failed
  | case6 => cases failed

end Follow

/-! ## Putting entries at places -/

section Insert

variable {files : Files} {place other : Place} {entry found : FileEntry}

theorem find?_insert (files : Files) (different : other ≠ place)
    (entry : FileEntry) :
    (files.insert place entry).entries.find? (·.1 == other) =
      files.entries.find? (·.1 == other) := by
  have kept :
      (files.entries.filter (·.1 != place)).find? (·.1 == other) =
        files.entries.find? (·.1 == other) := by
    rw [List.find?_filter]
    congr 1
    funext known
    by_cases same : known.1 = other
    · simp [same, different]
    · simp [same]
  simp [insert, kept, different.symm]

/-- What is at other places stays there. -/
theorem get?_insert_of_ne (different : other ≠ place)
    (there : files.get? other = some found) :
    (files.insert place entry).get? other = some found := by
  unfold get? at there ⊢
  rw [find?_insert files different]
  split at there
  · exact there
  · split at there
    · rename_i above
      rw [if_pos, there]
      rw [Bool.or_eq_true] at above ⊢
      refine above.imp id ?_
      rw [List.any_eq_true, List.any_eq_true]
      rintro ⟨known, member, leads⟩
      by_cases replaced : known.1 = place
      · refine ⟨(place, entry), ?_, replaced ▸ leads⟩
        simp [insert]
      · refine ⟨known, ?_, leads⟩
        simp [insert, member, replaced]
    · cases there

/-- Files at other places have been there before. -/
theorem get?_of_get?_insert (different : other ≠ place)
    (there : (files.insert place entry).get? other = some found)
    (file : found.isFile = true) : files.get? other = some found := by
  unfold get? at there ⊢
  rw [find?_insert files different] at there
  split at there
  · exact there
  · split at there
    · cases there
      cases file
    · cases there

/-- What takes the place of no directory keeps all directories. -/
theorem keepsDirectories_insert (other : files.get? place ≠ some .directory)
    (entry : FileEntry) :
    files.KeepsDirectories (files.insert place entry) := by
  intro directory there
  refine get?_insert_of_ne ?_ there
  rintro rfl
  exact other there

end Insert

/-! ## Making directories -/

section Make

variable {files more : Files}

/-- All that was there is kept, and there are no new files. -/
structure Adds (files more : Files) : Prop where
  kept : ∀ place entry, files.get? place = some entry →
    more.get? place = some entry
  old : ∀ place entry, more.get? place = some entry →
    entry.isFile = true → files.get? place = some entry

namespace Adds

theorem refl (files : Files) : files.Adds files where
  kept := fun _ _ there => there
  old := fun _ _ there _ => there

theorem trans {most : Files} (adds : files.Adds more)
    (others : more.Adds most) : files.Adds most where
  kept := fun place entry there =>
    others.kept place entry (adds.kept place entry there)
  old := fun place entry there file =>
    adds.old place entry (others.old place entry there file) file

theorem directory {place : Place} (absent : files.get? place = none) :
    files.Adds (files.insert place .directory) where
  kept := by
    intro other entry there
    refine get?_insert_of_ne ?_ there
    rintro rfl
    rw [absent] at there
    cases there
  old := by
    intro other entry there file
    refine get?_of_get?_insert ?_ there file
    rintro rfl
    rw [get?_insert_self] at there
    cases there
    cases file

end Adds

theorem makeFrom_adds {place : Place} {parts : List (List Char)}
    (made : files.makeFrom place parts = .ok more) : files.Adds more := by
  fun_induction files.makeFrom place parts with
  | case1 =>
      cases made
      exact .refl _
  | case2 files place part parts there skipped ih => exact ih made
  | case3 files place parts there counts ih => exact ih made
  | case4 files place part parts there counts name next absent ih =>
      exact (Adds.directory absent).trans (ih made)
  | case5 files place part parts there counts name next known ih =>
      exact ih made
  | _ => cases made

end Make

/-! ## Taking a file away -/

section Discard

variable {files less : Files} {path : String}

/-- There is a file at the place that a path is followed to. -/
def HasFile (files : Files) (path : String) : Prop :=
  ∃ place entry,
    files.locate path = .ok place ∧ files.get? place = some entry ∧
      entry.isFile = true

/-- It is settled where a path leads: it is followed to a place, or it does not
turn back. -/
def Settles (files : Files) (path : String) : Prop :=
  (∃ place, files.locate path = .ok place) ∨
    ['.', '.'] ∉ Path.parts path.toList

/-- No file is left at a place. -/
theorem isFile_of_get?_erase {place : Place} {entry : FileEntry}
    (there : (files.erase place).get? place = some entry) :
    entry.isFile = false := by
  have absent : (files.erase place).entries.find? (·.1 == place) = none := by
    rw [List.find?_eq_none]
    simp [erase]
  simp only [get?, absent] at there
  split at there
  · cases there
    rfl
  · cases there

/-- Either a path cannot be followed, or no file is left where it leads. -/
theorem discard_cases (discarded : files.discard path = .ok less) :
    (files.locate path = .error .notFound ∧ less = files) ∨
      files.locate path = .ok (target path) ∧
        ∀ entry, less.get? (target path) = some entry →
          entry.isFile = false := by
  unfold discard remove at discarded
  cases located : files.locate path with
  | error reason =>
      rw [located] at discarded
      cases reason with
      | notFound =>
          cases discarded
          exact Or.inl ⟨rfl, rfl⟩
      | _ => cases discarded
  | ok place =>
      rw [located] at discarded
      obtain rfl := eq_target_of_locate located
      refine Or.inr ⟨rfl, ?_⟩
      intro entry there
      cases known : files.get? (target path) with
      | none =>
          simp only [known, bind, Except.bind] at discarded
          cases discarded
          rw [known] at there
          cases there
      | some own =>
          simp only [known, bind, Except.bind] at discarded
          cases own with
          | directory => cases discarded
          | textFile content =>
              cases discarded
              exact isFile_of_get?_erase there
          | binaryFile =>
              cases discarded
              exact isFile_of_get?_erase there

theorem not_hasFile_of_discard (discarded : files.discard path = .ok less) :
    ¬ less.HasFile path := by
  rintro ⟨place, entry, located, there, file⟩
  rcases discard_cases discarded with ⟨failed, rfl⟩ | ⟨-, cleared⟩
  · rw [failed] at located
    cases located
  · rw [eq_target_of_locate located] at there
    rw [cleared entry there] at file
    cases file

/-- What is left of a file: nothing, or a text. -/
def Leaves (files : Files) (path : String) : Option String → Prop
  | none => ∀ entry, files.get? (target path) = some entry →
      entry.isFile = false
  | some content => files.get? (target path) = some (.textFile content)

/-- No file is left, not even where the path may lead later. -/
theorem leaves_of_discard (settles : files.Settles path)
    (discarded : files.discard path = .ok less) : less.Leaves path none := by
  intro entry there
  rcases discard_cases discarded with ⟨failed, rfl⟩ | ⟨-, cleared⟩
  · rcases settles with ⟨place, located⟩ | forwards
    · rw [failed] at located
      cases located
    · rw [target, get?_walk_of_follow forwards failed] at there
      cases there
  · exact cleared entry there

end Discard

/-! ## Adding texts to a file -/

section Append

variable {files more : Files} {path text content : String}

/-- A path leads to a file with a text. -/
structure Holds (files : Files) (path content : String) : Prop where
  located : files.locate path = .ok (target path)
  there : files.get? (target path) = some (.textFile content)

theorem Holds.read (holds : files.Holds path content) :
    files.read path = .ok content := by
  simp only [Files.read, holds.located, bind, Except.bind, holds.there]
  rfl

/-- A text is added by putting a file in place of what is no directory. -/
theorem append_cases (appended : files.append path text = .ok more) :
    files.locate path = .ok (target path) ∧
      files.get? (target path) ≠ some .directory ∧
      more = files.insert (target path)
        ((files.get? (target path)).elim (.textFile text)
          (·.append text)) := by
  unfold append at appended
  cases located : files.locate path with
  | error reason => simp [located, bind, Except.bind] at appended
  | ok place =>
      obtain rfl := eq_target_of_locate located
      simp only [located, bind, Except.bind] at appended
      cases closed : path.endsWith "/" with
      | true => simp [closed, throw, throwThe, MonadExceptOf.throw] at appended
      | false =>
          simp only [closed, Bool.false_eq_true, if_false] at appended
          cases known : files.get? (target path) with
          | none =>
              simp only [known] at appended
              cases appended
              exact ⟨rfl, nofun, rfl⟩
          | some own =>
              cases own with
              | directory =>
                  simp [known, throw, throwThe, MonadExceptOf.throw]
                    at appended
              | textFile content =>
                  simp only [known] at appended
                  cases appended
                  exact ⟨rfl, nofun, rfl⟩
              | binaryFile =>
                  simp only [known] at appended
                  cases appended
                  exact ⟨rfl, nofun, rfl⟩

/-- Directories are made before a text is added. -/
theorem appendBelow_cases
    (appended : files.appendBelow path text = .ok more) :
    ∃ between, files.Adds between ∧ between.append path text = .ok more := by
  unfold appendBelow at appended
  cases made : files.makeDirectories (Path.parent path) with
  | error reason => simp [made, bind, Except.bind] at appended
  | ok between =>
      rw [made] at appended
      exact ⟨between, makeFrom_adds made, appended⟩

/-- What takes the place of no directory can be found there. -/
theorem holds_insert (located : files.locate path = .ok (target path))
    (other : files.get? (target path) ≠ some .directory)
    (content : String) :
    (files.insert (target path) (.textFile content)).Holds path content where
  located := (keepsDirectories_insert other _).follow located
  there := get?_insert_self _ _ _

/-- A text that is added comes behind what is left. -/
theorem Leaves.appendBelow {left : Option String}
    (leaves : files.Leaves path left)
    (appended : files.appendBelow path text = .ok more) :
    more.Holds path (left.getD "" ++ text) := by
  obtain ⟨between, adds, appended⟩ := appendBelow_cases appended
  obtain ⟨located, other, rfl⟩ := append_cases appended
  cases left with
  | some content =>
      have there := adds.kept _ _ leaves
      rw [there] at other ⊢
      exact holds_insert located (by rwa [there]) _
  | none =>
      have absent : between.get? (target path) = none := by
        cases there : between.get? (target path) with
        | none => rfl
        | some entry =>
            cases file : entry.isFile with
            | true =>
                rw [leaves entry (adds.old _ _ there file)] at file
                cases file
            | false =>
                cases entry with
                | directory => exact absurd there other
                | _ => cases file
      rw [absent, Option.getD_none, String.empty_append]
      exact holds_insert located other _

end Append

end ScenarioRunner.Files
