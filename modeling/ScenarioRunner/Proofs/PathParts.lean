import Mathlib.Data.List.Basic
import ScenarioRunner.Project.Path
import ScenarioRunner.Proofs.JoinedLines

/-!
# Parts of paths

A path is cut into parts at its slashes and put together from them.  Whatever
is cut off a path, what is left has no characters but slashes that the path
does not have.
-/

namespace ScenarioRunner.Path

theorem parts_cons (char : Char) (rest : List Char) :
    parts (char :: rest) =
      if char = '/' then [] :: parts rest
      else (parts rest).modifyHead (char :: ·) := by
  rw [parts, List.splitOn_cons_eq_if_modifyHead]
  simp [parts]

theorem parts_ne_nil (path : List Char) : parts path ≠ [] :=
  List.splitOn_ne_nil '/' path

theorem ofParts_cons (part : List Char) {later : List (List Char)}
    (more : later ≠ []) :
    ofParts (part :: later) = part ++ '/' :: ofParts later := by
  rw [ofParts, List.intercalate_cons_of_ne_nil more, List.append_assoc]
  rfl

theorem parts_append {front : List Char} (unbroken : '/' ∉ front)
    (rest : List Char) :
    parts (front ++ rest) = (parts rest).modifyHead (front ++ ·) := by
  induction front with
  | nil => cases known : parts rest <;> exact known
  | cons char front ih =>
      obtain ⟨own, later⟩ := not_or.mp (mt List.mem_cons.mpr unbroken)
      rw [List.cons_append, parts_cons, if_neg (Ne.symm own), ih later,
        List.modifyHead_modifyHead]
      rfl

theorem mem_of_mem_parts {path part : List Char} {char : Char}
    (member : part ∈ parts path) (inside : char ∈ part) : char ∈ path := by
  induction path generalizing part with
  | nil =>
      obtain rfl : part = [] := by simpa [parts] using member
      exact absurd inside List.not_mem_nil
  | cons first rest ih =>
      rw [parts_cons] at member
      split at member
      · rcases List.mem_cons.mp member with rfl | later
        · exact absurd inside List.not_mem_nil
        · exact List.mem_cons_of_mem _ (ih later inside)
      · cases split : parts rest with
        | nil => exact absurd split (parts_ne_nil rest)
        | cons head others =>
            rw [split, List.modifyHead_cons] at member
            rw [split] at ih
            rcases List.mem_cons.mp member with rfl | later
            · rcases List.mem_cons.mp inside with rfl | behind
              · exact List.mem_cons_self
              · exact List.mem_cons_of_mem _ (ih List.mem_cons_self behind)
            · exact List.mem_cons_of_mem _
                (ih (List.mem_cons_of_mem _ later) inside)

/-! ## Characters -/

section Characters

variable {path : List Char} {char : Char}

theorem mem_of_mem_ofParts {listed : List (List Char)}
    (among : listed ⊆ parts path) (name : char ≠ '/')
    (member : char ∈ ofParts listed) : char ∈ path := by
  rcases Text.mem_or_mem_of_mem_intercalate member with slash | found
  · exact absurd (List.mem_singleton.mp slash) name
  · obtain ⟨part, own, inside⟩ := found
    exact mem_of_mem_parts (among own) inside

theorem trimEnd_subset (listed : List (List Char)) :
    trimEnd listed ⊆ listed := by
  intro part member
  rw [trimEnd, List.mem_reverse] at member
  exact List.mem_reverse.mp ((List.dropWhile_sublist _).subset member)

theorem dropCounted_subset (number : Nat) (listed : List (List Char)) :
    dropCounted number listed ⊆ listed := by
  fun_induction dropCounted number listed with
  | case1 => exact List.Subset.refl _
  | case2 => exact List.Subset.refl _
  | case3 number part others ih => exact List.subset_cons_of_subset _ ih

theorem trimmedParts_subset (path : List Char) :
    trimmedParts path ⊆ parts path := by
  rw [trimmedParts]
  split
  · exact List.nil_subset _
  · rename_i first others split
    rw [split]
    exact List.cons_subset_cons _ (trimEnd_subset others)

theorem mem_of_mem_afterComponents {number : Nat} (name : char ≠ '/')
    (member : char ∈ afterComponents number path) : char ∈ path := by
  unfold afterComponents at member
  split at member
  · cases member
  · split at member
    · exact List.mem_of_mem_take member
    · exact mem_of_mem_ofParts (trimmedParts_subset path) name member
  · rename_i first others split
    refine mem_of_mem_ofParts ?_ name member
    rw [split]
    apply List.subset_cons_of_subset
    exact List.Subset.trans (trimEnd_subset _)
      (List.Subset.trans (List.dropWhile_sublist _).subset
        (dropCounted_subset _ _))

theorem mem_of_mem_relativeTo {base path : String} (name : char ≠ '/')
    (member : char ∈ (relativeTo base path).toList) : char ∈ path.toList := by
  rw [relativeTo, stripPrefix?] at member
  split at member
  · rw [Option.getD_some, String.toList_ofList] at member
    exact mem_of_mem_afterComponents name member
  · exact member

theorem splitName_subset (part : List Char) : (splitName part).1 ⊆ part := by
  intro char member
  rw [splitName] at member
  split at member
  · exact member
  · exact member
  · rename_i before split
    have behind : char ∈ part.reverse.dropWhile (· != '.') := by
      rw [split]
      exact List.mem_cons_of_mem _ (List.mem_reverse.mp member)
    exact List.mem_reverse.mp ((List.dropWhile_sublist _).subset behind)

theorem mem_of_mem_withoutExtension {path : String} (name : char ≠ '/')
    (member : char ∈ (withoutExtension path).toList) :
    char ∈ path.toList := by
  rw [withoutExtension] at member
  split at member
  · rename_i last known
    split at member
    · rw [String.toList_ofList] at member
      rcases Text.mem_or_mem_of_mem_intercalate member with slash | found
      · exact absurd (List.mem_singleton.mp slash) name
      · obtain ⟨part, own, inside⟩ := found
        have kept := trimmedParts_subset path.toList
        rcases List.mem_append.mp own with early | stem
        · exact mem_of_mem_parts
            (kept ((List.dropLast_sublist _).subset early)) inside
        · obtain rfl := List.mem_singleton.mp stem
          exact mem_of_mem_parts (kept (List.mem_of_getLast? known))
            (splitName_subset last inside)
    · exact member
  · exact member

theorem withSlashes_eq {path : String} (single : '\\' ∉ path.toList) :
    withSlashes path = path := by
  rw [← String.toList_inj, withSlashes, String.toList_map]
  have kept (char : Char) (member : char ∈ path.toList) :
      (if char == '\\' then '/' else char) = char := by
    have other : char ≠ '\\' := fun same => single (same ▸ member)
    simp [other]
  rw [List.map_congr_left kept, List.map_id']

end Characters

end ScenarioRunner.Path
