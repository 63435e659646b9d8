import Mathlib.Data.List.Forall2
import Mathlib.Data.List.Nodup
import ScenarioRunner.Feature.Numbering

/-!
# Computations that draw numbers

Two things are said about computations that draw numbers, without unfolding
them.  `Ensures` says what holds of every result.  `Draws` says which
identifiers a result shows: exactly the numbers that are drawn, in order.

Identifiers that have been drawn are `Numbered`: they are distinct, and below
the next number.  They stay so with the numbers that are drawn next.
-/

namespace ScenarioRunner

/-- Identifiers are distinct and below the next one. -/
structure Numbered (next : Nat) (identifiers : List Nat) : Prop where
  distinct : identifiers.Nodup
  below : ∀ id ∈ identifiers, id < next

namespace Numbered

variable {next : Nat}

theorem nil (next : Nat) : Numbered next [] where
  distinct := List.nodup_nil
  below := List.forall_mem_nil _

theorem mono {identifiers : List Nat} {later : Nat}
    (numbered : Numbered next identifiers) (advanced : next ≤ later) :
    Numbered later identifiers where
  distinct := numbered.distinct
  below := fun id member =>
    Nat.lt_of_lt_of_le (numbered.below id member) advanced

/-- The numbers that are drawn next may be put in anywhere. -/
theorem insert (front back : List Nat)
    (numbered : Numbered next (front ++ back)) (count : Nat) :
    Numbered (next + count)
      (front ++ List.range' next count ++ back) := by
  have moved :
      List.Perm (List.range' next count ++ (front ++ back))
        (front ++ List.range' next count ++ back) := by
    rw [← List.append_assoc]
    exact List.perm_append_comm.append_right back
  -- In front of what is known, the drawn numbers are above all of it.
  constructor
  · rw [← moved.nodup_iff, List.nodup_append]
    refine ⟨List.nodup_range', numbered.distinct, ?_⟩
    intro drawn fresh known member same
    have lower := (List.mem_range'_1.mp fresh).1
    have upper := numbered.below known member
    omega
  · intro id member
    rcases List.mem_append.mp (moved.mem_iff.mpr member) with drawn | known
    · exact (List.mem_range'_1.mp drawn).2
    · exact Nat.lt_add_right count (numbered.below id known)

theorem append {identifiers : List Nat}
    (numbered : Numbered next identifiers) (count : Nat) :
    Numbered (next + count)
      (identifiers ++ List.range' next count) := by
  have whole : Numbered next (identifiers ++ []) := by
    rwa [List.append_nil]
  simpa using insert identifiers [] whole count

theorem prepend {identifiers : List Nat}
    (numbered : Numbered next identifiers) (count : Nat) :
    Numbered (next + count)
      (List.range' next count ++ identifiers) :=
  insert [] identifiers numbered count

end Numbered

namespace Numbering

variable {First Second : Type}

/-- Every result of a computation has a property. -/
def Ensures (computation : Numbering First) (property : First → Prop) :
    Prop :=
  ∀ next, property (computation.run next).1

/--
The identifiers read off the result of a computation are given ones, followed
by exactly the numbers that it draws.
-/
def Draws (given : List Nat) (computation : Numbering First)
    (identifiers : First → List Nat) : Prop :=
  ∀ next, ∃ count,
    (computation.run next).2 = next + count ∧
      identifiers (computation.run next).1 =
        given ++ List.range' next count

theorem Ensures.pure {value : First} {property : First → Prop}
    (holds : property value) :
    Ensures (Pure.pure value) property :=
  fun _ => holds

theorem Ensures.trivial (computation : Numbering First) :
    Ensures computation (fun _ => True) :=
  fun _ => True.intro

theorem Ensures.bind
    {computation : Numbering First} {next : First → Numbering Second}
    {early : First → Prop} {late : Second → Prop}
    (first : Ensures computation early)
    (second : ∀ value, early value → Ensures (next value) late) :
    Ensures (computation >>= next) late := by
  intro number
  exact second _ (first number) _

theorem Ensures.imp {computation : Numbering First}
    {early late : First → Prop} (ensures : Ensures computation early)
    (implies : ∀ value, early value → late value) :
    Ensures computation late := by
  intro number
  exact implies _ (ensures number)

/-- What each computation ensures holds of all their results. -/
theorem Ensures.mapM
    {values : List First} {compute : First → Numbering Second}
    {property : Second → Prop}
    (each : ∀ value ∈ values, Ensures (compute value) property) :
    Ensures (values.mapM compute)
      (fun results => ∀ result ∈ results, property result) := by
  induction values with
  | nil =>
      rw [List.mapM_nil]
      exact .pure (by simp)
  | cons value others ih =>
      rw [List.mapM_cons]
      refine .bind (each value (by simp)) fun result holds => ?_
      refine .bind (ih fun other member => each other (by simp [member]))
        fun results all => ?_
      exact .pure (List.forall_mem_cons.mpr ⟨holds, all⟩)

/-- Results that agree with what they are computed from agree in order. -/
theorem Ensures.mapM_map {Shown : Type}
    {values : List First} {compute : First → Numbering Second}
    {shown : Second → Shown} {expected : First → Shown}
    (each : ∀ value,
      Ensures (compute value)
        (fun result => shown result = expected value)) :
    Ensures (values.mapM compute)
      (fun results => results.map shown = values.map expected) := by
  induction values with
  | nil =>
      rw [List.mapM_nil]
      exact .pure rfl
  | cons value others ih =>
      rw [List.mapM_cons]
      refine .bind (each value) fun result agrees => ?_
      refine .bind ih fun results all => ?_
      exact .pure (by simp [agrees, all])

/-- Results are related in order to what they are computed from. -/
theorem Ensures.mapM_forall₂
    {values : List First} {compute : First → Numbering Second}
    {relation : First → Second → Prop}
    (each : ∀ value ∈ values, Ensures (compute value) (relation value)) :
    Ensures (values.mapM compute)
      (fun results => List.Forall₂ relation values results) := by
  induction values with
  | nil =>
      rw [List.mapM_nil]
      exact .pure .nil
  | cons value others ih =>
      rw [List.mapM_cons]
      refine .bind (each value (by simp)) fun result related => ?_
      refine .bind (ih fun other member => each other (by simp [member]))
        fun results all => ?_
      exact .pure (.cons related all)

theorem Draws.pure {given : List Nat} {value : First}
    {identifiers : First → List Nat}
    (known : identifiers value = given) :
    Draws given (Pure.pure value) identifiers := by
  intro next
  exact ⟨0, rfl, known.trans (List.append_nil given).symm⟩

theorem Draws.fresh : Draws [] Numbering.fresh (fun id => [id]) := by
  intro next
  exact ⟨1, rfl, rfl⟩

/-- Identifiers that are known already may stand in front. -/
theorem Draws.after {computation : Numbering First}
    {identifiers : First → List Nat}
    (draws : Draws [] computation identifiers) (given : List Nat) :
    Draws given computation (fun value => given ++ identifiers value) := by
  intro next
  obtain ⟨count, advanced, drawn⟩ := draws next
  exact ⟨count, advanced, by simp [drawn]⟩

theorem Draws.bind
    {given : List Nat} {computation : Numbering First}
    {next : First → Numbering Second} {early : First → List Nat}
    {late : Second → List Nat}
    (first : Draws given computation early)
    (second : ∀ value, Draws (early value) (next value) late) :
    Draws given (computation >>= next) late := by
  intro number
  obtain ⟨firstCount, firstAdvanced, firstDrawn⟩ := first number
  obtain ⟨secondCount, secondAdvanced, secondDrawn⟩ :=
    second (computation.run number).1 (computation.run number).2
  refine ⟨firstCount + secondCount, ?_, ?_⟩
  · calc ((computation >>= next).run number).2
      _ = (computation.run number).2 + secondCount := secondAdvanced
      _ = number + (firstCount + secondCount) := by
          rw [firstAdvanced, Nat.add_assoc]
  · calc late ((computation >>= next).run number).1
      _ = early (computation.run number).1 ++
            List.range' (computation.run number).2 secondCount :=
          secondDrawn
      _ = given ++ List.range' number (firstCount + secondCount) := by
          rw [firstDrawn, firstAdvanced, List.append_assoc,
            ← List.range'_append_1]

theorem Draws.map {given : List Nat} {computation : Numbering First}
    {change : First → Second} {early : First → List Nat}
    {late : Second → List Nat} (draws : Draws given computation early)
    (same : ∀ value, late (change value) = early value) :
    Draws given (change <$> computation) late := by
  rw [map_eq_pure_bind]
  exact .bind draws fun value => .pure (same value)

/-- A computation for a value that may be missing draws nothing if it is. -/
theorem Draws.mapM_option
    {value : Option First} {compute : First → Numbering Second}
    {identifiers : Second → List Nat}
    (each : ∀ value, Draws [] (compute value) identifiers) :
    Draws [] (value.mapM compute)
      (fun result => result.toList.flatMap identifiers) := by
  cases value with
  | none => exact .pure rfl
  | some value =>
      rw [Option.mapM_some]
      exact .map (each value) fun result => by simp

/-- Computations that follow each other draw one after the other. -/
theorem Draws.mapM
    {values : List First} {compute : First → Numbering Second}
    {identifiers : Second → List Nat}
    (each : ∀ value, Draws [] (compute value) identifiers) :
    Draws [] (values.mapM compute)
      (fun results => results.flatMap identifiers) := by
  induction values with
  | nil =>
      rw [List.mapM_nil]
      exact .pure rfl
  | cons value others ih =>
      rw [List.mapM_cons]
      refine .bind (each value) fun result => ?_
      refine .bind (ih.after (identifiers result)) fun results => ?_
      exact .pure (by simp)

end Numbering

end ScenarioRunner
