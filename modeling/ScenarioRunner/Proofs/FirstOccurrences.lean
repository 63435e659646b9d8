import Mathlib.Data.List.Induction
import Mathlib.Data.List.Nodup

/-!
# First occurrences

Of equal members of a list the first is kept and all others are dropped.
-/

namespace ScenarioRunner

variable {Key : Type} [DecidableEq Key]

theorem eraseDups_concat (known : List Key) (key : Key) :
    (known ++ [key]).eraseDups =
      if key ∈ known then known.eraseDups
      else known.eraseDups ++ [key] := by
  rw [List.eraseDups_append]
  by_cases member : key ∈ known <;>
    simp [List.removeAll, member, List.eraseDups_cons]

theorem nodup_eraseDups (keys : List Key) : keys.eraseDups.Nodup := by
  induction keys using List.reverseRecOn with
  | nil => exact List.nodup_nil
  | append_singleton known key ih =>
      rw [eraseDups_concat]
      split
      · exact ih
      · rename_i fresh
        refine List.nodup_append.mpr ⟨ih, List.nodup_singleton key, ?_⟩
        intro old member new among same
        apply fresh
        rw [← List.mem_singleton.mp among, ← same]
        exact List.mem_eraseDups.mp member

theorem eraseDups_filter (keys : List Key) (property : Key → Bool) :
    (keys.filter property).eraseDups = keys.eraseDups.filter property := by
  induction keys using List.reverseRecOn with
  | nil => rfl
  | append_singleton known key ih =>
      rw [List.filter_append, eraseDups_concat]
      cases holds : property key with
      | false => split <;> simp [holds, ih]
      | true =>
          rw [List.filter_cons_of_pos holds, List.filter_nil,
            eraseDups_concat, ih]
          by_cases member : key ∈ known <;> simp [member, holds]

/-- The keys that are new come behind those that are known. -/
theorem eraseDups_append_new (known new : List Key) :
    (known ++ new).eraseDups =
      known.eraseDups ++ new.eraseDups.filter (· ∉ known.eraseDups) := by
  rw [List.eraseDups_append, List.removeAll, eraseDups_filter]
  simp

end ScenarioRunner
