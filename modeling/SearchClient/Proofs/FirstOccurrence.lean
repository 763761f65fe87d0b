import Mathlib.Data.List.Induction
import Mathlib.Data.List.Nodup

/-! The first occurrences of the elements of a list, in order. -/

namespace SearchClient
variable {α : Type} [DecidableEq α]

theorem eraseDups_append_singleton (as : List α) (a : α) :
    (as ++ [a]).eraseDups = if a ∈ as then as.eraseDups else as.eraseDups ++ [a] := by
  rw [List.eraseDups_append, List.removeAll]
  by_cases h : a ∈ as <;> simp [h, List.eraseDups_cons]

theorem nodup_eraseDups (as : List α) : as.eraseDups.Nodup := by
  induction as using List.reverseRecOn with
  | nil => simp
  | append_singleton as a ih =>
    rw [eraseDups_append_singleton]
    split
    · exact ih
    · next h =>
      rw [← List.concat_eq_append]
      exact ih.concat (mt List.mem_eraseDups.mp h)

theorem eraseDups_of_nodup {as : List α} (h : as.Nodup) : as.eraseDups = as := by
  induction as using List.reverseRecOn with
  | nil => rfl
  | append_singleton as a ih =>
    obtain ⟨has, -, hdisjoint⟩ := List.nodup_append.mp h
    rw [eraseDups_append_singleton, ih has, if_neg fun hmem => hdisjoint a hmem a (List.mem_singleton_self a) rfl]

theorem eraseDups_filter (p : α → Bool) (as : List α) : (as.filter p).eraseDups = as.eraseDups.filter p := by
  induction as using List.reverseRecOn with
  | nil => rfl
  | append_singleton as a ih =>
    rw [List.filter_append, eraseDups_append_singleton]
    by_cases ha : p a = true
    · rw [List.filter_cons_of_pos ha, List.filter_nil, eraseDups_append_singleton, ih]
      by_cases hmem : a ∈ as <;> simp [hmem, ha]
    · rw [List.filter_cons_of_neg ha, List.filter_nil, List.append_nil, ih]
      by_cases hmem : a ∈ as <;> simp [hmem, ha]

end SearchClient
