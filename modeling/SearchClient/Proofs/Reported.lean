import Mathlib.Data.List.Forall2
import SearchClient.Diagnostic

/-! Lists of items that are read one by one, up to the first failure or with what is reported on each. -/

namespace SearchClient

/-! ### Items that may fail -/

section Except
variable {α β ε : Type}

theorem bind_eq_ok_iff {x : Except ε α} {f : α → Except ε β} {b : β} :
    (x >>= f) = .ok b ↔ ∃ a, x = .ok a ∧ f a = .ok b := by
  constructor
  · intro h
    cases x with
    | error e => cases h
    | ok a => exact ⟨a, rfl, h⟩
  · rintro ⟨a, rfl, h⟩
    exact h

theorem mapM_eq_ok_iff {f : α → Except ε β} {as : List α} {bs : List β} :
    as.mapM f = .ok bs ↔ List.Forall₂ (fun a b => f a = .ok b) as bs := by
  constructor
  · intro h
    induction as generalizing bs with
    | nil =>
      cases h
      exact .nil
    | cons a as ih =>
      rw [List.mapM_cons] at h
      obtain ⟨b, hb, h⟩ := bind_eq_ok_iff.mp h
      obtain ⟨bs', hbs, h⟩ := bind_eq_ok_iff.mp h
      cases h
      exact .cons hb (ih hbs)
  · intro h
    induction h with
    | nil => rfl
    | cons hb _ ih =>
      rw [List.mapM_cons, hb, ih]
      rfl

/-- The first failure is the failure of the whole. -/
theorem mapM_eq_error {f : α → Except ε β} {before after : List α} {a : α} {e : ε}
    (hbefore : ∀ a ∈ before, ∃ b, f a = .ok b) (ha : f a = .error e) : (before ++ a :: after).mapM f = .error e := by
  induction before with
  | nil =>
    rw [List.nil_append, List.mapM_cons, ha]
    rfl
  | cons a' before ih =>
    obtain ⟨⟨b, hb⟩, hbefore⟩ := List.forall_mem_cons.mp hbefore
    rw [List.cons_append, List.mapM_cons, hb, ih hbefore]
    rfl

theorem mapM_eq_ok {f : α → Except ε β} {g : α → β} {as : List α} (h : ∀ a ∈ as, f a = .ok (g a)) :
    as.mapM f = .ok (as.map g) := by
  exact mapM_eq_ok_iff.mpr (List.forall₂_map_right_iff.mpr (List.forall₂_same.mpr h))

theorem exists_ok_of_mapM {f : α → Except ε β} {as : List α} {bs : List β} (h : as.mapM f = .ok bs) {a : α}
    (ha : a ∈ as) : ∃ b, f a = .ok b := by
  have hitems := mapM_eq_ok_iff.mp h
  clear h
  induction hitems with
  | nil => cases ha
  | cons hb _ ih =>
    rcases List.mem_cons.mp ha with rfl | ha
    · exact ⟨_, hb⟩
    · exact ih ha

end Except

/-! ### Items that are reported on -/

namespace Reported
variable {α β : Type}

@[simp] theorem pure_bind (a : α) (f : α → Reported β) : (pure a >>= f) = f a := rfl

theorem bind_pure_eq (x : Reported α) (f : α → β) : (x >>= fun a => pure (f a)) = ⟨f x.value, x.diagnostics⟩ :=
  congrArg (Reported.mk (f x.value)) (List.append_nil x.diagnostics)

theorem value_filterMap (f : α → Reported (Option β)) :
    ∀ as : List α, (filterMap f as).value = as.filterMap fun a => (f a).value
  | [] => rfl
  | a :: as => by
    rw [filterMap, value_bind, value_bind, value_filterMap f as, List.filterMap_cons]
    cases (f a).value <;> rfl

theorem diagnostics_filterMap (f : α → Reported (Option β)) :
    ∀ as : List α, (filterMap f as).diagnostics = as.flatMap fun a => (f a).diagnostics
  | [] => rfl
  | a :: as => by
    rw [filterMap, diagnostics_bind, diagnostics_bind, diagnostics_filterMap f as, List.flatMap_cons]
    simp

theorem filterMap_eq (f : α → Reported (Option β)) (as : List α) :
    filterMap f as = ⟨as.filterMap fun a => (f a).value, as.flatMap fun a => (f a).diagnostics⟩ := by
  rw [← value_filterMap, ← diagnostics_filterMap]

theorem mem_value_filterMap {f : α → Reported (Option β)} {as : List α} {b : β} :
    b ∈ (filterMap f as).value ↔ ∃ a ∈ as, (f a).value = some b := by
  rw [value_filterMap, List.mem_filterMap]

/-- If each item is read back from what was made of it, all of them are. -/
theorem filterMap_map {f : β → Reported (Option α)} {g : α → β} :
    ∀ {as : List α}, (∀ a ∈ as, f (g a) = pure (some a)) → filterMap f (as.map g) = pure as
  | [], _ => rfl
  | a :: as, h => by
    rw [List.map_cons, filterMap, h a (List.mem_cons_self ..), pure_bind,
      filterMap_map fun a ha => h a (List.mem_cons_of_mem _ ha)]
    rfl

end Reported
end SearchClient
