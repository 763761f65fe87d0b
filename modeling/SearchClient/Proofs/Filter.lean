import SearchClient.Proofs.SortedMap
import SearchClient.Value.Filter

/-! The shapes of filters. Nothing but the shape of a value tells which filter it gives, and a text may stand for a
range or for itself. So a filter is read back from the value that it is rendered as exactly if it does not compare with
a text that reads as a range; and these are the filters that values give. -/

namespace SearchClient

/-! ### Single values -/

namespace Scalar

@[simp] theorem ofRaw?_toRaw (value : Scalar) : Scalar.ofRaw? value.toRaw = some value := by
  cases value <;> rfl

def isNaN : Scalar → Bool
  | .float x => x.isNaN
  | _ => false

@[simp] theorem same_self (value : Scalar) : value.same value = !value.isNaN := by
  cases value with
  | float x => cases x <;> simp [same, Double.same, isNaN, Double.isNaN]
  | _ => simp [same, isNaN]

end Scalar

namespace Filter

def scalars : Filter → List Scalar
  | .equals value => [value]
  | .anyOf values => values
  | .range min max => [min, max]

/-- No value of a filter is NaN, which differs from itself. -/
def NaNFree (filter : Filter) : Prop := ∀ value ∈ filter.scalars, value.isNaN = false

theorem same_self_iff {filter : Filter} : filter.same filter = true ↔ filter.NaNFree := by
  cases filter with
  | equals value => simp [same, NaNFree, scalars]
  | anyOf values =>
    have hzip : values.zip values = values.map fun value => (value, value) := by
      induction values with
      | nil => rfl
      | cons value values ih => simp [ih]
    simp [same, NaNFree, scalars, hzip]
  | range min max => simp [same, NaNFree, scalars]

/-! ### Texts that read as ranges -/

/-- A filter that compares with a text, although the text reads as a range. -/
def HidesRange (filter : Filter) : Prop := ∃ text range, filter = .equals (.str text) ∧ range? text = some range

theorem exists_range_of_range? {text : String} {filter : Filter} (h : range? text = some filter) :
    ∃ min max, filter = .range min max := by
  simp only [range?, Option.bind_eq_bind, Option.bind_eq_some_iff] at h
  obtain ⟨_, -, min, -, max, -, h⟩ := h
  exact ⟨min, max, (Option.some.inj h).symm⟩

/-- Only a text that gives no range is compared as a text. -/
theorem range?_of_ofRaw?_equals {value : RawValue} {text : String}
    (h : Filter.ofRaw? value = some (.equals (.str text))) : range? text = none := by
  cases value with
  | str s =>
    have hfilter := Option.some.inj h
    cases hrange : range? s with
    | none =>
      rw [hrange] at hfilter
      cases hfilter
      exact hrange
    | some filter =>
      obtain ⟨min, max, rfl⟩ := exists_range_of_range? hrange
      rw [hrange] at hfilter
      cases hfilter
  | list items =>
    obtain ⟨_, -, h⟩ := Option.map_eq_some_iff.mp h
    cases h
  | map entries =>
    simp only [ofRaw?, Option.bind_eq_bind, Option.bind_eq_some_iff] at h
    obtain ⟨_, -, _, -, h⟩ := h
    cases h
  | _ => cases h

theorem not_hidesRange_of_ofRaw? {value : RawValue} {filter : Filter} (h : Filter.ofRaw? value = some filter) :
    ¬filter.HidesRange := by
  rintro ⟨text, range, rfl, hrange⟩
  rw [range?_of_ofRaw?_equals h] at hrange
  cases hrange

theorem ofRaw?_str_of_range? {text : String} {range : Filter} (h : range? text = some range) :
    Filter.ofRaw? (.str text) = some range := by
  rw [ofRaw?, h, Option.getD_some]

/-! ### From filters to values and back -/

theorem ofRaw?_list_toRaw (values : List Scalar) :
    Filter.ofRaw? (.list (values.map Scalar.toRaw)) = some (.anyOf values) := by
  have hvalues : Scalar.ofRaw? ∘ Scalar.toRaw = fun value => pure (id value) := funext Scalar.ofRaw?_toRaw
  show ((values.map Scalar.toRaw).mapM Scalar.ofRaw?).map Filter.anyOf = _
  rw [List.mapM_map, hvalues, List.mapM_pure, List.map_id]
  rfl

theorem ofRaw?_toRaw_of_not_hidesRange {filter : Filter} (h : ¬filter.HidesRange) :
    Filter.ofRaw? filter.toRaw = some filter := by
  cases filter with
  | equals value =>
    cases value with
    | str text =>
      have hrange : range? text = none :=
        Option.eq_none_iff_forall_not_mem.mpr fun range hrange => h ⟨text, range, rfl, hrange⟩
      show some ((range? text).getD _) = _
      rw [hrange]
      rfl
    | _ => rfl
  | anyOf values => exact ofRaw?_list_toRaw values
  | range min max =>
    have hbounds : RawValue.dict [("max", max.toRaw), ("min", min.toRaw)] =
        (SortedMap.empty.insert "max" max.toRaw).insert "min" min.toRaw := rfl
    simp [toRaw, ofRaw?, hbounds, SortedMap.get?_insert]

/-- A filter that was read from a value is read from the value that it is rendered as. -/
theorem ofRaw?_toRaw {value : RawValue} {filter : Filter} (h : Filter.ofRaw? value = some filter) :
    Filter.ofRaw? filter.toRaw = some filter := ofRaw?_toRaw_of_not_hidesRange (not_hidesRange_of_ofRaw? h)

theorem any_same_ofRaw?_toRaw_iff {filter : Filter} :
    (Filter.ofRaw? filter.toRaw).any (·.same filter) = true ↔ filter.NaNFree ∧ ¬filter.HidesRange := by
  by_cases hhides : filter.HidesRange
  · obtain ⟨text, range, rfl, hrange⟩ := hhides
    obtain ⟨min, max, rfl⟩ := exists_range_of_range? hrange
    -- The range that is read instead is no equality, whatever its bounds are.
    have hread : Filter.ofRaw? (equals (.str text)).toRaw = some (.range min max) := ofRaw?_str_of_range? hrange
    have hhides : (equals (.str text)).HidesRange := ⟨text, _, rfl, hrange⟩
    simp [hread, same, hhides]
  · rw [ofRaw?_toRaw_of_not_hidesRange hhides, Option.any_some, same_self_iff, and_iff_left hhides]

/-- A filter is read back from its rendering, as the same filter, exactly if it does not compare with a text that reads
    as a range, and exactly these filters are given by values at all. If filters are compared by their numbers, it is
    read back exactly if it is free of NaN as well. -/
theorem shape_round_trip (filter : Filter) :
    (Filter.ofRaw? filter.toRaw = some filter ↔ ¬filter.HidesRange) ∧
    ((∃ value, Filter.ofRaw? value = some filter) ↔ ¬filter.HidesRange) ∧
    ((Filter.ofRaw? filter.toRaw).any (·.same filter) = true ↔ filter.NaNFree ∧ ¬filter.HidesRange) := by
  refine ⟨⟨not_hidesRange_of_ofRaw?, ofRaw?_toRaw_of_not_hidesRange⟩, ⟨?_, fun h => ?_⟩, any_same_ofRaw?_toRaw_iff⟩
  · rintro ⟨value, hvalue⟩
    exact not_hidesRange_of_ofRaw? hvalue
  · exact ⟨filter.toRaw, ofRaw?_toRaw_of_not_hidesRange h⟩

/-- The text that the range is read from does not come back as a text. -/
example : Filter.ofRaw? (Filter.equals (.str "1..5")).toRaw = some (.range (.int 1) (.int 5)) := by decide +kernel

end Filter
end SearchClient
