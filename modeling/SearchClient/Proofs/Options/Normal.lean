import SearchClient.Proofs.Filter
import SearchClient.Proofs.Options.Coercion

/-! Normalizing typed options again. Each coercion gives back what was rendered from its own results, and typed options
    are in a normal form, from which no default and no filter of another shape can come back; so options that are read
    off by name are normalized to themselves, and nothing is reported. -/

namespace SearchClient

/-! ### Options read off by name -/

namespace SearchOptions

/-- The options of a caller who supplies all that typed options give by name. -/
def toRaw (options : SearchOptions) : RawOptions :=
  .ofList (recognizedKeys.filterMap fun name => (options.get? name).map (name, ·))

section Names
variable {options : SearchOptions} {name : String} {value : RawValue}

theorem mem_recognizedKeys_of_get? (h : options.get? name = some value) : name ∈ recognizedKeys := by
  unfold get? at h
  split at h <;> first | decide | cases h

theorem isNull_of_get? (h : options.get? name = some value) : value.isNull = false := by
  unfold get? at h
  split at h
  case h_6 =>
    obtain ⟨_, -, rfl⟩ := Option.map_eq_some_iff.mp h
    rfl
  all_goals cases h <;> rfl

@[simp] theorem get?_toRaw : options.toRaw.get? name = options.get? name := by
  rw [toRaw, SortedMap.get?_ofList_filterMap]
  split
  · rfl
  · next hname =>
    exact (Option.eq_none_iff_forall_not_mem.mpr fun value hvalue => hname (mem_recognizedKeys_of_get? hvalue)).symm

@[simp] theorem value?_toRaw : options.toRaw.value? name = options.get? name := by
  rw [RawOptions.value?, get?_toRaw]
  cases h : options.get? name with
  | none => rfl
  | some value => simp [Option.filter, isNull_of_get? h]

theorem foldAliases_toRaw : options.toRaw.foldAliases = options.toRaw := by
  refine foldl_foldAlias_eq_self fun entry hentry => ?_
  simp only [legacyAliases, List.mem_cons, List.not_mem_nil, or_false] at hentry
  rcases hentry with rfl | rfl | rfl | rfl <;> rw [get?_toRaw] <;> rfl

theorem unknownKeys_toRaw : options.toRaw.unknownKeys = [] := by
  refine List.filter_eq_nil_iff.mpr fun name hname => ?_
  obtain ⟨value, hvalue⟩ := SortedMap.mem_keys_iff.mp hname
  simpa using mem_recognizedKeys_of_get? (get?_toRaw ▸ hvalue)

end Names

/-! ### Coercions of rendered values -/

theorem coerceCount_int (key : String) {n default : Nat} (hpos : 1 ≤ n) (hfits : n ≤ Int64.maxValue.toInt) :
    coerceCount key (some (.int (Int64.ofNat n))) default = pure n := by
  have hint : (Int64.ofNat n).toInt = n := Int64.toInt_ofNat_of_lt (by rw [Int64.toInt_maxValue] at hfits; omega)
  show pure (max (Int64.ofNat n).toInt.toNat 1) = _
  rw [hint, Int.toNat_natCast, Nat.max_eq_left hpos]

theorem coerceNames_list (key : String) (names : List String) :
    coerceNames key (some (.list (names.map .str))) = pure (some names) := by
  have hnames : Reported.filterMap (coerceName key) (names.map .str) = pure names :=
    Reported.filterMap_map fun _ _ => rfl
  rw [coerceNames, hnames]
  rfl

theorem coerceWeights_map (weights : Dict Double) :
    coerceWeights (some (.map (weights.mapValues RawValue.float).toList)) = pure (some weights) := by
  have hweights : Reported.filterMap coerceWeight (weights.mapValues RawValue.float).toList = pure weights.toList :=
    Reported.filterMap_map fun _ _ => rfl
  rw [coerceWeights, RawValue.dict_toList, hweights, Reported.pure_bind, SortedMap.ofList_toList]

theorem coerceFilters_map {filters : Dict Filter}
    (h : ∀ field filter, filters.get? field = some filter → Filter.ofRaw? filter.toRaw = some filter) :
    coerceFilters (some (.map (filters.mapValues Filter.toRaw).toList)) = pure (some filters) := by
  have hfilters : Reported.filterMap coerceFilter (filters.mapValues Filter.toRaw).toList = pure filters.toList :=
    Reported.filterMap_map fun e he => by
      rw [coerceFilter, h e.1 e.2 (SortedMap.get?_eq_some_iff.mpr he)]
  rw [coerceFilters, RawValue.dict_toList, coerceFilterMap, hfilters, Reported.pure_bind, SortedMap.ofList_toList]
  rfl

/-! ### Normal forms -/

/-- What holds of all typed options over given defaults: counts are positive and fit 64 bits with a sign, an attribute
    to sort by is set if the defaults have one, and filters were read from values. -/
structure Normal (defaults : QueryDefaults) (options : SearchOptions) : Prop where
  page : 1 ≤ options.page ∧ options.page ≤ Int64.maxValue.toInt
  perPage : 1 ≤ options.perPage ∧ options.perPage ≤ Int64.maxValue.toInt
  sortBy : options.sortBy = none → defaults.sortBy = none
  filters : ∀ field filter, options.filters.get? field = some filter → ∃ value, Filter.ofRaw? value = some filter

theorem readCount_bounds (value : Option RawValue) {default : Nat} (h : default ≤ Int64.maxValue.toInt) :
    1 ≤ readCount value default ∧ readCount value default ≤ Int64.maxValue.toInt := by
  unfold readCount
  cases value.bind RawValue.int64? with
  | none =>
    show 1 ≤ max default 1 ∧ (max default 1 : Nat) ≤ Int64.maxValue.toInt
    rw [Int64.toInt_maxValue] at h ⊢
    omega
  | some n =>
    have hn : n.toInt ≤ Int64.maxValue.toInt := n.toInt_le
    show 1 ≤ max n.toInt.toNat 1 ∧ (max n.toInt.toNat 1 : Nat) ≤ Int64.maxValue.toInt
    rw [Int64.toInt_maxValue] at hn ⊢
    omega

theorem normal_reading {defaults : QueryDefaults} (hpage : defaults.page ≤ Int64.maxValue.toInt)
    (hperPage : defaults.perPage ≤ Int64.maxValue.toInt) (raw : RawOptions) :
    (reading defaults raw).Normal defaults where
  page := readCount_bounds _ hpage
  perPage := readCount_bounds _ hperPage
  sortBy hnone := by
    have hnone : ((raw.value? "sort_by").bind RawValue.str? <|> defaults.sortBy) = none := hnone
    rw [Option.orElse_eq_orElse, Option.orElse_eq_or, Option.or_eq_none_iff] at hnone
    exact hnone.2
  filters field filter hfilter := by
    rw [reading, SortedMap.get?_filterMap] at hfilter
    obtain ⟨value, -, hvalue⟩ := Option.bind_eq_some_iff.mp hfilter
    exact ⟨value, hvalue⟩

/-- Options in normal form that are read off by name are normalized to themselves, and nothing is reported. -/
theorem normalize_toRaw {defaults : QueryDefaults} {options : SearchOptions} (h : options.Normal defaults) :
    normalize defaults options.toRaw = pure options := by
  have hquery : coerceQuery (options.get? "query") = pure options.query := rfl
  have hpage : coerceCount "page" (options.get? "page") defaults.page = pure options.page :=
    coerceCount_int "page" h.page.1 h.page.2
  have hperPage : coerceCount "per_page" (options.get? "per_page") defaults.perPage = pure options.perPage :=
    coerceCount_int "per_page" h.perPage.1 h.perPage.2
  have hclassNames : coerceNames "class_names" (options.get? "class_names") = pure (some options.classNames) :=
    coerceNames_list "class_names" options.classNames
  have hsortMode : coerceText "sort_mode" (options.get? "sort_mode") = pure (some options.sortMode) := rfl
  have hsortBy : coerceText "sort_by" (options.get? "sort_by") = pure options.sortBy := by
    show coerceText "sort_by" (options.sortBy.map .str) = _
    cases options.sortBy <;> rfl
  have hweights : coerceWeights (options.get? "weights") = pure (some options.weights) :=
    coerceWeights_map options.weights
  have hfilters : coerceFilters (options.get? "filters") = pure (some options.filters) :=
    coerceFilters_map fun field filter hfilter => by
      obtain ⟨value, hvalue⟩ := h.filters field filter hfilter
      exact Filter.ofRaw?_toRaw hvalue
  have hfacets : coerceNames "facets" (options.get? "facets") = pure (some options.facets) :=
    coerceNames_list "facets" options.facets
  have hdefault : (options.sortBy <|> defaults.sortBy) = options.sortBy := by
    cases hnone : options.sortBy with
    | none => exact h.sortBy hnone
    | some text => rfl
  rw [normalize, foldAliases_toRaw, coerce, unknownKeys_toRaw]
  simp only [value?_toRaw, hquery, hpage, hperPage, hclassNames, hsortMode, hsortBy, hweights, hfilters, hfacets,
    Reported.pure_bind, Option.getD_some, hdefault]
  rfl

/-- Typed options are a fixed point of normalization: read off by name and normalized again over the same defaults they
    are the same, and nothing is reported. -/
theorem normalize_normalize {defaults : QueryDefaults} (hpage : defaults.page ≤ Int64.maxValue.toInt)
    (hperPage : defaults.perPage ≤ Int64.maxValue.toInt) (raw : RawOptions) :
    normalize defaults (normalize defaults raw).value.toRaw = ⟨(normalize defaults raw).value, []⟩ := by
  have hvalue : (normalize defaults raw).value = reading defaults raw.foldAliases := by rw [normalize, coerce_eq]
  rw [hvalue]
  exact normalize_toRaw (normal_reading hpage hperPage raw.foldAliases)

/-- Options with an older name, a page out of range, a query that is no text, a range given as a text, a filter without
    a value and an unknown name. -/
def dogsByAlias : RawOptions :=
  .ofList [("class_name", .str "Dog"), ("page", .str "0"), ("query", .int 7), ("limit", .int 5),
    ("filters", .map [("age", .str "1..5"), ("breed", .null)])]

/-- Normalizing `dogsByAlias` a second time changes nothing. -/
theorem normalize_normalize_dogsByAlias :
    ({} : QueryDefaults).page ≤ Int64.maxValue.toInt ∧ ({} : QueryDefaults).perPage ≤ Int64.maxValue.toInt ∧
      normalize {} (normalize {} dogsByAlias).value.toRaw = ⟨(normalize {} dogsByAlias).value, []⟩ :=
  ⟨by decide, by decide, normalize_normalize (by decide) (by decide) dogsByAlias⟩

end SearchOptions
end SearchClient
