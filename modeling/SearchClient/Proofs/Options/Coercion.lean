import SearchClient.Options.Normalize
import SearchClient.Proofs.Reported
import SearchClient.Proofs.SortedMap

/-! What normalization uses and what it drops. The options that a caller supplies come in pieces, each of which is used
or dropped as a whole: the unknown names all together, the value of an option, an entry of a list or of a map. Each
piece that is dropped is reported once, in the order of the options; each other piece stands in the typed options; and
an option that is not supplied, or refused as a whole, has its default. -/

namespace SearchClient

namespace RawValue

/-- The text that a value gives as a query. -/
def queryText? : RawValue → Option String
  | .str s => some s
  | .int n => some (toString n.toInt)
  | .float x => some x.text
  | _ => none

/-- The entries of a list of names; a text stands for a list with one entry. -/
def listed? : RawValue → Option (List RawValue)
  | .str s => some [.str s]
  | .list items => some items
  | _ => none

def entries? : RawValue → Option (Dict RawValue)
  | .map entries => some (dict entries)
  | _ => none

theorem dict_toList (values : Dict RawValue) : dict values.toList = values := SortedMap.ofList_toList values

end RawValue

namespace SearchOptions

/-! ### The options without reports -/

def readCount (value : Option RawValue) (default : Nat) : Nat :=
  max (((value.bind RawValue.int64?).map fun n => n.toInt.toNat).getD default) 1

def readNames (value : Option RawValue) (default : List String) : List String :=
  ((value.bind RawValue.listed?).map fun entries => entries.filterMap RawValue.str?).getD default

/-- The typed options: what can be read from each value, and else the default. -/
def reading (defaults : QueryDefaults) (raw : RawOptions) : SearchOptions where
  query := ((raw.value? "query").bind RawValue.queryText?).getD ""
  page := readCount (raw.value? "page") defaults.page
  perPage := readCount (raw.value? "per_page") defaults.perPage
  classNames := readNames (raw.value? "class_names") defaults.classNames
  sortMode := ((raw.value? "sort_mode").bind RawValue.str?).getD defaults.sortMode
  sortBy := (raw.value? "sort_by").bind RawValue.str? <|> defaults.sortBy
  weights := (((raw.value? "weights").bind RawValue.entries?).map fun entries =>
    entries.filterMap fun _ value => value.double?).getD defaults.weights
  filters := (((raw.value? "filters").bind RawValue.entries?).getD defaults.filters).filterMap fun _ value =>
    Filter.ofRaw? value
  facets := readNames (raw.value? "facets") defaults.facets

/-! ### Pieces -/

/-- A piece of the options: the names that are no options, a value, or an entry of a list or of a map. -/
inductive Piece where
  | unknown (keys : List String)
  | query (value : RawValue)
  | count (key : String) (value : RawValue)
  | text (key : String) (value : RawValue)
  | names (key : String) (value : RawValue)
  | name (key : String) (entry : RawValue)
  | weights (value : RawValue)
  | weight (field : String) (value : RawValue)
  | filters (value : RawValue)
  | filter (field : String) (value : RawValue)

namespace Piece

def isUsable : Piece → Bool
  | .unknown _ => false
  | .query value => value.queryText?.isSome
  | .count _ value => value.int64?.isSome
  | .text _ value | .name _ value => value.str?.isSome
  | .names _ value => value.listed?.isSome
  | .weights value | .filters value => value.entries?.isSome
  | .weight _ value => value.double?.isSome
  | .filter _ value => (Filter.ofRaw? value).isSome

def diagnostic : Piece → Diagnostic
  | .unknown keys => .unknownOptions keys
  | .query _ => .queryNotText
  | .count key _ => .optionNotInteger key
  | .text key _ => .optionNotString key
  | .names key _ => .optionNotNames key
  | .name key _ => .entryNotString key
  | .weights _ => .weightsNotMap
  | .weight field _ => .weightNotNumber field
  | .filters _ => .filtersNotMap
  | .filter field _ => .filterUnusable field

/-- A piece stands in typed options in its coerced form: a list or a map with those of its entries that can be used. -/
def IsIn (options : SearchOptions) : Piece → Prop
  | .unknown _ => False
  | .query value => value.queryText? = some options.query
  | .count key value => ∃ n, value.int64? = some n ∧ options.get? key = some (.int (max n 1))
  | .text key value => options.get? key = some value
  | .names key value => ∃ entries, value.listed? = some entries ∧
      options.get? key = some (.list (entries.filter fun entry => entry.str?.isSome))
  | .name key entry => ∃ entries, options.get? key = some (.list entries) ∧ entry ∈ entries
  | .weights value => ∃ entries, value.entries? = some entries ∧
      options.weights = entries.filterMap fun _ value => value.double?
  | .weight field value => ∃ weight, value.double? = some weight ∧ options.weights.get? field = some weight
  | .filters value => ∃ entries, value.entries? = some entries ∧
      options.filters = entries.filterMap fun _ value => Filter.ofRaw? value
  | .filter field value => ∃ filter, Filter.ofRaw? value = some filter ∧ options.filters.get? field = some filter

/-- The reports of the pieces that cannot be used, in order. -/
def reports (pieces : List Piece) : List Diagnostic := (pieces.filter fun piece => !piece.isUsable).map diagnostic

@[simp] theorem reports_append (before after : List Piece) :
    reports (before ++ after) = reports before ++ reports after := by
  simp [reports]

theorem reports_eq_nil_iff {pieces : List Piece} : reports pieces = [] ↔ ∀ piece ∈ pieces, piece.isUsable = true := by
  simp [reports]

/-- Pieces made from items are reported like the items themselves. -/
theorem reports_map {α : Type} {piece : α → Piece} {ds : α → List Diagnostic}
    (h : ∀ a, ds a = reports [piece a]) (as : List α) : as.flatMap ds = reports (as.map piece) := by
  induction as with
  | nil => rfl
  | cons a as ih => rw [List.flatMap_cons, h, ih, List.map_cons, ← reports_append, List.singleton_append]

end Piece

def namePieces (key : String) (value : Option RawValue) : List Piece :=
  value.toList.map (.names key) ++ ((value.bind RawValue.listed?).getD []).map (.name key)

def weightPieces (value : Option RawValue) : List Piece :=
  value.toList.map .weights ++ ((value.bind RawValue.entries?).getD .empty).toList.map fun e => .weight e.1 e.2

/-- The pieces of filters: the entries of a map that is supplied, and else those of the defaults. -/
def filterPieces (defaults : Dict RawValue) (value : Option RawValue) : List Piece :=
  value.toList.map .filters ++ ((value.bind RawValue.entries?).getD defaults).toList.map fun e => .filter e.1 e.2

/-- The pieces of the options, and of the defaults that stand in for filters, in the order of the options. -/
def pieces (defaults : QueryDefaults) (raw : RawOptions) : List Piece :=
  (if raw.unknownKeys.isEmpty then [] else [.unknown raw.unknownKeys]) ++
  (raw.value? "query").toList.map .query ++
  (raw.value? "page").toList.map (.count "page") ++
  (raw.value? "per_page").toList.map (.count "per_page") ++
  namePieces "class_names" (raw.value? "class_names") ++
  (raw.value? "sort_mode").toList.map (.text "sort_mode") ++
  (raw.value? "sort_by").toList.map (.text "sort_by") ++
  weightPieces (raw.value? "weights") ++
  filterPieces defaults.filters (raw.value? "filters") ++
  namePieces "facets" (raw.value? "facets")

/-! ### Single options -/

theorem coerceQuery_eq (value : Option RawValue) : coerceQuery value =
    ⟨(value.bind RawValue.queryText?).getD "", Piece.reports (value.toList.map .query)⟩ := by
  rcases value with _ | value
  · rfl
  · cases value <;> rfl

theorem coerceCount_eq (key : String) (value : Option RawValue) (default : Nat) : coerceCount key value default =
    ⟨readCount value default, Piece.reports (value.toList.map (.count key))⟩ := by
  rcases value with _ | value
  · rfl
  · cases h : value.int64? with
    | none => simp [coerceCount, readCount, Piece.reports, Piece.isUsable, Piece.diagnostic, h]
    | some n =>
      simp [coerceCount, readCount, Piece.reports, Piece.isUsable, h]
      rfl

theorem coerceText_eq (key : String) (value : Option RawValue) : coerceText key value =
    ⟨value.bind RawValue.str?, Piece.reports (value.toList.map (.text key))⟩ := by
  rcases value with _ | value
  · rfl
  · cases value <;> rfl

theorem coerceName_eq (key : String) (entry : RawValue) : coerceName key entry =
    ⟨entry.str?, Piece.reports [.name key entry]⟩ := by
  cases entry <;> rfl

theorem coerceWeight_eq (entry : String × RawValue) : coerceWeight entry =
    ⟨entry.2.double?.map (entry.1, ·), Piece.reports [.weight entry.1 entry.2]⟩ := by
  cases h : entry.2.double? with
  | none => simp [coerceWeight, Piece.reports, Piece.isUsable, Piece.diagnostic, h]
  | some weight =>
    simp [coerceWeight, Piece.reports, Piece.isUsable, h]
    rfl

theorem coerceFilter_eq (entry : String × RawValue) : coerceFilter entry =
    ⟨(Filter.ofRaw? entry.2).map (entry.1, ·), Piece.reports [.filter entry.1 entry.2]⟩ := by
  cases h : Filter.ofRaw? entry.2 with
  | none => simp [coerceFilter, Piece.reports, Piece.isUsable, Piece.diagnostic, h]
  | some filter =>
    simp [coerceFilter, Piece.reports, Piece.isUsable, h]
    rfl

theorem filterMap_coerceName (key : String) (entries : List RawValue) : Reported.filterMap (coerceName key) entries =
    ⟨entries.filterMap RawValue.str?, Piece.reports (entries.map (.name key))⟩ := by
  rw [Reported.filterMap_eq, Piece.reports_map fun entry => congrArg Reported.diagnostics (coerceName_eq key entry)]
  simp only [coerceName_eq]

theorem coerceNames_eq (key : String) (value : Option RawValue) : coerceNames key value =
    ⟨(value.bind RawValue.listed?).map fun entries => entries.filterMap RawValue.str?,
      Piece.reports (namePieces key value)⟩ := by
  rcases value with _ | value
  · rfl
  · cases value with
    | list items =>
      rw [coerceNames, filterMap_coerceName, Reported.bind_pure_eq]
      rfl
    | _ => rfl

theorem coerceWeights_eq (value : Option RawValue) : coerceWeights value =
    ⟨(value.bind RawValue.entries?).map fun entries => entries.filterMap fun _ value => value.double?,
      Piece.reports (weightPieces value)⟩ := by
  rcases value with _ | value
  · rfl
  · cases value with
    | map entries =>
      rw [coerceWeights, Reported.bind_pure_eq, Reported.filterMap_eq,
        Piece.reports_map fun entry => congrArg Reported.diagnostics (coerceWeight_eq entry)]
      simp only [coerceWeight_eq, SortedMap.ofList_filterMap fun _ (value : RawValue) => value.double?]
      rfl
    | _ => rfl

theorem coerceFilterMap_eq (values : Dict RawValue) : coerceFilterMap values =
    ⟨values.filterMap fun _ value => Filter.ofRaw? value,
      Piece.reports (values.toList.map fun e => .filter e.1 e.2)⟩ := by
  rw [coerceFilterMap, Reported.bind_pure_eq, Reported.filterMap_eq,
    Piece.reports_map fun entry => congrArg Reported.diagnostics (coerceFilter_eq entry)]
  simp only [coerceFilter_eq, SortedMap.ofList_filterMap fun _ (value : RawValue) => Filter.ofRaw? value]

theorem coerceFilters_eq (value : Option RawValue) : coerceFilters value =
    ⟨(value.bind RawValue.entries?).map fun entries => entries.filterMap fun _ value => Filter.ofRaw? value,
      Piece.reports (filterPieces .empty value)⟩ := by
  rcases value with _ | value
  · rfl
  · cases value with
    | map entries =>
      rw [coerceFilters, coerceFilterMap_eq, Reported.bind_pure_eq]
      rfl
    | _ => rfl

/-! ### All options -/

theorem reportUnknown_eq (keys : List String) :
    reportUnknown keys = ⟨(), Piece.reports (if keys.isEmpty then [] else [.unknown keys])⟩ := by
  unfold reportUnknown
  split <;> rfl

theorem coerce_eq (defaults : QueryDefaults) (raw : RawOptions) :
    coerce defaults raw = ⟨reading defaults raw, Piece.reports (pieces defaults raw)⟩ := by
  have hvalue : (coerce defaults raw).value = reading defaults raw := by
    unfold coerce reading
    simp only [reportUnknown_eq, coerceQuery_eq, coerceCount_eq, coerceNames_eq, coerceText_eq, coerceWeights_eq,
      coerceFilters_eq, coerceFilterMap_eq, Reported.value_bind]
    cases (raw.value? "filters").bind RawValue.entries? <;> rfl
  have hdiagnostics : (coerce defaults raw).diagnostics = Piece.reports (pieces defaults raw) := by
    unfold coerce pieces
    simp only [reportUnknown_eq, coerceQuery_eq, coerceCount_eq, coerceNames_eq, coerceText_eq, coerceWeights_eq,
      coerceFilters_eq, coerceFilterMap_eq, Reported.diagnostics_bind, filterPieces]
    -- The filters of the defaults are read exactly if no map is supplied.
    cases (raw.value? "filters").bind RawValue.entries? <;> simp [SortedMap.toList, SortedMap.empty]
  rw [← hvalue, ← hdiagnostics]

theorem foldl_foldAlias_eq_self {raw : RawOptions} {entries : List (String × String)}
    (h : ∀ entry ∈ entries, raw.get? entry.1 = none) : entries.foldl RawOptions.foldAlias raw = raw := by
  induction entries with
  | nil => rfl
  | cons entry entries ih =>
    obtain ⟨hentry, hentries⟩ := List.forall_mem_cons.mp h
    have hfold : raw.foldAlias entry = raw := by rw [RawOptions.foldAlias, hentry]
    rw [List.foldl_cons, hfold, ih hentries]

/-- Options without older names are coerced as they are. -/
theorem normalize_eq_reading {raw : RawOptions} (h : ∀ entry ∈ legacyAliases, raw.get? entry.1 = none)
    (defaults : QueryDefaults) : normalize defaults raw = ⟨reading defaults raw, Piece.reports (pieces defaults raw)⟩ := by
  rw [normalize, RawOptions.foldAliases, foldl_foldAlias_eq_self h, coerce_eq]

/-! ### Pieces that are used -/

section Used
variable {options : SearchOptions} {key : String} {value : Option RawValue} {piece : Piece}

theorem mem_map_toList {f : RawValue → Piece} : piece ∈ value.toList.map f ↔ ∃ v, value = some v ∧ f v = piece := by
  simp

theorem ofNat_max_one (n : Int64) : Int64.ofNat (max n.toInt.toNat 1) = max n 1 := by
  have hle := n.toInt_le
  rw [Int64.toInt_maxValue] at hle
  refine Int64.toInt_inj.mp ?_
  rw [Int64.toInt_ofNat_of_lt (by omega), show max n 1 = if n ≤ 1 then 1 else n from rfl]
  split
  · next h =>
    have hone : n.toInt ≤ 1 := Int64.le_iff_toInt_le.mp h
    show _ = (1 : Int)
    omega
  · next h =>
    have hone : ¬n.toInt ≤ 1 := fun hle => h (Int64.le_iff_toInt_le.mpr hle)
    omega

theorem isIn_count {default : Nat} (h : options.get? key = some (.int (Int64.ofNat (readCount value default))))
    (hpiece : piece ∈ value.toList.map (.count key)) (husable : piece.isUsable = true) : piece.IsIn options := by
  obtain ⟨v, rfl, rfl⟩ := mem_map_toList.mp hpiece
  obtain ⟨n, hn⟩ := Option.isSome_iff_exists.mp husable
  refine ⟨n, hn, ?_⟩
  rw [h, readCount, Option.bind_some, hn, ← ofNat_max_one]
  rfl

theorem isIn_text (h : ∀ text, value.bind RawValue.str? = some text → options.get? key = some (.str text))
    (hpiece : piece ∈ value.toList.map (.text key)) (husable : piece.isUsable = true) : piece.IsIn options := by
  obtain ⟨v, rfl, rfl⟩ := mem_map_toList.mp hpiece
  cases v with
  | str text => exact h text rfl
  | _ => cases husable

theorem map_str_filterMap_str? (entries : List RawValue) :
    (entries.filterMap RawValue.str?).map RawValue.str = entries.filter fun entry => entry.str?.isSome := by
  induction entries with
  | nil => rfl
  | cons entry entries ih =>
    cases entry with
    | str text => exact congrArg (RawValue.str text :: ·) ih
    | _ => exact ih

theorem isIn_names {default : List String}
    (h : options.get? key = some (.list ((readNames value default).map .str))) (hpiece : piece ∈ namePieces key value)
    (husable : piece.isUsable = true) : piece.IsIn options := by
  have hread (entries : List RawValue) (hentries : value.bind RawValue.listed? = some entries) :
      options.get? key = some (.list (entries.filter fun entry => entry.str?.isSome)) := by
    rw [h, readNames, hentries, Option.map_some, Option.getD_some, map_str_filterMap_str?]
  rcases List.mem_append.mp hpiece with hpiece | hpiece
  · obtain ⟨v, rfl, rfl⟩ := mem_map_toList.mp hpiece
    obtain ⟨entries, hentries⟩ := Option.isSome_iff_exists.mp husable
    exact ⟨entries, hentries, hread entries hentries⟩
  · obtain ⟨entry, hentry, rfl⟩ := List.mem_map.mp hpiece
    cases hentries : value.bind RawValue.listed? with
    | none =>
      rw [hentries] at hentry
      cases hentry
    | some entries =>
      rw [hentries] at hentry
      exact ⟨_, hread entries hentries, List.mem_filter.mpr ⟨hentry, husable⟩⟩

theorem isIn_weights {default : Dict Double}
    (h : options.weights = ((value.bind RawValue.entries?).map fun entries =>
      entries.filterMap fun _ value => value.double?).getD default) (hpiece : piece ∈ weightPieces value)
    (husable : piece.isUsable = true) : piece.IsIn options := by
  rcases List.mem_append.mp hpiece with hpiece | hpiece
  · obtain ⟨v, rfl, rfl⟩ := mem_map_toList.mp hpiece
    obtain ⟨entries, hentries⟩ := Option.isSome_iff_exists.mp husable
    refine ⟨entries, hentries, ?_⟩
    rw [h, Option.bind_some, hentries, Option.map_some, Option.getD_some]
  · obtain ⟨⟨field, v⟩, hentry, rfl⟩ := List.mem_map.mp hpiece
    cases hentries : value.bind RawValue.entries? with
    | none =>
      rw [hentries] at hentry
      cases hentry
    | some entries =>
      rw [hentries] at hentry h
      obtain ⟨weight, hweight⟩ := Option.isSome_iff_exists.mp husable
      refine ⟨weight, hweight, ?_⟩
      rw [h, Option.map_some, Option.getD_some]
      exact (SortedMap.get?_filterMap_of_mem hentry _).trans hweight

theorem isIn_filters {default : Dict RawValue}
    (h : options.filters = ((value.bind RawValue.entries?).getD default).filterMap fun _ value => Filter.ofRaw? value)
    (hpiece : piece ∈ filterPieces default value) (husable : piece.isUsable = true) : piece.IsIn options := by
  rcases List.mem_append.mp hpiece with hpiece | hpiece
  · obtain ⟨v, rfl, rfl⟩ := mem_map_toList.mp hpiece
    obtain ⟨entries, hentries⟩ := Option.isSome_iff_exists.mp husable
    refine ⟨entries, hentries, ?_⟩
    rw [h, Option.bind_some, hentries, Option.getD_some]
  · obtain ⟨⟨field, v⟩, hentry, rfl⟩ := List.mem_map.mp hpiece
    obtain ⟨filter, hfilter⟩ := Option.isSome_iff_exists.mp husable
    refine ⟨filter, hfilter, ?_⟩
    rw [h]
    exact (SortedMap.get?_filterMap_of_mem hentry _).trans hfilter

end Used

theorem isIn_reading {defaults : QueryDefaults} {raw : RawOptions} {piece : Piece}
    (hpiece : piece ∈ pieces defaults raw) (husable : piece.isUsable = true) : piece.IsIn (reading defaults raw) := by
  simp only [pieces, List.mem_append] at hpiece
  rcases hpiece with (((((((((h | h) | h) | h) | h) | h) | h) | h) | h) | h)
  · split at h
    · cases h
    · rw [List.mem_singleton.mp h] at husable
      cases husable
  · obtain ⟨v, hv, rfl⟩ := mem_map_toList.mp h
    obtain ⟨text, htext⟩ := Option.isSome_iff_exists.mp husable
    show v.queryText? = some (((raw.value? "query").bind RawValue.queryText?).getD "")
    rw [hv, Option.bind_some, htext, Option.getD_some]
  · exact isIn_count rfl h husable
  · exact isIn_count rfl h husable
  · exact isIn_names rfl h husable
  · exact isIn_text (fun text htext => by show some _ = _; simp [reading, htext]) h husable
  · exact isIn_text (fun text htext => by show Option.map _ _ = _; simp [reading, htext]) h husable
  · exact isIn_weights rfl h husable
  · exact isIn_filters rfl h husable
  · exact isIn_names rfl h husable

/-- The typed options are what can be read from the values of the options and else the defaults; the pieces that cannot
    be used are reported, each once and in order, and nothing else is; and each other piece stands in the typed options
    in its coerced form. -/
theorem normalize_exact (defaults : QueryDefaults) (raw : RawOptions) :
    (normalize defaults raw).value = reading defaults raw.foldAliases ∧
    (normalize defaults raw).diagnostics = Piece.reports (pieces defaults raw.foldAliases) ∧
    ∀ piece ∈ pieces defaults raw.foldAliases, piece.isUsable = true → piece.IsIn (normalize defaults raw).value := by
  rw [normalize, coerce_eq]
  dsimp only
  exact ⟨rfl, rfl, fun _ => isIn_reading⟩

/-- Options of which each is supplied in pieces that can be used and pieces that cannot. -/
def mixedDogs : RawOptions :=
  .ofList [("class_names", .list [.str "Dog", .int 3, .str "Cat"]), ("limit", .int 5), ("page", .str "two"),
    ("weight", .map [("body", .bool true), ("title", .int 2)]),
    ("filters", .map [("age", .str "1..5"), ("breed", .null)])]

theorem normalize_exact_mixedDogs :
    Piece.name "class_names" (.str "Cat") ∈ pieces {} mixedDogs.foldAliases ∧
    (Piece.name "class_names" (.str "Cat")).isUsable = true ∧
    (Piece.name "class_names" (.str "Cat")).IsIn (normalize {} mixedDogs).value ∧
    (normalize {} mixedDogs).diagnostics = [.unknownOptions ["limit"], .optionNotInteger "page",
      .entryNotString "class_names", .weightNotNumber "body", .filterUnusable "breed"] := by
  have hnames : mixedDogs.foldAliases.value? "class_names" = some (.list [.str "Dog", .int 3, .str "Cat"]) := by
    rfl
  have hmem : Piece.name "class_names" (.str "Cat") ∈ pieces {} mixedDogs.foldAliases := by
    simp [pieces, namePieces, hnames, RawValue.listed?]
  obtain ⟨-, hdiagnostics, hused⟩ := normalize_exact {} mixedDogs
  refine ⟨hmem, rfl, hused _ hmem rfl, ?_⟩
  rw [hdiagnostics]
  decide +kernel

end SearchOptions
end SearchClient
