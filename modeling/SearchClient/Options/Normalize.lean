import SearchClient.Config.Basic
import SearchClient.Diagnostic
import SearchClient.Options.Basic

/-! From the options that a caller supplies to typed options. Normalization never fails: what cannot be used
    is reported and the default takes its place. -/

namespace SearchClient

namespace RawOptions

/-- Moves the value of an older name to the name that it stands for, unless that one has a value. -/
def foldAlias (raw : RawOptions) (entry : String × String) : RawOptions :=
  match raw.get? entry.1 with
  | none => raw
  | some value =>
    let rest := raw.erase entry.1
    if value.isNull || (rest.get? entry.2).any (!·.isNull) then rest else rest.insert entry.2 value

/-- The options with all older names folded into the names that they stand for. -/
def foldAliases (raw : RawOptions) : RawOptions := SearchOptions.legacyAliases.foldl foldAlias raw

/-- The value of an option; null counts as absent. -/
def value? (raw : RawOptions) (key : String) : Option RawValue := (raw.get? key).filter (!·.isNull)

/-- The names that are no options. -/
def unknownKeys (raw : RawOptions) : List String :=
  raw.keys.filter fun key => !SearchOptions.recognizedKeys.contains key

end RawOptions

namespace SearchOptions

/-! ### Coercions of single options -/

/-- The query: a text, or a number in plain text. -/
def coerceQuery : Option RawValue → Reported String
  | none => pure ""
  | some (.str s) => pure s
  | some (.int n) => pure (toString n.toInt)
  | some (.float x) => pure x.text
  | some _ => ⟨"", [.queryNotText]⟩

/-- A count, which is at least one. -/
def coerceCount (key : String) (value : Option RawValue) (default : Nat) : Reported Nat :=
  match value with
  | none => pure (max default 1)
  | some value =>
    match value.int64? with
    | some n => pure (max n.toInt.toNat 1)
    | none => ⟨max default 1, [.optionNotInteger key]⟩

/-- A text, if the option has one. -/
def coerceText (key : String) : Option RawValue → Reported (Option String)
  | none => pure none
  | some (.str s) => pure (some s)
  | some _ => ⟨none, [.optionNotString key]⟩

/-- An entry of a list of names. -/
def coerceName (key : String) : RawValue → Reported (Option String)
  | .str s => pure (some s)
  | _ => ⟨none, [.entryNotString key]⟩

/-- A list of names; a text is a list of one. -/
def coerceNames (key : String) : Option RawValue → Reported (Option (List String))
  | none => pure none
  | some (.str s) => pure (some [s])
  | some (.list items) => do
    let names ← Reported.filterMap (coerceName key) items
    return some names
  | some _ => ⟨none, [.optionNotNames key]⟩

/-- An entry of a map of weights. -/
def coerceWeight (entry : String × RawValue) : Reported (Option (String × Double)) :=
  match entry.2.double? with
  | some weight => pure (some (entry.1, weight))
  | none => ⟨none, [.weightNotNumber entry.1]⟩

/-- Weights by field. -/
def coerceWeights : Option RawValue → Reported (Option (Dict Double))
  | none => pure none
  | some (.map entries) => do
    let weights ← Reported.filterMap coerceWeight (RawValue.dict entries).toList
    return some (.ofList weights)
  | some _ => ⟨none, [.weightsNotMap]⟩

/-- An entry of a map of filters. -/
def coerceFilter (entry : String × RawValue) : Reported (Option (String × Filter)) :=
  match Filter.ofRaw? entry.2 with
  | some filter => pure (some (entry.1, filter))
  | none => ⟨none, [.filterUnusable entry.1]⟩

/-- Filters by attribute, without those of an unusable shape. -/
def coerceFilterMap (values : Dict RawValue) : Reported (Dict Filter) := do
  let filters ← Reported.filterMap coerceFilter values.toList
  return .ofList filters

def coerceFilters : Option RawValue → Reported (Option (Dict Filter))
  | none => pure none
  | some (.map entries) => do
    let filters ← coerceFilterMap (RawValue.dict entries)
    return some filters
  | some _ => ⟨none, [.filtersNotMap]⟩

/-! ### All options -/

/-- Reports the names that are no options, all together. -/
def reportUnknown (keys : List String) : Reported Unit :=
  if keys.isEmpty then pure () else Reported.report (.unknownOptions keys)

/-- The typed options of folded options, over the defaults. -/
def coerce (defaults : QueryDefaults) (raw : RawOptions) : Reported SearchOptions := do
  reportUnknown raw.unknownKeys
  let query ← coerceQuery (raw.value? "query")
  let page ← coerceCount "page" (raw.value? "page") defaults.page
  let perPage ← coerceCount "per_page" (raw.value? "per_page") defaults.perPage
  let classNames ← coerceNames "class_names" (raw.value? "class_names")
  let sortMode ← coerceText "sort_mode" (raw.value? "sort_mode")
  let sortBy ← coerceText "sort_by" (raw.value? "sort_by")
  let weights ← coerceWeights (raw.value? "weights")
  let filters ← coerceFilters (raw.value? "filters")
  let filters ← match filters with
    | some filters => pure filters
    | none => coerceFilterMap defaults.filters
  let facets ← coerceNames "facets" (raw.value? "facets")
  return {
    query, page, perPage, filters
    classNames := classNames.getD defaults.classNames
    sortMode := sortMode.getD defaults.sortMode
    sortBy := sortBy <|> defaults.sortBy
    weights := weights.getD defaults.weights
    facets := facets.getD defaults.facets }

/-- The typed options of the options that a caller supplies, over the defaults. -/
def normalize (defaults : QueryDefaults) (raw : RawOptions) : Reported SearchOptions :=
  coerce defaults raw.foldAliases

end SearchOptions
end SearchClient
