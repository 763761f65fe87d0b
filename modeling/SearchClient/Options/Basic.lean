import SearchClient.Value.Filter

/-! The options of one search in their typed form. -/

namespace SearchClient

/-- The options of one search. -/
structure SearchOptions where
  /-- The user's query, not translated. -/
  query : String
  /-- The number of the page, from one. -/
  page : Nat
  perPage : Nat
  /-- The entity types to search; all of them if there is none. -/
  classNames : List String
  sortMode : String
  sortBy : Option String
  /-- Weights of text fields; fields not listed weigh one. -/
  weights : Dict Double
  filters : Dict Filter
  /-- The fields whose values are counted, in order. -/
  facets : List String
deriving DecidableEq

namespace SearchOptions

/-- The names of the options. -/
def recognizedKeys : List String :=
  ["query", "page", "per_page", "class_names", "sort_by", "sort_mode", "weights", "filters", "facets"]

/-- Older names and the names that they stand for, those that win first. -/
def legacyAliases : List (String × String) :=
  [("filter", "filters"), ("raw_filters", "filters"), ("class_name", "class_names"), ("weight", "weights")]

/-- An option by name, in its normalized form. Unknown names and an attribute to sort by that is not set
    give none. -/
def get? (options : SearchOptions) (name : String) : Option RawValue :=
  let names (list : List String) : RawValue := .list (list.map .str)
  match name with
  | "query" => some (.str options.query)
  | "page" => some (.int (Int64.ofNat options.page))
  | "per_page" => some (.int (Int64.ofNat options.perPage))
  | "class_names" => some (names options.classNames)
  | "sort_mode" => some (.str options.sortMode)
  | "sort_by" => options.sortBy.map .str
  | "weights" => some (.map (options.weights.mapValues RawValue.float).toList)
  | "filters" => some (.map (options.filters.mapValues Filter.toRaw).toList)
  | "facets" => some (names options.facets)
  | _ => none

end SearchOptions
end SearchClient
