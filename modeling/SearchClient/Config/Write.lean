import SearchClient.Config.Basic
import SearchClient.Diagnostic
import SearchClient.Toml.Format

/-! Writing configurations. Every key is written, also where it has its default; only a value that is not set
    is left out. -/

namespace SearchClient

namespace Toml

/-- A count, unless it is too large for an integer of a configuration. -/
def ofNat? (n : Nat) : Option Toml := if n ≤ Int64.maxValue.toInt then some (.int (Int64.ofNat n)) else none

def ofNames (names : List String) : Toml := .array (names.map .str)

mutual
/-- A loosely typed value; null has no form. -/
def ofRaw? : RawValue → Option Toml
  | .null => none
  | .bool b => some (.bool b)
  | .int n => some (.int n)
  | .float x => some (.float x)
  | .str s => some (.str s)
  | .list items => (listOfRaw? items).map .array
  | .map entries => (entriesOfRaw? entries).map fun es => .table (SortedMap.ofList es).toList

def listOfRaw? : List RawValue → Option (List Toml)
  | [] => some []
  | item :: rest => do
    let item ← ofRaw? item
    let rest ← listOfRaw? rest
    return item :: rest

def entriesOfRaw? : List (String × RawValue) → Option (List (String × Toml))
  | [] => some []
  | (key, value) :: rest => do
    let value ← ofRaw? value
    let rest ← entriesOfRaw? rest
    return (key, value) :: rest
end

end Toml

def QueryDefaults.toToml? (d : QueryDefaults) : Option (List (String × Toml)) := do
  let page ← Toml.ofNat? d.page
  let perPage ← Toml.ofNat? d.perPage
  let filters ← Toml.entriesOfRaw? d.filters.toList
  return [("page", page), ("per_page", perPage), ("class_names", .ofNames d.classNames),
    ("sort_mode", .str d.sortMode)] ++ (d.sortBy.map fun s => ("sort_by", Toml.str s)).toList ++
    [("weights", .table (d.weights.mapValues Toml.float).toList), ("filters", .table filters),
     ("facets", .ofNames d.facets)]

def ExcerptOptions.toToml? (o : ExcerptOptions) : Option (List (String × Toml)) := do
  let limit ← Toml.ofNat? o.limit
  let around ← Toml.ofNat? o.around
  return [("before_match", .str o.beforeMatch), ("after_match", .str o.afterMatch),
    ("chunk_separator", .str o.chunkSeparator), ("limit", limit), ("around", around),
    ("content_methods", .array (o.contentMethods.map Toml.ofNames))]

def ClientOptions.toToml? (o : ClientOptions) : Option (List (String × Toml)) := do
  let maxRetries ← Toml.ofNat? o.maxRetries
  let maxFacets ← Toml.ofNat? o.maxFacets
  return [("with_subtotals", .bool o.withSubtotals), ("max_retries", maxRetries),
    ("retry_sleep_time", .float o.retrySleepTime), ("max_facets", maxFacets)]

def DaemonSettings.toToml? (s : DaemonSettings) : Option (List (String × Toml)) := do
  let maxMatches ← Toml.ofNat? s.maxMatches
  return [("max_matches", maxMatches), ("index_name", .str s.indexName)] ++
    (s.confPath.map fun path => ("conf_path", Toml.str path)).toList ++
    [("text_fields", .ofNames s.textFields)]

namespace Config

/-- The table of a configuration, unless one of its values has no form in a configuration file. -/
def toTable? (config : Config) : Option (List (String × Toml)) := do
  let queryDefaults ← config.queryDefaults.toToml?
  let excerpting ← config.excerpting.toToml?
  let client ← config.client.toToml?
  let daemon ← config.daemon.toToml?
  return [("query_defaults", .table queryDefaults), ("excerpting", .table excerpting),
    ("client", .table client), ("daemon", .table daemon)]

/-- The text of a configuration. -/
def toText (format : Toml.Format) (config : Config) : Except SearchError String :=
  match config.toTable? with
  | some table => .ok (format.write table)
  | none => .error (.config "Failed to serialize config")

end Config
end SearchClient
