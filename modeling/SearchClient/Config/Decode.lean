import SearchClient.Config.Basic
import SearchClient.Diagnostic
import SearchClient.Toml.Format

/-! Reading configurations. Every section and every key may be absent, and unknown ones are reported and
    ignored; a value of the wrong type makes the whole configuration unusable. -/

namespace SearchClient

/-! ### Values of configuration keys -/

namespace Toml

/-- A text; a date or a time stands for its text. -/
def str? : Toml → Option String
  | .str s => some s
  | .dateTime d => some (String.ofList d.text)
  | _ => none

def bool? : Toml → Option Bool
  | .bool b => some b
  | _ => none

/-- An integer that is not negative and lies below a bound. -/
def natBelow? (bound : Nat) : Toml → Option Nat
  | .int n => if 0 ≤ n.toInt ∧ n.toInt < bound then some n.toInt.toNat else none
  | _ => none

/-- An integer or a floating-point number. -/
def double? : Toml → Option Double
  | .int n => some (.ofInt n.toInt)
  | .float x => some x
  | _ => none

def listOf? {α : Type} (item? : Toml → Option α) : Toml → Option (List α)
  | .array items => items.mapM item?
  | _ => none

def dictOf? {α : Type} (value? : Toml → Option α) : Toml → Option (Dict α)
  | .table entries => (entries.mapM fun e => (value? e.2).map (e.1, ·)).map SortedMap.ofList
  | _ => none

mutual
/-- A value of a configuration as a loosely typed value. -/
def toRaw : Toml → RawValue
  | .str s => .str s
  | .int n => .int n
  | .float x => .float x
  | .bool b => .bool b
  | .dateTime d => .str (String.ofList d.text)
  | .array items => .list (listToRaw items)
  | .table entries => .map (entriesToRaw entries)

def listToRaw : List Toml → List RawValue
  | [] => []
  | item :: rest => item.toRaw :: listToRaw rest

def entriesToRaw : List (String × Toml) → List (String × RawValue)
  | [] => []
  | (key, value) :: rest => (key, value.toRaw) :: entriesToRaw rest
end

/-- The value of a key, or the default if the key is absent; fails on a value of the wrong type. -/
def field? {α : Type} (read? : Toml → Option α) (default : α) : Option Toml → Option α
  | none => some default
  | some value => read? value

end Toml

/-! ### Sections -/

def QueryDefaults.ofValues? (get : String → Option Toml) : Option QueryDefaults := do
  let d : QueryDefaults := {}
  let page ← Toml.field? (Toml.natBelow? UInt64.size) d.page (get "page")
  let perPage ← Toml.field? (Toml.natBelow? UInt64.size) d.perPage (get "per_page")
  let classNames ← Toml.field? (Toml.listOf? Toml.str?) d.classNames (get "class_names")
  let sortMode ← Toml.field? Toml.str? d.sortMode (get "sort_mode")
  let sortBy ← Toml.field? (fun v => v.str?.map some) d.sortBy (get "sort_by")
  let weights ← Toml.field? (Toml.dictOf? Toml.double?) d.weights (get "weights")
  let filters ← Toml.field? (Toml.dictOf? fun v => some v.toRaw) d.filters (get "filters")
  let facets ← Toml.field? (Toml.listOf? Toml.str?) d.facets (get "facets")
  return { page, perPage, classNames, sortMode, sortBy, weights, filters, facets }

def ExcerptOptions.ofValues? (get : String → Option Toml) : Option ExcerptOptions := do
  let d : ExcerptOptions := {}
  let beforeMatch ← Toml.field? Toml.str? d.beforeMatch (get "before_match")
  let afterMatch ← Toml.field? Toml.str? d.afterMatch (get "after_match")
  let chunkSeparator ← Toml.field? Toml.str? d.chunkSeparator (get "chunk_separator")
  let limit ← Toml.field? (Toml.natBelow? UInt64.size) d.limit (get "limit")
  let around ← Toml.field? (Toml.natBelow? UInt64.size) d.around (get "around")
  let contentMethods ←
    Toml.field? (Toml.listOf? (Toml.listOf? Toml.str?)) d.contentMethods (get "content_methods")
  return { beforeMatch, afterMatch, chunkSeparator, limit, around, contentMethods }

def ClientOptions.ofValues? (get : String → Option Toml) : Option ClientOptions := do
  let d : ClientOptions := {}
  let withSubtotals ← Toml.field? Toml.bool? d.withSubtotals (get "with_subtotals")
  let maxRetries ← Toml.field? (Toml.natBelow? UInt32.size) d.maxRetries (get "max_retries")
  let retrySleepTime ← Toml.field? Toml.double? d.retrySleepTime (get "retry_sleep_time")
  let maxFacets ← Toml.field? (Toml.natBelow? UInt64.size) d.maxFacets (get "max_facets")
  return { withSubtotals, maxRetries, retrySleepTime, maxFacets }

def DaemonSettings.ofValues? (get : String → Option Toml) : Option DaemonSettings := do
  let d : DaemonSettings := {}
  let maxMatches ← Toml.field? (Toml.natBelow? UInt64.size) d.maxMatches (get "max_matches")
  let indexName ← Toml.field? Toml.str? d.indexName (get "index_name")
  let confPath ← Toml.field? (fun v => v.str?.map some) d.confPath (get "conf_path")
  let textFields ← Toml.field? (Toml.listOf? Toml.str?) d.textFields (get "text_fields")
  return { maxMatches, indexName, confPath, textFields }

namespace Config

/-- The sections and their keys. A section may also be given as a list of values in this order. -/
def knownKeys : List (String × List String) :=
  [("query_defaults",
     ["page", "per_page", "class_names", "sort_mode", "sort_by", "weights", "filters", "facets"]),
   ("excerpting",
     ["before_match", "after_match", "chunk_separator", "limit", "around", "content_methods"]),
   ("client", ["with_subtotals", "max_retries", "retry_sleep_time", "max_facets"]),
   ("daemon", ["max_matches", "index_name", "conf_path", "text_fields"])]

/-- The keys of a section. -/
def keysOf (name : String) : List String := (SortedMap.lookup name knownKeys).getD []

/-- The values of a section by key: those of a table, or of a list by position. A section that is absent has
    none; anything else is no section. -/
def sectionValues? (keys : List String) : Option Toml → Option (String → Option Toml)
  | none => some fun _ => none
  | some (.table entries) => some fun key => SortedMap.lookup key entries
  | some (.array items) =>
    if items.length ≤ keys.length then some fun key => items[keys.idxOf key]? else none
  | some _ => none

/-- The configuration of a table, if all its known values have their types. -/
def ofTable? (table : Dict Toml) : Option Config := do
  let values? (name : String) := sectionValues? (keysOf name) (table.get? name)
  let queryDefaults ← values? "query_defaults" >>= QueryDefaults.ofValues?
  let excerpting ← values? "excerpting" >>= ExcerptOptions.ofValues?
  let client ← values? "client" >>= ClientOptions.ofValues?
  let daemon ← values? "daemon" >>= DaemonSettings.ofValues?
  return { queryDefaults, excerpting, client, daemon }

/-! ### Unknown keys -/

/-- The unknown keys of an entry of the table: its own key, or those inside a known section. -/
def unknownIn (entry : String × Toml) : List String :=
  match SortedMap.lookup entry.1 knownKeys, entry.2 with
  | none, _ => [entry.1]
  | some known, .table entries =>
    (entries.filter fun e => !known.contains e.1).map fun e => entry.1 ++ "." ++ e.1
  | some _, _ => []

/-- The unknown keys of a table, in order. -/
def unknownKeys (table : Dict Toml) : List String := table.toList.flatMap unknownIn

/-! ### Texts and files -/

/-- The failure of a text that is no configuration. -/
def unusable : SearchError := .config "Failed to parse config"

/-- The configuration of a text. -/
def ofText (format : Toml.Format) (text : String) : Reported (Except SearchError Config) :=
  match format.read? text with
  | none => pure (.error unusable)
  | some table =>
    ⟨(ofTable? table).elim (.error unusable) .ok, (unknownKeys table).map .unknownConfigOption⟩

/-- The configuration of a file, from the outcome of reading it. If nothing is at its path it is the
    default. -/
def ofFile (format : Toml.Format) : Except FileError String → Reported (Except SearchError Config)
  | .error error => pure (if error.isAbsence then .ok {} else .error (.io error))
  | .ok text => ofText format text

end Config
end SearchClient
