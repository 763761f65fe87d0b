import SearchClient.CommandLine.Command
import SearchClient.Config.Decode
import SearchClient.Config.Write
import SearchClient.Json.Printer
import SearchClient.Options.Json
import SearchClient.Request.Json
import SearchClient.Search.Basic

/-! What the commands print. -/

namespace SearchClient.CommandLine

/-- Why a command fails. -/
inductive CommandError where
  | search (error : SearchError)
  | flag (fault : FlagFault)
  | noMappingPath

namespace CommandError

def message : CommandError → String
  | .search error => error.message
  | .flag fault => fault.message
  | .noMappingPath => "No daemon configuration path. Pass --conf or set daemon.conf_path."

/-- What is behind a failure. -/
def cause? : CommandError → Option String
  | .search (.io error) => some error.message
  | .flag fault => fault.cause?
  | _ => none

/-- The report of a failure. -/
def text (error : CommandError) : String :=
  "Error: " ++ error.message ++ "\n" ++
    error.cause?.elim "" fun cause => "\nCaused by:\n    " ++ cause ++ "\n"

end CommandError

/-- What a command prints: its result, and a hint beside it. -/
structure Output where
  result : String
  hint : String := ""

/-- Lines of text, each with its line feed. -/
def linesText (lines : List String) : String := String.join (lines.map (· ++ "\n"))

/-- A text with spaces at its end to make it at least `width` characters long. -/
def padRight (width : Nat) (text : String) : String :=
  text ++ String.ofList (List.replicate (width - text.length) ' ')

/-- A text with spaces in front to make it at least `width` characters long. -/
def padLeft (width : Nat) (text : String) : String :=
  String.ofList (List.replicate (width - text.length) ' ') ++ text

/-! ### Translated queries -/

/-- A translated query and the terms that highlighting looks for. -/
def parseOutput (config : Config) (query : String) : Output :=
  let textFields := config.daemon.textFields
  let translated := Query.translate textFields query
  { result := linesText ["Query:     " ++ translated, "Excerpts:  " ++ Query.highlightTerms translated]
    hint := if textFields.isEmpty then
        "\nNo text fields configured; field restrictions are kept as plain terms.\n"
      else "" }

/-! ### Class ids -/

def classLine (entry : String × UInt32) : String :=
  "  " ++ padLeft 4 (toString entry.2.toNat) ++ "  " ++ entry.1

/-- The mapped entity types with their class ids. -/
def classesOutput (map : ClassMap) : Output :=
  if map.isEmpty then { result := linesText ["No sources declared."] }
  else { result := linesText (
    ["Class ids", "========="] ++ map.toList.map classLine ++
      ["", "Document ids are encoded as primary_key * " ++ toString map.size ++ " + class_id"]) }

/-! ### Plans -/

/-- A search as it would be sent to the daemon. -/
structure Plan where
  options : SearchOptions
  query : String
  request : Request
  index : String

/-- The plan of raw options in a context. -/
def Plan.ofRaw (context : SearchContext) (raw : RawOptions) : Reported (Except SearchError Plan) := do
  let options ← SearchOptions.normalize context.config.queryDefaults raw
  match context.requestFor options with
  | .error error => return .error error
  | .ok request =>
    let request ← request
    return .ok { options, query := context.translate options.query, request,
                 index := context.config.daemon.indexName }

def namedLine (name value : String) : String := "  " ++ padRight 12 name ++ " " ++ value

/-- Lines under a heading, unless there are none. -/
def headed (heading : String) (lines : List String) : List String :=
  if lines.isEmpty then [] else heading :: lines

def Plan.lines (plan : Plan) : List String :=
  let request := plan.request
  let sortBy := request.sortBy.elim "" (" by " ++ ·)
  ["Query:        " ++ plan.query,
   "Index:        " ++ plan.index,
   "Sort:         " ++ request.sortMode.name ++ " (" ++ toString request.sortMode.code ++ ")" ++ sortBy,
   "Window:       offset " ++ toString request.offset ++ " limit " ++ toString request.limit ++
     " (max " ++ toString request.maxMatches ++ ")"] ++
  headed "Weights:" (request.fieldWeights.toList.map fun (field, weight) => namedLine field weight.text) ++
  headed "Filters:" (request.filters.map fun (field, filter) => namedLine field filter.toJson.compact) ++
  (if plan.options.facets.isEmpty then []
   else ["Facets:       " ++ ", ".intercalate plan.options.facets])

def Plan.toJson (plan : Plan) : Json :=
  .obj [("parsed_query", .str plan.query), ("options", plan.options.toJson), ("request", plan.request.toJson)]

def Plan.output (plan : Plan) : OutputFormat → Output
  | .text => { result := linesText plan.lines }
  | .json => { result := plan.toJson.sorted.pretty ++ "\n" }

end SearchClient.CommandLine
