import SearchClient.ClassMap.Reader
import SearchClient.Options.Normalize
import SearchClient.Search.Excerpt
import SearchClient.Search.Facet

/-! A search: its options, and the state of its last execution. Accessors that need a reply execute the search
    first if that has not been done; an execution asks for the matches, the facets and the subtotals, in this
    order. Records are resolved and excerpted when they are first asked for. -/

namespace SearchClient

/-- What all searches of a client share. -/
structure SearchContext where
  config : Config
  classMap : ClassMap

namespace SearchContext

/-- The context of a configuration, from the outcome of reading the daemon configuration that it names. -/
def ofConfig (config : Config) (conf : Except FileError String) : Reported SearchContext :=
  match config.daemon.confPath with
  | some path => do
    let classMap ← ClassMap.load path conf
    return { config, classMap }
  | none => ⟨{ config, classMap := .empty }, [.noMappingPath]⟩

/-- Translates a query for the text fields of the configuration. -/
def translate (context : SearchContext) (query : String) : String :=
  Query.translate context.config.daemon.textFields query

/-- The request for a set of options. -/
def requestFor (context : SearchContext) (options : SearchOptions) : Except SearchError (Reported Request) :=
  Request.build context.config.daemon context.classMap options

end SearchContext

/-- A search that has not been executed. -/
structure Search where
  options : SearchOptions
  /-- The query in the daemon's syntax. -/
  query : String
  retry : RetryPolicy
  /-- Facets are looked up in the shared cache. -/
  cached : Bool := false

namespace Search

/-- The search of normalized options. -/
def ofOptions (context : SearchContext) (options : SearchOptions) : Search where
  options
  query := context.translate options.query
  retry := .ofOptions context.config.client

/-- The search of the options that a caller supplies. -/
def ofRaw (context : SearchContext) (raw : RawOptions) : Reported Search := do
  let options ← SearchOptions.normalize context.config.queryDefaults raw
  return ofOptions context options

def previousPage? (search : Search) : Option Nat :=
  if 1 < search.options.page then some (search.options.page - 1) else none

/-- The offset of the first result of the page. -/
def offset (search : Search) : Nat := Request.pageOffset search.options.page search.options.perPage

/-- The state of the last execution. -/
structure Progress (E : Type) where
  executed : Bool := false
  response : Response := {}
  refs : List EntityRef := []
  results : Option (List (Hit E)) := none
  excerpted : Bool := false
  facets : Dict FacetCounts := .empty
  subtotals : Dict Nat := .empty

/-- A search in progress: its state and the world it acts on. -/
structure Session (σ E : Type) where
  progress : Progress E := {}
  world : World σ

/-- An operation of a search. -/
abbrev Op (σ E : Type) := ExceptT SearchError (StateM (Session σ E))

variable {σ E α : Type}

def Op.ofAct (act : Act σ α) : Op σ E α := fun session =>
  let (outcome, world) := act session.world
  (outcome, { session with world })

/-! ### Execution -/

/-- The facets of an execution. -/
def executeFacets (context : SearchContext) (host : Host σ E) (search : Search) (request : Request) :
    Act σ (Dict FacetCounts) :=
  let settings : FacetSettings σ E := ⟨host, search.retry, context.config.client.maxFacets⟩
  settings.countAll search.cached request search.query .empty search.options.facets

/-- The subtotals of an execution. -/
def executeSubtotals (context : SearchContext) (host : Host σ E) (search : Search) (request : Request) :
    Act σ (Dict Nat) :=
  if context.config.client.withSubtotals then
    countSubtotals host search.retry request search.query .empty context.classMap.toList
  else return .empty

/-- Executes a search. -/
def execute (context : SearchContext) (host : Host σ E) (search : Search) : Act σ (Progress E) := do
  let request ← match context.requestFor search.options with
    | .ok request => Act.ofReported request
    | .error error => throw error
  let response ← search.retry.run "query" (host.queryAct request search.query)
  if let some warning := response.warning then Act.report (.daemonWarning warning)
  let refs ← Act.ofReported (context.classMap.refsOf response.matched)
  let facets ← executeFacets context host search request
  let subtotals ← executeSubtotals context host search request
  return { executed := true, response, refs, facets, subtotals }

/-! ### Operations -/

variable (context : SearchContext) (host : Host σ E) (search : Search)

/-- The state after an execution; executes the search if that has not been done. -/
def ensureRun : Op σ E (Progress E) := do
  let progress := (← get).progress
  if progress.executed then return progress
  let progress ← Op.ofAct (execute context host search)
  modify fun session => { session with progress }
  return progress

/-- The hits; resolves the references if that has not been done. -/
def ensureResolved : Op σ E (List (Hit E)) := do
  let progress ← ensureRun context host search
  match progress.results with
  | some hits => return hits
  | none =>
    let hits ← Op.ofAct (resolveHits host progress.refs)
    modify fun session => { session with progress := { progress with results := some hits } }
    return hits

/-- Forgets the last execution. -/
def reset : Op σ E Unit := modify fun session => { session with progress := {} }

/-- Executes the search anew and resolves its results. -/
def run : Op σ E (List (Hit E)) := do
  reset
  ensureResolved context host search

/-- Executes the search anew without resolving its results. -/
def runIds : Op σ E (List EntityRef) := do
  reset
  let progress ← ensureRun context host search
  return progress.refs

/-- The results in the order of rank. -/
def results : Op σ E (List (Hit E)) := ensureResolved context host search

/-- The references of the results in the order of rank. -/
def entityRefs : Op σ E (List EntityRef) := do
  let progress ← ensureRun context host search
  return progress.refs

/-- The daemon's reply. -/
def response : Op σ E Response := do
  let progress ← ensureRun context host search
  return progress.response

/-- The facet counts of every requested field. -/
def facets : Op σ E (Dict FacetCounts) := do
  if search.options.facets.isEmpty then throw .noFacetField
  let progress ← ensureRun context host search
  return progress.facets

/-- The facet counts of a requested field. -/
def facet (field : String) : Op σ E FacetCounts := do
  if !search.options.facets.contains field then throw (.facetNotRequested field)
  let progress ← ensureRun context host search
  match progress.facets.get? field with
  | some counts => return counts
  | none => throw (.noFacetCounts field)

/-- The number of matches of each entity type. -/
def subtotals : Op σ E (Dict Nat) := do
  if !context.config.client.withSubtotals then throw .subtotalsDisabled
  let progress ← ensureRun context host search
  return progress.subtotals

/-- The number of matches that can be paged through. -/
def totalEntries : Op σ E Nat := do
  let progress ← ensureRun context host search
  return min progress.response.totalFound context.config.daemon.maxMatches

/-- The time that the daemon spent on the query, in seconds. -/
def time : Op σ E Double := do
  let progress ← ensureRun context host search
  return progress.response.time

/-- The number of pages for a number of entries. -/
def pagesFor (total perPage : Nat) : Nat := (total + perPage - 1) / perPage

def pageCount : Op σ E Nat := do
  let total ← totalEntries context host search
  return pagesFor total search.options.perPage

/-- The number of the next page; none on the last page. -/
def nextPage? : Op σ E (Option Nat) := do
  let count ← pageCount context host search
  return if search.options.page < count then some (search.options.page + 1) else none

/-- The results with excerpts, which are built once for an execution. -/
def excerpt : Op σ E (List (Hit E)) := do
  let hits ← ensureResolved context host search
  if (← get).progress.excerpted then return hits
  let hits ← Op.ofAct (excerptHits host search.retry context.config.excerpting
    context.config.daemon.indexName search.query hits)
  modify fun session =>
    { session with progress := { session.progress with results := some hits, excerpted := true } }
  return hits

end Search
end SearchClient
