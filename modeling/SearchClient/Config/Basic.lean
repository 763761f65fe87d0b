import SearchClient.Value.Raw

/-! The configuration of a client: defaults of every search option, excerpts, the client's own behaviour, and
    what it has to know about the daemon's index. -/

namespace SearchClient

/-- Defaults under every set of options. -/
structure QueryDefaults where
  page : Nat := 1
  perPage : Nat := 20
  classNames : List String := []
  sortMode : String := "relevance"
  sortBy : Option String := some "created_at"
  weights : Dict Double := .empty
  filters : Dict RawValue := .empty
  facets : List String := []

/-- How the daemon marks matches in an excerpt. -/
structure HighlightOptions where
  beforeMatch : String := "<strong>"
  afterMatch : String := "</strong>"
  chunkSeparator : String := "..."
  /-- The greatest length of an excerpt, in characters. -/
  limit : Nat := 256
  /-- The words kept on either side of a match. -/
  around : Nat := 3
deriving DecidableEq

/-- Options of excerpts. -/
structure ExcerptOptions extends HighlightOptions where
  /-- Groups of field names; of each group the first field that an entity has is excerpted. -/
  contentMethods : List (List String) :=
    [["title", "name"], ["body", "description", "content"], ["metadata"]]
deriving DecidableEq

/-- The client's own behaviour. -/
structure ClientOptions where
  /-- Ask for the number of matches of each entity type. -/
  withSubtotals : Bool := false
  /-- Attempts after the first one when the daemon cannot be reached. -/
  maxRetries : Nat := 4
  /-- The pause between attempts, in seconds. -/
  retrySleepTime : Double := .ofDecimal false 5 (-1)
  /-- The greatest number of values kept for a facet. -/
  maxFacets : Nat := 100
deriving DecidableEq

/-- What has to agree with the daemon's index. -/
structure DaemonSettings where
  /-- The greatest number of matches that the daemon reports. -/
  maxMatches : Nat := 1000
  indexName : String := "complete"
  /-- The generated configuration of the daemon, from which class ids are read. -/
  confPath : Option String := none
  textFields : List String := []
deriving DecidableEq

def DaemonSettings.isTextField (settings : DaemonSettings) (field : String) : Bool :=
  settings.textFields.contains field

structure Config where
  queryDefaults : QueryDefaults := {}
  excerpting : ExcerptOptions := {}
  client : ClientOptions := {}
  daemon : DaemonSettings := {}

/-- The pause between attempts in nanoseconds: the nearest one, a half to the even neighbour. Only positive
    finite times are pauses. -/
def ClientOptions.retrySleep (options : ClientOptions) : Nat :=
  match options.retrySleepTime with
  | .finite false x => roundHalfEven (x.ratio.1 * 1000000000) x.ratio.2
  | _ => 0

end SearchClient
