import SearchClient.Search.Basic

/-! The operations of a search as data, so that one can say what a sequence of them does. -/

namespace SearchClient.Search
variable {σ E : Type}

/-- An operation that keeps the last execution. -/
inductive Accessor where
  | results
  | entityRefs
  | response
  | facets
  | facet (field : String)
  | subtotals
  | totalEntries
  | time
  | pageCount
  | nextPage
  | excerpt
deriving DecidableEq

inductive Operation where
  | run
  | runIds
  | access (accessor : Accessor)
deriving DecidableEq

/-- What an operation gives. -/
inductive Answer (E : Type) where
  | hits (hits : List (Hit E))
  | refs (refs : List EntityRef)
  | response (response : Response)
  | facets (facets : Dict FacetCounts)
  | facet (counts : FacetCounts)
  | subtotals (subtotals : Dict Nat)
  | count (count : Nat)
  | time (time : Double)
  | page (page : Option Nat)

variable (context : SearchContext) (host : Host σ E) (search : Search)

def access : Accessor → Op σ E (Answer E)
  | .results => return .hits (← results context host search)
  | .entityRefs => return .refs (← entityRefs context host search)
  | .response => return .response (← response context host search)
  | .facets => return .facets (← facets context host search)
  | .facet field => return .facet (← facet context host search field)
  | .subtotals => return .subtotals (← subtotals context host search)
  | .totalEntries => return .count (← totalEntries context host search)
  | .time => return .time (← time context host search)
  | .pageCount => return .count (← pageCount context host search)
  | .nextPage => return .page (← nextPage? context host search)
  | .excerpt => return .hits (← excerpt context host search)

def perform : Operation → Op σ E (Answer E)
  | .run => return .hits (← run context host search)
  | .runIds => return .refs (← runIds context host search)
  | .access accessor => access context host search accessor

/-- What operations give one after another, and the session that they leave behind. -/
def performAll : List Operation → Session σ E → List (Except SearchError (Answer E)) × Session σ E
  | [], session => ([], session)
  | operation :: operations, session =>
    let (answer, session) := perform context host search operation session
    let (answers, session) := performAll operations session
    (answer :: answers, session)

end SearchClient.Search
