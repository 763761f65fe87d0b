import SearchClient.ClassMap.Basic
import SearchClient.Request.Build
import SearchClient.Search.Retry

/-! Counts beside the result page: the matches for each value of a field, and for each entity type. Their
    requests derive from the request of the search, so that they count under the same query and filters. -/

namespace SearchClient
variable {σ E : Type}

namespace FacetCounts

/-- Adds a group to the counts; several groups of one value add up. -/
def addGroup (counts : FacetCounts) (group : GroupCount) : FacetCounts :=
  counts.insert group.value ((counts.get? group.value).getD 0 + group.count)

def ofGroups (groups : List GroupCount) : FacetCounts := groups.foldl addGroup .empty

/-- Whether a count ranks before another one or beside it: greater counts first, then by value. -/
def ranksBefore (a b : String × Nat) : Bool := b.2 < a.2 || (a.2 == b.2 && a.1 ≤ b.1)

/-- The `max` values with the greatest counts. -/
def truncate (counts : FacetCounts) (max : Nat) : FacetCounts :=
  if counts.size ≤ max then counts else .ofList ((counts.toList.mergeSort ranksBefore).take max)

end FacetCounts

/-! ### Facets -/

/-- How facets are counted: through which host, and how many values are kept. -/
structure FacetSettings (σ E : Type) where
  host : Host σ E
  retry : RetryPolicy
  maxFacets : Nat

/-- The request that counts the values of a field. -/
def Request.forFacet (base : Request) (field : String) (maxFacets : Nat) : Request :=
  (base.setGroupBy field Request.groupsByCount).setLimits 0 (min maxFacets base.maxMatches) base.maxMatches

/-- One query as a call of the host. -/
def Host.queryAct (host : Host σ E) (request : Request) (text : String) : Act σ Response :=
  Act.onHost (host.query request text)

namespace FacetSettings

/-- Counts the values of a field. -/
def count (settings : FacetSettings σ E) (base : Request) (query field : String) : Act σ FacetCounts := do
  let request := base.forFacet field settings.maxFacets
  let response ← settings.retry.run "facet" (settings.host.queryAct request query)
  return (FacetCounts.ofGroups response.groups).truncate settings.maxFacets

/-- Counts the values of a field unless they have been counted before. Only counts are kept, no failures. -/
def countCached (settings : FacetSettings σ E) (base : Request) (query field : String) : Act σ FacetCounts := do
  let key : FacetKey := { query, request := base, field }
  match (← get).cache.get? key with
  | some counts => return counts
  | none =>
    let counts ← settings.count base query field
    modify fun world => { world with cache := world.cache.insert key counts }
    return counts

/-- Counts the values of each field in turn, up to the first failure. -/
def countAll (settings : FacetSettings σ E) (cached : Bool) (base : Request) (query : String)
    (counted : Dict FacetCounts) : List String → Act σ (Dict FacetCounts)
  | [] => return counted
  | field :: fields => do
    let counts ← if cached then settings.countCached base query field else settings.count base query field
    settings.countAll cached base query (counted.insert field counts) fields

end FacetSettings

/-! ### Subtotals -/

/-- The request that counts the matches of a class. -/
def Request.forSubtotal (base : Request) (id : UInt32) : Request :=
  (base.setFilter Request.classIdAttribute (.equals (Request.classValue id))).setLimits 0 1 base.maxMatches

/-- Counts the matches of each entity type in turn, up to the first failure. -/
def countSubtotals (host : Host σ E) (retry : RetryPolicy) (base : Request) (query : String)
    (counted : Dict Nat) : List (String × UInt32) → Act σ (Dict Nat)
  | [] => return counted
  | (name, id) :: classes => do
    let response ← retry.run "subtotal" (host.queryAct (base.forSubtotal id) query)
    let total := min response.totalFound base.maxMatches
    countSubtotals host retry base query (counted.insert name total) classes

end SearchClient
