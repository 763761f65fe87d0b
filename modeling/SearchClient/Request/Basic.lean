import SearchClient.Request.SortMode
import SearchClient.Value.Filter

/-! The settings of one request to the daemon, and the steps that set them. -/

namespace SearchClient

/-- The settings of one request. Each attribute has at most one filter. -/
structure Request where
  sortMode : SortMode := .relevance
  sortBy : Option String := none
  filters : List (String × Filter) := []
  fieldWeights : Dict Double := .empty
  offset : Nat := 0
  limit : Nat := 20
  maxMatches : Nat := 1000
  groupBy : Option String := none
  groupSort : Option String := none
deriving DecidableEq

namespace Request

/-- The attribute that holds the class id of a document. -/
def classIdAttribute : String := "class_id"

/-- The order of groups with the largest first. -/
def groupsByCount : String := "@count desc"

/-- Sets the filter of an attribute. It goes behind the others, and an earlier one is dropped. -/
def setFilter (request : Request) (field : String) (filter : Filter) : Request :=
  { request with filters := (request.filters.filter fun f => f.1 != field) ++ [(field, filter)] }

/-- The filter of an attribute. -/
def filter? (request : Request) (field : String) : Option Filter :=
  (request.filters.find? fun f => f.1 == field).map (·.2)

def setWeights (request : Request) (weights : Dict Double) : Request :=
  { request with fieldWeights := weights }

def setSortMode (request : Request) (mode : SortMode) (sortBy : Option String) : Request :=
  { request with sortMode := mode, sortBy }

/-- Sets the window of matches. -/
def setLimits (request : Request) (offset limit maxMatches : Nat) : Request :=
  { request with offset, limit, maxMatches }

def setGroupBy (request : Request) (field order : String) : Request :=
  { request with groupBy := some field, groupSort := some order }

end Request
end SearchClient
