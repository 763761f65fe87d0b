import SearchClient.Error

/-! The orders in which the daemon lists matches. -/

namespace SearchClient

inductive SortMode where
  /-- By relevance. -/
  | relevance
  /-- By an attribute, the greatest first. -/
  | descending
  /-- By an attribute, the least first. -/
  | ascending
  /-- By time segments, then by relevance. -/
  | time
  /-- By a clause such as those of SQL. -/
  | extended
deriving DecidableEq

namespace SortMode

/-- The mode that a name stands for; the two orders by attribute have a short name as well. -/
def ofName? : String → Except SearchError SortMode
  | "relevance" => .ok .relevance
  | "descending" | "desc" => .ok .descending
  | "ascending" | "asc" => .ok .ascending
  | "time" => .ok .time
  | "extended" => .ok .extended
  | other => .error (.unknownSortMode other)

def name : SortMode → String
  | .relevance => "relevance"
  | .descending => "descending"
  | .ascending => "ascending"
  | .time => "time"
  | .extended => "extended"

/-- The daemon's number for a mode. -/
def code : SortMode → Nat
  | .relevance => 0
  | .descending => 1
  | .ascending => 2
  | .time => 3
  | .extended => 4

/-- Whether a mode orders by an attribute or a clause. -/
def usesSortBy : SortMode → Bool
  | .relevance => false
  | _ => true

end SortMode
end SearchClient
