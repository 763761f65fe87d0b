import SearchClient.Double.Basic
import SearchClient.Value.Json

/-! What the daemon replies. -/

namespace SearchClient

/-- A match: a document, the class id stored with it, and its weight. -/
structure RawMatch where
  documentId : Nat
  classId : UInt32
  weight : Int
deriving DecidableEq

/-- A value of a field and the number of matches that have it. -/
structure GroupCount where
  value : String
  count : Nat
deriving DecidableEq

/-- The reply to one query. -/
structure Response where
  /-- The number of all matching documents. -/
  totalFound : Nat := 0
  /-- The time that the query took, in seconds. -/
  time : Double := .zero false
  /-- The matches of the requested page in the order of rank. -/
  matched : List RawMatch := []
  groups : List GroupCount := []
  warning : Option String := none
deriving DecidableEq

/-- A record of an entity type. -/
structure EntityRef where
  className : String
  primaryKey : Nat
deriving DecidableEq

def EntityRef.text (ref : EntityRef) : String := ref.className ++ "#" ++ toString ref.primaryKey

/-! ### JSON forms -/

def EntityRef.ofJson? (json : Json) : Option EntityRef := do
  let className ← json.member? "class_name" >>= Json.str?
  let primaryKey ← json.member? "primary_key" >>= Json.natBelow? UInt64.size
  return { className, primaryKey }

def RawMatch.ofJson? (json : Json) : Option RawMatch := do
  let documentId ← json.member? "document_id" >>= Json.natBelow? UInt64.size
  let classId ← json.member? "class_id" >>= Json.natBelow? UInt32.size
  let weight ← json.member? "weight" >>= Json.int?
  if !Double.fitsInt64 weight then none
  return { documentId, classId := UInt32.ofNat classId, weight }

def GroupCount.ofJson? (json : Json) : Option GroupCount := do
  let value ← json.member? "value" >>= Json.str?
  let count ← json.member? "count" >>= Json.natBelow? UInt64.size
  return { value, count }

/-- A text or null; an absent member counts as null. -/
def optionalText? : Option Json → Option (Option String)
  | none | some .null => some none
  | some (.str s) => some (some s)
  | _ => none

/-- A reply: groups and the warning may be absent, other members are ignored. -/
def Response.ofJson? (json : Json) : Option Response := do
  let totalFound ← json.member? "total_found" >>= Json.natBelow? UInt64.size
  let time ← json.member? "time" >>= Double.ofJson?
  let items ← json.member? "matches" >>= Json.arr?
  let matched ← items.mapM RawMatch.ofJson?
  let groups ← match json.member? "groups" with
    | none => some []
    | some groups => groups.arr? >>= List.mapM GroupCount.ofJson?
  let warning ← optionalText? (json.member? "warning")
  return { totalFound, time, matched, groups, warning }

end SearchClient
