import SearchClient.Json.Basic
import SearchClient.Value.Filter

/-! The JSON forms of values and filters. -/

namespace SearchClient

/-- The number of a JSON value; integers count too. -/
def Double.ofJson? : Json → Option Double
  | .int n => some (.ofInt n)
  | .float x => some x
  | _ => none

/-- An integer that fits 64 bits with a sign, and else the nearest floating-point number. -/
def Scalar.ofInt (n : Int) : Scalar :=
  if Double.fitsInt64 n then .int (Int64.ofInt n) else .float (.ofInt n)

def Scalar.ofJson? : Json → Option Scalar
  | .bool b => some (.bool b)
  | .int n => some (.ofInt n)
  | .float x => some (.float x)
  | .str s => some (.str s)
  | _ => none

def Scalar.toJson : Scalar → Json
  | .bool b => .bool b
  | .int n => .int n.toInt
  | .float x => .float x
  | .str s => .str s

namespace RawValue

mutual
/-- The loosely typed value of a JSON value in which arrays and objects are nested at most `depth` deep. -/
def ofJsonWithin? (depth : Nat) : Json → Option RawValue
  | .null => some .null
  | .bool b => some (.bool b)
  | .int n => some (Scalar.ofInt n).toRaw
  | .float x => some (.float x)
  | .str s => some (.str s)
  | .arr items => if depth = 0 then none else (listOfJson? (depth - 1) items).map .list
  | .obj members => if depth = 0 then none else
      (entriesOfJson? (depth - 1) members).map fun es => .map (SortedMap.ofList es).toList
  | .unreadable => none

def listOfJson? (depth : Nat) : List Json → Option (List RawValue)
  | [] => some []
  | item :: rest => do
    let item ← ofJsonWithin? depth item
    let rest ← listOfJson? depth rest
    return item :: rest

def entriesOfJson? (depth : Nat) : List (String × Json) → Option (List (String × RawValue))
  | [] => some []
  | (name, value) :: rest => do
    let value ← ofJsonWithin? depth value
    let rest ← entriesOfJson? depth rest
    return (name, value) :: rest
end

/-- How deep arrays and objects may be nested in a text. -/
def maxDepth : Nat := 127

/-- The loosely typed value of a JSON value; the entries of maps are sorted. -/
def ofJson? (json : Json) : Option RawValue := ofJsonWithin? maxDepth json

end RawValue

namespace Filter

/-- A filter as an object with one member that names its kind. -/
def ofJson? : Json → Option Filter
  | .obj [("equals", value)] => (Scalar.ofJson? value).map .equals
  | .obj [("any_of", .arr items)] => (items.mapM Scalar.ofJson?).map .anyOf
  | .obj [("range", .obj members)] => do
    let min ← (Json.obj members).member? "min" >>= Scalar.ofJson?
    let max ← (Json.obj members).member? "max" >>= Scalar.ofJson?
    return .range min max
  | _ => none

def toJson : Filter → Json
  | .equals value => .obj [("equals", value.toJson)]
  | .anyOf values => .obj [("any_of", .arr (values.map Scalar.toJson))]
  | .range min max => .obj [("range", .obj [("min", min.toJson), ("max", max.toJson)])]

end Filter
end SearchClient
