import SearchClient.Double.Layout
import SearchClient.SortedMap
import SearchClient.Text.Number

/-! Loosely typed values, as callers and configuration files supply them, and the two coercions on which the
    options rely: to an integer and to a floating-point number. -/

namespace SearchClient

/-- A loosely typed value. Of several entries of a map with one key the last one counts. -/
inductive RawValue where
  | null
  | bool (b : Bool)
  | int (n : Int64)
  | float (x : Double)
  | str (s : String)
  | list (items : List RawValue)
  | map (entries : List (String × RawValue))

/-- The options of one search as a caller supplies them, by name. -/
abbrev RawOptions := Dict RawValue

namespace RawValue

def isNull : RawValue → Bool
  | .null => true
  | _ => false

/-- The text of a text value. -/
def str? : RawValue → Option String
  | .str s => some s
  | _ => none

/-- The value as an integer: an integer, a whole floating-point number, or a text that reads as an integer
    when the white space around it is dropped. -/
def int64? : RawValue → Option Int64
  | .int n => some n
  | .float x => if x.isIntegral then some x.toInt64 else none
  | .str s => Text.integer? (Text.trim s.toList)
  | _ => none

/-- The value as a floating-point number: a number, or a text that reads as one when the white space around
    it is dropped. -/
def double? : RawValue → Option Double
  | .int n => some (.ofInt n.toInt)
  | .float x => some x
  | .str s => Text.double? (Text.trim s.toList)
  | _ => none

/-- The entries of a map by key. -/
def dict (entries : List (String × RawValue)) : Dict RawValue := .ofList entries

end RawValue
end SearchClient
