import SearchClient.Value.Raw

/-! Single attribute values. -/

namespace SearchClient

/-- A single attribute value. -/
inductive Scalar where
  | bool (b : Bool)
  | int (n : Int64)
  | float (x : Double)
  | str (s : String)
deriving DecidableEq

namespace Scalar

/-- The scalar that a loosely typed value is; lists, maps and nulls are none. -/
def ofRaw? : RawValue → Option Scalar
  | .bool b => some (.bool b)
  | .int n => some (.int n)
  | .float x => some (.float x)
  | .str s => some (.str s)
  | _ => none

def toRaw : Scalar → RawValue
  | .bool b => .bool b
  | .int n => .int n
  | .float x => .float x
  | .str s => .str s

/-- The number that a text with white space around it reads as: an integer if possible. -/
def ofNumber? (cs : List Char) : Option Scalar :=
  let cs := Text.trim cs
  match Text.integer? cs with
  | some n => some (.int n)
  | none => (Text.double? cs).map .float

def isFloat : Scalar → Bool
  | .float _ => true
  | _ => false

/-- The value in plain text. -/
def text : Scalar → String
  | .bool b => if b then "true" else "false"
  | .int n => toString n.toInt
  | .float x => x.text
  | .str s => s

/-- Equality of values, numerical for floating-point numbers. -/
def same : Scalar → Scalar → Bool
  | .float x, .float y => x.same y
  | a, b => a == b

end Scalar
end SearchClient
