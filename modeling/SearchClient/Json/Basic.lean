import SearchClient.Double.Basic

/-! JSON values. -/

namespace SearchClient

/-- A JSON value. Objects keep the order of their members. -/
inductive Json where
  | null
  | bool (b : Bool)
  | int (n : Int)
  | float (x : Double)
  | str (s : String)
  | arr (items : List Json)
  | obj (members : List (String × Json))
  /-- A well-formed text that denotes no value: a number beyond the range of numbers, or a string with half
      of a surrogate pair. -/
  | unreadable
deriving Inhabited

namespace Json

/-- The value of the first member with a name, if this is an object that has one. -/
def member? (name : String) : Json → Option Json
  | .obj members => (members.find? fun m => m.1 == name).map (·.2)
  | _ => none

def str? : Json → Option String
  | .str s => some s
  | _ => none

def int? : Json → Option Int
  | .int n => some n
  | _ => none

def bool? : Json → Option Bool
  | .bool b => some b
  | _ => none

def arr? : Json → Option (List Json)
  | .arr items => some items
  | _ => none

def obj? : Json → Option (List (String × Json))
  | .obj members => some members
  | _ => none

/-- A number below a bound, without a sign, a point or an exponent. -/
def natBelow? (bound : Nat) : Json → Option Nat
  | .int n => if 0 ≤ n ∧ n < bound then some n.toNat else none
  | _ => none

end Json
end SearchClient
