/-! Floating-point numbers with 53 significant bits (binary64), as exact values. A finite number is a sign and
    a magnitude `significand * 2 ^ exponent` in its only normal form, so equal numbers of one sign are equal
    values of the type; there is one NaN. -/

namespace SearchClient

/-- The bound of significands, which have 53 binary digits at most. -/
abbrev significandBound : Nat := 9007199254740992

/-- The least significand with 53 binary digits. -/
abbrev leastFullSignificand : Nat := 4503599627370496

/-- The magnitude `significand * 2 ^ exponent` of a finite number. The significand has its leading bit set,
    except below the least normal number, where the exponent is the least one. -/
structure Magnitude where
  significand : Nat
  exponent : Int
  significand_lt : significand < significandBound
  exponent_ge : -1074 ≤ exponent
  exponent_le : exponent ≤ 971
  normal : leastFullSignificand ≤ significand ∨ exponent = -1074
deriving DecidableEq

/-- A binary64 number. -/
inductive Double where
  | finite (negative : Bool) (magnitude : Magnitude)
  | infinite (negative : Bool)
  | nan
deriving DecidableEq

namespace Magnitude

/-- The magnitude with the given parts, if they are in normal form and in range. -/
def ofParts? (significand : Nat) (exponent : Int) : Option Magnitude :=
  if h : significand < significandBound ∧ -1074 ≤ exponent ∧ exponent ≤ 971 ∧
      (leastFullSignificand ≤ significand ∨ exponent = -1074) then
    some ⟨significand, exponent, h.1, h.2.1, h.2.2.1, h.2.2.2⟩
  else none

def zero : Magnitude := ⟨0, -1074, by decide, by decide, by decide, .inr rfl⟩

def isZero (x : Magnitude) : Bool := x.significand == 0

/-- The exact value, as a numerator over a positive denominator. -/
def ratio (x : Magnitude) : Nat × Nat :=
  if 0 ≤ x.exponent then (x.significand <<< x.exponent.toNat, 1)
  else (x.significand, 1 <<< (-x.exponent).toNat)

/-- Whether the value is a whole number. -/
def isIntegral (x : Magnitude) : Bool :=
  let (num, den) := x.ratio
  num % den == 0

/-- The whole part of the value. -/
def whole (x : Magnitude) : Nat :=
  let (num, den) := x.ratio
  num / den

end Magnitude

namespace Double

/-- Zero, which has a sign of its own. -/
def zero (negative : Bool) : Double := .finite negative .zero

def isNaN : Double → Bool
  | .nan => true
  | _ => false

/-- Whether the value is a whole number; infinities and NaN are not. -/
def isIntegral : Double → Bool
  | .finite _ x => x.isIntegral
  | _ => false

/-- Numerical equality: the two zeros are equal, and NaN differs from everything. -/
def same : Double → Double → Bool
  | .finite s x, .finite t y => (s == t && x == y) || (x.isZero && y.isZero)
  | .infinite s, .infinite t => s == t
  | _, _ => false

/-- Whether an integer fits 64 bits with a sign. -/
def fitsInt64 (n : Int) : Bool := Int64.minValue.toInt ≤ n && n ≤ Int64.maxValue.toInt

/-- The whole part as a 64-bit integer; values out of range go to the nearest bound, NaN to zero. -/
def toInt64 : Double → Int64
  | .finite negative x =>
    let n : Int := if negative then -(x.whole : Int) else x.whole
    if n < Int64.minValue.toInt then Int64.minValue
    else if Int64.maxValue.toInt < n then Int64.maxValue
    else Int64.ofInt n
  | .infinite negative => if negative then Int64.minValue else Int64.maxValue
  | .nan => 0

end Double
end SearchClient
