import SearchClient.Double.Basic

/-! The binary64 number nearest to an exact value; of two equally near ones, the one with the even
    significand. -/

namespace SearchClient

/-- The natural number nearest to `num / den`; a half goes to the even neighbour. -/
def roundHalfEven (num den : Nat) : Nat :=
  let q := num / den
  let r := num % den
  if 2 * r < den then q
  else if den < 2 * r then q + 1
  else q + q % 2

namespace Magnitude

/-- The greatest `k` with `2 ^ k ≤ num / den`, for positive `num` and `den`. -/
def floorLog2 (num den : Nat) : Int :=
  let k : Int := (num.log2 : Int) - den.log2
  if den <<< k.toNat ≤ num <<< (-k).toNat then k else k - 1

/-- The magnitude nearest to `num / den`; none if it is too large. -/
def ofRatio? (num den : Nat) : Option Magnitude :=
  if num = 0 then some zero
  else
    let exponent := max (-1074) (floorLog2 num den - 52)
    let significand := roundHalfEven (num <<< (-exponent).toNat) (den <<< exponent.toNat)
    if significand = significandBound then ofParts? leastFullSignificand (exponent + 1)
    else ofParts? significand exponent

end Magnitude

namespace Double

/-- The number nearest to `num / den` with the given sign; infinite if it is too large. -/
def ofRatio (negative : Bool) (num den : Nat) : Double :=
  match Magnitude.ofRatio? num den with
  | some x => .finite negative x
  | none => .infinite negative

/-- The number nearest to an integer. -/
def ofInt (n : Int) : Double := ofRatio (n < 0) n.natAbs 1

/-- The count of decimal digits of a natural number; zero has one. -/
def digitCount (n : Nat) : Nat := (Nat.toDigits 10 n).length

/-- The number nearest to `digits * 10 ^ exponent`. Beyond the range of the type the value is infinite or
    zero, so extreme exponents need no arithmetic. -/
def ofDecimal (negative : Bool) (digits : Nat) (exponent : Int) : Double :=
  if digits = 0 then zero negative
  else
    let position := digitCount digits + exponent
    if 310 < position then .infinite negative
    else if position < -330 then zero negative
    else ofRatio negative (digits * Nat.pow 10 exponent.toNat) (Nat.pow 10 (-exponent).toNat)

end Double
end SearchClient
