import SearchClient.Double.Rounding

/-! The shortest decimal that reads back as a given number. A decimal reads back if it lies in the interval of
    values that round to the number. For one digit, two digits and so on, the two neighbours of the number on
    the grid of decimals with that many digits are tried; the first grid with a hit wins, and of two hits the
    nearer one. -/

namespace SearchClient

/-- The decimal `digits * 10 ^ exponent`. -/
structure Decimal where
  digits : Nat
  exponent : Int
deriving DecidableEq

/-- Which of two equally near decimals is taken. -/
inductive TieRule where
  | up
  | even
deriving DecidableEq

namespace Magnitude

/-- The greatest `k` with `10 ^ k ≤ num / den`, for positive `num` and `den`. -/
def floorLog10 (num den : Nat) : Int :=
  let k : Int := (Double.digitCount num : Int) - Double.digitCount den
  if den * Nat.pow 10 k.toNat ≤ num * Nat.pow 10 (-k).toNat then k else k - 1

/-- Whether `n * unit` rounds to `x`, where `unit` is a ratio. The bounds lie half way to the neighbours
    of `x`, and belong to the interval if the significand is even. In quarters of the distance between
    `x` and its successor, `x` is `4 * significand`. -/
def readsBack (x : Magnitude) (unit : Nat × Nat) (n : Nat) : Bool :=
  let quarter := x.exponent - 2
  let below := if x.significand = leastFullSignificand ∧ x.exponent ≠ -1074 then 1 else 2
  -- `n * unit` in quarters is `value / scale`
  let value := (n * unit.1) <<< (-quarter).toNat
  let scale := unit.2 <<< quarter.toNat
  let low := (4 * x.significand - below) * scale
  let high := (4 * x.significand + 2) * scale
  if x.significand % 2 = 0 then low ≤ value && value ≤ high else low < value && value < high

/-- The decimal nearest to `x` among its neighbours with `count` digits that read back. -/
def neighbour? (x : Magnitude) (tie : TieRule) (count : Nat) : Option Decimal :=
  let (num, den) := x.ratio
  let exponent := floorLog10 num den + 1 - count
  let unit := (Nat.pow 10 exponent.toNat, Nat.pow 10 (-exponent).toNat)
  -- `x / unit` is `top / bottom`
  let top := num * unit.2
  let bottom := den * unit.1
  let q := top / bottom
  let r := top % bottom
  let lower := x.readsBack unit q
  let upper := x.readsBack unit (q + 1)
  let takeUpper := upper && (!lower || bottom < 2 * r ||
    (bottom == 2 * r && (tie == .up || q % 2 == 1)))
  if takeUpper then some ⟨q + 1, exponent⟩
  else if lower then some ⟨q, exponent⟩
  else none

/-- A decimal without zeros at the end of its digits; `fuel` bounds their number. -/
def dropZeros : Nat → Decimal → Decimal
  | 0, d => d
  | fuel + 1, d => if d.digits % 10 = 0 then dropZeros fuel ⟨d.digits / 10, d.exponent + 1⟩ else d

/-- The shortest decimal that reads back as `x`, and the nearest of those. Seventeen digits always
    suffice. -/
def shortest (x : Magnitude) (tie : TieRule) : Decimal :=
  if x.isZero then ⟨0, 0⟩
  else match (List.range' 1 17).findSome? (x.neighbour? tie) with
    | some d => dropZeros 20 d
    | none => ⟨0, 0⟩

end Magnitude
end SearchClient
