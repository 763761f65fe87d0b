import SearchClient.Double.Rounding
import SearchClient.Text.Split

/-! Numbers in texts. Only ASCII digits count, nothing may stand around the number, and integers must fit
    64 bits. -/

namespace SearchClient.Text

/-- The value of a run of ASCII digits; none if there is no digit or something else. -/
def natural? (cs : List Char) : Option Nat :=
  if cs.isEmpty || !cs.all Char.isDigit then none
  else some (cs.foldl (fun n c => 10 * n + (c.toNat - '0'.toNat)) 0)

/-- A sign in front of a text, as "is negative", and the text after it. -/
def signed : List Char → Bool × List Char
  | '-' :: cs => (true, cs)
  | '+' :: cs => (false, cs)
  | cs => (false, cs)

/-- An integer with an optional sign, in the range of 64 bits. -/
def integer? (cs : List Char) : Option Int64 :=
  let (negative, digits) := signed cs
  match natural? digits with
  | none => none
  | some n =>
    let value : Int := if negative then -(n : Int) else n
    if Double.fitsInt64 value then some (Int64.ofInt value) else none

/-- A decimal without a sign: digits with an optional point on either side of which digits may be
    missing, but not on both, and an optional exponent. -/
def decimal? (negative : Bool) (cs : List Char) : Option Double :=
  let isMark (c : Char) := c == 'e' || c == 'E'
  let mantissa := cs.takeWhile (!isMark ·)
  let exponent? : Option Int := match cs.dropWhile (!isMark ·) with
    | [] => some 0
    | _ :: rest =>
      let (below, digits) := signed rest
      (natural? digits).map fun n => if below then -(n : Int) else n
  let whole := mantissa.takeWhile (· != '.')
  let fraction := (mantissa.dropWhile (· != '.')).drop 1
  match natural? (whole ++ fraction), exponent? with
  | some digits, some exponent => some (Double.ofDecimal negative digits (exponent - fraction.length))
  | _, _ => none

/-- A floating-point number: a sign, then `inf`, `infinity` or `nan` in any case of letters, or a decimal.
    Values out of range become infinite or zero. -/
def double? (cs : List Char) : Option Double :=
  let (negative, rest) := signed cs
  let name := rest.map Char.toLower
  if name == "inf".toList || name == "infinity".toList then some (.infinite negative)
  else if name == "nan".toList then some .nan
  else decimal? negative rest

end SearchClient.Text
