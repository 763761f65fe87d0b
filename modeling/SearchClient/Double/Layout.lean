import SearchClient.Double.Shortest

/-! How numbers are written: the shortest digits that read back, laid out by the conventions of the output in
    which they stand. -/

namespace SearchClient

/-- The conventions of one output for writing numbers. -/
structure NumberLayout where
  /-- Which of two equally near shortest decimals is taken. -/
  tie : TieRule
  /-- Whole numbers end in `.0`. -/
  pointZero : Bool
  /-- The positions of the decimal point, counted from the first digit, for which no exponent is written. -/
  positional : Int → Bool
  /-- The texts of the infinities and of NaN. -/
  infinity : String
  negativeInfinity : String
  nan : String

namespace NumberLayout

/-- Plain text: never an exponent. -/
def plain : NumberLayout where
  tie := .up
  pointZero := false
  positional := fun _ => true
  infinity := "inf"
  negativeInfinity := "-inf"
  nan := "NaN"

/-- Configuration files: like plain text, but whole numbers keep a point. -/
def configuration : NumberLayout := { plain with pointZero := true, nan := "nan" }

/-- JSON: an exponent below `0.00001` and from ten to the sixteenth on; what is not finite is null. -/
def json : NumberLayout where
  tie := .even
  pointZero := true
  positional := fun point => -5 < point && point ≤ 16
  infinity := "null"
  negativeInfinity := "null"
  nan := "null"

/-- The digits with the decimal point at a position counted from the first digit. -/
def writePositional (layout : NumberLayout) (digits : List Char) (point : Int) : List Char :=
  if point ≤ 0 then '0' :: '.' :: List.replicate (-point).toNat '0' ++ digits
  else
    let point := point.toNat
    if digits.length ≤ point then
      digits ++ List.replicate (point - digits.length) '0' ++ (if layout.pointZero then ['.', '0'] else [])
    else digits.take point ++ '.' :: digits.drop point

/-- The digits with an exponent: one digit stands in front of the point. -/
def writeScientific (digits : List Char) (point : Int) : List Char :=
  let exponent := point - 1
  let fraction := digits.drop 1
  digits.take 1 ++ (if fraction.isEmpty then [] else '.' :: fraction) ++
    ['e', if exponent < 0 then '-' else '+'] ++ Nat.toDigits 10 exponent.natAbs

/-- A magnitude by the conventions of an output. -/
def writeMagnitude (layout : NumberLayout) (x : Magnitude) : List Char :=
  let d := x.shortest layout.tie
  let digits := Nat.toDigits 10 d.digits
  let point := digits.length + d.exponent
  if layout.positional point then layout.writePositional digits point else writeScientific digits point

/-- A number by the conventions of an output. -/
def write (layout : NumberLayout) : Double → String
  | .finite negative x => String.ofList ((if negative then ['-'] else []) ++ layout.writeMagnitude x)
  | .infinite negative => if negative then layout.negativeInfinity else layout.infinity
  | .nan => layout.nan

end NumberLayout

/-- A number in plain text: `1`, `-0`, `0.0000001`, `inf`, `NaN`. -/
def Double.text (x : Double) : String := NumberLayout.plain.write x

end SearchClient
