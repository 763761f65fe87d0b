import SearchClient.Json.Basic
import SearchClient.Text.Hexadecimal
import SearchClient.Text.Number

/-! Reading JSON texts. A reader takes the characters from a position on and gives a value with the
    characters after it; each reads at least one character, so the length of the text bounds the recursion. -/

namespace SearchClient.Json
open Text

/-- The white space of JSON. -/
def isSpace (c : Char) : Bool := c == ' ' || c == '\t' || c == '\n' || c == '\r'

def skipSpace (cs : List Char) : List Char := cs.dropWhile isSpace

/-! ### Strings -/

/-- The character that a backslash makes of the character after it. -/
def escape? (c : Char) : Option Char :=
  match c with
  | '"' => some '"'
  | '\\' => some '\\'
  | '/' => some '/'
  | 'b' => some '\x08'
  | 'f' => some '\x0c'
  | 'n' => some '\n'
  | 'r' => some '\r'
  | 't' => some '\t'
  | _ => none

/-- The code units up to the closing quote, and the text after it. Halves of surrogate pairs stand for
    themselves. -/
def codeUnits? : List Char → Option (List Nat × List Char)
  | [] => none
  | '"' :: cs => some ([], cs)
  | '\\' :: 'u' :: a :: b :: c :: d :: cs => do
    let unit ← hexValue? [a, b, c, d]
    let (units, rest) ← codeUnits? cs
    return (unit :: units, rest)
  | '\\' :: c :: cs => do
    let char ← escape? c
    let (units, rest) ← codeUnits? cs
    return (char.toNat :: units, rest)
  | c :: cs => do
    if c.toNat < 0x20 || c == '\\' then none
    let (units, rest) ← codeUnits? cs
    return (c.toNat :: units, rest)

def isHighHalf (n : Nat) : Bool := 0xD800 ≤ n && n ≤ 0xDBFF

def isLowHalf (n : Nat) : Bool := 0xDC00 ≤ n && n ≤ 0xDFFF

/-- The characters of code units; none if a half of a surrogate pair stands alone. -/
def joinHalves? : List Nat → Option (List Char)
  | [] => some []
  | [n] => if isHighHalf n || isLowHalf n then none else some [Char.ofNat n]
  | n :: m :: units =>
    if isHighHalf n then
      if isLowHalf m then
        (joinHalves? units).map (Char.ofNat (0x10000 + (n - 0xD800) * 0x400 + (m - 0xDC00)) :: ·)
      else none
    else if isLowHalf n then none
    else (joinHalves? (m :: units)).map (Char.ofNat n :: ·)

/-! ### Numbers -/

/-- The characters of a number: digits without a zero in front, an optional fraction and an optional
    exponent. Gives the whole digits, the fraction, the exponent and the text after it. -/
def numberParts? (cs : List Char) :
    Option (List Char × Option (List Char) × Option (Bool × List Char) × List Char) := do
  let whole := cs.takeWhile Char.isDigit
  let cs := cs.dropWhile Char.isDigit
  if whole.isEmpty || (whole.head? == some '0' && whole.length != 1) then none
  let (fraction, cs) ← match cs with
    | '.' :: rest =>
      let digits := rest.takeWhile Char.isDigit
      if digits.isEmpty then none else some (some digits, rest.dropWhile Char.isDigit)
    | _ => some (none, cs)
  match cs with
  | e :: rest =>
    if e == 'e' || e == 'E' then
      let (below, rest) := signed rest
      let digits := rest.takeWhile Char.isDigit
      if digits.isEmpty then none else some (whole, fraction, some (below, digits), rest.dropWhile Char.isDigit)
    else some (whole, fraction, none, cs)
  | [] => some (whole, fraction, none, [])

/-- The value of a number. Without a point and an exponent it is an integer, if it fits 64 bits with or
    without a sign; everything else is the nearest floating-point number. -/
def numberValue (negative : Bool) (whole : List Char) (fraction : Option (List Char))
    (exponent : Option (Bool × List Char)) : Json :=
  let digits := (natural? (whole ++ fraction.getD [])).getD 0
  let isInteger := fraction.isNone && exponent.isNone &&
    (if negative then 0 < digits && Double.fitsInt64 (-(digits : Int)) else digits < UInt64.size)
  if isInteger then .int (if negative then -(digits : Int) else digits)
  else
    let power : Int := match exponent with
      | some (below, ds) =>
        let n := (natural? ds).getD 0
        if below then -(n : Int) else n
      | none => 0
    match Double.ofDecimal negative digits (power - (fraction.getD []).length) with
    | .finite s x => .float (.finite s x)
    | _ => .unreadable

def number? (cs : List Char) : Option (Json × List Char) :=
  let (negative, cs) := match cs with
    | '-' :: rest => (true, rest)
    | _ => (false, cs)
  (numberParts? cs).map fun (whole, fraction, exponent, rest) =>
    (numberValue negative whole fraction exponent, rest)

/-! ### Values -/

/-- A string whose opening quote has been read. -/
def string? (cs : List Char) : Option (Option String × List Char) :=
  (codeUnits? cs).map fun (units, rest) => ((joinHalves? units).map String.ofList, rest)

/-- The items of an array up to its closing bracket, the first of which has to follow. -/
def items? (value? : List Char → Option (Json × List Char)) :
    Nat → List Char → Option (List Json × List Char)
  | 0, _ => none
  | fuel + 1, cs => do
    let (item, cs) ← value? cs
    match skipSpace cs with
    | ',' :: rest =>
      let (items, rest) ← items? value? fuel rest
      return (item :: items, rest)
    | ']' :: rest => return ([item], rest)
    | _ => none

/-- The members of an object up to its closing brace, the first of which has to follow. A member whose name
    denotes no text has no name. -/
def members? (value? : List Char → Option (Json × List Char)) :
    Nat → List Char → Option (List (Option String × Json) × List Char)
  | 0, _ => none
  | fuel + 1, cs => do
    let '"' :: cs := skipSpace cs | none
    let (name, cs) ← string? cs
    let ':' :: cs := skipSpace cs | none
    let (value, cs) ← value? cs
    match skipSpace cs with
    | ',' :: rest =>
      let (members, rest) ← members? value? fuel rest
      return ((name, value) :: members, rest)
    | '}' :: rest => return ([(name, value)], rest)
    | _ => none

/-- The members of an object if all of them have names. -/
def named? (members : List (Option String × Json)) : Option (List (String × Json)) :=
  members.mapM fun (name, value) => name.map (·, value)

/-- The value at a position, with white space in front. -/
def value? : Nat → List Char → Option (Json × List Char)
  | 0, _ => none
  | fuel + 1, cs =>
    match skipSpace cs with
    | [] => none
    | 'n' :: 'u' :: 'l' :: 'l' :: rest => some (.null, rest)
    | 't' :: 'r' :: 'u' :: 'e' :: rest => some (.bool true, rest)
    | 'f' :: 'a' :: 'l' :: 's' :: 'e' :: rest => some (.bool false, rest)
    | '"' :: rest => (string? rest).map fun (s, rest) => (s.elim .unreadable .str, rest)
    | '[' :: rest =>
      match skipSpace rest with
      | ']' :: rest => some (.arr [], rest)
      | rest => (items? (value? fuel) rest.length rest).map fun (items, rest) => (.arr items, rest)
    | '{' :: rest =>
      match skipSpace rest with
      | '}' :: rest => some (.obj [], rest)
      | rest => (members? (value? fuel) rest.length rest).map fun (members, rest) =>
        ((named? members).elim .unreadable .obj, rest)
    | cs => number? cs

/-- The value of a text, with nothing but white space around it. -/
def ofText? (text : String) : Option Json :=
  let cs := text.toList
  match value? (cs.length + 1) cs with
  | some (value, rest) => if (skipSpace rest).isEmpty then some value else none
  | none => none

end SearchClient.Json
