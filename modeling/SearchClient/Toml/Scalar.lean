import SearchClient.Text.Hexadecimal
import SearchClient.Text.Number
import SearchClient.Toml.Basic

/-! Reading the strings, numbers and keys of TOML. A reader takes the characters from a position on and gives
    what it read with the characters after it. -/

namespace SearchClient.Toml
open Text

/-- The white space inside a line. -/
def isSpace (c : Char) : Bool := c == ' ' || c == '\t'

def skipSpace (cs : List Char) : List Char := cs.dropWhile isSpace

/-- Whether a character may stand in a comment or a string: no control character except the tab. -/
def isPrintable (c : Char) : Bool := c == '\t' || (0x20 ≤ c.toNat && c.toNat ≠ 0x7F)

/-- The text after a line feed, with an optional carriage return in front of it. -/
def newline? : List Char → Option (List Char)
  | '\n' :: cs => some cs
  | '\r' :: '\n' :: cs => some cs
  | _ => none

/-! ### Strings -/

/-- The character with a number, if the number is that of a character. -/
def scalarValue? (n : Nat) : Option Char := if n.isValidChar then some (Char.ofNat n) else none

/-- The character of an escape whose backslash has been read. -/
def escape? : List Char → Option (Char × List Char)
  | 'b' :: cs => some ('\x08', cs)
  | 't' :: cs => some ('\t', cs)
  | 'n' :: cs => some ('\n', cs)
  | 'f' :: cs => some ('\x0c', cs)
  | 'r' :: cs => some ('\r', cs)
  | '"' :: cs => some ('"', cs)
  | '\\' :: cs => some ('\\', cs)
  | 'u' :: a :: b :: c :: d :: cs =>
    (hexValue? [a, b, c, d] >>= scalarValue?).map (·, cs)
  | 'U' :: a :: b :: c :: d :: e :: f :: g :: h :: cs =>
    (hexValue? [a, b, c, d, e, f, g, h] >>= scalarValue?).map (·, cs)
  | _ => none

/-- A one-line string with escapes, up to its closing quote. -/
def basic? : Nat → List Char → Option (List Char × List Char)
  | 0, _ => none
  | _ + 1, [] => none
  | _ + 1, '"' :: cs => some ([], cs)
  | fuel + 1, '\\' :: cs => do
    let (c, cs) ← escape? cs
    let (text, cs) ← basic? fuel cs
    return (c :: text, cs)
  | fuel + 1, c :: cs => do
    if !isPrintable c then none
    let (text, cs) ← basic? fuel cs
    return (c :: text, cs)

/-- A one-line string without escapes, up to its closing apostrophe. -/
def literal? : List Char → Option (List Char × List Char)
  | [] => none
  | '\'' :: cs => some ([], cs)
  | c :: cs => do
    if !isPrintable c then none
    let (text, cs) ← literal? cs
    return (c :: text, cs)

/-- The length of the run of a character in front of a text. -/
def runLength (c : Char) (cs : List Char) : Nat := (cs.takeWhile (· == c)).length

/-- What a run of `count` quotes in a string of several lines stands for: fewer than three are text, and of
    more the last three close the string; at most two may stand in front of them. -/
def closing (count : Nat) : Nat × Bool := if count < 3 then (count, false) else (min (count - 3) 2, true)

/-- A line break after a backslash, with the white space around it. -/
def lineContinuation? (cs : List Char) : Option (List Char) :=
  (newline? (skipSpace cs)).map skipBreaks
where
  skipBreaks : List Char → List Char
    | [] => []
    | '\r' :: '\n' :: cs => skipBreaks cs
    | c :: cs => if isSpace c || c == '\n' then skipBreaks cs else c :: cs

/-- A string of several lines, up to its closing quotes; `escapes` tells whether a backslash is special. -/
def multiLine? (quote : Char) (escapes : Bool) : Nat → List Char → Option (List Char × List Char)
  | 0, _ => none
  | fuel + 1, cs =>
    match cs with
    | [] => none
    | c :: rest =>
      if c == quote then
        let (kept, closed) := closing (runLength quote cs)
        let quotes := List.replicate kept quote
        if closed then some (quotes, cs.drop (kept + 3))
        else (multiLine? quote escapes fuel (cs.drop kept)).map fun (text, cs) => (quotes ++ text, cs)
      else if escapes && c == '\\' then
        match lineContinuation? rest with
        | some rest => multiLine? quote escapes fuel rest
        | none => do
          let (c, rest) ← escape? rest
          let (text, cs) ← multiLine? quote escapes fuel rest
          return (c :: text, cs)
      else match newline? cs with
        | some rest => (multiLine? quote escapes fuel rest).map fun (text, cs) => ('\n' :: text, cs)
        | none => do
          if !isPrintable c then none
          let (text, cs) ← multiLine? quote escapes fuel rest
          return (c :: text, cs)

/-- A string of several lines whose opening quotes have been read; a line break right after them is no part
    of it. -/
def openedMultiLine? (quote : Char) (escapes : Bool) (cs : List Char) : Option (List Char × List Char) :=
  multiLine? quote escapes (cs.length + 1) ((newline? cs).getD cs)

/-- A string of any kind. -/
def string? : List Char → Option (List Char × List Char)
  | '"' :: '"' :: '"' :: cs => openedMultiLine? '"' true cs
  | '\'' :: '\'' :: '\'' :: cs => openedMultiLine? '\'' false cs
  | '"' :: cs => basic? (cs.length + 1) cs
  | '\'' :: cs => literal? cs
  | _ => none

/-! ### Numbers -/

/-- The digits of a run; single underscores may stand between two digits. -/
def moreDigits? (isDigit : Char → Bool) : List Char → Option (List Char × List Char)
  | '_' :: d :: cs =>
    if isDigit d then (moreDigits? isDigit cs).map fun (ds, cs) => (d :: ds, cs) else none
  | c :: cs =>
    if isDigit c then (moreDigits? isDigit cs).map fun (ds, cs) => (c :: ds, cs)
    else if c == '_' then none
    else some ([], c :: cs)
  | [] => some ([], [])

/-- A run of at least one digit. -/
def digits? (isDigit : Char → Bool) : List Char → Option (List Char × List Char)
  | c :: cs =>
    if isDigit c then (moreDigits? isDigit cs).map fun (ds, cs) => (c :: ds, cs) else none
  | [] => none

/-- An integer, if it fits 64 bits with a sign. -/
def int? (n : Int) : Option Toml := if Double.fitsInt64 n then some (.int (Int64.ofInt n)) else none

/-- A number in base sixteen, eight or two whose mark has been read. -/
def based? (base : Nat) (isDigit : Char → Bool) (cs : List Char) : Option (Toml × List Char) := do
  let (ds, cs) ← digits? isDigit cs
  let n ← ds.foldlM (fun n c => (hexDigit? c).map (base * n + ·)) 0
  let value ← int? n
  return (value, cs)

/-- The digits after a decimal point. Gives none if there is no point, and fails if no digit follows it. -/
def fraction? : List Char → Option (Option (List Char) × List Char)
  | '.' :: cs => (digits? Char.isDigit cs).map fun (ds, cs) => (some ds, cs)
  | cs => some (none, cs)

/-- An exponent with its sign. Gives none if there is none, and fails if it has no digits. -/
def exponent? : List Char → Option (Option Int × List Char)
  | c :: cs =>
    if c == 'e' || c == 'E' then do
      let (below, cs) := signed cs
      let (ds, cs) ← digits? Char.isDigit cs
      let n ← natural? ds
      return (some (if below then -(n : Int) else n), cs)
    else some (none, c :: cs)
  | [] => some (none, [])

/-- A decimal number: an integer, or with a point or an exponent a floating-point number. Numbers with more
    than one digit do not begin with zero, and none is too large for the type. -/
def decimal? (negative : Bool) (cs : List Char) : Option (Toml × List Char) := do
  let (whole, cs) ← match cs with
    | '0' :: cs => some (['0'], cs)
    | cs => digits? Char.isDigit cs
  let (fraction, cs) ← fraction? cs
  let (exponent, cs) ← exponent? cs
  let digits ← natural? (whole ++ fraction.getD [])
  if fraction.isNone && exponent.isNone then
    let value ← int? (if negative then -(digits : Int) else digits)
    return (value, cs)
  else
    let x := Double.ofDecimal negative digits (exponent.getD 0 - (fraction.getD []).length)
    if x = .infinite false then none
    return (.float x, cs)

def number? (cs : List Char) : Option (Toml × List Char) :=
  match cs with
  | '0' :: 'x' :: cs => based? 16 (fun c => (hexDigit? c).isSome) cs
  | '0' :: 'o' :: cs => based? 8 (fun c => '0' ≤ c && c ≤ '7') cs
  | '0' :: 'b' :: cs => based? 2 (fun c => c == '0' || c == '1') cs
  | _ =>
    let (negative, rest) := signed cs
    match rest with
    | 'i' :: 'n' :: 'f' :: rest => some (.float (.infinite negative), rest)
    | 'n' :: 'a' :: 'n' :: rest => some (.float .nan, rest)
    | rest => decimal? negative rest

/-! ### Keys -/

def isBareKeyChar (c : Char) : Bool := c.isAlphanum || c == '_' || c == '-'

/-- A key without dots. -/
def simpleKey? : List Char → Option (String × List Char)
  | '"' :: cs => (basic? (cs.length + 1) cs).map fun (key, cs) => (String.ofList key, cs)
  | '\'' :: cs => (literal? cs).map fun (key, cs) => (String.ofList key, cs)
  | cs =>
    let key := cs.takeWhile isBareKeyChar
    if key.isEmpty then none else some (String.ofList key, cs.dropWhile isBareKeyChar)

/-- The greatest number of nested arrays and tables, and of parts of a key. -/
def maxDepth : Nat := 79

/-- A key of at most `parts` parts with dots between them, and the white space around each part. -/
def key? : Nat → List Char → Option (List String × List Char)
  | 0, _ => none
  | parts + 1, cs => do
    let (part, cs) ← simpleKey? (skipSpace cs)
    match skipSpace cs with
    | '.' :: cs =>
      let (rest, cs) ← key? parts cs
      return (part :: rest, cs)
    | cs => return ([part], cs)

end SearchClient.Toml
