import SearchClient.Text.Number

/-! Dates and times, as TOML writes them. What begins like a date or a time is one or cannot be read at all: no number
    has a hyphen after four digits or a colon after two. -/

namespace SearchClient
open Text

/-- A day of the calendar. -/
structure Date where
  year : Nat
  month : Nat
  day : Nat
deriving DecidableEq

/-- A time of day. The last minute of a day may have a second more. -/
structure TimeOfDay where
  hour : Nat
  minute : Nat
  second : Nat
  nanosecond : Nat := 0
deriving DecidableEq

/-- How far a time is ahead of universal time. A time that is universal is marked with a letter. -/
inductive TimeOffset where
  | universal
  | ahead (minutes : Int)
deriving DecidableEq

/-- A date, a time, or a date with a time; only the last may have an offset. -/
structure DateTime where
  date : Option Date := none
  time : Option TimeOfDay := none
  offset : Option TimeOffset := none
deriving DecidableEq

/-! ### Texts -/

/-- A number in decimal, with zeros in front up to a width. -/
def padded (width n : Nat) : List Char :=
  let digits := Nat.toDigits 10 n
  List.replicate (width - digits.length) '0' ++ digits

def Date.text (date : Date) : List Char :=
  padded 4 date.year ++ '-' :: padded 2 date.month ++ '-' :: padded 2 date.day

/-- The digits behind the point; zeros at their end are left out. -/
def fractionText (nanosecond : Nat) : List Char :=
  if nanosecond == 0 then [] else '.' :: ((padded 9 nanosecond).reverse.dropWhile (· == '0')).reverse

def TimeOfDay.text (time : TimeOfDay) : List Char :=
  padded 2 time.hour ++ ':' :: padded 2 time.minute ++ ':' :: padded 2 time.second ++ fractionText time.nanosecond

def TimeOffset.text : TimeOffset → List Char
  | .universal => ['Z']
  | .ahead n => (if n < 0 then '-' else '+') :: padded 2 (n.natAbs / 60) ++ ':' :: padded 2 (n.natAbs % 60)

def DateTime.text (d : DateTime) : List Char :=
  d.date.elim [] Date.text ++ (if d.date.isSome && d.time.isSome then ['T'] else []) ++
    d.time.elim [] TimeOfDay.text ++ d.offset.elim [] TimeOffset.text

/-! ### Reading -/

/-- A number of two digits between bounds. -/
def twoDigits? (low high : Nat) : List Char → Option (Nat × List Char)
  | a :: b :: cs => do
    let n ← natural? [a, b]
    if low ≤ n && n ≤ high then return (n, cs) else none
  | _ => none

/-- The number of days of a month. -/
def daysOf (year month : Nat) : Nat :=
  if month == 2 then if year % 4 == 0 && (year % 100 != 0 || year % 400 == 0) then 29 else 28
  else if month == 4 || month == 6 || month == 9 || month == 11 then 30
  else 31

/-- A date. Gives none unless a year with a hyphen stands there, and fails if no day of that year follows. -/
def Date.read? (cs : List Char) : Option (Option Date × List Char) :=
  match cs with
  | a :: b :: c :: d :: '-' :: rest =>
    match natural? [a, b, c, d] with
    | none => some (none, cs)
    | some year => do
      let (month, rest) ← twoDigits? 1 12 rest
      let '-' :: rest := rest | none
      let (day, rest) ← twoDigits? 1 (daysOf year month) rest
      return (some ⟨year, month, day⟩, rest)
  | _ => some (none, cs)

/-- The fraction of a second in nanoseconds; digits behind the ninth are dropped. -/
def nanoseconds : List Char → Nat × List Char
  | '.' :: cs =>
    let digits := cs.takeWhile Char.isDigit
    if digits.isEmpty then (0, '.' :: cs)
    else ((natural? ((digits ++ List.replicate 9 '0').take 9)).getD 0, cs.dropWhile Char.isDigit)
  | cs => (0, cs)

/-- A time. Gives none unless an hour with a colon stands there, and fails if no minute and second follow. -/
def TimeOfDay.read? (cs : List Char) : Option (Option TimeOfDay × List Char) :=
  match twoDigits? 0 23 cs with
  | some (hour, ':' :: rest) => do
    let (minute, rest) ← twoDigits? 0 59 rest
    let ':' :: rest := rest | none
    let (second, rest) ← twoDigits? 0 60 rest
    let (nanosecond, rest) := nanoseconds rest
    return (some ⟨hour, minute, second, nanosecond⟩, rest)
  | _ => some (none, cs)

/-- An offset. Gives none unless the letter or a sign stands there, and fails if no hours and minutes follow the sign. -/
def TimeOffset.read? : List Char → Option (Option TimeOffset × List Char)
  | c :: cs =>
    if c == 'Z' || c == 'z' then some (some .universal, cs)
    else if c == '+' || c == '-' then do
      let (hour, cs) ← twoDigits? 0 23 cs
      let ':' :: cs := cs | none
      let (minute, cs) ← twoDigits? 0 59 cs
      let minutes : Int := hour * 60 + minute
      return (some (.ahead (if c == '-' then -minutes else minutes)), cs)
    else some (none, c :: cs)
  | [] => some (none, [])

/-- The time behind a date, with a letter or a space in front. -/
def TimeOfDay.readAfterDate? (cs : List Char) : Option (Option TimeOfDay × List Char) :=
  match cs with
  | c :: rest => if c == 'T' || c == 't' || c == ' ' then read? rest else some (none, cs)
  | [] => some (none, cs)

/-- A date, a time, or both. Gives none if neither stands there. -/
def DateTime.read? (cs : List Char) : Option (Option DateTime × List Char) := do
  match ← Date.read? cs with
  | (none, _) =>
    let (time, rest) ← TimeOfDay.read? cs
    return (time.map fun time => { time := some time }, rest)
  | (some date, rest) =>
    match ← TimeOfDay.readAfterDate? rest with
    | (none, _) => return (some { date := some date }, rest)
    | (some time, rest) =>
      let (offset, rest) ← TimeOffset.read? rest
      return (some { date := some date, time := some time, offset }, rest)

end SearchClient
