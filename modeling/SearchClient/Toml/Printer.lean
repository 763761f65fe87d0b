import SearchClient.Double.Layout
import SearchClient.Toml.Scalar

/-! Writing TOML documents. A table's own values come first, then its tables under headers of their own.
    Arrays of several items have each item on a line. -/

namespace SearchClient.Toml

/-! ### Strings -/

/-- What decides the form in which a string is written. -/
structure TextTraits where
  /-- Has a control character other than the tab and the line feed. -/
  control : Bool
  backslash : Bool
  newline : Bool
  /-- The lengths of the longest runs of quotes and of apostrophes. -/
  quotes : Nat
  apostrophes : Nat

/-- The length of the longest run of a character. -/
def longestRun (c : Char) (cs : List Char) : Nat :=
  (cs.foldl (fun (run, longest) d => if d == c then (run + 1, max longest (run + 1)) else (0, longest)) (0, 0)).2

def TextTraits.of (cs : List Char) : TextTraits where
  control := cs.any fun c => (c.toNat < 0x20 && c != '\t' && c != '\n') || c.toNat == 0x7F
  backslash := cs.contains '\\'
  newline := cs.contains '\n'
  quotes := longestRun '"' cs
  apostrophes := longestRun '\'' cs

/-- The escape of a character other than the quote, in a string of one or of several lines. -/
def writeChar (multiLine : Bool) (c : Char) : List Char :=
  if c == '\x08' then ['\\', 'b']
  else if c == '\t' then ['\\', 't']
  else if c == '\x0c' then ['\\', 'f']
  else if c == '\r' then ['\\', 'r']
  else if c == '\\' then ['\\', '\\']
  else if c == '\n' then if multiLine then [c] else ['\\', 'n']
  else if c.toNat < 0x20 || c.toNat == 0x7F then
    '\\' :: 'u' :: '0' :: '0' :: (Text.hexByte c.toNat).map Char.toUpper
  else [c]

/-- The inside of a string with escapes. Every quote is escaped on one line, and every third one of a run on
    several lines; `run` counts the quotes before the text that are not escaped. -/
def writeBasic (multiLine : Bool) (run : Nat) : List Char → List Char
  | [] => []
  | c :: cs =>
    if c == '"' then
      if multiLine && run < 2 then c :: writeBasic multiLine (run + 1) cs
      else '\\' :: c :: writeBasic multiLine 0 cs
    else writeChar multiLine c ++ writeBasic multiLine 0 cs

def writeOneLine (cs : List Char) : List Char := '"' :: writeBasic false 0 cs ++ ['"']

def writeLiteral (cs : List Char) : List Char := '\'' :: cs ++ ['\'']

/-- A string of several lines; a line break in front keeps the first line apart from the quotes. -/
def writeMultiLine (quote : Char) (newline : Bool) (inside : List Char) : List Char :=
  let quotes := List.replicate 3 quote
  quotes ++ (if newline then ['\n'] else []) ++ inside ++ quotes

/-- A string in the plainest form that can hold it. -/
def writeString (cs : List Char) : List Char :=
  let t := TextTraits.of cs
  if !t.control && !t.backslash && t.quotes == 0 && !t.newline then writeOneLine cs
  else if !t.control && t.apostrophes == 0 && !t.newline then writeLiteral cs
  else if !t.control && !t.backslash && t.quotes ≤ 2 then writeMultiLine '"' t.newline (writeBasic true 0 cs)
  else if !t.control && t.apostrophes ≤ 2 then writeMultiLine '\'' t.newline cs
  else if t.newline then writeMultiLine '"' true (writeBasic true 0 cs)
  else writeOneLine cs

/-- A key: bare if possible, else a string of one line. -/
def writeKey (key : String) : List Char :=
  let cs := key.toList
  let t := TextTraits.of cs
  if !cs.isEmpty && cs.all isBareKeyChar then cs
  else if !t.control && t.apostrophes == 0 && !t.newline && (t.backslash || t.quotes != 0) then writeLiteral cs
  else writeOneLine cs

/-! ### Values -/

/-- A value without parts. -/
def writeScalar : Toml → List Char
  | .str s => writeString s.toList
  | .int n => (toString n.toInt).toList
  | .float x => (NumberLayout.configuration.write x).toList
  | .bool b => (if b then "true" else "false").toList
  | .dateTime d => d.text
  | _ => []

mutual
/-- A value on the right of a key or in an array. -/
def writeValue : Toml → List Char
  | .array [] => ['[', ']']
  | .array [item] => '[' :: writeValue item ++ [']']
  | .array items => '[' :: writeItems items ++ ['\n', ']']
  | .table [] => ['{', '}']
  | .table entries => '{' :: writeInline entries ++ [' ', '}']
  | v => writeScalar v

/-- The items of an array, each on a line. -/
def writeItems : List Toml → List Char
  | [] => []
  | item :: rest => '\n' :: ' ' :: ' ' :: ' ' :: ' ' :: writeValue item ++ ',' :: writeItems rest

/-- The entries of a table inside a value. -/
def writeInline : List (String × Toml) → List Char
  | [] => []
  | [(key, v)] => ' ' :: writeKey key ++ ' ' :: '=' :: ' ' :: writeValue v
  | (key, v) :: rest => ' ' :: writeKey key ++ ' ' :: '=' :: ' ' :: writeValue v ++ ',' :: writeInline rest
end

/-! ### Documents -/

def isTable : Toml → Bool
  | .table _ => true
  | _ => false

/-- Whether a value stands under headers of its own: a table, or an array of nothing but tables. -/
def hasHeader : Toml → Bool
  | .table _ => true
  | .array items => !items.isEmpty && items.all isTable
  | _ => false

/-- The values of a table that have no header. -/
def writeOwn (entries : List (String × Toml)) : List Char :=
  entries.flatMap fun (key, v) =>
    if hasHeader v then [] else writeKey key ++ ' ' :: '=' :: ' ' :: writeValue v ++ ['\n']

/-- The parts of a header with dots between them. -/
def writePath (path : List (List Char)) : List Char := Text.join ['.'] path

/-- Whether a table has a header: one with entries has none if all of them have headers. -/
def needsHeader (entries : List (String × Toml)) : Bool :=
  entries.isEmpty || entries.any fun e => !hasHeader e.2

/-- A table with its header and its own values. -/
def writeSection (path : List (List Char)) (inArray : Bool) (entries : List (String × Toml)) :
    List (List Char) :=
  let header :=
    if path.isEmpty then []
    else if inArray then '[' :: '[' :: writePath path ++ [']', ']', '\n']
    else '[' :: writePath path ++ [']', '\n']
  if path.isEmpty then
    let own := writeOwn entries
    if own.isEmpty then [] else [own]
  else if inArray || needsHeader entries then [header ++ writeOwn entries] else []

mutual
/-- The sections of an entry of a table: those of a table, or of each table of an array. -/
def entrySections (path : List (List Char)) : Toml → List (List Char)
  | .table entries => writeSection path false entries ++ tableSections path entries
  | .array items => if !items.isEmpty && items.all isTable then arraySections path items else []
  | _ => []

/-- The sections of the entries of a table. -/
def tableSections (path : List (List Char)) : List (String × Toml) → List (List Char)
  | [] => []
  | (key, v) :: rest => entrySections (path ++ [writeKey key]) v ++ tableSections path rest

/-- The sections of the tables of an array. -/
def arraySections (path : List (List Char)) : List Toml → List (List Char)
  | [] => []
  | .table entries :: rest =>
    writeSection path true entries ++ tableSections path entries ++ arraySections path rest
  | _ :: rest => arraySections path rest
end

/-- A document: its sections with an empty line between them. -/
def writeDocument (entries : List (String × Toml)) : List Char :=
  Text.join ['\n'] (writeSection [] false entries ++ tableSections [] entries)

end SearchClient.Toml
