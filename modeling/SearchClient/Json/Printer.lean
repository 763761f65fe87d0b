import SearchClient.Json.Basic
import SearchClient.Text.Hexadecimal
import SearchClient.Double.Layout

/-! Writing JSON texts: on one line without spaces, or with one item or member on each line. Strings escape
    the quote, the backslash and control characters, and nothing else. -/

namespace SearchClient.Json

/-- A character inside a string. -/
def writeChar (c : Char) : List Char :=
  match c with
  | '"' => ['\\', '"']
  | '\\' => ['\\', '\\']
  | '\x08' => ['\\', 'b']
  | '\x0c' => ['\\', 'f']
  | '\n' => ['\\', 'n']
  | '\r' => ['\\', 'r']
  | '\t' => ['\\', 't']
  | c =>
    if c.toNat < 0x20 then '\\' :: 'u' :: '0' :: '0' :: Text.hexByte c.toNat else [c]

def writeString (s : String) : List Char := '"' :: s.toList.flatMap writeChar ++ ['"']

/-- The value of a scalar, in either form. -/
def writeScalar : Json → List Char
  | .bool b => (if b then "true" else "false").toList
  | .int n => (toString n).toList
  | .float x => (NumberLayout.json.write x).toList
  | .str s => writeString s
  | _ => "null".toList

mutual
/-- A value on one line, without spaces. -/
def compactChars : Json → List Char
  | .arr items => '[' :: compactItems items ++ [']']
  | .obj members => '{' :: compactMembers members ++ ['}']
  | v => v.writeScalar

def compactItems : List Json → List Char
  | [] => []
  | [item] => compactChars item
  | item :: rest => compactChars item ++ ',' :: compactItems rest

def compactMembers : List (String × Json) → List Char
  | [] => []
  | [(name, value)] => writeString name ++ ':' :: compactChars value
  | (name, value) :: rest => writeString name ++ ':' :: compactChars value ++ ',' :: compactMembers rest
end

/-- A line break and the indentation of a level. -/
def newLine (level : Nat) : List Char := '\n' :: List.replicate (2 * level) ' '

mutual
/-- A value with each item and member on a line of its own, indented by two spaces a level. -/
def prettyChars (level : Nat) : Json → List Char
  | .arr [] => ['[', ']']
  | .arr items => '[' :: prettyItems (level + 1) items ++ newLine level ++ [']']
  | .obj [] => ['{', '}']
  | .obj members => '{' :: prettyMembers (level + 1) members ++ newLine level ++ ['}']
  | v => v.writeScalar

def prettyItems (level : Nat) : List Json → List Char
  | [] => []
  | [item] => newLine level ++ prettyChars level item
  | item :: rest => newLine level ++ prettyChars level item ++ ',' :: prettyItems level rest

def prettyMembers (level : Nat) : List (String × Json) → List Char
  | [] => []
  | [(name, value)] => newLine level ++ writeString name ++ ':' :: ' ' :: prettyChars level value
  | (name, value) :: rest =>
    newLine level ++ writeString name ++ ':' :: ' ' :: prettyChars level value ++
      ',' :: prettyMembers level rest
end

def compact (v : Json) : String := String.ofList v.compactChars

def pretty (v : Json) : String := String.ofList (v.prettyChars 0)

end SearchClient.Json
