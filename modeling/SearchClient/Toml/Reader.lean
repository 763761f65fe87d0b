import SearchClient.Toml.Node
import SearchClient.Toml.Scalar

/-! Reading TOML documents. -/

namespace SearchClient.Toml

/-! ### Values -/

/-- The text after white space, line breaks and comments; `inComment` tells that a comment is being read. -/
def skipBreaks (inComment : Bool) : List Char → List Char
  | [] => []
  | '\n' :: cs => skipBreaks false cs
  | '\r' :: '\n' :: cs => skipBreaks false cs
  | c :: cs =>
    if inComment then if isPrintable c then skipBreaks true cs else c :: cs
    else if isSpace c then skipBreaks false cs
    else if c == '#' then skipBreaks true cs
    else c :: cs

/-- The items of an array up to its closing bracket, with a comma after each but the last. -/
def items? (value? : List Char → Option (Toml × List Char)) :
    Nat → List Char → Option (List Toml × List Char)
  | 0, _ => none
  | fuel + 1, cs =>
    match skipBreaks false cs with
    | ']' :: cs => some ([], cs)
    | cs => do
      let (item, cs) ← value? cs
      match skipBreaks false cs with
      | ',' :: cs =>
        let (items, cs) ← items? value? fuel cs
        return (item :: items, cs)
      | ']' :: cs => return ([item], cs)
      | _ => none

/-- A key, an equals sign and a value, with the white space around them. -/
def keyValue? (value? : List Char → Option (Toml × List Char)) (cs : List Char) :
    Option (List String × Toml × List Char) := do
  let (path, cs) ← key? maxDepth cs
  let '=' :: cs := cs | none
  let (value, cs) ← value? (skipSpace cs)
  return (path, value, skipSpace cs)

/-- The entries of an inline table up to its closing brace, the first of which has to follow. -/
def inlineEntries? (value? : List Char → Option (Toml × List Char)) (entries : Entries) :
    Nat → List Char → Option (Entries × List Char)
  | 0, _ => none
  | fuel + 1, cs => do
    let (path, value, cs) ← keyValue? value? cs
    let entries ← entries.addValue path value
    match cs with
    | ',' :: cs => inlineEntries? value? entries fuel cs
    | '}' :: cs => return (entries, cs)
    | _ => none

/-- The value at a position, in which arrays and inline tables are nested at most `depth` deep. -/
def value? : Nat → List Char → Option (Toml × List Char)
  | _, 't' :: 'r' :: 'u' :: 'e' :: cs => some (.bool true, cs)
  | _, 'f' :: 'a' :: 'l' :: 's' :: 'e' :: cs => some (.bool false, cs)
  | 0, '[' :: _ => none
  | depth + 1, '[' :: cs => (items? (value? depth) (cs.length + 1) cs).map fun (items, cs) => (.array items, cs)
  | 0, '{' :: _ => none
  | depth + 1, '{' :: cs =>
    match skipSpace cs with
    | '}' :: cs => some (.table [], cs)
    | cs => (inlineEntries? (value? depth) [] (cs.length + 1) cs).map fun (entries, cs) =>
        (.table entries.toDict.toList, cs)
  | _, cs =>
    match cs with
    | '"' :: _ | '\'' :: _ => (string? cs).map fun (s, cs) => (.str (String.ofList s), cs)
    | _ => do
      match ← DateTime.read? cs with
      | (some d, cs) => return (.dateTime d, cs)
      | (none, _) => number? cs

/-! ### Documents -/

/-- What has been read of a document: the tables that are finished, and the one under the last header. -/
structure Document where
  root : Entries := []
  current : Entries := []
  path : List String := []
  inArray : Bool := false

namespace Document

/-- Puts the table under the last header into its place. -/
def finish (doc : Document) : Option Entries :=
  if doc.path.isEmpty then some doc.current
  else if doc.inArray then doc.root.pushTable doc.path doc.current
  else doc.root.putTable doc.path doc.current

/-- Reads the header of a table. -/
def startTable (doc : Document) (path : List String) : Option Document := do
  let root ← doc.finish
  let (current, root) ← root.takeTable path
  return { root, current, path }

/-- Reads the header of a table in an array of tables. -/
def startArrayTable (doc : Document) (path : List String) : Option Document := do
  let root ← doc.finish
  let _ ← root.pushTable path []
  return { root, path, inArray := true }

end Document

/-- The text after the rest of a line, in which only white space and a comment may stand. -/
def endOfLine? (cs : List Char) : Option (List Char) :=
  let cs := match skipSpace cs with
    | '#' :: cs => cs.dropWhile isPrintable
    | cs => cs
  match cs with
  | [] => some []
  | cs => newline? cs

/-- Reads a header whose opening bracket has been read. -/
def header? (doc : Document) : List Char → Option (Document × List Char)
  | '[' :: cs => do
    let (path, cs) ← key? maxDepth cs
    let ']' :: ']' :: cs := cs | none
    let doc ← doc.startArrayTable path
    return (doc, cs)
  | cs => do
    let (path, cs) ← key? maxDepth cs
    let ']' :: cs := cs | none
    let doc ← doc.startTable path
    return (doc, cs)

/-- Reads the lines of a document. -/
def lines? (doc : Document) : Nat → List Char → Option Document
  | 0, _ => none
  | fuel + 1, cs =>
    match skipSpace cs with
    | [] => some doc
    | '[' :: cs => do
      let (doc, cs) ← header? doc cs
      let cs ← endOfLine? cs
      lines? doc fuel cs
    | c :: cs =>
      if c == '#' || c == '\n' || c == '\r' then do
        let cs ← endOfLine? (c :: cs)
        lines? doc fuel cs
      else do
        let (path, value, cs) ← keyValue? (value? maxDepth) (c :: cs)
        let current ← doc.current.addValue path value
        let cs ← endOfLine? cs
        lines? { doc with current } fuel cs

/-- The table of a document; a byte order mark in front of it is skipped. -/
def document? (cs : List Char) : Option (Dict Toml) := do
  let cs := match cs with
    | '\uFEFF' :: cs => cs
    | cs => cs
  let doc ← lines? {} (cs.length + 1) cs
  let root ← doc.finish
  return root.toDict

end SearchClient.Toml
