import SearchClient.Query.Piece
import SearchClient.Query.Sanitize
import SearchClient.Query.Token

/-! From tokens to the syntax tree, and from a user's query to the daemon's syntax. Operators wait until the
    clause that they apply to; a field name that is not declared becomes a plain term. -/

namespace SearchClient.Query
open Text

/-! ### Building the tree -/

/-- Operators read since the last clause. -/
structure Pending where
  mark : Mark := {}
  /-- A field name that is not declared. -/
  undeclared : Option (List Char) := none

/-- One open group: its items so far and the operators that wait for the next one. -/
structure Level where
  items : List Item := []
  pending : Pending := {}

/-- The open groups: the innermost one, and those around it from the inside out. -/
structure Nest where
  inner : Level := {}
  outer : List Level := []

/-- An undeclared field name as a term, unless nothing of it can be searched for. -/
def Pending.undeclaredTerm? (pending : Pending) : Option (List Char) :=
  (pending.undeclared.map sanitizeTerm).filter fun term => !term.isEmpty

/-- An item without operators. -/
def Item.plain (leaf : Leaf) : Item := .leaf {} leaf

/-- Adds an item; it takes the waiting operators. -/
def Level.push (level : Level) (item : Item) : Level := { items := level.items ++ [item] }

/-- Forgets the waiting operators. -/
def Level.forget (level : Level) : Level := { level with pending := {} }

/-- Adds a group. An undeclared field name in front becomes the first term of the group; an empty group
    leaves nothing behind. -/
def Level.pushGroup (level : Level) (items : List Item) : Level :=
  if items.isEmpty then level.forget
  else match level.pending.undeclaredTerm? with
    | some term => level.push (.group level.pending.mark (.plain (.term term) :: items))
    | none => level.push (.group level.pending.mark items)

/-- Adds a phrase. An undeclared field name in front makes a group of the name and the phrase. -/
def Level.pushPhrase (level : Level) (text : List Char) : Level :=
  let text := sanitizeText text
  if isBlankText text then level.forget
  else match level.pending.undeclaredTerm? with
    | some term => level.push (.group level.pending.mark [.plain (.term term), .plain (.phrase text)])
    | none => level.push (.leaf level.pending.mark (.phrase text))

/-- Adds a word. An undeclared field name in front stays a part of the word. -/
def Level.pushWord (level : Level) (word : List Char) : Level :=
  let word := match level.pending.undeclared with
    | some name => name ++ ':' :: word
    | none => word
  let term := sanitizeTerm word
  if term.isEmpty then level.forget else level.push (.leaf level.pending.mark (.term term))

/-- Reads `OR`, which joins the next item to the ones before it, if there are any. -/
def Level.readOr (level : Level) : Level :=
  let mark := { level.pending.mark with alternative := !level.items.isEmpty }
  { level with pending := { level.pending with mark } }

/-- Reads `NOT`. -/
def Level.readNot (level : Level) : Level :=
  let mark := { level.pending.mark with negated := true }
  { level with pending := { level.pending with mark } }

/-- Reads a field name: a declared one restricts the next item. -/
def Level.readField (declared : List Char → Bool) (level : Level) (name : List Char) : Level :=
  if declared name then
    let mark := { level.pending.mark with field := some name }
    { level with pending := { level.pending with mark } }
  else { level with pending := { level.pending with undeclared := some name } }

/-- Closes the innermost group; without an open group nothing changes. -/
def Nest.close (nest : Nest) : Nest :=
  match nest.outer with
  | [] => nest
  | level :: outer => { inner := level.pushGroup nest.inner.items, outer }

/-- Reads one token. -/
def Nest.read (declared : List Char → Bool) (nest : Nest) : Token → Nest
  | .openGroup => { inner := {}, outer := nest.inner :: nest.outer }
  | .closeGroup => nest.close
  | .and => nest
  | .or => { nest with inner := nest.inner.readOr }
  | .not => { nest with inner := nest.inner.readNot }
  | .field name => { nest with inner := nest.inner.readField declared name }
  | .phrase text => { nest with inner := nest.inner.pushPhrase text }
  | .word text => { nest with inner := nest.inner.pushWord text }

/-- The items of the outermost group; groups that are still open end here. -/
def Nest.items (nest : Nest) : List Item :=
  (nest.outer.foldl (fun inner level => level.pushGroup inner.items) nest.inner).items

/-- The syntax tree of a list of tokens. -/
def Item.ofTokens (declared : List Char → Bool) (tokens : List Token) : List Item :=
  (tokens.foldl (Nest.read declared) {}).items

/-! ### Queries of users and of the daemon -/

/-- The query that matches every document. -/
def matchAll : String := "@empty_searchable __empty_searchable__"

/-- The syntax tree of a query. -/
def Item.ofText (declared : List Char → Bool) (cs : List Char) : List Item :=
  Item.ofTokens declared (Token.scan cs)

/-- A query in the daemon's syntax. One that is blank, or asks for nothing, matches every document. -/
def translateText (declared : List Char → Bool) (cs : List Char) : List Char :=
  if (trim cs).isEmpty || trim cs == matchAll.toList then matchAll.toList
  else
    let rendered := Item.render (Item.ofText declared cs)
    if rendered.isEmpty then matchAll.toList else rendered

/-- Whether a field name is one of the given text fields. -/
def declaredIn (textFields : List String) (name : List Char) : Bool := textFields.contains (String.ofList name)

/-- Translates a user's query into the daemon's syntax, with the given text fields declared. -/
def translate (textFields : List String) (query : String) : String :=
  String.ofList (translateText (declaredIn textFields) query.toList)

/-- The field names among some tokens. -/
def Token.fieldNames (tokens : List Token) : List (List Char) :=
  tokens.filterMap fun
    | .field name => some name
    | _ => none

/-- The terms of a translated query that highlighting looks for, with spaces between them. Every field name in the
    query is declared, so that no restriction becomes a term; negated items are left out. -/
def highlightText (cs : List Char) : List Char :=
  if cs == matchAll.toList then []
  else
    let tokens := Token.scan cs
    join [' '] (Item.termsAll (Item.ofTokens (Token.fieldNames tokens).contains tokens))

/-- The terms of a translated query that highlighting looks for. -/
def highlightTerms (translated : String) : String := String.ofList (highlightText translated.toList)

end SearchClient.Query
