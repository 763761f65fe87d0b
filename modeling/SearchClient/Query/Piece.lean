import SearchClient.Query.Tree

/-! Queries in the daemon's syntax. A syntax tree is written as a list of pieces, and each piece has a text.
    In the daemon's syntax a field restriction holds until the end of its group, so a restricted item with
    more items after it is written in a group of its own. -/

namespace SearchClient.Query

/-- A piece of a query in the daemon's syntax. -/
inductive Piece where
  | openGroup
  | closeGroup
  /-- What follows, up to the end of the group, is searched in one field only. -/
  | marker (name : List Char)
  | negation
  /-- Stands between two items of a group, of which the second may be an alternative. -/
  | joint (alternative : Bool)
  | leaf (part : Leaf)
deriving DecidableEq

def Leaf.text : Leaf → List Char
  | .term text => text
  | .phrase text => '"' :: text ++ ['"']

def Piece.text : Piece → List Char
  | .openGroup => ['(']
  | .closeGroup => [')']
  | .marker name => '@' :: name ++ [' ']
  | .negation => ['-']
  | .joint true => [' ', '|', ' ']
  | .joint false => [' ']
  | .leaf part => part.text

/-- A clause with its negation and its restriction; `more` tells that items follow in the same group. -/
def Mark.pieces (mark : Mark) (more : Bool) (clause : List Piece) : List Piece :=
  let negated := if mark.negated then .negation :: clause else clause
  match mark.field with
  | none => negated
  | some name =>
    let restricted := .marker name :: negated
    if more then .openGroup :: restricted ++ [.closeGroup] else restricted

mutual
/-- The pieces of an item; `more` tells that items follow in the same group. -/
def Item.pieces (more : Bool) : Item → List Piece
  | .leaf mark part => mark.pieces more [.leaf part]
  | .group mark items => mark.pieces more (.openGroup :: Item.piecesAll items ++ [.closeGroup])

/-- The pieces of the items of a group. -/
def Item.piecesAll : List Item → List Piece
  | [] => []
  | item :: rest => item.pieces (!rest.isEmpty) ++ Item.piecesRest rest

/-- The pieces of the items after the first one, each with its joint. -/
def Item.piecesRest : List Item → List Piece
  | [] => []
  | item :: rest =>
    .joint item.mark.alternative :: item.pieces (!rest.isEmpty) ++ Item.piecesRest rest
end

/-- The items of a group in the daemon's syntax. -/
def Item.render (items : List Item) : List Char := (Item.piecesAll items).flatMap Piece.text

end SearchClient.Query
