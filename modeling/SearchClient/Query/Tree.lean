import SearchClient.Text.Split

/-! The syntax tree of a query, and the terms in it that highlighting looks for. -/

namespace SearchClient.Query

/-- What an item carries in front of its clause. -/
structure Mark where
  /-- The item is an alternative to the items before it, rather than a further condition. -/
  alternative : Bool := false
  negated : Bool := false
  /-- The only field in which the clause is searched. -/
  field : Option (List Char) := none
deriving DecidableEq

/-- A clause without parts. -/
inductive Leaf where
  | term (text : List Char)
  | phrase (text : List Char)
deriving DecidableEq

/-- A clause with its mark; a query is a list of items. -/
inductive Item where
  | leaf (mark : Mark) (part : Leaf)
  | group (mark : Mark) (items : List Item)

def Item.mark : Item → Mark
  | .leaf mark _ => mark
  | .group mark _ => mark

/-! ### The terms to highlight -/

def Leaf.terms : Leaf → List (List Char)
  | .term text => [text]
  | .phrase text => Text.words text

mutual
/-- The terms that an item asks for; a negated item asks for none. -/
def Item.terms : Item → List (List Char)
  | .leaf mark part => if mark.negated then [] else part.terms
  | .group mark items => if mark.negated then [] else Item.termsAll items

def Item.termsAll : List Item → List (List Char)
  | [] => []
  | item :: rest => item.terms ++ Item.termsAll rest
end

end SearchClient.Query
