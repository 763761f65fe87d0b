import SearchClient.Text.Character

/-! Cutting texts at white space, at a character and at a separator. Texts are lists of characters; no cut
    loses a character other than the white space or the separators it cuts at. -/

namespace SearchClient.Text

/-- A text without the white space in front. -/
def trimStart (cs : List Char) : List Char := cs.dropWhile isBlank

/-- A text without the white space at its end. -/
def trimEnd (cs : List Char) : List Char := (cs.reverse.dropWhile isBlank).reverse

/-- A text without the white space around it. -/
def trim (cs : List Char) : List Char := trimEnd (trimStart cs)

/-- Whether a text is empty up to white space. -/
def isBlankText (cs : List Char) : Bool := cs.all isBlank

/-- The pieces between the characters that satisfy `p`, empty ones included: one more than there are
    such characters. -/
def pieces (p : Char → Bool) : List Char → List (List Char)
  | [] => [[]]
  | c :: cs =>
    if p c then [] :: pieces p cs
    else match pieces p cs with
      | [] => [[c]]
      | piece :: rest => (c :: piece) :: rest

/-- The words of a text: its maximal runs without white space. -/
def words (cs : List Char) : List (List Char) := (pieces isBlank cs).filter fun w => !w.isEmpty

/-- What stands before and after the first occurrence of a separator, if there is one. -/
def cut? (separator : List Char) : List Char → Option (List Char × List Char)
  | [] => if separator.isEmpty then some ([], []) else none
  | c :: cs =>
    if separator.isPrefixOf (c :: cs) then some ([], (c :: cs).drop separator.length)
    else (cut? separator cs).map fun (before, after) => (c :: before, after)

/-- A line without the carriage return in front of its line feed. -/
def dropReturn (line : List Char) : List Char :=
  if line.getLast? == some '\r' then line.dropLast else line

/-- The lines of a text: each ends with a line feed, or with a carriage return and a line feed. What follows
    the last line feed is a line too, unless it is empty. -/
def lines (cs : List Char) : List (List Char) :=
  let parts := pieces (· == '\n') cs
  parts.dropLast.map dropReturn ++ (parts.getLast?.toList.filter fun line => !line.isEmpty)

/-- The items with a separator between neighbours. -/
def join (separator : List Char) : List (List Char) → List Char
  | [] => []
  | [item] => item
  | item :: rest => item ++ separator ++ join separator rest

end SearchClient.Text
