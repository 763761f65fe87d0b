import SearchClient.Text.Split

/-! The tokens of a query, as users write them and as the daemon reads them: `|`, `-` and `@field` mean the
    same as `OR`, `NOT` and `field:`. Reading tokens never fails. -/

namespace SearchClient.Query
open Text

/-- A token of a query. -/
inductive Token where
  | openGroup
  | closeGroup
  | and
  | or
  | not
  | field (name : List Char)
  | phrase (text : List Char)
  | word (text : List Char)
deriving DecidableEq

/-- Whether a character may stand in a field name. -/
def isFieldCharacter (c : Char) : Bool := isAlphanumeric c || c == '_'

/-- Whether a character belongs to the word that it follows. -/
def isWordPart (c : Char) : Bool := !isBlank c && c != '(' && c != ')' && c != '"'

/-- Whether two texts are equal up to the case of ASCII letters. -/
def sameIgnoringCase (a b : List Char) : Bool := a.map Char.toLower == b.map Char.toLower

/-- The tokens of a run of word characters: an operator word, a field name before a colon with what follows
    it, or a plain word. -/
def Token.ofWord (word : List Char) : List Token :=
  if sameIgnoringCase word ['a', 'n', 'd'] then [.and]
  else if sameIgnoringCase word ['o', 'r'] then [.or]
  else if sameIgnoringCase word ['n', 'o', 't'] then [.not]
  else match cut? [':'] word with
    | some (name, rest) =>
      if !name.isEmpty && name.all isFieldCharacter then
        .field name :: if rest.isEmpty then [] else [.word rest]
      else [.word word]
    | none => [.word word]

theorem length_dropWhile_le (p : Char → Bool) (cs : List Char) : (cs.dropWhile p).length ≤ cs.length :=
  (List.dropWhile_sublist p).length_le

/-- The tokens of a text. A phrase without a closing quote runs to the end of the text. -/
def Token.scan : List Char → List Token
  | [] => []
  | c :: cs =>
    if isBlank c then scan cs
    else if c = '(' then .openGroup :: scan cs
    else if c = ')' then .closeGroup :: scan cs
    else if c = '|' then .or :: scan cs
    else if c = '-' || c = '!' then .not :: scan cs
    else if c = '"' then .phrase (cs.takeWhile (· != '"')) :: scan ((cs.dropWhile (· != '"')).drop 1)
    else if c = '@' then
      let name := cs.takeWhile isFieldCharacter
      let rest := scan (cs.dropWhile isFieldCharacter)
      if name.isEmpty then rest else .field name :: rest
    else Token.ofWord (c :: cs.takeWhile isWordPart) ++ scan (cs.dropWhile isWordPart)
termination_by cs => cs.length
decreasing_by all_goals grind [length_dropWhile_le]

end SearchClient.Query
