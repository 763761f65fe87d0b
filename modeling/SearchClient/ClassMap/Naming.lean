import SearchClient.Text.Capital
import SearchClient.Text.Split

/-! Names of entity types, made from names of sources: `geo__states` becomes `Geo::State`. Two underscores
    separate name spaces; each segment loses its hyphens and underscores and gets capitals in their place,
    and the last one is put into the singular. -/

namespace SearchClient.ClassMap
open Text

/-- The segments between double underscores, empty ones included. -/
def segments : List Char → List (List Char)
  | [] => [[]]
  | '_' :: '_' :: cs => [] :: segments cs
  | c :: cs =>
    match segments cs with
    | [] => [[c]]
    | segment :: rest => (c :: segment) :: rest

/-- A text with its first character in capital form. -/
def capitalize : List Char → List Char
  | [] => []
  | c :: cs => capital c ++ cs

/-- The parts between hyphens and underscores, each with a capital in front. -/
def camelize (segment : List Char) : List Char :=
  (pieces (fun c => c == '_' || c == '-') segment).flatMap capitalize

def endsWith (word : List Char) (ending : String) : Bool := ending.toList.isSuffixOf word

/-- The singular of a word. -/
def singularize (word : List Char) : List Char :=
  if endsWith word "ies" then word.take (word.length - 3) ++ ['y']
  else if ["sses", "xes", "ches", "shes", "zes"].any (endsWith word) then word.take (word.length - 2)
  else if endsWith word "s" && !endsWith word "ss" then word.dropLast
  else word

/-- The segments of a name of an entity type. -/
def classifySegments : List (List Char) → List (List Char)
  | [] => []
  | [last] => [camelize (singularize last)]
  | segment :: rest => camelize segment :: classifySegments rest

/-- The name of the entity type of a source. -/
def classifyText (source : List Char) : List Char :=
  join [':', ':'] (classifySegments ((segments source).filter fun s => !s.isEmpty))

/-- The name of the entity type of a source. -/
def classify (source : String) : String := String.ofList (classifyText source.toList)

end SearchClient.ClassMap
