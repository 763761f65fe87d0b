import SearchClient.Json.Basic
import SearchClient.SortedMap

/-! JSON values whose objects list their members by name. -/

namespace SearchClient.Json

mutual
/-- The value with the members of all its objects in the order of their names. -/
def sorted : Json → Json
  | .arr items => .arr (sortedItems items)
  | .obj members => .obj (SortedMap.ofList (sortedMembers members)).toList
  | v => v

def sortedItems : List Json → List Json
  | [] => []
  | item :: rest => item.sorted :: sortedItems rest

def sortedMembers : List (String × Json) → List (String × Json)
  | [] => []
  | (name, value) :: rest => (name, value.sorted) :: sortedMembers rest
end

/-- A text, or null if there is none. -/
def ofOptional (text : Option String) : Json := text.elim .null .str

/-- An object with a member for each entry of a map. -/
def ofDict {α : Type} (value : α → Json) (entries : Dict α) : Json :=
  .obj (entries.mapValues value).toList

end SearchClient.Json
