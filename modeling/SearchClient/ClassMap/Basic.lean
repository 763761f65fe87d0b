import SearchClient.SortedMap

/-! Entity types and their class ids in both directions, and the document ids in which the daemon's index
    keeps a class id together with the primary key of a record. -/

namespace SearchClient

/-- Puts a class id and a primary key into one document id: `key * multiplier + class id`. -/
structure DocumentIdCodec where
  multiplier : Nat
deriving DecidableEq

namespace DocumentIdCodec

def encode (codec : DocumentIdCodec) (classId : UInt32) (key : Nat) : Nat :=
  key * codec.multiplier + classId.toNat

/-- The class id and the primary key of a document id; none without entity types, or if the class id would
    not fit 32 bits. -/
def decode? (codec : DocumentIdCodec) (documentId : Nat) : Option (UInt32 × Nat) :=
  if codec.multiplier = 0 then none
  else
    let classId := documentId % codec.multiplier
    if classId < UInt32.size then some (UInt32.ofNat classId, documentId / codec.multiplier) else none

end DocumentIdCodec

/-- Entity types and class ids. -/
structure ClassMap where
  byName : Dict UInt32
  byId : SortedMap UInt32 String
deriving DecidableEq

namespace ClassMap

def empty : ClassMap := ⟨.empty, .empty⟩

instance : Inhabited ClassMap := ⟨empty⟩

/-- Adds a pair to both directions; an earlier pair with the name or the id is overwritten there only. -/
def insert (map : ClassMap) (name : String) (id : UInt32) : ClassMap :=
  ⟨map.byName.insert name id, map.byId.insert id name⟩

def ofPairs (pairs : List (String × UInt32)) : ClassMap :=
  pairs.foldl (fun map pair => map.insert pair.1 pair.2) empty

/-- The class id of an entity type. -/
def idOf? (map : ClassMap) (name : String) : Option UInt32 := map.byName.get? name

/-- The entity type of a class id. -/
def nameOf? (map : ClassMap) (id : UInt32) : Option String := map.byId.get? id

/-- The number of mapped entity types. -/
def size (map : ClassMap) : Nat := map.byId.size

def isEmpty (map : ClassMap) : Bool := map.byId.isEmpty

/-- The pairs in the order of class ids. -/
def toList (map : ClassMap) : List (String × UInt32) := map.byId.toList.map fun (id, name) => (name, id)

/-- The codec of the documents of an index with these entity types. -/
def codec (map : ClassMap) : DocumentIdCodec := ⟨map.size⟩

end ClassMap
end SearchClient
