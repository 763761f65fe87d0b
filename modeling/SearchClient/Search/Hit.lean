import SearchClient.ClassMap.Basic
import SearchClient.Search.World

/-! From matches to records: document ids are decoded into references, and references are resolved into
    records, one look-up for each entity type. The order of rank is kept throughout. -/

namespace SearchClient
variable {σ E : Type}

/-! ### References -/

/-- The reference of a match. A match that cannot be mapped is reported. -/
def ClassMap.refOf (map : ClassMap) (m : RawMatch) : Reported (Option EntityRef) :=
  match map.codec.decode? m.documentId with
  | none => ⟨none, [.nothingMapped m.documentId]⟩
  | some (classId, key) =>
    if classId ≠ m.classId then ⟨none, [.classDisagrees m.documentId classId m.classId]⟩
    else match map.nameOf? classId with
      | some name => pure (some ⟨name, key⟩)
      | none => ⟨none, [.classUnmapped classId]⟩

/-- The references of matches, in order. -/
def ClassMap.refsOf (map : ClassMap) (matched : List RawMatch) : Reported (List EntityRef) :=
  Reported.filterMap map.refOf matched

/-! ### Hits -/

/-- A resolved result: a record, the reference from which it was resolved, and excerpts of its fields. -/
structure Hit (E : Type) where
  ref : EntityRef
  entity : E
  excerpts : Dict String := .empty

/-- The content of a field, for which an excerpt takes the place of the record's own. -/
def Hit.field? (host : Host σ E) (hit : Hit E) (name : String) : Option String :=
  match hit.excerpts.get? name with
  | some text => some text
  | none => host.field? hit.entity name

/-- Adds a reference to the keys of its entity type. -/
def addToBatch (ref : EntityRef) : List (String × List Nat) → List (String × List Nat)
  | [] => [(ref.className, [ref.primaryKey])]
  | (name, keys) :: rest =>
    if name = ref.className then (name, keys ++ [ref.primaryKey]) :: rest
    else (name, keys) :: addToBatch ref rest

/-- The keys of each entity type: types in the order of their first appearance, keys in the order of the
    references. -/
def batches (refs : List EntityRef) : List (String × List Nat) :=
  refs.foldl (fun bs ref => addToBatch ref bs) []

/-- One look-up, in the host's cache if it has one. -/
def Host.lookup (host : Host σ E) (className : String) (keys : List Nat) : Act σ (List (Option E)) :=
  Act.onHost fun s =>
    let (outcome, s) := match host.resolveCached className keys s with
      | (some outcome, s) => (outcome, s)
      | (none, s) => host.resolve className keys s
    match outcome with
    | .error reason => (.error (.resolve className reason), s)
    | .ok records =>
      if records.length = keys.length then (.ok records, s)
      else (.error (.recordCount className records.length keys.length), s)

/-- Adds the records of a look-up to those found so far, the newest in front. -/
def addFound (className : String) (keys : List Nat) (records : List (Option E))
    (found : List (EntityRef × E)) : List (EntityRef × E) :=
  (keys.zip records).foldl (fun found slot =>
    match slot.2 with
    | some entity => (⟨className, slot.1⟩, entity) :: found
    | none => found) found

/-- Looks up each batch in turn, up to the first failure. -/
def lookupAll (host : Host σ E) (found : List (EntityRef × E)) :
    List (String × List Nat) → Act σ (List (EntityRef × E))
  | [] => return found
  | (className, keys) :: rest => do
    let records ← host.lookup className keys
    lookupAll host (addFound className keys records found) rest

/-- A hit for each reference with a record, at the first place of the reference. -/
def collectHits : List EntityRef → List (EntityRef × E) → List (Hit E)
  | [], _ => []
  | ref :: refs, found =>
    match SortedMap.lookup ref found with
    | some entity => { ref, entity } :: collectHits refs (found.filter fun f => f.1 != ref)
    | none => collectHits refs found

/-- Resolves references into hits. -/
def resolveHits (host : Host σ E) (refs : List EntityRef) : Act σ (List (Hit E)) := do
  let found ← lookupAll host [] (batches refs)
  return collectHits refs found

end SearchClient
