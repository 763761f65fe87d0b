import SearchClient.SortedMap
import SearchClient.Toml.Basic

/-! Tables while a document is read. A table remembers how it came about, because that decides what may still
    be added to it: no table is defined twice, and dotted keys extend only tables that dotted keys made. -/

namespace SearchClient.Toml

/-- An entry of a table that is being read. -/
inductive Node where
  | value (v : Toml)
  /-- A table. An implicit one has no header of its own; a dotted one comes from a dotted key. -/
  | table (isImplicit dotted : Bool) (entries : List (String × Node))
  /-- An array of tables, the last of which is being extended. -/
  | tables (last : List (String × Node)) (before : List (List (String × Node)))

/-- The entries of a table. -/
abbrev Entries := List (String × Node)

namespace Entries

def set (key : String) (node : Node) : Entries → Entries
  | [] => [(key, node)]
  | e :: es => if e.1 = key then (key, node) :: es else e :: set key node es

def remove (key : String) (es : Entries) : Entries := es.filter fun e => e.1 != key

def get? (key : String) (es : Entries) : Option Node := SortedMap.lookup key es

/-- Changes the table at a path below a table with a given origin, and makes the tables on the way that are
    missing. `change` is told whether the table is dotted. Fails at anything but a table, and for dotted
    keys at a table with a header. -/
def update (dotted : Bool) (change : Bool → Entries → Option Entries) :
    List String → Bool → Entries → Option Entries
  | [], origin, es => change origin es
  | key :: path, _, es =>
    match es.get? key with
    | none => (update dotted change path dotted []).map fun below => es.set key (.table true dotted below)
    | some (.value _) => none
    | some (.tables last before) =>
      (update dotted change path false last).map fun below => es.set key (.tables below before)
    | some (.table isImplicit origin below) =>
      if dotted && !isImplicit then none
      else (update dotted change path origin below).map fun below =>
        es.set key (.table isImplicit origin below)

/-- Adds a value under a key, whose last part must be new. -/
def addValue (es : Entries) (path : List String) (value : Toml) : Option Entries :=
  match path.getLast? with
  | none => none
  | some key =>
    let above := path.dropLast
    update true (fun dotted es =>
      if dotted == above.isEmpty || (es.get? key).isSome then none
      else some (es.set key (.value value))) above false es

/-- Takes a table out of its parent, so that a header can define it: an implicit table that a header made
    keeps its entries, and anything else must not be there yet. -/
def takeTable (root : Entries) (path : List String) : Option (Entries × Entries) :=
  match path.getLast? with
  | none => none
  | some key => do
    let root ← update false (fun _ es => some es) path.dropLast false root
    let taken ← find path root
    match taken with
    | none => return ([], root)
    | some (.table true false below) =>
      let root ← update false (fun _ es => some (es.remove key)) path.dropLast false root
      return (below, root)
    | some _ => none
where
  /-- The entry at a path, through the last table of each array of tables; fails at a value on the way. -/
  find : List String → Entries → Option (Option Node)
    | [], _ => none
    | [key], es => some (es.get? key)
    | key :: path, es =>
      match es.get? key with
      | none => some none
      | some (.value _) => none
      | some (.tables last _) => find path last
      | some (.table _ _ below) => find path below

/-- Puts a table with a header into its parent. -/
def putTable (root : Entries) (path : List String) (table : Entries) : Option Entries :=
  match path.getLast? with
  | none => none
  | some key =>
    update false (fun _ es => some (es.set key (.table false false table))) path.dropLast false root

/-- Adds a table to the array of tables at a path, which is made if it is missing. -/
def pushTable (root : Entries) (path : List String) (table : Entries) : Option Entries :=
  match path.getLast? with
  | none => none
  | some key =>
    update false (fun _ es =>
      match es.get? key with
      | none => some (es.set key (.tables table []))
      | some (.tables last before) => some (es.set key (.tables table (before ++ [last])))
      | some _ => none) path.dropLast false root

end Entries

mutual
/-- The value of a node, with the keys of tables in order. -/
def Node.toToml : Node → Toml
  | .value v => v
  | .table _ _ entries => .table (SortedMap.ofList (Node.entriesToToml entries)).toList
  | .tables last before =>
    .array (Node.tablesToToml before ++ [.table (SortedMap.ofList (Node.entriesToToml last)).toList])

def Node.entriesToToml : List (String × Node) → List (String × Toml)
  | [] => []
  | (key, node) :: rest => (key, node.toToml) :: Node.entriesToToml rest

def Node.tablesToToml : List (List (String × Node)) → List Toml
  | [] => []
  | entries :: rest =>
    .table (SortedMap.ofList (Node.entriesToToml entries)).toList :: Node.tablesToToml rest
end

/-- The table of entries, with its keys in order. -/
def Entries.toDict (es : Entries) : Dict Toml := .ofList (Node.entriesToToml es)

end SearchClient.Toml
