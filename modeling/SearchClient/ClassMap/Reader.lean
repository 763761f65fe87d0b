import SearchClient.ClassMap.Basic
import SearchClient.ClassMap.Naming
import SearchClient.Diagnostic
import SearchClient.Text.Number

/-! Reading class ids from the daemon's generated configuration. It declares one source for each entity type
    and one query for each source, which selects a constant class id; sources and class ids are paired by
    position. -/

namespace SearchClient.ClassMap
open Text

/-- Why a daemon configuration gives no mapping. -/
inductive Fault where
  | queryWithoutId (line : List Char)
  | countMismatch (sources ids : Nat)
  | duplicates
deriving DecidableEq

def Fault.message : Fault → String
  | .queryWithoutId line => "sql_query without a class id: " ++ String.ofList line
  | .countMismatch sources ids => toString sources ++ " sources but " ++ toString ids ++ " class ids"
  | .duplicates => "duplicate source names or class ids"

/-- What a line without white space in front declares. -/
inductive Declaration where
  | source (name : List Char)
  /-- A query of a source, with the digits of its class id if there are any. -/
  | query (idDigits : Option (List Char))
  | other

/-- The text after a given start. -/
def after? (start cs : List Char) : Option (List Char) :=
  if start.isPrefixOf cs then some (cs.drop start.length) else none

/-- The first run of digits in front of `AS class_id`; `inRun` tells that a digit stands before the text. -/
def idDigits? (inRun : Bool) : List Char → Option (List Char)
  | [] => none
  | c :: cs =>
    if isDecimalDigit c then
      if !inRun && " AS class_id".toList.isPrefixOf (cs.dropWhile isDecimalDigit) then
        some (c :: cs.takeWhile isDecimalDigit)
      else idDigits? true cs
    else idDigits? false cs

/-- The name of a source line. -/
def sourceName? (line : List Char) : Option (List Char) :=
  (after? "source ".toList line).bind fun rest =>
    let name := rest.takeWhile fun c => isWordCharacter c || c == '-'
    if name.isEmpty then none else some name

def Declaration.ofLine (line : List Char) : Declaration :=
  match sourceName? line with
  | some name => .source name
  | none =>
    if "sql_query ".toList.isPrefixOf line || "sql_query=".toList.isPrefixOf line then
      .query (idDigits? false line)
    else .other

/-- The class id that digits stand for, if it fits 32 bits. -/
def classId? (digits : List Char) : Option UInt32 :=
  match natural? digits with
  | some n => if n < UInt32.size then some (UInt32.ofNat n) else none
  | none => none

/-- The names of sources and the class ids of queries, both in order. -/
def declarations : List (List Char) → Except Fault (List (List Char) × List UInt32)
  | [] => .ok ([], [])
  | line :: rest =>
    match Declaration.ofLine line with
    | .source name => do
      let (names, ids) ← declarations rest
      return (name :: names, ids)
    | .query digits =>
      match digits.bind classId? with
      | none => .error (.queryWithoutId (trim line))
      | some id => do
        let (names, ids) ← declarations rest
        return (names, id :: ids)
    | .other => declarations rest

/-- The mapping that a daemon configuration declares. -/
def ofLines (contents : List (List Char)) : Except Fault ClassMap := do
  let (names, ids) ← declarations (contents.map trimStart)
  if names.length ≠ ids.length then throw (.countMismatch names.length ids.length)
  let map := ofPairs ((names.map fun name => String.ofList (classifyText name)).zip ids)
  if map.byName.size ≠ map.byId.size then throw .duplicates
  return map

/-- The mapping that the text of a daemon configuration declares. -/
def ofText (contents : String) : Except Fault ClassMap := ofLines (lines contents.toList)

/-- The mapping of the daemon configuration at a path, from the outcome of reading that file. -/
def ofFile (path : String) : Except FileError String → Except SearchError ClassMap
  | .error error => .error (.io error)
  | .ok contents => (ofText contents).mapError fun fault => .configCorrupted path fault.message

/-- Like `ofFile`, but a file that cannot be used is reported and maps nothing. -/
def load (path : String) (file : Except FileError String) : Reported ClassMap :=
  match ofFile path file with
  | .ok map => pure map
  | .error (.io .notFound) => ⟨empty, [.mappingNotFound]⟩
  | .error error => ⟨empty, [.mappingUnusable error]⟩

end SearchClient.ClassMap
