import SearchClient.ClassMap.Basic
import SearchClient.Config.Basic
import SearchClient.Diagnostic
import SearchClient.Options.Basic
import SearchClient.Request.Basic

/-! The request that a set of options asks for. -/

namespace SearchClient.Request

/-- The greatest offset that a request can hold. -/
def maxOffset : Nat := UInt64.size - 1

/-- The offset of the first match of a page. -/
def pageOffset (page perPage : Nat) : Nat := min ((page - 1) * perPage) maxOffset

/-- The weight of every text field: one unless the options set it. -/
def weightsFor (settings : DaemonSettings) (options : SearchOptions) : Reported (Dict Double) where
  value := .ofList (settings.textFields.map fun field =>
    (field, (options.weights.get? field).getD (.ofInt 1)))
  diagnostics := (options.weights.keys.filter (!settings.isTextField ·)).map .weightOfOtherField

/-- The class id of an entity type, if it is mapped. -/
def classIdFor (map : ClassMap) (name : String) : Reported (Option UInt32) :=
  match map.idOf? name with
  | some id => pure (some id)
  | none => ⟨none, [.classNotIndexed name]⟩

/-- The class ids of entity types; those that are not mapped are left out. -/
def classIdsFor (map : ClassMap) (names : List String) : Reported (List UInt32) :=
  Reported.filterMap (classIdFor map) names

/-- The value of the class attribute in documents of a class. -/
def classValue (id : UInt32) : Scalar := .int (Int64.ofNat id.toNat)

/-- The request without filters: order, weights and window. -/
def base (settings : DaemonSettings) (options : SearchOptions) (mode : SortMode) (weights : Dict Double) :
    Request :=
  let sortBy := if mode.usesSortBy then options.sortBy else none
  ((({} : Request).setSortMode mode sortBy).setWeights weights).setLimits
    (pageOffset options.page options.perPage) (min options.perPage settings.maxMatches) settings.maxMatches

/-- The request for a set of options. A restriction to entity types that are not mapped admits nothing.
    Fails only for an unknown sort mode. -/
def build (settings : DaemonSettings) (map : ClassMap) (options : SearchOptions) :
    Except SearchError (Reported Request) := do
  let mode ← SortMode.ofName? options.sortMode
  return do
    let weights ← weightsFor settings options
    let request := options.filters.toList.foldl (fun r f => r.setFilter f.1 f.2)
      (base settings options mode weights)
    if options.classNames.isEmpty then return request
    let ids ← classIdsFor map options.classNames
    return request.setFilter classIdAttribute (.anyOf (ids.map classValue))

end SearchClient.Request
