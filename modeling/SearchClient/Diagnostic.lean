import SearchClient.Error
import SearchClient.Json.Basic

/-! Diagnostics: what a search reports beside its result. A computation that reports gives its value together
    with its diagnostics in order. -/

namespace SearchClient

/-- A piece of input that was dropped, or a call that had to be repeated. -/
inductive Diagnostic where
  | unknownOptions (keys : List String)
  | queryNotText
  | optionNotInteger (key : String)
  | optionNotString (key : String)
  | optionNotNames (key : String)
  | entryNotString (key : String)
  | weightNotNumber (field : String)
  | filterUnusable (field : String)
  | weightsNotMap
  | filtersNotMap
  | weightOfOtherField (field : String)
  | classNotIndexed (className : String)
  | noMappingPath
  | mappingNotFound
  | mappingUnusable (error : SearchError)
  | callRetried (action : String) (attempt maxAttempts : Nat) (error : SearchError)
  | callAbandoned (action : String) (attempts : Nat) (error : SearchError)
  | nothingMapped (documentId : Nat)
  | classDisagrees (documentId : Nat) (decoded stored : UInt32)
  | classUnmapped (classId : UInt32)
  | unknownConfigOption (key : String)
  | daemonWarning (warning : String)
deriving DecidableEq

namespace Diagnostic

/-- Whether a diagnostic is an error rather than a warning. -/
def isError : Diagnostic → Bool
  | .mappingUnusable _ | .callAbandoned .. => true
  | _ => false

def message : Diagnostic → String
  | .unknownOptions _ => "Discarded unrecognized search options"
  | .queryNotText => "Ignoring non-text query"
  | .optionNotInteger _ => "Option is not an integer, using default"
  | .optionNotString _ => "Option is not a string, using default"
  | .optionNotNames _ => "Option is not a name list, using default"
  | .entryNotString _ => "Ignoring non-string list entry"
  | .weightNotNumber _ => "Ignoring non-numeric weight"
  | .filterUnusable _ => "Ignoring filter of unusable shape"
  | .weightsNotMap => "Weights are not a map, using default"
  | .filtersNotMap => "Filters are not a map, using default"
  | .weightOfOtherField _ => "Ignoring weight for a field that is not a text field"
  | .classNotIndexed _ => "Entity type is not indexed"
  | .noMappingPath => "No daemon configuration path set, no entity types will be mapped"
  | .mappingNotFound => "Daemon configuration not found, no entity types will be mapped"
  | .mappingUnusable _ => "Daemon configuration is unusable, no entity types will be mapped"
  | .callRetried .. => "Daemon call failed, retrying"
  | .callAbandoned .. => "Giving up on daemon call"
  | .nothingMapped _ => "No entity types mapped, dropping match"
  | .classDisagrees .. => "Document id disagrees with its class id, dropping match"
  | .classUnmapped _ => "Unmapped class id, dropping match"
  | .unknownConfigOption _ => "Ignoring unrecognized configuration option"
  | .daemonWarning _ => "Daemon reported a warning"

/-- What a diagnostic is about, by name. -/
def fields : Diagnostic → List (String × Json)
  | .unknownOptions keys => [("keys", .str (", ".intercalate keys))]
  | .optionNotInteger key | .optionNotString key | .optionNotNames key | .entryNotString key
  | .unknownConfigOption key => [("key", .str key)]
  | .weightNotNumber field | .filterUnusable field | .weightOfOtherField field => [("field", .str field)]
  | .classNotIndexed className => [("class_name", .str className)]
  | .mappingUnusable error => [("error", .str error.message)]
  | .callRetried action attempt maxAttempts error =>
    [("action", .str action), ("attempt", .int attempt), ("max_attempts", .int maxAttempts),
     ("error", .str error.message)]
  | .callAbandoned action attempts error =>
    [("action", .str action), ("attempts", .int attempts), ("error", .str error.message)]
  | .nothingMapped documentId => [("document_id", .int documentId)]
  | .classDisagrees documentId decoded stored =>
    [("document_id", .int documentId), ("decoded", .int decoded.toNat), ("attribute", .int stored.toNat)]
  | .classUnmapped classId => [("class_id", .int classId.toNat)]
  | .daemonWarning warning => [("warning", .str warning)]
  | .queryNotText | .weightsNotMap | .filtersNotMap | .noMappingPath | .mappingNotFound => []

end Diagnostic

/-- A value with the diagnostics reported on the way to it. -/
structure Reported (α : Type) where
  value : α
  diagnostics : List Diagnostic := []

namespace Reported
variable {α β : Type}

instance : Monad Reported where
  pure a := ⟨a, []⟩
  bind x f := ⟨(f x.value).value, x.diagnostics ++ (f x.value).diagnostics⟩

@[simp] theorem value_pure (a : α) : (pure a : Reported α).value = a := rfl

@[simp] theorem diagnostics_pure (a : α) : (pure a : Reported α).diagnostics = [] := rfl

@[simp] theorem value_bind (x : Reported α) (f : α → Reported β) : (x >>= f).value = (f x.value).value := rfl

@[simp] theorem diagnostics_bind (x : Reported α) (f : α → Reported β) :
    (x >>= f).diagnostics = x.diagnostics ++ (f x.value).diagnostics := rfl

/-- Reports one diagnostic. -/
def report (d : Diagnostic) : Reported Unit := ⟨(), [d]⟩

/-- The items for which `f` gives a value, with what it reports on each. -/
def filterMap (f : α → Reported (Option β)) : List α → Reported (List β)
  | [] => pure []
  | a :: as => do
    let b ← f a
    let bs ← filterMap f as
    return b.toList ++ bs

end Reported
end SearchClient
