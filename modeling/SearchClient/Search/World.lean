import SearchClient.Daemon.Host
import SearchClient.Diagnostic

/-! What a search acts on besides its own state: the host, the facet counts that searches share, and the
    diagnostics so far. An action may fail; what it did to the world before stays. -/

namespace SearchClient

/-- Values of a field and the number of matches that have them. -/
abbrev FacetCounts := Dict Nat

/-- What identifies a computation of facet counts. -/
structure FacetKey where
  query : String
  request : Request
  field : String
deriving DecidableEq

/-- Facet counts that have been computed, with the newest first. -/
structure FacetCache where
  entries : List (FacetKey × FacetCounts) := []

namespace FacetCache

def get? (cache : FacetCache) (key : FacetKey) : Option FacetCounts := SortedMap.lookup key cache.entries

/-- Keeps counts under a key, in place of earlier ones. -/
def insert (cache : FacetCache) (key : FacetKey) (counts : FacetCounts) : FacetCache :=
  ⟨(key, counts) :: cache.entries.filter fun e => e.1 != key⟩

def size (cache : FacetCache) : Nat := cache.entries.length

end FacetCache

/-- The world of a search, with the host's state. -/
structure World (σ : Type) where
  host : σ
  cache : FacetCache := {}
  diagnostics : List Diagnostic := []

/-- An action on the world. -/
abbrev Act (σ : Type) := ExceptT SearchError (StateM (World σ))

def World.report {σ : Type} (world : World σ) (ds : List Diagnostic) : World σ :=
  { world with diagnostics := world.diagnostics ++ ds }

namespace Act
variable {σ α : Type}

/-- The action that does what `step` does to the host's state. -/
def onHost (step : σ → Except SearchError α × σ) : Act σ α := fun world =>
  let (outcome, host) := step world.host
  (outcome, { world with host })

/-- The value of a computation, whose diagnostics are reported. -/
def ofReported (x : Reported α) : Act σ α := fun world => (.ok x.value, world.report x.diagnostics)

def report (d : Diagnostic) : Act σ Unit := ofReported (.report d)

end Act
end SearchClient
