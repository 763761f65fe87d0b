import SearchClient.Config.Basic
import SearchClient.Daemon.Response
import SearchClient.Request.Basic

/-! The collaborators that a host supplies: the connection to the daemon and the store of records. They are
    functions on a state of the host, so that their answers may differ from call to call. -/

namespace SearchClient

/-- The texts of one call that builds excerpts, and how to mark matches in them. -/
structure ExcerptCall where
  texts : List String
  index : String
  query : String
  options : HighlightOptions
deriving DecidableEq

/-- The outcome of looking up records by key: one slot for each key, in order, unless the host errs. -/
abbrev Lookup (E : Type) := Except String (List (Option E))

/-- A host with states in `σ` and records in `E`. -/
structure Host (σ E : Type) where
  /-- One round trip with a query in the daemon's syntax. -/
  query : Request → String → σ → Except SearchError Response × σ
  /-- One round trip that marks matches in texts, one excerpt for each text. -/
  buildExcerpts : ExcerptCall → σ → Except SearchError (List String) × σ
  /-- Records of an entity type from a cache, if the host has one for that type. -/
  resolveCached : String → List Nat → σ → Option (Lookup E) × σ
  /-- Records of an entity type. -/
  resolve : String → List Nat → σ → Lookup E × σ
  /-- The content of a field of a record, if it has the field. -/
  field? : E → String → Option String

/-! ### Transcripts -/

/-- A call that reached the host. -/
inductive Call where
  | query (request : Request) (text : String)
  | buildExcerpts (call : ExcerptCall)
  | resolve (className : String) (keys : List Nat) (cached : Bool)
deriving DecidableEq

namespace Host
variable {σ E : Type}

/-- The host that keeps a transcript of its calls beside its state. A look-up in a cache that the host does
    not have is no call. -/
def recorded (host : Host σ E) : Host (σ × List Call) E where
  query request text s :=
    let (reply, state) := host.query request text s.1
    (reply, state, s.2 ++ [.query request text])
  buildExcerpts call s :=
    let (reply, state) := host.buildExcerpts call s.1
    (reply, state, s.2 ++ [.buildExcerpts call])
  resolveCached className keys s :=
    let (reply, state) := host.resolveCached className keys s.1
    (reply, state, if reply.isSome then s.2 ++ [.resolve className keys true] else s.2)
  resolve className keys s :=
    let (reply, state) := host.resolve className keys s.1
    (reply, state, s.2 ++ [.resolve className keys false])
  field? := host.field?

end Host
end SearchClient
