/-! What can go wrong in a search, and the text of each failure. -/

namespace SearchClient

/-- Why a file could not be read. -/
inductive FileError where
  | notFound
  /-- A part of the path that has more parts behind it is a file. -/
  | notDirectory
  /-- The path leads to a directory. -/
  | isDirectory
  | nameTooLong
  /-- The path holds a NUL character. -/
  | nameWithNul
  /-- The file does not hold UTF-8 text. -/
  | notText
  | other (text : String)
deriving DecidableEq

namespace FileError

def message : FileError → String
  | .notFound => "No such file or directory (os error 2)"
  | .notDirectory => "Not a directory (os error 20)"
  | .isDirectory => "Is a directory (os error 21)"
  | .nameTooLong => "File name too long (os error 36)"
  | .nameWithNul => "file name contained an unexpected NUL byte"
  | .notText => "stream did not contain valid UTF-8"
  | .other text => text

/-- Whether a failure shows that nothing is at the path. -/
def isAbsence : FileError → Bool
  | .notFound | .notDirectory | .nameTooLong | .nameWithNul => true
  | .isDirectory | .notText | .other _ => false

end FileError

/-- A failure of a search or of its configuration. -/
inductive SearchError where
  /-- The caller asked for something that the search was not configured for. -/
  | usage (reason : String)
  /-- The daemon rejected the translated query. -/
  | query (reason : String)
  /-- The daemon could not be reached. -/
  | transient (reason : String)
  /-- The daemon's reply does not fit the request. -/
  | protocol (reason : String)
  /-- The generated daemon configuration is inconsistent. -/
  | configCorrupted (path reason : String)
  | config (reason : String)
  /-- Records of an entity type could not be resolved. -/
  | resolve (className reason : String)
  | io (error : FileError)
deriving DecidableEq

namespace SearchError

def message : SearchError → String
  | .usage reason => "usage error: " ++ reason
  | .query reason => "query rejected by daemon: " ++ reason
  | .transient reason => "daemon unavailable: " ++ reason
  | .protocol reason => "protocol error: " ++ reason
  | .configCorrupted path reason => "daemon configuration at " ++ path ++ " is corrupted: " ++ reason
  | .config reason => "configuration error: " ++ reason
  | .resolve className reason => "failed to resolve " ++ className ++ " records: " ++ reason
  | .io error => "I/O error: " ++ error.message

/-- Only a daemon that could not be reached is worth asking again. -/
def isTransient : SearchError → Bool
  | .transient _ => true
  | _ => false

/-- Whether the caller asked for something invalid. -/
def isCallerError : SearchError → Bool
  | .usage _ | .query _ => true
  | _ => false

/-! ### Usage errors -/

def unknownSortMode (name : String) : SearchError := .usage ("unknown sort mode: " ++ name)

def noFacetField : SearchError := .usage "no facet field was configured"

def facetNotRequested (field : String) : SearchError :=
  .usage ("facet field '" ++ field ++ "' was not requested")

def subtotalsDisabled : SearchError := .usage "subtotals are not enabled"

/-! ### Replies that do not fit -/

def noFacetCounts (field : String) : SearchError := .protocol ("no counts computed for facet '" ++ field ++ "'")

def excerptCount (returned texts : Nat) : SearchError :=
  .protocol (toString returned ++ " excerpts returned for " ++ toString texts ++ " texts")

def recordCount (className : String) (returned keys : Nat) : SearchError :=
  .resolve className (toString returned ++ " records returned for " ++ toString keys ++ " keys")

end SearchError
end SearchClient
