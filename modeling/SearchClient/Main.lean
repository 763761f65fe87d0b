import SearchClient.CommandLine.Run

/-! The command line program: shows offline how queries are translated, which class ids are mapped and which
    request a search would send. -/

namespace SearchClient.CommandLine

/-- The text of a file. A path that leads to no file fails when the file is opened, a directory when it is
    read, and only the former failure names the path. -/
def readText (path : String) : IO (Except FileError String) := do
  if path.toList.any (·.toNat == 0) then return .error .nameWithNul
  try
    let bytes ← IO.FS.readBinFile path
    return (String.fromUTF8? bytes).elim (.error .notText) .ok
  catch error =>
    match error with
    | .noFileOrDirectory .. => return .error .notFound
    | .inappropriateType (some _) .. => return .error .notDirectory
    | .inappropriateType none .. => return .error .isDirectory
    | .invalidArgument .. => return .error .nameTooLong
    | other => return .error (.other (toString other))

/-- Where the configuration is read from by default. -/
def defaultConfigPath : IO (Option String) := do
  let place ← match ← IO.getEnv "XDG_CONFIG_HOME" with
    | some dir =>
      if dir.startsWith "/" then pure (some dir) else pure ((← IO.getEnv "HOME").map (· ++ "/.config"))
    | none => pure ((← IO.getEnv "HOME").map (· ++ "/.config"))
  return place.map (· ++ "/ultrasearch/ultrasearch.toml")

/-- A diagnostic on one line. -/
def diagnosticLine (d : Diagnostic) : String :=
  let fields := d.fields.map fun (name, value) => " " ++ name ++ "=" ++ value.compact
  (if d.isError then "ERROR " else "WARN ") ++ d.message ++ String.join fields

def usage : String :=
  "Usage: ultrasearch [-c FILE] [-v] [-q] parse QUERY | classes [--conf FILE] | plan [FLAGS] | config [-p]"

end SearchClient.CommandLine

open SearchClient.CommandLine in
def main (args : List String) : IO UInt32 := do
  match ← run? .standard readText (← defaultConfigPath) args with
  | none =>
    IO.eprintln usage
    return 2
  | some outcome =>
    outcome.diagnostics.forM fun d => IO.eprintln (diagnosticLine d)
    IO.print outcome.result
    IO.eprint outcome.hint
    return outcome.status
