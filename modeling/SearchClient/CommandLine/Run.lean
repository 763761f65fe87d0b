import SearchClient.CommandLine.Output

/-! Running commands. A command first reads its configuration, and then the daemon configuration if it needs
    one; how files are read is left to the caller. Commands never talk to the daemon. -/

namespace SearchClient.CommandLine

/-- How a command ended. -/
structure Outcome where
  status : UInt32 := 0
  result : String := ""
  /-- What is printed beside the result: a hint or a failure. -/
  hint : String := ""
  diagnostics : List Diagnostic := []

/-- The outcome of printing something, or of failing to. -/
def Outcome.ofOutput (output : Reported (Except CommandError Output)) : Outcome :=
  let diagnostics := output.diagnostics
  match output.value with
  | .ok output => { result := output.result, hint := output.hint, diagnostics }
  | .error error => { status := 1, hint := error.text, diagnostics }

/-- The daemon configuration that a command reads. -/
def Command.confPath? (config : Config) : Command → Option String
  | .classes conf => conf <|> config.daemon.confPath
  | .plan flags => flags.conf <|> config.daemon.confPath
  | .parse _ | .config _ => none

/-- A configuration that names another daemon configuration, if one is given. -/
def withConf (config : Config) (conf : Option String) : Config :=
  { config with daemon := { config.daemon with confPath := conf <|> config.daemon.confPath } }

/-- The plan of flags, from the outcome of reading the daemon configuration. -/
def planOutput (config : Config) (flags : PlanFlags) (conf : Except FileError String) :
    Reported (Except CommandError Output) :=
  match flags.rawOptions with
  | .error fault => pure (.error (.flag fault))
  | .ok raw => do
    let context ← SearchContext.ofConfig (withConf config flags.conf) conf
    let plan ← Plan.ofRaw context raw
    return (plan.mapError .search).map (·.output flags.output)

/-- What a command prints, from its configuration, the path of that and the outcome of reading the daemon
    configuration. -/
def Command.output (format : Toml.Format) (command : Command) (config : Config) (configPath : String)
    (conf : Except FileError String) : Reported (Except CommandError Output) :=
  match command with
  | .parse query => pure (.ok (parseOutput config query))
  | .classes _ =>
    match command.confPath? config with
    | none => pure (.error .noMappingPath)
    | some path => pure (((ClassMap.ofFile path conf).mapError .search).map classesOutput)
  | .plan flags => planOutput config flags conf
  | .config true => pure (.ok { result := linesText [configPath] })
  | .config false => pure (((config.toText format).mapError .search).map fun text => { result := text })

/-- The failure to find a place for the configuration. -/
def noConfigPlace : CommandError := .search (.config "Could not determine config directory")

variable {m : Type → Type} [Monad m]

/-- Runs a command. Without a path for the configuration it is read from `defaultPath`. -/
def Invocation.run (format : Toml.Format) (readFile : String → m (Except FileError String))
    (defaultPath : Option String) (invocation : Invocation) : m Outcome := do
  match invocation.config <|> defaultPath with
  | none => return .ofOutput (pure (.error noConfigPlace))
  | some configPath =>
    let loaded := Config.ofFile format (← readFile configPath)
    match loaded.value with
    | .error error => return .ofOutput ⟨.error (.search error), loaded.diagnostics⟩
    | .ok config =>
      let conf ← match invocation.command.confPath? config with
        | some path => readFile path
        | none => pure (.error .notFound)
      let output := invocation.command.output format config configPath conf
      return .ofOutput ⟨output.value, loaded.diagnostics ++ output.diagnostics⟩

/-- Leaves out the diagnostics that an invocation does not ask for. -/
def Outcome.reportedFor (outcome : Outcome) (invocation : Invocation) : Outcome :=
  { outcome with diagnostics := outcome.diagnostics.filter fun d => d.isError || !invocation.quiet }

/-- The version of the program. -/
def versionText : String := "ultrasearch 0.1.0\n"

/-- Does what a command line asks for; one that cannot be understood gives no outcome. -/
def run? (format : Toml.Format) (readFile : String → m (Except FileError String)) (defaultPath : Option String)
    (arguments : List String) : m (Option Outcome) :=
  match Intent.ofArguments? arguments with
  | none => return none
  | some .version => return some { result := versionText }
  | some (.run invocation) => do
    let outcome ← invocation.run format readFile defaultPath
    return some (outcome.reportedFor invocation)

end SearchClient.CommandLine
